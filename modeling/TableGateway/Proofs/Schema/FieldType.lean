import Mathlib.Tactic.Lemma
import TableGateway.Schema.FieldType

/-!
# Names of field types

A name is looked up without regard to ASCII case.  What a type is called canonically is one of its
own names, and no name belongs to two types, so that naming a type and looking the name up again
leads nowhere else.

* `FieldType.ofName_of_mem`, `ofName_of_unknown` — what the type of a name is, by the table.
* **`FieldType.ofName_name_ofName`** — looking a name up normalises it.
-/

namespace TableGateway.FieldType

/-- No name belongs to two types. -/
lemma find?_names : ∀ entry ∈ names, ∀ word ∈ entry.2,
    names.find? (fun e => e.2.contains word) = some entry := by
  decide

/-- A type is found under its canonical name. -/
lemma ofName_name_of_mem : ∀ entry ∈ names, ofName entry.1.name = entry.1 := by
  decide

variable {s : String}

/-- Any name of a type has the type, whatever the case of its letters. -/
theorem ofName_of_mem {entry : FieldType × List String} (hentry : entry ∈ names)
    (hs : lowered s ∈ entry.2) : ofName s = entry.1 := by
  rw [ofName, find?_names entry hentry _ hs]

/-- A name that the table does not have is kept as it is written. -/
theorem ofName_of_unknown (h : ∀ entry ∈ names, lowered s ∉ entry.2) : ofName s = .other s := by
  have hnone : names.find? (fun entry => entry.2.contains (lowered s)) = none := by
    simpa using h
  rw [ofName, hnone]

/-- A name is one of a type, or its own type. -/
lemma ofName_cases (s : String) :
    (∃ entry ∈ names, lowered s ∈ entry.2 ∧ ofName s = entry.1) ∨ ofName s = .other s := by
  by_cases h : ∃ entry ∈ names, lowered s ∈ entry.2
  · obtain ⟨entry, hentry, hs⟩ := h
    exact .inl ⟨entry, hentry, hs, ofName_of_mem hentry hs⟩
  · exact .inr (ofName_of_unknown fun entry hentry hs => h ⟨entry, hentry, hs⟩)

/-- The canonical name of a name's type has that type again. -/
theorem ofName_name_ofName (s : String) : ofName (ofName s).name = ofName s := by
  obtain ⟨entry, hentry, -, htype⟩ | hother := ofName_cases s
  · rw [htype]
    exact ofName_name_of_mem entry hentry
  · rw [hother, name, hother]

end TableGateway.FieldType
