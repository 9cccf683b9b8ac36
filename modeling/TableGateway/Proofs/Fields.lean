import TableGateway.Fields
import Mathlib.Data.List.Nodup

/-!
# Fields as maps

A list of entries in key order is a map from names to values, and reading a list of entries into
one keeps the last value of every name.

* `find?_insert`, `find?_ofList` — what is found after writing.
* `find?_eq_some` — where no name is repeated, what is found are the entries.
* `find?_ofList_eq_some` — where names are repeated, what is found is the last entry of the name.
* `Ascending.ext` — entries in key order are determined by what is found in them.
* `ofList_of_ascending` — entries that are in key order already are kept as they are.
* `ofList_perm`, `ofList_eq_of_perm` — where no name is repeated all entries are kept, and their order
  does not matter.
-/

namespace TableGateway.Fields

variable {α : Type} {name : String} {value : α} {fields : List (String × α)}

/-! ## Finding what was written -/

/-- An inserted field is found by its name, and the others as before. -/
theorem find?_insert (name other : String) (value : α) (fields : List (String × α)) :
    find? other (insert name value fields) =
      if name = other then some value else find? other fields := by
  induction fields with
  | nil => rfl
  | cons f rest ih =>
    obtain ⟨n, v⟩ := f
    rw [insert]
    split
    · rfl
    · split
      · rename_i heq
        subst heq
        by_cases hother : name = other
        · simp [find?, hother]
        · simp [find?, hother]
      · rename_i hne
        rw [find?, ih, find?]
        by_cases hn : n = other
        · subst hn
          simp [hne]
        · simp [hn]

/-- Of two lists the first is searched first. -/
lemma find?_append (name : String) (fields others : List (String × α)) :
    find? name (fields ++ others) = (find? name fields).or (find? name others) := by
  induction fields with
  | nil => rfl
  | cons f rest ih =>
    obtain ⟨n, v⟩ := f
    by_cases hn : n = name
    · simp [find?, hn]
    · simp [find?, hn, ih]

/-- A field's value is found before it is mapped. -/
lemma find?_map {β : Type} (f : α → β) (name : String) (fields : List (String × α)) :
    find? name (fields.map fun e => (e.1, f e.2)) = (find? name fields).map f := by
  induction fields with
  | nil => rfl
  | cons e rest ih =>
    by_cases he : e.1 = name
    · simp [find?, he]
    · simp [find?, he, ih]

/-- Of several values for a name the last one is kept. -/
theorem find?_ofList (name : String) (entries : List (String × α)) :
    find? name (ofList entries) = find? name entries.reverse := by
  suffices h : ∀ acc : List (String × α),
      find? name (entries.foldl (fun acc e => insert e.1 e.2 acc) acc) =
        (find? name entries.reverse).or (find? name acc) from
    (h []).trans Option.or_none
  induction entries with
  | nil => exact fun acc => rfl
  | cons e rest ih =>
    intro acc
    rw [List.foldl_cons, ih, find?_insert, List.reverse_cons, find?_append, Option.or_assoc]
    by_cases he : e.1 = name
    · simp [find?, he]
    · simp [find?, he]

/-! ## Entries -/

/-- A name is not found exactly if no field has it. -/
lemma find?_eq_none : find? name fields = none ↔ name ∉ fields.map (·.1) := by
  induction fields with
  | nil => simp [find?]
  | cons f rest ih =>
    by_cases hn : f.1 = name
    · simp [find?, hn]
    · simp [find?, hn, ih, Ne.symm hn]

/-- Where no name is repeated, the value of a name is the one it is entered with. -/
theorem find?_eq_some (h : (fields.map (·.1)).Nodup) :
    find? name fields = some value ↔ (name, value) ∈ fields := by
  induction fields with
  | nil => simp [find?]
  | cons f rest ih =>
    obtain ⟨n, v⟩ := f
    obtain ⟨hn, hrest⟩ := List.nodup_cons.mp h
    rw [find?, List.mem_cons]
    split
    · rename_i heq
      subst heq
      have habsent : (n, value) ∉ rest := fun hmem => hn (List.mem_map_of_mem (f := (·.1)) hmem)
      simp [habsent, eq_comm]
    · rename_i hne
      simp [ih hrest, Ne.symm hne]

/-- Where no name is repeated, the order of the entries does not matter. -/
lemma find?_reverse (h : (fields.map (·.1)).Nodup) (name : String) :
    find? name fields.reverse = find? name fields := by
  have hreverse : (fields.reverse.map (·.1)).Nodup := by
    rw [List.map_reverse]
    exact List.nodup_reverse.mpr h
  refine Option.ext fun value => ?_
  rw [find?_eq_some hreverse, find?_eq_some h, List.mem_reverse]

/-- What is found is the first entry of the name. -/
lemma find?_eq_some_iff_append :
    find? name fields = some value ↔
      ∃ before after, fields = before ++ (name, value) :: after ∧ name ∉ before.map (·.1) := by
  constructor
  · intro h
    induction fields with
    | nil => simp [find?] at h
    | cons f rest ih =>
      obtain ⟨n, v⟩ := f
      rw [find?] at h
      split at h
      · rename_i heq
        subst heq
        obtain rfl := Option.some.inj h
        exact ⟨[], rest, rfl, by simp⟩
      · rename_i hne
        obtain ⟨before, after, rfl, hbefore⟩ := ih h
        refine ⟨(n, v) :: before, after, rfl, ?_⟩
        rw [List.map_cons, List.mem_cons]
        exact not_or.mpr ⟨Ne.symm hne, hbefore⟩
  · rintro ⟨before, after, rfl, hbefore⟩
    rw [find?_append, find?_eq_none.mpr hbefore, Option.none_or, find?, if_pos rfl]

/-- Of several entries of a name the last one is found. -/
theorem find?_ofList_eq_some {entries : List (String × α)} :
    find? name (ofList entries) = some value ↔
      ∃ before after, entries = before ++ (name, value) :: after ∧ name ∉ after.map (·.1) := by
  rw [find?_ofList, find?_eq_some_iff_append]
  constructor
  · rintro ⟨before, after, h, hbefore⟩
    refine ⟨after.reverse, before.reverse, ?_, by simpa using hbefore⟩
    simpa using congrArg List.reverse h
  · rintro ⟨before, after, rfl, hafter⟩
    exact ⟨after.reverse, before.reverse, by simp, by simpa using hafter⟩

/-- The names of a record are those of the entries it is made from. -/
lemma mem_names_ofList {entries : List (String × α)} :
    name ∈ (ofList entries).map (·.1) ↔ name ∈ entries.map (·.1) := by
  rw [← not_iff_not, ← find?_eq_none, find?_ofList, find?_eq_none, List.map_reverse,
    List.mem_reverse]

/-! ## Key order -/

namespace Ascending

/-- Names in ascending order are distinct. -/
lemma nodup (h : Ascending fields) : (fields.map (·.1)).Nodup :=
  List.pairwise_map.mpr (h.imp String.ne_of_lt)

/-- There is one ascending order of fields. -/
lemma eq_of_perm {others : List (String × α)} (h : Ascending fields)
    (hothers : Ascending others) (hperm : fields.Perm others) : fields = others := by
  refine hperm.eq_of_pairwise (fun a b _ _ hab hba => ?_) h hothers
  exact absurd (String.lt_trans hab hba) (String.lt_irrefl _)

/-- Entries in key order are a map: they are determined by what is found under each name. -/
theorem ext {others : List (String × α)} (h : Ascending fields) (hothers : Ascending others)
    (hfind : ∀ name, find? name fields = find? name others) : fields = others := by
  have hmem (e : String × α) : e ∈ fields ↔ e ∈ others := by
    rw [← find?_eq_some h.nodup, ← find?_eq_some hothers.nodup, hfind]
  exact h.eq_of_perm hothers
    ((List.perm_ext_iff_of_nodup h.nodup.of_map hothers.nodup.of_map).mpr hmem)

end Ascending

/-- Fields in ascending order are left as they are. -/
theorem ofList_of_ascending (h : Ascending fields) : ofList fields = fields :=
  (ascending_ofList fields).ext h fun name => by rw [find?_ofList, find?_reverse h.nodup]

/-- Of entries with distinct names none is lost. -/
theorem ofList_perm {entries : List (String × α)} (h : (entries.map (·.1)).Nodup) :
    (ofList entries).Perm entries := by
  have hnodup := (ascending_ofList entries).nodup
  refine (List.perm_ext_iff_of_nodup hnodup.of_map h.of_map).mpr fun e => ?_
  rw [← find?_eq_some hnodup, find?_ofList, find?_reverse h, find?_eq_some h]

/-- The order of entries with distinct names makes no difference. -/
theorem ofList_eq_of_perm {entries others : List (String × α)}
    (h : (entries.map (·.1)).Nodup) (hperm : others.Perm entries) :
    ofList others = ofList entries := by
  have hothers : (others.map (·.1)).Nodup := (hperm.map _).nodup_iff.mpr h
  refine (ascending_ofList others).eq_of_perm (ascending_ofList entries) ?_
  exact (ofList_perm hothers).trans (hperm.trans (ofList_perm h).symm)

end TableGateway.Fields
