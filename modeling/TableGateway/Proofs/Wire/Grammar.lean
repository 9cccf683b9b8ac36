import TableGateway.Proofs.Wire.Decoding

/-!
# The grammar of wire criteria

Which documents are criteria, and which of several faults is reported, both said without the
decoder.

* `operatorNames`, `EntryFormed`, `BranchFormed`, `Formed` — the grammar.
* `EntryFault`, `BranchFault`, `FaultAt` — every fault of a document, each at its place: the
  positions that lead to it from the outside in, so that the lexicographic order of places is
  depth first and as written.
* `Judges` — a reading succeeds on what is well-formed, and reports the first fault of all else.
  `judges_sequence` carries it from the items of a list to the list.
* **`criteriaOf_judges`** — the decoder accepts exactly the grammar and reports the first fault.
-/

namespace TableGateway.Wire

/-! ## The grammar -/

/-- The words that may stand after the mark of a key. -/
def operatorNames : List String := ["eq", "ne", "gt", "lt", "gte", "lte", "like"]

mutual

/-- An entry is a comparison with a scalar, by one of the seven operators if any is named, or a
group of branches. -/
inductive EntryFormed : String → Json → Prop where
  | comparison {key : String} {value : Json} (hkey : groupOf? key = none)
      (hoperator : ∀ name, key = fieldOf key ++ "!" ++ name → name ∈ operatorNames)
      (hfield : fieldOf key ≠ "") (hvalue : value.isContainer = false) : EntryFormed key value
  | group {key : String} {kind : Combinator} {branches : List Json}
      (hkey : groupOf? key = some kind) (hne : branches ≠ [])
      (h : ∀ branch ∈ branches, BranchFormed branch) : EntryFormed key (.array branches)

/-- A branch is an object with entries. -/
inductive BranchFormed : Json → Prop where
  | object {entries : List (String × Json)} (hne : entries ≠ [])
      (h : ∀ e ∈ entries, EntryFormed e.1 e.2) : BranchFormed (.object entries)

end

/-- Criteria are an object of entries. -/
def Formed (j : Json) : Prop :=
  ∃ entries, j = .object entries ∧ ∀ e ∈ entries, EntryFormed e.1 e.2

/-! ## Faults and their places

The three faults of one comparison have places of their own, in the order in which they count.
-/

/-- The positions that lead to a part of a document, from the outside in. -/
abbrev Place := List Nat

mutual

/-- An entry has a fault at a place in it. -/
inductive EntryFault : String → Json → Place → WireError → Prop where
  | unknownOperator {key name : String} {value : Json} (hkey : groupOf? key = none)
      (hname : key = fieldOf key ++ "!" ++ name) (h : name ∉ operatorNames) :
      EntryFault key value [0] (.unknownOperator name)
  | emptyField {key : String} {value : Json} (hkey : groupOf? key = none)
      (h : fieldOf key = "") : EntryFault key value [1] (.emptyField key)
  | nonScalar {key : String} {value : Json} (hkey : groupOf? key = none)
      (h : value.isContainer = true) : EntryFault key value [2] (.nonScalar (fieldOf key))
  | noBranches {key : String} {kind : Combinator} {value : Json}
      (hkey : groupOf? key = some kind) (h : ∀ branches, value = .array branches → branches = []) :
      EntryFault key value [] (.badGroup key)
  | branch {key : String} {kind : Combinator} {branches : List Json} {i : Nat} {branch : Json}
      {place : Place} {e : WireError} (hkey : groupOf? key = some kind)
      (hi : branches[i]? = some branch) (h : BranchFault key branch place e) :
      EntryFault key (.array branches) (i :: place) e

/-- A branch of a group has a fault at a place in it. -/
inductive BranchFault : String → Json → Place → WireError → Prop where
  | noObject {key : String} {branch : Json} (h : ∀ entries, branch ≠ .object entries) :
      BranchFault key branch [] (.badGroup key)
  | noEntries {key : String} : BranchFault key (.object []) [] (.emptyBranch key)
  | entry {key : String} {entries : List (String × Json)} {i : Nat} {entry : String × Json}
      {place : Place} {e : WireError} (hi : entries[i]? = some entry)
      (h : EntryFault entry.1 entry.2 place e) : BranchFault key (.object entries) (i :: place) e

end

/-- A document has a fault at a place. -/
inductive FaultAt : Json → Place → WireError → Prop where
  | noObject {j : Json} (h : ∀ entries, j ≠ .object entries) :
      FaultAt j [] (.notAnObject "criteria")
  | entry {entries : List (String × Json)} {i : Nat} {entry : String × Json} {place : Place}
      {e : WireError} (hi : entries[i]? = some entry) (h : EntryFault entry.1 entry.2 place e) :
      FaultAt (.object entries) (i :: place) e

/-- Of all faults this is the first: every other one is at a later place. -/
def IsFirst (fault : Place → WireError → Prop) (e : WireError) : Prop :=
  ∃ place, fault place e ∧
    ∀ place' e', fault place' e' → place' = place ∧ e' = e ∨ place < place'

/-- There is one first fault. -/
lemma IsFirst.unique {fault : Place → WireError → Prop} {e e' : WireError}
    (h : IsFirst fault e) (h' : IsFirst fault e') : e = e' := by
  obtain ⟨p, hp, hfirst⟩ := h
  obtain ⟨p', hp', hfirst'⟩ := h'
  obtain ⟨-, he⟩ | hlt := hfirst p' e' hp'
  · exact he.symm
  · obtain ⟨-, he⟩ | hlt' := hfirst' p e hp
    · exact he
    · exact absurd hlt' (List.lt_asymm hlt)

/-! ## Readings that report the first fault -/

/-- A reading succeeds on what is well-formed and without faults, and else reports the first
fault. -/
def Judges {α : Type} (formed : Prop) (fault : Place → WireError → Prop) :
    Except WireError α → Prop
  | .ok _ => formed ∧ ∀ place e, ¬ fault place e
  | .error e => ¬ formed ∧ IsFirst fault e

namespace Judges

variable {α β : Type} {formed : Prop} {fault : Place → WireError → Prop} {x : Except WireError α}

/-- What is judged succeeds exactly if it is well-formed. -/
lemma exists_ok (h : Judges formed fault x) : (∃ a, x = .ok a) ↔ formed := by
  cases x with
  | ok a => simpa using h.1
  | error e => simpa using h.1

/-- What is judged fails exactly with the first fault. -/
lemma eq_error (h : Judges formed fault x) (e : WireError) :
    x = .error e ↔ IsFirst fault e := by
  cases x with
  | ok a =>
    refine iff_of_false (by simp) ?_
    rintro ⟨place, hfault, -⟩
    exact h.2 place e hfault
  | error e' =>
    rw [Except.error.injEq]
    exact ⟨fun he => he ▸ h.2, h.2.unique⟩

/-- A judgement carries over to an equal grammar. -/
lemma congr {formed' : Prop} {fault' : Place → WireError → Prop} (h : Judges formed fault x)
    (hformed : formed' ↔ formed) (hfault : ∀ place e, fault' place e ↔ fault place e) :
    Judges formed' fault' x := by
  obtain rfl : fault' = fault := funext fun place => funext fun e => propext (hfault place e)
  obtain rfl : formed' = formed := propext hformed
  exact h

/-- What goes on without fault does not change what is reported. -/
lemma bind {f : α → Except WireError β} (h : Judges formed fault x)
    (hf : ∀ a, x = .ok a → ∃ b, f a = .ok b) : Judges formed fault (x >>= f) := by
  cases x with
  | ok a =>
    obtain ⟨b, hb⟩ := hf a rfl
    change Judges formed fault (f a)
    rw [hb]
    exact h
  | error e => exact h

/-- What has a fault of its own has no other. -/
lemma refused {e : WireError} (hformed : ¬ formed)
    (hfault : ∀ place e', fault place e' ↔ place = [] ∧ e' = e) :
    Judges formed fault (.error e : Except WireError α) :=
  ⟨hformed, [], (hfault [] e).mpr ⟨rfl, rfl⟩, fun place e' h => .inl ((hfault place e').mp h)⟩

end Judges

/-! ### Items of a list -/

section

variable {α β : Type} {fault : α → Place → WireError → Prop} {a : α} {rest : List α} {place : Place}
  {e : WireError}

/-- An item of a list has a fault at the place that its position leads to. -/
def ItemFault (fault : α → Place → WireError → Prop) (as : List α) (place : Place)
    (e : WireError) : Prop :=
  ∃ i a inner, as[i]? = some a ∧ place = i :: inner ∧ fault a inner e

/-- A fault of a list is in its first item or further on. -/
lemma itemFault_cons : ItemFault fault (a :: rest) place e ↔
    (∃ inner, place = 0 :: inner ∧ fault a inner e) ∨
    ∃ i inner, place = (i + 1) :: inner ∧ ItemFault fault rest (i :: inner) e := by
  constructor
  · rintro ⟨i, b, inner, hi, rfl, hb⟩
    cases i with
    | zero =>
      obtain rfl := Option.some.inj hi
      exact .inl ⟨inner, rfl, hb⟩
    | succ i => exact .inr ⟨i, inner, rfl, i, b, inner, hi, rfl, hb⟩
  · rintro (⟨inner, rfl, ha⟩ | ⟨i, inner, rfl, j, b, inner', hj, hplace, hb⟩)
    · exact ⟨0, a, inner, rfl, rfl, ha⟩
    · obtain ⟨rfl, rfl⟩ := List.cons.inj hplace
      exact ⟨i + 1, b, inner, hj, rfl, hb⟩

/-- A fault of the first item is before those of the others. -/
lemma IsFirst.head (h : IsFirst (fault a) e) : IsFirst (ItemFault fault (a :: rest)) e := by
  obtain ⟨inner, hfault, hfirst⟩ := h
  refine ⟨0 :: inner, itemFault_cons.mpr (.inl ⟨inner, rfl, hfault⟩), fun place' e' h' => ?_⟩
  obtain ⟨inner', rfl, ha⟩ | ⟨i, inner', rfl, -⟩ := itemFault_cons.mp h'
  · obtain ⟨rfl, rfl⟩ | hlt := hfirst inner' e' ha
    · exact .inl ⟨rfl, rfl⟩
    · exact .inr (List.cons_lt_cons_iff.mpr (.inr ⟨rfl, hlt⟩))
  · exact .inr (List.cons_lt_cons_iff.mpr (.inl i.succ_pos))

/-- Where the first item has no fault, the first one is that of the others. -/
lemma IsFirst.tail (ha : ∀ inner e, ¬ fault a inner e) (h : IsFirst (ItemFault fault rest) e) :
    IsFirst (ItemFault fault (a :: rest)) e := by
  obtain ⟨_, ⟨i, b, inner, hi, rfl, hb⟩, hfirst⟩ := h
  refine ⟨(i + 1) :: inner, ⟨i + 1, b, inner, hi, rfl, hb⟩, fun place' e' h' => ?_⟩
  obtain ⟨inner', -, hfault⟩ | ⟨j, inner', rfl, hrest⟩ := itemFault_cons.mp h'
  · exact absurd hfault (ha inner' e')
  · obtain ⟨hplace, rfl⟩ | hlt := hfirst (j :: inner') e' hrest
    · obtain ⟨rfl, rfl⟩ := List.cons.inj hplace
      exact .inl ⟨rfl, rfl⟩
    · refine .inr (List.cons_lt_cons_iff.mpr ?_)
      simpa using List.cons_lt_cons_iff.mp hlt

/-- Readings of the items of a list, one after the other, report the first fault of all items. -/
theorem judges_sequence (step : α → Except WireError β)
    (steps : List α → Except WireError (List β)) (hnil : steps [] = .ok [])
    (hcons : ∀ a rest, steps (a :: rest) = do
      let b ← step a
      let others ← steps rest
      .ok (b :: others))
    {formed : α → Prop} {as : List α} (h : ∀ a ∈ as, Judges (formed a) (fault a) (step a)) :
    Judges (∀ a ∈ as, formed a) (ItemFault fault as) (steps as) := by
  induction as with
  | nil =>
    rw [hnil]
    exact ⟨by simp, by simp [ItemFault]⟩
  | cons a rest ih =>
    obtain ⟨ha, hrest⟩ := List.forall_mem_cons.mp h
    rw [hcons, List.forall_mem_cons]
    cases hstep : step a with
    | error e =>
      rw [hstep] at ha
      exact ⟨fun hformed => ha.1 hformed.1, ha.2.head⟩
    | ok b =>
      rw [hstep] at ha
      have hothers := ih hrest
      cases hsteps : steps rest with
      | error e =>
        rw [hsteps] at hothers
        exact ⟨fun hformed => hothers.1 hformed.2, hothers.2.tail ha.2⟩
      | ok others =>
        rw [hsteps] at hothers
        refine ⟨⟨ha.1, hothers.1⟩, fun place e hfault => ?_⟩
        obtain ⟨inner, -, hfault⟩ | ⟨i, inner, -, hfault⟩ := itemFault_cons.mp hfault
        · exact ha.2 inner e hfault
        · exact hothers.2 _ e hfault

end

/-! ## The decoder -/

variable {key : String} {value : Json}

/-- Each of the seven words names an operator, and every operator is named by one of them. -/
lemma mem_operatorNames {name : String} :
    name ∈ operatorNames ↔ ∃ op : Operator, op.name = name := by
  constructor
  · intro h
    simp only [operatorNames, List.mem_cons, List.not_mem_nil, or_false] at h
    obtain rfl | rfl | rfl | rfl | rfl | rfl | rfl := h
    exacts [⟨.eq, rfl⟩, ⟨.ne, rfl⟩, ⟨.gt, rfl⟩, ⟨.lt, rfl⟩, ⟨.gte, rfl⟩, ⟨.lte, rfl⟩, ⟨.like, rfl⟩]
  · rintro ⟨op, rfl⟩
    cases op <;> decide

/-- A word that is no name of an operator is one that is not found. -/
lemma ofName?_eq_none {name : String} :
    Operator.ofName? name = none ↔ name ∉ operatorNames := by
  rw [mem_operatorNames]
  constructor
  · rintro h ⟨op, rfl⟩
    rw [Operator.ofName?_name] at h
    contradiction
  · intro h
    cases hname : Operator.ofName? name with
    | none => rfl
    | some op => exact absurd ⟨op, Operator.name_of_ofName? hname⟩ h

/-- The operator of a key is a fault if one is named that does not exist, and otherwise is read. -/
lemma operatorOf_cases (key : String) :
    (∃ name, splitKey key = (fieldOf key, some name) ∧ key = fieldOf key ++ "!" ++ name ∧
      operatorOf (some name) = .error (.unknownOperator name) ∧ name ∉ operatorNames) ∨
    ∃ part op, splitKey key = (fieldOf key, part) ∧ operatorOf part = .ok op ∧
      ∀ name, key = fieldOf key ++ "!" ++ name → name ∈ operatorNames := by
  obtain ⟨hnone, hmark⟩ | ⟨name, hsome, hkey⟩ := splitKey_cases key
  · refine .inr ⟨none, .default, hnone, rfl, fun name hname => absurd ?_ hmark⟩
    rw [hname]
    simp
  · cases hname : Operator.ofName? name with
    | none =>
      exact .inl ⟨name, hsome, hkey, by rw [operatorOf, hname], ofName?_eq_none.mp hname⟩
    | some op =>
      refine .inr ⟨some name, op, hsome, by rw [operatorOf, hname], fun name' hname' =>
        mem_operatorNames.mpr ⟨op, ?_⟩⟩
      rw [Operator.name_of_ofName? hname]
      exact (String.append_right_inj _).mp (hkey.symm.trans hname')

/-- A comparison is well-formed in its operator, its field and its value. -/
lemma entryFormed_of_none (hkey : groupOf? key = none) :
    EntryFormed key value ↔
      (∀ name, key = fieldOf key ++ "!" ++ name → name ∈ operatorNames) ∧
      fieldOf key ≠ "" ∧ value.isContainer = false := by
  constructor
  · rintro (⟨-, hoperator, hfield, hvalue⟩ | ⟨hkind, -, -⟩)
    · exact ⟨hoperator, hfield, hvalue⟩
    · simp [hkey] at hkind
  · rintro ⟨hoperator, hfield, hvalue⟩
    exact .comparison hkey hoperator hfield hvalue

/-- The three faults of a comparison. -/
lemma entryFault_of_none (hkey : groupOf? key = none) {place : Place} {e : WireError} :
    EntryFault key value place e ↔
      (∃ name, place = [0] ∧ e = .unknownOperator name ∧ key = fieldOf key ++ "!" ++ name ∧
        name ∉ operatorNames) ∨
      (place = [1] ∧ e = .emptyField key ∧ fieldOf key = "") ∨
      (place = [2] ∧ e = .nonScalar (fieldOf key) ∧ value.isContainer = true) := by
  constructor
  · intro h
    cases h with
    | unknownOperator _ hname h => exact .inl ⟨_, rfl, rfl, hname, h⟩
    | emptyField _ h => exact .inr (.inl ⟨rfl, rfl, h⟩)
    | nonScalar _ h => exact .inr (.inr ⟨rfl, rfl, h⟩)
    | noBranches hkind _ => simp [hkey] at hkind
    | branch hkind _ _ => simp [hkey] at hkind
  · rintro (⟨name, rfl, rfl, hname, h⟩ | ⟨rfl, rfl, h⟩ | ⟨rfl, rfl, h⟩)
    · exact .unknownOperator hkey hname h
    · exact .emptyField hkey h
    · exact .nonScalar hkey h

/-- Of the faults of a comparison, an unknown operator counts before a missing field, and that
before a value that is no scalar. -/
lemma judges_comparisonOf (hkey : groupOf? key = none) :
    Judges (EntryFormed key value) (EntryFault key value) (comparisonOf key value) := by
  have hlt₀₁ : ([0] : Place) < [1] := by decide
  have hlt₀₂ : ([0] : Place) < [2] := by decide
  have hlt₁₂ : ([1] : Place) < [2] := by decide
  refine Judges.congr ?_ (entryFormed_of_none hkey) fun _ _ => entryFault_of_none hkey
  rw [comparisonOf]
  obtain ⟨name, hsplit, hname, hop, hunknown⟩ | ⟨part, op, hsplit, hop, hknown⟩ :=
    operatorOf_cases key
  · simp only [hsplit, hop]
    refine ⟨fun hformed => ?_, [0], .inl ⟨name, rfl, rfl, hname, hunknown⟩, ?_⟩
    · exact hunknown (hformed.1 name hname)
    · rintro place e (⟨name', rfl, rfl, hname', -⟩ | ⟨rfl, -, -⟩ | ⟨rfl, -, -⟩)
      · rw [(String.append_right_inj _).mp (hname'.symm.trans hname)]
        exact .inl ⟨rfl, rfl⟩
      · exact .inr hlt₀₁
      · exact .inr hlt₀₂
  · have hnone {place : Place} {e : WireError} : ¬ ∃ name, place = [0] ∧
        e = .unknownOperator name ∧ key = fieldOf key ++ "!" ++ name ∧
        name ∉ operatorNames := by
      rintro ⟨name, -, -, hname, hunknown⟩
      exact hunknown (hknown name hname)
    simp only [hsplit, hop, hnone, false_or]
    change Judges _ _ (if fieldOf key = "" then _ else _)
    split
    · rename_i hfield
      refine ⟨fun hformed => hformed.2.1 hfield, [1], .inl ⟨rfl, rfl, hfield⟩, ?_⟩
      rintro place e (⟨rfl, rfl, -⟩ | ⟨rfl, -, -⟩)
      · exact .inl ⟨rfl, rfl⟩
      · exact .inr hlt₁₂
    · rename_i hfield
      split
      · rename_i hvalue
        refine ⟨fun hformed => by simp [hformed.2.2] at hvalue, [2], .inr ⟨rfl, rfl, hvalue⟩, ?_⟩
        rintro place e (⟨-, -, h⟩ | ⟨rfl, rfl, -⟩)
        · exact absurd h hfield
        · exact .inl ⟨rfl, rfl⟩
      · rename_i hvalue
        exact ⟨⟨hknown, hfield, by simpa using hvalue⟩, by simp [hfield, hvalue]⟩

/-- A group is well-formed if it is a list of well-formed branches that is not empty. -/
lemma entryFormed_of_some {kind : Combinator} (hkey : groupOf? key = some kind) :
    EntryFormed key value ↔
      ∃ branches, value = .array branches ∧ branches ≠ [] ∧ ∀ b ∈ branches, BranchFormed b := by
  constructor
  · rintro (⟨hnone, -, -, -⟩ | ⟨-, hne, h⟩)
    · simp [hkey] at hnone
    · exact ⟨_, rfl, hne, h⟩
  · rintro ⟨branches, rfl, hne, h⟩
    exact .group hkey hne h

/-- The faults of a group are its own and those of its branches. -/
lemma entryFault_of_some {kind : Combinator} (hkey : groupOf? key = some kind) {place : Place}
    {e : WireError} :
    EntryFault key value place e ↔
      (place = [] ∧ e = .badGroup key ∧ ∀ branches, value = .array branches → branches = []) ∨
      ∃ branches, value = .array branches ∧ ItemFault (BranchFault key) branches place e := by
  constructor
  · intro h
    cases h with
    | unknownOperator hnone _ _ => simp [hkey] at hnone
    | emptyField hnone _ => simp [hkey] at hnone
    | nonScalar hnone _ => simp [hkey] at hnone
    | noBranches _ h => exact .inl ⟨rfl, rfl, h⟩
    | branch _ hi h => exact .inr ⟨_, rfl, _, _, _, hi, rfl, h⟩
  · rintro (⟨rfl, rfl, h⟩ | ⟨branches, rfl, i, branch, inner, hi, rfl, h⟩)
    · exact .noBranches hkey h
    · exact .branch hkey hi h

/-- An entry is judged if its branches are. -/
lemma judges_entry (hbranches : ∀ branches, value = .array branches → ∀ b ∈ branches,
    Judges (BranchFormed b) (BranchFault key b) (branchAt key b)) :
    Judges (EntryFormed key value) (EntryFault key value) (entryOf key value) := by
  cases hkey : groupOf? key with
  | none =>
    rw [entryOf_of_none hkey]
    exact judges_comparisonOf hkey
  | some kind =>
    refine Judges.congr ?_ (entryFormed_of_some hkey) fun _ _ => entryFault_of_some hkey
    by_cases hlist : ∃ branches, value = .array branches ∧ branches ≠ []
    · obtain ⟨branches, rfl, hne⟩ := hlist
      rw [entryOf_group hkey hne]
      have hmembers := judges_sequence (branchAt key) (branchesOf key) rfl (branchesOf_cons key)
        (hbranches branches rfl)
      refine (hmembers.bind fun members _ => ⟨.group kind members, rfl⟩).congr ?_ fun _ _ => ?_
      · simp [hne]
      · simp [hne]
    · have hnone : ∀ branches, value = .array branches → branches = [] := fun branches hvalue =>
        by_contra fun hne => hlist ⟨branches, hvalue, hne⟩
      rw [entryOf_badGroup hkey hnone]
      refine .refused ?_ fun place e => ⟨?_, fun ⟨hplace, he⟩ => .inl ⟨hplace, he, hnone⟩⟩
      · rintro ⟨branches, hvalue, hne, -⟩
        exact hne (hnone branches hvalue)
      · rintro (⟨hplace, he, -⟩ | ⟨branches, hvalue, i, b, inner, hi, -⟩)
        · exact ⟨hplace, he⟩
        · simp [hnone branches hvalue] at hi

/-- An object is a branch if it has entries and all are well-formed. -/
lemma branchFormed_object {entries : List (String × Json)} :
    BranchFormed (.object entries) ↔ entries ≠ [] ∧ ∀ e ∈ entries, EntryFormed e.1 e.2 :=
  ⟨fun ⟨hne, h⟩ => ⟨hne, h⟩, fun ⟨hne, h⟩ => .object hne h⟩

/-- The faults of an object with entries are those of its entries. -/
lemma branchFault_object {entries : List (String × Json)} (hne : entries ≠ []) {place : Place}
    {e : WireError} :
    BranchFault key (.object entries) place e ↔
      ItemFault (fun entry => EntryFault entry.1 entry.2) entries place e := by
  constructor
  · intro h
    cases h with
    | noObject h => exact absurd rfl (h entries)
    | noEntries => exact absurd rfl hne
    | entry hi h => exact ⟨_, _, _, hi, rfl, h⟩
  · rintro ⟨i, entry, inner, hi, rfl, h⟩
    exact .entry hi h

/-- Entries that decode make a branch if there are any. -/
lemma branchOf_ok {members : List Criterion} (hne : members ≠ []) :
    ∃ c, branchOf key members = .ok c := by
  match members, hne with
  | [c], _ => exact ⟨c, rfl⟩
  | c :: d :: rest, _ => exact ⟨.group .and (c :: d :: rest), rfl⟩

/-- A branch is judged if its entries are. -/
lemma judges_branch (hentries : ∀ entries, value = .object entries → ∀ e ∈ entries,
    Judges (EntryFormed e.1 e.2) (EntryFault e.1 e.2) (entryOf e.1 e.2)) :
    Judges (BranchFormed value) (BranchFault key value) (branchAt key value) := by
  cases value with
  | object entries =>
    by_cases hne : entries = []
    · subst hne
      refine .refused (by simp [branchFormed_object]) fun place e => ⟨?_, ?_⟩
      · rintro (h | _ | ⟨hi, -⟩)
        · exact absurd rfl (h [])
        · exact ⟨rfl, rfl⟩
        · simp at hi
      · rintro ⟨rfl, rfl⟩
        exact .noEntries
    · have hmembers := judges_sequence (fun e => entryOf e.1 e.2) entriesOf rfl (fun _ _ => rfl)
        (hentries entries rfl)
      refine (hmembers.bind fun members h => branchOf_ok ?_).congr ?_ fun _ _ =>
        branchFault_object hne
      · rintro rfl
        exact hne (List.forall₂_nil_right_iff.mp (entriesOf_eq_ok.mp h))
      · simp [branchFormed_object, hne]
  | _ =>
    refine .refused (fun h => by cases h) fun place e => ⟨fun h => ?_, ?_⟩
    · cases h
      exact ⟨rfl, rfl⟩
    · rintro ⟨rfl, rfl⟩
      exact .noObject (by simp)

/-- Every entry is judged, and every branch.  Entries and branches are inside each other, so the
induction carries both. -/
lemma judges_parts (value : Json) :
    (∀ key, Judges (EntryFormed key value) (EntryFault key value) (entryOf key value)) ∧
    ∀ key, Judges (BranchFormed value) (BranchFault key value) (branchAt key value) := by
  induction value using Json.induction with
  | scalar value hvalue =>
    refine ⟨fun key => judges_entry fun branches h => ?_,
      fun key => judges_branch fun entries h => ?_⟩
    · simp [h, Json.isContainer] at hvalue
    · simp [h, Json.isContainer] at hvalue
  | array items ih =>
    refine ⟨fun key => judges_entry fun branches h b hb => ?_,
      fun key => judges_branch fun entries h => by simp at h⟩
    obtain rfl : items = branches := by simpa using h
    exact (ih b hb).2 key
  | object members ih =>
    refine ⟨fun key => judges_entry fun branches h => by simp at h,
      fun key => judges_branch fun entries h e he => ?_⟩
    obtain rfl : members = entries := by simpa using h
    exact (ih e he).1 e.1

/-- Criteria are judged entry by entry. -/
lemma judges_criteriaOf (j : Json) : Judges (Formed j) (FaultAt j) (criteriaOf j) := by
  cases j with
  | object entries =>
    have hmembers := judges_sequence (fun e => entryOf e.1 e.2) entriesOf rfl (fun _ _ => rfl)
      fun e (_ : e ∈ entries) => (judges_parts e.2).1 e.1
    rw [criteriaOf]
    refine (hmembers.bind fun members _ => ?_).congr ?_ fun place e => ⟨fun h => ?_, ?_⟩
    · rcases members with _ | ⟨c, _ | ⟨d, rest⟩⟩
      · exact ⟨_, rfl⟩
      · exact ⟨_, rfl⟩
      · exact ⟨_, rfl⟩
    · simp [Formed]
    · cases h with
      | noObject h => exact absurd rfl (h entries)
      | entry hi h => exact ⟨_, _, _, hi, rfl, h⟩
    · rintro ⟨i, entry, inner, hi, rfl, h⟩
      exact .entry hi h
  | _ =>
    refine .refused (by simp [Formed]) fun place e => ⟨fun h => ?_, ?_⟩
    · cases h
      exact ⟨rfl, rfl⟩
    · rintro ⟨rfl, rfl⟩
      exact .noObject (by simp)

/-- **The decoder accepts exactly the grammar and reports the first fault.**  A document decodes
exactly if it is an object of well-formed entries.  Any other has the error of its first fault,
depth first and as written; a comparison has its operator looked at before its field, and that
before its value. -/
theorem criteriaOf_judges (j : Json) :
    ((∃ criteria, criteriaOf j = .ok criteria) ↔ Formed j) ∧
    ∀ e, criteriaOf j = .error e ↔ IsFirst (FaultAt j) e :=
  ⟨(judges_criteriaOf j).exists_ok, (judges_criteriaOf j).eq_error⟩

/-- An unknown operator inside a group is reported before what is wrong with a later branch. -/
example : criteriaOf (.object [("!or", .array [.object [("a!near", .null)], .null])]) =
    .error (.unknownOperator "near") := by
  rfl

end TableGateway.Wire
