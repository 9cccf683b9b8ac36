import TableGateway.Proofs.Wire.Decoding

/-!
# What wire criteria mean

The direct reading of a document as criteria, written on the document alone, and that decoding keeps
it.

* `holds` — the truth value of a document: an object holds if all of its entries do, `"!or"` if one
  of its branches does, `"!and"` if all of them do.
* `comparisonEntries` — the entries of a document that are comparisons, depth first.
* `Extends` — a document with one more entry, in the object itself or in a branch at any depth.
* **`criteriaOf_means`** — decoded criteria have the truth value of the document and its comparisons
  in their order, so that one more entry only narrows what is meant.
-/

namespace TableGateway.Wire

/-! ## The direct reading -/

mutual

/-- The truth value of a document. -/
def holds (truth : Comparison → Truth) : Json → Truth
  | .object entries => entriesHold truth entries
  | _ => .true

/-- The truth value of an object: that of all its entries. -/
def entriesHold (truth : Comparison → Truth) : List (String × Json) → Truth
  | [] => .true
  | (key, value) :: rest => (entryHolds truth key value).and (entriesHold truth rest)

/-- The truth value of an entry: that of the group or of the comparison that its key asks for. -/
def entryHolds (truth : Comparison → Truth) (key : String) : Json → Truth
  | .array branches =>
    match groupOf? key with
    | some kind => branchesHold truth kind branches
    | none => truth (comparisonAt key (.array branches))
  | value => truth (comparisonAt key value)

/-- The truth value of the branches of a group, combined. -/
def branchesHold (truth : Comparison → Truth) (kind : Combinator) : List Json → Truth
  | [] => kind.neutral
  | branch :: rest => kind.apply (holds truth branch) (branchesHold truth kind rest)

end

mutual

/-- The entries of a document that are comparisons, in the order written. -/
def comparisonEntries : Json → List (String × Json)
  | .object entries => comparisonEntriesOf entries
  | _ => []

/-- The comparison entries of an object. -/
def comparisonEntriesOf : List (String × Json) → List (String × Json)
  | [] => []
  | (key, value) :: rest => comparisonEntriesAt key value ++ comparisonEntriesOf rest

/-- The comparison entries of an entry: those of its branches, or itself. -/
def comparisonEntriesAt (key : String) : Json → List (String × Json)
  | .array branches =>
    if (groupOf? key).isSome then comparisonEntriesIn branches else [(key, .array branches)]
  | value => [(key, value)]

/-- The comparison entries of the branches of a group. -/
def comparisonEntriesIn : List Json → List (String × Json)
  | [] => []
  | branch :: rest => comparisonEntries branch ++ comparisonEntriesIn rest

end

/-- The comparison of a comparison entry. -/
def comparisonOfEntry (e : String × Json) : Comparison :=
  comparisonAt e.1 e.2

/-- A document with one more entry, in the object itself or in a branch of one of its groups. -/
inductive Extends : Json → Json → Prop where
  | entry (front back : List (String × Json)) (key : String) (value : Json) :
      Extends (.object (front ++ back)) (.object (front ++ (key, value) :: back))
  | branch (front back : List (String × Json)) {key : String} {kind : Combinator}
      (hkey : groupOf? key = some kind) (before after : List Json) {b b' : Json}
      (h : Extends b b') :
      Extends (.object (front ++ (key, .array (before ++ b :: after)) :: back))
        (.object (front ++ (key, .array (before ++ b' :: after)) :: back))

/-! ## Decoding keeps the truth value -/

variable {truth : Comparison → Truth} {key : String} {value : Json} {c : Criterion}

/-- A comparison holds as its truth says. -/
lemma entryHolds_of_none (hkey : groupOf? key = none) :
    entryHolds truth key value = truth (comparisonAt key value) := by
  cases value with
  | array branches => simp [entryHolds, hkey]
  | _ => rfl

lemma entryHolds_of_some {kind : Combinator} (hkey : groupOf? key = some kind)
    (branches : List Json) :
    entryHolds truth key (.array branches) = branchesHold truth kind branches := by
  simp [entryHolds, hkey]

/-- The members that entries decode to hold together where the entries do. -/
lemma evalAll_entries {entries : List (String × Json)} {members : List Criterion}
    (h : List.Forall₂ (fun e c => c.eval truth = entryHolds truth e.1 e.2) entries members) :
    Criterion.evalAll truth .and members = entriesHold truth entries := by
  induction h with
  | nil => rfl
  | cons hc _ ih => rw [Criterion.evalAll, hc, ih, entriesHold, Combinator.apply]

/-- The members that branches decode to hold combined where the branches do. -/
lemma evalAll_branches {kind : Combinator} {branches : List Json} {members : List Criterion}
    (h : List.Forall₂ (BranchReads fun key value c => c.eval truth = entryHolds truth key value)
      branches members) :
    Criterion.evalAll truth kind members = branchesHold truth kind branches := by
  induction h with
  | nil => rfl
  | cons hbranch _ ih =>
    obtain ⟨entries, cs, rfl, hentries, hgathers⟩ := hbranch
    rw [Criterion.evalAll, ih, hgathers.eval, evalAll_entries hentries, branchesHold, holds]

/-- An entry decodes to a criterion of its truth value. -/
lemma eval_entryOf (h : entryOf key value = .ok c) :
    c.eval truth = entryHolds truth key value := by
  refine entryOf_induction (motive := fun key value c => c.eval truth = entryHolds truth key value)
    ?_ ?_ h
  · intro key value hkey _ _
    rw [entryHolds_of_none hkey, Criterion.eval]
  · intro key kind branches members hkey _ hbranches
    rw [entryHolds_of_some hkey, Criterion.eval, evalAll_branches hbranches]

/-- Criteria have the truth value of their document; none at all are true. -/
lemma eval_criteriaOf {j : Json} {criteria : Option Criterion}
    (h : criteriaOf j = .ok criteria) :
    criteria.elim .true (Criterion.eval truth) = holds truth j := by
  obtain ⟨rfl, rfl⟩ | ⟨entries, members, c, rfl, hentries, hgathers, rfl⟩ := criteriaOf_eq_ok h
  · rfl
  · rw [Option.elim_some, hgathers.eval, evalAll_entries (hentries.imp fun _ _ => eval_entryOf),
      holds]

/-! ## Decoding keeps the comparisons -/

/-- The comparisons of an object are those of its entries in turn. -/
lemma comparisonsAll_entries {entries : List (String × Json)} {members : List Criterion}
    (h : List.Forall₂ (fun e c =>
      c.comparisons = (comparisonEntriesAt e.1 e.2).map comparisonOfEntry) entries members) :
    Criterion.comparisonsAll members = (comparisonEntriesOf entries).map comparisonOfEntry := by
  induction h with
  | nil => rfl
  | cons hc _ ih =>
    rw [Criterion.comparisonsAll, hc, ih, comparisonEntriesOf, List.map_append]

lemma comparisonsAll_branches {branches : List Json} {members : List Criterion}
    (h : List.Forall₂ (BranchReads fun key value c =>
      c.comparisons = (comparisonEntriesAt key value).map comparisonOfEntry) branches members) :
    Criterion.comparisonsAll members = (comparisonEntriesIn branches).map comparisonOfEntry := by
  induction h with
  | nil => rfl
  | cons hbranch _ ih =>
    obtain ⟨entries, cs, rfl, hentries, hgathers⟩ := hbranch
    rw [Criterion.comparisonsAll, ih, hgathers.comparisons, comparisonsAll_entries hentries,
      comparisonEntriesIn, comparisonEntries, List.map_append]

/-- An entry decodes to a criterion with its comparisons. -/
lemma comparisons_entryOf (h : entryOf key value = .ok c) :
    c.comparisons = (comparisonEntriesAt key value).map comparisonOfEntry := by
  refine entryOf_induction (motive := fun key value c =>
    c.comparisons = (comparisonEntriesAt key value).map comparisonOfEntry) ?_ ?_ h
  · intro key value hkey _ _
    have hself : comparisonEntriesAt key value = [(key, value)] := by
      cases value with
      | array branches => simp [comparisonEntriesAt, hkey]
      | _ => rfl
    rw [hself]
    rfl
  · intro key kind branches members hkey _ hbranches
    have hbranch : comparisonEntriesAt key (.array branches) = comparisonEntriesIn branches := by
      simp [comparisonEntriesAt, hkey]
    rw [hbranch, Criterion.comparisons, comparisonsAll_branches hbranches]

/-- Criteria have the comparisons of their document, each once and in the order written. -/
lemma comparisons_criteriaOf {j : Json} {criteria : Option Criterion}
    (h : criteriaOf j = .ok criteria) :
    criteria.elim [] Criterion.comparisons = (comparisonEntries j).map comparisonOfEntry := by
  obtain ⟨rfl, rfl⟩ | ⟨entries, members, c, rfl, hentries, hgathers, rfl⟩ := criteriaOf_eq_ok h
  · rfl
  · rw [Option.elim_some, hgathers.comparisons,
      comparisonsAll_entries (hentries.imp fun _ _ => comparisons_entryOf), comparisonEntries]

/-! ## One more entry -/

/-- An object holds if all its entries do. -/
lemma entriesHold_eq_true {entries : List (String × Json)} :
    entriesHold truth entries = .true ↔ ∀ e ∈ entries, entryHolds truth e.1 e.2 = .true := by
  induction entries with
  | nil => simp [entriesHold]
  | cons e rest ih => simp [entriesHold, ih]

/-- A group whose branch is replaced by one that holds more often holds more often. -/
lemma branchesHold_mono {kind : Combinator} {before after : List Json} {b b' : Json}
    (hb : holds truth b' = .true → holds truth b = .true)
    (h : branchesHold truth kind (before ++ b' :: after) = .true) :
    branchesHold truth kind (before ++ b :: after) = .true := by
  induction before with
  | nil =>
    cases kind with
    | and =>
      obtain ⟨hhead, hrest⟩ := Truth.and_eq_true.mp h
      exact Truth.and_eq_true.mpr ⟨hb hhead, hrest⟩
    | or => exact Truth.or_eq_true.mpr ((Truth.or_eq_true.mp h).imp_left hb)
  | cons d before ih =>
    cases kind with
    | and =>
      obtain ⟨hhead, hrest⟩ := Truth.and_eq_true.mp h
      exact Truth.and_eq_true.mpr ⟨hhead, ih hrest⟩
    | or => exact Truth.or_eq_true.mpr ((Truth.or_eq_true.mp h).imp_right ih)

/-- What a document with one more entry means is meant without it. -/
lemma holds_of_extends {j j' : Json} (hext : Extends j j') (h : holds truth j' = .true) :
    holds truth j = .true := by
  induction hext with
  | entry front back key value =>
    rw [holds, entriesHold_eq_true] at h ⊢
    intro e he
    refine h e ?_
    rw [List.mem_append] at he
    simpa using he.imp_right .inr
  | branch front back hkey before after _ ih =>
    rw [holds, entriesHold_eq_true] at h ⊢
    simp only [List.forall_mem_append, List.forall_mem_cons, entryHolds_of_some hkey] at h ⊢
    obtain ⟨hfront, hgroup, hback⟩ := h
    exact ⟨hfront, branchesHold_mono ih hgroup, hback⟩

/-- **Wire criteria decode to what they mean.**  Decoded criteria have the truth value of the direct
reading of their document, and its comparisons, each once and in the order written.  One more
entry, wherever the document still decodes with it, adds no row to those that are meant. -/
theorem criteriaOf_means {j : Json} {criteria : Option Criterion}
    (h : criteriaOf j = .ok criteria) :
    (∀ truth, criteria.elim .true (Criterion.eval truth) = holds truth j) ∧
    criteria.elim [] Criterion.comparisons = (comparisonEntries j).map comparisonOfEntry ∧
    ∀ j' criteria', Extends j j' → criteriaOf j' = .ok criteria' → ∀ truth,
      criteria'.elim .true (Criterion.eval truth) = .true →
        criteria.elim .true (Criterion.eval truth) = .true := by
  refine ⟨fun truth => eval_criteriaOf h, comparisons_criteriaOf h, ?_⟩
  intro j' criteria' hext h' truth htrue
  rw [eval_criteriaOf h'] at htrue
  rw [eval_criteriaOf h]
  exact holds_of_extends hext htrue

/-- An OR group beside a comparison, with a branch of two comparisons and a branch of one. -/
theorem criteriaOf_means_nested :
    ∃ c, criteriaOf (.object [("a", .bool true),
        ("!or", .array [.object [("b!gt", .string "x"), ("c!like", .string "y")],
          .object [("d!ne", .null)]])]) = .ok (some c) ∧
      c.comparisons = [⟨"a", .eq, .bool true⟩, ⟨"b", .gt, .string "x"⟩, ⟨"c", .like, .string "y"⟩,
        ⟨"d", .ne, .null⟩] ∧
      ∀ truth, c.eval truth = (truth ⟨"a", .eq, .bool true⟩).and
        (((truth ⟨"b", .gt, .string "x"⟩).and (truth ⟨"c", .like, .string "y"⟩)).or
          (truth ⟨"d", .ne, .null⟩)) := by
  obtain ⟨heval, hcomparisons, -⟩ := criteriaOf_means (j := .object [("a", .bool true),
    ("!or", .array [.object [("b!gt", .string "x"), ("c!like", .string "y")],
      .object [("d!ne", .null)]])]) rfl
  refine ⟨_, rfl, hcomparisons, fun truth => (heval truth).trans ?_⟩
  -- Reading the document leaves the empty conjunctions and disjunctions at the ends of its lists.
  have hread : holds truth (.object [("a", .bool true),
      ("!or", .array [.object [("b!gt", .string "x"), ("c!like", .string "y")],
        .object [("d!ne", .null)]])]) = (truth ⟨"a", .eq, .bool true⟩).and
      ((((truth ⟨"b", .gt, .string "x"⟩).and ((truth ⟨"c", .like, .string "y"⟩).and .true)).or
        (((truth ⟨"d", .ne, .null⟩).and .true).or .false)).and .true) := rfl
  simp [hread]

end TableGateway.Wire
