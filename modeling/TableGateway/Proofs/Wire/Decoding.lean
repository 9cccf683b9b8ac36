import TableGateway.Proofs.Criterion
import TableGateway.Proofs.Except
import TableGateway.Proofs.Json
import TableGateway.Wire.Criteria
import Mathlib.Data.List.TakeWhile

/-!
# Decoded criteria

The decoder of criteria read backwards: what a document that decodes looks like, and what it decodes
to.

* `groupOf?`, `fieldOf`, `relationOf` — how a key is to be read.  `comparisonAt` is the comparison
  of an entry whose key names no group.
* `Gathers` — the criterion of all entries of an object, at the outermost place and in a branch
  alike.
* `entryOf_induction` — what holds of comparison entries, and of a group entry if of all entries
  of its branches, holds of every entry that decodes.
-/

namespace TableGateway

namespace Wire

/-! ## Keys -/

/-- The group that a key asks for. -/
def groupOf? (key : String) : Option Combinator :=
  if key = "!or" then some .or else if key = "!and" then some .and else none

/-- The field that a key names: what stands before its first `!`. -/
def fieldOf (key : String) : String :=
  String.ofList (key.toList.takeWhile (· ≠ '!'))

/-- The operator that a key names after its field and `!`.  A key that names none asks for
equality. -/
def relationOf (key : String) : Operator :=
  (Operator.all.find? fun op => fieldOf key ++ "!" ++ op.name = key).getD .eq

/-- The comparison of an entry. -/
def comparisonAt (key : String) (value : Json) : Comparison :=
  ⟨fieldOf key, relationOf key, Value.ofJson value⟩

variable {key : String} {value : Json} {c : Criterion}

/-- A key is split at its first `!`. -/
lemma splitKey_cases (key : String) :
    (splitKey key = (fieldOf key, none) ∧ '!' ∉ key.toList) ∨
    ∃ name, splitKey key = (fieldOf key, some name) ∧ key = fieldOf key ++ "!" ++ name := by
  have hsplit := List.takeWhile_append_dropWhile (p := (· ≠ '!')) (l := key.toList)
  rw [splitKey]
  cases hrest : key.toList.dropWhile (· ≠ '!') with
  | nil =>
    refine .inl ⟨rfl, fun hmem => ?_⟩
    simpa using List.dropWhile_eq_nil_iff.mp hrest '!' hmem
  | cons d operator =>
    have hd : d = '!' := by
      have hhead := List.head?_dropWhile_not (· ≠ '!') key.toList
      rw [hrest] at hhead
      simpa using hhead
    refine .inr ⟨String.ofList operator, rfl, ?_⟩
    rw [hrest, hd] at hsplit
    rw [← String.toList_inj, ← hsplit]
    simp [fieldOf]

/-- The operator that the decoder takes from a key is the one that the key names. -/
lemma relationOf_eq {field : String} {part : Option String} {op : Operator}
    (hsplit : splitKey key = (field, part)) (hop : operatorOf part = .ok op) :
    fieldOf key = field ∧ relationOf key = op := by
  obtain ⟨hnone, hmark⟩ | ⟨name, hsome, hkey⟩ := splitKey_cases key
  · obtain ⟨rfl, rfl⟩ := Prod.mk.inj (hsplit.symm.trans hnone)
    obtain rfl : Operator.default = op := by simpa [operatorOf] using hop
    have hnot (op : Operator) : fieldOf key ++ "!" ++ op.name ≠ key := by
      intro hkey
      refine hmark ?_
      rw [← hkey]
      simp
    refine ⟨rfl, ?_⟩
    rw [relationOf, List.find?_eq_none.mpr (by simp [hnot])]
    rfl
  · obtain ⟨rfl, rfl⟩ := Prod.mk.inj (hsplit.symm.trans hsome)
    have hfound : Operator.ofName? name = some op := by
      cases hname : Operator.ofName? name with
      | none => simp [operatorOf, hname] at hop
      | some op' => simpa [operatorOf, hname] using hop
    have hnames : (fun op : Operator => decide (fieldOf key ++ "!" ++ op.name = key))
        = fun op => decide (op.name = name) := by
      funext op
      refine decide_eq_decide.mpr ⟨fun h => ?_, fun h => ?_⟩
      · exact (String.append_right_inj (fieldOf key ++ "!")).mp (h.trans hkey)
      · rw [h]
        exact hkey.symm
    refine ⟨rfl, ?_⟩
    rw [relationOf, hnames]
    exact congrArg (Option.getD · .eq) hfound

/-- A comparison entry decodes to its comparison, of a field with a scalar. -/
lemma comparisonOf_eq_ok (h : comparisonOf key value = .ok c) :
    c = .comparison (comparisonAt key value) ∧ fieldOf key ≠ "" ∧ value.isContainer = false := by
  rcases hsplit : splitKey key with ⟨field, part⟩
  rw [comparisonOf, hsplit] at h
  obtain ⟨op, hop, h⟩ := bind_eq_ok.mp h
  obtain ⟨rfl, rfl⟩ := relationOf_eq hsplit hop
  split at h
  · simp at h
  · rename_i hfield
    split at h
    · simp at h
    · rename_i hvalue
      exact ⟨(Except.ok.inj h).symm, hfield, by simpa using hvalue⟩

/-! ## Objects, branches and groups -/

/-- The criterion of all entries of an object that has some: that of a single one, or the AND of
several. -/
inductive Gathers : List Criterion → Criterion → Prop where
  | single (c : Criterion) : Gathers [c] c
  | several (c d : Criterion) (rest : List Criterion) :
      Gathers (c :: d :: rest) (.group .and (c :: d :: rest))

/-- A branch decodes if it is an object with entries and these decode. -/
def BranchReads (reads : String → Json → Criterion → Prop) (branch : Json) (c : Criterion) : Prop :=
  ∃ entries members, branch = .object entries ∧
    List.Forall₂ (fun e d => reads e.1 e.2 d) entries members ∧ Gathers members c

/-- What is gathered from members evaluates as all of them. -/
lemma Gathers.eval {members : List Criterion} (h : Gathers members c)
    (truth : Comparison → Truth) : c.eval truth = Criterion.evalAll truth .and members := by
  cases h with
  | single c => exact (Truth.and_true _).symm
  | several c d rest => rfl

lemma Gathers.comparisons {members : List Criterion} (h : Gathers members c) :
    c.comparisons = Criterion.comparisonsAll members := by
  cases h with
  | single c => exact (List.append_nil _).symm
  | several c d rest => rfl

/-- A branch gathers its members. -/
lemma branchOf_eq_ok {members : List Criterion} (h : branchOf key members = .ok c) :
    Gathers members c := by
  match members, h with
  | [], h => simp [branchOf] at h
  | [d], h =>
    obtain rfl : d = c := by simpa [branchOf] using h
    exact .single d
  | d :: e :: rest, h =>
    obtain rfl : Criterion.group .and (d :: e :: rest) = c := by simpa [branchOf] using h
    exact .several d e rest

/-- The entries of an object decode one by one. -/
lemma entriesOf_eq_ok {entries : List (String × Json)} {members : List Criterion} :
    entriesOf entries = .ok members ↔
      List.Forall₂ (fun e c => entryOf e.1 e.2 = .ok c) entries members :=
  sequence_eq_ok (fun e => entryOf e.1 e.2) entriesOf rfl fun _ _ => rfl

/-- The criterion of one branch of a group. -/
def branchAt (key : String) : Json → Except WireError Criterion
  | .object entries => entriesOf entries >>= branchOf key
  | _ => .error (.badGroup key)

/-- A branch that decodes is read entry by entry. -/
lemma branchAt_eq_ok {branch : Json} (h : branchAt key branch = .ok c) :
    BranchReads (fun key value c => entryOf key value = .ok c) branch c := by
  cases branch with
  | object entries =>
    obtain ⟨members, hentries, hbranch⟩ := bind_eq_ok.mp h
    exact ⟨entries, members, rfl, entriesOf_eq_ok.mp hentries, branchOf_eq_ok hbranch⟩
  | _ => simp [branchAt] at h

/-- Branches decode from left to right. -/
lemma branchesOf_cons (key : String) (branch : Json) (rest : List Json) :
    branchesOf key (branch :: rest) = (do
      let criterion ← branchAt key branch
      let others ← branchesOf key rest
      .ok (criterion :: others)) := by
  cases branch with
  | object entries => simp [branchesOf, branchAt]
  | _ => rfl

/-- The branches of a group decode one by one. -/
lemma branchesOf_eq_ok {branches : List Json} {members : List Criterion}
    (h : branchesOf key branches = .ok members) :
    List.Forall₂ (BranchReads fun key value c => entryOf key value = .ok c) branches members :=
  ((sequence_eq_ok (branchAt key) (branchesOf key) rfl (branchesOf_cons key)).mp h).imp
    fun _ _ => branchAt_eq_ok

/-- An entry whose key names no group is a comparison. -/
lemma entryOf_of_none (hkey : groupOf? key = none) :
    entryOf key value = comparisonOf key value := by
  obtain ⟨hor, hand⟩ : key ≠ orKey ∧ key ≠ andKey := by
    rw [groupOf?] at hkey
    split at hkey
    · simp at hkey
    · split at hkey
      · simp at hkey
      · exact ⟨‹_›, ‹_›⟩
  cases value with
  | array branches => cases branches <;> simp [entryOf, hor, hand]
  | _ => simp [entryOf, hor, hand]

/-- The keys of groups. -/
lemma groupOf?_eq_some {kind : Combinator} :
    groupOf? key = some kind ↔ (key = orKey ∧ kind = .or) ∨ (key = andKey ∧ kind = .and) := by
  have hgroups : andKey ≠ orKey := by decide
  constructor
  · intro hkey
    rw [groupOf?] at hkey
    split at hkey
    · exact .inl ⟨‹_›, (Option.some.inj hkey).symm⟩
    · split at hkey
      · exact .inr ⟨‹_›, (Option.some.inj hkey).symm⟩
      · simp at hkey
  · rintro (⟨rfl, rfl⟩ | ⟨rfl, rfl⟩)
    · rfl
    · rfl

/-- An entry whose key names a group, with branches. -/
lemma entryOf_group {kind : Combinator} (hkey : groupOf? key = some kind) {branches : List Json}
    (hne : branches ≠ []) :
    entryOf key (.array branches) =
      branchesOf key branches >>= fun members => .ok (.group kind members) := by
  have hgroups : andKey ≠ orKey := by decide
  cases branches with
  | nil => exact absurd rfl hne
  | cons branch rest =>
    obtain ⟨rfl, rfl⟩ | ⟨rfl, rfl⟩ := groupOf?_eq_some.mp hkey
    · simp [entryOf]
    · simp [entryOf, hgroups]

/-- An entry whose key names a group, without branches. -/
lemma entryOf_badGroup {kind : Combinator} (hkey : groupOf? key = some kind)
    (h : ∀ branches, value = .array branches → branches = []) :
    entryOf key value = .error (.badGroup key) := by
  have hgroup : key = orKey ∨ key = andKey :=
    (groupOf?_eq_some.mp hkey).imp And.left And.left
  cases value with
  | array branches =>
    obtain rfl := h branches rfl
    rw [entryOf, if_pos hgroup]
    simp
  | _ => rw [entryOf, if_pos hgroup]; simp

/-- An entry whose key names a group is a list of branches, of which there is one at least. -/
lemma entryOf_of_some {kind : Combinator} (hkey : groupOf? key = some kind)
    (h : entryOf key value = .ok c) :
    ∃ branches members, value = .array branches ∧ branches ≠ [] ∧
      branchesOf key branches = .ok members ∧ c = .group kind members := by
  by_cases hbranches : ∃ branches, value = .array branches ∧ branches ≠ []
  · obtain ⟨branches, rfl, hne⟩ := hbranches
    rw [entryOf_group hkey hne] at h
    obtain ⟨members, hmembers, hc⟩ := bind_eq_ok.mp h
    exact ⟨branches, members, rfl, hne, hmembers, (Except.ok.inj hc).symm⟩
  · have hnone : ∀ branches, value = .array branches → branches = [] := fun branches hvalue =>
      by_contra fun hne => hbranches ⟨branches, hvalue, hne⟩
    rw [entryOf_badGroup hkey hnone] at h
    contradiction

/-- What holds of comparison entries, and of a group entry if it holds of all entries of its
branches, holds of every entry that decodes. -/
theorem entryOf_induction {motive : String → Json → Criterion → Prop}
    (comparison : ∀ key value, groupOf? key = none → fieldOf key ≠ "" →
      value.isContainer = false → motive key value (.comparison (comparisonAt key value)))
    (group : ∀ key kind branches members, groupOf? key = some kind → branches ≠ [] →
      List.Forall₂ (BranchReads motive) branches members →
      motive key (.array branches) (.group kind members))
    (h : entryOf key value = .ok c) : motive key value c := by
  have hcomparison {key : String} {value : Json} {c : Criterion} (hkey : groupOf? key = none)
      (h : entryOf key value = .ok c) : motive key value c := by
    rw [entryOf_of_none hkey] at h
    obtain ⟨rfl, hfield, hvalue⟩ := comparisonOf_eq_ok h
    exact comparison key value hkey hfield hvalue
  -- The entries of a branch are two levels below their group, so the induction carries what is to
  -- be shown of a value together with the same for the values in it if it is an object.
  have hall (value : Json) :
      (∀ key c, entryOf key value = .ok c → motive key value c) ∧
      ∀ entries, value = .object entries → ∀ e ∈ entries, ∀ c, entryOf e.1 e.2 = .ok c →
        motive e.1 e.2 c := by
    induction value using Json.induction with
    | scalar value hvalue =>
      refine ⟨fun key c h => ?_, fun entries hentries => ?_⟩
      · cases hkey : groupOf? key with
        | none => exact hcomparison hkey h
        | some kind =>
          obtain ⟨branches, members, rfl, -⟩ := entryOf_of_some hkey h
          simp [Json.isContainer] at hvalue
      · rw [hentries] at hvalue
        simp [Json.isContainer] at hvalue
    | array items ih =>
      refine ⟨fun key c h => ?_, fun entries hentries => by simp at hentries⟩
      cases hkey : groupOf? key with
      | none => exact hcomparison hkey h
      | some kind =>
        obtain ⟨branches, members, hitems, hne, hbranches, rfl⟩ := entryOf_of_some hkey h
        obtain rfl : items = branches := by simpa using hitems
        refine group key kind items members hkey hne ?_
        refine (List.forall₂_and_left _ _ |>.mpr ⟨ih, branchesOf_eq_ok hbranches⟩).imp ?_
        rintro branch c ⟨⟨-, hentries⟩, entries, cs, rfl, hreads, hgathers⟩
        refine ⟨entries, cs, rfl, ?_, hgathers⟩
        exact (List.forall₂_and_left _ _ |>.mpr ⟨hentries entries rfl, hreads⟩).imp
          fun e c h => h.1 c h.2
    | object entries ih =>
      refine ⟨fun key c h => ?_, fun entries' hentries e he c h => ?_⟩
      · cases hkey : groupOf? key with
        | none => exact hcomparison hkey h
        | some kind =>
          obtain ⟨branches, members, hvalue, -⟩ := entryOf_of_some hkey h
          simp at hvalue
      · obtain rfl : entries = entries' := by simpa using hentries
        exact (ih e he).1 e.1 c h
  exact (hall value).1 key c h

/-- A document that decodes is an object whose entries do.  Without entries it asks for nothing. -/
lemma criteriaOf_eq_ok {j : Json} {criteria : Option Criterion}
    (h : criteriaOf j = .ok criteria) :
    (j = .object [] ∧ criteria = none) ∨
    ∃ entries members c, j = .object entries ∧
      List.Forall₂ (fun e d => entryOf e.1 e.2 = .ok d) entries members ∧ Gathers members c ∧
      criteria = some c := by
  cases j with
  | object entries =>
    rw [criteriaOf] at h
    obtain ⟨members, hmembers, h⟩ := bind_eq_ok.mp h
    have hentries := entriesOf_eq_ok.mp hmembers
    match members, h, hentries with
    | [], h, hentries =>
      obtain rfl := List.forall₂_nil_right_iff.mp hentries
      exact .inl ⟨rfl, (Except.ok.inj h).symm⟩
    | [c], h, hentries => exact .inr ⟨_, _, c, rfl, hentries, .single c, (Except.ok.inj h).symm⟩
    | c :: d :: rest, h, hentries =>
      exact .inr ⟨_, _, _, rfl, hentries, .several c d rest, (Except.ok.inj h).symm⟩
  | _ => simp [criteriaOf] at h

end Wire

end TableGateway
