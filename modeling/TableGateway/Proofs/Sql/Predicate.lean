import TableGateway.Proofs.Criterion
import TableGateway.Proofs.Except
import TableGateway.Proofs.Sql.Token
import TableGateway.Sql.Predicate

/-!
# What compiling criteria gives

The compiler of criteria read backwards: if it succeeds, then on every member of every group.

* `inner_induction` — what holds of a comparison's predicate, and of a group's if it holds of its
  members', holds of the predicate of every criterion inside a group.
* `ofCriteria_cases` — the three ways in which an outermost criterion compiles.
* `text_eq_nil_iff` — which criteria compile to no text.
* `spaced_ofCriteria` — the text of a predicate is spaced.
-/

namespace TableGateway.Predicate

/-- The members of a group compile one by one. -/
lemma innerAll_eq_ok {cs : List Criterion} {ps : List Predicate} :
    innerAll cs = .ok ps ↔ List.Forall₂ (fun c p => inner c = .ok p) cs ps :=
  sequence_eq_ok inner innerAll rfl fun _ _ => rfl

/-- A group inside another compiles if it has members and all of them compile. -/
lemma inner_group_eq_ok {kind : Combinator} {members : List Criterion} {p : Predicate} :
    inner (.group kind members) = .ok p ↔
      members ≠ [] ∧ ∃ parts, List.Forall₂ (fun c q => inner c = .ok q) members parts ∧
        p = (combine kind parts).parenthesized := by
  cases members with
  | nil => simp [inner]
  | cons c rest =>
    simp [inner, bind_eq_ok, innerAll_eq_ok, eq_comm (b := p)]

/-- What compiling does to comparisons and groups, it does to every criterion that compiles. -/
theorem inner_induction {motive : Criterion → Predicate → Prop}
    (comparison : ∀ c, motive (.comparison c) (ofComparison c))
    (group : ∀ kind members parts, members ≠ [] → List.Forall₂ motive members parts →
      motive (.group kind members) (combine kind parts).parenthesized)
    {c : Criterion} {p : Predicate} (h : inner c = .ok p) : motive c p := by
  induction c using Criterion.induction generalizing p with
  | comparison c =>
    obtain rfl : ofComparison c = p := by simpa [inner] using h
    exact comparison c
  | group kind members ih =>
    obtain ⟨hne, parts, hparts, rfl⟩ := inner_group_eq_ok.mp h
    refine group kind members parts hne ?_
    exact (List.forall₂_and_left _ _ |>.mpr ⟨ih, hparts⟩).imp fun c q h => h.1 h.2

/-- An outermost criterion compiles in three ways: a group without members asks for nothing, a
comparison is its own predicate, and any other group combines its members'. -/
theorem ofCriteria_cases {c : Criterion} {p : Predicate} (h : ofCriteria (some c) = .ok p) :
    (∃ kind, c = .group kind [] ∧ p = empty) ∨
    (∃ x, c = .comparison x ∧ p = ofComparison x) ∨
    (∃ kind members parts, c = .group kind members ∧ members ≠ [] ∧
      List.Forall₂ (fun c q => inner c = .ok q) members parts ∧ p = combine kind parts) := by
  cases c with
  | comparison x =>
    obtain rfl : ofComparison x = p := by simpa [ofCriteria] using h
    exact .inr (.inl ⟨x, rfl, rfl⟩)
  | group kind members =>
    cases members with
    | nil =>
      obtain rfl : empty = p := by simpa [ofCriteria] using h
      exact .inl ⟨kind, rfl, rfl⟩
    | cons m rest =>
      rw [ofCriteria, bind_eq_ok] at h
      obtain ⟨parts, hparts, hp⟩ := h
      obtain rfl : combine kind parts = p := by simpa using hp
      exact .inr (.inr ⟨kind, m :: rest, parts, rfl, by simp, innerAll_eq_ok.mp hparts, rfl⟩)

/-- What holds of nothing and of comparisons, and of a group if it holds of its members, and stays
with parentheses, holds of every outermost criterion that compiles. -/
lemma ofCriteria_induction {motive : Criterion → Predicate → Prop}
    (nothing : ∀ kind, motive (.group kind []) empty)
    (comparison : ∀ c, motive (.comparison c) (ofComparison c))
    (group : ∀ kind members parts, List.Forall₂ motive members parts →
      motive (.group kind members) (combine kind parts))
    (parenthesized : ∀ c p, motive c p → motive c p.parenthesized)
    {c : Criterion} {p : Predicate} (h : ofCriteria (some c) = .ok p) : motive c p := by
  obtain ⟨kind, rfl, rfl⟩ | ⟨x, rfl, rfl⟩ | ⟨kind, members, parts, rfl, -, hparts, rfl⟩ :=
    ofCriteria_cases h
  · exact nothing kind
  · exact comparison x
  · refine group kind members parts (hparts.imp fun d q hd => ?_)
    exact inner_induction comparison
      (fun kind _ _ _ hparts => parenthesized _ _ (group kind _ _ hparts)) hd

/-- What each predicate of a group has of its comparisons, the group has of all of them. -/
lemma flatMap_members {β : Type} {f : Predicate → List β} {g : Comparison → β}
    {members : List Criterion} {parts : List Predicate}
    (h : List.Forall₂ (fun c p => f p = c.comparisons.map g) members parts) :
    parts.flatMap f = (Criterion.comparisonsAll members).map g := by
  induction h with
  | nil => rfl
  | cons hc _ ih => rw [List.flatMap_cons, Criterion.comparisonsAll, List.map_append, hc, ih]

/-! ## What asks for nothing -/

/-- A criterion inside a group has text. -/
lemma text_ne_nil_of_inner {c : Criterion} {p : Predicate} (h : inner c = .ok p) :
    p.text ≠ [] :=
  inner_induction (motive := fun _ p => p.text ≠ []) (fun _ => List.cons_ne_nil _ _)
    (fun _ _ _ _ _ => List.cons_ne_nil _ _) h

/-- A combination has text if its first part has. -/
lemma text_combine_ne_nil (kind : Combinator) {p : Predicate} (h : p.text ≠ [])
    (parts : List Predicate) : (combine kind (p :: parts)).text ≠ [] := by
  cases parts with
  | nil => exact h
  | cons q parts => simp [combine, SqlText.join, h]

/-- Criteria compile to no text exactly if there are none or the outermost group has no members. -/
theorem text_eq_nil_iff {c : Option Criterion} {p : Predicate} (h : ofCriteria c = .ok p) :
    p.text = [] ↔ c = none ∨ ∃ kind, c = some (.group kind []) := by
  cases c with
  | none =>
    obtain rfl : empty = p := by simpa [ofCriteria] using h
    simp [empty]
  | some c =>
    obtain ⟨kind, rfl, rfl⟩ | ⟨x, rfl, rfl⟩ | ⟨kind, members, parts, rfl, hmembers, hparts, rfl⟩ :=
      ofCriteria_cases h
    · simp [empty]
    · simp [ofComparison, Comparison.text]
    · cases hparts with
      | nil => exact absurd rfl hmembers
      | @cons c p members parts hc _ =>
        simp [text_combine_ne_nil kind (text_ne_nil_of_inner hc) parts]

/-! ## What compiles -/

/-- Members that all compile make a group. -/
lemma exists_innerAll {members : List Criterion} (h : ∀ c ∈ members, ∃ p, inner c = .ok p) :
    ∃ parts, innerAll members = .ok parts := by
  induction members with
  | nil => exact ⟨[], rfl⟩
  | cons c rest ih =>
    obtain ⟨⟨p, hp⟩, hrest⟩ := List.forall_mem_cons.mp h
    obtain ⟨parts, hparts⟩ := ih hrest
    refine ⟨p :: parts, ?_⟩
    rw [innerAll, hp, hparts]
    rfl

/-- Criteria compile where no group is without members. -/
lemma exists_inner {c : Criterion} (h : c.Filled) : ∃ p, inner c = .ok p := by
  induction h with
  | comparison c => exact ⟨ofComparison c, rfl⟩
  | group kind hne _ ih =>
    obtain ⟨parts, hparts⟩ := exists_innerAll ih
    exact ⟨_, inner_group_eq_ok.mpr ⟨hne, parts, innerAll_eq_ok.mp hparts, rfl⟩⟩

/-! ## Predicates are spaced -/

open SqlText

/-- The text of a comparison is spaced. -/
lemma spaced_ofComparison (c : Comparison) : (ofComparison c).text.Spaced := by
  have hplain : (Piece.verbatim (" " ++ c.operator.token ++ " ")).isPlain = true := by
    cases c.operator <;> decide
  have hstart : (Piece.verbatim (" " ++ c.operator.token ++ " ")).startsClear = true := by
    cases c.operator <;> decide
  have hend : (Piece.verbatim (" " ++ c.operator.token ++ " ")).endsClear = true := by
    cases c.operator <;> decide
  have hrest : Spaced [.verbatim (" " ++ c.operator.token ++ " "), .placeholder] :=
    (spaced_singleton rfl).cons hplain hend
  exact (spaced_singleton (p := .name c.field) rfl).append hrest hstart

lemma spaced_combine (kind : Combinator) {parts : List Predicate}
    (h : ∀ p ∈ parts, p.text.Spaced) : (combine kind parts).text.Spaced := by
  have hparts : ∀ t ∈ parts.map (·.text), t.Spaced := by simpa using h
  cases kind with
  | and => exact spaced_join (by decide) (by decide) (by decide) hparts
  | or => exact spaced_join (by decide) (by decide) (by decide) hparts

lemma spaced_parenthesized {p : Predicate} (h : p.text.Spaced) :
    p.parenthesized.text.Spaced :=
  (h.append (spaced_singleton (p := .verbatim ")") (by decide)) (by decide)).cons (by decide)
    (by decide)

/-- The text of a criterion is spaced, by induction on the criterion. -/
lemma spaced_inner {c : Criterion} {p : Predicate} (h : inner c = .ok p) : p.text.Spaced := by
  refine inner_induction (motive := fun _ p => p.text.Spaced) spaced_ofComparison ?_ h
  intro kind members parts _ hparts
  refine spaced_parenthesized (spaced_combine kind fun p hp => ?_)
  obtain ⟨c, -, hc⟩ := exists_of_mem_right hparts hp
  exact hc

/-- The text of a predicate is spaced. -/
theorem spaced_ofCriteria {c : Option Criterion} {p : Predicate} (h : ofCriteria c = .ok p) :
    p.text.Spaced := by
  cases c with
  | none =>
    obtain rfl : empty = p := by simpa [ofCriteria] using h
    exact spaced_nil
  | some c =>
    obtain ⟨kind, rfl, rfl⟩ | ⟨x, rfl, rfl⟩ | ⟨kind, members, parts, rfl, -, hparts, rfl⟩ :=
      ofCriteria_cases h
    · exact spaced_nil
    · exact spaced_ofComparison x
    · refine spaced_combine kind fun p hp => ?_
      obtain ⟨c, -, hc⟩ := exists_of_mem_right hparts hp
      exact spaced_inner hc

end TableGateway.Predicate
