import TableGateway.Proofs.Sql.Condition
import TableGateway.Proofs.Sql.RowOperation
import TableGateway.Proofs.Wire.Decoding

/-!
# Filters reach the statement

A filter that was written is never lost between the wire and the statement: decoded criteria have no
group without members, so they compile, and to a text that is not empty; and a predicate with
text restricts the statement that it is compiled into.

* `filled_entryOf` — the invariant of all criteria that the decoder builds.
* `Statement.Restricts` — a statement has a WHERE with the condition of a predicate.
* **`criteriaOf_filters`** — from a document with entries to the statements over its criteria.
-/

namespace TableGateway

open Sql SqlText

/-! ## Statements with a condition -/

/-- The engine's lexer finds a WHERE in a statement, and after it the condition of a predicate. -/
def Statement.Restricts (s : Statement) (p : Predicate) : Prop :=
  ∃ front condition back, lex p.text.render = some condition ∧
    lex s.sql = some (front ++ .word "WHERE" :: condition ++ back)

namespace Statement

variable {s : Statement} {p : Predicate} {q : Query}

/-- A statement whose text has the clause of a predicate is restricted by it. -/
lemma restricts_of_text (hs : s.text.Spaced) (hp : p.text.Spaced) (hne : p.text ≠ [])
    {front back : SqlText} (htext : s.text = front ++ p.whereClause ++ back) : s.Restricts p := by
  have hwhere : tokens p.whereClause = .word "WHERE" :: tokens p.text := by
    have hkeyword : (Piece.verbatim " WHERE ").tokens = [.word "WHERE"] := by decide
    have hempty : p.text.isEmpty = false := by simpa using hne
    rw [Predicate.whereClause, hempty]
    simp [hkeyword]
  refine ⟨tokens front, tokens p.text, tokens back, lex_render hp, ?_⟩
  rw [sql, lex_render hs, htext, tokens_append, tokens_append, hwhere]

/-- A selection has the clause between a front and a back. -/
lemma selectPage_text (hp : Predicate.ofCriteria q.criteria = .ok p) (page : Page) :
    ∃ s front back, selectPage q page = .ok s ∧ s.text = front ++ p.whereClause ++ back :=
  ⟨_, .verbatim "SELECT * FROM " :: qualified q.table, q.sort.clause ++ page.clause,
    selectPage_eq_ok.mpr ⟨p, hp, rfl⟩, List.append_assoc _ _ _⟩

/-- A selection is restricted by the condition. -/
lemma selectPage_restricts (hp : Predicate.ofCriteria q.criteria = .ok p) (hne : p.text ≠ [])
    (page : Page) : ∃ s, selectPage q page = .ok s ∧ s.Restricts p := by
  obtain ⟨s, front, back, hs, htext⟩ := selectPage_text hp page
  exact ⟨s, hs, restricts_of_text (spaced_selectPage hs) (Predicate.spaced_ofCriteria hp) hne htext⟩

lemma count_restricts (hp : Predicate.ofCriteria q.criteria = .ok p) (hne : p.text ≠ [])
    (paginate : Bool) : ∃ s, count q paginate = .ok s ∧ s.Restricts p := by
  obtain ⟨inner, front, back, hinner, htext⟩ :=
    selectPage_text hp (if paginate then q.page else .all)
  have hs := count_eq_ok.mpr ⟨inner, hinner, rfl⟩
  have hcount : .verbatim "SELECT COUNT(*) AS count FROM (" :: inner.text ++ [.verbatim ") AS a"]
      = .verbatim "SELECT COUNT(*) AS count FROM (" :: front ++ p.whereClause ++
        (back ++ [.verbatim ") AS a"]) := by
    simp [htext]
  exact ⟨_, hs, restricts_of_text (spaced_count hs) (Predicate.spaced_ofCriteria hp) hne hcount⟩

lemma delete_restricts (hp : Predicate.ofCriteria q.criteria = .ok p) (hne : p.text ≠ []) :
    ∃ s, delete q = .ok s ∧ s.Restricts p := by
  have hs := delete_eq_ok.mpr ⟨p, hp, rfl⟩
  exact ⟨_, hs, restricts_of_text (spaced_delete hs) (Predicate.spaced_ofCriteria hp) hne
    (List.append_nil _).symm⟩

lemma update_restricts (hp : Predicate.ofCriteria q.criteria = .ok p) (hne : p.text ≠ [])
    {sets : Row} (hsets : sets.isEmpty = false) : ∃ s, update q sets = .ok s ∧ s.Restricts p := by
  have hs := update_eq_ok.mpr ⟨hsets, p, hp, rfl⟩
  exact ⟨_, hs, restricts_of_text (spaced_update hs) (Predicate.spaced_ofCriteria hp) hne
    (List.append_nil _).symm⟩

end Statement

/-! ## Decoded criteria -/

namespace Wire

variable {key : String} {value : Json} {c : Criterion}

/-- What is gathered from filled members is filled. -/
lemma Gathers.filled {members : List Criterion} (h : Gathers members c)
    (hmembers : ∀ d ∈ members, d.Filled) : c.Filled := by
  cases h with
  | single c => exact hmembers c List.mem_cons_self
  | several c d rest => exact .group .and (by simp) hmembers

/-- No group that the decoder builds is without members. -/
theorem filled_entryOf (h : entryOf key value = .ok c) : c.Filled := by
  refine entryOf_induction (motive := fun _ _ c => c.Filled) ?_ ?_ h
  · intro key value _ _ _
    exact .comparison _
  · intro key kind branches members _ hne hbranches
    refine .group kind ?_ fun c hc => ?_
    · rintro rfl
      exact hne (List.forall₂_nil_right_iff.mp hbranches)
    · obtain ⟨branch, -, entries, cs, -, hentries, hgathers⟩ := exists_of_mem_right hbranches hc
      refine hgathers.filled fun d hd => ?_
      obtain ⟨e, -, hfilled⟩ := exists_of_mem_right hentries hd
      exact hfilled

/-- Decoded criteria, where there are any, have no group without members. -/
lemma filled_criteriaOf {j : Json} (h : criteriaOf j = .ok (some c)) : c.Filled := by
  obtain ⟨-, hnone⟩ | ⟨entries, members, d, -, hentries, hgathers, hsome⟩ := criteriaOf_eq_ok h
  · simp at hnone
  · obtain rfl : c = d := by simpa using hsome
    refine hgathers.filled fun d hd => ?_
    obtain ⟨e, -, hentry⟩ := exists_of_mem_right hentries hd
    exact filled_entryOf hentry

/-- Only the object without entries asks for nothing. -/
lemma criteriaOf_eq_none {j : Json} : criteriaOf j = .ok none ↔ j = .object [] := by
  constructor
  · intro h
    obtain ⟨rfl, -⟩ | ⟨_, _, _, _, _, _, hsome⟩ := criteriaOf_eq_ok h
    · rfl
    · simp at hsome
  · rintro rfl
    rfl

/-- **A filter is never lost.**  Only the object without entries asks for nothing.  Any other object
is refused, or it decodes to criteria that compile to a text with at least one value, and every
statement over them has a WHERE with the condition that this text is. -/
theorem criteriaOf_filters :
    (∀ j, criteriaOf j = .ok none ↔ j = .object []) ∧
    ∀ entries, entries ≠ [] → (∃ e, criteriaOf (.object entries) = .error e) ∨
      ∃ c p, criteriaOf (.object entries) = .ok (some c) ∧
        Predicate.ofCriteria (some c) = .ok p ∧ p.text.render ≠ "" ∧ p.params ≠ [] ∧
        ∀ q : Query, q.criteria = some c →
          (∃ s, Statement.select q = .ok s ∧ s.Restricts p) ∧
          (∀ paginate, ∃ s, Statement.count q paginate = .ok s ∧ s.Restricts p) ∧
          (∃ s, Statement.delete q = .ok s ∧ s.Restricts p) ∧
          ∀ sets : Row, sets.isEmpty = false →
            ∃ s, Statement.update q sets = .ok s ∧ s.Restricts p := by
  refine ⟨fun j => criteriaOf_eq_none, fun entries hentries => ?_⟩
  cases hdecoded : criteriaOf (.object entries) with
  | error e => exact .inl ⟨e, rfl⟩
  | ok criteria =>
    cases criteria with
    | none => exact absurd (by simpa using criteriaOf_eq_none.mp hdecoded) hentries
    | some c =>
      obtain ⟨p, hp, e, hderives, -⟩ := exists_says (filled_criteriaOf hdecoded)
      obtain ⟨htokens, hparams⟩ := hderives.ne_nil
      have hne : p.text ≠ [] := fun htext => htokens (by rw [htext]; rfl)
      have hrender : p.text.render ≠ "" := by
        intro hempty
        have hlex := lex_render (Predicate.spaced_ofCriteria hp)
        rw [hempty] at hlex
        exact htokens (Option.some.inj hlex).symm
      refine .inr ⟨c, p, rfl, hp, hrender, hparams, fun q hq => ?_⟩
      rw [← hq] at hp
      exact ⟨Statement.selectPage_restricts hp hne q.page, Statement.count_restricts hp hne,
        Statement.delete_restricts hp hne, fun sets => Statement.update_restricts hp hne⟩

/-- A deletion over a group of one branch keeps its condition. -/
theorem criteriaOf_filters_branch :
    ∃ c p, criteriaOf (.object [("!or", .array [.object [("b!gt", .string "x")]])]) = .ok (some c) ∧
      Predicate.ofCriteria (some c) = .ok p ∧
      ∃ s, Statement.delete ⟨"t", some c, .empty, .all⟩ = .ok s ∧ s.Restricts p := by
  obtain ⟨e, he⟩ | ⟨c, p, hc, hp, -, -, hstatements⟩ :=
    criteriaOf_filters.2 [("!or", .array [.object [("b!gt", .string "x")]])] (by simp)
  · have hdecodes : criteriaOf (.object [("!or", .array [.object [("b!gt", .string "x")]])])
        = .ok (some (.group .or [.compare "b" .gt (.string "x")])) := rfl
    rw [hdecodes] at he
    simp at he
  · exact ⟨c, p, hc, hp, (hstatements _ rfl).2.2.1⟩

end Wire

end TableGateway
