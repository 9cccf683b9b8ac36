import TableGateway.Proofs.Sql.Condition

/-!
# Criteria that do not compile

A group without members is nothing that a condition could say.  Outermost it asks for nothing, and
everywhere else it makes the compiler fail.  Which group is reported is decided by the order in
which the compiler goes through the criteria, and this order is written down here by itself.

* `Criterion.preorder` — a criterion and all that is inside it, each group before its members;
  `Criterion.insideOf` leaves the outermost one out.
* `Predicate.Reports` — a compilation fails with one group, or it succeeds; `Reports.bind` says that
  of two steps the first failure is reported.
* `Predicate.reports_ofCriteria` — what is reported is the first empty group in the order.
* **`Predicate.ofCriteria_reports`** — when compiling fails and with which error, and when it gives
  no condition.
-/

namespace TableGateway

/-! ## The order of criteria -/

namespace Criterion

mutual

/-- A criterion and everything inside it, depth first and from left to right. -/
def preorder : Criterion → List Criterion
  | .comparison c => [.comparison c]
  | .group kind members => .group kind members :: preorderAll members

/-- A list of criteria, each followed by everything inside it. -/
def preorderAll : List Criterion → List Criterion
  | [] => []
  | c :: rest => preorder c ++ preorderAll rest

end

/-- Everything inside a criterion. -/
def inside : Criterion → List Criterion
  | .comparison _ => []
  | .group _ members => preorderAll members

/-- Everything inside criteria that may be missing. -/
def insideOf (criteria : Option Criterion) : List Criterion :=
  criteria.elim [] inside

/-- The combinator of a group without members. -/
def emptyGroup? : Criterion → Option Combinator
  | .group kind [] => some kind
  | _ => none

/-- The empty groups are the groups without members. -/
lemma emptyGroup?_eq_some {c : Criterion} {kind : Combinator} :
    c.emptyGroup? = some kind ↔ c = .group kind [] := by
  rcases c with x | ⟨kind', _ | ⟨d, members⟩⟩
  · simp [emptyGroup?]
  · simp [emptyGroup?]
  · simp [emptyGroup?]

/-- Everything else is no empty group. -/
lemma emptyGroup?_eq_none {c : Criterion} :
    c.emptyGroup? = none ↔ ∀ kind, c ≠ .group kind [] := by
  rw [Option.eq_none_iff_forall_ne_some]
  exact forall_congr' fun kind => not_congr emptyGroup?_eq_some

/-- There are no criteria, or the outermost group has no members. -/
def AsksNothing (criteria : Option Criterion) : Prop :=
  criteria = none ∨ ∃ kind, criteria = some (.group kind [])

end Criterion

/-! ## The first failure -/

namespace Predicate

open Criterion

/-- A compilation fails with the group that is given, or succeeds if none is. -/
def Reports {α : Type} (first : Option Combinator) (x : Except CompileError α) : Prop :=
  match first with
  | some kind => x = .error (.emptyGroup kind)
  | none => ∃ a, x = .ok a

namespace Reports

variable {α β : Type} {first next : Option Combinator} {x : Except CompileError α}

/-- Of two steps the second one fails only if the first one does not. -/
theorem bind {f : α → Except CompileError β} (hx : Reports first x)
    (hf : ∀ a, Reports next (f a)) : Reports (first.or next) (x >>= f) := by
  cases first with
  | some kind =>
    rw [Reports] at hx
    subst hx
    rfl
  | none =>
    obtain ⟨a, rfl⟩ := hx
    exact hf a

/-- What is done with a result does not change what is reported. -/
lemma map {f : α → β} (hx : Reports first x) : Reports first (x >>= fun a => .ok (f a)) := by
  have hbind : Reports (first.or none) (x >>= fun a => .ok (f a)) := hx.bind fun a => ⟨f a, rfl⟩
  rwa [Option.or_none] at hbind

/-- A report of an empty group is of the first one. -/
lemma eq_error (h : Reports first x) (e : CompileError) :
    x = .error e ↔ ∃ kind, first = some kind ∧ e = .emptyGroup kind := by
  cases first with
  | some kind =>
    rw [Reports] at h
    simp [h, eq_comm]
  | none =>
    obtain ⟨a, rfl⟩ := h
    simp

end Reports

/-- Of the members of a group the first with an empty group is reported. -/
lemma reports_innerAll {members : List Criterion}
    (h : ∀ c ∈ members, Reports (c.preorder.findSome? emptyGroup?) (inner c)) :
    Reports ((preorderAll members).findSome? emptyGroup?) (innerAll members) := by
  induction members with
  | nil => exact ⟨[], rfl⟩
  | cons c rest ih =>
    obtain ⟨hc, hrest⟩ := List.forall_mem_cons.mp h
    rw [preorderAll, List.findSome?_append, innerAll]
    exact hc.bind fun p => (ih hrest).map

/-- A criterion inside a group reports its first empty group in depth-first order. -/
lemma reports_inner (c : Criterion) : Reports (c.preorder.findSome? emptyGroup?) (inner c) := by
  induction c using Criterion.induction with
  | comparison c => exact ⟨ofComparison c, by simp [inner]⟩
  | group kind members ih =>
    cases members with
    | nil =>
      rw [preorder, List.findSome?_cons]
      simp [emptyGroup?, Reports, inner]
    | cons c rest =>
      -- a group with members is none that is reported, so the order goes on with them
      have hgroup : (Criterion.group kind (c :: rest)).emptyGroup? = none := rfl
      rw [preorder, List.findSome?_cons_of_isNone (by simp [hgroup]), inner]
      exact (reports_innerAll ih).map

/-- Compiling reports the first empty group inside the criteria, if there is one. -/
theorem reports_ofCriteria (criteria : Option Criterion) :
    Reports ((insideOf criteria).findSome? emptyGroup?) (ofCriteria criteria) := by
  rcases criteria with _ | x | ⟨kind, _ | ⟨c, rest⟩⟩
  · exact ⟨empty, rfl⟩
  · exact ⟨ofComparison x, rfl⟩
  · exact ⟨empty, rfl⟩
  · rw [ofCriteria]
    exact (reports_innerAll fun d _ => reports_inner d).map

/-! ## What compiling gives -/

/-- A predicate with text has a text that is not empty, and values. -/
lemma ne_nil_of_ofCriteria {c : Criterion} {p : Predicate} (h : ofCriteria (some c) = .ok p)
    (hne : p.text ≠ []) : p.text.render ≠ "" ∧ p.params ≠ [] := by
  obtain ⟨e, hderives, -⟩ := Sql.says_ofCriteria h hne
  obtain ⟨htokens, hparams⟩ := hderives.ne_nil
  refine ⟨?_, hparams⟩
  intro hempty
  have hlex := SqlText.lex_render (spaced_ofCriteria h)
  rw [hempty] at hlex
  exact htokens (Option.some.inj hlex).symm

/-- Criteria that ask for nothing have the empty predicate. -/
lemma ofCriteria_of_asksNothing {criteria : Option Criterion} (h : AsksNothing criteria) :
    ofCriteria criteria = .ok empty := by
  rcases h with rfl | ⟨kind, rfl⟩
  · rfl
  · rfl

/-- Criteria that ask for something have text and values. -/
lemma ne_nil_of_not_asksNothing {criteria : Option Criterion} {p : Predicate}
    (hp : ofCriteria criteria = .ok p) (h : ¬ AsksNothing criteria) :
    p.text.render ≠ "" ∧ p.params ≠ [] := by
  have hne : p.text ≠ [] := mt (text_eq_nil_iff hp).mp h
  cases criteria with
  | none => exact absurd (.inl rfl) h
  | some c => exact ne_nil_of_ofCriteria hp hne

/-- **Compiling fails just on empty groups inside others.**  The error names the first of them in
depth-first order, and there is an error exactly if there is such a group.  Compiled criteria have
neither text nor values exactly if there are none or the outermost group has no members, and in all
other cases they have both. -/
theorem ofCriteria_reports (criteria : Option Criterion) :
    (∀ e, ofCriteria criteria = .error e ↔ ∃ kind before after, e = .emptyGroup kind ∧
      insideOf criteria = before ++ .group kind [] :: after ∧
      ∀ c ∈ before, ∀ kind', c ≠ .group kind' []) ∧
    ((∃ e, ofCriteria criteria = .error e) ↔ ∃ kind, .group kind [] ∈ insideOf criteria) ∧
    ((∃ p, ofCriteria criteria = .ok p ∧ p.text.render = "" ∧ p.params = []) ↔
      AsksNothing criteria) ∧
    ∀ p, ofCriteria criteria = .ok p → ¬ AsksNothing criteria →
      p.text.render ≠ "" ∧ p.params ≠ [] := by
  have hreports := reports_ofCriteria criteria
  refine ⟨?_, ?_, ?_, fun p => ne_nil_of_not_asksNothing⟩
  · intro e
    rw [hreports.eq_error]
    constructor
    · rintro ⟨kind, hfirst, rfl⟩
      obtain ⟨before, c, after, hinside, hc, hbefore⟩ := List.findSome?_eq_some_iff.mp hfirst
      obtain rfl := emptyGroup?_eq_some.mp hc
      exact ⟨kind, before, after, rfl, hinside, fun d hd => emptyGroup?_eq_none.mp (hbefore d hd)⟩
    · rintro ⟨kind, before, after, rfl, hinside, hbefore⟩
      refine ⟨kind, List.findSome?_eq_some_iff.mpr ⟨before, _, after, hinside, rfl, ?_⟩, rfl⟩
      intro d hd
      exact emptyGroup?_eq_none.mpr (hbefore d hd)
  · simp only [hreports.eq_error]
    constructor
    · rintro ⟨e, kind, hfirst, -⟩
      obtain ⟨c, hmem, hc⟩ := List.exists_of_findSome?_eq_some hfirst
      exact ⟨kind, emptyGroup?_eq_some.mp hc ▸ hmem⟩
    · rintro ⟨kind, hmem⟩
      cases hfirst : (insideOf criteria).findSome? emptyGroup? with
      | some kind' => exact ⟨_, kind', rfl, rfl⟩
      | none =>
        have hnone := List.findSome?_eq_none_iff.mp hfirst _ hmem
        simp [emptyGroup?] at hnone
  · constructor
    · rintro ⟨p, hp, hrender, -⟩
      by_contra hasks
      exact (ne_nil_of_not_asksNothing hp hasks).1 hrender
    · intro hasks
      exact ⟨empty, ofCriteria_of_asksNothing hasks, rfl, rfl⟩

/-- Two empty groups: the one that is deeper comes first, for it is further to the left. -/
theorem ofCriteria_reports_deeper :
    ofCriteria (some (.group .and [.compare "a" .eq .null,
      .group .and [.compare "b" .eq .null, .group .or []], .group .and []]))
      = .error (.emptyGroup .or) := by
  refine ((ofCriteria_reports _).1 _).mpr ⟨.or, [.compare "a" .eq .null,
    .group .and [.compare "b" .eq .null, .group .or []], .compare "b" .eq .null],
    [.group .and []], rfl, rfl, ?_⟩
  simp [Criterion.compare]

end Predicate

end TableGateway
