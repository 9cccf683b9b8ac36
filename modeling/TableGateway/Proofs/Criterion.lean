import Mathlib.Tactic.Lemma
import TableGateway.Criterion

/-!
# What criteria mean

The engine's conditions have three truth values: a comparison with null is neither true nor false.
Criteria are evaluated over any assignment of truth values to comparisons, so that nothing here
depends on how values are compared.

* `Truth` — the truth values, with `Truth.and` and `Truth.or`.
* `Criterion.eval` — the truth value of a criterion: its comparison's, or that of all its members
  combined.
* `Criterion.induction` — what holds of comparisons, and of a group if of its members, holds of
  every criterion.
* `Criterion.Filled` — no group at any depth is without members.
-/

namespace TableGateway

/-- A truth value of a condition. -/
inductive Truth where
  | false
  /-- Neither true nor false: what comes of a null. -/
  | unknown
  | true
  deriving DecidableEq, Repr

namespace Truth

/-- False where one side is, otherwise unknown where one side is. -/
def and : Truth → Truth → Truth
  | .false, _ => .false
  | _, .false => .false
  | .true, .true => .true
  | _, _ => .unknown

/-- True where one side is, otherwise unknown where one side is. -/
def or : Truth → Truth → Truth
  | .true, _ => .true
  | _, .true => .true
  | .false, .false => .false
  | _, _ => .unknown

lemma and_assoc (a b c : Truth) : (a.and b).and c = a.and (b.and c) := by
  cases a <;> cases b <;> cases c <;> rfl

lemma or_assoc (a b c : Truth) : (a.or b).or c = a.or (b.or c) := by
  cases a <;> cases b <;> cases c <;> rfl

@[simp] lemma and_true (a : Truth) : a.and .true = a := by cases a <;> rfl

@[simp] lemma or_false (a : Truth) : a.or .false = a := by cases a <;> rfl

@[simp] lemma and_eq_true {a b : Truth} : a.and b = .true ↔ a = .true ∧ b = .true := by
  cases a <;> cases b <;> decide

@[simp] lemma or_eq_true {a b : Truth} : a.or b = .true ↔ a = .true ∨ b = .true := by
  cases a <;> cases b <;> decide

end Truth

namespace Combinator

/-- Two truth values combined. -/
def apply : Combinator → Truth → Truth → Truth
  | .and => Truth.and
  | .or => Truth.or

/-- The truth value of a group without members. -/
def neutral : Combinator → Truth
  | .and => .true
  | .or => .false

/-- Both combinators are associative. -/
lemma apply_assoc (kind : Combinator) (a b c : Truth) :
    kind.apply (kind.apply a b) c = kind.apply a (kind.apply b c) := by
  cases kind with
  | and => exact Truth.and_assoc a b c
  | or => exact Truth.or_assoc a b c

@[simp] lemma apply_neutral (kind : Combinator) (a : Truth) :
    kind.apply a kind.neutral = a := by
  cases kind with
  | and => exact Truth.and_true a
  | or => exact Truth.or_false a

end Combinator

namespace Criterion

mutual

/-- The truth value of a criterion. -/
def eval (truth : Comparison → Truth) : Criterion → Truth
  | .comparison c => truth c
  | .group kind members => evalAll truth kind members

/-- The truth value of the members of a group, combined. -/
def evalAll (truth : Comparison → Truth) (kind : Combinator) : List Criterion → Truth
  | [] => kind.neutral
  | c :: rest => kind.apply (eval truth c) (evalAll truth kind rest)

end

/-- What holds of every comparison, and of a group if it holds of its members, holds of every
criterion. -/
@[elab_as_elim]
theorem induction {motive : Criterion → Prop} (comparison : ∀ c, motive (.comparison c))
    (group : ∀ kind members, (∀ c ∈ members, motive c) → motive (.group kind members)) :
    ∀ c, motive c :=
  Criterion.rec (motive_2 := fun members => ∀ c ∈ members, motive c) comparison group
    (by simp) (fun _ _ hc hrest => List.forall_mem_cons.mpr ⟨hc, hrest⟩)

/-- Every group in a criterion has members, at every depth. -/
inductive Filled : Criterion → Prop where
  | comparison (c : Comparison) : Filled (.comparison c)
  | group (kind : Combinator) {members : List Criterion} (hne : members ≠ [])
      (h : ∀ c ∈ members, Filled c) : Filled (.group kind members)

end Criterion

end TableGateway
