import Mathlib.Data.List.Forall2

/-!
# Results in sequence

What a computation that may fail gives, read backwards: a step followed by another succeeds where
both do, and a step for each item of a list where all of them do.
-/

namespace TableGateway

variable {ε α β : Type}

/-- Two maps over a result are one. -/
lemma map_map {γ : Type} (f : α → β) (g : β → γ) (result : Except ε α) :
    (result.map f).map g = result.map fun a => g (f a) :=
  Functor.map_map f g result

/-- A sequence of two steps succeeds exactly if both steps do. -/
lemma bind_eq_ok {x : Except ε α} {f : α → Except ε β} {b : β} :
    (x >>= f) = .ok b ↔ ∃ a, x = .ok a ∧ f a = .ok b := by
  cases x with
  | error e => simp [bind, Except.bind]
  | ok a => simp [bind, Except.bind]

/-- A function that takes a step for each item of a list, and stops where one fails, gives what the
steps give. -/
lemma sequence_eq_ok (step : α → Except ε β) (steps : List α → Except ε (List β))
    (hnil : steps [] = .ok [])
    (hcons : ∀ a rest, steps (a :: rest) = do
      let b ← step a
      let others ← steps rest
      .ok (b :: others))
    {as : List α} {bs : List β} :
    steps as = .ok bs ↔ List.Forall₂ (fun a b => step a = .ok b) as bs := by
  induction as generalizing bs with
  | nil => simp [hnil, eq_comm]
  | cons a rest ih =>
    rw [hcons, bind_eq_ok, List.forall₂_cons_left_iff]
    simp only [bind_eq_ok, ih, Except.ok.injEq]
    constructor
    · rintro ⟨b, hb, others, hothers, rfl⟩
      exact ⟨b, others, hb, hothers, rfl⟩
    · rintro ⟨b, others, hb, hothers, rfl⟩
      exact ⟨b, hb, others, hothers, rfl⟩

/-- The first item of a list for which something holds is the head, or it is the first of the others
and the head may stand before it. -/
lemma exists_first_cons {P Q : α → Prop} {a : α} {rest : List α} :
    (∃ before b after, a :: rest = before ++ b :: after ∧ (∀ c ∈ before, P c) ∧ Q b) ↔
      Q a ∨ P a ∧ ∃ before b after, rest = before ++ b :: after ∧ (∀ c ∈ before, P c) ∧ Q b := by
  constructor
  · rintro ⟨_ | ⟨c, before⟩, b, after, hlist, hbefore, hb⟩
    · obtain ⟨rfl, -⟩ := List.cons.inj hlist
      exact .inl hb
    · obtain ⟨rfl, rfl⟩ := List.cons.inj hlist
      obtain ⟨ha, hbefore⟩ := List.forall_mem_cons.mp hbefore
      exact .inr ⟨ha, before, b, after, rfl, hbefore, hb⟩
  · rintro (ha | ⟨ha, before, b, after, rfl, hbefore, hb⟩)
    · exact ⟨[], a, rest, rfl, by simp, ha⟩
    · exact ⟨a :: before, b, after, rfl, List.forall_mem_cons.mpr ⟨ha, hbefore⟩, hb⟩

/-- Such a function fails with the error of the first step that fails. -/
lemma sequence_eq_error (step : α → Except ε β) (steps : List α → Except ε (List β))
    (hnil : steps [] = .ok [])
    (hcons : ∀ a rest, steps (a :: rest) = do
      let b ← step a
      let others ← steps rest
      .ok (b :: others))
    {as : List α} {e : ε} :
    steps as = .error e ↔ ∃ before a after, as = before ++ a :: after ∧
      (∀ b ∈ before, ∃ c, step b = .ok c) ∧ step a = .error e := by
  induction as with
  | nil => simp [hnil]
  | cons a rest ih =>
    rw [hcons, exists_first_cons, ← ih]
    cases step a with
    | error e' => simp [bind, Except.bind]
    | ok b => cases steps rest with
      | error e' => simp [bind, Except.bind]
      | ok others => simp [bind, Except.bind]

/-- What is in the second of two lists that correspond item by item corresponds to something in the
first. -/
lemma exists_of_mem_right {R : α → β → Prop} {as : List α} {bs : List β}
    (h : List.Forall₂ R as bs) {b : β} (hb : b ∈ bs) : ∃ a ∈ as, R a b := by
  induction h with
  | nil => simp at hb
  | cons hab _ ih =>
    rcases List.mem_cons.mp hb with rfl | hb
    · exact ⟨_, List.mem_cons_self, hab⟩
    · obtain ⟨a, hmem, hab⟩ := ih hb
      exact ⟨a, List.mem_cons_of_mem _ hmem, hab⟩

/-- Lists whose items correspond have the same images if items that correspond do. -/
lemma map_eq_of_forall₂ {γ : Type} {R : α → β → Prop} {f : α → γ} {g : β → γ} {as : List α}
    {bs : List β} (h : List.Forall₂ R as bs) (hR : ∀ a b, R a b → g b = f a) :
    bs.map g = as.map f := by
  rw [← List.forall₂_eq_eq_eq, List.forall₂_map_left_iff, List.forall₂_map_right_iff]
  exact h.flip.imp fun b a hab => hR a b hab

/-- Correspondences of items compose. -/
lemma forall₂_comp {γ : Type} {R : α → β → Prop} {S : β → γ → Prop} {T : α → γ → Prop}
    (hT : ∀ a b c, R a b → S b c → T a c) {as : List α} {bs : List β} {cs : List γ}
    (hab : List.Forall₂ R as bs) (hbc : List.Forall₂ S bs cs) : List.Forall₂ T as cs := by
  induction hab generalizing cs with
  | nil =>
    cases hbc
    exact .nil
  | cons hab _ ih =>
    cases hbc with
    | cons hbc hrest => exact .cons (hT _ _ _ hab hbc) (ih hrest)

end TableGateway
