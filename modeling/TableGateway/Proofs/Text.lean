import Mathlib.Algebra.Group.Nat.Defs
import TableGateway.Text.Numeral

/-!
# Numbers between separators

Temporal values are written as runs of digits with separators between them.  Such a text can be
taken apart again: a run of digits holds no separator, and padded with zeros it still says its
number.

* `Text.padded_succ` — padding read from its last digit; `Text.length_padded` and
  `Text.padded_mul_ten` follow from it by induction on the width.
* `Text.value?_padded`, `Text.padded_inj` — a padded number says its number.
* `Text.append_cons_inj`, `Text.cons_append_inj` — a text is cut at its first separator, and at its
  last one, in one way.
* `Text.infix_iff_prefix` — what it takes to find a text in another one that agrees with it up to the
  last separator.
-/

namespace TableGateway.Text

/-! ## Padded numbers -/

section

variable {width m n : Nat}

/-- A padded number has only digits. -/
lemma isDigit_of_mem_padded {c : Char} (h : c ∈ padded width n) : c.isDigit = true := by
  rcases List.mem_append.mp h with hzero | hdigit
  · rw [List.eq_of_mem_replicate hzero]
    rfl
  · exact Nat.isDigit_of_mem_toDigits (by decide) (by decide) hdigit

lemma notMem_padded {c : Char} (h : c.isDigit = false) : c ∉ padded width n := by
  intro hmem
  simp [isDigit_of_mem_padded hmem] at h

/-- Padding does not change the number. -/
lemma ofDigitChars_padded (width n : Nat) : Nat.ofDigitChars 10 (padded width n) 0 = n := by
  rw [padded]
  generalize width - (digits n).length = zeros
  induction zeros with
  | zero => exact Nat.ofDigitChars_ten_toDigits
  | succ zeros ih => rw [List.replicate_succ, List.cons_append, Nat.ofDigitChars_cons]; exact ih

/-- Padding is read over. -/
theorem value?_padded (width n : Nat) : value? (padded width n) = some n := by
  have hne : padded width n ≠ [] := by simp [padded, digits, Nat.toDigits_ne_nil]
  exact value?_eq_some.mpr ⟨hne, fun _ => isDigit_of_mem_padded, ofDigitChars_padded width n⟩

/-- A padded number is as wide as it has to be. -/
lemma le_length_padded (width n : Nat) : width ≤ (padded width n).length := by
  rw [padded, List.length_append, List.length_replicate]
  omega

/-- A padded number says its number. -/
theorem padded_inj : padded width m = padded width n ↔ m = n := by
  constructor
  · intro h
    rw [← ofDigitChars_padded width m, h, ofDigitChars_padded]
  · rintro rfl
    rfl

/-- The last digit of a padded number stands after the number without it. -/
theorem padded_succ (h : 0 < width) (n : Nat) :
    padded (width + 1) n = padded width (n / 10) ++ [Nat.digitChar (n % 10)] := by
  rcases Nat.lt_or_ge n 10 with hn | hn
  · -- a single digit: before it there are only zeros, one of which is the quotient
    have hzeros : List.replicate width '0' = List.replicate (width - 1) '0' ++ ['0'] := by
      rw [← List.replicate_succ', Nat.sub_add_cancel h]
    have hdigits : digits n = [Nat.digitChar n] := Nat.toDigits_of_lt_base hn
    have hzero : digits 0 = ['0'] := by decide
    simp [padded, hdigits, hzero, hzeros, Nat.div_eq_of_lt hn, Nat.mod_eq_of_lt hn]
  · have hdigits : digits n = digits (n / 10) ++ [Nat.digitChar (n % 10)] :=
      Nat.toDigits_of_base_le (by decide) hn
    simp [padded, hdigits, Nat.add_sub_add_right]

/-- A padded number is no wider than it has to be if the number fits. -/
theorem length_padded (h : 0 < width) (hn : n < 10 ^ width) : (padded width n).length = width := by
  induction width generalizing n with
  | zero => contradiction
  | succ width ih =>
    rcases Nat.eq_zero_or_pos width with rfl | hpos
    · have hdigits : digits n = [Nat.digitChar n] := Nat.toDigits_of_lt_base hn
      simp [padded, hdigits]
    · have hquot : n / 10 < 10 ^ width := by
        rw [Nat.pow_succ] at hn
        omega
      rw [padded_succ hpos, List.length_append, ih hpos hquot, List.length_singleton]

/-- One more place of width and value is a zero at the end. -/
theorem padded_mul_ten (h : 0 < width) (n : Nat) :
    padded (width + 1) (n * 10) = padded width n ++ ['0'] := by
  rw [padded_succ h, Nat.mul_div_cancel n (by decide), Nat.mul_mod_left]
  rfl

end

/-! ## Separators -/

section

variable {sep : Char} {a b x y : List Char}

/-- A text is cut at its first separator in one way. -/
theorem append_cons_inj (ha : sep ∉ a) (hb : sep ∉ b) :
    a ++ sep :: x = b ++ sep :: y ↔ a = b ∧ x = y := by
  induction a generalizing b with
  | nil =>
    cases b with
    | nil => simp
    | cons d b =>
      have hd : sep ≠ d := fun h => hb (h ▸ List.mem_cons_self)
      simp [hd]
  | cons c a ih =>
    have hc : c ≠ sep := fun h => ha (h ▸ List.mem_cons_self)
    cases b with
    | nil => simp [hc]
    | cons d b =>
      rw [List.mem_cons, not_or] at ha hb
      simp [ih ha.2 hb.2, and_assoc]

/-- A text is cut at its last separator in one way. -/
theorem cons_append_inj (hx : sep ∉ x) (hy : sep ∉ y) :
    a ++ sep :: x = b ++ sep :: y ↔ a = b ∧ x = y := by
  have hreverse := append_cons_inj (x := a.reverse) (y := b.reverse)
    (mt List.mem_reverse.mp hx) (mt List.mem_reverse.mp hy)
  rw [← List.reverse_inj, List.reverse_append, List.reverse_append, List.reverse_cons,
    List.reverse_cons, List.append_assoc, List.append_assoc, List.singleton_append,
    List.singleton_append, hreverse, List.reverse_inj, List.reverse_inj, and_comm]

/-- Two texts that agree up to the last separator: one is found in the other if it begins alike
after the separator. -/
theorem infix_iff_prefix (hb : sep ∉ b) : x ++ sep :: a <:+: x ++ sep :: b ↔ a <+: b := by
  constructor
  · rintro ⟨before, after, h⟩
    have hcount := congrArg (List.count sep) h
    have hrest : sep ∉ a ++ after := by
      simp only [List.count_append, List.count_cons_self, List.count_eq_zero.mpr hb] at hcount
      rw [← List.count_eq_zero, List.count_append]
      omega
    have hcut : (before ++ x) ++ sep :: (a ++ after) = x ++ sep :: b := by simpa using h
    exact ⟨after, ((cons_append_inj hrest hb).mp hcut).2⟩
  · rintro ⟨after, rfl⟩
    exact ⟨[], after, by simp⟩

end

end TableGateway.Text
