/-!
# Decimal numerals

Naturals written in base ten, plain (`digits`) or padded with zeros to a least width (`padded`),
and read back from a run of digits (`value?`).
-/

namespace TableGateway.Text

/-- The decimal digits of a natural, without leading zeros. -/
def digits (n : Nat) : List Char :=
  Nat.toDigits 10 n

/-- The decimal digits of a natural, with leading zeros up to the width. -/
def padded (width n : Nat) : List Char :=
  List.replicate (width - (digits n).length) '0' ++ digits n

/-- The text of an integer: a minus sign where it is negative, then digits. -/
def integer (n : Int) : List Char :=
  if n < 0 then '-' :: digits n.natAbs else digits n.natAbs

/-- The value of a decimal digit. -/
def digit? (c : Char) : Option Nat :=
  if '0' ≤ c ∧ c ≤ '9' then some (c.toNat - 48) else none

/-- The value of a run of digits, read on from `n`. -/
def valueFrom? (n : Nat) : List Char → Option Nat
  | [] => some n
  | c :: rest => do
    let d ← digit? c
    valueFrom? (n * 10 + d) rest

/-- The value of a run of at least one digit. -/
def value? : List Char → Option Nat
  | [] => none
  | cs => valueFrom? 0 cs

theorem valueFrom?_of_isDigit {cs : List Char} (h : ∀ c ∈ cs, c.isDigit = true) (n : Nat) :
    valueFrom? n cs = some (Nat.ofDigitChars 10 cs n) := by
  induction cs generalizing n with
  | nil => rfl
  | cons c rest ih =>
    have hc : '0' ≤ c ∧ c ≤ '9' := Char.isDigit_iff_toNat.mp (h c List.mem_cons_self)
    have hdigit : digit? c = some (c.toNat - 48) := if_pos hc
    have hrest : ∀ d ∈ rest, d.isDigit = true := fun d hd => h d (List.mem_cons_of_mem _ hd)
    rw [valueFrom?, hdigit, Nat.ofDigitChars_cons, Nat.mul_comm 10 n]
    exact ih hrest _

theorem isDigit_of_valueFrom? {cs : List Char} {n v : Nat} (h : valueFrom? n cs = some v) :
    ∀ c ∈ cs, c.isDigit = true := by
  induction cs generalizing n with
  | nil => simp
  | cons c rest ih =>
    rw [valueFrom?] at h
    obtain ⟨d, hd, hrest⟩ := Option.bind_eq_some_iff.mp h
    rw [digit?, Option.ite_none_right_eq_some] at hd
    exact List.forall_mem_cons.mpr ⟨Char.isDigit_iff_toNat.mpr hd.1, ih hrest⟩

/-- What has a value is a run of digits, and its value is theirs. -/
theorem value?_eq_some {cs : List Char} {n : Nat} :
    value? cs = some n ↔
      cs ≠ [] ∧ (∀ c ∈ cs, c.isDigit = true) ∧ Nat.ofDigitChars 10 cs 0 = n := by
  cases cs with
  | nil => simp [value?]
  | cons c rest =>
    change valueFrom? 0 (c :: rest) = some n ↔ _
    constructor
    · intro h
      have hdigits := isDigit_of_valueFrom? h
      rw [valueFrom?_of_isDigit hdigits] at h
      exact ⟨List.cons_ne_nil _ _, hdigits, Option.some.inj h⟩
    · rintro ⟨-, hdigits, h⟩
      rw [valueFrom?_of_isDigit hdigits, h]

/-- The digits of a natural are read back as the natural. -/
theorem value?_digits (n : Nat) : value? (digits n) = some n := by
  have hdigits : ∀ c ∈ digits n, c.isDigit = true := fun c hc =>
    Nat.isDigit_of_mem_toDigits (by decide) (by decide) hc
  have hvalue : valueFrom? 0 (digits n) = some n := by
    rw [valueFrom?_of_isDigit hdigits, digits, Nat.ofDigitChars_ten_toDigits]
  cases hcs : digits n with
  | nil => exact absurd hcs Nat.toDigits_ne_nil
  | cons c rest =>
    rw [hcs] at hvalue
    exact hvalue

/-- A natural below the bound: digits, with an optional leading plus sign. -/
def natural? (bound : Nat) (s : String) : Option Nat :=
  let digits := match s.toList with
    | '+' :: rest => rest
    | cs => cs
  (value? digits).filter (· < bound)

/-- A natural is read in digits, with or without a plus sign before them, that say less than the
bound. -/
theorem natural?_eq_some {bound n : Nat} {s : String} :
    natural? bound s = some n ↔ n < bound ∧ ∃ sign digits, s.toList = sign ++ digits ∧
      (sign = [] ∨ sign = ['+']) ∧ value? digits = some n := by
  have hplus (rest : List Char) : value? ('+' :: rest) ≠ some n := fun h =>
    absurd ((value?_eq_some.mp h).2.1 '+' List.mem_cons_self) (by decide)
  rw [natural?, Option.filter_eq_some_iff, decide_eq_true_eq, and_comm]
  refine and_congr_right fun _ => ⟨fun h => ?_, ?_⟩
  · split at h
    · exact ⟨['+'], _, by assumption, .inr rfl, h⟩
    · exact ⟨[], _, rfl, .inl rfl, h⟩
  · rintro ⟨sign, digits, hs, rfl | rfl, h⟩
    · split
      · rename_i rest hrest
        rw [hs, List.nil_append] at hrest
        exact absurd (hrest ▸ h) (hplus rest)
      · rw [hs, List.nil_append, h]
    · rw [hs]
      exact h

/-- An integer from `low` up to `high`: digits, with an optional leading sign. -/
def integer? (low high : Int) (s : String) : Option Int :=
  let read := match s.toList with
    | '+' :: rest => (value? rest).map Int.ofNat
    | '-' :: rest => (value? rest).map fun n => - Int.ofNat n
    | cs => (value? cs).map Int.ofNat
  read.filter fun n => low ≤ n && n ≤ high

/-- The value of a hexadecimal digit of either case. -/
def hexDigit? (c : Char) : Option Nat :=
  if '0' ≤ c ∧ c ≤ '9' then some (c.toNat - 48)
  else if 'a' ≤ c ∧ c ≤ 'f' then some (c.toNat - 87)
  else if 'A' ≤ c ∧ c ≤ 'F' then some (c.toNat - 55)
  else none

/-- The value of a run of hexadecimal digits, read on from `n`. -/
def hexFrom? (n : Nat) : List Char → Option Nat
  | [] => some n
  | c :: rest => do
    let d ← hexDigit? c
    hexFrom? (n * 16 + d) rest

/-- The lower-case hexadecimal digits of a natural, with leading zeros up to the width. -/
def hexPadded (width n : Nat) : List Char :=
  let ds := Nat.toDigits 16 n
  List.replicate (width - ds.length) '0' ++ ds

end TableGateway.Text
