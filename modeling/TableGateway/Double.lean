/-!
# Binary floating-point numbers

A `Double` is the 64 bits of a binary64 number, a `Single` the 32 bits of a binary32 number.
Keeping the bits, and no machine float, makes every operation here a computation on naturals.

* `Double.same` — equality of the numbers: NaN differs from itself, and both zeros are equal.
* `Double.ofRatio` — a quotient of naturals, rounded to nearest with ties to even; integers, and
  products and quotients of finite numbers (`mul`, `div`), go through it.
* `Single.widen` — the same number with more digits, which is always exact.
-/

namespace TableGateway

/-- A binary64 number by its bits. -/
structure Double where
  bits : UInt64
  deriving DecidableEq, Repr, Inhabited

/-- A binary32 number by its bits. -/
structure Single where
  bits : UInt32
  deriving DecidableEq, Repr, Inhabited

namespace Double

/-- Two to a power, and one where the exponent is negative. -/
def powTwo (k : Int) : Nat := Nat.pow 2 k.toNat

/-- Ten to a power, and one where the exponent is negative. -/
def powTen (k : Int) : Nat := Nat.pow 10 k.toNat

/-- The leading bit of a normal number's significand, above the 52 bits that are stored. -/
def leadingBit : Nat := 0x10000000000000

/-- The least magnitude that is no finite number: the bits of infinity. -/
def infinityBits : Nat := 0x7FF0000000000000

/-- Whether the sign bit is set. -/
def isNegative (x : Double) : Bool := 0x8000000000000000 ≤ x.bits.toNat

/-- The bits without the sign. -/
def magnitude (x : Double) : Nat := x.bits.toNat % 0x8000000000000000

def isNaN (x : Double) : Bool := infinityBits < x.magnitude

def isFinite (x : Double) : Bool := x.magnitude < infinityBits

def isZero (x : Double) : Bool := x.magnitude = 0

/-- Equality of the numbers that the bits stand for. -/
def same (x y : Double) : Bool :=
  !x.isNaN && !y.isNaN && (x.bits == y.bits || (x.isZero && y.isZero))

section

variable {x y z : Double}

/-- Equal numbers are no NaN, and they have the same bits or are both zero. -/
theorem same_iff :
    x.same y = true ↔
      x.isNaN = false ∧ y.isNaN = false ∧ (x = y ∨ x.isZero = true ∧ y.isZero = true) := by
  cases x
  cases y
  simp [same, and_assoc]

theorem same_self_iff : x.same x = true ↔ x.isNaN = false := by
  simp [same_iff]

theorem same_symm (h : x.same y = true) : y.same x = true := by
  obtain ⟨hx, hy, h⟩ := same_iff.mp h
  exact same_iff.mpr ⟨hy, hx, h.imp Eq.symm And.symm⟩

theorem same_trans (hxy : x.same y = true) (hyz : y.same z = true) : x.same z = true := by
  obtain ⟨hx, -, hxy⟩ := same_iff.mp hxy
  obtain ⟨-, hz, hyz⟩ := same_iff.mp hyz
  refine same_iff.mpr ⟨hx, hz, ?_⟩
  rcases hxy with rfl | ⟨hx, hy⟩
  · exact hyz
  · rcases hyz with rfl | ⟨-, hz⟩
    · exact .inr ⟨hx, hy⟩
    · exact .inr ⟨hx, hz⟩

theorem isFinite_of_isZero (h : x.isZero = true) : x.isFinite = true := by
  simp only [isZero, decide_eq_true_eq] at h
  simp [isFinite, h, infinityBits]

theorem isNaN_of_isFinite (h : x.isFinite = true) : x.isNaN = false := by
  simp only [isFinite, decide_eq_true_eq] at h
  simpa [isNaN] using Nat.le_of_lt h

/-- Equal numbers are both finite or both infinite. -/
theorem isFinite_eq_of_same (h : x.same y = true) : x.isFinite = y.isFinite := by
  obtain ⟨-, -, rfl | ⟨hx, hy⟩⟩ := same_iff.mp h
  · rfl
  · rw [isFinite_of_isZero hx, isFinite_of_isZero hy]

end

/-- The number with this sign and these other bits. -/
def ofMagnitude (negative : Bool) (magnitude : Nat) : Double :=
  ⟨UInt64.ofNat ((if negative then 0x8000000000000000 else 0) + magnitude)⟩

/-- The binary exponent of the leading digit of a quotient of positive naturals. -/
def leadingExponent (num den : Nat) : Int :=
  let k : Int := (num.log2 : Int) - den.log2
  if den * powTwo k ≤ num * powTwo (-k) then k else k - 1

/-- A quotient of naturals to the nearest integer, ties to even. -/
def roundQuotient (num den : Nat) : Nat :=
  let q := num / den
  let r := num % den
  if 2 * r < den then q
  else if den < 2 * r then q + 1
  else q + q % 2

/-- The number nearest to `num / den`, ties to even, for a positive `den`.  What rounds beyond the
largest finite number is infinity.  With `e` the exponent of the last digit, the rounded
significand carries into the exponent field by plain addition. -/
def ofRatio (negative : Bool) (num den : Nat) : Double :=
  if num = 0 then ofMagnitude negative 0
  else
    let e := max (leadingExponent num den - 52) (-1074)
    let significand := roundQuotient (num * powTwo (-e)) (den * powTwo e)
    ofMagnitude negative (min ((e + 1074).toNat * leadingBit + significand) infinityBits)

/-- The number nearest to an integer. -/
def ofInt (n : Int) : Double :=
  ofRatio (n < 0) n.natAbs 1

/-- A finite number without its sign, as significand and binary exponent. -/
def decompose (x : Double) : Nat × Int :=
  let e := x.magnitude / leadingBit
  let f := x.magnitude % leadingBit
  if e = 0 then (f, -1074) else (leadingBit + f, Int.ofNat e - 1075)

/-- The product of finite numbers, rounded to nearest. -/
def mul (x y : Double) : Double :=
  let (m, j) := x.decompose
  let (n, k) := y.decompose
  ofRatio (x.isNegative != y.isNegative) (m * n * powTwo (j + k)) (powTwo (-(j + k)))

/-- The quotient of finite numbers, the second of which is not zero, rounded to nearest. -/
def div (x y : Double) : Double :=
  let (m, j) := x.decompose
  let (n, k) := y.decompose
  ofRatio (x.isNegative != y.isNegative) (m * powTwo (j - k)) (n * powTwo (k - j))

/-- The number nearest to a power of ten. -/
def ofPowTen (k : Nat) : Double :=
  ofRatio false (powTen k) 1

/-- Ten thirds are rounded up, and three times that is rounded down. -/
example : (ofPowTen 1).div (ofInt 3) = ⟨0x400AAAAAAAAAAAAB⟩ ∧
    ((ofPowTen 1).div (ofInt 3)).mul (ofInt (-3)) = ofInt (-10) := by
  decide

end Double

/-- The same number in binary64.  A NaN keeps its payload and becomes quiet. -/
def Single.widen (x : Single) : Double :=
  let negative : Bool := 0x80000000 ≤ x.bits.toNat
  let magnitude := x.bits.toNat % 0x80000000
  let e := magnitude / 0x800000
  let f := magnitude % 0x800000
  if e = 0xFF then
    Double.ofMagnitude negative
      (Double.infinityBits + if f = 0 then 0 else f % 0x400000 * 0x20000000 + 0x8000000000000)
  else if e = 0 then Double.ofRatio negative f (Double.powTwo 149)
  else Double.ofMagnitude negative ((e + 896) * Double.leadingBit + f * 0x20000000)

end TableGateway
