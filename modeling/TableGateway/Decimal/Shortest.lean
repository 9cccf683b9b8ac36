import TableGateway.Double

/-!
# The fewest digits that read back

`Double.shortest` selects, for a finite number other than zero, the decimal with the fewest digits
among the reals that round to it, and of those the one nearest to it.

The search is exact.  The reals that round to `m * 2 ^ q` form an interval, from half way to the
neighbour below up to half way to the neighbour above, ends included exactly when `m` is even
(`readsBack`).  For 1, 2, … 17 digits the two neighbours of the value on that decimal grid are
tested; the first grid with a hit wins.  Where both neighbours are hits and equally near, `Tie`
decides.
-/

namespace TableGateway.Decimal

/-- The decimal `digits * 10 ^ exponent`. -/
structure Scientific where
  digits : Nat
  exponent : Int
  deriving DecidableEq, Repr

/-- Which of two equally near decimals is selected. -/
inductive Tie where
  | toEven
  | away
  deriving DecidableEq, Repr

/-- Compare `a * 10 ^ i` with `b * 2 ^ j`, exactly. -/
def compareScaled (a : Nat) (i : Int) (b : Nat) (j : Int) : Ordering :=
  compare (a * Double.powTen i * Double.powTwo (-j)) (b * Double.powTwo j * Double.powTen (-i))

/-- Whether a decimal lies among the reals that round to `m * 2 ^ q`.  Below the least significand
of a binade (`narrow`) the neighbour is half as far away. -/
def readsBack (m : Nat) (q : Int) (narrow : Bool) (d : Scientific) : Bool :=
  let low := compareScaled d.digits d.exponent (4 * m - if narrow then 1 else 2) (q - 2)
  let high := compareScaled d.digits d.exponent (4 * m + 2) (q - 2)
  let ends := m % 2 == 0
  (low == .gt || (ends && low == .eq)) && (high == .lt || (ends && high == .eq))

/-- The least `k` with `m * 2 ^ q < 10 ^ k`, from an estimate by the binary logarithm. -/
def scale (m : Nat) (q : Int) : Int :=
  let estimate := (((m.log2 : Int) + q) * 30103).fdiv 100000
  let candidates := [estimate - 1, estimate, estimate + 1, estimate + 2]
  (candidates.find? fun k => compareScaled 1 k m q == .gt).getD (estimate + 3)

/-- The value on the grid of multiples of `10 ^ g`, rounded down. -/
def gridFloor (m : Nat) (q g : Int) : Nat :=
  m * Double.powTwo q * Double.powTen (-g) / (Double.powTwo (-q) * Double.powTen g)

/-- The nearer of the two neighbours of the value on a grid. -/
def nearer (tie : Tie) (m : Nat) (q : Int) (low high : Scientific) : Scientific :=
  match compareScaled (low.digits + high.digits) low.exponent m (q + 1) with
  | .gt => low
  | .lt => high
  | .eq => match tie with
    | .away => high
    | .toEven => if low.digits % 2 = 0 then low else high

/-- The decimal selected on the grid of multiples of `10 ^ g`, if one reads back. -/
def onGrid (tie : Tie) (m : Nat) (q : Int) (narrow : Bool) (g : Int) : Option Scientific :=
  let low : Scientific := ⟨gridFloor m q g, g⟩
  let high : Scientific := ⟨low.digits + 1, g⟩
  match readsBack m q narrow low, readsBack m q narrow high with
  | true, true => some (nearer tie m q low high)
  | true, false => some low
  | false, true => some high
  | false, false => none

/-- The same decimal without trailing zeros in its digits; `fuel` bounds their number. -/
def Scientific.strip (d : Scientific) : Nat → Scientific
  | 0 => d
  | fuel + 1 =>
    if d.digits ≠ 0 ∧ d.digits % 10 = 0 then
      Scientific.strip ⟨d.digits / 10, d.exponent + 1⟩ fuel
    else d

/-- The decimal with the fewest digits that reads back to a finite number other than zero.  The
exact value stands in for a search without a hit. -/
def shortest (tie : Tie) (x : Double) : Scientific :=
  let (m, q) := x.decompose
  let narrow := m == Double.leadingBit && -1074 < q
  let k := scale m q
  let hit := (List.range 17).findSome? fun n => onGrid tie m q narrow (k - 1 - Int.ofNat n)
  let exact : Scientific := ⟨m * Double.powTwo q * Nat.pow 5 (-q).toNat, min q 0⟩
  (hit.getD exact).strip 20

end TableGateway.Decimal
