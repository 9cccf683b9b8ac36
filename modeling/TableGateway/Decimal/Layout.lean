import TableGateway.Decimal.Shortest
import TableGateway.Text.Numeral

/-!
# Floating-point numbers as text

A `Layout` holds the decisions of one written form: which exponents are written positionally, how
the exponent of the others is signed, and which of two equally near decimals is taken.  Both forms
that the library writes keep at least one digit after the point.
-/

namespace TableGateway.Decimal

/-- The decisions of one written form of a number. -/
structure Layout where
  /-- The least exponent of the leading digit that is written positionally. -/
  plainFrom : Int
  /-- The least exponent above those written positionally. -/
  plainBelow : Int
  /-- Whether a positive exponent carries a plus sign. -/
  exponentPlus : Bool
  tie : Tie

/-- Digits with the point set for the exponent `e` of the leading digit. -/
def Layout.positional (ds : List Char) (e : Int) : List Char :=
  if e < 0 then '0' :: '.' :: (List.replicate (-e - 1).toNat '0' ++ ds)
  else
    let whole := e.toNat + 1
    if ds.length ≤ whole then ds ++ List.replicate (whole - ds.length) '0' ++ ['.', '0']
    else ds.take whole ++ '.' :: ds.drop whole

/-- Digits with the point after the first, then the exponent. -/
def Layout.scientific (style : Layout) (ds : List Char) (e : Int) : List Char :=
  let fraction := if ds.length ≤ 1 then [] else '.' :: ds.drop 1
  let sign := if e < 0 then ['-'] else if style.exponentPlus then ['+'] else []
  ds.take 1 ++ fraction ++ 'e' :: (sign ++ Text.digits e.natAbs)

/-- The text of a finite number. -/
def Layout.write (style : Layout) (x : Double) : String :=
  let sign := if x.isNegative then ['-'] else []
  let body :=
    if x.isZero then ['0', '.', '0']
    else
      let d := shortest style.tie x
      let ds := Text.digits d.digits
      let e := d.exponent + (ds.length : Int) - 1
      if style.plainFrom ≤ e ∧ e < style.plainBelow then Layout.positional ds e
      else style.scientific ds e
  String.ofList (sign ++ body)

end TableGateway.Decimal
