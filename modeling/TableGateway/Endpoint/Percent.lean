import TableGateway.Text.Numeral
import TableGateway.Text.Utf8

/-!
# Percent escapes

Parts of a URL write a byte as `%` with two hexadecimal digits.  `Percent.decode` gives the text of
such a part: escapes become their bytes, every other character its own, and bytes that are no
UTF-8 become U+FFFD.  A `%` without two digits stands for itself.

`formPairs` reads the names and values of a query, where a plus sign stands for a space.
-/

namespace TableGateway.Percent

/-- The bytes of a part. -/
def bytes : List Char → List UInt8
  | '%' :: a :: b :: rest =>
    match Text.hexDigit? a, Text.hexDigit? b with
    | some x, some y => UInt8.ofNat (x * 16 + y) :: bytes rest
    | _, _ => UInt8.ofNat '%'.toNat :: bytes (a :: b :: rest)
  | c :: rest => Text.Utf8.encode (String.singleton c) ++ bytes rest
  | [] => []

/-- The text of a part. -/
def decode (cs : List Char) : String :=
  Text.Utf8.decodeLossy (bytes cs)

/-- The text of a name or value in a query. -/
def decodeForm (cs : List Char) : String :=
  decode (cs.map fun c => if c = '+' then ' ' else c)

/-- The name and the value of a pair; without `=` the value is empty. -/
def formPair (cs : List Char) : String × String :=
  (decodeForm (cs.takeWhile (· ≠ '=')), decodeForm ((cs.dropWhile (· ≠ '=')).drop 1))

/-- The names and values of a query. -/
def formPairs (cs : List Char) : List (String × String) :=
  ((cs.splitOn '&').filter fun part => !part.isEmpty).map formPair

end TableGateway.Percent
