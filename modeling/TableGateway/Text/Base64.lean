/-!
# Base64

Bytes inside a text: three bytes become four letters of a 64-letter alphabet, and a short last
group is filled up with `=`.
-/

namespace TableGateway.Text.Base64

/-- The 64 letters, in the order of the values they stand for. -/
def alphabet : List Char :=
  "ABCDEFGHIJKLMNOPQRSTUVWXYZabcdefghijklmnopqrstuvwxyz0123456789+/".toList

/-- The letter for the six lowest bits of a number. -/
def letter (n : Nat) : Char :=
  alphabet.getD (n % 64) '='

/-- The letters for the bytes, group by group. -/
def letters : List UInt8 → List Char
  | a :: b :: c :: rest =>
    let n := a.toNat * 0x10000 + b.toNat * 0x100 + c.toNat
    letter (n / 0x40000) :: letter (n / 0x1000) :: letter (n / 0x40) :: letter n :: letters rest
  | [a, b] =>
    let n := a.toNat * 0x10000 + b.toNat * 0x100
    [letter (n / 0x40000), letter (n / 0x1000), letter (n / 0x40), '=']
  | [a] =>
    let n := a.toNat * 0x10000
    [letter (n / 0x40000), letter (n / 0x1000), '=', '=']
  | [] => []

/-- The text that stands for the bytes. -/
def encode (bytes : List UInt8) : String :=
  String.ofList (letters bytes)

end TableGateway.Text.Base64
