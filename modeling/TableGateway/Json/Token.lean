import TableGateway.Json.Basic
import TableGateway.Text.Numeral

/-!
# JSON tokens

The words of a JSON text.  `tokens?` splits a text into them or says that it is no JSON text.

* Blanks are space, tab, carriage return and line feed.
* A string takes no character below U+0020 as it stands, and its escapes `\u` must form whole
  characters: a high surrogate is followed by a low one, and neither stands alone.
* A numeral is an integer if it has neither point nor exponent and fits; `-0` and integers out of
  range are floating-point numbers, and a number beyond the largest finite one is refused.
* A floating-point number is not the one nearest to its numeral.  As many digits as fit 64 bits are
  a significand, which is rounded, and then multiplied or divided by a rounded power of ten.
-/

namespace TableGateway.Json

/-- A word of a JSON text. -/
inductive Token where
  | openArray
  | closeArray
  | openObject
  | closeObject
  | comma
  | colon
  | null
  | bool (value : Bool)
  | number (value : Number)
  | string (value : String)

/-- The value of four hexadecimal digits. -/
def unit? (a b c d : Char) : Option Nat :=
  Text.hexFrom? 0 [a, b, c, d]

/-- The character that a letter after a backslash stands for. -/
def escaped? : Char → Option Char
  | '"' => some '"'
  | '\\' => some '\\'
  | '/' => some '/'
  | 'b' => some '\x08'
  | 'f' => some '\x0c'
  | 'n' => some '\n'
  | 'r' => some '\r'
  | 't' => some '\t'
  | _ => none

/-- Put a character in front of a text that is read on. -/
def prepend (c : Char) (read : Option (List Char × List Char)) : Option (List Char × List Char) :=
  read.map fun r => (c :: r.1, r.2)

/-- Read a string up to its closing quote, giving its characters and the rest.  `high` is a high
surrogate that waits for its low one. -/
def stringFrom (high : Option Nat) : List Char → Option (List Char × List Char)
  | [] => none
  | '\\' :: 'u' :: a :: b :: c :: d :: rest =>
    match unit? a b c d, high with
    | none, _ => none
    | some n, some h =>
      if 0xDC00 ≤ n ∧ n < 0xE000 then
        prepend (Char.ofNat (0x10000 + (h - 0xD800) * 0x400 + (n - 0xDC00))) (stringFrom none rest)
      else none
    | some n, none =>
      if 0xD800 ≤ n ∧ n < 0xDC00 then stringFrom (some n) rest
      else if 0xDC00 ≤ n ∧ n < 0xE000 then none
      else prepend (Char.ofNat n) (stringFrom none rest)
  | '\\' :: c :: rest =>
    match escaped? c, high with
    | some e, none => prepend e (stringFrom none rest)
    | _, _ => none
  | c :: rest =>
    if high.isSome then none
    else if c = '"' then some ([], rest)
    else if c.toNat < 0x20 then none
    else prepend c (stringFrom none rest)

/-- Whether a character occurs in numerals. -/
def isNumeric (c : Char) : Bool :=
  ('0' ≤ c && c ≤ '9') || c == '-' || c == '+' || c == '.' || c == 'e' || c == 'E'

/-- A floating-point number with this sign, if it is finite. -/
def finite? (negative : Bool) (x : Double) : Option Number :=
  let signed := Double.ofMagnitude negative x.magnitude
  if h : signed.isFinite = true then some (.float signed h) else none

/-- The greatest exponent of a power of ten that is a finite number. -/
def maxPower : Nat := 308

/-- Divide by the greatest power of ten a number of times, or until nothing is left. -/
def lowered (x : Double) : Nat → Double
  | 0 => x
  | n + 1 => if x.isZero then x else lowered (x.div (Double.ofPowTen maxPower)) n

/-- The number that a significand of 64 bits and an exponent of ten stand for, if it is finite.  The
significand is rounded, and so is every product and quotient after it. -/
def float? (negative : Bool) (significand : Nat) (exponent : Int) : Option Number :=
  let x := Double.ofInt significand
  match exponent with
  | .ofNat k =>
    if k ≤ maxPower then finite? negative (x.mul (Double.ofPowTen k))
    else if x.isZero then finite? negative x
    else none
  | .negSucc k =>
    let times := k / maxPower
    finite? negative ((lowered x times).div (Double.ofPowTen (k + 1 - times * maxPower)))

/-- A numeral without point and exponent. -/
def integer? (negative : Bool) (n : Nat) : Option Number :=
  let value : Int := if negative then - Int.ofNat n else Int.ofNat n
  if h : (-0x8000000000000000 ≤ value ∧ value < 0x10000000000000000) ∧
      ¬(negative = true ∧ n = 0) then
    some (.integer value h.1)
  else float? negative n 0

/-- Put digits to a significand while it stays within 64 bits.  The result is the significand, the
number of digits put to it, and what is left. -/
def significandFrom (n count : Nat) : List Char → Nat × Nat × List Char
  | [] => (n, count, [])
  | c :: rest =>
    match Text.digit? c with
    | some d =>
      if n * 10 + d < UInt64.size then significandFrom (n * 10 + d) (count + 1) rest
      else (n, count, c :: rest)
    | none => (n, count, c :: rest)

/-- An exponent: nothing, or `e` with an optional sign and digits. -/
def exponent? : List Char → Option Int
  | [] => some 0
  | mark :: rest =>
    if mark = 'e' ∨ mark = 'E' then
      match rest with
      | '+' :: ds => (Text.value? ds).map Int.ofNat
      | '-' :: ds => (Text.value? ds).map fun n => - Int.ofNat n
      | ds => (Text.value? ds).map Int.ofNat
    else none

/-- The number that a numeral stands for.  The whole part has no leading zero, and point and
exponent are followed by digits.  Digits for which the significand has no room raise the exponent
before the point, and are passed over after it. -/
def numeral? (cs : List Char) : Option Number := do
  let (negative, cs) := match cs with
    | '-' :: rest => (true, rest)
    | _ => (false, cs)
  let whole := cs.takeWhile Char.isDigit
  if whole = [] ∨ (whole.length ≠ 1 ∧ whole.head? = some '0') then none
  else
    let (n, count, _) := significandFrom 0 0 whole
    let raised : Int := Int.ofNat (whole.length - count)
    match cs.dropWhile Char.isDigit with
    | [] => if raised = 0 then integer? negative n else float? negative n raised
    | '.' :: rest => do
      let places := rest.takeWhile Char.isDigit
      if places = [] then none
      else
        let (n, count, _) := significandFrom n 0 places
        let e ← exponent? (rest.dropWhile Char.isDigit)
        float? negative n (raised - Int.ofNat count + e)
    | rest => do
      let e ← exponent? rest
      float? negative n (raised + e)

/-- The number nearest to these digits is the one before, whose bits end in 2. -/
example : numeral? "31.245270191439438".toList =
    some (.float ⟨0x403f3eca06faea83⟩ (by decide)) := by
  decide

/-- The tokens of a text, where no more than `fuel` of its characters start one. -/
def tokensWithin : Nat → List Char → Option (List Token)
  | _, [] => some []
  | 0, _ :: _ => none
  | fuel + 1, c :: rest =>
    let single (t : Token) := (tokensWithin fuel rest).map (t :: ·)
    match c with
    | ' ' | '\t' | '\n' | '\r' => tokensWithin fuel rest
    | '[' => single .openArray
    | ']' => single .closeArray
    | '\x7b' => single .openObject
    | '\x7d' => single .closeObject
    | ',' => single .comma
    | ':' => single .colon
    | '"' => do
      let (body, rest) ← stringFrom none rest
      (tokensWithin fuel rest).map (.string (String.ofList body) :: ·)
    | _ =>
      match c, rest with
      | 'n', 'u' :: 'l' :: 'l' :: rest => (tokensWithin fuel rest).map (.null :: ·)
      | 't', 'r' :: 'u' :: 'e' :: rest => (tokensWithin fuel rest).map (.bool true :: ·)
      | 'f', 'a' :: 'l' :: 's' :: 'e' :: rest => (tokensWithin fuel rest).map (.bool false :: ·)
      | _, _ => do
        let n ← numeral? ((c :: rest).takeWhile isNumeric)
        (tokensWithin fuel ((c :: rest).dropWhile isNumeric)).map (.number n :: ·)

/-- The tokens of a text; every token takes a character at least. -/
def tokens? (s : String) : Option (List Token) :=
  let cs := s.toList
  tokensWithin cs.length cs

end TableGateway.Json
