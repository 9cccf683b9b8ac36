/-!
# UTF-8 text and its bytes

Columns, identifiers and parameters travel as bytes; the rest of the library works on `String`.

* `encode` — the bytes that write a text.
* `decode?` — the text that bytes write, if they are valid throughout.
* `decodeLossy` — a text for any bytes: each maximal invalid part becomes one U+FFFD.

`decode?_encode` says that writing loses nothing, and `encode_of_decode?` the same of reading.  The
lossy reader keeps, between two bytes, what the character begun so far still owes (`Owed`); a byte
that does not continue it ends the invalid part and is looked at afresh as the start of the next
character.
-/

namespace TableGateway.Text.Utf8

/-- The bytes that write a text. -/
def encode (s : String) : List UInt8 :=
  s.toByteArray.data.toList

/-- The text written by the bytes, provided that all of them are valid. -/
def decode? (bytes : List UInt8) : Option String :=
  String.fromUTF8? ⟨bytes.toArray⟩

/-- Reading back what was written gives the text that was written. -/
theorem decode?_encode (s : String) : decode? (encode s) = some s := by
  simp only [decode?, encode, Array.toArray_toList]
  unfold String.fromUTF8?
  rw [dif_pos s.isValidUTF8]
  rfl

/-- What is read writes the bytes that it was read from. -/
theorem encode_of_decode? {bytes : List UInt8} {s : String}
    (h : decode? bytes = some s) : encode s = bytes := by
  rw [decode?, String.fromUTF8?] at h
  split at h
  · obtain rfl := Option.some.inj h
    rfl
  · contradiction

/-- What a character still owes after its bytes so far: how many bytes, the bounds for the next
one, and the value collected. -/
structure Owed where
  count : Nat
  low : Nat
  high : Nat
  value : Nat

/-- What the first byte of a longer character owes.  The bounds on the second byte shut out
overlong forms, surrogates and values above U+10FFFF. -/
def Owed.ofLead (b : Nat) : Option Owed :=
  if 0xC2 ≤ b ∧ b ≤ 0xDF then some ⟨1, 0x80, 0xBF, b - 0xC0⟩
  else if b = 0xE0 then some ⟨2, 0xA0, 0xBF, 0⟩
  else if b = 0xED then some ⟨2, 0x80, 0x9F, 0xD⟩
  else if 0xE1 ≤ b ∧ b ≤ 0xEF then some ⟨2, 0x80, 0xBF, b - 0xE0⟩
  else if b = 0xF0 then some ⟨3, 0x90, 0xBF, 0⟩
  else if 0xF1 ≤ b ∧ b ≤ 0xF3 then some ⟨3, 0x80, 0xBF, b - 0xF0⟩
  else if b = 0xF4 then some ⟨3, 0x80, 0x8F, 4⟩
  else none

/-- The mark that stands for an invalid part. -/
def replacement : Char := '\uFFFD'

/-- Read on from a byte that starts a character: a text so far, and what is owed after it. -/
def startWith (b : Nat) : List Char × Option Owed :=
  if b < 0x80 then ([Char.ofNat b], none)
  else match Owed.ofLead b with
    | some owed => ([], some owed)
    | none => ([replacement], none)

/-- Read one byte: the characters it completes, and what is owed after it. -/
def step (owed : Option Owed) (b : Nat) : List Char × Option Owed :=
  match owed with
  | none => startWith b
  | some o =>
    if o.low ≤ b ∧ b ≤ o.high then
      let value := o.value * 0x40 + (b - 0x80)
      if o.count ≤ 1 then ([Char.ofNat value], none)
      else ([], some ⟨o.count - 1, 0x80, 0xBF, value⟩)
    else
      let (chars, next) := startWith b
      (replacement :: chars, next)

/-- The characters of the bytes, from a point where `owed` is still owed. -/
def lossyFrom (owed : Option Owed) : List UInt8 → List Char
  | [] => if owed.isSome then [replacement] else []
  | b :: rest =>
    let (chars, next) := step owed b.toNat
    chars ++ lossyFrom next rest

/-- A text for any bytes.  Each maximal invalid part becomes one U+FFFD. -/
def decodeLossy (bytes : List UInt8) : String :=
  String.ofList (lossyFrom none bytes)

end TableGateway.Text.Utf8
