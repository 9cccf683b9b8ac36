import TableGateway.Text.Numeral

/-!
# IPv6 addresses

Eight groups of sixteen bits, written in hexadecimal between colons.  One run of zero groups may be
left out as `::`, and the last two groups may be written as four decimal numbers.

* `Ipv6.parse?` — the groups of a text.
* `Ipv6.text` — their shortest text: the longest run of at least two zero groups is left out, the
  first of several.
-/

namespace TableGateway.Ipv6

/-- A group of one to four hexadecimal digits. -/
def group? (cs : List Char) : Option Nat :=
  if cs.isEmpty ∨ 4 < cs.length then none else Text.hexFrom? 0 cs

/-- A decimal number below 256 without leading zeros. -/
def octet? (cs : List Char) : Option Nat :=
  if 1 < cs.length ∧ cs.head? = some '0' then none else (Text.value? cs).filter (· < 256)

/-- The two groups of four decimal numbers. -/
def dotted? (cs : List Char) : Option (List Nat) :=
  match (cs.splitOn '.').mapM octet? with
  | some [a, b, c, d] => some [a * 256 + b, c * 256 + d]
  | _ => none

/-- The groups of parts between colons; only the last may be in decimal, and only where `tail`
says so. -/
def partsFrom? (tail : Bool) : List (List Char) → Option (List Nat)
  | [] => some []
  | [last] =>
    if tail && last.contains '.' then dotted? last else (group? last).map ([·])
  | part :: rest => do
    let group ← group? part
    let groups ← partsFrom? tail rest
    some (group :: groups)

/-- The groups of a text without `::`. -/
def groups? (tail : Bool) (cs : List Char) : Option (List Nat) :=
  if cs.isEmpty then some [] else partsFrom? tail (cs.splitOn ':')

/-- The text before and after the first `::`. -/
def splitAtGap : List Char → Option (List Char × List Char)
  | ':' :: ':' :: rest => some ([], rest)
  | c :: rest => (splitAtGap rest).map fun (before, after) => (c :: before, after)
  | [] => none

/-- The eight groups of an address. -/
def parse? (cs : List Char) : Option (List Nat) :=
  match splitAtGap cs with
  | none => (groups? true cs).filter fun groups => groups.length = 8
  | some (before, after) => do
    let left ← groups? false before
    let right ← groups? true after
    if left.length + right.length < 8 then
      some (left ++ List.replicate (8 - left.length - right.length) 0 ++ right)
    else none

/-- The number of zero groups at the start. -/
def zeros (groups : List Nat) : Nat :=
  (groups.takeWhile (· = 0)).length

/-- The place and the length of the longest run of zero groups, the first of several. -/
def longestZeros : Nat → List Nat → Nat × Nat
  | _, [] => (0, 0)
  | place, group :: rest =>
    let here := zeros (group :: rest)
    let later := longestZeros (place + 1) rest
    if later.2 ≤ here then (place, here) else later

/-- Groups between colons. -/
def colons (groups : List Nat) : String :=
  String.intercalate ":" (groups.map fun n => String.ofList (Text.hexPadded 0 n))

/-- The shortest text of an address. -/
def text (groups : List Nat) : String :=
  let (place, length) := longestZeros 0 groups
  if length < 2 then colons groups
  else colons (groups.take place) ++ "::" ++ colons (groups.drop (place + length))

end TableGateway.Ipv6
