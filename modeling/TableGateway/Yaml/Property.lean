import TableGateway.Text.Numeral
import TableGateway.Text.Utf8
import TableGateway.Yaml.Cursor

/-!
# Anchors, tags and directives

What stands before the content of a YAML node, and before a document, each read from a cursor that
stands at its first character.

* `name?` — the name after `&` or `*`.
* `Directive.at?` — a line that starts with `%`: a version, or what a handle of tags stands for.
* `Tag.at?` — a tag, with its handle resolved.

A tag is kept as octets, because `%` writes any octet in it.  An octet of zero ends the part of a
tag that it stands in.
-/

namespace TableGateway.Yaml

/-- The characters of names. -/
def isWord (c : Char) : Bool := c.isAlphanum || c == '_' || c == '-'

/-- The name after the character that marks it, and the cursor after the name. -/
def name? (c : Cursor) : Option (String × Cursor) :=
  let (name, next) := c.advance.takeWhile isWord
  let ends := next.separatedAt 0 || next.headIs "?:,]\x7d%@\x60".toList.contains
  if !name.isEmpty && ends then some (String.ofList name, next) else none

/-! ## URIs -/

/-- The characters that stand for themselves in a URI.  The marks of flow sequences are among them
where the URI has an end mark of its own. -/
def isUri (marks : Bool) (c : Char) : Bool :=
  isWord c || ";/?:@&=+$.!~*'()".toList.contains c || (marks && ",[]".toList.contains c)

/-- The octet that two hexadecimal digits after a percent sign write. -/
def octet? (c : Cursor) : Option (UInt8 × Cursor) :=
  match c.rest with
  | '%' :: a :: b :: _ => do some (UInt8.ofNat (← Text.hexFrom? 0 [a, b]), c.advanceBy 3)
  | _ => none

/-- The number of octets that must follow the first one of a character. -/
def followers? (o : UInt8) : Option Nat :=
  if o < 0x80 then some 0
  else if 0xC0 ≤ o ∧ o < 0xE0 then some 1
  else if 0xE0 ≤ o ∧ o < 0xF0 then some 2
  else if 0xF0 ≤ o ∧ o < 0xF8 then some 3
  else none

/-- Read a URI on; `due` octets must still follow, and `taken` are those so far, the last one
first. -/
def uriFrom (marks : Bool) : Nat → Nat → List UInt8 → Cursor → Option (List UInt8 × Cursor)
  | 0, _, taken, c => some (taken.reverse, c)
  | fuel + 1, due, taken, c =>
    if due ≠ 0 ∨ c.headIs (· == '%') then do
      let (o, next) ← octet? c
      let due ← if due = 0 then followers? o
        else if 0x80 ≤ o ∧ o < 0xC0 then some (due - 1) else none
      uriFrom marks fuel due (o :: taken) next
    else match c.head? with
    | none => some (taken.reverse, c)
    | some x =>
      if isUri marks x then uriFrom marks fuel 0 (UInt8.ofNat x.toNat :: taken) c.advance
      else some (taken.reverse, c)

/-- The octets of a URI up to a zero, and the cursor after the URI. -/
def uri? (marks : Bool) (c : Cursor) : Option (List UInt8 × Cursor) := do
  let (octets, next) ← uriFrom marks (c.rest.length + 1) 0 [] c
  some (octets.takeWhile (· != 0), next)

/-- A URI that is not empty. -/
def someUri? (marks : Bool) (c : Cursor) : Option (List UInt8 × Cursor) :=
  (uri? marks c).filter fun result => c.index < result.2.index

/-- A handle of tags: characters of a name between exclamation marks. -/
def handle? (c : Cursor) : Option (String × Cursor) :=
  let (name, next) := c.advance.takeWhile isWord
  if c.headIs (· == '!') && next.headIs (· == '!') then
    some (String.ofList ('!' :: name ++ ['!']), next.advance)
  else none

/-! ## Directives -/

/-- A line before a document. -/
inductive Directive where
  | version (major minor : Nat)
  /-- A handle of tags and the octets it stands for. -/
  | handle (name : String) (stands : List UInt8)

namespace Directive

/-- A number of at most nine digits. -/
def number? (c : Cursor) : Option (Nat × Cursor) := do
  let (digits, next) := c.takeWhile Char.isDigit
  if digits.length ≤ 9 then some (← Text.value? digits, next) else none

/-- Two numbers with a point between them. -/
def version? (c : Cursor) : Option (Directive × Cursor) := do
  let (major, c) ← number? c
  if !c.headIs (· == '.') then none
  else
    let (minor, c) ← number? c.advance
    some (.version major minor, c)

/-- A handle, which may be a single exclamation mark, and a URI. -/
def handled? (c : Cursor) : Option (Directive × Cursor) := do
  let (name, next) ← handle? c <|>
    if c.headIs (· == '!') then some ("!", c.advance) else none
  if !next.headIs isBlank then none
  else
    let (stands, next) ← someUri? true (next.skipWhile isBlank)
    if next.separatedAt 0 then some (.handle name stands, next) else none

/-- The directive of a line, and the cursor at the next line. -/
def at? (c : Cursor) : Option (Directive × Cursor) := do
  let (name, next) := c.advance.takeWhile isWord
  if !next.separatedAt 0 then none
  else
    let c := next.skipWhile isBlank
    let (directive, next) ←
      if name = "YAML".toList then version? c
      else if name = "TAG".toList then handled? c
      else none
    let c := (next.skipWhile isBlank).skipComment
    if c.atLineEnd then some (directive, c.passBreak.2) else none

end Directive

/-- What the directives so far have said. -/
structure Directives where
  versioned : Bool
  handles : List (String × List UInt8)

namespace Directives

/-- Before any directive. -/
def none : Directives := ⟨false, []⟩

/-- With one more directive.  There is one version at most, 1.1 or 1.2, and each handle is declared
once. -/
def add? (ds : Directives) : Directive → Option Directives
  | .version major minor =>
    if !ds.versioned ∧ major = 1 ∧ (minor = 1 ∨ minor = 2) then some { ds with versioned := true }
    else Option.none
  | .handle name stands =>
    if (ds.handles.lookup name).isSome then Option.none
    else some { ds with handles := (name, stands) :: ds.handles }

/-- What a handle stands for; two of them need no directive. -/
def stands? (ds : Directives) (name : String) : Option (List UInt8) :=
  (ds.handles ++ [("!", Text.Utf8.encode "!"),
    ("!!", Text.Utf8.encode "tag:yaml.org,2002:")]).lookup name

end Directives

/-! ## Tags -/

/-- The tag of a node. -/
structure Tag where
  octets : List UInt8
  deriving DecidableEq, Repr

namespace Tag

/-- The tag with this text. -/
def ofText (s : String) : Tag := ⟨Text.Utf8.encode s⟩

/-- The tag that leaves open what a node is. -/
def unspecific : Tag := ofText "!"

/-- The tag of nothing. -/
def null : Tag := ofText "tag:yaml.org,2002:null"

/-- The tag of truth values. -/
def bool : Tag := ofText "tag:yaml.org,2002:bool"

/-- A tag between angle brackets, which has no handle. -/
def verbatim? (c : Cursor) : Option (List UInt8 × Cursor) := do
  let (octets, next) ← someUri? true (c.advanceBy 2)
  if next.headIs (· == '>') then some (octets, next.advance) else none

/-- A tag after a handle, which is a single exclamation mark where no other one is written. -/
def handled? (directives : Directives) (c : Cursor) : Option (List UInt8 × Cursor) :=
  match handle? c with
  | some (name, next) => do
    let (octets, next) ← someUri? false next
    some ((← directives.stands? name) ++ octets, next)
  | none => do
    let (octets, next) ← uri? false c.advance
    if octets.isEmpty then some (unspecific.octets, next)
    else some ((← directives.stands? "!") ++ octets, next)

/-- The tag at an exclamation mark, and the cursor after it. -/
def at? (inFlow : Bool) (directives : Directives) (c : Cursor) : Option (Tag × Cursor) := do
  let (octets, next) ← if c.at? 1 == some '<' then verbatim? c else handled? directives c
  if next.separatedAt 0 || (inFlow && next.headIs (· == ',')) then some (⟨octets⟩, next) else none

end Tag

end TableGateway.Yaml
