/-!
# Positions in a YAML text

The structure of a YAML text hangs on columns, so reading it keeps a `Cursor`: the characters that
are left, with the line and the column of the first of them.

* Breaks are line feed, carriage return (also before a line feed), U+0085, U+2028 and U+2029.
* Blanks are space and tab.
-/

namespace TableGateway.Yaml

/-- The rest of a text and where it starts. -/
structure Cursor where
  rest : List Char
  line : Nat
  column : Nat
  /-- The number of characters before. -/
  index : Nat

def isBlank (c : Char) : Bool := c == ' ' || c == '\t'

def isBreak (c : Char) : Bool :=
  c == '\n' || c == '\r' || c == '\u0085' || c == '\u2028' || c == '\u2029'

/-- Whether a character may occur in a YAML text: tabs, breaks and what is no control. -/
def isAllowed (c : Char) : Bool :=
  c == '\t' || c == '\n' || c == '\r' || (0x20 ≤ c.toNat && c.toNat ≤ 0x7E) || c == '\u0085' ||
    (0xA0 ≤ c.toNat && c.toNat ≤ 0xFFFD) || 0x10000 ≤ c.toNat

namespace Cursor

/-- The start of a text. -/
def ofChars (cs : List Char) : Cursor := ⟨cs, 0, 0, 0⟩

def head? (c : Cursor) : Option Char := c.rest.head?

/-- The character at a distance. -/
def at? (c : Cursor) (n : Nat) : Option Char := c.rest[n]?

def atEnd (c : Cursor) : Bool := c.rest.isEmpty

/-- Whether the next character satisfies a test. -/
def headIs (c : Cursor) (p : Char → Bool) : Bool := c.head?.any p

/-- Whether a blank, a break or the end stands at a distance. -/
def separatedAt (c : Cursor) (n : Nat) : Bool :=
  match c.at? n with
  | none => true
  | some x => isBlank x || isBreak x

/-- Whether a break or the end comes next. -/
def atLineEnd (c : Cursor) : Bool :=
  match c.head? with
  | none => true
  | some x => isBreak x

/-- Past one character of a line. -/
def advance (c : Cursor) : Cursor :=
  match c.rest with
  | [] => c
  | _ :: rest => ⟨rest, c.line, c.column + 1, c.index + 1⟩

/-- Past a number of characters of a line. -/
def advanceBy : Nat → Cursor → Cursor
  | 0, c => c
  | n + 1, c => advanceBy n c.advance

/-- Past a break, with the text it stands for: U+2028 and U+2029 stand for themselves, the others
for a line feed.  Without a break there is nothing to pass. -/
def passBreak (c : Cursor) : List Char × Cursor :=
  match c.rest with
  | '\r' :: '\n' :: rest => (['\n'], ⟨rest, c.line + 1, 0, c.index + 2⟩)
  | x :: rest =>
    if x == '\u2028' || x == '\u2029' then ([x], ⟨rest, c.line + 1, 0, c.index + 1⟩)
    else if isBreak x then (['\n'], ⟨rest, c.line + 1, 0, c.index + 1⟩)
    else ([], c)
  | [] => ([], c)

/-- Take the characters of a line while they satisfy a test, the last one first. -/
def takeWhileFrom (p : Char → Bool) (taken : List Char) (line column index : Nat) :
    List Char → List Char × Cursor
  | [] => (taken, ⟨[], line, column, index⟩)
  | x :: rest =>
    if p x then takeWhileFrom p (x :: taken) line (column + 1) (index + 1) rest
    else (taken, ⟨x :: rest, line, column, index⟩)

/-- The characters of a line while they satisfy a test, and the cursor after them. -/
def takeWhile (p : Char → Bool) (c : Cursor) : List Char × Cursor :=
  let (taken, next) := takeWhileFrom p [] c.line c.column c.index c.rest
  (taken.reverse, next)

/-- Past the characters of a line that satisfy a test. -/
def skipWhile (p : Char → Bool) (c : Cursor) : Cursor :=
  (c.takeWhile p).2

/-- Past a comment, if one starts here. -/
def skipComment (c : Cursor) : Cursor :=
  if c.headIs (· == '#') then c.skipWhile fun x => !isBreak x else c

/-- Whether a line of `---` or `...` starts here. -/
def atDocumentMark (c : Cursor) : Bool :=
  c.column == 0 && (c.rest.take 3 == ['-', '-', '-'] || c.rest.take 3 == ['.', '.', '.']) &&
    c.separatedAt 3

end Cursor

end TableGateway.Yaml
