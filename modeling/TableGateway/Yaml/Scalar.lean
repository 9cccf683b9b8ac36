import TableGateway.Text.Numeral
import TableGateway.Yaml.Cursor

/-!
# YAML scalars

The four written forms of a scalar, each read from a cursor that stands at its first character.

* `quoted?` — in single or double quotes.
* `plain?` — without any mark.
* `block?` — a block of lines, kept (`|`) or folded (`>`).

Within quoted and plain scalars lines are folded: a single break becomes a space, and of several
the first is dropped.
-/

namespace TableGateway.Yaml

/-- Blanks and breaks between the words of a scalar: the blanks of the first line, the first break,
and the breaks after it. -/
structure Gap where
  blanks : List Char
  first : List Char
  others : List Char
  /-- Whether a line has ended. -/
  broken : Bool

/-- No gap. -/
def Gap.none : Gap := ⟨[], [], [], false⟩

/-- What a gap leaves in the text. -/
def Gap.folded (g : Gap) : List Char :=
  if !g.broken then g.blanks
  else if g.first == ['\n'] then if g.others.isEmpty then [' '] else g.others
  else g.first ++ g.others

/-- Take the blanks and breaks that stand here; `refused` says which blanks may not stand at the
start of a line. -/
def takeGap (refused : Cursor → Bool) : Nat → Gap → Cursor → Option (Gap × Cursor)
  | 0, g, c => some (g, c)
  | fuel + 1, g, c =>
    if c.headIs isBlank then
      if g.broken && refused c then Option.none
      else
        let blanks := if g.broken then g.blanks else g.blanks ++ c.rest.take 1
        takeGap refused fuel { g with blanks } c.advance
    else if c.headIs isBreak then
      let (text, next) := c.passBreak
      if g.broken then takeGap refused fuel { g with others := g.others ++ text } next
      else takeGap refused fuel ⟨[], text, g.others, true⟩ next
    else some (g, c)

/-! ## Quoted scalars -/

/-- The character that a letter after a backslash stands for. -/
def escaped? : Char → Option Char
  | '0' => some '\x00'
  | 'a' => some '\x07'
  | 'b' => some '\x08'
  | 't' | '\t' => some '\t'
  | 'n' => some '\n'
  | 'v' => some '\x0b'
  | 'f' => some '\x0c'
  | 'r' => some '\r'
  | 'e' => some '\x1b'
  | ' ' => some ' '
  | '"' => some '"'
  | '/' => some '/'
  | '\\' => some '\\'
  | 'N' => some '\u0085'
  | '_' => some '\u00a0'
  | 'L' => some '\u2028'
  | 'P' => some '\u2029'
  | _ => none

/-- The number of hexadecimal digits after a backslash and a letter. -/
def hexLength? : Char → Option Nat
  | 'x' => some 2
  | 'u' => some 4
  | 'U' => some 8
  | _ => none

/-- The character of a number, if there is one. -/
def charOf? (n : Nat) : Option Char :=
  if n < 0xD800 ∨ (0xE000 ≤ n ∧ n < 0x110000) then some (Char.ofNat n) else none

/-- The escape at a backslash: its character and the cursor after it. -/
def escape? (c : Cursor) : Option (Char × Cursor) := do
  let mark ← c.at? 1
  match escaped? mark with
  | some x => some (x, c.advanceBy 2)
  | none =>
    let length ← hexLength? mark
    let digits := (c.rest.drop 2).take length
    if digits.length = length then
      let x ← charOf? (← Text.hexFrom? 0 digits)
      some (x, c.advanceBy (2 + length))
    else none

/-- Read a quoted scalar on from a point inside it; `taken` is its text so far, the last character
first. -/
def quotedFrom (double : Bool) : Nat → List Char → Cursor → Option (List Char × Cursor)
  | 0, _, _ => none
  | fuel + 1, taken, c =>
    if c.atDocumentMark then none
    else match c.rest with
    | [] => none
    | x :: rest =>
      if isBlank x || isBreak x then do
        let (gap, next) ← takeGap (fun _ => false) c.rest.length Gap.none c
        quotedFrom double fuel (gap.folded.reverse ++ taken) next
      else if double then
        if x == '"' then some (taken.reverse, c.advance)
        else if x == '\\' then
          if rest.head?.any isBreak then do
            let (_, next) := c.advance.passBreak
            let (gap, next) ← takeGap (fun _ => false) next.rest.length ⟨[], [], [], true⟩ next
            quotedFrom double fuel (gap.folded.reverse ++ taken) next
          else do
            let (y, next) ← escape? c
            quotedFrom double fuel (y :: taken) next
        else quotedFrom double fuel (x :: taken) c.advance
      else if x == '\'' then
        if rest.head? == some '\'' then quotedFrom double fuel ('\'' :: taken) (c.advanceBy 2)
        else some (taken.reverse, c.advance)
      else quotedFrom double fuel (x :: taken) c.advance

/-- The text of a quoted scalar and the cursor after it. -/
def quoted? (double : Bool) (c : Cursor) : Option (List Char × Cursor) :=
  quotedFrom double c.rest.length [] c.advance

/-! ## Plain scalars -/

/-- The marks of flow collections. -/
def isFlowMark (c : Char) : Bool :=
  c == ',' || c == '[' || c == ']' || c == '\x7b' || c == '\x7d'

/-- Whether a plain scalar ends before the next character. -/
def plainEnds (inFlow : Bool) (c : Cursor) : Bool :=
  c.separatedAt 0 || (c.headIs (· == ':') && c.separatedAt 1) || (inFlow && c.headIs isFlowMark)

/-- Whether a colon stands here that may not stand inside a flow collection. -/
def plainRefuses (inFlow : Bool) (c : Cursor) : Bool :=
  inFlow && c.headIs (· == ':') && (c.at? 1).any fun x => isFlowMark x || x == '?'

/-- Read a plain scalar on from a point inside it.  `gap` is what stands before the next word.  The
last part of the result says whether a line has ended after the scalar. -/
def plainFrom (inFlow : Bool) (indent : Nat) :
    Nat → List Char → Gap → Cursor → Option (List Char × Cursor × Bool)
  | 0, taken, gap, c => some (taken.reverse, c, gap.broken)
  | fuel + 1, taken, gap, c =>
    if plainRefuses inFlow c then none
    else if !plainEnds inFlow c then
      plainFrom inFlow indent fuel (c.rest.take 1 ++ (gap.folded.reverse ++ taken)) Gap.none
        c.advance
    else if c.headIs fun x => isBlank x || isBreak x then do
      let (gap, next) ← takeGap (fun c => c.column < indent && c.headIs (· == '\t'))
        c.rest.length Gap.none c
      if (!inFlow && next.column < indent) || next.atDocumentMark || next.headIs (· == '#') then
        some (taken.reverse, next, gap.broken)
      else plainFrom inFlow indent fuel taken gap next
    else some (taken.reverse, c, gap.broken)

/-- The text of a plain scalar, the cursor after it, and whether a line has ended there. -/
def plain? (inFlow : Bool) (indent : Nat) (c : Cursor) : Option (List Char × Cursor × Bool) :=
  plainFrom inFlow indent (2 * c.rest.length + 1) [] Gap.none c

/-! ## Block scalars -/

/-- What happens to the breaks at the end of a block. -/
inductive Chomping where
  | strip
  | clip
  | keep
  deriving DecidableEq

/-- The chomping of a header's mark. -/
def Chomping.ofMark? : Char → Option Chomping
  | '-' => some .strip
  | '+' => some .keep
  | _ => none

/-- The header after `|` or `>`: chomping and indentation, in either order. -/
def blockHeader? (c : Cursor) : Option (Chomping × Nat × Cursor) :=
  let chomping (c : Cursor) : Option (Chomping × Cursor) :=
    (c.head?.bind Chomping.ofMark?).map (·, c.advance)
  let digit (c : Cursor) : Option (Nat × Cursor) :=
    (c.head?.bind Text.digit?).map (·, c.advance)
  let checked (k : Chomping) (n : Nat) (c : Cursor) :=
    if n = 0 then none else some (k, n, c)
  match chomping c with
  | some (k, c) => match digit c with
    | some (n, c) => checked k n c
    | none => some (k, 0, c)
  | none => match digit c with
    | some (n, c) => match chomping c with
      | some (k, c) => checked k n c
      | none => checked .clip n c
    | none => some (.clip, 0, c)

/-- Pass the indentation and the empty lines before a line of a block.  `indent` is zero while it is
not known; `deepest` is the deepest column reached so far. -/
def blockGap (indent : Nat) : Nat → Nat → List Char → Cursor → Option (List Char × Nat × Cursor)
  | 0, deepest, breaks, c => some (breaks, deepest, c)
  | fuel + 1, deepest, breaks, c =>
    let room := if indent = 0 then c.rest.length else indent - c.column
    let spaces := ((c.rest.take room).takeWhile (· == ' ')).length
    let c := c.advanceBy spaces
    let deepest := max deepest c.column
    if (indent = 0 ∨ c.column < indent) ∧ c.headIs (· == '\t') then none
    else if c.headIs isBreak then
      let (text, next) := c.passBreak
      blockGap indent fuel deepest (breaks ++ text) next
    else some (breaks, deepest, c)

/-- Read the lines of a block.  `before` is the break before the next line, `empty` the breaks of
the empty lines after it, and `indented` says that the last line started with a blank. -/
def blockLines (literal : Bool) (indent : Nat) :
    Nat → List Char → List Char → List Char → Bool → Cursor →
      Option (List Char × List Char × List Char × Cursor)
  | 0, text, before, empty, _, c => some (text, before, empty, c)
  | fuel + 1, text, before, empty, indented, c =>
    if c.column = indent ∧ !c.atEnd then do
      let blank := c.headIs isBlank
      let joint :=
        if !literal && before == ['\n'] && !indented && !blank then
          if empty.isEmpty then [' '] else []
        else before
      let (line, next) := c.takeWhile fun x => !isBreak x
      let (before, next) := next.passBreak
      let (gap, _, next) ← blockGap indent next.rest.length 0 [] next
      blockLines literal indent fuel (text ++ joint ++ empty ++ line) before gap blank next
    else some (text, before, empty, c)

/-- The text of a block scalar inside an indentation, and the cursor after it. -/
def block? (literal : Bool) (around : Int) (c : Cursor) : Option (List Char × Cursor) := do
  let (chomping, increment, c) ← blockHeader? c.advance
  let c := (c.skipWhile isBlank).skipComment
  if !c.atLineEnd then none
  else
    let (_, c) := c.passBreak
    let given := if increment = 0 then 0 else around.toNat + increment
    let (gap, deepest, c) ← blockGap given c.rest.length 0 [] c
    let indent := if given = 0 then max (max deepest (around + 1).toNat) 1 else given
    let (text, before, empty, c) ← blockLines literal indent (c.rest.length + 1) [] [] gap false c
    let text := match chomping with
      | .strip => text
      | .clip => text ++ before
      | .keep => text ++ before ++ empty
    some (text, c)

end TableGateway.Yaml
