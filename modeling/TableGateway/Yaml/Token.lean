import TableGateway.Yaml.Property
import TableGateway.Yaml.Scalar

/-!
# YAML tokens

The words of a YAML text, with the marks that columns stand for made explicit: `tokens?` turns a
text into a list of tokens in which every block collection has an opening and a closing one.

* A block collection opens where an entry or a key stands deeper than the collection around it, and
  closes where a line starts less deep.
* Whether a scalar is a key is known only at the colon after it.  The lexer therefore remembers for
  each level of flow collections the token that may still turn out to be a key, and puts the key
  mark in front of it afterwards.  Such a key lies on one line and has at most 1024 characters.
* Anchors are numbered by the names that were known before them.  A name that is used again gets a
  number that the next new name gets too.
-/

namespace TableGateway.Yaml

/-- The written forms of a scalar. -/
inductive Form where
  | plain
  | quoted
  /-- A block of lines that are kept. -/
  | literal
  deriving DecidableEq, Repr

/-- A word of a YAML text. -/
inductive Token where
  /-- A line before a document, read already. -/
  | directive
  | documentStart
  | documentEnd
  | openBlockSequence
  | openBlockMapping
  | closeBlock
  | openFlowSequence
  | closeFlowSequence
  | openFlowMapping
  | closeFlowMapping
  /-- The comma between entries of a flow collection. -/
  | comma
  /-- The dash before an entry of a block sequence. -/
  | entry
  /-- What follows is a key. -/
  | key
  /-- What follows is the value of the key before. -/
  | value
  | anchor (number : Nat)
  | alias (number : Nat)
  | tag (tag : Tag)
  | scalar (text : String) (form : Form)
  deriving DecidableEq, Repr

/-- A token that a colon on the same line would make a key. -/
structure PossibleKey where
  /-- Whether nothing but a key may stand there. -/
  required : Bool
  /-- The number of tokens before it. -/
  place : Nat
  start : Cursor

/-- Whether a possible key is out of reach of a colon that stands here. -/
def PossibleKey.isStale (k : PossibleKey) (c : Cursor) : Bool :=
  k.start.line < c.line || k.start.index + 1024 < c.index

/-- The state of the lexer between two tokens. -/
structure Lexer where
  cursor : Cursor
  /-- The tokens so far, the last one first. -/
  tokens : List Token
  /-- The column of the innermost block collection, -1 outside of all. -/
  indent : Int
  /-- The columns of the block collections around it, the innermost first. -/
  outer : List Int
  /-- Whether a key may start at the next token. -/
  keyAllowed : Bool
  /-- The possible key outside of all flow collections. -/
  blockKey : Option PossibleKey
  /-- The possible keys of the open flow collections, the innermost first. -/
  flowKeys : List (Option PossibleKey)
  directives : Directives
  /-- The names of anchors and their numbers. -/
  anchors : List (String × Nat)

namespace Lexer

/-- The lexer at the start of a text. -/
def ofChars (cs : List Char) : Lexer :=
  ⟨Cursor.ofChars cs, [], -1, [], true, none, [], .none, []⟩

/-- Whether a flow collection is open. -/
def inFlow (l : Lexer) : Bool :=
  !l.flowKeys.isEmpty

/-- The possible key of the innermost level. -/
def possibleKey (l : Lexer) : Option PossibleKey :=
  l.flowKeys.head?.getD l.blockKey

/-- Set the possible key of the innermost level. -/
def setKey (key : Option PossibleKey) (l : Lexer) : Lexer :=
  match l.flowKeys with
  | [] => { l with blockKey := key }
  | _ :: rest => { l with flowKeys := key :: rest }

/-- Put a token at the end. -/
def push (t : Token) (l : Lexer) : Lexer :=
  { l with tokens := t :: l.tokens }

/-- Put a token behind the first `place` ones. -/
def insertAt (place : Nat) (t : Token) (l : Lexer) : Lexer :=
  { l with tokens := l.tokens.insertIdx (l.tokens.length - place) t }

/-- Put a token at the end and pass the characters that write it. -/
def take (t : Token) (width : Nat) (l : Lexer) : Lexer :=
  { l.push t with cursor := l.cursor.advanceBy width }

/-! ## Keys and columns -/

/-- Forget a possible key that is out of reach; one that is required must not be. -/
def freshKey? (c : Cursor) : Option PossibleKey → Option (Option PossibleKey)
  | none => some none
  | some k =>
    if k.isStale c then if k.required then none else some none
    else some (some k)

/-- Forget the possible keys that are out of reach. -/
def dropStale? (l : Lexer) : Option Lexer := do
  let blockKey ← freshKey? l.cursor l.blockKey
  let flowKeys ← l.flowKeys.mapM (freshKey? l.cursor)
  some { l with blockKey, flowKeys }

/-- Give up the possible key of the innermost level. -/
def dropKey? (l : Lexer) : Option Lexer :=
  match l.possibleKey with
  | some k => if k.required then none else some (l.setKey none)
  | none => some l

/-- The next token may be a key. -/
def offerKey? (l : Lexer) : Option Lexer :=
  if l.keyAllowed then do
    let l ← l.dropKey?
    let required := !l.inFlow && l.indent == Int.ofNat l.cursor.column
    some (l.setKey (some ⟨required, l.tokens.length, l.cursor⟩))
  else some l

/-- Open a block collection at a column, unless one is open there. -/
def openAt (column place : Nat) (t : Token) (l : Lexer) : Lexer :=
  if !l.inFlow && l.indent < Int.ofNat column then
    { l.insertAt place t with indent := Int.ofNat column, outer := l.indent :: l.outer }
  else l

/-- Close the block collections deeper than a column.  `outer` lists those around the innermost. -/
def closeFrom (column : Int) (indent : Int) (tokens : List Token) :
    List Int → Int × List Int × List Token
  | [] => (indent, [], tokens)
  | around :: outer =>
    if column < indent then closeFrom column around (.closeBlock :: tokens) outer
    else (indent, around :: outer, tokens)

/-- Close the block collections deeper than a column. -/
def closeTo (column : Int) (l : Lexer) : Lexer :=
  if l.inFlow then l
  else
    let (indent, outer, tokens) := closeFrom column l.indent l.tokens l.outer
    { l with indent, outer, tokens }

/-! ## Single tokens -/

/-- Pass blanks, comments and breaks.  A tab may not stand where a key may start in a block. -/
def skipBlanks : Nat → Lexer → Lexer
  | 0, l => l
  | fuel + 1, l =>
    let tabs := l.inFlow || !l.keyAllowed
    let c := (l.cursor.skipWhile fun x => x == ' ' || (tabs && x == '\t')).skipComment
    if c.headIs isBreak then
      skipBlanks fuel
        { l with cursor := c.passBreak.2, keyAllowed := l.keyAllowed || !l.inFlow }
    else { l with cursor := c }

/-- A line before a document. -/
def directive? (l : Lexer) : Option Lexer := do
  let l ← (l.closeTo (-1)).dropKey?
  let (directive, cursor) ← Directive.at? l.cursor
  let directives ← l.directives.add? directive
  some { l.push .directive with cursor, directives, keyAllowed := false }

/-- A line that starts or ends a document. -/
def documentMark? (t : Token) (l : Lexer) : Option Lexer := do
  let l ← (l.closeTo (-1)).dropKey?
  some { l.take t 3 with keyAllowed := false }

/-- The opening mark of a flow collection. -/
def openFlow? (t : Token) (l : Lexer) : Option Lexer := do
  let l ← l.offerKey?
  some { l.take t 1 with flowKeys := none :: l.flowKeys, keyAllowed := true }

/-- The closing mark of a flow collection. -/
def closeFlow? (t : Token) (l : Lexer) : Option Lexer :=
  match l.flowKeys with
  | [] => none
  | _ :: rest => some { l.take t 1 with flowKeys := rest, keyAllowed := false }

/-- The comma of a flow collection. -/
def comma? (l : Lexer) : Option Lexer :=
  if l.inFlow then some { (l.setKey none).take .comma 1 with keyAllowed := true } else none

/-- The dash of a block sequence. -/
def entry? (l : Lexer) : Option Lexer :=
  if l.inFlow || !l.keyAllowed then none
  else do
    let l ← (l.openAt l.cursor.column l.tokens.length .openBlockSequence).dropKey?
    some { l.take .entry 1 with keyAllowed := true }

/-- The question mark before a key. -/
def key? (l : Lexer) : Option Lexer :=
  if !l.inFlow && !l.keyAllowed then none
  else do
    let l ← (l.openAt l.cursor.column l.tokens.length .openBlockMapping).dropKey?
    some { l.take .key 1 with keyAllowed := !l.inFlow }

/-- The colon before a value.  It makes a key of the possible key before it. -/
def value? (l : Lexer) : Option Lexer :=
  match l.possibleKey with
  | some k =>
    let l := ((l.insertAt k.place .key).openAt k.start.column k.place .openBlockMapping).setKey none
    some { l.take .value 1 with keyAllowed := false }
  | none =>
    if !l.inFlow && !l.keyAllowed then none
    else
      let l := l.openAt l.cursor.column l.tokens.length .openBlockMapping
      some { l.take .value 1 with keyAllowed := !l.inFlow }

/-- The name of the node that follows. -/
def anchor? (l : Lexer) : Option Lexer := do
  let l ← l.offerKey?
  let (name, cursor) ← name? l.cursor
  let number := l.anchors.length
  let anchors := (name, number) :: l.anchors.filter fun anchor => anchor.1 != name
  some { l.push (.anchor number) with cursor, anchors, keyAllowed := false }

/-- The name of a node that has stood before. -/
def alias? (l : Lexer) : Option Lexer := do
  let l ← l.offerKey?
  let (name, cursor) ← name? l.cursor
  let number ← l.anchors.lookup name
  some { l.push (.alias number) with cursor, keyAllowed := false }

/-- The tag of the node that follows. -/
def tag? (l : Lexer) : Option Lexer := do
  let l ← l.offerKey?
  let (tag, cursor) ← Tag.at? l.inFlow l.directives l.cursor
  some { l.push (.tag tag) with cursor, keyAllowed := false }

/-- A scalar in quotes. -/
def quotedScalar? (double : Bool) (l : Lexer) : Option Lexer := do
  let l ← l.offerKey?
  let (text, cursor) ← quoted? double l.cursor
  some { l.push (.scalar (String.ofList text) .quoted) with cursor, keyAllowed := false }

/-- A scalar without marks. -/
def plainScalar? (l : Lexer) : Option Lexer := do
  let l ← l.offerKey?
  let (text, cursor, broken) ← plain? l.inFlow (l.indent + 1).toNat l.cursor
  some { l.push (.scalar (String.ofList text) .plain) with cursor, keyAllowed := broken }

/-- A block of lines. -/
def blockScalar? (literal : Bool) (l : Lexer) : Option Lexer := do
  let l ← l.dropKey?
  let (text, cursor) ← block? literal l.indent l.cursor
  let form := if literal then .literal else .quoted
  some { l.push (.scalar (String.ofList text) form) with cursor, keyAllowed := true }

/-- The characters that start no plain scalar. -/
def isIndicator (c : Char) : Bool :=
  "-?:,[]\x7b\x7d#&*!|>'\"%@\x60".toList.contains c

/-- Whether a plain scalar may start here. -/
def startsPlain (inFlow : Bool) (c : Cursor) : Bool :=
  !c.separatedAt 0 && (!c.headIs isIndicator ||
    (!c.separatedAt 1 &&
      (c.headIs (· == '-') || (!inFlow && c.headIs fun x => x == '?' || x == ':'))))

/-- Read the token that starts with a character. -/
def read? (x : Char) (l : Lexer) : Option Lexer :=
  if x = '%' ∧ l.cursor.column = 0 then l.directive?
  else if l.cursor.atDocumentMark then
    documentMark? (if x = '-' then .documentStart else .documentEnd) l
  else if x = '[' then l.openFlow? .openFlowSequence
  else if x = '\x7b' then l.openFlow? .openFlowMapping
  else if x = ']' then l.closeFlow? .closeFlowSequence
  else if x = '\x7d' then l.closeFlow? .closeFlowMapping
  else if x = ',' then l.comma?
  else if x = '-' ∧ l.cursor.separatedAt 1 then l.entry?
  else if x = '?' ∧ (l.inFlow || l.cursor.separatedAt 1) then l.key?
  else if x = ':' ∧ (l.inFlow || l.cursor.separatedAt 1) then l.value?
  else if x = '&' then l.anchor?
  else if x = '*' then l.alias?
  else if x = '!' then l.tag?
  else if x = '|' ∧ !l.inFlow then l.blockScalar? true
  else if x = '>' ∧ !l.inFlow then l.blockScalar? false
  else if x = '\'' then l.quotedScalar? false
  else if x = '"' then l.quotedScalar? true
  else if startsPlain l.inFlow l.cursor then l.plainScalar?
  else none

/-- The tokens of the rest of a text; every one of them takes a character. -/
def run? : Nat → Lexer → Option (List Token)
  | 0, _ => none
  | fuel + 1, l => do
    let l ← (skipBlanks l.cursor.rest.length l).dropStale?
    let l := l.closeTo (Int.ofNat l.cursor.column)
    match l.cursor.head? with
    | none =>
      let l ← (l.closeTo (-1)).dropKey?
      some l.tokens.reverse
    | some x =>
      let l ← l.read? x
      run? fuel l

end Lexer

/-- A text without its byte order mark. -/
def withoutMark : List Char → List Char
  | '\uFEFF' :: rest => rest
  | cs => cs

/-- The tokens of a text. -/
def tokens? (s : String) : Option (List Token) :=
  let cs := withoutMark s.toList
  if cs.all isAllowed then Lexer.run? (cs.length + 1) (Lexer.ofChars cs) else none

end TableGateway.Yaml
