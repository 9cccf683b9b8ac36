/-!
# SQL text

SQL text is put together from three kinds of pieces: text that is written as it stands, names that
are quoted, and placeholders for bound values.  Names are the only text of a caller's that ever
enters a statement, and only a `name` piece carries one; values are always bound.

* `Piece.quote` — a name between backticks, with the backticks inside doubled.
* `SqlText.qualified` — a name of dotted parts, each quoted by itself.
* `SqlText.render` — the text that the pieces write.
-/

namespace TableGateway

/-- A piece of SQL text. -/
inductive Piece where
  /-- Text that is written as it stands. -/
  | verbatim (text : String)
  /-- A name, which is quoted. -/
  | name (text : String)
  /-- The place of a bound value. -/
  | placeholder
  deriving DecidableEq, Repr

/-- SQL text in pieces. -/
abbrev SqlText := List Piece

namespace Piece

/-- The mark on both sides of a name. -/
def backtick : Char := '\x60'

/-- The characters of a name with its backticks doubled. -/
def doubled : List Char → List Char
  | [] => []
  | c :: rest => if c = backtick then backtick :: backtick :: doubled rest else c :: doubled rest

/-- The characters of a quoted name. -/
def quote (name : String) : List Char :=
  backtick :: (doubled name.toList ++ [backtick])

/-- The characters of a piece. -/
def chars : Piece → List Char
  | .verbatim text => text.toList
  | .name text => quote text
  | .placeholder => ['?']

end Piece

namespace SqlText

/-- The text that the pieces write. -/
def render (text : SqlText) : String :=
  String.ofList (text.flatMap Piece.chars)

/-- Texts one after the other, with a separator between each two. -/
def join (separator : String) : List SqlText → SqlText
  | [] => []
  | [text] => text
  | text :: rest => text ++ .verbatim separator :: join separator rest

/-- The parts of a dotted name. -/
def dottedParts (name : String) : List String :=
  (name.toList.splitOn '.').map String.ofList

/-- A name of dotted parts, each quoted by itself. -/
def qualified (name : String) : SqlText :=
  join "." ((dottedParts name).map fun part => [.name part])

end SqlText

end TableGateway
