import TableGateway.Criterion

/-!
# Requests that no statement expresses

Most malformed requests cannot be written down in the library's types.  What remains are
collections that are empty where a statement needs an element, and a declared field that takes the
key column's name.
-/

namespace TableGateway

/-- The SQL keyword of a combinator. -/
def Combinator.keyword : Combinator → String
  | .and => "AND"
  | .or => "OR"

/-- Why a request has no statement. -/
inductive CompileError where
  /-- A group inside the criteria has no members. -/
  | emptyGroup (kind : Combinator)
  /-- An update sets nothing. -/
  | emptySet (table : String)
  /-- An insert fills no column. -/
  | emptyFieldSet (table : String)
  /-- An insert has no rows. -/
  | noRows (table : String)
  /-- A declared field takes the name of the key column. -/
  | reservedColumn (table column : String)
  deriving DecidableEq, Repr

/-- The text of an error. -/
def CompileError.message : CompileError → String
  | .emptyGroup kind => "Empty " ++ kind.keyword ++ " group inside criteria"
  | .emptySet table => "Nothing to set when updating table '" ++ table ++ "'"
  | .emptyFieldSet table => "No fields to insert into table '" ++ table ++ "'"
  | .noRows table => "No rows to insert into table '" ++ table ++ "'"
  | .reservedColumn table column =>
    "Field '" ++ column ++ "' of table '" ++ table ++ "' is reserved for the primary key"

end TableGateway
