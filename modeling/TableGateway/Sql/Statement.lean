import TableGateway.Query
import TableGateway.Row
import TableGateway.Schema.Basic
import TableGateway.Sql.Predicate
import TableGateway.Text.Blank

/-!
# Statements

One builder per kind of operation, each giving SQL text with a placeholder per bound value and
these values in the order of the placeholders.

* `select`, `count`, `update`, `delete` — over the rows that a query means.
* `insert` — rows under the columns that `insertFields` names.
* `define`, `undefine`, `probe` — on the table itself.
-/

namespace TableGateway

/-- SQL text and the values bound in it. -/
structure Statement where
  text : SqlText
  params : List Cell
  deriving DecidableEq, Repr

/-- Bound values as they are handed over. -/
inductive Binding where
  | empty
  | positional (params : List Cell)
  deriving DecidableEq, Repr

/-- The SQL keyword of a direction. -/
def Direction.keyword : Direction → String
  | .ascending => "ASC"
  | .descending => "DESC"

/-- The clause that orders by a sort order. -/
def SortOrder.clause (sort : SortOrder) : SqlText :=
  if sort.isEmpty then []
  else .verbatim " ORDER BY " :: SqlText.join ", "
    (sort.entries.map fun e => [.name e.1, .verbatim (" " ++ e.2.keyword)])

/-- The clause that cuts out a page. -/
def Page.clause (page : Page) : SqlText :=
  match page.window with
  | none => []
  | some (limit, none) => [.verbatim (" LIMIT " ++ toString limit.toNat)]
  | some (limit, some offset) =>
    [.verbatim (" LIMIT " ++ toString limit.toNat ++ " OFFSET " ++ toString offset.toNat)]

namespace Statement

/-- The SQL text. -/
def sql (s : Statement) : String :=
  s.text.render

/-- The bound values as they are handed over. -/
def binding (s : Statement) : Binding :=
  if s.params.isEmpty then .empty else .positional s.params

/-- The number of question marks in the text, those inside names included. -/
def questionMarks (s : Statement) : Nat :=
  s.sql.toList.count '?'

/-! ## Rows that a query means -/

/-- All columns of the rows that a query means, on a page of them. -/
def selectPage (q : Query) (page : Page) : Except CompileError Statement := do
  let predicate ← Predicate.ofCriteria q.criteria
  .ok ⟨.verbatim "SELECT * FROM " :: SqlText.qualified q.table ++ predicate.whereClause ++
    q.sort.clause ++ page.clause, predicate.params⟩

/-- The rows that a query means. -/
def select (q : Query) : Except CompileError Statement :=
  selectPage q q.page

/-- The number of rows that a query means.  Its page counts only where asked for. -/
def count (q : Query) (paginate : Bool) : Except CompileError Statement := do
  let inner ← selectPage q (if paginate then q.page else .all)
  .ok ⟨.verbatim "SELECT COUNT(*) AS count FROM (" :: inner.text ++ [.verbatim ") AS a"],
    inner.params⟩

/-- Set fields in the rows that a query means.  The set values are bound before the predicate's. -/
def update (q : Query) (sets : Row) : Except CompileError Statement :=
  if sets.isEmpty then .error (.emptySet q.table)
  else do
    let predicate ← Predicate.ofCriteria q.criteria
    let assignments := sets.names.map fun name => [.name name, .verbatim " = ", .placeholder]
    .ok ⟨.verbatim "UPDATE " :: SqlText.qualified q.table ++ .verbatim " SET " ::
      SqlText.join ", " assignments ++ predicate.whereClause,
      sets.values.map Value.toCell ++ predicate.params⟩

/-- Delete the rows that a query means. -/
def delete (q : Query) : Except CompileError Statement := do
  let predicate ← Predicate.ofCriteria q.criteria
  .ok ⟨.verbatim "DELETE FROM " :: SqlText.qualified q.table ++ predicate.whereClause,
    predicate.params⟩

/-! ## New rows -/

/-- Names after those seen already, each once. -/
def addNames (seen : List String) : List String → List String
  | [] => seen
  | name :: rest => addNames (if seen.contains name then seen else seen ++ [name]) rest

/-- The columns that an insert fills: the declared fields where there are any, else every name of
the rows in the order first seen. -/
def insertFields (decl : Option TableDecl) (rows : List Row) : List String :=
  match decl with
  | some ⟨_, field :: rest⟩ => (field :: rest).map (·.name)
  | _ => addNames [] (rows.flatMap Row.names)

/-- The value that a row binds for a column: null where it has no field of that name. -/
def cellFor (row : Row) (field : String) : Cell :=
  ((row.find? field).getD .null).toCell

/-- A tuple of placeholders, one per column. -/
def tuple (width : Nat) : SqlText :=
  .verbatim "(" :: SqlText.join ", " (List.replicate width [.placeholder]) ++ [.verbatim ")"]

/-- Insert rows with one statement, values row by row in the order of the columns. -/
def insert (table : String) (fields : List String) (rows : List Row) :
    Except CompileError Statement :=
  if rows.isEmpty then .error (.noRows table)
  else if fields.isEmpty then .error (.emptyFieldSet table)
  else
    .ok ⟨.verbatim "INSERT INTO " :: SqlText.qualified table ++ .verbatim " (" ::
      SqlText.join ", " (fields.map fun f => [.name f]) ++ .verbatim ") VALUES " ::
      SqlText.join ", " (rows.map fun _ => tuple fields.length),
      rows.flatMap fun row => fields.map (cellFor row)⟩

/-! ## Tables -/

/-- The name of the key column. -/
def keyColumn : String := "id"

/-- The clause of the key column after its name. -/
def keyClause : String := "INT PRIMARY KEY AUTO_INCREMENT"

/-- The column clause of a declared field. -/
def columnClause (field : FieldDecl) : SqlText :=
  match field.directives.override with
  | some clause => [.name field.name, .verbatim (" " ++ Text.trim clause)]
  | none =>
    let type := match field.directives.columnType with
      | some type => Text.trim type
      | none => field.type.columnType
    [.name field.name, .verbatim (" " ++ type ++ (if field.required then " NOT NULL" else " NULL") ++
      (if field.unique then " UNIQUE" else ""))]

/-- Whether a name is the key column's up to ASCII case. -/
def isReserved (name : String) : Bool :=
  FieldType.lowered name == keyColumn

/-- Create a declared table.  The key column comes first, then the fields as declared. -/
def define (decl : TableDecl) : Except CompileError Statement :=
  match decl.fields.find? fun field => isReserved field.name with
  | some field => .error (.reservedColumn decl.name field.name)
  | none =>
    let key : SqlText := [.name keyColumn, .verbatim (" " ++ keyClause)]
    let columns := (key :: decl.fields.map columnClause).map fun clause => .verbatim "  " :: clause
    .ok ⟨.verbatim "CREATE TABLE " :: SqlText.qualified decl.name ++ .verbatim " (\n" ::
      SqlText.join ",\n" columns ++ [.verbatim "\n)"], []⟩

/-- Drop a table. -/
def undefine (table : String) : Statement :=
  ⟨.verbatim "DROP TABLE " :: SqlText.qualified table, []⟩

/-- The cheapest statement that succeeds where a table exists. -/
def probe (table : String) : Statement :=
  ⟨.verbatim "SELECT 1 FROM " :: SqlText.qualified table ++ [.verbatim " LIMIT 1"], []⟩

end Statement

end TableGateway
