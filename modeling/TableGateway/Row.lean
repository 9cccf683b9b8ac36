import TableGateway.Value.Json

/-!
# Rows

A `Row` is a record of named values in key order, each name once: what is inserted, what an update
sets, and what a result row is mapped into.
-/

namespace TableGateway

/-- A record of named values. -/
structure Row where
  fields : List (String × Value)
  ascending : Fields.Ascending fields

namespace Row

def empty : Row := ⟨[], List.Pairwise.nil⟩

instance : Inhabited Row := ⟨empty⟩

/-- The row with these fields, a later one winning over an earlier one of the same name. -/
def ofList (fields : List (String × Value)) : Row :=
  ⟨Fields.ofList fields, Fields.ascending_ofList fields⟩

/-- Write a field. -/
def insert (name : String) (value : Value) (row : Row) : Row :=
  ⟨Fields.insert name value row.fields, Fields.ascending_insert name value row.ascending⟩

/-- The value of a field. -/
def find? (row : Row) (name : String) : Option Value :=
  Fields.find? name row.fields

def isEmpty (row : Row) : Bool :=
  row.fields.isEmpty

/-- The names of the fields, in key order. -/
def names (row : Row) : List String :=
  row.fields.map (·.1)

/-- The values of the fields, in the order of the names. -/
def values (row : Row) : List Value :=
  row.fields.map (·.2)

/-- The document for a row. -/
def toJson (row : Row) : Json :=
  .object (Value.fieldsToJson row.fields)

end Row

/-- The document for a list of rows. -/
def rowsToJson (rows : List Row) : Json :=
  .array (rows.map Row.toJson)

end TableGateway
