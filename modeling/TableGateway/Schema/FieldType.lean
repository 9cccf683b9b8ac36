/-!
# Field types

The engine-neutral type of a declared field.  Type names are matched after ASCII lower-casing;
each type has one canonical name and further ones, and a name that belongs to no type is kept as
it is written.

* `FieldType.ofName` — the type of a name.
* `FieldType.name` — the canonical name.
* `FieldType.columnType` — the column type that stores it.
-/

namespace TableGateway

/-- The type of a declared field. -/
inductive FieldType where
  | string
  | text
  | integer
  | double
  | boolean
  | datetime
  | date
  /-- Decimals of any precision. -/
  | big
  /-- Keys with values, stored as JSON text. -/
  | map
  /-- Values in order, stored as JSON text. -/
  | list
  /-- A type name that the table below does not have. -/
  | other (name : String)
  deriving DecidableEq, Repr, Inhabited

namespace FieldType

/-- The canonical name. -/
def name : FieldType → String
  | .string => "string"
  | .text => "text"
  | .integer => "integer"
  | .double => "double"
  | .boolean => "boolean"
  | .datetime => "datetime"
  | .date => "date"
  | .big => "big"
  | .map => "map"
  | .list => "list"
  | .other name => name

/-- The types with all their names in lower case, the canonical one first. -/
def names : List (FieldType × List String) :=
  [(.string, ["string", "nstring", "str"]), (.text, ["text", "ntext"]),
   (.integer, ["integer", "ninteger", "int"]), (.double, ["double", "ndouble", "float"]),
   (.boolean, ["boolean", "nboolean", "bool"]),
   (.datetime, ["datetime", "ndatetime", "date_time"]), (.date, ["date", "ndate"]),
   (.big, ["big", "nbig", "decimal"]), (.map, ["map", "nmap", "object"]),
   (.list, ["list", "nlist", "array"])]

/-- A text with its ASCII letters in lower case. -/
def lowered (s : String) : String :=
  String.ofList (s.toList.map Char.toLower)

/-- The type of a name. -/
def ofName (s : String) : FieldType :=
  match names.find? fun entry => entry.2.contains (lowered s) with
  | some (type, _) => type
  | none => .other s

/-- Whether the type is a name without a type. -/
def isOther : FieldType → Bool
  | .other _ => true
  | _ => false

/-- The column type where no other is known. -/
def defaultColumnType : String := "VARCHAR(255)"

/-- The column type that stores the field. -/
def columnType : FieldType → String
  | .string => "VARCHAR(255)"
  | .text => "TEXT"
  | .integer => "INT"
  | .double => "DOUBLE"
  | .boolean => "TINYINT(1)"
  | .datetime => "DATETIME"
  | .date => "DATE"
  | .big => "DECIMAL(65,30)"
  | .map => "TEXT"
  | .list => "TEXT"
  | .other _ => defaultColumnType

end FieldType

end TableGateway
