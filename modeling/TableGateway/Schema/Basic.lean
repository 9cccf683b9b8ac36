import TableGateway.Schema.FieldType

/-!
# Table declarations

A `Schema` is a list of declared tables.  The key column `id` is implicit and never declared.
Directives on a field are read where the table is created; they never change how values are bound.
-/

namespace TableGateway

/-- What a field's declaration says about its column clause. -/
structure ColumnDirectives where
  /-- Replaces the whole clause after the name. -/
  override : Option String
  /-- Replaces the column type alone. -/
  columnType : Option String
  deriving DecidableEq, Repr

/-- No directives. -/
def ColumnDirectives.none : ColumnDirectives := ⟨Option.none, Option.none⟩

/-- A declared field. -/
structure FieldDecl where
  name : String
  type : FieldType
  directives : ColumnDirectives
  required : Bool
  unique : Bool
  deriving DecidableEq, Repr

/-- A field that is optional, not unique and without directives. -/
def FieldDecl.plain (name : String) (type : FieldType) : FieldDecl :=
  ⟨name, type, .none, false, false⟩

/-- A declared table. -/
structure TableDecl where
  name : String
  fields : List FieldDecl
  deriving DecidableEq, Repr

/-- The declared field of a name. -/
def TableDecl.field? (decl : TableDecl) (name : String) : Option FieldDecl :=
  decl.fields.find? fun field => field.name = name

/-- The names of the declared fields, in their order. -/
def TableDecl.fieldNames (decl : TableDecl) : List String :=
  decl.fields.map (·.name)

/-- A list of declared tables. -/
structure Schema where
  tables : List TableDecl
  deriving DecidableEq, Repr

/-- The first declared table of a name. -/
def Schema.table? (schema : Schema) (name : String) : Option TableDecl :=
  schema.tables.find? fun table => table.name = name

/-- The names of the declared tables, in their order. -/
def Schema.tableNames (schema : Schema) : List String :=
  schema.tables.map (·.name)

/-- Why a schema, or a table of it, is not to be had. -/
inductive SchemaError where
  /-- The file is missing, or its bytes are no text. -/
  | unreadable
  /-- The text is no YAML document, or the document no schema. -/
  | malformed
  /-- The schema does not declare the table. -/
  | tableNotFound (name : String)
  deriving DecidableEq, Repr

/-- The text of an error. -/
def SchemaError.message : SchemaError → String
  | .unreadable => "Failed to read schema file: missing, or not UTF-8 text"
  | .malformed => "Failed to parse YAML: not a schema document"
  | .tableNotFound name => "Table not found: " ++ name

/-- The declared table of a name, or the error that there is none. -/
def Schema.table (schema : Schema) (name : String) : Except SchemaError TableDecl :=
  match schema.table? name with
  | some decl => .ok decl
  | none => .error (.tableNotFound name)

end TableGateway
