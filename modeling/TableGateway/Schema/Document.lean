import TableGateway.Json.Basic
import TableGateway.Schema.Basic
import TableGateway.Text.Utf8
import TableGateway.Yaml.Node

/-!
# Schemas as documents

A schema is written as a YAML document:

    tables:
      - name: people
        fields:
          - name: email
            type: string
            required: true
            unique: true
            ddl:
              type: VARCHAR(40)

* `Schema.ofText?`, `Schema.parse` — the schema of a YAML text.
* `Schema.ofFile` — the schema of a file's bytes, by any reader of texts.
* `Schema.toJson` — the schema as a JSON document, with the keys in the order of the declaration
  and without directives that are not set.

The nodes at the anchors of the document are at hand where an alias may stand for a node.

Keys that are not known are passed over, a known key that is repeated makes the document malformed,
and so does a value that its key does not admit.
-/

namespace TableGateway

namespace Schema

open Yaml (Node)

section

variable (anchors : List (Nat × Node))

/-- The entries of a record that have a known key.  Each such key occurs once at most. -/
def knownEntries? (known : List String) : List (Node × Node) → Option (List (String × Node))
  | [] => some []
  | (key, value) :: rest => do
    let name ← (key.target anchors).text?
    let entries ← knownEntries? known rest
    if !known.contains name then some entries
    else if (entries.lookup name).isSome then none
    else some ((name, value.target anchors) :: entries)

/-- The known entries of a node that is a record. -/
def record? (known : List String) (node : Node) : Option (List (String × Node)) := do
  knownEntries? anchors known (← node.pairs?)

/-- The value of a key that may be missing. -/
def optional? {α : Type} (key : String) (default : α) (read : Node → Option α)
    (entries : List (String × Node)) : Option α :=
  match entries.lookup key with
  | none => some default
  | some node => read node

/-- A text, or nothing. -/
def textOrNull? (node : Node) : Option (Option String) := do
  if ← node.isNull? then some none else node.text?.map some

/-- Read every item of a list. -/
def all? {α : Type} (read : Node → Option α) (node : Node) : Option (List α) := do
  (← node.items?).mapM fun item => read (item.target anchors)

/-- The directives of a node. -/
def directives? (node : Node) : Option ColumnDirectives := do
  let entries ← record? anchors ["override", "type"] node
  let override ← optional? "override" none textOrNull? entries
  let columnType ← optional? "type" none textOrNull? entries
  some ⟨override, columnType⟩

/-- The field declaration of a node. -/
def fieldDecl? (node : Node) : Option FieldDecl := do
  let entries ← record? anchors ["name", "type", "ddl", "required", "unique"] node
  let name ← (← entries.lookup "name").text?
  let type ← (← entries.lookup "type").text?
  let directives ← optional? "ddl" .none (directives? anchors) entries
  let required ← optional? "required" false Node.truth? entries
  let unique ← optional? "unique" false Node.truth? entries
  some ⟨name, FieldType.ofName type, directives, required, unique⟩

/-- The table declaration of a node. -/
def tableDecl? (node : Node) : Option TableDecl := do
  let entries ← record? anchors ["name", "fields"] node
  let name ← (← entries.lookup "name").text?
  let fields ← optional? "fields" [] (all? anchors (fieldDecl? anchors)) entries
  some ⟨name, fields⟩

end

/-- The schema of a node, among the nodes that aliases in it stand for. -/
def ofNode? (node : Node) (anchors : List (Nat × Node) := []) : Option Schema := do
  let entries ← record? anchors ["tables"] (node.target anchors)
  let tables ← optional? "tables" [] (all? anchors (tableDecl? anchors)) entries
  some ⟨tables⟩

/-- The schema of a YAML text.  A text without a document declares no table. -/
def ofText? (text : String) : Option Schema := do
  match ← Node.parse? text with
  | none => some ⟨[]⟩
  | some node => ofNode? node node.anchors

/-- A version, an anchor with a tag, and an alias of the table. -/
example : ofText? "%YAML 1.2\n---\ntables:\n- &a !t\n  name: people\n- *a\n" =
    some ⟨[⟨"people", []⟩, ⟨"people", []⟩]⟩ := by
  decide +kernel

/-- The schema of a text, by a reader of texts. -/
def parse (read? : String → Option Schema) (text : String) : Except SchemaError Schema :=
  match read? text with
  | some schema => .ok schema
  | none => .error .malformed

/-- The schema of a file's bytes, by a reader of texts; without bytes there is no such file. -/
def ofFile (read? : String → Option Schema) (bytes : Option (List UInt8)) :
    Except SchemaError Schema :=
  match bytes.bind Text.Utf8.decode? with
  | some text => parse read? text
  | none => .error .unreadable

end Schema

/-! ## As JSON -/

/-- A member for a text that may be missing. -/
def ColumnDirectives.member (key : String) : Option String → List (String × Json)
  | .some text => [(key, .string text)]
  | .none => []

/-- The members for the directives that are set. -/
def ColumnDirectives.members (d : ColumnDirectives) : List (String × Json) :=
  member "override" d.override ++ member "type" d.columnType

/-- The document for a field declaration. -/
def FieldDecl.toJson (field : FieldDecl) : Json :=
  let directives := field.directives.members
  .object <|
    [("name", .string field.name), ("type", .string field.type.name)] ++
    (if directives.isEmpty then [] else [("ddl", .object directives)]) ++
    [("required", .bool field.required), ("unique", .bool field.unique)]

/-- The document for a table declaration. -/
def TableDecl.toJson (decl : TableDecl) : Json :=
  .object [("name", .string decl.name), ("fields", .array (decl.fields.map FieldDecl.toJson))]

/-- The document for a schema. -/
def Schema.toJson (schema : Schema) : Json :=
  .object [("tables", .array (schema.tables.map TableDecl.toJson))]

end TableGateway
