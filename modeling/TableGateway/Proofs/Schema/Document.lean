import TableGateway.Json.Printer
import TableGateway.Proofs.Json
import TableGateway.Proofs.Schema.FieldType
import TableGateway.Schema.Document

/-!
# Schemas written and read back

A schema is written as a document without the directives that are not set, and is read from a YAML
node where what is left out has a default.  Left out is just what the defaults bring back.  The one
thing that a document cannot hold is the type itself: it holds the canonical name, and the reader
looks the name up, so that types come back if they were once looked up too.

* `Yaml.Node.ofJson` — a JSON document as a YAML node.
* `Schema.Named` — the schemas whose types are types of names.
* `Schema.record?_ofJson` — a record of distinct known keys is read as its members.
* `directives?_ofJson`, `fieldDecl?_toJson`, `tableDecl?_toJson` — the parts of a schema read back.
* **`Schema.ofNode?_toJson`** — names of types are normalised by looking them up, and a schema with
  such types is read back as it was.
-/

namespace TableGateway

/-! ## Documents as nodes -/

namespace Yaml.Node

mutual

/-- A JSON document as a YAML node.  A text is never plain, whatever it says; truth values, numbers
and null are. -/
def ofJson : Json → Node
  | .null => .scalar "null" true
  | .bool b => .scalar (if b then "true" else "false") true
  | .number n => .scalar n.text true
  | .string s => .scalar s false
  | .array items => .sequence (itemsOfJson items)
  | .object members => .mapping (pairsOfJson members)

/-- The nodes of a list of documents. -/
def itemsOfJson : List Json → List Node
  | [] => []
  | j :: rest => ofJson j :: itemsOfJson rest

/-- The pairs of an object's members. -/
def pairsOfJson : List (String × Json) → List (Node × Node)
  | [] => []
  | (key, j) :: rest => (.scalar key false, ofJson j) :: pairsOfJson rest

end

lemma itemsOfJson_eq_map (items : List Json) : itemsOfJson items = items.map ofJson := by
  induction items with
  | nil => rfl
  | cons j rest ih => rw [itemsOfJson, ih, List.map_cons]

/-- A JSON document has no aliases, so its nodes stand for themselves. -/
lemma target_ofJson (anchors : List (Nat × Node)) (j : Json) :
    (ofJson j).target anchors = ofJson j := by
  cases j with
  | null | bool | number | string | array | object => rfl

lemma text?_ofJson (s : String) : (ofJson (.string s)).text? = some s := by
  rw [ofJson, text?]

lemma truth?_ofJson (b : Bool) : (ofJson (.bool b)).truth? = some b := by
  cases b with
  | true => rfl
  | false => rfl

end Yaml.Node

/-! ## Types by their names -/

/-- The field with the type of its type's canonical name. -/
def FieldDecl.normalized (field : FieldDecl) : FieldDecl :=
  { field with type := FieldType.ofName field.type.name }

/-- The table with its fields normalised. -/
def TableDecl.normalized (decl : TableDecl) : TableDecl :=
  ⟨decl.name, decl.fields.map FieldDecl.normalized⟩

/-- The schema with its tables normalised. -/
def Schema.normalized (schema : Schema) : Schema :=
  ⟨schema.tables.map TableDecl.normalized⟩

/-- A field is left as it is if its type is the type of a name. -/
lemma FieldDecl.normalized_eq_self {field : FieldDecl} :
    field.normalized = field ↔ ∃ name, field.type = FieldType.ofName name := by
  have htype : field.normalized = field ↔ FieldType.ofName field.type.name = field.type := by
    obtain ⟨name, type, directives, required, unique⟩ := field
    simp [FieldDecl.normalized]
  rw [htype]
  constructor
  · exact fun h => ⟨_, h.symm⟩
  · rintro ⟨name, hname⟩
    rw [hname, FieldType.ofName_name_ofName]

namespace Schema

open Yaml (Node)

/-- Every type of the schema is the type of some name. -/
def Named (schema : Schema) : Prop :=
  ∀ table ∈ schema.tables, ∀ field ∈ table.fields, ∃ name, field.type = FieldType.ofName name

lemma map_eq_self {α : Type} {f : α → α} {items : List α} :
    items.map f = items ↔ ∀ a ∈ items, f a = a := by
  rw [← List.map_inj_left, List.map_id']

/-- Just the schemas whose types are types of names are left as they are. -/
lemma normalized_eq_self {schema : Schema} : schema.normalized = schema ↔ schema.Named := by
  obtain ⟨tables⟩ := schema
  rw [normalized, Schema.mk.injEq, map_eq_self]
  refine forall₂_congr fun table _ => ?_
  obtain ⟨name, fields⟩ := table
  rw [TableDecl.normalized, TableDecl.mk.injEq, eq_self_iff_true, true_and, map_eq_self]
  exact forall₂_congr fun field _ => FieldDecl.normalized_eq_self

/-! ## Records -/

section

variable {anchors : List (Nat × Node)} {known : List String} {members : List (String × Json)}

/-- The members of an object as entries of a record. -/
def entriesOf (members : List (String × Json)) : List (String × Node) :=
  members.map fun m => (m.1, Node.ofJson m.2)

/-- An entry is looked up as a member is found. -/
lemma lookup_entriesOf (key : String) (members : List (String × Json)) :
    (entriesOf members).lookup key = (Json.member? key members).map Node.ofJson := by
  induction members with
  | nil => rfl
  | cons m rest ih =>
    obtain ⟨k, j⟩ := m
    rw [entriesOf, List.map_cons, List.lookup_cons, Json.member?]
    by_cases hk : k = key
    · rw [hk, if_pos rfl, beq_self_eq_true]
      rfl
    · rw [if_neg hk, beq_false_of_ne (Ne.symm hk)]
      exact ih

/-- An entry that is left out has the default. -/
lemma optional?_entriesOf {α : Type} (key : String) (default : α) (read : Node → Option α)
    (members : List (String × Json)) :
    optional? key default read (entriesOf members) =
      (Json.member? key members).elim (some default) fun j => read (Node.ofJson j) := by
  rw [optional?, lookup_entriesOf]
  cases Json.member? key members with
  | none => rfl
  | some j => rfl

/-- A record of distinct known keys is read as its members. -/
theorem record?_ofJson (hkeys : (members.map (·.1)).Nodup) (hknown : ∀ m ∈ members, m.1 ∈ known) :
    record? anchors known (Node.ofJson (.object members)) = some (entriesOf members) := by
  change knownEntries? anchors known (Node.pairsOfJson members) = some (entriesOf members)
  induction members with
  | nil => rfl
  | cons m rest ih =>
    obtain ⟨hkey, hrest⟩ := List.nodup_cons.mp hkeys
    obtain ⟨hm, hothers⟩ := List.forall_mem_cons.mp hknown
    have hnone : (entriesOf rest).lookup m.1 = none := by
      rw [lookup_entriesOf, Json.member?_eq_find?, Fields.find?_eq_none.mpr hkey]
      rfl
    have hcontains : known.contains m.1 = true := by simpa using hm
    rw [Node.pairsOfJson, knownEntries?, ih hrest hothers, Node.target_ofJson]
    simp only [Node.target, Node.text?, Option.bind_eq_bind, Option.bind_some, hcontains, hnone]
    rfl

end

/-- A list is read item by item. -/
lemma all?_ofJson {α β : Type} (anchors : List (Nat × Node)) {read : Node → Option β}
    {write : α → Json} {f : α → β} (h : ∀ a, read (Node.ofJson (write a)) = some (f a))
    (items : List α) :
    all? anchors read (Node.ofJson (.array (items.map write))) = some (items.map f) := by
  change (Node.itemsOfJson (items.map write)).mapM (fun item => read (item.target anchors)) =
    some (items.map f)
  rw [Node.itemsOfJson_eq_map, List.map_map]
  induction items with
  | nil => rfl
  | cons a rest ih =>
    rw [List.map_cons, List.mapM_cons, Function.comp_apply, Node.target_ofJson, h, ih]
    rfl

/-! ## Directives -/

/-- Just the directives that are set are members. -/
lemma member?_members (d : ColumnDirectives) :
    Json.member? "override" d.members = d.override.map .string ∧
      Json.member? "type" d.members = d.columnType.map .string := by
  obtain ⟨override, columnType⟩ := d
  cases override <;> cases columnType <;> exact ⟨rfl, rfl⟩

/-- The directives have distinct keys, which are known. -/
lemma keys_members (d : ColumnDirectives) :
    (d.members.map (·.1)).Nodup ∧ ∀ m ∈ d.members, m.1 ∈ ["override", "type"] := by
  obtain ⟨override, columnType⟩ := d
  cases override <;> cases columnType <;> simp [ColumnDirectives.members, ColumnDirectives.member]

/-- Without a set directive there are no members. -/
lemma members_isEmpty (d : ColumnDirectives) : d.members.isEmpty = true ↔ d = .none := by
  obtain ⟨override, columnType⟩ := d
  cases override <;> cases columnType <;>
    simp [ColumnDirectives.members, ColumnDirectives.member, ColumnDirectives.none]

/-- A text that may be missing is read back from its member, and so is one that is missing. -/
lemma optional?_text (text : Option String) :
    (text.map Json.string).elim (some none) (fun j => textOrNull? (Node.ofJson j)) = some text := by
  cases text with
  | none => rfl
  | some text => rfl

/-- Directives are read back. -/
theorem directives?_ofJson (anchors : List (Nat × Node)) (d : ColumnDirectives) :
    directives? anchors (Node.ofJson (.object d.members)) = some d := by
  obtain ⟨hkeys, hknown⟩ := keys_members d
  obtain ⟨hoverride, htype⟩ := member?_members d
  rw [directives?, record?_ofJson hkeys hknown]
  simp only [Option.bind_eq_bind, Option.bind_some, optional?_entriesOf, hoverride, htype,
    optional?_text]

/-! ## Declarations -/

/-- The members for a field. -/
def fieldMembers (field : FieldDecl) : List (String × Json) :=
  [("name", .string field.name), ("type", .string field.type.name)] ++
    (if field.directives = .none then [] else [("ddl", .object field.directives.members)]) ++
    [("required", .bool field.required), ("unique", .bool field.unique)]

/-- The document of a field has these members. -/
lemma toJson_eq_object (field : FieldDecl) : field.toJson = .object (fieldMembers field) := by
  simp only [FieldDecl.toJson, fieldMembers, members_isEmpty]

/-- The members of a field have distinct keys, which are known. -/
lemma keys_fieldMembers (field : FieldDecl) :
    ((fieldMembers field).map (·.1)).Nodup ∧
      ∀ m ∈ fieldMembers field, m.1 ∈ ["name", "type", "ddl", "required", "unique"] := by
  rw [fieldMembers]
  split
  · simp
  · simp

/-- The directives of a field are a member if one is set. -/
lemma member?_ddl (field : FieldDecl) : Json.member? "ddl" (fieldMembers field) =
    if field.directives = .none then none else some (.object field.directives.members) := by
  rw [fieldMembers]
  split
  · rfl
  · rfl

/-- The members that a field always has. -/
lemma member?_fieldMembers (field : FieldDecl) :
    Json.member? "name" (fieldMembers field) = some (.string field.name) ∧
      Json.member? "type" (fieldMembers field) = some (.string field.type.name) ∧
      Json.member? "required" (fieldMembers field) = some (.bool field.required) ∧
      Json.member? "unique" (fieldMembers field) = some (.bool field.unique) := by
  rw [fieldMembers]
  split
  · exact ⟨rfl, rfl, rfl, rfl⟩
  · exact ⟨rfl, rfl, rfl, rfl⟩

/-- A field comes back with the type of its type's canonical name. -/
theorem fieldDecl?_toJson (anchors : List (Nat × Node)) (field : FieldDecl) :
    fieldDecl? anchors (Node.ofJson field.toJson) = some field.normalized := by
  obtain ⟨hkeys, hknown⟩ := keys_fieldMembers field
  obtain ⟨hname, htype, hrequired, hunique⟩ := member?_fieldMembers field
  have hdirectives : optional? "ddl" .none (directives? anchors)
      (entriesOf (fieldMembers field)) = some field.directives := by
    rw [optional?_entriesOf, member?_ddl]
    split
    · rename_i hnone
      rw [hnone]
      rfl
    · exact directives?_ofJson anchors field.directives
  rw [toJson_eq_object, fieldDecl?, record?_ofJson hkeys hknown]
  simp only [Option.bind_eq_bind, Option.bind_some, lookup_entriesOf, hname, htype,
    Option.map_some, hdirectives, optional?_entriesOf, hrequired, hunique, Option.elim_some,
    Node.text?_ofJson, Node.truth?_ofJson, FieldDecl.normalized]

/-- A table comes back with its fields normalised. -/
theorem tableDecl?_toJson (anchors : List (Nat × Node)) (decl : TableDecl) :
    tableDecl? anchors (Node.ofJson decl.toJson) = some decl.normalized := by
  have hfields := all?_ofJson anchors (fieldDecl?_toJson anchors) decl.fields
  rw [tableDecl?, TableDecl.toJson, record?_ofJson (by simp) (by simp)]
  simp only [Option.bind_eq_bind, Option.bind_some, lookup_entriesOf, optional?_entriesOf]
  simp [Json.member?, Node.text?_ofJson, hfields, TableDecl.normalized]

/-- A schema comes back with its tables normalised. -/
lemma ofNode?_eq_normalized (anchors : List (Nat × Node)) (schema : Schema) :
    ofNode? (Node.ofJson schema.toJson) anchors = some schema.normalized := by
  have htables := all?_ofJson anchors (tableDecl?_toJson anchors) schema.tables
  rw [ofNode?, Node.target_ofJson, Schema.toJson, record?_ofJson (by simp) (by simp)]
  simp only [Option.bind_eq_bind, Option.bind_some, optional?_entriesOf]
  simp [Json.member?, htables, Schema.normalized]

/-- **Schemas survive being written.**  Looking up a type's canonical name gives the type that was
looked up: every further name of a type, in letters of any case, has that one type, and a name of no
type is kept.  A schema is read back from its document, with the same tables and fields in the same
order and the same types, directives and flags, exactly if its types were looked up. -/
theorem ofNode?_toJson :
    (∀ s, FieldType.ofName (FieldType.ofName s).name = FieldType.ofName s) ∧
    (∀ entry ∈ FieldType.names, ∀ s, FieldType.lowered s ∈ entry.2 →
      FieldType.ofName s = entry.1) ∧
    (∀ s, (∀ entry ∈ FieldType.names, FieldType.lowered s ∉ entry.2) →
      FieldType.ofName s = .other s) ∧
    ∀ schema : Schema, ofNode? (Node.ofJson schema.toJson) = some schema ↔ schema.Named := by
  refine ⟨FieldType.ofName_name_ofName, fun _ hentry _ => FieldType.ofName_of_mem hentry,
    fun _ => FieldType.ofName_of_unknown, fun schema => ?_⟩
  rw [ofNode?_eq_normalized, Option.some.injEq, normalized_eq_self]

/-- A further name, a name of no type, and a table with one directive that is set to nothing and
another that spells null. -/
theorem ofNode?_toJson_directives :
    FieldType.ofName "NString" = .string ∧ FieldType.ofName "Geo" = .other "Geo" ∧
    ofNode? (Node.ofJson (.object [("tables", .array [.object [("name", .string "t"),
        ("fields", .array [
          .object [("name", .string "a"), ("type", .string "string"),
            ("ddl", .object [("override", .string "")]), ("required", .bool false),
            ("unique", .bool true)],
          .object [("name", .string "a"), ("type", .string "Geo"),
            ("ddl", .object [("type", .string "null")]), ("required", .bool true),
            ("unique", .bool false)],
          .object [("name", .string "b"), ("type", .string "list"), ("required", .bool false),
            ("unique", .bool false)]])]])])) =
      some ⟨[⟨"t", [⟨"a", .string, ⟨some "", none⟩, false, true⟩,
        ⟨"a", .other "Geo", ⟨none, some "null"⟩, true, false⟩, .plain "b" .list]⟩]⟩ := by
  obtain ⟨-, hmem, hunknown, hread⟩ := ofNode?_toJson
  have hstring : FieldType.ofName "NString" = .string :=
    hmem (.string, ["string", "nstring", "str"]) (by decide) "NString" (by decide)
  have hgeo : FieldType.ofName "Geo" = .other "Geo" := hunknown "Geo" (by decide)
  have hlist : FieldType.ofName "array" = .list :=
    hmem (.list, ["list", "nlist", "array"]) (by decide) "array" (by decide)
  refine ⟨hstring, hgeo, (hread ⟨[⟨"t", [⟨"a", .string, ⟨some "", none⟩, false, true⟩,
    ⟨"a", .other "Geo", ⟨none, some "null"⟩, true, false⟩, .plain "b" .list]⟩]⟩).mpr ?_⟩
  refine List.forall_mem_singleton.mpr (List.forall_mem_cons.mpr ⟨⟨_, hstring.symm⟩, ?_⟩)
  exact List.forall_mem_cons.mpr ⟨⟨_, hgeo.symm⟩, List.forall_mem_singleton.mpr ⟨_, hlist.symm⟩⟩

end Schema

end TableGateway
