import TableGateway.Proofs.Sql.Creation
import TableGateway.Proofs.Sql.Insertion

/-!
# Rows inserted into a declared table

The builder of a CREATE TABLE writes a line for each declared field, and refuses the key column's
name; the names of an insertion are taken from the declaration by another function, with no such
check.  Both name the same columns in the same order, and so no value is bound for the key column
or for a column beside its own.

* `Filling` — what an INSERT fills, as its text has it; `Filling.read` is the reader.
* `Statement.Fills` — a statement that binds the values of given names, row by row, and no others.
* `Row.AgreesOn` — rows that do not differ in given names.
* **`Statement.insert_declared`** — an insertion into a declared table fills the columns that its
  CREATE TABLE has after the key column.
-/

namespace TableGateway

open Sql SqlText

/-- What an INSERT fills. -/
structure Filling where
  /-- The parts of the table's name. -/
  table : List String
  columns : List String
  deriving DecidableEq, Repr

namespace Filling

/-- Names with commas between them, up to a parenthesis. -/
def readNames : List Token → Option (List String × List Token)
  | .name name :: .mark ',' :: ts => (readNames ts).map fun r => (name :: r.1, r.2)
  | .name name :: .mark ')' :: ts => some ([name], ts)
  | _ => none

/-- The table and the columns, if values follow. -/
def readTokens : List Token → Option Filling
  | .word "INSERT" :: .word "INTO" :: ts =>
    match Selection.readTable ts with
    | some (table, .mark '(' :: ts) =>
      match readNames ts with
      | some (columns, .word "VALUES" :: _) => some ⟨table, columns⟩
      | _ => none
    | _ => none
  | _ => none

/-- What a text says as an INSERT. -/
def read (sql : String) : Option Filling :=
  (lex sql).bind readTokens

/-- Names with commas between them are read back. -/
lemma readNames_join (name : String) (names : List String) (ts : List Token) :
    readNames (tokens (join ", " ((name :: names).map fun n => [.name n])) ++ .mark ')' :: ts)
      = some (name :: names, ts) := by
  have hcomma : (Piece.verbatim ", ").tokens = [.mark ','] := by decide
  induction names generalizing name with
  | nil => simp [join, readNames]
  | cons next names ih =>
    have htokens : tokens (join ", " ((name :: next :: names).map fun n => [.name n]))
        = .name name :: .mark ',' ::
          tokens (join ", " ((next :: names).map fun n => [.name n])) := by
      simp [join, hcomma]
    rw [htokens, List.cons_append, List.cons_append, readNames, ih]
    rfl

/-- The columns of an insertion are read from its text. -/
lemma read_insert {table : String} {fields : List String} {rows : List Row} {s : Statement}
    (h : Statement.insert table fields rows = .ok s) :
    read s.sql = some ⟨dottedParts table, fields⟩ := by
  have hspaced := Statement.spaced_insert h
  obtain ⟨-, hfields, rfl⟩ := Statement.insert_eq_ok.mp h
  obtain ⟨name, names, rfl⟩ := List.exists_cons_of_ne_nil hfields
  have hinsert : (Piece.verbatim "INSERT INTO ").tokens = [.word "INSERT", .word "INTO"] := by
    decide
  have hopen : (Piece.verbatim " (").tokens = [.mark '('] := by decide
  have hvalues : (Piece.verbatim ") VALUES ").tokens = [.mark ')', .word "VALUES"] := by decide
  rw [read, Statement.sql, lex_render hspaced, Option.bind_some]
  simp only [tokens_cons, tokens_append, hinsert, hopen, hvalues, List.cons_append, List.nil_append,
    List.append_assoc]
  rw [readTokens, Selection.readTable_qualified table (by simp)]
  simp only [readNames_join]

end Filling

/-- Two rows that have the same values under the names. -/
def Row.AgreesOn (names : List String) (row row' : Row) : Prop :=
  ∀ name ∈ names, row.find? name = row'.find? name

namespace Statement

variable {decl : TableDecl} {table : String} {rows : List Row} {s : Statement}

/-- A statement that fills the columns of the names: it names them, and binds for each row what the
row has under each of them. -/
structure Fills (table : String) (names : List String) (rows : List Row) (s : Statement) :
    Prop where
  text : s.sql = "INSERT INTO " ++ render (qualified table) ++ " (" ++
    ", ".intercalate (names.map fun name => render [.name name]) ++ ") VALUES " ++
    ", ".intercalate (List.replicate rows.length
      ("(" ++ ", ".intercalate (List.replicate names.length "?") ++ ")"))
  length : s.params.length = rows.length * names.length
  /-- The values in chunks of one per name are what the rows bind. -/
  chunks : ∀ (i : Nat) (row : Row), rows[i]? = some row →
    List.Forall₂ row.Binds names ((s.params.drop (i * names.length)).take names.length)
  /-- The names are read from the text. -/
  reading : Filling.read s.sql = some ⟨dottedParts table, names⟩

/-- What the builder makes of rows fills the named columns. -/
lemma fills_of_insert {fields : List String} (h : insert table fields rows = .ok s) :
    Fills table fields rows s :=
  ⟨sql_of_insert h, length_params_of_insert h, fun _ _ hrow => binds_of_insert h hrow,
    Filling.read_insert h⟩

/-- The columns of a declared table are its fields, whatever the rows. -/
lemma insertFields_declared (h : decl.fields ≠ []) (rows : List Row) :
    insertFields (some decl) rows = decl.fieldNames := by
  obtain ⟨name, fields⟩ := decl
  cases fields with
  | nil => exact absurd rfl h
  | cons f rest => rfl

/-- An insertion does not depend on what rows have under other names. -/
lemma insert_of_agreesOn {fields : List String} {rows' : List Row}
    (h : List.Forall₂ (Row.AgreesOn fields) rows rows') :
    insert table fields rows' = insert table fields rows := by
  have hcells : (rows'.flatMap fun row => fields.map (cellFor row))
      = rows.flatMap fun row => fields.map (cellFor row) := by
    induction h with
    | nil => rfl
    | @cons row row' rest rest' hrow _ ih =>
      have hmap : fields.map (cellFor row') = fields.map (cellFor row) := by
        refine List.map_congr_left fun name hname => ?_
        rw [cellFor, cellFor, hrow name hname]
      rw [List.flatMap_cons, List.flatMap_cons, hmap, ih]
  have htuples : (rows'.map fun _ => tuple fields.length)
      = rows.map fun _ => tuple fields.length := by
    rw [List.map_const', List.map_const', h.length_eq]
  have hempty : rows'.isEmpty = rows.isEmpty := by
    rw [Bool.eq_iff_iff, List.isEmpty_iff_length_eq_zero, List.isEmpty_iff_length_eq_zero,
      h.length_eq]
  rw [insert, insert, hcells, htuples, hempty]

/-- **An insertion into a declared table fills the columns it was created with.**  Rows of any kind
are inserted into a table that its declaration creates; the columns are those of the lines after the
key column, in their order, and none of them is the key column in any letter case.  Each row binds
one value for each of them, and what it has under other names does not matter. -/
theorem insert_declared {created : Statement} (h : define decl = .ok created)
    (hfields : decl.fields ≠ []) (hrows : rows ≠ []) (table : String) :
    ∃ s lines, insert table (insertFields (some decl) rows) rows = .ok s ∧
      Creates decl lines created ∧ Fills table (lines.map Creation.Line.name) rows s ∧
      lines.map Creation.Line.name = decl.fieldNames ∧ (∀ l ∈ lines, ¬ IsKeyName l.name) ∧
      (∀ rows', List.Forall₂ (Row.AgreesOn decl.fieldNames) rows rows' →
        insert table (insertFields (some decl) rows') rows' = .ok s) ∧
      ((∀ f ∈ decl.fields, f.Stands) → ∃ columns,
        Creation.read created.sql = some ⟨dottedParts decl.name, .key :: columns⟩ ∧
        columns.map Creation.Column.name = lines.map Creation.Line.name) := by
  obtain ⟨lines, hcreates⟩ := creates_of_define h
  have hnames : lines.map Creation.Line.name = decl.fieldNames :=
    map_eq_of_forall₂ hcreates.declared fun _ _ hl => hl.name
  have hne : decl.fieldNames ≠ [] := by simpa [TableDecl.fieldNames] using hfields
  obtain ⟨s, hs⟩ : ∃ s, insert table decl.fieldNames rows = .ok s :=
    ⟨_, insert_eq_ok.mpr ⟨hrows, hne, rfl⟩⟩
  refine ⟨s, lines, ?_, hcreates, ?_, hnames, ?_, ?_, ?_⟩
  · rw [insertFields_declared hfields, hs]
  · rw [hnames]
    exact fills_of_insert hs
  · intro l hl
    obtain ⟨f, hf, hline⟩ := exists_of_mem_right hcreates.declared hl
    rw [hline.name]
    exact not_isKeyName_of_define h f hf
  · intro rows' hagree
    rw [insertFields_declared hfields, insert_of_agreesOn hagree, hs]
  · intro hstands
    obtain ⟨columns, hread, hcolumns⟩ := hcreates.reading hstands
    refine ⟨columns, hread, ?_⟩
    rw [hnames]
    exact map_eq_of_forall₂ hcolumns fun _ _ hc => hc.name

/-- Rows that bring keys in two letter cases, a name that is not declared, and values out of the
declared order. -/
theorem insert_declared_keys :
    ∃ decl rows created s, decl = ⟨"t", [.plain "a, b" .integer, .plain "c" .text]⟩ ∧
      rows = [.ofList [("id", .int 7), ("c", .string "x")],
        .ofList [("ID", .int 8), ("z", .null), ("a, b", .int 1)]] ∧
      define decl = .ok created ∧ insert "t" (insertFields (some decl) rows) rows = .ok s ∧
      s.params = [.null, .text "x", .int 1, .null] ∧
      Filling.read s.sql = some ⟨["t"], ["a, b", "c"]⟩ ∧
      ∃ columns, Creation.read created.sql = some ⟨["t"], .key :: columns⟩ ∧
        columns.map Creation.Column.name = ["a, b", "c"] := by
  obtain ⟨decl, hdecl⟩ : ∃ decl : TableDecl,
      decl = ⟨"t", [.plain "a, b" .integer, .plain "c" .text]⟩ := ⟨_, rfl⟩
  obtain ⟨rows, hrows⟩ : ∃ rows : List Row, rows = [.ofList [("id", .int 7), ("c", .string "x")],
      .ofList [("ID", .int 8), ("z", .null), ("a, b", .int 1)]] := ⟨_, rfl⟩
  have hfree : ∀ f ∈ decl.fields, ¬ IsKeyName f.name := by
    simp [hdecl, FieldDecl.plain, IsKeyName]
  have hstands : ∀ f ∈ decl.fields, f.Stands := by
    intro f hf
    refine FieldDecl.stands_plain ?_
    rw [hdecl] at hf
    simp only [List.mem_cons, List.not_mem_nil, or_false] at hf
    rcases hf with rfl | rfl
    · rfl
    · rfl
  have hnames : decl.fieldNames = ["a, b", "c"] := by
    rw [hdecl]
    rfl
  obtain ⟨created, -, hcreated, -⟩ := define_eq_ok hfree
  obtain ⟨s, lines, hs, -, hfills, hlines, -, -, hreading⟩ :=
    insert_declared hcreated (by simp [hdecl]) (show rows ≠ [] by simp [hrows]) "t"
  obtain ⟨columns, hread, hcolumns⟩ := hreading hstands
  have hfilling := hfills.reading
  have hparams : s.params = [.null, .text "x", .int 1, .null] := by
    rw [insertFields_declared (by simp [hdecl]), hnames, hrows] at hs
    obtain ⟨-, -, rfl⟩ := insert_eq_ok.mp hs
    rfl
  rw [hlines, hnames] at hcolumns hfilling
  refine ⟨decl, rows, created, s, hdecl, hrows, hcreated, hs, hparams, hfilling, columns, ?_,
    hcolumns⟩
  rw [hread, hdecl]
  rfl

end Statement

end TableGateway
