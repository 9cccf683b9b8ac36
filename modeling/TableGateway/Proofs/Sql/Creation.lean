import TableGateway.Proofs.Sql.Selection

/-!
# A CREATE TABLE read back

What a table is created with can be told from the text of its CREATE TABLE, whatever its names are.
The reader cuts the text into the engine's tokens, so that nothing inside a quoted name counts, and
a comma ends a column only where no parenthesis is open: column types have both.

* `Creation` — what a CREATE TABLE says: the parts of the table's name, and the columns with the
  tokens of their clauses.  `Creation.read` is the reader.
* `Creation.Column.field?` — a clause taken apart from its end: uniqueness, nulls, and the type.
* `FieldDecl.Declares` — what stands after the name of a declared field, by its directives.
* `ReadsAs` — a text has its tokens whatever comes after it; with `Creation.Stands` this is all that
  a directive needs for its column to be read back.
* **`Statement.define_reads`** — which declarations are refused, and that the text of any other one
  is read as the key column and the declared fields.
-/

namespace TableGateway

open Sql SqlText

namespace Creation

/-- A column: its name, and the tokens of its clause after that. -/
structure Column where
  name : String
  clause : List Token
  deriving DecidableEq, Repr

/-- A column whose clause is a type and two flags. -/
structure Field where
  name : String
  type : List Token
  required : Bool
  unique : Bool
  deriving DecidableEq, Repr

end Creation

/-- What a CREATE TABLE says. -/
structure Creation where
  /-- The parts of the table's name. -/
  table : List String
  columns : List Creation.Column
  deriving DecidableEq, Repr

namespace Creation

/-! ## The reader -/

/-- The columns, read on inside the clause of one of them.  The clause ends at a comma or a
parenthesis outside of all that were opened in it. -/
def readColumns (name : String) (seen : List Token) : Nat → List Token → Option (List Column)
  | _, [] => none
  | depth, .mark '(' :: ts => readColumns name (seen ++ [.mark '(']) (depth + 1) ts
  | depth + 1, .mark ')' :: ts => readColumns name (seen ++ [.mark ')']) depth ts
  | 0, .mark ')' :: ts => if ts.isEmpty then some [⟨name, seen⟩] else none
  | 0, .mark ',' :: .name next :: ts => (readColumns next [] 0 ts).map (⟨name, seen⟩ :: ·)
  | 0, .mark ',' :: _ => none
  | depth, t :: ts => readColumns name (seen ++ [t]) depth ts

/-- The table and the columns. -/
def readTokens : List Token → Option Creation
  | .word "CREATE" :: .word "TABLE" :: ts =>
    match Selection.readTable ts with
    | some (table, .mark '(' :: .name first :: ts) =>
      (readColumns first [] 0 ts).map fun columns => ⟨table, columns⟩
    | _ => none
  | _ => none

/-- What a text says as a CREATE TABLE. -/
def read (sql : String) : Option Creation :=
  (lex sql).bind readTokens

/-- The type before NULL or NOT NULL, and whether nulls are excluded, from the last token on. -/
def nulls? : List Token → Option (List Token × Bool)
  | .word "NULL" :: .word "NOT" :: ts => some (ts.reverse, true)
  | .word "NULL" :: ts => some (ts.reverse, false)
  | _ => none

/-- A column taken apart from the end of its clause. -/
def Column.field? (c : Column) : Option Field :=
  match c.clause.reverse with
  | .word "UNIQUE" :: ts => (nulls? ts).map fun r => ⟨c.name, r.1, r.2, true⟩
  | ts => (nulls? ts).map fun r => ⟨c.name, r.1, r.2, false⟩

/-- A field that is read from a column has the column's name. -/
lemma Column.name_of_field? {c : Column} {field : Field} (h : c.field? = some field) :
    field.name = c.name := by
  rw [Column.field?] at h
  split at h
  · obtain ⟨r, -, rfl⟩ := Option.map_eq_some_iff.mp h
    rfl
  · obtain ⟨r, -, rfl⟩ := Option.map_eq_some_iff.mp h
    rfl

/-! ## Clauses are read to their ends -/

/-- How many parentheses are open after tokens of a clause, unless the clause ends among them. -/
def openAfter : Nat → List Token → Option Nat
  | depth, [] => some depth
  | depth, .mark '(' :: ts => openAfter (depth + 1) ts
  | depth + 1, .mark ')' :: ts => openAfter depth ts
  | 0, .mark ')' :: _ => none
  | 0, .mark ',' :: _ => none
  | depth, _ :: ts => openAfter depth ts

/-- Parentheses are counted from left to right. -/
lemma openAfter_append (depth : Nat) (ts us : List Token) :
    openAfter depth (ts ++ us) = (openAfter depth ts).bind fun d => openAfter d us := by
  fun_induction openAfter depth ts with
  | case1 => simp
  | case2 depth ts ih => simpa [openAfter] using ih
  | case3 depth ts ih => simpa [openAfter] using ih
  | case4 ts => simp [openAfter]
  | case5 ts => simp [openAfter]
  | case6 depth t ts hopen hclose hend hcomma ih =>
    rw [List.cons_append, openAfter]
    · exact ih
    · exact hopen
    · exact hclose
    · exact hend
    · exact hcomma

/-- Tokens that leave the clause open are read into it. -/
lemma readColumns_append {depth d : Nat} {ts : List Token} (h : openAfter depth ts = some d)
    (name : String) (seen rest : List Token) :
    readColumns name seen depth (ts ++ rest) = readColumns name (seen ++ ts) d rest := by
  fun_induction openAfter depth ts generalizing seen with
  | case1 => simp_all
  | case2 depth ts ih => simp [readColumns, ih h]
  | case3 depth ts ih => simp [readColumns, ih h]
  | case4 ts => simp at h
  | case5 ts => simp at h
  | case6 depth t ts hopen hclose hend hcomma ih =>
    rw [List.cons_append, readColumns]
    · simp [ih h]
    · exact hopen
    · exact hclose
    · exact hend
    · intro next rest hdepth ht _
      exact hcomma hdepth ht
    · exact hcomma

/-- Clauses that are whole, with commas between them, are read as the columns. -/
lemma readColumns_columns {first : Column} {rest : List Column}
    (h : ∀ c ∈ first :: rest, openAfter 0 c.clause = some 0) :
    readColumns first.name [] 0 (first.clause ++
        ((rest.flatMap fun c => .mark ',' :: .name c.name :: c.clause) ++ [.mark ')']))
      = some (first :: rest) := by
  induction rest generalizing first with
  | nil =>
    rw [readColumns_append (h first List.mem_cons_self)]
    simp [readColumns]
  | cons next rest ih =>
    obtain ⟨hfirst, hrest⟩ := List.forall_mem_cons.mp h
    rw [readColumns_append hfirst, List.flatMap_cons, List.cons_append, List.cons_append,
      List.cons_append, List.cons_append, readColumns, List.append_assoc, ih hrest]
    simp

end Creation

/-! ## Text that is read by itself

What follows a clause starts with a separator, so all that is asked of the text of a clause is that
none goes on into one.
-/

namespace Sql

/-- A text is read as these tokens, whatever follows from the next separator on. -/
def ReadsAs (cs : List Char) (ts : List Token) : Prop :=
  ∀ rest, (∀ c ∈ rest.head?, isSeparator c = true) →
    lexFrom .gap (cs ++ rest) = (lexFrom .gap rest).map (ts ++ ·)

variable {cs ds : List Char} {ts us : List Token}

/-- What reads as tokens is lexed to them. -/
lemma ReadsAs.lex (h : ReadsAs cs ts) : lex (String.ofList cs) = some ts := by
  have hread := h [] (by simp)
  rw [List.append_nil] at hread
  simp [Sql.lex, hread, lexFrom, Mode.isOpen, Mode.pending]

/-- Texts read as their tokens in turn if they are kept apart. -/
lemma ReadsAs.append (hc : ReadsAs cs ts) (hd : ReadsAs ds us)
    (hsep : ∀ c ∈ ds.head?, isSeparator c = true) : ReadsAs (cs ++ ds) (ts ++ us) := by
  intro rest hrest
  have hnext : ∀ c ∈ (ds ++ rest).head?, isSeparator c = true := by
    cases ds with
    | nil => exact hrest
    | cons d ds => simpa using hsep
  rw [List.append_assoc, hc _ hnext, hd _ hrest]
  simp [Function.comp_def]

/-- A text of spaced pieces reads as the tokens of its pieces. -/
lemma readsAs_flatMap {text : SqlText} (h : text.Spaced) :
    ReadsAs (text.flatMap Piece.chars) text.tokens :=
  fun _ hrest => lexFrom_flatMap h hrest

/-- Plain text reads as its own tokens. -/
lemma readsAs_verbatim {text : String} (h : (Piece.verbatim text).isPlain = true) :
    ReadsAs text.toList (Piece.verbatim text).tokens := by
  have hreads := readsAs_flatMap (spaced_singleton h)
  simpa [Piece.chars] using hreads

/-- A piece that ends with a separator may have anything after it. -/
lemma ReadsAs.cons {p : Piece} (h : ReadsAs cs ts) (hp : p.isPlain = true)
    (hend : p.endsClear = true) : ReadsAs (p.chars ++ cs) (p.tokens ++ ts) := by
  intro rest hrest
  rw [List.append_assoc, Piece.lexFrom_chars hp (.inl hend), h rest hrest]
  simp [Function.comp_def]

/-- A text is read by itself if every separator breaks off what is open at its end. -/
lemma readsAs_run (hopen : (Mode.gap.run cs).1.isOpen = false)
    (h : ∀ c, isSeparator c = true → (Mode.gap.run cs).1.step c = (Mode.gap.run cs).1.breakOff c) :
    ReadsAs cs ((Mode.gap.run cs).2 ++ (Mode.gap.run cs).1.pending) := by
  intro rest hrest
  rw [lexFrom_append]
  cases rest with
  | nil =>
    have hgap : lexFrom .gap [] = some [] := rfl
    rw [hgap, lexFrom, hopen]
    simp
  | cons c rest =>
    rw [lexFrom_of_breakOff (h c (hrest c rfl))]
    simp [Function.comp_def]

/-- Texts that are read by themselves, with commas and line breaks between them. -/
lemma readsAs_join {first : SqlText} {rest : List SqlText} {tss : List (List Token)}
    (hfirst : ReadsAs (first.flatMap Piece.chars) ts)
    (hrest : List.Forall₂ (fun t us => ReadsAs (t.flatMap Piece.chars) us) rest tss) :
    ReadsAs ((join ",\n" (first :: rest)).flatMap Piece.chars)
      (ts ++ tss.flatMap fun us => .mark ',' :: us) := by
  have hcomma : (Piece.verbatim ",\n").tokens = [.mark ','] := by decide
  induction hrest generalizing first ts with
  | nil => simpa [join] using hfirst
  | @cons next us rest tss hnext _ ih =>
    have hlater := (ih hnext).cons (p := .verbatim ",\n") (by decide) (by decide)
    rw [hcomma] at hlater
    rw [join, List.flatMap_append, List.flatMap_cons, List.flatMap_cons]
    · exact hfirst.append hlater (Piece.isSeparator_of_startsClear (by decide) _)
    · simp

end Sql

/-! ## The text of a column -/

namespace Creation

/-- A line of the column list: the name of the column, and the text after it. -/
structure Line where
  name : String
  text : String
  deriving DecidableEq, Repr

/-- The line as it is written. -/
def Line.render (l : Line) : String :=
  "  " ++ SqlText.render [.name l.name] ++ " " ++ l.text

/-- The pieces of the line. -/
def Line.pieces (l : Line) : SqlText :=
  [.verbatim "  ", .name l.name, .verbatim (" " ++ l.text)]

/-- The line that every table begins with. -/
def Line.key : Line :=
  ⟨"id", "INT PRIMARY KEY AUTO_INCREMENT"⟩

/-- What that line is read as. -/
def Column.key : Column :=
  ⟨"id", [.word "INT", .word "PRIMARY", .word "KEY", .word "AUTO_INCREMENT"]⟩

/-- The end of a clause, by what the field asks for. -/
def flags (required unique : Bool) : String :=
  (if required then " NOT NULL" else " NULL") ++ if unique then " UNIQUE" else ""

/-- The tokens of such an end. -/
def flagTokens (required unique : Bool) : List Token :=
  (if required then [.word "NOT", .word "NULL"] else [.word "NULL"]) ++
    if unique then [.word "UNIQUE"] else []

/-- A text that is read by itself, as tokens that leave no parenthesis open and end no clause. -/
structure Stands (text : String) (ts : List Token) : Prop where
  reads : ReadsAs text.toList ts
  whole : openAfter 0 ts = some 0

/-- A line whose text stands by itself as the clause of the column. -/
structure Line.Shows (l : Line) (c : Column) : Prop where
  name : c.name = l.name
  stands : Stands l.text c.clause

end Creation

open Creation

namespace FieldDecl

/-- What stands after the name of a declared field.  An override is all of it; a type directive
takes the place of the column type and of nothing else. -/
inductive Declares (f : FieldDecl) : String → Prop where
  | plain (h : f.directives = .none) :
      Declares f (f.type.columnType ++ flags f.required f.unique)
  | typed {directive : String} (h : f.directives = ⟨none, some directive⟩) :
      Declares f (Text.trim directive ++ flags f.required f.unique)
  | override {directive : String} (h : f.directives.override = some directive) :
      Declares f (Text.trim directive)

/-- A line of the name of a declared field and what stands after it. -/
structure HasLine (f : FieldDecl) (l : Line) : Prop where
  name : l.name = f.name
  declares : f.Declares l.text

/-- What the column of a declared field is read as. -/
inductive ReadAs (f : FieldDecl) : Creation.Column → Prop where
  | plain {type : List Token} {c : Creation.Column} (h : f.directives = .none)
      (htype : lex f.type.columnType = some type)
      (hc : c.field? = some ⟨f.name, type, f.required, f.unique⟩) : ReadAs f c
  | typed {directive : String} {type : List Token} {c : Creation.Column}
      (h : f.directives = ⟨none, some directive⟩) (htype : lex (Text.trim directive) = some type)
      (hc : c.field? = some ⟨f.name, type, f.required, f.unique⟩) : ReadAs f c
  | override {directive : String} {clause : List Token}
      (h : f.directives.override = some directive)
      (hclause : lex (Text.trim directive) = some clause) : ReadAs f ⟨f.name, clause⟩

/-- The directive that counts, if there is any, stands by itself.  A type that ends with NOT would
lend it to the NULL after it. -/
structure Stands (f : FieldDecl) : Prop where
  typed : ∀ directive, f.directives = ⟨none, some directive⟩ →
    ∃ ts, Creation.Stands (Text.trim directive) ts ∧ ts.getLast? ≠ some (.word "NOT")
  override : ∀ directive, f.directives.override = some directive →
    ∃ ts, Creation.Stands (Text.trim directive) ts

/-- Without directives a column's text stands by itself. -/
lemma stands_plain {f : FieldDecl} (h : f.directives = .none) : f.Stands := by
  refine ⟨fun directive hd => ?_, fun directive hd => ?_⟩
  · simp [h, ColumnDirectives.none] at hd
  · simp [h, ColumnDirectives.none] at hd

/-- A column is read with the name of its field. -/
lemma ReadAs.name {f : FieldDecl} {c : Creation.Column} (h : f.ReadAs c) : c.name = f.name := by
  cases h with
  | plain _ _ hc => exact (Creation.Column.name_of_field? hc).symm
  | typed _ _ hc => exact (Creation.Column.name_of_field? hc).symm
  | override => rfl

/-- A field without directives is read back with its type and its flags. -/
lemma ReadAs.of_plain {f : FieldDecl} {c : Creation.Column} (h : f.ReadAs c)
    (hf : f.directives = .none) : ∃ type, lex f.type.columnType = some type ∧
      c.field? = some ⟨f.name, type, f.required, f.unique⟩ := by
  cases h with
  | plain _ htype hc => exact ⟨_, htype, hc⟩
  | typed h => simp [hf, ColumnDirectives.none] at h
  | override h => simp [hf, ColumnDirectives.none] at h

/-- The column clause of a field is its name and what it declares. -/
lemma exists_line (f : FieldDecl) :
    ∃ l : Line, f.HasLine l ∧ .verbatim "  " :: Statement.columnClause f = l.pieces := by
  obtain ⟨name, type, ⟨override, columnType⟩, required, unique⟩ := f
  cases override with
  | some directive => exact ⟨⟨name, Text.trim directive⟩, ⟨rfl, .override rfl⟩, rfl⟩
  | none => cases columnType with
    | some directive =>
      refine ⟨⟨name, Text.trim directive ++ flags required unique⟩, ⟨rfl, .typed rfl⟩, ?_⟩
      simp [Statement.columnClause, Line.pieces, flags, String.append_assoc]
    | none =>
      refine ⟨⟨name, type.columnType ++ flags required unique⟩, ⟨rfl, .plain rfl⟩, ?_⟩
      simp [Statement.columnClause, Line.pieces, flags, String.append_assoc]

end FieldDecl

/-! ## Clauses that stand by themselves -/

namespace Creation

/-- A text that stands by itself has its tokens. -/
lemma Stands.lex {text : String} {ts : List Token} (h : Stands text ts) :
    lex text = some ts := by
  have hlex := h.reads.lex
  rwa [String.ofList_toList] at hlex

/-- The flags of a field stand by themselves, and are kept apart from what is before them. -/
lemma stands_flags (required unique : Bool) :
    Stands (flags required unique) (flagTokens required unique) ∧
      ∀ c ∈ (flags required unique).toList.head?, isSeparator c = true := by
  have hplain : (Piece.verbatim (flags required unique)).isPlain = true := by
    cases required <;> cases unique <;> decide
  have htokens : (Piece.verbatim (flags required unique)).tokens = flagTokens required unique := by
    cases required <;> cases unique <;> decide
  have hstart : (Piece.verbatim (flags required unique)).startsClear = true := by
    cases required <;> cases unique <;> decide
  refine ⟨⟨?_, ?_⟩, ?_⟩
  · rw [← htokens]
    exact readsAs_verbatim hplain
  · cases required <;> cases unique <;> decide
  · simpa [Piece.chars] using Piece.isSeparator_of_startsClear hstart []

/-- A type that stands by itself does so with flags after it. -/
lemma Stands.append_flags {type : String} {ts : List Token} (h : Stands type ts)
    (required unique : Bool) :
    Stands (type ++ flags required unique) (ts ++ flagTokens required unique) := by
  obtain ⟨hflags, hsep⟩ := stands_flags required unique
  refine ⟨?_, ?_⟩
  · rw [String.toList_append]
    exact h.reads.append hflags.reads hsep
  · rw [openAfter_append, h.whole, Option.bind_some, hflags.whole]

/-- A clause may be null if it ends so and the word before is no negation. -/
lemma nulls?_null {ts : List Token} (h : ts.head? ≠ some (.word "NOT")) :
    nulls? (.word "NULL" :: ts) = some (ts.reverse, false) := by
  rw [nulls?]
  intro us hts
  simp [hts] at h

/-- Flags are found at the end of a clause. -/
lemma field?_append_flags (name : String) {type : List Token}
    (h : type.getLast? ≠ some (.word "NOT")) (required unique : Bool) :
    Column.field? ⟨name, type ++ flagTokens required unique⟩
      = some ⟨name, type, required, unique⟩ := by
  rw [← List.head?_reverse] at h
  cases required with
  | true => cases unique with
    | true => simp [Column.field?, flagTokens, nulls?]
    | false => simp [Column.field?, flagTokens, nulls?]
  | false => cases unique with
    | true => simp [Column.field?, flagTokens, nulls?_null h]
    | false => simp [Column.field?, flagTokens, nulls?_null h]

/-- The column types that there are. -/
lemma columnType_mem (t : FieldType) :
    t.columnType ∈ ["VARCHAR(255)", "TEXT", "INT", "DOUBLE", "TINYINT(1)", "DATETIME", "DATE",
      "DECIMAL(65,30)"] := by
  cases t <;> simp [FieldType.columnType, FieldType.defaultColumnType]

/-- The column types stand by themselves. -/
lemma stands_columnType (t : FieldType) :
    ∃ ts, Stands t.columnType ts ∧ ts.getLast? ≠ some (.word "NOT") := by
  have all : ["VARCHAR(255)", "TEXT", "INT", "DOUBLE", "TINYINT(1)", "DATETIME", "DATE",
      "DECIMAL(65,30)"].all (fun type => (Piece.verbatim type).isPlain &&
        openAfter 0 (Piece.verbatim type).tokens == some 0 &&
        (Piece.verbatim type).tokens.getLast? != some (.word "NOT")) = true := by
    decide
  have hfacts := List.all_eq_true.mp all _ (columnType_mem t)
  simp only [Bool.and_eq_true, beq_iff_eq, bne_iff_ne] at hfacts
  obtain ⟨⟨hplain, hwhole⟩, hlast⟩ := hfacts
  exact ⟨_, ⟨readsAs_verbatim hplain, hwhole⟩, hlast⟩

/-- What a field declares stands by itself if its directive does, and is read as its column. -/
lemma exists_column {f : FieldDecl} {text : String} (h : f.Declares text) (hf : f.Stands) :
    ∃ clause, Stands text clause ∧ f.ReadAs ⟨f.name, clause⟩ := by
  cases h with
  | plain h =>
    obtain ⟨ts, hstands, hlast⟩ := stands_columnType f.type
    exact ⟨_, hstands.append_flags _ _, .plain h hstands.lex (field?_append_flags _ hlast _ _)⟩
  | typed h =>
    obtain ⟨ts, hstands, hlast⟩ := hf.typed _ h
    exact ⟨_, hstands.append_flags _ _, .typed h hstands.lex (field?_append_flags _ hlast _ _)⟩
  | override h =>
    obtain ⟨ts, hstands⟩ := hf.override _ h
    exact ⟨ts, hstands, .override h hstands.lex⟩

/-! ## The whole text -/

/-- The pieces of a CREATE TABLE. -/
def pieces (table : String) (lines : List Line) : SqlText :=
  .verbatim "CREATE TABLE " :: qualified table ++ .verbatim " (\n" ::
    join ",\n" (lines.map Line.pieces) ++ [.verbatim "\n)"]

/-- A line of the table reads as its column. -/
lemma readsAs_line {l : Line} {c : Column} (h : l.Shows c) :
    ReadsAs (l.pieces.flatMap Piece.chars) (.name c.name :: c.clause) := by
  have hname := readsAs_flatMap (spaced_singleton (p := .name l.name) rfl)
  have htext := h.stands.reads.cons (p := .verbatim " ") (by decide) (by decide)
  have hblank : (Piece.verbatim " ").tokens = [] := by decide
  have hindent : (Piece.verbatim "  ").tokens = [] := by decide
  have hline := (hname.append htext (Piece.isSeparator_of_startsClear (by decide) _)).cons
    (p := .verbatim "  ") (by decide) (by decide)
  simpa [Line.pieces, hblank, hindent, Piece.chars, h.name] using hline

/-- The text is read as its lines if they stand by themselves. -/
lemma read_pieces (table : String) {first : Line} {rest : List Line} {c : Column}
    {columns : List Column} (hfirst : first.Shows c)
    (hrest : List.Forall₂ Line.Shows rest columns) :
    read (pieces table (first :: rest)).render = some ⟨dottedParts table, c :: columns⟩ := by
  have hcreate : (Piece.verbatim "CREATE TABLE ").tokens = [.word "CREATE", .word "TABLE"] := by
    decide
  have hopen : (Piece.verbatim " (\n").tokens = [.mark '('] := by decide
  have hclose : (Piece.verbatim "\n)").tokens = [.mark ')'] := by decide
  have hlines : List.Forall₂ (fun t us => ReadsAs (t.flatMap Piece.chars) us)
      (rest.map Line.pieces) (columns.map fun c => .name c.name :: c.clause) := by
    rw [List.forall₂_map_left_iff, List.forall₂_map_right_iff]
    exact hrest.imp fun l c h => readsAs_line h
  have hend := readsAs_flatMap (spaced_singleton (p := .verbatim "\n)") (by decide))
  have hbody := ((readsAs_join (readsAs_line hfirst) hlines).append hend
    (Piece.isSeparator_of_startsClear (by decide) _)).cons
    (p := .verbatim " (\n") (by decide) (by decide)
  have htext := ((readsAs_flatMap (spaced_qualified table)).append hbody
    (Piece.isSeparator_of_startsClear (by decide) _)).cons
    (p := .verbatim "CREATE TABLE ") (by decide) (by decide)
  have hwhole : ∀ d ∈ c :: columns, openAfter 0 d.clause = some 0 := by
    intro d hd
    rcases List.mem_cons.mp hd with rfl | hd
    · exact hfirst.stands.whole
    · obtain ⟨l, -, hl⟩ := exists_of_mem_right hrest hd
      exact hl.stands.whole
  have hlex : lex (pieces table (first :: rest)).render = some (.word "CREATE" :: .word "TABLE" ::
      (tokens (qualified table) ++ .mark '(' :: .name c.name :: (c.clause ++
        ((columns.flatMap fun c => .mark ',' :: .name c.name :: c.clause) ++ [.mark ')'])))) := by
    have hlex := htext.lex
    rw [hcreate, hopen] at hlex
    simpa [render, pieces, hclose, List.flatMap_map] using hlex
  rw [read, hlex, Option.bind_some, readTokens, Selection.readTable_qualified table (by simp)]
  simp [readColumns_columns hwhole]

end Creation

/-! ## Declarations -/

namespace Statement

/-- The key column's name, in one of its letter cases. -/
def IsKeyName (name : String) : Prop :=
  name ∈ ["id", "iD", "Id", "ID"]

/-- The letters of the key's name in either case. -/
lemma toLower_eq_iff (c : Char) :
    (c.toLower = 'i' ↔ c = 'i' ∨ c = 'I') ∧ (c.toLower = 'd' ↔ c = 'd' ∨ c = 'D') := by
  unfold Char.toLower
  split
  · rename_i h
    simp only [Char.ext_iff, ← UInt32.toNat_inj, UInt32.le_iff_toNat_le, UInt32.toNat_add,
      ge_iff_le] at h ⊢
    simp at h ⊢
    omega
  · rename_i h
    simp only [Char.ext_iff, ← UInt32.toNat_inj, UInt32.le_iff_toNat_le, ge_iff_le] at h ⊢
    simp at h ⊢
    omega

/-- The name of the key is reserved in any case. -/
lemma isReserved_iff (name : String) : isReserved name = true ↔ IsKeyName name := by
  have hlowered : isReserved name = true ↔ name.toList.map Char.toLower = ['i', 'd'] := by
    rw [isReserved, beq_iff_eq, FieldType.lowered, keyColumn, ← String.toList_inj,
      String.toList_ofList]
    rfl
  have hnames : IsKeyName name ↔
      name.toList ∈ [['i', 'd'], ['i', 'D'], ['I', 'd'], ['I', 'D']] := by
    simp [IsKeyName, ← String.toList_inj]
  rw [hlowered, hnames]
  constructor
  · intro h
    obtain ⟨c, cs, hcs, hc, h⟩ := List.map_eq_cons_iff.mp h
    obtain ⟨d, ds, rfl, hd, hds⟩ := List.map_eq_cons_iff.mp h
    obtain rfl := List.map_eq_nil_iff.mp hds
    rw [hcs]
    rcases (toLower_eq_iff c).1.mp hc with rfl | rfl
    · rcases (toLower_eq_iff d).2.mp hd with rfl | rfl
      · simp
      · simp
    · rcases (toLower_eq_iff d).2.mp hd with rfl | rfl
      · simp
      · simp
  · intro h
    simp only [List.mem_cons, List.not_mem_nil, or_false] at h
    rcases h with h | h | h | h <;> rw [h] <;> decide

variable {decl : TableDecl} {s : Statement}

/-- The first field that takes the key column's name is reported. -/
lemma define_eq_error {before after : List FieldDecl} {field : FieldDecl}
    (hfields : decl.fields = before ++ field :: after)
    (hbefore : ∀ f ∈ before, ¬ IsKeyName f.name) (hfield : IsKeyName field.name) :
    define decl = .error (.reservedColumn decl.name field.name) := by
  have hfind : decl.fields.find? (fun f => isReserved f.name) = some field := by
    rw [List.find?_eq_some_iff_append]
    refine ⟨(isReserved_iff _).mpr hfield, before, after, hfields, fun f hf => ?_⟩
    rw [Bool.not_eq_true', Bool.eq_false_iff, ne_eq, isReserved_iff]
    exact hbefore f hf
  rw [define, hfind]

/-- Each field has its line. -/
lemma exists_lines (fields : List FieldDecl) :
    ∃ lines : List Line, List.Forall₂ FieldDecl.HasLine fields lines ∧
      fields.map (fun f => .verbatim "  " :: columnClause f) = lines.map Line.pieces := by
  induction fields with
  | nil => exact ⟨[], .nil, rfl⟩
  | cons f rest ih =>
    obtain ⟨l, hl, hpieces⟩ := f.exists_line
    obtain ⟨lines, hlines, hrest⟩ := ih
    refine ⟨l :: lines, .cons hl hlines, ?_⟩
    rw [List.map_cons, List.map_cons, hpieces, hrest]

/-- What a declaration creates: the key column, and then the declared fields in their order. -/
structure Creates (decl : TableDecl) (lines : List Line) (s : Statement) : Prop where
  text : s.sql = "CREATE TABLE " ++ render (qualified decl.name) ++ " (\n" ++
    ",\n".intercalate ((Line.key :: lines).map Line.render) ++ "\n)"
  params : s.params = []
  declared : List.Forall₂ FieldDecl.HasLine decl.fields lines
  /-- Where the directives stand by themselves, the text is read as the declared columns. -/
  reading : (∀ f ∈ decl.fields, f.Stands) → ∃ columns,
    read s.sql = some ⟨dottedParts decl.name, .key :: columns⟩ ∧
      List.Forall₂ FieldDecl.ReadAs decl.fields columns

/-- The text of a table, line by line. -/
lemma render_pieces (table : String) (lines : List Line) :
    (pieces table lines).render = "CREATE TABLE " ++ render (qualified table) ++ " (\n" ++
      ",\n".intercalate (lines.map Line.render) ++ "\n)" := by
  have hline : render ∘ Line.pieces = Line.render := by
    funext l
    have hend : render [.verbatim (" " ++ l.text)] = " " ++ l.text := by simp [render, Piece.chars]
    have hname : render [.name l.name] = String.ofList (Piece.quote l.name) := by
      simp [render, Piece.chars]
    rw [Function.comp_apply, Line.pieces, render_verbatim, render_cons, hend, Line.render, hname,
      Piece.chars, String.append_assoc, String.append_assoc]
  have hend : render [.verbatim "\n)"] = "\n)" := rfl
  simp only [pieces, render_append, List.cons_append, render_verbatim, render_join, List.map_map,
    hline, hend, String.append_assoc]

/-- A statement of the fields' lines creates the table they are of. -/
lemma creates_pieces {lines : List Line}
    (h : List.Forall₂ FieldDecl.HasLine decl.fields lines) :
    Creates decl lines ⟨pieces decl.name (.key :: lines), []⟩ := by
  refine ⟨render_pieces _ _, rfl, h, fun hstands => ?_⟩
  obtain ⟨columns, hcolumns, hread⟩ : ∃ columns : List Creation.Column,
      List.Forall₂ Line.Shows lines columns ∧
      List.Forall₂ FieldDecl.ReadAs decl.fields columns := by
    generalize decl.fields = fields at h hstands
    induction h with
    | nil => exact ⟨[], .nil, .nil⟩
    | @cons f l fields lines hl _ ih =>
      obtain ⟨hf, hrest⟩ := List.forall_mem_cons.mp hstands
      obtain ⟨clause, hclause, hread⟩ := exists_column hl.declares hf
      obtain ⟨columns, hcolumns, hreads⟩ := ih hrest
      have hshows : l.Shows ⟨f.name, clause⟩ := ⟨hl.name.symm, hclause⟩
      exact ⟨_ :: columns, .cons hshows hcolumns, .cons hread hreads⟩
  have hkey : Line.key.Shows .key := by
    have hplain : (Piece.verbatim Line.key.text).isPlain = true := by decide
    have htokens : (Piece.verbatim Line.key.text).tokens = Creation.Column.key.clause := by decide
    refine ⟨rfl, ?_, by decide⟩
    rw [← htokens]
    exact readsAs_verbatim hplain
  exact ⟨columns, read_pieces decl.name hkey hcolumns, hread⟩

/-- No field of a defined table has the key's name. -/
lemma not_isKeyName_of_define (h : define decl = .ok s) :
    ∀ f ∈ decl.fields, ¬ IsKeyName f.name := by
  rw [define] at h
  split at h
  · simp at h
  · rename_i hfind
    intro f hf hname
    exact List.find?_eq_none.mp hfind f hf ((isReserved_iff _).mpr hname)

/-- A declaration without the key column's name creates its table. -/
lemma define_eq_ok (h : ∀ f ∈ decl.fields, ¬ IsKeyName f.name) :
    ∃ s lines, define decl = .ok s ∧ Creates decl lines s := by
  have hfind : decl.fields.find? (fun f => isReserved f.name) = none := by
    rw [List.find?_eq_none]
    intro f hf
    rw [isReserved_iff]
    exact h f hf
  obtain ⟨lines, hlines, hpieces⟩ := exists_lines decl.fields
  have hkey : (.verbatim "  " :: [.name keyColumn, .verbatim (" " ++ keyClause)])
      = Line.key.pieces := rfl
  refine ⟨_, lines, ?_, creates_pieces hlines⟩
  rw [define, hfind]
  simp only [List.map_cons, List.map_map, Function.comp_def, hpieces, hkey, pieces]

/-- What the builder makes of a declaration creates its table. -/
lemma creates_of_define (h : define decl = .ok s) : ∃ lines, Creates decl lines s := by
  obtain ⟨s', lines, hs', hcreates⟩ := define_eq_ok (not_isKeyName_of_define h)
  obtain rfl : s' = s := by simpa [hs'] using h
  exact ⟨lines, hcreates⟩

/-- **A CREATE TABLE reads back.**  A declaration is refused exactly if a field takes the name of
the key column, and then for the first that does.  Any other one gives a text of one line for the
key column and one for each field.  Whatever the names are, the text of a declaration without
directives is read as the table and its columns, with the type, the nulls and the uniqueness of each
field. -/
theorem define_reads (decl : TableDecl) :
    ((∃ s, define decl = .ok s) ↔ ∀ f ∈ decl.fields, ¬ IsKeyName f.name) ∧
    (∀ before field after, decl.fields = before ++ field :: after →
      (∀ f ∈ before, ¬ IsKeyName f.name) → IsKeyName field.name →
        define decl = .error (.reservedColumn decl.name field.name)) ∧
    ∀ s, define decl = .ok s → (∃ lines, Creates decl lines s) ∧
      ((∀ f ∈ decl.fields, f.directives = .none) → ∃ columns,
        read s.sql = some ⟨dottedParts decl.name, .key :: columns⟩ ∧
        List.Forall₂ (fun f c => ∃ type, lex f.type.columnType = some type ∧
          c.field? = some ⟨f.name, type, f.required, f.unique⟩) decl.fields columns) := by
  refine ⟨⟨?_, ?_⟩, ?_, ?_⟩
  · rintro ⟨s, hs⟩
    exact not_isKeyName_of_define hs
  · intro h
    obtain ⟨s, lines, hs, -⟩ := define_eq_ok h
    exact ⟨s, hs⟩
  · intro before field after hfields hbefore hfield
    exact define_eq_error hfields hbefore hfield
  · intro s hs
    obtain ⟨lines, hcreates⟩ := creates_of_define hs
    refine ⟨⟨lines, hcreates⟩, fun hplain => ?_⟩
    obtain ⟨columns, hread, hcolumns⟩ :=
      hcreates.reading fun f hf => FieldDecl.stands_plain (hplain f hf)
    refine ⟨columns, hread, ((List.forall₂_and_left _ _).mpr ⟨hplain, hcolumns⟩).imp ?_⟩
    intro f c hfc
    exact hfc.2.of_plain hfc.1

/-- A name that spells out the end of its column, a type with a comma in it, and a directive that
has both between quotes. -/
theorem define_reads_names :
    ∃ s c, define ⟨"db.a`b", [⟨"x` INT,\n  `y)", .big, .none, true, true⟩,
        ⟨"id ", .date, ⟨some " SET(',', ')') ", none⟩, true, false⟩]⟩ = .ok s ∧
      read s.sql = some ⟨["db", "a`b"], [.key, c, ⟨"id ", [.word "SET", .mark '(',
        .string ",", .mark ',', .string ")", .mark ')']⟩]⟩ ∧
      c.field? = some ⟨"x` INT,\n  `y)", [.word "DECIMAL", .mark '(', .word "65", .mark ',',
        .word "30", .mark ')'], true, true⟩ := by
  obtain ⟨hok, -, hreads⟩ := define_reads ⟨"db.a`b", [⟨"x` INT,\n  `y)", .big, .none, true, true⟩,
    ⟨"id ", .date, ⟨some " SET(',', ')') ", none⟩, true, false⟩]⟩
  obtain ⟨s, hs⟩ := hok.mpr (by simp [IsKeyName])
  obtain ⟨⟨lines, hcreates⟩, -⟩ := hreads s hs
  have htrim : Text.trim " SET(',', ')') " = "SET(',', ')')" := by decide
  have hstands : Stands "SET(',', ')')" [.word "SET", .mark '(', .string ",", .mark ',',
      .string ")", .mark ')'] := by
    have hrun : Mode.gap.run "SET(',', ')')".toList = (.gap, [.word "SET", .mark '(',
        .string ",", .mark ',', .string ")", .mark ')']) := by decide
    have hopen : (Mode.gap.run "SET(',', ')')".toList).1.isOpen = false := by
      rw [hrun]
      rfl
    have hread := readsAs_run hopen fun c _ => by
      rw [hrun]
      rfl
    rw [hrun] at hread
    exact ⟨hread, by decide⟩
  obtain ⟨columns, hread, hcolumns⟩ := hcreates.reading (by
    intro f hf
    simp only [List.mem_cons, List.not_mem_nil, or_false] at hf
    rcases hf with rfl | rfl
    · exact FieldDecl.stands_plain rfl
    · refine ⟨nofun, fun directive hd => ?_⟩
      obtain rfl := Option.some.inj hd
      rw [htrim]
      exact ⟨_, hstands⟩)
  obtain ⟨c, columns, hc, hrest, rfl⟩ := List.forall₂_cons_left_iff.mp hcolumns
  obtain ⟨d, columns, hd, hnil, rfl⟩ := List.forall₂_cons_left_iff.mp hrest
  obtain rfl := List.forall₂_nil_left_iff.mp hnil
  refine ⟨s, c, hs, ?_, ?_⟩
  · cases hd with
    | plain h => simp [ColumnDirectives.none] at h
    | typed h => simp at h
    | override h hclause =>
      obtain rfl := Option.some.inj h
      rw [htrim, hstands.lex] at hclause
      obtain rfl := Option.some.inj hclause
      exact hread
  · obtain ⟨type, htype, hfield⟩ := hc.of_plain rfl
    have hbig : lex FieldType.big.columnType = some [.word "DECIMAL", .mark '(', .word "65",
        .mark ',', .word "30", .mark ')'] := by decide
    obtain rfl : type = _ := Option.some.inj (htype.symm.trans hbig)
    exact hfield

end Statement

end TableGateway
