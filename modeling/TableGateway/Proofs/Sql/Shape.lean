import TableGateway.Proofs.Sql.RowOperation

/-!
# The shape of a statement

Names and values of a caller's do not reach the structure of a statement.  Two operations are of
the same shape if they differ in nothing but names and values (`RowOperation.SameShape`); then the
engine's lexer finds the same tokens in the two statements, up to what the names are.

* `Token.blank`, `Piece.blank`, `Criterion.blank` — the same with names and values taken away.
* `SqlText.eq_of_blank` — text in pieces is determined by what is left without its names, and by
  its names.
* `RowOperation.names` — the names of an operation in the order in which its statement has them.
* `blank_build`, `names_build` — what a statement is without its names, and what these are.
* **`lex_sameShape`** — both together, about the text that the engine gets.
-/

namespace TableGateway

open Sql

/-! ## Names taken away -/

/-- A token without what its name is. -/
def Sql.Token.blank : Token → Token
  | .name _ => .name ""
  | t => t

/-- The name that a token is. -/
def Sql.Token.name? : Token → Option String
  | .name payload => some payload
  | _ => none

/-- A piece without what its name is. -/
def Piece.blank : Piece → Piece
  | .name _ => .name ""
  | p => p

/-- The name that a piece is. -/
def Piece.name? : Piece → Option String
  | .name text => some text
  | _ => none

/-- A fixed token has no name to take out. -/
lemma Sql.Token.blank_of_isFixed {t : Token} (h : t.isFixed = true) : t.blank = t := by
  cases t with
  | name payload => simp [isFixed] at h
  | _ => rfl

lemma Sql.Token.name?_of_isFixed {t : Token} (h : t.isFixed = true) : t.name? = none := by
  cases t with
  | name payload => simp [isFixed] at h
  | _ => rfl

namespace Piece

variable {p q : Piece}

/-- Pieces that differ in names only have a name in the same places. -/
lemma name?_of_blank (h : p.blank = q.blank) :
    p.name?.toList.map (fun _ => ()) = q.name?.toList.map (fun _ => ()) := by
  have hkept (r : Piece) :
      r.name?.toList.map (fun _ => ()) = r.blank.name?.toList.map (fun _ => ()) := by
    cases r <;> rfl
  rw [hkept p, hkept q, h]

/-- A piece is determined by what is left without its name, and by its name. -/
theorem eq_of_blank (hblank : p.blank = q.blank) (hname : p.name?.toList = q.name?.toList) :
    p = q := by
  cases p <;> cases q <;> simp_all [blank, name?]

/-- Taking names away before reading a piece or after it is the same. -/
lemma tokens_blank (hp : p.isPlain = true) : p.tokens.map Token.blank = p.blank.tokens := by
  cases p with
  | verbatim text =>
    refine (List.map_congr_left fun t ht => ?_).trans (List.map_id _)
    exact Token.blank_of_isFixed (isFixed_of_verbatim hp t ht)
  | name text => rfl
  | placeholder => rfl

/-- A piece is read as a name if it is one. -/
lemma name?_tokens (hp : p.isPlain = true) : p.tokens.filterMap Token.name? = p.name?.toList := by
  cases p with
  | verbatim text =>
    exact List.filterMap_eq_nil_iff.mpr fun t ht =>
      Token.name?_of_isFixed (isFixed_of_verbatim hp t ht)
  | name text => rfl
  | placeholder => rfl

end Piece

namespace SqlText

variable {a b text : SqlText}

/-- Text without what its names are. -/
def blank (text : SqlText) : SqlText :=
  text.map Piece.blank

/-- The names of a text, from left to right. -/
def names (text : SqlText) : List String :=
  text.filterMap Piece.name?

@[simp] lemma blank_nil : blank [] = [] := rfl

@[simp] lemma blank_cons (p : Piece) (text : SqlText) :
    blank (p :: text) = p.blank :: blank text := rfl

@[simp] lemma blank_append (a b : SqlText) : blank (a ++ b) = blank a ++ blank b :=
  List.map_append

@[simp] lemma names_nil : names [] = [] := rfl

@[simp] lemma names_append (a b : SqlText) : names (a ++ b) = names a ++ names b :=
  List.filterMap_append

/-- The names of a text are found from left to right. -/
lemma names_cons (p : Piece) (text : SqlText) :
    names (p :: text) = p.name?.toList ++ names text := by
  cases p <;> rfl

@[simp] lemma names_verbatim (s : String) (text : SqlText) :
    names (.verbatim s :: text) = names text := rfl

@[simp] lemma names_placeholder (text : SqlText) : names (.placeholder :: text) = names text :=
  rfl

@[simp] lemma names_name (s : String) (text : SqlText) :
    names (.name s :: text) = s :: names text := rfl

/-- Names are taken out of joined texts one by one. -/
lemma blank_join (separator : String) (texts : List SqlText) :
    blank (join separator texts) = join separator (texts.map blank) := by
  induction texts with
  | nil => rfl
  | cons t rest ih =>
    cases rest with
    | nil => rfl
    | cons u rest => simp [join, ih, Piece.blank]

lemma names_join (separator : String) (texts : List SqlText) :
    names (join separator texts) = texts.flatMap names := by
  induction texts with
  | nil => rfl
  | cons t rest ih =>
    cases rest with
    | nil => simp [join]
    | cons u rest => simp [join, ih]

/-- Text in pieces is determined by what is left without its names, and by its names. -/
theorem eq_of_blank {a b : SqlText} (hblank : blank a = blank b) (hnames : names a = names b) :
    a = b := by
  induction a generalizing b with
  | nil => exact (List.map_eq_nil_iff.mp hblank.symm).symm
  | cons p a ih =>
    cases b with
    | nil => simp at hblank
    | cons q b =>
      obtain ⟨hpiece, hrest⟩ : p.blank = q.blank ∧ blank a = blank b := by simpa using hblank
      -- Both first pieces are names or neither is, so the names come apart at the same place.
      rw [names_cons, names_cons] at hnames
      have hlength := congrArg List.length (Piece.name?_of_blank hpiece)
      rw [List.length_map, List.length_map] at hlength
      obtain ⟨hname, hothers⟩ := List.append_inj hnames hlength
      rw [Piece.eq_of_blank hpiece hname, ih hrest hothers]

/-! ## Reading without names -/

/-- Taking names away before the lexer reads a text or after it is the same. -/
lemma tokens_blank (h : text.Spaced) : (tokens text).map Token.blank = tokens (blank text) := by
  rw [tokens, tokens, blank, List.map_flatMap, List.flatMap_map]
  exact List.flatMap_congr fun p hp => Piece.tokens_blank (h.plain p hp)

/-- The names that the lexer reads from a text are its names, in their order. -/
lemma name?_tokens (h : text.Spaced) : (tokens text).filterMap Token.name? = names text := by
  rw [tokens, names, List.filterMap_flatMap, List.filterMap_eq_flatMap_toList]
  exact List.flatMap_congr fun p hp => Piece.name?_tokens (h.plain p hp)

end SqlText

/-! ## Criteria without names and values -/

namespace Criterion

mutual

/-- A criterion without its names and values: its groups and its operators. -/
def blank : Criterion → Criterion
  | .comparison c => .comparison ⟨"", c.operator, .null⟩
  | .group kind members => .group kind (blankAll members)

/-- Criteria without their names and values. -/
def blankAll : List Criterion → List Criterion
  | [] => []
  | c :: rest => blank c :: blankAll rest

end

/-- The fields that criteria name, from left to right. -/
def fieldsOf (criteria : Option Criterion) : List String :=
  criteria.elim [] fun c => c.comparisons.map (·.field)

end Criterion

namespace Predicate

open SqlText

/-- A criterion without its names and values compiles to the text without its names. -/
def BlankText (c : Criterion) (p : Predicate) : Prop :=
  ∃ q, inner c.blank = .ok q ∧ q.text = SqlText.blank p.text

/-- Members without names compile to texts without names. -/
lemma exists_of_blankText {members : List Criterion} {parts : List Predicate}
    (h : List.Forall₂ BlankText members parts) :
    ∃ parts', innerAll (Criterion.blankAll members) = .ok parts' ∧
      parts'.map (·.text) = parts.map fun p => SqlText.blank p.text := by
  induction h with
  | nil => exact ⟨[], rfl, rfl⟩
  | cons hc _ ih =>
    obtain ⟨q, hq, htext⟩ := hc
    obtain ⟨parts', hparts', htexts⟩ := ih
    refine ⟨q :: parts', ?_, by simp [htext, htexts]⟩
    rw [Criterion.blankAll, innerAll, hq, hparts']
    rfl

/-- Names are taken out of a combination part by part. -/
lemma blank_combine (kind : Combinator) {parts parts' : List Predicate}
    (h : parts'.map (·.text) = parts.map fun p => SqlText.blank p.text) :
    (combine kind parts').text = SqlText.blank (combine kind parts).text := by
  rw [combine, combine, blank_join, List.map_map, h]
  rfl

/-- The shape of a criterion's text depends on the criterion without names only. -/
lemma blankText_inner {c : Criterion} {p : Predicate} (h : inner c = .ok p) : BlankText c p := by
  refine inner_induction (fun c => ⟨_, rfl, rfl⟩) (fun kind members parts hne hparts => ?_) h
  obtain ⟨parts', hparts', htexts⟩ := exists_of_blankText hparts
  refine ⟨(combine kind parts').parenthesized, ?_, ?_⟩
  · refine inner_group_eq_ok.mpr ⟨?_, parts', innerAll_eq_ok.mp hparts', rfl⟩
    cases members with
    | nil => exact absurd rfl hne
    | cons c rest => simp [Criterion.blankAll]
  · simp [parenthesized, blank_combine kind htexts, Piece.blank]

/-- The text of criteria without their names and values is the text without its names. -/
lemma blank_ofCriteria {c : Option Criterion} {p : Predicate} (h : ofCriteria c = .ok p) :
    ∃ q, ofCriteria (c.map Criterion.blank) = .ok q ∧ q.text = SqlText.blank p.text := by
  cases c with
  | none =>
    obtain rfl : empty = p := by simpa [ofCriteria] using h
    exact ⟨empty, rfl, rfl⟩
  | some c =>
    obtain ⟨kind, rfl, rfl⟩ | ⟨x, rfl, rfl⟩ | ⟨kind, members, parts, rfl, hne, hparts, rfl⟩ :=
      ofCriteria_cases h
    · exact ⟨empty, rfl, rfl⟩
    · exact ⟨_, rfl, rfl⟩
    · obtain ⟨parts', hparts', htexts⟩ :=
        exists_of_blankText (hparts.imp fun _ _ => blankText_inner)
      refine ⟨combine kind parts', ?_, blank_combine kind htexts⟩
      cases members with
      | nil => exact absurd rfl hne
      | cons c rest =>
        rw [Option.map_some, Criterion.blank, Criterion.blankAll, ofCriteria,
          ← Criterion.blankAll, hparts']
        rfl

/-- Criteria that differ in names and values only have the same text but for its names. -/
lemma blank_eq_of_ofCriteria {c c' : Option Criterion} {p p' : Predicate}
    (hshape : c.map Criterion.blank = c'.map Criterion.blank) (h : ofCriteria c = .ok p)
    (h' : ofCriteria c' = .ok p') : SqlText.blank p.text = SqlText.blank p'.text := by
  obtain ⟨q, hq, htext⟩ := blank_ofCriteria h
  obtain ⟨q', hq', htext'⟩ := blank_ofCriteria h'
  obtain rfl : q = q' := Except.ok.inj (hq.symm.trans ((congrArg ofCriteria hshape).trans hq'))
  rw [← htext, htext']

lemma names_combine (kind : Combinator) (parts : List Predicate) :
    names (combine kind parts).text = parts.flatMap fun p => names p.text := by
  rw [combine, names_join, List.flatMap_map]

/-- The names in a criterion's text are the fields of its comparisons. -/
lemma names_inner {c : Criterion} {p : Predicate} (h : inner c = .ok p) :
    names p.text = c.comparisons.map (·.field) := by
  refine inner_induction (motive := fun c p => names p.text = c.comparisons.map (·.field))
    (fun c => rfl) (fun kind members parts _ hparts => ?_) h
  simp [parenthesized, names_combine, flatMap_members hparts, Criterion.comparisons]

/-- The names in the text of criteria are the fields of its comparisons. -/
lemma names_ofCriteria {c : Option Criterion} {p : Predicate} (h : ofCriteria c = .ok p) :
    names p.text = Criterion.fieldsOf c := by
  cases c with
  | none =>
    obtain rfl : empty = p := by simpa [ofCriteria] using h
    rfl
  | some c =>
    obtain ⟨kind, rfl, rfl⟩ | ⟨x, rfl, rfl⟩ | ⟨kind, members, parts, rfl, -, hparts, rfl⟩ :=
      ofCriteria_cases h
    · rfl
    · rfl
    · rw [names_combine, flatMap_members (hparts.imp fun _ _ => names_inner)]
      rfl

/-- Taking names out leaves the restriction in place. -/
lemma blank_whereClause (p : Predicate) :
    SqlText.blank p.whereClause
      = if (SqlText.blank p.text).isEmpty then []
        else .verbatim " WHERE " :: SqlText.blank p.text := by
  rw [whereClause, SqlText.blank, SqlText.blank, List.isEmpty_map]
  split <;> rfl

lemma names_whereClause (p : Predicate) : names p.whereClause = names p.text := by
  rw [whereClause]
  split
  · rename_i hempty
    rw [List.isEmpty_iff.mp hempty]
  · rfl

end Predicate

/-! ## The other parts of statements -/

/-- There is a dotted part more than there are dots. -/
lemma SqlText.length_dottedParts (name : String) :
    (dottedParts name).length = name.toList.count '.' + 1 := by
  rw [dottedParts, List.length_map, List.splitOn_eq_splitOnP]
  induction name.toList with
  | nil => rfl
  | cons c rest ih =>
    rw [List.splitOnP_cons_eq_if_modifyHead, List.count_cons]
    split
    · rw [List.length_cons, ih]
    · rw [List.length_modifyHead, ih, Nat.add_zero]

/-- Without its names, a dotted name is its dots. -/
lemma SqlText.blank_qualified (name : String) :
    blank (qualified name)
      = join "." (List.replicate (name.toList.count '.' + 1) [.name ""]) := by
  rw [qualified, blank_join, List.map_map, ← length_dottedParts]
  simp [Function.comp_def, Piece.blank]

/-- The names of a table are the parts of its name. -/
lemma SqlText.names_qualified (name : String) : names (qualified name) = dottedParts name := by
  rw [qualified, names_join, List.flatMap_map]
  exact List.flatMap_singleton' _

/-- The shape of an order is that of its directions. -/
lemma SortOrder.blank_clause (sort : SortOrder) :
    SqlText.blank sort.clause
      = (SortOrder.mk ((sort.entries.map (·.2)).map fun direction => ("", direction))).clause := by
  rw [clause, clause, isEmpty, isEmpty, List.isEmpty_map, List.isEmpty_map]
  split
  · rfl
  · simp [SqlText.blank_join, Piece.blank, Function.comp_def]

lemma SortOrder.names_clause (sort : SortOrder) :
    SqlText.names sort.clause = sort.entries.map (·.1) := by
  rw [clause, isEmpty]
  split
  · rename_i hempty
    rw [List.isEmpty_iff.mp hempty]
    rfl
  · simp [SqlText.names_join, List.flatMap_map, ← List.map_eq_flatMap]

lemma Page.names_clause (page : Page) : SqlText.names page.clause = [] := by
  rw [clause]
  split <;> rfl

/-! ## Operations of the same shape -/

/-- Two queries that differ in names and values only. -/
structure Query.SameShape (q q' : Query) : Prop where
  table : q.table.toList.count '.' = q'.table.toList.count '.'
  criteria : q.criteria.map Criterion.blank = q'.criteria.map Criterion.blank
  sort : q.sort.entries.map (·.2) = q'.sort.entries.map (·.2)
  page : q.page = q'.page

/-- Two operations that differ in names and values only. -/
inductive RowOperation.SameShape : RowOperation → RowOperation → Prop where
  | select {q q' : Query} (h : q.SameShape q') : SameShape (.select q) (.select q')
  | count {q q' : Query} (paginate : Bool) (h : q.SameShape q') :
      SameShape (.count q paginate) (.count q' paginate)
  | update {q q' : Query} {sets sets' : Row} (h : q.SameShape q')
      (hsets : sets.fields.length = sets'.fields.length) :
      SameShape (.update q sets) (.update q' sets')
  | delete {q q' : Query} (h : q.SameShape q') : SameShape (.delete q) (.delete q')
  | insert {table table' : String} {fields fields' : List String} {rows rows' : List Row}
      (htable : table.toList.count '.' = table'.toList.count '.')
      (hfields : fields.length = fields'.length) (hrows : rows.length = rows'.length) :
      SameShape (.insert table fields rows) (.insert table' fields' rows')

/-- The names of a query: the parts of its table's, its criteria's fields and its sort's. -/
def Query.names (q : Query) : List String :=
  SqlText.dottedParts q.table ++ Criterion.fieldsOf q.criteria ++ q.sort.entries.map (·.1)

/-- The names of an operation, in the order in which its statement has them. -/
def RowOperation.names : RowOperation → List String
  | .select q | .count q _ => q.names
  | .update q sets =>
    SqlText.dottedParts q.table ++ sets.fields.map (·.1) ++ Criterion.fieldsOf q.criteria
  | .delete q => SqlText.dottedParts q.table ++ Criterion.fieldsOf q.criteria
  | .insert table fields _ => SqlText.dottedParts table ++ fields

namespace Statement

open SqlText

variable {q q' : Query} {s s' : Statement}

/-- Selections of one shape differ in names only. -/
lemma blank_selectPage (hshape : q.SameShape q') {page : Page} (h : selectPage q page = .ok s)
    (h' : selectPage q' page = .ok s') : blank s.text = blank s'.text := by
  obtain ⟨p, hp, rfl⟩ := selectPage_eq_ok.mp h
  obtain ⟨p', hp', rfl⟩ := selectPage_eq_ok.mp h'
  simp only [blank_append, blank_cons, blank_qualified, Predicate.blank_whereClause,
    SortOrder.blank_clause]
  rw [hshape.table, hshape.sort, Predicate.blank_eq_of_ofCriteria hshape.criteria hp hp']

lemma blank_count (hshape : q.SameShape q') {paginate : Bool} (h : count q paginate = .ok s)
    (h' : count q' paginate = .ok s') : blank s.text = blank s'.text := by
  obtain ⟨inner, hinner, rfl⟩ := count_eq_ok.mp h
  obtain ⟨inner', hinner', rfl⟩ := count_eq_ok.mp h'
  rw [← hshape.page] at hinner'
  simp only [blank_append, blank_cons, blank_selectPage hshape hinner hinner']

/-- A list of names without them is as many empty ones. -/
lemma blank_join_names (separator : String) (suffix : SqlText) (names : List String) :
    blank (join separator (names.map fun name => .name name :: suffix))
      = join separator (List.replicate names.length (.name "" :: blank suffix)) := by
  rw [blank_join, List.map_map]
  simp [Function.comp_def, Piece.blank]

lemma blank_update (hshape : q.SameShape q') {sets sets' : Row}
    (hsets : sets.fields.length = sets'.fields.length) (h : update q sets = .ok s)
    (h' : update q' sets' = .ok s') : blank s.text = blank s'.text := by
  obtain ⟨-, p, hp, rfl⟩ := update_eq_ok.mp h
  obtain ⟨-, p', hp', rfl⟩ := update_eq_ok.mp h'
  have hlength : sets.names.length = sets'.names.length := by simpa [Row.names] using hsets
  simp only [blank_append, blank_cons, blank_qualified, Predicate.blank_whereClause,
    blank_join_names]
  rw [hshape.table, hlength, Predicate.blank_eq_of_ofCriteria hshape.criteria hp hp']

lemma blank_delete (hshape : q.SameShape q') (h : delete q = .ok s) (h' : delete q' = .ok s') :
    blank s.text = blank s'.text := by
  obtain ⟨p, hp, rfl⟩ := delete_eq_ok.mp h
  obtain ⟨p', hp', rfl⟩ := delete_eq_ok.mp h'
  simp only [blank_append, blank_cons, blank_qualified, Predicate.blank_whereClause]
  rw [hshape.table, Predicate.blank_eq_of_ofCriteria hshape.criteria hp hp']

lemma blank_insert {table table' : String} {fields fields' : List String} {rows rows' : List Row}
    (htable : table.toList.count '.' = table'.toList.count '.')
    (hfields : fields.length = fields'.length) (hrows : rows.length = rows'.length)
    (h : insert table fields rows = .ok s) (h' : insert table' fields' rows' = .ok s') :
    blank s.text = blank s'.text := by
  obtain ⟨-, -, rfl⟩ := insert_eq_ok.mp h
  obtain ⟨-, -, rfl⟩ := insert_eq_ok.mp h'
  simp only [blank_append, blank_cons, blank_qualified, blank_join_names, List.map_const']
  rw [htable, hfields, hrows]

/-- The names of a selection are those of its query. -/
lemma names_selectPage {page : Page} (h : selectPage q page = .ok s) :
    names s.text = q.names := by
  obtain ⟨p, hp, rfl⟩ := selectPage_eq_ok.mp h
  simp [names_qualified, Predicate.names_whereClause, Predicate.names_ofCriteria hp,
    SortOrder.names_clause, Page.names_clause, Query.names]

end Statement

namespace RowOperation

open SqlText

variable {r r' : RowOperation} {s s' : Statement}

/-- Statements of the same shape are the same but for their names. -/
theorem blank_build (hshape : r.SameShape r') (h : r.build = .ok s) (h' : r'.build = .ok s') :
    blank s.text = blank s'.text := by
  cases hshape with
  | select hq =>
    rw [build, Statement.select, ← hq.page] at h'
    exact Statement.blank_selectPage hq h h'
  | count paginate hq => exact Statement.blank_count hq h h'
  | update hq hsets => exact Statement.blank_update hq hsets h h'
  | delete hq => exact Statement.blank_delete hq h h'
  | insert htable hfields hrows => exact Statement.blank_insert htable hfields hrows h h'

/-- The names in a statement are those of the operation, in their order. -/
theorem names_build (h : r.build = .ok s) : SqlText.names s.text = r.names := by
  cases r with
  | select q => exact Statement.names_selectPage h
  | count q paginate =>
    obtain ⟨inner, hinner, rfl⟩ := Statement.count_eq_ok.mp h
    simpa [names] using Statement.names_selectPage hinner
  | update q sets =>
    obtain ⟨-, p, hp, rfl⟩ := Statement.update_eq_ok.mp h
    simp [names_qualified, names_join, List.flatMap_map, Predicate.names_whereClause,
      Predicate.names_ofCriteria hp, names, Row.names, ← List.map_eq_flatMap]
  | delete q =>
    obtain ⟨p, hp, rfl⟩ := Statement.delete_eq_ok.mp h
    simp [names_qualified, Predicate.names_whereClause, Predicate.names_ofCriteria hp, names]
  | insert table fields rows =>
    obtain ⟨-, -, rfl⟩ := Statement.insert_eq_ok.mp h
    simp [names_qualified, names_join, List.flatMap_map, names, Statement.tuple]

end RowOperation

/-- **Names and values stay what they are.**  The lexer reads the statements of two operations of
the same shape as the same tokens but for the names, and finds the names of each in their order.
If these agree as well, the statements are the same text, whatever the values. -/
theorem Sql.lex_sameShape {r r' : RowOperation} {s s' : Statement} (hshape : r.SameShape r')
    (h : r.build = .ok s) (h' : r'.build = .ok s') :
    ∃ ts ts', lex s.sql = some ts ∧ lex s'.sql = some ts' ∧
      ts.map Token.blank = ts'.map Token.blank ∧
      ts.filterMap Token.name? = r.names ∧ ts'.filterMap Token.name? = r'.names ∧
      (r.names = r'.names → s.sql = s'.sql) := by
  have hspaced := RowOperation.spaced_build h
  have hspaced' := RowOperation.spaced_build h'
  have hblank := RowOperation.blank_build hshape h h'
  have hnames := RowOperation.names_build h
  have hnames' := RowOperation.names_build h'
  refine ⟨_, _, SqlText.lex_render hspaced, SqlText.lex_render hspaced', ?_, ?_, ?_,
    fun hsame => ?_⟩
  · rw [SqlText.tokens_blank hspaced, SqlText.tokens_blank hspaced', hblank]
  · rw [SqlText.name?_tokens hspaced, hnames]
  · rw [SqlText.name?_tokens hspaced', hnames']
  · rw [Statement.sql, Statement.sql,
      SqlText.eq_of_blank hblank (by rw [hnames, hnames', hsame])]

/-- Two deletions of the same shape, one with names made to break out of their quotes. -/
theorem Sql.lex_sameShape_delete :
    ∃ r r' s s', r.SameShape r' ∧ RowOperation.build r = .ok s ∧ RowOperation.build r' = .ok s' ∧
      ∃ ts ts', lex s.sql = some ts ∧ lex s'.sql = some ts' ∧
        ts.map Token.blank = ts'.map Token.blank ∧
        ts.filterMap Token.name? = ["db", "\x60; -- ", "\x60 = ? OR 1 /*\n"] ∧
        ts'.filterMap Token.name? = ["db", "t", ""] := by
  have hshape : RowOperation.SameShape
      (.delete ⟨"db.\x60; -- ", some (.compare "\x60 = ? OR 1 /*\n" .like (.string "a")),
        .empty, .all⟩)
      (.delete ⟨"db.t", some (.compare "" .like .null), .empty, .all⟩) :=
    .delete ⟨by decide, rfl, rfl, rfl⟩
  obtain ⟨ts, ts', hts, hts', hblank, hnames, hnames', -⟩ := lex_sameShape hshape rfl rfl
  exact ⟨_, _, _, _, hshape, rfl, rfl, ts, ts', hts, hts', hblank, hnames, hnames'⟩

end TableGateway
