import TableGateway.Proofs.Sql.Predicate
import TableGateway.Sql.Statement

/-!
# Statements over rows

The five kinds of operations on rows as one type, `RowOperation`, with the statement that is built
for each.  What a builder gives is said once for each kind (`selectPage_eq_ok` and the others).

* `SqlText.render_append`, `render_verbatim`, `render_join` — the text of pieces, part by part.
* **`spaced_build`** — the text of every statement over rows is spaced, so that the lexer reads it
  as the tokens of its pieces.
-/

namespace TableGateway

open SqlText

/-! ## The text of pieces -/

namespace SqlText

theorem render_append (a b : SqlText) : render (a ++ b) = render a ++ render b := by
  rw [render, List.flatMap_append, String.ofList_append]
  rfl

lemma render_cons (p : Piece) (text : SqlText) :
    render (p :: text) = String.ofList p.chars ++ render text := by
  rw [render, List.flatMap_cons, String.ofList_append]
  rfl

theorem render_verbatim (s : String) (text : SqlText) :
    render (.verbatim s :: text) = s ++ render text := by
  rw [render_cons, Piece.chars, String.ofList_toList]

/-- Joined texts are written with the separator between them. -/
theorem render_join (separator : String) (texts : List SqlText) :
    render (join separator texts) = separator.intercalate (texts.map render) := by
  induction texts with
  | nil => rfl
  | cons text rest ih => cases rest with
    | nil => rw [join, List.map_singleton, String.intercalate_singleton]
    | cons next rest =>
      rw [join, render_append, render_verbatim, ih, List.map_cons, List.map_cons, List.map_cons,
        String.intercalate_cons_cons, String.append_assoc]
      exact List.cons_ne_nil _ _

end SqlText

/-! ## Clauses

A clause is text that may stand after anything: it is empty, or it starts with a blank.
-/

/-- Spaced text that may stand after anything. -/
structure SqlText.Clause (text : SqlText) : Prop where
  spaced : text.Spaced
  starts : text.startsClear = true

namespace SqlText

lemma clause_nil : Clause [] := ⟨spaced_nil, rfl⟩

/-- A verbatim text with a blank at both ends, before anything. -/
lemma clause_cons {p : Piece} {text : SqlText} (hp : p.isPlain = true)
    (hstart : p.startsClear = true) (hend : p.endsClear = true) (h : text.Spaced) :
    Clause (p :: text) :=
  ⟨h.cons hp hend, hstart⟩

/-- Clauses may follow each other. -/
lemma Clause.append {a b : SqlText} (ha : a.Clause) (hb : b.Clause) : (a ++ b).Clause := by
  refine ⟨ha.spaced.append hb.spaced hb.starts, ?_⟩
  cases a with
  | nil => exact hb.starts
  | cons p a => exact ha.starts

/-- A clause at the end of a text. -/
lemma Spaced.append_clause {a b : SqlText} (ha : a.Spaced) (hb : b.Clause) : (a ++ b).Spaced :=
  ha.append hb.spaced hb.starts

end SqlText

/-- The restriction of a statement is a clause. -/
lemma Predicate.clause_whereClause {p : Predicate} (h : p.text.Spaced) :
    p.whereClause.Clause := by
  rw [whereClause]
  split
  · exact clause_nil
  · exact clause_cons (by decide) (by decide) (by decide) h

/-- The restriction has a keyword before the condition, if there is one. -/
lemma Predicate.tokens_whereClause (p : Predicate) :
    p.whereClause.tokens = if p.text.isEmpty then [] else .word "WHERE" :: p.text.tokens := by
  have hkeyword : (Piece.verbatim " WHERE ").tokens = [.word "WHERE"] := by decide
  rw [whereClause]
  split
  · rfl
  · rw [tokens_cons, hkeyword]
    rfl

lemma SortOrder.clause_clause (sort : SortOrder) : sort.clause.Clause := by
  have hdirection (d : Direction) : Clause [.verbatim (" " ++ d.keyword)] := by
    cases d with
    | ascending => exact ⟨spaced_singleton (by decide), by decide⟩
    | descending => exact ⟨spaced_singleton (by decide), by decide⟩
  rw [SortOrder.clause]
  split
  · exact clause_nil
  · refine clause_cons (by decide) (by decide) (by decide)
      (spaced_join (by decide) (by decide) (by decide) fun t ht => ?_)
    obtain ⟨e, -, rfl⟩ := List.mem_map.mp ht
    exact (spaced_singleton (p := .name e.1) rfl).append_clause (hdirection e.2)

/-- A number is written with characters of words. -/
lemma Piece.isPlain_toString (n : Nat) : (verbatim (toString n)).isPlain = true := by
  rw [isPlain, List.all_eq_true]
  intro c hc
  rw [Nat.toString_eq_repr, Nat.toList_repr] at hc
  have hdigit : c.isDigit = true := Nat.isDigit_of_mem_toDigits (by decide) (by decide) hc
  have hne : c ≠ '?' := by
    rintro rfl
    exact absurd hdigit (by decide)
  simp [Sql.isPlain, Sql.isWordChar, Char.isAlphanum, hdigit, hne]

lemma Page.clause_clause (page : Page) : page.clause.Clause := by
  have hlimit : (Piece.verbatim " LIMIT ").isPlain = true := by decide
  have hstart : (Piece.verbatim " LIMIT ").startsClear = true := by decide
  have hoffset : (Piece.verbatim " OFFSET ").isPlain = true := by decide
  rw [Page.clause]
  split
  · exact clause_nil
  · rename_i limit _
    refine ⟨spaced_singleton ?_, Piece.startsClear_append hstart _⟩
    rw [Piece.isPlain_append, hlimit, Piece.isPlain_toString]
    rfl
  · rename_i limit offset _
    refine ⟨spaced_singleton ?_,
      Piece.startsClear_append (Piece.startsClear_append (Piece.startsClear_append hstart _) _) _⟩
    rw [Piece.isPlain_append, Piece.isPlain_append, Piece.isPlain_append, hlimit, hoffset,
      Piece.isPlain_toString, Piece.isPlain_toString]
    rfl

/-! ## What the builders give -/

namespace Statement

/-- A selection is built exactly if its criteria compile. -/
theorem selectPage_eq_ok {q : Query} {page : Page} {s : Statement} :
    selectPage q page = .ok s ↔ ∃ p, Predicate.ofCriteria q.criteria = .ok p ∧
      s = ⟨.verbatim "SELECT * FROM " :: qualified q.table ++ p.whereClause ++ q.sort.clause ++
        page.clause, p.params⟩ := by
  simp [selectPage, bind_eq_ok, eq_comm (b := s)]

/-- A count is built exactly if the selection inside it is. -/
lemma count_eq_ok {q : Query} {paginate : Bool} {s : Statement} :
    count q paginate = .ok s ↔
      ∃ inner, selectPage q (if paginate then q.page else .all) = .ok inner ∧
        s = ⟨.verbatim "SELECT COUNT(*) AS count FROM (" :: inner.text ++ [.verbatim ") AS a"],
          inner.params⟩ := by
  simp [count, bind_eq_ok, eq_comm (b := s)]

/-- An update is built exactly if it sets a field and its criteria compile. -/
lemma update_eq_ok {q : Query} {sets : Row} {s : Statement} :
    update q sets = .ok s ↔ sets.isEmpty = false ∧ ∃ p, Predicate.ofCriteria q.criteria = .ok p ∧
      s = ⟨.verbatim "UPDATE " :: qualified q.table ++ .verbatim " SET " ::
        join ", " (sets.names.map fun name => [.name name, .verbatim " = ", .placeholder]) ++
          p.whereClause,
        sets.values.map Value.toCell ++ p.params⟩ := by
  cases h : sets.isEmpty <;> simp [update, h, bind_eq_ok, eq_comm (b := s)]

/-- A deletion is built exactly if its criteria compile. -/
lemma delete_eq_ok {q : Query} {s : Statement} :
    delete q = .ok s ↔ ∃ p, Predicate.ofCriteria q.criteria = .ok p ∧
      s = ⟨.verbatim "DELETE FROM " :: qualified q.table ++ p.whereClause, p.params⟩ := by
  simp [delete, bind_eq_ok, eq_comm (b := s)]

/-- An insertion is built exactly if there are rows and fields. -/
lemma insert_eq_ok {table : String} {fields : List String} {rows : List Row} {s : Statement} :
    insert table fields rows = .ok s ↔ rows ≠ [] ∧ fields ≠ [] ∧
      s = ⟨.verbatim "INSERT INTO " :: qualified table ++ .verbatim " (" ::
        join ", " (fields.map fun f => [.name f]) ++ .verbatim ") VALUES " ::
        join ", " (rows.map fun _ => tuple fields.length),
        rows.flatMap fun row => fields.map (cellFor row)⟩ := by
  cases rows <;> cases fields <;> simp [insert, eq_comm (b := s)]

end Statement

/-! ## Operations on rows -/

/-- An operation on rows. -/
inductive RowOperation where
  | select (q : Query)
  | count (q : Query) (paginate : Bool)
  | update (q : Query) (sets : Row)
  | delete (q : Query)
  | insert (table : String) (fields : List String) (rows : List Row)

namespace RowOperation

/-- The statement of an operation. -/
def build : RowOperation → Except CompileError Statement
  | .select q => Statement.select q
  | .count q paginate => Statement.count q paginate
  | .update q sets => Statement.update q sets
  | .delete q => Statement.delete q
  | .insert table fields rows => Statement.insert table fields rows

end RowOperation

/-! ## Statements are spaced -/

namespace Statement

/-- The pieces of a selection are kept apart. -/
lemma spaced_selectPage {q : Query} {page : Page} {s : Statement}
    (h : selectPage q page = .ok s) : s.text.Spaced := by
  obtain ⟨p, hp, rfl⟩ := selectPage_eq_ok.mp h
  have hwhere := Predicate.clause_whereClause (Predicate.spaced_ofCriteria hp)
  have htable := (spaced_qualified q.table).cons (p := .verbatim "SELECT * FROM ") (by decide)
    (by decide)
  exact ((htable.append_clause hwhere).append_clause q.sort.clause_clause).append_clause
    page.clause_clause

lemma spaced_count {q : Query} {paginate : Bool} {s : Statement}
    (h : count q paginate = .ok s) : s.text.Spaced := by
  obtain ⟨inner, hinner, rfl⟩ := count_eq_ok.mp h
  exact ((spaced_selectPage hinner).append (spaced_singleton (by decide)) (by decide)).cons
    (by decide) (by decide)

lemma spaced_update {q : Query} {sets : Row} {s : Statement}
    (h : update q sets = .ok s) : s.text.Spaced := by
  obtain ⟨-, p, hp, rfl⟩ := update_eq_ok.mp h
  have hwhere := Predicate.clause_whereClause (Predicate.spaced_ofCriteria hp)
  have hassignments : (join ", " (sets.names.map fun name =>
      [.name name, .verbatim " = ", .placeholder])).Spaced := by
    refine spaced_join (by decide) (by decide) (by decide) fun t ht => ?_
    obtain ⟨name, -, rfl⟩ := List.mem_map.mp ht
    exact (spaced_singleton (p := .name name) rfl).append_clause
      (clause_cons (by decide) (by decide) (by decide) (spaced_singleton rfl))
  have htable := (spaced_qualified q.table).cons (p := .verbatim "UPDATE ") (by decide) (by decide)
  have hset := clause_cons (p := .verbatim " SET ") (by decide) (by decide) (by decide) hassignments
  exact (htable.append_clause hset).append_clause hwhere

lemma spaced_delete {q : Query} {s : Statement} (h : delete q = .ok s) : s.text.Spaced := by
  obtain ⟨p, hp, rfl⟩ := delete_eq_ok.mp h
  have hwhere := Predicate.clause_whereClause (Predicate.spaced_ofCriteria hp)
  exact ((spaced_qualified q.table).cons (by decide) (by decide)).append_clause hwhere

lemma spaced_tuple (width : Nat) : (tuple width).Spaced := by
  have hplaces : (join ", " (List.replicate width [.placeholder])).Spaced := by
    refine spaced_join (by decide) (by decide) (by decide) fun t ht => ?_
    obtain rfl := List.eq_of_mem_replicate ht
    exact spaced_singleton rfl
  exact (hplaces.append (spaced_singleton (by decide)) (by decide)).cons (by decide) (by decide)

lemma spaced_insert {table : String} {fields : List String} {rows : List Row} {s : Statement}
    (h : insert table fields rows = .ok s) : s.text.Spaced := by
  obtain ⟨-, -, rfl⟩ := insert_eq_ok.mp h
  have hcolumns : (join ", " (fields.map fun f => [.name f])).Spaced := by
    refine spaced_join (by decide) (by decide) (by decide) fun t ht => ?_
    obtain ⟨name, -, rfl⟩ := List.mem_map.mp ht
    exact spaced_singleton rfl
  have htuples : (join ", " (rows.map fun _ => tuple fields.length)).Spaced := by
    refine spaced_join (by decide) (by decide) (by decide) fun t ht => ?_
    obtain ⟨row, -, rfl⟩ := List.mem_map.mp ht
    exact spaced_tuple fields.length
  have htable := (spaced_qualified table).cons (p := .verbatim "INSERT INTO ") (by decide)
    (by decide)
  have hnames := clause_cons (p := .verbatim " (") (by decide) (by decide) (by decide) hcolumns
  have hvalues := clause_cons (p := .verbatim ") VALUES ") (by decide) (by decide) (by decide)
    htuples
  exact (htable.append_clause hnames).append_clause hvalues

end Statement

/-- The text of every statement over rows is spaced. -/
theorem RowOperation.spaced_build {r : RowOperation} {s : Statement} (h : r.build = .ok s) :
    s.text.Spaced := by
  cases r with
  | select q => exact Statement.spaced_selectPage h
  | count q paginate => exact Statement.spaced_count h
  | update q sets => exact Statement.spaced_update h
  | delete q => exact Statement.spaced_delete h
  | insert table fields rows => exact Statement.spaced_insert h

end TableGateway
