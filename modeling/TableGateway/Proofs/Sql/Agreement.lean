import TableGateway.Proofs.Sql.RowOperation

/-!
# The rows that statements mean

A query is put into a statement in four ways.  Whatever its criteria are, the four statements
restrict the same table in the same way, so that what is counted, changed and deleted are the rows
that are selected.

* `Statement.counting` — the count of what another statement selects.
* `Statement.Agree` — the text and the values of the four statements under one restriction.
* `Predicate.restriction` — the text of a restriction: a condition after its keyword, or nothing.
* **`Statement.build_agree`** — the four statements fail alike, or one restriction stands in all
  of them; and what of a query they leave out.
-/

namespace TableGateway

open SqlText

/-- How a predicate restricts a statement: by its condition after the keyword, and not at all if it
has no condition. -/
def Predicate.restriction (p : Predicate) : String :=
  if p.text = [] then "" else " WHERE " ++ render p.text

/-- The clause of a predicate writes its restriction. -/
lemma Predicate.render_whereClause (p : Predicate) : render p.whereClause = p.restriction := by
  rw [whereClause, restriction]
  cases p.text with
  | nil => rfl
  | cons piece rest =>
    rw [List.isEmpty_cons, if_neg Bool.false_ne_true, if_neg (List.cons_ne_nil _ _),
      render_verbatim]

/-! ## Counts -/

namespace Statement

variable {q : Query} {sets : Row} {s : Statement} {e : CompileError}

/-- The statement that counts what another one selects. -/
def counting (s : Statement) : Statement :=
  ⟨.verbatim "SELECT COUNT(*) AS count FROM (" :: s.text ++ [.verbatim ") AS a"], s.params⟩

/-- The text of a count is the text of what it counts in parentheses. -/
lemma sql_counting (s : Statement) :
    s.counting.sql = "SELECT COUNT(*) AS count FROM (" ++ s.sql ++ ") AS a" := by
  have hend : render [.verbatim ") AS a"] = ") AS a" := rfl
  simp only [sql, counting, render_append, List.cons_append, render_verbatim, hend,
    String.append_assoc]

/-- A count is a selection that is counted. -/
lemma count_eq_map (q : Query) (paginate : Bool) :
    count q paginate = (selectPage q (if paginate then q.page else .all)).map counting := by
  rw [count]
  cases selectPage q (if paginate then q.page else .all) with
  | error e => rfl
  | ok s => rfl

/-! ## Failures -/

/-- Criteria that do not compile have no statement of any kind. -/
lemma build_eq_error (h : Predicate.ofCriteria q.criteria = .error e)
    (hsets : sets.isEmpty = false) :
    select q = .error e ∧ (∀ paginate, count q paginate = .error e) ∧
      update q sets = .error e ∧ delete q = .error e := by
  have hpage (page : Page) : selectPage q page = .error e := by
    rw [selectPage, h]
    rfl
  refine ⟨hpage q.page, fun paginate => ?_, ?_, ?_⟩
  · rw [count_eq_map, hpage]
    rfl
  · rw [update, hsets, h]
    rfl
  · rw [delete, h]
    rfl

/-! ## Restrictions -/

/-- The four statements of a query under one restriction, which stands after the table and, where
fields are set, after these.  Its values are the last that are bound. -/
structure Agree (q : Query) (sets : Row) (restriction : String) (params : List Cell) :
    Prop where
  select : ∃ s, select q = .ok s ∧ s.params = params ∧
    s.sql = "SELECT * FROM " ++ render (qualified q.table) ++ restriction ++
      (render q.sort.clause ++ render q.page.clause)
  count : ∀ paginate, ∃ s, count q paginate = .ok s ∧ s.params = params ∧
    s.sql = "SELECT COUNT(*) AS count FROM (" ++
      ("SELECT * FROM " ++ render (qualified q.table) ++ restriction ++
        (render q.sort.clause ++ if paginate then render q.page.clause else "")) ++ ") AS a"
  update : ∃ s, update q sets = .ok s ∧ s.params = sets.values.map Value.toCell ++ params ∧
    s.sql = "UPDATE " ++ render (qualified q.table) ++ " SET " ++
      render (join ", " (sets.names.map fun name => [.name name, .verbatim " = ", .placeholder])) ++
      restriction
  delete : ∃ s, delete q = .ok s ∧ s.params = params ∧
    s.sql = "DELETE FROM " ++ render (qualified q.table) ++ restriction

variable {p : Predicate}

/-- The text of a selection under the restriction of its predicate. -/
lemma sql_selectPage (h : Predicate.ofCriteria q.criteria = .ok p) (page : Page) :
    ∃ s, selectPage q page = .ok s ∧ s.params = p.params ∧
      s.sql = "SELECT * FROM " ++ render (qualified q.table) ++ p.restriction ++
        (render q.sort.clause ++ render page.clause) := by
  refine ⟨_, selectPage_eq_ok.mpr ⟨p, h, rfl⟩, rfl, ?_⟩
  simp only [sql, render_append, List.cons_append, render_verbatim, p.render_whereClause,
    String.append_assoc]

/-- Criteria that compile put one restriction into the four statements. -/
lemma agree_of_ok (h : Predicate.ofCriteria q.criteria = .ok p)
    (hsets : sets.isEmpty = false) :
    Agree q sets p.restriction p.params where
  select := sql_selectPage h q.page
  count paginate := by
    obtain ⟨inner, hinner, hparams, hsql⟩ := sql_selectPage h (if paginate then q.page else .all)
    have hpage : render (if paginate then q.page else .all).clause =
        if paginate then render q.page.clause else "" := by
      cases paginate with
      | true => rfl
      | false => rfl
    refine ⟨inner.counting, ?_, hparams, ?_⟩
    · rw [count_eq_map, hinner]
      rfl
    · rw [sql_counting, hsql, hpage]
  update := by
    refine ⟨_, update_eq_ok.mpr ⟨hsets, p, h, rfl⟩, rfl, ?_⟩
    simp only [sql, render_append, List.cons_append, render_verbatim, p.render_whereClause,
      String.append_assoc]
  delete := by
    refine ⟨_, delete_eq_ok.mpr ⟨p, h, rfl⟩, rfl, ?_⟩
    simp only [sql, render_append, List.cons_append, render_verbatim, p.render_whereClause,
      String.append_assoc]

/-- **Statements of one query mean the same rows.**  Its selection, its counts, its deletion and
every update with fields to set fail with one error, or restrict its table by one condition after
`WHERE` with the same values, or by nothing if the predicate is empty.  A count with the page wraps
the selection, text and values; without it, it is the count of the query without a page; and neither
an update nor a deletion depends on order and page. -/
theorem build_agree (q : Query) (sets : Row) (hsets : sets.isEmpty = false) :
    ((∃ e, select q = .error e ∧ (∀ paginate, count q paginate = .error e) ∧
        update q sets = .error e ∧ delete q = .error e) ∨
      ∃ p, Predicate.ofCriteria q.criteria = .ok p ∧
        Agree q sets p.restriction p.params) ∧
    (∀ s, select q = .ok s → ∃ c, count q true = .ok c ∧
      c.sql = "SELECT COUNT(*) AS count FROM (" ++ s.sql ++ ") AS a" ∧ c.params = s.params) ∧
    count q false = count { q with page := .all } true ∧
    ∀ sort page, update ⟨q.table, q.criteria, sort, page⟩ sets = update q sets ∧
      delete ⟨q.table, q.criteria, sort, page⟩ = delete q := by
  refine ⟨?_, fun s h => ⟨s.counting, ?_, sql_counting s, rfl⟩, rfl, fun sort page => ⟨rfl, rfl⟩⟩
  · cases h : Predicate.ofCriteria q.criteria with
    | error e => exact .inl ⟨e, build_eq_error h hsets⟩
    | ok p => exact .inr ⟨p, rfl, agree_of_ok h hsets⟩
  · change selectPage q q.page = .ok s at h
    rw [count_eq_map, if_pos rfl, h]
    rfl

/-- Criteria with values of two kinds, a sort and a page. -/
theorem build_agree_sorted :
    Agree ⟨"people", some (.group .or [.compare "age" .gt (.int 30),
        .compare "name" .like (.string "a")]), ⟨[("name", .descending)]⟩, ⟨some 10, none⟩⟩
      (.ofList [("age", .null)]) " WHERE \x60age\x60 > ? OR \x60name\x60 LIKE ?"
      [.int 30, .text "%a%"] := by
  obtain ⟨e, he, -⟩ | ⟨p, hp, h⟩ := (build_agree ⟨"people", some (.group .or
    [.compare "age" .gt (.int 30), .compare "name" .like (.string "a")]),
    ⟨[("name", .descending)]⟩, ⟨some 10, none⟩⟩ (.ofList [("age", .null)]) rfl).1
  · contradiction
  · obtain rfl := Except.ok.inj hp
    have hrestriction : (Predicate.combine .or [.ofComparison ⟨"age", .gt, .int 30⟩,
        .ofComparison ⟨"name", .like, .string "a"⟩]).restriction =
        " WHERE \x60age\x60 > ? OR \x60name\x60 LIKE ?" := by decide +kernel
    rw [hrestriction] at h
    exact h

end Statement

end TableGateway
