import TableGateway.Proofs.Sql.Condition
import TableGateway.Proofs.Sql.RowOperation

/-!
# A SELECT read back

What a SELECT says can be told from its text alone.  The reader sees characters only; it cuts them
into the engine's tokens and reads these from left to right, clause by clause.

* `Selection` — what a SELECT says: the parts of the table's name, the outline of the condition,
  the order and the window.
* `Criterion.outline` — criteria without values, where a group of one member is that member.  This
  is all of them that the text shows.
* `Selection.read` — the reader, with one function per clause: `readTable`, `readMember`,
  `readEntries`, `readWindow`.
* **`read_select`** — a SELECT is read as the query that it was built from, so that two queries with
  the same text agree in all that the text shows.
-/

namespace TableGateway

open Sql

/-! ## What a SELECT says -/

namespace Criterion

/-- Criteria as a group; a single one stands for itself. -/
def gathered (kind : Combinator) : List Criterion → Criterion
  | [c] => c
  | members => .group kind members

mutual

/-- A criterion without values and without groups of one member. -/
def outline : Criterion → Criterion
  | .comparison c => compare c.field c.operator .null
  | .group kind members => gathered kind (outlineAll members)

/-- The outlines of criteria. -/
def outlineAll : List Criterion → List Criterion
  | [] => []
  | c :: rest => outline c :: outlineAll rest

end

/-- The outline of criteria that may be missing; a group without members asks for nothing. -/
def outlineOf : Option Criterion → Option Criterion
  | none => none
  | some (.group _ []) => none
  | some c => some c.outline

end Criterion

/-- What a SELECT says. -/
structure Selection where
  /-- The parts of the table's name. -/
  table : List String
  filter : Option Criterion
  sort : SortOrder
  window : Option (UInt64 × Option UInt64)

/-- What the SELECT of a query says. -/
def Query.selection (q : Query) : Selection :=
  ⟨SqlText.dottedParts q.table, Criterion.outlineOf q.criteria, q.sort, q.page.window⟩

namespace Selection

/-! ## The reader -/

/-- Names with dots between them. -/
def readTable : List Token → Option (List String × List Token)
  | .name part :: .mark '.' :: ts => (readTable ts).map fun r => (part :: r.1, r.2)
  | .name part :: ts => some ([part], ts)
  | _ => none

/-- What stands to the left of a member of a group: the keyword between members, and the members
before. -/
abbrev Before := Option (Combinator × List Criterion)

/-- A group that ends with a member. -/
def closed : Before → Criterion → Criterion
  | none, c => c
  | some (kind, members), c => .group kind (members ++ [c])

/-- A group that goes on after a member.  Only one keyword stands between members. -/
def continued (kind : Combinator) : Before → Criterion → Option Before
  | none, c => some (some (kind, [c]))
  | some (kind', members), c =>
    if kind' = kind then some (some (kind, members ++ [c])) else none

mutual

/-- Read on where a member of a group must follow.  Outside are the groups that are not closed
yet. -/
def readMember (outer : List Before) (before : Before) :
    List Token → Option (Criterion × List Token)
  | .mark '(' :: ts => readMember (before :: outer) none ts
  | .name field :: t :: .placeholder :: ts =>
    match operator? t with
    | some op => readJoint outer before (.compare field op .null) ts
    | none => none
  | _ => none

/-- Read on after a member of a group. -/
def readJoint (outer : List Before) (before : Before) (last : Criterion) :
    List Token → Option (Criterion × List Token)
  | .word "AND" :: ts =>
    match continued .and before last with
    | some before => readMember outer before ts
    | none => none
  | .word "OR" :: ts =>
    match continued .or before last with
    | some before => readMember outer before ts
    | none => none
  | .mark ')' :: ts =>
    match outer with
    | before' :: outer => readJoint outer before' (closed before last) ts
    | [] => none
  | ts => if outer.isEmpty then some (closed before last, ts) else none

end

/-- The direction that a token is. -/
def direction? : Token → Option Direction
  | .word "ASC" => some .ascending
  | .word "DESC" => some .descending
  | _ => none

/-- Names with directions, and commas between them. -/
def readEntries : List Token → Option (List (String × Direction) × List Token)
  | .name field :: t :: .mark ',' :: ts => do
    let direction ← direction? t
    let (entries, ts) ← readEntries ts
    some ((field, direction) :: entries, ts)
  | .name field :: t :: ts => (direction? t).map fun direction => ([(field, direction)], ts)
  | _ => none

/-- An unsigned number of 64 bits. -/
def number? (s : String) : Option UInt64 :=
  ((Text.value? s.toList).filter (· < UInt64.size)).map UInt64.ofNat

/-- A limit, and an offset after it, up to the end. -/
def readWindow : List Token → Option (Option (UInt64 × Option UInt64))
  | [] => some none
  | [.word "LIMIT", .word limit] => (number? limit).map fun limit => some (limit, none)
  | [.word "LIMIT", .word limit, .word "OFFSET", .word offset] => do
    let limit ← number? limit
    let offset ← number? offset
    some (some (limit, some offset))
  | _ => none

/-- The condition after WHERE, if there is one. -/
def readFilter : List Token → Option (Option Criterion × List Token)
  | .word "WHERE" :: ts => (readMember [] none ts).map fun r => (some r.1, r.2)
  | ts => some (none, ts)

/-- The order after ORDER BY, if there is one. -/
def readSort : List Token → Option (SortOrder × List Token)
  | .word "ORDER" :: .word "BY" :: ts => (readEntries ts).map fun r => (⟨r.1⟩, r.2)
  | ts => some (.empty, ts)

/-- The clauses of a SELECT. -/
def readTokens : List Token → Option Selection
  | .word "SELECT" :: .mark '*' :: .word "FROM" :: ts => do
    let (table, ts) ← readTable ts
    let (filter, ts) ← readFilter ts
    let (sort, ts) ← readSort ts
    let window ← readWindow ts
    some ⟨table, filter, sort, window⟩
  | _ => none

/-- What a text says as a SELECT. -/
def read (sql : String) : Option Selection :=
  (lex sql).bind readTokens

/-! ## Where a clause ends

A clause is read as far as it goes.  What comes after it starts with the keyword of a later clause,
so no reader takes it for its own.
-/

/-- The text ends, or one of these keywords follows. -/
def AtClause (keywords : List String) (ts : List Token) : Prop :=
  ts = [] ∨ ∃ keyword ∈ keywords, ∃ rest, ts = .word keyword :: rest

/-- Two clauses start with a keyword of either, or neither has a token. -/
lemma AtClause.append {keywords later : List String} {ts us : List Token}
    (ht : AtClause keywords ts) (hu : AtClause later us) :
    AtClause (keywords ++ later) (ts ++ us) := by
  obtain rfl | ⟨keyword, hmem, rest, rfl⟩ := ht
  · obtain rfl | ⟨keyword, hmem, rest, rfl⟩ := hu
    · exact .inl rfl
    · exact .inr ⟨keyword, List.mem_append_right _ hmem, rest, rfl⟩
  · exact .inr ⟨keyword, List.mem_append_left _ hmem, rest ++ us, rfl⟩

/-! ## Each clause is read as it was written -/

open SqlText

/-- A clause is not the next part of a dotted name. -/
lemma AtClause.head?_ne {keywords : List String} {ts : List Token} (h : AtClause keywords ts) :
    ts.head? ≠ some (.mark '.') := by
  obtain rfl | ⟨keyword, -, rest, rfl⟩ := h
  · simp
  · simp

/-- The parts of a table's name are read up to what is no point. -/
lemma readTable_join (part : String) (parts : List String) {ts : List Token}
    (h : ts.head? ≠ some (.mark '.')) :
    readTable (tokens (join "." ((part :: parts).map fun p => [.name p])) ++ ts)
      = some (part :: parts, ts) := by
  have hdot : (Piece.verbatim ".").tokens = [.mark '.'] := by decide
  induction parts generalizing part with
  | nil =>
    have hlast : readTable (.name part :: ts) = some ([part], ts) := by
      rw [readTable]
      rintro rest rfl
      simp at h
    simpa [join] using hlast
  | cons next parts ih =>
    have htokens : tokens (join "." ((part :: next :: parts).map fun p => [.name p])) =
        .name part :: .mark '.' ::
          tokens (join "." ((next :: parts).map fun p => [.name p])) := by
      simp [join, hdot]
    rw [htokens, List.cons_append, List.cons_append, readTable, ih next]
    rfl

/-- Every name has a part. -/
lemma dottedParts_ne_nil (name : String) : dottedParts name ≠ [] := by
  rw [dottedParts, ne_eq, List.map_eq_nil_iff]
  exact List.splitOn_ne_nil _ _

/-- A table's name is read back in its parts. -/
lemma readTable_qualified (name : String) {ts : List Token}
    (h : ts.head? ≠ some (.mark '.')) :
    readTable (tokens (qualified name) ++ ts) = some (dottedParts name, ts) := by
  obtain ⟨part, parts, hparts⟩ := List.exists_cons_of_ne_nil (dottedParts_ne_nil name)
  rw [qualified, hparts]
  exact readTable_join part parts h

/-- A predicate is read as a member of a group, whatever stands before and after it. -/
def ReadsMember (c : Criterion) (p : Predicate) : Prop :=
  ∀ outer before ts,
    readMember outer before (p.text.tokens ++ ts) = readJoint outer before c.outline ts

/-- A predicate is read as the members of a group that has just been opened. -/
def ReadsGroup (c : Criterion) (p : Predicate) : Prop :=
  ∀ outer ts, ∃ before last, closed before last = c.outline ∧
    readMember outer none (p.text.tokens ++ ts) = readJoint outer before last ts

/-- A comparison is read as a member of a group. -/
lemma readsMember_ofComparison (c : Comparison) :
    ReadsMember (.comparison c) (.ofComparison c) := by
  obtain ⟨t, htoken, hop⟩ := operator?_token c.operator
  intro outer before ts
  have htext : (Predicate.ofComparison c).text.tokens = [.name c.field, t, .placeholder] := by
    simp [Predicate.ofComparison, Comparison.text, htoken]
  simp [htext, readMember, hop, Criterion.outline]

/-- A single member is read as a group by itself. -/
lemma ReadsMember.group {c : Criterion} {p : Predicate} (h : ReadsMember c p) :
    ReadsGroup c p :=
  fun outer ts => ⟨none, c.outline, rfl, h outer none ts⟩

/-- A group in parentheses is read as a member. -/
lemma ReadsGroup.parenthesized {c : Criterion} {p : Predicate} (h : ReadsGroup c p) :
    ReadsMember c p.parenthesized := by
  intro outer before ts
  obtain ⟨before', last, hclosed, hread⟩ := h (before :: outer) (.mark ')' :: ts)
  rw [tokens_parenthesized, List.cons_append, List.cons_append, List.append_assoc, readMember]
  rw [List.cons_append, List.nil_append, hread, readJoint, hclosed]

/-- A keyword after a member leads to the next member of the same group. -/
lemma readJoint_keyword (kind : Combinator) (outer : List Before) {before before' : Before}
    {last : Criterion} (h : continued kind before last = some before') (ts : List Token) :
    readJoint outer before last (.word kind.keyword :: ts) = readMember outer before' ts := by
  cases kind with
  | and => simp [Combinator.keyword, readJoint, h]
  | or => simp [Combinator.keyword, readJoint, h]

/-- The members of a group are read on from the first, by induction on their list. -/
lemma readJoint_members (kind : Combinator) {members : List Criterion} {parts : List Predicate}
    (h : List.Forall₂ ReadsMember members parts) (outer : List Before) (seen : List Criterion)
    (last : Criterion) (ts : List Token) :
    ∃ before' last',
      closed before' last' = .group kind (seen ++ last :: Criterion.outlineAll members) ∧
      readJoint outer (some (kind, seen)) last
          ((parts.flatMap fun p => .word kind.keyword :: p.text.tokens) ++ ts)
        = readJoint outer before' last' ts := by
  -- `seen` are the members that are closed off, `last` the one that a keyword may still follow
  induction h generalizing seen last with
  | nil => exact ⟨some (kind, seen), last, rfl, rfl⟩
  | @cons c p members parts hc _ ih =>
    have hcontinued :
        continued kind (some (kind, seen)) last = some (some (kind, seen ++ [last])) := if_pos rfl
    obtain ⟨before', last', hclosed, hread⟩ := ih (seen ++ [last]) c.outline
    refine ⟨before', last', ?_, ?_⟩
    · rw [hclosed, Criterion.outlineAll, List.append_assoc]
      rfl
    · rw [List.flatMap_cons, List.append_assoc, List.cons_append,
        readJoint_keyword kind outer hcontinued, hc, hread]

/-- The members of a group are read as the group. -/
lemma readsGroup_combine (kind : Combinator) {members : List Criterion} {parts : List Predicate}
    (hne : members ≠ []) (h : List.Forall₂ ReadsMember members parts) :
    ReadsGroup (.group kind members) (.combine kind parts) := by
  intro outer ts
  cases h with
  | nil => exact absurd rfl hne
  | @cons c p members parts hc hrest =>
    -- a single member stands for the group, so there is no keyword to tell which group it is
    cases hrest with
    | nil => exact ⟨none, c.outline, rfl, by rw [tokens_combine, List.append_assoc, hc]; rfl⟩
    | @cons d q members parts hd hrest =>
      obtain ⟨before, last, hclosed, hread⟩ :=
        readJoint_members kind hrest outer [c.outline] d.outline ts
      have hcontinued : continued kind none c.outline = some (some (kind, [c.outline])) := rfl
      refine ⟨before, last, hclosed, ?_⟩
      rw [tokens_combine, List.append_assoc, hc, List.flatMap_cons, List.append_assoc,
        List.cons_append, readJoint_keyword kind outer hcontinued, hd, hread]

/-- A criterion inside a group is read as a member of it. -/
lemma readsMember_inner {c : Criterion} {p : Predicate} (h : Predicate.inner c = .ok p) :
    ReadsMember c p :=
  Predicate.inner_induction readsMember_ofComparison
    (fun kind _ _ hne hparts => (readsGroup_combine kind hne hparts).parenthesized) h

/-- A condition ends where another clause begins. -/
lemma readJoint_atClause (before : Before) (last : Criterion) {ts : List Token}
    (h : AtClause ["ORDER", "LIMIT"] ts) :
    readJoint [] before last ts = some (closed before last, ts) := by
  obtain rfl | ⟨keyword, hmem, rest, rfl⟩ := h
  · rfl
  · obtain rfl | rfl : keyword = "ORDER" ∨ keyword = "LIMIT" := by simpa using hmem
    · rfl
    · rfl

/-- An outermost criterion with text is read as its outline. -/
lemma readMember_ofCriteria {c : Criterion} {p : Predicate}
    (h : Predicate.ofCriteria (some c) = .ok p) (hne : p.text ≠ []) {ts : List Token}
    (hts : AtClause ["ORDER", "LIMIT"] ts) :
    readMember [] none (p.text.tokens ++ ts) = some (c.outline, ts) := by
  have hgroup : ReadsGroup c p := by
    obtain ⟨kind, rfl, rfl⟩ | ⟨x, rfl, rfl⟩ | ⟨kind, members, parts, rfl, hmembers, hparts, rfl⟩ :=
      Predicate.ofCriteria_cases h
    · exact absurd rfl hne
    · exact (readsMember_ofComparison x).group
    · exact readsGroup_combine kind hmembers (hparts.imp fun _ _ => readsMember_inner)
  obtain ⟨before, last, hclosed, hread⟩ := hgroup [] ts
  rw [hread, readJoint_atClause before last hts, hclosed]

/-- The restriction starts with its keyword, if it is there. -/
lemma atClause_whereClause (p : Predicate) : AtClause ["WHERE"] p.whereClause.tokens := by
  rw [Predicate.tokens_whereClause]
  split
  · exact .inl rfl
  · exact .inr ⟨"WHERE", by decide, _, rfl⟩

/-- The outline of the criteria is read from the restriction. -/
lemma readFilter_whereClause {criteria : Option Criterion} {p : Predicate}
    (h : Predicate.ofCriteria criteria = .ok p) {ts : List Token}
    (hts : AtClause ["ORDER", "LIMIT"] ts) :
    readFilter (p.whereClause.tokens ++ ts) = some (Criterion.outlineOf criteria, ts) := by
  have hnothing : readFilter ts = some (none, ts) := by
    obtain rfl | ⟨keyword, hmem, rest, rfl⟩ := hts
    · rfl
    · obtain rfl | rfl : keyword = "ORDER" ∨ keyword = "LIMIT" := by simpa using hmem
      · rfl
      · rfl
  rw [Predicate.tokens_whereClause]
  by_cases hempty : p.text = []
  · have houtline : Criterion.outlineOf criteria = none := by
      obtain rfl | ⟨kind, rfl⟩ := (Predicate.text_eq_nil_iff h).mp hempty
      · rfl
      · rfl
    rw [if_pos (List.isEmpty_iff.mpr hempty), List.nil_append, hnothing, houtline]
  · cases criteria with
    | none => exact absurd ((Predicate.text_eq_nil_iff h).mpr (.inl rfl)) hempty
    | some c =>
      have houtline : Criterion.outlineOf (some c) = some c.outline := by
        rcases c with x | ⟨kind, _ | ⟨d, members⟩⟩
        · rfl
        · exact absurd ((Predicate.text_eq_nil_iff h).mpr (.inr ⟨kind, rfl⟩)) hempty
        · rfl
      rw [if_neg (by simpa using hempty), List.cons_append, readFilter,
        readMember_ofCriteria h hempty hts, houtline]
      rfl

/-- The entries of an order are read up to the next clause. -/
lemma readEntries_join (entry : String × Direction) (entries : List (String × Direction))
    {keywords : List String}
    {ts : List Token} (h : AtClause keywords ts) :
    readEntries (tokens (join ", " ((entry :: entries).map fun e =>
        [.name e.1, .verbatim (" " ++ e.2.keyword)])) ++ ts)
      = some (entry :: entries, ts) := by
  have hcomma : (Piece.verbatim ", ").tokens = [.mark ','] := by decide
  have hdirection (d : Direction) : ∃ t, (Piece.verbatim (" " ++ d.keyword)).tokens = [t] ∧
      direction? t = some d := by
    cases d with
    | ascending => exact ⟨.word "ASC", by decide, rfl⟩
    | descending => exact ⟨.word "DESC", by decide, rfl⟩
  induction entries generalizing entry with
  | nil =>
    obtain ⟨t, ht, hdir⟩ := hdirection entry.2
    obtain rfl | ⟨keyword, -, rest, rfl⟩ := h
    · simp [join, ht, readEntries, hdir]
    · simp [join, ht, readEntries, hdir]
  | cons next entries ih =>
    obtain ⟨t, ht, hdir⟩ := hdirection entry.2
    have htokens : tokens (join ", " ((entry :: next :: entries).map fun e =>
          [.name e.1, .verbatim (" " ++ e.2.keyword)]))
        = .name entry.1 :: t :: .mark ',' :: tokens (join ", " ((next :: entries).map fun e =>
          [.name e.1, .verbatim (" " ++ e.2.keyword)])) := by
      simp [join, hcomma, ht]
    rw [htokens, List.cons_append, List.cons_append, List.cons_append, readEntries, ih next, hdir]
    rfl

/-- The tokens of an order. -/
lemma tokens_sortClause (sort : SortOrder) :
    sort.clause.tokens = if sort.isEmpty then [] else .word "ORDER" :: .word "BY" ::
      tokens (join ", " (sort.entries.map fun e =>
        [.name e.1, .verbatim (" " ++ e.2.keyword)])) := by
  have hkeyword : (Piece.verbatim " ORDER BY ").tokens = [.word "ORDER", .word "BY"] := by decide
  rw [SortOrder.clause]
  split
  · rfl
  · rw [tokens_cons, hkeyword]
    rfl

lemma atClause_sortClause (sort : SortOrder) : AtClause ["ORDER"] sort.clause.tokens := by
  rw [tokens_sortClause]
  split
  · exact .inl rfl
  · exact .inr ⟨"ORDER", by decide, _, rfl⟩

/-- The order is read back. -/
lemma readSort_clause (sort : SortOrder) {ts : List Token} (h : AtClause ["LIMIT"] ts) :
    readSort (sort.clause.tokens ++ ts) = some (sort, ts) := by
  obtain ⟨entries⟩ := sort
  rw [tokens_sortClause]
  cases entries with
  | nil =>
    obtain rfl | ⟨keyword, hmem, rest, rfl⟩ := h
    · rfl
    · obtain rfl : keyword = "LIMIT" := by simpa using hmem
      rfl
  | cons entry entries =>
    rw [if_neg (by simp [SortOrder.isEmpty]), List.cons_append, List.cons_append, readSort,
      readEntries_join entry entries h]
    rfl

/-- A number is read back from its digits. -/
lemma number?_toString (n : UInt64) : number? (toString n.toNat) = some n := by
  have hvalue : Text.value? (toString n.toNat).toList = some n.toNat := by
    rw [Nat.toString_eq_repr, Nat.toList_repr]
    exact Text.value?_digits n.toNat
  have hlt : n.toNat < UInt64.size := n.toNat_lt_size
  rw [number?, hvalue]
  simp [Option.filter, hlt]

/-- The window as the words that ask for it. -/
def windowTokens : Option (UInt64 × Option UInt64) → List Token
  | none => []
  | some (limit, none) => [.word "LIMIT", .word (toString limit.toNat)]
  | some (limit, some offset) =>
    [.word "LIMIT", .word (toString limit.toNat), .word "OFFSET", .word (toString offset.toNat)]

lemma tokens_number (n : Nat) : (Piece.verbatim (toString n)).tokens = [.word (toString n)] := by
  have hword : ∀ c ∈ (toString n).toList, isWordChar c = true := by
    intro c hc
    rw [Nat.toString_eq_repr, Nat.toList_repr] at hc
    have hdigit : c.isDigit = true := Nat.isDigit_of_mem_toDigits (by decide) (by decide) hc
    simp [isWordChar, Char.isAlphanum, hdigit]
  have hne : toString n ≠ "" := by
    rw [Nat.toString_eq_repr]
    exact Nat.repr_ne_empty
  rw [Piece.tokens, lex_word hne hword, Option.getD_some]

/-- The tokens of a page are those of its window. -/
lemma tokens_pageClause (page : Page) : page.clause.tokens = windowTokens page.window := by
  have hlimit : (Piece.verbatim " LIMIT ").tokens = [.word "LIMIT"] := by decide
  have hoffset : (Piece.verbatim " OFFSET ").tokens = [.word "OFFSET"] := by decide
  have hplain (n : UInt64) := Piece.isPlain_toString n.toNat
  have hword (n : UInt64) := tokens_number n.toNat
  rw [Page.clause]
  split
  · rename_i h
    rw [h]
    rfl
  · rename_i limit h
    rw [h, tokens_cons, tokens_verbatim_append (by decide) (hplain limit) (.inl (by decide)),
      hlimit, hword]
    rfl
  · rename_i limit offset h
    have hlater : (Piece.verbatim (" OFFSET " ++ toString offset.toNat)).isPlain = true := by
      rw [Piece.isPlain_append, hplain]
      decide
    have hnumbers : (Piece.verbatim (toString limit.toNat ++
        (" OFFSET " ++ toString offset.toNat))).isPlain = true := by
      rw [Piece.isPlain_append, hplain, hlater]
      rfl
    rw [h, tokens_cons, String.append_assoc, String.append_assoc,
      tokens_verbatim_append (by decide) hnumbers (.inl (by decide)),
      tokens_verbatim_append (hplain limit) hlater (.inr (Piece.startsClear_append (by decide) _)),
      tokens_verbatim_append (by decide) (hplain offset) (.inl (by decide)), hlimit, hoffset, hword,
      hword]
    rfl

/-- The window of a page is read back. -/
lemma readWindow_clause (page : Page) : readWindow page.clause.tokens = some page.window := by
  rw [tokens_pageClause]
  rcases page.window with _ | ⟨limit, _ | offset⟩
  · rfl
  · rw [windowTokens, readWindow, number?_toString]
    rfl
  · rw [windowTokens, readWindow, number?_toString, number?_toString]
    rfl

lemma atClause_pageClause (page : Page) : AtClause ["LIMIT"] page.clause.tokens := by
  rw [tokens_pageClause]
  rcases page.window with _ | ⟨limit, _ | offset⟩
  · exact .inl rfl
  · exact .inr ⟨"LIMIT", by decide, _, rfl⟩
  · exact .inr ⟨"LIMIT", by decide, _, rfl⟩

/-! ## The whole statement -/

/-- A SELECT is read as what its query says. -/
lemma read_eq_selection {q : Query} {s : Statement} (h : Statement.select q = .ok s) :
    read s.sql = some q.selection := by
  obtain ⟨p, hp, htext⟩ := Statement.selectPage_eq_ok.mp h
  have hselect : (Piece.verbatim "SELECT * FROM ").tokens
      = [.word "SELECT", .mark '*', .word "FROM"] := by decide
  have htokens : s.text.tokens = .word "SELECT" :: .mark '*' :: .word "FROM" ::
      (tokens (qualified q.table) ++ (p.whereClause.tokens ++ (q.sort.clause.tokens ++
        q.page.clause.tokens))) := by
    simp [htext, hselect]
  have hpage := atClause_pageClause q.page
  have hsort := (atClause_sortClause q.sort).append hpage
  have hwhere := (atClause_whereClause p).append hsort
  rw [read, Statement.sql, lex_render (Statement.spaced_selectPage h), Option.bind_some, htokens,
    readTokens, readTable_qualified q.table hwhere.head?_ne]
  simp [readFilter_whereClause hp hsort, readSort_clause q.sort hpage, readWindow_clause,
    Query.selection]

end Selection

/-- The parts of a dotted name give the name back. -/
lemma SqlText.dottedParts_injective {a b : String} (h : dottedParts a = dottedParts b) :
    a = b := by
  have hsplit : a.toList.splitOn '.' = b.toList.splitOn '.' :=
    List.map_injective_iff.mpr (fun _ _ => String.ofList_injective) h
  have hjoin (name : String) : ['.'].intercalate (name.toList.splitOn '.') = name.toList :=
    List.intercalate_splitOn '.'
  rw [← String.toList_inj, ← hjoin a, hsplit, hjoin]

/-- **A SELECT reads back.**  The text of a SELECT is read as what its query says: the parts of the
table's name, the outline of the criteria, the order and the window.  Two queries with the same text
are over the same table, in the same order, with the same window and the same outline. -/
theorem Selection.read_select {q : Query} {s : Statement} (h : Statement.select q = .ok s) :
    read s.sql = some q.selection ∧
    ∀ q' s', Statement.select q' = .ok s' → s'.sql = s.sql →
      q'.table = q.table ∧ q'.sort = q.sort ∧ q'.page.window = q.page.window ∧
        Criterion.outlineOf q'.criteria = Criterion.outlineOf q.criteria := by
  refine ⟨read_eq_selection h, fun q' s' h' hsql => ?_⟩
  have hselection : q'.selection = q.selection := by
    have hread := read_eq_selection h'
    rw [hsql, read_eq_selection h] at hread
    exact (Option.some.inj hread).symm
  obtain ⟨htable, hfilter, hsort, hwindow⟩ := Selection.mk.inj hselection
  exact ⟨SqlText.dottedParts_injective htable, hsort, hwindow, hfilter⟩

/-- A query whose names spell out clauses, with a group of one member and an offset alone. -/
theorem Selection.read_select_clauses :
    ∃ s, Statement.select ⟨"db. WHERE `a", some (.group .and [
        .group .or [.compare " LIMIT 1" .gte (.int 1)],
        .group .and [.compare "" .like (.string "x"), .compare "?) OR (" .eq .null]]),
        ⟨[("a, b", .descending), (" ASC", .ascending)]⟩, ⟨none, some 7⟩⟩ = .ok s ∧
      read s.sql = some ⟨["db", " WHERE `a"], some (.group .and [
        .compare " LIMIT 1" .gte .null,
        .group .and [.compare "" .like .null, .compare "?) OR (" .eq .null]]),
        ⟨[("a, b", .descending), (" ASC", .ascending)]⟩, some (1000, some 7)⟩ := by
  have hread := (read_select (q := ⟨"db. WHERE `a", some (.group .and [
        .group .or [.compare " LIMIT 1" .gte (.int 1)],
        .group .and [.compare "" .like (.string "x"), .compare "?) OR (" .eq .null]]),
        ⟨[("a, b", .descending), (" ASC", .ascending)]⟩, ⟨none, some 7⟩⟩) rfl).1
  exact ⟨_, rfl, hread⟩

end TableGateway
