import TableGateway.Engine.Script
import TableGateway.Proofs.Sql.Condition
import TableGateway.Proofs.Sql.Insertion
import TableGateway.Proofs.Sql.Shape
import Mathlib.Algebra.GroupWithZero.Nat

/-!
# Placeholders and bound values

The n-th placeholder of a statement belongs to its n-th bound value.  What a placeholder stands for
is read off the text alone, from the clause it is in and the tokens directly before it; the values
are those of the operation.

* `Place` — what a placeholder stands for; `places` reads it for every placeholder of a text.
* `RowOperation.Binds` — the values of an operation in their order, each with its place: those of
  its criteria, of the fields it sets, and of the rows it inserts.
* `Scans` — what a stretch of text contributes to `places`, whatever stands around it.  Stretches
  are put together with `Scans.append` and `scans_join`.
* `placeholders_render`, `count_render` — the number of question marks outside names, and of all.
* **`places_build`** — the places that are read from a statement are those of its bound values.
-/

namespace TableGateway

open Sql

/-- What a placeholder stands for. -/
inductive Place where
  /-- The value that a column is set to. -/
  | assigned (column : String)
  /-- The value that a field is compared with. -/
  | compared (field : String) (operator : Operator)
  /-- The value of a column in a new row, both counted from zero. -/
  | inserted (row column : Nat)
  deriving DecidableEq, Repr

namespace Sql

/-! ## Places read from tokens -/

/-- The part of a statement that is being read. -/
inductive Part where
  | opening
  | assignments
  | condition
  /-- Among tuples, before a column of a row. -/
  | tuples (row column : Nat)
  deriving DecidableEq

/-- The part after a token. -/
def Part.after : Part → Token → Part
  | _, .word "SET" => .assignments
  | _, .word "WHERE" => .condition
  | _, .word "VALUES" => .tuples 0 0
  | .tuples row column, .placeholder => .tuples row (column + 1)
  | .tuples row _, .mark ')' => .tuples (row + 1) 0
  | here, _ => here

/-- What a placeholder stands for, by the tokens before it, the last one first. -/
def Part.place? : Part → List Token → Option Place
  | .assignments, .sign "=" :: .name column :: _ => some (.assigned column)
  | .condition, t :: .name field :: _ => (operator? t).map (.compared field)
  | .tuples row column, _ => some (.inserted row column)
  | _, _ => none

/-- What the placeholders stand for that are read on in a part, after the tokens before. -/
def placesFrom (here : Part) (before : List Token) : List Token → List (Option Place)
  | [] => []
  | t :: ts =>
    (if t = .placeholder then [here.place? before] else []) ++
      placesFrom (here.after t) (t :: before) ts

/-- What each placeholder stands for; nothing where the tokens do not tell. -/
def places (ts : List Token) : List (Option Place) :=
  placesFrom .opening [] ts

/-! ## Stretches of text -/

/-- Tokens between two parts have placeholders of these places, whatever stands around them. -/
def Scans (here : Part) (ts : List Token) (found : List Place) (there : Part) : Prop :=
  ∀ before rest, ∃ before',
    placesFrom here before (ts ++ rest) = found.map some ++ placesFrom there before' rest

lemma Scans.nil (here : Part) : Scans here [] [] here :=
  fun before _ => ⟨before, rfl⟩

theorem Scans.append {here there beyond : Part} {ts us : List Token} {found more : List Place}
    (h : Scans here ts found there) (h' : Scans there us more beyond) :
    Scans here (ts ++ us) (found ++ more) beyond := by
  intro before rest
  obtain ⟨before', hread⟩ := h before (us ++ rest)
  obtain ⟨before'', hread'⟩ := h' before' rest
  refine ⟨before'', ?_⟩
  rw [List.append_assoc, hread, hread', List.map_append, List.append_assoc]

/-- A token that is no placeholder stands for nothing. -/
lemma scans_token (here : Part) {t : Token} (h : t ≠ .placeholder) :
    Scans here [t] [] (here.after t) := by
  intro before rest
  refine ⟨t :: before, ?_⟩
  simp [placesFrom, h]

/-- A token that is no placeholder only moves the scan. -/
lemma Scans.cons {here there : Part} {t : Token} {ts : List Token} {found : List Place}
    (ht : t ≠ .placeholder) (h : Scans (here.after t) ts found there) :
    Scans here (t :: ts) found there :=
  (scans_token here ht).append h

/-- Tokens that are no placeholders and lead to no other part. -/
lemma scans_within {here : Part} {ts : List Token}
    (h : ∀ t ∈ ts, t ≠ .placeholder ∧ here.after t = here) : Scans here ts [] here := by
  induction ts with
  | nil => exact .nil here
  | cons t ts ih =>
    obtain ⟨⟨hne, hafter⟩, hrest⟩ := List.forall_mem_cons.mp h
    refine Scans.cons hne ?_
    rw [hafter]
    exact ih hrest

/-- Without placeholders there are no places, whatever part the tokens lead to. -/
lemma exists_scans (here : Part) {ts : List Token} (h : Token.placeholder ∉ ts) :
    ∃ there, Scans here ts [] there := by
  induction ts generalizing here with
  | nil => exact ⟨here, .nil here⟩
  | cons t ts ih =>
    have hne : t ≠ .placeholder := fun ht => h (ht ▸ List.mem_cons_self)
    obtain ⟨there, hrest⟩ := ih (here.after t) fun hmem => h (List.mem_cons_of_mem _ hmem)
    exact ⟨there, hrest.cons hne⟩

/-- A scan from the opening finds the places of the whole text. -/
lemma Scans.places_eq {there : Part} {ts : List Token} {found : List Place}
    (h : Scans .opening ts found there) : places ts = found.map some := by
  obtain ⟨before, hread⟩ := h [] []
  rw [List.append_nil] at hread
  rw [places, hread, placesFrom, List.append_nil]

/-- There is a place for each placeholder. -/
lemma length_placesFrom (here : Part) (before ts : List Token) :
    (placesFrom here before ts).length = ts.count .placeholder := by
  induction ts generalizing here before with
  | nil => rfl
  | cons t ts ih =>
    rw [placesFrom, List.length_append, ih, List.count_cons]
    by_cases ht : t = .placeholder
    · simp [ht, Nat.add_comm]
    · simp [ht]

/-- There is a place for every placeholder. -/
lemma length_places (ts : List Token) : (places ts).length = ts.count .placeholder :=
  length_placesFrom .opening [] ts

lemma map_zipIdx {α β : Type} (f : α → β) (as : List α) :
    as.zipIdx.map (fun e => f e.1) = as.map f :=
  calc as.zipIdx.map (fun e => f e.1) = (as.zipIdx.map Prod.fst).map f := List.map_map.symm
    _ = as.map f := by rw [List.zipIdx_map_fst]

open SqlText in
/-- Separated texts, where the part may count them and the separator leads to no other part. -/
theorem scans_join {α : Type} {separator : String} {mark : Token}
    (hseparator : (Piece.verbatim separator).tokens = [mark]) (hmark : mark ≠ .placeholder)
    (part : Nat → Part) (hpart : ∀ i, (part i).after mark = part i) (text : α → SqlText)
    (found : Nat → α → List Place) (as : List α)
    (h : ∀ i, ∀ a ∈ as, Scans (part i) (text a).tokens (found i a) (part (i + 1))) (start : Nat) :
    Scans (part start) (tokens (join separator (as.map text)))
      ((as.zipIdx start).flatMap fun e => found e.2 e.1) (part (start + as.length)) := by
  induction as generalizing start with
  | nil => exact .nil _
  | cons a as ih =>
    have ha := h start a List.mem_cons_self
    have hrest := ih (fun i b hb => h i b (List.mem_cons_of_mem _ hb)) (start + 1)
    cases as with
    | nil => simpa [join] using ha
    | cons b as =>
      -- the separator stays in the part that the first text leads to
      have hsep : Scans (part (start + 1)) [mark] [] (part (start + 1)) := by
        have hscan := scans_token (part (start + 1)) hmark
        rwa [hpart] at hscan
      have hall := ha.append (hsep.append hrest)
      have htokens : tokens (join separator ((a :: b :: as).map text))
          = (text a).tokens ++ ([mark] ++ tokens (join separator ((b :: as).map text))) := by
        simp [join, hseparator]
      have hlength : start + (a :: b :: as).length = start + 1 + (b :: as).length := by
        rw [List.length_cons]
        omega
      rw [htokens, List.zipIdx_cons, List.flatMap_cons, hlength]
      exact hall

end Sql

/-! ## Values with their places -/

/-- What the placeholder of a comparison stands for. -/
def Comparison.place (c : Comparison) : Place :=
  .compared c.field c.operator

/-- What a comparison binds: its value, or after LIKE the pattern of its value. -/
def Comparison.cell (c : Comparison) : Cell :=
  match c.operator with
  | .like => c.value.likePattern.toCell
  | .eq | .ne | .gt | .lt | .gte | .lte => c.value.toCell

/-- A comparison binds its cell. -/
lemma Comparison.param_eq_cell (c : Comparison) : c.param = c.cell := by
  rw [param, cell]
  cases c.operator <;> rfl

namespace Criterion

/-- The values that criteria bind, each with its place. -/
def boundOf (criteria : Option Criterion) : List (Place × Cell) :=
  criteria.elim [] fun c => c.comparisons.map fun x => (x.place, x.cell)

lemma leafCountAll_eq {members : List Criterion}
    (h : ∀ c ∈ members, c.leafCount = c.comparisons.length) :
    leafCountAll members = (comparisonsAll members).length := by
  induction members with
  | nil => rfl
  | cons c rest ih =>
    obtain ⟨hc, hrest⟩ := List.forall_mem_cons.mp h
    rw [leafCountAll, comparisonsAll, List.length_append, hc, ih hrest]

/-- A criterion has as many leaves as comparisons. -/
lemma leafCount_eq (c : Criterion) : c.leafCount = c.comparisons.length := by
  induction c using Criterion.induction with
  | comparison c => rfl
  | group kind members ih =>
    rw [leafCount, comparisons]
    exact leafCountAll_eq ih

end Criterion

namespace RowOperation

/-- The values that an operation binds in their order, each with its place. -/
inductive Binds : RowOperation → List (Place × Cell) → Prop where
  | select (q : Query) : Binds (.select q) (Criterion.boundOf q.criteria)
  | count (q : Query) (paginate : Bool) : Binds (.count q paginate) (Criterion.boundOf q.criteria)
  | delete (q : Query) : Binds (.delete q) (Criterion.boundOf q.criteria)
  /-- The fields that are set come before the criteria. -/
  | update (q : Query) (sets : Row) :
      Binds (.update q sets)
        (sets.fields.map (fun e => (.assigned e.1, e.2.toCell)) ++ Criterion.boundOf q.criteria)
  /-- At the place of a row and a column stands what the row binds for the name of the column. -/
  | insert (table : String) {fields : List String} {rows : List Row} {cell : Row → String → Cell}
      (h : ∀ row ∈ rows, ∀ name ∈ fields, row.Binds name (cell row name)) :
      Binds (.insert table fields rows) (rows.zipIdx.flatMap fun (row, i) =>
        fields.zipIdx.map fun (name, j) => (.inserted i j, cell row name))

/-- The values that are bound, as they are computed for a statement. -/
def bound : RowOperation → List (Place × Cell)
  | .select q | .count q _ | .delete q => Criterion.boundOf q.criteria
  | .update q sets =>
    sets.fields.map (fun e => (.assigned e.1, e.2.toCell)) ++ Criterion.boundOf q.criteria
  | .insert _ fields rows =>
    rows.zipIdx.flatMap fun (row, i) =>
      fields.zipIdx.map fun (name, j) => (.inserted i j, Statement.cellFor row name)

/-- What the builders bind is what an operation binds. -/
lemma binds_bound (r : RowOperation) : r.Binds r.bound := by
  cases r with
  | select q => exact .select q
  | count q paginate => exact .count q paginate
  | delete q => exact .delete q
  | update q sets => exact .update q sets
  | insert table fields rows =>
    exact .insert table fun row _ name _ => Statement.binds_cellFor row name

end RowOperation

/-! ## Predicates -/

namespace Predicate

open SqlText

/-- An operator keeps the scan within the condition, and is no placeholder. -/
lemma operator?_after {t : Token} {op : Operator} (h : operator? t = some op) :
    t ≠ .placeholder ∧ Part.condition.after t = .condition := by
  unfold operator? at h
  split at h
  all_goals first | exact ⟨by decide, rfl⟩ | simp at h

/-- A comparison has one placeholder, at its field and operator. -/
lemma scans_ofComparison (c : Comparison) :
    Scans .condition (ofComparison c).text.tokens [c.place] .condition := by
  obtain ⟨t, htoken, hop⟩ := operator?_token c.operator
  obtain ⟨hne, hafter⟩ := operator?_after hop
  intro before rest
  have htokens : (ofComparison c).text.tokens = [.name c.field, t, .placeholder] := by
    simp [ofComparison, Comparison.text, htoken]
  refine ⟨.placeholder :: t :: .name c.field :: before, ?_⟩
  have hname : Part.condition.after (.name c.field) = .condition := rfl
  have hplace : Part.condition.after .placeholder = .condition := rfl
  simp [htokens, placesFrom, hne, hname, hafter, hplace, Part.place?, hop, Comparison.place]

/-- The placeholders of a predicate stand for the comparisons of a criterion. -/
def ScansAs (c : Criterion) (p : Predicate) : Prop :=
  Scans .condition p.text.tokens (c.comparisons.map Comparison.place) .condition

/-- The members of a group are scanned in turn, by induction on their list. -/
lemma scans_members (kind : Combinator) {members : List Criterion} {parts : List Predicate}
    (h : List.Forall₂ ScansAs members parts) :
    Scans .condition (parts.flatMap fun p => .word kind.keyword :: p.text.tokens)
      ((Criterion.comparisonsAll members).map Comparison.place) .condition := by
  have hkeyword : Part.condition.after (.word kind.keyword) = .condition := by cases kind <;> rfl
  induction h with
  | nil => exact .nil _
  | cons hc _ ih =>
    rw [Criterion.comparisonsAll, List.map_append]
    refine (Scans.cons (by simp) ?_).append ih
    rw [hkeyword]
    exact hc

/-- A group is scanned as its members. -/
lemma scansAs_combine (kind : Combinator) {members : List Criterion} {parts : List Predicate}
    (h : List.Forall₂ ScansAs members parts) :
    ScansAs (.group kind members) (combine kind parts) := by
  cases h with
  | nil => exact .nil _
  | cons hc hrest =>
    rw [ScansAs, tokens_combine, Criterion.comparisons, Criterion.comparisonsAll, List.map_append]
    exact hc.append (scans_members kind hrest)

/-- Parentheses have no placeholder. -/
lemma scansAs_parenthesized (c : Criterion) (p : Predicate) (h : ScansAs c p) :
    ScansAs c p.parenthesized := by
  have hclose : Scans .condition [.mark ')'] [] .condition := scans_token .condition (by decide)
  have hall := h.append hclose
  rw [List.append_nil] at hall
  rw [ScansAs, tokens_parenthesized]
  exact hall.cons (by decide)

/-- The placeholders of criteria stand for their comparisons, from left to right. -/
lemma scansAs_ofCriteria {c : Criterion} {p : Predicate} (h : ofCriteria (some c) = .ok p) :
    ScansAs c p :=
  ofCriteria_induction (fun _ => .nil _) scans_ofComparison
    (fun kind _ _ hparts => scansAs_combine kind hparts) scansAs_parenthesized h

/-- Criteria bind the values of their comparisons, from left to right. -/
lemma params_ofCriteria {c : Criterion} {p : Predicate} (h : ofCriteria (some c) = .ok p) :
    p.params = c.comparisons.map Comparison.cell :=
  ofCriteria_induction (motive := fun c p => p.params = c.comparisons.map Comparison.cell)
    (fun _ => rfl) (fun c => congrArg (fun cell => [cell]) c.param_eq_cell)
    (fun _ _ _ hparts => flatMap_members hparts) (fun _ _ hc => hc) h

/-- The clause of a condition is scanned as the comparisons of the criteria. -/
lemma scans_whereClause {criteria : Option Criterion} {p : Predicate}
    (h : ofCriteria criteria = .ok p) (here : Part) :
    ∃ there, Scans here p.whereClause.tokens ((Criterion.boundOf criteria).map (·.1)) there := by
  cases criteria with
  | none =>
    obtain rfl : empty = p := by simpa [ofCriteria] using h
    exact ⟨here, .nil here⟩
  | some c =>
    have hplaces : (Criterion.boundOf (some c)).map (·.1) = c.comparisons.map Comparison.place := by
      simp [Criterion.boundOf]
    rw [tokens_whereClause, hplaces]
    by_cases hempty : p.text = []
    · -- Only a group without members has no text, and it has no comparisons either.
      obtain hnone | ⟨kind, hgroup⟩ := (text_eq_nil_iff h).mp hempty
      · simp at hnone
      · obtain rfl := Option.some.inj hgroup
        rw [hempty]
        exact ⟨here, .nil here⟩
    · rw [if_neg (by simpa using hempty)]
      exact ⟨.condition, (scansAs_ofCriteria h).cons (by simp)⟩

end Predicate

/-! ## Text without placeholders -/

namespace SqlText

/-- A piece of joined texts is the separator or in one of the texts. -/
lemma mem_join {separator : String} {texts : List SqlText} {p : Piece}
    (h : p ∈ join separator texts) : p = .verbatim separator ∨ ∃ t ∈ texts, p ∈ t := by
  induction texts with
  | nil => simp [join] at h
  | cons t rest ih =>
    cases rest with
    | nil => exact .inr ⟨t, List.mem_cons_self, h⟩
    | cons u rest =>
      rcases List.mem_append.mp h with ht | hrest
      · exact .inr ⟨t, List.mem_cons_self, ht⟩
      · rcases List.mem_cons.mp hrest with hsep | hrest
        · exact .inl hsep
        · obtain hsep | ⟨v, hv, hmem⟩ := ih hrest
          · exact .inl hsep
          · exact .inr ⟨v, List.mem_cons_of_mem _ hv, hmem⟩

/-- Plain pieces without a placeholder have no token of one. -/
lemma placeholder_notMem_tokens {text : SqlText} (hplain : ∀ p ∈ text, p.isPlain = true)
    (h : Piece.placeholder ∉ text) : Token.placeholder ∉ text.tokens := by
  intro hmem
  obtain ⟨p, hp, ht⟩ := List.mem_flatMap.mp hmem
  cases p with
  | verbatim s => exact absurd (Piece.isFixed_of_verbatim (hplain _ hp) _ ht) (by decide)
  | name s => simp at ht
  | placeholder => exact h hp

end SqlText

/-- No value is bound in the order of a selection. -/
lemma SortOrder.placeholder_notMem_clause (sort : SortOrder) :
    Piece.placeholder ∉ sort.clause := by
  rw [clause]
  split
  · simp
  · intro hmem
    rcases List.mem_cons.mp hmem with hkeyword | hmem
    · simp at hkeyword
    · obtain hsep | ⟨t, ht, hmem⟩ := SqlText.mem_join hmem
      · simp at hsep
      · obtain ⟨e, -, rfl⟩ := List.mem_map.mp ht
        simp at hmem

lemma Page.placeholder_notMem_clause (page : Page) : Piece.placeholder ∉ page.clause := by
  rw [clause]
  split
  · simp
  · simp
  · simp

/-! ## Statements -/

namespace Statement

open SqlText

variable {q : Query} {s : Statement}

lemma tokens_comma : (Piece.verbatim ", ").tokens = [.mark ','] := by decide

/-- Names between marks are no placeholders. -/
lemma scans_names {separator : String} {mark : Token}
    (hseparator : (Piece.verbatim separator).tokens = [mark])
    (hmark : mark ≠ .placeholder ∧ Part.opening.after mark = .opening) (names : List String) :
    Scans .opening (tokens (join separator (names.map fun name => [.name name]))) [] .opening := by
  refine scans_within fun t ht => ?_
  obtain ⟨p, hp, ht⟩ := List.mem_flatMap.mp ht
  obtain rfl | ⟨u, hu, hp⟩ := mem_join hp
  · obtain rfl : t = mark := by simpa [hseparator] using ht
    exact hmark
  · obtain ⟨name, -, rfl⟩ := List.mem_map.mp hu
    obtain rfl : p = .name name := by simpa using hp
    obtain rfl : t = .name name := by simpa using ht
    exact ⟨by simp, rfl⟩

lemma scans_qualified (name : String) : Scans .opening (qualified name).tokens [] .opening := by
  have hdot : (Piece.verbatim ".").tokens = [.mark '.'] := by decide
  exact scans_names hdot (by decide) (dottedParts name)

/-- A selection is scanned as its criteria. -/
lemma scans_selectPage {page : Page} (h : selectPage q page = .ok s) :
    ∃ there, Scans .opening s.text.tokens ((Criterion.boundOf q.criteria).map (·.1)) there := by
  obtain ⟨p, hp, rfl⟩ := selectPage_eq_ok.mp h
  have hselect : Scans .opening (Piece.verbatim "SELECT * FROM ").tokens [] .opening :=
    scans_within (by decide)
  obtain ⟨there, hwhere⟩ := Predicate.scans_whereClause hp .opening
  have htail : Token.placeholder ∉ (q.sort.clause ++ page.clause).tokens := by
    refine placeholder_notMem_tokens ?_ ?_
    · exact (q.sort.clause_clause.append page.clause_clause).spaced.plain
    · rw [List.mem_append, not_or]
      exact ⟨q.sort.placeholder_notMem_clause, page.placeholder_notMem_clause⟩
  obtain ⟨beyond, hrest⟩ := exists_scans there htail
  refine ⟨beyond, ?_⟩
  have hall := ((hselect.append (scans_qualified q.table)).append hwhere).append hrest
  simpa using hall

lemma scans_count {paginate : Bool} (h : count q paginate = .ok s) :
    ∃ there, Scans .opening s.text.tokens ((Criterion.boundOf q.criteria).map (·.1)) there := by
  obtain ⟨inner, hinner, rfl⟩ := count_eq_ok.mp h
  have hcount : Scans .opening (Piece.verbatim "SELECT COUNT(*) AS count FROM (").tokens []
      .opening := scans_within (by decide)
  obtain ⟨there, hselect⟩ := scans_selectPage hinner
  have htail : Token.placeholder ∉ (Piece.verbatim ") AS a").tokens := by decide
  obtain ⟨beyond, hrest⟩ := exists_scans there htail
  refine ⟨beyond, ?_⟩
  have hall := (hcount.append hselect).append hrest
  simpa using hall

/-- An assignment has one placeholder, at the field it sets. -/
lemma scans_assignment (name : String) :
    Scans .assignments (tokens [.name name, .verbatim " = ", .placeholder]) [.assigned name]
      .assignments := by
  have hequals : (Piece.verbatim " = ").tokens = [.sign "="] := by decide
  intro before rest
  refine ⟨.placeholder :: .sign "=" :: .name name :: before, ?_⟩
  simp [hequals, placesFrom, Part.after, Part.place?]

/-- An update is scanned as its assignments and then its criteria. -/
lemma scans_update {sets : Row} (h : update q sets = .ok s) :
    ∃ there, Scans .opening s.text.tokens ((RowOperation.update q sets).bound.map (·.1)) there := by
  obtain ⟨-, p, hp, rfl⟩ := update_eq_ok.mp h
  have hupdate : Scans .opening (Piece.verbatim "UPDATE ").tokens [] .opening :=
    scans_within (by decide)
  have hset : Scans .opening (Piece.verbatim " SET ").tokens [] .assignments :=
    scans_token .opening (t := .word "SET") (by decide)
  have hassignments : Scans .assignments
      (join ", " (sets.names.map fun name => [.name name, .verbatim " = ", .placeholder])).tokens
      (sets.names.map .assigned) .assignments := by
    have hjoin := scans_join tokens_comma (by decide) (fun _ => .assignments) (fun _ => rfl)
      (fun name => [.name name, .verbatim " = ", .placeholder]) (fun _ name => [.assigned name])
      sets.names (fun _ name _ => scans_assignment name) 0
    rwa [← List.map_eq_flatMap, map_zipIdx] at hjoin
  obtain ⟨there, hwhere⟩ := Predicate.scans_whereClause hp .assignments
  refine ⟨there, ?_⟩
  have hall := (((hupdate.append (scans_qualified q.table)).append hset).append hassignments).append
    hwhere
  simpa [RowOperation.bound, Row.names, Function.comp_def] using hall

lemma scans_delete (h : delete q = .ok s) :
    ∃ there, Scans .opening s.text.tokens ((Criterion.boundOf q.criteria).map (·.1)) there := by
  obtain ⟨p, hp, rfl⟩ := delete_eq_ok.mp h
  have hdelete : Scans .opening (Piece.verbatim "DELETE FROM ").tokens [] .opening :=
    scans_within (by decide)
  obtain ⟨there, hwhere⟩ := Predicate.scans_whereClause hp .opening
  refine ⟨there, ?_⟩
  have hall := (hdelete.append (scans_qualified q.table)).append hwhere
  simpa using hall

/-- A placeholder of a tuple is at its row and column, and the next one is a column further. -/
lemma scans_placeholder (row column : Nat) :
    Scans (.tuples row column) (tokens [.placeholder]) [.inserted row column]
      (.tuples row (column + 1)) := by
  intro before rest
  exact ⟨.placeholder :: before, rfl⟩

/-- The placeholders of a tuple stand for the columns of its row. -/
lemma scans_tuple (row : Nat) (fields : List String) :
    Scans (.tuples row 0) (tuple fields.length).tokens
      (fields.zipIdx.map fun e => .inserted row e.2) (.tuples (row + 1) 0) := by
  have hopen : Scans (.tuples row 0) (Piece.verbatim "(").tokens [] (.tuples row 0) :=
    scans_token _ (t := .mark '(') (by decide)
  have hplaces := scans_join tokens_comma (by decide) (Part.tuples row) (fun _ => rfl)
    (fun _ => [.placeholder]) (fun column _ => [.inserted row column]) fields
    (fun column _ _ => scans_placeholder row column) 0
  have hclose : Scans (.tuples row (0 + fields.length)) (Piece.verbatim ")").tokens []
      (.tuples (row + 1) 0) := scans_token _ (t := .mark ')') (by decide)
  have hall := (hopen.append hplaces).append hclose
  rw [← List.map_eq_flatMap, List.map_const'] at hall
  simpa [tuple] using hall

/-- An insertion is scanned row by row, and within a row column by column. -/
lemma scans_insert {table : String} {fields : List String} {rows : List Row}
    (h : insert table fields rows = .ok s) :
    ∃ there, Scans .opening s.text.tokens
      ((RowOperation.insert table fields rows).bound.map (·.1)) there := by
  obtain ⟨-, -, rfl⟩ := insert_eq_ok.mp h
  have hinsert : Scans .opening (Piece.verbatim "INSERT INTO ").tokens [] .opening :=
    scans_within (by decide)
  have hopen : Scans .opening (Piece.verbatim " (").tokens [] .opening := scans_within (by decide)
  have hcolumns := scans_names tokens_comma (by decide) fields
  have hvalues : Scans .opening (Piece.verbatim ") VALUES ").tokens [] (.tuples 0 0) :=
    (scans_token (.tuples 0 0) (t := .word "VALUES") (by decide)).cons (t := .mark ')') (by decide)
  have htuples := scans_join tokens_comma (by decide) (fun row => .tuples row 0) (fun _ => rfl)
    (fun _ : Row => tuple fields.length) (fun row _ => fields.zipIdx.map fun e => .inserted row e.2)
    rows (fun row _ _ => scans_tuple row fields) 0
  refine ⟨.tuples (0 + rows.length) 0, ?_⟩
  have hall := ((((hinsert.append (scans_qualified table)).append hopen).append hcolumns).append
    hvalues).append htuples
  simpa [RowOperation.bound, List.map_flatMap, Function.comp_def] using hall

end Statement

/-- The placeholders of a statement stand for the values that its operation binds. -/
lemma RowOperation.scans_build {r : RowOperation} {s : Statement} (h : r.build = .ok s) :
    ∃ there, Scans .opening s.text.tokens (r.bound.map (·.1)) there := by
  cases r with
  | select q => exact Statement.scans_selectPage h
  | count q paginate => exact Statement.scans_count h
  | update q sets => exact Statement.scans_update h
  | delete q => exact Statement.scans_delete h
  | insert table fields rows => exact Statement.scans_insert h

/-- A predicate binds the cells of its comparisons in their order. -/
lemma Predicate.params_boundOf {criteria : Option Criterion} {p : Predicate}
    (h : ofCriteria criteria = .ok p) : p.params = (Criterion.boundOf criteria).map (·.2) := by
  cases criteria with
  | none =>
    obtain rfl : empty = p := by simpa [ofCriteria] using h
    rfl
  | some c => simp [params_ofCriteria h, Criterion.boundOf]

/-- The values of a statement are those that its operation binds. -/
lemma RowOperation.params_build {r : RowOperation} {s : Statement} (h : r.build = .ok s) :
    s.params = r.bound.map (·.2) := by
  cases r with
  | select q =>
    obtain ⟨p, hp, rfl⟩ := Statement.selectPage_eq_ok.mp h
    exact Predicate.params_boundOf hp
  | count q paginate =>
    obtain ⟨inner, hinner, rfl⟩ := Statement.count_eq_ok.mp h
    obtain ⟨p, hp, rfl⟩ := Statement.selectPage_eq_ok.mp hinner
    exact Predicate.params_boundOf hp
  | update q sets =>
    obtain ⟨-, p, hp, rfl⟩ := Statement.update_eq_ok.mp h
    simp [bound, Predicate.params_boundOf hp, Row.values, Function.comp_def]
  | delete q =>
    obtain ⟨p, hp, rfl⟩ := Statement.delete_eq_ok.mp h
    exact Predicate.params_boundOf hp
  | insert table fields rows =>
    obtain ⟨-, -, rfl⟩ := Statement.insert_eq_ok.mp h
    have hrow (row : Row) (i : Nat) : (fields.zipIdx.map fun e =>
        (Place.inserted i e.2, Statement.cellFor row e.1)).map (·.2)
          = fields.map (Statement.cellFor row) := by
      rw [List.map_map]
      exact map_zipIdx (Statement.cellFor row) fields
    rw [bound, List.map_flatMap]
    simp only [hrow]
    rw [List.flatMap_def, List.flatMap_def,
      map_zipIdx fun row => fields.map (Statement.cellFor row)]

/-! ## Question marks counted in the text -/

namespace Piece

/-- A plain character is neither a placeholder nor a quote. -/
lemma ne_of_isPlain {c : Char} (h : Sql.isPlain c = true) : c ≠ '?' ∧ c ≠ backtick := by
  refine ⟨?_, ?_⟩
  · rintro rfl
    exact absurd h (by decide)
  · rintro rfl
    exact absurd h (by decide)

lemma count_tokens_verbatim {text : String} (h : (verbatim text).isPlain = true) :
    (verbatim text).tokens.count .placeholder = 0 := by
  refine List.count_eq_zero.mpr fun hmem => ?_
  exact absurd (isFixed_of_verbatim h _ hmem) (by decide)

/-- The server counts no placeholder in plain text. -/
lemma placeholdersFrom_plain {cs : List Char} (h : ∀ c ∈ cs, Sql.isPlain c = true)
    (rest : List Char) :
    Script.placeholdersFrom false (cs ++ rest) = Script.placeholdersFrom false rest := by
  induction cs with
  | nil => rfl
  | cons c cs ih =>
    obtain ⟨hmark, htick⟩ := ne_of_isPlain (h c List.mem_cons_self)
    have hrest := ih fun d hd => h d (List.mem_cons_of_mem _ hd)
    simp [Script.placeholdersFrom, hmark, htick, hrest]

/-- Inside a name nothing is counted, and its doubled backticks lead back into it. -/
lemma placeholdersFrom_doubled (cs rest : List Char) :
    Script.placeholdersFrom true (doubled cs ++ rest) = Script.placeholdersFrom true rest := by
  induction cs with
  | nil => rfl
  | cons c cs ih =>
    by_cases hc : c = backtick
    · simp [doubled, hc, Script.placeholdersFrom, ih]
    · simp [doubled, hc, Script.placeholdersFrom, ih]

/-- The server counts the placeholders of a piece as its tokens do. -/
lemma placeholdersFrom_chars {p : Piece} (hp : p.isPlain = true) (rest : List Char) :
    Script.placeholdersFrom false (p.chars ++ rest)
      = p.tokens.count .placeholder + Script.placeholdersFrom false rest := by
  cases p with
  | verbatim text =>
    rw [count_tokens_verbatim hp, Nat.zero_add]
    exact placeholdersFrom_plain (List.all_eq_true.mp hp) rest
  | name text =>
    simp [chars, quote, Script.placeholdersFrom, placeholdersFrom_doubled]
  | placeholder =>
    have htick : '?' ≠ backtick := by decide
    simp [chars, Script.placeholdersFrom, htick]

/-- Doubled quotes leave the number of question marks as it is. -/
lemma count_doubled (cs : List Char) : (doubled cs).count '?' = cs.count '?' := by
  have htick : backtick ≠ '?' := by decide
  induction cs with
  | nil => rfl
  | cons c cs ih =>
    by_cases hc : c = backtick
    · simp [doubled, hc, htick, ih]
    · simp [doubled, hc, List.count_cons, ih]

/-- The question marks of a piece: a placeholder is one, and a name has its own. -/
lemma count_chars {p : Piece} (hp : p.isPlain = true) :
    p.chars.count '?' = p.tokens.count .placeholder +
      ((p.tokens.filterMap Token.name?).map fun name => name.toList.count '?').sum := by
  rw [name?_tokens hp]
  cases p with
  | verbatim text =>
    have hzero : text.toList.count '?' = 0 := List.count_eq_zero.mpr fun hmem =>
      (ne_of_isPlain (List.all_eq_true.mp hp _ hmem)).1 rfl
    simp [chars, count_tokens_verbatim hp, name?, hzero]
  | name text =>
    have htick : backtick ≠ '?' := by decide
    simp [chars, quote, name?, count_doubled, htick]
  | placeholder => simp [chars, name?]

end Piece

namespace SqlText

/-- The question marks outside names are the placeholders. -/
theorem placeholders_render {text : SqlText} (h : ∀ p ∈ text, p.isPlain = true) :
    Script.placeholders text.render = text.tokens.count .placeholder := by
  rw [Script.placeholders, render, String.toList_ofList]
  induction text with
  | nil => rfl
  | cons p text ih =>
    obtain ⟨hp, htext⟩ := List.forall_mem_cons.mp h
    rw [List.flatMap_cons, Piece.placeholdersFrom_chars hp, ih htext, tokens_cons,
      List.count_append]

/-- All question marks are the placeholders and those of the names. -/
theorem count_render {text : SqlText} (h : ∀ p ∈ text, p.isPlain = true) :
    text.render.toList.count '?' = text.tokens.count .placeholder +
      ((text.tokens.filterMap Token.name?).map fun name => name.toList.count '?').sum := by
  rw [render, String.toList_ofList]
  induction text with
  | nil => rfl
  | cons p text ih =>
    obtain ⟨hp, htext⟩ := List.forall_mem_cons.mp h
    rw [List.flatMap_cons, List.count_append, Piece.count_chars hp, ih htext, tokens_cons,
      List.count_append, List.filterMap_append, List.map_append, List.sum_append]
    omega

end SqlText

/-- Nothing is bound exactly if there is no value. -/
lemma Statement.binding_eq_empty {s : Statement} : s.binding = .empty ↔ s.params = [] := by
  rw [binding]
  cases s.params with
  | nil => simp
  | cons p params => simp

/-- **Placeholders line up with bound values.**  What the placeholders of a statement stand for,
read off its text, are the places of the values that the operation binds, in their order.  So there
are as many of them as values; the driver is handed none exactly if there is none; and what else
there is of question marks stands in the names.  Criteria bind the values of their comparisons from
left to right, as many as they have. -/
theorem Sql.places_build :
    (∀ (r : RowOperation) (s : Statement), r.build = .ok s →
      ∃ ts bound, lex s.sql = some ts ∧ r.Binds bound ∧
        places ts = bound.map (fun b => some b.1) ∧ s.params = bound.map (·.2) ∧
        Script.placeholders s.sql = s.params.length ∧
        (s.binding = .empty ↔ Script.placeholders s.sql = 0) ∧
        s.questionMarks = s.params.length +
          ((ts.filterMap Token.name?).map fun name => name.toList.count '?').sum) ∧
    ∀ (c : Criterion) (p : Predicate), Predicate.ofCriteria (some c) = .ok p →
      p.params = c.comparisons.map Comparison.cell ∧ p.params.length = c.leafCount := by
  refine ⟨fun r s h => ?_, fun c p h => ?_⟩
  · have hspaced := RowOperation.spaced_build h
    obtain ⟨there, hscans⟩ := RowOperation.scans_build h
    have hplaces : places s.text.tokens = r.bound.map (fun b => some b.1) := by
      rw [hscans.places_eq, List.map_map]
      rfl
    have hparams := RowOperation.params_build h
    have hcount : s.text.tokens.count .placeholder = s.params.length := by
      rw [← length_places, hplaces, hparams, List.length_map, List.length_map]
    have hdriver : Script.placeholders s.sql = s.params.length := by
      rw [Statement.sql, SqlText.placeholders_render hspaced.plain, hcount]
    refine ⟨s.text.tokens, r.bound, SqlText.lex_render hspaced, r.binds_bound, hplaces, hparams,
      hdriver, ?_, ?_⟩
    · rw [Statement.binding_eq_empty, hdriver, List.length_eq_zero_iff]
    · rw [Statement.questionMarks, Statement.sql, SqlText.count_render hspaced.plain, hcount]
  · have hparams := Predicate.params_ofCriteria h
    exact ⟨hparams, by rw [hparams, List.length_map, c.leafCount_eq]⟩

/-- Names that have question marks: in an update that sets and compares the same column, and in an
insertion whose first row has no value for the first column. -/
theorem Sql.places_build_named :
    (∃ s ts, (RowOperation.update ⟨"t?", some (.group .or [
        .compare "a?\x60" .like (.string "x"), .group .and [.compare "b" .eq (.int 2)]]),
        .empty, .all⟩ (.ofList [("b", .int 1)])).build = .ok s ∧
      lex s.sql = some ts ∧
      places ts = [some (.assigned "b"), some (.compared "a?\x60" .like),
        some (.compared "b" .eq)] ∧
      s.params = [.int 1, (Value.string "x").likePattern.toCell, .int 2] ∧ s.questionMarks = 5) ∧
    ∃ s ts, (RowOperation.insert "t?" ["a?", "b"] [.ofList [("b", .int 1)],
        .ofList [("a?", .string "x"), ("b", .int 2)]]).build = .ok s ∧
      lex s.sql = some ts ∧
      places ts = [some (.inserted 0 0), some (.inserted 0 1), some (.inserted 1 0),
        some (.inserted 1 1)] ∧
      s.params = [.null, .int 1, .text "x", .int 2] ∧ s.questionMarks = 6 := by
  refine ⟨?_, ?_⟩
  · obtain ⟨ts, bound, hlex, hbinds, hplaces, hparams, -⟩ := places_build.1 (.update ⟨"t?",
      some (.group .or [.compare "a?\x60" .like (.string "x"),
        .group .and [.compare "b" .eq (.int 2)]]), .empty, .all⟩ (.ofList [("b", .int 1)])) _ rfl
    cases hbinds
    exact ⟨_, ts, rfl, hlex, hplaces, hparams, by decide⟩
  · obtain ⟨ts, bound, hlex, hbinds, hplaces, -, -⟩ := places_build.1 (.insert "t?" ["a?", "b"]
      [.ofList [("b", .int 1)], .ofList [("a?", .string "x"), ("b", .int 2)]]) _ rfl
    cases hbinds
    exact ⟨_, ts, rfl, hlex, hplaces, rfl, by decide⟩

end TableGateway
