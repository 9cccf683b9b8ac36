import TableGateway.Proofs.Json
import TableGateway.Proofs.Sql.Selection
import TableGateway.Wire.Records

/-!
# Sort orders

A sort order is given entry by entry in the program, collected from a list, or decoded from one of
two documents.  All of them are the same list of entries, and the clause of a statement shows just
that list.

* `SortOrder.pairs`, `SortOrder.members` — the two documents of entries.
* `SortOrder.text`, `SortOrder.read` — the clause of entries, written by itself and read back.
* `Wire.SortFormed`, `Wire.SortFault` — entries of a document as they should be, and what is wrong
  with any other.
* `Wire.sortOf_object` — an object is decoded as the list of its members.
* **`Wire.sortOf_agrees`** — all ways of giving a sort order agree, and the first fault is reported.
-/

namespace TableGateway

/-! ## Numbers with a sign -/

namespace Json

/-- The document for a signed number. -/
def ofSigned (n : Int64) : Json :=
  .number (.integer n.toInt (Value.int64_inRange n))

/-- Only the document for a signed number is read as one. -/
lemma signed?_eq_some {j : Json} {n : Int64} : j.signed? = some n ↔ j = ofSigned n := by
  constructor
  · intro h
    match j, h with
    | .number (.integer value ⟨hlow, hhigh⟩), h =>
      obtain ⟨hvalue, hn⟩ := Option.ite_none_right_eq_some.mp h
      obtain rfl := Option.some.inj hn
      have hint : (Int64.ofInt value).toInt = value := Int64.toInt_ofInt_of_le hlow hvalue
      simp only [ofSigned, hint]
  · rintro rfl
    have hsigned : n.toInt < 0x8000000000000000 := n.toInt_lt
    rw [ofSigned, signed?, Number.signed?, if_pos hsigned, Int64.ofInt_toInt]

/-- What is not read as signed is no signed number. -/
lemma signed?_eq_none {j : Json} : j.signed? = none ↔ ∀ n, j ≠ ofSigned n := by
  rw [Option.eq_none_iff_forall_ne_some]
  exact forall_congr' fun n => not_congr signed?_eq_some

end Json

/-! ## Entries as documents and as text -/

namespace SortOrder

/-- Entries as a list of pairs. -/
def pairs (entries : List (String × Int64)) : Json :=
  .array (entries.map fun e => .array [.string e.1, .ofSigned e.2])

/-- Entries as an object. -/
def members (entries : List (String × Int64)) : Json :=
  .ofMembers (entries.map fun e => (e.1, .ofSigned e.2))

/-- Entries as the clause of a statement. -/
def text (entries : List (String × Int64)) : String :=
  if entries = [] then ""
  else " ORDER BY " ++ ", ".intercalate
    (entries.map fun e => String.ofList (Piece.quote e.1) ++ if 0 < e.2 then " ASC" else " DESC")

/-- The order that a clause asks for, provided that nothing comes after it. -/
def read (clause : String) : Option SortOrder := do
  match ← Selection.readSort (← Sql.lex clause) with
  | (sort, []) => some sort
  | _ => none

/-- An order that is built up entry by entry is the list of them. -/
lemma foldl_andThen (entries : List (String × Int64)) (sort : SortOrder) :
    entries.foldl (fun sort e => sort.andThen e.1 (.ofSigned e.2)) sort =
      ⟨sort.entries ++ (ofSigned entries).entries⟩ := by
  induction entries generalizing sort with
  | nil => simp [ofSigned]
  | cons e rest ih =>
    rw [List.foldl_cons, ih]
    simp [andThen, ofSigned]

/-- The text of an order. -/
lemma render_clause (entries : List (String × Int64)) :
    (ofSigned entries).clause.render = text entries := by
  have hentry (e : String × Int64) :
      SqlText.render [.name e.1, .verbatim (" " ++ (Direction.ofSigned e.2).keyword)] =
        String.ofList (Piece.quote e.1) ++ if 0 < e.2 then " ASC" else " DESC" := by
    rw [SqlText.render_cons, SqlText.render_verbatim, Direction.ofSigned]
    split
    · rfl
    · rfl
  cases entries with
  | nil => rfl
  | cons e rest =>
    rw [clause, if_neg (by simp [isEmpty, ofSigned]), SqlText.render_verbatim, SqlText.render_join,
      List.map_map, ofSigned, List.map_map, text, if_neg (List.cons_ne_nil _ _)]
    exact congrArg (" ORDER BY " ++ ", ".intercalate ·) (List.map_congr_left fun e _ => hentry e)

/-- A clause is read as the order that it was written for, whatever the names of the fields. -/
lemma read_clause (sort : SortOrder) : read sort.clause.render = some sort := by
  have hread : Selection.readSort (sort.clause.tokens ++ []) = some (sort, []) :=
    Selection.readSort_clause sort (.inl rfl)
  rw [List.append_nil] at hread
  rw [read, SqlText.lex_render sort.clause_clause.spaced, Option.bind_eq_bind, Option.bind_some,
    hread]
  rfl

/-- Only an empty order has no text. -/
lemma text_eq_empty {entries : List (String × Int64)} : text entries = "" ↔ entries = [] := by
  constructor
  · intro h
    by_contra hne
    rw [text, if_neg hne] at h
    exact absurd (String.append_eq_empty_iff.mp h).1 (by decide)
  · rintro rfl
    rfl

end SortOrder

/-! ## Documents decoded -/

namespace Wire

/-- An entry of a sort document: a field with a signed number. -/
def SortFormed (entry : Json) : Prop :=
  ∃ field n, entry = .array [.string field, .ofSigned n]

/-- What is wrong with an entry: it is no pair of a field and something, or the something is no
signed number. -/
inductive SortFault : Json → WireError → Prop where
  | noPair {entry : Json} (h : ∀ field dir, entry ≠ .array [.string field, dir]) :
      SortFault entry (.notAnObject "sort entry")
  | noDirection {field : String} {dir : Json} (h : ∀ n, dir ≠ .ofSigned n) :
      SortFault (.array [.string field, dir]) (.badDirection field)

/-- The field and the direction of an entry. -/
def sortEntry (entry : Json) : Except WireError (String × Direction) := do
  let (field, dir) ← sortPair entry
  let direction ← directionOf field dir
  .ok (field, direction)

/-- Pairs are read from left to right. -/
lemma sortPairs_cons (entry : Json) (rest : List Json) :
    sortPairs (entry :: rest) = (do
      let e ← sortEntry entry
      let others ← sortPairs rest
      .ok (e :: others)) := by
  simp only [sortPairs, sortEntry, bind_assoc]
  rfl

/-- An object is decoded as the list of its members. -/
theorem sortOf_object (members : List (String × Json)) :
    sortOf (.object members) = sortOf (.array (members.map fun m => .array [.string m.1, m.2])) := by
  have hmembers : sortMembers members =
      sortPairs (members.map fun m => .array [.string m.1, m.2]) := by
    induction members with
    | nil => rfl
    | cons m rest ih =>
      rw [sortMembers, ih]
      rfl
  rw [sortOf, hmembers, sortOf]

section

variable {entry : Json} {entries : List Json} {e : WireError}

/-- A pair of a field and a number is read. -/
lemma sortEntry_formed (field : String) (n : Int64) :
    sortEntry (.array [.string field, .ofSigned n]) = .ok (field, .ofSigned n) := by
  have hdir : directionOf field (.ofSigned n) = .ok (.ofSigned n) := by
    rw [directionOf, Json.signed?_eq_some.mpr rfl]
  change (directionOf field (.ofSigned n) >>= fun direction => .ok (field, direction)) = _
  rw [hdir]
  rfl

/-- A faulty entry fails with its fault. -/
lemma SortFault.sortEntry_eq (h : SortFault entry e) : sortEntry entry = .error e := by
  cases h with
  | noPair h =>
    have hpair : sortPair entry = .error (.notAnObject "sort entry") := by
      rw [sortPair]
      exact h
    rw [sortEntry, hpair]
    rfl
  | @noDirection field dir h =>
    have hdir : directionOf field dir = .error (.badDirection field) := by
      rw [directionOf, Json.signed?_eq_none.mpr h]
    change (directionOf field dir >>= fun direction => .ok (field, direction)) = _
    rw [hdir]
    rfl

/-- An entry is well-formed or has a fault. -/
lemma formed_or_fault (entry : Json) : SortFormed entry ∨ ∃ e, SortFault entry e := by
  by_cases hpair : ∃ field dir, entry = .array [.string field, dir]
  · obtain ⟨field, dir, rfl⟩ := hpair
    by_cases hdir : ∃ n, dir = .ofSigned n
    · obtain ⟨n, rfl⟩ := hdir
      exact .inl ⟨field, n, rfl⟩
    · exact .inr ⟨_, .noDirection fun n hn => hdir ⟨n, hn⟩⟩
  · exact .inr ⟨_, .noPair fun field dir h => hpair ⟨field, dir, h⟩⟩

/-- An entry is decoded exactly if it is well-formed. -/
lemma exists_sortEntry : (∃ s, sortEntry entry = .ok s) ↔ SortFormed entry := by
  constructor
  · rintro ⟨s, hs⟩
    obtain hformed | ⟨e, hfault⟩ := formed_or_fault entry
    · exact hformed
    · simp [hfault.sortEntry_eq] at hs
  · rintro ⟨field, n, rfl⟩
    exact ⟨_, sortEntry_formed field n⟩

/-- An entry fails exactly with its fault. -/
lemma sortEntry_eq_error : sortEntry entry = .error e ↔ SortFault entry e := by
  refine ⟨fun h => ?_, SortFault.sortEntry_eq⟩
  obtain ⟨field, n, rfl⟩ | ⟨e', hfault⟩ := formed_or_fault entry
  · simp [sortEntry_formed] at h
  · rw [hfault.sortEntry_eq] at h
    exact Except.error.inj h ▸ hfault

/-- A list is read entry by entry. -/
lemma sortOf_eq_ok {sort : SortOrder} : sortOf (.array entries) = .ok sort ↔
    List.Forall₂ (fun entry s => sortEntry entry = .ok s) entries sort.entries := by
  obtain ⟨ss⟩ := sort
  rw [← sequence_eq_ok sortEntry sortPairs rfl sortPairs_cons, sortOf, bind_eq_ok]
  simp [pure, Except.pure]

/-- The first entry that is not well-formed is reported. -/
lemma sortOf_eq_error : sortOf (.array entries) = .error e ↔
    ∃ before bad after, entries = before ++ bad :: after ∧
      (∀ entry ∈ before, SortFormed entry) ∧ SortFault bad e := by
  have hpairs : sortOf (.array entries) = .error e ↔ sortPairs entries = .error e := by
    rw [sortOf]
    cases sortPairs entries with
    | error e' => simp [bind, Except.bind]
    | ok ss => simp [bind, Except.bind, pure, Except.pure]
  rw [hpairs, sequence_eq_error sortEntry sortPairs rfl sortPairs_cons]
  simp only [exists_sortEntry, sortEntry_eq_error]

/-- A list is read exactly if all its entries are well-formed. -/
lemma exists_sortOf :
    (∃ sort, sortOf (.array entries) = .ok sort) ↔ ∀ entry ∈ entries, SortFormed entry := by
  constructor
  · rintro ⟨sort, hsort⟩ entry hentry
    obtain ⟨s, -, hs⟩ := exists_of_mem_right (sortOf_eq_ok.mp hsort).flip hentry
    exact exists_sortEntry.mp ⟨s, hs⟩
  · intro h
    cases hsort : sortOf (.array entries) with
    | ok sort => exact ⟨sort, rfl⟩
    | error e =>
      obtain ⟨before, bad, after, rfl, -, hfault⟩ := sortOf_eq_error.mp hsort
      obtain ⟨s, hs⟩ := exists_sortEntry.mpr (h bad (by simp))
      rw [hfault.sortEntry_eq] at hs
      contradiction

end

/-- A list of pairs is read as written. -/
lemma sortOf_pairs (entries : List (String × Int64)) :
    sortOf (SortOrder.pairs entries) = .ok (.ofSigned entries) := by
  rw [SortOrder.pairs, sortOf_eq_ok, SortOrder.ofSigned, List.forall₂_map_left_iff,
    List.forall₂_map_right_iff, List.forall₂_same]
  exact fun e _ => sortEntry_formed e.1 e.2

/-- The object of distinct fields is decoded as the list of them. -/
lemma sortOf_members {entries : List (String × Int64)} (h : (entries.map (·.1)).Nodup) :
    sortOf (SortOrder.members entries) = .ok (.ofSigned entries) := by
  have hkeys : ((entries.map fun e => (e.1, Json.ofSigned e.2)).map (·.1)).Nodup := by
    rwa [List.map_map]
  rw [SortOrder.members, Json.ofMembers_of_nodup hkeys, sortOf_object, ← sortOf_pairs, List.map_map]
  rfl

/-- **All ways of giving a sort order agree.**  Decoded from a list of pairs, given entry by entry,
collected at once or, if no field is repeated, decoded from an object, entries make one order: each
of them in its place, ascending just if its number is positive.  The clause of this order shows the
fields, quoted, with their directions, and says just that when it is read; it is empty only without
entries.  A list is decoded exactly if all its entries are well-formed, and otherwise has the error
of the first that is not; an object counts as the list of its members. -/
theorem sortOf_agrees :
    (∀ entries : List (String × Int64),
      sortOf (SortOrder.pairs entries) = .ok (.ofSigned entries) ∧
      entries.foldl (fun sort e => sort.andThen e.1 (.ofSigned e.2)) .empty =
        SortOrder.ofSigned entries ∧
      ((entries.map (·.1)).Nodup →
        sortOf (SortOrder.members entries) = .ok (.ofSigned entries)) ∧
      (SortOrder.ofSigned entries).entries =
        entries.map (fun e => (e.1, if 0 < e.2 then .ascending else .descending)) ∧
      (SortOrder.ofSigned entries).clause.render = SortOrder.text entries ∧
      SortOrder.read (SortOrder.text entries) = some (.ofSigned entries) ∧
      (SortOrder.text entries = "" ↔ entries = [])) ∧
    (∀ entries : List Json,
      ((∃ sort, sortOf (.array entries) = .ok sort) ↔ ∀ entry ∈ entries, SortFormed entry) ∧
      ∀ e, sortOf (.array entries) = .error e ↔
        ∃ before bad after, entries = before ++ bad :: after ∧
          (∀ entry ∈ before, SortFormed entry) ∧ SortFault bad e) ∧
    ∀ members : List (String × Json),
      sortOf (.object members) =
        sortOf (.array (members.map fun m => .array [.string m.1, m.2])) := by
  refine ⟨fun entries => ⟨sortOf_pairs entries, ?_, sortOf_members, rfl,
    SortOrder.render_clause entries, ?_, SortOrder.text_eq_empty⟩,
    fun entries => ⟨exists_sortOf, fun e => sortOf_eq_error⟩, sortOf_object⟩
  · rw [SortOrder.foldl_andThen, SortOrder.empty, List.nil_append]
  · rw [← SortOrder.render_clause, SortOrder.read_clause]

/-- Fields whose names spell out a direction and a next entry, and one whose number is zero. -/
theorem sortOf_agrees_commas :
    sortOf (.object [("a` DESC, `b", .ofSigned 1), (", ", .ofSigned 0)]) =
      .ok ⟨[("a` DESC, `b", .ascending), (", ", .descending)]⟩ ∧
    SortOrder.read " ORDER BY `a`` DESC, ``b` ASC, `, ` DESC" =
      some ⟨[("a` DESC, `b", .ascending), (", ", .descending)]⟩ := by
  obtain ⟨-, -, hobject, -, -, hread, -⟩ := sortOf_agrees.1 [("a` DESC, `b", 1), (", ", 0)]
  exact ⟨hobject (by decide), hread⟩

/-- A pair without a number is reported before a later entry that is no pair. -/
example : sortOf (.array [.array [.string "a", .ofSigned (-1)], .array [.string "b", .null], .null])
    = .error (.badDirection "b") := by
  rfl

end Wire

end TableGateway
