import TableGateway.Proofs.Engine.Transcript
import TableGateway.Proofs.Fields

/-!
# Keys of inserted rows

The rows that an insertion gives back are those that it was given.  Where the engine reports the
first key that it generated, each row has the key of its place after it, and nothing else of a row
changes.

* `Row.Keyed` — a row with its key.
* `Insertion.KeyedFrom` — rows with keys that count up, row by row; `keyedFrom_withKeys`,
  `ids_withKeys` give it, and the keys as a list, where the keys have 64 bits.
* **`Gateway.insert_keys`** — the statement of an insertion is that of the rows without keys, and
  its rows come back with a run of keys, or as they are where no key is reported.
-/

namespace TableGateway

/-- A row with its key: under every other name it has what it had before. -/
structure Row.Keyed (row : Row) (key : UInt64) (keyed : Row) : Prop where
  key : keyed.find? "id" = some (.uint key)
  others : ∀ name, name ≠ "id" → keyed.find? name = row.find? name

/-- A row with a key written to it is keyed. -/
lemma Row.keyed_insert (row : Row) (key : UInt64) :
    row.Keyed key (row.insert Statement.keyColumn (.uint key)) where
  key := (Fields.find?_insert _ _ _ _).trans (if_pos rfl)
  others _ hname := (Fields.find?_insert _ _ _ _).trans (if_neg (Ne.symm hname))

namespace Insertion

/-- The rows in their order, each with the key of its place after the first one. -/
structure KeyedFrom (first : UInt64) (rows keyed : List Row) : Prop where
  length : keyed.length = rows.length
  rows : ∀ (i : Nat) (row : Row), rows[i]? = some row → ∃ key row',
    keyed[i]? = some row' ∧ key.toNat = first.toNat + i ∧ row.Keyed key row'

/-- Keys that are left for the rows do not start anew from zero. -/
lemma toNat_next {first : UInt64} {n : Nat} (h : first.toNat + (n + 1) < UInt64.size) :
    (first + 1).toNat = first.toNat + 1 := by
  rw [UInt64.toNat_add]
  exact Nat.mod_eq_of_lt (Nat.lt_of_le_of_lt (Nat.add_le_add_left (Nat.le_add_left 1 n) _) h)

/-- Rows are given consecutive keys, as far as these fit. -/
theorem keyedFrom_withKeys {first : UInt64} {rows : List Row}
    (h : first.toNat + rows.length < UInt64.size) :
    KeyedFrom first rows (withKeys first rows) := by
  induction rows generalizing first with
  | nil => exact ⟨rfl, by simp⟩
  | cons row rest ih =>
    rw [List.length_cons] at h
    have hnext := toNat_next h
    have hrest : KeyedFrom (first + 1) rest (withKeys (first + 1) rest) := ih (by omega)
    refine ⟨congrArg (· + 1) hrest.length, fun i row' hrow => ?_⟩
    cases i with
    | zero =>
      obtain rfl := Option.some.inj hrow
      exact ⟨first, _, rfl, rfl, row.keyed_insert first⟩
    | succ i =>
      obtain ⟨key, keyed, hkeyed, hkey, hrow⟩ := hrest.rows i row' hrow
      exact ⟨key, keyed, hkeyed, by omega, hrow⟩

/-- The keys of the rows are a run. -/
theorem ids_withKeys {first : UInt64} {rows : List Row} (affected : UInt64)
    (h : first.toNat + rows.length < UInt64.size) :
    (ids ⟨affected, withKeys first rows⟩).map UInt64.toNat =
      List.range' first.toNat rows.length := by
  induction rows generalizing first with
  | nil => rfl
  | cons row rest ih =>
    rw [List.length_cons] at h
    have hnext := toNat_next h
    have hkey : ((row.insert Statement.keyColumn (.uint first)).find? Statement.keyColumn).bind
        Value.unsigned? = some first :=
      congrArg (·.bind Value.unsigned?) (row.keyed_insert first).key
    have hids : ids ⟨affected, withKeys first (row :: rest)⟩ =
        first :: ids ⟨affected, withKeys (first + 1) rest⟩ :=
      List.filterMap_cons_some hkey
    rw [hids, List.map_cons, ih (by omega), hnext, List.length_cons, List.range'_succ]

end Insertion

/-- **An insertion gives its rows a run of keys and changes nothing else.**  It makes one call, of
the statement that its rows have without keys, and reports what that is said to have affected.  If a
first key is reported, the rows come back in their order with the keys from it on; without one, or
with zero for it, they come back as they are. -/
theorem Gateway.insert_keys (respond : Responder) (before : List Call) {table : String}
    {decl : Option TableDecl} {rows : List Row} {s : Statement} {outcome : Outcome}
    (hs : Statement.insert table (Statement.insertFields decl rows) rows = .ok s)
    (hanswer : respond before (.statement s) = .ok outcome) :
    ∃ insertion : Insertion,
      Makes (Gateway.insert respond.executor table decl rows) before (.ok insertion)
        [⟨.statement s, .ok outcome⟩] ∧
      insertion.affected = outcome.affected ∧
      (∀ first, outcome.lastInsertId = some first → 0 < first →
        first.toNat + rows.length < UInt64.size →
          Insertion.KeyedFrom first rows insertion.rows ∧
          insertion.ids.map UInt64.toNat = List.range' first.toNat rows.length) ∧
      (outcome.lastInsertId = none ∨ outcome.lastInsertId = some 0 → insertion.rows = rows) := by
  have hinsert := respond.makes_insert before hs
  rw [hanswer] at hinsert
  refine ⟨Insertion.ofOutcome rows outcome, hinsert, Insertion.affected_ofOutcome rows outcome,
    fun first hfirst hpos h => ?_, fun hnone => ?_⟩
  · have hkeys : Insertion.ofOutcome rows outcome =
        ⟨outcome.affected, Insertion.withKeys first rows⟩ := by
      rw [Insertion.ofOutcome, hfirst, Option.filter_some, if_pos (decide_eq_true hpos)]
    rw [hkeys]
    exact ⟨Insertion.keyedFrom_withKeys h, Insertion.ids_withKeys outcome.affected h⟩
  · rw [Insertion.ofOutcome]
    rcases hnone with hnone | hzero
    · rw [hnone]
      rfl
    · rw [hzero]
      rfl

/-- Two rows with different names. -/
theorem Gateway.insert_keys_two : ∃ (s : Statement) (insertion : Insertion),
    Statement.insert "t" ["a", "b"] [.ofList [("a", .int 1)], .ofList [("b", .null)]] = .ok s ∧
    Makes (Gateway.insert (Responder.executor fun _ _ => .ok ⟨[], 2, some 7⟩) "t" none
      [.ofList [("a", .int 1)], .ofList [("b", .null)]]) [] (.ok insertion)
      [⟨.statement s, .ok ⟨[], 2, some 7⟩⟩] ∧
    insertion.affected = 2 ∧ insertion.ids.map UInt64.toNat = [7, 8] ∧
    Insertion.KeyedFrom 7 [.ofList [("a", .int 1)], .ofList [("b", .null)]] insertion.rows := by
  have hs : Statement.insert "t" (Statement.insertFields none
      [.ofList [("a", .int 1)], .ofList [("b", .null)]])
      [.ofList [("a", .int 1)], .ofList [("b", .null)]] = .ok _ := rfl
  obtain ⟨insertion, hmakes, haffected, hkeys, -⟩ :=
    Gateway.insert_keys (fun _ _ => .ok ⟨[], 2, some 7⟩) [] hs rfl
  obtain ⟨hkeyed, hids⟩ := hkeys 7 rfl (by decide) (by decide)
  exact ⟨_, insertion, hs, hmakes, haffected, hids, hkeyed⟩

end TableGateway
