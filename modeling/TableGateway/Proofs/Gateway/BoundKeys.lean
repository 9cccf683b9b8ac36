import TableGateway.Proofs.Gateway.Keys
import TableGateway.Proofs.Sql.Insertion

/-!
# Keys that rows bind themselves

A row may bring its own key, which the statement of its insertion then binds.  Where the engine
reports a first generated key, every row is given the key of its place after that one, also a row
that has bound another key: such a row does not come back with the key under which it was inserted.

* `Cell.key?`, `Row.key?` — the key that a cell gives to its row, and that a row would bind.
* `Statement.BindsKey` — a statement binds a key for a row; `Statement.BindsKey.row` finds the row.
* `Insertion.keyed_withKeys` — the key of a place, in 64 bits; `Insertion.key?_row` — the key of a
  row that comes back from an outcome.
* **`Gateway.insert_boundKeys`** — just when a row comes back with the key that was bound for it;
  `Gateway.insert_boundKeys_mixed` is an insertion of which a row does not.
-/

namespace TableGateway

/-- The key that a bound cell gives to its row: a positive integer. -/
def Cell.key? : Cell → Option Nat
  | .int n => if 0 < n.toInt then some n.toInt.toNat else none
  | .uint n => if 0 < n.toNat then some n.toNat else none
  | _ => none

/-- The key that a row would bind. -/
def Row.key? (row : Row) : Option Nat :=
  (Statement.cellFor row Statement.keyColumn).key?

/-- A key in a cell is positive. -/
lemma Cell.pos_of_key? {cell : Cell} {key : Nat} (h : cell.key? = some key) : 0 < key := by
  cases cell with
  | int n =>
    simp only [key?, Option.ite_none_right_eq_some, Option.some.injEq] at h
    omega
  | uint n =>
    simp only [key?, Option.ite_none_right_eq_some, Option.some.injEq] at h
    omega
  | _ => simp [key?] at h

/-- The key of a keyed row is the one it was given. -/
lemma Row.Keyed.key?_iff {row keyed : Row} {key : UInt64} {n : Nat} (h : row.Keyed key keyed)
    (hn : 0 < n) : keyed.key? = some n ↔ key.toNat = n := by
  have hcell : Statement.cellFor keyed Statement.keyColumn = .uint key := by
    rw [Statement.cellFor, Statement.keyColumn, h.key]
    rfl
  rw [key?, hcell]
  simp only [Cell.key?, Option.ite_none_right_eq_some, Option.some.injEq]
  omega

/-- An insertion under these fields binds a key for the row at a place. -/
def Statement.BindsKey (s : Statement) (fields : List String) (place key : Nat) : Prop :=
  ∃ column cell, fields[column]? = some keyColumn ∧
    s.params[place * fields.length + column]? = some cell ∧ cell.key? = some key

/-- A key is bound for a row that has it. -/
theorem Statement.BindsKey.row {table : String} {fields : List String} {rows : List Row}
    {s : Statement} {place key : Nat} (h : s.BindsKey fields place key)
    (hs : insert table fields rows = .ok s) :
    ∃ row, rows[place]? = some row ∧ row.key? = some key := by
  obtain ⟨-, -, rfl⟩ := insert_eq_ok.mp hs
  obtain ⟨column, cell, hcolumn, hcell, hkey⟩ := h
  have hlt : column < fields.length := (List.getElem?_eq_some_iff.mp hcolumn).1
  have hlength : ∀ row ∈ rows, (fields.map (cellFor row)).length = fields.length :=
    fun _ _ => List.length_map _
  obtain ⟨row, hrow, hbound⟩ := exists_of_getElem?_flatMap hlength hcell
  have hplace : (place * fields.length + column) / fields.length = place := by
    rw [Nat.mul_comm, Nat.mul_add_div (Nat.zero_lt_of_lt hlt), Nat.div_eq_of_lt hlt, Nat.add_zero]
  have hindex : (place * fields.length + column) % fields.length = column := by
    rw [Nat.mul_comm, Nat.mul_add_mod, Nat.mod_eq_of_lt hlt]
  rw [hplace] at hrow
  rw [hindex, List.getElem?_map, hcolumn, Option.map_some] at hbound
  obtain rfl := Option.some.inj hbound
  exact ⟨row, hrow, hkey⟩

namespace Insertion

variable {rows : List Row} {outcome : Outcome}

/-- Rows get their keys from the first one that is reported. -/
lemma rows_ofOutcome_of_reported {first : UInt64} (h : outcome.lastInsertId = some first)
    (hpos : 0 < first) : (ofOutcome rows outcome).rows = withKeys first rows := by
  rw [ofOutcome, h, Option.filter_some, if_pos (decide_eq_true hpos)]

/-- Rows stay as they are if no key is reported. -/
lemma rows_ofOutcome_of_unreported
    (h : ∀ first, outcome.lastInsertId = some first → ¬ 0 < first) :
    (ofOutcome rows outcome).rows = rows := by
  have hnone : outcome.lastInsertId.filter (0 < ·) = none := by
    rw [Option.filter_eq_none_iff]
    intro first hfirst
    simpa using h first hfirst
  rw [ofOutcome, hnone]

/-- Each row is given the key of its place after the first one, in 64 bits. -/
theorem keyed_withKeys (first : UInt64) {place : Nat} {row : Row} (h : rows[place]? = some row) :
    ∃ row', (withKeys first rows)[place]? = some row' ∧
      row.Keyed (first + UInt64.ofNat place) row' := by
  induction rows generalizing first place with
  | nil => contradiction
  | cons head rest ih =>
    cases place with
    | zero =>
      obtain rfl := Option.some.inj h
      refine ⟨_, rfl, ?_⟩
      rw [show UInt64.ofNat 0 = 0 from rfl, UInt64.add_zero]
      exact head.keyed_insert first
    | succ place =>
      obtain ⟨row', hrow', hkeyed⟩ := ih (first + 1) h
      refine ⟨row', hrow', ?_⟩
      rwa [Nat.add_comm, UInt64.ofNat_add, ← UInt64.add_assoc]

/-- A row that has a key comes back with it if no first key is reported, or if the first key gives
it that one. -/
theorem key?_row {place key : Nat} {row : Row} (hrow : rows[place]? = some row)
    (hkey : row.key? = some key) :
    ∃ row', (ofOutcome rows outcome).rows[place]? = some row' ∧ (row'.key? = some key ↔
      ∀ first, outcome.lastInsertId = some first → 0 < first →
        key = (first.toNat + place) % UInt64.size) := by
  by_cases h : ∃ first, outcome.lastInsertId = some first ∧ 0 < first
  · obtain ⟨first, hfirst, hpos⟩ := h
    obtain ⟨row', hrow', hkeyed⟩ := keyed_withKeys first hrow
    refine ⟨row', by rwa [rows_ofOutcome_of_reported hfirst hpos], ?_⟩
    have hplace : (first + UInt64.ofNat place).toNat = (first.toNat + place) % UInt64.size := by
      rw [UInt64.toNat_add, UInt64.toNat_ofNat', Nat.add_mod_mod]
    rw [hkeyed.key?_iff (Cell.pos_of_key? hkey), hplace]
    constructor
    · intro heq other hother _
      obtain rfl := Option.some.inj (hfirst.symm.trans hother)
      exact heq.symm
    · intro hall
      exact (hall first hfirst hpos).symm
  · have hunreported : ∀ first, outcome.lastInsertId = some first → ¬ 0 < first :=
      fun first hfirst hpos => h ⟨first, hfirst, hpos⟩
    refine ⟨row, by rwa [rows_ofOutcome_of_unreported hunreported], ?_⟩
    exact iff_of_true hkey fun first hfirst hpos => absurd hpos (hunreported first hfirst)

end Insertion

/-- **A row comes back with the key that was bound for it just if no first generated key is
reported, or the run from that one gives it the same key.**  The rows of an insertion are given the
keys of the run, in 64 bits, by their places alone, whatever the statement has bound for them. -/
theorem Gateway.insert_boundKeys (respond : Responder) (before : List Call) {table : String}
    {decl : Option TableDecl} {rows : List Row} {s : Statement} {outcome : Outcome}
    (hs : Statement.insert table (Statement.insertFields decl rows) rows = .ok s)
    (hanswer : respond before (.statement s) = .ok outcome) :
    ∃ insertion : Insertion,
      Makes (Gateway.insert respond.executor table decl rows) before (.ok insertion)
        [⟨.statement s, .ok outcome⟩] ∧
      ∀ place key, s.BindsKey (Statement.insertFields decl rows) place key →
        ∃ row, insertion.rows[place]? = some row ∧ (row.key? = some key ↔
          ∀ first, outcome.lastInsertId = some first → 0 < first →
            key = (first.toNat + place) % UInt64.size) := by
  have hinsert := respond.makes_insert before hs
  rw [hanswer] at hinsert
  refine ⟨Insertion.ofOutcome rows outcome, hinsert, fun place key hbinds => ?_⟩
  obtain ⟨row, hrow, hkey⟩ := hbinds.row hs
  exact Insertion.key?_row hrow hkey

/-- A row whose own key is the one of its place as well. -/
theorem Gateway.insert_boundKeys_alike : ∃ (s : Statement) (insertion : Insertion) (row : Row),
    Makes (Gateway.insert (Responder.executor fun _ _ => .ok ⟨[], 2, some 41⟩) "t" none
      [.ofList [("a", .int 1)], .ofList [("id", .int 42)]]) [] (.ok insertion)
      [⟨.statement s, .ok ⟨[], 2, some 41⟩⟩] ∧
    s.BindsKey ["a", "id"] 1 42 ∧ insertion.rows[1]? = some row ∧ row.key? = some 42 := by
  obtain ⟨s, hs⟩ : ∃ s, Statement.insert "t" (Statement.insertFields none
      [.ofList [("a", .int 1)], .ofList [("id", .int 42)]])
      [.ofList [("a", .int 1)], .ofList [("id", .int 42)]] = .ok s := ⟨_, rfl⟩
  have hparams : s.params = [.int 1, .null, .null, .int 42] := by
    obtain ⟨-, -, rfl⟩ := Statement.insert_eq_ok.mp hs
    rfl
  have hbinds : s.BindsKey ["a", "id"] 1 42 := ⟨1, .int 42, rfl, by rw [hparams]; rfl, rfl⟩
  obtain ⟨insertion, hmakes, hkeys⟩ :=
    Gateway.insert_boundKeys (fun _ _ => .ok ⟨[], 2, some 41⟩) [] hs rfl
  obtain ⟨row, hrow, hkey⟩ := hkeys 1 42 hbinds
  refine ⟨s, insertion, row, hmakes, hbinds, hrow, hkey.mpr ?_⟩
  rintro _ ⟨⟩ _
  rfl

/-- A row without a key, and one that comes back with another key than its own. -/
theorem Gateway.insert_boundKeys_mixed : ∃ (s : Statement) (insertion : Insertion) (row : Row),
    Makes (Gateway.insert (Responder.executor fun _ _ => .ok ⟨[], 2, some 41⟩) "t" none
      [.ofList [("a", .int 1)], .ofList [("a", .int 2), ("id", .int 7)]]) [] (.ok insertion)
      [⟨.statement s, .ok ⟨[], 2, some 41⟩⟩] ∧
    s.params = [.int 1, .null, .int 2, .int 7] ∧ s.BindsKey ["a", "id"] 1 7 ∧
    insertion.rows[1]? = some row ∧ row.key? = some 42 := by
  obtain ⟨s, hs⟩ : ∃ s, Statement.insert "t" (Statement.insertFields none
      [.ofList [("a", .int 1)], .ofList [("a", .int 2), ("id", .int 7)]])
      [.ofList [("a", .int 1)], .ofList [("a", .int 2), ("id", .int 7)]] = .ok s := ⟨_, rfl⟩
  have hparams : s.params = [.int 1, .null, .int 2, .int 7] := by
    obtain ⟨-, -, rfl⟩ := Statement.insert_eq_ok.mp hs
    rfl
  have hmakes := Responder.makes_insert (fun _ _ => .ok ⟨[], 2, some 41⟩) [] hs
  exact ⟨s, _, _, hmakes, hparams, ⟨1, .int 7, rfl, by rw [hparams]; rfl, rfl⟩, rfl, rfl⟩

end TableGateway
