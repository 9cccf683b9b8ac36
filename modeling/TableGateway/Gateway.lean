import TableGateway.Engine.Executor
import TableGateway.Value.Diagnostic

/-!
# Operations

The operations on tables, each over any executor: build the statement, run it, give its result
shape.  An operation makes one call at most, and its fault is the fault of that call.

* `load`, `count`, `insert`, `update`, `delete` — on rows.
* `define`, `undefine`, `defined` — on tables.
* `start`, `commit`, `rollback` — the borders of transactions; `finish` releases the executor.
-/

namespace TableGateway

/-- Inserted rows. -/
structure Insertion where
  affected : UInt64
  /-- The rows, with their keys where the engine reports one. -/
  rows : List Row

namespace Insertion

/-- The insertion of no rows. -/
def empty : Insertion := ⟨0, []⟩

/-- The keys of the rows that have one. -/
def ids (insertion : Insertion) : List UInt64 :=
  insertion.rows.filterMap fun row => (row.find? Statement.keyColumn).bind Value.unsigned?

/-- Rows with keys that count up from the first one. -/
def withKeys (first : UInt64) : List Row → List Row
  | [] => []
  | row :: rest => row.insert Statement.keyColumn (.uint first) :: withKeys (first + 1) rest

/-- What became of rows.  The engine generates the keys of one statement in a run, so the first
tells them all; a key of zero means that there is none. -/
def ofOutcome (rows : List Row) (outcome : Outcome) : Insertion :=
  match outcome.lastInsertId.filter (0 < ·) with
  | some first => ⟨outcome.affected, withKeys first rows⟩
  | none => ⟨outcome.affected, rows⟩

@[simp] theorem affected_ofOutcome (rows : List Row) (outcome : Outcome) :
    (ofOutcome rows outcome).affected = outcome.affected := by
  rw [ofOutcome]
  split <;> rfl

end Insertion

namespace Gateway

/-- The column of a count. -/
def countColumn : String := "count"

/-- The number in a count's column: a number that is not negative, or the text of one. -/
def countValue? (value : Value) : Option UInt64 :=
  value.unsigned?.orElse fun _ =>
    (value.text?.bind (Text.natural? UInt64.size)).map UInt64.ofNat

/-- The number in the first row of a count. -/
def countOf (outcome : Outcome) : Except Fault UInt64 :=
  match outcome.rows.head?.bind (·.find? countColumn) with
  | none => .error (.unexpectedResult "count query returned no rows")
  | some value => match countValue? value with
    | some n => .ok n
    | none => .error (.unexpectedResult ("non-numeric count: " ++ value.diagnostic))

variable {m : Type → Type} [Monad m]

/-- Run the statement of an operation. -/
def run (executor : Executor m) (statement : Except CompileError Statement) :
    ExceptT Fault m Outcome := do
  let s ← compiled statement
  executor.execute s

/-! ## Rows -/

/-- The rows that a query means, in the engine's order. -/
def load (executor : Executor m) (query : Query) : ExceptT Fault m (List Row) := do
  let outcome ← run executor (Statement.select query)
  pure outcome.rows

/-- The number of rows that a query means.  Its page counts only where asked for. -/
def count (executor : Executor m) (query : Query) (paginate : Bool) : ExceptT Fault m UInt64 := do
  let outcome ← run executor (Statement.count query paginate)
  settled (countOf outcome)

/-- Insert rows with one statement; no rows need none. -/
def insert (executor : Executor m) (table : String) (decl : Option TableDecl) (rows : List Row) :
    ExceptT Fault m Insertion := do
  if rows.isEmpty then pure .empty
  else
    let fields := Statement.insertFields decl rows
    let outcome ← run executor (Statement.insert table fields rows)
    pure (Insertion.ofOutcome rows outcome)

/-- Set fields in the rows that a query means, and say how many were affected. -/
def update (executor : Executor m) (query : Query) (sets : Row) : ExceptT Fault m UInt64 := do
  let outcome ← run executor (Statement.update query sets)
  pure outcome.affected

/-- Delete the rows that a query means, and say how many were affected. -/
def delete (executor : Executor m) (query : Query) : ExceptT Fault m UInt64 := do
  let outcome ← run executor (Statement.delete query)
  pure outcome.affected

/-! ## Tables -/

/-- Create a declared table. -/
def define (executor : Executor m) (decl : TableDecl) : ExceptT Fault m Unit := do
  let _ ← run executor (Statement.define decl)
  pure ()

/-- Drop a table. -/
def undefine (executor : Executor m) (table : String) : ExceptT Fault m Unit := do
  let _ ← executor.execute (Statement.undefine table)
  pure ()

/-- Whether a table exists.  Whatever makes the probe fail, the answer is no. -/
def defined (executor : Executor m) (table : String) : m Bool := do
  match ← (executor.execute (Statement.probe table)).run with
  | .ok _ => pure true
  | .error _ => pure false

/-! ## Transactions -/

/-- Start a transaction. -/
def start (executor : Executor m) : ExceptT Fault m Unit :=
  executor.control "START TRANSACTION"

/-- Keep what the transaction did. -/
def commit (executor : Executor m) : ExceptT Fault m Unit :=
  executor.control "COMMIT"

/-- Undo what the transaction did. -/
def rollback (executor : Executor m) : ExceptT Fault m Unit :=
  executor.control "ROLLBACK"

/-- Release the executor. -/
def finish (executor : Executor m) : ExceptT Fault m Unit :=
  executor.close

end Gateway

end TableGateway
