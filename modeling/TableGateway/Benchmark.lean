import TableGateway.Gateway

/-!
# The insert benchmark

Two-column rows go into a scratch table inside one transaction, by way of a buffer that is emptied
with one statement when it is full.  The table is made anew before, and dropped afterwards unless it
is to be kept; the fault that decides the result is never one of the cleaning up.
-/

namespace TableGateway

/-- What the benchmark does. -/
structure Benchmark where
  table : String
  rows : UInt64
  /-- The number of rows per statement; zero counts as one. -/
  bufferSize : UInt64
  keepTable : Bool
  deriving DecidableEq, Repr

/-- What the benchmark has counted. -/
structure Benchmark.Counts where
  /-- The sum of the rows that the engine reports as affected. -/
  rows : UInt64
  batches : UInt64
  deriving DecidableEq, Repr

/-- What the benchmark reports. -/
structure Benchmark.Report where
  counts : Benchmark.Counts
  /-- The time that the transaction took, in nanoseconds. -/
  elapsed : Nat
  deriving DecidableEq, Repr

namespace Benchmark

/-- The benchmark without instructions. -/
def default : Benchmark := ⟨"foo", 10000, 1000, false⟩

/-- The declaration of the scratch table. -/
def decl (config : Benchmark) : TableDecl :=
  ⟨config.table, [.plain "foo" .string, .plain "bar" .string]⟩

/-! ## Rows -/

/-- The row of a number, which both columns hold as text. -/
def row (n : Nat) : Row :=
  let text : Value := .string (String.ofList (Text.digits n))
  Row.ofList [("foo", text), ("bar", text)]

/-- The number of rows of a full batch. -/
def batchSize (config : Benchmark) : Nat :=
  max config.bufferSize.toNat 1

/-! ## Running -/

variable {m : Type → Type} [Monad m]

/-- Insert a batch of rows and count what is reported.  A batch that fails is undone with those
before it; how the undoing goes does not matter. -/
def flush (executor : Executor m) (config : Benchmark) (rows : List Row) (counts : Counts) :
    ExceptT Fault m Counts := do
  match ← ExceptT.lift (Gateway.insert executor config.table (some config.decl) rows).run with
  | .ok insertion => pure ⟨counts.rows + insertion.affected, counts.batches + 1⟩
  | .error e =>
    let _ ← ExceptT.lift (Gateway.rollback executor).run
    throw e

/-- Insert the rows that are left after those in the buffer, which is flushed when it is full and
after the last row. -/
def insertRows (executor : Executor m) (config : Benchmark) :
    Nat → Array Row → Counts → ExceptT Fault m Counts
  | 0, _, counts => pure counts
  | left + 1, buffer, counts => do
    let buffer := buffer.push (row (config.rows.toNat - left))
    if buffer.size = config.batchSize ∨ left = 0 then
      let counts ← flush executor config buffer.toList counts
      insertRows executor config left #[] counts
    else
      insertRows executor config left buffer counts

/-- Insert all rows in one transaction, by a clock that counts nanoseconds. -/
def insertAll (executor : Executor m) (clock : m Nat) (config : Benchmark) :
    ExceptT Fault m Report := do
  let before ← ExceptT.lift clock
  Gateway.start executor
  let counts ← insertRows executor config config.rows.toNat #[] ⟨0, 0⟩
  Gateway.commit executor
  let after ← ExceptT.lift clock
  pure ⟨counts, after - before⟩

/-- Drop the scratch table if it is there. -/
def clear (executor : Executor m) (config : Benchmark) : ExceptT Fault m Unit := do
  if ← ExceptT.lift (Gateway.defined executor config.table) then
    Gateway.undefine executor config.table

/-- Drop the scratch table unless it is to be kept, whatever comes of it. -/
def tidy (executor : Executor m) (config : Benchmark) : m Unit := do
  if !config.keepTable then
    let _ ← (Gateway.undefine executor config.table).run
    pure ()

/-- Run the benchmark. -/
def run (executor : Executor m) (clock : m Nat) (config : Benchmark) :
    ExceptT Fault m Report := do
  config.clear executor
  Gateway.define executor config.decl
  let result ← ExceptT.lift (insertAll executor clock config).run
  ExceptT.lift (tidy executor config)
  settled result

end Benchmark

end TableGateway
