import TableGateway.CommandLine.Command
import TableGateway.Engine.Session
import TableGateway.Schema.Document

/-!
# Running commands

`run` takes arguments to an `Exit`: an exit code with the texts for the two output channels.  All
inputs are read and checked before a session is opened, and a session runs one operation, or one
benchmark, and is closed when that has succeeded.

How a YAML text is read as a schema, and what the pages of help say, is up to the `World` that a
command runs in, like its files and its peers.

A `Failure` is a chain of texts from the outside in; contexts are put in front of it.
-/

namespace TableGateway.CommandLine

/-- The surroundings of a run, over the effects `m` and connections of type `κ`. -/
structure World (m : Type → Type) (κ : Type) where
  environment : Environment
  /-- The bytes of a file, if it is there. -/
  fileBytes : String → m (Option (List UInt8))
  /-- The schema that a YAML text stands for, if it is one. -/
  schemaOf? : String → Option Schema
  /-- The page of help on the program or on a command, in full or in short. -/
  helpPage : Option String → Bool → String
  peer : Endpoint → Peer m κ
  /-- The time in nanoseconds. -/
  clock : m Nat

/-- How a run ends. -/
structure Exit where
  code : Nat
  output : String
  errors : String
  deriving DecidableEq, Repr

/-- Why a command failed, from the outside in. -/
structure Failure where
  chain : List String
  deriving DecidableEq, Repr

namespace Failure

/-- A failure behind a context. -/
def within (context : String) (failure : Failure) : Failure :=
  ⟨context :: failure.chain⟩

/-- The failure of a fault. -/
def ofFault (fault : Fault) : Failure := ⟨fault.chain⟩

/-- The failure of a wire text. -/
def ofWire (error : WireError) : Failure := ⟨[error.message]⟩

/-- The failure of a schema. -/
def ofSchema (error : SchemaError) : Failure := ⟨[error.message]⟩

/-- The line that reports a failure. -/
def report (failure : Failure) : String :=
  "Error: " ++ String.intercalate ": " failure.chain ++ "\n"

end Failure

namespace Exit

/-- The end of a run that succeeded. -/
def success (output : String) : Exit := ⟨0, output, ""⟩

/-- The end of a run that failed after some output. -/
def failure (output : String) (failure : Failure) : Exit := ⟨1, output, failure.report⟩

/-- The end of a run whose arguments were refused. -/
def usage (error : UsageError) : Exit := ⟨2, "", "error: " ++ error.message ++ "\n"⟩

/-- The end of a run with this result. -/
def ofResult : Except Failure String → Exit
  | .ok output => success output
  | .error f => failure "" f

end Exit

/-! ## Inputs -/

/-- Read a JSON document, with what it is for. -/
def document (what text : String) : Except Failure Json :=
  match Wire.document text with
  | .ok json => .ok json
  | .error _ => .error ⟨["Invalid JSON for " ++ what, "no complete document"]⟩

/-- The rows to insert. -/
def insertedRows (text : String) : Except Failure (List Row) := do
  let json ← document "--rows" text
  (Wire.rowsOf json).mapError .ofWire

/-- The fields to set. -/
def assignments (text : String) : Except Failure Row := do
  let json ← document "--set" text
  (Wire.rowOf json).mapError .ofWire

/-- The query over the rows of a table that criteria mean. -/
def queryFor (table criteria : String) : Except Failure Query := do
  let criterion ← (Wire.criteria criteria).mapError .ofWire
  .ok { Query.ofTable table with criteria := criterion }

/-- The query of options. -/
def queryOf (options : QueryOptions) : Except Failure Query :=
  options.query.mapError fun e => (Failure.ofWire e).within "Invalid query"

/-! ## Outputs -/

/-- A document on lines of its own. -/
def printed (json : Json) : String :=
  json.pretty ++ "\n"

/-- The document for a number. -/
def number (n : UInt64) : Json :=
  (Value.uint n).toJson

/-- The document that says how many rows were affected. -/
def affected (n : UInt64) : Json :=
  .object [("affected", number n)]

/-- The document for an insertion. -/
def inserted (insertion : Insertion) : Json :=
  .object [("affected", number insertion.affected), ("rows", rowsToJson insertion.rows)]

/-- The document for a benchmark's report: counts, seconds, and rows per second. -/
def reported (report : Benchmark.Report) : Json :=
  let second := 1000000000
  let rate :=
    if report.elapsed = 0 then Double.ofInt 0
    else Double.ofRatio false (report.counts.rows.toNat * second) report.elapsed
  .object [("rows", number report.counts.rows), ("batches", number report.counts.batches),
    ("elapsed_secs", Value.floatToJson (Double.ofRatio false report.elapsed second)),
    ("rows_per_sec", Value.floatToJson rate)]

/-! ## Commands -/

section

variable {m : Type → Type} [Monad m] {κ α : Type}

/-- An operation whose fault is the failure. -/
def orFail (act : ExceptT Fault m α) : ExceptT Failure m α :=
  ExceptT.mk ((Except.mapError Failure.ofFault ·) <$> act.run)

/-- An operation whose fault is the failure behind a context. -/
def orFailWithin (context : String) (act : ExceptT Fault m α) : ExceptT Failure m α :=
  ExceptT.mk ((Except.mapError (fun f => (Failure.ofFault f).within context) ·) <$> act.run)

/-- An input that is at hand, or the failure that it is not. -/
def ready (input : Except Failure α) : ExceptT Failure m α :=
  ExceptT.mk (pure input)

/-- Do something in a session of its own. -/
def inSession (world : World m κ) (options : ConnectionOptions)
    (act : Executor (Session m κ) → ExceptT Failure (Session m κ) α) : ExceptT Failure m α := do
  let endpoint ← ready (options.endpoint.mapError fun e => .ofFault (.url e))
  ExceptT.mk do
    let (result, _) ← ((act (Session.executor (world.peer endpoint))).run).run none
    pure result

/-- Do something in a session of its own and close it afterwards. -/
def inClosedSession (world : World m κ) (options : ConnectionOptions)
    (act : Executor (Session m κ) → ExceptT Failure (Session m κ) α) : ExceptT Failure m α :=
  inSession world options fun executor => do
    let result ← act executor
    orFail (Gateway.finish executor)
    pure result

/-- The schema in a file. -/
def loadSchema (world : World m κ) (path : String) : ExceptT Failure m Schema := do
  let bytes ← ExceptT.lift (world.fileBytes path)
  ready <| (Schema.ofFile world.schemaOf? bytes).mapError fun e =>
    (Failure.ofSchema e).within ("Failed to load schema from " ++ path)

/-- The declaration of a table in the schema of a file, if both are there. -/
def declarationIn (world : World m κ) (schema : Option String) (table : String) :
    ExceptT Failure m (Option TableDecl) := do
  match schema with
  | none => pure none
  | some path =>
    let schema ← loadSchema world path
    pure (schema.table? table)

/-- Create a table that the schema in a file declares. -/
def define (world : World m κ) (options : ConnectionOptions) (path table : String) :
    ExceptT Failure m String := do
  let schema ← loadSchema world path
  let decl ← ready ((schema.table table).mapError .ofSchema)
  inClosedSession world options fun executor =>
    orFailWithin ("Failed to define table " ++ table) (Gateway.define executor decl)
  pure ""

/-- Drop a table. -/
def undefine (world : World m κ) (options : ConnectionOptions) (table : String) :
    ExceptT Failure m String := do
  inClosedSession world options fun executor =>
    orFailWithin ("Failed to undefine table " ++ table) (Gateway.undefine executor table)
  pure ""

/-- Print the rows that a query means. -/
def find (world : World m κ) (options : ConnectionOptions) (query : QueryOptions) :
    ExceptT Failure m String := do
  let query ← ready (queryOf query)
  let rows ← inClosedSession world options fun executor => orFail (Gateway.load executor query)
  pure (printed (rowsToJson rows))

/-- Print the number of rows that a query means. -/
def count (world : World m κ) (options : ConnectionOptions) (query : QueryOptions)
    (paginate : Bool) : ExceptT Failure m String := do
  let query ← ready (queryOf query)
  let n ← inClosedSession world options fun executor =>
    orFail (Gateway.count executor query paginate)
  pure (toString n.toNat ++ "\n")

/-- Delete the rows that criteria mean. -/
def delete (world : World m κ) (options : ConnectionOptions) (table criteria : String) :
    ExceptT Failure m String := do
  let query ← ready (queryFor table criteria)
  let n ← inClosedSession world options fun executor => orFail (Gateway.delete executor query)
  pure (printed (affected n))

/-- Set fields in the rows that criteria mean. -/
def update (world : World m κ) (options : ConnectionOptions) (table criteria sets : String) :
    ExceptT Failure m String := do
  let query ← ready (queryFor table criteria)
  let row ← ready (assignments sets)
  let n ← inClosedSession world options fun executor => orFail (Gateway.update executor query row)
  pure (printed (affected n))

/-- Insert rows and print them with their keys. -/
def insert (world : World m κ) (options : ConnectionOptions) (table rows : String)
    (schema : Option String) : ExceptT Failure m String := do
  let rows ← ready (insertedRows rows)
  let decl ← declarationIn world schema table
  let insertion ← inClosedSession world options fun executor =>
    orFail (Gateway.insert executor table decl rows)
  pure (printed (inserted insertion))

/-- Run a benchmark and print its report. -/
def bench (world : World m κ) (options : ConnectionOptions) (config : Benchmark) :
    ExceptT Failure m String := do
  let report ← inClosedSession world options fun executor =>
    orFailWithin "Benchmark failed" (config.run executor (StateT.lift world.clock))
  pure (printed (reported report))

/-- Print whether a table exists.  The answer is printed before the session is closed, so it stands
also where closing fails. -/
def defined (world : World m κ) (options : ConnectionOptions) (table : String) : m Exit := do
  let result ← (inSession world options fun executor => do
    let answer ← ExceptT.lift (Gateway.defined executor table)
    let closed ← ExceptT.lift (orFail (Gateway.finish executor)).run
    pure (if answer then "true\n" else "false\n", closed)).run
  pure <| match result with
    | .error failure => .failure "" failure
    | .ok (output, .error failure) => .failure output failure
    | .ok (output, .ok ()) => .success output

/-- Run a command. -/
def perform (world : World m κ) (options : ConnectionOptions) : Command → m Exit
  | .define path table => Exit.ofResult <$> (define world options path table).run
  | .undefine table => Exit.ofResult <$> (undefine world options table).run
  | .defined table => defined world options table
  | .find query => Exit.ofResult <$> (find world options query).run
  | .count query paginate => Exit.ofResult <$> (count world options query paginate).run
  | .delete table criteria => Exit.ofResult <$> (delete world options table criteria).run
  | .update table criteria sets => Exit.ofResult <$> (update world options table criteria sets).run
  | .insert table rows schema => Exit.ofResult <$> (insert world options table rows schema).run
  | .bench config => Exit.ofResult <$> (bench world options config).run

/-- Run the command that arguments state, or give the help that they ask for. -/
def run (world : World m κ) (arguments : List String) : m Exit :=
  match Demand.parse world.environment arguments with
  | .error e => pure (.usage e)
  | .ok (.help command full) => pure (.success (world.helpPage command full))
  | .ok (.invocation invocation) => perform world invocation.connection invocation.command

end

end TableGateway.CommandLine
