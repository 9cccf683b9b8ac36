import TableGateway.Engine.Executor

/-!
# Executors that replay

`Replay.executor` is an executor without an engine: it records every request and answers it with
the next reply of a list.  A request without a reply does nothing, except that rows count as
inserted where the replay assigns keys by itself.
-/

namespace TableGateway

/-- A request to an executor. -/
inductive Request where
  | statement (s : Statement)
  | control (sql : String)
  | close
  deriving DecidableEq, Repr

/-- The SQL text of a request; closing has none. -/
def Request.sql : Request → String
  | .statement s => s.sql
  | .control sql => sql
  | .close => ""

/-- A reply to a request. -/
inductive Reply where
  /-- What a request without a reply does. -/
  | unscripted
  | outcome (outcome : Outcome)
  | error (error : EngineError)

/-- Replies to come and requests so far. -/
structure Replay where
  replies : List Reply
  /-- The requests, the last one first. -/
  requests : List Request
  /-- Whether inserts without a reply get keys. -/
  assignsKeys : Bool
  /-- The last key given so far. -/
  lastKey : UInt64

namespace Replay

/-- A replay before the first request. -/
def ofReplies (replies : List Reply) (assignsKeys : Bool) : Replay :=
  ⟨replies, [], assignsKeys, 0⟩

/-- The number of places in a text where an opening parenthesis stands before a question mark. -/
def tuples : List Char → Nat
  | '(' :: '?' :: rest => tuples rest + 1
  | _ :: rest => tuples rest
  | [] => 0

/-- Record a request and take the next reply. -/
def next (request : Request) : StateM Replay Reply := fun r =>
  let r := { r with requests := request :: r.requests }
  match r.replies with
  | [] => (.unscripted, r)
  | reply :: rest => (reply, { r with replies := rest })

/-- What a statement without a reply does: inserted rows are counted and get the next keys. -/
def unscripted (s : Statement) : StateM Replay Outcome := fun r =>
  let sql := s.sql.toList
  if r.assignsKeys && sql.take 6 == "INSERT".toList then
    let count := UInt64.ofNat (tuples sql)
    (⟨[], count, some (r.lastKey + 1)⟩, { r with lastKey := r.lastKey + count })
  else (.empty, r)

/-- Answer a statement. -/
def execute (s : Statement) : ExceptT Fault (StateM Replay) Outcome := do
  match ← ExceptT.lift (next (.statement s)) with
  | .outcome outcome => pure outcome
  | .error e => throw (Fault.ofEngine s.sql e)
  | .unscripted => ExceptT.lift (unscripted s)

/-- Answer a request that has no result. -/
def acknowledge (request : Request) : ExceptT Fault (StateM Replay) Unit := do
  match ← ExceptT.lift (next request) with
  | .error e => throw (Fault.ofEngine request.sql e)
  | _ => pure ()

/-- The executor that replays. -/
def executor : Executor (StateM Replay) where
  execute := execute
  control sql := acknowledge (.control sql)
  close := acknowledge .close

end Replay

end TableGateway
