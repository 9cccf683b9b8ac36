import TableGateway.Cell.Read
import TableGateway.Engine.Executor

/-!
# Sessions

A session is an executor over at most one connection to a `Peer`.

* The connection is dialed by the first call that needs it and kept for all later ones.
* When a statement ends in a loss, the handle is dropped; the statement is reported and never
  repeated, and the next call dials anew.
* Closing gives up the handle whether or not the peer takes leave in good order.
-/

namespace TableGateway

/-- The rows and counts that a peer answers a statement with. -/
structure ResultSet where
  columns : List Column
  rows : List (List (Option Cell))
  affected : UInt64
  lastInsertId : Option UInt64

/-- The rows of a result as records. -/
def ResultSet.records (r : ResultSet) : List Row :=
  r.rows.map fun cells => Row.ofCells (r.columns.zip cells)

/-- What a statement did, by its result. -/
def ResultSet.outcome (r : ResultSet) : Outcome :=
  ⟨r.records, r.affected, r.lastInsertId⟩

/-- The far side of connections of type `κ`. -/
structure Peer (m : Type → Type) (κ : Type) where
  /-- Open a connection. -/
  dial : ExceptT EngineError m κ
  /-- Run a statement with its bound values. -/
  execute : κ → Statement → ExceptT EngineError m ResultSet
  /-- Run a text without values. -/
  query : κ → String → ExceptT EngineError m ResultSet
  /-- Close a connection. -/
  disconnect : κ → ExceptT EngineError m Unit

/-- Effects over the handle of a session. -/
abbrev Session (m : Type → Type) (κ : Type) := StateT (Option κ) m

namespace Session

variable {m : Type → Type} [Monad m] {κ α : Type}

/-- An effect of the peer, with its error in hand. -/
def attempt (act : ExceptT EngineError m α) : ExceptT Fault (Session m κ) (Except EngineError α) :=
  ExceptT.lift (StateT.lift act.run)

/-- The connection: the one that is held, or else a new one, which is held from now on. -/
def connection (peer : Peer m κ) : ExceptT Fault (Session m κ) κ := do
  match ← get with
  | some c => pure c
  | none =>
    match ← attempt peer.dial with
    | .ok c =>
      set (some c)
      pure c
    | .error e => throw (.connect e)

/-- Hand a statement to the connection.  A loss drops the handle. -/
def send (peer : Peer m κ) (sql : String) (act : κ → ExceptT EngineError m α) :
    ExceptT Fault (Session m κ) α := do
  let c ← connection peer
  match ← attempt (act c) with
  | .ok a => pure a
  | .error e =>
    if e.isLoss then set (none : Option κ)
    throw (Fault.ofEngine sql e)

/-- Close the connection that is held, if there is one. -/
def close (peer : Peer m κ) : ExceptT Fault (Session m κ) Unit := do
  match ← get with
  | none => pure ()
  | some c =>
    set (none : Option κ)
    match ← attempt (peer.disconnect c) with
    | .ok () => pure ()
    | .error e => throw (.connect e)

/-- The executor of a session. -/
def executor (peer : Peer m κ) : Executor (Session m κ) where
  execute s := do
    let result ← send peer s.sql fun c => peer.execute c s
    pure result.outcome
  control sql := do
    let _ ← send peer sql fun c => peer.query c sql
    pure ()
  close := close peer

end Session

end TableGateway
