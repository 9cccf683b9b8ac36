import TableGateway.Engine.Fault
import TableGateway.Row
import TableGateway.Sql.Statement

/-!
# Executors

What operations need of an engine, and all that they see of it.  The effects `m` are left open:
an executor may keep a connection, answer from a list, or count.
-/

namespace TableGateway

/-- What a statement did. -/
structure Outcome where
  rows : List Row
  affected : UInt64
  /-- The first generated key, if one is reported. -/
  lastInsertId : Option UInt64

/-- No rows, none affected, no key. -/
def Outcome.empty : Outcome := ⟨[], 0, none⟩

/-- Runs statements. -/
structure Executor (m : Type → Type) where
  /-- Run a statement with its bound values. -/
  execute : Statement → ExceptT Fault m Outcome
  /-- Run a text without values, for the borders of transactions. -/
  control : String → ExceptT Fault m Unit
  /-- Release what the executor holds. -/
  close : ExceptT Fault m Unit

section

variable {m : Type → Type} [Monad m] {α : Type}

/-- A result that is at hand. -/
def settled (result : Except Fault α) : ExceptT Fault m α :=
  ExceptT.mk (pure result)

/-- The result of compiling, or the fault that there is none. -/
def compiled (result : Except CompileError α) : ExceptT Fault m α :=
  settled (result.mapError .compile)

end

end TableGateway
