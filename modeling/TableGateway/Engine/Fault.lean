import TableGateway.Endpoint.Url
import TableGateway.Engine.Error
import TableGateway.Sql.Error

/-!
# Faults of operations

Why an operation has no result.  A `Fault` that stems from another error keeps it, and
`Fault.chain` lists the texts from the outside in.
-/

namespace TableGateway

/-- Why an operation has no result. -/
inductive Fault where
  /-- The operation has no statement. -/
  | compile (cause : CompileError)
  /-- The statement failed and the connection is still there. -/
  | execution (sql : String) (cause : EngineError)
  /-- The connection was lost under the statement. -/
  | connectionLost (sql : String) (cause : EngineError)
  /-- No connection was to be had, or one did not close. -/
  | connect (cause : EngineError)
  /-- The text that names the endpoint is no connection URL. -/
  | url (cause : UrlError)
  /-- A result has another shape than its statement asks for. -/
  | unexpectedResult (text : String)
  deriving DecidableEq, Repr

namespace Fault

/-- The fault of a statement that ended in an error. -/
def ofEngine (sql : String) (error : EngineError) : Fault :=
  if error.isLoss then .connectionLost sql error else .execution sql error

/-- Whether the connection was lost. -/
def isLoss : Fault → Bool
  | .connectionLost _ _ => true
  | _ => false

/-- The code of the server where it rejected the statement. -/
def code? : Fault → Option UInt16
  | .execution _ cause => cause.code?
  | _ => none

/-- The text of a fault. -/
def message : Fault → String
  | .compile cause => "Compile error: " ++ cause.message
  | .execution sql cause => "MySQL error: " ++ cause.text ++ " (statement: " ++ sql ++ ")"
  | .connectionLost sql _ => "Connection lost while executing: " ++ sql
  | .connect cause => "Failed to connect to MySQL: " ++ cause.text
  | .url cause => "Invalid MySQL connection URL: " ++ cause.message
  | .unexpectedResult text => "Unexpected result: " ++ text

/-- The texts of a fault and of all that is behind it. -/
def chain (fault : Fault) : List String :=
  fault.message :: match fault with
    | .compile cause => [cause.message]
    | .execution _ cause | .connectionLost _ cause | .connect cause => [cause.text, cause.cause]
    | .url cause => [cause.message]
    | .unexpectedResult _ => []

end Fault

end TableGateway
