import TableGateway.Text.Numeral

/-!
# Errors of the engine

What can go wrong between handing a statement to the engine and having its result: the server
rejects it, the transport fails, or the driver between them refuses.

* `EngineError.text` — the text of an error, and `EngineError.cause` the text of what is behind it.
* `EngineError.isLoss` — whether the connection is gone with it.
-/

namespace TableGateway

/-- A rejection by the server. -/
structure ServerError where
  code : UInt16
  message : String
  /-- The SQLSTATE. -/
  state : String
  deriving DecidableEq, Repr

/-- The text of a rejection. -/
def ServerError.text (e : ServerError) : String :=
  "ERROR " ++ e.state ++ " (" ++ toString e.code.toNat ++ "): " ++ e.message

/-- A refusal by the driver. -/
inductive DriverError where
  | connectionClosed
  | poolDisconnected
  | packetOutOfOrder
  | mixedParams
  | packetTooLarge
  | nestedTransaction
  /-- A statement comes with another number of values than it has placeholders. -/
  | paramCount (required supplied : Nat)
  deriving DecidableEq, Repr

/-- The text of a refusal. -/
def DriverError.text : DriverError → String
  | .connectionClosed => "Connection to the server is closed."
  | .poolDisconnected => "Pool was disconnected."
  | .packetOutOfOrder => "Packet out of order."
  | .mixedParams => "Named and positional parameters mixed in one statement."
  | .packetTooLarge => "Packet too large."
  | .nestedTransaction => "Transactions couldn't be nested."
  | .paramCount required supplied =>
    "Statement takes " ++ toString required ++ " parameters but " ++ toString supplied ++
      " was supplied."

/-- An error on the way to the engine and back. -/
inductive EngineError where
  | server (error : ServerError)
  /-- The transport failed. -/
  | io (message : String)
  | driver (error : DriverError)
  | other (message : String)
  deriving DecidableEq, Repr

namespace EngineError

/-- The text of what is behind an error. -/
def cause : EngineError → String
  | .server e => e.text
  | .io message => message
  | .driver e => e.text
  | .other message => message

/-- The text of an error. -/
def text : EngineError → String
  | .server e => "Server error: \x60" ++ e.text ++ "'"
  | .io message => "Input/output error: " ++ message
  | .driver e => "Driver error: \x60" ++ e.text ++ "'"
  | .other message => "Other error: " ++ message

/-- The code of the server. -/
def code? : EngineError → Option UInt16
  | .server e => some e.code
  | _ => none

/-- Whether the connection is gone. -/
def isLoss : EngineError → Bool
  | .io _ => true
  | .driver .connectionClosed => true
  | _ => false

end EngineError

end TableGateway
