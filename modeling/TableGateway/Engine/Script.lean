import TableGateway.Engine.Session

/-!
# Scripted peers

`Script.peer` is a peer without a network: it accepts or refuses connections as a list of dials
says, answers statements as a list of replies says, and keeps a log of what reached it.

A statement whose number of values is not that of its placeholders is refused by the driver before
it is sent, so it neither takes a reply nor is logged.
-/

namespace TableGateway

/-- What becomes of an attempt to connect. -/
inductive DialReply where
  | accept
  | refuse (error : EngineError)
  /-- The connection closes before anything is said. -/
  | drop

/-- What becomes of a statement. -/
inductive PeerReply where
  | result (result : ResultSet)
  | error (error : EngineError)
  /-- The connection closes instead of an answer. -/
  | drop

/-- What reached a peer. -/
inductive PeerEvent where
  | dialed (user database : Option String)
  | dialDropped
  | statement (s : Statement)
  | query (sql : String)

/-- What a peer will do, and what reached it. -/
structure Script where
  dials : List DialReply
  replies : List PeerReply
  /-- What reached the peer, the last event first. -/
  events : List PeerEvent

namespace Script

/-- A result without rows. -/
def emptyResult : ResultSet := ⟨[], [], 0, none⟩

/-- The transport's error where a connection closes. -/
def closed : EngineError := .io "connection closed"

/-- The number of question marks outside names, read on from a point inside a name or outside. -/
def placeholdersFrom (inName : Bool) : List Char → Nat
  | [] => 0
  | c :: rest =>
    if c = Piece.backtick then placeholdersFrom (!inName) rest
    else (if c = '?' ∧ !inName then 1 else 0) + placeholdersFrom inName rest

/-- The number of placeholders in a text. -/
def placeholders (sql : String) : Nat :=
  placeholdersFrom false sql.toList

/-- Log an event. -/
def log (event : PeerEvent) : StateM Script Unit :=
  modify fun s => { s with events := event :: s.events }

/-- Take the next dial. -/
def nextDial : StateM Script DialReply := fun s =>
  match s.dials with
  | [] => (.accept, s)
  | dial :: rest => (dial, { s with dials := rest })

/-- Take the next reply. -/
def nextReply : StateM Script PeerReply := fun s =>
  match s.replies with
  | [] => (.result emptyResult, s)
  | reply :: rest => (reply, { s with replies := rest })

/-- A span without any time in it. -/
def isZeroSpan (t : RawTime) : Bool :=
  t.days == 0 && t.hours == 0 && t.minutes == 0 && t.seconds == 0 && t.micros == 0

/-- A cell as it arrives in answer to a statement: an unsigned number that a signed one can hold
comes as that, and a span of zero has no sign. -/
def arrived : Cell → Cell
  | .uint n => if n.toNat < 0x8000000000000000 then .int (Int64.ofNat n.toNat) else .uint n
  | .time t => .time (if isZeroSpan t then { t with negative := false } else t)
  | c => c

/-- A cell as it arrives in answer to a text without values: all but null is text. -/
def spelled : Cell → Cell
  | .null => .null
  | .bytes b => .bytes b
  | c => .text (c.toValue .other).likeText

/-- A result whose cells arrive in this way. -/
def arriving (way : Cell → Cell) (r : ResultSet) : ResultSet :=
  { r with rows := r.rows.map fun cells => cells.map fun cell => cell.map way }

/-- Answer an attempt to connect. -/
def dial (endpoint : Endpoint) : ExceptT EngineError (StateM Script) Unit := do
  match ← ExceptT.lift nextDial with
  | .accept => ExceptT.lift (log (.dialed endpoint.user endpoint.database))
  | .refuse e =>
    ExceptT.lift (log (.dialed endpoint.user endpoint.database))
    throw e
  | .drop =>
    ExceptT.lift (log .dialDropped)
    throw closed

/-- Answer what reached the peer, with the way in which cells arrive. -/
def answer (event : PeerEvent) (way : Cell → Cell) :
    ExceptT EngineError (StateM Script) ResultSet := do
  ExceptT.lift (log event)
  match ← ExceptT.lift nextReply with
  | .result result => pure (arriving way result)
  | .error e => throw e
  | .drop => throw closed

/-- Answer a statement. -/
def execute (s : Statement) : ExceptT EngineError (StateM Script) ResultSet :=
  let required := placeholders s.sql
  if required = s.params.length then answer (.statement s) arrived
  else throw (.driver (.paramCount required s.params.length))

/-- The peer at an endpoint. -/
def peer (endpoint : Endpoint) : Peer (StateM Script) Unit where
  dial := dial endpoint
  execute _ s := execute s
  query _ sql := answer (.query sql) spelled
  disconnect _ := pure ()

end Script

end TableGateway
