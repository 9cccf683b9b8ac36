import TableGateway.Engine.Replay
import TableGateway.Engine.Session
import Mathlib.Data.List.Basic

/-!
# The handle of a session

What a session does with its one connection, over any sequence of requests and any peer.  A peer
decides each answer by all that passed before, and what passes is written down.

* `EngineError.Loses` — the failures that end a connection, apart from the session's own test.
* `Contact` — what passes between a session and its peer, with the peer's answer.
* `Behaviour` — a peer that answers in any way; `Behaviour.run` is a session of requests with it.
* `Exchange` — one request of a session: the handle before and after it, what passed, the result.
* `Exchange.Valid` — all that one request can do; `valid_perform` proves it.
* `Exchange.Regular` — what that says of dials, statements, handles and faults.
* `Holds` — contacts that open a connection only where none is held and use only the one that is.
* **`Behaviour.run_regular`** — whole sessions: every request is regular and goes on with the handle
  that the one before it left, no statement is handed over again, no two connections are open at
  once.
-/

namespace TableGateway

variable {κ : Type}

/-- A failure ends the connection: an error of input or output, or the driver finding the connection
closed. -/
inductive EngineError.Loses : EngineError → Prop where
  | io (message : String) : Loses (.io message)
  | closed : Loses (.driver .connectionClosed)

/-- The test of a session tells just these failures. -/
lemma EngineError.isLoss_iff {e : EngineError} : e.isLoss = true ↔ e.Loses := by
  constructor
  · intro h
    unfold isLoss at h
    split at h
    · exact .io _
    · exact .closed
    · contradiction
  · rintro (message | _)
    · rfl
    · rfl

/-- All other errors leave the connection. -/
lemma EngineError.not_loses {e : EngineError} :
    ¬ e.Loses ↔ (∀ message, e ≠ .io message) ∧ e ≠ .driver .connectionClosed := by
  constructor
  · refine fun h => ⟨?_, ?_⟩
    · rintro message rfl
      exact h (.io message)
    · rintro rfl
      exact h .closed
  · rintro ⟨hio, hclosed⟩ (message | _)
    · exact hio message rfl
    · exact hclosed rfl

/-- An error that leaves the connection is no loss. -/
lemma EngineError.isLoss_eq_false {e : EngineError} (h : ¬ e.Loses) : e.isLoss = false :=
  Bool.eq_false_iff.mpr (isLoss_iff.not.mpr h)

/-- What passes between a session and its peer, with what becomes of it. -/
inductive Contact (κ : Type) where
  | dial (answer : Except EngineError κ)
  /-- A statement, or a text without values, is handed to a connection. -/
  | handed (connection : κ) (request : Request) (answer : Except EngineError ResultSet)
  | disconnect (connection : κ) (answer : Except EngineError Unit)

/-- A peer that answers in any way, by all that passed before. -/
structure Behaviour (κ : Type) where
  dial : List (Contact κ) → Except EngineError κ
  answer : List (Contact κ) → κ → Request → Except EngineError ResultSet
  disconnect : List (Contact κ) → κ → Except EngineError Unit

/-- A request made to an executor; one without a result of its own has the empty outcome. -/
def Executor.perform {m : Type → Type} [Monad m] (executor : Executor m) :
    Request → ExceptT Fault m Outcome
  | .statement s => executor.execute s
  | .control sql => do
    executor.control sql
    pure .empty
  | .close => do
    executor.close
    pure .empty

/-- One request of a session. -/
structure Exchange (κ : Type) where
  request : Request
  /-- The handle before the request. -/
  before : Option κ
  /-- What passed between the session and its peer, in order. -/
  contacts : List (Contact κ)
  result : Except Fault Outcome
  /-- The handle after the request. -/
  after : Option κ

namespace Behaviour

/-- A contact: the peer answers by what passed before, and what passed is written down. -/
def recorded {α : Type} (answer : List (Contact κ) → Except EngineError α)
    (contact : Except EngineError α → Contact κ) :
    ExceptT EngineError (StateM (List (Contact κ))) α :=
  ExceptT.mk fun history => (answer history, history ++ [contact (answer history)])

/-- The peer of a behaviour. -/
def peer (b : Behaviour κ) : Peer (StateM (List (Contact κ))) κ where
  dial := recorded b.dial .dial
  execute c s := recorded (b.answer · c (.statement s)) (.handed c (.statement s))
  query c sql := recorded (b.answer · c (.control sql)) (.handed c (.control sql))
  disconnect c := recorded (b.disconnect · c) (.disconnect c)

/-- A request of a session that holds a handle: its result, the handle and the history after it. -/
def perform (b : Behaviour κ) (held : Option κ) (history : List (Contact κ)) (request : Request) :
    (Except Fault Outcome × Option κ) × List (Contact κ) :=
  (((Session.executor b.peer).perform request).run.run held).run history

/-- Requests one after the other, and the history after them. -/
def run (b : Behaviour κ) :
    Option κ → List (Contact κ) → List Request → List (Exchange κ) × List (Contact κ)
  | _, history, [] => ([], history)
  | held, history, request :: rest =>
    let ((result, after), later) := b.perform held history request
    let (others, final) := run b after later rest
    (⟨request, held, later.drop history.length, result, after⟩ :: others, final)

end Behaviour

/-! ## The steps of a session -/

namespace Session

section

variable {m : Type → Type} [Monad m] [LawfulMonad m] {α β : Type}

/-- Reading the held connection passes it on. -/
lemma run_get_bind (f : Option κ → ExceptT Fault (Session m κ) β) (held : Option κ) :
    (get >>= f).run.run held = (f held).run.run held := by
  change (ExceptT.lift get >>= f).run.run held = _
  simp

lemma run_set_bind (next : Option κ) (f : PUnit → ExceptT Fault (Session m κ) β)
    (held : Option κ) : (set next >>= f).run.run held = (f ⟨⟩).run.run next := by
  change (ExceptT.lift (set next) >>= f).run.run held = _
  simp

/-- An attempt hands on its error as a result, and never ends the session. -/
lemma run_attempt_bind (act : ExceptT EngineError m α)
    (f : Except EngineError α → ExceptT Fault (Session m κ) β) (held : Option κ) :
    (attempt act >>= f).run.run held = act.run >>= fun r => (f r).run.run held := by
  simp [attempt]

/-- What needs a connection runs on the one that is held, or else on one that is dialed. -/
lemma run_connection_bind (p : Peer m κ) (f : κ → ExceptT Fault (Session m κ) β)
    (held : Option κ) :
    (connection p >>= f).run.run held = match held with
      | some c => (f c).run.run (some c)
      | none => p.dial.run >>= fun
        | .ok c => (f c).run.run (some c)
        | .error e => pure (.error (.connect e), none) := by
  cases held with
  | some c => simp only [connection, bind_assoc, run_get_bind, pure_bind]
  | none =>
    simp only [connection, bind_assoc, run_get_bind, run_attempt_bind]
    refine bind_congr fun r => ?_
    cases r with
    | ok c => simp only [bind_assoc, run_set_bind, pure_bind]
    | error e => simp

/-- What becomes of a statement that is handed to a connection, and of the handle. -/
def settle (sql : String) (c : κ) : Except EngineError α → Except Fault α × Option κ
  | .ok a => (.ok a, some c)
  | .error (.io message) => (.error (.connectionLost sql (.io message)), none)
  | .error (.driver .connectionClosed) =>
    (.error (.connectionLost sql (.driver .connectionClosed)), none)
  | .error e => (.error (.execution sql e), some c)

/-- An error that loses the connection drops it and is reported as its loss. -/
lemma settle_of_loses (sql : String) (c : κ) {e : EngineError} (h : e.Loses) :
    settle sql c (.error e : Except EngineError α) = (.error (.connectionLost sql e), none) := by
  cases h with
  | io message => rfl
  | closed => rfl

/-- Any other error is reported of the statement and keeps the connection. -/
lemma settle_of_not_loses (sql : String) (c : κ) {e : EngineError} (h : ¬ e.Loses) :
    settle sql c (.error e : Except EngineError α) = (.error (.execution sql e), some c) := by
  cases e with
  | io message => exact absurd (.io message) h
  | driver cause => cases cause with
    | connectionClosed => exact absurd .closed h
    | _ => rfl
  | server _ | other _ => rfl

/-- The test of a session and the fault that it reports come to the same. -/
lemma settle_error (sql : String) (c : κ) (e : EngineError) :
    settle sql c (.error e : Except EngineError α) =
      (.error (Fault.ofEngine sql e), if e.isLoss then none else some c) := by
  by_cases h : e.Loses
  · rw [settle_of_loses sql c h, Fault.ofEngine, EngineError.isLoss_iff.mpr h]
    rfl
  · rw [settle_of_not_loses sql c h, Fault.ofEngine, EngineError.isLoss_eq_false h]
    rfl

/-- A request goes to the held connection, or to one that is dialled for it. -/
lemma run_send (p : Peer m κ) (sql : String) (act : κ → ExceptT EngineError m α)
    (held : Option κ) :
    (send p sql act).run.run held = match held with
      | some c => settle sql c <$> (act c).run
      | none => p.dial.run >>= fun
        | .ok c => settle sql c <$> (act c).run
        | .error e => pure (.error (.connect e), none) := by
  -- the rest of `send` is the same whether the connection was held or has just been dialed
  have hsettle (c : κ) : (do
      match ← attempt (act c) with
      | .ok a => pure a
      | .error e =>
        if e.isLoss then set (none : Option κ)
        throw (Fault.ofEngine sql e) : ExceptT Fault (Session m κ) α).run.run (some c) =
      settle sql c <$> (act c).run := by
    rw [run_attempt_bind, map_eq_pure_bind]
    refine bind_congr fun r => ?_
    cases r with
    | ok a => rfl
    | error e =>
      simp only [settle_error]
      cases e.isLoss with
      | false => rfl
      | true => exact run_set_bind none _ (some c)
  rw [send, run_connection_bind]
  cases held with
  | some c => exact hsettle c
  | none =>
    refine bind_congr fun r => ?_
    cases r with
    | ok c => exact hsettle c
    | error e => rfl

/-- Closing disconnects what is held, and keeps nothing even if that fails. -/
lemma run_close (p : Peer m κ) (held : Option κ) :
    (close p).run.run held = match held with
      | none => pure (.ok (), none)
      | some c => (p.disconnect c).run >>= fun
        | .ok () => pure (.ok (), none)
        | .error e => pure (.error (.connect e), none) := by
  rw [close, run_get_bind]
  cases held with
  | none => rfl
  | some c =>
    simp only [run_set_bind, run_attempt_bind]
    refine bind_congr fun r => ?_
    cases r <;> rfl

end

end Session

/-! ## One request -/

/-- What a request has from the result of its statement. -/
def Request.outcome : Request → ResultSet → Outcome
  | .statement _ => ResultSet.outcome
  | _ => fun _ => .empty

namespace Behaviour

variable (b : Behaviour κ) (history : List (Contact κ)) {request : Request}

@[simp] lemma run_recorded {α : Type} (answer : List (Contact κ) → Except EngineError α)
    (contact : Except EngineError α → Contact κ) :
    (recorded answer contact).run.run history =
      pure (answer history, history ++ [contact (answer history)]) :=
  rfl

/-- A request that does not close is sent. -/
lemma perform_eq (held : Option κ) (h : request ≠ .close) :
    b.perform held history request =
      (((Except.map request.outcome <$> (Session.send b.peer request.sql fun c =>
        recorded (b.answer · c request) (.handed c request)).run).run held).run history) := by
  cases request with
  | statement s =>
    simp [perform, Executor.perform, Session.executor, peer, Request.sql, Request.outcome]
  | control sql =>
    simp [perform, Executor.perform, Session.executor, peer, Request.sql, Request.outcome]
  | close => contradiction

/-- A request that is handed to the connection of the session. -/
lemma perform_held (h : request ≠ .close) (c : κ) :
    b.perform (some c) history request =
      ((Except.map request.outcome (Session.settle request.sql c (b.answer history c request)).1,
        (Session.settle request.sql c (b.answer history c request)).2),
        history ++ [.handed c request (b.answer history c request)]) := by
  rw [perform_eq b history _ h, StateT.run_map, Session.run_send]
  rfl

/-- Where dialling fails nothing is sent, and nothing is held. -/
lemma perform_refused (h : request ≠ .close) {e : EngineError}
    (hdial : b.dial history = .error e) :
    b.perform none history request =
      ((.error (.connect e), none), history ++ [.dial (.error e)]) := by
  rw [perform_eq b history _ h, StateT.run_map, Session.run_send]
  simp only [peer, StateT.run_map, StateT.run_bind, run_recorded, hdial, pure_bind]
  rfl

/-- A connection that is dialed for a request serves it like one that was held. -/
lemma perform_dialed (h : request ≠ .close) {c : κ} (hdial : b.dial history = .ok c) :
    b.perform none history request =
      b.perform (some c) (history ++ [.dial (.ok c)]) request := by
  rw [perform_held b _ h, perform_eq b _ _ h, StateT.run_map, Session.run_send]
  simp only [peer, StateT.run_map, StateT.run_bind, run_recorded, hdial, pure_bind]
  rfl

/-- Closing is seen only by a connection that is held. -/
lemma perform_close (held : Option κ) :
    b.perform held history .close = match held with
      | none => ((.ok .empty, none), history)
      | some c => match b.disconnect history c with
        | .ok () => ((.ok .empty, none), history ++ [.disconnect c (.ok ())])
        | .error e => ((.error (.connect e), none), history ++ [.disconnect c (.error e)]) := by
  simp only [perform, Executor.perform, Session.executor, bind_pure_comp, ExceptT.run_map,
    StateT.run_map, Session.run_close]
  cases held with
  | none => rfl
  | some c =>
    simp only [peer, StateT.run_bind, run_recorded, pure_bind]
    cases b.disconnect history c with
    | ok done => rfl
    | error e => rfl

end Behaviour

/-- A request has a connection: the one that is held, or else one that it dials. -/
inductive Reaches : Option κ → List (Contact κ) → κ → Prop where
  | held (c : κ) : Reaches (some c) [] c
  | dialed (c : κ) : Reaches none [.dial (.ok c)] c

/-- All that one request can do. -/
inductive Exchange.Valid : Exchange κ → Prop where
  | idle : Valid ⟨.close, none, [], .ok .empty, none⟩
  | closed (c : κ) : Valid ⟨.close, some c, [.disconnect c (.ok ())], .ok .empty, none⟩
  | closedBadly (c : κ) (e : EngineError) :
      Valid ⟨.close, some c, [.disconnect c (.error e)], .error (.connect e), none⟩
  | refused {request : Request} (hrequest : request ≠ .close) (e : EngineError) :
      Valid ⟨request, none, [.dial (.error e)], .error (.connect e), none⟩
  | answered {request : Request} (hrequest : request ≠ .close) {held : Option κ}
      {dials : List (Contact κ)} {c : κ} (h : Reaches held dials c) (result : ResultSet) :
      Valid ⟨request, held, dials ++ [.handed c request (.ok result)],
        .ok (request.outcome result), some c⟩
  | lost {request : Request} (hrequest : request ≠ .close) {held : Option κ}
      {dials : List (Contact κ)} {c : κ} (h : Reaches held dials c) {e : EngineError}
      (he : e.Loses) :
      Valid ⟨request, held, dials ++ [.handed c request (.error e)],
        .error (.connectionLost request.sql e), none⟩
  | failed {request : Request} (hrequest : request ≠ .close) {held : Option κ}
      {dials : List (Contact κ)} {c : κ} (h : Reaches held dials c) {e : EngineError}
      (he : ¬ e.Loses) :
      Valid ⟨request, held, dials ++ [.handed c request (.error e)],
        .error (.execution request.sql e), some c⟩

/-- A request that reaches a connection is a valid exchange. -/
lemma Behaviour.perform_reached (b : Behaviour κ) {history dials : List (Contact κ)}
    {request : Request} (h : request ≠ .close) {held : Option κ} {c : κ}
    (hreaches : Reaches held dials c)
    (hserved : b.perform held history request = b.perform (some c) (history ++ dials) request) :
    ∃ contacts result after,
      b.perform held history request = ((result, after), history ++ contacts) ∧
      Exchange.Valid ⟨request, held, contacts, result, after⟩ := by
  rw [hserved, perform_held b _ h]
  cases b.answer (history ++ dials) c request with
  | ok result => exact ⟨_, _, _, by rw [List.append_assoc]; rfl, .answered h hreaches result⟩
  | error e =>
    by_cases he : e.Loses
    · rw [Session.settle_of_loses _ _ he]
      exact ⟨_, _, _, by rw [List.append_assoc]; rfl, .lost h hreaches he⟩
    · rw [Session.settle_of_not_loses _ _ he]
      exact ⟨_, _, _, by rw [List.append_assoc]; rfl, .failed h hreaches he⟩

/-- Every request is a valid exchange. -/
theorem valid_perform (b : Behaviour κ) (held : Option κ) (history : List (Contact κ))
    (request : Request) :
    ∃ contacts result after,
      b.perform held history request = ((result, after), history ++ contacts) ∧
      Exchange.Valid ⟨request, held, contacts, result, after⟩ := by
  -- closing reaches for no connection, everything else needs one
  by_cases h : request = .close
  · subst h
    rw [b.perform_close]
    cases held with
    | none => exact ⟨[], _, _, by rw [List.append_nil], .idle⟩
    | some c =>
      cases hleave : b.disconnect history c with
      | ok done => exact ⟨_, _, _, by simp only [hleave], .closed c⟩
      | error e => exact ⟨_, _, _, by simp only [hleave], .closedBadly c e⟩
  · cases held with
    | some c => exact b.perform_reached h (.held c) (by rw [List.append_nil])
    | none =>
      cases hdial : b.dial history with
      | ok c => exact b.perform_reached h (.dialed c) (b.perform_dialed history h hdial)
      | error e => exact ⟨_, _, _, b.perform_refused history h hdial, .refused h e⟩

/-! ## What a request does

The contacts of a request tell which dials it made and how they ended, what was handed to which
connection, which connection was left, and where a connection came to be or ceased to be.
-/

namespace Contact

def dialed? : Contact κ → Option (Except EngineError κ)
  | .dial answer => some answer
  | _ => none

def handed? : Contact κ → Option (κ × Request)
  | .handed c request _ => some (c, request)
  | _ => none

def left? : Contact κ → Option κ
  | .disconnect c _ => some c
  | _ => none

def failure? : Contact κ → Option EngineError
  | .handed _ _ (.error e) => some e
  | _ => none

def opens : Contact κ → Bool
  | .dial (.ok _) => true
  | _ => false

/-- A connection that is lost is gone like one that is left. -/
def ends : Contact κ → Bool
  | .handed _ _ (.error (.io _)) => true
  | .handed _ _ (.error (.driver .connectionClosed)) => true
  | .disconnect _ _ => true
  | _ => false

/-- A contact that loses the connection ends it. -/
lemma ends_of_loses (c : κ) (request : Request) {e : EngineError} (h : e.Loses) :
    ends (.handed c request (.error e)) = true := by
  cases h with
  | io message => rfl
  | closed => rfl

lemma ends_of_not_loses (c : κ) (request : Request) {e : EngineError} (h : ¬ e.Loses) :
    ends (.handed c request (.error e)) = false := by
  cases e with
  | io message => exact absurd (.io message) h
  | driver cause => cases cause with
    | connectionClosed => exact absurd .closed h
    | _ => rfl
  | server _ | other _ => rfl

end Contact

namespace Exchange

def dials (x : Exchange κ) : List (Except EngineError κ) :=
  x.contacts.filterMap Contact.dialed?

def failure? (x : Exchange κ) : Option EngineError :=
  x.contacts.findSome? Contact.failure?

/-- The connection that a request is for: the handle, or else what its dial gives. -/
def reached? (x : Exchange κ) : Option κ :=
  if x.request = .close then none
  else x.before.orElse fun _ => x.dials.findSome? Except.toOption

/-- What a request does with the connection of its session. -/
structure Regular (x : Exchange κ) : Prop where
  /-- A dial is attempted exactly for a statement or a text without a handle. -/
  dials : x.dials.length = if x.request ≠ .close ∧ x.before = none then 1 else 0
  /-- The request is handed over once to the connection it has, and not at all without one. -/
  handed : x.contacts.filterMap Contact.handed? = x.reached?.toList.map (·, x.request)
  /-- Only closing takes leave, of the handle that there is. -/
  left : x.contacts.filterMap Contact.left? =
    if x.request = .close then x.before.toList else []
  /-- There is no handle afterwards just if the request was closing, its dial failed, or its
  statement ended in an error of input or output or found the connection closed. -/
  absent : x.after = none ↔ x.request = .close ∨ (∃ e, .error e ∈ x.dials) ∨
    (∃ message, x.failure? = some (.io message)) ∨ x.failure? = some (.driver .connectionClosed)
  /-- A handle that there is afterwards is the connection that the request had. -/
  kept : ∀ c, x.after = some c → x.reached? = some c
  /-- These two failures are told from all others. -/
  lost : ∀ e, x.failure? = some e → ((∃ message, e = .io message) ∨ e = .driver .connectionClosed) →
    x.result = .error (.connectionLost x.request.sql e)
  failed : ∀ e, x.failure? = some e → (∀ message, e ≠ .io message) →
    e ≠ .driver .connectionClosed → x.result = .error (.execution x.request.sql e)
  refused : ∀ e, .error e ∈ x.dials → x.result = .error (.connect e)
  /-- Only the failure of a statement is reported as one. -/
  unfailed : x.failure? = none → ∀ fault, x.result = .error fault → ∃ e, fault = .connect e

section

attribute [local simp] Exchange.dials reached? Exchange.failure? Contact.dialed? Contact.handed?
  Contact.left? Contact.failure? Except.toOption Fault.ofEngine List.filterMap_cons
  List.findSome?_cons

/-- A valid exchange is regular. -/
lemma Valid.regular {x : Exchange κ} (h : Valid x) : x.Regular := by
  -- each way that a request can go is a list of one or two contacts, in which all clauses compute
  cases h with
  | idle => constructor <;> simp
  | closed c => constructor <;> simp
  | closedBadly c e => constructor <;> simp
  | refused hrequest e => constructor <;> simp [hrequest]
  | answered hrequest h result => cases h <;> constructor <;> simp [hrequest]
  | lost hrequest h he => cases he <;> cases h <;> constructor <;> simp [hrequest]
  | failed hrequest h he =>
    obtain ⟨hio, hclosed⟩ := EngineError.not_loses.mp he
    cases h <;> constructor <;> simp [hrequest, hio, hclosed]

end

end Exchange

/-! ## One connection at a time -/

/-- Contacts from one handle to another: a dial only where no connection is held, and everything
else only with the connection that is held. -/
inductive Holds : Option κ → List (Contact κ) → Option κ → Prop where
  | nil (held : Option κ) : Holds held [] held
  | refused (e : EngineError) {rest : List (Contact κ)} {after : Option κ} :
      Holds none rest after → Holds none (.dial (.error e) :: rest) after
  | dialed (c : κ) {rest : List (Contact κ)} {after : Option κ} :
      Holds (some c) rest after → Holds none (.dial (.ok c) :: rest) after
  | answered (c : κ) (request : Request) (result : ResultSet) {rest : List (Contact κ)}
      {after : Option κ} :
      Holds (some c) rest after → Holds (some c) (.handed c request (.ok result) :: rest) after
  | lost (c : κ) (request : Request) {e : EngineError} (he : e.Loses) {rest : List (Contact κ)}
      {after : Option κ} :
      Holds none rest after → Holds (some c) (.handed c request (.error e) :: rest) after
  | failed (c : κ) (request : Request) {e : EngineError} (he : ¬ e.Loses) {rest : List (Contact κ)}
      {after : Option κ} :
      Holds (some c) rest after → Holds (some c) (.handed c request (.error e) :: rest) after
  | left (c : κ) (answer : Except EngineError Unit) {rest : List (Contact κ)} {after : Option κ} :
      Holds none rest after → Holds (some c) (.disconnect c answer :: rest) after

namespace Holds

variable {first second third : Option κ} {contacts others : List (Contact κ)}

/-- Handles follow each other along the contacts. -/
lemma append (h : Holds first contacts second) (hothers : Holds second others third) :
    Holds first (contacts ++ others) third := by
  induction h with
  | nil => exact hothers
  | refused e _ ih => exact .refused e (ih hothers)
  | dialed c _ ih => exact .dialed c (ih hothers)
  | answered c request result _ ih => exact .answered c request result (ih hothers)
  | lost c request he _ ih => exact .lost c request he (ih hothers)
  | failed c request he _ ih => exact .failed c request he (ih hothers)
  | left c answer _ ih => exact .left c answer (ih hothers)

/-- There are never less than none and never more than one connection. -/
lemma single (h : Holds first contacts second) (n : Nat) :
    (contacts.take n).countP Contact.ends ≤
      first.toList.length + (contacts.take n).countP Contact.opens ∧
    first.toList.length + (contacts.take n).countP Contact.opens ≤
      (contacts.take n).countP Contact.ends + 1 := by
  induction h generalizing n with
  | nil held => cases held <;> simp
  | refused e _ ih => cases n with
    | zero => simp
    | succ n => simpa [List.countP_cons, Contact.ends, Contact.opens] using ih n
  | dialed c _ ih => cases n with
    | zero => simp
    | succ n =>
      have := ih n
      simp [List.countP_cons, Contact.ends, Contact.opens] at this ⊢
      omega
  | answered c request result _ ih => cases n with
    | zero => simp
    | succ n => simpa [List.countP_cons, Contact.ends, Contact.opens] using ih n
  | lost c request he _ ih => cases n with
    | zero => simp
    | succ n =>
      have := ih n
      simp [Contact.ends_of_loses c request he, Contact.opens] at this ⊢
      omega
  | failed c request he _ ih => cases n with
    | zero => simp
    | succ n =>
      simpa [List.countP_cons, Contact.ends_of_not_loses c request he, Contact.opens] using ih n
  | left c answer _ ih => cases n with
    | zero => simp
    | succ n =>
      have := ih n
      simp [List.countP_cons, Contact.ends, Contact.opens] at this ⊢
      omega

end Holds

/-- The contacts of a valid exchange lead from the handle before it to the one after it. -/
lemma Exchange.Valid.holds {x : Exchange κ} (h : x.Valid) :
    Holds x.before x.contacts x.after := by
  cases h with
  | idle => exact .nil none
  | closed c => exact .left c _ (.nil none)
  | closedBadly c e => exact .left c _ (.nil none)
  | refused _ e => exact .refused e (.nil none)
  | answered _ h result => cases h with
    | held => exact .answered _ _ result (.nil _)
    | dialed => exact .dialed _ (.answered _ _ result (.nil _))
  | lost _ h he => cases h with
    | held => exact .lost _ _ he (.nil _)
    | dialed => exact .dialed _ (.lost _ _ he (.nil _))
  | failed _ h he => cases h with
    | held => exact .failed _ _ he (.nil _)
    | dialed => exact .dialed _ (.failed _ _ he (.nil _))

/-! ## Sessions -/

/-- Requests one after the other, each valid and with the handle that the one before it left. -/
inductive Linked : Option κ → List (Exchange κ) → Option κ → Prop where
  | nil (held : Option κ) : Linked held [] held
  | cons {x : Exchange κ} {rest : List (Exchange κ)} {after : Option κ} :
      x.Valid → Linked x.after rest after → Linked x.before (x :: rest) after

/-- Requests are exchanges that hand the connection on, by induction on their list. -/
lemma Behaviour.linked_run (b : Behaviour κ) (held : Option κ) (history : List (Contact κ))
    (requests : List Request) :
    ∃ exchanges after, b.run held history requests =
        (exchanges, history ++ exchanges.flatMap Exchange.contacts) ∧
      exchanges.map Exchange.request = requests ∧ Linked held exchanges after := by
  -- the next request starts from the handle and the history that this one leaves
  induction requests generalizing held history with
  | nil => exact ⟨[], held, by simp [run], rfl, .nil held⟩
  | cons request rest ih =>
    obtain ⟨contacts, result, next, hperform, hvalid⟩ := valid_perform b held history request
    obtain ⟨others, after, hrun, hrequests, hlinked⟩ := ih next (history ++ contacts)
    refine ⟨⟨request, held, contacts, result, next⟩ :: others, after, ?_, ?_, .cons hvalid hlinked⟩
    · simp [run, hperform, hrun]
    · simp [hrequests]

namespace Linked

variable {first last : Option κ} {exchanges : List (Exchange κ)}

/-- Every exchange of a run is regular. -/
lemma regular (h : Linked first exchanges last) : ∀ x ∈ exchanges, x.Regular := by
  induction h with
  | nil => simp
  | cons hvalid _ ih => simpa using ⟨hvalid.regular, ih⟩

/-- Each exchange starts with what the one before it left. -/
lemma handles (h : Linked first exchanges last) :
    first :: exchanges.map Exchange.after = exchanges.map Exchange.before ++ [last] := by
  induction h with
  | nil => rfl
  | cons _ _ ih => rw [List.map_cons, List.map_cons, List.cons_append, ih]

/-- The contacts of a run lead from its first handle to its last. -/
lemma holds (h : Linked first exchanges last) :
    Holds first (exchanges.flatMap Exchange.contacts) last := by
  induction h with
  | nil held => exact .nil held
  | cons hvalid _ ih => exact hvalid.holds.append ih

/-- Each request is handed over once at most, to the connection it reached. -/
lemma handed (h : Linked first exchanges last) :
    (exchanges.flatMap Exchange.contacts).filterMap Contact.handed? =
      exchanges.flatMap fun x => x.reached?.toList.map (·, x.request) := by
  rw [List.filterMap_flatMap]
  refine List.flatMap_congr fun x hx => (h.regular x hx).handed

end Linked

/-- What holds of a session that begins without a handle. -/
structure RegularRun (requests : List Request) (exchanges : List (Exchange κ))
    (history : List (Contact κ)) : Prop where
  made : exchanges.map Exchange.request = requests
  passed : exchanges.flatMap Exchange.contacts = history
  regular : ∀ x ∈ exchanges, x.Regular
  /-- Each request goes on with the handle that the one before it left, and every contact is with
  the connection that is held. -/
  handles : ∃ last, none :: exchanges.map Exchange.after = exchanges.map Exchange.before ++ [last] ∧
    Holds none history last
  /-- In all, a request is handed over once if it has a connection, and no other time. -/
  handed : history.filterMap Contact.handed? =
    exchanges.flatMap fun x => x.reached?.toList.map (·, x.request)
  /-- At any time there is one connection at most. -/
  single : ∀ n, (history.take n).countP Contact.ends ≤ (history.take n).countP Contact.opens ∧
    (history.take n).countP Contact.opens ≤ (history.take n).countP Contact.ends + 1

/-- **A session with any peer is regular, whatever is requested of it.**  It dials exactly where a
statement or a text comes and no handle is there; hands each of them over once to the connection it
then has; is without a handle exactly after a failed dial, a loss and closing; and tells a loss
from another failure. -/
theorem Behaviour.run_regular (b : Behaviour κ) (requests : List Request) :
    RegularRun requests (b.run none [] requests).1 (b.run none [] requests).2 := by
  obtain ⟨exchanges, last, hrun, hrequests, hlinked⟩ := b.linked_run none [] requests
  rw [hrun, List.nil_append]
  have hsingle := hlinked.holds.single
  simp only [Option.toList_none, List.length_nil, Nat.zero_add] at hsingle
  exact ⟨hrequests, rfl, hlinked.regular, ⟨last, hlinked.handles, hlinked.holds⟩, hlinked.handed,
    hsingle⟩

end TableGateway
