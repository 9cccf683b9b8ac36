import Mathlib.Tactic.Lemma
import TableGateway.Engine.Replay
import TableGateway.Gateway

/-!
# Calls of an executor

What an operation calls its executor with, for an executor that answers in any way.

* `Call` — a request and its answer.
* `Responder` — an executor that decides each answer by all calls before.
* `Makes` — what an effect gives and which calls it makes, with one lemma for each way of putting
  effects together and one for each operation.
* `Attempts` — requests made in order until one fails.
-/

namespace TableGateway

/-- A request to an executor and its answer. -/
structure Call where
  request : Request
  answer : Except Fault Outcome

/-- The fault that there is in place of a result. -/
def faultOf {α : Type} : Except Fault α → Option Fault
  | .ok _ => none
  | .error e => some e

@[simp] lemma faultOf_ok {α : Type} (a : α) : faultOf (.ok a) = none := rfl

@[simp] lemma faultOf_error {α : Type} (e : Fault) :
    faultOf (.error e : Except Fault α) = some e :=
  rfl

@[simp] lemma faultOf_map {α β : Type} (f : α → β) (result : Except Fault α) :
    faultOf (result.map f) = faultOf result := by
  cases result with
  | ok a => rfl
  | error e => rfl

namespace Call

/-- The fault that a call ended in. -/
def fault? (call : Call) : Option Fault :=
  faultOf call.answer

/-- Whether a call succeeded. -/
def succeeded (call : Call) : Bool :=
  call.fault?.isNone

@[simp] lemma fault?_mk (request : Request) (answer : Except Fault Outcome) :
    (⟨request, answer⟩ : Call).fault? = faultOf answer :=
  rfl

@[simp] lemma findSome?_cons_ok (request : Request) (outcome : Outcome) (rest : List Call) :
    (⟨request, .ok outcome⟩ :: rest : List Call).findSome? fault? = rest.findSome? fault? :=
  rfl

/-- All calls succeed if none has a fault. -/
lemma all_succeeded (calls : List Call) :
    calls.all succeeded = (calls.findSome? fault?).isNone := by
  induction calls with
  | nil => rfl
  | cons call rest ih =>
    rw [List.all_cons, List.findSome?_cons, ih, succeeded]
    cases call.fault? with
    | none => rfl
    | some e => rfl

lemma all_succeeded_iff {calls : List Call} :
    calls.all succeeded = true ↔ calls.findSome? fault? = none := by
  rw [all_succeeded, Option.isNone_iff_eq_none]

end Call

/-- An executor that answers in any way, by all calls before. -/
def Responder := List Call → Request → Except Fault Outcome

namespace Responder

/-- A call: the answer depends on the calls before, and the call is written down. -/
def call (respond : Responder) (request : Request) : ExceptT Fault (StateM (List Call)) Outcome :=
  ExceptT.mk fun calls => (respond calls request, calls ++ [⟨request, respond calls request⟩])

/-- The executor of a responder. -/
def executor (respond : Responder) : Executor (StateM (List Call)) where
  execute s := respond.call (.statement s)
  control sql := discard (respond.call (.control sql))
  close := discard (respond.call .close)

end Responder

/-- What is settled may be mapped before. -/
lemma map_settled {m : Type → Type} [Monad m] [LawfulMonad m] {α β : Type} (f : α → β)
    (result : Except Fault α) :
    f <$> (settled result : ExceptT Fault m α) = settled (result.map f) := by
  cases result with
  | ok a => exact map_pure f a
  | error e => exact ExceptT.ext (by simp [settled, Except.map])

/-! ## Effects and their calls -/

/-- After the calls before, an effect has a result and makes calls. -/
def Makes {α : Type} (act : ExceptT Fault (StateM (List Call)) α) (before : List Call)
    (result : Except Fault α) (calls : List Call) : Prop :=
  act.run.run before = (result, before ++ calls)

namespace Makes

variable {α β : Type} {act : ExceptT Fault (StateM (List Call)) α} {before calls others : List Call}

lemma pure (a : α) (before : List Call) : Makes (pure a) before (.ok a) [] := by
  rw [Makes, List.append_nil]
  rfl

lemma throw (e : Fault) (before : List Call) :
    Makes (throw e : ExceptT Fault (StateM (List Call)) α) before (.error e) [] := by
  rw [Makes, List.append_nil]
  rfl

lemma settled (result : Except Fault α) (before : List Call) :
    Makes (settled result) before result [] := by
  rw [Makes, List.append_nil]
  rfl

/-- After success the calls go on. -/
lemma bind_ok {f : α → ExceptT Fault (StateM (List Call)) β} {a : α} {result : Except Fault β}
    (h : Makes act before (.ok a) calls) (hnext : Makes (f a) (before ++ calls) result others) :
    Makes (act >>= f) before result (calls ++ others) := by
  rw [Makes, ExceptT.run_bind, StateT.run_bind, h, ← List.append_assoc]
  exact hnext

/-- After a fault there are no more calls. -/
lemma bind_error {f : α → ExceptT Fault (StateM (List Call)) β} {e : Fault}
    (h : Makes act before (.error e) calls) : Makes (act >>= f) before (.error e) calls := by
  rw [Makes, ExceptT.run_bind, StateT.run_bind, h]
  rfl

/-- What goes on after an effect that does not fail, or whose fault is in hand. -/
lemma bind_lift {act : StateM (List Call) α} {f : α → ExceptT Fault (StateM (List Call)) β}
    {a : α} {result : Except Fault β} (h : act.run before = (a, before ++ calls))
    (hnext : Makes (f a) (before ++ calls) result others) :
    Makes (ExceptT.lift act >>= f) before result (calls ++ others) := by
  rw [Makes, ExceptT.run_bind_lift, StateT.run_bind, h, ← List.append_assoc]
  exact hnext

/-- What goes on after an effect that makes no call. -/
lemma bind_read {act : StateM (List Call) α} {f : α → ExceptT Fault (StateM (List Call)) β}
    {a : α} {result : Except Fault β} (h : act.run before = (a, before))
    (hnext : Makes (f a) before result calls) :
    Makes (ExceptT.lift act >>= f) before result calls := by
  rw [Makes, ExceptT.run_bind_lift, StateT.run_bind, h]
  exact hnext

/-- A map over the result makes the same calls. -/
lemma map {result : Except Fault α} (h : Makes act before result calls) (f : α → β) :
    Makes (f <$> act) before (result.map f) calls := by
  rw [Makes, ExceptT.run_map, StateT.run_map, h]
  rfl

end Makes

namespace Responder

variable (respond : Responder) (before : List Call)

/-- A request is one call, with its answer. -/
lemma makes_call (request : Request) :
    Makes (respond.call request) before (respond before request)
      [⟨request, respond before request⟩] :=
  rfl

lemma makes_control (sql : String) :
    Makes (respond.executor.control sql) before ((respond before (.control sql)).map fun _ => ())
      [⟨.control sql, respond before (.control sql)⟩] :=
  (respond.makes_call before _).map fun _ => ()

/-! ## Operations -/

lemma makes_run (s : Statement) :
    Makes (Gateway.run respond.executor (.ok s)) before (respond before (.statement s))
      [⟨.statement s, respond before (.statement s)⟩] := by
  refine (Makes.settled (.ok s) before).bind_ok ?_
  rw [List.append_nil]
  exact respond.makes_call before _

lemma makes_define {decl : TableDecl} {s : Statement} (h : Statement.define decl = .ok s) :
    Makes (Gateway.define respond.executor decl) before
      ((respond before (.statement s)).map fun _ => ())
      [⟨.statement s, respond before (.statement s)⟩] := by
  rw [Gateway.define, h, bind_pure_comp]
  exact (respond.makes_run before s).map fun _ => ()

lemma makes_undefine (table : String) :
    Makes (Gateway.undefine respond.executor table) before
      ((respond before (.statement (Statement.undefine table))).map fun _ => ())
      [⟨.statement (Statement.undefine table),
        respond before (.statement (Statement.undefine table))⟩] := by
  rw [Gateway.undefine, bind_pure_comp]
  exact (respond.makes_call before _).map fun _ => ()

/-- An insertion is one call, whose outcome is read as an insertion. -/
lemma makes_insert {table : String} {decl : Option TableDecl} {rows : List Row} {s : Statement}
    (h : Statement.insert table (Statement.insertFields decl rows) rows = .ok s) :
    Makes (Gateway.insert respond.executor table decl rows) before
      ((respond before (.statement s)).map (Insertion.ofOutcome rows))
      [⟨.statement s, respond before (.statement s)⟩] := by
  have hrows : rows.isEmpty = false := by
    cases rows with
    | nil => contradiction
    | cons row rest => rfl
  simp only [Gateway.insert, hrows, h, bind_pure_comp]
  exact (respond.makes_run before s).map _

/-- Whether a table exists is whether its probe succeeds. -/
lemma run_defined (table : String) :
    (Gateway.defined respond.executor table).run before =
      ((faultOf (respond before (.statement (Statement.probe table)))).isNone,
        before ++ [⟨.statement (Statement.probe table),
          respond before (.statement (Statement.probe table))⟩]) := by
  have hcall := respond.makes_call before (.statement (Statement.probe table))
  rw [Makes] at hcall
  rw [Gateway.defined, StateT.run_bind]
  simp only [executor, hcall]
  cases respond before (.statement (Statement.probe table)) with
  | ok outcome => rfl
  | error e => rfl

end Responder

/-! ## Requests in order -/

/-- Requests made in order, up to the first that fails. -/
inductive Attempts : List Request → List Call → Prop where
  | nil : Attempts [] []
  | failed (request : Request) (e : Fault) (rest : List Request) :
      Attempts (request :: rest) [⟨request, .error e⟩]
  | next (request : Request) (outcome : Outcome) {rest : List Request} {calls : List Call} :
      Attempts rest calls → Attempts (request :: rest) (⟨request, .ok outcome⟩ :: calls)

end TableGateway
