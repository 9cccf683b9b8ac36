import TableGateway.Gateway
import TableGateway.Proofs.Engine.Session
import TableGateway.Proofs.Engine.Transcript
import TableGateway.Proofs.Except

/-!
# Operations and their calls

A sequence of operations over an executor whose answers are a sequence of their own: which calls
are made, and what becomes of their faults.

* `Operation` — the operations of the gateway as data; `Operation.request?` is the one request of
  an operation, by the operation alone.
* `Outcome.Counts` — the number that the first row of a result holds in its count's cell.
* `Operation.perform_eq_exchange` — over any executor, an operation is that request and the reading
  of its answer.
* `Operation.valid_perform` — one operation: no call without a request, and else the one call, whose
  answer `Operation.read` turns into the result.
* `Step.Regular` — what that says of the calls and the fault of an operation.
* **`Operation.performAll_regular`** — whole sequences: every operation is regular, the calls come
  in the order of the operations, and each takes the next answer.
-/

namespace TableGateway

/-! ## Operations as data -/

/-- An operation of the gateway. -/
inductive Operation where
  | load (q : Query)
  | count (q : Query) (paginate : Bool)
  | insert (table : String) (decl : Option TableDecl) (rows : List Row)
  | update (q : Query) (sets : Row)
  | delete (q : Query)
  | define (decl : TableDecl)
  | undefine (table : String)
  | defined (table : String)
  | start
  | commit
  | rollback
  | finish

/-- What an operation gives. -/
inductive Operation.Yield where
  | rows (rows : List Row)
  | number (n : UInt64)
  | insertion (insertion : Insertion)
  | truth (holds : Bool)
  | done

namespace Operation

/-- The request of an operation, or the reason that it has none.  An insertion of no rows has
nothing to request. -/
def request? : Operation → Except CompileError (Option Request)
  | .load q => (Statement.select q).map fun s => some (.statement s)
  | .count q paginate => (Statement.count q paginate).map fun s => some (.statement s)
  | .insert table decl rows =>
    if rows.isEmpty then .ok none
    else (Statement.insert table (Statement.insertFields decl rows) rows).map fun s =>
      some (.statement s)
  | .update q sets => (Statement.update q sets).map fun s => some (.statement s)
  | .delete q => (Statement.delete q).map fun s => some (.statement s)
  | .define decl => (Statement.define decl).map fun s => some (.statement s)
  | .undefine table => .ok (some (.statement (Statement.undefine table)))
  | .defined table => .ok (some (.statement (Statement.probe table)))
  | .start => .ok (some (.control "START TRANSACTION"))
  | .commit => .ok (some (.control "COMMIT"))
  | .rollback => .ok (some (.control "ROLLBACK"))
  | .finish => .ok (some .close)

/-- Whether an operation asks if a table exists. -/
def isProbe : Operation → Bool
  | .defined _ => true
  | _ => false

section

variable {m : Type → Type} [Monad m]

/-- Do an operation. -/
def perform (executor : Executor m) : Operation → ExceptT Fault m Yield
  | .load q => Yield.rows <$> Gateway.load executor q
  | .count q paginate => Yield.number <$> Gateway.count executor q paginate
  | .insert table decl rows => Yield.insertion <$> Gateway.insert executor table decl rows
  | .update q sets => Yield.number <$> Gateway.update executor q sets
  | .delete q => Yield.number <$> Gateway.delete executor q
  | .define decl => (fun _ => Yield.done) <$> Gateway.define executor decl
  | .undefine table => (fun _ => Yield.done) <$> Gateway.undefine executor table
  | .defined table => Yield.truth <$> ExceptT.lift (Gateway.defined executor table)
  | .start => (fun _ => Yield.done) <$> Gateway.start executor
  | .commit => (fun _ => Yield.done) <$> Gateway.commit executor
  | .rollback => (fun _ => Yield.done) <$> Gateway.rollback executor
  | .finish => (fun _ => Yield.done) <$> Gateway.finish executor

/-- Do operations one after the other, whatever becomes of each. -/
def performAll (executor : Executor m) (operations : List Operation) :
    m (List (Except Fault Yield)) :=
  operations.mapM fun operation => (operation.perform executor).run

end

/-- What an operation reads in the outcome of its request. -/
def readOutcome : Operation → Outcome → Except Fault Yield
  | .load _, outcome => .ok (.rows outcome.rows)
  | .count _ _, outcome => (Gateway.countOf outcome).map .number
  | .insert _ _ rows, outcome => .ok (.insertion (.ofOutcome rows outcome))
  | .update _ _, outcome => .ok (.number outcome.affected)
  | .delete _, outcome => .ok (.number outcome.affected)
  | .defined _, _ => .ok (.truth true)
  | _, _ => .ok .done

/-- What an operation makes of the answer to its request. -/
def read (operation : Operation) (answer : Except Fault Outcome) : Except Fault Yield :=
  match answer with
  | .ok outcome => operation.readOutcome outcome
  | .error e => if operation.isProbe then .ok (.truth false) else .error e

end Operation

/-! ## Counts -/

/-- A value is the number of a count: an integer that is not negative, or the text of one with or
without a plus sign, within 64 bits. -/
inductive Value.IsCount : Value → UInt64 → Prop where
  | unsigned (n : UInt64) : IsCount (.uint n) n
  | signed (n : Int64) (h : 0 ≤ n.toInt) : IsCount (.int n) (UInt64.ofNat n.toInt.toNat)
  | text {s : String} {sign digits : List Char} (n : UInt64) (hs : s.toList = sign ++ digits)
      (hsign : sign = [] ∨ sign = ['+']) (hne : digits ≠ [])
      (hdigits : ∀ c ∈ digits, c.isDigit = true)
      (h : Nat.ofDigitChars 10 digits 0 = n.toNat) : IsCount (.string s) n

/-- The first row of a result has a count's cell with this number. -/
def Outcome.Counts (outcome : Outcome) (n : UInt64) : Prop :=
  ∃ row cell, outcome.rows.head? = some row ∧ row.find? "count" = some cell ∧ cell.IsCount n

namespace Gateway

/-- A value is read as a count if it is the number in one of the forms a count has. -/
lemma countValue?_eq_some {value : Value} {n : UInt64} :
    countValue? value = some n ↔ value.IsCount n := by
  constructor
  · intro h
    cases value with
    | uint k =>
      obtain rfl : k = n := by simpa [countValue?, Value.unsigned?] using h
      exact .unsigned k
    | int k =>
      obtain ⟨hk, rfl⟩ : 0 ≤ k.toInt ∧ UInt64.ofNat k.toInt.toNat = n := by
        simpa [countValue?, Value.unsigned?, Value.text?] using h
      exact .signed k hk
    | string s =>
      obtain ⟨v, hv, rfl⟩ : ∃ v, Text.natural? UInt64.size s = some v ∧ UInt64.ofNat v = n := by
        simpa [countValue?, Value.unsigned?, Value.text?] using h
      obtain ⟨hlt, sign, digits, hs, hsign, hvalue⟩ := Text.natural?_eq_some.mp hv
      obtain ⟨hne, hdigits, hsum⟩ := Text.value?_eq_some.mp hvalue
      exact .text _ hs hsign hne hdigits (by rw [hsum, UInt64.toNat_ofNat_of_lt' hlt])
    | _ => simp [countValue?, Value.unsigned?, Value.text?] at h
  · intro h
    cases h with
    | unsigned n => rfl
    | signed k hk => simp [countValue?, Value.unsigned?, hk]
    | text n hs hsign hne hdigits hsum =>
      have hread : Text.natural? UInt64.size _ = some n.toNat := Text.natural?_eq_some.mpr
        ⟨n.toNat_lt, _, _, hs, hsign, Text.value?_eq_some.mpr ⟨hne, hdigits, hsum⟩⟩
      simp [countValue?, Value.unsigned?, Value.text?, hread]

/-- A count has a result exactly if the first row of the outcome holds a number. -/
lemma countOf_eq_ok {outcome : Outcome} {n : UInt64} :
    countOf outcome = .ok n ↔ outcome.Counts n := by
  have hcounts : outcome.Counts n ↔ ∃ cell,
      outcome.rows.head?.bind (·.find? countColumn) = some cell ∧ countValue? cell = some n := by
    simp only [Outcome.Counts, countColumn, Option.bind_eq_some_iff, countValue?_eq_some]
    constructor
    · rintro ⟨row, cell, hrow, hcell, hn⟩
      exact ⟨cell, ⟨row, hrow, hcell⟩, hn⟩
    · rintro ⟨cell, ⟨row, hrow, hcell⟩, hn⟩
      exact ⟨row, cell, hrow, hcell, hn⟩
  rw [hcounts, countOf]
  cases outcome.rows.head?.bind (·.find? countColumn) with
  | none => simp
  | some cell =>
    cases hn : countValue? cell with
    | none => simp [hn]
    | some k => simp [hn]

end Gateway

/-! ## One request

An operation reads its statement, if it has one, makes a request of it and reads the answer.  That
is one equation over any executor, from which it follows what an operation does with an executor of
any kind.
-/

section

variable {m : Type → Type} [Monad m] [LawfulMonad m] (executor : Executor m)

/-- A statement that is run and whose outcome is read. -/
lemma Gateway.run_bind_settled {α : Type} (statement : Except CompileError Statement)
    (f : Outcome → Except Fault α) :
    (run executor statement >>= fun outcome => settled (f outcome)) = match statement with
      | .error e => settled (.error (.compile e))
      | .ok s => ExceptT.mk ((· >>= f) <$> (executor.execute s).run) := by
  refine ExceptT.ext ?_
  cases statement with
  | error e =>
    simp only [run, compiled, settled, Except.mapError, ExceptT.run_bind, ExceptT.run_mk, pure_bind]
  | ok s =>
    simp only [run, compiled, settled, Except.mapError, ExceptT.run_bind, ExceptT.run_mk, pure_bind,
      map_eq_pure_bind]
    refine bind_congr fun answer => ?_
    cases answer with
    | ok outcome => rfl
    | error e => rfl

namespace Operation

/-- The request of an operation, if it has one, and what is read in its answer. -/
def exchange (operation : Operation) : ExceptT Fault m Yield :=
  match operation.request? with
  | .error e => settled (.error (.compile e))
  | .ok none => settled (.ok (.insertion .empty))
  | .ok (some request) => ExceptT.mk (operation.read <$> (executor.perform request).run)

/-- An operation that runs a statement and reads its outcome. -/
lemma perform_run {operation : Operation} (statement : Except CompileError Statement)
    (hrequest : operation.request? = statement.map fun s => some (.statement s))
    (hprobe : operation.isProbe = false)
    (hperform : operation.perform executor =
      Gateway.run executor statement >>= fun outcome =>
        settled (operation.readOutcome outcome)) :
    operation.perform executor = operation.exchange executor := by
  rw [hperform, Gateway.run_bind_settled, exchange, hrequest]
  cases statement with
  | error e => rfl
  | ok s =>
    have hread : (· >>= operation.readOutcome) = operation.read := by
      funext answer
      cases answer with
      | ok outcome => rfl
      | error e => simp only [read, hprobe]; rfl
    rw [hread]
    rfl

/-- An operation whose request has no result of its own. -/
lemma perform_unit {operation : Operation} {request : Request} {act : ExceptT Fault m Unit}
    (hrequest : operation.request? = .ok (some request)) (hprobe : operation.isProbe = false)
    (hread : ∀ outcome, operation.readOutcome outcome = .ok .done)
    (hperform : operation.perform executor = (fun _ => Yield.done) <$> act)
    (hact : act = (fun _ => ()) <$> executor.perform request) :
    operation.perform executor = operation.exchange executor := by
  have hdone : Except.map (fun _ => Yield.done) = operation.read := by
    funext answer
    cases answer with
    | ok outcome => exact (hread outcome).symm
    | error e => simp only [read, hprobe]; rfl
  rw [hperform, exchange, hrequest, hact, Functor.map_map]
  exact ExceptT.ext ((ExceptT.run_map _ _).trans (congrArg (· <$> _) hdone))

/-- Over any executor, an operation is the one request that it has by itself, or none. -/
theorem perform_eq_exchange (operation : Operation) :
    operation.perform executor = operation.exchange executor := by
  cases operation with
  | load q =>
    refine perform_run executor (Statement.select q) rfl rfl ?_
    simp only [perform, Gateway.load, map_bind, map_pure]
    rfl
  | count q paginate =>
    refine perform_run executor (Statement.count q paginate) rfl rfl ?_
    simp only [perform, Gateway.count, map_bind, map_settled]
    rfl
  | insert table decl rows =>
    cases hrows : rows.isEmpty with
    | true =>
      rw [perform, Gateway.insert, exchange, request?, hrows]
      exact map_pure _ _
    | false =>
      refine perform_run executor
        (Statement.insert table (Statement.insertFields decl rows) rows) ?_ rfl ?_
      · rw [request?, hrows]
        rfl
      · rw [perform, Gateway.insert, hrows]
        simp only [Bool.false_eq_true, if_false, map_bind, map_pure]
        rfl
  | update q sets =>
    refine perform_run executor (Statement.update q sets) rfl rfl ?_
    simp only [perform, Gateway.update, map_bind, map_pure]
    rfl
  | delete q =>
    refine perform_run executor (Statement.delete q) rfl rfl ?_
    simp only [perform, Gateway.delete, map_bind, map_pure]
    rfl
  | define decl =>
    refine perform_run executor (Statement.define decl) rfl rfl ?_
    simp only [perform, Gateway.define, map_bind, map_pure]
    rfl
  | undefine table =>
    exact perform_unit executor rfl rfl (fun _ => rfl) rfl (bind_pure_comp _ _)
  | defined table =>
    refine ExceptT.ext ?_
    rw [perform, ExceptT.run_map, ExceptT.run_lift, Functor.map_map, Gateway.defined, map_bind,
      exchange, request?, ExceptT.run_mk, map_eq_pure_bind]
    refine bind_congr fun answer => ?_
    cases answer with
    | ok outcome => exact map_pure _ _
    | error e => exact map_pure _ _
  | start | commit | rollback | finish =>
    refine perform_unit executor rfl rfl (fun _ => rfl) rfl ?_
    simp [Executor.perform, Gateway.start, Gateway.commit, Gateway.rollback, Gateway.finish]

end Operation

end

/-! ## One operation -/

/-- What an operation gives and calls, by the calls before it. -/
inductive Operation.Valid (respond : Responder) (before : List Call) :
    Operation → Except Fault Operation.Yield → List Call → Prop where
  /-- It has no statement. -/
  | refused {operation : Operation} {e : CompileError} (h : operation.request? = .error e) :
      Valid respond before operation (.error (.compile e)) []
  /-- It has nothing to request. -/
  | idle {operation : Operation} (h : operation.request? = .ok none) :
      Valid respond before operation (.ok (.insertion .empty)) []
  | called {operation : Operation} {request : Request}
      (h : operation.request? = .ok (some request)) :
      Valid respond before operation (operation.read (respond before request))
        [⟨request, respond before request⟩]

/-- What an executor gives back of an answer: the outcome of a statement, and of anything else only
that it succeeded. -/
def Request.reported : Request → Except Fault Outcome → Except Fault Outcome
  | .statement _, answer => answer
  | .control _, answer | .close, answer => answer.map fun _ => .empty

/-- A request is one call, whose answer is reported. -/
lemma Responder.makes_perform (respond : Responder) (before : List Call) (request : Request) :
    Makes (respond.executor.perform request) before (request.reported (respond before request))
      [⟨request, respond before request⟩] := by
  cases request with
  | statement s => exact respond.makes_call before _
  | control sql =>
    have hmakes := (respond.makes_control before sql).map fun _ => Outcome.empty
    rwa [map_map, ← bind_pure_comp] at hmakes
  | close =>
    have hmakes := ((respond.makes_call before .close).map fun _ => ()).map fun _ => Outcome.empty
    rwa [map_map, ← bind_pure_comp] at hmakes

namespace Operation

/-- What is built from a statement is a request with one. -/
lemma exists_statement {result : Except CompileError Statement} {request : Request}
    (h : (result.map fun s => some (Request.statement s)) = .ok (some request)) :
    ∃ s, request = .statement s := by
  cases result with
  | error e => simp [Except.map] at h
  | ok s => exact ⟨s, (Option.some.inj (Except.ok.inj h)).symm⟩

/-- Of a request that is no statement, an operation reads no more than that it succeeded. -/
lemma read_reported {operation : Operation} {request : Request}
    (h : operation.request? = .ok (some request)) (answer : Except Fault Outcome) :
    operation.read (request.reported answer) = operation.read answer := by
  cases operation with
  | load _ | count _ _ | update _ _ | delete _ | define _ =>
    obtain ⟨s, rfl⟩ := exists_statement h
    rfl
  | insert table decl rows =>
    rw [request?] at h
    split at h
    · simp at h
    · obtain ⟨s, rfl⟩ := exists_statement h
      rfl
  | undefine _ | defined _ | start | commit | rollback | finish =>
    obtain rfl := Option.some.inj (Except.ok.inj h)
    cases answer with
    | ok outcome => rfl
    | error e => rfl

/-- Every operation does one of three things: it has no statement, nothing to request, or one
call. -/
theorem valid_perform (respond : Responder) (before : List Call) (operation : Operation) :
    ∃ result calls, Makes (operation.perform respond.executor) before result calls ∧
      operation.Valid respond before result calls := by
  rw [perform_eq_exchange, exchange]
  cases hrequest : operation.request? with
  | error e => exact ⟨_, _, .settled _ before, .refused hrequest⟩
  | ok request => cases request with
    | none => exact ⟨_, _, .settled _ before, .idle hrequest⟩
    | some request =>
      refine ⟨_, _, ?_, .called hrequest⟩
      have hmakes := respond.makes_perform before request
      rw [Makes] at hmakes ⊢
      rw [ExceptT.run_mk, StateT.run_map, hmakes, ← read_reported hrequest]
      rfl

end Operation

/-! ## What one operation does -/

/-- An operation with its result and its calls. -/
structure Step where
  operation : Operation
  result : Except Fault Operation.Yield
  calls : List Call

/-- An operation makes no call but its own, and has no fault but the one of that call. -/
structure Step.Regular (step : Step) : Prop where
  refused : ∀ e, step.operation.request? = .error e →
    step.calls = [] ∧ step.result = .error (.compile e)
  idle : step.operation.request? = .ok none →
    step.calls = [] ∧ step.result = .ok (.insertion .empty)
  called : ∀ request, step.operation.request? = .ok (some request) →
    step.calls.map Call.request = [request]
  /-- A call that fails is a table that does not exist where that is asked, and otherwise the fault
  of the operation. -/
  failed : ∀ call ∈ step.calls, ∀ e, call.answer = .error e →
    step.result = if step.operation.isProbe then .ok (.truth false) else .error e
  /-- After a call that succeeds only a count has a fault, for want of a number. -/
  succeeded : ∀ call ∈ step.calls, ∀ outcome, call.answer = .ok outcome → ∀ e,
    step.result = .error e →
      (∃ q paginate, step.operation = .count q paginate) ∧ ∀ n, ¬ outcome.Counts n

/-- Only a count finds fault with the outcome of its request. -/
lemma Operation.counts_of_readOutcome {operation : Operation} {outcome : Outcome} {e : Fault}
    (h : operation.readOutcome outcome = .error e) :
    (∃ q paginate, operation = .count q paginate) ∧ ∀ n, ¬ outcome.Counts n := by
  cases operation with
  | count q paginate =>
    refine ⟨⟨q, paginate, rfl⟩, fun n hn => ?_⟩
    rw [readOutcome, Gateway.countOf_eq_ok.mpr hn] at h
    simp [Except.map] at h
  | _ => simp [readOutcome] at h

/-- An operation that ran as it must is regular. -/
lemma Operation.Valid.regular {respond : Responder} {before calls : List Call}
    {operation : Operation} {result : Except Fault Operation.Yield}
    (h : operation.Valid respond before result calls) :
    Step.Regular ⟨operation, result, calls⟩ := by
  cases h with
  | refused h => exact ⟨by simp [h], by simp [h], by simp [h], by simp, by simp⟩
  | idle h => exact ⟨by simp [h], by simp [h], by simp [h], by simp, by simp⟩
  | @called request h =>
    refine ⟨by simp [h], by simp [h], by simp [h], ?_, ?_⟩
    · rintro call hcall e he
      obtain rfl := List.mem_singleton.mp hcall
      change respond before request = .error e at he
      exact congrArg operation.read he
    · rintro call hcall outcome ho e he
      obtain rfl := List.mem_singleton.mp hcall
      change respond before request = .ok outcome at ho
      change operation.read (respond before request) = .error e at he
      rw [ho] at he
      exact Operation.counts_of_readOutcome he

/-! ## Sequences of operations -/

/-- Answers in an order of their own, whatever is requested. -/
def Responder.inOrder (answers : Nat → Except Fault Outcome) : Responder := fun before _ =>
  answers before.length

/-- Operations one after the other, each valid after the calls of those before it. -/
inductive Operation.Series (respond : Responder) : List Call → List Step → Prop where
  | nil (before : List Call) : Series respond before []
  | cons {before calls : List Call} {operation : Operation} {result : Except Fault Yield}
      {rest : List Step} (h : operation.Valid respond before result calls) :
      Series respond (before ++ calls) rest →
      Series respond before (⟨operation, result, calls⟩ :: rest)

namespace Operation

/-- Operations are performed in their order, each on what was answered before. -/
lemma series_performAll (respond : Responder) (before : List Call)
    (operations : List Operation) :
    ∃ steps, (performAll respond.executor operations).run before =
        (steps.map Step.result, before ++ steps.flatMap Step.calls) ∧
      steps.map Step.operation = operations ∧ Series respond before steps := by
  -- the next operation goes on after the calls of this one
  induction operations generalizing before with
  | nil => exact ⟨[], by rw [List.flatMap_nil, List.append_nil]; rfl, rfl, .nil before⟩
  | cons operation rest ih =>
    obtain ⟨result, calls, hmakes, hvalid⟩ := valid_perform respond before operation
    obtain ⟨steps, hrun, hsteps, hseries⟩ := ih (before ++ calls)
    refine ⟨⟨operation, result, calls⟩ :: steps, ?_, by rw [List.map_cons, hsteps],
      .cons hvalid hseries⟩
    rw [Makes] at hmakes
    have hnext : (performAll respond.executor (operation :: rest)).run before =
        ((performAll respond.executor rest).run (before ++ calls)).map (result :: ·) id := by
      rw [performAll, List.mapM_cons, StateT.run_bind, hmakes]
      rfl
    rw [hnext, hrun, List.flatMap_cons, ← List.append_assoc]
    rfl

variable {respond : Responder} {before : List Call} {steps : List Step}

/-- Each step of a series is regular. -/
lemma Series.regular (h : Series respond before steps) : ∀ step ∈ steps, step.Regular := by
  induction h with
  | nil => simp
  | cons hvalid _ ih => exact List.forall_mem_cons.mpr ⟨hvalid.regular, ih⟩

/-- Each call takes the next answer. -/
lemma Series.answers {answers : Nat → Except Fault Outcome}
    (h : Series (.inOrder answers) before steps) :
    (steps.flatMap Step.calls).map Call.answer =
      (List.range' before.length (steps.flatMap Step.calls).length).map answers := by
  induction h with
  | nil => rfl
  | @cons before calls _ _ rest hvalid _ ih =>
    have hcalls : calls.map Call.answer =
        (List.range' before.length calls.length).map answers := by
      cases hvalid <;> rfl
    rw [List.flatMap_cons, List.map_append, hcalls, ih, List.length_append, List.length_append,
      ← List.map_append, List.range'_append_1]

/-- **Each operation makes at most one call, and no fault is hidden.**  Over any answers, operations
one after the other make the calls of each in their order, and every call takes the next answer.
An operation without a statement, or an insertion of no rows, makes none; any other makes the one
request that it has by itself, and has the fault of its call.  Only the question whether a table
exists has no fault, and only a count can have one of its own. -/
theorem performAll_regular (answers : Nat → Except Fault Outcome) (operations : List Operation) :
    ∃ steps : List Step,
      (performAll (Responder.inOrder answers).executor operations).run [] =
        (steps.map Step.result, steps.flatMap Step.calls) ∧
      steps.map Step.operation = operations ∧ (∀ step ∈ steps, step.Regular) ∧
      (steps.flatMap Step.calls).map Call.answer =
        (List.range (steps.flatMap Step.calls).length).map answers := by
  obtain ⟨steps, hrun, hoperations, hseries⟩ := series_performAll (.inOrder answers) [] operations
  rw [List.nil_append] at hrun
  refine ⟨steps, hrun, hoperations, hseries.regular, ?_⟩
  rw [List.range_eq_range']
  exact hseries.answers

end Operation

end TableGateway
