import TableGateway.Benchmark
import TableGateway.Proofs.Engine.Transcript
import TableGateway.Proofs.Sql.Insertion

/-!
# Failures of the benchmark

Which calls the benchmark makes and which fault it ends in, for an executor that answers in any way.

* `Request.Sends` — a request by the text that it sends.
* `Benchmark.batches` — the rows of the statements; every batch has one (`exists_inserts`).
* `Benchmark.insertRows_eq_insertBatches` — filling and flushing the buffer inserts these batches.
* `Benchmark.Transaction`, `Benchmark.Course` — the calls of a run, part by part.
* `Benchmark.Course.Follows` — which part is there, by which calls before it failed.
* **`Benchmark.run_follows`** — the calls of a run are a course that follows the configuration, and
  the first of its decisive calls that fails is the fault of the run.
-/

namespace TableGateway

open SqlText

/-! ## Texts -/

/-- A request sends a text without values. -/
def Request.Sends (request : Request) (sql : String) : Prop :=
  ∃ s : Statement, request = .statement s ∧ s.sql = sql ∧ s.params = []

/-- The probe asks for one row of the table. -/
lemma Statement.sends_probe (table : String) :
    (Request.statement (probe table)).Sends
      ("SELECT 1 FROM " ++ render (qualified table) ++ " LIMIT 1") := by
  have hend : render [.verbatim " LIMIT 1"] = " LIMIT 1" := rfl
  refine ⟨_, rfl, ?_, rfl⟩
  rw [sql, probe, render_append, render_verbatim, hend]

/-- The statement that undefines a table drops it. -/
lemma Statement.sends_undefine (table : String) :
    (Request.statement (undefine table)).Sends ("DROP TABLE " ++ render (qualified table)) :=
  ⟨_, rfl, render_verbatim _ _, rfl⟩

/-- A call that is made just if it is due, and sends a text without values. -/
structure Sent (call : Option Call) (due : Bool) (sql : String) : Prop where
  due : call.isSome = due
  sends : ∀ made ∈ call, made.request.Sends sql

/-- A call that is not due is not made. -/
lemma sent_none (sql : String) : Sent none false sql :=
  ⟨rfl, nofun⟩

/-- A call is made with its text if the request that is due has that text. -/
lemma sent_of_map_eq {call : Option Call} {due : Bool} {request : Request} {sql : String}
    (h : call.map Call.request = if due then some request else none) (hsql : request.Sends sql) :
    Sent call due sql := by
  cases call with
  | none => cases due with
    | false => exact ⟨rfl, nofun⟩
    | true => simp at h
  | some made => cases due with
    | false => simp at h
    | true =>
      obtain rfl : made.request = request := by simpa using h
      exact ⟨rfl, fun _ hmade => Option.mem_some_iff.mp hmade ▸ hsql⟩

namespace Benchmark

/-- The name of the scratch table as it stands in a text. -/
def quotedTable (config : Benchmark) : String :=
  render (qualified config.table)

/-- The columns of the scratch table as they stand in a text: the key, and two texts. -/
def columnTexts : String :=
  " (\n  \x60id\x60 INT PRIMARY KEY AUTO_INCREMENT,\n" ++
    "  \x60foo\x60 VARCHAR(255) NULL,\n  \x60bar\x60 VARCHAR(255) NULL\n)"

/-- The scratch table is created with these columns. -/
lemma exists_define (config : Benchmark) :
    ∃ s, Statement.define config.decl = .ok s ∧
      (Request.statement s).Sends ("CREATE TABLE " ++ config.quotedTable ++ columnTexts) := by
  refine ⟨_, rfl, _, rfl, ?_, rfl⟩
  rw [Statement.sql, render_append, render_append, render_verbatim, String.append_assoc]
  rfl

/-! ## Batches -/

/-- The number of batches. -/
def batchCount (config : Benchmark) : Nat :=
  (config.rows.toNat + config.batchSize - 1) / config.batchSize

/-- The batch after `done` rows; the last one may be smaller. -/
def batch (config : Benchmark) (done : Nat) : List Row :=
  (List.range' (done + 1) (min config.batchSize (config.rows.toNat - done))).map row

/-- The rows of a number of batches, from the one with a given number on. -/
def batchesFrom (config : Benchmark) (k count : Nat) : List (List Row) :=
  (List.range' k count).map fun k => config.batch (k * config.batchSize)

/-- The rows of all batches. -/
def batches (config : Benchmark) : List (List Row) :=
  config.batchesFrom 0 config.batchCount

/-- A statement inserts rows of the benchmark: it is built for them, and names the two columns with
a tuple for each row. -/
structure Inserts (config : Benchmark) (rows : List Row) (s : Statement) : Prop where
  built : Statement.insert config.table (Statement.insertFields (some config.decl) rows) rows =
    .ok s
  sql : s.sql = "INSERT INTO " ++ config.quotedTable ++ " (\x60foo\x60, \x60bar\x60) VALUES " ++
    ", ".intercalate (List.replicate rows.length "(?, ?)")

/-- What the builder makes of a batch inserts the batch. -/
lemma inserts_of_insert {config : Benchmark} {rows : List Row} {s : Statement}
    (h : Statement.insert config.table ["foo", "bar"] rows = .ok s) : config.Inserts rows s := by
  refine ⟨h, ?_⟩
  have hcolumns : " (" ++ ", ".intercalate (["foo", "bar"].map fun name => render [.name name]) ++
      ") VALUES " = " (\x60foo\x60, \x60bar\x60) VALUES " := by decide
  have htuple : "(" ++ ", ".intercalate (List.replicate ["foo", "bar"].length "?") ++ ")" =
      "(?, ?)" := by decide
  rw [Statement.sql_of_insert h, htuple, ← hcolumns, quotedTable]
  simp only [String.append_assoc]

section

variable {config : Benchmark} {k : Nat}

lemma batchSize_pos (config : Benchmark) : 0 < config.batchSize :=
  Nat.lt_of_lt_of_le Nat.one_pos (Nat.le_max_right _ _)

/-- A batch is full unless fewer rows are left. -/
lemma length_batch (config : Benchmark) (done : Nat) :
    (config.batch done).length = min config.batchSize (config.rows.toNat - done) := by
  simp [batch]

/-- There is a batch for each multiple of the batch size below the number of rows. -/
lemma lt_batchCount : k < config.batchCount ↔ k * config.batchSize < config.rows.toNat := by
  have hpos := config.batchSize_pos
  rw [batchCount, ← Nat.succ_le_iff, Nat.le_div_iff_mul_le hpos, Nat.succ_mul]
  omega

/-- All batches but the last are full. -/
lemma length_batch_of_lt (h : k + 1 < config.batchCount) :
    (config.batch (k * config.batchSize)).length = config.batchSize := by
  rw [lt_batchCount, Nat.succ_mul] at h
  rw [length_batch]
  omega

/-- No batch is empty. -/
lemma batch_ne_nil (h : k < config.batchCount) :
    config.batch (k * config.batchSize) ≠ [] := by
  rw [lt_batchCount] at h
  have hpos := config.batchSize_pos
  rw [← List.length_pos_iff, length_batch]
  omega

/-- Every batch has a statement. -/
theorem exists_inserts (k count : Nat) (h : k + count = config.batchCount) :
    ∃ statements, List.Forall₂ config.Inserts (config.batchesFrom k count) statements := by
  induction count generalizing k with
  | zero => exact ⟨[], .nil⟩
  | succ count ih =>
    obtain ⟨rest, hrest⟩ := ih (k + 1) (by omega)
    have hrows : config.batch (k * config.batchSize) ≠ [] := batch_ne_nil (by omega)
    have hfields : ["foo", "bar"] ≠ [] := List.cons_ne_nil _ _
    exact ⟨_ :: rest, .cons (inserts_of_insert (Statement.insert_eq_ok.mpr ⟨hrows, hfields, rfl⟩))
      hrest⟩

end

/-! ## The buffer

Between two flushes the buffer holds the rows since the last one, so that what is flushed is the
next batch, and the rows that are left after it decide how many batches follow.
-/

section

variable {m : Type → Type} [Monad m]

/-- Insert a number of batches after `done` rows.  The first that fails is undone with those before
it; how the undoing goes does not matter. -/
def insertBatches (executor : Executor m) (config : Benchmark) :
    Nat → Nat → Counts → ExceptT Fault m Counts
  | 0, _, counts => pure counts
  | remaining + 1, done, counts => do
    let rows := config.batch done
    match ← ExceptT.lift (Gateway.insert executor config.table (some config.decl) rows).run with
    | .ok insertion =>
      insertBatches executor config remaining (done + rows.length)
        ⟨counts.rows + insertion.affected, counts.batches + 1⟩
    | .error e =>
      let _ ← ExceptT.lift (Gateway.rollback executor).run
      throw e

variable [LawfulMonad m] (executor : Executor m) {config : Benchmark}

/-- Batches are inserted one after the other. -/
lemma insertBatches_succ (remaining done : Nat) (counts : Counts) :
    insertBatches executor config (remaining + 1) done counts =
      flush executor config (config.batch done) counts >>=
        insertBatches executor config remaining (done + (config.batch done).length) := by
  rw [insertBatches, flush, bind_assoc]
  refine bind_congr fun result => ?_
  cases result with
  | ok insertion => rw [pure_bind]
  | error e =>
    refine ExceptT.ext ?_
    simp

/-- One batch less after a batch has been taken off. -/
lemma div_batchSize {n size : Nat} (hn : 0 < n) (hsize : 0 < size) :
    (n + size - 1) / size = (n - min size n + size - 1) / size + 1 := by
  have hshift : (n + size - 1) / size = (n - 1) / size + 1 := by
    rw [← Nat.add_div_right _ hsize]
    congr 1
    omega
  rw [hshift]
  rcases Nat.le_total n size with h | h
  · rw [Nat.min_eq_right h, Nat.sub_self, Nat.zero_add, Nat.div_eq_of_lt (by omega),
      Nat.div_eq_of_lt (by omega)]
  · rw [Nat.min_eq_left h, Nat.sub_add_cancel h]

/-- What the buffer holds is the batch in the making: with the next row it is flushed as the whole
batch, or is one row nearer to it. -/
theorem insertRows_eq_insertBatches {left done : Nat} {buffer : Array Row}
    (hrows : done + (buffer.size + left) = config.rows.toNat)
    (hbuffer : buffer.toList = (List.range' (done + 1) buffer.size).map row)
    (hsize : buffer.size < config.batchSize) (hend : left = 0 → buffer.size = 0)
    (counts : Counts) :
    insertRows executor config left buffer counts =
      insertBatches executor config
        ((buffer.size + left + config.batchSize - 1) / config.batchSize) done counts := by
  -- by induction on the rows that are left; the number of rows from `done` on stays the same until
  -- the buffer is flushed
  induction left generalizing buffer done counts with
  | zero =>
    rw [hend rfl, Nat.div_eq_of_lt (by omega)]
    rfl
  | succ left ih =>
    have hnext : config.rows.toNat - left = done + 1 + buffer.size := by omega
    have hfilled : (buffer.push (row (config.rows.toNat - left))).toList =
        (List.range' (done + 1) (buffer.size + 1)).map row := by
      rw [Array.toList_push, hbuffer, hnext, ← List.range'_append_1, List.map_append]
      rfl
    rw [insertRows]
    simp only [Array.size_push]
    split
    · rename_i hflush
      have hbatch : buffer.size + 1 = min config.batchSize (buffer.size + (left + 1)) := by omega
      have hdone : config.rows.toNat - done = buffer.size + (left + 1) := by omega
      rw [hfilled, div_batchSize (by omega) (by omega), insertBatches_succ, batch, hdone, ← hbatch,
        List.length_map, List.length_range']
      refine bind_congr fun counts => ?_
      have hleft :
          buffer.size + (left + 1) - (buffer.size + 1) = (#[] : Array Row).size + left := by
        rw [Array.size_empty]
        omega
      rw [hleft]
      exact ih (by rw [Array.size_empty]; omega) rfl (by rw [Array.size_empty]; omega)
        (fun _ => Array.size_empty) counts
    · rename_i hfill
      rw [not_or] at hfill
      have hsum : buffer.size + (left + 1) =
          (buffer.push (row (config.rows.toNat - left))).size + left := by
        rw [Array.size_push]
        omega
      rw [hsum]
      refine ih ?_ ?_ ?_ (fun hleft => absurd hleft hfill.2) counts
      · rw [Array.size_push]
        omega
      · rw [hfilled, Array.size_push]
      · rw [Array.size_push]
        omega

/-- All rows are inserted in all batches. -/
lemma insertRows_empty (config : Benchmark) (counts : Counts) :
    insertRows executor config config.rows.toNat #[] counts =
      insertBatches executor config config.batchCount 0 counts := by
  have hempty : (#[] : Array Row).size < config.batchSize := config.batchSize_pos
  have hbatches := insertRows_eq_insertBatches executor
    (show 0 + ((#[] : Array Row).size + config.rows.toNat) = config.rows.toNat by simp) rfl hempty
    (fun _ => rfl) counts
  rwa [Array.size_empty, Nat.zero_add] at hbatches

end

/-! ## The transaction -/

/-- The calls of the transaction. -/
structure Transaction where
  start : Call
  inserts : List Call
  finish : Option Call

namespace Transaction

def calls (t : Transaction) : List Call :=
  t.start :: t.inserts ++ t.finish.toList

/-- The calls that decide the result: all but undoing. -/
def decisive (t : Transaction) : List Call :=
  t.start :: t.inserts ++ t.finish.toList.filter (·.request = .control "COMMIT")

/-- A transaction is what is to be made for a configuration. -/
structure Follows (config : Benchmark) (t : Transaction) : Prop where
  start : t.start.request = .control "START TRANSACTION"
  /-- A batch per statement, up to the first that fails. -/
  inserts : t.start.succeeded = true → ∃ statements,
    List.Forall₂ config.Inserts config.batches statements ∧
    Attempts (statements.map .statement) t.inserts
  unstarted : t.start.succeeded = false → t.inserts = []
  finish : t.finish.map Call.request = if t.start.succeeded then
    some (.control (if t.inserts.all Call.succeeded then "COMMIT" else "ROLLBACK")) else none

/-- A transaction goes well: it starts, all is inserted, and it is kept. -/
structure Succeeds (t : Transaction) : Prop where
  start : t.start.succeeded = true
  inserts : t.inserts.all Call.succeeded = true
  finish : ∃ call ∈ t.finish, call.request = .control "COMMIT" ∧ call.succeeded = true

/-- A transaction goes well if no decisive call fails: its end is then the right one. -/
lemma Follows.succeeds_iff {config : Benchmark} {t : Transaction} (h : t.Follows config) :
    t.Succeeds ↔ t.decisive.findSome? Call.fault? = none := by
  rw [decisive, List.findSome?_append, Option.or_eq_none_iff, ← Call.all_succeeded_iff,
    ← Call.all_succeeded_iff, List.all_cons, Bool.and_eq_true]
  constructor
  · rintro ⟨hstart, hinserts, call, hmem, hrequest, hcall⟩
    rw [Option.mem_def.mp hmem]
    exact ⟨⟨hstart, hinserts⟩, by simp [hrequest, hcall]⟩
  · rintro ⟨⟨hstart, hinserts⟩, hfinish⟩
    have hend := h.finish
    rw [hstart, if_pos rfl, hinserts, if_pos rfl] at hend
    obtain ⟨call, hcall, hrequest⟩ := Option.map_eq_some_iff.mp hend
    rw [hcall] at hfinish
    exact ⟨hstart, hinserts, call, hcall, hrequest, by simpa [hrequest] using hfinish⟩

/-- Once a transaction has started, its first insert that fails decides, and without one its end. -/
lemma fault?_started (outcome : Outcome) (inserts : List Call) (finish : Call) :
    (decisive ⟨⟨.control "START TRANSACTION", .ok outcome⟩, inserts, some finish⟩).findSome?
        Call.fault? =
      (inserts.findSome? Call.fault?).or
        (if finish.request = .control "COMMIT" then finish.fault? else none) := by
  rw [decisive, List.cons_append, Call.findSome?_cons_ok, List.findSome?_append]
  split_ifs with h <;> simp [h]

/-- A transaction that starts is what is to be made if its border at the end is the right one. -/
lemma Follows.started {config : Benchmark} {inserts : List Call} {finish : Call}
    {statements : List Statement} (outcome : Outcome)
    (hstatements : List.Forall₂ config.Inserts config.batches statements)
    (hattempts : Attempts (statements.map .statement) inserts)
    (hfinish : finish.request =
      .control (if (inserts.findSome? Call.fault?).isNone then "COMMIT" else "ROLLBACK")) :
    Follows config ⟨⟨.control "START TRANSACTION", .ok outcome⟩, inserts, some finish⟩ where
  start := rfl
  inserts _ := ⟨statements, hstatements, hattempts⟩
  unstarted h := nomatch h
  finish := by
    rw [Call.all_succeeded, Option.map_some, hfinish]
    rfl

end Transaction

section

variable (respond : Responder) (config : Benchmark)

/-- The batches from one on are inserted until a call fails.  The induction is on the number of
batches that remain; what was done so far is a whole number of batches. -/
lemma makes_insertBatches {remaining k done : Nat} {statements : List Statement}
    (hk : k + remaining = config.batchCount) (hdone : 0 < remaining → done = k * config.batchSize)
    (hstatements : List.Forall₂ config.Inserts (config.batchesFrom k remaining) statements)
    (counts : Counts) (before : List Call) :
    ∃ (result : Except Fault Counts) (inserts : List Call) (undo : Option Call),
      Makes (insertBatches respond.executor config remaining done counts) before result
        (inserts ++ undo.toList) ∧
      Attempts (statements.map .statement) inserts ∧
      faultOf result = inserts.findSome? Call.fault? ∧
      undo.map Call.request = (faultOf result).map fun _ => .control "ROLLBACK" := by
  -- by induction on the batches to come; a batch that is followed by another is full, so that the
  -- rows done are those of the batches done
  induction remaining generalizing k done statements counts before with
  | zero =>
    cases hstatements
    refine ⟨.ok counts, [], none, ?_, .nil, rfl, rfl⟩
    rw [insertBatches]
    exact .pure counts before
  | succ remaining ih =>
    rw [batchesFrom, List.range'_succ, List.map_cons, List.forall₂_cons_left_iff] at hstatements
    obtain ⟨s, rest, hs, hrest, rfl⟩ := hstatements
    obtain rfl := hdone remaining.succ_pos
    have hinsert := respond.makes_insert before hs.built
    rw [insertBatches]
    cases hanswer : respond before (.statement s) with
    | ok outcome =>
      rw [hanswer] at hinsert
      have hnext : 0 < remaining →
          k * config.batchSize + (config.batch (k * config.batchSize)).length =
            (k + 1) * config.batchSize := by
        intro hremaining
        rw [length_batch_of_lt (by omega), Nat.succ_mul]
      let insertion := Insertion.ofOutcome (config.batch (k * config.batchSize)) outcome
      obtain ⟨result, inserts, undo, hmakes, hattempts, hresult, hundo⟩ :=
        ih (by omega) hnext hrest ⟨counts.rows + insertion.affected, counts.batches + 1⟩
          (before ++ [⟨.statement s, .ok outcome⟩])
      refine ⟨result, ⟨.statement s, .ok outcome⟩ :: inserts, undo, ?_, .next _ outcome hattempts,
        hresult, hundo⟩
      change Makes _ before result ([⟨.statement s, .ok outcome⟩] ++ (inserts ++ undo.toList))
      exact Makes.bind_lift hinsert hmakes
    | error e =>
      rw [hanswer] at hinsert
      have hrollback :=
        respond.makes_control (before ++ [⟨.statement s, .error e⟩]) "ROLLBACK"
      exact ⟨.error e, [⟨.statement s, .error e⟩], some ⟨.control "ROLLBACK", _⟩,
        Makes.bind_lift hinsert (Makes.bind_lift hrollback (.throw e _)), .failed _ e _, rfl, rfl⟩

/-- A clock that tells the time by the calls so far. -/
def clockOf (time : List Call → Nat) : StateM (List Call) Nat :=
  fun calls => (time calls, calls)

/-- A transaction is begun, filled, and ended or taken back. -/
lemma makes_insertAll (time : List Call → Nat) (before : List Call) :
    ∃ (result : Except Fault Report) (t : Transaction),
      Makes (insertAll respond.executor (clockOf time) config) before result t.calls ∧
      t.Follows config ∧ faultOf result = t.decisive.findSome? Call.fault? := by
  have hclock (calls : List Call) : (clockOf time).run calls = (time calls, calls) := rfl
  obtain ⟨statements, hstatements⟩ := config.exists_inserts 0 config.batchCount (Nat.zero_add _)
  have hstart := respond.makes_control before "START TRANSACTION"
  rw [insertAll, insertRows_empty]
  cases hanswer : respond before (.control "START TRANSACTION") with
  | error e =>
    rw [hanswer] at hstart
    refine ⟨.error e, ⟨⟨.control "START TRANSACTION", .error e⟩, [], none⟩, ?_, ?_, rfl⟩
    · exact .bind_read (hclock before) hstart.bind_error
    · constructor <;> simp [Call.succeeded, Call.fault?]
  | ok outcome =>
    rw [hanswer] at hstart
    let start : Call := ⟨.control "START TRANSACTION", .ok outcome⟩
    obtain ⟨result, inserts, undo, hmakes, hattempts, hresult, hundo⟩ :=
      makes_insertBatches respond config (Nat.zero_add _) (fun _ => (Nat.zero_mul _).symm)
        hstatements ⟨0, 0⟩ (before ++ [start])
    -- either an insert failed and was undone, or all went through and the end is COMMIT
    cases result with
    | error e =>
      obtain ⟨rollback, rfl, hrollback⟩ := Option.map_eq_some_iff.mp hundo
      refine ⟨.error e, ⟨start, inserts, some rollback⟩, ?_,
        .started outcome hstatements hattempts ?_, ?_⟩
      · exact .bind_read (hclock before) (hstart.bind_ok hmakes.bind_error)
      · rw [← hresult]
        exact hrollback
      · rw [Transaction.fault?_started, ← hresult]
        rfl
    | ok counts =>
      obtain rfl := Option.map_eq_none_iff.mp hundo
      rw [Option.toList_none, List.append_nil] at hmakes
      have hcommit := respond.makes_control (before ++ [start] ++ inserts) "COMMIT"
      have hfollows (answer : Except Fault Outcome) :
          Transaction.Follows config ⟨start, inserts, some ⟨.control "COMMIT", answer⟩⟩ :=
        .started outcome hstatements hattempts (by rw [← hresult]; rfl)
      generalize respond (before ++ [start] ++ inserts) (.control "COMMIT") = answer at hcommit
      cases answer with
      | error e =>
        refine ⟨.error e, _, ?_, hfollows (.error e), ?_⟩
        · exact .bind_read (hclock before) (hstart.bind_ok (hmakes.bind_ok hcommit.bind_error))
        · rw [Transaction.fault?_started, ← hresult]
          rfl
      | ok done =>
        let later := before ++ [start] ++ inserts ++ [⟨.control "COMMIT", .ok done⟩]
        refine ⟨.ok ⟨counts, time later - time before⟩, _, ?_, hfollows (.ok done), ?_⟩
        · exact .bind_read (hclock before) (hstart.bind_ok (hmakes.bind_ok
            (hcommit.bind_ok (.bind_read (hclock later) (.pure _ later)))))
        · rw [Transaction.fault?_started, ← hresult]
          rfl

end

/-! ## The whole run -/

/-- The calls of a run. -/
structure Course where
  probe : Call
  clear : Option Call
  create : Option Call
  transaction : Option Transaction
  tidy : Option Call

namespace Course

def calls (c : Course) : List Call :=
  c.probe :: c.clear.toList ++ c.create.toList ++
    c.transaction.toList.flatMap Transaction.calls ++ c.tidy.toList

/-- The calls that decide the result: all but the probe and the cleaning up. -/
def decisive (c : Course) : List Call :=
  c.clear.toList ++ c.create.toList ++ c.transaction.toList.flatMap Transaction.decisive

/-- A course is what is to be made for a configuration. -/
structure Follows (config : Benchmark) (c : Course) : Prop where
  probe : c.probe.request.Sends ("SELECT 1 FROM " ++ config.quotedTable ++ " LIMIT 1")
  /-- The table is dropped if it is there. -/
  clear : Sent c.clear c.probe.succeeded ("DROP TABLE " ++ config.quotedTable)
  create : Sent c.create (c.clear.toList.all Call.succeeded)
    ("CREATE TABLE " ++ config.quotedTable ++ columnTexts)
  created : c.transaction.isSome = c.create.any Call.succeeded
  transaction : ∀ t ∈ c.transaction, t.Follows config
  /-- The table is dropped in the end if it was created and is not to be kept. -/
  tidy : Sent c.tidy (c.create.any Call.succeeded && !config.keepTable)
    ("DROP TABLE " ++ config.quotedTable)

/-- A run goes well: so do dropping what was there, creating, and the transaction. -/
structure Succeeds (c : Course) : Prop where
  clear : c.clear.toList.all Call.succeeded = true
  create : ∃ call ∈ c.create, call.succeeded = true
  transaction : ∃ t ∈ c.transaction, t.Succeeds

/-- A course goes well if none of its decisive calls fails. -/
lemma Follows.succeeds_iff {config : Benchmark} {c : Course} (h : c.Follows config) :
    c.Succeeds ↔ c.decisive.findSome? Call.fault? = none := by
  rw [decisive, List.findSome?_append, List.findSome?_append, Option.or_eq_none_iff,
    Option.or_eq_none_iff, ← Call.all_succeeded_iff, ← Call.all_succeeded_iff]
  constructor
  · rintro ⟨hclear, ⟨create, hcreate, hcreated⟩, t, ht, hsucceeds⟩
    have hdecided := (h.transaction t ht).succeeds_iff.mp hsucceeds
    rw [Option.mem_def.mp hcreate, Option.mem_def.mp ht]
    exact ⟨⟨hclear, by simp [hcreated]⟩, by simpa using hdecided⟩
  · rintro ⟨⟨hclear, hcreate⟩, htransaction⟩
    obtain ⟨create, hcall⟩ := Option.isSome_iff_exists.mp (h.create.due.trans hclear)
    have hsucceeded : create.succeeded = true := by simpa [hcall] using hcreate
    have hcreated := h.created
    rw [hcall, Option.any_some, hsucceeded] at hcreated
    obtain ⟨t, ht⟩ := Option.isSome_iff_exists.mp hcreated
    rw [ht] at htransaction
    have hdecided : t.decisive.findSome? Call.fault? = none := by simpa using htransaction
    exact ⟨hclear, ⟨create, hcall, hsucceeded⟩, t, ht,
      (h.transaction t ht).succeeds_iff.mpr hdecided⟩

end Course

section

variable (respond : Responder) (config : Benchmark)

/-- The table is dropped before a run if it answers the probe. -/
lemma makes_clear (before : List Call) :
    ∃ (result : Except Fault Unit) (probe : Call) (drop : Option Call),
      Makes (clear respond.executor config) before result (probe :: drop.toList) ∧
      probe.request = .statement (Statement.probe config.table) ∧
      drop.map Call.request = (if probe.succeeded then
        some (.statement (Statement.undefine config.table)) else none) ∧
      faultOf result = drop.toList.findSome? Call.fault? := by
  let probe : Call := ⟨.statement (Statement.probe config.table),
    respond before (.statement (Statement.probe config.table))⟩
  have hdefined : (Gateway.defined respond.executor config.table).run before =
      (probe.succeeded, before ++ [probe]) := respond.run_defined before config.table
  rw [clear]
  cases hprobe : probe.succeeded with
  | false =>
    rw [hprobe] at hdefined
    exact ⟨.ok (), probe, none, Makes.bind_lift hdefined (.pure () _), rfl,
      by rw [hprobe]; rfl, rfl⟩
  | true =>
    rw [hprobe] at hdefined
    have hdrop := respond.makes_undefine (before ++ [probe]) config.table
    refine ⟨_, probe, some ⟨_, _⟩, Makes.bind_lift hdefined hdrop, rfl, by rw [hprobe]; rfl, ?_⟩
    rw [faultOf_map, Option.toList_some, List.findSome?_singleton, Call.fault?_mk]

/-- The table is dropped after a run unless it is kept, and a failure of that counts for nothing. -/
lemma makes_tidy (before : List Call) :
    ∃ drop : Option Call, (tidy respond.executor config).run before = ((), before ++ drop.toList) ∧
      drop.map Call.request = if config.keepTable then none else
        some (.statement (Statement.undefine config.table)) := by
  rw [tidy]
  cases config.keepTable with
  | true => exact ⟨none, by rw [Option.toList_none, List.append_nil]; rfl, rfl⟩
  | false =>
    have hdrop := respond.makes_undefine before config.table
    rw [Makes] at hdrop
    refine ⟨some ⟨.statement (Statement.undefine config.table),
      respond before (.statement (Statement.undefine config.table))⟩, ?_, rfl⟩
    simp only [Bool.not_false, if_true, StateT.run_bind, hdrop]
    rfl

/-- A run makes the calls of a course, and ends in the first fault of those that decide. -/
lemma makes_course (time : List Call → Nat) (before : List Call) :
    ∃ (result : Except Fault Report) (c : Course),
      Makes (run respond.executor (clockOf time) config) before result c.calls ∧
      c.Follows config ∧ faultOf result = c.decisive.findSome? Call.fault? := by
  obtain ⟨cleared, probe, drop, hclear, hprobe, hdrop, hcleared⟩ :=
    makes_clear respond config before
  have hall : drop.toList.all Call.succeeded = (faultOf cleared).isNone := by
    rw [Call.all_succeeded, hcleared]
  have hprobed : probe.request.Sends ("SELECT 1 FROM " ++ config.quotedTable ++ " LIMIT 1") := by
    rw [hprobe]
    exact Statement.sends_probe config.table
  have hdropped := sent_of_map_eq hdrop (Statement.sends_undefine config.table)
  obtain ⟨s, hs, hsends⟩ := config.exists_define
  have hcreate := respond.makes_define (before ++ probe :: drop.toList) hs
  rw [run]
  cases cleared with
  | error e =>
    refine ⟨.error e, ⟨probe, drop, none, none, none⟩, ?_, ?_, ?_⟩
    · simpa [Course.calls] using hclear.bind_error
    · refine ⟨hprobed, hdropped, ?_, rfl, by simp, sent_none _⟩
      rw [hall]
      exact sent_none _
    · simpa [Course.decisive] using hcleared
  | ok done =>
    cases hanswer : respond (before ++ probe :: drop.toList) (.statement s) with
    | error e =>
      rw [hanswer] at hcreate
      refine ⟨.error e, ⟨probe, drop, some ⟨.statement s, .error e⟩, none, none⟩, ?_, ?_, ?_⟩
      · simpa [Course.calls] using hclear.bind_ok hcreate.bind_error
      · exact ⟨hprobed, hdropped, sent_of_map_eq (by rw [hall]; rfl) hsends, rfl, by simp,
          sent_none _⟩
      · simp [Course.decisive, List.findSome?_append, ← hcleared]
    | ok created =>
      rw [hanswer] at hcreate
      let create : Call := ⟨.statement s, .ok created⟩
      obtain ⟨result, t, hmakes, hfollows, hresult⟩ :=
        makes_insertAll respond config time (before ++ probe :: drop.toList ++ [create])
      obtain ⟨last, htidy, hlast⟩ :=
        makes_tidy respond config (before ++ probe :: drop.toList ++ [create] ++ t.calls)
      refine ⟨result, ⟨probe, drop, some create, some t, last⟩, ?_, ?_, ?_⟩
      · have hcalls : Course.calls ⟨probe, drop, some create, some t, last⟩ =
            (probe :: drop.toList) ++ ([create] ++ (t.calls ++ (last.toList ++ []))) := by
          simp [Course.calls]
        rw [hcalls]
        exact hclear.bind_ok (hcreate.bind_ok
          (Makes.bind_lift hmakes (Makes.bind_lift htidy (.settled result _))))
      · refine ⟨hprobed, hdropped, sent_of_map_eq (by rw [hall]; rfl) hsends, rfl,
          by simpa using hfollows, sent_of_map_eq ?_ (Statement.sends_undefine config.table)⟩
        rw [hlast]
        cases config.keepTable with
        | true => rfl
        | false => rfl
      · simp [Course.decisive, List.findSome?_append, ← hcleared, hresult, create]

/-- **Every run is a course.**  Whatever the executor answers, a run makes the calls of a course
that follows the configuration; it has a report exactly if the course goes well, and else the fault
of the first decisive call that fails.  The probe, undoing and tidying up decide nothing. -/
theorem run_follows (time : List Call → Nat) (before : List Call) :
    ∃ (result : Except Fault Report) (c : Course),
      Makes (run respond.executor (clockOf time) config) before result c.calls ∧
      c.Follows config ∧ ((∃ report, result = .ok report) ↔ c.Succeeds) ∧
      ∀ e, result = .error e → c.decisive.findSome? Call.fault? = some e := by
  obtain ⟨result, c, hmakes, hfollows, hresult⟩ := makes_course respond config time before
  refine ⟨result, c, hmakes, hfollows, ?_, ?_⟩
  · rw [hfollows.succeeds_iff, ← hresult]
    cases result with
    | ok report => simp
    | error e => simp
  · rintro e rfl
    exact hresult.symm

end

end Benchmark

end TableGateway
