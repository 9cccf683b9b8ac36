import Mathlib.Algebra.Order.Floor.Div
import TableGateway.Proofs.Benchmark
import TableGateway.Proofs.Fields

/-!
# Accounting of the benchmark

What a run sends and what it reports where every request succeeds: no row is lost, repeated or moved
by the buffer, whatever the number of rows and the size of the buffer are.

* `Benchmark.Counts.add` — what a call adds to the counts, and the counts after many calls.
* `Benchmark.Loads` — statements that insert the rows up to a number in batches.
* `Benchmark.loads_batches` — the statements of all batches do.
* **`Benchmark.run_accounts`** — a run sends such statements between the borders of its transaction
  and nothing else, and reports their number and the sum of what they are said to have affected.
-/

namespace TableGateway

/-- Every request succeeds, whatever was called before. -/
def Responder.Accepts (respond : Responder) : Prop :=
  ∀ before request, ∃ outcome, respond before request = .ok outcome

/-- The number of rows that a call is said to have affected. -/
def Call.affected (call : Call) : Nat :=
  match call.answer with
  | .ok outcome => outcome.affected.toNat
  | .error _ => 0

namespace Benchmark

/-! ## Counting -/

namespace Counts

/-- The counts after one more call that inserts rows. -/
def add (counts : Counts) (call : Call) : Counts :=
  match call.answer with
  | .ok outcome => ⟨counts.rows + outcome.affected, counts.batches + 1⟩
  | .error _ => counts

variable {calls : List Call} {counts : Counts}

/-- Rows are counted as naturals while the sum fits. -/
lemma toNat_rows_add {call : Call} (h : counts.rows.toNat + call.affected < UInt64.size) :
    (counts.add call).rows.toNat = counts.rows.toNat + call.affected := by
  obtain ⟨request, answer⟩ := call
  cases answer with
  | ok outcome => exact (UInt64.toNat_add _ _).trans (Nat.mod_eq_of_lt h)
  | error e => rfl

/-- The rows counted are those that were there and all that are said to be affected. -/
lemma toNat_rows_foldl
    (h : counts.rows.toNat + (calls.map Call.affected).sum < UInt64.size) :
    (calls.foldl add counts).rows.toNat = counts.rows.toNat + (calls.map Call.affected).sum := by
  induction calls generalizing counts with
  | nil => rfl
  | cons call rest ih =>
    rw [List.map_cons, List.sum_cons, ← Nat.add_assoc] at h ⊢
    have hrows := toNat_rows_add (Nat.lt_of_le_of_lt (Nat.le_add_right _ _) h)
    rw [← hrows] at h ⊢
    exact ih h

/-- The batches counted are those that were there and all calls. -/
lemma toNat_batches_foldl (hall : calls.all Call.succeeded = true)
    (h : counts.batches.toNat + calls.length < UInt64.size) :
    (calls.foldl add counts).batches.toNat = counts.batches.toNat + calls.length := by
  induction calls generalizing counts with
  | nil => rfl
  | cons call rest ih =>
    obtain ⟨request, answer⟩ := call
    rw [List.all_cons, Bool.and_eq_true] at hall
    cases answer with
    | error e => exact absurd hall.1 (by simp [Call.succeeded])
    | ok outcome =>
      rw [List.length_cons, Nat.add_comm rest.length, ← Nat.add_assoc] at h ⊢
      have hbatches : (counts.batches + 1).toNat = counts.batches.toNat + 1 :=
        (UInt64.toNat_add _ _).trans
          (Nat.mod_eq_of_lt (Nat.lt_of_le_of_lt (Nat.le_add_right _ _) h))
      rw [← hbatches] at h ⊢
      exact ih hall.2 h

end Counts

/-! ## Rows in batches -/

/-- Statements that insert the first rows in batches. -/
structure Loads (table : String) (size total : Nat) (statements : List Statement) : Prop where
  /-- There is one for each batch. -/
  length : statements.length = total ⌈/⌉ size
  /-- Each binds the two values of some rows, which are a full batch unless it is the last one. -/
  sizes : ∀ (i : Nat) (s : Statement), statements[i]? = some s → ∃ rows,
    Statement.insert table ["foo", "bar"] rows = .ok s ∧ s.params.length = 2 * rows.length ∧
      1 ≤ rows.length ∧ rows.length ≤ size ∧ (i + 1 < statements.length → rows.length = size)
  /-- The values of all are the numbers of the rows in their order, each of them twice. -/
  params : statements.flatMap Statement.params =
    (List.range' 1 total).flatMap fun n => [.text (toString n), .text (toString n)]

/-- There are no more batches than rows. -/
lemma Loads.length_le {table : String} {size total : Nat} {statements : List Statement}
    (h : Loads table size total statements) (hsize : 0 < size) : statements.length ≤ total := by
  rw [h.length, ceilDiv_le_iff_le_mul hsize]
  exact Nat.le_mul_of_pos_left _ hsize

variable {config : Benchmark}

/-- The rows of the batches from one on are the rows from its first one on. -/
lemma flatten_batchesFrom {k count : Nat} (h : k + count = config.batchCount) :
    (config.batchesFrom k count).flatten =
      (List.range' (k * config.batchSize + 1) (config.rows.toNat - k * config.batchSize)).map
        row := by
  -- a batch ends where the next one starts, or at the last row
  induction count generalizing k with
  | zero =>
    have hall : ¬ k * config.batchSize < config.rows.toNat := by
      rw [← lt_batchCount]
      omega
    rw [Nat.sub_eq_zero_of_le (Nat.le_of_not_lt hall)]
    rfl
  | succ count ih =>
    have hrest := ih (k := k + 1) (by omega)
    rw [batchesFrom, Nat.succ_mul] at hrest
    rw [batchesFrom, List.range'_succ, List.map_cons, List.flatten_cons, hrest, batch,
      ← List.map_append]
    congr 1
    rcases Nat.le_total config.batchSize (config.rows.toNat - k * config.batchSize) with h | h
    · rw [Nat.min_eq_left h, Nat.add_right_comm, List.range'_append_1]
      congr 1
      omega
    · have hrest : config.rows.toNat - (k * config.batchSize + config.batchSize) = 0 := by omega
      rw [Nat.min_eq_right h, hrest]
      exact List.append_nil _

/-- A row of the benchmark binds its number twice, in decimals. -/
lemma cells_row (n : Nat) :
    ["foo", "bar"].map (Statement.cellFor (row n)) = [.text (toString n), .text (toString n)] := by
  have htext : String.ofList (Text.digits n) = toString n := rfl
  simp [Statement.cellFor, Row.find?, row, Row.ofList, Fields.find?_ofList, Fields.find?, htext,
    Value.toCell]

/-- The values of the insertions are those of all batches in turn. -/
lemma params_of_inserts {batches : List (List Row)} {statements : List Statement}
    (h : List.Forall₂ config.Inserts batches statements) :
    statements.flatMap Statement.params =
      batches.flatten.flatMap fun row => ["foo", "bar"].map (Statement.cellFor row) := by
  induction h with
  | nil => rfl
  | cons hs _ ih =>
    obtain ⟨-, -, rfl⟩ := Statement.insert_eq_ok.mp hs.built
    rw [List.flatMap_cons, ih, List.flatten_cons, List.flatMap_append]
    rfl

/-- A batch starts after those before it. -/
lemma getElem?_batches {i : Nat} (h : i < config.batchCount) :
    config.batches[i]? = some (config.batch (i * config.batchSize)) := by
  simp [batches, batchesFrom, h]

/-- The list of batches has as many as are counted. -/
lemma length_batches (config : Benchmark) : config.batches.length = config.batchCount := by
  simp [batches, batchesFrom]

/-- The statements of all batches insert all rows. -/
theorem loads_batches {statements : List Statement}
    (h : List.Forall₂ config.Inserts config.batches statements) :
    Loads config.table config.batchSize config.rows.toNat statements where
  length := by
    rw [← h.length_eq, length_batches]
    rfl
  sizes i s hs := by
    obtain ⟨hi, rfl⟩ := List.getElem?_eq_some_iff.mp hs
    have hlength : statements.length = config.batchCount := by rw [← h.length_eq, length_batches]
    have hbatch : i < config.batches.length := h.length_eq ▸ hi
    have hinserts : config.Inserts (config.batch (i * config.batchSize)) statements[i] := by
      have hrows : config.batches[i]? = some (config.batch (i * config.batchSize)) :=
        getElem?_batches (hlength ▸ hi)
      rw [List.getElem?_eq_getElem hbatch, Option.some_inj] at hrows
      rw [← hrows]
      exact h.get hbatch hi
    refine ⟨_, hinserts.built, ?_, ?_, ?_, fun hlast => length_batch_of_lt (hlength ▸ hlast)⟩
    · obtain ⟨-, -, hs⟩ := Statement.insert_eq_ok.mp hinserts.built
      rw [hs]
      simp [List.length_flatMap, decl, Statement.insertFields, Nat.mul_comm]
    · exact List.length_pos_iff.mpr (batch_ne_nil (hlength ▸ hi))
    · rw [length_batch]
      exact Nat.min_le_left _ _
  params := by
    rw [params_of_inserts h, batches, flatten_batchesFrom (Nat.zero_add _), Nat.zero_mul,
      Nat.sub_zero, List.flatMap_map]
    exact congrArg (List.flatMap · _) (funext cells_row)

/-! ## Runs where every request succeeds -/

section

variable {respond : Responder} (config : Benchmark)

/-- An accepted batch is counted. -/
lemma makes_flush {rows : List Row} {s : Statement} {outcome : Outcome} (counts : Counts)
    {before : List Call} (hs : config.Inserts rows s)
    (hanswer : respond before (.statement s) = .ok outcome) :
    Makes (flush respond.executor config rows counts) before
      (.ok (counts.add ⟨.statement s, .ok outcome⟩)) [⟨.statement s, .ok outcome⟩] := by
  have hinsert := respond.makes_insert before hs.built
  rw [hanswer] at hinsert
  rw [flush]
  refine Makes.bind_lift hinsert ?_
  simp only [Except.map, Insertion.affected_ofOutcome]
  exact .pure _ _

variable (haccepts : respond.Accepts)
include haccepts

/-- Accepted batches are all inserted and counted, by induction on how many remain. -/
lemma makes_insertBatches_accepted {remaining k done : Nat} {statements : List Statement}
    (hk : k + remaining = config.batchCount) (hdone : 0 < remaining → done = k * config.batchSize)
    (hstatements : List.Forall₂ config.Inserts (config.batchesFrom k remaining) statements)
    (counts : Counts) (before : List Call) :
    ∃ inserts : List Call,
      Makes (insertBatches respond.executor config remaining done counts) before
        (.ok (inserts.foldl Counts.add counts)) inserts ∧
      inserts.map Call.request = statements.map .statement ∧
      inserts.all Call.succeeded = true := by
  induction remaining generalizing k done statements counts before with
  | zero =>
    cases hstatements
    refine ⟨[], ?_, rfl, rfl⟩
    rw [insertBatches]
    exact .pure counts before
  | succ remaining ih =>
    rw [batchesFrom, List.range'_succ, List.map_cons, List.forall₂_cons_left_iff] at hstatements
    obtain ⟨s, rest, hs, hrest, rfl⟩ := hstatements
    obtain rfl := hdone remaining.succ_pos
    obtain ⟨outcome, hanswer⟩ := haccepts before (.statement s)
    have hflush := makes_flush config counts hs hanswer
    have hnext : 0 < remaining →
        k * config.batchSize + (config.batch (k * config.batchSize)).length =
          (k + 1) * config.batchSize := by
      intro hremaining
      rw [length_batch_of_lt (by omega), Nat.succ_mul]
    obtain ⟨inserts, hmakes, hrequests, hall⟩ := ih (by omega) hnext hrest _ _
    rw [insertBatches_succ]
    refine ⟨⟨.statement s, .ok outcome⟩ :: inserts, hflush.bind_ok hmakes, ?_, ?_⟩
    · rw [List.map_cons, hrequests, List.map_cons]
    · rw [List.all_cons, hall]
      rfl

/-- An accepted transaction is begun, filled and committed. -/
lemma makes_insertAll_accepted (time : List Call → Nat) (before : List Call) :
    ∃ (report : Report) (statements : List Statement) (start : Call) (inserts : List Call)
      (commit : Call),
      Makes (insertAll respond.executor (clockOf time) config) before (.ok report)
        (start :: inserts ++ [commit]) ∧
      start.request = .control "START TRANSACTION" ∧ commit.request = .control "COMMIT" ∧
      inserts.map Call.request = statements.map .statement ∧
      inserts.all Call.succeeded = true ∧
      List.Forall₂ config.Inserts config.batches statements ∧
      report.counts = inserts.foldl Counts.add ⟨0, 0⟩ := by
  have hclock (calls : List Call) : (clockOf time).run calls = (time calls, calls) := rfl
  obtain ⟨statements, hstatements⟩ := config.exists_inserts 0 config.batchCount (Nat.zero_add _)
  obtain ⟨started, hanswer⟩ := haccepts before (.control "START TRANSACTION")
  have hstart := respond.makes_control before "START TRANSACTION"
  rw [hanswer] at hstart
  let start : Call := ⟨.control "START TRANSACTION", .ok started⟩
  obtain ⟨inserts, hinserts, hrequests, hall⟩ := makes_insertBatches_accepted config haccepts
    (Nat.zero_add _) (fun _ => (Nat.zero_mul _).symm) hstatements ⟨0, 0⟩ (before ++ [start])
  obtain ⟨committed, hanswer⟩ := haccepts (before ++ [start] ++ inserts) (.control "COMMIT")
  have hcommit := respond.makes_control (before ++ [start] ++ inserts) "COMMIT"
  rw [hanswer] at hcommit
  let commit : Call := ⟨.control "COMMIT", .ok committed⟩
  let later := before ++ [start] ++ inserts ++ [commit]
  refine ⟨⟨inserts.foldl Counts.add ⟨0, 0⟩, time later - time before⟩, statements, start, inserts,
    commit, ?_, rfl, rfl, hrequests, hall, hstatements, rfl⟩
  rw [insertAll, insertRows_empty]
  exact .bind_read (hclock before) (hstart.bind_ok (hinserts.bind_ok
    (hcommit.bind_ok (.bind_read (hclock later) (.pure _ later)))))

/-- With every request accepted the table is there, and is dropped. -/
lemma makes_clear_accepted (before : List Call) :
    ∃ calls, Makes (clear respond.executor config) before (.ok ()) calls ∧
      calls.map Call.request = [.statement (Statement.probe config.table),
        .statement (Statement.undefine config.table)] := by
  obtain ⟨probed, hprobed⟩ := haccepts before (.statement (Statement.probe config.table))
  have hprobe := respond.run_defined before config.table
  rw [hprobed] at hprobe
  let probe : Call := ⟨.statement (Statement.probe config.table), .ok probed⟩
  obtain ⟨dropped, hdropped⟩ :=
    haccepts (before ++ [probe]) (.statement (Statement.undefine config.table))
  have hdrop := respond.makes_undefine (before ++ [probe]) config.table
  rw [hdropped] at hdrop
  rw [clear]
  exact ⟨_, Makes.bind_lift hprobe hdrop, rfl⟩

/-- **No row is lost, repeated or moved by the buffer.**  Where every request succeeds, a run makes
its table anew, starts its transaction, sends the statements that insert the rows up to the given
number in batches, and nothing else, keeps them, and drops the table unless it is to be kept.  It
reports the number of these statements, and the sum of the rows that they are said to have affected
as far as that is a number of 64 bits. -/
theorem run_accounts (time : List Call → Nat) (before : List Call) :
    ∃ (report : Report) (create : Statement) (statements : List Statement)
      (opening inserts closing : List Call),
      Makes (run respond.executor (clockOf time) config) before (.ok report)
        (opening ++ inserts ++ closing) ∧
      Statement.define config.decl = .ok create ∧
      opening.map Call.request = [.statement (Statement.probe config.table),
        .statement (Statement.undefine config.table), .statement create,
        .control "START TRANSACTION"] ∧
      inserts.map Call.request = statements.map .statement ∧
      closing.map Call.request = .control "COMMIT" ::
        (if config.keepTable then [] else [.statement (Statement.undefine config.table)]) ∧
      Loads config.table (max config.bufferSize.toNat 1) config.rows.toNat statements ∧
      report.counts.batches.toNat = inserts.length ∧
      ((inserts.map Call.affected).sum < UInt64.size →
        report.counts.rows.toNat = (inserts.map Call.affected).sum) := by
  obtain ⟨create, hcreate⟩ : ∃ s, Statement.define config.decl = .ok s := ⟨_, rfl⟩
  obtain ⟨cleared, hclear, hcleared⟩ := makes_clear_accepted config haccepts before
  obtain ⟨created, hcreated⟩ := haccepts (before ++ cleared) (.statement create)
  have hdefine := respond.makes_define (before ++ cleared) hcreate
  rw [hcreated] at hdefine
  obtain ⟨report, statements, start, inserts, commit, hinsertAll, hstart, hcommit, hrequests, hall,
    hstatements, hcounts⟩ := makes_insertAll_accepted config haccepts time
      (before ++ cleared ++ [⟨.statement create, .ok created⟩])
  obtain ⟨drop, htidy, hdrop⟩ := makes_tidy respond config
    (before ++ cleared ++ [⟨.statement create, .ok created⟩] ++ (start :: inserts ++ [commit]))
  have hloads := loads_batches hstatements
  have hlength : inserts.length = statements.length := by
    rw [← List.length_map (f := Call.request), hrequests, List.length_map]
  refine ⟨report, create, statements,
    cleared ++ [⟨.statement create, .ok created⟩, start], inserts, commit :: drop.toList, ?_,
    hcreate, ?_, hrequests, ?_, hloads, ?_, fun h => ?_⟩
  · have hcalls : cleared ++ [⟨.statement create, .ok created⟩, start] ++ inserts ++
        commit :: drop.toList = cleared ++ ([⟨.statement create, .ok created⟩] ++
          ((start :: inserts ++ [commit]) ++ (drop.toList ++ []))) := by
      simp
    rw [hcalls, run]
    exact hclear.bind_ok (hdefine.bind_ok
      (Makes.bind_lift hinsertAll (Makes.bind_lift htidy (.settled (.ok report) _))))
  · rw [List.map_append, hcleared, List.map_cons, List.map_cons, hstart]
    rfl
  · rw [List.map_cons, hcommit, ← Option.toList_map, hdrop]
    cases config.keepTable with
    | true => rfl
    | false => rfl
  · -- the number of rows has 64 bits, and so that of the batches
    have hbatches : inserts.length ≤ config.rows.toNat :=
      hlength.trans_le (hloads.length_le config.batchSize_pos)
    rw [hcounts, Counts.toNat_batches_foldl hall]
    · exact Nat.zero_add _
    · exact Nat.lt_of_le_of_lt ((Nat.zero_add _).trans_le hbatches) config.rows.toNat_lt
  · rw [hcounts, Counts.toNat_rows_foldl]
    · exact Nat.zero_add _
    · exact (Nat.zero_add _).trans_lt h

end

/-- Five rows in batches of two: the last batch has one row. -/
theorem run_accounts_started : ∃ (report : Report) (statements : List Statement)
    (opening inserts closing : List Call),
    Makes (run (Responder.executor fun _ _ => .ok ⟨[], 2, some 1⟩) (clockOf List.length)
      ⟨"t", 5, 2, false⟩) [] (.ok report) (opening ++ inserts ++ closing) ∧
    inserts.map Call.request = statements.map .statement ∧ statements.length = 3 ∧
    statements.flatMap Statement.params = [.text "1", .text "1", .text "2", .text "2", .text "3",
      .text "3", .text "4", .text "4", .text "5", .text "5"] ∧
    report.counts.batches.toNat = inserts.length := by
  obtain ⟨report, create, statements, opening, inserts, closing, hmakes, -, -, hrequests, -,
    hloads, hbatches, -⟩ := run_accounts ⟨"t", 5, 2, false⟩
      (show Responder.Accepts fun _ _ => .ok ⟨[], 2, some 1⟩ from fun _ _ => ⟨_, rfl⟩) List.length []
  exact ⟨report, statements, opening, inserts, closing, hmakes, hrequests, hloads.length,
    hloads.params, hbatches⟩

end Benchmark

end TableGateway
