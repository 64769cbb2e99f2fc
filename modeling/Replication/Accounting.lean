import Replication.SingleLoop
import Mathlib

namespace Replication.Accounting

open BackfillRunner (codec program)

/-!
# Exact accounting of the backfill

A commit adds the two counts of its batch to the checkpoint row and moves the
watermark in one statement.  The count of failures is taken of the distinct ids
that the two sinks reported, so that the two columns together count the rows up
to the watermark.  The runner's machine is run here with two notes that no code
reads: every call carries the ids that its latest dispatch reported failed, and
every executed commit leaves a move of the watermark behind.
-/

/-- The columns of the checkpoint row, or the fields, that count together. -/
structure Totals where
  lastProcessedId : Nat
  recordsProcessed : Int
  recordsFailed : Int
  deriving DecidableEq, Repr

namespace Totals

/-- The columns of a row. -/
def ofCheckpoint (checkpoint : ReplicationCheckpoint) : Totals where
  lastProcessedId := checkpoint.lastProcessedId
  recordsProcessed := checkpoint.recordsProcessed
  recordsFailed := checkpoint.recordsFailed

/-- The fields of the runner. -/
def ofMemory (memory : BackfillRunner.Memory) : Totals where
  lastProcessedId := memory.cursor
  recordsProcessed := memory.totalProcessed
  recordsFailed := memory.totalFailed

/-- The columns after a commit. -/
def commit (totals : Totals) (data : CheckpointCommitData) : Totals where
  lastProcessedId := data.lastProcessedId
  recordsProcessed := totals.recordsProcessed + data.batchSuccessCount
  recordsFailed := totals.recordsFailed + data.batchFailedCount

end Totals

/-- An executed commit, with the failures of the dispatch it is about. -/
structure Move where
  before : Nat
  after : Nat
  failedIds : List Nat
  deriving DecidableEq, Repr

/-- The move has gone past the row. -/
def Move.Passes (move : Move) (id : Nat) : Prop :=
  move.before < id ∧ id ≤ move.after

/-- It has, and a sink had reported the row failed. -/
def Move.Fails (move : Move) (id : Nat) : Prop :=
  move.Passes id ∧ id ∈ move.failedIds

/-- One of the moves fails the row. -/
def FailedWhenPassed (moves : List Move) (id : Nat) : Prop :=
  ∃ move ∈ moves, move.Fails id

instance (move : Move) : DecidablePred move.Passes :=
  fun _ => inferInstanceAs (Decidable (_ ∧ _))

instance (move : Move) : DecidablePred move.Fails :=
  fun _ => inferInstanceAs (Decidable (_ ∧ _))

instance (moves : List Move) : DecidablePred (FailedWhenPassed moves) :=
  fun _ => inferInstanceAs (Decidable (∃ move ∈ moves, _))

/-- The runner and the moves of its watermark. -/
structure Shared where
  runner : RunnerState Nat BackfillRunner.Gauges
  moves : List Move

namespace Shared

/-- The columns of the checkpoint row, if there is one. -/
def stored (shared : Shared) : Option Totals :=
  shared.runner.checkpoint.map Totals.ofCheckpoint

/-- The fields of the runner. -/
def inMemory (shared : Shared) : Totals :=
  .ofMemory shared.runner.memory

end Shared

/-- A call with the ids that its latest dispatch reported failed. -/
structure Task where
  call : Call Nat
  reported : List Nat

/-- What the two sinks have reported failed, once both have answered. -/
def reportedBy : Call Nat → Option (List Nat)
  | .dispatch _ (.fulfilled esResult) (.fulfilled rmqResult) =>
      some (esResult.failedIds ++ rmqResult.failedIds)
  | .persistFailures _ esResult rmqResult _ =>
      some (esResult.failedIds ++ rmqResult.failedIds)
  | _ => none

/-- Note the move when the step executes a commit. -/
def noteMove
    (moves : List Move)
    (before after : RunnerState Nat BackfillRunner.Gauges)
    (task : Task) : Act → List Move
  | .serve _ =>
      match task.call with
      | .commitCheckpoint _ _ _ =>
          moves ++
            [{ before := codec.persisted before.checkpoint
               after := codec.persisted after.checkpoint
               failedIds := task.reported }]
      | _ => moves
  | _ => moves

/-- The calls that survive a control call. -/
def surviving (tasks : List Task) : Control → List Task
  | .kill => []
  | _ => tasks

/-- The machine of the backfill runner with the two notes. -/
def machine
    (parse : String → Option Json)
    (batchSize : Nat) :
    TaskMachine (List SourceRow) Shared Task Act Control SourceChange where
  act table shared task action :=
    ((program parse batchSize).act table shared.runner task.call action).map
      fun (runner, next, spawned) =>
        ({ runner
           moves := noteMove shared.moves shared.runner runner task action },
          { call := next
            reported := (reportedBy task.call).getD task.reported },
          spawned.map fun call => { call, reported := [] })
  env _ shared tasks event :=
    let (runner, started) :=
      (program parse batchSize).control shared.runner [] event
    some
      ({ shared with runner },
        surviving tasks event ++
          started.map fun call => { call, reported := [] })
  change := SourceChange.apply

/-- The runner with its notes and the source table. -/
abbrev World := TaskMachine.World (List SourceRow) Shared Task

/-- The same world without the notes. -/
def World.withoutNotes (world : World) : BackfillRunner.World where
  context := world.context
  shared := world.shared.runner
  tasks := world.tasks.map Task.call

/-- A freshly constructed runner; nothing has moved. -/
def initial
    (parse : String → Option Json)
    (batchSize : Nat)
    (table : List SourceRow)
    (checkpoint : Option ReplicationCheckpoint) : World where
  context := table
  shared :=
    { runner := ((program parse batchSize).initial table checkpoint).shared
      moves := [] }
  tasks := []

section Notes

variable
  {parse : String → Option Json}
  {batchSize : Nat}

/-- The notes change nothing about the runner. -/
theorem withoutNotes_step (world : World) (event : RunnerProgram.Event) :
    ((machine parse batchSize).step world event).map World.withoutNotes =
      (program parse batchSize).machine.step world.withoutNotes event := by
  cases event with
  | act index action =>
      cases found : world.tasks[index]? with
      | none =>
          simp [TaskMachine.step, World.withoutNotes, found]
      | some task =>
          simp only [TaskMachine.step, World.withoutNotes, found,
            List.getElem?_map, Option.map_some, machine,
            RunnerProgram.machine, Option.map_map]
          congr 1
          funext outcome
          obtain ⟨runner, next, spawned⟩ := outcome
          simp [World.withoutNotes, List.map_set, Function.comp_def]
  | env event =>
      cases event <;>
        simp [TaskMachine.step, World.withoutNotes, machine,
          RunnerProgram.machine, RunnerProgram.control, surviving]
  | change change =>
      simp only [TaskMachine.step, machine, RunnerProgram.machine,
        Option.map_map]
      rfl

end Notes

/-!
## What a commit adds

A batch is the rows of the table between the watermark and its last record, so
its commit counts each of them once.
-/

/-- The batch lists the rows above the cursor up to its last record, once. -/
structure Batch
    (table : List SourceRow)
    (cursor : Nat)
    (records : List SourceRecord) : Prop where
  once : (records.map SourceRecord.id).Nodup
  rows :
    ∀ last, records.getLast? = some last →
      ∀ id,
        id ∈ records.map SourceRecord.id ↔
          id ∈ table.map SourceRow.id ∧ cursor < id ∧ id ≤ last.id

/-- The rows up to that id. -/
def rowsUpTo (table : List SourceRow) (id : Nat) : Nat :=
  table.countP fun row => row.id ≤ id

/-- The rows up to that id which failed when the watermark passed them. -/
def failedUpTo (table : List SourceRow) (moves : List Move) (id : Nat) : Nat :=
  table.countP fun row => row.id ≤ id ∧ FailedWhenPassed moves row.id

/-- The columns count the rows up to the watermark. -/
structure Accounted
    (table : List SourceRow)
    (moves : List Move)
    (totals : Totals) : Prop where
  keys : PrimaryKeys table
  known :
    totals.lastProcessedId = 0 ∨
      totals.lastProcessedId ∈ table.map SourceRow.id
  passed : ∀ move ∈ moves, move.after ≤ totals.lastProcessedId
  passedOnce :
    ∀ id, 0 < id → id ≤ totals.lastProcessedId →
      ∃! move, move ∈ moves ∧ move.Passes id
  processed :
    totals.recordsProcessed + totals.recordsFailed =
      rowsUpTo table totals.lastProcessedId
  failed :
    totals.recordsFailed = failedUpTo table moves totals.lastProcessedId

/-- The commit of a batch whose dispatch has reported these failures. -/
structure CommitsBatch
    (records : List SourceRecord)
    (reported : List Nat)
    (data : CheckpointCommitData) : Prop where
  cursor :
    ∀ last, records.getLast? = some last → data.lastProcessedId = last.id
  named : ∀ id ∈ reported, id ∈ records.map SourceRecord.id
  successCount :
    data.batchSuccessCount = records.length - (reported.dedup.length : Int)
  failedCount : data.batchFailedCount = (reported.dedup.length : Int)

section Batches

variable
  {parse : String → Option Json}
  {table : List SourceRow}
  {cursor : Nat}
  {records : List SourceRecord}

/-- A fetched page is a batch. -/
theorem Batch.fetched
    {batchSize : Nat}
    (keys : PrimaryKeys table) :
    Batch table cursor ((program parse batchSize).fetch table cursor) := by
  have sameIds :
      ((program parse batchSize).fetch table cursor).map SourceRecord.id =
        (Keyset.page SourceRow.id cursor (fetchLimit batchSize) table).map
          SourceRow.id := by
    simp [program, SourceReader.fetchBackfillBatch, Function.comp_def]
  constructor
  · rw [sameIds]
    exact Keyset.nodup_keys_page keys.unique
  · intro last isLast id
    obtain ⟨row, rowLast, sameId⟩ := codec.ofRecord_getLast?_map isLast
    rw [sameIds, Keyset.mem_keys_page keys.unique rowLast]
    exact iff_of_eq (congrArg (fun bound => _ ∧ _ ∧ id ≤ bound) sameId)

/-- The batch of a table stays one when other rows are above its last one. -/
theorem Batch.change
    {changed : List SourceRow}
    (batch : Batch table cursor records)
    (sameBelow :
      ∀ last, records.getLast? = some last →
        ∀ id ≤ last.id,
          id ∈ changed.map SourceRow.id ↔ id ∈ table.map SourceRow.id) :
    Batch changed cursor records where
  once := batch.once
  rows last isLast id := by
    rw [batch.rows last isLast]
    constructor
    · rintro ⟨inTable, above, notAfterLast⟩
      exact ⟨(sameBelow last isLast id notAfterLast).mpr inTable,
        above, notAfterLast⟩
    · rintro ⟨inChanged, above, notAfterLast⟩
      exact ⟨(sameBelow last isLast id notAfterLast).mp inChanged,
        above, notAfterLast⟩

/-- The last record of a batch is above the cursor and in the table. -/
theorem Batch.last
    {last : SourceRecord}
    (batch : Batch table cursor records)
    (isLast : records.getLast? = some last) :
    last.id ∈ table.map SourceRow.id ∧ cursor < last.id := by
  have listed :=
    (batch.rows last isLast last.id).mp
      (List.mem_map_of_mem (List.mem_of_getLast? isLast))
  exact ⟨listed.1, listed.2.1⟩

/-- The batch has as many records as the table has rows up to its end. -/
theorem Batch.count
    {last : SourceRecord}
    (batch : Batch table cursor records)
    (keys : PrimaryKeys table)
    (isLast : records.getLast? = some last) :
    rowsUpTo table last.id = rowsUpTo table cursor + records.length := by
  have between :
      table.countP (fun row => cursor < row.id && row.id ≤ last.id) =
        (records.map SourceRecord.id).length :=
    Keyset.countP_eq_length SourceRow.id
      (fun id => cursor < id && id ≤ last.id) keys.unique batch.once
      fun id => by simpa using batch.rows last isLast id
  have parts :=
    Keyset.countP_le_add SourceRow.id (fun _ => true)
      (le_of_lt (batch.last isLast).2) table
  simp only [Bool.and_true] at parts
  rw [rowsUpTo, rowsUpTo, parts, between, List.length_map]

end Batches

section Commits

variable
  {table : List SourceRow}
  {moves : List Move}
  {records : List SourceRecord}
  {reported : List Nat}
  {last : SourceRecord}

/-- Rows up to the old watermark fail as before, the others by the new move. -/
theorem failedUpTo_move
    {cursor : Nat}
    (keys : PrimaryKeys table)
    (passed : ∀ move ∈ moves, move.after ≤ cursor)
    (batch : Batch table cursor records)
    (isLast : records.getLast? = some last)
    (named : ∀ id ∈ reported, id ∈ records.map SourceRecord.id) :
    failedUpTo table (moves ++ [⟨cursor, last.id, reported⟩]) last.id =
      failedUpTo table moves cursor + reported.dedup.length := by
  have below :
      ∀ {id}, id ≤ cursor →
        (FailedWhenPassed (moves ++ [⟨cursor, last.id, reported⟩]) id ↔
          FailedWhenPassed moves id) := by
    intro id notAbove
    constructor
    · rintro ⟨move, member, fails⟩
      rcases List.mem_append.mp member with old | new
      · exact ⟨move, old, fails⟩
      · obtain rfl := List.mem_singleton.mp new
        exact absurd fails.1.1 (not_lt_of_ge notAbove)
    · rintro ⟨move, member, fails⟩
      exact ⟨move, List.mem_append_left _ member, fails⟩
  have above :
      ∀ {id}, cursor < id → id ≤ last.id →
        (FailedWhenPassed (moves ++ [⟨cursor, last.id, reported⟩]) id ↔
          id ∈ reported) := by
    intro id isAbove notAfterLast
    constructor
    · rintro ⟨move, member, ⟨_, notAfter⟩, failed⟩
      rcases List.mem_append.mp member with old | new
      · exact absurd (notAfter.trans (passed move old))
          (not_le_of_gt isAbove)
      · obtain rfl := List.mem_singleton.mp new
        exact failed
    · intro failed
      exact ⟨_, List.mem_append_right _ (List.mem_singleton_self _),
        ⟨isAbove, notAfterLast⟩, failed⟩
  have between :
      table.countP
          (fun row => (cursor < row.id && row.id ≤ last.id) &&
            decide (row.id ∈ reported)) =
        reported.dedup.length := by
    refine Keyset.countP_eq_length SourceRow.id
      (fun id => (cursor < id && id ≤ last.id) && decide (id ∈ reported))
      keys.unique (List.nodup_dedup _) fun id => ?_
    rw [List.mem_dedup]
    simp only [Bool.and_eq_true, decide_eq_true_eq]
    constructor
    · intro failed
      have listed := (batch.rows last isLast id).mp (named id failed)
      exact ⟨listed.1, listed.2, failed⟩
    · exact fun both => both.2.2
  have parts :=
    Keyset.countP_le_add SourceRow.id
      (fun row => FailedWhenPassed
        (moves ++ [⟨cursor, last.id, reported⟩]) row.id)
      (le_of_lt (batch.last isLast).2) table
  simp only [failedUpTo, Bool.decide_and]
  rw [parts, ← between]
  congr 1
  · apply List.countP_congr
    intro row _
    simp only [Bool.and_eq_true, decide_eq_true_eq]
    exact and_congr_right below
  · apply List.countP_congr
    intro row _
    simp only [Bool.and_eq_true, decide_eq_true_eq]
    exact and_congr_right fun both => above both.1 both.2

/-- A further move passes every row up to its end that no other has passed. -/
theorem passedOnce_move
    {cursor upTo : Nat}
    (passed : ∀ move ∈ moves, move.after ≤ cursor)
    (passedOnce :
      ∀ id, 0 < id → id ≤ cursor →
        ∃! move, move ∈ moves ∧ move.Passes id)
    (id : Nat)
    (positive : 0 < id)
    (notAfter : id ≤ upTo) :
    ∃! move,
      move ∈ moves ++ [⟨cursor, upTo, reported⟩] ∧ move.Passes id := by
  by_cases below : id ≤ cursor
  · obtain ⟨move, ⟨member, passes⟩, unique⟩ :=
      passedOnce id positive below
    refine ⟨move, ⟨List.mem_append_left _ member, passes⟩, ?_⟩
    rintro other ⟨otherMember, otherPasses⟩
    rcases List.mem_append.mp otherMember with old | new
    · exact unique other ⟨old, otherPasses⟩
    · obtain rfl := List.mem_singleton.mp new
      exact absurd otherPasses.1 (not_lt_of_ge below)
  · have above := lt_of_not_ge below
    refine ⟨_, ⟨List.mem_append_right _ (List.mem_singleton_self _),
      above, notAfter⟩, ?_⟩
    rintro other ⟨otherMember, otherPasses⟩
    rcases List.mem_append.mp otherMember with old | new
    · exact absurd (otherPasses.2.trans (passed other old)) below
    · exact List.mem_singleton.mp new

/-- The commit of a batch keeps the account. -/
theorem Accounted.commit
    {totals : Totals}
    {data : CheckpointCommitData}
    (accounted : Accounted table moves totals)
    (batch : Batch table totals.lastProcessedId records)
    (nonempty : records ≠ [])
    (commits : CommitsBatch records reported data) :
    Accounted table
      (moves ++
        [⟨totals.lastProcessedId, data.lastProcessedId, reported⟩])
      (totals.commit data) := by
  have isLast := List.getLast?_eq_some_getLast nonempty
  have cursor := commits.cursor _ isLast
  have ends := batch.last isLast
  have counted := batch.count accounted.keys isLast
  have failures :=
    failedUpTo_move accounted.keys accounted.passed batch isLast
      commits.named
  have processed := accounted.processed
  have failed := accounted.failed
  refine ⟨accounted.keys, .inr ?_, ?_,
    passedOnce_move accounted.passed accounted.passedOnce, ?_, ?_⟩
  · rw [Totals.commit, cursor]
    exact ends.1
  · intro move member
    rcases List.mem_append.mp member with old | new
    · rw [Totals.commit, cursor]
      exact (accounted.passed move old).trans (le_of_lt ends.2)
    · exact le_of_eq (congrArg Move.after (List.mem_singleton.mp new))
  · simp only [Totals.commit, commits.successCount, commits.failedCount]
    rw [cursor, counted]
    push_cast
    linarith
  · simp only [Totals.commit, commits.failedCount]
    rw [cursor, failures, failed]
    push_cast
    rfl

/-- A change of the table above the watermark keeps the account. -/
theorem Accounted.change
    {changed : List SourceRow}
    {totals : Totals}
    (accounted : Accounted table moves totals)
    (keys : PrimaryKeys changed)
    (sameBelow :
      ∀ id ≤ totals.lastProcessedId,
        id ∈ changed.map SourceRow.id ↔ id ∈ table.map SourceRow.id) :
    Accounted changed moves totals where
  keys := keys
  known :=
    accounted.known.imp_right (sameBelow _ (le_refl _)).mpr
  passed := accounted.passed
  passedOnce := accounted.passedOnce
  processed := by
    rw [accounted.processed, rowsUpTo, rowsUpTo,
      Keyset.countP_eq_of_keys SourceRow.id
        (fun id => id ≤ totals.lastProcessedId)
        accounted.keys.unique keys.unique]
    simpa using sameBelow
  failed := by
    rw [accounted.failed, failedUpTo, failedUpTo,
      Keyset.countP_eq_of_keys SourceRow.id
        (fun id => id ≤ totals.lastProcessedId ∧ FailedWhenPassed moves id)
        accounted.keys.unique keys.unique]
    intro id failed
    exact sameBelow id (of_decide_eq_true failed).1

end Commits

/-!
## The invariant

The totals in memory run ahead of the row only while a commit is awaited.  A
loop that dies there leaves the row behind as it was, and the next one reads it.
-/

/-- Every failure names a record of the batch. -/
def FailuresNamed
    (result : SinkResult)
    (records : List SourceRecord) : Prop :=
  ∀ id ∈ result.failedIds, id ∈ records.map SourceRecord.id

instance (result : SinkResult) (records : List SourceRecord) :
    Decidable (FailuresNamed result records) :=
  inferInstanceAs (Decidable (∀ id ∈ result.failedIds, _))

/--
At most one loop is started, the table gains rows at the top only, and failures
name records of the batch.
-/
def Admitted (world : World) : RunnerProgram.Event → Prop
  | .env .start => ∀ task ∈ world.tasks, ¬ task.call.Active
  | .act index (.settle _ (some result)) =>
      ∀ task ∈ world.tasks[index]?,
        FailuresNamed result (RunnerProgram.batchOf task.call)
  | .change (.insert row) =>
      IsKey row.id ∧ ∀ old ∈ world.context, old.id < row.id
  | _ => True

instance (world : World) : DecidablePred (Admitted world)
  | .env .start =>
      inferInstanceAs (Decidable (∀ task ∈ world.tasks, _))
  | .env .pause => isTrue trivial
  | .env .kill => isTrue trivial
  | .act _ (.settle _ (some _)) =>
      inferInstanceAs (Decidable (∀ task ∈ world.tasks[_]?, _))
  | .act _ (.settle _ none) => isTrue trivial
  | .act _ (.serve _) => isTrue trivial
  | .act _ .reject => isTrue trivial
  | .act _ (.begin _) => isTrue trivial
  | .act _ (.turn _) => isTrue trivial
  | .change (.insert _) => inferInstanceAs (Decidable (_ ∧ _))
  | .change (.update _ _) => isTrue trivial

/-- The columns of the row as the next loop reads them. -/
def Shared.persisted (shared : Shared) : Totals :=
  .ofCheckpoint (CheckpointManager.getCheckpoint shared.runner.checkpoint)

/-- What holds of an active call while it is suspended. -/
def Local
    (table : List SourceRow)
    (stored : Option Totals)
    (inMemory : Totals)
    (task : Task) : Prop :=
  match task.call with
  | .getCheckpoint answer =>
      ∀ checkpoint, answer = .fulfilled checkpoint →
        stored = some (.ofCheckpoint checkpoint)
  | .updateStatus status _ => status = .running → stored = some inMemory
  | .fetchBatch cursor answer =>
      stored = some inMemory ∧ cursor = inMemory.lastProcessedId ∧
        ∀ records, answer = .fulfilled records →
          Batch table cursor records
  | .dispatch records esCall rmqCall =>
      stored = some inMemory ∧ records ≠ [] ∧
        Batch table inMemory.lastProcessedId records ∧
        (∀ result, esCall = .fulfilled result →
          FailuresNamed result records) ∧
        ∀ result, rmqCall = .fulfilled result →
          FailuresNamed result records
  | .persistFailures records esResult rmqResult _ =>
      stored = some inMemory ∧ records ≠ [] ∧
        Batch table inMemory.lastProcessedId records ∧
        FailuresNamed esResult records ∧ FailuresNamed rmqResult records
  | .commitCheckpoint records data .pending =>
      ∃ totals,
        stored = some totals ∧ records ≠ [] ∧
          Batch table totals.lastProcessedId records ∧
          CommitsBatch records task.reported data ∧
          totals.commit data =
            { inMemory with lastProcessedId := data.lastProcessedId }
  | .commitCheckpoint _ data (.fulfilled _) =>
      stored =
        some { inMemory with lastProcessedId := data.lastProcessedId }
  | _ => True

/-- The row counts the rows, and the active call is in step with it. -/
structure Kept
    (table : List SourceRow)
    (shared : Shared)
    (task : Task) : Prop where
  accounted : Accounted table shared.moves shared.persisted
  current : Local table shared.stored shared.inMemory task

section Steps

variable
  {parse : String → Option Json}
  {batchSize : Nat}
  {table : List SourceRow}
  {shared : Shared}
  {task : Task}
  {after : RunnerState Nat BackfillRunner.Gauges}
  {next : Call Nat}

/-- A stored row is the one that is read. -/
theorem persisted_of_stored
    {totals : Totals}
    (isStored : shared.stored = some totals) :
    shared.persisted = totals := by
  obtain ⟨row, isRow, rfl⟩ := Option.map_eq_some_iff.mp isStored
  simp [Shared.persisted, isRow, CheckpointManager.getCheckpoint]

/-- A status update touches none of the three columns. -/
theorem stored_updateStatus
    (status : PipelineStatus)
    (row : Option ReplicationCheckpoint) :
    (CheckpointManager.updateStatus status row).map Totals.ofCheckpoint =
      row.map Totals.ofCheckpoint := by
  cases row <;> rfl

/-- So they are read as before. -/
theorem persisted_updateStatus
    (status : PipelineStatus)
    (row : Option ReplicationCheckpoint) :
    Totals.ofCheckpoint
        (CheckpointManager.getCheckpoint
          (CheckpointManager.updateStatus status row)) =
      .ofCheckpoint (CheckpointManager.getCheckpoint row) := by
  cases row <;> rfl

/-- The loop condition changes none of the three fields. -/
theorem ofMemory_loopHead
    {memory entered : BackfillRunner.Memory}
    (head : LoopHead .backfill memory entered next) :
    Totals.ofMemory entered = .ofMemory memory := by
  cases head <;> rfl

/-- A loop that goes on fetches from the watermark. -/
theorem local_of_loopHead
    {memory entered : BackfillRunner.Memory}
    {reported : List Nat}
    {stored : Option Totals}
    (head : LoopHead .backfill memory entered next)
    (inStep : stored = some (.ofMemory memory)) :
    Local table stored (.ofMemory entered) ⟨next, reported⟩ := by
  cases head with
  | stopped stop => trivial
  | fetch isBackfill go => exact ⟨inStep, rfl, nofun⟩
  | lag isIncremental go => cases isIncremental

/-- The commit of a dispatch counts the distinct failures of both results. -/
theorem CommitsBatch.of_results
    {records : List SourceRecord}
    {esResult rmqResult : SinkResult}
    {data : CheckpointCommitData}
    (commit : CommitOf codec records esResult rmqResult data)
    (esNamed : FailuresNamed esResult records)
    (rmqNamed : FailuresNamed rmqResult records) :
    CommitsBatch records (esResult.failedIds ++ rmqResult.failedIds)
      data where
  cursor := commit.cursor
  named id failed :=
    (List.mem_append.mp failed).elim (esNamed id) (rmqNamed id)
  successCount := commit.successCount
  failedCount := commit.failedCount

/-- The database executes a statement of the loop. -/
theorem kept_of_served
    {call : Call Nat}
    {reported : List Nat}
    (kept : Kept table shared ⟨call, reported⟩)
    {now : Int}
    (served :
      Served (program parse batchSize) table now shared.runner
        call after next) :
    Kept table
      ⟨after,
        noteMove shared.moves shared.runner after ⟨call, reported⟩
          (.serve now)⟩
      ⟨next, (reportedBy call).getD reported⟩ := by
  obtain ⟨accounted, current⟩ := kept
  cases served with
  | checkpoint =>
      refine ⟨accounted, ?_⟩
      rintro checkpoint ⟨⟩
      rfl
  | status status =>
      constructor
      · simp only [Shared.persisted, persisted_updateStatus]
        exact accounted
      · intro isRunning
        exact (stored_updateStatus status _).trans (current isRunning)
  | lag cursor => exact ⟨accounted, trivial⟩
  | fetch cursor =>
      obtain ⟨inStep, isCursor, _⟩ := current
      refine ⟨accounted, inStep, isCursor, ?_⟩
      rintro records ⟨⟩
      exact .fetched accounted.keys
  | persisted records esResult rmqResult stored =>
      exact ⟨accounted, current⟩
  | notPersisted records esResult rmqResult =>
      exact ⟨accounted, current⟩
  | committed records data =>
      obtain ⟨totals, isStored, nonempty, batch, commits, sameTotals⟩ :=
        current
      obtain ⟨row, isRow, rfl⟩ := Option.map_eq_some_iff.mp isStored
      rw [persisted_of_stored isStored] at accounted
      have moved := accounted.commit batch nonempty commits
      constructor
      · simpa [Shared.persisted, noteMove, CheckpointManager.getCheckpoint,
          CheckpointManager.commitCheckpoint, CursorCodec.persisted,
          CursorCodec.ofCheckpoint, codec, isRow, Totals.ofCheckpoint,
          Totals.commit] using moved
      · change
          (CheckpointManager.commitCheckpoint data
              shared.runner.checkpoint).map Totals.ofCheckpoint = _
        rw [isRow]
        exact congrArg some sameTotals

/-- A statement of the loop is rejected. -/
theorem kept_of_rejected
    {call : Call Nat}
    {reported : List Nat}
    (kept : Kept table shared ⟨call, reported⟩)
    (rejected : Rejected call next) :
    Kept table shared ⟨next, (reportedBy call).getD reported⟩ := by
  obtain ⟨accounted, current⟩ := kept
  refine ⟨accounted, ?_⟩
  cases rejected with
  | checkpoint => exact nofun
  | status status => exact current
  | lag cursor => trivial
  | fetch cursor => exact ⟨current.1, current.2.1, nofun⟩
  | persist records esResult rmqResult => exact current
  | commit records data => trivial

/-- A sink operation of the loop is started. -/
theorem kept_of_begun
    {call : Call Nat}
    {reported : List Nat}
    {sink : Sink}
    (kept : Kept table shared ⟨call, reported⟩)
    (begun : Begun sink call next) :
    Kept table shared ⟨next, (reportedBy call).getD reported⟩ := by
  obtain ⟨accounted, current⟩ := kept
  refine ⟨accounted, ?_⟩
  cases begun with
  | elasticsearch records rmqCall =>
      obtain ⟨inStep, nonempty, batch, _, rmqNamed⟩ := current
      exact ⟨inStep, nonempty, batch, nofun, rmqNamed⟩
  | rabbitmq records esCall =>
      obtain ⟨inStep, nonempty, batch, esNamed, _⟩ := current
      exact ⟨inStep, nonempty, batch, esNamed, nofun⟩
  | orphan sink records => trivial

/-- A sink call that is fulfilled names failures of the batch. -/
theorem named_of_settles
    {records : List SourceRecord}
    {outcome : Option SinkResult}
    {sinkCall settled : SinkCall}
    (settles : sinkCall.Settles outcome settled)
    (named : ∀ result ∈ outcome, FailuresNamed result records) :
    ∀ result, settled = .fulfilled result →
      FailuresNamed result records := by
  rintro result rfl
  cases settles
  exact named result rfl

/-- A sink call of the loop settles. -/
theorem local_of_settled
    {call : Call Nat}
    {reported : List Nat}
    {sink : Sink}
    {outcome : Option SinkResult}
    (current :
      Local table shared.stored shared.inMemory ⟨call, reported⟩)
    (named :
      ∀ result ∈ outcome,
        FailuresNamed result (RunnerProgram.batchOf call))
    (settled : Settles sink outcome call next) :
    Local table shared.stored shared.inMemory
      ⟨next, (reportedBy call).getD reported⟩ := by
  cases settled with
  | elasticsearch isSink records rmqCall settles =>
      obtain ⟨inStep, nonempty, batch, _, rmqNamed⟩ := current
      exact ⟨inStep, nonempty, batch,
        named_of_settles settles named, rmqNamed⟩
  | rabbitmq isSink records esCall settles =>
      obtain ⟨inStep, nonempty, batch, esNamed, _⟩ := current
      exact ⟨inStep, nonempty, batch, esNamed,
        named_of_settles settles named⟩
  | orphan records settles => trivial

/-- A dispatch that is ready to be committed is in step with the row. -/
theorem ready_spec
    {call : Call Nat}
    {reported : List Nat}
    {records : List SourceRecord}
    {esResult rmqResult : SinkResult}
    (current :
      Local table shared.stored shared.inMemory ⟨call, reported⟩)
    (ready : ReadyToCommit records esResult rmqResult call) :
    shared.stored = some shared.inMemory ∧ records ≠ [] ∧
      Batch table shared.inMemory.lastProcessedId records ∧
      FailuresNamed esResult records ∧ FailuresNamed rmqResult records ∧
      (reportedBy call).getD reported =
        esResult.failedIds ++ rmqResult.failedIds := by
  cases ready with
  | clean noFailures =>
      obtain ⟨inStep, nonempty, batch, esNamed, rmqNamed⟩ := current
      exact ⟨inStep, nonempty, batch, esNamed _ rfl, rmqNamed _ rfl, rfl⟩
  | persisted answer =>
      obtain ⟨inStep, nonempty, batch, esNamed, rmqNamed⟩ := current
      exact ⟨inStep, nonempty, batch, esNamed, rmqNamed, rfl⟩

/-- A turn of the loop. -/
theorem local_of_turn
    {call : Call Nat}
    {reported : List Nat}
    {memory : BackfillRunner.Memory}
    {orphans : List (Call Nat)}
    (current :
      Local table shared.stored shared.inMemory ⟨call, reported⟩)
    (turned :
      Turn .backfill codec shared.runner.memory call memory next orphans) :
    Local table shared.stored (.ofMemory memory)
      ⟨next, (reportedBy call).getD reported⟩ := by
  cases turned with
  | load checkpoint go =>
      intro _
      exact current checkpoint rfl
  | enter answer gauges head =>
      exact local_of_loopHead head (current rfl)
  | dispatched cursor records nonempty =>
      obtain ⟨inStep, rfl, fetched⟩ := current
      exact ⟨inStep, nonempty, fetched records rfl, nofun, nofun⟩
  | persisting records esResult rmqResult failures =>
      obtain ⟨inStep, nonempty, batch, esNamed, rmqNamed⟩ := current
      exact ⟨inStep, nonempty, batch, esNamed _ rfl, rmqNamed _ rfl⟩
  | committing records esResult rmqResult data gauges ready commit =>
      obtain ⟨inStep, nonempty, batch, esNamed, rmqNamed, same⟩ :=
        ready_spec current ready
      refine ⟨shared.inMemory, inStep, nonempty, batch, ?_, rfl⟩
      rw [same]
      exact .of_results commit esNamed rmqNamed
  | advanced records data answer head =>
      exact local_of_loopHead head current
  | completed cursor isBackfill => exact nofun
  | dispatchFailed records esCall rmqCall isBackfill rejected =>
      exact nofun
  | failed failure => exact nofun
  | loadStopped checkpoint stop => trivial
  | loadFailed => trivial
  | runningFailed => trivial
  | statusWritten status answer last => trivial
  | completedWritten answer isBackfill => trivial
  | measured cursor lag gauges isIncremental => cases isIncremental
  | idle cursor isIncremental => cases isIncremental
  | advancedIdle records data answer isIncremental => cases isIncremental
  | woken isIncremental head => cases isIncremental
  | dispatchRetried records esCall rmqCall isIncremental rejected =>
      cases isIncremental

/-- Every step of the loop keeps the account. -/
theorem kept_of_step
    {call : Call Nat}
    {reported : List Nat}
    {action : Act}
    {spawned : List (Call Nat)}
    (kept : Kept table shared ⟨call, reported⟩)
    (named :
      ∀ sink result, action = .settle sink (some result) →
        FailuresNamed result (RunnerProgram.batchOf call))
    (step :
      Step (program parse batchSize) .backfill codec table shared.runner
        call action after next spawned) :
    Kept table
      ⟨after,
        noteMove shared.moves shared.runner after ⟨call, reported⟩ action⟩
      ⟨next, (reportedBy call).getD reported⟩ := by
  cases step with
  | serve now served => exact kept_of_served kept served
  | reject rejected => exact kept_of_rejected kept rejected
  | begin sink begun => exact kept_of_begun kept begun
  | settle sink outcome settled =>
      have batch :
          ∀ result ∈ outcome,
            FailuresNamed result (RunnerProgram.batchOf call) := by
        rintro result ⟨⟩
        exact named sink result rfl
      have current := local_of_settled kept.current batch settled
      exact ⟨kept.accounted, current⟩
  | turn now turned =>
      have current := local_of_turn kept.current turned
      exact ⟨kept.accounted, current⟩

/-- A step of anything but a loop leaves the row and the fields alone. -/
theorem untouched_of_step
    {call : Call Nat}
    {reported : List Nat}
    {action : Act}
    {spawned : List (Call Nat)}
    (inactive : ¬ call.Active)
    (step :
      Step (program parse batchSize) .backfill codec table shared.runner
        call action after next spawned) :
    let later : Shared :=
      ⟨after,
        noteMove shared.moves shared.runner after ⟨call, reported⟩ action⟩
    later.stored = shared.stored ∧ later.persisted = shared.persisted ∧
      later.inMemory = shared.inMemory ∧ later.moves = shared.moves := by
  have sameMemory := (inactive_step inactive step).2.1
  have inMemory :
      Totals.ofMemory after.memory = .ofMemory shared.runner.memory :=
    congrArg Totals.ofMemory sameMemory
  cases step with
  | serve now served =>
      cases served with
      | status status =>
          exact ⟨stored_updateStatus _ _, persisted_updateStatus _ _,
            inMemory, rfl⟩
      | _ => exact (inactive trivial).elim
  | reject rejected => exact ⟨rfl, rfl, inMemory, rfl⟩
  | begin sink begun => exact ⟨rfl, rfl, inMemory, rfl⟩
  | settle sink outcome settled => exact ⟨rfl, rfl, inMemory, rfl⟩
  | turn now turned => exact ⟨rfl, rfl, inMemory, rfl⟩

end Steps

/-- The row counts the rows, and the one active loop is in step with it. -/
abbrev Invariant : World → Prop :=
  TaskMachine.ExclusiveInvariant (fun task => task.call.Active)
    (fun table shared => Accounted table shared.moves shared.persisted)
    (fun table shared task =>
      Local table shared.stored shared.inMemory task)

section Runs

variable
  {parse : String → Option Json}
  {batchSize : Nat}

/-- A changed row keeps its id, and an inserted one is above all others. -/
theorem ids_of_change
    {world : World}
    {change : SourceChange}
    {changed : List SourceRow}
    (keys : PrimaryKeys world.context)
    (admitted : Admitted world (.change change))
    (applied : change.apply world.context = some changed) :
    PrimaryKeys changed ∧
      ∀ id,
        (id = 0 ∨ ∃ top ∈ world.context, id ≤ top.id) →
        (id ∈ changed.map SourceRow.id ↔
          id ∈ world.context.map SourceRow.id) := by
  cases change with
  | insert row =>
      simp only [SourceChange.apply] at applied
      split at applied
      · cases applied
        obtain ⟨isKey, highest⟩ := admitted
        refine ⟨BackfillRunner.primaryKeys_insert keys isKey highest, ?_⟩
        intro id notAbove
        have different : id ≠ row.id := by
          rcases notAbove with rfl | ⟨top, member, notAfter⟩
          · exact Nat.ne_of_lt isKey.1
          · exact Nat.ne_of_lt (notAfter.trans_lt (highest top member))
        simp [different]
      · cases applied
  | update id row =>
      simp only [SourceChange.apply] at applied
      split at applied
      · rename_i isRow
        cases applied
        have sameIds :
            (world.context.map fun old =>
                if old.id = id then row else old).map SourceRow.id =
              world.context.map SourceRow.id := by
          rw [List.map_map]
          apply List.map_congr_left
          intro old _
          simp only [Function.comp_apply]
          split
          · exact isRow.1.trans (Eq.symm ‹_›)
          · rfl
        refine ⟨⟨?_, sameIds ▸ keys.unique⟩, fun id _ => by rw [sameIds]⟩
        intro changedRow member
        have listed :
            changedRow.id ∈ world.context.map SourceRow.id :=
          sameIds ▸ List.mem_map_of_mem member
        obtain ⟨old, oldMember, same⟩ := List.mem_map.mp listed
        exact same ▸ keys.isKey old oldMember
      · cases applied

/-- A change of the table keeps what an active call is waiting with. -/
theorem Local.change
    {table changed : List SourceRow}
    {stored : Option Totals}
    {inMemory : Totals}
    {task : Task}
    (current : Local table stored inMemory task)
    (batches :
      ∀ {cursor records},
        Batch table cursor records → Batch changed cursor records) :
    Local changed stored inMemory task := by
  obtain ⟨call, reported⟩ := task
  cases call with
  | fetchBatch cursor answer =>
      obtain ⟨inStep, isCursor, fetched⟩ := current
      exact ⟨inStep, isCursor, fun records isAnswer =>
        batches (fetched records isAnswer)⟩
  | dispatch records esCall rmqCall =>
      obtain ⟨inStep, nonempty, batch, named⟩ := current
      exact ⟨inStep, nonempty, batches batch, named⟩
  | persistFailures records esResult rmqResult answer =>
      obtain ⟨inStep, nonempty, batch, named⟩ := current
      exact ⟨inStep, nonempty, batches batch, named⟩
  | commitCheckpoint records data answer =>
      cases answer with
      | pending =>
          obtain ⟨totals, isStored, nonempty, batch, rest⟩ := current
          exact ⟨totals, isStored, nonempty, batches batch, rest⟩
      | fulfilled answer => exact current
      | rejected => trivial
  | _ => exact current

/-- Every admitted step keeps the invariant. -/
theorem Invariant.step
    {before after : World}
    {event : RunnerProgram.Event}
    (holds : Invariant before)
    (admitted : Admitted before event)
    (taken : (machine parse batchSize).step before event = some after) :
    Invariant after := by
  refine TaskMachine.ExclusiveInvariant.step ?_ ?_ ?_ ?_
    holds admitted taken
  · intro world index task action shared next spawned
      worldHolds allowed found _ current moved
    obtain ⟨⟨runner, call, orphans⟩, acted, same⟩ :=
      Option.map_eq_some_iff.mp moved
    cases same
    have step :=
      (BackfillRunner.program_follows parse batchSize).act_spec acted
    have kept :=
      kept_of_step ⟨worldHolds.global, current⟩
        (by
          rintro sink result rfl
          exact allowed task found)
        step
    refine ⟨kept.accounted, fun _ => kept.current, ?_⟩
    intro new member
    obtain ⟨orphan, isOrphan, rfl⟩ := List.mem_map.mp member
    exact spawned_not_active step orphan isOrphan
  · intro world index task action shared next spawned
      worldHolds _ _ inactive moved
    obtain ⟨⟨runner, call, orphans⟩, acted, same⟩ :=
      Option.map_eq_some_iff.mp moved
    cases same
    have step :=
      (BackfillRunner.program_follows parse batchSize).act_spec acted
    obtain ⟨sameStored, samePersisted, sameMemory, sameMoves⟩ :=
      untouched_of_step inactive step
    refine ⟨?_, (inactive_step inactive step).2.2, ?_, ?_⟩
    · rw [samePersisted, sameMoves]
      exact worldHolds.global
    · intro new member
      obtain ⟨orphan, isOrphan, rfl⟩ := List.mem_map.mp member
      exact spawned_not_active step orphan isOrphan
    · intro other _ current
      rw [sameStored, sameMemory]
      exact current
  · intro world event shared tasks worldHolds allowed moved
    cases event with
    | start =>
        cases moved
        refine ⟨worldHolds.global, .append_singleton allowed, ?_⟩
        intro task member active
        rcases List.mem_append.mp member with old | new
        · exact absurd active (allowed task old)
        · obtain rfl := List.mem_singleton.mp new
          exact nofun
    | pause =>
        cases moved
        refine ⟨worldHolds.global, worldHolds.atMostOne.append ?_, ?_⟩
        · intro task new
          obtain rfl := List.mem_singleton.mp new
          exact id
        · intro task member active
          rcases List.mem_append.mp member with old | new
          · exact worldHolds.local_ task old active
          · obtain rfl := List.mem_singleton.mp new
            exact active.elim
    | kill =>
        cases moved
        exact .of_idle rfl worldHolds.global
  · intro world change changed worldHolds allowed applied
    have accounted := worldHolds.global
    obtain ⟨keys, sameBelow⟩ :=
      ids_of_change accounted.keys allowed applied
    constructor
    · refine accounted.change keys fun id notAbove => sameBelow id ?_
      rcases accounted.known with isZero | listed
      · exact .inl (Nat.le_zero.mp (isZero ▸ notAbove))
      · obtain ⟨top, member, same⟩ := List.mem_map.mp listed
        exact .inr ⟨top, member, same ▸ notAbove⟩
    · intro task member active
      refine (worldHolds.local_ task member active).change fun batch => ?_
      refine batch.change fun last isLast id notAfterLast =>
        sameBelow id (.inr ?_)
      obtain ⟨top, topMember, same⟩ :=
        List.mem_map.mp (batch.last isLast).1
      exact ⟨top, topMember, same ▸ notAfterLast⟩

/-- A runner whose row counts nothing yet. -/
theorem Invariant.initial
    {table : List SourceRow}
    {checkpoint : Option ReplicationCheckpoint}
    (keys : PrimaryKeys table)
    (fresh :
      Totals.ofCheckpoint (CheckpointManager.getCheckpoint checkpoint) =
        ⟨0, 0, 0⟩) :
    Invariant (Accounting.initial parse batchSize table checkpoint) := by
  refine .of_idle rfl ?_
  have persisted :
      (Accounting.initial parse batchSize table
          checkpoint).shared.persisted = ⟨0, 0, 0⟩ := fresh
  rw [persisted]
  have noRow : ∀ row ∈ table, ¬ row.id ≤ 0 :=
    fun row member => not_le_of_gt (keys.positive row member)
  refine ⟨keys, .inl rfl, nofun, ?_, ?_, ?_⟩
  · intro id positive atZero
    exact absurd positive (not_lt_of_ge atZero)
  · have none : rowsUpTo table 0 = 0 :=
      List.countP_eq_zero.mpr fun row member =>
        by simpa using noRow row member
    exact congrArg Nat.cast none.symm
  · have none : failedUpTo table [] 0 = 0 :=
      List.countP_eq_zero.mpr fun row member =>
        by simp [noRow row member]
    exact congrArg Nat.cast none.symm

/-- The call is about to evaluate the condition of the loop. -/
def AtLoopHead : Call Nat → Prop
  | .updateStatus .running (.fulfilled _) => True
  | .commitCheckpoint _ _ (.fulfilled _) => True
  | _ => False

/-- At the loop head the fields are the columns of the row. -/
theorem Invariant.inStep
    {before after : World}
    {index : Nat}
    {now : Int}
    {task : Task}
    (holds : Invariant before)
    (found : before.tasks[index]? = some task)
    (atHead : AtLoopHead task.call)
    (taken :
      (machine parse batchSize).step before (.act index (.turn now)) =
        some after) :
    after.shared.stored = some after.shared.inMemory := by
  obtain ⟨_, _, _, _, same, moved, rfl⟩ := TaskMachine.step_act taken
  obtain rfl := Option.some.inj (found.symm.trans same)
  obtain ⟨⟨runner, next, orphans⟩, acted, same⟩ :=
    Option.map_eq_some_iff.mp moved
  cases same
  obtain ⟨call, reported⟩ := task
  have member := List.mem_of_getElem? found
  cases (BackfillRunner.program_follows parse batchSize).act_spec
    acted with
  | turn now turned =>
      cases turned with
      | enter answer gauges head =>
          have current := holds.local_ _ member trivial rfl
          rw [Shared.inMemory, ofMemory_loopHead head]
          exact current
      | advanced records data answer head =>
          have current := holds.local_ _ member trivial
          rw [Shared.inMemory, ofMemory_loopHead head]
          exact current
      | advancedIdle records data answer isIncremental =>
          cases isIncremental
      | statusWritten status answer last =>
          rcases last with rfl | rfl <;> exact atHead.elim
      | committing _ _ _ _ _ ready => cases ready <;> exact atHead.elim
      | failed failure => cases failure <;> exact atHead.elim
      | _ => exact atHead.elim

/--
Exact accounting: whatever is killed, restarted or rejected, the row counts the
rows up to its watermark, its failures are the rows that a sink reported failed
in the one commit that passed them, and at every loop head the fields of the
runner are those of the row.
-/
theorem accounting_exact
    {table : List SourceRow}
    {checkpoint : Option ReplicationCheckpoint}
    {events : List RunnerProgram.Event}
    {reached : World}
    (keys : PrimaryKeys table)
    (fresh :
      Totals.ofCheckpoint (CheckpointManager.getCheckpoint checkpoint) =
        ⟨0, 0, 0⟩)
    (run :
      Run (machine parse batchSize).step Admitted
        (initial parse batchSize table checkpoint) events reached) :
    let row :=
      CheckpointManager.getCheckpoint reached.shared.runner.checkpoint
    row.recordsProcessed + row.recordsFailed =
        rowsUpTo reached.context row.lastProcessedId ∧
      row.recordsFailed =
        failedUpTo reached.context reached.shared.moves
          row.lastProcessedId ∧
      (∀ id, 0 < id → id ≤ row.lastProcessedId →
        ∃! move, move ∈ reached.shared.moves ∧ move.Passes id) ∧
      ∀ {index : Nat} {now : Int} {task : Task} {after : World},
        reached.tasks[index]? = some task →
        AtLoopHead task.call →
        (machine parse batchSize).step reached (.act index (.turn now)) =
          some after →
        after.shared.stored = some after.shared.inMemory := by
  have holds : Invariant reached :=
    run.invariant Invariant
      (fun holds admitted taken => holds.step admitted taken)
      (.initial keys fresh)
  exact ⟨holds.global.processed, holds.global.failed,
    holds.global.passedOnce, fun found atHead taken =>
      holds.inStep found atHead taken⟩

end Runs

/--
The first batch is dispatched twice, since the process dies before its commit is
executed; row 1 then fails at both sinks and row 2 twice at one.
-/
def sampleRun : List RunnerProgram.Event :=
  BackfillRunner.sampleStart ++
    [.act 0 (.settle .elasticsearch (some (sampleResult [2] [1]))),
      .act 0 (.settle .rabbitmq (some (sampleResult [1, 2] []))),
      .act 0 (.turn 0), .act 0 (.serve 0), .act 0 (.turn 0),
      .env .kill] ++
    BackfillRunner.sampleStart ++
    [.change (.insert (sampleRow 4 0)),
      .act 0 (.settle .elasticsearch (some (sampleResult [] [1, 2, 2]))),
      .act 0 (.settle .rabbitmq (some (sampleResult [2] [1]))),
      .act 0 (.turn 0), .act 0 (.serve 0), .act 0 (.turn 0),
      .act 0 (.serve 0)]

/-- Both rows count as failed, once. -/
theorem accounting_exact_sample :
    ∃ reached,
      Run (machine (fun _ => none) 2).step Admitted
        (initial (fun _ => none) 2
          [sampleRow 1 0, sampleRow 2 0, sampleRow 3 0] none)
        sampleRun reached ∧
      reached.shared.persisted = ⟨2, 0, 2⟩ ∧
      ∀ {index : Nat} {now : Int} {task : Task} {after : World},
        reached.tasks[index]? = some task →
        AtLoopHead task.call →
        (machine (fun _ => none) 2).step reached
            (.act index (.turn now)) = some after →
        after.shared.stored = some after.shared.inMemory := by
  obtain ⟨reached, run, persisted⟩ :
      ∃ reached,
        Run (machine (fun _ => none) 2).step Admitted
          (initial (fun _ => none) 2
            [sampleRow 1 0, sampleRow 2 0, sampleRow 3 0] none)
          sampleRun reached ∧
        reached.shared.persisted = ⟨2, 0, 2⟩ :=
    Run.exists_of_replay _ (by decide +kernel)
  exact ⟨reached, run, persisted,
    (accounting_exact ⟨by decide, by decide⟩ rfl run).2.2.2⟩

end Replication.Accounting
