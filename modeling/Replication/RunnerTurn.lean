import Replication.BackfillRunner
import Replication.IncrementalRunner

namespace Replication

/-!
# What a turn can do

One relation lists every transition that the code of either runner makes between
two awaits.  The invariants of the later modules are proved by cases on this
relation and never unfold a runner.  The two runners differ in three places: the
query that opens an iteration, what an empty fetch does, and what a rejected
dispatch does.
-/

/-- Which of the two runners a program is. -/
inductive RunnerKind where
  | backfill
  | incremental
  deriving DecidableEq, Repr

/-- How a cursor is read off rows, records and stored watermark columns. -/
structure CursorCodec (Cursor : Type) where
  /-- From `last_processed_id` and `last_processed_timestamp`. -/
  decode : Nat → Option Int → Cursor
  ofRecord : SourceRecord → Cursor
  ofRow : SourceRow → Cursor
  ofRecord_mapRow :
    ∀ parse row, ofRecord (mapRowToSourceRecord parse row) = ofRow row

namespace CursorCodec

variable {Cursor : Type} (codec : CursorCodec Cursor)

/-- The cursor stored in a checkpoint row. -/
def ofCheckpoint (checkpoint : ReplicationCheckpoint) : Cursor :=
  codec.decode checkpoint.lastProcessedId checkpoint.lastProcessedTimestamp

/-- The cursor a commit stores. -/
def ofCommit (data : CheckpointCommitData) : Cursor :=
  codec.decode data.lastProcessedId data.lastProcessedTimestamp

/-- The persisted watermark; a missing row is created at zero and NULL. -/
def persisted (row : Option ReplicationCheckpoint) : Cursor :=
  codec.ofCheckpoint (CheckpointManager.getCheckpoint row)

/-- Reading a checkpoint, which may create the row, keeps the watermark. -/
@[simp] theorem persisted_getCheckpoint
    (row : Option ReplicationCheckpoint) :
    codec.persisted (some (CheckpointManager.getCheckpoint row)) =
      codec.persisted row := rfl

/-- A status update keeps the watermark. -/
@[simp] theorem persisted_updateStatus
    (status : PipelineStatus)
    (row : Option ReplicationCheckpoint) :
    codec.persisted (CheckpointManager.updateStatus status row) =
      codec.persisted row := by
  cases row <;> rfl

/-- A commit stores its cursor, if there is a row to store it in. -/
theorem persisted_commitCheckpoint
    (data : CheckpointCommitData)
    (row : Option ReplicationCheckpoint) :
    codec.persisted (CheckpointManager.commitCheckpoint data row) =
        codec.ofCommit data ∨
      row = none ∧
        codec.persisted (CheckpointManager.commitCheckpoint data row) =
          codec.persisted row := by
  cases row with
  | none =>
      exact .inr ⟨rfl, rfl⟩
  | some checkpoint =>
      exact .inl rfl

end CursorCodec

/-- Backfill cursors are ids. -/
def BackfillRunner.codec : CursorCodec Nat where
  decode id _ := id
  ofRecord := SourceRecord.id
  ofRow := SourceRow.id
  ofRecord_mapRow _ _ := rfl

/-- Incremental cursors are watermarks. -/
def IncrementalRunner.codec : CursorCodec Watermark where
  decode := IncrementalRunner.readWatermark
  ofRecord := SourceRecord.watermark
  ofRow := SourceRow.watermark
  ofRecord_mapRow _ _ := rfl

section Turns

variable {Cursor Gauges : Type}

/-- The sink calls of a rejected dispatch that are still running. -/
def leftBehind
    (records : List SourceRecord)
    (esCall rmqCall : SinkCall) : List (Call Cursor) :=
  (if esCall.Outstanding then
      [.orphan .elasticsearch records esCall]
    else []) ++
    if rmqCall.Outstanding then [.orphan .rabbitmq records rmqCall] else []

/-- What is left behind is an outstanding call of one of the sinks. -/
theorem mem_leftBehind
    {records : List SourceRecord}
    {esCall rmqCall : SinkCall}
    {new : Call Cursor}
    (member : new ∈ leftBehind records esCall rmqCall) :
    new = .orphan .elasticsearch records esCall ∧ esCall.Outstanding ∨
      new = .orphan .rabbitmq records rmqCall ∧ rmqCall.Outstanding := by
  rcases List.mem_append.mp member with inEs | inRmq
  · left
    split at inEs
    · exact ⟨List.mem_singleton.mp inEs, ‹_›⟩
    · cases inEs
  · right
    split at inRmq
    · exact ⟨List.mem_singleton.mp inRmq, ‹_›⟩
    · cases inRmq

/-- An await inside the loop whose rejection the loop's `catch` receives. -/
inductive LoopFailure : Call Cursor → Prop where
  | lag (cursor : Cursor) :
      LoopFailure (.getIncrementalLag cursor .rejected)
  | fetch (cursor : Cursor) :
      LoopFailure (.fetchBatch cursor .rejected)
  | persist (records : List SourceRecord) (esResult rmqResult : SinkResult) :
      LoopFailure (.persistFailures records esResult rmqResult .rejected)
  | commit (records : List SourceRecord) (data : CheckpointCommitData) :
      LoopFailure (.commitCheckpoint records data .rejected)
  | completed :
      LoopFailure (.updateStatus .completed .rejected)

/-- The loop condition is evaluated. -/
inductive LoopHead (kind : RunnerKind) (memory : Memory Cursor Gauges) :
    Memory Cursor Gauges → Call Cursor → Prop where
  | stopped (stop : memory.stopRequested = true) :
      LoopHead kind memory { memory with status := .paused } .returned
  | fetch (isBackfill : kind = .backfill)
      (go : memory.stopRequested = false) :
      LoopHead kind memory memory (.fetchBatch memory.cursor .pending)
  | lag (isIncremental : kind = .incremental)
      (go : memory.stopRequested = false) :
      LoopHead kind memory memory (.getIncrementalLag memory.cursor .pending)

/-- The results of a dispatch are ready to be committed. -/
inductive ReadyToCommit
    (records : List SourceRecord)
    (esResult rmqResult : SinkResult) : Call Cursor → Prop where
  | clean (noFailures : dlqEntries records esResult rmqResult = []) :
      ReadyToCommit records esResult rmqResult
        (.dispatch records (.fulfilled esResult) (.fulfilled rmqResult))
  | persisted (answer : Unit) :
      ReadyToCommit records esResult rmqResult
        (.persistFailures records esResult rmqResult (.fulfilled answer))

/-- The commit that a batch with these results asks for. -/
structure CommitOf
    (codec : CursorCodec Cursor)
    (records : List SourceRecord)
    (esResult rmqResult : SinkResult)
    (data : CheckpointCommitData) : Prop where
  cursor :
    ∀ last, records.getLast? = some last →
      codec.ofCommit data = codec.ofRecord last
  successCount :
    data.batchSuccessCount = batchSuccessCount records esResult rmqResult
  failedCount :
    data.batchFailedCount = batchFailedCount esResult rmqResult

/-- Memory after the checkpoint row has been read. -/
def Memory.load
    (codec : CursorCodec Cursor)
    (memory : Memory Cursor Gauges)
    (checkpoint : ReplicationCheckpoint) : Memory Cursor Gauges :=
  { memory with
    cursor := codec.ofCheckpoint checkpoint
    totalProcessed := checkpoint.recordsProcessed
    totalFailed := checkpoint.recordsFailed }

/-- Every transition of either runner from a settled await to the next await. -/
inductive Turn
    (kind : RunnerKind)
    (codec : CursorCodec Cursor)
    (memory : Memory Cursor Gauges) :
    Call Cursor → Memory Cursor Gauges → Call Cursor →
      List (Call Cursor) → Prop where
  | loadStopped
      (checkpoint : ReplicationCheckpoint)
      (stop : memory.stopRequested = true) :
      Turn kind codec memory
        (.getCheckpoint (.fulfilled checkpoint))
        { memory.load codec checkpoint with status := .paused }
        .returned []
  | load
      (checkpoint : ReplicationCheckpoint)
      (go : memory.stopRequested = false) :
      Turn kind codec memory
        (.getCheckpoint (.fulfilled checkpoint))
        { memory.load codec checkpoint with status := .running }
        (.updateStatus .running .pending) []
  | loadFailed :
      Turn kind codec memory
        (.getCheckpoint .rejected) memory .returned []
  | runningFailed :
      Turn kind codec memory
        (.updateStatus .running .rejected) memory .returned []
  | statusWritten
      (status : PipelineStatus)
      (answer : Promise Unit)
      (last : status = .failed ∨ status = .paused) :
      Turn kind codec memory
        (.updateStatus status answer) memory .returned []
  | completedWritten
      (answer : Unit)
      (isBackfill : kind = .backfill) :
      Turn kind codec memory
        (.updateStatus .completed (.fulfilled answer))
        { memory with
          status := if memory.stopRequested then .paused else memory.status }
        .returned []
  | enter
      (answer : Unit)
      (gauges : Gauges)
      {after : Memory Cursor Gauges}
      {next : Call Cursor}
      (head : LoopHead kind { memory with gauges } after next) :
      Turn kind codec memory
        (.updateStatus .running (.fulfilled answer)) after next []
  | measured
      (cursor : Cursor)
      (lag : Nat × Option Int)
      (gauges : Gauges)
      (isIncremental : kind = .incremental) :
      Turn kind codec memory
        (.getIncrementalLag cursor (.fulfilled lag))
        { memory with gauges } (.fetchBatch memory.cursor .pending) []
  | completed
      (cursor : Cursor)
      (isBackfill : kind = .backfill) :
      Turn kind codec memory
        (.fetchBatch cursor (.fulfilled []))
        { memory with status := .completed }
        (.updateStatus .completed .pending) []
  | idle
      (cursor : Cursor)
      (isIncremental : kind = .incremental) :
      Turn kind codec memory
        (.fetchBatch cursor (.fulfilled [])) memory .sleep []
  | dispatched
      (cursor : Cursor)
      (records : List SourceRecord)
      (nonempty : records ≠ []) :
      Turn kind codec memory
        (.fetchBatch cursor (.fulfilled records)) memory
        (.dispatch records .waiting .waiting) []
  | persisting
      (records : List SourceRecord)
      (esResult rmqResult : SinkResult)
      (failures : dlqEntries records esResult rmqResult ≠ []) :
      Turn kind codec memory
        (.dispatch records (.fulfilled esResult) (.fulfilled rmqResult))
        memory
        (.persistFailures records esResult rmqResult .pending) []
  | committing
      (records : List SourceRecord)
      (esResult rmqResult : SinkResult)
      (data : CheckpointCommitData)
      (gauges : Gauges)
      {call : Call Cursor}
      (ready : ReadyToCommit records esResult rmqResult call)
      (commit : CommitOf codec records esResult rmqResult data) :
      Turn kind codec memory call
        { memory with
          totalProcessed := memory.totalProcessed + data.batchSuccessCount
          totalFailed := memory.totalFailed + data.batchFailedCount
          gauges }
        (.commitCheckpoint records data .pending) []
  | advanced
      (records : List SourceRecord)
      (data : CheckpointCommitData)
      (answer : Unit)
      {after : Memory Cursor Gauges}
      {next : Call Cursor}
      (head :
        LoopHead kind
          { memory with cursor := codec.ofCommit data } after next) :
      Turn kind codec memory
        (.commitCheckpoint records data (.fulfilled answer)) after next []
  | advancedIdle
      (records : List SourceRecord)
      (data : CheckpointCommitData)
      (answer : Unit)
      (isIncremental : kind = .incremental) :
      Turn kind codec memory
        (.commitCheckpoint records data (.fulfilled answer))
        { memory with cursor := codec.ofCommit data } .sleep []
  | woken
      {after : Memory Cursor Gauges}
      {next : Call Cursor}
      (isIncremental : kind = .incremental)
      (head : LoopHead kind memory after next) :
      Turn kind codec memory .sleep after next []
  | dispatchFailed
      (records : List SourceRecord)
      (esCall rmqCall : SinkCall)
      (isBackfill : kind = .backfill)
      (rejected : esCall = .rejected ∨ rmqCall = .rejected) :
      Turn kind codec memory
        (.dispatch records esCall rmqCall)
        { memory with status := .failed }
        (.updateStatus .failed .pending)
        (leftBehind records esCall rmqCall)
  | dispatchRetried
      (records : List SourceRecord)
      (esCall rmqCall : SinkCall)
      (isIncremental : kind = .incremental)
      (rejected : esCall = .rejected ∨ rmqCall = .rejected) :
      Turn kind codec memory
        (.dispatch records esCall rmqCall) memory .sleep
        (leftBehind records esCall rmqCall)
  | failed
      {call : Call Cursor}
      (failure : LoopFailure call) :
      Turn kind codec memory call
        { memory with status := .failed }
        (.updateStatus .failed .pending) []

end Turns

/-- A program whose code follows the transition list. -/
structure RunnerProgram.Follows
    {Cursor Gauges : Type}
    (program : RunnerProgram Cursor Gauges)
    (kind : RunnerKind)
    (codec : CursorCodec Cursor) : Prop where
  turn :
    ∀ {memory now call after next orphans},
      program.turn memory now call = some (after, next, orphans) →
      Turn kind codec memory call after next orphans

namespace BackfillRunner

/-- Leaving the loop changes at most the status. -/
theorem finish_eq (memory : Memory) :
    finish memory =
      { memory with
        status :=
          if memory.stopRequested then .paused else memory.status } := by
  unfold finish
  split <;> rfl

/-- The loop condition of the backfill runner. -/
theorem loopHead_spec (memory : Memory) :
    LoopHead .backfill memory (loopHead memory).1 (loopHead memory).2 := by
  cases stop : memory.stopRequested with
  | true =>
      simpa [loopHead, finish, stop] using
        @LoopHead.stopped _ _ .backfill memory stop
  | false =>
      simpa [loopHead, stop] using @LoopHead.fetch _ _ _ memory rfl stop

/-- Step D of the backfill runner builds the commit of its batch. -/
theorem beginCommit_spec
    (memory : Memory)
    (now : Int)
    {records : List SourceRecord}
    {esResult rmqResult : SinkResult}
    {call : Call Nat}
    (ready : ReadyToCommit records esResult rmqResult call) :
    Turn .backfill codec memory call
      (beginCommit memory now records esResult rmqResult).1
      (beginCommit memory now records esResult rmqResult).2 [] := by
  refine .committing records esResult rmqResult
    { lastProcessedId := _
      lastProcessedTimestamp := _
      batchSuccessCount := _
      batchFailedCount := _
      metadata := _ } _ ready ⟨?_, rfl, rfl⟩
  intro last isLast
  simp [CursorCodec.ofCommit, codec, isLast]

/-- The backfill runner follows the transition list. -/
theorem program_follows
    (parse : String → Option Json)
    (batchSize : Nat) :
    (program parse batchSize).Follows .backfill codec where
  turn := by
    intro memory now call after next orphans turned
    simp only [program] at turned
    unfold turn at turned
    split at turned
    case h_1 checkpoint =>
      split at turned <;> rename_i stop <;> cases turned
      · exact .loadStopped checkpoint stop
      · exact .load checkpoint (Bool.eq_false_of_not_eq_true stop)
    case h_2 => cases turned; exact .loadFailed
    case h_3 => cases turned; exact .enter _ _ (loopHead_spec _)
    case h_4 => cases turned; exact .runningFailed
    case h_5 =>
      cases turned
      rw [finish_eq]
      exact .completedWritten _ rfl
    case h_6 => cases turned; exact .failed .completed
    case h_7 => cases turned; exact .statusWritten _ _ (.inl rfl)
    case h_8 => cases turned; exact .statusWritten _ _ (.inl rfl)
    case h_9 => cases turned; exact .statusWritten _ _ (.inr rfl)
    case h_10 => cases turned; exact .statusWritten _ _ (.inr rfl)
    case h_11 => cases turned; exact .completed _ rfl
    case h_12 => cases turned; exact .dispatched _ _ (by simp)
    case h_13 => cases turned; exact .failed (.fetch _)
    case h_14 records esResult rmqResult =>
      split at turned <;> rename_i clean <;> cases turned
      · exact beginCommit_spec memory now
          (.clean (List.isEmpty_iff.mp clean))
      · exact .persisting _ _ _
          fun none => clean (List.isEmpty_iff.mpr none)
    case h_15 records other =>
      cases turned
      exact .dispatchFailed records .rejected other rfl (.inl rfl)
    case h_16 records other _ =>
      cases turned
      have dispatched :=
        @Turn.dispatchFailed _ _ _ codec memory
          records other .rejected rfl (.inr rfl)
      simpa [leftBehind, SinkCall.Outstanding] using dispatched
    case h_17 =>
      cases turned; exact beginCommit_spec memory now (.persisted _)
    case h_18 => cases turned; exact .failed (.persist _ _ _)
    case h_19 => cases turned; exact .advanced _ _ _ (loopHead_spec _)
    case h_20 => cases turned; exact .failed (.commit _ _)
    case h_21 => cases turned

end BackfillRunner

namespace IncrementalRunner

/-- The loop condition of the incremental runner. -/
theorem loopHead_spec (memory : Memory) :
    LoopHead .incremental memory
      (loopHead memory).1 (loopHead memory).2 := by
  cases stop : memory.stopRequested with
  | true =>
      simpa [loopHead, stop] using
        @LoopHead.stopped _ _ .incremental memory stop
  | false =>
      simpa [loopHead, stop] using @LoopHead.lag _ _ _ memory rfl stop

/-- Step 5 of the incremental runner builds the commit of its batch. -/
theorem beginCommit_spec
    (memory : Memory)
    {records : List SourceRecord}
    {esResult rmqResult : SinkResult}
    {call : Call Watermark}
    (ready : ReadyToCommit records esResult rmqResult call) :
    Turn .incremental codec memory call
      (beginCommit memory records esResult rmqResult).1
      (beginCommit memory records esResult rmqResult).2 [] := by
  refine .committing records esResult rmqResult
    { lastProcessedId := _
      lastProcessedTimestamp := _
      batchSuccessCount := _
      batchFailedCount := _
      metadata := _ } _ ready ⟨?_, rfl, rfl⟩
  intro last isLast
  simp [CursorCodec.ofCommit, codec, readWatermark,
    SourceRecord.watermark, isLast]

/-- The incremental runner follows the transition list. -/
theorem program_follows
    (parse : String → Option Json)
    (batchSize : Nat) :
    (program parse batchSize).Follows .incremental codec where
  turn := by
    intro memory now call after next orphans turned
    simp only [program] at turned
    unfold turn at turned
    split at turned
    case h_1 checkpoint =>
      split at turned <;> rename_i stop <;> cases turned
      · exact .loadStopped checkpoint stop
      · exact .load checkpoint (Bool.eq_false_of_not_eq_true stop)
    case h_2 => cases turned; exact .loadFailed
    case h_3 => cases turned; exact .enter _ _ (loopHead_spec _)
    case h_4 => cases turned; exact .runningFailed
    case h_5 => cases turned; exact .statusWritten _ _ (.inl rfl)
    case h_6 => cases turned; exact .statusWritten _ _ (.inl rfl)
    case h_7 => cases turned; exact .statusWritten _ _ (.inr rfl)
    case h_8 => cases turned; exact .statusWritten _ _ (.inr rfl)
    case h_9 => cases turned; exact .measured _ _ _ rfl
    case h_10 => cases turned; exact .failed (.lag _)
    case h_11 => cases turned; exact .idle _ rfl
    case h_12 => cases turned; exact .dispatched _ _ (by simp)
    case h_13 => cases turned; exact .failed (.fetch _)
    case h_14 records esResult rmqResult =>
      split at turned <;> rename_i clean <;> cases turned
      · exact beginCommit_spec memory
          (.clean (List.isEmpty_iff.mp clean))
      · exact .persisting _ _ _
          fun none => clean (List.isEmpty_iff.mpr none)
    case h_15 records other =>
      cases turned
      exact .dispatchRetried records .rejected other rfl (.inl rfl)
    case h_16 records other _ =>
      cases turned
      have dispatched :=
        @Turn.dispatchRetried _ _ _ codec memory
          records other .rejected rfl (.inr rfl)
      simpa [leftBehind, SinkCall.Outstanding] using dispatched
    case h_17 =>
      cases turned; exact beginCommit_spec memory (.persisted _)
    case h_18 => cases turned; exact .failed (.persist _ _ _)
    case h_19 =>
      dsimp only at turned
      split at turned <;> cases turned
      · exact .advancedIdle _ _ _ rfl
      · exact .advanced _ _ _ (loopHead_spec _)
    case h_20 => cases turned; exact .failed (.commit _ _)
    case h_21 => cases turned; exact .woken rfl (loopHead_spec _)
    case h_22 => cases turned

end IncrementalRunner

end Replication
