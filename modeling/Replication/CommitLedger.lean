import Replication.ZeroLoss
import Replication.TaskSums
import Mathlib

namespace Replication

/-!
# What the counters and the dead letters add up to

A ledger balances what the database has stored against what the sinks have
answered: every suspended call holds what it may still have stored, and no step
stores more than its call held.  Two ledgers are kept, one for the counters of
the checkpoint row and one for the dead letters.  Neither asks how many loops
are running.
-/

variable {Cursor Gauges : Type}

open TaskMachine (totalOf totalOf_append totalOf_nil)

/-- Records of a checkpoint row that have been counted, delivered or not. -/
def countedRecords (row : Option ReplicationCheckpoint) : Int :=
  (CheckpointManager.getCheckpoint row).recordsProcessed +
    (CheckpointManager.getCheckpoint row).recordsFailed

namespace History

/-- Records of the dispatches that both sinks have answered. -/
def recordsReturned (history : History) : Int :=
  ((history.returned.map List.length).sum : Nat)

/-- Failures that the sinks have reported. -/
def failuresReported (history : History) : Int :=
  ((history.reports.map fun report => report.result.failures.length).sum :
    Nat)

/-- Entering a dispatch answers nothing. -/
@[simp] theorem recordsReturned_noteDispatch
    (history : History)
    (next : Call Cursor) :
    (RunnerProgram.noteDispatch history next).recordsReturned =
      history.recordsReturned := by
  unfold RunnerProgram.noteDispatch
  split <;> rfl

/-- Entering a dispatch reports nothing. -/
@[simp] theorem failuresReported_noteDispatch
    (history : History)
    (next : Call Cursor) :
    (RunnerProgram.noteDispatch history next).failuresReported =
      history.failuresReported := by
  unfold RunnerProgram.noteDispatch
  split <;> rfl

end History

/-- What calls may still have stored, what is stored, and what is allowed. -/
structure Ledger (Cursor Gauges : Type) where
  held : Call Cursor → Int
  stored : RunnerState Cursor Gauges → Int
  allowed : RunnerState Cursor Gauges → Int

namespace Ledger

/-- The books are balanced, and every call is as the ledger assumes. -/
structure Balanced
    (ledger : Ledger Cursor Gauges)
    (Sound : Call Cursor → Prop)
    (world : RunnerProgram.World Cursor Gauges) : Prop where
  sound : ∀ call ∈ world.tasks, Sound call
  covered :
    totalOf ledger.held world.tasks + ledger.stored world.shared ≤
      ledger.allowed world.shared

/-- What the steps of a call have to satisfy for the books to stay balanced. -/
structure Keeps
    (ledger : Ledger Cursor Gauges)
    (program : RunnerProgram Cursor Gauges)
    (kind : RunnerKind)
    (codec : CursorCodec Cursor)
    (Sound : Call Cursor → Prop) : Prop where
  sound :
    ∀ {table state call action after next spawned},
      Sound call →
      Step program kind codec table state call action after next spawned →
      Sound next ∧ ∀ new ∈ spawned, Sound new
  pays :
    ∀ {table state call action after next spawned},
      Sound call →
      Step program kind codec table state call action after next spawned →
      ledger.held next + totalOf ledger.held spawned +
          ledger.stored after + ledger.allowed state ≤
        ledger.held call + ledger.stored state + ledger.allowed after
  nonneg : ∀ {call}, Sound call → 0 ≤ ledger.held call
  started :
    Sound (.getCheckpoint .pending) ∧
      ledger.held (.getCheckpoint .pending) = 0
  paused :
    Sound (.updateStatus .paused .pending) ∧
      ledger.held (.updateStatus .paused .pending) = 0
  stored_memory :
    ∀ state memory, ledger.stored { state with memory } = ledger.stored state
  allowed_memory :
    ∀ state memory,
      ledger.allowed { state with memory } = ledger.allowed state

section Steps

variable
  {ledger : Ledger Cursor Gauges}
  {program : RunnerProgram Cursor Gauges}
  {kind : RunnerKind}
  {codec : CursorCodec Cursor}
  {Sound : Call Cursor → Prop}

/-- What the calls hold together is not negative. -/
theorem Balanced.held_nonneg
    (keeps : ledger.Keeps program kind codec Sound)
    {world : RunnerProgram.World Cursor Gauges}
    (balanced : ledger.Balanced Sound world) :
    0 ≤ totalOf ledger.held world.tasks :=
  TaskMachine.totalOf_nonneg fun call member =>
    keeps.nonneg (balanced.sound call member)

/-- Another call that holds nothing, and other fields of the runner. -/
theorem Balanced.append
    (keeps : ledger.Keeps program kind codec Sound)
    {world : RunnerProgram.World Cursor Gauges}
    (balanced : ledger.Balanced Sound world)
    (memory : Memory Cursor Gauges)
    {new : Call Cursor}
    (isNew : Sound new ∧ ledger.held new = 0) :
    ledger.Balanced Sound
      { world with
        shared := { world.shared with memory }
        tasks := world.tasks ++ [new] } where
  sound := by
    intro call member
    rcases List.mem_append.mp member with old | single
    · exact balanced.sound call old
    · rw [List.mem_singleton.mp single]
      exact isNew.1
  covered := by
    have covered := balanced.covered
    have nothing : totalOf ledger.held [new] = 0 := by
      rw [TaskMachine.totalOf_cons, isNew.2, totalOf_nil, Int.zero_add]
    rw [keeps.stored_memory, keeps.allowed_memory, totalOf_append, nothing,
      Int.add_zero]
    exact covered

/-- Every step of a runner keeps the books balanced. -/
theorem Balanced.step
    (follows : program.Follows kind codec)
    (keeps : ledger.Keeps program kind codec Sound)
    {before reached : RunnerProgram.World Cursor Gauges}
    {event : RunnerProgram.Event}
    (balanced : ledger.Balanced Sound before)
    (taken : program.machine.step before event = some reached) :
    ledger.Balanced Sound reached := by
  cases event with
  | act index action =>
      obtain ⟨call, shared, next, spawned, found, moved, rfl⟩ :=
        TaskMachine.step_act taken
      have step :
          Step program kind codec before.context before.shared call action
            shared next spawned := follows.act_spec moved
      have callSound := balanced.sound call (List.mem_of_getElem? found)
      obtain ⟨nextSound, newSound⟩ := keeps.sound callSound step
      refine ⟨?_, TaskMachine.totalOf_resume_le found
        (keeps.pays callSound step) balanced.covered⟩
      intro other member
      rcases TaskMachine.mem_set_append member with old | rfl | new
      · exact balanced.sound other old
      · exact nextSound
      · exact newSound other new
  | env event =>
      obtain ⟨shared, tasks, moved, rfl⟩ := TaskMachine.step_env taken
      cases event with
      | start =>
          cases moved
          exact balanced.append keeps _ keeps.started
      | pause =>
          cases moved
          exact balanced.append keeps _ keeps.paused
      | kill =>
          cases moved
          refine ⟨List.forall_mem_nil _, ?_⟩
          have held := balanced.held_nonneg keeps
          have covered := balanced.covered
          rw [keeps.stored_memory, keeps.allowed_memory, totalOf_nil]
          omega
  | change change =>
      obtain ⟨_, _, rfl⟩ := TaskMachine.step_change taken
      exact ⟨balanced.sound, balanced.covered⟩

/-- Every run keeps the books balanced. -/
theorem Balanced.run
    (follows : program.Follows kind codec)
    (keeps : ledger.Keeps program kind codec Sound)
    {before reached : RunnerProgram.World Cursor Gauges}
    {events : List RunnerProgram.Event}
    (balanced : ledger.Balanced Sound before)
    (run : Run program.machine.step (fun _ _ => True) before events reached) :
    ledger.Balanced Sound reached :=
  run.invariant (ledger.Balanced Sound)
    (fun balanced _ taken => balanced.step follows keeps taken) balanced

/-- The books are balanced as long as there are no calls. -/
theorem Balanced.initial
    {table : List SourceRow}
    {checkpoint : Option ReplicationCheckpoint}
    (start :
      ledger.stored (program.initial table checkpoint).shared ≤
        ledger.allowed (program.initial table checkpoint).shared) :
    ledger.Balanced Sound (program.initial table checkpoint) where
  sound := List.forall_mem_nil _
  covered := by
    rw [show (program.initial table checkpoint).tasks = [] from rfl,
      totalOf_nil, Int.zero_add]
    exact start

/-- What is stored stays within what is allowed. -/
theorem Balanced.stored_le
    (keeps : ledger.Keeps program kind codec Sound)
    {world : RunnerProgram.World Cursor Gauges}
    (balanced : ledger.Balanced Sound world) :
    ledger.stored world.shared ≤ ledger.allowed world.shared := by
  have held := balanced.held_nonneg keeps
  have covered := balanced.covered
  omega

end Steps

end Ledger

/-- The commit that a call asks for counts every record of its batch. -/
def CountsBatch : Call Cursor → Prop
  | .commitCheckpoint records data _ =>
      data.batchSuccessCount + data.batchFailedCount = records.length
  | _ => True

/-- Records that a call may still have counted. -/
def countable : Call Cursor → Int
  | .dispatch records (.fulfilled _) (.fulfilled _) => records.length
  | .persistFailures records _ _ _ => records.length
  | .commitCheckpoint records _ .pending => records.length
  | _ => 0

/-- The failures that a sink call has reported to its dispatch. -/
def SinkCall.failureCount : SinkCall → Int
  | .fulfilled result => result.failures.length
  | _ => 0

/-- Dead letters that a call may still have inserted. -/
def insertable : Call Cursor → Int
  | .dispatch _ esCall rmqCall => esCall.failureCount + rmqCall.failureCount
  | .persistFailures _ esResult rmqResult .pending =>
      esResult.failures.length + rmqResult.failures.length
  | _ => 0

/-- The counters of the row against the records returned. -/
def counterLedger (base : Int) : Ledger Cursor Gauges where
  held := countable
  stored state := countedRecords state.checkpoint
  allowed state := base + state.history.recordsReturned

/-- The dead letters against the failures reported. -/
def letterLedger : Ledger Cursor Gauges where
  held := insertable
  stored state := state.deadLetterQueue.length
  allowed state := state.history.failuresReported

section Ledgers

variable
  {program : RunnerProgram Cursor Gauges}
  {kind : RunnerKind}
  {codec : CursorCodec Cursor}
  {table : List SourceRow}
  {state after : RunnerState Cursor Gauges}
  {call next : Call Cursor}
  {action : Act}
  {spawned : List (Call Cursor)}

/-- The commit of a batch counts all of it. -/
theorem CommitOf.counts
    {records : List SourceRecord}
    {esResult rmqResult : SinkResult}
    {data : CheckpointCommitData}
    (commit : CommitOf codec records esResult rmqResult data) :
    data.batchSuccessCount + data.batchFailedCount = records.length := by
  rw [commit.successCount, commit.failedCount, batchSuccessCount]
  omega

/-- Commits are asked for by the turn that has counted the batch. -/
theorem countsBatch_step
    (counts : CountsBatch call)
    (step :
      Step program kind codec table state call action after next spawned) :
    CountsBatch next ∧ ∀ new ∈ spawned, CountsBatch new := by
  have ofHead
      {memory entered : Memory Cursor Gauges}
      (head : LoopHead kind memory entered next) :
      CountsBatch next := by
    cases head <;> trivial
  have ofLeft
      {records : List SourceRecord}
      {esCall rmqCall : SinkCall} :
      ∀ new ∈ leftBehind records esCall rmqCall,
        CountsBatch (new : Call Cursor) := by
    intro new member
    rcases mem_leftBehind member with ⟨rfl, _⟩ | ⟨rfl, _⟩ <;> trivial
  cases step with
  | serve now served =>
      refine ⟨?_, List.forall_mem_nil _⟩
      cases served <;> trivial
  | reject rejected =>
      refine ⟨?_, List.forall_mem_nil _⟩
      cases rejected <;> trivial
  | begin sink begun =>
      refine ⟨?_, List.forall_mem_nil _⟩
      cases begun <;> trivial
  | settle sink outcome settled =>
      refine ⟨?_, List.forall_mem_nil _⟩
      cases settled <;> trivial
  | turn now turned =>
      cases turned with
      | enter answer gauges head =>
          exact ⟨ofHead head, List.forall_mem_nil _⟩
      | advanced records data answer head =>
          exact ⟨ofHead head, List.forall_mem_nil _⟩
      | woken isIncremental head =>
          exact ⟨ofHead head, List.forall_mem_nil _⟩
      | committing records esResult rmqResult data gauges ready commit =>
          exact ⟨commit.counts, List.forall_mem_nil _⟩
      | dispatchFailed | dispatchRetried =>
          exact ⟨trivial, ofLeft⟩
      | _ => exact ⟨trivial, List.forall_mem_nil _⟩

/-- A commit adds to the counters what it counts, if there is a row. -/
theorem countedRecords_commitCheckpoint
    (data : CheckpointCommitData)
    (row : Option ReplicationCheckpoint) :
    countedRecords (CheckpointManager.commitCheckpoint data row) =
        countedRecords row +
          (data.batchSuccessCount + data.batchFailedCount) ∨
      row = none ∧
        countedRecords (CheckpointManager.commitCheckpoint data row) =
          countedRecords row := by
  cases row with
  | none =>
      exact .inr ⟨rfl, rfl⟩
  | some checkpoint =>
      left
      simp only [countedRecords, CheckpointManager.commitCheckpoint,
        CheckpointManager.getCheckpoint, Option.map_some, Option.getD_some]
      omega

/-- A status update counts nothing. -/
@[simp] theorem countedRecords_updateStatus
    (status : PipelineStatus)
    (row : Option ReplicationCheckpoint) :
    countedRecords (CheckpointManager.updateStatus status row) =
      countedRecords row := by
  cases row <;> rfl

/-- Reading the row, which may create it, counts nothing. -/
@[simp] theorem countedRecords_getCheckpoint
    (row : Option ReplicationCheckpoint) :
    countedRecords (some (CheckpointManager.getCheckpoint row)) =
      countedRecords row := rfl

/-- Some records may be counted, or none. -/
theorem countable_nonneg (call : Call Cursor) : 0 ≤ countable call := by
  unfold countable
  split <;> omega

/-- A sink call has reported some failures, or none. -/
theorem SinkCall.failureCount_nonneg (call : SinkCall) :
    0 ≤ call.failureCount := by
  unfold failureCount
  split <;> omega

/-- Some dead letters may be inserted, or none. -/
theorem insertable_nonneg (call : Call Cursor) : 0 ≤ insertable call := by
  unfold insertable
  split
  · exact add_nonneg (SinkCall.failureCount_nonneg _)
      (SinkCall.failureCount_nonneg _)
  · omega
  · exact le_refl _

/-- The loop condition holds nothing that could be stored. -/
theorem LoopHead.holds_nothing
    {memory entered : Memory Cursor Gauges}
    (head : LoopHead kind memory entered next) :
    countable next = 0 ∧ insertable next = 0 := by
  cases head <;> exact ⟨rfl, rfl⟩

/-- Nor does what a rejected dispatch leaves behind. -/
theorem leftBehind_holds_nothing
    {records : List SourceRecord}
    {esCall rmqCall : SinkCall} :
    totalOf countable
        (leftBehind records esCall rmqCall : List (Call Cursor)) = 0 ∧
      totalOf insertable
        (leftBehind records esCall rmqCall : List (Call Cursor)) = 0 := by
  constructor <;> apply TaskMachine.totalOf_eq_zero <;>
    intro new member <;>
    rcases mem_leftBehind member with ⟨rfl, _⟩ | ⟨rfl, _⟩ <;> rfl

/-- A turn passes on what its call holds, or less. -/
theorem countable_turn_le
    {memory entered : Memory Cursor Gauges}
    (turned : Turn kind codec memory call entered next spawned) :
    countable next + totalOf countable spawned ≤ countable call := by
  have nonneg := countable_nonneg call
  cases turned with
  | enter answer gauges head =>
      rw [head.holds_nothing.1]
      exact nonneg
  | advanced records data answer head =>
      rw [head.holds_nothing.1]
      exact nonneg
  | woken isIncremental head =>
      rw [head.holds_nothing.1]
      exact nonneg
  | persisting => exact le_refl _
  | committing records esResult rmqResult data gauges ready commit =>
      cases ready <;> exact le_refl _
  | dispatchFailed | dispatchRetried =>
      rw [leftBehind_holds_nothing.1]
      exact nonneg
  | _ => exact nonneg

/-- So it does with the failures it has to store. -/
theorem insertable_turn_le
    {memory entered : Memory Cursor Gauges}
    (turned : Turn kind codec memory call entered next spawned) :
    insertable next + totalOf insertable spawned ≤ insertable call := by
  have nonneg := insertable_nonneg call
  cases turned with
  | enter answer gauges head =>
      rw [head.holds_nothing.2]
      exact nonneg
  | advanced records data answer head =>
      rw [head.holds_nothing.2]
      exact nonneg
  | woken isIncremental head =>
      rw [head.holds_nothing.2]
      exact nonneg
  | persisting => exact le_refl _
  | dispatchFailed | dispatchRetried =>
      rw [leftBehind_holds_nothing.2]
      exact nonneg
  | _ => exact nonneg

/-- A dispatch is returned when its second sink call is fulfilled. -/
theorem recordsReturned_noteSettled
    (history : History)
    (sink : Sink)
    (result : SinkResult)
    (records : List SourceRecord)
    (esCall rmqCall : SinkCall) :
    (RunnerProgram.noteSettled history sink (some result)
        (.dispatch records esCall rmqCall : Call Cursor)).recordsReturned =
      countable (.dispatch records esCall rmqCall : Call Cursor) +
        history.recordsReturned := by
  cases esCall <;> cases rmqCall <;>
    simp [RunnerProgram.noteSettled, History.recordsReturned, countable,
      add_comm]

/-- A dispatch holds its records once they have been returned. -/
theorem countable_settled_le
    (history : History)
    {sink : Sink}
    {outcome : Option SinkResult}
    (settled : Settles sink outcome call next) :
    countable next + history.recordsReturned ≤
      countable call +
        (RunnerProgram.noteSettled history sink outcome
          next).recordsReturned := by
  have nonneg := countable_nonneg call
  cases settled with
  | elasticsearch isSink records rmqCall each =>
      cases each with
      | fulfilled result =>
          rw [recordsReturned_noteSettled]
          omega
      | rejected outstanding =>
          exact Int.add_le_add_right nonneg _
  | rabbitmq isSink records esCall each =>
      cases each with
      | fulfilled result =>
          rw [recordsReturned_noteSettled]
          omega
      | rejected outstanding =>
          have nothing :
              countable
                (.dispatch records esCall .rejected : Call Cursor) = 0 := by
            cases esCall <;> rfl
          rw [nothing]
          exact Int.add_le_add_right nonneg _
  | orphan records each =>
      cases each <;> exact le_refl _

/-- Every failure that is reported is noted. -/
theorem failuresReported_noteSettled
    (history : History)
    (sink : Sink)
    (result : SinkResult)
    (next : Call Cursor) :
    (RunnerProgram.noteSettled history sink
        (some result) next).failuresReported =
      history.failuresReported + result.failures.length := by
  simp [RunnerProgram.noteSettled, History.failuresReported]

/-- A dispatch holds the failures that its sinks have reported. -/
theorem insertable_settled_le
    (history : History)
    {sink : Sink}
    {outcome : Option SinkResult}
    (settled : Settles sink outcome call next) :
    insertable next + history.failuresReported ≤
      insertable call +
        (RunnerProgram.noteSettled history sink outcome
          next).failuresReported := by
  cases outcome with
  | some result =>
      rw [failuresReported_noteSettled]
      cases settled with
      | elasticsearch isSink records rmqCall each =>
          cases each
          simp only [insertable, SinkCall.failureCount]
          omega
      | rabbitmq isSink records esCall each =>
          cases each
          simp only [insertable, SinkCall.failureCount]
          omega
      | orphan records each =>
          simp only [insertable]
          omega
  | none =>
      refine Int.add_le_add_right ?_ _
      cases settled with
      | @elasticsearch _ records esCall next rmqCall each =>
          have nonneg := esCall.failureCount_nonneg
          cases each
          simp only [insertable, SinkCall.failureCount] at nonneg ⊢
          omega
      | @rabbitmq _ records esCall rmqCall next each =>
          have nonneg := rmqCall.failureCount_nonneg
          cases each
          simp only [insertable, SinkCall.failureCount] at nonneg ⊢
          omega
      | orphan records each =>
          exact le_refl _

/-- An insert adds one row for each failure. -/
theorem length_insertedRows
    {parse : String → Option Json}
    {now : Int}
    {nextId : Nat}
    {failures : List NewDLQEntry}
    {rows : List DLQEntry}
    (inserted :
      DLQStore.insertedRows parse now nextId failures = some rows) :
    rows.length = failures.length := by
  induction failures generalizing nextId rows with
  | nil =>
      cases inserted
      rfl
  | cons failure rest inductionHypothesis =>
      simp only [DLQStore.insertedRows] at inserted
      split at inserted
      · rename_i row later headRow restRows
        cases inserted
        simp [inductionHypothesis restRows]
      · cases inserted

/-- The queue grows by the failures of both results. -/
theorem length_persistFailures
    {parse : String → Option Json}
    {now : Int}
    {records : List SourceRecord}
    {esResult rmqResult : SinkResult}
    {queue stored : List DLQEntry}
    (persisted :
      DLQStore.persistFailures parse now queue
        (dlqEntries records esResult rmqResult) = some stored) :
    stored.length =
      queue.length +
        (esResult.failures.length + rmqResult.failures.length) := by
  obtain ⟨rows, inserted, rfl⟩ := Option.map_eq_some_iff.mp persisted
  rw [List.length_append, length_insertedRows inserted]
  simp [dlqEntries]

/-- The database executes a statement; nothing is answered by a sink. -/
theorem Served.history
    {now : Int}
    (served : Served program table now state call after next) :
    after.history = state.history := by
  cases served <;> rfl

/-- A commit counts what its call holds. -/
theorem countable_served_le
    {now : Int}
    (counts : CountsBatch call)
    (served : Served program table now state call after next) :
    countable next + countedRecords after.checkpoint ≤
      countable call + countedRecords state.checkpoint := by
  cases served with
  | committed records data =>
      have batch :
          data.batchSuccessCount + data.batchFailedCount =
            (records.length : Int) := counts
      rcases countedRecords_commitCheckpoint data state.checkpoint with
        added | ⟨-, same⟩
      · simp only [countable]
        omega
      · simp only [countable]
        omega
  | status status => simp [countable]
  | _ => exact le_refl _

/-- An insert stores what its call holds. -/
theorem insertable_served_le
    {now : Int}
    (served : Served program table now state call after next) :
    insertable next + after.deadLetterQueue.length ≤
      insertable call + state.deadLetterQueue.length := by
  cases served with
  | persisted records esResult rmqResult stored =>
      have grown := length_persistFailures stored
      simp only [insertable]
      omega
  | notPersisted records esResult rmqResult =>
      simp only [insertable]
      omega
  | _ => exact le_refl _

/-- The counter ledger is kept. -/
theorem counterLedger_keeps (base : Int) :
    (counterLedger base : Ledger Cursor Gauges).Keeps program kind codec
      CountsBatch where
  sound := countsBatch_step
  nonneg := fun _ => countable_nonneg _
  started := ⟨trivial, rfl⟩
  paused := ⟨trivial, rfl⟩
  stored_memory _ _ := rfl
  allowed_memory _ _ := rfl
  pays := by
    intro table state call action after next spawned counts step
    cases step with
    | serve now served =>
        have servedLe := countable_served_le counts served
        simp only [counterLedger, totalOf_nil, served.history]
        omega
    | reject rejected =>
        have rejectedLe : countable next ≤ countable call := by
          cases rejected <;> first | exact le_refl _ | exact countable_nonneg _
        simp only [counterLedger, totalOf_nil]
        omega
    | begin sink begun =>
        have begunLe : countable next ≤ countable call := by
          cases begun with
          | rabbitmq records esCall => cases esCall <;> exact le_refl _
          | _ => exact le_refl _
        simp only [counterLedger, totalOf_nil]
        omega
    | settle sink outcome settled =>
        have settledLe := countable_settled_le state.history settled
        simp only [counterLedger, totalOf_nil]
        omega
    | turn now turned =>
        have turnedLe := countable_turn_le turned
        simp only [counterLedger, History.recordsReturned_noteDispatch]
        omega

/-- The letter ledger is kept. -/
theorem letterLedger_keeps :
    (letterLedger : Ledger Cursor Gauges).Keeps program kind codec
      (fun _ => True) where
  sound := fun _ _ => ⟨trivial, fun _ _ => trivial⟩
  nonneg := fun _ => insertable_nonneg _
  started := ⟨trivial, rfl⟩
  paused := ⟨trivial, rfl⟩
  stored_memory _ _ := rfl
  allowed_memory _ _ := rfl
  pays := by
    intro table state call action after next spawned counts step
    cases step with
    | serve now served =>
        have servedLe := insertable_served_le served
        simp only [letterLedger, totalOf_nil, served.history]
        omega
    | reject rejected =>
        have rejectedLe : insertable next ≤ insertable call := by
          cases rejected <;>
            first | exact le_refl _ | exact insertable_nonneg _
        simp only [letterLedger, totalOf_nil]
        omega
    | begin sink begun =>
        have begunLe : insertable next ≤ insertable call := by
          cases begun <;> exact le_refl _
        simp only [letterLedger, totalOf_nil]
        omega
    | settle sink outcome settled =>
        have settledLe := insertable_settled_le state.history settled
        simp only [letterLedger, totalOf_nil]
        omega
    | turn now turned =>
        have turnedLe := insertable_turn_le turned
        simp only [letterLedger, History.failuresReported_noteDispatch]
        omega

/-- Counting never goes back. -/
def growthLedger (base : Int) : Ledger Cursor Gauges where
  held _ := 0
  stored _ := base
  allowed state := countedRecords state.checkpoint

/-- The growth ledger is kept. -/
theorem growthLedger_keeps (base : Int) :
    (growthLedger base : Ledger Cursor Gauges).Keeps program kind codec
      CountsBatch where
  sound := countsBatch_step
  nonneg := fun _ => le_refl _
  started := ⟨trivial, rfl⟩
  paused := ⟨trivial, rfl⟩
  stored_memory _ _ := rfl
  allowed_memory _ _ := rfl
  pays := by
    intro table state call action after next spawned counts step
    have nothing :
        totalOf (fun _ : Call Cursor => (0 : Int)) spawned = 0 :=
      TaskMachine.totalOf_eq_zero fun _ _ => rfl
    have grows :
        countedRecords state.checkpoint ≤
          countedRecords after.checkpoint := by
      cases step with
      | serve now served =>
          cases served with
          | committed records data =>
              have batch :
                  data.batchSuccessCount + data.batchFailedCount =
                    (records.length : Int) := counts
              rcases countedRecords_commitCheckpoint data
                  state.checkpoint with added | ⟨-, same⟩
              · simp only
                omega
              · exact same.ge
          | status status =>
              exact (countedRecords_updateStatus status _).ge
          | _ => exact le_refl _
      | _ => exact le_refl _
    simp only [growthLedger, nothing]
    omega

end Ledgers

/-- Between two states of a run the counters have not gone back. -/
theorem countedRecords_mono
    {program : RunnerProgram Cursor Gauges}
    {kind : RunnerKind}
    {codec : CursorCodec Cursor}
    (follows : program.Follows kind codec)
    {before later : RunnerProgram.World Cursor Gauges}
    {events : List RunnerProgram.Event}
    (sound : ∀ call ∈ before.tasks, CountsBatch call)
    (run : Run program.machine.step (fun _ _ => True) before events later) :
    countedRecords before.shared.checkpoint ≤
      countedRecords later.shared.checkpoint := by
  have keeps :
      (growthLedger (countedRecords before.shared.checkpoint)).Keeps
        program kind codec CountsBatch := growthLedger_keeps _
  have start :
      (growthLedger (countedRecords before.shared.checkpoint)).Balanced
        CountsBatch before := by
    refine ⟨sound, ?_⟩
    have nothing :
        totalOf (fun _ : Call Cursor => (0 : Int)) before.tasks = 0 :=
      TaskMachine.totalOf_eq_zero fun _ _ => rfl
    simp only [growthLedger, nothing, Int.zero_add]
    exact le_refl _
  exact (start.run follows keeps run).stored_le keeps

/--
However its control calls overlap, and whether or not the database and the sinks
answer, a runner never counts a record that both sinks have not answered for,
never takes a count back between two states of its run, and never stores a dead
letter that no sink has reported.
-/
theorem stored_le_answered
    {program : RunnerProgram Cursor Gauges}
    {kind : RunnerKind}
    {codec : CursorCodec Cursor}
    (follows : program.Follows kind codec)
    {table : List SourceRow}
    {checkpoint : Option ReplicationCheckpoint}
    {events : List RunnerProgram.Event}
    {reached : RunnerProgram.World Cursor Gauges}
    (run :
      Run program.machine.step (fun _ _ => True)
        (program.initial table checkpoint) events reached) :
    countedRecords reached.shared.checkpoint ≤
        countedRecords checkpoint +
          reached.shared.history.recordsReturned ∧
      (reached.shared.deadLetterQueue.length : Int) ≤
        reached.shared.history.failuresReported ∧
      ∀ more later,
        Run program.machine.step (fun _ _ => True) reached more later →
        countedRecords reached.shared.checkpoint ≤
          countedRecords later.shared.checkpoint := by
  have counterKeeps :
      (counterLedger (countedRecords checkpoint)).Keeps program kind codec
        CountsBatch := counterLedger_keeps _
  have letterKeeps :
      letterLedger.Keeps program kind codec fun _ => True :=
    letterLedger_keeps
  have counters :
      (counterLedger (countedRecords checkpoint)).Balanced CountsBatch
        reached :=
    (Ledger.Balanced.initial
      (le_add_of_nonneg_right (Int.natCast_nonneg _))).run follows
        counterKeeps run
  have letters : letterLedger.Balanced (fun _ => True) reached :=
    (Ledger.Balanced.initial (le_refl _)).run follows letterKeeps run
  refine ⟨counters.stored_le counterKeeps, letters.stored_le letterKeeps, ?_⟩
  intro more later continues
  exact countedRecords_mono follows counters.sound continues

/-- Both sinks answer for the batch of one loop, and its commit is executed. -/
def sampleAnswered (index : Nat) (es rmq : SinkResult) :
    List RunnerProgram.Event :=
  [.act index (.settle .elasticsearch (some es)),
    .act index (.settle .rabbitmq (some rmq)),
    .act index (.turn 0), .act index (.serve 0), .act index (.turn 0),
    .act index (.serve 0)]

/-- Two loops carry the same row; it fails once, and both commit it. -/
def sampleTwice : List RunnerProgram.Event :=
  BackfillRunner.sampleStart ++
    [.env .start, .act 1 (.serve 0), .act 1 (.turn 0), .act 1 (.serve 0),
      .act 1 (.turn 0), .act 1 (.serve 0), .act 1 (.turn 0),
      .act 1 (.begin .elasticsearch), .act 1 (.begin .rabbitmq)] ++
    sampleAnswered 0 (sampleResult [1] []) (sampleResult [] [1]) ++
    sampleAnswered 1 (sampleResult [1] []) (sampleResult [] [1])

/-- The row is counted twice, and was answered for twice. -/
theorem stored_le_answered_twice :
    ∃ reached,
      Run (BackfillRunner.program (fun _ => none) 1).machine.step
        (fun _ _ => True)
        ((BackfillRunner.program (fun _ => none) 1).initial
          [sampleRow 1 0] none)
        sampleTwice reached ∧
      countedRecords reached.shared.checkpoint = 2 ∧
      countedRecords reached.shared.checkpoint ≤
        countedRecords none + reached.shared.history.recordsReturned ∧
      (reached.shared.deadLetterQueue.length : Int) ≤
        reached.shared.history.failuresReported := by
  obtain ⟨reached, run, counted⟩ :
      ∃ reached,
        Run (BackfillRunner.program (fun _ => none) 1).machine.step
          (fun _ _ => True)
          ((BackfillRunner.program (fun _ => none) 1).initial
            [sampleRow 1 0] none)
          sampleTwice reached ∧
        countedRecords reached.shared.checkpoint = 2 :=
    Run.exists_of_replay _ (by decide +kernel)
  obtain ⟨answered, reported, -⟩ :=
    stored_le_answered (BackfillRunner.program_follows (fun _ => none) 1) run
  exact ⟨reached, run, counted, answered, reported⟩

end Replication
