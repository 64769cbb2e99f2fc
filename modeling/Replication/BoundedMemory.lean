import Replication.ZeroLoss
import Replication.TaskSums
import Mathlib

namespace Replication

/-!
# What the runners hold in memory

A loop holds one batch at a time, from its fetch to its commit.  A rejected
dispatch ends the backfill loop and hands the batch to the sink call that is
still running, so that overlapping loops together hold at most one batch for
every `start()` of the process.  The incremental loop goes on after a rejected
dispatch: each iteration can leave one more batch behind.
-/

variable {Cursor Gauges : Type}

open TaskMachine (totalOf totalOf_append totalOf_nil)

/-- The records that a suspended call keeps alive. -/
def Call.heldRecords : Call Cursor → List SourceRecord
  | .fetchBatch _ (.fulfilled records) => records
  | .dispatch records _ _ => records
  | .persistFailures records _ _ _ => records
  | .commitCheckpoint records _ _ => records
  | .orphan _ records _ => records
  | _ => []

/-- The records that the calls of a process keep alive, with repetition. -/
def recordsInMemory (calls : List (Call Cursor)) : Nat :=
  totalOf (fun call => call.heldRecords.length) calls

/-- The `start()` calls of the living process, counted event by event. -/
def countStart (live : Nat) : RunnerProgram.Event → Nat
  | .env .start => live + 1
  | .env .kill => 0
  | _ => live

/-- The `start()` calls since the last kill. -/
def startsOfProcess (events : List RunnerProgram.Event) : Nat :=
  events.foldl countStart 0

namespace BoundedMemory

/--
What a call may still hold: a batch, as long as it can reach another iteration,
and what it already holds otherwise.
-/
def credit (batchSize : Nat) : Call Cursor → Nat
  | .getCheckpoint _ => batchSize
  | .updateStatus .running _ => batchSize
  | .fetchBatch _ _ => batchSize
  | .dispatch _ _ _ => batchSize
  | .persistFailures _ _ _ _ => batchSize
  | .commitCheckpoint _ _ _ => batchSize
  | .orphan _ records _ => records.length
  | _ => 0

/-- No call holds more than a batch. -/
def Bounded (batchSize : Nat) (call : Call Cursor) : Prop :=
  call.heldRecords.length ≤ batchSize

/-- What a bounded call holds is covered by its credit. -/
theorem held_le_credit
    {batchSize : Nat}
    {call : Call Cursor}
    (bounded : Bounded batchSize call) :
    call.heldRecords.length ≤ credit batchSize call := by
  unfold Call.heldRecords credit
  split <;> first | exact bounded | exact le_refl _ | exact Nat.zero_le _

section Steps

variable
  {program : RunnerProgram Cursor Gauges}
  {kind : RunnerKind}
  {codec : CursorCodec Cursor}
  {table : List SourceRow}
  {state after : RunnerState Cursor Gauges}
  {call next : Call Cursor}
  {action : Act}
  {spawned : List (Call Cursor)}
  {batchSize : Nat}

/-- A started sink call holds what it held. -/
theorem heldRecords_begun
    {sink : Sink}
    (begun : Begun sink call next) :
    next.heldRecords = call.heldRecords := by
  cases begun <;> rfl

/-- A settled sink call holds what it held. -/
theorem heldRecords_settled
    {sink : Sink}
    {outcome : Option SinkResult}
    (settled : Settles sink outcome call next) :
    next.heldRecords = call.heldRecords := by
  cases settled <;> rfl

/-- A rejected statement frees no batch and takes none. -/
theorem heldRecords_rejected
    (rejected : Rejected call next) :
    next.heldRecords = call.heldRecords := by
  cases rejected <;> rfl

/-- What is left behind holds the batch of the dispatch. -/
theorem heldRecords_leftBehind
    {records : List SourceRecord}
    {esCall rmqCall : SinkCall}
    {new : Call Cursor}
    (member : new ∈ leftBehind records esCall rmqCall) :
    new.heldRecords = records := by
  rcases mem_leftBehind member with ⟨rfl, _⟩ | ⟨rfl, _⟩ <;> rfl

/-- Of a rejected dispatch at most one call is left behind. -/
theorem credit_leftBehind_le
    {records : List SourceRecord}
    {esCall rmqCall : SinkCall}
    (rejected : esCall = .rejected ∨ rmqCall = .rejected) :
    totalOf (credit batchSize)
        (leftBehind records esCall rmqCall : List (Call Cursor)) ≤
      records.length := by
  have settled : ¬ SinkCall.rejected.Outstanding := by
    simp [SinkCall.Outstanding]
  rcases rejected with rfl | rfl
  · rw [leftBehind, if_neg settled, List.nil_append]
    split <;> simp [credit]
  · rw [leftBehind, if_neg settled, List.append_nil]
    split <;> simp [credit]

/-- A turn takes no batch: the next call holds nothing, or what this one held. -/
theorem heldRecords_turn
    {memory entered : Memory Cursor Gauges}
    (turned : Turn kind codec memory call entered next spawned) :
    (next.heldRecords = [] ∨ next.heldRecords = call.heldRecords) ∧
      ∀ new ∈ spawned, new.heldRecords = call.heldRecords := by
  have ofHead
      {memory : Memory Cursor Gauges}
      (head : LoopHead kind memory entered next) :
      next.heldRecords = [] := by
    cases head <;> rfl
  cases turned with
  | enter answer gauges head =>
      exact ⟨.inl (ofHead head), List.forall_mem_nil _⟩
  | advanced records data answer head =>
      exact ⟨.inl (ofHead head), List.forall_mem_nil _⟩
  | woken isIncremental head =>
      exact ⟨.inl (ofHead head), List.forall_mem_nil _⟩
  | dispatched | persisting =>
      exact ⟨.inr rfl, List.forall_mem_nil _⟩
  | committing records esResult rmqResult data gauges ready commit =>
      refine ⟨.inr ?_, List.forall_mem_nil _⟩
      cases ready <;> rfl
  | dispatchFailed | dispatchRetried =>
      exact ⟨.inl rfl, fun new member => heldRecords_leftBehind member⟩
  | _ => exact ⟨.inl rfl, List.forall_mem_nil _⟩

/-- Every step keeps the calls bounded, because fetches are. -/
theorem bounded_step
    (fetchBounded :
      ∀ table cursor, (program.fetch table cursor).length ≤ batchSize)
    (bounded : Bounded batchSize call)
    (step :
      Step program kind codec table state call action after next spawned) :
    Bounded batchSize next ∧ ∀ new ∈ spawned, Bounded batchSize new := by
  have ofSame
      {other : Call Cursor}
      (same : other.heldRecords = call.heldRecords) :
      Bounded batchSize other := by
    rw [Bounded, same]
    exact bounded
  cases step with
  | serve now served =>
      refine ⟨?_, List.forall_mem_nil _⟩
      cases served with
      | fetch cursor => exact fetchBounded table cursor
      | persisted | notPersisted | committed => exact bounded
      | _ => exact Nat.zero_le _
  | reject rejected =>
      exact ⟨ofSame (heldRecords_rejected rejected),
        List.forall_mem_nil _⟩
  | begin sink begun =>
      exact ⟨ofSame (heldRecords_begun begun), List.forall_mem_nil _⟩
  | settle sink outcome settled =>
      exact ⟨ofSame (heldRecords_settled settled), List.forall_mem_nil _⟩
  | turn now turned =>
      obtain ⟨ofNext, ofSpawned⟩ := heldRecords_turn turned
      refine ⟨?_, fun new member => ofSame (ofSpawned new member)⟩
      rcases ofNext with empty | same
      · rw [Bounded, empty]
        exact Nat.zero_le _
      · exact ofSame same

/-- A backfill turn pays for the next call and for what it leaves behind. -/
theorem turn_pays
    {memory entered : Memory Cursor Gauges}
    (bounded : Bounded batchSize call)
    (turned : Turn .backfill codec memory call entered next spawned) :
    credit batchSize next + totalOf (credit batchSize) spawned ≤
      credit batchSize call := by
  have ofHead
      {memory : Memory Cursor Gauges}
      (head : LoopHead .backfill memory entered next) :
      credit batchSize next ≤ batchSize := by
    cases head with
    | stopped stop => exact Nat.zero_le _
    | fetch isBackfill go => exact le_refl _
    | lag isIncremental go => cases isIncremental
  cases turned with
  | enter answer gauges head => exact ofHead head
  | advanced records data answer head => exact ofHead head
  | dispatchFailed records esCall rmqCall isBackfill rejected =>
      have left :
          totalOf (credit batchSize)
              (leftBehind records esCall rmqCall : List (Call Cursor)) ≤
            batchSize := (credit_leftBehind_le rejected).trans bounded
      simpa [credit] using left
  | committing records esResult rmqResult data gauges ready commit =>
      cases ready <;> exact le_refl _
  | measured | advancedIdle | woken | dispatchRetried | idle =>
      contradiction
  | load | dispatched | persisting => exact le_refl _
  | _ => exact Nat.zero_le _

/-- So does every step of the backfill. -/
theorem step_pays
    (bounded : Bounded batchSize call)
    (step :
      Step program .backfill codec table state call action
        after next spawned) :
    credit batchSize next + totalOf (credit batchSize) spawned ≤
      credit batchSize call := by
  cases step with
  | serve now served =>
      cases served with
      | status status => cases status <;> exact le_refl _
      | _ => exact le_refl _
  | reject rejected =>
      cases rejected with
      | status status => cases status <;> exact le_refl _
      | _ => exact le_refl _
  | begin sink begun =>
      cases begun <;> exact le_refl _
  | settle sink outcome settled =>
      cases settled <;> exact le_refl _
  | turn now turned =>
      exact turn_pays bounded turned

end Steps

/-- The calls are bounded and their credit is what the starts have paid for. -/
structure Solvent
    (batchSize live : Nat)
    (world : RunnerProgram.World Cursor Gauges) : Prop where
  bounded : ∀ call ∈ world.tasks, Bounded batchSize call
  covered :
    totalOf (credit batchSize) world.tasks ≤ batchSize * live

/-- Every step of the machine keeps the books. -/
theorem Solvent.step
    {program : RunnerProgram Cursor Gauges}
    {codec : CursorCodec Cursor}
    {batchSize live : Nat}
    (follows : program.Follows .backfill codec)
    (fetchBounded :
      ∀ table cursor, (program.fetch table cursor).length ≤ batchSize)
    {before reached : RunnerProgram.World Cursor Gauges}
    {event : RunnerProgram.Event}
    (solvent : Solvent batchSize live before)
    (taken : program.machine.step before event = some reached) :
    Solvent batchSize (countStart live event) reached := by
  cases event with
  | act index action =>
      obtain ⟨call, shared, next, spawned, found, moved, rfl⟩ :=
        TaskMachine.step_act taken
      have step :
          Step program .backfill codec before.context before.shared call
            action shared next spawned := follows.act_spec moved
      have bounded :=
        solvent.bounded call (List.mem_of_getElem? found)
      obtain ⟨nextBounded, newBounded⟩ :=
        bounded_step fetchBounded bounded step
      refine ⟨?_, ?_⟩
      · intro other member
        rcases TaskMachine.mem_set_append member with old | rfl | new
        · exact solvent.bounded other old
        · exact nextBounded
        · exact newBounded other new
      · have pays :
            credit batchSize next + totalOf (credit batchSize) spawned + 0 +
                batchSize * live ≤
              credit batchSize call + 0 + batchSize * live :=
          Nat.add_le_add_right (step_pays bounded step) _
        have covered :
            totalOf (credit batchSize) before.tasks + 0 ≤
              batchSize * live := solvent.covered
        exact TaskMachine.totalOf_resume_le found pays covered
  | env event =>
      obtain ⟨shared, tasks, moved, rfl⟩ := TaskMachine.step_env taken
      cases event with
      | start =>
          cases moved
          refine ⟨?_, ?_⟩
          · intro call member
            rcases List.mem_append.mp member with old | new
            · exact solvent.bounded call old
            · rw [List.mem_singleton.mp new]
              exact Nat.zero_le _
          · rw [totalOf_append, countStart, Nat.mul_succ]
            exact Nat.add_le_add_right solvent.covered _
      | pause =>
          cases moved
          refine ⟨?_, ?_⟩
          · intro call member
            rcases List.mem_append.mp member with old | new
            · exact solvent.bounded call old
            · rw [List.mem_singleton.mp new]
              exact Nat.zero_le _
          · rw [totalOf_append]
            exact solvent.covered
      | kill =>
          cases moved
          exact ⟨List.forall_mem_nil _, Nat.zero_le _⟩
  | change change =>
      obtain ⟨_, _, rfl⟩ := TaskMachine.step_change taken
      exact ⟨solvent.bounded, solvent.covered⟩

/-- The backfill fetches at most a batch. -/
theorem length_backfill_fetch_le
    (parse : String → Option Json)
    (batchSize : Nat)
    (table : List SourceRow)
    (lastProcessedId : Nat) :
    ((BackfillRunner.program parse batchSize).fetch
        table lastProcessedId).length ≤ fetchLimit batchSize := by
  simp only [BackfillRunner.program, SourceReader.fetchBackfillBatch,
    Keyset.page, List.length_map, List.length_take]
  exact Nat.min_le_left _ _

end BoundedMemory

section Backfill

open BackfillRunner (program)

/--
However its control calls overlap and its sinks and its database answer, the
backfill runner keeps at most one batch in memory for every `start()` of the
living process.
-/
theorem backfill_recordsInMemory_le
    (parse : String → Option Json)
    (batchSize : Nat)
    (table : List SourceRow)
    (checkpoint : Option ReplicationCheckpoint)
    {events : List RunnerProgram.Event}
    {reached : RunnerProgram.World Nat BackfillRunner.Gauges}
    (run :
      Run (program parse batchSize).machine.step (fun _ _ => True)
        ((program parse batchSize).initial table checkpoint)
        events reached) :
    recordsInMemory reached.tasks ≤
      fetchLimit batchSize * startsOfProcess events := by
  have solvent :
      BoundedMemory.Solvent (fetchLimit batchSize)
        (startsOfProcess events) reached :=
    run.tally countStart (BoundedMemory.Solvent (fetchLimit batchSize))
      (fun solvent _ taken =>
        solvent.step (BackfillRunner.program_follows parse batchSize)
          (BoundedMemory.length_backfill_fetch_le parse batchSize) taken)
      ⟨List.forall_mem_nil _, Nat.zero_le _⟩
  calc recordsInMemory reached.tasks
      ≤ totalOf (BoundedMemory.credit (fetchLimit batchSize)) reached.tasks :=
        TaskMachine.totalOf_le_totalOf fun call member =>
          BoundedMemory.held_le_credit (solvent.bounded call member)
    _ ≤ fetchLimit batchSize * startsOfProcess events := solvent.covered

/-- A second loop is started while the first one waits for its sinks. -/
def sampleTwoLoops : List RunnerProgram.Event :=
  BackfillRunner.sampleStart ++
    [.env .start, .act 1 (.serve 0), .act 1 (.turn 0), .act 1 (.serve 0),
      .act 1 (.turn 0), .act 1 (.serve 0)]

/-- Both of them hold the same row: the bound is reached. -/
theorem backfill_recordsInMemory_le_overlap :
    ∃ reached,
      Run (program (fun _ => none) 1).machine.step (fun _ _ => True)
        ((program (fun _ => none) 1).initial [sampleRow 1 0] none)
        sampleTwoLoops reached ∧
      recordsInMemory reached.tasks = 2 ∧
      recordsInMemory reached.tasks ≤
        fetchLimit 1 * startsOfProcess sampleTwoLoops := by
  obtain ⟨reached, run, both⟩ :
      ∃ reached,
        Run (program (fun _ => none) 1).machine.step (fun _ _ => True)
          ((program (fun _ => none) 1).initial [sampleRow 1 0] none)
          sampleTwoLoops reached ∧
        recordsInMemory reached.tasks = 2 :=
    Run.exists_of_replay _ (by decide)
  exact ⟨reached, run, both,
    backfill_recordsInMemory_le (fun _ => none) 1 [sampleRow 1 0] none run⟩

end Backfill

section Incremental

open IncrementalRunner (program)

/-- The loop wakes up and measures its lag. -/
def wakeUp : List RunnerProgram.Event :=
  [.act 0 (.turn 0), .act 0 (.serve 0), .act 0 (.turn 0)]

/-- A batch is dispatched; RabbitMQ never answers and Elasticsearch rejects. -/
def hungDispatch : List RunnerProgram.Event :=
  [.act 0 (.serve 0), .act 0 (.turn 0), .act 0 (.begin .rabbitmq),
    .act 0 (.settle .elasticsearch none), .act 0 (.turn 0)]

variable
  (parse : String → Option Json)
  (batchSize : Nat)
  (table : List SourceRow)
  {state : RunnerState Watermark IncrementalRunner.Gauges}

/-- A loop that is not asked to stop wakes up to its next fetch. -/
theorem wakeUp_run
    (go : state.memory.stopRequested = false)
    (others : List (Call Watermark)) :
    ∃ gauges,
      Run (program parse batchSize).machine.step (fun _ _ => True)
        ⟨table, state, .sleep :: others⟩
        wakeUp
        ⟨table, { state with memory := { state.memory with gauges } },
          .fetchBatch state.memory.cursor .pending :: others⟩ := by
  have woken :
      (program parse batchSize).machine.act table state .sleep (.turn 0) =
        some (state,
          .getIncrementalLag state.memory.cursor .pending, []) := by
    simp [RunnerProgram.machine, RunnerProgram.act, program,
      IncrementalRunner.turn, IncrementalRunner.loopHead,
      RunnerProgram.noteDispatch, go]
  let lag := SourceReader.getIncrementalLag table state.memory.cursor
  refine
    ⟨{ currentLagRecords := lag.1
       currentLagMs := (lag.2.map fun time => max 0 (0 - time)).getD 0 },
      .cons trivial (TaskMachine.step_head woken) ?_⟩
  rw [List.append_nil]
  refine .cons trivial (TaskMachine.step_head rfl) ?_
  rw [List.append_nil]
  refine .cons trivial (TaskMachine.step_head rfl) ?_
  rw [List.append_nil]
  exact .nil _

/-- A hung dispatch goes back to sleep and leaves its batch behind. -/
theorem hungDispatch_run
    {record : SourceRecord}
    {rest : List SourceRecord}
    (fetched :
      (program parse batchSize).fetch table state.memory.cursor =
        record :: rest)
    (others : List (Call Watermark)) :
    ∃ history,
      Run (program parse batchSize).machine.step (fun _ _ => True)
        ⟨table, state, .fetchBatch state.memory.cursor .pending :: others⟩
        hungDispatch
        ⟨table, { state with history },
          .sleep :: others ++
            [.orphan .rabbitmq (record :: rest) .started]⟩ := by
  have served :
      (program parse batchSize).machine.act table state
          (.fetchBatch state.memory.cursor .pending) (.serve 0) =
        some (state,
          .fetchBatch state.memory.cursor (.fulfilled (record :: rest)),
          []) := by
    simp [RunnerProgram.machine, RunnerProgram.act, RunnerProgram.serve,
      fetched]
  refine
    ⟨{ state.history with
        dispatched := state.history.dispatched ++ [record :: rest] },
      .cons trivial (TaskMachine.step_head served) ?_⟩
  rw [List.append_nil]
  refine .cons trivial (TaskMachine.step_head rfl) ?_
  rw [List.append_nil]
  refine .cons trivial (TaskMachine.step_head rfl) ?_
  rw [List.append_nil]
  refine .cons trivial (TaskMachine.step_head rfl) ?_
  rw [List.append_nil]
  refine .cons trivial (TaskMachine.step_head rfl) ?_
  exact .nil _

/-- An iteration that hangs leaves its batch behind and keeps the cursor. -/
theorem hungIteration_run
    (go : state.memory.stopRequested = false)
    {record : SourceRecord}
    {rest : List SourceRecord}
    (fetched :
      (program parse batchSize).fetch table state.memory.cursor =
        record :: rest)
    (others : List (Call Watermark)) :
    ∃ after : RunnerState Watermark IncrementalRunner.Gauges,
      after.memory.stopRequested = false ∧
        after.memory.cursor = state.memory.cursor ∧
        Run (program parse batchSize).machine.step (fun _ _ => True)
          ⟨table, state, .sleep :: others⟩
          (wakeUp ++ hungDispatch)
          ⟨table, after,
            .sleep :: (others ++
              [.orphan .rabbitmq (record :: rest) .started])⟩ := by
  obtain ⟨gauges, woken⟩ := wakeUp_run parse batchSize table go others
  let awake : RunnerState Watermark IncrementalRunner.Gauges :=
    { state with memory := { state.memory with gauges } }
  have fetchedAwake :
      (program parse batchSize).fetch table awake.memory.cursor =
        record :: rest := fetched
  obtain ⟨history, hung⟩ :=
    hungDispatch_run parse batchSize table fetchedAwake others
  exact ⟨{ awake with history }, go, rfl, woken.append hung⟩

/-- The loop can go around any number of times, leaving a batch each time. -/
theorem exists_run_of_asleep
    (pending :
      (program parse batchSize).fetch table state.memory.cursor ≠ [])
    (go : state.memory.stopRequested = false)
    (count : Nat)
    (others : List (Call Watermark)) :
    ∃ events reached,
      Run (program parse batchSize).machine.step (fun _ _ => True)
        ⟨table, state, .sleep :: others⟩ events reached ∧
        (∀ live, events.foldl countStart live = live) ∧
        count + recordsInMemory others ≤ recordsInMemory reached.tasks := by
  induction count generalizing state others with
  | zero =>
      refine ⟨[], _, .nil _, fun _ => rfl, ?_⟩
      simp [recordsInMemory]
  | succ count inductionHypothesis =>
      obtain ⟨record, rest, fetched⟩ := List.exists_cons_of_ne_nil pending
      obtain ⟨after, afterGo, sameCursor, iteration⟩ :=
        hungIteration_run parse batchSize table go fetched others
      obtain ⟨events, reached, run, noStarts, grown⟩ :=
        inductionHypothesis (sameCursor ▸ pending) afterGo
          (others ++ [.orphan .rabbitmq (record :: rest) .started])
      refine ⟨_, reached, iteration.append run, ?_, ?_⟩
      · intro live
        rw [List.foldl_append]
        exact noStarts live
      · have left :
            recordsInMemory
                (others ++ [.orphan .rabbitmq (record :: rest) .started]) =
              recordsInMemory others + (rest.length + 1) := by
          simp [recordsInMemory, Call.heldRecords]
        omega

/-- The loop is started, reads its row, and measures its lag. -/
def startUp : List RunnerProgram.Event :=
  [.env .start, .act 0 (.serve 0), .act 0 (.turn 0), .act 0 (.serve 0),
    .act 0 (.turn 0), .act 0 (.serve 0), .act 0 (.turn 0)]

/-- A started loop reaches the fetch of its first iteration. -/
theorem startUp_run (checkpoint : Option ReplicationCheckpoint) :
    ∃ state : RunnerState Watermark IncrementalRunner.Gauges,
      state.memory.stopRequested = false ∧
        state.memory.cursor =
          IncrementalRunner.codec.persisted checkpoint ∧
        Run (program parse batchSize).machine.step (fun _ _ => True)
          ((program parse batchSize).initial table checkpoint)
          startUp
          ⟨table, state, [.fetchBatch state.memory.cursor .pending]⟩ := by
  let loaded :=
    IncrementalRunner.fresh.load IncrementalRunner.codec
      (CheckpointManager.getCheckpoint checkpoint)
  let lag := SourceReader.getIncrementalLag table loaded.cursor
  refine
    ⟨{ memory :=
        { loaded with
          status := .running
          gauges :=
            { currentLagRecords := lag.1
              currentLagMs :=
                (lag.2.map fun time => max 0 (0 - time)).getD 0 } }
       checkpoint :=
        CheckpointManager.updateStatus .running
          (some (CheckpointManager.getCheckpoint checkpoint))
       deadLetterQueue := []
       history := .empty }, rfl, rfl, .cons trivial rfl ?_⟩
  -- one settled await after the other
  refine .cons trivial (TaskMachine.step_head rfl) ?_
  refine .cons trivial (TaskMachine.step_head rfl) ?_
  refine .cons trivial (TaskMachine.step_head rfl) ?_
  refine .cons trivial (TaskMachine.step_head rfl) ?_
  refine .cons trivial (TaskMachine.step_head rfl) ?_
  refine .cons trivial (TaskMachine.step_head rfl) ?_
  exact .nil _

end Incremental

end Replication
