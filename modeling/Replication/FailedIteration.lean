import Replication.ZeroLoss

namespace Replication

/-!
# What a failed iteration leaves behind

An iteration of either loop ends when it commits its batch and goes on, or when
one of its awaits is rejected.  The cursor moves and the row is written only by
a commit that succeeds, but the totals are already added before the commit is
awaited.  So a rejected commit is the one failure that leaves its mark: on the
totals, and on nothing else.
-/

/-- The columns of a checkpoint row that a commit writes. -/
structure ProgressColumns where
  lastProcessedId : Nat
  lastProcessedTimestamp : Option Int
  recordsProcessed : Int
  recordsFailed : Int
  deriving DecidableEq, Repr

/-- The columns of a checkpoint row that a commit writes. -/
def ReplicationCheckpoint.progress
    (checkpoint : ReplicationCheckpoint) : ProgressColumns where
  lastProcessedId := checkpoint.lastProcessedId
  lastProcessedTimestamp := checkpoint.lastProcessedTimestamp
  recordsProcessed := checkpoint.recordsProcessed
  recordsFailed := checkpoint.recordsFailed

/-- What `getMetrics` and the checkpoint row say about the progress. -/
structure Progress (Cursor : Type) where
  cursor : Cursor
  totalProcessed : Int
  totalFailed : Int
  row : Option ProgressColumns
  deriving DecidableEq, Repr

variable {Cursor Gauges : Type}

/-- The progress in memory and in the checkpoint row. -/
def RunnerState.progress
    (state : RunnerState Cursor Gauges) : Progress Cursor where
  cursor := state.memory.cursor
  totalProcessed := state.memory.totalProcessed
  totalFailed := state.memory.totalFailed
  row := state.checkpoint.map ReplicationCheckpoint.progress

namespace Call

/-- The turn of the call goes on to the next iteration. -/
def endsIteration : Call Cursor → Bool
  | .commitCheckpoint _ _ (.fulfilled _) => true
  | .sleep => true
  | _ => false

/-- The await has been rejected, and the turn of the call fails the iteration. -/
def failing : Call Cursor → Bool
  | .getIncrementalLag _ .rejected => true
  | .fetchBatch _ .rejected => true
  | .dispatch _ .rejected _ => true
  | .dispatch _ _ .rejected => true
  | .persistFailures _ _ _ .rejected => true
  | .commitCheckpoint _ _ .rejected => true
  | .updateStatus .completed .rejected => true
  | _ => false

/-- The call awaits its commit. -/
def commits : Call Cursor → Bool
  | .commitCheckpoint _ _ _ => true
  | _ => false

/-- The await that opens an iteration. -/
def opensIteration (kind : RunnerKind) : Call Cursor → Bool
  | .fetchBatch _ .pending => kind = .backfill
  | .getIncrementalLag _ .pending => kind = .incremental
  | _ => false

/-- The iteration is over, and has not gone on to the next one. -/
def IsOver : Call Cursor → Prop
  | .updateStatus .failed _ => True
  | .sleep => True
  | .returned => True
  | _ => False

end Call

/--
The step can change the progress: it loads a checkpoint, adds a batch to the
totals, writes the row, or advances the cursor.
-/
def writesProgress : Call Cursor → Act → Bool
  | .getCheckpoint _, .serve _ => true
  | .getCheckpoint (.fulfilled _), .turn _ => true
  | .dispatch records (.fulfilled esResult) (.fulfilled rmqResult), .turn _ =>
      (dlqEntries records esResult rmqResult).isEmpty
  | .persistFailures _ _ _ (.fulfilled _), .turn _ => true
  | .commitCheckpoint _ _ _, .serve _ => true
  | .commitCheckpoint _ _ (.fulfilled _), .turn _ => true
  | _, _ => false

/--
The event belongs to one iteration of the loop at that index.  Other loops of
the same runner write no progress meanwhile, and the process is not killed.
-/
def InIteration
    (index : Nat)
    (world : RunnerProgram.World Cursor Gauges) :
    RunnerProgram.Event → Prop
  | .act position action =>
      ∀ call ∈ world.tasks[position]?,
        if position = index then ¬ call.endsIteration
        else ¬ writesProgress call action
  | .env .kill => False
  | _ => True

instance
    (index : Nat)
    (world : RunnerProgram.World Cursor Gauges) :
    DecidablePred (InIteration index world)
  | .act _ _ => inferInstanceAs (Decidable (∀ call ∈ _, _))
  | .env .start => isTrue trivial
  | .env .pause => isTrue trivial
  | .env .kill => isFalse id
  | .change _ => isTrue trivial

/-! ### What one step does -/

section Steps

variable
  {program : RunnerProgram Cursor Gauges}
  {kind : RunnerKind}
  {codec : CursorCodec Cursor}
  {table : List SourceRow}
  {head state after : RunnerState Cursor Gauges}
  {call next : Call Cursor}
  {action : Act}
  {spawned : List (Call Cursor)}

/-- A status update writes other columns. -/
theorem progress_updateStatus
    (status : PipelineStatus)
    (row : Option ReplicationCheckpoint) :
    (CheckpointManager.updateStatus status row).map
        ReplicationCheckpoint.progress =
      row.map ReplicationCheckpoint.progress := by
  cases row <;> rfl

/-- Every step but a few keeps the progress. -/
theorem progress_of_step
    (step :
      Step program kind codec table state call action after next spawned)
    (writesNone : ¬ writesProgress call action) :
    after.progress = state.progress := by
  cases step with
  | serve now served =>
      cases served with
      | checkpoint => exact (writesNone rfl).elim
      | status status =>
          simp only [RunnerState.progress, progress_updateStatus]
      | committed => exact (writesNone rfl).elim
      | _ => rfl
  | reject rejected => rfl
  | begin sink begun => rfl
  | settle sink outcome settled => rfl
  | turn now turned =>
      cases turned with
      | loadStopped => exact (writesNone rfl).elim
      | load => exact (writesNone rfl).elim
      | enter _ _ head => cases head <;> rfl
      | committing _ _ _ _ _ ready =>
          cases ready with
          | clean noFailures => exact (writesNone (List.isEmpty_iff.mpr noFailures)).elim
          | persisted => exact (writesNone rfl).elim
      | advanced => exact (writesNone rfl).elim
      | advancedIdle => exact (writesNone rfl).elim
      | woken _ head => cases head <;> rfl
      | _ => rfl

/-- A batch that is not empty adds to one of the totals. -/
theorem progress_ne_of_counted
    {records : List SourceRecord}
    {esResult rmqResult : SinkResult}
    {data : CheckpointCommitData}
    {gauges : Gauges}
    {history : History}
    (nonempty : records ≠ [])
    (commit : CommitOf codec records esResult rmqResult data)
    (same : state.progress = head.progress) :
    RunnerState.progress
        { state with
          memory :=
            { state.memory with
              totalProcessed :=
                state.memory.totalProcessed + data.batchSuccessCount
              totalFailed :=
                state.memory.totalFailed + data.batchFailedCount
              gauges }
          history } ≠
      head.progress := by
  intro unchanged
  rw [← same] at unchanged
  have processed := congrArg Progress.totalProcessed unchanged
  have failed := congrArg Progress.totalFailed unchanged
  have length := List.length_pos_iff.mpr nonempty
  simp only [RunnerState.progress, commit.successCount, commit.failedCount,
    batchSuccessCount] at processed failed
  omega

/-- What an iteration has done so far, at each of its awaits. -/
def Iterating (head state : RunnerState Cursor Gauges) : Call Cursor → Prop
  | .getIncrementalLag _ _ => state.progress = head.progress
  | .fetchBatch _ _ => state.progress = head.progress
  | .updateStatus .completed _ => state.progress = head.progress
  | .dispatch records _ _ =>
      records ≠ [] ∧ state.progress = head.progress
  | .persistFailures records _ _ _ =>
      records ≠ [] ∧ state.progress = head.progress
  | .commitCheckpoint _ _ (.fulfilled _) => True
  | .commitCheckpoint _ _ _ => state.progress ≠ head.progress
  | call => call.IsOver

/-- Only the progress matters. -/
theorem Iterating.of_same
    (iterating : Iterating head state call)
    (same : after.progress = state.progress) :
    Iterating head after call := by
  unfold Iterating
  rw [same]
  exact iterating

/-- The progress is what it was, until the batch is counted. -/
theorem Iterating.step
    (iterating : Iterating head state call)
    (goesOn : ¬ call.endsIteration)
    (step :
      Step program kind codec table state call action after next spawned) :
    Iterating head after next := by
  cases step with
  | serve now served =>
      cases served with
      | checkpoint => exact iterating.elim
      | status status =>
          cases status with
          | completed =>
              change _ = _
              rw [RunnerState.progress, progress_updateStatus]
              exact iterating
          | failed => trivial
          | _ => exact iterating.elim
      | committed => trivial
      | _ => exact iterating
  | reject rejected =>
      cases rejected with
      | checkpoint => exact iterating.elim
      | status status =>
          cases status with
          | completed => exact iterating
          | failed => trivial
          | _ => exact iterating.elim
      | _ => exact iterating
  | begin sink begun =>
      cases begun with
      | orphan => exact iterating.elim
      | _ => exact iterating
  | settle sink outcome settled =>
      cases settled with
      | orphan => exact iterating.elim
      | _ => exact iterating
  | turn now turned =>
      cases turned with
      | loadStopped => exact iterating.elim
      | load => exact iterating.elim
      | enter => exact iterating.elim
      | measured => exact iterating
      | completed => exact iterating
      | dispatched cursor records nonempty => exact ⟨nonempty, iterating⟩
      | persisting => exact iterating
      | committing records esResult rmqResult data gauges ready commit =>
          cases ready with
          | clean =>
              exact progress_ne_of_counted iterating.1 commit iterating.2
          | persisted =>
              exact progress_ne_of_counted iterating.1 commit iterating.2
      | advanced => exact (goesOn rfl).elim
      | advancedIdle => exact (goesOn rfl).elim
      | woken => exact (goesOn rfl).elim
      | _ => trivial

/-- An iteration that is over writes no progress. -/
theorem Call.IsOver.step
    (isOver : call.IsOver)
    (goesOn : ¬ call.endsIteration)
    (step :
      Step program kind codec table state call action after next spawned) :
    next.IsOver ∧ after.progress = state.progress := by
  have writesNone : ¬ writesProgress call action := by
    cases call <;> first | exact isOver.elim | exact Bool.false_ne_true
  refine ⟨?_, progress_of_step step writesNone⟩
  cases step with
  | serve now served =>
      cases served with
      | status status =>
          cases status with
          | failed => trivial
          | _ => exact isOver.elim
      | _ => exact isOver.elim
  | reject rejected =>
      cases rejected with
      | status status =>
          cases status with
          | failed => trivial
          | _ => exact isOver.elim
      | _ => exact isOver.elim
  | begin sink begun => cases begun <;> exact isOver.elim
  | settle sink outcome settled => cases settled <;> exact isOver.elim
  | turn now turned =>
      cases turned with
      | woken => exact (goesOn rfl).elim
      | failed failure => cases failure <;> exact isOver.elim
      | committing _ _ _ _ _ ready => cases ready <;> exact isOver.elim
      | statusWritten => trivial
      | _ => exact isOver.elim

/-- What a rejected await leads to. -/
theorem turn_of_failing
    {now : Int}
    (failing : call.failing = true)
    (step :
      Step program kind codec table state call (.turn now)
        after next spawned) :
    next.IsOver ∧ after.progress = state.progress := by
  have writesNone : ¬ writesProgress call (.turn now) := by
    unfold writesProgress
    split <;> simp_all [Call.failing]
  refine ⟨?_, progress_of_step step writesNone⟩
  cases step with
  | turn now turned =>
      cases turned with
      | committing _ _ _ _ _ ready => cases ready <;> cases failing
      | dispatchFailed => trivial
      | dispatchRetried => trivial
      | failed => trivial
      | statusWritten status answer last =>
          rcases last with rfl | rfl <;> cases failing
      | _ => cases failing

/-- A failing iteration has counted its batch only if it fails to commit it. -/
theorem Iterating.unchanged_iff
    (iterating : Iterating head state call)
    (failing : call.failing = true) :
    state.progress = head.progress ↔ ¬ call.commits := by
  cases call with
  | commitCheckpoint records data answer =>
      cases answer with
      | rejected =>
          exact ⟨fun same => (iterating same).elim, fun no => (no rfl).elim⟩
      | _ => cases failing
  | getIncrementalLag => exact ⟨fun _ => Bool.false_ne_true, fun _ => iterating⟩
  | fetchBatch => exact ⟨fun _ => Bool.false_ne_true, fun _ => iterating⟩
  | dispatch => exact ⟨fun _ => Bool.false_ne_true, fun _ => iterating.2⟩
  | persistFailures =>
      exact ⟨fun _ => Bool.false_ne_true, fun _ => iterating.2⟩
  | updateStatus status answer =>
      cases status with
      | completed => exact ⟨fun _ => Bool.false_ne_true, fun _ => iterating⟩
      | _ => cases failing
  | _ => cases failing

end Steps

/-! ### What an iteration does -/

section Runs

variable
  {program : RunnerProgram Cursor Gauges}
  {kind : RunnerKind}
  {codec : CursorCodec Cursor}
  {index : Nat}
  {world after : RunnerProgram.World Cursor Gauges}
  {event : RunnerProgram.Event}

/-- An event of an iteration is a step of its call, or keeps the progress. -/
theorem step_inIteration
    (follows : program.Follows kind codec)
    {call : Call Cursor}
    (found : world.tasks[index]? = some call)
    (inside : InIteration index world event)
    (taken : program.machine.step world event = some after) :
    (after.tasks[index]? = some call ∧
        after.shared.progress = world.shared.progress) ∨
      ∃ action next spawned,
        event = .act index action ∧
          ¬ call.endsIteration ∧
          Step program kind codec world.context world.shared call action
            after.shared next spawned ∧
          after.tasks[index]? = some next := by
  have bound := (List.getElem?_eq_some_iff.mp found).1
  cases event with
  | act position action =>
      obtain ⟨other, shared, next, spawned, atPosition, moved, rfl⟩ :=
        TaskMachine.step_act taken
      have step := follows.act_spec moved
      have admitted := inside other atPosition
      have setBound :
          index < (world.tasks.set position next).length := by
        rw [List.length_set]
        exact bound
      by_cases own : position = index
      · subst position
        rw [if_pos rfl] at admitted
        rw [found] at atPosition
        cases atPosition
        refine .inr ⟨action, next, spawned, rfl, admitted, step, ?_⟩
        rw [List.getElem?_append_left setBound,
          List.getElem?_set_self bound]
      · rw [if_neg own] at admitted
        refine .inl ⟨?_, progress_of_step step admitted⟩
        rw [List.getElem?_append_left setBound,
          List.getElem?_set_ne own, found]
  | env event =>
      cases event with
      | kill => exact inside.elim
      | start =>
          cases taken
          exact .inl
            ⟨(List.getElem?_append_left bound).trans found, rfl⟩
      | pause =>
          cases taken
          exact .inl
            ⟨(List.getElem?_append_left bound).trans found, rfl⟩
  | change change =>
      obtain ⟨_, _, rfl⟩ := TaskMachine.step_change taken
      exact .inl ⟨found, rfl⟩

/-- The call at that index is in the iteration that began at `head`. -/
def AtIndex
    (index : Nat)
    (Holds : RunnerState Cursor Gauges → Call Cursor → Prop)
    (world : RunnerProgram.World Cursor Gauges) : Prop :=
  ∃ call, world.tasks[index]? = some call ∧ Holds world.shared call

/-- What the steps of the call keep, and what depends on the progress only. -/
theorem AtIndex.of_run
    (follows : program.Follows kind codec)
    {Holds : RunnerState Cursor Gauges → Call Cursor → Prop}
    (ofSame :
      ∀ {state after call},
        Holds state call →
        after.progress = state.progress → Holds after call)
    (ofStep :
      ∀ {table state after call action next spawned},
        Holds state call →
        ¬ call.endsIteration →
        Step program kind codec table state call action
          after next spawned →
        Holds after next)
    {events : List RunnerProgram.Event}
    (run : Run program.machine.step (InIteration index) world events after)
    (start : AtIndex index Holds world) :
    AtIndex index Holds after := by
  refine run.invariant (AtIndex index Holds) ?_ start
  intro before event after holds inside taken
  obtain ⟨call, found, holds⟩ := holds
  rcases step_inIteration follows found inside taken with
    ⟨stays, same⟩ | ⟨action, next, spawned, rfl, goesOn, step, atIndex⟩
  · exact ⟨call, stays, ofSame holds same⟩
  · exact ⟨next, atIndex, ofStep holds goesOn step⟩

/-- One failed iteration of either loop. -/
theorem progress_of_failed_iteration
    (follows : program.Follows kind codec)
    {head failing later : RunnerProgram.World Cursor Gauges}
    {opening call : Call Cursor}
    {iteration rest : List RunnerProgram.Event}
    {now : Int}
    (opens : opening.opensIteration kind)
    (atHead : head.tasks[index]? = some opening)
    (run :
      Run program.machine.step (InIteration index) head iteration failing)
    (found : failing.tasks[index]? = some call)
    (fails : call.failing)
    (turned :
      program.machine.step failing (.act index (.turn now)) = some after)
    (finish :
      Run program.machine.step (InIteration index) after rest later) :
    later.shared.progress = head.shared.progress ↔ ¬ call.commits := by
  have start : Iterating head.shared head.shared opening := by
    cases opening with
    | fetchBatch => rfl
    | getIncrementalLag => rfl
    | _ => cases opens
  have iterates : AtIndex index (Iterating head.shared) failing :=
    AtIndex.of_run follows (fun holds same => holds.of_same same)
      (fun holds goesOn step => holds.step goesOn step) run
      ⟨opening, atHead, start⟩
  obtain ⟨_, same, iterating⟩ := iterates
  rw [found] at same
  cases same
  obtain ⟨_, shared, next, spawned, atIndex, moved, rfl⟩ :=
    TaskMachine.step_act turned
  rw [found] at atIndex
  cases atIndex
  have step :
      Step program kind codec failing.context failing.shared call
        (.turn now) shared next spawned :=
    follows.act_spec moved
  obtain ⟨isOver, unchanged⟩ := turn_of_failing fails step
  have bound := (List.getElem?_eq_some_iff.mp found).1
  have finished :
      AtIndex index
        (fun state call => call.IsOver ∧ state.progress = shared.progress)
        later := by
    refine AtIndex.of_run follows ?_ ?_ finish ⟨next, ?_, isOver, rfl⟩
    · exact fun holds same => ⟨holds.1, same.trans holds.2⟩
    · intro table state after call action next spawned holds goesOn step
      obtain ⟨stillOver, same⟩ := holds.1.step goesOn step
      exact ⟨stillOver, same.trans holds.2⟩
    · rw [List.getElem?_append_left (by rwa [List.length_set]),
        List.getElem?_set_self bound]
  obtain ⟨_, _, _, kept⟩ := finished
  rw [kept, unchanged]
  exact iterating.unchanged_iff fails

end Runs

/--
An iteration of either loop, begun in any state, that fails at one of its awaits
leaves the totals and the cursor in memory, and the progress columns of the row,
as they were at its loop head, if and only if it does not fail at its commit.
-/
theorem failed_iteration_unchanged_iff
    (parse : String → Option Json)
    (batchSize index : Nat)
    (now : Int)
    (iteration rest : List RunnerProgram.Event) :
    (∀ (head failing after later : BackfillRunner.World)
        (opening call : Call Nat),
      head.tasks[index]? = some opening →
      opening.opensIteration .backfill →
      Run (BackfillRunner.program parse batchSize).machine.step
        (InIteration index) head iteration failing →
      failing.tasks[index]? = some call →
      call.failing →
      (BackfillRunner.program parse batchSize).machine.step failing
        (.act index (.turn now)) = some after →
      Run (BackfillRunner.program parse batchSize).machine.step
        (InIteration index) after rest later →
      (later.shared.progress = head.shared.progress ↔ ¬ call.commits)) ∧
    ∀ (head failing after later : IncrementalRunner.World)
        (opening call : Call Watermark),
      head.tasks[index]? = some opening →
      opening.opensIteration .incremental →
      Run (IncrementalRunner.program parse batchSize).machine.step
        (InIteration index) head iteration failing →
      failing.tasks[index]? = some call →
      call.failing →
      (IncrementalRunner.program parse batchSize).machine.step failing
        (.act index (.turn now)) = some after →
      Run (IncrementalRunner.program parse batchSize).machine.step
        (InIteration index) after rest later →
      (later.shared.progress = head.shared.progress ↔ ¬ call.commits) := by
  constructor
  · intro head failing after later opening call atHead opens run found fails
      turned finish
    exact progress_of_failed_iteration
      (BackfillRunner.program_follows parse batchSize)
      opens atHead run found fails turned finish
  · intro head failing after later opening call atHead opens run found fails
      turned finish
    exact progress_of_failed_iteration
      (IncrementalRunner.program_follows parse batchSize)
      opens atHead run found fails turned finish

/-- A backfill of one row that has just been started. -/
def sampleBackfill : BackfillRunner.World :=
  (BackfillRunner.program (fun _ => none) 1).initial [sampleRow 1 0] none

/-- The first loop head of a backfill. -/
def sampleHead : List RunnerProgram.Event :=
  BackfillRunner.sampleStart.take 5

/-- The batch of the first iteration is dispatched, and RabbitMQ rejects it. -/
def sampleUndispatched : List RunnerProgram.Event :=
  BackfillRunner.sampleStart.drop 5 ++
    [.act 0 (.settle .elasticsearch (some (sampleResult [1] []))), .env .pause,
      .act 0 (.settle .rabbitmq none)]

/-- Both sinks take the batch, and its commit is rejected. -/
def sampleUncommitted : List RunnerProgram.Event :=
  BackfillRunner.sampleStart.drop 5 ++
    [.act 0 (.settle .elasticsearch (some (sampleResult [1] []))),
      .act 0 (.settle .rabbitmq (some (sampleResult [1] []))),
      .act 0 (.turn 0), .act 0 .reject]

/-- The progress of a failed iteration, and what it was at its loop head. -/
def FailsWith
    (iteration : List RunnerProgram.Event)
    (commits : Bool)
    (atHead afterwards : Progress Nat) : Prop :=
  ∃ (head failing after : BackfillRunner.World) (opening call : Call Nat),
    Run (BackfillRunner.program (fun _ => none) 1).machine.step
      (fun _ _ => True) sampleBackfill sampleHead head ∧
    head.tasks[0]? = some opening ∧ opening.opensIteration .backfill ∧
    Run (BackfillRunner.program (fun _ => none) 1).machine.step
      (InIteration 0) head iteration failing ∧
    failing.tasks[0]? = some call ∧ call.failing ∧
    call.commits = commits ∧
    (BackfillRunner.program (fun _ => none) 1).machine.step failing
      (.act 0 (.turn 0)) = some after ∧
    head.shared.progress = atHead ∧ after.shared.progress = afterwards

/-- The same, executed. -/
def failsWith
    (iteration : List RunnerProgram.Event)
    (commits : Bool)
    (atHead afterwards : Progress Nat) : Bool :=
  let step := (BackfillRunner.program (fun _ => none) 1).machine.step
  (replay step (fun _ _ => True) sampleBackfill sampleHead).any fun head =>
    head.tasks[0]?.any (Call.opensIteration .backfill) &&
    head.shared.progress = atHead &&
    (replay step (InIteration 0) head iteration).any fun failing =>
      failing.tasks[0]?.any
          (fun call => call.failing && call.commits == commits) &&
      (step failing (.act 0 (.turn 0))).any fun after =>
        after.shared.progress = afterwards

/-- An execution is a run. -/
theorem FailsWith.of_executed
    {iteration : List RunnerProgram.Event}
    {commits : Bool}
    {atHead afterwards : Progress Nat}
    (executed : failsWith iteration commits atHead afterwards = true) :
    FailsWith iteration commits atHead afterwards := by
  simp only [failsWith, Option.any_eq_true, Bool.and_eq_true,
    decide_eq_true_eq, beq_iff_eq] at executed
  obtain ⟨head, toHead, ⟨⟨opening, atIndex, opens⟩, before⟩,
    failing, iterated, ⟨call, found, fails, isCommit⟩,
    after, turned, afterwards⟩ := executed
  exact ⟨head, failing, after, opening, call, .of_replay toHead, atIndex,
    opens, .of_replay iterated, found, fails, isCommit, turned, before,
    afterwards⟩

/-- The progress of the first loop head is still there after the failure. -/
theorem failed_iteration_unchanged_sample :
    ∃ head failing after : BackfillRunner.World,
      Run (BackfillRunner.program (fun _ => none) 1).machine.step
        (fun _ _ => True) sampleBackfill sampleHead head ∧
      Run (BackfillRunner.program (fun _ => none) 1).machine.step
        (InIteration 0) head sampleUndispatched failing ∧
      (BackfillRunner.program (fun _ => none) 1).machine.step failing
        (.act 0 (.turn 0)) = some after ∧
      after.shared.progress = head.shared.progress := by
  have fails :
      FailsWith sampleUndispatched false
        ⟨0, 0, 0, some ⟨0, none, 0, 0⟩⟩ ⟨0, 0, 0, some ⟨0, none, 0, 0⟩⟩ :=
    .of_executed (by decide)
  obtain ⟨head, failing, after, opening, call, toHead, atIndex, opens, run,
    found, isFailing, isCommit, turned, _⟩ := fails
  refine ⟨head, failing, after, toHead, run, turned, ?_⟩
  exact ((failed_iteration_unchanged_iff (fun _ => none) 1 0 0 _ []).1
    head failing after after opening call atIndex opens run found isFailing
    turned (.nil after)).mpr (by simp [isCommit])

/--
After the rejected commit the runner reports one processed row; its cursor and
the row of the checkpoint are still at zero.
-/
theorem rejected_commit_stays_counted :
    FailsWith sampleUncommitted true
      ⟨0, 0, 0, some ⟨0, none, 0, 0⟩⟩ ⟨0, 1, 0, some ⟨0, none, 0, 0⟩⟩ :=
  .of_executed (by decide)

end Replication
