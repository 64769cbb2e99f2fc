import Replication.CarriedRecords
import Replication.SingleLoop

namespace Replication

/-!
# The end of a backfill

A backfill completes through one empty fetch: only then is its status set, in
memory and in the database.  So whatever holds of every row when a fetch selects
nothing, and is never lost, holds whenever a backfill is found completed.
-/

variable {Cursor Gauges : Type}

/-- The backfill has fetched nothing, and completes or has completed. -/
def PastLastFetch (world : BackfillRunner.World) : Prop :=
  (∃ call ∈ world.tasks, call.AnsweredEmpty) ∨
    world.shared.memory.status = .completed

instance (world : BackfillRunner.World) :
    Decidable (PastLastFetch world) :=
  inferInstanceAs (Decidable (_ ∨ _))

namespace Call

/-- The call writes the status COMPLETED. -/
def Completing : Call Cursor → Prop
  | .updateStatus .completed _ => True
  | _ => False

/-- That call is a loop. -/
theorem Completing.active
    {call : Call Cursor}
    (completing : call.Completing) :
    call.Active := by
  cases call with
  | updateStatus status answer =>
      cases status with
      | completed => trivial
      | _ => exact completing.elim
  | _ => exact completing.elim

end Call

section LastFetch

variable
  {program : RunnerProgram Cursor Gauges}
  {kind : RunnerKind}
  {codec : CursorCodec Cursor}
  {table : List SourceRow}
  {state after : RunnerState Cursor Gauges}
  {call next : Call Cursor}
  {action : Act}
  {spawned : List (Call Cursor)}

/-- The loop condition does not complete a runner. -/
theorem loopHead_status
    {memory entered : Memory Cursor Gauges}
    (head : LoopHead kind memory entered next)
    (completed : entered.status = .completed) :
    memory.status = .completed := by
  cases head with
  | stopped stop => cases completed
  | fetch isBackfill go => exact completed
  | lag isIncremental go => exact completed

/-- The loop condition answers no fetch. -/
theorem loopHead_not_answeredEmpty
    {memory entered : Memory Cursor Gauges}
    (head : LoopHead kind memory entered next) :
    ¬ next.AnsweredEmpty := by
  cases head <;> exact id

/-- Only an empty fetch completes a runner. -/
theorem completed_of_step
    (step :
      Step program kind codec table state call action after next spawned)
    (completed : after.memory.status = .completed) :
    state.memory.status = .completed ∨ call.AnsweredEmpty := by
  cases step with
  | serve now served => cases served <;> exact .inl completed
  | reject rejected => exact .inl completed
  | begin sink begun => exact .inl completed
  | settle sink outcome settled => exact .inl completed
  | turn now turned =>
      cases turned with
      | completed cursor isBackfill => exact .inr trivial
      | completedWritten answer isBackfill =>
          left
          dsimp only at completed
          split at completed
          · cases completed
          · exact completed
      | enter answer gauges head =>
          have entered := loopHead_status head completed
          exact .inl entered
      | advanced records data answer head =>
          have entered := loopHead_status head completed
          exact .inl entered
      | woken isIncremental head =>
          have entered := loopHead_status head completed
          exact .inl entered
      | loadStopped => cases completed
      | load => cases completed
      | dispatchFailed => cases completed
      | failed => cases completed
      | _ => exact .inl completed

/-- Only a fetch that selects nothing is answered without rows. -/
theorem answeredEmpty_of_step
    (step :
      Step program kind codec table state call action after next spawned)
    (empty : next.AnsweredEmpty) :
    ∃ cursor,
      call = .fetchBatch cursor .pending ∧
        program.fetch table cursor = [] := by
  cases step with
  | serve now served =>
      cases served with
      | fetch cursor =>
          cases selected : program.fetch table cursor with
          | nil => exact ⟨cursor, rfl, selected⟩
          | cons first rest => exact (selected ▸ empty).elim
      | _ => exact empty.elim
  | reject rejected => cases rejected <;> exact empty.elim
  | begin sink begun => cases begun <;> exact empty.elim
  | settle sink outcome settled => cases settled <;> exact empty.elim
  | turn now turned =>
      cases turned with
      | enter answer gauges head =>
          exact absurd empty (loopHead_not_answeredEmpty head)
      | advanced records data answer head =>
          exact absurd empty (loopHead_not_answeredEmpty head)
      | woken isIncremental head =>
          exact absurd empty (loopHead_not_answeredEmpty head)
      | _ => exact empty.elim

/-- What a step leaves behind is no answered fetch. -/
theorem spawned_not_answeredEmpty
    (step :
      Step program kind codec table state call action after next spawned) :
    ∀ new ∈ spawned, ¬ new.AnsweredEmpty := by
  intro new member empty
  have notActive := spawned_not_active step new member
  cases new with
  | fetchBatch cursor answer => exact notActive trivial
  | _ => exact empty.elim

/-- A completed status is written after an empty fetch. -/
theorem completing_of_step
    (step :
      Step program kind codec table state call action after next spawned)
    (completing : next.Completing) :
    call.Completing ∨ call.AnsweredEmpty := by
  cases step with
  | serve now served =>
      cases served with
      | status status =>
          cases status with
          | completed => exact .inl trivial
          | _ => exact completing.elim
      | _ => exact completing.elim
  | reject rejected =>
      cases rejected with
      | status status =>
          cases status with
          | completed => exact .inl trivial
          | _ => exact completing.elim
      | _ => exact completing.elim
  | begin sink begun => cases begun <;> exact completing.elim
  | settle sink outcome settled => cases settled <;> exact completing.elim
  | turn now turned =>
      cases turned with
      | completed cursor isBackfill => exact .inr trivial
      | enter answer gauges head => cases head <;> exact completing.elim
      | advanced records data answer head =>
          cases head <;> exact completing.elim
      | woken isIncremental head => cases head <;> exact completing.elim
      | _ => exact completing.elim

/-- The stored status is COMPLETED only if a call has written it. -/
theorem storedCompleted_of_step
    (step :
      Step program kind codec table state call action after next spawned)
    (stored :
      after.checkpoint.map ReplicationCheckpoint.status =
        some .completed) :
    state.checkpoint.map ReplicationCheckpoint.status = some .completed ∨
      call.Completing := by
  cases step with
  | serve now served =>
      cases served with
      | checkpoint =>
          left
          cases row : state.checkpoint with
          | none => simp [row, CheckpointManager.getCheckpoint,
              CheckpointManager.missingCheckpoint] at stored
          | some checkpoint =>
              simpa [row, CheckpointManager.getCheckpoint] using stored
      | status status =>
          cases row : state.checkpoint with
          | none =>
              simp [row, CheckpointManager.updateStatus] at stored
          | some checkpoint =>
              simp only [row, CheckpointManager.updateStatus,
                Option.map_some, Option.some.injEq] at stored
              subst stored
              exact .inr trivial
      | committed records data =>
          left
          cases row : state.checkpoint with
          | none =>
              simp [row, CheckpointManager.commitCheckpoint] at stored
          | some checkpoint =>
              simpa [row, CheckpointManager.commitCheckpoint] using stored
      | _ => exact .inl stored
  | _ => exact .inl stored

end LastFetch

namespace BackfillRunner

/-- The backfill is past its last fetch, here or in the database. -/
def Concluded (world : World) : Prop :=
  PastLastFetch world ∨ (∃ call ∈ world.tasks, call.Completing) ∨
    world.shared.checkpoint.map ReplicationCheckpoint.status =
      some .completed

/-- A fetch of a pending call selects nothing. -/
def SelectsNothing
    (parse : String → Option Json)
    (batchSize : Nat)
    (world : World) : Prop :=
  ∃ cursor,
    .fetchBatch cursor .pending ∈ world.tasks ∧
      (program parse batchSize).fetch world.context cursor = []

section Concluding

variable
  {parse : String → Option Json}
  {batchSize : Nat}
  {before after : World}
  {event : RunnerProgram.Event}

/-- A fetch is answered without rows only if it selects nothing. -/
theorem answeredEmpty_of_machine_step
    (taken :
      (program parse batchSize).machine.step before event = some after)
    {call : Call Nat}
    (member : call ∈ after.tasks)
    (empty : call.AnsweredEmpty) :
    Concluded before ∨ SelectsNothing parse batchSize before := by
  cases (program_follows parse batchSize).origin taken member with
  | kept old => exact .inl (.inl (.inl ⟨call, old, empty⟩))
  | started isStart => exact (isStart ▸ empty).elim
  | paused isPause => exact (isPause ▸ empty).elim
  | stepped oldMember step isNew =>
      rcases isNew with rfl | new
      · obtain ⟨cursor, rfl, nothing⟩ := answeredEmpty_of_step step empty
        exact .inr ⟨cursor, oldMember, nothing⟩
      · exact absurd empty (spawned_not_answeredEmpty step call new)

/-- A completed status is written only after an empty fetch. -/
theorem completing_of_machine_step
    (taken :
      (program parse batchSize).machine.step before event = some after)
    {call : Call Nat}
    (member : call ∈ after.tasks)
    (completing : call.Completing) :
    Concluded before := by
  cases (program_follows parse batchSize).origin taken member with
  | kept old => exact .inr (.inl ⟨call, old, completing⟩)
  | started isStart => exact (isStart ▸ completing).elim
  | paused isPause => exact (isPause ▸ completing).elim
  | @stepped old _ _ _ _ oldMember step isNew =>
      rcases isNew with rfl | new
      · rcases completing_of_step step completing with already | empty
        · exact .inr (.inl ⟨old, oldMember, already⟩)
        · exact .inl (.inl ⟨old, oldMember, empty⟩)
      · exact absurd completing.active (spawned_not_active step call new)

/-- A runner completes only after an empty fetch. -/
theorem completed_of_machine_step
    (taken :
      (program parse batchSize).machine.step before event = some after)
    (completed : after.shared.memory.status = .completed) :
    Concluded before := by
  cases event with
  | act index action =>
      obtain ⟨call, shared, next, spawned, found, moved, rfl⟩ :=
        TaskMachine.step_act taken
      have step := (program_follows parse batchSize).act_spec moved
      rcases completed_of_step step completed with already | empty
      · exact .inl (.inr already)
      · exact .inl (.inl ⟨call, List.mem_of_getElem? found, empty⟩)
  | env event =>
      obtain ⟨shared, tasks, moved, rfl⟩ := TaskMachine.step_env taken
      cases event with
      | start =>
          cases moved
          exact .inl (.inr completed)
      | pause => cases moved; cases completed
      | kill => cases moved; cases completed
  | change change =>
      obtain ⟨_, _, rfl⟩ := TaskMachine.step_change taken
      exact .inl (.inr completed)

/-- The database has the status COMPLETED only if a call has written it. -/
theorem storedCompleted_of_machine_step
    (taken :
      (program parse batchSize).machine.step before event = some after)
    (stored :
      after.shared.checkpoint.map ReplicationCheckpoint.status =
        some .completed) :
    Concluded before := by
  cases event with
  | act index action =>
      obtain ⟨call, shared, next, spawned, found, moved, rfl⟩ :=
        TaskMachine.step_act taken
      have step := (program_follows parse batchSize).act_spec moved
      rcases storedCompleted_of_step step stored with already | completing
      · exact .inr (.inr already)
      · exact .inr (.inl ⟨call, List.mem_of_getElem? found, completing⟩)
  | env event =>
      obtain ⟨shared, tasks, moved, rfl⟩ := TaskMachine.step_env taken
      cases event <;> cases moved <;> exact .inr (.inr stored)
  | change change =>
      obtain ⟨_, _, rfl⟩ := TaskMachine.step_change taken
      exact .inr (.inr stored)

/-- Only a fetch that selects nothing concludes a backfill. -/
theorem concluded_step
    (taken :
      (program parse batchSize).machine.step before event = some after)
    (concluded : Concluded after) :
    Concluded before ∨ SelectsNothing parse batchSize before := by
  rcases concluded with
    (⟨call, member, empty⟩ | completed) |
      ⟨call, member, completing⟩ | stored
  · exact answeredEmpty_of_machine_step taken member empty
  · exact .inl (completed_of_machine_step taken completed)
  · exact .inl (completing_of_machine_step taken member completing)
  · exact .inl (storedCompleted_of_machine_step taken stored)

end Concluding

end BackfillRunner

end Replication
