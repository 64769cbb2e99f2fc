import Replication.SingleLoop

namespace Replication

/-!
# The status in memory and the status column

A runner keeps its status in a field, which `getMetrics` reports, and writes it
to its checkpoint row.  The writes are issued one after another and executed in
that order, so the column ends up with the last one issued.  What has to be
shown is that the field was last set together with that write.  There is one
assignment without a write: after its loop a runner whose stop has been
requested is set to PAUSED in memory only.
-/

section IssuedWrites

variable {Value : Type}

/-- What a cell holds when the issued writes, oldest first, are executed. -/
def eventually (issued : List Value) (stored : Value) : Value :=
  issued.getLast?.getD stored

/-- The write issued last decides. -/
@[simp] theorem eventually_append
    (issued : List Value)
    (value stored : Value) :
    eventually (issued ++ [value]) stored = value := by
  simp [eventually]

/-- Executing the oldest write changes nothing in the end. -/
theorem eventually_cons
    (value : Value)
    (issued : List Value)
    (stored : Value) :
    eventually (value :: issued) stored = eventually issued value := by
  simp [eventually, List.getLast?_cons]

end IssuedWrites

namespace StatusAgreement

/-- A runner with the status updates that are issued and not yet executed. -/
structure Updating (Cursor Gauges : Type) where
  runner : RunnerState Cursor Gauges
  /-- Oldest first. -/
  issued : List PipelineStatus
  deriving Repr

/-- A runner, its outstanding status updates, and the source table. -/
abbrev World (Cursor Gauges : Type) :=
  TaskMachine.World (List SourceRow) (Updating Cursor Gauges) (Call Cursor)

variable {Cursor Gauges : Type}

/-- Only the status update that was issued first can be executed. -/
def execute
    (issued : List PipelineStatus) :
    Call Cursor → Act → Option (List PipelineStatus)
  | .updateStatus status .pending, .serve _ =>
      match issued with
      | oldest :: rest => if oldest = status then some rest else none
      | [] => none
  | _, _ => some issued

/-- The status update that a turn ends with. -/
def issuedBy : Act → Call Cursor → List PipelineStatus
  | .turn _, .updateStatus status .pending => [status]
  | _, _ => []

/-- One step of one call, with the queue of status updates. -/
def act
    (program : RunnerProgram Cursor Gauges)
    (table : List SourceRow)
    (state : Updating Cursor Gauges)
    (call : Call Cursor)
    (action : Act) :
    Option (Updating Cursor Gauges × Call Cursor × List (Call Cursor)) :=
  match program.act table state.runner call action,
    execute state.issued call action with
  | some (runner, next, spawned), some left =>
      some (⟨runner, left ++ issuedBy action next⟩, next, spawned)
  | _, _ => none

/-- `start`, `resume` and `pause`; the process is not killed. -/
def control
    (program : RunnerProgram Cursor Gauges)
    (state : Updating Cursor Gauges)
    (calls : List (Call Cursor)) :
    Control → Option (Updating Cursor Gauges × List (Call Cursor))
  | .start =>
      let (runner, calls) := program.control state.runner calls .start
      some (⟨runner, state.issued⟩, calls)
  | .pause =>
      let (runner, calls) := program.control state.runner calls .pause
      some (⟨runner, state.issued ++ [.paused]⟩, calls)
  | .kill => none

/-- A runner whose status updates are executed in the order of their issue. -/
def machine (program : RunnerProgram Cursor Gauges) :
    TaskMachine (List SourceRow) (Updating Cursor Gauges)
      (Call Cursor) Act Control SourceChange where
  act := act program
  env := fun _ => control program
  change := SourceChange.apply

/-- A world of the runner without outstanding status updates. -/
def settled (world : RunnerProgram.World Cursor Gauges) :
    World Cursor Gauges where
  context := world.context
  shared := ⟨world.shared, []⟩
  tasks := world.tasks

/--
A newly constructed runner: its row, if there is one, says INITIALIZED, or
`start()` has been called.
-/
def Opening
    (program : RunnerProgram Cursor Gauges)
    (world : World Cursor Gauges) : Prop :=
  ∃ table checkpoint,
    world = settled (program.launched table checkpoint) ∨
      world = settled (program.initial table checkpoint) ∧
        (CheckpointManager.getCheckpoint checkpoint).status = .initialized

/-- A status update is rejected. -/
def rejectsUpdate : Call Cursor → Act → Bool
  | .updateStatus _ .pending, .reject => true
  | _, _ => false

/-- There is one loop at a time, and no status update is rejected. -/
def OneLoop (world : World Cursor Gauges) : RunnerProgram.Event → Prop
  | .env .start => ∀ call ∈ world.tasks, ¬ call.Active
  | .act index action =>
      ∀ call ∈ world.tasks[index]?, rejectsUpdate call action = false
  | _ => True

instance (world : World Cursor Gauges) : DecidablePred (OneLoop world)
  | .env .start => inferInstanceAs (Decidable (∀ call ∈ world.tasks, _))
  | .env .pause => isTrue trivial
  | .env .kill => isTrue trivial
  | .act index _ =>
      inferInstanceAs (Decidable (∀ call ∈ world.tasks[index]?, _))
  | .change _ => isTrue trivial

/--
The step leaves no status behind: the backfill does not complete after a stop
has been requested, a status update finds its row, and no runner that has yet to
set its status fails to read a row that already has another one.
-/
def keepsStatus
    (kind : RunnerKind)
    (runner : RunnerState Cursor Gauges) : Call Cursor → Act → Bool
  | .fetchBatch _ (.fulfilled []), .turn _ =>
      kind = .incremental ∨ runner.memory.stopRequested = false
  | .updateStatus _ .pending, .serve _ => runner.checkpoint.isSome
  | .getCheckpoint .rejected, .turn _ =>
      runner.memory.status = .initialized →
        (CheckpointManager.getCheckpoint runner.checkpoint).status =
          .initialized
  | _, _ => true

/-- No step of a call leaves a status behind. -/
def KeepsStatus
    (kind : RunnerKind)
    (world : World Cursor Gauges) : RunnerProgram.Event → Prop
  | .act index action =>
      ∀ call ∈ world.tasks[index]?,
        keepsStatus kind world.shared.runner call action = true
  | _ => True

instance (kind : RunnerKind) (world : World Cursor Gauges) :
    DecidablePred (KeepsStatus kind world)
  | .env _ => isTrue trivial
  | .act index _ =>
      inferInstanceAs (Decidable (∀ call ∈ world.tasks[index]?, _))
  | .change _ => isTrue trivial

/--
Whenever no loop is active and no status update is outstanding, the status in
memory is the persisted one.
-/
def Agrees (world : World Cursor Gauges) : Prop :=
  (∀ call ∈ world.tasks, ¬ call.Active) →
    world.shared.issued = [] →
      ∀ row, world.shared.runner.checkpoint = some row →
        row.status = world.shared.runner.memory.status

/-! ## What a step does to the two statuses -/

/-- The column will hold the status in memory. -/
def Settled (state : Updating Cursor Gauges) : Prop :=
  eventually state.issued
      (CheckpointManager.getCheckpoint state.runner.checkpoint).status =
    state.runner.memory.status

/-- No status has been set since the runner was constructed. -/
structure Unset (state : Updating Cursor Gauges) : Prop where
  status : state.runner.memory.status = .initialized
  issued : state.issued = []

/-- The loop reads its checkpoint. -/
def Loading : Call Cursor → Prop
  | .getCheckpoint _ => True
  | _ => False

/-- A loop that is not about to fail has PAUSED in memory after a stop. -/
def Obeys
    (memory : Memory Cursor Gauges) : Call Cursor → Prop
  | .updateStatus .failed _ => True
  | _ => memory.stopRequested = true → memory.status = .paused

/-- What holds between the steps of a run. -/
structure Consistent (world : World Cursor Gauges) : Prop where
  loops :
    TaskMachine.ExclusiveInvariant Call.Active (fun _ _ => True)
      (fun _ state call => Obeys state.runner.memory call) world
  settled :
    Settled world.shared ∨
      Unset world.shared ∧ ∃ call ∈ world.tasks, Loading call

section Steps

variable
  {program : RunnerProgram Cursor Gauges}
  {kind : RunnerKind}
  {codec : CursorCodec Cursor}
  {table : List SourceRow}
  {before after : Updating Cursor Gauges}
  {call next : Call Cursor}
  {action : Act}
  {spawned : List (Call Cursor)}

/-- What a step can do to the status in memory, the column and the queue. -/
inductive Effect (before after : Updating Cursor Gauges) : Prop where
  | quiet
      (memory :
        after.runner.memory.status = before.runner.memory.status)
      (row :
        (CheckpointManager.getCheckpoint after.runner.checkpoint).status =
          (CheckpointManager.getCheckpoint before.runner.checkpoint).status)
      (issued : after.issued = before.issued)
  | issues
      (issued :
        after.issued = before.issued ++ [after.runner.memory.status])
  | executes
      (memory :
        after.runner.memory.status = before.runner.memory.status)
      (issued :
        before.issued =
          (CheckpointManager.getCheckpoint after.runner.checkpoint).status ::
            after.issued)

/-- Every effect keeps the two statuses together. -/
theorem Effect.settled
    (effect : Effect before after)
    (settled : Settled before) :
    Settled after := by
  unfold Settled at settled ⊢
  cases effect with
  | quiet memory row issued => rw [issued, row, memory, settled]
  | issues issued => rw [issued, eventually_append]
  | executes memory issued =>
      rw [issued, eventually_cons] at settled
      rw [memory, settled]

/-- The first status set is settled. -/
theorem Effect.unset
    (effect : Effect before after)
    (unset : Unset before) :
    Settled after ∨ Unset after := by
  cases effect with
  | quiet memory _ issued =>
      exact .inr ⟨memory.trans unset.status, issued.trans unset.issued⟩
  | issues issued =>
      left
      rw [Settled, issued, eventually_append]
  | executes _ issued =>
      rw [unset.issued] at issued
      cases issued

/-- The call's step and what becomes of the queue. -/
theorem act_spec
    (follows : program.Follows kind codec)
    (moved :
      act program table before call action = some (after, next, spawned)) :
    Step program kind codec table before.runner call action after.runner
        next spawned ∧
      ∃ left,
        execute before.issued call action = some left ∧
          after.issued = left ++ issuedBy action next := by
  unfold act at moved
  split at moved
  · rename_i stepped executed
    cases moved
    exact ⟨follows.act_spec stepped, _, executed, rfl⟩
  · cases moved

/-- A loop condition changes no status: a stop has already set PAUSED. -/
theorem status_of_loopHead
    {memory later : Memory Cursor Gauges}
    (head : LoopHead kind memory later next)
    (obeys : memory.stopRequested = true → memory.status = .paused)
    (now : Int) :
    later.status = memory.status ∧ issuedBy (.turn now) next = [] := by
  cases head with
  | stopped stop => exact ⟨(obeys stop).symm, rfl⟩
  | fetch => exact ⟨rfl, rfl⟩
  | lag => exact ⟨rfl, rfl⟩

/-- A turn sets no status, or issues the update to the one it sets. -/
theorem status_of_turn
    {memory later : Memory Cursor Gauges}
    (turned : Turn kind codec memory call later next spawned)
    (obeys : call.Active → Obeys memory call)
    (now : Int) :
    later.status = memory.status ∧ issuedBy (.turn now) next = [] ∨
      issuedBy (.turn now) next = [later.status] := by
  cases turned with
  | loadStopped checkpoint stop =>
      exact .inl ⟨(obeys trivial stop).symm, rfl⟩
  | load => exact .inr rfl
  | completedWritten answer isBackfill =>
      left
      refine ⟨?_, rfl⟩
      dsimp only
      split
      · rename_i stop
        exact (obeys trivial stop).symm
      · rfl
  | enter answer gauges head =>
      exact .inl (status_of_loopHead head (obeys trivial) now)
  | advanced records data answer head =>
      exact .inl (status_of_loopHead head (obeys trivial) now)
  | woken isIncremental head =>
      exact .inl (status_of_loopHead head (obeys trivial) now)
  | completed => exact .inr rfl
  | dispatchFailed => exact .inr rfl
  | failed => exact .inr rfl
  | _ => exact .inl ⟨rfl, rfl⟩

/-- A statement that is executed for a call, or its first rejection. -/
theorem effect_of_served
    {now : Int}
    {state : RunnerState Cursor Gauges}
    {left : List PipelineStatus}
    (served : Served program table now before.runner call state next)
    (executed : execute before.issued call (.serve now) = some left)
    (keeps : keepsStatus kind before.runner call (.serve now) = true) :
    Effect before ⟨state, left⟩ := by
  cases served with
  | status status =>
      cases queue : before.issued with
      | nil =>
          rw [queue] at executed
          cases executed
      | cons oldest rest =>
          rw [queue] at executed
          obtain ⟨rfl, rfl⟩ : oldest = status ∧ rest = left := by
            simpa [execute] using executed
          obtain ⟨row, found⟩ := Option.isSome_iff_exists.mp keeps
          refine .executes rfl ?_
          rw [queue, found]
          rfl
  | committed records data =>
      cases executed
      refine .quiet rfl ?_ rfl
      cases before.runner.checkpoint <;> rfl
  | _ =>
      cases executed
      exact .quiet rfl rfl rfl

/-- Every step of a call has one of the effects. -/
theorem effect_of_step
    {state : RunnerState Cursor Gauges}
    {left : List PipelineStatus}
    (step :
      Step program kind codec table before.runner call action state next
        spawned)
    (executed : execute before.issued call action = some left)
    (keeps : keepsStatus kind before.runner call action = true)
    (obeys : call.Active → Obeys before.runner.memory call) :
    Effect before ⟨state, left ++ issuedBy action next⟩ := by
  have untouched
      (noServe : ∀ now, action ≠ .serve now) : left = before.issued := by
    unfold execute at executed
    split at executed
    · exact absurd rfl (noServe _)
    · exact (Option.some.inj executed).symm
  cases step with
  | serve now served =>
      rw [issuedBy, List.append_nil]
      · exact effect_of_served served executed keeps
      · simp
  | turn now turned =>
      obtain rfl := untouched (by simp)
      rcases status_of_turn turned obeys now with ⟨memory, none⟩ | one
      · exact .quiet memory rfl (by simp [none])
      · exact .issues (by simp [one])
  | _ =>
      obtain rfl := untouched (by simp)
      exact .quiet rfl rfl (by simp [issuedBy])

/-- A loop that reads its checkpoint goes on doing so until a status is set. -/
theorem loading_or_settled
    {state : RunnerState Cursor Gauges}
    {left : List PipelineStatus}
    (step :
      Step program kind codec table before.runner call action state next
        spawned)
    (executed : execute before.issued call action = some left)
    (keeps : keepsStatus kind before.runner call action = true)
    (obeys : call.Active → Obeys before.runner.memory call)
    (unset : Unset before)
    (loading : Loading call) :
    Loading next ∨
      Settled ⟨state, left ++ issuedBy action next⟩ := by
  cases step with
  | serve now served =>
      cases served with
      | checkpoint => exact .inl trivial
      | _ => exact loading.elim
  | reject rejected =>
      cases rejected with
      | checkpoint => exact .inl trivial
      | _ => exact loading.elim
  | begin sink begun => cases begun <;> exact loading.elim
  | settle sink outcome settled => cases settled <;> exact loading.elim
  | turn now turned =>
      right
      cases turned with
      | loadStopped checkpoint stop =>
          have paused := obeys trivial stop
          rw [unset.status] at paused
          cases paused
      | load checkpoint go =>
          exact eventually_append _ _ _
      | loadFailed =>
          cases executed
          have row := of_decide_eq_true keeps unset.status
          simp [Settled, issuedBy, unset.issued, eventually, row,
            unset.status]
      | committing _ _ _ _ _ ready => cases ready <;> exact loading.elim
      | failed failure => cases failure <;> exact loading.elim
      | _ => exact loading.elim

/-- The loop goes on only without a stop. -/
theorem obeys_of_loopHead
    {memory later : Memory Cursor Gauges}
    (head : LoopHead kind memory later next)
    (active : next.Active) :
    Obeys later next := by
  cases head with
  | stopped => exact active.elim
  | fetch isBackfill go =>
      intro stop
      rw [go] at stop
      cases stop
  | lag isIncremental go =>
      intro stop
      rw [go] at stop
      cases stop

/-- A loop has PAUSED in memory after a stop, until it fails. -/
theorem obeys_of_turn
    {state : RunnerState Cursor Gauges}
    {memory : Memory Cursor Gauges}
    {now : Int}
    (turned : Turn kind codec state.memory call memory next spawned)
    (keeps : keepsStatus kind state call (.turn now) = true)
    (obeys : Obeys state.memory call)
    (active : next.Active) :
    Obeys memory next := by
  cases turned with
  | load checkpoint go =>
      intro stop
      rw [Memory.load, go] at stop
      cases stop
  | enter answer gauges head => exact obeys_of_loopHead head active
  | advanced records data answer head => exact obeys_of_loopHead head active
  | woken isIncremental head => exact obeys_of_loopHead head active
  | completed cursor isBackfill =>
      intro stop
      rcases of_decide_eq_true keeps with isIncremental | go
      · rw [isBackfill] at isIncremental
        cases isIncremental
      · rw [go] at stop
        cases stop
  | committing records esResult rmqResult data gauges ready commit =>
      cases ready <;> exact obeys
  | dispatchFailed => exact trivial
  | failed => exact trivial
  | measured => exact obeys
  | idle => exact obeys
  | dispatched => exact obeys
  | persisting => exact obeys
  | advancedIdle => exact obeys
  | dispatchRetried => exact obeys
  | loadStopped => exact active.elim
  | loadFailed => exact active.elim
  | runningFailed => exact active.elim
  | statusWritten => exact active.elim
  | completedWritten => exact active.elim

/-- The other steps of a loop leave the fields of the runner alone. -/
theorem obeys_of_step
    {state : RunnerState Cursor Gauges}
    (step :
      Step program kind codec table before.runner call action state next
        spawned)
    (keeps : keepsStatus kind before.runner call action = true)
    (obeys : Obeys before.runner.memory call)
    (active : next.Active) :
    Obeys state.memory next := by
  cases step with
  | serve now served =>
      cases served with
      | status status => cases status <;> exact obeys
      | _ => exact obeys
  | reject rejected =>
      cases rejected with
      | status status => cases status <;> exact obeys
      | _ => exact obeys
  | begin sink begun => cases begun <;> exact obeys
  | settle sink outcome settled => cases settled <;> exact obeys
  | turn now turned => exact obeys_of_turn turned keeps obeys active

end Steps

/-! ## Runs -/

section Runs

variable
  {program : RunnerProgram Cursor Gauges}
  {kind : RunnerKind}
  {codec : CursorCodec Cursor}
  {before after : World Cursor Gauges}
  {event : RunnerProgram.Event}

/-- The assumptions about a run and the condition. -/
def Admits
    (kind : RunnerKind)
    (world : World Cursor Gauges)
    (event : RunnerProgram.Event) : Prop :=
  OneLoop world event ∧ KeepsStatus kind world event

instance (kind : RunnerKind) (world : World Cursor Gauges) :
    DecidablePred (Admits kind world) :=
  fun _ => inferInstanceAs (Decidable (_ ∧ _))

/-- Every loop has PAUSED in memory after a stop, until it fails. -/
theorem loops_step
    (follows : program.Follows kind codec)
    (consistent : Consistent before)
    (admitted : Admits kind before event)
    (taken : (machine program).step before event = some after) :
    TaskMachine.ExclusiveInvariant Call.Active (fun _ _ => True)
      (fun _ state call => Obeys state.runner.memory call) after := by
  refine TaskMachine.ExclusiveInvariant.step ?_ ?_ ?_ ?_
    consistent.loops admitted taken
  · intro world index call action shared next spawned
      _ admitted found _ obeys moved
    obtain ⟨step, _⟩ := act_spec follows moved
    exact ⟨trivial, obeys_of_step step (admitted.2 call found) obeys,
      spawned_not_active step⟩
  · intro world index call action shared next spawned
      _ _ _ inactive moved
    obtain ⟨step, _⟩ := act_spec follows moved
    obtain ⟨_, sameMemory, stillInactive⟩ := inactive_step inactive step
    refine ⟨trivial, stillInactive, spawned_not_active step, ?_⟩
    intro other _ obeys
    rw [sameMemory]
    exact obeys
  · intro world event shared tasks holds admitted moved
    cases event with
    | start =>
        cases moved
        refine ⟨trivial, .append_singleton admitted.1, ?_⟩
        intro call member active
        rcases List.mem_append.mp member with old | new
        · exact absurd active (admitted.1 call old)
        · obtain rfl := List.mem_singleton.mp new
          intro stop
          cases stop
    | pause =>
        cases moved
        refine ⟨trivial, holds.atMostOne.append ?_, ?_⟩
        · intro call new
          obtain rfl := List.mem_singleton.mp new
          exact id
        · intro call _ _
          unfold Obeys
          split
          · trivial
          · exact fun _ => rfl
    | kill => cases moved
  · intro world change context holds _ _
    exact ⟨trivial, holds.local_⟩

/-- The column is settled from the first status on. -/
theorem settled_step
    (follows : program.Follows kind codec)
    (consistent : Consistent before)
    (admitted : Admits kind before event)
    (taken : (machine program).step before event = some after) :
    Settled after.shared ∨
      Unset after.shared ∧ ∃ call ∈ after.tasks, Loading call := by
  cases event with
  | act index action =>
      obtain ⟨call, shared, next, spawned, found, moved, rfl⟩ :=
        TaskMachine.step_act taken
      obtain ⟨step, left, executed, issued⟩ := act_spec follows moved
      obtain ⟨runner, queue⟩ := shared
      obtain rfl : queue = left ++ issuedBy action next := issued
      have keeps := admitted.2 call found
      have obeys :=
        consistent.loops.local_ call (List.mem_of_getElem? found)
      have effect := effect_of_step step executed keeps obeys
      rcases consistent.settled with settled | ⟨unset, loading⟩
      · exact .inl (effect.settled settled)
      · refine or_iff_not_imp_left.mpr fun notSettled =>
          ⟨(effect.unset unset).resolve_left notSettled, ?_⟩
        obtain ⟨loop, member, loads⟩ :=
          (TaskMachine.Replaces.set next found).exists_mem
            (fun loads =>
              (loading_or_settled step executed keeps obeys unset
                loads).resolve_right notSettled)
            loading
        exact ⟨loop, List.mem_append_left _ member, loads⟩
  | env event =>
      obtain ⟨shared, tasks, moved, rfl⟩ := TaskMachine.step_env taken
      cases event with
      | start =>
          cases moved
          rcases consistent.settled with settled | ⟨unset, _, member, loads⟩
          · exact .inl settled
          · exact .inr ⟨⟨unset.status, unset.issued⟩, _,
              List.mem_append_left _ member, loads⟩
      | pause =>
          cases moved
          exact .inl (eventually_append _ _ _)
      | kill => cases moved
  | change change =>
      obtain ⟨table, _, rfl⟩ := TaskMachine.step_change taken
      exact consistent.settled

/-- Every step keeps the invariant. -/
theorem consistent_step
    (follows : program.Follows kind codec)
    (consistent : Consistent before)
    (admitted : Admits kind before event)
    (taken : (machine program).step before event = some after) :
    Consistent after where
  loops := loops_step follows consistent admitted taken
  settled := settled_step follows consistent admitted taken

/-- A newly constructed runner. -/
theorem consistent_of_opening
    (fresh :
      program.fresh.status = .initialized ∧
        program.fresh.stopRequested = false)
    (opening : Opening program before) :
    Consistent before := by
  obtain ⟨table, checkpoint, rfl | ⟨rfl, row⟩⟩ := opening
  · refine ⟨⟨trivial, .append_singleton (List.forall_mem_nil _), ?_⟩,
      .inr ⟨⟨fresh.1, rfl⟩, _, List.mem_singleton_self _, trivial⟩⟩
    intro call member _
    obtain rfl := List.mem_singleton.mp member
    intro stop
    cases fresh.2.symm.trans stop
  · refine ⟨⟨trivial, .of_none (List.forall_mem_nil _), ?_⟩,
      .inl (row.trans fresh.1.symm)⟩
    intro call member
    cases member

/-- A consistent world agrees. -/
theorem Consistent.agrees
    (consistent : Consistent before) :
    Agrees before := by
  intro inactive none row found
  rcases consistent.settled with settled | ⟨_, call, member, loads⟩
  · rw [Settled, none, found] at settled
    exact settled
  · cases call with
    | getCheckpoint answer => exact absurd trivial (inactive _ member)
    | _ => exact loads.elim

/-- The statuses agree in every state that such a run reaches. -/
def AgreesThroughout
    (program : RunnerProgram Cursor Gauges)
    (kind : RunnerKind) : Prop :=
  ∀ opening events reached,
    Opening program opening →
    Run (machine program).step (Admits kind) opening events reached →
    Agrees reached

/-- Runs of a program that follows the transition list. -/
theorem agreesThroughout_of_follows
    (follows : program.Follows kind codec)
    (fresh :
      program.fresh.status = .initialized ∧
        program.fresh.stopRequested = false) :
    AgreesThroughout program kind := by
  intro opening events reached opens run
  exact (run.invariant Consistent (consistent_step follows)
    (consistent_of_opening fresh opens)).agrees

end Runs

/--
Status agreement of both runners.  Whenever no loop is active and no status
update is outstanding, the status in memory is the persisted one, as long as the
backfill does not complete after a stop has been requested.
-/
theorem statuses_agree
    (parse : String → Option Json)
    (batchSize : Nat) :
    AgreesThroughout (BackfillRunner.program parse batchSize) .backfill ∧
      AgreesThroughout (IncrementalRunner.program parse batchSize)
        .incremental :=
  ⟨agreesThroughout_of_follows
      (BackfillRunner.program_follows parse batchSize) ⟨rfl, rfl⟩,
    agreesThroughout_of_follows
      (IncrementalRunner.program_follows parse batchSize) ⟨rfl, rfl⟩⟩

/-- A backfill of an empty table is launched and reaches its fetch. -/
def sampleFetch : List RunnerProgram.Event :=
  [.act 0 (.serve 0), .act 0 (.turn 0), .act 0 (.serve 0),
    .act 0 (.turn 0)]

/-- The runner is paused, and `pause()` resolves. -/
def samplePause : List RunnerProgram.Event :=
  [.env .pause, .act 1 (.serve 0), .act 1 (.turn 0)]

/-- The empty fetch is answered, and the loop completes. -/
def sampleComplete : List RunnerProgram.Event :=
  [.act 0 (.serve 0), .act 0 (.turn 0), .act 0 (.serve 0),
    .act 0 (.turn 0)]

/-- The launched backfill of an empty table, with the row of the schema. -/
def sampleOpening : World Nat BackfillRunner.Gauges :=
  settled
    ((BackfillRunner.program (fun _ => none) 1).launched []
      (some CheckpointManager.missingCheckpoint))

/-- The pause comes after the completion: both statuses are PAUSED. -/
theorem statuses_agree_completedBefore :
    ∃ reached,
      Run (machine (BackfillRunner.program (fun _ => none) 1)).step
        (Admits .backfill) sampleOpening
        (sampleFetch ++ sampleComplete ++ samplePause) reached ∧
      reached.shared.runner.memory.status = .paused ∧
      reached.shared.runner.checkpoint.map
          ReplicationCheckpoint.status = some .paused := by
  obtain ⟨reached, run, inactive, none, found, memory⟩ :
      ∃ reached,
        Run (machine (BackfillRunner.program (fun _ => none) 1)).step
          (Admits .backfill) sampleOpening
          (sampleFetch ++ sampleComplete ++ samplePause) reached ∧
        (∀ call ∈ reached.tasks, ¬ call.Active) ∧
        reached.shared.issued = [] ∧
        reached.shared.runner.checkpoint.isSome = true ∧
        reached.shared.runner.memory.status = .paused :=
    Run.exists_of_replay _ (by decide)
  obtain ⟨row, isRow⟩ := Option.isSome_iff_exists.mp found
  have agrees : Agrees reached :=
    (statuses_agree (fun _ => Option.none) 1).1 sampleOpening _ reached
      ⟨[], _, .inl rfl⟩ run
  have same := agrees inactive none row isRow
  refine ⟨reached, run, memory, ?_⟩
  rw [isRow, Option.map_some, same, memory]

/--
The pause comes during the last fetch: in memory the runner is PAUSED, and the
column says COMPLETED.
-/
theorem completed_after_pause_disagrees :
    ∃ reached,
      Run (machine (BackfillRunner.program (fun _ => none) 1)).step OneLoop
        sampleOpening (sampleFetch ++ samplePause ++ sampleComplete)
        reached ∧
      ¬ Agrees reached := by
  obtain ⟨reached, run, inactive, none, column, memory⟩ :
      ∃ reached,
        Run (machine (BackfillRunner.program (fun _ => none) 1)).step OneLoop
          sampleOpening (sampleFetch ++ samplePause ++ sampleComplete)
          reached ∧
        (∀ call ∈ reached.tasks, ¬ call.Active) ∧
        reached.shared.issued = [] ∧
        reached.shared.runner.checkpoint.map
            ReplicationCheckpoint.status = some .completed ∧
        reached.shared.runner.memory.status = .paused :=
    Run.exists_of_replay _ (by decide)
  refine ⟨reached, run, fun agrees => ?_⟩
  obtain ⟨row, found, completed⟩ := Option.map_eq_some_iff.mp column
  have same := agrees inactive none row found
  rw [completed, memory] at same
  cases same

end StatusAgreement

end Replication
