import Replication.SingleLoop

namespace Replication

/-!
# Outstanding sink calls

`Promise.all` rejects with its first rejection and leaves the other sink call
running.  The incremental runner then sleeps for one poll interval and fetches
again, whether or not that call has settled, so calls of earlier iterations pile
up behind a slow sink.  If the loop wakes up only when nothing is left running,
no fetch is ever issued beside an outstanding call.
-/

variable {Cursor Gauges : Type}

namespace Call

/-- A call of that sink is waiting in its breaker or running. -/
def Outstanding (sink : Sink) : Call Cursor → Prop
  | .dispatch _ esCall rmqCall =>
      match sink with
      | .elasticsearch => esCall.Outstanding
      | .rabbitmq => rmqCall.Outstanding
  | .orphan owner _ call => owner = sink ∧ call.Outstanding
  | _ => False

instance (sink : Sink) : DecidablePred (@Outstanding Cursor sink)
  | .dispatch _ esCall rmqCall =>
      match sink with
      | .elasticsearch => inferInstanceAs (Decidable esCall.Outstanding)
      | .rabbitmq => inferInstanceAs (Decidable rmqCall.Outstanding)
  | .orphan _ _ _ => inferInstanceAs (Decidable (_ ∧ _))
  | .getCheckpoint _ => isFalse id
  | .updateStatus _ _ => isFalse id
  | .getIncrementalLag _ _ => isFalse id
  | .fetchBatch _ _ => isFalse id
  | .persistFailures _ _ _ _ => isFalse id
  | .commitCheckpoint _ _ _ => isFalse id
  | .sleep => isFalse id
  | .returned => isFalse id

/-- The call is inside a fetch. -/
def Fetching : Call Cursor → Prop
  | .fetchBatch _ _ => True
  | _ => False

instance : DecidablePred (@Fetching Cursor)
  | .fetchBatch _ _ => isTrue trivial
  | .getCheckpoint _ => isFalse id
  | .updateStatus _ _ => isFalse id
  | .getIncrementalLag _ _ => isFalse id
  | .dispatch _ _ _ => isFalse id
  | .persistFailures _ _ _ _ => isFalse id
  | .commitCheckpoint _ _ _ => isFalse id
  | .sleep => isFalse id
  | .orphan _ _ _ => isFalse id
  | .returned => isFalse id

/-- A call whose dispatch has been rejected is still outstanding. -/
def LeftRunning : Call Cursor → Prop
  | .orphan _ _ call => call.Outstanding
  | _ => False

instance : DecidablePred (@LeftRunning Cursor)
  | .orphan _ _ call => inferInstanceAs (Decidable call.Outstanding)
  | .getCheckpoint _ => isFalse id
  | .updateStatus _ _ => isFalse id
  | .getIncrementalLag _ _ => isFalse id
  | .fetchBatch _ _ => isFalse id
  | .dispatch _ _ _ => isFalse id
  | .persistFailures _ _ _ _ => isFalse id
  | .commitCheckpoint _ _ _ => isFalse id
  | .sleep => isFalse id
  | .returned => isFalse id

/-- The loop is active and not asleep. -/
def Awake : Call Cursor → Prop
  | .sleep => False
  | call => call.Active

/-- The call is the loop asleep. -/
def Asleep : Call Cursor → Prop
  | .sleep => True
  | _ => False

instance : DecidablePred (@Asleep Cursor)
  | .sleep => isTrue trivial
  | .getCheckpoint _ => isFalse id
  | .updateStatus _ _ => isFalse id
  | .getIncrementalLag _ _ => isFalse id
  | .fetchBatch _ _ => isFalse id
  | .dispatch _ _ _ => isFalse id
  | .persistFailures _ _ _ _ => isFalse id
  | .commitCheckpoint _ _ _ => isFalse id
  | .orphan _ _ _ => isFalse id
  | .returned => isFalse id

/-- An active loop is awake or asleep. -/
theorem awake_or_asleep
    {call : Call Cursor}
    (active : call.Active) :
    call.Awake ∨ call.Asleep := by
  cases call with
  | sleep => exact .inr trivial
  | _ => exact .inl active

/-- A loop that is awake is active. -/
theorem Awake.active
    {call : Call Cursor}
    (awake : call.Awake) :
    call.Active := by
  cases call with
  | sleep => exact awake.elim
  | _ => exact awake

/-- An outstanding call is one of the loop or left running. -/
theorem Outstanding.awake_or_leftRunning
    {sink : Sink}
    {call : Call Cursor}
    (outstanding : call.Outstanding sink) :
    call.Awake ∨ call.LeftRunning := by
  cases call with
  | dispatch records esCall rmqCall => exact .inl trivial
  | orphan owner records call => exact .inr outstanding.2
  | _ => exact outstanding.elim

end Call

/--
No second loop is started, and a sleeping loop is woken and a runner restarted
only when no call of an earlier iteration is left running.
-/
def RetriesAlone
    (world : RunnerProgram.World Cursor Gauges) :
    RunnerProgram.Event → Prop
  | .env .start =>
      ∀ call ∈ world.tasks, ¬ call.Active ∧ ¬ call.LeftRunning
  | .act index (.turn _) =>
      (∃ call ∈ world.tasks[index]?, call.Asleep) →
        ∀ call ∈ world.tasks, ¬ call.LeftRunning
  | _ => True

instance (world : RunnerProgram.World Cursor Gauges) :
    DecidablePred (RetriesAlone world)
  | .env .start => inferInstanceAs (Decidable (∀ call ∈ world.tasks, _))
  | .env .pause => isTrue trivial
  | .env .kill => isTrue trivial
  | .act _ (.serve _) => isTrue trivial
  | .act _ .reject => isTrue trivial
  | .act _ (.begin _) => isTrue trivial
  | .act _ (.settle _ _) => isTrue trivial
  | .act _ (.turn _) => inferInstanceAs (Decidable (_ → _))
  | .change _ => isTrue trivial

/-- What holds of the task list of a run that retries alone. -/
structure Backpressured (tasks : List (Call Cursor)) : Prop where
  single : TaskMachine.AtMostOne Call.Active tasks
  leftOne : TaskMachine.AtMostOne Call.LeftRunning tasks
  /-- While the loop is awake nothing is left running. -/
  alone :
    (∃ call ∈ tasks, call.Awake) → ∀ call ∈ tasks, ¬ call.LeftRunning

section Steps

variable
  {program : RunnerProgram Cursor Gauges}
  {codec : CursorCodec Cursor}
  {table : List SourceRow}
  {state after : RunnerState Cursor Gauges}
  {call next : Call Cursor}
  {action : Act}
  {spawned : List (Call Cursor)}

/-- A rejected dispatch leaves at most one call running. -/
theorem length_leftBehind_le_one
    {records : List SourceRecord}
    {esCall rmqCall : SinkCall}
    (rejected : esCall = .rejected ∨ rmqCall = .rejected) :
    (leftBehind records esCall rmqCall : List (Call Cursor)).length ≤ 1 := by
  unfold leftBehind
  have settled : ¬ SinkCall.rejected.Outstanding := by
    simp [SinkCall.Outstanding]
  rcases rejected with rfl | rfl
  · rw [if_neg settled]
    split <;> simp
  · rw [if_neg settled, List.append_nil]
    split <;> simp

/-- A step of the loop leaves calls running only by falling asleep. -/
theorem active_step
    (active : call.Active)
    (step :
      Step program .incremental codec table state call action
        after next spawned) :
    ¬ next.LeftRunning ∧
      (spawned = [] ∨
        call.Awake ∧ next = .sleep ∧ spawned.length ≤ 1) := by
  cases step with
  | serve now served => cases served <;> exact ⟨id, .inl rfl⟩
  | reject rejected => cases rejected <;> exact ⟨id, .inl rfl⟩
  | begin sink begun =>
      cases begun with
      | orphan => exact active.elim
      | _ => exact ⟨id, .inl rfl⟩
  | settle sink outcome settled =>
      cases settled with
      | orphan => exact active.elim
      | _ => exact ⟨id, .inl rfl⟩
  | turn now turned =>
      cases turned with
      | enter answer gauges head =>
          cases head <;> exact ⟨id, .inl rfl⟩
      | advanced records data answer head =>
          cases head <;> exact ⟨id, .inl rfl⟩
      | woken isIncremental head =>
          cases head <;> exact ⟨id, .inl rfl⟩
      | dispatchRetried records esCall rmqCall isIncremental rejected =>
          exact ⟨id,
            .inr ⟨trivial, rfl, length_leftBehind_le_one rejected⟩⟩
      | dispatchFailed _ _ _ isBackfill => cases isBackfill
      | _ => exact ⟨id, .inl rfl⟩

/-- A step of another call starts nothing. -/
theorem inactive_step_leftRunning
    (inactive : ¬ call.Active)
    (step :
      Step program .incremental codec table state call action
        after next spawned) :
    (next.LeftRunning → call.LeftRunning) ∧ spawned = [] := by
  cases step with
  | serve now served => cases served <;> exact ⟨False.elim, rfl⟩
  | reject rejected => cases rejected <;> exact ⟨False.elim, rfl⟩
  | begin sink begun =>
      cases begun with
      | orphan => exact ⟨fun _ => .inl rfl, rfl⟩
      | _ => exact (inactive trivial).elim
  | settle sink outcome settled =>
      cases settled with
      | orphan records settled =>
          refine ⟨fun left => ?_, rfl⟩
          cases settled <;> simp [Call.LeftRunning, SinkCall.Outstanding]
            at left
      | _ => exact (inactive trivial).elim
  | turn now turned =>
      cases turned with
      | statusWritten => exact ⟨False.elim, rfl⟩
      | committing _ _ _ _ _ ready =>
          cases ready <;> exact (inactive trivial).elim
      | failed failure =>
          cases failure <;> exact (inactive trivial).elim
      | _ => exact (inactive trivial).elim

/-- The task list after a step of the loop. -/
theorem Backpressured.resume_active
    {tasks : List (Call Cursor)}
    {index : Nat}
    (holds : Backpressured tasks)
    (found : tasks[index]? = some call)
    (active : call.Active)
    (wakesAlone :
      call.Asleep → ∀ other ∈ tasks, ¬ other.LeftRunning)
    (step :
      Step program .incremental codec table state call action
        after next spawned) :
    Backpressured (tasks.set index next ++ spawned) := by
  have single :
      TaskMachine.AtMostOne Call.Active
        (tasks.set index next ++ spawned) :=
    (holds.single.set found fun _ => active).append
      (spawned_not_active step)
  obtain ⟨notLeft, spawns⟩ := active_step active step
  have clear : ∀ other ∈ tasks, ¬ other.LeftRunning := by
    rcases Call.awake_or_asleep active with awake | asleep
    · exact holds.alone ⟨call, List.mem_of_getElem? found, awake⟩
    · exact wakesAlone asleep
  have setClear : ∀ other ∈ tasks.set index next, ¬ other.LeftRunning := by
    intro other member
    rcases List.mem_or_eq_of_mem_set member with old | rfl
    · exact clear other old
    · exact notLeft
  rcases spawns with rfl | ⟨_, rfl, atMost⟩
  · rw [List.append_nil] at single ⊢
    exact ⟨single, .of_none setClear, fun _ => setClear⟩
  · refine ⟨single, .append_of_length_le_one setClear atMost, ?_⟩
    -- the loop itself is asleep now, so nothing is awake
    rintro ⟨other, member, awake⟩
    have bound := (List.getElem?_eq_some_iff.mp found).1
    have asleep : Call.sleep ∈ tasks.set index .sleep ++ spawned :=
      List.mem_append_left _ (List.mem_set bound .sleep)
    obtain rfl := single.eq_of_mem member asleep awake.active trivial
    exact awake.elim

/-- The task list after a step of another call. -/
theorem Backpressured.resume_inactive
    {tasks : List (Call Cursor)}
    {index : Nat}
    (holds : Backpressured tasks)
    (found : tasks[index]? = some call)
    (inactive : ¬ call.Active)
    (step :
      Step program .incremental codec table state call action
        after next spawned) :
    Backpressured (tasks.set index next ++ spawned) := by
  obtain ⟨left, rfl⟩ := inactive_step_leftRunning inactive step
  have stillInactive := (inactive_step inactive step).2.2
  rw [List.append_nil]
  refine ⟨holds.single.set found fun nextActive =>
      (stillInactive nextActive).elim,
    holds.leftOne.set found left, ?_⟩
  rintro ⟨other, member, awake⟩ leftover leftMember leftRunning
  have clear : ∀ call ∈ tasks, ¬ call.LeftRunning := by
    rcases List.mem_or_eq_of_mem_set member with old | rfl
    · exact holds.alone ⟨other, old, awake⟩
    · exact (stillInactive awake.active).elim
  rcases List.mem_or_eq_of_mem_set leftMember with old | rfl
  · exact clear leftover old leftRunning
  · exact clear call (List.mem_of_getElem? found) (left leftRunning)

end Steps

/-- Every step that retries alone keeps the task list so. -/
theorem backpressured_step
    {program : RunnerProgram Cursor Gauges}
    {codec : CursorCodec Cursor}
    (follows : program.Follows .incremental codec)
    {before after : RunnerProgram.World Cursor Gauges}
    {event : RunnerProgram.Event}
    (holds : Backpressured before.tasks)
    (admitted : RetriesAlone before event)
    (taken : program.machine.step before event = some after) :
    Backpressured after.tasks := by
  cases event with
  | act index action =>
      obtain ⟨call, shared, next, spawned, found, moved, rfl⟩ :=
        TaskMachine.step_act taken
      have step := follows.act_spec moved
      by_cases active : call.Active
      · refine holds.resume_active found active ?_ step
        intro asleep
        cases step with
        | turn now turned => exact admitted ⟨call, found, asleep⟩
        | serve now served => cases served <;> exact asleep.elim
        | reject rejected => cases rejected <;> exact asleep.elim
        | begin sink begun => cases begun <;> exact asleep.elim
        | settle sink outcome settled =>
            cases settled <;> exact asleep.elim
      · exact holds.resume_inactive found active step
  | env event =>
      obtain ⟨shared, tasks, moved, rfl⟩ := TaskMachine.step_env taken
      cases event with
      | start =>
          cases moved
          have clear :
              ∀ call ∈ before.tasks ++ [.getCheckpoint .pending],
                ¬ call.LeftRunning := by
            intro call member
            rcases List.mem_append.mp member with old | new
            · exact (admitted call old).2
            · obtain rfl := List.mem_singleton.mp new
              exact id
          exact ⟨.append_singleton fun call member =>
              (admitted call member).1,
            .of_none clear, fun _ => clear⟩
      | pause =>
          cases moved
          have paused :
              ∀ call ∈ [(.updateStatus .paused .pending : Call Cursor)],
                ¬ call.Active ∧ ¬ call.LeftRunning := by
            intro call member
            obtain rfl := List.mem_singleton.mp member
            exact ⟨id, id⟩
          refine ⟨holds.single.append fun call member =>
              (paused call member).1,
            holds.leftOne.append fun call member =>
              (paused call member).2, ?_⟩
          rintro ⟨other, member, awake⟩ call callMember
          have old : other ∈ before.tasks := by
            rcases List.mem_append.mp member with old | new
            · exact old
            · exact absurd awake.active (paused other new).1
          rcases List.mem_append.mp callMember with isOld | new
          · exact holds.alone ⟨other, old, awake⟩ call isOld
          · exact (paused call new).2
      | kill =>
          cases moved
          exact ⟨.nil, .nil, fun _ => List.forall_mem_nil _⟩
  | change change =>
      obtain ⟨_, _, rfl⟩ := TaskMachine.step_change taken
      exact holds

/-- With nothing left running beside it, an outstanding call is the loop. -/
theorem Backpressured.outstanding_atMostOne
    {tasks : List (Call Cursor)}
    (holds : Backpressured tasks)
    (sink : Sink) :
    TaskMachine.AtMostOne (Call.Outstanding sink) tasks := by
  intro first second call other atFirst atSecond
    outstanding otherOutstanding
  have member := List.mem_of_getElem? atFirst
  have otherMember := List.mem_of_getElem? atSecond
  rcases outstanding.awake_or_leftRunning with awake | left
  · rcases otherOutstanding.awake_or_leftRunning with
      otherAwake | otherLeft
    · exact holds.single first second call other atFirst atSecond
        awake.active otherAwake.active
    · exact (holds.alone ⟨call, member, awake⟩ other otherMember
        otherLeft).elim
  · rcases otherOutstanding.awake_or_leftRunning with
      otherAwake | otherLeft
    · exact (holds.alone ⟨other, otherMember, otherAwake⟩ call member
        left).elim
    · exact holds.leftOne first second call other atFirst atSecond
        left otherLeft

namespace IncrementalRunner

/--
If the loop wakes up and is restarted only with nothing left running, no sink
call is outstanding whenever a fetch is, and at most one of each sink ever is.
-/
theorem no_fetch_beside_outstanding
    {parse : String → Option Json}
    {batchSize : Nat}
    {table : List SourceRow}
    {checkpoint : Option ReplicationCheckpoint}
    {events : List RunnerProgram.Event}
    {reached : World}
    (run :
      Run (program parse batchSize).machine.step RetriesAlone
        ((program parse batchSize).initial table checkpoint)
        events reached) :
    ((∃ loop ∈ reached.tasks, loop.Fetching) →
      ∀ call ∈ reached.tasks, ∀ sink, ¬ call.Outstanding sink) ∧
    ∀ sink, TaskMachine.AtMostOne (Call.Outstanding sink) reached.tasks := by
  have holds : Backpressured reached.tasks :=
    run.invariant (fun world => Backpressured world.tasks)
      (backpressured_step (program_follows parse batchSize))
      ⟨.nil, .nil, fun _ => List.forall_mem_nil _⟩
  refine ⟨?_, holds.outstanding_atMostOne⟩
  rintro ⟨loop, loopMember, fetching⟩ call member sink outstanding
  have awake : loop.Awake := by
    cases loop with
    | fetchBatch cursor answer => trivial
    | _ => exact fetching.elim
  rcases outstanding.awake_or_leftRunning with alsoAwake | left
  · -- the loop is at its fetch, not at a dispatch
    obtain rfl := holds.single.eq_of_mem member loopMember
      alsoAwake.active awake.active
    cases call with
    | fetchBatch cursor answer => exact outstanding.elim
    | _ => exact fetching.elim
  · exact holds.alone ⟨loop, loopMember, awake⟩ call member left

/-- Elasticsearch rejects, RabbitMQ settles late, and the loop polls again. -/
def sampleRetry (settled : List RunnerProgram.Event) :
    List RunnerProgram.Event :=
  sampleStart ++
    [.act 0 (.settle .elasticsearch none), .act 0 (.turn 0)] ++ settled ++
    [.act 0 (.turn 0), .act 0 (.serve 0), .act 0 (.turn 0)]

/-- The publish settles during the sleep: the next fetch is alone. -/
theorem no_fetch_beside_outstanding_settledAsleep :
    ∃ reached,
      (∃ loop ∈ reached.tasks, loop.Fetching) ∧
      Run (program (fun _ => none) 1).machine.step RetriesAlone
        ((program (fun _ => none) 1).initial [sampleRow 1 5] none)
        (sampleRetry
          [.act 1 (.settle .rabbitmq (some (sampleResult [1] [])))])
        reached ∧
      ∀ call ∈ reached.tasks, ∀ sink, ¬ call.Outstanding sink := by
  obtain ⟨reached, run, fetching⟩ :
      ∃ reached,
        Run (program (fun _ => none) 1).machine.step RetriesAlone
          ((program (fun _ => none) 1).initial [sampleRow 1 5] none)
          (sampleRetry
            [.act 1 (.settle .rabbitmq (some (sampleResult [1] [])))])
          reached ∧
        ∃ loop ∈ reached.tasks, loop.Fetching :=
    Run.exists_of_replay _ (by decide)
  exact ⟨reached, fetching, run,
    (no_fetch_beside_outstanding run).1 fetching⟩

/-- It does not: the next fetch is issued beside the running publish. -/
theorem fetch_beside_outstanding :
    ∃ reached,
      Run (program (fun _ => none) 1).machine.step SingleLoop
        ((program (fun _ => none) 1).initial [sampleRow 1 5] none)
        (sampleRetry []) reached ∧
      (∃ loop ∈ reached.tasks, loop.Fetching) ∧
      ∃ call ∈ reached.tasks, call.Outstanding .rabbitmq :=
  Run.exists_of_replay _ (by decide)

end IncrementalRunner

end Replication
