import Replication.PauseQuiescence

namespace Replication.PipelineCoordinator

/-!
# Pausing both runners and closing their resources

`PipelineCoordinator.stop` calls `pause` on both runners, awaits both promises,
and then closes the sinks and the connection pool.  So it closes them under a
batch in flight whenever a pause that resolves leaves one running.

The two runners step independently and share the source table.  They are
parameters, so that what holds of one holds of the other by symmetry.
-/

variable {C G D H : Type}

/-- The two runners after `stop()` has called `pause()` on both. -/
structure Stopping (C G D H : Type) where
  backfill : RunnerProgram.World C G
  incremental : RunnerProgram.World D H
  /-- Position of the awaited `pause()` among the calls of each runner. -/
  backfillPause : Nat
  incrementalPause : Nat

/-- A step of a call of either runner, another pause, or a table change. -/
inductive StopEvent where
  | backfill (index : Nat) (action : Act)
  | incremental (index : Nat) (action : Act)
  | pauseBackfill
  | pauseIncremental
  | change (change : SourceChange)
  deriving Repr

/-- `stop()` up to its first await. -/
def stop
    (backfillRunner : RunnerProgram C G)
    (incrementalRunner : RunnerProgram D H)
    (backfill : RunnerProgram.World C G)
    (incremental : RunnerProgram.World D H) : Stopping C G D H where
  backfill := backfillRunner.paused backfill
  incremental := incrementalRunner.paused incremental
  backfillPause := backfill.tasks.length
  incrementalPause := incremental.tasks.length

/-- Take one step while `stop()` awaits the pauses. -/
def step
    (backfillRunner : RunnerProgram C G)
    (incrementalRunner : RunnerProgram D H)
    (world : Stopping C G D H) : StopEvent → Option (Stopping C G D H)
  | .backfill index action =>
      (backfillRunner.machine.step world.backfill (.act index action)).map
        fun backfill => { world with backfill }
  | .incremental index action =>
      (incrementalRunner.machine.step
          world.incremental (.act index action)).map
        fun incremental => { world with incremental }
  | .pauseBackfill =>
      (backfillRunner.machine.step world.backfill (.env .pause)).map
        fun backfill => { world with backfill }
  | .pauseIncremental =>
      (incrementalRunner.machine.step world.incremental (.env .pause)).map
        fun incremental => { world with incremental }
  | .change change =>
      (backfillRunner.machine.step world.backfill (.change change)).bind
        fun backfill =>
          (incrementalRunner.machine.step
              world.incremental (.change change)).map
            fun incremental => { world with backfill, incremental }

/-- Both awaited pauses have settled: `stop()` closes sinks and pool. -/
def Stopping.Closes (world : Stopping C G D H) : Prop :=
  world.backfill.tasks[world.backfillPause]? = some .returned ∧
    world.incremental.tasks[world.incrementalPause]? = some .returned

/-- A `stop()` called there closes nothing under a batch in flight. -/
def StopsCleanly
    (backfillRunner : RunnerProgram C G)
    (incrementalRunner : RunnerProgram D H)
    (backfill : RunnerProgram.World C G)
    (incremental : RunnerProgram.World D H) : Prop :=
  ∀ events later,
    Run (step backfillRunner incrementalRunner) (fun _ _ => True)
        (stop backfillRunner incrementalRunner backfill incremental)
        events later →
      later.Closes →
      (∀ call ∈ later.backfill.tasks, ¬ call.InFlight) ∧
        ∀ call ∈ later.incremental.tasks, ¬ call.InFlight

/-! ### The two runners are interchangeable -/

/-- The same pair with the runners interchanged. -/
def Stopping.swap (world : Stopping C G D H) : Stopping D H C G :=
  ⟨world.incremental, world.backfill, world.incrementalPause,
    world.backfillPause⟩

/-- The same event with the runners interchanged. -/
def StopEvent.swap : StopEvent → StopEvent
  | .backfill index action => .incremental index action
  | .incremental index action => .backfill index action
  | .pauseBackfill => .pauseIncremental
  | .pauseIncremental => .pauseBackfill
  | .change edit => .change edit

section Runners

variable
  {backfillRunner : RunnerProgram C G}
  {incrementalRunner : RunnerProgram D H}

/-- A step with the runners interchanged. -/
theorem step_swap
    {before after : Stopping C G D H}
    {event : StopEvent}
    (taken :
      step backfillRunner incrementalRunner before event = some after) :
    step incrementalRunner backfillRunner before.swap event.swap =
      some after.swap := by
  cases event with
  | change change =>
      obtain ⟨backfill, first, rest⟩ := Option.bind_eq_some_iff.mp taken
      obtain ⟨incremental, second, rfl⟩ := Option.map_eq_some_iff.mp rest
      simp only [step, Stopping.swap, StopEvent.swap]
      rw [second, Option.bind_some, first]
      rfl
  | _ =>
      simp only [step] at taken
      obtain ⟨next, moved, rfl⟩ := Option.map_eq_some_iff.mp taken
      simp only [step, Stopping.swap, StopEvent.swap, moved]
      rfl

/-- A run with the runners interchanged. -/
theorem run_swap
    {before after : Stopping C G D H}
    {events : List StopEvent}
    (run :
      Run (step backfillRunner incrementalRunner) (fun _ _ => True)
        before events after) :
    Run (step incrementalRunner backfillRunner) (fun _ _ => True)
      before.swap (events.map StopEvent.swap) after.swap := by
  induction run with
  | nil state => exact .nil state.swap
  | cons _ taken _ inductionHypothesis =>
      exact .cons trivial (step_swap taken) inductionHypothesis

/-- One more step of a run. -/
theorem exists_run_snoc
    {program : RunnerProgram C G}
    {initial before after : RunnerProgram.World C G}
    {event : RunnerProgram.Event}
    (run :
      ∃ events,
        Run program.machine.step NoRestart initial events before)
    (taken : program.machine.step before event = some after)
    (continues : NoRestart before event) :
    ∃ events, Run program.machine.step NoRestart initial events after := by
  obtain ⟨events, run⟩ := run
  exact ⟨_, run.append (.cons continues taken (.nil after))⟩

/-- What happens to the backfill runner is a run of that runner. -/
theorem exists_run_backfill
    {initial later : Stopping C G D H}
    {events : List StopEvent}
    (run :
      Run (step backfillRunner incrementalRunner) (fun _ _ => True)
        initial events later) :
    (∃ runnerEvents,
        Run backfillRunner.machine.step NoRestart
          initial.backfill runnerEvents later.backfill) ∧
      later.backfillPause = initial.backfillPause := by
  refine run.invariant
    (fun world =>
      (∃ runnerEvents,
          Run backfillRunner.machine.step NoRestart
            initial.backfill runnerEvents world.backfill) ∧
        world.backfillPause = initial.backfillPause)
    ?_ ⟨⟨[], .nil _⟩, rfl⟩
  rintro before event after ⟨soFar, position⟩ _ taken
  cases event with
  | backfill index action =>
      simp only [step] at taken
      obtain ⟨next, moved, rfl⟩ := Option.map_eq_some_iff.mp taken
      exact ⟨exists_run_snoc soFar moved trivial, position⟩
  | incremental index action =>
      simp only [step] at taken
      obtain ⟨next, moved, rfl⟩ := Option.map_eq_some_iff.mp taken
      exact ⟨soFar, position⟩
  | pauseBackfill =>
      simp only [step] at taken
      obtain ⟨next, moved, rfl⟩ := Option.map_eq_some_iff.mp taken
      exact ⟨exists_run_snoc soFar moved trivial, position⟩
  | pauseIncremental =>
      simp only [step] at taken
      obtain ⟨next, moved, rfl⟩ := Option.map_eq_some_iff.mp taken
      exact ⟨soFar, position⟩
  | change change =>
      obtain ⟨backfill, moved, rest⟩ := Option.bind_eq_some_iff.mp taken
      obtain ⟨incremental, _, rfl⟩ := Option.map_eq_some_iff.mp rest
      exact ⟨exists_run_snoc soFar moved trivial, position⟩

/-- A run of the backfill runner, while the calls of the other one wait. -/
theorem exists_lift_backfill
    {before after : RunnerProgram.World C G}
    {events : List RunnerProgram.Event}
    (run :
      Run backfillRunner.machine.step NoRestart before events after)
    {world : Stopping C G D H}
    (same : world.backfill = before)
    (shares : world.backfill.context = world.incremental.context) :
    ∃ stopEvents incremental,
      Run (step backfillRunner incrementalRunner) (fun _ _ => True)
          world stopEvents
          { world with backfill := after, incremental } ∧
        incremental.tasks = world.incremental.tasks ∧
        after.context = incremental.context := by
  induction run generalizing world with
  | nil state =>
      subst same
      exact ⟨[], world.incremental, .nil world, rfl, shares⟩
  | @cons before middle after event rest continues taken _
      inductionHypothesis =>
      subst same
      cases event with
      | act index action =>
          have moved :
              step backfillRunner incrementalRunner world
                  (.backfill index action) =
                some { world with backfill := middle } :=
            Option.map_eq_some_iff.mpr ⟨middle, taken, rfl⟩
          obtain ⟨_, _, _, _, _, _, rfl⟩ := TaskMachine.step_act taken
          obtain ⟨stopEvents, incremental, lifted, rest⟩ :=
            @inductionHypothesis { world with backfill := _ } rfl shares
          exact ⟨_, incremental, .cons trivial moved lifted, rest⟩
      | env control =>
          cases control with
          | start => exact continues.elim
          | kill => exact continues.elim
          | pause =>
              have moved :
                  step backfillRunner incrementalRunner world
                      .pauseBackfill =
                    some { world with backfill := middle } := by
                simp only [step, taken]
                rfl
              obtain ⟨_, _, _, rfl⟩ := TaskMachine.step_env taken
              obtain ⟨stopEvents, incremental, lifted, rest⟩ :=
                @inductionHypothesis { world with backfill := _ } rfl shares
              exact ⟨_, incremental, .cons trivial moved lifted, rest⟩
      | change change =>
          obtain ⟨table, applied, rfl⟩ := TaskMachine.step_change taken
          have alsoTaken :
              incrementalRunner.machine.step
                  world.incremental (.change change) =
                some { world.incremental with context := table } := by
            have sameTable :
                change.apply world.incremental.context = some table :=
              shares ▸ applied
            simp [TaskMachine.step, RunnerProgram.machine, sameTable]
          have moved :
              step backfillRunner incrementalRunner world
                  (.change change) =
                some { world with
                  backfill := { world.backfill with context := table }
                  incremental :=
                    { world.incremental with context := table } } := by
            simp only [step, taken, alsoTaken]
            rfl
          obtain ⟨stopEvents, incremental, lifted, rest⟩ :=
            @inductionHypothesis
              { world with
                backfill := { world.backfill with context := table }
                incremental :=
                  { world.incremental with context := table } } rfl rfl
          exact ⟨_, incremental, .cons trivial moved lifted, rest⟩

/-- A run of the incremental runner, while the calls of the other one wait. -/
theorem exists_lift_incremental
    {before after : RunnerProgram.World D H}
    {events : List RunnerProgram.Event}
    (run :
      Run incrementalRunner.machine.step NoRestart before events after)
    {world : Stopping C G D H}
    (same : world.incremental = before)
    (shares : world.backfill.context = world.incremental.context) :
    ∃ stopEvents backfill,
      Run (step backfillRunner incrementalRunner) (fun _ _ => True)
          world stopEvents
          { world with backfill, incremental := after } ∧
        backfill.tasks = world.backfill.tasks := by
  obtain ⟨stopEvents, backfill, lifted, tasks, _⟩ :=
    @exists_lift_backfill _ _ _ _ incrementalRunner backfillRunner
      _ _ _ run world.swap same shares.symm
  exact ⟨_, backfill, run_swap lifted, tasks⟩

/-- What happens to the incremental runner is a run of that runner. -/
theorem exists_run_incremental
    {initial later : Stopping C G D H}
    {events : List StopEvent}
    (run :
      Run (step backfillRunner incrementalRunner) (fun _ _ => True)
        initial events later) :
    (∃ runnerEvents,
        Run incrementalRunner.machine.step NoRestart
          initial.incremental runnerEvents later.incremental) ∧
      later.incrementalPause = initial.incrementalPause :=
  exists_run_backfill (run_swap run)

/-- Stopping cleanly does not depend on the order of the runners. -/
theorem StopsCleanly.swap
    {backfill : RunnerProgram.World C G}
    {incremental : RunnerProgram.World D H}
    (clean :
      StopsCleanly backfillRunner incrementalRunner backfill incremental) :
    StopsCleanly incrementalRunner backfillRunner incremental backfill := by
  intro events later run closes
  exact (clean _ later.swap (run_swap run) closes.symm).symm

/-- A clean stop finds every call of the backfill runner parked. -/
theorem StopsCleanly.parked
    {kind otherKind : RunnerKind}
    (proceeds : Proceeds backfillRunner kind)
    (otherProceeds : Proceeds incrementalRunner otherKind)
    {backfill : RunnerProgram.World C G}
    {incremental : RunnerProgram.World D H}
    (shares : backfill.context = incremental.context)
    (fits : ∀ call ∈ backfill.tasks, Fits kind call)
    (clean :
      StopsCleanly backfillRunner incrementalRunner backfill incremental) :
    ∀ call ∈ backfill.tasks, call.Parked := by
  intro call member
  by_contra unparked
  have callFits :
      ∀ cursor answer, call = .getIncrementalLag cursor answer →
        kind = .incremental := by
    rintro _ _ rfl
    exact fits _ member
  obtain ⟨_, resolved, run, returned, busy, inTasks, inFlight⟩ :=
    exists_inFlight_of_not_parked proceeds member callFits unparked
  -- the pause of the other runner resolves afterwards
  obtain ⟨_, waiting, first, waitingTasks, sameTable⟩ :=
    @exists_lift_backfill _ _ _ _ backfillRunner incrementalRunner
      _ _ _ run
      (stop backfillRunner incrementalRunner backfill incremental)
      rfl shares
  have pause :
      waiting.tasks[incremental.tasks.length]? =
        some (.updateStatus .paused .pending) := by
    rw [waitingTasks]
    exact List.getElem?_concat_length
  obtain ⟨_, otherResolved, otherRun, otherTasks⟩ :=
    exists_resolved otherProceeds pause
  obtain ⟨_, kept, second, keptTasks⟩ :=
    @exists_lift_incremental _ _ _ _ backfillRunner incrementalRunner
      _ _ _ otherRun ⟨resolved, waiting, _, _⟩ rfl sameTable
  have closes :
      Stopping.Closes
        (⟨kept, otherResolved, backfill.tasks.length,
          incremental.tasks.length⟩ : Stopping C G D H) := by
    refine ⟨?_, ?_⟩
    · simpa [keptTasks] using returned
    · simp only [otherTasks]
      exact List.getElem?_set_self
        (List.getElem?_eq_some_iff.mp pause).1
  have quiet := (clean _ _ (first.append second) closes).1
  simp only [keptTasks] at quiet
  exact quiet busy inTasks inFlight

/-- `stop` closes cleanly exactly when it finds every call parked. -/
theorem stopsCleanly_iff
    {kind otherKind : RunnerKind}
    {codec : CursorCodec C}
    {otherCodec : CursorCodec D}
    (follows : backfillRunner.Follows kind codec)
    (otherFollows : incrementalRunner.Follows otherKind otherCodec)
    (proceeds : Proceeds backfillRunner kind)
    (otherProceeds : Proceeds incrementalRunner otherKind)
    {backfill : RunnerProgram.World C G}
    {incremental : RunnerProgram.World D H}
    (shares : backfill.context = incremental.context)
    (fits : ∀ call ∈ backfill.tasks, Fits kind call)
    (otherFits : ∀ call ∈ incremental.tasks, Fits otherKind call) :
    StopsCleanly backfillRunner incrementalRunner backfill incremental ↔
      (∀ call ∈ backfill.tasks, call.Parked) ∧
        ∀ call ∈ incremental.tasks, call.Parked := by
  constructor
  · intro clean
    exact ⟨clean.parked proceeds otherProceeds shares fits,
      clean.swap.parked otherProceeds proceeds shares.symm otherFits⟩
  · rintro ⟨parked, otherParked⟩ events later run ⟨returned, otherReturned⟩
    obtain ⟨⟨_, backfillRun⟩, position⟩ := exists_run_backfill run
    obtain ⟨⟨_, incrementalRun⟩, otherPosition⟩ :=
      exists_run_incremental run
    rw [position] at returned
    rw [otherPosition] at otherReturned
    exact ⟨
      (quiesces_of_parked follows parked _ _ backfillRun returned).1,
      (quiesces_of_parked otherFollows otherParked _ _
        incrementalRun otherReturned).1⟩

end Runners

/--
A `pause()` quiesces either runner, and a `stop()` closes nothing under a batch
in flight, exactly when it finds every call parked.
-/
theorem pause_quiesces_iff_parked
    {parse : String → Option Json}
    {batchSize : Nat}
    {table : List SourceRow}
    {backfillRow incrementalRow : Option ReplicationCheckpoint}
    {backfillEvents incrementalEvents : List RunnerProgram.Event}
    {backfill : BackfillRunner.World}
    {incremental : IncrementalRunner.World}
    (backfillRun :
      Run (BackfillRunner.program parse batchSize).machine.step
        (fun _ _ => True)
        ((BackfillRunner.program parse batchSize).initial
          table backfillRow) backfillEvents backfill)
    (incrementalRun :
      Run (IncrementalRunner.program parse batchSize).machine.step
        (fun _ _ => True)
        ((IncrementalRunner.program parse batchSize).initial
          table incrementalRow) incrementalEvents incremental)
    (sameTable : backfill.context = incremental.context) :
    ((BackfillRunner.program parse batchSize).Quiesces
        BackfillRunner.codec backfill ↔
      ∀ call ∈ backfill.tasks, call.Parked) ∧
    ((IncrementalRunner.program parse batchSize).Quiesces
        IncrementalRunner.codec incremental ↔
      ∀ call ∈ incremental.tasks, call.Parked) ∧
    (StopsCleanly (BackfillRunner.program parse batchSize)
        (IncrementalRunner.program parse batchSize)
        backfill incremental ↔
      (∀ call ∈ backfill.tasks, call.Parked) ∧
        ∀ call ∈ incremental.tasks, call.Parked) := by
  have backfillFits : ∀ call ∈ backfill.tasks, Fits .backfill call :=
    backfillRun.invariant
      (fun world => ∀ call ∈ world.tasks, Fits .backfill call)
      (fun fits _ taken =>
        fits_step (BackfillRunner.program_follows parse batchSize) fits
          taken)
      (List.forall_mem_nil _)
  have incrementalFits :
      ∀ call ∈ incremental.tasks, Fits .incremental call :=
    incrementalRun.invariant
      (fun world => ∀ call ∈ world.tasks, Fits .incremental call)
      (fun fits _ taken =>
        fits_step (IncrementalRunner.program_follows parse batchSize) fits
          taken)
      (List.forall_mem_nil _)
  refine ⟨?_, ?_, ?_⟩
  · exact quiesces_iff (BackfillRunner.program_follows parse batchSize)
      (BackfillRunner.proceeds parse batchSize) backfillFits
  · exact quiesces_iff (IncrementalRunner.program_follows parse batchSize)
      (IncrementalRunner.proceeds parse batchSize) incrementalFits
  · exact stopsCleanly_iff
      (BackfillRunner.program_follows parse batchSize)
      (IncrementalRunner.program_follows parse batchSize)
      (BackfillRunner.proceeds parse batchSize)
      (IncrementalRunner.proceeds parse batchSize)
      sameTable backfillFits incrementalFits

/-- A backfill runner with batches of one row. -/
abbrev sampleBackfill : RunnerProgram Nat BackfillRunner.Gauges :=
  BackfillRunner.program (fun _ => none) 1

/-- An incremental runner with batches of one row. -/
abbrev sampleIncremental :
    RunnerProgram Watermark IncrementalRunner.Gauges :=
  IncrementalRunner.program (fun _ => none) 1

/-- One row is with both sinks; the incremental runner has not started. -/
theorem pause_quiesces_iff_parked_sample :
    ∃ backfill : BackfillRunner.World,
      Run sampleBackfill.machine.step (fun _ _ => True)
        (sampleBackfill.initial [sampleRow 1 0] none)
        BackfillRunner.sampleStart backfill ∧
      ¬ sampleBackfill.Quiesces BackfillRunner.codec backfill ∧
      sampleIncremental.Quiesces IncrementalRunner.codec
        (sampleIncremental.initial [sampleRow 1 0] none) := by
  obtain ⟨backfill, replayed⟩ :
      ∃ backfill,
        replay sampleBackfill.machine.step (fun _ _ => True)
          (sampleBackfill.initial [sampleRow 1 0] none)
          BackfillRunner.sampleStart = some backfill :=
    ⟨_, rfl⟩
  obtain ⟨backfillIff, incrementalIff, _⟩ :=
    pause_quiesces_iff_parked (.of_replay replayed)
      (.nil (sampleIncremental.initial [sampleRow 1 0] none))
      (by cases replayed; rfl)
  have busy : ∃ call ∈ backfill.tasks, call.InFlight := by
    cases replayed
    exact ⟨_, List.mem_singleton_self _, trivial⟩
  refine ⟨backfill, .of_replay replayed, fun quiesces => ?_,
    incrementalIff.mpr (List.forall_mem_nil _)⟩
  obtain ⟨call, inTasks, inFlight⟩ := busy
  exact (backfillIff.mp quiesces call inTasks).not_inFlight inFlight

/-- The status update of `pause()` is executed, and `pause()` resolves. -/
def sampleResolve : List RunnerProgram.Event :=
  [.act 1 (.serve 0), .act 1 (.turn 0)]

/-- Both sinks acknowledge the batch, and its commit is executed. -/
def sampleCommit : List RunnerProgram.Event :=
  [.act 0 (.settle .elasticsearch (some (sampleResult [1] []))),
    .act 0 (.settle .rabbitmq (some (sampleResult [1] []))),
    .act 0 (.turn 0), .act 0 (.serve 0)]

/-- The batch is committed after `pause()` has resolved. -/
theorem commit_after_resolved_pause :
    ∃ backfill resolved later : BackfillRunner.World,
      Run sampleBackfill.machine.step SingleLoop
        (sampleBackfill.initial [sampleRow 1 0] none)
        BackfillRunner.sampleStart backfill ∧
      Run sampleBackfill.machine.step NoRestart
        (sampleBackfill.paused backfill) sampleResolve resolved ∧
      resolved.tasks[backfill.tasks.length]? = some .returned ∧
      Run sampleBackfill.machine.step NoRestart
        resolved sampleCommit later ∧
      BackfillRunner.codec.persisted resolved.shared.checkpoint = 0 ∧
      BackfillRunner.codec.persisted later.shared.checkpoint = 1 ∧
      ¬ sampleBackfill.Quiesces BackfillRunner.codec backfill := by
  obtain ⟨backfill, run, replayed⟩ :
      ∃ backfill,
        Run sampleBackfill.machine.step SingleLoop
          (sampleBackfill.initial [sampleRow 1 0] none)
          BackfillRunner.sampleStart backfill ∧
        (replay sampleBackfill.machine.step NoRestart
          (sampleBackfill.paused backfill) sampleResolve).any
          (fun resolved =>
            resolved.tasks[backfill.tasks.length]?.any
                Call.isReturned = true ∧
              (∃ call ∈ resolved.tasks, call.InFlight) ∧
              BackfillRunner.codec.persisted
                resolved.shared.checkpoint = 0 ∧
              (replay sampleBackfill.machine.step NoRestart
                resolved sampleCommit).any
                (fun later =>
                  BackfillRunner.codec.persisted
                    later.shared.checkpoint = 1) = true) = true :=
    Run.exists_of_replay _ (by decide)
  obtain ⟨resolved, resolving, returned, busy, before, replayed⟩ :=
    Run.exists_of_replay _ replayed
  obtain ⟨later, committing, after⟩ := Run.exists_of_replay _ replayed
  have isReturned := Call.any_isReturned_iff.mp returned
  refine ⟨backfill, resolved, later, run, resolving, isReturned,
    committing, before, after, fun quiesces => ?_⟩
  obtain ⟨call, inTasks, inFlight⟩ := busy
  exact (quiesces _ resolved resolving isReturned).1 call inTasks inFlight

end Replication.PipelineCoordinator
