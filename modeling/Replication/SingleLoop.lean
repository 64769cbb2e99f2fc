import Replication.ZeroLoss

namespace Replication

/-!
# One loop at a time

The control API lets an operator resume a runner that is still running, and then
two loops share one cursor and one checkpoint row.  Commits are unconditional
updates, so the slower loop moves the persisted watermark back.  As long as no
loop is started while another one is active, the watermark only grows: the
single loop never carries a cursor behind the persisted one, and pause calls and
abandoned sink calls touch neither.
-/

variable {Cursor Gauges : Type}

namespace Call

/-- The call is an execution of `start` that has not ended. -/
def Active : Call Cursor → Prop
  | .updateStatus .paused _ => False
  | .orphan _ _ _ => False
  | .returned => False
  | _ => True

instance : DecidablePred (@Active Cursor)
  | .getCheckpoint _ => isTrue trivial
  | .updateStatus .initialized _ => isTrue trivial
  | .updateStatus .running _ => isTrue trivial
  | .updateStatus .paused _ => isFalse id
  | .updateStatus .completed _ => isTrue trivial
  | .updateStatus .failed _ => isTrue trivial
  | .getIncrementalLag _ _ => isTrue trivial
  | .fetchBatch _ _ => isTrue trivial
  | .dispatch _ _ _ => isTrue trivial
  | .persistFailures _ _ _ _ => isTrue trivial
  | .commitCheckpoint _ _ _ => isTrue trivial
  | .sleep => isTrue trivial
  | .orphan _ _ _ => isFalse id
  | .returned => isFalse id

end Call

/-- The control call does not start a loop while another one is active. -/
def SingleLoop
    (world : RunnerProgram.World Cursor Gauges) :
    RunnerProgram.Event → Prop
  | .env .start => ∀ call ∈ world.tasks, ¬ call.Active
  | _ => True

instance (world : RunnerProgram.World Cursor Gauges) :
    DecidablePred (SingleLoop world)
  | .env .start => inferInstanceAs (Decidable (∀ call ∈ world.tasks, _))
  | .env .pause => isTrue trivial
  | .env .kill => isTrue trivial
  | .act _ _ => isTrue trivial
  | .change _ => isTrue trivial

section Inactive

variable
  {program : RunnerProgram Cursor Gauges}
  {kind : RunnerKind}
  {codec : CursorCodec Cursor}
  {table : List SourceRow}
  {state after : RunnerState Cursor Gauges}
  {call next : Call Cursor}
  {action : Act}
  {spawned : List (Call Cursor)}

/-- What a rejected dispatch leaves behind is not a loop. -/
theorem not_active_of_mem_leftBehind
    {records : List SourceRecord}
    {esCall rmqCall : SinkCall}
    {new : Call Cursor}
    (member : new ∈ leftBehind records esCall rmqCall) :
    ¬ new.Active := by
  rcases mem_leftBehind member with ⟨rfl, _⟩ | ⟨rfl, _⟩
  · exact id
  · exact id

/-- No step spawns a loop. -/
theorem spawned_not_active
    (step :
      Step program kind codec table state call action after next spawned) :
    ∀ new ∈ spawned, ¬ new.Active := by
  cases step with
  | turn now turned =>
      cases turned with
      | dispatchFailed => exact fun _ => not_active_of_mem_leftBehind
      | dispatchRetried => exact fun _ => not_active_of_mem_leftBehind
      | _ => simp
  | _ => simp

/-- A step of anything but a loop leaves cursor and watermark alone. -/
theorem inactive_step
    (inactive : ¬ call.Active)
    (step :
      Step program kind codec table state call action after next spawned) :
    codec.persisted after.checkpoint = codec.persisted state.checkpoint ∧
      after.memory = state.memory ∧ ¬ next.Active := by
  cases step with
  | serve now served =>
      cases served with
      | status status =>
          cases status with
          | paused => exact ⟨codec.persisted_updateStatus _ _, rfl, id⟩
          | _ => exact (inactive trivial).elim
      | _ => exact (inactive trivial).elim
  | reject rejected =>
      cases rejected with
      | status status =>
          cases status with
          | paused => exact ⟨rfl, rfl, id⟩
          | _ => exact (inactive trivial).elim
      | _ => exact (inactive trivial).elim
  | begin sink begun =>
      cases begun with
      | orphan => exact ⟨rfl, rfl, id⟩
      | _ => exact (inactive trivial).elim
  | settle sink outcome settled =>
      cases settled with
      | orphan => exact ⟨rfl, rfl, id⟩
      | _ => exact (inactive trivial).elim
  | turn now turned =>
      cases turned with
      | statusWritten => exact ⟨rfl, rfl, id⟩
      | committing _ _ _ _ _ ready =>
          cases ready <;> exact (inactive trivial).elim
      | failed failure =>
          cases failure <;> exact (inactive trivial).elim
      | _ => exact (inactive trivial).elim

end Inactive

section Monotone

variable
  [LinearOrder Cursor]
  {program : RunnerProgram Cursor Gauges}
  {kind : RunnerKind}
  {codec : CursorCodec Cursor}

/-- The persisted watermark is not above the last record of the batch. -/
def AheadBatch
    (codec : CursorCodec Cursor)
    (state : RunnerState Cursor Gauges)
    (records : List SourceRecord) : Prop :=
  ∀ last, records.getLast? = some last →
    codec.persisted state.checkpoint ≤ codec.ofRecord last

/-- Nothing the call may commit is behind the persisted watermark. -/
def Ahead
    (codec : CursorCodec Cursor)
    (state : RunnerState Cursor Gauges) : Call Cursor → Prop
  | .getCheckpoint answer =>
      ∀ checkpoint, answer = .fulfilled checkpoint →
        codec.persisted state.checkpoint ≤ codec.ofCheckpoint checkpoint
  | .updateStatus status _ =>
      status = .running →
        codec.persisted state.checkpoint ≤ state.memory.cursor
  | .getIncrementalLag _ _ =>
      codec.persisted state.checkpoint ≤ state.memory.cursor
  | .fetchBatch cursor answer =>
      codec.persisted state.checkpoint ≤ state.memory.cursor ∧
        codec.persisted state.checkpoint ≤ cursor ∧
        ∀ records, answer = .fulfilled records →
          AheadBatch codec state records
  | .dispatch records _ _ =>
      codec.persisted state.checkpoint ≤ state.memory.cursor ∧
        records ≠ [] ∧ AheadBatch codec state records
  | .persistFailures records _ _ _ =>
      records ≠ [] ∧ AheadBatch codec state records
  | .commitCheckpoint _ data _ =>
      codec.persisted state.checkpoint ≤ codec.ofCommit data
  | .sleep => codec.persisted state.checkpoint ≤ state.memory.cursor
  | .orphan _ _ _ => True
  | .returned => True

/-- Only the watermark and the cursor in memory matter. -/
theorem Ahead.of_same
    {before after : RunnerState Cursor Gauges}
    {call : Call Cursor}
    (ahead : Ahead codec before call)
    (samePersisted :
      codec.persisted after.checkpoint = codec.persisted before.checkpoint)
    (sameMemory : after.memory.cursor = before.memory.cursor) :
    Ahead codec after call := by
  unfold Ahead AheadBatch
  rw [samePersisted, sameMemory]
  exact ahead

variable
  {table : List SourceRow}
  {state after : RunnerState Cursor Gauges}
  {call next : Call Cursor}

/-- A served statement of the loop moves the watermark at most forward. -/
theorem ahead_of_served
    (fetchesAbove : FetchesAbove program codec)
    (ahead : Ahead codec state call)
    {now : Int}
    (served : Served program table now state call after next) :
    codec.persisted state.checkpoint ≤ codec.persisted after.checkpoint ∧
      Ahead codec after next := by
  cases served with
  | checkpoint =>
      refine ⟨le_refl _, ?_⟩
      rintro checkpoint ⟨⟩
      exact le_refl _
  | status status =>
      refine ⟨le_of_eq (codec.persisted_updateStatus _ _).symm, ?_⟩
      intro running
      exact (codec.persisted_updateStatus _ _).trans_le (ahead running)
  | lag cursor =>
      exact ⟨le_refl _, ahead⟩
  | fetch cursor =>
      obtain ⟨own, parameter, _⟩ := ahead
      refine ⟨le_refl _, own, parameter, ?_⟩
      rintro records ⟨⟩ last isLast
      have above :=
        fetchesAbove table cursor last (List.mem_of_getLast? isLast)
      exact le_trans parameter (le_of_lt above)
  | persisted records esResult rmqResult stored =>
      exact ⟨le_refl _, ahead⟩
  | notPersisted records esResult rmqResult =>
      exact ⟨le_refl _, ahead⟩
  | committed records data =>
      rcases codec.persisted_commitCheckpoint data state.checkpoint with
        isData | ⟨_, unchanged⟩
      · exact ⟨le_of_le_of_eq ahead isData.symm, le_of_eq isData⟩
      · exact ⟨le_of_eq unchanged.symm, unchanged.trans_le ahead⟩

/-- A turn of the loop carries nothing behind the watermark. -/
theorem ahead_of_turn
    (ahead : Ahead codec state call)
    {memory : Memory Cursor Gauges}
    {orphans : List (Call Cursor)}
    (turned : Turn kind codec state.memory call memory next orphans)
    (sameMemory : after.memory = memory)
    (sameCheckpoint : after.checkpoint = state.checkpoint) :
    Ahead codec after next := by
  have looped :
      ∀ {entered : Memory Cursor Gauges},
        LoopHead kind entered memory next →
        codec.persisted state.checkpoint ≤ entered.cursor →
        Ahead codec after next := by
    intro entered head notBehind
    cases head with
    | stopped stop => trivial
    | fetch isBackfill go =>
        simpa [Ahead, sameMemory, sameCheckpoint] using notBehind
    | lag isIncremental go =>
        simpa [Ahead, sameMemory, sameCheckpoint] using notBehind
  cases turned with
  | load checkpoint go =>
      intro _
      rw [sameMemory, sameCheckpoint]
      exact ahead checkpoint rfl
  | enter answer gauges head =>
      exact looped head (ahead rfl)
  | measured cursor lag gauges isIncremental =>
      simpa [Ahead, sameMemory, sameCheckpoint] using ahead
  | idle cursor isIncremental =>
      simpa [Ahead, sameMemory, sameCheckpoint] using ahead.1
  | dispatched cursor records nonempty =>
      simpa [Ahead, AheadBatch, sameMemory, sameCheckpoint, nonempty]
        using And.intro ahead.1 (ahead.2.2 records rfl)
  | persisting records esResult rmqResult failures =>
      simpa [Ahead, AheadBatch, sameCheckpoint] using ahead.2
  | committing records esResult rmqResult data gauges ready commit =>
      have batch : records ≠ [] ∧ AheadBatch codec state records := by
        cases ready with
        | clean noFailures => exact ahead.2
        | persisted answer => exact ahead
      have isLast := List.getLast?_eq_some_getLast batch.1
      simpa [Ahead, sameCheckpoint, commit.cursor _ isLast] using
        batch.2 _ isLast
  | advanced records data answer head =>
      exact looped head ahead
  | advancedIdle records data answer isIncremental =>
      simpa [Ahead, sameMemory, sameCheckpoint] using ahead
  | woken isIncremental head =>
      exact looped head ahead
  | dispatchRetried records esCall rmqCall isIncremental rejected =>
      simpa [Ahead, sameMemory, sameCheckpoint] using ahead.1
  | completed cursor isBackfill => exact nofun
  | dispatchFailed records esCall rmqCall isBackfill rejected =>
      exact nofun
  | failed failure => exact nofun
  | loadStopped checkpoint stop => trivial
  | loadFailed => trivial
  | runningFailed => trivial
  | statusWritten status answer last => trivial
  | completedWritten answer isBackfill => trivial

/-- A step of the loop moves the watermark at most forward. -/
theorem ahead_of_step
    (fetchesAbove : FetchesAbove program codec)
    (ahead : Ahead codec state call)
    {action : Act}
    {spawned : List (Call Cursor)}
    (step :
      Step program kind codec table state call action after next spawned) :
    codec.persisted state.checkpoint ≤ codec.persisted after.checkpoint ∧
      Ahead codec after next := by
  cases step with
  | serve now served => exact ahead_of_served fetchesAbove ahead served
  | reject rejected =>
      refine ⟨le_refl _, ?_⟩
      cases rejected with
      | checkpoint => exact nofun
      | fetch cursor => exact ⟨ahead.1, ahead.2.1, nofun⟩
      | _ => exact ahead
  | begin sink begun =>
      refine ⟨le_refl _, ?_⟩
      cases begun <;> exact ahead
  | settle sink outcome settled =>
      refine ⟨le_refl _, ?_⟩
      cases settled <;> exact ahead
  | turn now turned =>
      exact ⟨le_refl _, ahead_of_turn ahead turned rfl rfl⟩

/-- At most one loop is active, and it is not behind the watermark. -/
abbrev SingleLoopInvariant
    (codec : CursorCodec Cursor) :
    RunnerProgram.World Cursor Gauges → Prop :=
  TaskMachine.ExclusiveInvariant Call.Active
    (fun _ _ => True) (fun _ state call => Ahead codec state call)

/-- Every step that starts no second loop keeps the invariant. -/
theorem singleLoop_step
    (follows : program.Follows kind codec)
    (fetchesAbove : FetchesAbove program codec)
    {before after : RunnerProgram.World Cursor Gauges}
    {event : RunnerProgram.Event}
    (holds : SingleLoopInvariant codec before)
    (admitted : SingleLoop before event)
    (taken : program.machine.step before event = some after) :
    SingleLoopInvariant codec after := by
  refine TaskMachine.ExclusiveInvariant.step ?_ ?_ ?_ ?_
    holds admitted taken
  · intro world index call action shared next spawned
      _ _ _ _ ahead moved
    have step := follows.act_spec moved
    exact ⟨trivial, fun _ => (ahead_of_step fetchesAbove ahead step).2,
      spawned_not_active step⟩
  · intro world index call action shared next spawned
      _ _ _ inactive moved
    have step := follows.act_spec moved
    obtain ⟨samePersisted, sameMemory, stillInactive⟩ :=
      inactive_step inactive step
    exact ⟨trivial, stillInactive, spawned_not_active step,
      fun other _ ahead => ahead.of_same samePersisted
        (congrArg Memory.cursor sameMemory)⟩
  · intro world event shared tasks worldHolds allowed moved
    cases event with
    | start =>
        cases moved
        refine ⟨trivial, .append_singleton allowed, ?_⟩
        intro call member active
        rcases List.mem_append.mp member with old | new
        · exact absurd active (allowed call old)
        · obtain rfl := List.mem_singleton.mp new
          exact nofun
    | pause =>
        cases moved
        refine ⟨trivial, worldHolds.atMostOne.append ?_, ?_⟩
        · intro call new
          obtain rfl := List.mem_singleton.mp new
          exact id
        · intro call member active
          rcases List.mem_append.mp member with old | new
          · exact (worldHolds.local_ call old active).of_same rfl rfl
          · obtain rfl := List.mem_singleton.mp new
            exact active.elim
    | kill =>
        cases moved
        exact .of_idle rfl trivial
  · intro world change context worldHolds _ _
    exact ⟨trivial, worldHolds.local_⟩

/-- Every such step moves the watermark at most forward. -/
theorem persisted_le_of_step
    (follows : program.Follows kind codec)
    (fetchesAbove : FetchesAbove program codec)
    {before after : RunnerProgram.World Cursor Gauges}
    {event : RunnerProgram.Event}
    (holds : SingleLoopInvariant codec before)
    (taken : program.machine.step before event = some after) :
    codec.persisted before.shared.checkpoint ≤
      codec.persisted after.shared.checkpoint := by
  cases event with
  | act index action =>
      obtain ⟨call, shared, next, spawned, found, moved, rfl⟩ :=
        TaskMachine.step_act taken
      have step := follows.act_spec moved
      by_cases active : call.Active
      · exact (ahead_of_step fetchesAbove
          (holds.local_ call (List.mem_of_getElem? found) active) step).1
      · exact le_of_eq (inactive_step active step).1.symm
  | env event =>
      obtain ⟨shared, tasks, moved, rfl⟩ := TaskMachine.step_env taken
      cases event <;> cases moved <;> exact le_refl _
  | change change =>
      obtain ⟨_, _, rfl⟩ := TaskMachine.step_change taken
      exact le_refl _

/-- Along a run without overlapping loops the watermark never decreases. -/
theorem persisted_le_of_run
    (follows : program.Follows kind codec)
    (fetchesAbove : FetchesAbove program codec)
    {table : List SourceRow}
    {checkpoint : Option ReplicationCheckpoint}
    {events laterEvents : List RunnerProgram.Event}
    {reached later : RunnerProgram.World Cursor Gauges}
    (run :
      Run program.machine.step SingleLoop
        (program.initial table checkpoint) events reached)
    (laterRun :
      Run program.machine.step SingleLoop reached laterEvents later) :
    codec.persisted reached.shared.checkpoint ≤
      codec.persisted later.shared.checkpoint := by
  have start :
      SingleLoopInvariant codec (program.initial table checkpoint) :=
    .of_idle rfl trivial
  have holds := run.invariant (SingleLoopInvariant codec)
    (singleLoop_step follows fetchesAbove) start
  exact laterRun.le_of_step_le (SingleLoopInvariant codec)
    (fun world => codec.persisted world.shared.checkpoint)
    (singleLoop_step follows fetchesAbove)
    (fun holds _ taken =>
      persisted_le_of_step follows fetchesAbove holds taken)
    holds

end Monotone

/--
As long as neither runner is started or resumed while one of its loops is
active, its persisted watermark never decreases, whatever is paused, killed,
rejected, or changed in the table.
-/
theorem watermark_monotone
    (parse : String → Option Json)
    (batchSize : Nat)
    (table : List SourceRow)
    (checkpoint : Option ReplicationCheckpoint)
    (events laterEvents : List RunnerProgram.Event) :
    (∀ reached later,
      Run (BackfillRunner.program parse batchSize).machine.step SingleLoop
        ((BackfillRunner.program parse batchSize).initial table checkpoint)
        events reached →
      Run (BackfillRunner.program parse batchSize).machine.step SingleLoop
        reached laterEvents later →
      BackfillRunner.codec.persisted reached.shared.checkpoint ≤
        BackfillRunner.codec.persisted later.shared.checkpoint) ∧
    ∀ reached later,
      Run (IncrementalRunner.program parse batchSize).machine.step
        SingleLoop
        ((IncrementalRunner.program parse batchSize).initial
          table checkpoint)
        events reached →
      Run (IncrementalRunner.program parse batchSize).machine.step
        SingleLoop reached laterEvents later →
      IncrementalRunner.codec.persisted reached.shared.checkpoint ≤
        IncrementalRunner.codec.persisted later.shared.checkpoint := by
  constructor
  · intro reached later run laterRun
    exact persisted_le_of_run
      (BackfillRunner.program_follows parse batchSize)
      (BackfillRunner.fetchesAbove parse batchSize) run laterRun
  · intro reached later run laterRun
    exact persisted_le_of_run
      (IncrementalRunner.program_follows parse batchSize)
      (IncrementalRunner.fetchesAbove parse batchSize) run laterRun

/-- A paused and resumed backfill commits its second row after its first. -/
def samplePause : List RunnerProgram.Event :=
  BackfillRunner.sampleStart ++
    [.env .pause,
      .act 0 (.settle .elasticsearch (some (sampleResult [1] []))),
      .act 0 (.settle .rabbitmq (some (sampleResult [1] []))),
      .act 0 (.turn 0), .act 0 (.serve 0)]

/-- The loop sees the stop and ends, and only then the runner is resumed. -/
def sampleResume : List RunnerProgram.Event :=
  [.act 0 (.turn 0), .env .start,
    .act 2 (.serve 0), .act 2 (.turn 0), .act 2 (.serve 0),
    .act 2 (.turn 0), .act 2 (.serve 0), .act 2 (.turn 0),
    .act 2 (.begin .elasticsearch), .act 2 (.begin .rabbitmq),
    .act 2 (.settle .elasticsearch (some (sampleResult [2] []))),
    .act 2 (.settle .rabbitmq (some (sampleResult [2] []))),
    .act 2 (.turn 0), .act 2 (.serve 0)]

/-- The watermark goes from the first row to the second. -/
theorem watermark_monotone_pausedOnce :
    ∃ reached later,
      BackfillRunner.codec.persisted reached.shared.checkpoint = 1 ∧
      BackfillRunner.codec.persisted later.shared.checkpoint = 2 ∧
      Run (BackfillRunner.program (fun _ => none) 1).machine.step
        SingleLoop reached sampleResume later ∧
      BackfillRunner.codec.persisted reached.shared.checkpoint ≤
        BackfillRunner.codec.persisted later.shared.checkpoint := by
  obtain ⟨reached, run, atOne, resumed⟩ :
      ∃ reached,
        Run (BackfillRunner.program (fun _ => none) 1).machine.step
          SingleLoop
          ((BackfillRunner.program (fun _ => none) 1).initial
            [sampleRow 1 0, sampleRow 2 0] none)
          samplePause reached ∧
        BackfillRunner.codec.persisted reached.shared.checkpoint = 1 ∧
        (replay (BackfillRunner.program (fun _ => none) 1).machine.step
          SingleLoop reached sampleResume).any
          (fun later =>
            BackfillRunner.codec.persisted later.shared.checkpoint = 2) =
          true :=
    Run.exists_of_replay _ (by decide)
  obtain ⟨later, laterRun, atTwo⟩ :=
    Run.exists_of_replay
      (fun later : BackfillRunner.World =>
        BackfillRunner.codec.persisted later.shared.checkpoint = 2)
      resumed
  exact ⟨reached, later, atOne, atTwo, laterRun,
    (watermark_monotone (fun _ => none) 1 _ _ _ _).1
      reached later run laterRun⟩

/-- Operators pause and resume; nothing is killed and no row changes. -/
def OperatorControl
    (_ : RunnerProgram.World Cursor Gauges) :
    RunnerProgram.Event → Prop
  | .env .kill => False
  | .change _ => False
  | _ => True

instance (world : RunnerProgram.World Cursor Gauges) :
    DecidablePred (OperatorControl world)
  | .env .start => isTrue trivial
  | .env .pause => isTrue trivial
  | .env .kill => isFalse id
  | .act _ _ => isTrue trivial
  | .change _ => isFalse id

/-- One batch of the call at that index, fetched and answered by both sinks. -/
def sampleBatch (index id : Nat) : List RunnerProgram.Event :=
  [.act index (.serve 0), .act index (.turn 0),
    .act index (.begin .elasticsearch), .act index (.begin .rabbitmq),
    .act index (.settle .elasticsearch (some (sampleResult [id] []))),
    .act index (.settle .rabbitmq (some (sampleResult [id] []))),
    .act index (.turn 0)]

/--
The runner is resumed while the commit of its first row is pending; the second
loop fetches the same row, and the first loop commits two rows meanwhile.
-/
def sampleOverlap : List RunnerProgram.Event :=
  [.env .start, .act 0 (.serve 0), .act 0 (.turn 0), .act 0 (.serve 0),
    .act 0 (.turn 0)] ++ sampleBatch 0 1 ++
  [.env .start, .act 1 (.serve 0), .act 1 (.turn 0), .act 1 (.serve 0),
    .act 1 (.turn 0)] ++ sampleBatch 1 1 ++
  [.act 0 (.serve 0), .act 0 (.turn 0)] ++ sampleBatch 0 2 ++
  [.act 0 (.serve 0)]

/-- Then the second loop commits and the watermark goes from two to one. -/
theorem watermark_decreases :
    ∃ reached later,
      Run (BackfillRunner.program (fun _ => none) 1).machine.step
        OperatorControl
        ((BackfillRunner.program (fun _ => none) 1).initial
          [sampleRow 1 0, sampleRow 2 0] none)
        sampleOverlap reached ∧
      Run (BackfillRunner.program (fun _ => none) 1).machine.step
        OperatorControl reached [.act 1 (.serve 0)] later ∧
      BackfillRunner.codec.persisted reached.shared.checkpoint = 2 ∧
      BackfillRunner.codec.persisted later.shared.checkpoint = 1 := by
  obtain ⟨reached, run, atTwo, resumed⟩ :
      ∃ reached,
        Run (BackfillRunner.program (fun _ => none) 1).machine.step
          OperatorControl
          ((BackfillRunner.program (fun _ => none) 1).initial
            [sampleRow 1 0, sampleRow 2 0] none)
          sampleOverlap reached ∧
        BackfillRunner.codec.persisted reached.shared.checkpoint = 2 ∧
        (replay (BackfillRunner.program (fun _ => none) 1).machine.step
          OperatorControl reached [.act 1 (.serve 0)]).any
          (fun later =>
            BackfillRunner.codec.persisted later.shared.checkpoint = 1) =
          true :=
    Run.exists_of_replay _ (by decide)
  obtain ⟨later, laterRun, atOne⟩ :=
    Run.exists_of_replay
      (fun later : BackfillRunner.World =>
        BackfillRunner.codec.persisted later.shared.checkpoint = 1)
      resumed
  exact ⟨reached, later, run, laterRun, atTwo, atOne⟩

end Replication
