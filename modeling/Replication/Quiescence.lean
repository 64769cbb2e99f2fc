import Replication.SingleLoop

namespace Replication

/-!
# Quiescence by a cached count

`waitForPipelineQuiescence` returns when the telemetry says that the backfill is
COMPLETED and that no mutation lags behind.  The lag is a field of the
incremental runner: it was counted at the head of some earlier iteration, or it
is the zero of the constructor.  A count of zero speaks for the rows that were
there when the query was executed.  Since the watermark of a single loop never
goes back, it goes on speaking for them; of rows committed since it says nothing.
-/

variable {Cursor Gauges : Type}

section SyncedCursor

/--
The cursor in memory is the persisted watermark, in every call of the loop that
goes on with it.
-/
def Synced
    (codec : CursorCodec Cursor)
    (state : RunnerState Cursor Gauges) : Call Cursor → Prop
  | .getCheckpoint answer =>
      ∀ checkpoint, answer = .fulfilled checkpoint →
        state.checkpoint.isSome = true ∧
          codec.ofCheckpoint checkpoint = codec.persisted state.checkpoint
  | .updateStatus status _ =>
      status = .running →
        state.checkpoint.isSome = true ∧
          state.memory.cursor = codec.persisted state.checkpoint
  | .getIncrementalLag cursor _ =>
      state.checkpoint.isSome = true ∧
        state.memory.cursor = codec.persisted state.checkpoint ∧
        cursor = state.memory.cursor
  | .commitCheckpoint _ data answer =>
      state.checkpoint.isSome = true ∧
        ∀ done, answer = .fulfilled done →
          codec.ofCommit data = codec.persisted state.checkpoint
  | .orphan _ _ _ => True
  | .returned => True
  | _ =>
      state.checkpoint.isSome = true ∧
        state.memory.cursor = codec.persisted state.checkpoint

variable
  {program : RunnerProgram Cursor Gauges}
  {kind : RunnerKind}
  {codec : CursorCodec Cursor}
  {table : List SourceRow}
  {state after : RunnerState Cursor Gauges}
  {call next : Call Cursor}

/-- Only the watermark and the cursor in memory matter, if there is a row. -/
theorem Synced.of_same
    {before after : RunnerState Cursor Gauges}
    (synced : Synced codec before call)
    (row : before.checkpoint.isSome = true → after.checkpoint.isSome = true)
    (samePersisted :
      codec.persisted after.checkpoint = codec.persisted before.checkpoint)
    (sameMemory : after.memory = before.memory) :
    Synced codec after call := by
  unfold Synced at synced ⊢
  rw [samePersisted, sameMemory]
  cases call with
  | getCheckpoint answer =>
      exact fun checkpoint answered =>
        And.imp_left row (synced checkpoint answered)
  | updateStatus status answer =>
      exact fun running => And.imp_left row (synced running)
  | orphan => trivial
  | returned => trivial
  | _ => exact And.imp_left row synced

/-- A status update keeps the row. -/
theorem isSome_updateStatus
    {status : PipelineStatus}
    {row : Option ReplicationCheckpoint} :
    (CheckpointManager.updateStatus status row).isSome = row.isSome := by
  cases row <;> rfl

/-- No step of a runner deletes its row. -/
theorem isSome_of_step
    {action : Act}
    {spawned : List (Call Cursor)}
    (step :
      Step program kind codec table state call action after next spawned)
    (row : state.checkpoint.isSome = true) :
    after.checkpoint.isSome = true := by
  cases step with
  | serve now served =>
      cases served with
      | checkpoint => rfl
      | status status => exact isSome_updateStatus.trans row
      | committed records data =>
          obtain ⟨checkpoint, found⟩ := Option.isSome_iff_exists.mp row
          rw [found]
          rfl
      | _ => exact row
  | _ => exact row

/-- A served statement of the loop. -/
theorem synced_of_served
    (synced : Synced codec state call)
    {now : Int}
    (served : Served program table now state call after next) :
    Synced codec after next := by
  cases served with
  | checkpoint =>
      rintro checkpoint ⟨⟩
      exact ⟨rfl, rfl⟩
  | status status =>
      intro running
      obtain ⟨row, cursor⟩ := synced running
      exact ⟨isSome_updateStatus.trans row,
        cursor.trans (codec.persisted_updateStatus _ _).symm⟩
  | committed records data =>
      obtain ⟨checkpoint, found⟩ := Option.isSome_iff_exists.mp synced.1
      rw [found]
      exact ⟨rfl, fun _ _ => rfl⟩
  | lag => exact synced
  | fetch => exact synced
  | persisted => exact synced
  | notPersisted => exact synced

/-- A turn of the loop loads or advances the cursor to the watermark. -/
theorem synced_of_turn
    (synced : Synced codec state call)
    {memory : Memory Cursor Gauges}
    {orphans : List (Call Cursor)}
    (turned : Turn kind codec state.memory call memory next orphans)
    (sameMemory : after.memory = memory)
    (sameRow : after.checkpoint = state.checkpoint) :
    Synced codec after next := by
  have looped :
      ∀ {entered : Memory Cursor Gauges},
        LoopHead kind entered memory next →
        state.checkpoint.isSome = true →
        entered.cursor = codec.persisted state.checkpoint →
        Synced codec after next := by
    intro entered head row cursor
    cases head with
    | stopped stop => trivial
    | fetch isBackfill go =>
        simp [Synced, sameMemory, sameRow, row, cursor]
    | lag isIncremental go =>
        simp [Synced, sameMemory, sameRow, row, cursor]
  cases turned with
  | load checkpoint go =>
      intro _
      rw [sameMemory, sameRow]
      exact synced checkpoint rfl
  | enter answer gauges head =>
      obtain ⟨row, cursor⟩ := synced rfl
      exact looped head row cursor
  | advanced records data answer head =>
      exact looped head synced.1 (synced.2 _ rfl)
  | woken isIncremental head => exact looped head synced.1 synced.2
  | measured cursor lag gauges isIncremental =>
      simpa [Synced, sameMemory, sameRow] using
        And.intro synced.1 synced.2.1
  | idle => simpa [Synced, sameMemory, sameRow] using synced
  | dispatched => simpa [Synced, sameMemory, sameRow] using synced
  | persisting => simpa [Synced, sameMemory, sameRow] using synced
  | committing records esResult rmqResult data gauges ready commit =>
      have row : state.checkpoint.isSome = true := by
        cases ready <;> exact synced.1
      exact ⟨sameRow ▸ row, fun _ answered => nomatch answered⟩
  | advancedIdle records data answer isIncremental =>
      simpa [Synced, sameMemory, sameRow] using
        And.intro synced.1 (synced.2 _ rfl)
  | dispatchRetried => simpa [Synced, sameMemory, sameRow] using synced
  | completed => exact fun running => nomatch running
  | dispatchFailed => exact fun running => nomatch running
  | failed => exact fun running => nomatch running
  | loadStopped => trivial
  | loadFailed => trivial
  | runningFailed => trivial
  | statusWritten => trivial
  | completedWritten => trivial

/-- Every step of the loop. -/
theorem synced_of_step
    (synced : Synced codec state call)
    {action : Act}
    {spawned : List (Call Cursor)}
    (step :
      Step program kind codec table state call action after next spawned) :
    Synced codec after next := by
  cases step with
  | serve now served => exact synced_of_served synced served
  | reject rejected =>
      cases rejected with
      | checkpoint => exact fun _ answered => nomatch answered
      | commit => exact ⟨synced.1, fun _ answered => nomatch answered⟩
      | _ => exact synced
  | begin sink begun => cases begun <;> exact synced
  | settle sink outcome settled => cases settled <;> exact synced
  | turn now turned => exact synced_of_turn synced turned rfl rfl

/-- A turn keeps the cursor, or sets it to the persisted watermark. -/
theorem cursor_of_turn
    {memory : Memory Cursor Gauges}
    {orphans : List (Call Cursor)}
    (turned : Turn kind codec state.memory call memory next orphans)
    (synced : call.Active → Synced codec state call) :
    memory.cursor = state.memory.cursor ∨
      memory.cursor = codec.persisted state.checkpoint := by
  have head_cursor
      {entered : Memory Cursor Gauges}
      (head : LoopHead kind entered memory next) :
      memory.cursor = entered.cursor := by
    cases head <;> rfl
  cases turned with
  | loadStopped checkpoint stop =>
      exact .inr (synced trivial checkpoint rfl).2
  | load checkpoint go => exact .inr (synced trivial checkpoint rfl).2
  | enter answer gauges head => exact .inl ((head_cursor head).trans rfl)
  | advanced records data answer head =>
      exact .inr ((head_cursor head).trans ((synced trivial).2 _ rfl))
  | advancedIdle records data answer isIncremental =>
      exact .inr ((synced trivial).2 _ rfl)
  | woken isIncremental head => exact .inl ((head_cursor head).trans rfl)
  | _ => exact .inl rfl

/-- When one call takes a step, every call of the loop stays synced. -/
theorem synced_act
    {tasks spawned : List (Call Cursor)}
    {index : Nat}
    {action : Act}
    (loops : TaskMachine.AtMostOne Call.Active tasks)
    (synced : ∀ call ∈ tasks, call.Active → Synced codec state call)
    (found : tasks[index]? = some call)
    (step :
      Step program kind codec table state call action after next spawned) :
    ∀ other ∈ tasks.set index next ++ spawned,
      other.Active → Synced codec after other := by
  have notSpawned := spawned_not_active step
  intro other member otherActive
  by_cases active : call.Active
  · obtain rfl := loops.eq_next found active notSpawned member otherActive
    exact synced_of_step
      (synced call (List.mem_of_getElem? found) active) step
  · -- a call that is no loop changes neither the watermark nor the cursor
    obtain ⟨samePersisted, sameMemory, stillInactive⟩ :=
      inactive_step active step
    rcases TaskMachine.mem_set_append member with old | rfl | new
    · exact (synced other old otherActive).of_same (isSome_of_step step)
        samePersisted sameMemory
    · exact absurd otherActive stillInactive
    · exact absurd otherActive (notSpawned other new)

end SyncedCursor

namespace IncrementalRunner

/-- A call whose lag query has been answered, but not yet stored. -/
def Counted : Call Watermark → Prop
  | .getIncrementalLag _ (.fulfilled _) => True
  | _ => False

/-- A loop condition leaves the lag alone. -/
theorem gauges_loopHead (memory : Memory) :
    (loopHead memory).1.gauges = memory.gauges := by
  unfold loopHead
  split <;> rfl

/-- The cached lag is the last answer that was stored. -/
theorem gauges_of_turn
    {batchSize : Nat}
    {memory after : Memory}
    {now : Int}
    {call next : Call Watermark}
    {orphans : List (Call Watermark)}
    (turned :
      turn batchSize memory now call = some (after, next, orphans)) :
    (∃ cursor lag newest,
      call = .getIncrementalLag cursor (.fulfilled (lag, newest)) ∧
        after.gauges.currentLagRecords = lag ∧
        after.cursor = memory.cursor) ∨
      ¬ Counted call ∧ after.gauges = memory.gauges := by
  unfold turn at turned
  split at turned
  case h_9 cursor lag newest =>
    cases turned
    exact .inl ⟨cursor, lag, newest, rfl, rfl, rfl⟩
  case h_22 => cases turned
  all_goals refine .inr ⟨id, ?_⟩
  case h_1 => split at turned <;> cases turned <;> rfl
  case h_14 => split at turned <;> cases turned <;> rfl
  case h_19 =>
    split at turned <;> cases turned
    · rfl
    · exact gauges_loopHead _
  case h_3 => cases turned; exact gauges_loopHead memory
  case h_21 => cases turned; exact gauges_loopHead memory
  all_goals cases turned; rfl

end IncrementalRunner

namespace Quiescence

/-- The pipeline of one daemon, with what has been counted and asked. -/
structure World where
  backfill : BackfillRunner.World
  incremental : IncrementalRunner.World
  /-- The table when the last lag query was executed. -/
  counting : List SourceRow
  /-- The table that the cached lag was counted on. -/
  counted : List SourceRow
  /--
  Rows that were there when `waitForPipelineQuiescence` was called, and have not
  been overwritten since.
  -/
  committed : List SourceRow

/-- What one runner does. -/
inductive Move where
  | act (index : Nat) (action : Act)
  | start
  | pause
  deriving Repr

/-- The move as an event of the runner. -/
def Move.event : Move → RunnerProgram.Event
  | .act index action => .act index action
  | .start => .env .start
  | .pause => .env .pause

/-- A move of a runner, a restart, a commit of a client, or the wait. -/
inductive Event where
  | backfill (move : Move)
  | incremental (move : Move)
  | restart
  | change (change : SourceChange)
  | waitForPipelineQuiescence
  deriving Repr

/-- The fields of the telemetry that the wait looks at. -/
structure PipelineTelemetry where
  backfillStatus : PipelineStatus
  incrementalLagRecords : Nat
  deriving DecidableEq, Repr

/-- The metrics that `getTelemetry` takes from the two runners. -/
def getTelemetry (world : World) : PipelineTelemetry where
  backfillStatus := world.backfill.shared.memory.status
  incrementalLagRecords :=
    world.incremental.shared.memory.gauges.currentLagRecords

/-- `backfillDone && lagDrained`; this lag is always a number. -/
def quiesced
    (requireBackfillComplete : Bool)
    (telemetry : PipelineTelemetry) : Bool :=
  (!requireBackfillComplete ||
      telemetry.backfillStatus = .completed) &&
    telemetry.incrementalLagRecords = 0

/-- A served lag query counts; storing its answer caches the count. -/
def noteCount (world : World) : Call Watermark → Act → World
  | .getIncrementalLag _ .pending, .serve _ =>
      { world with counting := world.incremental.context }
  | .getIncrementalLag _ (.fulfilled _), .turn _ =>
      { world with counted := world.counting }
  | _, _ => world

/-- The counts after a move of the incremental runner. -/
def noteMove (world : World) : Move → World
  | .act index action =>
      match world.incremental.tasks[index]? with
      | some call => noteCount world call action
      | none => world
  | _ => world

/-- The rows that a change does not overwrite. -/
def untouched (rows : List SourceRow) : SourceChange → List SourceRow
  | .insert _ => rows
  | .update id _ => rows.filter fun row => row.id ≠ id

/-- Take one step of the pipeline. -/
def step
    (parse : String → Option Json)
    (batchSize : Nat)
    (world : World) : Event → Option World
  | .backfill move =>
      ((BackfillRunner.program parse batchSize).machine.step
          world.backfill move.event).map
        fun backfill => { world with backfill }
  | .incremental move =>
      ((IncrementalRunner.program parse batchSize).machine.step
          world.incremental move.event).map
        fun incremental => { noteMove world move with incremental }
  | .restart =>
      match
        (BackfillRunner.program parse batchSize).machine.step
          world.backfill (.env .kill),
        (IncrementalRunner.program parse batchSize).machine.step
          world.incremental (.env .kill) with
      | some backfill, some incremental =>
          some
            { backfill
              incremental
              counting := []
              counted := []
              committed := world.committed }
      | _, _ => none
  | .change change =>
      match
        (BackfillRunner.program parse batchSize).machine.step
          world.backfill (.change change),
        (IncrementalRunner.program parse batchSize).machine.step
          world.incremental (.change change) with
      | some backfill, some incremental =>
          some
            { world with
              backfill
              incremental
              committed := untouched world.committed change }
      | _, _ => none
  | .waitForPipelineQuiescence =>
      some { world with committed := world.incremental.context }

/-- A daemon that has just constructed both runners; nothing is counted. -/
def initial
    (parse : String → Option Json)
    (batchSize : Nat)
    (table : List SourceRow)
    (backfillRow incrementalRow : Option ReplicationCheckpoint) : World where
  backfill :=
    (BackfillRunner.program parse batchSize).initial table backfillRow
  incremental :=
    (IncrementalRunner.program parse batchSize).initial table incrementalRow
  counting := []
  counted := []
  committed := []

/-- The incremental runner is not started while its loop is active. -/
def OneIncrementalLoop (world : World) : Event → Prop
  | .incremental .start => ∀ call ∈ world.incremental.tasks, ¬ call.Active
  | _ => True

instance (world : World) : DecidablePred (OneIncrementalLoop world)
  | .incremental .start =>
      inferInstanceAs
        (Decidable (∀ call ∈ world.incremental.tasks, ¬ call.Active))
  | .incremental .pause => isTrue trivial
  | .incremental (.act _ _) => isTrue trivial
  | .backfill _ => isTrue trivial
  | .restart => isTrue trivial
  | .change _ => isTrue trivial
  | .waitForPipelineQuiescence => isTrue trivial

/--
The row was committed before the wait, and was not there when the cached lag was
counted.
-/
def Uncounted (world : World) (row : SourceRow) : Prop :=
  row ∈ world.committed ∧ row ∉ world.counted

/-- The incremental runner's current watermark. -/
def currentWatermark (world : World) : Watermark :=
  world.incremental.shared.memory.cursor

/-- The row is neither above the cursor nor above the persisted watermark. -/
def NotAbove
    (state : RunnerState Watermark IncrementalRunner.Gauges)
    (row : SourceRow) : Prop :=
  row.watermark ≤ state.memory.cursor ∧
    row.watermark ≤ IncrementalRunner.codec.persisted state.checkpoint

/-- The watermark moves forward, and the cursor stays or follows it. -/
theorem NotAbove.forward
    {before after : RunnerState Watermark IncrementalRunner.Gauges}
    {row : SourceRow}
    (notAbove : NotAbove before row)
    (persisted :
      IncrementalRunner.codec.persisted before.checkpoint ≤
        IncrementalRunner.codec.persisted after.checkpoint)
    (cursor :
      after.memory.cursor = before.memory.cursor ∨
        after.memory.cursor =
          IncrementalRunner.codec.persisted before.checkpoint) :
    NotAbove after row := by
  refine ⟨?_, le_trans notAbove.2 persisted⟩
  rcases cursor with same | loaded
  · exact same ▸ notAbove.1
  · exact loaded ▸ notAbove.2

/-- No row counted by a count of zero is above its watermark. -/
theorem le_of_count_zero
    {table : List SourceRow}
    {cursor : Watermark}
    (zero : (SourceReader.getIncrementalLag table cursor).1 = 0)
    {row : SourceRow}
    (member : row ∈ table) :
    row.watermark ≤ cursor := by
  rw [SourceReader.getIncrementalLag, SourceReader.incrementalRows_eq,
    List.length_eq_zero_iff, Keyset.rowsAbove, List.filter_eq_nil_iff] at zero
  simpa using zero row member

/-- What holds between the steps of the pipeline. -/
structure Sound (world : World) : Prop where
  single : SingleLoopInvariant IncrementalRunner.codec world.incremental
  synced :
    ∀ call ∈ world.incremental.tasks, call.Active →
      Synced IncrementalRunner.codec world.incremental.shared call
  counted :
    world.incremental.shared.memory.gauges.currentLagRecords = 0 →
      ∀ row ∈ world.counted, NotAbove world.incremental.shared row
  counting :
    ∀ cursor newest,
      .getIncrementalLag cursor (.fulfilled (0, newest)) ∈
          world.incremental.tasks →
        ∀ row ∈ world.counting, NotAbove world.incremental.shared row

section Steps

variable
  {parse : String → Option Json}
  {batchSize : Nat}
  {table : List SourceRow}
  {state after : RunnerState Watermark IncrementalRunner.Gauges}
  {call next : Call Watermark}
  {action : Act}
  {spawned : List (Call Watermark)}

open IncrementalRunner (Counted)

/-- No turn ends with an answered lag query. -/
theorem not_counted_of_turn
    {memory later : IncrementalRunner.Memory}
    (turned :
      Turn .incremental IncrementalRunner.codec memory call later next
        spawned) :
    ¬ Counted next := by
  have of_head
      {entered : IncrementalRunner.Memory}
      (head : LoopHead .incremental entered later next) :
      ¬ Counted next := by
    cases head <;> exact id
  cases turned with
  | enter answer gauges head => exact of_head head
  | advanced records data answer head => exact of_head head
  | woken isIncremental head => exact of_head head
  | _ => exact id

/-- What a step can do to the cached lag and to the counts. -/
theorem tally_of_step
    (moved :
      (IncrementalRunner.program parse batchSize).act table state call
        action = some (after, next, spawned)) :
    (∃ cursor now,
      call = .getIncrementalLag cursor .pending ∧ action = .serve now ∧
        after = state ∧
        next =
          .getIncrementalLag cursor
            (.fulfilled (SourceReader.getIncrementalLag table cursor))) ∨
      (∃ cursor lag newest now,
        call = .getIncrementalLag cursor (.fulfilled (lag, newest)) ∧
          action = .turn now ∧
          after.memory.gauges.currentLagRecords = lag ∧ ¬ Counted next) ∨
      (∀ world, noteCount world call action = world) ∧
        after.memory.gauges = state.memory.gauges ∧ ¬ Counted next := by
  have follows := IncrementalRunner.program_follows parse batchSize
  have step := follows.act_spec moved
  cases action with
  | serve now =>
      cases step with
      | serve now served =>
          cases served with
          | lag cursor => exact .inl ⟨cursor, now, rfl, rfl, rfl, rfl⟩
          | _ => exact .inr (.inr ⟨fun _ => rfl, rfl, id⟩)
  | reject =>
      cases step with
      | reject rejected =>
          cases rejected <;> exact .inr (.inr ⟨fun _ => rfl, rfl, id⟩)
  | begin sink =>
      cases step with
      | begin sink begun =>
          cases begun <;> exact .inr (.inr ⟨fun _ => rfl, rfl, id⟩)
  | settle sink outcome =>
      cases step with
      | settle sink outcome settled =>
          cases settled <;> exact .inr (.inr ⟨fun _ => rfl, rfl, id⟩)
  | turn now =>
      obtain ⟨⟨_, _, _⟩, turned, same⟩ := Option.map_eq_some_iff.mp moved
      cases same
      have notCounted := not_counted_of_turn (follows.turn turned)
      rcases IncrementalRunner.gauges_of_turn turned with
        ⟨cursor, lag, newest, rfl, stored, _⟩ | ⟨other, gauges⟩
      · exact .inr (.inl
          ⟨cursor, lag, newest, now, rfl, rfl, stored, notCounted⟩)
      · refine .inr (.inr ⟨fun world => ?_, gauges, notCounted⟩)
        unfold noteCount
        split
        · rename_i isServe
          cases isServe
        · exact absurd trivial other
        · rfl

/-- A step of a call of the incremental runner. -/
theorem sound_act
    {world : World}
    {index : Nat}
    {incremental : IncrementalRunner.World}
    (sound : Sound world)
    (taken :
      (IncrementalRunner.program parse batchSize).machine.step
        world.incremental (.act index action) = some incremental) :
    Sound { noteMove world (.act index action) with incremental } := by
  have follows := IncrementalRunner.program_follows parse batchSize
  have fetchesAbove := IncrementalRunner.fetchesAbove parse batchSize
  have admitted : SingleLoop world.incremental (.act index action) := trivial
  have single := singleLoop_step follows fetchesAbove sound.single admitted taken
  have persisted := persisted_le_of_step follows fetchesAbove sound.single taken
  obtain ⟨call, shared, next, spawned, found, moved, rfl⟩ :=
    TaskMachine.step_act taken
  have step := follows.act_spec moved
  have member := List.mem_of_getElem? found
  have notSpawned := spawned_not_active step
  have kept
      (row : SourceRow)
      (notAbove : NotAbove world.incremental.shared row) :
      NotAbove shared row := by
    refine notAbove.forward persisted ?_
    cases step with
    | turn now turned => exact cursor_of_turn turned (sound.synced call member)
    | serve now served => cases served <;> exact .inl rfl
    | _ => exact .inl rfl
  have counting
      (cursor : Watermark)
      (newest : Option Int)
      (notNext : ¬ Counted next)
      (answered :
        .getIncrementalLag cursor (.fulfilled (0, newest)) ∈
          world.incremental.tasks.set index next ++ spawned) :
      ∀ row ∈ world.counting, NotAbove shared row := by
    rcases TaskMachine.mem_set_append answered with old | rfl | new
    · exact fun row inRows =>
        kept row (sound.counting cursor newest old row inRows)
    · exact absurd trivial notNext
    · exact absurd trivial (notSpawned _ new)
  have synced :=
    synced_act sound.single.atMostOne sound.synced found step
  have noted :
      noteMove world (.act index action) = noteCount world call action := by
    simp [noteMove, found]
  rw [noted]
  rcases tally_of_step moved with
    ⟨cursor, now, rfl, rfl, rfl, rfl⟩ |
      ⟨cursor, lag, newest, now, rfl, rfl, stored, notNext⟩ |
      ⟨unchanged, gauges, notNext⟩
  · refine ⟨single, synced, sound.counted, ?_⟩
    intro other newest answered row inRows
    have isNext :=
      sound.single.atMostOne.eq_next found trivial notSpawned answered trivial
    obtain ⟨rfl, isZero⟩ :
        other = cursor ∧
          (0, newest) =
            SourceReader.getIncrementalLag world.incremental.context
              cursor := by
      simpa using isNext
    obtain ⟨_, isPersisted, isCursor⟩ := sound.synced _ member trivial
    have below : row.watermark ≤ other :=
      le_of_count_zero (congrArg Prod.fst isZero).symm inRows
    exact ⟨isCursor ▸ below, isPersisted ▸ isCursor ▸ below⟩
  · refine ⟨single, synced, ?_, fun other newest answered => ?_⟩
    · intro zero row inRows
      obtain rfl : lag = 0 := stored.symm.trans zero
      exact kept row (sound.counting cursor newest member row inRows)
    · exact counting other newest notNext answered
  · rw [unchanged]
    refine ⟨single, synced, ?_, fun other newest answered => ?_⟩
    · intro zero row inRows
      rw [gauges] at zero
      exact kept row (sound.counted zero row inRows)
    · exact counting other newest notNext answered

/-- A control call of the incremental runner. -/
theorem sound_control
    {world : World}
    {move : Move}
    {control : Control}
    {incremental : IncrementalRunner.World}
    (isControl : move.event = .env control)
    (lives : control ≠ .kill)
    (sound : Sound world)
    (admitted : SingleLoop world.incremental (.env control))
    (taken :
      (IncrementalRunner.program parse batchSize).machine.step
        world.incremental (.env control) = some incremental) :
    Sound { noteMove world move with incremental } := by
  have single :=
    singleLoop_step (IncrementalRunner.program_follows parse batchSize)
      (IncrementalRunner.fetchesAbove parse batchSize) sound.single admitted
      taken
  obtain ⟨shared, tasks, moved, rfl⟩ := TaskMachine.step_env taken
  have noted : noteMove world move = world := by
    cases move with
    | act => cases isControl
    | start => rfl
    | pause => rfl
  rw [noted]
  cases control with
  | start =>
      cases moved
      refine ⟨single, fun call member active => ?_, sound.counted,
        fun cursor newest answered => ?_⟩
      · rcases List.mem_append.mp member with old | new
        · exact absurd active (admitted call old)
        · obtain rfl := List.mem_singleton.mp new
          exact fun _ none => nomatch none
      · exact sound.counting cursor newest (by simpa using answered)
  | pause =>
      cases moved
      refine ⟨single, fun call member active => ?_, sound.counted,
        fun cursor newest answered => ?_⟩
      · rcases List.mem_append.mp member with old | new
        · exact sound.synced call old active
        · obtain rfl := List.mem_singleton.mp new
          exact active.elim
      · exact sound.counting cursor newest (by simpa using answered)
  | kill => exact absurd rfl lives

/-- Every step of the pipeline keeps the invariant. -/
theorem sound_step
    {before after : World}
    {event : Event}
    (sound : Sound before)
    (admitted : OneIncrementalLoop before event)
    (taken : step parse batchSize before event = some after) :
    Sound after := by
  cases event with
  | backfill move =>
      obtain ⟨backfill, _, rfl⟩ := Option.map_eq_some_iff.mp taken
      exact ⟨sound.single, sound.synced, sound.counted, sound.counting⟩
  | incremental move =>
      obtain ⟨incremental, moved, rfl⟩ := Option.map_eq_some_iff.mp taken
      cases move with
      | act index action => exact sound_act sound moved
      | start => exact sound_control rfl (by simp) sound admitted moved
      | pause => exact sound_control rfl (by simp) sound trivial moved
  | restart =>
      simp only [step] at taken
      split at taken
      · rename_i incremental _ killed
        cases taken
        obtain ⟨shared, tasks, moved, rfl⟩ := TaskMachine.step_env killed
        cases moved
        exact ⟨⟨trivial, .of_none (List.forall_mem_nil _),
            List.forall_mem_nil _⟩, List.forall_mem_nil _,
          fun _ => List.forall_mem_nil _, fun _ _ _ => List.forall_mem_nil _⟩
      · cases taken
  | change change =>
      simp only [step] at taken
      split at taken
      · rename_i incremental _ changed
        cases taken
        obtain ⟨table, _, rfl⟩ := TaskMachine.step_change changed
        exact ⟨⟨trivial, sound.single.atMostOne, sound.single.local_⟩,
          sound.synced, sound.counted, sound.counting⟩
      · cases taken
  | waitForPipelineQuiescence =>
      cases taken
      exact ⟨sound.single, sound.synced, sound.counted, sound.counting⟩

/-- Newly constructed runners have counted nothing. -/
theorem sound_initial
    {backfillRow incrementalRow : Option ReplicationCheckpoint} :
    Sound (initial parse batchSize table backfillRow incrementalRow) where
  single :=
    ⟨trivial, .of_none (List.forall_mem_nil _), List.forall_mem_nil _⟩
  synced := List.forall_mem_nil _
  counted _ := List.forall_mem_nil _
  counting _ _ _ := List.forall_mem_nil _

end Steps

/--
When the wait is told that the pipeline is quiescent, every row committed before
it is at or below the watermark exactly when this holds of the rows that the
cached lag was not counted on.
-/
theorem quiescence_sound_iff
    (parse : String → Option Json)
    (batchSize : Nat)
    (table : List SourceRow)
    (backfillRow incrementalRow : Option ReplicationCheckpoint)
    (events : List Event)
    (reached : World)
    (run :
      Run (step parse batchSize) OneIncrementalLoop
        (initial parse batchSize table backfillRow incrementalRow) events
        reached)
    (isQuiesced : quiesced true (getTelemetry reached) = true) :
    (∀ row ∈ reached.committed, row.watermark ≤ currentWatermark reached) ↔
      ∀ row, Uncounted reached row →
        row.watermark ≤ currentWatermark reached := by
  have sound := run.invariant Sound sound_step sound_initial
  have zero :
      reached.incremental.shared.memory.gauges.currentLagRecords = 0 := by
    simp only [quiesced, Bool.and_eq_true, decide_eq_true_eq] at isQuiesced
    exact isQuiesced.2
  refine ⟨fun below row uncounted => below row uncounted.1,
    fun below row committed => ?_⟩
  by_cases counted : row ∈ reached.counted
  · exact (sound.counted zero row counted).1
  · exact below row ⟨committed, counted⟩

/-- A launched backfill that finds nothing above its cursor completes. -/
def sampleBackfill : List Event :=
  [.backfill .start] ++
    ([.serve 0, .turn 0, .serve 0, .turn 0, .serve 0, .turn 0].map
      fun action => .backfill (.act 0 action))

/-- A launched incremental runner counts, fetches nothing and sleeps. -/
def sampleIncremental : List Event :=
  [.incremental .start] ++
    ([.serve 0, .turn 0, .serve 0, .turn 0, .serve 0, .turn 0, .serve 0,
        .turn 0].map
      fun action => .incremental (.act 0 action))

/-- A checkpoint that is past row 1, updated at that instant. -/
def sampleCheckpoint (timestamp : Option Int) : ReplicationCheckpoint :=
  { CheckpointManager.missingCheckpoint with
    lastProcessedId := 1
    lastProcessedTimestamp := timestamp }

/-- Both runners are past the only row. -/
abbrev sampleInitial : World :=
  initial (fun _ => none) 1 [sampleRow 1 5] (some (sampleCheckpoint none))
    (some (sampleCheckpoint (some 5)))

/-- The row was counted, so it is not above the watermark. -/
theorem quiescence_sound_iff_sample :
    ∃ reached,
      reached.committed.map SourceRow.id = [1] ∧
      quiesced true (getTelemetry reached) = true ∧
      ∀ row ∈ reached.committed, row.watermark ≤ currentWatermark reached := by
  obtain ⟨reached, replayed⟩ :
      ∃ reached,
        replay (step (fun _ => none) 1) OneIncrementalLoop sampleInitial
          (sampleBackfill ++ sampleIncremental ++ [.waitForPipelineQuiescence])
          = some reached :=
    ⟨_, rfl⟩
  have isQuiesced : quiesced true (getTelemetry reached) = true := by
    cases replayed
    rfl
  have allCounted : reached.committed = reached.counted := by
    cases replayed
    rfl
  have committed : reached.committed.map SourceRow.id = [1] := by
    cases replayed
    rfl
  refine ⟨reached, committed, isQuiesced,
    (quiescence_sound_iff _ _ _ _ _ _ reached (.of_replay replayed)
      isQuiesced).mpr ?_⟩
  intro row uncounted
  rw [Uncounted, allCounted] at uncounted
  exact absurd uncounted.1 uncounted.2

/--
A row is committed while the incremental runner sleeps, and then the wait is
called: it is told that the pipeline is quiescent.
-/
theorem stale_lag_reports_quiescence :
    ∃ reached,
      Run (step (fun _ => none) 1) OneIncrementalLoop sampleInitial
        (sampleBackfill ++ sampleIncremental ++
          [.change (.insert (sampleRow 2 9)), .waitForPipelineQuiescence])
        reached ∧
      quiesced true (getTelemetry reached) = true ∧
      ¬ ∀ row ∈ reached.committed,
          row.watermark ≤ currentWatermark reached := by
  obtain ⟨reached, run, isQuiesced, committed, current⟩ :
      ∃ reached,
        Run (step (fun _ => none) 1) OneIncrementalLoop sampleInitial
          (sampleBackfill ++ sampleIncremental ++
            [.change (.insert (sampleRow 2 9)), .waitForPipelineQuiescence])
          reached ∧
        quiesced true (getTelemetry reached) = true ∧
        (∃ row ∈ reached.committed, row.watermark = ⟨9, 2⟩) ∧
        currentWatermark reached = ⟨5, 1⟩ :=
    Run.exists_of_replay _ (by decide)
  refine ⟨reached, run, isQuiesced, fun below => ?_⟩
  obtain ⟨row, member, isNine⟩ := committed
  have notAbove := below row member
  rw [isNine, current, Watermark.le_iff] at notAbove
  simp at notAbove

end Quiescence

end Replication
