import Replication.LastFetch
import Replication.Observability
import Mathlib

namespace Replication

/-!
# A completed backfill is reported complete

The status COMPLETED and the percentage come from different places: one is a
field of the runner, the other is computed from its cursor and from a query that
is executed later.  As long as the backfill runs in one loop and no new row
raises the highest id, they agree: the loop sets the status when nothing is
above its cursor, and no loop that goes on keeps it.
-/

namespace BackfillRunner

/-- No row is above the cursor. -/
def AtEnd (table : List SourceRow) (cursor : Nat) : Prop :=
  ∀ row ∈ table, row.id ≤ cursor

/-- The runner is not at its end while its loop goes on. -/
def GoesOn
    (table : List SourceRow)
    (state : RunnerState Nat Gauges) : Call Nat → Prop
  | .getCheckpoint _ => True
  | .updateStatus .running _ => state.memory.status ≠ .completed
  | .updateStatus _ _ => True
  | .fetchBatch cursor answer =>
      state.memory.status ≠ .completed ∧ cursor = state.memory.cursor ∧
        (answer = .fulfilled [] → AtEnd table cursor)
  | .orphan _ _ _ => True
  | .returned => True
  | _ => state.memory.status ≠ .completed

/-- A completed runner has its cursor at the end. -/
def CompletesAtEnd
    (table : List SourceRow)
    (state : RunnerState Nat Gauges) : Prop :=
  state.memory.status = .completed → AtEnd table state.memory.cursor

/-- Only the fields in memory matter. -/
theorem GoesOn.of_memory
    {table : List SourceRow}
    {before after : RunnerState Nat Gauges}
    {call : Call Nat}
    (goesOn : GoesOn table before call)
    (same : after.memory = before.memory) :
    GoesOn table after call := by
  unfold GoesOn
  rw [same]
  exact goesOn

/-- Without new highest ids the end stays where it is. -/
theorem GoesOn.of_table
    {table changed : List SourceRow}
    {state : RunnerState Nat Gauges}
    {call : Call Nat}
    (goesOn : GoesOn table state call)
    (atEnd : ∀ cursor, AtEnd table cursor → AtEnd changed cursor) :
    GoesOn changed state call := by
  cases call with
  | fetchBatch cursor answer =>
      exact ⟨goesOn.1, goesOn.2.1, fun empty => atEnd _ (goesOn.2.2 empty)⟩
  | updateStatus status answer => cases status <;> exact goesOn
  | _ => exact goesOn

/-- A page with room that has no row ends the table. -/
theorem atEnd_of_fetch_nil
    {parse : String → Option Json}
    {batchSize : Nat}
    {table : List SourceRow}
    {cursor : Nat}
    (nothing : (program parse batchSize).fetch table cursor = []) :
    AtEnd table cursor := by
  intro row member
  have room : 0 < fetchLimit batchSize := fetchLimit_pos _
  have empty :
      Keyset.page SourceRow.id cursor (fetchLimit batchSize) table = [] :=
    List.map_eq_nil_iff.mp nothing
  have noneAbove := (Keyset.page_eq_nil_iff room).mp empty
  exact noneAbove row member

section Steps

variable
  {parse : String → Option Json}
  {batchSize : Nat}
  {table : List SourceRow}
  {state after : RunnerState Nat Gauges}
  {call next : Call Nat}

/-- The loop condition fetches from the cursor, or ends the loop as paused. -/
theorem goesOn_of_loopHead
    {memory later : Memory}
    (head : LoopHead .backfill memory later next)
    (incomplete : memory.status ≠ .completed)
    (same : after.memory = later) :
    CompletesAtEnd table after ∧ GoesOn table after next := by
  have notCompleted : after.memory.status ≠ .completed := by
    rw [same]
    cases head with
    | stopped stop => exact PipelineStatus.noConfusion
    | fetch isBackfill go => exact incomplete
    | lag isIncremental go => cases isIncremental
  refine ⟨fun completed => absurd completed notCompleted, ?_⟩
  cases head with
  | stopped stop => trivial
  | fetch isBackfill go =>
      refine ⟨notCompleted, congrArg Memory.cursor same.symm, ?_⟩
      intro answered
      cases answered
  | lag isIncremental go => cases isIncremental

/-- A turn of the loop completes it at the end only. -/
theorem completesAtEnd_of_turn
    (completes : CompletesAtEnd table state)
    (goesOn : GoesOn table state call)
    {memory : Memory}
    {orphans : List (Call Nat)}
    (turned : Turn .backfill codec state.memory call memory next orphans)
    (same : after.memory = memory) :
    CompletesAtEnd table after ∧ GoesOn table after next := by
  have unchanged
      (unchanged : after.memory = state.memory) :
      CompletesAtEnd table after := by
    intro completed
    rw [unchanged] at completed ⊢
    exact completes completed
  have other
      (incomplete : after.memory.status ≠ .completed) :
      CompletesAtEnd table after :=
    fun completed => absurd completed incomplete
  cases turned with
  | loadStopped checkpoint stop =>
      refine ⟨other ?_, trivial⟩
      rw [same]
      exact PipelineStatus.noConfusion
  | load checkpoint go =>
      have running : after.memory.status ≠ .completed := by
        rw [same]
        exact PipelineStatus.noConfusion
      exact ⟨other running, running⟩
  | loadFailed => exact ⟨unchanged same, trivial⟩
  | runningFailed => exact ⟨unchanged same, trivial⟩
  | statusWritten status answer last => exact ⟨unchanged same, trivial⟩
  | completedWritten answer isBackfill =>
      refine ⟨?_, trivial⟩
      intro completed
      rw [same] at completed ⊢
      dsimp only at completed ⊢
      split at completed
      · cases completed
      · exact completes completed
  | enter answer gauges head => exact goesOn_of_loopHead head goesOn same
  | advanced records data answer head =>
      exact goesOn_of_loopHead head goesOn same
  | completed cursor isBackfill =>
      obtain ⟨_, isCursor, atEnd⟩ := goesOn
      refine ⟨fun _ => ?_, trivial⟩
      rw [same]
      exact isCursor ▸ atEnd rfl
  | dispatched cursor records nonempty =>
      obtain ⟨incomplete, _⟩ := goesOn
      rw [← same] at incomplete
      exact ⟨other incomplete, incomplete⟩
  | persisting records esResult rmqResult failures =>
      have incomplete : after.memory.status ≠ .completed := same ▸ goesOn
      exact ⟨other incomplete, incomplete⟩
  | committing records esResult rmqResult data gauges ready commit =>
      have incomplete : after.memory.status ≠ .completed := by
        rw [same]
        cases ready <;> exact goesOn
      exact ⟨other incomplete, incomplete⟩
  | dispatchFailed records esCall rmqCall isBackfill rejected =>
      refine ⟨other ?_, trivial⟩
      rw [same]
      exact PipelineStatus.noConfusion
  | failed failure =>
      refine ⟨other ?_, trivial⟩
      rw [same]
      exact PipelineStatus.noConfusion
  | measured cursor lag gauges isIncremental => cases isIncremental
  | idle cursor isIncremental => cases isIncremental
  | advancedIdle records data answer isIncremental => cases isIncremental
  | woken isIncremental head => cases isIncremental
  | dispatchRetried records esCall rmqCall isIncremental rejected =>
      cases isIncremental

/-- A step of the loop completes it at the end only. -/
theorem completesAtEnd_of_step
    (completes : CompletesAtEnd table state)
    (goesOn : GoesOn table state call)
    {action : Act}
    {spawned : List (Call Nat)}
    (step :
      Step (program parse batchSize) .backfill codec table state call action
        after next spawned) :
    CompletesAtEnd table after ∧ GoesOn table after next := by
  cases step with
  | serve now served =>
      cases served with
      | checkpoint => exact ⟨completes, trivial⟩
      | status status =>
          refine ⟨completes, ?_⟩
          cases status <;> exact goesOn
      | lag cursor => exact ⟨completes, goesOn⟩
      | fetch cursor =>
          refine ⟨completes, goesOn.1, goesOn.2.1, ?_⟩
          intro empty
          exact atEnd_of_fetch_nil (Promise.fulfilled.inj empty)
      | persisted records esResult rmqResult stored =>
          exact ⟨completes, goesOn⟩
      | notPersisted records esResult rmqResult => exact ⟨completes, goesOn⟩
      | committed records data => exact ⟨completes, goesOn⟩
  | reject rejected =>
      refine ⟨completes, ?_⟩
      cases rejected with
      | checkpoint => trivial
      | fetch cursor =>
          refine ⟨goesOn.1, goesOn.2.1, ?_⟩
          intro empty
          cases empty
      | status status => cases status <;> exact goesOn
      | _ => exact goesOn
  | begin sink begun =>
      refine ⟨completes, ?_⟩
      cases begun <;> exact goesOn
  | settle sink outcome settled =>
      refine ⟨completes, ?_⟩
      cases settled <;> exact goesOn
  | turn now turned =>
      exact completesAtEnd_of_turn completes goesOn turned rfl

end Steps

/-- A change of the table does not raise the highest id. -/
def KeepsHighest (world : World) : RunnerProgram.Event → Prop
  | .change (.insert row) =>
      0 < row.id ∧ ∃ old ∈ world.context, row.id ≤ old.id
  | event => SingleLoop world event

instance (world : World) : DecidablePred (KeepsHighest world)
  | .change (.insert _) => inferInstanceAs (Decidable (_ ∧ ∃ old ∈ _, _))
  | .change (.update _ _) => isTrue trivial
  | .act _ _ => isTrue trivial
  | .env event => inferInstanceAs (Decidable (SingleLoop world (.env event)))

/-- What a change makes of the ids. -/
theorem atEnd_of_change
    {world : World}
    {change : SourceChange}
    {changed : List SourceRow}
    (admitted : KeepsHighest world (.change change))
    (applied : change.apply world.context = some changed)
    {cursor : Nat}
    (atEnd : AtEnd world.context cursor) :
    AtEnd changed cursor := by
  intro row member
  cases change with
  | insert new =>
      simp only [SourceChange.apply] at applied
      split at applied
      · cases applied
        rcases List.mem_append.mp member with old | isNew
        · exact atEnd row old
        · obtain rfl := List.mem_singleton.mp isNew
          obtain ⟨old, oldMember, notAbove⟩ := admitted.2
          exact notAbove.trans (atEnd old oldMember)
      · cases applied
  | update id new =>
      simp only [SourceChange.apply] at applied
      split at applied
      · rename_i isRow
        cases applied
        obtain ⟨old, oldMember, rfl⟩ := List.mem_map.mp member
        split
        · rename_i overwritten
          rw [isRow.1, ← overwritten]
          exact atEnd old oldMember
        · exact atEnd old oldMember
      · cases applied

/-- The runner completes at the end, and its loop goes on as it should. -/
abbrev CompletionInvariant : World → Prop :=
  TaskMachine.ExclusiveInvariant Call.Active CompletesAtEnd GoesOn

/-- Every admitted step keeps the invariant. -/
theorem completion_step
    {parse : String → Option Json}
    {batchSize : Nat}
    {before after : World}
    {event : RunnerProgram.Event}
    (holds : CompletionInvariant before)
    (admitted : KeepsHighest before event)
    (taken :
      (program parse batchSize).machine.step before event = some after) :
    CompletionInvariant after := by
  have follows := program_follows parse batchSize
  refine TaskMachine.ExclusiveInvariant.step ?_ ?_ ?_ ?_
    holds admitted taken
  · intro world index call action shared next spawned
      worldHolds _ _ _ goesOn moved
    have step := follows.act_spec moved
    obtain ⟨completes, nextGoesOn⟩ :=
      completesAtEnd_of_step worldHolds.global goesOn step
    exact ⟨completes, fun _ => nextGoesOn, spawned_not_active step⟩
  · intro world index call action shared next spawned
      worldHolds _ _ inactive moved
    have step := follows.act_spec moved
    obtain ⟨_, sameMemory, stillInactive⟩ := inactive_step inactive step
    refine ⟨?_, stillInactive, spawned_not_active step,
      fun other _ goesOn => goesOn.of_memory sameMemory⟩
    unfold CompletesAtEnd
    rw [sameMemory]
    exact worldHolds.global
  · intro world event shared tasks worldHolds allowed moved
    cases event with
    | start =>
        cases moved
        refine ⟨worldHolds.global, .append_singleton allowed, ?_⟩
        intro call member active
        rcases List.mem_append.mp member with old | new
        · exact absurd active (allowed call old)
        · obtain rfl := List.mem_singleton.mp new
          trivial
    | pause =>
        cases moved
        have paused :
            PipelineStatus.paused ≠ PipelineStatus.completed :=
          PipelineStatus.noConfusion
        refine ⟨fun completed => absurd completed paused,
          worldHolds.atMostOne.append ?_, ?_⟩
        · intro call new
          obtain rfl := List.mem_singleton.mp new
          exact id
        · intro call member active
          rcases List.mem_append.mp member with old | new
          · have goesOn := worldHolds.local_ call old active
            cases call with
            | updateStatus status answer =>
                cases status with
                | running => exact paused
                | _ => trivial
            | fetchBatch cursor answer => exact ⟨paused, goesOn.2⟩
            | getCheckpoint answer => trivial
            | orphan sink records call => trivial
            | returned => trivial
            | _ => exact paused
          · obtain rfl := List.mem_singleton.mp new
            exact active.elim
    | kill =>
        cases moved
        exact .of_idle rfl fun completed => PipelineStatus.noConfusion completed
  · intro world change changed worldHolds allowed applied
    have atEnd := @atEnd_of_change world change changed allowed applied
    exact ⟨fun completed => atEnd (worldHolds.global completed),
      fun call member active =>
        (worldHolds.local_ call member active).of_table fun _ => atEnd⟩

/-- Ids are positive, and none is above that cursor. -/
structure Bounded (cursor : Nat) (world : World) : Prop where
  positive : ∀ row ∈ world.context, 0 < row.id
  atEnd : AtEnd world.context cursor

/-- Every admitted step keeps the bound. -/
theorem bounded_step
    {parse : String → Option Json}
    {batchSize cursor : Nat}
    {before after : World}
    {event : RunnerProgram.Event}
    (holds : Bounded cursor before)
    (admitted : KeepsHighest before event)
    (taken :
      (program parse batchSize).machine.step before event = some after) :
    Bounded cursor after := by
  rcases TaskMachine.context_step taken with same | ⟨change, rfl, applied⟩
  · exact ⟨same ▸ holds.positive, same ▸ holds.atEnd⟩
  · refine ⟨?_, atEnd_of_change admitted applied holds.atEnd⟩
    intro row member
    cases change with
    | insert new =>
        simp only [SourceChange.apply, RunnerProgram.machine] at applied
        split at applied
        · rw [← Option.some.inj applied] at member
          rcases List.mem_append.mp member with old | isNew
          · exact holds.positive row old
          · exact List.mem_singleton.mp isNew ▸ admitted.1
        · cases applied
    | update id new =>
        simp only [SourceChange.apply, RunnerProgram.machine] at applied
        split at applied
        · rename_i isRow
          rw [← Option.some.inj applied] at member
          obtain ⟨old, oldMember, rfl⟩ := List.mem_map.mp member
          split
          · rename_i overwritten
            rw [isRow.1, ← overwritten]
            exact holds.positive old oldMember
          · exact holds.positive old oldMember
        · cases applied

end BackfillRunner

namespace SourceReader

/-- The highest id is not above a cursor that no row is above. -/
theorem maxId_le
    {table : List SourceRow}
    {cursor : Nat}
    (atEnd : BackfillRunner.AtEnd table cursor) :
    (getSourceMetadata table).maxId ≤ cursor := by
  unfold getSourceMetadata
  induction table with
  | nil => exact Nat.zero_le cursor
  | cons row rest inductionHypothesis =>
      exact Nat.max_le.mpr
        ⟨atEnd row List.mem_cons_self,
          inductionHypothesis fun other member =>
            atEnd other (List.mem_cons_of_mem row member)⟩

/-- No row is above the highest id. -/
theorem le_maxId
    (table : List SourceRow) :
    BackfillRunner.AtEnd table (getSourceMetadata table).maxId := by
  unfold getSourceMetadata
  induction table with
  | nil => exact List.forall_mem_nil _
  | cons row rest inductionHypothesis =>
      intro other member
      rcases List.mem_cons.mp member with rfl | inRest
      · exact le_max_left _ _
      · exact (inductionHypothesis other inRest).trans (le_max_right _ _)

/-- A table with rows has a highest id. -/
theorem totalCount_eq_zero
    {table : List SourceRow}
    (positive : ∀ row ∈ table, 0 < row.id)
    (noId : (getSourceMetadata table).maxId = 0) :
    (getSourceMetadata table).totalCount = 0 := by
  cases table with
  | nil => rfl
  | cons row rest =>
      have own := positive row List.mem_cons_self
      have atMost := le_maxId (row :: rest) row List.mem_cons_self
      omega

end SourceReader

namespace PipelineCoordinator

open BackfillRunner (KeepsHighest CompletionInvariant Bounded)

/--
The backfill runner is not started while its loop is active, and no new row
raises the highest id.
-/
def OneBackfill
    (world : Quiescence.World)
    (event : Quiescence.Event) : Prop :=
  ∀ own ∈ event.backfillPart, KeepsHighest world.backfill own

instance (world : Quiescence.World) : DecidablePred (OneBackfill world) :=
  fun event => inferInstanceAs (Decidable (∀ own ∈ event.backfillPart, _))

/--
Telemetry that says COMPLETED says 100%, whenever the query for the highest id
is executed after the counters have been read, and also if it is rejected.
-/
theorem completed_reports_full
    {parse : String → Option Json}
    {batchSize : Nat}
    {table : List SourceRow}
    {backfillRow incrementalRow : Option ReplicationCheckpoint}
    (positive : ∀ row ∈ table, 0 < row.id)
    {events later : List Quiescence.Event}
    {world queried : Quiescence.World}
    (run :
      Run (Quiescence.step parse batchSize) OneBackfill
        (Quiescence.initial parse batchSize table backfillRow incrementalRow)
        events world)
    (laterRun :
      Run (Quiescence.step parse batchSize) OneBackfill world later queried)
    {status : CoordinatorStatus}
    {circuitBreakers : CircuitBreaker × CircuitBreaker}
    {answers : Answers}
    (metadata :
      ∀ answer ∈ answers.sourceMetadata,
        answer = SourceReader.getSourceMetadata queried.backfill.context)
    (completed :
      (getTelemetry status world.backfill.shared.memory
        world.incremental.shared.memory circuitBreakers
        answers).backfillStatus = .completed) :
    (getTelemetry status world.backfill.shared.memory
      world.incremental.shared.memory circuitBreakers
      answers).backfillCompletionPct = 10000 := by
  have invariant : CompletionInvariant world.backfill :=
    Quiescence.backfill_invariant CompletionInvariant
      (fun allowed isPart => allowed _ isPart)
      BackfillRunner.completion_step run
      (.of_idle rfl fun status => PipelineStatus.noConfusion status)
  have atEnd := invariant.global completed
  have positiveNow : ∀ row ∈ world.backfill.context, 0 < row.id :=
    Quiescence.backfill_invariant
      (fun own => ∀ row ∈ own.context, 0 < row.id)
      (fun allowed isPart => allowed _ isPart)
      (fun {own event reached} holds allowed taken =>
        -- some bound holds of any table
        have bounded :
            Bounded (SourceReader.getSourceMetadata own.context).maxId own :=
          ⟨holds, SourceReader.le_maxId _⟩
        (BackfillRunner.bounded_step bounded allowed taken).positive)
      run positive
  have bounded : Bounded world.backfill.shared.memory.cursor queried.backfill :=
    Quiescence.backfill_invariant
      (Bounded world.backfill.shared.memory.cursor)
      (fun allowed isPart => allowed _ isPart)
      BackfillRunner.bounded_step laterRun ⟨positiveNow, atEnd⟩
  cases answered : answers.sourceMetadata with
  | none =>
      simp only [getTelemetry, answered, Option.getD_none]
      rfl
  | some answer =>
      simp only [getTelemetry, answered, Option.getD_some]
      rw [metadata answer answered]
      exact backfillCompletion_of_le
        (SourceReader.totalCount_eq_zero bounded.positive)
        (SourceReader.maxId_le bounded.atEnd)

/-- Everything answers; the table has one row. -/
def sampleMetadata : Answers where
  selectOne := .ok ()
  selectOneMs := 1
  clusterHealth := .ok "green"
  clusterHealthMs := 1
  isConnected := true
  checkExchange := .ok ()
  checkExchangeMs := 1
  sourceMetadata := some { maxId := 1, totalCount := 1 }
  pendingCount := some 0
  now := 0

/-- The row is overwritten before the highest id is queried. -/
theorem completed_reports_full_sample :
    ∃ world queried,
      Run (Quiescence.step (fun _ => none) 1) OneBackfill
        Quiescence.sampleInitial Quiescence.sampleBackfill world ∧
      Run (Quiescence.step (fun _ => none) 1) OneBackfill world
        [.change (.update 1 (sampleRow 1 9))] queried ∧
      (getTelemetry .running world.backfill.shared.memory
        world.incremental.shared.memory
        (CircuitBreaker.fresh, CircuitBreaker.fresh)
        sampleMetadata).backfillCompletionPct = 10000 := by
  obtain ⟨world, replayed⟩ :
      ∃ world,
        replay (Quiescence.step (fun _ => none) 1) OneBackfill
          Quiescence.sampleInitial Quiescence.sampleBackfill = some world :=
    ⟨_, rfl⟩
  obtain ⟨queried, later⟩ :
      ∃ queried,
        replay (Quiescence.step (fun _ => none) 1) OneBackfill world
          [.change (.update 1 (sampleRow 1 9))] = some queried := by
    cases replayed
    exact ⟨_, rfl⟩
  have run := Run.of_replay replayed
  have laterRun := Run.of_replay later
  refine ⟨world, queried, run, laterRun, ?_⟩
  apply completed_reports_full (by decide) run laterRun
  · intro answer answered
    cases replayed
    cases later
    cases answered
    rfl
  · cases replayed
    rfl

end PipelineCoordinator

end Replication
