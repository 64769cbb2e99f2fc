import Replication.Coverage

namespace Replication

/-!
# No row is lost behind a watermark

A row is covered when each sink has reported it as successful or has a dead
letter for it.  The cursor discipline is instantiated with "every row up to this
cursor is covered", for the backfill runner on a growing table and for the
incremental runner on a fixed snapshot.  Nothing is assumed about the order of
steps: loops may overlap, statements may be rejected, and the process may be
killed between any two steps.
-/

section Coverage

variable {Cursor Gauges : Type}

/-- The sink has reported the record as successful or there is a dead letter. -/
def RunnerState.CoveredAt
    (state : RunnerState Cursor Gauges)
    (sink : Sink)
    (id : Nat) : Prop :=
  state.history.Successful sink id ∨ state.DeadLetter sink id

/-- The row is covered at each of the two sinks. -/
def RunnerState.Covered
    (state : RunnerState Cursor Gauges)
    (row : SourceRow) : Prop :=
  ∀ sink, state.CoveredAt sink row.id

/-- Every result so far has named every record of its batch. -/
def RunnerState.AllNamed (state : RunnerState Cursor Gauges) : Prop :=
  ∀ report ∈ state.history.reports, report.result.Names report.records

/-- Coverage is never lost. -/
theorem RunnerState.Extends.covered
    {before after : RunnerState Cursor Gauges}
    {row : SourceRow}
    (extended : before.Extends after)
    (covered : before.Covered row) :
    after.Covered row :=
  fun sink =>
    (covered sink).imp extended.successful extended.deadLetter

/-- If all results are named later, those so far are. -/
theorem RunnerState.Extends.allNamed
    {before after : RunnerState Cursor Gauges}
    (extended : before.Extends after)
    (named : after.AllNamed) :
    before.AllNamed :=
  fun report member => named report (extended.reports report member)

/-- The records of a finished batch are covered. -/
theorem Finished.covered
    {state : RunnerState Cursor Gauges}
    {records : List SourceRecord}
    (finished : Finished state records)
    (named : state.AllNamed)
    {record : SourceRecord}
    (member : record ∈ records)
    (sink : Sink) :
    state.CoveredAt sink record.id := by
  obtain ⟨esResult, rmqResult, returned, filed⟩ := finished
  cases sink with
  | elasticsearch =>
      rcases named _ returned.esReport record member with ok | failed
      · exact .inl ⟨_, returned.esReport, rfl, ok⟩
      · exact .inr (filed.elasticsearch _ failed)
  | rabbitmq =>
      rcases named _ returned.rmqReport record member with ok | failed
      · exact .inl ⟨_, returned.rmqReport, rfl, ok⟩
      · exact .inr (filed.rabbitmq _ failed)

/-- Covered, if it is above `low` and the sinks have named their batches. -/
def CoveredAbove
    [LT Cursor]
    (codec : CursorCodec Cursor)
    (low : Cursor)
    (state : RunnerState Cursor Gauges)
    (row : SourceRow) : Prop :=
  state.AllNamed → low < codec.ofRow row → state.Covered row

/-- Being covered at both sinks is a notion of coverage. -/
theorem coveredAbove_coverage
    [LT Cursor]
    (program : RunnerProgram Cursor Gauges)
    (codec : CursorCodec Cursor)
    (low : Cursor) :
    Coverage program (@CoveredAbove Cursor Gauges _ codec low) where
  finished finished member named _ sink :=
    finished.covered named (List.mem_map_of_mem member) sink
  extend extended covered named above :=
    extended.covered (covered (extended.allNamed named) above)

end Coverage

section Named

variable
  {Cursor Gauges : Type}
  {program : RunnerProgram Cursor Gauges}

/-- The result names every record of the batch whose call it settles. -/
def NamesBatch
    (world : RunnerProgram.World Cursor Gauges)
    (index : Nat)
    (result : SinkResult) : Prop :=
  ∀ call ∈ world.tasks[index]?,
    result.Names (RunnerProgram.batchOf call)

instance
    (world : RunnerProgram.World Cursor Gauges)
    (index : Nat)
    (result : SinkResult) :
    Decidable (NamesBatch world index result) :=
  inferInstanceAs (Decidable (∀ call ∈ world.tasks[index]?, _))

/-- Settling keeps the batch. -/
theorem Settles.batchOf
    {sink : Sink}
    {outcome : Option SinkResult}
    {call next : Call Cursor}
    (settled : Settles sink outcome call next) :
    RunnerProgram.batchOf next = RunnerProgram.batchOf call := by
  cases settled <;> rfl

/-- What holds of every report so far, and of the next one, holds of all. -/
theorem reports_step
    (Good : Report → Prop)
    {before after : RunnerProgram.World Cursor Gauges}
    {event : RunnerProgram.Event}
    (good : ∀ report ∈ before.shared.history.reports, Good report)
    (next :
      ∀ index sink result,
        event = .act index (.settle sink (some result)) →
        ∀ call ∈ before.tasks[index]?,
          Good ⟨sink, RunnerProgram.batchOf call, result⟩)
    (taken : program.machine.step before event = some after) :
    ∀ report ∈ after.shared.history.reports, Good report := by
  cases event with
  | act index action =>
      obtain ⟨call, shared, following, spawned, found, moved, rfl⟩ :=
        TaskMachine.step_act taken
      cases action with
      | serve now =>
          obtain ⟨⟨_, _⟩, served, same⟩ := Option.map_eq_some_iff.mp moved
          cases same
          cases RunnerProgram.serve_spec served <;> exact good
      | reject =>
          obtain ⟨_, _, same⟩ := Option.map_eq_some_iff.mp moved
          cases same
          exact good
      | begin sink =>
          obtain ⟨_, _, same⟩ := Option.map_eq_some_iff.mp moved
          cases same
          exact good
      | settle sink outcome =>
          obtain ⟨_, settled, same⟩ := Option.map_eq_some_iff.mp moved
          cases same
          cases outcome with
          | none => exact good
          | some result =>
              intro report member
              rcases List.mem_append.mp member with old | new
              · exact good report old
              · obtain rfl := List.mem_singleton.mp new
                rw [(RunnerProgram.settle_spec settled).batchOf]
                exact next index sink result rfl call found
      | turn now =>
          obtain ⟨⟨_, _, _⟩, _, same⟩ := Option.map_eq_some_iff.mp moved
          cases same
          dsimp only [RunnerProgram.noteDispatch]
          split <;> exact good
  | env event =>
      obtain ⟨shared, tasks, moved, rfl⟩ := TaskMachine.step_env taken
      cases event <;> cases moved <;> exact good
  | change change =>
      obtain ⟨_, _, rfl⟩ := TaskMachine.step_change taken
      exact good

/-- A step whose sink result, if any, names its batch keeps `AllNamed`. -/
theorem allNamed_step
    {before after : RunnerProgram.World Cursor Gauges}
    {event : RunnerProgram.Event}
    (named : before.shared.AllNamed)
    (names :
      ∀ index sink result,
        event = .act index (.settle sink (some result)) →
        NamesBatch before index result)
    (taken : program.machine.step before event = some after) :
    after.shared.AllNamed :=
  reports_step (fun report => report.result.Names report.records) named
    (fun index sink result settles call found =>
      names index sink result settles call found) taken

end Named

/-- A row with that id, stamped that many milliseconds after the epoch. -/
def sampleRow (id : Nat) (millis : Int) : SourceRow where
  id
  uuid := ""
  tenantId := ""
  payload := .null
  version := 1
  status := ""
  isCorrupted := false
  createdAt := 0
  updatedAt := 1000 * millis

/-- A result that reports these ids, and fails those. -/
def sampleResult (successful failed : List Nat) : SinkResult where
  successCount := successful.length
  failedCount := failed.length
  successfulIds := successful
  failures := failed.map fun id => ⟨id, .str "", .str "", none⟩

namespace BackfillRunner

/-- A runner together with the source table. -/
abbrev World := RunnerProgram.World Nat Gauges

/--
The table only gains rows, with ids above all existing ids, and a sink that
returns names every record of its batch.
-/
def GrowingTable (world : World) : RunnerProgram.Event → Prop
  | .act index (.settle _ (some result)) => NamesBatch world index result
  | .change (.insert row) =>
      IsKey row.id ∧ ∀ old ∈ world.context, old.id < row.id
  | .change (.update _ _) => False
  | _ => True

instance (world : World) : DecidablePred (GrowingTable world)
  | .act _ (.serve _) => isTrue trivial
  | .act _ .reject => isTrue trivial
  | .act _ (.begin _) => isTrue trivial
  | .act _ (.settle _ none) => isTrue trivial
  | .act _ (.settle _ (some _)) => inferInstanceAs (Decidable (NamesBatch _ _ _))
  | .act _ (.turn _) => isTrue trivial
  | .env _ => isTrue trivial
  | .change (.insert _) => inferInstanceAs (Decidable (_ ∧ _))
  | .change (.update _ _) => isFalse id

variable
  {parse : String → Option Json}
  {batchSize : Nat}
  {table : List SourceRow}

/-- The invariant of the growing table. -/
abbrev CoverageInvariant
    (parse : String → Option Json)
    (batchSize : Nat) : World → Prop :=
  TaskMachine.Invariant
    (CursorDiscipline.Global codec
      (Sound parse batchSize (CoveredAbove codec 0)))
    (CursorDiscipline.Local codec
      (Sound parse batchSize (CoveredAbove codec 0))
      (Fetched parse batchSize (CoveredAbove codec 0)))

/-- Every admitted step keeps the invariant. -/
theorem coverage_step
    {before after : World}
    {event : RunnerProgram.Event}
    (holds : CoverageInvariant parse batchSize before)
    (admitted : GrowingTable before event)
    (taken :
      (program parse batchSize).machine.step before event = some after) :
    CoverageInvariant parse batchSize after := by
  have coverage :=
    coveredAbove_coverage (program parse batchSize) codec 0
  refine (coverage.discipline.and known_discipline).invariant_step
    (program_follows parse batchSize) GrowingTable ?_ holds admitted taken
  intro world change changed worldHolds allowed applied
  refine growing_keeps worldHolds.global worldHolds.local_ ?_ applied
  cases change with
  | update id row => exact allowed.elim
  | insert row => exact ⟨row, rfl, allowed⟩

/-- The admitted changes keep the primary key. -/
theorem primaryKeys_step
    {before after : World}
    {event : RunnerProgram.Event}
    (keys : PrimaryKeys before.context)
    (admitted : GrowingTable before event)
    (taken :
      (program parse batchSize).machine.step before event = some after) :
    PrimaryKeys after.context := by
  rcases TaskMachine.context_step taken with same | ⟨change, rfl, applied⟩
  · exact same ▸ keys
  · cases change with
    | update id row => exact admitted.elim
    | insert row =>
        simp only [SourceChange.apply, RunnerProgram.machine] at applied
        split at applied
        · rw [← Option.some.inj applied]
          exact primaryKeys_insert keys admitted.1 admitted.2
        · cases applied

/-- What holds in every state of a run on a growing table. -/
structure Reachable
    (parse : String → Option Json)
    (batchSize : Nat)
    (world : World) : Prop where
  coverage : CoverageInvariant parse batchSize world
  named : world.shared.AllNamed
  keys : PrimaryKeys world.context

/-- Steps on a growing table stay in its reachable states. -/
theorem Reachable.step
    {before after : World}
    {event : RunnerProgram.Event}
    (holds : Reachable parse batchSize before)
    (admitted : GrowingTable before event)
    (taken :
      (program parse batchSize).machine.step before event = some after) :
    Reachable parse batchSize after := by
  refine ⟨coverage_step holds.coverage admitted taken,
    allNamed_step holds.named ?_ taken,
    primaryKeys_step holds.keys admitted taken⟩
  rintro index sink result rfl
  exact admitted

/-- So do runs. -/
theorem Reachable.run
    {world reached : World}
    {events : List RunnerProgram.Event}
    (holds : Reachable parse batchSize world)
    (run :
      Run (program parse batchSize).machine.step GrowingTable
        world events reached) :
    Reachable parse batchSize reached :=
  run.invariant (Reachable parse batchSize)
    (fun holds admitted taken => holds.step admitted taken) holds

/-- The initial state of a backfill from zero. -/
theorem Reachable.initial
    {checkpoint : Option ReplicationCheckpoint}
    (keys : PrimaryKeys table)
    (fromZero : codec.persisted checkpoint = 0) :
    Reachable parse batchSize
      ((program parse batchSize).initial table checkpoint) where
  coverage := by
    have keyset :
        KeysetTable (program parse batchSize) codec table :=
      keysetTable keys.injective
    refine CursorDiscipline.invariant_initial ?_
    rw [fromZero]
    exact ⟨⟨keyset, fun _ _ notAbove _ above =>
        absurd above (not_lt_of_ge notAbove)⟩, keyset, .inl rfl⟩
  named := nofun
  keys := keys

/--
Zero loss of the backfill: every row up to the persisted id is covered at both
sinks, and once a loop has fetched nothing so is every row of the table it saw.
-/
theorem backfill_zeroLoss
    {checkpoint : Option ReplicationCheckpoint}
    {events : List RunnerProgram.Event}
    {reached : World}
    (keys : PrimaryKeys table)
    (fromZero : codec.persisted checkpoint = 0)
    (run :
      Run (program parse batchSize).machine.step GrowingTable
        ((program parse batchSize).initial table checkpoint)
        events reached) :
    (∀ row ∈ reached.context,
      row.id ≤ codec.persisted reached.shared.checkpoint →
      reached.shared.Covered row) ∧
    ∀ {index : Nat} {fetched later : World}
      {laterEvents : List RunnerProgram.Event},
      FetchedNothing (program parse batchSize) reached index fetched →
      Run (program parse batchSize).machine.step GrowingTable
        fetched laterEvents later →
      ∀ row ∈ fetched.context, later.shared.Covered row := by
  obtain ⟨coverage, named, keys⟩ := (Reachable.initial keys fromZero).run run
  constructor
  · intro row member notAbove
    exact coverage.global.1.2 row member notAbove named
      (keys.positive row member)
  · intro index fetched later laterEvents nothing laterRun row member
    obtain ⟨cursor, isPending, selected, sameTable, sameState⟩ :=
      nothing.spec
    obtain ⟨_, parameter, _⟩ := coverage.local_ _ isPending
    rw [sameTable] at member
    have covered : fetched.shared.Covered row := by
      rw [sameState]
      exact parameter.1.all_of_fetch_nil selected member named
        (keys.positive row member)
    exact (RunnerState.Extends.of_run laterRun).covered covered

/-- The first batch of a run that has just started, up to its dispatch. -/
def sampleStart : List RunnerProgram.Event :=
  [.env .start, .act 0 (.serve 0), .act 0 (.turn 0), .act 0 (.serve 0),
    .act 0 (.turn 0), .act 0 (.serve 0), .act 0 (.turn 0),
    .act 0 (.begin .elasticsearch), .act 0 (.begin .rabbitmq)]

/-- One row fails at RabbitMQ, its batch is committed, the process dies. -/
def sampleFailure : List RunnerProgram.Event :=
  sampleStart ++
    [.act 0 (.settle .elasticsearch (some (sampleResult [1] []))),
      .act 0 (.settle .rabbitmq (some (sampleResult [] [1]))),
      .act 0 (.turn 0), .act 0 (.serve 0), .act 0 (.turn 0),
      .act 0 (.serve 0), .env .kill]

/-- The failed row is behind the watermark and covered. -/
theorem backfill_zeroLoss_oneFailure :
    ∃ reached,
      Run (program (fun _ => none) 1).machine.step GrowingTable
        ((program (fun _ => none) 1).initial
          [sampleRow 1 0, sampleRow 2 0] none)
        sampleFailure reached ∧
      codec.persisted reached.shared.checkpoint = 1 ∧
      ∀ row ∈ reached.context, row.id ≤ 1 →
        reached.shared.Covered row := by
  obtain ⟨reached, run, atOne⟩ :
      ∃ reached,
        Run (program (fun _ => none) 1).machine.step GrowingTable
          ((program (fun _ => none) 1).initial
            [sampleRow 1 0, sampleRow 2 0] none)
          sampleFailure reached ∧
        codec.persisted reached.shared.checkpoint = 1 :=
    Run.exists_of_replay _ (by decide)
  have covered :=
    (backfill_zeroLoss ⟨by decide, by decide⟩ rfl run).1
  exact ⟨reached, run, atOne, fun row member notAbove =>
    covered row member (atOne ▸ notAbove)⟩

end BackfillRunner

namespace IncrementalRunner

/-- A runner together with the source table. -/
abbrev World := RunnerProgram.World Watermark Gauges

/--
The table is a fixed snapshot, and a sink that returns names every record of its
batch.
-/
def Snapshot (world : World) : RunnerProgram.Event → Prop
  | .act index (.settle _ (some result)) => NamesBatch world index result
  | .change _ => False
  | _ => True

instance (world : World) : DecidablePred (Snapshot world)
  | .act _ (.serve _) => isTrue trivial
  | .act _ .reject => isTrue trivial
  | .act _ (.begin _) => isTrue trivial
  | .act _ (.settle _ none) => isTrue trivial
  | .act _ (.settle _ (some _)) =>
      inferInstanceAs (Decidable (NamesBatch _ _ _))
  | .act _ (.turn _) => isTrue trivial
  | .env _ => isTrue trivial
  | .change _ => isFalse id

variable
  {parse : String → Option Json}
  {batchSize : Nat}
  {table : List SourceRow}

/-- The invariant of a snapshot that is read from `low`. -/
abbrev CoverageInvariant
    (parse : String → Option Json)
    (batchSize : Nat)
    (low : Watermark) : World → Prop :=
  TaskMachine.Invariant
    (CursorDiscipline.Global codec fun table state cursor =>
      Covers (program parse batchSize) codec (CoveredAbove codec low)
          table state cursor ∧ True)
    (CursorDiscipline.Local codec
      (fun table state cursor =>
        Covers (program parse batchSize) codec (CoveredAbove codec low)
            table state cursor ∧ True)
      (fun table state records =>
        CoversBatch (program parse batchSize) codec
            (CoveredAbove codec low) table state records ∧
          ∃ after, (program parse batchSize).fetch table after = records))

/-- What holds in every state of a run on a snapshot. -/
structure Reachable
    (parse : String → Option Json)
    (batchSize : Nat)
    (low : Watermark)
    (table : List SourceRow)
    (world : World) : Prop where
  coverage : CoverageInvariant parse batchSize low world
  named : world.shared.AllNamed
  snapshot : world.context = table

/-- Runs on a snapshot stay in its reachable states. -/
theorem Reachable.run
    {low : Watermark}
    {world reached : World}
    {events : List RunnerProgram.Event}
    (holds : Reachable parse batchSize low table world)
    (run :
      Run (program parse batchSize).machine.step Snapshot
        world events reached) :
    Reachable parse batchSize low table reached := by
  refine run.invariant (Reachable parse batchSize low table) ?_ holds
  rintro before event after ⟨coverage, named, snapshot⟩ admitted taken
  refine ⟨?_, allNamed_step named ?_ taken, ?_⟩
  · have covers :=
      coveredAbove_coverage (program parse batchSize) codec low
    exact (covers.discipline.and .fetchedFrom).invariant_step
      (program_follows parse batchSize) Snapshot
      (fun _ allowed _ => absurd allowed id) coverage admitted taken
  · rintro index sink result rfl
    exact admitted
  · cases event with
    | act index action =>
        obtain ⟨_, _, _, _, _, _, rfl⟩ := TaskMachine.step_act taken
        exact snapshot
    | env event =>
        obtain ⟨_, _, _, rfl⟩ := TaskMachine.step_env taken
        exact snapshot
    | change change => exact absurd admitted id

/-- The initial state of a run from the persisted watermark. -/
theorem Reachable.initial
    (unique : (table.map SourceRow.id).Nodup)
    (whole : ∀ row ∈ table, row.WholeMillis)
    (checkpoint : Option ReplicationCheckpoint) :
    Reachable parse batchSize (codec.persisted checkpoint) table
      ((program parse batchSize).initial table checkpoint) where
  coverage := CursorDiscipline.invariant_initial
    ⟨⟨keysetTable unique whole, fun _ _ notAbove _ above =>
        absurd above (not_lt_of_ge notAbove)⟩, trivial⟩
  named := nofun
  snapshot := rfl

/--
Zero loss of the incremental runner: every row above the starting watermark and
not above the persisted one is covered at both sinks, and a batch commits a
watermark strictly above the one it was fetched from.
-/
theorem incremental_zeroLoss
    {checkpoint : Option ReplicationCheckpoint}
    {events : List RunnerProgram.Event}
    {reached : World}
    (unique : (table.map SourceRow.id).Nodup)
    (whole : ∀ row ∈ table, row.WholeMillis)
    (run :
      Run (program parse batchSize).machine.step Snapshot
        ((program parse batchSize).initial table checkpoint)
        events reached) :
    (∀ row ∈ table,
      codec.persisted checkpoint < row.watermark →
      row.watermark ≤ codec.persisted reached.shared.checkpoint →
      reached.shared.Covered row) ∧
    ∀ records data answer,
      .commitCheckpoint records data answer ∈ reached.tasks →
      (∃ after, (program parse batchSize).fetch table after = records) ∧
        ∀ after, (program parse batchSize).fetch table after = records →
          after < codec.ofCommit data := by
  obtain ⟨coverage, named, rfl⟩ :=
    (Reachable.initial unique whole checkpoint).run run
  constructor
  · intro row member above notAbove
    exact coverage.global.1.2 row member notAbove named above
  · intro records data answer member
    obtain ⟨_, ⟨_, fetched⟩, last, isLast, sameCursor⟩ :=
      coverage.local_ _ member
    refine ⟨fetched, fun after fetchedFrom => ?_⟩
    rw [sameCursor]
    exact fetchesAbove parse batchSize _ after last
      (fetchedFrom ▸ List.mem_of_getLast? isLast)

/-- The first batch of a run that has just started, up to its dispatch. -/
def sampleStart : List RunnerProgram.Event :=
  [.env .start, .act 0 (.serve 0), .act 0 (.turn 0), .act 0 (.serve 0),
    .act 0 (.turn 0), .act 0 (.serve 0), .act 0 (.turn 0),
    .act 0 (.serve 0), .act 0 (.turn 0),
    .act 0 (.begin .elasticsearch), .act 0 (.begin .rabbitmq)]

/-- The first of two rows that share a millisecond fails and is committed. -/
def sampleFailure : List RunnerProgram.Event :=
  sampleStart ++
    [.act 0 (.settle .rabbitmq (some (sampleResult [1] []))),
      .act 0 (.settle .elasticsearch (some (sampleResult [] [1]))),
      .act 0 (.turn 0), .act 0 (.serve 0), .act 0 (.turn 0),
      .act 0 (.serve 0)]

/-- The failed row is behind the watermark, covered, and alone so. -/
theorem incremental_zeroLoss_tiedRows :
    ∃ reached,
      Run (program (fun _ => none) 1).machine.step Snapshot
        ((program (fun _ => none) 1).initial
          [sampleRow 2 5, sampleRow 1 5] none)
        sampleFailure reached ∧
      codec.persisted reached.shared.checkpoint = ⟨5, 1⟩ ∧
      reached.shared.Covered (sampleRow 1 5) := by
  obtain ⟨reached, run, committed⟩ :
      ∃ reached,
        Run (program (fun _ => none) 1).machine.step Snapshot
          ((program (fun _ => none) 1).initial
            [sampleRow 2 5, sampleRow 1 5] none)
          sampleFailure reached ∧
        codec.persisted reached.shared.checkpoint = ⟨5, 1⟩ :=
    Run.exists_of_replay _ (by decide)
  have covered :=
    (incremental_zeroLoss (by decide) (by decide) run).1
  exact ⟨reached, run, committed,
    covered (sampleRow 1 5) (by simp) (by decide)
      (committed ▸ by decide)⟩

end IncrementalRunner

end Replication
