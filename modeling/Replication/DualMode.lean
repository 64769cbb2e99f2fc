import Replication.CdcUpdates
import Replication.LastFetch

namespace Replication

/-!
# Both runners over one table

`PipelineCoordinator.start` launches the backfill and the incremental runner
together.  The backfill runner stops for good at its first fetch without rows;
from then on new rows are left to the incremental runner, whose cursor is a
timestamp.  A row inserted after that fetch with a timestamp that the
incremental runner has already passed is seen by neither.  Every other row is
dispatched by one of the two.
-/

variable {Cursor Gauges : Type}

/-- A batch handed to the sinks contains the row. -/
def RunnerState.Dispatched
    (state : RunnerState Cursor Gauges)
    (row : SourceRow) : Prop :=
  ∃ records ∈ state.history.dispatched,
    ∃ record ∈ records, record.id = row.id

instance
    (state : RunnerState Cursor Gauges)
    (row : SourceRow) :
    Decidable (state.Dispatched row) :=
  inferInstanceAs (Decidable (∃ records ∈ state.history.dispatched, _))

/-- A dispatch is not undone. -/
theorem RunnerState.Extends.dispatchedRow
    {before after : RunnerState Cursor Gauges}
    {row : SourceRow}
    (extended : before.Extends after)
    (dispatched : before.Dispatched row) :
    after.Dispatched row := by
  obtain ⟨records, member, contains⟩ := dispatched
  exact ⟨records, extended.dispatched records member, contains⟩

/-- Being dispatched, or otherwise settled, is a notion of coverage. -/
theorem dispatched_coverage
    (program : RunnerProgram Cursor Gauges)
    (otherwise : SourceRow → Prop) :
    Coverage program fun state row => state.Dispatched row ∨ otherwise row where
  finished := by
    rintro state rows row ⟨_, _, returned, _⟩ member
    exact .inl ⟨_, returned.dispatched, _, List.mem_map_of_mem member, rfl⟩
  extend extended := Or.imp_left extended.dispatchedRow

/-- The two runners of a pipeline, each with its view of the same table. -/
structure DualWorld where
  backfill : BackfillRunner.World
  incremental : IncrementalRunner.World
  /--
  Rows inserted after the last fetch of the backfill and not above what the
  incremental runner had fetched up to, kept for the statement.
  -/
  passedOver : List SourceRow

/-- A step of a suspended call of either runner, or an insert. -/
inductive DualEvent where
  | backfill (index : Nat) (action : Act)
  | incremental (index : Nat) (action : Act)
  | insert (row : SourceRow)
  deriving Repr

namespace DualMode

/-- Take one step of the pipeline. -/
def step
    (parse : String → Option Json)
    (batchSize : Nat)
    (world : DualWorld) : DualEvent → Option DualWorld
  | .backfill index action =>
      ((BackfillRunner.program parse batchSize).machine.step
          world.backfill (.act index action)).map
        fun backfill => { world with backfill }
  | .incremental index action =>
      ((IncrementalRunner.program parse batchSize).machine.step
          world.incremental (.act index action)).map
        fun incremental => { world with incremental }
  | .insert row =>
      match
        (BackfillRunner.program parse batchSize).machine.step
          world.backfill (.change (.insert row)),
        (IncrementalRunner.program parse batchSize).machine.step
          world.incremental (.change (.insert row)) with
      | some backfill, some incremental =>
          some
            { backfill
              incremental
              passedOver :=
                if PastLastFetch world.backfill ∧
                    ¬ AboveFrontier IncrementalRunner.codec
                      world.incremental row then
                  row :: world.passedOver
                else
                  world.passedOver }
      | _, _ => none

/-- Both runners right after `start()` has been called on each. -/
def initial
    (parse : String → Option Json)
    (batchSize : Nat)
    (table : List SourceRow)
    (backfillRow incrementalRow : Option ReplicationCheckpoint) :
    DualWorld where
  backfill :=
    (BackfillRunner.program parse batchSize).launched table backfillRow
  incremental :=
    (IncrementalRunner.program parse batchSize).launched table incrementalRow
  passedOver := []

/-- Inserted rows have fresh highest ids and millisecond timestamps. -/
def FreshRows (world : DualWorld) : DualEvent → Prop
  | .insert row =>
      IsKey row.id ∧ row.WholeMillis ∧
        ∀ old ∈ world.backfill.context, old.id < row.id
  | _ => True

instance (world : DualWorld) : DecidablePred (FreshRows world)
  | .backfill _ _ => isTrue trivial
  | .incremental _ _ => isTrue trivial
  | .insert _ => inferInstanceAs (Decidable (_ ∧ _))

/-- A row that is not left to the incremental runner. -/
def Excused (world : DualWorld) (row : SourceRow) : Prop :=
  ¬ PastLastFetch world.backfill ∨
    world.backfill.shared.Dispatched row ∨ row ∈ world.passedOver

section Invariant

variable
  {parse : String → Option Json}
  {batchSize : Nat}

/-- Every copy of the backfill cursor has the rows up to it dispatched. -/
abbrev BackfillInvariant
    (parse : String → Option Json)
    (batchSize : Nat) : BackfillRunner.World → Prop :=
  TaskMachine.Invariant
    (CursorDiscipline.Global BackfillRunner.codec
      (BackfillRunner.Sound parse batchSize fun state row =>
        state.Dispatched row ∨ False))
    (CursorDiscipline.Local BackfillRunner.codec
      (BackfillRunner.Sound parse batchSize fun state row =>
        state.Dispatched row ∨ False)
      (BackfillRunner.Fetched parse batchSize fun state row =>
        state.Dispatched row ∨ False))

/-- Every copy of the watermark has the rows up to it dispatched or excused. -/
abbrev IncrementalInvariant
    (parse : String → Option Json)
    (batchSize : Nat)
    (excused : SourceRow → Prop) : IncrementalRunner.World → Prop :=
  TaskMachine.Invariant
    (CursorDiscipline.Global IncrementalRunner.codec
      (Covers (IncrementalRunner.program parse batchSize)
        IncrementalRunner.codec fun state row =>
          state.Dispatched row ∨ excused row))
    (CursorDiscipline.Local IncrementalRunner.codec
      (Covers (IncrementalRunner.program parse batchSize)
        IncrementalRunner.codec fun state row =>
          state.Dispatched row ∨ excused row)
      (CoversBatch (IncrementalRunner.program parse batchSize)
        IncrementalRunner.codec fun state row =>
          state.Dispatched row ∨ excused row))

/-- What holds in every state of a pipeline. -/
structure Invariant
    (parse : String → Option Json)
    (batchSize : Nat)
    (world : DualWorld) : Prop where
  sameTable : world.incremental.context = world.backfill.context
  keys : PrimaryKeys world.backfill.context
  whole : ∀ row ∈ world.backfill.context, row.WholeMillis
  backfill : BackfillInvariant parse batchSize world.backfill
  incremental :
    IncrementalInvariant parse batchSize (Excused world) world.incremental

/-- A step that takes the backfill past its last fetch has dispatched all. -/
theorem pastLastFetch_step
    {before after : BackfillRunner.World}
    {index : Nat}
    {action : Act}
    (holds : BackfillInvariant parse batchSize before)
    (taken :
      (BackfillRunner.program parse batchSize).machine.step before
        (.act index action) = some after)
    (past : PastLastFetch after) :
    PastLastFetch before ∨
      ∀ row ∈ before.context, before.shared.Dispatched row := by
  obtain ⟨call, shared, next, spawned, found, moved, rfl⟩ :=
    TaskMachine.step_act taken
  have member := List.mem_of_getElem? found
  have step := (BackfillRunner.program_follows parse batchSize).act_spec moved
  rcases past with ⟨answer, answerMember, empty⟩ | completed
  · rcases TaskMachine.mem_set_append answerMember with
      old | rfl | new
    · exact .inl (.inl ⟨answer, old, empty⟩)
    · obtain ⟨cursor, rfl, selected⟩ := answeredEmpty_of_step step empty
      obtain ⟨_, parameter, _⟩ := holds.local_ _ member
      refine .inr fun row rowMember => ?_
      exact (parameter.1.all_of_fetch_nil selected rowMember).resolve_right id
    · exact absurd empty (spawned_not_answeredEmpty step answer new)
  · rcases completed_of_step step completed with already | empty
    · exact .inl (.inr already)
    · exact .inl (.inl ⟨call, member, empty⟩)

/-- A step of the backfill runner keeps the invariant. -/
theorem Invariant.backfill_step
    {world : DualWorld}
    {index : Nat}
    {action : Act}
    {backfill : BackfillRunner.World}
    (holds : Invariant parse batchSize world)
    (taken :
      (BackfillRunner.program parse batchSize).machine.step
        world.backfill (.act index action) = some backfill) :
    Invariant parse batchSize { world with backfill } := by
  have sameContext : backfill.context = world.backfill.context := by
    obtain ⟨_, _, _, _, _, _, rfl⟩ := TaskMachine.step_act taken
    rfl
  have extended := RunnerState.Extends.of_step taken
  have excused :
      ∀ row ∈ world.incremental.context,
        world.incremental.shared.Dispatched row ∨ Excused world row →
        world.incremental.shared.Dispatched row ∨
          Excused { world with backfill } row := by
    intro row member
    refine Or.imp_right ?_
    rintro (notPast | dispatched | passed)
    · by_cases past : PastLastFetch backfill
      · rcases pastLastFetch_step holds.backfill taken past with
          already | all
        · exact absurd already notPast
        · exact .inr (.inl (extended.dispatchedRow
            (all row (holds.sameTable ▸ member))))
      · exact .inl past
    · exact .inr (.inl (extended.dispatchedRow dispatched))
    · exact .inr (.inr passed)
  constructor
  · exact holds.sameTable.trans sameContext.symm
  · exact sameContext ▸ holds.keys
  · exact sameContext ▸ holds.whole
  · have coverage := dispatched_coverage
      (BackfillRunner.program parse batchSize) fun _ => False
    exact (coverage.discipline.and known_discipline).invariant_step
      (BackfillRunner.program_follows parse batchSize)
      (fun _ event => ∃ index action, event = .act index action)
      (fun _ ⟨_, _, isAct⟩ _ => by cases isAct)
      holds.backfill ⟨index, action, rfl⟩ taken
  · obtain ⟨global, each⟩ := Covers.change
      (fun state row =>
        state.Dispatched row ∨ Excused { world with backfill } row)
      holds.incremental excused holds.incremental.global.1
      fun _ => .inl
    exact ⟨global, each⟩

/-- A step of the incremental runner keeps the invariant. -/
theorem Invariant.incremental_step
    {world : DualWorld}
    {index : Nat}
    {action : Act}
    {incremental : IncrementalRunner.World}
    (holds : Invariant parse batchSize world)
    (taken :
      (IncrementalRunner.program parse batchSize).machine.step
        world.incremental (.act index action) = some incremental) :
    Invariant parse batchSize { world with incremental } := by
  have sameContext :
      incremental.context = world.incremental.context := by
    obtain ⟨_, _, _, _, _, _, rfl⟩ := TaskMachine.step_act taken
    rfl
  have coverage := dispatched_coverage
    (IncrementalRunner.program parse batchSize) (Excused world)
  exact ⟨sameContext.trans holds.sameTable, holds.keys, holds.whole,
    holds.backfill,
    coverage.discipline.invariant_step
      (IncrementalRunner.program_follows parse batchSize)
      (fun _ event => ∃ index action, event = .act index action)
      (fun _ ⟨_, _, isAct⟩ _ => by cases isAct)
      holds.incremental ⟨index, action, rfl⟩ taken⟩

/-- What an insert does to one runner's world. -/
theorem insert_spec
    {program : RunnerProgram Cursor Gauges}
    {before after : RunnerProgram.World Cursor Gauges}
    {row : SourceRow}
    (taken :
      program.machine.step before (.change (.insert row)) = some after) :
    (SourceChange.insert row).apply before.context =
        some (before.context ++ [row]) ∧
      after = { before with context := before.context ++ [row] } := by
  obtain ⟨changed, applied, rfl⟩ := TaskMachine.step_change taken
  have inserted : (SourceChange.insert row).apply before.context =
      some changed := applied
  have appended : changed = before.context ++ [row] := by
    simp only [SourceChange.apply] at inserted
    split at inserted
    · exact (Option.some.inj inserted).symm
    · cases inserted
  subst appended
  exact ⟨inserted, rfl⟩

/-- An insert keeps the invariant. -/
theorem Invariant.insert_step
    {world after : DualWorld}
    {row : SourceRow}
    (holds : Invariant parse batchSize world)
    (fresh : FreshRows world (.insert row))
    (taken : step parse batchSize world (.insert row) = some after) :
    Invariant parse batchSize after := by
  obtain ⟨isKey, wholeRow, highest⟩ := fresh
  simp only [step] at taken
  split at taken
  · rename_i backfill incremental backfillTaken incrementalTaken
    obtain ⟨applied, rfl⟩ := insert_spec backfillTaken
    obtain ⟨_, rfl⟩ := insert_spec incrementalTaken
    cases taken
    have keys :=
      BackfillRunner.primaryKeys_insert holds.keys isKey highest
    have whole :
        ∀ new ∈ world.backfill.context ++ [row], new.WholeMillis := by
      intro new member
      rcases List.mem_append.mp member with old | isNew
      · exact holds.whole new old
      · exact List.mem_singleton.mp isNew ▸ wholeRow
    have grown := BackfillRunner.growing_keeps holds.backfill.global
      holds.backfill.local_ ⟨row, rfl, isKey, highest⟩ applied
    have changed := Covers.change
      (fun state new => state.Dispatched new ∨
        Excused
          { backfill :=
              { world.backfill with
                context := world.backfill.context ++ [row] }
            incremental :=
              { world.incremental with
                context := world.incremental.context ++ [row] }
            passedOver :=
              if PastLastFetch world.backfill ∧
                  ¬ AboveFrontier IncrementalRunner.codec
                    world.incremental row then
                row :: world.passedOver
              else
                world.passedOver } new)
      holds.incremental ?_
      (IncrementalRunner.keysetTable
        (holds.sameTable ▸ keys.unique) (holds.sameTable ▸ whole)) ?_
    · exact ⟨by rw [holds.sameTable], keys, whole,
        ⟨grown.1, grown.2⟩, ⟨changed.1, changed.2⟩⟩
    · intro old _
      refine Or.imp_right (Or.imp_right (Or.imp_right ?_))
      intro passed
      dsimp only
      split
      · exact List.mem_cons_of_mem _ passed
      · exact passed
    · intro new member
      rcases List.mem_append.mp member with old | isNew
      · exact .inl old
      · obtain rfl := List.mem_singleton.mp isNew
        by_cases past : PastLastFetch world.backfill
        · by_cases above :
              AboveFrontier IncrementalRunner.codec world.incremental new
          · exact .inr (.inr above)
          · exact .inr (.inl (.inr (.inr (.inr (by
              simp [past, above])))))
        · exact .inr (.inl (.inr (.inl past)))
  · cases taken

/-- Every step of a pipeline keeps the invariant. -/
theorem Invariant.step
    {before after : DualWorld}
    {event : DualEvent}
    (holds : Invariant parse batchSize before)
    (fresh : FreshRows before event)
    (taken : step parse batchSize before event = some after) :
    Invariant parse batchSize after := by
  cases event with
  | backfill index action =>
      obtain ⟨backfill, moved, rfl⟩ := Option.map_eq_some_iff.mp taken
      exact holds.backfill_step moved
  | incremental index action =>
      obtain ⟨incremental, moved, rfl⟩ := Option.map_eq_some_iff.mp taken
      exact holds.incremental_step moved
  | insert row =>
      exact holds.insert_step fresh taken

/-- The launched runners satisfy the invariant. -/
theorem Invariant.initial
    {table : List SourceRow}
    {backfillRow incrementalRow : Option ReplicationCheckpoint}
    (keys : PrimaryKeys table)
    (whole : ∀ row ∈ table, row.WholeMillis)
    (fromZero : BackfillRunner.codec.persisted backfillRow = 0) :
    Invariant parse batchSize
      (initial parse batchSize table backfillRow incrementalRow) where
  sameTable := rfl
  keys := keys
  whole := whole
  backfill := by
    have keyset :
        KeysetTable (BackfillRunner.program parse batchSize)
          BackfillRunner.codec table :=
      BackfillRunner.keysetTable keys.injective
    constructor
    · refine ⟨⟨keyset, ?_⟩, keyset, .inl fromZero⟩
      intro row member notAbove
      have atZero : row.id ≤ 0 := fromZero ▸ notAbove
      exact absurd (keys.positive row member) (Nat.not_lt.mpr atZero)
    · intro call member
      obtain rfl := List.mem_singleton.mp member
      exact nofun
  incremental := by
    constructor
    · refine ⟨IncrementalRunner.keysetTable keys.unique whole, ?_⟩
      intro row _ _
      refine .inr (.inl ?_)
      rintro (⟨call, member, empty⟩ | completed)
      · obtain rfl := List.mem_singleton.mp member
        exact empty
      · cases completed
    · intro call member
      obtain rfl := List.mem_singleton.mp member
      exact nofun

end Invariant

/--
Once the backfill has completed and an incremental fetch finds nothing, every
row has been dispatched by one of the two runners, unless it was inserted after
the last fetch of the backfill and not above what the incremental runner had
fetched up to.
-/
theorem every_row_dispatched_or_passedOver
    {parse : String → Option Json}
    {batchSize : Nat}
    {table : List SourceRow}
    {backfillRow incrementalRow : Option ReplicationCheckpoint}
    {events : List DualEvent}
    {reached : DualWorld}
    {index : Nat}
    {fetched : IncrementalRunner.World}
    (keys : PrimaryKeys table)
    (whole : ∀ row ∈ table, row.WholeMillis)
    (fromZero : BackfillRunner.codec.persisted backfillRow = 0)
    (run :
      Run (step parse batchSize) FreshRows
        (initial parse batchSize table backfillRow incrementalRow)
        events reached)
    (completed : reached.backfill.shared.memory.status = .completed)
    (nothing :
      FetchedNothing (IncrementalRunner.program parse batchSize)
        reached.incremental index fetched) :
    ∀ row ∈ reached.backfill.context,
      reached.backfill.shared.Dispatched row ∨
        fetched.shared.Dispatched row ∨ row ∈ reached.passedOver := by
  have holds := run.invariant (Invariant parse batchSize)
    (fun holds fresh taken => holds.step fresh taken)
    (Invariant.initial keys whole fromZero)
  obtain ⟨cursor, isPending, selected, _, sameState⟩ := nothing.spec
  obtain ⟨_, parameter, _⟩ := holds.incremental.local_ _ isPending
  intro row member
  rcases parameter.all_of_fetch_nil selected
      (holds.sameTable.symm ▸ member) with
    dispatched | notPast | dispatched | passed
  · exact .inr (.inl (sameState ▸ dispatched))
  · exact absurd (.inr completed) notPast
  · exact .inl dispatched
  · exact .inr (.inr passed)

/-- A runner's first batch, from its checkpoint to the commit. -/
def sampleFirst (queries : List Act) (ids : List Nat) : List Act :=
  [.serve 0, .turn 0, .serve 0, .turn 0] ++ queries ++
    [.begin .elasticsearch, .begin .rabbitmq,
      .settle .elasticsearch (some (sampleResult ids [])),
      .settle .rabbitmq (some (sampleResult ids [])),
      .turn 0, .serve 0, .turn 0]

/-- The incremental runner replicates one row and is about to poll again. -/
def samplePolling : List DualEvent :=
  (sampleFirst [.serve 0, .turn 0, .serve 0, .turn 0] [1]).map
      (.incremental 0) ++
    [.incremental 0 (.turn 0), .incremental 0 (.serve 0),
      .incremental 0 (.turn 0)]

/-- The backfill replicates the rows with these ids and completes. -/
def sampleBackfill (ids : List Nat) : List DualEvent :=
  (sampleFirst [.serve 0, .turn 0] ids).map (.backfill 0) ++
    [.backfill 0 (.serve 0), .backfill 0 (.turn 0),
      .backfill 0 (.serve 0), .backfill 0 (.turn 0)]

/-- A row is inserted behind the watermark while the backfill still runs. -/
def sampleInTime : List DualEvent :=
  samplePolling ++ [.insert (sampleRow 2 3)] ++ sampleBackfill [1, 2]

/-- The backfill dispatches that row, and nothing is passed over. -/
theorem every_row_dispatched_insertInTime :
    ∃ (reached : DualWorld) (fetched : IncrementalRunner.World),
      FetchedNothing (IncrementalRunner.program (fun _ => none) 2)
        reached.incremental 0 fetched ∧
      reached.backfill.context.length = 2 ∧
      ∀ row ∈ reached.backfill.context,
        reached.backfill.shared.Dispatched row ∨
          fetched.shared.Dispatched row := by
  obtain ⟨reached, run, completed, noneLate, two, polled⟩ :
      ∃ reached,
        Run (step (fun _ => none) 2) FreshRows
          (initial (fun _ => none) 2 [sampleRow 1 5] none none)
          sampleInTime reached ∧
        reached.backfill.shared.memory.status = .completed ∧
        reached.passedOver.isEmpty = true ∧
        reached.backfill.context.length = 2 ∧
        ((IncrementalRunner.program (fun _ => none) 2).machine.step
          reached.incremental (.act 0 (.serve 0))).any
          (fun fetched =>
            (∃ call ∈ fetched.tasks[0]?, call.AnsweredEmpty) ∧
              fetched.tasks.length = 1) =
          true :=
    Run.exists_of_replay _ (by decide)
  obtain ⟨fetched, nothing, _⟩ :=
    FetchedNothing.exists_of_step 0
      (fun fetched : IncrementalRunner.World => fetched.tasks.length = 1)
      polled
  refine ⟨reached, fetched, nothing, two, fun row member => ?_⟩
  rcases every_row_dispatched_or_passedOver
      ⟨by decide, by decide⟩ (by decide) rfl run completed nothing
      row member with
    dispatched | dispatched | passed
  · exact .inl dispatched
  · exact .inr dispatched
  · rw [List.isEmpty_iff.mp noneLate] at passed
    cases passed

/-- The same row is inserted after the backfill has completed. -/
def sampleTooLate : List DualEvent :=
  samplePolling ++ sampleBackfill [1] ++ [.insert (sampleRow 2 3)]

/-- The incremental fetch finds nothing, and no runner has dispatched it. -/
theorem backdated_row_never_dispatched :
    ∃ reached fetched,
      Run (step (fun _ => none) 2) FreshRows
        (initial (fun _ => none) 2 [sampleRow 1 5] none none)
        sampleTooLate reached ∧
      reached.backfill.shared.memory.status = .completed ∧
      FetchedNothing (IncrementalRunner.program (fun _ => none) 2)
        reached.incremental 0 fetched ∧
      ∃ row ∈ reached.backfill.context,
        row.id = 2 ∧ ¬ reached.backfill.shared.Dispatched row ∧
          ¬ fetched.shared.Dispatched row := by
  obtain ⟨reached, run, completed, polled⟩ :
      ∃ reached,
        Run (step (fun _ => none) 2) FreshRows
          (initial (fun _ => none) 2 [sampleRow 1 5] none none)
          sampleTooLate reached ∧
        reached.backfill.shared.memory.status = .completed ∧
        ((IncrementalRunner.program (fun _ => none) 2).machine.step
          reached.incremental (.act 0 (.serve 0))).any
          (fun fetched =>
            (∃ call ∈ fetched.tasks[0]?, call.AnsweredEmpty) ∧
              ∃ row ∈ reached.backfill.context,
                row.id = 2 ∧
                  ¬ reached.backfill.shared.Dispatched row ∧
                  ¬ fetched.shared.Dispatched row) =
          true :=
    Run.exists_of_replay _ (by decide)
  obtain ⟨fetched, nothing, missed⟩ :=
    FetchedNothing.exists_of_step 0 _ polled
  exact ⟨reached, fetched, run, completed, nothing, missed⟩

end DualMode

end Replication
