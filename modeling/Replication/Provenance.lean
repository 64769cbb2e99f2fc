import Replication.Accounting
import Mathlib

namespace Replication

open Accounting (FailuresNamed)

/-!
# Where dead letters come from

The runners invent nothing.  Whatever the calls of a runner do to each other,
a batch that reaches a sink is made of versions of rows that the table has held,
and a dead letter is what one sink has reported about one of them.  The rows
that a table has held in a run are those it started with and those that its
other clients have written.
-/

variable {Cursor Gauges : Type}

/-- The row that a client writes. -/
def writtenRow : RunnerProgram.Event → Option SourceRow
  | .change (.insert row) => some row
  | .change (.update _ row) => some row
  | _ => none

/-- The rows that the table has held in a run. -/
def rowsEver
    (table : List SourceRow)
    (events : List RunnerProgram.Event) : List SourceRow :=
  table ++ events.filterMap writtenRow

/-- A result that settles a sink call fails records of its batch only. -/
def FailsNamed
    (world : RunnerProgram.World Cursor Gauges) :
    RunnerProgram.Event → Prop
  | .act index (.settle _ (some result)) =>
      ∀ call ∈ world.tasks[index]?,
        FailuresNamed result (RunnerProgram.batchOf call)
  | _ => True

instance (world : RunnerProgram.World Cursor Gauges) :
    DecidablePred (FailsNamed world)
  | .act _ (.settle _ (some _)) =>
      inferInstanceAs (Decidable (∀ call ∈ world.tasks[_]?, _))
  | .act _ (.settle _ none) => isTrue trivial
  | .act _ (.serve _) => isTrue trivial
  | .act _ .reject => isTrue trivial
  | .act _ (.begin _) => isTrue trivial
  | .act _ (.turn _) => isTrue trivial
  | .env _ => isTrue trivial
  | .change _ => isTrue trivial

/-- Every row of the table is one of those. -/
def DrawnFrom (rows table : List SourceRow) : Prop :=
  ∀ row ∈ table, row ∈ rows

/-- Every record is one of those rows as the runners see it. -/
def RecordsOf
    (parse : String → Option Json)
    (rows : List SourceRow)
    (records : List SourceRecord) : Prop :=
  ∀ record ∈ records, ∃ row ∈ rows, record = mapRowToSourceRecord parse row

/-- A fetch returns rows of the table. -/
def FetchesRows (program : RunnerProgram Cursor Gauges) : Prop :=
  ∀ table cursor, RecordsOf program.parse table (program.fetch table cursor)

/-- So does that of the backfill runner. -/
theorem BackfillRunner.fetchesRows
    (parse : String → Option Json)
    (batchSize : Nat) :
    FetchesRows (program parse batchSize) := by
  intro table cursor record member
  obtain ⟨row, inPage, rfl⟩ := List.mem_map.mp member
  exact ⟨row, (Keyset.of_mem_page inPage).1, rfl⟩

/-- So does that of the incremental runner. -/
theorem IncrementalRunner.fetchesRows
    (parse : String → Option Json)
    (batchSize : Nat) :
    FetchesRows (program parse batchSize) := by
  intro table cursor record member
  obtain ⟨row, inBatch, rfl⟩ := List.mem_map.mp member
  have selected : row ∈ SourceReader.incrementalRows table cursor :=
    (List.mem_insertionSort _).mp (List.mem_of_mem_take inBatch)
  exact ⟨row, List.mem_of_mem_filter selected, rfl⟩

/-! ### Dead letters -/

/-- The dead letter says what a sink has reported about a row. -/
structure Documents
    (parse : String → Option Json)
    (report : Report)
    (failure : SinkFailure)
    (row : SourceRow)
    (entry : DLQEntry) : Prop where
  recordId : entry.recordId = some row.id
  recordUuid :
    entry.recordUuid = (some row.uuid).filter fun uuid => uuid != ""
  sinkTarget : entry.sinkTarget = report.sink.target
  errorCode : entry.errorCode = parameterText failure.errorCode
  errorMessage : entry.errorMessage = parameterText failure.errorReason
  /-- The payload column is the one of the row, unless that is falsy. -/
  payload :
    (mapRowToSourceRecord parse row).payload.truthy = true →
      DLQStore.payloadColumn parse (mapRowToSourceRecord parse row).payload =
        some entry.payload
  isNew : entry.status = .pending ∧ entry.retryCount = 0

/-- A sink has reported the failure, and one of those rows has failed. -/
def Documented
    (parse : String → Option Json)
    (rows : List SourceRow)
    (history : History)
    (entry : DLQEntry) : Prop :=
  ∃ report ∈ history.reports,
    ∃ failure ∈ report.result.failures,
      ∃ row ∈ rows,
        mapRowToSourceRecord parse row ∈ report.records ∧
          row.id = failure.recordId ∧
            Documents parse report failure row entry

/-- A row inserted for a list of failures is the row of one of them. -/
theorem DLQStore.of_mem_insertedRows
    {parse : String → Option Json}
    {now : Int}
    {nextId : Nat}
    {failures : List NewDLQEntry}
    {rows : List DLQEntry}
    (inserted : insertedRows parse now nextId failures = some rows)
    {entry : DLQEntry}
    (member : entry ∈ rows) :
    ∃ failure ∈ failures, ∃ id,
      insertedRow parse now id failure = some entry := by
  induction failures generalizing nextId rows with
  | nil =>
      cases inserted
      cases member
  | cons failure rest inductionHypothesis =>
      simp only [insertedRows] at inserted
      split at inserted
      · rename_i row others headRow restRows
        cases inserted
        rcases List.mem_cons.mp member with rfl | inRest
        · exact ⟨failure, List.mem_cons_self, nextId, headRow⟩
        · obtain ⟨found, foundMember, id, isEntry⟩ :=
            inductionHypothesis restRows inRest
          exact ⟨found, List.mem_cons_of_mem _ foundMember, id, isEntry⟩
      · cases inserted

/-- The record of an id in the batch is a record of the batch. -/
theorem exists_recordOf
    {records : List SourceRecord}
    {id : Nat}
    (inBatch : id ∈ records.map SourceRecord.id) :
    ∃ record ∈ records, recordOf records id = some record ∧ record.id = id := by
  obtain ⟨other, otherMember, otherId⟩ := List.mem_map.mp inBatch
  have found : (recordOf records id).isSome = true := by
    unfold recordOf
    rw [List.find?_isSome]
    exact ⟨other, List.mem_reverse.mpr otherMember, decide_eq_true otherId⟩
  obtain ⟨record, isRecord⟩ := Option.isSome_iff_exists.mp found
  have member := List.mem_of_find?_eq_some isRecord
  have sameId := List.find?_some isRecord
  exact ⟨record, List.mem_reverse.mp member, isRecord,
    of_decide_eq_true sameId⟩

/-- The dead letter of a failure documents it. -/
theorem documents_of_insertedRow
    {parse : String → Option Json}
    {rows : List SourceRow}
    {report : Report}
    {failure : SinkFailure}
    {now : Int}
    {id : Nat}
    {entry : DLQEntry}
    (drawn : RecordsOf parse rows report.records)
    (inBatch : failure.recordId ∈ report.records.map SourceRecord.id)
    (inserted :
      DLQStore.insertedRow parse now id
        (dlqEntry report.records report.sink failure) = some entry) :
    ∃ row ∈ rows,
      mapRowToSourceRecord parse row ∈ report.records ∧
        row.id = failure.recordId ∧
          Documents parse report failure row entry := by
  obtain ⟨record, member, isRecord, sameId⟩ := exists_recordOf inBatch
  obtain ⟨row, inRows, rfl⟩ := drawn record member
  rw [mapRowToSourceRecord_id] at sameId
  obtain ⟨payload, column, rfl⟩ := Option.map_eq_some_iff.mp inserted
  refine ⟨row, inRows, member, sameId, ?_⟩
  constructor
  · exact congrArg some sameId.symm
  · simp only [dlqEntry, isRecord, Option.map_some]
    rfl
  · rfl
  · rfl
  · rfl
  · intro truthy
    simpa [dlqEntry, isRecord, Json.orElse, truthy] using column
  · exact ⟨rfl, rfl⟩

/-- Reports are kept, so what is documented stays so. -/
theorem Documented.extend
    {parse : String → Option Json}
    {rows : List SourceRow}
    {before after : RunnerState Cursor Gauges}
    {entry : DLQEntry}
    (documented : Documented parse rows before.history entry)
    (extended : before.Extends after) :
    Documented parse rows after.history entry := by
  obtain ⟨report, reported, rest⟩ := documented
  exact ⟨report, extended.reports report reported, rest⟩

section Runs

variable
  {program : RunnerProgram Cursor Gauges}
  {kind : RunnerKind}
  {codec : CursorCodec Cursor}
  {rows : List SourceRow}
  {table : List SourceRow}
  {state after : RunnerState Cursor Gauges}
  {call next : Call Cursor}
  {action : Act}
  {spawned : List (Call Cursor)}

/-- Fetching from a table that is drawn from the rows. -/
abbrev SoundTable
    (rows table : List SourceRow)
    (_ : RunnerState Cursor Gauges)
    (_ : Cursor) : Prop :=
  DrawnFrom rows table

/-- Batches that are drawn from the rows. -/
abbrev SoundBatch
    (parse : String → Option Json)
    (rows table : List SourceRow)
    (_ : RunnerState Cursor Gauges)
    (records : List SourceRecord) : Prop :=
  DrawnFrom rows table ∧ RecordsOf parse rows records

/-- That batches are drawn from the rows is a discipline. -/
theorem provenance_discipline
    (fetchesRows : FetchesRows program)
    (rows : List SourceRow) :
    CursorDiscipline program codec (SoundTable rows)
      (SoundBatch program.parse rows) where
  fetch sound := by
    refine ⟨sound, ?_⟩
    intro record member
    obtain ⟨row, inTable, isRow⟩ := fetchesRows _ _ record member
    exact ⟨row, sound row inTable, isRow⟩
  advance fetched _ _ := fetched.1
  soundExtends _ sound := sound
  fetchedExtends _ fetched := fetched

/-- Dead letters are inserted for the failures of a batch. -/
theorem deadLetter_of_step
    (step :
      Step program kind codec table state call action after next spawned)
    {entry : DLQEntry}
    (member : entry ∈ after.deadLetterQueue) :
    entry ∈ state.deadLetterQueue ∨
      ∃ records esResult rmqResult now inserted,
        call = .persistFailures records esResult rmqResult .pending ∧
          DLQStore.insertedRows program.parse now
              (state.deadLetterQueue.length + 1)
              (dlqEntries records esResult rmqResult) = some inserted ∧
            entry ∈ inserted := by
  cases step with
  | serve now served =>
      cases served with
      | persisted records esResult rmqResult stored =>
          obtain ⟨inserted, isInserted, rfl⟩ :=
            Option.map_eq_some_iff.mp stored
          rcases List.mem_append.mp member with old | new
          · exact .inl old
          · exact .inr ⟨records, esResult, rmqResult, now, inserted, rfl,
              isInserted, new⟩
      | _ => exact .inl member
  | _ => exact .inl member

/-- Batches are dispatched by the turn that has been given them. -/
theorem dispatched_of_step
    (step :
      Step program kind codec table state call action after next spawned)
    {records : List SourceRecord}
    (member : records ∈ after.history.dispatched) :
    records ∈ state.history.dispatched ∨
      next = .dispatch records .waiting .waiting := by
  cases step with
  | serve now served => cases served <;> exact .inl member
  | reject rejected => exact .inl member
  | begin sink begun => exact .inl member
  | settle sink outcome settled =>
      simp only [RunnerProgram.noteSettled] at member
      split at member <;> exact .inl member
  | turn now turned =>
      simp only [RunnerProgram.noteDispatch] at member
      split at member
      · rcases List.mem_append.mp member with old | new
        · exact .inl old
        · exact .inr (List.mem_singleton.mp new ▸ rfl)
      · exact .inl member

/-- What is known in every state of a run. -/
structure Sourced
    (program : RunnerProgram Cursor Gauges)
    (codec : CursorCodec Cursor)
    (rows : List SourceRow)
    (world : RunnerProgram.World Cursor Gauges) : Prop where
  batches :
    TaskMachine.Invariant
      (CursorDiscipline.Global codec (SoundTable rows))
      (CursorDiscipline.Local codec (SoundTable rows)
        (SoundBatch program.parse rows)) world
  named :
    ∀ report ∈ world.shared.history.reports,
      FailuresNamed report.result report.records
  dispatched :
    ∀ records ∈ world.shared.history.dispatched,
      RecordsOf program.parse rows records
  deadLetters :
    ∀ entry ∈ world.shared.deadLetterQueue,
      Documented program.parse rows world.shared.history entry

/-- The failures named, and the rows written among those. -/
def DrawsFrom
    (rows : List SourceRow)
    (world : RunnerProgram.World Cursor Gauges)
    (event : RunnerProgram.Event) : Prop :=
  FailsNamed world event ∧ ∀ row ∈ writtenRow event, row ∈ rows

/-- A change writes its row and keeps the others. -/
theorem drawnFrom_of_change
    {change : SourceChange}
    {changed : List SourceRow}
    (drawn : DrawnFrom rows table)
    (written : ∀ row ∈ writtenRow (.change change), row ∈ rows)
    (applied : change.apply table = some changed) :
    DrawnFrom rows changed := by
  intro row member
  cases change with
  | insert new =>
      simp only [SourceChange.apply] at applied
      split at applied
      · cases applied
        rcases List.mem_append.mp member with old | isNew
        · exact drawn row old
        · obtain rfl := List.mem_singleton.mp isNew
          exact written row rfl
      · cases applied
  | update id new =>
      simp only [SourceChange.apply] at applied
      split at applied
      · cases applied
        obtain ⟨old, oldMember, rfl⟩ := List.mem_map.mp member
        split
        · exact written new rfl
        · exact drawn old oldMember
      · cases applied

/-- A batch whose dispatch is known is known to be drawn from the rows. -/
theorem documented_of_insert
    {records : List SourceRecord}
    {esResult rmqResult : SinkResult}
    {now : Int}
    {nextId : Nat}
    {inserted : List DLQEntry}
    (drawn : RecordsOf program.parse rows records)
    (returned : Returned state records esResult rmqResult)
    (named :
      ∀ report ∈ state.history.reports,
        FailuresNamed report.result report.records)
    (isInserted :
      DLQStore.insertedRows program.parse now nextId
        (dlqEntries records esResult rmqResult) = some inserted)
    {entry : DLQEntry}
    (member : entry ∈ inserted) :
    Documented program.parse rows state.history entry := by
  have ofReport
      {sink : Sink}
      {result : SinkResult}
      (reported : ⟨sink, records, result⟩ ∈ state.history.reports)
      {failure : SinkFailure}
      (failed : failure ∈ result.failures)
      {id : Nat}
      (isEntry :
        DLQStore.insertedRow program.parse now id
          (dlqEntry records sink failure) = some entry) :
      Documented program.parse rows state.history entry := by
    have inBatch :=
      named _ reported failure.recordId (List.mem_map_of_mem failed)
    have drawnReport :
        RecordsOf program.parse rows (Report.mk sink records result).records :=
      drawn
    exact ⟨_, reported, failure, failed,
      documents_of_insertedRow drawnReport inBatch isEntry⟩
  obtain ⟨failure, isFailure, id, isEntry⟩ :=
    DLQStore.of_mem_insertedRows isInserted member
  rcases List.mem_append.mp isFailure with ofEs | ofRmq
  · obtain ⟨own, failed, rfl⟩ := List.mem_map.mp ofEs
    exact ofReport returned.esReport failed isEntry
  · obtain ⟨own, failed, rfl⟩ := List.mem_map.mp ofRmq
    exact ofReport returned.rmqReport failed isEntry

/-- Every step keeps what is known. -/
theorem Sourced.step
    (follows : program.Follows kind codec)
    (fetchesRows : FetchesRows program)
    {before reached : RunnerProgram.World Cursor Gauges}
    {event : RunnerProgram.Event}
    (sourced : Sourced program codec rows before)
    (admitted : DrawsFrom rows before event)
    (taken : program.machine.step before event = some reached) :
    Sourced program codec rows reached := by
  have discipline :
      CursorDiscipline program codec (SoundTable rows)
        (SoundBatch program.parse rows) :=
    provenance_discipline fetchesRows rows
  have batches :
      TaskMachine.Invariant
        (CursorDiscipline.Global codec (SoundTable rows))
        (CursorDiscipline.Local codec (SoundTable rows)
          (SoundBatch program.parse rows)) reached := by
    refine discipline.invariant_step follows (DrawsFrom rows) ?_
      sourced.batches admitted taken
    intro world change changed worldHolds allowed applied
    have drawn := drawnFrom_of_change worldHolds.global allowed.2 applied
    refine ⟨drawn, fun call member => ?_⟩
    exact (worldHolds.local_ call member).transport (.refl _)
      (fun _ => drawn) (fun _ _ _ => drawn)
      (fun _ _ fetched => ⟨drawn, fetched.2⟩)
  have extended := RunnerState.Extends.of_step taken
  refine ⟨batches, ?_, ?_, ?_⟩
  · refine reports_step
      (fun report => FailuresNamed report.result report.records)
      sourced.named ?_ taken
    rintro index sink result rfl call found
    exact admitted.1 call found
  · -- a batch that has just been dispatched is that of a suspended call
    intro records member
    cases event with
    | act index action =>
        obtain ⟨call, shared, next, spawned, found, moved, rfl⟩ :=
          TaskMachine.step_act taken
        have step :
            Step program kind codec before.context before.shared call action
              shared next spawned := follows.act_spec moved
        rcases dispatched_of_step step member with old | rfl
        · exact sourced.dispatched records old
        · have inTasks :
              (.dispatch records .waiting .waiting : Call Cursor) ∈
                before.tasks.set index
                    (.dispatch records .waiting .waiting) ++ spawned := by
            apply List.mem_append_left
            apply List.mem_set
            exact (List.getElem?_eq_some_iff.mp found).1
          exact (batches.local_ _ inTasks).2.1.2
    | env event =>
        obtain ⟨_, _, moved, rfl⟩ := TaskMachine.step_env taken
        cases event <;> cases moved <;> exact sourced.dispatched records member
    | change change =>
        obtain ⟨_, _, rfl⟩ := TaskMachine.step_change taken
        exact sourced.dispatched records member
  · intro entry member
    cases event with
    | act index action =>
        obtain ⟨call, shared, next, spawned, found, moved, rfl⟩ :=
          TaskMachine.step_act taken
        have step :
            Step program kind codec before.context before.shared call action
              shared next spawned := follows.act_spec moved
        rcases deadLetter_of_step step member with
          old | ⟨records, esResult, rmqResult, now, inserted, rfl, isInserted,
            new⟩
        · exact (sourced.deadLetters entry old).extend extended
        · obtain ⟨⟨_, drawn⟩, _, returned, _⟩ :=
            sourced.batches.local_ _ (List.mem_of_getElem? found)
          exact (documented_of_insert drawn returned sourced.named isInserted
            new).extend extended
    | env event =>
        obtain ⟨_, _, moved, rfl⟩ := TaskMachine.step_env taken
        cases event <;> cases moved <;> exact sourced.deadLetters entry member
    | change change =>
        obtain ⟨_, _, rfl⟩ := TaskMachine.step_change taken
        exact sourced.deadLetters entry member

/--
Batches that reach a sink are versions of rows that the table has held, and so
is what a dead letter is about; a sink has reported it with that reason.
-/
theorem deadLetters_documented
    (follows : program.Follows kind codec)
    (fetchesRows : FetchesRows program)
    {checkpoint : Option ReplicationCheckpoint}
    {events : List RunnerProgram.Event}
    {reached : RunnerProgram.World Cursor Gauges}
    (run :
      Run program.machine.step FailsNamed (program.initial table checkpoint)
        events reached) :
    (∀ records ∈ reached.shared.history.dispatched,
      RecordsOf program.parse (rowsEver table events) records) ∧
      ∀ entry ∈ reached.shared.deadLetterQueue,
        Documented program.parse (rowsEver table events)
          reached.shared.history entry := by
  have written :
      ∀ event ∈ events, ∀ row ∈ writtenRow event,
        row ∈ rowsEver table events := by
    intro event member row isRow
    exact List.mem_append_right table
      (List.mem_filterMap.mpr ⟨event, member, isRow⟩)
  have start :
      Sourced program codec (rowsEver table events)
        (program.initial table checkpoint) := by
    refine ⟨CursorDiscipline.invariant_initial ?_, List.forall_mem_nil _,
      List.forall_mem_nil _, List.forall_mem_nil _⟩
    exact fun row member => List.mem_append_left _ member
  have sourced :=
    (run.among written).invariant
      (Sourced program codec (rowsEver table events))
      (fun holds allowed taken =>
        Sourced.step follows fetchesRows holds allowed taken) start
  exact ⟨sourced.dispatched, sourced.deadLetters⟩

end Runs

/-- A version of row 1. -/
def sampleVersion (uuid : String) : SourceRow :=
  { sampleRow 1 0 with uuid, payload := .obj [("uuid", .str uuid)] }

/-- The row is overwritten on its way to the sinks, where it fails. -/
def sampleOverwritten : List RunnerProgram.Event :=
  BackfillRunner.sampleStart ++
    [.change (.update 1 (sampleVersion "second")),
      .act 0 (.settle .elasticsearch (some (sampleResult [1] []))),
      .act 0 (.settle .rabbitmq (some (sampleResult [] [1]))),
      .act 0 (.turn 0), .act 0 (.serve 0)]

/-- The dead letter is about the version that was sent. -/
theorem deadLetters_documented_overwritten :
    ∃ reached,
      Run (BackfillRunner.program (fun _ => none) 1).machine.step FailsNamed
        ((BackfillRunner.program (fun _ => none) 1).initial
          [sampleVersion "first"] none)
        sampleOverwritten reached ∧
      reached.context.map SourceRow.uuid = ["second"] ∧
      reached.shared.deadLetterQueue.map DLQEntry.recordUuid =
        [some "first"] ∧
      ∀ entry ∈ reached.shared.deadLetterQueue,
        Documented (fun _ => none)
          (rowsEver [sampleVersion "first"] sampleOverwritten)
          reached.shared.history entry := by
  obtain ⟨reached, run, uuids⟩ :
      ∃ reached,
        Run (BackfillRunner.program (fun _ => none) 1).machine.step FailsNamed
          ((BackfillRunner.program (fun _ => none) 1).initial
            [sampleVersion "first"] none)
          sampleOverwritten reached ∧
        reached.context.map SourceRow.uuid = ["second"] ∧
        reached.shared.deadLetterQueue.map DLQEntry.recordUuid =
          [some "first"] :=
    Run.exists_of_replay _ (by decide +kernel)
  have documented :=
    deadLetters_documented
      (BackfillRunner.program_follows (fun _ => none) 1)
      (BackfillRunner.fetchesRows (fun _ => none) 1) run
  exact ⟨reached, run, uuids.1, uuids.2, documented.2⟩

end Replication
