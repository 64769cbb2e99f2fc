import Replication.ElasticsearchSink
import Replication.ZeroLoss

namespace Replication

/-!
# One row's content and the rest of its batch

`bulkUpsert` builds the documents of a batch before it sends anything, outside
of any `try`.  A row whose payload is null, or whose name contains an object
with a `toString` of its own, makes it throw, and then nothing is sent for the
other rows either: no run of a runner gets past such a row.  A row whose
timestamps are outside the range of a `Date` already makes the mapping of the
fetched rows throw.
-/

/-- `transformRecord` reads the payload without throwing. -/
structure Transformable (payload : Json) : Prop where
  notNull : payload ≠ .null
  firstName : ∀ name ∈ payload.field "first_name", name.prints = true
  lastName : ∀ name ∈ payload.field "last_name", name.prints = true

namespace ElasticsearchSink

variable
  {now : Int}
  {record : SourceRecord}
  {records : List SourceRecord}

/-- A name prints if and only if what is there does. -/
theorem prints_getOr (value : Option Json) :
    (Json.getOr value (.str "")).prints = true ↔
      ∀ name ∈ value, name.prints = true := by
  cases value with
  | none => simp [Json.getOr, Json.prints]
  | some name =>
      cases truthy : name.truthy with
      | true => simp [Json.getOr, Option.filter, truthy]
      | false =>
          have prints : name.prints = true := by
            cases name with
            | arr items => simp [Json.truthy] at truthy
            | obj fields => simp [Json.truthy] at truthy
            | _ => rfl
          simp [Json.getOr, Option.filter, truthy, prints, Json.prints]

/-- A record has a document when its payload is read without throwing. -/
theorem isSome_transformRecord :
    (transformRecord now record).isSome = true ↔
      Transformable record.payload := by
  rw [transformRecord]
  cases payload : record.payload with
  | null =>
      constructor
      · intro built
        cases built
      · intro good
        exact absurd rfl good.notNull
  | _ =>
      dsimp only
      split
      · rename_i printed
        rw [Bool.and_eq_true, prints_getOr, prints_getOr] at printed
        exact ⟨fun _ => ⟨by simp, printed.1, printed.2⟩, fun _ => rfl⟩
      · rename_i notPrinted
        rw [Bool.and_eq_true, prints_getOr, prints_getOr] at notPrinted
        constructor
        · intro built
          cases built
        · intro good
          exact absurd ⟨good.firstName, good.lastName⟩ notPrinted

/-- The items are the updates of the records, in their order. -/
def Updates
    (now : Int)
    (records : List SourceRecord)
    (items : List UpdateItem) : Prop :=
  List.Forall₂
    (fun record item =>
      item.documentId = documentIdOf record.id ∧
        transformRecord now record = some item.doc)
    records items

/-- What is sent has one update for each record. -/
theorem updates_of_bulkUpsert
    {items : List UpdateItem}
    (sent : bulkUpsert now records = some items) :
    Updates now records items := by
  induction records generalizing items with
  | nil =>
      cases sent
      exact .nil
  | cons record rest inductionHypothesis =>
      simp only [bulkUpsert, List.mapM_cons, Option.bind_eq_bind,
        Option.bind_eq_some_iff, Option.pure_def, Option.some.injEq] at sent
      obtain ⟨head, made, later, sentRest, rfl⟩ := sent
      obtain ⟨doc, transformed, rfl⟩ := Option.map_eq_some_iff.mp made
      exact .cons ⟨rfl, transformed⟩ (inductionHypothesis sentRest)

/-- The request is built when every record has a document. -/
theorem isSome_bulkUpsert :
    (bulkUpsert now records).isSome = true ↔
      ∀ record ∈ records, Transformable record.payload := by
  induction records with
  | nil => simp [bulkUpsert]
  | cons record rest inductionHypothesis =>
      rw [List.forall_mem_cons, ← inductionHypothesis,
        ← @isSome_transformRecord now]
      simp only [bulkUpsert, List.mapM_cons, updateItem]
      cases transformRecord now record with
      | none => simp
      | some doc =>
          cases rest.mapM (updateItem now) <;> simp

/--
A batch of rows is mapped, and `bulkUpsert` sends an update for every row of it,
if and only if the timestamps of every row are dates and its payload, as it is
mapped, is not null and has names that print.
-/
theorem updates_every_row_iff
    (parse : String → Option Json)
    (now : Int)
    (rows : List SourceRow) :
    (∃ records items,
      rows.mapM (mapRowToSourceRecord? parse) = some records ∧
        bulkUpsert now records = some items ∧
        Updates now records items) ↔
      ∀ row ∈ rows,
        row.dated ∧
          Transformable (mapRowToSourceRecord parse row).payload := by
  have builds := @isSome_bulkUpsert now
    (rows.map (mapRowToSourceRecord parse))
  rw [List.forall_mem_map, Option.isSome_iff_exists] at builds
  rw [mapM_mapRowToSourceRecord?, forall₂_and, ← builds]
  by_cases dated : ∀ row ∈ rows, row.dated
  · rw [if_pos dated]
    constructor
    · rintro ⟨records, items, mapped, sent, -⟩
      cases mapped
      exact ⟨dated, items, sent⟩
    · rintro ⟨-, items, sent⟩
      exact ⟨_, items, rfl, sent, updates_of_bulkUpsert sent⟩
  · rw [if_neg dated]
    constructor
    · rintro ⟨records, items, mapped, -⟩
      cases mapped
    · rintro ⟨good, -⟩
      exact absurd good dated

/-- A row with that payload. -/
def rowOf (id : Nat) (payload : Json) : SourceRow where
  id
  uuid := ""
  tenantId := ""
  payload
  version := 1
  status := "ACTIVE"
  isCorrupted := false
  createdAt := 0
  updatedAt := 0

/-- Nothing is sent for a good row beside one whose payload is null. -/
theorem null_payload_stops_batch :
    ([rowOf 1 (.obj []), rowOf 2 .null].mapM
          (mapRowToSourceRecord? fun _ => none)).bind (bulkUpsert 0) =
        none ∧
      ([rowOf 1 (.obj []), rowOf 2 .null].mapM
          (mapRowToSourceRecord? fun _ => none)).isSome = true ∧
      (([rowOf 1 (.obj [])].mapM
          (mapRowToSourceRecord? fun _ => none)).bind
            (bulkUpsert 0)).isSome = true :=
  ⟨rfl, rfl, rfl⟩

end ElasticsearchSink

/-!
## The runner that meets such a row

A sink call whose operation throws is rejected, and a rejected dispatch commits
nothing.
-/

section Blocked

variable
  {Cursor Gauges : Type}
  {program : RunnerProgram Cursor Gauges}
  {codec : CursorCodec Cursor}
  {table : List SourceRow}

/--
The table is a fixed snapshot, and Elasticsearch answers only batches that
`bulkUpsert` sends.
-/
def AnswersWhatIsSent
    (world : RunnerProgram.World Cursor Gauges) : RunnerProgram.Event → Prop
  | .act index (.settle .elasticsearch (some _)) =>
      ∀ call ∈ world.tasks[index]?, ∃ now,
        (ElasticsearchSink.bulkUpsert now
          (RunnerProgram.batchOf call)).isSome = true
  | .change _ => False
  | _ => True

/-- Elasticsearch has answered a batch with the row. -/
def RunnerState.Answered
    (program : RunnerProgram Cursor Gauges)
    (state : RunnerState Cursor Gauges)
    (row : SourceRow) : Prop :=
  ∃ report ∈ state.history.reports,
    report.sink = .elasticsearch ∧
      mapRowToSourceRecord program.parse row ∈ report.records

/-- Every batch that Elasticsearch has answered could be sent. -/
def OnlySent (state : RunnerState Cursor Gauges) : Prop :=
  ∀ report ∈ state.history.reports, report.sink = .elasticsearch →
    ∀ record ∈ report.records, Transformable record.payload

/-- If it is above `low`, Elasticsearch has answered a batch with the row. -/
def RunnerState.AnsweredAbove
    [LT Cursor]
    (program : RunnerProgram Cursor Gauges)
    (codec : CursorCodec Cursor)
    (low : Cursor)
    (state : RunnerState Cursor Gauges)
    (row : SourceRow) : Prop :=
  low < codec.ofRow row → state.Answered program row

/-- Being answered, if above `low`, is a notion of coverage. -/
theorem answered_coverage
    [LT Cursor]
    (program : RunnerProgram Cursor Gauges)
    (codec : CursorCodec Cursor)
    (low : Cursor) :
    Coverage program
      (RunnerState.AnsweredAbove program codec low) where
  finished := by
    rintro state rows row ⟨_, _, returned, _⟩ member -
    exact ⟨_, returned.esReport, rfl, List.mem_map_of_mem member⟩
  extend := by
    intro before after row extended answered above
    obtain ⟨report, member, contains⟩ := answered above
    exact ⟨report, extended.reports report member, contains⟩

/-- A step after which Elasticsearch has answered only what was sent. -/
theorem onlySent_step
    {before after : RunnerProgram.World Cursor Gauges}
    {event : RunnerProgram.Event}
    (onlySent : OnlySent before.shared)
    (admitted : AnswersWhatIsSent before event)
    (taken : program.machine.step before event = some after) :
    OnlySent after.shared := by
  refine reports_step
    (fun report => report.sink = .elasticsearch →
      ∀ record ∈ report.records, Transformable record.payload)
    onlySent ?_ taken
  rintro index sink result rfl call found rfl
  obtain ⟨now, sent⟩ := admitted call found
  exact ElasticsearchSink.isSome_bulkUpsert.mp sent

/-- Elasticsearch has answered for all rows between `low` and the cursors. -/
structure AnsweredUpTo
    [LinearOrder Cursor]
    (program : RunnerProgram Cursor Gauges)
    (codec : CursorCodec Cursor)
    (table : List SourceRow)
    (low : Cursor)
    (world : RunnerProgram.World Cursor Gauges) : Prop where
  covers :
    TaskMachine.Invariant
      (CursorDiscipline.Global codec
        (Covers program codec (RunnerState.AnsweredAbove program codec low)))
      (CursorDiscipline.Local codec
        (Covers program codec (RunnerState.AnsweredAbove program codec low))
        (CoversBatch program codec
          (RunnerState.AnsweredAbove program codec low)))
      world
  onlySent : OnlySent world.shared
  snapshot : world.context = table

/-- Every step over the snapshot keeps this. -/
theorem answeredUpTo_step
    [LinearOrder Cursor]
    {kind : RunnerKind}
    {low : Cursor}
    {before after : RunnerProgram.World Cursor Gauges}
    {event : RunnerProgram.Event}
    (follows : program.Follows kind codec)
    (holds : AnsweredUpTo program codec table low before)
    (admitted : AnswersWhatIsSent before event)
    (taken : program.machine.step before event = some after) :
    AnsweredUpTo program codec table low after where
  covers :=
    (answered_coverage program codec low).discipline.invariant_step follows
      AnswersWhatIsSent (fun _ allowed _ => absurd allowed id) holds.covers
      admitted taken
  onlySent := onlySent_step holds.onlySent admitted taken
  snapshot := by
    rcases TaskMachine.context_step taken with same | ⟨change, rfl, _⟩
    · exact same.trans holds.snapshot
    · exact absurd admitted id

/--
While a row above the starting watermark has a payload that cannot be read, no
run of a runner moves the persisted watermark up to it.
-/
theorem poison_row_blocks_watermark
    [LinearOrder Cursor]
    {kind : RunnerKind}
    {checkpoint : Option ReplicationCheckpoint}
    {events : List RunnerProgram.Event}
    {reached : RunnerProgram.World Cursor Gauges}
    (follows : program.Follows kind codec)
    (keyset : KeysetTable program codec table)
    (run :
      Run program.machine.step AnswersWhatIsSent
        (program.initial table checkpoint) events reached)
    {row : SourceRow}
    (member : row ∈ table)
    (above : codec.persisted checkpoint < codec.ofRow row)
    (poison :
      ¬ Transformable (mapRowToSourceRecord program.parse row).payload) :
    codec.persisted reached.shared.checkpoint < codec.ofRow row := by
  have reached_answered :
      AnsweredUpTo program codec table (codec.persisted checkpoint)
        reached := by
    refine run.invariant
      (AnsweredUpTo program codec table (codec.persisted checkpoint))
      (answeredUpTo_step follows) ⟨?_, List.forall_mem_nil _, rfl⟩
    exact CursorDiscipline.invariant_initial
      ⟨keyset, fun _ _ notAbove above =>
        absurd above (not_lt_of_ge notAbove)⟩
  obtain ⟨covers, onlySent, rfl⟩ := reached_answered
  by_contra notBelow
  obtain ⟨report, reported, isEs, contains⟩ :=
    covers.global.2 row member (not_lt.mp notBelow) above
  exact poison (onlySent report reported isEs _ contains)

end Blocked

end Replication
