import Replication.Json
import Mathlib.Data.Prod.Lex

namespace Replication

/-!
# Source rows, checkpoints and dead letters

The data the pipeline reads and writes in PostgreSQL, with the operations of
`CheckpointManager` and `DLQStore` as functions on it.  A stored timestamp is an
instant in microseconds since the epoch; a JavaScript `Date`, and an ISO string
that `toISOString` printed, is the instant in milliseconds that it denotes.
Identifiers are natural numbers: the columns are `BIGSERIAL`, and the driver's
`parseInt` is exact up to `maxSafeInteger`.  A fetch rejects when it selects a row
whose timestamps are outside the range of a `Date`.
-/

/-- `Number.MAX_SAFE_INTEGER`. -/
def maxSafeInteger : Nat := 9007199254740991

/-- A row of `source_records`. -/
structure SourceRow where
  id : Nat
  uuid : String
  tenantId : String
  payload : Json
  version : Int
  status : String
  isCorrupted : Bool
  createdAt : Int
  updatedAt : Int
  deriving Repr

/--
A source row as the runners see it, with timestamps in milliseconds.  A replay
passes on whatever a dead letter has as its tenant.
-/
structure SourceRecord where
  id : Nat
  uuid : String
  tenantId : Json
  payload : Json
  version : Int
  status : String
  isCorrupted : Bool
  createdAt : Int
  updatedAt : Int
  deriving Repr

/-- `date_trunc('millisecond', _)`, as milliseconds since the epoch. -/
def truncateMillis (instant : Int) : Int :=
  instant / 1000

/-- The instants that a JavaScript `Date` holds, in milliseconds. -/
def isDate (millis : Int) : Bool :=
  millis.natAbs ≤ 8640000000000000

/-- Both timestamps are instants that a `Date` holds. -/
def SourceRow.dated (row : SourceRow) : Bool :=
  isDate (truncateMillis row.createdAt) &&
    isDate (truncateMillis row.updatedAt)

/--
The record `mapRowToSourceRecord` makes of a row whose timestamps are dates.  A
payload column that holds a JSON string reaches this code as a string and is
parsed once more; a `Date` keeps only milliseconds.
-/
def mapRowToSourceRecord
    (parse : String → Option Json)
    (row : SourceRow) : SourceRecord where
  id := row.id
  uuid := row.uuid
  tenantId := .str row.tenantId
  payload :=
    match row.payload with
    | .str text => (parse text).getD (.obj [])
    | payload => payload
  version := row.version
  status := row.status
  isCorrupted := row.isCorrupted
  createdAt := truncateMillis row.createdAt
  updatedAt := truncateMillis row.updatedAt

/-- `mapRowToSourceRecord`, or nothing where `toISOString` throws. -/
def mapRowToSourceRecord?
    (parse : String → Option Json)
    (row : SourceRow) : Option SourceRecord :=
  if row.dated then
    some (mapRowToSourceRecord parse row)
  else
    none

section MapRow

variable (parse : String → Option Json) (row : SourceRow)

@[simp] theorem mapRowToSourceRecord_id :
    (mapRowToSourceRecord parse row).id = row.id := rfl

@[simp] theorem mapRowToSourceRecord_version :
    (mapRowToSourceRecord parse row).version = row.version := rfl

@[simp] theorem mapRowToSourceRecord_isCorrupted :
    (mapRowToSourceRecord parse row).isCorrupted = row.isCorrupted := rfl

@[simp] theorem mapRowToSourceRecord_updatedAt :
    (mapRowToSourceRecord parse row).updatedAt =
      truncateMillis row.updatedAt := rfl

/-- The mapping of a batch throws at a row whose timestamps are not dates. -/
theorem mapM_mapRowToSourceRecord?
    (rows : List SourceRow) :
    rows.mapM (mapRowToSourceRecord? parse) =
      if ∀ row ∈ rows, row.dated then
        some (rows.map (mapRowToSourceRecord parse))
      else
        none := by
  induction rows with
  | nil => rfl
  | cons row rest inductionHypothesis =>
      rw [List.mapM_cons, inductionHypothesis, mapRowToSourceRecord?]
      by_cases dated : row.dated
      · have all :
            (∀ later ∈ row :: rest, later.dated) ↔
              ∀ later ∈ rest, later.dated := by
          simp [dated]
        rw [if_pos dated, if_congr all rfl rfl]
        split <;> rfl
      · have notAll : ¬ ∀ later ∈ row :: rest, later.dated :=
          fun all => dated (all row List.mem_cons_self)
        rw [if_neg dated, if_neg notAll]
        rfl

end MapRow

/-- `JSON.stringify` sees a record as this object. -/
def SourceRecord.toJson (record : SourceRecord) : Json :=
  .obj [
    ("id", .num (.ofInt record.id)),
    ("uuid", .str record.uuid),
    ("tenant_id", record.tenantId),
    ("payload", record.payload),
    ("version", .num (.ofInt record.version)),
    ("status", .str record.status),
    ("is_corrupted", .bool record.isCorrupted),
    ("created_at", .str (isoString record.createdAt)),
    ("updated_at", .str (isoString record.updatedAt))]

/-- The composite watermark of the incremental runner. -/
structure Watermark where
  timestamp : Int
  id : Nat
  deriving DecidableEq, Repr

namespace Watermark

/-- A watermark as an element of the lexicographic product. -/
def toPair (watermark : Watermark) : Int ×ₗ Nat :=
  toLex (watermark.timestamp, watermark.id)

/-- The lexicographic pair determines the watermark. -/
theorem toPair_injective : Function.Injective toPair := by
  rintro ⟨firstTime, firstId⟩ ⟨secondTime, secondId⟩ same
  cases toLex.injective same
  rfl

/-- Watermarks are ordered by timestamp, ties by id. -/
instance : LinearOrder Watermark :=
  LinearOrder.lift' toPair toPair_injective

/-- The order of watermarks, written out as the query does. -/
theorem lt_iff {first second : Watermark} :
    first < second ↔
      first.timestamp < second.timestamp ∨
        first.timestamp = second.timestamp ∧ first.id < second.id :=
  Prod.Lex.toLex_lt_toLex

/-- The weak order of watermarks. -/
theorem le_iff {first second : Watermark} :
    first ≤ second ↔
      first.timestamp < second.timestamp ∨
        first.timestamp = second.timestamp ∧ first.id ≤ second.id :=
  Prod.Lex.toLex_le_toLex

end Watermark

/-- Lifecycle status of a pipeline. -/
inductive PipelineStatus where
  | initialized
  | running
  | paused
  | completed
  | failed
  deriving DecidableEq, Repr

/-- A row of `replication_checkpoints`, without its audit timestamp. -/
structure ReplicationCheckpoint where
  lastProcessedId : Nat
  lastProcessedTimestamp : Option Int
  status : PipelineStatus
  recordsProcessed : Int
  recordsFailed : Int
  metadata : Json
  deriving Repr

/-- The argument of `commitCheckpoint`. -/
structure CheckpointCommitData where
  lastProcessedId : Nat
  lastProcessedTimestamp : Option Int
  batchSuccessCount : Int
  batchFailedCount : Int
  metadata : Option Json
  deriving Repr

namespace CheckpointManager

/-- The row that `getCheckpoint` inserts when there is none. -/
def missingCheckpoint : ReplicationCheckpoint where
  lastProcessedId := 0
  lastProcessedTimestamp := none
  status := .initialized
  recordsProcessed := 0
  recordsFailed := 0
  metadata := .obj []

/-- The row that `getCheckpoint` reads back, inserting it if it is missing. -/
def getCheckpoint
    (row : Option ReplicationCheckpoint) : ReplicationCheckpoint :=
  row.getD missingCheckpoint

/-- `UPDATE replication_checkpoints`: watermark and counters in one statement. -/
def commitCheckpoint
    (data : CheckpointCommitData)
    (row : Option ReplicationCheckpoint) : Option ReplicationCheckpoint :=
  row.map fun checkpoint =>
    { checkpoint with
      lastProcessedId := data.lastProcessedId
      lastProcessedTimestamp := data.lastProcessedTimestamp
      recordsProcessed :=
        checkpoint.recordsProcessed + data.batchSuccessCount
      recordsFailed :=
        checkpoint.recordsFailed + data.batchFailedCount
      metadata := data.metadata.getD checkpoint.metadata }

/-- `UPDATE replication_checkpoints SET status`. -/
def updateStatus
    (status : PipelineStatus)
    (row : Option ReplicationCheckpoint) : Option ReplicationCheckpoint :=
  row.map fun checkpoint => { checkpoint with status }

end CheckpointManager

/-- One of the two sinks a batch is dispatched to. -/
inductive Sink where
  | elasticsearch
  | rabbitmq
  deriving DecidableEq, Repr

/-- The `sink_target` column of a dead letter. -/
inductive SinkTarget where
  | elasticsearch
  | rabbitmq
  | all
  deriving DecidableEq, Repr

/-- The `sink_target` that names one sink. -/
def Sink.target : Sink → SinkTarget
  | .elasticsearch => .elasticsearch
  | .rabbitmq => .rabbitmq

/-- One failure entry of a sink result. -/
structure SinkFailure where
  recordId : Nat
  errorReason : Json
  errorCode : Json
  rawItem : Option Json
  deriving Repr

/-- What `bulkUpsert` and `publishBatch` return. -/
structure SinkResult where
  successCount : Nat
  failedCount : Nat
  successfulIds : List Nat
  failures : List SinkFailure
  deriving Repr

namespace SinkResult

/-- The ids a result lists as failed. -/
def failedIds (result : SinkResult) : List Nat :=
  result.failures.map SinkFailure.recordId

/-- Every record of the batch is listed as successful or as failed. -/
def Names (result : SinkResult) (records : List SourceRecord) : Prop :=
  ∀ record ∈ records,
    record.id ∈ result.successfulIds ∨ record.id ∈ result.failedIds

instance (result : SinkResult) (records : List SourceRecord) :
    Decidable (result.Names records) :=
  inferInstanceAs (Decidable (∀ record ∈ records, _))

end SinkResult

/-- Processing status of a dead letter. -/
inductive DLQStatus where
  | pending
  | retrying
  | resolved
  | abandoned
  deriving DecidableEq, Repr

/-- An element of an array literal, with quotes and backslashes escaped. -/
def quotedElement (text : Text) : Text :=
  '"' :: text.flatMap (fun char =>
    if char = '"' ∨ char = '\\' then ['\\', char] else [char]) ++ ['"']

mutual

/-- One element of an array literal. -/
def elementText : Json → Text
  | .null => "NULL".toList
  | .bool value => quotedElement (toString value).toList
  | .num value => quotedElement value.toText
  | .str value => quotedElement value.toList
  | .arr items => '{' :: elementTexts items ++ ['}']
  | .obj fields => quotedElement (Json.obj fields).stringify

/-- Elements separated by commas. -/
def elementTexts : List Json → Text
  | [] => []
  | [item] => elementText item
  | item :: next :: rest =>
      elementText item ++ ',' :: elementTexts (next :: rest)

end

/--
The text that the driver sends for a value bound to a text column: a string as
it is, an array as an array literal, everything else as `JSON.stringify` prints
it.
-/
def parameterText : Json → String
  | .str text => text
  | .arr items => String.ofList (elementText (.arr items))
  | value => String.ofList value.stringify

/-- The argument of `persistFailures`, one element for each failure. -/
structure NewDLQEntry where
  recordId : Option Nat
  recordUuid : Option String
  sinkTarget : SinkTarget
  payload : Json
  errorCode : String
  errorMessage : String
  stackTrace : Option String
  deriving Repr

/-- A row of `dead_letter_queue`. -/
structure DLQEntry where
  id : Nat
  recordId : Option Nat
  recordUuid : Option String
  sinkTarget : SinkTarget
  payload : Json
  errorCode : String
  errorMessage : String
  stackTrace : Option String
  retryCount : Nat
  status : DLQStatus
  createdAt : Int
  lastRetriedAt : Option Int
  deriving Repr

namespace DLQStore

/--
The value stored for a payload parameter: a string is sent as it is and cast
with `::jsonb`, everything else is stringified, and `?? {}` replaces null.
-/
def payloadColumn
    (parse : String → Option Json) : Json → Option Json
  | .str text => parse text
  | .null => some (.obj [])
  | payload => some payload

/-- The row inserted for one failure, unless the cast of its payload fails. -/
def insertedRow
    (parse : String → Option Json)
    (now : Int)
    (id : Nat)
    (failure : NewDLQEntry) : Option DLQEntry :=
  (payloadColumn parse failure.payload).map fun payload =>
    { id
      recordId := failure.recordId
      recordUuid := failure.recordUuid
      sinkTarget := failure.sinkTarget
      payload
      errorCode := failure.errorCode
      errorMessage := failure.errorMessage
      stackTrace := failure.stackTrace
      retryCount := 0
      status := .pending
      createdAt := now
      lastRetriedAt := none }

/-- The rows of one `INSERT`, numbered from `nextId`; one bad row rejects all. -/
def insertedRows
    (parse : String → Option Json)
    (now : Int) :
    Nat → List NewDLQEntry → Option (List DLQEntry)
  | _, [] => some []
  | nextId, failure :: rest =>
      match insertedRow parse now nextId failure,
        insertedRows parse now (nextId + 1) rest with
      | some row, some rows => some (row :: rows)
      | _, _ => none

/-- `persistFailures` on the table, whose ids count up from one. -/
def persistFailures
    (parse : String → Option Json)
    (now : Int)
    (queue : List DLQEntry)
    (failures : List NewDLQEntry) : Option (List DLQEntry) :=
  (insertedRows parse now (queue.length + 1) failures).map (queue ++ ·)

/-- Every failure of a successful insert has a row for its record and sink. -/
theorem exists_insertedRow
    {parse : String → Option Json}
    {now : Int}
    {nextId : Nat}
    {failures : List NewDLQEntry}
    {rows : List DLQEntry}
    (inserted : insertedRows parse now nextId failures = some rows)
    {failure : NewDLQEntry}
    (member : failure ∈ failures) :
    ∃ row ∈ rows,
      row.recordId = failure.recordId ∧
        row.sinkTarget = failure.sinkTarget := by
  induction failures generalizing nextId rows with
  | nil =>
      simp at member
  | cons head rest inductionHypothesis =>
      simp only [insertedRows] at inserted
      split at inserted
      · rename_i row later headRow restRows
        cases inserted
        rcases List.mem_cons.mp member with rfl | inRest
        · obtain ⟨payload, _, rfl⟩ := Option.map_eq_some_iff.mp headRow
          exact ⟨_, List.mem_cons_self, rfl, rfl⟩
        · obtain ⟨found, foundMember, sameRecord, sameSink⟩ :=
            inductionHypothesis restRows inRest
          exact ⟨found, List.mem_cons_of_mem _ foundMember,
            sameRecord, sameSink⟩
      · cases inserted

/-- A successful insert keeps the old rows and adds one for each failure. -/
theorem persistFailures_spec
    {parse : String → Option Json}
    {now : Int}
    {queue stored : List DLQEntry}
    {failures : List NewDLQEntry}
    (persisted :
      persistFailures parse now queue failures = some stored) :
    (∀ row ∈ queue, row ∈ stored) ∧
      ∀ failure ∈ failures,
        ∃ row ∈ stored,
          row.recordId = failure.recordId ∧
            row.sinkTarget = failure.sinkTarget := by
  obtain ⟨rows, inserted, rfl⟩ := Option.map_eq_some_iff.mp persisted
  refine ⟨fun row member => List.mem_append_left _ member, ?_⟩
  intro failure member
  obtain ⟨row, rowMember, sameRecord, sameSink⟩ :=
    exists_insertedRow inserted member
  exact ⟨row, List.mem_append_right _ rowMember, sameRecord, sameSink⟩

end DLQStore

end Replication
