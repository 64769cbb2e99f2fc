import Replication.Keyset
import Replication.Records

namespace Replication

/-!
# Source queries

The queries of `SourceReader` on a table given as a list of rows.  The
incremental query filters on timestamps truncated to milliseconds but orders by
the stored ones.  On a table whose timestamps are whole milliseconds the two
agree, and the query is a keyset page on `(updated_at, id)`.
-/

namespace SourceRow

/-- The key the incremental query filters by. -/
def watermark (row : SourceRow) : Watermark where
  timestamp := truncateMillis row.updatedAt
  id := row.id

/-- The key the incremental query orders by, in microseconds. -/
def storedWatermark (row : SourceRow) : Watermark where
  timestamp := row.updatedAt
  id := row.id

/-- The timestamp has no digits below the millisecond. -/
def WholeMillis (row : SourceRow) : Prop :=
  row.updatedAt % 1000 = 0

instance (row : SourceRow) : Decidable row.WholeMillis :=
  inferInstanceAs (Decidable (row.updatedAt % 1000 = 0))

end SourceRow

/-- The key of a record, from its millisecond timestamp. -/
def SourceRecord.watermark (record : SourceRecord) : Watermark where
  timestamp := record.updatedAt
  id := record.id

@[simp] theorem watermark_mapRowToSourceRecord
    (parse : String → Option Json)
    (row : SourceRow) :
    (mapRowToSourceRecord parse row).watermark = row.watermark := rfl

/-- A number of the sequence that `parseInt` reads exactly. -/
def IsKey (id : Nat) : Prop :=
  0 < id ∧ id ≤ maxSafeInteger

instance : DecidablePred IsKey :=
  fun _ => inferInstanceAs (Decidable (_ ∧ _))

/-- `id BIGSERIAL PRIMARY KEY`. -/
structure PrimaryKeys (table : List SourceRow) : Prop where
  isKey : ∀ row ∈ table, IsKey row.id
  unique : (table.map SourceRow.id).Nodup

/-- The sequence starts at one. -/
theorem PrimaryKeys.positive
    {table : List SourceRow}
    (keys : PrimaryKeys table) :
    ∀ row ∈ table, 0 < row.id :=
  fun row member => (keys.isKey row member).1

/-- A primary key identifies its row. -/
theorem PrimaryKeys.injective
    {table : List SourceRow}
    (keys : PrimaryKeys table) :
    Set.InjOn SourceRow.id {row | row ∈ table} :=
  List.inj_on_of_nodup_map keys.unique

namespace SourceReader

/--
`WHERE id > $1 ORDER BY id ASC LIMIT $2`, of rows whose timestamps are dates; a
fetch of others throws.
-/
def fetchBackfillBatch
    (parse : String → Option Json)
    (table : List SourceRow)
    (lastProcessedId limit : Nat) : List SourceRecord :=
  (Keyset.page SourceRow.id lastProcessedId limit table).map
    (mapRowToSourceRecord parse)

/-- The rows the incremental queries select above a watermark. -/
def incrementalRows
    (table : List SourceRow)
    (after : Watermark) : List SourceRow :=
  table.filter fun row =>
    truncateMillis row.updatedAt > after.timestamp ||
      truncateMillis row.updatedAt = after.timestamp && row.id > after.id

/-- `ORDER BY updated_at ASC, id ASC LIMIT $3` on the selected rows. -/
def incrementalBatch
    (table : List SourceRow)
    (after : Watermark)
    (limit : Nat) : List SourceRow :=
  ((incrementalRows table after).insertionSort fun first second =>
    first.storedWatermark ≤ second.storedWatermark).take limit

/-- The records of that batch, where its timestamps are dates. -/
def fetchIncrementalBatch
    (parse : String → Option Json)
    (table : List SourceRow)
    (after : Watermark)
    (limit : Nat) : List SourceRecord :=
  (incrementalBatch table after limit).map (mapRowToSourceRecord parse)

/-- `fetchIncrementalBatch`, or nothing where the mapping of a row throws. -/
def fetchIncrementalBatch?
    (parse : String → Option Json)
    (table : List SourceRow)
    (after : Watermark)
    (limit : Nat) : Option (List SourceRecord) :=
  (incrementalBatch table after limit).mapM (mapRowToSourceRecord? parse)

/-- `COUNT(*)` and `MAX(updated_at)` of the selected rows. -/
def getIncrementalLag
    (table : List SourceRow)
    (after : Watermark) : Nat × Option Int :=
  ((incrementalRows table after).length,
    ((incrementalRows table after).map fun row =>
      truncateMillis row.updatedAt).max?)

/-- The incremental filter selects the rows above the watermark. -/
theorem incrementalRows_eq
    (table : List SourceRow)
    (after : Watermark) :
    incrementalRows table after =
      Keyset.rowsAbove SourceRow.watermark after table := by
  apply List.filter_congr
  intro row _
  simp [Watermark.lt_iff, SourceRow.watermark, eq_comm]

/-- On whole milliseconds the stored order is the order of watermarks. -/
theorem storedWatermark_le_iff
    {first second : SourceRow}
    (firstWhole : first.WholeMillis)
    (secondWhole : second.WholeMillis) :
    first.storedWatermark ≤ second.storedWatermark ↔
      first.watermark ≤ second.watermark := by
  simp only [Watermark.le_iff, SourceRow.storedWatermark,
    SourceRow.watermark, truncateMillis]
  simp only [SourceRow.WholeMillis] at firstWhole secondWhole
  omega

/-- On whole milliseconds the incremental query is a keyset page. -/
theorem fetchIncrementalBatch_eq_page
    {parse : String → Option Json}
    {table : List SourceRow}
    (whole : ∀ row ∈ table, row.WholeMillis)
    (after : Watermark)
    (limit : Nat) :
    fetchIncrementalBatch parse table after limit =
      (Keyset.page SourceRow.watermark after limit table).map
        (mapRowToSourceRecord parse) := by
  have sameOrder :
      (Keyset.rowsAbove SourceRow.watermark after table).insertionSort
          (fun first second =>
            first.storedWatermark ≤ second.storedWatermark) =
        Keyset.ordered SourceRow.watermark after table := by
    have agree :=
      List.map_insertionSort
        (fun first second : SourceRow =>
          first.storedWatermark ≤ second.storedWatermark)
        (fun first second : SourceRow =>
          first.watermark ≤ second.watermark)
        id (Keyset.rowsAbove SourceRow.watermark after table)
        (fun first firstMember second secondMember =>
          storedWatermark_le_iff
            (whole first (List.mem_of_mem_filter firstMember))
            (whole second (List.mem_of_mem_filter secondMember)))
    simpa [Keyset.ordered] using agree
  rw [fetchIncrementalBatch, incrementalBatch, incrementalRows_eq, sameOrder,
    Keyset.page]

end SourceReader

end Replication
