import Replication.SourceReader
import Replication.SeekDrain
import Mathlib.Data.List.Perm.Subperm

namespace Replication

/-!
# Draining a table by the incremental query

The incremental query seeks by timestamps truncated to milliseconds and orders
by the stored ones.  Iterating it with the watermark of the last record, as the
runner does, is a drain of the table in stored order by the truncated key, as
long as no row is fetched whose timestamps are no dates.
-/

namespace SourceReader

/--
The records of so many fetches up to an empty batch, if one is reached and no
fetch throws; the next watermark is taken from the last record.
-/
def drainIncremental
    (parse : String → Option Json)
    (table : List SourceRow)
    (limit : Nat) : Nat → Watermark → Option (List SourceRecord)
  | 0, _ => none
  | fetches + 1, after =>
      match fetchIncrementalBatch? parse table after limit with
      | none => none
      | some records =>
          match records.getLast? with
          | none => some []
          | some lastRecord =>
              (drainIncremental parse table limit fetches
                  lastRecord.watermark).map fun later => records ++ later

/-- The table in the order of the query. -/
def storedRows (table : List SourceRow) : List SourceRow :=
  table.insertionSort fun first second =>
    first.storedWatermark ≤ second.storedWatermark

/-- The rows above the watermark, in the order of the query. -/
def rowsToDrain
    (table : List SourceRow)
    (after : Watermark) : List SourceRow :=
  SeekDrain.above SourceRow.watermark after (storedRows table)

/-- Every row above the watermark is returned once, before an empty batch. -/
def DrainsOnce
    (parse : String → Option Json)
    (table : List SourceRow)
    (after : Watermark)
    (limit : Nat) : Prop :=
  ∃ returned,
    drainIncremental parse table limit (table.length + 1) after =
        some returned ∧
      returned.Perm
        ((incrementalRows table after).map (mapRowToSourceRecord parse))

section Drain

variable
  {parse : String → Option Json}
  {table : List SourceRow}
  {after : Watermark}
  {limit fetches : Nat}

/-- The table in stored order has the rows of the table. -/
theorem storedRows_perm : (storedRows table).Perm table :=
  List.perm_insertionSort _ _

/-- The rows to drain are the ones that the query selects. -/
theorem rowsToDrain_perm :
    (rowsToDrain table after).Perm (incrementalRows table after) := by
  rw [incrementalRows_eq]
  exact storedRows_perm.filter _

/-- Sorting by stored watermarks gives a sorted list. -/
theorem sorted_storedOrder (rows : List SourceRow) :
    (rows.insertionSort fun first second =>
        first.storedWatermark ≤ second.storedWatermark).Pairwise
      fun first second => first.storedWatermark ≤ second.storedWatermark := by
  let byStored : SourceRow → SourceRow → Prop :=
    fun first second => first.storedWatermark ≤ second.storedWatermark
  have : Std.Total byStored := ⟨fun _ _ => le_total _ _⟩
  have : IsTrans SourceRow byStored := ⟨fun _ _ _ => le_trans⟩
  exact List.pairwise_insertionSort byStored rows

/-- The query selects and sorts, which is to sort and select. -/
theorem rowsToDrain_eq
    (keys : PrimaryKeys table) :
    (incrementalRows table after).insertionSort
        (fun first second =>
          first.storedWatermark ≤ second.storedWatermark) =
      rowsToDrain table after := by
  have sortedPerm :=
    List.perm_insertionSort
      (fun first second : SourceRow =>
        first.storedWatermark ≤ second.storedWatermark)
      (incrementalRows table after)
  refine List.Perm.eq_of_pairwise ?_ (sorted_storedOrder _)
    ((sorted_storedOrder table).filter _)
    (sortedPerm.trans rowsToDrain_perm.symm)
  intro first second firstMember secondMember below notBelow
  have inTable :
      ∀ row ∈ incrementalRows table after, row ∈ table :=
    fun row member => List.mem_of_mem_filter member
  have same := le_antisymm below notBelow
  exact keys.injective
    (inTable first (sortedPerm.mem_iff.mp firstMember))
    (inTable second (rowsToDrain_perm.mem_iff.mp secondMember))
    (congrArg Watermark.id same)

/-- A batch is a page of the rows to drain. -/
theorem incrementalBatch_eq
    (keys : PrimaryKeys table) :
    incrementalBatch table after limit =
      SeekDrain.page SourceRow.watermark limit after (storedRows table) := by
  rw [incrementalBatch, rowsToDrain_eq keys]
  rfl

/-- Iterating the query is a drain of the rows, if all of them have dates. -/
theorem drainIncremental_eq
    (keys : PrimaryKeys table)
    (dated : ∀ row ∈ rowsToDrain table after, row.dated) :
    drainIncremental parse table limit fetches after =
      (SeekDrain.drain SourceRow.watermark limit (storedRows table) fetches
        after).map (List.map (mapRowToSourceRecord parse)) := by
  induction fetches generalizing after with
  | zero => rfl
  | succ fetches inductionHypothesis =>
      have fetched :
          fetchIncrementalBatch? parse table after limit =
            some
              ((SeekDrain.page SourceRow.watermark limit after
                (storedRows table)).map (mapRowToSourceRecord parse)) := by
        rw [fetchIncrementalBatch?, incrementalBatch_eq keys,
          mapM_mapRowToSourceRecord?, if_pos]
        exact fun row member => dated row (List.mem_of_mem_take member)
      rw [drainIncremental, SeekDrain.drain, fetched]
      simp only [List.getLast?_map]
      cases isLast :
          (SeekDrain.page SourceRow.watermark limit after
            (storedRows table)).getLast? with
      | none => rfl
      | some last =>
          have isAbove :=
            List.mem_of_mem_take (List.mem_of_getLast? isLast)
          have raised : after < last.watermark :=
            (SeekDrain.mem_above.mp isAbove).2
          have datedLater :
              ∀ row ∈ rowsToDrain table last.watermark, row.dated := by
            intro row member
            obtain ⟨inTable, later⟩ := SeekDrain.mem_above.mp member
            exact dated row
              (SeekDrain.mem_above.mpr ⟨inTable, raised.trans later⟩)
          simp only [Option.map_some, watermark_mapRowToSourceRecord,
            inductionHypothesis datedLater, Option.map_map]
          congr 1
          funext later
          simp

/-- Every record that is returned is that of a row with dates. -/
theorem dated_of_drainIncremental
    {returned : List SourceRecord}
    (drained :
      drainIncremental parse table limit fetches after = some returned) :
    ∀ record ∈ returned,
      ∃ row ∈ table,
        row.dated ∧ mapRowToSourceRecord parse row = record := by
  induction fetches generalizing after returned with
  | zero => cases drained
  | succ fetches inductionHypothesis =>
      rw [drainIncremental] at drained
      split at drained
      · cases drained
      · rename_i records fetched
        rw [fetchIncrementalBatch?, mapM_mapRowToSourceRecord?] at fetched
        split at fetched
        · rename_i dated
          cases fetched
          split at drained
          · cases drained
            exact nofun
          · obtain ⟨later, drainedLater, rfl⟩ :=
              Option.map_eq_some_iff.mp drained
            intro record member
            rcases List.mem_append.mp member with now | next
            · obtain ⟨row, inBatch, rfl⟩ := List.mem_map.mp now
              have selected : row ∈ incrementalRows table after :=
                (List.mem_insertionSort _).mp (List.mem_of_mem_take inBatch)
              exact ⟨row, List.mem_of_mem_filter selected,
                dated row inBatch, rfl⟩
            · exact inductionHypothesis drainedLater record next
        · cases fetched

/-- What is returned at all has dates for timestamps. -/
theorem dated_of_drainsOnce
    (keys : PrimaryKeys table)
    (once : DrainsOnce parse table after limit) :
    ∀ row ∈ rowsToDrain table after, row.dated := by
  obtain ⟨records, drained, perm⟩ := once
  intro row member
  have inTable : row ∈ table :=
    storedRows_perm.mem_iff.mp (List.mem_of_mem_filter member)
  have isReturned : mapRowToSourceRecord parse row ∈ records :=
    perm.mem_iff.mpr
      (List.mem_map_of_mem (rowsToDrain_perm.mem_iff.mp member))
  obtain ⟨other, otherInTable, dated, same⟩ :=
    dated_of_drainIncremental drained _ isReturned
  obtain rfl :=
    keys.injective otherInTable inTable (congrArg SourceRecord.id same)
  exact dated

/-- Records of distinct rows are distinct. -/
theorem map_id_mapRow (rows : List SourceRow) :
    (rows.map (mapRowToSourceRecord parse)).map SourceRecord.id =
      rows.map SourceRow.id := by
  rw [List.map_map]
  rfl

/--
For every table, microseconds included, the iterated query returns each row above
the starting watermark once exactly if these rows have dates for timestamps and
its pages tile them.
-/
theorem drainsOnce_iff_tiled
    (keys : PrimaryKeys table)
    (room : 0 < limit) :
    DrainsOnce parse table after limit ↔
      (∀ row ∈ rowsToDrain table after, row.dated) ∧
        SeekDrain.Tiled SourceRow.watermark limit
          (rowsToDrain table after) := by
  have distinct : (storedRows table).Nodup :=
    .of_map SourceRow.id
      ((storedRows_perm.map SourceRow.id).nodup_iff.mpr keys.unique)
  have enough : (rowsToDrain table after).length < table.length + 1 := by
    have fewer := List.length_filter_le
      (fun row : SourceRow => decide (after < row.watermark))
      (storedRows table)
    rw [storedRows_perm.length_eq] at fewer
    exact Nat.lt_succ_of_le fewer
  have selected : (rowsToDrain table after).Perm (incrementalRows table after) :=
    rowsToDrain_perm
  obtain ⟨rows, drained⟩ :
      ∃ rows,
        SeekDrain.drain SourceRow.watermark limit (storedRows table)
            (table.length + 1) after =
          some rows :=
    SeekDrain.exists_drain enough
  have returned :
      (∀ row ∈ rowsToDrain table after, row.dated) →
        drainIncremental parse table limit (table.length + 1) after =
          some (rows.map (mapRowToSourceRecord parse)) := by
    intro dated
    rw [drainIncremental_eq keys dated, drained, Option.map_some]
  constructor
  · rintro ⟨records, drainedRecords, perm⟩
    have dated : ∀ row ∈ rowsToDrain table after, row.dated :=
      dated_of_drainsOnce keys ⟨records, drainedRecords, perm⟩
    refine ⟨dated, ?_⟩
    cases (returned dated).symm.trans drainedRecords
    have permIds := perm.map SourceRecord.id
    rw [map_id_mapRow, map_id_mapRow] at permIds
    have distinctIds : ((incrementalRows table after).map SourceRow.id).Nodup :=
      keys.unique.sublist (List.filter_sublist.map SourceRow.id)
    have once : rows.Nodup :=
      .of_map SourceRow.id (permIds.nodup_iff.mpr distinctIds)
    have subset : rows ⊆ rowsToDrain table after :=
      fun row member => SeekDrain.mem_above_of_drain drained member
    have sameLength : (rowsToDrain table after).length = rows.length := by
      have lengths := permIds.length_eq
      rw [List.length_map, List.length_map] at lengths
      rw [selected.length_eq, lengths]
    have covered : rows.Perm (rowsToDrain table after) :=
      (once.subperm subset).perm_of_length_le sameLength.le
    exact SeekDrain.tiled_of_drain room distinct drained once
      fun row member => covered.mem_iff.mpr member
  · rintro ⟨dated, tiled⟩
    refine ⟨_, returned dated, ?_⟩
    rw [SeekDrain.drain_of_tiled room tiled drained]
    exact selected.map _

end Drain

/-- A row of the first millisecond, updated at that microsecond. -/
def sampleRow (id : Nat) (micros : Int) : SourceRow where
  id
  uuid := ""
  tenantId := ""
  payload := .obj []
  version := 1
  status := "ACTIVE"
  isCorrupted := false
  createdAt := 0
  updatedAt := micros

/-- Row 5 was updated before row 3, within one millisecond. -/
def sampleTable : List SourceRow :=
  [sampleRow 3 200, sampleRow 5 100]

/-- The watermark before both. -/
def sampleStart : Watermark where
  timestamp := -1
  id := 0

/-- Two distinct primary keys. -/
theorem primaryKeys_sampleTable : PrimaryKeys sampleTable where
  isKey := by decide
  unique := by decide

/-- On pages of one row the condition decides about those two. -/
theorem sampleTable_drainsOnce_iff :
    DrainsOnce (fun _ => none) sampleTable sampleStart 1 ↔
      (∀ row ∈ rowsToDrain sampleTable sampleStart, row.dated) ∧
        SeekDrain.Tiled SourceRow.watermark 1
          (rowsToDrain sampleTable sampleStart) :=
  drainsOnce_iff_tiled primaryKeys_sampleTable Nat.one_pos

/-- Row 3 is above the start, and no fetch returns it. -/
theorem sampleTable_skips :
    PrimaryKeys sampleTable ∧
      (drainIncremental (fun _ => none) sampleTable 1
            (sampleTable.length + 1) sampleStart).map
          (List.map SourceRecord.id) =
        some [5] ∧
      (incrementalRows sampleTable sampleStart).map SourceRow.id = [3, 5] ∧
      ¬ DrainsOnce (fun _ => none) sampleTable sampleStart 1 := by
  have drained :
      (drainIncremental (fun _ => none) sampleTable 1
            (sampleTable.length + 1) sampleStart).map
          (List.map SourceRecord.id) =
        some [5] := by decide +kernel
  refine ⟨primaryKeys_sampleTable, drained, by decide, ?_⟩
  rintro ⟨returned, run, perm⟩
  rw [run] at drained
  have lengths := perm.length_eq
  have ids := congrArg List.length (Option.some.inj drained)
  rw [List.length_map] at ids
  rw [ids] at lengths
  revert lengths
  decide

end SourceReader

end Replication
