import Replication.CursorDiscipline

namespace Replication

/-!
# Coverage up to a cursor

The cursor discipline instantiated with "every row not above this cursor is
covered", for any notion of coverage that a finished batch gives to its rows and
that no step takes away.  It rests on two facts about the queries: fetched rows
are above the cursor they were fetched from, and on tables whose keys identify
rows a fetch is a keyset page.
-/

section Queries

variable
  {Cursor Gauges : Type}
  (program : RunnerProgram Cursor Gauges)
  (codec : CursorCodec Cursor)

/-- Fetched rows are above the cursor they were fetched from. -/
def FetchesAbove [LT Cursor] : Prop :=
  ∀ table cursor, ∀ record ∈ program.fetch table cursor,
    cursor < codec.ofRecord record

/-- On this table the program fetches keyset pages, and keys identify rows. -/
structure KeysetTable
    [LinearOrder Cursor]
    (table : List SourceRow) : Prop where
  injective : Set.InjOn codec.ofRow {row | row ∈ table}
  page :
    ∃ limit, 0 < limit ∧
      ∀ cursor,
        program.fetch table cursor =
          (Keyset.page codec.ofRow cursor limit table).map
            (mapRowToSourceRecord program.parse)

end Queries

/-- `WHERE id > $1`. -/
theorem BackfillRunner.fetchesAbove
    (parse : String → Option Json)
    (batchSize : Nat) :
    FetchesAbove (program parse batchSize) codec := by
  intro table cursor record member
  obtain ⟨row, inPage, rfl⟩ := List.mem_map.mp member
  exact (Keyset.of_mem_page inPage).2

/-- The composite condition, on any stored precision. -/
theorem IncrementalRunner.fetchesAbove
    (parse : String → Option Json)
    (batchSize : Nat) :
    FetchesAbove (program parse batchSize) codec := by
  intro table cursor record member
  obtain ⟨row, inBatch, rfl⟩ := List.mem_map.mp member
  have selected : row ∈ SourceReader.incrementalRows table cursor :=
    (List.mem_insertionSort _).mp (List.mem_of_mem_take inBatch)
  rw [SourceReader.incrementalRows_eq, Keyset.rowsAbove,
    List.mem_filter] at selected
  exact of_decide_eq_true selected.2

/-- Backfill fetches are keyset pages on the primary key. -/
theorem BackfillRunner.keysetTable
    {parse : String → Option Json}
    {batchSize : Nat}
    {table : List SourceRow}
    (injective : Set.InjOn SourceRow.id {row | row ∈ table}) :
    KeysetTable (program parse batchSize) codec table where
  injective := injective
  page := ⟨fetchLimit batchSize, fetchLimit_pos _,
    fun _ => rfl⟩

/-- On whole milliseconds incremental fetches are keyset pages. -/
theorem IncrementalRunner.keysetTable
    {parse : String → Option Json}
    {batchSize : Nat}
    {table : List SourceRow}
    (unique : (table.map SourceRow.id).Nodup)
    (whole : ∀ row ∈ table, row.WholeMillis) :
    KeysetTable (program parse batchSize) codec table where
  injective _ firstMember _ secondMember same :=
    List.inj_on_of_nodup_map unique firstMember secondMember
      (congrArg Watermark.id same)
  page := ⟨fetchLimit batchSize, fetchLimit_pos _,
    fun cursor =>
      SourceReader.fetchIncrementalBatch_eq_page whole cursor _⟩

section EmptyFetch

variable
  {Cursor Gauges : Type}
  {program : RunnerProgram Cursor Gauges}

/-- The call has been answered by a fetch without rows. -/
def Call.AnsweredEmpty : Call Cursor → Prop
  | .fetchBatch _ (.fulfilled []) => True
  | _ => False

instance : DecidablePred (@Call.AnsweredEmpty Cursor)
  | .fetchBatch _ (.fulfilled []) => isTrue trivial
  | .fetchBatch _ (.fulfilled (_ :: _)) => isFalse id
  | .fetchBatch _ .pending => isFalse id
  | .fetchBatch _ .rejected => isFalse id
  | .getCheckpoint _ => isFalse id
  | .updateStatus _ _ => isFalse id
  | .getIncrementalLag _ _ => isFalse id
  | .dispatch _ _ _ => isFalse id
  | .persistFailures _ _ _ _ => isFalse id
  | .commitCheckpoint _ _ _ => isFalse id
  | .sleep => isFalse id
  | .orphan _ _ _ => isFalse id
  | .returned => isFalse id

/-- This step answers the fetch of the call at that index with no rows. -/
structure FetchedNothing
    (program : RunnerProgram Cursor Gauges)
    (before : RunnerProgram.World Cursor Gauges)
    (index : Nat)
    (after : RunnerProgram.World Cursor Gauges) : Prop where
  step :
    ∃ now, program.machine.step before (.act index (.serve now)) = some after
  answered : ∃ call ∈ after.tasks[index]?, call.AnsweredEmpty

/-- An empty answer means that the query has selected nothing. -/
theorem FetchedNothing.spec
    {before after : RunnerProgram.World Cursor Gauges}
    {index : Nat}
    (nothing : FetchedNothing program before index after) :
    ∃ cursor,
      .fetchBatch cursor .pending ∈ before.tasks ∧
        program.fetch before.context cursor = [] ∧
        after.context = before.context ∧ after.shared = before.shared := by
  obtain ⟨⟨now, taken⟩, answer, answered, empty⟩ := nothing
  obtain ⟨call, shared, next, spawned, found, moved, rfl⟩ :=
    TaskMachine.step_act taken
  obtain ⟨⟨_, _⟩, served, same⟩ := Option.map_eq_some_iff.mp moved
  cases same
  have bound := (List.getElem?_eq_some_iff.mp found).1
  rw [List.append_nil, List.getElem?_set_self bound] at answered
  cases answered
  have member := List.mem_of_getElem? found
  cases RunnerProgram.serve_spec served with
  | fetch cursor =>
      cases selected : program.fetch before.context cursor with
      | nil => exact ⟨cursor, member, selected, rfl, rfl⟩
      | cons first rest => exact (selected ▸ empty).elim
  | _ => exact empty.elim

/-- A concrete step whose answer is empty. -/
theorem FetchedNothing.exists_of_step
    {before : RunnerProgram.World Cursor Gauges}
    {index : Nat}
    (now : Int)
    (passes : RunnerProgram.World Cursor Gauges → Prop)
    [DecidablePred passes]
    (taken :
      (program.machine.step before (.act index (.serve now))).any
        (fun after =>
          (∃ call ∈ after.tasks[index]?, call.AnsweredEmpty) ∧
            passes after) = true) :
    ∃ after, FetchedNothing program before index after ∧ passes after := by
  obtain ⟨after, stepped, found⟩ := (Option.any_eq_true _ _).mp taken
  obtain ⟨empty, passed⟩ := of_decide_eq_true found
  exact ⟨after, ⟨⟨now, stepped⟩, empty⟩, passed⟩

end EmptyFetch

section Coverage

variable {Cursor Gauges : Type}

/-- The last record of mapped rows is the last row, mapped. -/
theorem CursorCodec.ofRecord_getLast?_map
    (codec : CursorCodec Cursor)
    {parse : String → Option Json}
    {rows : List SourceRow}
    {last : SourceRecord}
    (isLast :
      (rows.map (mapRowToSourceRecord parse)).getLast? = some last) :
    ∃ row, rows.getLast? = some row ∧
      codec.ofRow row = codec.ofRecord last := by
  rw [List.getLast?_map] at isLast
  obtain ⟨row, found, rfl⟩ := Option.map_eq_some_iff.mp isLast
  exact ⟨row, found, (codec.ofRecord_mapRow parse row).symm⟩

/--
A notion of coverage: a finished batch covers its rows, and coverage is never
lost.
-/
structure Coverage
    (program : RunnerProgram Cursor Gauges)
    (covered : RunnerState Cursor Gauges → SourceRow → Prop) : Prop where
  finished :
    ∀ {state} {rows : List SourceRow} {row},
      Finished state
        (rows.map (mapRowToSourceRecord program.parse)) →
      row ∈ rows → covered state row
  extend :
    ∀ {before after row},
      before.Extends after → covered before row → covered after row

variable
  [LinearOrder Cursor]
  (program : RunnerProgram Cursor Gauges)
  (codec : CursorCodec Cursor)
  (covered : RunnerState Cursor Gauges → SourceRow → Prop)
  (low : Cursor)

/-- Every row not above the cursor is covered. -/
def Covers
    (table : List SourceRow)
    (state : RunnerState Cursor Gauges)
    (cursor : Cursor) : Prop :=
  KeysetTable program codec table ∧
    Keyset.Settled codec.ofRow table (covered state) cursor

/-- Every row up to the end of the batch is covered or in it. -/
def CoversBatch
    (table : List SourceRow)
    (state : RunnerState Cursor Gauges)
    (records : List SourceRecord) : Prop :=
  KeysetTable program codec table ∧
    ∃ rows,
      records = rows.map (mapRowToSourceRecord program.parse) ∧
        Keyset.Spans codec.ofRow table (covered state) rows

/-- The cursor is the lower bound or the key of a row. -/
def Known
    (table : List SourceRow)
    (_ : RunnerState Cursor Gauges)
    (cursor : Cursor) : Prop :=
  KeysetTable program codec table ∧
    (cursor = low ∨ ∃ row ∈ table, codec.ofRow row = cursor)

/-- The last record of the batch has the key of a row. -/
def KnownBatch
    (table : List SourceRow)
    (_ : RunnerState Cursor Gauges)
    (records : List SourceRecord) : Prop :=
  KeysetTable program codec table ∧
    ∀ last, records.getLast? = some last →
      ∃ row ∈ table, codec.ofRow row = codec.ofRecord last

variable {program codec covered low}

/-- Every cursor that is persisted, in memory, or carried by a call. -/
def frontier
    (codec : CursorCodec Cursor)
    (world : RunnerProgram.World Cursor Gauges) : List Cursor :=
  codec.persisted world.shared.checkpoint :: world.shared.memory.cursor ::
    (world.tasks.flatMap (CursorDiscipline.cursorsOf codec) ++
      (world.tasks.flatMap CursorDiscipline.batchesOf).filterMap
        fun records => records.getLast?.map codec.ofRecord)

/-- A row above everything the runner has fetched up to. -/
def AboveFrontier
    (codec : CursorCodec Cursor)
    (world : RunnerProgram.World Cursor Gauges)
    (row : SourceRow) : Prop :=
  ∀ cursor ∈ frontier codec world, cursor < codec.ofRow row

instance
    (codec : CursorCodec Cursor)
    (world : RunnerProgram.World Cursor Gauges)
    (row : SourceRow) :
    Decidable (AboveFrontier codec world row) :=
  inferInstanceAs (Decidable (∀ cursor ∈ frontier codec world, _))

/-- Coverage up to a cursor is a discipline. -/
theorem Coverage.discipline
    (coverage : Coverage program covered) :
    CursorDiscipline program codec
      (Covers program codec covered) (CoversBatch program codec covered) where
  fetch := by
    rintro table state cursor ⟨keyset, settled⟩
    obtain ⟨limit, _, page⟩ := keyset.page
    exact ⟨keyset, _, page cursor, settled.spans_page keyset.injective⟩
  advance := by
    rintro table state records last ⟨keyset, rows, rfl, spans⟩
      finished isLast
    obtain ⟨row, rowLast, sameKey⟩ :=
      codec.ofRecord_getLast?_map isLast
    refine ⟨keyset, ?_⟩
    rw [← sameKey]
    exact spans.settled rowLast fun _ => coverage.finished finished
  soundExtends := by
    rintro table before after cursor extended ⟨keyset, settled⟩
    exact ⟨keyset, settled.mono fun _ _ => coverage.extend extended⟩
  fetchedExtends := by
    rintro table before after records extended ⟨keyset, rows, same, spans⟩
    exact ⟨keyset, rows, same,
      spans.mono fun _ _ => coverage.extend extended⟩

/-- Knowing where cursors come from is a discipline. -/
theorem known_discipline :
    CursorDiscipline program codec
      (Known program codec low) (KnownBatch program codec) where
  fetch := by
    rintro table state cursor ⟨keyset, _⟩
    obtain ⟨limit, _, page⟩ := keyset.page
    refine ⟨keyset, ?_⟩
    intro last isLast
    rw [page] at isLast
    obtain ⟨row, rowLast, sameKey⟩ :=
      codec.ofRecord_getLast?_map isLast
    exact ⟨row, (Keyset.of_getLast?_page rowLast).1, sameKey⟩
  advance := by
    rintro table state records last ⟨keyset, known⟩ _ isLast
    exact ⟨keyset, .inr (known last isLast)⟩
  soundExtends _ known := known
  fetchedExtends _ known := known

/-- A cursor from which nothing is fetched has the whole table covered. -/
theorem Covers.all_of_fetch_nil
    {table : List SourceRow}
    {state : RunnerState Cursor Gauges}
    {cursor : Cursor}
    (covers : Covers program codec covered table state cursor)
    (nothing : program.fetch table cursor = [])
    {row : SourceRow}
    (member : row ∈ table) :
    covered state row := by
  obtain ⟨keyset, settled⟩ := covers
  obtain ⟨limit, room, page⟩ := keyset.page
  have empty : Keyset.page codec.ofRow cursor limit table = [] := by
    simpa [page] using nothing
  exact settled.all_of_page_nil room empty member

/--
A change of the table whose new rows are covered or above the frontier keeps
coverage, in the watermark and in every call; and so does another notion of
coverage that holds wherever the old one does.
-/
theorem Covers.change
    (more : RunnerState Cursor Gauges → SourceRow → Prop)
    {world : RunnerProgram.World Cursor Gauges}
    {changed : List SourceRow}
    (holds :
      TaskMachine.Invariant
        (CursorDiscipline.Global codec (Covers program codec covered))
        (CursorDiscipline.Local codec (Covers program codec covered)
          (CoversBatch program codec covered))
        world)
    (weaker :
      ∀ row ∈ world.context,
        covered world.shared row → more world.shared row)
    (keyset : KeysetTable program codec changed)
    (new :
      ∀ row ∈ changed,
        row ∈ world.context ∨ more world.shared row ∨
          AboveFrontier codec world row) :
    CursorDiscipline.Global codec (Covers program codec more)
        changed world.shared ∧
      ∀ call ∈ world.tasks,
        CursorDiscipline.Local codec (Covers program codec more)
          (CoversBatch program codec more) changed world.shared call := by
  have moved :
      ∀ {cursor},
        cursor ∈ frontier codec world →
        Covers program codec covered world.context world.shared cursor →
        Covers program codec more changed world.shared cursor := by
    rintro cursor live ⟨_, settled⟩
    refine ⟨keyset, (settled.mono weaker).change fun row member => ?_⟩
    exact (new row member).imp_right
      (Or.imp_right fun above => above cursor live)
  refine ⟨moved List.mem_cons_self holds.global, fun call member => ?_⟩
  refine (holds.local_ call member).transport (.refl _)
    (moved (List.mem_cons_of_mem _ List.mem_cons_self)) ?_ ?_
  · intro cursor carried
    refine moved (List.mem_cons_of_mem _ (List.mem_cons_of_mem _ ?_))
    exact List.mem_append_left _
      (List.mem_flatMap.mpr ⟨call, member, carried⟩)
  · rintro records carried ⟨_, rows, same, spans⟩
    refine ⟨keyset, rows, same,
      (spans.mono weaker).change fun row inChanged => ?_⟩
    refine (new row inChanged).imp_right
      (Or.imp_right fun above last isLast => ?_)
    have isRecord :
        records.getLast?.map codec.ofRecord =
          some (codec.ofRow last) := by
      simp [same, List.getLast?_map, isLast, codec.ofRecord_mapRow]
    refine above _ (List.mem_cons_of_mem _ (List.mem_cons_of_mem _ ?_))
    exact List.mem_append_right _ (List.mem_filterMap.mpr
      ⟨records, List.mem_flatMap.mpr ⟨call, member, carried⟩, isRecord⟩)

end Coverage

namespace BackfillRunner

/-!
## Growing tables

Ids come from a sequence, so an inserted row is above every cursor the backfill
runner can hold: those are zero or the id of a row.
-/

variable
  {parse : String → Option Json}
  {batchSize : Nat}
  {table : List SourceRow}

/-- A row above all rows has a new key. -/
theorem primaryKeys_insert
    {row : SourceRow}
    (keys : PrimaryKeys table)
    (isKey : IsKey row.id)
    (highest : ∀ old ∈ table, old.id < row.id) :
    PrimaryKeys (table ++ [row]) where
  isKey := by
    intro new member
    rcases List.mem_append.mp member with old | isNew
    · exact keys.isKey new old
    · exact List.mem_singleton.mp isNew ▸ isKey
  unique := by
    rw [List.map_append, List.nodup_append]
    refine ⟨keys.unique, List.nodup_singleton _, ?_⟩
    intro id member other isNew
    obtain ⟨old, oldMember, rfl⟩ := List.mem_map.mp member
    obtain rfl := List.mem_singleton.mp isNew
    exact Nat.ne_of_lt (highest old oldMember)

/-- A row above all rows is a new key. -/
theorem keysetTable_insert
    {row : SourceRow}
    (keyset : KeysetTable (program parse batchSize) codec table)
    (highest : ∀ old ∈ table, old.id < row.id) :
    KeysetTable (program parse batchSize) codec (table ++ [row]) := by
  apply keysetTable
  intro first firstMember second secondMember same
  simp only [Set.mem_ofPred_eq, List.mem_append, List.mem_singleton]
    at firstMember secondMember
  rcases firstMember with firstOld | rfl <;>
    rcases secondMember with secondOld | rfl
  · exact keyset.injective firstOld secondOld same
  · exact absurd same (Nat.ne_of_lt (highest first firstOld))
  · exact absurd same (Nat.ne_of_gt (highest second secondOld))
  · rfl

/-- Every copy of the cursor covers, and is zero or the id of a row. -/
abbrev Sound
    (parse : String → Option Json)
    (batchSize : Nat)
    (covered : RunnerState Nat Gauges → SourceRow → Prop)
    (table : List SourceRow)
    (state : RunnerState Nat Gauges)
    (cursor : Nat) : Prop :=
  Covers (program parse batchSize) codec covered table state cursor ∧
    Known (program parse batchSize) codec 0 table state cursor

/-- Every batch spans, and ends in the id of a row. -/
abbrev Fetched
    (parse : String → Option Json)
    (batchSize : Nat)
    (covered : RunnerState Nat Gauges → SourceRow → Prop)
    (table : List SourceRow)
    (state : RunnerState Nat Gauges)
    (records : List SourceRecord) : Prop :=
  CoversBatch (program parse batchSize) codec covered table state records ∧
    KnownBatch (program parse batchSize) codec table state records

section Insert

variable
  {covered : RunnerState Nat Gauges → SourceRow → Prop}
  {state : RunnerState Nat Gauges}
  {row : SourceRow}
  (positive : 0 < row.id)
  (highest : ∀ old ∈ table, old.id < row.id)

include positive highest

/-- A row inserted above all rows keeps a sound cursor sound. -/
theorem Sound.insert
    {cursor : Nat}
    (sound : Sound parse batchSize covered table state cursor) :
    Sound parse batchSize covered (table ++ [row]) state cursor := by
  obtain ⟨⟨keyset, settled⟩, _, known⟩ := sound
  have keyset' := keysetTable_insert keyset highest
  have below : cursor < row.id := by
    rcases known with rfl | ⟨old, member, rfl⟩
    · exact positive
    · exact highest old member
  refine ⟨⟨keyset', settled.change ?_⟩, keyset', ?_⟩
  · intro new member
    rcases List.mem_append.mp member with old | isNew
    · exact .inl old
    · exact .inr (.inr (List.mem_singleton.mp isNew ▸ below))
  · exact known.imp_right fun ⟨old, member, same⟩ =>
      ⟨old, List.mem_append_left _ member, same⟩

/-- A row inserted above all rows keeps a batch spanning. -/
theorem Fetched.insert
    {records : List SourceRecord}
    (fetched : Fetched parse batchSize covered table state records) :
    Fetched parse batchSize covered (table ++ [row]) state records := by
  obtain ⟨⟨keyset, rows, rfl, spans⟩, _, known⟩ := fetched
  have keyset' := keysetTable_insert keyset highest
  refine ⟨⟨keyset', rows, rfl, spans.change ?_⟩, keyset', ?_⟩
  · intro new member
    rcases List.mem_append.mp member with old | isNew
    · exact .inl old
    · obtain rfl := List.mem_singleton.mp isNew
      refine .inr (.inr fun last isLast => ?_)
      obtain ⟨old, oldMember, same⟩ :=
        known (mapRowToSourceRecord parse last)
          (by rw [List.getLast?_map, isLast]; rfl)
      calc last.id
          = old.id := same.symm
        _ < new.id := highest old oldMember
  · intro last isLast
    obtain ⟨old, member, same⟩ := known last isLast
    exact ⟨old, List.mem_append_left _ member, same⟩

end Insert

/-- An inserted row keeps the assertions of all suspended calls. -/
theorem growing_keeps
    {covered : RunnerState Nat Gauges → SourceRow → Prop}
    {state : RunnerState Nat Gauges}
    {calls : List (Call Nat)}
    {change : SourceChange}
    {changed : List SourceRow}
    (global :
      CursorDiscipline.Global codec
        (Sound parse batchSize covered) table state)
    (local_ :
      ∀ call ∈ calls,
        CursorDiscipline.Local codec (Sound parse batchSize covered)
          (Fetched parse batchSize covered) table state call)
    (grows :
      ∃ row, change = .insert row ∧
        IsKey row.id ∧ ∀ old ∈ table, old.id < row.id)
    (applied : change.apply table = some changed) :
    CursorDiscipline.Global codec
        (Sound parse batchSize covered) changed state ∧
      ∀ call ∈ calls,
        CursorDiscipline.Local codec (Sound parse batchSize covered)
          (Fetched parse batchSize covered) changed state call := by
  obtain ⟨row, rfl, ⟨positive, -⟩, highest⟩ := grows
  simp only [SourceChange.apply] at applied
  split at applied
  · cases applied
    have sound :
        ∀ {cursor}, Sound parse batchSize covered table state cursor →
          Sound parse batchSize covered (table ++ [row]) state cursor :=
      Sound.insert positive highest
    refine ⟨sound global, fun call member => ?_⟩
    exact (local_ call member).transport (.refl _) sound
      (fun _ _ => sound) (fun _ _ => Fetched.insert positive highest)
  · cases applied

end BackfillRunner

end Replication
