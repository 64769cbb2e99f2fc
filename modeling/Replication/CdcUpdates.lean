import Replication.SingleLoop

namespace Replication.IncrementalRunner

/-!
# Updates under a moving watermark

Updates stamp `updated_at` with the current millisecond while the incremental
runner moves its watermark over the same column.  The tie-breaker orders rows of
one millisecond by id, so a row that is updated in the millisecond of the
watermark with an id not above it stays behind the watermark for good.  Updates
above the frontier, which is everything the runner has fetched up to, are never
lost.
-/

/-- A batch that both sinks have answered had the row in this version. -/
def Delivered
    (state : RunnerState Watermark Gauges)
    (row : SourceRow) : Prop :=
  ∃ records ∈ state.history.returned,
    ∃ record ∈ records,
      record.id = row.id ∧ record.version = row.version

instance
    (state : RunnerState Watermark Gauges)
    (row : SourceRow) :
    Decidable (Delivered state row) :=
  inferInstanceAs (Decidable (∃ records ∈ state.history.returned, _))

/-- The row with that id has been updated by one of the events. -/
def UpdatedBy
    (events : List RunnerProgram.Event)
    (id : Nat) : Prop :=
  ∃ row, .change (.update id row) ∈ events

/-- The instants at which the events update rows. -/
def stamps (events : List RunnerProgram.Event) : List Int :=
  events.filterMap fun
    | .change (.update _ row) => some row.updatedAt
    | _ => none

/-- The table changes by updates that raise versions, in whole milliseconds. -/
def CdcUpdates (world : World) : RunnerProgram.Event → Prop
  | .change (.update id row) =>
      row.WholeMillis ∧
        ∀ old ∈ world.context, old.id = id → old.version < row.version
  | .change (.insert _) => False
  | _ => True

instance (world : World) : DecidablePred (CdcUpdates world)
  | .change (.update _ _) => inferInstanceAs (Decidable (_ ∧ _))
  | .change (.insert _) => isFalse id
  | .act _ _ => isTrue trivial
  | .env _ => isTrue trivial

/-- Such an update is also above everything the runner has fetched up to. -/
def CdcAboveFrontier (world : World) : RunnerProgram.Event → Prop
  | .change (.update id row) =>
      CdcUpdates world (.change (.update id row)) ∧
        AboveFrontier codec world row
  | .change (.insert _) => False
  | _ => True

instance (world : World) : DecidablePred (CdcAboveFrontier world)
  | .change (.update _ _) => inferInstanceAs (Decidable (_ ∧ _))
  | .change (.insert _) => isFalse id
  | .act _ _ => isTrue trivial
  | .env _ => isTrue trivial

/-- The frontier is a further condition. -/
theorem CdcAboveFrontier.updates
    {world : World}
    {event : RunnerProgram.Event}
    (admitted : CdcAboveFrontier world event) :
    CdcUpdates world event := by
  cases event with
  | change change =>
      cases change with
      | update id row => exact admitted.1
      | insert row => exact admitted
  | act index action => trivial
  | env event => trivial

section Updates

variable
  {parse : String → Option Json}
  {batchSize : Nat}
  {table changed : List SourceRow}
  {id : Nat}
  {row : SourceRow}

/-- What an update of the table does. -/
theorem update_spec
    (applied : (SourceChange.update id row).apply table = some changed) :
    row.id = id ∧
      changed = table.map fun old => if old.id = id then row else old := by
  simp only [SourceChange.apply] at applied
  split at applied
  · rename_i allowed
    cases applied
    exact ⟨allowed.1, rfl⟩
  · cases applied

/-- A row after an update was there before or is the new one. -/
theorem mem_of_update
    (applied : (SourceChange.update id row).apply table = some changed)
    {found : SourceRow}
    (member : found ∈ changed) :
    found ∈ table ∧ found.id ≠ id ∨ found = row := by
  obtain ⟨_, rfl⟩ := update_spec applied
  obtain ⟨old, oldMember, same⟩ := List.mem_map.mp member
  split at same
  · exact .inr same.symm
  · rename_i other
    exact .inl (same ▸ ⟨oldMember, other⟩)

/-- An update keeps the primary key. -/
theorem ids_update
    (applied : (SourceChange.update id row).apply table = some changed) :
    changed.map SourceRow.id = table.map SourceRow.id := by
  obtain ⟨sameId, rfl⟩ := update_spec applied
  rw [List.map_map]
  apply List.map_congr_left
  intro old _
  simp only [Function.comp]
  split
  · rename_i isId
    rw [sameId, isId]
  · rfl

/-- Unique ids and timestamps in whole milliseconds. -/
structure MillisTable (table : List SourceRow) : Prop where
  unique : (table.map SourceRow.id).Nodup
  whole : ∀ row ∈ table, row.WholeMillis

/-- An update in whole milliseconds keeps the table so. -/
theorem MillisTable.update
    (millis : MillisTable table)
    (whole : row.WholeMillis)
    (applied : (SourceChange.update id row).apply table = some changed) :
    MillisTable changed where
  unique := by
    rw [ids_update applied]
    exact millis.unique
  whole found member := by
    rcases mem_of_update applied member with ⟨old, _⟩ | rfl
    · exact millis.whole found old
    · exact whole

/-- Such updates keep the table in whole milliseconds. -/
theorem MillisTable.step
    {before after : World}
    {event : RunnerProgram.Event}
    (millis : MillisTable before.context)
    (admitted : CdcUpdates before event)
    (taken :
      (program parse batchSize).machine.step before event = some after) :
    MillisTable after.context := by
  rcases TaskMachine.context_step taken with same | ⟨change, rfl, applied⟩
  · exact same ▸ millis
  · cases change with
    | insert row => exact admitted.elim
    | update id row => exact millis.update admitted.1 applied

end Updates

section Versions

variable
  {parse : String → Option Json}
  {batchSize : Nat}

/-- Every row has a predecessor whose version the step did not lower. -/
theorem versions_step
    {before after : World}
    {event : RunnerProgram.Event}
    (admitted : CdcUpdates before event)
    (taken :
      (program parse batchSize).machine.step before event = some after)
    {row : SourceRow}
    (member : row ∈ after.context) :
    ∃ old ∈ before.context,
      old.id = row.id ∧ old.version ≤ row.version ∧
        (UpdatedBy [event] row.id → old.version < row.version) := by
  have unchanged :
      row ∈ before.context →
      ¬ UpdatedBy [event] row.id →
      ∃ old ∈ before.context,
        old.id = row.id ∧ old.version ≤ row.version ∧
          (UpdatedBy [event] row.id → old.version < row.version) :=
    fun old notUpdated =>
      ⟨row, old, rfl, le_refl _, fun updated => absurd updated notUpdated⟩
  cases event with
  | act index action =>
      obtain ⟨_, _, _, _, _, _, rfl⟩ := TaskMachine.step_act taken
      exact unchanged member (by simp [UpdatedBy])
  | env event =>
      obtain ⟨_, _, _, rfl⟩ := TaskMachine.step_env taken
      exact unchanged member (by simp [UpdatedBy])
  | change change =>
      obtain ⟨changed, applied, rfl⟩ := TaskMachine.step_change taken
      cases change with
      | insert new => exact admitted.elim
      | update id new =>
          rcases mem_of_update applied member with ⟨old, other⟩ | rfl
          · exact unchanged old (by simpa [UpdatedBy] using other)
          · obtain ⟨sameId, rfl⟩ := update_spec applied
            obtain ⟨old, oldMember, same⟩ := List.mem_map.mp member
            by_cases isOld : old.id = id
            · have raised := admitted.2 old oldMember isOld
              exact ⟨old, oldMember, isOld.trans sameId.symm,
                le_of_lt raised, fun _ => raised⟩
            · rw [if_neg isOld] at same
              exact absurd (same ▸ sameId) isOld

/-- Along a run versions only grow, and an updated row's version has grown. -/
theorem versions_run
    {initial final : World}
    {events : List RunnerProgram.Event}
    (run :
      Run (program parse batchSize).machine.step CdcUpdates
        initial events final)
    {row : SourceRow}
    (member : row ∈ final.context) :
    ∃ old ∈ initial.context,
      old.id = row.id ∧ old.version ≤ row.version ∧
        (UpdatedBy events row.id → old.version < row.version) := by
  induction run with
  | nil state =>
      exact ⟨row, member, rfl, le_refl _, by simp [UpdatedBy]⟩
  | @cons initial middle final event rest admitted first _
      inductionHypothesis =>
      obtain ⟨between, betweenMember, sameId, notLower, higher⟩ :=
        inductionHypothesis member
      obtain ⟨old, oldMember, oldId, oldNotLower, oldHigher⟩ :=
        versions_step admitted first betweenMember
      refine ⟨old, oldMember, oldId.trans sameId,
        le_trans oldNotLower notLower, ?_⟩
      rintro ⟨new, updated⟩
      rcases List.mem_cons.mp updated with here | later
      · have raised := oldHigher ⟨new, by simp [← here, sameId]⟩
        exact lt_of_lt_of_le raised notLower
      · exact lt_of_le_of_lt oldNotLower (higher ⟨new, later⟩)

end Versions

/-- One of the rows at the start of the run, or delivered. -/
def OldOrDelivered
    (table : List SourceRow)
    (state : RunnerState Watermark Gauges)
    (row : SourceRow) : Prop :=
  row ∈ table ∨ Delivered state row

section Delivery

variable
  {parse : String → Option Json}
  {batchSize : Nat}
  {table : List SourceRow}

/-- Being old or delivered is a notion of coverage. -/
theorem oldOrDelivered_coverage
    (parse : String → Option Json)
    (batchSize : Nat)
    (table : List SourceRow) :
    Coverage (program parse batchSize) (OldOrDelivered table) where
  finished := by
    rintro state rows row ⟨_, _, returned, _⟩ member
    exact .inr ⟨_, returned.returned, mapRowToSourceRecord parse row,
      List.mem_map_of_mem member, rfl, rfl⟩
  extend := by
    rintro before after row extended (old | ⟨records, member, delivered⟩)
    · exact .inl old
    · exact .inr ⟨records, extended.returned records member, delivered⟩

/-- The invariant of a table that is updated above the frontier. -/
abbrev DeliveryInvariant
    (parse : String → Option Json)
    (batchSize : Nat)
    (table : List SourceRow) : World → Prop :=
  TaskMachine.Invariant
    (CursorDiscipline.Global codec
      (Covers (program parse batchSize) codec (OldOrDelivered table)))
    (CursorDiscipline.Local codec
      (Covers (program parse batchSize) codec (OldOrDelivered table))
      (CoversBatch (program parse batchSize) codec (OldOrDelivered table)))

/-- Every step whose update, if any, is above the frontier keeps it. -/
theorem delivery_step
    {before after : World}
    {event : RunnerProgram.Event}
    (millis : MillisTable before.context)
    (holds : DeliveryInvariant parse batchSize table before)
    (admitted : CdcAboveFrontier before event)
    (taken :
      (program parse batchSize).machine.step before event = some after) :
    DeliveryInvariant parse batchSize table after := by
  have coverage := oldOrDelivered_coverage parse batchSize table
  refine coverage.discipline.invariant_step
    (program_follows parse batchSize)
    (fun world event =>
      CdcAboveFrontier world event ∧ MillisTable world.context)
    ?_ holds ⟨admitted, millis⟩ taken
  rintro world change changed worldHolds ⟨admitted, millis⟩ applied
  cases change with
  | insert row => exact admitted.elim
  | update id row =>
      obtain ⟨allowed, above⟩ := admitted
      have changedMillis := millis.update allowed.1 applied
      refine Covers.change _ worldHolds (fun _ _ covered => covered)
        (keysetTable changedMillis.unique changedMillis.whole) ?_
      intro found member
      rcases mem_of_update applied member with ⟨old, _⟩ | rfl
      · exact .inl old
      · exact .inr (.inr above)

/--
As long as every update is above the frontier, a fetch without rows means that
the current version of every row updated so far has been in a batch that both
sinks have answered.
-/
theorem no_lost_update
    {checkpoint : Option ReplicationCheckpoint}
    {events : List RunnerProgram.Event}
    {reached fetched : World}
    {index : Nat}
    (millis : MillisTable table)
    (run :
      Run (program parse batchSize).machine.step CdcAboveFrontier
        ((program parse batchSize).initial table checkpoint)
        events reached)
    (nothing : FetchedNothing (program parse batchSize) reached index fetched) :
    ∀ row ∈ fetched.context,
      UpdatedBy events row.id → Delivered fetched.shared row := by
  have start :
      DeliveryInvariant parse batchSize table
        ((program parse batchSize).initial table checkpoint) :=
    CursorDiscipline.invariant_initial
      ⟨keysetTable millis.unique millis.whole,
        fun row member _ => .inl member⟩
  obtain ⟨_, holds⟩ := run.invariant
    (fun world =>
      MillisTable world.context ∧
        DeliveryInvariant parse batchSize table world)
    (fun ⟨millis, holds⟩ admitted taken =>
      ⟨millis.step admitted.updates taken,
        delivery_step millis holds admitted taken⟩)
    ⟨millis, start⟩
  obtain ⟨cursor, isPending, selected, sameTable, sameState⟩ :=
    nothing.spec
  intro row member updated
  rw [sameTable] at member
  rw [sameState]
  obtain ⟨_, parameter, _⟩ := holds.local_ _ isPending
  rcases parameter.all_of_fetch_nil selected member with old | delivered
  · -- an updated row is none of the rows at the start
    obtain ⟨first, firstMember, sameId, _, higher⟩ :=
      versions_run (run.mono CdcAboveFrontier.updates) member
    obtain rfl :=
      List.inj_on_of_nodup_map millis.unique firstMember old sameId
    exact absurd (higher updated) (lt_irrefl _)
  · exact delivered

end Delivery

/-- The row of that id in its second version, stamped at that millisecond. -/
def sampleUpdate (id : Nat) (millis : Int) : SourceRow :=
  { sampleRow id millis with version := 2 }

/-- A batch of both rows is answered and committed, and the loop goes on. -/
def sampleFull : List RunnerProgram.Event :=
  sampleStart ++
    [.act 0 (.settle .elasticsearch (some (sampleResult [1, 2] []))),
      .act 0 (.settle .rabbitmq (some (sampleResult [1, 2] []))),
      .act 0 (.turn 0), .act 0 (.serve 0), .act 0 (.turn 0)]

/-- The loop measures its lag and fetches, and the row is delivered. -/
def sampleNext (id : Nat) : List RunnerProgram.Event :=
  [.act 0 (.serve 0), .act 0 (.turn 0), .act 0 (.serve 0),
    .act 0 (.turn 0), .act 0 (.begin .elasticsearch),
    .act 0 (.begin .rabbitmq),
    .act 0 (.settle .elasticsearch (some (sampleResult [id] []))),
    .act 0 (.settle .rabbitmq (some (sampleResult [id] []))),
    .act 0 (.turn 0), .act 0 (.serve 0), .act 0 (.turn 0)]

/-- The first row is updated at 6, delivered, and the loop polls again. -/
def sampleDelivered : List RunnerProgram.Event :=
  sampleFull ++ [.change (.update 1 (sampleUpdate 1 6))] ++
    sampleNext 1 ++ [.act 0 (.turn 0), .act 0 (.serve 0), .act 0 (.turn 0)]

/-- Nothing is found, and the second version has been delivered. -/
theorem no_lost_update_laterMillisecond :
    ∃ reached fetched,
      FetchedNothing (program (fun _ => none) 2) reached 0 fetched ∧
      (∃ row ∈ fetched.context, row.id = 1 ∧ row.version = 2) ∧
      ∀ row ∈ fetched.context, row.id = 1 →
        Delivered fetched.shared row := by
  obtain ⟨reached, run, polled⟩ :
      ∃ reached,
        Run (program (fun _ => none) 2).machine.step CdcAboveFrontier
          ((program (fun _ => none) 2).initial
            [sampleRow 1 5, sampleRow 2 5] none)
          sampleDelivered reached ∧
        ((program (fun _ => none) 2).machine.step reached
          (.act 0 (.serve 0))).any
          (fun fetched =>
            (∃ call ∈ fetched.tasks[0]?, call.AnsweredEmpty) ∧
              ∃ row ∈ fetched.context, row.id = 1 ∧ row.version = 2) =
          true :=
    Run.exists_of_replay _ (by decide)
  obtain ⟨fetched, nothing, second⟩ :=
    FetchedNothing.exists_of_step 0 _ polled
  refine ⟨reached, fetched, nothing, second, ?_⟩
  rintro row member isFirst
  have updated : UpdatedBy sampleDelivered row.id :=
    ⟨sampleUpdate 1 6, by
      rw [isFirst]
      simp [sampleDelivered]⟩
  exact no_lost_update ⟨by decide, by decide⟩ run nothing
    row member updated

/-- The first row is updated at 5, and the loop polls again. -/
def sampleLost : List RunnerProgram.Event :=
  sampleFull ++ [.change (.update 1 (sampleUpdate 1 5)),
    .act 0 (.serve 0), .act 0 (.turn 0)]

/--
Nothing is found: the row is in the millisecond of the watermark with a lower
id, and its second version has been in no batch.
-/
theorem update_lost_in_watermark_millisecond :
    ∃ reached fetched,
      Run (program (fun _ => none) 2).machine.step CdcUpdates
        ((program (fun _ => none) 2).initial
          [sampleRow 1 5, sampleRow 2 5] none)
        sampleLost reached ∧
      UpdatedBy sampleLost 1 ∧ stamps sampleLost = [5000] ∧
      FetchedNothing (program (fun _ => none) 2) reached 0 fetched ∧
      ∃ row ∈ fetched.context,
        row.id = 1 ∧ row.version = 2 ∧ ¬ Delivered fetched.shared row := by
  obtain ⟨reached, run, polled⟩ :
      ∃ reached,
        Run (program (fun _ => none) 2).machine.step CdcUpdates
          ((program (fun _ => none) 2).initial
            [sampleRow 1 5, sampleRow 2 5] none)
          sampleLost reached ∧
        ((program (fun _ => none) 2).machine.step reached
          (.act 0 (.serve 0))).any
          (fun fetched =>
            (∃ call ∈ fetched.tasks[0]?, call.AnsweredEmpty) ∧
              ∃ row ∈ fetched.context,
                row.id = 1 ∧ row.version = 2 ∧
                  ¬ Delivered fetched.shared row) =
          true :=
    Run.exists_of_replay _ (by decide)
  obtain ⟨fetched, nothing, lost⟩ :=
    FetchedNothing.exists_of_step 0 _ polled
  exact ⟨reached, fetched, run, ⟨sampleUpdate 1 5, by simp [sampleLost]⟩,
    by decide, nothing, lost⟩

end Replication.IncrementalRunner
