import Replication.DLQRoundTrip
import Replication.JsonMerge
import Replication.Runner
import Mathlib

namespace Replication.SourceWriters

open TaskMachine

/-!
# The writers of the source table

The chaos service and the harness write `source_records` while both runners read
it.  Their calls interleave at every awaited statement.  A statement is executed
as a whole or rejected as a whole, so one row that the update of a burst cannot
change keeps it from changing any: a poison pill, whose balance is no number,
stays as it was inserted.  On an empty table a burst inserts its rows by one
statement each, and a rejected one leaves those before it.  What is executed is a
sequence of single inserts and updates, as the runs of the runners expect them.
-/

/-- The table, and the next value of its sequence. -/
structure Source where
  rows : List SourceRow
  nextId : Nat

/-- An instant in a column of type `TIMESTAMPTZ(3)`. -/
def storedInstant (now : Int) : Int :=
  (now + 500) / 1000 * 1000

/-- The largest `INTEGER`. -/
def maxInteger : Int := 2147483647

/-- `payload->>'balance'`. -/
def balanceText (payload : Json) : Option Text :=
  match payload.field "balance" with
  | none | some .null => none
  | some (.str text) => some text.toList
  | some value => some value.stringify

/-- `jsonb_set(payload, '{balance}', ...)`; other values have no such path. -/
def setBalance (balance : Json) : Json → Option Json
  | .obj fields =>
      some
        (.obj
          (fields.filter (fun field => field.1 ≠ "balance") ++
            [("balance", balance)]))
  | _ => none

/-- `version + 1` and `NOW()`, unless the version is out of range. -/
def raiseVersion (now : Int) (row : SourceRow) : Option SourceRow :=
  if row.version < maxInteger then
    some
      { row with
        version := row.version + 1
        updatedAt := storedInstant now }
  else
    none

/-- `UPDATE ... WHERE`; one row that is rejected rejects the statement. -/
def updateWhere
    (chosen : SourceRow → Bool)
    (change : SourceRow → Option SourceRow) :
    List SourceRow → Option (List SourceRow)
  | [] => some []
  | row :: rest =>
      match if chosen row then change row else some row,
        updateWhere chosen change rest with
      | some next, some others => some (next :: others)
      | _, _ => none

/-- What an `INSERT` gives; the other columns are the same for all. -/
structure NewRow where
  uuid : String
  tenantId : String
  payload : Json
  isCorrupted : Bool

/-- The row that is inserted. -/
def Source.newRow
    (source : Source)
    (now : Int)
    (new : NewRow) : SourceRow where
  id := source.nextId
  uuid := new.uuid
  tenantId := new.tenantId
  payload := new.payload
  version := 1
  status := "ACTIVE"
  isCorrupted := new.isCorrupted
  createdAt := storedInstant now
  updatedAt := storedInstant now

/-- `INSERT INTO source_records`. -/
def Source.insert
    (source : Source)
    (now : Int)
    (new : NewRow) : Source where
  rows := source.rows ++ [source.newRow now new]
  nextId := source.nextId + 1

/-- An `INSERT` of several rows, numbered in this order. -/
def Source.insertAll
    (source : Source)
    (now : Int)
    (news : List NewRow) : Source :=
  news.foldl (fun source new => source.insert now new) source

/-- The payload of `injectCorruptedRecord`; the clock is in microseconds. -/
def corruptedPayload (now : Int) : Json :=
  .obj
    [("customer_id",
        .str (String.ofList
          ("corrupted_cust_".toList ++ JsNumber.intText (truncateMillis now)))),
      ("first_name", .str "Poison"),
      ("last_name", .str "Pill"),
      ("email", .str "malformed-email-address"),
      ("account_tier", .str "UNSUPPORTED_TIER_TYPE"),
      ("balance", .str "NOT_A_VALID_NUMERIC_BALANCE"),
      ("metadata",
        .obj
          [("corrupted", .bool true),
            ("injected_by", .str "chaos_service"),
            ("timestamp", .str (isoString (truncateMillis now)))])]

/-- `VARCHAR(64)`. -/
def maxTenantLength : Nat := 64

/-- `Math.max(1, count)`. -/
def targetCount (count : Int) : Nat :=
  (max 1 count).toNat

/-- The payload of the `i`-th row that is inserted into an empty table. -/
def mutationPayload (now : Int) (i : Nat) : Json :=
  .obj
    [("customer_id",
        .str (String.ofList
          ("mutation_".toList ++ JsNumber.intText (truncateMillis now) ++
            '_' :: JsNumber.natText i))),
      ("first_name", .str "Mutation"),
      ("last_name", .str (String.ofList ("User".toList ++ JsNumber.natText i))),
      ("email",
        .str (String.ofList
          ("mutation_".toList ++ JsNumber.natText i ++
            "@example.com".toList))),
      ("account_tier", .str "STANDARD"),
      ("balance", .num (.ofInt (200 + i * 10))),
      ("metadata",
        .obj
          [("tag", .str "chaos_burst"),
            ("generated_at", .str (isoString (truncateMillis now)))])]

/-- The payload of the `c`-th poison pill of `seedGate4Batch`. -/
def gate4Poison (c : Nat) : Json :=
  .obj
    [("customer_id",
        .str (String.ofList ("poison_pill_".toList ++ JsNumber.natText c))),
      ("full_name",
        .str (String.ofList
          ("Corrupted Record ".toList ++ JsNumber.natText c))),
      ("email", .str "CORRUPTED_EMAIL_FORMAT_INVALID"),
      ("account_tier", .str "ILLEGAL_TIER_ENUM_VALUE"),
      ("balance", .str "NOT_A_VALID_DECIMAL_NUMBER"),
      ("is_poison_pill", .bool true),
      ("illegal_field_injection", .obj [("deep", .str "broken")])]

/-- What a call of a writer returns. -/
inductive Result where
  | injected (recordId : Nat) (uuid : String)
  | mutated (mutatedCount : Nat)
  /-- Ids with their new versions. -/
  | records (records : List (Nat × Int))
  | seeded (insertedIds corruptedIds : List Nat)
  deriving DecidableEq, Repr

/-- A call of a writer, suspended at a statement, or over. -/
inductive Call where
  | injectCorruptedRecord (tenantId : Option String) (payload : Json)
  /-- `generateSourceMutations`, at its update. -/
  | generateSourceMutations (count : Int)
  /-- The same on an empty table, at the insert of its next row. -/
  | insertMutation (count : Int) (mutatedCount : Nat) (payload : Json)
  | mutateSourceRecords (count : Nat)
  /-- `seedGate4Batch`, at the insert of its valid rows. -/
  | seedGate4Batch (valid : List Json) (corruptedCount : Nat)
  /-- The same, at the insert of its `c`-th poison pill. -/
  | seedPoison (c corruptedCount : Nat) (insertedIds corruptedIds : List Nat)
  | returned (result : Result)
  | rejected

/-- What comes from the database and the clock while a statement is executed. -/
structure Draw where
  /-- `NOW()`, in microseconds. -/
  now : Int
  /-- `gen_random_uuid()` for each row. -/
  uuids : Nat → String
  /-- What `ORDER BY RANDOM()` puts first. -/
  sample : List Nat
  /-- The clock of the process, when it reads the answer. -/
  clock : Int

/-- A call is made. -/
inductive Request where
  | injectCorruptedRecord (tenantId : Option String) (clock : Int)
  | generateSourceMutations (count : Int)
  | mutateSourceRecords (count : Nat)
  | seedGate4Batch (valid : List Json) (corruptedCount : Nat)

/-- How the statement that a call awaits ends. -/
inductive Act where
  | serve (draw : Draw)
  /-- It is executed, but the call does not get its answer. -/
  | lose (draw : Draw)
  /-- It is rejected, and may have used up numbers of the sequence. -/
  | reject (skipped : Nat)

/-- From `mutatedCount` inserted rows to the next insert, or to the result. -/
def insertNext (clock count : Int) (mutatedCount : Nat) : Call :=
  if mutatedCount < targetCount count then
    .insertMutation count mutatedCount (mutationPayload clock mutatedCount)
  else
    .returned (.mutated mutatedCount)

/-- To the insert of the `c`-th poison pill, or to the sorted ids. -/
def seedNext
    (c corruptedCount : Nat)
    (insertedIds corruptedIds : List Nat) : Call :=
  if c ≤ corruptedCount then
    .seedPoison c corruptedCount insertedIds corruptedIds
  else
    .returned
      (.seeded (insertedIds.insertionSort (· ≤ ·))
        (corruptedIds.insertionSort (· ≤ ·)))

/-- A call up to its first statement. -/
def Request.start : Request → Call
  | .injectCorruptedRecord tenantId clock =>
      .injectCorruptedRecord tenantId (corruptedPayload clock)
  | .generateSourceMutations count => .generateSourceMutations count
  | .mutateSourceRecords count => .mutateSourceRecords count
  | .seedGate4Batch valid corruptedCount =>
      if valid = [] then
        seedNext 1 corruptedCount [] []
      else
        .seedGate4Batch valid corruptedCount

section Statements

/-!
PostgreSQL adds 15.75 to what it can cast to a number, and rejects other texts.
-/

variable (plus : Text → Option Json)

/-- The payload with the raised balance; none counts as zero. -/
def raisedPayload (payload : Json) : Option Json :=
  (plus ((balanceText payload).getD ['0'])).bind fun balance =>
    setBalance balance payload

/-- What the burst makes of a row. -/
def mutated (now : Int) (row : SourceRow) : Option SourceRow :=
  (raisedPayload plus row.payload).bind fun payload =>
    raiseVersion now { row with payload }

/-- `updateQuery` over that sample, with its `rowCount`. -/
def updateQuery
    (source : Source)
    (now : Int)
    (sample : List Nat) : Option (Source × Nat) :=
  (updateWhere (fun row => row.id ∈ sample) (mutated plus now)
      source.rows).map fun rows =>
    ({ source with rows },
      (source.rows.filter fun row => row.id ∈ sample).length)

/-- One of the candidates of `mutateSourceRecords`: not corrupted, newest first. -/
def isCandidate
    (rows : List SourceRow)
    (count : Nat)
    (row : SourceRow) : Bool :=
  !row.isCorrupted &&
    (rows.filter fun other => !other.isCorrupted && row.id < other.id).length <
      count

/-- The query of `mutateSourceRecords`, with the rows it returns. -/
def mutateQuery
    (source : Source)
    (now : Int)
    (count : Nat) : Option (Source × List (Nat × Int)) :=
  (updateWhere (isCandidate source.rows count) (raiseVersion now)
      source.rows).map fun rows =>
    ({ source with rows },
      ((source.rows.zip rows).filter fun (row, _) =>
        isCandidate source.rows count row).map fun (_, next) =>
          (next.id, next.version))

/-- The awaited statement is executed, and the call goes on to the next one. -/
def serve (source : Source) (draw : Draw) : Call → Option (Source × Call)
  | .injectCorruptedRecord tenantId payload =>
      let tenant := (tenantId.filter (· ≠ "")).getD "tenant_chaos"
      match Postgres.varchar maxTenantLength (.text tenant) with
      | some tenantId =>
          some
            (source.insert draw.now
              { uuid := draw.uuids 0
                tenantId
                payload
                isCorrupted := true },
              .returned (.injected source.nextId (draw.uuids 0)))
      | none => some (source, .rejected)
  | .generateSourceMutations count =>
      match updateQuery plus source draw.now draw.sample with
      | some (after, 0) => some (after, insertNext draw.clock count 0)
      | some (after, rowCount) =>
          some (after, .returned (.mutated rowCount))
      | none => some (source, .rejected)
  | .insertMutation count mutatedCount payload =>
      some
        (source.insert draw.now
          { uuid := draw.uuids 0
            tenantId := "tenant_chaos"
            payload
            isCorrupted := false },
          insertNext draw.clock count (mutatedCount + 1))
  | .mutateSourceRecords count =>
      match mutateQuery source draw.now count with
      | some (after, records) => some (after, .returned (.records records))
      | none => some (source, .rejected)
  | .seedGate4Batch valid corruptedCount =>
      some
        (source.insertAll draw.now
          (valid.zipIdx.map fun (payload, i) =>
            { uuid := draw.uuids i
              tenantId := "tenant_gate4_valid"
              payload
              isCorrupted := false }),
          seedNext 1 corruptedCount
            ((List.range valid.length).map (source.nextId + ·)) [])
  | .seedPoison c corruptedCount insertedIds corruptedIds =>
      some
        (source.insert draw.now
          { uuid := draw.uuids 0
            tenantId := "tenant_gate4_poison"
            payload := gate4Poison c
            isCorrupted := true },
          seedNext (c + 1) corruptedCount (insertedIds ++ [source.nextId])
            (corruptedIds ++ [source.nextId]))
  | .returned _ => none
  | .rejected => none

/-- The statement that a call awaits ends. -/
def act
    (source : Source)
    (call : Call) : Act → Option (Source × Call × List Call)
  | .serve draw =>
      (serve plus source draw call).map fun (after, next) => (after, next, [])
  | .lose draw =>
      (serve plus source draw call).map fun (after, _) =>
        (after, .rejected, [])
  | .reject skipped =>
      match call with
      | .returned _ => none
      | .rejected => none
      | _ =>
          some ({ source with nextId := source.nextId + skipped },
            .rejected, [])

/-- The writers: calls are made at any time and interleave. -/
def machine : TaskMachine Unit Source Call Act Request Empty where
  act _ source call action := act plus source call action
  env _ source calls request := some (source, calls ++ [request.start])
  change _ := Empty.elim

end Statements

/-- The table with the calls of its writers. -/
abbrev World :=
  TaskMachine.World Unit Source Call

/-- One step of the writers. -/
abbrev Event :=
  TaskMachine.Event Act Request Empty

/-! ### Statements as single changes -/

/-- Ids are unique and below the sequence; timestamps are in milliseconds. -/
structure Sound (source : Source) : Prop where
  unique : (source.rows.map SourceRow.id).Nodup
  positive : 0 < source.nextId
  ids : ∀ row ∈ source.rows, 0 < row.id ∧ row.id < source.nextId
  whole : ∀ row ∈ source.rows, row.WholeMillis

/--
The changes that the runs of the runners expect, while ids are safe integers: a
new row has the highest id, an update raises the version by one, and both are
stamped in milliseconds.
-/
def Orderly (table : List SourceRow) : SourceChange → Prop
  | .insert row =>
      0 < row.id ∧ row.WholeMillis ∧ ∀ old ∈ table, old.id < row.id
  | .update id row =>
      row.WholeMillis ∧
        ∀ old ∈ table, old.id = id → row.version = old.version + 1

/-- One change after the other. -/
abbrev Changes :=
  Run SourceChange.apply Orderly

/-- The payload is that of a poison pill. -/
def IsPill (row : SourceRow) : Prop :=
  row.isCorrupted = true ∧
    (row.payload.field "balance" = some (.str "NOT_A_VALID_NUMERIC_BALANCE") ∨
      row.payload.field "balance" = some (.str "NOT_A_VALID_DECIMAL_NUMBER"))

/-- Neither text is a number to PostgreSQL. -/
structure Refuses (plus : Text → Option Json) : Prop where
  injected : plus "NOT_A_VALID_NUMERIC_BALANCE".toList = none
  seeded : plus "NOT_A_VALID_DECIMAL_NUMBER".toList = none

/-- What writers do to the table. -/
structure Advances (source after : Source) : Prop where
  sound : Sound after
  changes : ∃ changes, Changes source.rows changes after.rows
  pills : ∀ row ∈ source.rows, IsPill row → row ∈ after.rows

section Changes

variable {source middle after : Source}

/-- Nothing has been written. -/
theorem Advances.refl (sound : Sound source) : Advances source source where
  sound := sound
  changes := ⟨[], .nil _⟩
  pills _ member _ := member

/-- One write after another. -/
theorem Advances.trans
    (first : Advances source middle)
    (second : Advances middle after) : Advances source after where
  sound := second.sound
  changes := by
    obtain ⟨leading, leads⟩ := first.changes
    obtain ⟨trailing, trails⟩ := second.changes
    exact ⟨leading ++ trailing, leads.append trails⟩
  pills row member isPill :=
    second.pills row (first.pills row member isPill) isPill

/-- The column keeps milliseconds. -/
theorem storedInstant_whole (now : Int) : storedInstant now % 1000 = 0 :=
  Int.mul_emod_left _ _

/-- A row is inserted. -/
theorem Sound.insert
    (sound : Sound source)
    (now : Int)
    (new : NewRow) : Advances source (source.insert now new) := by
  have fresh :
      ∀ old ∈ source.rows, old.id < source.nextId :=
    fun old member => (sound.ids old member).2
  refine ⟨⟨?_, Nat.succ_pos _, ?_, ?_⟩, ⟨[.insert (source.newRow now new)], ?_⟩, ?_⟩
  · simp only [Source.insert, List.map_append, List.map_cons, List.map_nil]
    refine List.nodup_append.mpr
      ⟨sound.unique, List.nodup_singleton _, ?_⟩
    intro id member other isNew
    obtain ⟨old, isOld, rfl⟩ := List.mem_map.mp member
    rw [List.mem_singleton.mp isNew]
    exact (fresh old isOld).ne
  · intro row member
    rcases List.mem_append.mp member with isOld | isNew
    · exact ⟨(sound.ids row isOld).1, Nat.lt_succ_of_lt (fresh row isOld)⟩
    · rw [List.mem_singleton.mp isNew]
      exact ⟨sound.positive, Nat.lt_succ_self _⟩
  · intro row member
    rcases List.mem_append.mp member with isOld | isNew
    · exact sound.whole row isOld
    · rw [List.mem_singleton.mp isNew]
      exact storedInstant_whole now
  · refine .cons ⟨sound.positive, storedInstant_whole now, fresh⟩ ?_ (.nil _)
    exact if_pos fun old member => (fresh old member).ne
  · exact fun row member _ => List.mem_append_left _ member

/-- Numbers of the sequence are used up. -/
theorem Sound.skip
    (sound : Sound source)
    (skipped : Nat) :
    Advances source { source with nextId := source.nextId + skipped } where
  sound :=
    ⟨sound.unique, Nat.add_pos_left sound.positive _,
      fun row member =>
        ⟨(sound.ids row member).1,
          Nat.lt_add_right _ (sound.ids row member).2⟩,
      sound.whole⟩
  changes := ⟨[], .nil _⟩
  pills _ member _ := member

/-- Several rows are inserted. -/
theorem Sound.insertAll
    (sound : Sound source)
    (now : Int)
    (news : List NewRow) : Advances source (source.insertAll now news) := by
  induction news generalizing source with
  | nil => exact .refl sound
  | cons new rest inductionHypothesis =>
      have first := sound.insert now new
      exact first.trans (inductionHypothesis first.sound)

/-- What an update may make of a row. -/
structure Updates (row next : SourceRow) : Prop where
  sameId : next.id = row.id
  whole : row.WholeMillis → next.WholeMillis
  raised : next = row ∨ next.WholeMillis ∧ next.version = row.version + 1

/-- In a table with unique ids an update replaces one row. -/
theorem map_update_eq
    {before rest : List SourceRow}
    {row : SourceRow}
    (unique : ((before ++ row :: rest).map SourceRow.id).Nodup)
    (next : SourceRow) :
    (before ++ row :: rest).map
        (fun old => if old.id = row.id then next else old) =
      before ++ next :: rest := by
  obtain ⟨_, restUnique, disjoint⟩ :=
    List.nodup_append.mp (List.map_append ▸ unique)
  have others :
      ∀ old ∈ before ++ rest,
        (if old.id = row.id then next else old) = old := by
    intro old member
    refine if_neg fun same => ?_
    rcases List.mem_append.mp member with inBefore | inRest
    · exact disjoint _ (List.mem_map_of_mem inBefore) _ List.mem_cons_self same
    · exact (List.nodup_cons.mp restUnique).1
        (same ▸ List.mem_map_of_mem inRest)
  rw [List.map_append, List.map_cons, if_pos rfl,
    List.map_congr_left fun old member =>
      others old (List.mem_append_left _ member),
    List.map_congr_left fun old member =>
      others old (List.mem_append_right _ member),
    List.map_id', List.map_id']

/-- Rows are updated one after the other. -/
theorem exists_changes
    {before rows others : List SourceRow}
    (unique : ((before ++ rows).map SourceRow.id).Nodup)
    (updates : List.Forall₂ Updates rows others) :
    ∃ changes, Changes (before ++ rows) changes (before ++ others) := by
  induction updates generalizing before with
  | nil => exact ⟨[], .nil _⟩
  | @cons row next rest others updated _ inductionHypothesis =>
      have isMember : row ∈ before ++ row :: rest :=
        List.mem_append_right _ List.mem_cons_self
      have ids :
          ((before ++ [next] ++ rest).map SourceRow.id) =
            (before ++ row :: rest).map SourceRow.id := by
        simp [updated.sameId]
      obtain ⟨changes, later⟩ :=
        @inductionHypothesis (before ++ [next]) (ids ▸ unique)
      rw [List.append_assoc, List.singleton_append, List.append_assoc,
        List.singleton_append] at later
      rcases updated.raised with rfl | ⟨whole, version⟩
      · exact ⟨changes, later⟩
      · refine ⟨.update row.id next :: changes, .cons ⟨whole, ?_⟩ ?_ later⟩
        · intro old member same
          rw [List.inj_on_of_nodup_map unique member isMember same, version]
        · simp only [SourceChange.apply]
          rw [if_pos ⟨updated.sameId, row, isMember, rfl⟩,
            map_update_eq unique]

/-! ### Updates of several rows -/

section UpdateWhere

variable
  {chosen : SourceRow → Bool}
  {change : SourceRow → Option SourceRow}
  {rows others : List SourceRow}

/-- What an executed update has made of each row. -/
theorem updateWhere_spec
    (executed : updateWhere chosen change rows = some others) :
    List.Forall₂
      (fun row next =>
        (if chosen row then change row else some row) = some next)
      rows others := by
  induction rows generalizing others with
  | nil =>
      cases executed
      exact .nil
  | cons row rest inductionHypothesis =>
      simp only [updateWhere] at executed
      split at executed
      · rename_i next remaining isNext isRemaining
        cases executed
        exact .cons isNext (inductionHypothesis isRemaining)
      · cases executed

/-- An update is rejected exactly if one of the chosen rows is. -/
theorem updateWhere_eq_none :
    updateWhere chosen change rows = none ↔
      ∃ row ∈ rows, chosen row = true ∧ change row = none := by
  induction rows with
  | nil => simp [updateWhere]
  | cons row rest inductionHypothesis =>
      rw [List.exists_mem_cons_iff, ← inductionHypothesis, updateWhere]
      cases isChosen : chosen row with
      | false =>
          cases updateWhere chosen change rest <;> simp
      | true =>
          cases change row <;> cases updateWhere chosen change rest <;> simp

/-- Related lists have a partner for each element. -/
theorem exists_partner
    {First Second : Type}
    {relates : First → Second → Prop}
    {firsts : List First}
    {seconds : List Second}
    (related : List.Forall₂ relates firsts seconds)
    {first : First}
    (member : first ∈ firsts) :
    ∃ second ∈ seconds, relates first second := by
  induction related with
  | nil => cases member
  | @cons head partner rest others isPartner _ inductionHypothesis =>
      rcases List.mem_cons.mp member with rfl | inRest
      · exact ⟨partner, List.mem_cons_self, isPartner⟩
      · obtain ⟨second, isSecond, relates⟩ := inductionHypothesis inRest
        exact ⟨second, List.mem_cons_of_mem _ isSecond, relates⟩

/-- A row that is not chosen is still there. -/
theorem mem_of_updateWhere
    (executed : updateWhere chosen change rows = some others)
    {row : SourceRow}
    (member : row ∈ rows)
    (notChosen : chosen row = false) :
    row ∈ others := by
  obtain ⟨next, isNext, same⟩ :=
    exists_partner (updateWhere_spec executed) member
  rw [notChosen] at same
  exact Option.some.inj same ▸ isNext

/-- A version that has been raised. -/
theorem updates_of_raiseVersion
    {now : Int}
    {row old next : SourceRow}
    (sameId : row.id = old.id)
    (sameVersion : row.version = old.version)
    (raised : raiseVersion now row = some next) :
    Updates old next := by
  unfold raiseVersion at raised
  split at raised
  · cases raised
    exact ⟨sameId, fun _ => storedInstant_whole now,
      .inr ⟨storedInstant_whole now, congrArg (· + 1) sameVersion⟩⟩
  · cases raised

/-- An executed update whose rows are raised, with no poison pill among them. -/
theorem Sound.update
    {source : Source}
    (sound : Sound source)
    (updates :
      ∀ row next, change row = some next → Updates row next)
    (noPill :
      ∀ row ∈ source.rows, chosen row = true → IsPill row →
        change row = none)
    (executed : updateWhere chosen change source.rows = some others) :
    Advances source { source with rows := others } := by
  have each :
      List.Forall₂ Updates source.rows others := by
    refine (updateWhere_spec executed).imp fun row next isNext => ?_
    split at isNext
    · exact updates row next isNext
    · obtain rfl := Option.some.inj isNext
      exact ⟨rfl, id, .inl rfl⟩
  have sameIds :
      source.rows.map SourceRow.id = others.map SourceRow.id := by
    have paired :
        List.Forall₂ Eq (source.rows.map SourceRow.id)
          (others.map SourceRow.id) :=
      List.forall₂_map_left_iff.mpr
        (List.forall₂_map_right_iff.mpr
          (each.imp fun _ _ updated => updated.sameId.symm))
    rwa [List.forall₂_eq_eq_eq] at paired
  have origin :
      ∀ next ∈ others, ∃ row ∈ source.rows, Updates row next := by
    have reversed : List.Forall₂ (flip Updates) others source.rows :=
      List.Forall₂.flip each
    exact fun next member => exists_partner reversed member
  refine ⟨⟨sameIds ▸ sound.unique, sound.positive, ?_, ?_⟩, ?_, ?_⟩
  · intro next member
    obtain ⟨row, isRow, updated⟩ := origin next member
    exact updated.sameId ▸ sound.ids row isRow
  · intro next member
    obtain ⟨row, isRow, updated⟩ := origin next member
    exact updated.whole (sound.whole row isRow)
  · exact @exists_changes [] _ _ sound.unique each
  · intro row member isPill
    cases isChosen : chosen row with
    | false => exact mem_of_updateWhere executed member isChosen
    | true =>
        -- an update that has chosen a pill would have been rejected
        have rejected :=
          updateWhere_eq_none.mpr
            ⟨row, member, isChosen, noPill row member isChosen isPill⟩
        rw [rejected] at executed
        cases executed

end UpdateWhere

/-! ### The writers -/

section Writers

variable {plus : Text → Option Json}

/-- A burst cannot change a poison pill. -/
theorem mutated_of_isPill
    (refuses : Refuses plus)
    {row : SourceRow}
    (isPill : IsPill row)
    (now : Int) :
    mutated plus now row = none := by
  rcases isPill.2 with balance | balance
  · simp only [mutated, raisedPayload, balanceText, balance,
      Option.getD_some, refuses.injected, Option.bind_none]
  · simp only [mutated, raisedPayload, balanceText, balance,
      Option.getD_some, refuses.seeded, Option.bind_none]

/-- A burst raises the rows that it changes. -/
theorem updates_of_mutated
    {now : Int}
    {row next : SourceRow}
    (isNext : mutated plus now row = some next) :
    Updates row next := by
  obtain ⟨payload, -, raised⟩ := Option.bind_eq_some_iff.mp isNext
  exact @updates_of_raiseVersion now { row with payload } row next rfl rfl raised

/-- The update of a burst, if it is executed. -/
theorem Sound.updateQuery
    (sound : Sound source)
    (refuses : Refuses plus)
    {now : Int}
    {sample : List Nat}
    {result : Source × Nat}
    (executed :
      SourceWriters.updateQuery plus source now sample = some result) :
    Advances source result.1 := by
  obtain ⟨rows, updated, rfl⟩ := Option.map_eq_some_iff.mp executed
  exact sound.update (fun _ _ => updates_of_mutated)
    (fun _ _ _ isPill => mutated_of_isPill refuses isPill now) updated

/-- The update of the harness, if it is executed. -/
theorem Sound.mutateQuery
    (sound : Sound source)
    {now : Int}
    {count : Nat}
    {result : Source × List (Nat × Int)}
    (executed : SourceWriters.mutateQuery source now count = some result) :
    Advances source result.1 := by
  obtain ⟨rows, updated, rfl⟩ := Option.map_eq_some_iff.mp executed
  refine sound.update (fun _ _ => updates_of_raiseVersion rfl rfl)
    (fun row _ isChosen isPill => ?_) updated
  -- corrupted rows are no candidates
  simp [isCandidate, isPill.1] at isChosen

/-- Every statement keeps the table sound, and every poison pill as it is. -/
theorem Sound.serve
    (sound : Sound source)
    (refuses : Refuses plus)
    {draw : Draw}
    {call next : Call}
    (served : serve plus source draw call = some (after, next)) :
    Advances source after := by
  cases call with
  | injectCorruptedRecord tenantId payload =>
      simp only [SourceWriters.serve] at served
      split at served
      · cases served
        exact sound.insert _ _
      · cases served
        exact .refl sound
  | generateSourceMutations count =>
      simp only [SourceWriters.serve] at served
      split at served
      · rename_i executed
        cases served
        exact sound.updateQuery refuses executed
      · rename_i executed
        cases served
        exact sound.updateQuery refuses executed
      · cases served
        exact .refl sound
  | insertMutation count mutatedCount payload =>
      cases served
      exact sound.insert _ _
  | mutateSourceRecords count =>
      simp only [SourceWriters.serve] at served
      split at served
      · rename_i executed
        cases served
        exact sound.mutateQuery executed
      · cases served
        exact .refl sound
  | seedGate4Batch valid corruptedCount =>
      cases served
      exact sound.insertAll _ _
  | seedPoison c corruptedCount insertedIds corruptedIds =>
      cases served
      exact sound.insert _ _
  | returned result => cases served
  | rejected => cases served

/-- So does every step of the writers. -/
theorem Sound.step
    {before reached : World}
    (sound : Sound before.shared)
    (refuses : Refuses plus)
    {event : Event}
    (taken : (machine plus).step before event = some reached) :
    Advances before.shared reached.shared := by
  cases event with
  | act index action =>
      obtain ⟨call, shared, next, spawned, -, moved, rfl⟩ := step_act taken
      cases action with
      | serve draw =>
          obtain ⟨⟨_, _⟩, served, same⟩ := Option.map_eq_some_iff.mp moved
          cases same
          exact sound.serve refuses served
      | lose draw =>
          obtain ⟨⟨_, _⟩, served, same⟩ := Option.map_eq_some_iff.mp moved
          cases same
          exact sound.serve refuses served
      | reject skipped =>
          cases call <;> cases moved <;> exact sound.skip skipped
  | env request =>
      obtain ⟨shared, calls, made, rfl⟩ := step_env taken
      cases made
      exact .refl sound
  | change change => exact change.elim

/-- What `ORDER BY RANDOM() LIMIT` selects. -/
structure Samples
    (rows : List SourceRow)
    (limit : Nat)
    (sample : List Nat) : Prop where
  unique : sample.Nodup
  among : sample ⊆ rows.map SourceRow.id
  size : sample.length = min limit rows.length

/-- As many rows are sampled as the sample has ids. -/
theorem Samples.length_filter
    {rows : List SourceRow}
    {limit : Nat}
    {sample : List Nat}
    (samples : Samples rows limit sample)
    (unique : (rows.map SourceRow.id).Nodup) :
    (rows.filter fun row => row.id ∈ sample).length =
      min limit rows.length := by
  have sampled :
      ((rows.filter fun row => row.id ∈ sample).map SourceRow.id).Perm
        sample := by
    refine (List.perm_ext_iff_of_nodup
      (unique.sublist (List.filter_sublist.map _)) samples.unique).mpr ?_
    intro id
    simp only [List.mem_map, List.mem_filter, decide_eq_true_eq]
    constructor
    · rintro ⟨row, ⟨-, inSample⟩, rfl⟩
      exact inSample
    · intro inSample
      obtain ⟨row, isRow, rfl⟩ := List.mem_map.mp (samples.among inSample)
      exact ⟨row, ⟨isRow, inSample⟩, rfl⟩
  rw [← samples.size, ← sampled.length_eq, List.length_map]

/-- A sample without a limit contains every row. -/
theorem Samples.all
    {rows : List SourceRow}
    {limit : Nat}
    {sample : List Nat}
    (samples : Samples rows limit sample)
    (large : rows.length ≤ limit)
    {row : SourceRow}
    (member : row ∈ rows) :
    row.id ∈ sample := by
  have whole : (rows.map SourceRow.id).length ≤ sample.length := by
    rw [List.length_map, samples.size, min_eq_right large]
  exact (((samples.unique.subperm samples.among).perm_of_length_le
    whole).mem_iff).mpr (List.mem_map_of_mem member)

/-- All or nothing: how the update of a burst ends. -/
inductive BurstSpec
    (plus : Text → Option Json)
    (source : Source)
    (draw : Draw)
    (count : Int) : Source → Call → Prop where
  | executed
      {after : Source}
      (sameSequence : after.nextId = source.nextId)
      (rows :
        List.Forall₂
          (fun row next =>
            (if row.id ∈ draw.sample then
              mutated plus draw.now row
            else
              some row) = some next)
          source.rows after.rows) :
      BurstSpec plus source draw count after
        (.returned
          (.mutated (min (targetCount count) source.rows.length)))
  | refused
      {row : SourceRow}
      (member : row ∈ source.rows)
      (sampled : row.id ∈ draw.sample)
      (noChange : mutated plus draw.now row = none) :
      BurstSpec plus source draw count source .rejected

/-- On a table that is not empty a burst is all or nothing. -/
theorem Sound.burstSpec
    (sound : Sound source)
    {count : Int}
    {draw : Draw}
    (samples : Samples source.rows (targetCount count) draw.sample)
    (nonempty : source.rows ≠ [])
    {call : Call}
    (served :
      SourceWriters.serve plus source draw (.generateSourceMutations count) =
        some (after, call)) :
    BurstSpec plus source draw count after call := by
  have nonzero : min (targetCount count) source.rows.length ≠ 0 := by
    have length := List.length_pos_iff.mpr nonempty
    have target : 1 ≤ targetCount count := by
      unfold targetCount
      omega
    omega
  cases executed :
      SourceWriters.updateQuery plus source draw.now draw.sample with
  | none =>
      simp only [SourceWriters.serve, executed] at served
      cases served
      rw [SourceWriters.updateQuery, Option.map_eq_none_iff,
        updateWhere_eq_none] at executed
      obtain ⟨row, member, sampled, noChange⟩ := executed
      exact .refused member (of_decide_eq_true sampled) noChange
  | some result =>
      obtain ⟨rows, updated, rfl⟩ := Option.map_eq_some_iff.mp executed
      have updatedRows := updateWhere_spec updated
      simp only [decide_eq_true_eq] at updatedRows
      simp only [SourceWriters.serve, executed,
        samples.length_filter sound.unique] at served
      cases served
      exact .executed rfl updatedRows

/-- A burst that samples a pill is refused. -/
theorem BurstSpec.of_pill
    (refuses : Refuses plus)
    {draw : Draw}
    {count : Int}
    {call : Call}
    (spec : BurstSpec plus source draw count after call)
    {pill : SourceRow}
    (member : pill ∈ source.rows)
    (isPill : IsPill pill)
    (sampled : pill.id ∈ draw.sample) :
    after = source ∧ call = .rejected := by
  cases spec with
  | executed _ rows =>
      obtain ⟨next, -, changed⟩ := exists_partner rows member
      rw [if_pos sampled, mutated_of_isPill refuses isPill] at changed
      cases changed
  | refused => exact ⟨rfl, rfl⟩

/--
In every run of the writers the table stays sound and changes as the runs of the
runners expect it; a poison pill that is in it at any time stays as it is.  On a
table that is not empty a burst is all or nothing, and so every burst over a
sample with a pill is rejected and changes nothing, and so is every one that
asks for as many rows as a table with a pill has.
-/
theorem pills_stop_bursts
    (refuses : Refuses plus)
    {initial reached : World}
    (sound : Sound initial.shared)
    {events : List Event}
    (run :
      Run (machine plus).step (fun _ _ => True) initial events reached) :
    let source := reached.shared
    Sound source ∧
      (∃ changes, Changes initial.shared.rows changes source.rows) ∧
      (∀ pill ∈ initial.shared.rows, IsPill pill → pill ∈ source.rows) ∧
      ∀ count draw after call,
        Samples source.rows (targetCount count) draw.sample →
        source.rows ≠ [] →
        serve plus source draw (.generateSourceMutations count) =
          some (after, call) →
        BurstSpec plus source draw count after call ∧
          ∀ pill ∈ initial.shared.rows, IsPill pill →
            pill.id ∈ draw.sample ∨
              source.rows.length ≤ targetCount count →
            after = source ∧ call = .rejected := by
  have advanced : Advances initial.shared reached.shared :=
    run.invariant (fun world => Advances initial.shared world.shared)
      (fun before _ taken => before.trans (before.sound.step refuses taken))
      (.refl sound)
  refine ⟨advanced.sound, advanced.changes, advanced.pills, ?_⟩
  intro count draw after call samples nonempty served
  have spec := advanced.sound.burstSpec samples nonempty served
  refine ⟨spec, fun pill member isPill reachesPill => ?_⟩
  have still := advanced.pills pill member isPill
  have sampled : pill.id ∈ draw.sample := by
    rcases reachesPill with inSample | large
    · exact inSample
    · exact samples.all large still
  exact spec.of_pill refuses still isPill sampled

end Writers

end Changes

/-- The sum 15.75 has no trailing zero. -/
theorem sampleSum_canonical : 2 = 0 ∨ (1575 : Int) % 10 ≠ 0 :=
  .inr (by decide)

/-- The cast and the sum for a payload without a balance. -/
def samplePlus (text : Text) : Option Json :=
  if text = ['0'] then some (.num ⟨1575, 2, sampleSum_canonical⟩) else none

/-- A record without a balance. -/
def sampleRecord : NewRow where
  uuid := "u1"
  tenantId := "tenant_alpha"
  payload := .obj []
  isCorrupted := false

/-- A poison pill. -/
def samplePill : NewRow where
  uuid := "u2"
  tenantId := "tenant_chaos"
  payload := corruptedPayload 0
  isCorrupted := true

/-- The writers over that record and the poison pill. -/
def sampleWriters : World where
  context := ()
  shared := (Source.insert ⟨[], 1⟩ 0 sampleRecord).insert 0 samplePill
  tasks := []

/-- A draw at that instant. -/
def sampleDraw (now : Int) (sample : List Nat) : Draw where
  now
  uuids := fun _ => ""
  sample
  clock := now

/--
A burst and the harness call interleave: the burst samples the record, and the
harness raises it again; a second burst loses its connection.
-/
def sampleEvents : List Event :=
  [.env (.generateSourceMutations 1), .env (.mutateSourceRecords 200),
    .env (.generateSourceMutations 1),
    .act 1 (.serve (sampleDraw 5000 [])),
    .act 0 (.serve (sampleDraw 9000 [1])),
    .act 2 (.reject 0)]

/-- They are over a sound table. -/
theorem sampleWriters_sound : Sound sampleWriters.shared := by
  have empty : Sound ⟨[], 1⟩ :=
    ⟨.nil, Nat.one_pos, List.forall_mem_nil _, List.forall_mem_nil _⟩
  exact ((empty.insert 0 sampleRecord).sound.insert 0 samplePill).sound

/-- Afterwards a burst over the whole table is rejected. -/
theorem pills_stop_bursts_wholeTable :
    ∃ reached,
      Run (machine samplePlus).step (fun _ _ => True) sampleWriters
        sampleEvents reached ∧
      reached.shared.rows.map SourceRow.version = [3, 1] ∧
      ∀ after call,
        serve samplePlus reached.shared (sampleDraw 9000 [1, 2])
            (.generateSourceMutations 2) = some (after, call) →
          after = reached.shared ∧ call = .rejected := by
  have refuses : Refuses samplePlus := ⟨rfl, rfl⟩
  obtain ⟨reached, run, ids, versions⟩ :
      ∃ reached,
        Run (machine samplePlus).step (fun _ _ => True) sampleWriters
          sampleEvents reached ∧
        reached.shared.rows.map SourceRow.id = [1, 2] ∧
        reached.shared.rows.map SourceRow.version = [3, 1] :=
    Run.exists_of_replay
      (fun (reached : World) =>
        reached.shared.rows.map SourceRow.id = [1, 2] ∧
          reached.shared.rows.map SourceRow.version = [3, 1])
      (by decide +kernel)
  refine ⟨reached, run, versions, fun after call served => ?_⟩
  obtain ⟨-, -, -, bursts⟩ :=
    pills_stop_bursts refuses sampleWriters_sound run
  have length : reached.shared.rows.length = 2 := by
    simpa using congrArg List.length ids
  have nonempty : reached.shared.rows ≠ [] :=
    List.ne_nil_of_length_pos (by omega)
  have samples :
      Samples reached.shared.rows (targetCount 2)
        (sampleDraw 9000 [1, 2]).sample :=
    ⟨by decide, ids ▸ List.Subset.refl _, by rw [length]; rfl⟩
  obtain ⟨-, stops⟩ := bursts _ _ _ _ samples nonempty served
  exact stops
    (Source.newRow (Source.insert ⟨[], 1⟩ 0 sampleRecord) 0 samplePill)
    (List.mem_append_right _ (List.mem_singleton_self _))
    ⟨rfl, .inl rfl⟩ (.inl (by decide))

end Replication.SourceWriters
