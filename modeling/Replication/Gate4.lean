import Replication.EventConsumer
import Replication.Harness
import Replication.WaitForQuiescence
import Mathlib

namespace Replication.Gate4

open PollingLoop

/-!
# The partial batch gate

`runGate4` inserts a batch with a few poison pills and polls the index and the
dead letter queue until as many records as expected have landed in each, or until
its time is up.  It then passes a written count of 497 and three quarantined
records, all rows with what a retry needs.  The gate counts documents and never
looks at them: what its verdict means is said for an index to which nothing else
is written meanwhile.
-/

/-- A row of `getDLQEntriesForRecords`. -/
structure DlqRow where
  recordId : Option Text
  id : Text
  payload : Json
  errorCode : Json
  errorMessage : Json
  status : Json

/-- `r.record_id || r.id`. -/
def DlqRow.key (row : DlqRow) : Text :=
  (row.recordId.filter (· ≠ [])).getD row.id

/-- `uniqueDlqRecords`. -/
def uniqueDlqRecords (rows : List DlqRow) : Nat :=
  (rows.map DlqRow.key).dedup.length

/-- `payloadObj`; a text that is no JSON is kept. -/
def DlqRow.payloadObj
    (parse : String → Option Json)
    (row : DlqRow) : Json :=
  match row.payload with
  | .str text => (parse text).getD (.str text)
  | payload => payload

/-- `hasPayload`. -/
def hasPayload : Json → Bool
  | .null => false
  | .arr items => !items.isEmpty
  | .obj fields => !fields.isEmpty
  | _ => true

/-- A text that is not empty. -/
def nonEmptyText : Json → Bool
  | .str text => text ≠ ""
  | _ => false

/-- The row has what a retry needs. -/
def DlqRow.sufficient
    (parse : String → Option Json)
    (row : DlqRow) : Bool :=
  hasPayload (row.payloadObj parse) && nonEmptyText row.errorCode &&
    nonEmptyText row.errorMessage &&
      match row.status with
      | .str status => status = "PENDING"
      | _ => false

/-- What the gate returns. -/
structure Result where
  passed : Bool
  writtenCount : Int
  dlqCount : Nat
  batchRolledBack : Bool
  contextSufficient : Bool
  details : Text
  output : Text
  /-- Left out of the result of a failure. -/
  quiesced : Option Bool
  deriving DecidableEq, Repr

/-- The name of the gate in its report. -/
def gateName : Text :=
  "G4 partial batch failure".toList

/-- The reasons for failing. -/
def reasons
    (writtenCount : Int)
    (dlqCount : Nat)
    (batchRolledBack contextSufficient : Bool) : List Text :=
  (if batchRolledBack || writtenCount = 0 then
      ["batch was rolled back (".toList ++ JsNumber.intText writtenCount ++
        " written)".toList]
    else if writtenCount = 497 then
      []
    else
      [JsNumber.intText writtenCount ++ " written (expected 497)".toList]) ++
    (if dlqCount = 3 then
      []
    else
      [JsNumber.natText dlqCount ++ " in DLQ (expected 3)".toList]) ++
    if contextSufficient then [] else ["insufficient DLQ retry context".toList]

/-- `evaluateGate4PartialFailure`; `runGate4` adds whether it was quiescent. -/
def evaluateGate4PartialFailure
    (writtenCount : Int)
    (dlqCount : Nat)
    (batchRolledBack contextSufficient quiesced : Bool) : Result :=
  let notRolledBack := !batchRolledBack && 0 < writtenCount
  let passed :=
    notRolledBack && writtenCount = 497 && dlqCount = 3 && contextSufficient
  let details :=
    if passed then
      JsNumber.intText writtenCount ++ " written, ".toList ++
        JsNumber.natText dlqCount ++ " in DLQ".toList
    else
      List.intercalate ", ".toList
        (reasons writtenCount dlqCount batchRolledBack contextSufficient)
  { passed
    writtenCount
    dlqCount
    batchRolledBack
    contextSufficient
    details
    output :=
      formatGateResult gateName
        (if passed then "PASS".toList else "FAIL".toList) details
    quiesced := some quiesced }

/-- What is returned for an exception with that message. -/
def failed (message : Text) : Result where
  passed := false
  writtenCount := 0
  dlqCount := 0
  batchRolledBack := true
  contextSufficient := false
  details := message
  output := formatGateResult gateName "FAIL".toList message
  quiesced := none

/-- The options that are given. -/
structure Options where
  batchTotal : Option Nat := none
  corruptedCount : Option Nat := none
  maxWaitMs : Rat := 30000
  quiesceTimeoutMs : Rat := 30000

namespace Options

variable (options : Options)

/-- `options.batchTotal || 500`. -/
def total : Nat :=
  (options.batchTotal.filter (· ≠ 0)).getD 500

/-- `options.corruptedCount || 3`. -/
def corrupted : Nat :=
  (options.corruptedCount.filter (· ≠ 0)).getD 3

/-- `expectedWritten`. -/
def expectedWritten : Int :=
  options.total - options.corrupted

/-- What `waitForPipelineQuiescence` is called with. -/
def quiescence : WaitForQuiescence.Options where
  timeoutMs := some options.quiesceTimeoutMs
  hasOnProgress := true

end Options

/-- What `seedGate4Batch` returns. -/
structure Seeded where
  insertedIds : List Nat
  corruptedIds : List Nat

/--
What the injected functions answer, or the message of a rejection that is not
caught.  A count that is rejected or null is `none`, and so are entries that are
rejected; no entries and null come to the same.
-/
structure Answers where
  telemetry : Nat → WaitForQuiescence.Answer
  quiesceStart : Rat
  cleared : Except Text Unit
  initialCount : Except Text (Option Int)
  seeded : Except Text Seeded
  startWait : Rat
  /-- Read by the loop condition. -/
  clock : Nat → Rat
  count : Nat → Option Int
  entries : Nat → Option (List DlqRow)
  finalCount : Option Int
  finalEntries : Option (List DlqRow)

/-- The message of the exception for a batch of another size. -/
def notSeeded (options : Options) (seeded : Seeded) : Text :=
  "Failed to seed exact test batch: expected ".toList ++
    JsNumber.natText options.total ++ " total (".toList ++
      JsNumber.natText options.corrupted ++ " poisoned), got ".toList ++
        JsNumber.natText seeded.insertedIds.length ++ " inserted (".toList ++
          JsNumber.natText seeded.corruptedIds.length ++ " poisoned)".toList

/-- The message of the exception for a batch of which nothing was written. -/
def rolledBack : Text :=
  "Total batch rollback detected: 0 records written out of 500 ".toList ++
    "due to poison pill errors.".toList

/-- The message of the exception for telemetry that cannot be printed. -/
def unprintable : Text :=
  "Cannot convert object to primitive value".toList

/-- The variables of the polling loop. -/
structure Polling where
  /-- The iterations so far. -/
  polls : Nat
  currentEsCount : Int
  dlqEntries : List DlqRow

section Gate

variable
  (options : Options)
  (parse : String → Option Json)
  (answers : Answers)
  (initialEsCount : Int)

/-- Enough has been written, and enough is quarantined. -/
def reached (polling : Polling) : Bool :=
  options.expectedWritten ≤ polling.currentEsCount - initialEsCount &&
    options.corrupted ≤ uniqueDlqRecords polling.dlqEntries

/-- One iteration. -/
def poll (polling : Polling) : Iteration Polling Polling :=
  if answers.clock polling.polls - answers.startWait < options.maxWaitMs then
    let next :=
      { polls := polling.polls + 1
        currentEsCount :=
          (answers.count polling.polls).getD polling.currentEsCount
        dlqEntries :=
          (answers.entries polling.polls).getD polling.dlqEntries }
    if reached options initialEsCount next then
      .returned next
    else
      .goesOn next
  else
    .returned polling

/-- The count after the last refresh. -/
def lastCount (polling : Polling) : Int :=
  answers.finalCount.getD polling.currentEsCount

/-- The entries after the loop, if there are any. -/
def dlqRows (polling : Polling) : List DlqRow :=
  (answers.finalEntries.filter (· ≠ [])).getD polling.dlqEntries

/-- The reconciliation after the loop. -/
def reconcile
    (quiesced : Bool)
    (polling : Polling) : Result :=
  let writtenCount := lastCount answers polling - initialEsCount
  if writtenCount = 0 then
    failed rolledBack
  else
    let dlqCount := uniqueDlqRecords (dlqRows answers polling)
    evaluateGate4PartialFailure writtenCount dlqCount false
      (dlqCount = options.corrupted &&
        (dlqRows answers polling).all (DlqRow.sufficient parse))
      quiesced

/-- `runGate4` after the wait, for so many iterations of its loop. -/
def inject
    (iterations : Nat)
    (quiesced : Bool) : Option Result :=
  match answers.cleared, answers.initialCount, answers.seeded with
  | .error message, _, _ => some (failed message)
  | _, .error message, _ => some (failed message)
  | _, _, .error message => some (failed message)
  | .ok _, .ok count, .ok seeded =>
      if seeded.insertedIds.length ≠ options.total ∨
          seeded.corruptedIds.length ≠ options.corrupted then
        some (failed (notSeeded options seeded))
      else
        (loop (poll options answers (count.getD 0)) iterations
          { polls := 0
            currentEsCount := count.getD 0
            dlqEntries := [] }).map
          (reconcile options parse answers (count.getD 0) quiesced)

/--
`runGate4`, for so many iterations of each of its two loops; nothing if it is
still running then.
-/
def runGate4 (iterations : Nat) : Option Result :=
  (WaitForQuiescence.waitForPipelineQuiescence options.quiescence
    answers.telemetry answers.quiesceStart iterations).bind fun outcome =>
      match outcome.result with
      | none => some (failed unprintable)
      | some quiescence =>
          inject options parse answers iterations quiescence.quiesced

/-! ### The polling loop -/

/-- The count that has been answered last after so many polls. -/
def countAfter : Nat → Int
  | 0 => initialEsCount
  | polls + 1 => (answers.count polls).getD (countAfter polls)

/-- The entries that have been answered last after so many polls. -/
def entriesAfter : Nat → List DlqRow
  | 0 => []
  | polls + 1 => (answers.entries polls).getD (entriesAfter polls)

/-- The variables after so many polls. -/
def pollingAfter (polls : Nat) : Polling where
  polls := polls
  currentEsCount := countAfter answers initialEsCount polls
  dlqEntries := entriesAfter answers polls

/-- The poll is made before the deadline. -/
def InTime (index : Nat) : Prop :=
  answers.clock index - answers.startWait < options.maxWaitMs

/-- The loop is left after that many polls. -/
structure Stops (stop : Nat) : Prop where
  pending :
    ∀ earlier, 0 < earlier → earlier < stop →
      reached options initialEsCount
        (pollingAfter answers initialEsCount earlier) = false
  ended :
    reached options initialEsCount
        (pollingAfter answers initialEsCount stop) = true ∨
      ¬ InTime options answers stop

/-- The variables of an iteration. -/
structure Polled
    (index : Nat)
    (polling : Polling) : Prop where
  isAfter : polling = pollingAfter answers initialEsCount index
  pending :
    ∀ earlier, 0 < earlier → earlier ≤ index →
      reached options initialEsCount
        (pollingAfter answers initialEsCount earlier) = false

end Gate

section Loop

variable
  {options : Options}
  {parse : String → Option Json}
  {answers : Answers}
  {initialEsCount : Int}

/-- One iteration from the variables after so many polls. -/
theorem poll_pollingAfter (index : Nat) :
    poll options answers initialEsCount
        (pollingAfter answers initialEsCount index) =
      if answers.clock index - answers.startWait < options.maxWaitMs then
        if reached options initialEsCount
            (pollingAfter answers initialEsCount (index + 1)) then
          .returned (pollingAfter answers initialEsCount (index + 1))
        else
          .goesOn (pollingAfter answers initialEsCount (index + 1))
      else
        .returned (pollingAfter answers initialEsCount index) := rfl

/-- An iteration leaves the loop, or goes on. -/
theorem poll_iterates
    {bound index : Nat}
    {polling : Polling}
    (expires : ∀ index, InTime options answers index → index < bound)
    (polled : Polled options answers initialEsCount index polling) :
    Iterates (Polled options answers initialEsCount)
      (fun _ result =>
        ∃ stop,
          result = pollingAfter answers initialEsCount stop ∧
            Stops options answers initialEsCount stop)
      bound index (poll options answers initialEsCount polling) := by
  obtain ⟨rfl, pending⟩ := polled
  rw [poll_pollingAfter]
  split
  · rename_i inTime
    split
    · rename_i enough
      refine .returned ⟨index + 1, rfl, ⟨?_, .inl enough⟩⟩
      exact fun earlier positive before =>
        pending earlier positive (Nat.le_of_lt_succ before)
    · rename_i notEnough
      refine .goesOn (expires index inTime) ⟨rfl, ?_⟩
      intro earlier positive upTo
      rcases Nat.le_succ_iff.mp upTo with before | rfl
      · exact pending earlier positive before
      · exact Bool.eq_false_iff.mpr notEnough
  · rename_i late
    refine .returned ⟨index, rfl, ⟨?_, .inr late⟩⟩
    exact fun earlier positive before => pending earlier positive before.le

/-- If every iteration takes some time, the loop is left. -/
theorem exists_stops
    (options : Options)
    (answers : Answers)
    (initialEsCount : Int)
    {interval : Rat}
    (positive : 0 < interval)
    (sleeps :
      ∀ index : Nat, answers.startWait + index * interval ≤ answers.clock index) :
    ∃ iteration stop,
      Stops options answers initialEsCount stop ∧
        ReturnsAt (poll options answers initialEsCount)
          { polls := 0, currentEsCount := initialEsCount, dlqEntries := [] }
          iteration (pollingAfter answers initialEsCount stop) := by
  have expires :
      ∀ index, InTime options answers index →
        index < ⌈options.maxWaitMs / interval⌉₊ := by
    intro index inTime
    have slept := sleeps index
    apply Nat.lt_ceil.mpr
    rw [lt_div_iff₀ positive]
    unfold InTime at inTime
    linarith
  have start :
      Polled options answers initialEsCount 0
        ⟨0, initialEsCount, []⟩ :=
    ⟨rfl, fun _ positive atMost =>
      absurd positive (Nat.not_lt.mpr atMost)⟩
  obtain ⟨iteration, _, _, returns, stop, rfl, stops⟩ :=
    exists_returnsAt (poll_iterates expires) start (Nat.zero_le _)
  exact ⟨iteration, stop, stops, returns⟩

end Loop

/-! ### What the verdict means -/

/-- What is indexed, and the rows that are quarantined for the poison pills. -/
structure Stores where
  indexed : Finset Nat
  quarantined : List DlqRow

/-- The records of the batch that are no poison pills. -/
def Seeded.valid (seeded : Seeded) : Finset Nat :=
  seeded.insertedIds.toFinset \ seeded.corruptedIds.toFinset

/-- The batch is inserted, with ids of its own. -/
structure Seeds
    (options : Options)
    (answers : Answers)
    (before : Finset Nat)
    (seeded : Seeded) : Prop where
  total : options.total = 500
  corrupted : options.corrupted = 3
  cleared : answers.cleared = .ok ()
  initialCount : answers.initialCount = .ok (some (before.card : Int))
  fulfilled : answers.seeded = .ok seeded
  inserted : seeded.insertedIds.length = 500
  poisoned : seeded.corruptedIds.length = 3
  unique : seeded.insertedIds.Nodup
  uniquePoison : seeded.corruptedIds.Nodup
  among : seeded.corruptedIds ⊆ seeded.insertedIds
  fresh : Disjoint before seeded.valid

/--
What is answered about the index and the queue is what they hold by then, and
nothing but valid records of the batch is indexed while the gate is running.
-/
structure Watches
    (answers : Answers)
    (before : Finset Nat)
    (seeded : Seeded)
    (stores : Nat → Stores)
    (last : Stores) : Prop where
  count :
    ∀ poll count, answers.count poll = some count →
      count = (stores poll).indexed.card
  entries :
    ∀ poll rows, answers.entries poll = some rows →
      rows = (stores poll).quarantined
  finalCount :
    ∀ count, answers.finalCount = some count → count = last.indexed.card
  finalEntries :
    ∀ rows, answers.finalEntries = some rows → rows = last.quarantined
  kept : ∀ poll, before ⊆ (stores poll).indexed
  grows : ∀ poll, (stores poll).indexed ⊆ last.indexed
  alone : last.indexed ⊆ before ∪ seeded.valid
  stays : ∀ poll, (stores poll).quarantined ⊆ last.quarantined
  asked :
    ∀ row ∈ last.quarantined,
      ∃ id ∈ seeded.corruptedIds, row.recordId = some (JsNumber.natText id)

/-- Distinct names among those that are asked for are not more, or they are all. -/
theorem length_le_dedup_iff
    {Name : Type}
    [DecidableEq Name]
    {keys names : List Name}
    (unique : names.Nodup)
    (among : keys ⊆ names) :
    keys.dedup.length ≤ names.length ∧
      (names.length ≤ keys.dedup.length ↔ names ⊆ keys) := by
  have contained : keys.dedup.Subperm names :=
    (List.nodup_dedup keys).subperm fun _ member =>
      among (List.mem_dedup.mp member)
  refine ⟨contained.length_le, fun enough => ?_, fun all => ?_⟩
  · intro name member
    exact List.mem_dedup.mp
      ((contained.perm_of_length_le enough).mem_iff.mpr member)
  · exact (unique.subperm fun _ member =>
      List.mem_dedup.mpr (all member)).length_le

section Verdict

variable
  {options : Options}
  {parse : String → Option Json}
  {answers : Answers}
  {before : Finset Nat}
  {seeded : Seeded}
  {stores : Nat → Stores}
  {last : Stores}

/-- The key of a row that has a record id. -/
theorem DlqRow.key_of_recordId
    {row : DlqRow}
    {id : Nat}
    (isRecord : row.recordId = some (JsNumber.natText id)) :
    row.key = JsNumber.natText id := by
  have digits : JsNumber.natText id ≠ [] := Nat.toDigits_ne_nil
  simp [DlqRow.key, isRecord, Option.filter, digits]

/-- There are 497 valid records. -/
theorem Seeds.card_valid (seeds : Seeds options answers before seeded) :
    seeded.valid.card = 497 := by
  have among :
      seeded.corruptedIds.toFinset ⊆ seeded.insertedIds.toFinset :=
    fun _ member => List.mem_toFinset.mpr
      (seeds.among (List.mem_toFinset.mp member))
  rw [Seeded.valid, Finset.card_sdiff_of_subset among,
    List.toFinset_card_of_nodup seeds.unique,
    List.toFinset_card_of_nodup seeds.uniquePoison, seeds.inserted,
    seeds.poisoned]

/-- An index holds 497 more than before exactly if it holds all valid records. -/
theorem Seeds.card_indexed
    (seeds : Seeds options answers before seeded)
    {indexed : Finset Nat}
    (kept : before ⊆ indexed)
    (alone : indexed ⊆ before ∪ seeded.valid) :
    indexed.card ≤ before.card + 497 ∧
      (before.card + 497 ≤ indexed.card ↔ seeded.valid ⊆ indexed) := by
  have whole : (before ∪ seeded.valid).card = before.card + 497 := by
    rw [Finset.card_union_of_disjoint seeds.fresh, seeds.card_valid]
  refine ⟨whole ▸ Finset.card_le_card alone, fun enough => ?_, fun all => ?_⟩
  · rw [Finset.eq_of_subset_of_card_le alone (whole ▸ enough)]
    exact Finset.subset_union_right
  · rw [← whole]
    exact Finset.card_le_card (Finset.union_subset kept all)

/-- The last count is that of an index on the way. -/
theorem Watches.countAfter_eq
    (watches : Watches answers before seeded stores last)
    (polls : Nat) :
    ∃ indexed : Finset Nat,
      countAfter answers before.card polls = indexed.card ∧
        before ⊆ indexed ∧ indexed ⊆ last.indexed := by
  induction polls with
  | zero =>
      exact ⟨before, rfl, subset_rfl,
        (watches.kept 0).trans (watches.grows 0)⟩
  | succ polls inductionHypothesis =>
      cases answered : answers.count polls with
      | none =>
          simpa only [countAfter, answered, Option.getD_none]
            using inductionHypothesis
      | some count =>
          refine ⟨(stores polls).indexed, ?_, watches.kept polls,
            watches.grows polls⟩
          simp only [countAfter, answered, Option.getD_some]
          exact watches.count polls count answered

/-- The last entries are in the queue at the end. -/
theorem Watches.entriesAfter_subset
    (watches : Watches answers before seeded stores last)
    (polls : Nat) :
    entriesAfter answers polls ⊆ last.quarantined := by
  induction polls with
  | zero => exact List.nil_subset _
  | succ polls inductionHypothesis =>
      cases answered : answers.entries polls with
      | none =>
          simpa only [entriesAfter, answered, Option.getD_none]
            using inductionHypothesis
      | some rows =>
          simp only [entriesAfter, answered, Option.getD_some]
          rw [watches.entries polls rows answered]
          exact watches.stays polls

/-- Every poison pill has a row among these. -/
def Quarantines (seeded : Seeded) (rows : List DlqRow) : Prop :=
  ∀ id ∈ seeded.corruptedIds,
    ∃ row ∈ rows, row.recordId = some (JsNumber.natText id)

/-- And so it has among more rows. -/
theorem Quarantines.mono
    {rows more : List DlqRow}
    (quarantines : Quarantines seeded rows)
    (subset : rows ⊆ more) : Quarantines seeded more := by
  intro id isPoison
  obtain ⟨row, isRow, isRecord⟩ := quarantines id isPoison
  exact ⟨row, subset isRow, isRecord⟩

/-- Three records are quarantined exactly if all poison pills are. -/
theorem Watches.uniqueDlqRecords_iff
    (watches : Watches answers before seeded stores last)
    (seeds : Seeds options answers before seeded)
    {rows : List DlqRow}
    (among : rows ⊆ last.quarantined) :
    uniqueDlqRecords rows ≤ 3 ∧
      (3 ≤ uniqueDlqRecords rows ↔ Quarantines seeded rows) := by
  have keys :
      rows.map DlqRow.key ⊆ seeded.corruptedIds.map JsNumber.natText := by
    intro key member
    obtain ⟨row, isRow, rfl⟩ := List.mem_map.mp member
    obtain ⟨id, isPoison, isRecord⟩ := watches.asked row (among isRow)
    rw [DlqRow.key_of_recordId isRecord]
    exact List.mem_map_of_mem isPoison
  have unique : (seeded.corruptedIds.map JsNumber.natText).Nodup :=
    seeds.uniquePoison.map natText_injective
  obtain ⟨atMost, iff⟩ := length_le_dedup_iff unique keys
  rw [List.length_map, seeds.poisoned] at atMost iff
  refine ⟨atMost, iff.trans ⟨fun all id isPoison => ?_, fun all => ?_⟩⟩
  · obtain ⟨row, isRow, sameKey⟩ :=
      List.mem_map.mp (all (List.mem_map_of_mem isPoison))
    obtain ⟨other, _, isRecord⟩ := watches.asked row (among isRow)
    rw [DlqRow.key_of_recordId isRecord] at sameKey
    exact ⟨row, isRow, natText_injective sameKey ▸ isRecord⟩
  · intro key member
    obtain ⟨id, isPoison, rfl⟩ := List.mem_map.mp member
    obtain ⟨row, isRow, isRecord⟩ := all id isPoison
    exact List.mem_map.mpr ⟨row, isRow, DlqRow.key_of_recordId isRecord⟩

/-- The gate passes 497 written and three quarantined with their context. -/
theorem reconcile_passed_iff
    {initialEsCount : Int}
    {quiesced : Bool}
    {polling : Polling}
    (corrupted : options.corrupted = 3) :
    (reconcile options parse answers initialEsCount quiesced
        polling).passed = true ↔
      lastCount answers polling - initialEsCount = 497 ∧
        uniqueDlqRecords (dlqRows answers polling) = 3 ∧
        ∀ row ∈ dlqRows answers polling, row.sufficient parse = true := by
  unfold reconcile
  dsimp only
  by_cases nothing : lastCount answers polling - initialEsCount = 0
  · rw [if_pos nothing, nothing]
    exact iff_of_false Bool.false_ne_true fun passed => absurd passed.1 (by decide)
  · rw [if_neg nothing]
    simp only [evaluateGate4PartialFailure, corrupted, Bool.and_eq_true,
      decide_eq_true_eq, List.all_eq_true, Bool.not_false, true_and]
    constructor
    · rintro ⟨⟨⟨-, written⟩, quarantined⟩, -, sufficient⟩
      exact ⟨written, quarantined, sufficient⟩
    · rintro ⟨written, quarantined, sufficient⟩
      exact ⟨⟨⟨written ▸ by decide, written⟩, quarantined⟩, quarantined,
        sufficient⟩

/-- The valid records are indexed, the poison pills quarantined for a retry. -/
structure Isolates
    (parse : String → Option Json)
    (seeded : Seeded)
    (last : Stores) : Prop where
  indexed : seeded.valid ⊆ last.indexed
  quarantined :
    ∀ id ∈ seeded.corruptedIds,
      ∃ row ∈ last.quarantined,
        row.recordId = some (JsNumber.natText id) ∧
          row.sufficient parse = true

/-- A poll in time finds the whole batch, and both of its queries are answered. -/
structure Delivers
    (options : Options)
    (answers : Answers)
    (seeded : Seeded)
    (stores : Nat → Stores)
    (poll : Nat) : Prop where
  inTime : ∀ earlier, earlier ≤ poll → InTime options answers earlier
  counted : (answers.count poll).isSome = true
  listed : (answers.entries poll).isSome = true
  indexed : seeded.valid ⊆ (stores poll).indexed
  quarantined : Quarantines seeded (stores poll).quarantined

/-- The rows that are judged are at least those of the loop, and at most the last. -/
theorem Watches.dlqRows_between
    (watches : Watches answers before seeded stores last)
    (stop : Nat) :
    entriesAfter answers stop ⊆
        dlqRows answers (pollingAfter answers before.card stop) ∧
      dlqRows answers (pollingAfter answers before.card stop) ⊆
        last.quarantined := by
  have subset := watches.entriesAfter_subset stop
  unfold dlqRows
  cases listed : answers.finalEntries.filter (· ≠ []) with
  | none => exact ⟨List.Subset.refl _, subset⟩
  | some rows =>
      obtain ⟨answered, -⟩ := Option.filter_eq_some_iff.mp listed
      rw [Option.getD_some, watches.finalEntries rows answered]
      exact ⟨subset, List.Subset.refl _⟩

/--
The count that is judged is that of an index on the way, or of the last, and it
is not below the count of the loop.
-/
theorem Watches.lastCount_eq
    (watches : Watches answers before seeded stores last)
    (stop : Nat) :
    ∃ indexed : Finset Nat,
      lastCount answers (pollingAfter answers before.card stop) =
          indexed.card ∧
        countAfter answers before.card stop ≤ indexed.card ∧
        before ⊆ indexed ∧ indexed ⊆ last.indexed := by
  obtain ⟨indexed, isCard, kept, grown⟩ := watches.countAfter_eq stop
  cases answered : answers.finalCount with
  | none =>
      refine ⟨indexed, ?_, isCard.le, kept, grown⟩
      simp only [lastCount, answered, Option.getD_none]
      exact isCard
  | some count =>
      refine ⟨last.indexed, ?_, ?_, kept.trans grown, subset_rfl⟩
      · simp only [lastCount, answered, Option.getD_some]
        exact watches.finalCount count answered
      · rw [isCard]
        exact_mod_cast Finset.card_le_card grown

/-- Enough is reached exactly if the batch has been seen to be isolated. -/
theorem Watches.reached_iff
    (watches : Watches answers before seeded stores last)
    (seeds : Seeds options answers before seeded)
    (polls : Nat) :
    reached options before.card (pollingAfter answers before.card polls) =
        true ↔
      (before.card : Int) + 497 ≤ countAfter answers before.card polls ∧
        Quarantines seeded (entriesAfter answers polls) := by
  obtain ⟨-, iff⟩ :=
    watches.uniqueDlqRecords_iff seeds (watches.entriesAfter_subset polls)
  rw [← iff]
  simp only [reached, Options.expectedWritten, seeds.total, seeds.corrupted,
    pollingAfter, Bool.and_eq_true, decide_eq_true_eq]
  exact and_congr_left' ⟨fun enough => by omega, fun enough => by omega⟩

/-- A poll that finds the whole batch ends the loop, if it was not left before. -/
theorem Delivers.enough_reached
    (watches : Watches answers before seeded stores last)
    (seeds : Seeds options answers before seeded)
    {poll stop : Nat}
    (delivers : Delivers options answers seeded stores poll)
    (stops : Stops options answers before.card stop) :
    reached options before.card (pollingAfter answers before.card stop) =
      true := by
  obtain ⟨count, counted⟩ := Option.isSome_iff_exists.mp delivers.counted
  obtain ⟨rows, listed⟩ := Option.isSome_iff_exists.mp delivers.listed
  have enough :
      reached options before.card
        (pollingAfter answers before.card (poll + 1)) = true := by
    refine (watches.reached_iff seeds (poll + 1)).mpr ⟨?_, ?_⟩
    · have all :=
        (seeds.card_indexed (watches.kept poll)
          ((watches.grows poll).trans watches.alone)).2.mpr delivers.indexed
      simp only [countAfter, counted, Option.getD_some]
      rw [watches.count poll count counted]
      exact_mod_cast all
    · simp only [entriesAfter, listed, Option.getD_some]
      rw [watches.entries poll rows listed]
      exact delivers.quarantined
  rcases Nat.lt_or_ge (poll + 1) stop with after | upTo
  · have notEnough := stops.pending (poll + 1) (Nat.succ_pos poll) after
    rw [enough] at notEnough
    cases notEnough
  · rcases stops.ended with isEnough | late
    · exact isEnough
    · rcases Nat.le_succ_iff.mp upTo with inTime | rfl
      · exact absurd (delivers.inTime stop inTime) late
      · exact enough

/-- What passes has been isolated, although the gate has only counted. -/
theorem Watches.isolates_of_passed
    (watches : Watches answers before seeded stores last)
    (seeds : Seeds options answers before seeded)
    {stop : Nat}
    {quiesced : Bool}
    (passed :
      (reconcile options parse answers before.card quiesced
        (pollingAfter answers before.card stop)).passed = true) :
    Isolates parse seeded last := by
  obtain ⟨written, quarantined, sufficient⟩ :=
    (reconcile_passed_iff seeds.corrupted).mp passed
  obtain ⟨indexed, isCard, -, kept, grown⟩ := watches.lastCount_eq stop
  obtain ⟨-, subset⟩ := watches.dlqRows_between stop
  obtain ⟨-, allIndexed⟩ :=
    seeds.card_indexed kept (grown.trans watches.alone)
  obtain ⟨-, allQuarantined⟩ := watches.uniqueDlqRecords_iff seeds subset
  rw [isCard] at written
  refine ⟨(allIndexed.mp (by omega)).trans grown, fun id isPoison => ?_⟩
  obtain ⟨row, isRow, isRecord⟩ :=
    allQuarantined.mp quarantined.ge id isPoison
  exact ⟨row, subset isRow, isRecord, sufficient row isRow⟩

/-- What is delivered in time passes. -/
theorem Watches.passed_of_delivers
    (watches : Watches answers before seeded stores last)
    (seeds : Seeds options answers before seeded)
    {poll stop : Nat}
    (delivers : Delivers options answers seeded stores poll)
    (stops : Stops options answers before.card stop)
    (sufficient : ∀ row ∈ last.quarantined, row.sufficient parse = true)
    (quiesced : Bool) :
    (reconcile options parse answers before.card quiesced
      (pollingAfter answers before.card stop)).passed = true := by
  obtain ⟨landed, all⟩ :=
    (watches.reached_iff seeds stop).mp
      (delivers.enough_reached watches seeds stops)
  obtain ⟨indexed, isCard, notLess, kept, grown⟩ := watches.lastCount_eq stop
  obtain ⟨superset, subset⟩ := watches.dlqRows_between stop
  obtain ⟨atMost, -⟩ := seeds.card_indexed kept (grown.trans watches.alone)
  obtain ⟨atMostThree, allQuarantined⟩ :=
    watches.uniqueDlqRecords_iff seeds subset
  have three := allQuarantined.mpr (all.mono superset)
  refine (reconcile_passed_iff seeds.corrupted).mpr
    ⟨?_, le_antisymm atMostThree three, fun row isRow => ?_⟩
  · rw [isCard]
    omega
  · exact sufficient row (subset isRow)

/--
The gate ends: with a failure if its wait has thrown, else with the verdict on
what the loop has left.
-/
theorem Seeds.exists_runGate4
    (parse : String → Option Json)
    (seeds : Seeds options answers before seeded)
    {interval : Rat}
    (positive : 0 < interval)
    (sleeps :
      ∀ index : Nat,
        answers.startWait + index * interval ≤ answers.clock index) :
    ∃ enough waited result,
      (∀ iterations, enough ≤ iterations →
        WaitForQuiescence.waitForPipelineQuiescence options.quiescence
              answers.telemetry answers.quiesceStart iterations =
            some waited ∧
          runGate4 options parse answers iterations = some result) ∧
        ((waited.result = none ∧ result = failed unprintable ∧
            ∃ index,
              ¬ WaitForQuiescence.Prints (answers.telemetry index).telemetry) ∨
          ∃ stop quiesced,
            waited.result ≠ none ∧ Stops options answers before.card stop ∧
              result =
                reconcile options parse answers before.card quiesced
                  (pollingAfter answers before.card stop)) := by
  have pauses : (0 : Rat) < options.quiescence.pollInterval := by
    have isDefault : options.quiescence.pollInterval = 500 := rfl
    rw [isDefault]
    norm_num
  obtain ⟨polls, outcome, -, waits, ends⟩ :=
    WaitForQuiescence.exists_endsAt options.quiescence answers.telemetry
      answers.quiesceStart pauses
  obtain ⟨iteration, stop, stops, returns⟩ :=
    exists_stops options answers before.card positive sleeps
  have waited :
      ∀ iterations, max polls iteration + 1 ≤ iterations →
        WaitForQuiescence.waitForPipelineQuiescence options.quiescence
          answers.telemetry answers.quiesceStart iterations =
            some outcome := by
    intro iterations enough
    exact (waits iterations).trans (if_pos (by omega))
  have injected :
      ∀ iterations, max polls iteration + 1 ≤ iterations → ∀ quiesced,
        inject options parse answers iterations quiesced =
          some
            (reconcile options parse answers before.card quiesced
              (pollingAfter answers before.card stop)) := by
    intro iterations enough quiesced
    have looped := (returns iterations).trans (if_pos (by omega))
    simp only [inject, seeds.cleared, seeds.initialCount, seeds.fulfilled,
      seeds.inserted, seeds.poisoned, seeds.total, seeds.corrupted,
      Option.getD_some, ne_eq, not_true, or_self, if_false]
    rw [looped, Option.map_some]
  cases isResult : outcome.result with
  | none =>
      refine ⟨max polls iteration + 1, outcome, failed unprintable,
        fun iterations enough => ⟨waited iterations enough, ?_⟩,
        .inl ⟨isResult, rfl, polls, fun prints => ?_⟩⟩
      · rw [runGate4, waited iterations enough, Option.bind_some, isResult]
      · have returned := ends.verdict.isSome prints
        rw [isResult] at returned
        cases returned
  | some quiescence =>
      refine ⟨max polls iteration + 1, outcome, _,
        fun iterations enough => ⟨waited iterations enough, ?_⟩,
        .inr ⟨stop, quiescence.quiesced,
          isResult.symm ▸ Option.some_ne_none quiescence, stops, rfl⟩⟩
      rw [runGate4, waited iterations enough, Option.bind_some, isResult]
      exact injected iterations enough quiescence.quiesced

end Verdict

/-- The first 500 rows of a table, the last three of them poison pills. -/
def sampleSeeded : Seeded where
  insertedIds := List.range' 1 500
  corruptedIds := [498, 499, 500]

/-- The dead letter of a poison pill. -/
def sampleRow (id : Nat) : DlqRow where
  recordId := some (JsNumber.natText id)
  id := JsNumber.natText (id - 497)
  payload := .obj [("is_poison_pill", .bool true)]
  errorCode := .str "mapper_parsing_exception"
  errorMessage := .str "failed to parse field [balance]"
  status := .str "PENDING"

/-- After half a second 200 records are there, and after a second all. -/
def sampleStores (poll : Nat) : Stores :=
  if poll = 0 then
    ⟨Finset.Icc 1 200, []⟩
  else
    ⟨Finset.Icc 1 497, [sampleRow 498, sampleRow 499, sampleRow 500]⟩

/-- The pipeline is quiescent, and the last two queries are rejected. -/
def sampleAnswers : Answers where
  telemetry _ :=
    .fulfilled
      (.obj
        [("backfill_status", .str "COMPLETED"),
          ("incremental_lag_records", .num (.ofInt 0))])
  quiesceStart := 0
  cleared := .ok ()
  initialCount := .ok (some 0)
  seeded := .ok sampleSeeded
  startWait := 0
  clock index := index * 500
  count poll := some (if poll = 0 then 200 else 497)
  entries poll := some (sampleStores poll).quarantined
  finalCount := none
  finalEntries := none

/-- The valid records of that batch. -/
theorem sampleSeeded_valid : sampleSeeded.valid = Finset.Icc 1 497 := by
  ext id
  simp only [Seeded.valid, sampleSeeded, Finset.mem_sdiff, List.mem_toFinset,
    List.mem_range'_1, List.mem_cons, List.not_mem_nil, or_false,
    Finset.mem_Icc]
  omega

/-- One of the poison pills of that batch. -/
theorem isPoison_iff {id : Nat} :
    id ∈ sampleSeeded.corruptedIds ↔ id = 498 ∨ id = 499 ∨ id = 500 := by
  simp [sampleSeeded]

/-- The rows of all of them. -/
theorem isRow_iff {row : DlqRow} :
    row ∈ (sampleStores 1).quarantined ↔
      row = sampleRow 498 ∨ row = sampleRow 499 ∨ row = sampleRow 500 := by
  simp [sampleStores]

/-- The batch is inserted into an empty index. -/
theorem sampleAnswers_seeds : Seeds {} sampleAnswers ∅ sampleSeeded where
  total := rfl
  corrupted := rfl
  cleared := rfl
  initialCount := rfl
  fulfilled := rfl
  inserted := List.length_range'
  poisoned := rfl
  unique := List.nodup_range'
  uniquePoison := by decide
  among := by
    intro id isPoison
    have poison := isPoison_iff.mp isPoison
    rw [sampleSeeded, List.mem_range'_1]
    omega
  fresh := Finset.disjoint_empty_left _

/-- The answers are those of the stores. -/
theorem sampleAnswers_watches :
    Watches sampleAnswers ∅ sampleSeeded sampleStores (sampleStores 1) where
  count := by
    rintro poll _ ⟨⟩
    unfold sampleStores
    split <;> simp
  entries _ _ listed := (Option.some.inj listed).symm
  finalCount _ none := absurd none.symm (Option.some_ne_none _)
  finalEntries _ none := absurd none.symm (Option.some_ne_none _)
  kept _ := Finset.empty_subset _
  grows poll := by
    unfold sampleStores
    split
    · exact Finset.Icc_subset_Icc_right (by decide)
    · exact Finset.Subset.refl _
  alone := by
    rw [sampleSeeded_valid]
    exact Finset.subset_union_right
  stays poll := by
    unfold sampleStores
    split
    · exact List.nil_subset _
    · exact List.Subset.refl _
  asked row isRow := by
    rcases isRow_iff.mp isRow with rfl | rfl | rfl
    · exact ⟨498, isPoison_iff.mpr (.inl rfl), rfl⟩
    · exact ⟨499, isPoison_iff.mpr (.inr (.inl rfl)), rfl⟩
    · exact ⟨500, isPoison_iff.mpr (.inr (.inr rfl)), rfl⟩

/-- The second poll is in time, and it finds the whole batch. -/
theorem sampleAnswers_delivers :
    Delivers {} sampleAnswers sampleSeeded sampleStores 1 where
  inTime earlier upTo := by
    have few : (earlier : Rat) ≤ 1 := by exact_mod_cast upTo
    change (earlier : Rat) * 500 - 0 < 30000
    linarith
  counted := rfl
  listed := rfl
  indexed := sampleSeeded_valid.subset
  quarantined id isPoison := by
    rcases isPoison_iff.mp isPoison with rfl | rfl | rfl
    · exact ⟨sampleRow 498, isRow_iff.mpr (.inl rfl), rfl⟩
    · exact ⟨sampleRow 499, isRow_iff.mpr (.inr (.inl rfl)), rfl⟩
    · exact ⟨sampleRow 500, isRow_iff.mpr (.inr (.inr rfl)), rfl⟩

end Replication.Gate4
