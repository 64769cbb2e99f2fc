import Replication.ElasticsearchSink
import Mathlib

namespace Replication

/-!
# What a bulk response says

`parseBulkResponse` pairs the records of a batch with the items of a bulk
response by position.  An item is any JSON value, so its status is one too, and
JavaScript compares it as a number; `Number` of a text is an argument, which
gives nothing where the result is not finite.  An item that is missing or has no
status counts as accepted, also when it carries an error.
-/

namespace JsNumber

/-- `number >= bound` for an integer bound. -/
def atLeast (number : JsNumber) (bound : Int) : Bool :=
  decide (bound * 10 ^ number.scale ≤ number.mantissa)

end JsNumber

namespace Json

/-- An array index, as a property name is recognised to be one. -/
def arrayIndex (name : String) : Option Nat :=
  let digits := name.toList
  let value :=
    digits.foldl (fun value digit => 10 * value + (digit.toNat - 48)) 0
  if digits.all Char.isDigit && digits = JsNumber.natText value &&
      value < 4294967295 then
    some value
  else
    none

/-- The name that `Object.values` lists first: indices ascend before texts. -/
def firstName (fields : List (String × Json)) : Option String :=
  let names := fields.map (·.1)
  let indices := names.filterMap arrayIndex
  match indices.min? with
  | some least => names.find? fun name => arrayIndex name = some least
  | none => names.head?

/-- `Object.values(value)[0]`. -/
def firstValue : Json → Option Json
  | .arr items => items.head?
  | .obj fields => (firstName fields).bind fun name => (obj fields).field name
  | .str text => text.toList.head?.map fun char => .str (String.singleton char)
  | _ => none

/-- The value is neither undefined nor null. -/
def given : Option Json → Bool
  | none => false
  | some .null => false
  | some _ => true

/--
The value as a number, for a value that prints: nothing where that is not a
finite number.
-/
def toNumber (number : Text → Option JsNumber) : Json → Option JsNumber
  | .null => some (.ofInt 0)
  | .bool value => some (.ofInt (if value then 1 else 0))
  | .num value => some value
  | other => number other.toText

end Json

/-- A bulk response, as far as it is read. -/
structure BulkResponse where
  errors : Option Bool
  items : Option (List Json)
  deriving Repr

namespace ElasticsearchSink

section Decomposition

variable (number : Text → Option JsNumber)

/-- `actionItem`: the outcome that the wrapper at some position holds. -/
def actionItemOf (itemWrapper : Option Json) : Option Json :=
  Json.orElse (itemWrapper.bind (Json.field "update")) <|
    Json.orElse (itemWrapper.bind (Json.field "index")) <|
      Json.orElse (itemWrapper.bind (Json.field "create")) <|
        if (itemWrapper.map Json.truthy).getD false then
          itemWrapper.bind Json.firstValue
        else
          some .null

/-- `actionItem?.status ?? 200`. -/
def statusOf (actionItem : Option Json) : Json :=
  let status := actionItem.bind (Json.field "status")
  if Json.given status then
    status.getD .null
  else
    .num (.ofInt 200)

/-- `status >= 200 && status < 300`, for a status that prints. -/
def isSuccess (status : Json) : Bool :=
  match status.toNumber number with
  | some value => value.atLeast 200 && !value.atLeast 300
  | none => false

/-- `value || fallback`; a truthy value of any type is passed on as it is. -/
def valueOr (value : Option Json) (fallback : Text) : Json :=
  (value.filter Json.truthy).getD (.str (String.ofList fallback))

/-- The failure entry of a record whose item is rejected. -/
def itemFailure (record : SourceRecord) (actionItem : Option Json) :
    SinkFailure where
  recordId := record.id
  errorReason :=
    valueOr
      ((actionItem.bind (Json.field "error")).bind (Json.field "reason"))
      ("Elasticsearch HTTP ".toList ++ (statusOf actionItem).toText ++
        " rejection".toList)
  errorCode :=
    valueOr
      ((actionItem.bind (Json.field "error")).bind (Json.field "type"))
      ("ES_STATUS_".toList ++ (statusOf actionItem).toText)
  rawItem := actionItem

/--
The loop of `parseBulkResponse` from position `i` on, or nothing where it
throws: a status that does not print cannot be compared either.
-/
def decompose
    (items : List Json)
    (i : Nat)
    (successfulIds : List Nat)
    (failures : List SinkFailure) :
    List SourceRecord → Option SinkResult
  | [] =>
      some
        { successCount := successfulIds.length
          failedCount := failures.length
          successfulIds
          failures }
  | record :: rest =>
      let actionItem := actionItemOf items[i]?
      if (statusOf actionItem).prints then
        if isSuccess number (statusOf actionItem) then
          decompose items (i + 1) (successfulIds ++ [record.id]) failures
            rest
        else
          decompose items (i + 1) successfulIds
            (failures ++ [itemFailure record actionItem]) rest
      else
        none

/-- `parseBulkResponse`, or nothing where it throws. -/
def parseBulkResponse
    (records : List SourceRecord)
    (response : BulkResponse) : Option SinkResult :=
  if response.errors = some true then
    decompose number (response.items.getD []) 0 [] [] records
  else
    let successfulIds := records.map SourceRecord.id
    some
      { successCount := successfulIds.length
        failedCount := 0
        successfulIds
        failures := [] }

/-!
## Positions

Each record is paired with its position, and the item there decides about it.
-/

/-- The item at the position of the pair. -/
def itemAt (items : List Json) (entry : SourceRecord × Nat) : Option Json :=
  actionItemOf items[entry.2]?

/-- The loop counts the record as successful. -/
def takes (items : List Json) (entry : SourceRecord × Nat) : Bool :=
  isSuccess number (statusOf (itemAt items entry))

/-- The ids of the records that a test on positions selects. -/
def idsWhere
    (selects : SourceRecord × Nat → Bool)
    (records : List (SourceRecord × Nat)) : List Nat :=
  (records.filter selects).map fun entry => entry.1.id

variable
  {number : Text → Option JsNumber}
  {items : List Json}
  {records : List SourceRecord}
  {response : BulkResponse}
  {result : SinkResult}

/-- The loop splits the batch by the outcomes at its positions. -/
theorem decompose_spec
    {i : Nat}
    {successfulIds : List Nat}
    {failures : List SinkFailure}
    (parsed :
      decompose number items i successfulIds failures records =
        some result) :
    (∀ entry ∈ records.zipIdx i,
      (statusOf (itemAt items entry)).prints = true) ∧
    result.successfulIds =
      successfulIds ++ idsWhere (takes number items) (records.zipIdx i) ∧
    result.failedIds =
      failures.map SinkFailure.recordId ++
        idsWhere (fun entry => !takes number items entry)
          (records.zipIdx i) ∧
    result.successCount = result.successfulIds.length ∧
    result.failedCount = result.failures.length := by
  induction records generalizing i successfulIds failures with
  | nil =>
      cases parsed
      simp [idsWhere, SinkResult.failedIds]
  | cons record rest inductionHypothesis =>
      rw [decompose] at parsed
      split at parsed
      · rename_i prints
        split at parsed
        · rename_i accepted
          obtain ⟨restPrints, successful, failed, counts⟩ :=
            inductionHypothesis parsed
          have taken : takes number items (record, i) = true := accepted
          refine ⟨?_, ?_, ?_, counts⟩
          · rw [List.zipIdx_cons]
            exact List.forall_mem_cons.mpr ⟨prints, restPrints⟩
          · rw [successful, List.append_assoc]
            simp [idsWhere, List.zipIdx_cons, taken]
          · rw [failed]
            simp [idsWhere, List.zipIdx_cons, taken]
        · rename_i rejected
          obtain ⟨restPrints, successful, failed, counts⟩ :=
            inductionHypothesis parsed
          have left : takes number items (record, i) = false :=
            Bool.eq_false_of_not_eq_true rejected
          refine ⟨?_, ?_, ?_, counts⟩
          · rw [List.zipIdx_cons]
            exact List.forall_mem_cons.mpr ⟨prints, restPrints⟩
          · rw [successful]
            simp [idsWhere, List.zipIdx_cons, left]
          · rw [failed]
            simp [idsWhere, List.zipIdx_cons, left, itemFailure]
      · cases parsed

/-- It returns when every status prints. -/
theorem exists_decompose
    {i : Nat}
    {successfulIds : List Nat}
    {failures : List SinkFailure}
    (prints :
      ∀ entry ∈ records.zipIdx i,
        (statusOf (itemAt items entry)).prints = true) :
    ∃ result,
      decompose number items i successfulIds failures records =
        some result := by
  induction records generalizing i successfulIds failures with
  | nil => exact ⟨_, rfl⟩
  | cons record rest inductionHypothesis =>
      rw [List.zipIdx_cons] at prints
      obtain ⟨headPrints, restPrints⟩ := List.forall_mem_cons.mp prints
      rw [decompose]
      split
      · split
        · exact inductionHypothesis restPrints
        · exact inductionHypothesis restPrints
      · exact absurd headPrints ‹_›

/-!
## Soundness

An item accounts for its record when it exists, carries a 2xx status and has no
error.  The fallback for a missing status accepts more.
-/

variable (number) in
/-- The item exists, carries a 2xx status and has no error. -/
def accepts (item : Option Json) : Bool :=
  let actionItem := actionItemOf item
  let status := actionItem.bind (Json.field "status")
  item.isSome &&
    (status.any fun status => status.prints && isSuccess number status) &&
    !Json.given (actionItem.bind (Json.field "error"))

variable (number) in
/-- Exactly the records whose item accepts them are reported as successful. -/
structure Decomposes
    (items : List Json)
    (records : List SourceRecord)
    (result : SinkResult) : Prop where
  successful :
    result.successfulIds =
      idsWhere (fun entry => accepts number items[entry.2]?) records.zipIdx
  failed :
    result.failedIds =
      idsWhere (fun entry => !accepts number items[entry.2]?)
        records.zipIdx

variable (number) in
/--
The item has a status that can be compared, and an error only if the status is
not 2xx.
-/
def Tells (item : Option Json) : Prop :=
  let actionItem := actionItemOf item
  Json.given (actionItem.bind (Json.field "status")) = true ∧
    (statusOf actionItem).prints = true ∧
    (isSuccess number (statusOf actionItem) = true →
      Json.given (actionItem.bind (Json.field "error")) = false)

section Items

variable {item : Option Json}

/-- Without a status the record counts as accepted. -/
theorem isSuccess_of_not_given
    (missing :
      Json.given ((actionItemOf item).bind (Json.field "status")) = false) :
    isSuccess number (statusOf (actionItemOf item)) = true := by
  rw [statusOf, if_neg (by simp [missing])]
  rfl

/-- A status that is there is the one that is compared. -/
theorem any_status
    (present :
      Json.given ((actionItemOf item).bind (Json.field "status")) = true)
    (test : Json → Bool) :
    ((actionItemOf item).bind (Json.field "status")).any test =
      test (statusOf (actionItemOf item)) := by
  rw [statusOf, if_pos present]
  cases found : (actionItemOf item).bind (Json.field "status") with
  | none => simp [found, Json.given] at present
  | some status => rfl

/-- Null is no 2xx status. -/
theorem not_any_status
    (missing :
      Json.given ((actionItemOf item).bind (Json.field "status")) = false) :
    (((actionItemOf item).bind (Json.field "status")).any fun status =>
      status.prints && isSuccess number status) = false := by
  cases found : (actionItemOf item).bind (Json.field "status") with
  | none => rfl
  | some status =>
      rw [found] at missing
      cases status with
      | null => rfl
      | _ => cases missing

/-- An item with a status exists. -/
theorem isSome_of_given
    (present :
      Json.given ((actionItemOf item).bind (Json.field "status")) = true) :
    item.isSome = true := by
  cases item with
  | none => cases present
  | some wrapper => rfl

/-- An item that tells is accepted when its status says so. -/
theorem Tells.accepts_eq
    (tells : Tells number item) :
    accepts number item =
      isSuccess number (statusOf (actionItemOf item)) := by
  obtain ⟨present, prints, noError⟩ := tells
  rw [accepts, isSome_of_given present, any_status present, prints]
  cases success : isSuccess number (statusOf (actionItemOf item)) with
  | false => rfl
  | true => simp [noError success]

/-- What is accepted counts as accepted. -/
theorem isSuccess_of_accepts
    (accepted : accepts number item = true) :
    isSuccess number (statusOf (actionItemOf item)) = true := by
  cases present :
      Json.given ((actionItemOf item).bind (Json.field "status")) with
  | false => exact isSuccess_of_not_given present
  | true =>
      rw [accepts, any_status present] at accepted
      simp only [Bool.and_eq_true] at accepted
      exact accepted.1.2.2

/-- An item tells when the comparison agrees with it. -/
theorem tells_of_accepts
    (prints : (statusOf (actionItemOf item)).prints = true)
    (agree :
      isSuccess number (statusOf (actionItemOf item)) = true →
        accepts number item = true) :
    Tells number item := by
  refine ⟨?_, prints, fun success => ?_⟩
  · by_contra missing
    have missing := eq_false_of_ne_true missing
    have accepted := agree (isSuccess_of_not_given missing)
    rw [accepts, not_any_status missing] at accepted
    simp at accepted
  · have accepted := agree success
    simp only [accepts, Bool.and_eq_true, Bool.not_eq_true'] at accepted
    exact accepted.2

end Items

/-- Two tests, one stronger than the other, that select as many agree. -/
theorem eq_of_idsWhere_eq
    {stronger weaker : SourceRecord × Nat → Bool}
    {entries : List (SourceRecord × Nat)}
    (implies : ∀ entry, stronger entry = true → weaker entry = true)
    (same : idsWhere weaker entries = idsWhere stronger entries)
    {entry : SourceRecord × Nat}
    (member : entry ∈ entries)
    (selected : weaker entry = true) :
    stronger entry = true := by
  have sublist := List.monotone_filter_right entries implies
  have lengths := congrArg List.length same
  simp only [idsWhere, List.length_map] at lengths
  have filters := sublist.eq_of_length lengths.symm
  have found : entry ∈ entries.filter weaker :=
    List.mem_filter.mpr ⟨member, selected⟩
  rw [← filters] at found
  exact (List.mem_filter.mp found).2

/--
For a response that reports errors, exactly the records whose item exists,
carries a 2xx status and has no error are reported as successful, and all others
as failed, if and only if every record's item has a status that can be compared,
and an error only if that status is not 2xx.
-/
theorem decomposes_iff_items_tell
    (number : Text → Option JsNumber)
    (records : List SourceRecord)
    (items : Option (List Json)) :
    (∃ result,
      parseBulkResponse number records ⟨some true, items⟩ = some result ∧
        Decomposes number (items.getD []) records result) ↔
      ∀ i < records.length, Tells number (items.getD [])[i]? := by
  constructor
  · rintro ⟨result, parsed, decomposes⟩ i inRange
    obtain ⟨prints, successful, -, -⟩ := decompose_spec parsed
    have member : (records[i], i) ∈ records.zipIdx :=
      List.mem_zipIdx_iff_getElem?.mpr (List.getElem?_eq_getElem inRange)
    refine tells_of_accepts (prints _ member) fun success => ?_
    have same :
        idsWhere (takes number (items.getD [])) records.zipIdx =
          idsWhere (fun entry => accepts number (items.getD [])[entry.2]?)
            records.zipIdx := by
      rw [← decomposes.successful, successful, List.nil_append]
    exact eq_of_idsWhere_eq
      (fun entry accepted => isSuccess_of_accepts accepted) same member
      success
  · intro tells
    have tell :
        ∀ entry ∈ records.zipIdx,
          Tells number (items.getD [])[entry.2]? := by
      intro entry member
      exact tells entry.2 (List.mem_zipIdx' member).1
    obtain ⟨result, parsed⟩ :=
      @exists_decompose number (items.getD []) records 0 [] []
        fun entry member => (tell entry member).2.1
    obtain ⟨-, successful, failed, -⟩ := decompose_spec parsed
    have agree :
        ∀ entry ∈ records.zipIdx,
          takes number (items.getD []) entry =
            accepts number (items.getD [])[entry.2]? :=
      fun entry member => (tell entry member).accepts_eq.symm
    refine ⟨result, parsed, ⟨?_, ?_⟩⟩
    · rw [successful, List.nil_append, idsWhere, idsWhere,
        List.filter_congr agree]
    · rw [failed, List.map_nil, List.nil_append, idsWhere, idsWhere,
        List.filter_congr fun entry member => by rw [agree entry member]]

end Decomposition

/-- A record with that id. -/
def sampleRecord (id : Nat) : SourceRecord where
  id
  uuid := ""
  tenantId := .str ""
  payload := .obj []
  version := 1
  status := "ACTIVE"
  isCorrupted := false
  createdAt := 0
  updatedAt := 0

/-- The item of an update with that status and an error. -/
def sampleItem (status : Option Int) : Json :=
  .obj [("update", .obj
    ((status.map fun status => ("status", .num (.ofInt status))).toList ++
      [("error", .obj [("type", .str "mapper_parsing_exception")])]))]

/-- Three records whose response has two items, one of them a rejection. -/
def sampleResult : Option SinkResult :=
  parseBulkResponse (fun _ => none)
    [sampleRecord 1, sampleRecord 2, sampleRecord 3]
    ⟨some true, some [sampleItem (some 400), sampleItem none]⟩

/--
The record whose item is missing, and the one whose item has an error but no
status, are reported as successful.
-/
theorem missing_item_is_successful :
    sampleResult.map SinkResult.successfulIds = some [2, 3] ∧
      accepts (fun _ => none) (some (sampleItem none)) = false ∧
      accepts (fun _ => none) none = false ∧
      ¬ ∃ result,
        sampleResult = some result ∧
          Decomposes (fun _ => none)
            [sampleItem (some 400), sampleItem none]
            [sampleRecord 1, sampleRecord 2, sampleRecord 3] result := by
  refine ⟨by decide, by decide, by decide, ?_⟩
  rintro ⟨result, parsed, decomposes⟩
  cases parsed
  exact absurd decomposes.successful (by decide)

end ElasticsearchSink

end Replication
