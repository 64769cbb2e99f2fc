import Replication.RetryEntry
import Replication.JsonMerge
import Replication.SinkResults
import Replication.EventConsumer
import Replication.Runner

namespace Replication

/-!
# What survives quarantine and replay

A dead letter keeps the id, the uuid and the payload of its record.  The version,
the status, the tenant and what the payload has beyond the fields of a customer
are not in it, and `retryEntry` fills them in.  The acknowledged write is that of
the quarantined record exactly where the filled in values happen to be its own.
-/

/-- The fields of a `CustomerPayload`. -/
def customerFields : List String :=
  ["customer_id", "first_name", "last_name", "email", "account_tier",
    "balance", "metadata"]

/-- The value is a `CustomerPayload`, which may have fields besides its own. -/
structure IsCustomerPayload (payload : Json) : Prop where
  texts :
    ∀ name ∈ ["customer_id", "first_name", "last_name", "email"],
      ∃ value, payload.field name = some (.str value)
  accountTier :
    ∃ tier ∈ ["STANDARD", "PREMIUM", "ENTERPRISE"],
      payload.field "account_tier" = some (.str tier)
  balance : ∃ value, payload.field "balance" = some (.num value)
  metadata : ∃ fields, payload.field "metadata" = some (.obj fields)

/-- A payload with fields is an object. -/
theorem IsCustomerPayload.eq_obj
    {payload : Json}
    (wellFormed : IsCustomerPayload payload) :
    ∃ fields, payload = .obj fields := by
  obtain ⟨value, balance⟩ := wellFormed.balance
  cases payload with
  | obj fields => exact ⟨fields, rfl⟩
  | _ => cases balance

/-- `row` is the dead letter that a runner stored for the record and the sink. -/
inductive Quarantined
    (parse : String → Option Json)
    (record : SourceRecord)
    (sink : Sink)
    (row : DLQEntry) : Prop where
  /-- The failure is one of the batch, and its letter is inserted with others. -/
  | stored
      (records : List SourceRecord)
      (esResult rmqResult : SinkResult)
      (failure : SinkFailure)
      (now : Int)
      (nextId position : Nat)
      (rows : List DLQEntry)
      (distinct : (records.map SourceRecord.id).Nodup)
      (member : record ∈ records)
      (names : failure.recordId = record.id)
      (isLetter :
        (dlqEntries records esResult rmqResult)[position]? =
          some (dlqEntry records sink failure))
      (positive : 0 < nextId)
      (inserted :
        DLQStore.insertedRows parse now nextId
            (dlqEntries records esResult rmqResult) =
          some rows)
      (isRow : rows[position]? = some row)

namespace DLQStore

/-- The row of a failure is the one inserted for it. -/
theorem insertedRow_of_getElem?
    {parse : String → Option Json}
    {now : Int}
    {nextId : Nat}
    {failures : List NewDLQEntry}
    {rows : List DLQEntry}
    (inserted : insertedRows parse now nextId failures = some rows)
    {position : Nat}
    {failure : NewDLQEntry}
    {row : DLQEntry}
    (isFailure : failures[position]? = some failure)
    (isRow : rows[position]? = some row) :
    insertedRow parse now (nextId + position) failure = some row := by
  induction failures generalizing nextId rows position with
  | nil => cases isFailure
  | cons head rest inductionHypothesis =>
      simp only [insertedRows] at inserted
      split at inserted
      · rename_i first later firstRow laterRows
        cases inserted
        cases position with
        | zero =>
            cases isFailure
            cases isRow
            exact firstRow
        | succ position =>
            rw [List.getElem?_cons_succ] at isFailure isRow
            rw [← Nat.add_assoc, Nat.add_right_comm]
            exact inductionHypothesis laterRows isFailure isRow
      · cases inserted

end DLQStore

/-- The dead letter has these data of the record. -/
structure LetterOf
    (record : SourceRecord)
    (sink : Sink)
    (entry : DLQEntry) : Prop where
  numbered : entry.id ≠ 0
  recordId : entry.recordId = some record.id
  recordUuid :
    entry.recordUuid = (some record.uuid).filter fun uuid => uuid != ""
  sinkTarget : entry.sinkTarget = sink.target
  payload : entry.payload = record.payload

/-- Among distinct ids the record itself is found. -/
theorem recordOf_of_mem
    {records : List SourceRecord}
    {record : SourceRecord}
    (distinct : (records.map SourceRecord.id).Nodup)
    (member : record ∈ records) :
    recordOf records record.id = some record := by
  have reversed : (records.reverse.map SourceRecord.id).Nodup := by
    rw [List.map_reverse]
    exact List.nodup_reverse.mpr distinct
  have inReverse := List.mem_reverse.mpr member
  unfold recordOf
  generalize records.reverse = items at reversed inReverse
  induction items with
  | nil => cases inReverse
  | cons head rest inductionHypothesis =>
      obtain ⟨fresh, distinctRest⟩ := List.nodup_cons.mp reversed
      rcases List.mem_cons.mp inReverse with rfl | inRest
      · simp
      · have other : head.id ≠ record.id := fun same =>
          fresh (same ▸ List.mem_map_of_mem inRest)
        simpa [other] using inductionHypothesis distinctRest inRest

/-- What a runner quarantines is a letter of its record. -/
theorem Quarantined.letterOf
    {parse : String → Option Json}
    {record : SourceRecord}
    {sink : Sink}
    {row : DLQEntry}
    (quarantined : Quarantined parse record sink row)
    (wellFormed : IsCustomerPayload record.payload) :
    LetterOf record sink row := by
  obtain ⟨records, esResult, rmqResult, failure, now, nextId, position, rows,
    distinct, member, names, isLetter, positive, inserted, isRow⟩ :=
    quarantined
  obtain ⟨fields, isObject⟩ := wellFormed.eq_obj
  have isInserted :=
    DLQStore.insertedRow_of_getElem? inserted isLetter isRow
  have source : recordOf records failure.recordId = some record := by
    rw [names]
    exact recordOf_of_mem distinct member
  have payload :
      (dlqEntry records sink failure).payload = .obj fields := by
    simp [dlqEntry, source, isObject, Json.orElse, Json.truthy]
  rw [DLQStore.insertedRow, payload] at isInserted
  cases isInserted
  exact
    { numbered := by
        show nextId + position ≠ 0
        omega
      recordId := congrArg some names
      recordUuid := by
        show ((recordOf records failure.recordId).map
          SourceRecord.uuid).filter _ = _
        rw [source]
        rfl
      sinkTarget := rfl
      payload := isObject.symm }

/-- The letter outlives later retries. -/
theorem LetterOf.later
    {record : SourceRecord}
    {sink : Sink}
    {row later : DLQEntry}
    (letter : LetterOf record sink row)
    (same : later.SameLetter row) :
    LetterOf record sink later := by
  rw [DLQEntry.SameLetter] at same
  rw [same]
  exact ⟨letter.numbered, letter.recordId, letter.recordUuid,
    letter.sinkTarget, letter.payload⟩

namespace DLQReplayer

variable
  {parse : String → Option Json}
  {number : Text → Option JsNumber}
  {record rebuilt : SourceRecord}
  {sink : Sink}
  {entry : DLQEntry}
  {now : Int}
  {randomUuid : String}

/-- The record that a well-formed letter is rebuilt to. -/
def rebuiltRecord
    (number : Text → Option JsNumber)
    (now : Int)
    (randomUuid : String)
    (entry : DLQEntry)
    (record : SourceRecord) : SourceRecord where
  id := recordId entry
  uuid := if record.uuid = "" then randomUuid else record.uuid
  tenantId :=
    Json.getOr (record.payload.field "tenant_id") (.str "tenant_default")
  payload := reconstructedPayload number entry record.payload
  version := 1
  status := "ACTIVE"
  isCorrupted := false
  createdAt := entry.createdAt
  updatedAt := now

/-- A well-formed letter is always rebuilt. -/
theorem reconstruct_letter
    (letter : LetterOf record sink entry)
    (wellFormed : IsCustomerPayload record.payload) :
    reconstruct parse number now randomUuid entry =
      some (rebuiltRecord number now randomUuid entry record) := by
  obtain ⟨fields, isObject⟩ := wellFormed.eq_obj
  obtain ⟨value, balance⟩ := wellFormed.balance
  have read :
      payloadObject (DLQStore.readPayload parse entry.payload) =
        record.payload := by
    rw [letter.payload, isObject]
    rfl
  have uuid :
      (entry.recordUuid.filter fun uuid => uuid != "").getD randomUuid =
        if record.uuid = "" then randomUuid else record.uuid := by
    rw [letter.recordUuid]
    by_cases empty : record.uuid = ""
    · simp [empty, Option.filter_some]
    · simp [empty, Option.filter_some]
  simp only [reconstruct, read, balance, uuid]
  rfl

/-- The record id is rebuilt unless it is zero. -/
theorem recordId_letter
    (letter : LetterOf record sink entry) :
    recordId entry = record.id ↔ record.id ≠ 0 := by
  rw [recordId, letter.recordId]
  by_cases zero : record.id = 0
  · simp [zero, letter.numbered, Option.filter_some]
  · simp [zero, Option.filter_some]

/-!
## The payload
-/

/-- The text fields, whose empty values are replaced. -/
def textFields : List String :=
  ["customer_id", "first_name", "last_name", "email"]

/-- What stands in for an empty text field. -/
def textDefault (entry : DLQEntry) (name : String) : Json :=
  if name = "customer_id" then withId "cust_dlq_" entry ""
  else if name = "first_name" then .str "Replayed"
  else if name = "last_name" then .str "Customer"
  else withId "replayed_" entry "@test.com"

/-- No stand-in is empty. -/
theorem textDefault_ne (entry : DLQEntry) (name : String) :
    textDefault entry name ≠ .str "" := by
  have printed :
      ∀ before after : String,
        before.toList ≠ [] → withId before entry after ≠ .str "" := by
    intro before after nonempty same
    have empty := congrArg String.toList (Json.str.inj same)
    rw [String.toList_ofList] at empty
    simp only [String.toList_empty, List.append_assoc,
      List.append_eq_nil_iff] at empty
    exact nonempty empty.1
  unfold textDefault
  split
  · exact printed _ _ (by simp)
  · split
    · simp
    · split
      · simp
      · exact printed _ _ (by simp)

/-- A text that is not empty is kept. -/
theorem getOr_str (value : String) (fallback : Json) :
    Json.getOr (some (.str value)) fallback =
      if value = "" then fallback else .str value := by
  by_cases empty : value = ""
  · simp [Json.getOr, Json.truthy, empty, Option.filter_some]
  · simp [Json.getOr, Json.truthy, empty, Option.filter_some]

/-- A text is read as it is where the fallback is the empty one. -/
theorem getOr_str_empty (value : String) :
    Json.getOr (some (.str value)) (.str "") = .str value := by
  rw [getOr_str]
  split
  · rename_i empty
    rw [empty]
  · rfl

/-- A text that has been filled in is read as it is. -/
theorem getOr_filled (value fallback : String) :
    Json.getOr
        (some (Json.getOr (some (.str value)) (.str fallback))) (.str "") =
      .str (if value = "" then fallback else value) := by
  rw [getOr_str]
  by_cases empty : value = ""
  · rw [if_pos empty, if_pos empty, getOr_str_empty]
  · rw [if_neg empty, if_neg empty, getOr_str_empty]

section Payload

variable {payload : Json}

/-- An empty object has no fields. -/
theorem field_empty (name : String) : (Json.obj []).field name = none := rfl

/-- A text field of the rebuilt payload. -/
theorem field_text
    {name : String}
    (isText : name ∈ textFields) :
    (reconstructedPayload number entry payload).field name =
      some (Json.getOr (payload.field name) (textDefault entry name)) := by
  simp only [textFields, List.mem_cons, List.not_mem_nil, or_false] at isText
  rcases isText with rfl | rfl | rfl | rfl <;>
    simp [reconstructedPayload, Json.field_cons, field_empty, textDefault]

/-- The rebuilt payload has no other fields than those of a customer. -/
theorem field_other
    {name : String}
    (other : name ∉ customerFields) :
    (reconstructedPayload number entry payload).field name = none := by
  simp only [customerFields, List.mem_cons, List.not_mem_nil, or_false,
    not_or] at other
  obtain ⟨customer, first, last, email, tier, balance, metadata⟩ := other
  simp [reconstructedPayload, Json.field_cons, Ne.symm customer,
    Ne.symm first, Ne.symm last, Ne.symm email, Ne.symm tier,
    Ne.symm balance, Ne.symm metadata, field_empty]

/-- The fields that are no texts are kept. -/
theorem field_kept
    (wellFormed : IsCustomerPayload payload)
    {name : String}
    (kept : name ∈ ["account_tier", "balance", "metadata"]) :
    (reconstructedPayload number entry payload).field name =
      payload.field name := by
  simp only [List.mem_cons, List.not_mem_nil, or_false] at kept
  rcases kept with rfl | rfl | rfl
  · obtain ⟨tier, isTier, named⟩ := wellFormed.accountTier
    simp only [List.mem_cons, List.not_mem_nil, or_false] at isTier
    rw [named]
    rcases isTier with rfl | rfl | rfl <;>
      simp [reconstructedPayload, Json.field_cons, field_empty, named]
  · obtain ⟨value, named⟩ := wellFormed.balance
    rw [named]
    simp [reconstructedPayload, Json.field_cons, field_empty, named,
      balanceOf]
  · obtain ⟨fields, named⟩ := wellFormed.metadata
    rw [named]
    simp [reconstructedPayload, Json.field_cons, field_empty, named,
      Json.getOr, Json.truthy, Option.filter_some]

/-- Every field is a text field or one of the others. -/
theorem mem_kept_of_not_mem_texts
    {name : String}
    (listed : name ∈ customerFields)
    (noText : name ∉ textFields) :
    name ∈ ["account_tier", "balance", "metadata"] := by
  simp only [customerFields, textFields, List.mem_cons,
    List.not_mem_nil, or_false, not_or] at listed noText ⊢
  tauto

/-- A text field is kept exactly if it is not empty. -/
theorem field_text_iff
    (wellFormed : IsCustomerPayload payload)
    {name : String}
    (isText : name ∈ textFields) :
    (reconstructedPayload number entry payload).field name =
        payload.field name ↔
      payload.field name ≠ some (.str "") := by
  obtain ⟨value, named⟩ := wellFormed.texts name isText
  rw [field_text isText, named, getOr_str]
  by_cases empty : value = ""
  · rw [if_pos empty, empty]
    simp [textDefault_ne]
  · rw [if_neg empty]
    simp [empty]

/-- If no text is empty, every field of a customer is kept. -/
theorem field_customer
    (wellFormed : IsCustomerPayload payload)
    (texts : ∀ name ∈ textFields, payload.field name ≠ some (.str ""))
    {name : String}
    (listed : name ∈ customerFields) :
    (reconstructedPayload number entry payload).field name =
      payload.field name := by
  by_cases isText : name ∈ textFields
  · exact (field_text_iff wellFormed isText).mpr (texts name isText)
  · exact field_kept wellFormed (mem_kept_of_not_mem_texts listed isText)

/-- All fields are kept exactly if no text is empty and there are no others. -/
theorem fields_iff
    (wellFormed : IsCustomerPayload payload) :
    (∀ name,
        (reconstructedPayload number entry payload).field name =
          payload.field name) ↔
      (∀ name ∈ textFields, payload.field name ≠ some (.str "")) ∧
        ∀ name ∉ customerFields, payload.field name = none := by
  constructor
  · intro same
    refine ⟨fun name isText => ?_, fun name other => ?_⟩
    · exact (field_text_iff wellFormed isText).mp (same name)
    · rw [← same name, field_other other]
  · rintro ⟨texts, others⟩ name
    by_cases listed : name ∈ customerFields
    · exact field_customer wellFormed texts listed
    · rw [others name listed, field_other listed]

end Payload

/-!
## The Elasticsearch document

The document has the two names in one trimmed text.  Trimming keeps the visible
characters, so that a name that was filled in shows.
-/

section Document

/-- The number of characters that are no white space. -/
def visible (text : Text) : Nat :=
  text.countP fun char => !isWhiteSpace char

/-- Leading white space has no visible characters. -/
theorem visible_dropWhile (text : Text) :
    visible (text.dropWhile isWhiteSpace) = visible text := by
  induction text with
  | nil => rfl
  | cons char rest inductionHypothesis =>
      rw [List.dropWhile_cons]
      split
      · rename_i white
        rw [inductionHypothesis]
        simp [visible, white]
      · rfl

/-- Trimming keeps the visible characters. -/
theorem visible_trim (text : Text) : visible text.trim = visible text := by
  have reversed : ∀ text : Text, visible text.reverse = visible text :=
    fun text => List.countP_reverse
  calc visible text.trim
      = visible
          ((text.dropWhile isWhiteSpace).reverse.dropWhile
            isWhiteSpace).reverse := rfl
    _ = visible (text.dropWhile isWhiteSpace) := by
        rw [reversed, visible_dropWhile, reversed]
    _ = visible text := visible_dropWhile text

/-- A name that was filled in is seen in the full name. -/
theorem fullName_iff (first last : String) :
    Text.trim
          ((if first = "" then "Replayed" else first).toList ++
            ' ' :: (if last = "" then "Customer" else last).toList) =
        Text.trim (first.toList ++ ' ' :: last.toList) ↔
      first ≠ "" ∧ last ≠ "" := by
  constructor
  · intro same
    have counts := congrArg visible same
    simp only [visible_trim] at counts
    have spaces :
        ∀ before after : Text,
          visible (before ++ ' ' :: after) =
            visible before + visible after := by
      intro before after
      simp [visible, isWhiteSpace]
    rw [spaces, spaces] at counts
    have replayed : visible "Replayed".toList = 8 := by decide
    have customer : visible "Customer".toList = 8 := by decide
    have empty : visible "".toList = 0 := rfl
    constructor
    · rintro rfl
      rw [if_pos rfl, replayed, empty] at counts
      split at counts
      · rename_i isEmpty
        rw [customer, isEmpty, empty] at counts
        omega
      · omega
    · rintro rfl
      rw [if_pos (Eq.refl ("" : String)), customer, empty] at counts
      split at counts
      · rename_i isEmpty
        rw [replayed, isEmpty, empty] at counts
        omega
      · omega
  · rintro ⟨firstGiven, lastGiven⟩
    rw [if_neg firstGiven, if_neg lastGiven]

/--
The item writes the document of the record under its id; only the three
timestamps may differ.
-/
def CarriesItem (item : UpdateItem) (record : SourceRecord) : Prop :=
  item.documentId = ElasticsearchSink.documentIdOf record.id ∧
    ∃ expected,
      ElasticsearchSink.transformRecord item.doc.syncedAt record =
          some expected ∧
        item.doc =
          { expected with
            sourceCreatedAt := item.doc.sourceCreatedAt
            sourceUpdatedAt := item.doc.sourceUpdatedAt }

/-- The document of a record with two names. -/
theorem transformRecord_names
    {first last : String}
    (firstName :
      Json.getOr (record.payload.field "first_name") (.str "") = .str first)
    (lastName :
      Json.getOr (record.payload.field "last_name") (.str "") = .str last)
    (isObject : ∃ fields, record.payload = .obj fields) :
    ElasticsearchSink.transformRecord now record =
      some
        { id := ElasticsearchSink.documentIdOf record.id
          sourceUuid := record.uuid
          tenantId := record.tenantId
          customerId := record.payload.field "customer_id"
          fullName := Text.trim (first.toList ++ ' ' :: last.toList)
          email := record.payload.field "email"
          accountTier := record.payload.field "account_tier"
          balance := record.payload.field "balance"
          status := record.status
          version := record.version
          tags :=
            match (record.payload.field "metadata").bind
              (Json.field "tags") with
            | some (.arr tags) => tags
            | _ => []
          country :=
            match (record.payload.field "metadata").bind
              (Json.field "country") with
            | some (.str country) => country
            | _ => ""
          sourceCreatedAt := record.createdAt
          sourceUpdatedAt := record.updatedAt
          syncedAt := now } := by
  obtain ⟨fields, isObject⟩ := isObject
  unfold ElasticsearchSink.transformRecord
  split
  · rename_i isNull
    rw [isObject] at isNull
    cases isNull
  · dsimp only
    rw [firstName, lastName]
    generalize (record.payload.field "metadata").bind
      (Json.field "tags") = tags
    generalize (record.payload.field "metadata").bind
      (Json.field "country") = country
    rfl

end Document

/-- What the code fills in is what the record has. -/
structure SurvivesReplay (sink : Sink) (record : SourceRecord) : Prop where
  id : record.id ≠ 0
  uuid : record.uuid ≠ ""
  version : record.version = 1
  /-- The payload names the tenant, or it is the default one. -/
  tenantId :
    Json.getOr (record.payload.field "tenant_id") (.str "tenant_default") =
      record.tenantId
  texts : ∀ name ∈ textFields, record.payload.field name ≠ some (.str "")
  /-- Documents have a status, events have none. -/
  status : sink = .elasticsearch → record.status = "ACTIVE"
  /-- Events have the whole payload, documents only fields of a customer. -/
  fields :
    sink = .rabbitmq →
      ∀ name ∉ customerFields, record.payload.field name = none

/--
The message has the record's message id, and its event has the record's data.
Events have no status.
-/
structure CarriesPublication
    (publication : RabbitMQSink.Publication)
    (record : SourceRecord) : Prop where
  messageId :
    publication.message.messageId = messageIdOf record.id record.version
  sourceId : publication.event.sourceId = record.id
  sourceUuid : publication.event.sourceUuid = record.uuid
  version : publication.event.version = record.version
  tenantId : publication.event.tenantId = record.tenantId
  payload :
    ∀ name,
      publication.event.payload.field name = record.payload.field name

section Writes

variable
  (letter : LetterOf record sink entry)
  (wellFormed : IsCustomerPayload record.payload)
  (random : randomUuid ≠ "")

include random in
/-- The uuid is kept unless it is empty. -/
theorem uuid_iff :
    (if record.uuid = "" then randomUuid else record.uuid) = record.uuid ↔
      record.uuid ≠ "" := by
  by_cases empty : record.uuid = ""
  · simp [empty, random]
  · simp [empty]

include letter wellFormed random

/-- The document of the rebuilt record is that of the record. -/
theorem carriesItem_iff
    {bulkNow : Int}
    {item : UpdateItem}
    (toDocument : sink = .elasticsearch)
    (made :
      ElasticsearchSink.updateItem bulkNow
          (rebuiltRecord number now randomUuid entry record) =
        some item) :
    CarriesItem item record ↔ SurvivesReplay sink record := by
  obtain ⟨first, firstNamed⟩ := wellFormed.texts "first_name" (by simp)
  obtain ⟨last, lastNamed⟩ := wellFormed.texts "last_name" (by simp)
  have rebuiltName :
      ∀ name ∈ textFields, ∀ value fallback : String,
        record.payload.field name = some (.str value) →
          textDefault entry name = .str fallback →
            Json.getOr
                ((rebuiltRecord number now randomUuid entry
                  record).payload.field name) (.str "") =
              .str (if value = "" then fallback else value) := by
    intro name isText value fallback named isFallback
    show Json.getOr
      ((reconstructedPayload number entry record.payload).field name) _ = _
    rw [field_text isText, named, isFallback]
    exact getOr_filled value fallback
  have rebuiltDoc :=
    @transformRecord_names
      (rebuiltRecord number now randomUuid entry record) bulkNow
      (if first = "" then "Replayed" else first)
      (if last = "" then "Customer" else last)
      (rebuiltName "first_name" (by simp [textFields]) _ _ firstNamed rfl)
      (rebuiltName "last_name" (by simp [textFields]) _ _ lastNamed rfl)
      ⟨_, rfl⟩
  have ownDoc :=
    @transformRecord_names record bulkNow first last
      (by rw [firstNamed, getOr_str_empty]) (by rw [lastNamed, getOr_str_empty])
      wellFormed.eq_obj
  rw [ElasticsearchSink.updateItem, rebuiltDoc] at made
  cases made
  have sameDocument :
      ElasticsearchSink.documentIdOf (recordId entry) =
          ElasticsearchSink.documentIdOf record.id ↔
        record.id ≠ 0 :=
    (natText_injective.eq_iff).trans (recordId_letter letter)
  constructor
  · rintro ⟨sameId, expected, isExpected, same⟩
    have isOwn := ownDoc.symm.trans isExpected
    cases isOwn
    simp only [SearchDocument.mk.injEq] at same
    obtain ⟨-, uuid, tenantId, customerId, fullName, email, -, -, status,
      version, -⟩ := same
    obtain ⟨firstGiven, lastGiven⟩ := (fullName_iff first last).mp fullName
    refine
      { id := sameDocument.mp sameId
        uuid := (uuid_iff random).mp uuid
        version := version.symm
        tenantId
        texts := ?_
        status := fun _ => status.symm
        fields := fun toQueue => absurd (toDocument.symm.trans toQueue) (by simp) }
    intro name isText
    simp only [textFields, List.mem_cons, List.not_mem_nil,
      or_false] at isText
    rcases isText with rfl | rfl | rfl | rfl
    · exact (field_text_iff wellFormed (by simp [textFields])).mp customerId
    · simpa [firstNamed] using firstGiven
    · simpa [lastNamed] using lastGiven
    · exact (field_text_iff wellFormed (by simp [textFields])).mp email
  · intro survives
    have kept :
        ∀ name ∈ customerFields,
          (reconstructedPayload number entry record.payload).field name =
            record.payload.field name :=
      fun _ listed => field_customer wellFormed survives.texts listed
    have firstGiven : first ≠ "" := by
      simpa [firstNamed] using
        survives.texts "first_name" (by simp [textFields])
    have lastGiven : last ≠ "" := by
      simpa [lastNamed] using
        survives.texts "last_name" (by simp [textFields])
    refine ⟨sameDocument.mpr survives.id, _, ownDoc, ?_⟩
    simp only [SearchDocument.mk.injEq, and_true]
    refine ⟨sameDocument.mpr survives.id, (uuid_iff random).mpr survives.uuid,
      survives.tenantId,
      kept "customer_id" (by simp [customerFields]),
      (fullName_iff first last).mpr ⟨firstGiven, lastGiven⟩,
      kept "email" (by simp [customerFields]),
      kept "account_tier" (by simp [customerFields]),
      kept "balance" (by simp [customerFields]),
      (survives.status toDocument).symm, survives.version.symm, ?_, ?_⟩
    · show (match ((reconstructedPayload number entry
          record.payload).field "metadata").bind (Json.field "tags") with
        | some (.arr tags) => tags
        | _ => []) = _
      rw [kept "metadata" (by simp [customerFields])]
    · show (match ((reconstructedPayload number entry
          record.payload).field "metadata").bind (Json.field "country") with
        | some (.str country) => country
        | _ => "") = _
      rw [kept "metadata" (by simp [customerFields])]

/-- The event of the rebuilt record is that of the record. -/
theorem carriesPublication_iff
    {options : RabbitMQSink.Options}
    {eventId : String}
    {publishedAt : Int}
    {position : Nat}
    (toQueue : sink = .rabbitmq) :
    CarriesPublication
        (RabbitMQSink.publicationOf options eventId publishedAt
          (rebuiltRecord number now randomUuid entry record)
          .recordMutated position)
        record ↔
      SurvivesReplay sink record := by
  constructor
  · intro carries
    obtain ⟨texts, others⟩ := (fields_iff wellFormed).mp carries.payload
    exact
      { id := (recordId_letter letter).mp carries.sourceId
        uuid := (uuid_iff random).mp carries.sourceUuid
        version := carries.version.symm
        tenantId := carries.tenantId
        texts
        status := fun toDocument =>
          absurd (toQueue.symm.trans toDocument) (by simp)
        fields := fun _ => others }
  · intro survives
    have sameId : recordId entry = record.id :=
      (recordId_letter letter).mpr survives.id
    exact
      { messageId := by
          show messageIdOf (recordId entry) 1 = _
          rw [sameId, survives.version]
        sourceId := sameId
        sourceUuid := (uuid_iff random).mpr survives.uuid
        version := survives.version.symm
        tenantId := survives.tenantId
        payload :=
          (fields_iff wellFormed).mpr
            ⟨survives.texts, survives.fields toQueue⟩ }

end Writes

/-!
## What the sinks acknowledge

A confirmed dispatch of one record has written that record and nothing else.
-/

section Acknowledged

open RabbitMQSink (PublishBatch Publication publicationOf published publishAll)

variable
  {options : RabbitMQSink.Options}
  {attempt : Attempt}
  {eventType : ReplicationEventType}

/-- A confirmed bulk request has sent the item of the record. -/
theorem acknowledged_elasticsearch
    (confirmed :
      verdictOf (dispatchElasticsearch number attempt record) = .confirmed) :
    ∃ item,
      ElasticsearchSink.updateItem attempt.bulkNow record = some item ∧
        (dispatchElasticsearch number attempt record).acknowledged record =
          [item] := by
  unfold dispatchElasticsearch at confirmed ⊢
  split at confirmed
  · cases confirmed
  · rename_i items sent
    split at confirmed
    · cases confirmed
    · rename_i response answered
      split at confirmed
      · cases confirmed
      · rename_i result parsed
        have partitions :=
          ElasticsearchSink.partitions_of_parseBulkResponse
            (by simp) parsed
        have noFailures : result.failures = [] := by
          simp only [verdictOf] at confirmed
          split at confirmed
          · assumption
          · cases confirmed
        have listed : record.id ∈ result.successfulIds := by
          have once := partitions.once record List.mem_cons_self
          rw [SinkResult.listedIds, SinkResult.failedIds, noFailures,
            List.map_nil, List.append_nil] at once
          exact List.count_pos_iff.mp (once ▸ Nat.one_pos)
        obtain ⟨item, made, rfl⟩ :
            ∃ item,
              ElasticsearchSink.updateItem attempt.bulkNow record =
                  some item ∧
                items = [item] := by
          rw [ElasticsearchSink.bulkUpsert, List.mapM_cons] at sent
          cases made :
              ElasticsearchSink.updateItem attempt.bulkNow record with
          | none =>
              rw [made] at sent
              cases sent
          | some item =>
              rw [made] at sent
              cases sent
              exact ⟨item, rfl, rfl⟩
        exact ⟨item, made, if_pos listed⟩

/-- Where the publication of a single record may stand, and what was sent. -/
inductive SingleRecord
    (options : RabbitMQSink.Options)
    (eventType : ReplicationEventType)
    (record : SourceRecord) :
    List Publication → PublishBatch → Prop where
  | publishing :
      SingleRecord options eventType record []
        (.publishing ⟨0, [record], [], []⟩)
  | draining (eventId : String) (publishedAt : Int) :
      SingleRecord options eventType record
        [publicationOf options eventId publishedAt record eventType 0]
        (.draining ⟨1, [], [record.id], []⟩)
  | confirming (eventId : String) (publishedAt : Int) :
      SingleRecord options eventType record
        [publicationOf options eventId publishedAt record eventType 0]
        (.confirming ⟨1, [], [record.id], []⟩)
  | confirmed (eventId : String) (publishedAt : Int) :
      SingleRecord options eventType record
        [publicationOf options eventId publishedAt record eventType 0]
        (.returned (RabbitMQSink.resultOf [record.id] []))
  | failed
      (publications : List Publication)
      (result : SinkResult)
      (hasFailures : result.failures ≠ []) :
      SingleRecord options eventType record publications (.returned result)

/-- A step of the publication keeps to these places. -/
theorem SingleRecord.step
    {publications : List Publication}
    {call next : PublishBatch}
    {answer : RabbitMQSink.Answer}
    (single : SingleRecord options eventType record publications call)
    (taken : RabbitMQSink.step call answer = some next) :
    SingleRecord options eventType record
      (publications ++ (published options eventType call answer).toList)
      next := by
  cases single with
  | publishing =>
      cases RabbitMQSink.stepped_of_step taken with
      | flowing => exact .confirming _ _
      | blocked => exact .draining _ _
      | publishThrew => exact .failed _ _ (by simp [RabbitMQSink.resultOf])
  | draining =>
      cases RabbitMQSink.stepped_of_step taken with
      | drained => exact .confirming _ _
  | confirming =>
      cases RabbitMQSink.stepped_of_step taken with
      | confirmed => exact .confirmed _ _
      | notConfirmed => exact .failed _ _ (by simp [RabbitMQSink.resultOf])
  | confirmed => cases RabbitMQSink.stepped_of_step taken
  | failed => cases RabbitMQSink.stepped_of_step taken

/-- The whole publication keeps to these places. -/
theorem SingleRecord.publishAll
    {publications : List Publication}
    {call : PublishBatch}
    (single : SingleRecord options eventType record publications call)
    (answers : List RabbitMQSink.Answer) :
    SingleRecord options eventType record
      (publications ++
        (RabbitMQSink.publishAll options eventType call answers).1)
      (RabbitMQSink.publishAll options eventType call answers).2 := by
  induction answers generalizing publications call with
  | nil => simpa [RabbitMQSink.publishAll] using single
  | cons answer later inductionHypothesis =>
      rw [RabbitMQSink.publishAll]
      cases taken : RabbitMQSink.step call answer with
      | none => exact inductionHypothesis single
      | some next =>
          have run := inductionHypothesis (single.step taken)
          rwa [List.append_assoc] at run

/-- A confirmed publication has sent the message of the record. -/
theorem acknowledged_rabbitmq
    (sound : record.isCorrupted = false)
    (confirmed :
      verdictOf (dispatchRabbitMQ options attempt record) = .confirmed) :
    ∃ eventId publishedAt,
      (dispatchRabbitMQ options attempt record).acknowledged record =
        [publicationOf options eventId publishedAt record .recordMutated 0] := by
  cases hasChannel : attempt.hasChannel with
  | false =>
      have threw :
          RabbitMQSink.publishBatch false [record] = .threw := rfl
      have stays :
          ∀ answers,
            (RabbitMQSink.publishAll options .recordMutated .threw
              answers).2 = .threw := by
        intro answers
        induction answers with
        | nil => rfl
        | cons answer later inductionHypothesis =>
            simpa [RabbitMQSink.publishAll, RabbitMQSink.step] using
              inductionHypothesis
      simp only [dispatchRabbitMQ, hasChannel, threw, stays, verdictOf]
        at confirmed
      cases confirmed
  | true =>
      have started :
          RabbitMQSink.publishBatch true [record] =
            .publishing ⟨0, [record], [], []⟩ := by
        simp [RabbitMQSink.publishBatch, RabbitMQSink.enterLoop, sound]
      have start :
          SingleRecord options .recordMutated record []
            (.publishing ⟨0, [record], [], []⟩) := .publishing
      have single := start.publishAll attempt.channelAnswers
      rw [List.nil_append] at single
      simp only [dispatchRabbitMQ, hasChannel, started] at confirmed ⊢
      generalize
        RabbitMQSink.publishAll options .recordMutated
          (.publishing ⟨0, [record], [], []⟩) attempt.channelAnswers =
          ended at single confirmed ⊢
      obtain ⟨publications, call⟩ := ended
      cases single with
      | publishing => cases confirmed
      | draining => cases confirmed
      | confirming => cases confirmed
      | confirmed eventId publishedAt =>
          exact ⟨eventId, publishedAt, if_pos (by simp [RabbitMQSink.resultOf])⟩
      | failed _ result hasFailures =>
          simp only [verdictOf] at confirmed
          split at confirmed
          · rename_i none
            exact absurd none hasFailures
          · cases confirmed

end Acknowledged

/-- The sink acknowledged a write that carries the record. -/
def Outcome.Acknowledges
    (outcome : Outcome)
    (record : SourceRecord) : Sink → Prop
  | .elasticsearch => ∃ item ∈ outcome.items, CarriesItem item record
  | .rabbitmq =>
      ∃ publication ∈ outcome.publications,
        CarriesPublication publication record

/-- A confirmed replay of a letter acknowledges the record if it survives. -/
theorem acknowledges_replayRecord
    {options : RabbitMQSink.Options}
    {attempt : Attempt}
    {queue : List DLQEntry}
    {dlqId : Nat}
    (letter : LetterOf record sink entry)
    (wellFormed : IsCustomerPayload record.payload)
    (confirmed :
      replayVerdict number options attempt entry
          (rebuiltRecord number attempt.now attempt.randomUuid entry
            record) =
        .confirmed) :
    (replayRecord number options attempt queue dlqId entry
          (rebuiltRecord number attempt.now attempt.randomUuid entry
            record)).Acknowledges record sink ↔
      SurvivesReplay sink record := by
  have target := letter.sinkTarget
  cases sink with
  | elasticsearch =>
      have replays : entry.sinkTarget = .elasticsearch := target
      simp only [replayVerdict, replayElasticsearch, replays, true_or,
        if_true] at confirmed
      split at confirmed
      · rename_i bulkConfirmed
        obtain ⟨item, made, sent⟩ :=
          acknowledged_elasticsearch bulkConfirmed
        simp only [Outcome.Acknowledges, replayRecord, replayElasticsearch,
          replays, true_or, if_true, sent, List.mem_singleton,
          exists_eq_left]
        exact carriesItem_iff letter wellFormed attempt.randomUuid_ne rfl made
      · rename_i unconfirmed
        exact absurd confirmed unconfirmed
  | rabbitmq =>
      have replays : entry.sinkTarget = .rabbitmq := target
      simp only [replayVerdict, replayElasticsearch, replayRabbitMQ, replays,
        reduceCtorEq, or_self, true_or, if_true, if_false] at confirmed
      obtain ⟨eventId, publishedAt, sent⟩ :=
        acknowledged_rabbitmq rfl confirmed
      simp only [Outcome.Acknowledges, replayRecord, replayPublications,
        replayElasticsearch, replayRabbitMQ, replays, reduceCtorEq, or_self,
        true_or, if_true, if_false, Dispatch.skipped, verdictOf, sent,
        List.mem_singleton, exists_eq_left]
      exact carriesPublication_iff letter wellFormed attempt.randomUuid_ne rfl

/--
A replay that marks the letter of a well-formed record as resolved has written
this record to the sink exactly if what it fills in is what the record has.
-/
theorem resolved_acknowledges_iff
    {options : RabbitMQSink.Options}
    {attempt : Attempt}
    {queue : List DLQEntry}
    {row later after : DLQEntry}
    (quarantined : Quarantined parse record sink row)
    (wellFormed : IsCustomerPayload record.payload)
    (found : DLQStore.getEntryById queue row.id = some later)
    (same : later.SameLetter row)
    (unresolved : later.status ≠ .resolved)
    (foundAfter :
      DLQStore.getEntryById
          (retryEntry parse number options attempt queue row.id).queue
          row.id =
        some after)
    (resolved : after.status = .resolved) :
    (retryEntry parse number options attempt queue row.id).Acknowledges
        record sink ↔
      SurvivesReplay sink record := by
  have letter := (quarantined.letterOf wellFormed).later same
  obtain ⟨built, reconstructed, confirmed, outcome⟩ :=
    confirmed_of_resolved found unresolved foundAfter resolved
  rw [reconstruct_letter letter wellFormed] at reconstructed
  cases reconstructed
  rw [outcome]
  exact acknowledges_replayRecord letter wellFormed confirmed

/-- A customer record in its second version. -/
def sampleRecord : SourceRecord where
  id := 1
  uuid := "3f1c"
  tenantId := .str "tenant_default"
  payload :=
    .obj [
      ("customer_id", .str "cust_1"), ("first_name", .str "Ada"),
      ("last_name", .str "Byron"), ("email", .str "ada@test.com"),
      ("account_tier", .str "PREMIUM"), ("balance", .num (.ofInt 10)),
      ("metadata",
        .obj [("signup_channel", .str "WEB"), ("country", .str "US"),
          ("tags", .arr [])])]
  version := 2
  status := "ACTIVE"
  isCorrupted := false
  createdAt := 0
  updatedAt := 5

/-- RabbitMQ rejected its confirms. -/
def sampleFailure : SinkFailure :=
  RabbitMQSink.nackFailure "channel closed" 1

/-- The dead letter of that record, the first row of the queue. -/
def sampleRow : DLQEntry where
  id := 1
  recordId := some 1
  recordUuid := some "3f1c"
  sinkTarget := .rabbitmq
  payload := sampleRecord.payload
  errorCode := "AMQP_BROKER_NACK"
  errorMessage := "Broker NACK on batch confirm: channel closed"
  stackTrace := none
  retryCount := 0
  status := .pending
  createdAt := 7
  lastRetriedAt := none

/-- A replay during which the channel accepts and confirms the message. -/
def sampleAttempt : Attempt where
  lookupRejects := false
  now := 9
  randomUuid := "77aa"
  randomUuid_ne := sampleUuid_ne
  bulkNow := 9
  bulkAnswer := .ok { errors := some false, items := none }
  typeError := ""
  hasChannel := true
  channelAnswers := [.published "e1" 9 true, .confirmed]
  queueNow := 9
  tryAnswer := .done
  catchAnswer := .done

/-- That replay. -/
def sampleOutcome : Outcome :=
  retryEntry (fun _ => none) (fun _ => none) {} sampleAttempt [sampleRow] 1

/-- The letter is what a runner stores for the record. -/
theorem quarantined_sampleRow :
    Quarantined (fun _ => none) sampleRecord .rabbitmq sampleRow :=
  .stored [sampleRecord] (RabbitMQSink.resultOf [1] [])
    (RabbitMQSink.resultOf [] [sampleFailure]) sampleFailure 7 1 0
    [sampleRow] (by simp) List.mem_cons_self rfl rfl Nat.one_pos rfl rfl

/-- Its payload is that of a customer. -/
theorem isCustomerPayload_sampleRecord :
    IsCustomerPayload sampleRecord.payload where
  texts := by
    intro name isText
    simp only [List.mem_cons, List.not_mem_nil, or_false] at isText
    rcases isText with rfl | rfl | rfl | rfl
    · exact ⟨"cust_1", rfl⟩
    · exact ⟨"Ada", rfl⟩
    · exact ⟨"Byron", rfl⟩
    · exact ⟨"ada@test.com", rfl⟩
  accountTier := ⟨"PREMIUM", by simp, rfl⟩
  balance := ⟨.ofInt 10, rfl⟩
  metadata := ⟨_, rfl⟩

/-- The replay marks the letter as resolved. -/
theorem resolved_sampleOutcome :
    DLQStore.getEntryById sampleOutcome.queue 1 =
      some (sampleRow.marked 9 .resolved) := rfl

/-- The condition decides about that replay. -/
theorem sampleOutcome_acknowledges_iff :
    sampleOutcome.Acknowledges sampleRecord .rabbitmq ↔
      SurvivesReplay .rabbitmq sampleRecord :=
  resolved_acknowledges_iff quarantined_sampleRow
    isCustomerPayload_sampleRecord rfl (.refl sampleRow) (by decide)
    resolved_sampleOutcome rfl

/-- The second version is replayed as the first, and marked as resolved. -/
theorem replayed_as_first_version :
    Quarantined (fun _ => none) sampleRecord .rabbitmq sampleRow ∧
      IsCustomerPayload sampleRecord.payload ∧
      DLQStore.getEntryById sampleOutcome.queue 1 =
        some (sampleRow.marked 9 .resolved) ∧
      sampleOutcome.publications.map
          (fun publication => publication.message.messageId) =
        ["rec_1_v1".toList] ∧
      ¬ sampleOutcome.Acknowledges sampleRecord .rabbitmq := by
  have sent :
      sampleOutcome.publications.map
          (fun publication => publication.message.messageId) =
        ["rec_1_v1".toList] := by decide
  refine ⟨quarantined_sampleRow, isCustomerPayload_sampleRecord,
    resolved_sampleOutcome, sent, ?_⟩
  rintro ⟨publication, member, carries⟩
  have listed :
      publication.message.messageId ∈
        sampleOutcome.publications.map
          fun publication => publication.message.messageId :=
    List.mem_map_of_mem member
  rw [sent, List.mem_singleton, carries.messageId] at listed
  revert listed
  decide

end DLQReplayer

end Replication
