import Replication.EventConsumer
import Replication.JsonSearch
import Replication.Run
import Mathlib

namespace Replication.PublishedEvents

open EventConsumer RabbitMQSink

/-!
# What the consumer makes of a published event

`publishBatch` isolates a record by its column `is_corrupted`, which is no part
of the event it publishes.  The consumer looks for that name in the serialised
text instead.  It finds nothing in string contents, since their quotes are
escaped, but it finds every field of the payload of that name whose value is
`true`, however deep.
-/

/-- The name the consumer looks for. -/
def markedName : Text :=
  ['i', 's', '_', 'c', 'o', 'r', 'r', 'u', 'p', 't', 'e', 'd']

/--
Some field of the value, at any depth, is `true` and has the name
`is_corrupted`, or one that ends in it after a quote.
-/
def carriesMark (value : Json) : Bool :=
  value.anyMember fun name value =>
    Json.looksLike markedName name && Json.isTrue value

/-- The payload carries the mark, or a tenant that is no text does. -/
def recordMarked (record : SourceRecord) : Bool :=
  carriesMark record.tenantId || carriesMark record.payload

/-- The name has no characters that JSON escapes. -/
theorem plainName : Json.PlainName markedName :=
  ⟨by simp [markedName, Json.escapeChar], by simp [markedName]⟩

/-- The consumer marks serialised JSON by its members. -/
theorem marksCorrupted_stringify (value : Json) :
    marksCorrupted value.stringify = carriesMark value := by
  have compact := Json.includes_member plainName value
  have spaced := Json.not_includes_spaced plainName value
  have first :
      "\"is_corrupted\":true".toList =
        Json.memberPattern markedName "true".toList := by
    simp [Json.memberPattern, markedName]
  have second :
      "\"is_corrupted\": true".toList =
        Json.memberPattern markedName " true".toList := by
    simp [Json.memberPattern, markedName]
  rw [marksCorrupted, first, second, compact, spaced, Bool.or_false,
    carriesMark]

/-- Only the tenant and the payload of an event can carry the mark. -/
theorem carriesMark_event (event : ReplicationEvent) :
    carriesMark event.toJson =
      (carriesMark event.tenantId || carriesMark event.payload) := by
  have notPayload : Json.looksLike markedName "payload" = false := by
    decide +kernel
  have notTenant : Json.looksLike markedName "tenant_id" = false := by
    decide +kernel
  simp only [carriesMark, ReplicationEvent.toJson, Json.anyMember,
    Json.anyField, Json.isTrue, notPayload, notTenant, Bool.and_false,
    Bool.false_and, Bool.or_false, Bool.false_or]

/-- An event with an id is read unless it carries the mark. -/
theorem readEvent_event
    {parse : String → Option Json}
    {event : ReplicationEvent}
    (identified : event.eventId ≠ "")
    (parses :
      parse (String.ofList event.toJson.stringify) = some event.toJson) :
    readEvent parse event.toJson.stringify =
      if carriesMark event.tenantId || carriesMark event.payload then
        none
      else
        some event.toJson := by
  have hasId :
      ((event.toJson.field "event_id").map Json.truthy).getD false =
        true := by
    simp [ReplicationEvent.toJson, Json.field, Json.truthy, identified]
  rw [readEvent, marksCorrupted_stringify, carriesMark_event, parses,
    Option.filter_some, hasId, if_pos rfl]

/-- A delivery to a consumer with an empty store is acked and processed. -/
def ProcessedAsUnique
    (parse : String → Option Json)
    (capacity : Nat)
    (now : Int)
    (message : Message) : Prop :=
  let handled :=
    handleMessage parse now message.content (some message.messageId)
      (.create capacity)
  handled.2.1 = some .ack ∧ handled.2.2.isSome ∧
    handled.1.metrics.uniqueProcessed = 1 ∧
    handled.1.metrics.deadLettered = 0

instance
    (parse : String → Option Json)
    (capacity : Nat)
    (now : Int)
    (message : Message) :
    Decidable (ProcessedAsUnique parse capacity now message) :=
  inferInstanceAs (Decidable (_ ∧ _ ∧ _ ∧ _))

section Agreement

variable
  {parse : String → Option Json}
  {options : Options}
  {eventType : ReplicationEventType}
  {records : List SourceRecord}
  {record : SourceRecord}
  {uuid : String}
  {now received : Int}
  {capacity : Nat}

/-- Every call about to publish has skipped the corrupted records. -/
def NextValid (records : List SourceRecord) : PublishBatch → Prop
  | .publishing batch =>
      batch.remaining ⊆ records ∧
        ∀ record ∈ batch.remaining.head?, record.isCorrupted = false
  | .draining batch => batch.remaining ⊆ records
  | _ => True

/-- The loop head skips them. -/
theorem nextValid_enterLoop
    {position : Nat}
    {inFlightIds : List Nat}
    {failures : List SinkFailure}
    {remaining : List SourceRecord}
    (inBatch : remaining ⊆ records) :
    NextValid records
      (enterLoop position inFlightIds failures remaining) := by
  induction remaining generalizing position failures with
  | nil =>
      unfold enterLoop
      split <;> trivial
  | cons record rest inductionHypothesis =>
      unfold enterLoop
      split
      · exact inductionHypothesis
          (List.Subset.trans (List.subset_cons_self _ _) inBatch)
      · rename_i uncorrupted
        refine ⟨inBatch, ?_⟩
        rintro next ⟨⟩
        exact Bool.eq_false_of_not_eq_true uncorrupted

/-- So does every step. -/
theorem nextValid_step
    {call next : PublishBatch}
    {answer : Answer}
    (valid : NextValid records call)
    (taken : RabbitMQSink.step call answer = some next) :
    NextValid records next := by
  cases stepped_of_step taken with
  | flowing position record rest =>
      exact nextValid_enterLoop
        (List.Subset.trans (List.subset_cons_self record rest) valid.1)
  | blocked position record rest =>
      exact List.Subset.trans (List.subset_cons_self record rest) valid.1
  | publishThrew position record rest =>
      exact nextValid_enterLoop
        (List.Subset.trans (List.subset_cons_self record rest) valid.1)
  | drained batch => exact nextValid_enterLoop valid
  | confirmed => trivial
  | notConfirmed => trivial

/-- And so does a whole call. -/
theorem NextValid.of_run
    {hasChannel : Bool}
    {answers : List Answer}
    {call : PublishBatch}
    (run :
      Run RabbitMQSink.step (fun _ _ => True)
        (publishBatch hasChannel records) answers call) :
    NextValid records call := by
  refine run.invariant (NextValid records)
    (fun valid _ taken => nextValid_step valid taken) ?_
  unfold publishBatch
  split
  · trivial
  · split
    · exact nextValid_enterLoop (List.Subset.refl _)
    · trivial

/-- A message is processed as unique unless its record carries the mark. -/
theorem processedAsUnique_iff
    {position : Nat}
    (identified : uuid ≠ "")
    (parses :
      let event :=
        transformRecord options uuid now record eventType (position + 1)
      parse (String.ofList event.toJson.stringify) = some event.toJson) :
    ProcessedAsUnique parse capacity received
        (messageOf options uuid now record eventType position) ↔
      recordMarked record = false := by
  have read := readEvent_event identified parses
  cases marked : recordMarked record with
  | true =>
      have unread :
          readEvent parse
              (messageOf options uuid now record eventType
                position).content =
            none :=
        read.trans (if_pos marked)
      simp [ProcessedAsUnique, handleMessage, unread]
  | false =>
      have isRead :
          readEvent parse
              (messageOf options uuid now record eventType
                position).content =
            some (transformRecord options uuid now record eventType
              (position + 1)).toJson :=
        read.trans (if_neg (Bool.eq_false_iff.mp marked))
      simp only [ProcessedAsUnique, handleMessage, isRead]
      simp [keyOf, messageOf, messageIdOf, EventConsumer.create,
        DeduplicationStore.create, DeduplicationStore.isDuplicate]

/--
Whenever `publishBatch` publishes a record, the record is an uncorrupted one of
its batch, and a consumer with an empty store processes the message as unique if
and only if no field of the payload, or of a tenant that is no text, carries the
mark.
-/
theorem published_unique_iff
    {hasChannel canContinue : Bool}
    {answers : List Answer}
    {batch : Batch}
    {message : Message}
    (run :
      Run RabbitMQSink.step (fun _ _ => True)
        (publishBatch hasChannel records) answers (.publishing batch))
    (isNext : batch.remaining.head? = some record)
    (isSent :
      sent options eventType (.publishing batch)
        (.published uuid now canContinue) = some message)
    (identified : uuid ≠ "")
    (parses :
      parse (String.ofList message.content) =
        some
          (transformRecord options uuid now record eventType
            (batch.position + 1)).toJson) :
    record ∈ records ∧ record.isCorrupted = false ∧
      (ProcessedAsUnique parse capacity received message ↔
        recordMarked record = false) := by
  have valid := NextValid.of_run run
  rw [sent, isNext] at isSent
  cases isSent
  exact ⟨valid.1 (List.mem_of_mem_head? isNext),
    valid.2 record isNext, processedAsUnique_iff identified parses⟩

end Agreement

/-- A record in version 1 that is not corrupted. -/
def sampleRecord (payload : Json) : SourceRecord where
  id := 1
  uuid := ""
  tenantId := .str ""
  payload
  version := 1
  status := "ACTIVE"
  isCorrupted := false
  createdAt := 0
  updatedAt := 0

/-- The event of that record. -/
def sampleEvent (payload : Json) : ReplicationEvent :=
  transformRecord {} "e" 0 (sampleRecord payload) .recordBackfilled 1

/-- Its message, and the call that publishes it. -/
def sampleMessage (payload : Json) : Message :=
  messageOf {} "e" 0 (sampleRecord payload) .recordBackfilled 0

/-- A payload whose metadata have a field of that name. -/
def markedPayload : Json :=
  .obj [("metadata", .obj [("is_corrupted", .bool true)])]

/-- A payload with the text of the mark inside a string. -/
def quotedPayload : Json :=
  .obj [("first_name", .str "\"is_corrupted\":true")]

/-- A record that is not corrupted is published and dead-lettered. -/
theorem marked_payload_dead_lettered :
    (sampleRecord markedPayload).isCorrupted = false ∧
      sent {} .recordBackfilled
          (publishBatch true [sampleRecord markedPayload])
          (.published "e" 0 true) = some (sampleMessage markedPayload) ∧
      ¬ ProcessedAsUnique
          (fun _ => some (sampleEvent markedPayload).toJson) 3 0
          (sampleMessage markedPayload) ∧
      (handleMessage (fun _ => some (sampleEvent markedPayload).toJson) 0
          (sampleMessage markedPayload).content
          (some (sampleMessage markedPayload).messageId)
          (.create 3)).2.1 = some .nack :=
  ⟨rfl, rfl, by decide +kernel, by decide +kernel⟩

/-- A string that contains the text of the mark does no harm. -/
theorem published_unique_iff_sample :
    ProcessedAsUnique (fun _ => some (sampleEvent quotedPayload).toJson) 3 0
      (sampleMessage quotedPayload) := by
  have run :
      Run RabbitMQSink.step (fun _ _ => True)
        (publishBatch true [sampleRecord quotedPayload]) []
        (.publishing ⟨0, [sampleRecord quotedPayload], [], []⟩) :=
    .nil _
  have agrees :=
    @published_unique_iff (fun _ => some (sampleEvent quotedPayload).toJson)
      {} .recordBackfilled [sampleRecord quotedPayload]
      (sampleRecord quotedPayload) "e" 0 0 3 true true []
      ⟨0, [sampleRecord quotedPayload], [], []⟩
      (sampleMessage quotedPayload) run rfl rfl (by decide) rfl
  exact agrees.2.2.mpr (by decide +kernel)

end Replication.PublishedEvents
