import Replication.Records

namespace Replication

/-!
# Publishing a batch

`RabbitMQSink.publishBatch` between its channel operations.  What the channel
does is an argument of each step: it accepts a message and has room for more or
not, it drains, it confirms, or the operation throws, also because the channel
reference has become null.  Every result names every record of its batch, and
only records whose message was accepted are reported as successful.
-/

/-- The kinds of events on the exchange. -/
inductive ReplicationEventType where
  | recordBackfilled
  | recordMutated
  | recordDeleted
  deriving DecidableEq, Repr

namespace ReplicationEventType

/-- The kind as it is serialised. -/
def text : ReplicationEventType → String
  | .recordBackfilled => "RECORD_BACKFILLED"
  | .recordMutated => "RECORD_MUTATED"
  | .recordDeleted => "RECORD_DELETED"

/-- The routing key; all but backfills go to `record.mutated`. -/
def routingKey : ReplicationEventType → String
  | .recordBackfilled => "record.backfilled"
  | _ => "record.mutated"

end ReplicationEventType

/-- The body of a message. -/
structure ReplicationEvent where
  eventId : String
  eventType : ReplicationEventType
  timestamp : String
  sourceId : Nat
  sourceUuid : String
  version : Int
  tenantId : Json
  payload : Json
  pipelineId : String
  batchSequence : Nat
  deriving Repr

/-- `JSON.stringify` sees an event as this object. -/
def ReplicationEvent.toJson (event : ReplicationEvent) : Json :=
  .obj [
    ("event_id", .str event.eventId),
    ("event_type", .str event.eventType.text),
    ("timestamp", .str event.timestamp),
    ("source_id", .num (.ofInt event.sourceId)),
    ("source_uuid", .str event.sourceUuid),
    ("version", .num (.ofInt event.version)),
    ("tenant_id", event.tenantId),
    ("payload", event.payload),
    ("metadata", .obj [
      ("pipeline_id", .str event.pipelineId),
      ("batch_sequence", .num (.ofInt event.batchSequence))])]

/-- A message with its publish options. -/
structure Message where
  exchange : String
  routingKey : String
  content : Text
  persistent : Bool
  messageId : Text
  timestamp : Int
  contentType : String
  headers : List (String × Json)
  deriving Repr

/-- The template literal `rec_${id}_v${version}`. -/
def messageIdOf (id : Nat) (version : Int) : Text :=
  "rec_".toList ++ JsNumber.natText id ++ "_v".toList ++
    JsNumber.intText version

namespace RabbitMQSink

/-- Options of the sink. -/
structure Options where
  exchangeName : String := "replication.events"
  pipelineId : String := "pipeline_daemon"
  deriving Repr

/-- The event of a record, with its random id and the current time. -/
def transformRecord
    (options : Options)
    (uuid : String)
    (now : Int)
    (record : SourceRecord)
    (eventType : ReplicationEventType)
    (batchSequence : Nat) : ReplicationEvent where
  eventId := uuid
  eventType
  timestamp := isoString now
  sourceId := record.id
  sourceUuid := record.uuid
  version := record.version
  tenantId := record.tenantId
  payload := record.payload
  pipelineId := options.pipelineId
  batchSequence

/-- The message that is published for the record at that position. -/
def messageOf
    (options : Options)
    (uuid : String)
    (now : Int)
    (record : SourceRecord)
    (eventType : ReplicationEventType)
    (position : Nat) : Message where
  exchange := options.exchangeName
  routingKey := eventType.routingKey
  content :=
    (transformRecord options uuid now record eventType
      (position + 1)).toJson.stringify
  persistent := true
  messageId := messageIdOf record.id record.version
  timestamp := now
  contentType := "application/json"
  headers := [
    ("x-source-id", .num (.ofInt record.id)),
    ("x-version", .num (.ofInt record.version)),
    ("x-tenant-id", record.tenantId)]

/-- The failure of a record that is isolated before it is sent. -/
def corruptedFailure (record : SourceRecord) : SinkFailure where
  recordId := record.id
  errorReason :=
    .str ("Synthetic poison pill detected on source record ID " ++
      toString record.id)
  errorCode := .str "AMQP_PAYLOAD_CORRUPTED"
  rawItem := some record.toJson

/-- The failure of a record whose publication throws. -/
def publishFailure (record : SourceRecord) (message : String) :
    SinkFailure where
  recordId := record.id
  errorReason := .str ("Serialization/publish error: " ++ message)
  errorCode := .str "AMQP_PUBLISH_EXCEPTION"
  rawItem := some record.toJson

/-- The failure of every record in flight when the confirms are rejected. -/
def nackFailure (message : String) (id : Nat) : SinkFailure where
  recordId := id
  errorReason := .str ("Broker NACK on batch confirm: " ++ message)
  errorCode := .str "AMQP_BROKER_NACK"
  rawItem := none

/-- The returned object; its counts are the lengths of its lists. -/
def resultOf
    (successfulIds : List Nat)
    (failures : List SinkFailure) : SinkResult where
  successCount := successfulIds.length
  failedCount := failures.length
  successfulIds
  failures

/-- Local variables of `publishBatch`; `remaining` starts at record `i`. -/
structure Batch where
  position : Nat
  remaining : List SourceRecord
  inFlightIds : List Nat
  failures : List SinkFailure
  deriving Repr

/-- A call of `publishBatch`, suspended at a channel operation or ended. -/
inductive PublishBatch where
  /-- About to build and publish the message of the next record. -/
  | publishing (batch : Batch)
  /-- The write buffer is full: waiting for `drain`. -/
  | draining (batch : Batch)
  /-- Waiting for `waitForConfirms`. -/
  | confirming (batch : Batch)
  | returned (result : SinkResult)
  | threw
  deriving Repr

/-- What the channel does next. -/
inductive Answer where
  /-- The message is accepted; the id and the clock are read for it. -/
  | published (uuid : String) (now : Int) (canContinue : Bool)
  /-- Building or publishing the message throws. -/
  | publishThrew (message : String)
  | drained
  | confirmed
  /-- The confirms are rejected, or the channel reference is null. -/
  | notConfirmed (message : String)
  deriving Repr

/-- The loop head: corrupted records are isolated, and the loop may end. -/
def enterLoop
    (position : Nat)
    (inFlightIds : List Nat)
    (failures : List SinkFailure) : List SourceRecord → PublishBatch
  | [] =>
      if inFlightIds.isEmpty then
        .returned (resultOf [] failures)
      else
        .confirming { position, remaining := [], inFlightIds, failures }
  | record :: rest =>
      if record.isCorrupted then
        enterLoop (position + 1) inFlightIds
          (failures ++ [corruptedFailure record]) rest
      else
        .publishing
          { position, remaining := record :: rest, inFlightIds, failures }

/-- `publishBatch` up to its first channel operation. -/
def publishBatch
    (hasChannel : Bool)
    (records : List SourceRecord) : PublishBatch :=
  if records.isEmpty then
    .returned (resultOf [] [])
  else if hasChannel then
    enterLoop 0 [] [] records
  else
    .threw

/-- One channel operation settles, and the code runs to the next one. -/
def step : PublishBatch → Answer → Option PublishBatch
  | .publishing batch, .published _ _ canContinue =>
      match batch.remaining with
      | [] => none
      | record :: rest =>
          let sent : Batch :=
            { position := batch.position + 1
              remaining := rest
              inFlightIds := batch.inFlightIds ++ [record.id]
              failures := batch.failures }
          if canContinue then
            some (enterLoop sent.position sent.inFlightIds sent.failures rest)
          else
            some (.draining sent)
  | .publishing batch, .publishThrew message =>
      match batch.remaining with
      | [] => none
      | record :: rest =>
          some (enterLoop (batch.position + 1) batch.inFlightIds
            (batch.failures ++ [publishFailure record message]) rest)
  | .draining batch, .drained =>
      some (enterLoop batch.position batch.inFlightIds batch.failures
        batch.remaining)
  | .confirming batch, .confirmed =>
      some (.returned (resultOf batch.inFlightIds batch.failures))
  | .confirming batch, .notConfirmed message =>
      some (.returned (resultOf []
        (batch.failures ++ batch.inFlightIds.map (nackFailure message))))
  | _, _ => none

/-- What a call becomes by an answer that it awaits. -/
inductive Stepped : PublishBatch → Answer → PublishBatch → Prop where
  | flowing
      (position : Nat)
      (record : SourceRecord)
      (rest : List SourceRecord)
      (inFlightIds : List Nat)
      (failures : List SinkFailure)
      (uuid : String)
      (now : Int) :
      Stepped
        (.publishing ⟨position, record :: rest, inFlightIds, failures⟩)
        (.published uuid now true)
        (enterLoop (position + 1) (inFlightIds ++ [record.id]) failures rest)
  | blocked
      (position : Nat)
      (record : SourceRecord)
      (rest : List SourceRecord)
      (inFlightIds : List Nat)
      (failures : List SinkFailure)
      (uuid : String)
      (now : Int) :
      Stepped
        (.publishing ⟨position, record :: rest, inFlightIds, failures⟩)
        (.published uuid now false)
        (.draining
          ⟨position + 1, rest, inFlightIds ++ [record.id], failures⟩)
  | publishThrew
      (position : Nat)
      (record : SourceRecord)
      (rest : List SourceRecord)
      (inFlightIds : List Nat)
      (failures : List SinkFailure)
      (message : String) :
      Stepped
        (.publishing ⟨position, record :: rest, inFlightIds, failures⟩)
        (.publishThrew message)
        (enterLoop (position + 1) inFlightIds
          (failures ++ [publishFailure record message]) rest)
  | drained (batch : Batch) :
      Stepped (.draining batch) .drained
        (enterLoop batch.position batch.inFlightIds batch.failures
          batch.remaining)
  | confirmed (batch : Batch) :
      Stepped (.confirming batch) .confirmed
        (.returned (resultOf batch.inFlightIds batch.failures))
  | notConfirmed (batch : Batch) (message : String) :
      Stepped (.confirming batch) (.notConfirmed message)
        (.returned (resultOf []
          (batch.failures ++ batch.inFlightIds.map (nackFailure message))))

/-- Nothing else is a step. -/
theorem stepped_of_step
    {call next : PublishBatch}
    {answer : Answer}
    (taken : step call answer = some next) :
    Stepped call answer next := by
  unfold step at taken
  split at taken
  case h_1 batch uuid now canContinue =>
    obtain ⟨position, remaining, inFlightIds, failures⟩ := batch
    cases remaining with
    | nil => cases taken
    | cons record rest =>
        cases canContinue with
        | true =>
            cases taken
            exact .flowing ..
        | false =>
            cases taken
            exact .blocked ..
  case h_2 batch message =>
    obtain ⟨position, remaining, inFlightIds, failures⟩ := batch
    cases remaining with
    | nil => cases taken
    | cons record rest =>
        cases taken
        exact .publishThrew ..
  case h_3 batch =>
    cases taken
    exact .drained batch
  case h_4 batch =>
    cases taken
    exact .confirmed batch
  case h_5 batch message =>
    cases taken
    exact .notConfirmed batch message
  case h_6 => cases taken

/-- The message that the step puts on the channel. -/
def sent
    (options : Options)
    (eventType : ReplicationEventType) :
    PublishBatch → Answer → Option Message
  | .publishing batch, .published uuid now _ =>
      batch.remaining.head?.map fun record =>
        messageOf options uuid now record eventType batch.position
  | _, _ => none

section Accounting

variable {records : List SourceRecord}

/-- Every record is still to be sent, in flight, or has failed. -/
def Batch.Accounts
    (batch : Batch)
    (records : List SourceRecord) : Prop :=
  ∀ record ∈ records,
    record ∈ batch.remaining ∨ record.id ∈ batch.inFlightIds ∨
      record.id ∈ batch.failures.map SinkFailure.recordId

/-- No record of the batch is unaccounted for. -/
def PublishBatch.Accounts
    (records : List SourceRecord) : PublishBatch → Prop
  | .publishing batch => batch.Accounts records
  | .draining batch => batch.Accounts records
  | .confirming batch => batch.Accounts records ∧ batch.remaining = []
  | .returned result => result.Names records
  | .threw => True

/-- The next record, once published, is in flight. -/
theorem Batch.Accounts.publish
    {position : Nat}
    {record : SourceRecord}
    {rest : List SourceRecord}
    {inFlightIds : List Nat}
    {failures : List SinkFailure}
    (accounts :
      (⟨position, record :: rest, inFlightIds, failures⟩ : Batch).Accounts
        records) :
    (⟨position + 1, rest, inFlightIds ++ [record.id], failures⟩ :
      Batch).Accounts records := by
  intro other member
  rcases accounts other member with later | flying | failed
  · rcases List.mem_cons.mp later with rfl | inRest
    · exact .inr (.inl (by simp))
    · exact .inl inRest
  · exact .inr (.inl (List.mem_append_left _ flying))
  · exact .inr (.inr failed)

/-- The next record has failed. -/
theorem Batch.Accounts.fail
    {position : Nat}
    {record : SourceRecord}
    {rest : List SourceRecord}
    {inFlightIds : List Nat}
    {failures : List SinkFailure}
    {failure : SinkFailure}
    (accounts :
      (⟨position, record :: rest, inFlightIds, failures⟩ : Batch).Accounts
        records)
    (named : failure.recordId = record.id) :
    (⟨position + 1, rest, inFlightIds, failures ++ [failure]⟩ :
      Batch).Accounts records := by
  intro other member
  rcases accounts other member with later | flying | failed
  · rcases List.mem_cons.mp later with rfl | inRest
    · exact .inr (.inr (by simp [named]))
    · exact .inl inRest
  · exact .inr (.inl flying)
  · refine .inr (.inr ?_)
    rw [List.map_append]
    exact List.mem_append_left _ failed

/-- The loop head keeps the account. -/
theorem accounts_enterLoop
    {batch : Batch}
    (accounts : batch.Accounts records) :
    (enterLoop batch.position batch.inFlightIds batch.failures
      batch.remaining).Accounts records := by
  obtain ⟨position, remaining, inFlightIds, failures⟩ := batch
  induction remaining generalizing position failures with
  | nil =>
      simp only [enterLoop]
      split
      · rename_i none
        intro record member
        have noFlight := List.isEmpty_iff.mp none
        rcases accounts record member with later | flying | failed
        · cases later
        · simp [noFlight] at flying
        · exact .inr failed
      · exact ⟨accounts, rfl⟩
  | cons record rest inductionHypothesis =>
      simp only [enterLoop]
      split
      · exact inductionHypothesis _ _ (accounts.fail rfl)
      · exact accounts

/-- A call starts with every record accounted for. -/
theorem accounts_publishBatch (hasChannel : Bool) :
    (publishBatch hasChannel records).Accounts records := by
  unfold publishBatch
  split
  · rename_i none
    simp [PublishBatch.Accounts, SinkResult.Names,
      List.isEmpty_iff.mp none]
  · split
    · exact @accounts_enterLoop records ⟨0, records, [], []⟩
        fun record member => .inl member
    · trivial

/-- Every step keeps the account. -/
theorem accounts_step
    {call next : PublishBatch}
    {answer : Answer}
    (accounts : call.Accounts records)
    (taken : step call answer = some next) :
    next.Accounts records := by
  cases stepped_of_step taken with
  | flowing => exact accounts_enterLoop (Batch.Accounts.publish accounts)
  | blocked => exact Batch.Accounts.publish accounts
  | publishThrew =>
      exact accounts_enterLoop (Batch.Accounts.fail accounts rfl)
  | drained batch => exact accounts_enterLoop accounts
  | confirmed batch =>
      obtain ⟨accounts, ended⟩ := accounts
      intro record member
      rcases accounts record member with later | flying | failed
      · rw [ended] at later
        cases later
      · exact .inl flying
      · exact .inr failed
  | notConfirmed batch message =>
      obtain ⟨accounts, ended⟩ := accounts
      intro record member
      refine .inr ?_
      simp only [SinkResult.failedIds, resultOf, List.map_append,
        List.map_map, List.mem_append]
      rcases accounts record member with later | flying | failed
      · rw [ended] at later
        cases later
      · exact .inr (List.mem_map.mpr ⟨record.id, flying, rfl⟩)
      · exact .inl failed

end Accounting

end RabbitMQSink

end Replication
