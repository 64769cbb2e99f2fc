import Replication.DLQQueue
import Replication.BulkResponse
import Replication.RabbitMQSink

namespace Replication

/-!
# One replay

`DLQReplayer.retryEntry` from its lookup to the last update of the queue.  What
it meets outside is an argument: the clocks, the random ids, what the sinks
answer, and whether the queries of the queue reject.  A rejected update may have
taken effect.
-/

namespace RabbitMQSink

/-- A published message together with the event it serialises. -/
structure Publication where
  message : Message
  event : ReplicationEvent
  serialises : message.content = event.toJson.stringify

/-- What is published for the record at that position. -/
def publicationOf
    (options : Options)
    (uuid : String)
    (now : Int)
    (record : SourceRecord)
    (eventType : ReplicationEventType)
    (position : Nat) : Publication where
  message := messageOf options uuid now record eventType position
  event := transformRecord options uuid now record eventType (position + 1)
  serialises := rfl

/-- What one step publishes. -/
def published
    (options : Options)
    (eventType : ReplicationEventType) :
    PublishBatch → Answer → Option Publication
  | .publishing batch, .published uuid now _ =>
      batch.remaining.head?.map fun record =>
        publicationOf options uuid now record eventType batch.position
  | _, _ => none

/-- The step puts the message of its publication on the channel. -/
theorem published_message
    (options : Options)
    (eventType : ReplicationEventType)
    (call : PublishBatch)
    (answer : Answer) :
    (published options eventType call answer).map Publication.message =
      sent options eventType call answer := by
  cases call with
  | publishing batch =>
      cases answer with
      | published uuid now canContinue =>
          simp only [published, sent, Option.map_map]
          rfl
      | _ => rfl
  | _ => rfl

/--
A call under the answers of its channel, in turn: what it has published, and
where it stands.  An answer that it does not await is dropped.
-/
def publishAll
    (options : Options)
    (eventType : ReplicationEventType) :
    PublishBatch → List Answer → List Publication × PublishBatch
  | call, [] => ([], call)
  | call, answer :: later =>
      match step call answer with
      | some next =>
          let rest := publishAll options eventType next later
          ((published options eventType call answer).toList ++ rest.1, rest.2)
      | none => publishAll options eventType call later

end RabbitMQSink

namespace DLQReplayer

open RabbitMQSink (Publication)

/-- How an awaited dispatch of one record ends. -/
inductive Dispatch (Write : Type) where
  | returned (writes : List Write) (result : SinkResult)
  | threw (message : String)
  | pending

namespace Dispatch

variable {Write : Type}

/-- The dispatch to a sink that is not a target. -/
def skipped : Dispatch Write :=
  .returned []
    { successCount := 0
      failedCount := 0
      successfulIds := []
      failures := [] }

/-- The writes, if the sink reports the record as successful. -/
def acknowledged (record : SourceRecord) : Dispatch Write → List Write
  | .returned writes result =>
      if record.id ∈ result.successfulIds then writes else []
  | _ => []

end Dispatch

/-- How an `UPDATE` of the queue ends. -/
inductive UpdateAnswer where
  | done
  | rejected (applied : Bool) (message : String)
  deriving DecidableEq, Repr

/-- The queue after the update. -/
def UpdateAnswer.apply
    (update : List DLQEntry → List DLQEntry)
    (queue : List DLQEntry) : UpdateAnswer → List DLQEntry
  | .done => update queue
  | .rejected true _ => update queue
  | .rejected false _ => queue

/-- What one call of `retryEntry` meets outside. -/
structure Attempt where
  /-- `getEntryById` rejects. -/
  lookupRejects : Bool
  /-- `new Date()` -/
  now : Int
  /-- `crypto.randomUUID()` -/
  randomUuid : String
  randomUuid_ne : randomUuid ≠ ""
  /-- The clock that the Elasticsearch sink reads. -/
  bulkNow : Int
  bulkAnswer : Except String BulkResponse
  /-- The message of a `TypeError` inside the Elasticsearch sink. -/
  typeError : String
  hasChannel : Bool
  channelAnswers : List RabbitMQSink.Answer
  /-- `NOW()` of the updates. -/
  queueNow : Int
  /-- The update inside the `try` block. -/
  tryAnswer : UpdateAnswer
  /-- The update inside the `catch` block. -/
  catchAnswer : UpdateAnswer

/-- A UUID is not empty. -/
theorem sampleUuid_ne : "77aa" ≠ "" := by
  decide

/-- What `retryEntry` resolves to. -/
structure DLQRetryResult where
  success : Bool
  error : Option Json
  deriving DecidableEq, Repr

/-- How a call of `retryEntry` ends. -/
inductive Settled where
  | returned (result : DLQRetryResult)
  | threw
  | pending
  deriving DecidableEq, Repr

/-- Where the dispatches of the `try` block lead. -/
inductive Verdict where
  | confirmed
  | failed (failureReason : Json)
  | threw (message : String)
  | pending
  deriving DecidableEq, Repr

/-- `failures.length > 0`, with the reason of the first failure. -/
def verdictOf {Write : Type} : Dispatch Write → Verdict
  | .returned _ result =>
      match result.failures with
      | [] => .confirmed
      | failure :: _ => .failed failure.errorReason
  | .threw message => .threw message
  | .pending => .pending

/-- A call of `retryEntry` that has ended, with the acknowledged writes. -/
structure Outcome where
  queue : List DLQEntry
  settled : Settled
  items : List UpdateItem
  publications : List Publication

/-- Nothing was sent and nothing was changed. -/
def untouched (queue : List DLQEntry) (settled : Settled) : Outcome where
  queue
  settled
  items := []
  publications := []

/-- `elasticsearchSink.bulkUpsert([record])`. -/
def dispatchElasticsearch
    (number : Text → Option JsNumber)
    (attempt : Attempt)
    (record : SourceRecord) : Dispatch UpdateItem :=
  match ElasticsearchSink.bulkUpsert attempt.bulkNow [record] with
  | none => .threw attempt.typeError
  | some items =>
      match attempt.bulkAnswer with
      | .error message => .threw message
      | .ok response =>
          match
            ElasticsearchSink.parseBulkResponse number [record] response with
          | none => .threw attempt.typeError
          | some result => .returned items result

/-- `rabbitmqSink.publishBatch([record], 'RECORD_MUTATED')`. -/
def dispatchRabbitMQ
    (options : RabbitMQSink.Options)
    (attempt : Attempt)
    (record : SourceRecord) : Dispatch Publication :=
  let ended :=
    RabbitMQSink.publishAll options .recordMutated
      (RabbitMQSink.publishBatch attempt.hasChannel [record])
      attempt.channelAnswers
  match ended.2 with
  | .returned result => .returned ended.1 result
  | .threw =>
      .threw
        "Cannot publish batch: RabbitMQ ConfirmChannel is not connected."
  | _ => .pending

section Retry

variable
  (parse : String → Option Json)
  (number : Text → Option JsNumber)
  (options : RabbitMQSink.Options)
  (attempt : Attempt)

/-- The dispatch to Elasticsearch, if it is a target. -/
def replayElasticsearch
    (entry : DLQEntry)
    (record : SourceRecord) : Dispatch UpdateItem :=
  if entry.sinkTarget = .elasticsearch ∨ entry.sinkTarget = .all then
    dispatchElasticsearch number attempt record
  else
    .skipped

/-- The dispatch to RabbitMQ, if it is a target. -/
def replayRabbitMQ
    (entry : DLQEntry)
    (record : SourceRecord) : Dispatch Publication :=
  if entry.sinkTarget = .rabbitmq ∨ entry.sinkTarget = .all then
    dispatchRabbitMQ options attempt record
  else
    .skipped

/-- Both dispatches; RabbitMQ is tried when Elasticsearch did not fail. -/
def replayVerdict
    (entry : DLQEntry)
    (record : SourceRecord) : Verdict :=
  match verdictOf (replayElasticsearch number attempt entry record) with
  | .confirmed => verdictOf (replayRabbitMQ options attempt entry record)
  | verdict => verdict

/-- What RabbitMQ acknowledged, if it was tried. -/
def replayPublications
    (entry : DLQEntry)
    (record : SourceRecord) : List Publication :=
  match verdictOf (replayElasticsearch number attempt entry record) with
  | .confirmed =>
      (replayRabbitMQ options attempt entry record).acknowledged record
  | _ => []

/-- The `catch` block. -/
def handleError
    (dlqId : Nat)
    (queue : List DLQEntry)
    (errorMsg : String) : List DLQEntry × Settled :=
  (attempt.catchAnswer.apply
      (DLQStore.recordRetryFailure attempt.queueNow dlqId) queue,
    match attempt.catchAnswer with
    | .done => .returned { success := false, error := some (.str errorMsg) }
    | .rejected _ _ => .threw)

/-- What follows the dispatches. -/
def settle
    (dlqId : Nat)
    (queue : List DLQEntry) : Verdict → List DLQEntry × Settled
  | .confirmed =>
      let updated :=
        attempt.tryAnswer.apply
          (DLQStore.markStatus attempt.queueNow dlqId .resolved) queue
      match attempt.tryAnswer with
      | .done => (updated, .returned { success := true, error := none })
      | .rejected _ message => handleError attempt dlqId updated message
  | .failed failureReason =>
      let updated :=
        attempt.tryAnswer.apply
          (DLQStore.recordRetryFailure attempt.queueNow dlqId) queue
      match attempt.tryAnswer with
      | .done =>
          (updated, .returned { success := false, error := failureReason })
      | .rejected _ message => handleError attempt dlqId updated message
  | .threw message => handleError attempt dlqId queue message
  | .pending => (queue, .pending)

/-- The `try` statement, for a rebuilt record. -/
def replayRecord
    (queue : List DLQEntry)
    (dlqId : Nat)
    (entry : DLQEntry)
    (record : SourceRecord) : Outcome :=
  let ended :=
    settle attempt dlqId queue
      (replayVerdict number options attempt entry record)
  { queue := ended.1
    settled := ended.2
    items :=
      (replayElasticsearch number attempt entry record).acknowledged record
    publications :=
      replayPublications number options attempt entry record }

/-- `retryEntry`. -/
def retryEntry
    (queue : List DLQEntry)
    (dlqId : Nat) : Outcome :=
  if attempt.lookupRejects then
    untouched queue .threw
  else
    match DLQStore.getEntryById queue dlqId with
    | none =>
        untouched queue
          (.returned
            { success := false
              error := Json.str ("DLQ entry " ++ toString dlqId ++ " not found") })
    | some entry =>
        if entry.status = .resolved then
          untouched queue (.returned { success := true, error := none })
        else
          match
            reconstruct parse number attempt.now attempt.randomUuid entry with
          | none => untouched queue .threw
          | some record =>
              replayRecord number options attempt queue dlqId entry record

end Retry

/-!
## What a replay does to the queue

Only the bookkeeping columns of the row that is retried change, and its status
changes only if the sinks confirmed the rebuilt record.
-/

/-- One row may have been changed, each of its changes being allowed. -/
def Touched
    (allowed : DLQEntry → DLQEntry → Prop)
    (dlqId : Nat)
    (before after : List DLQEntry) : Prop :=
  ∃ change : DLQEntry → DLQEntry,
    (∀ row, (change row).SameLetter row ∧ allowed (change row) row) ∧
      after = DLQStore.updateEntry dlqId change before

/-- The status is the one from before. -/
def SameStatus (after before : DLQEntry) : Prop :=
  after.status = before.status

/-- No restriction beyond the letter. -/
def AnyBookkeeping (_ _ : DLQEntry) : Prop := True

section Touched

variable
  {allowed : DLQEntry → DLQEntry → Prop}
  {dlqId : Nat}
  {before middle after : List DLQEntry}

/-- An untouched queue. -/
theorem Touched.refl
    (keeps : ∀ row, allowed row row) :
    Touched allowed dlqId before before :=
  ⟨fun row => row, fun row => ⟨.refl row, keeps row⟩,
    DLQStore.updateEntry_id.symm⟩

/-- Changes of one row add up. -/
theorem Touched.trans
    (composes : ∀ a b c, allowed a b → allowed b c → allowed a c)
    (first : Touched allowed dlqId before middle)
    (second : Touched allowed dlqId middle after) :
    Touched allowed dlqId before after := by
  obtain ⟨change, changes, rfl⟩ := first
  obtain ⟨later, laterChanges, rfl⟩ := second
  refine ⟨fun row => later (change row), fun row => ⟨?_, ?_⟩, ?_⟩
  · exact (laterChanges _).1.trans (changes row).1
  · exact composes _ _ _ (laterChanges _).2 (changes row).2
  · exact DLQStore.updateEntry_updateEntry fun row => (changes row).1.id

/-- An `UPDATE` of the row, whether it takes effect or not. -/
theorem Touched.apply
    {change : DLQEntry → DLQEntry}
    (keeps : ∀ row, allowed row row)
    (changes : ∀ row, (change row).SameLetter row ∧ allowed (change row) row)
    (answer : UpdateAnswer) :
    Touched allowed dlqId before
      (answer.apply (DLQStore.updateEntry dlqId change) before) := by
  cases answer with
  | done => exact ⟨change, changes, rfl⟩
  | rejected applied message =>
      cases applied with
      | true => exact ⟨change, changes, rfl⟩
      | false => exact .refl keeps

/-- The row itself after the change. -/
theorem Touched.getEntryById
    {row : DLQEntry}
    (touched : Touched allowed dlqId before after)
    (found : DLQStore.getEntryById before dlqId = some row) :
    ∃ later,
      DLQStore.getEntryById after dlqId = some later ∧
        later.SameLetter row ∧ allowed later row := by
  obtain ⟨change, changes, rfl⟩ := touched
  exact ⟨change row,
    DLQStore.getEntryById_updateEntry_self (fun row => (changes row).1.id)
      found,
    changes row⟩

end Touched

section Queue

variable
  {parse : String → Option Json}
  {number : Text → Option JsNumber}
  {options : RabbitMQSink.Options}
  {attempt : Attempt}
  {queue : List DLQEntry}
  {dlqId : Nat}

/-- Counting a failed retry keeps the status. -/
theorem touched_recordRetryFailure (now : Int) (answer : UpdateAnswer) :
    Touched SameStatus dlqId queue
      (answer.apply (DLQStore.recordRetryFailure now dlqId) queue) := by
  apply Touched.apply
  · intro row
    rfl
  · intro row
    exact ⟨.failedRetry now row, rfl⟩

/-- The `catch` block keeps the status. -/
theorem touched_handleError (errorMsg : String) :
    Touched SameStatus dlqId queue
      (handleError attempt dlqId queue errorMsg).1 :=
  touched_recordRetryFailure _ _

/-- Without a confirmation the status is kept. -/
theorem touched_settle_of_ne
    {verdict : Verdict}
    (unconfirmed : verdict ≠ .confirmed) :
    Touched SameStatus dlqId queue
      (settle attempt dlqId queue verdict).1 := by
  cases verdict with
  | confirmed => exact absurd rfl unconfirmed
  | failed failureReason =>
      simp only [settle]
      split
      · exact touched_recordRetryFailure _ _
      · exact (touched_recordRetryFailure _ _).trans
          (fun _ _ _ first second => Eq.trans first second)
          (touched_handleError _)
  | threw message => exact touched_handleError message
  | pending => exact .refl fun _ => rfl

/-- Whatever the verdict, only bookkeeping changes. -/
theorem touched_settle (verdict : Verdict) :
    Touched AnyBookkeeping dlqId queue
      (settle attempt dlqId queue verdict).1 := by
  have weaken :
      ∀ {before after : List DLQEntry},
        Touched SameStatus dlqId before after →
          Touched AnyBookkeeping dlqId before after := by
    rintro before after ⟨change, changes, rfl⟩
    exact ⟨change, fun row => ⟨(changes row).1, trivial⟩, rfl⟩
  by_cases confirmed : verdict = .confirmed
  · subst confirmed
    have resolved :
        Touched AnyBookkeeping dlqId queue
          (attempt.tryAnswer.apply
            (DLQStore.markStatus attempt.queueNow dlqId .resolved) queue) :=
      .apply (fun _ => trivial)
        (fun row => ⟨.marked attempt.queueNow .resolved row, trivial⟩) _
    simp only [settle]
    split
    · exact resolved
    · exact resolved.trans (fun _ _ _ _ _ => trivial)
        (weaken (touched_handleError _))
  · exact weaken (touched_settle_of_ne confirmed)

/-- A replay changes the bookkeeping of its own row at most. -/
theorem touched_retryEntry :
    Touched AnyBookkeeping dlqId queue
      (retryEntry parse number options attempt queue dlqId).queue := by
  have unchanged : Touched AnyBookkeeping dlqId queue queue :=
    .refl fun _ => trivial
  unfold retryEntry
  split
  · exact unchanged
  · split
    · exact unchanged
    · split
      · exact unchanged
      · split
        · exact unchanged
        · exact touched_settle _

/-- An unresolved entry that is found and rebuilt is replayed. -/
theorem retryEntry_of_reconstruct
    {entry : DLQEntry}
    {record : SourceRecord}
    (looksUp : attempt.lookupRejects = false)
    (found : DLQStore.getEntryById queue dlqId = some entry)
    (unresolved : entry.status ≠ .resolved)
    (rebuilt :
      reconstruct parse number attempt.now attempt.randomUuid entry =
        some record) :
    retryEntry parse number options attempt queue dlqId =
      replayRecord number options attempt queue dlqId entry record := by
  unfold retryEntry
  rw [if_neg (by simp [looksUp]), found]
  simp only [if_neg unresolved, rebuilt]

/--
A replay that marks its row has rebuilt a record, and the sinks confirmed it.
-/
theorem confirmed_of_resolved
    {entry later : DLQEntry}
    (found : DLQStore.getEntryById queue dlqId = some entry)
    (unresolved : entry.status ≠ .resolved)
    (foundLater :
      DLQStore.getEntryById
          (retryEntry parse number options attempt queue dlqId).queue dlqId =
        some later)
    (resolved : later.status = .resolved) :
    ∃ record,
      reconstruct parse number attempt.now attempt.randomUuid entry =
          some record ∧
        replayVerdict number options attempt entry record = .confirmed ∧
          retryEntry parse number options attempt queue dlqId =
            replayRecord number options attempt queue dlqId entry record := by
  have kept :
      ∀ {settled : Settled},
        DLQStore.getEntryById (untouched queue settled).queue dlqId ≠
          some later := by
    intro settled same
    rw [untouched, found] at same
    cases same
    exact unresolved resolved
  unfold retryEntry at foundLater ⊢
  rw [found] at foundLater ⊢
  simp only [if_neg unresolved] at foundLater ⊢
  split at foundLater
  · exact absurd foundLater kept
  · rename_i proceeds
    rw [if_neg proceeds]
    split at foundLater
    · exact absurd foundLater kept
    · rename_i record rebuilt
      refine ⟨record, rebuilt, ?_, ?_⟩
      · by_contra unconfirmed
        obtain ⟨row, foundRow, _, sameStatus⟩ :=
          (touched_settle_of_ne unconfirmed).getEntryById found
        rw [replayRecord, foundRow] at foundLater
        cases foundLater
        exact unresolved (sameStatus.symm.trans resolved)
      · rfl

end Queue

end DLQReplayer

end Replication
