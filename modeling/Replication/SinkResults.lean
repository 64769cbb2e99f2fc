import Replication.BulkResponse
import Replication.PublishedEvents

namespace Replication

/-!
# Sink results partition the batch

What `parseBulkResponse` and `publishBatch` return lists the id of every record
of the batch once, as successful or as failed.  In `publishBatch` an id is to be
published, in flight or failed, and each step moves it from one list to another;
corrupted records never get in flight.
-/

namespace SinkResult

/-- All ids that a result lists. -/
def listedIds (result : SinkResult) : List Nat :=
  result.successfulIds ++ result.failedIds

/-- Every id of the batch is listed once, and the counts are those of the lists. -/
structure Partitions
    (result : SinkResult)
    (records : List SourceRecord) : Prop where
  once : ∀ record ∈ records, result.listedIds.count record.id = 1
  only : ∀ id ∈ result.listedIds, ∃ record ∈ records, record.id = id
  successCount : result.successCount = result.successfulIds.length
  failedCount : result.failedCount = result.failures.length
  total : result.successCount + result.failedCount = records.length

/-- A result that lists the ids of the batch in some order partitions it. -/
theorem Partitions.of_perm
    {result : SinkResult}
    {records : List SourceRecord}
    (distinct : (records.map SourceRecord.id).Nodup)
    (listed : result.listedIds.Perm (records.map SourceRecord.id))
    (successCount : result.successCount = result.successfulIds.length)
    (failedCount : result.failedCount = result.failures.length) :
    result.Partitions records where
  once record member := by
    rw [listed.count_eq]
    exact List.count_eq_one_of_mem distinct (List.mem_map_of_mem member)
  only id member := List.mem_map.mp (listed.subset member)
  successCount := successCount
  failedCount := failedCount
  total := by
    have lengths := listed.length_eq
    simp only [listedIds, failedIds, List.length_append,
      List.length_map] at lengths
    rw [successCount, failedCount, lengths]

end SinkResult

namespace ElasticsearchSink

variable
  {number : Text → Option JsNumber}
  {records : List SourceRecord}
  {response : BulkResponse}
  {result : SinkResult}

/-- The selected and the other positions are all positions. -/
theorem idsWhere_append_perm (selects : SourceRecord × Nat → Bool) :
    (idsWhere selects records.zipIdx ++
        idsWhere (fun entry => !selects entry) records.zipIdx).Perm
      (records.map SourceRecord.id) := by
  have split := List.filter_append_perm selects records.zipIdx
  have ids := split.map fun entry => entry.1.id
  rw [List.map_append] at ids
  refine ids.trans (List.Perm.of_eq ?_)
  calc records.zipIdx.map (fun entry => entry.1.id)
      = (records.zipIdx.map Prod.fst).map SourceRecord.id := by
        rw [List.map_map]
        rfl
    _ = records.map SourceRecord.id := by
        rw [List.zipIdx_map_fst]

/-- A parsed response lists every record once. -/
theorem partitions_of_parseBulkResponse
    (distinct : (records.map SourceRecord.id).Nodup)
    (parsed : parseBulkResponse number records response = some result) :
    result.Partitions records := by
  rw [parseBulkResponse] at parsed
  split at parsed
  · obtain ⟨-, successful, failed, successCount, failedCount⟩ :=
      decompose_spec parsed
    refine .of_perm distinct ?_ successCount failedCount
    rw [SinkResult.listedIds, successful, failed]
    exact idsWhere_append_perm _
  · cases parsed
    refine .of_perm distinct ?_ rfl rfl
    rw [SinkResult.listedIds]
    exact List.Perm.of_eq (List.append_nil _)

/-- A response is parsed when the statuses of its items print. -/
theorem exists_parseBulkResponse
    (prints :
      ∀ i < records.length,
        (statusOf (actionItemOf (response.items.getD [])[i]?)).prints =
          true) :
    ∃ result, parseBulkResponse number records response = some result := by
  rw [parseBulkResponse]
  split
  · refine exists_decompose fun entry member => ?_
    exact prints entry.2 (List.mem_zipIdx' member).1
  · exact ⟨_, rfl⟩

end ElasticsearchSink

namespace RabbitMQSink

variable
  {records : List SourceRecord}
  {call next : PublishBatch}
  {answer : Answer}

/-- The id is that of an uncorrupted record of the batch. -/
def Publishable (records : List SourceRecord) (id : Nat) : Prop :=
  ∃ record ∈ records, record.id = id ∧ record.isCorrupted = false

/-- Every id is to be published, in flight or failed, and only once. -/
structure Batch.Splits
    (batch : Batch)
    (records : List SourceRecord) : Prop where
  parts :
    (batch.inFlightIds ++ batch.failures.map SinkFailure.recordId ++
        batch.remaining.map SourceRecord.id).Perm
      (records.map SourceRecord.id)
  publishable : ∀ id ∈ batch.inFlightIds, Publishable records id

/-- A result lists every id, and only uncorrupted ones as successful. -/
structure SplitResult
    (records : List SourceRecord)
    (result : SinkResult) : Prop where
  listed : result.listedIds.Perm (records.map SourceRecord.id)
  successCount : result.successCount = result.successfulIds.length
  failedCount : result.failedCount = result.failures.length
  publishable : ∀ id ∈ result.successfulIds, Publishable records id

/-- No id is lost or listed twice at any await. -/
def PublishBatch.Splits
    (records : List SourceRecord) : PublishBatch → Prop
  | .publishing batch => batch.Splits records
  | .draining batch => batch.Splits records
  | .confirming batch => batch.Splits records ∧ batch.remaining = []
  | .returned result => SplitResult records result
  | .threw => True

/-- Failed ids are listed behind the ones in flight. -/
theorem Batch.Splits.fail
    {position : Nat}
    {record : SourceRecord}
    {rest : List SourceRecord}
    {inFlightIds : List Nat}
    {failures : List SinkFailure}
    {failure : SinkFailure}
    (splits :
      (⟨position, record :: rest, inFlightIds, failures⟩ : Batch).Splits
        records)
    (names : failure.recordId = record.id) :
    (⟨position + 1, rest, inFlightIds, failures ++ [failure]⟩ :
      Batch).Splits records := by
  refine ⟨?_, splits.publishable⟩
  refine List.Perm.trans (List.Perm.of_eq ?_) splits.parts
  simp [names]

/-- An id that gets in flight is that of the record just published. -/
theorem Batch.Splits.publish
    {position : Nat}
    {record : SourceRecord}
    {rest : List SourceRecord}
    {inFlightIds : List Nat}
    {failures : List SinkFailure}
    (splits :
      (⟨position, record :: rest, inFlightIds, failures⟩ : Batch).Splits
        records)
    (publishable : Publishable records record.id) :
    (⟨position + 1, rest, inFlightIds ++ [record.id], failures⟩ :
      Batch).Splits records := by
  refine ⟨List.Perm.trans ?_ splits.parts, fun id member => ?_⟩
  · simp only [List.map_cons, List.append_assoc, List.singleton_append]
    exact List.Perm.append_left _ List.perm_middle.symm
  · rcases List.mem_append.mp member with old | new
    · exact splits.publishable id old
    · obtain rfl := List.mem_singleton.mp new
      exact publishable

/-- The loop head moves corrupted records to the failures. -/
theorem splits_enterLoop
    {batch : Batch}
    (splits : batch.Splits records) :
    (enterLoop batch.position batch.inFlightIds batch.failures
      batch.remaining).Splits records := by
  obtain ⟨position, remaining, inFlightIds, failures⟩ := batch
  induction remaining generalizing position failures with
  | nil =>
      simp only [enterLoop]
      split
      · rename_i noFlight
        obtain rfl := List.isEmpty_iff.mp noFlight
        refine ⟨?_, rfl, rfl, List.forall_mem_nil _⟩
        refine List.Perm.trans (List.Perm.of_eq ?_) splits.parts
        simp [SinkResult.listedIds, SinkResult.failedIds, resultOf]
      · exact ⟨splits, rfl⟩
  | cons record rest inductionHypothesis =>
      simp only [enterLoop]
      split
      · exact inductionHypothesis _ _ (splits.fail rfl)
      · exact splits

/-- A call starts with all its records to be published. -/
theorem splits_publishBatch (hasChannel : Bool) :
    (publishBatch hasChannel records).Splits records := by
  unfold publishBatch
  split
  · rename_i none
    obtain rfl := List.isEmpty_iff.mp none
    exact ⟨.refl _, rfl, rfl, List.forall_mem_nil _⟩
  · split
    · exact @splits_enterLoop records ⟨0, records, [], []⟩
        ⟨.refl _, List.forall_mem_nil _⟩
    · trivial

/-- Each step moves ids between the lists. -/
theorem splits_step
    (splits : call.Splits records)
    (valid : PublishedEvents.NextValid records call)
    (taken : step call answer = some next) :
    next.Splits records := by
  have publishable
      {position : Nat}
      {record : SourceRecord}
      {rest : List SourceRecord}
      {inFlightIds : List Nat}
      {failures : List SinkFailure}
      (valid :
        PublishedEvents.NextValid records
          (.publishing ⟨position, record :: rest, inFlightIds, failures⟩)) :
      Publishable records record.id :=
    ⟨record, valid.1 List.mem_cons_self, rfl, valid.2 record rfl⟩
  cases stepped_of_step taken with
  | flowing =>
      exact splits_enterLoop
        (Batch.Splits.publish splits (publishable valid))
  | blocked => exact Batch.Splits.publish splits (publishable valid)
  | publishThrew => exact splits_enterLoop (Batch.Splits.fail splits rfl)
  | drained => exact splits_enterLoop splits
  | confirmed batch =>
      obtain ⟨splits, ended⟩ := splits
      refine ⟨?_, rfl, rfl, splits.publishable⟩
      refine List.Perm.trans (List.Perm.of_eq ?_) splits.parts
      simp [SinkResult.listedIds, SinkResult.failedIds, resultOf, ended]
  | notConfirmed batch message =>
      obtain ⟨splits, ended⟩ := splits
      refine ⟨?_, rfl, rfl, List.forall_mem_nil _⟩
      refine List.Perm.trans ?_ splits.parts
      have names :
          (batch.inFlightIds.map (nackFailure message)).map
              SinkFailure.recordId =
            batch.inFlightIds := by
        rw [List.map_map]
        exact List.map_id'' (fun _ => rfl) _
      simp only [SinkResult.listedIds, SinkResult.failedIds, resultOf,
        List.nil_append, List.map_append, names, ended, List.map_nil,
        List.append_nil]
      exact List.perm_append_comm

/-- So does a whole call. -/
theorem splits_of_run
    {hasChannel : Bool}
    {answers : List Answer}
    (run :
      Run step (fun _ _ => True) (publishBatch hasChannel records) answers
        call) :
    call.Splits records ∧ PublishedEvents.NextValid records call := by
  refine run.invariant
    (fun call => call.Splits records ∧ PublishedEvents.NextValid records call)
    (fun holds _ taken =>
      ⟨splits_step holds.1 holds.2 taken,
        PublishedEvents.nextValid_step holds.2 taken⟩) ?_
  exact ⟨splits_publishBatch hasChannel,
    PublishedEvents.NextValid.of_run (.nil _)⟩

/-- The result of a call partitions its batch. -/
theorem SplitResult.partitions
    {result : SinkResult}
    (distinct : (records.map SourceRecord.id).Nodup)
    (split : SplitResult records result) :
    result.Partitions records :=
  .of_perm distinct split.listed split.successCount split.failedCount

/-- A corrupted record is not listed as successful. -/
theorem SplitResult.not_successful
    {result : SinkResult}
    {record : SourceRecord}
    (distinct : (records.map SourceRecord.id).Nodup)
    (split : SplitResult records result)
    (member : record ∈ records)
    (corrupted : record.isCorrupted = true) :
    record.id ∉ result.successfulIds := by
  intro successful
  obtain ⟨other, otherMember, sameId, uncorrupted⟩ :=
    split.publishable _ successful
  have same := List.inj_on_of_nodup_map distinct otherMember member sameId
  rw [same, corrupted] at uncorrupted
  cases uncorrupted

/-- A published message is that of an uncorrupted record of the batch. -/
theorem sent_of_valid
    {options : Options}
    {eventType : ReplicationEventType}
    {message : Message}
    (valid : PublishedEvents.NextValid records call)
    (isSent : sent options eventType call answer = some message) :
    ∃ record ∈ records, record.isCorrupted = false ∧
      ∃ uuid now position,
        message = messageOf options uuid now record eventType position := by
  unfold sent at isSent
  split at isSent
  case h_1 batch uuid now canContinue =>
    obtain ⟨record, isHead, rfl⟩ := Option.map_eq_some_iff.mp isSent
    exact ⟨record, valid.1 (List.mem_of_mem_head? isHead),
      valid.2 record isHead, uuid, now, batch.position, rfl⟩
  case h_2 => cases isSent

end RabbitMQSink

open ElasticsearchSink in
/--
For records with distinct ids, every result of `parseBulkResponse` and of
`publishBatch` partitions the batch.  A response is parsed as soon as the
statuses of its items print.  No corrupted record is listed as successful by
`publishBatch`, and every message it publishes is that of an uncorrupted record.
-/
theorem sink_results_partition
    (records : List SourceRecord)
    (distinct : (records.map SourceRecord.id).Nodup)
    (number : Text → Option JsNumber)
    (options : RabbitMQSink.Options)
    (eventType : ReplicationEventType) :
    (∀ response result,
      parseBulkResponse number records response = some result →
        result.Partitions records) ∧
    (∀ response : BulkResponse,
      (∀ i < records.length,
        (statusOf (actionItemOf (response.items.getD [])[i]?)).prints =
          true) →
      ∃ result, parseBulkResponse number records response = some result) ∧
    ∀ hasChannel answers call,
      Run RabbitMQSink.step (fun _ _ => True)
          (RabbitMQSink.publishBatch hasChannel records) answers call →
        (∀ result, call = .returned result →
          result.Partitions records ∧
            ∀ record ∈ records, record.isCorrupted = true →
              record.id ∉ result.successfulIds) ∧
        ∀ answer message,
          RabbitMQSink.sent options eventType call answer = some message →
            ∃ record ∈ records, record.isCorrupted = false ∧
              ∃ uuid now position,
                message =
                  RabbitMQSink.messageOf options uuid now record eventType
                    position := by
  refine ⟨fun response result parsed =>
      partitions_of_parseBulkResponse distinct parsed,
    fun response prints => exists_parseBulkResponse prints,
    fun hasChannel answers call run => ⟨?_, ?_⟩⟩
  · rintro result rfl
    have split := (RabbitMQSink.splits_of_run run).1
    exact ⟨split.partitions distinct,
      fun record member corrupted =>
        split.not_successful distinct member corrupted⟩
  · intro answer message isSent
    exact RabbitMQSink.sent_of_valid (RabbitMQSink.splits_of_run run).2
      isSent

/-- Of two records the first is accepted, the other's item is missing. -/
theorem sink_results_partition_sample :
    ∃ result,
      ElasticsearchSink.parseBulkResponse (fun _ => none)
          [ElasticsearchSink.sampleRecord 1,
            ElasticsearchSink.sampleRecord 2]
          ⟨some true, some [ElasticsearchSink.sampleItem (some 400)]⟩ =
        some result ∧
      result.Partitions
        [ElasticsearchSink.sampleRecord 1,
          ElasticsearchSink.sampleRecord 2] := by
  have partition :=
    sink_results_partition
      [ElasticsearchSink.sampleRecord 1, ElasticsearchSink.sampleRecord 2]
      (by decide) (fun _ => none) {} .recordBackfilled
  obtain ⟨result, parsed⟩ :=
    partition.2.1
      ⟨some true, some [ElasticsearchSink.sampleItem (some 400)]⟩ (by decide)
  exact ⟨result, parsed, partition.1 _ _ parsed⟩

end Replication
