import Replication.ReplayCalls
import Replication.ReplayFidelity
import Mathlib

namespace Replication

open DLQReplayer (reconstruct)

/-!
# What concurrent replays leave in the queue

However the calls of the replay endpoints interleave with each other and with
the inserts of the runners, a letter never changes, its retries are only counted
up, and RESOLVED is final.  A row becomes RESOLVED only after every sink it was
meant for has taken a record that was rebuilt from its letter.
-/

namespace DLQEntry

/-- The row is meant for that sink. -/
def Targets (row : DLQEntry) (sink : Sink) : Prop :=
  row.sinkTarget = sink.target ∨ row.sinkTarget = .all

/-- The letter is kept both ways. -/
theorem SameLetter.symm
    {later inserted : DLQEntry}
    (same : later.SameLetter inserted) :
    inserted.SameLetter later := by
  unfold SameLetter at *
  rw [same]

/-- The letter is kept, retries are counted up, and RESOLVED is final. -/
structure Advances (later earlier : DLQEntry) : Prop where
  letter : later.SameLetter earlier
  retries : earlier.retryCount ≤ later.retryCount
  status : later.status = earlier.status ∨ later.status = .resolved

namespace Advances

variable {later middle earlier : DLQEntry}

/-- A row has advanced to itself. -/
theorem refl (row : DLQEntry) : row.Advances row :=
  ⟨.refl row, le_refl _, .inl rfl⟩

/-- Rows go on advancing. -/
theorem trans
    (second : later.Advances middle)
    (first : middle.Advances earlier) :
    later.Advances earlier where
  letter := second.letter.trans first.letter
  retries := first.retries.trans second.retries
  status := by
    rcases second.status with same | resolved
    · rw [same]
      exact first.status
    · exact .inr resolved

/-- A resolved row stays resolved. -/
theorem resolved
    (advances : later.Advances earlier)
    (isResolved : earlier.status = .resolved) :
    later.status = .resolved := by
  rcases advances.status with same | resolved
  · rw [same, isResolved]
  · exact resolved

/-- A failed retry is counted. -/
theorem failedRetry (now : Int) (row : DLQEntry) :
    (row.failedRetry now).Advances row :=
  ⟨.failedRetry now row, Nat.le_succ _, .inl rfl⟩

/-- A row is marked as resolved. -/
theorem marked (now : Int) (row : DLQEntry) :
    (row.marked now .resolved).Advances row :=
  ⟨.marked now .resolved row, le_refl _, .inr rfl⟩

end Advances

end DLQEntry

namespace ReplayCalls

variable
  {parse : String → Option Json}
  {number : Text → Option JsNumber}

/-- Every row of the queue is still there, and has only advanced. -/
def Evolves (before after : List DLQEntry) : Prop :=
  ∀ row ∈ before, ∃ later ∈ after, later.Advances row

/-- `BIGSERIAL`: the rows are numbered in the order of their inserts. -/
def Numbered (queue : List DLQEntry) : Prop :=
  queue.map DLQEntry.id = List.range' 1 queue.length

/-- The row of that number is in the queue. -/
def Present (queue : List DLQEntry) (dlqId : Nat) : Prop :=
  ∃ row ∈ queue, row.id = dlqId

/-- The row of that number is in the queue and resolved. -/
def ResolvedIn (queue : List DLQEntry) (dlqId : Nat) : Prop :=
  ∃ row ∈ queue, row.id = dlqId ∧ row.status = .resolved

/-- The entry has been looked up under that number. -/
def Known (queue : List DLQEntry) (dlqId : Nat) (entry : DLQEntry) : Prop :=
  entry.id = dlqId ∧ ∃ row ∈ queue, row.SameLetter entry

section Queue

variable
  {before middle after queue : List DLQEntry}
  {dlqId : Nat}
  {entry : DLQEntry}

/-- A queue has evolved to itself. -/
theorem Evolves.refl (queue : List DLQEntry) : Evolves queue queue :=
  fun row member => ⟨row, member, .refl row⟩

/-- Queues go on evolving. -/
theorem Evolves.trans
    (first : Evolves before middle)
    (second : Evolves middle after) :
    Evolves before after := by
  intro row member
  obtain ⟨between, betweenMember, advanced⟩ := first row member
  obtain ⟨later, laterMember, advancedOn⟩ := second between betweenMember
  exact ⟨later, laterMember, advancedOn.trans advanced⟩

/-- An update of one row. -/
theorem Evolves.updateEntry
    {change : DLQEntry → DLQEntry}
    (advances : ∀ row, (change row).Advances row) :
    Evolves queue (DLQStore.updateEntry dlqId change queue) := by
  intro row member
  refine ⟨if row.id = dlqId then change row else row,
    List.mem_map_of_mem member, ?_⟩
  split
  · exact advances row
  · exact .refl row

/-- An insert. -/
theorem Evolves.append (queue inserted : List DLQEntry) :
    Evolves queue (queue ++ inserted) :=
  fun row member => ⟨row, List.mem_append_left _ member, .refl row⟩

/-- A row stays in the queue. -/
theorem Present.evolve
    (evolves : Evolves before after)
    (present : Present before dlqId) :
    Present after dlqId := by
  obtain ⟨row, member, rfl⟩ := present
  obtain ⟨later, laterMember, advances⟩ := evolves row member
  exact ⟨later, laterMember, advances.letter.id⟩

/-- A resolved row stays resolved. -/
theorem ResolvedIn.evolve
    (evolves : Evolves before after)
    (resolved : ResolvedIn before dlqId) :
    ResolvedIn after dlqId := by
  obtain ⟨row, member, rfl, isResolved⟩ := resolved
  obtain ⟨later, laterMember, advances⟩ := evolves row member
  exact ⟨later, laterMember, advances.letter.id, advances.resolved isResolved⟩

/-- What has been looked up remains the letter of its row. -/
theorem Known.evolve
    (evolves : Evolves before after)
    (known : Known before dlqId entry) :
    Known after dlqId entry := by
  obtain ⟨sameId, row, member, same⟩ := known
  obtain ⟨later, laterMember, advances⟩ := evolves row member
  exact ⟨sameId, later, laterMember, advances.letter.trans same⟩

/-- What has been looked up is in the queue. -/
theorem Known.present (known : Known queue dlqId entry) :
    Present queue dlqId := by
  obtain ⟨sameId, row, member, same⟩ := known
  exact ⟨row, member, same.id.trans sameId⟩

/-- The numbers are distinct. -/
theorem Numbered.nodup (numbered : Numbered queue) :
    (queue.map DLQEntry.id).Nodup := by
  rw [numbered]
  exact List.nodup_range'

/-- An update keeps the numbers. -/
theorem Numbered.updateEntry
    {change : DLQEntry → DLQEntry}
    (advances : ∀ row, (change row).Advances row)
    (numbered : Numbered queue) :
    Numbered (DLQStore.updateEntry dlqId change queue) := by
  rw [Numbered, DLQStore.updateEntry_ids fun row => (advances row).letter.id,
    numbered, DLQStore.updateEntry, List.length_map]

/-- Inserted rows are numbered on. -/
theorem insertedRows_ids
    {now : Int}
    {nextId : Nat}
    {failures : List NewDLQEntry}
    {rows : List DLQEntry}
    (inserted :
      DLQStore.insertedRows parse now nextId failures = some rows) :
    rows.map DLQEntry.id = List.range' nextId rows.length ∧
      ∀ row ∈ rows, row.status = .pending := by
  induction failures generalizing nextId rows with
  | nil =>
      cases inserted
      exact ⟨rfl, List.forall_mem_nil _⟩
  | cons failure rest inductionHypothesis =>
      simp only [DLQStore.insertedRows] at inserted
      split at inserted
      · rename_i row later headRow restRows
        cases inserted
        obtain ⟨restIds, restPending⟩ := inductionHypothesis restRows
        obtain ⟨payload, _, rfl⟩ := Option.map_eq_some_iff.mp headRow
        refine ⟨?_, List.forall_mem_cons.mpr ⟨rfl, restPending⟩⟩
        simp [restIds, List.range'_succ]
      · cases inserted

/-- An insert numbers its rows on, and they are pending. -/
theorem persistFailures_numbered
    {now : Int}
    {failures : List NewDLQEntry}
    (numbered : Numbered queue)
    (persisted :
      DLQStore.persistFailures parse now queue failures = some after) :
    Numbered after ∧
      ∃ rows, after = queue ++ rows ∧ ∀ row ∈ rows, row.status = .pending := by
  obtain ⟨rows, inserted, rfl⟩ := Option.map_eq_some_iff.mp persisted
  obtain ⟨ids, pending⟩ := insertedRows_ids inserted
  refine ⟨?_, rows, rfl, pending⟩
  rw [Numbered, List.map_append, numbered, ids, List.length_append,
    ← List.range'_append_1, Nat.add_comm 1]

end Queue

/-!
## What a suspended replay can rely on
-/

/-- The record is one that `retryEntry` rebuilds from the entry. -/
def Rebuilds
    (parse : String → Option Json)
    (number : Text → Option JsNumber)
    (entry : DLQEntry)
    (record : SourceRecord) : Prop :=
  ∃ now randomUuid,
    reconstruct parse number now randomUuid entry = some record

/-- A sink has acknowledged a record for that entry, without a failure. -/
def Taken
    (replies : List SinkReply)
    (dlqId : Nat)
    (record : SourceRecord)
    (sink : Sink) : Prop :=
  ∃ reply ∈ replies,
    reply.dlqId = dlqId ∧
      reply.record = record ∧
      reply.sink = sink ∧
      reply.result.failures = [] ∧
      record.id ∈ reply.result.successfulIds

/-- Every sink the row is meant for has taken what was rebuilt from it. -/
def Delivered
    (parse : String → Option Json)
    (number : Text → Option JsNumber)
    (replies : List SinkReply)
    (row : DLQEntry) : Prop :=
  ∃ record,
    Rebuilds parse number row record ∧
      ∀ sink, row.Targets sink → Taken replies row.id record sink

/-- The call publishes that record and no other. -/
def PublishesOne
    (record : SourceRecord)
    (call : RabbitMQSink.PublishBatch) : Prop :=
  call = .threw ∨
    ∃ publications,
      DLQReplayer.SingleRecord {} .recordMutated record publications call

/-- What is true where a replay is suspended. -/
def Await.Justified
    (parse : String → Option Json)
    (number : Text → Option JsNumber)
    (shared : Shared) : Await → Prop
  | .getPendingEntries => True
  | .getEntryById _ => True
  | .bulkUpsert dlqId entry record =>
      Known shared.queue dlqId entry ∧ Rebuilds parse number entry record
  | .publishBatch dlqId entry record call =>
      Known shared.queue dlqId entry ∧
        Rebuilds parse number entry record ∧
        (entry.Targets .elasticsearch →
          Taken shared.replies dlqId record .elasticsearch) ∧
        PublishesOne record call
  | .recordRetryFailure dlqId _ _ => Present shared.queue dlqId
  | .markStatus dlqId =>
      ∃ entry,
        Known shared.queue dlqId entry ∧
          Delivered parse number shared.replies entry

/-- What is true where a call is suspended, or has ended. -/
def Call.Justified
    (parse : String → Option Json)
    (number : Text → Option JsNumber)
    (shared : Shared) : Call → Prop
  | .awaiting _ await => await.Justified parse number shared
  | .entryReturned dlqId result =>
      result.success = true → ResolvedIn shared.queue dlqId
  | _ => True

section Stable

variable
  {shared after : Shared}
  {entry later : DLQEntry}
  {dlqId : Nat}
  {record : SourceRecord}
  {sink : Sink}

/-- What a sink has taken, it has taken for good. -/
theorem Taken.mono
    {replies more : List SinkReply}
    (grows : replies ⊆ more)
    (taken : Taken replies dlqId record sink) :
    Taken more dlqId record sink := by
  obtain ⟨reply, member, facts⟩ := taken
  exact ⟨reply, grows member, facts⟩

/-- What is delivered is delivered for good. -/
theorem Delivered.mono
    {replies more : List SinkReply}
    (grows : replies ⊆ more)
    (delivered : Delivered parse number replies entry) :
    Delivered parse number more entry := by
  obtain ⟨record, rebuilds, taken⟩ := delivered
  exact ⟨record, rebuilds, fun sink targets => (taken sink targets).mono grows⟩

/-- The letter alone decides what is rebuilt. -/
theorem Rebuilds.sameLetter
    (same : later.SameLetter entry)
    (rebuilds : Rebuilds parse number entry record) :
    Rebuilds parse number later record := by
  obtain ⟨now, randomUuid, rebuilt⟩ := rebuilds
  refine ⟨now, randomUuid, ?_⟩
  rw [same]
  exact rebuilt

/-- A rebuilt record is not corrupted. -/
theorem Rebuilds.isCorrupted
    (rebuilds : Rebuilds parse number entry record) :
    record.isCorrupted = false := by
  obtain ⟨now, randomUuid, rebuilt⟩ := rebuilds
  unfold reconstruct at rebuilt
  dsimp only at rebuilt
  split at rebuilt
  · cases rebuilt
    rfl
  · cases rebuilt

/-- The letter alone decides what it takes to be delivered. -/
theorem Delivered.sameLetter
    {replies : List SinkReply}
    (same : later.SameLetter entry)
    (delivered : Delivered parse number replies entry) :
    Delivered parse number replies later := by
  obtain ⟨record, rebuilds, taken⟩ := delivered
  refine ⟨record, rebuilds.sameLetter same, fun sink targets => ?_⟩
  rw [same.id]
  refine taken sink ?_
  rw [DLQEntry.Targets, ← same.sinkTarget]
  exact targets

/-- What a suspended replay relies on is not undone by others. -/
theorem Await.Justified.stable
    (evolves : Evolves shared.queue after.queue)
    (grows : shared.replies ⊆ after.replies)
    {await : Await}
    (justified : await.Justified parse number shared) :
    await.Justified parse number after := by
  cases await with
  | getPendingEntries => trivial
  | getEntryById dlqId => trivial
  | bulkUpsert dlqId entry record =>
      exact ⟨justified.1.evolve evolves, justified.2⟩
  | publishBatch dlqId entry record call =>
      obtain ⟨known, rebuilds, taken, one⟩ := justified
      exact ⟨known.evolve evolves, rebuilds,
        fun targets => (taken targets).mono grows, one⟩
  | recordRetryFailure dlqId reason inCatch =>
      exact Present.evolve evolves justified
  | markStatus dlqId =>
      obtain ⟨entry, known, delivered⟩ := justified
      exact ⟨entry, known.evolve evolves, delivered.mono grows⟩

/-- Nor is the result of a replay that has ended. -/
theorem Call.Justified.stable
    (evolves : Evolves shared.queue after.queue)
    (grows : shared.replies ⊆ after.replies)
    {call : Call}
    (justified : call.Justified parse number shared) :
    call.Justified parse number after := by
  cases call with
  | awaiting loop await => exact Await.Justified.stable evolves grows justified
  | entryReturned dlqId result =>
      exact fun success => ResolvedIn.evolve evolves (justified success)
  | allReturned loop => trivial
  | threw => trivial

end Stable

/-!
## From one await to the next
-/

section Bodies

variable
  {shared : Shared}
  {surroundings : Surroundings}
  {loop : Option Loop}
  {dlqId : Nat}
  {entry : DLQEntry}
  {record : SourceRecord}

/-- The loop goes on to a query. -/
theorem justified_nextItem (loop : Loop) :
    (nextItem loop).Justified parse number shared := by
  unfold nextItem nextPage
  split
  · trivial
  · split
    · trivial
    · split <;> trivial

/-- A fetched page is empty, or the loop goes on to a query. -/
theorem justified_readPage (loop : Loop) (pending : List DLQEntry) :
    (readPage loop pending).Justified parse number shared := by
  unfold readPage
  split
  · trivial
  · exact justified_nextItem _

/-- A replay returns success for resolved entries only. -/
theorem justified_returnEntry
    {result : DLQReplayer.DLQRetryResult}
    (truthful : result.success = true → ResolvedIn shared.queue dlqId) :
    (returnEntry loop dlqId result).Justified parse number shared := by
  cases loop with
  | none => exact truthful
  | some loop => exact justified_nextItem _

/-- `publishBatch` of a rebuilt record publishes it, or throws. -/
theorem publishesOne_publishBatch
    (hasChannel : Bool)
    (sound : record.isCorrupted = false) :
    PublishesOne record (RabbitMQSink.publishBatch hasChannel [record]) := by
  cases hasChannel with
  | false => exact .inl rfl
  | true =>
      refine .inr ⟨[], ?_⟩
      simp only [RabbitMQSink.publishBatch, List.isEmpty_cons,
        RabbitMQSink.enterLoop, sound, if_true, Bool.false_eq_true, if_false]
      exact .publishing

/-- So do its steps. -/
theorem PublishesOne.step
    {call after : RabbitMQSink.PublishBatch}
    {answer : RabbitMQSink.Answer}
    (one : PublishesOne record call)
    (stepped : RabbitMQSink.step call answer = some after) :
    PublishesOne record after := by
  rcases one with rfl | ⟨publications, single⟩
  · cases RabbitMQSink.stepped_of_step stepped
  · exact .inr ⟨_, single.step stepped⟩

/-- A result without failures acknowledges the record. -/
theorem PublishesOne.acknowledged
    {result : SinkResult}
    (one : PublishesOne record (.returned result))
    (failures : result.failures = []) :
    record.id ∈ result.successfulIds := by
  rcases one with threw | ⟨publications, single⟩
  · cases threw
  · cases single with
    | confirmed eventId publishedAt => exact List.mem_cons_self
    | failed _ _ hasFailures => exact absurd failures hasFailures

/-- Where `publishBatch` stands, the earlier dispatch has been taken. -/
theorem justified_publishing
    (known : Known shared.queue dlqId entry)
    (rebuilds : Rebuilds parse number entry record)
    (taken :
      entry.Targets .elasticsearch →
        Taken shared.replies dlqId record .elasticsearch)
    {call : RabbitMQSink.PublishBatch}
    (one : PublishesOne record call)
    {replies : List SinkReply}
    {next : Call}
    (runs : publishing loop dlqId entry record call = (replies, next)) :
    next.Justified parse number
      { shared with replies := shared.replies ++ replies } := by
  unfold publishing at runs
  split at runs
  · rename_i result
    unfold checkFailures at runs
    split at runs <;> rename_i failures <;> cases runs
    · refine ⟨entry, known, record, rebuilds, fun sink targets => ?_⟩
      rw [known.1]
      cases sink with
      | elasticsearch =>
          exact (taken targets).mono (List.subset_append_left _ _)
      | rabbitmq =>
          exact ⟨_, List.mem_append_right _ List.mem_cons_self,
            rfl, rfl, rfl, failures, one.acknowledged failures⟩
    · exact known.present
  · cases runs
    exact known.present
  · cases runs
    exact ⟨known, rebuilds,
      fun targets => (taken targets).mono (List.subset_append_left _ _),
      one⟩

/-- The second dispatch, or the end of the `try` block. -/
theorem justified_dispatchRabbitMQ
    (known : Known shared.queue dlqId entry)
    (rebuilds : Rebuilds parse number entry record)
    (taken :
      entry.Targets .elasticsearch →
        Taken shared.replies dlqId record .elasticsearch)
    {replies : List SinkReply}
    {next : Call}
    (runs :
      dispatchRabbitMQ surroundings loop dlqId entry record =
        (replies, next)) :
    next.Justified parse number
      { shared with replies := shared.replies ++ replies } := by
  unfold dispatchRabbitMQ at runs
  split at runs
  · exact justified_publishing known rebuilds taken
      (publishesOne_publishBatch _ rebuilds.isCorrupted) runs
  · rename_i noTarget
    cases runs
    refine ⟨entry, known, record, rebuilds, fun sink targets => ?_⟩
    rw [known.1]
    cases sink with
    | elasticsearch =>
        exact (taken targets).mono (List.subset_append_left _ _)
    | rabbitmq => exact absurd targets noTarget

/-- The first dispatch. -/
theorem justified_dispatchElasticsearch
    (known : Known shared.queue dlqId entry)
    (rebuilds : Rebuilds parse number entry record)
    {replies : List SinkReply}
    {next : Call}
    (runs :
      dispatchElasticsearch surroundings loop dlqId entry record =
        (replies, next)) :
    next.Justified parse number
      { shared with replies := shared.replies ++ replies } := by
  unfold dispatchElasticsearch at runs
  split at runs
  · split at runs <;> cases runs
    · exact known.present
    · exact ⟨known, rebuilds⟩
  · rename_i noTarget
    exact justified_dispatchRabbitMQ known rebuilds
      (fun targets => absurd targets noTarget) runs

/-- After the bulk request. -/
theorem justified_bulkSettled
    (known : Known shared.queue dlqId entry)
    (rebuilds : Rebuilds parse number entry record)
    {answer : Except String BulkResponse}
    {replies : List SinkReply}
    {next : Call}
    (runs :
      bulkSettled number surroundings loop dlqId entry record answer =
        (replies, next)) :
    next.Justified parse number
      { shared with replies := shared.replies ++ replies } := by
  unfold bulkSettled at runs
  split at runs
  · cases runs
    exact known.present
  · split at runs
    · cases runs
      exact known.present
    · rename_i result parsed
      unfold checkFailures at runs
      split at runs <;> rename_i failures
      · -- the reply is noted before the second dispatch
        let reply : SinkReply :=
          { dlqId, record, sink := .elasticsearch, result }
        have once :=
          (ElasticsearchSink.partitions_of_parseBulkResponse
            (by simp) parsed).once record List.mem_cons_self
        have acknowledged : record.id ∈ result.successfulIds := by
          rw [SinkResult.listedIds, SinkResult.failedIds, failures,
            List.map_nil, List.append_nil] at once
          exact List.count_pos_iff.mp (once ▸ Nat.one_pos)
        cases dispatched :
            dispatchRabbitMQ surroundings loop dlqId entry record with
        | mk more onward =>
            rw [dispatched] at runs
            cases runs
            have later :=
              @justified_dispatchRabbitMQ parse number
                { shared with replies := shared.replies ++ [reply] }
                surroundings loop dlqId entry record known rebuilds
                (fun _ =>
                  ⟨reply, by simp, rfl, rfl, rfl, failures, acknowledged⟩)
                _ _ dispatched
            simpa [List.append_assoc] using later
      · cases runs
        exact known.present

/-- After the lookup. -/
theorem justified_lookedUp
    {replies : List SinkReply}
    {next : Call}
    (runs :
      lookedUp parse number surroundings loop dlqId
          (DLQStore.getEntryById shared.queue dlqId) =
        (replies, next)) :
    next.Justified parse number
      { shared with replies := shared.replies ++ replies } := by
  cases found : DLQStore.getEntryById shared.queue dlqId with
  | none =>
      rw [found] at runs
      cases runs
      exact justified_returnEntry (by simp)
  | some entry =>
      obtain ⟨member, sameId⟩ := DLQStore.getEntryById_spec found
      simp only [found, lookedUp] at runs
      split at runs
      · rename_i isResolved
        cases runs
        exact justified_returnEntry fun _ =>
          ⟨entry, member, sameId, isResolved⟩
      · split at runs
        · cases runs
          trivial
        · rename_i record rebuilt
          exact justified_dispatchElasticsearch
            ⟨sameId, entry, member, .refl entry⟩ ⟨_, _, rebuilt⟩ runs

end Bodies

/-!
## The invariant
-/

/-- The queue is numbered, and its resolved rows are delivered. -/
structure Settled
    (parse : String → Option Json)
    (number : Text → Option JsNumber)
    (shared : Shared) : Prop where
  numbered : Numbered shared.queue
  delivered :
    ∀ row ∈ shared.queue, row.status = .resolved →
      Delivered parse number shared.replies row

/-- The queue is settled, and every call is justified. -/
abbrev Safe
    (parse : String → Option Json)
    (number : Text → Option JsNumber) : World → Prop :=
  TaskMachine.Invariant (fun _ => Settled parse number)
    (fun _ => Call.Justified parse number)

section Steps

variable
  {shared after : Shared}
  {call next : Call}

/-- Every step lets the queue evolve and only adds replies. -/
theorem Step.evolves
    (step : Step parse number shared call after next) :
    Evolves shared.queue after.queue ∧ shared.replies ⊆ after.replies := by
  have failed (now : Int) (dlqId : Nat) :
      Evolves shared.queue
        (DLQStore.recordRetryFailure now dlqId shared.queue) :=
    .updateEntry (DLQEntry.Advances.failedRetry now)
  have marked (now : Int) (dlqId : Nat) :
      Evolves shared.queue
        (DLQStore.markStatus now dlqId .resolved shared.queue) :=
    .updateEntry (DLQEntry.Advances.marked now)
  cases step with
  | page | queryRejected => exact ⟨.refl _, List.Subset.refl _⟩
  | lookedUp | bulkSettled | published =>
      exact ⟨.refl _, List.subset_append_left _ _⟩
  | failureRecorded loop dlqId reason inCatch now =>
      exact ⟨failed now dlqId, List.Subset.refl _⟩
  | failureRejected loop dlqId reason message inCatch applied now =>
      refine ⟨?_, List.Subset.refl _⟩
      cases applied with
      | true => exact failed now dlqId
      | false => exact .refl _
  | marked loop dlqId now => exact ⟨marked now dlqId, List.Subset.refl _⟩
  | markRejected loop dlqId message applied now =>
      refine ⟨?_, List.Subset.refl _⟩
      cases applied with
      | true => exact marked now dlqId
      | false => exact .refl _

/-- A failed retry resolves nothing. -/
theorem Settled.recordRetryFailure
    (settled : Settled parse number shared)
    (now : Int)
    (dlqId : Nat) :
    Settled parse number
      { shared with
        queue := DLQStore.recordRetryFailure now dlqId shared.queue } where
  numbered := settled.numbered.updateEntry (DLQEntry.Advances.failedRetry now)
  delivered := by
    intro later member isResolved
    obtain ⟨row, rowMember, rfl⟩ := List.mem_map.mp member
    by_cases sameId : row.id = dlqId
    · rw [if_pos sameId] at isResolved ⊢
      exact (settled.delivered row rowMember isResolved).sameLetter
        (.failedRetry now row)
    · rw [if_neg sameId] at isResolved ⊢
      exact settled.delivered row rowMember isResolved

/-- A delivered row may be marked as resolved. -/
theorem Settled.markStatus
    (settled : Settled parse number shared)
    (now : Int)
    {dlqId : Nat}
    {entry : DLQEntry}
    (known : Known shared.queue dlqId entry)
    (delivered : Delivered parse number shared.replies entry) :
    Settled parse number
      { shared with
        queue := DLQStore.markStatus now dlqId .resolved shared.queue } where
  numbered := settled.numbered.updateEntry (DLQEntry.Advances.marked now)
  delivered := by
    intro later member isResolved
    obtain ⟨row, rowMember, rfl⟩ := List.mem_map.mp member
    by_cases sameId : row.id = dlqId
    · rw [if_pos sameId] at isResolved ⊢
      obtain ⟨entryId, other, otherMember, same⟩ := known
      -- numbers are unique, so this is the row that was looked up
      obtain rfl : other = row :=
        DLQReplayer.eq_of_id settled.numbered.nodup rowMember otherMember
          ((same.id.trans entryId).trans sameId.symm)
      exact delivered.sameLetter
        ((DLQEntry.SameLetter.marked now .resolved other).trans same)
    · rw [if_neg sameId] at isResolved ⊢
      exact settled.delivered row rowMember isResolved

/-- A step keeps the queue settled and justifies the next await. -/
theorem Step.safe
    (settled : Settled parse number shared)
    (justified : call.Justified parse number shared)
    (step : Step parse number shared call after next) :
    Settled parse number after ∧ next.Justified parse number after := by
  have noting (replies : List SinkReply) :
      Settled parse number
        { shared with replies := shared.replies ++ replies } :=
    ⟨settled.numbered, fun row member isResolved =>
      (settled.delivered row member isResolved).mono
        (List.subset_append_left _ _)⟩
  obtain ⟨evolves, _⟩ := step.evolves
  cases step with
  | page loop order => exact ⟨settled, justified_readPage _ _⟩
  | queryRejected loop await => exact ⟨settled, trivial⟩
  | lookedUp loop dlqId surroundings runs =>
      exact ⟨noting _, justified_lookedUp runs⟩
  | bulkSettled loop dlqId entry record answer surroundings runs =>
      exact ⟨noting _,
        justified_bulkSettled justified.1 justified.2 runs⟩
  | published loop dlqId entry record stepped runs =>
      obtain ⟨known, rebuilds, taken, one⟩ := justified
      exact ⟨noting _,
        justified_publishing known rebuilds taken (one.step stepped) runs⟩
  | failureRecorded loop dlqId reason inCatch now =>
      exact ⟨settled.recordRetryFailure now dlqId,
        justified_returnEntry (by simp)⟩
  | failureRejected loop dlqId reason message inCatch applied now =>
      refine ⟨?_, ?_⟩
      · cases applied with
        | true => exact settled.recordRetryFailure now dlqId
        | false => exact settled
      · cases inCatch with
        | true => trivial
        | false => exact Present.evolve evolves justified
  | marked loop dlqId now =>
      obtain ⟨entry, known, delivered⟩ := justified
      refine ⟨settled.markStatus now known delivered,
        justified_returnEntry fun _ => ?_⟩
      obtain ⟨row, member, sameId⟩ := known.present
      exact ⟨row.marked now .resolved,
        List.mem_map.mpr ⟨row, member, if_pos sameId⟩, sameId, rfl⟩
  | markRejected loop dlqId message applied now =>
      obtain ⟨entry, known, delivered⟩ := justified
      refine ⟨?_, known.present.evolve evolves⟩
      cases applied with
      | true => exact settled.markStatus now known delivered
      | false => exact settled

end Steps

section Runs

variable {before reached : World}

/-- Every step of the machine lets the queue evolve. -/
theorem evolves_step
    {event : Event}
    (taken : (machine parse number).step before event = some reached) :
    Evolves before.shared.queue reached.shared.queue := by
  cases event with
  | act index action =>
      obtain ⟨call, shared, next, spawned, found, moved, rfl⟩ :=
        TaskMachine.step_act taken
      exact (act_spec moved).1.evolves.1
  | env event =>
      obtain ⟨shared, tasks, moved, rfl⟩ := TaskMachine.step_env taken
      cases event with
      | retryEntry dlqId => cases moved; exact .refl _
      | retryAllPending => cases moved; exact .refl _
      | persistFailures now failures =>
          obtain ⟨queue, persisted, same⟩ := Option.map_eq_some_iff.mp moved
          cases same
          obtain ⟨rows, _, rfl⟩ := Option.map_eq_some_iff.mp persisted
          exact .append _ _
      | kill => cases moved; exact .refl _
  | change change => exact change.elim

/-- So does every run. -/
theorem evolves_run
    {events : List Event}
    (run :
      Run (machine parse number).step Unrestricted before events reached) :
    Evolves before.shared.queue reached.shared.queue :=
  run.invariant
    (fun world => Evolves before.shared.queue world.shared.queue)
    (fun sofar _ taken => sofar.trans (evolves_step taken))
    (.refl _)

/-- Every step of the machine is safe. -/
theorem safe_step
    {event : Event}
    (safe : Safe parse number before)
    (taken : (machine parse number).step before event = some reached) :
    Safe parse number reached := by
  have admitted : Unrestricted before event := trivial
  refine TaskMachine.Invariant.step ?_ ?_ ?_ safe admitted taken
  · intro world index call action shared next spawned holds _ _ justified moved
    obtain ⟨step, rfl⟩ := act_spec moved
    obtain ⟨evolves, grows⟩ := step.evolves
    obtain ⟨settled, nextJustified⟩ := step.safe holds.global justified
    exact ⟨settled, nextJustified, List.forall_mem_nil _,
      fun other otherJustified => otherJustified.stable evolves grows⟩
  · intro world event shared tasks holds _ moved
    have added (new : Call) (isNew : new.Justified parse number world.shared) :
        ∀ call ∈ world.tasks ++ [new],
          call.Justified parse number world.shared := by
      intro call member
      rcases List.mem_append.mp member with old | single
      · exact holds.local_ call old
      · rw [List.mem_singleton.mp single]
        exact isNew
    cases event with
    | retryEntry dlqId =>
        cases moved
        exact ⟨holds.global, added _ trivial⟩
    | retryAllPending =>
        cases moved
        exact ⟨holds.global, added _ trivial⟩
    | persistFailures now failures =>
        obtain ⟨queue, persisted, same⟩ := Option.map_eq_some_iff.mp moved
        cases same
        obtain ⟨numbered, rows, rfl, pending⟩ :=
          persistFailures_numbered holds.global.numbered persisted
        have evolves : Evolves world.shared.queue
            { world.shared with
              queue := world.shared.queue ++ rows }.queue :=
          .append _ _
        refine ⟨⟨numbered, ?_⟩, fun call member => ?_⟩
        · intro row member isResolved
          rcases List.mem_append.mp member with old | new
          · exact holds.global.delivered row old isResolved
          · rw [pending row new] at isResolved
            cases isResolved
        · exact Call.Justified.stable evolves (List.Subset.refl _)
            (holds.local_ call member)
    | kill =>
        cases moved
        exact ⟨holds.global, List.forall_mem_nil _⟩
  · intro world change
    exact change.elim

/-- Every reachable state is safe. -/
theorem safe_run
    {events : List Event}
    (run :
      Run (machine parse number).step Unrestricted initial events reached) :
    Safe parse number reached :=
  run.invariant (Safe parse number) (fun safe _ taken => safe_step safe taken)
    ⟨⟨rfl, List.forall_mem_nil _⟩, List.forall_mem_nil _⟩

end Runs

/--
In every reachable state every resolved row has been delivered: each sink that
it was meant for has acknowledged one record rebuilt from its letter.
-/
theorem resolved_delivered
    {events : List Event}
    {reached : World}
    (run :
      Run (machine parse number).step Unrestricted initial events reached) :
    ∀ row ∈ reached.shared.queue, row.status = .resolved →
      Delivered parse number reached.shared.replies row :=
  (safe_run run).global.delivered

/-- A letter for RabbitMQ alone. -/
def sampleLetter : NewDLQEntry where
  recordId := some 7
  recordUuid := some "77aa"
  sinkTarget := .rabbitmq
  payload := .obj []
  errorCode := "AMQP_BROKER_NACK"
  errorMessage := ""
  stackTrace := none

/-- A channel is open; nothing else is read. -/
def sampleSurroundings : Surroundings where
  now := 0
  randomUuid := "88bb"
  bulkNow := 0
  typeError := ""
  hasChannel := true

/-- The query is executed at that instant. -/
def sampleQuery (index : Nat) (now : Int) : Event :=
  .act index (.execute now (DLQReplayer.leadOrder 0) sampleSurroundings)

/-- Two replays of one letter look it up; the first one is confirmed. -/
def sampleConfirmed : List Event :=
  [.env (.persistFailures 0 [sampleLetter]),
    .env (.retryEntry 1), .env (.retryEntry 1),
    sampleQuery 0 0,
    sampleQuery 1 0,
    .act 0 (.channel (.published "" 0 true)), .act 0 (.channel .confirmed),
    sampleQuery 0 1]

/-- The first replay has returned success, and its row is resolved. -/
theorem resolved_delivered_confirmed :
    ∃ reached,
      Run (machine (fun _ => none) (fun _ => none)).step Unrestricted
        initial sampleConfirmed reached ∧
      reached.shared.queue.map DLQEntry.status = [.resolved] ∧
      ∀ row ∈ reached.shared.queue, row.status = .resolved →
        Delivered (fun _ => none) (fun _ => none)
          reached.shared.replies row := by
  obtain ⟨reached, run, resolved⟩ :
      ∃ reached,
        Run (machine (fun _ => none) (fun _ => none)).step Unrestricted
          initial sampleConfirmed reached ∧
        reached.shared.queue.map DLQEntry.status = [.resolved] :=
    Run.exists_of_replay _ (by decide +kernel)
  exact ⟨reached, run, resolved, resolved_delivered run⟩

end ReplayCalls

end Replication
