import Replication.RetryAllPending
import Replication.TaskSums
import Mathlib

namespace Replication.ReplayCalls

open DLQReplayer (DLQRetryResult DLQRetrySummary reconstruct)

/-!
# Concurrent replays

Every request to the replay endpoints is a call of its own, and all of them work
on one queue, into which the runners go on inserting.  A call is suspended at a
query of the queue, at a bulk request, or inside `publishBatch`; the code between
two awaits touches nothing that is shared, so one step settles what is awaited
and runs to the next await.  `retryEntry` is called by an endpoint, or by the loop
of `retryAllPending`, whose variables are then live at the same await.
-/

/-- A result that one of the sinks has returned for a rebuilt record. -/
structure SinkReply where
  dlqId : Nat
  record : SourceRecord
  sink : Sink
  result : SinkResult
  deriving Repr

/-- The local variables of `retryAllPending`. -/
structure Loop where
  /-- `i` -/
  iteration : Nat
  /-- `pending.length` -/
  pageLength : Nat
  /-- The items of the page that have not been retried yet. -/
  rest : List DLQEntry
  summary : DLQRetrySummary
  /-- The entries counted as resolved, kept for the statements. -/
  resolvedIds : List Nat
  deriving Repr

/-- Where a replay is suspended, with the variables of `retryEntry`. -/
inductive Await where
  | getPendingEntries
  | getEntryById (dlqId : Nat)
  | bulkUpsert (dlqId : Nat) (entry : DLQEntry) (record : SourceRecord)
  | publishBatch
      (dlqId : Nat)
      (entry : DLQEntry)
      (record : SourceRecord)
      (call : RabbitMQSink.PublishBatch)
  /-- The update of a failed retry, in the `try` or in the `catch` block. -/
  | recordRetryFailure (dlqId : Nat) (reason : Json) (inCatch : Bool)
  | markStatus (dlqId : Nat)
  deriving Repr

/-- A request to one of the two replay endpoints. -/
inductive Call where
  | awaiting (loop : Option Loop) (await : Await)
  | entryReturned (dlqId : Nat) (result : DLQRetryResult)
  | allReturned (loop : Loop)
  | threw
  deriving Repr

/-- What a call reads on its way to the next await. -/
structure Surroundings where
  /-- `new Date()` -/
  now : Int
  /-- `crypto.randomUUID()` -/
  randomUuid : String
  /-- The clock that the Elasticsearch sink reads. -/
  bulkNow : Int
  /-- The message of a `TypeError` inside the Elasticsearch sink. -/
  typeError : String
  hasChannel : Bool
  deriving Repr

/-- The queue, and what the sinks have replied so far. -/
structure Shared where
  queue : List DLQEntry
  replies : List SinkReply
  deriving Repr

/-!
## The loop of `retryAllPending`
-/

/-- The head of the loop: another page, unless the cap is reached. -/
def nextPage (loop : Loop) : Call :=
  if loop.iteration < 50 then
    .awaiting (some loop) .getPendingEntries
  else
    .allReturned loop

/-- The next item, or the end of the page. -/
def nextItem (loop : Loop) : Call :=
  match loop.rest with
  | item :: rest =>
      .awaiting (some { loop with rest }) (.getEntryById item.id)
  | [] =>
      if loop.pageLength ≤ loop.summary.failed ∧
          loop.summary.resolved = 0 then
        .allReturned loop
      else
        nextPage { loop with iteration := loop.iteration + 1 }

/-- A page has been fetched. -/
def readPage (loop : Loop) (pending : List DLQEntry) : Call :=
  if pending.isEmpty then
    .allReturned loop
  else
    nextItem { loop with rest := pending, pageLength := pending.length }

/-- One more item has been retried. -/
def Loop.count (loop : Loop) (dlqId : Nat) (success : Bool) : Loop :=
  { loop with
    summary := loop.summary.count success
    resolvedIds :=
      if success then loop.resolvedIds ++ [dlqId] else loop.resolvedIds }

/-- `retryAllPending`, up to its first await. -/
def retryAllPending : Call :=
  nextPage
    { iteration := 0
      pageLength := 0
      rest := []
      summary := { retried := 0, resolved := 0, failed := 0 }
      resolvedIds := [] }

/-- `retryEntry`, up to its first await. -/
def retryEntry (dlqId : Nat) : Call :=
  .awaiting none (.getEntryById dlqId)

/-!
## The body of `retryEntry`
-/

/-- `retryEntry` returns to the endpoint, or to the loop. -/
def returnEntry
    (loop : Option Loop)
    (dlqId : Nat)
    (result : DLQRetryResult) : Call :=
  match loop with
  | none => .entryReturned dlqId result
  | some loop => nextItem (loop.count dlqId result.success)

/-- The `catch` block. -/
def handleError
    (loop : Option Loop)
    (dlqId : Nat)
    (errorMsg : String) : Call :=
  .awaiting loop (.recordRetryFailure dlqId (.str errorMsg) true)

/-- `failures.length > 0`, or the rest of the `try` block. -/
def checkFailures
    (loop : Option Loop)
    (dlqId : Nat)
    (result : SinkResult)
    (proceed : List SinkReply × Call) : List SinkReply × Call :=
  match result.failures with
  | [] => proceed
  | failure :: _ =>
      ([],
        .awaiting loop
          (.recordRetryFailure dlqId failure.errorReason false))

/-- Where `publishBatch` stands: suspended, ended, or thrown. -/
def publishing
    (loop : Option Loop)
    (dlqId : Nat)
    (entry : DLQEntry)
    (record : SourceRecord)
    (call : RabbitMQSink.PublishBatch) : List SinkReply × Call :=
  match call with
  | .returned result =>
      let next :=
        checkFailures loop dlqId result
          ([], .awaiting loop (.markStatus dlqId))
      ({ dlqId, record, sink := .rabbitmq, result } :: next.1, next.2)
  | .threw =>
      ([],
        handleError loop dlqId
          "Cannot publish batch: RabbitMQ ConfirmChannel is not connected.")
  | call => ([], .awaiting loop (.publishBatch dlqId entry record call))

/-- 2. Dispatch to RabbitMQ if it is a target. -/
def dispatchRabbitMQ
    (surroundings : Surroundings)
    (loop : Option Loop)
    (dlqId : Nat)
    (entry : DLQEntry)
    (record : SourceRecord) : List SinkReply × Call :=
  if entry.sinkTarget = .rabbitmq ∨ entry.sinkTarget = .all then
    publishing loop dlqId entry record
      (RabbitMQSink.publishBatch surroundings.hasChannel [record])
  else
    ([], .awaiting loop (.markStatus dlqId))

/-- 1. Dispatch to Elasticsearch if it is a target. -/
def dispatchElasticsearch
    (surroundings : Surroundings)
    (loop : Option Loop)
    (dlqId : Nat)
    (entry : DLQEntry)
    (record : SourceRecord) : List SinkReply × Call :=
  if entry.sinkTarget = .elasticsearch ∨ entry.sinkTarget = .all then
    match ElasticsearchSink.bulkUpsert surroundings.bulkNow [record] with
    | none => ([], handleError loop dlqId surroundings.typeError)
    | some _ => ([], .awaiting loop (.bulkUpsert dlqId entry record))
  else
    dispatchRabbitMQ surroundings loop dlqId entry record

section Bodies

variable
  (parse : String → Option Json)
  (number : Text → Option JsNumber)

/-- From the lookup to the first dispatch. -/
def lookedUp
    (surroundings : Surroundings)
    (loop : Option Loop)
    (dlqId : Nat) : Option DLQEntry → List SinkReply × Call
  | none =>
      ([],
        returnEntry loop dlqId
          { success := false
            error := Json.str ("DLQ entry " ++ toString dlqId ++ " not found") })
  | some entry =>
      if entry.status = .resolved then
        ([], returnEntry loop dlqId { success := true, error := none })
      else
        match
          reconstruct parse number surroundings.now surroundings.randomUuid
            entry with
        | none => ([], .threw)
        | some record =>
            dispatchElasticsearch surroundings loop dlqId entry record

/-- The bulk request has settled. -/
def bulkSettled
    (surroundings : Surroundings)
    (loop : Option Loop)
    (dlqId : Nat)
    (entry : DLQEntry)
    (record : SourceRecord) :
    Except String BulkResponse → List SinkReply × Call
  | .error message => ([], handleError loop dlqId message)
  | .ok response =>
      match ElasticsearchSink.parseBulkResponse number [record] response with
      | none => ([], handleError loop dlqId surroundings.typeError)
      | some result =>
          let next :=
            checkFailures loop dlqId result
              (dispatchRabbitMQ surroundings loop dlqId entry record)
          ({ dlqId, record, sink := .elasticsearch, result } :: next.1, next.2)

/-!
## The machine
-/

/-- What a call awaits settles, and the call runs on. -/
inductive Act where
  /-- The query is executed at that instant, and fulfilled. -/
  | execute
      (now : Int) (order : DLQStore.AgeOrder) (surroundings : Surroundings)
  /-- The query is rejected; an update may have taken effect. -/
  | reject (applied : Bool) (now : Int) (message : String)
  | bulk
      (answer : Except String BulkResponse)
      (surroundings : Surroundings)
  | channel (answer : RabbitMQSink.Answer)

/-- What other parts of the pipeline do. -/
inductive Env where
  /-- `POST /api/dlq/:id/retry` -/
  | retryEntry (dlqId : Nat)
  /-- `POST /api/dlq/retry-all` -/
  | retryAllPending
  /-- A runner quarantines the failures of a batch. -/
  | persistFailures (now : Int) (failures : List NewDLQEntry)
  /-- The process dies with all its calls. -/
  | kill
  deriving Repr

/-- Replies are noted, and the queue is as it was. -/
def noted
    (shared : Shared)
    (next : List SinkReply × Call) : Shared × Call × List Call :=
  ({ shared with replies := shared.replies ++ next.1 }, next.2, [])

/-- One step of one call. -/
def act
    (_ : Unit)
    (shared : Shared) :
    Call → Act → Option (Shared × Call × List Call)
  | .awaiting loop .getPendingEntries, .execute _ order _ =>
      loop.map fun loop =>
        (shared,
          readPage loop (DLQStore.getPendingEntries order 100 shared.queue),
          [])
  | .awaiting _ .getPendingEntries, .reject _ _ _ =>
      some (shared, .threw, [])
  | .awaiting loop (.getEntryById dlqId), .execute _ _ surroundings =>
      some
        (noted shared
          (lookedUp parse number surroundings loop dlqId
            (DLQStore.getEntryById shared.queue dlqId)))
  | .awaiting _ (.getEntryById _), .reject _ _ _ =>
      some (shared, .threw, [])
  | .awaiting loop (.bulkUpsert dlqId entry record),
      .bulk answer surroundings =>
      some
        (noted shared
          (bulkSettled number surroundings loop dlqId entry record answer))
  | .awaiting loop (.publishBatch dlqId entry record call),
      .channel answer =>
      (RabbitMQSink.step call answer).map fun next =>
        noted shared (publishing loop dlqId entry record next)
  | .awaiting loop (.recordRetryFailure dlqId reason _),
      .execute now _ _ =>
      some
        ({ shared with
            queue := DLQStore.recordRetryFailure now dlqId shared.queue },
          returnEntry loop dlqId { success := false, error := reason }, [])
  | .awaiting loop (.recordRetryFailure dlqId _ inCatch),
      .reject applied now message =>
      some
        ({ shared with
            queue :=
              if applied then
                DLQStore.recordRetryFailure now dlqId shared.queue
              else
                shared.queue },
          if inCatch then .threw else handleError loop dlqId message, [])
  | .awaiting loop (.markStatus dlqId), .execute now _ _ =>
      some
        ({ shared with
            queue := DLQStore.markStatus now dlqId .resolved shared.queue },
          returnEntry loop dlqId { success := true, error := none }, [])
  | .awaiting loop (.markStatus dlqId), .reject applied now message =>
      some
        ({ shared with
            queue :=
              if applied then
                DLQStore.markStatus now dlqId .resolved shared.queue
              else
                shared.queue },
          handleError loop dlqId message, [])
  | _, _ => none

/-- A request, an insert, or the death of the process. -/
def env
    (_ : Unit)
    (shared : Shared)
    (calls : List Call) : Env → Option (Shared × List Call)
  | .retryEntry dlqId => some (shared, calls ++ [retryEntry dlqId])
  | .retryAllPending => some (shared, calls ++ [retryAllPending])
  | .persistFailures now failures =>
      (DLQStore.persistFailures parse now shared.queue failures).map
        fun queue => ({ shared with queue }, calls)
  | .kill => some (shared, [])

/-- The replay endpoints and their queue as a task machine. -/
def machine : TaskMachine Unit Shared Call Act Env Empty where
  act := act parse number
  env := env parse
  change := fun _ event => event.elim

end Bodies

/-- The calls and the queue they share. -/
abbrev World := TaskMachine.World Unit Shared Call

/-- An event of the machine. -/
abbrev Event := TaskMachine.Event Act Env Empty

/-- Nothing has been quarantined yet. -/
def initial : World where
  context := ()
  shared := { queue := [], replies := [] }
  tasks := []

/-- Any call may go on at any time, and anything may be inserted. -/
def Unrestricted (_ : World) (_ : Event) : Prop := True

instance (world : World) (event : Event) :
    Decidable (Unrestricted world event) :=
  isTrue trivial

/-!
## What a step can do
-/

/-- Every step of one call. -/
inductive Step
    (parse : String → Option Json)
    (number : Text → Option JsNumber)
    (shared : Shared) :
    Call → Shared → Call → Prop where
  | page (loop : Loop) (order : DLQStore.AgeOrder) :
      Step parse number shared
        (.awaiting (some loop) .getPendingEntries) shared
        (readPage loop (DLQStore.getPendingEntries order 100 shared.queue))
  | queryRejected (loop : Option Loop) (await : Await) :
      Step parse number shared (.awaiting loop await) shared .threw
  | lookedUp
      (loop : Option Loop)
      (dlqId : Nat)
      (surroundings : Surroundings)
      {replies : List SinkReply}
      {next : Call}
      (runs :
        lookedUp parse number surroundings loop dlqId
            (DLQStore.getEntryById shared.queue dlqId) =
          (replies, next)) :
      Step parse number shared
        (.awaiting loop (.getEntryById dlqId))
        { shared with replies := shared.replies ++ replies } next
  | bulkSettled
      (loop : Option Loop)
      (dlqId : Nat)
      (entry : DLQEntry)
      (record : SourceRecord)
      (answer : Except String BulkResponse)
      (surroundings : Surroundings)
      {replies : List SinkReply}
      {next : Call}
      (runs :
        bulkSettled number surroundings loop dlqId entry record answer =
          (replies, next)) :
      Step parse number shared
        (.awaiting loop (.bulkUpsert dlqId entry record))
        { shared with replies := shared.replies ++ replies } next
  | published
      (loop : Option Loop)
      (dlqId : Nat)
      (entry : DLQEntry)
      (record : SourceRecord)
      {call after : RabbitMQSink.PublishBatch}
      {answer : RabbitMQSink.Answer}
      (stepped : RabbitMQSink.step call answer = some after)
      {replies : List SinkReply}
      {next : Call}
      (runs : publishing loop dlqId entry record after = (replies, next)) :
      Step parse number shared
        (.awaiting loop (.publishBatch dlqId entry record call))
        { shared with replies := shared.replies ++ replies } next
  | failureRecorded
      (loop : Option Loop)
      (dlqId : Nat)
      (reason : Json)
      (inCatch : Bool)
      (now : Int) :
      Step parse number shared
        (.awaiting loop (.recordRetryFailure dlqId reason inCatch))
        { shared with
          queue := DLQStore.recordRetryFailure now dlqId shared.queue }
        (returnEntry loop dlqId { success := false, error := reason })
  | failureRejected
      (loop : Option Loop)
      (dlqId : Nat)
      (reason : Json)
      (message : String)
      (inCatch applied : Bool)
      (now : Int) :
      Step parse number shared
        (.awaiting loop (.recordRetryFailure dlqId reason inCatch))
        { shared with
          queue :=
            if applied then
              DLQStore.recordRetryFailure now dlqId shared.queue
            else
              shared.queue }
        (if inCatch then .threw else handleError loop dlqId message)
  | marked (loop : Option Loop) (dlqId : Nat) (now : Int) :
      Step parse number shared
        (.awaiting loop (.markStatus dlqId))
        { shared with
          queue := DLQStore.markStatus now dlqId .resolved shared.queue }
        (returnEntry loop dlqId { success := true, error := none })
  | markRejected
      (loop : Option Loop)
      (dlqId : Nat)
      (message : String)
      (applied : Bool)
      (now : Int) :
      Step parse number shared
        (.awaiting loop (.markStatus dlqId))
        { shared with
          queue :=
            if applied then
              DLQStore.markStatus now dlqId .resolved shared.queue
            else
              shared.queue }
        (handleError loop dlqId message)

/-- Every step of the machine is in the list, and no step spawns a call. -/
theorem act_spec
    {parse : String → Option Json}
    {number : Text → Option JsNumber}
    {shared after : Shared}
    {call next : Call}
    {action : Act}
    {spawned : List Call}
    (moved :
      act parse number () shared call action = some (after, next, spawned)) :
    Step parse number shared call after next ∧ spawned = [] := by
  unfold act at moved
  split at moved
  · obtain ⟨loop, rfl, same⟩ := Option.map_eq_some_iff.mp moved
    cases same
    exact ⟨.page _ _, rfl⟩
  · cases moved
    exact ⟨.queryRejected _ _, rfl⟩
  · cases moved
    exact ⟨.lookedUp _ _ _ rfl, rfl⟩
  · cases moved
    exact ⟨.queryRejected _ _, rfl⟩
  · cases moved
    exact ⟨.bulkSettled _ _ _ _ _ _ rfl, rfl⟩
  · obtain ⟨_, stepped, same⟩ := Option.map_eq_some_iff.mp moved
    cases same
    exact ⟨.published _ _ _ _ stepped rfl, rfl⟩
  · cases moved
    exact ⟨.failureRecorded _ _ _ _ _, rfl⟩
  · cases moved
    exact ⟨.failureRejected _ _ _ _ _ _ _, rfl⟩
  · cases moved
    exact ⟨.marked _ _ _, rfl⟩
  · cases moved
    exact ⟨.markRejected _ _ _ _ _, rfl⟩
  · cases moved

end Replication.ReplayCalls
