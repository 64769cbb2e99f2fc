import Replication.CarriedRecords
import Replication.EventConsumer
import Replication.LastFetch
import Replication.PublishedEvents
import Mathlib.Data.List.Dedup

namespace Replication

/-!
# From the source table to the consumer

The backfill runner, its `publishBatch` calls, the queue they fill and the
consumer that empties it, as one system.  A kill drops the runner and its calls,
and a restart publishes again what was not committed; the queue keeps a message
until it has been settled and may deliver it any number of times, in any order.
The message id of a row version is always the same, so the consumer processes
each row version at most once, and once the backfill is completed and the queue
is drained, exactly once, unless it has a dead letter.
-/

namespace Json

/-- The number in that field. -/
def numField (name : String) (value : Json) : Option JsNumber :=
  match value.field name with
  | some (.num number) => some number
  | _ => none

/-- The body of an event on that row version. -/
def Describes (id : Nat) (version : Int) (body : Json) : Prop :=
  body.numField "source_id" = some (.ofInt id) ∧
    body.numField "version" = some (.ofInt version)

instance (id : Nat) (version : Int) : DecidablePred (Describes id version) :=
  fun _ => inferInstanceAs (Decidable (_ ∧ _))

/-- A body describes one row version. -/
theorem Describes.unique
    {id otherId : Nat}
    {version otherVersion : Int}
    {body : Json}
    (first : body.Describes id version)
    (second : body.Describes otherId otherVersion) :
    id = otherId ∧ version = otherVersion := by
  have sameId := first.1.symm.trans second.1
  have sameVersion := first.2.symm.trans second.2
  simp only [JsNumber.ofInt, Option.some.injEq, JsNumber.mk.injEq]
    at sameId sameVersion
  exact ⟨Int.ofNat.inj sameId.1, sameVersion.1⟩

end Json

namespace EffectivelyOnce

/-- A call of `publishBatch` made by the backfill. -/
structure Publication where
  records : List SourceRecord
  call : RabbitMQSink.PublishBatch
  deriving Repr

/-- A message in the queue, settled once the consumer has acked or nacked it. -/
structure QueueEntry where
  message : Message
  settled : Bool
  deriving Repr

/-- The runner, the queue and the consumer. -/
structure World where
  runner : BackfillRunner.World
  publications : List Publication
  queue : List QueueEntry
  consumer : EventConsumer
  /-- Messages ever put into the queue, kept for the proofs. -/
  placed : List Message
  /-- Events the consumer has processed, kept for the statement. -/
  executed : List Json

/-- A step of one of the three, or of the broker between them. -/
inductive Event where
  /-- A step of the runner other than those that concern `publishBatch`. -/
  | runner (event : RunnerProgram.Event)
  /-- The breaker lets that task call `publishBatch`. -/
  | publish (task : Nat) (hasChannel : Bool)
  | channel (publication : Nat) (answer : RabbitMQSink.Answer)
  /-- The task is told what its `publishBatch` has returned. -/
  | report (task publication : Nat)
  | deliver (entry : Nat) (now : Int)
  /-- The broker receives the settlement and drops the message. -/
  | remove (entry : Nat)
  deriving Repr

/-- Id and version of each record. -/
def keysOf (records : List SourceRecord) : List (Nat × Int) :=
  records.map fun record => (record.id, record.version)

/-- The runner takes a step. -/
def runnerStep
    (parse : String → Option Json)
    (batchSize : Nat)
    (world : World)
    (event : RunnerProgram.Event) : Option World :=
  ((BackfillRunner.program parse batchSize).machine.step
      world.runner event).map
    fun runner => { world with runner }

/-- Take one step of the system. -/
def step
    (parse : String → Option Json)
    (batchSize : Nat)
    (world : World) : Event → Option World
  | .runner (.act _ (.begin .rabbitmq)) => none
  | .runner (.act _ (.settle .rabbitmq (some _))) => none
  | .runner (.change _) => none
  | .runner (.env .kill) =>
      runnerStep parse batchSize { world with publications := [] }
        (.env .kill)
  | .runner event => runnerStep parse batchSize world event
  | .publish task hasChannel =>
      match world.runner.tasks[task]? with
      | none => none
      | some call =>
          let records := RunnerProgram.batchOf call
          runnerStep parse batchSize
            { world with
              publications :=
                world.publications ++
                  [⟨records, RabbitMQSink.publishBatch hasChannel records⟩] }
            (.act task (.begin .rabbitmq))
  | .channel publication answer =>
      match world.publications[publication]? with
      | none => none
      | some ⟨records, call⟩ =>
          let sent :=
            (RabbitMQSink.sent {} .recordBackfilled call answer).toList
          (RabbitMQSink.step call answer).map fun next =>
            { world with
              publications :=
                world.publications.set publication ⟨records, next⟩
              queue := world.queue ++ sent.map fun message => ⟨message, false⟩
              placed := world.placed ++ sent }
  | .report task publication =>
      match world.runner.tasks[task]?, world.publications[publication]? with
      | some call, some ⟨records, .returned result⟩ =>
          if keysOf (RunnerProgram.batchOf call) = keysOf records then
            runnerStep parse batchSize world
              (.act task (.settle .rabbitmq (some result)))
          else
            none
      | _, _ => none
  | .deliver entry now =>
      match world.queue[entry]? with
      | none => none
      | some ⟨message, settled⟩ =>
          let (consumer, settlement, event) :=
            world.consumer.handleMessage parse now message.content
              (some message.messageId)
          some
            { world with
              queue :=
                world.queue.set entry
                  ⟨message, settled || settlement.isSome⟩
              consumer
              executed := world.executed ++ event.toList }
  | .remove entry =>
      match world.queue[entry]? with
      | some ⟨_, true⟩ =>
          some { world with queue := world.queue.eraseIdx entry }
      | _ => none

/-- A freshly constructed runner and consumer, and an empty queue. -/
def initial
    (parse : String → Option Json)
    (batchSize capacity : Nat)
    (table : List SourceRow)
    (checkpoint : Option ReplicationCheckpoint) : World where
  runner := (BackfillRunner.program parse batchSize).initial table checkpoint
  publications := []
  queue := []
  consumer := .create capacity
  placed := []
  executed := []

/-- The record whose message a call is about to publish. -/
def next : RabbitMQSink.PublishBatch → Option SourceRecord
  | .publishing batch => batch.remaining.head?
  | _ => none

/-- The event that a call is about to publish, with its id and the time. -/
def nextEvent
    (uuid : String)
    (now : Int) :
    RabbitMQSink.PublishBatch → Option ReplicationEvent
  | .publishing batch =>
      batch.remaining.head?.map fun record =>
        RabbitMQSink.transformRecord {} uuid now record .recordBackfilled
          (batch.position + 1)
  | _ => none

/-- The text of an event does not contain the mark, and parses to the event. -/
def ReadsBack
    (parse : String → Option Json)
    (event : ReplicationEvent) : Prop :=
  EventConsumer.marksCorrupted event.toJson.stringify = false ∧
    parse (String.ofList event.toJson.stringify) = some event.toJson

instance (parse : String → Option Json) : DecidablePred (ReadsBack parse) :=
  fun _ => inferInstanceAs (Decidable (_ ∧ _))

/--
A random id is not empty, the events that are published with one read back, and
a `bulkUpsert` that returns names every record of its batch.
-/
def Schedule
    (parse : String → Option Json)
    (world : World) : Event → Prop
  | .runner (.act task (.settle .elasticsearch (some result))) =>
      NamesBatch world.runner task result
  | .channel publication (.published uuid now _) =>
      uuid ≠ "" ∧
        ∀ entry ∈ world.publications[publication]?,
          ∀ event ∈ nextEvent uuid now entry.call, ReadsBack parse event
  | _ => True

instance
    (parse : String → Option Json)
    (world : World) : DecidablePred (Schedule parse world)
  | .runner (.act _ (.settle .elasticsearch (some _))) =>
      inferInstanceAs (Decidable (NamesBatch _ _ _))
  | .runner (.act _ (.settle .elasticsearch none)) => isTrue trivial
  | .runner (.act _ (.settle .rabbitmq _)) => isTrue trivial
  | .runner (.act _ (.serve _)) => isTrue trivial
  | .runner (.act _ .reject) => isTrue trivial
  | .runner (.act _ (.begin _)) => isTrue trivial
  | .runner (.act _ (.turn _)) => isTrue trivial
  | .runner (.env _) => isTrue trivial
  | .runner (.change _) => isTrue trivial
  | .publish _ _ => isTrue trivial
  | .channel publication (.published _ _ _) =>
      inferInstanceAs
        (Decidable (_ ∧ ∀ entry ∈ world.publications[publication]?,
          ∀ event ∈ nextEvent _ _ entry.call, _))
  | .channel _ (.publishThrew _) => isTrue trivial
  | .channel _ .drained => isTrue trivial
  | .channel _ .confirmed => isTrue trivial
  | .channel _ (.notConfirmed _) => isTrue trivial
  | .report _ _ => isTrue trivial
  | .deliver _ _ => isTrue trivial
  | .remove _ => isTrue trivial

section Batches

variable {Cursor : Type}

/-- The records a call has fetched and may still publish. -/
def unpublished : Call Cursor → List SourceRecord
  | .fetchBatch _ (.fulfilled records) => records
  | .dispatch records _ _ => records
  | .orphan _ records _ => records
  | _ => []

/-- The batch of a sink call is part of them. -/
theorem batchOf_subset_unpublished (call : Call Cursor) :
    RunnerProgram.batchOf call ⊆ unpublished call := by
  cases call with
  | dispatch records esCall rmqCall => exact fun _ => id
  | orphan sink records call => exact fun _ => id
  | _ => exact List.nil_subset _

/-- They are carried from the fetch to the sinks. -/
theorem unpublished_carries :
    Carries (unpublished : Call Cursor → List SourceRecord) where
  fetched _ _ := rfl
  dispatched _ := List.Subset.refl _
  begun begun := by cases begun <;> exact List.Subset.refl _
  settled settled := by cases settled <;> exact List.Subset.refl _
  leftBehind member := by
    rcases mem_leftBehind member with ⟨rfl, _⟩ | ⟨rfl, _⟩ <;>
      exact List.Subset.refl _
  batchless {call} batchless := by
    cases call with
    | fetchBatch cursor answer =>
        cases answer with
        | fulfilled records => exact batchless.elim
        | _ => rfl
    | dispatch => exact batchless.elim
    | orphan => exact batchless.elim
    | _ => rfl

end Batches

section RunnerSide

variable
  {parse : String → Option Json}
  {batchSize : Nat}
  {table : List SourceRow}
  {placed more : List Message}

/-- The record is a row of the table, as the runners see it. -/
def FromTable
    (parse : String → Option Json)
    (table : List SourceRow)
    (record : SourceRecord) : Prop :=
  ∃ row ∈ table, mapRowToSourceRecord parse row = record

/-- A message of the row with that id has been placed in the queue. -/
def IdPlaced
    (table : List SourceRow)
    (placed : List Message)
    (id : Nat) : Prop :=
  ∃ row ∈ table, row.id = id ∧
    ∃ message ∈ placed, message.messageId = messageIdOf row.id row.version

/-- What is placed stays placed. -/
theorem IdPlaced.mono
    {id : Nat}
    (holds : IdPlaced table placed id)
    (grows : placed ⊆ more) :
    IdPlaced table more id := by
  obtain ⟨row, member, sameId, message, isPlaced, sameKey⟩ := holds
  exact ⟨row, member, sameId, message, grows isPlaced, sameKey⟩

/-- What holds of the runner. -/
structure RunnerSide
    (parse : String → Option Json)
    (batchSize : Nat)
    (table : List SourceRow)
    (placed : List Message)
    (runner : BackfillRunner.World) : Prop where
  reachable : BackfillRunner.Reachable parse batchSize runner
  context : runner.context = table
  concluded :
    BackfillRunner.Concluded runner →
      ∀ row ∈ table, runner.shared.Covered row
  carried :
    ∀ call ∈ runner.tasks, ∀ record ∈ unpublished call,
      FromTable parse table record
  reported :
    ∀ report ∈ runner.shared.history.reports,
      report.sink = .rabbitmq →
      ∀ id ∈ report.result.successfulIds, IdPlaced table placed id

/-- More messages do no harm. -/
theorem RunnerSide.mono
    {runner : BackfillRunner.World}
    (holds : RunnerSide parse batchSize table placed runner)
    (grows : placed ⊆ more) :
    RunnerSide parse batchSize table more runner :=
  { holds with
    reported := fun report member isRmq id successful =>
      (holds.reported report member isRmq id successful).mono grows }

/-- A report is old or is that of the call that has just been fulfilled. -/
theorem report_of_step
    {before after : BackfillRunner.World}
    {event : RunnerProgram.Event}
    {report : Report}
    (taken :
      (BackfillRunner.program parse batchSize).machine.step before event =
        some after)
    (member : report ∈ after.shared.history.reports) :
    report ∈ before.shared.history.reports ∨
      ∃ task, event = .act task (.settle report.sink (some report.result)) := by
  cases event with
  | act task action =>
      obtain ⟨call, shared, next, spawned, _, moved, rfl⟩ :=
        TaskMachine.step_act taken
      have step :=
        (BackfillRunner.program_follows parse batchSize).act_spec moved
      cases step with
      | serve now served => cases served <;> exact .inl member
      | reject rejected => exact .inl member
      | begin sink begun => exact .inl member
      | settle sink outcome settled =>
          cases outcome with
          | none => exact .inl member
          | some result =>
              rcases List.mem_append.mp member with old | new
              · exact .inl old
              · obtain rfl := List.mem_singleton.mp new
                exact .inr ⟨task, rfl⟩
      | turn now turned =>
          left
          simp only [RunnerProgram.noteDispatch] at member
          split at member <;> exact member
  | env event =>
      obtain ⟨shared, tasks, moved, rfl⟩ := TaskMachine.step_env taken
      cases event <;> cases moved <;> exact .inl member
  | change change =>
      obtain ⟨_, _, rfl⟩ := TaskMachine.step_change taken
      exact .inl member

/-- A backfill fetch returns rows of its table. -/
theorem fromTable_of_fetch
    {cursor : Nat}
    {record : SourceRecord}
    (member :
      record ∈ (BackfillRunner.program parse batchSize).fetch table cursor) :
    FromTable parse table record := by
  obtain ⟨row, inPage, rfl⟩ := List.mem_map.mp member
  exact ⟨row, (Keyset.of_mem_page inPage).1, rfl⟩

/-- What a call carries after a step comes from the table. -/
theorem RunnerSide.carried_step
    {before after : BackfillRunner.World}
    {event : RunnerProgram.Event}
    (holds : RunnerSide parse batchSize table placed before)
    (taken :
      (BackfillRunner.program parse batchSize).machine.step before event =
        some after) :
    ∀ call ∈ after.tasks, ∀ record ∈ unpublished call,
      FromTable parse table record := by
  intro other inTasks record carried
  rcases unpublished_carries.of_machine_step
      (BackfillRunner.program_follows parse batchSize) taken inTasks
      carried with
    ⟨old, inOld, wasCarried⟩ | ⟨cursor, fetched⟩
  · exact holds.carried old inOld record wasCarried
  · rw [holds.context] at fetched
    exact fromTable_of_fetch fetched

/--
A step of the runner keeps its side, if the ids it reports to the runner have
been placed.
-/
theorem RunnerSide.step
    {before after : BackfillRunner.World}
    {event : RunnerProgram.Event}
    (holds : RunnerSide parse batchSize table placed before)
    (admitted : BackfillRunner.GrowingTable before event)
    (noChange : ∀ change, event ≠ .change change)
    (reports :
      ∀ task result,
        event = .act task (.settle .rabbitmq (some result)) →
        ∀ id ∈ result.successfulIds, IdPlaced table placed id)
    (taken :
      (BackfillRunner.program parse batchSize).machine.step before event =
        some after) :
    RunnerSide parse batchSize table placed after where
  reachable := holds.reachable.step admitted taken
  context := by
    rcases TaskMachine.context_step taken with same | ⟨change, isChange, _⟩
    · exact same.trans holds.context
    · exact absurd isChange (noChange change)
  concluded := by
    intro concluded row member
    have extended := RunnerState.Extends.of_step taken
    rcases BackfillRunner.concluded_step taken concluded with
      already | ⟨cursor, pending, nothing⟩
    · exact extended.covered (holds.concluded already row member)
    · -- the fetch that finds nothing covers every row
      obtain ⟨coverage, named, keys⟩ := holds.reachable
      obtain ⟨_, parameter, _⟩ := coverage.local_ _ pending
      rw [← holds.context] at member
      exact extended.covered
        (parameter.1.all_of_fetch_nil nothing member named
          (keys.positive row member))
  carried := holds.carried_step taken
  reported := by
    intro report member isRmq
    rcases report_of_step taken member with old | ⟨task, rfl⟩
    · exact holds.reported report old isRmq
    · exact reports task report.result (by rw [isRmq])

end RunnerSide

section PublisherSide

open RabbitMQSink

variable
  {parse : String → Option Json}
  {table : List SourceRow}
  {placed more : List Message}
  {records : List SourceRecord}
  {call later : PublishBatch}
  {answer : Answer}

/-- The records whose messages are still to be published. -/
def toPublish : PublishBatch → List SourceRecord
  | .publishing batch => batch.remaining
  | .draining batch => batch.remaining
  | _ => []

/-- The ids whose messages have been accepted, or are reported so. -/
def acceptedIds : PublishBatch → List Nat
  | .publishing batch => batch.inFlightIds
  | .draining batch => batch.inFlightIds
  | .confirming batch => batch.inFlightIds
  | .returned result => result.successfulIds
  | .threw => []

/-- The loop head accepts nothing and adds nothing to publish. -/
theorem subset_of_enterLoop
    {position : Nat}
    {inFlightIds : List Nat}
    {failures : List SinkFailure}
    {remaining : List SourceRecord} :
    toPublish (enterLoop position inFlightIds failures remaining) ⊆
        remaining ∧
      acceptedIds (enterLoop position inFlightIds failures remaining) ⊆
        inFlightIds := by
  induction remaining generalizing position failures with
  | nil =>
      simp only [enterLoop]
      split
      · exact ⟨List.nil_subset _, List.nil_subset _⟩
      · exact ⟨List.nil_subset _, List.Subset.refl _⟩
  | cons record rest inductionHypothesis =>
      simp only [enterLoop]
      split
      · obtain ⟨publish, accepted⟩ :=
          @inductionHypothesis (position + 1)
            (failures ++ [corruptedFailure record])
        exact ⟨fun other member =>
          List.mem_cons_of_mem _ (publish member), accepted⟩
      · exact ⟨List.Subset.refl _, List.Subset.refl _⟩

/-- A call starts with its records, and with nothing accepted. -/
theorem subset_of_publishBatch
    (hasChannel : Bool)
    (records : List SourceRecord) :
    toPublish (publishBatch hasChannel records) ⊆ records ∧
      acceptedIds (publishBatch hasChannel records) ⊆ [] := by
  unfold publishBatch
  split
  · exact ⟨List.nil_subset _, List.Subset.refl _⟩
  · split
    · exact subset_of_enterLoop
    · exact ⟨List.nil_subset _, List.Subset.refl _⟩

/-- What a step accepts is the record whose message it has sent. -/
theorem accepted_of_step
    (taken : RabbitMQSink.step call answer = some later) :
    toPublish later ⊆ toPublish call ∧
      ∀ id ∈ acceptedIds later,
        id ∈ acceptedIds call ∨
          ∃ record ∈ next call, record.id = id ∧
            ∃ message ∈ sent {} .recordBackfilled call answer,
              message.messageId = messageIdOf record.id record.version := by
  have published
      {position : Nat}
      {record : SourceRecord}
      {rest : List SourceRecord}
      {inFlightIds : List Nat}
      {failures : List SinkFailure}
      {uuid : String}
      {now : Int}
      {room : Bool} :
      ∀ id ∈ inFlightIds ++ [record.id],
        id ∈ inFlightIds ∨
          ∃ record' ∈
              next
                (.publishing
                  ⟨position, record :: rest, inFlightIds, failures⟩),
            record'.id = id ∧
              ∃ message ∈
                  sent {} .recordBackfilled
                    (.publishing
                      ⟨position, record :: rest, inFlightIds, failures⟩)
                    (.published uuid now room),
                message.messageId =
                  messageIdOf record'.id record'.version := by
    intro id member
    rcases List.mem_append.mp member with old | new
    · exact .inl old
    · obtain rfl := List.mem_singleton.mp new
      exact .inr ⟨record, rfl, rfl, _, rfl, rfl⟩
  cases stepped_of_step taken with
  | flowing position record rest =>
      exact ⟨List.Subset.trans subset_of_enterLoop.1
          (List.subset_cons_self record rest),
        fun id member => published id (subset_of_enterLoop.2 member)⟩
  | blocked position record rest =>
      exact ⟨List.subset_cons_self record rest, published⟩
  | publishThrew position record rest =>
      exact ⟨List.Subset.trans subset_of_enterLoop.1
          (List.subset_cons_self record rest),
        fun id member => .inl (subset_of_enterLoop.2 member)⟩
  | drained batch =>
      exact ⟨subset_of_enterLoop.1,
        fun id member => .inl (subset_of_enterLoop.2 member)⟩
  | confirmed batch =>
      exact ⟨List.nil_subset _, fun id member => .inl member⟩
  | notConfirmed => exact ⟨List.nil_subset _, List.forall_mem_nil _⟩

/-- The record that is published next is among those to publish. -/
theorem mem_toPublish_of_next
    {record : SourceRecord}
    (isNext : record ∈ next call) :
    record ∈ toPublish call := by
  cases call with
  | publishing batch => exact List.mem_of_mem_head? isNext
  | _ => cases isNext

/-- A message that is sent carries the event of the next record. -/
theorem sent_spec
    {message : Message}
    (isSent : message ∈ sent {} .recordBackfilled call answer) :
    ∃ record ∈ next call,
      message.messageId = messageIdOf record.id record.version ∧
        ∃ uuid now room event,
          answer = .published uuid now room ∧
            event ∈ nextEvent uuid now call ∧
            message.content = event.toJson.stringify ∧
            event.eventId = uuid ∧
            event.toJson.Describes record.id record.version := by
  unfold sent at isSent
  split at isSent
  · rename_i batch uuid now room
    obtain ⟨record, isHead, rfl⟩ := Option.map_eq_some_iff.mp isSent
    refine ⟨record, isHead, rfl, uuid, now, room, _, rfl,
      Option.mem_map_of_mem _ isHead, rfl, rfl, ?_⟩
    exact ⟨rfl, rfl⟩
  · cases isSent

/-- What holds of one call of `publishBatch`. -/
structure PublisherSide
    (parse : String → Option Json)
    (table : List SourceRow)
    (placed : List Message)
    (publication : Publication) : Prop where
  accounts : publication.call.Accounts publication.records
  fromTable :
    ∀ record ∈ toPublish publication.call, FromTable parse table record
  accepted :
    ∀ id ∈ acceptedIds publication.call, IdPlaced table placed id

/-- More messages do no harm. -/
theorem PublisherSide.mono
    {publication : Publication}
    (holds : PublisherSide parse table placed publication)
    (grows : placed ⊆ more) :
    PublisherSide parse table more publication :=
  { holds with
    accepted := fun id member => (holds.accepted id member).mono grows }

/-- A call that has just been made. -/
theorem PublisherSide.start
    (hasChannel : Bool)
    (fromTable : ∀ record ∈ records, FromTable parse table record) :
    PublisherSide parse table placed
      ⟨records, publishBatch hasChannel records⟩ where
  accounts := accounts_publishBatch hasChannel
  fromTable record member :=
    fromTable record ((subset_of_publishBatch hasChannel records).1 member)
  accepted id member := by
    cases (subset_of_publishBatch hasChannel records).2 member

/-- A channel operation settles, and its message is placed. -/
theorem PublisherSide.step
    (holds : PublisherSide parse table placed ⟨records, call⟩)
    (taken : RabbitMQSink.step call answer = some later) :
    PublisherSide parse table
      (placed ++ (sent {} .recordBackfilled call answer).toList)
      ⟨records, later⟩ := by
  obtain ⟨publish, accepted⟩ := accepted_of_step taken
  refine ⟨accounts_step holds.accounts taken,
    fun record member => holds.fromTable record (publish member), ?_⟩
  intro id member
  rcases accepted id member with
    old | ⟨record, isNext, rfl, message, isSent, sameKey⟩
  · exact (holds.accepted id old).mono (List.subset_append_left _ _)
  · obtain ⟨row, inTable, rfl⟩ :=
      holds.fromTable record (mem_toPublish_of_next isNext)
    exact ⟨row, inTable, rfl, message,
      List.mem_append_right _ (Option.mem_toList.mpr isSent), sameKey⟩

end PublisherSide

section ConsumerSide

variable
  {parse : String → Option Json}
  {capacity : Nat}
  {table : List SourceRow}
  {placed : List Message}
  {queue : List QueueEntry}
  {consumer : EventConsumer}
  {executed : List Json}

/-- The key of a row. -/
def rowKey (row : SourceRow) : Text :=
  messageIdOf row.id row.version

/-- The message is that of the row, and it is read as an event on its version. -/
def Genuine
    (parse : String → Option Json)
    (table : List SourceRow)
    (message : Message) : Prop :=
  ∃ row ∈ table, message.messageId = rowKey row ∧
    ∃ body,
      EventConsumer.readEvent parse message.content = some body ∧
        body.Describes row.id row.version

/-- What is sent for a row of the table is genuine. -/
theorem genuine_of_sent
    {call : RabbitMQSink.PublishBatch}
    {answer : RabbitMQSink.Answer}
    {message : Message}
    (fromTable : ∀ record ∈ next call, FromTable parse table record)
    (readsBack :
      ∀ uuid now room, answer = .published uuid now room →
        uuid ≠ "" ∧ ∀ event ∈ nextEvent uuid now call, ReadsBack parse event)
    (isSent :
      message ∈ RabbitMQSink.sent {} .recordBackfilled call answer) :
    Genuine parse table message := by
  obtain ⟨record, isNext, sameKey, uuid, now, room, event, isAnswer, isEvent,
    content, sameId, describes⟩ := sent_spec isSent
  obtain ⟨row, inTable, rfl⟩ := fromTable record isNext
  obtain ⟨identified, each⟩ := readsBack uuid now room isAnswer
  obtain ⟨unmarked, parses⟩ := each event isEvent
  rw [PublishedEvents.marksCorrupted_stringify,
    PublishedEvents.carriesMark_event] at unmarked
  refine ⟨row, inTable, sameKey, event.toJson, ?_, describes⟩
  rw [content, PublishedEvents.readEvent_event (sameId ▸ identified) parses,
    unmarked]
  rfl

/-- The body was processed under that key. -/
def ProcessedAs
    (table : List SourceRow)
    (body : Json)
    (key : Text) : Prop :=
  ∃ row ∈ table, key = rowKey row ∧ body.Describes row.id row.version

/-- What holds of the queue and the consumer. -/
structure ConsumerSide
    (parse : String → Option Json)
    (capacity : Nat)
    (table : List SourceRow)
    (placed : List Message)
    (queue : List QueueEntry)
    (consumer : EventConsumer)
    (executed : List Json) : Prop where
  genuine : ∀ message ∈ placed, Genuine parse table message
  queued :
    ∀ entry ∈ queue,
      entry.message ∈ placed ∧
        (entry.settled = true →
          entry.message.messageId ∈ consumer.deduplicationStore.cache)
  arrived :
    ∀ message ∈ placed,
      (∃ entry ∈ queue, entry.message = message) ∨
        message.messageId ∈ consumer.deduplicationStore.cache
  processed :
    List.Forall₂ (ProcessedAs table) executed
      consumer.deduplicationStore.cache
  capacity : consumer.deduplicationStore.maxCapacity = max 1 capacity

/-- New messages of rows of the table are queued. -/
theorem ConsumerSide.place
    (holds :
      ConsumerSide parse capacity table placed queue consumer executed)
    {messages : List Message}
    (genuine : ∀ message ∈ messages, Genuine parse table message) :
    ConsumerSide parse capacity table (placed ++ messages)
      (queue ++ messages.map fun message => ⟨message, false⟩)
      consumer executed where
  genuine message member := by
    rcases List.mem_append.mp member with old | new
    · exact holds.genuine message old
    · exact genuine message new
  queued entry member := by
    rcases List.mem_append.mp member with old | new
    · obtain ⟨isPlaced, settled⟩ := holds.queued entry old
      exact ⟨List.mem_append_left _ isPlaced, settled⟩
    · obtain ⟨message, isNew, rfl⟩ := List.mem_map.mp new
      exact ⟨List.mem_append_right _ isNew, nofun⟩
  arrived message member := by
    rcases List.mem_append.mp member with old | new
    · rcases holds.arrived message old with ⟨entry, inQueue, same⟩ | done
      · exact .inl ⟨entry, List.mem_append_left _ inQueue, same⟩
      · exact .inr done
    · exact .inl ⟨⟨message, false⟩,
        List.mem_append_right _ (List.mem_map_of_mem new), rfl⟩
  processed := holds.processed
  capacity := holds.capacity

/-- A settled message leaves the queue. -/
theorem ConsumerSide.remove
    (holds :
      ConsumerSide parse capacity table placed queue consumer executed)
    {index : Nat}
    {message : Message}
    (found : queue[index]? = some ⟨message, true⟩) :
    ConsumerSide parse capacity table placed (queue.eraseIdx index)
      consumer executed :=
  { holds with
    queued := fun entry member =>
      holds.queued entry (List.mem_of_mem_eraseIdx member)
    arrived := by
      intro other member
      rcases holds.arrived other member with ⟨entry, inQueue, rfl⟩ | done
      · obtain ⟨position, atPosition⟩ := List.mem_iff_getElem?.mp inQueue
        by_cases same : position = index
        · subst position
          rw [found] at atPosition
          cases atPosition
          exact .inr ((holds.queued _ inQueue).2 rfl)
        · exact .inl ⟨entry,
            List.mem_eraseIdx_iff_getElem?.mpr
              ⟨position, same, atPosition⟩, rfl⟩
      · exact .inr done }

/-- A delivered message is settled, whatever else the consumer records. -/
theorem ConsumerSide.settle
    (holds :
      ConsumerSide parse capacity table placed queue consumer executed)
    {later : EventConsumer}
    {events : List Json}
    {index : Nat}
    {message : Message}
    {settled : Bool}
    (found : queue[index]? = some ⟨message, settled⟩)
    (grows :
      consumer.deduplicationStore.cache ⊆ later.deduplicationStore.cache)
    (recorded : message.messageId ∈ later.deduplicationStore.cache)
    (processed :
      List.Forall₂ (ProcessedAs table) events
        later.deduplicationStore.cache)
    (capacity_ : later.deduplicationStore.maxCapacity = max 1 capacity) :
    ConsumerSide parse capacity table placed
      (queue.set index ⟨message, true⟩) later events where
  genuine := holds.genuine
  queued entry member := by
    rcases List.mem_or_eq_of_mem_set member with old | rfl
    · obtain ⟨isPlaced, before⟩ := holds.queued entry old
      exact ⟨isPlaced, fun isSettled => grows (before isSettled)⟩
    · obtain ⟨isPlaced, _⟩ :=
        holds.queued _ (List.mem_of_getElem? found)
      exact ⟨isPlaced, fun _ => recorded⟩
  arrived other member := by
    rcases holds.arrived other member with ⟨entry, inQueue, rfl⟩ | done
    · obtain ⟨position, atPosition⟩ := List.mem_iff_getElem?.mp inQueue
      by_cases same : index = position
      · subst position
        rw [found] at atPosition
        cases atPosition
        exact .inr recorded
      · refine .inl ⟨entry, ?_, rfl⟩
        rw [← List.getElem?_set_ne same] at atPosition
        exact List.mem_of_getElem? atPosition
    · exact .inr (grows done)
  processed := processed
  capacity := capacity_

/-- Every recorded key is that of a row. -/
theorem exists_row_of_processed
    {cache : List Text}
    {key : Text}
    (processed : List.Forall₂ (ProcessedAs table) executed cache)
    (member : key ∈ cache) :
    ∃ row ∈ table, key = rowKey row := by
  induction processed with
  | nil => cases member
  | cons first _ inductionHypothesis =>
      rcases List.mem_cons.mp member with rfl | later
      · obtain ⟨row, inTable, sameKey, _⟩ := first
        exact ⟨row, inTable, sameKey⟩
      · exact inductionHypothesis later

/-- A row version has been processed as often as its key is recorded. -/
theorem countP_executed
    {cache : List Text}
    (processed : List.Forall₂ (ProcessedAs table) executed cache)
    (id : Nat)
    (version : Int) :
    executed.countP (fun body => body.Describes id version) =
      cache.count (messageIdOf id version) := by
  induction processed with
  | nil => rfl
  | @cons body key _ _ first _ inductionHypothesis =>
      obtain ⟨row, _, rfl, described⟩ := first
      have same :
          body.Describes id version ↔
            rowKey row = messageIdOf id version := by
        constructor
        · intro other
          obtain ⟨rfl, rfl⟩ := described.unique other
          rfl
        · intro sameKey
          obtain ⟨rfl, rfl⟩ := messageIdOf_inj sameKey
          exact described
      rw [List.countP_cons, List.count_cons, inductionHypothesis]
      simp only [decide_eq_true_eq, beq_iff_eq, same]

/-- The store has room for the key of a row that is not recorded yet. -/
theorem room_of_new
    {cache : List Text}
    {row : SourceRow}
    (processed : List.Forall₂ (ProcessedAs table) executed cache)
    (nodup : cache.Nodup)
    (inTable : row ∈ table)
    (new : rowKey row ∉ cache)
    (distinct :
      (table.map fun row => (row.id, row.version)).dedup.length ≤
        capacity) :
    cache.length < max 1 capacity := by
  let pairs := (table.map fun row => (row.id, row.version)).dedup
  have isKey :
      ∀ row ∈ table,
        rowKey row ∈ pairs.map fun pair => messageIdOf pair.1 pair.2 := by
    intro row member
    exact List.mem_map.mpr ⟨(row.id, row.version),
      List.mem_dedup.mpr (List.mem_map_of_mem member), rfl⟩
  have subset :
      rowKey row :: cache ⊆
        pairs.map fun pair => messageIdOf pair.1 pair.2 := by
    intro key member
    rcases List.mem_cons.mp member with rfl | recorded
    · exact isKey row inTable
    · obtain ⟨other, otherInTable, rfl⟩ :=
        exists_row_of_processed processed recorded
      exact isKey other otherInTable
  have length :=
    (List.subperm_of_subset (List.nodup_cons.mpr ⟨new, nodup⟩)
      subset).length_le
  simp only [List.length_cons, List.length_map] at length
  have enough : pairs.length ≤ capacity := distinct
  omega

/-- The message id is the key. -/
theorem keyOf_rowKey
    (row : SourceRow)
    (body : Json) :
    EventConsumer.keyOf (some (rowKey row)) body = some (rowKey row) := rfl

/-- The consumer handles a message of the queue. -/
theorem ConsumerSide.deliver
    (holds :
      ConsumerSide parse capacity table placed queue consumer executed)
    (distinct :
      (table.map fun row => (row.id, row.version)).dedup.length ≤
        capacity)
    {index : Nat}
    {message : Message}
    {settled : Bool}
    (found : queue[index]? = some ⟨message, settled⟩)
    (now : Int) :
    ConsumerSide parse capacity table placed
      (queue.set index
        ⟨message,
          settled ||
            (consumer.handleMessage parse now message.content
              (some message.messageId)).2.1.isSome⟩)
      (consumer.handleMessage parse now message.content
        (some message.messageId)).1
      (executed ++
        (consumer.handleMessage parse now message.content
          (some message.messageId)).2.2.toList) := by
  obtain ⟨isPlaced, _⟩ := holds.queued _ (List.mem_of_getElem? found)
  obtain ⟨row, inTable, sameKey, body, read, described⟩ :=
    holds.genuine message isPlaced
  have isKey :
      EventConsumer.keyOf (some message.messageId) body =
        some message.messageId := by
    rw [sameKey, keyOf_rowKey]
  simp only [EventConsumer.handleMessage, read, isKey]
  by_cases known :
      message.messageId ∈ consumer.deduplicationStore.cache
  · simp only [DeduplicationStore.isDuplicate, known, decide_true,
      if_true, Option.toList_none, List.append_nil, Option.isSome_some,
      Bool.or_true]
    exact holds.settle found (List.Subset.refl _) known holds.processed
      holds.capacity
  · have room :
        consumer.deduplicationStore.cache.length <
          consumer.deduplicationStore.maxCapacity := by
      rw [holds.capacity]
      rw [sameKey] at known
      exact room_of_new holds.processed
        consumer.deduplicationStore.nodup inTable known distinct
    have appended := DeduplicationStore.cache_record_of_room known room
    simp only [DeduplicationStore.isDuplicate, known, decide_false,
      Bool.false_eq_true, if_false, Option.toList_some,
      Option.isSome_some, Bool.or_true]
    refine holds.settle found ?_ ?_ ?_ ?_
    · rw [appended]
      exact List.subset_append_left _ _
    · rw [appended]
      exact List.mem_append_right _ (List.mem_singleton_self _)
    · rw [appended]
      exact List.rel_append holds.processed
        (.cons ⟨row, inTable, sameKey, described⟩ .nil)
    · rw [DeduplicationStore.maxCapacity_record]
      exact holds.capacity

end ConsumerSide

section System

variable
  {parse : String → Option Json}
  {batchSize capacity : Nat}
  {table : List SourceRow}
  {checkpoint : Option ReplicationCheckpoint}
  {before after world : World}

/-- What holds of the whole system. -/
structure Consistent
    (parse : String → Option Json)
    (batchSize capacity : Nat)
    (table : List SourceRow)
    (world : World) : Prop where
  runner : RunnerSide parse batchSize table world.placed world.runner
  publications :
    ∀ publication ∈ world.publications,
      PublisherSide parse table world.placed publication
  consumer :
    ConsumerSide parse capacity table world.placed world.queue
      world.consumer world.executed

/-- A step of the runner, with the calls of `publishBatch` it leaves. -/
theorem Consistent.runnerStep
    {publications : List Publication}
    (holds : Consistent parse batchSize capacity table before)
    (event : RunnerProgram.Event)
    (each :
      ∀ publication ∈ publications,
        PublisherSide parse table before.placed publication)
    (admitted : BackfillRunner.GrowingTable before.runner event)
    (noChange : ∀ change, event ≠ .change change)
    (reports :
      ∀ task result,
        event = .act task (.settle .rabbitmq (some result)) →
        ∀ id ∈ result.successfulIds, IdPlaced table before.placed id)
    (taken :
      runnerStep parse batchSize { before with publications } event =
        some after) :
    Consistent parse batchSize capacity table after := by
  obtain ⟨runner, stepped, rfl⟩ := Option.map_eq_some_iff.mp taken
  exact ⟨holds.runner.step admitted noChange reports stepped, each,
    holds.consumer⟩

/-- The result of a call names every record of a batch with the same keys. -/
theorem names_of_keysOf
    {batch records : List SourceRecord}
    {result : SinkResult}
    (same : keysOf batch = keysOf records)
    (names : result.Names records) :
    result.Names batch := by
  intro record member
  have isKey : (record.id, record.version) ∈ keysOf records := by
    rw [← same]
    exact List.mem_map_of_mem member
  obtain ⟨other, otherMember, sameKey⟩ := List.mem_map.mp isKey
  have sameId : other.id = record.id := congrArg Prod.fst sameKey
  rw [← sameId]
  exact names other otherMember

/-- A step of the runner that does not concern `publishBatch`. -/
theorem Consistent.ofRunner
    {event : RunnerProgram.Event}
    (holds : Consistent parse batchSize capacity table before)
    (admitted : Schedule parse before (.runner event))
    (taken : step parse batchSize before (.runner event) = some after) :
    Consistent parse batchSize capacity table after := by
  cases event with
  | change change => cases taken
  | env control =>
      cases control with
      | start =>
          exact holds.runnerStep (.env .start) holds.publications trivial
            nofun nofun taken
      | pause =>
          exact holds.runnerStep (.env .pause) holds.publications trivial
            nofun nofun taken
      | kill =>
          -- the calls of `publishBatch` die with the process
          refine holds.runnerStep (.env .kill) ?_ trivial nofun nofun taken
          simp
  | act task action =>
      cases action with
      | serve now =>
          exact holds.runnerStep (.act task (.serve now))
            holds.publications trivial nofun nofun taken
      | reject =>
          exact holds.runnerStep (.act task .reject)
            holds.publications trivial nofun nofun taken
      | turn now =>
          exact holds.runnerStep (.act task (.turn now))
            holds.publications trivial nofun nofun taken
      | begin sink =>
          cases sink with
          | elasticsearch =>
              exact holds.runnerStep (.act task (.begin .elasticsearch))
                holds.publications trivial nofun nofun taken
          | rabbitmq => cases taken
      | settle sink outcome =>
          cases outcome with
          | none =>
              refine holds.runnerStep (.act task (.settle sink none))
                holds.publications trivial nofun nofun ?_
              cases sink <;> exact taken
          | some result =>
              cases sink with
              | elasticsearch =>
                  exact holds.runnerStep
                    (.act task (.settle .elasticsearch (some result)))
                    holds.publications admitted nofun nofun taken
              | rabbitmq => cases taken

/-- Every step of the system keeps it consistent. -/
theorem Consistent.step
    {event : Event}
    (holds : Consistent parse batchSize capacity table before)
    (distinct :
      (table.map fun row => (row.id, row.version)).dedup.length ≤
        capacity)
    (admitted : Schedule parse before event)
    (taken : step parse batchSize before event = some after) :
    Consistent parse batchSize capacity table after := by
  cases event with
  | runner event => exact holds.ofRunner admitted taken
  | publish task hasChannel =>
      simp only [EffectivelyOnce.step] at taken
      split at taken
      · cases taken
      · rename_i call found
        refine holds.runnerStep (.act task (.begin .rabbitmq)) ?_ trivial
          nofun nofun taken
        intro publication member
        rcases List.mem_append.mp member with old | new
        · exact holds.publications publication old
        · obtain rfl := List.mem_singleton.mp new
          refine .start hasChannel fun record inBatch => ?_
          exact holds.runner.carried call (List.mem_of_getElem? found)
            record (batchOf_subset_unpublished call inBatch)
  | channel publication answer =>
      simp only [EffectivelyOnce.step] at taken
      split at taken
      · cases taken
      · rename_i records call found
        obtain ⟨later, stepped, rfl⟩ := Option.map_eq_some_iff.mp taken
        have side :=
          holds.publications _ (List.mem_of_getElem? found)
        refine ⟨holds.runner.mono (List.subset_append_left _ _), ?_,
          holds.consumer.place ?_⟩
        · intro other member
          rcases List.mem_or_eq_of_mem_set member with old | rfl
          · exact (holds.publications other old).mono
              (List.subset_append_left _ _)
          · exact side.step stepped
        · intro message member
          refine genuine_of_sent
            (fun record isNext =>
              side.fromTable record (mem_toPublish_of_next isNext))
            ?_ (Option.mem_toList.mp member)
          rintro uuid now room rfl
          exact ⟨admitted.1, admitted.2 _ found⟩
  | report task publication =>
      simp only [EffectivelyOnce.step] at taken
      split at taken
      · rename_i call records result foundCall foundPublication
        split at taken
        · rename_i sameKeys
          have side :=
            holds.publications _ (List.mem_of_getElem? foundPublication)
          refine holds.runnerStep
            (.act task (.settle .rabbitmq (some result)))
            holds.publications ?_ nofun ?_ taken
          · intro other found
            rw [foundCall] at found
            cases found
            exact names_of_keysOf sameKeys side.accounts
          · rintro _ _ ⟨⟩
            exact side.accepted
        · cases taken
      · cases taken
  | deliver entry now =>
      simp only [EffectivelyOnce.step] at taken
      split at taken
      · cases taken
      · rename_i message settled found
        cases taken
        exact ⟨holds.runner, holds.publications,
          holds.consumer.deliver distinct found now⟩
  | remove entry =>
      simp only [EffectivelyOnce.step] at taken
      split at taken
      · rename_i message found
        cases taken
        exact ⟨holds.runner, holds.publications,
          holds.consumer.remove found⟩
      · cases taken

/-- The initial system is consistent. -/
theorem Consistent.initial
    (keys : PrimaryKeys table)
    (fromZero : BackfillRunner.codec.persisted checkpoint = 0)
    (notCompleted :
      checkpoint.map ReplicationCheckpoint.status ≠ some .completed) :
    Consistent parse batchSize capacity table
      (initial parse batchSize capacity table checkpoint) where
  runner :=
    { reachable := .initial keys fromZero
      context := rfl
      concluded := by
        rintro ((⟨_, member, _⟩ | completed) | ⟨_, member, _⟩ | stored)
        · cases member
        · cases completed
        · cases member
        · exact absurd stored notCompleted
      carried := nofun
      reported := nofun }
  publications := nofun
  consumer :=
    { genuine := nofun
      queued := nofun
      arrived := nofun
      processed := .nil
      capacity := rfl }

/-- The backfill is COMPLETED, in memory or in the database. -/
def Completed (world : World) : Prop :=
  world.runner.shared.memory.status = .completed ∨
    world.runner.shared.checkpoint.map ReplicationCheckpoint.status =
      some .completed

instance : DecidablePred Completed :=
  fun _ => inferInstanceAs (Decidable (_ ∨ _))

/-- A row covered at RabbitMQ without a dead letter has been placed. -/
theorem Consistent.rowKey_recorded
    (holds : Consistent parse batchSize capacity table world)
    (completed : Completed world)
    (drained : world.queue = [])
    {row : SourceRow}
    (member : row ∈ table)
    (noDeadLetter : ¬ world.runner.shared.DeadLetter .rabbitmq row.id) :
    rowKey row ∈ world.consumer.deduplicationStore.cache := by
  have concluded : BackfillRunner.Concluded world.runner :=
    completed.elim (fun status => .inl (.inr status))
      (fun stored => .inr (.inr stored))
  have covered := holds.runner.concluded concluded row member .rabbitmq
  obtain ⟨report, isReport, isRmq, successful⟩ :=
    covered.resolve_right noDeadLetter
  obtain ⟨other, otherMember, sameId, message, isPlaced, sameKey⟩ :=
    holds.runner.reported report isReport isRmq row.id successful
  have injective := holds.runner.reachable.keys.injective
  rw [holds.runner.context] at injective
  obtain rfl := injective otherMember member sameId
  rcases holds.consumer.arrived message isPlaced with
    ⟨entry, inQueue, _⟩ | recorded
  · rw [drained] at inQueue
    cases inQueue
  · rw [sameKey] at recorded
    exact recorded

end System

/--
Effectively once: no row version is ever processed twice, and once the backfill
is completed and the queue is drained, every row without a RabbitMQ dead letter
has been processed exactly once.
-/
theorem effectively_once
    {parse : String → Option Json}
    {batchSize capacity : Nat}
    {table : List SourceRow}
    {checkpoint : Option ReplicationCheckpoint}
    {events : List Event}
    {reached : World}
    (keys : PrimaryKeys table)
    (distinct :
      (table.map fun row => (row.id, row.version)).dedup.length ≤ capacity)
    (fromZero : BackfillRunner.codec.persisted checkpoint = 0)
    (notCompleted :
      checkpoint.map ReplicationCheckpoint.status ≠ some .completed)
    (run :
      Run (step parse batchSize) (Schedule parse)
        (initial parse batchSize capacity table checkpoint)
        events reached) :
    (∀ id version,
      reached.executed.countP (fun body => body.Describes id version) ≤ 1) ∧
    (Completed reached → reached.queue = [] →
      ∀ row ∈ table,
        ¬ reached.runner.shared.DeadLetter .rabbitmq row.id →
        reached.executed.countP
          (fun body => body.Describes row.id row.version) = 1) := by
  have holds := run.invariant (Consistent parse batchSize capacity table)
    (fun holds admitted taken => holds.step distinct admitted taken)
    (Consistent.initial keys fromZero notCompleted)
  have nodup := reached.consumer.deduplicationStore.nodup
  constructor
  · intro id version
    rw [countP_executed holds.consumer.processed]
    exact List.nodup_iff_count_le_one.mp nodup _
  · intro completed drained row member noDeadLetter
    rw [countP_executed holds.consumer.processed]
    exact List.count_eq_one_of_mem nodup
      (holds.rowKey_recorded completed drained member noDeadLetter)

/-- The event published for the row of the sample run. -/
def sampleEvent : ReplicationEvent :=
  RabbitMQSink.transformRecord {} "e" 0
    (mapRowToSourceRecord (fun _ => none) (sampleRow 1 0))
    .recordBackfilled 1

/-- The runner starts and publishes the batch with its first call. -/
def samplePublish : List Event :=
  [.runner (.env .start), .runner (.act 0 (.serve 0)),
    .runner (.act 0 (.turn 0)), .runner (.act 0 (.serve 0)),
    .runner (.act 0 (.turn 0)), .runner (.act 0 (.serve 0)),
    .runner (.act 0 (.turn 0)), .runner (.act 0 (.begin .elasticsearch)),
    .publish 0 true, .channel 0 (.published "e" 0 true),
    .channel 0 .confirmed]

/--
The process is killed after its first publication; the next one publishes again,
commits and completes, and the consumer receives three deliveries.
-/
def sampleKilled : List Event :=
  samplePublish ++ [.runner (.env .kill), .deliver 0 0] ++
    samplePublish ++
    [.runner
        (.act 0 (.settle .elasticsearch (some (sampleResult [1] [])))),
      .report 0 0, .runner (.act 0 (.turn 0)), .runner (.act 0 (.serve 0)),
      .runner (.act 0 (.turn 0)), .runner (.act 0 (.serve 0)),
      .runner (.act 0 (.turn 0)), .runner (.act 0 (.serve 0)),
      .runner (.act 0 (.turn 0)),
      .deliver 1 0, .remove 1, .deliver 0 0, .remove 0]

/-- The row has been processed once. -/
theorem effectively_once_killed :
    ∃ reached,
      Run (step (fun _ => some sampleEvent.toJson) 1)
        (Schedule fun _ => some sampleEvent.toJson)
        (initial (fun _ => some sampleEvent.toJson) 1 1
          [sampleRow 1 0] none)
        sampleKilled reached ∧
      reached.placed.length = 2 ∧
      reached.executed.countP (fun body => body.Describes 1 1) = 1 := by
  obtain ⟨reached, run, two, completed, drained, noDeadLetter⟩ :
      ∃ reached,
        Run (step (fun _ => some sampleEvent.toJson) 1)
          (Schedule fun _ => some sampleEvent.toJson)
          (initial (fun _ => some sampleEvent.toJson) 1 1
            [sampleRow 1 0] none)
          sampleKilled reached ∧
        reached.placed.length = 2 ∧ Completed reached ∧
        reached.queue.isEmpty = true ∧
        reached.runner.shared.deadLetterQueue.isEmpty = true :=
    Run.exists_of_replay _ (by decide +kernel)
  refine ⟨reached, run, two, ?_⟩
  refine (effectively_once ⟨by decide, by decide⟩ (by decide) rfl
    (by decide) run).2 completed (List.isEmpty_iff.mp drained)
    (sampleRow 1 0) (List.mem_singleton_self _) ?_
  rintro ⟨entry, member, _⟩
  rw [List.isEmpty_iff.mp noDeadLetter] at member
  cases member

end EffectivelyOnce

end Replication
