import Replication.CircuitBreaker
import Replication.CursorDiscipline
import Replication.SinkResults

namespace Replication.TransientTrouble

open RabbitMQSink (PublishBatch)

/-!
# Sinks that are overloaded or gone

One iteration of a runner, from its dispatch to its commit, with the operations
of both sinks and the breakers around them.  A sink reports trouble by throwing:
then the breaker counts a failure, and the dispatch is rejected.  But a bulk
request whose items are rejected for overload returns like any other, and so
does a publication whose channel has closed.  Both breakers count a success, and
the iteration files the records as dead letters and commits past them.
-/

/-- How the breaker has ended a sink call. -/
inductive Counted where
  | success
  | failure
  /-- Turned away by the health probe. -/
  | refused
  deriving DecidableEq, Repr

/-- A call of `bulkUpsert`. -/
inductive BulkUpsert where
  | requesting
  | returned (result : SinkResult)
  | threw
  deriving Repr

/-- `bulkUpsert` up to its request. -/
def bulkUpsert (now : Int) (records : List SourceRecord) : BulkUpsert :=
  if records.isEmpty then
    .returned ⟨0, 0, [], []⟩
  else
    match ElasticsearchSink.bulkUpsert now records with
    | some _ => .requesting
    | none => .threw

/-- `bulkUpsert` after the answer to its request. -/
def parsed
    (number : Text → Option JsNumber)
    (records : List SourceRecord)
    (response : BulkResponse) : BulkUpsert :=
  match ElasticsearchSink.parseBulkResponse number records response with
  | some result => .returned result
  | none => .threw

/-- `publishBatch` has begun and not ended. -/
def isRunning : PublishBatch → Bool
  | .publishing _ => true
  | .draining _ => true
  | .confirming _ => true
  | _ => false

variable {Cursor Gauges : Type}

/-- An iteration of a runner with its two sink calls. -/
structure Iteration (Cursor Gauges : Type) where
  runner : RunnerState Cursor Gauges
  call : Call Cursor
  breaker : Sink → CircuitBreaker
  counted : Sink → Option Counted
  /-- The operations, once the breakers have invoked them. -/
  bulk : Option BulkUpsert
  publish : Option PublishBatch
  /-- `this.channel` is set. -/
  hasChannel : Bool
  /-- What Elasticsearch has answered. -/
  response : Option BulkResponse
  /-- The channel has closed while `publishBatch` was running. -/
  channelClosed : Bool

/-- What an iteration depends on. -/
structure Setting (Cursor Gauges : Type) where
  program : RunnerProgram Cursor Gauges
  table : List SourceRow
  records : List SourceRecord
  number : Text → Option JsNumber
  options : Sink → CircuitBreaker.Options

/-- A step of the iteration, or of what it waits for. -/
inductive Event where
  /-- A breaker invokes the operation of its sink. -/
  | invoke (sink : Sink) (now : Int)
  /-- The health probe turns the call away. -/
  | refuse (sink : Sink) (now : Int) (jitter : Nat)
  | respond (response : BulkResponse)
  | requestFailed
  | channel (answer : RabbitMQSink.Answer)
  | channelClosed
  /-- The breaker reads the outcome of the operation. -/
  | settle (sink : Sink) (now : Int) (jitter : Nat)
  /-- A statement of the runner is executed or rejected, or it takes a turn. -/
  | runner (action : Act)
  /-- Other calls go through the breakers. -/
  | breakers (breaker : Sink → CircuitBreaker)

/-- The iteration goes on until its commit is answered. -/
def goesOn : Call Cursor → Act → Bool
  | .dispatch _ _ _, .turn _ => true
  | .persistFailures _ _ _ _, .serve _ => true
  | .persistFailures _ _ _ _, .reject => true
  | .persistFailures _ _ _ _, .turn _ => true
  | .commitCheckpoint _ _ .pending, .serve _ => true
  | .commitCheckpoint _ _ .pending, .reject => true
  | _, _ => false

/-- The breaker after the outcome of an operation, and how it has counted it. -/
def exitBreaker
    (options : CircuitBreaker.Options)
    (now : Int)
    (jitter : Nat)
    (breaker : CircuitBreaker) :
    Option SinkResult → CircuitBreaker × Counted
  | some _ => (breaker.succeeded options now, .success)
  | none => (breaker.failed options now jitter, .failure)

namespace Iteration

/-- The outcome of the operation of a sink, when it has ended. -/
def outcome (iteration : Iteration Cursor Gauges) :
    Sink → Option (Option SinkResult)
  | .elasticsearch =>
      match iteration.bulk with
      | some (.returned result) => some (some result)
      | some .threw => some none
      | _ => none
  | .rabbitmq =>
      match iteration.publish with
      | some (.returned result) => some (some result)
      | some .threw => some none
      | _ => none

/-- The operation of the sink has been invoked. -/
def invoked (iteration : Iteration Cursor Gauges) : Sink → Bool
  | .elasticsearch => iteration.bulk.isSome
  | .rabbitmq => iteration.publish.isSome

/-- The breaker invokes the operation of a sink. -/
def begin
    (setting : Setting Cursor Gauges)
    (now : Int)
    (iteration : Iteration Cursor Gauges) :
    Sink → Iteration Cursor Gauges
  | .elasticsearch =>
      { iteration with bulk := some (bulkUpsert now setting.records) }
  | .rabbitmq =>
      { iteration with
        publish :=
          some (RabbitMQSink.publishBatch iteration.hasChannel
            setting.records) }

/-- The runner hears of its sink call, if it still awaits the dispatch. -/
def inform
    (setting : Setting Cursor Gauges)
    (iteration : Iteration Cursor Gauges)
    (action : Act) : Iteration Cursor Gauges :=
  match setting.program.act setting.table iteration.runner iteration.call
    action with
  | some (runner, call, _) => { iteration with runner, call }
  | none => iteration

/-- The channel can answer in this way. -/
def permits (iteration : Iteration Cursor Gauges) :
    RabbitMQSink.Answer → Bool
  | .published _ _ _ => iteration.hasChannel
  -- the last confirm has not arrived when the channel closes
  | .confirmed => !iteration.channelClosed
  | _ => true

end Iteration

/-- Take one step of the iteration. -/
def step
    (setting : Setting Cursor Gauges)
    (iteration : Iteration Cursor Gauges) :
    Event → Option (Iteration Cursor Gauges)
  | .invoke sink now =>
      if iteration.invoked sink = false ∧ iteration.counted sink = none then
        some ((iteration.begin setting now sink).inform setting (.begin sink))
      else
        none
  | .refuse sink now jitter =>
      if iteration.invoked sink = false ∧ iteration.counted sink = none then
        some
          ({ iteration with
              breaker :=
                Function.update iteration.breaker sink
                  ((iteration.breaker sink).probeFailed
                    (setting.options sink) now jitter)
              counted :=
                Function.update iteration.counted sink
                  (some .refused) }.inform setting (.settle sink none))
      else
        none
  | .respond response =>
      match iteration.bulk with
      | some .requesting =>
          some
            { iteration with
              bulk := some (parsed setting.number setting.records response)
              response := some response }
      | _ => none
  | .requestFailed =>
      match iteration.bulk with
      | some .requesting => some { iteration with bulk := some .threw }
      | _ => none
  | .channel answer =>
      match iteration.publish with
      | some publish =>
          if iteration.permits answer then
            (RabbitMQSink.step publish answer).map fun next =>
              { iteration with publish := some next }
          else
            none
      | none => none
  | .channelClosed =>
      some
        { iteration with
          hasChannel := false
          channelClosed :=
            iteration.channelClosed || iteration.publish.any isRunning }
  | .settle sink now jitter =>
      match iteration.outcome sink, iteration.counted sink with
      | some outcome, none =>
          let (breaker, counted) :=
            exitBreaker (setting.options sink) now jitter
              (iteration.breaker sink) outcome
          some
            ({ iteration with
                breaker := Function.update iteration.breaker sink breaker
                counted :=
                  Function.update iteration.counted sink
                    (some counted) }.inform setting (.settle sink outcome))
      | _, _ => none
  | .runner action =>
      if goesOn iteration.call action then
        (setting.program.act setting.table iteration.runner iteration.call
            action).map
          fun (runner, call, _) => { iteration with runner, call }
      else
        none
  | .breakers breaker => some { iteration with breaker }

section Inversion

variable
  {setting : Setting Cursor Gauges}
  {before after : Iteration Cursor Gauges}

/-- What an iteration becomes by a step. -/
inductive Stepped
    (setting : Setting Cursor Gauges)
    (before : Iteration Cursor Gauges) : Iteration Cursor Gauges → Prop where
  | invoked
      (sink : Sink)
      (now : Int)
      (notInvoked : before.invoked sink = false) :
      Stepped setting before
        ((before.begin setting now sink).inform setting (.begin sink))
  /-- The breaker has counted the call in some way. -/
  | counted
      (sink : Sink)
      (breaker : CircuitBreaker)
      (counted : Counted)
      (outcome : Option SinkResult)
      (isFailure : counted = .failure → before.outcome sink = some none)
      (isOutcome :
        ∀ result, outcome = some result →
          before.outcome sink = some (some result)) :
      Stepped setting before
        ({ before with
            breaker := Function.update before.breaker sink breaker
            counted :=
              Function.update before.counted sink
                (some counted) }.inform setting (.settle sink outcome))
  /-- The bulk request is answered, or fails. -/
  | answered
      (bulk : BulkUpsert)
      (response : Option BulkResponse)
      (requesting : before.bulk = some .requesting)
      (isAnswer :
        response = before.response ∨
          ∃ given, response = some given ∧
            bulk = parsed setting.number setting.records given) :
      Stepped setting before { before with bulk := some bulk, response }
  | channel
      (answer : RabbitMQSink.Answer)
      (publish next : PublishBatch)
      (found : before.publish = some publish)
      (permitted : before.permits answer = true)
      (moved : RabbitMQSink.step publish answer = some next) :
      Stepped setting before { before with publish := some next }
  | channelClosed :
      Stepped setting before
        { before with
          hasChannel := false
          channelClosed :=
            before.channelClosed || before.publish.any isRunning }
  | runner
      (action : Act)
      (runner : RunnerState Cursor Gauges)
      (call : Call Cursor)
      (spawned : List (Call Cursor))
      (continues : goesOn before.call action = true)
      (moved :
        setting.program.act setting.table before.runner before.call action =
          some (runner, call, spawned)) :
      Stepped setting before { before with runner, call }
  | breakers (breaker : Sink → CircuitBreaker) :
      Stepped setting before { before with breaker }

/-- Nothing else is a step. -/
theorem stepped_of_step
    {event : Event}
    (taken : step setting before event = some after) :
    Stepped setting before after := by
  cases event with
  | invoke sink now =>
      simp only [step] at taken
      split at taken
      · rename_i fresh
        cases taken
        exact .invoked sink now fresh.1
      · cases taken
  | refuse sink now jitter =>
      simp only [step] at taken
      split at taken <;> cases taken
      exact .counted sink _ .refused none (by simp) (by simp)
  | respond response =>
      simp only [step] at taken
      split at taken
      · rename_i requesting
        cases taken
        exact .answered _ _ requesting (.inr ⟨response, rfl, rfl⟩)
      · cases taken
  | requestFailed =>
      simp only [step] at taken
      split at taken
      · rename_i requesting
        cases taken
        exact .answered _ _ requesting (.inl rfl)
      · cases taken
  | channel answer =>
      simp only [step] at taken
      split at taken
      · rename_i publish found
        split at taken
        · rename_i permitted
          obtain ⟨next, moved, rfl⟩ := Option.map_eq_some_iff.mp taken
          exact .channel answer publish next found permitted moved
        · cases taken
      · cases taken
  | channelClosed =>
      cases taken
      exact .channelClosed
  | settle sink now jitter =>
      simp only [step] at taken
      split at taken
      · rename_i outcome ended _
        cases taken
        refine .counted sink _ _ outcome (fun isFailure => ?_)
          fun result isResult => isResult ▸ ended
        cases outcome with
        | none => exact ended
        | some result => cases isFailure
      · cases taken
  | runner action =>
      simp only [step] at taken
      split at taken
      · rename_i continues
        obtain ⟨⟨runner, call, spawned⟩, moved, rfl⟩ :=
          Option.map_eq_some_iff.mp taken
        exact .runner action runner call spawned continues moved
      · cases taken
  | breakers breaker =>
      cases taken
      exact .breakers breaker

end Inversion

/-- The runner has just dispatched the batch; nothing is invoked yet. -/
def dispatched
    (setting : Setting Cursor Gauges)
    (runner : RunnerState Cursor Gauges)
    (breaker : Sink → CircuitBreaker)
    (hasChannel : Bool) : Iteration Cursor Gauges where
  runner
  call := .dispatch setting.records .waiting .waiting
  breaker
  counted := fun _ => none
  bulk := none
  publish := none
  hasChannel
  response := none
  channelClosed := false

/-! ## What is claimed of an iteration with trouble -/

/-- The status of an item that Elasticsearch may accept later. -/
def IsTransient (code : Int) : Prop :=
  code = 429 ∨ 500 ≤ code ∧ code < 600

/-- The status of an item that Elasticsearch accepts. -/
def IsAccepted (code : Int) : Prop :=
  200 ≤ code ∧ code < 300

/-- The item at that position carries that status. -/
def HasStatus (response : BulkResponse) (i : Nat) (code : Int) : Prop :=
  (ElasticsearchSink.actionItemOf (response.items.getD [])[i]?).bind
      (Json.field "status") =
    some (.num (.ofInt code))

/-- Some records are rejected for overload or unavailability, and no others. -/
structure Overloaded
    (records : List SourceRecord)
    (response : BulkResponse) : Prop where
  errors : response.errors = some true
  items :
    ∀ i < records.length, ∃ code,
      HasStatus response i code ∧ (IsAccepted code ∨ IsTransient code)
  some :
    ∃ i < records.length, ∃ code, HasStatus response i code ∧ IsTransient code

/-- The record with that id is rejected for overload or unavailability. -/
def RejectedForNow
    (records : List SourceRecord)
    (response : BulkResponse)
    (id : Nat) : Prop :=
  ∃ record ∈ records.zipIdx, ∃ code,
    record.1.id = id ∧ HasStatus response record.2 code ∧ IsTransient code

/-- The sink is in transient trouble in this iteration, with these records. -/
inductive Trouble
    (setting : Setting Cursor Gauges)
    (iteration : Iteration Cursor Gauges) : Sink → (Nat → Prop) → Prop where
  | overloaded
      {response : BulkResponse}
      (answered : iteration.response = some response)
      (overloaded : Overloaded setting.records response) :
      Trouble setting iteration .elasticsearch
        (RejectedForNow setting.records response)
  | channelClosed
      (closed : iteration.channelClosed = true) :
      Trouble setting iteration .rabbitmq
        fun id => ∃ record ∈ setting.records, record.id = id

/-- The records are retried: nothing is filed or committed, and it counts. -/
structure Retried
    (codec : CursorCodec Cursor)
    (start : RunnerState Cursor Gauges)
    (iteration : Iteration Cursor Gauges)
    (sink : Sink)
    (ids : Nat → Prop) : Prop where
  notFiled :
    ∀ entry ∈ iteration.runner.deadLetterQueue,
      (∃ id, ids id ∧ entry.recordId = some id) →
      entry ∈ start.deadLetterQueue
  notAdvanced :
    codec.persisted iteration.runner.checkpoint =
      codec.persisted start.checkpoint
  failure : iteration.counted sink = some .failure

/-- The records are given up: all are filed, and the batch is committed. -/
structure Quarantined
    (codec : CursorCodec Cursor)
    (records : List SourceRecord)
    (iteration : Iteration Cursor Gauges)
    (sink : Sink)
    (ids : Nat → Prop) : Prop where
  filed : ∀ id, ids id → iteration.runner.DeadLetter sink id
  advanced :
    ∀ last, records.getLast? = some last →
      codec.persisted iteration.runner.checkpoint = codec.ofRecord last

/-- The commit of the batch has been executed. -/
def Committed : Call Cursor → Prop
  | .commitCheckpoint _ _ (.fulfilled _) => True
  | _ => False

/-! ## What the breakers count -/

/-- A publication that its channel has left reports nothing as successful. -/
def Abandoned : PublishBatch → Prop
  | .returned result => result.successfulIds = []
  | .threw => False
  | _ => True

/-- What holds of the operations and of how they are counted. -/
structure Counts
    (setting : Setting Cursor Gauges)
    (iteration : Iteration Cursor Gauges) : Prop where
  answered :
    ∀ response, iteration.response = some response →
      iteration.bulk = some (parsed setting.number setting.records response)
  failure :
    ∀ sink, iteration.counted sink = some .failure →
      iteration.outcome sink = some none
  closed :
    iteration.channelClosed = true →
      ∃ publish, iteration.publish = some publish ∧ Abandoned publish
  accounts :
    ∀ publish, iteration.publish = some publish →
      publish.Accounts setting.records

section Counting

variable
  {setting : Setting Cursor Gauges}
  {before after iteration : Iteration Cursor Gauges}
  {sink : Sink}
  {action : Act}
  {event : Event}

/-- Being informed changes the runner and its call only. -/
theorem exists_inform :
    ∃ runner call,
      iteration.inform setting action = { iteration with runner, call } := by
  unfold Iteration.inform
  split
  · exact ⟨_, _, rfl⟩
  · exact ⟨iteration.runner, iteration.call, rfl⟩

/-- Runner and breakers do not matter to the counts. -/
theorem Counts.inform
    (counts : Counts setting iteration) :
    Counts setting (iteration.inform setting action) := by
  obtain ⟨runner, call, informed⟩ := @exists_inform _ _ setting iteration action
  rw [informed]
  exact ⟨counts.answered, counts.failure, counts.closed, counts.accounts⟩

/-- A publication that runs on without its channel stays abandoned. -/
theorem abandoned_step
    {publish next : PublishBatch}
    {answer : RabbitMQSink.Answer}
    (abandoned : Abandoned publish)
    (notConfirmed : answer ≠ .confirmed)
    (taken : RabbitMQSink.step publish answer = some next) :
    Abandoned next := by
  have entered
      (position : Nat)
      (ids : List Nat)
      (failures : List SinkFailure)
      (remaining : List SourceRecord) :
      Abandoned
        (RabbitMQSink.enterLoop position ids failures remaining) := by
    induction remaining generalizing position failures with
    | nil =>
        unfold RabbitMQSink.enterLoop
        split
        · rfl
        · trivial
    | cons record rest inductionHypothesis =>
        unfold RabbitMQSink.enterLoop
        split
        · exact inductionHypothesis _ _
        · trivial
  cases RabbitMQSink.stepped_of_step taken with
  | flowing => exact entered _ _ _ _
  | blocked => trivial
  | publishThrew => exact entered _ _ _ _
  | drained => exact entered _ _ _ _
  | confirmed => exact absurd rfl notConfirmed
  | notConfirmed => rfl

/-- The channel answers. -/
theorem Counts.channel
    {answer : RabbitMQSink.Answer}
    {publish next : PublishBatch}
    (counts : Counts setting iteration)
    (found : iteration.publish = some publish)
    (permitted : iteration.permits answer = true)
    (taken : RabbitMQSink.step publish answer = some next) :
    Counts setting { iteration with publish := some next } where
  answered := counts.answered
  failure sink counted := by
    have outcome := counts.failure sink counted
    cases sink with
    | elasticsearch => exact outcome
    | rabbitmq =>
        rw [Iteration.outcome, found] at outcome
        cases publish with
        | threw => cases taken
        | _ => cases outcome
  closed closed := by
    obtain ⟨same, isSame, abandoned⟩ := counts.closed closed
    obtain rfl := Option.some.inj (found.symm.trans isSame)
    refine ⟨next, rfl, abandoned_step abandoned ?_ taken⟩
    rintro rfl
    have isClosed : iteration.channelClosed = true := closed
    simp [Iteration.permits, isClosed] at permitted
  accounts _ isNext := by
    cases isNext
    exact RabbitMQSink.accounts_step (counts.accounts publish found) taken

/-- A breaker invokes an operation. -/
theorem Counts.begin
    {now : Int}
    (counts : Counts setting iteration)
    (fresh : iteration.invoked sink = false) :
    Counts setting (iteration.begin setting now sink) := by
  cases sink with
  | elasticsearch =>
      have none : iteration.bulk = none := by simpa [Iteration.invoked] using fresh
      refine ⟨fun response answered => ?_, fun other counted => ?_,
        counts.closed, counts.accounts⟩
      · have parsed := counts.answered response answered
        rw [none] at parsed
        cases parsed
      · have outcome := counts.failure other counted
        cases other with
        | elasticsearch =>
            rw [Iteration.outcome, none] at outcome
            cases outcome
        | rabbitmq => exact outcome
  | rabbitmq =>
      have none : iteration.publish = none := by
        simpa [Iteration.invoked] using fresh
      refine ⟨counts.answered, fun other counted => ?_, fun closed => ?_,
        fun publish isPublish => ?_⟩
      · have outcome := counts.failure other counted
        cases other with
        | elasticsearch => exact outcome
        | rabbitmq =>
            rw [Iteration.outcome, none] at outcome
            cases outcome
      · obtain ⟨_, found, _⟩ := counts.closed closed
        rw [none] at found
        cases found
      · cases isPublish
        exact RabbitMQSink.accounts_publishBatch _

/-- A breaker counts a call in some way. -/
theorem Counts.count
    {counted : Counted}
    {breaker : CircuitBreaker}
    (counts : Counts setting iteration)
    (ended : counted = .failure → iteration.outcome sink = some none) :
    Counts setting
      { iteration with
        breaker := Function.update iteration.breaker sink breaker
        counted :=
          Function.update iteration.counted sink (some counted) } where
  answered := counts.answered
  failure other isFailure := by
    dsimp only at isFailure
    by_cases same : other = sink
    · subst same
      rw [Function.update_self] at isFailure
      exact ended (Option.some.inj isFailure)
    · rw [Function.update_of_ne same] at isFailure
      exact counts.failure other isFailure
  closed := counts.closed
  accounts := counts.accounts

/-- An answer to the bulk request, or none, ends it. -/
theorem Counts.answer
    {bulk : BulkUpsert}
    {response : Option BulkResponse}
    (counts : Counts setting iteration)
    (requesting : iteration.bulk = some .requesting)
    (isAnswer :
      ∀ given, response = some given →
        bulk = parsed setting.number setting.records given) :
    Counts setting { iteration with bulk := some bulk, response } where
  answered given isGiven := congrArg some (isAnswer given isGiven)
  failure other counted := by
    have outcome := counts.failure other counted
    cases other with
    | elasticsearch =>
        rw [Iteration.outcome, requesting] at outcome
        cases outcome
    | rabbitmq => exact outcome
  closed := counts.closed
  accounts := counts.accounts

/-- Every step keeps the counts. -/
theorem counts_step
    (counts : Counts setting before)
    (taken : step setting before event = some after) :
    Counts setting after := by
  cases stepped_of_step taken with
  | invoked sink now notInvoked => exact (counts.begin notInvoked).inform
  | counted sink breaker counted outcome isFailure isOutcome =>
      exact (counts.count isFailure).inform
  | answered bulk response requesting isAnswer =>
      refine counts.answer requesting fun given isGiven => ?_
      rcases isAnswer with rfl | ⟨same, isSame, isParsed⟩
      · have parsed := counts.answered given isGiven
        rw [requesting] at parsed
        exact absurd parsed (by
          unfold TransientTrouble.parsed
          split <;> simp)
      · rw [isSame] at isGiven
        cases isGiven
        exact isParsed
  | channel answer publish next found permitted moved =>
      exact counts.channel found permitted moved
  | channelClosed =>
      refine ⟨counts.answered, counts.failure, fun closed => ?_,
        counts.accounts⟩
      rcases Bool.or_eq_true_iff.mp closed with before | now
      · exact counts.closed before
      · obtain ⟨publish, found, running⟩ := (Option.any_eq_true _ _).mp now
        refine ⟨publish, found, ?_⟩
        cases publish with
        | returned => cases running
        | threw => cases running
        | _ => trivial
  | runner =>
      exact ⟨counts.answered, counts.failure, counts.closed, counts.accounts⟩
  | breakers =>
      exact ⟨counts.answered, counts.failure, counts.closed, counts.accounts⟩

/-- An overloaded response is parsed like any other. -/
theorem exists_parsed_of_overloaded
    {response : BulkResponse}
    (overloaded : Overloaded setting.records response) :
    ∃ result,
      ElasticsearchSink.parseBulkResponse setting.number setting.records
        response = some result := by
  refine ElasticsearchSink.exists_parseBulkResponse fun i inRange => ?_
  obtain ⟨code, status, _⟩ := overloaded.items i inRange
  rw [ElasticsearchSink.statusOf, status]
  rfl

/-- No breaker counts a failure for a sink in transient trouble. -/
theorem not_failure_of_trouble
    {ids : Nat → Prop}
    (counts : Counts setting iteration)
    (trouble : Trouble setting iteration sink ids) :
    iteration.counted sink ≠ some .failure := by
  intro isFailure
  have outcome := counts.failure sink isFailure
  cases trouble with
  | @overloaded response answered overloaded =>
      obtain ⟨result, isParsed⟩ := exists_parsed_of_overloaded overloaded
      rw [Iteration.outcome, counts.answered response answered, parsed,
        isParsed] at outcome
      cases outcome
  | channelClosed closed =>
      obtain ⟨publish, found, abandoned⟩ := counts.closed closed
      rw [Iteration.outcome, found] at outcome
      cases publish with
      | threw => exact abandoned
      | _ => cases outcome

end Counting

/-! ## What the runner does with the results -/

/-- The results that the call carries are those of the operations. -/
def Carries
    (setting : Setting Cursor Gauges)
    (codec : CursorCodec Cursor)
    (iteration : Iteration Cursor Gauges) : Call Cursor → Prop
  | .dispatch records esCall rmqCall =>
      records = setting.records ∧
        (∀ result, esCall = .fulfilled result →
          iteration.bulk = some (.returned result)) ∧
        ∀ result, rmqCall = .fulfilled result →
          iteration.publish = some (.returned result)
  | .persistFailures records esResult rmqResult answer =>
      records = setting.records ∧
        iteration.bulk = some (.returned esResult) ∧
        iteration.publish = some (.returned rmqResult) ∧
        ∀ done, answer = .fulfilled done →
          Filed iteration.runner esResult rmqResult
  | .commitCheckpoint _ data answer =>
      (∃ esResult rmqResult,
        iteration.bulk = some (.returned esResult) ∧
          iteration.publish = some (.returned rmqResult) ∧
          Filed iteration.runner esResult rmqResult) ∧
        (∀ last, setting.records.getLast? = some last →
          codec.ofCommit data = codec.ofRecord last) ∧
        ∀ done, answer = .fulfilled done →
          codec.persisted iteration.runner.checkpoint = codec.ofCommit data
  | _ => True

/-- What holds of the runner between the steps. -/
structure Traced
    (setting : Setting Cursor Gauges)
    (codec : CursorCodec Cursor)
    (iteration : Iteration Cursor Gauges) : Prop where
  row : iteration.runner.checkpoint.isSome = true
  carries : Carries setting codec iteration iteration.call

section Tracing

variable
  {setting : Setting Cursor Gauges}
  {kind : RunnerKind}
  {codec : CursorCodec Cursor}
  {before after iteration : Iteration Cursor Gauges}
  {sink : Sink}
  {action : Act}
  {event : Event}

/-- Results of operations stay. -/
theorem Traced.of_same
    (traced : Traced setting codec before)
    (sameRunner : after.runner = before.runner)
    (sameCall : after.call = before.call)
    (bulk :
      ∀ result, before.bulk = some (.returned result) →
        after.bulk = some (.returned result))
    (publish :
      ∀ result, before.publish = some (.returned result) →
        after.publish = some (.returned result)) :
    Traced setting codec after := by
  refine ⟨sameRunner ▸ traced.row, ?_⟩
  have carries := traced.carries
  rw [sameCall]
  unfold Carries at carries ⊢
  rw [sameRunner]
  split at carries
  · obtain ⟨same, es, rmq⟩ := carries
    exact ⟨same, fun result isResult => bulk _ (es result isResult),
      fun result isResult => publish _ (rmq result isResult)⟩
  · obtain ⟨same, es, rmq, filed⟩ := carries
    exact ⟨same, bulk _ es, publish _ rmq, filed⟩
  · obtain ⟨⟨esResult, rmqResult, es, rmq, filed⟩, commit⟩ := carries
    exact ⟨⟨esResult, rmqResult, bulk _ es, publish _ rmq, filed⟩, commit⟩
  · trivial

/-- The bulk request has returned what the breaker reads. -/
theorem bulk_of_outcome
    {result : SinkResult}
    (ended : iteration.outcome .elasticsearch = some (some result)) :
    iteration.bulk = some (.returned result) := by
  simp only [Iteration.outcome] at ended
  split at ended
  · rename_i returned
    cases ended
    exact returned
  · cases ended
  · cases ended

/-- The publication has returned what the breaker reads. -/
theorem publish_of_outcome
    {result : SinkResult}
    (ended : iteration.outcome .rabbitmq = some (some result)) :
    iteration.publish = some (.returned result) := by
  simp only [Iteration.outcome] at ended
  split at ended
  · rename_i returned
    cases ended
    exact returned
  · cases ended
  · cases ended

/-- A dispatch that hears that a call has begun. -/
theorem carries_of_begun
    {call next : Call Cursor}
    (begun : Begun sink call next)
    (carries : Carries setting codec before call)
    (sameBulk : after.bulk = before.bulk)
    (samePublish : after.publish = before.publish) :
    Carries setting codec after next := by
  cases begun with
  | elasticsearch records rmqCall =>
      obtain ⟨same, _, rmq⟩ := carries
      refine ⟨same, fun _ started => (by cases started), ?_⟩
      rw [samePublish]
      exact rmq
  | rabbitmq records esCall =>
      obtain ⟨same, es, _⟩ := carries
      refine ⟨same, ?_, fun _ started => (by cases started)⟩
      rw [sameBulk]
      exact es
  | orphan => trivial

/-- A dispatch that hears how a call has ended. -/
theorem carries_of_settled
    {call next : Call Cursor}
    {outcome : Option SinkResult}
    (settled : Settles sink outcome call next)
    (carries : Carries setting codec before call)
    (isOutcome :
      ∀ result, outcome = some result →
        before.outcome sink = some (some result))
    (sameBulk : after.bulk = before.bulk)
    (samePublish : after.publish = before.publish) :
    Carries setting codec after next := by
  cases settled with
  | elasticsearch isSink records rmqCall settled =>
      obtain ⟨same, _, rmq⟩ := carries
      subst isSink
      refine ⟨same, fun result isResult => ?_, samePublish ▸ rmq⟩
      subst isResult
      cases settled
      exact sameBulk.trans (bulk_of_outcome (isOutcome result rfl))
  | rabbitmq isSink records esCall settled =>
      obtain ⟨same, es, _⟩ := carries
      subst isSink
      refine ⟨same, sameBulk ▸ es, fun result isResult => ?_⟩
      subst isResult
      cases settled
      exact samePublish.trans (publish_of_outcome (isOutcome result rfl))
  | orphan => trivial

/-- The runner hears that a sink call has begun. -/
theorem Traced.inform_begin
    (follows : setting.program.Follows kind codec)
    (traced : Traced setting codec iteration) :
    Traced setting codec (iteration.inform setting (.begin sink)) := by
  unfold Iteration.inform
  split
  · rename_i moved
    cases follows.act_spec moved with
    | begin _ begun =>
        exact ⟨traced.row, carries_of_begun begun traced.carries rfl rfl⟩
  · exact traced

/-- The runner hears how a sink call has ended. -/
theorem Traced.inform_settle
    {outcome : Option SinkResult}
    (follows : setting.program.Follows kind codec)
    (traced : Traced setting codec iteration)
    (isOutcome :
      ∀ result, outcome = some result →
        iteration.outcome sink = some (some result)) :
    Traced setting codec
      (iteration.inform setting (.settle sink outcome)) := by
  unfold Iteration.inform
  split
  · rename_i moved
    cases follows.act_spec moved with
    | settle _ _ settled =>
        exact ⟨traced.row,
          carries_of_settled settled traced.carries isOutcome rfl rfl⟩
  · exact traced

/-- The batch is committed once its failures are filed. -/
theorem carries_of_turn
    {call next : Call Cursor}
    {memory : Memory Cursor Gauges}
    {spawned : List (Call Cursor)}
    {now : Int}
    (turned :
      Turn kind codec iteration.runner.memory call memory next spawned)
    (continues : goesOn call (.turn now) = true)
    (carries : Carries setting codec iteration call)
    (sameQueue :
      after.runner.deadLetterQueue = iteration.runner.deadLetterQueue)
    (sameBulk : after.bulk = iteration.bulk)
    (samePublish : after.publish = iteration.publish) :
    Carries setting codec after next := by
  have refile
      {esResult rmqResult : SinkResult}
      (filed : Filed iteration.runner esResult rmqResult) :
      Filed after.runner esResult rmqResult := by
    constructor
    · intro id failed
      rw [RunnerState.DeadLetter, sameQueue]
      exact filed.elasticsearch id failed
    · intro id failed
      rw [RunnerState.DeadLetter, sameQueue]
      exact filed.rabbitmq id failed
  cases turned with
  | persisting records esResult rmqResult failures =>
      obtain ⟨same, es, rmq⟩ := carries
      exact ⟨same, sameBulk.trans (es _ rfl),
        samePublish.trans (rmq _ rfl), fun _ answered => (by cases answered)⟩
  | committing records esResult rmqResult data gauges ready commit =>
      refine ⟨⟨esResult, rmqResult, ?_⟩, ?_,
        fun _ answered => (by cases answered)⟩
      · cases ready with
        | clean noFailures =>
            obtain ⟨_, es, rmq⟩ := carries
            exact ⟨sameBulk.trans (es _ rfl), samePublish.trans (rmq _ rfl),
              refile (.of_noFailures noFailures)⟩
        | persisted answer =>
            obtain ⟨_, es, rmq, filed⟩ := carries
            exact ⟨sameBulk.trans es, samePublish.trans rmq,
              refile (filed _ rfl)⟩
      · cases ready with
        | clean noFailures => exact carries.1 ▸ commit.cursor
        | persisted answer => exact carries.1 ▸ commit.cursor
  | dispatchFailed => trivial
  | dispatchRetried => trivial
  | failed failure => trivial
  | _ => cases continues

/-- The database executes a statement of the iteration. -/
theorem traced_of_served
    {call next : Call Cursor}
    {runner : RunnerState Cursor Gauges}
    {now : Int}
    (served :
      Served setting.program setting.table now iteration.runner call runner
        next)
    (continues : goesOn call (.serve now) = true)
    (row : iteration.runner.checkpoint.isSome = true)
    (carries : Carries setting codec iteration call) :
    Traced setting codec { iteration with runner, call := next } := by
  cases served with
  | persisted records esResult rmqResult stored =>
      obtain ⟨same, es, rmq, _⟩ := carries
      exact ⟨row, same, es, rmq, fun _ _ => .of_persisted stored⟩
  | notPersisted records esResult rmqResult =>
      obtain ⟨same, es, rmq, _⟩ := carries
      exact ⟨row, same, es, rmq, fun _ answered => (by cases answered)⟩
  | committed records data =>
      obtain ⟨⟨esResult, rmqResult, es, rmq, filed⟩, cursor, _⟩ := carries
      obtain ⟨checkpoint, found⟩ := Option.isSome_iff_exists.mp row
      refine ⟨?_, ⟨esResult, rmqResult, es, rmq,
        ⟨filed.elasticsearch, filed.rabbitmq⟩⟩, cursor, fun _ _ => ?_⟩
      · dsimp only
        rw [found]
        rfl
      · dsimp only
        rw [found]
        rfl
  | _ => cases continues

/-- The statement of the iteration is rejected. -/
theorem carries_of_rejected
    {call next : Call Cursor}
    (rejected : Rejected call next)
    (continues : goesOn call .reject = true)
    (carries : Carries setting codec iteration call) :
    Carries setting codec iteration next := by
  cases rejected with
  | persist records esResult rmqResult =>
      obtain ⟨same, es, rmq, _⟩ := carries
      exact ⟨same, es, rmq, fun _ answered => (by cases answered)⟩
  | commit records data =>
      obtain ⟨results, cursor, _⟩ := carries
      exact ⟨results, cursor, fun _ answered => (by cases answered)⟩
  | _ => cases continues

/-- A step of the runner. -/
theorem Traced.runner
    {runner : RunnerState Cursor Gauges}
    {call : Call Cursor}
    {spawned : List (Call Cursor)}
    (follows : setting.program.Follows kind codec)
    (traced : Traced setting codec iteration)
    (continues : goesOn iteration.call action = true)
    (moved :
      setting.program.act setting.table iteration.runner iteration.call
        action = some (runner, call, spawned)) :
    Traced setting codec { iteration with runner, call } := by
  cases follows.act_spec moved with
  | serve now served =>
      exact traced_of_served served continues traced.row traced.carries
  | reject rejected =>
      exact ⟨traced.row,
        carries_of_rejected rejected continues traced.carries⟩
  | begin sink begun =>
      exact ⟨traced.row, carries_of_begun begun traced.carries rfl rfl⟩
  | settle sink outcome settled => simp [goesOn] at continues
  | turn now turned =>
      exact ⟨traced.row,
        carries_of_turn turned continues traced.carries rfl rfl rfl⟩

/-- Every step of the iteration. -/
theorem traced_step
    (follows : setting.program.Follows kind codec)
    (traced : Traced setting codec before)
    (taken : step setting before event = some after) :
    Traced setting codec after := by
  cases stepped_of_step taken with
  | invoked sink now notInvoked =>
      refine Traced.inform_begin follows ?_
      cases sink with
      | elasticsearch =>
          refine traced.of_same rfl rfl (fun result returned => ?_) fun _ => id
          rw [Iteration.invoked, returned] at notInvoked
          cases notInvoked
      | rabbitmq =>
          refine traced.of_same rfl rfl (fun _ => id) fun result returned => ?_
          rw [Iteration.invoked, returned] at notInvoked
          cases notInvoked
  | counted sink breaker counted outcome isFailure isOutcome =>
      exact Traced.inform_settle follows
        (traced.of_same rfl rfl (fun _ => id) fun _ => id) isOutcome
  | answered bulk response requesting isAnswer =>
      refine traced.of_same rfl rfl (fun result returned => ?_) fun _ => id
      rw [requesting] at returned
      cases returned
  | channel answer publish next found permitted moved =>
      refine traced.of_same rfl rfl (fun _ => id) fun result returned => ?_
      rw [found] at returned
      cases returned
      cases moved
  | channelClosed =>
      exact traced.of_same rfl rfl (fun _ => id) fun _ => id
  | runner action runner call spawned continues moved =>
      exact traced.runner follows continues moved
  | breakers breaker =>
      exact traced.of_same rfl rfl (fun _ => id) fun _ => id

end Tracing

/-! ## Trouble is quarantined -/

section Quarantine

variable
  {setting : Setting Cursor Gauges}
  {kind : RunnerKind}
  {codec : CursorCodec Cursor}
  {iteration : Iteration Cursor Gauges}
  {sink : Sink}
  {ids : Nat → Prop}

/-- The result of an overloaded response lists the rejected records. -/
theorem failed_of_rejectedForNow
    {response : BulkResponse}
    {result : SinkResult}
    {id : Nat}
    (errors : response.errors = some true)
    (isParsed :
      ElasticsearchSink.parseBulkResponse setting.number setting.records
        response = some result)
    (rejected : RejectedForNow setting.records response id) :
    id ∈ result.failedIds := by
  obtain ⟨entry, member, code, rfl, status, transient⟩ := rejected
  rw [ElasticsearchSink.parseBulkResponse, if_pos errors] at isParsed
  obtain ⟨_, _, failed, _⟩ := ElasticsearchSink.decompose_spec isParsed
  have refused :
      ElasticsearchSink.takes setting.number (response.items.getD [])
        entry = false := by
    rw [ElasticsearchSink.takes, ElasticsearchSink.itemAt,
      ElasticsearchSink.statusOf, status]
    rcases transient with rfl | ⟨least, _⟩
    · rfl
    · have notBelow : 300 ≤ code := by omega
      simp [Json.given, ElasticsearchSink.isSuccess, Json.toNumber,
        JsNumber.atLeast, JsNumber.ofInt, notBelow]
  rw [failed]
  refine List.mem_append_right _ (List.mem_map.mpr ⟨entry, ?_, rfl⟩)
  exact List.mem_filter.mpr ⟨member, by simp [refused]⟩

/-- A committed iteration has filed all records in trouble. -/
theorem quarantined_of_committed
    (counts : Counts setting iteration)
    (traced : Traced setting codec iteration)
    (committed : Committed iteration.call)
    (trouble : Trouble setting iteration sink ids) :
    Quarantined codec setting.records iteration sink ids := by
  have carries := traced.carries
  cases call : iteration.call with
  | commitCheckpoint records data answer =>
      rw [call] at carries committed
      cases answer with
      | fulfilled done =>
          obtain ⟨⟨esResult, rmqResult, es, rmq, filed⟩, cursor, stored⟩ :=
            carries
          refine ⟨?_, fun last isLast =>
            (stored done rfl).trans (cursor last isLast)⟩
          cases trouble with
          | @overloaded response answered overloaded =>
              intro id rejected
              obtain ⟨result, isParsed⟩ :=
                exists_parsed_of_overloaded overloaded
              have bulk := counts.answered response answered
              rw [es, parsed, isParsed] at bulk
              cases bulk
              exact filed.elasticsearch id
                (failed_of_rejectedForNow overloaded.errors isParsed rejected)
          | channelClosed closed =>
              rintro _ ⟨record, member, rfl⟩
              obtain ⟨publish, found, abandoned⟩ := counts.closed closed
              rw [rmq] at found
              cases found
              have nothing : rmqResult.successfulIds = [] := abandoned
              rcases counts.accounts _ rmq record member with
                successful | failed
              · rw [nothing] at successful
                cases successful
              · exact filed.rabbitmq _ failed
      | pending => exact committed.elim
      | rejected => exact committed.elim
  | _ =>
      rw [call] at committed
      exact committed.elim

/--
Whatever the mix of items and the point at which the channel closes, the records
of a sink in transient trouble are not retried: the breaker counts no failure,
and an iteration that commits has filed them and moved the watermark past them.
-/
def NeverRetried
    (program : RunnerProgram Cursor Gauges)
    (codec : CursorCodec Cursor) : Prop :=
  ∀ (setting : Setting Cursor Gauges)
    (runner : RunnerState Cursor Gauges)
    (breaker : Sink → CircuitBreaker)
    (hasChannel : Bool)
    (events : List Event)
    (reached : Iteration Cursor Gauges)
    (sink : Sink)
    (ids : Nat → Prop),
    setting.program = program →
    runner.checkpoint.isSome = true →
    Run (step setting) (fun _ _ => True)
      (dispatched setting runner breaker hasChannel) events reached →
    Trouble setting reached sink ids →
    ¬ Retried codec runner reached sink ids ∧
      (Committed reached.call →
        Quarantined codec setting.records reached sink ids)

/-- Iterations of a program that follows the transition list. -/
theorem neverRetried_of_follows
    {program : RunnerProgram Cursor Gauges}
    (follows : program.Follows kind codec) :
    NeverRetried program codec := by
  intro setting runner breaker hasChannel events reached sink ids
    isProgram row run trouble
  subst isProgram
  have counts : Counts setting reached := by
    refine run.invariant (Counts setting)
      (fun counts _ taken => counts_step counts taken) ?_
    refine ⟨?_, ?_, ?_, ?_⟩
    · intro _ answered
      cases answered
    · intro _ counted
      cases counted
    · intro closed
      cases closed
    · intro _ isPublish
      cases isPublish
  have traced : Traced setting codec reached := by
    refine run.invariant (Traced setting codec)
      (fun traced _ taken => traced_step follows traced taken) ?_
    refine ⟨row, rfl, ?_, ?_⟩
    · intro _ fulfilled
      cases fulfilled
    · intro _ fulfilled
      cases fulfilled
  exact ⟨fun retried => not_failure_of_trouble counts trouble retried.failure,
    fun committed => quarantined_of_committed counts traced committed trouble⟩

end Quarantine

/-- Neither runner retries what a sink in transient trouble has not taken. -/
theorem never_retried
    (parse : String → Option Json)
    (batchSize : Nat) :
    NeverRetried (BackfillRunner.program parse batchSize)
        BackfillRunner.codec ∧
      NeverRetried (IncrementalRunner.program parse batchSize)
        IncrementalRunner.codec :=
  ⟨neverRetried_of_follows (BackfillRunner.program_follows parse batchSize),
    neverRetried_of_follows
      (IncrementalRunner.program_follows parse batchSize)⟩

/-- The only item is rejected because a queue is full. -/
def sampleOverload : BulkResponse where
  errors := some true
  items := some [.obj [("update", .obj [("status", .num (.ofInt 429))])]]

/-- A backfill that has dispatched record 1. -/
abbrev sampleSetting : Setting Nat BackfillRunner.Gauges where
  program := BackfillRunner.program (fun _ => none) 1
  table := []
  records := [ElasticsearchSink.sampleRecord 1]
  number := fun _ => none
  options := fun _ => { hasHealthProbe := true }

/-- The runner before record 1, with the row of the schema. -/
def sampleRunner : RunnerState Nat BackfillRunner.Gauges where
  memory := { BackfillRunner.fresh with status := .running }
  checkpoint := some CheckpointManager.missingCheckpoint
  deadLetterQueue := []
  history := .empty

/-- Elasticsearch is overloaded, RabbitMQ confirms, the runner goes on. -/
def sampleEvents : List Event :=
  [.invoke .elasticsearch 0, .invoke .rabbitmq 0, .respond sampleOverload,
    .channel (.published "" 0 true), .channel .confirmed,
    .settle .elasticsearch 0 0, .settle .rabbitmq 0 0,
    .runner (.turn 0), .runner (.serve 0), .runner (.turn 0),
    .runner (.serve 0)]

/-- The channel closes during the publication, and the runner goes on. -/
def sampleClosing : List Event :=
  [.invoke .elasticsearch 0, .invoke .rabbitmq 0,
    .respond { errors := some false, items := none }, .channelClosed,
    .channel (.publishThrew "channel closed"),
    .settle .elasticsearch 0 0, .settle .rabbitmq 0 0,
    .runner (.turn 0), .runner (.serve 0), .runner (.turn 0),
    .runner (.serve 0)]

/-- The record whose channel has closed is given up, and not retried. -/
theorem never_retried_closing :
    ∃ reached,
      Run (step sampleSetting) (fun _ _ => True)
        (dispatched sampleSetting sampleRunner (fun _ => .fresh) true)
        sampleClosing reached ∧
      ¬ Retried BackfillRunner.codec sampleRunner reached .rabbitmq
          (fun id => ∃ record ∈ sampleSetting.records, record.id = id) ∧
      Quarantined BackfillRunner.codec sampleSetting.records reached
        .rabbitmq
        fun id => ∃ record ∈ sampleSetting.records, record.id = id := by
  obtain ⟨reached, replayed⟩ :
      ∃ reached,
        replay (step sampleSetting) (fun _ _ => True)
          (dispatched sampleSetting sampleRunner (fun _ => .fresh) true)
          sampleClosing = some reached :=
    ⟨_, rfl⟩
  have run := Run.of_replay replayed
  have closed : reached.channelClosed = true := by
    cases replayed
    rfl
  have committed : Committed reached.call := by
    cases replayed
    trivial
  obtain ⟨notRetried, quarantined⟩ :=
    (never_retried (fun _ => none) 1).1 sampleSetting sampleRunner
      (fun _ => .fresh) true sampleClosing reached .rabbitmq _ rfl rfl run
      (.channelClosed closed)
  exact ⟨reached, run, notRetried, quarantined committed⟩

/--
A record that Elasticsearch was too busy for is quarantined: the breaker counts
a success, the record has a dead letter, and the watermark is past it.
-/
theorem overloaded_record_is_quarantined :
    ∃ reached,
      Run (step sampleSetting) (fun _ _ => True)
        (dispatched sampleSetting sampleRunner (fun _ => .fresh) true)
        sampleEvents reached ∧
      Trouble sampleSetting reached .elasticsearch
        (RejectedForNow sampleSetting.records sampleOverload) ∧
      reached.counted .elasticsearch = some .success ∧
      reached.runner.deadLetterQueue.map DLQEntry.recordId = [some 1] ∧
      BackfillRunner.codec.persisted reached.runner.checkpoint = 1 ∧
      ¬ Retried BackfillRunner.codec sampleRunner reached .elasticsearch
          (RejectedForNow sampleSetting.records sampleOverload) := by
  obtain ⟨reached, replayed⟩ :
      ∃ reached,
        replay (step sampleSetting) (fun _ _ => True)
          (dispatched sampleSetting sampleRunner (fun _ => .fresh) true)
          sampleEvents = some reached :=
    ⟨_, rfl⟩
  have answered : reached.response = some sampleOverload := by
    cases replayed
    rfl
  have counted : reached.counted .elasticsearch = some .success := by
    cases replayed
    rfl
  have overloaded : Overloaded sampleSetting.records sampleOverload := by
    have status : HasStatus sampleOverload 0 429 := rfl
    refine ⟨rfl, fun i inRange => ?_,
      ⟨0, Nat.zero_lt_one, 429, status, .inl rfl⟩⟩
    obtain rfl : i = 0 := Nat.lt_one_iff.mp inRange
    exact ⟨429, status, .inr (.inl rfl)⟩
  refine ⟨reached, .of_replay replayed, .overloaded answered overloaded,
    counted, ?_, ?_, fun retried => ?_⟩
  · cases replayed
    rfl
  · cases replayed
    rfl
  · have failure := retried.failure
    rw [counted] at failure
    cases failure

end Replication.TransientTrouble
