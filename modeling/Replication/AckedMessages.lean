import Replication.SinkResults

namespace Replication

/-!
# Acks and nacks of a batch

A confirm channel numbers its messages.  The broker acks or nacks each of them
once, at any time the publishing code is suspended.  `waitForConfirms` settles
the confirms that are outstanding when it is called: it resolves when all of
them are acked, and what was settled before is forgotten.
-/

/-- What the broker answers for a message. -/
inductive Verdict where
  | acked
  | nacked
  deriving DecidableEq, Repr

/-- The confirm of one message. -/
structure Confirm where
  /-- The record whose message it is. -/
  recordId : Nat
  verdict : Option Verdict
  /-- `waitForConfirms` was called while the confirm was outstanding. -/
  awaited : Bool
  deriving DecidableEq, Repr

namespace Confirm

/-- The confirm that `publish` registers. -/
def register (recordId : Nat) : Confirm where
  recordId
  verdict := none
  awaited := false

/-- `waitForConfirms` takes up the confirms that are outstanding. -/
def await (confirm : Confirm) : Confirm :=
  { confirm with awaited := confirm.verdict.isNone }

@[simp] theorem await_recordId (confirm : Confirm) :
    confirm.await.recordId = confirm.recordId := rfl

@[simp] theorem await_verdict (confirm : Confirm) :
    confirm.await.verdict = confirm.verdict := rfl

/-- The broker answers for the message, unless it has before. -/
def answer (verdict : Verdict) (confirm : Confirm) : Option Confirm :=
  if confirm.verdict = none then
    some { confirm with verdict := some verdict }
  else
    none

end Confirm

namespace RabbitMQSink

/-- A call of `publishBatch` together with the confirms of its channel. -/
structure Publishing where
  call : PublishBatch
  /-- In the order of the delivery tags. -/
  confirms : List Confirm
  /-- `waitForConfirms` has resolved. -/
  resolved : Bool
  deriving Repr

namespace Publishing

/-- A step of the call, or an answer of the broker. -/
inductive Event where
  | channel (answer : Answer)
  | verdict (tag : Nat) (verdict : Verdict)
  deriving Repr

/-- The record whose message a step publishes. -/
def publishedId : PublishBatch → Answer → List Nat
  | .publishing batch, .published _ _ _ =>
      (batch.remaining.head?.map SourceRecord.id).toList
  | _, _ => []

/-- The call is about to wait for the confirms. -/
def isConfirming : PublishBatch → Bool
  | .confirming _ => true
  | _ => false

/-- The code is suspended or has ended, so the broker's answers are read. -/
def isSuspended : PublishBatch → Bool
  | .publishing _ => false
  | _ => true

/-- Call `publishBatch` on a channel without outstanding confirms. -/
def start (hasChannel : Bool) (records : List SourceRecord) : Publishing where
  call := publishBatch hasChannel records
  confirms := []
  resolved := false

/-- `waitForConfirms` resolves. -/
def isConfirmed : Answer → Bool
  | .confirmed => true
  | _ => false

/-- What a settled channel operation does to the confirms. -/
def advance
    (world : Publishing)
    (answer : Answer)
    (next : PublishBatch) : Publishing :=
  let confirms :=
    world.confirms ++ (publishedId world.call answer).map Confirm.register
  { call := next
    confirms :=
      if isConfirming next then confirms.map Confirm.await else confirms
    resolved := world.resolved || isConfirmed answer }

/-- One event happens. -/
def step (world : Publishing) : Event → Option Publishing
  | .channel answer =>
      (RabbitMQSink.step world.call answer).map (world.advance answer)
  | .verdict tag verdict =>
      if isSuspended world.call then
        ((world.confirms[tag]?).bind (Confirm.answer verdict)).map
          fun confirm =>
            { world with confirms := world.confirms.set tag confirm }
      else
        none

/-- `waitForConfirms` resolves only when all it settles are acked. -/
def Amqp (world : Publishing) : Event → Prop
  | .channel .confirmed =>
      ∀ confirm ∈ world.confirms,
        confirm.awaited = true → confirm.verdict = some .acked
  | _ => True

instance (world : Publishing) : DecidablePred (Amqp world)
  | .channel .confirmed =>
      inferInstanceAs (Decidable (∀ confirm ∈ world.confirms, _))
  | .channel (.published _ _ _) => isTrue trivial
  | .channel (.publishThrew _) => isTrue trivial
  | .channel .drained => isTrue trivial
  | .channel (.notConfirmed _) => isTrue trivial
  | .verdict _ _ => isTrue trivial

/--
Every id reported as successful is that of an acked message, and every nacked
message is reported as a failure.
-/
structure AckedMeansAcked
    (world : Publishing)
    (result : SinkResult) : Prop where
  acked :
    ∀ id ∈ result.successfulIds, ∃ confirm ∈ world.confirms,
      confirm.recordId = id ∧ confirm.verdict = some .acked
  nacked :
    ∀ confirm ∈ world.confirms, confirm.verdict = some .nacked →
      confirm.recordId ∈ result.failedIds

/--
If `waitForConfirms` has resolved, no message had been nacked before it was
called.
-/
def NoEarlyNack (world : Publishing) : Prop :=
  world.resolved = true →
    ∀ confirm ∈ world.confirms, confirm.verdict = some .nacked →
      confirm.awaited = true

/-- The confirms are those of the ids in flight. -/
def OfIds (confirms : List Confirm) (ids : List Nat) : Prop :=
  confirms.map Confirm.recordId = ids

/-- What is known of the confirms while the call runs, and when it has ended. -/
def Consistent (world : Publishing) : Prop :=
  match world.call with
  | .publishing batch =>
      OfIds world.confirms batch.inFlightIds ∧ world.resolved = false
  | .draining batch =>
      OfIds world.confirms batch.inFlightIds ∧ world.resolved = false
  | .confirming batch =>
      OfIds world.confirms batch.inFlightIds ∧ world.resolved = false ∧
        ∀ confirm ∈ world.confirms,
          confirm.awaited = false → confirm.verdict ≠ none
  | .returned result =>
      if world.resolved then
        OfIds world.confirms result.successfulIds ∧
          ∀ confirm ∈ world.confirms,
            confirm.verdict ≠ none ∧
              (confirm.awaited = true → confirm.verdict = some .acked)
      else
        result.successfulIds = [] ∧
          ∀ confirm ∈ world.confirms, confirm.recordId ∈ result.failedIds
  | .threw => world.confirms = [] ∧ world.resolved = false

variable
  {records : List SourceRecord}
  {hasChannel : Bool}
  {before after world : Publishing}
  {confirms : List Confirm}
  {ids : List Nat}

/-- Taking up confirms changes no ids. -/
theorem OfIds.await
    (ofIds : OfIds confirms ids) :
    OfIds (confirms.map Confirm.await) ids := by
  rw [OfIds, List.map_map]
  exact ofIds

/-- A message that is published adds the id of its record. -/
theorem OfIds.register
    (ofIds : OfIds confirms ids)
    (id : Nat) :
    OfIds (confirms ++ [Confirm.register id]) (ids ++ [id]) := by
  rw [OfIds, List.map_append, ofIds]
  rfl

/-- The answer of the broker is for a confirm that had none. -/
theorem answer_spec
    {verdict : Verdict}
    {tag : Nat}
    {confirm : Confirm}
    (answered :
      (confirms[tag]?).bind (Confirm.answer verdict) = some confirm) :
    ∃ old ∈ confirms, old.verdict = none ∧
      confirms[tag]? = some old ∧
      confirm = { old with verdict := some verdict } := by
  obtain ⟨old, found, answered⟩ := Option.bind_eq_some_iff.mp answered
  rw [Confirm.answer] at answered
  split at answered
  · rename_i outstanding
    cases answered
    exact ⟨old, List.mem_of_getElem? found, outstanding, found, rfl⟩
  · cases answered

/-- It keeps the ids. -/
theorem OfIds.set
    {tag : Nat}
    {old confirm : Confirm}
    (ofIds : OfIds confirms ids)
    (found : confirms[tag]? = some old)
    (sameId : confirm.recordId = old.recordId) :
    OfIds (confirms.set tag confirm) ids := by
  rw [OfIds, List.map_set, ofIds, sameId]
  have foundId : ids[tag]? = some old.recordId := by
    rw [← ofIds, List.getElem?_map, found]
    rfl
  obtain ⟨inRange, isOld⟩ := List.getElem?_eq_some_iff.mp foundId
  rw [← isOld]
  exact List.set_getElem_self inRange

/-- The loop head may call `waitForConfirms`. -/
theorem consistent_enterLoop
    {position : Nat}
    {failures : List SinkFailure}
    {remaining : List SourceRecord}
    (ofIds : OfIds confirms ids) :
    Consistent
      { call := enterLoop position ids failures remaining
        confirms :=
          if isConfirming (enterLoop position ids failures remaining) then
            confirms.map Confirm.await
          else confirms
        resolved := false } := by
  induction remaining generalizing position failures with
  | nil =>
      simp only [enterLoop]
      split
      · rename_i noFlight
        obtain rfl := List.isEmpty_iff.mp noFlight
        obtain rfl := List.map_eq_nil_iff.mp ofIds
        exact ⟨rfl, List.forall_mem_nil _⟩
      · refine ⟨ofIds.await, rfl, fun confirm member notAwaited => ?_⟩
        obtain ⟨old, -, rfl⟩ := List.mem_map.mp member
        intro outstanding
        rw [Confirm.await_verdict] at outstanding
        simp [Confirm.await, outstanding] at notAwaited
  | cons record rest inductionHypothesis =>
      rw [enterLoop]
      by_cases corrupted : record.isCorrupted
      · rw [if_pos corrupted]
        exact inductionHypothesis
      · rw [if_neg corrupted]
        exact ⟨ofIds, rfl⟩

/-- A call starts without confirms. -/
theorem consistent_start : Consistent (start hasChannel records) := by
  rw [start, publishBatch]
  split
  · exact ⟨rfl, List.forall_mem_nil _⟩
  · split
    · have entered :=
        @consistent_enterLoop [] [] 0 [] records rfl
      rwa [List.map_nil, ite_self] at entered
    · exact ⟨rfl, rfl⟩

/-- The channel operation that the call awaits settles. -/
theorem consistent_channel
    {call next : PublishBatch}
    {resolved : Bool}
    {answer : Answer}
    (consistent : Consistent ⟨call, confirms, resolved⟩)
    (amqp : Amqp ⟨call, confirms, resolved⟩ (.channel answer))
    (moved : RabbitMQSink.step call answer = some next) :
    Consistent (advance ⟨call, confirms, resolved⟩ answer next) := by
  unfold advance
  cases stepped_of_step moved with
  | flowing position record rest =>
      obtain ⟨ofIds, rfl⟩ := consistent
      exact consistent_enterLoop (ofIds.register record.id)
  | blocked position record rest =>
      obtain ⟨ofIds, rfl⟩ := consistent
      exact ⟨ofIds.register record.id, rfl⟩
  | publishThrew position record rest =>
      obtain ⟨ofIds, rfl⟩ := consistent
      simp only [publishedId, List.map_nil, List.append_nil]
      exact consistent_enterLoop ofIds
  | drained batch =>
      obtain ⟨ofIds, rfl⟩ := consistent
      simp only [publishedId, List.map_nil, List.append_nil]
      exact consistent_enterLoop ofIds
  | confirmed batch =>
      obtain ⟨ofIds, rfl, settled⟩ := consistent
      simp only [publishedId, List.map_nil, List.append_nil]
      refine ⟨ofIds, fun confirm member => ⟨?_, amqp confirm member⟩⟩
      cases awaited : confirm.awaited with
      | false => exact settled confirm member awaited
      | true =>
          rw [amqp confirm member awaited]
          exact Option.some_ne_none _
  | notConfirmed batch message =>
      obtain ⟨ofIds, rfl, -⟩ := consistent
      simp only [publishedId, List.map_nil, List.append_nil]
      refine ⟨rfl, fun confirm member => ?_⟩
      have inFlight : confirm.recordId ∈ batch.inFlightIds := by
        rw [← ofIds]
        exact List.mem_map_of_mem member
      simp only [SinkResult.failedIds, resultOf, List.map_append]
      refine List.mem_append_right _ ?_
      rw [List.map_map]
      exact List.mem_map.mpr ⟨confirm.recordId, inFlight, rfl⟩

/-- The broker acks or nacks a message. -/
theorem consistent_verdict
    {tag : Nat}
    {verdict : Verdict}
    (consistent : Consistent before)
    (taken : before.step (.verdict tag verdict) = some after) :
    Consistent after := by
  obtain ⟨call, confirms, resolved⟩ := before
  simp only [step] at taken
  split at taken
  · obtain ⟨confirm, answered, rfl⟩ := Option.map_eq_some_iff.mp taken
    obtain ⟨old, member, outstanding, found, rfl⟩ := answer_spec answered
    cases call with
    | publishing batch => exact ⟨consistent.1.set found rfl, consistent.2⟩
    | draining batch => exact ⟨consistent.1.set found rfl, consistent.2⟩
    | confirming batch =>
        obtain ⟨ofIds, unresolved, settled⟩ := consistent
        refine ⟨ofIds.set found rfl, unresolved, fun other inSet => ?_⟩
        rcases List.mem_or_eq_of_mem_set inSet with kept | rfl
        · exact settled other kept
        · exact fun _ => Option.some_ne_none _
    | returned result =>
        cases resolved with
        | true => exact absurd outstanding (consistent.2 old member).1
        | false =>
            refine ⟨consistent.1, fun other inSet => ?_⟩
            rcases List.mem_or_eq_of_mem_set inSet with kept | rfl
            · exact consistent.2 other kept
            · exact consistent.2 old member
    | threw =>
        obtain rfl := consistent.1
        cases member
  · cases taken

/-- Every run is consistent. -/
theorem consistent_of_run
    {events : List Event}
    (run : Run step Amqp (start hasChannel records) events world) :
    Consistent world := by
  refine run.invariant Consistent ?_ consistent_start
  intro before event after consistent amqp taken
  cases event with
  | channel answer =>
      obtain ⟨next, moved, rfl⟩ := Option.map_eq_some_iff.mp taken
      exact consistent_channel consistent amqp moved
  | verdict tag verdict => exact consistent_verdict consistent taken

/-- A verdict leaves the call alone. -/
theorem call_run
    {events : List Event}
    (run : Run step Amqp (start hasChannel records) events world) :
    ∃ answers,
      Run RabbitMQSink.step (fun _ _ => True)
        (publishBatch hasChannel records) answers world.call := by
  refine run.invariant
    (fun world => ∃ answers,
      Run RabbitMQSink.step (fun _ _ => True)
        (publishBatch hasChannel records) answers world.call)
    ?_ ⟨[], .nil _⟩
  rintro before event after ⟨answers, sofar⟩ - taken
  cases event with
  | channel answer =>
      obtain ⟨next, moved, rfl⟩ := Option.map_eq_some_iff.mp taken
      exact ⟨answers ++ [answer],
        sofar.append (.cons trivial moved (.nil next))⟩
  | verdict tag verdict =>
      simp only [step] at taken
      split at taken
      · obtain ⟨confirm, -, rfl⟩ := Option.map_eq_some_iff.mp taken
        exact ⟨answers, sofar⟩
      · cases taken

/-- Without an early nack the result agrees with the broker. -/
theorem Consistent.ackedMeansAcked
    {result : SinkResult}
    (consistent : Consistent world)
    (returned : world.call = .returned result)
    (noEarlyNack : NoEarlyNack world) :
    AckedMeansAcked world result := by
  obtain ⟨call, confirms, resolved⟩ := world
  obtain rfl : call = .returned result := returned
  cases resolved with
  | false =>
      obtain ⟨noSuccess, failed⟩ := consistent
      refine ⟨fun id successful => ?_, fun confirm member _ =>
        failed confirm member⟩
      rw [noSuccess] at successful
      cases successful
  | true =>
      obtain ⟨ofIds, settled⟩ := consistent
      have acked :
          ∀ confirm ∈ confirms, confirm.verdict = some .acked := by
        intro confirm member
        obtain ⟨answered, ackedIfAwaited⟩ := settled confirm member
        cases verdict : confirm.verdict with
        | none => exact absurd verdict answered
        | some verdict' =>
            cases verdict' with
            | acked => rfl
            | nacked =>
                have awaited := noEarlyNack rfl confirm member verdict
                rw [ackedIfAwaited awaited] at verdict
                cases verdict
      refine ⟨fun id successful => ?_, fun confirm member nacked => ?_⟩
      · rw [← ofIds] at successful
        obtain ⟨confirm, member, rfl⟩ := List.mem_map.mp successful
        exact ⟨confirm, member, rfl, acked confirm member⟩
      · rw [acked confirm member] at nacked
        cases nacked

/-- After an early nack an id is reported as successful. -/
theorem Consistent.noEarlyNack
    {result : SinkResult}
    (consistent : Consistent world)
    (returned : world.call = .returned result)
    (split : SplitResult records result)
    (distinct : (records.map SourceRecord.id).Nodup)
    (agrees : AckedMeansAcked world result) :
    NoEarlyNack world := by
  obtain ⟨call, confirms, resolved⟩ := world
  obtain rfl : call = .returned result := returned
  rintro rfl confirm member nacked
  have ofIds := consistent.1
  have successful : confirm.recordId ∈ result.successfulIds := by
    rw [← ofIds]
    exact List.mem_map_of_mem member
  have failed := agrees.nacked confirm member nacked
  -- no id is listed twice
  have once := split.listed.nodup_iff.mpr distinct
  exact ((List.nodup_append.mp once).2.2 _ successful _ failed rfl).elim

/--
In every run of `publishBatch` that returns: if `waitForConfirms` does not
resolve, or no message was nacked before it was called, then the ids reported as
successful are those of acked messages, and every nacked message is reported as
a failure.  For records with distinct ids this happens in no other run.
-/
theorem acked_of_no_early_nack
    {events : List Event}
    {result : SinkResult}
    (run : Run step Amqp (start hasChannel records) events world)
    (returned : world.call = .returned result) :
    (NoEarlyNack world → AckedMeansAcked world result) ∧
      ((records.map SourceRecord.id).Nodup →
        AckedMeansAcked world result → NoEarlyNack world) := by
  have consistent := consistent_of_run run
  refine ⟨consistent.ackedMeansAcked returned, fun distinct agrees => ?_⟩
  obtain ⟨answers, callRun⟩ := call_run run
  have split : SplitResult records result := by
    have splits := (splits_of_run callRun).1
    rw [returned] at splits
    exact splits
  exact consistent.noEarlyNack returned split distinct agrees

/-- Two records; the write buffer is full after the first message. -/
def sampleRecords : List SourceRecord :=
  [ElasticsearchSink.sampleRecord 1, ElasticsearchSink.sampleRecord 2]

/-- The broker answers for the first message while the buffer drains. -/
def sampleEvents (first second : Verdict) (settles : Answer) : List Event :=
  [ .channel (.published "a" 0 false)
  , .verdict 0 first
  , .channel .drained
  , .channel (.published "b" 0 true)
  , .verdict 1 second
  , .channel settles ]

/-- The call has returned no failures, and these are the broker's verdicts. -/
def ReturnsAll
    (verdicts : List (Option Verdict))
    (world : Publishing) : Prop :=
  match world.call with
  | .returned result =>
      result.failures = [] ∧ world.confirms.map Confirm.verdict = verdicts
  | _ => False

instance (verdicts : List (Option Verdict)) :
    DecidablePred (ReturnsAll verdicts)
  | ⟨.returned ⟨_, _, _, []⟩, _, _⟩ =>
      inferInstanceAs (Decidable (([] : List SinkFailure) = [] ∧ _))
  | ⟨.returned ⟨_, _, _, _ :: _⟩, _, _⟩ => isFalse fun all => nomatch all.1
  | ⟨.publishing _, _, _⟩ => isFalse not_false
  | ⟨.draining _, _, _⟩ => isFalse not_false
  | ⟨.confirming _, _, _⟩ => isFalse not_false
  | ⟨.threw, _, _⟩ => isFalse not_false

/-- It has returned a result. -/
theorem ReturnsAll.exists_result
    {verdicts : List (Option Verdict)}
    (returns : ReturnsAll verdicts world) :
    ∃ result, world.call = .returned result ∧ result.failures = [] ∧
      world.confirms.map Confirm.verdict = verdicts := by
  unfold ReturnsAll at returns
  split at returns
  · rename_i result returned
    exact ⟨result, returned, returns⟩
  · exact returns.elim

/-- A message nacked during a drain wait is not reported as a failure. -/
theorem nack_during_drain_is_forgotten :
    ∃ world result,
      Run step Amqp (start true sampleRecords)
        (sampleEvents .nacked .acked .confirmed) world ∧
      world.call = .returned result ∧
      ¬ AckedMeansAcked world result := by
  obtain ⟨world, run, returns⟩ :
      ∃ world,
        Run step Amqp (start true sampleRecords)
          (sampleEvents .nacked .acked .confirmed) world ∧
        ReturnsAll [some .nacked, some .acked] world :=
    Run.exists_of_replay _ (by decide)
  obtain ⟨result, returned, noFailures, verdicts⟩ := returns.exists_result
  refine ⟨world, result, run, returned, fun agrees => ?_⟩
  have isNacked : some .nacked ∈ world.confirms.map Confirm.verdict := by
    rw [verdicts]
    exact List.mem_cons_self
  obtain ⟨confirm, member, nacked⟩ := List.mem_map.mp isNacked
  have failed := agrees.nacked confirm member nacked
  rw [SinkResult.failedIds, noFailures] at failed
  cases failed

/-- With two acks the result agrees with the broker. -/
theorem acked_of_no_early_nack_sample :
    ∃ world result,
      Run step Amqp (start true sampleRecords)
        (sampleEvents .acked .acked .confirmed) world ∧
      world.call = .returned result ∧
      AckedMeansAcked world result := by
  obtain ⟨world, run, returns⟩ :
      ∃ world,
        Run step Amqp (start true sampleRecords)
          (sampleEvents .acked .acked .confirmed) world ∧
        ReturnsAll [some .acked, some .acked] world :=
    Run.exists_of_replay _ (by decide)
  obtain ⟨result, returned, -, verdicts⟩ := returns.exists_result
  refine ⟨world, result, run, returned,
    (acked_of_no_early_nack run returned).1 fun _ confirm member nacked =>
      ?_⟩
  have isNacked : confirm.verdict ∈ world.confirms.map Confirm.verdict :=
    List.mem_map_of_mem member
  rw [verdicts, nacked] at isNacked
  simp at isNacked

end Publishing

end RabbitMQSink

end Replication
