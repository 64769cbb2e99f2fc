import Replication.ReplayCalls
import Mathlib

namespace Replication.ReplayCalls

open DLQReplayer (Attempt UpdateAnswer DLQRetryResult Replaying)

/-!
# A replay that runs alone

`RetryEntry` and `RetryAllPending` treat a call as one function of the queue and
of the answers it meets.  The machine of concurrent replays can take the same
answers one await at a time, and ends where the function does: what is known
about calls that run one after the other is known about runs of the machine.
-/

variable
  {parse : String → Option Json}
  {number : Text → Option JsNumber}
  {options : RabbitMQSink.Options}

/-- The code of an attempt reads what the attempt says. -/
def surroundingsOf (attempt : Attempt) : Surroundings where
  now := attempt.now
  randomUuid := attempt.randomUuid
  bulkNow := attempt.bulkNow
  typeError := attempt.typeError
  hasChannel := attempt.hasChannel

/-- Where the call stands when the function has settled so. -/
inductive Ends (loop : Option Loop) (dlqId : Nat) :
    DLQReplayer.Settled → Call → Prop where
  | returned (result : DLQRetryResult) :
      Ends loop dlqId (.returned result) (returnEntry loop dlqId result)
  | threw : Ends loop dlqId .threw .threw
  | pending
      (entry : DLQEntry)
      (record : SourceRecord)
      (call : RabbitMQSink.PublishBatch) :
      Ends loop dlqId .pending
        (.awaiting loop (.publishBatch dlqId entry record call))

/-- The first call can run to a settlement that leaves that queue. -/
def RunsTo
    (parse : String → Option Json)
    (number : Text → Option JsNumber)
    (others : List Call)
    (shared : Shared)
    (call : Call)
    (queue : List DLQEntry)
    (holds : Call → Prop) : Prop :=
  ∃ events replies next,
    Run (machine parse number).step Unrestricted
        ⟨(), shared, call :: others⟩ events
        ⟨(), { queue, replies }, next :: others⟩ ∧
      holds next

section Steps

variable
  {others : List Call}
  {shared resumed : Shared}
  {call next : Call}
  {queue : List DLQEntry}
  {holds : Call → Prop}

/-- Nothing more is needed. -/
theorem RunsTo.here (holdsNow : holds call) :
    RunsTo parse number others shared call shared.queue holds :=
  ⟨[], shared.replies, call, .nil _, holdsNow⟩

/-- One settled await, and then the rest. -/
theorem RunsTo.step
    (action : Act)
    (moved :
      act parse number () shared call action = some (resumed, next, []))
    (later : RunsTo parse number others resumed next queue holds) :
    RunsTo parse number others shared call queue holds := by
  obtain ⟨events, replies, final, run, holdsLast⟩ := later
  refine ⟨.act 0 action :: events, replies, final,
    .cons trivial (TaskMachine.step_head moved) ?_, holdsLast⟩
  rw [List.append_nil]
  exact run

/-- A run that stops where another one goes on. -/
theorem RunsTo.trans
    {middle : List DLQEntry}
    {between : Call → Prop}
    (first : RunsTo parse number others shared call middle between)
    (later :
      ∀ replies next, between next →
        RunsTo parse number others { queue := middle, replies } next
          queue holds) :
    RunsTo parse number others shared call queue holds := by
  obtain ⟨events, replies, next, run, reached⟩ := first
  obtain ⟨more, moreReplies, final, onward, holdsLast⟩ :=
    later replies next reached
  exact ⟨events ++ more, moreReplies, final, run.append onward, holdsLast⟩

end Steps

/-- The query of an attempt, executed. -/
def executed (attempt : Attempt) : Act :=
  .execute attempt.queueNow (DLQReplayer.leadOrder 0) (surroundingsOf attempt)

section Entry

variable
  {others : List Call}
  {shared : Shared}
  {attempt : Attempt}
  {loop : Option Loop}
  {dlqId : Nat}
  {entry : DLQEntry}
  {record : SourceRecord}

/-- The call can run to where the attempt settles with that verdict. -/
def SettlesAs
    (parse : String → Option Json)
    (number : Text → Option JsNumber)
    (others : List Call)
    (attempt : Attempt)
    (loop : Option Loop)
    (dlqId : Nat)
    (shared : Shared)
    (call : Call)
    (verdict : DLQReplayer.Verdict) : Prop :=
  let ended := DLQReplayer.settle attempt dlqId shared.queue verdict
  RunsTo parse number others shared call ended.1 (Ends loop dlqId ended.2)

/-- The `catch` block of an attempt. -/
theorem runsTo_handleError (errorMsg : String) :
    RunsTo parse number others shared (handleError loop dlqId errorMsg)
      (DLQReplayer.handleError attempt dlqId shared.queue errorMsg).1
      (Ends loop dlqId
        (DLQReplayer.handleError attempt dlqId shared.queue errorMsg).2) := by
  cases answer : attempt.catchAnswer with
  | done =>
      refine .step (executed attempt) rfl ?_
      simp only [DLQReplayer.handleError, answer, UpdateAnswer.apply]
      exact .here (.returned _)
  | rejected applied message =>
      refine .step (.reject applied attempt.queueNow message) rfl ?_
      cases applied with
      | true =>
          simp only [DLQReplayer.handleError, answer, UpdateAnswer.apply]
          exact .here .threw
      | false =>
          simp only [DLQReplayer.handleError, answer, UpdateAnswer.apply]
          exact .here .threw

/-- The update that follows the dispatches. -/
def settling (loop : Option Loop) (dlqId : Nat) : DLQReplayer.Verdict → Option Call
  | .confirmed => some (.awaiting loop (.markStatus dlqId))
  | .failed reason =>
      some (.awaiting loop (.recordRetryFailure dlqId reason false))
  | .threw message => some (handleError loop dlqId message)
  | .pending => none

/-- What follows the dispatches of an attempt. -/
theorem runsTo_settling
    {verdict : DLQReplayer.Verdict}
    {call : Call}
    (settles : settling loop dlqId verdict = some call) :
    SettlesAs parse number others attempt loop dlqId shared call
      verdict := by
  unfold SettlesAs
  cases verdict with
  | confirmed =>
      cases settles
      cases answer : attempt.tryAnswer with
      | done =>
          refine .step (executed attempt) rfl ?_
          simp only [DLQReplayer.settle, answer, UpdateAnswer.apply]
          exact .here (.returned _)
      | rejected applied message =>
          refine .step (.reject applied attempt.queueNow message) rfl ?_
          simp only [DLQReplayer.settle, answer]
          cases applied with
          | true => exact runsTo_handleError message
          | false => exact runsTo_handleError message
  | failed reason =>
      cases settles
      cases answer : attempt.tryAnswer with
      | done =>
          refine .step (executed attempt) rfl ?_
          simp only [DLQReplayer.settle, answer, UpdateAnswer.apply]
          exact .here (.returned _)
      | rejected applied message =>
          refine .step (.reject applied attempt.queueNow message) rfl ?_
          simp only [DLQReplayer.settle, answer]
          cases applied with
          | true => exact runsTo_handleError message
          | false => exact runsTo_handleError message
  | threw message =>
      cases settles
      exact runsTo_handleError message
  | pending => cases settles

/-- Where the publication of an attempt leads. -/
def publishVerdict : RabbitMQSink.PublishBatch → DLQReplayer.Verdict
  | .returned result =>
      DLQReplayer.verdictOf (.returned ([] : List Unit) result)
  | .threw =>
      .threw "Cannot publish batch: RabbitMQ ConfirmChannel is not connected."
  | _ => .pending

/-- A call that publishes stands at the update of its verdict, or awaits. -/
theorem publishing_spec (call : RabbitMQSink.PublishBatch) :
    settling loop dlqId (publishVerdict call) =
        some (publishing loop dlqId entry record call).2 ∨
      publishVerdict call = .pending ∧
        publishing loop dlqId entry record call =
          ([], .awaiting loop (.publishBatch dlqId entry record call)) := by
  cases call with
  | publishing batch => exact .inr ⟨rfl, rfl⟩
  | draining batch => exact .inr ⟨rfl, rfl⟩
  | confirming batch => exact .inr ⟨rfl, rfl⟩
  | returned result =>
      left
      simp only [publishVerdict, DLQReplayer.verdictOf, publishing,
        checkFailures]
      cases result.failures <;> rfl
  | threw => exact .inl rfl

/-- The answers of the channel, one after the other. -/
theorem runsTo_publishing
    (call : RabbitMQSink.PublishBatch)
    (answers : List RabbitMQSink.Answer)
    (queue : List DLQEntry)
    (replies : List SinkReply) :
    let ended :=
      (RabbitMQSink.publishAll options .recordMutated call answers).2
    RunsTo parse number others { queue, replies }
      (publishing loop dlqId entry record call).2 queue
      fun next => next = (publishing loop dlqId entry record ended).2 := by
  induction answers generalizing call replies with
  | nil => exact .here rfl
  | cons answer later inductionHypothesis =>
      simp only [RabbitMQSink.publishAll]
      cases stepped : RabbitMQSink.step call answer with
      | none => exact inductionHypothesis call replies
      | some next =>
          have awaited :
              (publishing loop dlqId entry record call).2 =
                .awaiting loop (.publishBatch dlqId entry record call) := by
            cases RabbitMQSink.stepped_of_step stepped <;> rfl
          rw [awaited]
          have moved :
              act parse number () { queue, replies }
                  (.awaiting loop (.publishBatch dlqId entry record call))
                  (.channel answer) =
                some
                  (noted { queue, replies }
                    (publishing loop dlqId entry record next)) := by
            simp only [act, stepped, Option.map_some]
          exact .step (.channel answer) moved (inductionHypothesis next _)

/-- The dispatch to RabbitMQ, and what follows it. -/
theorem settlesAs_dispatchRabbitMQ
    (options : RabbitMQSink.Options)
    (shared : Shared) :
    SettlesAs parse number others attempt loop dlqId shared
      (dispatchRabbitMQ (surroundingsOf attempt) loop dlqId entry record).2
      (DLQReplayer.verdictOf
        (DLQReplayer.replayRabbitMQ options attempt entry record)) := by
  unfold dispatchRabbitMQ DLQReplayer.replayRabbitMQ
  split
  · have sameVerdict :
        DLQReplayer.verdictOf
            (DLQReplayer.dispatchRabbitMQ options attempt record) =
          publishVerdict
            (RabbitMQSink.publishAll options .recordMutated
              (RabbitMQSink.publishBatch attempt.hasChannel [record])
              attempt.channelAnswers).2 := by
      unfold DLQReplayer.dispatchRabbitMQ
      generalize
        RabbitMQSink.publishAll options .recordMutated
          (RabbitMQSink.publishBatch attempt.hasChannel [record])
          attempt.channelAnswers = published
      obtain ⟨publications, call⟩ := published
      cases call <;> rfl
    rw [sameVerdict]
    have answered :=
      @runsTo_publishing parse number options others loop dlqId entry record
        (RabbitMQSink.publishBatch attempt.hasChannel [record])
        attempt.channelAnswers shared.queue shared.replies
    refine answered.trans ?_
    generalize
      (RabbitMQSink.publishAll options .recordMutated
        (RabbitMQSink.publishBatch attempt.hasChannel [record])
        attempt.channelAnswers).2 = ended
    rintro replies next rfl
    rcases @publishing_spec loop dlqId entry record ended with
      settles | ⟨pending, awaits⟩
    · exact runsTo_settling settles
    · rw [pending, awaits]
      exact .here (.pending _ _ _)
  · exact runsTo_settling rfl

/-- Without failures the `try` block goes on, else it records the first one. -/
theorem settlesAs_checkFailures
    (shared : Shared)
    (writes : List UpdateItem)
    (result : SinkResult)
    {proceed : List SinkReply × Call}
    {otherwise : DLQReplayer.Verdict}
    (proceeds :
      SettlesAs parse number others attempt loop dlqId shared
        proceed.2 otherwise) :
    SettlesAs parse number others attempt loop dlqId shared
      (checkFailures loop dlqId result proceed).2
      (match DLQReplayer.verdictOf (.returned writes result) with
      | .confirmed => otherwise
      | verdict => verdict) := by
  cases failures : result.failures with
  | nil =>
      simp only [checkFailures, DLQReplayer.verdictOf, failures]
      exact proceeds
  | cons failure rest =>
      simp only [checkFailures, DLQReplayer.verdictOf, failures]
      exact runsTo_settling rfl

/-- The dispatch to Elasticsearch, and what follows it. -/
theorem settlesAs_dispatchElasticsearch
    (options : RabbitMQSink.Options)
    (shared : Shared) :
    SettlesAs parse number others attempt loop dlqId shared
      (dispatchElasticsearch (surroundingsOf attempt) loop dlqId entry
        record).2
      (DLQReplayer.replayVerdict number options attempt entry record) := by
  unfold dispatchElasticsearch DLQReplayer.replayVerdict
    DLQReplayer.replayElasticsearch
  split
  · unfold DLQReplayer.dispatchElasticsearch
    cases sent : ElasticsearchSink.bulkUpsert attempt.bulkNow [record] with
    | none =>
        simp only [surroundingsOf, sent]
        exact runsTo_settling rfl
    | some items =>
        simp only [surroundingsOf, sent]
        refine .step (.bulk attempt.bulkAnswer (surroundingsOf attempt)) rfl ?_
        cases attempt.bulkAnswer with
        | error message => exact runsTo_settling rfl
        | ok response =>
            simp only [bulkSettled]
            cases ElasticsearchSink.parseBulkResponse number [record]
                response with
            | none => exact runsTo_settling rfl
            | some result =>
                exact settlesAs_checkFailures _ items result
                  (settlesAs_dispatchRabbitMQ options _)
  · exact settlesAs_dispatchRabbitMQ options shared

/-- A whole call of `retryEntry`. -/
theorem runsTo_retryEntry
    (options : RabbitMQSink.Options)
    (shared : Shared) :
    let outcome :=
      DLQReplayer.retryEntry parse number options attempt shared.queue dlqId
    RunsTo parse number others shared
      (.awaiting loop (.getEntryById dlqId)) outcome.queue
      (Ends loop dlqId outcome.settled) := by
  unfold DLQReplayer.retryEntry
  split
  · exact .step (.reject false 0 "") rfl (.here .threw)
  · refine .step (executed attempt) rfl ?_
    cases found : DLQStore.getEntryById shared.queue dlqId with
    | none => exact .here (.returned _)
    | some entry =>
        simp only [lookedUp]
        split
        · exact .here (.returned _)
        · simp only [surroundingsOf]
          cases DLQReplayer.reconstruct parse number attempt.now
              attempt.randomUuid entry with
          | none => exact .here .threw
          | some record => exact settlesAs_dispatchElasticsearch options _

end Entry

section Loops

variable
  {others : List Call}
  {attempt : Nat → Nat → Attempt}
  {order : Nat → DLQStore.AgeOrder}

/-- The items of a page, one after the other. -/
theorem runsTo_retryItems
    {items : List DLQEntry}
    {state next : Replaying}
    (retried :
      DLQReplayer.retryItems parse number options attempt items state =
        some next)
    {loop : Loop}
    (atItems : loop.rest = items)
    (same : loop.summary = state.summary)
    (replies : List SinkReply) :
    RunsTo parse number others { queue := state.queue, replies }
      (nextItem loop) next.queue fun call =>
        ∃ done : Loop,
          call = nextItem done ∧
            done.rest = [] ∧
            done.summary = next.summary ∧
            done.iteration = loop.iteration ∧
            done.pageLength = loop.pageLength := by
  induction items generalizing state loop replies with
  | nil =>
      cases retried
      exact .here ⟨loop, rfl, atItems, same, rfl, rfl⟩
  | cons item rest inductionHypothesis =>
      simp only [DLQReplayer.retryItems, DLQReplayer.retryNext] at retried
      let call := attempt state.calls.length item.id
      have entered :
          nextItem loop =
            .awaiting (some { loop with rest }) (.getEntryById item.id) := by
        rw [nextItem, atItems]
      rw [entered]
      have ran :=
        @runsTo_retryEntry parse number others call
          (some { loop with rest }) item.id options
          { queue := state.queue, replies }
      refine ran.trans ?_
      intro moreReplies after ends
      simp only [call] at ends
      split at retried
      · rename_i result settled
        rw [settled] at ends
        cases ends
        exact inductionHypothesis retried rfl
          (congrArg (DLQReplayer.DLQRetrySummary.count · result.success) same)
          moreReplies
      · cases retried

/-- The pages, one after the other. -/
theorem runsTo_retryBatches
    {left i : Nat}
    {state final : Replaying}
    (retried :
      DLQReplayer.retryBatches parse number options attempt order left i
          state = some final)
    {loop : Loop}
    (iterations : left + i = 50)
    (atIteration : loop.iteration = i)
    (same : loop.summary = state.summary)
    (replies : List SinkReply) :
    RunsTo parse number others { queue := state.queue, replies }
      (nextPage loop) final.queue fun call =>
        ∃ done : Loop,
          call = .allReturned done ∧ done.summary = final.summary := by
  induction left generalizing i state loop replies with
  | zero =>
      cases retried
      rw [nextPage, if_neg (by omega)]
      exact .here ⟨loop, rfl, same⟩
  | succ left inductionHypothesis =>
      simp only [DLQReplayer.retryBatches] at retried
      rw [nextPage, if_pos (by omega)]
      refine .step (.execute 0 (order i) (surroundingsOf (attempt 0 0))) rfl ?_
      generalize
        DLQStore.getPendingEntries (order i) 100 state.queue = pending
          at retried ⊢
      simp only [readPage]
      split at retried
      · rename_i isEmpty
        cases retried
        rw [if_pos isEmpty]
        exact .here ⟨loop, rfl, same⟩
      · rename_i nonempty
        rw [if_neg nonempty]
        split at retried
        · cases retried
        · rename_i next paged
          have items :=
            @runsTo_retryItems parse number options others attempt pending
              state next paged
              { loop with rest := pending, pageLength := pending.length }
              rfl same replies
          refine items.trans ?_
          rintro moreReplies _ ⟨done, rfl, empty, counted, sameI, length⟩
          rw [nextItem, empty, length, counted]
          simp only
          split at retried
          · rename_i stubborn
            cases retried
            rw [if_pos stubborn]
            exact .here ⟨done, rfl, counted⟩
          · rename_i goesOn
            rw [if_neg goesOn]
            let onward : Loop :=
              { iteration := done.iteration + 1
                pageLength := pending.length
                rest := []
                summary := next.summary
                resolvedIds := done.resolvedIds }
            have atNext : onward.iteration = i + 1 :=
              congrArg (· + 1) (sameI.trans atIteration)
            have sameSummary : onward.summary = next.summary := rfl
            exact inductionHypothesis retried (by omega) atNext sameSummary
              moreReplies

/--
Every outcome of `retryAllPending` as a function of the queue is reached by a run
of the machine in which its call is the only one: the same queue, and the same
summary.
-/
theorem retryAllPending_runs_alone
    {queue : List DLQEntry}
    {final : Replaying}
    (retried :
      DLQReplayer.retryAllPending parse number options attempt order queue =
        some final)
    (replies : List SinkReply) :
    ∃ events reached loop,
      Run (machine parse number).step Unrestricted
        ⟨(), { queue, replies }, [retryAllPending]⟩ events reached ∧
        reached.shared.queue = final.queue ∧
        reached.tasks = [.allReturned loop] ∧
        loop.summary = final.summary := by
  obtain ⟨events, moreReplies, _, run, loop, rfl, same⟩ :=
    @runsTo_retryBatches parse number options [] attempt order 50 0
      { queue, calls := [],
        summary := { retried := 0, resolved := 0, failed := 0 } }
      final retried
      { iteration := 0
        pageLength := 0
        rest := []
        summary := { retried := 0, resolved := 0, failed := 0 }
        resolvedIds := [] }
      rfl rfl rfl replies
  exact ⟨events, _, loop, run, rfl, rfl, same⟩

end Loops

/-- One letter for RabbitMQ is resolved, in the function and in the machine. -/
theorem retryAllPending_runs_alone_sample :
    ∃ events reached loop,
      Run (machine (fun _ => none) (fun _ => none)).step Unrestricted
        ⟨(), { queue := [DLQReplayer.sampleLetter 2 .rabbitmq],
               replies := [] },
          [retryAllPending]⟩ events reached ∧
        reached.tasks = [.allReturned loop] ∧
        loop.summary = { retried := 1, resolved := 1, failed := 0 } := by
  have summary :
      (DLQReplayer.retryAllPending (fun _ => none) (fun _ => none) {}
          (fun _ _ => DLQReplayer.downAttempt)
          (fun _ => DLQReplayer.leadOrder 0)
          [DLQReplayer.sampleLetter 2 .rabbitmq]).map Replaying.summary =
        some { retried := 1, resolved := 1, failed := 0 } := by
    decide +kernel
  obtain ⟨final, retried, counted⟩ := Option.map_eq_some_iff.mp summary
  obtain ⟨events, reached, loop, run, _, isLast, same⟩ :=
    retryAllPending_runs_alone retried []
  exact ⟨events, reached, loop, run, isLast, same.trans counted⟩

end Replication.ReplayCalls
