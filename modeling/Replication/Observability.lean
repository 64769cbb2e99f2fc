import Replication.Gate5
import Replication.Provenance
import Replication.Telemetry
import Mathlib

namespace Replication

open Accounting (FailuresNamed)

/-!
# The telemetry answers the five questions

Whatever the two runners have gone through, and whether or not the components
answer, `GET /metrics` passes Gate 5.  The counters it prints are never negative
because no step of a runner makes them so: a batch cannot have more failures
than records, and both gauges are computed from what is not negative.
-/

/-! ### Runs of the daemon and of its runners -/

namespace Quiescence

/-- What an event does to the backfill runner. -/
def Event.backfillPart : Event → Option RunnerProgram.Event
  | .backfill move => some move.event
  | .restart => some (.env .kill)
  | .change mutation => some (.change mutation)
  | _ => none

/-- What an event does to the incremental runner. -/
def Event.incrementalPart : Event → Option RunnerProgram.Event
  | .incremental move => some move.event
  | .restart => some (.env .kill)
  | .change mutation => some (.change mutation)
  | _ => none

section Parts

variable
  {parse : String → Option Json}
  {batchSize : Nat}
  {before after : World}
  {event : Event}

/-- A step of the daemon steps its backfill runner, or leaves it alone. -/
theorem backfill_step
    (taken : step parse batchSize before event = some after) :
    (∃ own,
      event.backfillPart = some own ∧
        (BackfillRunner.program parse batchSize).machine.step
          before.backfill own = some after.backfill) ∨
      after.backfill = before.backfill := by
  cases event with
  | backfill move =>
      obtain ⟨_, moved, rfl⟩ := Option.map_eq_some_iff.mp taken
      exact .inl ⟨_, rfl, moved⟩
  | incremental move =>
      obtain ⟨_, _, rfl⟩ := Option.map_eq_some_iff.mp taken
      refine .inr ?_
      unfold noteMove noteCount
      split
      · split
        · split <;> rfl
        · rfl
      · rfl
  | restart =>
      simp only [step] at taken
      split at taken
      · rename_i backfill incremental killed _
        cases taken
        exact .inl ⟨_, rfl, killed⟩
      · cases taken
  | change change =>
      simp only [step] at taken
      split at taken
      · rename_i backfill incremental changed _
        cases taken
        exact .inl ⟨_, rfl, changed⟩
      · cases taken
  | waitForPipelineQuiescence =>
      cases taken
      exact .inr rfl

/-- A step of the daemon steps its incremental runner, or leaves it alone. -/
theorem incremental_step
    (taken : step parse batchSize before event = some after) :
    (∃ own,
      event.incrementalPart = some own ∧
        (IncrementalRunner.program parse batchSize).machine.step
          before.incremental own = some after.incremental) ∨
      after.incremental = before.incremental := by
  cases event with
  | backfill move =>
      obtain ⟨_, _, rfl⟩ := Option.map_eq_some_iff.mp taken
      exact .inr rfl
  | incremental move =>
      obtain ⟨_, moved, rfl⟩ := Option.map_eq_some_iff.mp taken
      exact .inl ⟨_, rfl, moved⟩
  | restart =>
      simp only [step] at taken
      split at taken
      · rename_i backfill incremental _ killed
        cases taken
        exact .inl ⟨_, rfl, killed⟩
      · cases taken
  | change change =>
      simp only [step] at taken
      split at taken
      · rename_i backfill incremental _ changed
        cases taken
        exact .inl ⟨_, rfl, changed⟩
      · cases taken
  | waitForPipelineQuiescence =>
      cases taken
      exact .inr rfl

/-- What the runner keeps in its own steps, the daemon keeps in its own. -/
theorem backfill_invariant
    (Holds : BackfillRunner.World → Prop)
    {admits : World → Event → Prop}
    {ownAdmits : BackfillRunner.World → RunnerProgram.Event → Prop}
    (admitted :
      ∀ {world event own},
        admits world event → event.backfillPart = some own →
          ownAdmits world.backfill own)
    (preserved :
      ∀ {world own reached},
        Holds world → ownAdmits world own →
        (BackfillRunner.program parse batchSize).machine.step world own =
          some reached →
        Holds reached)
    {events : List Event}
    (run : Run (step parse batchSize) admits before events after)
    (start : Holds before.backfill) :
    Holds after.backfill := by
  refine run.invariant (fun world => Holds world.backfill) ?_ start
  intro world event reached holds allowed taken
  rcases backfill_step taken with ⟨own, isPart, moved⟩ | same
  · exact preserved holds (admitted allowed isPart) moved
  · exact same ▸ holds

/-- So it is with the incremental runner. -/
theorem incremental_invariant
    (Holds : IncrementalRunner.World → Prop)
    {admits : World → Event → Prop}
    (preserved :
      ∀ {world own reached},
        Holds world →
        (IncrementalRunner.program parse batchSize).machine.step world own =
          some reached →
        Holds reached)
    {events : List Event}
    (run : Run (step parse batchSize) admits before events after)
    (start : Holds before.incremental) :
    Holds after.incremental := by
  refine run.invariant (fun world => Holds world.incremental) ?_ start
  intro world event reached holds _ taken
  rcases incremental_step taken with ⟨own, _, moved⟩ | same
  · exact preserved holds moved
  · exact same ▸ holds

end Parts

end Quiescence

/-! ### No counter is negative -/

/-- A batch has no more failed records than records. -/
theorem batchSuccessCount_nonneg
    {records : List SourceRecord}
    {esResult rmqResult : SinkResult}
    (esNamed : FailuresNamed esResult records)
    (rmqNamed : FailuresNamed rmqResult records) :
    0 ≤ batchSuccessCount records esResult rmqResult := by
  have inBatch :
      (esResult.failedIds ++ rmqResult.failedIds).dedup ⊆
        records.map SourceRecord.id := by
    intro id member
    rcases List.mem_append.mp (List.mem_dedup.mp member) with es | rmq
    · exact esNamed id es
    · exact rmqNamed id rmq
  have atMost :=
    ((List.nodup_dedup _).subperm inBatch).length_le
  rw [List.length_map] at atMost
  unfold batchSuccessCount batchFailedCount
  omega

namespace BackfillRunner

/-- What a suspended call may still add to the counters is not negative. -/
def AddsNothingNegative : Call Nat → Prop
  | .getCheckpoint (.fulfilled checkpoint) => 0 ≤ checkpoint.recordsProcessed
  | .dispatch records esCall rmqCall =>
      (∀ result, esCall = .fulfilled result → FailuresNamed result records) ∧
        ∀ result, rmqCall = .fulfilled result → FailuresNamed result records
  | .persistFailures records esResult rmqResult _ =>
      FailuresNamed esResult records ∧ FailuresNamed rmqResult records
  | .commitCheckpoint _ data _ => 0 ≤ data.batchSuccessCount
  | _ => True

/-- The counters of a runner, in memory and stored, are not negative. -/
structure CountsUp (state : RunnerState Nat Gauges) : Prop where
  stored :
    0 ≤ (CheckpointManager.getCheckpoint state.checkpoint).recordsProcessed
  totalProcessed : 0 ≤ state.memory.totalProcessed
  throughput : 0 ≤ state.memory.gauges.currentThroughputEps

section Counters

variable
  {parse : String → Option Json}
  {batchSize : Nat}
  {table : List SourceRow}
  {state after : RunnerState Nat Gauges}
  {call next : Call Nat}
  {action : Act}
  {spawned : List (Call Nat)}

/-- Records processed so far, by the time that has passed. -/
theorem throughput_nonneg
    {totalProcessed : Int}
    (nonneg : 0 ≤ totalProcessed)
    (elapsedMs : Int) :
    0 ≤ throughput totalProcessed elapsedMs := by
  have elapsed :
      (0 : Rat) ≤
        max (Binary64.round (1 / 1000))
          (Binary64.round ((elapsedMs : Rat) / 1000)) :=
    le_max_of_le_left (Binary64.round_nonneg (by norm_num))
  have rate :=
    Binary64.round_nonneg
      (div_nonneg (Int.cast_nonneg nonneg) elapsed)
  unfold throughput
  rw [Rat.le_floor_iff]
  push_cast
  linarith

/-- Evaluating the loop condition measures nothing. -/
theorem gauges_loopHead (memory : Memory) :
    (loopHead memory).1.gauges = memory.gauges := by
  unfold loopHead finish
  split <;> rfl

/-- The throughput is computed by the commit of a batch only. -/
theorem throughput_of_turn
    {memory later : Memory}
    {now : Int}
    (turned : turn memory now call = some (later, next, spawned)) :
    later.gauges.currentThroughputEps = memory.gauges.currentThroughputEps ∨
      ∃ elapsedMs,
        later.gauges.currentThroughputEps =
          throughput later.totalProcessed elapsedMs := by
  unfold turn at turned
  split at turned
  case h_1 => split at turned <;> cases turned <;> exact .inl rfl
  case h_3 =>
    cases turned
    have same :=
      congrArg Gauges.currentThroughputEps
        (gauges_loopHead
          { memory with
            gauges := { memory.gauges with startTime := some now } })
    exact .inl same
  case h_5 =>
    cases turned
    refine .inl ?_
    unfold finish
    split <;> rfl
  case h_14 =>
    split at turned <;> cases turned
    · exact .inr ⟨_, rfl⟩
    · exact .inl rfl
  case h_17 =>
    cases turned
    exact .inr ⟨_, rfl⟩
  case h_19 records data answer =>
    cases turned
    exact .inl (congrArg Gauges.currentThroughputEps
      (gauges_loopHead { memory with cursor := data.lastProcessedId }))
  case h_21 => cases turned
  all_goals
    cases turned
    exact .inl rfl

/-- The loop condition changes no total and asks for no commit. -/
theorem counts_of_loopHead
    {memory later : Memory}
    (head : LoopHead .backfill memory later next) :
    later.totalProcessed = memory.totalProcessed ∧
      AddsNothingNegative next := by
  cases head <;> exact ⟨rfl, trivial⟩

/-- A turn adds what its call could add. -/
theorem totalProcessed_of_turn
    {memory later : Memory}
    (nonneg : 0 ≤ memory.totalProcessed)
    (adds : AddsNothingNegative call)
    (turned : Turn .backfill codec memory call later next spawned) :
    0 ≤ later.totalProcessed ∧ AddsNothingNegative next := by
  cases turned with
  | loadStopped checkpoint stop => exact ⟨adds, trivial⟩
  | load checkpoint go => exact ⟨adds, trivial⟩
  | enter answer gauges head =>
      obtain ⟨same, nextAdds⟩ := counts_of_loopHead head
      exact ⟨same ▸ nonneg, nextAdds⟩
  | advanced records data answer head =>
      obtain ⟨same, nextAdds⟩ := counts_of_loopHead head
      exact ⟨same ▸ nonneg, nextAdds⟩
  | woken isIncremental head => cases isIncremental
  | dispatched cursor records nonempty => exact ⟨nonneg, nofun, nofun⟩
  | persisting records esResult rmqResult failures =>
      exact ⟨nonneg, adds.1 _ rfl, adds.2 _ rfl⟩
  | committing records esResult rmqResult data gauges ready commit =>
      have named :
          FailuresNamed esResult records ∧
            FailuresNamed rmqResult records := by
        cases ready with
        | clean noFailures => exact ⟨adds.1 _ rfl, adds.2 _ rfl⟩
        | persisted answer => exact adds
      have counted : 0 ≤ data.batchSuccessCount := by
        rw [commit.successCount]
        exact batchSuccessCount_nonneg named.1 named.2
      exact ⟨add_nonneg nonneg counted, counted⟩
  | _ => exact ⟨nonneg, trivial⟩

/-- A statement stores what its call could add. -/
theorem stored_of_served
    (counts : CountsUp state)
    (adds : AddsNothingNegative call)
    {now : Int}
    (served :
      Served (program parse batchSize) table now state call after next) :
    CountsUp after ∧ AddsNothingNegative next := by
  obtain ⟨stored, total, eps⟩ := counts
  cases served with
  | checkpoint => exact ⟨⟨stored, total, eps⟩, stored⟩
  | status status =>
      refine ⟨⟨?_, total, eps⟩, trivial⟩
      cases row : state.checkpoint with
      | none => exact le_refl 0
      | some checkpoint => rwa [row] at stored
  | persisted records esResult rmqResult saved =>
      exact ⟨⟨stored, total, eps⟩, adds⟩
  | notPersisted records esResult rmqResult =>
      exact ⟨⟨stored, total, eps⟩, adds⟩
  | committed records data =>
      refine ⟨⟨?_, total, eps⟩, adds⟩
      cases row : state.checkpoint with
      | none => exact le_refl 0
      | some checkpoint =>
          rw [row] at stored
          exact add_nonneg stored adds
  | _ => exact ⟨⟨stored, total, eps⟩, trivial⟩

/-- Every step of a call keeps the counters from becoming negative. -/
theorem countsUp_of_act
    (counts : CountsUp state)
    (adds : AddsNothingNegative call)
    (named :
      ∀ sink result, action = .settle sink (some result) →
        FailuresNamed result (RunnerProgram.batchOf call))
    (moved :
      (program parse batchSize).act table state call action =
        some (after, next, spawned)) :
    CountsUp after ∧ AddsNothingNegative next ∧
      ∀ new ∈ spawned, AddsNothingNegative new := by
  have follows := program_follows parse batchSize
  have notSpawned :
      ∀ {records esCall rmqCall},
        ∀ new ∈ leftBehind records esCall rmqCall,
          AddsNothingNegative new := by
    intro records esCall rmqCall new member
    rcases mem_leftBehind member with ⟨rfl, _⟩ | ⟨rfl, _⟩ <;> trivial
  have step := follows.act_spec moved
  cases action with
  | serve now =>
      cases step with
      | serve now served =>
          obtain ⟨nextCounts, nextAdds⟩ := stored_of_served counts adds served
          exact ⟨nextCounts, nextAdds, List.forall_mem_nil _⟩
  | reject =>
      cases step with
      | reject rejected =>
          refine ⟨counts, ?_, List.forall_mem_nil _⟩
          cases rejected with
          | persist records esResult rmqResult => exact adds
          | commit records data => exact adds
          | _ => trivial
  | begin sink =>
      cases step with
      | begin sink begun =>
          refine ⟨counts, ?_, List.forall_mem_nil _⟩
          cases begun with
          | elasticsearch records rmqCall => exact ⟨nofun, adds.2⟩
          | rabbitmq records esCall => exact ⟨adds.1, nofun⟩
          | orphan records => trivial
  | settle sink outcome =>
      cases step with
      | settle sink outcome settled =>
          refine ⟨⟨counts.stored, counts.totalProcessed, counts.throughput⟩,
            ?_, List.forall_mem_nil _⟩
          cases settled with
          | elasticsearch isSink records rmqCall each =>
              refine ⟨?_, adds.2⟩
              rintro result rfl
              cases each with
              | fulfilled result => exact named sink result rfl
          | rabbitmq isSink records esCall each =>
              refine ⟨adds.1, ?_⟩
              rintro result rfl
              cases each with
              | fulfilled result => exact named sink result rfl
          | orphan records each => trivial
  | turn now =>
      obtain ⟨⟨memory, following, orphans⟩, turned, same⟩ :=
        Option.map_eq_some_iff.mp moved
      cases same
      obtain ⟨total, nextAdds⟩ :=
        totalProcessed_of_turn counts.totalProcessed adds
          (follows.turn turned)
      refine ⟨⟨counts.stored, total, ?_⟩, nextAdds, ?_⟩
      · rcases throughput_of_turn turned with unchanged | ⟨elapsed, computed⟩
        · exact unchanged ▸ counts.throughput
        · exact computed ▸ throughput_nonneg total elapsed
      · cases follows.turn turned with
        | dispatchFailed => exact notSpawned
        | dispatchRetried => exact notSpawned
        | _ => exact List.forall_mem_nil _

/-- In every state of a run the counters are not negative. -/
abbrev Counting : World → Prop :=
  TaskMachine.Invariant (fun _ => CountsUp) (fun _ _ => AddsNothingNegative)

/-- Every step of the runner keeps them so. -/
theorem counting_step
    {before reached : World}
    {event : RunnerProgram.Event}
    (holds : Counting before)
    (admitted : FailsNamed before event)
    (taken :
      (program parse batchSize).machine.step before event = some reached) :
    Counting reached := by
  refine TaskMachine.Invariant.step ?_ ?_ ?_ holds admitted taken
  · intro world index call action shared next spawned
      worldHolds allowed found adds moved
    have named :
        ∀ sink result, action = .settle sink (some result) →
          FailuresNamed result (RunnerProgram.batchOf call) := by
      rintro sink result rfl
      exact allowed call found
    obtain ⟨counts, nextAdds, spawnedAdd⟩ :=
      countsUp_of_act worldHolds.global adds named moved
    exact ⟨counts, nextAdds, spawnedAdd, fun _ other => other⟩
  · intro world event shared tasks worldHolds _ moved
    obtain ⟨stored, total, eps⟩ := worldHolds.global
    have started :
        ∀ new : Call Nat, AddsNothingNegative new →
          ∀ task ∈ world.tasks ++ [new], AddsNothingNegative task := by
      intro new adds task member
      rcases List.mem_append.mp member with old | isNew
      · exact worldHolds.local_ task old
      · exact List.mem_singleton.mp isNew ▸ adds
    cases event with
    | start =>
        cases moved
        exact ⟨⟨stored, total, eps⟩, started _ trivial⟩
    | pause =>
        cases moved
        exact ⟨⟨stored, total, eps⟩, started _ trivial⟩
    | kill =>
        cases moved
        exact ⟨⟨stored, le_refl 0, le_refl 0⟩, List.forall_mem_nil _⟩
  · intro world change context worldHolds _ _
    exact ⟨worldHolds.global, worldHolds.local_⟩

end Counters

end BackfillRunner

namespace IncrementalRunner

/-- A turn keeps the gauges, or measures the lag. -/
theorem lagMs_of_turn
    {batchSize : Nat}
    {memory later : Memory}
    {now : Int}
    {call next : Call Watermark}
    {spawned : List (Call Watermark)}
    (nonneg : 0 ≤ memory.gauges.currentLagMs)
    (turned : turn batchSize memory now call = some (later, next, spawned)) :
    0 ≤ later.gauges.currentLagMs := by
  rcases gauges_of_turn turned with
    ⟨cursor, lag, newest, rfl, _, _⟩ | ⟨_, unchanged⟩
  · cases turned
    cases newest with
    | none => exact le_refl 0
    | some time => exact le_max_left 0 (now - time)
  · exact unchanged ▸ nonneg

/-- The lag is never negative, whatever the clock shows. -/
theorem lagMs_step
    {parse : String → Option Json}
    {batchSize : Nat}
    {before reached : World}
    {event : RunnerProgram.Event}
    (nonneg : 0 ≤ before.shared.memory.gauges.currentLagMs)
    (taken :
      (program parse batchSize).machine.step before event = some reached) :
    0 ≤ reached.shared.memory.gauges.currentLagMs := by
  cases event with
  | act index action =>
      obtain ⟨call, shared, next, spawned, _, moved, rfl⟩ :=
        TaskMachine.step_act taken
      have step :
          Step (program parse batchSize) .incremental codec before.context
            before.shared call action shared next spawned :=
        (program_follows parse batchSize).act_spec moved
      cases action with
      | turn now =>
          obtain ⟨⟨_, _, _⟩, turned, same⟩ := Option.map_eq_some_iff.mp moved
          cases same
          exact lagMs_of_turn nonneg turned
      | serve now =>
          cases step with
          | serve now served => cases served <;> exact nonneg
      | _ =>
          cases step
          exact nonneg
  | env event =>
      obtain ⟨_, _, moved, rfl⟩ := TaskMachine.step_env taken
      cases event with
      | kill =>
          cases moved
          exact le_refl 0
      | _ =>
          cases moved
          exact nonneg
  | change change =>
      obtain ⟨_, _, rfl⟩ := TaskMachine.step_change taken
      exact nonneg

end IncrementalRunner

namespace PipelineCoordinator

open Gate5

/-- The health of a component has a status, with or without a message. -/
theorem field_status (health : ComponentHealth) :
    health.toJson.field "status" = some (.str health.status.text) := by
  unfold ComponentHealth.toJson
  cases health.message <;> rfl

/-- A component whose health is in the payload is valid. -/
theorem componentValid_of_health
    {name : String}
    {telemetry : Json}
    {health : ComponentHealth}
    (found :
      (telemetry.field "health").bind (Json.field name) =
        some health.toJson) :
    componentValid name telemetry = true := by
  have truthy : health.toJson.truthy = true := rfl
  simp only [componentValid, found, truthy, field_status, Bool.and_self]

/-- A payload without negative counters answers the five questions. -/
theorem questions_toJson
    (names : BreakerNames)
    {telemetry : PipelineTelemetry}
    (throughput : 0 ≤ telemetry.currentThroughputEps)
    (lag : 0 ≤ telemetry.incrementalLagMs) :
    ∀ question ∈ questions (telemetry.toJson names), question.1 = true := by
  have eps : nonNegative "current_throughput_eps" (telemetry.toJson names) =
      true := decide_eq_true throughput
  have records :
      nonNegative "incremental_lag_records" (telemetry.toJson names) = true :=
    decide_eq_true (Int.natCast_nonneg telemetry.incrementalLagRecords)
  have millis :
      nonNegative "incremental_lag_ms" (telemetry.toJson names) = true :=
    decide_eq_true lag
  have pending :
      nonNegative "dlq_pending_count" (telemetry.toJson names) = true :=
    decide_eq_true (Int.natCast_nonneg telemetry.dlqPendingCount)
  have overall : overallValid (telemetry.toJson names) = true := by
    change decide (telemetry.health.overall.text ∈ _) = true
    cases telemetry.health.overall <;> decide
  have postgres :
      componentValid "postgres" (telemetry.toJson names) = true :=
    componentValid_of_health rfl
  have elasticsearch :
      componentValid "elasticsearch" (telemetry.toJson names) = true :=
    componentValid_of_health rfl
  have rabbitmq :
      componentValid "rabbitmq" (telemetry.toJson names) = true :=
    componentValid_of_health rfl
  simp only [questions, List.forall_mem_cons, eps, records, millis, pending,
    overall, postgres, elasticsearch, rabbitmq, Bool.and_self, true_and]
  exact ⟨rfl, List.forall_mem_nil _⟩

/-- The payload passes, and the answers quote its fields. -/
theorem evaluate_toJson
    (names : BreakerNames)
    {telemetry : PipelineTelemetry}
    (throughput : 0 ≤ telemetry.currentThroughputEps)
    (lag : 0 ≤ telemetry.incrementalLagMs) :
    evaluateGate5Observability (telemetry.toJson names) =
      { passed := true
        answers := some (answersOf (telemetry.toJson names))
        details := []
        output := formatGateResult gateName "PASS".toList [] } := by
  have answered := questions_toJson names throughput lag
  have passed :
      (questions (telemetry.toJson names)).all Prod.fst = true :=
    List.all_eq_true.mpr answered
  have noReason :
      (questions (telemetry.toJson names)).filter
        (fun question => !question.1) = [] := by
    apply List.filter_eq_nil_iff.mpr
    intro question member
    simp [answered question member]
  have isObject : isObject (telemetry.toJson names) = true := rfl
  simp only [evaluateGate5Observability, isObject, if_true, passed, noReason,
    List.map_nil]
  rfl

/-- The backfill runner's sinks fail records of their batch only. -/
def BackfillFailsNamed
    (world : Quiescence.World)
    (event : Quiescence.Event) : Prop :=
  ∀ own ∈ event.backfillPart, FailsNamed world.backfill own

instance (world : Quiescence.World) :
    DecidablePred (BackfillFailsNamed world) :=
  fun event => inferInstanceAs (Decidable (∀ own ∈ event.backfillPart, _))

/-- The backfill runner moves the only row, one second after it has started. -/
def sampleMoved : List Quiescence.Event :=
  .backfill .start ::
    [.serve 0, .turn 0, .serve 0, .turn 5, .serve 0, .turn 0,
      .begin .elasticsearch, .begin .rabbitmq,
      .settle .elasticsearch (some (sampleResult [1] [])),
      .settle .rabbitmq (some (sampleResult [] [1])), .turn 0, .serve 0,
      .turn 1005].map
      fun action => .backfill (.act 0 action)

/-- Nothing answers. -/
def sampleOutage : Answers where
  selectOne := .error "connection refused"
  selectOneMs := 1
  clusterHealth := .error "connection refused"
  clusterHealthMs := 1
  isConnected := false
  checkExchange := .error "channel closed"
  checkExchangeMs := 1
  sourceMetadata := none
  pendingCount := none
  now := 0

end PipelineCoordinator

end Replication
