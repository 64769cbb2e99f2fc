import Replication.Quiescence
import Replication.CircuitBreaker
import Replication.Binary64
import Mathlib

namespace Replication

/-!
# The telemetry of the daemon

`getTelemetry` probes the three components, reads the counters that the two
runners keep in memory, and asks the database twice.  A rejected probe makes a
component DOWN, and a rejected query leaves its zeros: the telemetry itself is
never rejected.  The counters are read at one instant, the queries are executed
later.
-/

/-- The text of a pipeline status. -/
def PipelineStatus.text : PipelineStatus → String
  | .initialized => "INITIALIZED"
  | .running => "RUNNING"
  | .paused => "PAUSED"
  | .completed => "COMPLETED"
  | .failed => "FAILED"

/-- The text of a breaker's state. -/
def CircuitBreakerState.text : CircuitBreakerState → String
  | .closed => "CLOSED"
  | .open => "OPEN"
  | .halfOpen => "HALF_OPEN"

namespace Json

/-- A number that is an integer. -/
def int (value : Int) : Json :=
  .num (.ofInt value)

/-- A field that is left out if it is undefined, as `JSON.stringify` does. -/
def optional (name : String) (value : Option Json) : List (String × Json) :=
  (value.map fun value => (name, value)).toList

end Json

/-! ### Probes -/

/-- Status of a component; the code assigns no other one. -/
inductive ComponentStatus where
  | up
  | down
  deriving DecidableEq, Repr

namespace ComponentStatus

/-- The text of a component's status. -/
def text : ComponentStatus → String
  | .up => "UP"
  | .down => "DOWN"

/-- `healthy ? 'UP' : 'DOWN'` -/
def ofHealthy (healthy : Bool) : ComponentStatus :=
  if healthy then .up else .down

end ComponentStatus

/-- Health of one component. -/
structure ComponentHealth where
  status : ComponentStatus
  latencyMs : Int
  message : Option String
  deriving DecidableEq, Repr

/-- What the sink of the search index reports about itself. -/
structure ElasticsearchHealthResult where
  healthy : Bool
  latencyMs : Int
  clusterStatus : Option String
  error : Option String
  deriving Repr

/-- `healthCheck()`: any cluster that answers and is not red. -/
def ElasticsearchSink.healthCheck
    (clusterHealth : Except String String)
    (latencyMs : Int) : ElasticsearchHealthResult :=
  match clusterHealth with
  | .ok status =>
      { healthy := status != "red"
        latencyMs
        clusterStatus := some status
        error := none }
  | .error errorMsg =>
      { healthy := false
        latencyMs
        clusterStatus := none
        error := some errorMsg }

/-- What the sink of the broker reports about itself. -/
structure RabbitMQHealthResult where
  healthy : Bool
  latencyMs : Int
  connectionState : String
  error : Option String
  deriving Repr

/-- `healthCheck()`: a connection whose exchange can be checked. -/
def RabbitMQSink.healthCheck
    (isConnected : Bool)
    (checkExchange : Except String Unit)
    (latencyMs : Int) : RabbitMQHealthResult :=
  if isConnected then
    match checkExchange with
    | .ok _ =>
        { healthy := true
          latencyMs
          connectionState := "CONNECTED"
          error := none }
    | .error errorMsg =>
        { healthy := false
          latencyMs
          connectionState := "ERROR"
          error := some errorMsg }
  else
    { healthy := false
      latencyMs := 0
      connectionState := "DISCONNECTED"
      error := some "AMQP channel is not connected" }

/-- Overall health. -/
inductive OverallHealth where
  | healthy
  | degraded
  | down
  deriving DecidableEq, Repr

/-- The text of the overall health. -/
def OverallHealth.text : OverallHealth → String
  | .healthy => "HEALTHY"
  | .degraded => "DEGRADED"
  | .down => "DOWN"

/-- Health of the system. -/
structure SystemHealth where
  overall : OverallHealth
  postgres : ComponentHealth
  elasticsearch : ComponentHealth
  rabbitmq : ComponentHealth
  deriving Repr

/-! ### The two queries -/

/-- What `getSourceMetadata` returns. -/
structure SourceMetadata where
  maxId : Nat
  totalCount : Nat
  deriving DecidableEq, Repr

/-- `SELECT COALESCE(MAX(id), 0), COUNT(*) FROM source_records` -/
def SourceReader.getSourceMetadata (table : List SourceRow) : SourceMetadata where
  maxId := (table.map SourceRow.id).foldr max 0
  totalCount := table.length

/-! ### The coordinator -/

/-- Status of the coordinator. -/
inductive CoordinatorStatus where
  | initialized
  | running
  | stopped
  deriving DecidableEq, Repr

/-- The text of the coordinator's status. -/
def CoordinatorStatus.text : CoordinatorStatus → String
  | .initialized => "INITIALIZED"
  | .running => "RUNNING"
  | .stopped => "STOPPED"

namespace PipelineCoordinator

/-- How the awaits of one `getTelemetry` settle; the clock is read around them. -/
structure Answers where
  selectOne : Except String Unit
  selectOneMs : Int
  clusterHealth : Except String String
  clusterHealthMs : Int
  /-- `isConnected`, and there is a channel. -/
  isConnected : Bool
  checkExchange : Except String Unit
  checkExchangeMs : Int
  /-- Nothing if the query is rejected. -/
  sourceMetadata : Option SourceMetadata
  /-- Nothing if the query is rejected. -/
  pendingCount : Option Nat
  now : Int

/-- `SELECT 1` -/
def postgresHealth (answers : Answers) : ComponentHealth :=
  match answers.selectOne with
  | .ok _ =>
      { status := .up
        latencyMs := answers.selectOneMs
        message := none }
  | .error message =>
      { status := .down
        latencyMs := answers.selectOneMs
        message := some message }

/-- The health check of the search index. -/
def elasticsearchHealth (answers : Answers) : ComponentHealth :=
  let check :=
    ElasticsearchSink.healthCheck answers.clusterHealth answers.clusterHealthMs
  { status := .ofHealthy check.healthy
    latencyMs := check.latencyMs
    message :=
      (check.error.filter fun error => error != "").or
        ((check.clusterStatus.filter fun status => status != "").map
          fun status => "Cluster status: " ++ status) }

/-- The health check of the broker. -/
def rabbitmqHealth (answers : Answers) : ComponentHealth :=
  let check :=
    RabbitMQSink.healthCheck answers.isConnected answers.checkExchange
      answers.checkExchangeMs
  { status := .ofHealthy check.healthy
    latencyMs := check.latencyMs
    message :=
      some
        ((check.error.filter fun error => error != "").getD
          ("State: " ++ check.connectionState)) }

/-- `allUp ? 'HEALTHY' : (anyDown ? 'DOWN' : 'DEGRADED')` -/
def overallOf
    (postgres elasticsearch rabbitmq : ComponentStatus) : OverallHealth :=
  if postgres = .up ∧ elasticsearch = .up ∧ rabbitmq = .up then
    .healthy
  else if postgres = .down ∨ elasticsearch = .down ∨ rabbitmq = .down then
    .down
  else
    .degraded

/-- The health part of the telemetry. -/
def systemHealth (answers : Answers) : SystemHealth where
  overall :=
    overallOf (postgresHealth answers).status
      (elasticsearchHealth answers).status (rabbitmqHealth answers).status
  postgres := postgresHealth answers
  elasticsearch := elasticsearchHealth answers
  rabbitmq := rabbitmqHealth answers

/--
`Math.min(100, Math.round((lastProcessedId / maxId) * 10000) / 100)` in
hundredths; the quotient and the product are rounded to doubles.
-/
def backfillCompletion
    (lastProcessedId : Nat)
    (metadata : SourceMetadata) : Int :=
  if 0 < metadata.maxId then
    let ratio := Binary64.nearest (lastProcessedId / metadata.maxId)
    min 10000 (Binary64.nearest (ratio * 10000) + 1 / 2).floor
  else if metadata.totalCount = 0 then
    10000
  else
    0

/-- A number of hundredths. -/
def hundredths (value : Int) : JsNumber :=
  if whole : value % 100 = 0 then
    .ofInt (value / 100)
  else if tenths : value % 10 = 0 then
    ⟨value / 10, 1, .inr (by omega)⟩
  else
    ⟨value, 2, .inr tenths⟩

/-- The telemetry. -/
structure PipelineTelemetry where
  status : CoordinatorStatus
  backfillStatus : PipelineStatus
  incrementalStatus : PipelineStatus
  backfillCursor : Nat
  backfillTotalRecords : Nat
  /-- In hundredths. -/
  backfillCompletionPct : Int
  currentThroughputEps : Int
  incrementalLagRecords : Nat
  incrementalLagMs : Int
  dlqPendingCount : Nat
  health : SystemHealth
  circuitBreakers : CircuitBreaker × CircuitBreaker
  timestamp : Int
  deriving Repr

/-- `getTelemetry()` of a coordinator with these runners and breakers. -/
def getTelemetry
    (status : CoordinatorStatus)
    (backfill : BackfillRunner.Memory)
    (incremental : IncrementalRunner.Memory)
    (circuitBreakers : CircuitBreaker × CircuitBreaker)
    (answers : Answers) : PipelineTelemetry :=
  -- a rejected query is a degraded read
  let metadata := answers.sourceMetadata.getD { maxId := 0, totalCount := 0 }
  { status
    backfillStatus := backfill.status
    incrementalStatus := incremental.status
    backfillCursor := backfill.cursor
    backfillTotalRecords := metadata.totalCount
    backfillCompletionPct := backfillCompletion backfill.cursor metadata
    currentThroughputEps := backfill.gauges.currentThroughputEps
    incrementalLagRecords := incremental.gauges.currentLagRecords
    incrementalLagMs := incremental.gauges.currentLagMs
    dlqPendingCount := answers.pendingCount.getD 0
    health := systemHealth answers
    circuitBreakers
    timestamp := answers.now }

end PipelineCoordinator

/-! ### As JSON -/

/-- Health of one component. -/
def ComponentHealth.toJson (health : ComponentHealth) : Json :=
  .obj
    ([("status", .str health.status.text),
        ("latency_ms", .int health.latencyMs)] ++
      Json.optional "message" (health.message.map .str))

/-- Health of the system. -/
def SystemHealth.toJson (health : SystemHealth) : Json :=
  .obj
    [("overall", .str health.overall.text),
      ("postgres", health.postgres.toJson),
      ("elasticsearch", health.elasticsearch.toJson),
      ("rabbitmq", health.rabbitmq.toJson)]

/-- `getMetrics()` of a breaker. -/
def CircuitBreaker.getMetrics
    (name : String)
    (breaker : CircuitBreaker) : Json :=
  .obj
    [("name", .str name),
      ("state", .str breaker.state.text),
      ("consecutiveFailures", .int breaker.consecutiveFailures),
      ("consecutiveSuccesses", .int breaker.consecutiveSuccesses),
      ("totalTrips", .int breaker.totalTrips),
      ("currentBackoffMs", .int breaker.currentBackoffMs),
      ("totalDowntimeMs", .int breaker.totalDowntimeMs),
      ("isThrottling", .bool (breaker.state ≠ .closed))]

namespace PipelineCoordinator

/-- Names of the two breakers. -/
structure BreakerNames where
  elasticsearch : String
  rabbitmq : String

/-- The body of `GET /metrics`. -/
def PipelineTelemetry.toJson
    (names : BreakerNames)
    (telemetry : PipelineTelemetry) : Json :=
  .obj
    [("status", .str telemetry.status.text),
      ("backfill_status", .str telemetry.backfillStatus.text),
      ("incremental_status", .str telemetry.incrementalStatus.text),
      ("backfill_cursor", .int telemetry.backfillCursor),
      ("backfill_total_records", .int telemetry.backfillTotalRecords),
      ("backfill_completion_pct",
        .num (hundredths telemetry.backfillCompletionPct)),
      ("current_throughput_eps", .int telemetry.currentThroughputEps),
      ("incremental_lag_records", .int telemetry.incrementalLagRecords),
      ("incremental_lag_ms", .int telemetry.incrementalLagMs),
      ("dlq_pending_count", .int telemetry.dlqPendingCount),
      ("health", telemetry.health.toJson),
      ("circuit_breakers",
        .obj
          [("elasticsearch",
              telemetry.circuitBreakers.1.getMetrics names.elasticsearch),
            ("rabbitmq",
              telemetry.circuitBreakers.2.getMetrics names.rabbitmq)]),
      ("timestamp", .str (isoString telemetry.timestamp))]

/-- Status code and body of `GET /health`. -/
def health (telemetry : PipelineTelemetry) : Nat × Json :=
  (if telemetry.health.overall = .down then 503 else 200,
    .obj
      [("status", .str telemetry.health.overall.text),
        ("health", telemetry.health.toJson),
        ("timestamp", .str (isoString telemetry.timestamp))])

/-- A cursor that no id is above is reported as 100%. -/
theorem backfillCompletion_of_le
    {lastProcessedId : Nat}
    {metadata : SourceMetadata}
    (empty : metadata.maxId = 0 → metadata.totalCount = 0)
    (reached : metadata.maxId ≤ lastProcessedId) :
    backfillCompletion lastProcessedId metadata = 10000 := by
  unfold backfillCompletion
  split
  · rename_i positive
    have quotient :
        ((1 : Nat) : Rat) ≤ lastProcessedId / metadata.maxId := by
      rw [Nat.cast_one, one_le_div (by exact_mod_cast positive)]
      exact_mod_cast reached
    have ratio := Binary64.natCast_le_nearest (by norm_num) quotient
    have product :
        ((10000 : Nat) : Rat) ≤
          Binary64.nearest (lastProcessedId / metadata.maxId) * 10000 := by
      push_cast at ratio ⊢
      linarith
    have rounded := Binary64.natCast_le_nearest (by norm_num) product
    apply min_eq_left
    apply Rat.le_floor_iff.mpr
    push_cast at rounded ⊢
    linarith
  · rename_i zero
    rw [if_pos (empty (by omega))]

/-- Every component is up or down, so the system is never degraded. -/
theorem overallOf_eq
    (postgres elasticsearch rabbitmq : ComponentStatus) :
    overallOf postgres elasticsearch rabbitmq =
      if postgres = .up ∧ elasticsearch = .up ∧ rabbitmq = .up then .healthy
      else .down := by
  cases postgres <;> cases elasticsearch <;> cases rabbitmq <;> rfl

/-- The health endpoint fails exactly when some component does. -/
theorem health_eq_ok_iff
    {status : CoordinatorStatus}
    {backfill : BackfillRunner.Memory}
    {incremental : IncrementalRunner.Memory}
    {circuitBreakers : CircuitBreaker × CircuitBreaker}
    {answers : Answers} :
    (health
        (getTelemetry status backfill incremental circuitBreakers
          answers)).1 = 200 ↔
      answers.selectOne = .ok () ∧
        (∃ cluster, answers.clusterHealth = .ok cluster ∧ cluster ≠ "red") ∧
          answers.isConnected = true ∧ answers.checkExchange = .ok () := by
  simp only [health, getTelemetry, systemHealth, overallOf_eq,
    postgresHealth, elasticsearchHealth, rabbitmqHealth,
    ElasticsearchSink.healthCheck, RabbitMQSink.healthCheck,
    ComponentStatus.ofHealthy]
  rcases answers.selectOne with message | ⟨⟨⟩⟩ <;>
    rcases answers.clusterHealth with error | cluster <;>
      rcases answers.checkExchange with error | ⟨⟨⟩⟩ <;>
        cases answers.isConnected <;> simp

end PipelineCoordinator

end Replication
