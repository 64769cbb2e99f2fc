import Replication.Harness
import Replication.WaitForQuiescence
import Mathlib

namespace Replication.Gate5

open PollingLoop

/-!
# Gate 5

`evaluateGate5Observability` asks five questions of a telemetry payload, and
`runGate5` polls until a payload comes or its time is up.  Whatever the answer
is, one that is complete passes: the gate looks at the payload, not at the state
of the components that it describes.
-/

/-- Texts of the five answers. -/
structure OperationalAnswers where
  backfillPosition : Text
  throughputEps : Text
  incrementalLag : Text
  dlqPending : Text
  systemHealth : Json
  deriving Repr

/-- What the evaluation returns. -/
structure Observability where
  passed : Bool
  answers : Option OperationalAnswers
  details : Text
  output : Text
  deriving Repr

/-- A truthy value of type `object`. -/
def isObject : Json → Bool
  | .arr _ => true
  | .obj _ => true
  | _ => false

/-- A field whose type is `number`. -/
def number (name : String) (telemetry : Json) : Option JsNumber :=
  match telemetry.field name with
  | some (.num value) => some value
  | _ => none

/-- A field whose type is `number`, and which is at least zero. -/
def nonNegative (name : String) (telemetry : Json) : Bool :=
  (number name telemetry).any fun value => 0 ≤ value.mantissa

/-- The status of a component is a text. -/
def componentValid (name : String) (telemetry : Json) : Bool :=
  match (telemetry.field "health").bind (Json.field name) with
  | some component =>
      component.truthy &&
        match component.field "status" with
        | some (.str _) => true
        | _ => false
  | none => false

/-- `telemetry.health?.overall` is one of the three texts. -/
def overallValid (telemetry : Json) : Bool :=
  match (telemetry.field "health").bind (Json.field "overall") with
  | some (.str overall) => overall ∈ ["HEALTHY", "DEGRADED", "DOWN"]
  | _ => false

/-- The five questions, each with the reason for failing it. -/
def questions (telemetry : Json) : List (Bool × String) :=
  [((number "backfill_cursor" telemetry).isSome &&
      (number "backfill_completion_pct" telemetry).isSome,
    "missing or invalid backfill position (cursor / completion pct)"),
    (nonNegative "current_throughput_eps" telemetry,
      "missing or negative throughput_eps"),
    (nonNegative "incremental_lag_records" telemetry &&
      nonNegative "incremental_lag_ms" telemetry,
      "missing or invalid incremental lag metrics"),
    (nonNegative "dlq_pending_count" telemetry,
      "missing or negative dlq_pending_count"),
    (overallValid telemetry && componentValid "postgres" telemetry &&
        componentValid "elasticsearch" telemetry &&
          componentValid "rabbitmq" telemetry,
      "missing or invalid health status structure")]

/-- A field in a template literal. -/
def fieldText (name : String) (telemetry : Json) : Text :=
  ((telemetry.field name).map Json.toText).getD "undefined".toList

/-- The answers of a payload that passes. -/
def answersOf (telemetry : Json) : OperationalAnswers where
  backfillPosition :=
    "cursor: ".toList ++ fieldText "backfill_cursor" telemetry ++
      " (".toList ++ fieldText "backfill_completion_pct" telemetry ++
        "%)".toList
  throughputEps :=
    fieldText "current_throughput_eps" telemetry ++ " eps".toList
  incrementalLag :=
    fieldText "incremental_lag_records" telemetry ++ " records (".toList ++
      fieldText "incremental_lag_ms" telemetry ++ "ms)".toList
  dlqPending := fieldText "dlq_pending_count" telemetry ++ " pending".toList
  systemHealth :=
    ((telemetry.field "health").bind (Json.field "overall")).getD .null

/-- The name of the gate in its report. -/
def gateName : Text :=
  "G5 observability".toList

/-- `evaluateGate5Observability`; a payload that is undefined is null here. -/
def evaluateGate5Observability (telemetry : Json) : Observability :=
  if isObject telemetry then
    let reasons :=
      ((questions telemetry).filter fun question => !question.1).map
        fun question => question.2.toList
    let passed := (questions telemetry).all Prod.fst
    let details := List.intercalate ", ".toList reasons
    { passed
      answers := if passed then some (answersOf telemetry) else none
      details
      output :=
        formatGateResult gateName
          (if passed then "PASS".toList else "FAIL".toList) details }
  else
    let details := "no telemetry payload received".toList
    { passed := false
      answers := none
      details
      output := formatGateResult gateName "FAIL".toList details }

/-- A value that is not truthy is no object. -/
theorem evaluate_of_falsy
    {telemetry : Json}
    (falsy : telemetry.truthy = false) :
    (evaluateGate5Observability telemetry).passed = false := by
  have notObject : isObject telemetry = false := by
    cases telemetry with
    | arr => cases falsy
    | obj => cases falsy
    | _ => rfl
  simp [evaluateGate5Observability, notObject]

/-! ### Polling -/

open WaitForQuiescence (Answer)

/-- The options that are given; the interval is for `sleep` alone. -/
structure Options where
  telemetry : Option Json := none
  maxWaitMs : Option Rat := none

namespace Options

variable (options : Options)

/-- `options.maxWaitMs || 10000`. -/
def maxWait : Rat :=
  (options.maxWaitMs.filter (· ≠ 0)).getD 10000

/-- `options.telemetry || null`. -/
def injected : Json :=
  (Json.orElse options.telemetry none).getD .null

end Options

/-- The variables of the loop. -/
structure Polling where
  /-- The calls of `getTelemetry`. -/
  polls : Nat
  telemetry : Json

/-- The variable after a call: a rejected one leaves it as it is. -/
def assigned (telemetry : Json) : Answer → Json
  | .fulfilled answered => answered
  | .rejected => telemetry

section Loop

variable
  (options : Options)
  (answers : Nat → Answer)
  (startWait : Rat)
  (clock : Nat → Rat)

/-- One iteration. -/
def poll (polling : Polling) : Iteration Json Polling :=
  if clock polling.polls - startWait < options.maxWait then
    let telemetry := assigned polling.telemetry (answers polling.polls)
    if telemetry.truthy then
      .returned telemetry
    else
      .goesOn { polls := polling.polls + 1, telemetry }
  else
    .returned polling.telemetry

/--
`runGate5`, for so many iterations; nothing if it is still polling then.  The
clock is read at the start and before each iteration.
-/
def runGate5 (iterations : Nat) : Option Observability :=
  if options.injected.truthy then
    some (evaluateGate5Observability options.injected)
  else
    (loop (poll options answers startWait clock) iterations
      { polls := 0, telemetry := options.injected }).map
      evaluateGate5Observability

/-- The poll is made before the deadline. -/
def InTime (index : Nat) : Prop :=
  clock index - startWait < options.maxWait

/-- The first payload that comes before the deadline, all polls up to it too. -/
structure FirstPayload (index : Nat) : Prop where
  inTime :
    ∀ earlier, earlier ≤ index → InTime options startWait clock earlier
  silent :
    ∀ earlier, earlier < index → (answers earlier).telemetry.truthy = false
  answered : (answers index).telemetry.truthy = true

/-- The variables in an iteration. -/
structure Polled (index : Nat) (polling : Polling) : Prop where
  polls : polling.polls = index
  falsy : polling.telemetry.truthy = false
  inTime :
    ∀ earlier, earlier < index → InTime options startWait clock earlier
  silent :
    ∀ earlier, earlier < index → (answers earlier).telemetry.truthy = false

/-- How the polling ends. -/
inductive Ended (index : Nat) : Json → Prop where
  | answered
      (first : FirstPayload options answers startWait clock index) :
      Ended index (answers index).telemetry
  | expired
      {telemetry : Json}
      (polled :
        Polled options answers startWait clock index ⟨index, telemetry⟩)
      (late : ¬ InTime options startWait clock index) :
      Ended index telemetry

end Loop

section Polls

variable
  {options : Options}
  {answers : Nat → Answer}
  {startWait : Rat}
  {clock : Nat → Rat}

/-- As long as no payload has come, the variable is as good as the answer. -/
theorem assigned_of_falsy
    {telemetry : Json}
    (falsy : telemetry.truthy = false)
    (answer : Answer) :
    (assigned telemetry answer).truthy = answer.telemetry.truthy ∧
      ((assigned telemetry answer).truthy = true →
        assigned telemetry answer = answer.telemetry) := by
  cases answer with
  | fulfilled answered => exact ⟨rfl, fun _ => rfl⟩
  | rejected =>
      refine ⟨falsy, fun truthy => ?_⟩
      rw [assigned, falsy] at truthy
      cases truthy

/-- The variables before the loop. -/
theorem polled_initial :
    Polled options answers startWait clock 0 ⟨0, .null⟩ where
  polls := rfl
  falsy := rfl
  inTime _ below := absurd below (Nat.not_lt_zero _)
  silent _ below := absurd below (Nat.not_lt_zero _)

/-- An iteration returns the first payload, gives up, or goes on. -/
theorem poll_iterates
    {bound : Nat}
    (expires : ∀ index, InTime options startWait clock index → index < bound)
    {index : Nat}
    {polling : Polling}
    (polled : Polled options answers startWait clock index polling) :
    Iterates (Polled options answers startWait clock)
      (Ended options answers startWait clock) bound index
      (poll options answers startWait clock polling) := by
  obtain ⟨polls, telemetry⟩ := polling
  obtain rfl : polls = index := polled.polls
  unfold poll
  by_cases inTime : clock polls - startWait < options.maxWait
  · rw [if_pos inTime]
    have allInTime :
        ∀ earlier, earlier ≤ polls →
          InTime options startWait clock earlier := by
      intro earlier upTo
      rcases Nat.lt_or_eq_of_le upTo with below | rfl
      · exact polled.inTime earlier below
      · exact inTime
    obtain ⟨sameTruth, payload⟩ :=
      assigned_of_falsy polled.falsy (answers polls)
    cases truth : (assigned telemetry (answers polls)).truthy with
    | true =>
        have same := payload truth
        dsimp only at same ⊢
        rw [same] at truth ⊢
        rw [if_pos truth]
        exact .returned (.answered ⟨allInTime, polled.silent, truth⟩)
    | false =>
        dsimp only at truth ⊢
        rw [truth, if_neg Bool.false_ne_true]
        refine .goesOn (expires polls inTime)
          ⟨rfl, truth, fun earlier below => ?_, fun earlier below => ?_⟩
        · exact allInTime earlier (Nat.lt_succ_iff.mp below)
        · rcases Nat.lt_or_eq_of_le (Nat.lt_succ_iff.mp below) with old | rfl
          · exact polled.silent earlier old
          · exact sameTruth.symm.trans truth
  · rw [if_neg inTime]
    exact .returned (.expired polled inTime)

/-- Two first payloads are the same. -/
theorem FirstPayload.unique
    {first second : Nat}
    (isFirst : FirstPayload options answers startWait clock first)
    (isSecond : FirstPayload options answers startWait clock second) :
    first = second := by
  rcases Nat.lt_trichotomy first second with below | same | above
  · have silent := isSecond.silent first below
    rw [isFirst.answered] at silent
    cases silent
  · exact same
  · have silent := isFirst.silent second above
    rw [isSecond.answered] at silent
    cases silent

/--
If every iteration takes some time, the gate ends, and it passes exactly if the
first payload that comes before the deadline answers the five questions.
-/
theorem runGate5_passes_iff
    {interval : Rat}
    (positive : 0 < interval)
    (sleeps : ∀ index : Nat, startWait + index * interval ≤ clock index)
    (polls : options.injected = .null) :
    ∃ iteration result,
      (∀ iterations,
        runGate5 options answers startWait clock iterations =
          if iteration < iterations then some result else none) ∧
        (result.passed = true ↔
          ∃ index,
            FirstPayload options answers startWait clock index ∧
              (evaluateGate5Observability
                (answers index).telemetry).passed = true) := by
  have expires :
      ∀ index, InTime options startWait clock index →
        index < ⌈options.maxWait / interval⌉₊ := by
    intro index inTime
    have slept := sleeps index
    apply Nat.lt_ceil.mpr
    rw [lt_div_iff₀ positive]
    unfold InTime at inTime
    linarith
  have start :
      Polled options answers startWait clock 0 ⟨0, .null⟩ := polled_initial
  obtain ⟨iteration, telemetry, _, returns, ended⟩ :=
    exists_returnsAt (poll_iterates expires) start (Nat.zero_le _)
  refine ⟨iteration, evaluateGate5Observability telemetry, ?_, ?_⟩
  · intro iterations
    have looped := returns iterations
    simp only [runGate5, polls, looped]
    simp only [Json.truthy, Bool.false_eq_true, if_false]
    split <;> rfl
  · rw [Nat.zero_add] at ended
    constructor
    · intro passed
      cases ended with
      | answered first => exact ⟨iteration, first, passed⟩
      | expired polled late =>
          rw [evaluate_of_falsy polled.falsy] at passed
          cases passed
    · rintro ⟨index, first, passed⟩
      cases ended with
      | answered isFirst => rwa [isFirst.unique first]
      | expired polled late =>
          -- the payload would have come in an earlier iteration
          rcases Nat.lt_or_ge index iteration with below | above
          · have silent := polled.silent index below
            rw [first.answered] at silent
            cases silent
          · exact absurd (first.inTime iteration above) late

/-- A payload with nothing running and nothing up. -/
def sampleTelemetry : Json :=
  .obj
    [("backfill_cursor", .num (.ofInt 0)),
      ("backfill_completion_pct", .num (.ofInt 0)),
      ("current_throughput_eps", .num (.ofInt 0)),
      ("incremental_lag_records", .num (.ofInt 0)),
      ("incremental_lag_ms", .num (.ofInt 0)),
      ("dlq_pending_count", .num (.ofInt 0)),
      ("health",
        .obj
          [("overall", .str "DOWN"),
            ("postgres", .obj [("status", .str "DOWN")]),
            ("elasticsearch", .obj [("status", .str "DOWN")]),
            ("rabbitmq", .obj [("status", .str "DOWN")])])]

/-- The first poll is rejected. -/
def sampleAnswers (index : Nat) : Answer :=
  if index = 0 then .rejected else .fulfilled sampleTelemetry

/-- The second poll is in time. -/
theorem runGate5_passes_secondPoll :
    ∃ iteration result,
      (∀ iterations,
        runGate5 { maxWaitMs := some 50 } sampleAnswers 0
            (fun index => index * 10) iterations =
          if iteration < iterations then some result else none) ∧
        result.passed = true := by
  have sleeps : ∀ index : Nat, (0 : Rat) + index * 10 ≤ index * 10 := by
    intro index
    rw [zero_add]
  obtain ⟨iteration, result, ends, passes⟩ :=
    @runGate5_passes_iff { maxWaitMs := some 50 } sampleAnswers 0
      (fun index => index * 10) 10 (by norm_num) sleeps rfl
  refine ⟨iteration, result, ends, passes.mpr ⟨1, ⟨?_, ?_, rfl⟩, rfl⟩⟩
  · intro earlier upTo
    have inTime : (earlier : Rat) ≤ 1 := by exact_mod_cast upTo
    change (earlier : Rat) * 10 - 0 < 50
    linarith
  · intro earlier below
    obtain rfl : earlier = 0 := by omega
    rfl

end Polls

end Replication.Gate5
