import Mathlib
import Replication.Json
import Replication.PollingLoop

namespace Replication.WaitForQuiescence

open PollingLoop

/-!
# Waiting for a quiescent pipeline

`waitForPipelineQuiescence` polls the telemetry until the pipeline has settled,
until no answer has come for a grace period, or until its budget is used up.
The clock is the injected one: it is read by `now`, and only `sleep` moves it.
Instants and durations are exact, and `onProgress` returns.
-/

/-- What `getTelemetry` does. -/
inductive Answer where
  | fulfilled (telemetry : Json)
  | rejected
  deriving Repr

/-- The `try` around the call. -/
def Answer.telemetry : Answer → Json
  | .fulfilled telemetry => telemetry
  | .rejected => .null

/-- `lagDrained`: the lag is no number, or zero. -/
def lagDrained (telemetry : Json) : Bool :=
  match telemetry.field "incremental_lag_records" with
  | some (.num lag) => lag.mantissa = 0
  | _ => true

/-- The options that are given. -/
structure Options where
  timeoutMs : Option Rat := none
  pollMs : Option Rat := none
  progressEveryMs : Option Rat := none
  hasOnProgress : Bool := false
  requireBackfillComplete : Option Bool := none
  unreachableGraceMs : Option Rat := none
  deriving Repr

namespace Options

variable (options : Options)

/-- `timeoutMs`, or a minute. -/
def timeout : Rat :=
  options.timeoutMs.getD 60000

/-- `options.pollMs || 500`. -/
def pollInterval : Rat :=
  (options.pollMs.filter (· ≠ 0)).getD 500

/-- `options.progressEveryMs || 5000`. -/
def progressInterval : Rat :=
  (options.progressEveryMs.filter (· ≠ 0)).getD 5000

/-- How long the telemetry may be unreachable. -/
def grace : Rat :=
  min options.timeout (options.unreachableGraceMs.getD 15000)

/-- `backfillDone`. -/
def backfillDone (telemetry : Json) : Bool :=
  options.requireBackfillComplete = some false ||
    match telemetry.field "backfill_status" with
    | some (.str status) => status = "COMPLETED"
    | _ => false

/-- `backfillDone && lagDrained`. -/
def settles (telemetry : Json) : Bool :=
  options.backfillDone telemetry && lagDrained telemetry

end Options

/-- What is returned. -/
structure Quiescence where
  quiesced : Bool
  telemetry : Json
  elapsedMs : Rat
  reason : Option Text
  deriving Repr

/-- What a call leaves behind. -/
structure Outcome where
  /-- `none` if it throws. -/
  result : Option Quiescence
  /-- The calls of `onProgress`. -/
  reported : List (Json × Rat)
  deriving Repr

/-- It has returned `quiesced: true`. -/
def Outcome.quiesced (outcome : Outcome) : Bool :=
  outcome.result.any Quiescence.quiesced

/-- The variables of the loop, and its clock. -/
structure Waiting where
  /-- What `now` reads. -/
  now : Rat
  /-- The calls of `getTelemetry`. -/
  polls : Nat
  unreachableSince : Option Rat
  lastProgress : Rat
  /-- The calls of `onProgress`. -/
  reported : List (Json × Rat)
  deriving Repr

/-- A field in a template literal, or `n/a`; nothing if its conversion throws. -/
def printed (name : String) (telemetry : Json) : Option Text :=
  match telemetry.field name with
  | none | some .null => some "n/a".toList
  | some value => if value.prints then some value.toText else none

/-- Both fields in the reason of a timeout convert to texts. -/
structure Prints (telemetry : Json) : Prop where
  status : (printed "backfill_status" telemetry).isSome = true
  lag : (printed "incremental_lag_records" telemetry).isSome = true

/-- The reason of a timeout, `Math.round` rounding half up. -/
def timeoutReason (telemetry : Json) (elapsed : Rat) : Option Text :=
  if telemetry.truthy then
    match printed "backfill_status" telemetry,
      printed "incremental_lag_records" telemetry with
    | some status, some lag =>
        some
          ("backfill_status=".toList ++ status ++
            ", incremental_lag_records=".toList ++ lag ++ " after ".toList ++
              JsNumber.intText (elapsed / 1000 + 1 / 2).floor ++ "s".toList)
    | _, _ => none
  else
    some "telemetry unreachable".toList

/-- Making the reason does not throw then. -/
theorem Prints.isSome_timeoutReason
    {telemetry : Json}
    (prints : Prints telemetry)
    (elapsed : Rat) :
    (timeoutReason telemetry elapsed).isSome = true := by
  obtain ⟨status, isStatus⟩ := Option.isSome_iff_exists.mp prints.status
  obtain ⟨lag, isLag⟩ := Option.isSome_iff_exists.mp prints.lag
  simp only [timeoutReason, isStatus, isLag]
  split <;> rfl

section Loop

variable
  (options : Options)
  (answers : Nat → Answer)
  (start : Rat)

/-- An iteration from the test of the timeout on. -/
def expireOrSleep
    (telemetry : Json)
    (waiting : Waiting) : Iteration Outcome Waiting :=
  let elapsed := waiting.now - start
  if options.timeout ≤ elapsed then
    .returned
      { result :=
          (timeoutReason telemetry elapsed).map fun reason =>
            { quiesced := false
              telemetry
              elapsedMs := elapsed
              reason := some reason }
        reported := waiting.reported }
  else
    let reports :=
      options.hasOnProgress && telemetry.truthy &&
        options.progressInterval ≤ waiting.now - waiting.lastProgress
    .goesOn
      { now := waiting.now + options.pollInterval
        polls := waiting.polls + 1
        unreachableSince := waiting.unreachableSince
        lastProgress := if reports then waiting.now else waiting.lastProgress
        reported :=
          if reports then waiting.reported ++ [(telemetry, elapsed)]
          else waiting.reported }

/-- One iteration. -/
def poll (waiting : Waiting) : Iteration Outcome Waiting :=
  let telemetry := (answers waiting.polls).telemetry
  if telemetry.truthy then
    if options.settles telemetry then
      .returned
        { result :=
            some
              { quiesced := true
                telemetry
                elapsedMs := waiting.now - start
                reason := none }
          reported := waiting.reported }
    else
      expireOrSleep options start telemetry
        { waiting with unreachableSince := none }
  else
    let unreachableSince := waiting.unreachableSince.getD waiting.now
    if options.grace ≤ waiting.now - unreachableSince then
      .returned
        { result :=
            some
              { quiesced := false
                telemetry := .null
                elapsedMs := waiting.now - start
                reason := some "telemetry unreachable".toList }
          reported := waiting.reported }
    else
      expireOrSleep options start telemetry
        { waiting with unreachableSince := some unreachableSince }

/-- The variables before the loop. -/
def initial : Waiting where
  now := start
  polls := 0
  unreachableSince := none
  lastProgress := start
  reported := []

/--
`waitForPipelineQuiescence`, for so many polls; nothing if it is still waiting
then.
-/
def waitForPipelineQuiescence (polls : Nat) : Option Outcome :=
  loop (poll options answers start) polls (initial start)

end Loop

/-! ### What the answers decide -/

section Answers

variable
  (options : Options)
  (answers : Nat → Answer)

/-- What the clock shows at a poll, from the first one on. -/
def elapsedAt (index : Nat) : Rat :=
  index * options.pollInterval

/-- The poll has no answer. -/
def unreachable (index : Nat) : Bool :=
  !(answers index).telemetry.truthy

/-- The poll finds a settled pipeline. -/
structure Settled (index : Nat) : Prop where
  reachable : unreachable answers index = false
  settles : options.settles (answers index).telemetry = true

/--
The poll completes a run of polls without an answer that spans the grace period.
-/
def CompletesOutage (index : Nat) : Prop :=
  ∃ first ≤ index,
    (∀ between, first ≤ between → between ≤ index →
      unreachable answers between = true) ∧
      options.grace ≤ elapsedAt options index - elapsedAt options first

/-- The poll decides nothing. -/
structure Undecided (index : Nat) : Prop where
  unsettled : ¬ Settled options answers index
  reachable : ¬ CompletesOutage options answers index
  inTime : elapsedAt options index < options.timeout

/-- What is returned at a poll that is the first to decide. -/
inductive Verdict (index : Nat) : Option Quiescence → Prop where
  | settled
      (settled : Settled options answers index) :
      Verdict index
        (some
          { quiesced := true
            telemetry := (answers index).telemetry
            elapsedMs := elapsedAt options index
            reason := none })
  | unreachable
      (outage : CompletesOutage options answers index) :
      Verdict index
        (some
          { quiesced := false
            telemetry := .null
            elapsedMs := elapsedAt options index
            reason := some "telemetry unreachable".toList })
  | expired
      (unsettled : ¬ Settled options answers index)
      (reachable : ¬ CompletesOutage options answers index)
      (late : options.timeout ≤ elapsedAt options index) :
      Verdict index
        ((timeoutReason (answers index).telemetry
            (elapsedAt options index)).map fun reason =>
          { quiesced := false
            telemetry := (answers index).telemetry
            elapsedMs := elapsedAt options index
            reason := some reason })

/-- Each report is that long after the one before. -/
def Spaced (reported : List (Json × Rat)) : Prop :=
  (0 :: reported.map Prod.snd).IsChain fun earlier later =>
    options.progressInterval ≤ later - earlier

/-- What the clock showed at the last report. -/
def lastReport (reported : List (Json × Rat)) : Rat :=
  (0 :: reported.map Prod.snd).getLast (List.cons_ne_nil _ _)

/-- The number of polls after which the budget is used up. -/
def budget : Nat :=
  ⌈options.timeout / options.pollInterval⌉₊

variable {options answers} {index : Nat}

@[simp] theorem lastReport_append
    {reported : List (Json × Rat)}
    {telemetry : Json}
    {elapsed : Rat} :
    lastReport (reported ++ [(telemetry, elapsed)]) = elapsed := by
  simp [lastReport]

/-- A report that is long enough after the last one. -/
theorem Spaced.append
    {reported : List (Json × Rat)}
    {telemetry : Json}
    {elapsed : Rat}
    (spaced : Spaced options reported)
    (apart : options.progressInterval ≤ elapsed - lastReport reported) :
    Spaced options (reported ++ [(telemetry, elapsed)]) := by
  rw [Spaced, List.map_append, ← List.cons_append, List.isChain_append]
  refine ⟨spaced, .singleton _, ?_⟩
  intro last isLast new isNew
  rw [List.getLast?_eq_some_getLast (List.cons_ne_nil _ _)] at isLast
  cases isLast
  cases isNew
  exact apart

/-- An outage is not completed by a poll that has an answer. -/
theorem not_completesOutage
    (reachable : unreachable answers index = false) :
    ¬ CompletesOutage options answers index := by
  rintro ⟨first, atMost, throughout, _⟩
  rw [throughout index atMost le_rfl] at reachable
  cases reachable

/-- `quiesced` says that the deciding poll is settled. -/
theorem Verdict.quiesced_iff
    {result : Option Quiescence}
    (verdict : Verdict options answers index result) :
    result.any Quiescence.quiesced = true ↔ Settled options answers index := by
  cases verdict with
  | settled settled => exact iff_of_true rfl settled
  | unreachable outage =>
      apply iff_of_false Bool.false_ne_true
      exact fun settled => not_completesOutage settled.reachable outage
  | expired unsettled =>
      apply iff_of_false _ unsettled
      rw [Option.any_map]
      simp

/-- Only the reason of a timeout may throw. -/
theorem Verdict.isSome
    {result : Option Quiescence}
    (verdict : Verdict options answers index result)
    (prints : Prints (answers index).telemetry) :
    result.isSome = true := by
  cases verdict with
  | settled => rfl
  | unreachable => rfl
  | expired =>
      rw [Option.isSome_map]
      exact prints.isSome_timeoutReason _

/-- A verdict is not given earlier. -/
theorem Verdict.not_undecided
    {result : Option Quiescence}
    (verdict : Verdict options answers index result) :
    ¬ Undecided options answers index := by
  intro undecided
  cases verdict with
  | settled settled => exact undecided.unsettled settled
  | unreachable outage => exact undecided.reachable outage
  | expired _ _ late => exact late.not_gt undecided.inTime

/-- A poll is in time exactly if it comes before the budget is used up. -/
theorem elapsedAt_lt_iff (positive : 0 < options.pollInterval) :
    elapsedAt options index < options.timeout ↔ index < budget options := by
  rw [budget, Nat.lt_ceil, lt_div_iff₀ positive]
  rfl

/-- The loop measures the longest run without an answer. -/
theorem completesOutage_iff_currentRun
    (positive : 0 < options.pollInterval) :
    CompletesOutage options answers index ↔
      ∃ first,
        currentRun (unreachable answers) (index + 1) = some first ∧
          options.grace ≤
            elapsedAt options index - elapsedAt options first := by
  constructor
  · rintro ⟨first, atMost, throughout, spans⟩
    obtain ⟨earliest, run, before⟩ :=
      exists_currentRun_le (Nat.lt_succ_of_le atMost)
        fun between from_ below =>
          throughout between from_ (Nat.le_of_lt_succ below)
    refine ⟨earliest, run, spans.trans (sub_le_sub_left ?_ _)⟩
    exact mul_le_mul_of_nonneg_right (Nat.cast_le.mpr before) positive.le
  · rintro ⟨first, run, spans⟩
    obtain ⟨begun, throughout⟩ := holds_of_currentRun run
    exact ⟨first, Nat.le_of_lt_succ begun,
      fun between from_ atMost =>
        throughout between from_ (Nat.lt_succ_of_le atMost), spans⟩

end Answers

/-! ### The loop -/

section Iterations

variable
  {options : Options}
  {answers : Nat → Answer}
  {start : Rat}
  {index : Nat}
  {waiting : Waiting}

/-- The variables after that many polls have decided nothing. -/
structure Reaches
    (options : Options)
    (answers : Nat → Answer)
    (start : Rat)
    (index : Nat)
    (waiting : Waiting) : Prop where
  polls : waiting.polls = index
  now : waiting.now = start + elapsedAt options index
  unreachableSince :
    waiting.unreachableSince =
      (currentRun (unreachable answers) index).map fun first =>
        start + elapsedAt options first
  undecided : ∀ earlier < index, Undecided options answers earlier
  spaced : Spaced options waiting.reported
  lastProgress :
    waiting.lastProgress = start + lastReport waiting.reported

/-- The poll is the first that decides, and this is what is left behind. -/
structure EndsAt
    (options : Options)
    (answers : Nat → Answer)
    (index : Nat)
    (outcome : Outcome) : Prop where
  undecided : ∀ earlier < index, Undecided options answers earlier
  verdict : Verdict options answers index outcome.result
  spaced : Spaced options outcome.reported

/-- Nothing is decided before the first poll. -/
theorem reaches_initial : Reaches options answers start 0 (initial start) where
  polls := rfl
  now := by simp [initial, elapsedAt]
  unreachableSince := rfl
  undecided := fun earlier below => absurd below (Nat.not_lt_zero earlier)
  spaced := .singleton 0
  lastProgress := by simp [initial, lastReport]

/-- How long the loop has been waiting. -/
theorem Reaches.elapsed
    (reaches : Reaches options answers start index waiting) :
    waiting.now - start = elapsedAt options index := by
  rw [reaches.now, add_sub_cancel_left]

/-- Since when no answer has come, if this poll has none. -/
theorem Reaches.getD_unreachableSince
    (reaches : Reaches options answers start index waiting) :
    waiting.unreachableSince.getD waiting.now =
      start +
        elapsedAt options
          ((currentRun (unreachable answers) index).getD index) := by
  rw [reaches.unreachableSince, reaches.now]
  exact Option.getD_map (start + elapsedAt options ·) index _

/-- The comparison with the grace period finds the outages. -/
theorem Reaches.completesOutage_iff
    (reaches : Reaches options answers start index waiting)
    (positive : 0 < options.pollInterval)
    (silent : unreachable answers index = true) :
    CompletesOutage options answers index ↔
      options.grace ≤
        waiting.now - waiting.unreachableSince.getD waiting.now := by
  rw [completesOutage_iff_currentRun positive, currentRun, if_pos silent,
    reaches.getD_unreachableSince, reaches.now, add_sub_add_left_eq_sub]
  simp only [Option.some.injEq, exists_eq_left']

/-- The timeout, or another poll. -/
theorem Reaches.expireOrSleep
    (reaches : Reaches options answers start index waiting)
    (positive : 0 < options.pollInterval)
    (unsettled : ¬ Settled options answers index)
    (reachable : ¬ CompletesOutage options answers index)
    {unreachableSince : Option Rat}
    (since :
      unreachableSince =
        (currentRun (unreachable answers) (index + 1)).map fun first =>
          start + elapsedAt options first) :
    Iterates (Reaches options answers start) (EndsAt options answers)
      (budget options) index
      (expireOrSleep options start (answers index).telemetry
        { waiting with unreachableSince }) := by
  simp only [WaitForQuiescence.expireOrSleep, reaches.elapsed]
  by_cases late : options.timeout ≤ elapsedAt options index
  · rw [if_pos late]
    exact .returned
      ⟨reaches.undecided, .expired unsettled reachable late, reaches.spaced⟩
  · have inTime := not_le.mp late
    rw [if_neg late]
    refine .goesOn ((elapsedAt_lt_iff positive).mp inTime)
      ⟨?_, ?_, since, ?_, ?_, ?_⟩
    · exact congrArg (· + 1) reaches.polls
    · change waiting.now + options.pollInterval = _
      rw [reaches.now, elapsedAt, elapsedAt, Nat.cast_succ]
      ring
    · intro earlier below
      rcases Nat.lt_succ_iff_lt_or_eq.mp below with before | rfl
      · exact reaches.undecided earlier before
      · exact ⟨unsettled, reachable, inTime⟩
    · split
      · rename_i reports
        simp only [Bool.and_eq_true, decide_eq_true_eq] at reports
        have apart := reports.2
        rw [reaches.now, reaches.lastProgress, add_sub_add_left_eq_sub] at apart
        exact reaches.spaced.append apart
      · exact reaches.spaced
    · split
      · rw [lastReport_append, reaches.now]
      · exact reaches.lastProgress

/-- An iteration decides, or is followed by another one in the budget. -/
theorem Reaches.poll
    (reaches : Reaches options answers start index waiting)
    (positive : 0 < options.pollInterval) :
    Iterates (Reaches options answers start) (EndsAt options answers)
      (budget options) index
      (poll options answers start waiting) := by
  have asked : answers waiting.polls = answers index :=
    congrArg answers reaches.polls
  simp only [WaitForQuiescence.poll, asked]
  split
  · rename_i truthy
    have answered : unreachable answers index = false := by
      rw [unreachable, truthy, Bool.not_true]
    split
    · rename_i settles
      rw [reaches.elapsed]
      exact .returned
        ⟨reaches.undecided, .settled ⟨answered, settles⟩, reaches.spaced⟩
    · rename_i unsettles
      apply reaches.expireOrSleep positive
      · exact fun settled => unsettles settled.settles
      · exact not_completesOutage answered
      · rw [currentRun, answered]
        rfl
  · rename_i falsy
    have silent : unreachable answers index = true := by
      simpa [unreachable] using falsy
    split
    · rename_i spans
      have outage := (reaches.completesOutage_iff positive silent).mpr spans
      rw [reaches.elapsed]
      exact .returned
        ⟨reaches.undecided, .unreachable outage, reaches.spaced⟩
    · rename_i brief
      apply reaches.expireOrSleep positive
      · intro settled
        rw [settled.reachable] at silent
        cases silent
      · exact fun outage =>
          brief ((reaches.completesOutage_iff positive silent).mp outage)
      · rw [reaches.getD_unreachableSince, currentRun, if_pos silent]
        rfl

/-- The loop ends in the budget, with the verdict of the poll that decides. -/
theorem exists_endsAt
    (options : Options)
    (answers : Nat → Answer)
    (start : Rat)
    (positive : 0 < options.pollInterval) :
    ∃ index outcome,
      index ≤ budget options ∧
        ReturnsAt (poll options answers start) (initial start) index outcome ∧
          EndsAt options answers index outcome := by
  have initially : Reaches options answers start 0 (initial start) :=
    reaches_initial
  obtain ⟨index, outcome, within, returns, ends⟩ :=
    exists_returnsAt (fun reaches => reaches.poll positive)
      initially (Nat.zero_le _)
  rw [Nat.zero_add] at within ends
  exact ⟨index, outcome, within, returns, ends⟩

/-- The wait does not throw if every answer prints. -/
theorem waitForPipelineQuiescence_isSome
    (positive : 0 < options.pollInterval)
    (prints : ∀ index, Prints (answers index).telemetry)
    {polls : Nat}
    {outcome : Outcome}
    (ended :
      waitForPipelineQuiescence options answers start polls = some outcome) :
    outcome.result.isSome = true := by
  obtain ⟨index, decided, _, returns, ends⟩ :=
    exists_endsAt options answers start positive
  have same := (returns polls).symm.trans ended
  split at same
  · cases same
    exact ends.verdict.isSome (prints index)
  · cases same

/-- A settled poll in the budget that no outage precedes is reported. -/
theorem EndsAt.quiesced_iff
    {outcome : Outcome}
    (ends : EndsAt options answers index outcome)
    (positive : 0 < options.pollInterval)
    (within : index ≤ budget options) :
    outcome.quiesced = true ↔
      ∃ found ≤ budget options,
        Settled options answers found ∧
          ∀ earlier < found, ¬ CompletesOutage options answers earlier := by
  rw [Outcome.quiesced, ends.verdict.quiesced_iff]
  constructor
  · exact fun settled =>
      ⟨index, within, settled,
        fun earlier before => (ends.undecided earlier before).reachable⟩
  · rintro ⟨found, inBudget, settled, before⟩
    rcases lt_trichotomy found index with earlier | rfl | later
    · exact absurd settled (ends.undecided found earlier).unsettled
    · exact settled
    · -- the deciding poll is in time and completes no outage
      by_contra unsettled
      have inTime := (elapsedAt_lt_iff positive).mpr (later.trans_le inBudget)
      exact ends.verdict.not_undecided ⟨unsettled, before index later, inTime⟩

/--
The wait ends after at most `⌈timeoutMs / pollMs⌉ + 1` polls, and it returns
`quiesced: true` exactly if one of so many polls is settled and none before it
has completed an outage.
-/
theorem waitForPipelineQuiescence_returns
    (options : Options)
    (answers : Nat → Answer)
    (start : Rat)
    (positive : 0 < options.pollInterval) :
    ∃ polls outcome,
      polls ≤ ⌈options.timeout / options.pollInterval⌉₊ + 1 ∧
        (∀ allowed,
          waitForPipelineQuiescence options answers start allowed =
            if polls ≤ allowed then some outcome else none) ∧
          (outcome.quiesced = true ↔
            ∃ index < ⌈options.timeout / options.pollInterval⌉₊ + 1,
              Settled options answers index ∧
                ∀ earlier < index,
                  ¬ CompletesOutage options answers earlier) := by
  obtain ⟨index, outcome, within, returns, ends⟩ :=
    exists_endsAt options answers start positive
  refine ⟨index + 1, outcome, Nat.succ_le_succ within, returns, ?_⟩
  rw [ends.quiesced_iff positive within]
  simp only [Nat.lt_succ_iff, budget]

/-- The grace period is over at the fifth poll without an answer. -/
example :
    let wait :=
      waitForPipelineQuiescence
        { unreachableGraceMs := some 2000 } (fun _ => .rejected) 0
    (wait 4).isNone = true ∧
      ((wait 5).bind Outcome.result).map Quiescence.elapsedMs = some 2000 := by
  decide +kernel

/-- A daemon that restarts, and answers again at the fifth poll. -/
def restarted (poll : Nat) : Answer :=
  if poll < 4 then
    .rejected
  else
    .fulfilled
      (.obj
        [("backfill_status", .str "COMPLETED"),
          ("incremental_lag_records", .num (.ofInt 0))])

/-- A restart is ridden through. -/
theorem waitForPipelineQuiescence_restarted :
    ∃ polls outcome,
      polls ≤ 121 ∧
        (∀ allowed,
          waitForPipelineQuiescence {} restarted 0 allowed =
            if polls ≤ allowed then some outcome else none) ∧
          outcome.quiesced = true := by
  have interval : Options.pollInterval {} = 500 := rfl
  have settled : Settled {} restarted 4 := by
    constructor <;> decide
  obtain ⟨polls, outcome, within, ends, verdict⟩ :=
    waitForPipelineQuiescence_returns {} restarted 0 (by norm_num [interval])
  have budgeted : ⌈Options.timeout {} / Options.pollInterval {}⌉₊ = 120 := by
    norm_num [interval, Options.timeout]
  rw [budgeted] at within verdict
  refine ⟨polls, outcome, within, ends, verdict.mpr ⟨4, by omega, settled, ?_⟩⟩
  rintro earlier before ⟨first, _, _, spans⟩
  have few : (earlier : Rat) ≤ 3 := by exact_mod_cast Nat.le_of_lt_succ before
  have nonnegative : (0 : Rat) ≤ first := Nat.cast_nonneg first
  norm_num [elapsedAt, interval, Options.grace, Options.timeout] at spans
  linarith

end Iterations

end Replication.WaitForQuiescence
