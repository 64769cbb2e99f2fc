import Replication.CircuitBreaker

namespace Replication.SequentialBreaker

open CircuitBreaker

/-!
# One call of a breaker after the other

When calls of `execute` do not overlap, the pieces of one call run in a row.
The breaker then is the textbook machine: closed with a streak of failures, open,
or half open with a number of successful trials, and its totals are those of the
history of openings and closings.
-/

/-- What the health probe answers. -/
inductive Probe where
  | healthy
  | unhealthy
  | throws
  deriving DecidableEq, Repr

/-- What happens during one call of `execute`. -/
structure Attempt where
  startedAt : Int
  /-- The answer of the probe, if the call comes to it and there is one. -/
  probe : Probe
  probedAt : Int
  /-- The outcome of the operation, if the call comes to it. -/
  succeeds : Bool
  settledAt : Int
  /-- The rounded random share of the backoff, if one is scheduled. -/
  jitter : Nat
  deriving DecidableEq, Repr

/-- How a call ends. -/
inductive Verdict where
  /-- Rejected by the probe; the operation is not invoked. -/
  | refused
  | fulfilled
  /-- The operation is invoked and rejected. -/
  | rejected
  deriving DecidableEq, Repr

section Calls

variable (options : Options)

/-- The protected operation is invoked and settles. -/
def operate
    (attempt : Attempt)
    (breaker : CircuitBreaker) : CircuitBreaker × Verdict :=
  if attempt.succeeds then
    (breaker.succeeded options attempt.settledAt, .fulfilled)
  else
    (breaker.failed options attempt.settledAt attempt.jitter, .rejected)

/-- `execute` from the probe or the operation on. -/
def resume
    (attempt : Attempt) :
    CircuitBreaker × Gate → CircuitBreaker × Verdict
  | (breaker, .probe) =>
      if attempt.probe = .healthy then
        operate options attempt breaker.tryHalfOpen
      else
        (breaker.probeFailed options attempt.probedAt attempt.jitter,
          .refused)
  | (breaker, _) => operate options attempt breaker

/-- A call of `execute` that nothing interrupts. -/
def call
    (attempt : Attempt)
    (breaker : CircuitBreaker) : CircuitBreaker × Verdict :=
  match breaker.execute options attempt.startedAt with
  | (breaker, .sleep _) => resume options attempt (breaker.afterSleep options)
  | passed => resume options attempt passed

/-- One call after the other, with their verdicts. -/
def calls :
    List Attempt → CircuitBreaker → CircuitBreaker × List Verdict
  | [], breaker => (breaker, [])
  | attempt :: rest, breaker =>
      let (next, verdict) := call options attempt breaker
      let (final, verdicts) := calls rest next
      (final, verdict :: verdicts)

/-- The probe of an open breaker turns the call away. -/
def Refuses (attempt : Attempt) : Prop :=
  options.hasHealthProbe = true ∧ attempt.probe ≠ .healthy

instance (attempt : Attempt) : Decidable (Refuses options attempt) :=
  inferInstanceAs (Decidable (_ ∧ _))

variable
  {options}
  {attempt : Attempt}
  {breaker : CircuitBreaker}

/-- A breaker that is not open invokes the operation. -/
theorem call_of_not_open (notOpen : breaker.state ≠ .open) :
    call options attempt breaker = operate options attempt breaker := by
  rw [call, CircuitBreaker.execute, if_neg notOpen]
  rfl

/-- What follows the sleep. -/
theorem resume_afterSleep :
    resume options attempt (breaker.afterSleep options) =
      if Refuses options attempt then
        (breaker.probeFailed options attempt.probedAt attempt.jitter,
          .refused)
      else
        operate options attempt breaker.tryHalfOpen := by
  rw [afterSleep]
  by_cases probe : options.hasHealthProbe = true
  · rw [if_pos probe, resume]
    by_cases healthy : attempt.probe = .healthy
    · rw [if_pos healthy, if_neg (fun refuses => refuses.2 healthy)]
    · rw [if_neg healthy, if_pos ⟨probe, healthy⟩]
  · rw [if_neg probe, if_neg (fun refuses => probe refuses.1)]
    rfl

/-- An open breaker refuses the call or tries it. -/
theorem call_of_open (isOpen : breaker.state = .open) :
    call options attempt breaker =
      if Refuses options attempt then
        (breaker.probeFailed options attempt.probedAt attempt.jitter,
          .refused)
      else
        operate options attempt breaker.tryHalfOpen := by
  rw [← resume_afterSleep, call, CircuitBreaker.execute, if_pos isOpen]
  have noSleep :
      (match breaker.afterSleep options with
        | (next, .sleep _) =>
            resume options attempt (next.afterSleep options)
        | passed => resume options attempt passed) =
        resume options attempt (breaker.afterSleep options) := by
    rw [afterSleep]
    cases options.hasHealthProbe <;> rfl
  cases breaker.nextAttemptTime with
  | none => exact noSleep
  | some time =>
      dsimp only
      split
      · rename_i slept
        split at slept
        · cases slept
          rfl
        · rw [afterSleep] at slept
          split at slept <;> cases slept
      · rename_i notSlept
        split
        · rename_i early
          exact absurd (if_pos early) (notSlept _ _)
        · rfl

end Calls

/-!
## The textbook machine
-/

/-- The phase of the textbook machine. -/
inductive Phase where
  /-- Operation failures since the last success, closing or creation. -/
  | closed (failures : Nat)
  | opened
  /-- Trial successes since the last opening. -/
  | halfOpen (successes : Nat)
  deriving DecidableEq, Repr

/-- An entry into `OPEN`, from `CLOSED` or from `HALF_OPEN`, or a closing. -/
inductive Transition where
  | tripped (time : Int)
  | reopened (time : Int)
  | closed (time : Int)
  deriving DecidableEq, Repr

/-- The transition enters `OPEN`. -/
def Transition.isOpening : Transition → Bool
  | .closed _ => false
  | _ => true

/-- The phase, and all transitions so far. -/
structure Textbook where
  phase : Phase
  history : List Transition
  deriving DecidableEq, Repr

namespace Textbook

/-- A new machine is closed. -/
def initial : Textbook := ⟨.closed 0, []⟩

/-- A trial after `successes` successful ones. -/
def trial
    (options : Options)
    (attempt : Attempt)
    (successes : Nat)
    (history : List Transition) : Textbook × Verdict :=
  if attempt.succeeds then
    if successes + 1 = options.halfOpenSuccessThreshold then
      (⟨.closed 0, history ++ [.closed attempt.settledAt]⟩, .fulfilled)
    else
      (⟨.halfOpen (successes + 1), history⟩, .fulfilled)
  else
    (⟨.opened, history ++ [.reopened attempt.settledAt]⟩, .rejected)

/-- One call. -/
def step
    (options : Options)
    (attempt : Attempt)
    (book : Textbook) : Textbook × Verdict :=
  match book.phase with
  | .closed failures =>
      if attempt.succeeds then
        (⟨.closed 0, book.history⟩, .fulfilled)
      else if failures + 1 = options.failureThreshold then
        (⟨.opened, book.history ++ [.tripped attempt.settledAt]⟩, .rejected)
      else
        (⟨.closed (failures + 1), book.history⟩, .rejected)
  | .opened =>
      if Refuses options attempt then
        (⟨.opened, book.history⟩, .refused)
      else
        trial options attempt 0 book.history
  | .halfOpen successes => trial options attempt successes book.history

/-- One call after the other, with their verdicts. -/
def steps (options : Options) :
    List Attempt → Textbook → Textbook × List Verdict
  | [], book => (book, [])
  | attempt :: rest, book =>
      let (next, verdict) := step options attempt book
      let (final, verdicts) := steps options rest next
      (final, verdict :: verdicts)

/-- When the current outage began, if one began before or in the history. -/
def outageSince (since : Option Int) : List Transition → Option Int
  | [] => since
  | .tripped time :: rest => outageSince (some time) rest
  | .reopened _ :: rest => outageSince since rest
  | .closed _ :: rest => outageSince none rest

/-- The completed intervals from an opening out of `CLOSED` to a closing. -/
def outages (since : Option Int) : List Transition → List (Int × Int)
  | [] => []
  | .tripped time :: rest => outages (some time) rest
  | .reopened _ :: rest => outages since rest
  | .closed time :: rest =>
      (since.map fun start => (start, time)).toList ++ outages none rest

/-- The summed length of the completed intervals. -/
def downtime (history : List Transition) : Int :=
  ((outages none history).map fun outage => outage.2 - outage.1).sum

/-- A transition after the history. -/
theorem outageSince_concat
    (since : Option Int)
    (history : List Transition)
    (last : Transition) :
    outageSince since (history ++ [last]) =
      outageSince (outageSince since history) [last] := by
  induction history generalizing since with
  | nil => rfl
  | cons transition rest inductionHypothesis =>
      cases transition <;> exact inductionHypothesis _

/-- It completes the current outage when it is a closing. -/
theorem outages_concat
    (since : Option Int)
    (history : List Transition)
    (last : Transition) :
    outages since (history ++ [last]) =
      outages since history ++ outages (outageSince since history) [last] := by
  induction history generalizing since with
  | nil => rfl
  | cons transition rest inductionHypothesis =>
      cases transition with
      | closed time =>
          simp only [List.cons_append, outages, outageSince,
            List.append_assoc, inductionHypothesis]
      | _ => exact inductionHypothesis _

/-- An opening completes no outage. -/
theorem downtime_concat
    {last : Transition}
    (history : List Transition)
    (opening : last.isOpening = true) :
    downtime (history ++ [last]) = downtime history := by
  rw [downtime, outages_concat]
  cases last with
  | closed time => cases opening
  | _ => rw [outages, outages, List.append_nil, downtime]

end Textbook

/-- The breaker is in the phase, with its counters. -/
def InPhase
    (options : Options)
    (breaker : CircuitBreaker)
    (history : List Transition) : Phase → Prop
  | .closed failures =>
      breaker.state = .closed ∧ breaker.consecutiveFailures = failures ∧
        failures < options.failureThreshold ∧
        Textbook.outageSince none history = none
  | .opened =>
      breaker.state = .open ∧
        (Textbook.outageSince none history).isSome = true
  | .halfOpen successes =>
      breaker.state = .halfOpen ∧
        breaker.consecutiveSuccesses = successes ∧
        successes < options.halfOpenSuccessThreshold ∧
        (Textbook.outageSince none history).isSome = true

/--
The breaker is the textbook machine: `totalTrips` counts the entries into
`OPEN`, and `totalDowntimeMs` sums the completed outages.
-/
structure Agrees
    (options : Options)
    (breaker : CircuitBreaker)
    (book : Textbook) : Prop where
  phase : InPhase options breaker book.history book.phase
  trips :
    breaker.totalTrips = book.history.countP Transition.isOpening
  outageStartTime :
    breaker.outageStartTime = Textbook.outageSince none book.history
  totalDowntimeMs :
    breaker.totalDowntimeMs = Textbook.downtime book.history

section Refinement

variable
  {options : Options}
  {attempt : Attempt}
  {breaker : CircuitBreaker}
  {book : Textbook}

/-- A trial of the breaker is one of the textbook machine. -/
theorem Agrees.trial
    {successes : Nat}
    {history : List Transition}
    (halfOpen : breaker.state = .halfOpen)
    (counted : breaker.consecutiveSuccesses = successes)
    (below : successes < options.halfOpenSuccessThreshold)
    (outage : (Textbook.outageSince none history).isSome = true)
    (trips : breaker.totalTrips = history.countP Transition.isOpening)
    (outageStartTime :
      breaker.outageStartTime = Textbook.outageSince none history)
    (totalDowntimeMs :
      breaker.totalDowntimeMs = Textbook.downtime history)
    (positive : 0 < options.failureThreshold) :
    (operate options attempt breaker).2 =
        (Textbook.trial options attempt successes history).2 ∧
      Agrees options (operate options attempt breaker).1
        (Textbook.trial options attempt successes history).1 := by
  obtain ⟨start, since⟩ := Option.isSome_iff_exists.mp outage
  rw [operate, Textbook.trial]
  by_cases succeeds : attempt.succeeds = true
  · rw [if_pos succeeds, if_pos succeeds, succeeded, halfOpen]
    dsimp only
    by_cases closes : successes + 1 = options.halfOpenSuccessThreshold
    · rw [if_pos closes, if_pos (by omega)]
      refine ⟨rfl, ⟨⟨rfl, rfl, positive, ?_⟩, ?_, ?_, ?_⟩⟩
      · rw [Textbook.outageSince_concat]
        rfl
      · simpa [Transition.isOpening] using trips
      · rw [Textbook.outageSince_concat]
        rfl
      · rw [Textbook.downtime, Textbook.outages_concat, outageStartTime,
          since, List.map_append, List.sum_append, totalDowntimeMs]
        simp [Textbook.downtime, Textbook.outages]
    · rw [if_neg closes, if_neg (by omega)]
      exact ⟨rfl, ⟨⟨rfl, by rw [counted], by omega, outage⟩, trips,
        outageStartTime, totalDowntimeMs⟩⟩
  · rw [if_neg succeeds, if_neg succeeds, failed]
    dsimp only
    rw [if_pos (.inl halfOpen)]
    refine ⟨rfl, ⟨⟨rfl, ?_⟩, ?_, ?_, ?_⟩⟩
    · rw [Textbook.outageSince_concat]
      exact outage
    · rw [List.countP_append, ← trips]
      rfl
    · rw [Textbook.outageSince_concat, since, schedule]
      simp [outageStartTime, since, Textbook.outageSince]
    · exact totalDowntimeMs.trans
        (Textbook.downtime_concat history rfl).symm

/-- So is an operation of a closed breaker. -/
theorem Agrees.closed
    {failures : Nat}
    {history : List Transition}
    (isClosed : breaker.state = .closed)
    (counted : breaker.consecutiveFailures = failures)
    (below : failures < options.failureThreshold)
    (noOutage : Textbook.outageSince none history = none)
    (trips : breaker.totalTrips = history.countP Transition.isOpening)
    (outageStartTime :
      breaker.outageStartTime = Textbook.outageSince none history)
    (totalDowntimeMs :
      breaker.totalDowntimeMs = Textbook.downtime history)
    (positive : 0 < options.failureThreshold) :
    (operate options attempt breaker).2 =
        (Textbook.step options attempt ⟨.closed failures, history⟩).2 ∧
      Agrees options (operate options attempt breaker).1
        (Textbook.step options attempt ⟨.closed failures, history⟩).1 := by
  rw [operate, Textbook.step]
  dsimp only
  by_cases succeeds : attempt.succeeds = true
  · rw [if_pos succeeds, if_pos succeeds, succeeded, isClosed]
    exact ⟨rfl, ⟨⟨rfl, rfl, positive, noOutage⟩, trips, outageStartTime,
      totalDowntimeMs⟩⟩
  · rw [if_neg succeeds, if_neg succeeds, failed]
    dsimp only
    by_cases opens : failures + 1 = options.failureThreshold
    · rw [if_pos opens, if_pos (.inr (by omega))]
      refine ⟨rfl, ⟨⟨rfl, ?_⟩, ?_, ?_, ?_⟩⟩
      · rw [Textbook.outageSince_concat]
        rfl
      · rw [List.countP_append, ← trips]
        rfl
      · rw [Textbook.outageSince_concat, schedule]
        simp [outageStartTime, noOutage, Textbook.outageSince]
      · exact totalDowntimeMs.trans
          (Textbook.downtime_concat history rfl).symm
    · have stays :
          ¬ (breaker.state = .halfOpen ∨
            options.failureThreshold ≤ breaker.consecutiveFailures + 1) := by
        rw [isClosed, counted]
        simp
        omega
      rw [if_neg opens, if_neg stays]
      exact ⟨rfl, ⟨⟨isClosed, by rw [counted], by omega, noOutage⟩, trips,
        outageStartTime, totalDowntimeMs⟩⟩

/-- A call of the breaker is one of the textbook machine. -/
theorem Agrees.call
    (agrees : Agrees options breaker book)
    (failurePositive : 0 < options.failureThreshold)
    (successPositive : 0 < options.halfOpenSuccessThreshold) :
    (call options attempt breaker).2 = (book.step options attempt).2 ∧
      Agrees options (call options attempt breaker).1
        (book.step options attempt).1 := by
  obtain ⟨phase, history⟩ := book
  obtain ⟨inPhase, trips, outageStartTime, totalDowntimeMs⟩ := agrees
  dsimp only at inPhase trips outageStartTime totalDowntimeMs
  cases phase with
  | closed failures =>
      obtain ⟨isClosed, counted, below, noOutage⟩ := inPhase
      rw [call_of_not_open (by simp [isClosed])]
      exact Agrees.closed isClosed counted below noOutage trips
        outageStartTime totalDowntimeMs failurePositive
  | opened =>
      obtain ⟨isOpen, outage⟩ := inPhase
      rw [call_of_open isOpen, Textbook.step]
      dsimp only
      by_cases refuses : Refuses options attempt
      · rw [if_pos refuses, if_pos refuses]
        exact ⟨rfl, ⟨⟨isOpen, outage⟩, trips, outageStartTime,
          totalDowntimeMs⟩⟩
      · rw [if_neg refuses, if_neg refuses]
        exact Agrees.trial rfl rfl successPositive outage trips
          outageStartTime totalDowntimeMs failurePositive
  | halfOpen successes =>
      obtain ⟨isHalfOpen, counted, below, outage⟩ := inPhase
      rw [call_of_not_open (by simp [isHalfOpen]), Textbook.step]
      exact Agrees.trial isHalfOpen counted below outage trips
        outageStartTime totalDowntimeMs failurePositive

/-- A new breaker is a new textbook machine. -/
theorem Agrees.initial (positive : 0 < options.failureThreshold) :
    Agrees options .fresh .initial where
  phase := ⟨rfl, rfl, positive, rfl⟩
  trips := rfl
  outageStartTime := rfl
  totalDowntimeMs := rfl

/-- A sequence of calls of the breaker is one of the textbook machine. -/
theorem Agrees.calls
    (agrees : Agrees options breaker book)
    (failurePositive : 0 < options.failureThreshold)
    (successPositive : 0 < options.halfOpenSuccessThreshold)
    (attempts : List Attempt) :
    (calls options attempts breaker).2 =
        (Textbook.steps options attempts book).2 ∧
      Agrees options (calls options attempts breaker).1
        (Textbook.steps options attempts book).1 := by
  induction attempts generalizing breaker book with
  | nil => exact ⟨rfl, agrees⟩
  | cons attempt rest inductionHypothesis =>
      obtain ⟨sameVerdict, next⟩ :=
        @Agrees.call options attempt breaker book agrees failurePositive
          successPositive
      obtain ⟨sameVerdicts, final⟩ := inductionHypothesis next
      refine ⟨?_, final⟩
      simp only [SequentialBreaker.calls, Textbook.steps]
      rw [sameVerdict, sameVerdicts]

end Refinement

/--
For every sequence of calls that do not overlap, a new breaker gives the verdicts
of the textbook machine and ends in its phase, with as many trips as entries
into `OPEN` and the summed length of the completed outages as its downtime.
-/
theorem refines_textbook
    {options : Options}
    (failurePositive : 1 ≤ options.failureThreshold)
    (successPositive : 1 ≤ options.halfOpenSuccessThreshold)
    (attempts : List Attempt) :
    (calls options attempts .fresh).2 =
        (Textbook.steps options attempts .initial).2 ∧
      Agrees options (calls options attempts .fresh).1
        (Textbook.steps options attempts .initial).1 :=
  (Agrees.initial failurePositive).calls failurePositive successPositive
    attempts

/-- A breaker that opens at the second failure and closes at the second trial. -/
def sampleOptions : Options where
  failureThreshold := 2
  hasHealthProbe := true

/-- A call at that instant, with these answers. -/
def sampleAttempt (time : Int) (probe : Probe) (succeeds : Bool) : Attempt where
  startedAt := time
  probe
  probedAt := time
  succeeds
  settledAt := time
  jitter := 0

/-- Two failures, a refusal, a failed trial and two that succeed. -/
def sampleAttempts : List Attempt := [
  sampleAttempt 1 .healthy false,
  sampleAttempt 2 .healthy false,
  sampleAttempt 3 .throws true,
  sampleAttempt 4 .healthy false,
  sampleAttempt 5 .healthy true,
  sampleAttempt 6 .healthy true]

/-- Two trips, and an outage from the first trip to the closing. -/
theorem refines_textbook_sample :
    (calls sampleOptions sampleAttempts .fresh).2 =
        [.rejected, .rejected, .refused, .rejected, .fulfilled, .fulfilled] ∧
      (calls sampleOptions sampleAttempts .fresh).1.totalTrips = 2 ∧
      (calls sampleOptions sampleAttempts .fresh).1.totalDowntimeMs = 4 := by
  have refines :=
    @refines_textbook sampleOptions (by decide) (by decide) sampleAttempts
  exact ⟨refines.1.trans (by decide), refines.2.trips.trans (by decide),
    refines.2.totalDowntimeMs.trans (by decide)⟩

end Replication.SequentialBreaker
