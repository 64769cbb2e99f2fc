import Mathlib

namespace Replication

/-!
# The circuit breaker

The fields of a `CircuitBreaker` and the pieces of `execute` between its awaits:
the sleep of an open breaker, the health probe, and the protected operation.
Calls overlap, so each piece reads and writes the fields as it finds them.
Instants and durations are in milliseconds; the random share of a backoff is an
argument.
-/

/-- The three states of a breaker. -/
inductive CircuitBreakerState where
  | closed
  | open
  | halfOpen
  deriving DecidableEq, Repr

/-- Fields of a breaker that change. -/
structure CircuitBreaker where
  state : CircuitBreakerState
  consecutiveFailures : Nat
  consecutiveSuccesses : Nat
  lastFailureTime : Option Int
  nextAttemptTime : Option Int
  currentBackoffMs : Int
  totalTrips : Nat
  outageStartTime : Option Int
  totalDowntimeMs : Int
  deriving DecidableEq, Repr

namespace CircuitBreaker

/-- Options of a breaker. -/
structure Options where
  failureThreshold : Nat := 3
  baseBackoffMs : Nat := 1000
  maxBackoffMs : Nat := 30000
  jitterMs : Nat := 500
  halfOpenSuccessThreshold : Nat := 2
  /-- Whether a `healthProbeFn` is configured. -/
  hasHealthProbe : Bool
  deriving Repr

/-- The fields as the constructor sets them. -/
def fresh : CircuitBreaker where
  state := .closed
  consecutiveFailures := 0
  consecutiveSuccesses := 0
  lastFailureTime := none
  nextAttemptTime := none
  currentBackoffMs := 0
  totalTrips := 0
  outageStartTime := none
  totalDowntimeMs := 0

/-- What `execute` awaits next. -/
inductive Gate where
  | sleep (durationMs : Int)
  | probe
  | operate
  deriving DecidableEq, Repr

/--
`min(maxBackoffMs, baseBackoffMs * 2 ** (failures - 1))` and the rounded random
share, which is at most `jitterMs`.
-/
def calculateBackoffMs
    (options : Options)
    (jitter failures : Nat) : Nat :=
  min options.maxBackoffMs (options.baseBackoffMs * 2 ^ (failures - 1)) +
    jitter

/-- Schedule the next attempt that many milliseconds from now. -/
def schedule
    (breaker : CircuitBreaker)
    (now backoff : Int) : CircuitBreaker :=
  { breaker with
    currentBackoffMs := backoff
    nextAttemptTime := some (now + backoff) }

/-- Trial requests are let through. -/
def tryHalfOpen (breaker : CircuitBreaker) : CircuitBreaker :=
  { breaker with state := .halfOpen, consecutiveSuccesses := 0 }

/-- `execute` after the sleep of an open breaker. -/
def afterSleep
    (options : Options)
    (breaker : CircuitBreaker) : CircuitBreaker × Gate :=
  if options.hasHealthProbe then
    (breaker, .probe)
  else
    (breaker.tryHalfOpen, .operate)

/-- `execute` up to its first await. -/
def execute
    (options : Options)
    (now : Int)
    (breaker : CircuitBreaker) : CircuitBreaker × Gate :=
  if breaker.state = .open then
    match breaker.nextAttemptTime with
    | some time =>
        if now < time then
          (breaker, .sleep (max 1 (time - now)))
        else
          breaker.afterSleep options
    | none => breaker.afterSleep options
  else
    (breaker, .operate)

/--
The probe is unhealthy or throws, and `execute` rejects.  The throw of an
unhealthy probe lands in the `catch` around it, which schedules once more.
-/
def probeFailed
    (options : Options)
    (now : Int)
    (jitter : Nat)
    (breaker : CircuitBreaker) : CircuitBreaker :=
  breaker.schedule now
    (calculateBackoffMs options jitter breaker.consecutiveFailures)

/-- The operation is fulfilled. -/
def succeeded
    (options : Options)
    (now : Int)
    (breaker : CircuitBreaker) : CircuitBreaker :=
  match breaker.state with
  | .halfOpen =>
      let successes := breaker.consecutiveSuccesses + 1
      if options.halfOpenSuccessThreshold ≤ successes then
        { breaker with
          state := .closed
          consecutiveSuccesses := successes
          totalDowntimeMs :=
            match breaker.outageStartTime with
            | some start => breaker.totalDowntimeMs + (now - start)
            | none => breaker.totalDowntimeMs
          outageStartTime := none
          consecutiveFailures := 0
          currentBackoffMs := 0
          nextAttemptTime := none }
      else
        { breaker with consecutiveSuccesses := successes }
  | .closed =>
      { breaker with consecutiveFailures := 0, currentBackoffMs := 0 }
  | .open => breaker

/-- The operation is rejected, and `execute` rejects. -/
def failed
    (options : Options)
    (now : Int)
    (jitter : Nat)
    (breaker : CircuitBreaker) : CircuitBreaker :=
  let counted :=
    { breaker with
      consecutiveFailures := breaker.consecutiveFailures + 1
      consecutiveSuccesses := 0
      lastFailureTime := some now }
  if counted.state = .halfOpen ∨
      options.failureThreshold ≤ counted.consecutiveFailures then
    { counted with
      totalTrips := counted.totalTrips + 1
      outageStartTime := some (counted.outageStartTime.getD now)
      state := .open }.schedule now
        (calculateBackoffMs options jitter counted.consecutiveFailures)
  else
    counted

/-- `reset()`. -/
def reset (breaker : CircuitBreaker) : CircuitBreaker :=
  { breaker with
    state := .closed
    consecutiveFailures := 0
    consecutiveSuccesses := 0
    lastFailureTime := none
    nextAttemptTime := none
    currentBackoffMs := 0
    outageStartTime := none }

/-- `trip(durationMs)`. -/
def trip
    (options : Options)
    (now : Int)
    (jitter : Nat)
    (durationMs : Option Int)
    (breaker : CircuitBreaker) : CircuitBreaker :=
  let failures := max breaker.consecutiveFailures options.failureThreshold
  { breaker with
    state := .open
    totalTrips := breaker.totalTrips + 1
    consecutiveFailures := failures
    lastFailureTime := some now
    outageStartTime := some (breaker.outageStartTime.getD now) }.schedule now
      (durationMs.getD (calculateBackoffMs options jitter failures))

/-- The callback that `trip` has scheduled. -/
def tripElapsed (breaker : CircuitBreaker) : CircuitBreaker :=
  if breaker.state = .open then breaker.tryHalfOpen else breaker

end CircuitBreaker

end Replication
