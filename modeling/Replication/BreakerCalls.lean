import Replication.CircuitBreaker
import Replication.TaskMachine

namespace Replication.BreakerCalls

/-!
# Overlapping calls of one breaker

Both runners share a breaker, and chaos tests trip and reset it from outside.
A call of `execute` is suspended in the sleep of an open breaker, at the health
probe, or inside the protected operation, and goes on with whatever the fields
hold by then.  `trip` leaves a timer behind.

The log says what happened to the breaker, the latest entry first.  It and the
number of openings a suspended call has seen are there for the statements only.
-/

/-- What happened to a breaker. -/
inductive Entry where
  /-- An event has set the state to `OPEN`, and `nextAttemptTime` to this. -/
  | opened (nextAttemptTime : Option Int)
  /-- The state was `OPEN` and no longer is. -/
  | leftOpen
  /-- Enough trial operations have succeeded. -/
  | closed
  /-- `reset()`. -/
  | reset
  | started (operation : Nat) (now : Int)
  | succeeded (operation : Nat)
  | failed (operation : Nat)
  deriving DecidableEq, Repr

/-- The entry is an opening of the breaker. -/
def Entry.isOpening : Entry → Bool
  | .opened _ => true
  | _ => false

/-- The timer of `trip`. -/
structure Timer where
  dueAt : Int
  /-- Openings up to and including that of `trip`. -/
  openings : Nat
  deriving DecidableEq, Repr

/-- The breaker with the timers that have not run and the log. -/
structure Shared where
  breaker : CircuitBreaker
  timers : List Timer
  log : List Entry
  /-- Operations started so far. -/
  operations : Nat
  deriving DecidableEq, Repr

/-- Where a call of `execute` is suspended. -/
inductive Call where
  | sleeping (wakeAt : Int) (openings : Nat)
  | probing (openings : Nat)
  | operating (operation : Nat)
  | settled
  deriving DecidableEq, Repr

/-- How a suspended call goes on. -/
inductive Act where
  | wake
  | probed (healthy : Bool) (jitter : Nat)
  | fulfilled
  | rejected (jitter : Nat)
  deriving DecidableEq, Repr

/-- What happens outside the calls. -/
inductive Env where
  | execute
  | trip (durationMs : Option Int) (jitter : Nat)
  | reset
  | elapsed (timer : Nat)
  deriving DecidableEq, Repr

/-- How often the breaker has been opened. -/
def Shared.openings (shared : Shared) : Nat :=
  shared.log.countP Entry.isOpening

/-- The state was `OPEN` and no longer is. -/
def leaves (before after : CircuitBreaker) : List Entry :=
  if before.state = .open ∧ after.state ≠ .open then [.leftOpen] else []

/-- The protected operation is called. -/
def Shared.start
    (shared : Shared)
    (now : Int)
    (breaker : CircuitBreaker) : Shared × Call :=
  ({ shared with
      breaker
      operations := shared.operations + 1
      log := .started shared.operations now ::
        (leaves shared.breaker breaker ++ shared.log) },
    .operating shared.operations)

/-- A call goes on up to its next await. -/
def Shared.await
    (shared : Shared)
    (now : Int)
    (openings : Nat) :
    CircuitBreaker × CircuitBreaker.Gate → Shared × Call
  | (breaker, .sleep durationMs) =>
      ({ shared with breaker }, .sleeping (now + durationMs) openings)
  | (breaker, .probe) => ({ shared with breaker }, .probing openings)
  | (breaker, .operate) => shared.start now breaker

/-- A rejected operation opens the breaker. -/
def Trips
    (options : CircuitBreaker.Options)
    (breaker : CircuitBreaker) : Prop :=
  breaker.state = .halfOpen ∨
    options.failureThreshold ≤ breaker.consecutiveFailures + 1

instance
    (options : CircuitBreaker.Options)
    (breaker : CircuitBreaker) : Decidable (Trips options breaker) :=
  inferInstanceAs (Decidable (_ ∨ _))

/-- The operation of a call is fulfilled. -/
def Shared.fulfil
    (options : CircuitBreaker.Options)
    (shared : Shared)
    (now : Int)
    (operation : Nat) : Shared :=
  let breaker := shared.breaker.succeeded options now
  { shared with
    breaker
    log :=
      (if shared.breaker.state = .halfOpen ∧ breaker.state = .closed then
        [.closed]
      else
        []) ++ .succeeded operation :: shared.log }

/-- The operation of a call is rejected. -/
def Shared.reject
    (options : CircuitBreaker.Options)
    (shared : Shared)
    (now : Int)
    (jitter operation : Nat) : Shared :=
  let breaker := shared.breaker.failed options now jitter
  { shared with
    breaker
    log :=
      (if Trips options shared.breaker then
        [.opened breaker.nextAttemptTime]
      else
        []) ++ .failed operation :: shared.log }

/-- `trip`; a positive duration starts a timer. -/
def Shared.trip
    (options : CircuitBreaker.Options)
    (shared : Shared)
    (now : Int)
    (durationMs : Option Int)
    (jitter : Nat) : Shared :=
  let breaker := shared.breaker.trip options now jitter durationMs
  { shared with
    breaker
    log := .opened breaker.nextAttemptTime :: shared.log
    timers := shared.timers ++
      match durationMs with
      | some duration =>
          if 0 < duration then
            [⟨now + duration, shared.openings + 1⟩]
          else
            []
      | none => [] }

/-- `reset`. -/
def Shared.reset (shared : Shared) : Shared :=
  { shared with
    breaker := shared.breaker.reset
    log := .reset :: (leaves shared.breaker shared.breaker.reset ++
      shared.log) }

/-- The timer at that position runs its callback. -/
def Shared.elapse (shared : Shared) (timer : Nat) : Shared :=
  { shared with
    breaker := shared.breaker.tripElapsed
    timers := shared.timers.eraseIdx timer
    log := leaves shared.breaker shared.breaker.tripElapsed ++ shared.log }

/-- A call resumes; a sleep does not end before its time. -/
def act
    (options : CircuitBreaker.Options)
    (now : Int)
    (shared : Shared) :
    Call → Act → Option (Shared × Call × List Call)
  | .sleeping wakeAt openings, .wake =>
      if wakeAt ≤ now then
        let (shared, call) :=
          shared.await now openings (shared.breaker.afterSleep options)
        some (shared, call, [])
      else
        none
  | .probing openings, .probed true _ =>
      let (shared, call) :=
        shared.await now openings (shared.breaker.tryHalfOpen, .operate)
      some (shared, call, [])
  | .probing _, .probed false jitter =>
      some
        ({ shared with
            breaker := shared.breaker.probeFailed options now jitter },
          .settled, [])
  | .operating operation, .fulfilled =>
      some (shared.fulfil options now operation, .settled, [])
  | .operating operation, .rejected jitter =>
      some (shared.reject options now jitter operation, .settled, [])
  | _, _ => none

/-- Something happens outside; a timer does not run before its time. -/
def env
    (options : CircuitBreaker.Options)
    (now : Int)
    (shared : Shared)
    (calls : List Call) :
    Env → Option (Shared × List Call)
  | .execute =>
      let (next, call) :=
        shared.await now shared.openings
          (shared.breaker.execute options now)
      some (next, calls ++ [call])
  | .trip durationMs jitter =>
      some (shared.trip options now durationMs jitter, calls)
  | .reset => some (shared.reset, calls)
  | .elapsed timer =>
      match shared.timers[timer]? with
      | some running =>
          if running.dueAt ≤ now then
            some (shared.elapse timer, calls)
          else
            none
      | none => none

/-- The clock advances; calls, trips and resets come in any order. -/
def machine (options : CircuitBreaker.Options) :
    TaskMachine Int Shared Call Act Env Nat where
  act := act options
  env := env options
  change now elapsed := some (now + elapsed)

/-- A breaker with its calls at an instant. -/
abbrev World := TaskMachine.World Int Shared Call

/-- One step of a breaker. -/
abbrev Event := TaskMachine.Event Act Env Nat

/-- A new breaker at that instant. -/
def initial (now : Int) : World :=
  ⟨now, ⟨.fresh, [], [], 0⟩, []⟩

/-! ### What a step can do -/

/-- The call passes from an open breaker to its operation with that action. -/
def LetsThrough
    (options : CircuitBreaker.Options) : Call → Act → Prop
  | .sleeping _ _, .wake => options.hasHealthProbe = false
  | .probing _, .probed healthy _ => healthy = true
  | _, _ => False

instance (options : CircuitBreaker.Options) (call : Call) (action : Act) :
    Decidable (LetsThrough options call action) := by
  unfold LetsThrough
  split <;> infer_instance

/-- The openings a call suspended before its operation has seen. -/
def Call.openings? : Call → Option Nat
  | .sleeping _ openings => some openings
  | .probing openings => some openings
  | _ => none

/-- What the resumption of a call can do. -/
inductive Resumes
    (options : CircuitBreaker.Options)
    (now : Int)
    (shared : Shared) :
    Call → Act → Shared → Call → Prop where
  /-- An elapsed sleep is followed by the probe. -/
  | awake
      {wakeAt : Int}
      {openings : Nat}
      (elapsed : wakeAt ≤ now)
      (probes : options.hasHealthProbe = true) :
      Resumes options now shared (.sleeping wakeAt openings) .wake
        shared (.probing openings)
  /-- The call starts its operation, whatever the state is by now. -/
  | through
      {call : Call}
      {action : Act}
      (lets : LetsThrough options call action)
      (elapsed : ∀ wakeAt openings,
        call = .sleeping wakeAt openings → wakeAt ≤ now) :
      Resumes options now shared call action
        (shared.start now shared.breaker.tryHalfOpen).1
        (.operating shared.operations)
  | unhealthy
      {openings jitter : Nat} :
      Resumes options now shared (.probing openings)
        (.probed false jitter)
        { shared with
          breaker := shared.breaker.probeFailed options now jitter }
        .settled
  | fulfilled
      {operation : Nat} :
      Resumes options now shared (.operating operation) .fulfilled
        (shared.fulfil options now operation) .settled
  | rejected
      {operation jitter : Nat} :
      Resumes options now shared (.operating operation)
        (.rejected jitter)
        (shared.reject options now jitter operation) .settled

/-- Every resumption is one of those, and spawns nothing. -/
theorem act_spec
    {options : CircuitBreaker.Options}
    {now : Int}
    {shared after : Shared}
    {call next : Call}
    {action : Act}
    {spawned : List Call}
    (moved :
      act options now shared call action = some (after, next, spawned)) :
    spawned = [] ∧ Resumes options now shared call action after next := by
  unfold act at moved
  split at moved
  case h_1 wakeAt openings =>
      split at moved
      · rename_i elapsed
        by_cases probes : options.hasHealthProbe = true
        · simp only [CircuitBreaker.afterSleep, probes, if_true,
            Shared.await] at moved
          cases moved
          exact ⟨rfl, .awake elapsed probes⟩
        · simp only [CircuitBreaker.afterSleep, probes,
            Shared.await] at moved
          cases moved
          refine ⟨rfl, .through (by simpa [LetsThrough] using probes) ?_⟩
          intro _ _ same
          cases same
          exact elapsed
      · cases moved
  case h_2 openings jitter =>
      cases moved
      exact ⟨rfl, .through rfl nofun⟩
  case h_3 =>
      cases moved
      exact ⟨rfl, .unhealthy⟩
  case h_4 =>
      cases moved
      exact ⟨rfl, .fulfilled⟩
  case h_5 =>
      cases moved
      exact ⟨rfl, .rejected⟩
  case h_6 => cases moved

/-- What a new call of `execute` can do before its first await. -/
inductive Executes
    (options : CircuitBreaker.Options)
    (now : Int)
    (shared : Shared) : Shared → Call → Prop where
  | sleeps
      {time : Int}
      (isOpen : shared.breaker.state = .open)
      (next : shared.breaker.nextAttemptTime = some time)
      (early : now < time) :
      Executes options now shared shared
        (.sleeping (now + max 1 (time - now)) shared.openings)
  | probes
      (isOpen : shared.breaker.state = .open)
      (due : ∀ time ∈ shared.breaker.nextAttemptTime, time ≤ now) :
      Executes options now shared shared (.probing shared.openings)
  | through
      (isOpen : shared.breaker.state = .open)
      (due : ∀ time ∈ shared.breaker.nextAttemptTime, time ≤ now) :
      Executes options now shared
        (shared.start now shared.breaker.tryHalfOpen).1
        (.operating shared.operations)
  | starts
      (notOpen : shared.breaker.state ≠ .open) :
      Executes options now shared
        (shared.start now shared.breaker).1
        (.operating shared.operations)

/-- Every new call does one of those. -/
theorem execute_spec
    (options : CircuitBreaker.Options)
    (now : Int)
    (shared : Shared) :
    Executes options now shared
      (shared.await now shared.openings
        (shared.breaker.execute options now)).1
      (shared.await now shared.openings
        (shared.breaker.execute options now)).2 := by
  have past
      (isOpen : shared.breaker.state = .open)
      (due : ∀ time ∈ shared.breaker.nextAttemptTime, time ≤ now) :
      Executes options now shared
        (shared.await now shared.openings
          (shared.breaker.afterSleep options)).1
        (shared.await now shared.openings
          (shared.breaker.afterSleep options)).2 := by
    unfold CircuitBreaker.afterSleep
    split
    · exact .probes isOpen due
    · exact .through isOpen due
  unfold CircuitBreaker.execute
  by_cases isOpen : shared.breaker.state = .open
  · rw [if_pos isOpen]
    cases next : shared.breaker.nextAttemptTime with
    | none => exact past isOpen (by simp [next])
    | some time =>
        simp only
        by_cases early : now < time
        · rw [if_pos early]
          exact .sleeps isOpen next early
        · rw [if_neg early]
          refine past isOpen ?_
          simpa [next] using Int.not_lt.mp early
  · rw [if_neg isOpen]
    exact .starts isOpen

/-- What the outside can do. -/
inductive Happens
    (options : CircuitBreaker.Options)
    (now : Int)
    (shared : Shared)
    (calls : List Call) :
    Env → Shared → List Call → Prop where
  | execute
      {after : Shared}
      {call : Call}
      (executes : Executes options now shared after call) :
      Happens options now shared calls .execute after (calls ++ [call])
  | trip
      {durationMs : Option Int}
      {jitter : Nat} :
      Happens options now shared calls (.trip durationMs jitter)
        (shared.trip options now durationMs jitter) calls
  | reset :
      Happens options now shared calls .reset shared.reset calls
  | elapsed
      {timer : Nat}
      {running : Timer}
      (found : shared.timers[timer]? = some running)
      (due : running.dueAt ≤ now) :
      Happens options now shared calls (.elapsed timer)
        (shared.elapse timer) calls

/-- Every outside event is one of those. -/
theorem env_spec
    {options : CircuitBreaker.Options}
    {now : Int}
    {shared after : Shared}
    {calls later : List Call}
    {event : Env}
    (moved : env options now shared calls event = some (after, later)) :
    Happens options now shared calls event after later := by
  cases event with
  | execute =>
      cases moved
      exact .execute (execute_spec options now shared)
  | trip durationMs jitter =>
      cases moved
      exact .trip
  | reset =>
      cases moved
      exact .reset
  | elapsed timer =>
      simp only [env] at moved
      split at moved
      · rename_i running found
        split at moved
        · rename_i due
          cases moved
          exact .elapsed found due
        · cases moved
      · cases moved

end Replication.BreakerCalls
