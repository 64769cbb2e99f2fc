import Replication.BreakerCalls

namespace Replication.BreakerCalls

/-!
# The state machine of a breaker under overlapping callers

A call that slept or probed sets the state to `HALF_OPEN` without looking at it
again.  When other calls have closed the breaker meanwhile, it half-opens a
closed breaker.  Apart from such late callers the state only moves as intended,
and the other fields agree with it.
-/

/-- The moves of the state that calls and timers are meant to make. -/
def Moves (before after : CircuitBreakerState) : Prop :=
  before = after ∨
    before = .closed ∧ after = .open ∨
    before = .open ∧ after = .halfOpen ∨
    before = .halfOpen ∧ after = .open ∨
    before = .halfOpen ∧ after = .closed

instance (before after : CircuitBreakerState) :
    Decidable (Moves before after) :=
  inferInstanceAs (Decidable (_ ∨ _))

/-- The moves an event is meant to make. -/
def LegalMove (event : Event) (before after : CircuitBreakerState) : Prop :=
  match event with
  | .env (.trip _ _) => after = .open
  | .env .reset => after = .closed
  | _ => Moves before after

/-- The other fields agree with the state. -/
structure StateInvariant
    (options : CircuitBreaker.Options)
    (breaker : CircuitBreaker) : Prop where
  outage : breaker.outageStartTime = none ↔ breaker.state = .closed
  scheduled :
    breaker.state = .open → breaker.nextAttemptTime.isSome = true
  failures :
    breaker.state = .closed →
      breaker.consecutiveFailures < options.failureThreshold
  successes :
    breaker.state = .halfOpen →
      breaker.consecutiveSuccesses < options.halfOpenSuccessThreshold

/-- No call that slept or probed goes on to a closed breaker. -/
def NoLateCaller
    (options : CircuitBreaker.Options)
    (world : World) : Event → Prop
  | .act index action =>
      ∀ call ∈ world.tasks[index]?,
        LetsThrough options call action →
          world.shared.breaker.state ≠ .closed
  | _ => True

instance (options : CircuitBreaker.Options) (world : World) :
    DecidablePred (NoLateCaller options world)
  | .act index action =>
      inferInstanceAs
        (Decidable (∀ call ∈ world.tasks[index]?,
          LetsThrough options call action →
            world.shared.breaker.state ≠ .closed))
  | .env _ => isTrue trivial
  | .change _ => isTrue trivial

section Fields

variable
  {options : CircuitBreaker.Options}
  {breaker : CircuitBreaker}

/-- A new breaker agrees with its state. -/
theorem StateInvariant.fresh
    (positive : 1 ≤ options.failureThreshold) :
    StateInvariant options .fresh := by
  exact ⟨by simp [CircuitBreaker.fresh], nofun, fun _ => positive, nofun⟩

/-- Scheduling the next attempt. -/
theorem StateInvariant.schedule
    (holds : StateInvariant options breaker)
    (now backoff : Int) :
    StateInvariant options (breaker.schedule now backoff) :=
  ⟨holds.outage, fun _ => rfl, holds.failures, holds.successes⟩

/-- Half-opening a breaker that is not closed. -/
theorem StateInvariant.tryHalfOpen
    (holds : StateInvariant options breaker)
    (positive : 1 ≤ options.halfOpenSuccessThreshold)
    (notClosed : breaker.state ≠ .closed) :
    StateInvariant options breaker.tryHalfOpen := by
  refine ⟨?_, nofun, nofun, fun _ => positive⟩
  have outage := mt holds.outage.mp notClosed
  simp [CircuitBreaker.tryHalfOpen, outage]

/-- A breaker that is not closed may be half-opened. -/
theorem moves_halfOpen
    {state : CircuitBreakerState}
    (notClosed : state ≠ .closed) :
    Moves state .halfOpen := by
  cases state with
  | closed => exact absurd rfl notClosed
  | «open» => simp [Moves]
  | halfOpen => exact .inl rfl

/-- A fulfilled operation. -/
theorem StateInvariant.succeeded
    (holds : StateInvariant options breaker)
    (positive : 1 ≤ options.failureThreshold)
    (now : Int) :
    Moves breaker.state (breaker.succeeded options now).state ∧
      StateInvariant options (breaker.succeeded options now) := by
  obtain ⟨outage, scheduled, failures, successes⟩ := holds
  cases state : breaker.state with
  | closed =>
      rw [state] at outage
      refine ⟨?_, ?_, ?_, ?_, ?_⟩ <;>
        simp [CircuitBreaker.succeeded, state, Moves, outage]
      exact positive
  | «open» =>
      have same : breaker.succeeded options now = breaker := by
        simp only [CircuitBreaker.succeeded, state]
      rw [same]
      exact ⟨.inl state.symm, outage, scheduled, failures, successes⟩
  | halfOpen =>
      simp only [CircuitBreaker.succeeded, state]
      by_cases enough :
          options.halfOpenSuccessThreshold ≤
            breaker.consecutiveSuccesses + 1
      · rw [if_pos enough]
        refine ⟨by simp [Moves], by simp, nofun, fun _ => ?_, nofun⟩
        exact positive
      · rw [if_neg enough]
        rw [state] at outage
        exact ⟨.inl rfl, outage, nofun, nofun,
          fun _ => Nat.lt_of_not_le enough⟩

/-- A rejected operation. -/
theorem StateInvariant.failed
    (holds : StateInvariant options breaker)
    (now : Int)
    (jitter : Nat) :
    Moves breaker.state (breaker.failed options now jitter).state ∧
      StateInvariant options (breaker.failed options now jitter) := by
  unfold CircuitBreaker.failed
  by_cases trips : Trips options breaker
  · rw [if_pos (show _ ∨ _ from trips)]
    refine ⟨?_, ?_, fun _ => rfl, nofun, nofun⟩
    · change Moves breaker.state .open
      cases breaker.state <;> simp [Moves]
    · simp [CircuitBreaker.schedule]
  · rw [if_neg (show ¬ (_ ∨ _) from trips)]
    obtain ⟨notHalfOpen, few⟩ := not_or.mp trips
    refine ⟨.inl rfl, holds.outage, holds.scheduled, fun _ => ?_, ?_⟩
    · exact Nat.lt_of_not_le few
    · exact fun halfOpen => absurd halfOpen notHalfOpen

/-- `reset`. -/
theorem StateInvariant.reset
    (positive : 1 ≤ options.failureThreshold) :
    StateInvariant options breaker.reset :=
  ⟨by simp [CircuitBreaker.reset], nofun, fun _ => positive, nofun⟩

/-- `trip`. -/
theorem StateInvariant.trip
    (now : Int)
    (jitter : Nat)
    (durationMs : Option Int) :
    StateInvariant options
      (breaker.trip options now jitter durationMs) :=
  ⟨by simp [CircuitBreaker.trip, CircuitBreaker.schedule],
    fun _ => rfl, nofun, nofun⟩

/-- The timer of `trip` half-opens an open breaker only. -/
theorem StateInvariant.tripElapsed
    (holds : StateInvariant options breaker)
    (positive : 1 ≤ options.halfOpenSuccessThreshold) :
    Moves breaker.state breaker.tripElapsed.state ∧
      StateInvariant options breaker.tripElapsed := by
  unfold CircuitBreaker.tripElapsed
  by_cases isOpen : breaker.state = .open
  · rw [if_pos isOpen]
    have notClosed : breaker.state ≠ .closed := by simp [isOpen]
    exact ⟨moves_halfOpen notClosed,
      holds.tryHalfOpen positive notClosed⟩
  · rw [if_neg isOpen]
    exact ⟨.inl rfl, holds⟩

end Fields

section Steps

variable {options : CircuitBreaker.Options}

/-- A resumed call, unless it comes late. -/
theorem Resumes.states
    {now : Int}
    {shared after : Shared}
    {call next : Call}
    {action : Act}
    (resumes : Resumes options now shared call action after next)
    (positive : 1 ≤ options.failureThreshold)
    (trials : 1 ≤ options.halfOpenSuccessThreshold)
    (holds : StateInvariant options shared.breaker)
    (inTime :
      LetsThrough options call action →
        shared.breaker.state ≠ .closed) :
    Moves shared.breaker.state after.breaker.state ∧
      StateInvariant options after.breaker := by
  cases resumes with
  | awake => exact ⟨.inl rfl, holds⟩
  | through lets =>
      exact ⟨moves_halfOpen (inTime lets),
        holds.tryHalfOpen trials (inTime lets)⟩
  | unhealthy => exact ⟨.inl rfl, holds.schedule now _⟩
  | fulfilled => exact holds.succeeded positive now
  | rejected => exact holds.failed now _

/-- A call that comes late half-opens a closed breaker. -/
theorem Resumes.late
    {now : Int}
    {shared after : Shared}
    {call next : Call}
    {action : Act}
    (resumes : Resumes options now shared call action after next)
    (lets : LetsThrough options call action) :
    after.breaker.state = .halfOpen := by
  cases resumes with
  | through => rfl
  | awake elapsed probes => simp [LetsThrough, probes] at lets
  | unhealthy => cases lets
  | fulfilled => cases lets
  | rejected => cases lets

/-- A new call. -/
theorem Executes.states
    {now : Int}
    {shared after : Shared}
    {call : Call}
    (executes : Executes options now shared after call)
    (trials : 1 ≤ options.halfOpenSuccessThreshold)
    (holds : StateInvariant options shared.breaker) :
    Moves shared.breaker.state after.breaker.state ∧
      StateInvariant options after.breaker := by
  cases executes with
  | sleeps => exact ⟨.inl rfl, holds⟩
  | probes => exact ⟨.inl rfl, holds⟩
  | through isOpen =>
      have notClosed : shared.breaker.state ≠ .closed := by simp [isOpen]
      exact ⟨moves_halfOpen notClosed, holds.tryHalfOpen trials notClosed⟩
  | starts => exact ⟨.inl rfl, holds⟩

/-- Every step without a late caller makes a legal move. -/
theorem StateInvariant.step
    {before after : World}
    {event : Event}
    (positive : 1 ≤ options.failureThreshold)
    (trials : 1 ≤ options.halfOpenSuccessThreshold)
    (holds : StateInvariant options before.shared.breaker)
    (inTime : NoLateCaller options before event)
    (taken : (machine options).step before event = some after) :
    LegalMove event before.shared.breaker.state
        after.shared.breaker.state ∧
      StateInvariant options after.shared.breaker := by
  cases event with
  | act index action =>
      obtain ⟨call, shared, next, spawned, found, moved, rfl⟩ :=
        TaskMachine.step_act taken
      exact (act_spec moved).2.states positive trials holds
        (inTime call found)
  | env event =>
      obtain ⟨shared, calls, moved, rfl⟩ := TaskMachine.step_env taken
      cases env_spec moved with
      | execute executes => exact executes.states trials holds
      | trip => exact ⟨rfl, .trip before.context _ _⟩
      | reset => exact ⟨rfl, .reset positive⟩
      | elapsed => exact holds.tripElapsed trials
  | change elapsed =>
      obtain ⟨now, _, rfl⟩ := TaskMachine.step_change taken
      exact ⟨.inl rfl, holds⟩

/-- A step with a late caller does not. -/
theorem noLateCaller_of_legal
    {before after : World}
    {event : Event}
    (taken : (machine options).step before event = some after)
    (legal :
      LegalMove event before.shared.breaker.state
        after.shared.breaker.state) :
    NoLateCaller options before event := by
  cases event with
  | act index action =>
      intro call found lets closed
      obtain ⟨same, shared, next, spawned, atIndex, moved, rfl⟩ :=
        TaskMachine.step_act taken
      obtain rfl : same = call := Option.some.inj (atIndex.symm.trans found)
      have halfOpen := (act_spec moved).2.late lets
      simp [LegalMove, Moves, closed, halfOpen] at legal
  | env event => exact trivial
  | change elapsed => exact trivial

end Steps

/--
As long as no call that slept or probed goes on to a breaker that has been
closed meanwhile, the other fields agree with the state, whatever the order of
the steps; and a further step makes a legal move and keeps this exactly when it
is not such a late caller.
-/
theorem states_of_no_late_caller
    {options : CircuitBreaker.Options}
    (positive : 1 ≤ options.failureThreshold)
    (trials : 1 ≤ options.halfOpenSuccessThreshold)
    {now : Int}
    {events : List Event}
    {reached : World}
    (run :
      Run (machine options).step (NoLateCaller options)
        (initial now) events reached) :
    StateInvariant options reached.shared.breaker ∧
      ∀ event after,
        (machine options).step reached event = some after →
        (NoLateCaller options reached event ↔
          LegalMove event reached.shared.breaker.state
              after.shared.breaker.state ∧
            StateInvariant options after.shared.breaker) := by
  have holds : StateInvariant options reached.shared.breaker :=
    run.invariant (fun world => StateInvariant options world.shared.breaker)
      (fun holds inTime taken =>
        (holds.step positive trials inTime taken).2)
      (.fresh positive)
  refine ⟨holds, fun event after taken => ⟨?_, ?_⟩⟩
  · exact fun inTime => holds.step positive trials inTime taken
  · exact fun legal => noLateCaller_of_legal taken legal.1

/-- The breakers as `bootstrap` wires them. -/
def bootstrapOptions : CircuitBreaker.Options where
  hasHealthProbe := true

/-- Three failures open the breaker at 0, until 4000. -/
def sampleOutage : List Event :=
  [.env .execute, .act 0 (.rejected 0), .env .execute, .act 1 (.rejected 0),
    .env .execute, .act 2 (.rejected 0)]

/--
Two calls sleep until 4000 and probe.  One heals the breaker; the probe of the
other one is answered afterwards.
-/
def sampleHealing : List Event :=
  sampleOutage ++
    [.env .execute, .env .execute, .change 4000, .act 3 .wake, .act 4 .wake,
      .act 3 (.probed true 0), .act 3 .fulfilled, .env .execute,
      .act 5 .fulfilled]

/-- Up to then no caller is late, and the breaker is closed. -/
theorem states_of_no_late_caller_sample :
    ∃ reached,
      Run (machine bootstrapOptions).step (NoLateCaller bootstrapOptions)
        (initial 0) sampleHealing reached ∧
      reached.shared.breaker.state = .closed ∧
      StateInvariant bootstrapOptions reached.shared.breaker := by
  obtain ⟨reached, run, closed⟩ :
      ∃ reached,
        Run (machine bootstrapOptions).step (NoLateCaller bootstrapOptions)
          (initial 0) sampleHealing reached ∧
        reached.shared.breaker.state = .closed :=
    Run.exists_of_replay _ (by decide +kernel)
  exact ⟨reached, run, closed,
    (states_of_no_late_caller (by decide) (by decide) run).1⟩

/-- The probe of the call that is late. -/
def sampleLateCaller : List Event :=
  [.act 4 (.probed true 0)]

/-- The late caller half-opens the closed breaker, with no outage on record. -/
theorem late_caller_half_opens_closed_breaker :
    ∃ before after,
      Run (machine bootstrapOptions).step (fun _ _ => True)
        (initial 0) sampleHealing before ∧
      Run (machine bootstrapOptions).step (fun _ _ => True)
        before sampleLateCaller after ∧
      ¬ Moves before.shared.breaker.state after.shared.breaker.state ∧
      ¬ StateInvariant bootstrapOptions after.shared.breaker := by
  obtain ⟨before, run, replayed⟩ :
      ∃ before,
        Run (machine bootstrapOptions).step (fun _ _ => True)
          (initial 0) sampleHealing before ∧
        (replay (machine bootstrapOptions).step (fun _ _ => True)
          before sampleLateCaller).any
          (fun after =>
            ¬ Moves before.shared.breaker.state
                after.shared.breaker.state ∧
              after.shared.breaker.state = .halfOpen ∧
              after.shared.breaker.outageStartTime = none) = true :=
    Run.exists_of_replay _ (by decide +kernel)
  obtain ⟨after, late, illegal, state, outage⟩ :=
    Run.exists_of_replay
      (fun (after : World) =>
        ¬ Moves before.shared.breaker.state after.shared.breaker.state ∧
          after.shared.breaker.state = .halfOpen ∧
          after.shared.breaker.outageStartTime = none)
      replayed
  refine ⟨before, after, run, late, illegal, fun holds => ?_⟩
  exact nomatch state.symm.trans (holds.outage.mp outage)

end Replication.BreakerCalls
