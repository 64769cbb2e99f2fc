import Replication.BreakerDeadlines
import Mathlib

namespace Replication.BreakerCalls

/-!
# Downtime of a breaker

`totalDowntimeMs` grows by the length of an outage when the outage ends.  With
the outage going on it never exceeds the time the breaker has been away from
`CLOSED`, whatever the order of the steps.  It falls short of that only through
`reset`, which forgets the outage going on, and through callers that come late
and half-open a closed breaker without starting one.
-/

/-- Downtime on record and that of the outage going on. -/
def downtime (now : Int) (breaker : CircuitBreaker) : Int :=
  breaker.totalDowntimeMs +
    breaker.outageStartTime.elim 0 fun start => now - start

/-- The milliseconds that pass in a step while the breaker is not closed. -/
def away (world : World) : Event → Nat
  | .change elapsed =>
      if world.shared.breaker.state = .closed then 0 else elapsed
  | _ => 0

/-- The time the breaker has been away from `CLOSED`. -/
def timeAway
    (options : CircuitBreaker.Options)
    (world : World)
    (events : List Event) : Nat :=
  Run.spent (machine options).step away world events

/-- `reset` is called. -/
def Resets : Event → Prop
  | .env .reset => True
  | _ => False

instance : DecidablePred Resets
  | .env .reset => isTrue trivial
  | .env .execute => isFalse not_false
  | .env (.trip _ _) => isFalse not_false
  | .env (.elapsed _) => isFalse not_false
  | .act _ _ => isFalse not_false
  | .change _ => isFalse not_false

/-- No outage is forgotten, and none goes unrecorded. -/
def Recorded
    (options : CircuitBreaker.Options)
    (world : World)
    (event : Event) : Prop :=
  NoLateCaller options world event ∧ ¬ Resets event

instance (options : CircuitBreaker.Options) (world : World) :
    DecidablePred (Recorded options world) :=
  fun _ => inferInstanceAs (Decidable (_ ∧ _))

/-- A closed breaker has no outage, and an outage has begun by now. -/
structure Began (now : Int) (breaker : CircuitBreaker) : Prop where
  closed :
    breaker.state = .closed → breaker.outageStartTime = none
  past : ∀ start ∈ breaker.outageStartTime, start ≤ now

/-- What every change of the fields at an instant does to the downtime. -/
structure Accounts
    (now : Int)
    (before after : CircuitBreaker) : Prop where
  began : Began now after
  grows : before.totalDowntimeMs ≤ after.totalDowntimeMs
  covered : downtime now after ≤ downtime now before

/-- The change forgets nothing, and the outage it leaves is on record. -/
structure Exact
    (now : Int)
    (before after : CircuitBreaker) : Prop where
  same : downtime now after = downtime now before
  ongoing :
    after.outageStartTime = none → after.state = .closed

section Fields

variable
  {options : CircuitBreaker.Options}
  {now : Int}
  {breaker : CircuitBreaker}

/-- A new breaker has no outage. -/
theorem Began.fresh : Began now .fresh :=
  ⟨fun _ => rfl, fun _ member => absurd member (Option.not_mem_none _)⟩

/-- Nothing that concerns the downtime changes. -/
theorem Accounts.frame
    {after : CircuitBreaker}
    (began : Began now breaker)
    (state : after.state = .closed → breaker.state = .closed)
    (outage : after.outageStartTime = breaker.outageStartTime)
    (total : after.totalDowntimeMs = breaker.totalDowntimeMs) :
    Accounts now breaker after where
  began :=
    ⟨fun closed => outage.trans (began.closed (state closed)),
      fun start member => began.past start (outage ▸ member)⟩
  grows := Int.le_of_eq total.symm
  covered := by
    simp only [downtime, outage, total]
    exact Int.le_refl _

/-- The outage going on, or that beginning now. -/
theorem downtime_opened
    {after : CircuitBreaker}
    (outage :
      after.outageStartTime =
        some (breaker.outageStartTime.getD now))
    (total : after.totalDowntimeMs = breaker.totalDowntimeMs) :
    downtime now after = downtime now breaker := by
  simp only [downtime, outage, total]
  cases breaker.outageStartTime with
  | none => simp
  | some start => simp

/-- An opening. -/
theorem Accounts.opened
    {after : CircuitBreaker}
    (began : Began now breaker)
    (state : after.state = .open)
    (outage :
      after.outageStartTime =
        some (breaker.outageStartTime.getD now))
    (total : after.totalDowntimeMs = breaker.totalDowntimeMs) :
    Accounts now breaker after ∧ Exact now breaker after := by
  have same := downtime_opened outage total
  refine ⟨⟨⟨?_, ?_⟩, Int.le_of_eq total.symm, Int.le_of_eq same⟩, same, ?_⟩
  · intro closed
    exact CircuitBreakerState.noConfusion (state.symm.trans closed)
  · intro start member
    rw [outage] at member
    obtain rfl := Option.some.inj member
    cases going : breaker.outageStartTime with
    | none => exact Int.le_refl now
    | some start => exact began.past start going
  · intro none
    exact absurd (outage.symm.trans none) (Option.some_ne_none _)

/-- A rejected operation. -/
theorem Accounts.failed
    (began : Began now breaker)
    (jitter : Nat) :
    Accounts now breaker (breaker.failed options now jitter) ∧
      ((breaker.outageStartTime = none → breaker.state = .closed) →
        Exact now breaker (breaker.failed options now jitter)) := by
  unfold CircuitBreaker.failed
  by_cases trips : Trips options breaker
  · rw [if_pos (show _ ∨ _ from trips)]
    refine And.imp_right (fun exact _ => exact) ?_
    exact Accounts.opened began rfl rfl rfl
  · rw [if_neg (show ¬ (_ ∨ _) from trips)]
    exact ⟨.frame began id rfl rfl, fun ongoing => ⟨rfl, ongoing⟩⟩

/-- A fulfilled operation; enough of them end the outage. -/
theorem Accounts.succeeded (began : Began now breaker) :
    Accounts now breaker (breaker.succeeded options now) ∧
      ((breaker.outageStartTime = none → breaker.state = .closed) →
        Exact now breaker (breaker.succeeded options now)) := by
  unfold CircuitBreaker.succeeded
  split
  case h_1 halfOpen =>
      dsimp only
      split
      · -- the outage ends, and its length is put on record
        have noOutage : ∀ start ∈ (none : Option Int), start ≤ now :=
          fun _ member => absurd member (Option.not_mem_none _)
        cases going : breaker.outageStartTime with
        | none =>
            have same :
                downtime now breaker = breaker.totalDowntimeMs := by
              simp [downtime, going]
            refine ⟨⟨⟨fun _ => rfl, noOutage⟩, Int.le_refl _, ?_⟩,
              fun _ => ⟨?_, fun _ => rfl⟩⟩
            · simp [downtime, going]
            · simp [downtime, going]
        | some start =>
            have past := began.past start going
            refine ⟨⟨⟨fun _ => rfl, noOutage⟩, ?_, ?_⟩,
              fun _ => ⟨?_, fun _ => rfl⟩⟩
            · change breaker.totalDowntimeMs ≤
                breaker.totalDowntimeMs + (now - start)
              exact Int.le_add_of_nonneg_right (Int.sub_nonneg_of_le past)
            · simp [downtime, going]
            · simp [downtime, going]
      · exact ⟨.frame began id rfl rfl, fun ongoing => ⟨rfl, ongoing⟩⟩
  case h_2 closed =>
      exact ⟨.frame began id rfl rfl, fun ongoing => ⟨rfl, ongoing⟩⟩
  case h_3 isOpen =>
      exact ⟨.frame began id rfl rfl, fun ongoing => ⟨rfl, ongoing⟩⟩

/-- Trial requests are let through. -/
theorem Accounts.tryHalfOpen (began : Began now breaker) :
    Accounts now breaker breaker.tryHalfOpen ∧
      (breaker.state ≠ .closed →
        (breaker.outageStartTime = none → breaker.state = .closed) →
          Exact now breaker breaker.tryHalfOpen) := by
  refine ⟨.frame began CircuitBreakerState.noConfusion rfl rfl, ?_⟩
  intro notClosed ongoing
  exact ⟨rfl, fun none => absurd (ongoing none) notClosed⟩

/-- The timer of `trip`. -/
theorem Accounts.tripElapsed (began : Began now breaker) :
    Accounts now breaker breaker.tripElapsed ∧
      ((breaker.outageStartTime = none → breaker.state = .closed) →
        Exact now breaker breaker.tripElapsed) := by
  unfold CircuitBreaker.tripElapsed
  by_cases isOpen : breaker.state = .open
  · rw [if_pos isOpen]
    obtain ⟨accounts, exact⟩ := Accounts.tryHalfOpen began
    exact ⟨accounts, exact (by simp [isOpen])⟩
  · rw [if_neg isOpen]
    exact ⟨.frame began id rfl rfl, fun ongoing => ⟨rfl, ongoing⟩⟩

/-- `reset` forgets the outage going on. -/
theorem Accounts.reset (began : Began now breaker) :
    Accounts now breaker breaker.reset := by
  refine ⟨⟨fun _ => rfl, ?_⟩, Int.le_refl _, ?_⟩
  · exact fun _ member => absurd member (Option.not_mem_none _)
  · change breaker.totalDowntimeMs + 0 ≤ downtime now breaker
    unfold downtime
    cases going : breaker.outageStartTime with
    | none => exact Int.le_refl _
    | some start =>
        exact Int.add_le_add_left
          (Int.sub_nonneg_of_le (began.past start going)) _

end Fields

section Steps

variable {options : CircuitBreaker.Options}

/-- A resumed call. -/
theorem Resumes.accounts
    {now : Int}
    {shared after : Shared}
    {call next : Call}
    {action : Act}
    (resumes : Resumes options now shared call action after next)
    (began : Began now shared.breaker) :
    Accounts now shared.breaker after.breaker ∧
      ((LetsThrough options call action →
          shared.breaker.state ≠ .closed) →
        (shared.breaker.outageStartTime = none →
          shared.breaker.state = .closed) →
        Exact now shared.breaker after.breaker) := by
  cases resumes with
  | awake =>
      exact ⟨.frame began id rfl rfl, fun _ ongoing => ⟨rfl, ongoing⟩⟩
  | through lets =>
      obtain ⟨accounts, exact⟩ := Accounts.tryHalfOpen began
      exact ⟨accounts, fun inTime => exact (inTime lets)⟩
  | unhealthy =>
      exact ⟨.frame began id rfl rfl, fun _ ongoing => ⟨rfl, ongoing⟩⟩
  | fulfilled =>
      obtain ⟨accounts, exact⟩ := Accounts.succeeded began
      exact ⟨accounts, fun _ => exact⟩
  | rejected =>
      obtain ⟨accounts, exact⟩ := Accounts.failed began _
      exact ⟨accounts, fun _ => exact⟩

/-- A new call. -/
theorem Executes.accounts
    {now : Int}
    {shared after : Shared}
    {call : Call}
    (executes : Executes options now shared after call)
    (began : Began now shared.breaker) :
    Accounts now shared.breaker after.breaker ∧
      ((shared.breaker.outageStartTime = none →
          shared.breaker.state = .closed) →
        Exact now shared.breaker after.breaker) := by
  cases executes with
  | sleeps =>
      exact ⟨.frame began id rfl rfl, fun ongoing => ⟨rfl, ongoing⟩⟩
  | probes =>
      exact ⟨.frame began id rfl rfl, fun ongoing => ⟨rfl, ongoing⟩⟩
  | through isOpen =>
      obtain ⟨accounts, exact⟩ := Accounts.tryHalfOpen began
      exact ⟨accounts, exact (by simp [isOpen])⟩
  | starts =>
      exact ⟨.frame began id rfl rfl, fun ongoing => ⟨rfl, ongoing⟩⟩

/-- What happens outside. -/
theorem Happens.accounts
    {now : Int}
    {shared after : Shared}
    {calls later : List Call}
    {event : Env}
    (happens : Happens options now shared calls event after later)
    (began : Began now shared.breaker) :
    Accounts now shared.breaker after.breaker ∧
      (¬ Resets (.env event) →
        (shared.breaker.outageStartTime = none →
          shared.breaker.state = .closed) →
        Exact now shared.breaker after.breaker) := by
  cases happens with
  | execute executes =>
      obtain ⟨accounts, exact⟩ := executes.accounts began
      exact ⟨accounts, fun _ => exact⟩
  | trip =>
      refine And.imp_right (fun exact _ _ => exact) ?_
      exact Accounts.opened began rfl rfl rfl
  | reset =>
      exact ⟨.reset began, fun recorded => absurd trivial recorded⟩
  | elapsed =>
      obtain ⟨accounts, exact⟩ := Accounts.tripElapsed began
      exact ⟨accounts, fun _ => exact⟩

/-- An outage goes on while time passes. -/
theorem downtime_later
    (now : Int)
    (elapsed : Nat)
    (breaker : CircuitBreaker) :
    downtime (now + elapsed) breaker =
      downtime now breaker +
        if breaker.outageStartTime = none then 0 else elapsed := by
  unfold downtime
  cases breaker.outageStartTime with
  | none => simp
  | some start =>
      simp only [Option.elim_some, reduceCtorEq, if_false]
      ring

/-- Every opening is counted as a trip, and nothing else is. -/
def Shared.Counted (shared : Shared) : Prop :=
  shared.breaker.totalTrips = shared.openings

/-- A call lets itself through. -/
theorem Shared.Counted.start
    {shared : Shared}
    (counted : shared.Counted)
    (now : Int)
    (breaker : CircuitBreaker)
    (same : breaker.totalTrips = shared.breaker.totalTrips) :
    (shared.start now breaker).1.Counted := by
  have unopened : (shared.start now breaker).1.openings = shared.openings := by
    simp [Shared.openings, Shared.start, Entry.isOpening]
  exact (same.trans counted).trans unopened.symm

/-- The operation of a call is fulfilled. -/
theorem Shared.Counted.fulfil
    {shared : Shared}
    (counted : shared.Counted)
    (now : Int)
    (operation : Nat) :
    (shared.fulfil options now operation).Counted := by
  have same :
      (shared.breaker.succeeded options now).totalTrips =
        shared.breaker.totalTrips := by
    unfold CircuitBreaker.succeeded
    split
    case h_1 =>
        dsimp only
        split <;> rfl
    case h_2 => rfl
    case h_3 => rfl
  have unopened :
      (shared.fulfil options now operation).openings = shared.openings := by
    simp only [Shared.openings, Shared.fulfil]
    split <;> simp [Entry.isOpening]
  exact (same.trans counted).trans unopened.symm

/-- The operation of a call is rejected. -/
theorem Shared.Counted.reject
    {shared : Shared}
    (counted : shared.Counted)
    (now : Int)
    (jitter operation : Nat) :
    (shared.reject options now jitter operation).Counted := by
  by_cases trips : Trips options shared.breaker
  · have more :
        (shared.breaker.failed options now jitter).totalTrips =
          shared.breaker.totalTrips + 1 := by
      simp only [CircuitBreaker.failed]
      rw [if_pos (show _ ∨ _ from trips)]
      rfl
    have opened :
        (shared.reject options now jitter operation).openings =
          shared.openings + 1 := by
      simp [Shared.openings, Shared.reject, trips, List.countP_cons,
        Entry.isOpening]
    exact (more.trans (congrArg (· + 1) counted)).trans opened.symm
  · have same :
        (shared.breaker.failed options now jitter).totalTrips =
          shared.breaker.totalTrips := by
      simp only [CircuitBreaker.failed]
      rw [if_neg (show ¬ (_ ∨ _) from trips)]
    have unopened :
        (shared.reject options now jitter operation).openings =
          shared.openings := by
      simp [Shared.openings, Shared.reject, trips, Entry.isOpening]
    exact (same.trans counted).trans unopened.symm

/-- Every step keeps the count. -/
theorem Shared.Counted.step
    {before after : World}
    {event : Event}
    (counted : before.shared.Counted)
    (taken : (machine options).step before event = some after) :
    after.shared.Counted := by
  cases event with
  | act index action =>
      obtain ⟨call, shared, next, spawned, found, moved, rfl⟩ :=
        TaskMachine.step_act taken
      cases (act_spec moved).2 with
      | awake => exact counted
      | through => exact counted.start _ _ rfl
      | unhealthy => exact counted
      | fulfilled => exact counted.fulfil _ _
      | rejected => exact counted.reject _ _ _
  | env event =>
      obtain ⟨shared, calls, moved, rfl⟩ := TaskMachine.step_env taken
      cases env_spec moved with
      | execute executes =>
          cases executes with
          | sleeps => exact counted
          | probes => exact counted
          | through => exact counted.start _ _ rfl
          | starts => exact counted.start _ _ rfl
      | @trip durationMs jitter =>
          have opened :
              (before.shared.trip options before.context durationMs
                  jitter).openings =
                before.shared.openings + 1 := by
            simp [Shared.openings, Shared.trip, List.countP_cons,
              Entry.isOpening]
          exact (congrArg (· + 1) counted).trans opened.symm
      | reset =>
          have unopened :
              before.shared.reset.openings = before.shared.openings := by
            simp [Shared.openings, Shared.reset, Entry.isOpening]
          exact counted.trans unopened.symm
      | @elapsed timer =>
          have same :
              before.shared.breaker.tripElapsed.totalTrips =
                before.shared.breaker.totalTrips := by
            simp only [CircuitBreaker.tripElapsed]
            split <;> rfl
          have unopened :
              (before.shared.elapse timer).openings = before.shared.openings := by
            simp [Shared.openings, Shared.elapse]
          exact (same.trans counted).trans unopened.symm
  | change elapsed =>
      obtain ⟨now, _, rfl⟩ := TaskMachine.step_change taken
      exact counted

/-- A step on the fields, at the instant it is taken. -/
theorem accounts_step
    {before after : World}
    {event : Event}
    (began : Began before.context before.shared.breaker)
    (taken : (machine options).step before event = some after) :
    (∃ elapsed,
      event = .change elapsed ∧
        after = { before with context := before.context + elapsed }) ∨
      after.context = before.context ∧
        away before event = 0 ∧
        Accounts before.context before.shared.breaker
          after.shared.breaker ∧
        (Recorded options before event →
          (before.shared.breaker.outageStartTime = none →
            before.shared.breaker.state = .closed) →
          Exact before.context before.shared.breaker
            after.shared.breaker) := by
  cases event with
  | act index action =>
      obtain ⟨call, shared, next, spawned, found, moved, rfl⟩ :=
        TaskMachine.step_act taken
      obtain ⟨accounts, exact⟩ := (act_spec moved).2.accounts began
      exact .inr ⟨rfl, rfl, accounts,
        fun recorded => exact (recorded.1 call found)⟩
  | env event =>
      obtain ⟨shared, calls, moved, rfl⟩ := TaskMachine.step_env taken
      obtain ⟨accounts, exact⟩ := (env_spec moved).accounts began
      exact .inr ⟨rfl, rfl, accounts, fun recorded => exact recorded.2⟩
  | change elapsed =>
      obtain ⟨now, changed, rfl⟩ := TaskMachine.step_change taken
      cases changed
      exact .inl ⟨elapsed, rfl, rfl⟩

/--
What holds of the downtime of a breaker that is in use since that instant and
has been away for that time.
-/
structure Bounded (start : Int) (paid : Nat) (world : World) : Prop where
  within : start + paid ≤ world.context
  began : Began world.context world.shared.breaker
  recorded : 0 ≤ world.shared.breaker.totalDowntimeMs
  covered : downtime world.context world.shared.breaker ≤ paid

/-- Every step keeps the bound. -/
theorem Bounded.step
    {start : Int}
    {paid : Nat}
    {before after : World}
    {event : Event}
    (bounded : Bounded start paid before)
    (taken : (machine options).step before event = some after) :
    Bounded start (paid + away before event) after ∧
      before.shared.breaker.totalDowntimeMs ≤
        after.shared.breaker.totalDowntimeMs := by
  obtain ⟨within, began, recorded, covered⟩ := bounded
  obtain ⟨elapsed, rfl, rfl⟩ | ⟨instant, still, accounts, -⟩ :=
    accounts_step began taken
  · refine ⟨⟨?_, ⟨began.closed, fun start member => ?_⟩, recorded, ?_⟩,
      Int.le_refl _⟩
    · have passes : away before (.change elapsed) ≤ elapsed := by
        unfold away
        dsimp only
        split
        · exact Nat.zero_le elapsed
        · exact Nat.le_refl elapsed
      rw [Nat.cast_add, ← Int.add_assoc]
      exact Int.add_le_add within (Int.ofNat_le.mpr passes)
    · exact (began.past start member).trans
        (Int.le_add_of_nonneg_right (Int.natCast_nonneg elapsed))
    · rw [downtime_later, Nat.cast_add]
      refine Int.add_le_add covered ?_
      by_cases closed : before.shared.breaker.state = .closed
      · simp only [away, if_pos closed, if_pos (began.closed closed)]
        exact Int.le_refl 0
      · simp only [away, if_neg closed]
        split
        · exact Int.natCast_nonneg elapsed
        · exact Int.le_refl _
  · rw [still, Nat.add_zero]
    refine ⟨⟨instant ▸ within, ?_, recorded.trans accounts.grows, ?_⟩, accounts.grows⟩
    · exact instant ▸ accounts.began
    · rw [instant]
      exact accounts.covered.trans covered

/-- The downtime of a breaker none of whose outages went unrecorded. -/
structure Balanced (paid : Nat) (world : World) : Prop where
  began : Began world.context world.shared.breaker
  ongoing :
    world.shared.breaker.outageStartTime = none →
      world.shared.breaker.state = .closed
  balance : downtime world.context world.shared.breaker = paid

/-- Every step that forgets nothing keeps the balance. -/
theorem Balanced.step
    {paid : Nat}
    {before after : World}
    {event : Event}
    (balanced : Balanced paid before)
    (recorded : Recorded options before event)
    (taken : (machine options).step before event = some after) :
    Balanced (paid + away before event) after := by
  obtain ⟨began, ongoing, balance⟩ := balanced
  obtain ⟨elapsed, rfl, rfl⟩ | ⟨instant, still, accounts, exact⟩ :=
    accounts_step began taken
  · refine ⟨⟨began.closed, fun start member => ?_⟩, ongoing, ?_⟩
    · exact (began.past start member).trans
        (Int.le_add_of_nonneg_right (Int.natCast_nonneg elapsed))
    · rw [downtime_later, balance, Nat.cast_add]
      have same :
          before.shared.breaker.outageStartTime = none ↔
            before.shared.breaker.state = .closed :=
        ⟨ongoing, began.closed⟩
      simp only [away, same]
  · have kept := exact recorded ongoing
    rw [still, Nat.add_zero]
    refine ⟨instant ▸ accounts.began, kept.ongoing, ?_⟩
    rw [instant]
    exact kept.same.trans balance

end Steps

section Runs

variable {options : CircuitBreaker.Options}

/-- A new breaker has no downtime. -/
theorem Bounded.start (now : Int) : Bounded now 0 (initial now) where
  within := Int.le_of_eq (Int.add_zero now)
  began := .fresh
  recorded := Int.le_refl 0
  covered := Int.le_refl 0

/-- Nothing of it has gone unrecorded. -/
theorem Balanced.start (now : Int) : Balanced 0 (initial now) where
  began := .fresh
  ongoing _ := rfl
  balance := rfl

/-- The bound holds in every run. -/
theorem Bounded.run
    {now : Int}
    {events : List Event}
    {reached : World}
    (run :
      Run (machine options).step (fun _ _ => True) (initial now) events
        reached) :
    Bounded now (timeAway options (initial now) events) reached := by
  have bounded :=
    run.spend away (Bounded now)
      (fun bounded _ taken => (bounded.step taken).1)
      (Bounded.start now)
  rwa [Nat.zero_add] at bounded

/-- The balance holds in every run that forgets nothing. -/
theorem Balanced.run
    {now : Int}
    {events : List Event}
    {reached : World}
    (run :
      Run (machine options).step (Recorded options) (initial now) events
        reached) :
    Balanced (timeAway options (initial now) events) reached := by
  have balanced :=
    run.spend away Balanced
      (fun balanced recorded taken => balanced.step recorded taken)
      (Balanced.start now)
  rwa [Nat.zero_add] at balanced

/--
In every run the trips are the openings; the downtime on record never shrinks,
and together with the outage going on it is at most the time the breaker has
been away from `CLOSED`, itself at most the age of the breaker.  Unless `reset`
or a late caller comes in, it is exactly that time.
-/
theorem downtime_accounted
    {now : Int}
    {events : List Event}
    {reached : World}
    (run :
      Run (machine options).step (fun _ _ => True) (initial now) events
        reached) :
    reached.shared.breaker.totalTrips = reached.shared.openings ∧
      0 ≤ reached.shared.breaker.totalDowntimeMs ∧
      downtime reached.context reached.shared.breaker ≤
        timeAway options (initial now) events ∧
      now + timeAway options (initial now) events ≤ reached.context ∧
      (Run (machine options).step (Recorded options) (initial now) events
          reached →
        downtime reached.context reached.shared.breaker =
          timeAway options (initial now) events) ∧
      ∀ more later,
        Run (machine options).step (fun _ _ => True) reached more later →
        reached.shared.breaker.totalDowntimeMs ≤
          later.shared.breaker.totalDowntimeMs := by
  have bounded := Bounded.run run
  refine ⟨?_, bounded.recorded, bounded.covered, bounded.within,
    fun recorded => (Balanced.run recorded).balance, ?_⟩
  · exact run.invariant (fun world => world.shared.Counted)
      (fun counted _ taken => counted.step taken) rfl
  · intro more later continues
    apply continues.le_of_step_le
      (fun world => ∃ paid, Bounded now paid world)
      (fun world => world.shared.breaker.totalDowntimeMs)
    · exact fun ⟨paid, bounded⟩ _ taken => ⟨_, (bounded.step taken).1⟩
    · exact fun ⟨paid, bounded⟩ _ taken => (bounded.step taken).2
    · exact ⟨_, bounded⟩

/-- Two outages of 4000 ms each, the second one going on. -/
def sampleSecondOutage : List Event :=
  sampleHealing ++ [.change 1000, .env (.trip none 0), .change 4000]

/-- The first one is on record, and both are accounted for. -/
theorem downtime_accounted_secondOutage :
    ∃ reached,
      Run (machine bootstrapOptions).step (fun _ _ => True) (initial 0)
        sampleSecondOutage reached ∧
      reached.shared.breaker.totalDowntimeMs = 4000 ∧
      downtime reached.context reached.shared.breaker =
        timeAway bootstrapOptions (initial 0) sampleSecondOutage ∧
      timeAway bootstrapOptions (initial 0) sampleSecondOutage = 8000 := by
  obtain ⟨reached, recorded, total⟩ :
      ∃ reached,
        Run (machine bootstrapOptions).step (Recorded bootstrapOptions)
          (initial 0) sampleSecondOutage reached ∧
        reached.shared.breaker.totalDowntimeMs = 4000 :=
    Run.exists_of_replay _ (by decide +kernel)
  have run :
      Run (machine bootstrapOptions).step (fun _ _ => True) (initial 0)
        sampleSecondOutage reached :=
    recorded.mono fun _ => trivial
  obtain ⟨-, -, -, -, balanced, -⟩ := downtime_accounted run
  exact ⟨reached, run, total, balanced recorded, by decide +kernel⟩

end Runs

end Replication.BreakerCalls
