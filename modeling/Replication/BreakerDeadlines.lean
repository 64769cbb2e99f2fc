import Replication.BreakerStates

namespace Replication.BreakerCalls

/-!
# Deadlines of a breaker

Every event that opens the breaker sets `nextAttemptTime`, and until that time no
protected operation should start.  A call asleep and a timer only know the
opening they have seen: when the breaker is opened again meanwhile, they act on
the older time.  Calls and timers that are not overtaken in this way start
nothing early.
-/

/-- The time set by the last opening, unless reset or closed since. -/
def deadline : List Entry → Option Int
  | [] => none
  | .opened nextAttemptTime :: _ => nextAttemptTime
  | .closed :: _ => none
  | .reset :: _ => none
  | .leftOpen :: earlier => deadline earlier
  | .started _ _ :: earlier => deadline earlier
  | .succeeded _ :: earlier => deadline earlier
  | .failed _ :: earlier => deadline earlier

/-- Every operation was started at or after the deadline of that moment. -/
def Honoured : List Entry → Prop
  | [] => True
  | .started _ now :: earlier =>
      (∀ time ∈ deadline earlier, time ≤ now) ∧ Honoured earlier
  | _ :: earlier => Honoured earlier

instance decidableHonoured : DecidablePred Honoured
  | [] => isTrue trivial
  | .started _ now :: earlier =>
      @instDecidableAnd (∀ time ∈ deadline earlier, time ≤ now) _
        inferInstance (decidableHonoured earlier)
  | .opened _ :: earlier => decidableHonoured earlier
  | .leftOpen :: earlier => decidableHonoured earlier
  | .closed :: earlier => decidableHonoured earlier
  | .reset :: earlier => decidableHonoured earlier
  | .succeeded _ :: earlier => decidableHonoured earlier
  | .failed _ :: earlier => decidableHonoured earlier

/-- The breaker has not been opened since, or its deadline is over then. -/
def Shared.Current
    (shared : Shared)
    (openings : Nat)
    (time : Int) : Prop :=
  openings = shared.openings ∨ ∀ due ∈ deadline shared.log, due ≤ time

instance (shared : Shared) (openings : Nat) (time : Int) :
    Decidable (shared.Current openings time) :=
  inferInstanceAs (Decidable (_ ∨ _))

/-- A resumption is not that of an overtaken call before the deadline. -/
def InTime
    (options : CircuitBreaker.Options)
    (now : Int)
    (shared : Shared) : Call → Act → Prop
  | .sleeping _ openings, .wake =>
      options.hasHealthProbe = false → shared.Current openings now
  | .probing openings, .probed true _ => shared.Current openings now
  | .probing openings, .probed false jitter =>
      shared.Current openings
        (now + CircuitBreaker.calculateBackoffMs options jitter
          shared.breaker.consecutiveFailures)
  | _, _ => True

instance
    (options : CircuitBreaker.Options)
    (now : Int)
    (shared : Shared)
    (call : Call)
    (action : Act) :
    Decidable (InTime options now shared call action) :=
  match call, action with
  | .sleeping _ _, .wake => inferInstanceAs (Decidable (_ → _))
  | .sleeping _ _, .probed _ _ => isTrue trivial
  | .sleeping _ _, .fulfilled => isTrue trivial
  | .sleeping _ _, .rejected _ => isTrue trivial
  | .probing _, .wake => isTrue trivial
  | .probing _, .probed true _ =>
      inferInstanceAs (Decidable (Shared.Current _ _ _))
  | .probing _, .probed false _ =>
      inferInstanceAs (Decidable (Shared.Current _ _ _))
  | .probing _, .fulfilled => isTrue trivial
  | .probing _, .rejected _ => isTrue trivial
  | .operating _, _ => isTrue trivial
  | .settled, _ => isTrue trivial

/--
No call lets itself through, schedules the next attempt, or half-opens the open
breaker as a timer, before the deadline of an opening that has overtaken it.
-/
def NotOvertaken
    (options : CircuitBreaker.Options)
    (world : World) : Event → Prop
  | .act index action =>
      ∀ call ∈ world.tasks[index]?,
        InTime options world.context world.shared call action
  | .env (.elapsed timer) =>
      ∀ running ∈ world.shared.timers[timer]?,
        world.shared.breaker.state = .open →
          world.shared.Current running.openings world.context
  | _ => True

instance (options : CircuitBreaker.Options) (world : World) :
    DecidablePred (NotOvertaken options world)
  | .act index action =>
      inferInstanceAs
        (Decidable (∀ call ∈ world.tasks[index]?,
          InTime options world.context world.shared call action))
  | .env (.elapsed timer) =>
      inferInstanceAs
        (Decidable (∀ running ∈ world.shared.timers[timer]?,
          world.shared.breaker.state = .open →
            world.shared.Current running.openings world.context))
  | .env .execute => isTrue trivial
  | .env (.trip _ _) => isTrue trivial
  | .env .reset => isTrue trivial
  | .change _ => isTrue trivial

/-! ### What the log says after a step -/

/-- Leaving `OPEN` changes no deadline. -/
@[simp] theorem deadline_leaves
    (before after : CircuitBreaker)
    (log : List Entry) :
    deadline (leaves before after ++ log) = deadline log := by
  unfold leaves
  split <;> rfl

/-- Leaving `OPEN` starts nothing. -/
@[simp] theorem honoured_leaves
    (before after : CircuitBreaker)
    (log : List Entry) :
    Honoured (leaves before after ++ log) ↔ Honoured log := by
  unfold leaves
  split <;> rfl

/-- Leaving `OPEN` is no opening. -/
@[simp] theorem countP_leaves
    (before after : CircuitBreaker) :
    (leaves before after).countP Entry.isOpening = 0 := by
  unfold leaves
  split <;> rfl

/-- What was there before the opening is older, and deadlines only vanish. -/
structure Shared.Ages (before after : Shared) : Prop where
  openings : before.openings ≤ after.openings
  deadline :
    after.openings = before.openings →
      ∀ due ∈ deadline after.log, due ∈ deadline before.log

/-- Nothing has changed. -/
theorem Shared.Ages.of_eq
    {before after : Shared}
    (openings : after.openings = before.openings)
    (same : BreakerCalls.deadline after.log =
      BreakerCalls.deadline before.log) :
    before.Ages after :=
  ⟨openings.ge, fun _ _ member => same ▸ member⟩

/-- The deadline is over or given up. -/
theorem Shared.Ages.of_none
    {before after : Shared}
    (openings : after.openings = before.openings)
    (none : BreakerCalls.deadline after.log = none) :
    before.Ages after :=
  ⟨openings.ge, fun _ _ member => by simp [none] at member⟩

/-- The breaker has been opened again. -/
theorem Shared.Ages.of_opening
    {before after : Shared}
    (openings : after.openings = before.openings + 1) :
    before.Ages after :=
  ⟨openings.ge.trans' (Nat.le_succ _),
    fun same => absurd (openings.symm.trans same) (Nat.succ_ne_self _)⟩

/-- A time known since an opening is not before its deadline. -/
structure Shared.Knows
    (shared : Shared)
    (openings : Nat)
    (time : Int) : Prop where
  bound : openings ≤ shared.openings
  due :
    openings = shared.openings → ∀ due ∈ deadline shared.log, due ≤ time

/-- What is known stays true while the breaker ages. -/
theorem Shared.Knows.mono
    {before after : Shared}
    {openings : Nat}
    {time later : Int}
    (knows : before.Knows openings time)
    (ages : before.Ages after)
    (order : time ≤ later) :
    after.Knows openings later := by
  refine ⟨knows.bound.trans ages.openings, fun same due member => ?_⟩
  have unchanged : after.openings = before.openings :=
    le_antisymm (same ▸ knows.bound) ages.openings
  exact (knows.due (same.trans unchanged) due
    (ages.deadline unchanged due member)).trans order

/-- What is known and not overtaken is over. -/
theorem Shared.Knows.over
    {shared : Shared}
    {openings : Nat}
    {now : Int}
    (knows : shared.Knows openings now)
    (current : shared.Current openings now) :
    ∀ due ∈ deadline shared.log, due ≤ now :=
  current.elim knows.due id

/-! ### The invariant -/

/-- What the breaker and its timers know about the deadline. -/
structure Deadlines (now : Int) (shared : Shared) : Prop where
  honoured : Honoured shared.log
  isOpen :
    shared.breaker.state = .open →
      ∀ due ∈ deadline shared.log,
        ∃ time ∈ shared.breaker.nextAttemptTime, due ≤ time
  halfOpen :
    shared.breaker.state = .halfOpen →
      ∀ due ∈ deadline shared.log, due ≤ now
  closed :
    shared.breaker.state = .closed → deadline shared.log = none
  timers :
    ∀ timer ∈ shared.timers, shared.Knows timer.openings timer.dueAt

/-- What a suspended call knows about the deadline. -/
def Call.Waits (now : Int) (shared : Shared) : Call → Prop
  | .sleeping wakeAt openings => shared.Knows openings wakeAt
  | .probing openings => shared.Knows openings now
  | .operating _ => True
  | .settled => True

/-- A suspended call knows no less after a step of another one. -/
theorem Call.Waits.mono
    {now later : Int}
    {before after : Shared}
    {call : Call}
    (waits : call.Waits now before)
    (ages : before.Ages after)
    (order : now ≤ later) :
    call.Waits later after := by
  cases call with
  | sleeping wakeAt openings => exact Shared.Knows.mono waits ages le_rfl
  | probing openings => exact Shared.Knows.mono waits ages order
  | operating => exact trivial
  | settled => exact trivial

section Operations

variable
  {options : CircuitBreaker.Options}
  {now : Int}
  {shared : Shared}

/-- Starting an operation opens nothing. -/
theorem ages_start (breaker : CircuitBreaker) :
    shared.Ages (shared.start now breaker).1 :=
  .of_eq
    (by simp [Shared.openings, Shared.start, Entry.isOpening])
    (by simp [Shared.start, deadline])

/-- An operation starts when the deadline is over. -/
theorem Deadlines.start
    {breaker : CircuitBreaker}
    (holds : Deadlines now shared)
    (past : ∀ due ∈ deadline shared.log, due ≤ now)
    (notOpen : breaker.state ≠ .open)
    (closed : breaker.state = .closed → deadline shared.log = none) :
    Deadlines now (shared.start now breaker).1 := by
  have same :
      deadline (shared.start now breaker).1.log = deadline shared.log := by
    simp [Shared.start, deadline]
  refine ⟨?_, ?_, ?_, ?_, ?_⟩
  · simpa [Shared.start, Honoured] using ⟨past, holds.honoured⟩
  · exact fun isOpen => absurd isOpen notOpen
  · exact fun _ due member => past due (same ▸ member)
  · exact fun isClosed => same.trans (closed isClosed)
  · exact fun timer member =>
      (holds.timers timer member).mono (ages_start breaker) le_rfl

/-- A call is let through when the deadline is over. -/
theorem Deadlines.through
    (holds : Deadlines now shared)
    (past : ∀ due ∈ deadline shared.log, due ≤ now) :
    Deadlines now
      (shared.start now shared.breaker.tryHalfOpen).1 :=
  holds.start past nofun nofun

/-- A failed probe of a call that is not overtaken. -/
theorem Deadlines.unhealthy
    {jitter : Nat}
    (holds : Deadlines now shared)
    (past : ∀ due ∈ deadline shared.log,
      due ≤ now + CircuitBreaker.calculateBackoffMs options jitter
        shared.breaker.consecutiveFailures) :
    Deadlines now
      { shared with
        breaker := shared.breaker.probeFailed options now jitter } :=
  ⟨holds.honoured, fun _ due member => ⟨_, rfl, past due member⟩,
    holds.halfOpen, holds.closed, fun timer member =>
      (holds.timers timer member).mono (.of_eq rfl rfl) le_rfl⟩

/-- A fulfilled operation opens nothing. -/
theorem ages_fulfil (operation : Nat) :
    shared.Ages (shared.fulfil options now operation) := by
  by_cases closes :
      shared.breaker.state = .halfOpen ∧
        (shared.breaker.succeeded options now).state = .closed
  · exact .of_none
      (by simp [Shared.openings, Shared.fulfil, closes, Entry.isOpening])
      (by simp [Shared.fulfil, closes, deadline])
  · exact .of_eq
      (by simp [Shared.openings, Shared.fulfil, closes, Entry.isOpening])
      (by simp [Shared.fulfil, closes, deadline])

/-- A fulfilled operation closes a half-open breaker or leaves the state. -/
theorem state_succeeded
    (options : CircuitBreaker.Options)
    (breaker : CircuitBreaker)
    (now : Int) :
    breaker.state = .halfOpen ∧
        (breaker.succeeded options now).state = .closed ∨
      (breaker.succeeded options now).state = breaker.state ∧
        (breaker.succeeded options now).nextAttemptTime =
          breaker.nextAttemptTime := by
  cases state : breaker.state with
  | closed => simp [CircuitBreaker.succeeded, state]
  | «open» => simp [CircuitBreaker.succeeded, state]
  | halfOpen =>
      by_cases enough :
          options.halfOpenSuccessThreshold ≤
            breaker.consecutiveSuccesses + 1
      · simp [CircuitBreaker.succeeded, state, enough]
      · simp [CircuitBreaker.succeeded, state, enough]

/-- A fulfilled operation. -/
theorem Deadlines.fulfil
    (holds : Deadlines now shared)
    (operation : Nat) :
    Deadlines now (shared.fulfil options now operation) := by
  have timers :
      ∀ timer ∈ (shared.fulfil options now operation).timers,
        (shared.fulfil options now operation).Knows
          timer.openings timer.dueAt :=
    fun timer member =>
      (holds.timers timer member).mono (ages_fulfil operation) le_rfl
  by_cases closes :
      shared.breaker.state = .halfOpen ∧
        (shared.breaker.succeeded options now).state = .closed
  · have none :
        deadline (shared.fulfil options now operation).log = none := by
      simp [Shared.fulfil, closes, deadline]
    refine ⟨?_, ?_, ?_, fun _ => none, timers⟩
    · simpa [Shared.fulfil, closes, Honoured] using holds.honoured
    · simp [none]
    · simp [none]
  · obtain ⟨state, next⟩ :=
      (state_succeeded options shared.breaker now).resolve_left closes
    have same :
        deadline (shared.fulfil options now operation).log =
          deadline shared.log := by
      simp [Shared.fulfil, closes, deadline]
    refine ⟨?_, ?_, ?_, ?_, timers⟩
    · simpa [Shared.fulfil, closes, Honoured] using holds.honoured
    · rw [same]
      intro isOpen due member
      obtain ⟨time, found, order⟩ :=
        holds.isOpen (state.symm.trans isOpen) due member
      exact ⟨time, next.trans found, order⟩
    · rw [same]
      exact fun halfOpen => holds.halfOpen (state.symm.trans halfOpen)
    · rw [same]
      exact fun closed => holds.closed (state.symm.trans closed)

/-- A rejected operation opens the breaker or leaves it as it is. -/
theorem ages_reject (jitter operation : Nat) :
    shared.Ages (shared.reject options now jitter operation) := by
  by_cases trips : Trips options shared.breaker
  · exact .of_opening
      (by simp [Shared.openings, Shared.reject, trips, List.countP_cons,
        Entry.isOpening])
  · exact .of_eq
      (by simp [Shared.openings, Shared.reject, trips, Entry.isOpening])
      (by simp [Shared.reject, trips, deadline])

/-- A rejected operation. -/
theorem Deadlines.reject
    (holds : Deadlines now shared)
    (jitter operation : Nat) :
    Deadlines now (shared.reject options now jitter operation) := by
  have timers :
      ∀ timer ∈ (shared.reject options now jitter operation).timers,
        (shared.reject options now jitter operation).Knows
          timer.openings timer.dueAt :=
    fun timer member =>
      (holds.timers timer member).mono (ages_reject jitter operation)
        le_rfl
  by_cases trips : Trips options shared.breaker
  · have state :
        (shared.reject options now jitter operation).breaker.state =
          .open := by
      simp only [Shared.reject, CircuitBreaker.failed]
      rw [if_pos (show _ ∨ _ from trips)]
      rfl
    have opened :
        deadline (shared.reject options now jitter operation).log =
          (shared.reject options now jitter
            operation).breaker.nextAttemptTime := by
      simp [Shared.reject, trips, deadline]
    refine ⟨?_, ?_, by simp [state], by simp [state], timers⟩
    · simpa [Shared.reject, trips, Honoured] using holds.honoured
    · exact fun _ due member => ⟨due, opened ▸ member, le_rfl⟩
  · have same :
        deadline (shared.reject options now jitter operation).log =
          deadline shared.log := by
      simp [Shared.reject, trips, deadline]
    have fields :
        (shared.reject options now jitter operation).breaker.state =
            shared.breaker.state ∧
          (shared.reject options now jitter
            operation).breaker.nextAttemptTime =
            shared.breaker.nextAttemptTime := by
      simp only [Shared.reject, CircuitBreaker.failed]
      rw [if_neg (show ¬ (_ ∨ _) from trips)]
      exact ⟨rfl, rfl⟩
    refine ⟨?_, ?_, ?_, ?_, timers⟩
    · simpa [Shared.reject, trips, Honoured] using holds.honoured
    · rw [same, fields.1, fields.2]
      exact holds.isOpen
    · rw [same, fields.1]
      exact holds.halfOpen
    · rw [same, fields.1]
      exact holds.closed

/-- `trip` opens the breaker. -/
theorem ages_trip
    (durationMs : Option Int)
    (jitter : Nat) :
    shared.Ages (shared.trip options now durationMs jitter) :=
  .of_opening
    (by simp [Shared.openings, Shared.trip, List.countP_cons,
      Entry.isOpening])

/-- `trip`: its timer runs at the deadline. -/
theorem Deadlines.trip
    (holds : Deadlines now shared)
    (durationMs : Option Int)
    (jitter : Nat) :
    Deadlines now (shared.trip options now durationMs jitter) := by
  refine ⟨holds.honoured, ?_, nofun, nofun, ?_⟩
  · exact fun _ due member => ⟨due, member, le_rfl⟩
  · intro timer member
    rcases List.mem_append.mp member with old | new
    · exact (holds.timers timer old).mono
        (ages_trip durationMs jitter) le_rfl
    · have openings :
          (shared.trip options now durationMs jitter).openings =
            shared.openings + 1 := by
        simp [Shared.openings, Shared.trip, List.countP_cons,
          Entry.isOpening]
      split at new
      · rename_i duration
        split at new
        · obtain rfl := List.mem_singleton.mp new
          refine ⟨openings.ge, fun _ due atDeadline => ?_⟩
          obtain rfl : now + duration = due :=
            Option.some.inj atDeadline
          exact le_rfl
        · cases new
      · cases new

/-- `reset` gives the deadline up. -/
theorem ages_reset : shared.Ages shared.reset :=
  .of_none
    (by simp [Shared.openings, Shared.reset, Entry.isOpening])
    (by simp [Shared.reset, deadline])

/-- `reset`. -/
theorem Deadlines.reset (holds : Deadlines now shared) :
    Deadlines now shared.reset := by
  refine ⟨?_, nofun, nofun, fun _ => rfl, ?_⟩
  · simpa [Shared.reset, Honoured] using holds.honoured
  · exact fun timer member =>
      (holds.timers timer member).mono ages_reset le_rfl

/-- A timer opens nothing. -/
theorem ages_elapse (timer : Nat) : shared.Ages (shared.elapse timer) :=
  .of_eq (by simp [Shared.openings, Shared.elapse])
    (by simp [Shared.elapse])

/-- A timer half-opens an open breaker when the deadline is over. -/
theorem Deadlines.elapse
    (holds : Deadlines now shared)
    (timer : Nat)
    (past :
      shared.breaker.state = .open →
        ∀ due ∈ deadline shared.log, due ≤ now) :
    Deadlines now (shared.elapse timer) := by
  have same :
      deadline (shared.elapse timer).log = deadline shared.log := by
    simp [Shared.elapse]
  have honoured : Honoured (shared.elapse timer).log := by
    simpa [Shared.elapse] using holds.honoured
  have timers :
      ∀ running ∈ (shared.elapse timer).timers,
        (shared.elapse timer).Knows running.openings running.dueAt :=
    fun running member =>
      (holds.timers running (List.mem_of_mem_eraseIdx member)).mono
        (ages_elapse timer) le_rfl
  by_cases isOpen : shared.breaker.state = .open
  · have state : (shared.elapse timer).breaker.state = .halfOpen := by
      simp [Shared.elapse, CircuitBreaker.tripElapsed, isOpen,
        CircuitBreaker.tryHalfOpen]
    refine ⟨honoured, by simp [state], fun _ => ?_, by simp [state],
      timers⟩
    rw [same]
    exact past isOpen
  · have unchanged : (shared.elapse timer).breaker = shared.breaker := by
      simp [Shared.elapse, CircuitBreaker.tripElapsed, isOpen]
    refine ⟨honoured, ?_, ?_, ?_, timers⟩
    · rw [same, unchanged]
      exact holds.isOpen
    · rw [same, unchanged]
      exact holds.halfOpen
    · rw [same, unchanged]
      exact holds.closed

/-- Time passes. -/
theorem Deadlines.mono
    {later : Int}
    (holds : Deadlines now shared)
    (order : now ≤ later) :
    Deadlines later shared :=
  ⟨holds.honoured, holds.isOpen,
    fun halfOpen due member =>
      (holds.halfOpen halfOpen due member).trans order,
    holds.closed, holds.timers⟩

end Operations

/-! ### Steps and runs -/

section Steps

variable {options : CircuitBreaker.Options}

/-- The invariant of the breaker and its calls. -/
abbrev DeadlineInvariant : World → Prop :=
  TaskMachine.Invariant Deadlines Call.Waits

/-- A resumption in time. -/
theorem Resumes.deadlines
    {now : Int}
    {shared after : Shared}
    {call next : Call}
    {action : Act}
    (resumes : Resumes options now shared call action after next)
    (holds : Deadlines now shared)
    (waits : call.Waits now shared)
    (inTime : InTime options now shared call action) :
    Deadlines now after ∧ next.Waits now after ∧ shared.Ages after := by
  have same : shared.Ages shared := .of_eq rfl rfl
  cases resumes with
  | awake elapsed probes =>
      exact ⟨holds, Shared.Knows.mono waits same elapsed, same⟩
  | through lets elapsed =>
      refine ⟨holds.through ?_, trivial, ages_start _⟩
      cases call with
      | sleeping wakeAt openings =>
          cases action with
          | wake =>
              exact (Shared.Knows.mono waits same
                (elapsed wakeAt openings rfl)).over (inTime lets)
          | probed => cases lets
          | fulfilled => cases lets
          | rejected => cases lets
      | probing openings =>
          cases action with
          | probed healthy jitter =>
              obtain rfl : healthy = true := lets
              exact Shared.Knows.over waits inTime
          | wake => cases lets
          | fulfilled => cases lets
          | rejected => cases lets
      | operating => cases lets
      | settled => cases lets
  | @unhealthy openings jitter =>
      refine ⟨holds.unhealthy ?_, trivial, .of_eq rfl rfl⟩
      have later :
          now ≤ now + CircuitBreaker.calculateBackoffMs options jitter
            shared.breaker.consecutiveFailures := by
        omega
      exact (Shared.Knows.mono waits same later).over inTime
  | fulfilled =>
      exact ⟨holds.fulfil _, trivial, ages_fulfil _⟩
  | rejected =>
      exact ⟨holds.reject _ _, trivial, ages_reject _ _⟩

/-- A new call. -/
theorem Executes.deadlines
    {now : Int}
    {shared after : Shared}
    {call : Call}
    (executes : Executes options now shared after call)
    (holds : Deadlines now shared) :
    Deadlines now after ∧ call.Waits now after ∧ shared.Ages after := by
  have same : shared.Ages shared := .of_eq rfl rfl
  have past
      (isOpen : shared.breaker.state = .open)
      {time : Int}
      (next : ∀ at' ∈ shared.breaker.nextAttemptTime, at' ≤ time) :
      ∀ due ∈ deadline shared.log, due ≤ time := by
    intro due member
    obtain ⟨scheduled, found, order⟩ := holds.isOpen isOpen due member
    exact order.trans (next scheduled found)
  cases executes with
  | @sleeps time isOpen next early =>
      refine ⟨holds, ⟨le_rfl, fun _ due member => ?_⟩, same⟩
      have order : due ≤ time := past isOpen (by simp [next]) due member
      omega
  | probes isOpen due =>
      exact ⟨holds, ⟨le_rfl, fun _ => past isOpen due⟩, same⟩
  | through isOpen due =>
      exact ⟨holds.through (past isOpen due), trivial, ages_start _⟩
  | starts notOpen =>
      refine ⟨holds.start ?_ notOpen holds.closed, trivial,
        ages_start _⟩
      cases state : shared.breaker.state with
      | closed => simp [holds.closed state]
      | «open» => exact absurd state notOpen
      | halfOpen => exact holds.halfOpen state

/-- Every step that is not that of an overtaken call keeps the deadlines. -/
theorem DeadlineInvariant.step
    {before after : World}
    {event : Event}
    (holds : DeadlineInvariant before)
    (inTime : NotOvertaken options before event)
    (taken : (machine options).step before event = some after) :
    DeadlineInvariant after := by
  refine TaskMachine.Invariant.step ?_ ?_ ?_ holds inTime taken
  · intro world index call action shared next spawned
      holds admitted found waits moved
    obtain ⟨rfl, resumes⟩ := act_spec moved
    obtain ⟨deadlines, nextWaits, ages⟩ :=
      resumes.deadlines holds.global waits (admitted call found)
    exact ⟨deadlines, nextWaits, nofun,
      fun other old => old.mono ages le_rfl⟩
  · intro world event shared calls holds admitted moved
    cases env_spec moved with
    | execute executes =>
        obtain ⟨deadlines, newWaits, ages⟩ :=
          executes.deadlines holds.global
        refine ⟨deadlines, fun call member => ?_⟩
        rcases List.mem_append.mp member with old | new
        · exact (holds.local_ call old).mono ages le_rfl
        · obtain rfl := List.mem_singleton.mp new
          exact newWaits
    | trip =>
        exact ⟨holds.global.trip _ _, fun call member =>
          (holds.local_ call member).mono (ages_trip _ _) le_rfl⟩
    | reset =>
        exact ⟨holds.global.reset, fun call member =>
          (holds.local_ call member).mono ages_reset le_rfl⟩
    | @elapsed timer running found due =>
        refine ⟨holds.global.elapse timer fun isOpen => ?_,
          fun call member =>
            (holds.local_ call member).mono (ages_elapse _) le_rfl⟩
        have known :=
          holds.global.timers running (List.mem_of_getElem? found)
        exact (known.mono (.of_eq rfl rfl) due).over
          (admitted running found isOpen)
  · intro world elapsed now holds _ moved
    cases moved
    have order : world.context ≤ world.context + elapsed := by omega
    exact ⟨holds.global.mono order, fun call member =>
      (holds.local_ call member).mono (.of_eq rfl rfl) order⟩

end Steps

/--
As long as no call or timer that a later opening has overtaken lets an operation
through, half-opens the breaker or schedules the next attempt before the deadline
of that opening, every operation is started at or after the deadline, whatever
the order of the steps.
-/
theorem deadlines_honoured_of_not_overtaken
    {options : CircuitBreaker.Options}
    {now : Int}
    {events : List Event}
    {reached : World}
    (run :
      Run (machine options).step (NotOvertaken options)
        (initial now) events reached) :
    Honoured reached.shared.log := by
  have holds : DeadlineInvariant reached := by
    refine run.invariant DeadlineInvariant
      (fun holds inTime taken => holds.step inTime taken) ⟨?_, nofun⟩
    exact ⟨trivial, nofun, nofun, fun _ => rfl, nofun⟩
  exact holds.global.honoured

/-- Three failures, then a call that sleeps until 4000 and probes. -/
def sampleSleeper : List Event :=
  sampleOutage ++
    [.env .execute, .change 4000, .act 3 .wake, .act 3 (.probed true 0)]

/-- That call has not been overtaken, and starts its operation at 4000. -/
theorem deadlines_honoured_of_not_overtaken_sample :
    ∃ reached,
      Run (machine bootstrapOptions).step (NotOvertaken bootstrapOptions)
        (initial 0) sampleSleeper reached ∧
      reached.shared.log.head? = some (.started 3 4000) ∧
      Honoured reached.shared.log := by
  obtain ⟨reached, run, started⟩ :
      ∃ reached,
        Run (machine bootstrapOptions).step (NotOvertaken bootstrapOptions)
          (initial 0) sampleSleeper reached ∧
        reached.shared.log.head? = some (.started 3 4000) :=
    Run.exists_of_replay _ (by decide +kernel)
  exact ⟨reached, run, started, deadlines_honoured_of_not_overtaken run⟩

/--
An outage of 1000 ms is simulated, and at 500 one of 60000 ms; the sink itself
is healthy.
-/
def sampleLongerOutage : List Event :=
  [.env (.trip (some 1000) 0), .env .execute, .change 500,
    .env (.trip (some 60000) 0), .change 500, .act 0 .wake,
    .act 0 (.probed true 0)]

/-- The call asleep since the first outage starts its operation at 1000. -/
theorem sleeper_starts_within_later_outage :
    ∃ reached,
      Run (machine bootstrapOptions).step (fun _ _ => True)
        (initial 0) sampleLongerOutage reached ∧
      ¬ Honoured reached.shared.log :=
  Run.exists_of_replay _ (by decide +kernel)

end Replication.BreakerCalls
