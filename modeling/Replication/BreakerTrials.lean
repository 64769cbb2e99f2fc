import Replication.BreakerStates

namespace Replication.BreakerCalls

/-!
# What closes a breaker

A half-open breaker counts the operations that are fulfilled, without asking
when they were started.  An operation that was running before the outage and is
fulfilled while the breaker is half-open counts as a trial.  Apart from such old
operations, a breaker closes on trials only.
-/

/-- The operation an entry starts. -/
def Entry.started? : Entry → Option Nat
  | .started operation _ => some operation
  | _ => none

/-- The operation an entry reports fulfilled. -/
def Entry.succeeded? : Entry → Option Nat
  | .succeeded operation => some operation
  | _ => none

/-- The operation an entry reports rejected. -/
def Entry.failed? : Entry → Option Nat
  | .failed operation => some operation
  | _ => none

/-- The log since the breaker last left `OPEN`. -/
def sinceLeftOpen (log : List Entry) : List Entry :=
  log.takeWhile fun entry => entry ≠ .leftOpen

/-- The operation was started since the breaker last left `OPEN`. -/
def Trial (log : List Entry) (operation : Nat) : Prop :=
  operation ∈ (sinceLeftOpen log).filterMap Entry.started?

instance (log : List Entry) : DecidablePred (Trial log) :=
  fun operation => inferInstanceAs (Decidable (operation ∈ _))

/--
The breaker has left `OPEN`, and since then that many different operations that
were started since then succeeded, with no failed one in between.
-/
def Trials (log : List Entry) (successes : Nat) : Prop :=
  Entry.leftOpen ∈ log ∧
    ∃ window rest,
      sinceLeftOpen log = window ++ rest ∧
      window.filterMap Entry.failed? = [] ∧
      (window.filterMap Entry.succeeded?).Nodup ∧
      successes ≤ (window.filterMap Entry.succeeded?).length ∧
      ∀ operation ∈ window.filterMap Entry.succeeded?,
        Trial log operation

/-- Whenever the breaker closed there had been enough trials. -/
def ClosesOnTrials (options : CircuitBreaker.Options) : List Entry → Prop
  | [] => True
  | .closed :: earlier =>
      Trials earlier options.halfOpenSuccessThreshold ∧
        ClosesOnTrials options earlier
  | _ :: earlier => ClosesOnTrials options earlier

/-- No old operation is fulfilled while the breaker is half-open. -/
def NoOldSuccess (world : World) : Event → Prop
  | .act index .fulfilled =>
      ∀ operation, world.tasks[index]? = some (.operating operation) →
        world.shared.breaker.state = .halfOpen →
        Trial world.shared.log operation
  | _ => True

instance (world : World) : DecidablePred (NoOldSuccess world)
  | .act index .fulfilled =>
      match found : world.tasks[index]? with
      | some (.operating operation) =>
          decidable_of_iff
            (world.shared.breaker.state = .halfOpen →
              Trial world.shared.log operation)
            ⟨fun old _ same => by
                rw [found] at same
                cases same
                exact old,
              fun all => all operation found⟩
      | some (.sleeping _ _) => isTrue fun _ same => by simp [found] at same
      | some (.probing _) => isTrue fun _ same => by simp [found] at same
      | some .settled => isTrue fun _ same => by simp [found] at same
      | none => isTrue fun _ same => by simp [found] at same
  | .act _ .wake => isTrue trivial
  | .act _ (.probed _ _) => isTrue trivial
  | .act _ (.rejected _) => isTrue trivial
  | .env _ => isTrue trivial
  | .change _ => isTrue trivial

/-! ### What the log says after a step -/

/-- The operations that have succeeded. -/
abbrev succeededIn (log : List Entry) : List Nat :=
  log.filterMap Entry.succeeded?

/-- No operation succeeds by leaving `OPEN`. -/
@[simp] theorem succeededIn_leaves
    (before after : CircuitBreaker)
    (log : List Entry) :
    succeededIn (leaves before after ++ log) = succeededIn log := by
  unfold leaves
  split <;> rfl

/-- Leaving `OPEN` is not closing. -/
@[simp] theorem closesOnTrials_leaves
    (options : CircuitBreaker.Options)
    (before after : CircuitBreaker)
    (log : List Entry) :
    ClosesOnTrials options (leaves before after ++ log) ↔
      ClosesOnTrials options log := by
  unfold leaves
  split <;> rfl

/-- What was started since stays so while the breaker does not leave `OPEN`. -/
theorem Trial.cons
    {log : List Entry}
    {operation : Nat}
    {entry : Entry}
    (trial : Trial log operation)
    (same : entry ≠ .leftOpen) :
    Trial (entry :: log) operation := by
  unfold Trial sinceLeftOpen at *
  rw [List.takeWhile_cons_of_pos (by simpa using same)]
  rw [List.filterMap_cons]
  split
  · exact trial
  · exact List.mem_cons_of_mem _ trial

/-- The trials so far, after an entry that reports nothing. -/
theorem Trials.cons
    {log : List Entry}
    {successes : Nat}
    {entry : Entry}
    (trials : Trials log successes)
    (same : entry ≠ .leftOpen)
    (noFailure : entry.failed? = none)
    (noSuccess : entry.succeeded? = none) :
    Trials (entry :: log) successes := by
  obtain ⟨left, window, rest, split, unfailed, nodup, enough, each⟩ :=
    trials
  refine ⟨List.mem_cons_of_mem _ left, entry :: window, rest, ?_⟩
  rw [List.filterMap_cons_none noFailure,
    List.filterMap_cons_none noSuccess]
  refine ⟨?_, unfailed, nodup, enough, ?_⟩
  · unfold sinceLeftOpen at *
    rw [List.takeWhile_cons_of_pos (by simpa using same), split]
    rfl
  · exact fun operation member => (each operation member).cons same

/-- One more trial has succeeded. -/
theorem Trials.succeeded
    {log : List Entry}
    {successes operation : Nat}
    (trials : Trials log successes)
    (trial : Trial log operation)
    (first : operation ∉ succeededIn log) :
    Trials (.succeeded operation :: log) (successes + 1) := by
  obtain ⟨left, window, rest, split, unfailed, nodup, enough, each⟩ :=
    trials
  have inside : window.Sublist log := by
    have prefix' : window.Sublist (sinceLeftOpen log) :=
      split ▸ List.sublist_append_left window rest
    exact prefix'.trans (List.takeWhile_sublist _)
  have new : operation ∉ window.filterMap Entry.succeeded? :=
    fun member => first ((inside.filterMap _).subset member)
  have counted :
      (.succeeded operation :: window).filterMap Entry.succeeded? =
        operation :: window.filterMap Entry.succeeded? := rfl
  refine ⟨List.mem_cons_of_mem _ left, .succeeded operation :: window,
    rest, ?_, ?_, ?_, ?_, ?_⟩
  · unfold sinceLeftOpen at *
    rw [List.takeWhile_cons_of_pos (by simp), split]
    rfl
  · rwa [List.filterMap_cons_none rfl]
  · rw [counted]
    exact List.nodup_cons.mpr ⟨new, nodup⟩
  · rw [counted, List.length_cons]
    exact Nat.succ_le_succ enough
  · rw [counted]
    intro other member
    rcases List.mem_cons.mp member with rfl | old
    · exact trial.cons (by simp)
    · exact (each other old).cons (by simp)

/-- Fewer trials. -/
theorem Trials.mono
    {log : List Entry}
    {fewer successes : Nat}
    (trials : Trials log successes)
    (order : fewer ≤ successes) :
    Trials log fewer := by
  obtain ⟨left, window, rest, split, unfailed, nodup, enough, each⟩ :=
    trials
  exact ⟨left, window, rest, split, unfailed, nodup,
    order.trans enough, each⟩

/-- A count that starts anew. -/
theorem Trials.zero
    {log : List Entry}
    (left : Entry.leftOpen ∈ log) :
    Trials log 0 :=
  ⟨left, [], sinceLeftOpen log, rfl, rfl, List.nodup_nil, le_rfl, nofun⟩

/-! ### Operations and their identifiers -/

/-- A running operation has its own identifier and has not succeeded. -/
structure Operations (shared : Shared) (calls : List Call) : Prop where
  single :
    ∀ operation,
      TaskMachine.AtMostOne (fun call => call = .operating operation) calls
  running :
    ∀ operation, .operating operation ∈ calls →
      operation < shared.operations ∧ operation ∉ succeededIn shared.log
  known :
    ∀ operation ∈ succeededIn shared.log, operation < shared.operations

section Operations

variable
  {shared after : Shared}
  {calls : List Call}
  {index : Nat}
  {call : Call}

/-- The next identifier belongs to no running operation. -/
theorem Operations.fresh (holds : Operations shared calls) :
    ∀ call ∈ calls, ¬ call = .operating shared.operations := by
  rintro _ member rfl
  exact Nat.lt_irrefl _ (holds.running _ member).1

/-- Steps that start nothing and report no success. -/
theorem Operations.keep
    (holds : Operations shared calls)
    (operations : after.operations = shared.operations)
    (succeeded : succeededIn after.log = succeededIn shared.log) :
    Operations after calls := by
  refine ⟨holds.single, ?_, ?_⟩
  · rw [operations, succeeded]
    exact holds.running
  · rw [operations, succeeded]
    exact holds.known

/-- A call that is resumed without starting an operation. -/
theorem Operations.set_idle
    {next : Call}
    (holds : Operations shared calls)
    (found : calls[index]? = some call)
    (idle : ∀ operation, next ≠ .operating operation) :
    Operations shared (calls.set index next) := by
  refine ⟨fun operation => ?_, fun operation member => ?_, holds.known⟩
  · exact (holds.single operation).set found
      fun same => absurd same (idle operation)
  · rcases List.mem_or_eq_of_mem_set member with old | same
    · exact holds.running operation old
    · exact absurd same.symm (idle operation)

/-- A new call that starts no operation. -/
theorem Operations.append_idle
    (holds : Operations shared calls)
    (idle : ∀ operation, call ≠ .operating operation) :
    Operations shared (calls ++ [call]) := by
  refine ⟨fun operation => ?_, fun operation member => ?_, holds.known⟩
  · refine (holds.single operation).append fun new member => ?_
    obtain rfl := List.mem_singleton.mp member
    exact idle operation
  · rcases List.mem_append.mp member with old | new
    · exact holds.running operation old
    · exact absurd (List.mem_singleton.mp new).symm (idle operation)

/-- A step that starts the next operation. -/
theorem Operations.start
    {later : List Call}
    (holds : Operations shared calls)
    (now : Int)
    (breaker : CircuitBreaker)
    (single :
      ∀ operation,
        TaskMachine.AtMostOne (fun call => call = .operating operation)
          later)
    (member :
      ∀ operation, .operating operation ∈ later →
        .operating operation ∈ calls ∨ operation = shared.operations) :
    Operations (shared.start now breaker).1 later := by
  have succeeded :
      succeededIn (shared.start now breaker).1.log =
        succeededIn shared.log :=
    (List.filterMap_cons_none rfl).trans (succeededIn_leaves _ _ _)
  refine ⟨single, fun operation inLater => ?_, fun operation old => ?_⟩
  · rw [succeeded]
    rcases member operation inLater with old | rfl
    · obtain ⟨bound, unfinished⟩ := holds.running operation old
      exact ⟨Nat.lt_succ_of_lt bound, unfinished⟩
    · refine ⟨Nat.lt_succ_self _, fun finished => ?_⟩
      exact Nat.lt_irrefl _ (holds.known _ finished)
  · rw [succeeded] at old
    exact Nat.lt_succ_of_lt (holds.known operation old)

/-- A suspended call starts its operation. -/
theorem Operations.set_start
    (holds : Operations shared calls)
    (found : calls[index]? = some call)
    (now : Int)
    (breaker : CircuitBreaker) :
    Operations (shared.start now breaker).1
      (calls.set index (.operating shared.operations)) := by
  refine holds.start now breaker (fun operation => ?_)
    fun operation member => ?_
  · by_cases same : operation = shared.operations
    · subst operation
      exact .set_of_none holds.fresh
    · refine (holds.single operation).set found fun starts => ?_
      cases starts
      exact absurd rfl same
  · rcases List.mem_or_eq_of_mem_set member with old | new
    · exact .inl old
    · cases new
      exact .inr rfl

/-- A new call starts its operation. -/
theorem Operations.append_start
    (holds : Operations shared calls)
    (now : Int)
    (breaker : CircuitBreaker) :
    Operations (shared.start now breaker).1
      (calls ++ [.operating shared.operations]) := by
  refine holds.start now breaker (fun operation => ?_)
    fun operation member => ?_
  · by_cases same : operation = shared.operations
    · subst operation
      exact .append_singleton holds.fresh
    · refine (holds.single operation).append fun call member starts => ?_
      obtain rfl := List.mem_singleton.mp member
      cases starts
      exact same rfl
  · rcases List.mem_append.mp member with old | new
    · exact .inl old
    · cases List.mem_singleton.mp new
      exact .inr rfl

/-- What succeeds with an operation. -/
theorem succeededIn_fulfil
    (options : CircuitBreaker.Options)
    (now : Int)
    (operation : Nat) :
    succeededIn (shared.fulfil options now operation).log =
      operation :: succeededIn shared.log := by
  unfold Shared.fulfil
  simp only [succeededIn]
  split <;> rfl

/-- Nothing succeeds with a rejected operation. -/
theorem succeededIn_reject
    (options : CircuitBreaker.Options)
    (now : Int)
    (jitter operation : Nat) :
    succeededIn (shared.reject options now jitter operation).log =
      succeededIn shared.log := by
  unfold Shared.reject
  simp only [succeededIn]
  split <;> rfl

/-- A running operation is fulfilled. -/
theorem Operations.fulfil
    {operation : Nat}
    (holds : Operations shared calls)
    (options : CircuitBreaker.Options)
    (now : Int)
    (found : calls[index]? = some (.operating operation)) :
    Operations (shared.fulfil options now operation)
      (calls.set index .settled) := by
  have settled : Operations shared (calls.set index .settled) :=
    holds.set_idle found nofun
  refine ⟨settled.single, fun other member => ?_, fun other => ?_⟩
  · obtain ⟨bound, unfinished⟩ := settled.running other member
    refine ⟨bound, ?_⟩
    rw [succeededIn_fulfil, List.mem_cons, not_or]
    refine ⟨?_, unfinished⟩
    rintro rfl
    have gone :
        ∀ call ∈ calls.set index .settled, ¬ call = .operating other :=
      (holds.single other).none_of_set found rfl nofun
    exact gone _ member rfl
  · rw [succeededIn_fulfil, List.mem_cons]
    rintro (rfl | old)
    · exact (holds.running other (List.mem_of_getElem? found)).1
    · exact holds.known other old

/-- Every step keeps the operations apart. -/
theorem Operations.step
    {options : CircuitBreaker.Options}
    {before after : World}
    {event : Event}
    (holds : Operations before.shared before.tasks)
    (taken : (machine options).step before event = some after) :
    Operations after.shared after.tasks := by
  cases event with
  | act index action =>
      obtain ⟨call, shared, next, spawned, found, moved, rfl⟩ :=
        TaskMachine.step_act taken
      obtain ⟨rfl, resumes⟩ := act_spec moved
      have settled :
          Operations before.shared (before.tasks.set index .settled) :=
        holds.set_idle found nofun
      simp only [List.append_nil]
      cases resumes with
      | awake => exact holds.set_idle found nofun
      | through => exact holds.set_start found before.context _
      | unhealthy => exact settled.keep rfl rfl
      | fulfilled => exact holds.fulfil options before.context found
      | rejected =>
          exact settled.keep rfl
            (succeededIn_reject options before.context _ _)
  | env event =>
      obtain ⟨shared, calls, moved, rfl⟩ := TaskMachine.step_env taken
      cases env_spec moved with
      | execute executes =>
          cases executes with
          | sleeps => exact holds.append_idle nofun
          | probes => exact holds.append_idle nofun
          | through => exact holds.append_start before.context _
          | starts => exact holds.append_start before.context _
      | trip => exact holds.keep rfl rfl
      | reset => exact holds.keep rfl (succeededIn_leaves _ _ _)
      | elapsed => exact holds.keep rfl (succeededIn_leaves _ _ _)
  | change elapsed =>
      obtain ⟨now, _, rfl⟩ := TaskMachine.step_change taken
      exact holds

end Operations

/-! ### The invariant -/

/-- The breaker is open or has left `OPEN` before. -/
def Shared.Entered (shared : Shared) : Prop :=
  shared.breaker.state = .open ∨ Entry.leftOpen ∈ shared.log

/-- A breaker that has been open stays one. -/
theorem Shared.Entered.mono
    {before after : Shared}
    (entered : before.Entered)
    (log :
      ∀ entry ∈ leaves before.breaker after.breaker ++ before.log,
        entry ∈ after.log) :
    after.Entered := by
  by_cases isOpen : after.breaker.state = .open
  · exact .inl isOpen
  · refine .inr (log _ (List.mem_append.mpr ?_))
    rcases entered with wasOpen | left
    · exact .inl (by simp [leaves, wasOpen, isOpen])
    · exact .inr left

/-- The breaker closes on trials, and counts trials only. -/
structure TrialLog
    (options : CircuitBreaker.Options)
    (shared : Shared) : Prop where
  closes : ClosesOnTrials options shared.log
  trials :
    shared.breaker.state = .halfOpen →
      Trials shared.log shared.breaker.consecutiveSuccesses

/-- A call that slept or probed has found the breaker open. -/
def Call.FoundOpen (shared : Shared) (call : Call) : Prop :=
  call.openings?.isSome = true → shared.Entered

section Trials

variable
  {options : CircuitBreaker.Options}
  {now : Int}
  {shared : Shared}

/-- A call is let through and half-opens the breaker. -/
theorem TrialLog.through
    (holds : TrialLog options shared)
    (entered : shared.Entered) :
    TrialLog options (shared.start now shared.breaker.tryHalfOpen).1 ∧
      (shared.start now shared.breaker.tryHalfOpen).1.Entered := by
  have later :
      (shared.start now shared.breaker.tryHalfOpen).1.Entered :=
    entered.mono fun entry member => List.mem_cons_of_mem _ member
  refine ⟨⟨?_, fun _ => .zero (later.resolve_left nofun)⟩, later⟩
  simpa [Shared.start, ClosesOnTrials] using holds.closes

/-- A call starts its operation without touching the breaker. -/
theorem TrialLog.start
    (holds : TrialLog options shared) :
    TrialLog options (shared.start now shared.breaker).1 := by
  have log :
      (shared.start now shared.breaker).1.log =
        .started shared.operations now :: shared.log := by
    simp [Shared.start, leaves]
  refine ⟨?_, fun halfOpen => ?_⟩
  · rw [log]
    exact holds.closes
  · rw [log]
    exact (holds.trials halfOpen).cons nofun rfl rfl

/-- An operation is fulfilled; while half-open, it is a trial. -/
theorem TrialLog.fulfil
    {operation : Nat}
    (holds : TrialLog options shared)
    (first : operation ∉ succeededIn shared.log)
    (trial :
      shared.breaker.state = .halfOpen → Trial shared.log operation) :
    TrialLog options (shared.fulfil options now operation) := by
  cases state : shared.breaker.state with
  | closed =>
      have unchanged :
          (shared.breaker.succeeded options now).state = .closed := by
        simp [CircuitBreaker.succeeded, state]
      refine ⟨?_, ?_⟩
      · simpa [Shared.fulfil, state, ClosesOnTrials] using holds.closes
      · simp [Shared.fulfil, unchanged]
  | «open» =>
      have unchanged :
          (shared.breaker.succeeded options now).state = .open := by
        simp [CircuitBreaker.succeeded, state]
      refine ⟨?_, ?_⟩
      · simpa [Shared.fulfil, state, ClosesOnTrials] using holds.closes
      · simp [Shared.fulfil, unchanged]
  | halfOpen =>
      have trials := (holds.trials state).succeeded (trial state) first
      by_cases enough :
          options.halfOpenSuccessThreshold ≤
            shared.breaker.consecutiveSuccesses + 1
      · have closed :
            (shared.breaker.succeeded options now).state = .closed := by
          simp [CircuitBreaker.succeeded, state, enough]
        refine ⟨?_, by simp [Shared.fulfil, closed]⟩
        simp only [Shared.fulfil, state, closed, and_self, if_true,
          List.cons_append, List.nil_append, ClosesOnTrials]
        exact ⟨trials.mono enough, holds.closes⟩
      · have counted :
            shared.breaker.succeeded options now =
              { shared.breaker with
                consecutiveSuccesses :=
                  shared.breaker.consecutiveSuccesses + 1 } := by
          simp [CircuitBreaker.succeeded, state, enough]
        refine ⟨?_, fun _ => ?_⟩
        · simpa [Shared.fulfil, counted, state, ClosesOnTrials]
            using holds.closes
        · simpa [Shared.fulfil, counted, state] using trials

/-- An operation is rejected; a half-open breaker opens. -/
theorem TrialLog.reject
    (holds : TrialLog options shared)
    (jitter operation : Nat) :
    TrialLog options (shared.reject options now jitter operation) := by
  by_cases trips : Trips options shared.breaker
  · have state :
        (shared.reject options now jitter operation).breaker.state =
          .open := by
      simp only [Shared.reject, CircuitBreaker.failed]
      rw [if_pos (show _ ∨ _ from trips)]
      rfl
    refine ⟨?_, by simp [state]⟩
    simpa [Shared.reject, trips, ClosesOnTrials] using holds.closes
  · have state :
        (shared.reject options now jitter operation).breaker.state =
          shared.breaker.state := by
      simp only [Shared.reject, CircuitBreaker.failed]
      rw [if_neg (show ¬ (_ ∨ _) from trips)]
    refine ⟨?_, fun halfOpen => ?_⟩
    · simpa [Shared.reject, trips, ClosesOnTrials] using holds.closes
    · exact absurd (.inl (state.symm.trans halfOpen)) trips

/-- The timer of `trip` half-opens an open breaker. -/
theorem TrialLog.elapse
    (holds : TrialLog options shared)
    (timer : Nat) :
    TrialLog options (shared.elapse timer) := by
  refine ⟨?_, fun halfOpen => ?_⟩
  · simpa [Shared.elapse] using holds.closes
  · by_cases isOpen : shared.breaker.state = .open
    · have elapsed :
          shared.breaker.tripElapsed = shared.breaker.tryHalfOpen := by
        simp [CircuitBreaker.tripElapsed, isOpen]
      simp only [Shared.elapse, elapsed]
      refine .zero ?_
      simp [leaves, isOpen, CircuitBreaker.tryHalfOpen]
    · have elapsed : shared.breaker.tripElapsed = shared.breaker := by
        simp [CircuitBreaker.tripElapsed, isOpen]
      simp only [Shared.elapse, elapsed] at halfOpen ⊢
      simpa [leaves] using holds.trials halfOpen

/-- An open breaker stays open when an operation settles. -/
theorem entered_fulfil
    (entered : shared.Entered)
    (operation : Nat) :
    (shared.fulfil options now operation).Entered := by
  rcases entered with isOpen | left
  · left
    simp [Shared.fulfil, CircuitBreaker.succeeded, isOpen]
  · right
    simp [Shared.fulfil, left]

/-- An open breaker stays open when an operation settles. -/
theorem entered_reject
    (entered : shared.Entered)
    (jitter operation : Nat) :
    (shared.reject options now jitter operation).Entered := by
  rcases entered with isOpen | left
  · left
    simp only [Shared.reject, CircuitBreaker.failed]
    split
    · rfl
    · exact isOpen
  · right
    simp [Shared.reject, left]

end Trials

/-! ### Steps and runs -/

section Steps

variable {options : CircuitBreaker.Options}

/-- A resumption that is not the success of an old operation. -/
theorem Resumes.trials
    {now : Int}
    {shared after : Shared}
    {call next : Call}
    {action : Act}
    (resumes : Resumes options now shared call action after next)
    (holds : TrialLog options shared)
    (foundOpen : call.FoundOpen shared)
    (fulfilled :
      ∀ operation,
        call = .operating operation → action = .fulfilled →
          operation ∉ succeededIn shared.log ∧
            (shared.breaker.state = .halfOpen →
              Trial shared.log operation)) :
    TrialLog options after ∧ next.FoundOpen after ∧
      (shared.Entered → after.Entered) := by
  cases resumes with
  | awake => exact ⟨holds, fun _ => foundOpen rfl, id⟩
  | through lets =>
      have entered : shared.Entered := by
        apply foundOpen
        cases call with
        | sleeping wakeAt openings => rfl
        | probing openings => rfl
        | operating operation => cases lets
        | settled => cases lets
      exact ⟨(holds.through entered).1, nofun,
        fun _ => (holds.through entered).2⟩
  | unhealthy => exact ⟨⟨holds.closes, holds.trials⟩, nofun, id⟩
  | @fulfilled operation =>
      obtain ⟨first, trial⟩ := fulfilled operation rfl rfl
      exact ⟨holds.fulfil first trial, nofun,
        fun entered => entered_fulfil entered operation⟩
  | rejected =>
      exact ⟨holds.reject _ _, nofun,
        fun entered => entered_reject entered _ _⟩

/-- A new call. -/
theorem Executes.trials
    {now : Int}
    {shared after : Shared}
    {call : Call}
    (executes : Executes options now shared after call)
    (holds : TrialLog options shared) :
    TrialLog options after ∧ call.FoundOpen after ∧
      (shared.Entered → after.Entered) := by
  cases executes with
  | sleeps isOpen => exact ⟨holds, fun _ => .inl isOpen, id⟩
  | probes isOpen => exact ⟨holds, fun _ => .inl isOpen, id⟩
  | through isOpen =>
      exact ⟨(holds.through (.inl isOpen)).1, nofun,
        fun entered => (holds.through entered).2⟩
  | starts =>
      exact ⟨holds.start, nofun, fun entered =>
        entered.mono fun entry member => List.mem_cons_of_mem _ member⟩

/-- A step of a world with distinct operations, and of no old success. -/
def Orderly (world : World) (event : Event) : Prop :=
  Operations world.shared world.tasks ∧ NoOldSuccess world event

/-- What the trials need to know about a world. -/
structure TrialInvariant
    (options : CircuitBreaker.Options)
    (world : World) : Prop where
  operations : Operations world.shared world.tasks
  trials :
    TaskMachine.Invariant (fun _ => TrialLog options)
      (fun _ => Call.FoundOpen) world

/-- Every step that is not the success of an old operation keeps it. -/
theorem TrialInvariant.step
    {before after : World}
    {event : Event}
    (holds : TrialInvariant options before)
    (noOld : NoOldSuccess before event)
    (taken : (machine options).step before event = some after) :
    TrialInvariant options after := by
  refine ⟨holds.operations.step taken, ?_⟩
  have admitted : Orderly before event := ⟨holds.operations, noOld⟩
  refine TaskMachine.Invariant.step ?_ ?_ ?_ holds.trials admitted taken
  · intro world index call action shared next spawned
      holds admitted found foundOpen moved
    obtain ⟨rfl, resumes⟩ := act_spec moved
    obtain ⟨trials, nextOpen, stays⟩ :=
      resumes.trials holds.global foundOpen fun operation same fulfils => by
        subst call action
        exact ⟨(admitted.1.running operation
            (List.mem_of_getElem? found)).2,
          admitted.2 operation found⟩
    exact ⟨trials, nextOpen, nofun,
      fun other old suspended => stays (old suspended)⟩
  · intro world event shared calls holds admitted moved
    cases env_spec moved with
    | execute executes =>
        obtain ⟨trials, newOpen, stays⟩ := executes.trials holds.global
        refine ⟨trials, fun call member => ?_⟩
        rcases List.mem_append.mp member with old | new
        · exact fun suspended => stays (holds.local_ call old suspended)
        · obtain rfl := List.mem_singleton.mp new
          exact newOpen
    | trip => exact ⟨⟨holds.global.closes, nofun⟩, fun _ _ _ => .inl rfl⟩
    | reset =>
        refine ⟨⟨?_, nofun⟩, fun call member suspended => ?_⟩
        · simpa [Shared.reset, ClosesOnTrials] using holds.global.closes
        · exact (holds.local_ call member suspended).mono
            fun entry old => List.mem_cons_of_mem _ old
    | elapsed =>
        refine ⟨holds.global.elapse _, fun call member suspended => ?_⟩
        exact (holds.local_ call member suspended).mono fun _ old => old
  · intro world elapsed now holds _ moved
    exact ⟨holds.global, holds.local_⟩

end Steps

/--
As long as no operation that was started before the breaker last left `OPEN` is
fulfilled while the breaker is half-open, the breaker closes on trials only,
whatever the order of the steps: enough different operations started since then
have succeeded, with no failed one in between.
-/
theorem closes_on_trials_of_no_old_success
    {options : CircuitBreaker.Options}
    {now : Int}
    {events : List Event}
    {reached : World}
    (run :
      Run (machine options).step NoOldSuccess
        (initial now) events reached) :
    ClosesOnTrials options reached.shared.log := by
  have holds : TrialInvariant options reached := by
    refine run.invariant (TrialInvariant options)
      (fun holds noOld taken => holds.step noOld taken)
      ⟨⟨fun _ => .of_none nofun, nofun, nofun⟩, ⟨⟨trivial, nofun⟩, nofun⟩⟩
  exact holds.trials.global.closes

/-- No old operation is among those that heal the breaker. -/
theorem closes_on_trials_of_no_old_success_sample :
    ∃ reached,
      Run (machine bootstrapOptions).step NoOldSuccess
        (initial 0) sampleHealing reached ∧
      reached.shared.log.head? = some .closed ∧
      ClosesOnTrials bootstrapOptions reached.shared.log := by
  obtain ⟨reached, run, closed⟩ :
      ∃ reached,
        Run (machine bootstrapOptions).step NoOldSuccess
          (initial 0) sampleHealing reached ∧
        reached.shared.log.head? = some .closed :=
    Run.exists_of_replay _ (by decide +kernel)
  exact ⟨reached, run, closed, closes_on_trials_of_no_old_success run⟩

/-- Trials are among the operations that succeeded since. -/
theorem Trials.le_length
    {log : List Entry}
    {successes : Nat}
    (trials : Trials log successes) :
    successes ≤
      ((succeededIn (sinceLeftOpen log)).filter (Trial log)).length := by
  obtain ⟨_, window, rest, split, _, _, enough, each⟩ := trials
  have kept :
      (window.filterMap Entry.succeeded?).filter (Trial log) =
        window.filterMap Entry.succeeded? :=
    List.filter_eq_self.mpr fun operation member =>
      decide_eq_true (each operation member)
  rw [← kept] at enough
  refine enough.trans (List.Sublist.length_le (.filter _ ?_))
  rw [split]
  exact (List.sublist_append_left window rest).filterMap _

/--
Operation 0 is started before the three that fail, and fulfilled when a trial
has half-opened the breaker; then the trial is fulfilled.
-/
def sampleOldSuccess : List Event :=
  [.env .execute, .env .execute, .act 1 (.rejected 0), .env .execute,
    .act 2 (.rejected 0), .env .execute, .act 3 (.rejected 0),
    .env .execute, .change 4000, .act 4 .wake, .act 4 (.probed true 0),
    .act 0 .fulfilled, .act 4 .fulfilled]

/-- The breaker closes after one trial of the two it needs. -/
theorem old_success_closes_breaker :
    ∃ reached,
      Run (machine bootstrapOptions).step (fun _ _ => True)
        (initial 0) sampleOldSuccess reached ∧
      ¬ ClosesOnTrials bootstrapOptions reached.shared.log := by
  obtain ⟨reached, run, earlier, log, few⟩ :
      ∃ reached,
        Run (machine bootstrapOptions).step (fun _ _ => True)
          (initial 0) sampleOldSuccess reached ∧
        ∃ earlier,
          reached.shared.log = .closed :: earlier ∧
          ((succeededIn (sinceLeftOpen earlier)).filter
            (Trial earlier)).length < 2 := by
    obtain ⟨reached, run, closed, few⟩ :
        ∃ reached,
          Run (machine bootstrapOptions).step (fun _ _ => True)
            (initial 0) sampleOldSuccess reached ∧
          reached.shared.log.head? = some .closed ∧
          ((succeededIn (sinceLeftOpen reached.shared.log.tail)).filter
            (Trial reached.shared.log.tail)).length < 2 :=
      Run.exists_of_replay _ (by decide +kernel)
    exact ⟨reached, run, _,
      (List.cons_head?_tail closed).symm, few⟩
  refine ⟨reached, run, fun closes => ?_⟩
  rw [log] at closes
  exact Nat.not_lt.mpr closes.1.le_length few

end Replication.BreakerCalls
