import Replication.ConsumerSupervision

namespace Replication.EventConsumerService

/-!
# Attempts, timers and delays

A reconnect timer, an attempt to start and a running consumer exclude each other
in every run, whatever the broker and the client library do.  The delays that
are scheduled in a run are read off its steps, and the attempt counter is the
number of those since the last success.
-/

/-- The attempt in progress, the pending timer and the running consumer. -/
structure Exclusion (world : World) : Prop where
  single : TaskMachine.AtMostOne Call.InProgress world.tasks
  attempt :
    ∀ call ∈ world.tasks, call.InProgress →
      world.shared.service.reconnectTimer = none ∧
        world.shared.service.isRunning = false
  timer :
    world.shared.service.reconnectTimer ≠ none →
      world.shared.service.isRunning = false

/-! ### The delays of a run -/

/-- The delay of the timer that a step has set. -/
def scheduled (before after : EventConsumerService) : Option Delay :=
  if before.reconnectTimer.isSome then none else after.reconnectTimer

/-- `start` returns to the `attemptStart` that has called it. -/
def Call.succeeds : Call → Bool
  | .declaring _ .consume (.fulfilled _) => true
  | _ => false

/--
`attemptStart` records a success.  It does so without an await when the consumer
is already running.
-/
def recordsSuccess (world : World) : Event → Bool
  | .act index (.resume _) => world.tasks[index]?.any Call.succeeds
  | .env .timerFires =>
      !world.shared.service.stopping && world.shared.service.isRunning
  | _ => false

/-- The delays since the last success, after one more step. -/
def observe
    (before after : World)
    (event : Event)
    (delays : List Delay) : List Delay :=
  if recordsSuccess before event then
    []
  else
    delays ++ (scheduled before.shared.service after.shared.service).toList

/--
The delays scheduled since `attemptStart` last recorded a success, or since the
first event, in the order in which they were scheduled.
-/
def delaysSince
    (options : Options)
    (world : World)
    (delays : List Delay) : List Event → List Delay
  | [] => delays
  | event :: rest =>
      match (machine options).step world event with
      | some after =>
          delaysSince options after (observe world after event delays) rest
      | none => delays

/-- Each delay whose cap is a number lies between half its cap and its cap. -/
def Bounded (options : Options) (delays : List Delay) : Prop :=
  ∀ (n cap : Nat) (delay : Delay),
    delays[n]? = some delay →
      backoffCap options n = some cap →
      ∃ ms, delay = some ms ∧ cap ≤ 2 * ms ∧ ms ≤ cap

/-! ### One delay -/

section Delay

variable (cap : Nat) (random : RandomValue)

/-- The random share is at most the other half. -/
theorem jitter_le : jitter cap random ≤ cap := by
  have half : (0 : Rat) ≤ cap / 2 := by positivity
  have share : random.value * (cap / 2) ≤ cap / 2 :=
    mul_le_of_le_one_left half random.lt_one.le
  have floor :
      ((cap : Rat) / 2 + random.value * (cap / 2) + 1 / 2).floor <
        (cap : Int) + 1 := by
    rw [Rat.floor_lt_iff]
    push_cast
    linarith
  rw [jitter, Int.toNat_le]
  omega

/-- Half of the cap is not random. -/
theorem le_two_mul_jitter : cap ≤ 2 * jitter cap random := by
  have half : (0 : Rat) ≤ cap / 2 := by positivity
  have share : 0 ≤ random.value * (cap / 2) :=
    mul_nonneg random.nonneg half
  have rounds : 2 * ((cap + 1) / 2) ≤ cap + 1 :=
    Nat.mul_div_le (cap + 1) 2
  have roundsCast : 2 * (((cap + 1) / 2 : Nat) : Rat) ≤ cap + 1 := by
    exact_mod_cast rounds
  have floor :
      (((cap + 1) / 2 : Nat) : Int) ≤
        ((cap : Rat) / 2 + random.value * (cap / 2) + 1 / 2).floor := by
    rw [Rat.le_floor_iff, Int.cast_natCast]
    linarith
  rw [jitter]
  omega

end Delay

/-- No delay has been scheduled. -/
theorem Bounded.nil {options : Options} : Bounded options [] := by
  intro n cap delay found
  rw [List.getElem?_nil] at found
  cases found

/-- The next delay is bounded by the cap of its number. -/
theorem Bounded.append
    {options : Options}
    {delays : List Delay}
    {random : RandomValue}
    (bounded : Bounded options delays) :
    Bounded options
      (delays ++
        [delayMs (backoffCap options delays.length) random]) := by
  intro n cap delay found isCap
  by_cases old : n < delays.length
  · rw [List.getElem?_append_left old] at found
    exact bounded n cap delay found isCap
  · rw [List.getElem?_append_right (Nat.le_of_not_lt old)] at found
    obtain ⟨first, same⟩ := List.getElem?_eq_some_iff.mp found
    rw [List.length_singleton] at first
    obtain rfl : n = delays.length := by omega
    rw [List.getElem_singleton] at same
    subst delay
    rw [isCap]
    exact ⟨jitter cap random, rfl, le_two_mul_jitter .., jitter_le ..⟩

/-! ### Exclusion -/

/-- A timer that is pending has no running consumer beside it. -/
def Separate (shared : Shared) : Prop :=
  shared.service.reconnectTimer ≠ none → shared.service.isRunning = false

/-- What an attempt in progress has beside it. -/
structure Alone (shared : Shared) : Prop where
  noTimer : shared.service.reconnectTimer = none
  notRunning : shared.service.isRunning = false

section Shared

variable
  {options : Options}
  {random : RandomValue}
  {shared after : Shared}
  {call next : Call}

/-- The service keeps its fields. -/
theorem Separate.of_service
    (separate : Separate shared)
    (same : after.service = shared.service) :
    Separate after := by
  rw [Separate, same]
  exact separate

/-- The service keeps its fields. -/
theorem Alone.of_service
    (alone : Alone shared)
    (same : after.service = shared.service) :
    Alone after :=
  ⟨by rw [same, alone.noTimer], by rw [same, alone.notRunning]⟩

/-- A step that neither starts the service nor sets a timer. -/
theorem Separate.frame
    (separate : Separate shared)
    (frame : Frame shared after) :
    Separate after := by
  intro pending
  rw [frame.reconnectTimer] at pending
  exact frame.notRunning (separate pending)

/-- A step that neither starts the service nor sets a timer. -/
theorem Alone.frame
    (alone : Alone shared)
    (frame : Frame shared after) :
    Alone after :=
  ⟨frame.reconnectTimer.trans alone.noTimer,
    frame.notRunning alone.notRunning⟩

/-- `scheduleReconnect` does not start the service. -/
theorem Separate.of_scheduled
    (notRunning : shared.service.isRunning = false) :
    Separate (shared.scheduleReconnect options random) :=
  fun _ => (isRunning_scheduleReconnect ..).trans notRunning

/-- An attempt goes on, or ends in a timer or a running consumer. -/
theorem Resume.alone
    (resumes : Resume options random shared call after next)
    (inProgress : call.InProgress)
    (alone : Alone shared) :
    Separate after ∧ (next.InProgress → Alone after) := by
  cases resumes with
  | connected id =>
      exact ⟨fun _ => alone.notRunning,
        fun _ => ⟨alone.noTimer, alone.notRunning⟩⟩
  | refused => exact ⟨.of_scheduled rfl, False.elim⟩
  | @declared id operation next follows =>
      have same :
          (shared.declared id operation).service.reconnectTimer = none ∧
            (shared.declared id operation).service.isRunning = false := by
        cases operation <;> exact ⟨alone.noTimer, alone.notRunning⟩
      exact ⟨fun _ => same.2, fun _ => ⟨same.1, same.2⟩⟩
  | consumes id =>
      exact ⟨fun pending => (pending alone.noTimer).elim, False.elim⟩
  | failed id operation =>
      have released := alone.frame (Shared.frame_release shared id)
      exact ⟨fun _ => released.notRunning, fun _ => released⟩
  | released id done =>
      exact ⟨.of_scheduled alone.notRunning, False.elim⟩
  | _ => exact inProgress.elim

end Shared

/-- What every state of a run keeps. -/
abbrev Excludes : World → Prop :=
  TaskMachine.ExclusiveInvariant Call.InProgress
    (fun _ => Separate) (fun _ shared _ => Alone shared)

section Steps

variable
  {options : Options}
  {world : World}

/-- The first attempt has nothing beside it. -/
theorem Excludes.initial : Excludes runSupervised := by
  refine ⟨fun pending => (pending rfl).elim, ?_, ?_⟩
  · change TaskMachine.AtMostOne Call.InProgress ([] ++ [_])
    exact .append_singleton fun _ member => absurd member List.not_mem_nil
  · exact fun _ _ _ => ⟨rfl, rfl⟩

/-- No attempt is in progress beside a timer or a running consumer. -/
theorem Excludes.idle
    (holds : Excludes world)
    (busy :
      world.shared.service.reconnectTimer ≠ none ∨
        world.shared.service.isRunning = true) :
    ∀ call ∈ world.tasks, ¬ call.InProgress := by
  intro call member inProgress
  have alone := holds.local_ call member inProgress
  rcases busy with pending | running
  · exact pending alone.noTimer
  · rw [alone.notRunning] at running
    cases running

/-- An event that changes no field of the service. -/
theorem Excludes.of_service
    {shared : Shared}
    (holds : Excludes world)
    (same : shared.service = world.shared.service) :
    Excludes { world with shared } :=
  ⟨holds.global.of_service same, holds.atMostOne,
    fun call member inProgress =>
      (holds.local_ call member inProgress).of_service same⟩

/-- The timer runs out and starts an attempt, unless `stop` has been called. -/
theorem Excludes.timerFires
    (holds : Excludes world)
    (pending : world.shared.service.reconnectTimer ≠ none) :
    Excludes
      { world with
        shared := world.shared.timerFires.1
        tasks := world.tasks ++ world.shared.timerFires.2 } := by
  have notRunning := holds.global pending
  have idle := holds.idle (.inl pending)
  by_cases stopping : world.shared.service.stopping = true
  · simp only [Shared.timerFires, Shared.attemptStart, stopping, if_true,
      List.append_nil]
    exact ⟨fun _ => notRunning, .of_none idle,
      fun call member inProgress => (idle call member inProgress).elim⟩
  · simp only [Shared.timerFires, Shared.attemptStart, stopping, notRunning,
      Bool.false_eq_true, if_false]
    exact ⟨fun _ => rfl, .append_singleton idle, fun _ _ _ => ⟨rfl, rfl⟩⟩

/-- `stop` clears the timer. -/
theorem Excludes.stop
    (holds : Excludes world) :
    Excludes
      { world with
        shared := world.shared.stop.1
        tasks := world.tasks ++ [world.shared.stop.2] } := by
  have frame := Shared.frame_stop world.shared
  have idle := Shared.not_inProgress_stop world.shared
  refine ⟨fun pending => (pending frame.reconnectTimer).elim, ?_, ?_⟩
  · refine holds.atMostOne.append fun call new => ?_
    obtain rfl := List.mem_singleton.mp new
    exact idle
  · intro call member inProgress
    rcases List.mem_append.mp member with old | new
    · have alone := holds.local_ call old inProgress
      exact ⟨frame.reconnectTimer, frame.notRunning alone.notRunning⟩
    · obtain rfl := List.mem_singleton.mp new
      exact (idle inProgress).elim

/-- A connection closes: only a running consumer sets the timer. -/
theorem Excludes.closes
    {id : Nat}
    {random : RandomValue}
    (holds : Excludes world) :
    Excludes
      { world with
        shared :=
          EventConsumerService.closes options random world.shared id } := by
  rcases closes_cases options random world.shared id with
    ⟨_, running, _, same⟩ | ⟨_, _, same⟩ | ⟨_, same⟩
  · have idle := holds.idle (.inr running)
    rw [same]
    exact ⟨.of_scheduled rfl, holds.atMostOne,
      fun call member inProgress => (idle call member inProgress).elim⟩
  · rw [same]
    exact ⟨fun _ => rfl, holds.atMostOne,
      fun call member inProgress =>
        ⟨(holds.local_ call member inProgress).noTimer, rfl⟩⟩
  · rw [same]
    exact holds.of_service rfl

/-- What happens outside the calls. -/
theorem Excludes.env
    {event : Env}
    {shared : Shared}
    {calls : List Call}
    (holds : Excludes world)
    (moved :
      EventConsumerService.env options world.shared world.tasks event =
        some (shared, calls)) :
    Excludes { world with shared, tasks := calls } := by
  cases event with
  | timerFires =>
      simp only [EventConsumerService.env] at moved
      split at moved
      · rename_i pending
        cases moved
        exact holds.timerFires (Option.isSome_iff_ne_none.mp pending)
      · cases moved
  | stop =>
      cases moved
      exact holds.stop
  | connectionClosed id random =>
      cases moved
      exact holds.closes
  | channelClosed id =>
      cases moved
      exact holds.of_service rfl
  | consumerCancelled id =>
      cases moved
      exact holds.of_service rfl

/-- Every step keeps the exclusion. -/
theorem Excludes.step
    {after : World}
    {event : Event}
    (holds : Excludes world)
    (taken : (machine options).step world event = some after) :
    Excludes after := by
  refine @TaskMachine.ExclusiveInvariant.step _ _ _ _ _ _ (machine options)
    (fun _ _ => True) _ _ _ ?_ ?_ ?_ ?_ _ _ _ holds trivial taken
  · intro world index call action shared next spawned
      attempts _ _ inProgress alone moved
    obtain ⟨rfl, ⟨fulfilled, rfl, settles⟩ | ⟨random, rfl, resumes⟩⟩ :=
      machine_act_spec moved
    · exact ⟨attempts.global.of_service settles.service,
        fun _ => alone.of_service settles.service, by simp⟩
    · obtain ⟨separate, nextAlone⟩ := resumes.alone inProgress alone
      exact ⟨separate, nextAlone, by simp⟩
  · intro world index call action shared next spawned
      attempts _ _ idle moved
    obtain ⟨rfl, ⟨fulfilled, rfl, settles⟩ | ⟨random, rfl, resumes⟩⟩ :=
      machine_act_spec moved
    · have stops := settles.stops (settles.stops_of_idle idle)
      exact ⟨attempts.global.of_service settles.service,
        stops.not_inProgress, by simp,
        fun _ _ alone => alone.of_service settles.service⟩
    · obtain ⟨frame, stillIdle⟩ :=
        resumes.frame_of_stops (resumes.stops_of_idle idle)
      exact ⟨attempts.global.frame frame, stillIdle, by simp,
        fun _ _ alone => alone.frame frame⟩
  · intro world event shared calls attempts _ moved
    exact Excludes.env attempts moved
  · intro world change
    cases change

/-- At most one of the three. -/
theorem Excludes.exclusion
    (holds : Excludes world) :
    Exclusion world where
  single := holds.atMostOne
  attempt call member inProgress :=
    have alone := holds.local_ call member inProgress
    ⟨alone.noTimer, alone.notRunning⟩
  timer := holds.global

end Steps

/-! ### The attempt counter -/

/-- What a step does that records no success. -/
inductive Counts
    (options : Options)
    (before after : EventConsumerService) : Prop where
  | same
      (attempts : after.reconnectAttempts = before.reconnectAttempts)
      (noDelay : scheduled before after = none)
  | next
      (random : RandomValue)
      (attempts : after.reconnectAttempts = before.reconnectAttempts + 1)
      (delay :
        scheduled before after =
          some
            (delayMs (backoffCap options before.reconnectAttempts) random))

section Counter

variable
  {options : Options}
  {random : RandomValue}
  {before after : EventConsumerService}

/-- Neither the counter nor the timer changes. -/
theorem Counts.of_same
    (attempts : after.reconnectAttempts = before.reconnectAttempts)
    (timer : after.reconnectTimer = before.reconnectTimer) :
    Counts options before after := by
  refine .same attempts ?_
  unfold scheduled
  split
  · rfl
  · rename_i pending
    rw [timer]
    simpa using pending

/-- The timer is cleared. -/
theorem Counts.of_cleared
    (attempts : after.reconnectAttempts = before.reconnectAttempts)
    (timer : after.reconnectTimer = none) :
    Counts options before after := by
  refine .same attempts ?_
  unfold scheduled
  split
  · rfl
  · exact timer

/-- `scheduleReconnect` counts the delay it sets. -/
theorem Counts.scheduleReconnect
    (attempts : after.reconnectAttempts = before.reconnectAttempts)
    (timer : after.reconnectTimer = before.reconnectTimer) :
    Counts options before (after.scheduleReconnect options random) := by
  unfold EventConsumerService.scheduleReconnect
  split
  · exact .of_same attempts timer
  · rename_i schedules
    simp only [Bool.or_eq_true, not_or] at schedules
    refine .next random ?_ ?_
    · simp only [attempts]
    · rw [scheduled, if_neg (timer ▸ schedules.2), attempts]

end Counter

section Shared

variable
  {options : Options}
  {random : RandomValue}
  (shared : Shared)
  (id : Nat)

/-- `stop` does not touch the counter. -/
theorem reconnectAttempts_stopConnection :
    shared.stopConnection.1.service.reconnectAttempts =
      shared.service.reconnectAttempts := by
  unfold Shared.stopConnection
  split
  · simp only [Shared.service_closeConnection]
  · rfl

/-- `stop` does not touch the counter. -/
theorem reconnectAttempts_stopChannel :
    shared.stopChannel.1.service.reconnectAttempts =
      shared.service.reconnectAttempts := by
  unfold Shared.stopChannel
  split
  · simp only [Shared.service_closeChannel]
  · exact reconnectAttempts_stopConnection shared

/-- `stop` does not touch the counter. -/
theorem reconnectAttempts_stop :
    shared.stop.1.service.reconnectAttempts =
      shared.service.reconnectAttempts := by
  unfold Shared.stop
  split
  · rfl
  · exact reconnectAttempts_stopChannel shared.halt

/-- The `catch` of `start` does not touch the counter. -/
theorem reconnectAttempts_release :
    (shared.release id).1.service.reconnectAttempts =
      shared.service.reconnectAttempts := by
  simp only [Shared.release, Shared.service_closeConnection]
  rfl

variable {shared} {after : Shared} {call next : Call}

/-- What a resumption does with the counter. -/
theorem Resume.counts
    (resumes : Resume options random shared call after next) :
    (call.succeeds = true ∧ after.service.reconnectAttempts = 0) ∨
      (call.succeeds = false ∧
        Counts options shared.service after.service) := by
  cases resumes with
  | connected id => exact .inr ⟨rfl, .of_same rfl rfl⟩
  | refused => exact .inr ⟨rfl, .scheduleReconnect rfl rfl⟩
  | @declared id operation next follows =>
      cases operation with
      | consume => cases follows
      | _ => exact .inr ⟨rfl, .of_same rfl rfl⟩
  | consumes id => exact .inl ⟨rfl, rfl⟩
  | failed id operation =>
      refine .inr ⟨by cases operation <;> rfl, .of_same ?_ ?_⟩
      · exact reconnectAttempts_release shared id
      · exact (Shared.frame_release shared id).reconnectTimer
  | released id done => exact .inr ⟨rfl, .scheduleReconnect rfl rfl⟩
  | cancelled id done =>
      refine .inr ⟨rfl, .of_same ?_ ?_⟩
      · exact reconnectAttempts_stopChannel shared
      · exact (Shared.frame_stopChannel shared).reconnectTimer
  | channelClosed id done =>
      refine .inr ⟨rfl, .of_same ?_ ?_⟩
      · exact reconnectAttempts_stopConnection shared
      · exact (Shared.frame_stopConnection shared).reconnectTimer
  | closed id done => exact .inr ⟨rfl, .of_same rfl rfl⟩

end Shared

section Events

variable
  {options : Options}
  {world after : World}

/-- What an outside event does with the counter. -/
theorem env_counts
    {event : Env}
    {shared : Shared}
    {calls : List Call}
    (moved :
      env options world.shared world.tasks event = some (shared, calls)) :
    (recordsSuccess world (.env event) = true ∧
        shared.service.reconnectAttempts = 0) ∨
      (recordsSuccess world (.env event) = false ∧
        Counts options world.shared.service shared.service) := by
  cases event with
  | timerFires =>
      simp only [env] at moved
      split at moved
      · cases moved
        simp only [recordsSuccess, Shared.timerFires, Shared.attemptStart]
        split
        · rename_i stopping
          exact .inr ⟨by simp only [stopping]; rfl, .of_cleared rfl rfl⟩
        · rename_i notStopping
          split
          · rename_i running
            refine .inl ⟨?_, rfl⟩
            simpa [running] using notStopping
          · rename_i notRunning
            refine .inr ⟨?_, .of_cleared rfl rfl⟩
            simp only [notRunning, Bool.and_false]
      · cases moved
  | stop =>
      cases moved
      refine .inr ⟨rfl, .of_cleared ?_ ?_⟩
      · exact reconnectAttempts_stop world.shared
      · exact (Shared.frame_stop world.shared).reconnectTimer
  | connectionClosed id random =>
      cases moved
      refine .inr ⟨rfl, ?_⟩
      rcases closes_cases options random world.shared id with
        ⟨_, _, _, same⟩ | ⟨_, _, same⟩ | ⟨_, same⟩
      · rw [same]
        exact .scheduleReconnect rfl rfl
      · rw [same]
        exact .of_same rfl rfl
      · rw [same]
        exact .of_same rfl rfl
  | channelClosed id =>
      cases moved
      exact .inr ⟨rfl, .of_same rfl rfl⟩
  | consumerCancelled id =>
      cases moved
      exact .inr ⟨rfl, .of_same rfl rfl⟩

/-- A step records a success, or counts the delay it schedules. -/
theorem step_counts
    {event : Event}
    (taken : (machine options).step world event = some after) :
    (recordsSuccess world event = true ∧
        after.shared.service.reconnectAttempts = 0) ∨
      (recordsSuccess world event = false ∧
        Counts options world.shared.service after.shared.service) := by
  cases event with
  | act index action =>
      obtain ⟨call, shared, next, spawned, found, moved, rfl⟩ :=
        TaskMachine.step_act taken
      obtain ⟨_, ⟨fulfilled, rfl, settles⟩ | ⟨random, rfl, resumes⟩⟩ :=
        machine_act_spec moved
      · refine .inr ⟨rfl, .of_same ?_ ?_⟩
        · simp only [settles.service]
        · simp only [settles.service]
      · have records :
            recordsSuccess world (.act index (.resume random)) =
              call.succeeds := by
          simp only [recordsSuccess, found, Option.any_some]
        rw [records]
        exact resumes.counts
  | env event =>
      obtain ⟨shared, calls, moved, rfl⟩ := TaskMachine.step_env taken
      exact env_counts moved
  | change change => cases change

/-- The counter is the number of delays since the last success. -/
structure Counted
    (options : Options)
    (world : World)
    (delays : List Delay) : Prop where
  counter : world.shared.service.reconnectAttempts = delays.length
  bounded : Bounded options delays

/-- One more step. -/
theorem Counted.step
    {event : Event}
    {delays : List Delay}
    (counted : Counted options world delays)
    (taken : (machine options).step world event = some after) :
    Counted options after (observe world after event delays) := by
  unfold observe
  rcases step_counts taken with ⟨records, reset⟩ | ⟨records, counts⟩
  · rw [if_pos records]
    exact ⟨reset, .nil⟩
  · rw [if_neg (by simp [records])]
    cases counts with
    | same attempts noDelay =>
        rw [noDelay, Option.toList_none, List.append_nil]
        exact ⟨attempts.trans counted.counter, counted.bounded⟩
    | next random attempts delay =>
        rw [delay, Option.toList_some, counted.counter]
        refine ⟨?_, counted.bounded.append⟩
        rw [attempts, counted.counter, List.length_append,
          List.length_singleton]

/-- All steps of a run. -/
theorem Counted.run
    {events : List Event}
    {delays : List Delay}
    (counted : Counted options world delays)
    (run :
      Run (machine options).step (fun _ _ => True) world events after) :
    Counted options after (delaysSince options world delays events) := by
  induction run generalizing delays with
  | nil world => exact counted
  | cons _ taken _ inductionHypothesis =>
      rw [delaysSince, taken]
      exact inductionHypothesis (counted.step taken)

end Events

/--
After `runSupervised()`, at most one of an attempt in progress, a pending timer
and a running consumer is there at any time, and the n-th delay since the last
success lies between half its cap and its cap, whatever happens in which order.
A base of zero has no cap from the 1025th delay on.
-/
theorem reconnect_discipline
    {options : Options}
    {events : List Event}
    {reached : World}
    (run :
      Run (machine options).step (fun _ _ => True)
        runSupervised events reached) :
    Exclusion reached ∧
      ∀ (n : Nat) (delay : Delay),
        (delaysSince options runSupervised [] events)[n]? = some delay →
          0 < options.baseBackoffMs ∨ n < 1024 →
          let cap := min options.maxBackoffMs (options.baseBackoffMs * 2 ^ n)
          ∃ ms, delay = some ms ∧ cap ≤ 2 * ms ∧ ms ≤ cap := by
  have excludes : Excludes reached :=
    run.invariant Excludes (fun holds _ taken => holds.step taken) .initial
  have start : Counted options runSupervised [] := ⟨rfl, .nil⟩
  refine ⟨excludes.exclusion, fun n delay found isNumber => ?_⟩
  refine (start.run run).bounded n _ delay found (if_neg ?_)
  omega

/-- The broker refuses a connection, then the queue, and then nothing more. -/
def sampleDelays : List Event :=
  [.act 0 (.settle false), .act 0 (.resume sampleRandom),
    .env .timerFires] ++
  sampleAttempt 1 3 ++
  [.act 1 (.settle false), .act 1 (.resume sampleRandom),
    .env (.connectionClosed 0 sampleRandom), .act 1 (.settle true),
    .act 1 (.resume sampleRandom)]

/-- A timer of a second is pending, after one of half a second. -/
theorem reconnect_discipline_sample :
    ∃ reached,
      Run (machine {}).step (fun _ _ => True)
        runSupervised sampleDelays reached ∧
      reached.shared.service.reconnectTimer = some (some 1000) ∧
      delaysSince {} runSupervised [] sampleDelays =
        [some 500, some 1000] ∧
      Exclusion reached ∧ 2000 ≤ 2 * 1000 ∧ 1000 ≤ 2000 := by
  have delays :
      delaysSince {} runSupervised [] sampleDelays =
        [some 500, some 1000] := by
    decide +kernel
  obtain ⟨reached, run, pending⟩ :
      ∃ reached,
        Run (machine {}).step (fun _ _ => True)
          runSupervised sampleDelays reached ∧
        reached.shared.service.reconnectTimer = some (some 1000) :=
    Run.exists_of_replay _ (by decide +kernel)
  obtain ⟨exclusion, bounded⟩ := reconnect_discipline run
  rw [delays] at bounded
  obtain ⟨ms, isDelay, atLeast, atMost⟩ :=
    bounded 1 (some 1000) rfl (.inl (by decide))
  cases isDelay
  exact ⟨reached, run, pending, delays, exclusion, atLeast, atMost⟩

end Replication.EventConsumerService
