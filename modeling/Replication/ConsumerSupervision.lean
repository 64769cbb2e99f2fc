import Replication.ConsumerAttempts

namespace Replication.EventConsumerService

/-!
# What keeps the consumer consuming

After `runSupervised` an attempt to start is in progress, a timer is pending, or
the consumer holds a subscription.  The `close` handler is the only way back
from the last case, and it looks at `isRunning`.  So nothing follows the end of
the channel or of the consumer alone, nor that of a connection which closes
before `start` has set `isRunning`.  As long as none of this happens the consumer
does not go silent; when it happens, it does.
-/

/-- The consumer holds a subscription on its open channel. -/
def Shared.Live (shared : Shared) : Prop :=
  ∃ id ∈ shared.service.channel, (shared.links id).Delivers

instance (shared : Shared) : Decidable shared.Live :=
  inferInstanceAs (Decidable (∃ _ ∈ shared.service.channel, _))

/-- The consumer has not gone silent, and is healthy only if it consumes. -/
def Supervised (world : World) : Prop :=
  ((∃ call ∈ world.tasks, call.InProgress) ∨
      world.shared.service.reconnectTimer ≠ none ∨ world.shared.Live) ∧
    (world.shared.service.healthCheck.healthy = true → world.shared.Live)

instance (world : World) : Decidable (Supervised world) :=
  inferInstanceAs (Decidable (_ ∧ _))

/-- `stop()` is not called. -/
def BeforeStop : Event → Prop
  | .env .stop => False
  | _ => True

instance : DecidablePred BeforeStop
  | .act _ _ => isTrue trivial
  | .env .timerFires => isTrue trivial
  | .env .stop => isFalse id
  | .env (.connectionClosed _ _) => isTrue trivial
  | .env (.channelClosed _) => isTrue trivial
  | .env (.consumerCancelled _) => isTrue trivial
  | .change change => nomatch change

/-- If `start` has subscribed, its subscription is still there. -/
def Call.StillSubscribed (links : Nat → Link) : Call → Prop
  | .declaring id .consume (.fulfilled _) => (links id).Delivers
  | _ => True

/--
A running consumer loses its channel and its subscription only together with its
connection, and `start` goes on from `consume` only while its subscription is
there.
-/
def KeepsSubscription (world : World) : Event → Prop
  | .act index (.resume _) =>
      ∀ call ∈ world.tasks[index]?,
        call.StillSubscribed world.shared.links
  | .env (.channelClosed _) => world.shared.service.isRunning = false
  | .env (.consumerCancelled _) => world.shared.service.isRunning = false
  | _ => True

instance (links : Nat → Link) : DecidablePred (Call.StillSubscribed links)
  | .connecting _ => isTrue trivial
  | .declaring _ .createChannel _ => isTrue trivial
  | .declaring _ .assertExchange _ => isTrue trivial
  | .declaring _ .assertQueue _ => isTrue trivial
  | .declaring _ .bindQueue _ => isTrue trivial
  | .declaring _ .prefetch _ => isTrue trivial
  | .declaring _ .consume .pending => isTrue trivial
  | .declaring _ .consume (.fulfilled _) =>
      inferInstanceAs (Decidable (Link.Delivers _))
  | .declaring _ .consume .rejected => isTrue trivial
  | .releasing _ _ => isTrue trivial
  | .cancelling _ _ => isTrue trivial
  | .closingChannel _ _ => isTrue trivial
  | .closingConnection _ _ => isTrue trivial
  | .finished => isTrue trivial

instance (world : World) : DecidablePred (KeepsSubscription world)
  | .act _ (.settle _) => isTrue trivial
  | .act _ (.resume _) =>
      inferInstanceAs (Decidable (∀ call ∈ _, Call.StillSubscribed _ call))
  | .env .timerFires => isTrue trivial
  | .env .stop => isTrue trivial
  | .env (.connectionClosed _ _) => isTrue trivial
  | .env (.channelClosed _) => inferInstanceAs (Decidable (_ = _))
  | .env (.consumerCancelled _) => inferInstanceAs (Decidable (_ = _))
  | .change change => nomatch change

/-! ### What an attempt knows about its connection -/

/-- The service follows this connection. -/
structure Follows (shared : Shared) (id : Nat) : Prop where
  channel : shared.service.channel = some id
  listening : (shared.links id).listening = true
  delivers : (shared.links id).Delivers

/-- A running consumer consumes. -/
def Consumes (shared : Shared) : Prop :=
  shared.service.isRunning = true → ∃ id, Follows shared id

/-- What is known of a connection that is still open. -/
def Call.Knows (shared : Shared) : Call → Prop
  | .declaring id operation _ =>
      (shared.links id).isOpen = true →
        (shared.links id).listening = true ∧
          (operation ≠ .createChannel →
            shared.service.channel = some id)
  | _ => True

section Steps

variable
  {options : Options}
  {random : RandomValue}
  {shared after : Shared}
  {fulfilled : Bool}
  {call next : Call}

/-- A change that closes no connection and takes no handler away. -/
theorem Call.Knows.modify
    {id : Nat}
    {change : Link → Link}
    (knows : call.Knows shared)
    (isOpen : ∀ link, (change link).isOpen = link.isOpen)
    (listening : ∀ link, (change link).listening = link.listening) :
    call.Knows (shared.modify id change) := by
  cases call with
  | declaring other operation answer =>
      intro stillOpen
      rw [Shared.modify_keeps Link.isOpen isOpen] at stillOpen
      rw [Shared.modify_keeps Link.listening listening]
      exact knows stillOpen
  | _ => trivial

/-- The library answers an attempt. -/
theorem Settle.knows
    (settles : Settle shared fulfilled call after next)
    (knows : call.Knows shared) :
    next.Knows after := by
  cases settles with
  | answered id operation =>
      have known : (Call.declaring id operation (.fulfilled ())).Knows shared :=
        knows
      refine known.modify (fun link => ?_) fun link => ?_
      · cases operation <;> rfl
      · cases operation <;> rfl
  | failed id operation => exact knows
  | _ => trivial

/-- An attempt goes on. -/
theorem Resume.knows
    (resumes : Resume options random shared call after next)
    (knows : call.Knows shared)
    (inProgress : next.InProgress) :
    next.Knows after := by
  cases resumes with
  | connected id =>
      refine fun _ => ⟨?_, fun first => (first rfl).elim⟩
      simp [Shared.attach, Link.listen]
  | @declared id operation next follows =>
      intro isOpen
      cases operation with
      | createChannel => exact ⟨(knows isOpen).1, fun _ => rfl⟩
      | _ =>
          have channel := (knows isOpen).2 (by simp)
          exact ⟨(knows isOpen).1, fun _ => channel⟩
  | failed id operation => exact trivial
  | cancelled =>
      exact (Shared.not_inProgress_stopChannel shared inProgress).elim
  | channelClosed =>
      exact (Shared.not_inProgress_stopConnection shared inProgress).elim
  | _ => exact inProgress.elim

/-- The only way to run is to have subscribed. -/
theorem Resume.consumes_of_keeps
    (resumes : Resume options random shared call after next)
    (inProgress : call.InProgress)
    (owns : Owns shared call)
    (knows : call.Knows shared)
    (keeps : call.StillSubscribed shared.links) :
    Consumes after := by
  intro running
  have notRunning := owns.notRunning
  have idle
      (stays : after.service.isRunning = false) :
      ∃ id, Follows after id := by
    rw [stays] at running
    cases running
  cases resumes with
  | consumes id =>
      obtain ⟨listening, channel⟩ := knows keeps.1
      exact ⟨id, channel nofun, listening, keeps⟩
  | connected id => exact idle notRunning
  | refused => exact idle (isRunning_scheduleReconnect ..)
  | @declared id operation => cases operation <;> exact idle notRunning
  | failed id =>
      exact idle ((Shared.frame_release shared id).notRunning notRunning)
  | released =>
      exact idle ((isRunning_scheduleReconnect ..).trans notRunning)
  | cancelled => exact inProgress.elim
  | channelClosed => exact inProgress.elim
  | closed => exact inProgress.elim

/-- An attempt ends in a timer or with the consumer running. -/
theorem Resume.engaged
    (resumes : Resume options random shared call after next)
    (inProgress : call.InProgress)
    (notStopping : shared.service.stopping = false) :
    next.InProgress ∨ after.service.reconnectTimer ≠ none ∨
      after.service.isRunning = true := by
  cases resumes with
  | connected id => exact .inl trivial
  | refused =>
      exact .inr (.inl (reconnectTimer_scheduleReconnect _ _ _ notStopping))
  | declared id => exact .inl trivial
  | consumes id => exact .inr (.inr rfl)
  | failed id => exact .inl trivial
  | released =>
      exact .inr (.inl (reconnectTimer_scheduleReconnect _ _ _ notStopping))
  | cancelled => exact inProgress.elim
  | channelClosed => exact inProgress.elim
  | closed => exact inProgress.elim

/-- An attempt that is answered goes on. -/
theorem Settle.inProgress
    (settles : Settle shared fulfilled call after next)
    (inProgress : call.InProgress) :
    next.InProgress := by
  cases settles <;> first | exact inProgress.elim | trivial

end Steps

/-! ### Every run before `stop` -/

section Runs

variable {options : Options}

/-- What every state keeps in which nothing has been lost. -/
structure Attended (world : World) : Prop where
  exclusive : Exclusive world
  notStopping : world.shared.service.stopping = false
  engaged :
    (∃ call ∈ world.tasks, call.InProgress) ∨
      world.shared.service.reconnectTimer ≠ none ∨
      world.shared.service.isRunning = true
  known :
    TaskMachine.ExclusiveInvariant Call.InProgress
      (fun _ => Consumes) (fun _ => Call.Knows) world

/-- The first attempt is on its way. -/
theorem Attended.initial : Attended runSupervised := by
  refine ⟨.initial, rfl, .inl ⟨_, List.mem_singleton_self _, trivial⟩,
    ⟨nofun, Exclusive.initial.attempts.atMostOne, ?_⟩⟩
  intro call member _
  obtain rfl := List.mem_singleton.mp member
  exact trivial

/-- A running consumer hears that its connection closes. -/
theorem Attended.follows
    {world : World}
    {id : Nat}
    (holds : Attended world)
    (running : world.shared.service.isRunning = true)
    (isOpen : (world.shared.links id).isOpen = true) :
    Follows world.shared id := by
  obtain ⟨followed, follows⟩ := holds.known.global running
  have same : followed = id :=
    holds.exclusive.attempts.global.single followed id
      follows.delivers.1 isOpen
  exact same ▸ follows

/-- What the end of a connection leaves. -/
theorem Attended.closes
    {world : World}
    {id : Nat}
    (holds : Attended world)
    (options : Options)
    (random : RandomValue)
    (isOpen : (world.shared.links id).isOpen = true) :
    ((∃ call ∈ world.tasks, call.InProgress) ∨
        (EventConsumerService.closes options random
          world.shared id).service.reconnectTimer ≠ none) ∧
      (EventConsumerService.closes options random
        world.shared id).service.isRunning = false := by
  have noTimer := holds.exclusive.attempts.global.no_timer isOpen
  have attempting
      (idle : world.shared.service.isRunning = false) :
      ∃ call ∈ world.tasks, call.InProgress := by
    rcases holds.engaged with attempt | pending | running
    · exact attempt
    · exact (pending noTimer).elim
    · rw [idle] at running
      cases running
  rcases closes_cases options random world.shared id with
    ⟨_, _, notStopping, same⟩ | ⟨_, idle | stopping, same⟩ | ⟨deaf, same⟩
  · rw [same]
    refine ⟨.inr ?_, isRunning_scheduleReconnect ..⟩
    exact reconnectTimer_scheduleReconnect _ _ _ notStopping
  · rw [same]
    exact ⟨.inl (attempting idle), rfl⟩
  · rw [holds.notStopping] at stopping
    cases stopping
  · -- a running consumer would have its handler attached
    have idle : world.shared.service.isRunning = false := by
      by_contra running
      have follows := holds.follows (by simpa using running) isOpen
      rw [follows.listening] at deaf
      cases deaf
    rw [same]
    exact ⟨.inl (attempting idle), idle⟩

/-- A channel or a consumer goes away under an attempt. -/
theorem Attended.modify
    {world : World}
    {id : Nat}
    {change : Link → Link}
    (holds : Attended world)
    (notRunning : world.shared.service.isRunning = false)
    (isOpen : ∀ link, (change link).isOpen = link.isOpen)
    (listening : ∀ link, (change link).listening = link.listening) :
    TaskMachine.ExclusiveInvariant Call.InProgress
      (fun _ => Consumes) (fun _ => Call.Knows)
      { world with shared := world.shared.modify id change } := by
  refine ⟨fun running => ?_, holds.exclusive.attempts.atMostOne, ?_⟩
  · change world.shared.service.isRunning = true at running
    rw [notRunning] at running
    cases running
  · exact fun call member inProgress =>
      (holds.known.local_ call member inProgress).modify isOpen listening

/-- What an outside event keeps. -/
theorem Attended.env
    {world : World}
    {event : Env}
    {shared : Shared}
    {calls : List Call}
    (holds : Attended world)
    (amqp : Amqp world (.env event))
    (before : BeforeStop (.env event))
    (keeps : KeepsSubscription world (.env event))
    (moved :
      EventConsumerService.env options world.shared world.tasks event =
        some (shared, calls)) :
    Attended { world with shared, tasks := calls } := by
  have exclusive := holds.exclusive.env amqp moved
  have tidy := holds.exclusive.attempts.global
  cases event with
  | timerFires =>
      simp only [EventConsumerService.env] at moved
      split at moved
      · rename_i pending
        have waits := tidy.waiting (Option.isSome_iff_ne_none.mp pending)
        rw [waits.timerFires] at moved
        cases moved
        have added :
            Call.connecting .pending ∈
              world.tasks ++ [.connecting .pending] :=
          List.mem_append_right _ (List.mem_singleton_self _)
        refine ⟨exclusive, waits.notStopping, .inl ⟨_, added, trivial⟩,
          ⟨?_, exclusive.attempts.atMostOne, ?_⟩⟩
        · intro running
          rw [waits.notRunning] at running
          cases running
        · intro call member inProgress
          obtain rfl := exclusive.attempts.atMostOne.eq_of_mem
            member added inProgress trivial
          exact trivial
      · cases moved
  | stop => exact before.elim
  | connectionClosed id random =>
      cases moved
      obtain ⟨engaged, idle⟩ := holds.closes options random amqp
      refine ⟨exclusive, (stopping_closes ..).trans holds.notStopping,
        engaged.imp_right .inl, ⟨?_, exclusive.attempts.atMostOne, ?_⟩⟩
      · intro running
        rw [idle] at running
        cases running
      · intro call member inProgress
        cases call with
        | declaring other operation answer =>
            intro isOpen
            rw [tidy.closed_of_closes options random amqp other] at isOpen
            cases isOpen
        | _ => exact trivial
  | channelClosed id =>
      cases moved
      exact ⟨exclusive, holds.notStopping, holds.engaged,
        holds.modify keeps (fun _ => rfl) fun _ => rfl⟩
  | consumerCancelled id =>
      cases moved
      exact ⟨exclusive, holds.notStopping, holds.engaged,
        holds.modify keeps (fun _ => rfl) fun _ => rfl⟩

/-- A step that loses no subscription. -/
def Attends (world : World) (event : Event) : Prop :=
  Attended world ∧ Amqp world event ∧ BeforeStop event ∧
    KeepsSubscription world event

/-- No call of `stop` is there. -/
theorem Attended.no_stop
    {world : World}
    {index : Nat}
    {call : Call}
    (holds : Attended world)
    (found : world.tasks[index]? = some call) :
    ¬ call.Stops := by
  intro stops
  have stopping :=
    holds.exclusive.stops call (List.mem_of_getElem? found) stops
  rw [holds.notStopping] at stopping
  cases stopping

/-- What an attempt knows is kept. -/
theorem Attended.known_step
    {before after : World}
    {event : Event}
    (admitted : Attends before event)
    (taken : (machine options).step before event = some after) :
    TaskMachine.ExclusiveInvariant Call.InProgress
      (fun _ => Consumes) (fun _ => Call.Knows) after := by
  refine TaskMachine.ExclusiveInvariant.step ?_ ?_ ?_ ?_
    admitted.1.known admitted taken
  · intro world index call action shared next spawned
      _ admitted found inProgress knows moved
    obtain ⟨holds, _, _, keeps⟩ := admitted
    have owns := holds.exclusive.attempts.local_ call
      (List.mem_of_getElem? found) inProgress
    obtain ⟨rfl, ⟨fulfilled, rfl, settles⟩ | ⟨random, rfl, resumes⟩⟩ :=
      machine_act_spec moved
    · refine ⟨fun running => ?_,
        fun _ => settles.knows knows, nofun⟩
      rw [settles.service, owns.notRunning] at running
      cases running
    · exact ⟨resumes.consumes_of_keeps inProgress owns knows
          (keeps call found),
        resumes.knows knows, nofun⟩
  · intro world index call action shared next spawned
      _ admitted found idle moved
    obtain ⟨rfl, ⟨fulfilled, rfl, settles⟩ | ⟨random, rfl, resumes⟩⟩ :=
      machine_act_spec moved
    · exact (admitted.1.no_stop found (settles.stops_of_idle idle)).elim
    · exact (admitted.1.no_stop found (resumes.stops_of_idle idle)).elim
  · intro world event shared calls _ admitted moved
    obtain ⟨holds, amqp, beforeStop, keeps⟩ := admitted
    exact (holds.env amqp beforeStop keeps moved).known
  · exact fun {world change} => nomatch change

/-- The service stays busy or running, and is not being stopped. -/
theorem Attended.engaged_step
    {before after : World}
    {event : Event}
    (admitted : Attends before event)
    (taken : (machine options).step before event = some after) :
    after.shared.service.stopping = false ∧
      ((∃ call ∈ after.tasks, call.InProgress) ∨
        after.shared.service.reconnectTimer ≠ none ∨
        after.shared.service.isRunning = true) := by
  obtain ⟨holds, amqp, beforeStop, keeps⟩ := admitted
  cases event with
  | act index action =>
      obtain ⟨call, shared, next, spawned, found, moved, rfl⟩ :=
        TaskMachine.step_act taken
      have added : next ∈ before.tasks.set index next ++ spawned :=
        List.mem_append_left _
          (List.mem_set (List.getElem?_eq_some_iff.mp found).1 next)
      obtain ⟨rfl, ⟨fulfilled, rfl, settles⟩ | ⟨random, rfl, resumes⟩⟩ :=
        machine_act_spec moved
      · refine ⟨settles.service ▸ holds.notStopping, .inl ⟨next, added, ?_⟩⟩
        by_contra idle
        refine holds.no_stop found (settles.stops_of_idle fun busy => ?_)
        exact idle (settles.inProgress busy)
      · refine ⟨resumes.stopping.trans holds.notStopping, ?_⟩
        by_cases inProgress : call.InProgress
        · exact (resumes.engaged inProgress holds.notStopping).imp_left
            fun busy => ⟨next, added, busy⟩
        · exact (holds.no_stop found
            (resumes.stops_of_idle inProgress)).elim
  | env event =>
      obtain ⟨shared, calls, moved, rfl⟩ := TaskMachine.step_env taken
      have attended := holds.env amqp beforeStop keeps moved
      exact ⟨attended.notStopping, attended.engaged⟩
  | change change => nomatch change

/-- Every step that loses no subscription keeps all of it. -/
theorem Attended.step
    {before after : World}
    {event : Event}
    (admitted : Attends before event)
    (taken : (machine options).step before event = some after) :
    Attended after := by
  obtain ⟨notStopping, engaged⟩ := Attended.engaged_step admitted taken
  exact ⟨admitted.1.exclusive.step admitted.2.1 taken, notStopping, engaged,
    Attended.known_step admitted taken⟩

/-- Then a running consumer is live, and only such a one is healthy. -/
theorem Attended.supervised
    {world : World}
    (holds : Attended world) :
    Supervised world := by
  have live
      (running : world.shared.service.isRunning = true) :
      world.shared.Live := by
    obtain ⟨id, follows⟩ := holds.known.global running
    exact ⟨id, follows.channel, follows.delivers⟩
  refine ⟨?_, fun healthy => live ?_⟩
  · exact holds.engaged.imp_right fun rest => rest.imp_right live
  · exact (Bool.and_eq_true_iff.mp healthy).1

/-- Nothing is left that would subscribe again. -/
theorem Silent.of_lost
    {world : World}
    (idle : ∀ call ∈ world.tasks, ¬ call.InProgress)
    (noTimer : world.shared.service.reconnectTimer = none)
    (lost : ¬ world.shared.Live) :
    ¬ Supervised world := by
  rintro ⟨attempt | pending | live, _⟩
  · obtain ⟨call, member, inProgress⟩ := attempt
    exact idle call member inProgress
  · exact pending noTimer
  · exact lost live

/-- A running consumer loses its channel or its subscription. -/
theorem Attended.silent_of_modify
    {world : World}
    {id : Nat}
    {change : Link → Link}
    (holds : Attended world)
    (isOpen : (world.shared.links id).isOpen = true)
    (running : world.shared.service.isRunning = true)
    (lost : ¬ (change (world.shared.links id)).Delivers) :
    ¬ Supervised { world with shared := world.shared.modify id change } := by
  refine Silent.of_lost (fun call member inProgress => ?_)
    (holds.exclusive.attempts.global.no_timer isOpen) ?_
  · have owns := holds.exclusive.attempts.local_ call member inProgress
    rw [owns.notRunning] at running
    cases running
  · rintro ⟨other, channel, delivers⟩
    have same : other = id := by
      have follows := (holds.follows running isOpen).channel
      change world.shared.service.channel = some other at channel
      rw [follows] at channel
      exact (Option.some.inj channel).symm
    subst other
    rw [Shared.links_modify_self] at delivers
    exact lost delivers

/-- A step that loses the subscription leaves the consumer silent. -/
theorem Attended.silent
    {before after : World}
    {event : Event}
    (holds : Attended before)
    (amqp : Amqp before event)
    (loses : ¬ KeepsSubscription before event)
    (taken : (machine options).step before event = some after) :
    ¬ Supervised after := by
  cases event with
  | act index action =>
      cases action with
      | settle fulfilled => exact (loses trivial).elim
      | resume random =>
          obtain ⟨call, shared, next, spawned, found, moved, rfl⟩ :=
            TaskMachine.step_act taken
          obtain ⟨rfl, ⟨_, impossible, _⟩ | ⟨_, _, resumes⟩⟩ :=
            machine_act_spec moved
          · cases impossible
          have lost : ¬ call.StillSubscribed before.shared.links := by
            intro still
            refine loses fun other same => ?_
            rw [found] at same
            cases same
            exact still
          have attempts := holds.exclusive.attempts
          cases resumes with
          | consumes =>
              have owns := attempts.local_ _
                (List.mem_of_getElem? found) trivial
              simp only [List.append_nil]
              refine Silent.of_lost
                (attempts.atMostOne.none_of_set found trivial id)
                owns.noTimer ?_
              rintro ⟨other, _, delivers⟩
              cases owns.own other delivers.1
              exact lost delivers
          | @declared _ operation _ follows =>
              exact (lost (by cases operation <;> trivial)).elim
          | failed _ operation =>
              exact (lost (by cases operation <;> trivial)).elim
          | _ => exact (lost trivial).elim
  | env event =>
      obtain ⟨shared, calls, moved, rfl⟩ := TaskMachine.step_env taken
      cases event with
      | channelClosed id =>
          cases moved
          refine holds.silent_of_modify amqp.1
            (eq_true_of_ne_false loses) ?_
          exact fun delivers => absurd delivers.2.2 Bool.false_ne_true
      | consumerCancelled id =>
          cases moved
          refine holds.silent_of_modify amqp.1
            (eq_true_of_ne_false loses) ?_
          exact fun delivers => absurd delivers.2.2 Bool.false_ne_true
      | _ => exact (loses trivial).elim
  | change change => nomatch change

end Runs

/--
As long as a running consumer loses its channel and its subscription only
together with its connection, and `start` goes on from `consume` only while its
subscription is there, the consumer does not go silent before `stop`, whatever
the order of the steps: an attempt is in progress, a timer is pending, or the
consumer holds a live subscription; and it is healthy only in the last case.
The first step that breaks the condition leaves it silent.
-/
theorem supervised_while_keeping_subscription
    {options : Options}
    {events : List Event}
    {reached : World}
    (run :
      Run (machine options).step
        (fun world event =>
          Amqp world event ∧ BeforeStop event ∧
            KeepsSubscription world event)
        runSupervised events reached) :
    Supervised reached ∧
      ∀ event after,
        Amqp reached event →
        ¬ KeepsSubscription reached event →
        (machine options).step reached event = some after →
          ¬ Supervised after := by
  have holds : Attended reached :=
    run.invariant Attended
      (fun attended admitted taken =>
        Attended.step ⟨attended, admitted⟩ taken)
      .initial
  exact ⟨holds.supervised,
    fun event after amqp loses taken => holds.silent amqp loses taken⟩

/-- `Math.random()` returns 0. -/
def sampleRandom : RandomValue :=
  ⟨0, by decide, by decide⟩

/-- That many promises of an attempt are fulfilled, of seven in all. -/
def sampleAttempt (index awaits : Nat) : List Event :=
  (List.replicate awaits
    [.act index (.settle true), .act index (.resume sampleRandom)]).flatten

/--
The broker refuses a connection, then the queue, then everything works until the
connection closes; the fourth attempt succeeds.
-/
def sampleRestart : List Event :=
  [.act 0 (.settle false), .act 0 (.resume sampleRandom),
    .env .timerFires] ++
  sampleAttempt 1 3 ++
  [.env (.channelClosed 0), .act 1 (.settle false),
    .act 1 (.resume sampleRandom), .env (.connectionClosed 0 sampleRandom),
    .act 1 (.settle true), .act 1 (.resume sampleRandom),
    .env .timerFires] ++
  sampleAttempt 2 7 ++
  [.env (.connectionClosed 1 sampleRandom), .env .timerFires] ++
  sampleAttempt 3 7

/-- The consumer is supervised through all of this. -/
theorem supervised_while_keeping_subscription_sample :
    ∃ reached,
      Run (machine {}).step
        (fun world event =>
          Amqp world event ∧ BeforeStop event ∧
            KeepsSubscription world event)
        runSupervised sampleRestart reached ∧
      reached.shared.Live ∧ Supervised reached := by
  obtain ⟨reached, run, live⟩ :
      ∃ reached,
        Run (machine {}).step
          (fun world event =>
            Amqp world event ∧ BeforeStop event ∧
              KeepsSubscription world event)
          runSupervised sampleRestart reached ∧
        reached.shared.Live :=
    Run.exists_of_replay _ (by decide +kernel)
  exact ⟨reached, run, live,
    (supervised_while_keeping_subscription run).1⟩

/-- The broker closes the channel of a running consumer. -/
def sampleChannelLost : List Event :=
  sampleAttempt 0 7 ++ [.env (.channelClosed 0)]

/-- The broker cancels a running consumer. -/
def sampleCancelled : List Event :=
  sampleAttempt 0 7 ++ [.env (.consumerCancelled 0)]

/-- The connection closes before `start` goes on from `consume`. -/
def sampleLostEarly : List Event :=
  sampleAttempt 0 6 ++
  [.act 0 (.settle true), .env (.connectionClosed 0 sampleRandom),
    .act 0 (.resume sampleRandom)]

/--
In each of these runs the consumer goes silent, in the first two of them while
it is healthy.
-/
theorem supervision_goes_silent :
    (∃ reached,
      Run (machine {}).step
        (fun world event => Amqp world event ∧ BeforeStop event)
        runSupervised sampleChannelLost reached ∧
      reached.shared.service.healthCheck.healthy = true ∧
      ¬ Supervised reached) ∧
    (∃ reached,
      Run (machine {}).step
        (fun world event => Amqp world event ∧ BeforeStop event)
        runSupervised sampleCancelled reached ∧
      reached.shared.service.healthCheck.healthy = true ∧
      ¬ Supervised reached) ∧
    ∃ reached,
      Run (machine {}).step
        (fun world event => Amqp world event ∧ BeforeStop event)
        runSupervised sampleLostEarly reached ∧
      reached.shared.service.isRunning = true ∧
      ¬ Supervised reached :=
  ⟨Run.exists_of_replay _ (by decide +kernel),
    Run.exists_of_replay _ (by decide +kernel),
    Run.exists_of_replay _ (by decide +kernel)⟩

end Replication.EventConsumerService
