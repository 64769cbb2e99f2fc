import Replication.ConsumerClosing
import Replication.ConsumerSupervision

namespace Replication.EventConsumerService

/-!
# What `stop` leaves behind

`stop` closes the connection it finds.  An attempt in progress does not look at
`stopping` again: it may get its connection later and go on.  If it fails, it
closes the connection itself; if it subscribes when every call of `stop` has
ended, the consumer runs and nothing will stop it.  As long as that does not
happen, nothing is left when all calls have ended.
-/

/-- Nothing of the service is left. -/
structure Stopped (shared : Shared) : Prop where
  closed : ∀ id, (shared.links id).isOpen = false
  unsubscribed : ∀ id, (shared.links id).subscribed = false
  noTimer : shared.service.reconnectTimer = none
  notRunning : shared.service.isRunning = false

/-- No later event causes another `connect`. -/
def NeverReconnects (options : Options) (world : World) : Prop :=
  ∀ events later,
    Run (machine options).step Amqp world events later →
      later.shared.opened = world.shared.opened ∧
        ∀ answer, Call.connecting answer ∉ later.tasks

/--
`start` does not go on from `consume` when `stop` has been called and every call
of `stop` has ended.
-/
def NoLateStart (world : World) : Event → Prop
  | .act index (.resume _) =>
      ∀ call ∈ world.tasks[index]?, call.InTime world.shared world.tasks
  | _ => True

instance (world : World) : DecidablePred (NoLateStart world)
  | .act _ (.settle _) => isTrue trivial
  | .act _ (.resume _) =>
      inferInstanceAs (Decidable (∀ call ∈ _, Call.InTime _ _ call))
  | .env _ => isTrue trivial
  | .change _ => isTrue trivial

/-! ### Every run -/

section Runs

variable {options : Options}

/-- What every state keeps in which `stop` has overtaken no attempt. -/
structure Accountable (world : World) : Prop where
  exclusive : Exclusive world
  accounted : Accounted world.shared world.tasks

/-- Nothing is open at first. -/
theorem Accountable.initial : Accountable runSupervised := by
  refine ⟨.initial, .of_closed (fun _ => rfl) nofun ?_⟩
  intro id answer member
  cases List.mem_singleton.mp member

/-- Every step keeps it but a late end of `start`. -/
theorem Accountable.step
    {before after : World}
    {event : Event}
    (holds : Accountable before)
    (amqp : Amqp before event)
    (inTime : NoLateStart before event)
    (taken : (machine options).step before event = some after) :
    Accountable after := by
  refine ⟨holds.exclusive.step amqp taken, ?_⟩
  cases event with
  | act index action =>
      obtain ⟨call, shared, next, spawned, found, moved, rfl⟩ :=
        TaskMachine.step_act taken
      have member := List.mem_of_getElem? found
      have replaces := TaskMachine.Replaces.set next found
      have added : next ∈ before.tasks.set index next :=
        List.mem_set (List.getElem?_eq_some_iff.mp found).1 next
      obtain ⟨rfl, ⟨fulfilled, rfl, settles⟩ | ⟨random, rfl, resumes⟩⟩ :=
        machine_act_spec moved
      · simp only [List.append_nil]
        exact holds.accounted.settle holds.exclusive settles
          (amqp call found) member replaces added
      · simp only [List.append_nil]
        exact holds.accounted.resume holds.exclusive resumes
          (inTime call found) member replaces added
  | env event =>
      obtain ⟨shared, calls, moved, rfl⟩ := TaskMachine.step_env taken
      exact holds.accounted.env holds.exclusive amqp moved
  | change change => nomatch change

/-- Once every call has ended, nothing is left. -/
theorem Accountable.stopped
    {world : World}
    (holds : Accountable world)
    (stopping : world.shared.service.stopping = true)
    (finished : ∀ call ∈ world.tasks, call = .finished) :
    Stopped world.shared := by
  have noCall :
      ∀ {Property : Call → Prop}, ¬ Property .finished →
        ¬ ∃ call ∈ world.tasks, Property call := by
    rintro Property unlike ⟨call, member, property⟩
    exact unlike (finished call member ▸ property)
  have closed : ∀ id, (world.shared.links id).isOpen = false := by
    intro id
    by_contra isOpen
    rcases holds.accounted.held id (by simpa using isOpen) with
      attempt | ⟨_, notStopping | waits⟩ | closes
    · exact noCall (fun attempts => attempts) attempt
    · rw [stopping] at notStopping
      cases notStopping
    · exact noCall (fun waits => waits) waits
    · exact noCall (fun closes => closes) closes
  have tidy := holds.exclusive.attempts.global
  refine ⟨closed, fun id => ?_, ?_, ?_⟩
  · by_contra subscribed
    have isOpen := tidy.subscribed id (by simpa using subscribed)
    rw [closed id] at isOpen
    cases isOpen
  · by_contra pending
    have notStopping := (tidy.waiting pending).notStopping
    rw [stopping] at notStopping
    cases notStopping
  · by_contra running
    exact noCall (fun stops => stops)
      (holds.accounted.running (by simpa using running) stopping)

/-- A service that is being stopped, with no attempt in progress. -/
structure Silenced (opened : Nat) (world : World) : Prop where
  stopping : world.shared.service.stopping = true
  noTimer : world.shared.service.reconnectTimer = none
  sameOpened : world.shared.opened = opened
  idle : ∀ call ∈ world.tasks, ¬ call.InProgress

/-- Every step keeps it. -/
theorem Silenced.step
    {opened : Nat}
    {before after : World}
    {event : Event}
    (holds : Silenced opened before)
    (amqp : Amqp before event)
    (taken : (machine options).step before event = some after) :
    Silenced opened after := by
  cases event with
  | act index action =>
      obtain ⟨call, shared, next, spawned, found, moved, rfl⟩ :=
        TaskMachine.step_act taken
      have idle := holds.idle call (List.mem_of_getElem? found)
      obtain ⟨rfl, steps⟩ := machine_act_spec moved
      obtain ⟨frame, nextIdle⟩ :
          Frame before.shared shared ∧ ¬ next.InProgress := by
        rcases steps with ⟨fulfilled, rfl, settles⟩ | ⟨random, rfl, resumes⟩
        · have stops := settles.stops_of_idle idle
          exact ⟨settles.frame (amqp call found)
              fun answer same => idle (same ▸ trivial),
            (settles.stops stops).not_inProgress⟩
        · exact resumes.frame_of_stops (resumes.stops_of_idle idle)
      refine ⟨frame.stopping.trans holds.stopping,
        frame.reconnectTimer.trans holds.noTimer,
        frame.opened.trans holds.sameOpened, fun other member => ?_⟩
      rcases TaskMachine.mem_set_append member with old | rfl | new
      · exact holds.idle other old
      · exact nextIdle
      · exact absurd new List.not_mem_nil
  | env event =>
      obtain ⟨shared, calls, moved, rfl⟩ := TaskMachine.step_env taken
      cases event with
      | timerFires =>
          simp [machine, env, holds.noTimer] at moved
      | stop =>
          cases moved
          have frame := Shared.frame_stop before.shared
          refine ⟨frame.stopping, frame.reconnectTimer,
            frame.opened.trans holds.sameOpened, fun call member => ?_⟩
          rcases List.mem_append.mp member with old | new
          · exact holds.idle call old
          · obtain rfl := List.mem_singleton.mp new
            exact Shared.not_inProgress_stop before.shared
      | connectionClosed id random =>
          cases moved
          rcases closes_cases options random before.shared id with
            ⟨_, _, notStopping, _⟩ | ⟨_, _, same⟩ | ⟨_, same⟩
          · rw [holds.stopping] at notStopping
            cases notStopping
          · rw [same]
            exact ⟨holds.stopping, holds.noTimer, holds.sameOpened,
              holds.idle⟩
          · rw [same]
            exact ⟨holds.stopping, holds.noTimer, holds.sameOpened,
              holds.idle⟩
      | channelClosed id =>
          cases moved
          exact ⟨holds.stopping, holds.noTimer, holds.sameOpened,
            holds.idle⟩
      | consumerCancelled id =>
          cases moved
          exact ⟨holds.stopping, holds.noTimer, holds.sameOpened,
            holds.idle⟩
  | change change => cases change

/-- No event wakes a service that has stopped. -/
theorem Silenced.never_reconnects
    {world : World}
    (holds : Silenced world.shared.opened world) :
    NeverReconnects options world := by
  intro events later run
  have still : Silenced world.shared.opened later :=
    run.invariant (Silenced world.shared.opened)
      (fun silenced amqp taken => silenced.step amqp taken) holds
  refine ⟨still.sameOpened, fun answer member => ?_⟩
  exact still.idle _ member trivial

/-- A late end of `start` leaves the consumer running. -/
theorem Exclusive.runs_of_late
    {before after : World}
    {event : Event}
    (holds : Exclusive before)
    (late : ¬ NoLateStart before event)
    (taken : (machine options).step before event = some after) :
    after.shared.service.stopping = true ∧
      (∀ call ∈ after.tasks, call = .finished) ∧
      ¬ Stopped after.shared := by
  cases event with
  | env event => exact (late trivial).elim
  | change change => nomatch change
  | act index action =>
      cases action with
      | settle fulfilled => exact (late trivial).elim
      | resume random =>
          obtain ⟨call, shared, next, spawned, found, moved, rfl⟩ :=
            TaskMachine.step_act taken
          obtain ⟨rfl, ⟨_, impossible, _⟩ | ⟨_, _, resumes⟩⟩ :=
            machine_act_spec moved
          · cases impossible
          have overtaken : ¬ call.InTime before.shared before.tasks := by
            intro inTime
            refine late fun other same => ?_
            rw [found] at same
            cases same
            exact inTime
          cases resumes with
          | consumes id =>
              simp only [Call.InTime, not_forall] at overtaken
              obtain ⟨stopping, noStop⟩ := overtaken
              have idle := holds.attempts.atMostOne.none_of_set found
                trivial fun busy : Call.finished.InProgress => busy
              refine ⟨stopping, fun other member => ?_, fun stopped => ?_⟩
              · rw [List.append_nil] at member
                refine Call.finished_of_idle (idle other member) fun stops => ?_
                rcases List.mem_or_eq_of_mem_set member with old | rfl
                · exact noStop ⟨other, old, stops⟩
                · exact stops
              · exact absurd stopped.notRunning (by simp [Shared.consume])
          | @declared _ operation _ follows =>
              exact (overtaken (by cases operation <;> trivial)).elim
          | failed _ operation =>
              exact (overtaken (by cases operation <;> trivial)).elim
          | _ => exact (overtaken trivial).elim

end Runs

/--
As long as `start` does not go on from `consume` when `stop` has been called and
has ended, `stop` is final, at whatever moment it is called: when every call has
ended, every connection is closed, nothing is subscribed, no timer is pending,
the consumer is not running, and no later event causes another `connect`.  If
`start` does go on then, every call has ended and the consumer runs.
-/
theorem stop_is_final_without_late_start
    {options : Options}
    {events : List Event}
    {reached : World}
    (run :
      Run (machine options).step
        (fun world event => Amqp world event ∧ NoLateStart world event)
        runSupervised events reached) :
    (reached.shared.service.stopping = true →
        (∀ call ∈ reached.tasks, call = .finished) →
          Stopped reached.shared ∧ NeverReconnects options reached) ∧
      ∀ event after,
        ¬ NoLateStart reached event →
        (machine options).step reached event = some after →
          after.shared.service.stopping = true ∧
            (∀ call ∈ after.tasks, call = .finished) ∧
            ¬ Stopped after.shared := by
  have holds : Accountable reached :=
    run.invariant Accountable
      (fun accountable admitted taken =>
        accountable.step admitted.1 admitted.2 taken)
      .initial
  constructor
  · intro stopping finished
    have stopped := holds.stopped stopping finished
    refine ⟨stopped, Silenced.never_reconnects ⟨stopping, stopped.noTimer,
      rfl, fun call member inProgress => ?_⟩⟩
    rw [finished call member] at inProgress
    exact inProgress
  · exact fun event after late taken =>
      holds.exclusive.runs_of_late late taken

/--
The connection of a running consumer closes, and the next attempt has created
its channel when `stop` is called.  It still has the tag of the first consumer
to cancel.
-/
def sampleStop : List Event :=
  sampleAttempt 0 7 ++
  [.env (.connectionClosed 0 sampleRandom), .env .timerFires] ++
  sampleAttempt 1 2 ++
  [.env .stop, .act 1 (.settle true), .act 1 (.resume sampleRandom),
    .act 2 (.settle false), .act 2 (.resume sampleRandom),
    .act 2 (.settle true), .act 2 (.resume sampleRandom),
    .act 1 (.settle false), .act 1 (.resume sampleRandom),
    .act 1 (.resume sampleRandom), .env (.connectionClosed 1 sampleRandom),
    .act 2 (.settle true), .act 2 (.resume sampleRandom)]

/-- Nothing of this attempt is left. -/
theorem stop_is_final_without_late_start_sample :
    ∃ reached,
      Run (machine {}).step
        (fun world event => Amqp world event ∧ NoLateStart world event)
        runSupervised sampleStop reached ∧
      reached.shared.opened = 2 ∧ Stopped reached.shared ∧
      NeverReconnects {} reached := by
  obtain ⟨reached, run, opened, stopping, finished⟩ :
      ∃ reached,
        Run (machine {}).step
          (fun world event => Amqp world event ∧ NoLateStart world event)
          runSupervised sampleStop reached ∧
        reached.shared.opened = 2 ∧
        reached.shared.service.stopping = true ∧
        ∀ call ∈ reached.tasks, call = .finished :=
    Run.exists_of_replay _ (by decide +kernel)
  exact ⟨reached, run, opened,
    (stop_is_final_without_late_start run).1 stopping finished⟩

/-- `stop` is called while `start` waits for its connection. -/
def sampleOvertaken : List Event :=
  [.env .stop] ++ sampleAttempt 0 7

/--
Every call has ended, and the consumer runs: its connection is open and delivers
to it.
-/
theorem stop_leaves_consumer_running :
    ∃ reached,
      Run (machine {}).step Amqp runSupervised sampleOvertaken reached ∧
      reached.shared.service.stopping = true ∧
      (∀ call ∈ reached.tasks, call = .finished) ∧
      reached.shared.service.isRunning = true ∧
      (reached.shared.links 0).Delivers ∧
      ¬ Stopped reached.shared := by
  obtain ⟨reached, run, stopping, finished, running, delivers⟩ :
      ∃ reached,
        Run (machine {}).step Amqp runSupervised sampleOvertaken reached ∧
        reached.shared.service.stopping = true ∧
        (∀ call ∈ reached.tasks, call = .finished) ∧
        reached.shared.service.isRunning = true ∧
        (reached.shared.links 0).Delivers :=
    Run.exists_of_replay _ (by decide +kernel)
  refine ⟨reached, run, stopping, finished, running, delivers, ?_⟩
  intro stopped
  rw [stopped.notRunning] at running
  cases running

end Replication.EventConsumerService
