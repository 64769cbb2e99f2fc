import Replication.TaskSums
import Mathlib

namespace Replication.TelemetryPolling

open TaskMachine

/-!
# Telemetry polling in the browser

The `useTelemetry` hook: `poll`, the `tick` that reschedules itself, `refresh`,
and the effect with its cleanup.  A request is in flight until it is answered;
`poll` returns at once when another one is.  A timer or a call of `tick` keeps
polling alive; React may run the effect again after its cleanup, and the `tick`
of the earlier effect does not know that.

Requests are numbered in the order in which they are made.
-/

variable {Snapshot : Type}

/-- What a component sees of the hook. -/
structure Display (Snapshot : Type) where
  telemetry : Option Snapshot
  loading : Bool
  isConnected : Bool
  lastUpdated : Option Int
  error : Option String
  deriving DecidableEq, Repr

/-- An answer that has been taken over, with the request it belongs to. -/
structure Answer (Snapshot : Type) where
  request : Nat
  at_ : Int
  outcome : Except String Snapshot

/-- State and refs of the hook, its timers, and what is kept for the statements. -/
structure Hook (Snapshot : Type) where
  display : Display Snapshot
  mountedRef : Bool
  inFlightRef : Bool
  timerRef : Option Nat
  /-- Timers that have neither fired nor been cleared. -/
  timers : List Nat
  created : Nat
  /-- The effect has run, and its cleanup has not. -/
  active : Bool
  /-- How often the effect has run. -/
  mounts : Nat
  requests : Nat
  answers : List (Answer Snapshot)

/-- Where a call of `poll` is suspended, and whether `tick` has made it. -/
inductive Call where
  /-- It awaits `api.getTelemetry()`. -/
  | polling (request : Nat) (ticks : Bool)
  /-- It has returned, and its caller goes on. -/
  | polled (ticks : Bool)
  | finished
  deriving DecidableEq, Repr

/-- How a call goes on. -/
inductive Act (Snapshot : Type) where
  | answered (now : Int) (outcome : Except String Snapshot)
  | proceed

/-- What happens outside the calls. -/
inductive Env where
  | mount
  | unmount
  | refresh
  | fire (timer : Nat)
  deriving DecidableEq, Repr

/-- An answer while the component is mounted. -/
def Display.answered
    (display : Display Snapshot)
    (now : Int) : Except String Snapshot → Display Snapshot
  | .ok snapshot =>
      { telemetry := some snapshot
        loading := false
        isConnected := true
        lastUpdated := some now
        error := none }
  | .error message =>
      { display with
        loading := false
        isConnected := false
        error := some message }

/-- `poll` after its await. -/
def Hook.answered
    (hook : Hook Snapshot)
    (request : Nat)
    (now : Int)
    (outcome : Except String Snapshot) : Hook Snapshot :=
  if hook.mountedRef then
    { hook with
      inFlightRef := false
      display := hook.display.answered now outcome
      answers := hook.answers ++ [⟨request, now, outcome⟩] }
  else
    { hook with inFlightRef := false }

/-- `poll` up to its await. -/
def Hook.poll
    (hook : Hook Snapshot)
    (ticks : Bool) : Hook Snapshot × Call :=
  if hook.inFlightRef then
    (hook, .polled ticks)
  else
    ({ hook with
        inFlightRef := true
        requests := hook.requests + 1 },
      .polling hook.requests ticks)

/-- The rest of `tick`: the next one is scheduled. -/
def Hook.schedule (hook : Hook Snapshot) : Hook Snapshot :=
  if hook.mountedRef then
    { hook with
      timerRef := some hook.created
      timers := hook.timers ++ [hook.created]
      created := hook.created + 1 }
  else
    hook

/-- The effect, before it calls `tick`. -/
def Hook.mount (hook : Hook Snapshot) : Hook Snapshot :=
  { hook with
    mountedRef := true
    active := true
    mounts := hook.mounts + 1 }

/-- The cleanup of the effect. -/
def Hook.unmount (hook : Hook Snapshot) : Hook Snapshot :=
  { hook with
    mountedRef := false
    active := false
    timers := hook.timerRef.elim hook.timers hook.timers.erase
    timerRef := none }

/-- A timer is no longer pending. -/
def Hook.fire (hook : Hook Snapshot) (timer : Nat) : Hook Snapshot :=
  { hook with timers := hook.timers.erase timer }

/-- A call goes on. -/
def act
    (hook : Hook Snapshot) :
    Call → Act Snapshot → Option (Hook Snapshot × Call × List Call)
  | .polling request ticks, .answered now outcome =>
      some (hook.answered request now outcome, .polled ticks, [])
  | .polled true, .proceed => some (hook.schedule, .finished, [])
  | .polled false, .proceed => some (hook, .finished, [])
  | _, _ => none

/-- `tick` or `refresh` is called. -/
def Hook.call
    (hook : Hook Snapshot)
    (calls : List Call)
    (ticks : Bool) : Hook Snapshot × List Call :=
  ((hook.poll ticks).1, calls ++ [(hook.poll ticks).2])

/-- The component mounts or unmounts, or asks for a refresh; a timer fires. -/
def env
    (hook : Hook Snapshot)
    (calls : List Call) :
    Env → Option (Hook Snapshot × List Call)
  | .mount => if hook.active then none else some (hook.mount.call calls true)
  | .unmount => if hook.active then some (hook.unmount, calls) else none
  | .refresh => some (hook.call calls false)
  | .fire timer =>
      if timer ∈ hook.timers then
        some ((hook.fire timer).call calls true)
      else
        none

/-- Everything comes in any order. -/
def machine (Snapshot : Type) :
    TaskMachine Unit (Hook Snapshot) Call (Act Snapshot) Env Empty where
  act _ := act
  env _ := env
  change _ := Empty.elim

/-- The hook with its suspended calls. -/
abbrev World (Snapshot : Type) :=
  TaskMachine.World Unit (Hook Snapshot) Call

/-- One step. -/
abbrev Event (Snapshot : Type) := TaskMachine.Event (Act Snapshot) Env Empty

/-- The first render. -/
def initial : World Snapshot where
  context := ()
  shared :=
    { display :=
        { telemetry := none
          loading := true
          isConnected := false
          lastUpdated := none
          error := none }
      mountedRef := true
      inFlightRef := false
      timerRef := none
      timers := []
      created := 0
      active := false
      mounts := 0
      requests := 0
      answers := [] }
  tasks := []

/-- The requests of a call that are in flight. -/
def Call.inFlight : Call → Nat
  | .polling _ _ => 1
  | _ => 0

/-- The call schedules the next `tick` when it goes on. -/
def Call.ticking : Call → Nat
  | .polling _ true => 1
  | .polled true => 1
  | _ => 0

/-- Timers and calls that keep polling alive. -/
def chains (world : World Snapshot) : Nat :=
  world.shared.timers.length + totalOf Call.ticking world.tasks

/-! ### Requests and what is displayed -/

/-- The snapshot of an answer that has one. -/
def Answer.snapshot (answer : Answer Snapshot) : Option Snapshot :=
  answer.outcome.toOption

/-- The display is that of the answers, taken over in this order. -/
structure Shows
    (answers : List (Answer Snapshot))
    (display : Display Snapshot) : Prop where
  telemetry :
    display.telemetry = (answers.filterMap Answer.snapshot).getLast?
  loading : display.loading = answers.isEmpty
  isConnected :
    display.isConnected = true ↔
      ∃ answer ∈ answers.getLast?, answer.snapshot.isSome = true
  error :
    display.error =
      answers.getLast?.bind fun answer =>
        match answer.outcome with
        | .ok _ => none
        | .error message => some message
  lastUpdated :
    display.lastUpdated =
      ((answers.filter fun answer => answer.snapshot.isSome).getLast?).map
        Answer.at_

/-- One more answer. -/
theorem Shows.answered
    {answers : List (Answer Snapshot)}
    {display : Display Snapshot}
    (shows : Shows answers display)
    (request : Nat)
    (now : Int)
    (outcome : Except String Snapshot) :
    Shows (answers ++ [⟨request, now, outcome⟩])
      (display.answered now outcome) := by
  cases outcome with
  | ok snapshot =>
      constructor <;>
        simp [Display.answered, Answer.snapshot, Except.toOption]
  | error message =>
      obtain ⟨telemetry, -, -, -, lastUpdated⟩ := shows
      refine ⟨?_, ?_, ?_, ?_, ?_⟩
      · simpa [Display.answered, Answer.snapshot, Except.toOption] using
          telemetry
      · simp [Display.answered]
      · simp [Display.answered, Answer.snapshot, Except.toOption]
      · simp [Display.answered]
      · simpa [Display.answered, Answer.snapshot, Except.toOption] using
          lastUpdated

/-- The answers came in the order of their requests. -/
def Ordered (answers : List (Answer Snapshot)) : Prop :=
  answers.Pairwise fun earlier later => earlier.request < later.request

/-- What holds of the requests. -/
structure Requests (world : World Snapshot) : Prop where
  single :
    totalOf Call.inFlight world.tasks =
      if world.shared.inFlightRef then 1 else 0
  latest :
    ∀ request ticks, .polling request ticks ∈ world.tasks →
      request + 1 = world.shared.requests
  older :
    ∀ answer ∈ world.shared.answers,
      answer.request + (if world.shared.inFlightRef then 1 else 0) <
        world.shared.requests
  ordered : Ordered world.shared.answers
  shows : Shows world.shared.answers world.shared.display

section Requests

variable
  {hook changed : Hook Snapshot}
  {calls : List Call}

/-- Nothing that concerns requests changes. -/
theorem Requests.frame
    (requests : Requests ⟨(), hook, calls⟩)
    (inFlight : changed.inFlightRef = hook.inFlightRef)
    (made : changed.requests = hook.requests)
    (answers : changed.answers = hook.answers)
    (display : changed.display = hook.display) :
    Requests ⟨(), changed, calls⟩ := by
  obtain ⟨single, latest, older, ordered, shows⟩ := requests
  constructor <;> simp only [inFlight, made, answers, display] <;>
    assumption

/-- `poll` makes a request unless one is in flight. -/
theorem Requests.call
    (requests : Requests ⟨(), hook, calls⟩)
    (ticks : Bool) :
    Requests ⟨(), (hook.call calls ticks).1, (hook.call calls ticks).2⟩ := by
  obtain ⟨single, latest, older, ordered, shows⟩ := requests
  unfold Hook.call Hook.poll
  by_cases inFlight : hook.inFlightRef = true
  · rw [if_pos inFlight]
    refine ⟨?_, ?_, older, ordered, shows⟩
    · rw [totalOf_append]
      exact single
    · intro request other member
      rcases List.mem_append.mp member with old | isNew
      · exact latest request other old
      · exact Call.noConfusion (List.mem_singleton.mp isNew)
  · rw [if_neg inFlight]
    have none : totalOf Call.inFlight calls = 0 := by
      simpa [inFlight] using single
    refine ⟨?_, ?_, ?_, ordered, shows⟩
    · rw [totalOf_append, none]
      rfl
    · intro request other member
      rcases List.mem_append.mp member with old | isNew
      · -- a call in flight would be counted
        have counted :
            Call.inFlight (.polling request other) ≤
              totalOf Call.inFlight calls :=
          List.le_sum_of_mem (List.mem_map_of_mem old)
        rw [none] at counted
        exact absurd counted (Nat.not_succ_le_zero 0)
      · obtain ⟨rfl, -⟩ := Call.polling.inj (List.mem_singleton.mp isNew)
        rfl
    · intro answer member
      have earlier := older answer member
      simp only [inFlight, if_false, Bool.false_eq_true] at earlier
      exact Nat.succ_lt_succ earlier

/-- A request is answered. -/
theorem Requests.answered
    {index request : Nat}
    {ticks : Bool}
    (requests : Requests ⟨(), hook, calls⟩)
    (found : calls[index]? = some (.polling request ticks))
    (now : Int)
    (outcome : Except String Snapshot) :
    Requests
      ⟨(), hook.answered request now outcome,
        calls.set index (.polled ticks)⟩ := by
  obtain ⟨single, latest, older, ordered, shows⟩ := requests
  have exchanged := totalOf_set Call.inFlight (.polled ticks) found
  have inFlight : hook.inFlightRef = true := by
    by_contra notInFlight
    rw [if_neg notInFlight] at single
    rw [single] at exchanged
    exact absurd exchanged (Nat.succ_ne_zero _)
  have isLatest := latest request ticks (List.mem_of_getElem? found)
  rw [if_pos inFlight] at single
  have none :
      totalOf Call.inFlight (calls.set index (.polled ticks)) = 0 := by
    rw [single] at exchanged
    exact Nat.succ.inj exchanged
  have noneLeft :
      ∀ other ticking,
        .polling other ticking ∉ calls.set index (.polled ticks) := by
    intro other ticking member
    have counted :
        Call.inFlight (.polling other ticking) ≤
          totalOf Call.inFlight (calls.set index (.polled ticks)) :=
      List.le_sum_of_mem (List.mem_map_of_mem member)
    rw [none] at counted
    exact absurd counted (Nat.not_succ_le_zero 0)
  have earlier :
      ∀ answer ∈ hook.answers, answer.request < request := by
    intro answer member
    have before := older answer member
    rw [if_pos inFlight, ← isLatest] at before
    exact Nat.lt_of_succ_lt_succ before
  unfold Hook.answered
  split
  · refine ⟨none, fun other ticking member =>
      absurd member (noneLeft other ticking), ?_, ?_, ?_⟩
    · intro answer member
      change answer.request + 0 < hook.requests
      rw [← isLatest]
      rcases List.mem_append.mp member with old | isNew
      · exact (earlier answer old).trans (Nat.lt_succ_self _)
      · obtain rfl := List.mem_singleton.mp isNew
        exact Nat.lt_succ_self _
    · refine List.pairwise_append.mpr
        ⟨ordered, List.pairwise_singleton _ _, ?_⟩
      intro answer member newest isNew
      obtain rfl := List.mem_singleton.mp isNew
      exact earlier answer member
    · exact shows.answered request now outcome
  · refine ⟨none, fun other ticking member =>
      absurd member (noneLeft other ticking), ?_, ordered, shows⟩
    intro answer member
    change answer.request + 0 < hook.requests
    rw [← isLatest]
    exact (earlier answer member).trans (Nat.lt_succ_self _)

/-- A call that is not awaiting a request goes on. -/
theorem Requests.proceed
    {index : Nat}
    {ticks : Bool}
    (requests : Requests ⟨(), hook, calls⟩)
    (found : calls[index]? = some (.polled ticks)) :
    Requests ⟨(), hook, calls.set index .finished⟩ := by
  obtain ⟨single, latest, older, ordered, shows⟩ := requests
  refine ⟨?_, ?_, older, ordered, shows⟩
  · exact (totalOf_set Call.inFlight .finished found).trans single
  · intro request other member
    rcases List.mem_or_eq_of_mem_set member with old | isFinished
    · exact latest request other old
    · exact Call.noConfusion isFinished

/-- Every step keeps it. -/
theorem Requests.step
    {before after : World Snapshot}
    {event : Event Snapshot}
    (requests : Requests before)
    (taken : (machine Snapshot).step before event = some after) :
    Requests after := by
  cases event with
  | act index action =>
      obtain ⟨call, hook, next, spawned, found, moved, rfl⟩ :=
        TaskMachine.step_act taken
      simp only [machine, act] at moved
      split at moved
      case h_1 request ticks now outcome =>
          cases moved
          rw [List.append_nil]
          exact requests.answered found now outcome
      case h_2 =>
          cases moved
          rw [List.append_nil]
          refine (requests.proceed found).frame ?_ ?_ ?_ ?_ <;>
            simp only [Hook.schedule] <;> split <;> rfl
      case h_3 =>
          cases moved
          rw [List.append_nil]
          exact requests.proceed found
      case h_4 => cases moved
  | env event =>
      obtain ⟨hook, calls, moved, rfl⟩ := TaskMachine.step_env taken
      cases event with
      | mount =>
          simp only [machine, env] at moved
          split at moved
          · cases moved
          · cases moved
            have mounted :
                Requests ⟨(), before.shared.mount, before.tasks⟩ :=
              requests.frame rfl rfl rfl rfl
            exact mounted.call true
      | unmount =>
          simp only [machine, env] at moved
          split at moved
          · cases moved
            exact requests.frame rfl rfl rfl rfl
          · cases moved
      | refresh =>
          cases moved
          exact requests.call false
      | fire timer =>
          simp only [machine, env] at moved
          split at moved
          · cases moved
            have fired :
                Requests ⟨(), before.shared.fire timer, before.tasks⟩ :=
              requests.frame rfl rfl rfl rfl
            exact fired.call true
          · cases moved
  | change change => exact change.elim

end Requests

/-! ### What keeps polling alive -/

/-- What holds of the timers and the calls of `tick`. -/
structure Alive (world : World Snapshot) : Prop where
  bounded : chains world ≤ world.shared.mounts
  alive : world.shared.active = true → 1 ≤ chains world
  mounted :
    1 ≤ world.shared.mounts →
      world.shared.mountedRef = world.shared.active
  only :
    world.shared.mounts ≤ 1 →
      ∀ timer ∈ world.shared.timers,
        world.shared.timerRef = some timer
  cleared :
    world.shared.mounts ≤ 1 →
      world.shared.active = false → world.shared.timers = []

section Chains

variable
  {hook changed : Hook Snapshot}
  {calls others : List Call}

/-- Neither the timers nor the calls of `tick` change. -/
theorem Alive.frame
    (alive : Alive ⟨(), hook, calls⟩)
    (timers : changed.timers = hook.timers)
    (timerRef : changed.timerRef = hook.timerRef)
    (mountedRef : changed.mountedRef = hook.mountedRef)
    (active : changed.active = hook.active)
    (mounts : changed.mounts = hook.mounts)
    (ticking :
      totalOf Call.ticking others = totalOf Call.ticking calls) :
    Alive ⟨(), changed, others⟩ := by
  obtain ⟨bounded, alive, mounted, only, cleared⟩ := alive
  simp only [chains] at bounded alive
  constructor <;>
    simp only [chains, timers, timerRef, mountedRef, active, mounts,
      ticking] <;>
    assumption

/-- A new call is one of `tick` or not. -/
theorem ticking_call
    (hook : Hook Snapshot)
    (calls : List Call)
    (ticks : Bool) :
    totalOf Call.ticking (hook.call calls ticks).2 =
      totalOf Call.ticking calls + if ticks then 1 else 0 := by
  unfold Hook.call Hook.poll
  rw [totalOf_append]
  split <;> cases ticks <;> rfl

/-- `poll` concerns requests only. -/
theorem Alive.call
    {ticks : Bool}
    (alive : Alive ⟨(), hook, others⟩)
    (ticking :
      totalOf Call.ticking others =
        totalOf Call.ticking calls + if ticks then 1 else 0) :
    Alive ⟨(), (hook.call calls ticks).1, (hook.call calls ticks).2⟩ := by
  have counted := ticking_call hook calls ticks
  apply alive.frame <;> try exact counted.trans ticking.symm
  all_goals
    simp only [Hook.call, Hook.poll]
    split <;> rfl

/-- The effect runs, and `tick` is called. -/
theorem Alive.mount
    (alive : Alive ⟨(), hook, calls⟩) :
    Alive
      ⟨(), (hook.mount.call calls true).1,
        (hook.mount.call calls true).2⟩ := by
  obtain ⟨bounded, -, -, only, -⟩ := alive
  have room :
      hook.timers.length + totalOf Call.ticking calls ≤ hook.mounts :=
    bounded
  have mounted : Alive ⟨(), hook.mount, calls ++ [.polled true]⟩ := by
    have ticking :
        totalOf Call.ticking (calls ++ [.polled true]) =
          totalOf Call.ticking calls + 1 :=
      totalOf_append ..
    refine ⟨?_, fun _ => ?_, fun _ => rfl, ?_, fun _ => Bool.noConfusion⟩
    · simp only [chains, ticking]
      exact Nat.succ_le_succ room
    · simp only [chains, ticking]
      exact Nat.le_add_left 1 _
    · intro few timer member
      have noMounts : hook.mounts = 0 :=
        Nat.le_zero.mp (Nat.le_of_succ_le_succ few)
      exact only (noMounts.trans_le (Nat.zero_le 1)) timer member
  exact mounted.call (totalOf_append ..)

/-- The cleanup runs. -/
theorem Alive.unmount
    (alive : Alive ⟨(), hook, calls⟩) :
    Alive ⟨(), hook.unmount, calls⟩ := by
  obtain ⟨bounded, -, -, only, -⟩ := alive
  have fewer : hook.unmount.timers.Sublist hook.timers := by
    unfold Hook.unmount
    cases hook.timerRef with
    | none => exact List.Sublist.refl _
    | some timer => exact List.erase_sublist
  have none : hook.mounts ≤ 1 → hook.unmount.timers = [] := by
    intro few
    have short : hook.timers.length ≤ 1 :=
      (Nat.le_add_right _ _).trans (bounded.trans few)
    cases pending : hook.timers with
    | nil => exact List.sublist_nil.mp (pending ▸ fewer)
    | cons timer rest =>
        have last : rest = [] := by
          rw [pending] at short
          exact List.eq_nil_of_length_eq_zero
            (Nat.le_zero.mp (Nat.le_of_succ_le_succ short))
        have current : hook.timerRef = some timer :=
          only few timer (pending ▸ List.mem_cons_self)
        simp [Hook.unmount, current, pending, last]
  refine ⟨?_, Bool.noConfusion, fun _ => rfl, ?_, fun few _ => none few⟩
  · exact (Nat.add_le_add_right fewer.length_le _).trans bounded
  · intro few timer member
    rw [none few] at member
    exact absurd member List.not_mem_nil

/-- A timer fires, and `tick` is called. -/
theorem Alive.fire
    {timer : Nat}
    (alive : Alive ⟨(), hook, calls⟩)
    (pending : timer ∈ hook.timers) :
    Alive
      ⟨(), ((hook.fire timer).call calls true).1,
        ((hook.fire timer).call calls true).2⟩ := by
  obtain ⟨bounded, lives, mounted, only, cleared⟩ := alive
  have ticking :
      totalOf Call.ticking (calls ++ [.polled true]) =
        totalOf Call.ticking calls + 1 :=
    totalOf_append ..
  have same :
      chains ⟨(), hook.fire timer, calls ++ [.polled true]⟩ =
        chains (⟨(), hook, calls⟩ : World Snapshot) := by
    have positive := List.length_pos_of_mem pending
    simp only [chains, Hook.fire, ticking,
      List.length_erase_of_mem pending]
    omega
  have fired :
      Alive ⟨(), hook.fire timer, calls ++ [.polled true]⟩ := by
    refine ⟨same.trans_le bounded, fun active => same ▸ lives active,
      mounted, ?_, ?_⟩
    · exact fun few other member =>
        only few other (List.mem_of_mem_erase member)
    · intro few inactive
      rw [cleared few inactive] at pending
      exact absurd pending List.not_mem_nil
  exact fired.call (totalOf_append ..)

/-- A call of `tick` schedules the next one, if the component is mounted. -/
theorem Alive.schedule
    {index : Nat}
    (alive : Alive ⟨(), hook, calls⟩)
    (found : calls[index]? = some (.polled true)) :
    Alive ⟨(), hook.schedule, calls.set index .finished⟩ := by
  obtain ⟨bounded, lives, mounted, only, cleared⟩ := alive
  have exchanged := totalOf_set Call.ticking .finished found
  have less :
      totalOf Call.ticking (calls.set index .finished) + 1 =
        totalOf Call.ticking calls :=
    exchanged
  simp only [chains] at bounded lives
  have mountedOnce : 1 ≤ hook.mounts :=
    Nat.le_trans (less ▸ Nat.le_add_left 1 _)
      ((Nat.le_add_left _ _).trans bounded)
  unfold Hook.schedule
  split
  · refine ⟨?_, fun _ => ?_, mounted, ?_, ?_⟩
    · simp only [chains, List.length_append, List.length_singleton]
      omega
    · simp only [chains, List.length_append, List.length_singleton]
      omega
    · -- with one effect this is the only timer
      intro few timer member
      have none : hook.timers = [] := by
        apply List.eq_nil_of_length_eq_zero
        have few : hook.mounts ≤ 1 := few
        omega
      simp only [none, List.nil_append] at member
      exact congrArg some (List.mem_singleton.mp member).symm
    · rename_i isMounted
      intro few inactive
      exact Bool.noConfusion
        (inactive.symm.trans ((mounted mountedOnce).symm.trans isMounted))
  · rename_i notMounted
    refine ⟨?_, ?_, mounted, only, cleared⟩
    · simp only [chains]
      omega
    · intro active
      exact absurd ((mounted mountedOnce).trans active) notMounted

/-- Every step keeps it. -/
theorem Alive.step
    {before after : World Snapshot}
    {event : Event Snapshot}
    (alive : Alive before)
    (taken : (machine Snapshot).step before event = some after) :
    Alive after := by
  cases event with
  | act index action =>
      obtain ⟨call, hook, next, spawned, found, moved, rfl⟩ :=
        TaskMachine.step_act taken
      simp only [machine, act] at moved
      split at moved
      case h_1 request ticks now outcome =>
          cases moved
          rw [List.append_nil]
          have exchanged := totalOf_set Call.ticking (.polled ticks) found
          have same :
              totalOf Call.ticking
                  (before.tasks.set index (.polled ticks)) =
                totalOf Call.ticking before.tasks := by
            cases ticks
            · exact exchanged
            · exact Nat.succ.inj exchanged
          apply alive.frame <;> try exact same
          all_goals
            simp only [Hook.answered]
            split <;> rfl
      case h_2 =>
          cases moved
          rw [List.append_nil]
          exact alive.schedule found
      case h_3 =>
          cases moved
          rw [List.append_nil]
          exact alive.frame rfl rfl rfl rfl rfl
            (totalOf_set Call.ticking .finished found)
      case h_4 => cases moved
  | env event =>
      obtain ⟨hook, calls, moved, rfl⟩ := TaskMachine.step_env taken
      cases event with
      | mount =>
          simp only [machine, env] at moved
          split at moved
          · cases moved
          · cases moved
            exact alive.mount
      | unmount =>
          simp only [machine, env] at moved
          split at moved
          · cases moved
            exact alive.unmount
          · cases moved
      | refresh =>
          cases moved
          exact alive.call rfl
      | fire timer =>
          simp only [machine, env] at moved
          split at moved
          · rename_i pending
            cases moved
            exact alive.fire pending
          · cases moved
  | change change => exact change.elim

end Chains

section Runs

variable
  {events : List (Event Snapshot)}
  {reached : World Snapshot}

/-- Nothing has been requested. -/
theorem Requests.initial : Requests (initial : World Snapshot) where
  single := rfl
  latest _ _ := List.not_mem_nil.elim
  older := List.forall_mem_nil _
  ordered := .nil
  shows :=
    { telemetry := rfl
      loading := rfl
      isConnected := by simp [TelemetryPolling.initial]
      error := rfl
      lastUpdated := rfl }

/-- Nothing polls. -/
theorem Alive.initial : Alive (initial : World Snapshot) where
  bounded := Nat.le_refl 0
  alive := Bool.noConfusion
  mounted positive := absurd positive (Nat.not_succ_le_zero 0)
  only _ := List.forall_mem_nil _
  cleared _ _ := rfl

/--
While a request is in flight, an effect that is cleaned up and run again leaves
one more `tick` behind.
-/
theorem exists_remount
    {before : World Snapshot}
    (active : before.shared.active = true)
    (inFlight : before.shared.inFlightRef = true)
    (timerRef : before.shared.timerRef = none) :
    ∃ after,
      Run (machine Snapshot).step (fun _ _ => True) before
        [.env .unmount, .env .mount] after ∧
      after.shared.active = true ∧
      after.shared.inFlightRef = true ∧
      after.shared.timerRef = none ∧
      after.shared.mounts = before.shared.mounts + 1 ∧
      chains after = chains before + 1 := by
  have unmounted :
      (machine Snapshot).step before (.env .unmount) =
        some { before with shared := before.shared.unmount } := by
    simp [TaskMachine.step, machine, env, active]
  have mounted :
      (machine Snapshot).step
          { before with shared := before.shared.unmount } (.env .mount) =
        some
          ⟨before.context, before.shared.unmount.mount,
            before.tasks ++ [.polled true]⟩ := by
    simp [TaskMachine.step, machine, env, Hook.call, Hook.poll, Hook.mount,
      Hook.unmount, inFlight]
  refine ⟨_, .cons trivial unmounted (.cons trivial mounted (.nil _)),
    rfl, inFlight, rfl, rfl, ?_⟩
  have timers : before.shared.unmount.timers = before.shared.timers := by
    simp [Hook.unmount, timerRef]
  simp only [chains, Hook.mount, timers, totalOf_append]
  exact (Nat.add_assoc _ _ _).symm

/-- So there are as many of them as the effect has run, if it runs that often. -/
theorem exists_chains (remounts : Nat) :
    ∃ events, ∃ reached : World Snapshot,
      Run (machine Snapshot).step (fun _ _ => True) initial events
        reached ∧
      reached.shared.active = true ∧
      reached.shared.inFlightRef = true ∧
      reached.shared.timerRef = none ∧
      reached.shared.mounts = remounts + 1 ∧
      chains reached = remounts + 1 := by
  induction remounts with
  | zero =>
      exact ⟨[.env .mount], _, .cons trivial rfl (.nil _), rfl, rfl, rfl,
        rfl, rfl⟩
  | succ remounts inductionHypothesis =>
      obtain ⟨events, before, run, active, inFlight, timerRef, mounts,
        chained⟩ := inductionHypothesis
      obtain ⟨after, later, active, inFlight, timerRef, more, longer⟩ :=
        exists_remount active inFlight timerRef
      exact ⟨_, after, run.append later, active, inFlight, timerRef,
        more.trans (congrArg (· + 1) mounts),
        longer.trans (congrArg (· + 1) chained)⟩

/--
In every run at most one request is in flight; the answers are taken over in the
order of their requests, and the display is that of the latest ones.  While the
effect is active something keeps polling alive, and never more than the number of
times the effect has run, a bound that is reached; if it has run only once, no
timer is left after its cleanup.
-/
theorem polling_disciplined
    (run :
      Run (machine Snapshot).step (fun _ _ => True) initial events
        reached) :
    totalOf Call.inFlight reached.tasks =
        (if reached.shared.inFlightRef then 1 else 0) ∧
      Ordered reached.shared.answers ∧
      Shows reached.shared.answers reached.shared.display ∧
      (reached.shared.active = true → 1 ≤ chains reached) ∧
      chains reached ≤ reached.shared.mounts ∧
      (∀ mounts, 0 < mounts →
        ∃ others, ∃ other : World Snapshot,
          Run (machine Snapshot).step (fun _ _ => True) initial others
            other ∧
          other.shared.mounts = mounts ∧ chains other = mounts) ∧
      (reached.shared.mounts ≤ 1 →
        reached.shared.active = false → reached.shared.timers = []) := by
  have requests : Requests reached :=
    run.invariant Requests (fun requests _ taken => requests.step taken)
      .initial
  have alive : Alive reached :=
    run.invariant Alive (fun alive _ taken => alive.step taken) .initial
  refine ⟨requests.single, requests.ordered, requests.shows, alive.alive,
    alive.bounded, ?_, alive.cleared⟩
  intro mounts positive
  obtain ⟨others, other, reaches, -, -, -, mounted, chained⟩ :=
    @exists_chains Snapshot (mounts - 1)
  have sum : mounts - 1 + 1 = mounts := Nat.sub_add_cancel positive
  exact ⟨others, other, reaches, mounted.trans sum, chained.trans sum⟩

end Runs

/-- An answer, a failed refresh while the timer is pending, then the cleanup. -/
def sampleSession : List (Event Nat) :=
  [.env .mount, .act 0 (.answered 5 (.ok 42)), .act 0 .proceed,
    .env .refresh, .act 1 (.answered 9 (.error "Network error")),
    .act 1 .proceed, .env .unmount]

/-- The snapshot stays, the error is shown, and no timer is left. -/
theorem polling_disciplined_sample :
    ∃ reached : World Nat,
      Run (machine Nat).step (fun _ _ => True) initial sampleSession
        reached ∧
      reached.shared.display.telemetry = some 42 ∧
      reached.shared.display.isConnected = false ∧
      reached.shared.timers = [] := by
  obtain ⟨reached, run, telemetry, isConnected, mounts, active⟩ :
      ∃ reached : World Nat,
        Run (machine Nat).step (fun _ _ => True) initial sampleSession
          reached ∧
        reached.shared.display.telemetry = some 42 ∧
          reached.shared.display.isConnected = false ∧
          reached.shared.mounts = 1 ∧ reached.shared.active = false :=
    Run.exists_of_replay
      (fun (reached : World Nat) =>
        reached.shared.display.telemetry = some 42 ∧
          reached.shared.display.isConnected = false ∧
          reached.shared.mounts = 1 ∧ reached.shared.active = false)
      (by decide +kernel)
  obtain ⟨-, -, -, -, -, -, cleared⟩ := polling_disciplined run
  exact ⟨reached, run, telemetry, isConnected,
    cleared mounts.le active⟩

end Replication.TelemetryPolling
