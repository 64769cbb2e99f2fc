import Replication.CircuitBreaker
import Replication.RabbitMQSink
import Replication.TaskMachine

namespace Replication.RabbitMQSink

/-!
# A closed broker connection

`PipelineCoordinator.start` awaits `connect()` once and then launches the
runners, whose dispatches reach `publishBatch` through one circuit breaker.
When the connection closes, the handlers drop the channel, and nothing connects
again: the health probe only looks at the channel, and `publishBatch` throws
without one.  So no publication that begins after the close ever succeeds, no
matter how many attempts the runners make.

An attempt is one call of `execute`, suspended in the sleep of an open breaker,
at the health probe, or inside `publishBatch`.
-/

/-- A connection or a channel of the AMQP library. -/
inductive Link where
  | absent
  | open
  | closed
  deriving DecidableEq, Repr

/-- Where the one call of `connect()` is; an answer may wait to be read. -/
inductive Connecting where
  | connecting (answered : Bool)
  | creating (answered : Bool)
  | declaring (answered : Bool)
  | settled
  deriving DecidableEq, Repr

/-- Fields of the sink, the library objects behind them, and the breaker. -/
structure Shared where
  connect : Connecting
  connection : Link
  confirmChannel : Link
  /-- `this.connection` is set. -/
  hasConnection : Bool
  /-- `this.channel` is set. -/
  hasChannel : Bool
  isConnected : Bool
  breaker : CircuitBreaker
  deriving Repr

/-- A call of `execute` with its `publishBatch`. -/
inductive Attempt where
  | sleeping (eventType : ReplicationEventType) (records : List SourceRecord)
  | probing
      (eventType : ReplicationEventType)
      (records : List SourceRecord)
      (healthy : Option Bool)
  | publishing (eventType : ReplicationEventType) (call : PublishBatch)
  | fulfilled (result : SinkResult)
  | rejected
  deriving Repr

/-- A step of one attempt, or of the library it waits for. -/
inductive Act where
  /-- The sleep is over. -/
  | wake
  /-- `checkExchange` settles. -/
  | checked (exists_ : Bool)
  /-- The answer of the probe is read. -/
  | probed (now : Int) (jitter : Nat)
  /-- A channel operation of `publishBatch` settles. -/
  | channel (answer : Answer)
  /-- The outcome of `publishBatch` is read. -/
  | settled (now : Int) (jitter : Nat)
  deriving Repr

/-- What happens around the attempts. -/
inductive Env where
  /-- The library fulfils what `connect()` awaits. -/
  | answer
  /-- The library rejects it, and `start` goes on without a connection. -/
  | refuse
  /-- `connect()` runs from a settled await to the next one. -/
  | resume
  | connectionError
  | connectionClosed
  | channelClosed
  /-- A runner dispatches a batch. -/
  | execute
      (eventType : ReplicationEventType)
      (records : List SourceRecord)
      (now : Int)
  | trip (now : Int) (jitter : Nat) (durationMs : Option Int)
  | tripElapsed
  | reset
  deriving Repr

namespace Shared

/-- The library fulfils what `connect()` awaits. -/
def answer (shared : Shared) : Option Shared :=
  match shared.connect with
  | .connecting false =>
      some { shared with connect := .connecting true, connection := .open }
  | .creating false =>
      if shared.connection = .open then
        some { shared with
          connect := .creating true, confirmChannel := .open }
      else
        none
  | .declaring false =>
      if shared.confirmChannel = .open then
        some { shared with connect := .declaring true }
      else
        none
  | _ => none

/-- The library rejects what `connect()` awaits. -/
def refuse (shared : Shared) : Option Shared :=
  match shared.connect with
  | .connecting false => some { shared with connect := .settled }
  | .creating false => some { shared with connect := .settled }
  | .declaring false => some { shared with connect := .settled }
  | _ => none

/-- `connect()` from a fulfilled await to the next one. -/
def resume (shared : Shared) : Option Shared :=
  match shared.connect with
  | .connecting true =>
      some { shared with connect := .creating false, hasConnection := true }
  | .creating true =>
      some { shared with connect := .declaring false, hasChannel := true }
  | .declaring true =>
      some { shared with connect := .settled, isConnected := true }
  | _ => none

/-- The handler of `'close'` on the connection, and what it is told. -/
def connectionClosed (shared : Shared) : Option Shared :=
  if shared.connection = .open then
    let closed :=
      { shared with
        connection := .closed
        confirmChannel :=
          if shared.confirmChannel = .open then
            .closed
          else
            shared.confirmChannel }
    if shared.hasConnection then
      some { closed with isConnected := false, hasChannel := false }
    else
      some closed
  else
    none

/-- The handler of `'error'` on the connection. -/
def connectionError (shared : Shared) : Option Shared :=
  if shared.hasConnection then
    some { shared with isConnected := false }
  else
    none

/-- The handler of `'close'` on the channel; it is set with `this.channel`. -/
def channelClosed (shared : Shared) : Option Shared :=
  if shared.confirmChannel = .open then
    some { shared with confirmChannel := .closed, hasChannel := false }
  else
    none

/-- The channel can answer an operation in this way. -/
def Permits (shared : Shared) : Answer → Prop
  | .published _ _ _ =>
      shared.hasChannel = true ∧ shared.confirmChannel = .open
  | _ => True

instance (shared : Shared) : DecidablePred shared.Permits
  | .published _ _ _ => inferInstanceAs (Decidable (_ ∧ _))
  | .publishThrew _ => isTrue trivial
  | .drained => isTrue trivial
  | .confirmed => isTrue trivial
  | .notConfirmed _ => isTrue trivial

/-- `execute` goes on to what it awaits next. -/
def openGate
    (shared : Shared)
    (eventType : ReplicationEventType)
    (records : List SourceRecord) : CircuitBreaker.Gate → Attempt
  | .sleep _ => .sleeping eventType records
  | .probe =>
      .probing eventType records
        (if shared.isConnected ∧ shared.hasChannel then
          none
        else
          some false)
  | .operate =>
      .publishing eventType (publishBatch shared.hasChannel records)

end Shared

/-- One step of one attempt. -/
def act
    (options : CircuitBreaker.Options)
    (_ : Unit)
    (shared : Shared) :
    Attempt → Act → Option (Shared × Attempt × List Attempt)
  | .sleeping eventType records, .wake =>
      let (breaker, gate) := shared.breaker.afterSleep options
      some ({ shared with breaker },
        shared.openGate eventType records gate, [])
  | .probing eventType records none, .checked exists_ =>
      if exists_ = true → shared.confirmChannel = .open then
        some (shared, .probing eventType records (some exists_), [])
      else
        none
  | .probing eventType records (some true), .probed _ _ =>
      some ({ shared with breaker := shared.breaker.tryHalfOpen },
        .publishing eventType (publishBatch shared.hasChannel records), [])
  | .probing _ _ (some false), .probed now jitter =>
      some
        ({ shared with
            breaker := shared.breaker.probeFailed options now jitter },
          .rejected, [])
  | .publishing eventType call, .channel answer =>
      if shared.Permits answer then
        (step call answer).map fun next =>
          (shared, .publishing eventType next, [])
      else
        none
  | .publishing _ (.returned result), .settled now _ =>
      some
        ({ shared with breaker := shared.breaker.succeeded options now },
          .fulfilled result, [])
  | .publishing _ .threw, .settled now jitter =>
      some
        ({ shared with
            breaker := shared.breaker.failed options now jitter },
          .rejected, [])
  | _, _ => none

/-- What happens around the attempts. -/
def env
    (options : CircuitBreaker.Options)
    (_ : Unit)
    (shared : Shared)
    (attempts : List Attempt) : Env → Option (Shared × List Attempt)
  | .answer => shared.answer.map fun after => (after, attempts)
  | .refuse => shared.refuse.map fun after => (after, attempts)
  | .resume => shared.resume.map fun after => (after, attempts)
  | .connectionError =>
      shared.connectionError.map fun after => (after, attempts)
  | .connectionClosed =>
      shared.connectionClosed.map fun after => (after, attempts)
  | .channelClosed =>
      shared.channelClosed.map fun after => (after, attempts)
  | .execute eventType records now =>
      if shared.connect = .settled ∧ records ≠ [] then
        let (breaker, gate) := shared.breaker.execute options now
        some ({ shared with breaker },
          attempts ++ [shared.openGate eventType records gate])
      else
        none
  | .trip now jitter durationMs =>
      some
        ({ shared with
            breaker := shared.breaker.trip options now jitter durationMs },
          attempts)
  | .tripElapsed =>
      some ({ shared with breaker := shared.breaker.tripElapsed }, attempts)
  | .reset =>
      some ({ shared with breaker := shared.breaker.reset }, attempts)

/-- The sink, its breaker and its broker connection as a task machine. -/
def machine (options : CircuitBreaker.Options) :
    TaskMachine Unit Shared Attempt Act Env Empty where
  act := act options
  env := env options
  change := fun _ => nofun

/-- The sink with the attempts made on it. -/
abbrev World := TaskMachine.World Unit Shared Attempt

/-- An event of the sink's machine. -/
abbrev Event := TaskMachine.Event Act Env Empty

/-- `PipelineCoordinator.start` has just called `connect()`. -/
def initial : World where
  context := ()
  shared :=
    { connect := .connecting false
      connection := .absent
      confirmChannel := .absent
      hasConnection := false
      hasChannel := false
      isConnected := false
      breaker := .fresh }
  tasks := []

/-- Nothing is refused and nothing closes: the broker is reachable. -/
def BrokerReachable (_ : World) : Event → Prop
  | .env .refuse => False
  | .env .connectionError => False
  | .env .connectionClosed => False
  | .env .channelClosed => False
  | _ => True

instance (world : World) : DecidablePred (BrokerReachable world)
  | .env .answer => isTrue trivial
  | .env .refuse => isFalse id
  | .env .resume => isTrue trivial
  | .env .connectionError => isFalse id
  | .env .connectionClosed => isFalse id
  | .env .channelClosed => isFalse id
  | .env (.execute _ _ _) => isTrue trivial
  | .env (.trip _ _ _) => isTrue trivial
  | .env .tripElapsed => isTrue trivial
  | .env .reset => isTrue trivial
  | .act _ _ => isTrue trivial
  | .change change => change.elim

namespace Attempt

/-- `publishBatch` has been called, or will not be. -/
def Begun : Attempt → Prop
  | .publishing _ _ => True
  | .fulfilled _ => True
  | .rejected => True
  | _ => False

/-- The attempt has ended. -/
def Ended : Attempt → Prop
  | .fulfilled _ => True
  | .rejected => True
  | _ => False

instance : DecidablePred Ended
  | .sleeping _ _ => isFalse id
  | .probing _ _ _ => isFalse id
  | .publishing _ _ => isFalse id
  | .fulfilled _ => isTrue trivial
  | .rejected => isTrue trivial

/-- `publishBatch` has reported a record as successful. -/
def Succeeded : Attempt → Prop
  | .fulfilled result => result.successfulIds ≠ []
  | _ => False

end Attempt

/-- Attempts made and ended since then. -/
def endedSince (reached later : World) : Nat :=
  (later.tasks.drop reached.tasks.length).countP fun attempt =>
    attempt.Ended

/-- A `publishBatch` called since then has succeeded. -/
def SucceededSince (reached later : World) : Prop :=
  ∃ (index : Nat) (attempt : Attempt),
    later.tasks[index]? = some attempt ∧ attempt.Succeeded ∧
      ∀ old : Attempt, reached.tasks[index]? = some old → ¬ old.Begun

/-- If the broker is reachable from now on, enough attempts include a success. -/
def Recovers
    (options : CircuitBreaker.Options)
    (reached : World) : Prop :=
  ∃ bound, ∀ events later,
    Run (machine options).step BrokerReachable reached events later →
    bound ≤ endedSince reached later →
    SucceededSince reached later

section Fruitless

/-- No message of the call has been accepted. -/
def PublishBatch.NothingSent : PublishBatch → Prop
  | .publishing batch => batch.inFlightIds = []
  | .draining batch => batch.inFlightIds = []
  | .confirming batch => batch.inFlightIds = []
  | .returned result => result.successfulIds = []
  | .threw => True

/-- No message of the attempt has been accepted. -/
def Attempt.Fruitless : Attempt → Prop
  | .publishing _ call => call.NothingSent
  | .fulfilled result => result.successfulIds = []
  | _ => True

/-- The loop head sends nothing. -/
theorem nothingSent_enterLoop
    {position : Nat}
    {failures : List SinkFailure}
    {remaining : List SourceRecord} :
    (enterLoop position [] failures remaining).NothingSent := by
  induction remaining generalizing position failures with
  | nil => rfl
  | cons record rest inductionHypothesis =>
      simp only [enterLoop]
      split
      · exact inductionHypothesis
      · rfl

/-- A call starts with nothing sent. -/
theorem nothingSent_publishBatch
    {hasChannel : Bool}
    {records : List SourceRecord} :
    (publishBatch hasChannel records).NothingSent := by
  unfold publishBatch
  split
  · rfl
  · split
    · exact nothingSent_enterLoop
    · trivial

/-- Without an accepted message there is nothing to confirm. -/
theorem nothingSent_step
    {call next : PublishBatch}
    {answer : Answer}
    (nothing : call.NothingSent)
    (refused : ∀ uuid now room, answer ≠ .published uuid now room)
    (taken : step call answer = some next) :
    next.NothingSent := by
  unfold step at taken
  split at taken
  case h_1 batch uuid now room => exact absurd rfl (refused uuid now room)
  case h_2 batch message =>
    have none : batch.inFlightIds = [] := nothing
    split at taken
    · cases taken
    · cases taken
      rw [none]
      exact nothingSent_enterLoop
  case h_3 batch =>
    have none : batch.inFlightIds = [] := nothing
    cases taken
    rw [none]
    exact nothingSent_enterLoop
  case h_4 batch =>
    cases taken
    exact nothing
  case h_5 batch message =>
    cases taken
    rfl
  case h_6 => cases taken

end Fruitless

section Links

variable
  {options : CircuitBreaker.Options}
  {shared after : Shared}
  {attempt next : Attempt}
  {attempts spawned : List Attempt}

/-- Everything a step can do to the connection and its channel. -/
inductive LinkMove (shared after : Shared) : Prop where
  | keep
      (connection : after.connection = shared.connection)
      (channel : after.confirmChannel = shared.confirmChannel)
      (connect :
        after.connect = .connecting false →
          shared.connect = .connecting false)
  | connected
      (fresh : shared.connect = .connecting false)
      (connect : after.connect = .connecting true)
      (connection : after.connection = .open)
  | created
      (isOpen : shared.connection = .open)
      (connection : after.connection = .open)
      (connect : after.connect = .creating true)
  | closed
      (isOpen : shared.connection = .open)
      (connection : after.connection = .closed)
      (connect : after.connect = shared.connect)
      (channel : after.confirmChannel ≠ .open)
  | channelClosed
      (connection : after.connection = shared.connection)
      (connect : after.connect = shared.connect)
      (channel : after.confirmChannel ≠ .open)

/-- The connection is made once, and a channel is open on it only. -/
structure Shared.Wired (shared : Shared) : Prop where
  fresh : shared.connect = .connecting false → shared.connection = .absent
  channel : shared.confirmChannel = .open → shared.connection = .open

/-- Every step keeps the wiring. -/
theorem Shared.Wired.step
    (wired : shared.Wired)
    (move : LinkMove shared after) :
    after.Wired := by
  cases move with
  | keep connection channel connect =>
      constructor
      · intro fresh
        rw [connection]
        exact wired.fresh (connect fresh)
      · intro isOpen
        rw [connection]
        exact wired.channel (channel.symm.trans isOpen)
  | connected fresh connect connection =>
      refine ⟨fun isFresh => ?_, fun _ => connection⟩
      rw [connect] at isFresh
      cases isFresh
  | created isOpen connection connect =>
      refine ⟨fun isFresh => ?_, fun _ => connection⟩
      rw [connect] at isFresh
      cases isFresh
  | closed isOpen connection connect channel =>
      refine ⟨fun isFresh => ?_, fun stillOpen => absurd stillOpen channel⟩
      have absent := wired.fresh (connect.symm.trans isFresh)
      rw [isOpen] at absent
      cases absent
  | channelClosed connection connect channel =>
      refine ⟨fun isFresh => ?_, fun stillOpen => absurd stillOpen channel⟩
      rw [connection]
      exact wired.fresh (connect.symm.trans isFresh)

/-- A connection that has closed stays closed. -/
theorem Shared.Wired.closed_step
    (wired : shared.Wired)
    (closed : shared.connection = .closed)
    (move : LinkMove shared after) :
    after.connection = .closed := by
  cases move with
  | keep connection channel connect => exact connection.trans closed
  | connected fresh connect connection =>
      have absent := wired.fresh fresh
      rw [closed] at absent
      cases absent
  | created isOpen connection connect =>
      rw [closed] at isOpen
      cases isOpen
  | closed isOpen connection connect channel => exact connection
  | channelClosed connection connect channel =>
      exact connection.trans closed

/-- What the surroundings do to the links. -/
theorem linkMove_env
    {event : Env}
    (moved : env options () shared attempts event = some (after, spawned)) :
    LinkMove shared after := by
  cases event with
  | answer =>
      obtain ⟨_, answered, same⟩ := Option.map_eq_some_iff.mp moved
      cases same
      unfold Shared.answer at answered
      split at answered
      · rename_i fresh
        cases answered
        exact .connected fresh rfl rfl
      · split at answered <;> cases answered
        rename_i isOpen
        exact .created isOpen isOpen rfl
      · split at answered <;> cases answered
        exact .keep rfl rfl nofun
      · cases answered
  | refuse =>
      obtain ⟨_, refused, same⟩ := Option.map_eq_some_iff.mp moved
      cases same
      unfold Shared.refuse at refused
      split at refused <;> cases refused <;> exact .keep rfl rfl nofun
  | resume =>
      obtain ⟨_, resumed, same⟩ := Option.map_eq_some_iff.mp moved
      cases same
      unfold Shared.resume at resumed
      split at resumed <;> cases resumed <;> exact .keep rfl rfl nofun
  | connectionError =>
      obtain ⟨_, failed, same⟩ := Option.map_eq_some_iff.mp moved
      cases same
      unfold Shared.connectionError at failed
      split at failed <;> cases failed
      exact .keep rfl rfl id
  | connectionClosed =>
      obtain ⟨_, closed, same⟩ := Option.map_eq_some_iff.mp moved
      cases same
      have channel :
          (if shared.confirmChannel = .open then
            Link.closed else shared.confirmChannel) ≠ .open := by
        split
        · exact nofun
        · assumption
      unfold Shared.connectionClosed at closed
      split at closed
      · rename_i isOpen
        dsimp only at closed
        split at closed <;> cases closed
        · exact .closed isOpen rfl rfl channel
        · exact .closed isOpen rfl rfl channel
      · cases closed
  | channelClosed =>
      obtain ⟨_, closed, same⟩ := Option.map_eq_some_iff.mp moved
      cases same
      unfold Shared.channelClosed at closed
      split at closed <;> cases closed
      exact .channelClosed rfl rfl nofun
  | execute eventType records now =>
      simp only [env] at moved
      split at moved <;> cases moved
      exact .keep rfl rfl id
  | trip now jitter durationMs => cases moved; exact .keep rfl rfl id
  | tripElapsed => cases moved; exact .keep rfl rfl id
  | reset => cases moved; exact .keep rfl rfl id

/-- A step of an attempt leaves the links alone and spawns nothing. -/
theorem linkMove_act
    {action : Act}
    (moved :
      act options () shared attempt action = some (after, next, spawned)) :
    LinkMove shared after ∧ spawned = [] := by
  unfold act at moved
  split at moved
  case h_1 => cases moved; exact ⟨.keep rfl rfl id, rfl⟩
  case h_2 =>
    split at moved
    · cases moved; exact ⟨.keep rfl rfl id, rfl⟩
    · cases moved
  case h_3 => cases moved; exact ⟨.keep rfl rfl id, rfl⟩
  case h_4 => cases moved; exact ⟨.keep rfl rfl id, rfl⟩
  case h_5 =>
    split at moved
    · obtain ⟨_, _, same⟩ := Option.map_eq_some_iff.mp moved
      cases same
      exact ⟨.keep rfl rfl id, rfl⟩
    · cases moved
  case h_6 => cases moved; exact ⟨.keep rfl rfl id, rfl⟩
  case h_7 => cases moved; exact ⟨.keep rfl rfl id, rfl⟩
  case h_8 => cases moved

/-- An open gate leads to an attempt that has sent nothing. -/
theorem fruitless_openGate
    (eventType : ReplicationEventType)
    (records : List SourceRecord)
    (gate : CircuitBreaker.Gate) :
    (shared.openGate eventType records gate).Fruitless := by
  cases gate with
  | sleep durationMs => trivial
  | probe => trivial
  | operate => exact nothingSent_publishBatch

/-- Without an open channel an attempt stays fruitless. -/
theorem fruitless_act
    {action : Act}
    (noChannel : shared.confirmChannel ≠ .open)
    (fruitless : attempt.Fruitless)
    (moved :
      act options () shared attempt action = some (after, next, spawned)) :
    next.Fruitless := by
  unfold act at moved
  split at moved
  case h_1 eventType records =>
    cases moved
    exact fruitless_openGate eventType records _
  case h_2 =>
    split at moved
    · cases moved; trivial
    · cases moved
  case h_3 => cases moved; exact nothingSent_publishBatch
  case h_4 => cases moved; trivial
  case h_5 eventType call answer =>
    split at moved
    · rename_i permitted
      obtain ⟨_, taken, same⟩ := Option.map_eq_some_iff.mp moved
      cases same
      refine nothingSent_step fruitless ?_ taken
      rintro uuid now room rfl
      exact noChannel permitted.2
    · cases moved
  case h_6 => cases moved; exact fruitless
  case h_7 => cases moved; trivial
  case h_8 => cases moved

/-- The surroundings leave the attempts alone, or one is made. -/
theorem attempts_env
    {event : Env}
    (moved : env options () shared attempts event = some (after, spawned)) :
    spawned = attempts ∨
      ∃ new, spawned = attempts ++ [new] ∧ new.Fruitless := by
  cases event with
  | execute eventType records now =>
      simp only [env] at moved
      split at moved <;> cases moved
      exact .inr ⟨_, rfl, fruitless_openGate _ _ _⟩
  | trip now jitter durationMs => cases moved; exact .inl rfl
  | tripElapsed => cases moved; exact .inl rfl
  | reset => cases moved; exact .inl rfl
  | _ =>
      obtain ⟨_, _, same⟩ := Option.map_eq_some_iff.mp moved
      cases same
      exact .inl rfl

end Links

section Closed

variable
  {options : CircuitBreaker.Options}
  {before after reached later : World}
  {event : Event}
  {events : List Event}

/-- Every step keeps the wiring. -/
theorem wired_step
    (wired : before.shared.Wired)
    (taken : (machine options).step before event = some after) :
    LinkMove before.shared after.shared ∧ after.shared.Wired := by
  cases event with
  | act index action =>
      obtain ⟨attempt, shared, next, spawned, _, moved, rfl⟩ :=
        TaskMachine.step_act taken
      have move := (linkMove_act moved).1
      exact ⟨move, wired.step move⟩
  | env event =>
      obtain ⟨shared, tasks, moved, rfl⟩ := TaskMachine.step_env taken
      have move := linkMove_env moved
      exact ⟨move, wired.step move⟩
  | change change => exact change.elim

/--
What holds after the connection has closed: it stays closed, and every attempt
whose `publishBatch` had not begun then is fruitless.
-/
structure ClosedSince (reached later : World) : Prop where
  wired : later.shared.Wired
  closed : later.shared.connection = .closed
  fruitless :
    ∀ (index : Nat) (attempt : Attempt),
      later.tasks[index]? = some attempt →
      attempt.Fruitless ∨
        ∃ old : Attempt, reached.tasks[index]? = some old ∧ old.Begun

/-- It holds when the connection has just closed. -/
theorem ClosedSince.refl
    (wired : reached.shared.Wired)
    (closed : reached.shared.connection = .closed) :
    ClosedSince reached reached where
  wired := wired
  closed := closed
  fruitless := by
    intro index attempt found
    cases attempt with
    | sleeping eventType records => exact .inl trivial
    | probing eventType records healthy => exact .inl trivial
    | publishing eventType call => exact .inr ⟨_, found, trivial⟩
    | fulfilled result => exact .inr ⟨_, found, trivial⟩
    | rejected => exact .inl trivial

/-- Every step keeps it. -/
theorem ClosedSince.step
    (holds : ClosedSince reached before)
    (taken : (machine options).step before event = some after) :
    ClosedSince reached after := by
  obtain ⟨move, wired⟩ := wired_step holds.wired taken
  refine ⟨wired, holds.wired.closed_step holds.closed move, ?_⟩
  have noChannel : before.shared.confirmChannel ≠ .open := by
    intro isOpen
    have connected := holds.wired.channel isOpen
    rw [holds.closed] at connected
    cases connected
  cases event with
  | act index action =>
      obtain ⟨attempt, shared, next, spawned, found, moved, rfl⟩ :=
        TaskMachine.step_act taken
      obtain rfl := (linkMove_act moved).2
      intro position other atPosition
      rw [List.append_nil] at atPosition
      by_cases same : index = position
      · subst position
        have bound := (List.getElem?_eq_some_iff.mp found).1
        rw [List.getElem?_set_self bound] at atPosition
        cases atPosition
        refine (holds.fruitless index attempt found).imp_left ?_
        exact fun fruitless => fruitless_act noChannel fruitless moved
      · rw [List.getElem?_set_ne same] at atPosition
        exact holds.fruitless position other atPosition
  | env event =>
      obtain ⟨shared, tasks, moved, rfl⟩ := TaskMachine.step_env taken
      rcases attempts_env moved with rfl | ⟨new, rfl, fruitless⟩
      · exact holds.fruitless
      · intro position other atPosition
        by_cases old : position < before.tasks.length
        · rw [List.getElem?_append_left old] at atPosition
          exact holds.fruitless position other atPosition
        · rw [List.getElem?_append_right (Nat.le_of_not_lt old)]
            at atPosition
          obtain rfl :=
            List.mem_singleton.mp (List.mem_of_getElem? atPosition)
          exact .inl fruitless
  | change change => exact change.elim

/-- No `publishBatch` that begins after the close succeeds. -/
theorem ClosedSince.not_succeeded
    (holds : ClosedSince reached later) :
    ¬ SucceededSince reached later := by
  rintro ⟨index, attempt, found, succeeded, notBegun⟩
  rcases holds.fruitless index attempt found with
    fruitless | ⟨old, oldFound, begun⟩
  · cases attempt with
    | fulfilled result => exact succeeded fruitless
    | _ => exact succeeded
  · exact notBegun old oldFound begun

end Closed

section Attempts

variable
  {options : CircuitBreaker.Options}
  {shared : Shared}

/-- A record that can be published. -/
def sampleRecord (id : Nat) : SourceRecord where
  id
  uuid := ""
  tenantId := .str ""
  payload := .null
  version := 1
  status := ""
  isCorrupted := false
  createdAt := 0
  updatedAt := 0

/-- The last attempt takes a step. -/
theorem step_last
    {after : Shared}
    {attempt next : Attempt}
    {action : Act}
    (attempts : List Attempt)
    (moved : act options () shared attempt action = some (after, next, [])) :
    (machine options).step ⟨(), shared, attempts ++ [attempt]⟩
        (.act attempts.length action) =
      some ⟨(), after, attempts ++ [next]⟩ := by
  simp [TaskMachine.step, machine, moved]

/-- The last attempt can be brought to an end without the broker's help. -/
def Finishes
    (options : CircuitBreaker.Options)
    (attempts : List Attempt)
    (shared : Shared)
    (attempt : Attempt) : Prop :=
  ∃ events after ended,
    Run (machine options).step BrokerReachable
      ⟨(), shared, attempts ++ [attempt]⟩ events
      ⟨(), after, attempts ++ [ended]⟩ ∧
    Attempt.Ended ended ∧ Shared.connect after = shared.connect

/-- One more step in front. -/
theorem Finishes.step
    {after : Shared}
    {attempt next : Attempt}
    {action : Act}
    {attempts : List Attempt}
    (moved : act options () shared attempt action = some (after, next, []))
    (same : after.connect = shared.connect)
    (finishes : Finishes options attempts after next) :
    Finishes options attempts shared attempt := by
  obtain ⟨events, last, ended, run, isEnded, lastSame⟩ := finishes
  have admitted :
      BrokerReachable ⟨(), shared, attempts ++ [attempt]⟩
        (.act attempts.length action) := trivial
  exact ⟨_, last, ended, .cons admitted (step_last attempts moved) run,
    isEnded, lastSame.trans same⟩

/-- An attempt that has ended needs no steps. -/
theorem Finishes.refl
    {attempt : Attempt}
    (attempts : List Attempt)
    (ended : attempt.Ended) :
    Finishes options attempts shared attempt :=
  ⟨[], shared, attempt, .nil _, ended, rfl⟩

/-- Without a channel the publication throws, with a dead one it fails. -/
theorem finishes_publishing
    (attempts : List Attempt)
    (eventType : ReplicationEventType) :
    Finishes options attempts shared
      (.publishing eventType
        (publishBatch shared.hasChannel [sampleRecord 1])) := by
  cases shared.hasChannel with
  | false =>
      exact .step
        (show act options () shared
          (.publishing eventType (publishBatch false [sampleRecord 1]))
          (.settled 0 0) = some (_, .rejected, []) from rfl)
        rfl (.refl _ trivial)
  | true =>
      have threw :
          act options () shared
            (.publishing eventType (publishBatch true [sampleRecord 1]))
            (.channel (.publishThrew "Channel closed")) =
          some (shared,
            .publishing eventType
              (.returned (resultOf []
                [publishFailure (sampleRecord 1) "Channel closed"])),
            []) := rfl
      refine .step threw rfl ?_
      exact .step
        (show act options () shared _ (.settled 0 0) =
          some (_, .fulfilled _, []) from rfl)
        rfl (.refl _ trivial)

/-- Whatever the breaker asks for, the attempt ends. -/
theorem finishes_openGate
    (attempts : List Attempt)
    (eventType : ReplicationEventType)
    {gate : CircuitBreaker.Gate}
    (awake : ∀ durationMs, gate ≠ .sleep durationMs) :
    Finishes options attempts shared
      (shared.openGate eventType [sampleRecord 1] gate) := by
  cases gate with
  | sleep durationMs => exact absurd rfl (awake durationMs)
  | operate => exact finishes_publishing attempts eventType
  | probe =>
      have unhealthy :
          Finishes options attempts shared
            (.probing eventType [sampleRecord 1] (some false)) :=
        .step
          (show act options () shared _ (.probed 0 0) =
            some (_, .rejected, []) from rfl)
          rfl (.refl _ trivial)
      simp only [Shared.openGate]
      split
      · exact .step
          (show act options () shared _ (.checked false) =
            some (shared, .probing eventType [sampleRecord 1] (some false),
              []) from by simp [act])
          rfl unhealthy
      · exact unhealthy

/-- A breaker does not sleep past its next attempt. -/
theorem execute_ne_sleep
    (breaker : CircuitBreaker)
    (durationMs : Int) :
    (breaker.execute options (breaker.nextAttemptTime.getD 0)).2 ≠
      .sleep durationMs := by
  have slept : (breaker.afterSleep options).2 ≠ .sleep durationMs := by
    unfold CircuitBreaker.afterSleep
    split <;> simp
  unfold CircuitBreaker.execute
  cases next : breaker.nextAttemptTime with
  | none =>
      split
      · exact slept
      · simp
  | some time =>
      split
      · simpa using slept
      · simp

/-- One more attempt can be made and ended. -/
theorem exists_attempt
    {world : World}
    (launched : world.shared.connect = .settled) :
    ∃ events later ended,
      Run (machine options).step BrokerReachable world events later ∧
      later.tasks = world.tasks ++ [ended] ∧
      Attempt.Ended ended ∧
      later.shared.connect = .settled := by
  let now := world.shared.breaker.nextAttemptTime.getD 0
  let executed := world.shared.breaker.execute options now
  let shared := { world.shared with breaker := executed.1 }
  have begun :
      (machine options).step world
          (.env (.execute .recordMutated [sampleRecord 1] now)) =
        some ⟨(), shared, world.tasks ++
          [shared.openGate .recordMutated [sampleRecord 1] executed.2]⟩ := by
    simp [TaskMachine.step, machine, env, launched, executed, shared,
      Shared.openGate]
  have admitted :
      BrokerReachable world
        (.env (.execute .recordMutated [sampleRecord 1] now)) := trivial
  obtain ⟨events, after, ended, run, isEnded, same⟩ :=
    @finishes_openGate options shared world.tasks .recordMutated
      executed.2 (execute_ne_sleep world.shared.breaker)
  exact ⟨_, _, ended, .cons admitted begun run, rfl, isEnded,
    same.trans launched⟩

/-- Any number of attempts can be made and ended. -/
theorem exists_attempts
    {world : World}
    (launched : world.shared.connect = .settled)
    (number : Nat) :
    ∃ events later,
      Run (machine options).step BrokerReachable world events later ∧
      endedSince world later = number := by
  obtain ⟨events, later, ended, run, tasks, length, each, _⟩ :
      ∃ events later ended,
        Run (machine options).step BrokerReachable world events later ∧
        later.tasks = world.tasks ++ ended ∧ ended.length = number ∧
        (∀ attempt ∈ ended, attempt.Ended) ∧
        later.shared.connect = .settled := by
    induction number with
    | zero =>
        exact ⟨[], world, [], .nil world, by simp, rfl, nofun, launched⟩
    | succ number inductionHypothesis =>
        obtain ⟨events, middle, ended, run, tasks, length, each, same⟩ :=
          inductionHypothesis
        obtain ⟨more, later, last, laterRun, laterTasks, isEnded, settled⟩ :=
          @exists_attempt options middle same
        refine ⟨events ++ more, later, ended ++ [last],
          run.append laterRun, by simp [laterTasks, tasks], by simp [length],
          ?_, settled⟩
        intro attempt member
        rcases List.mem_append.mp member with old | new
        · exact each attempt old
        · obtain rfl := List.mem_singleton.mp new
          exact isEnded
  refine ⟨events, later, run, ?_⟩
  rw [endedSince, tasks, List.drop_left, ← length, List.countP_eq_length]
  exact fun attempt member => decide_eq_true (each attempt member)

end Attempts

/-- The sink does not recover from a close. -/
theorem ClosedSince.not_recovers
    {options : CircuitBreaker.Options}
    {reached : World}
    (holds : ClosedSince reached reached)
    (launched : reached.shared.connect = .settled) :
    ¬ Recovers options reached := by
  rintro ⟨bound, enough⟩
  obtain ⟨events, later, run, ended⟩ :=
    @exists_attempts options reached launched bound
  have since := run.invariant (ClosedSince reached)
    (fun since _ taken => since.step taken) holds
  exact since.not_succeeded (enough events later run ended.ge)

/-- The wiring of every reachable state. -/
theorem wired_of_run
    {options : CircuitBreaker.Options}
    {events : List Event}
    {reached : World}
    (run :
      Run (machine options).step (fun _ _ => True) initial events reached) :
    reached.shared.Wired :=
  run.invariant (fun world => world.shared.Wired)
    (fun wired _ taken => (wired_step wired taken).2)
    ⟨fun _ => rfl, nofun⟩

/--
In every reachable state of the started pipeline in which the connection has
closed, the sink can no longer recover: whatever the breaker's options, any
number of attempts may be made, and none of their publications succeeds.
-/
theorem closed_connection_never_recovers
    {options : CircuitBreaker.Options}
    {events : List Event}
    {reached : World}
    (run :
      Run (machine options).step (fun _ _ => True) initial events reached)
    (launched : reached.shared.connect = .settled)
    (closed : reached.shared.connection = .closed) :
    ¬ Recovers options reached ∧
      ∀ laterEvents later,
        Run (machine options).step (fun _ _ => True)
          reached laterEvents later →
        ¬ SucceededSince reached later := by
  have holds := ClosedSince.refl (wired_of_run run) closed
  refine ⟨holds.not_recovers launched, fun laterEvents later laterRun => ?_⟩
  have since := laterRun.invariant (ClosedSince reached)
    (fun since _ taken => since.step taken) holds
  exact since.not_succeeded

/-- The breaker as `bootstrap` wires it. -/
def rmqCircuitBreaker : CircuitBreaker.Options where
  hasHealthProbe := true

/-- The sink connects and then loses its connection. -/
def sampleClose : List Event :=
  [.env .answer, .env .resume, .env .answer, .env .resume, .env .answer,
    .env .resume, .env .connectionClosed]

/-- The publication after the close is rejected. -/
theorem closed_connection_never_recovers_oneAttempt :
    ∃ reached later,
      Run (machine rmqCircuitBreaker).step (fun _ _ => True)
        initial sampleClose reached ∧
      Run (machine rmqCircuitBreaker).step (fun _ _ => True) reached
        [.env (.execute .recordMutated [sampleRecord 1] 0),
          .act 0 (.settled 0 0)] later ∧
      endedSince reached later = 1 ∧
      ¬ SucceededSince reached later := by
  obtain ⟨reached, run, launched, closed, replayed⟩ :
      ∃ reached,
        Run (machine rmqCircuitBreaker).step (fun _ _ => True)
          initial sampleClose reached ∧
        reached.shared.connect = .settled ∧
        reached.shared.connection = .closed ∧
        (replay (machine rmqCircuitBreaker).step (fun _ _ => True) reached
          [.env (.execute .recordMutated [sampleRecord 1] 0),
            .act 0 (.settled 0 0)]).any
          (fun later => endedSince reached later = 1) = true :=
    Run.exists_of_replay _ (by decide)
  obtain ⟨later, laterRun, ended⟩ :=
    Run.exists_of_replay (fun later => endedSince reached later = 1)
      replayed
  exact ⟨reached, later, run, laterRun, ended,
    (closed_connection_never_recovers run launched closed).2 _ _ laterRun⟩

/-- Four attempts after the close: three throw, one finds the probe unhealthy. -/
def sampleAttempts : List Event :=
  [.env (.execute .recordMutated [sampleRecord 1] 0),
    .act 0 (.settled 0 0),
    .env (.execute .recordMutated [sampleRecord 1] 1000),
    .act 1 (.settled 1000 0),
    .env (.execute .recordMutated [sampleRecord 1] 2000),
    .act 2 (.settled 2000 0),
    .env (.execute .recordMutated [sampleRecord 1] 3000),
    .act 3 .wake, .act 3 (.probed 6000 0)]

/--
The broker is reachable again at once, but the breaker opens and its probe stays
unhealthy: the sink never recovers.
-/
theorem sink_never_reconnects :
    ∃ reached later,
      Run (machine rmqCircuitBreaker).step (fun _ _ => True)
        initial sampleClose reached ∧
      Run (machine rmqCircuitBreaker).step BrokerReachable
        reached sampleAttempts later ∧
      endedSince reached later = 4 ∧
      later.shared.breaker.state = .open ∧
      ¬ Recovers rmqCircuitBreaker reached := by
  obtain ⟨reached, run, launched, closed, replayed⟩ :
      ∃ reached,
        Run (machine rmqCircuitBreaker).step (fun _ _ => True)
          initial sampleClose reached ∧
        reached.shared.connect = .settled ∧
        reached.shared.connection = .closed ∧
        (replay (machine rmqCircuitBreaker).step BrokerReachable
          reached sampleAttempts).any
          (fun later =>
            endedSince reached later = 4 ∧
              later.shared.breaker.state = .open) = true :=
    Run.exists_of_replay _ (by decide)
  obtain ⟨later, laterRun, ended, isOpen⟩ :=
    Run.exists_of_replay
      (fun later =>
        endedSince reached later = 4 ∧ later.shared.breaker.state = .open)
      replayed
  exact ⟨reached, later, run, laterRun, ended, isOpen,
    (ClosedSince.refl (wired_of_run run) closed).not_recovers launched⟩

end Replication.RabbitMQSink
