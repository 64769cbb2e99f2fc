import Replication.Runner
import Mathlib

namespace Replication

/-!
# The connection of the event consumer

`runSupervised`, `attemptStart`, `scheduleReconnect`, `start`, `stop` and the
`close` handler of `EventConsumerService`.  A call runs from one await to the
next; the rest of `attemptStart` follows `start` without giving way.  What a
connection has become by then is up to the broker and the client library, whose
documented behaviour is an admission condition.
-/

deriving instance DecidableEq for Promise

/-- A value of `Math.random()`. -/
structure RandomValue where
  value : Rat
  nonneg : 0 ≤ value
  lt_one : value < 1

/-- A number of milliseconds, or `NaN`. -/
abbrev Delay := Option Nat

/--
Fields of an `EventConsumerService` that its connection uses.  Connections are
numbered in the order in which they are opened.
-/
structure EventConsumerService where
  connection : Option Nat
  /-- The connection its channel belongs to. -/
  channel : Option Nat
  /-- The connection its consumer belongs to; it is never cleared. -/
  consumerTag : Option Nat
  isRunning : Bool
  stopping : Bool
  reconnectAttempts : Nat
  /-- The delay of the timer that is pending. -/
  reconnectTimer : Option Delay
  deriving DecidableEq, Repr

namespace EventConsumerService

/-- Options of the reconnect loop. -/
structure Options where
  baseBackoffMs : Nat := 1000
  maxBackoffMs : Nat := 30000
  deriving Repr

/-- A service that has just been constructed. -/
def create : EventConsumerService where
  connection := none
  channel := none
  consumerTag := none
  isRunning := false
  stopping := false
  reconnectAttempts := 0
  reconnectTimer := none

/-- What `healthCheck` reports, without the metrics. -/
structure Health where
  healthy : Bool
  connection : String
  deriving DecidableEq, Repr

/-- `healthCheck()`. -/
def healthCheck (service : EventConsumerService) : Health :=
  let isHealthy := service.isRunning && service.channel.isSome
  { healthy := isHealthy
    connection := if isHealthy then "CONNECTED" else "DISCONNECTED" }

/--
The bound of the next delay.  From 1024 attempts on `2 ** attempts` is infinite,
and zero times that is `NaN`.
-/
def backoffCap (options : Options) (attempts : Nat) : Delay :=
  if options.baseBackoffMs = 0 ∧ 1024 ≤ attempts then
    none
  else
    some (min options.maxBackoffMs (options.baseBackoffMs * 2 ^ attempts))

/-- `Math.round(cap / 2 + Math.random() * (cap / 2))` for a number. -/
def jitter (cap : Nat) (random : RandomValue) : Nat :=
  ((cap : Rat) / 2 + random.value * (cap / 2) + 1 / 2).floor.toNat

/-- `delayMs`. -/
def delayMs (cap : Delay) (random : RandomValue) : Delay :=
  cap.map fun cap => jitter cap random

/-- Set the timer, unless one is pending or the service is being stopped. -/
def scheduleReconnect
    (options : Options)
    (random : RandomValue)
    (service : EventConsumerService) : EventConsumerService :=
  if service.stopping || service.reconnectTimer.isSome then
    service
  else
    { service with
      reconnectAttempts := service.reconnectAttempts + 1
      reconnectTimer :=
        some (delayMs (backoffCap options service.reconnectAttempts) random) }

/-- `channel` and `connection` are `null`, and `isRunning` is false. -/
def disconnect (service : EventConsumerService) : EventConsumerService :=
  { service with connection := none, channel := none, isRunning := false }

section Fields

variable
  (options : Options)
  (random : RandomValue)
  (service : EventConsumerService)

@[simp] theorem connection_disconnect :
    service.disconnect.connection = none :=
  rfl

@[simp] theorem channel_disconnect :
    service.disconnect.channel = none :=
  rfl

@[simp] theorem isRunning_disconnect :
    service.disconnect.isRunning = false :=
  rfl

@[simp] theorem stopping_disconnect :
    service.disconnect.stopping = service.stopping :=
  rfl

@[simp] theorem reconnectTimer_disconnect :
    service.disconnect.reconnectTimer = service.reconnectTimer :=
  rfl

@[simp] theorem connection_scheduleReconnect :
    (service.scheduleReconnect options random).connection =
      service.connection := by
  unfold scheduleReconnect
  split <;> rfl

@[simp] theorem channel_scheduleReconnect :
    (service.scheduleReconnect options random).channel =
      service.channel := by
  unfold scheduleReconnect
  split <;> rfl

@[simp] theorem isRunning_scheduleReconnect :
    (service.scheduleReconnect options random).isRunning =
      service.isRunning := by
  unfold scheduleReconnect
  split <;> rfl

@[simp] theorem stopping_scheduleReconnect :
    (service.scheduleReconnect options random).stopping =
      service.stopping := by
  unfold scheduleReconnect
  split <;> rfl

/-- A service that is being stopped sets no timer. -/
theorem scheduleReconnect_of_stopping
    (stopping : service.stopping = true) :
    service.scheduleReconnect options random = service := by
  simp [scheduleReconnect, stopping]

/-- Otherwise a timer is pending afterwards. -/
theorem reconnectTimer_scheduleReconnect
    (notStopping : service.stopping = false) :
    (service.scheduleReconnect options random).reconnectTimer ≠ none := by
  unfold scheduleReconnect
  split
  · rename_i pending
    simpa [notStopping, ← Option.isSome_iff_ne_none] using pending
  · exact Option.some_ne_none _

end Fields

/-- The `close` handler that `start` attaches to a connection. -/
def connectionClosed
    (options : Options)
    (random : RandomValue)
    (service : EventConsumerService) : EventConsumerService :=
  if service.isRunning && !service.stopping then
    service.disconnect.scheduleReconnect options random
  else
    service.disconnect

/-- The channel of a connection, as the client library sees it. -/
inductive ChannelState where
  | none
  | open
  | closing
  | closed
  deriving DecidableEq, Repr

/-- A connection, as the client library sees it. -/
structure Link where
  isOpen : Bool
  /-- `close()` has been called on it. -/
  closing : Bool
  channel : ChannelState
  /-- The broker delivers to a consumer on its channel. -/
  subscribed : Bool
  /-- `start` has attached its `close` handler. -/
  listening : Bool
  deriving DecidableEq, Repr

/-- What `start` awaits after `connect`, in this order. -/
inductive Operation where
  | createChannel
  | assertExchange
  | assertQueue
  | bindQueue
  | prefetch
  | consume
  deriving DecidableEq, Repr

namespace Operation

/-- The operation that `start` calls next. -/
def next : Operation → Option Operation
  | .createChannel => some .assertExchange
  | .assertExchange => some .assertQueue
  | .assertQueue => some .bindQueue
  | .bindQueue => some .prefetch
  | .prefetch => some .consume
  | .consume => none

/-- What the answer to the operation makes of the connection. -/
def answer : Operation → Link → Link
  | .createChannel, link => { link with channel := .open }
  | .consume, link => { link with subscribed := true }
  | _, link => link

end Operation

namespace Link

/-- A number that no connection has yet. -/
def unopened : Link where
  isOpen := false
  closing := false
  channel := .none
  subscribed := false
  listening := false

/-- A connection that has just been opened. -/
def fresh : Link :=
  { unopened with isOpen := true }

/-- The connection takes calls. -/
def usable (link : Link) : Bool :=
  link.isOpen && !link.closing

/-- Its channel takes calls. -/
def channelUsable (link : Link) : Bool :=
  link.usable && link.channel = .open

/-- The operation can be called. -/
def accepts (link : Link) : Operation → Bool
  | .createChannel => link.usable
  | _ => link.channelUsable

/-- The broker delivers to a consumer on its open channel. -/
def Delivers (link : Link) : Prop :=
  link.isOpen = true ∧ link.channel = .open ∧ link.subscribed = true

instance (link : Link) : Decidable link.Delivers :=
  inferInstanceAs (Decidable (_ ∧ _))

/-- `start` attaches its handlers. -/
def listen (link : Link) : Link :=
  { link with listening := true }

/-- `close()` has been called. -/
def close (link : Link) : Link :=
  { link with closing := true }

/-- `channel.close()` has been called. -/
def closeChannel (link : Link) : Link :=
  { link with channel := .closing }

/-- The channel is gone, and its consumer with it. -/
def dropChannel (link : Link) : Link :=
  { link with channel := .closed, subscribed := false }

/-- The broker no longer delivers to the consumer. -/
def unsubscribe (link : Link) : Link :=
  { link with subscribed := false }

/-- The connection is gone. -/
def drop (link : Link) : Link :=
  { link.dropChannel with isOpen := false }

end Link

/-- Where a call of `attemptStart` or `stop` is suspended. -/
inductive Call where
  | connecting (answer : Promise Nat)
  | declaring
      (link : Nat) (operation : Operation) (answer : Promise Unit)
  /-- `conn.close()` in the `catch` of `start`. -/
  | releasing (link : Nat) (answer : Promise Unit)
  /-- `stop` awaits `channel.cancel(consumerTag)`. -/
  | cancelling (link : Nat) (answer : Promise Unit)
  /-- `stop` awaits `channel.close()`. -/
  | closingChannel (link : Nat) (answer : Promise Unit)
  /-- `stop` awaits `connection.close()`. -/
  | closingConnection (link : Nat) (answer : Promise Unit)
  | finished
  deriving DecidableEq, Repr

/-- The service with every connection it has opened. -/
structure Shared where
  service : EventConsumerService
  links : Nat → Link
  opened : Nat

namespace Shared

/-- The client library opens a connection. -/
def connect (shared : Shared) : Shared :=
  { shared with
    links := Function.update shared.links shared.opened .fresh
    opened := shared.opened + 1 }

/-- What happens to one connection. -/
def modify
    (shared : Shared)
    (id : Nat)
    (change : Link → Link) : Shared :=
  { shared with
    links := Function.update shared.links id (change (shared.links id)) }

/-- The new connection. -/
@[simp] theorem links_connect_self (shared : Shared) :
    shared.connect.links shared.opened = .fresh :=
  Function.update_self ..

/-- The other connections stay as they are. -/
theorem links_connect_of_ne
    {shared : Shared}
    {id : Nat}
    (different : id ≠ shared.opened) :
    shared.connect.links id = shared.links id :=
  Function.update_of_ne different ..

section Modify

variable
  {shared : Shared}
  {id : Nat}
  {change : Link → Link}

@[simp] theorem service_modify :
    (shared.modify id change).service = shared.service :=
  rfl

@[simp] theorem opened_modify :
    (shared.modify id change).opened = shared.opened :=
  rfl

@[simp] theorem links_modify_self :
    (shared.modify id change).links id = change (shared.links id) :=
  Function.update_self ..

/-- The other connections stay as they are. -/
theorem links_modify_of_ne
    {other : Nat}
    (different : other ≠ id) :
    (shared.modify id change).links other = shared.links other :=
  Function.update_of_ne different ..

/-- What the change keeps is the same of every connection. -/
theorem modify_keeps
    {Field : Type}
    (field : Link → Field)
    (keeps : ∀ link, field (change link) = field link)
    (other : Nat) :
    field ((shared.modify id change).links other) =
      field (shared.links other) := by
  by_cases same : other = id
  · subst other
    rw [links_modify_self, keeps]
  · rw [links_modify_of_ne same]

end Modify

/-- `start` calls an operation; one that cannot be called is rejected. -/
def call (shared : Shared) (id : Nat) (operation : Operation) : Call :=
  .declaring id operation
    (if (shared.links id).accepts operation then .pending else .rejected)

/--
`close()` of a connection; one that is not open, or is closing already, rejects
the call.
-/
def closeConnection (shared : Shared) (id : Nat) : Shared × Promise Unit :=
  if (shared.links id).usable then
    (shared.modify id Link.close, .pending)
  else
    (shared, .rejected)

/-- `close()` of a channel. -/
def closeChannel (shared : Shared) (id : Nat) : Shared × Promise Unit :=
  if (shared.links id).channelUsable then
    (shared.modify id Link.closeChannel, .pending)
  else
    (shared, .rejected)

/-- What `close()` of a connection does. -/
theorem closeConnection_cases (shared : Shared) (id : Nat) :
    ((shared.links id).usable = true ∧
        shared.closeConnection id =
          (shared.modify id Link.close, .pending)) ∨
      ((shared.links id).usable = false ∧
        shared.closeConnection id = (shared, .rejected)) := by
  unfold closeConnection
  split
  · rename_i usable
    exact .inl ⟨usable, rfl⟩
  · rename_i unusable
    exact .inr ⟨by simpa using unusable, rfl⟩

/-- `start` after `connect`: attach the handlers and create a channel. -/
def attach (shared : Shared) (id : Nat) : Shared :=
  { shared.modify id Link.listen with
    service := { shared.service with connection := some id } }

/-- `start` after an operation; it remembers the channel it has created. -/
def declared
    (shared : Shared)
    (id : Nat) : Operation → Shared
  | .createChannel =>
      { shared with service := { shared.service with channel := some id } }
  | _ => shared

/-- The end of `start`, and of the `attemptStart` that has called it. -/
def consume (shared : Shared) (id : Nat) : Shared :=
  { shared with
    service :=
      { shared.service with
        consumerTag := some id
        isRunning := true
        reconnectAttempts := 0 } }

/-- The fields after the `catch` of `start` and the `finally` of `stop`. -/
def disconnect (shared : Shared) : Shared :=
  { shared with service := shared.service.disconnect }

/-- The `catch` of `attemptStart`. -/
def scheduleReconnect
    (options : Options)
    (random : RandomValue)
    (shared : Shared) : Shared :=
  { shared with
    service := shared.service.scheduleReconnect options random }

/-- The `catch` of `start` closes the connection. -/
def release (shared : Shared) (id : Nat) : Shared × Call :=
  let (closed, answer) := shared.disconnect.closeConnection id
  (closed, .releasing id answer)

/-- `stop` from its last `if` on. -/
def stopConnection (shared : Shared) : Shared × Call :=
  match shared.service.connection with
  | some id =>
      let (closed, answer) := shared.closeConnection id
      (closed, .closingConnection id answer)
  | none => (shared.disconnect, .finished)

/-- `stop` from its second `if` on. -/
def stopChannel (shared : Shared) : Shared × Call :=
  match shared.service.channel with
  | some id =>
      let (closed, answer) := shared.closeChannel id
      (closed, .closingChannel id answer)
  | none => shared.stopConnection

/-- `stop` clears the timer. -/
def halt (shared : Shared) : Shared :=
  { shared with
    service :=
      { shared.service with stopping := true, reconnectTimer := none } }

/-- `stop` up to its first await. -/
def stop (shared : Shared) : Shared × Call :=
  match shared.service.channel, shared.service.consumerTag with
  | some id, some _ =>
      (shared.halt,
        .cancelling id
          (if (shared.links id).channelUsable then .pending
            else .rejected))
  | _, _ => shared.halt.stopChannel

/-- `attemptStart` up to its first await. -/
def attemptStart (shared : Shared) : Shared × List Call :=
  if shared.service.stopping then
    (shared, [])
  else if shared.service.isRunning then
    ({ shared with
        service := { shared.service with reconnectAttempts := 0 } }, [])
  else
    (shared, [.connecting .pending])

/-- The timer runs out. -/
def timerFires (shared : Shared) : Shared × List Call :=
  attemptStart
    { shared with service := { shared.service with reconnectTimer := none } }

end Shared

/-- A settled promise. -/
def settled : Bool → Promise Unit
  | true => .fulfilled ()
  | false => .rejected

/-- The client library settles the promise that a call awaits. -/
def settle
    (fulfilled : Bool)
    (shared : Shared) : Call → Option (Shared × Call)
  | .connecting .pending =>
      if fulfilled then
        some (shared.connect, .connecting (.fulfilled shared.opened))
      else
        some (shared, .connecting .rejected)
  | .declaring id operation .pending =>
      some
        (if fulfilled then shared.modify id operation.answer else shared,
          .declaring id operation (settled fulfilled))
  | .releasing id .pending =>
      some (shared, .releasing id (settled fulfilled))
  | .cancelling id .pending =>
      some
        (if fulfilled then shared.modify id Link.unsubscribe else shared,
          .cancelling id (settled fulfilled))
  | .closingChannel id .pending =>
      some
        (if fulfilled then shared.modify id Link.dropChannel else shared,
          .closingChannel id (settled fulfilled))
  | .closingConnection id .pending =>
      some (shared, .closingConnection id (settled fulfilled))
  | _ => none

/-- A call goes on to its next await.  `stop` ignores rejections. -/
def resume
    (options : Options)
    (random : RandomValue)
    (shared : Shared) : Call → Option (Shared × Call)
  | .connecting (.fulfilled id) =>
      some (shared.attach id, (shared.attach id).call id .createChannel)
  | .connecting .rejected =>
      some (shared.disconnect.scheduleReconnect options random, .finished)
  | .declaring id operation (.fulfilled _) =>
      match operation.next with
      | some next =>
          some
            (shared.declared id operation,
              (shared.declared id operation).call id next)
      | none => some (shared.consume id, .finished)
  | .declaring id _ .rejected => some (shared.release id)
  | .releasing _ (.fulfilled _) =>
      some (shared.scheduleReconnect options random, .finished)
  | .releasing _ .rejected =>
      some (shared.scheduleReconnect options random, .finished)
  | .cancelling _ (.fulfilled _) => some shared.stopChannel
  | .cancelling _ .rejected => some shared.stopChannel
  | .closingChannel _ (.fulfilled _) => some shared.stopConnection
  | .closingChannel _ .rejected => some shared.stopConnection
  | .closingConnection _ (.fulfilled _) =>
      some (shared.disconnect, .finished)
  | .closingConnection _ .rejected => some (shared.disconnect, .finished)
  | _ => none

/-- What moves a suspended call. -/
inductive Act where
  | settle (fulfilled : Bool)
  | resume (random : RandomValue)

/-- What happens outside the calls. -/
inductive Env where
  | timerFires
  | stop
  | connectionClosed (id : Nat) (random : RandomValue)
  | channelClosed (id : Nat)
  /--
  The broker cancels the consumer.  `handleMessage` returns at once on the null
  delivery that tells the service.
  -/
  | consumerCancelled (id : Nat)

/-- A step of one call. -/
def act
    (options : Options)
    (shared : Shared)
    (call : Call) : Act → Option (Shared × Call)
  | .settle fulfilled => settle fulfilled shared call
  | .resume random => resume options random shared call

/-- The connection closes, and its handler runs if it is attached. -/
def closes
    (options : Options)
    (random : RandomValue)
    (shared : Shared)
    (id : Nat) : Shared :=
  if (shared.links id).listening then
    { shared.modify id Link.drop with
      service := shared.service.connectionClosed options random }
  else
    shared.modify id Link.drop

/-- What the end of a connection does. -/
theorem closes_cases
    (options : Options)
    (random : RandomValue)
    (shared : Shared)
    (id : Nat) :
    ((shared.links id).listening = true ∧
        shared.service.isRunning = true ∧
        shared.service.stopping = false ∧
        closes options random shared id =
          (shared.modify id Link.drop).disconnect.scheduleReconnect
            options random) ∨
      ((shared.links id).listening = true ∧
        (shared.service.isRunning = false ∨
          shared.service.stopping = true) ∧
        closes options random shared id =
          (shared.modify id Link.drop).disconnect) ∨
      ((shared.links id).listening = false ∧
        closes options random shared id = shared.modify id Link.drop) := by
  unfold closes
  split
  · rename_i listening
    by_cases schedules :
        shared.service.isRunning = true ∧ shared.service.stopping = false
    · refine .inl ⟨listening, schedules.1, schedules.2, ?_⟩
      simp only [connectionClosed, schedules.1, schedules.2, Bool.not_false,
        Bool.and_self, if_true]
      rfl
    · refine .inr (.inl ⟨listening, ?_, ?_⟩)
      · simp only [not_and, Bool.not_eq_false] at schedules
        by_cases running : shared.service.isRunning = true
        · exact .inr (schedules running)
        · exact .inl (by simpa using running)
      · unfold connectionClosed
        rw [if_neg (by simpa using schedules)]
        rfl
  · rename_i notListening
    exact .inr (.inr ⟨by simpa using notListening, rfl⟩)

/-- An event outside the calls. -/
def env
    (options : Options)
    (shared : Shared)
    (calls : List Call) : Env → Option (Shared × List Call)
  | .timerFires =>
      if shared.service.reconnectTimer.isSome then
        some (shared.timerFires.1, calls ++ shared.timerFires.2)
      else
        none
  | .stop => some (shared.stop.1, calls ++ [shared.stop.2])
  | .connectionClosed id random =>
      some (closes options random shared id, calls)
  | .channelClosed id => some (shared.modify id Link.dropChannel, calls)
  | .consumerCancelled id => some (shared.modify id Link.unsubscribe, calls)

/-- The calls of one service. -/
def machine (options : Options) :
    TaskMachine Unit Shared Call Act Env Empty where
  act := fun _ shared call action =>
    (act options shared call action).map
      fun (shared, next) => (shared, next, [])
  env := fun _ shared calls event => env options shared calls event
  change := fun _ change => nomatch change

/-- The service with its suspended calls. -/
abbrev World := TaskMachine.World Unit Shared Call

/-- One scheduling decision. -/
abbrev Event := TaskMachine.Event Act Env Empty

/-- A new service on which `runSupervised()` has been called. -/
def runSupervised : World where
  context := ()
  shared := { service := create, links := fun _ => .unopened, opened := 0 }
  tasks := [.connecting .pending]

/-! ### What one step of a call can do -/

/-- The call awaits a promise that has been settled. -/
def Settled (answer : Promise Unit) : Prop :=
  answer ≠ .pending

@[simp] theorem settled_settled (fulfilled : Bool) :
    Settled (settled fulfilled) := by
  cases fulfilled <;> exact nofun

/-- How the client library settles what a call awaits. -/
inductive Settle (shared : Shared) :
    Bool → Call → Shared → Call → Prop where
  | connected :
      Settle shared true (.connecting .pending) shared.connect
        (.connecting (.fulfilled shared.opened))
  | refused :
      Settle shared false (.connecting .pending) shared
        (.connecting .rejected)
  | answered (id : Nat) (operation : Operation) :
      Settle shared true (.declaring id operation .pending)
        (shared.modify id operation.answer)
        (.declaring id operation (.fulfilled ()))
  | failed (id : Nat) (operation : Operation) :
      Settle shared false (.declaring id operation .pending) shared
        (.declaring id operation .rejected)
  | released (id : Nat) (fulfilled : Bool) :
      Settle shared fulfilled (.releasing id .pending) shared
        (.releasing id (settled fulfilled))
  | cancelled (id : Nat) (fulfilled : Bool) :
      Settle shared fulfilled (.cancelling id .pending)
        (if fulfilled then shared.modify id Link.unsubscribe else shared)
        (.cancelling id (settled fulfilled))
  | channelClosed (id : Nat) (fulfilled : Bool) :
      Settle shared fulfilled (.closingChannel id .pending)
        (if fulfilled then shared.modify id Link.dropChannel else shared)
        (.closingChannel id (settled fulfilled))
  | closed (id : Nat) (fulfilled : Bool) :
      Settle shared fulfilled (.closingConnection id .pending) shared
        (.closingConnection id (settled fulfilled))

/-- Every settlement is one of these. -/
theorem settle_spec
    {shared after : Shared}
    {fulfilled : Bool}
    {call next : Call}
    (moved : settle fulfilled shared call = some (after, next)) :
    Settle shared fulfilled call after next := by
  unfold settle at moved
  split at moved
  · cases fulfilled <;> cases moved
    · exact .refused
    · exact .connected
  · cases fulfilled <;> cases moved
    · exact .failed _ _
    · exact .answered _ _
  · cases moved
    exact .released _ _
  · cases moved
    exact .cancelled _ _
  · cases moved
    exact .channelClosed _ _
  · cases moved
    exact .closed _ _
  · cases moved

/-- How a call goes on. -/
inductive Resume
    (options : Options)
    (random : RandomValue)
    (shared : Shared) : Call → Shared → Call → Prop where
  | connected (id : Nat) :
      Resume options random shared (.connecting (.fulfilled id))
        (shared.attach id) ((shared.attach id).call id .createChannel)
  | refused :
      Resume options random shared (.connecting .rejected)
        (shared.disconnect.scheduleReconnect options random) .finished
  | declared
      (id : Nat)
      {operation next : Operation}
      (follows : operation.next = some next) :
      Resume options random shared
        (.declaring id operation (.fulfilled ()))
        (shared.declared id operation)
        ((shared.declared id operation).call id next)
  | consumes (id : Nat) :
      Resume options random shared (.declaring id .consume (.fulfilled ()))
        (shared.consume id) .finished
  | failed (id : Nat) (operation : Operation) :
      Resume options random shared (.declaring id operation .rejected)
        (shared.release id).1 (shared.release id).2
  | released (id : Nat) {answer : Promise Unit} (done : Settled answer) :
      Resume options random shared (.releasing id answer)
        (shared.scheduleReconnect options random) .finished
  | cancelled (id : Nat) {answer : Promise Unit} (done : Settled answer) :
      Resume options random shared (.cancelling id answer)
        shared.stopChannel.1 shared.stopChannel.2
  | channelClosed
      (id : Nat) {answer : Promise Unit} (done : Settled answer) :
      Resume options random shared (.closingChannel id answer)
        shared.stopConnection.1 shared.stopConnection.2
  | closed (id : Nat) {answer : Promise Unit} (done : Settled answer) :
      Resume options random shared (.closingConnection id answer)
        shared.disconnect .finished

/-- Only the last operation is followed by none. -/
theorem Operation.eq_consume
    {operation : Operation}
    (last : operation.next = none) :
    operation = .consume := by
  cases operation <;> first | rfl | cases last

/-- A resumption stated for the pair it returns. -/
theorem Resume.of_pair
    {options : Options}
    {random : RandomValue}
    {shared after : Shared}
    {call next : Call}
    {returned : Shared × Call}
    (resumes :
      Resume options random shared call returned.1 returned.2)
    (moved : some returned = some (after, next)) :
    Resume options random shared call after next := by
  obtain rfl := Option.some.inj moved
  exact resumes

/-- Every resumption is one of these. -/
theorem resume_spec
    {options : Options}
    {random : RandomValue}
    {shared after : Shared}
    {call next : Call}
    (moved : resume options random shared call = some (after, next)) :
    Resume options random shared call after next := by
  unfold resume at moved
  split at moved
  · cases moved
    exact .connected _
  · cases moved
    exact .refused
  · split at moved
    · rename_i follows
      cases moved
      exact .declared _ follows
    · rename_i last
      cases moved
      cases Operation.eq_consume last
      exact .consumes _
  · cases moved
    exact .failed _ _
  · cases moved
    exact .released _ nofun
  · cases moved
    exact .released _ nofun
  · exact .of_pair (.cancelled _ nofun) moved
  · exact .of_pair (.cancelled _ nofun) moved
  · exact .of_pair (.channelClosed _ nofun) moved
  · exact .of_pair (.channelClosed _ nofun) moved
  · cases moved
    exact .closed _ nofun
  · cases moved
    exact .closed _ nofun
  · cases moved

/-- What one step of a call can do. -/
theorem machine_act_spec
    {options : Options}
    {shared after : Shared}
    {call next : Call}
    {spawned : List Call}
    {action : Act}
    (moved :
      (machine options).act () shared call action =
        some (after, next, spawned)) :
    spawned = [] ∧
      ((∃ fulfilled,
          action = .settle fulfilled ∧
            Settle shared fulfilled call after next) ∨
        ∃ random,
          action = .resume random ∧
            Resume options random shared call after next) := by
  obtain ⟨⟨shared', next'⟩, acted, same⟩ :=
    Option.map_eq_some_iff.mp moved
  cases same
  cases action with
  | settle fulfilled =>
      exact ⟨rfl, .inl ⟨fulfilled, rfl, settle_spec acted⟩⟩
  | resume random =>
      exact ⟨rfl, .inr ⟨random, rfl, resume_spec acted⟩⟩

/-! ### What the client library does -/

/--
The promise can be settled so.  An operation is answered only on a connection
and a channel that take calls, and `close()` of a connection settles after the
connection has closed.
-/
def Call.Settles (links : Nat → Link) (fulfilled : Bool) : Call → Prop
  | .declaring id operation _ =>
      fulfilled = true → (links id).accepts operation = true
  | .releasing id _ => (links id).isOpen = false
  | .closingConnection id _ => (links id).isOpen = false
  | _ => True

instance
    (links : Nat → Link)
    (fulfilled : Bool) :
    DecidablePred (Call.Settles links fulfilled)
  | .connecting _ => isTrue trivial
  | .declaring _ _ _ => inferInstanceAs (Decidable (_ → _))
  | .releasing _ _ => inferInstanceAs (Decidable (_ = _))
  | .cancelling _ _ => isTrue trivial
  | .closingChannel _ _ => isTrue trivial
  | .closingConnection _ _ => inferInstanceAs (Decidable (_ = _))
  | .finished => isTrue trivial

/--
The documented behaviour of the client library.  A connection closes once, a
channel closes while its connection is open, and only a consumer that is
subscribed is cancelled.
-/
def Amqp (world : World) : Event → Prop
  | .act index (.settle fulfilled) =>
      ∀ call ∈ world.tasks[index]?,
        call.Settles world.shared.links fulfilled
  | .env (.connectionClosed id _) =>
      (world.shared.links id).isOpen = true
  | .env (.channelClosed id) =>
      (world.shared.links id).isOpen = true ∧
        (world.shared.links id).channel ∈ [.open, .closing]
  | .env (.consumerCancelled id) =>
      (world.shared.links id).Delivers
  | _ => True

instance (world : World) : DecidablePred (Amqp world)
  | .act _ (.settle _) =>
      inferInstanceAs (Decidable (∀ call ∈ _, Call.Settles _ _ call))
  | .act _ (.resume _) => isTrue trivial
  | .env .timerFires => isTrue trivial
  | .env .stop => isTrue trivial
  | .env (.connectionClosed _ _) => inferInstanceAs (Decidable (_ = _))
  | .env (.channelClosed _) => inferInstanceAs (Decidable (_ ∧ _))
  | .env (.consumerCancelled _) => inferInstanceAs (Decidable (Link.Delivers _))
  | .change change => nomatch change

end EventConsumerService

end Replication
