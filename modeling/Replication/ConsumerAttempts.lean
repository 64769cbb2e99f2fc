import Replication.EventConsumerService

namespace Replication.EventConsumerService

/-!
# Attempts to start exclude each other

At most one attempt to start is in progress, and then no timer is pending and
the consumer is not running.  Whatever connection is open belongs to that
attempt, or there is just one; while a timer is pending there is none.  So the
`close` event of one connection never disturbs the next.  All this holds whether
`stop` has been called or not.
-/

namespace Call

/-- An attempt to start that has not ended. -/
def InProgress : Call → Prop
  | .connecting _ => True
  | .declaring _ _ _ => True
  | .releasing _ _ => True
  | _ => False

instance : DecidablePred InProgress
  | .connecting _ => isTrue trivial
  | .declaring _ _ _ => isTrue trivial
  | .releasing _ _ => isTrue trivial
  | .cancelling _ _ => isFalse id
  | .closingChannel _ _ => isFalse id
  | .closingConnection _ _ => isFalse id
  | .finished => isFalse id

/-- A call of `stop` that has not ended. -/
def Stops : Call → Prop
  | .cancelling _ _ => True
  | .closingChannel _ _ => True
  | .closingConnection _ _ => True
  | _ => False

instance : DecidablePred Stops
  | .connecting _ => isFalse id
  | .declaring _ _ _ => isFalse id
  | .releasing _ _ => isFalse id
  | .cancelling _ _ => isTrue trivial
  | .closingChannel _ _ => isTrue trivial
  | .closingConnection _ _ => isTrue trivial
  | .finished => isFalse id

/-- `stop` is no attempt to start. -/
theorem Stops.not_inProgress
    {call : Call}
    (stops : call.Stops) :
    ¬ call.InProgress := by
  cases call <;> first | exact stops.elim | exact id

/-- There are no other calls. -/
theorem finished_of_idle
    {call : Call}
    (idle : ¬ call.InProgress)
    (noStop : ¬ call.Stops) :
    call = .finished := by
  cases call <;>
    first | rfl | exact (idle trivial).elim | exact (noStop trivial).elim

/-- The connection of an attempt. -/
def link? : Call → Option Nat
  | .connecting (.fulfilled id) => some id
  | .declaring id _ _ => some id
  | .releasing id _ => some id
  | _ => none

/--
What an attempt knows at its await.  Only `stop` closes a connection under an
attempt, and an attempt that has closed its own waits until it is closed.
-/
def Stage (shared : Shared) : Call → Prop
  | .connecting answer =>
      shared.service.connection = none ∧
        ∀ id, answer = .fulfilled id →
          (shared.links id).closing = true → shared.service.stopping = true
  | .declaring id _ _ =>
      (shared.links id).closing = true → shared.service.stopping = true
  | .releasing id answer =>
      shared.service.connection = none ∧
        (Settled answer → (shared.links id).isOpen = true →
          shared.service.stopping = true)
  | _ => True

end Call

/-- A pending timer has nothing beside it. -/
structure Waits (shared : Shared) : Prop where
  notStopping : shared.service.stopping = false
  notRunning : shared.service.isRunning = false
  disconnected : shared.service.connection = none
  closed : ∀ id, (shared.links id).isOpen = false

/-- What holds of the service and its connections. -/
structure Tidy (shared : Shared) : Prop where
  single :
    ∀ first second,
      (shared.links first).isOpen = true →
      (shared.links second).isOpen = true → first = second
  subscribed :
    ∀ id, (shared.links id).subscribed = true →
      (shared.links id).isOpen = true
  waiting : shared.service.reconnectTimer ≠ none → Waits shared

/-- What holds while an attempt is in progress. -/
structure Owns (shared : Shared) (call : Call) : Prop where
  noTimer : shared.service.reconnectTimer = none
  notRunning : shared.service.isRunning = false
  own : ∀ id, (shared.links id).isOpen = true → call.link? = some id
  stage : call.Stage shared

/-! ### Steps that open and close nothing -/

/-- No connection is opened or closed, and consumers are on open ones. -/
structure LinkFrame (before after : Shared) : Prop where
  opened : after.opened = before.opened
  isOpen : ∀ id, (after.links id).isOpen = (before.links id).isOpen
  subscribed :
    ∀ id, (after.links id).subscribed = true →
      (before.links id).subscribed = true ∨
        (before.links id).isOpen = true

/-- And the service is not started. -/
structure Frame (before after : Shared) : Prop
    extends LinkFrame before after where
  reconnectTimer :
    after.service.reconnectTimer = before.service.reconnectTimer
  stopping : after.service.stopping = before.service.stopping
  notRunning :
    before.service.isRunning = false → after.service.isRunning = false
  connection :
    after.service.connection = before.service.connection ∨
      after.service.connection = none

/-- Nothing happens to the connections. -/
theorem LinkFrame.of_links
    {before after : Shared}
    (opened : after.opened = before.opened)
    (links : after.links = before.links) :
    LinkFrame before after where
  opened := opened
  isOpen id := by rw [links]
  subscribed id subscribed := .inl (links ▸ subscribed)

/-- Nothing changes. -/
theorem LinkFrame.refl (shared : Shared) : LinkFrame shared shared :=
  .of_links rfl rfl

/-- A change of one connection that neither opens, closes nor subscribes. -/
theorem LinkFrame.modify
    {shared : Shared}
    {id : Nat}
    {change : Link → Link}
    (isOpen : ∀ link, (change link).isOpen = link.isOpen)
    (subscribed :
      (change (shared.links id)).subscribed = true →
        (shared.links id).subscribed = true ∨
          (shared.links id).isOpen = true) :
    LinkFrame shared (shared.modify id change) where
  opened := rfl
  isOpen := Shared.modify_keeps Link.isOpen isOpen
  subscribed other := by
    by_cases same : other = id
    · subst other
      rw [Shared.links_modify_self]
      exact subscribed
    · rw [Shared.links_modify_of_ne same]
      exact .inl

/-- A consumer is cancelled. -/
theorem LinkFrame.unsubscribe (shared : Shared) (id : Nat) :
    LinkFrame shared (shared.modify id Link.unsubscribe) :=
  .modify (fun _ => rfl) fun still => absurd still Bool.false_ne_true

/-- A channel is gone. -/
theorem LinkFrame.dropChannel (shared : Shared) (id : Nat) :
    LinkFrame shared (shared.modify id Link.dropChannel) :=
  .modify (fun _ => rfl) fun still => absurd still Bool.false_ne_true

/-- The service keeps its fields. -/
theorem LinkFrame.frame
    {before after : Shared}
    (links : LinkFrame before after)
    (service : after.service = before.service) :
    Frame before after where
  toLinkFrame := links
  reconnectTimer := by rw [service]
  stopping := by rw [service]
  notRunning := by
    rw [service]
    exact id
  connection := .inl (by rw [service])

namespace Shared

variable (shared : Shared) (id : Nat)

/-- `close()` of a connection opens and closes nothing at once. -/
theorem linkFrame_closeConnection :
    LinkFrame shared (shared.closeConnection id).1 := by
  unfold closeConnection
  split
  · exact .modify (fun _ => rfl) .inl
  · exact .refl shared

/-- Nor does `close()` of a channel. -/
theorem linkFrame_closeChannel :
    LinkFrame shared (shared.closeChannel id).1 := by
  unfold closeChannel
  split
  · exact .modify (fun _ => rfl) .inl
  · exact .refl shared

/-- Attaching handlers opens and closes nothing. -/
theorem linkFrame_attach : LinkFrame shared (shared.attach id) := by
  have links : LinkFrame shared (shared.modify id Link.listen) :=
    .modify (fun _ => rfl) .inl
  exact ⟨rfl, links.isOpen, links.subscribed⟩

@[simp] theorem service_closeConnection :
    (shared.closeConnection id).1.service = shared.service := by
  unfold closeConnection
  split <;> rfl

@[simp] theorem service_closeChannel :
    (shared.closeChannel id).1.service = shared.service := by
  unfold closeChannel
  split <;> rfl

/-- The fields are reset. -/
theorem frame_disconnect : Frame shared shared.disconnect where
  toLinkFrame := .of_links rfl rfl
  reconnectTimer := rfl
  stopping := rfl
  notRunning _ := rfl
  connection := .inr rfl

/-- The `catch` of `start`. -/
theorem frame_release : Frame shared (shared.release id).1 where
  opened := (linkFrame_closeConnection shared.disconnect id).opened
  isOpen := (linkFrame_closeConnection shared.disconnect id).isOpen
  subscribed := (linkFrame_closeConnection shared.disconnect id).subscribed
  reconnectTimer := by
    simp only [release, service_closeConnection]
    rfl
  stopping := by
    simp only [release, service_closeConnection]
    rfl
  notRunning _ := by
    simp only [release, service_closeConnection]
    rfl
  connection := .inr (by
    simp only [release, service_closeConnection]
    rfl)

/-- The last part of `stop`. -/
theorem frame_stopConnection : Frame shared shared.stopConnection.1 := by
  unfold stopConnection
  split
  · exact (linkFrame_closeConnection shared _).frame
      (service_closeConnection shared _)
  · exact frame_disconnect shared

/-- The second part of `stop`. -/
theorem frame_stopChannel : Frame shared shared.stopChannel.1 := by
  unfold stopChannel
  split
  · exact (linkFrame_closeChannel shared _).frame
      (service_closeChannel shared _)
  · exact frame_stopConnection shared

/-- `stop` ends in `stop`. -/
theorem not_inProgress_stopConnection :
    ¬ shared.stopConnection.2.InProgress := by
  unfold stopConnection
  split <;> exact id

/-- `stop` ends in `stop`. -/
theorem not_inProgress_stopChannel :
    ¬ shared.stopChannel.2.InProgress := by
  unfold stopChannel
  split
  · exact id
  · exact not_inProgress_stopConnection shared

/-- `stop` is no attempt to start. -/
theorem not_inProgress_stop : ¬ shared.stop.2.InProgress := by
  unfold stop
  split
  · exact id
  · exact not_inProgress_stopChannel shared.halt

/-- After `stop` has cleared the timer. -/
theorem frame_stop : Frame shared.halt shared.stop.1 := by
  unfold stop
  split
  · exact (LinkFrame.refl shared.halt).frame rfl
  · exact frame_stopChannel shared.halt

end Shared

/-- A settled promise opens no connection, unless it is that of `connect`. -/
theorem Settle.frame
    {shared after : Shared}
    {fulfilled : Bool}
    {call next : Call}
    (settles : Settle shared fulfilled call after next)
    (amqp : call.Settles shared.links fulfilled)
    (declares : ∀ answer, call ≠ .connecting answer) :
    Frame shared after := by
  cases settles with
  | connected => exact (declares _ rfl).elim
  | refused => exact (declares _ rfl).elim
  | answered id operation =>
      have accepted := amqp rfl
      refine (LinkFrame.modify ?_ ?_).frame rfl
      · intro link
        cases operation <;> rfl
      · cases operation with
        | consume =>
            intro _
            simp [Link.accepts, Link.channelUsable, Link.usable] at accepted
            exact .inr accepted.1.1
        | _ => exact .inl
  | failed id operation => exact (LinkFrame.refl shared).frame rfl
  | released id => exact (LinkFrame.refl shared).frame rfl
  | cancelled id =>
      cases fulfilled
      · exact (LinkFrame.refl shared).frame rfl
      · exact (LinkFrame.unsubscribe shared id).frame rfl
  | channelClosed id =>
      cases fulfilled
      · exact (LinkFrame.refl shared).frame rfl
      · exact (LinkFrame.dropChannel shared id).frame rfl
  | closed id => exact (LinkFrame.refl shared).frame rfl

/-! ### What steps keep -/

section Keep

variable
  {before after : Shared}
  {call next : Call}

/-- A connection that is kept or dropped stays away once it is gone. -/
theorem connection_eq_none
    (connection :
      after.service.connection = before.service.connection ∨
        after.service.connection = none)
    (disconnected : before.service.connection = none) :
    after.service.connection = none :=
  connection.elim (fun same => same.trans disconnected) id

/-- A timer that is pending stays alone. -/
theorem Waits.frame
    (waits : Waits before)
    (frame : Frame before after) :
    Waits after where
  notStopping := frame.stopping.trans waits.notStopping
  notRunning := frame.notRunning waits.notRunning
  disconnected := connection_eq_none frame.connection waits.disconnected
  closed id := (frame.isOpen id).trans (waits.closed id)

/-- Steps that open and close nothing. -/
theorem Tidy.keep
    (tidy : Tidy before)
    (links : LinkFrame before after)
    (waiting : after.service.reconnectTimer ≠ none → Waits after) :
    Tidy after where
  single first second firstOpen secondOpen :=
    tidy.single first second
      (links.isOpen first ▸ firstOpen) (links.isOpen second ▸ secondOpen)
  subscribed id subscribed := by
    rw [links.isOpen id]
    exact (links.subscribed id subscribed).elim (tidy.subscribed id)
      fun isOpen => isOpen
  waiting := waiting

/-- Steps that do not start the service either. -/
theorem Tidy.frame
    (tidy : Tidy before)
    (frame : Frame before after) :
    Tidy after :=
  tidy.keep frame.toLinkFrame fun pending =>
    (tidy.waiting (frame.reconnectTimer ▸ pending)).frame frame

/-- A service that is being stopped may close any connection. -/
theorem Call.Stage.of_stopping
    (stage : call.Stage before)
    (stopping : after.service.stopping = true)
    (connection :
      after.service.connection = before.service.connection ∨
        after.service.connection = none) :
    call.Stage after := by
  have disconnected := connection_eq_none connection
  cases call with
  | connecting answer =>
      exact ⟨disconnected stage.1, fun _ _ _ => stopping⟩
  | declaring id operation answer => exact fun _ => stopping
  | releasing id answer => exact ⟨disconnected stage.1, fun _ _ => stopping⟩
  | _ => trivial

/-- A step that calls no `close()`. -/
theorem Call.Stage.keep
    (stage : call.Stage before)
    (closing :
      ∀ id, (after.links id).closing = (before.links id).closing)
    (isOpen :
      ∀ id, (after.links id).isOpen = true →
        (before.links id).isOpen = true)
    (stopping : after.service.stopping = before.service.stopping)
    (connection :
      after.service.connection = before.service.connection ∨
        after.service.connection = none) :
    call.Stage after := by
  have disconnected := connection_eq_none connection
  cases call with
  | connecting answer =>
      refine ⟨disconnected stage.1, fun id same => ?_⟩
      rw [closing id, stopping]
      exact stage.2 id same
  | declaring id operation answer =>
      change _ = true → _
      rw [closing id, stopping]
      exact stage
  | releasing id answer =>
      refine ⟨disconnected stage.1, fun done stillOpen => ?_⟩
      rw [stopping]
      exact stage.2 done (isOpen id stillOpen)
  | _ => trivial

/-- The attempt itself takes a step. -/
theorem Owns.frame
    (owns : Owns before call)
    (frame : Frame before after)
    (sameLink : next.link? = call.link?)
    (stage : next.Stage after) :
    Owns after next where
  noTimer := frame.reconnectTimer.trans owns.noTimer
  notRunning := frame.notRunning owns.notRunning
  own id isOpen := sameLink.trans (owns.own id (frame.isOpen id ▸ isOpen))
  stage := stage

/-- An attempt without a connection sees none that is open. -/
theorem Owns.closed
    (owns : Owns before call)
    (noLink : call.link? = none)
    (id : Nat) :
    (before.links id).isOpen = false := by
  by_contra isOpen
  have own := owns.own id (by simpa using isOpen)
  rw [noLink] at own
  cases own

end Keep

section Steps

variable
  {options : Options}
  {random : RandomValue}
  {shared after : Shared}
  {fulfilled : Bool}
  {call next : Call}

/-- A new connection is the only one that is open. -/
theorem Owns.connected
    (owns : Owns shared (.connecting .pending))
    (tidy : Tidy shared) :
    Tidy shared.connect ∧
      Owns shared.connect (.connecting (.fulfilled shared.opened)) := by
  have isNew :
      ∀ id, (shared.connect.links id).isOpen = true → id = shared.opened := by
    intro id isOpen
    by_contra different
    rw [Shared.links_connect_of_ne different, owns.closed rfl id] at isOpen
    cases isOpen
  refine ⟨⟨?_, ?_, fun pending => (pending owns.noTimer).elim⟩,
    ⟨owns.noTimer, owns.notRunning, ?_, owns.stage.1, ?_⟩⟩
  · intro first second firstOpen secondOpen
    exact (isNew first firstOpen).trans (isNew second secondOpen).symm
  · intro id subscribed
    by_cases same : id = shared.opened
    · subst id
      simp [Link.fresh, Link.unopened] at subscribed
    · rw [Shared.links_connect_of_ne same] at subscribed ⊢
      exact tidy.subscribed id subscribed
  · intro id isOpen
    rw [isNew id isOpen]
    rfl
  · intro id same closing
    cases same
    simp [Link.fresh, Link.unopened] at closing

/-- The library answers an attempt. -/
theorem Settle.owns
    (settles : Settle shared fulfilled call after next)
    (amqp : call.Settles shared.links fulfilled)
    (inProgress : call.InProgress)
    (tidy : Tidy shared)
    (owns : Owns shared call) :
    Tidy after ∧ Owns after next := by
  cases settles with
  | connected => exact owns.connected tidy
  | refused =>
      have frame := (LinkFrame.refl shared).frame rfl
      exact ⟨tidy, owns.frame frame rfl ⟨owns.stage.1, nofun⟩⟩
  | answered id operation =>
      have frame := (Settle.answered id operation).frame amqp nofun
      refine ⟨tidy.frame frame, owns.frame frame rfl fun closing => ?_⟩
      rw [Shared.links_modify_self] at closing
      exact owns.stage (by cases operation <;> exact closing)
  | failed id operation =>
      have frame := (LinkFrame.refl shared).frame rfl
      exact ⟨tidy, owns.frame frame rfl owns.stage⟩
  | released id =>
      have frame := (LinkFrame.refl shared).frame rfl
      refine ⟨tidy, owns.frame frame rfl ⟨owns.stage.1, ?_⟩⟩
      intro _ isOpen
      rw [show (shared.links id).isOpen = false from amqp] at isOpen
      cases isOpen
  | cancelled => exact inProgress.elim
  | channelClosed => exact inProgress.elim
  | closed => exact inProgress.elim

/-- A timer is set only when nothing is open. -/
theorem Waits.of_scheduled
    (noTimer : shared.service.reconnectTimer = none)
    (notRunning : shared.service.isRunning = false)
    (disconnected : shared.service.connection = none)
    (closed :
      shared.service.stopping = false →
        ∀ id, (shared.links id).isOpen = false)
    (pending :
      (shared.scheduleReconnect options random).service.reconnectTimer ≠
        none) :
    Waits (shared.scheduleReconnect options random) := by
  have notStopping : shared.service.stopping = false := by
    by_contra stopping
    refine pending ?_
    rw [Shared.scheduleReconnect,
      scheduleReconnect_of_stopping _ _ _ (by simpa using stopping)]
    exact noTimer
  constructor
  · simpa [Shared.scheduleReconnect] using notStopping
  · simpa [Shared.scheduleReconnect] using notRunning
  · simpa [Shared.scheduleReconnect] using disconnected
  · exact closed notStopping

/-- The `catch` of `start` waits for its connection to close. -/
theorem Owns.release
    {id : Nat}
    {operation : Operation}
    {answer : Promise Unit}
    (owns : Owns shared (.declaring id operation answer)) :
    Owns (shared.release id).1 (shared.release id).2 := by
  refine owns.frame (Shared.frame_release shared id) rfl ?_
  rcases Shared.closeConnection_cases shared.disconnect id with
    ⟨_, closed⟩ | ⟨unusable, closed⟩
  · simp only [Shared.release, closed]
    exact ⟨rfl, fun done => absurd rfl done⟩
  · simp only [Shared.release, closed]
    refine ⟨rfl, fun _ isOpen => owns.stage ?_⟩
    change (shared.links id).usable = false at unusable
    change (shared.links id).isOpen = true at isOpen
    simpa [Link.usable, isOpen] using unusable

/-- An attempt goes on. -/
theorem Resume.owns
    (resumes : Resume options random shared call after next)
    (inProgress : call.InProgress)
    (tidy : Tidy shared)
    (owns : Owns shared call) :
    Tidy after ∧ (next.InProgress → Owns after next) := by
  have noTimer := owns.noTimer
  cases resumes with
  | connected id =>
      have links := Shared.linkFrame_attach shared id
      refine ⟨tidy.keep links fun pending => (pending noTimer).elim,
        fun _ => ⟨noTimer, owns.notRunning, ?_, ?_⟩⟩
      · exact fun other isOpen =>
          owns.own other (links.isOpen other ▸ isOpen)
      · intro closing
        refine owns.stage.2 id rfl ?_
        simpa [Shared.attach, Link.listen] using closing
  | refused =>
      refine ⟨tidy.keep (.of_links rfl rfl) ?_, nofun⟩
      exact Waits.of_scheduled noTimer rfl rfl fun _ => owns.closed rfl
  | @declared id operation next follows =>
      have frame : Frame shared (shared.declared id operation) := by
        cases operation <;>
          exact
            { toLinkFrame := .of_links rfl rfl
              reconnectTimer := rfl
              stopping := rfl
              notRunning := fun notRunning => notRunning
              connection := .inl rfl }
      refine ⟨tidy.frame frame, fun _ => owns.frame frame rfl ?_⟩
      cases operation <;> exact owns.stage
  | consumes id =>
      exact ⟨tidy.keep (.of_links rfl rfl) fun pending =>
        (pending noTimer).elim, nofun⟩
  | failed id operation =>
      exact ⟨tidy.frame (Shared.frame_release shared id),
        fun _ => owns.release⟩
  | @released id answer done =>
      refine ⟨tidy.keep (.of_links rfl rfl) ?_, nofun⟩
      refine Waits.of_scheduled noTimer owns.notRunning owns.stage.1 ?_
      intro notStopping other
      by_contra isOpen
      have isOpen : (shared.links other).isOpen = true := by
        simpa using isOpen
      cases owns.own other isOpen
      have stopping := owns.stage.2 done isOpen
      rw [notStopping] at stopping
      cases stopping
  | cancelled => exact inProgress.elim
  | channelClosed => exact inProgress.elim
  | closed => exact inProgress.elim

/-- `stop` waits on. -/
theorem Settle.stops
    (settles : Settle shared fulfilled call after next)
    (stops : call.Stops) :
    next.Stops := by
  cases settles <;> first | exact stops.elim | trivial

/-- `stop` goes on. -/
theorem Resume.frame_of_stops
    (resumes : Resume options random shared call after next)
    (stops : call.Stops) :
    Frame shared after ∧ ¬ next.InProgress := by
  cases resumes with
  | cancelled id done =>
      exact ⟨Shared.frame_stopChannel shared,
        Shared.not_inProgress_stopChannel shared⟩
  | channelClosed id done =>
      exact ⟨Shared.frame_stopConnection shared,
        Shared.not_inProgress_stopConnection shared⟩
  | closed _ done => exact ⟨Shared.frame_disconnect shared, id⟩
  | _ => exact stops.elim

/-- Settling a promise does not touch the service. -/
theorem Settle.service
    (settles : Settle shared fulfilled call after next) :
    after.service = shared.service := by
  cases settles with
  | cancelled => cases fulfilled <;> rfl
  | channelClosed => cases fulfilled <;> rfl
  | _ => rfl

/-- No call takes a `stop` back. -/
theorem Resume.stopping
    (resumes : Resume options random shared call after next) :
    after.service.stopping = shared.service.stopping := by
  cases resumes with
  | connected id => rfl
  | refused => exact stopping_scheduleReconnect ..
  | @declared id operation => cases operation <;> rfl
  | consumes id => rfl
  | failed id => exact (Shared.frame_release shared id).stopping
  | released => exact stopping_scheduleReconnect ..
  | cancelled => exact (Shared.frame_stopChannel shared).stopping
  | channelClosed => exact (Shared.frame_stopConnection shared).stopping
  | closed => rfl

/-- What is suspended in `stop` was so before. -/
theorem Resume.stops_of_stops
    (resumes : Resume options random shared call after next)
    (stops : next.Stops) :
    call.Stops := by
  cases resumes <;> first | exact stops.elim | trivial

/-- What is suspended in `stop` was so before. -/
theorem Settle.stops_of_stops
    (settles : Settle shared fulfilled call after next)
    (stops : next.Stops) :
    call.Stops := by
  cases settles <;> first | exact stops.elim | trivial

/-- Only attempts and `stop` wait for an answer. -/
theorem Settle.stops_of_idle
    (settles : Settle shared fulfilled call after next)
    (idle : ¬ call.InProgress) :
    call.Stops := by
  cases settles <;> first | trivial | exact (idle trivial).elim

/-- Only attempts and `stop` go on. -/
theorem Resume.stops_of_idle
    (resumes : Resume options random shared call after next)
    (idle : ¬ call.InProgress) :
    call.Stops := by
  cases resumes <;> first | trivial | exact (idle trivial).elim

/-- `stop` goes on beside an attempt. -/
theorem Owns.beside
    (owns : Owns shared call)
    (frame : Frame shared after)
    (stopping : shared.service.stopping = true) :
    Owns after call :=
  owns.frame frame rfl
    (owns.stage.of_stopping (frame.stopping.trans stopping) frame.connection)

end Steps

section Events

variable
  (options : Options)
  (random : RandomValue)
  {shared : Shared}
  {id : Nat}

/-- The handler changes no connection. -/
@[simp] theorem links_closes :
    (closes options random shared id).links =
      (shared.modify id Link.drop).links := by
  unfold closes
  split <;> rfl

@[simp] theorem stopping_closes :
    (closes options random shared id).service.stopping =
      shared.service.stopping := by
  rcases closes_cases options random shared id with
    ⟨_, _, _, same⟩ | ⟨_, _, same⟩ | ⟨_, same⟩
  · rw [same]
    exact stopping_scheduleReconnect ..
  · rw [same]
    rfl
  · rw [same]
    rfl

/-- The handler forgets the connection. -/
theorem connection_closes (shared : Shared) (id : Nat) :
    (closes options random shared id).service.connection =
        shared.service.connection ∨
      (closes options random shared id).service.connection = none := by
  rcases closes_cases options random shared id with
    ⟨_, _, _, same⟩ | ⟨_, _, same⟩ | ⟨_, same⟩
  · rw [same]
    exact .inr (connection_scheduleReconnect ..)
  · rw [same]
    exact .inr rfl
  · rw [same]
    exact .inl rfl

/-- The only open connection has closed. -/
theorem Tidy.closed_of_closes
    (tidy : Tidy shared)
    (isOpen : (shared.links id).isOpen = true)
    (other : Nat) :
    ((closes options random shared id).links other).isOpen = false := by
  rw [links_closes]
  by_cases same : other = id
  · subst other
    rw [Shared.links_modify_self]
    rfl
  · rw [Shared.links_modify_of_ne same]
    by_contra stillOpen
    exact same (tidy.single other id (by simpa using stillOpen) isOpen)

/-- No timer is pending while a connection is open. -/
theorem Tidy.no_timer
    (tidy : Tidy shared)
    (isOpen : (shared.links id).isOpen = true) :
    shared.service.reconnectTimer = none := by
  by_contra pending
  have closed := (tidy.waiting pending).closed id
  rw [isOpen] at closed
  cases closed

/-- A connection closes. -/
theorem Tidy.dropped
    (tidy : Tidy shared)
    (isOpen : (shared.links id).isOpen = true) :
    Tidy (closes options random shared id) := by
  have closed := tidy.closed_of_closes options random isOpen
  refine ⟨?_, ?_, ?_⟩
  · intro first second firstOpen
    rw [closed first] at firstOpen
    cases firstOpen
  · intro other subscribed
    rw [links_closes] at subscribed
    by_cases same : other = id
    · subst other
      rw [Shared.links_modify_self] at subscribed
      cases subscribed
    · rw [Shared.links_modify_of_ne same] at subscribed
      exact (same (tidy.single other id
        (tidy.subscribed other subscribed) isOpen)).elim
  · intro pending
    have noTimer := tidy.no_timer isOpen
    rcases closes_cases options random shared id with
      ⟨_, _, _, same⟩ | ⟨_, _, same⟩ | ⟨_, same⟩
    · rw [same] at pending closed ⊢
      exact Waits.of_scheduled noTimer rfl rfl (fun _ => closed) pending
    · rw [same] at pending
      exact (pending noTimer).elim
    · rw [same] at pending
      exact (pending noTimer).elim

/-- A connection closes under an attempt. -/
theorem Owns.dropped
    {call : Call}
    (owns : Owns shared call)
    (tidy : Tidy shared)
    (isOpen : (shared.links id).isOpen = true) :
    Owns (closes options random shared id) call := by
  have closed := tidy.closed_of_closes options random isOpen
  have service :
      (closes options random shared id).service.reconnectTimer = none ∧
        (closes options random shared id).service.isRunning = false := by
    rcases closes_cases options random shared id with
      ⟨_, running, _⟩ | ⟨_, _, same⟩ | ⟨_, same⟩
    · rw [owns.notRunning] at running
      cases running
    · rw [same]
      exact ⟨owns.noTimer, rfl⟩
    · rw [same]
      exact ⟨owns.noTimer, owns.notRunning⟩
  have notOpen :
      ∀ other,
        ((closes options random shared id).links other).isOpen ≠ true := by
    intro other
    rw [closed other]
    exact Bool.false_ne_true
  have keeps : ∀ link : Link, link.drop.closing = link.closing :=
    fun _ => rfl
  refine ⟨service.1, service.2, fun other stillOpen => ?_, ?_⟩
  · exact absurd stillOpen (notOpen other)
  · refine owns.stage.keep (fun other => ?_) (fun other stillOpen => ?_)
      (stopping_closes ..) (connection_closes ..)
    · rw [links_closes]
      exact Shared.modify_keeps Link.closing keeps other
    · exact absurd stillOpen (notOpen other)

/-- The channel or the consumer of a connection goes away. -/
theorem Owns.modify
    {call : Call}
    {change : Link → Link}
    (owns : Owns shared call)
    (links : LinkFrame shared (shared.modify id change))
    (closing : ∀ link, (change link).closing = link.closing) :
    Owns (shared.modify id change) call :=
  owns.frame (links.frame rfl) rfl
    (owns.stage.keep (Shared.modify_keeps Link.closing closing)
      (fun other isOpen => links.isOpen other ▸ isOpen) rfl (.inl rfl))

/-- A new attempt, when the timer runs out. -/
theorem Waits.timerFires
    (waits : Waits shared) :
    shared.timerFires =
      ({ shared with
          service := { shared.service with reconnectTimer := none } },
        [.connecting .pending]) := by
  simp only [Shared.timerFires, Shared.attemptStart, waits.notStopping,
    waits.notRunning, if_false, Bool.false_eq_true]

end Events

/-! ### Every run -/

section Runs

variable {options : Options}

/-- What every reachable state keeps. -/
structure Exclusive (world : World) : Prop where
  stops :
    ∀ call ∈ world.tasks, call.Stops →
      world.shared.service.stopping = true
  attempts :
    TaskMachine.ExclusiveInvariant Call.InProgress
      (fun _ => Tidy) (fun _ => Owns) world

/-- The first attempt is alone. -/
theorem Exclusive.initial : Exclusive runSupervised := by
  refine ⟨?_, ⟨⟨?_, nofun, fun pending => (pending rfl).elim⟩, ?_, ?_⟩⟩
  · intro call member stops
    obtain rfl := List.mem_singleton.mp member
    exact stops.elim
  · exact fun _ _ isOpen => nomatch isOpen
  · change TaskMachine.AtMostOne Call.InProgress ([] ++ [_])
    exact .append_singleton fun _ member => absurd member List.not_mem_nil
  · intro call member _
    obtain rfl := List.mem_singleton.mp member
    exact ⟨rfl, rfl, nofun, ⟨rfl, nofun⟩⟩

/-- An attempt that waits for its connection has none yet. -/
theorem Exclusive.disconnected
    {world : World}
    {answer : Promise Nat}
    (holds : Exclusive world)
    (member : .connecting answer ∈ world.tasks) :
    world.shared.service.connection = none :=
  (holds.attempts.local_ _ member trivial).stage.1

/-- What an outside event keeps. -/
theorem Exclusive.env
    {world : World}
    {event : Env}
    {shared : Shared}
    {calls : List Call}
    (holds : Exclusive world)
    (amqp : Amqp world (.env event))
    (moved :
      EventConsumerService.env options world.shared world.tasks event =
        some (shared, calls)) :
    Exclusive { world with shared, tasks := calls } := by
  have tidy := holds.attempts.global
  cases event with
  | timerFires =>
      simp only [EventConsumerService.env] at moved
      split at moved
      · rename_i pending
        have waits := tidy.waiting (Option.isSome_iff_ne_none.mp pending)
        rw [waits.timerFires] at moved
        cases moved
        have noAttempt : ∀ call ∈ world.tasks, ¬ call.InProgress := by
          intro call member inProgress
          have owns := holds.attempts.local_ call member inProgress
          rw [owns.noTimer] at pending
          cases pending
        refine ⟨?_, ⟨⟨tidy.single, tidy.subscribed, ?_⟩,
          .append_singleton noAttempt, ?_⟩⟩
        · intro call member stops
          rcases List.mem_append.mp member with old | new
          · exact holds.stops call old stops
          · obtain rfl := List.mem_singleton.mp new
            exact stops.elim
        · exact fun pending => (pending rfl).elim
        · intro call member inProgress
          rcases List.mem_append.mp member with old | new
          · exact (noAttempt call old inProgress).elim
          · obtain rfl := List.mem_singleton.mp new
            refine ⟨rfl, waits.notRunning, ?_, ⟨waits.disconnected, nofun⟩⟩
            intro id isOpen
            rw [waits.closed id] at isOpen
            cases isOpen
      · cases moved
  | stop =>
      cases moved
      have frame := Shared.frame_stop world.shared
      have stopping : world.shared.stop.1.service.stopping = true :=
        frame.stopping
      refine ⟨fun _ _ _ => stopping, ⟨?_, ?_, ?_⟩⟩
      · refine tidy.keep ⟨frame.opened, frame.isOpen, frame.subscribed⟩
          fun pending => ?_
        exact (pending frame.reconnectTimer).elim
      · refine holds.attempts.atMostOne.append fun call new => ?_
        obtain rfl := List.mem_singleton.mp new
        exact Shared.not_inProgress_stop world.shared
      · intro call member inProgress
        rcases List.mem_append.mp member with old | new
        · have owns := holds.attempts.local_ call old inProgress
          refine ⟨frame.reconnectTimer, frame.notRunning owns.notRunning,
            fun id isOpen => owns.own id (frame.isOpen id ▸ isOpen), ?_⟩
          exact owns.stage.of_stopping stopping frame.connection
        · obtain rfl := List.mem_singleton.mp new
          exact (Shared.not_inProgress_stop world.shared inProgress).elim
  | connectionClosed id random =>
      cases moved
      refine ⟨?_, tidy.dropped _ _ amqp, holds.attempts.atMostOne, ?_⟩
      · intro call member stops
        rw [stopping_closes]
        exact holds.stops call member stops
      · intro call member inProgress
        exact (holds.attempts.local_ call member inProgress).dropped
          _ _ tidy amqp
  | channelClosed id =>
      cases moved
      have links := LinkFrame.dropChannel world.shared id
      refine ⟨holds.stops, tidy.frame (links.frame rfl),
        holds.attempts.atMostOne, fun call member inProgress => ?_⟩
      exact (holds.attempts.local_ call member inProgress).modify links
        fun _ => rfl
  | consumerCancelled id =>
      cases moved
      have links := LinkFrame.unsubscribe world.shared id
      refine ⟨holds.stops, tidy.frame (links.frame rfl),
        holds.attempts.atMostOne, fun call member inProgress => ?_⟩
      exact (holds.attempts.local_ call member inProgress).modify links
        fun _ => rfl

/-- The library lets a state with these properties take the step. -/
def Orderly (world : World) (event : Event) : Prop :=
  Exclusive world ∧ Amqp world event

/-- Every step keeps what holds of the attempts. -/
theorem Exclusive.attempts_step
    {before after : World}
    {event : Event}
    (holds : Exclusive before)
    (amqp : Amqp before event)
    (taken : (machine options).step before event = some after) :
    TaskMachine.ExclusiveInvariant Call.InProgress
      (fun _ => Tidy) (fun _ => Owns) after := by
  have admitted : Orderly before event := ⟨holds, amqp⟩
  refine TaskMachine.ExclusiveInvariant.step ?_ ?_ ?_ ?_
    holds.attempts admitted taken
  · intro world index call action shared next spawned
      attempts admitted found inProgress owns moved
    obtain ⟨rfl, ⟨fulfilled, rfl, settles⟩ | ⟨random, rfl, resumes⟩⟩ :=
      machine_act_spec moved
    · obtain ⟨tidy, nextOwns⟩ :=
        settles.owns (admitted.2 call found) inProgress
          attempts.global owns
      exact ⟨tidy, fun _ => nextOwns, nofun⟩
    · obtain ⟨tidy, nextOwns⟩ :=
        resumes.owns inProgress attempts.global owns
      exact ⟨tidy, nextOwns, nofun⟩
  · intro world index call action shared next spawned
      attempts admitted found idle moved
    have stopping :=
      admitted.1.stops call (List.mem_of_getElem? found)
    obtain ⟨rfl, ⟨fulfilled, rfl, settles⟩ | ⟨random, rfl, resumes⟩⟩ :=
      machine_act_spec moved
    · have stops := settles.stops_of_idle idle
      have frame := settles.frame (admitted.2 call found)
        fun answer same => idle (same ▸ trivial)
      exact ⟨attempts.global.frame frame,
        (settles.stops stops).not_inProgress, nofun,
        fun other _ owns => owns.beside frame (stopping stops)⟩
    · have stops := resumes.stops_of_idle idle
      obtain ⟨frame, stillIdle⟩ := resumes.frame_of_stops stops
      exact ⟨attempts.global.frame frame, stillIdle, nofun,
        fun other _ owns => owns.beside frame (stopping stops)⟩
  · intro world event shared calls _ admitted moved
    exact (admitted.1.env admitted.2 moved).attempts
  · exact fun {world change} => nomatch change

/-- Every step keeps all of it. -/
theorem Exclusive.step
    {before after : World}
    {event : Event}
    (holds : Exclusive before)
    (amqp : Amqp before event)
    (taken : (machine options).step before event = some after) :
    Exclusive after := by
  refine ⟨?_, holds.attempts_step amqp taken⟩
  cases event with
  | act index action =>
      obtain ⟨call, shared, next, spawned, found, moved, rfl⟩ :=
        TaskMachine.step_act taken
      have known := holds.stops call (List.mem_of_getElem? found)
      intro other member stops
      obtain ⟨rfl, ⟨_, _, settles⟩ | ⟨_, _, resumes⟩⟩ :=
        machine_act_spec moved
      · simp only [settles.service]
        rcases TaskMachine.mem_set_append member with old | rfl | new
        · exact holds.stops other old stops
        · exact known (settles.stops_of_stops stops)
        · exact absurd new List.not_mem_nil
      · simp only [resumes.stopping]
        rcases TaskMachine.mem_set_append member with old | rfl | new
        · exact holds.stops other old stops
        · exact known (resumes.stops_of_stops stops)
        · exact absurd new List.not_mem_nil
  | env event =>
      obtain ⟨shared, calls, moved, rfl⟩ := TaskMachine.step_env taken
      exact (holds.env amqp moved).stops
  | change change => nomatch change

/-- And so does every run. -/
theorem Exclusive.of_run
    {events : List Event}
    {reached : World}
    (run :
      Run (machine options).step Amqp runSupervised events reached) :
    Exclusive reached :=
  run.invariant Exclusive
    (fun holds amqp taken => holds.step amqp taken) .initial

end Runs

end Replication.EventConsumerService
