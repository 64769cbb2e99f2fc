import Replication.ConsumerAttempts

namespace Replication.EventConsumerService

/-!
# Who closes a connection

An open connection is held by the attempt that has opened it, by the service, or
by a call of `close()` that has not settled.  Once `stop` has been called the
service holds one only until that call of `stop` gets to it.  An attempt hands
its connection on when it ends: to `close()` if it fails, to the service if it
subscribes.  So it must not subscribe when every `stop` has ended.
-/

/-- `start` does not succeed after every `stop` has ended. -/
def Call.InTime (shared : Shared) (calls : List Call) : Call → Prop
  | .declaring _ .consume (.fulfilled _) =>
      shared.service.stopping = true → ∃ call ∈ calls, call.Stops
  | _ => True

instance
    (shared : Shared)
    (calls : List Call) :
    DecidablePred (Call.InTime shared calls)
  | .connecting _ => isTrue trivial
  | .declaring _ .createChannel _ => isTrue trivial
  | .declaring _ .assertExchange _ => isTrue trivial
  | .declaring _ .assertQueue _ => isTrue trivial
  | .declaring _ .bindQueue _ => isTrue trivial
  | .declaring _ .prefetch _ => isTrue trivial
  | .declaring _ .consume .pending => isTrue trivial
  | .declaring _ .consume (.fulfilled _) => inferInstanceAs (Decidable (_ → _))
  | .declaring _ .consume .rejected => isTrue trivial
  | .releasing _ _ => isTrue trivial
  | .cancelling _ _ => isTrue trivial
  | .closingChannel _ _ => isTrue trivial
  | .closingConnection _ _ => isTrue trivial
  | .finished => isTrue trivial

namespace Call

/-- An attempt that subscribes on this connection, or else closes it. -/
def Attempts (id : Nat) : Call → Prop
  | .connecting (.fulfilled link) => link = id
  | .declaring link _ _ => link = id
  | _ => False

/-- `close()` of this connection has been called and has not settled. -/
def Closes (id : Nat) : Call → Prop
  | .releasing link .pending => link = id
  | .closingConnection link .pending => link = id
  | _ => False

/-- A call of `stop` that has yet to close the connection it finds. -/
def WillClose : Call → Prop
  | .cancelling _ _ => True
  | .closingChannel _ _ => True
  | _ => False

end Call

/-- The connection is known to an attempt, to the service, or to a `close()`. -/
def Known (shared : Shared) (calls : List Call) (id : Nat) : Prop :=
  (∃ call ∈ calls, call.Attempts id) ∨
    shared.service.connection = some id ∨
    ∃ call ∈ calls, call.Closes id

/-- If the service alone knows it, `stop` will find it there. -/
def Held (shared : Shared) (calls : List Call) (id : Nat) : Prop :=
  (∃ call ∈ calls, call.Attempts id) ∨
    (shared.service.connection = some id ∧
      (shared.service.stopping = false ∨
        ∃ call ∈ calls, call.WillClose)) ∨
    ∃ call ∈ calls, call.Closes id

/-- What is known of the connections that are open. -/
structure Traced (shared : Shared) (calls : List Call) : Prop where
  known :
    ∀ id, (shared.links id).isOpen = true → Known shared calls id
  closing :
    ∀ id, (shared.links id).isOpen = true →
      (shared.links id).closing = true → ∃ call ∈ calls, call.Closes id
  /-- The service follows an attempt until the connection is closed. -/
  declared :
    ∀ id operation answer, .declaring id operation answer ∈ calls →
      (shared.links id).isOpen = true →
        shared.service.connection = some id ∨
          ∃ call ∈ calls, call.Closes id
  /-- `stop` has found the only connection. -/
  target :
    ∀ id answer, .closingConnection id answer ∈ calls →
      (∀ answer, Call.connecting answer ∉ calls) ∧
        (shared.service.connection = none ∨
          (shared.service.connection = some id ∧
            ((shared.links id).isOpen = true →
              (shared.links id).closing = true)))

/-- Every open connection will be closed once `stop` has been called. -/
structure Accounted (shared : Shared) (calls : List Call) : Prop
    extends Traced shared calls where
  held :
    ∀ id, (shared.links id).isOpen = true → Held shared calls id
  running :
    shared.service.isRunning = true → shared.service.stopping = true →
      ∃ call ∈ calls, call.Stops

/-- A connection that is held is known. -/
theorem Held.known
    {shared : Shared}
    {calls : List Call}
    {id : Nat}
    (held : Held shared calls id) :
    Known shared calls id := by
  rcases held with attempt | ⟨connection, _⟩ | closes
  · exact .inl attempt
  · exact .inr (.inl connection)
  · exact .inr (.inr closes)

section Steps

variable
  {options : Options}
  {random : RandomValue}
  {shared after : Shared}
  {calls calls' : List Call}
  {call next : Call}

/-- Nothing is open. -/
theorem Accounted.of_closed
    (closed : ∀ id, (shared.links id).isOpen = false)
    (running :
      shared.service.isRunning = true → shared.service.stopping = true →
        ∃ call ∈ calls, call.Stops)
    (target :
      ∀ id answer, .closingConnection id answer ∈ calls →
        (∀ answer, Call.connecting answer ∉ calls) ∧
          (shared.service.connection = none ∨
            shared.service.connection = some id)) :
    Accounted shared calls := by
  have notOpen : ∀ id, (shared.links id).isOpen ≠ true := by
    intro id
    rw [closed id]
    exact Bool.false_ne_true
  exact
    { known := fun id isOpen => absurd isOpen (notOpen id)
      closing := fun id isOpen => absurd isOpen (notOpen id)
      declared := fun id _ _ _ isOpen => absurd isOpen (notOpen id)
      target := fun id answer member =>
        (target id answer member).imp_right fun service =>
          service.imp_right fun same =>
            ⟨same, fun isOpen => absurd isOpen (notOpen id)⟩
      held := fun id isOpen => absurd isOpen (notOpen id)
      running := running }

/-- A step that neither opens, closes nor forgets a connection. -/
structure Quiet
    (before after : Shared)
    (call next : Call) : Prop where
  isOpen : ∀ id, (after.links id).isOpen = (before.links id).isOpen
  closing : ∀ id, (after.links id).closing = (before.links id).closing
  connection : after.service.connection = before.service.connection
  stopping : after.service.stopping = before.service.stopping
  willClose : call.WillClose → next.WillClose
  closes :
    ∀ id, (after.links id).isOpen = true →
      call.Closes id → next.Closes id
  notConnecting : ∀ answer, next ≠ .connecting answer
  declares :
    ∀ id operation answer, next = .declaring id operation answer →
      ∃ operation answer, call = .declaring id operation answer
  target :
    ∀ id answer, next = .closingConnection id answer →
      ∃ answer, call = .closingConnection id answer

/-- What is known stays so, as long as every connection stays held. -/
theorem Accounted.quiet
    (holds : Accounted shared calls)
    (quiet : Quiet shared after call next)
    (member : call ∈ calls)
    (replaces : TaskMachine.Replaces calls call next calls')
    (held : ∀ id, (after.links id).isOpen = true → Held after calls' id)
    (running :
      after.service.isRunning = true → after.service.stopping = true →
        ∃ call ∈ calls', call.Stops) :
    Accounted after calls' := by
  refine { known := fun id isOpen => (held id isOpen).known
           closing := ?_, declared := ?_, target := ?_
           held := held, running := running }
  · intro id isOpen closing
    exact replaces.exists_mem (quiet.closes id isOpen)
      (holds.closing id (quiet.isOpen id ▸ isOpen)
        (quiet.closing id ▸ closing))
  · intro id operation answer declares isOpen
    obtain ⟨_, _, old⟩ :
        ∃ operation answer, Call.declaring id operation answer ∈ calls := by
      rcases replaces.origin _ declares with old | same
      · exact ⟨_, _, old⟩
      · obtain ⟨_, _, rfl⟩ := quiet.declares id _ _ same.symm
        exact ⟨_, _, member⟩
    rw [quiet.connection]
    exact (holds.declared id _ _ old (quiet.isOpen id ▸ isOpen)).imp_right
      (replaces.exists_mem (quiet.closes id isOpen))
  · intro id answer stops
    obtain ⟨_, old⟩ :
        ∃ answer, Call.closingConnection id answer ∈ calls := by
      rcases replaces.origin _ stops with old | same
      · exact ⟨_, old⟩
      · obtain ⟨_, rfl⟩ := quiet.target id _ same.symm
        exact ⟨_, member⟩
    obtain ⟨noAttempt, target⟩ := holds.target id _ old
    rw [quiet.connection, quiet.isOpen id, quiet.closing id]
    refine ⟨fun answer connecting => ?_, target⟩
    rcases replaces.origin _ connecting with old | same
    · exact noAttempt answer old
    · exact quiet.notConnecting answer same.symm

/-- A connection stays held if the attempt on it goes on. -/
theorem Held.quiet
    {id : Nat}
    (held : Held shared calls id)
    (quiet : Quiet shared after call next)
    (replaces : TaskMachine.Replaces calls call next calls')
    (isOpen : (after.links id).isOpen = true)
    (attempts : call.Attempts id → next.Attempts id) :
    Held after calls' id := by
  rcases held with attempt | ⟨connection, stops⟩ | closes
  · exact .inl (replaces.exists_mem attempts attempt)
  · refine .inr (.inl ⟨quiet.connection.trans connection, ?_⟩)
    rcases stops with notStopping | waits
    · exact .inl (quiet.stopping.trans notStopping)
    · exact .inr (replaces.exists_mem quiet.willClose waits)
  · exact .inr (.inr (replaces.exists_mem (quiet.closes id isOpen) closes))

/-! ### What `stop` does about a connection -/

/-- A call that holds no connection. -/
def Call.Free (call : Call) : Prop :=
  ∀ id, ¬ call.Attempts id ∧ ¬ call.Closes id

/-- What is known without the service stays so. -/
theorem Known.of_free
    {id : Nat}
    (known : Known shared calls id)
    (free : call.Free)
    (replaces : TaskMachine.Replaces calls call next calls') :
    shared.service.connection = some id ∨ ∀ after, Held after calls' id := by
  rcases known with attempt | connection | closes
  · refine .inr fun _ => .inl ?_
    exact replaces.exists_mem (fun held => ((free id).1 held).elim) attempt
  · exact .inl connection
  · refine .inr fun _ => .inr (.inr ?_)
    exact replaces.exists_mem (fun held => ((free id).2 held).elim) closes

/-- A `close()` that has not settled is still there. -/
theorem Traced.closes_of_free
    {id : Nat}
    (traced : Traced shared calls)
    (free : call.Free)
    (replaces : TaskMachine.Replaces calls call next calls')
    (isOpen : (shared.links id).isOpen = true)
    (closing : (shared.links id).closing = true) :
    ∃ other ∈ calls', other.Closes id :=
  replaces.exists_mem (fun held => ((free id).2 held).elim)
    (traced.closing id isOpen closing)

/-- An attempt that is still there has not been forgotten. -/
theorem Traced.declared_of_free
    {id : Nat}
    {operation : Operation}
    {answer : Promise Unit}
    (traced : Traced shared calls)
    (free : call.Free)
    (replaces : TaskMachine.Replaces calls call next calls')
    (idle : ¬ next.InProgress)
    (member : .declaring id operation answer ∈ calls')
    (isOpen : (shared.links id).isOpen = true) :
    shared.service.connection = some id ∨
      ∃ other ∈ calls', other.Closes id := by
  rcases replaces.origin _ member with old | rfl
  · exact (traced.declared id _ _ old isOpen).imp_right
      (replaces.exists_mem fun held => ((free id).2 held).elim)
  · exact (idle trivial).elim

/-- No attempt has begun. -/
theorem not_mem_connecting
    {answer : Promise Nat}
    (noAttempt : ∀ answer, Call.connecting answer ∉ calls)
    (replaces : TaskMachine.Replaces calls call next calls')
    (idle : ¬ next.InProgress) :
    Call.connecting answer ∉ calls' := by
  intro member
  rcases replaces.origin _ member with old | rfl
  · exact noAttempt answer old
  · exact idle trivial

/-- The fields are reset; nothing may be left that only they know. -/
theorem Traced.disconnect
    (traced : Traced shared calls)
    (free : call.Free)
    (replaces : TaskMachine.Replaces calls call .finished calls')
    (forgotten :
      ∀ id, (shared.links id).isOpen = true →
        shared.service.connection = some id →
          ∃ other ∈ calls', other.Closes id) :
    Accounted shared.disconnect calls' := by
  have idle : ¬ Call.finished.InProgress := fun busy => busy
  have held :
      ∀ id, (shared.links id).isOpen = true →
        Held shared.disconnect calls' id := by
    intro id isOpen
    rcases (traced.known id isOpen).of_free free replaces with
      connection | held
    · exact .inr (.inr (forgotten id isOpen connection))
    · exact held _
  refine
    { known := fun id isOpen => (held id isOpen).known
      closing := fun id isOpen closing =>
        traced.closes_of_free free replaces isOpen closing
      declared := ?_, target := ?_, held := held, running := nofun }
  · intro id operation answer member isOpen
    rcases traced.declared_of_free free replaces idle member isOpen with
      connection | closes
    · exact .inr (forgotten id isOpen connection)
    · exact .inr closes
  · intro id answer member
    rcases replaces.origin _ member with old | same
    · exact ⟨fun _ =>
          not_mem_connecting (traced.target id _ old).1 replaces idle,
        .inl rfl⟩
    · cases same

/-- `connection.close()` begins to close the connection. -/
theorem Traced.closesUsable
    {id : Nat}
    (traced : Traced shared calls)
    (noAttempt : ∀ answer, Call.connecting answer ∉ calls)
    (free : call.Free)
    (connection : shared.service.connection = some id)
    (replaces :
      TaskMachine.Replaces calls call (.closingConnection id .pending) calls')
    (added : .closingConnection id .pending ∈ calls') :
    Accounted (shared.modify id Link.close) calls' := by
  have isTarget :
      ∀ other, shared.service.connection = some other → other = id :=
    fun _ same => (Option.some.inj (connection.symm.trans same)).symm
  have closes : ∃ other ∈ calls', other.Closes id :=
    ⟨_, added, rfl⟩
  have isOpen :
      ∀ other,
        ((shared.modify id Link.close).links other).isOpen =
          (shared.links other).isOpen :=
    Shared.modify_keeps Link.isOpen fun _ => rfl
  have held :
      ∀ other,
        ((shared.modify id Link.close).links other).isOpen = true →
          Held (shared.modify id Link.close) calls' other := by
    intro other stillOpen
    rw [isOpen other] at stillOpen
    rcases (traced.known other stillOpen).of_free free replaces with
      same | held
    · exact .inr (.inr (isTarget other same ▸ closes))
    · exact held _
  refine
    { known := fun other stillOpen => (held other stillOpen).known
      closing := ?_, declared := ?_, target := ?_, held := held
      running := fun _ _ => ⟨_, added, trivial⟩ }
  · intro other stillOpen closing
    by_cases same : other = id
    · exact same ▸ closes
    · rw [Shared.links_modify_of_ne same] at stillOpen closing
      exact traced.closes_of_free free replaces stillOpen closing
  · intro other operation answer member stillOpen
    exact traced.declared_of_free free replaces (fun busy => busy) member
      (isOpen other ▸ stillOpen)
  · intro other answer member
    have target :
        shared.service.connection = none ∨
          shared.service.connection = some other := by
      rcases replaces.origin _ member with old | new
      · exact (traced.target other answer old).2.imp_right And.left
      · cases new
        exact .inr connection
    refine ⟨fun _ => not_mem_connecting noAttempt replaces fun busy => busy,
      target.imp_right fun same => ⟨same, fun _ => ?_⟩⟩
    cases isTarget other same
    rw [Shared.links_modify_self]
    rfl

/-- `connection.close()` rejects when the connection is closing or closed. -/
theorem Traced.closesUnusable
    {id : Nat}
    {answer : Promise Unit}
    (traced : Traced shared calls)
    (noAttempt : ∀ answer, Call.connecting answer ∉ calls)
    (free : call.Free)
    (connection : shared.service.connection = some id)
    (unusable : (shared.links id).usable = false)
    (replaces :
      TaskMachine.Replaces calls call (.closingConnection id answer) calls')
    (added : .closingConnection id answer ∈ calls') :
    Accounted shared calls' := by
  have closing
      (isOpen : (shared.links id).isOpen = true) :
      (shared.links id).closing = true := by
    simpa [Link.usable, isOpen] using unusable
  have held :
      ∀ other, (shared.links other).isOpen = true →
        Held shared calls' other := by
    intro other isOpen
    rcases (traced.known other isOpen).of_free free replaces with
      same | held
    · obtain rfl := Option.some.inj (connection.symm.trans same)
      exact .inr (.inr (traced.closes_of_free free replaces isOpen
        (closing isOpen)))
    · exact held _
  refine
    { known := fun other isOpen => (held other isOpen).known
      closing := fun other isOpen closing =>
        traced.closes_of_free free replaces isOpen closing
      declared := ?_, target := ?_, held := held
      running := fun _ _ => ⟨_, added, trivial⟩ }
  · intro other operation answer member isOpen
    exact traced.declared_of_free free replaces (fun busy => busy) member
      isOpen
  · intro other answer member
    refine ⟨fun _ =>
      not_mem_connecting noAttempt replaces fun busy => busy, ?_⟩
    rcases replaces.origin _ member with old | new
    · exact (traced.target other answer old).2
    · cases new
      exact .inr ⟨connection, closing⟩

/-- `stop` calls `connection.close()`. -/
theorem Traced.closeConnection
    {id : Nat}
    (traced : Traced shared calls)
    (noAttempt : ∀ answer, Call.connecting answer ∉ calls)
    (free : call.Free)
    (connection : shared.service.connection = some id)
    (replaces :
      TaskMachine.Replaces calls call
        (.closingConnection id (shared.closeConnection id).2) calls')
    (added :
      .closingConnection id (shared.closeConnection id).2 ∈ calls') :
    Accounted (shared.closeConnection id).1 calls' := by
  rcases shared.closeConnection_cases id with
    ⟨usable, closed⟩ | ⟨unusable, closed⟩
  · rw [closed] at replaces added ⊢
    exact traced.closesUsable noAttempt free connection replaces added
  · rw [closed] at replaces added ⊢
    exact traced.closesUnusable noAttempt free connection unusable replaces
      added

/-- The last part of `stop`. -/
theorem Traced.stopConnection
    (traced : Traced shared calls)
    (disconnected :
      ∀ answer, .connecting answer ∈ calls →
        shared.service.connection = none)
    (free : call.Free)
    (replaces :
      TaskMachine.Replaces calls call shared.stopConnection.2 calls')
    (added : shared.stopConnection.2 ∈ calls') :
    Accounted shared.stopConnection.1 calls' := by
  cases connection : shared.service.connection with
  | none =>
      simp only [Shared.stopConnection, connection] at replaces added ⊢
      refine traced.disconnect free replaces fun id _ same => ?_
      rw [connection] at same
      cases same
  | some id =>
      simp only [Shared.stopConnection, connection] at replaces added ⊢
      refine traced.closeConnection ?_ free connection replaces added
      intro answer member
      have none := disconnected answer member
      rw [connection] at none
      cases none

/-- `stop` waits for the channel before it looks at the connection. -/
theorem Traced.waits
    (traced : Traced shared calls)
    (free : call.Free)
    (replaces : TaskMachine.Replaces calls call next calls')
    (added : next ∈ calls')
    (willClose : next.WillClose)
    (isOpen : ∀ id, (after.links id).isOpen = (shared.links id).isOpen)
    (closing : ∀ id, (after.links id).closing = (shared.links id).closing)
    (connection : after.service.connection = shared.service.connection) :
    Accounted after calls' := by
  have stops : next.Stops := by
    cases next <;> first | exact willClose.elim | trivial
  have held :
      ∀ id, (after.links id).isOpen = true → Held after calls' id := by
    intro id stillOpen
    rw [isOpen id] at stillOpen
    rcases (traced.known id stillOpen).of_free free replaces with
      same | held
    · exact .inr (.inl ⟨connection.trans same,
        .inr ⟨next, added, willClose⟩⟩)
    · exact held _
  refine
    { known := fun id stillOpen => (held id stillOpen).known
      closing := ?_, declared := ?_, target := ?_, held := held
      running := fun _ _ => ⟨next, added, stops⟩ }
  · intro id stillOpen stillClosing
    exact traced.closes_of_free free replaces
      (isOpen id ▸ stillOpen) (closing id ▸ stillClosing)
  · intro id operation answer member stillOpen
    rw [connection]
    exact traced.declared_of_free free replaces stops.not_inProgress member
      (isOpen id ▸ stillOpen)
  · intro id answer member
    rw [connection, isOpen id, closing id]
    rcases replaces.origin _ member with old | rfl
    · obtain ⟨noAttempt, target⟩ := traced.target id answer old
      exact ⟨fun _ => not_mem_connecting noAttempt replaces
        stops.not_inProgress, target⟩
    · exact willClose.elim

/-- `stop` from its second `if` on. -/
theorem Traced.stopChannel
    (traced : Traced shared calls)
    (disconnected :
      ∀ answer, .connecting answer ∈ calls →
        shared.service.connection = none)
    (free : call.Free)
    (replaces :
      TaskMachine.Replaces calls call shared.stopChannel.2 calls')
    (added : shared.stopChannel.2 ∈ calls') :
    Accounted shared.stopChannel.1 calls' := by
  cases channel : shared.service.channel with
  | none =>
      simp only [Shared.stopChannel, channel] at replaces added ⊢
      exact traced.stopConnection disconnected free replaces added
  | some id =>
      simp only [Shared.stopChannel, channel] at replaces added ⊢
      have closing :
          ∀ other,
            ((shared.closeChannel id).1.links other).closing =
              (shared.links other).closing := by
        intro other
        unfold Shared.closeChannel
        split
        · have keeps :
              ∀ link : Link, link.closeChannel.closing = link.closing :=
            fun _ => rfl
          exact Shared.modify_keeps Link.closing keeps other
        · rfl
      refine traced.waits free replaces added trivial
        (Shared.linkFrame_closeChannel shared id).isOpen closing ?_
      rw [Shared.service_closeChannel]

/-- `stop` up to its first await. -/
theorem Accounted.stop
    (holds : Accounted shared calls)
    (disconnected :
      ∀ answer, .connecting answer ∈ calls →
        shared.service.connection = none) :
    Accounted shared.stop.1 (calls ++ [shared.stop.2]) := by
  have traced : Traced shared.halt calls :=
    ⟨holds.known, holds.closing, holds.declared, holds.target⟩
  have free : Call.finished.Free := fun _ => ⟨id, id⟩
  have replaces :
      TaskMachine.Replaces calls .finished shared.stop.2
        (calls ++ [shared.stop.2]) :=
    .append calls _ _
  have added : shared.stop.2 ∈ calls ++ [shared.stop.2] :=
    List.mem_append_right _ (List.mem_singleton_self _)
  revert replaces added
  generalize calls ++ [shared.stop.2] = calls'
  unfold Shared.stop
  split
  · intro replaces added
    exact traced.waits free replaces added trivial
      (fun _ => rfl) (fun _ => rfl) rfl
  · exact fun replaces added =>
      traced.stopChannel disconnected free replaces added

/-! ### Every step of a call -/

/-- A settled promise, unless it is that of `connect`. -/
theorem Settle.quiet
    {fulfilled : Bool}
    (settles : Settle shared fulfilled call after next)
    (amqp : call.Settles shared.links fulfilled)
    (declares : ∀ answer, call ≠ .connecting answer) :
    Quiet shared after call next where
  isOpen := (settles.frame amqp declares).isOpen
  closing := by
    cases settles with
    | connected => exact (declares _ rfl).elim
    | answered id operation =>
        have keeps :
            ∀ link, (operation.answer link).closing = link.closing := by
          intro link
          cases operation <;> rfl
        exact Shared.modify_keeps Link.closing keeps
    | cancelled id =>
        have keeps : ∀ link : Link, link.unsubscribe.closing = link.closing :=
          fun _ => rfl
        cases fulfilled
        · exact fun _ => rfl
        · exact Shared.modify_keeps Link.closing keeps
    | channelClosed id =>
        have keeps : ∀ link : Link, link.dropChannel.closing = link.closing :=
          fun _ => rfl
        cases fulfilled
        · exact fun _ => rfl
        · exact Shared.modify_keeps Link.closing keeps
    | _ => exact fun _ => rfl
  connection := by rw [settles.service]
  stopping := by rw [settles.service]
  willClose := by
    cases settles <;> exact fun willClose => willClose
  closes id isOpen closes := by
    cases settles with
    | released link =>
        rw [← show link = id from closes,
          show (shared.links link).isOpen = false from amqp] at isOpen
        cases isOpen
    | closed link =>
        rw [← show link = id from closes,
          show (shared.links link).isOpen = false from amqp] at isOpen
        cases isOpen
    | _ => exact closes.elim
  notConnecting := by
    rintro answer rfl
    cases settles <;> exact declares _ rfl
  declares := by
    rintro id operation answer rfl
    cases settles <;> exact ⟨_, _, rfl⟩
  target := by
    rintro id answer rfl
    cases settles
    exact ⟨_, rfl⟩

/-- An attempt that is answered stays on its connection. -/
theorem Settle.attempts
    {fulfilled : Bool}
    {id : Nat}
    (settles : Settle shared fulfilled call after next)
    (attempts : call.Attempts id) :
    next.Attempts id := by
  cases settles <;> first | exact attempts.elim | exact attempts

/-- The library opens a connection. -/
theorem Accounted.connect
    {world : World}
    (holds : Accounted world.shared world.tasks)
    (exclusive : Exclusive world)
    (member : .connecting .pending ∈ world.tasks)
    (replaces :
      TaskMachine.Replaces world.tasks (.connecting .pending)
        (.connecting (.fulfilled world.shared.opened)) calls')
    (added : .connecting (.fulfilled world.shared.opened) ∈ calls') :
    Accounted world.shared.connect calls' := by
  have owns := exclusive.attempts.local_ _ member trivial
  have isNew :
      ∀ id, (world.shared.connect.links id).isOpen = true →
        id = world.shared.opened := by
    intro id isOpen
    exact (Option.some.inj ((owns.connected
      exclusive.attempts.global).2.own id isOpen)).symm
  have held :
      ∀ id, (world.shared.connect.links id).isOpen = true →
        Held world.shared.connect calls' id :=
    fun id isOpen => .inl ⟨_, added, (isNew id isOpen).symm⟩
  refine
    { known := fun id isOpen => (held id isOpen).known
      closing := ?_, declared := ?_, target := ?_, held := held
      running := fun running => ?_ }
  · intro id isOpen closing
    rw [isNew id isOpen, Shared.links_connect_self] at closing
    cases closing
  · intro id operation answer declares
    rcases replaces.origin _ declares with old | same
    · cases exclusive.attempts.atMostOne.eq_of_mem old member
        trivial trivial
    · cases same
  · intro id answer stops
    rcases replaces.origin _ stops with old | same
    · exact ((holds.target id answer old).1 _ member).elim
    · cases same
  · change world.shared.service.isRunning = true at running
    rw [owns.notRunning] at running
    cases running

/-- The library answers a call. -/
theorem Accounted.settle
    {world : World}
    {fulfilled : Bool}
    (holds : Accounted world.shared world.tasks)
    (exclusive : Exclusive world)
    (settles : Settle world.shared fulfilled call after next)
    (amqp : call.Settles world.shared.links fulfilled)
    (member : call ∈ world.tasks)
    (replaces : TaskMachine.Replaces world.tasks call next calls')
    (added : next ∈ calls') :
    Accounted after calls' := by
  have running :
      after.service.isRunning = true → after.service.stopping = true →
        ∃ other ∈ calls', other.Stops := by
    rw [settles.service]
    exact fun running stopping =>
      replaces.exists_mem settles.stops (holds.running running stopping)
  by_cases declares : ∀ answer, call ≠ .connecting answer
  · have quiet := settles.quiet amqp declares
    refine holds.quiet quiet member replaces (fun id isOpen => ?_) running
    exact (holds.held id (quiet.isOpen id ▸ isOpen)).quiet
      quiet replaces isOpen settles.attempts
  · simp only [not_forall, not_not] at declares
    obtain ⟨answer, rfl⟩ := declares
    cases settles with
    | connected => exact holds.connect exclusive member replaces added
    | refused =>
        have owns := exclusive.attempts.local_ _ member trivial
        refine .of_closed (owns.closed rfl) running fun id answer stops => ?_
        rcases replaces.origin _ stops with old | same
        · exact ((holds.target id answer old).1 _ member).elim
        · cases same

/-- `start` goes on with its connection. -/
theorem Accounted.attach
    {world : World}
    {id : Nat}
    (holds : Accounted world.shared world.tasks)
    (exclusive : Exclusive world)
    (member : .connecting (.fulfilled id) ∈ world.tasks)
    (replaces :
      TaskMachine.Replaces world.tasks (.connecting (.fulfilled id))
        ((world.shared.attach id).call id .createChannel) calls')
    (added :
      (world.shared.attach id).call id .createChannel ∈ calls') :
    Accounted (world.shared.attach id) calls' := by
  have owns := exclusive.attempts.local_ _ member trivial
  have links := Shared.linkFrame_attach world.shared id
  have isOwn :
      ∀ other, ((world.shared.attach id).links other).isOpen = true →
        id = other :=
    fun other isOpen => Option.some.inj
      (owns.own other (links.isOpen other ▸ isOpen))
  have held :
      ∀ other, ((world.shared.attach id).links other).isOpen = true →
        Held (world.shared.attach id) calls' other :=
    fun other isOpen => .inl ⟨_, added, isOwn other isOpen⟩
  have keeps : ∀ link : Link, link.listen.closing = link.closing :=
    fun _ => rfl
  have closing :
      ∀ other,
        ((world.shared.attach id).links other).closing =
          (world.shared.links other).closing :=
    fun other => Shared.modify_keeps Link.closing keeps other
  refine
    { known := fun other isOpen => (held other isOpen).known
      closing := ?_, declared := ?_, target := ?_, held := held
      running := fun running => ?_ }
  · intro other isOpen stillClosing
    exact replaces.exists_mem (fun closes => closes.elim)
      (holds.closing other (links.isOpen other ▸ isOpen)
        (closing other ▸ stillClosing))
  · intro other operation answer _ isOpen
    exact .inl (congrArg some (isOwn other isOpen))
  · intro other answer stops
    rcases replaces.origin _ stops with old | same
    · exact ((holds.target other answer old).1 _ member).elim
    · cases same
  · change world.shared.service.isRunning = true at running
    rw [owns.notRunning] at running
    cases running

/-- The `catch` of `start` closes the connection of the attempt. -/
theorem Accounted.release
    {id : Nat}
    {operation : Operation}
    {answer : Promise Unit}
    (holds : Accounted shared calls)
    (owns : Owns shared (.declaring id operation answer))
    (replaces :
      TaskMachine.Replaces calls (.declaring id operation answer)
        (shared.release id).2 calls')
    (added : (shared.release id).2 ∈ calls') :
    Accounted (shared.release id).1 calls' := by
  have isOpen := (Shared.frame_release shared id).isOpen
  have closes :
      ∀ other, ((shared.release id).1.links other).isOpen = true →
        ∃ call ∈ calls', call.Closes other := by
    intro other stillOpen
    rw [isOpen other] at stillOpen
    have same : id = other := Option.some.inj (owns.own other stillOpen)
    subst other
    rcases Shared.closeConnection_cases shared.disconnect id with
      ⟨_, closed⟩ | ⟨unusable, _⟩
    · simp only [Shared.release, closed] at added
      exact ⟨_, added, rfl⟩
    · change (shared.links id).usable = false at unusable
      have closing : (shared.links id).closing = true := by
        simpa [Link.usable, stillOpen] using unusable
      exact replaces.exists_mem (fun closes => closes.elim)
        (holds.closing id stillOpen closing)
  have disconnected : (shared.release id).1.service.connection = none := by
    simp only [Shared.release, Shared.service_closeConnection]
    rfl
  refine
    { known := fun other stillOpen => .inr (.inr (closes other stillOpen))
      closing := fun other stillOpen _ => closes other stillOpen
      declared := fun other _ _ _ stillOpen =>
        .inr (closes other stillOpen)
      target := ?_
      held := fun other stillOpen => .inr (.inr (closes other stillOpen))
      running := fun running => ?_ }
  · intro other target stops
    rcases replaces.origin _ stops with old | same
    · refine ⟨fun connecting started => ?_, .inl disconnected⟩
      rcases replaces.origin _ started with old' | same
      · exact (holds.target other target old).1 connecting old'
      · cases same
    · cases same
  · have notRunning :=
      (Shared.frame_release shared id).notRunning owns.notRunning
    rw [notRunning] at running
    cases running

/-- The end of `start`, in time. -/
theorem Accounted.consume
    {id : Nat}
    (holds : Accounted shared calls)
    (owns : Owns shared (.declaring id .consume (.fulfilled ())))
    (inTime :
      shared.service.stopping = true → ∃ call ∈ calls, call.Stops)
    (member : .declaring id .consume (.fulfilled ()) ∈ calls)
    (replaces :
      TaskMachine.Replaces calls
        (.declaring id .consume (.fulfilled ())) .finished calls') :
    Accounted (shared.consume id) calls' := by
  have quiet :
      Quiet shared (shared.consume id)
        (.declaring id .consume (.fulfilled ())) .finished :=
    { isOpen := fun _ => rfl
      closing := fun _ => rfl
      connection := rfl
      stopping := rfl
      willClose := fun willClose => willClose
      closes := fun _ _ closes => closes
      notConnecting := fun _ => nofun
      declares := fun _ _ _ => nofun
      target := fun _ _ => nofun }
  refine holds.quiet quiet member replaces ?_ fun _ stopping =>
    replaces.exists_mem (fun stops => stops) (inTime stopping)
  intro other isOpen
  have same : id = other := Option.some.inj (owns.own other isOpen)
  subst other
  have closes
      (closing : ∃ call ∈ calls, call.Closes id) :
      Held (shared.consume id) calls' id :=
    .inr (.inr (replaces.exists_mem (fun closes => closes.elim) closing))
  rcases holds.declared id _ _ member isOpen with connection | closing
  · by_cases stopping : shared.service.stopping = true
    · obtain ⟨other, stopMember, stops⟩ := inTime stopping
      cases other with
      | closingConnection target answer =>
          rcases (holds.target target answer stopMember).2 with
            none | ⟨same, closing⟩
          · rw [connection] at none
            cases none
          · rw [connection] at same
            cases same
            exact closes (holds.closing id isOpen (closing isOpen))
      | cancelling link answer =>
          exact .inr (.inl ⟨connection, .inr (replaces.exists_mem
            (fun willClose => willClose) ⟨_, stopMember, trivial⟩)⟩)
      | closingChannel link answer =>
          exact .inr (.inl ⟨connection, .inr (replaces.exists_mem
            (fun willClose => willClose) ⟨_, stopMember, trivial⟩)⟩)
      | _ => exact stops.elim
    · exact .inr (.inl ⟨connection, .inl (eq_false_of_ne_true stopping)⟩)
  · exact closes closing

/-- A declaration that has been answered. -/
theorem Quiet.declared
    {id : Nat}
    {operation following : Operation} :
    Quiet shared (shared.declared id operation)
      (.declaring id operation (.fulfilled ()))
      ((shared.declared id operation).call id following) := by
  cases operation <;>
    exact
      { isOpen := fun _ => rfl
        closing := fun _ => rfl
        connection := rfl
        stopping := rfl
        willClose := fun willClose => willClose
        closes := fun _ _ closes => closes
        notConnecting := fun _ => nofun
        declares := by
          rintro _ _ _ ⟨⟩
          exact ⟨_, _, rfl⟩
        target := fun _ _ => nofun }

/-- The connection of an attempt that has failed is closed. -/
theorem Call.Free.of_released
    {id : Nat}
    {answer : Promise Unit}
    (done : Settled answer) :
    (Call.releasing id answer).Free := by
  refine fun _ => ⟨fun attempts => attempts, fun closes => ?_⟩
  cases answer with
  | pending => exact done rfl
  | _ => exact closes.elim

/-- A failed attempt has ended. -/
theorem Quiet.released
    {id : Nat}
    {answer : Promise Unit}
    (done : Settled answer) :
    Quiet shared (shared.scheduleReconnect options random)
      (.releasing id answer) .finished where
  isOpen _ := rfl
  closing _ := rfl
  connection := connection_scheduleReconnect ..
  stopping := stopping_scheduleReconnect ..
  willClose willClose := willClose
  closes other _ closes :=
    ((Call.Free.of_released done other).2 closes).elim
  notConnecting _ := nofun
  declares _ _ _ := nofun
  target _ _ := nofun

/-- A call goes on. -/
theorem Accounted.resume
    {world : World}
    (holds : Accounted world.shared world.tasks)
    (exclusive : Exclusive world)
    (resumes : Resume options random world.shared call after next)
    (inTime : call.InTime world.shared world.tasks)
    (member : call ∈ world.tasks)
    (replaces : TaskMachine.Replaces world.tasks call next calls')
    (added : next ∈ calls') :
    Accounted after calls' := by
  have owns := exclusive.attempts.local_ call member
  have disconnected :
      ∀ answer, .connecting answer ∈ world.tasks →
        world.shared.service.connection = none :=
    fun _ => exclusive.disconnected
  cases resumes with
  | connected id => exact holds.attach exclusive member replaces added
  | refused =>
      have idle :
          (world.shared.disconnect.scheduleReconnect
            options random).service.isRunning = false :=
        isRunning_scheduleReconnect ..
      refine .of_closed ((owns trivial).closed rfl) ?_ ?_
      · intro running
        rw [idle] at running
        cases running
      · intro id answer stops
        rcases replaces.origin _ stops with old | same
        · exact ((holds.target id answer old).1 _ member).elim
        · cases same
  | @declared id operation next follows =>
      have quiet := @Quiet.declared world.shared id operation next
      refine holds.quiet quiet member replaces (fun other isOpen => ?_) ?_
      · exact (holds.held other (quiet.isOpen other ▸ isOpen)).quiet
          quiet replaces isOpen fun attempts => attempts
      · intro running stopping
        refine replaces.exists_mem (fun stops => stops) ?_
        cases operation <;> exact holds.running running stopping
  | consumes id =>
      exact holds.consume (owns trivial) inTime member replaces
  | failed id operation => exact holds.release (owns trivial) replaces added
  | @released id answer done =>
      have quiet :=
        @Quiet.released options random world.shared id answer done
      have idle :
          (world.shared.scheduleReconnect options random).service.isRunning =
            false :=
        (isRunning_scheduleReconnect ..).trans (owns trivial).notRunning
      refine holds.quiet quiet member replaces (fun other isOpen => ?_) ?_
      · exact (holds.held other isOpen).quiet quiet replaces isOpen
          fun attempts => attempts
      · intro running
        rw [idle] at running
        cases running
  | @cancelled id answer done =>
      have free : (Call.cancelling id answer).Free :=
        fun _ => ⟨fun attempts => attempts, fun closes => closes⟩
      exact holds.stopChannel disconnected free replaces added
  | @channelClosed id answer done =>
      have free : (Call.closingChannel id answer).Free :=
        fun _ => ⟨fun attempts => attempts, fun closes => closes⟩
      exact holds.stopConnection disconnected free replaces added
  | @closed id answer done =>
      have free : (Call.closingConnection id answer).Free := by
        refine fun _ => ⟨fun attempts => attempts, fun closes => ?_⟩
        cases answer with
        | pending => exact done rfl
        | _ => exact closes.elim
      refine holds.disconnect free replaces fun other isOpen same => ?_
      rcases (holds.target id answer member).2 with
        gone | ⟨target, closing⟩
      · rw [gone] at same
        cases same
      · rw [target] at same
        cases same
        exact holds.closes_of_free free replaces isOpen (closing isOpen)

/-- The channel or the consumer of a connection goes away. -/
theorem Accounted.modify
    {id : Nat}
    {change : Link → Link}
    (holds : Accounted shared calls)
    (isOpen : ∀ link, (change link).isOpen = link.isOpen)
    (closing : ∀ link, (change link).closing = link.closing) :
    Accounted (shared.modify id change) calls := by
  have sameOpen :
      ∀ other,
        ((shared.modify id change).links other).isOpen =
          (shared.links other).isOpen :=
    Shared.modify_keeps Link.isOpen isOpen
  have sameClosing :
      ∀ other,
        ((shared.modify id change).links other).closing =
          (shared.links other).closing :=
    Shared.modify_keeps Link.closing closing
  exact
    { known := fun other stillOpen =>
        holds.known other (sameOpen other ▸ stillOpen)
      closing := fun other stillOpen stillClosing =>
        holds.closing other (sameOpen other ▸ stillOpen)
          (sameClosing other ▸ stillClosing)
      declared := fun other _ _ member stillOpen =>
        holds.declared other _ _ member (sameOpen other ▸ stillOpen)
      target := fun other answer member => by
        rw [sameOpen other, sameClosing other]
        exact holds.target other answer member
      held := fun other stillOpen =>
        holds.held other (sameOpen other ▸ stillOpen)
      running := holds.running }

/-- An event outside the calls. -/
theorem Accounted.env
    {world : World}
    {event : Env}
    (holds : Accounted world.shared world.tasks)
    (exclusive : Exclusive world)
    (amqp : Amqp world (.env event))
    (moved :
      EventConsumerService.env options world.shared world.tasks event =
        some (after, calls')) :
    Accounted after calls' := by
  have tidy := exclusive.attempts.global
  cases event with
  | timerFires =>
      simp only [EventConsumerService.env] at moved
      split at moved
      · rename_i pending
        have waits := tidy.waiting (Option.isSome_iff_ne_none.mp pending)
        rw [waits.timerFires] at moved
        cases moved
        refine .of_closed waits.closed ?_ ?_
        · intro running
          rw [waits.notRunning] at running
          cases running
        · intro id answer stops
          rcases List.mem_append.mp stops with old | new
          · have stopping := exclusive.stops _ old trivial
            rw [waits.notStopping] at stopping
            cases stopping
          · cases List.mem_singleton.mp new
      · cases moved
  | stop =>
      cases moved
      exact holds.stop fun _ => exclusive.disconnected
  | connectionClosed id random =>
      cases moved
      have closed := tidy.closed_of_closes options random amqp
      refine .of_closed closed ?_ ?_
      · intro running stopping
        rw [stopping_closes] at stopping
        refine holds.running ?_ stopping
        rcases closes_cases options random world.shared id with
          ⟨_, running, _⟩ | ⟨_, _, same⟩ | ⟨_, same⟩
        · exact running
        · rw [same] at running
          cases running
        · rw [same] at running
          exact running
      · intro other answer member
        obtain ⟨noAttempt, target⟩ := holds.target other answer member
        refine ⟨noAttempt, ?_⟩
        rcases connection_closes options random world.shared id with
          same | gone
        · rw [same]
          exact target.imp_right And.left
        · exact .inl gone
  | channelClosed id =>
      cases moved
      exact holds.modify (fun _ => rfl) fun _ => rfl
  | consumerCancelled id =>
      cases moved
      exact holds.modify (fun _ => rfl) fun _ => rfl

end Steps

end Replication.EventConsumerService
