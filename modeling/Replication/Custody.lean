import Replication.DedupWindow
import Replication.Run
import Mathlib

namespace Replication.Custody

open DedupWindow EventConsumer SlidingWindow

/-!
# Messages between the broker and the consumer

The queue, its deliveries on the channels of the consumer, and the consumer that
acks and nacks them.  Of the broker it is assumed that it delivers what is ready,
in any order and to any channel, and keeps a delivery until it is settled.  A
channel may be lost at any time: the broker takes back what has not been settled
on it, while the consumer may still handle what had reached it and finds nobody
to ack to.  A restart of the consumer, and `POST /reset`, begin a new life of it
with an empty store.

A message is acked only if its event has been processed in one of these lives,
and dead-lettered only if it cannot be read; until then the broker keeps it.
-/

/-- A message in the queue, as the consumer is given it. -/
structure Copy where
  content : Text
  messageId : Option Text
  deriving DecidableEq, Repr

/-- How far a delivery has come. -/
inductive Progress where
  | delivered
  /-- `handleMessage` has returned; this is on its way, unless it has thrown. -/
  | handled (settlement : Option Settlement)
  deriving DecidableEq, Repr

/-- A delivery that the broker has not seen settled. -/
structure Held where
  channel : Nat
  copy : Copy
  progress : Progress
  deriving DecidableEq, Repr

/-- The broker with its queue, and the consumer. -/
structure World where
  ready : List Copy
  held : List Held
  acked : List Copy
  /-- Nacked, and passed on by the dead-letter exchange. -/
  deadLettered : List Copy
  /-- Deliveries on lost channels that have reached the consumer. -/
  stale : List Copy
  service : Service
  /-- What the consumer has handled in earlier lives. -/
  past : List (List Handled)
  /-- Every message ever placed in the queue, kept for the statements. -/
  published : List Copy
  deriving Repr

/-- What the broker and the consumer do. -/
inductive Event where
  | publish (copy : Copy)
  | deliver (copy channel : Nat)
  | handle (held : Nat) (now : Int)
  /-- The ack or nack reaches the broker. -/
  | settle (held : Nat)
  | lose (channel : Nat)
  | handleStale (copy : Nat) (now : Int)
  | restart
  | reset
  deriving Repr

/-- The delivery of a copy at an instant. -/
def Copy.at (copy : Copy) (now : Int) : Delivery where
  content := copy.content
  messageId := copy.messageId
  now := now

/-- What the consumer has made of its last delivery. -/
def answer (service : Service) : Option Settlement :=
  service.log.getLast?.bind Handled.settlement

/-- The delivery has reached the consumer and has not been handled. -/
def Held.isStale (held : Held) : Bool :=
  held.progress = .delivered

/-- The consumer begins a new life with this store. -/
def World.begin (world : World) (consumer : EventConsumer) : World :=
  { world with
    service := ⟨consumer, []⟩
    past := world.past ++ [world.service.log] }

/-- One step. -/
def step
    (parse : String → Option Json)
    (capacity : Nat)
    (world : World) : Event → Option World
  | .publish copy =>
      some
        { world with
          ready := world.ready ++ [copy]
          published := world.published ++ [copy] }
  | .deliver index channel =>
      world.ready[index]?.map fun copy =>
        { world with
          ready := world.ready.eraseIdx index
          held := world.held ++ [⟨channel, copy, .delivered⟩] }
  | .handle index now =>
      match world.held[index]? with
      | some ⟨channel, copy, .delivered⟩ =>
          let service := handle parse world.service (copy.at now)
          some
            { world with
              service
              held :=
                world.held.set index
                  ⟨channel, copy, .handled (answer service)⟩ }
      | _ => none
  | .settle index =>
      match world.held[index]? with
      | some ⟨_, copy, .handled (some .ack)⟩ =>
          some
            { world with
              held := world.held.eraseIdx index
              acked := world.acked ++ [copy] }
      | some ⟨_, copy, .handled (some .nack)⟩ =>
          some
            { world with
              held := world.held.eraseIdx index
              deadLettered := world.deadLettered ++ [copy] }
      | _ => none
  | .lose channel =>
      let lost := world.held.filter (·.channel = channel)
      some
        { world with
          ready := lost.map Held.copy ++ world.ready
          held := world.held.filter (¬ ·.channel = channel)
          stale := world.stale ++ (lost.filter Held.isStale).map Held.copy }
  | .handleStale index now =>
      world.stale[index]?.map fun copy =>
        { world with
          service := handle parse world.service (copy.at now)
          stale := world.stale.eraseIdx index }
  | .restart =>
      some
        { world.begin (.create capacity) with
          ready := world.held.map Held.copy ++ world.ready
          held := []
          stale := [] }
  | .reset => some (world.begin world.service.consumer.resetMetrics)

/-- An empty queue, and a consumer that has just been constructed. -/
def initial (capacity : Nat) : World where
  ready := []
  held := []
  acked := []
  deadLettered := []
  stale := []
  service := ⟨.create capacity, []⟩
  past := []
  published := []

/-- What the consumer has handled in each of its lives. -/
def World.lives (world : World) : List (List Handled) :=
  world.past ++ [world.service.log]

/-- Where the broker keeps the messages. -/
def World.copies (world : World) : List Copy :=
  world.ready ++ world.held.map Held.copy ++
    (world.acked ++ world.deadLettered)

/-- The key under which the event of a copy is processed. -/
def Copy.key (parse : String → Option Json) (copy : Copy) : Option Text :=
  (readEvent parse copy.content).bind (keyOf copy.messageId)

/-- The event of the copy has been processed in one of these lives. -/
def Executed
    (parse : String → Option Json)
    (lives : List (List Handled))
    (copy : Copy) : Prop :=
  ∃ key, copy.key parse = some key ∧
    ∃ log ∈ lives, key ∈ acceptedKeys log

/-- What must have happened for the consumer to tell the broker that. -/
def Warrants
    (parse : String → Option Json)
    (lives : List (List Handled))
    (copy : Copy) : Settlement → Prop
  | .ack => Executed parse lives copy
  | .nack => readEvent parse copy.content = none

/-! ### What one delivery does to the consumer -/

/-- The store is the window of this life, and nothing was accepted in it. -/
structure Remembers (capacity : Nat) (service : Service) : Prop where
  bound : service.consumer.deduplicationStore.maxCapacity = capacity
  store :
    service.consumer.deduplicationStore.cache =
      window capacity (acceptedKeys service.log)
  spaced : Spaced capacity (acceptedKeys service.log)

/-- The keys accepted in a life are those of published copies. -/
def Genuine
    (parse : String → Option Json)
    (published : List Copy)
    (log : List Handled) : Prop :=
  acceptedKeys log ⊆ published.filterMap (Copy.key parse)

/-- What handling a delivery of that copy does to the consumer. -/
structure Handles
    (parse : String → Option Json)
    (capacity : Nat)
    (copy : Copy)
    (before after : Service) : Prop where
  remembers : Remembers capacity after
  keeps : acceptedKeys before.log ⊆ acceptedKeys after.log
  genuine :
    ∀ key ∈ acceptedKeys after.log,
      key ∈ acceptedKeys before.log ∨ copy.key parse = some key
  warranted :
    ∀ settlement ∈ answer after,
      Warrants parse [after.log] copy settlement

section Service

variable
  {parse : String → Option Json}
  {capacity : Nat}
  {service : Service}
  {copy : Copy}

/-- A new life remembers nothing. -/
theorem Remembers.of_empty
    {consumer : EventConsumer}
    (bound : consumer.deduplicationStore.maxCapacity = capacity)
    (empty : consumer.deduplicationStore.cache = []) :
    Remembers capacity ⟨consumer, []⟩ where
  bound := bound
  store := empty.trans (List.drop_nil).symm
  spaced := .nil capacity

/-- A delivery that accepts no key. -/
theorem Handles.frame
    {consumer : EventConsumer}
    {entry : Handled}
    (remembers : Remembers capacity service)
    (same :
      consumer.deduplicationStore = service.consumer.deduplicationStore)
    (unaccepted : entry.acceptedKey = none)
    (warranted :
      ∀ settlement ∈ entry.settlement,
        Warrants parse [service.log] copy settlement) :
    Handles parse capacity copy service
      ⟨consumer, service.log ++ [entry]⟩ := by
  have keys :
      acceptedKeys (service.log ++ [entry]) = acceptedKeys service.log := by
    rw [acceptedKeys_append, unaccepted, Option.toList_none, List.append_nil]
  have answered :
      answer ⟨consumer, service.log ++ [entry]⟩ = entry.settlement := by
    simp [answer]
  refine ⟨⟨same ▸ remembers.bound, ?_, ?_⟩, ?_, ?_, ?_⟩
  · exact (congrArg DeduplicationStore.cache same).trans
      (remembers.store.trans (congrArg (window capacity) keys.symm))
  · exact keys ▸ remembers.spaced
  · exact keys ▸ List.Subset.refl _
  · exact fun key member => .inl (keys ▸ member)
  · rw [answered]
    intro settlement member
    have holds := warranted settlement member
    cases settlement with
    | nack => exact holds
    | ack =>
        obtain ⟨key, isCopy, log, isLog, accepted⟩ := holds
        obtain rfl := List.mem_singleton.mp isLog
        exact ⟨key, isCopy, _, List.mem_singleton_self _, keys ▸ accepted⟩

/-- A delivery that accepts the key of its copy. -/
theorem Handles.accept
    {delivery : Delivery}
    {event : Json}
    {metrics : ConsumerMetrics}
    {key : Text}
    (remembers : Remembers capacity service)
    (isKey : keyOf delivery.messageId event = some key)
    (isCopy : copy.key parse = some key)
    (new : key ∉ service.consumer.deduplicationStore.cache) :
    Handles parse capacity copy service
      ⟨⟨service.consumer.deduplicationStore.record key, metrics⟩,
        service.log ++ [⟨delivery, some .ack, some event⟩]⟩ := by
  have isAccepted :
      Handled.acceptedKey ⟨delivery, some .ack, some event⟩ = some key :=
    isKey
  have keys :
      acceptedKeys (service.log ++ [⟨delivery, some .ack, some event⟩]) =
        acceptedKeys service.log ++ [key] := by
    rw [acceptedKeys_append, isAccepted, Option.toList_some]
  refine ⟨⟨?_, ?_, ?_⟩, ?_, ?_, ?_⟩
  · exact (DeduplicationStore.maxCapacity_record _ _).trans remembers.bound
  · exact (cache_record remembers.bound remembers.store new).trans
      (congrArg (window capacity) keys.symm)
  · exact keys ▸ remembers.spaced.append (remembers.store ▸ new)
  · exact keys ▸ List.subset_append_left _ _
  · intro other member
    rcases List.mem_append.mp (keys ▸ member) with old | isNew
    · exact .inl old
    · obtain rfl := List.mem_singleton.mp isNew
      exact .inr isCopy
  · intro settlement member
    have answered :
        answer
            ⟨⟨service.consumer.deduplicationStore.record key, metrics⟩,
              service.log ++ [⟨delivery, some .ack, some event⟩]⟩ =
          some .ack := by
      simp [answer]
    obtain rfl := Option.some.inj (answered.symm.trans member)
    refine ⟨key, isCopy, _, List.mem_singleton_self _, ?_⟩
    exact keys ▸ List.mem_append_right _ (List.mem_singleton_self _)

/-- Every delivery is handled so. -/
theorem Remembers.handle
    (remembers : Remembers capacity service)
    (copy : Copy)
    (now : Int) :
    Handles parse capacity copy service
      (handle parse service (copy.at now)) := by
  obtain ⟨after, settlement, processed, spec, handled⟩ :=
    handle_spec parse service (copy.at now)
  rw [handled]
  cases spec with
  | deadLettered unread =>
      refine Handles.frame remembers rfl rfl ?_
      rintro _ ⟨⟩
      exact unread
  | threw event read noKey =>
      refine Handles.frame remembers rfl rfl ?_
      exact fun _ member => absurd member (Option.not_mem_none _)
  | duplicate event key read isKey known =>
      refine Handles.frame remembers rfl rfl ?_
      rintro _ ⟨⟩
      refine ⟨key, ?_, _, List.mem_singleton_self _, ?_⟩
      · exact Option.bind_eq_some_iff.mpr ⟨event, read, isKey⟩
      · exact (window_suffix _ _).subset (remembers.store ▸ known)
  | unique event key read isKey new =>
      refine Handles.accept remembers isKey ?_ new
      exact Option.bind_eq_some_iff.mpr ⟨event, read, isKey⟩

end Service

/-! ### What every step keeps -/

/-- Nothing that was processed in these lives is missing in those. -/
def Grows (lives later : List (List Handled)) : Prop :=
  ∀ log ∈ lives, ∃ grown ∈ later, acceptedKeys log ⊆ acceptedKeys grown

section Lives

variable
  {parse : String → Option Json}
  {lives later : List (List Handled)}
  {copy : Copy}

/-- What has been processed stays processed. -/
theorem Executed.mono
    (executed : Executed parse lives copy)
    (grows : Grows lives later) :
    Executed parse later copy := by
  obtain ⟨key, isCopy, log, isLog, accepted⟩ := executed
  obtain ⟨grown, isGrown, within⟩ := grows log isLog
  exact ⟨key, isCopy, grown, isGrown, within accepted⟩

/-- So a settlement that is on its way stays warranted. -/
theorem Warrants.mono
    {settlement : Settlement}
    (warranted : Warrants parse lives copy settlement)
    (grows : Grows lives later) :
    Warrants parse later copy settlement := by
  cases settlement with
  | ack => exact Executed.mono warranted grows
  | nack => exact warranted

/-- More lives. -/
theorem Grows.of_subset (subset : lives ⊆ later) : Grows lives later :=
  fun log isLog => ⟨log, subset isLog, List.Subset.refl _⟩

/-- The present life goes on. -/
theorem Grows.present
    {past : List (List Handled)}
    {log more : List Handled}
    (keeps : acceptedKeys log ⊆ acceptedKeys more) :
    Grows (past ++ [log]) (past ++ [more]) := by
  intro old member
  rcases List.mem_append.mp member with isPast | isPresent
  · exact ⟨old, List.mem_append_left _ isPast, List.Subset.refl _⟩
  · obtain rfl := List.mem_singleton.mp isPresent
    exact ⟨more, List.mem_append_right _ (List.mem_singleton_self _), keeps⟩

end Lives

/-- What holds of the queue and the consumer. -/
structure Kept
    (parse : String → Option Json)
    (capacity : Nat)
    (world : World) : Prop where
  conserved : world.copies.Perm world.published
  stale : world.stale ⊆ world.published
  remembers : Remembers capacity world.service
  spaced : ∀ log ∈ world.past, Spaced capacity (acceptedKeys log)
  genuine : ∀ log ∈ world.lives, Genuine parse world.published log
  held :
    ∀ held ∈ world.held, ∀ settlement,
      held.progress = .handled (some settlement) →
        Warrants parse world.lives held.copy settlement
  acked : ∀ copy ∈ world.acked, Executed parse world.lives copy
  deadLettered :
    ∀ copy ∈ world.deadLettered, readEvent parse copy.content = none

section Steps

variable
  {parse : String → Option Json}
  {capacity : Nat}
  {before after : World}
  {copy : Copy}

/-- Taking an entry out of a list. -/
theorem perm_eraseIdx
    {Entry : Type}
    {entries : List Entry}
    {entry : Entry}
    {index : Nat}
    (found : entries[index]? = some entry) :
    (entry :: entries.eraseIdx index).Perm entries := by
  obtain ⟨bound, rfl⟩ := List.getElem?_eq_some_iff.mp found
  exact List.getElem_cons_eraseIdx_perm bound

/-- A list in which an entry is replaced by one with the same image. -/
theorem map_set_of_same
    {Entry Image : Type}
    {image : Entry → Image}
    {entries : List Entry}
    {entry other : Entry}
    {index : Nat}
    (found : entries[index]? = some entry)
    (same : image other = image entry) :
    (entries.set index other).map image = entries.map image := by
  obtain ⟨bound, rfl⟩ := List.getElem?_eq_some_iff.mp found
  have mapped : index < (entries.map image).length := by simpa using bound
  have here : (entries.map image)[index] = image entries[index] :=
    List.getElem_map _
  rw [List.map_set, same, ← here, List.set_getElem_self]

/-- What the broker holds has been published. -/
theorem Kept.published_of_held
    {held : Held}
    (kept : Kept parse capacity before)
    (member : held ∈ before.held) :
    held.copy ∈ before.published := by
  apply kept.conserved.subset
  exact List.mem_append_left _
    (List.mem_append_right _ (List.mem_map_of_mem member))

/-- The present life accepts no more than its last delivery brings. -/
theorem Genuine.handle
    {service : Service}
    {published : List Copy}
    {more : Service}
    (genuine : Genuine parse published service.log)
    (handles : Handles parse capacity copy service more)
    (isPublished : copy ∈ published) :
    Genuine parse published more.log := by
  intro key member
  rcases handles.genuine key member with old | isCopy
  · exact genuine old
  · exact List.mem_filterMap.mpr ⟨copy, isPublished, isCopy⟩

/-- The consumer handles a delivery, and the broker still holds the message. -/
theorem Kept.handle
    {held : List Held}
    {stale : List Copy}
    {service : Service}
    (kept : Kept parse capacity before)
    (handles : Handles parse capacity copy before.service service)
    (isPublished : copy ∈ before.published)
    (sameCopies : held.map Held.copy = before.held.map Held.copy)
    (answered :
      ∀ entry ∈ held, entry ∈ before.held ∨
        entry.copy = copy ∧ entry.progress = .handled (answer service))
    (staleBefore : stale ⊆ before.stale) :
    Kept parse capacity { before with service, held, stale } := by
  have grows : Grows before.lives (before.past ++ [service.log]) :=
    .present handles.keeps
  refine ⟨?_, ?_, handles.remembers, kept.spaced, ?_, ?_, ?_,
    kept.deadLettered⟩
  · simp only [World.copies, sameCopies]
    exact kept.conserved
  · exact fun _ member => kept.stale (staleBefore member)
  · intro log member
    rcases List.mem_append.mp member with isPast | isPresent
    · exact kept.genuine log (List.mem_append_left _ isPast)
    · obtain rfl := List.mem_singleton.mp isPresent
      have present :
          Genuine parse before.published before.service.log :=
        kept.genuine _
          (List.mem_append_right _ (List.mem_singleton_self _))
      exact present.handle handles isPublished
  · intro entry member settlement isHandled
    rcases answered entry member with old | ⟨isCopy, isAnswer⟩
    · exact (kept.held entry old settlement isHandled).mono grows
    · have isSettlement : settlement ∈ answer service :=
        Progress.handled.inj (isAnswer.symm.trans isHandled)
      have warranted := handles.warranted settlement isSettlement
      rw [isCopy]
      refine warranted.mono (Grows.of_subset ?_)
      exact List.subset_append_right _ _
  · exact fun acked member => (kept.acked acked member).mono grows

/-- Messages change their place, and the consumer does nothing. -/
theorem Kept.move
    {ready acked deadLettered stale : List Copy}
    {held : List Held}
    (kept : Kept parse capacity before)
    (same :
      (ready ++ held.map Held.copy ++ (acked ++ deadLettered)).Perm
        before.copies)
    (reached : stale ⊆ before.published)
    (onItsWay :
      ∀ entry ∈ held, entry ∈ before.held ∨ entry.progress = .delivered)
    (executed :
      ∀ copy ∈ acked,
        copy ∈ before.acked ∨ Executed parse before.lives copy)
    (unread :
      ∀ copy ∈ deadLettered,
        copy ∈ before.deadLettered ∨
          readEvent parse copy.content = none) :
    Kept parse capacity
      { before with ready, held, acked, deadLettered, stale } := by
  refine ⟨same.trans kept.conserved, reached, kept.remembers, kept.spaced,
    kept.genuine, ?_, ?_, ?_⟩
  · intro entry member settlement isHandled
    rcases onItsWay entry member with old | delivered
    · exact kept.held entry old settlement isHandled
    · exact Progress.noConfusion (delivered.symm.trans isHandled)
  · exact fun copy member => (executed copy member).elim
      (kept.acked copy) id
  · exact fun copy member => (unread copy member).elim
      (kept.deadLettered copy) id

/-- The consumer begins a new life. -/
theorem Kept.begin
    {consumer : EventConsumer}
    (kept : Kept parse capacity before)
    (bound : consumer.deduplicationStore.maxCapacity = capacity)
    (empty : consumer.deduplicationStore.cache = []) :
    Kept parse capacity (before.begin consumer) := by
  have grows : Grows before.lives (before.begin consumer).lives :=
    .of_subset (List.subset_append_left _ _)
  refine ⟨kept.conserved, kept.stale, .of_empty bound empty, ?_, ?_, ?_, ?_,
    kept.deadLettered⟩
  · intro log member
    rcases List.mem_append.mp member with isPast | isPresent
    · exact kept.spaced log isPast
    · obtain rfl := List.mem_singleton.mp isPresent
      exact kept.remembers.spaced
  · intro log member
    rcases List.mem_append.mp member with old | isNew
    · exact kept.genuine log old
    · obtain rfl := List.mem_singleton.mp isNew
      exact List.nil_subset _
  · exact fun entry member settlement isHandled =>
      (kept.held entry member settlement isHandled).mono grows
  · exact fun copy member => (kept.acked copy member).mono grows

/-- One more message in the queue. -/
theorem Kept.publish
    (kept : Kept parse capacity before)
    (copy : Copy) :
    Kept parse capacity
      { before with
        ready := before.ready ++ [copy]
        published := before.published ++ [copy] } := by
  refine ⟨?_, ?_, kept.remembers, kept.spaced, ?_, kept.held, kept.acked,
    kept.deadLettered⟩
  · have conserved := kept.conserved
    rw [List.perm_iff_count] at conserved ⊢
    intro other
    have same := conserved other
    simp only [World.copies, List.count_append] at same ⊢
    omega
  · exact fun _ member => List.mem_append_left _ (kept.stale member)
  · intro log member key accepted
    rw [List.filterMap_append]
    exact List.mem_append_left _ (kept.genuine log member accepted)

/-- A message is delivered. -/
theorem Kept.deliver
    {index : Nat}
    (kept : Kept parse capacity before)
    (found : before.ready[index]? = some copy)
    (channel : Nat) :
    Kept parse capacity
      { before with
        ready := before.ready.eraseIdx index
        held := before.held ++ [⟨channel, copy, .delivered⟩] } := by
  refine kept.move ?_ kept.stale ?_ (fun _ => .inl) (fun _ => .inl)
  · have taken := perm_eraseIdx found
    rw [List.perm_iff_count] at taken ⊢
    intro other
    have same := taken other
    simp only [World.copies, List.count_append, List.map_append,
      List.map_cons, List.map_nil, List.count_cons, List.count_nil]
      at same ⊢
    omega
  · intro entry member
    rcases List.mem_append.mp member with old | isNew
    · exact .inl old
    · obtain rfl := List.mem_singleton.mp isNew
      exact .inr rfl

/-- An ack or nack reaches the broker. -/
theorem Kept.settle
    {index channel : Nat}
    {settlement : Settlement}
    (kept : Kept parse capacity before)
    (found :
      before.held[index]? =
        some ⟨channel, copy, .handled (some settlement)⟩)
    {acked deadLettered : List Copy}
    (place :
      (acked ++ deadLettered).Perm
        (copy :: (before.acked ++ before.deadLettered)))
    (executed :
      ∀ other ∈ acked,
        other ∈ before.acked ∨ other = copy ∧ settlement = .ack)
    (unread :
      ∀ other ∈ deadLettered,
        other ∈ before.deadLettered ∨ other = copy ∧ settlement = .nack) :
    Kept parse capacity
      { before with
        held := before.held.eraseIdx index
        acked
        deadLettered } := by
  have warranted :=
    kept.held _ (List.mem_of_getElem? found) settlement rfl
  refine kept.move ?_ kept.stale ?_ ?_ ?_
  · have taken := (perm_eraseIdx found).map Held.copy
    rw [List.perm_iff_count] at taken place ⊢
    intro other
    have same := taken other
    have placed := place other
    simp only [World.copies, List.count_append, List.map_cons,
      List.count_cons] at same placed ⊢
    omega
  · exact fun entry member => .inl (List.mem_of_mem_eraseIdx member)
  · intro other member
    rcases executed other member with old | ⟨rfl, rfl⟩
    · exact .inl old
    · exact .inr warranted
  · intro other member
    rcases unread other member with old | ⟨rfl, rfl⟩
    · exact .inl old
    · exact .inr warranted

/-- The broker takes back what it holds on the channel. -/
theorem Kept.lose
    (kept : Kept parse capacity before)
    (channel : Nat) :
    Kept parse capacity
      { before with
        ready :=
          (before.held.filter (·.channel = channel)).map Held.copy ++
            before.ready
        held := before.held.filter (¬ ·.channel = channel)
        stale :=
          before.stale ++
            ((before.held.filter (·.channel = channel)).filter
              Held.isStale).map Held.copy } := by
  refine kept.move ?_ ?_ ?_ (fun _ => .inl) (fun _ => .inl)
  · have parted :=
      (List.filter_append_perm (·.channel = channel) before.held).map
        Held.copy
    rw [List.perm_iff_count] at parted ⊢
    intro other
    have same := parted other
    simp only [World.copies, List.count_append, List.map_append,
      decide_not] at same ⊢
    omega
  · intro copy member
    rcases List.mem_append.mp member with old | isLost
    · exact kept.stale old
    · obtain ⟨entry, inLost, rfl⟩ := List.mem_map.mp isLost
      exact kept.published_of_held
        (List.mem_of_mem_filter (List.mem_of_mem_filter inLost))
  · exact fun entry member => .inl (List.mem_of_mem_filter member)

/-- Every step keeps it. -/
theorem Kept.step
    {event : Event}
    (kept : Kept parse (max 1 capacity) before)
    (taken : step parse capacity before event = some after) :
    Kept parse (max 1 capacity) after := by
  cases event with
  | publish copy =>
      cases taken
      exact kept.publish copy
  | deliver index channel =>
      obtain ⟨copy, found, rfl⟩ := Option.map_eq_some_iff.mp taken
      exact kept.deliver found channel
  | handle index now =>
      simp only [Custody.step] at taken
      split at taken
      · rename_i channel copy found
        cases taken
        have member := List.mem_of_getElem? found
        refine kept.handle (kept.remembers.handle copy now)
          (kept.published_of_held member) ?_ ?_ (List.Subset.refl _)
        · exact map_set_of_same found rfl
        · intro entry inSet
          rcases List.mem_or_eq_of_mem_set inSet with old | rfl
          · exact .inl old
          · exact .inr ⟨rfl, rfl⟩
      · cases taken
  | settle index =>
      simp only [Custody.step] at taken
      split at taken
      · rename_i channel copy found
        cases taken
        refine kept.settle found ?_ ?_ (fun _ => .inl)
        · rw [List.append_assoc]
          exact List.perm_middle
        · intro other member
          rcases List.mem_append.mp member with old | isNew
          · exact .inl old
          · exact .inr ⟨List.mem_singleton.mp isNew, rfl⟩
      · rename_i channel copy found
        cases taken
        refine kept.settle found ?_ (fun _ => .inl) ?_
        · rw [← List.append_assoc]
          exact List.perm_append_singleton _ _
        · intro other member
          rcases List.mem_append.mp member with old | isNew
          · exact .inl old
          · exact .inr ⟨List.mem_singleton.mp isNew, rfl⟩
      · cases taken
  | lose channel =>
      cases taken
      exact kept.lose channel
  | handleStale index now =>
      obtain ⟨copy, found, rfl⟩ := Option.map_eq_some_iff.mp taken
      refine kept.handle (kept.remembers.handle copy now)
        (kept.stale (List.mem_of_getElem? found)) rfl
        (fun _ => .inl) ?_
      exact fun _ member => List.mem_of_mem_eraseIdx member
  | restart =>
      cases taken
      have fresh :
          Kept parse (max 1 capacity) (before.begin (.create capacity)) :=
        kept.begin rfl rfl
      refine fresh.move ?_ (List.nil_subset _) (List.forall_mem_nil _)
        (fun _ => .inl) (fun _ => .inl)
      rw [List.perm_iff_count]
      intro other
      simp only [World.copies, World.begin, List.count_append,
        List.map_nil, List.count_nil]
      omega
  | reset =>
      cases taken
      exact kept.begin kept.remembers.bound rfl

end Steps

section Runs

variable
  {parse : String → Option Json}
  {capacity : Nat}
  {events : List Event}
  {reached : World}

/-- Nothing has been published. -/
theorem Kept.initial :
    Kept parse (max 1 capacity) (initial capacity) where
  conserved := .refl _
  stale := List.nil_subset _
  remembers := .of_empty rfl rfl
  spaced := List.forall_mem_nil _
  genuine log member := by
    obtain rfl := List.mem_singleton.mp member
    exact List.nil_subset _
  held := List.forall_mem_nil _
  acked := List.forall_mem_nil _
  deadLettered := List.forall_mem_nil _

/-- With few keys, no key is accepted twice in a life. -/
theorem Kept.nodup
    {log : List Handled}
    (kept : Kept parse capacity reached)
    (few :
      (reached.published.filterMap (Copy.key parse)).dedup.length ≤
        capacity)
    (member : log ∈ reached.lives) :
    (acceptedKeys log).Nodup := by
  have spaced : Spaced capacity (acceptedKeys log) := by
    rcases List.mem_append.mp member with isPast | isPresent
    · exact kept.spaced log isPast
    · obtain rfl := List.mem_singleton.mp isPresent
      exact kept.remembers.spaced
  exact spaced.nodup_of_few (kept.genuine log member) few

/--
In every run, each message ever placed in the queue is in exactly one place:
ready, held for a channel, acked or dead-lettered.  What is acked has been
processed by the consumer, in its present life or an earlier one, and what is
dead-lettered cannot be read; so once nothing is ready or held, everything that
can be read has been processed.  As long as the keys fit into the store, no life
of the consumer processes a key more than once.
-/
theorem messages_in_custody
    (run :
      Run (step parse capacity) (fun _ _ => True) (initial capacity) events
        reached) :
    reached.copies.Perm reached.published ∧
      (∀ copy ∈ reached.acked, Executed parse reached.lives copy) ∧
      (∀ copy ∈ reached.deadLettered,
        readEvent parse copy.content = none) ∧
      (reached.ready = [] → reached.held = [] →
        ∀ copy ∈ reached.published,
          readEvent parse copy.content ≠ none →
            Executed parse reached.lives copy) ∧
      ((reached.published.filterMap (Copy.key parse)).dedup.length ≤
          max 1 capacity →
        ∀ log ∈ reached.lives, (acceptedKeys log).Nodup) := by
  have kept : Kept parse (max 1 capacity) reached :=
    run.invariant (Kept parse (max 1 capacity))
      (fun kept _ taken => kept.step taken) .initial
  refine ⟨kept.conserved, kept.acked, kept.deadLettered, ?_,
    fun few _ => kept.nodup few⟩
  intro noneReady noneHeld copy isPublished readable
  have somewhere : copy ∈ reached.copies :=
    kept.conserved.symm.subset isPublished
  simp only [World.copies, noneReady, noneHeld, List.map_nil,
    List.nil_append] at somewhere
  rcases List.mem_append.mp somewhere with isAcked | isDead
  · exact kept.acked copy isAcked
  · exact absurd (kept.deadLettered copy isDead) readable

end Runs

/-- The event of source id 1, with that message id. -/
def sampleCopy (messageId : Text) : Copy where
  content := (sampleBody (.num (.ofInt 1))).stringify
  messageId := some messageId

/--
A message is processed and its channel lost before the ack arrives; the consumer
restarts and processes it again.  Another one with its message id is suppressed,
and one that cannot be read is dead-lettered.
-/
def sampleRun : List Event :=
  [.publish (sampleCopy ['a']), .publish ⟨['?'], none⟩, .deliver 0 0,
    .handle 0 1, .lose 0, .restart, .publish (sampleCopy ['a']),
    .deliver 0 1, .deliver 0 1, .deliver 0 1, .handle 0 2, .handle 1 2,
    .handle 2 2, .settle 0, .settle 0, .settle 0]

/-- All three are settled, and the key has been processed once in each life. -/
theorem messages_in_custody_sample :
    ∃ reached,
      Run (step sampleParse 3) (fun _ _ => True) (initial 3) sampleRun
        reached ∧
      (reached.lives.map fun log => (acceptedKeys log).length) = [1, 1] ∧
      reached.copies.Perm reached.published ∧
      (∀ copy ∈ reached.published,
        readEvent sampleParse copy.content ≠ none →
          Executed sampleParse reached.lives copy) ∧
      ∀ log ∈ reached.lives, (acceptedKeys log).Nodup := by
  obtain ⟨reached, run, lives, noneReady, noneHeld, few⟩ :
      ∃ reached,
        Run (step sampleParse 3) (fun _ _ => True) (initial 3)
          sampleRun reached ∧
        (reached.lives.map fun log => (acceptedKeys log).length) = [1, 1] ∧
          reached.ready = [] ∧ reached.held = [] ∧
          (reached.published.filterMap (Copy.key sampleParse)).dedup.length ≤
            max 1 3 :=
    Run.exists_of_replay
      (fun (reached : World) =>
        (reached.lives.map fun log => (acceptedKeys log).length) = [1, 1] ∧
          reached.ready = [] ∧ reached.held = [] ∧
          (reached.published.filterMap (Copy.key sampleParse)).dedup.length ≤
            max 1 3)
      (by decide +kernel)
  obtain ⟨conserved, -, -, drained, once⟩ := messages_in_custody run
  exact ⟨reached, run, lives, conserved, drained noneReady noneHeld, once few⟩

end Replication.Custody
