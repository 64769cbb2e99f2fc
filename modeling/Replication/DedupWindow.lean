import Replication.EventConsumer
import Replication.SlidingWindow
import Mathlib

namespace Replication.DedupWindow

open EventConsumer SlidingWindow

/-!
# The deduplication window

The store against everything the consumer has ever accepted: it holds the window
of the last `maxCapacity` accepted keys, and a delivery is a duplicate when its
key is in that window.  A delivery settles the broker's message exactly once
unless its key cannot be computed; then `handleMessage` throws after it has
counted the delivery.
-/

/-- What `handleMessage` is given, with the instant at which it runs. -/
structure Delivery where
  content : Text
  messageId : Option Text
  now : Int
  deriving Repr

/-- A delivery with what `handleMessage` has made of it. -/
structure Handled where
  delivery : Delivery
  settlement : Option Settlement
  processed : Option Json
  deriving Repr

/-- The consumer and what it has handled, kept for the statements. -/
structure Service where
  consumer : EventConsumer
  log : List Handled
  deriving Repr

/-- One delivery. -/
def handle
    (parse : String → Option Json)
    (service : Service)
    (delivery : Delivery) : Service :=
  let (consumer, settlement, processed) :=
    service.consumer.handleMessage parse delivery.now delivery.content
      delivery.messageId
  { consumer
    log := service.log ++ [{ delivery, settlement, processed }] }

/-- Any sequence of deliveries, from an empty store. -/
def handleAll
    (parse : String → Option Json)
    (capacity : Nat)
    (deliveries : List Delivery) : Service :=
  deliveries.foldl (handle parse) ⟨.create capacity, []⟩

/-- The key under which a delivery was accepted as unique. -/
def Handled.acceptedKey (entry : Handled) : Option Text :=
  entry.processed.bind (keyOf entry.delivery.messageId)

/-- All keys accepted as unique, in acceptance order. -/
def acceptedKeys (log : List Handled) : List Text :=
  log.filterMap Handled.acceptedKey

/-- The delivery was nacked. -/
def Handled.isDeadLettered (entry : Handled) : Bool :=
  entry.settlement = some .nack

/-- The delivery was acked and its event processed. -/
def Handled.isUnique (entry : Handled) : Bool :=
  entry.settlement = some .ack && entry.processed.isSome

/-- The delivery was acked and its event was not processed. -/
def Handled.isDuplicate (entry : Handled) : Bool :=
  entry.settlement = some .ack && entry.processed.isNone

/-- A delivery that is handled after these keys have been accepted. -/
structure HandledExactly
    (parse : String → Option Json)
    (capacity : Nat)
    (accepted : List Text)
    (entry : Handled) : Prop where
  settled : entry.settlement.isSome
  deadLettered :
    entry.isDeadLettered ↔ readEvent parse entry.delivery.content = none
  duplicate :
    entry.isDuplicate ↔
      ∃ event key,
        readEvent parse entry.delivery.content = some event ∧
          keyOf entry.delivery.messageId event = some key ∧
          key ∈ window capacity accepted
  unique :
    entry.isUnique ↔
      ∃ event key,
        readEvent parse entry.delivery.content = some event ∧
          keyOf entry.delivery.messageId event = some key ∧
          key ∉ window capacity accepted

/-- The store is the window over all accepted keys, and every count is exact. -/
structure Exact
    (parse : String → Option Json)
    (capacity : Nat)
    (service : Service) : Prop where
  each :
    ∀ earlier entry later, service.log = earlier ++ entry :: later →
      HandledExactly parse capacity (acceptedKeys earlier) entry
  store :
    service.consumer.deduplicationStore.cache =
      window capacity (acceptedKeys service.log)
  size :
    service.consumer.deduplicationStore.cache.length =
      min capacity (acceptedKeys service.log).length
  once : service.consumer.deduplicationStore.cache.Nodup
  uniqueProcessed :
    service.consumer.metrics.uniqueProcessed =
      service.log.countP Handled.isUnique
  duplicatesPrevented :
    service.consumer.metrics.duplicatesPrevented =
      service.log.countP Handled.isDuplicate
  deadLettered :
    service.consumer.metrics.deadLettered =
      service.log.countP Handled.isDeadLettered
  total :
    service.consumer.metrics.totalReceived =
      service.consumer.metrics.uniqueProcessed +
        service.consumer.metrics.duplicatesPrevented +
        service.consumer.metrics.deadLettered
  again :
    ∀ first key between rest,
      acceptedKeys service.log = first ++ key :: (between ++ key :: rest) →
      ∃ others, others <:+ between ∧ others.length = capacity ∧
        others.Nodup ∧ key ∉ others

/--
A delivery that is read has a message id, or a `source_id` and a `version` that
can be converted to strings.
-/
def Convertible
    (parse : String → Option Json)
    (delivery : Delivery) : Prop :=
  ∀ event ∈ readEvent parse delivery.content,
    delivery.messageId.getD [] = [] →
      fieldPrints "source_id" event ∧ fieldPrints "version" event

instance
    (parse : String → Option Json)
    (delivery : Delivery) : Decidable (Convertible parse delivery) :=
  inferInstanceAs
    (Decidable (∀ event ∈ readEvent parse delivery.content, _))

section Keys

variable
  {parse : String → Option Json}
  {delivery : Delivery}

/-- When the key can be computed. -/
theorem keyOf_isSome (messageId : Option Text) (event : Json) :
    (keyOf messageId event).isSome ↔
      (messageId.getD [] = [] →
        fieldPrints "source_id" event ∧ fieldPrints "version" event) := by
  unfold keyOf
  split
  · simp
  · rename_i notNonempty
    have empty : messageId.getD [] = [] := by
      cases messageId with
      | none => rfl
      | some text =>
          cases text with
          | nil => rfl
          | cons first rest => exact (notNonempty first rest rfl).elim
    simp [empty]

/-- The three ways a delivery goes, besides the one in which it throws. -/
inductive HandleSpec
    (parse : String → Option Json)
    (consumer : EventConsumer)
    (delivery : Delivery) :
    EventConsumer → Option Settlement → Option Json → Prop where
  | deadLettered
      (unread : readEvent parse delivery.content = none) :
      HandleSpec parse consumer delivery
        { consumer with
          metrics :=
            { consumer.metrics with
              totalReceived := consumer.metrics.totalReceived + 1
              deadLettered := consumer.metrics.deadLettered + 1 } }
        (some .nack) none
  | threw
      (event : Json)
      (read : readEvent parse delivery.content = some event)
      (noKey : keyOf delivery.messageId event = none) :
      HandleSpec parse consumer delivery
        { consumer with
          metrics :=
            { consumer.metrics with
              totalReceived := consumer.metrics.totalReceived + 1 } }
        none none
  | duplicate
      (event : Json)
      (key : Text)
      (read : readEvent parse delivery.content = some event)
      (isKey : keyOf delivery.messageId event = some key)
      (known : key ∈ consumer.deduplicationStore.cache) :
      HandleSpec parse consumer delivery
        { consumer with
          metrics :=
            { consumer.metrics with
              totalReceived := consumer.metrics.totalReceived + 1
              duplicatesPrevented :=
                consumer.metrics.duplicatesPrevented + 1 } }
        (some .ack) none
  | unique
      (event : Json)
      (key : Text)
      (read : readEvent parse delivery.content = some event)
      (isKey : keyOf delivery.messageId event = some key)
      (new : key ∉ consumer.deduplicationStore.cache) :
      HandleSpec parse consumer delivery
        { deduplicationStore := consumer.deduplicationStore.record key
          metrics :=
            { consumer.metrics with
              totalReceived := consumer.metrics.totalReceived + 1
              uniqueProcessed := consumer.metrics.uniqueProcessed + 1
              lastProcessedAt := some (isoString delivery.now) } }
        (some .ack) (some event)

/-- Every delivery goes one of these ways. -/
theorem handleMessage_spec
    (parse : String → Option Json)
    (consumer : EventConsumer)
    (delivery : Delivery) :
    ∃ after settlement processed,
      handleMessage parse delivery.now delivery.content delivery.messageId
          consumer = (after, settlement, processed) ∧
        HandleSpec parse consumer delivery after settlement processed := by
  unfold handleMessage
  cases read : readEvent parse delivery.content with
  | none => exact ⟨_, _, _, rfl, .deadLettered read⟩
  | some event =>
      dsimp only
      cases isKey : keyOf delivery.messageId event with
      | none => exact ⟨_, _, _, rfl, .threw event read isKey⟩
      | some key =>
          by_cases known : key ∈ consumer.deduplicationStore.cache
          · refine ⟨_, _, _, if_pos ?_,
              .duplicate event key read isKey known⟩
            exact decide_eq_true known
          · refine ⟨_, _, _, if_neg ?_, .unique event key read isKey known⟩
            simpa [DeduplicationStore.isDuplicate] using known

/-- So does every step of the service, which notes it. -/
theorem handle_spec
    (parse : String → Option Json)
    (service : Service)
    (delivery : Delivery) :
    ∃ after settlement processed,
      HandleSpec parse service.consumer delivery
          after settlement processed ∧
        handle parse service delivery =
          ⟨after, service.log ++ [⟨delivery, settlement, processed⟩]⟩ := by
  obtain ⟨after, settlement, processed, same, spec⟩ :=
    handleMessage_spec parse service.consumer delivery
  exact ⟨after, settlement, processed, spec, by rw [handle, same]⟩

/-- A delivery is settled unless its key cannot be computed. -/
theorem HandleSpec.settled_iff
    {consumer after : EventConsumer}
    {settlement : Option Settlement}
    {processed : Option Json}
    (spec :
      HandleSpec parse consumer delivery after settlement processed) :
    settlement.isSome ↔ Convertible parse delivery := by
  cases spec with
  | deadLettered unread => simp [Convertible, unread]
  | threw event read noKey =>
      have noKey' := keyOf_isSome delivery.messageId event
      simpa [Convertible, read, noKey] using noKey'
  | duplicate event key read isKey known =>
      have isKey' := keyOf_isSome delivery.messageId event
      simpa [Convertible, read, isKey] using isKey'
  | unique event key read isKey new =>
      have isKey' := keyOf_isSome delivery.messageId event
      simpa [Convertible, read, isKey] using isKey'

/-- What is settled is handled exactly by a store that is the window. -/
theorem HandleSpec.handledExactly
    {capacity : Nat}
    {accepted : List Text}
    {consumer after : EventConsumer}
    {settlement : Option Settlement}
    {processed : Option Json}
    (spec :
      HandleSpec parse consumer delivery after settlement processed)
    (convertible : Convertible parse delivery)
    (store :
      consumer.deduplicationStore.cache = window capacity accepted) :
    HandledExactly parse capacity accepted
      ⟨delivery, settlement, processed⟩ := by
  have settled := spec.settled_iff.mpr convertible
  cases spec with
  | deadLettered unread =>
      constructor <;>
        simp [Handled.isDeadLettered, Handled.isDuplicate,
          Handled.isUnique, unread]
  | threw event read noKey => cases settled
  | duplicate event key read isKey known =>
      rw [store] at known
      constructor <;>
        simp [Handled.isDeadLettered, Handled.isDuplicate,
          Handled.isUnique, read, isKey, known]
  | unique event key read isKey new =>
      rw [store] at new
      constructor <;>
        simp [Handled.isDeadLettered, Handled.isDuplicate,
          Handled.isUnique, read, isKey, new]

end Keys

section Sequences

variable
  {parse : String → Option Json}
  {capacity : Nat}
  {service : Service}
  {delivery : Delivery}
  {deliveries : List Delivery}

/-- The last delivery of a sequence is handled after the others. -/
theorem handleAll_append
    (parse : String → Option Json)
    (capacity : Nat)
    (deliveries : List Delivery)
    (delivery : Delivery) :
    handleAll parse capacity (deliveries ++ [delivery]) =
      handle parse (handleAll parse capacity deliveries) delivery := by
  simp [handleAll]

/-- Every delivery of a sequence is in the log, settled or not. -/
theorem mem_log
    (member : delivery ∈ deliveries) :
    ∃ entry ∈ (handleAll parse capacity deliveries).log,
      entry.settlement.isSome → Convertible parse delivery := by
  induction deliveries using List.reverseRecOn with
  | nil => cases member
  | append_singleton earlier last inductionHypothesis =>
      obtain ⟨after, settlement, processed, spec, handled⟩ :=
        handle_spec parse (handleAll parse capacity earlier) last
      rw [handleAll_append, handled]
      rcases List.mem_append.mp member with old | new
      · obtain ⟨entry, inLog, converts⟩ := inductionHypothesis old
        exact ⟨entry, List.mem_append_left _ inLog, converts⟩
      · obtain rfl := List.mem_singleton.mp new
        exact ⟨_, List.mem_append_right _ (List.mem_singleton_self _),
          spec.settled_iff.mp⟩

/-- What every settled delivery keeps. -/
structure Windowed
    (parse : String → Option Json)
    (capacity : Nat)
    (service : Service) : Prop where
  bound : service.consumer.deduplicationStore.maxCapacity = capacity
  each :
    ∀ earlier entry later, service.log = earlier ++ entry :: later →
      HandledExactly parse capacity (acceptedKeys earlier) entry
  store :
    service.consumer.deduplicationStore.cache =
      window capacity (acceptedKeys service.log)
  spaced : Spaced capacity (acceptedKeys service.log)
  uniqueProcessed :
    service.consumer.metrics.uniqueProcessed =
      service.log.countP Handled.isUnique
  duplicatesPrevented :
    service.consumer.metrics.duplicatesPrevented =
      service.log.countP Handled.isDuplicate
  deadLettered :
    service.consumer.metrics.deadLettered =
      service.log.countP Handled.isDeadLettered
  total :
    service.consumer.metrics.totalReceived =
      service.consumer.metrics.uniqueProcessed +
        service.consumer.metrics.duplicatesPrevented +
        service.consumer.metrics.deadLettered

/-- A new consumer has an empty window. -/
theorem Windowed.create
    (positive : 0 < capacity) :
    Windowed parse capacity ⟨.create capacity, []⟩ where
  bound := max_eq_right positive
  each earlier entry later same := by simp at same
  store := by simp [EventConsumer.create, DeduplicationStore.create,
    acceptedKeys, window]
  spaced := .nil capacity
  uniqueProcessed := rfl
  duplicatesPrevented := rfl
  deadLettered := rfl
  total := rfl

/-- A new key slides the window. -/
theorem cache_record
    {store : DeduplicationStore}
    {accepted : List Text}
    {key : Text}
    (bound : store.maxCapacity = capacity)
    (isWindow : store.cache = window capacity accepted)
    (new : key ∉ store.cache) :
    (store.record key).cache = window capacity (accepted ++ [key]) := by
  have positive : 0 < capacity := bound ▸ store.positive
  have length : store.cache.length = min capacity accepted.length := by
    rw [isWindow, length_window]
  by_cases full : capacity ≤ accepted.length
  · rw [DeduplicationStore.cache_record_of_full new (by omega),
      window_append_of_full positive full, isWindow]
  · rw [DeduplicationStore.cache_record_of_room new (by omega),
      window_append_of_room (Nat.lt_of_not_le full), isWindow]

/-- The keys accepted after one more delivery. -/
theorem acceptedKeys_append
    (log : List Handled)
    (entry : Handled) :
    acceptedKeys (log ++ [entry]) =
      acceptedKeys log ++ entry.acceptedKey.toList := by
  cases accepted : entry.acceptedKey <;>
    simp [acceptedKeys, accepted]

/-- A delivery that is settled keeps the window. -/
theorem Windowed.handle
    (windowed : Windowed parse capacity service)
    (convertible : Convertible parse delivery) :
    Windowed parse capacity (handle parse service delivery) := by
  obtain ⟨after, settlement, processed, spec, handled⟩ :=
    handle_spec parse service delivery
  have exactly := spec.handledExactly convertible windowed.store
  have each := forall_splits_append windowed.each exactly
  have settled := spec.settled_iff.mpr convertible
  obtain ⟨bound, _, store, spaced, unique, duplicates, dead, total⟩ :=
    windowed
  rw [handled]
  cases spec with
  | deadLettered unread =>
      refine ⟨bound, each, ?_, ?_, ?_, ?_, ?_, ?_⟩
      · simpa [acceptedKeys_append, Handled.acceptedKey] using store
      · simpa [acceptedKeys_append, Handled.acceptedKey] using spaced
      · simpa [Handled.isUnique] using unique
      · simpa [Handled.isDuplicate] using duplicates
      · simpa [Handled.isDeadLettered] using dead
      · dsimp only
        omega
  | threw event read noKey => cases settled
  | duplicate event key read isKey known =>
      refine ⟨bound, each, ?_, ?_, ?_, ?_, ?_, ?_⟩
      · simpa [acceptedKeys_append, Handled.acceptedKey] using store
      · simpa [acceptedKeys_append, Handled.acceptedKey] using spaced
      · simpa [Handled.isUnique] using unique
      · simpa [Handled.isDuplicate] using duplicates
      · simpa [Handled.isDeadLettered] using dead
      · dsimp only
        omega
  | unique event key read isKey new =>
      have accepted :
          acceptedKeys
              (service.log ++ [⟨delivery, some .ack, some event⟩]) =
            acceptedKeys service.log ++ [key] := by
        simp [acceptedKeys_append, Handled.acceptedKey, isKey]
      refine ⟨?_, each, ?_, ?_, ?_, ?_, ?_, ?_⟩
      · exact (DeduplicationStore.maxCapacity_record _ _).trans bound
      · exact (cache_record bound store new).trans
          (congrArg (window capacity) accepted.symm)
      · rw [accepted]
        exact spaced.append (store ▸ new)
      · simpa [Handled.isUnique] using unique
      · simpa [Handled.isDuplicate] using duplicates
      · simpa [Handled.isDeadLettered] using dead
      · dsimp only
        omega

/-- Deliveries that can all be settled keep the window. -/
theorem Windowed.handleAll
    (positive : 0 < capacity)
    (convertible : ∀ delivery ∈ deliveries, Convertible parse delivery) :
    Windowed parse capacity
      (DedupWindow.handleAll parse capacity deliveries) := by
  induction deliveries using List.reverseRecOn with
  | nil => exact .create positive
  | append_singleton earlier last inductionHypothesis =>
      rw [handleAll_append]
      refine (inductionHypothesis fun delivery member => ?_).handle ?_
      · exact convertible delivery (List.mem_append_left _ member)
      · exact convertible last
          (List.mem_append_right _ (List.mem_singleton_self _))

/-- The window gives everything that is asked of the service. -/
theorem Windowed.exact
    (positive : 0 < capacity)
    (windowed : Windowed parse capacity service) :
    Exact parse capacity service where
  each := windowed.each
  store := windowed.store
  size := by rw [windowed.store, length_window]
  once := by
    rw [windowed.store]
    exact windowed.spaced.nodup_window positive
  uniqueProcessed := windowed.uniqueProcessed
  duplicatesPrevented := windowed.duplicatesPrevented
  deadLettered := windowed.deadLettered
  total := windowed.total
  again first key between rest same :=
    Spaced.apart positive (same ▸ windowed.spaced)

/--
The deduplication window is exact for a sequence of deliveries if and only if
the key of every delivery that is read can be computed.
-/
theorem window_exact_iff
    (positive : 0 < capacity)
    (deliveries : List Delivery) :
    Exact parse capacity (handleAll parse capacity deliveries) ↔
      ∀ delivery ∈ deliveries, Convertible parse delivery := by
  constructor
  · intro exact_ delivery member
    obtain ⟨entry, inLog, converts⟩ := mem_log member
    obtain ⟨earlier, later, same⟩ := List.append_of_mem inLog
    exact converts (exact_.each earlier entry later same).settled
  · intro convertible
    exact (Windowed.handleAll positive convertible).exact positive

end Sequences

/-- An event in version 1 of that source id. -/
def sampleBody (sourceId : Json) : Json :=
  .obj [("event_id", .str "e"), ("source_id", sourceId),
    ("version", .num (.ofInt 1))]

/-- Reading back the two bodies that are delivered below. -/
def sampleParse (text : String) : Option Json :=
  [sampleBody (.num (.ofInt 1)), sampleBody (.obj [("toString", .null)])].find?
    fun body => String.ofList body.stringify = text

/-- A delivery of that body. -/
def sampleDelivery
    (messageId : Option Text)
    (sourceId : Json) : Delivery where
  content := (sampleBody sourceId).stringify
  messageId
  now := 0

/--
A well-formed event without a message id whose `source_id` has a field named
`toString`: it is counted as received and settled in no way.
-/
theorem unprintable_source_never_settled :
    let service :=
      handleAll sampleParse 3
        [sampleDelivery none (.obj [("toString", .null)])]
    (∃ entry,
      service.log = [entry] ∧ entry.settlement = none ∧
        (readEvent sampleParse entry.delivery.content).isSome) ∧
      service.consumer.metrics =
        { totalReceived := 1
          uniqueProcessed := 0
          duplicatesPrevented := 0
          deadLettered := 0
          lastProcessedAt := none } ∧
      ¬ Exact sampleParse 3 service := by
  refine ⟨⟨_, rfl, by decide +kernel, by decide +kernel⟩,
    by decide +kernel, fun exact_ => ?_⟩
  have settled := (exact_.each [] _ [] rfl).settled
  revert settled
  decide +kernel

/-- With capacity 1 a key is accepted again after another one. -/
theorem window_exact_iff_sample :
    let service :=
      handleAll sampleParse 1
        [sampleDelivery (some ['a']) (.num (.ofInt 1)),
          sampleDelivery none (.num (.ofInt 1)),
          sampleDelivery (some ['a']) (.obj [("toString", .null)])]
    service.consumer.metrics.uniqueProcessed = 3 ∧
      Exact sampleParse 1 service :=
  ⟨by decide +kernel,
    (window_exact_iff Nat.one_pos _).mpr (by decide +kernel)⟩

end Replication.DedupWindow
