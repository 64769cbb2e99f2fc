import Replication.NumberText
import Replication.RabbitMQSink
import Mathlib.Data.List.Nodup

namespace Replication

/-!
# The event consumer

`DeduplicationStore` and `EventConsumerService.handleMessage`.  The store is the
insertion order of its keys; its bound and the absence of duplicates are carried
as fields.  `handleMessage` has no await, so one delivery is one step.
-/

/-- The keys of the store, oldest first. -/
structure DeduplicationStore where
  maxCapacity : Nat
  cache : List Text
  positive : 0 < maxCapacity
  nodup : cache.Nodup
  bounded : cache.length ≤ maxCapacity
  deriving Repr

namespace DeduplicationStore

/-- `new DeduplicationStore(maxCapacity)`. -/
def create (maxCapacity : Nat) : DeduplicationStore where
  maxCapacity := max 1 maxCapacity
  cache := []
  positive := Nat.lt_of_lt_of_le Nat.one_pos (le_max_left _ _)
  nodup := .nil
  bounded := Nat.zero_le _

/-- The key has been recorded and not evicted. -/
def isDuplicate (store : DeduplicationStore) (messageId : Text) : Bool :=
  decide (messageId ∈ store.cache)

/-- A new key goes last; a full store evicts its oldest one. -/
theorem insert_invariant
    {kept : List Text}
    {messageId : Text}
    {capacity : Nat}
    (nodup : kept.Nodup)
    (new : messageId ∉ kept)
    (room : kept.length < capacity) :
    (kept ++ [messageId]).Nodup ∧
      (kept ++ [messageId]).length ≤ capacity := by
  refine ⟨List.nodup_append.mpr ⟨nodup, List.nodup_singleton _, ?_⟩, ?_⟩
  · intro key inKept other isNew same
    obtain rfl := List.mem_singleton.mp isNew
    exact new (same ▸ inKept)
  · simp only [List.length_append, List.length_singleton]
    omega

/-- `record(messageId)`: refresh it, or evict the oldest key and insert it. -/
def record
    (store : DeduplicationStore)
    (messageId : Text) : DeduplicationStore :=
  if known : messageId ∈ store.cache then
    { store with
      cache := store.cache.erase messageId ++ [messageId]
      nodup := by
        refine (insert_invariant (store.nodup.erase messageId)
          store.nodup.not_mem_erase
          (Nat.lt_succ_self _)).1
      bounded := by
        have bounded := store.bounded
        have positive := List.length_pos_of_mem known
        simp only [List.length_append, List.length_erase_of_mem known,
          List.length_singleton]
        omega }
  else if full : store.maxCapacity ≤ store.cache.length then
    have room : store.cache.tail.length < store.maxCapacity := by
      have bounded := store.bounded
      have positive := store.positive
      rw [List.length_tail]
      omega
    have invariant :=
      insert_invariant store.nodup.tail
        (fun inTail => known (List.mem_of_mem_tail inTail)) room
    { store with
      cache := store.cache.tail ++ [messageId]
      nodup := invariant.1
      bounded := invariant.2 }
  else
    have invariant :=
      insert_invariant store.nodup known (Nat.lt_of_not_le full)
    { store with
      cache := store.cache ++ [messageId]
      nodup := invariant.1
      bounded := invariant.2 }

/-- `clear()`: every key is forgotten. -/
def clear (store : DeduplicationStore) : DeduplicationStore :=
  { store with
    cache := []
    nodup := .nil
    bounded := Nat.zero_le _ }

/-- With room left, a new key is appended. -/
theorem cache_record_of_room
    {store : DeduplicationStore}
    {messageId : Text}
    (new : messageId ∉ store.cache)
    (room : store.cache.length < store.maxCapacity) :
    (store.record messageId).cache = store.cache ++ [messageId] := by
  unfold record
  rw [dif_neg new, dif_neg (Nat.not_le.mpr room)]

/-- A full store evicts its oldest key for a new one. -/
theorem cache_record_of_full
    {store : DeduplicationStore}
    {messageId : Text}
    (new : messageId ∉ store.cache)
    (full : store.maxCapacity ≤ store.cache.length) :
    (store.record messageId).cache = store.cache.tail ++ [messageId] := by
  unfold record
  rw [dif_neg new, dif_pos full]

/-- Recording keeps the capacity. -/
@[simp] theorem maxCapacity_record
    (store : DeduplicationStore)
    (messageId : Text) :
    (store.record messageId).maxCapacity = store.maxCapacity := by
  unfold record
  split
  · rfl
  · split <;> rfl

end DeduplicationStore

/-- What the consumer tells the broker about a delivery. -/
inductive Settlement where
  | ack
  /-- `nack(msg, false, false)`: to the dead-letter exchange. -/
  | nack
  deriving DecidableEq, Repr

/-- Counters of the consumer. -/
structure ConsumerMetrics where
  totalReceived : Nat
  uniqueProcessed : Nat
  duplicatesPrevented : Nat
  deadLettered : Nat
  lastProcessedAt : Option String
  deriving DecidableEq, Repr

/-- Fields of an `EventConsumerService` that `handleMessage` uses. -/
structure EventConsumer where
  deduplicationStore : DeduplicationStore
  metrics : ConsumerMetrics
  deriving Repr

namespace EventConsumer

/-- A consumer that has just been constructed. -/
def create (capacity : Nat) : EventConsumer where
  deduplicationStore := .create capacity
  metrics :=
    { totalReceived := 0
      uniqueProcessed := 0
      duplicatesPrevented := 0
      deadLettered := 0
      lastProcessedAt := none }

/-- The raw content carries the mark of a corrupted record. -/
def marksCorrupted (content : Text) : Bool :=
  content.includes "\"is_corrupted\":true".toList ||
    content.includes "\"is_corrupted\": true".toList

/-- The event of a delivery, unless its content is corrupted. -/
def readEvent
    (parse : String → Option Json)
    (content : Text) : Option Json :=
  if marksCorrupted content then
    none
  else
    (parse (String.ofList content)).filter fun event =>
      ((event.field "event_id").map Json.truthy).getD false

/-- A field in a template literal; a missing one prints as `undefined`. -/
def fieldText (name : String) (event : Json) : Text :=
  ((event.field name).map Json.toText).getD "undefined".toList

/-- The field can be converted to a string; `undefined` can. -/
def fieldPrints (name : String) (event : Json) : Bool :=
  ((event.field name).map Json.prints).getD true

/--
The deduplication key: the message id, if it is present and not empty, or else
the template literal, which is never empty.  The literal throws on a field that
cannot be converted to a string.
-/
def keyOf (messageId : Option Text) (event : Json) : Option Text :=
  match messageId with
  | some (first :: rest) => some (first :: rest)
  | _ =>
      if fieldPrints "source_id" event && fieldPrints "version" event then
        some
          ("rec_".toList ++ fieldText "source_id" event ++ "_v".toList ++
            fieldText "version" event)
      else
        none

/--
`handleMessage` on a delivery: the consumer, what it tells the broker unless it
throws before that, and the event if it has been processed.
-/
def handleMessage
    (parse : String → Option Json)
    (now : Int)
    (content : Text)
    (messageId : Option Text)
    (consumer : EventConsumer) :
    EventConsumer × Option Settlement × Option Json :=
  let received :=
    { consumer.metrics with
      totalReceived := consumer.metrics.totalReceived + 1 }
  match readEvent parse content with
  | none =>
      ({ consumer with
          metrics :=
            { received with deadLettered := received.deadLettered + 1 } },
        some .nack, none)
  | some event =>
      match keyOf messageId event with
      | none => ({ consumer with metrics := received }, none, none)
      | some key =>
          if consumer.deduplicationStore.isDuplicate key then
            ({ consumer with
                metrics :=
                  { received with
                    duplicatesPrevented :=
                      received.duplicatesPrevented + 1 } },
              some .ack, none)
          else
            ({ deduplicationStore := consumer.deduplicationStore.record key
               metrics :=
                { received with
                  uniqueProcessed := received.uniqueProcessed + 1
                  lastProcessedAt := some (isoString now) } },
              some .ack, some event)

/-- `resetMetrics()`: counters at 0, and an empty store. -/
def resetMetrics (consumer : EventConsumer) : EventConsumer :=
  { consumer with
    deduplicationStore := consumer.deduplicationStore.clear
    metrics := (create 0).metrics }

end EventConsumer

/-- The only underscore left separates an id from a version. -/
theorem rowVersion_inj
    {id otherId version otherVersion : Text}
    (inId : '_' ∉ id)
    (inVersion : '_' ∉ version)
    (same :
      "rec_".toList ++ id ++ "_v".toList ++ version =
        "rec_".toList ++ otherId ++ "_v".toList ++ otherVersion) :
    id = otherId ∧ version = otherVersion := by
  simp only [List.append_assoc, List.append_cancel_left_eq] at same
  have noUnderscore : '_' ∉ 'v' :: version :=
    List.not_mem_cons_of_ne_of_not_mem (by decide) inVersion
  have texts :
      id = otherId ∧ '_' = '_' ∧ 'v' :: version = 'v' :: otherVersion :=
    (List.append_cons_inj_of_notMem inId noUnderscore).mp same
  exact ⟨texts.1, (List.cons.inj texts.2.2).2⟩

/-- The message id determines the row id and the version. -/
theorem messageIdOf_inj
    {id otherId : Nat}
    {version otherVersion : Int}
    (same : messageIdOf id version = messageIdOf otherId otherVersion) :
    id = otherId ∧ version = otherVersion := by
  obtain ⟨sameId, sameVersion⟩ :=
    rowVersion_inj (underscore_not_mem_natText id)
      (underscore_not_mem_intText version) same
  exact ⟨natText_injective sameId, intText_injective sameVersion⟩

end Replication
