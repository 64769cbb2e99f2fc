import Replication.DedupWindow
import Replication.NumberText

namespace Replication

/-!
# Identities of deliveries

A delivery is identified by its message id, or else by the source id and the
version of its event, or else by the event id.  The key of `handleMessage` is
meant to be this identity, but the template literal in it is never empty, so that
its last alternative is never reached.
-/

namespace EventIdentity

open EventConsumer DedupWindow

/-- The field, if it is a number. -/
def numberField (name : String) (event : Json) : Option JsNumber :=
  match event.field name with
  | some (.num value) => some value
  | _ => none

/-- `rec_<source_id>_v<version>`. -/
def recordIdentity (sourceId version : JsNumber) : Text :=
  "rec_".toList ++ sourceId.toText ++ "_v".toList ++ version.toText

/-- What identifies a delivery of the event. -/
def identityOf (messageId : Option Text) (event : Json) : Option Text :=
  match messageId with
  | some (first :: rest) => some (first :: rest)
  | _ =>
      match numberField "source_id" event, numberField "version" event with
      | some sourceId, some version => some (recordIdentity sourceId version)
      | _, _ => (event.field "event_id").map Json.toText

/-- The identity of a delivery whose event is read. -/
def identity
    (parse : String → Option Json)
    (delivery : Delivery) : Option Text :=
  (readEvent parse delivery.content).bind (identityOf delivery.messageId)

/-- There is a message id, or the event has both numbers. -/
def Keyed
    (parse : String → Option Json)
    (delivery : Delivery) : Prop :=
  ∀ event ∈ readEvent parse delivery.content,
    delivery.messageId.getD [] ≠ [] ∨
      ((numberField "source_id" event).isSome ∧
        (numberField "version" event).isSome)

/-- Whatever is suppressed has been accepted before under its identity. -/
def NoFalseDuplicates
    (parse : String → Option Json)
    (log : List Handled) : Prop :=
  ∀ earlier entry later, log = earlier ++ entry :: later →
    entry.isDuplicate →
      ∃ accepted ∈ earlier,
        accepted.isUnique ∧
          identity parse accepted.delivery = identity parse entry.delivery

/-- Different pairs of numbers are different identities. -/
theorem recordIdentity_inj
    {sourceId version otherId otherVersion : JsNumber}
    (same :
      recordIdentity sourceId version =
        recordIdentity otherId otherVersion) :
    sourceId = otherId ∧ version = otherVersion := by
  obtain ⟨sameSource, sameVersion⟩ :=
    rowVersion_inj sourceId.underscore_not_mem_toText
      version.underscore_not_mem_toText same
  exact ⟨JsNumber.toText_injective sameSource,
    JsNumber.toText_injective sameVersion⟩

section Keys

variable
  {parse : String → Option Json}
  {messageId : Option Text}
  {event : Json}
  {delivery : Delivery}

/-- A number prints as its text. -/
theorem field_of_numberField
    {name : String}
    {value : JsNumber}
    (isNumber : numberField name event = some value) :
    fieldPrints name event = true ∧ fieldText name event = value.toText := by
  unfold numberField at isNumber
  split at isNumber
  · rename_i number found
    cases isNumber
    rw [fieldPrints, fieldText, found]
    exact ⟨rfl, rfl⟩
  · cases isNumber

/-- The key of a keyed delivery is its identity. -/
theorem keyOf_eq_identityOf
    (keyed :
      messageId.getD [] ≠ [] ∨
        ((numberField "source_id" event).isSome ∧
          (numberField "version" event).isSome)) :
    keyOf messageId event = identityOf messageId event := by
  rcases keyed with nonempty | ⟨hasSource, hasVersion⟩
  · cases messageId with
    | none => exact absurd rfl nonempty
    | some text =>
        cases text with
        | nil => exact absurd rfl nonempty
        | cons first rest => rfl
  · obtain ⟨sourceId, isSource⟩ := Option.isSome_iff_exists.mp hasSource
    obtain ⟨version, isVersion⟩ := Option.isSome_iff_exists.mp hasVersion
    obtain ⟨sourcePrints, sourceText⟩ := field_of_numberField isSource
    obtain ⟨versionPrints, versionText⟩ := field_of_numberField isVersion
    cases messageId with
    | none =>
        simp only [keyOf, identityOf, isSource, isVersion, sourcePrints,
          versionPrints, sourceText, versionText]
        rfl
    | some text =>
        cases text with
        | nil =>
            simp only [keyOf, identityOf, isSource, isVersion, sourcePrints,
              versionPrints, sourceText, versionText]
            rfl
        | cons first rest => rfl

/-- A keyed delivery that is read is known by its identity. -/
theorem Keyed.identity_eq
    (keyed : Keyed parse delivery)
    (read : readEvent parse delivery.content = some event) :
    identity parse delivery = keyOf delivery.messageId event := by
  rw [identity, read, Option.bind_some]
  exact (keyOf_eq_identityOf (keyed event read)).symm

end Keys

section Runs

variable
  {parse : String → Option Json}
  {capacity : Nat}
  {service : Service}
  {delivery : Delivery}
  {deliveries : List Delivery}

/-- Recording a key adds no other. -/
theorem mem_cache_record
    {store : DeduplicationStore}
    {key other : Text}
    (member : other ∈ (store.record key).cache) :
    other ∈ store.cache ∨ other = key := by
  unfold DeduplicationStore.record at member
  split at member
  · rcases List.mem_append.mp member with old | new
    · exact .inl (List.mem_of_mem_erase old)
    · exact .inr (List.mem_singleton.mp new)
  · split at member
    · rcases List.mem_append.mp member with old | new
      · exact .inl (List.mem_of_mem_tail old)
      · exact .inr (List.mem_singleton.mp new)
    · rcases List.mem_append.mp member with old | new
      · exact .inl old
      · exact .inr (List.mem_singleton.mp new)

/-- The entry was handled by a store of keys that were accepted before. -/
def HandledAfter
    (parse : String → Option Json)
    (earlier : List Handled)
    (entry : Handled) : Prop :=
  ∃ consumer after,
    HandleSpec parse consumer entry.delivery after entry.settlement
        entry.processed ∧
      ∀ key ∈ consumer.deduplicationStore.cache, key ∈ acceptedKeys earlier

/-- The store has accepted keys only, and so it was at every entry. -/
structure Remembers
    (parse : String → Option Json)
    (service : Service) : Prop where
  each :
    ∀ earlier entry later, service.log = earlier ++ entry :: later →
      HandledAfter parse earlier entry
  store :
    ∀ key ∈ service.consumer.deduplicationStore.cache,
      key ∈ acceptedKeys service.log

/-- A delivery adds its key to the accepted ones when it is recorded. -/
theorem Remembers.handle
    (remembers : Remembers parse service) :
    Remembers parse (handle parse service delivery) := by
  obtain ⟨after, settlement, processed, spec, handled⟩ :=
    handle_spec parse service delivery
  have atLast :
      HandledAfter parse service.log ⟨delivery, settlement, processed⟩ :=
    ⟨service.consumer, after, spec, remembers.store⟩
  rw [handled]
  refine ⟨SlidingWindow.forall_splits_append remembers.each atLast, ?_⟩
  intro key member
  rw [acceptedKeys_append]
  have old :
      key ∈ service.consumer.deduplicationStore.cache →
        key ∈ acceptedKeys service.log ++
          (Handled.acceptedKey ⟨delivery, settlement, processed⟩).toList :=
    fun known => List.mem_append_left _ (remembers.store key known)
  cases spec with
  | deadLettered unread => exact old member
  | threw event read noKey => exact old member
  | duplicate event own read isKey known => exact old member
  | unique event own read isKey new =>
      rcases mem_cache_record member with known | isOwn
      · exact old known
      · refine List.mem_append_right _ ?_
        rw [isOwn]
        simp [Handled.acceptedKey, isKey]

/-- Every sequence of deliveries remembers accepted keys only. -/
theorem remembers_handleAll (deliveries : List Delivery) :
    Remembers parse (handleAll parse capacity deliveries) := by
  induction deliveries using List.reverseRecOn with
  | nil =>
      refine ⟨fun earlier entry later same => ?_, fun key member => ?_⟩
      · exact absurd same (by simp [handleAll])
      · cases member
  | append_singleton earlier last inductionHypothesis =>
      rw [handleAll_append]
      exact inductionHypothesis.handle

/-- The log has the deliveries in their order. -/
theorem log_deliveries (deliveries : List Delivery) :
    (handleAll parse capacity deliveries).log.map Handled.delivery =
      deliveries := by
  induction deliveries using List.reverseRecOn with
  | nil => rfl
  | append_singleton earlier last inductionHypothesis =>
      obtain ⟨after, settlement, processed, spec, handled⟩ :=
        handle_spec parse (handleAll parse capacity earlier) last
      rw [handleAll_append, handled, List.map_append, inductionHypothesis]
      rfl

/-- An accepted key is that of an entry that was processed. -/
theorem exists_of_mem_acceptedKeys
    {log : List Handled}
    {key : Text}
    (member : key ∈ acceptedKeys log) :
    ∃ entry ∈ log, entry.acceptedKey = some key :=
  List.mem_filterMap.mp member

/-- A processed event is the one that was read, and its delivery is acked. -/
theorem HandledAfter.processed
    {earlier : List Handled}
    {entry : Handled}
    {event : Json}
    (handled : HandledAfter parse earlier entry)
    (processed : entry.processed = some event) :
    readEvent parse entry.delivery.content = some event ∧
      entry.isUnique = true := by
  obtain ⟨delivery, settlement, outcome⟩ := entry
  obtain ⟨consumer, after, spec, -⟩ := handled
  cases spec with
  | deadLettered unread => cases processed
  | threw event read noKey => cases processed
  | duplicate event own read isKey known => cases processed
  | unique event own read isKey new =>
      cases processed
      exact ⟨read, rfl⟩

/-- A suppressed delivery has a key that was accepted before. -/
theorem HandledAfter.duplicate
    {earlier : List Handled}
    {entry : Handled}
    (handled : HandledAfter parse earlier entry)
    (suppressed : entry.isDuplicate = true) :
    ∃ event key,
      readEvent parse entry.delivery.content = some event ∧
        keyOf entry.delivery.messageId event = some key ∧
        key ∈ acceptedKeys earlier := by
  obtain ⟨delivery, settlement, outcome⟩ := entry
  obtain ⟨consumer, after, spec, accepted⟩ := handled
  cases spec with
  | deadLettered unread => cases suppressed
  | threw event read noKey => cases suppressed
  | duplicate event key read isKey known =>
      exact ⟨event, key, read, isKey, accepted key known⟩
  | unique event key read isKey new => cases suppressed

/--
In every run of keyed deliveries nothing is suppressed but what has been accepted
under its identity before, and identities of different numbers differ.
-/
theorem noFalseDuplicates_of_keyed
    (keyed : ∀ delivery ∈ deliveries, Keyed parse delivery) :
    NoFalseDuplicates parse (handleAll parse capacity deliveries).log ∧
      ∀ sourceId version otherId otherVersion,
        recordIdentity sourceId version =
            recordIdentity otherId otherVersion →
          sourceId = otherId ∧ version = otherVersion := by
  refine ⟨?_, fun _ _ _ _ => recordIdentity_inj⟩
  have remembers :=
    @remembers_handleAll parse capacity deliveries
  have keyedEntries :
      ∀ entry ∈ (handleAll parse capacity deliveries).log,
        Keyed parse entry.delivery := by
    intro entry member
    apply keyed
    rw [← @log_deliveries parse capacity deliveries]
    exact List.mem_map_of_mem member
  intro earlier entry later split suppressed
  obtain ⟨event, key, read, isKey, wasAccepted⟩ :=
    (remembers.each earlier entry later split).duplicate suppressed
  obtain ⟨accepted, inEarlier, acceptedKey⟩ :=
    exists_of_mem_acceptedKeys wasAccepted
  obtain ⟨before, between, rfl⟩ := List.append_of_mem inEarlier
  have acceptedSplit :
      (handleAll parse capacity deliveries).log =
        before ++ accepted :: (between ++ entry :: later) := by
    rw [split, List.append_assoc, List.cons_append]
  obtain ⟨acceptedEvent, processed, acceptedIsKey⟩ :=
    Option.bind_eq_some_iff.mp acceptedKey
  obtain ⟨acceptedRead, unique⟩ :=
    (remembers.each before accepted _ acceptedSplit).processed processed
  refine ⟨accepted, inEarlier, unique, ?_⟩
  have inLog :
      ∀ other ∈ (before ++ accepted :: between) ++ entry :: later,
        Keyed parse other.delivery := by
    rw [← split]
    exact keyedEntries
  rw [(inLog accepted (by simp)).identity_eq acceptedRead,
    (inLog entry (by simp)).identity_eq read, acceptedIsKey, isKey]

/-- A recorded key is in the store. -/
theorem mem_record_self (store : DeduplicationStore) (key : Text) :
    key ∈ (store.record key).cache := by
  unfold DeduplicationStore.record
  split
  · simp
  · split <;> simp

/-- A second delivery under the key of the first one is suppressed. -/
theorem log_pair
    {first second : Delivery}
    {event secondEvent : Json}
    {key : Text}
    (read : readEvent parse first.content = some event)
    (isKey : keyOf first.messageId event = some key)
    (secondRead : readEvent parse second.content = some secondEvent)
    (secondKey : keyOf second.messageId secondEvent = some key) :
    (handleAll parse capacity [first, second]).log =
      [⟨first, some .ack, some event⟩, ⟨second, some .ack, none⟩] := by
  obtain ⟨after, settlement, processed, spec, handled⟩ :=
    handle_spec parse ⟨.create capacity, []⟩ first
  cases spec with
  | deadLettered unread => cases read.symm.trans unread
  | threw other otherRead noKey =>
      cases read.symm.trans otherRead
      cases isKey.symm.trans noKey
  | duplicate other own otherRead isOwn known => cases known
  | unique other own otherRead isOwn new =>
      cases read.symm.trans otherRead
      cases isKey.symm.trans isOwn
      have run :
          handleAll parse capacity [first, second] =
            handle parse
              (handle parse ⟨.create capacity, []⟩ first) second := rfl
      rw [run, handled]
      obtain ⟨afterSecond, secondSettlement, secondProcessed, secondSpec,
          secondHandled⟩ :=
        handle_spec parse
          { consumer :=
              { deduplicationStore :=
                  (EventConsumer.create capacity).deduplicationStore.record
                    key
                metrics :=
                  { totalReceived := 0 + 1
                    uniqueProcessed := 0 + 1
                    duplicatesPrevented := 0
                    deadLettered := 0
                    lastProcessedAt := some (isoString first.now) } }
            log := [⟨first, some .ack, some event⟩] } second
      cases secondSpec with
      | deadLettered unread => cases secondRead.symm.trans unread
      | threw other otherRead noKey =>
          cases secondRead.symm.trans otherRead
          cases secondKey.symm.trans noKey
      | duplicate other own otherRead isOwn known =>
          exact congrArg Service.log secondHandled
      | unique other own otherRead isOwn new =>
          cases secondRead.symm.trans otherRead
          cases secondKey.symm.trans isOwn
          exact absurd (mem_record_self _ key) new

/--
A delivery that is not keyed is suppressed once its template literal has been
accepted as a message id, although it is identified by its event id.
-/
theorem suppressed_of_not_keyed
    {event : Json}
    {char : Char}
    {rest : Text}
    (read : readEvent parse delivery.content = some event)
    (isKey : keyOf delivery.messageId event = some (char :: rest))
    (otherIdentity :
      identityOf delivery.messageId event ≠ some (char :: rest)) :
    let first : Delivery :=
      { delivery with messageId := some (char :: rest) }
    Keyed parse first ∧
      ¬ NoFalseDuplicates parse
          (handleAll parse capacity [first, delivery]).log := by
  intro first
  refine ⟨fun _ _ => .inl (List.cons_ne_nil char rest), fun noFalse => ?_⟩
  obtain ⟨accepted, member, -, same⟩ :=
    noFalse [⟨first, some .ack, some event⟩] ⟨delivery, some .ack, none⟩ []
      (log_pair read rfl read isKey) rfl
  rw [List.mem_singleton.mp member] at same
  refine otherIdentity ?_
  calc identityOf delivery.messageId event
      = identity parse delivery := by rw [identity, read]; rfl
    _ = identity parse first := same.symm
    _ = some (char :: rest) := by
        rw [identity, show readEvent parse first.content = _ from read]
        rfl

end Runs

/-- An event of that id and of no source. -/
def sampleEvent (eventId : String) : Json :=
  .obj [("event_id", .str eventId)]

/-- Reading back the two events that are delivered below. -/
def sampleParse (text : String) : Option Json :=
  [sampleEvent "e1", sampleEvent "e2"].find?
    fun event => String.ofList event.stringify = text

/-- A delivery of the event. -/
def sampleDelivery
    (messageId : Option Text)
    (eventId : String) : Delivery where
  content := (sampleEvent eventId).stringify
  messageId
  now := 0

/-- Two deliveries of one event under its message id are keyed. -/
theorem noFalseDuplicates_sample :
    NoFalseDuplicates sampleParse
        (handleAll sampleParse 3
          [sampleDelivery (some ['a']) "e1",
            sampleDelivery (some ['a']) "e1"]).log ∧
      ∀ sourceId version otherId otherVersion,
        recordIdentity sourceId version =
            recordIdentity otherId otherVersion →
          sourceId = otherId ∧ version = otherVersion :=
  noFalseDuplicates_of_keyed fun delivery member event _ => by
    have isSample : delivery = sampleDelivery (some ['a']) "e1" := by
      simpa using member
    rw [isSample]
    exact .inl (List.cons_ne_nil _ _)

/-- Two events of different ids, without message ids: the second is suppressed. -/
theorem second_event_suppressed :
    let log :=
      (handleAll sampleParse 3
        [sampleDelivery none "e1", sampleDelivery none "e2"]).log
    log.map Handled.isDuplicate = [false, true] ∧
      log.map (fun entry => identity sampleParse entry.delivery) =
        [some "e1".toList, some "e2".toList] ∧
      ¬ NoFalseDuplicates sampleParse log := by
  have identities :
      identity sampleParse (sampleDelivery none "e1") ≠
        identity sampleParse (sampleDelivery none "e2") := by
    decide +kernel
  refine ⟨by decide +kernel, by decide +kernel, fun noFalse => ?_⟩
  obtain ⟨accepted, member, -, same⟩ := noFalse [_] _ [] rfl (by decide +kernel)
  rw [List.mem_singleton.mp member] at same
  exact identities same

end EventIdentity

end Replication
