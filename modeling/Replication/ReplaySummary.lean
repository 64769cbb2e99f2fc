import Replication.ReplaySafety
import Mathlib

namespace Replication.ReplayCalls

open TaskMachine (totalOf totalOf_append totalOf_nil totalOf_cons)

/-!
# What the summaries of concurrent replays say

A loop of `retryAllPending` counts entries as resolved or failed while other
calls work on the same rows.  An entry that it has counted as resolved is
resolved for good, so that no later page brings it back: the count is one of
distinct rows.  A failure that it counts has been recorded in its row, once for
every call that counts it.
-/

variable
  {parse : String → Option Json}
  {number : Text → Option JsNumber}

/-- The entry that a replay is about. -/
def Await.current : Await → List Nat
  | .getPendingEntries => []
  | .getEntryById dlqId => [dlqId]
  | .bulkUpsert dlqId _ _ => [dlqId]
  | .publishBatch dlqId _ _ _ => [dlqId]
  | .recordRetryFailure dlqId _ _ => [dlqId]
  | .markStatus dlqId => [dlqId]

/-- The variables of a loop that is at those entries are as they should be. -/
structure Loop.Sound
    (queue : List DLQEntry)
    (current : List Nat)
    (loop : Loop) : Prop where
  retried :
    loop.summary.retried = loop.summary.resolved + loop.summary.failed
  resolved : loop.summary.resolved = loop.resolvedIds.length
  isResolved : ∀ dlqId ∈ loop.resolvedIds, ResolvedIn queue dlqId
  distinct :
    (loop.resolvedIds ++ (current ++ loop.rest.map DLQEntry.id)).Nodup
  present :
    ∀ dlqId ∈ current ++ loop.rest.map DLQEntry.id, Present queue dlqId

/-- A call of `retryAllPending` is sound and within its cap. -/
def Call.InLoop (queue : List DLQEntry) : Call → Prop
  | .awaiting (some loop) await =>
      loop.Sound queue await.current ∧
        loop.iteration < 50 ∧
        loop.summary.retried + await.current.length + loop.rest.length ≤
          100 * (loop.iteration + await.current.length)
  | .allReturned loop =>
      loop.Sound queue [] ∧ loop.summary.retried ≤ 5000
  | _ => True

/-- The entries that a loop has counted as resolved. -/
def Call.resolvedIds : Call → List Nat
  | .awaiting (some loop) _ => loop.resolvedIds
  | .allReturned loop => loop.resolvedIds
  | _ => []

/-- The failures that a loop has counted. -/
def Call.failuresCounted : Call → Nat
  | .awaiting (some loop) _ => loop.summary.failed
  | .allReturned loop => loop.summary.failed
  | _ => 0

/-- The failed retries that the rows have counted. -/
def retriesRecorded (queue : List DLQEntry) : Nat :=
  (queue.map DLQEntry.retryCount).sum

section Queue

variable {queue after : List DLQEntry}

/-- A sound loop stays sound while others work on the queue. -/
theorem Loop.Sound.evolve
    {current : List Nat}
    {loop : Loop}
    (evolves : Evolves queue after)
    (sound : loop.Sound queue current) :
    loop.Sound after current where
  retried := sound.retried
  resolved := sound.resolved
  isResolved dlqId member := (sound.isResolved dlqId member).evolve evolves
  distinct := sound.distinct
  present dlqId member := (sound.present dlqId member).evolve evolves

/-- So does its call. -/
theorem Call.InLoop.evolve
    {call : Call}
    (evolves : Evolves queue after)
    (inLoop : call.InLoop queue) :
    call.InLoop after := by
  cases call with
  | awaiting loop await =>
      cases loop with
      | none => trivial
      | some loop => exact ⟨inLoop.1.evolve evolves, inLoop.2⟩
  | entryReturned dlqId result => trivial
  | allReturned loop => exact ⟨inLoop.1.evolve evolves, inLoop.2⟩
  | threw => trivial

/-- The entries of a page are present, pending and distinct. -/
theorem page_spec
    (numbered : Numbered queue)
    (order : DLQStore.AgeOrder) :
    let pending := DLQStore.getPendingEntries order 100 queue
    (pending.map DLQEntry.id).Nodup ∧
      pending.length ≤ 100 ∧
      ∀ item ∈ pending, item ∈ queue ∧ item.status = .pending := by
  have perm := order.perm (DLQStore.pendingRows queue)
  refine ⟨?_, ?_, ?_⟩
  · have rows : ((DLQStore.pendingRows queue).map DLQEntry.id).Nodup :=
      numbered.nodup.sublist (List.filter_sublist.map _)
    have arranged :
        ((order.arrange (DLQStore.pendingRows queue)).map
          DLQEntry.id).Nodup :=
      (perm.map DLQEntry.id).nodup_iff.mpr rows
    exact arranged.sublist ((List.take_sublist _ _).map _)
  · rw [DLQStore.getPendingEntries, List.length_take]
    exact Nat.min_le_left _ _
  · intro item member
    exact DLQReplayer.mem_pendingRows.mp
      (perm.mem_iff.mp (List.mem_of_mem_take member))

/-- A pending row is not resolved under its number. -/
theorem not_resolvedIn_of_pending
    (numbered : Numbered queue)
    {item : DLQEntry}
    (member : item ∈ queue)
    (pending : item.status = .pending) :
    ¬ ResolvedIn queue item.id := by
  rintro ⟨row, rowMember, sameId, isResolved⟩
  obtain rfl : row = item :=
    DLQReplayer.eq_of_id numbered.nodup member rowMember sameId
  rw [pending] at isResolved
  cases isResolved

/-- Distinct resolved entries are no more than the resolved rows. -/
theorem length_le_resolvedRows
    {ids : List Nat}
    (distinct : ids.Nodup)
    (resolved : ∀ dlqId ∈ ids, ResolvedIn queue dlqId) :
    ids.length ≤
      (queue.filter fun row => row.status = .resolved).length := by
  have inside :
      ids ⊆
        (queue.filter fun row => row.status = .resolved).map DLQEntry.id := by
    intro dlqId member
    obtain ⟨row, rowMember, rfl, isResolved⟩ := resolved dlqId member
    exact List.mem_map_of_mem
      (List.mem_filter.mpr ⟨rowMember, by simp [isResolved]⟩)
  have fewer := (distinct.subperm inside).length_le
  rwa [List.length_map] at fewer

/-- Rows that have advanced have counted no fewer retries. -/
theorem retriesRecorded_updateEntry
    {change : DLQEntry → DLQEntry}
    {dlqId : Nat}
    (advances : ∀ row, (change row).Advances row) :
    retriesRecorded queue ≤
      retriesRecorded (DLQStore.updateEntry dlqId change queue) := by
  induction queue with
  | nil =>
      exact le_refl _
  | cons row rest inductionHypothesis =>
      simp only [retriesRecorded, DLQStore.updateEntry, List.map_cons,
        List.sum_cons] at inductionHypothesis ⊢
      refine Nat.add_le_add ?_ inductionHypothesis
      split
      · exact (advances row).retries
      · exact le_refl _

/-- A recorded failure is counted in its row. -/
theorem retriesRecorded_recordRetryFailure
    {dlqId : Nat}
    (present : Present queue dlqId)
    (now : Int) :
    retriesRecorded queue + 1 ≤
      retriesRecorded (DLQStore.recordRetryFailure now dlqId queue) := by
  induction queue with
  | nil =>
      obtain ⟨row, member, _⟩ := present
      cases member
  | cons head rest inductionHypothesis =>
      have others :=
        @retriesRecorded_updateEntry rest (DLQEntry.failedRetry now) dlqId
          (DLQEntry.Advances.failedRetry now)
      simp only [retriesRecorded, DLQStore.recordRetryFailure,
        DLQStore.updateEntry, List.map_cons,
        List.sum_cons] at inductionHypothesis others ⊢
      by_cases sameId : head.id = dlqId
      · have counted :
            (head.failedRetry now).retryCount = head.retryCount + 1 := rfl
        rw [if_pos sameId]
        omega
      · have inRest : Present rest dlqId := by
          obtain ⟨row, member, rowId⟩ := present
          rcases List.mem_cons.mp member with rfl | later
          · exact absurd rowId sameId
          · exact ⟨row, later, rowId⟩
        have counted := inductionHypothesis inRest
        rw [if_neg sameId]
        omega

end Queue

section Flow

variable
  {queue : List DLQEntry}
  {loop : Loop}
  {dlqId : Nat}

/-- The head of the loop. -/
theorem inLoop_nextPage
    (sound : loop.Sound queue [])
    (capped : loop.iteration ≤ 50)
    (counted :
      loop.summary.retried + loop.rest.length ≤ 100 * loop.iteration) :
    (nextPage loop).InLoop queue := by
  unfold nextPage
  split
  · rename_i below
    exact ⟨sound, below, counted⟩
  · exact ⟨sound, by omega⟩

/-- The next item of the page. -/
theorem inLoop_nextItem
    (sound : loop.Sound queue [])
    (below : loop.iteration < 50)
    (counted :
      loop.summary.retried + loop.rest.length ≤
        100 * (loop.iteration + 1)) :
    (nextItem loop).InLoop queue := by
  unfold nextItem
  split
  · rename_i item rest isRest
    refine ⟨⟨sound.retried, sound.resolved, sound.isResolved, ?_, ?_⟩,
      below, ?_⟩
    · have distinct := sound.distinct
      rw [isRest] at distinct
      exact distinct
    · have present := sound.present
      rw [isRest] at present
      exact present
    · rw [isRest, List.length_cons] at counted
      simp only [Await.current, List.length_singleton]
      omega
  · split
    · exact ⟨sound, by omega⟩
    · exact inLoop_nextPage ⟨sound.retried, sound.resolved,
        sound.isResolved, sound.distinct, sound.present⟩ below counted

/-- A page is fetched. -/
theorem inLoop_readPage
    (numbered : Numbered queue)
    (order : DLQStore.AgeOrder)
    (sound : loop.Sound queue [])
    (below : loop.iteration < 50)
    (counted : loop.summary.retried ≤ 100 * loop.iteration) :
    (readPage loop (DLQStore.getPendingEntries order 100 queue)).InLoop
      queue := by
  obtain ⟨pageDistinct, pageLength, pageRows⟩ := page_spec numbered order
  unfold readPage
  split
  · exact ⟨sound, by omega⟩
  · refine inLoop_nextItem
      ⟨sound.retried, sound.resolved, sound.isResolved, ?_, ?_⟩ below ?_
    · refine List.nodup_append.mpr
        ⟨(List.nodup_append.mp sound.distinct).1, pageDistinct, ?_⟩
      -- a pending row has not been counted as resolved
      rintro resolvedId isCounted pendingId inPage rfl
      obtain ⟨item, member, rfl⟩ := List.mem_map.mp inPage
      obtain ⟨inQueue, pending⟩ := pageRows item member
      exact not_resolvedIn_of_pending numbered inQueue pending
        (sound.isResolved _ isCounted)
    · intro id inPage
      obtain ⟨item, member, rfl⟩ := List.mem_map.mp inPage
      exact ⟨item, (pageRows item member).1, rfl⟩
    · simp only
      omega

/-- An entry is counted. -/
theorem inLoop_returnEntry
    {result : DLQReplayer.DLQRetryResult}
    (sound : loop.Sound queue [dlqId])
    (below : loop.iteration < 50)
    (counted :
      loop.summary.retried + 1 + loop.rest.length ≤
        100 * (loop.iteration + 1))
    (truthful : result.success = true → ResolvedIn queue dlqId) :
    (returnEntry (some loop) dlqId result).InLoop queue := by
  have distinct := sound.distinct
  have present := sound.present
  have retried := sound.retried
  have resolved := sound.resolved
  rw [returnEntry]
  refine inLoop_nextItem ⟨?_, ?_, ?_, ?_, ?_⟩ below ?_
  · simp only [Loop.count, DLQReplayer.DLQRetrySummary.count_retried,
      DLQReplayer.DLQRetrySummary.count_resolved,
      DLQReplayer.DLQRetrySummary.count_failed]
    split <;> omega
  · simp only [Loop.count, DLQReplayer.DLQRetrySummary.count_resolved]
    split
    · rw [List.length_append, List.length_singleton, resolved]
    · exact resolved
  · intro id member
    simp only [Loop.count] at member
    split at member
    · rename_i success
      rcases List.mem_append.mp member with old | new
      · exact sound.isResolved id old
      · rw [List.mem_singleton.mp new]
        exact truthful success
    · exact sound.isResolved id member
  · simp only [Loop.count, List.nil_append]
    split
    · rw [List.append_assoc]
      exact distinct
    · refine distinct.sublist ?_
      exact (List.sublist_append_right _ _).append_left _
  · intro id member
    exact present id (List.mem_append_right _ member)
  · simp only [Loop.count, DLQReplayer.DLQRetrySummary.count_retried]
    omega

/-- Going to the next item counts nothing. -/
theorem failuresCounted_nextItem (loop : Loop) :
    (nextItem loop).failuresCounted = loop.summary.failed := by
  unfold nextItem nextPage
  split
  · rfl
  · split
    · rfl
    · split <;> rfl

/-- Nor does fetching a page. -/
theorem failuresCounted_readPage (loop : Loop) (pending : List DLQEntry) :
    (readPage loop pending).failuresCounted = loop.summary.failed := by
  unfold readPage
  split
  · rfl
  · exact failuresCounted_nextItem _

/-- A returned failure is counted by the loop that called. -/
theorem failuresCounted_returnEntry
    (loop : Loop)
    (result : DLQReplayer.DLQRetryResult) :
    (returnEntry (some loop) dlqId result).failuresCounted =
      loop.summary.failed + if result.success then 0 else 1 := by
  rw [returnEntry, failuresCounted_nextItem, Loop.count,
    DLQReplayer.DLQRetrySummary.count_failed]

end Flow

/-- The replay goes on with its entry, or throws. -/
inductive Onward (loop : Option Loop) (dlqId : Nat) : Call → Prop where
  | threw : Onward loop dlqId .threw
  | awaits (await : Await) (current : await.current = [dlqId]) :
      Onward loop dlqId (.awaiting loop await)

section Bodies

variable
  {surroundings : Surroundings}
  {loop : Option Loop}
  {dlqId : Nat}
  {entry : DLQEntry}
  {record : SourceRecord}
  {replies : List SinkReply}
  {next : Call}

/-- `publishBatch` ends, or is awaited. -/
theorem onward_publishing
    {call : RabbitMQSink.PublishBatch}
    (runs : publishing loop dlqId entry record call = (replies, next)) :
    Onward loop dlqId next := by
  unfold publishing at runs
  split at runs
  · unfold checkFailures at runs
    split at runs <;> cases runs <;> exact .awaits _ rfl
  · cases runs
    exact .awaits _ rfl
  · cases runs
    exact .awaits _ rfl

/-- The second dispatch goes on with the entry. -/
theorem onward_dispatchRabbitMQ
    (runs :
      dispatchRabbitMQ surroundings loop dlqId entry record =
        (replies, next)) :
    Onward loop dlqId next := by
  unfold dispatchRabbitMQ at runs
  split at runs
  · exact onward_publishing runs
  · cases runs
    exact .awaits _ rfl

/-- So does the first one. -/
theorem onward_dispatchElasticsearch
    (runs :
      dispatchElasticsearch surroundings loop dlqId entry record =
        (replies, next)) :
    Onward loop dlqId next := by
  unfold dispatchElasticsearch at runs
  split at runs
  · split at runs <;> cases runs <;> exact .awaits _ rfl
  · exact onward_dispatchRabbitMQ runs

/-- And what follows the bulk request. -/
theorem onward_bulkSettled
    {answer : Except String BulkResponse}
    (runs :
      bulkSettled number surroundings loop dlqId entry record answer =
        (replies, next)) :
    Onward loop dlqId next := by
  unfold bulkSettled at runs
  split at runs
  · cases runs
    exact .awaits _ rfl
  · split at runs
    · cases runs
      exact .awaits _ rfl
    · unfold checkFailures at runs
      split at runs
      · cases runs
        exact onward_dispatchRabbitMQ rfl
      · cases runs
        exact .awaits _ rfl

/--
A lookup goes on with the entry, or returns for one that is resolved; only a
call outside of a loop may look for an entry that is not there.
-/
theorem onward_lookedUp
    {queue : List DLQEntry}
    (present : loop = none ∨ Present queue dlqId)
    (runs :
      lookedUp parse number surroundings loop dlqId
          (DLQStore.getEntryById queue dlqId) =
        (replies, next)) :
    Onward loop dlqId next ∨
      (loop = none ∧ ∃ result, next = .entryReturned dlqId result) ∨
      ResolvedIn queue dlqId ∧
        next =
          returnEntry loop dlqId { success := true, error := none } := by
  cases found : DLQStore.getEntryById queue dlqId with
  | none =>
      rcases present with rfl | ⟨row, member, sameId⟩
      · rw [found] at runs
        cases runs
        exact .inr (.inl ⟨rfl, _, rfl⟩)
      · have other := List.find?_eq_none.mp found row member
        simp [sameId] at other
  | some entry =>
      obtain ⟨member, sameId⟩ := DLQStore.getEntryById_spec found
      simp only [found, lookedUp] at runs
      split at runs
      · rename_i isResolved
        cases runs
        exact .inr (.inr ⟨⟨entry, member, sameId, isResolved⟩, rfl⟩)
      · split at runs
        · cases runs
          exact .inl .threw
        · exact .inl (onward_dispatchElasticsearch runs)

end Bodies

section Steps

variable
  {shared after : Shared}
  {call next : Call}

/-- Going on with an entry keeps the loop as it is. -/
theorem Onward.keeps
    {queue : List DLQEntry}
    {loop : Option Loop}
    {dlqId : Nat}
    {await : Await}
    (current : await.current = [dlqId])
    (inLoop : (Call.awaiting loop await).InLoop queue)
    (onward : Onward loop dlqId next) :
    next.InLoop queue ∧
      next.failuresCounted ≤ (Call.awaiting loop await).failuresCounted := by
  cases onward with
  | threw => exact ⟨trivial, Nat.zero_le _⟩
  | awaits later laterCurrent =>
      cases loop with
      | none => exact ⟨trivial, le_refl _⟩
      | some loop =>
          rw [Call.InLoop, current, ← laterCurrent] at inLoop
          exact ⟨inLoop, le_refl _⟩

/-- Returning an entry counts it. -/
theorem returnEntry_keeps
    {queue : List DLQEntry}
    {loop : Option Loop}
    {dlqId : Nat}
    {await : Await}
    {result : DLQReplayer.DLQRetryResult}
    (current : await.current = [dlqId])
    (inLoop : (Call.awaiting loop await).InLoop queue)
    (truthful : result.success = true → ResolvedIn queue dlqId) :
    (returnEntry loop dlqId result).InLoop queue ∧
      (returnEntry loop dlqId result).failuresCounted ≤
        (Call.awaiting loop await).failuresCounted +
          if result.success then 0 else 1 := by
  cases loop with
  | none => exact ⟨trivial, Nat.zero_le _⟩
  | some loop =>
      rw [Call.InLoop, current] at inLoop
      obtain ⟨sound, below, counted⟩ := inLoop
      exact ⟨inLoop_returnEntry sound below counted truthful,
        (failuresCounted_returnEntry loop result).le⟩

/-- Every step keeps the loops sound, and pays for what they count. -/
theorem Step.inLoop
    (settled : Settled parse number shared)
    (justified : call.Justified parse number shared)
    (inLoop : call.InLoop shared.queue)
    (step : Step parse number shared call after next) :
    next.InLoop after.queue ∧
      next.failuresCounted + retriesRecorded shared.queue ≤
        call.failuresCounted + retriesRecorded after.queue := by
  obtain ⟨evolves, _⟩ := step.evolves
  have later := inLoop.evolve evolves
  cases step with
  | page loop order =>
      obtain ⟨sound, below, counted⟩ := inLoop
      simp only [Await.current, List.length_nil, Nat.add_zero] at counted
      refine ⟨inLoop_readPage settled.numbered order sound below (by omega),
        ?_⟩
      rw [failuresCounted_readPage]
      exact le_refl _
  | queryRejected loop await =>
      exact ⟨trivial, Nat.add_le_add_right (Nat.zero_le _) _⟩
  | lookedUp loop dlqId surroundings runs =>
      have present : loop = none ∨ Present shared.queue dlqId := by
        cases loop with
        | none => exact .inl rfl
        | some loop => exact .inr (inLoop.1.present dlqId List.mem_cons_self)
      rcases onward_lookedUp present runs with
        onward | ⟨rfl, result, rfl⟩ | ⟨isResolved, rfl⟩
      · obtain ⟨inLoopNext, counted⟩ := onward.keeps rfl later
        exact ⟨inLoopNext, Nat.add_le_add_right counted _⟩
      · exact ⟨trivial, le_refl _⟩
      · obtain ⟨inLoopNext, counted⟩ :=
          @returnEntry_keeps _ _ _ _ { success := true, error := none }
            rfl later fun _ => isResolved
        exact ⟨inLoopNext, Nat.add_le_add_right counted _⟩
  | bulkSettled loop dlqId entry record answer surroundings runs =>
      obtain ⟨inLoopNext, counted⟩ :=
        (onward_bulkSettled runs).keeps rfl later
      exact ⟨inLoopNext, Nat.add_le_add_right counted _⟩
  | published loop dlqId entry record stepped runs =>
      obtain ⟨inLoopNext, counted⟩ := (onward_publishing runs).keeps rfl later
      exact ⟨inLoopNext, Nat.add_le_add_right counted _⟩
  | failureRecorded loop dlqId reason inCatch now =>
      obtain ⟨inLoopNext, counted⟩ :=
        @returnEntry_keeps _ _ _ _ { success := false, error := reason }
          rfl later (by simp)
      have recorded := retriesRecorded_recordRetryFailure justified now
      refine ⟨inLoopNext, ?_⟩
      simp only [Bool.false_eq_true, if_false] at counted
      calc (returnEntry loop dlqId
              { success := false, error := reason }).failuresCounted +
              retriesRecorded shared.queue
          ≤ (Call.awaiting loop
                (.recordRetryFailure dlqId reason inCatch)).failuresCounted +
              (retriesRecorded shared.queue + 1) := by omega
        _ ≤ _ := Nat.add_le_add_left recorded _
  | failureRejected loop dlqId reason message inCatch applied now =>
      have grown :
          retriesRecorded shared.queue ≤
            retriesRecorded
              (if applied then
                DLQStore.recordRetryFailure now dlqId shared.queue
              else
                shared.queue) := by
        cases applied with
        | true =>
            exact retriesRecorded_updateEntry
              (DLQEntry.Advances.failedRetry now)
        | false => exact le_refl _
      cases inCatch with
      | true => exact ⟨trivial, Nat.add_le_add (Nat.zero_le _) grown⟩
      | false =>
          obtain ⟨inLoopNext, counted⟩ :=
            (Onward.awaits (.recordRetryFailure dlqId (.str message) true)
              rfl).keeps rfl later
          exact ⟨inLoopNext, Nat.add_le_add counted grown⟩
  | marked loop dlqId now =>
      obtain ⟨entry, known, delivered⟩ := justified
      obtain ⟨row, member, sameId⟩ := known.present
      have isResolved :
          ResolvedIn (DLQStore.markStatus now dlqId .resolved shared.queue)
            dlqId :=
        ⟨row.marked now .resolved,
          List.mem_map.mpr ⟨row, member, if_pos sameId⟩, sameId, rfl⟩
      obtain ⟨inLoopNext, counted⟩ :=
        @returnEntry_keeps _ _ _ _ { success := true, error := none }
          rfl later fun _ => isResolved
      exact ⟨inLoopNext, Nat.add_le_add counted
        (retriesRecorded_updateEntry (DLQEntry.Advances.marked now))⟩
  | markRejected loop dlqId message applied now =>
      have grown :
          retriesRecorded shared.queue ≤
            retriesRecorded
              (if applied then
                DLQStore.markStatus now dlqId .resolved shared.queue
              else
                shared.queue) := by
        cases applied with
        | true =>
            exact retriesRecorded_updateEntry (DLQEntry.Advances.marked now)
        | false => exact le_refl _
      obtain ⟨inLoopNext, counted⟩ :=
        (Onward.awaits (.recordRetryFailure dlqId (.str message) true)
          rfl).keeps rfl later
      exact ⟨inLoopNext, Nat.add_le_add counted grown⟩

end Steps

/-- The calls are safe, their loops are sound, and their counts are covered. -/
structure Truthful
    (parse : String → Option Json)
    (number : Text → Option JsNumber)
    (world : World) : Prop where
  safe : Safe parse number world
  inLoop : ∀ call ∈ world.tasks, call.InLoop world.shared.queue
  covered :
    totalOf Call.failuresCounted world.tasks ≤
      retriesRecorded world.shared.queue

section Runs

variable {before reached : World}

/-- A new call has counted nothing. -/
theorem Truthful.append
    (truthful : Truthful parse number before)
    {new : Call}
    (safe :
      Safe parse number { before with tasks := before.tasks ++ [new] })
    (inLoop : new.InLoop before.shared.queue)
    (nothing : new.failuresCounted = 0) :
    Truthful parse number
      { before with tasks := before.tasks ++ [new] } where
  safe := safe
  inLoop := by
    intro call member
    rcases List.mem_append.mp member with old | single
    · exact truthful.inLoop call old
    · rw [List.mem_singleton.mp single]
      exact inLoop
  covered := by
    rw [totalOf_append, totalOf_cons, nothing, totalOf_nil]
    exact truthful.covered

/-- Every step of the machine keeps the summaries truthful. -/
theorem truthful_step
    {event : Event}
    (truthful : Truthful parse number before)
    (taken : (machine parse number).step before event = some reached) :
    Truthful parse number reached := by
  have safe := safe_step truthful.safe taken
  have evolves := evolves_step taken
  cases event with
  | act index action =>
      obtain ⟨call, shared, next, spawned, found, moved, rfl⟩ :=
        TaskMachine.step_act taken
      obtain ⟨step, rfl⟩ := act_spec moved
      have member := List.mem_of_getElem? found
      obtain ⟨nextInLoop, counted⟩ :=
        step.inLoop truthful.safe.global (truthful.safe.local_ call member)
          (truthful.inLoop call member)
      refine ⟨safe, ?_, ?_⟩
      · intro other otherMember
        rcases TaskMachine.mem_set_append otherMember with old | rfl | new
        · exact (truthful.inLoop other old).evolve evolves
        · exact nextInLoop
        · cases new
      · have pays :
            next.failuresCounted + totalOf Call.failuresCounted [] + 0 +
                retriesRecorded before.shared.queue ≤
              call.failuresCounted + 0 + retriesRecorded shared.queue :=
          counted
        have covered :
            totalOf Call.failuresCounted before.tasks + 0 ≤
              retriesRecorded before.shared.queue := truthful.covered
        exact TaskMachine.totalOf_resume_le found pays covered
  | env event =>
      obtain ⟨shared, tasks, moved, rfl⟩ := TaskMachine.step_env taken
      cases event with
      | retryEntry dlqId =>
          cases moved
          exact truthful.append safe trivial rfl
      | retryAllPending =>
          cases moved
          refine truthful.append safe (inLoop_nextPage ?_ ?_ ?_) rfl
          · exact ⟨rfl, rfl, List.forall_mem_nil _, List.nodup_nil,
              List.forall_mem_nil _⟩
          · exact Nat.zero_le _
          · exact le_refl _
      | persistFailures now failures =>
          obtain ⟨queue, persisted, same⟩ := Option.map_eq_some_iff.mp moved
          cases same
          obtain ⟨rows, _, rfl⟩ := Option.map_eq_some_iff.mp persisted
          refine ⟨safe, fun call member =>
            (truthful.inLoop call member).evolve evolves, ?_⟩
          refine truthful.covered.trans ?_
          simp [retriesRecorded]
      | kill =>
          cases moved
          exact ⟨safe, List.forall_mem_nil _, Nat.zero_le _⟩
  | change change => exact change.elim

/-- So does every run. -/
theorem truthful_run
    {events : List Event}
    (run :
      Run (machine parse number).step Unrestricted initial events reached) :
    Truthful parse number reached :=
  run.invariant (Truthful parse number)
    (fun truthful _ taken => truthful_step truthful taken)
    ⟨⟨⟨rfl, List.forall_mem_nil _⟩, List.forall_mem_nil _⟩,
      List.forall_mem_nil _, Nat.zero_le _⟩

/--
Between any two states of a run, whatever the replays and the runners do in
between, every row keeps its letter, its retries are only counted up, and it is
as it was or resolved; an entry that a replay has reported as replayed, to its
endpoint or to its loop, is resolved from then on.
-/
theorem queue_evolves
    {events more : List Event}
    {reached later : World}
    (run :
      Run (machine parse number).step Unrestricted initial events reached)
    (onward :
      Run (machine parse number).step Unrestricted reached more later) :
    Evolves reached.shared.queue later.shared.queue ∧
      (∀ dlqId result,
        .entryReturned dlqId result ∈ reached.tasks →
        result.success = true →
        ResolvedIn later.shared.queue dlqId) ∧
      ∀ call ∈ reached.tasks,
        ∀ dlqId ∈ call.resolvedIds,
          ResolvedIn later.shared.queue dlqId := by
  have evolves := evolves_run onward
  have truthful := truthful_run run
  refine ⟨evolves, ?_, ?_⟩
  · intro dlqId result returned success
    exact ResolvedIn.evolve evolves
      (truthful.safe.local_ _ returned success)
  · intro call member dlqId counted
    have inLoop := truthful.inLoop call member
    refine ResolvedIn.evolve evolves ?_
    cases call with
    | awaiting loop await =>
        cases loop with
        | none => cases counted
        | some loop => exact inLoop.1.isResolved dlqId counted
    | allReturned loop => exact inLoop.1.isResolved dlqId counted
    | entryReturned => cases counted
    | threw => cases counted

/--
However replays, inserts and kills interleave: a summary that `retryAllPending`
returns adds up and is within the cap, it counts as resolved no more entries than
there are resolved rows, and the failures counted by all calls together have
been recorded in the rows.
-/
theorem summaries_truthful
    {events : List Event}
    (run :
      Run (machine parse number).step Unrestricted initial events reached) :
    (∀ loop, .allReturned loop ∈ reached.tasks →
      loop.summary.retried = loop.summary.resolved + loop.summary.failed ∧
        loop.summary.retried ≤ 5000 ∧
        loop.summary.resolved ≤
          (reached.shared.queue.filter fun row =>
            row.status = .resolved).length) ∧
      totalOf Call.failuresCounted reached.tasks ≤
        retriesRecorded reached.shared.queue := by
  have truthful := truthful_run run
  refine ⟨fun loop returned => ?_, truthful.covered⟩
  obtain ⟨sound, capped⟩ := truthful.inLoop _ returned
  refine ⟨sound.retried, capped, ?_⟩
  rw [sound.resolved]
  exact length_le_resolvedRows (List.nodup_append.mp sound.distinct).1
    sound.isResolved

end Runs

/-- The other one fails, and counts a failed retry of a resolved row. -/
def sampleRefused : List Event :=
  [.act 1 (.channel (.publishThrew "")),
    sampleQuery 1 2]

/-- The second one counts its failure, and the row stays resolved. -/
theorem queue_evolves_refused :
    ∃ reached later,
      Run (machine (fun _ => none) (fun _ => none)).step Unrestricted
        initial sampleConfirmed reached ∧
      Run (machine (fun _ => none) (fun _ => none)).step Unrestricted
        reached sampleRefused later ∧
      later.shared.queue.map DLQEntry.retryCount = [1] ∧
      Evolves reached.shared.queue later.shared.queue := by
  obtain ⟨later, run, counted⟩ :
      ∃ later,
        Run (machine (fun _ => none) (fun _ => none)).step Unrestricted
          initial (sampleConfirmed ++ sampleRefused) later ∧
        later.shared.queue.map DLQEntry.retryCount = [1] :=
    Run.exists_of_replay _ (by decide +kernel)
  obtain ⟨reached, first, onward⟩ := run.split
  exact ⟨reached, later, first, onward, counted,
    (queue_evolves first onward).1⟩

/-- A letter is looked up, published and marked. -/
def sampleReplay (index : Nat) : List Event :=
  [sampleQuery index 0, .act index (.channel (.published "" 0 true)),
    .act index (.channel .confirmed), sampleQuery index 0]

/-- Two loops read the same page; one of them replays both of its letters. -/
def sampleLoops : List Event :=
  [.env (.persistFailures 0 [sampleLetter, sampleLetter]),
    .env .retryAllPending, .env .retryAllPending,
    sampleQuery 0 0, sampleQuery 1 0] ++
    sampleReplay 0 ++ sampleReplay 0 ++
    [sampleQuery 0 0, sampleQuery 1 0, sampleQuery 1 0, sampleQuery 1 0]

/-- The summary a call has returned. -/
def Call.summary : Call → Option DLQReplayer.DLQRetrySummary
  | .allReturned loop => some loop.summary
  | _ => none

/-- Both of them count both letters as resolved. -/
theorem summaries_truthful_twoLoops :
    ∃ reached,
      Run (machine (fun _ => none) (fun _ => none)).step Unrestricted
        initial sampleLoops reached ∧
      reached.tasks.map Call.summary =
        [some ⟨2, 2, 0⟩, some ⟨2, 2, 0⟩] ∧
      ∀ loop, .allReturned loop ∈ reached.tasks →
        loop.summary.retried = loop.summary.resolved + loop.summary.failed ∧
          loop.summary.retried ≤ 5000 ∧
          loop.summary.resolved ≤
            (reached.shared.queue.filter fun row =>
              row.status = .resolved).length := by
  obtain ⟨reached, run, both⟩ :
      ∃ reached,
        Run (machine (fun _ => none) (fun _ => none)).step Unrestricted
          initial sampleLoops reached ∧
        reached.tasks.map Call.summary =
          [some ⟨2, 2, 0⟩, some ⟨2, 2, 0⟩] :=
    Run.exists_of_replay _ (by decide +kernel)
  exact ⟨reached, run, both, (summaries_truthful run).1⟩

end Replication.ReplayCalls
