import Replication.RetryEntry
import Replication.PageDrain

namespace Replication

/-!
# Replaying everything that is pending

`retryAllPending` fetches pages of a hundred pending entries, at most fifty times,
and retries each entry of a page.  An entry whose retry fails stays pending, so
that the next fetch may return it again.  The loop is a drain of the queue by
pages, and it treats every entry once only in the cases that are spelled out at
the end.
-/

namespace DLQReplayer

open PageDrain (Progress Drains)

/-- What `retryAllPending` returns. -/
structure DLQRetrySummary where
  retried : Nat
  resolved : Nat
  failed : Nat
  deriving DecidableEq, Repr

/-- One more retry. -/
def DLQRetrySummary.count
    (summary : DLQRetrySummary)
    (success : Bool) : DLQRetrySummary :=
  if success then
    { summary with
      retried := summary.retried + 1
      resolved := summary.resolved + 1 }
  else
    { summary with
      retried := summary.retried + 1
      failed := summary.failed + 1 }

section Count

variable
  (summary : DLQRetrySummary)
  (success : Bool)

/-- Every retry is counted. -/
theorem DLQRetrySummary.count_retried :
    (summary.count success).retried = summary.retried + 1 := by
  cases success with
  | true => rfl
  | false => rfl

/-- A success is counted as resolved. -/
theorem DLQRetrySummary.count_resolved :
    (summary.count success).resolved =
      summary.resolved + if success then 1 else 0 := by
  cases success with
  | true => rfl
  | false => rfl

/-- Anything else is counted as failed. -/
theorem DLQRetrySummary.count_failed :
    (summary.count success).failed =
      summary.failed + if success then 0 else 1 := by
  cases success with
  | true => rfl
  | false => rfl

end Count

/-- The queue, the ids `retryEntry` was called with, and the summary so far. -/
structure Replaying where
  queue : List DLQEntry
  calls : List Nat
  summary : DLQRetrySummary

section Loop

variable
  (parse : String → Option Json)
  (number : Text → Option JsNumber)
  (options : RabbitMQSink.Options)
  (attempt : Nat → Nat → Attempt)
  (order : Nat → DLQStore.AgeOrder)

/-- What the next call of `retryEntry` does; calls are counted from zero. -/
def retryNext (state : Replaying) (dlqId : Nat) : Outcome :=
  retryEntry parse number options (attempt state.calls.length dlqId)
    state.queue dlqId

/-- The inner loop, or nothing where a call throws or does not end. -/
def retryItems : List DLQEntry → Replaying → Option Replaying
  | [], state => some state
  | item :: rest, state =>
      let outcome := retryNext parse number options attempt state item.id
      match outcome.settled with
      | .returned result =>
          retryItems rest
            { queue := outcome.queue
              calls := state.calls ++ [item.id]
              summary := state.summary.count result.success }
      | _ => none

/-- The outer loop from iteration `i` on, with so many iterations left. -/
def retryBatches : Nat → Nat → Replaying → Option Replaying
  | 0, _, state => some state
  | left + 1, i, state =>
      let pending := DLQStore.getPendingEntries (order i) 100 state.queue
      if pending.isEmpty then
        some state
      else
        match retryItems parse number options attempt pending state with
        | none => none
        | some next =>
            if pending.length ≤ next.summary.failed ∧
                next.summary.resolved = 0 then
              some next
            else
              retryBatches left (i + 1) next

/-- `retryAllPending`. -/
def retryAllPending (queue : List DLQEntry) : Option Replaying :=
  retryBatches parse number options attempt order 50 0
    { queue
      calls := []
      summary := { retried := 0, resolved := 0, failed := 0 } }

end Loop

/-!
## The loop as a drain

What the drain moves are the ids of the pending rows with their ages, which
retries do not change.
-/

/-- The number and the age of a row. -/
def keyOf (row : DLQEntry) : Nat × Int :=
  (row.id, row.createdAt)

/-- The keys of the pending rows. -/
def pendingKeys (queue : List DLQEntry) : List (Nat × Int) :=
  (DLQStore.pendingRows queue).map keyOf

/-- The entries of that key fail. -/
def failsKey (succeeds : Nat → Bool) (key : Nat × Int) : Bool :=
  !succeeds key.1

/--
Every retry of a pending entry of the queue has the outcome of the entry: it
returns it, and leaves the entry resolved or pending.
-/
def HasOutcomes
    (parse : String → Option Json)
    (number : Text → Option JsNumber)
    (options : RabbitMQSink.Options)
    (attempt : Nat → Nat → Attempt)
    (succeeds : Nat → Bool)
    (start : List DLQEntry) : Prop :=
  ∀ (calls : Nat) (queue : List DLQEntry) (row inserted : DLQEntry),
    inserted ∈ DLQStore.pendingRows start →
    row.SameLetter inserted →
    row.status = .pending →
    DLQStore.getEntryById queue row.id = some row →
      (∃ error,
        (retryEntry parse number options (attempt calls row.id) queue
            row.id).settled =
          .returned { success := succeeds row.id, error }) ∧
      ∀ after,
        DLQStore.getEntryById
            (retryEntry parse number options (attempt calls row.id) queue
              row.id).queue row.id =
          some after →
        after.status = if succeeds row.id then .resolved else .pending

/-- The keys of pending rows that the database may return in that order. -/
def ArrangedKeys
    (order : Nat → DLQStore.AgeOrder)
    (pending arranged : List (Nat × Int)) : Prop :=
  ∃ (i : Nat) (rows : List DLQEntry),
    (rows.map DLQEntry.id).Nodup ∧
      rows.map keyOf = pending ∧
      arranged = ((order i).arrange rows).map keyOf

/-- The loop has the progress of the drain. -/
structure Tracks
    (succeeds : Nat → Bool)
    (start : List DLQEntry)
    (state : Replaying)
    (progress : Progress (Nat × Int)) : Prop where
  distinct : (state.queue.map DLQEntry.id).Nodup
  letters :
    ∀ row ∈ DLQStore.pendingRows state.queue,
      ∃ inserted ∈ DLQStore.pendingRows start, row.SameLetter inserted
  calls : state.calls = progress.attempts.map Prod.fst
  pending : pendingKeys state.queue = progress.pending
  retried : state.summary.retried = progress.attempts.length
  resolved :
    state.summary.resolved =
      progress.attempts.countP fun key => !failsKey succeeds key
  failed :
    state.summary.failed = progress.attempts.countP (failsKey succeeds)

section Simulation

variable
  {parse : String → Option Json}
  {number : Text → Option JsNumber}
  {options : RabbitMQSink.Options}
  {attempt : Nat → Nat → Attempt}
  {order : Nat → DLQStore.AgeOrder}
  {succeeds : Nat → Bool}
  {start queue : List DLQEntry}
  {state : Replaying}
  {progress : Progress (Nat × Int)}
  {row : DLQEntry}

/-- A pending row is a row of the queue. -/
theorem mem_pendingRows :
    row ∈ DLQStore.pendingRows queue ↔
      row ∈ queue ∧ row.status = .pending := by
  simp [DLQStore.pendingRows]

/-- A row is found among the pending ones by its key. -/
theorem exists_of_mem_pendingKeys
    {key : Nat × Int}
    (member : key ∈ pendingKeys queue) :
    ∃ row ∈ DLQStore.pendingRows queue, keyOf row = key :=
  List.mem_map.mp member

/--
A change of one pending row takes its key off the pending ones, unless the row
stays pending.
-/
theorem pendingKeys_updateEntry
    {dlqId : Nat}
    {change : DLQEntry → DLQEntry}
    {stays : Bool}
    (letter : ∀ row, (change row).SameLetter row)
    (changed :
      ∀ row ∈ queue, row.id = dlqId →
        row.status = .pending ∧
          ((change row).status = .pending ↔ stays = true)) :
    pendingKeys (DLQStore.updateEntry dlqId change queue) =
      (pendingKeys queue).filter fun key => key.1 ≠ dlqId ∨ stays := by
  induction queue with
  | nil => rfl
  | cons head rest inductionHypothesis =>
      obtain ⟨headChanged, restChanged⟩ := List.forall_mem_cons.mp changed
      have later := inductionHypothesis restChanged
      simp only [pendingKeys, DLQStore.pendingRows,
        DLQStore.updateEntry] at later ⊢
      rw [List.map_cons]
      by_cases same : head.id = dlqId
      · obtain ⟨isPending, staysPending⟩ := headChanged same
        have sameKey : keyOf (change head) = keyOf head := by
          rw [keyOf, (letter head).id, (letter head).createdAt]
          rfl
        by_cases still : stays = true
        · simp [same, isPending, staysPending.mpr still, later, sameKey,
            still]
        · have gone : (change head).status ≠ .pending :=
            fun kept => still (staysPending.mp kept)
          have sameId : (keyOf head).1 = dlqId := same
          simp [same, isPending, gone, later, sameId, still]
      · have otherId : (keyOf head).1 ≠ dlqId := same
        by_cases isPending : head.status = .pending
        · simp [same, isPending, later, otherId]
        · simp [same, isPending, later]

/-- Rows of one number are the same row. -/
theorem eq_of_id
    {other : DLQEntry}
    (distinct : (queue.map DLQEntry.id).Nodup)
    (member : row ∈ queue)
    (otherMember : other ∈ queue)
    (same : other.id = row.id) :
    other = row :=
  List.inj_on_of_nodup_map distinct otherMember member same

section Attempted

variable {change : DLQEntry → DLQEntry}

/-- The rows that are pending after an attempt have the letters they had. -/
theorem Tracks.letters_updateEntry
    (tracks : Tracks succeeds start state progress)
    (letter : ∀ other, (change other).SameLetter other)
    (isPending : row ∈ DLQStore.pendingRows state.queue) :
    ∀ after ∈
        DLQStore.pendingRows (DLQStore.updateEntry row.id change state.queue),
      ∃ inserted ∈ DLQStore.pendingRows start,
        after.SameLetter inserted := by
  intro after afterPending
  obtain ⟨afterMember, afterStatus⟩ := mem_pendingRows.mp afterPending
  obtain ⟨other, otherMember, rfl⟩ := List.mem_map.mp afterMember
  by_cases same : other.id = row.id
  · rw [if_pos same]
    obtain rfl :=
      eq_of_id tracks.distinct (mem_pendingRows.mp isPending).1 otherMember same
    obtain ⟨inserted, insertedMember, isLetter⟩ :=
      tracks.letters other isPending
    exact ⟨inserted, insertedMember, (letter other).trans isLetter⟩
  · rw [if_neg same] at afterStatus ⊢
    exact tracks.letters other
      (mem_pendingRows.mpr ⟨otherMember, afterStatus⟩)

/-- An attempted key leaves the pending ones unless it fails. -/
theorem Tracks.pending_updateEntry
    (tracks : Tracks succeeds start state progress)
    (letter : ∀ other, (change other).SameLetter other)
    (isPending : row ∈ DLQStore.pendingRows state.queue)
    (stays :
      (change row).status = .pending ↔
        failsKey succeeds (keyOf row) = true) :
    pendingKeys (DLQStore.updateEntry row.id change state.queue) =
      (progress.after (failsKey succeeds) [keyOf row]).pending := by
  obtain ⟨inQueue, status⟩ := mem_pendingRows.mp isPending
  have onlyRow :
      ∀ other ∈ state.queue, other.id = row.id → other = row :=
    fun other otherMember => eq_of_id tracks.distinct inQueue otherMember
  have changed :
      ∀ other ∈ state.queue, other.id = row.id →
        other.status = .pending ∧
          ((change other).status = .pending ↔
            failsKey succeeds (keyOf row) = true) := by
    intro other otherMember same
    rw [onlyRow other otherMember same]
    exact ⟨status, stays⟩
  rw [pendingKeys_updateEntry letter changed, Progress.after, ← tracks.pending]
  refine List.filter_congr fun key keyMember => ?_
  obtain ⟨other, otherPending, rfl⟩ := exists_of_mem_pendingKeys keyMember
  by_cases same : other.id = row.id
  · rw [onlyRow other (mem_pendingRows.mp otherPending).1 same]
    simp [keyOf]
  · have otherKey : keyOf other ≠ keyOf row :=
      fun sameKey => same (congrArg Prod.fst sameKey)
    have otherId : (keyOf other).1 ≠ row.id := same
    simp [otherKey, otherId]

end Attempted

/-- A retry of a pending entry is an attempt of its key. -/
theorem Tracks.retryNext
    (fixed :
      HasOutcomes parse number options attempt succeeds start)
    (tracks : Tracks succeeds start state progress)
    {key : Nat × Int}
    (member : key ∈ progress.pending) :
    (∃ error,
      (retryNext parse number options attempt state key.1).settled =
        .returned { success := succeeds key.1, error }) ∧
    Tracks succeeds start
      { queue := (retryNext parse number options attempt state key.1).queue
        calls := state.calls ++ [key.1]
        summary := state.summary.count (succeeds key.1) }
      (progress.after (failsKey succeeds) [key]) := by
  rw [← tracks.pending] at member
  obtain ⟨row, isPending, rfl⟩ := exists_of_mem_pendingKeys member
  obtain ⟨inserted, insertedMember, letter⟩ := tracks.letters row isPending
  obtain ⟨inQueue, status⟩ := mem_pendingRows.mp isPending
  have found := DLQStore.getEntryById_of_mem tracks.distinct inQueue
  obtain ⟨returned, statusAfter⟩ :=
    fixed state.calls.length state.queue row inserted insertedMember letter
      status found
  refine ⟨returned, ?_⟩
  simp only [keyOf, DLQReplayer.retryNext] at returned ⊢
  obtain ⟨change, changes, changed⟩ :=
    @touched_retryEntry parse number options
      (attempt state.calls.length row.id) state.queue row.id
  rw [changed] at statusAfter ⊢
  have keepsId : ∀ other, (change other).id = other.id :=
    fun other => (changes other).1.id
  have foundAfter :
      DLQStore.getEntryById
          (DLQStore.updateEntry row.id change state.queue) row.id =
        some (change row) :=
    DLQStore.getEntryById_updateEntry_self keepsId found
  have stays :
      (change row).status = .pending ↔
        failsKey succeeds (keyOf row) = true := by
    rw [statusAfter _ foundAfter, failsKey, keyOf]
    cases succeeds row.id with
    | true => simp
    | false => simp
  have letters : ∀ other, (change other).SameLetter other :=
    fun other => (changes other).1
  have fails :
      failsKey succeeds (row.id, row.createdAt) = !succeeds row.id := rfl
  exact
    { distinct := by
        rw [DLQStore.updateEntry_ids keepsId]
        exact tracks.distinct
      letters := tracks.letters_updateEntry letters isPending
      calls := by
        rw [tracks.calls, Progress.after, List.map_append]
        rfl
      pending := tracks.pending_updateEntry letters isPending stays
      retried := by
        rw [DLQRetrySummary.count_retried, tracks.retried, Progress.after,
          List.length_append, List.length_singleton]
      resolved := by
        rw [DLQRetrySummary.count_resolved, tracks.resolved, Progress.after,
          List.countP_append, List.countP_singleton, fails, Bool.not_not]
      failed := by
        rw [DLQRetrySummary.count_failed, tracks.failed, Progress.after,
          List.countP_append, List.countP_singleton, fails]
        cases succeeds row.id with
        | true => rfl
        | false => rfl }

/-- Attempting the first item of a page and then the others. -/
theorem after_after
    {key : Nat × Int}
    {keys : List (Nat × Int)}
    (fails : Nat × Int → Bool) :
    (progress.after fails [key]).after fails keys =
      progress.after fails (key :: keys) := by
  simp only [Progress.after, List.append_assoc, List.singleton_append,
    List.filter_filter, Progress.mk.injEq, true_and]
  refine List.filter_congr fun other _ => ?_
  by_cases same : other = key
  · simpa [same] using Or.inr
  · simp [same]

/-- The inner loop attempts the keys of its page. -/
theorem Tracks.retryItems
    (fixed :
      HasOutcomes parse number options attempt succeeds start)
    {items : List DLQEntry}
    (tracks : Tracks succeeds start state progress)
    (distinct : (items.map keyOf).Nodup)
    (members : ∀ item ∈ items, keyOf item ∈ progress.pending) :
    ∃ next,
      retryItems parse number options attempt items state = some next ∧
        Tracks succeeds start next
          (progress.after (failsKey succeeds) (items.map keyOf)) := by
  induction items generalizing state progress with
  | nil =>
      refine ⟨state, rfl, ?_⟩
      have same :
          progress.after (failsKey succeeds) [] = progress := by
        simp [Progress.after]
      rw [List.map_nil, same]
      exact tracks
  | cons item rest inductionHypothesis =>
      obtain ⟨fresh, distinctRest⟩ := List.nodup_cons.mp distinct
      obtain ⟨⟨error, returned⟩, tracksNext⟩ :=
        tracks.retryNext fixed (members item List.mem_cons_self)
      simp only [keyOf] at returned
      have stillPending :
          ∀ other ∈ rest,
            keyOf other ∈
              (progress.after (failsKey succeeds) [keyOf item]).pending := by
        intro other member
        have otherKey : keyOf other ≠ keyOf item := fun same =>
          fresh (same ▸ List.mem_map_of_mem member)
        simp [Progress.after, otherKey,
          members other (List.mem_cons_of_mem _ member)]
      obtain ⟨next, done, tracksDone⟩ :=
        inductionHypothesis tracksNext distinctRest stillPending
      rw [after_after] at tracksDone
      refine ⟨next, ?_, tracksDone⟩
      rw [DLQReplayer.retryItems]
      simp only [returned]
      exact done

variable (order) in
/-- The database returns the keys of the pending rows in some order. -/
theorem arrangedKeys
    (distinct : (queue.map DLQEntry.id).Nodup)
    (i : Nat) :
    ArrangedKeys order (pendingKeys queue)
      (((order i).arrange (DLQStore.pendingRows queue)).map keyOf) :=
  ⟨i, DLQStore.pendingRows queue,
    distinct.sublist (List.filter_sublist.map DLQEntry.id), rfl, rfl⟩

/-- The outer loop is a drain of the pending keys. -/
theorem Tracks.retryBatches
    (fixed :
      HasOutcomes parse number options attempt succeeds start)
    (left i : Nat)
    (tracks : Tracks succeeds start state progress) :
    ∃ done final,
      retryBatches parse number options attempt order left i state =
          some done ∧
        Drains (failsKey succeeds) 100 (ArrangedKeys order) left progress
          final ∧
        Tracks succeeds start done final := by
  induction left generalizing i state progress with
  | zero => exact ⟨state, progress, rfl, .spent progress, tracks⟩
  | succ left inductionHypothesis =>
      have arranged := arrangedKeys order tracks.distinct i
      have perm := (order i).perm (DLQStore.pendingRows state.queue)
      generalize
        rows : (order i).arrange (DLQStore.pendingRows state.queue) =
          arrangedRows at arranged perm
      rw [tracks.pending] at arranged
      have permKeys : (arrangedRows.map keyOf).Perm progress.pending := by
        rw [← tracks.pending]
        exact perm.map keyOf
      have distinctKeys : (arrangedRows.map keyOf).Nodup := by
        refine List.Nodup.of_map Prod.fst ?_
        rw [List.map_map]
        exact ((perm.map DLQEntry.id).nodup_iff).mpr
          (tracks.distinct.sublist
            (List.filter_sublist.map DLQEntry.id))
      rw [DLQReplayer.retryBatches]
      simp only [DLQStore.getPendingEntries, rows]
      have pageKeys :
          (arrangedRows.take 100).map keyOf =
            (arrangedRows.map keyOf).take 100 := List.map_take
      by_cases nothing : (arrangedRows.take 100).isEmpty = true
      · rw [if_pos nothing]
        have noRows : arrangedRows = [] := by
          simpa using nothing
        refine ⟨state, progress, rfl, .emptied left progress ?_, tracks⟩
        rw [noRows, List.map_nil] at permKeys
        exact permKeys.nil_eq.symm
      · rw [if_neg nothing]
        have something : progress.pending ≠ [] := by
          intro none
          rw [none] at permKeys
          have noRows := List.map_eq_nil_iff.mp permKeys.eq_nil
          exact nothing (by simp [noRows])
        have distinctPage : ((arrangedRows.take 100).map keyOf).Nodup := by
          rw [pageKeys]
          exact distinctKeys.sublist (List.take_sublist _ _)
        obtain ⟨next, retried, tracksNext⟩ :=
          tracks.retryItems fixed distinctPage fun item member =>
            permKeys.subset
              (List.mem_map_of_mem (List.mem_of_mem_take member))
        rw [pageKeys] at tracksNext
        have pageLength :
            (arrangedRows.take 100).length =
              ((arrangedRows.map keyOf).take 100).length := by
          rw [← pageKeys, List.length_map]
        simp only [retried]
        by_cases givesUp :
            (arrangedRows.take 100).length ≤ next.summary.failed ∧
              next.summary.resolved = 0
        · rw [if_pos givesUp]
          rw [pageLength, tracksNext.failed, tracksNext.resolved] at givesUp
          exact ⟨next, _, rfl,
            .stuck left progress _ arranged something givesUp, tracksNext⟩
        · rw [if_neg givesUp]
          rw [pageLength, tracksNext.failed, tracksNext.resolved] at givesUp
          obtain ⟨done, final, ends, drains, tracksDone⟩ :=
            inductionHypothesis (i + 1) tracksNext
          exact ⟨done, final, ends,
            .round left progress final _ arranged something givesUp drains,
            tracksDone⟩

end Simulation

/-!
## Covering the queue once
-/

/-- The call treated every entry that was pending at its start once. -/
structure CoversOnce
    (succeeds : Nat → Bool)
    (start : List DLQEntry)
    (done : Replaying) : Prop where
  attempted :
    done.calls.Perm ((DLQStore.pendingRows start).map DLQEntry.id)
  /-- The failing entries are left, in the order of the table. -/
  left :
    (DLQStore.pendingRows done.queue).map DLQEntry.id =
      ((DLQStore.pendingRows start).map DLQEntry.id).filter
        fun id => !succeeds id
  resolved :
    done.summary.resolved =
      (DLQStore.pendingRows start).countP fun row => succeeds row.id
  failed :
    done.summary.failed =
      (DLQStore.pendingRows start).countP fun row => !succeeds row.id
  retried :
    done.summary.retried = done.summary.resolved + done.summary.failed

/--
Either every failing entry has 4900 strictly older pending ones, or there is one
page at most and all of it fails.
-/
def DrainsOnce (succeeds : Nat → Bool) (start : List DLQEntry) : Prop :=
  (∀ row ∈ DLQStore.pendingRows start, succeeds row.id = false →
    4900 ≤
      (DLQStore.pendingRows start).countP fun other =>
        other.createdAt < row.createdAt) ∨
    (DLQStore.pendingRows start).length ≤ 100 ∧
      ∀ row ∈ DLQStore.pendingRows start, succeeds row.id = false

/-- By age, and the leader before all others of its age. -/
def leads (leader : Nat) (first second : DLQEntry) : Prop :=
  first.createdAt < second.createdAt ∨
    first.createdAt = second.createdAt ∧
      (first.id = leader ∨ second.id ≠ leader)

instance (leader : Nat) : DecidableRel (leads leader) :=
  fun _ _ => inferInstanceAs (Decidable (_ ∨ _))

instance (leader : Nat) : Std.Total (leads leader) where
  total first second := by
    simp only [leads]
    omega

instance (leader : Nat) : IsTrans DLQEntry (leads leader) where
  trans first second third := by
    simp only [leads]
    omega

/-- The age order in which one entry leads its ties. -/
def leadOrder (leader : Nat) : DLQStore.AgeOrder where
  arrange rows := rows.insertionSort (leads leader)
  perm rows := List.perm_insertionSort (leads leader) rows
  byAge rows :=
    (List.pairwise_insertionSort (leads leader) rows).imp fun isLed => by
      simp only [leads] at isLed
      omega

section Covering

variable
  {parse : String → Option Json}
  {number : Text → Option JsNumber}
  {options : RabbitMQSink.Options}
  {attempt : Nat → Nat → Attempt}
  {order : Nat → DLQStore.AgeOrder}
  {succeeds : Nat → Bool}
  {start : List DLQEntry}
  {pending arranged : List (Nat × Int)}

/-- The database lists the keys by age. -/
theorem byAge_of_arrangedKeys
    (isArranged : ArrangedKeys order pending arranged) :
    PageDrain.ByAge Prod.snd pending arranged := by
  obtain ⟨i, rows, distinct, rfl, rfl⟩ := isArranged
  refine ⟨((order i).perm rows).map keyOf, ?_⟩
  rw [List.pairwise_map]
  exact (order i).byAge rows

/-- In the leader's order only older keys come before it. -/
theorem leadsTies_of_arrangedKeys
    {key : Nat × Int}
    (isArranged :
      ArrangedKeys (fun _ => leadOrder key.1) pending arranged)
    (member : key ∈ pending) :
    PageDrain.LeadsTies Prod.snd key arranged := by
  obtain ⟨_, rows, distinct, rfl, rfl⟩ := isArranged
  obtain ⟨row, rowMember, rfl⟩ := List.mem_map.mp member
  have perm := List.perm_insertionSort (leads row.id) rows
  obtain ⟨before, behind, split⟩ :=
    List.append_of_mem (perm.mem_iff.mpr rowMember)
  have sorted := List.pairwise_insertionSort (leads row.id) rows
  have distinctSorted :
      ((rows.insertionSort (leads row.id)).map DLQEntry.id).Nodup :=
    (perm.map DLQEntry.id).nodup_iff.mpr distinct
  rw [split] at sorted distinctSorted
  refine ⟨before.map keyOf, behind.map keyOf, ?_, ?_⟩
  · show (rows.insertionSort (leads row.id)).map keyOf = _
    rw [split, List.map_append, List.map_cons]
  · intro otherKey isBefore
    obtain ⟨other, otherBefore, rfl⟩ := List.mem_map.mp isBefore
    have isLed :=
      (List.pairwise_append.mp sorted).2.2 other otherBefore row
        List.mem_cons_self
    have otherId : other.id ≠ row.id := by
      intro same
      rw [List.map_append, List.nodup_append] at distinctSorted
      exact distinctSorted.2.2 other.id (List.mem_map_of_mem otherBefore)
        row.id (List.mem_map_of_mem List.mem_cons_self) same
    apply decide_eq_true
    simp only [leads, keyOf] at isLed ⊢
    omega

/-- Older keys are those of older rows. -/
theorem countP_older_pendingKeys (row : DLQEntry) :
    (pendingKeys start).countP (PageDrain.older Prod.snd (keyOf row)) =
      (DLQStore.pendingRows start).countP fun other =>
        other.createdAt < row.createdAt := by
  rw [pendingKeys, List.countP_map]
  rfl

/-- The keys of pending rows are distinct. -/
theorem nodup_pendingIds
    (distinct : (start.map DLQEntry.id).Nodup) :
    ((DLQStore.pendingRows start).map DLQEntry.id).Nodup :=
  distinct.sublist (List.filter_sublist.map DLQEntry.id)

/-- The ids of the pending keys are those of the pending rows. -/
theorem map_fst_pendingKeys :
    (pendingKeys start).map Prod.fst =
      (DLQStore.pendingRows start).map DLQEntry.id := by
  rw [pendingKeys, List.map_map]
  rfl

/-- The call is a drain of fifty rounds from what is pending. -/
theorem exists_drain
    (order : Nat → DLQStore.AgeOrder)
    (fixed :
      HasOutcomes parse number options attempt succeeds start)
    (distinct : (start.map DLQEntry.id).Nodup) :
    ∃ done final,
      retryAllPending parse number options attempt order start =
          some done ∧
        Drains (failsKey succeeds) 100 (ArrangedKeys order) 50
          ⟨[], pendingKeys start⟩ final ∧
        Tracks succeeds start done final := by
  have tracks :
      Tracks succeeds start
        { queue := start
          calls := []
          summary := { retried := 0, resolved := 0, failed := 0 } }
        ⟨[], pendingKeys start⟩ :=
    { distinct
      letters := fun row member => ⟨row, member, .refl row⟩
      calls := rfl
      pending := rfl
      retried := rfl
      resolved := rfl
      failed := rfl }
  exact tracks.retryBatches fixed 50 0

/-- A drain that attempts every key once covers the queue once. -/
theorem Tracks.coversOnce
    {done : Replaying}
    {final : Progress (Nat × Int)}
    (tracks : Tracks succeeds start done final)
    (attempted : final.attempts.Perm (pendingKeys start))
    (left : final.pending = (pendingKeys start).filter (failsKey succeeds)) :
    CoversOnce succeeds start done where
  attempted := by
    rw [tracks.calls, ← map_fst_pendingKeys]
    exact attempted.map Prod.fst
  left := by
    have keys := congrArg (List.map Prod.fst) (tracks.pending.trans left)
    rw [map_fst_pendingKeys] at keys
    rw [keys, ← map_fst_pendingKeys, List.filter_map]
    rfl
  resolved := by
    rw [tracks.resolved, attempted.countP_eq, pendingKeys, List.countP_map]
    refine List.countP_congr fun row _ => ?_
    simp [failsKey, keyOf]
  failed := by
    rw [tracks.failed, attempted.countP_eq, pendingKeys, List.countP_map]
    rfl
  retried := by
    have total :=
      @List.length_eq_countP_add_countP _
        (fun key => !failsKey succeeds key) final.attempts
    rw [tracks.retried, tracks.resolved, tracks.failed, total]
    congr 1
    refine List.countP_congr fun key _ => ?_
    simp

/-- The keys of pending rows are distinct in their ids. -/
theorem nodup_fst_pendingKeys
    (distinct : (start.map DLQEntry.id).Nodup) :
    ((pendingKeys start).map Prod.fst).Nodup := by
  rw [map_fst_pendingKeys]
  exact nodup_pendingIds distinct

/-- A call that covers the queue once has attempted every key once. -/
theorem Tracks.attempts_of_coversOnce
    {done : Replaying}
    {final : Progress (Nat × Int)}
    (distinct : (start.map DLQEntry.id).Nodup)
    (tracks : Tracks succeeds start done final)
    (drains :
      Drains (failsKey succeeds) 100 (ArrangedKeys order) 50
        ⟨[], pendingKeys start⟩ final)
    (covers : CoversOnce succeeds start done) :
    final.attempts.Nodup ∧
      ∀ key ∈ pendingKeys start, key ∈ final.attempts := by
  have distinctIds := nodup_fst_pendingKeys distinct
  have attemptedIds :
      (final.attempts.map Prod.fst).Perm
        ((pendingKeys start).map Prod.fst) := by
    rw [← tracks.calls, map_fst_pendingKeys]
    exact covers.attempted
  refine ⟨.of_map Prod.fst (attemptedIds.nodup_iff.mpr distinctIds), ?_⟩
  intro key member
  obtain ⟨other, attempted, sameId⟩ :=
    List.mem_map.mp (attemptedIds.mem_iff.mpr (List.mem_map_of_mem member))
  have onlyPending :=
    drains.attempted_pending
      (fun _ _ isArranged => (byAge_of_arrangedKeys isArranged).perm) other
      attempted
  rcases onlyPending with none | otherMember
  · cases none
  · rwa [← List.inj_on_of_nodup_map distinctIds otherMember member sameId]

/-- If every order covers the queue once, failing entries come last. -/
theorem drainsOnce_of_coversOnce
    (fixed :
      HasOutcomes parse number options attempt succeeds start)
    (distinct : (start.map DLQEntry.id).Nodup)
    (covers :
      ∀ order : Nat → DLQStore.AgeOrder,
        ∃ done,
          retryAllPending parse number options attempt order start =
              some done ∧
            CoversOnce succeeds start done) :
    DrainsOnce succeeds start := by
  by_contra notOnce
  obtain ⟨notLate, mixed⟩ := not_or.mp notOnce
  push Not at notLate
  obtain ⟨row, isPending, fails, fewOlder⟩ := notLate
  -- the failing entry is put before all others of its age
  obtain ⟨done, run, covered⟩ := covers fun _ => leadOrder row.id
  obtain ⟨ended, final, runs, drains, tracks⟩ :=
    exists_drain (fun _ => leadOrder row.id) fixed distinct
  cases run.symm.trans runs
  obtain ⟨once, attempted⟩ :=
    tracks.attempts_of_coversOnce distinct drains covered
  have notAllFail :
      ¬ ((pendingKeys start).length ≤ 100 ∧
        ∀ key ∈ pendingKeys start, failsKey succeeds key = true) := by
    rintro ⟨short, allFail⟩
    refine mixed ⟨(List.length_map keyOf).symm.trans_le short, ?_⟩
    intro other otherPending
    simpa [failsKey, keyOf] using
      allFail (keyOf other) (List.mem_map_of_mem otherPending)
  have manyOlder :
      100 * 49 ≤
        (pendingKeys start).countP
          (PageDrain.freshOlder Prod.snd (keyOf row) []) :=
    drains.countP_freshOlder
      (fun _ _ isArranged isMember =>
        ⟨(byAge_of_arrangedKeys isArranged).perm,
          (byAge_of_arrangedKeys isArranged).sorted,
          leadsTies_of_arrangedKeys isArranged isMember⟩)
      (by simp [failsKey, keyOf, fails])
      (List.mem_map_of_mem isPending) List.not_mem_nil
      (.of_map Prod.fst (nodup_fst_pendingKeys distinct)) once attempted
      (.inr ⟨rfl, notAllFail⟩)
  have sameOlder :
      (pendingKeys start).countP
          (PageDrain.freshOlder Prod.snd (keyOf row) []) =
        (pendingKeys start).countP (PageDrain.older Prod.snd (keyOf row)) := by
    refine List.countP_congr fun key _ => ?_
    simp [PageDrain.freshOlder]
  rw [sameOlder, countP_older_pendingKeys] at manyOlder
  omega

/-- If failing entries come last, or fill one page, the queue is covered once. -/
theorem coversOnce_of_drainsOnce
    (fixed :
      HasOutcomes parse number options attempt succeeds start)
    (distinct : (start.map DLQEntry.id).Nodup)
    (few : (DLQStore.pendingRows start).length ≤ 5000)
    (once : DrainsOnce succeeds start)
    (order : Nat → DLQStore.AgeOrder) :
    ∃ done,
      retryAllPending parse number options attempt order start = some done ∧
        CoversOnce succeeds start done := by
  obtain ⟨done, final, run, drains, tracks⟩ :=
    exists_drain order fixed distinct
  have lengthKeys :
      (pendingKeys start).length = (DLQStore.pendingRows start).length :=
    List.length_map _
  refine ⟨done, run, ?_⟩
  rcases once with late | ⟨short, allFail⟩
  · obtain ⟨attempted, perm, attempts, left⟩ :=
      drains.covers
        (fun _ _ isArranged => byAge_of_arrangedKeys isArranged)
        (.of_map Prod.fst (nodup_fst_pendingKeys distinct))
        (lengthKeys.trans_le few) (by
          intro key member fails
          obtain ⟨row, isPending, rfl⟩ := List.mem_map.mp member
          rw [countP_older_pendingKeys]
          exact late row isPending (by simpa [failsKey, keyOf] using fails))
    refine tracks.coversOnce ?_ left
    rw [attempts, List.nil_append]
    exact perm
  · obtain ⟨attempted, left⟩ :=
      drains.covers_of_short
        (fun _ _ isArranged => (byAge_of_arrangedKeys isArranged).perm) rfl
        (lengthKeys.trans_le short) (by
          intro key member
          obtain ⟨row, isPending, rfl⟩ := List.mem_map.mp member
          simp [failsKey, keyOf, allFail row isPending])
    exact tracks.coversOnce attempted left

/--
With at most 5000 pending entries of fixed outcomes, every call covers the queue
once, however ties in age are broken, exactly if the failing entries come last or
fill a single page.
-/
theorem coversOnce_iff_drainsOnce
    (fixed :
      HasOutcomes parse number options attempt succeeds start)
    (distinct : (start.map DLQEntry.id).Nodup)
    (few : (DLQStore.pendingRows start).length ≤ 5000) :
    (∀ order : Nat → DLQStore.AgeOrder,
        ∃ done,
          retryAllPending parse number options attempt order start =
              some done ∧
            CoversOnce succeeds start done) ↔
      DrainsOnce succeeds start :=
  ⟨drainsOnce_of_coversOnce fixed distinct,
    coversOnce_of_drainsOnce fixed distinct few⟩

end Covering

/-- A pending entry with an empty payload. -/
def sampleLetter (id : Nat) (sinkTarget : SinkTarget) : DLQEntry where
  id
  recordId := some id
  recordUuid := none
  sinkTarget
  payload := .obj []
  errorCode := "TIMEOUT"
  errorMessage := "timeout"
  stackTrace := none
  retryCount := 0
  status := .pending
  createdAt := id
  lastRetriedAt := none

/-- One entry for each sink. -/
def sampleQueue : List DLQEntry :=
  [sampleLetter 1 .elasticsearch, sampleLetter 2 .rabbitmq]

/-- A retry while Elasticsearch is down and RabbitMQ confirms. -/
def downAttempt : Attempt where
  lookupRejects := false
  now := 9
  randomUuid := "77aa"
  randomUuid_ne := sampleUuid_ne
  bulkNow := 9
  bulkAnswer := .error "connect ECONNREFUSED"
  typeError := ""
  hasChannel := true
  channelAnswers := [.published "e1" 9 true, .confirmed]
  queueNow := 9
  tryAnswer := .done
  catchAnswer := .done

/-- The entry of RabbitMQ succeeds. -/
def sampleSucceeds (id : Nat) : Bool :=
  id == 2

/-- What is found under the number after an update. -/
theorem found_of_updated
    {queue updated : List DLQEntry}
    {row after : DLQEntry}
    {dlqId : Nat}
    (change : DLQEntry → DLQEntry)
    (keeps : ∀ row, (change row).id = row.id)
    (found : DLQStore.getEntryById queue dlqId = some row)
    (isUpdated : updated = DLQStore.updateEntry dlqId change queue)
    (foundAfter : DLQStore.getEntryById updated dlqId = some after) :
    after = change row := by
  rw [isUpdated, DLQStore.getEntryById_updateEntry_self keeps found]
    at foundAfter
  exact (Option.some.inj foundAfter).symm

/-- All retries have these outcomes. -/
theorem hasOutcomes_sampleQueue :
    HasOutcomes (fun _ => none) (fun _ => none) {} (fun _ _ => downAttempt)
      sampleSucceeds sampleQueue := by
  intro calls queue row inserted member letter status found
  have isRow := letter
  rw [DLQEntry.SameLetter, status] at isRow
  have isSample :
      inserted = sampleLetter 1 .elasticsearch ∨
        inserted = sampleLetter 2 .rabbitmq := by
    simpa [sampleQueue, sampleLetter, DLQStore.pendingRows] using member
  generalize row.retryCount = retryCount, row.lastRetriedAt = retriedAt
    at isRow
  subst isRow
  rcases isSample with rfl | rfl
  · have outcome :=
      @retryEntry_of_reconstruct (fun _ => none) (fun _ => none) {}
        downAttempt queue 1 _ _ rfl found (by simp) rfl
    refine ⟨⟨Json.str "connect ECONNREFUSED", ?_⟩, fun after foundAfter => ?_⟩
    · exact congrArg Outcome.settled outcome
    · have counted :=
        found_of_updated (DLQEntry.failedRetry 9) (fun _ => rfl)
          found (congrArg Outcome.queue outcome) foundAfter
      rw [counted]
      rfl
  · have outcome :=
      @retryEntry_of_reconstruct (fun _ => none) (fun _ => none) {}
        downAttempt queue 2 _ _ rfl found (by simp) rfl
    refine ⟨⟨none, ?_⟩, fun after foundAfter => ?_⟩
    · exact congrArg Outcome.settled outcome
    · have marked :=
        found_of_updated (DLQEntry.marked 9 .resolved) (fun _ => rfl)
          found (congrArg Outcome.queue outcome) foundAfter
      rw [marked]
      rfl

/-- For one failing and one succeeding entry the condition decides. -/
theorem sampleQueue_coversOnce_iff :
    (∀ order : Nat → DLQStore.AgeOrder,
        ∃ done,
          retryAllPending (fun _ => none) (fun _ => none) {}
                (fun _ _ => downAttempt) order sampleQueue =
              some done ∧
            CoversOnce sampleSucceeds sampleQueue done) ↔
      DrainsOnce sampleSucceeds sampleQueue :=
  coversOnce_iff_drainsOnce hasOutcomes_sampleQueue (by decide) (by decide)

/-- The failing entry of those two is retried in each of the fifty rounds. -/
theorem sampleQueue_retries_again :
    HasOutcomes (fun _ => none) (fun _ => none) {} (fun _ _ => downAttempt)
        sampleSucceeds sampleQueue ∧
      (retryAllPending (fun _ => none) (fun _ => none) {}
            (fun _ _ => downAttempt) (fun _ => leadOrder 0) sampleQueue).map
          Replaying.summary =
        some { retried := 51, resolved := 1, failed := 50 } ∧
      ¬ ∃ done,
          retryAllPending (fun _ => none) (fun _ => none) {}
                (fun _ _ => downAttempt) (fun _ => leadOrder 0) sampleQueue =
              some done ∧
            CoversOnce sampleSucceeds sampleQueue done := by
  have summary :
      (retryAllPending (fun _ => none) (fun _ => none) {}
            (fun _ _ => downAttempt) (fun _ => leadOrder 0) sampleQueue).map
          Replaying.summary =
        some { retried := 51, resolved := 1, failed := 50 } := by
    decide +kernel
  refine ⟨hasOutcomes_sampleQueue, summary, ?_⟩
  rintro ⟨done, run, covers⟩
  rw [run] at summary
  have failed := covers.failed
  rw [Option.some.inj summary] at failed
  revert failed
  decide

end DLQReplayer

end Replication
