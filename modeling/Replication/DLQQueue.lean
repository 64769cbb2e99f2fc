import Replication.DLQReplayer

namespace Replication

/-!
# The dead-letter queue between replays

The queries of `DLQStore` as functions on the rows of `dead_letter_queue`.  The
two updates touch the bookkeeping columns of one row, so the letter itself stays
what `persistFailures` inserted.  `ORDER BY created_at` leaves the order of rows
of one instant to the database, also between two fetches.
-/

namespace DLQEntry

/-- The bookkeeping columns apart, this is the row that was inserted. -/
def SameLetter (later inserted : DLQEntry) : Prop :=
  later =
    { inserted with
      retryCount := later.retryCount
      status := later.status
      lastRetriedAt := later.lastRetriedAt }

/-- What `markStatus` writes into a row. -/
def marked
    (now : Int)
    (status : DLQStatus)
    (row : DLQEntry) : DLQEntry :=
  { row with status, lastRetriedAt := some now }

/-- What `recordRetryFailure` writes into a row. -/
def failedRetry (now : Int) (row : DLQEntry) : DLQEntry :=
  { row with
    retryCount := row.retryCount + 1
    lastRetriedAt := some now }

namespace SameLetter

variable {later middle inserted : DLQEntry}

/-- A row is its own letter. -/
theorem refl (row : DLQEntry) : row.SameLetter row := rfl

/-- The letter is kept from one row to the next. -/
theorem trans
    (first : later.SameLetter middle)
    (second : middle.SameLetter inserted) :
    later.SameLetter inserted := by
  unfold SameLetter at *
  rw [first, second]

/-- The row keeps its number. -/
theorem id (same : later.SameLetter inserted) : later.id = inserted.id := by
  rw [same]

/-- The row keeps its place in the age order. -/
theorem createdAt
    (same : later.SameLetter inserted) :
    later.createdAt = inserted.createdAt := by
  rw [same]

/-- The row is for the same sinks. -/
theorem sinkTarget
    (same : later.SameLetter inserted) :
    later.sinkTarget = inserted.sinkTarget := by
  rw [same]

/-- `markStatus` keeps the letter. -/
theorem marked
    (now : Int)
    (status : DLQStatus)
    (row : DLQEntry) :
    (row.marked now status).SameLetter row := rfl

/-- `recordRetryFailure` keeps the letter. -/
theorem failedRetry
    (now : Int)
    (row : DLQEntry) :
    (row.failedRetry now).SameLetter row := rfl

end SameLetter

end DLQEntry

namespace DLQStore

/-- `SELECT ... WHERE id = $1`; the payload is read by `reconstruct`. -/
def getEntryById
    (queue : List DLQEntry)
    (dlqId : Nat) : Option DLQEntry :=
  queue.find? fun row => row.id = dlqId

/-- `UPDATE dead_letter_queue SET ... WHERE id = ...`. -/
def updateEntry
    (dlqId : Nat)
    (change : DLQEntry → DLQEntry)
    (queue : List DLQEntry) : List DLQEntry :=
  queue.map fun row => if row.id = dlqId then change row else row

/-- `UPDATE dead_letter_queue SET status`. -/
def markStatus
    (now : Int)
    (dlqId : Nat)
    (status : DLQStatus)
    (queue : List DLQEntry) : List DLQEntry :=
  updateEntry dlqId (DLQEntry.marked now status) queue

/-- `UPDATE dead_letter_queue SET retry_count = retry_count + 1`. -/
def recordRetryFailure
    (now : Int)
    (dlqId : Nat)
    (queue : List DLQEntry) : List DLQEntry :=
  updateEntry dlqId (DLQEntry.failedRetry now) queue

/-- `WHERE status = 'PENDING'`. -/
def pendingRows (queue : List DLQEntry) : List DLQEntry :=
  queue.filter fun row => row.status = .pending

/-- An order in which the database may return rows `ORDER BY created_at ASC`. -/
structure AgeOrder where
  arrange : List DLQEntry → List DLQEntry
  perm : ∀ rows, (arrange rows).Perm rows
  byAge :
    ∀ rows,
      (arrange rows).Pairwise fun first second =>
        first.createdAt ≤ second.createdAt

/-- `getPendingEntries`: the oldest pending rows. -/
def getPendingEntries
    (order : AgeOrder)
    (limit : Nat)
    (queue : List DLQEntry) : List DLQEntry :=
  (order.arrange (pendingRows queue)).take limit

section Updates

variable
  {queue : List DLQEntry}
  {row : DLQEntry}
  {dlqId : Nat}
  {change : DLQEntry → DLQEntry}

/-- What is found has the number that was asked for. -/
theorem getEntryById_spec
    (found : getEntryById queue dlqId = some row) :
    row ∈ queue ∧ row.id = dlqId :=
  ⟨List.mem_of_find?_eq_some found, by
    simpa using List.find?_some found⟩

/-- Under a primary key every row is found by its number. -/
theorem getEntryById_of_mem
    (distinct : (queue.map DLQEntry.id).Nodup)
    (member : row ∈ queue) :
    getEntryById queue row.id = some row := by
  induction queue with
  | nil => cases member
  | cons head rest inductionHypothesis =>
      obtain ⟨fresh, distinctRest⟩ := List.nodup_cons.mp distinct
      rcases List.mem_cons.mp member with rfl | inRest
      · simp [getEntryById]
      · have other : head.id ≠ row.id := fun same =>
          fresh (same ▸ List.mem_map_of_mem inRest)
        simpa [getEntryById, other] using
          inductionHypothesis distinctRest inRest

/-- An update keeps the primary keys. -/
theorem updateEntry_ids
    (keeps : ∀ row, (change row).id = row.id) :
    (updateEntry dlqId change queue).map DLQEntry.id =
      queue.map DLQEntry.id := by
  induction queue with
  | nil => rfl
  | cons head rest inductionHypothesis =>
      simp only [updateEntry, List.map_cons] at inductionHypothesis ⊢
      rw [inductionHypothesis]
      split
      · rw [keeps]
      · rfl

/-- The row of that number is the changed one, all others are untouched. -/
theorem getEntryById_updateEntry
    (keeps : ∀ row, (change row).id = row.id)
    (other : Nat) :
    getEntryById (updateEntry dlqId change queue) other =
      (getEntryById queue other).map fun row =>
        if row.id = dlqId then change row else row := by
  induction queue with
  | nil => rfl
  | cons head rest inductionHypothesis =>
      have sameId :
          (if head.id = dlqId then change head else head).id = head.id := by
        split
        · exact keeps head
        · rfl
      simp only [getEntryById, updateEntry, List.map_cons,
        List.find?_cons] at inductionHypothesis ⊢
      rw [sameId]
      split
      · rfl
      · exact inductionHypothesis

/-- The row itself is the changed one. -/
theorem getEntryById_updateEntry_self
    (keeps : ∀ row, (change row).id = row.id)
    (found : getEntryById queue dlqId = some row) :
    getEntryById (updateEntry dlqId change queue) dlqId =
      some (change row) := by
  rw [getEntryById_updateEntry keeps, found, Option.map_some,
    if_pos (getEntryById_spec found).2]

/-- Updates of one row compose. -/
theorem updateEntry_updateEntry
    {later : DLQEntry → DLQEntry}
    (keeps : ∀ row, (change row).id = row.id) :
    updateEntry dlqId later (updateEntry dlqId change queue) =
      updateEntry dlqId (fun row => later (change row)) queue := by
  simp only [updateEntry, List.map_map]
  refine List.map_congr_left fun row _ => ?_
  by_cases same : row.id = dlqId
  · simp [same, keeps]
  · simp [same]

/-- An update that changes nothing. -/
theorem updateEntry_id :
    updateEntry dlqId (fun row => row) queue = queue := by
  simp [updateEntry]

end Updates

end DLQStore

end Replication
