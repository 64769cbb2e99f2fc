import Replication.ZeroLoss
import Mathlib

namespace Replication.BackfillRunner

/-!
# A backfill under outages

A backfill is started once, on a fixed table, and its sinks reject some of its
dispatches.  Nothing is paused, killed, or rejected by the database; a fetch
throws if a row it has selected has a timestamp that is no date.  Every such run
ends, and it ends COMPLETED exactly when no fetch throws and none of the
dispatches it needs is rejected: the runner retries neither.
-/

/-- Which dispatches, counted from zero, a sink rejects. -/
abbrev Outage := Sink → Nat → Bool

/-- The sink rejects this dispatch, or reports all its records successful. -/
def Answers
    (outage : Outage)
    (number : Nat)
    (sink : Sink)
    (records : List SourceRecord) : Option SinkResult → Prop
  | none => outage sink number = true
  | some result =>
      outage sink number = false ∧ result.failures.isEmpty = true ∧
        ∀ record ∈ records, record.id ∈ result.successfulIds

instance
    (outage : Outage)
    (number : Nat)
    (sink : Sink)
    (records : List SourceRecord) :
    DecidablePred (Answers outage number sink records)
  | none => inferInstanceAs (Decidable (_ = _))
  | some _ => inferInstanceAs (Decidable (_ ∧ _ ∧ _))

/-- The rows that a fetch selects have timestamps that are dates. -/
def DatedBatch
    (batchSize : Nat)
    (table : List SourceRow)
    (cursor : Nat) : Prop :=
  ∀ row ∈ Keyset.page SourceRow.id cursor (fetchLimit batchSize) table,
    row.dated

instance (batchSize : Nat) (table : List SourceRow) :
    DecidablePred (DatedBatch batchSize table) :=
  fun _ => inferInstanceAs (Decidable (∀ row ∈ _, _))

/-- The statement that a call awaits is answered, and its rows are mapped. -/
def Maps (batchSize : Nat) (table : List SourceRow) : Call Nat → Prop
  | .fetchBatch cursor .pending => DatedBatch batchSize table cursor
  | _ => True

instance (batchSize : Nat) (table : List SourceRow) :
    DecidablePred (Maps batchSize table)
  | .fetchBatch cursor .pending =>
      inferInstanceAs (Decidable (DatedBatch batchSize table cursor))
  | .fetchBatch _ (.fulfilled _) => isTrue trivial
  | .fetchBatch _ .rejected => isTrue trivial
  | .getCheckpoint _ => isTrue trivial
  | .updateStatus _ _ => isTrue trivial
  | .getIncrementalLag _ _ => isTrue trivial
  | .dispatch _ _ _ => isTrue trivial
  | .persistFailures _ _ _ _ => isTrue trivial
  | .commitCheckpoint _ _ _ => isTrue trivial
  | .sleep => isTrue trivial
  | .orphan _ _ _ => isTrue trivial
  | .returned => isTrue trivial

/-- A sink answers as the outage says, and only a fetch that throws is rejected. -/
def Admits
    (batchSize : Nat)
    (outage : Outage)
    (table : List SourceRow)
    (number : Nat)
    (call : Call Nat) : Act → Prop
  | .serve _ => Maps batchSize table call
  | .reject => ¬ Maps batchSize table call
  | .settle sink outcome =>
      Answers outage number sink (RunnerProgram.batchOf call) outcome
  | _ => True

instance
    (batchSize : Nat)
    (outage : Outage)
    (table : List SourceRow)
    (number : Nat)
    (call : Call Nat) :
    DecidablePred (Admits batchSize outage table number call)
  | .serve _ => inferInstanceAs (Decidable (Maps batchSize table call))
  | .reject => inferInstanceAs (Decidable (¬ Maps batchSize table call))
  | .settle sink outcome =>
      inferInstanceAs
        (Decidable
          (Answers outage number sink (RunnerProgram.batchOf call) outcome))
  | .begin _ => isTrue trivial
  | .turn _ => isTrue trivial

/-- Every call meets what the outage and the table admit, and nothing else. -/
def UnderOutage
    (batchSize : Nat)
    (outage : Outage)
    (world : World) : RunnerProgram.Event → Prop
  | .act index action =>
      ∀ call ∈ world.tasks[index]?,
        Admits batchSize outage world.context
          (world.shared.history.dispatched.length - 1) call action
  | .env _ => False
  | .change _ => False

instance (batchSize : Nat) (outage : Outage) (world : World) :
    DecidablePred (UnderOutage batchSize outage world)
  | .act index _ =>
      inferInstanceAs (Decidable (∀ call ∈ world.tasks[index]?, _))
  | .env _ => isFalse id
  | .change _ => isFalse id

/-- The largest id of the table, zero if it is empty. -/
def largestId (table : List SourceRow) : Nat :=
  (table.map SourceRow.id).foldr max 0

/-- The run has ended as a completed backfill of the whole table. -/
structure Healed (table : List SourceRow) (world : World) : Prop where
  status : world.shared.memory.status = .completed
  stored :
    world.shared.checkpoint.map ReplicationCheckpoint.status =
      some .completed
  watermark :
    codec.persisted world.shared.checkpoint = largestId table
  successful :
    ∀ row ∈ table, ∀ sink, world.shared.history.Successful sink row.id

/-- Runs under the outage are bounded, and each one that ends has healed. -/
structure SelfHeals
    (parse : String → Option Json)
    (batchSize : Nat)
    (table : List SourceRow)
    (checkpoint : Option ReplicationCheckpoint)
    (outage : Outage) : Prop where
  ends :
    ∃ bound, ∀ events reached,
      Run (program parse batchSize).machine.step (UnderOutage batchSize outage)
        ((program parse batchSize).launched table checkpoint)
        events reached →
      events.length ≤ bound
  healed :
    ∀ events reached,
      Run (program parse batchSize).machine.step (UnderOutage batchSize outage)
        ((program parse batchSize).launched table checkpoint)
        events reached →
      Stuck (program parse batchSize).machine.step (UnderOutage batchSize outage)
        reached →
      Healed table reached

/-- How many rows are above the cursor. -/
def rowsLeft (table : List SourceRow) (cursor : Nat) : Nat :=
  (Keyset.rowsAbove SourceRow.id cursor table).length

section Fetches

variable
  {parse : String → Option Json}
  {batchSize : Nat}
  {table : List SourceRow}
  {cursor : Nat}

/-- A fetch takes as many rows as are left, up to the batch size. -/
theorem length_fetch :
    ((program parse batchSize).fetch table cursor).length =
      min (fetchLimit batchSize) (rowsLeft table cursor) := by
  simp only [program, SourceReader.fetchBackfillBatch, List.length_map]
  exact Keyset.length_page

/-- Something is fetched as long as rows are left. -/
theorem rowsLeft_pos_iff :
    0 < rowsLeft table cursor ↔
      (program parse batchSize).fetch table cursor ≠ [] := by
  have room : 1 ≤ fetchLimit batchSize := fetchLimit_pos _
  rw [← List.length_pos_iff, length_fetch]
  omega

/-- With no rows left, the cursor is behind all of them. -/
theorem le_of_rowsLeft
    (none : rowsLeft table cursor = 0) :
    ∀ row ∈ table, row.id ≤ cursor := by
  intro row member
  have notAbove := List.filter_eq_nil_iff.mp
    (List.eq_nil_of_length_eq_zero none) row member
  exact Nat.le_of_not_lt fun above => notAbove (decide_eq_true above)

/-- After a committed fetch, a batch fewer rows are left. -/
theorem rowsLeft_last
    (unique : (table.map SourceRow.id).Nodup)
    {last : SourceRecord}
    (isLast :
      ((program parse batchSize).fetch table cursor).getLast? =
        some last) :
    rowsLeft table (codec.ofRecord last) =
      rowsLeft table cursor - fetchLimit batchSize := by
  obtain ⟨row, rowLast, sameKey⟩ := codec.ofRecord_getLast?_map isLast
  rw [← sameKey]
  exact Keyset.length_rowsAbove_last unique rowLast

end Fetches

section Stages

variable
  (parse : String → Option Json)
  (batchSize : Nat)
  (table : List SourceRow)
  (outage : Outage)

/-- That many batches have been accepted, and the cursor is behind them. -/
structure Progress (cursor count : Nat) : Prop where
  dated : ∀ row ∈ table, row.id ≤ cursor → row.dated
  left :
    rowsLeft table cursor = table.length - count * fetchLimit batchSize
  accepted : ∀ number < count, ∀ sink, outage sink number = false

/-- No fetch throws, and no dispatch that the table needs is rejected. -/
structure Unbroken : Prop where
  dated : ∀ row ∈ table, row.dated
  accepted :
    ∀ number, number * fetchLimit batchSize < table.length →
      ∀ sink, outage sink number = false

/-- The checkpoint row exists and holds that id. -/
def Stored (state : RunnerState Nat Gauges) (cursor : Nat) : Prop :=
  ∃ checkpoint,
    state.checkpoint = some checkpoint ∧
      checkpoint.lastProcessedId = cursor

/-- What the outage says about a settled sink call. -/
def Heard (sink : Sink) (count : Nat) (call : SinkCall) : Prop :=
  (call = .rejected → outage sink count = true) ∧
    ∀ result, call = .fulfilled result →
      outage sink count = false ∧ result.failures = []

/-- Where the single loop is, and what it has achieved. -/
def Stage (state : RunnerState Nat Gauges) : Call Nat → Prop
  | .getCheckpoint answer =>
      state.history.dispatched = [] ∧
        (answer = .pending ∧ codec.persisted state.checkpoint = 0 ∨
          ∃ checkpoint,
            answer = .fulfilled checkpoint ∧
              state.checkpoint = some checkpoint ∧
              checkpoint.lastProcessedId = 0)
  | .updateStatus .running answer =>
      answer ≠ .rejected ∧ state.history.dispatched = [] ∧
        state.memory.cursor = 0 ∧ Stored state 0
  | .fetchBatch cursor answer =>
      (answer = .pending ∨
          answer =
              .fulfilled ((program parse batchSize).fetch table cursor) ∧
            DatedBatch batchSize table cursor ∨
          answer = .rejected ∧ ¬ DatedBatch batchSize table cursor) ∧
        state.memory.cursor = cursor ∧ Stored state cursor ∧
        Progress batchSize table outage cursor
          state.history.dispatched.length
  | .dispatch records esCall rmqCall =>
      (records =
            (program parse batchSize).fetch table state.memory.cursor ∧
          DatedBatch batchSize table state.memory.cursor) ∧
        records ≠ [] ∧ Stored state state.memory.cursor ∧
        ∃ count,
          state.history.dispatched.length = count + 1 ∧
            Progress batchSize table outage state.memory.cursor count ∧
            Heard outage .elasticsearch count esCall ∧
            Heard outage .rabbitmq count rmqCall
  | .commitCheckpoint _ data answer =>
      rowsLeft table (codec.ofCommit data) <
          rowsLeft table state.memory.cursor ∧
        Progress batchSize table outage (codec.ofCommit data)
          state.history.dispatched.length ∧
        (answer = .pending ∧ (∃ cursor, Stored state cursor) ∨
          answer = .fulfilled () ∧ Stored state (codec.ofCommit data))
  | .updateStatus .completed answer =>
      answer ≠ .rejected ∧ state.memory.status = .completed ∧
        Unbroken batchSize table outage ∧
        (∃ cursor, Stored state cursor ∧ rowsLeft table cursor = 0) ∧
        (answer = .fulfilled () →
          state.checkpoint.map ReplicationCheckpoint.status =
            some .completed)
  | .updateStatus .failed answer =>
      answer ≠ .rejected ∧ state.memory.status = .failed ∧
        ¬ Unbroken batchSize table outage
  | .returned =>
      (state.memory.status = .completed ∧
          Unbroken batchSize table outage ∧
          (∃ cursor, Stored state cursor ∧ rowsLeft table cursor = 0) ∧
          state.checkpoint.map ReplicationCheckpoint.status =
            some .completed) ∨
        state.memory.status = .failed ∧ ¬ Unbroken batchSize table outage
  | _ => False

end Stages

section Weights

/-- Steps a sink call can still take. -/
def callWeight : SinkCall → Nat
  | .waiting => 2
  | .started => 1
  | _ => 0

/-- A bound on the steps a call can still take with the cursor there. -/
def weight (table : List SourceRow) (cursor : Nat) : Call Nat → Nat
  | .getCheckpoint .pending => 10 * table.length + 8
  | .getCheckpoint _ => 10 * table.length + 7
  | .updateStatus .running .pending => 10 * table.length + 6
  | .updateStatus .running _ => 10 * table.length + 5
  | .fetchBatch _ .pending => 10 * rowsLeft table cursor + 4
  | .fetchBatch _ _ => 10 * rowsLeft table cursor + 3
  | .dispatch _ esCall rmqCall =>
      10 * rowsLeft table cursor - 2 + callWeight esCall +
        callWeight rmqCall
  | .commitCheckpoint _ _ .pending => 10 * rowsLeft table cursor - 3
  | .commitCheckpoint _ _ _ => 10 * rowsLeft table cursor - 4
  | .updateStatus _ .pending => 2
  | .updateStatus _ _ => 1
  | .orphan _ _ call => callWeight call
  | _ => 0

/-- The weights of all suspended calls. -/
def totalWeight
    (table : List SourceRow)
    (cursor : Nat)
    (calls : List (Call Nat)) : Nat :=
  (calls.map (weight table cursor)).sum

/-- A sink call left behind by a rejected dispatch. -/
def IsOrphan : Call Nat → Prop
  | .orphan _ _ _ => True
  | _ => False

/-- Settling lowers the weight of a sink call. -/
theorem callWeight_settles
    {outcome : Option SinkResult}
    {call next : SinkCall}
    (settled : call.Settles outcome next) :
    callWeight next < callWeight call := by
  cases settled with
  | fulfilled result => exact Nat.zero_lt_one
  | rejected outstanding =>
      rcases outstanding with rfl | rfl <;> decide

/-- What a rejected dispatch leaves behind is no heavier than it was. -/
theorem totalWeight_leftBehind_le
    (table : List SourceRow)
    (cursor : Nat)
    (records : List SourceRecord)
    (esCall rmqCall : SinkCall) :
    totalWeight table cursor (leftBehind records esCall rmqCall) ≤
      callWeight esCall + callWeight rmqCall := by
  simp only [totalWeight, leftBehind, List.map_append, List.sum_append]
  refine Nat.add_le_add ?_ ?_ <;> split <;> simp [weight]

/-- What a rejected dispatch leaves behind are orphans. -/
theorem isOrphan_of_mem_leftBehind
    {records : List SourceRecord}
    {esCall rmqCall : SinkCall}
    {new : Call Nat}
    (member : new ∈ leftBehind records esCall rmqCall) :
    IsOrphan new := by
  rcases mem_leftBehind member with ⟨rfl, _⟩ | ⟨rfl, _⟩
  · trivial
  · trivial

/-- Orphans weigh the same wherever the cursor is. -/
theorem totalWeight_orphans
    {table : List SourceRow}
    {cursor other : Nat}
    {orphans : List (Call Nat)}
    (all : ∀ call ∈ orphans, IsOrphan call) :
    totalWeight table cursor orphans = totalWeight table other orphans := by
  unfold totalWeight
  congr 1
  apply List.map_congr_left
  intro call member
  have isOrphan := all call member
  cases call with
  | orphan sink records call => rfl
  | _ => exact isOrphan.elim

end Weights

section Steps

variable
  {parse : String → Option Json}
  {batchSize : Nat}
  {table : List SourceRow}
  {outage : Outage}
  {state after : RunnerState Nat Gauges}
  {call next : Call Nat}
  {spawned : List (Call Nat)}

/-- A step of the loop reaches the next stage and lowers the weight. -/
structure Advances
    (parse : String → Option Json)
    (batchSize : Nat)
    (table : List SourceRow)
    (outage : Outage)
    (state after : RunnerState Nat Gauges)
    (call next : Call Nat)
    (spawned : List (Call Nat)) : Prop where
  stage : Stage parse batchSize table outage after next
  go : after.memory.stopRequested = false
  queue : after.deadLetterQueue = state.deadLetterQueue
  orphans : ∀ new ∈ spawned, IsOrphan new
  lowers :
    weight table after.memory.cursor next +
        totalWeight table after.memory.cursor spawned <
      weight table state.memory.cursor call

/-- The loop has reached a stage of less weight, and nothing was spawned. -/
theorem Advances.of_stage
    (reached : Stage parse batchSize table outage after next)
    (go : after.memory.stopRequested = false)
    (queue : after.deadLetterQueue = state.deadLetterQueue)
    (lower :
      weight table after.memory.cursor next <
        weight table state.memory.cursor call) :
    Advances parse batchSize table outage state after call next [] where
  stage := reached
  go := go
  queue := queue
  orphans := List.forall_mem_nil _
  lowers := lower

/-- A status update keeps the stored id. -/
theorem Stored.updateStatus
    {cursor : Nat}
    (stored : Stored state cursor)
    (status : PipelineStatus) :
    Stored
      { state with
        checkpoint :=
          CheckpointManager.updateStatus status state.checkpoint }
      cursor := by
  obtain ⟨checkpoint, isRow, sameId⟩ := stored
  exact ⟨{ checkpoint with status }, by simp only [isRow]; rfl, sameId⟩

/-- A commit stores its id. -/
theorem Stored.commit
    {cursor : Nat}
    (stored : Stored state cursor)
    (data : CheckpointCommitData) :
    Stored
      { state with
        checkpoint :=
          CheckpointManager.commitCheckpoint data state.checkpoint }
      (codec.ofCommit data) := by
  obtain ⟨checkpoint, isRow, _⟩ := stored
  exact ⟨_, by simp only [isRow]; rfl, rfl⟩

/-- The database executes what the loop awaits. -/
theorem advances_of_served
    (stage : Stage parse batchSize table outage state call)
    (go : state.memory.stopRequested = false)
    (maps : Maps batchSize table call)
    {now : Int}
    (served :
      Served (program parse batchSize) table now state call after next) :
    Advances parse batchSize table outage state after call next [] := by
  cases served with
  | checkpoint =>
      obtain ⟨fresh, ⟨_, fromZero⟩ | ⟨_, answered, _⟩⟩ := stage
      · exact .of_stage ⟨fresh, .inr ⟨_, rfl, rfl, fromZero⟩⟩ go rfl
          (by simp [weight])
      · cases answered
  | status status =>
      cases status with
      | running =>
          obtain ⟨_, fresh, atZero, stored⟩ := stage
          exact .of_stage ⟨nofun, fresh, atZero, stored.updateStatus _⟩ go rfl
            (by simp [weight])
      | completed =>
          obtain ⟨_, completed, unbroken, ⟨cursor, stored, none⟩, _⟩ := stage
          refine .of_stage ⟨nofun, completed, unbroken,
            ⟨cursor, stored.updateStatus _, none⟩, fun _ => ?_⟩ go rfl
            (by simp [weight])
          obtain ⟨checkpoint, isRow, _⟩ := stored
          simp only [isRow]
          rfl
      | failed =>
          obtain ⟨_, failed, broken⟩ := stage
          exact .of_stage ⟨nofun, failed, broken⟩ go rfl (by simp [weight])
      | initialized => exact stage.elim
      | paused => exact stage.elim
  | lag cursor => exact stage.elim
  | fetch cursor =>
      obtain ⟨_, rest⟩ := stage
      exact .of_stage ⟨.inr (.inl ⟨rfl, maps⟩), rest⟩ go rfl
        (by simp [weight])
  | persisted => exact stage.elim
  | notPersisted => exact stage.elim
  | committed records data =>
      obtain ⟨lower, progress, ⟨_, _, stored⟩ | ⟨answered, _⟩⟩ := stage
      · refine .of_stage ⟨lower, progress, .inr ⟨rfl, stored.commit data⟩⟩ go
          rfl ?_
        simp only [weight]
        omega
      · cases answered

/-- A fetch throws. -/
theorem advances_of_rejected
    (stage : Stage parse batchSize table outage state call)
    (go : state.memory.stopRequested = false)
    (throws : ¬ Maps batchSize table call)
    (rejected : Rejected call next) :
    Advances parse batchSize table outage state state call next [] := by
  cases rejected with
  | fetch cursor =>
      obtain ⟨_, rest⟩ := stage
      exact .of_stage ⟨.inr (.inr ⟨rfl, throws⟩), rest⟩ go rfl
        (by simp [weight])
  | _ => exact absurd trivial throws

/-- The breaker starts an operation of the loop's dispatch. -/
theorem advances_of_begun
    (stage : Stage parse batchSize table outage state call)
    (go : state.memory.stopRequested = false)
    {sink : Sink}
    (begun : Begun sink call next) :
    Advances parse batchSize table outage state state call next [] := by
  cases begun with
  | elasticsearch records rmqCall =>
      obtain ⟨same, nonempty, stored, count, dispatched, progress, _, rmq⟩ :=
        stage
      refine .of_stage ⟨same, nonempty, stored, count, dispatched, progress,
        ⟨nofun, nofun⟩, rmq⟩ go rfl ?_
      simp [weight, callWeight]
  | rabbitmq records esCall =>
      obtain ⟨same, nonempty, stored, count, dispatched, progress, es, _⟩ :=
        stage
      refine .of_stage ⟨same, nonempty, stored, count, dispatched, progress,
        es, ⟨nofun, nofun⟩⟩ go rfl ?_
      simp [weight, callWeight]
  | orphan records => exact stage.elim

/-- What an answer tells about the outage. -/
theorem heard_of_settles
    {number : Nat}
    {sink : Sink}
    {records : List SourceRecord}
    {outcome : Option SinkResult}
    {call next : SinkCall}
    (answers : Answers outage number sink records outcome)
    (settled : call.Settles outcome next) :
    Heard outage sink number next := by
  cases settled with
  | fulfilled result =>
      obtain ⟨accepts, noFailures, _⟩ := answers
      refine ⟨nofun, ?_⟩
      rintro _ ⟨⟩
      exact ⟨accepts, List.isEmpty_iff.mp noFailures⟩
  | rejected outstanding => exact ⟨fun _ => answers, nofun⟩

/-- A sink call of the loop's dispatch settles. -/
theorem advances_of_settled
    (stage : Stage parse batchSize table outage state call)
    (go : state.memory.stopRequested = false)
    {sink : Sink}
    {outcome : Option SinkResult}
    (answers :
      Answers outage (state.history.dispatched.length - 1) sink
        (RunnerProgram.batchOf call) outcome)
    (settled : Settles sink outcome call next) :
    Advances parse batchSize table outage state
      { state with
        history :=
          RunnerProgram.noteSettled state.history sink outcome next }
      call next [] := by
  have sameDispatched :
      (RunnerProgram.noteSettled state.history sink outcome
        next).dispatched = state.history.dispatched := by
    cases outcome <;> rfl
  cases settled with
  | elasticsearch isSink records rmqCall each =>
      obtain ⟨same, nonempty, stored, count, dispatched, progress, _, rmq⟩ :=
        stage
      subst isSink
      rw [dispatched, Nat.add_sub_cancel] at answers
      refine .of_stage ⟨same, nonempty, stored, count,
        (congrArg List.length sameDispatched).trans dispatched, progress,
        heard_of_settles answers each, rmq⟩ go rfl ?_
      have lower := callWeight_settles each
      simp only [weight]
      omega
  | rabbitmq isSink records esCall each =>
      obtain ⟨same, nonempty, stored, count, dispatched, progress, es, _⟩ :=
        stage
      subst isSink
      rw [dispatched, Nat.add_sub_cancel] at answers
      refine .of_stage ⟨same, nonempty, stored, count,
        (congrArg List.length sameDispatched).trans dispatched, progress,
        es, heard_of_settles answers each⟩ go rfl ?_
      have lower := callWeight_settles each
      simp only [weight]
      omega
  | orphan records each => exact stage.elim

/-- Both sinks have accepted the dispatch with that number. -/
theorem Progress.commit
    {cursor count : Nat}
    {last : SourceRecord}
    {esResult rmqResult : SinkResult}
    (keys : PrimaryKeys table)
    (progress : Progress batchSize table outage cursor count)
    (dated : DatedBatch batchSize table cursor)
    (es : Heard outage .elasticsearch count (.fulfilled esResult))
    (rmq : Heard outage .rabbitmq count (.fulfilled rmqResult))
    (isLast :
      ((program parse batchSize).fetch table cursor).getLast? =
        some last) :
    Progress batchSize table outage (codec.ofRecord last) (count + 1) where
  dated row member below := by
    obtain ⟨lastRow, rowLast, sameKey⟩ := codec.ofRecord_getLast?_map isLast
    rcases Nat.lt_or_ge cursor row.id with above | earlier
    · exact dated row
        (Keyset.mem_page_of_le keys.injective rowLast member above
          (below.trans_eq sameKey.symm))
    · exact progress.dated row member earlier
  left := by
    rw [rowsLeft_last keys.unique isLast, progress.left, Nat.succ_mul]
    omega
  accepted number below sink := by
    rcases Nat.lt_succ_iff_lt_or_eq.mp below with earlier | rfl
    · exact progress.accepted number earlier sink
    · cases sink with
      | elasticsearch => exact (es.2 _ rfl).1
      | rabbitmq => exact (rmq.2 _ rfl).1

/-- With no rows left, every dispatch that was needed has been accepted. -/
theorem Progress.unbroken
    {cursor count : Nat}
    (progress : Progress batchSize table outage cursor count)
    (none : rowsLeft table cursor = 0) :
    Unbroken batchSize table outage where
  dated row member :=
    progress.dated row member (le_of_rowsLeft none row member)
  accepted number needed sink := by
    have left := progress.left
    have below :
        number * fetchLimit batchSize < count * fetchLimit batchSize := by
      omega
    exact progress.accepted number (Nat.lt_of_mul_lt_mul_right below) sink

/-- A rejected dispatch is one that was needed. -/
theorem Progress.broken
    {cursor count : Nat}
    {sink : Sink}
    (progress : Progress batchSize table outage cursor count)
    (some : 0 < rowsLeft table cursor)
    (rejects : outage sink count = true) :
    ¬ Unbroken batchSize table outage := by
  intro unbroken
  have left := progress.left
  have accepts := unbroken.accepted count (by omega) sink
  rw [rejects] at accepts
  cases accepts

/-- Every row is above zero. -/
theorem rowsLeft_zero (keys : PrimaryKeys table) :
    rowsLeft table 0 = table.length := by
  unfold rowsLeft Keyset.rowsAbove
  rw [List.filter_eq_self.mpr]
  intro row member
  exact decide_eq_true (keys.positive row member)

/-- The loop condition is evaluated with a cursor that is in the database. -/
theorem stage_of_loopHead
    {memory resumed : Memory}
    (head : LoopHead .backfill memory resumed next)
    (go : memory.stopRequested = false)
    (sameMemory : state.memory = resumed)
    (stored : Stored state memory.cursor)
    (progress :
      Progress batchSize table outage memory.cursor
        state.history.dispatched.length) :
    next = .fetchBatch memory.cursor .pending ∧ resumed = memory ∧
      Stage parse batchSize table outage state next := by
  cases head with
  | stopped stop =>
      rw [go] at stop
      cases stop
  | fetch _ _ =>
      exact ⟨rfl, rfl, .inl rfl, congrArg Memory.cursor sameMemory,
        stored, progress⟩
  | lag isIncremental _ => cases isIncremental

/-- The state after a turn of the loop. -/
abbrev afterTurn
    (state : RunnerState Nat Gauges)
    (memory : Memory)
    (next : Call Nat) : RunnerState Nat Gauges :=
  { state with
    memory
    history := RunnerProgram.noteDispatch state.history next }

/-- A fetch that is answered has returned its batch, with dates. -/
theorem fetched_of_stage
    {cursor : Nat}
    {records : List SourceRecord}
    (stage :
      Stage parse batchSize table outage state
        (.fetchBatch cursor (.fulfilled records))) :
    records = (program parse batchSize).fetch table cursor ∧
      DatedBatch batchSize table cursor := by
  rcases stage.1 with answered | ⟨answered, dated⟩ | ⟨answered, _⟩
  · cases answered
  · exact ⟨Promise.fulfilled.inj answered, dated⟩
  · cases answered

/-- An empty fetch completes an unbroken backfill. -/
theorem advances_completed
    {cursor : Nat}
    (stage :
      Stage parse batchSize table outage state
        (.fetchBatch cursor (.fulfilled [])))
    (go : state.memory.stopRequested = false) :
    Advances parse batchSize table outage state
      (afterTurn state { state.memory with status := .completed }
        (.updateStatus .completed .pending))
      (.fetchBatch cursor (.fulfilled []))
      (.updateStatus .completed .pending) [] := by
  have nothing := (fetched_of_stage stage).1.symm
  obtain ⟨_, _, stored, progress⟩ := stage
  have none : rowsLeft table cursor = 0 := by
    by_contra some
    exact rowsLeft_pos_iff.mp (Nat.pos_of_ne_zero some) nothing
  refine .of_stage ⟨nofun, rfl, progress.unbroken none,
    ⟨cursor, stored, none⟩, nofun⟩ go rfl ?_
  simp [weight]

/-- A fetched batch is dispatched. -/
theorem advances_dispatched
    {cursor : Nat}
    {records : List SourceRecord}
    (stage :
      Stage parse batchSize table outage state
        (.fetchBatch cursor (.fulfilled records)))
    (go : state.memory.stopRequested = false)
    (nonempty : records ≠ []) :
    Advances parse batchSize table outage state
      (afterTurn state state.memory (.dispatch records .waiting .waiting))
      (.fetchBatch cursor (.fulfilled records))
      (.dispatch records .waiting .waiting) [] := by
  have fetched := fetched_of_stage stage
  obtain ⟨_, rfl, stored, progress⟩ := stage
  have some : 0 < rowsLeft table state.memory.cursor :=
    rowsLeft_pos_iff.mpr (fetched.1 ▸ nonempty)
  refine .of_stage ⟨fetched, nonempty, stored, _, ?_, progress,
    ⟨nofun, nofun⟩, ⟨nofun, nofun⟩⟩ go rfl ?_
  · simp [RunnerProgram.noteDispatch]
  · simp only [weight, callWeight]
    omega

/-- A batch that both sinks have accepted is committed. -/
theorem advances_committing
    (keys : PrimaryKeys table)
    {records : List SourceRecord}
    {esResult rmqResult : SinkResult}
    {data : CheckpointCommitData}
    {gauges : Gauges}
    (stage :
      Stage parse batchSize table outage state
        (.dispatch records (.fulfilled esResult) (.fulfilled rmqResult)))
    (go : state.memory.stopRequested = false)
    (commit : CommitOf codec records esResult rmqResult data) :
    Advances parse batchSize table outage state
      (afterTurn state
        { state.memory with
          totalProcessed :=
            state.memory.totalProcessed + data.batchSuccessCount
          totalFailed := state.memory.totalFailed + data.batchFailedCount
          gauges }
        (.commitCheckpoint records data .pending))
      (.dispatch records (.fulfilled esResult) (.fulfilled rmqResult))
      (.commitCheckpoint records data .pending) [] := by
  obtain ⟨⟨rfl, dated⟩, nonempty, stored, count, dispatched, progress, es,
    rmq⟩ := stage
  have some := rowsLeft_pos_iff.mpr nonempty
  have isLast := List.getLast?_eq_some_getLast nonempty
  have sameCursor := commit.cursor _ isLast
  have fewer := rowsLeft_last keys.unique isLast
  have room : 1 ≤ fetchLimit batchSize := fetchLimit_pos _
  refine .of_stage ⟨?_, ?_, .inl ⟨rfl, _, stored⟩⟩ go rfl ?_
  · rw [sameCursor, fewer]
    exact Nat.sub_lt some room
  · have next := progress.commit keys dated es rmq isLast
    rwa [← sameCursor, ← dispatched] at next
  · simp only [weight, callWeight]
    omega

/-- A rejected dispatch breaks the backfill. -/
theorem advances_dispatchFailed
    {records : List SourceRecord}
    {esCall rmqCall : SinkCall}
    (stage :
      Stage parse batchSize table outage state
        (.dispatch records esCall rmqCall))
    (go : state.memory.stopRequested = false)
    (rejected : esCall = .rejected ∨ rmqCall = .rejected) :
    Advances parse batchSize table outage state
      (afterTurn state { state.memory with status := .failed }
        (.updateStatus .failed .pending))
      (.dispatch records esCall rmqCall)
      (.updateStatus .failed .pending)
      (leftBehind records esCall rmqCall) := by
  obtain ⟨⟨rfl, _⟩, nonempty, _, count, _, progress, es, rmq⟩ := stage
  have some := rowsLeft_pos_iff.mpr nonempty
  have broken : ¬ Unbroken batchSize table outage := by
    rcases rejected with isRejected | isRejected
    · exact progress.broken some (es.1 isRejected)
    · exact progress.broken some (rmq.1 isRejected)
  refine ⟨⟨nofun, rfl, broken⟩, go, rfl,
    fun _ => isOrphan_of_mem_leftBehind, ?_⟩
  have light :=
    totalWeight_leftBehind_le table state.memory.cursor
      ((program parse batchSize).fetch table state.memory.cursor)
      esCall rmqCall
  simp only [weight]
  omega

/-- A fetch that throws breaks the backfill. -/
theorem advances_fetchFailed
    {cursor : Nat}
    (stage :
      Stage parse batchSize table outage state
        (.fetchBatch cursor .rejected))
    (go : state.memory.stopRequested = false) :
    Advances parse batchSize table outage state
      (afterTurn state { state.memory with status := .failed }
        (.updateStatus .failed .pending))
      (.fetchBatch cursor .rejected) (.updateStatus .failed .pending) [] := by
  have throws : ¬ DatedBatch batchSize table cursor := by
    rcases stage.1 with answered | ⟨answered, _⟩ | ⟨_, throws⟩
    · cases answered
    · cases answered
    · exact throws
  have broken : ¬ Unbroken batchSize table outage :=
    fun unbroken => throws fun row member =>
      unbroken.dated row (Keyset.of_mem_page member).1
  refine .of_stage ⟨nofun, rfl, broken⟩ go rfl ?_
  simp [weight]

/-- The code of the loop runs to its next await. -/
theorem advances_of_turn
    (keys : PrimaryKeys table)
    (stage : Stage parse batchSize table outage state call)
    (go : state.memory.stopRequested = false)
    {memory : Memory}
    (turned : Turn .backfill codec state.memory call memory next spawned) :
    Advances parse batchSize table outage state
      (afterTurn state memory next) call next spawned := by
  cases turned with
  | loadStopped checkpoint stop =>
      rw [go] at stop
      cases stop
  | load checkpoint _ =>
      obtain ⟨fresh, ⟨answered, _⟩ | ⟨_, answered, isRow, atZero⟩⟩ := stage
      · cases answered
      · cases answered
        exact .of_stage ⟨nofun, fresh, atZero, _, isRow, atZero⟩ go rfl
          (by simp [weight])
  | loadFailed =>
      obtain ⟨_, ⟨answered, _⟩ | ⟨_, answered, _⟩⟩ := stage <;>
        cases answered
  | runningFailed => exact absurd rfl stage.1
  | statusWritten status answer last =>
      rcases last with rfl | rfl
      · obtain ⟨_, failed, broken⟩ := stage
        refine .of_stage (.inr ⟨failed, broken⟩) go rfl ?_
        cases answer <;> simp [weight]
      · exact stage.elim
  | completedWritten answer isBackfill =>
      obtain ⟨_, completed, unbroken, none, stored⟩ := stage
      exact .of_stage
        (.inl ⟨by simp [go, completed], unbroken, none, stored rfl⟩) go rfl
        (by simp [weight])
  | enter answer gauges head =>
      obtain ⟨_, fresh, atZero, stored⟩ := stage
      have left : rowsLeft table state.memory.cursor = table.length := by
        rw [atZero, rowsLeft_zero keys]
      obtain ⟨rfl, rfl, reached⟩ :=
        @stage_of_loopHead parse batchSize table outage
          { state with memory } next { state.memory with gauges } memory
          head go rfl (atZero ▸ stored)
          ⟨fun row member below =>
              absurd (keys.positive row member)
                (Nat.not_lt.mpr (below.trans_eq atZero)),
            by simp [fresh, left], by simp [fresh]⟩
      refine .of_stage reached go rfl ?_
      simp only [weight, left]
      omega
  | measured => exact stage.elim
  | completed cursor isBackfill =>
      exact advances_completed stage go
  | idle cursor isIncremental => cases isIncremental
  | dispatched cursor records nonempty =>
      exact advances_dispatched stage go nonempty
  | persisting records esResult rmqResult failures =>
      obtain ⟨_, _, _, count, _, _, es, rmq⟩ := stage
      simp [dlqEntries, (es.2 _ rfl).2, (rmq.2 _ rfl).2] at failures
  | committing records esResult rmqResult data gauges ready commit =>
      cases ready with
      | persisted answer => exact stage.elim
      | clean noFailures =>
          exact advances_committing keys stage go commit
  | advanced records data answer head =>
      obtain ⟨lower, progress, ⟨answered, _⟩ | ⟨_, stored⟩⟩ := stage
      · cases answered
      · obtain ⟨rfl, rfl, reached⟩ :=
          @stage_of_loopHead parse batchSize table outage
            { state with memory } next
            { state.memory with cursor := codec.ofCommit data } memory
            head go rfl stored progress
        refine .of_stage reached go rfl ?_
        simp only [weight]
        omega
  | advancedIdle _ _ _ isIncremental => cases isIncremental
  | woken => exact stage.elim
  | dispatchFailed records esCall rmqCall isBackfill rejected =>
      exact advances_dispatchFailed stage go rejected
  | dispatchRetried _ _ _ isIncremental => cases isIncremental
  | failed failure =>
      cases failure with
      | lag cursor => exact stage.elim
      | fetch cursor => exact advances_fetchFailed stage go
      | persist => exact stage.elim
      | commit records data =>
          obtain ⟨_, _, ⟨answered, _⟩ | ⟨answered, _⟩⟩ := stage <;>
            cases answered
      | completed => exact absurd rfl stage.1

/-- Every step of the loop advances it. -/
theorem advances_of_step
    (keys : PrimaryKeys table)
    (stage : Stage parse batchSize table outage state call)
    (go : state.memory.stopRequested = false)
    {action : Act}
    (admits :
      Admits batchSize outage table (state.history.dispatched.length - 1)
        call action)
    (step :
      Step (program parse batchSize) .backfill codec table state call
        action after next spawned) :
    Advances parse batchSize table outage state after call next
      spawned := by
  cases step with
  | serve now served => exact advances_of_served stage go admits served
  | reject rejected => exact advances_of_rejected stage go admits rejected
  | begin sink begun => exact advances_of_begun stage go begun
  | settle sink outcome settled =>
      exact advances_of_settled stage go admits settled
  | turn now turned => exact advances_of_turn keys stage go turned

/-- A stage depends on memory, checkpoint and dispatches only. -/
theorem Stage.transport
    (stage : Stage parse batchSize table outage state call)
    (memory : after.memory = state.memory)
    (checkpoint : after.checkpoint = state.checkpoint)
    (dispatched : after.history.dispatched = state.history.dispatched) :
    Stage parse batchSize table outage after call := by
  obtain ⟨_, _, _, ⟨_, _, _⟩⟩ := state
  obtain ⟨_, _, _, ⟨_, _, _⟩⟩ := after
  simp only at memory checkpoint dispatched
  subst memory checkpoint dispatched
  exact stage

/-- A step of an orphan. -/
structure OrphanStep
    (table : List SourceRow)
    (state after : RunnerState Nat Gauges)
    (call next : Call Nat)
    (spawned : List (Call Nat)) : Prop where
  memory : after.memory = state.memory
  checkpoint : after.checkpoint = state.checkpoint
  queue : after.deadLetterQueue = state.deadLetterQueue
  dispatched : after.history.dispatched = state.history.dispatched
  orphan : IsOrphan next
  none : spawned = []
  lowers : ∀ cursor, weight table cursor next < weight table cursor call

/-- An orphan starts or settles, and that is all. -/
theorem orphanStep_of_step
    {action : Act}
    (orphan : IsOrphan call)
    (step :
      Step (program parse batchSize) .backfill codec table state call
        action after next spawned) :
    OrphanStep table state after call next spawned := by
  cases step with
  | serve now served => cases served <;> exact orphan.elim
  | reject rejected => cases rejected <;> exact orphan.elim
  | begin sink begun =>
      cases begun with
      | orphan records =>
          exact ⟨rfl, rfl, rfl, rfl, trivial, rfl, fun _ => Nat.one_lt_two⟩
      | _ => exact orphan.elim
  | settle sink outcome settled =>
      cases settled with
      | orphan records each =>
          exact ⟨rfl, rfl, rfl, by cases outcome <;> rfl, trivial, rfl,
            fun _ => callWeight_settles each⟩
      | _ => exact orphan.elim
  | turn now turned =>
      cases turned with
      | committing _ _ _ _ _ ready => cases ready <;> exact orphan.elim
      | failed failure => cases failure <;> exact orphan.elim
      | _ => exact orphan.elim

/-- What a sink does under the outage. -/
def response
    (outage : Outage)
    (number : Nat)
    (sink : Sink)
    (records : List SourceRecord) : Option SinkResult :=
  if outage sink number then
    none
  else
    some (sampleResult (records.map SourceRecord.id) [])

/-- That is an answer that the outage admits. -/
theorem answers_response
    (outage : Outage)
    (number : Nat)
    (sink : Sink)
    (records : List SourceRecord) :
    Answers outage number sink records
      (response outage number sink records) := by
  unfold response
  split
  · rename_i rejects
    exact rejects
  · rename_i accepts
    exact ⟨Bool.eq_false_of_not_eq_true accepts, rfl,
      fun _ => List.mem_map_of_mem⟩

/-- A sink call that is outstanding can be started or settle. -/
theorem exists_act_of_outstanding
    (outage : Outage)
    (number : Nat)
    (sink : Sink)
    (records : List SourceRecord)
    {sinkCall : SinkCall}
    (outstanding : sinkCall.Outstanding) :
    sinkCall.begin.isSome ∨
      (sinkCall.settle (response outage number sink records)).isSome := by
  rcases outstanding with rfl | rfl
  · exact .inl rfl
  · refine .inr ?_
    unfold response
    split <;> rfl

/-- A call whose sink call is outstanding can take a step. -/
theorem exists_act_of_sinkCall
    {sinkCall : SinkCall}
    (sink : Sink)
    (outstanding : sinkCall.Outstanding)
    (begins :
      sinkCall.begin.isSome → (RunnerProgram.begin sink call).isSome)
    (settles :
      ∀ outcome,
        (sinkCall.settle outcome).isSome →
          (RunnerProgram.settle sink outcome call).isSome) :
    ∃ action,
      ((program parse batchSize).act table state call action).isSome ∧
        Admits batchSize outage table (state.history.dispatched.length - 1)
          call action := by
  let number := state.history.dispatched.length - 1
  let records := RunnerProgram.batchOf call
  rcases exists_act_of_outstanding outage number sink records outstanding
    with canBegin | canSettle
  · refine ⟨.begin sink, ?_, trivial⟩
    simpa [RunnerProgram.act] using begins canBegin
  · refine ⟨.settle sink (response outage number sink records), ?_, ?_⟩
    · simpa [RunnerProgram.act] using settles _ canSettle
    · exact answers_response outage number sink records

/-- A dispatch can take a step, also once both of its calls have settled. -/
theorem exists_act_of_dispatch
    {records : List SourceRecord}
    {esCall rmqCall : SinkCall} :
    ∃ action,
      ((program parse batchSize).act table state
          (.dispatch records esCall rmqCall) action).isSome ∧
        Admits batchSize outage table (state.history.dispatched.length - 1)
          (.dispatch records esCall rmqCall) action := by
  by_cases esOutstanding : esCall.Outstanding
  · apply exists_act_of_sinkCall .elasticsearch esOutstanding
    · simp [RunnerProgram.begin]
    · simp [RunnerProgram.settle]
  by_cases rmqOutstanding : rmqCall.Outstanding
  · apply exists_act_of_sinkCall .rabbitmq rmqOutstanding
    · simp [RunnerProgram.begin]
    · simp [RunnerProgram.settle]
  refine ⟨.turn 0, ?_, trivial⟩
  simp only [RunnerProgram.act, program, Option.isSome_map]
  cases esCall with
  | waiting => exact absurd (.inl rfl) esOutstanding
  | started => exact absurd (.inr rfl) esOutstanding
  | rejected => cases rmqCall <;> rfl
  | fulfilled esResult =>
      cases rmqCall with
      | waiting => exact absurd (.inl rfl) rmqOutstanding
      | started => exact absurd (.inr rfl) rmqOutstanding
      | rejected => rfl
      | fulfilled rmqResult =>
          simp only [turn]
          split <;> rfl

/-- A loop that has not returned can take a step. -/
theorem exists_act
    (stage : Stage parse batchSize table outage state call)
    (running : call ≠ .returned) :
    ∃ action,
      ((program parse batchSize).act table state call action).isSome ∧
        Admits batchSize outage table (state.history.dispatched.length - 1)
          call action := by
  cases call with
  | getCheckpoint answer =>
      cases answer with
      | pending => exact ⟨.serve 0, rfl, trivial⟩
      | fulfilled checkpoint =>
          refine ⟨.turn 0, ?_, trivial⟩
          simp only [RunnerProgram.act, program, turn, Option.isSome_map]
          split <;> rfl
      | rejected => exact ⟨.turn 0, rfl, trivial⟩
  | updateStatus status answer =>
      cases answer with
      | pending => exact ⟨.serve 0, rfl, trivial⟩
      | fulfilled value =>
          cases status <;>
            first
              | exact stage.elim
              | exact ⟨.turn 0, rfl, trivial⟩
      | rejected =>
          cases status <;>
            first
              | exact stage.elim
              | exact ⟨.turn 0, rfl, trivial⟩
  | getIncrementalLag cursor answer => exact stage.elim
  | fetchBatch cursor answer =>
      cases answer with
      | pending =>
          by_cases dated : DatedBatch batchSize table cursor
          · exact ⟨.serve 0, rfl, dated⟩
          · exact ⟨.reject, rfl, dated⟩
      | fulfilled records =>
          cases records <;> exact ⟨.turn 0, rfl, trivial⟩
      | rejected => exact ⟨.turn 0, rfl, trivial⟩
  | dispatch records esCall rmqCall => exact exists_act_of_dispatch
  | persistFailures => exact stage.elim
  | commitCheckpoint records data answer =>
      cases answer with
      | pending => exact ⟨.serve 0, rfl, trivial⟩
      | fulfilled value => exact ⟨.turn 0, rfl, trivial⟩
      | rejected => exact ⟨.turn 0, rfl, trivial⟩
  | sleep => exact stage.elim
  | orphan => exact stage.elim
  | returned => exact absurd rfl running

end Steps

section Runs

variable
  {parse : String → Option Json}
  {batchSize : Nat}
  {table : List SourceRow}
  {outage : Outage}
  {checkpoint : Option ReplicationCheckpoint}
  {before after world : World}

/-- One loop, possibly beside sink calls that it has left behind. -/
structure Healing
    (parse : String → Option Json)
    (batchSize : Nat)
    (table : List SourceRow)
    (outage : Outage)
    (world : World) : Prop where
  context : world.context = table
  go : world.shared.memory.stopRequested = false
  queue : world.shared.deadLetterQueue = []
  tasks :
    ∃ loop orphans,
      world.tasks = loop :: orphans ∧
        Stage parse batchSize table outage world.shared loop ∧
        ∀ orphan ∈ orphans, IsOrphan orphan

/-- The weight of everything that is suspended. -/
def worldWeight (table : List SourceRow) (world : World) : Nat :=
  totalWeight table world.shared.memory.cursor world.tasks

/-- A lighter call makes a lighter list. -/
theorem totalWeight_set_lt
    {cursor index : Nat}
    {calls : List (Call Nat)}
    {call next : Call Nat}
    (found : calls[index]? = some call)
    (lighter : weight table cursor next < weight table cursor call) :
    totalWeight table cursor (calls.set index next) <
      totalWeight table cursor calls := by
  induction calls generalizing index with
  | nil => cases found
  | cons first rest inductionHypothesis =>
      cases index with
      | zero =>
          cases found
          simp only [totalWeight, List.set_cons_zero, List.map_cons,
            List.sum_cons]
          omega
      | succ index =>
          have lower := inductionHypothesis found
          simp only [totalWeight, List.set_cons_succ, List.map_cons,
            List.sum_cons] at lower ⊢
          omega

/-- Every admitted step keeps the single loop and lowers the weight. -/
theorem Healing.step
    {event : RunnerProgram.Event}
    (keys : PrimaryKeys table)
    (holds : Healing parse batchSize table outage before)
    (admitted : UnderOutage batchSize outage before event)
    (taken :
      (program parse batchSize).machine.step before event = some after) :
    Healing parse batchSize table outage after ∧
      worldWeight table after < worldWeight table before := by
  cases event with
  | env event => exact admitted.elim
  | change change => exact admitted.elim
  | act index action =>
      obtain ⟨context, go, queue, loop, orphans, tasks, stage, abandoned⟩ :=
        holds
      obtain ⟨call, shared, next, spawned, found, moved, rfl⟩ :=
        TaskMachine.step_act taken
      have step := (program_follows parse batchSize).act_spec moved
      rw [context] at step
      rw [tasks] at found
      cases index with
      | zero =>
          cases found
          have advances : Advances parse batchSize table outage
              before.shared shared loop next spawned := by
            refine advances_of_step keys stage go ?_ step
            exact context ▸ admitted loop (by simp [tasks])
          refine ⟨⟨context, advances.go, advances.queue.trans queue, next,
            orphans ++ spawned, by simp [tasks], advances.stage, ?_⟩, ?_⟩
          · intro orphan member
            rcases List.mem_append.mp member with old | new
            · exact abandoned orphan old
            · exact advances.orphans orphan new
          · have lower := advances.lowers
            have same :=
              @totalWeight_orphans table shared.memory.cursor
                before.shared.memory.cursor orphans abandoned
            simp only [worldWeight, totalWeight, tasks,
              List.set_cons_zero, List.cons_append, List.map_cons,
              List.map_append, List.sum_cons, List.sum_append] at *
            omega
      | succ index =>
          have foundOrphan : orphans[index]? = some call := found
          have member := List.mem_of_getElem? foundOrphan
          have orphan := orphanStep_of_step (abandoned call member) step
          refine ⟨⟨context, ?_, orphan.queue.trans queue, loop,
            orphans.set index next, by simp [tasks, orphan.none],
            stage.transport orphan.memory orphan.checkpoint
              orphan.dispatched, ?_⟩, ?_⟩
          · exact (congrArg Memory.stopRequested orphan.memory).trans go
          · intro other otherMember
            rcases List.mem_or_eq_of_mem_set otherMember with old | rfl
            · exact abandoned other old
            · exact orphan.orphan
          · have lower := @totalWeight_set_lt table shared.memory.cursor
              index orphans call next foundOrphan (orphan.lowers _)
            simp only [worldWeight, totalWeight, tasks, orphan.none,
              orphan.memory, List.set_cons_succ, List.append_nil,
              List.map_cons, List.sum_cons] at lower ⊢
            omega

/-- The launched backfill is at its first stage. -/
theorem Healing.launched
    (fromZero : codec.persisted checkpoint = 0) :
    Healing parse batchSize table outage
      ((program parse batchSize).launched table checkpoint) :=
  ⟨rfl, rfl, rfl, _, [], rfl, ⟨rfl, .inl ⟨rfl, fromZero⟩⟩, nofun⟩

/-- A run that has ended has returned from `start`. -/
theorem Healing.returned
    (holds : Healing parse batchSize table outage world)
    (stuck :
      Stuck (program parse batchSize).machine.step (UnderOutage batchSize outage)
        world) :
    Stage parse batchSize table outage world.shared .returned := by
  obtain ⟨context, _, _, loop, orphans, tasks, stage, _⟩ := holds
  by_cases ended : loop = .returned
  · exact ended ▸ stage
  · obtain ⟨action, enabled, admits⟩ := exists_act stage ended
    have admitted : UnderOutage batchSize outage world (.act 0 action) := by
      intro call found
      simp only [tasks, List.getElem?_cons_zero, Option.mem_some_iff]
        at found
      exact found ▸ context.symm ▸ admits
    have blocked := stuck _ admitted
    simp only [TaskMachine.step, tasks, List.getElem?_cons_zero,
      Option.map_eq_none_iff, context, RunnerProgram.machine] at blocked
    rw [blocked] at enabled
    cases enabled

/-- Runs under an outage keep the single loop and are bounded. -/
theorem healing_of_run
    {events : List RunnerProgram.Event}
    (keys : PrimaryKeys table)
    (fromZero : codec.persisted checkpoint = 0)
    (run :
      Run (program parse batchSize).machine.step (UnderOutage batchSize outage)
        ((program parse batchSize).launched table checkpoint)
        events world) :
    Healing parse batchSize table outage world ∧
      events.length ≤
        worldWeight table
          ((program parse batchSize).launched table checkpoint) := by
  have launched :=
    @Healing.launched parse batchSize table outage checkpoint fromZero
  have bounded := run.length_add_weight_le
    (Healing parse batchSize table outage) (worldWeight table)
    (fun holds admitted taken => (holds.step keys admitted taken).1)
    (fun holds admitted taken => (holds.step keys admitted taken).2)
    launched
  refine ⟨run.invariant (Healing parse batchSize table outage)
    (fun holds admitted taken => (holds.step keys admitted taken).1)
    launched, ?_⟩
  omega

/-- Some run under the outage ends. -/
theorem exists_stuck
    (keys : PrimaryKeys table)
    (fromZero : codec.persisted checkpoint = 0) :
    ∃ events reached,
      Run (program parse batchSize).machine.step (UnderOutage batchSize outage)
        ((program parse batchSize).launched table checkpoint)
        events reached ∧
      Stuck (program parse batchSize).machine.step (UnderOutage batchSize outage)
        reached := by
  have stepped :
      ∀ {before : World} {event : RunnerProgram.Event} {after : World},
        Healing parse batchSize table outage before →
        UnderOutage batchSize outage before event →
        (program parse batchSize).machine.step before event =
          some after →
        Healing parse batchSize table outage after ∧
          worldWeight table after < worldWeight table before :=
    fun holds admitted taken => holds.step keys admitted taken
  exact Run.exists_stuck (Healing parse batchSize table outage)
    (worldWeight table)
    (fun holds admitted taken => (stepped holds admitted taken).1)
    (fun holds admitted taken => (stepped holds admitted taken).2)
    (Healing.launched fromZero)

/-- A run whose calls have no steps left has ended. -/
theorem Healing.stuck_of_weightless
    (keys : PrimaryKeys table)
    (holds : Healing parse batchSize table outage world)
    (weightless : worldWeight table world = 0) :
    Stuck (program parse batchSize).machine.step (UnderOutage batchSize outage)
      world := by
  intro event admitted
  by_contra enabled
  obtain ⟨next, taken⟩ := Option.ne_none_iff_exists'.mp enabled
  have lower := (holds.step keys admitted taken).2
  omega

/-- The outage admits growing tables only: the table does not change. -/
theorem UnderOutage.growing
    {event : RunnerProgram.Event}
    (admitted : UnderOutage batchSize outage world event) :
    GrowingTable world event := by
  cases event with
  | env event => exact admitted.elim
  | change change => exact admitted.elim
  | act index action =>
      cases action with
      | settle sink outcome =>
          cases outcome with
          | none => trivial
          | some result =>
              intro call found record member
              exact .inl ((admitted call found).2.2 record member)
      | _ => trivial

/-- Runs under an outage stay in the reachable states of growing tables. -/
theorem reachable_of_run
    {events : List RunnerProgram.Event}
    (keys : PrimaryKeys table)
    (fromZero : codec.persisted checkpoint = 0)
    (run :
      Run (program parse batchSize).machine.step (UnderOutage batchSize outage)
        ((program parse batchSize).launched table checkpoint)
        events world) :
    Reachable parse batchSize world := by
  have started :
      Run (program parse batchSize).machine.step GrowingTable
        ((program parse batchSize).initial table checkpoint)
        [.env .start]
        ((program parse batchSize).launched table checkpoint) :=
    .cons trivial rfl (.nil _)
  exact (Reachable.initial keys fromZero).run
    (started.append (run.mono UnderOutage.growing))

/-- The largest id bounds the ids. -/
theorem le_largestId
    {row : SourceRow}
    (member : row ∈ table) :
    row.id ≤ largestId table := by
  unfold largestId
  induction table with
  | nil => cases member
  | cons first rest inductionHypothesis =>
      simp only [List.map_cons, List.foldr_cons]
      rcases List.mem_cons.mp member with rfl | later
      · exact le_max_left _ _
      · exact le_trans (inductionHypothesis later) (le_max_right _ _)

/-- A bound on the ids bounds the largest one. -/
theorem largestId_le
    {bound : Nat}
    (all : ∀ row ∈ table, row.id ≤ bound) :
    largestId table ≤ bound := by
  unfold largestId
  induction table with
  | nil => exact Nat.zero_le _
  | cons first rest inductionHypothesis =>
      simp only [List.map_cons, List.foldr_cons]
      exact max_le (all first List.mem_cons_self)
        (inductionHypothesis fun row member =>
          all row (List.mem_cons_of_mem _ member))

/-- A completed backfill with no rows left has healed. -/
theorem healed_of_completed
    {cursor : Nat}
    (holds : Healing parse batchSize table outage world)
    (reachable : Reachable parse batchSize world)
    (status : world.shared.memory.status = .completed)
    (stored :
      world.shared.checkpoint.map ReplicationCheckpoint.status =
        some .completed)
    (isStored : Stored world.shared cursor)
    (none : rowsLeft table cursor = 0) :
    Healed table world := by
  obtain ⟨row, isRow, sameId⟩ := isStored
  have persisted : codec.persisted world.shared.checkpoint = cursor := by
    rw [isRow]
    exact sameId
  have below := le_of_rowsLeft none
  obtain ⟨⟨⟨_, settled⟩, _, known⟩, _⟩ := reachable.coverage
  rw [persisted, holds.context] at settled known
  refine ⟨status, stored, ?_, ?_⟩
  · rw [persisted]
    refine le_antisymm ?_ (largestId_le below)
    rcases known with rfl | ⟨last, member, rfl⟩
    · exact Nat.zero_le _
    · exact le_largestId member
  · intro row member sink
    have positive :=
      reachable.keys.positive row (holds.context.symm ▸ member)
    rcases settled row member (below row member) reachable.named positive
        sink with successful | dead
    · exact successful
    · -- the queue of an unbroken run stays empty
      obtain ⟨entry, inQueue, _⟩ := dead
      rw [holds.queue] at inQueue
      cases inQueue

end Runs

/--
A backfill that is started once ends as a completed backfill of the whole table
exactly when all timestamps are dates and no dispatch that the table needs is
rejected.
-/
theorem selfHeals_iff_unbroken
    {parse : String → Option Json}
    {batchSize : Nat}
    {table : List SourceRow}
    {checkpoint : Option ReplicationCheckpoint}
    {outage : Outage}
    (keys : PrimaryKeys table)
    (fromZero : codec.persisted checkpoint = 0) :
    SelfHeals parse batchSize table checkpoint outage ↔
      Unbroken batchSize table outage := by
  constructor
  · intro heals
    obtain ⟨events, reached, run, stuck⟩ :=
      @exists_stuck parse batchSize table outage checkpoint keys fromZero
    have healed := heals.healed events reached run stuck
    rcases (healing_of_run keys fromZero run).1.returned stuck with
      ⟨_, unbroken, _⟩ | ⟨failed, _⟩
    · exact unbroken
    · rw [healed.status] at failed
      cases failed
  · intro unbroken
    refine ⟨⟨_, fun _ _ run => (healing_of_run keys fromZero run).2⟩, ?_⟩
    intro events reached run stuck
    have holds := (healing_of_run keys fromZero run).1
    have reachable := reachable_of_run keys fromZero run
    rcases holds.returned stuck with
      ⟨completed, _, ⟨cursor, isStored, none⟩, stored⟩ | ⟨_, broken⟩
    · exact healed_of_completed holds reachable completed stored
        isStored none
    · exact absurd unbroken broken

/-- No sink ever rejects, and two rows in two batches are replicated. -/
theorem selfHeals_noOutage :
    SelfHeals (fun _ => none) 1 [sampleRow 1 0, sampleRow 2 0] none
      (fun _ _ => false) :=
  (selfHeals_iff_unbroken ⟨by decide, by decide⟩ rfl).mpr
    ⟨by decide, fun _ _ _ => rfl⟩

/-- Elasticsearch rejects the first dispatch and accepts all others. -/
def firstRejected : Outage
  | .elasticsearch, 0 => true
  | _, _ => false

/-- The run of one row under that outage, to its end. -/
def sampleRejected : List RunnerProgram.Event :=
  [.act 0 (.serve 0), .act 0 (.turn 0), .act 0 (.serve 0),
    .act 0 (.turn 0), .act 0 (.serve 0), .act 0 (.turn 0),
    .act 0 (.settle .elasticsearch none),
    .act 0 (.begin .rabbitmq),
    .act 0 (.settle .rabbitmq (some (sampleResult [1] []))),
    .act 0 (.turn 0), .act 0 (.serve 0), .act 0 (.turn 0)]

/--
The outage is over after one rejection, but the run has ended as FAILED, with
its watermark at zero.
-/
theorem rejected_dispatch_never_retried :
    (∀ sink number, 0 < number → firstRejected sink number = false) ∧
      (∃ reached,
        Run (program (fun _ => none) 1).machine.step
          (UnderOutage 1 firstRejected)
          ((program (fun _ => none) 1).launched [sampleRow 1 0] none)
          sampleRejected reached ∧
        Stuck (program (fun _ => none) 1).machine.step
          (UnderOutage 1 firstRejected) reached ∧
        reached.shared.memory.status = .failed ∧
        codec.persisted reached.shared.checkpoint = 0) ∧
      ¬ SelfHeals (fun _ => none) 1 [sampleRow 1 0] none firstRejected := by
  have keys : PrimaryKeys [sampleRow 1 0] := ⟨by decide, by decide⟩
  obtain ⟨reached, run, failed, atZero, weightless⟩ :
      ∃ reached,
        Run (program (fun _ => none) 1).machine.step
          (UnderOutage 1 firstRejected)
          ((program (fun _ => none) 1).launched [sampleRow 1 0] none)
          sampleRejected reached ∧
        reached.shared.memory.status = .failed ∧
        codec.persisted reached.shared.checkpoint = 0 ∧
        worldWeight [sampleRow 1 0] reached = 0 :=
    Run.exists_of_replay _ (by decide)
  have stuck :=
    (healing_of_run keys rfl run).1.stuck_of_weightless keys weightless
  refine ⟨?_, ⟨reached, run, stuck, failed, atZero⟩, ?_⟩
  · intro sink number later
    cases sink with
    | elasticsearch =>
        cases number with
        | zero => exact absurd later (lt_irrefl 0)
        | succ number => rfl
    | rabbitmq => cases number <;> rfl
  · intro heals
    have healed := heals.healed _ _ run stuck
    rw [healed.status] at failed
    cases failed

end Replication.BackfillRunner
