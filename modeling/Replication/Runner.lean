import Replication.SourceReader
import Replication.TaskMachine

namespace Replication

/-!
# Runners as cooperative tasks

Both runners are objects whose asynchronous methods interleave at their awaits.
A method call is a task that is suspended at one await; the constructor of
`Call` names the await and carries the local variables that are live there.
What happens between two awaits is the runner's own `turn` function, translated
in `BackfillRunner` and `IncrementalRunner`.  This module holds what the two
share: the awaits, the statements the database executes, the two sink calls of
a dispatch, control calls, and process kills.

A statement is first awaited, then executed or rejected by the database, and
only later does the task take its next turn, so other tasks run in between.  A
rejected statement has had no effect: one that the database executes while its
answer is lost is only modelled together with the death of the process.  A fetch
whose rows cannot be mapped to records is a rejected one.

A sink call is what `CircuitBreaker.execute` returns: it waits inside the
breaker, its operation is started, and it settles; or it is rejected while it
waits.  `Promise.all` rejects with its first rejection and leaves the other call
running: that call becomes an orphan task.
-/

/-- A statement sent to the database, as its caller sees it. -/
inductive Promise (α : Type) where
  | pending
  | fulfilled (value : α)
  | rejected
  deriving Repr

/-- A sink call of a dispatch, as its caller sees it. -/
inductive SinkCall where
  /-- Inside the breaker: sleeping, probing, or about to start. -/
  | waiting
  /-- The sink operation has been invoked. -/
  | started
  | fulfilled (result : SinkResult)
  | rejected
  deriving Repr

namespace SinkCall

/-- The breaker invokes the operation. -/
def begin : SinkCall → Option SinkCall
  | .waiting => some .started
  | _ => none

/--
The call settles.  It may be rejected without its operation having been started,
by an unhealthy probe.
-/
def settle : Option SinkResult → SinkCall → Option SinkCall
  | some result, .started => some (.fulfilled result)
  | none, .waiting => some .rejected
  | none, .started => some .rejected
  | _, _ => none

/-- The call has neither been fulfilled nor rejected. -/
def Outstanding (call : SinkCall) : Prop :=
  call = .waiting ∨ call = .started

instance : DecidablePred Outstanding
  | .waiting => isTrue (.inl rfl)
  | .started => isTrue (.inr rfl)
  | .fulfilled _ => isFalse (by simp [Outstanding])
  | .rejected => isFalse (by simp [Outstanding])

end SinkCall

/-- `Math.max(1, options.batchSize || 500)`: an absent size and 0 are falsy. -/
def fetchLimit (batchSize : Nat) : Nat :=
  max 1 (if batchSize = 0 then 500 else batchSize)

/-- A fetch has room for a row. -/
theorem fetchLimit_pos (batchSize : Nat) : 0 < fetchLimit batchSize :=
  Nat.lt_of_lt_of_le Nat.one_pos (le_max_left _ _)

/-!
## Failure routing

Step C of both runners: the failures of the two results become dead-letter
entries, and the ids that failed at either sink are counted once.
-/

/-- `recordMap.get(id)`; a later record with the same id wins. -/
def recordOf
    (records : List SourceRecord)
    (id : Nat) : Option SourceRecord :=
  records.reverse.find? fun record => record.id = id

/--
The dead letter built for one failure of one sink, with the error code and the
reason as the driver sends them.
-/
def dlqEntry
    (records : List SourceRecord)
    (sink : Sink)
    (failure : SinkFailure) : NewDLQEntry :=
  let source := recordOf records failure.recordId
  { recordId := some failure.recordId
    recordUuid :=
      (source.map SourceRecord.uuid).filter fun uuid => uuid != ""
    sinkTarget := sink.target
    payload :=
      (Json.orElse
        (Json.orElse (source.map SourceRecord.payload) failure.rawItem)
        (some (.obj []))).getD (.obj [])
    errorCode := parameterText failure.errorCode
    errorMessage := parameterText failure.errorReason
    stackTrace := none }

/-- The dead letters of a dispatch, Elasticsearch first. -/
def dlqEntries
    (records : List SourceRecord)
    (esResult rmqResult : SinkResult) : List NewDLQEntry :=
  esResult.failures.map (dlqEntry records .elasticsearch) ++
    rmqResult.failures.map (dlqEntry records .rabbitmq)

/-- `uniqueFailedIds.size`. -/
def batchFailedCount (esResult rmqResult : SinkResult) : Nat :=
  (esResult.failedIds ++ rmqResult.failedIds).dedup.length

/-- `records.length - batchFailedCount`. -/
def batchSuccessCount
    (records : List SourceRecord)
    (esResult rmqResult : SinkResult) : Int :=
  records.length - batchFailedCount esResult rmqResult

/-- The dead letter of a failure names its record and its sink. -/
theorem exists_dlqEntry
    {records : List SourceRecord}
    {esResult rmqResult : SinkResult}
    {id : Nat} :
    (id ∈ esResult.failedIds →
      ∃ entry ∈ dlqEntries records esResult rmqResult,
        entry.recordId = some id ∧
          entry.sinkTarget = .elasticsearch) ∧
    (id ∈ rmqResult.failedIds →
      ∃ entry ∈ dlqEntries records esResult rmqResult,
        entry.recordId = some id ∧
          entry.sinkTarget = .rabbitmq) := by
  constructor
  · intro failed
    obtain ⟨failure, member, rfl⟩ := List.mem_map.mp failed
    exact ⟨dlqEntry records .elasticsearch failure,
      List.mem_append_left _ (List.mem_map_of_mem member), rfl, rfl⟩
  · intro failed
    obtain ⟨failure, member, rfl⟩ := List.mem_map.mp failed
    exact ⟨dlqEntry records .rabbitmq failure,
      List.mem_append_right _ (List.mem_map_of_mem member), rfl, rfl⟩

/-- A suspended method call of a runner, with the variables live at its await. -/
inductive Call (Cursor : Type) where
  | getCheckpoint (answer : Promise ReplicationCheckpoint)
  | updateStatus (status : PipelineStatus) (answer : Promise Unit)
  | getIncrementalLag
      (cursor : Cursor) (answer : Promise (Nat × Option Int))
  | fetchBatch
      (cursor : Cursor) (answer : Promise (List SourceRecord))
  | dispatch
      (records : List SourceRecord) (esCall rmqCall : SinkCall)
  | persistFailures
      (records : List SourceRecord)
      (esResult rmqResult : SinkResult)
      (answer : Promise Unit)
  | commitCheckpoint
      (records : List SourceRecord)
      (data : CheckpointCommitData)
      (answer : Promise Unit)
  | sleep
  /-- A sink call whose dispatch was rejected because of the other sink. -/
  | orphan (sink : Sink) (records : List SourceRecord) (call : SinkCall)
  | returned
  deriving Repr

/-- The fields of a runner object; `gauges` are the runner's own. -/
structure Memory (Cursor Gauges : Type) where
  status : PipelineStatus
  cursor : Cursor
  totalProcessed : Int
  totalFailed : Int
  stopRequested : Bool
  gauges : Gauges
  deriving Repr

/-- A sink call that was fulfilled. -/
structure Report where
  sink : Sink
  records : List SourceRecord
  result : SinkResult
  deriving Repr

/-- What has happened so far, kept for the statements and read by no code. -/
structure History where
  /-- Batches handed to `Promise.all`. -/
  dispatched : List (List SourceRecord)
  /-- Fulfilled sink calls. -/
  reports : List Report
  /-- Batches for which both sink calls of the dispatch were fulfilled. -/
  returned : List (List SourceRecord)
  deriving Repr

namespace History

/-- Nothing has happened. -/
def empty : History := ⟨[], [], []⟩

/-- The sink has reported that id as successful. -/
def Successful (history : History) (sink : Sink) (id : Nat) : Prop :=
  ∃ report ∈ history.reports,
    report.sink = sink ∧ id ∈ report.result.successfulIds

end History

/-- Runner memory, the durable rows it owns, and the history. -/
structure RunnerState (Cursor Gauges : Type) where
  memory : Memory Cursor Gauges
  checkpoint : Option ReplicationCheckpoint
  deadLetterQueue : List DLQEntry
  history : History
  deriving Repr

/-- What distinguishes one runner from the other. -/
structure RunnerProgram (Cursor Gauges : Type) where
  parse : String → Option Json
  fetch : List SourceRow → Cursor → List SourceRecord
  lag : List SourceRow → Cursor → Nat × Option Int
  /-- The fields as the constructor sets them. -/
  fresh : Memory Cursor Gauges
  /--
  Run from the await at which the call is suspended, now settled, to the next
  one; the third component are the sink calls left behind.
  -/
  turn : Memory Cursor Gauges → Int → Call Cursor →
    Option (Memory Cursor Gauges × Call Cursor × List (Call Cursor))

/-- A step of one task, or of the database or sink it waits for. -/
inductive Act where
  /-- The database executes the awaited statement at that instant. -/
  | serve (now : Int)
  /-- The awaited statement is rejected without effect. -/
  | reject
  /-- The breaker starts the operation of a sink call. -/
  | begin (sink : Sink)
  /-- A sink call is fulfilled with a result, or rejected. -/
  | settle (sink : Sink) (outcome : Option SinkResult)
  /-- The task runs to its next await; `Date.now()` is that instant. -/
  | turn (now : Int)
  deriving Repr

/-- A control call or a process kill. -/
inductive Control where
  /-- `start()`, or `resume()`, which does the same. -/
  | start
  | pause
  /-- The process dies and a new one constructs the runner. -/
  | kill
  deriving DecidableEq, Repr

/-- A change of `source_records` by its other clients. -/
inductive SourceChange where
  | insert (row : SourceRow)
  /-- The row with that id is overwritten. -/
  | update (id : Nat) (row : SourceRow)
  deriving Repr

/-- Apply a change; the primary key stays unique and an update keeps it. -/
def SourceChange.apply
    (table : List SourceRow) :
    SourceChange → Option (List SourceRow)
  | .insert row =>
      if ∀ old ∈ table, old.id ≠ row.id then
        some (table ++ [row])
      else
        none
  | .update id row =>
      if row.id = id ∧ ∃ old ∈ table, old.id = id then
        some (table.map fun old => if old.id = id then row else old)
      else
        none

namespace RunnerProgram

variable
  {Cursor Gauges : Type}
  (program : RunnerProgram Cursor Gauges)

/-- The database executes the statement that the call awaits. -/
def serve
    (table : List SourceRow)
    (now : Int)
    (state : RunnerState Cursor Gauges) :
    Call Cursor → Option (RunnerState Cursor Gauges × Call Cursor)
  | .getCheckpoint .pending =>
      let row := CheckpointManager.getCheckpoint state.checkpoint
      some ({ state with checkpoint := some row },
        .getCheckpoint (.fulfilled row))
  | .updateStatus status .pending =>
      let row := CheckpointManager.updateStatus status state.checkpoint
      some ({ state with checkpoint := row },
        .updateStatus status (.fulfilled ()))
  | .getIncrementalLag cursor .pending =>
      some (state,
        .getIncrementalLag cursor (.fulfilled (program.lag table cursor)))
  | .fetchBatch cursor .pending =>
      some (state,
        .fetchBatch cursor (.fulfilled (program.fetch table cursor)))
  | .persistFailures records esResult rmqResult .pending =>
      match DLQStore.persistFailures program.parse now
          state.deadLetterQueue
          (dlqEntries records esResult rmqResult) with
      | some queue =>
          some ({ state with deadLetterQueue := queue },
            .persistFailures records esResult rmqResult (.fulfilled ()))
      | none =>
          some (state,
            .persistFailures records esResult rmqResult .rejected)
  | .commitCheckpoint records data .pending =>
      let row := CheckpointManager.commitCheckpoint data state.checkpoint
      some ({ state with checkpoint := row },
        .commitCheckpoint records data (.fulfilled ()))
  | _ => none

/-- The awaited statement is rejected and has had no effect. -/
def reject : Call Cursor → Option (Call Cursor)
  | .getCheckpoint .pending => some (.getCheckpoint .rejected)
  | .updateStatus status .pending => some (.updateStatus status .rejected)
  | .getIncrementalLag cursor .pending =>
      some (.getIncrementalLag cursor .rejected)
  | .fetchBatch cursor .pending => some (.fetchBatch cursor .rejected)
  | .persistFailures records esResult rmqResult .pending =>
      some (.persistFailures records esResult rmqResult .rejected)
  | .commitCheckpoint records data .pending =>
      some (.commitCheckpoint records data .rejected)
  | _ => none

/-- The breaker starts the operation of one sink call. -/
def begin (sink : Sink) : Call Cursor → Option (Call Cursor)
  | .dispatch records esCall rmqCall =>
      match sink with
      | .elasticsearch =>
          esCall.begin.map fun next => .dispatch records next rmqCall
      | .rabbitmq =>
          rmqCall.begin.map fun next => .dispatch records esCall next
  | .orphan owner records call =>
      if owner = sink then
        call.begin.map fun next => .orphan owner records next
      else
        none
  | _ => none

/-- One sink call settles. -/
def settle
    (sink : Sink)
    (outcome : Option SinkResult) :
    Call Cursor → Option (Call Cursor)
  | .dispatch records esCall rmqCall =>
      match sink with
      | .elasticsearch =>
          (esCall.settle outcome).map fun next =>
            .dispatch records next rmqCall
      | .rabbitmq =>
          (rmqCall.settle outcome).map fun next =>
            .dispatch records esCall next
  | .orphan owner records call =>
      if owner = sink then
        (call.settle outcome).map fun next => .orphan owner records next
      else
        none
  | _ => none

/-- The batch of the sink calls that a call carries. -/
def batchOf : Call Cursor → List SourceRecord
  | .dispatch records _ _ => records
  | .orphan _ records _ => records
  | _ => []

/-- Record a dispatch when the turn has entered one. -/
def noteDispatch (history : History) : Call Cursor → History
  | .dispatch records .waiting .waiting =>
      { history with dispatched := history.dispatched ++ [records] }
  | _ => history

/-- Record a fulfilled sink call, and a dispatch both of whose calls are. -/
def noteSettled
    (history : History)
    (sink : Sink)
    (outcome : Option SinkResult)
    (next : Call Cursor) : History :=
  match outcome with
  | none => history
  | some result =>
      { history with
        reports := history.reports ++ [⟨sink, batchOf next, result⟩]
        returned :=
          match next with
          | .dispatch records (.fulfilled _) (.fulfilled _) =>
              history.returned ++ [records]
          | _ => history.returned }

/-- One step of one suspended call. -/
def act
    (table : List SourceRow)
    (state : RunnerState Cursor Gauges)
    (call : Call Cursor) :
    Act →
      Option
        (RunnerState Cursor Gauges × Call Cursor × List (Call Cursor))
  | .serve now =>
      (program.serve table now state call).map
        fun (state, next) => (state, next, [])
  | .reject =>
      (reject call).map fun next => (state, next, [])
  | .begin sink =>
      (begin sink call).map fun next => (state, next, [])
  | .settle sink outcome =>
      (settle sink outcome call).map fun next =>
        ({ state with
            history := noteSettled state.history sink outcome next },
          next, [])
  | .turn now =>
      (program.turn state.memory now call).map
        fun (memory, next, orphans) =>
          ({ state with
              memory
              history := noteDispatch state.history next },
            next, orphans)

/-- The synchronous part of a control call, or a kill. -/
def control
    (state : RunnerState Cursor Gauges)
    (calls : List (Call Cursor)) :
    Control → RunnerState Cursor Gauges × List (Call Cursor)
  | .start =>
      ({ state with
          memory := { state.memory with stopRequested := false } },
        calls ++ [.getCheckpoint .pending])
  | .pause =>
      ({ state with
          memory :=
            { state.memory with stopRequested := true, status := .paused } },
        calls ++ [.updateStatus .paused .pending])
  | .kill =>
      ({ state with memory := program.fresh }, [])

/-- The runner, its database and its two sinks as a task machine. -/
def machine :
    TaskMachine (List SourceRow) (RunnerState Cursor Gauges)
      (Call Cursor) Act Control SourceChange where
  act := program.act
  env := fun _ state calls event => some (program.control state calls event)
  change := SourceChange.apply

/-- A runner together with the source table. -/
abbrev World (Cursor Gauges : Type) :=
  TaskMachine.World (List SourceRow) (RunnerState Cursor Gauges) (Call Cursor)

/-- An event of a runner's machine. -/
abbrev Event := TaskMachine.Event Act Control SourceChange

/-- The world in which a freshly constructed runner meets a stored row. -/
def initial
    (table : List SourceRow)
    (checkpoint : Option ReplicationCheckpoint) :
    World Cursor Gauges where
  context := table
  shared :=
    { memory := program.fresh
      checkpoint
      deadLetterQueue := []
      history := .empty }
  tasks := []

/-- The same world right after `start()` has been called. -/
def launched
    (table : List SourceRow)
    (checkpoint : Option ReplicationCheckpoint) :
    World Cursor Gauges :=
  { program.initial table checkpoint with
    tasks := [.getCheckpoint .pending] }

end RunnerProgram

end Replication
