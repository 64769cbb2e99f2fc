import Replication.RunnerTurn

namespace Replication

/-!
# What a step can do

The steps of a call other than its turns: the database executes or rejects the
statement it awaits, the breaker starts a sink operation, a sink call settles.
Like the turns, each is listed once as a relation, and the later modules take
their cases from these lists.
-/

variable {Cursor Gauges : Type}

/-- The database executes the statement that a call awaits. -/
inductive Served
    (program : RunnerProgram Cursor Gauges)
    (table : List SourceRow)
    (now : Int)
    (state : RunnerState Cursor Gauges) :
    Call Cursor → RunnerState Cursor Gauges → Call Cursor → Prop where
  | checkpoint :
      Served program table now state
        (.getCheckpoint .pending)
        { state with
          checkpoint :=
            some (CheckpointManager.getCheckpoint state.checkpoint) }
        (.getCheckpoint
          (.fulfilled (CheckpointManager.getCheckpoint state.checkpoint)))
  | status (status : PipelineStatus) :
      Served program table now state
        (.updateStatus status .pending)
        { state with
          checkpoint :=
            CheckpointManager.updateStatus status state.checkpoint }
        (.updateStatus status (.fulfilled ()))
  | lag (cursor : Cursor) :
      Served program table now state
        (.getIncrementalLag cursor .pending) state
        (.getIncrementalLag cursor (.fulfilled (program.lag table cursor)))
  | fetch (cursor : Cursor) :
      Served program table now state
        (.fetchBatch cursor .pending) state
        (.fetchBatch cursor (.fulfilled (program.fetch table cursor)))
  | persisted
      (records : List SourceRecord)
      (esResult rmqResult : SinkResult)
      {queue : List DLQEntry}
      (stored :
        DLQStore.persistFailures program.parse now state.deadLetterQueue
          (dlqEntries records esResult rmqResult) = some queue) :
      Served program table now state
        (.persistFailures records esResult rmqResult .pending)
        { state with deadLetterQueue := queue }
        (.persistFailures records esResult rmqResult (.fulfilled ()))
  | notPersisted
      (records : List SourceRecord)
      (esResult rmqResult : SinkResult) :
      Served program table now state
        (.persistFailures records esResult rmqResult .pending) state
        (.persistFailures records esResult rmqResult .rejected)
  | committed
      (records : List SourceRecord)
      (data : CheckpointCommitData) :
      Served program table now state
        (.commitCheckpoint records data .pending)
        { state with
          checkpoint :=
            CheckpointManager.commitCheckpoint data state.checkpoint }
        (.commitCheckpoint records data (.fulfilled ()))

/-- The statement that a call awaits is rejected. -/
inductive Rejected : Call Cursor → Call Cursor → Prop where
  | checkpoint :
      Rejected (.getCheckpoint .pending) (.getCheckpoint .rejected)
  | status (status : PipelineStatus) :
      Rejected (.updateStatus status .pending)
        (.updateStatus status .rejected)
  | lag (cursor : Cursor) :
      Rejected (.getIncrementalLag cursor .pending)
        (.getIncrementalLag cursor .rejected)
  | fetch (cursor : Cursor) :
      Rejected (.fetchBatch cursor .pending) (.fetchBatch cursor .rejected)
  | persist (records : List SourceRecord) (esResult rmqResult : SinkResult) :
      Rejected (.persistFailures records esResult rmqResult .pending)
        (.persistFailures records esResult rmqResult .rejected)
  | commit (records : List SourceRecord) (data : CheckpointCommitData) :
      Rejected (.commitCheckpoint records data .pending)
        (.commitCheckpoint records data .rejected)

/-- The breaker starts the operation of a sink call. -/
inductive Begun : Sink → Call Cursor → Call Cursor → Prop where
  | elasticsearch (records : List SourceRecord) (rmqCall : SinkCall) :
      Begun .elasticsearch
        (.dispatch records .waiting rmqCall)
        (.dispatch records .started rmqCall)
  | rabbitmq (records : List SourceRecord) (esCall : SinkCall) :
      Begun .rabbitmq
        (.dispatch records esCall .waiting)
        (.dispatch records esCall .started)
  | orphan (sink : Sink) (records : List SourceRecord) :
      Begun sink
        (.orphan sink records .waiting) (.orphan sink records .started)

/-- A sink call settles with an outcome. -/
inductive SinkCall.Settles :
    Option SinkResult → SinkCall → SinkCall → Prop where
  | fulfilled (result : SinkResult) :
      Settles (some result) .started (.fulfilled result)
  | rejected {call : SinkCall} (outstanding : call.Outstanding) :
      Settles none call .rejected

/-- A sink call of a dispatch, or an orphan, settles. -/
inductive Settles (sink : Sink) (outcome : Option SinkResult) :
    Call Cursor → Call Cursor → Prop where
  | elasticsearch
      (isSink : sink = .elasticsearch)
      (records : List SourceRecord)
      {esCall next : SinkCall}
      (rmqCall : SinkCall)
      (settled : esCall.Settles outcome next) :
      Settles sink outcome
        (.dispatch records esCall rmqCall) (.dispatch records next rmqCall)
  | rabbitmq
      (isSink : sink = .rabbitmq)
      (records : List SourceRecord)
      (esCall : SinkCall)
      {rmqCall next : SinkCall}
      (settled : rmqCall.Settles outcome next) :
      Settles sink outcome
        (.dispatch records esCall rmqCall) (.dispatch records esCall next)
  | orphan
      (records : List SourceRecord)
      {call next : SinkCall}
      (settled : call.Settles outcome next) :
      Settles sink outcome
        (.orphan sink records call) (.orphan sink records next)

namespace RunnerProgram

variable
  {program : RunnerProgram Cursor Gauges}
  {table : List SourceRow}
  {now : Int}
  {state after : RunnerState Cursor Gauges}
  {call next : Call Cursor}

/-- Every executed statement is in the list. -/
theorem serve_spec
    (served : program.serve table now state call = some (after, next)) :
    Served program table now state call after next := by
  unfold serve at served
  split at served
  · cases served; exact .checkpoint
  · cases served; exact .status _
  · cases served; exact .lag _
  · cases served; exact .fetch _
  · split at served
    · cases served; exact .persisted _ _ _ ‹_›
    · cases served; exact .notPersisted _ _ _
  · cases served; exact .committed _ _
  · cases served

/-- Every rejected statement is in the list. -/
theorem reject_spec
    (rejected : reject call = some next) :
    Rejected call next := by
  unfold reject at rejected
  split at rejected <;> cases rejected
  · exact .checkpoint
  · exact .status _
  · exact .lag _
  · exact .fetch _
  · exact .persist _ _ _
  · exact .commit _ _

/-- Only a waiting call can be started. -/
theorem sinkCall_begin_spec
    {call next : SinkCall}
    (begun : call.begin = some next) :
    call = .waiting ∧ next = .started := by
  cases call <;> cases begun
  exact ⟨rfl, rfl⟩

/-- Every started operation is in the list. -/
theorem begin_spec
    {sink : Sink}
    (begun : begin sink call = some next) :
    Begun sink call next := by
  unfold begin at begun
  split at begun
  · split at begun
    · obtain ⟨_, started, rfl⟩ := Option.map_eq_some_iff.mp begun
      obtain ⟨rfl, rfl⟩ := sinkCall_begin_spec started
      exact .elasticsearch _ _
    · obtain ⟨_, started, rfl⟩ := Option.map_eq_some_iff.mp begun
      obtain ⟨rfl, rfl⟩ := sinkCall_begin_spec started
      exact .rabbitmq _ _
  · split at begun
    · rename_i isSink
      subst isSink
      obtain ⟨_, started, rfl⟩ := Option.map_eq_some_iff.mp begun
      obtain ⟨rfl, rfl⟩ := sinkCall_begin_spec started
      exact .orphan _ _
    · cases begun
  · cases begun

/-- Every way a sink call settles is in the list. -/
theorem sinkCall_settle_spec
    {outcome : Option SinkResult}
    {call next : SinkCall}
    (settled : call.settle outcome = some next) :
    call.Settles outcome next := by
  unfold SinkCall.settle at settled
  split at settled <;> cases settled
  · exact .fulfilled _
  · exact .rejected (.inl rfl)
  · exact .rejected (.inr rfl)

/-- Every settled sink call is in the list. -/
theorem settle_spec
    {sink : Sink}
    {outcome : Option SinkResult}
    (settled : settle sink outcome call = some next) :
    Settles sink outcome call next := by
  unfold settle at settled
  split at settled
  · split at settled
    · obtain ⟨_, each, rfl⟩ := Option.map_eq_some_iff.mp settled
      exact .elasticsearch rfl _ _ (sinkCall_settle_spec each)
    · obtain ⟨_, each, rfl⟩ := Option.map_eq_some_iff.mp settled
      exact .rabbitmq rfl _ _ (sinkCall_settle_spec each)
  · split at settled
    · rename_i isSink
      subst isSink
      obtain ⟨_, each, rfl⟩ := Option.map_eq_some_iff.mp settled
      exact .orphan _ (sinkCall_settle_spec each)
    · cases settled
  · cases settled

end RunnerProgram

/-- Every step of a call of either runner. -/
inductive Step
    (program : RunnerProgram Cursor Gauges)
    (kind : RunnerKind)
    (codec : CursorCodec Cursor)
    (table : List SourceRow)
    (state : RunnerState Cursor Gauges)
    (call : Call Cursor) :
    Act → RunnerState Cursor Gauges → Call Cursor →
      List (Call Cursor) → Prop where
  | serve
      (now : Int)
      {after : RunnerState Cursor Gauges}
      {next : Call Cursor}
      (served : Served program table now state call after next) :
      Step program kind codec table state call (.serve now) after next []
  | reject
      {next : Call Cursor}
      (rejected : Rejected call next) :
      Step program kind codec table state call .reject state next []
  | begin
      (sink : Sink)
      {next : Call Cursor}
      (begun : Begun sink call next) :
      Step program kind codec table state call (.begin sink) state next []
  | settle
      (sink : Sink)
      (outcome : Option SinkResult)
      {next : Call Cursor}
      (settled : Settles sink outcome call next) :
      Step program kind codec table state call (.settle sink outcome)
        { state with
          history :=
            RunnerProgram.noteSettled state.history sink outcome next }
        next []
  | turn
      (now : Int)
      {memory : Memory Cursor Gauges}
      {next : Call Cursor}
      {orphans : List (Call Cursor)}
      (turned : Turn kind codec state.memory call memory next orphans) :
      Step program kind codec table state call (.turn now)
        { state with
          memory
          history := RunnerProgram.noteDispatch state.history next }
        next orphans

/-- Every step of a program that follows the transition list is in this one. -/
theorem RunnerProgram.Follows.act_spec
    {program : RunnerProgram Cursor Gauges}
    {kind : RunnerKind}
    {codec : CursorCodec Cursor}
    (follows : program.Follows kind codec)
    {table : List SourceRow}
    {state after : RunnerState Cursor Gauges}
    {call next : Call Cursor}
    {action : Act}
    {spawned : List (Call Cursor)}
    (moved :
      program.act table state call action = some (after, next, spawned)) :
    Step program kind codec table state call action
      after next spawned := by
  cases action with
  | serve now =>
      obtain ⟨⟨_, _⟩, served, same⟩ := Option.map_eq_some_iff.mp moved
      cases same
      exact .serve now (RunnerProgram.serve_spec served)
  | reject =>
      obtain ⟨_, rejected, same⟩ := Option.map_eq_some_iff.mp moved
      cases same
      exact .reject (RunnerProgram.reject_spec rejected)
  | begin sink =>
      obtain ⟨_, begun, same⟩ := Option.map_eq_some_iff.mp moved
      cases same
      exact .begin sink (RunnerProgram.begin_spec begun)
  | settle sink outcome =>
      obtain ⟨_, settled, same⟩ := Option.map_eq_some_iff.mp moved
      cases same
      exact .settle sink outcome (RunnerProgram.settle_spec settled)
  | turn now =>
      obtain ⟨⟨_, _, _⟩, turned, same⟩ := Option.map_eq_some_iff.mp moved
      cases same
      exact .turn now (follows.turn turned)

end Replication
