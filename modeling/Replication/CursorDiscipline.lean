import Replication.RunnerStep

namespace Replication

/-!
# The cursor discipline

A runner keeps cursors in many places at once: in the checkpoint row, in memory,
in the parameters and answers of suspended statements, and as the last key of
every batch in flight.  Loops overlap and die, so none of these copies can be
trusted to be the newest.  The discipline makes this harmless: it asks for a
property of single cursors, and one of single batches, such that a fetch from a
sound cursor yields a fetched batch and a finished batch yields a sound cursor.
Then every copy is sound in every reachable state.
-/

variable {Cursor Gauges : Type}

/-- A dead letter for that record and sink is in the queue. -/
def RunnerState.DeadLetter
    (state : RunnerState Cursor Gauges)
    (sink : Sink)
    (id : Nat) : Prop :=
  ∃ entry ∈ state.deadLetterQueue,
    entry.recordId = some id ∧ entry.sinkTarget = sink.target

/-- The dead letters and the history of `before` are still there. -/
structure RunnerState.Extends
    (before after : RunnerState Cursor Gauges) : Prop where
  dispatched :
    ∀ records ∈ before.history.dispatched,
      records ∈ after.history.dispatched
  reports :
    ∀ report ∈ before.history.reports, report ∈ after.history.reports
  returned :
    ∀ records ∈ before.history.returned, records ∈ after.history.returned
  deadLetterQueue :
    ∀ entry ∈ before.deadLetterQueue, entry ∈ after.deadLetterQueue

namespace RunnerState.Extends

variable {before middle after : RunnerState Cursor Gauges}

/-- Nothing is lost by doing nothing. -/
theorem refl (state : RunnerState Cursor Gauges) : state.Extends state :=
  ⟨fun _ => id, fun _ => id, fun _ => id, fun _ => id⟩

/-- Only the durable queue and the history matter. -/
theorem of_eq
    (sameHistory : after.history = before.history)
    (sameQueue : after.deadLetterQueue = before.deadLetterQueue) :
    before.Extends after := by
  constructor <;> simp [sameHistory, sameQueue]

/-- A dead letter stays. -/
theorem deadLetter
    {sink : Sink}
    {id : Nat}
    (extended : before.Extends after)
    (dead : before.DeadLetter sink id) :
    after.DeadLetter sink id := by
  obtain ⟨entry, member, named⟩ := dead
  exact ⟨entry, extended.deadLetterQueue entry member, named⟩

/-- A reported success stays. -/
theorem successful
    {sink : Sink}
    {id : Nat}
    (extended : before.Extends after)
    (success : before.history.Successful sink id) :
    after.history.Successful sink id := by
  obtain ⟨report, member, named⟩ := success
  exact ⟨report, extended.reports report member, named⟩

/-- Noting a dispatch extends the history. -/
theorem noteDispatch
    (state : RunnerState Cursor Gauges)
    (memory : Memory Cursor Gauges)
    (next : Call Cursor) :
    state.Extends
      { state with
        memory
        history := RunnerProgram.noteDispatch state.history next } := by
  unfold RunnerProgram.noteDispatch
  split
  · constructor <;> intro _ member <;> simp [member]
  · exact .of_eq rfl rfl

/-- Noting a settled call extends the history. -/
theorem noteSettled
    (state : RunnerState Cursor Gauges)
    (sink : Sink)
    (outcome : Option SinkResult)
    (next : Call Cursor) :
    state.Extends
      { state with
        history :=
          RunnerProgram.noteSettled state.history sink outcome next } := by
  unfold RunnerProgram.noteSettled
  split
  · exact .of_eq rfl rfl
  · constructor <;> intro _ member <;> dsimp only <;> try split
    all_goals simp [member]

/-- What is kept twice is kept. -/
theorem trans
    (first : before.Extends middle)
    (second : middle.Extends after) :
    before.Extends after where
  dispatched records member :=
    second.dispatched records (first.dispatched records member)
  reports report member :=
    second.reports report (first.reports report member)
  returned records member :=
    second.returned records (first.returned records member)
  deadLetterQueue entry member :=
    second.deadLetterQueue entry (first.deadLetterQueue entry member)

/-- A served statement extends the durable queue. -/
theorem of_served
    {program : RunnerProgram Cursor Gauges}
    {table : List SourceRow}
    {now : Int}
    {state : RunnerState Cursor Gauges}
    {call next : Call Cursor}
    (served : Served program table now state call after next) :
    state.Extends after := by
  cases served with
  | persisted records esResult rmqResult stored =>
      exact ⟨fun _ => id, fun _ => id, fun _ => id,
        (DLQStore.persistFailures_spec stored).1⟩
  | _ => exact .of_eq rfl rfl

/-- No step of a runner's machine loses a dead letter or an event. -/
theorem of_step
    {program : RunnerProgram Cursor Gauges}
    {before after : RunnerProgram.World Cursor Gauges}
    {event : RunnerProgram.Event}
    (taken : program.machine.step before event = some after) :
    before.shared.Extends after.shared := by
  cases event with
  | act index action =>
      obtain ⟨call, shared, next, spawned, _, moved, rfl⟩ :=
        TaskMachine.step_act taken
      cases action with
      | serve now =>
          obtain ⟨⟨_, _⟩, served, same⟩ := Option.map_eq_some_iff.mp moved
          cases same
          exact .of_served (RunnerProgram.serve_spec served)
      | reject =>
          obtain ⟨_, _, same⟩ := Option.map_eq_some_iff.mp moved
          cases same
          exact .refl _
      | begin sink =>
          obtain ⟨_, _, same⟩ := Option.map_eq_some_iff.mp moved
          cases same
          exact .refl _
      | settle sink outcome =>
          obtain ⟨_, _, same⟩ := Option.map_eq_some_iff.mp moved
          cases same
          exact .noteSettled _ sink outcome _
      | turn now =>
          obtain ⟨⟨_, _, _⟩, _, same⟩ := Option.map_eq_some_iff.mp moved
          cases same
          exact .noteDispatch _ _ _
  | env event =>
      obtain ⟨shared, tasks, moved, rfl⟩ := TaskMachine.step_env taken
      cases event <;> cases moved <;> exact .of_eq rfl rfl
  | change change =>
      obtain ⟨_, _, rfl⟩ := TaskMachine.step_change taken
      exact .refl _

/-- No run of a runner's machine loses a dead letter or an event. -/
theorem of_run
    {program : RunnerProgram Cursor Gauges}
    {admits :
      RunnerProgram.World Cursor Gauges → RunnerProgram.Event → Prop}
    {initial reached : RunnerProgram.World Cursor Gauges}
    {events : List RunnerProgram.Event}
    (run : Run program.machine.step admits initial events reached) :
    initial.shared.Extends reached.shared :=
  run.invariant (fun world => initial.shared.Extends world.shared)
    (fun kept _ taken => kept.trans (of_step taken)) (.refl _)

end RunnerState.Extends

/-- Both sinks have answered a dispatch of the batch with these results. -/
structure Returned
    (state : RunnerState Cursor Gauges)
    (records : List SourceRecord)
    (esResult rmqResult : SinkResult) : Prop where
  dispatched : records ∈ state.history.dispatched
  esReport :
    ⟨.elasticsearch, records, esResult⟩ ∈ state.history.reports
  rmqReport : ⟨.rabbitmq, records, rmqResult⟩ ∈ state.history.reports
  returned : records ∈ state.history.returned

/-- Every failure of both results has its dead letter. -/
structure Filed
    (state : RunnerState Cursor Gauges)
    (esResult rmqResult : SinkResult) : Prop where
  elasticsearch :
    ∀ id ∈ esResult.failedIds, state.DeadLetter .elasticsearch id
  rabbitmq :
    ∀ id ∈ rmqResult.failedIds, state.DeadLetter .rabbitmq id

/-- Both sinks have answered the batch and its failures are dead letters. -/
def Finished
    (state : RunnerState Cursor Gauges)
    (records : List SourceRecord) : Prop :=
  ∃ esResult rmqResult,
    Returned state records esResult rmqResult ∧
      Filed state esResult rmqResult

section Growth

variable
  {before after : RunnerState Cursor Gauges}
  {records : List SourceRecord}
  {esResult rmqResult : SinkResult}

/-- An answered dispatch stays answered. -/
theorem Returned.extend
    (returned : Returned before records esResult rmqResult)
    (extended : before.Extends after) :
    Returned after records esResult rmqResult where
  dispatched := extended.dispatched _ returned.dispatched
  esReport := extended.reports _ returned.esReport
  rmqReport := extended.reports _ returned.rmqReport
  returned := extended.returned _ returned.returned

/-- Filed failures stay filed. -/
theorem Filed.extend
    (filed : Filed before esResult rmqResult)
    (extended : before.Extends after) :
    Filed after esResult rmqResult where
  elasticsearch id failed :=
    extended.deadLetter (filed.elasticsearch id failed)
  rabbitmq id failed := extended.deadLetter (filed.rabbitmq id failed)

/-- A finished batch stays finished. -/
theorem Finished.extend
    (finished : Finished before records)
    (extended : before.Extends after) :
    Finished after records := by
  obtain ⟨esResult, rmqResult, returned, filed⟩ := finished
  exact ⟨esResult, rmqResult, returned.extend extended,
    filed.extend extended⟩

/-- A dispatch without failures has nothing to file. -/
theorem Filed.of_noFailures
    {state : RunnerState Cursor Gauges}
    (noFailures : dlqEntries records esResult rmqResult = []) :
    Filed state esResult rmqResult := by
  have named := @exists_dlqEntry records esResult rmqResult
  simp only [noFailures, List.not_mem_nil, false_and, exists_false]
    at named
  exact ⟨fun _ failed => (named.1 failed).elim,
    fun _ failed => (named.2 failed).elim⟩

/-- A successful insert files the failures of both results. -/
theorem Filed.of_persisted
    {state : RunnerState Cursor Gauges}
    {parse : String → Option Json}
    {now : Int}
    {queue : List DLQEntry}
    (stored :
      DLQStore.persistFailures parse now state.deadLetterQueue
        (dlqEntries records esResult rmqResult) = some queue) :
    Filed { state with deadLetterQueue := queue } esResult rmqResult := by
  obtain ⟨_, each⟩ := DLQStore.persistFailures_spec stored
  constructor
  · intro id failed
    obtain ⟨entry, member, record, sink⟩ := exists_dlqEntry.1 failed
    obtain ⟨row, rowMember, sameRecord, sameSink⟩ := each entry member
    exact ⟨row, rowMember, sameRecord.trans record, sameSink.trans sink⟩
  · intro id failed
    obtain ⟨entry, member, record, sink⟩ := exists_dlqEntry.2 failed
    obtain ⟨row, rowMember, sameRecord, sameSink⟩ := each entry member
    exact ⟨row, rowMember, sameRecord.trans record, sameSink.trans sink⟩

end Growth

/-- What the two predicates of a discipline owe each other. -/
structure CursorDiscipline
    (program : RunnerProgram Cursor Gauges)
    (codec : CursorCodec Cursor)
    (Sound : List SourceRow → RunnerState Cursor Gauges → Cursor → Prop)
    (Fetched :
      List SourceRow → RunnerState Cursor Gauges →
        List SourceRecord → Prop) : Prop where
  /-- A fetch from a sound cursor. -/
  fetch :
    ∀ {table state cursor},
      Sound table state cursor →
      Fetched table state (program.fetch table cursor)
  /-- The commit of a finished batch. -/
  advance :
    ∀ {table state records last},
      Fetched table state records →
      Finished state records →
      records.getLast? = some last →
      Sound table state (codec.ofRecord last)
  soundExtends :
    ∀ {table before after cursor},
      before.Extends after →
      Sound table before cursor → Sound table after cursor
  fetchedExtends :
    ∀ {table before after records},
      before.Extends after →
      Fetched table before records → Fetched table after records

namespace CursorDiscipline

variable
  (codec : CursorCodec Cursor)
  (Sound : List SourceRow → RunnerState Cursor Gauges → Cursor → Prop)
  (Fetched :
    List SourceRow → RunnerState Cursor Gauges → List SourceRecord → Prop)

/-- The persisted watermark is sound. -/
def Global
    (table : List SourceRow)
    (state : RunnerState Cursor Gauges) : Prop :=
  Sound table state (codec.persisted state.checkpoint)

/-- What holds of a call while it is suspended. -/
def Local
    (table : List SourceRow)
    (state : RunnerState Cursor Gauges) : Call Cursor → Prop
  | .getCheckpoint answer =>
      ∀ checkpoint, answer = .fulfilled checkpoint →
        Sound table state (codec.ofCheckpoint checkpoint)
  | .updateStatus status _ =>
      status = .running → Sound table state state.memory.cursor
  | .getIncrementalLag _ _ => Sound table state state.memory.cursor
  | .fetchBatch cursor answer =>
      Sound table state state.memory.cursor ∧
        Sound table state cursor ∧
        ∀ records, answer = .fulfilled records →
          Fetched table state records
  | .dispatch records esCall rmqCall =>
      Sound table state state.memory.cursor ∧
        Fetched table state records ∧
        records ≠ [] ∧
        records ∈ state.history.dispatched ∧
        (∀ result, esCall = .fulfilled result →
          ⟨.elasticsearch, records, result⟩ ∈ state.history.reports) ∧
        (∀ result, rmqCall = .fulfilled result →
          ⟨.rabbitmq, records, result⟩ ∈ state.history.reports) ∧
        (∀ esResult rmqResult,
          esCall = .fulfilled esResult →
          rmqCall = .fulfilled rmqResult →
          records ∈ state.history.returned)
  | .persistFailures records esResult rmqResult answer =>
      Fetched table state records ∧
        records ≠ [] ∧
        Returned state records esResult rmqResult ∧
        (answer = .fulfilled () → Filed state esResult rmqResult)
  | .commitCheckpoint records data _ =>
      Sound table state (codec.ofCommit data) ∧
        Fetched table state records ∧
        ∃ last, records.getLast? = some last ∧
          codec.ofCommit data = codec.ofRecord last
  | .sleep => Sound table state state.memory.cursor
  | .orphan _ _ _ => True
  | .returned => True

/-- The cursors a suspended call carries. -/
def cursorsOf : Call Cursor → List Cursor
  | .getCheckpoint (.fulfilled checkpoint) =>
      [codec.ofCheckpoint checkpoint]
  | .fetchBatch cursor _ => [cursor]
  | .commitCheckpoint _ data _ => [codec.ofCommit data]
  | _ => []

/-- The batches a suspended call carries. -/
def batchesOf : Call Cursor → List (List SourceRecord)
  | .fetchBatch _ (.fulfilled records) => [records]
  | .dispatch records _ _ => [records]
  | .persistFailures records _ _ _ => [records]
  | .commitCheckpoint records _ _ => [records]
  | _ => []

variable {codec Sound Fetched}

/--
Transport of a call's assertion to another table, a later state, and another
discipline.
-/
theorem Local.transport
    {Sound' : List SourceRow → RunnerState Cursor Gauges → Cursor → Prop}
    {Fetched' :
      List SourceRow → RunnerState Cursor Gauges →
        List SourceRecord → Prop}
    {table changed : List SourceRow}
    {before after : RunnerState Cursor Gauges}
    {call : Call Cursor}
    (holds : Local codec Sound Fetched table before call)
    (extended : before.Extends after)
    (memory :
      Sound table before before.memory.cursor →
        Sound' changed after after.memory.cursor)
    (cursors :
      ∀ cursor ∈ cursorsOf codec call,
        Sound table before cursor → Sound' changed after cursor)
    (batches :
      ∀ records ∈ batchesOf call,
        Fetched table before records → Fetched' changed after records) :
    Local codec Sound' Fetched' changed after call := by
  cases call with
  | getCheckpoint answer =>
      rintro checkpoint rfl
      exact cursors _ (List.mem_singleton_self _) (holds checkpoint rfl)
  | updateStatus status answer =>
      exact fun running => memory (holds running)
  | getIncrementalLag cursor answer =>
      exact memory holds
  | fetchBatch cursor answer =>
      obtain ⟨own, parameter, answered⟩ := holds
      refine ⟨memory own,
        cursors _ (List.mem_singleton_self _) parameter, ?_⟩
      rintro records rfl
      exact batches _ (List.mem_singleton_self _) (answered records rfl)
  | dispatch records esCall rmqCall =>
      obtain ⟨own, fetched, nonempty, dispatched, es, rmq, both⟩ := holds
      exact ⟨memory own,
        batches _ (List.mem_singleton_self _) fetched, nonempty,
        extended.dispatched _ dispatched,
        fun result is => extended.reports _ (es result is),
        fun result is => extended.reports _ (rmq result is),
        fun esResult rmqResult isEs isRmq =>
          extended.returned _ (both esResult rmqResult isEs isRmq)⟩
  | persistFailures records esResult rmqResult answer =>
      obtain ⟨fetched, nonempty, returned, filed⟩ := holds
      exact ⟨batches _ (List.mem_singleton_self _) fetched, nonempty,
        returned.extend extended,
        fun served => (filed served).extend extended⟩
  | commitCheckpoint records data answer =>
      obtain ⟨committed, fetched, isLast⟩ := holds
      exact ⟨cursors _ (List.mem_singleton_self _) committed,
        batches _ (List.mem_singleton_self _) fetched, isLast⟩
  | sleep =>
      exact memory holds
  | orphan sink records call =>
      trivial
  | returned =>
      trivial

/-- A step keeps the discipline of everything it touches. -/
structure Kept
    (codec : CursorCodec Cursor)
    (Sound : List SourceRow → RunnerState Cursor Gauges → Cursor → Prop)
    (Fetched :
      List SourceRow → RunnerState Cursor Gauges →
        List SourceRecord → Prop)
    (table : List SourceRow)
    (before after : RunnerState Cursor Gauges)
    (next : Call Cursor)
    (spawned : List (Call Cursor)) : Prop where
  extended : before.Extends after
  global : Global codec Sound table after
  memory :
    Sound table before before.memory.cursor →
      Sound table after after.memory.cursor
  next : Local codec Sound Fetched table after next
  spawned : ∀ new ∈ spawned, Local codec Sound Fetched table after new

section Steps

variable
  {program : RunnerProgram Cursor Gauges}
  {kind : RunnerKind}
  {table : List SourceRow}
  {state after : RunnerState Cursor Gauges}
  {call next : Call Cursor}

/-- A step that leaves the memory alone and spawns nothing. -/
theorem Kept.of_sameMemory
    (discipline : CursorDiscipline program codec Sound Fetched)
    (extended : state.Extends after)
    (sameMemory : after.memory = state.memory)
    (global : Global codec Sound table after)
    (holds : Local codec Sound Fetched table after next) :
    Kept codec Sound Fetched table state after next [] where
  extended := extended
  global := global
  memory sound := by
    rw [sameMemory]
    exact discipline.soundExtends extended sound
  next := holds
  spawned _ member := absurd member (List.not_mem_nil)

/-- A served statement keeps the discipline. -/
theorem kept_of_served
    (discipline : CursorDiscipline program codec Sound Fetched)
    (global : Global codec Sound table state)
    (holds : Local codec Sound Fetched table state call)
    {now : Int}
    (served : Served program table now state call after next) :
    Kept codec Sound Fetched table state after next [] := by
  cases served with
  | checkpoint =>
      have extended : state.Extends
          { state with
            checkpoint :=
              some (CheckpointManager.getCheckpoint state.checkpoint) } :=
        .of_eq rfl rfl
      have kept := discipline.soundExtends extended global
      refine .of_sameMemory discipline extended rfl kept ?_
      rintro checkpoint ⟨⟩
      exact kept
  | status status =>
      have extended : state.Extends
          { state with
            checkpoint :=
              CheckpointManager.updateStatus status state.checkpoint } :=
        .of_eq rfl rfl
      refine .of_sameMemory discipline extended rfl ?_ ?_
      · simpa [Global] using discipline.soundExtends extended global
      · exact fun running => discipline.soundExtends extended (holds running)
  | lag cursor =>
      exact .of_sameMemory discipline (.refl _) rfl global holds
  | fetch cursor =>
      obtain ⟨own, parameter, _⟩ := holds
      refine .of_sameMemory discipline (.refl _) rfl global
        ⟨own, parameter, ?_⟩
      rintro records ⟨⟩
      exact discipline.fetch parameter
  | @persisted records esResult rmqResult queue stored =>
      obtain ⟨fetched, nonempty, returned, _⟩ := holds
      have extended : state.Extends
          { state with deadLetterQueue := queue } :=
        ⟨fun _ => id, fun _ => id, fun _ => id,
          (DLQStore.persistFailures_spec stored).1⟩
      exact .of_sameMemory discipline extended rfl
        (discipline.soundExtends extended global)
        ⟨discipline.fetchedExtends extended fetched, nonempty,
          returned.extend extended, fun _ => .of_persisted stored⟩
  | notPersisted records esResult rmqResult =>
      obtain ⟨fetched, nonempty, returned, _⟩ := holds
      exact .of_sameMemory discipline (.refl _) rfl global
        ⟨fetched, nonempty, returned, nofun⟩
  | committed records data =>
      have extended : state.Extends
          { state with
            checkpoint :=
              CheckpointManager.commitCheckpoint data state.checkpoint } :=
        .of_eq rfl rfl
      obtain ⟨committed, fetched, isLast⟩ := holds
      have stored := discipline.soundExtends extended committed
      refine .of_sameMemory discipline extended rfl ?_
        ⟨stored, discipline.fetchedExtends extended fetched, isLast⟩
      rcases codec.persisted_commitCheckpoint data state.checkpoint with
        isData | ⟨_, unchanged⟩
      · simpa [Global, isData] using stored
      · simpa [Global, unchanged] using
          discipline.soundExtends extended global

/-- A rejected statement keeps the discipline. -/
theorem kept_of_rejected
    (discipline : CursorDiscipline program codec Sound Fetched)
    (global : Global codec Sound table state)
    (holds : Local codec Sound Fetched table state call)
    (rejected : Rejected call next) :
    Kept codec Sound Fetched table state state next [] := by
  refine .of_sameMemory discipline (.refl _) rfl global ?_
  cases rejected with
  | checkpoint => exact nofun
  | status status => exact holds
  | lag cursor => exact holds
  | fetch cursor => exact ⟨holds.1, holds.2.1, nofun⟩
  | persist records esResult rmqResult =>
      exact ⟨holds.1, holds.2.1, holds.2.2.1, nofun⟩
  | commit records data => exact holds

/-- Starting a sink operation keeps the discipline. -/
theorem kept_of_begun
    (discipline : CursorDiscipline program codec Sound Fetched)
    (global : Global codec Sound table state)
    (holds : Local codec Sound Fetched table state call)
    {sink : Sink}
    (begun : Begun sink call next) :
    Kept codec Sound Fetched table state state next [] := by
  refine .of_sameMemory discipline (.refl _) rfl global ?_
  cases begun with
  | elasticsearch records rmqCall =>
      obtain ⟨own, fetched, nonempty, dispatched, _, rmq, _⟩ := holds
      exact ⟨own, fetched, nonempty, dispatched, nofun, rmq, nofun⟩
  | rabbitmq records esCall =>
      obtain ⟨own, fetched, nonempty, dispatched, es, _, _⟩ := holds
      exact ⟨own, fetched, nonempty, dispatched, es, nofun,
        fun _ _ _ is => by cases is⟩
  | orphan records => trivial

/-- A settled sink call is noted, and keeps the discipline. -/
theorem kept_of_settled
    (discipline : CursorDiscipline program codec Sound Fetched)
    (global : Global codec Sound table state)
    (holds : Local codec Sound Fetched table state call)
    {sink : Sink}
    {outcome : Option SinkResult}
    (settled : Settles sink outcome call next) :
    Kept codec Sound Fetched table state
      { state with
        history :=
          RunnerProgram.noteSettled state.history sink outcome next }
      next [] := by
  have extended :=
    RunnerState.Extends.noteSettled state sink outcome next
  refine .of_sameMemory discipline extended rfl
    (discipline.soundExtends extended global) ?_
  cases settled with
  | elasticsearch isSink records rmqCall each =>
      subst isSink
      obtain ⟨own, fetched, nonempty, dispatched, _, rmq, _⟩ := holds
      refine ⟨discipline.soundExtends extended own,
        discipline.fetchedExtends extended fetched, nonempty,
        extended.dispatched _ dispatched, ?_,
        fun result is => extended.reports _ (rmq result is), ?_⟩
      all_goals cases each
      · rintro result ⟨⟩
        simp [RunnerProgram.noteSettled, RunnerProgram.batchOf]
      · exact nofun
      · rintro esResult rmqResult ⟨⟩ rfl
        simp [RunnerProgram.noteSettled]
      · exact nofun
  | rabbitmq isSink records esCall each =>
      subst isSink
      obtain ⟨own, fetched, nonempty, dispatched, es, _, _⟩ := holds
      refine ⟨discipline.soundExtends extended own,
        discipline.fetchedExtends extended fetched, nonempty,
        extended.dispatched _ dispatched,
        fun result is => extended.reports _ (es result is), ?_, ?_⟩
      all_goals cases each
      · rintro result ⟨⟩
        simp [RunnerProgram.noteSettled, RunnerProgram.batchOf]
      · exact nofun
      · rintro esResult rmqResult rfl ⟨⟩
        simp [RunnerProgram.noteSettled]
      · exact fun _ _ _ is => by cases is
  | orphan records each =>
      trivial

/-- The loop condition, evaluated with a sound cursor in memory. -/
theorem local_of_loopHead
    (codec : CursorCodec Cursor)
    (Fetched :
      List SourceRow → RunnerState Cursor Gauges →
        List SourceRecord → Prop)
    {memory resumed : Memory Cursor Gauges}
    (head : LoopHead kind memory resumed next)
    (sameMemory : after.memory = resumed)
    (sound : Sound table after memory.cursor) :
    Sound table after after.memory.cursor ∧
      Local codec Sound Fetched table after next := by
  cases head with
  | stopped stop =>
      rw [sameMemory]
      exact ⟨sound, trivial⟩
  | fetch isBackfill go =>
      subst sameMemory
      exact ⟨sound, sound, sound, nofun⟩
  | lag isIncremental go =>
      subst sameMemory
      exact ⟨sound, sound⟩

/-- A batch that is about to be committed is finished. -/
theorem finished_of_ready
    (holds : Local codec Sound Fetched table state call)
    {records : List SourceRecord}
    {esResult rmqResult : SinkResult}
    (ready : ReadyToCommit records esResult rmqResult call) :
    Fetched table state records ∧ records ≠ [] ∧
      Finished state records := by
  cases ready with
  | clean noFailures =>
      obtain ⟨_, fetched, nonempty, dispatched, es, rmq, both⟩ := holds
      exact ⟨fetched, nonempty, esResult, rmqResult,
        ⟨dispatched, es _ rfl, rmq _ rfl, both _ _ rfl rfl⟩,
        .of_noFailures noFailures⟩
  | persisted answer =>
      obtain ⟨fetched, nonempty, returned, filed⟩ := holds
      exact ⟨fetched, nonempty, esResult, rmqResult, returned, filed rfl⟩

/-- A turn keeps the discipline. -/
theorem kept_of_turn
    (discipline : CursorDiscipline program codec Sound Fetched)
    (global : Global codec Sound table state)
    (holds : Local codec Sound Fetched table state call)
    {memory : Memory Cursor Gauges}
    {orphans : List (Call Cursor)}
    (turned : Turn kind codec state.memory call memory next orphans) :
    Kept codec Sound Fetched table state
      { state with
        memory
        history := RunnerProgram.noteDispatch state.history next }
      next orphans := by
  have extended :=
    RunnerState.Extends.noteDispatch state memory next
  have sound :
      ∀ {cursor}, Sound table state cursor →
        Sound table
          { state with
            memory
            history := RunnerProgram.noteDispatch state.history next }
          cursor := discipline.soundExtends extended
  have leftOrphans :
      ∀ records esCall rmqCall,
        ∀ new ∈ leftBehind records esCall rmqCall,
          Local codec Sound Fetched table
            { state with
              memory
              history := RunnerProgram.noteDispatch state.history next }
            new := by
    intro records esCall rmqCall new member
    rcases mem_leftBehind member with ⟨rfl, _⟩ | ⟨rfl, _⟩ <;> trivial
  cases turned with
  | loadStopped checkpoint stop =>
      have loaded := holds checkpoint rfl
      exact ⟨extended, sound global, fun _ => sound loaded, trivial,
        by simp⟩
  | load checkpoint go =>
      have loaded := holds checkpoint rfl
      exact ⟨extended, sound global, fun _ => sound loaded,
        fun _ => sound loaded, by simp⟩
  | loadFailed =>
      exact ⟨extended, sound global, sound, trivial, by simp⟩
  | runningFailed =>
      exact ⟨extended, sound global, sound, trivial, by simp⟩
  | statusWritten status answer last =>
      exact ⟨extended, sound global, sound, trivial, by simp⟩
  | completedWritten answer isBackfill =>
      exact ⟨extended, sound global, sound, trivial, by simp⟩
  | enter answer gauges head =>
      obtain ⟨own, resumed⟩ :=
        local_of_loopHead codec Fetched head rfl (sound (holds rfl))
      exact ⟨extended, sound global, fun _ => own, resumed, by simp⟩
  | measured cursor lag gauges isIncremental =>
      exact ⟨extended, sound global, sound,
        ⟨sound holds, sound holds, nofun⟩, by simp⟩
  | completed cursor isBackfill =>
      exact ⟨extended, sound global, sound, nofun, by simp⟩
  | idle cursor isIncremental =>
      exact ⟨extended, sound global, sound, sound holds.1, by simp⟩
  | dispatched cursor records nonempty =>
      obtain ⟨own, _, answered⟩ := holds
      refine ⟨extended, sound global, sound,
        ⟨sound own,
          discipline.fetchedExtends extended (answered records rfl),
          nonempty, ?_, nofun, nofun, nofun⟩, by simp⟩
      simp [RunnerProgram.noteDispatch]
  | persisting records esResult rmqResult failures =>
      obtain ⟨_, fetched, nonempty, dispatched, es, rmq, both⟩ := holds
      have returned : Returned state records esResult rmqResult :=
        ⟨dispatched, es _ rfl, rmq _ rfl, both _ _ rfl rfl⟩
      exact ⟨extended, sound global, sound,
        ⟨discipline.fetchedExtends extended fetched, nonempty,
          returned.extend extended, nofun⟩, by simp⟩
  | committing records esResult rmqResult data gauges ready commit =>
      obtain ⟨fetched, nonempty, done⟩ := finished_of_ready holds ready
      have isLast := List.getLast?_eq_some_getLast nonempty
      refine ⟨extended, sound global, sound,
        ⟨?_, discipline.fetchedExtends extended fetched,
          _, isLast, commit.cursor _ isLast⟩, by simp⟩
      rw [commit.cursor _ isLast]
      exact sound (discipline.advance fetched done isLast)
  | advanced records data answer head =>
      obtain ⟨own, resumed⟩ :=
        local_of_loopHead codec Fetched head rfl (sound holds.1)
      exact ⟨extended, sound global, fun _ => own, resumed, by simp⟩
  | advancedIdle records data answer isIncremental =>
      exact ⟨extended, sound global, fun _ => sound holds.1,
        sound holds.1, by simp⟩
  | woken isIncremental head =>
      obtain ⟨own, resumed⟩ :=
        local_of_loopHead codec Fetched head rfl (sound holds)
      exact ⟨extended, sound global, fun _ => own, resumed, by simp⟩
  | dispatchFailed records esCall rmqCall isBackfill rejected =>
      exact ⟨extended, sound global, sound, nofun,
        leftOrphans records esCall rmqCall⟩
  | dispatchRetried records esCall rmqCall isIncremental rejected =>
      exact ⟨extended, sound global, sound, sound holds.1,
        leftOrphans records esCall rmqCall⟩
  | failed failure =>
      exact ⟨extended, sound global, sound, nofun, by simp⟩

/-- Every step of a call keeps the discipline. -/
theorem kept_of_step
    (discipline : CursorDiscipline program codec Sound Fetched)
    (global : Global codec Sound table state)
    (holds : Local codec Sound Fetched table state call)
    {action : Act}
    {spawned : List (Call Cursor)}
    (step :
      Step program kind codec table state call action
        after next spawned) :
    Kept codec Sound Fetched table state after next spawned := by
  cases step with
  | serve now served => exact kept_of_served discipline global holds served
  | reject rejected =>
      exact kept_of_rejected discipline global holds rejected
  | begin sink begun => exact kept_of_begun discipline global holds begun
  | settle sink outcome settled =>
      exact kept_of_settled discipline global holds settled
  | turn now turned => exact kept_of_turn discipline global holds turned

/-- The assertion of another call survives a step. -/
theorem Kept.other
    (discipline : CursorDiscipline program codec Sound Fetched)
    {spawned : List (Call Cursor)}
    (kept : Kept codec Sound Fetched table state after next spawned)
    {other : Call Cursor}
    (holds : Local codec Sound Fetched table state other) :
    Local codec Sound Fetched table after other :=
  holds.transport kept.extended kept.memory
    (fun _ _ => discipline.soundExtends kept.extended)
    (fun _ _ => discipline.fetchedExtends kept.extended)

/-- A control call or a kill keeps the discipline. -/
theorem control_keeps
    (program : RunnerProgram Cursor Gauges)
    (discipline : CursorDiscipline program codec Sound Fetched)
    (global : Global codec Sound table state)
    {calls : List (Call Cursor)}
    (holds : ∀ call ∈ calls, Local codec Sound Fetched table state call)
    (event : Control) :
    Global codec Sound table (program.control state calls event).1 ∧
      ∀ call ∈ (program.control state calls event).2,
        Local codec Sound Fetched table
          (program.control state calls event).1 call := by
  have extended : state.Extends (program.control state calls event).1 := by
    cases event <;> exact .of_eq rfl rfl
  have persisted :
      Global codec Sound table (program.control state calls event).1 := by
    cases event <;> exact discipline.soundExtends extended global
  refine ⟨persisted, ?_⟩
  have others :
      (program.control state calls event).1.memory.cursor =
          state.memory.cursor →
        ∀ call ∈ calls,
          Local codec Sound Fetched table
            (program.control state calls event).1 call := by
    intro sameCursor call member
    refine (holds call member).transport extended ?_
      (fun _ _ => discipline.soundExtends extended)
      (fun _ _ => discipline.fetchedExtends extended)
    rw [sameCursor]
    exact discipline.soundExtends extended
  cases event with
  | start =>
      intro call member
      rcases List.mem_append.mp member with old | new
      · exact others rfl call old
      · obtain rfl := List.mem_singleton.mp new
        exact nofun
  | pause =>
      intro call member
      rcases List.mem_append.mp member with old | new
      · exact others rfl call old
      · obtain rfl := List.mem_singleton.mp new
        exact nofun
  | kill => exact List.forall_mem_nil _

/--
Every step of a runner's machine keeps the discipline, as long as the admitted
changes of the table do.
-/
theorem invariant_step
    (discipline : CursorDiscipline program codec Sound Fetched)
    (follows : program.Follows kind codec)
    (admits :
      RunnerProgram.World Cursor Gauges → RunnerProgram.Event → Prop)
    (ofChange :
      ∀ {world change changed},
        TaskMachine.Invariant (Global codec Sound)
          (Local codec Sound Fetched) world →
        admits world (.change change) →
        change.apply world.context = some changed →
        Global codec Sound changed world.shared ∧
          ∀ call ∈ world.tasks,
            Local codec Sound Fetched changed world.shared call)
    {before after : RunnerProgram.World Cursor Gauges}
    {event : RunnerProgram.Event}
    (holds :
      TaskMachine.Invariant (Global codec Sound)
        (Local codec Sound Fetched) before)
    (admitted : admits before event)
    (taken : program.machine.step before event = some after) :
    TaskMachine.Invariant (Global codec Sound)
      (Local codec Sound Fetched) after := by
  refine TaskMachine.Invariant.step ?_ ?_ ofChange holds admitted taken
  · intro world index call action shared next spawned
      worldHolds _ _ callHolds moved
    have kept := kept_of_step discipline worldHolds.global callHolds
      (follows.act_spec moved)
    exact ⟨kept.global, kept.next, kept.spawned,
      fun _ => kept.other discipline⟩
  · intro world event shared tasks worldHolds _ moved
    have same : program.control world.shared world.tasks event =
        (shared, tasks) := Option.some.inj moved
    have kept := control_keeps program discipline
      worldHolds.global worldHolds.local_ event
    rwa [same] at kept

/-- A freshly constructed runner starts from the persisted watermark. -/
theorem invariant_initial
    {checkpoint : Option ReplicationCheckpoint}
    (sound :
      Sound table (program.initial table checkpoint).shared
        (codec.persisted checkpoint)) :
    TaskMachine.Invariant (Global codec Sound)
      (Local codec Sound Fetched)
      (program.initial table checkpoint) :=
  ⟨sound, nofun⟩

end Steps

/-- Two disciplines hold together. -/
theorem and
    {program : RunnerProgram Cursor Gauges}
    {OtherSound :
      List SourceRow → RunnerState Cursor Gauges → Cursor → Prop}
    {OtherFetched :
      List SourceRow → RunnerState Cursor Gauges →
        List SourceRecord → Prop}
    (first : CursorDiscipline program codec Sound Fetched)
    (second : CursorDiscipline program codec OtherSound OtherFetched) :
    CursorDiscipline program codec
      (fun table state cursor =>
        Sound table state cursor ∧ OtherSound table state cursor)
      (fun table state records =>
        Fetched table state records ∧ OtherFetched table state records) where
  fetch sound := ⟨first.fetch sound.1, second.fetch sound.2⟩
  advance fetched finished isLast :=
    ⟨first.advance fetched.1 finished isLast,
      second.advance fetched.2 finished isLast⟩
  soundExtends extended sound :=
    ⟨first.soundExtends extended sound.1,
      second.soundExtends extended sound.2⟩
  fetchedExtends extended fetched :=
    ⟨first.fetchedExtends extended fetched.1,
      second.fetchedExtends extended fetched.2⟩

/-- That every batch is the answer of a fetch is a discipline. -/
theorem fetchedFrom
    {program : RunnerProgram Cursor Gauges} :
    CursorDiscipline program codec
      (fun _ _ _ => True)
      (fun table _ records =>
        ∃ after, program.fetch table after = records) where
  fetch _ := ⟨_, rfl⟩
  advance _ _ _ := trivial
  soundExtends _ _ := trivial
  fetchedExtends _ fetched := fetched

end CursorDiscipline

end Replication
