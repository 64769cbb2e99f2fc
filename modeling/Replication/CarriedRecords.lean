import Replication.RunnerStep

namespace Replication

/-!
# Records that calls carry

A batch is fetched by one call and carried by it, by its dispatch and by what a
rejected dispatch leaves behind.  A function that says which records a call
carries, for whatever purpose, only grows by fetches: what is carried after a
step was carried before, or has just been read from the table.
-/

variable {Cursor Gauges : Type}

/-- A call that holds no batch on its way to the sinks. -/
def Call.Batchless : Call Cursor → Prop
  | .fetchBatch _ (.fulfilled _) => False
  | .dispatch _ _ _ => False
  | .orphan _ _ _ => False
  | _ => True

/-- Records are carried from the fetch to the sinks and nowhere else. -/
structure Carries (carried : Call Cursor → List SourceRecord) : Prop where
  fetched :
    ∀ cursor records,
      carried (.fetchBatch cursor (.fulfilled records)) = records
  dispatched :
    ∀ records, carried (.dispatch records .waiting .waiting) ⊆ records
  begun :
    ∀ {sink call next}, Begun sink call next → carried next ⊆ carried call
  settled :
    ∀ {sink outcome call next},
      Settles sink outcome call next → carried next ⊆ carried call
  leftBehind :
    ∀ {records esCall rmqCall new},
      new ∈ leftBehind records esCall rmqCall →
      carried new ⊆ carried (.dispatch records esCall rmqCall)
  batchless : ∀ {call}, call.Batchless → carried call = []

/-- Where a suspended call comes from. -/
inductive Origin
    (program : RunnerProgram Cursor Gauges)
    (kind : RunnerKind)
    (codec : CursorCodec Cursor)
    (world : RunnerProgram.World Cursor Gauges)
    (call : Call Cursor) : Prop where
  | kept (member : call ∈ world.tasks)
  | started (isStart : call = .getCheckpoint .pending)
  | paused (isPause : call = .updateStatus .paused .pending)
  | stepped
      {old next : Call Cursor}
      {action : Act}
      {after : RunnerState Cursor Gauges}
      {spawned : List (Call Cursor)}
      (member : old ∈ world.tasks)
      (step :
        Step program kind codec world.context world.shared old action
          after next spawned)
      (isNew : call = next ∨ call ∈ spawned)

section Steps

variable
  {program : RunnerProgram Cursor Gauges}
  {kind : RunnerKind}
  {codec : CursorCodec Cursor}
  {table : List SourceRow}
  {state after : RunnerState Cursor Gauges}
  {call next : Call Cursor}
  {action : Act}
  {spawned : List (Call Cursor)}
  {carried : Call Cursor → List SourceRecord}

/-- Every suspended call comes from one of these. -/
theorem RunnerProgram.Follows.origin
    (follows : program.Follows kind codec)
    {world reached : RunnerProgram.World Cursor Gauges}
    {event : RunnerProgram.Event}
    (taken : program.machine.step world event = some reached)
    (member : call ∈ reached.tasks) :
    Origin program kind codec world call := by
  cases event with
  | act index action =>
      obtain ⟨old, shared, next, spawned, found, moved, rfl⟩ :=
        TaskMachine.step_act taken
      have step :
          Step program kind codec world.context world.shared old action
            shared next spawned := follows.act_spec moved
      rcases TaskMachine.mem_set_append member with kept | isNext | new
      · exact .kept kept
      · exact .stepped (List.mem_of_getElem? found) step (.inl isNext)
      · exact .stepped (List.mem_of_getElem? found) step (.inr new)
  | env event =>
      obtain ⟨shared, tasks, moved, rfl⟩ := TaskMachine.step_env taken
      cases event with
      | start =>
          cases moved
          rcases List.mem_append.mp member with kept | new
          · exact .kept kept
          · exact .started (List.mem_singleton.mp new)
      | pause =>
          cases moved
          rcases List.mem_append.mp member with kept | new
          · exact .kept kept
          · exact .paused (List.mem_singleton.mp new)
      | kill =>
          cases moved
          cases member
  | change change =>
      obtain ⟨_, _, rfl⟩ := TaskMachine.step_change taken
      exact .kept member

/-- The loop condition holds no batch. -/
theorem LoopHead.batchless
    {memory entered : Memory Cursor Gauges}
    (head : LoopHead kind memory entered next) :
    next.Batchless := by
  cases head <;> trivial

/-- A call without a batch carries no record. -/
theorem Carries.not_mem
    (carries : Carries carried)
    (batchless : call.Batchless)
    (record : SourceRecord) :
    record ∉ carried call := by
  rw [carries.batchless batchless]
  exact List.not_mem_nil

/-- A record that is carried after a step was carried, or is fetched. -/
theorem Carries.of_step
    (carries : Carries carried)
    (step :
      Step program kind codec table state call action after next spawned)
    {record : SourceRecord}
    (later :
      record ∈ carried next ∨ ∃ new ∈ spawned, record ∈ carried new) :
    record ∈ carried call ∨
      ∃ cursor, record ∈ program.fetch table cursor := by
  have none {call : Call Cursor} (batchless : call.Batchless) :
      record ∉ carried call := carries.not_mem batchless record
  cases step with
  | serve now served =>
      have inNext := later.resolve_right (by simp)
      cases served with
      | fetch cursor =>
          rw [carries.fetched] at inNext
          exact .inr ⟨cursor, inNext⟩
      | _ => exact absurd inNext (none trivial)
  | reject rejected =>
      have inNext := later.resolve_right (by simp)
      cases rejected <;> exact absurd inNext (none trivial)
  | begin sink begun =>
      exact .inl (carries.begun begun (later.resolve_right (by simp)))
  | settle sink outcome settled =>
      exact .inl (carries.settled settled (later.resolve_right (by simp)))
  | turn now turned =>
      cases turned with
      | dispatched cursor records nonempty =>
          left
          rw [carries.fetched]
          exact carries.dispatched records (later.resolve_right (by simp))
      | dispatchFailed records esCall rmqCall isBackfill rejected =>
          rcases later with inNext | ⟨new, member, inNew⟩
          · exact absurd inNext (none trivial)
          · exact .inl (carries.leftBehind member inNew)
      | dispatchRetried records esCall rmqCall isIncremental rejected =>
          rcases later with inNext | ⟨new, member, inNew⟩
          · exact absurd inNext (none trivial)
          · exact .inl (carries.leftBehind member inNew)
      | enter answer gauges head =>
          exact absurd (later.resolve_right (by simp)) (none head.batchless)
      | advanced records data answer head =>
          exact absurd (later.resolve_right (by simp)) (none head.batchless)
      | woken isIncremental head =>
          exact absurd (later.resolve_right (by simp)) (none head.batchless)
      | _ => exact absurd (later.resolve_right (by simp)) (none trivial)

/-- So is every record carried by the calls of a runner. -/
theorem Carries.of_machine_step
    (carries : Carries carried)
    (follows : program.Follows kind codec)
    {world reached : RunnerProgram.World Cursor Gauges}
    {event : RunnerProgram.Event}
    (taken : program.machine.step world event = some reached)
    (member : call ∈ reached.tasks)
    {record : SourceRecord}
    (inCall : record ∈ carried call) :
    (∃ old ∈ world.tasks, record ∈ carried old) ∨
      ∃ cursor, record ∈ program.fetch world.context cursor := by
  cases follows.origin taken member with
  | kept old => exact .inl ⟨call, old, inCall⟩
  | started isStart =>
      have batchless : call.Batchless := isStart ▸ trivial
      exact absurd inCall (carries.not_mem batchless record)
  | paused isPause =>
      have batchless : call.Batchless := isPause ▸ trivial
      exact absurd inCall (carries.not_mem batchless record)
  | @stepped old next action after spawned oldMember step isNew =>
      have later :
          record ∈ carried next ∨
            ∃ new ∈ spawned, record ∈ carried new := by
        rcases isNew with rfl | new
        · exact .inl inCall
        · exact .inr ⟨call, new, inCall⟩
      exact (carries.of_step step later).imp_left fun inOld =>
        ⟨old, oldMember, inOld⟩

end Steps

end Replication
