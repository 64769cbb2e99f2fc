import Replication.SingleLoop

namespace Replication

/-!
# What a resolved pause leaves running

`pause` asks the loop to stop and awaits one status update of its own; it does
not wait for the loop.  The loop looks at the request only at its loop condition,
so an iteration that has begun goes on to dispatch and commit its batch, whether
`pause` has resolved or not.  A pause leaves nothing running exactly when no call
is inside an iteration at that moment.
-/

variable {Cursor Gauges : Type}

namespace Call

/-- A fetched batch is with the sinks, or not yet filed and committed. -/
def InFlight : Call Cursor → Prop
  | .dispatch _ _ _ => True
  | .persistFailures _ _ _ _ => True
  | .commitCheckpoint _ _ .pending => True
  | .orphan _ _ call => call.Outstanding
  | _ => False

/-- The loop asks for a stop before it fetches or dispatches again. -/
def Parked : Call Cursor → Prop
  | .getIncrementalLag _ .pending => False
  | .getIncrementalLag _ (.fulfilled _) => False
  | .fetchBatch _ .pending => False
  | .fetchBatch _ (.fulfilled (_ :: _)) => False
  | .dispatch _ _ _ => False
  | .persistFailures _ _ _ _ => False
  | .commitCheckpoint _ _ .pending => False
  | .orphan _ _ call => ¬ call.Outstanding
  | _ => True

instance : DecidablePred (@InFlight Cursor)
  | .dispatch _ _ _ => isTrue trivial
  | .persistFailures _ _ _ _ => isTrue trivial
  | .commitCheckpoint _ _ .pending => isTrue trivial
  | .commitCheckpoint _ _ (.fulfilled _) => isFalse id
  | .commitCheckpoint _ _ .rejected => isFalse id
  | .orphan _ _ call => inferInstanceAs (Decidable call.Outstanding)
  | .getCheckpoint _ => isFalse id
  | .updateStatus _ _ => isFalse id
  | .getIncrementalLag _ _ => isFalse id
  | .fetchBatch _ _ => isFalse id
  | .sleep => isFalse id
  | .returned => isFalse id

/-- The call has returned. -/
def isReturned : Call Cursor → Bool
  | .returned => true
  | _ => false

/-- What a lookup of a returned call finds. -/
theorem any_isReturned_iff {found : Option (Call Cursor)} :
    found.any isReturned = true ↔ found = some .returned := by
  cases found with
  | none => simp
  | some call => cases call <;> simp [isReturned]

/-- What is parked is not in flight. -/
theorem Parked.not_inFlight
    {call : Call Cursor}
    (parked : call.Parked) :
    ¬ call.InFlight := by
  cases call with
  | dispatch => exact parked.elim
  | persistFailures => exact parked.elim
  | commitCheckpoint records data answer =>
      cases answer with
      | pending => exact parked.elim
      | fulfilled => exact id
      | rejected => exact id
  | orphan => exact parked
  | getCheckpoint => exact id
  | updateStatus => exact id
  | getIncrementalLag => exact id
  | fetchBatch => exact id
  | sleep => exact id
  | returned => exact id

end Call

/-- Neither `start` nor `resume`, and the process lives on. -/
def NoRestart
    (_ : RunnerProgram.World Cursor Gauges) : RunnerProgram.Event → Prop
  | .env .start => False
  | .env .kill => False
  | _ => True

instance (world : RunnerProgram.World Cursor Gauges) :
    DecidablePred (NoRestart world)
  | .env .start => isFalse id
  | .env .kill => isFalse id
  | .env .pause => isTrue trivial
  | .act _ _ => isTrue trivial
  | .change _ => isTrue trivial

/-- Commits the batch of one of the calls. -/
def Commits
    (world : RunnerProgram.World Cursor Gauges)
    (event : RunnerProgram.Event) : Prop :=
  ∃ index now records data,
    event = .act index (.serve now) ∧
      world.tasks[index]? = some (.commitCheckpoint records data .pending)

namespace RunnerProgram

variable
  (program : RunnerProgram Cursor Gauges)
  (codec : CursorCodec Cursor)

/-- The world right after `pause()` has been called. -/
def paused (world : World Cursor Gauges) : World Cursor Gauges :=
  { world with
    shared := (program.control world.shared world.tasks .pause).1
    tasks := (program.control world.shared world.tasks .pause).2 }

/--
A `pause()` called in this world quiesces the runner: once it has resolved, and
until a restart, no batch is in flight and no step dispatches a batch, starts a
sink operation, commits, or moves the persisted watermark.
-/
def Quiesces (world : World Cursor Gauges) : Prop :=
  ∀ events resolved,
    Run program.machine.step NoRestart
        (program.paused world) events resolved →
      resolved.tasks[world.tasks.length]? = some .returned →
      (∀ call ∈ resolved.tasks, ¬ call.InFlight) ∧
        ∀ event after,
          NoRestart resolved event →
          program.machine.step resolved event = some after →
          after.shared.history.dispatched =
              resolved.shared.history.dispatched ∧
            (∀ index sink, event ≠ .act index (.begin sink)) ∧
            ¬ Commits resolved event ∧
            codec.persisted after.shared.checkpoint =
              codec.persisted resolved.shared.checkpoint

end RunnerProgram

/-! ### Parked calls stay parked -/

section Parked

variable
  {program : RunnerProgram Cursor Gauges}
  {kind : RunnerKind}
  {codec : CursorCodec Cursor}
  {table : List SourceRow}
  {state after : RunnerState Cursor Gauges}
  {call next : Call Cursor}
  {action : Act}
  {spawned : List (Call Cursor)}

/-- The loop condition after a requested stop. -/
theorem LoopHead.parked
    {memory later : Memory Cursor Gauges}
    (head : LoopHead kind memory later next)
    (stop : memory.stopRequested = true) :
    later.stopRequested = true ∧ next.Parked := by
  cases head with
  | stopped => exact ⟨stop, trivial⟩
  | fetch _ go => exact absurd (stop.symm.trans go) nofun
  | lag _ go => exact absurd (stop.symm.trans go) nofun

/-- A turn of a parked call after a requested stop. -/
theorem Turn.parked
    {memory later : Memory Cursor Gauges}
    (turned : Turn kind codec memory call later next spawned)
    (stop : memory.stopRequested = true)
    (parked : call.Parked) :
    later.stopRequested = true ∧ next.Parked ∧ spawned = [] := by
  cases turned with
  | loadStopped => exact ⟨stop, trivial, rfl⟩
  | load _ go => exact absurd (stop.symm.trans go) nofun
  | loadFailed => exact ⟨stop, trivial, rfl⟩
  | runningFailed => exact ⟨stop, trivial, rfl⟩
  | statusWritten => exact ⟨stop, trivial, rfl⟩
  | completedWritten => exact ⟨stop, trivial, rfl⟩
  | enter _ _ head =>
      obtain ⟨stopped, parked⟩ := head.parked stop
      exact ⟨stopped, parked, rfl⟩
  | measured => exact parked.elim
  | completed => exact ⟨stop, trivial, rfl⟩
  | idle => exact ⟨stop, trivial, rfl⟩
  | dispatched _ records nonempty =>
      cases records with
      | nil => exact absurd rfl nonempty
      | cons => exact parked.elim
  | persisting => exact parked.elim
  | committing _ _ _ _ _ ready =>
      cases ready with
      | clean => exact parked.elim
      | persisted => exact parked.elim
  | advanced _ _ _ head =>
      obtain ⟨stopped, parked⟩ := head.parked stop
      exact ⟨stopped, parked, rfl⟩
  | advancedIdle => exact ⟨stop, trivial, rfl⟩
  | woken _ head =>
      obtain ⟨stopped, parked⟩ := head.parked stop
      exact ⟨stopped, parked, rfl⟩
  | dispatchFailed => exact parked.elim
  | dispatchRetried => exact parked.elim
  | failed => exact ⟨stop, trivial, rfl⟩

/-- A turn of a parked call enters no dispatch. -/
theorem noteDispatch_of_parked
    (history : History)
    (parked : next.Parked) :
    RunnerProgram.noteDispatch history next = history := by
  cases next with
  | dispatch => exact parked.elim
  | getCheckpoint => rfl
  | updateStatus => rfl
  | getIncrementalLag => rfl
  | fetchBatch => rfl
  | persistFailures => rfl
  | commitCheckpoint => rfl
  | sleep => rfl
  | orphan => rfl
  | returned => rfl

/-- A step of a parked call leaves it parked and starts nothing. -/
structure StaysParked
    (codec : CursorCodec Cursor)
    (state after : RunnerState Cursor Gauges)
    (next : Call Cursor)
    (spawned : List (Call Cursor)) : Prop where
  stop : after.memory.stopRequested = true
  parked : next.Parked
  spawned : spawned = []
  dispatched : after.history.dispatched = state.history.dispatched
  watermark :
    codec.persisted after.checkpoint = codec.persisted state.checkpoint

/-- Every step of a parked call is such a step. -/
theorem Step.parked
    (stepped : Step program kind codec table state call action
      after next spawned)
    (stop : state.memory.stopRequested = true)
    (parked : call.Parked) :
    StaysParked codec state after next spawned ∧
      ∀ sink, action ≠ .begin sink := by
  cases stepped with
  | serve now served =>
      refine ⟨?_, nofun⟩
      cases served with
      | checkpoint => exact ⟨stop, trivial, rfl, rfl, rfl⟩
      | status status =>
          exact ⟨stop, trivial, rfl, rfl,
            codec.persisted_updateStatus status state.checkpoint⟩
      | lag => exact parked.elim
      | fetch => exact parked.elim
      | persisted => exact parked.elim
      | notPersisted => exact parked.elim
      | committed => exact parked.elim
  | reject rejected =>
      refine ⟨?_, nofun⟩
      cases rejected with
      | checkpoint => exact ⟨stop, trivial, rfl, rfl, rfl⟩
      | status => exact ⟨stop, trivial, rfl, rfl, rfl⟩
      | lag => exact parked.elim
      | fetch => exact parked.elim
      | persist => exact parked.elim
      | commit => exact parked.elim
  | begin sink begun =>
      cases begun with
      | elasticsearch => exact parked.elim
      | rabbitmq => exact parked.elim
      | orphan => exact (parked (.inl rfl)).elim
  | settle sink outcome settled =>
      cases settled with
      | elasticsearch => exact parked.elim
      | rabbitmq => exact parked.elim
      | orphan _ settles =>
          cases settles with
          | fulfilled => exact (parked (.inr rfl)).elim
          | rejected outstanding => exact (parked outstanding).elim
  | turn now turned =>
      obtain ⟨stopped, stays, none⟩ := turned.parked stop parked
      refine ⟨⟨stopped, stays, none, ?_, rfl⟩, nofun⟩
      rw [noteDispatch_of_parked state.history stays]

end Parked

/-! ### A pause of parked calls quiesces -/

section Quiesces

variable
  {program : RunnerProgram Cursor Gauges}
  {kind : RunnerKind}
  {codec : CursorCodec Cursor}

/-- A stop has been requested and every call is parked. -/
structure AllParked (world : RunnerProgram.World Cursor Gauges) : Prop where
  stop : world.shared.memory.stopRequested = true
  parked : ∀ call ∈ world.tasks, call.Parked

/-- Without a restart parked calls stay parked, and nothing is done. -/
theorem AllParked.step
    (follows : program.Follows kind codec)
    {before after : RunnerProgram.World Cursor Gauges}
    {event : RunnerProgram.Event}
    (holds : AllParked before)
    (continues : NoRestart before event)
    (taken : program.machine.step before event = some after) :
    AllParked after ∧
      after.shared.history.dispatched =
          before.shared.history.dispatched ∧
        (∀ index sink, event ≠ .act index (.begin sink)) ∧
        codec.persisted after.shared.checkpoint =
          codec.persisted before.shared.checkpoint := by
  cases event with
  | act index action =>
      obtain ⟨call, shared, next, spawned, found, moved, rfl⟩ :=
        TaskMachine.step_act taken
      obtain ⟨stays, notBegun⟩ :=
        (follows.act_spec moved).parked holds.stop
          (holds.parked call (List.mem_of_getElem? found))
      refine ⟨⟨stays.stop, fun other member => ?_⟩, stays.dispatched, ?_,
        stays.watermark⟩
      · rw [stays.spawned, List.append_nil] at member
        rcases List.mem_or_eq_of_mem_set member with old | rfl
        · exact holds.parked other old
        · exact stays.parked
      · rintro _ sink same
        cases same
        exact notBegun sink rfl
  | env event =>
      obtain ⟨shared, calls, moved, rfl⟩ := TaskMachine.step_env taken
      cases event with
      | start => exact continues.elim
      | kill => exact continues.elim
      | pause =>
          cases moved
          refine ⟨⟨rfl, fun call member => ?_⟩, rfl, nofun, rfl⟩
          rcases List.mem_append.mp member with old | new
          · exact holds.parked call old
          · obtain rfl := List.mem_singleton.mp new
            exact trivial
  | change change =>
      obtain ⟨table, _, rfl⟩ := TaskMachine.step_change taken
      exact ⟨⟨holds.stop, holds.parked⟩, rfl, nofun, rfl⟩

/-- Right after a pause of parked calls. -/
theorem AllParked.paused
    {world : RunnerProgram.World Cursor Gauges}
    (parked : ∀ call ∈ world.tasks, call.Parked) :
    AllParked (program.paused world) := by
  refine ⟨rfl, fun call member => ?_⟩
  rcases List.mem_append.mp member with old | new
  · exact parked call old
  · obtain rfl := List.mem_singleton.mp new
    exact trivial

/-- Nothing parked is committed. -/
theorem AllParked.not_commits
    {world : RunnerProgram.World Cursor Gauges}
    {event : RunnerProgram.Event}
    (holds : AllParked world) :
    ¬ Commits world event := by
  rintro ⟨_, _, _, _, _, found⟩
  exact holds.parked _ (List.mem_of_getElem? found)

/-- A pause that finds every call parked quiesces the runner. -/
theorem quiesces_of_parked
    (follows : program.Follows kind codec)
    {world : RunnerProgram.World Cursor Gauges}
    (parked : ∀ call ∈ world.tasks, call.Parked) :
    program.Quiesces codec world := by
  intro events resolved run _
  have holds : AllParked resolved :=
    run.invariant AllParked
      (fun holds continues taken =>
        (holds.step follows continues taken).1)
      (.paused parked)
  refine ⟨fun call member => (holds.parked call member).not_inFlight, ?_⟩
  intro event after continues taken
  obtain ⟨_, dispatched, notBegun, watermark⟩ :=
    holds.step follows continues taken
  exact ⟨dispatched, notBegun, holds.not_commits, watermark⟩

end Quiesces

/-! ### A pause inside an iteration does not -/

/-- The turns by which an iteration goes on to its dispatch. -/
structure Proceeds
    (program : RunnerProgram Cursor Gauges)
    (kind : RunnerKind) : Prop where
  statusWritten :
    ∀ memory now,
      program.turn memory now (.updateStatus .paused (.fulfilled ())) =
        some (memory, .returned, [])
  measured :
    kind = .incremental →
      ∀ memory now cursor lag,
        ∃ after,
          program.turn memory now
              (.getIncrementalLag cursor (.fulfilled lag)) =
            some (after, .fetchBatch memory.cursor .pending, [])
  dispatched :
    ∀ memory now cursor record rest,
      program.turn memory now
          (.fetchBatch cursor (.fulfilled (record :: rest))) =
        some (memory, .dispatch (record :: rest) .waiting .waiting, [])
  /-- A client can insert a row that the next fetch returns. -/
  fetches :
    ∀ table cursor,
      ∃ row,
        (∀ old ∈ table, old.id ≠ row.id) ∧
          program.fetch (table ++ [row]) cursor ≠ []

/-- An id above that of every row. -/
theorem exists_fresh_id
    (table : List SourceRow)
    (low : Nat) :
    ∃ id, low < id ∧ ∀ row ∈ table, row.id ≠ id := by
  induction table generalizing low with
  | nil => exact ⟨low + 1, Nat.lt_succ_self low, nofun⟩
  | cons row rest inductionHypothesis =>
      obtain ⟨id, above, fresh⟩ :=
        inductionHypothesis (max low row.id)
      refine ⟨id, (le_max_left _ _).trans_lt above, ?_⟩
      intro other member
      rcases List.mem_cons.mp member with rfl | old
      · exact ((le_max_right _ _).trans_lt above).ne
      · exact fresh other old

/-- The backfill runner goes on to its dispatch. -/
theorem BackfillRunner.proceeds
    (parse : String → Option Json)
    (batchSize : Nat) :
    Proceeds (program parse batchSize) .backfill where
  statusWritten _ _ := rfl
  measured := nofun
  dispatched _ _ _ _ _ := rfl
  fetches table cursor := by
    obtain ⟨id, above, fresh⟩ := exists_fresh_id table cursor
    refine ⟨sampleRow id 0, fresh, fun empty => ?_⟩
    have below :=
      (Keyset.page_eq_nil_iff (fetchLimit_pos batchSize)).mp
        (List.map_eq_nil_iff.mp empty) (sampleRow id 0) (by simp)
    exact absurd above (Nat.not_lt.mpr below)

/-- The incremental runner goes on to its dispatch. -/
theorem IncrementalRunner.proceeds
    (parse : String → Option Json)
    (batchSize : Nat) :
    Proceeds (program parse batchSize) .incremental where
  statusWritten _ _ := rfl
  measured _ _ _ _ _ := ⟨_, rfl⟩
  dispatched _ _ _ _ _ := rfl
  fetches table cursor := by
    obtain ⟨id, _, fresh⟩ := exists_fresh_id table 0
    let row := sampleRow id (cursor.timestamp + 1)
    refine ⟨row, fresh, fun empty => ?_⟩
    have later : cursor.timestamp < truncateMillis row.updatedAt := by
      simp only [row, sampleRow, truncateMillis]
      omega
    have selected :
        row ∈ SourceReader.incrementalRows (table ++ [row]) cursor := by
      simp [SourceReader.incrementalRows, later]
    have none := List.map_eq_nil_iff.mp empty
    rw [SourceReader.incrementalBatch, List.take_eq_nil_iff] at none
    rcases none with noRoom | noRow
    · exact (fetchLimit_pos batchSize).ne' noRoom
    · have kept := (List.mem_insertionSort
        (fun first second : SourceRow =>
          first.storedWatermark ≤ second.storedWatermark)).mpr selected
      simp [noRow] at kept

section Disturbed

variable
  {program : RunnerProgram Cursor Gauges}
  {kind : RunnerKind}
  {codec : CursorCodec Cursor}

/--
Without a restart the call at that position can get to a batch in flight, while
the other calls wait.
-/
def GetsInFlight
    (program : RunnerProgram Cursor Gauges)
    (world : RunnerProgram.World Cursor Gauges)
    (index : Nat) : Prop :=
  ∃ events later call,
    Run program.machine.step NoRestart world events later ∧
      later.tasks[index]? = some call ∧ call.InFlight ∧
      ∀ other, other ≠ index →
        other < world.tasks.length →
        later.tasks[other]? = world.tasks[other]?

/-- A call that is in flight already. -/
theorem GetsInFlight.of_inFlight
    {world : RunnerProgram.World Cursor Gauges}
    {index : Nat}
    {call : Call Cursor}
    (found : world.tasks[index]? = some call)
    (inFlight : call.InFlight) :
    GetsInFlight program world index :=
  ⟨[], world, call, .nil world, found, inFlight, fun _ _ _ => rfl⟩

/-- A step of the call itself. -/
theorem GetsInFlight.of_act
    {world : RunnerProgram.World Cursor Gauges}
    {index : Nat}
    {call next : Call Cursor}
    {action : Act}
    {shared : RunnerState Cursor Gauges}
    (found : world.tasks[index]? = some call)
    (moved :
      program.act world.context world.shared call action =
        some (shared, next, []))
    (rest :
      GetsInFlight program
        { world with shared, tasks := world.tasks.set index next } index) :
    GetsInFlight program world index := by
  have taken :
      program.machine.step world (.act index action) =
        some { world with
          shared, tasks := world.tasks.set index next } := by
    simp [TaskMachine.step, found, RunnerProgram.machine, moved]
  have continues : NoRestart world (.act index action) := trivial
  obtain ⟨events, later, last, run, atIndex, inFlight, others⟩ := rest
  refine ⟨_, later, last, .cons continues taken run, atIndex, inFlight,
    fun other elsewhere bound => ?_⟩
  rw [others other elsewhere (by simpa using bound),
    List.getElem?_set_ne elsewhere.symm]

/-- The call takes its next turn. -/
theorem GetsInFlight.of_turn
    {world : RunnerProgram.World Cursor Gauges}
    {index : Nat}
    {call next : Call Cursor}
    {memory : Memory Cursor Gauges}
    (found : world.tasks[index]? = some call)
    (turned :
      program.turn world.shared.memory 0 call = some (memory, next, []))
    (rest :
      GetsInFlight program
        { world with
          shared :=
            { world.shared with
              memory
              history :=
                RunnerProgram.noteDispatch world.shared.history next }
          tasks := world.tasks.set index next } index) :
    GetsInFlight program world index := by
  have moved :
      program.act world.context world.shared call (.turn 0) =
        some
          ({ world.shared with
              memory
              history :=
                RunnerProgram.noteDispatch world.shared.history next },
            next, []) := by
    simp [RunnerProgram.act, turned]
  exact .of_act found moved rest

/-- The database answers the call and changes nothing. -/
theorem GetsInFlight.of_serve
    {world : RunnerProgram.World Cursor Gauges}
    {index : Nat}
    {call next : Call Cursor}
    (found : world.tasks[index]? = some call)
    (served :
      program.serve world.context 0 world.shared call =
        some (world.shared, next))
    (rest :
      GetsInFlight program
        { world with tasks := world.tasks.set index next } index) :
    GetsInFlight program world index := by
  have moved :
      program.act world.context world.shared call (.serve 0) =
        some (world.shared, next, []) := by
    simp [RunnerProgram.act, served]
  exact .of_act found moved rest

/-- A change of the table. -/
theorem GetsInFlight.of_change
    {world : RunnerProgram.World Cursor Gauges}
    {index : Nat}
    {change : SourceChange}
    {table : List SourceRow}
    (changed : change.apply world.context = some table)
    (rest : GetsInFlight program { world with context := table } index) :
    GetsInFlight program world index := by
  have taken :
      program.machine.step world (.change change) =
        some { world with context := table } := by
    simp [TaskMachine.step, RunnerProgram.machine, changed]
  have continues : NoRestart world (.change change) := trivial
  obtain ⟨events, later, last, run, rest⟩ := rest
  exact ⟨_, later, last, .cons continues taken run, rest⟩

/-- A fetch under way can return a row, which is then dispatched. -/
theorem GetsInFlight.of_fetch
    (proceeds : Proceeds program kind)
    {world : RunnerProgram.World Cursor Gauges}
    {index : Nat}
    {cursor : Cursor}
    {answer : Promise (List SourceRecord)}
    (found : world.tasks[index]? = some (.fetchBatch cursor answer))
    (unparked : ¬ (Call.fetchBatch cursor answer).Parked) :
    GetsInFlight program world index := by
  have bound := (List.getElem?_eq_some_iff.mp found).1
  have dispatches
      {world : RunnerProgram.World Cursor Gauges}
      {records : List SourceRecord}
      (nonempty : records ≠ [])
      (found :
        world.tasks[index]? =
          some (.fetchBatch cursor (.fulfilled records))) :
      GetsInFlight program world index := by
    have bound := (List.getElem?_eq_some_iff.mp found).1
    obtain ⟨record, rest, rfl⟩ := List.exists_cons_of_ne_nil nonempty
    refine .of_turn found
      (proceeds.dispatched world.shared.memory 0 cursor record rest) ?_
    exact .of_inFlight (List.getElem?_set_self bound) trivial
  cases answer with
  | pending =>
      obtain ⟨row, fresh, returns⟩ :=
        proceeds.fetches world.context cursor
      have inserted :
          (SourceChange.insert row).apply world.context =
            some (world.context ++ [row]) :=
        if_pos fresh
      exact .of_change inserted (.of_serve found rfl
        (dispatches returns (List.getElem?_set_self bound)))
  | fulfilled records =>
      cases records with
      | nil => exact absurd trivial unparked
      | cons record rest => exact dispatches (by simp) found
  | rejected => exact absurd trivial unparked

/-- A call that is not parked can get to a batch in flight. -/
theorem getsInFlight_of_not_parked
    (proceeds : Proceeds program kind)
    {world : RunnerProgram.World Cursor Gauges}
    {index : Nat}
    {call : Call Cursor}
    (found : world.tasks[index]? = some call)
    (fits :
      ∀ cursor answer, call = .getIncrementalLag cursor answer →
        kind = .incremental)
    (unparked : ¬ call.Parked) :
    GetsInFlight program world index := by
  have bound := (List.getElem?_eq_some_iff.mp found).1
  have measures
      {world : RunnerProgram.World Cursor Gauges}
      {cursor : Cursor}
      {lag : Nat × Option Int}
      (isIncremental : kind = .incremental)
      (found :
        world.tasks[index]? =
          some (.getIncrementalLag cursor (.fulfilled lag))) :
      GetsInFlight program world index := by
    have bound := (List.getElem?_eq_some_iff.mp found).1
    obtain ⟨memory, turned⟩ :=
      proceeds.measured isIncremental world.shared.memory 0 cursor lag
    exact .of_turn found turned
      (.of_fetch proceeds (List.getElem?_set_self bound) id)
  cases call with
  | getIncrementalLag cursor answer =>
      have isIncremental := fits cursor answer rfl
      cases answer with
      | pending =>
          exact .of_serve found rfl
            (measures isIncremental (List.getElem?_set_self bound))
      | fulfilled lag => exact measures isIncremental found
      | rejected => exact absurd trivial unparked
  | fetchBatch cursor answer => exact .of_fetch proceeds found unparked
  | dispatch => exact .of_inFlight found trivial
  | persistFailures => exact .of_inFlight found trivial
  | commitCheckpoint records data answer =>
      cases answer with
      | pending => exact .of_inFlight found trivial
      | fulfilled => exact absurd trivial unparked
      | rejected => exact absurd trivial unparked
  | orphan sink records call =>
      exact .of_inFlight found (not_not.mp unparked)
  | getCheckpoint => exact absurd trivial unparked
  | updateStatus => exact absurd trivial unparked
  | sleep => exact absurd trivial unparked
  | returned => exact absurd trivial unparked

/-- The call of `pause()` at that position gets its answer and resolves. -/
theorem exists_resolved
    (proceeds : Proceeds program kind)
    {world : RunnerProgram.World Cursor Gauges}
    {index : Nat}
    (found :
      world.tasks[index]? = some (.updateStatus .paused .pending)) :
    ∃ events resolved,
      Run program.machine.step NoRestart world events resolved ∧
        resolved.tasks = world.tasks.set index .returned := by
  have bound := (List.getElem?_eq_some_iff.mp found).1
  let stored :=
    { world.shared with
      checkpoint :=
        CheckpointManager.updateStatus .paused world.shared.checkpoint }
  let written : RunnerProgram.World Cursor Gauges :=
    { world with
      shared := stored
      tasks :=
        world.tasks.set index (.updateStatus .paused (.fulfilled ())) }
  have served :
      program.machine.step world (.act index (.serve 0)) =
        some written := by
    simp [TaskMachine.step, found, RunnerProgram.machine,
      RunnerProgram.act, RunnerProgram.serve, written, stored]
  have atIndex :
      written.tasks[index]? =
        some (.updateStatus .paused (.fulfilled ())) :=
    List.getElem?_set_self bound
  have turned :
      program.machine.step written (.act index (.turn 0)) =
        some { written with
          tasks := written.tasks.set index .returned } := by
    simp [TaskMachine.step, atIndex, RunnerProgram.machine,
      RunnerProgram.act, proceeds.statusWritten,
      RunnerProgram.noteDispatch]
  have first : NoRestart world (.act index (.serve 0)) := trivial
  have second : NoRestart written (.act index (.turn 0)) := trivial
  refine ⟨_, _, .cons first served (.cons second turned (.nil _)), ?_⟩
  simp [written]

/--
A pause that finds a call inside an iteration can resolve while a batch is in
flight.
-/
theorem exists_inFlight_of_not_parked
    (proceeds : Proceeds program kind)
    {world : RunnerProgram.World Cursor Gauges}
    {call : Call Cursor}
    (member : call ∈ world.tasks)
    (fits :
      ∀ cursor answer, call = .getIncrementalLag cursor answer →
        kind = .incremental)
    (unparked : ¬ call.Parked) :
    ∃ events resolved,
      Run program.machine.step NoRestart
          (program.paused world) events resolved ∧
        resolved.tasks[world.tasks.length]? = some .returned ∧
        ∃ call ∈ resolved.tasks, call.InFlight := by
  obtain ⟨index, found⟩ := List.mem_iff_getElem?.mp member
  have bound := (List.getElem?_eq_some_iff.mp found).1
  have inPaused : (program.paused world).tasks[index]? = some call :=
    (List.getElem?_append_left bound).trans found
  have pause :
      (program.paused world).tasks[world.tasks.length]? =
        some (.updateStatus .paused .pending) :=
    List.getElem?_concat_length
  obtain ⟨events, later, last, run, atIndex, inFlight, others⟩ :=
    getsInFlight_of_not_parked proceeds inPaused fits unparked
  have waiting :
      later.tasks[world.tasks.length]? =
        some (.updateStatus .paused .pending) :=
    (others _ bound.ne'
      (List.getElem?_eq_some_iff.mp pause).1).trans pause
  obtain ⟨more, resolved, finish, tasks⟩ :=
    exists_resolved proceeds waiting
  refine ⟨_, resolved, run.append finish, ?_, last, ?_, inFlight⟩
  · rw [tasks]
    exact List.getElem?_set_self
      (List.getElem?_eq_some_iff.mp waiting).1
  · have kept :
        (later.tasks.set world.tasks.length .returned)[index]? =
          some last := by
      rw [List.getElem?_set_ne bound.ne']
      exact atIndex
    rw [tasks]
    exact List.mem_of_getElem? kept

/-- Only the incremental runner measures its lag. -/
def Fits (kind : RunnerKind) : Call Cursor → Prop
  | .getIncrementalLag _ _ => kind = .incremental
  | _ => True

/-- A loop condition leads to a call that fits. -/
theorem LoopHead.fits
    {memory later : Memory Cursor Gauges}
    {next : Call Cursor}
    (head : LoopHead kind memory later next) :
    Fits kind next := by
  cases head with
  | stopped => exact trivial
  | fetch => exact trivial
  | lag isIncremental => exact isIncremental

/-- A turn leads to calls that fit. -/
theorem Turn.fits
    {memory later : Memory Cursor Gauges}
    {call next : Call Cursor}
    {spawned : List (Call Cursor)}
    (turned : Turn kind codec memory call later next spawned) :
    Fits kind next ∧ ∀ new ∈ spawned, Fits kind new := by
  have abandoned
      (records : List SourceRecord)
      (esCall rmqCall : SinkCall) :
      ∀ new ∈ (leftBehind records esCall rmqCall : List (Call Cursor)),
        Fits kind new := by
    intro new member
    rcases mem_leftBehind member with ⟨rfl, _⟩ | ⟨rfl, _⟩ <;>
      exact trivial
  cases turned with
  | enter _ _ head => exact ⟨head.fits, List.forall_mem_nil _⟩
  | advanced _ _ _ head => exact ⟨head.fits, List.forall_mem_nil _⟩
  | woken _ head => exact ⟨head.fits, List.forall_mem_nil _⟩
  | dispatchFailed => exact ⟨trivial, abandoned _ _ _⟩
  | dispatchRetried => exact ⟨trivial, abandoned _ _ _⟩
  | _ => exact ⟨trivial, List.forall_mem_nil _⟩

/-- Every call of a run fits. -/
theorem fits_step
    (follows : program.Follows kind codec)
    {before after : RunnerProgram.World Cursor Gauges}
    {event : RunnerProgram.Event}
    (fits : ∀ call ∈ before.tasks, Fits kind call)
    (taken : program.machine.step before event = some after) :
    ∀ call ∈ after.tasks, Fits kind call := by
  cases event with
  | act index action =>
      obtain ⟨call, shared, next, spawned, found, moved, rfl⟩ :=
        TaskMachine.step_act taken
      have callFits := fits call (List.mem_of_getElem? found)
      have spec : Fits kind next ∧ ∀ new ∈ spawned, Fits kind new := by
        cases follows.act_spec moved with
        | serve now served =>
            cases served <;> exact ⟨callFits, List.forall_mem_nil _⟩
        | reject rejected =>
            cases rejected <;> exact ⟨callFits, List.forall_mem_nil _⟩
        | begin sink begun =>
            cases begun <;> exact ⟨callFits, List.forall_mem_nil _⟩
        | settle sink outcome settled =>
            cases settled <;> exact ⟨callFits, List.forall_mem_nil _⟩
        | turn now turned => exact turned.fits
      intro other member
      rcases TaskMachine.mem_set_append member with old | rfl | new
      · exact fits other old
      · exact spec.1
      · exact spec.2 other new
  | env event =>
      obtain ⟨shared, calls, moved, rfl⟩ := TaskMachine.step_env taken
      intro call member
      cases event with
      | kill =>
          cases moved
          cases member
      | start =>
          cases moved
          rcases List.mem_append.mp member with old | new
          · exact fits call old
          · obtain rfl := List.mem_singleton.mp new
            exact trivial
      | pause =>
          cases moved
          rcases List.mem_append.mp member with old | new
          · exact fits call old
          · obtain rfl := List.mem_singleton.mp new
            exact trivial
  | change change =>
      obtain ⟨table, _, rfl⟩ := TaskMachine.step_change taken
      exact fits

/-- A pause quiesces the runner exactly when it finds every call parked. -/
theorem quiesces_iff
    (follows : program.Follows kind codec)
    (proceeds : Proceeds program kind)
    {world : RunnerProgram.World Cursor Gauges}
    (fits : ∀ call ∈ world.tasks, Fits kind call) :
    program.Quiesces codec world ↔ ∀ call ∈ world.tasks, call.Parked := by
  refine ⟨fun quiesces call member => ?_, quiesces_of_parked follows⟩
  by_contra unparked
  have callFits :
      ∀ cursor answer, call = .getIncrementalLag cursor answer →
        kind = .incremental := by
    rintro _ _ rfl
    exact fits _ member
  obtain ⟨events, resolved, run, returned, busy, inTasks, inFlight⟩ :=
    exists_inFlight_of_not_parked proceeds member callFits unparked
  exact (quiesces events resolved run returned).1 busy inTasks inFlight

end Disturbed

end Replication
