import Replication.CarriedRecords
import Replication.CdcUpdates
import Replication.DLQReplayer
import Replication.EventConsumer
import Replication.OutstandingWrites
import Mathlib

namespace Replication

/-!
# Three writers of one search index

The backfill runner, the incremental runner and the replayer of dead letters
write the documents of one index.  Each reads a row at one time, sends it in a
bulk request later, and a request may be applied later still: a dispatch that is
rejected because of the other sink does not recall it.  No item carries a
condition on the indexed version, so a snapshot that is applied late overwrites
a newer document.  As long as an item is applied only when no older snapshot of
its document is outstanding, and a replay finds no newer document than the one it
makes up, no document goes back to an older version.
-/

namespace SearchIndex

/-- The document a record is written to, and its version. -/
def snapshotOf (record : SourceRecord) : Text × Int :=
  (ElasticsearchSink.documentIdOf record.id, record.version)

/-- The document an item writes, and its version. -/
def itemSnapshot (item : UpdateItem) : Text × Int :=
  (item.documentId, item.doc.version)

/-- A bulk request, with the items that are not yet applied or rejected. -/
structure Request where
  items : List UpdateItem
  pending : List UpdateItem
  deriving Repr

/-- Both runners, the requests that have been sent, and the index. -/
structure World where
  backfill : BackfillRunner.World
  incremental : IncrementalRunner.World
  requests : List Request
  /-- The document stored under each `_id`. -/
  index : Text → Option SearchDocument

/-- A step of a runner, of Elasticsearch, of the source or of an operator. -/
inductive Event where
  | backfill (now : Int) (event : RunnerProgram.Event)
  | incremental (now : Int) (event : RunnerProgram.Event)
  /-- A source row is overwritten. -/
  | update (row : SourceRow)
  | apply (request item : Nat)
  /-- Elasticsearch rejects an item. -/
  | reject (request item : Nat)
  /-- `retryEntry` up to its bulk request; the text is `crypto.randomUUID()`. -/
  | retryEntry (now : Int) (randomUuid : String) (entry : DLQEntry)
  deriving Repr

section Runner

variable {Cursor Gauges : Type}

/-- The records a call has fetched and may still send to Elasticsearch. -/
def unwritten : Call Cursor → List SourceRecord
  | .fetchBatch _ (.fulfilled records) => records
  | .dispatch records .waiting _ => records
  | .orphan .elasticsearch records .waiting => records
  | _ => []

/--
The source does not change here, and `bulkUpsert` returns only after a response
that accounts for every item of its request.
-/
def Permitted
    (requests : List Request)
    (tasks : List (Call Cursor)) : RunnerProgram.Event → Prop
  | .act task (.settle .elasticsearch (some _)) =>
      ∃ call ∈ tasks[task]?,
        ∃ request ∈ requests,
          request.pending.isEmpty ∧
            request.items.map itemSnapshot =
              (RunnerProgram.batchOf call).map snapshotOf
  | .change _ => False
  | _ => True

instance
    (requests : List Request)
    (tasks : List (Call Cursor)) :
    DecidablePred (Permitted requests tasks)
  | .act task (.settle .elasticsearch (some _)) =>
      inferInstanceAs (Decidable (∃ call ∈ tasks[task]?,
        ∃ request ∈ requests, _ ∧ _))
  | .act _ (.settle .elasticsearch none) => isTrue trivial
  | .act _ (.settle .rabbitmq _) => isTrue trivial
  | .act _ (.serve _) => isTrue trivial
  | .act _ .reject => isTrue trivial
  | .act _ (.begin _) => isTrue trivial
  | .act _ (.turn _) => isTrue trivial
  | .env _ => isTrue trivial
  | .change _ => isFalse id

/-- What those calls may still send, as documents and versions. -/
def toWrite (tasks : List (Call Cursor)) : List (Text × Int) :=
  (tasks.flatMap unwritten).map snapshotOf

/-- The request that a started `bulkUpsert` sends, unless it throws. -/
def requestOf
    (now : Int)
    (tasks : List (Call Cursor)) : RunnerProgram.Event → List Request
  | .act task (.begin .elasticsearch) =>
      ((tasks[task]?.map RunnerProgram.batchOf).bind
          (ElasticsearchSink.bulkUpsert now)).toList.map
        fun items => ⟨items, items⟩
  | _ => []

/-- A step of one of the runners, with the requests after it. -/
def runnerStep
    (program : RunnerProgram Cursor Gauges)
    (now : Int)
    (requests : List Request)
    (world : RunnerProgram.World Cursor Gauges)
    (event : RunnerProgram.Event) :
    Option (RunnerProgram.World Cursor Gauges × List Request) :=
  if Permitted requests world.tasks event then
    (program.machine.step world event).map fun after =>
      (after, requests ++ requestOf now world.tasks event)
  else
    none

end Runner

/-- What the requests may still apply, as documents and versions. -/
def requested (requests : List Request) : List (Text × Int) :=
  (requests.flatMap Request.pending).map itemSnapshot

/-- One item of one request is taken off its pending items. -/
def takeItem
    (requests : List Request)
    (request item : Nat) : Option (UpdateItem × List Request) :=
  match requests[request]? with
  | none => none
  | some ⟨items, pending⟩ =>
      pending[item]?.map fun update =>
        (update, requests.set request ⟨items, pending.eraseIdx item⟩)

/-- The item that `retryEntry` sends, if it sends one. -/
def replayed
    (parse : String → Option Json)
    (number : Text → Option JsNumber)
    (now : Int)
    (randomUuid : String)
    (entry : DLQEntry) : Option UpdateItem :=
  (DLQReplayer.toElasticsearch parse number now randomUuid entry).bind
    (ElasticsearchSink.updateItem now)

/-- Take one step. -/
def step
    (parse : String → Option Json)
    (number : Text → Option JsNumber)
    (batchSize : Nat)
    (world : World) : Event → Option World
  | .backfill now event =>
      (runnerStep (BackfillRunner.program parse batchSize) now
          world.requests world.backfill event).map
        fun (backfill, requests) => { world with backfill, requests }
  | .incremental now event =>
      (runnerStep (IncrementalRunner.program parse batchSize) now
          world.requests world.incremental event).map
        fun (incremental, requests) => { world with incremental, requests }
  | .update row =>
      match
        (BackfillRunner.program parse batchSize).machine.step
          world.backfill (.change (.update row.id row)),
        (IncrementalRunner.program parse batchSize).machine.step
          world.incremental (.change (.update row.id row)) with
      | some backfill, some incremental =>
          some { world with backfill, incremental }
      | _, _ => none
  | .apply request item =>
      (takeItem world.requests request item).map fun (update, requests) =>
        { world with
          requests
          index :=
            Function.update world.index update.documentId
              (some update.doc) }
  | .reject request item =>
      (takeItem world.requests request item).map fun (_, requests) =>
        { world with requests }
  | .retryEntry now randomUuid entry =>
      some
        { world with
          requests :=
            world.requests ++
              (replayed parse number now randomUuid entry).toList.map
                fun item => ⟨[item], [item]⟩ }

/-- Freshly constructed runners over one table, and an empty index. -/
def initial
    (parse : String → Option Json)
    (batchSize : Nat)
    (table : List SourceRow)
    (backfillRow incrementalRow : Option ReplicationCheckpoint) :
    World where
  backfill :=
    (BackfillRunner.program parse batchSize).initial table backfillRow
  incremental :=
    (IncrementalRunner.program parse batchSize).initial table incrementalRow
  requests := []
  index := fun _ => none

/-- The version stored under each `_id`, below every version if there is none. -/
def versions (world : World) (documentId : Text) : WithBot Int :=
  (world.index documentId).map SearchDocument.version

/-- What has been read, or made up, and may still be applied. -/
def outstanding (world : World) : List (Text × Int) :=
  toWrite world.backfill.tasks ++ toWrite world.incremental.tasks ++
    requested world.requests

/-- Every update raises the version of its row by one. -/
def RaisesByOne (world : World) : Event → Prop
  | .update row =>
      ∀ old ∈ world.backfill.context,
        old.id = row.id → row.version = old.version + 1
  | _ => True

instance (world : World) : DecidablePred (RaisesByOne world)
  | .update _ => inferInstanceAs (Decidable (∀ old ∈ _, _))
  | .backfill _ _ => isTrue trivial
  | .incremental _ _ => isTrue trivial
  | .apply _ _ => isTrue trivial
  | .reject _ _ => isTrue trivial
  | .retryEntry _ _ _ => isTrue trivial

/--
An item is applied when nothing older of its document is outstanding, and a dead
letter is replayed when neither document nor row contradict version 1.
-/
def InOrder
    (parse : String → Option Json)
    (number : Text → Option JsNumber)
    (world : World) : Event → Prop
  | .update row => RaisesByOne world (.update row)
  | .apply request item =>
      ∀ taken ∈ takeItem world.requests request item,
        ∀ snapshot ∈ outstanding world,
          snapshot.1 = taken.1.documentId →
          taken.1.doc.version ≤ snapshot.2
  | .retryEntry now randomUuid entry =>
      ∀ item ∈ replayed parse number now randomUuid entry,
        (∀ doc ∈ world.index item.documentId, doc.version ≤ 1) ∧
          ∀ row ∈ world.backfill.context,
            row.id = DLQReplayer.recordId entry → 1 ≤ row.version
  | _ => True

instance
    (parse : String → Option Json)
    (number : Text → Option JsNumber)
    (world : World) : DecidablePred (InOrder parse number world)
  | .update row =>
      inferInstanceAs (Decidable (RaisesByOne world (.update row)))
  | .apply _ _ => inferInstanceAs (Decidable (∀ taken ∈ _, _))
  | .retryEntry _ _ _ => inferInstanceAs (Decidable (∀ item ∈ _, _))
  | .backfill _ _ => isTrue trivial
  | .incremental _ _ => isTrue trivial
  | .reject _ _ => isTrue trivial

section Reading

variable
  {Cursor Gauges : Type}
  {program : RunnerProgram Cursor Gauges}
  {kind : RunnerKind}
  {codec : CursorCodec Cursor}
  {table : List SourceRow}
  {call next : Call Cursor}

/-- The RabbitMQ call of a dispatch makes no difference. -/
theorem unwritten_dispatch
    (records : List SourceRecord)
    (esCall rmqCall : SinkCall) :
    unwritten (.dispatch records esCall rmqCall : Call Cursor) =
      unwritten (.orphan .elasticsearch records esCall : Call Cursor) := by
  cases esCall <;> rfl

/-- A settled call has nothing left to send. -/
theorem unwritten_settled
    {outcome : Option SinkResult}
    {sinkCall settled : SinkCall}
    (settles : sinkCall.Settles outcome settled)
    (sink : Sink)
    (records : List SourceRecord) :
    unwritten (.orphan sink records settled : Call Cursor) = [] := by
  cases settles <;> cases sink <;> rfl

/-- What is to be sent is carried from the fetch to the sink. -/
theorem unwritten_carries :
    Carries (unwritten : Call Cursor → List SourceRecord) where
  fetched _ _ := rfl
  dispatched _ := List.Subset.refl _
  begun {sink _ _} begun := by
    cases begun with
    | elasticsearch records rmqCall => exact List.nil_subset _
    | rabbitmq records esCall =>
        rw [unwritten_dispatch, unwritten_dispatch]
        exact List.Subset.refl _
    | orphan sink records => cases sink <;> exact List.nil_subset _
  settled settled := by
    cases settled with
    | elasticsearch isSink records rmqCall settles =>
        rw [unwritten_dispatch, unwritten_settled settles]
        exact List.nil_subset _
    | rabbitmq isSink records esCall settles =>
        rw [unwritten_dispatch, unwritten_dispatch]
        exact List.Subset.refl _
    | orphan records settles =>
        rw [unwritten_settled settles]
        exact List.nil_subset _
  leftBehind member := by
    rcases mem_leftBehind member with ⟨rfl, _⟩ | ⟨rfl, _⟩
    · rw [unwritten_dispatch]
      exact List.Subset.refl _
    · exact List.nil_subset _
  batchless {call} batchless := by
    cases call with
    | fetchBatch cursor answer =>
        cases answer with
        | fulfilled records => exact batchless.elim
        | _ => rfl
    | dispatch => exact batchless.elim
    | orphan => exact batchless.elim
    | _ => rfl

/-- The batch of a started call was still to be sent. -/
theorem batchOf_of_begun
    (begun : Begun .elasticsearch call next) :
    RunnerProgram.batchOf call ⊆ unwritten call := by
  cases begun with
  | elasticsearch records rmqCall => exact fun _ => id
  | orphan sink records => exact fun _ => id

/-- The documents and versions of the rows of a table. -/
def rowsOf (table : List SourceRow) : Set (Text × Int) :=
  {snapshot |
    ∃ row ∈ table,
      (ElasticsearchSink.documentIdOf row.id, row.version) = snapshot}

/-- Fetched records are rows of the table. -/
def ReadsRows (program : RunnerProgram Cursor Gauges) : Prop :=
  ∀ table cursor, ∀ record ∈ program.fetch table cursor,
    snapshotOf record ∈ rowsOf table

variable {world reached : RunnerProgram.World Cursor Gauges}

/-- What the calls may send after a step they could before, or have fetched. -/
theorem toWrite_of_step
    (follows : program.Follows kind codec)
    (reads : ReadsRows program)
    {event : RunnerProgram.Event}
    (taken : program.machine.step world event = some reached)
    {snapshot : Text × Int}
    (carried : snapshot ∈ toWrite reached.tasks) :
    snapshot ∈ toWrite world.tasks ∨ snapshot ∈ rowsOf world.context := by
  obtain ⟨record, inTasks, rfl⟩ := List.mem_map.mp carried
  obtain ⟨other, member, inOther⟩ := List.mem_flatMap.mp inTasks
  rcases unwritten_carries.of_machine_step follows taken member inOther
    with ⟨old, inOld, wasCarried⟩ | ⟨cursor, fetched⟩
  · exact .inl (List.mem_map_of_mem
      (List.mem_flatMap.mpr ⟨old, inOld, wasCarried⟩))
  · exact .inr (reads _ cursor record fetched)

/-- A request that a step sends holds what its call had to send. -/
theorem requested_requestOf
    (follows : program.Follows kind codec)
    {event : RunnerProgram.Event}
    (taken : program.machine.step world event = some reached)
    {now : Int}
    {snapshot : Text × Int}
    (sent : snapshot ∈ requested (requestOf now world.tasks event)) :
    snapshot ∈ toWrite world.tasks := by
  unfold requestOf at sent
  split at sent
  · rename_i index
    obtain ⟨call, _, _, _, found, moved, _⟩ := TaskMachine.step_act taken
    rw [found, Option.map_some, Option.bind_some] at sent
    cases made :
        ElasticsearchSink.bulkUpsert now (RunnerProgram.batchOf call) with
    | none =>
        rw [made] at sent
        cases sent
    | some items =>
        rw [made] at sent
        simp only [requested, Option.toList_some, List.map_cons,
          List.map_nil, List.flatMap_cons, List.flatMap_nil,
          List.append_nil, List.mem_map] at sent
        obtain ⟨item, inItems, rfl⟩ := sent
        obtain ⟨record, inBatch, itemMade⟩ :=
          ElasticsearchSink.mem_bulkUpsert made inItems
        obtain ⟨sameId, sameVersion⟩ :=
          ElasticsearchSink.updateItem_spec itemMade
        have carried : record ∈ unwritten call := by
          have step :
              Step program kind codec world.context world.shared call
                (.begin .elasticsearch) _ _ _ := follows.act_spec moved
          cases step with
          | begin sink begun => exact batchOf_of_begun begun inBatch
        refine List.mem_map.mpr ⟨record, List.mem_flatMap.mpr
          ⟨call, List.mem_of_getElem? found, carried⟩, ?_⟩
        simp only [snapshotOf, itemSnapshot, sameId, sameVersion]
  · cases sent

/-- What the requests of two lists may apply. -/
theorem mem_requested_append
    {first second : List Request}
    {snapshot : Text × Int} :
    snapshot ∈ requested (first ++ second) ↔
      snapshot ∈ requested first ∨ snapshot ∈ requested second := by
  simp [requested, List.flatMap_append]

/-- A runner leaves the table alone and only reads what is outstanding. -/
theorem runnerStep_spec
    (follows : program.Follows kind codec)
    (reads : ReadsRows program)
    {now : Int}
    {requests later : List Request}
    {event : RunnerProgram.Event}
    (taken :
      runnerStep program now requests world event = some (reached, later)) :
    reached.context = world.context ∧
      (∀ snapshot ∈ toWrite reached.tasks,
        snapshot ∈ toWrite world.tasks ∨
          snapshot ∈ rowsOf world.context) ∧
      ∀ snapshot ∈ requested later,
        snapshot ∈ requested requests ∨
          snapshot ∈ toWrite world.tasks := by
  simp only [runnerStep] at taken
  split at taken
  · rename_i permitted
    obtain ⟨_, moved, same⟩ := Option.map_eq_some_iff.mp taken
    cases same
    refine ⟨?_, fun _ => toWrite_of_step follows reads moved, ?_⟩
    · cases event with
      | act index action =>
          obtain ⟨_, _, _, _, _, _, rfl⟩ := TaskMachine.step_act moved
          rfl
      | env event =>
          obtain ⟨_, _, _, rfl⟩ := TaskMachine.step_env moved
          rfl
      | change change => exact permitted.elim
    · intro snapshot member
      rcases mem_requested_append.mp member with old | new
      · exact .inl old
      · exact .inr (requested_requestOf follows moved new)
  · cases taken

/-- The backfill fetches rows of its table. -/
theorem BackfillRunner.readsRows
    (parse : String → Option Json)
    (batchSize : Nat) :
    ReadsRows (BackfillRunner.program parse batchSize) := by
  intro table cursor record member
  obtain ⟨row, inPage, rfl⟩ := List.mem_map.mp member
  exact ⟨row, (Keyset.of_mem_page inPage).1, rfl⟩

/-- So does the incremental runner. -/
theorem IncrementalRunner.readsRows
    (parse : String → Option Json)
    (batchSize : Nat) :
    ReadsRows (IncrementalRunner.program parse batchSize) := by
  intro table cursor record member
  obtain ⟨row, inPage, rfl⟩ := List.mem_map.mp member
  have sorted := List.mem_of_mem_take inPage
  have selected := (List.mem_insertionSort _).mp sorted
  exact ⟨row, List.mem_of_mem_filter selected, rfl⟩

end Reading

/-- Rows, index and outstanding snapshots of a world. -/
def view (world : World) : Replica Text Int where
  rows := rowsOf world.backfill.context
  index := versions world
  outstanding := {snapshot | snapshot ∈ outstanding world}

/-- Both runners read one table, in which ids are unique. -/
structure OneTable (world : World) : Prop where
  unique : (world.backfill.context.map SourceRow.id).Nodup
  same : world.incremental.context = world.backfill.context

section Simulation

variable
  {parse : String → Option Json}
  {number : Text → Option JsNumber}
  {batchSize : Nat}
  {table : List SourceRow}
  {before after : World}
  {event : Event}

/-- A document is that of one row. -/
theorem rowsOf_functional
    (unique : (table.map SourceRow.id).Nodup)
    {documentId : Text}
    {first second : Int}
    (inFirst : (documentId, first) ∈ rowsOf table)
    (inSecond : (documentId, second) ∈ rowsOf table) :
    first = second := by
  obtain ⟨row, member, same⟩ := inFirst
  obtain ⟨other, otherMember, otherSame⟩ := inSecond
  cases same
  obtain ⟨sameText, rfl⟩ := Prod.mk.inj otherSame
  have sameId : other.id = row.id := natText_injective sameText
  rw [List.inj_on_of_nodup_map unique otherMember member sameId]

/-- Taking an item off a request leaves the other items. -/
theorem takeItem_spec
    {requests later : List Request}
    {request item : Nat}
    {update : UpdateItem}
    (taken : takeItem requests request item = some (update, later)) :
    itemSnapshot update ∈ requested requests ∧
      ∀ snapshot ∈ requested later, snapshot ∈ requested requests := by
  simp only [takeItem] at taken
  split at taken
  · cases taken
  · rename_i items pending found
    obtain ⟨_, inPending, same⟩ := Option.map_eq_some_iff.mp taken
    cases same
    have member := List.mem_of_getElem? found
    have ofPending {other : UpdateItem} (isPending : other ∈ pending) :
        itemSnapshot other ∈ requested requests :=
      List.mem_map_of_mem (List.mem_flatMap.mpr ⟨_, member, isPending⟩)
    refine ⟨ofPending (List.mem_of_getElem? inPending), ?_⟩
    intro snapshot inLater
    obtain ⟨other, inOther, rfl⟩ := List.mem_map.mp inLater
    obtain ⟨found, inSet, isPending⟩ := List.mem_flatMap.mp inOther
    rcases List.mem_or_eq_of_mem_set inSet with old | rfl
    · exact List.mem_map_of_mem
        (List.mem_flatMap.mpr ⟨found, old, isPending⟩)
    · exact ofPending (List.mem_of_mem_eraseIdx isPending)

/-- A document is written in its version. -/
theorem versions_update
    (world : World)
    (documentId : Text)
    (doc : SearchDocument) :
    versions
        { world with
          index := Function.update world.index documentId (some doc) } =
      Function.update (versions world) documentId
        (doc.version : WithBot Int) := by
  funext other
  by_cases isIt : other = documentId
  · subst isIt
    simp only [versions, Function.update_self]
    rfl
  · simp only [versions, Function.update_of_ne isIt]
    rfl

/-- A bound on the document, if there is one, bounds the version. -/
theorem versions_le
    {world : World}
    {documentId : Text}
    {version : Int}
    (bounded :
      ∀ doc ∈ world.index documentId, doc.version ≤ version) :
    versions world documentId ≤ version := by
  unfold versions
  cases found : world.index documentId with
  | none => exact bot_le
  | some doc => exact WithBot.coe_le_coe.mpr (bounded doc found)

/-- An update raises the version of its row, or leaves a row alone. -/
theorem raised_of_update
    {changed : List SourceRow}
    {row : SourceRow}
    (raises :
      ∀ old ∈ table, old.id = row.id → row.version = old.version + 1)
    (applied :
      (SourceChange.update row.id row).apply table = some changed)
    {documentId : Text}
    {version : Int}
    (member : (documentId, version) ∈ rowsOf changed) :
    ∃ old ≤ version, (documentId, old) ∈ rowsOf table := by
  obtain ⟨_, rfl⟩ := IncrementalRunner.update_spec applied
  obtain ⟨found, inChanged, same⟩ := member
  obtain ⟨old, oldMember, isFound⟩ := List.mem_map.mp inChanged
  cases same
  split at isFound
  · rename_i sameId
    subst isFound
    have higher := raises old oldMember sameId
    refine ⟨old.version, by omega, old, oldMember, ?_⟩
    rw [sameId]
  · subst isFound
    exact ⟨old.version, le_refl _, old, oldMember, rfl⟩

/-- What a step of the whole does to the table. -/
theorem OneTable.step
    (holds : OneTable before)
    (taken : step parse number batchSize before event = some after) :
    OneTable after := by
  cases event with
  | backfill now event =>
      obtain ⟨⟨_, _⟩, moved, rfl⟩ := Option.map_eq_some_iff.mp taken
      have sameTable := (runnerStep_spec
        (BackfillRunner.program_follows parse batchSize)
        (BackfillRunner.readsRows parse batchSize) moved).1
      exact
        ⟨by simpa only [sameTable] using holds.unique,
          holds.same.trans sameTable.symm⟩
  | incremental now event =>
      obtain ⟨⟨_, _⟩, moved, rfl⟩ := Option.map_eq_some_iff.mp taken
      have sameTable := (runnerStep_spec
        (IncrementalRunner.program_follows parse batchSize)
        (IncrementalRunner.readsRows parse batchSize) moved).1
      exact ⟨holds.unique, sameTable.trans holds.same⟩
  | update row =>
      simp only [SearchIndex.step] at taken
      split at taken
      · rename_i backfill incremental first second
        cases taken
        obtain ⟨changed, applied, rfl⟩ := TaskMachine.step_change first
        obtain ⟨other, otherApplied, rfl⟩ := TaskMachine.step_change second
        refine ⟨?_, ?_⟩
        · have sameIds := IncrementalRunner.ids_update applied
          exact sameIds ▸ holds.unique
        · have applied' := otherApplied
          rw [holds.same] at applied'
          exact Option.some.inj (applied'.symm.trans applied)
      · cases taken
  | apply request item =>
      obtain ⟨⟨_, _⟩, _, rfl⟩ := Option.map_eq_some_iff.mp taken
      exact ⟨holds.unique, holds.same⟩
  | reject request item =>
      obtain ⟨⟨_, _⟩, _, rfl⟩ := Option.map_eq_some_iff.mp taken
      exact ⟨holds.unique, holds.same⟩
  | retryEntry now randomUuid entry =>
      cases taken
      exact ⟨holds.unique, holds.same⟩

/-- What is outstanding, one writer after the other. -/
theorem mem_outstanding
    {world : World}
    {snapshot : Text × Int} :
    snapshot ∈ (view world).outstanding ↔
      snapshot ∈ toWrite world.backfill.tasks ∨
        snapshot ∈ toWrite world.incremental.tasks ∨
        snapshot ∈ requested world.requests := by
  simp [view, outstanding]

/-- A step of the backfill reads. -/
theorem backfill_simulates
    {now : Int}
    {event : RunnerProgram.Event}
    (taken :
      step parse number batchSize before (.backfill now event) =
        some after) :
    Replica.Step (view before) (view after) := by
  obtain ⟨⟨_, _⟩, moved, rfl⟩ := Option.map_eq_some_iff.mp taken
  obtain ⟨sameTable, tasks, requests⟩ := runnerStep_spec
    (BackfillRunner.program_follows parse batchSize)
    (BackfillRunner.readsRows parse batchSize) moved
  refine .read (congrArg rowsOf sameTable) rfl ?_
  intro snapshot member
  rcases mem_outstanding.mp member with own | other | inRequests
  · rcases tasks snapshot own with old | read
    · exact .inl (mem_outstanding.mpr (.inl old))
    · exact .inr read
  · exact .inl (mem_outstanding.mpr (.inr (.inl other)))
  · rcases requests snapshot inRequests with old | sent
    · exact .inl (mem_outstanding.mpr (.inr (.inr old)))
    · exact .inl (mem_outstanding.mpr (.inl sent))

/-- So does a step of the incremental runner. -/
theorem incremental_simulates
    {now : Int}
    {event : RunnerProgram.Event}
    (holds : OneTable before)
    (taken :
      step parse number batchSize before (.incremental now event) =
        some after) :
    Replica.Step (view before) (view after) := by
  obtain ⟨⟨_, _⟩, moved, rfl⟩ := Option.map_eq_some_iff.mp taken
  obtain ⟨sameTable, tasks, requests⟩ := runnerStep_spec
    (IncrementalRunner.program_follows parse batchSize)
    (IncrementalRunner.readsRows parse batchSize) moved
  rw [holds.same] at tasks
  refine .read rfl rfl ?_
  intro snapshot member
  rcases mem_outstanding.mp member with other | own | inRequests
  · exact .inl (mem_outstanding.mpr (.inl other))
  · rcases tasks snapshot own with old | read
    · exact .inl (mem_outstanding.mpr (.inr (.inl old)))
    · exact .inr read
  · rcases requests snapshot inRequests with old | sent
    · exact .inl (mem_outstanding.mpr (.inr (.inr old)))
    · exact .inl (mem_outstanding.mpr (.inr (.inl sent)))

/-- An update raises a row. -/
theorem update_simulates
    {row : SourceRow}
    (holds : OneTable before)
    (raises : RaisesByOne before (.update row))
    (taken :
      step parse number batchSize before (.update row) = some after) :
    Replica.Step (view before) (view after) := by
  have afterTable := holds.step taken
  simp only [step] at taken
  split at taken
  · rename_i backfill incremental first second
    cases taken
    obtain ⟨changed, applied, rfl⟩ := TaskMachine.step_change first
    obtain ⟨_, _, rfl⟩ := TaskMachine.step_change second
    exact .raise (rowsOf_functional afterTable.unique)
      (raised_of_update raises applied) rfl (fun _ => id)
  · cases taken

/-- The requests lose items, and nothing else changes. -/
theorem outstanding_subset_of_requests
    {world : World}
    {requests : List Request}
    {index : Text → Option SearchDocument}
    (others :
      ∀ snapshot ∈ requested requests,
        snapshot ∈ requested world.requests) :
    (view { world with requests, index }).outstanding ⊆
      (view world).outstanding := by
  intro snapshot member
  rcases mem_outstanding.mp member with backfill | incremental | inRequests
  · exact mem_outstanding.mpr (.inl backfill)
  · exact mem_outstanding.mpr (.inr (.inl incremental))
  · exact mem_outstanding.mpr (.inr (.inr (others snapshot inRequests)))

/-- An applied item is written, if it is an oldest one. -/
theorem apply_simulates
    {request item : Nat}
    (admitted : InOrder parse number before (.apply request item))
    (taken :
      step parse number batchSize before (.apply request item) =
        some after) :
    Replica.Step (view before) (view after) := by
  obtain ⟨⟨update, requests⟩, found, rfl⟩ :=
    Option.map_eq_some_iff.mp taken
  obtain ⟨pending, others⟩ := takeItem_spec found
  refine .write update.documentId update.doc.version ?_ ?_ rfl ?_
    (outstanding_subset_of_requests others)
  · exact mem_outstanding.mpr (.inr (.inr pending))
  · intro version isOutstanding
    exact admitted _ found _ isOutstanding rfl
  · exact versions_update before update.documentId update.doc

/-- A rejected item is dropped. -/
theorem reject_simulates
    {request item : Nat}
    (taken :
      step parse number batchSize before (.reject request item) =
        some after) :
    Replica.Step (view before) (view after) := by
  obtain ⟨⟨update, requests⟩, found, rfl⟩ :=
    Option.map_eq_some_iff.mp taken
  obtain ⟨_, others⟩ := takeItem_spec found
  have fewer :
      (view { before with requests }).outstanding ⊆
        (view before).outstanding :=
    outstanding_subset_of_requests others
  exact .read rfl rfl fun _ member => .inl (fewer member)

/-- A replay makes up a snapshot in version 1, or sends nothing. -/
theorem retryEntry_simulates
    {now : Int}
    {randomUuid : String}
    {entry : DLQEntry}
    (admitted :
      InOrder parse number before (.retryEntry now randomUuid entry))
    (taken :
      step parse number batchSize before (.retryEntry now randomUuid entry) =
        some after) :
    Replica.Step (view before) (view after) := by
  cases taken
  cases made : replayed parse number now randomUuid entry with
  | none =>
      refine .read rfl rfl ?_
      intro snapshot member
      left
      simpa [view, outstanding, made] using member
  | some item =>
      obtain ⟨record, rebuilt, itemMade⟩ := Option.bind_eq_some_iff.mp made
      obtain ⟨sameId, sameVersion⟩ :=
        DLQReplayer.toElasticsearch_spec rebuilt
      obtain ⟨sameDocument, itemVersion⟩ :=
        ElasticsearchSink.updateItem_spec itemMade
      obtain ⟨notBehind, notAhead⟩ := admitted item made
      refine .made item.documentId 1 (versions_le notBehind) ?_ rfl rfl ?_
      · rintro version ⟨row, member, same⟩
        obtain ⟨sameText, rfl⟩ := Prod.mk.inj same
        rw [sameDocument, sameId] at sameText
        exact notAhead row member (natText_injective sameText)
      · intro snapshot member
        rcases mem_outstanding.mp member with backfill | incremental | sent
        · exact .inr (mem_outstanding.mpr (.inl backfill))
        · exact .inr (mem_outstanding.mpr (.inr (.inl incremental)))
        · rcases mem_requested_append.mp sent with old | new
          · exact .inr (mem_outstanding.mpr (.inr (.inr old)))
          · left
            rw [List.mem_singleton.mp new, itemSnapshot, itemVersion,
              sameVersion]

/-- Every step in order is one of the steps of a replica. -/
theorem step_simulates
    (holds : OneTable before)
    (admitted : InOrder parse number before event)
    (taken : step parse number batchSize before event = some after) :
    Replica.Step (view before) (view after) := by
  cases event with
  | backfill now event => exact backfill_simulates taken
  | incremental now event => exact incremental_simulates holds taken
  | update row => exact update_simulates holds admitted taken
  | apply request item => exact apply_simulates admitted taken
  | reject request item => exact reject_simulates taken
  | retryEntry now randomUuid entry =>
      exact retryEntry_simulates admitted taken

/-- The initial world has nothing outstanding and nothing indexed. -/
theorem ordered_initial
    {backfillRow incrementalRow : Option ReplicationCheckpoint}
    (unique : (table.map SourceRow.id).Nodup) :
    (view (initial parse batchSize table backfillRow
      incrementalRow)).Ordered where
  functional := rowsOf_functional unique
  indexBehind _ := bot_le
  rowAhead member _ := by cases member
  indexBehindRow _ := bot_le

/--
As long as no item is applied before an older snapshot of its document, and
replays contradict neither document nor row, no document ever goes back to an
older version.
-/
theorem index_never_goes_back
    {backfillRow incrementalRow : Option ReplicationCheckpoint}
    {events later : List Event}
    {reached final : World}
    (unique : (table.map SourceRow.id).Nodup)
    (run :
      Run (step parse number batchSize) (InOrder parse number)
        (initial parse batchSize table backfillRow incrementalRow)
        events reached)
    (continued :
      Run (step parse number batchSize) (InOrder parse number)
        reached later final) :
    ∀ documentId,
      versions reached documentId ≤ versions final documentId := by
  let Holds (world : World) : Prop := OneTable world ∧ (view world).Ordered
  have preserved :
      ∀ {before event after},
        Holds before →
        InOrder parse number before event →
        step parse number batchSize before event = some after →
        Holds after := by
    intro before event after holds admitted taken
    exact ⟨holds.1.step taken,
      holds.2.step (step_simulates holds.1 admitted taken)⟩
  have start :
      Holds (initial parse batchSize table backfillRow incrementalRow) :=
    ⟨⟨unique, rfl⟩, ordered_initial unique⟩
  have reachedHolds := run.invariant Holds preserved start
  exact continued.le_of_step_le Holds versions preserved
    (fun holds admitted taken =>
      holds.2.index_le (step_simulates holds.1 admitted taken))
    reachedHolds

end Simulation

/-- The first row in that version, stamped at that millisecond. -/
def sampleVersion (version millis : Int) : SourceRow :=
  { sampleRow 1 millis with payload := .obj [], version }

/-- A dead letter that names no record. -/
def sampleLetter : DLQEntry where
  id := 7
  recordId := none
  recordUuid := none
  sinkTarget := .all
  payload := .obj []
  errorCode := ""
  errorMessage := ""
  stackTrace := none
  retryCount := 0
  status := .pending
  createdAt := 0
  lastRetriedAt := none

/-- The version in which the document of that row is indexed, if it is. -/
def indexed (world : World) (id : Nat) : Option Int :=
  (world.index (ElasticsearchSink.documentIdOf id)).map
    SearchDocument.version

/-- The backfill has the first version indexed, a dead letter is replayed. -/
def sampleFirstVersion : List Event :=
  BackfillRunner.sampleStart.map (.backfill 0) ++
    [.retryEntry 0 "" sampleLetter, .apply 0 0,
      .backfill 0
        (.act 0 (.settle .elasticsearch (some (sampleResult [1] []))))]

/-- The row is updated, and the incremental runner has it indexed. -/
def sampleSecondVersion (request : Nat) : List Event :=
  [.update (sampleVersion 2 6)] ++
    IncrementalRunner.sampleStart.map (.incremental 0) ++
    [.apply request 0]

/-- The document goes from the first to the second version. -/
theorem index_never_goes_back_twoVersions :
    ∃ reached final,
      indexed reached 1 = some 1 ∧ indexed final 1 = some 2 ∧
        indexed final 7 = some 1 ∧
        ∀ documentId,
          versions reached documentId ≤ versions final documentId := by
  obtain ⟨reached, run, first, later⟩ :
      ∃ reached,
        Run (step (fun _ => none) (fun _ => none) 1)
          (InOrder (fun _ => none) (fun _ => none))
          (initial (fun _ => none) 1 [sampleVersion 1 5] none none)
          sampleFirstVersion reached ∧
        indexed reached 1 = some 1 ∧
        (replay (step (fun _ => none) (fun _ => none) 1)
          (InOrder (fun _ => none) (fun _ => none)) reached
          (sampleSecondVersion 2 ++ [.apply 1 0])).any
          (fun final =>
            indexed final 1 = some 2 ∧ indexed final 7 = some 1) = true :=
    Run.exists_of_replay _ (by decide +kernel)
  obtain ⟨final, continued, second, replayed⟩ :=
    Run.exists_of_replay
      (fun final => indexed final 1 = some 2 ∧ indexed final 7 = some 1)
      later
  exact ⟨reached, final, first, second, replayed,
    index_never_goes_back (by decide) run continued⟩

/-- The backfill's request is sent before, and the update applied first. -/
def sampleStale : List Event :=
  BackfillRunner.sampleStart.map (.backfill 0) ++ sampleSecondVersion 1

/--
The request of the backfill is applied last: its snapshot, fetched before the
update, overwrites the second version with the first.
-/
theorem stale_snapshot_overwrites :
    ∃ reached final,
      Run (step (fun _ => none) (fun _ => none) 1) RaisesByOne
        (initial (fun _ => none) 1 [sampleVersion 1 5] none none)
        sampleStale reached ∧
      Run (step (fun _ => none) (fun _ => none) 1) RaisesByOne
        reached [.apply 0 0] final ∧
      indexed reached 1 = some 2 ∧ indexed final 1 = some 1 := by
  obtain ⟨reached, run, second, later⟩ :
      ∃ reached,
        Run (step (fun _ => none) (fun _ => none) 1) RaisesByOne
          (initial (fun _ => none) 1 [sampleVersion 1 5] none none)
          sampleStale reached ∧
        indexed reached 1 = some 2 ∧
        (replay (step (fun _ => none) (fun _ => none) 1) RaisesByOne
          reached [.apply 0 0]).any
          (fun final => indexed final 1 = some 1) = true :=
    Run.exists_of_replay _ (by decide +kernel)
  obtain ⟨final, continued, first⟩ :=
    Run.exists_of_replay (fun final => indexed final 1 = some 1) later
  exact ⟨reached, final, run, continued, second, first⟩

end SearchIndex

end Replication
