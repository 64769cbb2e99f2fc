import Replication.LastFetch
import Replication.SearchIndex

namespace Replication

/-!
# Crashes and the search index

Over a fixed table every request holds the documents of rows, and the document
of a row is the same whenever it is made, up to `synced_at`.  So requests may be
repeated, reordered or lost: once the backfill has completed, every row was in a
request whose items have been applied or rejected, and the index is the one that
the table determines.
-/

namespace SearchDocument

/-- The document apart from `synced_at`. -/
def content (doc : SearchDocument) : SearchDocument :=
  { doc with syncedAt := 0 }

/--
An update with `doc` and `doc_as_upsert`: the given fields are merged into the
stored document, and its other fields are left.
-/
def upsert
    (stored : Option SearchDocument)
    (doc : SearchDocument) : SearchDocument :=
  match stored with
  | none => doc
  | some old =>
      { doc with
        customerId := doc.customerId.or old.customerId
        email := doc.email.or old.email
        accountTier := doc.accountTier.or old.accountTier
        balance := doc.balance.or old.balance }

/-- Merging a document into one of the same content changes no content. -/
theorem content_upsert
    {stored : Option SearchDocument}
    {doc : SearchDocument}
    (same : ∀ old ∈ stored, old.content = doc.content) :
    (upsert stored doc).content = doc.content := by
  cases stored with
  | none => rfl
  | some old =>
      have sameContent := same old rfl
      simp only [content, mk.injEq] at sameContent
      simp only [upsert, content, mk.injEq, true_and, and_true]
      simp [sameContent]

end SearchDocument

namespace ElasticsearchSink

/-- When a record is transformed makes no difference to its content. -/
theorem transformRecord_content
    {now : Int}
    {record : SourceRecord}
    {doc : SearchDocument}
    (transformed : transformRecord now record = some doc) :
    transformRecord 0 record = some doc.content := by
  simp only [transformRecord] at transformed ⊢
  split at transformed
  · cases transformed
  · split at transformed
    · rename_i prints
      rw [if_pos prints]
      cases transformed
      rfl
    · cases transformed

end ElasticsearchSink

namespace SearchIndex

/-- A step of a runner or of Elasticsearch over a fixed table. -/
inductive FixedEvent where
  | backfill (now : Int) (event : RunnerProgram.Event)
  | incremental (now : Int) (event : RunnerProgram.Event)
  /-- Elasticsearch executes an item it accepts. -/
  | apply (request item : Nat)
  /-- Elasticsearch rejects an item it does not accept. -/
  | reject (request item : Nat)
  /-- A request never arrives, or no more of it is executed. -/
  | lose (request : Nat)
  deriving Repr

/-- Take one step. -/
def fixedStep
    (parse : String → Option Json)
    (batchSize : Nat)
    (accepts : SearchDocument → Bool)
    (world : World) : FixedEvent → Option World
  | .backfill now event =>
      (runnerStep (BackfillRunner.program parse batchSize) now
          world.requests world.backfill event).map
        fun (backfill, requests) => { world with backfill, requests }
  | .incremental now event =>
      (runnerStep (IncrementalRunner.program parse batchSize) now
          world.requests world.incremental event).map
        fun (incremental, requests) => { world with incremental, requests }
  | .apply request item =>
      (takeItem world.requests request item).bind fun (update, requests) =>
        if accepts update.doc then
          some
            { world with
              requests
              index :=
                Function.update world.index update.documentId
                  (some (.upsert (world.index update.documentId)
                    update.doc)) }
        else
          none
  | .reject request item =>
      (takeItem world.requests request item).bind fun (update, requests) =>
        if accepts update.doc then none else some { world with requests }
  | .lose request =>
      if request < world.requests.length then
        some
          { world with requests := world.requests.eraseIdx request }
      else
        none

/-- The content a table determines: one document for each accepted row. -/
def contentsOf
    (parse : String → Option Json)
    (accepts : SearchDocument → Bool)
    (table : List SourceRow)
    (documentId : Text) : Option SearchDocument :=
  (table.find? fun row =>
      ElasticsearchSink.documentIdOf row.id = documentId).bind fun row =>
    (ElasticsearchSink.transformRecord 0
      (mapRowToSourceRecord parse row)).filter accepts

/-- The backfill is COMPLETED, in memory or in its checkpoint. -/
def Completed (world : World) : Prop :=
  world.backfill.shared.memory.status = .completed ∨
    world.backfill.shared.checkpoint.map ReplicationCheckpoint.status =
      some .completed

/-- A checkpoint from which a backfill sees the whole table. -/
def FreshCheckpoint (row : Option ReplicationCheckpoint) : Prop :=
  ∀ checkpoint ∈ row,
    checkpoint.lastProcessedId = 0 ∧ checkpoint.status ≠ .completed

/-! ### Where requests come from -/

section Runner

variable
  {Cursor Gauges : Type}
  {program : RunnerProgram Cursor Gauges}
  {kind : RunnerKind}
  {codec : CursorCodec Cursor}
  {table : List SourceRow}
  {world reached : RunnerProgram.World Cursor Gauges}
  {now : Int}
  {requests later : List Request}
  {event : RunnerProgram.Event}

/-- The record is a row of the table. -/
def FromTable
    (parse : String → Option Json)
    (table : List SourceRow)
    (record : SourceRecord) : Prop :=
  ∃ row ∈ table, mapRowToSourceRecord parse row = record

/-- The item is that of a row of the table. -/
def ItemOf
    (parse : String → Option Json)
    (table : List SourceRow)
    (item : UpdateItem) : Prop :=
  ∃ row ∈ table,
    ElasticsearchSink.documentIdOf row.id = item.documentId ∧
      ElasticsearchSink.transformRecord 0
          (mapRowToSourceRecord parse row) = some item.doc.content

/-- What is fetched are rows of the table. -/
def FetchesRows (program : RunnerProgram Cursor Gauges) : Prop :=
  ∀ table cursor, ∀ record ∈ program.fetch table cursor,
    FromTable program.parse table record

/-- What the calls may still send are rows of the table. -/
def CarriesRows
    (program : RunnerProgram Cursor Gauges)
    (world : RunnerProgram.World Cursor Gauges) : Prop :=
  ∀ call ∈ world.tasks, ∀ record ∈ unwritten call,
    FromTable program.parse world.context record

/-- The items of a row are those of the table. -/
theorem itemOf_updateItem
    {parse : String → Option Json}
    {record : SourceRecord}
    {item : UpdateItem}
    (fromTable : FromTable parse table record)
    (made : ElasticsearchSink.updateItem now record = some item) :
    ItemOf parse table item := by
  obtain ⟨row, member, rfl⟩ := fromTable
  obtain ⟨doc, transformed, rfl⟩ := Option.map_eq_some_iff.mp made
  exact ⟨row, member, rfl,
    ElasticsearchSink.transformRecord_content transformed⟩

/-- A permitted step leaves the table alone. -/
theorem context_of_permitted
    (permitted : Permitted requests world.tasks event)
    (taken : program.machine.step world event = some reached) :
    reached.context = world.context := by
  rcases TaskMachine.context_step taken with same | ⟨change, rfl, _⟩
  · exact same
  · exact permitted.elim

/-- A step of a runner that is permitted, and what it sends. -/
theorem runnerStep_eq
    (taken :
      runnerStep program now requests world event = some (reached, later)) :
    Permitted requests world.tasks event ∧
      program.machine.step world event = some reached ∧
      later = requests ++ requestOf now world.tasks event := by
  simp only [runnerStep] at taken
  split at taken
  · rename_i permitted
    obtain ⟨_, moved, same⟩ := Option.map_eq_some_iff.mp taken
    cases same
    exact ⟨permitted, moved, rfl⟩
  · cases taken

/-- A runner goes on carrying rows of its table. -/
theorem CarriesRows.step
    (follows : program.Follows kind codec)
    (fetches : FetchesRows program)
    (carries : CarriesRows program world)
    (permitted : Permitted requests world.tasks event)
    (taken : program.machine.step world event = some reached) :
    CarriesRows program reached := by
  intro call member record inCall
  rw [context_of_permitted permitted taken]
  rcases unwritten_carries.of_machine_step follows taken member inCall
    with ⟨old, inOld, wasCarried⟩ | ⟨cursor, fetched⟩
  · exact carries old inOld record wasCarried
  · exact fetches _ cursor record fetched

/-- A request that a step sends holds rows of the table, all of them pending. -/
theorem itemOf_requestOf
    (follows : program.Follows kind codec)
    (carries : CarriesRows program world)
    (taken : program.machine.step world event = some reached)
    {request : Request}
    (sent : request ∈ requestOf now world.tasks event) :
    request.pending = request.items ∧
      ∀ item ∈ request.items, ItemOf program.parse world.context item := by
  unfold requestOf at sent
  split at sent
  · rename_i index
    obtain ⟨call, _, _, _, found, moved, _⟩ := TaskMachine.step_act taken
    rw [found, Option.map_some, Option.bind_some] at sent
    obtain ⟨items, made, rfl⟩ := List.mem_map.mp sent
    rw [Option.mem_toList] at made
    refine ⟨rfl, fun item inItems => ?_⟩
    obtain ⟨record, inBatch, itemMade⟩ :=
      ElasticsearchSink.mem_bulkUpsert made inItems
    have step :
        Step program kind codec world.context world.shared call
          (.begin .elasticsearch) _ _ _ := follows.act_spec moved
    cases step with
    | begin sink begun =>
        exact itemOf_updateItem
          (carries call (List.mem_of_getElem? found) record
            (batchOf_of_begun begun inBatch)) itemMade
  · cases sent

/-- A batch is reported when its request has been worked off. -/
theorem report_of_step
    (follows : program.Follows kind codec)
    (permitted : Permitted requests world.tasks event)
    (taken : program.machine.step world event = some reached)
    {report : Report}
    (member : report ∈ reached.shared.history.reports)
    (isSink : report.sink = .elasticsearch) :
    report ∈ world.shared.history.reports ∨
      ∃ request ∈ requests,
        request.pending.isEmpty ∧
          request.items.map itemSnapshot =
            report.records.map snapshotOf := by
  cases event with
  | act index action =>
      obtain ⟨call, shared, next, spawned, found, moved, rfl⟩ :=
        TaskMachine.step_act taken
      cases follows.act_spec moved with
      | serve now served => cases served <;> exact .inl member
      | reject rejected => exact .inl member
      | begin sink begun => exact .inl member
      | turn now turned =>
          left
          cases next with
          | dispatch records esCall rmqCall =>
              cases esCall <;> cases rmqCall <;> exact member
          | _ => exact member
      | settle sink outcome settled =>
          cases outcome with
          | none => exact .inl member
          | some result =>
              rcases List.mem_append.mp member with old | new
              · exact .inl old
              · right
                obtain rfl := List.mem_singleton.mp new
                cases isSink
                obtain ⟨other, atIndex, request, inRequests, done, same⟩ :=
                  permitted
                obtain rfl : call = other :=
                  Option.some.inj (found.symm.trans atIndex)
                refine ⟨request, inRequests, done, ?_⟩
                rw [same, settled.batchOf]
  | env event =>
      obtain ⟨shared, calls, moved, rfl⟩ := TaskMachine.step_env taken
      cases event <;> cases moved <;> exact .inl member
  | change change =>
      obtain ⟨_, _, rfl⟩ := TaskMachine.step_change taken
      exact .inl member

end Runner

/-! ### The requests and the index -/

section Requests

variable
  {requests later : List Request}
  {request item : Nat}
  {update : UpdateItem}

/-- What taking an item does to the list of requests. -/
theorem takeItem_eq
    (taken : takeItem requests request item = some (update, later)) :
    ∃ items pending,
      requests[request]? = some ⟨items, pending⟩ ∧
        pending[item]? = some update ∧
        later = requests.set request ⟨items, pending.eraseIdx item⟩ := by
  simp only [takeItem] at taken
  split at taken
  · cases taken
  · rename_i items pending found
    obtain ⟨_, inPending, same⟩ := Option.map_eq_some_iff.mp taken
    cases same
    exact ⟨items, pending, found, inPending, rfl⟩

/-- What is taken off a list is what was there. -/
theorem mem_eraseIdx_or_eq
    {pending : List UpdateItem}
    {other : UpdateItem}
    (atItem : pending[item]? = some update)
    (member : other ∈ pending) :
    other ∈ pending.eraseIdx item ∨ other = update := by
  obtain ⟨position, atPosition⟩ := List.mem_iff_getElem?.mp member
  by_cases same : position = item
  · subst same
    exact .inr (Option.some.inj (atPosition.symm.trans atItem))
  · exact .inl (List.mem_eraseIdx_iff_getElem?.mpr
      ⟨position, same, atPosition⟩)

end Requests

variable
  (parse : String → Option Json)
  (accepts : SearchDocument → Bool)
  (table : List SourceRow)

/-- The row has a document, which is indexed if it is accepted. -/
def Indexed
    (index : Text → Option SearchDocument)
    (row : SourceRow) : Prop :=
  ∃ doc,
    ElasticsearchSink.transformRecord 0
        (mapRowToSourceRecord parse row) = some doc ∧
      (accepts doc = true →
        (index (ElasticsearchSink.documentIdOf row.id)).isSome = true)

/-- Every item of a request is pending, or has been worked off. -/
structure RequestKept
    (index : Text → Option SearchDocument)
    (request : Request) : Prop where
  items : ∀ item ∈ request.items, ItemOf parse table item
  pending : ∀ item ∈ request.pending, item ∈ request.items
  done :
    ∀ item ∈ request.items,
      item ∈ request.pending ∨
        (accepts item.doc.content = true →
          (index item.documentId).isSome = true)

/-- What is indexed are accepted rows of the table. -/
def OnlyRows (index : Text → Option SearchDocument) : Prop :=
  ∀ documentId, ∀ doc ∈ index documentId,
    ∃ row ∈ table,
      ElasticsearchSink.documentIdOf row.id = documentId ∧
        ElasticsearchSink.transformRecord 0
            (mapRowToSourceRecord parse row) = some doc.content ∧
        accepts doc.content = true

/-- What holds of the requests and the index. -/
structure IndexKept
    (index : Text → Option SearchDocument)
    (requests : List Request) : Prop where
  requests :
    ∀ request ∈ requests,
      RequestKept parse accepts table index request
  onlyRows : OnlyRows parse accepts table index

variable {parse accepts table}

section Kept

variable
  {index grown : Text → Option SearchDocument}
  {requests later : List Request}

/-- An empty index holds nothing of another row. -/
theorem OnlyRows.empty : OnlyRows parse accepts table fun _ => none := by
  intro documentId doc isDoc
  cases isDoc

/-- A document that is indexed stays so. -/
def Grows (index grown : Text → Option SearchDocument) : Prop :=
  ∀ documentId,
    (index documentId).isSome = true → (grown documentId).isSome = true

/-- Writing one document keeps the others. -/
theorem grows_update
    (documentId : Text)
    (doc : SearchDocument) :
    Grows index (Function.update index documentId (some doc)) := by
  intro other isIndexed
  by_cases same : other = documentId
  · subst same
    simp
  · rwa [Function.update_of_ne same]

/-- A request is kept while the index grows. -/
theorem RequestKept.mono
    {request : Request}
    (kept : RequestKept parse accepts table index request)
    (grows : Grows index grown) :
    RequestKept parse accepts table grown request :=
  ⟨kept.items, kept.pending, fun item member =>
    (kept.done item member).imp_right
      fun worked accepted => grows _ (worked accepted)⟩

/-- A row is indexed while the index grows. -/
theorem Indexed.mono
    {row : SourceRow}
    (indexed : Indexed parse accepts index row)
    (grows : Grows index grown) :
    Indexed parse accepts grown row := by
  obtain ⟨doc, transformed, worked⟩ := indexed
  exact ⟨doc, transformed, fun accepted => grows _ (worked accepted)⟩

/-- A request without an item that has been worked off. -/
theorem RequestKept.eraseIdx
    {items pending : List UpdateItem}
    {item : Nat}
    {update : UpdateItem}
    (kept : RequestKept parse accepts table index ⟨items, pending⟩)
    (atItem : pending[item]? = some update)
    (worked :
      accepts update.doc.content = true →
        (index update.documentId).isSome = true) :
    RequestKept parse accepts table index
      ⟨items, pending.eraseIdx item⟩ := by
  refine ⟨kept.items, ?_, fun other member => ?_⟩
  · exact fun other member =>
      kept.pending other (List.mem_of_mem_eraseIdx member)
  · rcases kept.done other member with isPending | done
    · rcases mem_eraseIdx_or_eq atItem isPending with still | rfl
      · exact .inl still
      · exact .inr worked
    · exact .inr done

/-- An item is worked off. -/
theorem IndexKept.take
    {request item : Nat}
    {update : UpdateItem}
    (kept : IndexKept parse accepts table index requests)
    (taken : takeItem requests request item = some (update, later))
    (grows : Grows index grown)
    (onlyRows : OnlyRows parse accepts table grown)
    (worked :
      accepts update.doc.content = true →
        (grown update.documentId).isSome = true) :
    IndexKept parse accepts table grown later := by
  obtain ⟨items, pending, found, atItem, rfl⟩ := takeItem_eq taken
  refine ⟨fun other member => ?_, onlyRows⟩
  rcases List.mem_or_eq_of_mem_set member with old | rfl
  · exact (kept.requests other old).mono grows
  · exact ((kept.requests _ (List.mem_of_getElem? found)).mono
      grows).eraseIdx atItem worked

/-- The item that is taken is that of a row. -/
theorem IndexKept.itemOf
    {request item : Nat}
    {update : UpdateItem}
    (kept : IndexKept parse accepts table index requests)
    (taken : takeItem requests request item = some (update, later)) :
    ItemOf parse table update := by
  obtain ⟨items, pending, found, atItem, rfl⟩ := takeItem_eq taken
  have request := kept.requests _ (List.mem_of_getElem? found)
  exact request.items update
    (request.pending update (List.mem_of_getElem? atItem))

/-- A document is that of one row. -/
theorem content_unique
    (unique : (table.map SourceRow.id).Nodup)
    {row other : SourceRow}
    (member : row ∈ table)
    (otherMember : other ∈ table)
    (same :
      ElasticsearchSink.documentIdOf row.id =
        ElasticsearchSink.documentIdOf other.id) :
    row = other :=
  List.inj_on_of_nodup_map unique member otherMember
    (natText_injective same)

/-- Applying an accepted item of a row indexes accepted rows only. -/
theorem OnlyRows.upsert
    {update : UpdateItem}
    (unique : (table.map SourceRow.id).Nodup)
    (onlyRows : OnlyRows parse accepts table index)
    (itemOf : ItemOf parse table update)
    (accepted : accepts update.doc.content = true) :
    OnlyRows parse accepts table
      (Function.update index update.documentId
        (some (.upsert (index update.documentId) update.doc))) := by
  obtain ⟨row, member, sameId, transformed⟩ := itemOf
  have sameContent :
      ∀ old ∈ index update.documentId,
        old.content = update.doc.content := by
    intro old isIndexed
    obtain ⟨other, otherMember, otherId, otherTransformed, _⟩ :=
      onlyRows _ old isIndexed
    obtain rfl :=
      content_unique unique otherMember member
        (otherId.trans sameId.symm)
    exact Option.some.inj (otherTransformed.symm.trans transformed)
  intro documentId doc isIndexed
  by_cases same : documentId = update.documentId
  · subst same
    rw [Function.update_self, Option.mem_some_iff] at isIndexed
    subst isIndexed
    rw [SearchDocument.content_upsert sameContent]
    exact ⟨row, member, sameId, transformed, accepted⟩
  · rw [Function.update_of_ne same] at isIndexed
    exact onlyRows documentId doc isIndexed

end Kept

/-! ### Steps of the whole -/

/-- A bulk request with that row has been reported to the backfill. -/
def Reported
    (state : RunnerState Nat BackfillRunner.Gauges)
    (row : SourceRow) : Prop :=
  ∃ report ∈ state.history.reports,
    report.sink = .elasticsearch ∧
      ∃ record ∈ report.records, record.id = row.id

/-- Being reported is a notion of coverage. -/
theorem reported_coverage
    (program : RunnerProgram Nat BackfillRunner.Gauges) :
    Coverage program Reported where
  finished := by
    rintro state rows row ⟨esResult, rmqResult, returned, _⟩ member
    exact ⟨_, returned.esReport, rfl, _, List.mem_map_of_mem member, rfl⟩
  extend := by
    rintro before after row extended ⟨report, member, reported⟩
    exact ⟨report, extended.reports report member, reported⟩

/-- The backfill fetches rows of its table. -/
theorem BackfillRunner.fetchesRows
    (parse : String → Option Json)
    (batchSize : Nat) :
    FetchesRows (BackfillRunner.program parse batchSize) := by
  intro table cursor record member
  obtain ⟨row, inPage, rfl⟩ := List.mem_map.mp member
  exact ⟨row, (Keyset.of_mem_page inPage).1, rfl⟩

/-- So does the incremental runner. -/
theorem IncrementalRunner.fetchesRows
    (parse : String → Option Json)
    (batchSize : Nat) :
    FetchesRows (IncrementalRunner.program parse batchSize) := by
  intro table cursor record member
  obtain ⟨row, inPage, rfl⟩ := List.mem_map.mp member
  have selected :=
    (List.mem_insertionSort _).mp (List.mem_of_mem_take inPage)
  exact ⟨row, List.mem_of_mem_filter selected, rfl⟩

section Whole

variable
  {batchSize : Nat}
  {before after : World}
  {event : FixedEvent}

/-- The backfill covers what it has had reported. -/
abbrev ReportInvariant
    (parse : String → Option Json)
    (batchSize : Nat) : BackfillRunner.World → Prop :=
  TaskMachine.Invariant
    (CursorDiscipline.Global BackfillRunner.codec
      (Covers (BackfillRunner.program parse batchSize)
        BackfillRunner.codec Reported))
    (CursorDiscipline.Local BackfillRunner.codec
      (Covers (BackfillRunner.program parse batchSize)
        BackfillRunner.codec Reported)
      (CoversBatch (BackfillRunner.program parse batchSize)
        BackfillRunner.codec Reported))

/-- What holds in every state over a fixed table. -/
structure Transparent
    (parse : String → Option Json)
    (batchSize : Nat)
    (accepts : SearchDocument → Bool)
    (table : List SourceRow)
    (world : World) : Prop where
  backfillTable : world.backfill.context = table
  incrementalTable : world.incremental.context = table
  backfillCarries :
    CarriesRows (BackfillRunner.program parse batchSize) world.backfill
  incrementalCarries :
    CarriesRows (IncrementalRunner.program parse batchSize)
      world.incremental
  kept : IndexKept parse accepts table world.index world.requests
  reports :
    ∀ report ∈ world.backfill.shared.history.reports,
      report.sink = .elasticsearch →
      ∀ record ∈ report.records,
        ∃ row ∈ table,
          row.id = record.id ∧ Indexed parse accepts world.index row
  coverage : ReportInvariant parse batchSize world.backfill
  concluded :
    BackfillRunner.Concluded world.backfill →
      ∀ row ∈ table, Reported world.backfill.shared row

/-- The rows of a request that has been worked off are indexed. -/
theorem RequestKept.indexed
    {index : Text → Option SearchDocument}
    {request : Request}
    {records : List SourceRecord}
    (kept : RequestKept parse accepts table index request)
    (worked : request.pending.isEmpty)
    (same :
      request.items.map itemSnapshot = records.map snapshotOf)
    {record : SourceRecord}
    (member : record ∈ records) :
    ∃ row ∈ table,
      row.id = record.id ∧ Indexed parse accepts index row := by
  have snapshot : snapshotOf record ∈ request.items.map itemSnapshot :=
    same ▸ List.mem_map_of_mem member
  obtain ⟨item, inItems, sameSnapshot⟩ := List.mem_map.mp snapshot
  have sameId :
      item.documentId = ElasticsearchSink.documentIdOf record.id :=
    congrArg Prod.fst sameSnapshot
  obtain ⟨row, inTable, rowId, transformed⟩ := kept.items item inItems
  refine ⟨row, inTable, natText_injective (rowId.trans sameId), _,
    transformed, fun accepted => ?_⟩
  rw [rowId]
  have notPending : item ∉ request.pending := by
    rw [List.isEmpty_iff.mp worked]
    exact List.not_mem_nil
  exact (kept.done item inItems).resolve_left notPending accepted

/-- New requests of a runner are kept. -/
theorem IndexKept.append
    {index : Text → Option SearchDocument}
    {requests new : List Request}
    (kept : IndexKept parse accepts table index requests)
    (items :
      ∀ request ∈ new,
        request.pending = request.items ∧
          ∀ item ∈ request.items, ItemOf parse table item) :
    IndexKept parse accepts table index (requests ++ new) := by
  refine ⟨fun request member => ?_, kept.onlyRows⟩
  rcases List.mem_append.mp member with old | isNew
  · exact kept.requests request old
  · obtain ⟨pending, itemsOf⟩ := items request isNew
    refine ⟨itemsOf, ?_, ?_⟩
    · rw [pending]
      exact fun _ => id
    · rw [pending]
      exact fun _ => .inl

/-- A step of the backfill. -/
theorem Transparent.backfill
    {now : Int}
    {event : RunnerProgram.Event}
    {backfill : BackfillRunner.World}
    {requests : List Request}
    (holds : Transparent parse batchSize accepts table before)
    (taken :
      runnerStep (BackfillRunner.program parse batchSize) now
          before.requests before.backfill event =
        some (backfill, requests)) :
    Transparent parse batchSize accepts table
      { before with backfill, requests } := by
  have follows := BackfillRunner.program_follows parse batchSize
  obtain ⟨permitted, moved, rfl⟩ := runnerStep_eq taken
  have sameTable := context_of_permitted permitted moved
  have extended := RunnerState.Extends.of_step moved
  refine ⟨sameTable.trans holds.backfillTable, holds.incrementalTable,
    holds.backfillCarries.step follows
      (BackfillRunner.fetchesRows parse batchSize) permitted moved,
    holds.incrementalCarries, ?_, ?_, ?_, ?_⟩
  · refine holds.kept.append fun request sent => ?_
    have spec := itemOf_requestOf follows holds.backfillCarries moved sent
    rwa [holds.backfillTable] at spec
  · intro report member isSink record inRecords
    rcases report_of_step follows permitted moved member isSink
      with old | ⟨request, inRequests, worked, same⟩
    · exact holds.reports report old isSink record inRecords
    · exact (holds.kept.requests request inRequests).indexed
        worked same inRecords
  · refine (reported_coverage
      (BackfillRunner.program parse batchSize)).discipline.invariant_step
      follows
      (fun _ event => ∀ change, event ≠ .change change)
      (fun _ fixed => absurd rfl (fixed _)) holds.coverage ?_ moved
    rintro change rfl
    exact permitted
  · intro concluded row member
    have already : Reported before.backfill.shared row := by
      rcases BackfillRunner.concluded_step moved concluded
        with old | ⟨cursor, isPending, nothing⟩
      · exact holds.concluded old row member
      · obtain ⟨_, covers, _⟩ := holds.coverage.local_ _ isPending
        exact covers.all_of_fetch_nil nothing
          (holds.backfillTable.symm ▸ member)
    exact (reported_coverage
      (BackfillRunner.program parse batchSize)).extend extended already

/-- A step of the incremental runner. -/
theorem Transparent.incremental
    {now : Int}
    {event : RunnerProgram.Event}
    {incremental : IncrementalRunner.World}
    {requests : List Request}
    (holds : Transparent parse batchSize accepts table before)
    (taken :
      runnerStep (IncrementalRunner.program parse batchSize) now
          before.requests before.incremental event =
        some (incremental, requests)) :
    Transparent parse batchSize accepts table
      { before with incremental, requests } := by
  have follows := IncrementalRunner.program_follows parse batchSize
  obtain ⟨permitted, moved, rfl⟩ := runnerStep_eq taken
  have sameTable := context_of_permitted permitted moved
  refine ⟨holds.backfillTable, sameTable.trans holds.incrementalTable,
    holds.backfillCarries,
    holds.incrementalCarries.step follows
      (IncrementalRunner.fetchesRows parse batchSize) permitted moved,
    ?_, holds.reports, holds.coverage, holds.concluded⟩
  refine holds.kept.append fun request sent => ?_
  have spec := itemOf_requestOf follows holds.incrementalCarries moved sent
  rwa [holds.incrementalTable] at spec

/-- A step of Elasticsearch that keeps the requests and grows the index. -/
theorem Transparent.index
    {index : Text → Option SearchDocument}
    {requests : List Request}
    (holds : Transparent parse batchSize accepts table before)
    (kept : IndexKept parse accepts table index requests)
    (grows : Grows before.index index) :
    Transparent parse batchSize accepts table
      { before with index, requests } := by
  refine ⟨holds.backfillTable, holds.incrementalTable,
    holds.backfillCarries, holds.incrementalCarries, kept, ?_,
    holds.coverage, holds.concluded⟩
  intro report member isSink record inRecords
  obtain ⟨row, inTable, sameId, indexed⟩ :=
    holds.reports report member isSink record inRecords
  exact ⟨row, inTable, sameId, indexed.mono grows⟩

/-- Every step keeps what holds over a fixed table. -/
theorem Transparent.step
    (unique : (table.map SourceRow.id).Nodup)
    (ignores : ∀ doc, accepts doc.content = accepts doc)
    (holds : Transparent parse batchSize accepts table before)
    (taken :
      fixedStep parse batchSize accepts before event = some after) :
    Transparent parse batchSize accepts table after := by
  cases event with
  | backfill now event =>
      obtain ⟨⟨_, _⟩, moved, rfl⟩ := Option.map_eq_some_iff.mp taken
      exact holds.backfill moved
  | incremental now event =>
      obtain ⟨⟨_, _⟩, moved, rfl⟩ := Option.map_eq_some_iff.mp taken
      exact holds.incremental moved
  | apply request item =>
      obtain ⟨⟨update, requests⟩, found, rest⟩ :=
        Option.bind_eq_some_iff.mp taken
      dsimp only at rest
      by_cases accepted : accepts update.doc = true
      · rw [if_pos accepted] at rest
        cases rest
        rw [← ignores] at accepted
        have grows := @grows_update before.index update.documentId
          (.upsert (before.index update.documentId) update.doc)
        refine holds.index (holds.kept.take found grows ?_ ?_) grows
        · exact holds.kept.onlyRows.upsert unique
            (holds.kept.itemOf found) accepted
        · simp
      · rw [if_neg accepted] at rest
        cases rest
  | reject request item =>
      obtain ⟨⟨update, requests⟩, found, rest⟩ :=
        Option.bind_eq_some_iff.mp taken
      dsimp only at rest
      by_cases accepted : accepts update.doc = true
      · rw [if_pos accepted] at rest
        cases rest
      · rw [if_neg accepted] at rest
        cases rest
        rw [← ignores] at accepted
        exact holds.index
          (holds.kept.take found (fun _ => id) holds.kept.onlyRows
            fun isAccepted => absurd isAccepted accepted) fun _ => id
  | lose request =>
      simp only [fixedStep] at taken
      split at taken
      · cases taken
        refine holds.index ⟨fun other member => ?_, holds.kept.onlyRows⟩
          fun _ => id
        exact holds.kept.requests other (List.mem_of_mem_eraseIdx member)
      · cases taken

/-- A fresh backfill over an empty index. -/
theorem Transparent.initial
    {backfillRow incrementalRow : Option ReplicationCheckpoint}
    (keys : PrimaryKeys table)
    (fresh : FreshCheckpoint backfillRow) :
    Transparent parse batchSize accepts table
      (initial parse batchSize table backfillRow incrementalRow) := by
  have fromZero : BackfillRunner.codec.persisted backfillRow = 0 := by
    cases backfillRow with
    | none => rfl
    | some checkpoint => exact (fresh checkpoint rfl).1
  refine ⟨rfl, rfl, List.forall_mem_nil _, List.forall_mem_nil _,
    ⟨List.forall_mem_nil _, .empty⟩, List.forall_mem_nil _, ?_, ?_⟩
  · refine CursorDiscipline.invariant_initial ?_
    rw [fromZero]
    refine ⟨BackfillRunner.keysetTable keys.injective, ?_⟩
    intro row member notAbove
    exact absurd notAbove (Nat.not_le.mpr (keys.positive row member))
  · rintro ((⟨_, member, _⟩ | completed) | ⟨_, member, _⟩ | stored)
    · cases member
    · cases completed
    · cases member
    · obtain ⟨checkpoint, isRow, status⟩ :=
        Option.map_eq_some_iff.mp stored
      exact absurd status (fresh checkpoint isRow).2

/-- A completed backfill leaves the index that the table determines. -/
theorem Transparent.index_eq
    {world : World}
    (unique : (table.map SourceRow.id).Nodup)
    (holds : Transparent parse batchSize accepts table world)
    (completed : Completed world)
    (documentId : Text) :
    (world.index documentId).map SearchDocument.content =
      contentsOf parse accepts table documentId := by
  have concluded : BackfillRunner.Concluded world.backfill :=
    completed.imp .inr .inr
  have indexed : ∀ row ∈ table, Indexed parse accepts world.index row := by
    intro row member
    obtain ⟨report, inReports, isSink, record, inRecords, sameId⟩ :=
      holds.concluded concluded row member
    obtain ⟨other, inTable, otherId, isIndexed⟩ :=
      holds.reports report inReports isSink record inRecords
    obtain rfl :=
      List.inj_on_of_nodup_map unique inTable member
        (otherId.trans sameId)
    exact isIndexed
  unfold contentsOf
  cases found :
      table.find? fun row =>
        ElasticsearchSink.documentIdOf row.id = documentId with
  | none =>
      have noRow := List.find?_eq_none.mp found
      cases isIndexed : world.index documentId with
      | none => rfl
      | some doc =>
          obtain ⟨row, member, sameId, _⟩ :=
            holds.kept.onlyRows documentId doc isIndexed
          exact absurd (decide_eq_true sameId) (noRow row member)
  | some row =>
      have member := List.mem_of_find?_eq_some found
      have chosen := List.find?_some found
      have sameId : ElasticsearchSink.documentIdOf row.id = documentId := by
        simpa using chosen
      obtain ⟨doc, transformed, worked⟩ := indexed row member
      rw [Option.bind_some, transformed]
      cases isIndexed : world.index documentId with
      | none =>
          rw [sameId, isIndexed] at worked
          simp only [Option.map_none, Option.filter]
          rw [if_neg fun accepted => nomatch worked accepted]
      | some stored =>
          obtain ⟨other, otherMember, otherId, otherTransformed, accepted⟩ :=
            holds.kept.onlyRows documentId stored isIndexed
          obtain rfl :=
            content_unique unique otherMember member
              (otherId.trans sameId.symm)
          obtain rfl : stored.content = doc :=
            Option.some.inj (otherTransformed.symm.trans transformed)
          simp [Option.filter, accepted]

end Whole

/-- Every state of a run over a fixed table is transparent. -/
theorem Transparent.of_run
    {batchSize : Nat}
    {backfillRow incrementalRow : Option ReplicationCheckpoint}
    {events : List FixedEvent}
    {final : World}
    (ignores :
      ∀ doc now, accepts { doc with syncedAt := now } = accepts doc)
    (keys : PrimaryKeys table)
    (fresh : FreshCheckpoint backfillRow)
    (run :
      Run (fixedStep parse batchSize accepts) (fun _ _ => True)
        (SearchIndex.initial parse batchSize table backfillRow incrementalRow)
        events final) :
    Transparent parse batchSize accepts table final :=
  run.invariant (Transparent parse batchSize accepts table)
    (fun holds _ taken =>
      holds.step keys.unique (fun doc => ignores doc 0) taken)
    (.initial keys fresh)

/--
Crash transparency: whatever is killed, restarted, rejected, reordered or lost,
a completed backfill leaves one document for each accepted row, with the row's
content, and no other document.  So any two completed backfills of the table, of
which one may be free of crashes, leave the same index.
-/
theorem completed_index_eq
    {batchSize otherSize : Nat}
    {backfillRow incrementalRow otherRow otherIncrementalRow :
      Option ReplicationCheckpoint}
    {events otherEvents : List FixedEvent}
    {final other : World}
    (ignores :
      ∀ doc now, accepts { doc with syncedAt := now } = accepts doc)
    (keys : PrimaryKeys table)
    (fresh : FreshCheckpoint backfillRow)
    (run :
      Run (fixedStep parse batchSize accepts) (fun _ _ => True)
        (initial parse batchSize table backfillRow incrementalRow)
        events final)
    (completed : Completed final)
    (otherFresh : FreshCheckpoint otherRow)
    (otherRun :
      Run (fixedStep parse otherSize accepts) (fun _ _ => True)
        (initial parse otherSize table otherRow otherIncrementalRow)
        otherEvents other)
    (otherCompleted : Completed other) :
    ∀ documentId,
      (final.index documentId).map SearchDocument.content =
          contentsOf parse accepts table documentId ∧
        (final.index documentId).map SearchDocument.content =
          (other.index documentId).map SearchDocument.content := by
  intro documentId
  have first :=
    (Transparent.of_run ignores keys fresh run).index_eq
      keys.unique completed documentId
  have second :=
    (Transparent.of_run ignores keys otherFresh otherRun).index_eq
      keys.unique otherCompleted documentId
  exact ⟨first, first.trans second.symm⟩

/-- Two rows, of which the second is in version 2. -/
def sampleRows : List SourceRow :=
  [sampleVersion 1 0,
    { sampleRow 2 0 with payload := .obj [], version := 2 }]

/-- An index that accepts documents of version 1 only. -/
def sampleAccepts (doc : SearchDocument) : Bool :=
  doc.version = 1

/-- From the acknowledgements of the only batch to the status COMPLETED. -/
def sampleCompletion : List FixedEvent :=
  ([.act 0 (.settle .elasticsearch (some (sampleResult [1] [2]))),
    .act 0 (.settle .rabbitmq (some (sampleResult [1, 2] []))),
    .act 0 (.turn 0), .act 0 (.serve 0), .act 0 (.turn 0),
    .act 0 (.serve 0), .act 0 (.turn 0), .act 0 (.serve 0),
    .act 0 (.turn 0), .act 0 (.serve 0)] :
    List RunnerProgram.Event).map (.backfill 9)

/-- A run without crashes. -/
def sampleCrashFree : List FixedEvent :=
  BackfillRunner.sampleStart.map (.backfill 5) ++
    [.apply 0 0, .reject 0 0] ++ sampleCompletion

/--
The process dies when one document of the first request is indexed, the rest of
the request is lost, and the second one is executed in the other order.
-/
def sampleCrash : List FixedEvent :=
  BackfillRunner.sampleStart.map (.backfill 5) ++
    [.apply 0 0, .backfill 6 (.env .kill)] ++
    BackfillRunner.sampleStart.map (.backfill 7) ++
    [.lose 0, .reject 0 1, .apply 0 0] ++ sampleCompletion

/-- Both runs complete, and leave one document. -/
theorem completed_index_eq_sample :
    ∃ final other,
      Run (fixedStep (fun _ => none) 2 sampleAccepts) (fun _ _ => True)
        (initial (fun _ => none) 2 sampleRows none none)
        sampleCrash final ∧
      Run (fixedStep (fun _ => none) 2 sampleAccepts) (fun _ _ => True)
        (initial (fun _ => none) 2 sampleRows none none)
        sampleCrashFree other ∧
      indexed final 1 = some 1 ∧ indexed final 2 = none ∧
      ∀ documentId,
        (final.index documentId).map SearchDocument.content =
          (other.index documentId).map SearchDocument.content := by
  obtain ⟨final, run, completed, first, second⟩ :
      ∃ final,
        Run (fixedStep (fun _ => none) 2 sampleAccepts) (fun _ _ => True)
          (initial (fun _ => none) 2 sampleRows none none)
          sampleCrash final ∧
        (final.backfill.shared.memory.status = .completed ∧
          indexed final 1 = some 1 ∧ indexed final 2 = none) :=
    Run.exists_of_replay _ (by decide +kernel)
  obtain ⟨other, otherRun, otherCompleted⟩ :
      ∃ other,
        Run (fixedStep (fun _ => none) 2 sampleAccepts) (fun _ _ => True)
          (initial (fun _ => none) 2 sampleRows none none)
          sampleCrashFree other ∧
        other.backfill.shared.memory.status = .completed :=
    Run.exists_of_replay _ (by decide +kernel)
  have keys : PrimaryKeys sampleRows := ⟨by decide, by decide⟩
  have fresh : FreshCheckpoint none := by simp [FreshCheckpoint]
  refine ⟨final, other, run, otherRun, first, second, fun documentId => ?_⟩
  exact (completed_index_eq (fun _ _ => rfl) keys fresh run
    (.inl completed) fresh otherRun (.inl otherCompleted) documentId).2

end SearchIndex

end Replication
