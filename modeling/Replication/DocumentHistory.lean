import Replication.CrashTransparency
import Replication.JsonMerge

namespace Replication

/-!
# The stored document and the last version

A bulk item updates the stored document with `doc` and `doc_as_upsert`: the
fields it gives are merged into the document, the others are left.  Fields that
are undefined in the payload are not given.  So a field that an earlier version
had stays in the document, unless a later version gives it again.
-/

/-- The fields of an object that are not undefined. -/
def Json.present (entries : List (String × Option Json)) : Json :=
  .obj (entries.filterMap fun entry =>
    entry.2.map fun value => (entry.1, value))

namespace SearchDocument

/-- The fields of a document, as they are serialised. -/
def entries (doc : SearchDocument) : List (String × Option Json) := [
  ("id", some (.str (String.ofList doc.id))),
  ("source_uuid", some (.str doc.sourceUuid)),
  ("tenant_id", some doc.tenantId),
  ("customer_id", doc.customerId),
  ("full_name", some (.str (String.ofList doc.fullName))),
  ("email", doc.email),
  ("account_tier", doc.accountTier),
  ("balance", doc.balance),
  ("status", some (.str doc.status)),
  ("version", some (.num (.ofInt doc.version))),
  ("tags", some (.arr doc.tags)),
  ("country", some (.str doc.country)),
  ("source_created_at", some (.str (isoString doc.sourceCreatedAt))),
  ("source_updated_at", some (.str (isoString doc.sourceUpdatedAt))),
  ("synced_at", some (.str (isoString doc.syncedAt)))]

/-- `JSON.stringify` sees a document as this object. -/
def toJson (doc : SearchDocument) : Json :=
  Json.present doc.entries

/-- The fields that are copied from the payload, defined or not. -/
def copiedFields : List String :=
  ["customer_id", "email", "account_tier", "balance"]

/-- The fields that every document has; none of them is an object. -/
def ownFields : List String :=
  ["id", "source_uuid", "tenant_id", "full_name", "status", "version",
    "tags", "country", "source_created_at", "source_updated_at", "synced_at"]

end SearchDocument

namespace Json

/-- A name that is not listed has no field. -/
theorem field_present_none
    {name : String}
    {entries : List (String × Option Json)}
    (notListed : name ∉ entries.map Prod.fst) :
    (present entries).field name = none := by
  cases found : (present entries).field name with
  | none => rfl
  | some value =>
      have listed := congrArg Option.isSome found
      rw [present, isSome_field, List.any_filterMap] at listed
      obtain ⟨entry, member, isName⟩ := List.any_eq_true.mp listed
      refine absurd (List.mem_map.mpr ⟨entry, member, ?_⟩) notListed
      cases defined : entry.2 <;> simp_all

/-- With distinct names a field is the one listed under its name. -/
theorem field_present
    {name : String}
    {entries : List (String × Option Json)}
    (distinct : (entries.map Prod.fst).Nodup) :
    (present entries).field name =
      (entries.find? fun entry => entry.1 = name).bind Prod.snd := by
  induction entries with
  | nil => rfl
  | cons entry rest inductionHypothesis =>
      obtain ⟨entryName, value⟩ := entry
      rw [List.map_cons, List.nodup_cons] at distinct
      obtain ⟨fresh, restDistinct⟩ := distinct
      have later := inductionHypothesis restDistinct
      by_cases same : entryName = name
      · subst same
        have noLater := field_present_none fresh
        cases value with
        | none => simpa [present] using noLater
        | some value =>
            rw [present] at noLater
            simp [present, field_cons, noLater]
      · cases value with
        | none => simpa [present, same] using later
        | some value =>
            rw [present] at later
            simp [present, field_cons, same, later]

end Json

namespace SearchDocument

/-- The names of the fields are distinct. -/
theorem nodup_entries (doc : SearchDocument) :
    (doc.entries.map Prod.fst).Nodup := by
  simp [entries]

/-- A field of a document. -/
theorem field_toJson (doc : SearchDocument) (name : String) :
    doc.toJson.field name =
      (doc.entries.find? fun entry => entry.1 = name).bind Prod.snd :=
  Json.field_present doc.nodup_entries

/-- Other fields than these do not occur. -/
theorem mem_of_field
    {doc : SearchDocument}
    {name : String}
    (has : (doc.toJson.field name).isSome = true) :
    name ∈ copiedFields ∨ name ∈ ownFields := by
  by_contra notListed
  rw [toJson, Json.field_present_none] at has
  · cases has
  · simp only [copiedFields, ownFields, List.mem_cons, List.not_mem_nil,
      or_false, not_or] at notListed
    simp [entries, notListed]

/-- A document whose tenant is a text has its own fields, none an object. -/
theorem exists_ownField
    {name : String}
    (own : name ∈ ownFields)
    {doc : SearchDocument}
    (tenant : ∃ tenant, doc.tenantId = .str tenant) :
    ∃ value,
      doc.toJson.field name = some value ∧
        ∀ fields, value ≠ .obj fields := by
  obtain ⟨tenant, isTenant⟩ := tenant
  rw [field_toJson]
  simp only [ownFields, List.mem_cons, List.not_mem_nil, or_false] at own
  rcases own with rfl | rfl | rfl | rfl | rfl | rfl | rfl | rfl | rfl | rfl |
    rfl <;> exact ⟨_, rfl, by simp [isTenant]⟩

/-- A name that is not listed is no field of any document. -/
theorem field_none
    {name : String}
    (notListed : name ∉ copiedFields ++ ownFields)
    (doc : SearchDocument) :
    doc.toJson.field name = none := by
  by_contra has
  exact notListed (List.mem_append.mpr
    (mem_of_field (Option.isSome_iff_ne_none.mpr has)))

/-- The fields of an upserted document. -/
theorem field_upsert (old doc : SearchDocument) (name : String) :
    (upsert (some old) doc).toJson.field name =
      (doc.toJson.field name).or (old.toJson.field name) := by
  by_cases listed : name ∈ copiedFields ++ ownFields
  · simp only [copiedFields, ownFields, List.cons_append, List.nil_append,
      List.mem_cons, List.not_mem_nil, or_false] at listed
    rw [field_toJson, field_toJson, field_toJson]
    rcases listed with rfl | rfl | rfl | rfl | rfl | rfl | rfl | rfl | rfl |
      rfl | rfl | rfl | rfl | rfl | rfl <;> rfl
  · rw [field_none listed, field_none listed, field_none listed]
    rfl

/-- For fields that are no objects, upserting is merging. -/
theorem view_upsert
    {old doc : SearchDocument}
    (noObjects :
      ∀ name fields, doc.toJson.field name ≠ some (.obj fields))
    (path : List String) :
    Json.view path (upsert (some old) doc).toJson =
      Json.view path (Json.upsert (some old.toJson) doc.toJson) := by
  rw [Json.upsert, Json.view_merge]
  cases path with
  | nil => rfl
  | cons name path =>
      have given :
          Json.gives (name :: path) doc.toJson =
            (doc.toJson.field name).any (Json.gives path) := rfl
      rw [given]
      simp only [Json.view, field_upsert]
      cases found : doc.toJson.field name with
      | none => rfl
      | some value =>
          have gives :=
            Json.gives_of_noObject (fun fields isObject =>
              noObjects name fields (isObject ▸ found)) path
          simp [gives]

end SearchDocument

namespace ElasticsearchSink

/-- The tenant of the document is that of the record. -/
theorem tenantId_of_transformRecord
    {now : Int}
    {record : SourceRecord}
    {doc : SearchDocument}
    (transformed : transformRecord now record = some doc) :
    record.tenantId = doc.tenantId := by
  simp only [transformRecord] at transformed
  split at transformed
  · cases transformed
  · split at transformed
    · cases transformed
      rfl
    · cases transformed

/-- A copied field of the document is that of the payload. -/
theorem copiedField_of_transformRecord
    {now : Int}
    {record : SourceRecord}
    {doc : SearchDocument}
    {name : String}
    (transformed : transformRecord now record = some doc)
    (copied : name ∈ SearchDocument.copiedFields) :
    doc.toJson.field name = record.payload.field name := by
  rw [SearchDocument.field_toJson]
  simp only [transformRecord] at transformed
  split at transformed
  · cases transformed
  · split at transformed
    · cases transformed
      simp only [SearchDocument.copiedFields, List.mem_cons,
        List.not_mem_nil, or_false] at copied
      rcases copied with rfl | rfl | rfl | rfl <;> rfl
    · cases transformed

/--
A record of a row, whose tenant is a text, of which `bulkUpsert` has sent the
document made at some time.
-/
structure Written where
  now : Int
  record : SourceRecord
  doc : SearchDocument
  transformed : transformRecord now record = some doc
  tenant : ∃ tenant, record.tenantId = .str tenant

/-- Its update item. -/
def Written.item (written : Written) : UpdateItem where
  documentId := documentIdOf written.record.id
  doc := written.doc

/-- Elasticsearch applies an item. -/
def applyItem
    (index : Text → Option Json)
    (item : UpdateItem) : Text → Option Json :=
  Function.update index item.documentId
    (some (Json.upsert (index item.documentId) item.doc.toJson))

/-- The index after a history of items. -/
def indexAfter (history : List Written) : Text → Option Json :=
  (history.map Written.item).foldl applyItem fun _ => none

/-- The stored document has the same as `doc` at every path. -/
def Mirrors (source : Option Json) (doc : SearchDocument) : Prop :=
  ∀ path, source.bind (Json.view path) = Json.view path doc.toJson

/--
Whatever an earlier payload has in a copied field, at any depth, is given by a
later one, or lies in something that a later one replaces.
-/
def GivenAgain (earlier : List Json) (last : Json) : Prop :=
  ∀ before payload after, earlier = before ++ payload :: after →
    ∀ name ∈ SearchDocument.copiedFields, ∀ path,
      ((payload.field name).bind (Json.view path)).isSome = true →
      ∃ later ∈ after ++ [last],
        (later.field name).any (Json.gives path) = true

variable
  {earlier history : List Written}
  {last : Written}

/-- The items of one record are merged one after the other. -/
theorem indexAfter_eq
    {id : Nat}
    (sameId : ∀ written ∈ history, written.record.id = id) :
    indexAfter history (documentIdOf id) =
      Json.stored (history.map fun written => written.doc.toJson) := by
  induction history using List.reverseRecOn with
  | nil => rfl
  | append_singleton before written inductionHypothesis =>
      have isId : written.record.id = id := sameId written (by simp)
      have rest := inductionHypothesis fun other member =>
        sameId other (List.mem_append_left _ member)
      rw [indexAfter] at rest ⊢
      rw [List.map_append, List.foldl_append, Json.stored, List.map_append,
        List.foldl_append, ← Json.stored, ← rest]
      subst isId
      exact Function.update_self ..

/-- A path into the document of a record. -/
theorem view_toJson
    (written : Written)
    {name : String}
    (copied : name ∈ SearchDocument.copiedFields)
    (path : List String) :
    Json.view (name :: path) written.doc.toJson =
      (written.record.payload.field name).bind (Json.view path) := by
  rw [Json.view, copiedField_of_transformRecord written.transformed copied]

/-- What the document gives of a copied field. -/
theorem gives_toJson
    (written : Written)
    {name : String}
    (copied : name ∈ SearchDocument.copiedFields)
    (path : List String) :
    Json.gives (name :: path) written.doc.toJson =
      (written.record.payload.field name).any (Json.gives path) := by
  rw [← copiedField_of_transformRecord written.transformed copied]
  rfl

/-- Every document gives its own fields, and all there could be in them. -/
theorem gives_ownField
    (written : Written)
    {name : String}
    (own : name ∈ SearchDocument.ownFields)
    (path : List String) :
    Json.gives (name :: path) written.doc.toJson = true := by
  obtain ⟨value, found, noObject⟩ :=
    SearchDocument.exists_ownField own
      (tenantId_of_transformRecord written.transformed ▸ written.tenant)
  calc Json.gives (name :: path) written.doc.toJson
      = (written.doc.toJson.field name).any (Json.gives path) := rfl
    _ = true := by
      rw [found, Option.any_some, Json.gives_of_noObject noObject path]

/-- What is listed of a history and its last item. -/
theorem mem_map_concat
    (read : Written → Json)
    {value : Json} :
    value ∈ history.map read ++ [read last] ↔
      ∃ written ∈ history ++ [last], read written = value := by
  rw [← List.map_singleton, ← List.map_append, List.mem_map]

/-- Documents supersede each other as their payloads do. -/
theorem superseded_iff :
    Json.Superseded (earlier.map fun written => written.doc.toJson)
        last.doc.toJson ↔
      GivenAgain (earlier.map fun written => written.record.payload)
        last.record.payload := by
  constructor
  · intro superseded before payload after split name copied path has
    obtain ⟨beforeWritten, rest, rfl, rfl, afterSplit⟩ :=
      List.map_eq_append_iff.mp split
    obtain ⟨written, afterWritten, rfl, rfl, rfl⟩ :=
      List.map_eq_cons_iff.mp afterSplit
    rw [← view_toJson written copied] at has
    obtain ⟨later, member, given⟩ :=
      superseded _ _ _ (by rw [List.map_append, List.map_cons])
        (name :: path) has
    obtain ⟨laterWritten, laterMember, rfl⟩ :=
      (mem_map_concat fun written => written.doc.toJson).mp member
    refine ⟨laterWritten.record.payload, ?_, ?_⟩
    · exact (mem_map_concat fun written => written.record.payload).mpr
        ⟨laterWritten, laterMember, rfl⟩
    · rw [← gives_toJson laterWritten copied]
      exact given
  · intro givenAgain before doc after split path has
    obtain ⟨beforeWritten, rest, rfl, rfl, afterSplit⟩ :=
      List.map_eq_append_iff.mp split
    obtain ⟨written, afterWritten, rfl, rfl, rfl⟩ :=
      List.map_eq_cons_iff.mp afterSplit
    cases path with
    | nil => exact ⟨last.doc.toJson, by simp, rfl⟩
    | cons name path =>
        have hasField :
            (written.doc.toJson.field name).isSome = true := by
          by_contra missing
          rw [Json.view, Option.not_isSome_iff_eq_none.mp missing] at has
          cases has
        rcases SearchDocument.mem_of_field hasField with copied | own
        · rw [view_toJson written copied] at has
          obtain ⟨later, member, given⟩ :=
            givenAgain _ _ _ (by rw [List.map_append, List.map_cons]) name
              copied path has
          obtain ⟨laterWritten, laterMember, rfl⟩ :=
            (mem_map_concat fun written => written.record.payload).mp member
          rw [← gives_toJson laterWritten copied] at given
          refine ⟨laterWritten.doc.toJson, ?_, given⟩
          exact (mem_map_concat fun written => written.doc.toJson).mpr
            ⟨laterWritten, laterMember, rfl⟩
        · exact ⟨last.doc.toJson, by simp, gives_ownField last own path⟩

/--
After any history of items of one record, the stored document is that of the
last version if and only if whatever an earlier version has in a field that is
copied from the payload is given again, or replaced, by a later version.
-/
theorem mirrors_last_iff
    {id : Nat}
    (sameId : ∀ written ∈ earlier ++ [last], written.record.id = id) :
    Mirrors (indexAfter (earlier ++ [last]) (documentIdOf id)) last.doc ↔
      GivenAgain (earlier.map fun written => written.record.payload)
        last.record.payload := by
  rw [← superseded_iff, ← Json.view_stored_eq_last_iff, Mirrors,
    indexAfter_eq sameId, List.map_append, List.map_singleton]

/-- A version of record 1 whose payload has these fields. -/
def sampleRecordOf (fields : List (String × Json)) : SourceRecord where
  id := 1
  uuid := ""
  tenantId := .str ""
  payload := .obj fields
  version := 1
  status := "ACTIVE"
  isCorrupted := false
  createdAt := 0
  updatedAt := 0

/-- Its document. -/
def sampleDoc (email : Option Json) : SearchDocument where
  id := documentIdOf 1
  sourceUuid := ""
  tenantId := .str ""
  customerId := none
  fullName := []
  email
  accountTier := none
  balance := none
  status := "ACTIVE"
  version := 1
  tags := []
  country := ""
  sourceCreatedAt := 0
  sourceUpdatedAt := 0
  syncedAt := 0

/-- A version with an address, and one without. -/
def sampleWith : Written :=
  ⟨0, sampleRecordOf [("email", .str "a@b.c")],
    sampleDoc (some (.str "a@b.c")), rfl, ⟨"", rfl⟩⟩

/-- A version without an address. -/
def sampleWithout : Written :=
  ⟨0, sampleRecordOf [], sampleDoc none, rfl, ⟨"", rfl⟩⟩

/-- The address of the first version stays when the second has none. -/
theorem removed_field_stays :
    (indexAfter [sampleWith, sampleWithout] (documentIdOf 1)).bind
          (Json.view ["email"]) =
        some (.str "a@b.c") ∧
      Json.view ["email"] sampleWithout.doc.toJson = none ∧
      ¬ Mirrors (indexAfter [sampleWith, sampleWithout] (documentIdOf 1))
        sampleWithout.doc := by
  have kept :
      (indexAfter [sampleWith, sampleWithout] (documentIdOf 1)).bind
          (Json.view ["email"]) =
        some (.str "a@b.c") := by
    rw [indexAfter_eq (by simp [sampleWith, sampleWithout, sampleRecordOf])]
    rfl
  refine ⟨kept, rfl, fun mirrors => ?_⟩
  have same := mirrors ["email"]
  rw [kept] at same
  cases same

/-- An address that is added is found in the document. -/
theorem mirrors_last_iff_sample :
    Mirrors (indexAfter ([sampleWithout] ++ [sampleWith]) (documentIdOf 1))
      sampleWith.doc := by
  refine (@mirrors_last_iff [sampleWithout] sampleWith 1
    (by simp [sampleWith, sampleWithout, sampleRecordOf])).mpr ?_
  intro before payload after split name copied path has
  have member :
      payload ∈ [sampleWithout].map fun written => written.record.payload := by
    rw [split]
    simp
  obtain rfl := List.mem_singleton.mp member
  cases has

end ElasticsearchSink

end Replication
