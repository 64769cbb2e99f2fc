import Replication.Records
import Mathlib.Data.List.DropRight

namespace Replication

/-!
# The Elasticsearch sink

`transformRecord` maps a record to its search document, and `bulkUpsert` sends
one update item for each record of a batch, under the record's id.  A field that
is undefined in the payload is absent from the document.  JavaScript throws when
it reads a property of null, and when it prints an object whose own `toString`
is not a function.
-/

/-- White space and line terminators, as `String.prototype.trim` knows them. -/
def isWhiteSpace (char : Char) : Bool :=
  [9, 10, 11, 12, 13, 32, 160, 5760, 8232, 8233, 8239, 8287, 12288,
    65279].contains char.toNat ||
    (8192 ≤ char.toNat && char.toNat ≤ 8202)

/-- `String.prototype.trim`. -/
def Text.trim (text : Text) : Text :=
  (text.dropWhile isWhiteSpace).rdropWhile isWhiteSpace

namespace Json

/-- `value || fallback` for a value that may be undefined. -/
def getOr (value : Option Json) (fallback : Json) : Json :=
  (value.filter truthy).getD fallback

end Json

/-- The document indexed for a record, without its undefined fields. -/
structure SearchDocument where
  id : Text
  sourceUuid : String
  tenantId : Json
  customerId : Option Json
  fullName : Text
  email : Option Json
  accountTier : Option Json
  balance : Option Json
  status : String
  version : Int
  tags : List Json
  country : String
  sourceCreatedAt : Int
  sourceUpdatedAt : Int
  syncedAt : Int
  deriving Repr

/-- An action line of a bulk request with its document line. -/
structure UpdateItem where
  /-- `_id` -/
  documentId : Text
  doc : SearchDocument
  deriving Repr

namespace ElasticsearchSink

/-- `String(record.id)`. -/
def documentIdOf (id : Nat) : Text :=
  JsNumber.natText id

/-- `transformRecord`, or nothing where it throws. -/
def transformRecord
    (now : Int)
    (record : SourceRecord) : Option SearchDocument :=
  match record.payload with
  | .null => none
  | payload =>
      let firstName := Json.getOr (payload.field "first_name") (.str "")
      let lastName := Json.getOr (payload.field "last_name") (.str "")
      let metadata := payload.field "metadata"
      if firstName.prints && lastName.prints then
        some
          { id := documentIdOf record.id
            sourceUuid := record.uuid
            tenantId := record.tenantId
            customerId := payload.field "customer_id"
            fullName :=
              Text.trim (firstName.toText ++ ' ' :: lastName.toText)
            email := payload.field "email"
            accountTier := payload.field "account_tier"
            balance := payload.field "balance"
            status := record.status
            version := record.version
            tags :=
              match metadata.bind (Json.field "tags") with
              | some (.arr tags) => tags
              | _ => []
            country :=
              match metadata.bind (Json.field "country") with
              | some (.str country) => country
              | _ => ""
            sourceCreatedAt := record.createdAt
            sourceUpdatedAt := record.updatedAt
            syncedAt := now }
      else
        none

/-- The update item of one record. -/
def updateItem (now : Int) (record : SourceRecord) : Option UpdateItem :=
  (transformRecord now record).map fun doc =>
    { documentId := documentIdOf record.id, doc }

/-- The items `bulkUpsert` sends, or nothing where it throws. -/
def bulkUpsert
    (now : Int)
    (records : List SourceRecord) : Option (List UpdateItem) :=
  records.mapM (updateItem now)

/-- A document keeps the version of its record. -/
theorem transformRecord_version
    {now : Int}
    {record : SourceRecord}
    {doc : SearchDocument}
    (transformed : transformRecord now record = some doc) :
    doc.version = record.version := by
  simp only [transformRecord] at transformed
  split at transformed
  · cases transformed
  · split at transformed
    · cases transformed
      rfl
    · cases transformed

/-- An item is for the document and the version of its record. -/
theorem updateItem_spec
    {now : Int}
    {record : SourceRecord}
    {item : UpdateItem}
    (made : updateItem now record = some item) :
    item.documentId = documentIdOf record.id ∧
      item.doc.version = record.version := by
  obtain ⟨doc, transformed, rfl⟩ := Option.map_eq_some_iff.mp made
  exact ⟨rfl, transformRecord_version transformed⟩

/-- Every item that is sent is that of a record of the batch. -/
theorem mem_bulkUpsert
    {now : Int}
    {records : List SourceRecord}
    {items : List UpdateItem}
    (sent : bulkUpsert now records = some items)
    {item : UpdateItem}
    (member : item ∈ items) :
    ∃ record ∈ records, updateItem now record = some item := by
  induction records generalizing items with
  | nil =>
      cases sent
      cases member
  | cons record rest inductionHypothesis =>
      simp only [bulkUpsert, List.mapM_cons, Option.bind_eq_bind,
        Option.bind_eq_some_iff, Option.pure_def, Option.some.injEq] at sent
      obtain ⟨head, made, later, sentRest, rfl⟩ := sent
      rcases List.mem_cons.mp member with rfl | inRest
      · exact ⟨record, List.mem_cons_self, made⟩
      · obtain ⟨found, inRecords, madeFound⟩ :=
          inductionHypothesis sentRest inRest
        exact ⟨found, List.mem_cons_of_mem _ inRecords, madeFound⟩

end ElasticsearchSink

end Replication
