import Replication.ElasticsearchSink

namespace Replication

/-!
# Operator replay of dead letters

`retryEntry` rebuilds a source record from a dead letter and hands it to the
sinks.  The dead letter has no version, so the rebuilt record is always in
version 1.  `Number` on texts is an argument: it reads a finite decimal, and is
nothing where the result is not a number.
-/

namespace DLQStore

/-- The payload that `mapRowToDLQEntry` reads from the column. -/
def readPayload (parse : String → Option Json) : Json → Json
  | .str text => (parse text).getD (.obj [("raw", .str text)])
  | payload => Json.getOr (some payload) (.obj [])

end DLQStore

namespace DLQReplayer

/-- `entry.payload` where it is an object, else an empty one. -/
def payloadObject : Json → Json
  | .obj fields => .obj fields
  | .arr items => .arr items
  | _ => .obj []

/-- `Number(text)` with 0 for what is not a number; JSON has no infinity. -/
def numberOf
    (number : Text → Option JsNumber)
    (text : Text) : Json :=
  if ["Infinity", "+Infinity", "-Infinity"].contains
      (String.ofList (Text.trim text)) then
    .null
  else
    .num ((number text).getD (.ofInt 0))

/-- `Number(value)` with 0 for what is not a number. -/
def balanceOf
    (number : Text → Option JsNumber) : Option Json → Json
  | some (.num value) => .num value
  | some (.bool true) => .num (.ofInt 1)
  | some (.str text) => numberOf number text.toList
  | some (.arr items) => numberOf number (Json.joinItems items)
  | _ => .num (.ofInt 0)

/-- `entry.record_id || dlqId`. -/
def recordId (entry : DLQEntry) : Nat :=
  (entry.recordId.filter fun id => id != 0).getD entry.id

/-- A text followed by the record id. -/
def withId (before : String) (entry : DLQEntry) (after : String) : Json :=
  .str (String.ofList
    (before.toList ++ JsNumber.natText (recordId entry) ++ after.toList))

/-- The payload rebuilt from that of the dead letter. -/
def reconstructedPayload
    (number : Text → Option JsNumber)
    (entry : DLQEntry)
    (payload : Json) : Json :=
  .obj [
    ("customer_id",
      Json.getOr (payload.field "customer_id")
        (withId "cust_dlq_" entry "")),
    ("first_name",
      Json.getOr (payload.field "first_name") (.str "Replayed")),
    ("last_name",
      Json.getOr (payload.field "last_name") (.str "Customer")),
    ("email",
      Json.getOr (payload.field "email")
        (withId "replayed_" entry "@test.com")),
    ("account_tier",
      match payload.field "account_tier" with
      | some (.str "PREMIUM") => .str "PREMIUM"
      | some (.str "ENTERPRISE") => .str "ENTERPRISE"
      | _ => .str "STANDARD"),
    ("balance", balanceOf number (payload.field "balance")),
    ("metadata",
      Json.getOr (payload.field "metadata")
        (.obj [("signup_channel", .str "WEB"), ("country", .str "US"),
          ("tags", .arr [.str "dlq_replayed"])]))]

/-- The record rebuilt from a dead letter, or nothing where it throws. -/
def reconstruct
    (parse : String → Option Json)
    (number : Text → Option JsNumber)
    (now : Int)
    (randomUuid : String)
    (entry : DLQEntry) : Option SourceRecord :=
  let payload := payloadObject (DLQStore.readPayload parse entry.payload)
  if ((payload.field "balance").map Json.prints).getD true then
    some
      { id := recordId entry
        uuid :=
          (entry.recordUuid.filter fun uuid => uuid != "").getD randomUuid
        tenantId :=
          Json.getOr (payload.field "tenant_id") (.str "tenant_default")
        payload := reconstructedPayload number entry payload
        version := 1
        status := "ACTIVE"
        isCorrupted := false
        createdAt := entry.createdAt
        updatedAt := now }
  else
    none

/-- The record that `retryEntry` hands to `bulkUpsert`, if it does. -/
def toElasticsearch
    (parse : String → Option Json)
    (number : Text → Option JsNumber)
    (now : Int)
    (randomUuid : String)
    (entry : DLQEntry) : Option SourceRecord :=
  if entry.status ≠ .resolved ∧
      (entry.sinkTarget = .elasticsearch ∨ entry.sinkTarget = .all) then
    reconstruct parse number now randomUuid entry
  else
    none

/-- Whatever is replayed is in version 1. -/
theorem toElasticsearch_spec
    {parse : String → Option Json}
    {number : Text → Option JsNumber}
    {now : Int}
    {randomUuid : String}
    {entry : DLQEntry}
    {record : SourceRecord}
    (replayed :
      toElasticsearch parse number now randomUuid entry = some record) :
    record.id = recordId entry ∧ record.version = 1 := by
  simp only [toElasticsearch, reconstruct] at replayed
  split at replayed
  · split at replayed
    · cases replayed
      exact ⟨rfl, rfl⟩
    · cases replayed
  · cases replayed

end DLQReplayer

end Replication
