import Mathlib
import Replication.DLQReplayer

namespace Replication

/-!
# The dead letters of one INSERT

`persistFailures` builds one statement for all failures of a batch: a clause of
numbered placeholders for each, and one list of values.  The database binds the
values, converts each for its column, and rejects the statement as a whole if
one of them does not fit.  `mapRowToDLQEntry` reads a row back.  What comes back
is the entry exactly where the payload is an object, an array, true, or a number
other than zero, and no text in it has a null character.  Texts are sequences of
characters here, so they have no lone surrogates, which the database refuses too.
-/

/-! ### Equal values -/

namespace Json

/-- Insert a member in the order of names; a later member of that name wins. -/
def insertField (name : String) (value : Json) :
    List (String × Json) → List (String × Json)
  | [] => [(name, value)]
  | (other, held) :: rest =>
      if name < other then (name, value) :: (other, held) :: rest
      else if name = other then (other, held) :: rest
      else (other, held) :: insertField name value rest

mutual

/-- The value with the members of each object in the order of their names. -/
def canonical : Json → Json
  | .arr items => .arr (canonicalItems items)
  | .obj fields => .obj (canonicalFields fields)
  | other => other

/-- Every item of an array. -/
def canonicalItems : List Json → List Json
  | [] => []
  | item :: rest => canonical item :: canonicalItems rest

/-- Every member of an object. -/
def canonicalFields : List (String × Json) → List (String × Json)
  | [] => []
  | (name, value) :: rest =>
      insertField name (canonical value) (canonicalFields rest)

end

mutual

/-- No text in the value, name or string, has a null character. -/
def storable : Json → Bool
  | .str text => !text.toList.contains '\x00'
  | .arr items => itemsStorable items
  | .obj fields => fieldsStorable fields
  | _ => true

/-- None in any item of an array. -/
def itemsStorable : List Json → Bool
  | [] => true
  | item :: rest => storable item && itemsStorable rest

/-- None in any member of an object. -/
def fieldsStorable : List (String × Json) → Bool
  | [] => true
  | (name, value) :: rest =>
      !name.toList.contains '\x00' && (storable value && fieldsStorable rest)

end

/-- `typeof value === 'string'`. -/
def isString : Json → Bool
  | .str _ => true
  | _ => false

/-- The order of members does not matter. -/
def Equal (first second : Json) : Prop :=
  first.canonical = second.canonical

variable {value : Json}

/-- A string is equal to itself only. -/
theorem equal_str {text : String} :
    value.Equal (.str text) ↔ value = .str text := by
  cases value <;> simp [Equal, canonical]

/-- So is a number. -/
theorem equal_num {number : JsNumber} :
    value.Equal (.num number) ↔ value = .num number := by
  cases value <;> simp [Equal, canonical]

/-- So is a truth value. -/
theorem equal_bool {truth : Bool} :
    value.Equal (.bool truth) ↔ value = .bool truth := by
  cases value <;> simp [Equal, canonical]

/-- So is null. -/
theorem equal_null : value.Equal .null ↔ value = .null := by
  cases value <;> simp [Equal, canonical]

/-- Only an array is equal to an array. -/
theorem Equal.eq_arr
    {items : List Json}
    (equal : value.Equal (.arr items)) :
    ∃ others, value = .arr others := by
  cases value with
  | arr others => exact ⟨others, rfl⟩
  | _ => simp [Equal, canonical] at equal

/-- Only an object is equal to an object. -/
theorem Equal.eq_obj
    {fields : List (String × Json)}
    (equal : value.Equal (.obj fields)) :
    ∃ others, value = .obj others := by
  cases value with
  | obj others => exact ⟨others, rfl⟩
  | _ => simp [Equal, canonical] at equal

end Json

/-! ### The database -/

/-- A value that the driver binds to a placeholder. -/
inductive SqlValue where
  | null
  | number (value : Nat)
  | text (value : String)
  deriving DecidableEq, Repr

/-- The texts that PostgreSQL converts in its own way. -/
structure Postgres where
  /-- A text cast with `::jsonb`, as the driver returns the value. -/
  jsonb : String → Option Json
  /-- A text stored in a UUID column, as the driver returns it. -/
  uuid : String → Option String

namespace Postgres

/-- A BIGINT column. -/
def bigint : SqlValue → Option (Option Nat)
  | .null => some none
  | .number value => if value < 2 ^ 63 then some (some value) else none
  | .text _ => none

/-- A TEXT column; texts with a null character are refused. -/
def text : SqlValue → Option String
  | .text value => if '\x00' ∈ value.toList then none else some value
  | _ => none

/-- A TEXT column that may be NULL. -/
def nullableText : SqlValue → Option (Option String)
  | .null => some none
  | value => (text value).map some

/-- A VARCHAR column; only spaces beyond the limit are cut off. -/
def varchar (limit : Nat) (value : SqlValue) : Option String :=
  (text value).bind fun value =>
    if value.toList.length ≤ limit then some value
    else if (value.toList.drop limit).all (· = ' ') then
      some (String.ofList (value.toList.take limit))
    else none

/-- A UUID column. -/
def uuidColumn (database : Postgres) : SqlValue → Option (Option String)
  | .null => some none
  | .text value => (database.uuid value).map some
  | .number _ => none

/-- A parameter with the cast `::jsonb`, for a column that is NOT NULL. -/
def jsonbColumn (database : Postgres) : SqlValue → Option Json
  | .text value => database.jsonb value
  | _ => none

end Postgres

/-- A sink target as the column has it. -/
def SinkTarget.text : SinkTarget → String
  | .elasticsearch => "ELASTICSEARCH"
  | .rabbitmq => "RABBITMQ"
  | .all => "ALL"

/-- `row.sink_target as SinkTarget`, of the texts that are one. -/
def SinkTarget.ofText? : String → Option SinkTarget
  | "ELASTICSEARCH" => some .elasticsearch
  | "RABBITMQ" => some .rabbitmq
  | "ALL" => some .all
  | _ => none

@[simp] theorem SinkTarget.ofText?_text (target : SinkTarget) :
    ofText? target.text = some target := by
  cases target <;> rfl

namespace DLQStore

/-! ### The statement -/

/--
The placeholders of one element of `valueClauses`, in the order of the columns.
The payload is cast; the status, the retry count and the time are written in the
statement itself.
-/
structure ValueClause where
  recordId : Nat
  recordUuid : Nat
  sinkTarget : Nat
  payload : Nat
  errorCode : Nat
  errorMessage : Nat
  stackTrace : Nat
  deriving DecidableEq, Repr

/-- The clause pushed for a failure. -/
def valueClause (paramIdx : Nat) : ValueClause where
  recordId := paramIdx
  recordUuid := paramIdx + 1
  sinkTarget := paramIdx + 2
  payload := paramIdx + 3
  errorCode := paramIdx + 4
  errorMessage := paramIdx + 5
  stackTrace := paramIdx + 6

/-- `f.payload ?? {}`. -/
def payloadOrEmpty : Json → Json
  | .null => .obj []
  | payload => payload

/-- The text sent for a payload; a string is sent as it is. -/
def payloadText : Json → String
  | .str text => text
  | payload => String.ofList (Json.stringify (payloadOrEmpty payload))

/-- The values pushed for a failure. -/
def pushed (failure : NewDLQEntry) : List SqlValue :=
  [(failure.recordId.map .number).getD .null,
    (failure.recordUuid.map .text).getD .null,
    .text failure.sinkTarget.text,
    .text (payloadText failure.payload),
    .text failure.errorCode,
    .text failure.errorMessage,
    (failure.stackTrace.map .text).getD .null]

/-- The text and the values handed to the driver. -/
structure Statement where
  valueClauses : List ValueClause
  values : List SqlValue
  deriving DecidableEq, Repr

/-- The loop over the failures. -/
def pushAll (paramIdx : Nat) (statement : Statement) :
    List NewDLQEntry → Statement
  | [] => statement
  | failure :: rest =>
      pushAll (paramIdx + 7)
        { valueClauses := statement.valueClauses ++ [valueClause paramIdx]
          values := statement.values ++ pushed failure }
        rest

/-- The statement that `persistFailures` builds. -/
def insertStatement (failures : List NewDLQEntry) : Statement :=
  pushAll 1 ⟨[], []⟩ failures

/-! ### Its execution -/

/-- `$n` is the n-th value. -/
def bound (values : List SqlValue) (placeholder : Nat) : Option SqlValue :=
  if placeholder = 0 then none else values[placeholder - 1]?

/-- The row of one clause, with the number that the sequence gives it. -/
def clauseRow
    (database : Postgres)
    (now : Int)
    (values : List SqlValue)
    (id : Nat)
    (clause : ValueClause) : Option DLQEntry := do
  let recordId ← (bound values clause.recordId).bind Postgres.bigint
  let recordUuid ← (bound values clause.recordUuid).bind database.uuidColumn
  let target ← (bound values clause.sinkTarget).bind (Postgres.varchar 32)
  let sinkTarget ← SinkTarget.ofText? target
  let payload ← (bound values clause.payload).bind database.jsonbColumn
  let errorCode ← (bound values clause.errorCode).bind (Postgres.varchar 64)
  let errorMessage ← (bound values clause.errorMessage).bind Postgres.text
  let stackTrace ← (bound values clause.stackTrace).bind Postgres.nullableText
  some
    { id, recordId, recordUuid, sinkTarget, payload, errorCode, errorMessage
      stackTrace
      retryCount := 0
      status := .pending
      createdAt := now
      lastRetriedAt := none }

/-- The rows of all clauses; one that is rejected rejects the statement. -/
def clauseRows
    (database : Postgres)
    (now : Int)
    (values : List SqlValue) :
    Nat → List ValueClause → Option (List DLQEntry)
  | _, [] => some []
  | id, clause :: rest => do
      let row ← clauseRow database now values id clause
      let rows ← clauseRows database now values (id + 1) rest
      some (row :: rows)

/-- The rows that a statement adds to the table. -/
def execute
    (database : Postgres)
    (now : Int)
    (nextId : Nat)
    (statement : Statement) : Option (List DLQEntry) :=
  clauseRows database now statement.values nextId statement.valueClauses

/-- A row as `mapRowToDLQEntry` returns it. -/
def mapRowToDLQEntry
    (parse : String → Option Json)
    (row : DLQEntry) : DLQEntry :=
  { row with payload := readPayload parse row.payload }

/-! ### Which value reaches which column -/

/-- The row of a failure whose values reach the columns they are meant for. -/
def storedRow
    (database : Postgres)
    (now : Int)
    (id : Nat)
    (failure : NewDLQEntry) : Option DLQEntry := do
  let recordId ← Postgres.bigint ((failure.recordId.map .number).getD .null)
  let recordUuid ←
    database.uuidColumn ((failure.recordUuid.map .text).getD .null)
  let target ← Postgres.varchar 32 (.text failure.sinkTarget.text)
  let sinkTarget ← SinkTarget.ofText? target
  let payload ← database.jsonb (payloadText failure.payload)
  let errorCode ← Postgres.varchar 64 (.text failure.errorCode)
  let errorMessage ← Postgres.text (.text failure.errorMessage)
  let stackTrace ←
    Postgres.nullableText ((failure.stackTrace.map .text).getD .null)
  some
    { id, recordId, recordUuid, sinkTarget, payload, errorCode, errorMessage
      stackTrace
      retryCount := 0
      status := .pending
      createdAt := now
      lastRetriedAt := none }

/-- The rows of all failures; one that is rejected rejects the statement. -/
def storedRows
    (database : Postgres)
    (now : Int) :
    Nat → List NewDLQEntry → Option (List DLQEntry)
  | _, [] => some []
  | id, failure :: rest => do
      let row ← storedRow database now id failure
      let rows ← storedRows database now (id + 1) rest
      some (row :: rows)

/-- The clauses of the failures, numbered from `paramIdx` on. -/
def clausesFrom : Nat → List NewDLQEntry → List ValueClause
  | _, [] => []
  | paramIdx, _ :: rest => valueClause paramIdx :: clausesFrom (paramIdx + 7) rest

section Binding

variable
  {database : Postgres}
  {now : Int}

/-- The loop appends a clause and seven values for each failure. -/
theorem pushAll_eq
    (paramIdx : Nat)
    (statement : Statement)
    (failures : List NewDLQEntry) :
    pushAll paramIdx statement failures =
      { valueClauses :=
          statement.valueClauses ++ clausesFrom paramIdx failures
        values := statement.values ++ failures.flatMap pushed } := by
  induction failures generalizing paramIdx statement with
  | nil => simp [pushAll, clausesFrom]
  | cons failure rest inductionHypothesis =>
      rw [pushAll, inductionHypothesis]
      simp [clausesFrom]

/-- A placeholder that is numbered past the values before. -/
theorem bound_append
    (before new after : List SqlValue)
    {position : Nat}
    (inside : position < new.length) :
    bound (before ++ (new ++ after)) (before.length + 1 + position) =
      new[position]? := by
  have positive : before.length + 1 + position ≠ 0 := by omega
  have index : before.length + 1 + position - 1 = before.length + position := by
    omega
  rw [bound, if_neg positive, index,
    List.getElem?_append_right (Nat.le_add_right _ _), Nat.add_sub_cancel_left,
    List.getElem?_append_left inside]

/-- Each clause binds the values that were pushed with it. -/
theorem clauseRow_valueClause
    (before after : List SqlValue)
    (id : Nat)
    (failure : NewDLQEntry) :
    clauseRow database now (before ++ (pushed failure ++ after)) id
        (valueClause (before.length + 1)) =
      storedRow database now id failure := by
  have reaches :
      ∀ {position : Nat}, position < 7 →
        bound (before ++ (pushed failure ++ after))
            (before.length + 1 + position) =
          (pushed failure)[position]? :=
    fun inside => bound_append before (pushed failure) after inside
  have first := reaches (show 0 < 7 by decide)
  rw [Nat.add_zero] at first
  simp only [clauseRow, valueClause, first,
    reaches (show 1 < 7 by decide), reaches (show 2 < 7 by decide),
    reaches (show 3 < 7 by decide), reaches (show 4 < 7 by decide),
    reaches (show 5 < 7 by decide), reaches (show 6 < 7 by decide)]
  rfl

/-- Every clause of the loop does, whatever has been pushed before. -/
theorem clauseRows_clausesFrom
    (before : List SqlValue)
    (id : Nat)
    (failures : List NewDLQEntry) :
    clauseRows database now (before ++ failures.flatMap pushed) id
        (clausesFrom (before.length + 1) failures) =
      storedRows database now id failures := by
  induction failures generalizing before id with
  | nil => rfl
  | cons failure rest inductionHypothesis =>
      have later :=
        inductionHypothesis (before ++ pushed failure) (id + 1)
      have length : (before ++ pushed failure).length + 1 =
          before.length + 1 + 7 := by
        rw [List.length_append]
        simp only [pushed, List.length_cons, List.length_nil]
      rw [length, List.append_assoc] at later
      rw [List.flatMap_cons, clausesFrom, clauseRows, storedRows, later,
        clauseRow_valueClause]

/-- The statement stores a row for each failure, from its own values. -/
theorem execute_insertStatement
    (nextId : Nat)
    (failures : List NewDLQEntry) :
    execute database now nextId (insertStatement failures) =
      storedRows database now nextId failures := by
  rw [insertStatement, pushAll_eq]
  exact clauseRows_clausesFrom [] nextId failures

end Binding

/-! ### What is read back -/

/-- The text has no null character. -/
def Printable (text : String) : Prop :=
  '\x00' ∉ text.toList

/-- The columns besides the payload take the values of the entry as they are. -/
structure Fits (database : Postgres) (failure : NewDLQEntry) : Prop where
  recordId : ∀ id ∈ failure.recordId, id < 2 ^ 63
  recordUuid :
    ∀ uuid ∈ failure.recordUuid, database.uuid uuid = some uuid
  errorCode :
    Printable failure.errorCode ∧ failure.errorCode.toList.length ≤ 64
  errorMessage : Printable failure.errorMessage
  stackTrace : ∀ trace ∈ failure.stackTrace, Printable trace

/--
The payload is an object, an array, true, or a number other than zero, without
null characters.
-/
def keepsPayload : Json → Bool
  | .str _ => false
  | payload => payload.truthy && payload.storable

/-- The row is PENDING, has not been retried, and is read as the entry. -/
structure ReadsBack
    (parse : String → Option Json)
    (failure : NewDLQEntry)
    (row : DLQEntry) : Prop where
  status : row.status = .pending
  retryCount : row.retryCount = 0
  recordId : (mapRowToDLQEntry parse row).recordId = failure.recordId
  recordUuid : (mapRowToDLQEntry parse row).recordUuid = failure.recordUuid
  sinkTarget : (mapRowToDLQEntry parse row).sinkTarget = failure.sinkTarget
  errorCode : (mapRowToDLQEntry parse row).errorCode = failure.errorCode
  errorMessage :
    (mapRowToDLQEntry parse row).errorMessage = failure.errorMessage
  stackTrace : (mapRowToDLQEntry parse row).stackTrace = failure.stackTrace
  payload :
    (mapRowToDLQEntry parse row).payload.Equal failure.payload

/--
What is documented of the cast and of `JSON.parse`: the text that
`JSON.stringify` has printed for a payload is cast to an equal value, unless it
has a null character, which is refused; and the text of a JSON string is longer
than the string.
-/
structure Documented
    (database : Postgres)
    (parse : String → Option Json)
    (failure : NewDLQEntry) : Prop where
  reads :
    failure.payload.isString = false → failure.payload.storable = true →
      ∃ value,
        database.jsonb (payloadText failure.payload) = some value ∧
          value.Equal (payloadOrEmpty failure.payload)
  refuses :
    failure.payload.isString = false → failure.payload.storable = false →
      database.jsonb (payloadText failure.payload) = none
  casts :
    ∀ text value,
      database.jsonb text = some (.str value) →
        value.toList.length < text.toList.length
  parses :
    ∀ text value,
      parse text = some (.str value) →
        value.toList.length < text.toList.length

section Columns

variable {database : Postgres}

/-- A TEXT column keeps what has no null character. -/
theorem text_eq_self {value : String} :
    Postgres.text (.text value) = some value ↔ Printable value := by
  simp [Postgres.text, Printable]

/-- A VARCHAR column keeps what is not too long. -/
theorem varchar_eq_self {limit : Nat} {value : String} :
    Postgres.varchar limit (.text value) = some value ↔
      Printable value ∧ value.toList.length ≤ limit := by
  by_cases printable : Printable value
  · rw [Postgres.varchar, text_eq_self.mpr printable, Option.bind_some]
    split
    · rename_i short
      exact iff_of_true rfl ⟨printable, short⟩
    · rename_i long
      refine iff_of_false ?_ fun fits => long fits.2
      split
      · intro cut
        have length := congrArg List.length
          (congrArg String.toList (Option.some.inj cut))
        rw [String.toList_ofList, List.length_take] at length
        omega
      · exact fun absent => by cases absent
  · refine iff_of_false (fun kept => printable ?_) fun fits => printable fits.1
    by_contra hasNull
    have refused : Postgres.text (.text value) = none := by
      simpa [Postgres.text, Printable] using hasNull
    rw [Postgres.varchar, refused] at kept
    cases kept

/-- A BIGINT column keeps what is in its range. -/
theorem bigint_eq_self {id : Option Nat} :
    Postgres.bigint ((id.map .number).getD .null) = some id ↔
      ∀ value ∈ id, value < 2 ^ 63 := by
  cases id with
  | none => simp [Postgres.bigint]
  | some value => simp [Postgres.bigint]

/-- A UUID column keeps a text in its own form. -/
theorem uuidColumn_eq_self {uuid : Option String} :
    database.uuidColumn ((uuid.map .text).getD .null) = some uuid ↔
      ∀ value ∈ uuid, database.uuid value = some value := by
  cases uuid with
  | none => simp [Postgres.uuidColumn]
  | some value => simp [Postgres.uuidColumn]

/-- So does a TEXT column that may be NULL. -/
theorem nullableText_eq_self {trace : Option String} :
    Postgres.nullableText ((trace.map .text).getD .null) = some trace ↔
      ∀ value ∈ trace, Printable value := by
  cases trace with
  | none => simp [Postgres.nullableText]
  | some value =>
      simp [Postgres.nullableText, ← text_eq_self]

/-- The names of the sink targets fit. -/
theorem varchar_target (target : SinkTarget) :
    Postgres.varchar 32 (.text target.text) = some target.text := by
  cases target <;> decide

end Columns

section Rows

variable
  {database : Postgres}
  {parse : String → Option Json}
  {now : Int}
  {failure : NewDLQEntry}

/-- A truthy value that is not a string is read as it is. -/
theorem readPayload_of_truthy
    {value : Json}
    (notString : value.isString = false)
    (truthy : value.truthy = true) :
    readPayload parse value = value := by
  cases value with
  | str text => cases notString
  | _ => simp [readPayload, Json.getOr, Option.filter_some, truthy]

/-- A falsy value that is not a string is read as an empty object. -/
theorem readPayload_of_falsy
    {value : Json}
    (notString : value.isString = false)
    (falsy : value.truthy = false) :
    readPayload parse value = .obj [] := by
  cases value with
  | str text => cases notString
  | _ => simp [readPayload, Json.getOr, Option.filter_some, falsy]

/-- Only a string that is a JSON string again is read as a string. -/
theorem eq_str_of_readPayload
    {value : Json}
    {text : String}
    (read : readPayload parse value = .str text) :
    ∃ inner, value = .str inner ∧ parse inner = some (.str text) := by
  cases value with
  | str inner =>
      refine ⟨inner, rfl, ?_⟩
      cases parsed : parse inner with
      | none => simp [readPayload, parsed] at read
      | some result => simpa [readPayload, parsed] using read
  | arr items => simp [readPayload, Json.getOr, Option.filter_some, Json.truthy] at read
  | obj fields => simp [readPayload, Json.getOr, Option.filter_some, Json.truthy] at read
  | null => simp [readPayload, Json.getOr, Option.filter_some, Json.truthy] at read
  | bool truth =>
      cases truth <;> simp [readPayload, Json.getOr, Option.filter_some, Json.truthy] at read
  | num number =>
      by_cases zero : number.mantissa = 0 <;>
        simp [readPayload, Json.getOr, Option.filter_some, Json.truthy, zero] at read

/-- A cast that succeeds has one value. -/
theorem exists_cast_iff
    {text : String}
    {value : Json}
    {holds : Json → Prop}
    (cast : database.jsonb text = some value) :
    (∃ other, database.jsonb text = some other ∧ holds other) ↔
      holds value := by
  constructor
  · rintro ⟨other, same, isSo⟩
    obtain rfl := Option.some.inj (cast.symm.trans same)
    exact isSo
  · exact fun isSo => ⟨value, cast, isSo⟩

/--
A payload that is sent as `JSON.stringify` prints it is kept if it is truthy and
has no null character.
-/
theorem exists_stringified_iff
    (documented : Documented database parse failure)
    (notString : failure.payload.isString = false)
    (asItIs : payloadOrEmpty failure.payload = failure.payload)
    (alike :
      ∀ value : Json, value.Equal failure.payload →
        value.isString = false ∧ value.truthy = failure.payload.truthy)
    (notEmpty :
      failure.payload.truthy = false →
        ¬ (Json.obj []).Equal failure.payload) :
    (∃ value,
      database.jsonb (payloadText failure.payload) = some value ∧
        (readPayload parse value).Equal failure.payload) ↔
      (failure.payload.truthy && failure.payload.storable) = true := by
  cases storable : failure.payload.storable with
  | false =>
      have refused := documented.refuses notString storable
      simp [refused]
  | true =>
      obtain ⟨value, cast, equal⟩ := documented.reads notString storable
      rw [asItIs] at equal
      obtain ⟨valueNotString, sameTruth⟩ := alike value equal
      rw [exists_cast_iff cast, Bool.and_true]
      cases truthy : failure.payload.truthy with
      | true =>
          rw [readPayload_of_truthy valueNotString (sameTruth.trans truthy)]
          exact iff_of_true equal rfl
      | false =>
          rw [readPayload_of_falsy valueNotString (sameTruth.trans truthy)]
          exact iff_of_false (notEmpty truthy) Bool.false_ne_true

/-- What is cast and read again is equal unless `||` or the quotes lose it. -/
theorem exists_payload_iff
    (documented : Documented database parse failure) :
    (∃ value,
      database.jsonb (payloadText failure.payload) = some value ∧
        (readPayload parse value).Equal failure.payload) ↔
      keepsPayload failure.payload = true := by
  have stringified := exists_stringified_iff documented
  cases payload : failure.payload with
  | str text =>
      refine iff_of_false ?_ Bool.false_ne_true
      rintro ⟨value, cast, equal⟩
      obtain ⟨inner, rfl, parsed⟩ :=
        eq_str_of_readPayload (Json.equal_str.mp equal)
      have outer := documented.casts _ _ cast
      have nested := documented.parses _ _ parsed
      rw [payloadText] at outer
      omega
  | null =>
      -- sent as an empty object
      obtain ⟨value, cast, equal⟩ :=
        documented.reads (by rw [payload]; rfl) (by rw [payload]; rfl)
      rw [payload] at cast equal
      obtain ⟨fields, rfl⟩ := equal.eq_obj
      rw [exists_cast_iff cast, readPayload_of_truthy rfl rfl, Json.equal_null]
      exact iff_of_false Json.noConfusion Bool.false_ne_true
  | bool truth =>
      rw [payload] at stringified
      refine stringified rfl rfl (fun value equal => ?_) fun _ equal => ?_
      · obtain rfl := Json.equal_bool.mp equal
        exact ⟨rfl, rfl⟩
      · cases Json.equal_bool.mp equal
  | num number =>
      rw [payload] at stringified
      refine stringified rfl rfl (fun value equal => ?_) fun _ equal => ?_
      · obtain rfl := Json.equal_num.mp equal
        exact ⟨rfl, rfl⟩
      · cases Json.equal_num.mp equal
  | arr items =>
      rw [payload] at stringified
      refine stringified rfl rfl (fun value equal => ?_) nofun
      obtain ⟨others, rfl⟩ := equal.eq_arr
      exact ⟨rfl, rfl⟩
  | obj fields =>
      rw [payload] at stringified
      refine stringified rfl rfl (fun value equal => ?_) nofun
      obtain ⟨others, rfl⟩ := equal.eq_obj
      exact ⟨rfl, rfl⟩

/-- The row of an entry whose other columns take what is sent to them. -/
theorem storedRow_of_fits
    (fits : Fits database failure)
    (id : Nat) :
    storedRow database now id failure =
      (database.jsonb (payloadText failure.payload)).map fun payload =>
        { id
          recordId := failure.recordId
          recordUuid := failure.recordUuid
          sinkTarget := failure.sinkTarget
          payload
          errorCode := failure.errorCode
          errorMessage := failure.errorMessage
          stackTrace := failure.stackTrace
          retryCount := 0
          status := .pending
          createdAt := now
          lastRetriedAt := none } := by
  simp only [storedRow, bigint_eq_self.mpr fits.recordId,
    uuidColumn_eq_self.mpr fits.recordUuid, varchar_target,
    SinkTarget.ofText?_text, varchar_eq_self.mpr fits.errorCode,
    text_eq_self.mpr fits.errorMessage,
    nullableText_eq_self.mpr fits.stackTrace, Option.bind_eq_bind,
    Option.bind_some]
  cases database.jsonb (payloadText failure.payload) <;> rfl

/-- One entry is read back exactly if its payload and its columns are kept. -/
theorem exists_storedRow_iff
    (documented : Documented database parse failure)
    (id : Nat) :
    (∃ row,
      storedRow database now id failure = some row ∧
        ReadsBack parse failure row) ↔
      keepsPayload failure.payload = true ∧ Fits database failure := by
  rw [← exists_payload_iff documented]
  constructor
  · rintro ⟨row, stored, readsBack⟩
    simp only [storedRow, Option.bind_eq_bind, Option.bind_eq_some_iff,
      Option.some.injEq] at stored
    obtain ⟨recordId, isId, recordUuid, isUuid, target, _, sinkTarget, _,
      payload, cast, errorCode, isCode, errorMessage, isMessage,
      stackTrace, isTrace, rfl⟩ := stored
    have equal := readsBack.payload
    have sameId : recordId = failure.recordId := readsBack.recordId
    have sameUuid : recordUuid = failure.recordUuid := readsBack.recordUuid
    have sameCode : errorCode = failure.errorCode := readsBack.errorCode
    have sameMessage : errorMessage = failure.errorMessage :=
      readsBack.errorMessage
    have sameTrace : stackTrace = failure.stackTrace := readsBack.stackTrace
    subst recordId recordUuid errorCode errorMessage stackTrace
    exact ⟨⟨payload, cast, equal⟩, bigint_eq_self.mp isId,
      uuidColumn_eq_self.mp isUuid, varchar_eq_self.mp isCode,
      text_eq_self.mp isMessage, nullableText_eq_self.mp isTrace⟩
  · rintro ⟨⟨payload, cast, equal⟩, fits⟩
    refine ⟨_, by rw [storedRow_of_fits fits, cast]; rfl, ?_⟩
    exact ⟨rfl, rfl, rfl, rfl, rfl, rfl, rfl, rfl, equal⟩

/-- All entries are read back in order exactly if each of them is. -/
theorem exists_storedRows_iff
    {failures : List NewDLQEntry}
    (documented :
      ∀ failure ∈ failures, Documented database parse failure)
    (id : Nat) :
    (∃ rows,
      storedRows database now id failures = some rows ∧
        List.Forall₂ (ReadsBack parse) failures rows) ↔
      ∀ failure ∈ failures,
        keepsPayload failure.payload = true ∧ Fits database failure := by
  induction failures generalizing id with
  | nil => exact iff_of_true ⟨[], rfl, .nil⟩ nofun
  | cons failure rest inductionHypothesis =>
      obtain ⟨first, others⟩ := List.forall_mem_cons.mp documented
      rw [List.forall_mem_cons, ← exists_storedRow_iff first id,
        ← inductionHypothesis others (id + 1)]
      constructor
      · rintro ⟨rows, stored, readsBack⟩
        simp only [storedRows, Option.bind_eq_bind,
          Option.bind_eq_some_iff, Option.some.injEq] at stored
        obtain ⟨row, isRow, later, isLater, rfl⟩ := stored
        obtain ⟨head, tail⟩ := List.forall₂_cons.mp readsBack
        exact ⟨⟨row, isRow, head⟩, later, isLater, tail⟩
      · rintro ⟨⟨row, isRow, head⟩, later, isLater, tail⟩
        refine ⟨row :: later, ?_, .cons head tail⟩
        simp only [storedRows, isRow, isLater, Option.bind_eq_bind,
          Option.bind_some]

/-- Where the columns take every value as it is, these are the rows above. -/
theorem storedRows_eq_insertedRows
    {failures : List NewDLQEntry}
    (fits : ∀ failure ∈ failures, Fits database failure)
    (casts :
      ∀ failure ∈ failures,
        failure.payload.isString = false →
          database.jsonb (payloadText failure.payload) =
            some (payloadOrEmpty failure.payload))
    (id : Nat) :
    storedRows database now id failures =
      insertedRows database.jsonb now id failures := by
  induction failures generalizing id with
  | nil => rfl
  | cons failure rest inductionHypothesis =>
      obtain ⟨firstFits, othersFit⟩ := List.forall_mem_cons.mp fits
      obtain ⟨firstCasts, othersCast⟩ := List.forall_mem_cons.mp casts
      have column :
          database.jsonb (payloadText failure.payload) =
            payloadColumn database.jsonb failure.payload := by
        cases payload : failure.payload with
        | str text => rfl
        | _ =>
            rw [← payload, firstCasts (by rw [payload]; rfl), payload]
            rfl
      have row :
          storedRow database now id failure =
            insertedRow database.jsonb now id failure := by
        rw [storedRow_of_fits firstFits, insertedRow, column]
      rw [storedRows, insertedRows, row,
        inductionHypothesis othersFit othersCast]
      cases insertedRow database.jsonb now id failure <;>
        cases insertedRows database.jsonb now (id + 1) rest <;> rfl

end Rows

/--
The rows that `persistFailures` adds, whose numbers it returns.  Without failures
there is no statement.
-/
def persistedRows
    (database : Postgres)
    (now : Int)
    (nextId : Nat)
    (failures : List NewDLQEntry) : Option (List DLQEntry) :=
  if failures.isEmpty then some []
  else execute database now nextId (insertStatement failures)

/-- One PENDING row for each entry, in order, each read back as its entry. -/
def RoundTrips
    (database : Postgres)
    (parse : String → Option Json)
    (now : Int)
    (nextId : Nat)
    (failures : List NewDLQEntry) : Prop :=
  ∃ rows,
    persistedRows database now nextId failures = some rows ∧
      List.Forall₂ (ReadsBack parse) failures rows

/--
The entries of a statement survive storing and reading if and only if each
payload is an object, an array, true, or a number other than zero, no text in it
has a null character, and the other columns take what is sent to them.
-/
theorem roundTrips_iff
    {database : Postgres}
    {parse : String → Option Json}
    {now : Int}
    {nextId : Nat}
    {failures : List NewDLQEntry}
    (documented :
      ∀ failure ∈ failures, Documented database parse failure) :
    RoundTrips database parse now nextId failures ↔
      ∀ failure ∈ failures,
        keepsPayload failure.payload = true ∧ Fits database failure := by
  rw [← exists_storedRows_iff documented nextId, RoundTrips, persistedRows]
  cases failures with
  | nil => rfl
  | cons failure rest =>
      rw [List.isEmpty_cons, if_neg Bool.false_ne_true,
        execute_insertStatement]

/-- The cast of four texts, and a UUID column that takes one. -/
def samplePostgres : Postgres where
  jsonb text :=
    if text = "\x7b\"id\":7\x7d" then some (.obj [("id", .num (.ofInt 7))])
    else if text = "true" then some (.bool true)
    else if text = "0" then some (.num (.ofInt 0))
    else if text = "{}" then some (.obj [])
    else none
  uuid text :=
    if text = "00000000-0000-0000-0000-000000000015" then some text else none

/-- An entry with that payload. -/
def sampleFailure (payload : Json) : NewDLQEntry where
  recordId := some 15
  recordUuid := some "00000000-0000-0000-0000-000000000015"
  sinkTarget := .elasticsearch
  payload
  errorCode := "ES_MAPPER_PARSING_EXCEPTION"
  errorMessage := "failed to parse field"
  stackTrace := none

/-- Two entries, with an object and with a truth value. -/
def sampleKept : List NewDLQEntry :=
  [sampleFailure (.obj [("id", .num (.ofInt 7))]), sampleFailure (.bool true)]

/-- The sample entries fit. -/
theorem samplePostgres_fits (payload : Json) :
    Fits samplePostgres (sampleFailure payload) where
  recordId id member := by
    cases member
    decide
  recordUuid uuid member := by
    cases member
    decide
  errorCode := ⟨by simp [Printable, sampleFailure], by simp [sampleFailure]⟩
  errorMessage := by simp [Printable, sampleFailure]
  stackTrace _ member := by cases member

/-- The cast of the sample never returns a string. -/
theorem samplePostgres_jsonb_ne_str (text value : String) :
    samplePostgres.jsonb text ≠ some (.str value) := by
  simp only [samplePostgres]
  split_ifs <;> simp

/-- The texts that are sent for the payloads of the samples. -/
theorem payloadText_samples :
    payloadText (.obj [("id", .num (.ofInt 7))]) = "\x7b\"id\":7\x7d" ∧
      payloadText (.bool true) = "true" ∧
      payloadText (.num (.ofInt 0)) = "0" := by
  decide

/-- Both sample entries are stored and read back. -/
theorem roundTrips_sample :
    RoundTrips samplePostgres (fun _ => none) 0 1 sampleKept := by
  refine (roundTrips_iff ?_).mpr ?_
  · intro failure member
    refine ⟨fun _ _ => ?_, fun _ unstorable => ?_, fun text value cast => ?_,
      fun _ _ parsed => ?_⟩
    · rcases List.mem_pair.mp member with rfl | rfl
      · refine ⟨.obj [("id", .num (.ofInt 7))], ?_, rfl⟩
        rw [sampleFailure, payloadText_samples.1]
        rfl
      · refine ⟨.bool true, ?_, rfl⟩
        rw [sampleFailure, payloadText_samples.2.1]
        rfl
    · rcases List.mem_pair.mp member with rfl | rfl
      · exact absurd unstorable (by decide)
      · exact absurd unstorable (by decide)
    · exact (samplePostgres_jsonb_ne_str text value cast).elim
    · cases parsed
  · intro failure member
    rcases List.mem_pair.mp member with rfl | rfl
    · exact ⟨rfl, samplePostgres_fits _⟩
    · exact ⟨rfl, samplePostgres_fits _⟩

/--
A zero is stored and read back as an empty object.  A text that is not JSON
rejects the statement, and with it the entry of the first row.
-/
theorem payloads_lost :
    (∃ row,
      persistedRows samplePostgres 0 1 [sampleFailure (.num (.ofInt 0))] =
          some [row] ∧
        (mapRowToDLQEntry (fun _ => none) row).payload = .obj []) ∧
      ¬ RoundTrips samplePostgres (fun _ => none) 0 1
        [sampleFailure (.num (.ofInt 0))] ∧
      persistedRows samplePostgres 0 1
          [sampleFailure (.bool true), sampleFailure (.str "corrupted")] =
        none := by
  have stored :
      ∃ row,
        persistedRows samplePostgres 0 1 [sampleFailure (.num (.ofInt 0))] =
            some [row] ∧
          (mapRowToDLQEntry (fun _ => none) row).payload = .obj [] :=
    ⟨_, rfl, rfl⟩
  refine ⟨stored, ?_, rfl⟩
  obtain ⟨row, isRow, payload⟩ := stored
  rintro ⟨rows, persisted, readsBack⟩
  rw [isRow] at persisted
  cases persisted
  have equal := (List.forall₂_cons.mp readsBack).1.payload
  rw [payload] at equal
  cases Json.equal_num.mp equal

end DLQStore

end Replication
