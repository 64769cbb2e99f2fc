import Replication.Records

namespace Replication

/-!
# What the gates share

A gate awaits the answers of injected functions, throws, and loops until an
answer or its clock ends the loop.  The answers are arguments: a gate that has
used up those of a loop is still running.
-/

/-- A gate: it is still running, it has thrown, or it has returned. -/
abbrev GateRun (Failure Result : Type) : Type :=
  ExceptT Failure Option Result

namespace GateRun

variable {Failure Result Next : Type}

/-- The gate waits for an answer that has not come. -/
def running : GateRun Failure Result :=
  ExceptT.mk none

/-- A call whose rejection the gate does not catch. -/
def awaited (failure : Failure) : Option Result → GateRun Failure Result
  | some result => pure result
  | none => throw failure

/-- A gate that is still running returns nothing. -/
@[simp]
theorem running_eq_pure
    {result : Result} :
    ((running : GateRun Failure Result) = pure result) ↔ False := by
  constructor
  · intro returns
    cases returns
  · exact False.elim

/-- A gate that has thrown returns nothing. -/
@[simp]
theorem throw_eq_pure
    {failure : Failure}
    {result : Result} :
    ((throw failure : GateRun Failure Result) = pure result) ↔ False := by
  constructor
  · intro returns
    cases returns
  · exact False.elim

/-- A gate returns one result. -/
@[simp]
theorem pure_eq_pure
    {result other : Result} :
    ((pure result : GateRun Failure Result) = pure other) ↔ result = other := by
  constructor
  · intro returns
    cases returns
    rfl
  · rintro rfl
    rfl

/-- A sequence returns what its last part returns. -/
@[simp]
theorem bind_eq_pure
    {gate : GateRun Failure Result}
    {next : Result → GateRun Failure Next}
    {last : Next} :
    gate >>= next = pure last ↔
      ∃ result, gate = pure result ∧ next result = pure last := by
  constructor
  · intro returns
    obtain _ | failure | result := gate
    · cases returns
    · cases returns
    · exact ⟨result, rfl, returns⟩
  · rintro ⟨result, rfl, returns⟩
    exact returns

/-- A call that returns has been fulfilled. -/
@[simp]
theorem awaited_eq_pure
    {failure : Failure}
    {answer : Option Result}
    {result : Result} :
    awaited failure answer = pure result ↔ answer = some result := by
  cases answer with
  | none => simp [awaited]
  | some _ => simp [awaited]

end GateRun

/-! ### The persisted watermark -/

/--
A row of `SELECT last_processed_id, status FROM replication_checkpoints`.  A
status that is no status of the pipeline is `none`.
-/
structure CheckpointRow where
  lastProcessedId : Option Int
  status : Option PipelineStatus
  deriving DecidableEq, Repr

/-- What `readBackfillCheckpoint` returns. -/
structure BackfillCheckpoint where
  lastProcessedId : Int
  status : Option PipelineStatus
  deriving DecidableEq, Repr

/-- `readBackfillCheckpoint`: the first row, or `'0'` and `'UNKNOWN'`. -/
def readBackfillCheckpoint (rows : List CheckpointRow) : BackfillCheckpoint where
  lastProcessedId := (rows.head?.bind CheckpointRow.lastProcessedId).getD 0
  status := rows.head?.bind CheckpointRow.status

/-! ### The report -/

/-- `formatGateResult`: the name padded to 33 characters, and the details. -/
def formatGateResult (gate status details : Text) : Text :=
  let named := gate ++ [' ']
  named ++ List.replicate (33 - named.length) '.' ++ ' ' :: status ++
    if details = [] then [] else " (".toList ++ details ++ [')']

end Replication
