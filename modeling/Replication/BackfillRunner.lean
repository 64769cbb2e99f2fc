import Replication.Binary64
import Replication.Runner

namespace Replication.BackfillRunner

/-!
# The backfill runner

`BackfillRunner.start` between its awaits.  Its cursor is `lastProcessedId`.  An
empty fetch completes the run, and any rejected await inside the loop ends it as
FAILED.
-/

/-- Throughput fields of the runner. -/
structure Gauges where
  startTime : Option Int
  currentThroughputEps : Int
  deriving Repr

/-- Fields of a `BackfillRunner`; the cursor is `lastProcessedId`. -/
abbrev Memory := Replication.Memory Nat Gauges

/-- The fields as the constructor sets them. -/
def fresh : Memory where
  status := .initialized
  cursor := 0
  totalProcessed := 0
  totalFailed := 0
  stopRequested := false
  gauges := { startTime := none, currentThroughputEps := 0 }

/--
`Math.round(totalProcessed / elapsedSec)`, with at least one millisecond elapsed.
Both quotients are rounded to doubles, and then halves are rounded up.
-/
def throughput (totalProcessed elapsedMs : Int) : Int :=
  let elapsedSec :=
    max (Binary64.round (1 / 1000)) (Binary64.round (elapsedMs / 1000))
  (Binary64.round (totalProcessed / elapsedSec) + 1 / 2).floor

/-- After the loop: a requested stop leaves the runner PAUSED. -/
def finish (memory : Memory) : Memory :=
  if memory.stopRequested then { memory with status := .paused } else memory

/-- The loop condition, and the fetch that opens an iteration. -/
def loopHead (memory : Memory) : Memory × Call Nat :=
  if memory.stopRequested then
    (finish memory, .returned)
  else
    (memory, .fetchBatch memory.cursor .pending)

/-- The `catch` of the loop. -/
def fail (memory : Memory) : Memory × Call Nat :=
  ({ memory with status := .failed }, .updateStatus .failed .pending)

/-- Step D up to its await: totals, throughput, and the commit of the batch. -/
def beginCommit
    (memory : Memory)
    (now : Int)
    (records : List SourceRecord)
    (esResult rmqResult : SinkResult) : Memory × Call Nat :=
  let failedCount := batchFailedCount esResult rmqResult
  let successCount := batchSuccessCount records esResult rmqResult
  let totalProcessed := memory.totalProcessed + successCount
  let startTime :=
    (memory.gauges.startTime.filter fun time => time != 0).getD now
  let eps := throughput totalProcessed (now - startTime)
  ({ memory with
      totalProcessed
      totalFailed := memory.totalFailed + failedCount
      gauges := { memory.gauges with currentThroughputEps := eps } },
    .commitCheckpoint records
      { lastProcessedId := (records.getLast?.map SourceRecord.id).getD 0
        lastProcessedTimestamp := none
        batchSuccessCount := successCount
        batchFailedCount := failedCount
        metadata := some (.obj [
          ("throughputEps", .num (.ofInt eps)),
          ("lastBatchSize", .num (.ofInt records.length))]) }
      .pending)

/-- The code of `start` and `pause` from a settled await to the next one. -/
def turn (memory : Memory) (now : Int) :
    Call Nat → Option (Memory × Call Nat × List (Call Nat))
  | .getCheckpoint (.fulfilled checkpoint) =>
      let loaded :=
        { memory with
          cursor := checkpoint.lastProcessedId
          totalProcessed := checkpoint.recordsProcessed
          totalFailed := checkpoint.recordsFailed }
      if memory.stopRequested then
        some ({ loaded with status := .paused }, .returned, [])
      else
        some ({ loaded with status := .running },
          .updateStatus .running .pending, [])
  | .getCheckpoint .rejected =>
      some (memory, .returned, [])
  | .updateStatus .running (.fulfilled _) =>
      let (memory, next) :=
        loopHead
          { memory with
            gauges := { memory.gauges with startTime := some now } }
      some (memory, next, [])
  | .updateStatus .running .rejected =>
      some (memory, .returned, [])
  | .updateStatus .completed (.fulfilled _) =>
      some (finish memory, .returned, [])
  | .updateStatus .completed .rejected =>
      let (memory, next) := fail memory
      some (memory, next, [])
  | .updateStatus .failed (.fulfilled _) =>
      some (memory, .returned, [])
  | .updateStatus .failed .rejected =>
      some (memory, .returned, [])
  | .updateStatus .paused (.fulfilled _) =>
      some (memory, .returned, [])
  | .updateStatus .paused .rejected =>
      some (memory, .returned, [])
  | .fetchBatch _ (.fulfilled []) =>
      some ({ memory with status := .completed },
        .updateStatus .completed .pending, [])
  | .fetchBatch _ (.fulfilled (record :: rest)) =>
      some (memory, .dispatch (record :: rest) .waiting .waiting, [])
  | .fetchBatch _ .rejected =>
      let (memory, next) := fail memory
      some (memory, next, [])
  | .dispatch records (.fulfilled esResult) (.fulfilled rmqResult) =>
      if (dlqEntries records esResult rmqResult).isEmpty then
        let (memory, next) :=
          beginCommit memory now records esResult rmqResult
        some (memory, next, [])
      else
        some
          (memory, .persistFailures records esResult rmqResult .pending, [])
  | .dispatch records .rejected other =>
      let (memory, next) := fail memory
      some (memory, next,
        if other.Outstanding then [.orphan .rabbitmq records other] else [])
  | .dispatch records other .rejected =>
      let (memory, next) := fail memory
      some (memory, next,
        if other.Outstanding then
          [.orphan .elasticsearch records other]
        else [])
  | .persistFailures records esResult rmqResult (.fulfilled _) =>
      let (memory, next) :=
        beginCommit memory now records esResult rmqResult
      some (memory, next, [])
  | .persistFailures _ _ _ .rejected =>
      let (memory, next) := fail memory
      some (memory, next, [])
  | .commitCheckpoint _ data (.fulfilled _) =>
      let (memory, next) :=
        loopHead { memory with cursor := data.lastProcessedId }
      some (memory, next, [])
  | .commitCheckpoint _ _ .rejected =>
      let (memory, next) := fail memory
      some (memory, next, [])
  | _ => none

/-- The backfill runner with `options.batchSize`. -/
def program
    (parse : String → Option Json)
    (batchSize : Nat) : RunnerProgram Nat Gauges where
  parse
  fetch := fun table lastProcessedId =>
    SourceReader.fetchBackfillBatch parse table lastProcessedId
      (fetchLimit batchSize)
  lag := fun _ _ => (0, none)
  fresh
  turn

end Replication.BackfillRunner
