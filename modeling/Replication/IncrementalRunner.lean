import Replication.Runner

namespace Replication.IncrementalRunner

/-!
# The incremental runner

`IncrementalRunner.start` between its awaits.  Its cursor is the composite
watermark.  Every iteration measures the lag before it fetches; an empty fetch
and a rejected dispatch put the loop to sleep instead of ending it.
-/

/-- Lag fields of the runner. -/
structure Gauges where
  currentLagRecords : Nat
  currentLagMs : Int
  deriving Repr

/-- Fields of an `IncrementalRunner`; the cursor is its watermark. -/
abbrev Memory := Replication.Memory Watermark Gauges

/-- The fields as the constructor sets them. -/
def fresh : Memory where
  status := .initialized
  cursor := { timestamp := 0, id := 0 }
  totalProcessed := 0
  totalFailed := 0
  stopRequested := false
  gauges := { currentLagRecords := 0, currentLagMs := 0 }

/-- The watermark of a stored checkpoint; NULL is read as the epoch. -/
def readWatermark (id : Nat) (timestamp : Option Int) : Watermark where
  timestamp := timestamp.getD 0
  id := id

/-- The loop condition, and the lag query that opens an iteration. -/
def loopHead (memory : Memory) : Memory × Call Watermark :=
  if memory.stopRequested then
    ({ memory with status := .paused }, .returned)
  else
    (memory, .getIncrementalLag memory.cursor .pending)

/-- The outer `catch` of the loop. -/
def fail (memory : Memory) : Memory × Call Watermark :=
  ({ memory with status := .failed }, .updateStatus .failed .pending)

/-- Step 5 up to its await: totals and the commit of the batch. -/
def beginCommit
    (memory : Memory)
    (records : List SourceRecord)
    (esResult rmqResult : SinkResult) : Memory × Call Watermark :=
  let failedCount := batchFailedCount esResult rmqResult
  let successCount := batchSuccessCount records esResult rmqResult
  ({ memory with
      totalProcessed := memory.totalProcessed + successCount
      totalFailed := memory.totalFailed + failedCount },
    .commitCheckpoint records
      { lastProcessedId := (records.getLast?.map SourceRecord.id).getD 0
        lastProcessedTimestamp :=
          records.getLast?.map SourceRecord.updatedAt
        batchSuccessCount := successCount
        batchFailedCount := failedCount
        metadata := some (.obj [
          ("lagRecords", .num (.ofInt memory.gauges.currentLagRecords)),
          ("lagMs", .num (.ofInt memory.gauges.currentLagMs))]) }
      .pending)

/-- The code of `start` and `pause` from a settled await to the next one. -/
def turn (batchSize : Nat) (memory : Memory) (now : Int) :
    Call Watermark →
      Option (Memory × Call Watermark × List (Call Watermark))
  | .getCheckpoint (.fulfilled checkpoint) =>
      let loaded :=
        { memory with
          cursor :=
            readWatermark checkpoint.lastProcessedId
              checkpoint.lastProcessedTimestamp
          totalProcessed := checkpoint.recordsProcessed
          totalFailed := checkpoint.recordsFailed }
      if memory.stopRequested then
        some ({ loaded with status := .paused }, .returned, [])
      else
        some ({ loaded with status := .running },
          .updateStatus .running .pending, [])
  | .getCheckpoint .rejected =>
      some (memory, .returned, [])
  | .updateStatus .running (.fulfilled _) =>
      let (memory, next) := loopHead memory
      some (memory, next, [])
  | .updateStatus .running .rejected =>
      some (memory, .returned, [])
  | .updateStatus .failed (.fulfilled _) =>
      some (memory, .returned, [])
  | .updateStatus .failed .rejected =>
      some (memory, .returned, [])
  | .updateStatus .paused (.fulfilled _) =>
      some (memory, .returned, [])
  | .updateStatus .paused .rejected =>
      some (memory, .returned, [])
  | .getIncrementalLag _ (.fulfilled (lagRecords, newest)) =>
      let lagMs := (newest.map fun time => max 0 (now - time)).getD 0
      some
        ({ memory with
            gauges :=
              { currentLagRecords := lagRecords, currentLagMs := lagMs } },
          .fetchBatch memory.cursor .pending, [])
  | .getIncrementalLag _ .rejected =>
      let (memory, next) := fail memory
      some (memory, next, [])
  | .fetchBatch _ (.fulfilled []) =>
      some (memory, .sleep, [])
  | .fetchBatch _ (.fulfilled (record :: rest)) =>
      some (memory, .dispatch (record :: rest) .waiting .waiting, [])
  | .fetchBatch _ .rejected =>
      let (memory, next) := fail memory
      some (memory, next, [])
  | .dispatch records (.fulfilled esResult) (.fulfilled rmqResult) =>
      if (dlqEntries records esResult rmqResult).isEmpty then
        let (memory, next) := beginCommit memory records esResult rmqResult
        some (memory, next, [])
      else
        some
          (memory, .persistFailures records esResult rmqResult .pending, [])
  | .dispatch records .rejected other =>
      some (memory, .sleep,
        if other.Outstanding then [.orphan .rabbitmq records other] else [])
  | .dispatch records other .rejected =>
      some (memory, .sleep,
        if other.Outstanding then
          [.orphan .elasticsearch records other]
        else [])
  | .persistFailures records esResult rmqResult (.fulfilled _) =>
      let (memory, next) := beginCommit memory records esResult rmqResult
      some (memory, next, [])
  | .persistFailures _ _ _ .rejected =>
      let (memory, next) := fail memory
      some (memory, next, [])
  | .commitCheckpoint records data (.fulfilled _) =>
      let advanced :=
        { memory with
          cursor :=
            { timestamp := data.lastProcessedTimestamp.getD 0
              id := data.lastProcessedId } }
      if records.length < batchSize then
        some (advanced, .sleep, [])
      else
        let (memory, next) := loopHead advanced
        some (memory, next, [])
  | .commitCheckpoint _ _ .rejected =>
      let (memory, next) := fail memory
      some (memory, next, [])
  | .sleep =>
      -- the poll timer fires, or pause() resolves the sleep early
      let (memory, next) := loopHead memory
      some (memory, next, [])
  | _ => none

/-- The incremental runner with `options.batchSize`. -/
def program
    (parse : String → Option Json)
    (batchSize : Nat) : RunnerProgram Watermark Gauges where
  parse
  fetch := fun table after =>
    SourceReader.fetchIncrementalBatch parse table after (fetchLimit batchSize)
  lag := SourceReader.getIncrementalLag
  fresh
  turn := turn (fetchLimit batchSize)

end Replication.IncrementalRunner
