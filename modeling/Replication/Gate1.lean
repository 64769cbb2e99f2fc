import Replication.Harness

namespace Replication.Gate1

/-!
# The crash gate, up to its pin

`runGate1` lets the backfill run until it has reached the window, quiesces the
runner, and then executes the `UPDATE` that sets `last_processed_id` to the
start of the window.  The gate sees the pipeline only through its telemetry and
through the persisted checkpoint.
-/

/-- A telemetry answer.  A status that is none of the pipeline's is `none`. -/
structure Telemetry where
  backfillStatus : Option PipelineStatus
  backfillCursor : Option Int
  deriving DecidableEq, Repr

/-- `telemetry?.backfill_cursor || 0`. -/
def cursorOf (telemetry : Option Telemetry) : Int :=
  (telemetry.bind Telemetry.backfillCursor).getD 0

/-- `telemetry?.backfill_status`. -/
def statusOf (telemetry : Option Telemetry) : Option PipelineStatus :=
  telemetry.bind Telemetry.backfillStatus

/-- A row of `SELECT COUNT(*), COALESCE(MAX(id), 0) FROM source_records`. -/
structure Counts where
  count : Int := 0
  maxId : Int := 0
  deriving DecidableEq, Repr

/-- Options of the gate. -/
structure Options where
  maxWaitMs : Int := 180000
  windowSize : Int := 5000
  preRollTimeoutMs : Int := 1200000
  deriving Repr

/-- Why the gate throws. -/
inductive Failure where
  /-- A call that is not caught was rejected. -/
  | rejected
  | noUsableRows
  | noTelemetry
  | backfillFailed (cursor : Int)
  | preRollTimedOut (cursor : Int)
  deriving DecidableEq, Repr

/-- One iteration of the loop that waits for the daemon. -/
structure BootPoll where
  now : Int
  telemetry : Option Telemetry

/-- One iteration of the pre-roll loop. -/
structure PreRollPoll where
  telemetry : Option Telemetry
  checkpoint : Option (List CheckpointRow)
  /-- The call that resumes a paused runner is fulfilled. -/
  resumed : Bool
  now : Int

/-- One iteration of the loop that waits for a paused runner. -/
structure PausePoll where
  now : Int
  telemetry : Option Telemetry
  checkpoint : Option (List CheckpointRow)

/--
What the injected functions answer up to the pin.  A rejection is `none`, and
so is a telemetry answer that is null.
-/
structure Environment where
  counted : Option (List Counts)
  /-- The rows are inserted when there are none. -/
  seeded : Option Unit
  recounted : Option (List Counts)
  telemetry : Option Telemetry
  started : Option Unit
  bootStart : Int
  boot : List BootPoll
  checkpoint : Option (List CheckpointRow)
  preRollStart : Int
  preRoll : List PreRollPoll
  /-- Whether the control API acknowledges the pause. -/
  pauseAck : Option Bool
  pauseStart : Int
  pause : List PausePoll
  killed : Option Unit

/-- The first row of a count, or zeros. -/
def baseline (rows : List Counts) : Counts :=
  rows.headD {}

/-- The start of the recovery window. -/
def windowStart (options : Options) (environment : Environment) : GateRun Failure Int := do
  let rows ← .awaited .rejected environment.counted
  let counts ←
    if (baseline rows).count = 0 then do
      .awaited .rejected environment.seeded
      let rows ← .awaited .rejected environment.recounted
      pure (baseline rows)
    else
      pure (baseline rows)
  if counts.maxId ≤ 0 then
    throw .noUsableRows
  else
    pure (max 0 (counts.maxId - options.windowSize))

/-- The loop that waits for the daemon to answer. -/
def boot
    (options : Options)
    (bootStart : Int) : List BootPoll → GateRun Failure Telemetry
  | [] => .running
  | poll :: rest =>
      if poll.now - bootStart < min options.maxWaitMs 30000 then
        match poll.telemetry with
        | some telemetry => pure telemetry
        | none => boot options bootStart rest
      else
        throw .noTelemetry

/-- The first telemetry answer, of a daemon that is started if there is none. -/
def ensureDaemon
    (options : Options)
    (environment : Environment) : GateRun Failure Telemetry :=
  match environment.telemetry with
  | some telemetry => pure telemetry
  | none => do
      .awaited .rejected environment.started
      boot options environment.bootStart environment.boot

/-- What the pre-roll was left on. -/
structure Exit where
  /-- The larger of the cursors that were just read. -/
  cursor : Int
  /-- One of the statuses that were just read says `COMPLETED`. -/
  completed : Bool
  deriving DecidableEq, Repr

/-- The end of the pre-roll. -/
structure PreRolled where
  /-- Every cursor that was read, read by no code. -/
  readings : List Int
  exit : Exit
  deriving DecidableEq, Repr

/-- The pre-roll loop. -/
def preRoll
    (options : Options)
    (windowStart preRollStart : Int)
    (readings : List Int) : List PreRollPoll → GateRun Failure PreRolled
  | [] => .running
  | poll :: rest => do
      let rows ← .awaited .rejected poll.checkpoint
      let cp := readBackfillCheckpoint rows
      let cursor := max cp.lastProcessedId (cursorOf poll.telemetry)
      let completed :=
        cp.status = some .completed ||
          statusOf poll.telemetry = some .completed
      let readings :=
        readings ++ [cp.lastProcessedId, cursorOf poll.telemetry]
      if windowStart ≤ cursor || completed then
        pure { readings, exit := { cursor, completed } }
      else if
          statusOf poll.telemetry = some .failed ||
            cp.status = some .failed then
        throw (.backfillFailed cursor)
      else if
          statusOf poll.telemetry = some .paused && !poll.resumed then
        throw .rejected
      else if options.preRollTimeoutMs < poll.now - preRollStart then
        throw (.preRollTimedOut cursor)
      else
        preRoll options windowStart preRollStart readings rest

/-- The backfill is let run to the window, unless it is there or completed. -/
def reachWindow
    (options : Options)
    (environment : Environment)
    (windowStart : Int) : GateRun Failure PreRolled := do
  let rows ← .awaited .rejected environment.checkpoint
  let cp := readBackfillCheckpoint rows
  if cp.lastProcessedId < windowStart && cp.status ≠ some .completed then
    preRoll options windowStart environment.preRollStart [cp.lastProcessedId]
      environment.preRoll
  else
    pure
      { readings := [cp.lastProcessedId]
        exit :=
          { cursor := cp.lastProcessedId
            completed := cp.status = some .completed } }

/-- How the loop that waits for a paused runner ends. -/
structure Paused where
  quiescedViaApi : Bool
  /-- Every cursor that was read, read by no code. -/
  readings : List Int
  deriving DecidableEq, Repr

/-- The loop that waits for a paused runner. -/
def settle
    (pauseStart : Int)
    (stableReads : Nat)
    (previousId : Int)
    (readings : List Int) : List PausePoll → GateRun Failure Paused
  | [] => .running
  | poll :: rest =>
      if poll.now - pauseStart < 15000 then do
        let rows ← .awaited .rejected poll.checkpoint
        let cp := readBackfillCheckpoint rows
        let runnerIdle :=
          poll.telemetry.isNone ||
            statusOf poll.telemetry = some .paused ||
            statusOf poll.telemetry = some .completed
        let stableReads :=
          if cp.lastProcessedId = previousId then stableReads + 1 else 0
        let readings :=
          readings ++ [cp.lastProcessedId, cursorOf poll.telemetry]
        if runnerIdle && 1 ≤ stableReads then
          pure { quiescedViaApi := true, readings }
        else
          settle pauseStart stableReads cp.lastProcessedId readings rest
      else
        pure { quiescedViaApi := false, readings }

/-- The runner is paused, or else killed. -/
def quiesce (environment : Environment) : GateRun Failure Paused := do
  let pauseAck ← .awaited .rejected environment.pauseAck
  let paused ←
    if pauseAck then
      settle environment.pauseStart 0 (-1) [] environment.pause
    else
      pure { quiescedViaApi := false, readings := [] }
  if paused.quiescedViaApi then
    pure paused
  else do
    .awaited .rejected environment.killed
    pure paused

/-- The `UPDATE` that pins `last_processed_id`, and what came before it. -/
structure Pin where
  /-- The value that `last_processed_id` is set to. -/
  windowStart : Int
  telemetry : Telemetry
  preRolled : PreRolled
  paused : Paused
  deriving DecidableEq, Repr

/-- `runGate1`, up to the pin. -/
def runGate1
    (options : Options)
    (environment : Environment) : GateRun Failure Pin := do
  let windowStart ← windowStart options environment
  let telemetry ← ensureDaemon options environment
  let preRolled ← reachWindow options environment windowStart
  let paused ← quiesce environment
  pure { windowStart, telemetry, preRolled, paused }

/-! ### What the pre-roll has read -/

/--
The cursor that the pre-roll was left on is one that was read; no other that is
in the window is larger; and either it is in the window itself or a status said
`COMPLETED`.
-/
structure PreRolled.Sound
    (windowStart : Int)
    (preRolled : PreRolled) : Prop where
  mem : preRolled.exit.cursor ∈ preRolled.readings
  highest :
    ∀ cursor ∈ preRolled.readings,
      windowStart ≤ cursor → cursor ≤ preRolled.exit.cursor
  left :
    windowStart ≤ preRolled.exit.cursor ∨ preRolled.exit.completed = true

section PreRoll

variable
  {options : Options}
  {environment : Environment}
  {windowStart preRollStart : Int}
  {readings : List Int}
  {preRolled : PreRolled}

/-- The two cursors of one iteration, the larger of which it compares. -/
theorem PreRolled.sound_of_exit
    (before : ∀ cursor ∈ readings, cursor < windowStart)
    {first second : Int}
    {completed : Bool}
    (left :
      (windowStart ≤ max first second || completed) = true) :
    PreRolled.Sound windowStart
      { readings := readings ++ [first, second]
        exit := { cursor := max first second, completed } } := by
  refine ⟨?_, ?_, ?_⟩
  · have larger : max first second = first ∨ max first second = second := by
      omega
    rcases larger with isFirst | isSecond
    · simp [isFirst]
    · simp [isSecond]
  · intro cursor member inWindow
    simp only [List.mem_append, List.mem_cons, List.not_mem_nil, or_false]
      at member
    obtain earlier | rfl | rfl := member
    · have below := before cursor earlier
      omega
    · exact le_max_left _ _
    · exact le_max_right _ _
  · simpa only [Bool.or_eq_true, decide_eq_true_eq] using left

/-- An iteration that goes on has read nothing in the window. -/
theorem below_of_continues
    (before : ∀ cursor ∈ readings, cursor < windowStart)
    {first second : Int}
    (below : ¬ windowStart ≤ max first second) :
    ∀ cursor ∈ readings ++ [first, second], cursor < windowStart := by
  intro cursor member
  simp only [List.mem_append, List.mem_cons, List.not_mem_nil, or_false]
    at member
  obtain earlier | rfl | rfl := member
  · exact before cursor earlier
  · omega
  · omega

/-- The pre-roll loop goes on as long as nothing it reads is in the window. -/
theorem sound_of_preRoll
    {polls : List PreRollPoll}
    (before : ∀ cursor ∈ readings, cursor < windowStart)
    (finished :
      preRoll options windowStart preRollStart readings polls =
        pure preRolled) :
    preRolled.Sound windowStart := by
  induction polls generalizing readings with
  | nil =>
      simp only [preRoll, GateRun.running_eq_pure] at finished
  | cons poll rest inductionHypothesis =>
      simp only [preRoll, GateRun.bind_eq_pure] at finished
      obtain ⟨rows, _, finished⟩ := finished
      split at finished
      · rename_i left
        simp only [GateRun.pure_eq_pure] at finished
        subst finished
        exact PreRolled.sound_of_exit before left
      · rename_i goesOn
        simp only [Bool.or_eq_true, decide_eq_true_eq, not_or] at goesOn
        have continues := below_of_continues before goesOn.1
        split at finished
        · simp only [GateRun.throw_eq_pure] at finished
        · split at finished
          · simp only [GateRun.throw_eq_pure] at finished
          · split at finished
            · simp only [GateRun.throw_eq_pure] at finished
            · exact inductionHypothesis continues finished

/-- So does a gate that needs no pre-roll. -/
theorem sound_of_reachWindow
    (finished :
      reachWindow options environment windowStart = pure preRolled) :
    preRolled.Sound windowStart := by
  simp only [reachWindow, GateRun.bind_eq_pure] at finished
  obtain ⟨rows, _, finished⟩ := finished
  split at finished
  · rename_i enters
    simp only [Bool.and_eq_true, decide_eq_true_eq] at enters
    apply sound_of_preRoll ?_ finished
    intro cursor member
    obtain rfl := List.mem_singleton.mp member
    exact enters.1
  · rename_i skips
    simp only [GateRun.pure_eq_pure] at finished
    subst finished
    refine ⟨List.mem_singleton_self _, ?_, ?_⟩
    · intro cursor member _
      obtain rfl := List.mem_singleton.mp member
      exact le_rfl
    · by_cases inWindow :
        windowStart ≤ (readBackfillCheckpoint rows).lastProcessedId
      · exact .inl inWindow
      · right
        simpa [not_le.mp inWindow] using skips

end PreRoll

/-! ### What the pin passes over -/

namespace Pin

/-- Every watermark and every cursor that the gate has read. -/
def readings (pin : Pin) : List Int :=
  cursorOf (some pin.telemetry) ::
    (pin.preRolled.readings ++ pin.paused.readings)

/-- The watermark is not set past everything that the gate has read. -/
def Reached (pin : Pin) : Prop :=
  ∃ cursor ∈ pin.readings, pin.windowStart ≤ cursor

instance (pin : Pin) : Decidable pin.Reached :=
  inferInstanceAs (Decidable (∃ cursor ∈ pin.readings, pin.windowStart ≤ cursor))

/-- The pre-roll was left on `COMPLETED` short of the window. -/
def CompletedShort (pin : Pin) : Prop :=
  pin.preRolled.exit.completed = true ∧
    pin.preRolled.exit.cursor < pin.windowStart

instance (pin : Pin) : Decidable pin.CompletedShort :=
  inferInstanceAs (Decidable (_ ∧ _))

/-- A cursor in the window was read before the pre-roll or after it. -/
def ReachedOutside (pin : Pin) : Prop :=
  ∃ cursor ∈ cursorOf (some pin.telemetry) :: pin.paused.readings,
    pin.windowStart ≤ cursor

end Pin

section Pinned

variable
  {options : Options}
  {environment : Environment}
  {pin : Pin}

/-- A pin has been preceded by a pre-roll. -/
theorem Pin.sound
    (pinned : runGate1 options environment = pure pin) :
    pin.preRolled.Sound pin.windowStart := by
  simp only [runGate1, GateRun.bind_eq_pure, GateRun.pure_eq_pure] at pinned
  obtain ⟨_, _, _, _, _, rolled, _, _, rfl⟩ := pinned
  exact sound_of_reachWindow rolled

/--
The pin passes over rows that the backfill was never seen to reach exactly when
`COMPLETED` has ended the pre-roll short of the window and nothing else that
was read is in it.
-/
theorem pinned_reached_iff
    (pinned : runGate1 options environment = pure pin) :
    pin.Reached ↔ ¬ pin.CompletedShort ∨ pin.ReachedOutside := by
  have sound := Pin.sound pinned
  constructor
  · rintro ⟨cursor, member, inWindow⟩
    simp only [Pin.readings, List.mem_cons, List.mem_append] at member
    rcases member with isFirst | preRolled | paused
    · exact .inr ⟨cursor, by simp [isFirst], inWindow⟩
    · left
      rintro ⟨_, short⟩
      have atMost := sound.highest cursor preRolled inWindow
      omega
    · exact .inr ⟨cursor, by simp [paused], inWindow⟩
  · rintro (notShort | ⟨cursor, member, inWindow⟩)
    · refine ⟨pin.preRolled.exit.cursor, by simp [Pin.readings, sound.mem], ?_⟩
      rcases sound.left with inWindow | completed
      · exact inWindow
      · by_contra below
        exact notShort ⟨completed, not_le.mp below⟩
    · refine ⟨cursor, ?_, inWindow⟩
      simp only [List.mem_cons] at member
      rcases member with isFirst | paused
      · simp [Pin.readings, isFirst]
      · simp [Pin.readings, paused]

end Pinned

namespace Sample

/-- A telemetry answer. -/
def telemetry (status : PipelineStatus) (cursor : Int) : Telemetry where
  backfillStatus := some status
  backfillCursor := some cursor

/-- The row of the checkpoint. -/
def checkpoint (status : PipelineStatus) (cursor : Int) : List CheckpointRow :=
  [{ lastProcessedId := some cursor, status := some status }]

/--
Ten thousand rows, and a backfill that was at the third.  The control API does
not answer.
-/
def environment
    (status : PipelineStatus)
    (preRoll : List PreRollPoll) : Environment where
  counted := some [{ count := 10000, maxId := 10000 }]
  seeded := none
  recounted := none
  telemetry := some (telemetry status 3)
  started := none
  bootStart := 0
  boot := []
  checkpoint := some (checkpoint status 3)
  preRollStart := 0
  preRoll
  pauseAck := some false
  pauseStart := 0
  pause := []
  killed := some ()

/-- One poll of the pre-roll. -/
def poll (status : PipelineStatus) (cursor : Int) : PreRollPoll where
  telemetry := some (telemetry status cursor)
  checkpoint := some (checkpoint .running cursor)
  resumed := true
  now := 0

end Sample

/-- A backfill that is let run to the window is pinned behind it. -/
theorem pinned_reached_sample :
    ∃ pin,
      runGate1 {}
          (Sample.environment .running
            [Sample.poll .running 3000, Sample.poll .running 6000]) =
          pure pin ∧
        pin.Reached :=
  ⟨_, rfl,
    (@pinned_reached_iff {}
      (Sample.environment .running
        [Sample.poll .running 3000, Sample.poll .running 6000]) _ rfl).mpr
      (.inl (by decide))⟩

/--
A backfill that had completed before the rows were added, and one of which the
telemetry says so during the pre-roll: the watermark is set to the start of the
window, past everything that was read.
-/
theorem pinned_past_unread :
    (∃ pin,
      runGate1 {} (Sample.environment .completed []) = pure pin ∧
        pin.windowStart = 5000 ∧ pin.readings = [3, 3] ∧ ¬ pin.Reached) ∧
    ∃ pin,
      runGate1 {}
          (Sample.environment .running [Sample.poll .completed 4]) =
          pure pin ∧
        pin.windowStart = 5000 ∧ pin.readings = [3, 3, 4, 4] ∧
          ¬ pin.Reached :=
  ⟨⟨_, rfl, rfl, rfl, by decide⟩, ⟨_, rfl, rfl, rfl, by decide⟩⟩

end Replication.Gate1
