import Replication.CircuitBreaker
import Replication.OrderedMap

namespace Replication.Gate3

/-!
# The outage gate

`runGate3` stops Elasticsearch, changes source rows meanwhile, restores it, and
polls until the breaker is closed, the index has caught up, and every changed
row is there in its new version.  While the breaker is still probing it changes
a few more rows.  What the injected functions answer is an argument, and so is
the clock.  An answer that is a rejection, or null, is `none`.
-/

/--
`circuit_breakers.elasticsearch` of the telemetry.  A state that is none of the
three is `none`, and so is a trip counter that is no number.
-/
structure BreakerMetrics where
  state : Option CircuitBreakerState
  isThrottling : Bool
  totalTrips : Option Nat
  deriving DecidableEq, Repr

/-- A telemetry answer. -/
structure Telemetry where
  elasticsearch : Option BreakerMetrics
  deriving DecidableEq, Repr

/-- An element of an `_mget` answer. -/
structure Doc where
  id : String
  found : Bool
  /-- `source?.version`. -/
  version : Option Int
  deriving DecidableEq, Repr

/-- `Number(d.source?.version ?? -1)`. -/
def Doc.indexedVersion (doc : Doc) : Int :=
  doc.version.getD (-1)

/-- `String(m.id)` and the version of a row that a mutation call has changed. -/
abbrev Mutation := String × Int

/-- Options of the gate. -/
structure Options where
  outageDurationMs : Int := 5000
  maxRecoveryWaitMs : Int := 120000
  canaryIntervalMs : Int := 3000
  maxCanaries : Nat := 5
  deriving Repr

/-- What the first step has measured before the outage. -/
structure Baseline where
  expectedSinkCount : Int
  baselineTrips : Nat
  deriving Repr

/-- One iteration of the loop during the blackout. -/
structure BlackoutPoll where
  now : Int
  telemetry : Option Telemetry

/-- What one iteration of the recovery loop is answered. -/
structure Poll where
  /-- Read by the loop condition. -/
  now : Int
  telemetry : Option Telemetry
  count : Option Int
  docs : List String → Option (List Doc)
  recoveredAt : Int
  canaryCheckedAt : Int
  /-- The rows of a canary batch; null is an empty one. -/
  canary : Option (List Mutation)
  canaryFiredAt : Int

/-- What the injected functions answer from the outage on. -/
structure Environment where
  outageStart : Int
  /-- The call is fulfilled. -/
  stopReceiver : Bool
  mutated : Option (List Mutation)
  blackout : List BlackoutPoll
  /-- The call is fulfilled. -/
  startReceiver : Bool
  restoredAt : Int
  polls : List Poll

/-- `telemetry?.circuit_breakers?.elasticsearch`. -/
def esBreaker (telemetry : Option Telemetry) : Option BreakerMetrics :=
  telemetry.bind Telemetry.elasticsearch

/-- The breaker has tripped since the baseline. -/
def breakerTripped
    (baselineTrips : Nat)
    (breaker : Option BreakerMetrics) : Bool :=
  breaker.any fun breaker =>
    breaker.state = some .open || breaker.state = some .halfOpen ||
      breaker.isThrottling ||
      breaker.totalTrips.any fun trips => baselineTrips < trips

/-- The loop during the blackout: whether the breaker was seen to trip. -/
def watchBlackout
    (options : Options)
    (baselineTrips : Nat)
    (outageStart : Int) : List BlackoutPoll → Option Bool
  | [] => none
  | poll :: rest =>
      if poll.now < outageStart + options.outageDurationMs + 5000 then
        if breakerTripped baselineTrips (esBreaker poll.telemetry) then
          some true
        else
          watchBlackout options baselineTrips outageStart rest
      else
        some false

/-- What a poll has seen of the breaker and of the index. -/
structure Observation where
  breaker : Option BreakerMetrics
  docs : Option (List Doc)
  deriving DecidableEq, Repr

/-- What the gate has been told, read by no code. -/
structure Heard where
  /-- The rows that mutation calls have returned, in that order. -/
  returned : List Mutation
  /-- What the last recovery poll has seen. -/
  last : Option Observation
  deriving DecidableEq, Repr

/-- The variables of the recovery loop. -/
structure Recovery where
  /-- Set together with `recovered`. -/
  recoveredAt : Option Int
  matched : Nat
  expectedVersions : OrderedMap String Int
  finalEsCount : Option Int
  antiBusyLoopVerified : Bool
  lastBreaker : Option BreakerMetrics
  canariesFired : Nat
  lastCanaryAt : Option Int
  heard : Heard
  deriving DecidableEq, Repr

namespace Recovery

/-- The variables before the loop. -/
def start (mutated : List Mutation) (tripped : Bool) : Recovery where
  recoveredAt := none
  matched := 0
  expectedVersions := OrderedMap.setAll [] mutated
  finalEsCount := none
  antiBusyLoopVerified := tripped
  lastBreaker := none
  canariesFired := 0
  lastCanaryAt := none
  heard := { returned := mutated, last := none }

/-- The document is there in the version that is expected of it. -/
def lands (expectedVersions : OrderedMap String Int) (doc : Doc) : Bool :=
  doc.found &&
    (expectedVersions.get? doc.id).any fun version =>
      version ≤ doc.indexedVersion

/-- The answers of one poll; those that are missing leave what was there. -/
def observe
    (baselineTrips : Nat)
    (recovery : Recovery)
    (poll : Poll) : Recovery :=
  let docs := poll.docs recovery.expectedVersions.keys
  let breaker := esBreaker poll.telemetry
  { recovery with
    finalEsCount := poll.count <|> recovery.finalEsCount
    matched :=
      match docs with
      | some docs => (docs.filter (lands recovery.expectedVersions)).length
      | none => recovery.matched
    lastBreaker := breaker <|> recovery.lastBreaker
    antiBusyLoopVerified :=
      recovery.antiBusyLoopVerified || breakerTripped baselineTrips breaker
    heard := { recovery.heard with last := some { breaker, docs } } }

/-- `esBreaker ? esBreaker.state === 'CLOSED' : true`. -/
def breakerClosed : Option BreakerMetrics → Bool
  | some breaker => breaker.state = some .closed
  | none => true

/-- `matched === expectedVersions.size`. -/
def versionsLanded (recovery : Recovery) : Bool :=
  recovery.matched = recovery.expectedVersions.length

/-- The loop breaks after this poll. -/
def recovers
    (expectedSinkCount : Int)
    (recovery : Recovery)
    (poll : Poll) : Bool :=
  breakerClosed (esBreaker poll.telemetry) &&
    poll.count.any (fun count => expectedSinkCount ≤ count) &&
    recovery.versionsLanded

/-- A canary batch is fired after this poll. -/
def canaryDue
    (options : Options)
    (recovery : Recovery)
    (poll : Poll) : Bool :=
  recovery.versionsLanded &&
    (esBreaker poll.telemetry).any
      (fun breaker => breaker.state ≠ some .closed) &&
    recovery.canariesFired < options.maxCanaries &&
    recovery.lastCanaryAt.all fun last =>
      options.canaryIntervalMs ≤ poll.canaryCheckedAt - last

/-- The rows of a canary batch are expected too. -/
def fireCanary
    (recovery : Recovery)
    (rows : List Mutation)
    (firedAt : Int) : Recovery :=
  { recovery with
    expectedVersions := recovery.expectedVersions.setAll rows
    canariesFired := recovery.canariesFired + 1
    lastCanaryAt := some firedAt
    heard :=
      { recovery.heard with returned := recovery.heard.returned ++ rows } }

end Recovery

/-- How the recovery loop ends. -/
inductive Ending where
  | finished (recovery : Recovery)
  | threw
  deriving DecidableEq, Repr

/-- The recovery loop; it is still running when there are no more answers. -/
def recover
    (options : Options)
    (baseline : Baseline)
    (restoredAt : Int)
    (recovery : Recovery) : List Poll → Option Ending
  | [] => none
  | poll :: rest =>
      if poll.now - restoredAt < options.maxRecoveryWaitMs then
        let seen := recovery.observe baseline.baselineTrips poll
        if seen.recovers baseline.expectedSinkCount poll then
          some (.finished { seen with recoveredAt := some poll.recoveredAt })
        else if seen.canaryDue options poll then
          match poll.canary with
          | some rows =>
              recover options baseline restoredAt
                (seen.fireCanary rows poll.canaryFiredAt) rest
          | none => some .threw
        else
          recover options baseline restoredAt seen rest
      else
        some (.finished recovery)

/--
`Number((ms / 1000).toFixed(1))` in tenths.  The double of a tie may lie on
either side; only the sign is compared.
-/
def toTenths (ms : Int) : Int :=
  if ms < 0 then -((-ms + 50) / 100) else (ms + 50) / 100

/-- `evaluateGate3Outage`, whether it passes. -/
def evaluateGate3Outage
    (downtimeSec lostRecords recoveryTenths : Int)
    (antiBusyLoopVerified : Bool) : Bool :=
  0 < downtimeSec && lostRecords = 0 && 0 ≤ recoveryTenths &&
    antiBusyLoopVerified

/-- What the gate reports. -/
structure Result where
  passed : Bool
  downtimeSec : Int
  lostRecords : Int
  recoveryTenths : Int
  mutatedCount : Nat
  recovery : Recovery
  deriving DecidableEq, Repr

/-- The evaluation after the recovery loop. -/
def evaluate
    (environment : Environment)
    (mutated : List Mutation)
    (recovery : Recovery) : Result :=
  let elapsed := environment.restoredAt - environment.outageStart
  let downtimeSec := max 1 ((elapsed + 500) / 1000)
  let lostRecords : Int := recovery.expectedVersions.length - recovery.matched
  let recoveryTenths :=
    match recovery.recoveredAt with
    | some recoveredAt => toTenths (recoveredAt - environment.restoredAt)
    | none => -10
  { passed :=
      evaluateGate3Outage downtimeSec lostRecords recoveryTenths
        recovery.antiBusyLoopVerified
    downtimeSec
    lostRecords
    recoveryTenths
    mutatedCount := mutated.length
    recovery }

/-- What `runGate3` returns, if it does. -/
inductive Verdict where
  /-- An exception: `passed` is false. -/
  | failed
  | evaluated (result : Result)
  deriving DecidableEq, Repr

/-- `runGate3` from the outage on. -/
def runGate3
    (options : Options)
    (baseline : Baseline)
    (environment : Environment) : Option Verdict :=
  if !environment.stopReceiver then some .failed
  else
    match environment.mutated with
    | none => some .failed
    | some [] => some .failed
    | some (row :: rows) =>
        match
          watchBlackout options baseline.baselineTrips environment.outageStart
            environment.blackout with
        | none => none
        | some tripped =>
            if !environment.startReceiver then some .failed
            else
              match
                recover options baseline environment.restoredAt
                  (.start (row :: rows) tripped) environment.polls with
              | none => none
              | some .threw => some .failed
              | some (.finished recovery) =>
                  some
                    (.evaluated
                      (evaluate environment (row :: rows) recovery))

/-! ### What the recovery loop carries -/

/-- The rows that have been returned are the ones that are expected. -/
structure Expects (recovery : Recovery) : Prop where
  expectedVersions :
    recovery.expectedVersions = OrderedMap.setAll [] recovery.heard.returned
  notRecovered : recovery.recoveredAt = none

/-- The poll after which the loop breaks, and what it leaves. -/
structure Decides (poll : Poll) (recovery : Recovery) : Prop where
  expectedVersions :
    recovery.expectedVersions = OrderedMap.setAll [] recovery.heard.returned
  last :
    recovery.heard.last =
      some
        { breaker := esBreaker poll.telemetry
          docs := poll.docs recovery.expectedVersions.keys }
  closed : Recovery.breakerClosed (esBreaker poll.telemetry) = true
  matched : recovery.matched = recovery.expectedVersions.length
  counted :
    ∀ docs, poll.docs recovery.expectedVersions.keys = some docs →
      recovery.matched =
        (docs.filter (Recovery.lands recovery.expectedVersions)).length

section Loop

variable
  {options : Options}
  {baseline : Baseline}
  {restoredAt : Int}
  {recovery final : Recovery}
  {poll : Poll}

/-- A poll expects nothing new. -/
theorem Expects.observe
    (expects : Expects recovery)
    (baselineTrips : Nat)
    (poll : Poll) :
    Expects (recovery.observe baselineTrips poll) :=
  ⟨expects.expectedVersions, expects.notRecovered⟩

/-- A canary batch expects its rows. -/
theorem Expects.fireCanary
    (expects : Expects recovery)
    (rows : List Mutation)
    (firedAt : Int) :
    Expects (recovery.fireCanary rows firedAt) := by
  refine ⟨?_, expects.notRecovered⟩
  change OrderedMap.setAll recovery.expectedVersions rows = _
  rw [expects.expectedVersions]
  exact (OrderedMap.setAll_append recovery.heard.returned rows).symm

/-- The poll that breaks the loop decides. -/
theorem Expects.decides
    (expects : Expects recovery)
    (recovers :
      (recovery.observe baseline.baselineTrips poll).recovers
        baseline.expectedSinkCount poll = true) :
    Decides poll
      { recovery.observe baseline.baselineTrips poll with
        recoveredAt := some poll.recoveredAt } := by
  simp only [Recovery.recovers, Bool.and_eq_true] at recovers
  obtain ⟨⟨closed, _⟩, landed⟩ := recovers
  refine ⟨expects.expectedVersions, rfl, closed, ?_, ?_⟩
  · exact of_decide_eq_true landed
  · intro docs answered
    change poll.docs recovery.expectedVersions.keys = some docs at answered
    simp only [Recovery.observe, answered]

/-- A loop that has recovered has been decided by one of its polls. -/
theorem exists_decides
    {polls : List Poll}
    (expects : Expects recovery)
    (finished :
      recover options baseline restoredAt recovery polls =
        some (.finished final))
    (recovered : final.recoveredAt ≠ none) :
    ∃ poll ∈ polls, Decides poll final := by
  induction polls generalizing recovery with
  | nil => cases finished
  | cons poll rest inductionHypothesis =>
      have observed := expects.observe baseline.baselineTrips poll
      simp only [recover] at finished
      split at finished
      · split at finished
        · rename_i recovers
          cases finished
          exact ⟨poll, List.mem_cons_self, expects.decides recovers⟩
        · split at finished
          · split at finished
            · obtain ⟨later, member, decides⟩ :=
                inductionHypothesis (observed.fireCanary _ _) finished
              exact ⟨later, List.mem_cons_of_mem _ member, decides⟩
            · cases finished
          · obtain ⟨later, member, decides⟩ :=
              inductionHypothesis observed finished
            exact ⟨later, List.mem_cons_of_mem _ member, decides⟩
      · cases finished
        exact (recovered expects.notRecovered).elim

end Loop

/-! ### What a pass is worth -/

/-- `_mget` answers with one document for each id it is asked for. -/
def Poll.AnswersEach (poll : Poll) : Prop :=
  ∀ ids docs, poll.docs ids = some docs → docs.map Doc.id = ids

namespace Heard

/--
The last poll has seen the breaker closed, and every row that was returned in
the index, in a version not below the highest that was returned for it.
-/
def Verified (heard : Heard) : Prop :=
  ∃ seen,
    heard.last = some seen ∧
      (∃ breaker,
        seen.breaker = some breaker ∧ breaker.state = some .closed) ∧
      ∃ docs,
        seen.docs = some docs ∧
          ∀ row ∈ heard.returned,
            ∃ doc ∈ docs,
              doc.id = row.1 ∧ doc.found = true ∧
                ∀ other ∈ heard.returned,
                  other.1 = row.1 → other.2 ≤ doc.indexedVersion

/-- The telemetry and the `_mget` of the last poll were answered. -/
def Answered (heard : Heard) : Prop :=
  ∃ seen,
    heard.last = some seen ∧
      seen.breaker.isSome = true ∧ seen.docs.isSome = true

/--
A version that the last one returned for its row undercuts is in the index all
the same.  Rows whose versions never fall have none.
-/
def KeepsUndercut (heard : Heard) : Prop :=
  ∀ row ∈ heard.returned, ∀ latest,
    (OrderedMap.setAll [] heard.returned).get? row.1 = some latest →
      latest < row.2 →
        ∃ seen docs,
          heard.last = some seen ∧ seen.docs = some docs ∧
            ∃ doc ∈ docs, doc.id = row.1 ∧ row.2 ≤ doc.indexedVersion

/-- Versions that never fall are never undercut. -/
theorem keepsUndercut_of_rising
    {heard : Heard}
    (rising : OrderedMap.Rising heard.returned) :
    heard.KeepsUndercut := by
  intro row member latest found below
  have highest := OrderedMap.le_of_get?_setAll rising member found
  omega

end Heard

section Pass

variable
  {recovery : Recovery}
  {poll : Poll}

/-- Every document of the deciding answer is in its expected version. -/
theorem Decides.all_land
    (decides : Decides poll recovery)
    (answersEach : poll.AnswersEach)
    {docs : List Doc}
    (answered : poll.docs recovery.expectedVersions.keys = some docs) :
    ∀ doc ∈ docs,
      Recovery.lands recovery.expectedVersions doc = true := by
  have length : docs.length = recovery.expectedVersions.length := by
    rw [← OrderedMap.length_keys, ← answersEach _ _ answered, List.length_map]
  have landed := decides.counted docs answered
  rw [decides.matched, ← length] at landed
  exact List.length_filter_eq_length_iff.mp landed.symm

/-- The document of a row that was returned. -/
theorem Decides.exists_doc
    (decides : Decides poll recovery)
    (answersEach : poll.AnswersEach)
    {docs : List Doc}
    (answered : poll.docs recovery.expectedVersions.keys = some docs)
    {row : Mutation}
    (member : row ∈ recovery.heard.returned) :
    ∃ doc ∈ docs,
      doc.id = row.1 ∧ doc.found = true ∧
        ∃ latest,
          recovery.expectedVersions.get? row.1 = some latest ∧
            latest ≤ doc.indexedVersion := by
  obtain ⟨latest, found⟩ := OrderedMap.exists_get?_setAll member
  rw [← decides.expectedVersions] at found
  have isKey := OrderedMap.mem_keys_of_get? found
  rw [← answersEach _ _ answered] at isKey
  obtain ⟨doc, inDocs, isId⟩ := List.mem_map.mp isKey
  have lands := decides.all_land answersEach answered doc inDocs
  simp only [Recovery.lands, isId, found, Option.any_some, Bool.and_eq_true,
    decide_eq_true_eq] at lands
  exact ⟨doc, inDocs, isId, lands.1, latest, found, lands.2⟩

/-- An answer has one document for each id. -/
theorem Decides.eq_of_id
    (decides : Decides poll recovery)
    (answersEach : poll.AnswersEach)
    {docs : List Doc}
    (answered : poll.docs recovery.expectedVersions.keys = some docs)
    {first second : Doc}
    (inDocs : first ∈ docs)
    (secondInDocs : second ∈ docs)
    (same : first.id = second.id) :
    first = second := by
  have distinct : (docs.map Doc.id).Nodup := by
    rw [answersEach _ _ answered, decides.expectedVersions]
    exact OrderedMap.nodup_keys_setAll _
  exact List.inj_on_of_nodup_map distinct inDocs secondInDocs same

/-- What the deciding poll has verified depends on what was answered. -/
theorem Decides.verified_iff
    (decides : Decides poll recovery)
    (answersEach : poll.AnswersEach) :
    recovery.heard.Verified ↔
      recovery.heard.Answered ∧ recovery.heard.KeepsUndercut := by
  constructor
  · rintro ⟨seen, last, ⟨breaker, isBreaker, _⟩, docs, isDocs, verified⟩
    refine ⟨⟨seen, last, by simp [isBreaker], by simp [isDocs]⟩, ?_⟩
    intro row member latest _ _
    obtain ⟨doc, inDocs, isId, _, highest⟩ := verified row member
    exact ⟨seen, docs, last, isDocs, doc, inDocs, isId,
      highest row member rfl⟩
  · rintro ⟨⟨seen, last, hasBreaker, hasDocs⟩, keeps⟩
    obtain ⟨breaker, isBreaker⟩ := Option.isSome_iff_exists.mp hasBreaker
    obtain ⟨docs, isDocs⟩ := Option.isSome_iff_exists.mp hasDocs
    have decided := decides.last
    rw [last] at decided
    cases decided
    refine ⟨_, last, ⟨breaker, isBreaker, ?_⟩, docs, isDocs, ?_⟩
    · have closed := decides.closed
      change esBreaker poll.telemetry = some breaker at isBreaker
      rw [isBreaker] at closed
      exact of_decide_eq_true closed
    · change poll.docs recovery.expectedVersions.keys = some docs at isDocs
      intro row member
      obtain ⟨doc, inDocs, isId, found, latest, expected, atLeast⟩ :=
        decides.exists_doc answersEach isDocs member
      refine ⟨doc, inDocs, isId, found, fun other inReturned same => ?_⟩
      by_cases below : latest < other.2
      · obtain ⟨seen, others, lastSeen, isOthers, kept, inOthers, keptId,
          keptVersion⟩ := keeps other inReturned latest
            (by rw [same, ← decides.expectedVersions]; exact expected) below
        rw [last] at lastSeen
        cases lastSeen
        change poll.docs recovery.expectedVersions.keys = some others
          at isOthers
        rw [isDocs] at isOthers
        cases isOthers
        have one :=
          decides.eq_of_id answersEach isDocs inOthers inDocs
            (keptId.trans (same.trans isId.symm))
        rw [← one]
        exact keptVersion
      · omega

end Pass

section Gate

variable
  {options : Options}
  {baseline : Baseline}
  {environment : Environment}
  {mutated : List Mutation}
  {recovery : Recovery}
  {result : Result}

/-- A pass has left the recovery loop by its break. -/
theorem recovered_of_passed
    (passed : (evaluate environment mutated recovery).passed = true) :
    recovery.recoveredAt ≠ none := by
  intro missing
  simp [evaluate, evaluateGate3Outage, missing] at passed

/-- A verdict is the evaluation of what the recovery loop has left. -/
theorem exists_recover
    (finished :
      runGate3 options baseline environment = some (.evaluated result)) :
    ∃ mutated tripped recovery,
      recover options baseline environment.restoredAt
          (.start mutated tripped) environment.polls =
          some (.finished recovery) ∧
        result = evaluate environment mutated recovery := by
  simp only [runGate3] at finished
  split at finished
  · cases finished
  · split at finished
    · cases finished
    · cases finished
    · rename_i row rows _
      split at finished
      · cases finished
      · rename_i tripped _
        split at finished
        · cases finished
        · split at finished
          · cases finished
          · cases finished
          · rename_i recovery left
            cases finished
            exact ⟨row :: rows, tripped, recovery, left, rfl⟩

/--
A pass is worth what it says exactly when its last poll was answered and no
version that it no longer expects is missing.
-/
theorem passed_verified_iff
    (answersEach : ∀ poll ∈ environment.polls, poll.AnswersEach)
    (finished :
      runGate3 options baseline environment = some (.evaluated result))
    (passed : result.passed = true) :
    result.recovery.heard.Verified ↔
      result.recovery.heard.Answered ∧
        result.recovery.heard.KeepsUndercut := by
  obtain ⟨mutated, tripped, recovery, left, rfl⟩ := exists_recover finished
  have expects : Expects (Recovery.start mutated tripped) := ⟨rfl, rfl⟩
  obtain ⟨poll, member, decides⟩ :=
    exists_decides expects left (recovered_of_passed passed)
  exact decides.verified_iff (answersEach poll member)

/-- Rows whose versions never fall need no more than a last poll answered. -/
theorem verified_of_answered
    (answersEach : ∀ poll ∈ environment.polls, poll.AnswersEach)
    (finished :
      runGate3 options baseline environment = some (.evaluated result))
    (passed : result.passed = true)
    (rising : OrderedMap.Rising result.recovery.heard.returned)
    (answered : result.recovery.heard.Answered) :
    result.recovery.heard.Verified :=
  (passed_verified_iff answersEach finished passed).mpr
    ⟨answered, Heard.keepsUndercut_of_rising rising⟩

end Gate

/-! ### Gates that pass -/

namespace Sample

/-- An index that holds these versions answers. -/
def holding
    (versions : List Mutation)
    (ids : List String) : Option (List Doc) :=
  some
    (ids.map fun id =>
      { id
        found := (versions.lookup id).isSome
        version := versions.lookup id })

/-- A poll; every document is counted. -/
def poll
    (state : Option CircuitBreakerState)
    (docs : List String → Option (List Doc)) : Poll where
  now := 0
  telemetry :=
    state.map fun state =>
      { elasticsearch :=
          some { state := some state, isThrottling := false, totalTrips := some 1 } }
  count := some 1
  docs
  recoveredAt := 0
  canaryCheckedAt := 0
  canary := some [("1", 3)]
  canaryFiredAt := 0

/-- An outage in which the breaker has been seen open. -/
def environment (mutated : List Mutation) (polls : List Poll) : Environment where
  outageStart := 0
  stopReceiver := true
  mutated := some mutated
  blackout := [{ now := 0, telemetry := (poll (some .open) (holding [])).telemetry }]
  startReceiver := true
  restoredAt := 0
  polls

/-- One document is expected, and the breaker has not tripped yet. -/
def baseline : Baseline where
  expectedSinkCount := 1
  baselineTrips := 0

/-- A canary batch closes the breaker, and its row is looked up. -/
def recovering : Environment :=
  environment [("1", 2)]
    [poll (some .halfOpen) (holding [("1", 2)]),
      poll (some .closed) (holding [("1", 3)])]

/-- An index that holds versions answers for each id. -/
theorem holding_answersEach
    (state : Option CircuitBreakerState)
    (versions : List Mutation) :
    (poll state (holding versions)).AnswersEach := by
  intro ids docs answered
  cases answered
  simp [Function.comp_def]

end Sample

/-- A canary row is seen in its new version before the gate passes. -/
theorem passed_verified_sample :
    ∃ result,
      runGate3 {} Sample.baseline Sample.recovering =
          some (.evaluated result) ∧
        result.recovery.heard.Verified := by
  refine ⟨_, rfl, ?_⟩
  refine
    (@passed_verified_iff {} Sample.baseline Sample.recovering _ ?_ rfl
      rfl).mpr ⟨⟨_, rfl, rfl, rfl⟩, ?_⟩
  · intro poll member
    simp only [Sample.recovering, Sample.environment, List.mem_cons,
      List.not_mem_nil, or_false] at member
    obtain rfl | rfl := member
    · exact Sample.holding_answersEach _ _
    · exact Sample.holding_answersEach _ _
  · apply Heard.keepsUndercut_of_rising
    change OrderedMap.Rising [("1", (2 : Int)), ("1", 3)]
    simp [OrderedMap.Rising]

/--
The gate passes with a canary row whose new version no poll has seen, since the
documents counted by an earlier poll still count; without an answer about the
breaker; and with a version below one that was returned before it.
-/
theorem passed_unverified :
    (∃ result,
      runGate3 {} Sample.baseline
          (Sample.environment [("1", 2)]
            [Sample.poll (some .halfOpen) (Sample.holding [("1", 2)]),
              Sample.poll (some .closed) fun _ => none]) =
          some (.evaluated result) ∧
        result.passed = true ∧ ¬ result.recovery.heard.Verified) ∧
    (∃ result,
      runGate3 {} Sample.baseline
          (Sample.environment [("1", 2)]
            [Sample.poll none (Sample.holding [("1", 2)])]) =
          some (.evaluated result) ∧
        result.passed = true ∧ ¬ result.recovery.heard.Verified) ∧
    ∃ result,
      runGate3 {} Sample.baseline
          (Sample.environment [("1", 4)]
            [Sample.poll (some .halfOpen) (Sample.holding [("1", 4)]),
              Sample.poll (some .closed) (Sample.holding [("1", 3)])]) =
          some (.evaluated result) ∧
        result.passed = true ∧ ¬ result.recovery.heard.Verified := by
  refine ⟨⟨_, rfl, rfl, ?_⟩, ⟨_, rfl, rfl, ?_⟩, ⟨_, rfl, rfl, ?_⟩⟩
  · rintro ⟨seen, last, _, docs, isDocs, _⟩
    cases last
    cases isDocs
  · rintro ⟨seen, last, ⟨breaker, isBreaker, _⟩, _⟩
    cases last
    cases isBreaker
  · rintro ⟨seen, last, _, docs, isDocs, verified⟩
    cases last
    cases isDocs
    obtain ⟨doc, member, _, _, highest⟩ := verified ("1", 4) (by decide)
    have atLeast := highest ("1", 4) (by decide) rfl
    obtain rfl := List.mem_singleton.mp member
    exact absurd atLeast (by decide)


end Replication.Gate3
