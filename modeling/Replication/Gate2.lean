import Mathlib
import Replication.ElasticsearchSink
import Replication.EventConsumer
import Replication.Harness

namespace Replication.Gate2

/-!
# The deduplication gate

`runGate2` compares the number of documents with the number of source rows that
are not quarantined and absent from the index.  It polls both receivers until
they are at parity or its budget is used up, and then evaluates what it has
seen last.
-/

/-- An element of an `_mget` answer. -/
structure Doc where
  id : Text
  found : Bool
  deriving DecidableEq, Repr

/-- The metrics of the consumer; a field that is missing is `none`. -/
structure ConsumerMetrics where
  uniqueProcessed : Option Int
  duplicatesPrevented : Option Int
  deriving DecidableEq, Repr

/-- Options of the gate. -/
structure Options where
  maxWaitMs : Int := 180000
  expectedSinkCount : Option Int := none
  deriving Repr

/-- Why the gate throws. -/
inductive Failure where
  /-- A query that is not caught was rejected. -/
  | rejected
  | emptySource
  | tooManyQuarantined
  | unreachable
  deriving DecidableEq, Repr

/-- The answers that an expectation is computed from. -/
structure Quarantine where
  /-- The rows of the query, by their `record_id`. -/
  rows : Option (List (Option Nat))
  docs : List Text → Option (List Doc)

/-- One iteration of the loop that waits for parity. -/
structure Poll where
  /-- Read by the loop condition. -/
  now : Int
  count : Option Int
  consumer : Option ConsumerMetrics
  quarantine : Quarantine

/-- What the injected functions answer.  A rejection or null is `none`. -/
structure Environment where
  gateStart : Int
  /-- `COUNT(*)` of the source rows. -/
  counted : Option (List Int)
  quarantine : Quarantine
  quiesced : Bool
  count : Option Int
  consumer : Option ConsumerMetrics
  settledAt : Int
  parityStart : Int
  polls : List Poll

/-- `MAX_DLQ_RECORDS_TO_CROSSCHECK`. -/
def maxCrosschecked : Nat := 10000

/-- The row is an unresolved failure of the Elasticsearch sink. -/
def quarantines (entry : DLQEntry) : Bool :=
  (entry.sinkTarget = .elasticsearch || entry.sinkTarget = .all) &&
    entry.status ≠ .resolved

/-- Ascending, with nulls last. -/
def orderedBefore : Option Nat → Option Nat → Prop
  | _, none => True
  | none, some _ => False
  | some first, some second => first ≤ second

instance : DecidableRel orderedBefore
  | _, none => .isTrue trivial
  | none, some _ => .isFalse id
  | some first, some second => Nat.decLe first second

/--
`SELECT DISTINCT record_id` of the quarantined rows of `dead_letter_queue`, in
order, up to one more than are cross-checked.
-/
def selectQuarantined (table : List DLQEntry) : List (Option Nat) :=
  ((((table.filter quarantines).map DLQEntry.recordId).dedup).insertionSort
    orderedBefore).take (maxCrosschecked + 1)

/-- What the size of the index is expected to be. -/
structure Expectation where
  quarantined : Int
  alreadyIndexed : Int
  missingFromSink : Int
  expectedSinkCount : Int
  deriving DecidableEq, Repr

/-- `computeExpectation`. -/
def computeExpectation
    (options : Options)
    (sourceCount : Int)
    (quarantine : Quarantine) : GateRun Failure Expectation :=
  let quarantinedIds :=
    ((quarantine.rows.getD []).filterMap id).map ElasticsearchSink.documentIdOf
  if maxCrosschecked < quarantinedIds.length then
    throw .tooManyQuarantined
  else
    let docs :=
      if 0 < quarantinedIds.length then quarantine.docs quarantinedIds else none
    let alreadyIndexed : Int :=
      match docs with
      | some docs => (docs.filter Doc.found).length
      | none => 0
    let missingFromSink := quarantinedIds.length - alreadyIndexed
    pure
      { quarantined := quarantinedIds.length
        alreadyIndexed
        missingFromSink
        expectedSinkCount :=
          options.expectedSinkCount.getD (sourceCount - missingFromSink) }

/-- The variables of the loop that waits for parity. -/
structure Parity where
  esCount : Option Int
  consumerMetrics : Option ConsumerMetrics
  expectation : Expectation
  deriving DecidableEq, Repr

namespace Parity

/-- `esCount === expectation.expectedSinkCount`. -/
def esAtParity (parity : Parity) : Bool :=
  parity.esCount = some parity.expectation.expectedSinkCount

/-- `Number(consumerMetrics.uniqueProcessed ?? 0)`, if there are metrics. -/
def consumerUnique (parity : Parity) : Option Int :=
  parity.consumerMetrics.map fun metrics => metrics.uniqueProcessed.getD 0

/-- The consumer has processed as many events as documents are expected. -/
def consumerAtParity (parity : Parity) : Bool :=
  parity.consumerUnique.any fun unique =>
    parity.expectation.expectedSinkCount ≤ unique

/-- A receiver that is not at parity is asked again, and may not answer. -/
def ask
    (parity : Parity)
    (poll : Poll)
    (expectation : Expectation) : Parity where
  esCount :=
    if parity.esAtParity then parity.esCount
    else poll.count <|> parity.esCount
  consumerMetrics :=
    if parity.consumerAtParity then parity.consumerMetrics
    else poll.consumer <|> parity.consumerMetrics
  expectation

/-- One iteration. -/
def observe
    (options : Options)
    (sourceCount : Int)
    (parity : Parity)
    (poll : Poll) : GateRun Failure Parity := do
  let expectation ← computeExpectation options sourceCount poll.quarantine
  pure (parity.ask poll expectation)

end Parity

/-- The loop that waits for parity. -/
def awaitParity
    (options : Options)
    (sourceCount parityStart remainingMs : Int)
    (parity : Parity) : List Poll → GateRun Failure Parity
  | [] =>
      if parity.esAtParity && parity.consumerAtParity then
        pure parity
      else
        .running
  | poll :: rest =>
      if parity.esAtParity && parity.consumerAtParity then
        pure parity
      else if poll.now - parityStart < remainingMs then do
        let next ← parity.observe options sourceCount poll
        awaitParity options sourceCount parityStart remainingMs next rest
      else
        pure parity

/-- What a failed evaluation names. -/
inductive Reason where
  | invalidSourceCount (sourceCount : Int)
  | elasticsearchParity (targetSinkCount esCount : Int)
  | consumerUnreachable
  | consumerParity (consumerUniqueCount targetSinkCount : Int)
  | duplicates (duplicateCount : Int)
  deriving DecidableEq, Repr

/-- What `evaluateGate2Deduplication` decides. -/
structure Evaluation where
  esParity : Bool
  zeroDuplicates : Bool
  passed : Bool
  reasons : List Reason
  deriving DecidableEq, Repr

/-- `evaluateGate2Deduplication`. -/
def evaluateGate2Deduplication
    (sourceCount esCount : Int)
    (consumerUniqueCount : Option Int)
    (duplicateCount : Int)
    (expectedSinkCount : Option Int) : Evaluation :=
  let targetSinkCount := expectedSinkCount.getD sourceCount
  let sourceValid : Bool := 0 < sourceCount
  let esParity : Bool := esCount = targetSinkCount
  let consumerParity :=
    consumerUniqueCount.any fun unique => targetSinkCount ≤ unique
  let zeroDuplicates : Bool := duplicateCount = 0
  { esParity
    zeroDuplicates
    passed := sourceValid && esParity && consumerParity && zeroDuplicates
    reasons :=
      (if sourceValid then [] else [.invalidSourceCount sourceCount]) ++
      (if esParity then [] else [.elasticsearchParity targetSinkCount esCount]) ++
      (match consumerUniqueCount with
        | none => [.consumerUnreachable]
        | some unique =>
            if consumerParity then []
            else [.consumerParity unique targetSinkCount]) ++
      (if zeroDuplicates then [] else [.duplicates duplicateCount]) }

/-- What the gate returns. -/
structure Result where
  evaluation : Evaluation
  sourceCount : Int
  sinkCount : Int
  expectation : Expectation
  consumerUniqueCount : Option Int
  duplicates : Int
  duplicatesPrevented : Int
  quiesced : Bool
  deriving DecidableEq, Repr

/-- The evaluation of what has been seen last. -/
def evaluate
    (environment : Environment)
    (sourceCount esCount : Int)
    (parity : Parity) : Result :=
  let duplicates := max 0 (esCount - sourceCount)
  { evaluation :=
      evaluateGate2Deduplication sourceCount esCount parity.consumerUnique
        duplicates (some parity.expectation.expectedSinkCount)
    sourceCount
    sinkCount := esCount
    expectation := parity.expectation
    consumerUniqueCount := parity.consumerUnique
    duplicates
    duplicatesPrevented :=
      (parity.consumerMetrics.bind ConsumerMetrics.duplicatesPrevented).getD 0
    quiesced := environment.quiesced }

/-- An index that was never counted is unreachable. -/
def conclude
    (environment : Environment)
    (sourceCount : Int)
    (parity : Parity) : GateRun Failure Result :=
  match parity.esCount with
  | none => throw .unreachable
  | some esCount => pure (evaluate environment sourceCount esCount parity)

/-- What the wait for quiescence has left of the budget. -/
def remainingMs (options : Options) (environment : Environment) : Int :=
  max 0 (options.maxWaitMs - (environment.settledAt - environment.gateStart))

/-- `runGate2`. -/
def runGate2
    (options : Options)
    (environment : Environment) : GateRun Failure Result := do
  let rows ← .awaited .rejected environment.counted
  let sourceCount := rows.headD 0
  if sourceCount ≤ 0 then
    throw .emptySource
  else do
    let expectation ←
      computeExpectation options sourceCount environment.quarantine
    let parity ←
      awaitParity options sourceCount environment.parityStart
        (remainingMs options environment)
        { esCount := environment.count
          consumerMetrics := environment.consumer
          expectation }
        environment.polls
    conclude environment sourceCount parity

/-! ### A partial membership probe -/

section Counting

variable
  {Element : Type*}
  [DecidableEq Element]
  {whole indexed quarantined : Finset Element}

/--
Two parts of a finite set cover it exactly when the first and what the second
adds to it are as many as the whole.
-/
theorem card_add_card_sdiff_iff
    (indexedSubset : indexed ⊆ whole)
    (quarantinedSubset : quarantined ⊆ whole) :
    indexed.card + (quarantined \ indexed).card = whole.card ↔
      indexed ∪ quarantined = whole := by
  have split :
      (indexed ∪ quarantined).card =
        indexed.card + (quarantined \ indexed).card := by
    rw [← Finset.union_sdiff_self_eq_union]
    exact Finset.card_union_of_disjoint Finset.disjoint_sdiff
  rw [← split]
  constructor
  · intro sameCard
    exact
      Finset.eq_of_subset_of_card_le
        (Finset.union_subset indexedSubset quarantinedSubset) sameCard.ge
  · exact congrArg Finset.card

end Counting

/-! ### The quarantined records -/

/-- The records with an unresolved failure of the Elasticsearch sink. -/
def quarantined (table : List DLQEntry) : Finset Nat :=
  ((table.filter quarantines).filterMap DLQEntry.recordId).toFinset

section Quarantined

variable {table : List DLQEntry}

/-- A null is at most one row more. -/
theorem length_recordIds_le (table : List DLQEntry) :
    ((table.filter quarantines).map DLQEntry.recordId).dedup.length ≤
      (quarantined table).card + 1 := by
  rw [← List.card_toFinset, ← Finset.card_insertNone]
  apply Finset.card_le_card
  intro recordId member
  cases recordId with
  | none => simp
  | some id => simpa [quarantined] using member

/-- The rows of the query, when none is cut off. -/
theorem selectQuarantined_perm
    (few : (quarantined table).card ≤ maxCrosschecked) :
    (selectQuarantined table).Perm
      ((table.filter quarantines).map DLQEntry.recordId).dedup := by
  have sorted :=
    List.perm_insertionSort orderedBefore
      ((table.filter quarantines).map DLQEntry.recordId).dedup
  rw [selectQuarantined, List.take_of_length_le]
  · exact sorted
  · have atMost := length_recordIds_le table
    have sameLength := sorted.length_eq
    omega

/-- The query returns no record twice. -/
theorem nodup_selectQuarantined
    (few : (quarantined table).card ≤ maxCrosschecked) :
    ((selectQuarantined table).filterMap id).Nodup := by
  apply List.Nodup.filterMap
  · rintro first second id isFirst isSecond
    exact isFirst.trans isSecond.symm
  · exact (selectQuarantined_perm few).nodup_iff.mpr (List.nodup_dedup _)

/-- The query returns each quarantined record. -/
theorem toFinset_selectQuarantined
    (few : (quarantined table).card ≤ maxCrosschecked) :
    ((selectQuarantined table).filterMap id).toFinset = quarantined table := by
  ext recordId
  simp [quarantined, (selectQuarantined_perm few).mem_iff]

/-- It returns as many as there are. -/
theorem length_selectQuarantined
    (few : (quarantined table).card ≤ maxCrosschecked) :
    ((selectQuarantined table).filterMap id).length =
      (quarantined table).card := by
  rw [← toFinset_selectQuarantined few,
    List.toFinset_card_of_nodup (nodup_selectQuarantined few)]

end Quarantined

/-! ### The expectation -/

/-- `_mget` tells which of the records it is asked for are indexed. -/
def Truthful
    (docs : List Text → Option (List Doc))
    (indexed asked : Finset Nat) : Prop :=
  ∀ ids : List Nat, (∀ id ∈ ids, id ∈ asked) →
    ∃ answer,
      docs (ids.map ElasticsearchSink.documentIdOf) = some answer ∧
        answer.map Doc.id = ids.map ElasticsearchSink.documentIdOf ∧
          ∀ doc ∈ answer,
            doc.found = true ↔
              ∃ id ∈ indexed, ElasticsearchSink.documentIdOf id = doc.id

section Expectation

variable
  {options : Options}
  {sourceCount : Int}
  {table : List DLQEntry}
  {indexed : Finset Nat}

/-- As many documents are found as records are indexed. -/
theorem length_found
    {ids : List Nat}
    {answer : List Doc}
    (named : answer.map Doc.id = ids.map ElasticsearchSink.documentIdOf)
    (truthful :
      ∀ doc ∈ answer,
        doc.found = true ↔
          ∃ id ∈ indexed, ElasticsearchSink.documentIdOf id = doc.id) :
    (answer.filter Doc.found).length =
      (ids.filter fun id => id ∈ indexed).length := by
  induction ids generalizing answer with
  | nil =>
      rw [List.map_nil, List.map_eq_nil_iff] at named
      subst named
      rfl
  | cons id rest inductionHypothesis =>
      rw [List.map_cons, List.map_eq_cons_iff] at named
      obtain ⟨doc, docs, rfl, isId, isRest⟩ := named
      have restFound :=
        inductionHypothesis isRest fun doc member =>
          truthful doc (List.mem_cons_of_mem _ member)
      have found : doc.found = true ↔ id ∈ indexed := by
        rw [truthful doc List.mem_cons_self, isId]
        constructor
        · rintro ⟨other, member, same⟩
          rwa [natText_injective same] at member
        · exact fun member => ⟨id, member, rfl⟩
      by_cases isFound : doc.found = true
      · simp [isFound, found.mp isFound, restFound]
      · simp [isFound, mt found.mpr isFound, restFound]

/-- The expectation that the sets determine. -/
def expectationOf
    (options : Options)
    (sourceCount : Int)
    (quarantined indexed : Finset Nat) : Expectation where
  quarantined := quarantined.card
  alreadyIndexed := (quarantined ∩ indexed).card
  missingFromSink := (quarantined \ indexed).card
  expectedSinkCount :=
    options.expectedSinkCount.getD
      (sourceCount - (quarantined \ indexed).card)

/-- Truthful answers determine the expectation. -/
theorem computeExpectation_eq
    {quarantine : Quarantine}
    (few : (quarantined table).card ≤ maxCrosschecked)
    (rows : quarantine.rows = some (selectQuarantined table))
    (truthful : Truthful quarantine.docs indexed (quarantined table)) :
    computeExpectation options sourceCount quarantine =
      pure (expectationOf options sourceCount (quarantined table) indexed) := by
  have length := length_selectQuarantined few
  obtain ⟨answer, answered, named, found⟩ :=
    truthful ((selectQuarantined table).filterMap id) fun id member => by
      rw [← toFinset_selectQuarantined few]
      exact List.mem_toFinset.mpr member
  have alreadyIndexed :
      (answer.filter Doc.found).length =
        (quarantined table ∩ indexed).card := by
    rw [length_found named found,
      ← List.toFinset_card_of_nodup ((nodup_selectQuarantined few).filter _),
      List.toFinset_filter, toFinset_selectQuarantined few]
    congr 1
    ext recordId
    simp
  have split := Finset.card_sdiff_add_card_inter (quarantined table) indexed
  have missing :
      ((quarantined table).card : Int) - (quarantined table ∩ indexed).card =
        (quarantined table \ indexed).card := by
    omega
  simp only [computeExpectation, rows, Option.getD_some, List.length_map,
    length, not_lt.mpr few, if_false]
  by_cases nonempty : 0 < (quarantined table).card
  · simp only [nonempty, if_true, answered, alreadyIndexed, missing,
      expectationOf]
  · have isEmpty : quarantined table = ∅ :=
      Finset.card_eq_zero.mp (Nat.le_zero.mp (not_lt.mp nonempty))
    simp [isEmpty, expectationOf]

end Expectation

/-! ### The criterion -/

/-- A query and an `_mget` that are answered truthfully. -/
structure Quarantine.Answers
    (quarantine : Quarantine)
    (table : List DLQEntry)
    (indexed : Finset Nat) : Prop where
  rows : quarantine.rows = some (selectQuarantined table)
  docs : Truthful quarantine.docs indexed (quarantined table)

/--
The source rows, the index and the queue are these, and stay so.  The first
`_count` is answered; later ones may be missing.
-/
structure Environment.Observes
    (environment : Environment)
    (table : List DLQEntry)
    (source indexed : Finset Nat) : Prop where
  counted : environment.counted = some [(source.card : Int)]
  quarantine : environment.quarantine.Answers table indexed
  count : environment.count = some (indexed.card : Int)
  polls :
    ∀ poll ∈ environment.polls,
      poll.quarantine.Answers table indexed ∧
        ∀ count ∈ poll.count, count = (indexed.card : Int)

/-- The loop has seen these sets. -/
structure Parity.Sees
    (parity : Parity)
    (expectation : Expectation)
    (indexed : Finset Nat) : Prop where
  esCount : parity.esCount = some (indexed.card : Int)
  expectation : parity.expectation = expectation

/-- `esParity` and `zeroDuplicates`. -/
def Result.ElasticsearchPart (result : Result) : Prop :=
  result.evaluation.esParity = true ∧ result.evaluation.zeroDuplicates = true

section Criterion

variable
  {options : Options}
  {environment : Environment}
  {sourceCount : Int}
  {table : List DLQEntry}
  {source indexed : Finset Nat}
  {parity : Parity}

/-- An iteration sees them again. -/
theorem Parity.Sees.ask
    {poll : Poll}
    {expectation next : Expectation}
    (sees : parity.Sees expectation indexed)
    (counts : ∀ count ∈ poll.count, count = (indexed.card : Int)) :
    (parity.ask poll next).Sees next indexed := by
  refine ⟨?_, rfl⟩
  rw [Parity.ask]
  split
  · exact sees.esCount
  · cases answered : poll.count with
    | none => exact sees.esCount
    | some count =>
        rw [counts count answered]
        rfl

/-- The loop ends with them, or goes on with its clock in the budget. -/
theorem awaitParity_sees
    (parityStart remainingMs : Int)
    {polls : List Poll}
    (sees :
      parity.Sees
        (expectationOf options sourceCount (quarantined table) indexed) indexed)
    (few : (quarantined table).card ≤ maxCrosschecked)
    (answers :
      ∀ poll ∈ polls,
        poll.quarantine.Answers table indexed ∧
          ∀ count ∈ poll.count, count = (indexed.card : Int)) :
    (awaitParity options sourceCount parityStart remainingMs parity polls =
        .running ∧
      ∀ poll ∈ polls, poll.now - parityStart < remainingMs) ∨
      ∃ final,
        awaitParity options sourceCount parityStart remainingMs parity polls =
            pure final ∧
          final.Sees
            (expectationOf options sourceCount (quarantined table) indexed)
            indexed := by
  induction polls generalizing parity with
  | nil =>
      rw [awaitParity]
      split
      · exact .inr ⟨parity, rfl, sees⟩
      · exact .inl ⟨rfl, List.forall_mem_nil _⟩
  | cons poll rest inductionHypothesis =>
      rw [awaitParity]
      split
      · exact .inr ⟨parity, rfl, sees⟩
      · split
        · rename_i inTime
          obtain ⟨⟨rows, docs⟩, counts⟩ := answers poll List.mem_cons_self
          rw [Parity.observe, computeExpectation_eq few rows docs, pure_bind,
            pure_bind]
          have restAnswers := List.forall_mem_of_forall_mem_cons answers
          rcases inductionHypothesis (sees.ask counts) restAnswers with
            ⟨goesOn, restInTime⟩ | ends
          · exact .inl ⟨goesOn, List.forall_mem_cons.mpr ⟨inTime, restInTime⟩⟩
          · exact .inr ends
        · exact .inr ⟨parity, rfl, sees⟩

/-- The variables before the loop. -/
def Environment.initial
    (environment : Environment)
    (expectation : Expectation) : Parity where
  esCount := environment.count
  consumerMetrics := environment.consumer
  expectation

/-- The loop starts with what is there. -/
theorem Environment.Observes.initial
    (observes : environment.Observes table source indexed)
    (expectation : Expectation) :
    (environment.initial expectation).Sees expectation indexed :=
  ⟨observes.count, rfl⟩

/-- The gate is its loop and what it concludes from it. -/
theorem runGate2_eq
    (observes : environment.Observes table source indexed)
    (few : (quarantined table).card ≤ maxCrosschecked)
    (nonempty : source.Nonempty) :
    runGate2 options environment =
      awaitParity options source.card environment.parityStart
          (remainingMs options environment)
          (environment.initial
            (expectationOf options source.card (quarantined table) indexed))
          environment.polls >>=
        conclude environment source.card := by
  have positive : ¬ (source.card : Int) ≤ 0 := by
    have card := nonempty.card_pos
    omega
  have computed :
      computeExpectation options source.card environment.quarantine =
        pure
          (expectationOf options source.card (quarantined table) indexed) :=
    computeExpectation_eq few observes.quarantine.rows observes.quarantine.docs
  simp only [runGate2, observes.counted, GateRun.awaited, pure_bind,
    List.headD_cons, positive, if_false, computed]
  rfl

/-- The gate ends with the evaluation of what is there. -/
theorem exists_result
    (observes : environment.Observes table source indexed)
    (few : (quarantined table).card ≤ maxCrosschecked)
    (nonempty : source.Nonempty)
    (ends : runGate2 options environment ≠ .running) :
    ∃ parity : Parity,
      runGate2 options environment =
          pure (evaluate environment source.card indexed.card parity) ∧
        parity.expectation =
          expectationOf options source.card (quarantined table) indexed := by
  rw [runGate2_eq observes few nonempty] at ends ⊢
  rcases
    awaitParity_sees environment.parityStart (remainingMs options environment)
      (observes.initial _) few observes.polls with
    ⟨goesOn, _⟩ | ⟨final, finishes, sees⟩
  · rw [goesOn] at ends
    exact (ends rfl).elim
  · rw [finishes, pure_bind, conclude, sees.esCount]
    exact ⟨final, rfl, sees.expectation⟩

/-- It ends at the latest when its budget is used up. -/
theorem runGate2_ends
    (observes : environment.Observes table source indexed)
    (few : (quarantined table).card ≤ maxCrosschecked)
    (nonempty : source.Nonempty)
    (expired :
      ∃ poll ∈ environment.polls,
        remainingMs options environment ≤
          poll.now - environment.parityStart) :
    runGate2 options environment ≠ .running := by
  rw [runGate2_eq observes few nonempty]
  rcases
    awaitParity_sees environment.parityStart (remainingMs options environment)
      (observes.initial _) few observes.polls with
    ⟨_, inTime⟩ | ⟨final, finishes, sees⟩
  · obtain ⟨poll, member, late⟩ := expired
    exact absurd (inTime poll member) (not_lt.mpr late)
  · rw [finishes, pure_bind, conclude, sees.esCount]
    intro running
    cases running

/--
The Elasticsearch part of the gate holds exactly when every source row is
indexed or quarantined.
-/
theorem elasticsearchPart_iff
    (expected : options.expectedSinkCount = none)
    (observes : environment.Observes table source indexed)
    (indexedSubset : indexed ⊆ source)
    (quarantinedSubset : quarantined table ⊆ source)
    (nonempty : source.Nonempty)
    (few : (quarantined table).card ≤ maxCrosschecked)
    (ends : runGate2 options environment ≠ .running) :
    (∃ result,
        runGate2 options environment = pure result ∧
          result.ElasticsearchPart) ↔
      indexed ∪ quarantined table = source := by
  rw [← card_add_card_sdiff_iff indexedSubset quarantinedSubset]
  obtain ⟨parity, returns, expectation⟩ :=
    exists_result observes few nonempty ends
  have atMost := Finset.card_le_card indexedSubset
  have part :
      (evaluate environment source.card indexed.card parity).ElasticsearchPart ↔
        (indexed.card : Int) =
          source.card - (quarantined table \ indexed).card := by
    simp only [Result.ElasticsearchPart, evaluate, evaluateGate2Deduplication,
      expectation, expectationOf, expected, Option.getD_some, Option.getD_none,
      decide_eq_true_eq]
    omega
  constructor
  · rintro ⟨result, isResult, holds⟩
    rw [returns, GateRun.pure_eq_pure] at isResult
    subst isResult
    have parity := part.mp holds
    omega
  · intro cover
    exact ⟨_, returns, part.mpr (by omega)⟩

end Criterion

namespace Sample

/-- An index of these records answers. -/
def holding (indexed : List Nat) (ids : List Text) : Option (List Doc) :=
  some
    (ids.map fun id =>
      { id
        found :=
          indexed.any fun recordId =>
            ElasticsearchSink.documentIdOf recordId = id })

/-- A row of the queue. -/
def entry
    (recordId : Option Nat)
    (sinkTarget : SinkTarget)
    (status : DLQStatus) : DLQEntry where
  id := 1
  recordId
  recordUuid := none
  sinkTarget
  payload := .null
  errorCode := ""
  errorMessage := ""
  stackTrace := none
  retryCount := 0
  status
  createdAt := 0
  lastRetriedAt := none

/-- The second and the third record are quarantined. -/
def table : List DLQEntry :=
  [entry (some 3) .all .pending, entry none .elasticsearch .pending,
    entry (some 2) .elasticsearch .abandoned, entry (some 3) .all .retrying,
    entry (some 1) .rabbitmq .pending, entry (some 1) .all .resolved]

/-- Of three records the first two are indexed. -/
def environment : Environment where
  gateStart := 0
  counted := some [3]
  quarantine :=
    { rows := some (selectQuarantined table), docs := holding [1, 2] }
  quiesced := true
  count := some 2
  consumer := some { uniqueProcessed := some 2, duplicatesPrevented := none }
  settledAt := 0
  parityStart := 0
  polls := []

/-- An index answers for what it holds. -/
theorem holding_truthful (indexed : List Nat) (asked : Finset Nat) :
    Truthful (holding indexed) indexed.toFinset asked := by
  intro ids _
  refine ⟨_, rfl, ?_, ?_⟩
  · simp [Function.comp_def]
  · intro doc member
    obtain ⟨id, _, rfl⟩ := List.mem_map.mp member
    simp

/-- Nothing changes while the gate looks. -/
theorem observes : environment.Observes table {1, 2, 3} {1, 2} where
  counted := rfl
  quarantine := ⟨rfl, holding_truthful [1, 2] _⟩
  count := rfl
  polls := by simp [environment]

end Sample

/-- One record is both indexed and quarantined, and one is only quarantined. -/
theorem elasticsearchPart_sample :
    ∃ result,
      runGate2 {} Sample.environment = pure result ∧
        result.ElasticsearchPart := by
  refine
    (elasticsearchPart_iff rfl Sample.observes (by decide) (by decide)
      (by decide) (by decide) ?_).mpr (by decide)
  intro running
  cases running

end Replication.Gate2
