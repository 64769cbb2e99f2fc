import Replication.Harness
import Replication.ParseInt
import Mathlib

namespace Replication.Verification

/-!
# The verification command

`parseArgs` reads the arguments, and `runVerification` runs the gates that they
ask for one after the other.  It collects what each of them reports, stops at the
first failure if it is told to, and the exit code of the command is the verdict.
-/

/-- What a runner returns; an empty output is one that is missing. -/
structure GateResult where
  passed : Bool
  output : Text
  deriving DecidableEq, Repr

/-- What a runner may throw. -/
inductive Thrown where
  | nullish
  /-- Anything with a message, which may be empty or missing. -/
  | error (message : Text)
  deriving DecidableEq, Repr

/-- How the call of a runner is answered. -/
inductive Answer where
  | returned (res : Option GateResult)
  | threw (err : Thrown)
  deriving DecidableEq, Repr

/-- What `parseArgs` returns. -/
structure Options where
  gate : Option Nat := none
  quick : Bool := false
  bail : Bool := false
  help : Bool := false
  deriving DecidableEq, Repr

/-- What a runner is called with, beside `silent`. -/
structure GateOpts where
  closeDb : Bool := false
  maxWaitMs : Option Nat := none
  outageDurationMs : Option Nat := none
  maxRecoveryWaitMs : Option Nat := none
  deriving DecidableEq, Repr

/-- One element of `results`. -/
structure Entry where
  gate : Nat
  passed : Bool
  output : Text
  details : Option GateResult
  error : Option Thrown
  deriving DecidableEq, Repr

/-- Why `runVerification` rejects. -/
inductive Fatal where
  | noRunner (gate : Nat)
  /-- `err.message` of something nullish. -/
  | typeError
  deriving DecidableEq, Repr

/-- What `runVerification` returns, beside the time it has taken. -/
structure Verdict where
  success : Bool
  passedCount : Nat
  totalCount : Nat
  results : List Entry
  report : Text
  deriving DecidableEq, Repr

/-- The runners by the number of their gate. -/
abbrev Runners := Nat → GateOpts → Answer

/-! ### Arguments -/

/-- `val >= 1 && val <= 5` for what `parseInt` reads. -/
def gateOf (text : Text) : Option Nat :=
  (((parseInt text).bind WholeNumber.toInt?).filter fun val =>
    1 ≤ val ∧ val ≤ 5).map Int.toNat

/-- The message for `--gate` and `-g`. -/
def invalidGate (arg : Text) : Text :=
  "Invalid --gate argument ".toList ++ '"' :: arg ++
    '"' :: ". Must be an integer 1 through 5.".toList

/-- The texts of the pattern `[1-5]`. -/
def gateDigits : List Text := [['1'], ['2'], ['3'], ['4'], ['5']]

/-- `parseArgs`, from the options that have been read. -/
def parseFrom (options : Options) : List Text → Except Text Options
  | [] => .ok options
  | arg :: rest =>
      if arg = "--gate".toList ∨ arg = "-g".toList then
        match rest with
        | [] => .error (invalidGate "undefined".toList)
        | value :: others =>
            match gateOf value with
            | some val => parseFrom { options with gate := some val } others
            | none => .error (invalidGate value)
      else if "--gate=".toList.isPrefixOf arg then
        -- what stands between the first and the second `=`
        match gateOf ((arg.drop 7).takeWhile (· ≠ '=')) with
        | some val => parseFrom { options with gate := some val } rest
        | none =>
            .error
              "Invalid --gate argument. Must be an integer 1 through 5.".toList
      else if gateDigits.contains arg then
        parseFrom
          { options with
            gate := ((parseInt arg).bind WholeNumber.toInt?).map Int.toNat }
          rest
      else if arg = "--quick".toList ∨ arg = "-q".toList then
        parseFrom { options with quick := true } rest
      else if arg = "--bail".toList then
        parseFrom { options with bail := true } rest
      else if arg = "--help".toList ∨ arg = "-h".toList then
        parseFrom { options with help := true } rest
      else
        parseFrom options rest

/-- `parseArgs`. -/
def parseArgs (args : List Text) : Except Text Options :=
  parseFrom {} args

/-! ### Runs -/

/-- `gateNames`. -/
def gateNames : Nat → Text
  | 1 => "G1 resume after kill".toList
  | 2 => "G2 no duplicates".toList
  | 3 => "G3 sink outage".toList
  | 4 => "G4 partial batch failure".toList
  | 5 => "G5 observability".toList
  | _ => "undefined".toList

/-- `targetGates`: a gate that is asked for is truthy. -/
def Options.targetGates (options : Options) : List Nat :=
  match options.gate.filter (· ≠ 0) with
  | some gate => [gate]
  | none => [1, 2, 3, 4, 5]

/-- `gateOpts` of a turn. -/
def gateOpts (quick : Bool) (g : Nat) : GateOpts :=
  if quick then
    match g with
    | 1 => { maxWaitMs := some 15000 }
    | 2 => { maxWaitMs := some 10000 }
    | 3 => { outageDurationMs := some 5000, maxRecoveryWaitMs := some 15000 }
    | 4 => { maxWaitMs := some 10000 }
    | 5 => { maxWaitMs := some 3000 }
    | _ => {}
  else
    {}

/-- `Boolean(res?.passed)`, and a runner that throws has not passed. -/
def Answer.passes : Answer → Bool
  | .returned res => (res.map GateResult.passed).getD false
  | .threw _ => false

/-- What is pushed for an answer. -/
def entry (g : Nat) (answer : Answer) : Except Fatal Entry :=
  match answer with
  | .returned res =>
      let status := if answer.passes then "PASS".toList else "FAIL".toList
      let output := (res.map GateResult.output).getD []
      .ok
        { gate := g
          passed := answer.passes
          output :=
            if output = [] then
              formatGateResult (gateNames g) status []
            else
              output
          details := res
          error := none }
  | .threw .nullish => .error .typeError
  | .threw (.error message) =>
      .ok
        { gate := g
          passed := false
          output :=
            formatGateResult (gateNames g) "FAIL".toList
              (if message = [] then "runner error".toList else message)
          details := none
          error := some (.error message) }

/-- The turn of a gate: its runner is looked up and called. -/
def turn
    (runners : Runners)
    (quick : Bool)
    (g : Nat) : Except Fatal Entry :=
  if 1 ≤ g ∧ g ≤ 5 then
    entry g (runners g (gateOpts quick g))
  else
    .error (.noRunner g)

/-- The variables of the loop. -/
structure Loop where
  results : List Entry
  allPassed : Bool

/-- The loop over `targetGates`. -/
def runGates
    (runners : Runners)
    (quick bail : Bool) :
    List Nat → Loop → Except Fatal Loop
  | [], loop => .ok loop
  | g :: rest, loop =>
      match turn runners quick g with
      | .error fatal => .error fatal
      | .ok entry =>
          let after : Loop :=
            { results := loop.results ++ [entry]
              allPassed := loop.allPassed && entry.passed }
          if entry.passed = false ∧ bail = true then
            .ok after
          else
            runGates runners quick bail rest after

/-- Several lines, joined with `\n`. -/
def lines (texts : List Text) : Text :=
  ['\n'].intercalate texts

/-- `separator`. -/
def separator : Text := List.replicate 70 '='

/-- `bannerHeader`. -/
def bannerHeader : Text :=
  lines
    [separator,
      List.replicate 10 ' ' ++
        "KILL IT TWICE: RESILIENCE VERIFICATION SUITE".toList ++
        List.replicate 15 ' ',
      separator]

/-- `summaryTitle`. -/
def summaryTitle
    (targetGates : List Nat)
    (allPassed : Bool)
    (passedCount totalCount : Nat) : Text :=
  let counts :=
    JsNumber.natText passedCount ++ '/' :: JsNumber.natText totalCount
  if allPassed then
    if totalCount = 1 then
      "GATE ".toList ++
        ((targetGates.head?.map JsNumber.natText).getD "undefined".toList ++
          " RESILIENCE GATE PASSED [1/1]".toList)
    else
      "ALL RESILIENCE GATES PASSED [".toList ++ (counts ++ [']'])
  else
    "VERIFICATION FAILED [".toList ++ (counts ++ " passed]".toList)

/-- What is returned for the variables that the loop has left. -/
def verdict
    (targetGates : List Nat)
    (loop : Loop) : Verdict :=
  let passedCount := (loop.results.filter Entry.passed).length
  let totalCount := loop.results.length
  { success := loop.allPassed
    passedCount
    totalCount
    results := loop.results
    report :=
      lines
        (bannerHeader :: loop.results.map Entry.output ++
          [separator,
            summaryTitle targetGates loop.allPassed passedCount totalCount,
            separator]) }

/-- `runVerification`. -/
def runVerification
    (runners : Runners)
    (options : Options) : Except Fatal Verdict :=
  (runGates runners options.quick options.bail options.targetGates
    ⟨[], true⟩).map (verdict options.targetGates)

/-- The exit code of the command. -/
def exitCode
    (runners : Runners)
    (args : List Text) : Nat :=
  match parseArgs args with
  | .error _ => 1
  | .ok parsed =>
      if parsed.help then
        0
      else
        match runVerification runners parsed with
        | .ok result => if result.success then 0 else 1
        | .error _ => 1

/-! ### What the arguments ask for -/

/-- The gates 1 through 5. -/
def IsGate (g : Nat) : Prop := 1 ≤ g ∧ g ≤ 5

/-- Only one of them can be asked for. -/
def Options.InRange (options : Options) : Prop :=
  ∀ g ∈ options.gate, IsGate g

/-- What `gateOf` admits. -/
theorem isGate_of_gateOf
    {text : Text}
    {g : Nat}
    (admitted : gateOf text = some g) : IsGate g := by
  obtain ⟨val, read, rfl⟩ := Option.map_eq_some_iff.mp admitted
  obtain ⟨-, inRange⟩ := Option.filter_eq_some_iff.mp read
  obtain ⟨low, high⟩ := of_decide_eq_true inRange
  unfold IsGate
  omega

/-- A digit of the pattern is one of the gates. -/
theorem isGate_of_gateDigits
    {arg : Text}
    {g : Nat}
    (isDigit : arg ∈ gateDigits)
    (read :
      ((parseInt arg).bind WholeNumber.toInt?).map Int.toNat =
        some g) : IsGate g := by
  have all :
      ∀ digit ∈ gateDigits,
        gateOf digit =
          ((parseInt digit).bind WholeNumber.toInt?).map Int.toNat := by
    decide +kernel
  exact isGate_of_gateOf ((all arg isDigit).trans read)

/-- Whatever is read, the gate stays in range. -/
theorem parseFrom_inRange
    {options parsed : Options}
    {args : List Text}
    (inRange : options.InRange)
    (read : parseFrom options args = .ok parsed) : parsed.InRange := by
  fun_induction parseFrom options args with
  | case1 options =>
      cases read
      exact inRange
  | case2 => cases read
  | case3 options arg _ value others val admitted inductionHypothesis =>
      refine inductionHypothesis (fun g isVal => ?_) read
      obtain rfl := Option.some.inj isVal
      exact isGate_of_gateOf admitted
  | case4 => cases read
  | case5 options arg rest _ _ val admitted inductionHypothesis =>
      refine inductionHypothesis (fun g isVal => ?_) read
      obtain rfl := Option.some.inj isVal
      exact isGate_of_gateOf admitted
  | case6 => cases read
  | case7 options arg rest _ _ isDigit inductionHypothesis =>
      exact inductionHypothesis
        (fun g => isGate_of_gateDigits (List.contains_iff_mem.mp isDigit))
        read
  | case8 options arg rest _ _ _ _ inductionHypothesis =>
      exact inductionHypothesis inRange read
  | case9 options arg rest _ _ _ inductionHypothesis =>
      exact inductionHypothesis inRange read
  | case10 options arg rest _ _ _ _ _ _ inductionHypothesis =>
      exact inductionHypothesis inRange read
  | case11 options arg rest _ _ _ _ _ _ inductionHypothesis =>
      exact inductionHypothesis inRange read

/-- Every gate that is run is one of the five. -/
theorem Options.InRange.targetGates
    {options : Options}
    (inRange : options.InRange) :
    ∀ g ∈ options.targetGates, IsGate g := by
  unfold Options.targetGates
  cases asked : options.gate.filter (· ≠ 0) with
  | none =>
      unfold IsGate
      decide
  | some gate =>
      obtain ⟨isGate, -⟩ := Option.filter_eq_some_iff.mp asked
      intro g member
      rw [List.mem_singleton.mp member]
      exact inRange gate isGate

/-! ### What the gates report -/

section Runs

variable
  {runners : Runners}
  {quick bail : Bool}
  {targets : List Nat}
  {results : List Entry}

/-- How the runner of a gate is answered. -/
def answerOf
    (runners : Runners)
    (quick : Bool)
    (g : Nat) : Answer :=
  runners g (gateOpts quick g)

/--
The results are those of the first gates, in order.  They are those of all of
them, unless the run bails: then it ends with the first one that fails.
-/
structure Ran
    (runners : Runners)
    (quick bail : Bool)
    (targets : List Nat)
    (results : List Entry) : Prop where
  judged :
    List.Forall₂
      (fun g result => entry g (answerOf runners quick g) = .ok result)
      (targets.take results.length) results
  goesOn :
    bail = true → ∀ result ∈ results.dropLast, result.passed = true
  stopped :
    results.length < targets.length →
      bail = true ∧
        ∃ last ∈ results.getLast?, last.passed = false

/-- A result tells whether the runner has passed. -/
theorem passed_of_entry
    {g : Nat}
    {answer : Answer}
    {result : Entry}
    (pushed : entry g answer = .ok result) :
    result.passed = answer.passes := by
  unfold entry at pushed
  split at pushed
  · cases pushed
    rfl
  · cases pushed
  · cases pushed
    rfl

/-- Nothing is pushed if something nullish is thrown. -/
theorem threw_of_entry
    {g : Nat}
    {answer : Answer}
    {fatal : Fatal}
    (rejected : entry g answer = .error fatal) :
    fatal = .typeError ∧ answer = .threw .nullish := by
  unfold entry at rejected
  split at rejected
  · cases rejected
  · cases rejected
    exact ⟨rfl, rfl⟩
  · cases rejected

/-- One more gate before the others. -/
theorem Ran.cons
    {g : Nat}
    {result : Entry}
    (pushed : entry g (answerOf runners quick g) = .ok result)
    (passes : bail = true → result.passed = true)
    (later : Ran runners quick bail targets results) :
    Ran runners quick bail (g :: targets) (result :: results) := by
  refine ⟨.cons pushed later.judged, ?_, ?_⟩
  · intro bails
    cases results with
    | nil => exact List.forall_mem_nil _
    | cons next rest =>
        rw [List.dropLast_cons_cons]
        exact List.forall_mem_cons.mpr ⟨passes bails, later.goesOn bails⟩
  · intro fewer
    obtain ⟨bails, last, isLast, failed⟩ :=
      later.stopped (Nat.lt_of_succ_lt_succ fewer)
    refine ⟨bails, last, ?_, failed⟩
    rw [List.getLast?_cons, Option.mem_def.mp isLast]
    rfl

/-- What the loop leaves. -/
theorem runGates_spec
    (inRange : ∀ g ∈ targets, IsGate g)
    (loop : Loop) :
    match runGates runners quick bail targets loop with
    | .ok after =>
        ∃ results,
          after =
              ⟨loop.results ++ results,
                loop.allPassed && results.all Entry.passed⟩ ∧
            Ran runners quick bail targets results
    | .error fatal =>
        fatal = .typeError ∧
          ∃ g ∈ targets, answerOf runners quick g = .threw .nullish := by
  induction targets generalizing loop with
  | nil =>
      refine ⟨[], ?_, .nil, ?_, ?_⟩
      · simp
      · exact fun _ => List.forall_mem_nil _
      · exact fun fewer => absurd fewer (Nat.lt_irrefl 0)
  | cons g rest inductionHypothesis =>
      obtain ⟨isGate, others⟩ := List.forall_mem_cons.mp inRange
      have turned :
          turn runners quick g = entry g (answerOf runners quick g) :=
        if_pos isGate
      simp only [runGates, turned]
      cases pushed : entry g (answerOf runners quick g) with
      | error fatal =>
          obtain ⟨isTypeError, threw⟩ := threw_of_entry pushed
          exact ⟨isTypeError, g, List.mem_cons_self, threw⟩
      | ok result =>
          dsimp only
          by_cases stops : result.passed = false ∧ bail = true
          · rw [if_pos stops]
            refine ⟨[result], by simp, .cons pushed .nil, ?_, ?_⟩
            · exact fun _ => List.forall_mem_nil _
            · exact fun _ => ⟨stops.2, result, rfl, stops.1⟩
          · rw [if_neg stops]
            have passes : bail = true → result.passed = true := by
              intro bails
              by_contra failed
              exact stops ⟨Bool.eq_false_iff.mpr failed, bails⟩
            have later :=
              inductionHypothesis others
                ⟨loop.results ++ [result], loop.allPassed && result.passed⟩
            split at later
            · rename_i after ended
              obtain ⟨results, rfl, ran⟩ := later
              refine ⟨result :: results, ?_, ran.cons pushed passes⟩
              simp [Bool.and_assoc]
            · rename_i fatal ended
              obtain ⟨isTypeError, other, member, threw⟩ := later
              exact ⟨isTypeError, other, List.mem_cons_of_mem _ member, threw⟩

/-- Each result says of its gate whether that has passed. -/
theorem Ran.map_passed
    (ran : Ran runners quick bail targets results) :
    results.map Entry.passed =
      (targets.take results.length).map fun g =>
        (answerOf runners quick g).passes := by
  have paired :
      List.Forall₂ Eq (results.map Entry.passed)
        ((targets.take results.length).map fun g =>
          (answerOf runners quick g).passes) :=
    List.forall₂_map_left_iff.mpr
      (List.forall₂_map_right_iff.mpr
        (ran.judged.imp fun _ _ => passed_of_entry).flip)
  rwa [List.forall₂_eq_eq_eq] at paired

/-- No gate is run that is not asked for. -/
theorem Ran.length_le
    (ran : Ran runners quick bail targets results) :
    results.length ≤ targets.length := by
  rw [← ran.judged.length_eq]
  exact List.length_take_le' _ _

/-- If no gate that has been run has failed, all have been run. -/
theorem Ran.length_eq
    (ran : Ran runners quick bail targets results)
    (all : ∀ result ∈ results, result.passed = true) :
    results.length = targets.length := by
  refine Nat.le_antisymm ran.length_le (Nat.le_of_not_lt fun fewer => ?_)
  obtain ⟨-, last, isLast, failed⟩ := ran.stopped fewer
  rw [all last (List.mem_of_getLast? isLast)] at failed
  cases failed

/-- All results are those of gates that pass exactly if all gates pass. -/
theorem Ran.all_passed_iff
    (ran : Ran runners quick bail targets results) :
    (∀ result ∈ results, result.passed = true) ↔
      ∀ g ∈ targets, (answerOf runners quick g).passes = true := by
  have agree := ran.map_passed
  constructor
  · intro all g member
    rw [ran.length_eq all, List.take_length] at agree
    have isResult :
        (answerOf runners quick g).passes ∈ results.map Entry.passed :=
      agree ▸ List.mem_map_of_mem member
    obtain ⟨result, isMember, same⟩ := List.mem_map.mp isResult
    rw [← same]
    exact all result isMember
  · intro all result member
    have isGate := agree ▸ List.mem_map_of_mem member
    obtain ⟨g, isTarget, same⟩ := List.mem_map.mp isGate
    rw [← same]
    exact all g (List.mem_of_mem_take isTarget)

/-- As many results pass as there are gates exactly if all of them do. -/
theorem Ran.passedCount_eq_iff
    (ran : Ran runners quick bail targets results) :
    (results.filter Entry.passed).length = targets.length ↔
      ∀ result ∈ results, result.passed = true := by
  constructor
  · intro count
    refine List.length_filter_eq_length_iff.mp
      (Nat.le_antisymm (List.length_filter_le _ _) ?_)
    rw [count]
    exact ran.length_le
  · intro all
    rw [List.filter_eq_self.mpr all, ran.length_eq all]

/-- What `runVerification` returns is what the gates have reported. -/
theorem runVerification_spec
    {options : Options}
    (runners : Runners)
    (inRange : options.InRange) :
    match runVerification runners options with
    | .ok result =>
        Ran runners options.quick options.bail options.targetGates
            result.results ∧
          (result.success = true ↔
            ∀ g ∈ options.targetGates,
              (answerOf runners options.quick g).passes = true) ∧
          (result.success = true ↔
            result.passedCount = options.targetGates.length)
    | .error fatal =>
        fatal = .typeError ∧
          ∃ g ∈ options.targetGates,
            answerOf runners options.quick g = .threw .nullish := by
  have spec :=
    @runGates_spec runners options.quick options.bail options.targetGates
      inRange.targetGates ⟨[], true⟩
  unfold runVerification
  split at spec
  · rename_i after ended
    obtain ⟨results, rfl, ran⟩ := spec
    have success :
        (results.all Entry.passed = true) ↔
          ∀ result ∈ results, result.passed = true :=
      List.all_eq_true
    rw [ended]
    simp only [Except.map, verdict, List.nil_append, Bool.true_and]
    exact ⟨ran, success.trans ran.all_passed_iff,
      success.trans ran.passedCount_eq_iff.symm⟩
  · rename_i fatal ended
    rw [ended]
    exact spec

/-- What the arguments ask for is in range. -/
theorem parseArgs_inRange
    {args : List Text}
    {options : Options}
    (parsed : parseArgs args = .ok options) : options.InRange :=
  parseFrom_inRange (fun _ none => absurd none.symm (Option.some_ne_none _))
    parsed

/-- The exit code for arguments that can be read. -/
theorem exitCode_of_parseArgs
    {args : List Text}
    {options : Options}
    (runners : Runners)
    (parsed : parseArgs args = .ok options) :
    exitCode runners args = 0 ↔
      options.help = true ∨
        ∀ g ∈ options.targetGates,
          (answerOf runners options.quick g).passes = true := by
  have spec := runVerification_spec runners (parseArgs_inRange parsed)
  simp only [exitCode, parsed]
  cases asked : options.help with
  | true => simp
  | false =>
      simp only [Bool.false_eq_true, if_false, false_or]
      split at spec
      · rename_i result _
        obtain ⟨-, success, -⟩ := spec
        rw [← success]
        cases result.success <;> simp
      · obtain ⟨-, g, member, threw⟩ := spec
        refine iff_of_false Nat.one_ne_zero fun all => ?_
        have passes := all g member
        rw [threw] at passes
        cases passes

end Runs

/--
The command succeeds exactly if its arguments can be read, and they ask for help
or every gate that they ask for passes.  What it reports is what the gates have
answered, in order, and no gate is left out unless an earlier one has failed and
the run bails.  There is a report unless a runner throws something nullish.
-/
theorem succeeds_iff_gates_pass
    (runners : Runners)
    (args : List Text) :
    (exitCode runners args = 0 ↔
      ∃ options,
        parseArgs args = .ok options ∧
          (options.help = true ∨
            ∀ g ∈ options.targetGates,
              (answerOf runners options.quick g).passes = true)) ∧
      ∀ options, parseArgs args = .ok options →
        (∀ g ∈ options.targetGates, IsGate g) ∧
          match runVerification runners options with
          | .ok result =>
              Ran runners options.quick options.bail options.targetGates
                  result.results ∧
                (result.success = true ↔
                  result.passedCount = options.targetGates.length)
          | .error fatal =>
              fatal = .typeError ∧
                ∃ g ∈ options.targetGates,
                  answerOf runners options.quick g = .threw .nullish := by
  refine ⟨?_, fun options parsed => ?_⟩
  · cases parsed : parseArgs args with
    | error message =>
        simp [exitCode, parsed]
    | ok options =>
        rw [exitCode_of_parseArgs runners parsed]
        constructor
        · exact fun succeeds => ⟨options, rfl, succeeds⟩
        · rintro ⟨_, ⟨⟩, succeeds⟩
          exact succeeds
  · have inRange := parseArgs_inRange parsed
    have spec := runVerification_spec runners inRange
    refine ⟨inRange.targetGates, ?_⟩
    split at spec
    · obtain ⟨ran, -, count⟩ := spec
      exact ⟨ran, count⟩
    · exact spec

/-- The third gate fails, and throws even a nullish value if it is not hurried. -/
def sampleRunners : Runners
  | 3, opts =>
      if opts.maxRecoveryWaitMs = some 15000 then
        .threw (.error "not recovered".toList)
      else
        .threw .nullish
  | _, _ => .returned (some ⟨true, []⟩)

/-- A quick run that bails ends after the third gate. -/
theorem succeeds_iff_gates_pass_bails :
    ∃ options result,
      parseArgs ["--quick".toList, "--bail".toList] = .ok options ∧
        runVerification sampleRunners options = .ok result ∧
        Ran sampleRunners true true [1, 2, 3, 4, 5] result.results ∧
        result.results.map Entry.passed = [true, true, false] ∧
        exitCode sampleRunners ["--quick".toList, "--bail".toList] ≠ 0 := by
  obtain ⟨succeeds, reports⟩ :=
    succeeds_iff_gates_pass sampleRunners ["--quick".toList, "--bail".toList]
  have parsed :
      parseArgs ["--quick".toList, "--bail".toList] =
        .ok { quick := true, bail := true } := by
    decide +kernel
  obtain ⟨-, ran, -⟩ := reports _ parsed
  refine ⟨_, _, parsed, rfl, ran, by decide +kernel, ?_⟩
  rw [ne_eq, succeeds]
  rintro ⟨options, isParsed, asked⟩
  cases parsed.symm.trans isParsed
  rcases asked with help | all
  · cases help
  · cases all 3 (by decide)

end Replication.Verification
