import Mathlib.Order.Defs.PartialOrder

namespace Replication

/-!
# Finite runs of guarded step functions

A system is a partial step function on states together with an admission
condition that says which events may be taken in which state.  A run is a finite
sequence of admitted steps.  This module holds the rules by which the later
modules reason about runs: the invariant rule, the rule for quantities that only
grow, the rule for weights that every step lowers, and an executable replay that
turns a concrete event list into a run.
-/

section Runs

variable {State Event : Type}

/-- A finite run: every event is admitted in the state in which it is taken. -/
inductive Run
    (step : State → Event → Option State)
    (admits : State → Event → Prop) :
    State → List Event → State → Prop where
  | nil (state : State) :
      Run step admits state [] state
  | cons
      {initial middle final : State}
      {event : Event}
      {rest : List Event}
      (admitted : admits initial event)
      (first : step initial event = some middle)
      (later : Run step admits middle rest final) :
      Run step admits initial (event :: rest) final

namespace Run

variable
  {step : State → Event → Option State}
  {admits : State → Event → Prop}

/-- Two runs whose boundary states agree compose. -/
theorem append
    {initial middle final : State}
    {leading trailing : List Event}
    (first : Run step admits initial leading middle)
    (later : Run step admits middle trailing final) :
    Run step admits initial (leading ++ trailing) final := by
  induction first with
  | nil state =>
      exact later
  | cons admitted head _ inductionHypothesis =>
      exact .cons admitted head (inductionHypothesis later)

/-- A run of two event lists stops in between. -/
theorem split
    {leading trailing : List Event}
    {initial final : State}
    (run : Run step admits initial (leading ++ trailing) final) :
    ∃ middle,
      Run step admits initial leading middle ∧
        Run step admits middle trailing final := by
  induction leading generalizing initial with
  | nil =>
      exact ⟨initial, .nil initial, run⟩
  | cons event rest inductionHypothesis =>
      cases run with
      | cons admitted first later =>
          obtain ⟨middle, leads, trails⟩ := inductionHypothesis later
          exact ⟨middle, .cons admitted first leads, trails⟩

/-- A property kept by every admitted step is kept by every run. -/
theorem invariant
    (Holds : State → Prop)
    (preserved :
      ∀ {before event after},
        Holds before →
        admits before event →
        step before event = some after →
        Holds after)
    {initial final : State}
    {events : List Event}
    (run : Run step admits initial events final)
    (start : Holds initial) :
    Holds final := by
  induction run with
  | nil state =>
      exact start
  | cons admitted first _ inductionHypothesis =>
      exact inductionHypothesis (preserved start admitted first)

/--
A quantity that no admitted step decreases, as long as an invariant holds, is
not decreased by a run.
-/
theorem le_of_step_le
    {Quantity : Type}
    [Preorder Quantity]
    (Holds : State → Prop)
    (quantity : State → Quantity)
    (preserved :
      ∀ {before event after},
        Holds before →
        admits before event →
        step before event = some after →
        Holds after)
    (grows :
      ∀ {before event after},
        Holds before →
        admits before event →
        step before event = some after →
        quantity before ≤ quantity after)
    {initial final : State}
    {events : List Event}
    (run : Run step admits initial events final)
    (start : Holds initial) :
    quantity initial ≤ quantity final := by
  induction run with
  | nil state =>
      exact le_refl _
  | cons admitted first _ inductionHypothesis =>
      exact le_trans (grows start admitted first)
        (inductionHypothesis (preserved start admitted first))

/--
If every admitted step lowers a weight, a run is no longer than the weight it
started with.
-/
theorem length_add_weight_le
    (Holds : State → Prop)
    (weight : State → Nat)
    (preserved :
      ∀ {before event after},
        Holds before →
        admits before event →
        step before event = some after →
        Holds after)
    (lowers :
      ∀ {before event after},
        Holds before →
        admits before event →
        step before event = some after →
        weight after < weight before)
    {initial final : State}
    {events : List Event}
    (run : Run step admits initial events final)
    (start : Holds initial) :
    events.length + weight final ≤ weight initial := by
  induction run with
  | nil state =>
      simp
  | cons admitted first _ inductionHypothesis =>
      have lower := lowers start admitted first
      have rest :=
        inductionHypothesis (preserved start admitted first)
      simp only [List.length_cons]
      omega

/--
An assertion about the state and a tally of the events taken so far, kept by
every admitted step, is kept by every run.
-/
theorem tally
    {Tally : Type}
    (count : Tally → Event → Tally)
    (Holds : Tally → State → Prop)
    (preserved :
      ∀ {taken before event after},
        Holds taken before →
        admits before event →
        step before event = some after →
        Holds (count taken event) after)
    {taken : Tally}
    {initial final : State}
    {events : List Event}
    (run : Run step admits initial events final)
    (start : Holds taken initial) :
    Holds (events.foldl count taken) final := by
  induction run generalizing taken with
  | nil state =>
      exact start
  | cons admitted first _ inductionHypothesis =>
      exact inductionHypothesis (preserved start admitted first)

/-- What the events cost, each in the state in which it is taken. -/
def spent
    (step : State → Event → Option State)
    (cost : State → Event → Nat)
    (state : State) :
    List Event → Nat
  | [] => 0
  | event :: rest =>
      cost state event +
        match step state event with
        | some next => spent step cost next rest
        | none => 0

/--
An assertion about the state and what the events have cost so far, kept by
every admitted step, is kept by every run.
-/
theorem spend
    (cost : State → Event → Nat)
    (Holds : Nat → State → Prop)
    (preserved :
      ∀ {before event after paid},
        Holds paid before →
        admits before event →
        step before event = some after →
        Holds (paid + cost before event) after)
    {paid : Nat}
    {initial final : State}
    {events : List Event}
    (run : Run step admits initial events final)
    (start : Holds paid initial) :
    Holds (paid + spent step cost initial events) final := by
  induction run generalizing paid with
  | nil state =>
      exact start
  | cons admitted first _ inductionHypothesis =>
      have rest := inductionHypothesis (preserved start admitted first)
      rw [Nat.add_assoc] at rest
      simpa only [spent, first] using rest

/-- What holds of every event of a run may be asked of each of its steps. -/
theorem among
    {initial final : State}
    {events : List Event}
    (run : Run step admits initial events final)
    {allowed : Event → Prop}
    (all : ∀ event ∈ events, allowed event) :
    Run step (fun state event => admits state event ∧ allowed event)
      initial events final := by
  induction run with
  | nil state =>
      exact .nil state
  | cons admitted first _ inductionHypothesis =>
      obtain ⟨own, rest⟩ := List.forall_mem_cons.mp all
      exact .cons ⟨admitted, own⟩ first (inductionHypothesis rest)

/-- Weakening the admission condition keeps every run. -/
theorem mono
    {wider : State → Event → Prop}
    (weaker : ∀ {state event}, admits state event → wider state event)
    {initial final : State}
    {events : List Event}
    (run : Run step admits initial events final) :
    Run step wider initial events final := by
  induction run with
  | nil state =>
      exact .nil state
  | cons admitted first _ inductionHypothesis =>
      exact .cons (weaker admitted) first inductionHypothesis

end Run

/-- No admitted step is possible. -/
def Stuck
    (step : State → Event → Option State)
    (admits : State → Event → Prop)
    (state : State) : Prop :=
  ∀ event, admits state event → step state event = none

/-- If every admitted step lowers a weight, some run gets stuck. -/
theorem Run.exists_stuck
    {step : State → Event → Option State}
    {admits : State → Event → Prop}
    (Holds : State → Prop)
    (weight : State → Nat)
    (preserved :
      ∀ {before event after},
        Holds before →
        admits before event →
        step before event = some after →
        Holds after)
    (lowers :
      ∀ {before event after},
        Holds before →
        admits before event →
        step before event = some after →
        weight after < weight before)
    {initial : State}
    (start : Holds initial) :
    ∃ events final,
      Run step admits initial events final ∧ Stuck step admits final := by
  by_cases stuck : Stuck step admits initial
  · exact ⟨[], initial, .nil initial, stuck⟩
  · simp only [Stuck, Classical.not_forall] at stuck
    obtain ⟨event, admitted, enabled⟩ := stuck
    obtain ⟨next, taken⟩ := Option.ne_none_iff_exists'.mp enabled
    have lower := lowers start admitted taken
    obtain ⟨events, final, run, finalStuck⟩ :=
      exists_stuck Holds weight preserved lowers
        (preserved start admitted taken)
    exact ⟨event :: events, final, .cons admitted taken run, finalStuck⟩
termination_by weight initial

/-- Execute an event list, stopping at the first event that is not admitted. -/
def replay
    (step : State → Event → Option State)
    (admits : State → Event → Prop)
    [∀ state event, Decidable (admits state event)]
    (state : State) :
    List Event → Option State
  | [] => some state
  | event :: rest =>
      if admits state event then
        match step state event with
        | some next => replay step admits next rest
        | none => none
      else
        none

/-- A successful replay is a run. -/
theorem Run.of_replay
    {step : State → Event → Option State}
    {admits : State → Event → Prop}
    [∀ state event, Decidable (admits state event)]
    {initial final : State}
    {events : List Event}
    (replayed : replay step admits initial events = some final) :
    Run step admits initial events final := by
  induction events generalizing initial with
  | nil =>
      simp only [replay, Option.some.injEq] at replayed
      subst final
      exact .nil initial
  | cons event rest inductionHypothesis =>
      simp only [replay] at replayed
      split at replayed
      · rename_i admitted
        split at replayed
        · rename_i next first
          exact .cons admitted first (inductionHypothesis replayed)
        · cases replayed
      · cases replayed

/-- A replay whose final state passes a test yields a run to such a state. -/
theorem Run.exists_of_replay
    {step : State → Event → Option State}
    {admits : State → Event → Prop}
    [∀ state event, Decidable (admits state event)]
    {initial : State}
    {events : List Event}
    (passes : State → Prop)
    [DecidablePred passes]
    (replayed :
      (replay step admits initial events).any
        (fun final => passes final) = true) :
    ∃ final,
      Run step admits initial events final ∧ passes final := by
  cases reached : replay step admits initial events with
  | none =>
      simp [reached] at replayed
  | some final =>
      exact ⟨final, .of_replay reached, by simpa [reached] using replayed⟩

end Runs

end Replication
