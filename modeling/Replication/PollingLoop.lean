import Mathlib.Data.Nat.Init

namespace PollingLoop

/-!
# Polling loops

An iteration of a polling loop returns or goes on in another state.  A loop with
a bound on its iterations returns, with what its last iteration says; the rule
for it takes an invariant that may depend on the number of iterations.  The run
of a condition that is still going on is what a loop remembers when it measures
how long the condition has held.
-/

/-- What an iteration does. -/
inductive Iteration (Result State : Type) where
  | returned (result : Result)
  | goesOn (next : State)

section Loop

variable {Result State : Type}

/-- The loop, for so many iterations; nothing if it has not returned. -/
def loop (poll : State → Iteration Result State) : Nat → State → Option Result
  | 0, _ => none
  | fuel + 1, state =>
      match poll state with
      | .returned result => some result
      | .goesOn next => loop poll fuel next

variable {poll : State → Iteration Result State}

/-- The loop returns in that iteration, and not before. -/
def ReturnsAt
    (poll : State → Iteration Result State)
    (initial : State)
    (iteration : Nat)
    (result : Result) : Prop :=
  ∀ fuel,
    loop poll fuel initial = if iteration < fuel then some result else none

/-- The first iteration returns. -/
theorem returnsAt_zero
    {state : State}
    {result : Result}
    (returns : poll state = .returned result) :
    ReturnsAt poll state 0 result := by
  intro fuel
  cases fuel with
  | zero => rfl
  | succ fuel => simp [loop, returns]

/-- The first iteration goes on. -/
theorem ReturnsAt.succ
    {state next : State}
    {iteration : Nat}
    {result : Result}
    (later : ReturnsAt poll next iteration result)
    (goesOn : poll state = .goesOn next) :
    ReturnsAt poll state (iteration + 1) result := by
  intro fuel
  cases fuel with
  | zero => rfl
  | succ fuel =>
      simp only [loop, goesOn, Nat.add_lt_add_iff_right]
      exact later fuel

/--
What an iteration may do in a loop that keeps an invariant, ends with a
postcondition, and goes on only below a bound.
-/
inductive Iterates
    (Holds : Nat → State → Prop)
    (Ends : Nat → Result → Prop)
    (bound iteration : Nat) : Iteration Result State → Prop where
  | returned
      {result : Result}
      (ends : Ends iteration result) :
      Iterates Holds Ends bound iteration (.returned result)
  | goesOn
      {next : State}
      (below : iteration < bound)
      (holds : Holds (iteration + 1) next) :
      Iterates Holds Ends bound iteration (.goesOn next)

/-- Such a loop returns in one of its iterations up to the bound. -/
theorem exists_returnsAt
    {Holds : Nat → State → Prop}
    {Ends : Nat → Result → Prop}
    {bound : Nat}
    (iterates :
      ∀ {iteration state},
        Holds iteration state →
          Iterates Holds Ends bound iteration (poll state))
    {iteration : Nat}
    {state : State}
    (holds : Holds iteration state)
    (inBound : iteration ≤ bound) :
    ∃ further result,
      iteration + further ≤ bound ∧
        ReturnsAt poll state further result ∧
          Ends (iteration + further) result := by
  -- on the iterations that are left
  induction left : bound - iteration using Nat.strong_induction_on
      generalizing iteration state with
  | _ left inductionHypothesis =>
      have iterated := iterates holds
      cases polled : poll state with
      | returned result =>
          rw [polled] at iterated
          cases iterated with
          | returned ends =>
              exact ⟨0, result, inBound, returnsAt_zero polled, ends⟩
      | goesOn next =>
          rw [polled] at iterated
          cases iterated with
          | goesOn below nextHolds =>
              obtain ⟨further, result, within, returns, ends⟩ :=
                inductionHypothesis _ (by omega) nextHolds below rfl
              refine
                ⟨further + 1, result, by omega, returns.succ polled, ?_⟩
              rwa [Nat.add_right_comm, Nat.add_assoc] at ends

end Loop

/-! ### The run that is going on -/

section CurrentRun

variable {holds : Nat → Bool}

/-- Where the run of the condition that reaches up to this index has begun. -/
def currentRun (holds : Nat → Bool) : Nat → Option Nat
  | 0 => none
  | index + 1 =>
      if holds index then some ((currentRun holds index).getD index) else none

/-- The condition holds throughout the run. -/
theorem holds_of_currentRun
    {index first : Nat}
    (run : currentRun holds index = some first) :
    first < index ∧
      ∀ between, first ≤ between → between < index → holds between = true := by
  induction index generalizing first with
  | zero => cases run
  | succ index inductionHypothesis =>
      simp only [currentRun] at run
      split at run
      · rename_i here
        cases earlier : currentRun holds index with
        | none =>
            simp only [earlier, Option.getD_none, Option.some.injEq] at run
            subst run
            refine ⟨Nat.lt_succ_self _, fun between from_ below => ?_⟩
            obtain rfl : between = index := by omega
            exact here
        | some before =>
            simp only [earlier, Option.getD_some, Option.some.injEq] at run
            subst run
            obtain ⟨below, throughout⟩ := inductionHypothesis earlier
            refine ⟨by omega, fun between from_ inside => ?_⟩
            by_cases last : between = index
            · exact last ▸ here
            · exact throughout between from_ (by omega)
      · cases run

/-- The run has begun no later than any stretch of the condition. -/
theorem exists_currentRun_le
    {index first : Nat}
    (nonempty : first < index)
    (throughout :
      ∀ between, first ≤ between → between < index → holds between = true) :
    ∃ earliest, currentRun holds index = some earliest ∧ earliest ≤ first := by
  induction index with
  | zero => omega
  | succ index inductionHypothesis =>
      have here := throughout index (by omega) (Nat.lt_succ_self _)
      simp only [currentRun, here, if_true]
      by_cases last : first = index
      · cases earlier : currentRun holds index with
        | none => exact ⟨index, rfl, by omega⟩
        | some before =>
            have begun := (holds_of_currentRun earlier).1
            exact ⟨before, rfl, by omega⟩
      · obtain ⟨earliest, run, atMost⟩ :=
          inductionHypothesis (by omega) fun between from_ inside =>
            throughout between from_ (by omega)
        exact ⟨earliest, by rw [run]; rfl, atMost⟩

end CurrentRun

end PollingLoop
