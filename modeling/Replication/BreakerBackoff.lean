import Replication.EventConsumerService
import Replication.SequentialBreaker

namespace Replication.SequentialBreaker

open CircuitBreaker

/-!
# The backoff during an outage

The backoff of a failed attempt is computed from the failures of the operation.
An attempt that the health probe turns away is not one of them, so its backoff is
that of the attempt before, unless the cap has been reached.
-/

/-- The backoff before the random share is added. -/
def preJitter (options : Options) (failures : Nat) : Nat :=
  calculateBackoffMs options 0 failures

/-- The share is that of some random value, rounded with the backoff. -/
def IsShare (options : Options) (jitter : Nat) : Prop :=
  ∃ random : RandomValue,
    (jitter : Int) = ⌊random.value * options.jitterMs + 1 / 2⌋

/-- The breakers after each of the attempts. -/
def after (options : Options) :
    List Attempt → CircuitBreaker → List CircuitBreaker
  | [], _ => []
  | attempt :: rest, breaker =>
      let next := (call options attempt breaker).1
      next :: after options rest next

/-- Each backoff is twice the one before, up to the cap. -/
def Escalates
    (options : Options)
    (attempts : List Attempt)
    (breaker : CircuitBreaker) : Prop :=
  (breaker :: after options attempts breaker).IsChain fun before next =>
    preJitter options next.consecutiveFailures =
      min options.maxBackoffMs
        (2 * preJitter options before.consecutiveFailures)

/-- The backoff before the random share has reached the cap. -/
def Capped (options : Options) (breaker : CircuitBreaker) : Prop :=
  options.maxBackoffMs ≤
    options.baseBackoffMs * 2 ^ (breaker.consecutiveFailures - 1)

/-- Only once the cap is reached does the probe turn attempts away. -/
def RefusedOnlyAtCap (options : Options) :
    List Attempt → CircuitBreaker → Prop
  | [], _ => True
  | attempt :: rest, breaker =>
      (Refuses options attempt → Capped options breaker) ∧
        RefusedOnlyAtCap options rest (call options attempt breaker).1

/-- What is scheduled is the backoff with at most `jitterMs` more. -/
def WithinJitter (options : Options) (breaker : CircuitBreaker) : Prop :=
  preJitter options breaker.consecutiveFailures ≤
      breaker.currentBackoffMs ∧
    breaker.currentBackoffMs ≤
      preJitter options breaker.consecutiveFailures + options.jitterMs

variable
  {options : Options}
  {breaker : CircuitBreaker}
  {attempt : Attempt}
  {attempts : List Attempt}

/-- A share is at most `jitterMs`. -/
theorem IsShare.le
    {jitter : Nat}
    (share : IsShare options jitter) :
    jitter ≤ options.jitterMs := by
  obtain ⟨random, isFloor⟩ := share
  have below : random.value * options.jitterMs ≤ options.jitterMs :=
    mul_le_of_le_one_left (Nat.cast_nonneg _) random.lt_one.le
  have floor :
      ⌊random.value * options.jitterMs + 1 / 2⌋ < (options.jitterMs + 1 : Int) := by
    rw [Int.floor_lt]
    push_cast
    linarith
  omega

/-- One more failure doubles the backoff, up to the cap. -/
theorem preJitter_succ
    {failures : Nat}
    (positive : 1 ≤ failures) :
    preJitter options (failures + 1) =
      min options.maxBackoffMs (2 * preJitter options failures) := by
  obtain ⟨earlier, rfl⟩ := Nat.exists_eq_add_of_le' positive
  have doubles :
      options.baseBackoffMs * 2 ^ (earlier + 1) =
        2 * (options.baseBackoffMs * 2 ^ earlier) := by
    rw [pow_succ]
    ring
  simp only [preJitter, calculateBackoffMs, Nat.add_sub_cancel, doubles]
  omega

/-- The same backoff again is twice it, up to the cap, only at the cap. -/
theorem preJitter_eq_iff
    (positive : 0 < options.baseBackoffMs) :
    preJitter options breaker.consecutiveFailures =
        min options.maxBackoffMs
          (2 * preJitter options breaker.consecutiveFailures) ↔
      Capped options breaker := by
  have exponential :
      0 < options.baseBackoffMs * 2 ^ (breaker.consecutiveFailures - 1) :=
    Nat.mul_pos positive (Nat.two_pow_pos _)
  rw [preJitter, calculateBackoffMs, Capped]
  omega

/-- The breaker is open after a failed operation, with a scheduled attempt. -/
structure Waiting (options : Options) (breaker : CircuitBreaker) : Prop where
  isOpen : breaker.state = .open
  failures : 1 ≤ breaker.consecutiveFailures
  within : WithinJitter options breaker

/-- What is scheduled for those failures lies within the jitter. -/
theorem withinJitter_schedule
    {now : Int}
    {jitter : Nat}
    (share : IsShare options jitter) :
    WithinJitter options
      (breaker.schedule now
        (calculateBackoffMs options jitter breaker.consecutiveFailures)) := by
  have least := share.le
  simp only [WithinJitter, schedule, preJitter, calculateBackoffMs]
  omega

/-- A failed operation that opens the breaker. -/
theorem Waiting.of_failed
    {now : Int}
    {jitter : Nat}
    (trips :
      breaker.state = .halfOpen ∨
        options.failureThreshold ≤ breaker.consecutiveFailures + 1)
    (share : IsShare options jitter) :
    Waiting options (breaker.failed options now jitter) ∧
      (breaker.failed options now jitter).consecutiveFailures =
        breaker.consecutiveFailures + 1 := by
  rw [failed]
  dsimp only
  rw [if_pos trips]
  exact ⟨⟨rfl, Nat.le_add_left .., withinJitter_schedule share⟩, rfl⟩

/-- A call that opens the breaker. -/
theorem Waiting.of_opening
    (notOpen : breaker.state ≠ .open)
    (opens : (call options attempt breaker).1.state = .open)
    (share : IsShare options attempt.jitter) :
    Waiting options (call options attempt breaker).1 := by
  rw [call_of_not_open notOpen, operate] at opens ⊢
  split at opens
  · rw [succeeded] at opens
    split at opens
    · dsimp only at opens
      split at opens
      · cases opens
      · exact absurd opens notOpen
    · exact absurd opens notOpen
    · exact absurd opens notOpen
  · rename_i rejected
    rw [if_neg rejected]
    by_cases trips :
        breaker.state = .halfOpen ∨
          options.failureThreshold ≤ breaker.consecutiveFailures + 1
    · exact (Waiting.of_failed trips share).1
    · rw [failed] at opens
      dsimp only at opens
      rw [if_neg trips] at opens
      exact absurd opens notOpen

/-- A failed attempt of an outage. -/
theorem Waiting.call
    (waiting : Waiting options breaker)
    (fails : (call options attempt breaker).2 ≠ .fulfilled)
    (share : IsShare options attempt.jitter) :
    Waiting options (SequentialBreaker.call options attempt breaker).1 ∧
      (SequentialBreaker.call options attempt breaker).1.consecutiveFailures =
        if Refuses options attempt then
          breaker.consecutiveFailures
        else
          breaker.consecutiveFailures + 1 := by
  rw [call_of_open waiting.isOpen] at fails ⊢
  by_cases refuses : Refuses options attempt
  · rw [if_pos refuses, if_pos refuses]
    exact ⟨⟨waiting.isOpen, waiting.failures, withinJitter_schedule share⟩,
      rfl⟩
  · rw [if_neg refuses] at fails
    rw [if_neg refuses, if_neg refuses]
    rw [operate] at fails ⊢
    split at fails
    · exact absurd rfl fails
    · rename_i rejected
      rw [if_neg rejected]
      exact @Waiting.of_failed options breaker.tryHalfOpen
        attempt.settledAt attempt.jitter (.inl rfl) share

/-- One failed attempt of an outage, and then the rest. -/
theorem Waiting.escalates_iff
    (waiting : Waiting options breaker)
    (positive : 0 < options.baseBackoffMs)
    (fail : ∀ verdict ∈ (calls options attempts breaker).2,
      verdict ≠ .fulfilled)
    (shares : ∀ attempt ∈ attempts, IsShare options attempt.jitter) :
    (Escalates options attempts breaker ↔
        RefusedOnlyAtCap options attempts breaker) ∧
      ∀ later ∈ breaker :: after options attempts breaker,
        WithinJitter options later := by
  induction attempts generalizing breaker with
  | nil =>
      refine ⟨⟨fun _ => trivial, fun _ => .singleton _⟩, ?_⟩
      intro later member
      obtain rfl := List.mem_singleton.mp member
      exact waiting.within
  | cons attempt rest inductionHypothesis =>
      obtain ⟨share, restShares⟩ := List.forall_mem_cons.mp shares
      obtain ⟨fails, restFail⟩ := List.forall_mem_cons.mp fail
      obtain ⟨next, failures⟩ := waiting.call fails share
      obtain ⟨restIff, restWithin⟩ :=
        inductionHypothesis next restFail restShares
      refine ⟨?_, List.forall_mem_cons.mpr ⟨waiting.within, restWithin⟩⟩
      rw [Escalates, after, List.isChain_cons_cons, RefusedOnlyAtCap]
      refine and_congr ?_ restIff
      rw [failures]
      split
      · rename_i refuses
        rw [preJitter_eq_iff positive]
        exact ⟨fun capped _ => capped, fun capped => capped refuses⟩
      · rename_i passes
        exact ⟨fun _ refuses => absurd refuses passes,
          fun _ => preJitter_succ waiting.failures⟩

/--
In an outage in which every attempt fails, each backoff is twice the one before,
up to the cap, if and only if no attempt is turned away by the probe before the
cap is reached; and what is scheduled is the backoff with at most `jitterMs`
more.
-/
theorem escalates_iff_refused_only_at_cap
    {opening : Attempt}
    (positive : 0 < options.baseBackoffMs)
    (notOpen : breaker.state ≠ .open)
    (opens : (call options opening breaker).1.state = .open)
    (fail :
      ∀ verdict ∈
          (calls options attempts (call options opening breaker).1).2,
        verdict ≠ .fulfilled)
    (shares :
      ∀ attempt ∈ opening :: attempts, IsShare options attempt.jitter) :
    (Escalates options attempts (call options opening breaker).1 ↔
        RefusedOnlyAtCap options attempts
          (call options opening breaker).1) ∧
      ∀ later ∈
          (call options opening breaker).1 ::
            after options attempts (call options opening breaker).1,
        WithinJitter options later := by
  obtain ⟨share, restShares⟩ := List.forall_mem_cons.mp shares
  exact (Waiting.of_opening notOpen opens share).escalates_iff positive fail
    restShares

/-- The breakers of the pipeline, with their default options. -/
def bootstrapOptions : Options where
  hasHealthProbe := true

/-- A breaker that has counted two failures. -/
def sampleBreaker : CircuitBreaker :=
  { fresh with consecutiveFailures := 2 }

/-- A share of nothing. -/
theorem isShare_zero : IsShare bootstrapOptions 0 := by
  refine ⟨⟨0, le_refl 0, one_pos⟩, ?_⟩
  norm_num

/-- The backoff stays at four seconds when the probe is unhealthy. -/
theorem refused_attempt_keeps_backoff :
    let opened :=
      (call bootstrapOptions (sampleAttempt 1 .healthy false)
        sampleBreaker).1
    let refused := call bootstrapOptions (sampleAttempt 2 .unhealthy false)
      opened
    opened.state = .open ∧ opened.currentBackoffMs = 4000 ∧
      refused.2 = .refused ∧ refused.1.currentBackoffMs = 4000 ∧
      ¬ Escalates bootstrapOptions [sampleAttempt 2 .unhealthy false]
        opened := by
  refine ⟨by decide, by decide, by decide, by decide, ?_⟩
  intro escalates
  have doubles := (List.isChain_cons_cons.mp escalates).1
  exact absurd doubles (by decide)

/-- Failing operations escalate from four to eight seconds. -/
theorem escalates_iff_refused_only_at_cap_sample :
    Escalates bootstrapOptions [sampleAttempt 2 .healthy false]
      (call bootstrapOptions (sampleAttempt 1 .healthy false)
        sampleBreaker).1 := by
  refine (@escalates_iff_refused_only_at_cap bootstrapOptions sampleBreaker
    [sampleAttempt 2 .healthy false] (sampleAttempt 1 .healthy false)
    (by decide) (by decide) (by decide) (by decide) ?_).1.mpr ?_
  · intro attempt member
    rcases List.mem_cons.mp member with rfl | later
    · exact isShare_zero
    · obtain rfl := List.mem_singleton.mp later
      exact isShare_zero
  · exact ⟨fun refuses => absurd rfl refuses.2, trivial⟩

end Replication.SequentialBreaker
