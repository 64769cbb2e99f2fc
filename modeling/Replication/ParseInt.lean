import Replication.Binary64
import Replication.ElasticsearchSink
import Replication.NumberText
import Mathlib

namespace Replication

/-!
# Integers in arguments and parameters

`parseInt(text, 10)` reads the digits that a text begins with and ignores what
follows.  The number is the double nearest to what they denote: exact below
2 ^ 53, and infinite from the largest double on.  `NaN` is `none`.
-/

/-- A number without a fraction, which may be infinite. -/
inductive WholeNumber where
  | negInfinity
  | finite (value : Int)
  | infinity
  deriving DecidableEq, Repr

namespace WholeNumber

/-- The double nearest to an integer. -/
def ofInt (value : Int) : WholeNumber :=
  let magnitude := (Binary64.nearest value.natAbs).floor
  if magnitude < 2 ^ 1024 then
    .finite (value.sign * magnitude)
  else if value < 0 then
    .negInfinity
  else
    .infinity

/-- The integer that it is, unless it is infinite. -/
def toInt? : WholeNumber → Option Int
  | .finite value => some value
  | _ => none

/-- `Math.max(low, number)`. -/
def atLeast (low : Int) : WholeNumber → WholeNumber
  | .negInfinity => .finite low
  | .finite value => .finite (max low value)
  | .infinity => .infinity

/-- `Math.max(low, Math.min(high, number))`. -/
def within (low high : Int) : WholeNumber → Int
  | .negInfinity => low
  | .finite value => max low (min high value)
  | .infinity => max low high

/-- `number - step`. -/
def sub (number : WholeNumber) (step : Int) : WholeNumber :=
  match number with
  | .finite value => .ofInt (value - step)
  | _ => number

/-- `number * factor` for a positive factor. -/
def scale (number : WholeNumber) (factor : Int) : WholeNumber :=
  match number with
  | .finite value => .ofInt (value * factor)
  | _ => number

/-- `number >= 0`. -/
def Nonneg : WholeNumber → Prop
  | .negInfinity => False
  | .finite value => 0 ≤ value
  | .infinity => True

/-- An integer of at most 53 bits is a double. -/
theorem ofInt_of_lt
    {value : Int}
    (bits : value.natAbs < 2 ^ 53) : ofInt value = .finite value := by
  have exact : Binary64.nearest value.natAbs = value.natAbs :=
    Binary64.nearest_natCast bits
  have small : (value.natAbs : Int) < 2 ^ 1024 :=
    calc
      (value.natAbs : Int) < 2 ^ 53 := by exact_mod_cast bits
      _ < 2 ^ 1024 := pow_lt_pow_right₀ one_lt_two (by norm_num)
  unfold ofInt
  dsimp only
  rw [exact, ← Int.cast_natCast, Rat.floor_intCast, if_pos small,
    Int.sign_mul_natAbs]

/-- Rounding keeps the sign. -/
theorem ofInt_nonneg
    {value : Int}
    (nonneg : 0 ≤ value) : (ofInt value).Nonneg := by
  unfold ofInt
  dsimp only
  split
  · exact Int.mul_nonneg (Int.sign_nonneg_iff.mpr nonneg)
      (Rat.le_floor_iff.mpr
        (by exact_mod_cast Binary64.nearest_nonneg _))
  · rw [if_neg (not_lt.mpr nonneg)]
    trivial

/-- What rounds to a number below the largest safe integer is that number. -/
theorem eq_of_ofInt
    {value number : Int}
    (nonneg : 0 ≤ value)
    (rounded : ofInt value = .finite number)
    (safe : number < 9007199254740991) : number = value := by
  rcases Nat.lt_or_ge value.natAbs (2 ^ 53) with bits | large
  · rw [ofInt_of_lt bits] at rounded
    exact (WholeNumber.finite.inj rounded).symm
  · have reached :
        ((9007199254740991 : Nat) : Rat) ≤ Binary64.nearest value.natAbs :=
      Binary64.natCast_le_nearest (by norm_num)
        (by exact_mod_cast (by norm_num : 9007199254740991 ≤ 2 ^ 53).trans large)
    have floor :
        (9007199254740991 : Int) ≤
          (Binary64.nearest value.natAbs).floor :=
      Rat.le_floor_iff.mpr (by exact_mod_cast reached)
    have sign : value.sign = 1 := Int.sign_eq_one_of_pos (by omega)
    unfold ofInt at rounded
    dsimp only at rounded
    split at rounded
    · rw [sign, one_mul] at rounded
      obtain rfl := WholeNumber.finite.inj rounded
      exact absurd safe (not_lt.mpr floor)
    · rw [if_neg (not_lt.mpr nonneg)] at rounded
      cases rounded

/-- A number of at least `low` is not below it. -/
theorem sub_atLeast_nonneg
    (number : WholeNumber)
    (low : Int) : ((number.atLeast low).sub low).Nonneg := by
  cases number with
  | negInfinity =>
      rw [atLeast, sub]
      exact ofInt_nonneg (Int.sub_nonneg_of_le (le_refl low))
  | finite value =>
      rw [atLeast, sub]
      exact ofInt_nonneg (Int.sub_nonneg_of_le (le_max_left low value))
  | infinity => exact trivial

/-- Two bounds the right way around are kept. -/
theorem within_bounds
    (number : WholeNumber)
    {low high : Int}
    (le : low ≤ high) :
    low ≤ number.within low high ∧ number.within low high ≤ high := by
  cases number with
  | negInfinity => exact ⟨le_refl low, le⟩
  | finite value => exact ⟨le_max_left _ _, max_le le (min_le_left _ _)⟩
  | infinity => exact ⟨le_max_left _ _, max_le le (le_refl high)⟩

end WholeNumber

/-- The number that the leading digits denote. -/
def leadingNumber (text : Text) : Option Nat :=
  let digits := text.takeWhile Char.isDigit
  if digits = [] then none else some (Nat.ofDigitChars 10 digits 0)

/-- `parseInt(text, 10)`. -/
def parseInt (text : Text) : Option WholeNumber :=
  match text.dropWhile isWhiteSpace with
  | '-' :: rest =>
      (leadingNumber rest).map fun value => .ofInt (-(value : Int))
  | '+' :: rest => (leadingNumber rest).map fun value => .ofInt value
  | rest => (leadingNumber rest).map fun value => .ofInt value

/-- `value || fallback`: an absent number, `NaN` and 0 are falsy. -/
def orElse (value : Option WholeNumber) (fallback : Int) : WholeNumber :=
  match value with
  | none => .finite fallback
  | some (.finite 0) => .finite fallback
  | some number => number

/-- A positive number is truthy. -/
theorem orElse_of_pos
    {value : Int}
    (positive : 0 < value)
    (fallback : Int) :
    orElse (some (.finite value)) fallback = .finite value := by
  unfold orElse
  split
  · contradiction
  · rename_i zero
    cases zero
    contradiction
  · rename_i same
    exact (Option.some.inj same).symm

/-- Nothing follows the digits of a number. -/
theorem leadingNumber_natText (value : Nat) :
    leadingNumber (JsNumber.natText value) = some value := by
  have all :
      (JsNumber.natText value).takeWhile Char.isDigit =
        JsNumber.natText value :=
    List.takeWhile_eq_self_iff.mpr fun _ => isDigit_of_mem_natText
  have some : JsNumber.natText value ≠ [] := Nat.toDigits_ne_nil
  unfold leadingNumber
  rw [all, if_neg some]
  exact congrArg Option.some Nat.ofDigitChars_ten_toDigits

/-- A digit is neither white space nor a sign. -/
theorem not_isWhiteSpace_of_isDigit
    {char : Char}
    (digit : char.isDigit = true) :
    isWhiteSpace char = false ∧ char ≠ '-' ∧ char ≠ '+' := by
  simp only [Char.isDigit, Bool.and_eq_true, decide_eq_true_eq] at digit
  obtain ⟨low, high⟩ := digit
  have lower : 48 ≤ char.toNat := low
  have upper : char.toNat ≤ 57 := high
  refine ⟨?_, ?_, ?_⟩
  · unfold isWhiteSpace
    rw [Bool.or_eq_false_iff, Bool.and_eq_false_iff]
    refine ⟨?_, .inl (decide_eq_false (by omega))⟩
    rw [Bool.eq_false_iff, ne_eq, List.contains_iff_mem]
    intro member
    simp only [List.mem_cons, List.not_mem_nil, or_false] at member
    omega
  · rintro rfl
    exact absurd lower (by decide)
  · rintro rfl
    exact absurd lower (by decide)

/-- Reading back a printed number. -/
theorem parseInt_natText (value : Nat) :
    parseInt (JsNumber.natText value) = some (.ofInt value) := by
  have number := leadingNumber_natText value
  cases digits : JsNumber.natText value with
  | nil => exact absurd digits Nat.toDigits_ne_nil
  | cons first rest =>
      have isDigit : first.isDigit = true :=
        isDigit_of_mem_natText (digits ▸ List.mem_cons_self)
      obtain ⟨notSpace, notMinus, notPlus⟩ :=
        not_isWhiteSpace_of_isDigit isDigit
      rw [digits] at number
      have kept :
          (first :: rest).dropWhile isWhiteSpace = first :: rest :=
        List.dropWhile_cons_of_neg (by simp [notSpace])
      unfold parseInt
      rw [kept]
      split
      · rename_i same
        exact absurd (List.cons.inj same).1 notMinus
      · rename_i same
        exact absurd (List.cons.inj same).1 notPlus
      · rw [number]
        rfl

end Replication
