import Mathlib.Data.Int.Log
import Mathlib.Data.Rat.Floor
import Mathlib.Algebra.Order.Field.Power
import Mathlib.Tactic.Linarith
import Mathlib.Tactic.NormNum
import Mathlib.Tactic.Positivity
import Mathlib.Tactic.Ring

namespace Binary64

/-!
# Rounding to doubles

The double nearest to a rational, ties to the even significand, for numbers of
53 significant bits without a bound on the exponent: quotients and products of
counts neither overflow nor are subnormal.  What arithmetic on doubles is used
for here follows from two facts: rounding is monotone, and integers of at most
53 bits are doubles.
-/

/-- The nearest integer; of two, the even one. -/
def roundEven (value : Rat) : Int :=
  let rest := value - value.floor
  if rest < 1 / 2 then
    value.floor
  else if 1 / 2 < rest then
    value.floor + 1
  else if value.floor % 2 = 0 then
    value.floor
  else
    value.floor + 1

/-- The distance between doubles in the binade of a positive number. -/
def spacing (value : Rat) : Rat :=
  2 ^ (Int.log 2 value - 52)

/-- The nearest double to a number that is not negative. -/
def nearest (value : Rat) : Rat :=
  if value ≤ 0 then 0
  else roundEven (value / spacing value) * spacing value

/-- The nearest double to any number. -/
def round (value : Rat) : Rat :=
  if value < 0 then -nearest (-value) else nearest value

section Integers

variable {first second : Rat}

/-- The nearest integer is the one below or the one above. -/
theorem floor_le_roundEven (value : Rat) :
    value.floor ≤ roundEven value ∧ roundEven value ≤ value.floor + 1 := by
  unfold roundEven
  dsimp only
  split
  · omega
  · split
    · omega
    · split <;> omega

/-- Rounding to an integer keeps the order. -/
theorem roundEven_mono (le : first ≤ second) :
    roundEven first ≤ roundEven second := by
  have floors : first.floor ≤ second.floor := Rat.floor_monotone le
  rcases Int.lt_or_eq_of_le floors with below | same
  · have upper := (floor_le_roundEven first).2
    have lower := (floor_le_roundEven second).1
    omega
  · -- between the same two integers only the fractions matter
    unfold roundEven
    rw [← same]
    dsimp only
    have rests :
        first - first.floor ≤ second - first.floor := by linarith
    split_ifs <;> first | omega | (exfalso; linarith)

/-- An integer is the nearest one to itself. -/
@[simp] theorem roundEven_intCast (value : Int) :
    roundEven value = value := by
  simp [roundEven]

/-- Rounding does not pass an integer. -/
theorem le_roundEven
    {value : Rat}
    {bound : Int}
    (above : bound ≤ value) :
    bound ≤ roundEven value := by
  have rounded := roundEven_mono above
  rwa [roundEven_intCast] at rounded

/-- Nor does it from the other side. -/
theorem roundEven_le
    {value : Rat}
    {bound : Int}
    (below : value ≤ bound) :
    roundEven value ≤ bound := by
  have rounded := roundEven_mono below
  rwa [roundEven_intCast] at rounded

end Integers

/-- Doubles of a binade are some distance apart. -/
theorem spacing_pos (value : Rat) : 0 < spacing value := by
  unfold spacing
  positivity

/-- A power of two in units of the spacing. -/
theorem zpow_eq_mul_spacing (value : Rat) (shift : Int) :
    (2 : Rat) ^ (Int.log 2 value + shift) =
      2 ^ (52 + shift) * spacing value := by
  unfold spacing
  rw [← zpow_add₀ two_ne_zero]
  congr 1
  ring

/-- Rounding to doubles gives nothing negative. -/
theorem nearest_nonneg (value : Rat) : 0 ≤ nearest value := by
  unfold nearest
  split
  · exact le_refl 0
  · rename_i positive
    have quotient : ((0 : Int) : Rat) ≤ value / spacing value :=
      le_of_lt (div_pos (not_le.mp positive) (spacing_pos value))
    have rounded : (0 : Rat) ≤ roundEven (value / spacing value) := by
      exact_mod_cast le_roundEven quotient
    exact mul_nonneg rounded (le_of_lt (spacing_pos value))

/-- A positive number is rounded into its binade. -/
theorem nearest_mem_binade
    {value : Rat}
    (positive : 0 < value) :
    2 ^ Int.log 2 value ≤ nearest value ∧
      nearest value ≤ 2 ^ (Int.log 2 value + 1) := by
  have unit := spacing_pos value
  rw [nearest, if_neg (not_le.mpr positive)]
  constructor
  · have below : ((2 ^ 52 : Int) : Rat) ≤ value / spacing value := by
      rw [le_div_iff₀ unit]
      have log := Int.zpow_log_le_self (b := 2) one_lt_two positive
      have power := zpow_eq_mul_spacing value 0
      push_cast at log ⊢
      simp only [add_zero] at power
      rw [power] at log
      exact_mod_cast log
    have rounded : (2 ^ 52 : Rat) ≤ roundEven (value / spacing value) := by
      exact_mod_cast le_roundEven below
    calc
      (2 : Rat) ^ Int.log 2 value
          = 2 ^ (52 : Int) * spacing value := by
            simpa using zpow_eq_mul_spacing value 0
      _ = 2 ^ 52 * spacing value := by norm_num
      _ ≤ _ := mul_le_mul_of_nonneg_right rounded (le_of_lt unit)
  · have above : value / spacing value ≤ ((2 ^ 53 : Int) : Rat) := by
      rw [div_le_iff₀ unit]
      have log := Int.lt_zpow_succ_log_self (b := 2) one_lt_two value
      have power := zpow_eq_mul_spacing value 1
      push_cast at log ⊢
      rw [power] at log
      norm_num at log ⊢
      exact le_of_lt log
    have rounded : (roundEven (value / spacing value) : Rat) ≤ 2 ^ 53 := by
      exact_mod_cast roundEven_le above
    calc
      _ ≤ 2 ^ 53 * spacing value :=
            mul_le_mul_of_nonneg_right rounded (le_of_lt unit)
      _ = 2 ^ (52 + 1 : Int) * spacing value := by norm_num
      _ = 2 ^ (Int.log 2 value + 1) := (zpow_eq_mul_spacing value 1).symm

/-- Rounding to doubles keeps the order. -/
theorem nearest_mono
    {first second : Rat}
    (le : first ≤ second) :
    nearest first ≤ nearest second := by
  by_cases positive : 0 < first
  · have secondPositive := lt_of_lt_of_le positive le
    have logs :=
      Int.log_mono_right (b := 2) positive le
    rcases lt_or_eq_of_le logs with below | same
    · -- the binade of the larger number starts where the other one ends
      calc
        nearest first ≤ 2 ^ (Int.log 2 first + 1) :=
          (nearest_mem_binade positive).2
        _ ≤ 2 ^ Int.log 2 second :=
          zpow_le_zpow_right₀ one_le_two below
        _ ≤ nearest second := (nearest_mem_binade secondPositive).1
    · have units : spacing first = spacing second := by
        rw [spacing, spacing, same]
      rw [nearest, nearest, if_neg (not_le.mpr positive),
        if_neg (not_le.mpr secondPositive), ← units]
      have unit := spacing_pos first
      have quotients :
          first / spacing first ≤ second / spacing first :=
        div_le_div_of_nonneg_right le (le_of_lt unit)
      have rounded :
          (roundEven (first / spacing first) : Rat) ≤
            roundEven (second / spacing first) := by
        exact_mod_cast roundEven_mono quotients
      exact mul_le_mul_of_nonneg_right rounded (le_of_lt unit)
  · rw [nearest, if_pos (not_lt.mp positive)]
    exact nearest_nonneg second

/-- An integer of at most 53 bits, over a power of two, is a double. -/
theorem nearest_dyadic
    {value : Nat}
    (bits : value < 2 ^ 53)
    (scale : Nat) :
    nearest (value / 2 ^ scale) = value / 2 ^ scale := by
  rcases Nat.eq_zero_or_pos value with rfl | positive
  · simp [nearest]
  · have positiveCast : (0 : Rat) < value / 2 ^ scale := by positivity
    -- the binade of the number is that of the integer, shifted
    have log :
        Int.log 2 ((value : Rat) / 2 ^ scale) =
          (Nat.log 2 value : Int) - scale := by
      have own := Int.log_natCast (R := Rat) 2 value
      have lower :=
        Int.zpow_log_le_self (b := 2) one_lt_two
          (show (0 : Rat) < value by exact_mod_cast positive)
      have upper :=
        Int.lt_zpow_succ_log_self (b := 2) one_lt_two (value : Rat)
      rw [own] at lower upper
      push_cast at lower upper
      apply le_antisymm
      · apply Int.lt_add_one_iff.mp
        apply (Int.lt_zpow_iff_log_lt one_lt_two positiveCast).mp
        rw [div_lt_iff₀ (by positivity), ← zpow_natCast,
          Nat.cast_ofNat, ← zpow_add₀ two_ne_zero]
        rwa [show
          (Nat.log 2 value : Int) - scale + 1 + scale =
            Nat.log 2 value + 1 by ring]
      · apply (Int.zpow_le_iff_le_log one_lt_two positiveCast).mp
        rw [le_div_iff₀ (by positivity), ← zpow_natCast,
          Nat.cast_ofNat, ← zpow_add₀ two_ne_zero]
        rwa [sub_add_cancel]
    have short : Nat.log 2 value ≤ 52 :=
      Nat.lt_succ_iff.mp (Nat.log_lt_of_lt_pow positive.ne' bits)
    -- in units of the spacing the value is an integer
    have quotient :
        (value : Rat) / 2 ^ scale / spacing (value / 2 ^ scale) =
          ((value * 2 ^ (52 - Nat.log 2 value) : Int) : Rat) := by
      rw [div_eq_iff (ne_of_gt (spacing_pos _)), spacing, log]
      push_cast
      rw [mul_assoc, ← zpow_natCast, ← zpow_natCast,
        ← zpow_add₀ two_ne_zero, div_eq_mul_inv, ← zpow_neg]
      congr 2
      omega
    rw [nearest, if_neg (not_le.mpr positiveCast), quotient,
      roundEven_intCast, ← quotient,
      div_mul_cancel₀ _ (ne_of_gt (spacing_pos _))]

/-- An integer of at most 53 bits is a double. -/
theorem nearest_natCast
    {value : Nat}
    (bits : value < 2 ^ 53) :
    nearest value = value := by
  simpa using nearest_dyadic bits 0

/-- Rounding does not pass an integer. -/
theorem natCast_le_nearest
    {value : Rat}
    {bound : Nat}
    (bits : bound < 2 ^ 53)
    (above : bound ≤ value) :
    bound ≤ nearest value :=
  (nearest_natCast bits).symm.trans_le (nearest_mono above)

/-- Rounding keeps what is not negative so. -/
theorem round_nonneg
    {value : Rat}
    (nonneg : 0 ≤ value) : 0 ≤ round value := by
  rw [round, if_neg (not_lt.mpr nonneg)]
  exact nearest_nonneg value

end Binary64
