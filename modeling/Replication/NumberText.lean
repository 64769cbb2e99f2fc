import Replication.Json
import Mathlib

namespace Replication

/-!
# Texts of numbers

A number is printed in decimals, or with an exponent if it is very large or very
small.  Its text determines it, and has only digits, signs, a point and a letter.
-/

/-- Decimal digits are digits. -/
theorem isDigit_of_mem_natText
    {value : Nat}
    {char : Char}
    (member : char ∈ JsNumber.natText value) :
    char.isDigit = true :=
  Nat.isDigit_of_mem_toDigits (by decide) (by decide) member

/-- Digits contain no underscore. -/
theorem underscore_not_mem_natText (value : Nat) :
    '_' ∉ JsNumber.natText value :=
  Nat.underscore_not_in_toDigits

/-- Nor does the text of an integer. -/
theorem underscore_not_mem_intText (value : Int) :
    '_' ∉ JsNumber.intText value := by
  cases value with
  | ofNat value => exact underscore_not_mem_natText value
  | negSucc value =>
      refine List.not_mem_cons_of_ne_of_not_mem (by decide) ?_
      exact underscore_not_mem_natText (value + 1)

/-- Decimal digits determine the number. -/
theorem natText_injective : Function.Injective JsNumber.natText := by
  intro first second same
  have digits := congrArg (Nat.ofDigitChars 10 · 0) same
  simpa only [JsNumber.natText, Nat.ofDigitChars_ten_toDigits] using digits

/-- Decimal text determines the integer. -/
theorem intText_injective : Function.Injective JsNumber.intText := by
  have noSign :
      ∀ (value other : Nat),
        JsNumber.natText value ≠ '-' :: JsNumber.natText other := by
    intro value other same
    have first : '-' ∈ JsNumber.natText value := by
      rw [same]
      exact List.mem_cons_self
    exact absurd (isDigit_of_mem_natText first) (by decide)
  intro first second same
  cases first with
  | ofNat first =>
      cases second with
      | ofNat second => exact congrArg Int.ofNat (natText_injective same)
      | negSucc second => exact absurd same (noSign _ _)
  | negSucc first =>
      cases second with
      | ofNat second => exact absurd same.symm (noSign _ _)
      | negSucc second =>
          have successors := natText_injective (List.cons.inj same).2
          exact congrArg Int.negSucc (Nat.succ.inj successors)

namespace JsNumber

/-- The digits of a number with a point, padded for a leading zero. -/
def paddedDigits (number : JsNumber) : Text :=
  List.replicate (number.scale + 1 - (natText number.mantissa.natAbs).length)
    '0' ++ natText number.mantissa.natAbs

/-- The digits before the point. -/
def wholePart (number : JsNumber) : Text :=
  number.paddedDigits.take (number.paddedDigits.length - number.scale)

/-- The digits behind the point. -/
def fractionPart (number : JsNumber) : Text :=
  number.paddedDigits.drop (number.paddedDigits.length - number.scale)

/-- The sign as it is printed. -/
def signText (number : JsNumber) : Text :=
  if number.mantissa < 0 then ['-'] else []

variable {number first second : JsNumber}

/-- Only a negative number has a sign. -/
theorem of_mem_signText
    {char : Char}
    (member : char ∈ number.signText) :
    char = '-' ∧ number.mantissa < 0 := by
  unfold signText at member
  split at member
  · rename_i negative
    exact ⟨List.mem_singleton.mp member, negative⟩
  · cases member

/-- The decimal text of a number with a point. -/
theorem decimalText_of_scale (scaled : number.scale ≠ 0) :
    number.decimalText =
      (number.signText ++ number.wholePart) ++
        '.' :: number.fractionPart := by
  rw [decimalText, if_neg scaled]
  rfl

/-- The decimal text of a whole number. -/
theorem decimalText_of_whole (whole : number.scale = 0) :
    number.decimalText = intText number.mantissa := by
  rw [decimalText, if_pos whole]

/-- Padded digits are digits. -/
theorem isDigit_of_mem_paddedDigits
    {char : Char}
    (member : char ∈ number.paddedDigits) :
    char.isDigit = true := by
  rcases List.mem_append.mp member with padding | digit
  · rw [List.eq_of_mem_replicate padding]
    rfl
  · exact isDigit_of_mem_natText digit

/-- A character of an integer's text is its sign or a digit. -/
theorem of_mem_intText
    {char : Char}
    {value : Int}
    (member : char ∈ intText value) :
    char = '-' ∨ char.isDigit = true := by
  cases value with
  | ofNat value =>
      exact .inr (isDigit_of_mem_natText member)
  | negSucc value =>
      rcases List.mem_cons.mp member with sign | digit
      · exact .inl sign
      · exact .inr (isDigit_of_mem_natText digit)

/-- Before the point there are a sign and digits. -/
theorem of_mem_whole
    {char : Char}
    (member : char ∈ number.signText ++ number.wholePart) :
    char = '-' ∨ char.isDigit = true := by
  rcases List.mem_append.mp member with sign | digit
  · exact .inl (of_mem_signText sign).1
  · exact .inr (isDigit_of_mem_paddedDigits (List.mem_of_mem_take digit))

/-- A decimal text consists of a sign, digits and a point. -/
theorem of_mem_decimalText
    {char : Char}
    (member : char ∈ number.decimalText) :
    char = '-' ∨ char = '.' ∨ char.isDigit = true := by
  by_cases whole : number.scale = 0
  · rw [decimalText_of_whole whole] at member
    exact (of_mem_intText member).imp_right .inr
  · rw [decimalText_of_scale whole] at member
    rcases List.mem_append.mp member with before | behind
    · exact (of_mem_whole before).imp_right .inr
    · rcases List.mem_cons.mp behind with point | digit
      · exact .inr (.inl point)
      · exact .inr (.inr
          (isDigit_of_mem_paddedDigits (List.mem_of_mem_drop digit)))

/-- Behind the point there are as many digits as the scale says. -/
theorem length_fractionPart (number : JsNumber) :
    number.fractionPart.length = number.scale := by
  have padded : number.scale ≤ number.paddedDigits.length := by
    rw [paddedDigits, List.length_append, List.length_replicate]
    omega
  rw [fractionPart, List.length_drop]
  omega

/-- Padding with zeros keeps the value of the digits. -/
theorem ofDigitChars_paddedDigits (number : JsNumber) :
    Nat.ofDigitChars 10 number.paddedDigits 0 = number.mantissa.natAbs := by
  rw [paddedDigits, Nat.ofDigitChars_append,
    Nat.ofDigitChars_replicate_zero, Nat.mul_zero]
  exact Nat.ofDigitChars_ten_toDigits

/-- The sign and the whole part are read off their text. -/
theorem sign_whole_inj
    (same :
      first.signText ++ first.wholePart =
        second.signText ++ second.wholePart) :
    (first.mantissa < 0 ↔ second.mantissa < 0) ∧
      first.wholePart = second.wholePart := by
  have noSign :
      ∀ (number : JsNumber) (rest : Text),
        number.wholePart ≠ '-' :: rest := by
    intro number rest isSign
    have member : '-' ∈ number.wholePart := by
      rw [isSign]
      exact List.mem_cons_self
    exact absurd (isDigit_of_mem_paddedDigits (List.mem_of_mem_take member))
      (by decide)
  unfold signText at same
  split at same
  · rename_i firstNegative
    split at same
    · rename_i secondNegative
      exact ⟨by simp [firstNegative, secondNegative],
        (List.cons.inj same).2⟩
    · exact absurd same.symm (noSign second _)
  · rename_i firstPositive
    split at same
    · exact absurd same (noSign first _)
    · rename_i secondPositive
      exact ⟨by simp [firstPositive, secondPositive], same⟩

/-- A decimal text determines the number. -/
theorem decimalText_injective : Function.Injective decimalText := by
  have noPoint : ∀ value : Int, '.' ∉ intText value := by
    intro value member
    rcases of_mem_intText member with sign | digit
    · exact absurd sign (by decide)
    · exact absurd digit (by decide)
  have notMixed :
      ∀ whole pointed : JsNumber, whole.scale = 0 → pointed.scale ≠ 0 →
        whole.decimalText ≠ pointed.decimalText := by
    intro whole pointed isWhole isPointed same
    rw [decimalText_of_whole isWhole, decimalText_of_scale isPointed] at same
    refine noPoint whole.mantissa ?_
    rw [same]
    exact List.mem_append_right _ List.mem_cons_self
  intro first second same
  suffices first.mantissa = second.mantissa ∧ first.scale = second.scale by
    obtain ⟨mantissa, scale, canonical⟩ := first
    obtain ⟨rfl, rfl⟩ := this
    rfl
  by_cases firstWhole : first.scale = 0
  · by_cases secondWhole : second.scale = 0
    · rw [decimalText_of_whole firstWhole, decimalText_of_whole secondWhole] at same
      exact ⟨intText_injective same, firstWhole.trans secondWhole.symm⟩
    · exact absurd same (notMixed first second firstWhole secondWhole)
  · by_cases secondWhole : second.scale = 0
    · exact absurd same.symm (notMixed second first secondWhole firstWhole)
    · rw [decimalText_of_scale firstWhole, decimalText_of_scale secondWhole] at same
      have pointBefore : '.' ∉ first.signText ++ first.wholePart := by
        intro member
        rcases of_mem_whole member with sign | digit
        · exact absurd sign (by decide)
        · exact absurd digit (by decide)
      have pointBehind : '.' ∉ first.fractionPart := by
        intro member
        exact absurd
          (isDigit_of_mem_paddedDigits (List.mem_of_mem_drop member))
          (by decide)
      obtain ⟨before, -, behind⟩ :=
        (List.append_cons_inj_of_notMem pointBefore pointBehind).mp same
      obtain ⟨signs, wholes⟩ := sign_whole_inj before
      have scales : first.scale = second.scale := by
        rw [← length_fractionPart first, behind, length_fractionPart]
      have digits : first.paddedDigits = second.paddedDigits := by
        rw [← List.take_append_drop
            (first.paddedDigits.length - first.scale) first.paddedDigits,
          ← List.take_append_drop
            (second.paddedDigits.length - second.scale)
            second.paddedDigits]
        exact congrArg₂ (· ++ ·) wholes behind
      have sizes : first.mantissa.natAbs = second.mantissa.natAbs := by
        rw [← ofDigitChars_paddedDigits first, digits,
          ofDigitChars_paddedDigits]
      exact ⟨by omega, scales⟩

/-! ### With an exponent -/

/-- Stripping zeros off the end can be undone. -/
theorem strip_append_zeros (digits : Text) :
    (digits.reverse.dropWhile (· = '0')).reverse ++
        List.replicate
          (digits.length -
            (digits.reverse.dropWhile (· = '0')).reverse.length) '0' =
      digits := by
  have whole :
      digits.reverse.takeWhile (· = '0') ++ digits.reverse.dropWhile (· = '0') =
        digits.reverse :=
    List.takeWhile_append_dropWhile
  have zeros :
      digits.reverse.takeWhile (· = '0') =
        List.replicate (digits.reverse.takeWhile (· = '0')).length '0' :=
    List.eq_replicate_of_mem fun char member => by
      simpa using List.mem_takeWhile_imp member
  have sizes := congrArg List.length whole
  rw [List.length_append, List.length_reverse] at sizes
  have front :
      digits.length - (digits.reverse.dropWhile (· = '0')).reverse.length =
        (digits.reverse.takeWhile (· = '0')).length := by
    rw [List.length_reverse]
    omega
  rw [front, ← List.reverse_replicate, ← zeros, ← List.reverse_append, whole,
    List.reverse_reverse]

/-- Significant digits are digits of the number. -/
theorem isDigit_of_mem_significant
    {char : Char}
    (member : char ∈ number.significant) :
    char.isDigit = true := by
  have digit : char ∈ natText number.mantissa.natAbs := by
    unfold significant at member
    split at member
    · rw [List.mem_reverse] at member
      exact List.mem_reverse.mp
        ((List.dropWhile_sublist _).subset member)
    · exact member
  exact isDigit_of_mem_natText digit

/-- What stands before the exponent. -/
def coefficient (number : JsNumber) : Text :=
  number.signText ++ number.significant.take 1 ++
    if number.significant.length ≤ 1 then
      []
    else
      '.' :: number.significant.drop 1

/-- What stands behind the letter. -/
def exponentPart (number : JsNumber) : Text :=
  (if number.pointPosition - 1 < 0 then '-' else '+') ::
    natText (number.pointPosition - 1).natAbs

/-- Coefficient and exponent are separated by a letter. -/
theorem exponentText_eq :
    number.exponentText = number.coefficient ++ 'e' :: number.exponentPart :=
  rfl

/-- A coefficient is written like a decimal text. -/
theorem of_mem_coefficient
    {char : Char}
    (member : char ∈ number.coefficient) :
    char = '-' ∨ char = '.' ∨ char.isDigit = true := by
  rcases List.mem_append.mp member with front | behind
  · rcases List.mem_append.mp front with sign | digit
    · exact .inl (of_mem_signText sign).1
    · exact .inr (.inr
        (isDigit_of_mem_significant (List.mem_of_mem_take digit)))
  · split at behind
    · cases behind
    · rcases List.mem_cons.mp behind with point | digit
      · exact .inr (.inl point)
      · exact .inr (.inr
          (isDigit_of_mem_significant (List.mem_of_mem_drop digit)))

/-- Its digits are the significant ones. -/
theorem filter_coefficient :
    number.coefficient.filter Char.isDigit = number.significant := by
  have digits :
      number.significant.filter Char.isDigit = number.significant :=
    List.filter_eq_self.mpr fun _ => isDigit_of_mem_significant
  have sign : number.signText.filter Char.isDigit = [] := by
    unfold signText
    split <;> rfl
  have behind :
      (if number.significant.length ≤ 1 then
          []
        else
          '.' :: number.significant.drop 1).filter Char.isDigit =
        (number.significant.drop 1).filter Char.isDigit := by
    split
    · rename_i short
      rw [List.drop_eq_nil_of_le short]
    · rfl
  rw [coefficient, List.filter_append, List.filter_append, sign, behind,
    List.nil_append, ← List.filter_append, List.take_append_drop, digits]

/-- It has a sign exactly if the number is negative. -/
theorem minus_mem_coefficient :
    '-' ∈ number.coefficient ↔ number.mantissa < 0 := by
  constructor
  · intro member
    rcases List.mem_append.mp member with front | behind
    · rcases List.mem_append.mp front with sign | digit
      · exact (of_mem_signText sign).2
      · exact absurd
          (isDigit_of_mem_significant (List.mem_of_mem_take digit))
          (by decide)
    · split at behind
      · cases behind
      · rcases List.mem_cons.mp behind with point | digit
        · exact absurd point (by decide)
        · exact absurd
            (isDigit_of_mem_significant (List.mem_of_mem_drop digit))
            (by decide)
  · intro negative
    simp [coefficient, signText, negative]

/-- The exponent is read off its text. -/
theorem pointPosition_inj
    (same : first.exponentPart = second.exponentPart) :
    first.pointPosition = second.pointPosition := by
  obtain ⟨signs, digits⟩ := List.cons.inj same
  have sizes := natText_injective digits
  split at signs <;> split at signs
  · omega
  · exact absurd signs (by decide)
  · exact absurd signs (by decide)
  · omega

/-- Significant digits and the place of the point are those of one number. -/
theorem natAbs_scale_inj
    (digits : first.significant = second.significant)
    (position : first.pointPosition = second.pointPosition) :
    first.mantissa.natAbs = second.mantissa.natAbs ∧
      first.scale = second.scale := by
  have notMixed :
      ∀ whole pointed : JsNumber, whole.scale = 0 → pointed.scale ≠ 0 →
        whole.significant = pointed.significant →
        whole.pointPosition ≠ pointed.pointPosition := by
    intro whole pointed isWhole isPointed sameDigits samePosition
    have shorter :
        whole.significant.length ≤
          (natText whole.mantissa.natAbs).length := by
      rw [significant, if_pos isWhole, List.length_reverse]
      exact (List.dropWhile_sublist _).length_le.trans
        List.length_reverse.le
    rw [sameDigits, significant, if_neg isPointed] at shorter
    unfold pointPosition at samePosition
    omega
  by_cases firstWhole : first.scale = 0
  · by_cases secondWhole : second.scale = 0
    · refine ⟨natText_injective ?_, firstWhole.trans secondWhole.symm⟩
      have sizes :
          (natText first.mantissa.natAbs).length =
            (natText second.mantissa.natAbs).length := by
        unfold pointPosition at position
        omega
      rw [significant, significant, if_pos firstWhole, if_pos secondWhole]
        at digits
      rw [← strip_append_zeros (natText first.mantissa.natAbs), digits, sizes,
        strip_append_zeros]
    · exact absurd position
        (notMixed first second firstWhole secondWhole digits)
  · by_cases secondWhole : second.scale = 0
    · exact absurd position.symm
        (notMixed second first secondWhole firstWhole digits.symm)
    · rw [significant, significant, if_neg firstWhole, if_neg secondWhole]
        at digits
      refine ⟨natText_injective digits, ?_⟩
      unfold pointPosition at position
      rw [digits] at position
      omega

/-- A letter is no part of decimals. -/
theorem letter_not_mem
    {text : Text}
    (plain :
      ∀ char ∈ text, char = '-' ∨ char = '.' ∨ char.isDigit = true) :
    'e' ∉ text := by
  intro member
  rcases plain 'e' member with sign | point | digit
  · exact absurd sign (by decide)
  · exact absurd point (by decide)
  · exact absurd digit (by decide)

/-- A text with an exponent determines the number. -/
theorem exponentText_injective : Function.Injective exponentText := by
  intro first second same
  rw [exponentText_eq, exponentText_eq] at same
  have firstLetter : 'e' ∉ first.coefficient :=
    letter_not_mem fun _ => of_mem_coefficient
  have noLetterBehind : 'e' ∉ first.exponentPart := by
    intro member
    rcases List.mem_cons.mp member with sign | digit
    · split at sign <;> exact absurd sign (by decide)
    · exact absurd (isDigit_of_mem_natText digit) (by decide)
  obtain ⟨before, -, behind⟩ :=
    (List.append_cons_inj_of_notMem firstLetter noLetterBehind).mp same
  have digits : first.significant = second.significant := by
    rw [← filter_coefficient, before, filter_coefficient]
  have signs : first.mantissa < 0 ↔ second.mantissa < 0 := by
    rw [← minus_mem_coefficient, before, minus_mem_coefficient]
  obtain ⟨sizes, scales⟩ :=
    natAbs_scale_inj digits (pointPosition_inj behind)
  have mantissas : first.mantissa = second.mantissa := by omega
  obtain ⟨mantissa, scale, canonical⟩ := first
  cases mantissas
  cases scales
  rfl

/-- The text determines the number. -/
theorem toText_injective : Function.Injective toText := by
  have notMixed :
      ∀ decimal exponential : JsNumber,
        decimal.decimalText ≠ exponential.exponentText := by
    intro decimal exponential same
    refine letter_not_mem (fun _ => decimal.of_mem_decimalText) ?_
    rw [same, exponentText_eq]
    exact List.mem_append_right _ List.mem_cons_self
  intro first second same
  unfold toText at same
  split at same <;> split at same
  · exact decimalText_injective same
  · exact absurd same (notMixed first second)
  · exact absurd same.symm (notMixed second first)
  · exact exponentText_injective same

/-- What a number is written with. -/
theorem of_mem_toText
    {char : Char}
    (member : char ∈ number.toText) :
    char ∈ ['-', '.', 'e', '+'] ∨ char.isDigit = true := by
  have plain :
      ∀ {char : Char},
        char = '-' ∨ char = '.' ∨ char.isDigit = true →
          char ∈ ['-', '.', 'e', '+'] ∨ char.isDigit = true := by
    rintro _ (rfl | rfl | digit)
    · exact .inl (by decide)
    · exact .inl (by decide)
    · exact .inr digit
  unfold toText at member
  split at member
  · exact plain (of_mem_decimalText member)
  · rw [exponentText_eq] at member
    rcases List.mem_append.mp member with before | behind
    · exact plain (of_mem_coefficient before)
    · rcases List.mem_cons.mp behind with letter | exponent
      · rw [letter]
        exact .inl (by decide)
      · rcases List.mem_cons.mp exponent with sign | digit
        · refine .inl ?_
          rw [sign]
          split <;> decide
        · exact .inr (isDigit_of_mem_natText digit)

/-- A number's text has no underscore. -/
theorem underscore_not_mem_toText (number : JsNumber) :
    '_' ∉ number.toText := by
  intro member
  rcases of_mem_toText member with sign | digit
  · exact absurd sign (by decide)
  · exact absurd digit (by decide)

end JsNumber

end Replication
