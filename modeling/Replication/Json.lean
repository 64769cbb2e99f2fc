import Mathlib.Data.List.Infix

namespace Replication

/-!
# JSON values

Payload columns, message bodies and dead-letter payloads are JSON values.  This
module has the values, the JavaScript notions of truthiness and string
conversion that the pipeline applies to them, and `JSON.stringify`.  Texts are
lists of characters.  `JSON.parse` is not defined here: the definitions that
call it take it as an argument.
-/

/-- A text as a list of characters. -/
abbrev Text := List Char

/-- Whether `needle` occurs in `text` (`String.prototype.includes`). -/
def Text.includes (text needle : Text) : Bool :=
  decide (needle <:+: text)

/--
A JSON number as a finite decimal, `mantissa / 10 ^ scale` with no trailing
zero after the point.
-/
structure JsNumber where
  mantissa : Int
  scale : Nat
  canonical : scale = 0 ∨ mantissa % 10 ≠ 0
  deriving DecidableEq, Repr

namespace JsNumber

/-- The number of an integer. -/
def ofInt (value : Int) : JsNumber :=
  ⟨value, 0, .inl rfl⟩

/-- Decimal digits of a natural number. -/
def natText (value : Nat) : Text :=
  Nat.toDigits 10 value

/-- Decimal text of an integer. -/
def intText : Int → Text
  | .ofNat value => natText value
  | .negSucc value => '-' :: natText (value + 1)

/-- Decimal text of a number, the point placed `scale` digits from the right. -/
def decimalText (number : JsNumber) : Text :=
  if number.scale = 0 then
    intText number.mantissa
  else
    let digits := natText number.mantissa.natAbs
    let padded :=
      List.replicate (number.scale + 1 - digits.length) '0' ++ digits
    let whole := padded.take (padded.length - number.scale)
    let fraction := padded.drop (padded.length - number.scale)
    (if number.mantissa < 0 then ['-'] else []) ++
      whole ++ '.' :: fraction

/-- The significant digits; a whole number may end in zeros. -/
def significant (number : JsNumber) : Text :=
  let digits := natText number.mantissa.natAbs
  if number.scale = 0 then
    (digits.reverse.dropWhile (· = '0')).reverse
  else
    digits

/-- How many digits the number has before its point, or 0 less the zeros after. -/
def pointPosition (number : JsNumber) : Int :=
  (natText number.mantissa.natAbs).length - number.scale

/-- The significant digits with a point behind the first, and the exponent. -/
def exponentText (number : JsNumber) : Text :=
  let digits := number.significant
  let exponent := number.pointPosition - 1
  (if number.mantissa < 0 then ['-'] else []) ++ digits.take 1 ++
    (if digits.length ≤ 1 then [] else '.' :: digits.drop 1) ++
    'e' :: (if exponent < 0 then '-' else '+') :: natText exponent.natAbs

/-- `Number.prototype.toString`. -/
def toText (number : JsNumber) : Text :=
  if -6 < number.pointPosition ∧ number.pointPosition ≤ 21 then
    number.decimalText
  else
    number.exponentText

end JsNumber

/-- A JSON value. -/
inductive Json where
  | null
  | bool (value : Bool)
  | num (value : JsNumber)
  | str (value : String)
  | arr (items : List Json)
  | obj (fields : List (String × Json))
  deriving Repr

namespace Json

mutual

/-- Whether two values are written alike. -/
def same : Json → Json → Bool
  | .null, .null => true
  | .bool first, .bool second => first == second
  | .num first, .num second => first == second
  | .str first, .str second => first == second
  | .arr first, .arr second => sameItems first second
  | .obj first, .obj second => sameFields first second
  | _, _ => false

/-- Whether all elements are. -/
def sameItems : List Json → List Json → Bool
  | [], [] => true
  | first :: firsts, second :: seconds =>
      same first second && sameItems firsts seconds
  | _, _ => false

/-- Whether all fields are, in their order. -/
def sameFields : List (String × Json) → List (String × Json) → Bool
  | [], [] => true
  | (name, first) :: firsts, (otherName, second) :: seconds =>
      name == otherName && (same first second && sameFields firsts seconds)
  | _, _ => false

end

mutual

/-- Equality of values is decided by comparing them part by part. -/
theorem same_iff (first second : Json) :
    same first second = true ↔ first = second := by
  cases first with
  | arr items =>
      cases second with
      | arr others => simpa [same] using sameItems_iff items others
      | _ => simp [same]
  | obj fields =>
      cases second with
      | obj others => simpa [same] using sameFields_iff fields others
      | _ => simp [same]
  | _ => cases second <;> simp [same]

/-- Equality of elements. -/
theorem sameItems_iff (firsts seconds : List Json) :
    sameItems firsts seconds = true ↔ firsts = seconds := by
  cases firsts with
  | nil => cases seconds <;> simp [sameItems]
  | cons first rest =>
      cases seconds with
      | nil => simp [sameItems]
      | cons second others =>
          simp [sameItems, same_iff first second, sameItems_iff rest others]

/-- Equality of fields. -/
theorem sameFields_iff (firsts seconds : List (String × Json)) :
    sameFields firsts seconds = true ↔ firsts = seconds := by
  cases firsts with
  | nil => cases seconds <;> simp [sameFields]
  | cons entry rest =>
      obtain ⟨name, first⟩ := entry
      cases seconds with
      | nil => simp [sameFields]
      | cons other others =>
          obtain ⟨otherName, second⟩ := other
          simp [sameFields, same_iff first second,
            sameFields_iff rest others, and_assoc]

end

instance : DecidableEq Json :=
  fun first second => decidable_of_iff _ (same_iff first second)

/-- JavaScript truthiness. -/
def truthy : Json → Bool
  | .null => false
  | .bool value => value
  | .num value => value.mantissa != 0
  | .str value => value != ""
  | .arr _ => true
  | .obj _ => true

/-- `first || second` on values that may be undefined. -/
def orElse (first : Option Json) (second : Option Json) : Option Json :=
  if (first.map truthy).getD false then first else second

/-- The last field of that name; later duplicates win, as in `JSON.parse`. -/
def field (name : String) : Json → Option Json
  | .obj fields => (fields.reverse.find? fun entry => entry.1 = name).map (·.2)
  | _ => none

mutual

/-- String conversion, as a template literal applies it. -/
def toText : Json → Text
  | .null => "null".toList
  | .bool true => "true".toList
  | .bool false => "false".toList
  | .num value => value.toText
  | .str value => value.toList
  | .arr items => joinItems items
  | .obj _ => "[object Object]".toList

/-- `Array.prototype.join`, which prints null as the empty text. -/
def joinItems : List Json → Text
  | [] => []
  | [item] => itemText item
  | item :: next :: rest =>
      itemText item ++ ',' :: joinItems (next :: rest)

/-- One element of a joined array. -/
def itemText : Json → Text
  | .null => []
  | .bool value => (toString value).toList
  | .num value => value.toText
  | .str value => value.toList
  | .arr items => joinItems items
  | .obj _ => "[object Object]".toList

end

mutual

/--
Converting the value to a string does not throw: no object in it has a
`toString` of its own, which would not be a function.
-/
def prints : Json → Bool
  | .arr items => itemsPrint items
  | .obj fields => fields.all fun entry => entry.1 != "toString"
  | _ => true

/-- No element of an array throws. -/
def itemsPrint : List Json → Bool
  | [] => true
  | item :: rest => prints item && itemsPrint rest

end

/-- A lower-case hexadecimal digit. -/
def hexDigit (value : Nat) : Char :=
  if value < 10 then Char.ofNat (48 + value) else Char.ofNat (87 + value)

/-- One character inside a JSON string literal. -/
def escapeChar (char : Char) : Text :=
  match char with
  | '"' => ['\\', '"']
  | '\\' => ['\\', '\\']
  | '\x08' => ['\\', 'b']
  | '\x0c' => ['\\', 'f']
  | '\n' => ['\\', 'n']
  | '\r' => ['\\', 'r']
  | '\t' => ['\\', 't']
  | other =>
      if other.toNat < 32 then
        ['\\', 'u', '0', '0',
          hexDigit (other.toNat / 16), hexDigit (other.toNat % 16)]
      else
        [other]

/-- A JSON string literal. -/
def quote (value : String) : Text :=
  '"' :: value.toList.flatMap escapeChar ++ ['"']

mutual

/-- `JSON.stringify` without indentation. -/
def stringify : Json → Text
  | .null => "null".toList
  | .bool true => "true".toList
  | .bool false => "false".toList
  | .num value => value.toText
  | .str value => quote value
  | .arr items => '[' :: stringifyItems items ++ [']']
  | .obj fields => '{' :: stringifyFields fields ++ ['}']

/-- Array elements separated by commas. -/
def stringifyItems : List Json → Text
  | [] => []
  | [item] => stringify item
  | item :: next :: rest =>
      stringify item ++ ',' :: stringifyItems (next :: rest)

/-- Object members separated by commas. -/
def stringifyFields : List (String × Json) → Text
  | [] => []
  | [(name, value)] => quote name ++ ':' :: stringify value
  | (name, value) :: next :: rest =>
      quote name ++ ':' :: stringify value ++
        ',' :: stringifyFields (next :: rest)

end

end Json

/-- Decimal digits padded with zeros on the left. -/
def paddedText (width value : Nat) : Text :=
  let digits := JsNumber.natText value
  List.replicate (width - digits.length) '0' ++ digits

/-- Years of more than four digits, and those before zero, have a sign. -/
def yearText (year : Int) : Text :=
  if 0 ≤ year ∧ year ≤ 9999 then
    paddedText 4 year.toNat
  else
    (if year < 0 then '-' else '+') :: paddedText 6 year.natAbs

/--
`Date.prototype.toISOString` of an instant in milliseconds since the epoch.  The
date is computed in the proleptic Gregorian calendar with years that start in
March.
-/
def isoString (instant : Int) : String :=
  let days := instant / 86400000
  let millis := (instant % 86400000).toNat
  let shifted := days + 719468
  let era := shifted / 146097
  let dayOfEra := (shifted % 146097).toNat
  let yearOfEra :=
    (dayOfEra - dayOfEra / 1460 + dayOfEra / 36524 - dayOfEra / 146096) / 365
  let dayOfYear :=
    dayOfEra - (365 * yearOfEra + yearOfEra / 4 - yearOfEra / 100)
  let monthIndex := (5 * dayOfYear + 2) / 153
  let day := dayOfYear - (153 * monthIndex + 2) / 5 + 1
  let month := if monthIndex < 10 then monthIndex + 3 else monthIndex - 9
  let year : Int :=
    era * 400 + yearOfEra + if month ≤ 2 then 1 else 0
  String.ofList <|
    yearText year ++ '-' :: paddedText 2 month ++ '-' :: paddedText 2 day ++
      'T' :: paddedText 2 (millis / 3600000) ++
      ':' :: paddedText 2 (millis / 60000 % 60) ++
      ':' :: paddedText 2 (millis / 1000 % 60) ++
      '.' :: paddedText 3 (millis % 1000) ++ ['Z']

end Replication
