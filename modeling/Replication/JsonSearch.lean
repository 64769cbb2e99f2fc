import Replication.NumberText
import Mathlib

namespace Replication

/-!
# Searching serialised JSON for a member

A text search in compact JSON for `"name":literal` finds a member.  An unescaped
quote delimits a string and an escaped one follows a backslash, so the second
quote of the pattern can only close a string, which is then the name of a
member.  The first one opens that string, or is an escaped quote inside it: the
search finds the members whose name is `name` or ends in `"name`, at any depth.
-/

namespace Text

/-- The pattern begins inside the text, if `rest` comes after it. -/
def BeginsIn (pattern : Text) : Text → Text → Prop
  | [], _ => False
  | char :: text, rest =>
      pattern <+: char :: (text ++ rest) ∨ BeginsIn pattern text rest

section BeginsIn

variable
  {pattern first second rest : Text}
  {quote : Char}

/-- A pattern that is somewhere in the text begins in it. -/
theorem infix_iff_beginsIn
    {text : Text}
    (nonempty : pattern ≠ []) :
    pattern <:+: text ↔ BeginsIn pattern text [] := by
  induction text with
  | nil => simp [BeginsIn, nonempty]
  | cons char text inductionHypothesis =>
      rw [List.infix_cons_iff, BeginsIn, List.append_nil,
        inductionHypothesis]

/-- It begins in one part or in the other. -/
theorem beginsIn_append :
    BeginsIn pattern (first ++ second) rest ↔
      BeginsIn pattern first (second ++ rest) ∨
        BeginsIn pattern second rest := by
  induction first with
  | nil => simp [BeginsIn]
  | cons char first inductionHypothesis =>
      simp only [List.cons_append, BeginsIn, inductionHypothesis,
        List.append_assoc, or_assoc]

/-- It does not begin in a text without its first character. -/
theorem not_beginsIn
    {text : Text}
    (absent : quote ∉ text) :
    ¬ BeginsIn (quote :: pattern) text rest := by
  induction text with
  | nil => exact id
  | cons char text inductionHypothesis =>
      rintro (starts | later)
      · have same := (List.cons_prefix_cons.mp starts).1
        exact absent (same ▸ List.mem_cons_self)
      · exact inductionHypothesis
          (fun member => absent (List.mem_cons_of_mem _ member)) later

end BeginsIn

end Text

namespace Json

open Text

mutual

/-- Some member, at any depth, passes the test. -/
def anyMember (test : String → Json → Bool) : Json → Bool
  | .arr items => anyItem test items
  | .obj fields => anyField test fields
  | _ => false

/-- A member of some element of an array passes the test. -/
def anyItem (test : String → Json → Bool) : List Json → Bool
  | [] => false
  | item :: rest => anyMember test item || anyItem test rest

/-- Some field of an object passes the test, or a member of its value. -/
def anyField (test : String → Json → Bool) :
    List (String × Json) → Bool
  | [] => false
  | (name, value) :: rest =>
      test name value || anyMember test value || anyField test rest

end

mutual

/-- No member passes a test that none can pass. -/
theorem anyMember_never
    {test : String → Json → Bool}
    (never : ∀ name value, test name value = false) :
    ∀ value : Json, anyMember test value = false
  | .null => rfl
  | .bool _ => rfl
  | .num _ => rfl
  | .str _ => rfl
  | .arr items => by rw [anyMember, anyItem_never never items]
  | .obj fields => by rw [anyMember, anyField_never never fields]

/-- Nor does a member of an array. -/
theorem anyItem_never
    {test : String → Json → Bool}
    (never : ∀ name value, test name value = false) :
    ∀ items : List Json, anyItem test items = false
  | [] => rfl
  | item :: rest => by
      rw [anyItem, anyMember_never never item, anyItem_never never rest,
        Bool.or_false]

/-- Nor does one of an object. -/
theorem anyField_never
    {test : String → Json → Bool}
    (never : ∀ name value, test name value = false) :
    ∀ fields : List (String × Json), anyField test fields = false
  | [] => rfl
  | (name, value) :: rest => by
      rw [anyField, never, anyMember_never never value,
        anyField_never never rest]
      rfl

end

/-- The search pattern `"name":literal`. -/
def memberPattern (name literal : Text) : Text :=
  '"' :: (name ++ '"' :: ':' :: literal)

/-- Names that the search takes for `name`. -/
def looksLike (name : Text) (candidate : String) : Bool :=
  candidate.toList = name || decide ('"' :: name <:+ candidate.toList)

/-- A name that JSON leaves as it is, and that does not look like punctuation. -/
structure PlainName (name : Text) : Prop where
  unescaped : ∀ char ∈ name, escapeChar char = [char]
  head : ∀ char ∈ name.head?, char ∉ [',', ':', ']', '}']

/-- What can come after a value. -/
def Follows (rest : Text) : Prop :=
  ∀ char ∈ rest.head?, char ∈ [',', ']', '}']

/-- How one character is escaped. -/
inductive EscapeSpec : Char → Text → Prop where
  | quote : EscapeSpec '"' ['\\', '"']
  | unescaped {char : Char} (isQuote : char ≠ '"')
      (isBackslash : char ≠ '\\') : EscapeSpec char [char]
  | backslash {char : Char} {tail : Text} (isQuote : char ≠ '"')
      (noQuote : '"' ∉ tail) : EscapeSpec char ('\\' :: tail)

/-- A hexadecimal digit is no quote. -/
theorem hexDigit_ne_quote : ∀ value < 16, hexDigit value ≠ '"' := by
  decide

/-- Every character is escaped in one of these ways. -/
theorem escapeChar_spec (char : Char) :
    EscapeSpec char (escapeChar char) := by
  unfold escapeChar
  split
  case h_1 => exact .quote
  case h_8 isQuote isBackslash _ _ _ _ _ =>
    split
    · rename_i control
      refine .backslash isQuote ?_
      have high := hexDigit_ne_quote (char.toNat / 16) (by omega)
      have low := hexDigit_ne_quote (char.toNat % 16) (by omega)
      simp [high.symm, low.symm]
    · exact .unescaped isQuote isBackslash
  all_goals exact .backslash (by decide) (by decide)

section Strings

variable
  {name literal rest : Text}

/-- Up to a closing quote, an escaped text begins with no name but its own. -/
theorem prefix_escaped
    {text tail : Text}
    (unescaped : ∀ char ∈ name, escapeChar char = [char]) :
    name ++ '"' :: tail <+: text.flatMap escapeChar ++ '"' :: rest ↔
      text = name ∧ tail <+: rest := by
  induction text generalizing name with
  | nil =>
      cases name with
      | nil => simp [List.cons_prefix_cons]
      | cons first name =>
          have notQuote : first ≠ '"' := by
            rintro rfl
            exact absurd (unescaped _ List.mem_cons_self) (by decide)
          simp [List.cons_prefix_cons, notQuote]
  | cons char text inductionHypothesis =>
      have escape := escapeChar_spec char
      cases name with
      | nil =>
          rw [List.flatMap_cons]
          generalize escapeChar char = escaped at escape
          cases escape with
          | quote => simp [List.cons_prefix_cons]
          | unescaped isQuote isBackslash =>
              simp [List.cons_prefix_cons, isQuote.symm]
          | backslash isQuote noQuote => simp [List.cons_prefix_cons]
      | cons first name =>
          have isPlain := unescaped first List.mem_cons_self
          have notBackslash : first ≠ '\\' := by
            rintro rfl
            exact absurd isPlain (by decide)
          have restPlain :=
            @inductionHypothesis name fun char member =>
              unescaped char (List.mem_cons_of_mem _ member)
          rw [List.flatMap_cons]
          generalize same : escapeChar char = escaped at escape
          cases escape with
          | quote =>
              have notQuote : first ≠ '"' := by
                rintro rfl
                exact absurd isPlain (by decide)
              simp [List.cons_prefix_cons, notBackslash, notQuote.symm]
          | unescaped isQuote isBackslash =>
              simp [List.cons_prefix_cons, restPlain, eq_comm, and_assoc]
          | backslash isQuote noQuote =>
              have different : char ≠ first := by
                rintro rfl
                rw [isPlain] at same
                exact notBackslash (List.cons.inj same).1
              simp [List.cons_prefix_cons, notBackslash, different]

/-- Inside the quotes, the pattern begins at an escaped quote. -/
theorem beginsIn_escaped
    (plain : PlainName name)
    {text : Text} :
    BeginsIn (memberPattern name literal) (text.flatMap escapeChar)
        ('"' :: rest) ↔
      '"' :: name <:+ text ∧ ':' :: literal <+: rest := by
  induction text with
  | nil => simp [BeginsIn]
  | cons char text inductionHypothesis =>
      rw [List.flatMap_cons, beginsIn_append, inductionHypothesis,
        List.suffix_cons_iff]
      have escape := escapeChar_spec char
      generalize escapeChar char = escaped at escape
      cases escape with
      | quote =>
          have atQuote :=
            @prefix_escaped name rest text (':' :: literal)
              plain.unescaped
          simp only [BeginsIn, memberPattern, List.cons_prefix_cons,
            List.nil_append, atQuote]
          simp [or_and_right, eq_comm]
      | unescaped isQuote isBackslash =>
          have absent : '"' ∉ [char] := by simp [isQuote.symm]
          simp [memberPattern, not_beginsIn absent, isQuote.symm]
      | @backslash _ tail isQuote noQuote =>
          have absent : '"' ∉ '\\' :: tail := by simp [noQuote]
          simp [memberPattern, not_beginsIn absent, isQuote.symm]

/-- No member pattern begins with a closing quote. -/
theorem not_prefix_closing
    (plain : PlainName name)
    (after : ∀ char ∈ rest.head?, char ∈ [',', ':', ']', '}']) :
    ¬ memberPattern name literal <+: '"' :: rest := by
  intro starts
  have inside := (List.cons_prefix_cons.mp starts).2
  cases rest with
  | nil => simp at inside
  | cons char rest =>
      have isAfter := after char rfl
      cases name with
      | nil =>
          have isQuote := (List.cons_prefix_cons.mp inside).1
          subst isQuote
          simp at isAfter
      | cons first name =>
          have same := (List.cons_prefix_cons.mp inside).1
          exact plain.head first rfl (same ▸ isAfter)

/-- In a string the pattern begins if it looks like the name, as a member. -/
theorem beginsIn_quote
    (plain : PlainName name)
    (after : ∀ char ∈ rest.head?, char ∈ [',', ':', ']', '}'])
    (value : String) :
    BeginsIn (memberPattern name literal) (quote value) rest ↔
      looksLike name value ∧ ':' :: literal <+: rest := by
  have opening :=
    @prefix_escaped name rest value.toList (':' :: literal)
      plain.unescaped
  have within := @beginsIn_escaped name literal rest plain value.toList
  have closing := @not_prefix_closing name literal rest plain after
  rw [quote, List.cons_append, BeginsIn, beginsIn_append]
  simp only [List.singleton_append, within, BeginsIn, List.nil_append,
    closing, or_false, List.append_assoc]
  rw [memberPattern, List.cons_prefix_cons, opening]
  simp [looksLike, or_and_right]

end Strings

section Values

variable
  {name literal rest : Text}
  {test : Json → Bool}

/-- A number contains no quote. -/
theorem quote_not_mem_numberText (number : JsNumber) :
    '"' ∉ number.toText := by
  intro member
  rcases JsNumber.of_mem_toText member with sign | digit
  · exact absurd sign (by decide)
  · exact absurd digit (by decide)

/-- Punctuation holds no beginning of a member. -/
theorem beginsIn_punctuation
    {char : Char}
    (notQuote : char ≠ '"') :
    ¬ BeginsIn (memberPattern name literal) [char] rest :=
  not_beginsIn (by simp [notQuote.symm])

/-- A value without quotes holds no member. -/
theorem beginsIn_quoteless
    {text : Text}
    {found : Bool}
    (noQuote : '"' ∉ text)
    (notFound : found = false) :
    BeginsIn (memberPattern name literal) text rest ↔ found :=
  iff_of_false (not_beginsIn noQuote) (by simp [notFound])

/-- A field is found by its name and value, or inside its value. -/
theorem beginsIn_field
    (plain : PlainName name)
    (field : String)
    {value : Json}
    (isTest : literal <+: stringify value ++ rest ↔ test value)
    {inside : Bool}
    (inValue :
      BeginsIn (memberPattern name literal) (stringify value) rest ↔
        inside) :
    BeginsIn (memberPattern name literal)
        (quote field ++ ':' :: stringify value) rest ↔
      (looksLike name field && test value || inside) := by
  have inName :=
    @beginsIn_quote name literal (':' :: stringify value ++ rest) plain
      (by simp) field
  have colon :
      ¬ BeginsIn (memberPattern name literal) [':']
        (stringify value ++ rest) :=
    beginsIn_punctuation (by decide)
  rw [List.cons_append, List.cons_prefix_cons, isTest] at inName
  rw [beginsIn_append, ← List.singleton_append, beginsIn_append, inValue,
    List.append_assoc, List.singleton_append, inName]
  simp [colon]

mutual

/-- The pattern begins in a value if some member looks like it. -/
theorem beginsIn_stringify
    (plain : PlainName name)
    (isTest :
      ∀ value rest, Follows rest →
        (literal <+: stringify value ++ rest ↔ test value)) :
    ∀ (value : Json) (rest : Text), Follows rest →
      (BeginsIn (memberPattern name literal) (stringify value) rest ↔
        anyMember
          (fun candidate value => looksLike name candidate && test value)
          value)
  | .null, rest, _ => beginsIn_quoteless (by decide) rfl
  | .bool true, rest, _ => beginsIn_quoteless (by decide) rfl
  | .bool false, rest, _ => beginsIn_quoteless (by decide) rfl
  | .num value, rest, _ =>
      beginsIn_quoteless (quote_not_mem_numberText value) rfl
  | .str value, rest, follows => by
      have after : ∀ char ∈ rest.head?, char ∈ [',', ':', ']', '}'] := by
        intro char isHead
        have isAfter := follows char isHead
        simp only [List.mem_cons, List.not_mem_nil, or_false]
          at isAfter ⊢
        tauto
      rw [stringify, beginsIn_quote plain after]
      refine iff_of_false ?_ (by simp [anyMember])
      rintro ⟨_, colon⟩
      cases rest with
      | nil => simp at colon
      | cons char rest =>
          have isColon := (List.cons_prefix_cons.mp colon).1
          have isAfter := follows char rfl
          rw [← isColon] at isAfter
          simp at isAfter
  | .arr items, rest, follows => by
      have inItems :=
        beginsIn_stringifyItems plain isTest items (']' :: rest)
          (by simp [Follows])
      rw [stringify, ← List.singleton_append, beginsIn_append,
        beginsIn_append, List.singleton_append, inItems]
      simp [beginsIn_punctuation, anyMember]
  | .obj fields, rest, follows => by
      have inFields :=
        beginsIn_stringifyFields plain isTest fields ('}' :: rest)
          (by simp [Follows])
      rw [stringify, ← List.singleton_append, beginsIn_append,
        beginsIn_append, List.singleton_append, inFields]
      simp [beginsIn_punctuation, anyMember]

/-- The elements of an array. -/
theorem beginsIn_stringifyItems
    (plain : PlainName name)
    (isTest :
      ∀ value rest, Follows rest →
        (literal <+: stringify value ++ rest ↔ test value)) :
    ∀ (items : List Json) (rest : Text), Follows rest →
      (BeginsIn (memberPattern name literal) (stringifyItems items) rest ↔
        anyItem
          (fun candidate value => looksLike name candidate && test value)
          items)
  | [], rest, _ => by simp [stringifyItems, anyItem, BeginsIn]
  | [item], rest, follows => by
      rw [stringifyItems, beginsIn_stringify plain isTest item rest follows]
      simp [anyItem]
  | item :: next :: items, rest, follows => by
      have first :=
        beginsIn_stringify plain isTest item
          (',' :: stringifyItems (next :: items) ++ rest)
          (by simp [Follows])
      have others :=
        beginsIn_stringifyItems plain isTest (next :: items) rest follows
      rw [stringifyItems, beginsIn_append, first, ← List.singleton_append,
        beginsIn_append, others]
      simp [beginsIn_punctuation, anyItem]

/-- The fields of an object. -/
theorem beginsIn_stringifyFields
    (plain : PlainName name)
    (isTest :
      ∀ value rest, Follows rest →
        (literal <+: stringify value ++ rest ↔ test value)) :
    ∀ (fields : List (String × Json)) (rest : Text), Follows rest →
      (BeginsIn (memberPattern name literal)
          (stringifyFields fields) rest ↔
        anyField
          (fun candidate value => looksLike name candidate && test value)
          fields)
  | [], rest, _ => by simp [stringifyFields, anyField, BeginsIn]
  | [(field, value)], rest, follows => by
      rw [stringifyFields,
        beginsIn_field plain field (isTest value rest follows)
          (beginsIn_stringify plain isTest value rest follows)]
      simp [anyField]
  | (field, value) :: next :: fields, rest, follows => by
      have before :
          Follows (',' :: stringifyFields (next :: fields) ++ rest) := by
        simp [Follows]
      have first :=
        beginsIn_field plain field (isTest value _ before)
          (beginsIn_stringify plain isTest value _ before)
      have others :=
        beginsIn_stringifyFields plain isTest (next :: fields) rest follows
      rw [stringifyFields, beginsIn_append, first, ← List.singleton_append,
        beginsIn_append, others]
      simp [beginsIn_punctuation, anyField]

end

/-- Nothing but a value begins with its first character. -/
theorem not_prefix_value
    {first : Char}
    {value : Json}
    (follows : Follows rest)
    (notAfter : first ∉ [',', ']', '}'])
    (notHead : ∀ char ∈ (stringify value).head?, char ≠ first) :
    ¬ first :: literal <+: stringify value ++ rest := by
  intro starts
  cases written : stringify value with
  | nil =>
      rw [written, List.nil_append] at starts
      cases rest with
      | nil => simp at starts
      | cons char rest =>
          have same := (List.cons_prefix_cons.mp starts).1
          exact notAfter (same ▸ follows char rfl)
  | cons char text =>
      rw [written, List.cons_append] at starts
      have same := (List.cons_prefix_cons.mp starts).1
      exact notHead char (by rw [written]; rfl) same.symm

/-- How a value begins. -/
theorem head_stringify
    {value : Json}
    {char : Char}
    (isHead : char ∈ (stringify value).head?) :
    (char ∈ ['n', 'f', '"', '[', '{'] ∨ char = 't' ∧ value = .bool true) ∨
      char ∈ ['-', '.', 'e', '+'] ∨ char.isDigit = true := by
  cases value with
  | num number =>
      exact .inr (JsNumber.of_mem_toText (List.mem_of_mem_head? isHead))
  | null =>
      obtain rfl : 'n' = char := Option.some.inj isHead
      exact .inl (.inl (by simp))
  | bool value =>
      cases value with
      | true =>
          obtain rfl : 't' = char := Option.some.inj isHead
          exact .inl (.inr ⟨rfl, rfl⟩)
      | false =>
          obtain rfl : 'f' = char := Option.some.inj isHead
          exact .inl (.inl (by simp))
  | str value =>
      obtain rfl : '"' = char := Option.some.inj isHead
      exact .inl (.inl (by simp))
  | arr items =>
      obtain rfl : '[' = char := Option.some.inj isHead
      exact .inl (.inl (by simp))
  | obj fields =>
      obtain rfl : '{' = char := Option.some.inj isHead
      exact .inl (.inl (by simp))

/-- The value is `true`. -/
def isTrue : Json → Bool
  | .bool value => value
  | _ => false

/-- A value begins with `true` if it is that. -/
theorem prefix_true
    (value : Json)
    (rest : Text)
    (follows : Follows rest) :
    "true".toList <+: stringify value ++ rest ↔ isTrue value := by
  by_cases same : value = .bool true
  · subst same
    exact iff_of_true (List.prefix_append _ _) rfl
  · have notTrue : isTrue value = false := by
      cases value with
      | bool value => cases value <;> simp_all [isTrue]
      | _ => rfl
    refine iff_of_false ?_ (by simp [notTrue])
    refine not_prefix_value follows (by decide) ?_
    rintro char isHead rfl
    rcases head_stringify isHead with (other | ⟨_, isTrue⟩) | other | other
    · exact absurd other (by decide)
    · exact same isTrue
    · exact absurd other (by decide)
    · exact absurd other (by decide)

/-- No value begins with a blank. -/
theorem prefix_blank
    (value : Json)
    (rest : Text)
    (follows : Follows rest) :
    " true".toList <+: stringify value ++ rest ↔ false = true := by
  refine iff_of_false ?_ (by decide)
  refine not_prefix_value follows (by decide) ?_
  rintro char isHead rfl
  rcases head_stringify isHead with (other | ⟨other, _⟩) | other | other
  · exact absurd other (by decide)
  · exact absurd other (by decide)
  · exact absurd other (by decide)
  · exact absurd other (by decide)

/-- What a search for `"name":true` finds in compact JSON. -/
theorem includes_member
    (plain : PlainName name)
    (value : Json) :
    (stringify value).includes (memberPattern name "true".toList) =
      value.anyMember fun candidate value =>
        looksLike name candidate && isTrue value := by
  rw [Bool.eq_iff_iff, Text.includes, decide_eq_true_eq,
    infix_iff_beginsIn (by simp [memberPattern])]
  exact beginsIn_stringify plain prefix_true value [] (by simp [Follows])

/-- A search for `"name": true` finds nothing in compact JSON. -/
theorem not_includes_spaced
    (plain : PlainName name)
    (value : Json) :
    (stringify value).includes (memberPattern name " true".toList) =
      false := by
  rw [Bool.eq_false_iff, Text.includes, ne_eq, decide_eq_true_eq,
    infix_iff_beginsIn (by simp [memberPattern]),
    beginsIn_stringify plain prefix_blank value [] (by simp [Follows]),
    anyMember_never fun _ _ => Bool.and_false _]
  exact Bool.false_ne_true

end Values

end Json

end Replication
