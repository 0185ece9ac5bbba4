import MicrochipDay.Library.Decimal

/-!
Owns JSON documents as they are written, character by character, in their
compact form: without white space between the tokens. A string keeps its
escapes and a number its digits, so that trees stand for all compact texts.
-/

namespace MicrochipDay.Library.Json

open MicrochipDay.Library.Unicode
open MicrochipDay.Library.Decimal

/-! ## Strings -/

def quote : CodePoint := CodePoint.ofChar '"'

def backslash : CodePoint := CodePoint.ofChar '\\'

def IsHexDigit (point : CodePoint) : Prop :=
  IsDigit point ∨ (0x41 ≤ point.val ∧ point.val ≤ 0x46) ∨ (0x61 ≤ point.val ∧ point.val ≤ 0x66)

/-- A hexadecimal digit as it is written. -/
@[ext]
structure HexDigit where
  point : CodePoint
  isHex : IsHexDigit point

def HexDigit.value (digit : HexDigit) : Nat :=
  if IsDigit digit.point then digitValue digit.point
  else if digit.point.val ≤ 0x46 then digit.point.val - 0x37
  else digit.point.val - 0x57

/-- The escapes of one letter. -/
inductive Escape
  | quote
  | backslash
  | slash
  | backspace
  | formFeed
  | lineFeed
  | carriageReturn
  | tab
  deriving DecidableEq

/-- The letter of an escape, and the character that it stands for. -/
def Escape.entry : Escape → Char × Nat
  | .quote => ('"', 0x22)
  | .backslash => ('\\', 0x5C)
  | .slash => ('/', 0x2F)
  | .backspace => ('b', 0x08)
  | .formFeed => ('f', 0x0C)
  | .lineFeed => ('n', 0x0A)
  | .carriageReturn => ('r', 0x0D)
  | .tab => ('t', 0x09)

/-- A code point that may stand for itself in a string. -/
def IsPlain (point : CodePoint) : Prop :=
  0x20 ≤ point.val ∧ point ≠ quote ∧ point ≠ backslash ∧ ¬ IsSurrogate point

instance (point : CodePoint) : Decidable (IsPlain point) := by
  unfold IsPlain
  infer_instance

/-- One character of a string as it is written. -/
inductive Written
  | plain (point : CodePoint) (allowed : IsPlain point)
  | letter (escape : Escape)
  | unicode (first second third fourth : HexDigit)

abbrev JsonString := List Written

namespace Written

def text : Written → Text
  | .plain point _ => [point]
  | .letter escape => [backslash, CodePoint.ofChar escape.entry.1]
  | .unicode first second third fourth =>
      [backslash, CodePoint.ofChar 'u', first.point, second.point, third.point, fourth.point]

/-- The UTF-16 units that a character stands for. -/
def units : Written → List Nat
  | .plain point _ =>
      if point.val < 0x10000 then [point.val]
      else [0xD800 + (point.val - 0x10000) / 0x400, 0xDC00 + (point.val - 0x10000) % 0x400]
  | .letter escape => [escape.entry.2]
  | .unicode first second third fourth =>
      [((first.value * 16 + second.value) * 16 + third.value) * 16 + fourth.value]

end Written

namespace JsonString

def text (string : JsonString) : Text := quote :: string.flatMap Written.text ++ [quote]

def units (string : JsonString) : List Nat := string.flatMap Written.units

/-- A string of code points that stand for themselves. -/
def ofPlain (points : Text) (allowed : ∀ point ∈ points, IsPlain point) : JsonString :=
  points.attach.map fun point => .plain point.1 (allowed point.1 point.2)

end JsonString

/-! ## Numbers -/

def AllDigits (text : Text) : Prop := text ≠ [] ∧ ∀ point ∈ text, IsDigit point

inductive Sign
  | plus
  | minus
  deriving DecidableEq

@[ext]
structure Exponent where
  upperCase : Bool
  sign : Option Sign
  digits : Text
  isDigits : AllDigits digits

@[ext]
structure Number where
  negative : Bool
  whole : Text
  fraction : Option Text
  exponent : Option Exponent
  wholeDigits : AllDigits whole
  noLeadingZero : whole.head? = some (CodePoint.ofChar '0') → whole.length = 1
  fractionDigits : ∀ digits ∈ fraction, AllDigits digits

def Sign.point : Sign → CodePoint
  | .plus => CodePoint.ofChar '+'
  | .minus => CodePoint.ofChar '-'

def signText : Option Sign → Text
  | none => []
  | some sign => [sign.point]

def exponentText : Option Exponent → Text
  | none => []
  | some exponent =>
      CodePoint.ofChar (if exponent.upperCase then 'E' else 'e') ::
        (signText exponent.sign ++ exponent.digits)

def fractionText : Option Text → Text
  | none => []
  | some digits => CodePoint.ofChar '.' :: digits

namespace Number

def text (number : Number) : Text :=
  (if number.negative then [minus] else []) ++ number.whole ++ fractionText number.fraction ++
    exponentText number.exponent

/-- The value of a number without fraction and exponent. -/
def integer? (number : Number) : Option Int :=
  if number.fraction.isNone ∧ number.exponent.isNone then
    some (if number.negative then -(value number.whole : Int) else value number.whole)
  else none

theorem natText_noLeadingZero (number : Nat)
    (zero : (natText number).head? = some (CodePoint.ofChar '0')) :
    (natText number).length = 1 := by
  rcases Nat.eq_zero_or_pos number with rfl | positive
  · rfl
  · obtain ⟨first, rest, spelled, nonzero⟩ := natText_eq_cons positive
    rw [spelled] at zero
    obtain rfl := Option.some.inj zero
    exact absurd nonzero (by decide)

/-- An integer as a number. -/
def ofInt (number : Int) : Number where
  negative := number < 0
  whole := natText number.natAbs
  fraction := none
  exponent := none
  wholeDigits := ⟨natText_ne_nil _, fun _ => isDigit_of_mem_natText _⟩
  noLeadingZero := natText_noLeadingZero _
  fractionDigits := by simp

theorem ofInt_text (number : Int) : (ofInt number).text = intText number := by
  unfold Number.text ofInt fractionText exponentText
  cases number with
  | ofNat number => simp [intText]
  | negSucc number =>
      simp only [Int.natAbs_negSucc, Int.negSucc_lt_zero, decide_true, if_true, List.append_nil]
      rfl

theorem ofInt_integer? (number : Int) : (ofInt number).integer? = some number := by
  unfold integer? ofInt
  dsimp only
  rw [if_pos ⟨rfl, rfl⟩, value_natText]
  split
  · next negative =>
    have below := of_decide_eq_true negative
    congr 1
    omega
  · next negative =>
    have above := of_decide_eq_false (Bool.eq_false_iff.mpr negative)
    congr 1
    omega

/-- Zero with a minus sign. -/
def minusZero : Number where
  negative := true
  whole := natText 0
  fraction := none
  exponent := none
  wholeDigits := ⟨natText_ne_nil _, fun _ => isDigit_of_mem_natText _⟩
  noLeadingZero := natText_noLeadingZero _
  fractionDigits := by simp

/-- Without leading zeros a number below ten has one digit. -/
theorem whole_singleton (number : Number) (small : value number.whole < 10) :
    ∃ digit, number.whole = [digit] ∧ IsDigit digit := by
  obtain ⟨first, rest, whole⟩ := List.exists_cons_of_ne_nil number.wholeDigits.1
  have digit := number.wholeDigits.2 first (whole ▸ List.mem_cons_self)
  refine ⟨first, ?_, digit⟩
  by_cases zero : first = CodePoint.ofChar '0'
  · have length := number.noLeadingZero (by rw [whole, zero]; rfl)
    rw [whole, List.length_cons] at length
    rw [whole, List.length_eq_zero_iff.mp (by omega : rest.length = 0)]
  · have positive : 1 ≤ digitValue first := by
      have differs : first.val ≠ 0x30 := fun same => zero (CodePoint.ext same)
      unfold IsDigit at digit
      unfold digitValue
      omega
    have bound := le_value_cons first rest
    rw [whole] at small
    cases rest with
    | nil => exact whole
    | cons second rest =>
        have power : 10 ≤ 10 ^ (second :: rest).length := Nat.le_self_pow (by simp) 10
        have product := Nat.mul_le_mul positive power
        omega

/-- A digit is the text of its value. -/
theorem whole_eq_natText (number : Number) (small : value number.whole < 10) :
    number.whole = natText (value number.whole) := by
  obtain ⟨digit, whole, isDigit⟩ := number.whole_singleton small
  have known : ∀ number < 10, [CodePoint.ofNat (number + 0x30)] = natText number := by decide
  have valueEq : value [digit] = digitValue digit := by simp [value]
  unfold IsDigit at isDigit
  rw [whole, valueEq, ← known _ (by unfold digitValue; omega)]
  congr 1
  apply CodePoint.ext
  show digit.val = (digit.val - 0x30 + 0x30) % 0x110000
  omega

theorem integer?_eq_zero_iff (number : Number) :
    number.integer? = some 0 ↔ number = ofInt 0 ∨ number = minusZero := by
  constructor
  · intro integer
    unfold integer? at integer
    split at integer
    · next plain =>
      have zero : value number.whole = 0 := by
        have same := Option.some.inj integer
        split at same <;> omega
      have whole := number.whole_eq_natText (by omega)
      rw [zero] at whole
      have fraction := Option.isNone_iff_eq_none.mp plain.1
      have exponent := Option.isNone_iff_eq_none.mp plain.2
      cases negative : number.negative with
      | false => exact .inl (Number.ext negative whole fraction exponent)
      | true => exact .inr (Number.ext negative whole fraction exponent)
    · contradiction
  · rintro (rfl | rfl)
    · exact ofInt_integer? 0
    · rfl

theorem integer?_eq_one_iff (number : Number) : number.integer? = some 1 ↔ number = ofInt 1 := by
  constructor
  · intro integer
    unfold integer? at integer
    split at integer
    · next plain =>
      have same := Option.some.inj integer
      split at same
      · omega
      · next positive =>
        have one : value number.whole = 1 := by omega
        have whole := number.whole_eq_natText (by omega)
        rw [one] at whole
        exact Number.ext (Bool.eq_false_iff.mpr positive) whole
          (Option.isNone_iff_eq_none.mp plain.1) (Option.isNone_iff_eq_none.mp plain.2)
    · contradiction
  · rintro rfl
    exact ofInt_integer? 1

end Number

/-! ## Documents -/

inductive Document
  | null
  | bool (value : Bool)
  | number (number : Number)
  | string (string : JsonString)
  | array (items : List Document)
  | object (members : List (JsonString × Document))

def comma : Text := [CodePoint.ofChar ',']

mutual

/-- The compact text of a document. -/
def Document.text : Document → Text
  | .null => Text.ofString "null"
  | .bool value => Text.ofString (if value then "true" else "false")
  | .number number => number.text
  | .string string => string.text
  | .array items => Text.ofString "[" ++ itemsText items ++ Text.ofString "]"
  | .object members => Text.ofString "\x7b" ++ membersText members ++ Text.ofString "\x7d"

def itemsText : List Document → Text
  | [] => []
  | [item] => item.text
  | item :: items => item.text ++ comma ++ itemsText items

def membersText : List (JsonString × Document) → Text
  | [] => []
  | [(name, value)] => name.text ++ Text.ofString ":" ++ value.text
  | (name, value) :: members =>
      name.text ++ Text.ofString ":" ++ value.text ++ comma ++ membersText members

end

/-- The bytes of a document. -/
def Document.encode (document : Document) : List UInt8 := utf8 document.text

/-- The value of the first member whose name consists of these units. -/
def member? (name : List Nat) (members : List (JsonString × Document)) : Option Document :=
  (members.find? fun member => member.1.units = name).map Prod.snd

/-- A name of code points that stand for themselves. -/
def plainName (name : String) (allowed : ∀ point ∈ Text.ofString name, IsPlain point) :
    JsonString :=
  JsonString.ofPlain (Text.ofString name) allowed

/-- The units of a name of ASCII characters. -/
def nameUnits (name : String) : List Nat := name.toList.map Char.toNat

/-- The value that a path of member names leads to. -/
def Document.at? : Document → List String → Option Document
  | document, [] => some document
  | .object members, name :: path =>
      match member? (nameUnits name) members with
      | some value => value.at? path
      | none => none
  | _, _ :: _ => none

end MicrochipDay.Library.Json
