import Mathlib.Data.List.Infix
import MicrochipDay.Library.Binary64

/-!
Owns the Python values that a JSON document decodes to, what differs between
installations of the interpreter, and the texts that `str` and `repr` give.

Memory is not bounded here; the recursion limit is, by the nesting that each
operation still takes.
-/

namespace MicrochipDay.Library.Python

open MicrochipDay.Library.Unicode
open MicrochipDay.Library.Decimal

/-! ## Values -/

inductive Value
  | none
  | bool (value : Bool)
  | int (value : Int)
  | float (value : Float.Model)
  | str (text : Text)
  | list (items : List Value)
  | dict (members : List (Text × Value))

mutual

def Value.same : Value → Value → Bool
  | .none, .none => true
  | .bool left, .bool right => left = right
  | .int left, .int right => left = right
  | .float left, .float right => left = right
  | .str left, .str right => left = right
  | .list left, .list right => sameItems left right
  | .dict left, .dict right => sameMembers left right
  | _, _ => false

def sameItems : List Value → List Value → Bool
  | [], [] => true
  | left :: lefts, right :: rights => left.same right && sameItems lefts rights
  | _, _ => false

def sameMembers : List (Text × Value) → List (Text × Value) → Bool
  | [], [] => true
  | (key, left) :: lefts, (name, right) :: rights =>
      key = name && left.same right && sameMembers lefts rights
  | _, _ => false

end

mutual

theorem Value.same_iff : ∀ left right : Value, left.same right ↔ left = right
  | .list left, right => by cases right <;> simp [Value.same, sameItems_iff left]
  | .dict left, right => by cases right <;> simp [Value.same, sameMembers_iff left]
  | .none, right => by cases right <;> simp [Value.same]
  | .bool left, right => by cases right <;> simp [Value.same]
  | .int left, right => by cases right <;> simp [Value.same]
  | .float left, right => by cases right <;> simp [Value.same]
  | .str left, right => by cases right <;> simp [Value.same]

theorem sameItems_iff : ∀ left right : List Value, sameItems left right ↔ left = right
  | [], right => by cases right <;> simp [sameItems]
  | value :: left, right => by
      cases right <;> simp [sameItems, Value.same_iff value, sameItems_iff left]

theorem sameMembers_iff : ∀ left right : List (Text × Value),
    sameMembers left right ↔ left = right
  | [], right => by cases right <;> simp [sameMembers]
  | (key, value) :: left, right => by
      cases right <;>
        simp [sameMembers, Value.same_iff value, sameMembers_iff left, Prod.ext_iff]

end

instance : DecidableEq Value := fun left right => decidable_of_iff _ (Value.same_iff left right)

/-- The value of a key. -/
def lookup (key : Text) : List (Text × Value) → Option Value
  | [] => Option.none
  | (name, value) :: members => if name = key then some value else lookup key members

/-- Assigning to a key keeps the place of a key that is already there. -/
def assign (key : Text) (value : Value) : List (Text × Value) → List (Text × Value)
  | [] => [(key, value)]
  | (name, old) :: members =>
      if name = key then (key, value) :: members else (name, old) :: assign key value members

theorem lookup_assign (key : Text) (value : Value) (members : List (Text × Value)) :
    lookup key (assign key value members) = some value := by
  induction members with
  | nil => exact if_pos rfl
  | cons member members inductionHypothesis =>
      obtain ⟨name, old⟩ := member
      by_cases same : name = key
      · rw [assign, if_pos same, lookup, if_pos rfl]
      · rw [assign, if_neg same, lookup, if_neg same, inductionHypothesis]

mutual

/-- How deep lists and dicts are nested. -/
def Value.nesting : Value → Nat
  | .list items => nestingOfItems items + 1
  | .dict members => nestingOfMembers members + 1
  | _ => 0

def nestingOfItems : List Value → Nat
  | [] => 0
  | item :: items => max item.nesting (nestingOfItems items)

def nestingOfMembers : List (Text × Value) → Nat
  | [] => 0
  | (_, value) :: members => max value.nesting (nestingOfMembers members)

end

/-- `key in value`, which raises for a value that holds nothing. -/
def contains (key : Text) : Value → Option Bool
  | .dict members => some (lookup key members).isSome
  | .list items => some (items.any fun item => match item with
      | .str text => text = key
      | _ => false)
  | .str text => some (key <:+: text)
  | _ => Option.none

/-- `value[key]`, which raises where there is no such member. -/
def subscript (key : Text) : Value → Option Value
  | .dict members => lookup key members
  | _ => Option.none

/-- What decides whether two values are one key of a `dict`: numbers are compared by
value, and lists and dicts are no keys. -/
def Value.key : Value → Option Value
  | .bool value => some (.int (if value then 1 else 0))
  | .float value => some (((Binary64.toInt value).map Value.int).getD (.float value))
  | .list _ | .dict _ => Option.none
  | value => some value

/-- The keys 1, 1.0 and True are the same. -/
example : (Value.float (Float.Model.ofScientific 10 (-1))).key = (Value.bool true).key := by
  decide +kernel

/-! ## The interpreter -/

structure Interpreter where
  /-- The digit that a code point from 128 on stands for, as the Unicode database has it. -/
  decimalDigit : CodePoint → Option (Fin 10)
  /-- Whether `repr` shows a code point from 128 on as it is. -/
  isPrintable : CodePoint → Bool
  /-- `sys.get_int_max_str_digits()`: the most digits an integer is read from, 0 for any number. -/
  maxStrDigits : Nat
  /-- The nesting that `json.loads`, `str` and `json.dumps`, without and with an
  indent, take before a `RecursionError`; a dict of plain values is never too deep. -/
  loadsNesting : Nat
  strNesting : Nat
  dumpsNesting : Nat
  indentNesting : Nat
  flat : 1 ≤ loadsNesting ∧ 1 ≤ strNesting ∧ 1 ≤ dumpsNesting ∧ 1 ≤ indentNesting
  /-- Whether standard output has bytes for a text. -/
  prints : Text → Bool

/-- Whether an integer is read from so many digits. -/
def Interpreter.ReadsDigits (interpreter : Interpreter) (count : Nat) : Prop :=
  interpreter.maxStrDigits = 0 ∨ count ≤ interpreter.maxStrDigits

instance (interpreter : Interpreter) (count : Nat) :
    Decidable (interpreter.ReadsDigits count) := by
  unfold Interpreter.ReadsDigits
  infer_instance

/-! ## Escapes -/

/-- `width` hexadecimal digits in lower case. -/
def hexText : Nat → Nat → Text
  | 0, _ => []
  | width + 1, number =>
      hexText width (number / 16) ++ [CodePoint.ofChar (Nat.digitChar (number % 16))]

/-- A backslash, a letter and `width` hexadecimal digits. -/
def escape (letter : Char) (width number : Nat) : Text :=
  CodePoint.ofChar '\\' :: CodePoint.ofChar letter :: hexText width number

def singleQuote : CodePoint := CodePoint.ofChar '\''

def doubleQuote : CodePoint := CodePoint.ofChar '"'

def backslash : CodePoint := CodePoint.ofChar '\\'

/-- The escapes that `repr` writes in texts and in bytes; `none` for others. -/
def shortEscape (quote point : CodePoint) : Option Text :=
  if point = quote ∨ point = backslash then some [backslash, point]
  else if point = CodePoint.ofChar '\t' then some (Text.ofString "\\t")
  else if point = CodePoint.ofChar '\n' then some (Text.ofString "\\n")
  else if point = CodePoint.ofChar '\r' then some (Text.ofString "\\r")
  else none

/-- The double quote only where the text has a single one and no double one. -/
def quoteFor (text : Text) : CodePoint :=
  if singleQuote ∈ text ∧ doubleQuote ∉ text then doubleQuote else singleQuote

def reprPoint (interpreter : Interpreter) (quote point : CodePoint) : Text :=
  match shortEscape quote point with
  | some escaped => escaped
  | none =>
      if point.val < 0x20 ∨ point.val = 0x7F then escape 'x' 2 point.val
      else if point.val < 0x7F then [point]
      else if interpreter.isPrintable point then [point]
      else if point.val ≤ 0xFF then escape 'x' 2 point.val
      else if point.val ≤ 0xFFFF then escape 'u' 4 point.val
      else escape 'U' 8 point.val

/-- `repr` of a text. -/
def reprText (interpreter : Interpreter) (text : Text) : Text :=
  quoteFor text :: text.flatMap (reprPoint interpreter (quoteFor text)) ++ [quoteFor text]

def reprByte (quote : CodePoint) (byte : UInt8) : Text :=
  match shortEscape quote (CodePoint.ofNat byte.toNat) with
  | some escaped => escaped
  | none =>
      if byte.toNat < 0x20 ∨ 0x7F ≤ byte.toNat then escape 'x' 2 byte.toNat
      else [CodePoint.ofNat byte.toNat]

/-- `repr` of bytes. -/
def reprBytes (bytes : List UInt8) : Text :=
  let quote := quoteFor (bytes.map fun byte => CodePoint.ofNat byte.toNat)
  CodePoint.ofChar 'b' :: quote :: bytes.flatMap (reprByte quote) ++ [quote]

/-! ## Texts of values -/

/-- The text of a float. -/
def floatRepr (float : Float.Model) : Text :=
  Binary64.floatText (Text.ofString "inf") (Text.ofString "nan") float

def separator : Text := Text.ofString ", "

mutual

def Value.repr (interpreter : Interpreter) : Value → Text
  | .none => Text.ofString "None"
  | .bool value => Text.ofString (if value then "True" else "False")
  | .int value => intText value
  | .float value => floatRepr value
  | .str text => reprText interpreter text
  | .list items => Text.ofString "[" ++ reprItems interpreter items ++ Text.ofString "]"
  | .dict members => Text.ofString "\x7b" ++ reprMembers interpreter members ++ Text.ofString "\x7d"

def reprItems (interpreter : Interpreter) : List Value → Text
  | [] => []
  | [item] => item.repr interpreter
  | item :: items => item.repr interpreter ++ separator ++ reprItems interpreter items

def reprMembers (interpreter : Interpreter) : List (Text × Value) → Text
  | [] => []
  | [(key, value)] => reprText interpreter key ++ Text.ofString ": " ++ value.repr interpreter
  | (key, value) :: members =>
      reprText interpreter key ++ Text.ofString ": " ++ value.repr interpreter ++ separator ++
        reprMembers interpreter members

end

/-- The text of a value that `str` and an empty format specification give. -/
def Value.text (interpreter : Interpreter) : Value → Text
  | .str text => text
  | value => value.repr interpreter

/-- `str`, which raises where the nesting exceeds the recursion limit. -/
def str (interpreter : Interpreter) (value : Value) : Option Text :=
  if value.nesting ≤ interpreter.strNesting then some (value.text interpreter) else none

/-- `str` of a list of texts. -/
def strTexts (interpreter : Interpreter) (texts : List Text) : Text :=
  (Value.list (texts.map Value.str)).text interpreter

end MicrochipDay.Library.Python
