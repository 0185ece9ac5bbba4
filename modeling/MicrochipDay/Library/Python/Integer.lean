import MicrochipDay.Library.Python.Value

/-!
Owns `int` of a text: white space and decimal digits of any script, one sign,
digits grouped by single underscores, and the limit on their number.
-/

namespace MicrochipDay.Library.Python

open MicrochipDay.Library.Unicode
open MicrochipDay.Library.Decimal

/-! ## Reading -/

/-- White space from 128 on. -/
def wideSpaces : List Nat :=
  [0x85, 0xA0, 0x1680, 0x2000, 0x2001, 0x2002, 0x2003, 0x2004, 0x2005, 0x2006, 0x2007, 0x2008,
    0x2009, 0x200A, 0x2028, 0x2029, 0x202F, 0x205F, 0x3000]

/-- A code point as the ASCII one that `int` takes it for. -/
def asciiPoint (interpreter : Interpreter) (point : CodePoint) : CodePoint :=
  if point.val < 0x80 then point
  else if point.val ∈ wideSpaces then CodePoint.ofChar ' '
  else
    match interpreter.decimalDigit point with
    | some digit => CodePoint.ofNat (0x30 + digit.val)
    | none => CodePoint.ofChar '?'

def isIntSpace (point : CodePoint) : Bool :=
  point.val = 0x20 || (0x09 ≤ point.val && point.val ≤ 0x0D)

/-- The text without the white space around it. -/
def strip (text : Text) : Text := (text.dropWhile isIntSpace).rdropWhile isIntSpace

def underscore : CodePoint := CodePoint.ofChar '_'

/-- The sign and the digits of an integer literal. -/
def intLiteral (interpreter : Interpreter) (text : Text) : Option (Bool × Text) :=
  let body := strip (text.map (asciiPoint interpreter))
  let groups := (dropSign body).splitOn underscore
  if ∀ group ∈ groups, group ≠ [] ∧ ∀ point ∈ group, IsDigit point then
    some (body.head? = some minus, groups.flatten)
  else none

def signedValue (negative : Bool) (digits : Text) : Int :=
  if negative then -(value digits : Int) else value digits

/-- `int`, which raises where this is `none`. -/
def int (interpreter : Interpreter) (text : Text) : Option Int :=
  match intLiteral interpreter text with
  | some (negative, digits) =>
      if interpreter.ReadsDigits digits.length then some (signedValue negative digits) else none
  | none => none

/-- The text is a literal of the integer, whatever the number of its digits. -/
def Denotes (interpreter : Interpreter) (text : Text) (number : Int) : Prop :=
  ∃ negative digits, intLiteral interpreter text = some (negative, digits) ∧
    number = signedValue negative digits

/-! ## What is read can be written -/

theorem denotes_of_int {interpreter : Interpreter} {text : Text} {number : Int}
    (read : int interpreter text = some number) : Denotes interpreter text number := by
  unfold int at read
  split at read
  · next negative digits literal =>
    split at read
    · exact ⟨negative, digits, literal, (Option.some.inj read).symm⟩
    · contradiction
  · contradiction

theorem Denotes.unique {interpreter : Interpreter} {text : Text} {left right : Int}
    (leftDenoted : Denotes interpreter text left) (rightDenoted : Denotes interpreter text right) :
    left = right := by
  obtain ⟨negative, digits, literal, rfl⟩ := leftDenoted
  obtain ⟨other, others, again, rfl⟩ := rightDenoted
  obtain ⟨rfl, rfl⟩ := Prod.mk.inj (Option.some.inj (literal.symm.trans again))
  rfl

theorem intLiteral_digits {interpreter : Interpreter} {text digits : Text} {negative : Bool}
    (literal : intLiteral interpreter text = some (negative, digits)) :
    digits ≠ [] ∧ ∀ point ∈ digits, IsDigit point := by
  unfold intLiteral at literal
  dsimp only at literal
  split at literal
  · next grouped =>
    obtain ⟨-, rfl⟩ := Prod.mk.inj (Option.some.inj literal)
    constructor
    · obtain ⟨group, groups, spelled⟩ :=
        List.exists_cons_of_ne_nil (List.splitOn_ne_nil underscore _)
      rw [spelled] at grouped ⊢
      exact List.append_ne_nil_of_left_ne_nil (grouped group (by simp)).1 _
    · intro point inside
      obtain ⟨group, inGroups, inGroup⟩ := List.mem_flatten.mp inside
      exact (grouped group inGroups).2 point inGroup
  · contradiction

/-- Writing an integer that was read stays within the limit on digits. -/
theorem readsDigits_of_int {interpreter : Interpreter} {text : Text} {number : Int}
    (read : int interpreter text = some number) :
    interpreter.ReadsDigits (natText number.natAbs).length := by
  unfold int at read
  split at read
  · next negative digits literal =>
    split at read
    · next reads =>
      obtain ⟨nonempty, allDigits⟩ := intLiteral_digits literal
      have written := natText_value_length nonempty allDigits
      have size : number.natAbs = value digits := by
        rw [← Option.some.inj read, signedValue]
        split <;> omega
      rw [size]
      exact reads.imp_right fun limit => written.trans limit
    · contradiction
  · contradiction

end MicrochipDay.Library.Python
