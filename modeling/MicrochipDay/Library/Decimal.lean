import Mathlib.Algebra.Group.Nat.Defs
import Mathlib.Data.List.Induction
import MicrochipDay.Library.Unicode

/-!
Owns decimal texts: the digits of a number, the number that digits denote, and
the texts that are a decimal integer.
-/

namespace MicrochipDay.Library.Decimal

open MicrochipDay.Library.Unicode

/-! ## Digits -/

def IsDigit (point : CodePoint) : Prop := 0x30 ≤ point.val ∧ point.val < 0x3A

instance (point : CodePoint) : Decidable (IsDigit point) := by
  unfold IsDigit
  infer_instance

def digitValue (point : CodePoint) : Nat := point.val - 0x30

/-- The number that a row of digits denotes. -/
def value (digits : Text) : Nat :=
  digits.foldl (fun number digit => 10 * number + digitValue digit) 0

/-- The digits of a number, without leading zeros. -/
def natText (number : Nat) : Text := (Nat.toDigits 10 number).map CodePoint.ofChar

def minus : CodePoint := CodePoint.ofChar '-'

def intText : Int → Text
  | .ofNat number => natText number
  | .negSucc number => minus :: natText (number + 1)

/-- A text without the sign that it starts with. -/
def dropSign (text : Text) : Text :=
  if text.head? = some minus ∨ text.head? = some (CodePoint.ofChar '+') then text.tail else text

/-- An optional minus sign and at least one digit. -/
def IsDecimalInteger (text : Text) : Prop :=
  ∃ digits, digits ≠ [] ∧ (∀ point ∈ digits, IsDigit point) ∧
    (text = digits ∨ text = minus :: digits)

/-! ## Reading the digits of a number -/

theorem value_natText (number : Nat) : value (natText number) = number := by
  unfold value natText
  rw [List.foldl_map]
  exact Nat.ofDigitChars_ten_toDigits

theorem natText_ne_nil (number : Nat) : natText number ≠ [] := by
  unfold natText
  exact mt List.map_eq_nil_iff.mp Nat.toDigits_ne_nil

theorem isDigit_of_mem_natText (number : Nat) {point : CodePoint}
    (inside : point ∈ natText number) : IsDigit point := by
  unfold natText at inside
  obtain ⟨char, charInside, rfl⟩ := List.mem_map.mp inside
  have digit := Nat.isDigit_of_mem_toDigits (by decide) (Nat.le_refl 10) charInside
  simp only [Char.isDigit, Bool.and_eq_true, decide_eq_true_eq] at digit
  have low : 48 ≤ char.val.toNat := digit.1
  have high : char.val.toNat ≤ 57 := digit.2
  show 0x30 ≤ char.val.toNat ∧ char.val.toNat < 0x3A
  omega

theorem natText_of_lt {number : Nat} (small : number < 10) :
    natText number = [CodePoint.ofChar number.digitChar] := by
  rw [natText, Nat.toDigits_of_lt_base small]
  rfl

theorem natText_of_le {number : Nat} (large : 10 ≤ number) :
    natText number = natText (number / 10) ++ natText (number % 10) := by
  rw [natText, Nat.toDigits_of_base_le (by decide) large, List.map_append,
    natText_of_lt (Nat.mod_lt number (by decide))]
  rfl

/-- The digits of a positive number start with one other than zero. -/
theorem natText_eq_cons {number : Nat} (positive : 0 < number) :
    ∃ first rest, natText number = first :: rest ∧ 0x31 ≤ first.val := by
  induction number using Nat.strongRecOn with
  | _ number known =>
    by_cases large : 10 ≤ number
    · obtain ⟨first, rest, digits, nonzero⟩ := known (number / 10) (by omega) (by omega)
      refine ⟨first, rest ++ natText (number % 10), ?_, nonzero⟩
      rw [natText_of_le large, digits]
      rfl
    · refine ⟨CodePoint.ofChar number.digitChar, [], natText_of_lt (by omega), ?_⟩
      have digits : ∀ digit < 10, 0 < digit →
          0x31 ≤ (CodePoint.ofChar (Nat.digitChar digit)).val := by decide
      exact digits number (by omega) positive

/-! ## Lengths -/

theorem value_lt (digits : Text) (allDigits : ∀ point ∈ digits, IsDigit point) :
    value digits < 10 ^ digits.length := by
  induction digits using List.reverseRecOn with
  | nil => decide
  | append_singleton digits last known =>
    have bound := known fun point inside => allDigits point (List.mem_append_left _ inside)
    have digit := allDigits last (by simp)
    unfold IsDigit at digit
    have split : value (digits ++ [last]) = 10 * value digits + digitValue last := by
      simp [value, List.foldl_append]
    rw [split, digitValue, List.length_append, List.length_singleton, Nat.pow_succ]
    omega

/-- The first digit counts as often as its place tells. -/
theorem le_value_cons (first : CodePoint) (rest : Text) :
    digitValue first * 10 ^ rest.length ≤ value (first :: rest) := by
  induction rest using List.reverseRecOn with
  | nil => simp [value]
  | append_singleton rest last known =>
    have split : value (first :: (rest ++ [last])) =
        10 * value (first :: rest) + digitValue last := by
      simp [value, List.foldl_append]
    rw [split, List.length_append, List.length_singleton, Nat.pow_succ, ← Nat.mul_assoc]
    omega

/-- Writing the number that digits denote takes no more digits than were read. -/
theorem natText_value_length {digits : Text} (nonempty : digits ≠ [])
    (allDigits : ∀ point ∈ digits, IsDigit point) :
    (natText (value digits)).length ≤ digits.length := by
  rw [natText, List.length_map]
  apply (Nat.length_toDigits_le_iff (by decide) (List.length_pos_iff.mpr nonempty)).mpr
  exact value_lt digits allDigits

theorem dropSign_length (text : Text) : (dropSign text).length ≤ text.length := by
  unfold dropSign
  split
  · simp
  · exact Nat.le_refl _

/-! ## Decimal integers -/

theorem isDecimalInteger_intText (number : Int) : IsDecimalInteger (intText number) := by
  cases number with
  | ofNat number =>
    exact ⟨natText number, natText_ne_nil number, fun _ => isDigit_of_mem_natText number, .inl rfl⟩
  | negSucc number =>
    exact ⟨natText (number + 1), natText_ne_nil _, fun _ => isDigit_of_mem_natText _, .inr rfl⟩

/-- Every code point of a decimal integer is a digit or the minus sign. -/
theorem IsDecimalInteger.mem {text : Text} (decimal : IsDecimalInteger text) {point : CodePoint}
    (inside : point ∈ text) : IsDigit point ∨ point = minus := by
  rcases decimal with ⟨digits, -, allDigits, rfl | rfl⟩
  · exact .inl (allDigits point inside)
  · rcases List.mem_cons.mp inside with rfl | inDigits
    · exact .inr rfl
    · exact .inl (allDigits point inDigits)

theorem IsDecimalInteger.not_of_mem {text : Text} {point : CodePoint} (inside : point ∈ text)
    (notDigit : ¬ IsDigit point) (notMinus : point ≠ minus) : ¬ IsDecimalInteger text := by
  intro decimal
  exact (decimal.mem inside).elim notDigit notMinus

instance (text : Text) : Decidable (IsDecimalInteger text) :=
  decidable_of_iff
    ((text ≠ [] ∧ ∀ point ∈ text, IsDigit point) ∨
      (text.head? = some minus ∧ text.tail ≠ [] ∧ ∀ point ∈ text.tail, IsDigit point)) (by
    constructor
    · rintro (⟨nonempty, allDigits⟩ | ⟨signed, nonempty, allDigits⟩)
      · exact ⟨text, nonempty, allDigits, .inl rfl⟩
      · exact ⟨text.tail, nonempty, allDigits, .inr (List.eq_cons_of_mem_head? signed)⟩
    · rintro ⟨digits, nonempty, allDigits, rfl | rfl⟩
      · exact .inl ⟨nonempty, allDigits⟩
      · exact .inr ⟨rfl, nonempty, allDigits⟩)

example : IsDecimalInteger (Text.ofString "-071") ∧ ¬ IsDecimalInteger (Text.ofString "1.0") := by
  decide

end MicrochipDay.Library.Decimal
