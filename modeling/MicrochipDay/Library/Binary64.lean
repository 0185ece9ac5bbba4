import Mathlib.Data.List.DropRight
import Mathlib.Data.Nat.Log
import MicrochipDay.Library.Decimal

/-!
Owns the text of a binary64 float: the shortest decimal that rounds to it, laid
out with a decimal point or an exponent, so that no float reads as an integer.
-/

namespace MicrochipDay.Library.Binary64

open MicrochipDay.Library.Unicode
open MicrochipDay.Library.Decimal

/-! ## The shortest decimal -/

/-- A decimal `digits * 10 ^ exponent`. -/
structure Decimal where
  digits : Nat
  exponent : Int

def Decimal.toFloat (decimal : Decimal) : Float.Model :=
  Float.Model.ofScientific decimal.digits decimal.exponent

/-- The positive number `numerator / denominator` times `10 ^ shift`, as a fraction. -/
def shifted (numerator denominator : Nat) (shift : Int) : Nat × Nat :=
  (numerator * 10 ^ shift.toNat, denominator * 10 ^ (-shift).toNat)

/-- The place of the first digit; no positive float is below `10 ^ (-400)`. -/
def firstPlace (numerator denominator : Nat) : Int :=
  (Nat.log 10 (numerator * 10 ^ 400 / denominator) : Int) - 400

/-- The decimals of `precision` digits on either side of the fraction, the closer one first. -/
def neighbours (numerator denominator precision : Nat) : Decimal × Decimal :=
  let exponent := firstPlace numerator denominator + 1 - precision
  let fraction := shifted numerator denominator (-exponent)
  let below : Decimal := ⟨fraction.1 / fraction.2, exponent⟩
  let above : Decimal := ⟨fraction.1 / fraction.2 + 1, exponent⟩
  let rest := 2 * (fraction.1 % fraction.2)
  if rest < fraction.2 ∨ rest = fraction.2 ∧ below.digits % 2 = 0 then (below, above)
  else (above, below)

/-- The decimal of `precision` digits that rounds to `target`, the value of the fraction. -/
def atPrecision (numerator denominator : Nat) (target : Float.Model) (precision : Nat) :
    Option Decimal :=
  let candidates := neighbours numerator denominator precision
  if candidates.1.toFloat = target then some candidates.1
  else if candidates.2.toFloat = target then some candidates.2
  else none

/-- The closest decimal of seventeen digits always rounds to the float. -/
def shortest (numerator denominator : Nat) (target : Float.Model) : Decimal :=
  (((List.range 16).map (· + 1)).findSome? (atPrecision numerator denominator target)).getD
    (neighbours numerator denominator 17).1

/-! ## The layout -/

def dot : CodePoint := CodePoint.ofChar '.'

def exponentMark : CodePoint := CodePoint.ofChar 'e'

def zero : CodePoint := CodePoint.ofChar '0'

/-- An exponent has a sign and at least two digits. -/
def exponentText (exponent : Int) : Text :=
  (if exponent < 0 then minus else CodePoint.ofChar '+') ::
    (if exponent.natAbs < 10 then zero :: natText exponent.natAbs else natText exponent.natAbs)

/-- The digits with the decimal point after the first `point` of them; an
exponent is used where more than four zeros or sixteen digits would be needed. -/
def layout (digits : Text) (point : Int) : Text :=
  if point ≤ -4 ∨ 16 < point then
    digits.take 1 ++ (if digits.length = 1 then [] else dot :: digits.drop 1) ++
      exponentMark :: exponentText (point - 1)
  else if point ≤ 0 then zero :: dot :: (List.replicate (-point).toNat zero ++ digits)
  else if digits.length ≤ point.toNat then
    digits ++ List.replicate (point.toNat - digits.length) zero ++ [dot, zero]
  else digits.take point.toNat ++ dot :: digits.drop point.toNat

def decimalText (decimal : Decimal) : Text :=
  let digits := natText decimal.digits
  layout (digits.rdropWhile (· = zero)) (digits.length + decimal.exponent)

/-- The text of the positive float `mantissa * 2 ^ exponent`. -/
def finiteText (mantissa : Nat) (exponent : Int) (target : Float.Model) : Text :=
  decimalText (shortest (mantissa * 2 ^ exponent.toNat) (2 ^ (-exponent).toNat) target)

def signed (sign : Float.Model.UnpackedFloat.Sign) (text : Text) : Text :=
  match sign with
  | .negative => minus :: text
  | .positive => text

/-- The text of a float; the infinities and the number that is none are named by the caller. -/
def floatText (infinity notANumber : Text) (float : Float.Model) : Text :=
  match float.unpack with
  | .notANumber => notANumber
  | .infinity sign => signed sign infinity
  | .zero sign => signed sign [zero, dot, zero]
  | .finite sign mantissa exponent _ =>
      signed sign (finiteText mantissa exponent (if sign == .negative then -float else float))

/-! ## Whole numbers -/

/-- The integer that a float equals. -/
def toInt (float : Float.Model) : Option Int :=
  match float.unpack with
  | .zero _ => some 0
  | .finite sign mantissa exponent _ =>
      let numerator := mantissa * 2 ^ exponent.toNat
      let denominator := 2 ^ (-exponent).toNat
      if denominator ∣ numerator then
        let size : Int := (numerator / denominator : Nat)
        some (if sign == .negative then -size else size)
      else none
  | _ => none

/-! ## No float reads as an integer -/

/-- A text with a code point that no decimal integer has. -/
def HasMark (text : Text) : Prop := ∃ point ∈ text, ¬ IsDigit point ∧ point ≠ minus

theorem HasMark.not_decimalInteger {text : Text} (marked : HasMark text) :
    ¬ IsDecimalInteger text := by
  obtain ⟨point, inside, notDigit, notMinus⟩ := marked
  exact IsDecimalInteger.not_of_mem inside notDigit notMinus

theorem hasMark_layout (digits : Text) (point : Int) : HasMark (layout digits point) := by
  unfold layout
  split
  · exact ⟨exponentMark, by simp, by decide, by decide⟩
  · split
    · exact ⟨dot, by simp, by decide, by decide⟩
    · split
      · exact ⟨dot, by simp, by decide, by decide⟩
      · exact ⟨dot, by simp, by decide, by decide⟩

theorem HasMark.signed {text : Text} (marked : HasMark text)
    (sign : Float.Model.UnpackedFloat.Sign) : HasMark (signed sign text) := by
  obtain ⟨point, inside, mark⟩ := marked
  cases sign with
  | negative => exact ⟨point, List.mem_cons_of_mem minus inside, mark⟩
  | positive => exact ⟨point, inside, mark⟩

theorem hasMark_floatText {infinity notANumber : Text} (infinityMark : HasMark infinity)
    (notANumberMark : HasMark notANumber) (float : Float.Model) :
    HasMark (floatText infinity notANumber float) := by
  unfold floatText
  split
  · exact notANumberMark
  · exact infinityMark.signed _
  · exact HasMark.signed ⟨dot, by simp, by decide, by decide⟩ _
  · apply HasMark.signed
    exact hasMark_layout _ _

end MicrochipDay.Library.Binary64
