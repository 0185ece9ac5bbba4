import Mathlib.Algebra.Group.Nat.Defs
import Mathlib.Data.Nat.Basic
import Mathlib.Order.Basic
import MicrochipDay.Library.BigEndian

/-!
Owns the parts of the distinguished encoding rules that every type shares:
objects of a one-byte tag, a definite length in its short or its long form and a
value, and the contents of integers.
-/

namespace MicrochipDay.Library.Der

open MicrochipDay.Library.BigEndian

/-! ## Objects -/

/-- Octets that announce the length of a value: one octet below 128, or the number
of the octets that follow, up to 126, with bit 7 set. -/
inductive LengthOctets : List UInt8 → Nat → Prop where
  | short {octet : UInt8} (small : octet.toNat < 128) : LengthOctets [octet] octet.toNat
  | long {octets : List UInt8} (some : octets ≠ []) (few : octets.length < 127) :
      LengthOctets (UInt8.ofNat (128 + octets.length) :: octets) (fromBytes octets)

/-- An object whose octets of length tell the length of its value. -/
structure Tlv where
  tag : UInt8
  lengthOctets : List UInt8
  value : List UInt8
  announced : LengthOctets lengthOctets value.length

namespace Tlv

def header (tlv : Tlv) : List UInt8 := tlv.tag :: tlv.lengthOctets

def encode (tlv : Tlv) : List UInt8 := tlv.header ++ tlv.value

theorem encode_length (tlv : Tlv) : tlv.encode.length = tlv.header.length + tlv.value.length :=
  List.length_append

end Tlv

/-! ## Shortest lengths -/

/-- The octets of a number without leading zeros. -/
def digits (number : Nat) : List UInt8 :=
  if number < 256 then [UInt8.ofNat number]
  else digits (number / 256) ++ [UInt8.ofNat (number % 256)]

theorem fromBytes_digits (number : Nat) : fromBytes (digits number) = number := by
  induction number using digits.induct with
  | case1 number small =>
      rw [digits, if_pos small, fromBytes_singleton, UInt8.toNat_ofNat_of_lt' small]
  | case2 number large inductionHypothesis =>
      have digit : (UInt8.ofNat (number % 256)).toNat = number % 256 :=
        UInt8.toNat_ofNat_of_lt' (Nat.mod_lt number (by decide))
      rw [digits, if_neg large, fromBytes_concat, inductionHypothesis, digit]
      omega

theorem digits_ne_nil (number : Nat) : digits number ≠ [] := by
  rw [digits]
  split <;> simp

theorem digits_length_le {number width : Nat} (fits : number < 256 ^ (width + 1)) :
    (digits number).length ≤ width + 1 := by
  induction width generalizing number with
  | zero =>
      have small : number < 256 := by simpa using fits
      have single : digits number = [UInt8.ofNat number] := by rw [digits, if_pos small]
      exact (congrArg List.length single).le
  | succ width inductionHypothesis =>
      rw [digits]
      split
      · simp
      · rw [pow_succ] at fits
        have shorter := inductionHypothesis (show number / 256 < 256 ^ (width + 1) by omega)
        rw [List.length_append, List.length_singleton]
        omega

/-- The octets of a number are its bytes in the least width that it fits. -/
theorem digits_eq_toBytes {width number : Nat} (atLeast : 256 ^ width ≤ number)
    (less : number < 256 ^ (width + 1)) : digits number = toBytes (width + 1) number := by
  induction width generalizing number with
  | zero =>
      have small : number < 256 := by simpa using less
      rw [digits, if_pos small, toBytes, Nat.mod_eq_of_lt small]
      rfl
  | succ width inductionHypothesis =>
      have large : ¬number < 256 := by
        have positive : 0 < 256 ^ width := Nat.pow_pos (by decide)
        rw [Nat.pow_succ] at atLeast
        omega
      rw [Nat.pow_succ] at atLeast less
      rw [digits, if_neg large, toBytes, @inductionHypothesis (number / 256) (by omega) (by omega)]

/-- The only octets that announce a length under the distinguished rules. -/
def lengthOctets (length : Nat) : List UInt8 :=
  if length < 128 then [UInt8.ofNat length]
  else UInt8.ofNat (128 + (digits length).length) :: digits length

theorem lengthOctets_announce {length : Nat} (fits : length < 256 ^ 126) :
    LengthOctets (lengthOctets length) length := by
  unfold lengthOctets
  split
  · rename_i small
    have octet : (UInt8.ofNat length).toNat = length :=
      UInt8.toNat_ofNat_of_lt' (lt_of_lt_of_le small (by decide : 128 ≤ UInt8.size))
    have short : LengthOctets [UInt8.ofNat length] (UInt8.ofNat length).toNat :=
      LengthOctets.short (by omega)
    rwa [octet] at short
  · have few : (digits length).length ≤ 125 + 1 := digits_length_le fits
    have long := LengthOctets.long (digits_ne_nil length) (by omega)
    rwa [fromBytes_digits] at long

def header (tag : UInt8) (length : Nat) : List UInt8 := tag :: lengthOctets length

/-- The encoding of a value under the distinguished rules. -/
def encode (tag : UInt8) (value : List UInt8) : List UInt8 := header tag value.length ++ value

/-- The same as an object. -/
def object (tag : UInt8) (value : List UInt8) (fits : value.length < 256 ^ 126) : Tlv :=
  ⟨tag, lengthOctets value.length, value, lengthOctets_announce fits⟩

/-! ## Integers -/

/-- The value of an octet in two's complement. -/
def signed (octet : UInt8) : Int :=
  if octet.toNat < 128 then octet.toNat else (octet.toNat : Int) - 256

def integerValue : List UInt8 → Int
  | [] => 0
  | first :: rest => rest.foldl (fun value octet => value * 256 + octet.toNat) (signed first)

/-- The last octet of a number in two's complement. -/
def lowOctet (value : Int) : UInt8 := UInt8.ofNat (value % 256).toNat

/-- The contents of an integer: as few octets as its value allows. -/
def integerContent (value : Int) : List UInt8 :=
  if -128 ≤ value ∧ value < 128 then [lowOctet value]
  else integerContent (value / 256) ++ [lowOctet value]
termination_by value.natAbs
decreasing_by omega

/-- No octet of the contents could be left out: the first nine bits are neither all
zeros nor all ones. -/
def Minimal : List UInt8 → Prop
  | [] => False
  | [_] => True
  | first :: second :: _ =>
      ¬(first.toNat = 0 ∧ second.toNat < 128) ∧ ¬(first.toNat = 255 ∧ 128 ≤ second.toNat)

theorem toNat_lowOctet (value : Int) : ((lowOctet value).toNat : Int) = value % 256 := by
  unfold lowOctet
  rw [UInt8.toNat_ofNat_of_lt' (show (value % 256).toNat < UInt8.size by
    have size : UInt8.size = 256 := rfl
    omega)]
  omega

theorem signed_bounds (octet : UInt8) : -128 ≤ signed octet ∧ signed octet < 128 := by
  have small := octet.toNat_lt
  unfold signed
  split <;> omega

theorem signed_lowOctet {value : Int} (small : -128 ≤ value ∧ value < 128) :
    signed (lowOctet value) = value := by
  have low := toNat_lowOctet value
  unfold signed
  split <;> omega

theorem lowOctet_signed (octet : UInt8) : lowOctet (signed octet) = octet := by
  have small := octet.toNat_lt
  have low := toNat_lowOctet (signed octet)
  apply UInt8.toNat_inj.mp
  unfold signed at low ⊢
  split at low <;> split <;> omega

theorem integerValue_singleton (octet : UInt8) : integerValue [octet] = signed octet := rfl

theorem integerValue_concat {octets : List UInt8} (nonempty : octets ≠ []) (octet : UInt8) :
    integerValue (octets ++ [octet]) = integerValue octets * 256 + octet.toNat := by
  cases octets with
  | nil => exact absurd rfl nonempty
  | cons first rest =>
      show (rest ++ [octet]).foldl _ (signed first) = _
      rw [List.foldl_append]
      rfl

/-- Octets of a positive number spell it as they would without a sign. -/
theorem integerValue_of_positive {first : UInt8} (positive : first.toNat < 128)
    (rest : List UInt8) : integerValue (first :: rest) = fromBytes (first :: rest) := by
  induction rest using List.reverseRecOn with
  | nil =>
      rw [integerValue_singleton, fromBytes_singleton]
      exact if_pos positive
  | append_singleton rest octet inductionHypothesis =>
      rw [← List.cons_append, integerValue_concat (List.cons_ne_nil first rest),
        inductionHypothesis, fromBytes_concat]
      omega

theorem integerContent_of_small {value : Int} (small : -128 ≤ value ∧ value < 128) :
    integerContent value = [lowOctet value] := by
  rw [integerContent, if_pos small]

theorem integerContent_of_large {value : Int} (large : ¬(-128 ≤ value ∧ value < 128)) :
    integerContent value = integerContent (value / 256) ++ [lowOctet value] := by
  rw [integerContent, if_neg large]

theorem integerContent_ne_nil (value : Int) : integerContent value ≠ [] := by
  rw [integerContent]
  split <;> simp

theorem integerValue_content (value : Int) : integerValue (integerContent value) = value := by
  induction value using integerContent.induct with
  | case1 value small =>
      rw [integerContent_of_small small, integerValue_singleton, signed_lowOctet small]
  | case2 value large inductionHypothesis =>
      rw [integerContent_of_large large, integerValue_concat (integerContent_ne_nil _),
        inductionHypothesis, toNat_lowOctet]
      omega

theorem minimal_front {octets : List UInt8} {octet : UInt8} (nonempty : octets ≠ [])
    (minimal : Minimal (octets ++ [octet])) : Minimal octets := by
  cases octets with
  | nil => exact absurd rfl nonempty
  | cons first rest =>
      cases rest with
      | nil => trivial
      | cons second rest => exact minimal

/-- Minimal contents of more than one octet have a value that one octet has not. -/
theorem integerValue_large {octets : List UInt8} (minimal : Minimal octets)
    (longer : 1 < octets.length) :
    ¬(-128 ≤ integerValue octets ∧ integerValue octets < 128) := by
  induction octets using List.reverseRecOn with
  | nil => exact absurd minimal id
  | append_singleton octets octet inductionHypothesis =>
      have small := octet.toNat_lt
      have nonempty : octets ≠ [] := by
        rintro rfl
        exact absurd longer (by simp)
      have front := minimal_front nonempty minimal
      rw [integerValue_concat nonempty]
      by_cases single : octets.length = 1
      · obtain ⟨first, rfl⟩ := List.length_eq_one_iff.mp single
        obtain ⟨notZeros, notOnes⟩ := minimal
        have firstSmall := first.toNat_lt
        rw [integerValue_singleton]
        unfold signed
        split <;> omega
      · have positive := List.length_pos_iff.mpr nonempty
        have large := inductionHypothesis front (by omega)
        omega

/-- Minimal contents are the only minimal ones of their value. -/
theorem content_integerValue {octets : List UInt8} (minimal : Minimal octets) :
    integerContent (integerValue octets) = octets := by
  induction octets using List.reverseRecOn with
  | nil => exact absurd minimal id
  | append_singleton octets octet inductionHypothesis =>
      by_cases empty : octets = []
      · subst empty
        rw [List.nil_append, integerValue_singleton,
          integerContent_of_small (signed_bounds octet), lowOctet_signed]
      · have positive := List.length_pos_iff.mpr empty
        have large := integerValue_large minimal (by
          rw [List.length_append, List.length_singleton]
          omega)
        have small := octet.toNat_lt
        have value := integerValue_concat empty octet
        have high : integerValue (octets ++ [octet]) / 256 = integerValue octets := by omega
        have low : lowOctet (integerValue (octets ++ [octet])) = octet := by
          apply UInt8.toNat_inj.mp
          have last := toNat_lowOctet (integerValue (octets ++ [octet]))
          omega
        rw [integerContent_of_large large, high, low,
          inductionHypothesis (minimal_front empty minimal)]

end MicrochipDay.Library.Der
