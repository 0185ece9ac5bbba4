import Mathlib.Data.List.Basic
import Mathlib.Data.Nat.Bitwise
import Mathlib.Tactic.Ring

/-!
Owns the remaining-length field of MQTT 3.1.1 (section 2.2.3): one to four
bytes, seven value bits each, least significant group first, with bit 7 set on
every byte but the last.
-/

namespace MicrochipDay.Library.Mqtt

/-! ## Bytes of the field -/

/-- Bit 7 of a length byte: another length byte follows. -/
def Continues (byte : UInt8) : Prop := 128 ≤ byte.toNat

instance (byte : UInt8) : Decidable (Continues byte) := by
  unfold Continues
  infer_instance

def digit (byte : UInt8) : Nat := byte.toNat % 128

theorem and_127 (byte : UInt8) : (byte &&& 0x7f).toNat = digit byte := by
  rw [UInt8.toNat_and]
  exact Nat.and_two_pow_sub_one_eq_mod byte.toNat 7

theorem and_128_ne_zero_iff (byte : UInt8) : byte &&& 0x80 ≠ 0 ↔ Continues byte := by
  have bit : (byte &&& 0x80).toNat = byte.toNat / 128 % 2 * 128 := by
    rw [UInt8.toNat_and]
    exact (Nat.and_two_pow byte.toNat 7).trans (by rw [Nat.toNat_testBit]; rfl)
  have range := byte.toNat_lt
  rw [Ne, ← UInt8.toNat_inj, bit, Continues]
  show ¬ byte.toNat / 128 % 2 * 128 = 0 ↔ _
  omega

/-! ## Complete fields -/

/-- Bit 7 is set on every byte but the last. -/
def CompleteField : List UInt8 → Prop
  | [] => False
  | byte :: rest => if Continues byte then CompleteField rest else rest = []

def fieldValue : List UInt8 → Nat
  | [] => 0
  | byte :: rest => digit byte + 128 * fieldValue rest

theorem CompleteField.ne_nil {field : List UInt8} (complete : CompleteField field) :
    field ≠ [] := by
  rintro rfl
  exact complete

/-! ## Encoding -/

/-- The digits of `value`, at most `extra + 1` of them. -/
def encodeDigits : Nat → Nat → List UInt8
  | 0, value => [UInt8.ofNat value]
  | extra + 1, value =>
      if value < 128 then [UInt8.ofNat value]
      else UInt8.ofNat (value % 128 + 128) :: encodeDigits extra (value / 128)

/-- The remaining-length field of `value`, which is below `128 ^ 4`. -/
def encodeRemainingLength (value : Nat) : List UInt8 := encodeDigits 3 value

theorem ofNat_not_continues {value : Nat} (small : value < 128) :
    ¬ Continues (UInt8.ofNat value) := by
  simp only [Continues, UInt8.toNat_ofNat', Nat.reducePow]
  omega

theorem ofNat_continues (value : Nat) :
    Continues (UInt8.ofNat (value % 128 + 128)) := by
  simp only [Continues, UInt8.toNat_ofNat', Nat.reducePow]
  omega

theorem digit_ofNat {value : Nat} (small : value < 128) :
    digit (UInt8.ofNat value) = value := by
  simp only [digit, UInt8.toNat_ofNat', Nat.reducePow]
  omega

theorem digit_ofNat_continues (value : Nat) :
    digit (UInt8.ofNat (value % 128 + 128)) = value % 128 := by
  simp only [digit, UInt8.toNat_ofNat', Nat.reducePow]
  omega

theorem encodeDigits_ne_nil (extra value : Nat) : encodeDigits extra value ≠ [] := by
  cases extra with
  | zero => simp [encodeDigits]
  | succ extra =>
      rw [encodeDigits]
      split <;> simp

theorem encodeDigits_length_le (extra value : Nat) :
    (encodeDigits extra value).length ≤ extra + 1 := by
  induction extra generalizing value with
  | zero => simp [encodeDigits]
  | succ extra inductionHypothesis =>
      rw [encodeDigits]
      split
      · simp
      · have shorter := inductionHypothesis (value / 128)
        simp only [List.length_cons]
        omega

theorem encodeDigits_complete {extra value : Nat} (bounded : value < 128 ^ (extra + 1)) :
    CompleteField (encodeDigits extra value) ∧ fieldValue (encodeDigits extra value) = value := by
  induction extra generalizing value with
  | zero =>
      have small : value < 128 := by simpa using bounded
      simp [encodeDigits, CompleteField, fieldValue, ofNat_not_continues small, digit_ofNat small]
  | succ extra inductionHypothesis =>
      rw [encodeDigits]
      by_cases small : value < 128
      · simp [small, CompleteField, fieldValue, ofNat_not_continues small, digit_ofNat small]
      · have quotient : value / 128 < 128 ^ (extra + 1) := by
          rw [Nat.div_lt_iff_lt_mul (by decide)]
          rw [Nat.pow_succ] at bounded
          exact bounded
        obtain ⟨complete, denotes⟩ := inductionHypothesis quotient
        rw [if_neg small]
        refine ⟨?_, ?_⟩
        · rw [CompleteField, if_pos (ofNat_continues value)]
          exact complete
        · rw [fieldValue, denotes, digit_ofNat_continues]
          exact Nat.mod_add_div value 128

/-- No other field with the same value is shorter. -/
theorem encodeDigits_shortest (extra : Nat) {value : Nat} {field : List UInt8}
    (nonempty : field ≠ []) (denotes : fieldValue field = value) :
    (encodeDigits extra value).length ≤ field.length := by
  induction extra generalizing value field with
  | zero =>
      rw [encodeDigits]
      exact List.length_pos_of_ne_nil nonempty
  | succ extra inductionHypothesis =>
      rw [encodeDigits]
      by_cases small : value < 128
      · rw [if_pos small]
        exact List.length_pos_of_ne_nil nonempty
      · rw [if_neg small]
        cases field with
        | nil => exact absurd rfl nonempty
        | cons byte rest =>
            have digitSmall : digit byte < 128 := Nat.mod_lt _ (by decide)
            rw [fieldValue] at denotes
            have quotient : fieldValue rest = value / 128 := by omega
            have more : rest ≠ [] := by
              rintro rfl
              rw [fieldValue] at quotient
              omega
            exact Nat.succ_le_succ (inductionHypothesis more quotient)

theorem encodeRemainingLength_shortest {field : List UInt8} (complete : CompleteField field) :
    (encodeRemainingLength (fieldValue field)).length ≤ field.length :=
  encodeDigits_shortest 3 complete.ne_nil rfl

theorem encodeRemainingLength_complete {value : Nat} (bounded : value < 128 ^ 4) :
    CompleteField (encodeRemainingLength value) ∧
      fieldValue (encodeRemainingLength value) = value :=
  encodeDigits_complete bounded

theorem encodeRemainingLength_length_le (value : Nat) :
    (encodeRemainingLength value).length ≤ 4 :=
  encodeDigits_length_le 3 value

theorem encodeRemainingLength_length_of_small {value : Nat} (small : value < 128) :
    (encodeRemainingLength value).length = 1 := by
  simp [encodeRemainingLength, encodeDigits, small]

theorem encodeRemainingLength_length_of_medium {value : Nat} (large : 128 ≤ value)
    (medium : value < 16384) : (encodeRemainingLength value).length = 2 := by
  have notSmall : ¬ value < 128 := by omega
  have quotient : value / 128 < 128 := by omega
  simp [encodeRemainingLength, encodeDigits, notSmall, quotient]

/-! ## Decoding -/

/-- Read a field of at most `extra + 1` bytes. -/
def decodeDigits : Nat → List UInt8 → Option (Nat × List UInt8)
  | _, [] => none
  | 0, byte :: rest => if Continues byte then none else some (digit byte, rest)
  | extra + 1, byte :: rest =>
      if Continues byte then
        (decodeDigits extra rest).map fun result => (digit byte + 128 * result.1, result.2)
      else some (digit byte, rest)

/-- Read the remaining-length field: at most four bytes. -/
def decodeRemainingLength (bytes : List UInt8) : Option (Nat × List UInt8) := decodeDigits 3 bytes

/-- Every complete field of at most `extra + 1` bytes is read, the shortest one or not. -/
theorem decodeDigits_complete {extra : Nat} {field : List UInt8} (complete : CompleteField field)
    (short : field.length ≤ extra + 1) (rest : List UInt8) :
    decodeDigits extra (field ++ rest) = some (fieldValue field, rest) := by
  induction field generalizing extra with
  | nil => exact absurd rfl complete.ne_nil
  | cons byte others inductionHypothesis =>
      rw [CompleteField] at complete
      rw [fieldValue, List.cons_append]
      by_cases continues : Continues byte
      · rw [if_pos continues] at complete
        have more := List.length_pos_of_ne_nil complete.ne_nil
        rw [List.length_cons] at short
        cases extra with
        | zero => omega
        | succ extra =>
            rw [decodeDigits, if_pos continues, inductionHypothesis complete (by omega),
              Option.map_some]
      · rw [if_neg continues] at complete
        subst complete
        cases extra with
        | zero => exact if_neg continues
        | succ extra => exact if_neg continues

theorem decodeDigits_encodeDigits {extra value : Nat} (bounded : value < 128 ^ (extra + 1))
    (rest : List UInt8) :
    decodeDigits extra (encodeDigits extra value ++ rest) = some (value, rest) := by
  obtain ⟨complete, denotes⟩ := encodeDigits_complete bounded
  rw [decodeDigits_complete complete (encodeDigits_length_le extra value), denotes]

theorem decodeRemainingLength_encode {value : Nat} (bounded : value < 128 ^ 4)
    (rest : List UInt8) :
    decodeRemainingLength (encodeRemainingLength value ++ rest) = some (value, rest) :=
  decodeDigits_encodeDigits bounded rest

end MicrochipDay.Library.Mqtt
