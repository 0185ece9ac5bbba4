import MicrochipDay.Umqtt.Encoding
import MicrochipDay.Umqtt.Receive

/-!
Owns the round trip of `umqtt_encode_length` and `umqtt_decode_length` (umqtt.c) in an
`int` of any width: for every length that fits, the field is the shortest one, the decoder
returns the length, and no value that goes into a result overflows.

The multiplier that the decoder computes for a byte that does not follow may overflow: no
result depends on it.
-/

namespace MicrochipDay.Umqtt

open MicrochipDay.Library.Mqtt

/-- An `int` of `bits` bits has the value. -/
def FitsInt (bits : Nat) (value : Int) : Prop :=
  -(2 ^ (bits - 1) : Nat) ≤ value ∧ value < (2 ^ (bits - 1) : Nat)

instance (bits : Nat) (value : Int) : Decidable (FitsInt bits value) := by
  unfold FitsInt
  infer_instance

theorem fitsInt_natCast {bits value : Nat} : FitsInt bits value ↔ value < 2 ^ (bits - 1) := by
  unfold FitsInt
  omega

theorem FitsInt.cInt_eq {bits : Nat} {value : Int} (wide : 0 < bits) (fits : FitsInt bits value) :
    cInt bits value = value := by
  have halves := Nat.two_pow_pred_mul_two wide
  unfold FitsInt at fits
  apply Int.bmod_eq_of_le_mul_two <;> omega

/-! ## Values that a result is made of -/

/-- The values of the `int` variables `digit` and `len` in `umqtt_encode_length`. -/
def umqttEncodeLengthValues : Nat → Int → List Int
  | 0, _ => []
  | fuel + 1, len =>
      let digit := Int.tmod len 128
      let len := Int.tdiv len 128
      [digit, len, if len > 0 then (digit.toNat ||| 0x80 : Nat) else digit] ++
        if len ≠ 0 then umqttEncodeLengthValues fuel len else []

/-- The values in `umqtt_decode_length` that a result is made of, as they are without
overflow: `mul`, what it multiplies and `val`, for each byte that is read. -/
def umqttDecodeLengthValues (mul val : Int) : List UInt8 → List Int
  | [] => []
  | byte :: rest =>
      let product := (byte &&& 0x7f).toNat * mul
      let val := val + product
      [mul, product, val] ++
        if byte &&& 0x80 ≠ 0 then umqttDecodeLengthValues (mul * 128) val rest else []

theorem umqttEncodeLengthValues_fit {bits fuel value : Nat} (wide : 256 ≤ 2 ^ (bits - 1))
    (fits : value < 2 ^ (bits - 1)) :
    ∀ used ∈ umqttEncodeLengthValues fuel value, FitsInt bits used := by
  induction fuel generalizing value with
  | zero =>
      intro used member
      rw [umqttEncodeLengthValues] at member
      exact absurd member List.not_mem_nil
  | succ fuel inductionHypothesis =>
      have digit : Int.tmod value 128 = (value % 128 : Nat) := rfl
      have quotient : Int.tdiv value 128 = (value / 128 : Nat) := rfl
      have small : value % 128 < 128 := Nat.mod_lt value (by decide)
      have flagged : value % 128 ||| 0x80 < 256 :=
        Nat.or_lt_two_pow (n := 8) (by omega) (by decide)
      have below : value / 128 < 2 ^ (bits - 1) := by omega
      have rest := inductionHypothesis below
      intro used member
      rw [umqttEncodeLengthValues, digit, quotient] at member
      rcases List.mem_append.mp member with here | later
      · simp only [List.mem_cons, List.not_mem_nil, or_false, Int.toNat_natCast] at here
        rcases here with rfl | rfl | rfl
        · exact fitsInt_natCast.mpr (by omega)
        · exact fitsInt_natCast.mpr below
        · split
          · exact fitsInt_natCast.mpr (by omega)
          · exact fitsInt_natCast.mpr (by omega)
      · split at later
        · exact rest used later
        · exact absurd later List.not_mem_nil

/-- One byte of the decoder: the multiplier, the product and the sum. -/
private theorem decodeStep_fits {bits digit mul val : Nat} (mulFits : mul < 2 ^ (bits - 1))
    (sumFits : val + digit * mul < 2 ^ (bits - 1)) :
    ∀ used ∈ [(mul : Int), digit * mul, val + digit * mul], FitsInt bits used := by
  intro used member
  simp only [List.mem_cons, List.not_mem_nil, or_false] at member
  rcases member with rfl | rfl | rfl
  · exact fitsInt_natCast.mpr mulFits
  · have product := Nat.le_add_left (digit * mul) val
    exact_mod_cast fitsInt_natCast.mpr (Nat.lt_of_le_of_lt product sumFits)
  · exact_mod_cast fitsInt_natCast.mpr sumFits

/-- The value that is still to be decoded is not zero where a byte follows, so that its
product with the multiplier bounds the multiplier. -/
theorem umqttDecodeLengthValues_fit {bits extra value mul val : Nat}
    (bounded : value < 128 ^ (extra + 1)) (mulFits : mul < 2 ^ (bits - 1))
    (sumFits : val + value * mul < 2 ^ (bits - 1)) (behind : List UInt8) :
    ∀ used ∈ umqttDecodeLengthValues mul val (encodeDigits extra value ++ behind),
      FitsInt bits used := by
  induction extra generalizing value mul val with
  | zero =>
      have small : value < 128 := by simpa using bounded
      rw [encodeDigits, List.singleton_append, umqttDecodeLengthValues]
      simp only [and_128_ne_zero_iff, and_127, ofNat_not_continues small, digit_ofNat small]
      rw [if_false, List.append_nil]
      exact decodeStep_fits mulFits sumFits
  | succ extra inductionHypothesis =>
      rw [encodeDigits]
      by_cases small : value < 128
      · rw [if_pos small, List.singleton_append, umqttDecodeLengthValues]
        simp only [and_128_ne_zero_iff, and_127, ofNat_not_continues small, digit_ofNat small]
        rw [if_false, List.append_nil]
        exact decodeStep_fits mulFits sumFits
      · have quotientBounded : value / 128 < 128 ^ (extra + 1) := by
          rw [Nat.div_lt_iff_lt_mul (by decide)]
          rw [Nat.pow_succ] at bounded
          exact bounded
        have split : value % 128 * mul + value / 128 * (mul * 128) = value * mul := by
          calc value % 128 * mul + value / 128 * (mul * 128)
              = (value % 128 + 128 * (value / 128)) * mul := by ring
            _ = value * mul := by rw [Nat.mod_add_div]
        have next : mul * 128 ≤ value / 128 * (mul * 128) :=
          Nat.le_mul_of_pos_left _ (by omega)
        have stepFits : val + value % 128 * mul < 2 ^ (bits - 1) := by omega
        have rest := @inductionHypothesis (value / 128) (mul * 128) (val + value % 128 * mul)
          quotientBounded (by omega) (by omega)
        rw [if_neg small, List.cons_append, umqttDecodeLengthValues]
        simp only [and_128_ne_zero_iff, and_127, ofNat_continues, digit_ofNat_continues]
        intro used member
        rcases List.mem_append.mp member with here | later
        · exact decodeStep_fits mulFits stepFits used here
        · rw [if_pos trivial] at later
          exact rest used (by exact_mod_cast later)

/-! ## The round trip -/

/-- In an `int` of 16 bits `len` goes up to 32767, in one of 32 bits up to the largest
length that MQTT has. -/
theorem umqttLength_roundTrip {bits len : Nat} (wide : 16 ≤ bits) (fits : FitsInt bits len)
    (allowed : len ≤ 268435455) (behind : List UInt8) :
    1 ≤ (umqttEncodeLength len).length ∧ (umqttEncodeLength len).length ≤ 4 ∧
      CompleteField (umqttEncodeLength len) ∧
      (∀ field, CompleteField field → fieldValue field = len →
        (umqttEncodeLength len).length ≤ field.length) ∧
      umqttDecodeLength bits (umqttEncodeLength len ++ behind) =
        ((len : Int), (umqttEncodeLength len).length) ∧
      (∀ used ∈ umqttEncodeLengthValues (len + 1) len, FitsInt bits used) ∧
      ∀ used ∈ umqttDecodeLengthValues 1 0 (umqttEncodeLength len ++ behind),
        FitsInt bits used := by
  have bounded : len < 128 ^ 4 := by omega
  have room : 256 ≤ 2 ^ (bits - 1) := by
    have powers : 2 ^ 8 ≤ 2 ^ (bits - 1) := Nat.pow_le_pow_right (by decide) (by omega)
    exact powers
  have below := fitsInt_natCast.mp fits
  obtain ⟨complete, denotes⟩ := encodeRemainingLength_complete bounded
  rw [umqttEncodeLength_eq bounded]
  refine ⟨?_, encodeRemainingLength_length_le len, complete, ?_, ?_, ?_, ?_⟩
  · exact List.length_pos_of_ne_nil complete.ne_nil
  · rintro field fieldComplete rfl
    exact encodeRemainingLength_shortest fieldComplete
  · rw [umqttDecodeLength_complete bits complete, denotes, fits.cInt_eq (by omega)]
  · exact umqttEncodeLengthValues_fit room below
  · apply @umqttDecodeLengthValues_fit bits 3 len 1 0 bounded
    · omega
    · omega

theorem umqttLength_roundTrip_largest :
    umqttDecodeLength 16 (umqttEncodeLength 32767 ++ [0x80]) = (32767, 3) ∧
      umqttDecodeLength 32 (umqttEncodeLength 268435455 ++ [0x80]) = (268435455, 4) := by
  have narrow : FitsInt 16 32767 := by decide
  have full : FitsInt 32 268435455 := by decide
  obtain ⟨_, _, _, _, first, _⟩ := umqttLength_roundTrip (by decide) narrow (by decide) [0x80]
  obtain ⟨_, _, _, _, second, _⟩ := umqttLength_roundTrip (by decide) full (by decide) [0x80]
  exact ⟨first, second⟩

/-- The multiplier of a fourth byte is out of range on the device, where no length needs
one. -/
example : ¬FitsInt 16 (128 ^ 3) := by decide

end MicrochipDay.Umqtt
