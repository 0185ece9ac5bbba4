import Mathlib.Algebra.Group.Nat.Defs
import Mathlib.Data.List.Induction

/-!
Owns natural numbers as bytes, most significant byte first: the value of any
bytes, and the bytes of a value for a given width.
-/

namespace MicrochipDay.Library.BigEndian

def fromBytes (bytes : List UInt8) : Nat :=
  bytes.foldl (fun value byte => value * 256 + byte.toNat) 0

/-- The last `width` bytes of a value. -/
def toBytes : Nat → Nat → List UInt8
  | 0, _ => []
  | width + 1, value => toBytes width (value / 256) ++ [UInt8.ofNat (value % 256)]

@[simp] theorem fromBytes_nil : fromBytes [] = 0 := rfl

@[simp] theorem fromBytes_singleton (byte : UInt8) : fromBytes [byte] = byte.toNat := by
  simp [fromBytes]

theorem fromBytes_concat (bytes : List UInt8) (byte : UInt8) :
    fromBytes (bytes ++ [byte]) = fromBytes bytes * 256 + byte.toNat := by
  unfold fromBytes
  rw [List.foldl_append]
  rfl

theorem fromBytes_cons (byte : UInt8) (bytes : List UInt8) :
    fromBytes (byte :: bytes) = byte.toNat * 256 ^ bytes.length + fromBytes bytes := by
  induction bytes using List.reverseRecOn with
  | nil => simp
  | append_singleton bytes last inductionHypothesis =>
      rw [← List.cons_append, fromBytes_concat, fromBytes_concat, inductionHypothesis,
        List.length_append, List.length_singleton, Nat.pow_succ, Nat.add_mul, Nat.mul_assoc,
        Nat.add_assoc]

@[simp] theorem toBytes_length (width value : Nat) : (toBytes width value).length = width := by
  induction width generalizing value with
  | zero => rfl
  | succ width inductionHypothesis =>
      rw [toBytes, List.length_append, inductionHypothesis, List.length_singleton]

theorem toBytes_fromBytes (bytes : List UInt8) :
    toBytes bytes.length (fromBytes bytes) = bytes := by
  induction bytes using List.reverseRecOn with
  | nil => rfl
  | append_singleton bytes byte inductionHypothesis =>
      have small := byte.toNat_lt
      have high : (fromBytes bytes * 256 + byte.toNat) / 256 = fromBytes bytes := by omega
      have low : (fromBytes bytes * 256 + byte.toNat) % 256 = byte.toNat := by omega
      rw [List.length_append, List.length_singleton, toBytes, fromBytes_concat, high, low,
        inductionHypothesis, UInt8.ofNat_toNat]

theorem fromBytes_toBytes (width value : Nat) :
    fromBytes (toBytes width value) = value % 256 ^ width := by
  induction width generalizing value with
  | zero => exact (Nat.mod_one value).symm
  | succ width inductionHypothesis =>
      have byte : (UInt8.ofNat (value % 256)).toNat = value % 256 := by
        rw [UInt8.toNat_ofNat']
        exact Nat.mod_mod _ _
      rw [toBytes, fromBytes_concat, inductionHypothesis, byte, Nat.pow_succ', Nat.mod_mul,
        Nat.mul_comm, Nat.add_comm]

theorem fromBytes_lt (bytes : List UInt8) : fromBytes bytes < 256 ^ bytes.length := by
  have own := fromBytes_toBytes bytes.length (fromBytes bytes)
  rw [toBytes_fromBytes] at own
  rw [own]
  exact Nat.mod_lt _ (Nat.pow_pos (by decide))

/-- The bytes of a value are those of its high part and those of its low part. -/
theorem toBytes_add (high low value : Nat) :
    toBytes (high + low) value = toBytes high (value / 256 ^ low) ++ toBytes low value := by
  induction low generalizing value with
  | zero => rw [Nat.pow_zero, Nat.div_one, toBytes, List.append_nil, Nat.add_zero]
  | succ low inductionHypothesis =>
      have shifted : value / 256 / 256 ^ low = value / 256 ^ (low + 1) := by
        rw [Nat.div_div_eq_div_mul, Nat.pow_succ']
      rw [← Nat.add_assoc, toBytes, inductionHypothesis, shifted, List.append_assoc]
      rfl

theorem toBytes_zero (width : Nat) : toBytes width 0 = List.replicate width 0 := by
  induction width with
  | zero => rfl
  | succ width inductionHypothesis =>
      rw [toBytes, inductionHypothesis, List.replicate_succ']
      rfl

theorem ofNat_eq_of_mod {left right : Nat} (same : left % 256 = right % 256) :
    UInt8.ofNat left = UInt8.ofNat right := by
  apply UInt8.toNat_inj.mp
  rw [UInt8.toNat_ofNat', UInt8.toNat_ofNat']
  exact same

/-- The bytes of a value of four bytes, each cut out by itself. -/
theorem toBytes_four (value : Nat) :
    toBytes 4 value = [UInt8.ofNat (value / 16777216), UInt8.ofNat (value / 65536),
      UInt8.ofNat (value / 256), UInt8.ofNat value] := by
  have byte (number : Nat) : UInt8.ofNat (number % 256) = UInt8.ofNat number :=
    ofNat_eq_of_mod (Nat.mod_mod number 256)
  simp only [toBytes, byte, Nat.div_div_eq_div_mul, List.nil_append, List.cons_append]

theorem toBytes_four_of_mod {left right : Nat} (same : left % 2 ^ 32 = right % 2 ^ 32) :
    toBytes 4 left = toBytes 4 right := by
  simp only [toBytes_four, List.cons.injEq, and_true]
  refine ⟨?_, ?_, ?_, ?_⟩ <;> exact ofNat_eq_of_mod (by omega)

end MicrochipDay.Library.BigEndian
