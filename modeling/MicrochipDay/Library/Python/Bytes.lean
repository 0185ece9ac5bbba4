import MicrochipDay.Library.Python.Scalars

/-!
Owns the ASCII codec between Python's `bytes` and `str`, and the two functions
of `binascii` that spell bytes in hexadecimal.

Where Python raises, the functions here are `none`.
-/

namespace MicrochipDay.Library.Python

open MicrochipDay.Library.Unicode
open MicrochipDay.Library.Decimal

/-! ## ASCII -/

instance (text : Text) : Decidable (IsAscii text) := by
  unfold IsAscii
  infer_instance

/-- A code point for each byte. -/
def pointOfByte (byte : UInt8) : CodePoint := ⟨byte.toNat, by have := byte.toNat_lt; omega⟩

def byteOfPoint (point : CodePoint) : UInt8 := UInt8.ofNat point.val

/-- `str.encode('ascii')`. -/
def encodeAscii (text : Text) : Option (List UInt8) :=
  if IsAscii text then some (text.map byteOfPoint) else none

instance decidableAsciiBytes (bytes : List UInt8) :
    Decidable (∀ byte ∈ bytes, byte.toNat < 0x80) :=
  List.decidableBAll _ bytes

/-- `bytes.decode('ascii')`. -/
def decodeAscii (bytes : List UInt8) : Option Text :=
  if ∀ byte ∈ bytes, byte.toNat < 0x80 then some (bytes.map pointOfByte) else none

@[simp] theorem byteOfPoint_pointOfByte (byte : UInt8) : byteOfPoint (pointOfByte byte) = byte :=
  UInt8.ofNat_toNat

theorem toNat_byteOfPoint {point : CodePoint} (small : point.val < 0x80) :
    (byteOfPoint point).toNat = point.val := by
  unfold byteOfPoint
  rw [UInt8.toNat_ofNat']
  omega

theorem pointOfByte_byteOfPoint {point : CodePoint} (small : point.val < 0x80) :
    pointOfByte (byteOfPoint point) = point := CodePoint.ext (toNat_byteOfPoint small)

theorem encodeAscii_of_isAscii {text : Text} (ascii : IsAscii text) :
    encodeAscii text = some (text.map byteOfPoint) := if_pos ascii

/-- The decoder undoes the encoder. -/
theorem decodeAscii_map {text : Text} (ascii : IsAscii text) :
    decodeAscii (text.map byteOfPoint) = some text := by
  have small : ∀ byte ∈ text.map byteOfPoint, byte.toNat < 0x80 := by
    intro byte inside
    obtain ⟨point, inText, rfl⟩ := List.mem_map.mp inside
    rw [toNat_byteOfPoint (ascii point inText)]
    exact ascii point inText
  have restored : ∀ point ∈ text, pointOfByte (byteOfPoint point) = point :=
    fun point inside => pointOfByte_byteOfPoint (ascii point inside)
  rw [decodeAscii, if_pos small, List.map_map]
  exact congrArg some ((List.map_congr_left restored).trans (List.map_id text))

theorem decodeAscii_eq_some_iff {bytes : List UInt8} {text : Text} :
    decodeAscii bytes = some text ↔
      (∀ byte ∈ bytes, byte.toNat < 0x80) ∧ bytes.map pointOfByte = text := by
  unfold decodeAscii
  split
  · next small =>
      exact ⟨fun same => ⟨small, Option.some.inj same⟩, fun same => congrArg some same.2⟩
  · next large => exact iff_of_false (fun impossible => nomatch impossible) fun same => large same.1

/-! ## Hexadecimal -/

/-- Two digits for each byte, the letters in lower case. -/
def hexOfBytes (data : List UInt8) : Text := data.flatMap fun byte => hexText 2 byte.toNat

/-- `binascii.b2a_hex`. -/
def b2aHex (data : List UInt8) : List UInt8 := (hexOfBytes data).map byteOfPoint

/-- `binascii.a2b_hex` on a `str`. -/
def a2bHex : Text → Option (List UInt8)
  | [] => some []
  | [_] => none
  | high :: low :: rest =>
      match hexValue high, hexValue low, a2bHex rest with
      | some high, some low, some data => some (UInt8.ofNat (high * 16 + low) :: data)
      | _, _, _ => none

theorem hexOfBytes_cons (byte : UInt8) (data : List UInt8) :
    hexOfBytes (byte :: data) =
      CodePoint.ofChar (Nat.digitChar (byte.toNat / 16 % 16)) ::
        CodePoint.ofChar (Nat.digitChar (byte.toNat % 16)) :: hexOfBytes data := rfl

theorem hexOfBytes_length (data : List UInt8) : (hexOfBytes data).length = 2 * data.length := by
  induction data with
  | nil => rfl
  | cons byte data inductionHypothesis =>
      rw [hexOfBytes_cons, List.length_cons, List.length_cons, inductionHypothesis,
        List.length_cons]
      omega

/-- The code points of a spelling are digits and the letters from a to f. -/
theorem mem_hexOfBytes {data : List UInt8} {point : CodePoint} (inside : point ∈ hexOfBytes data) :
    ∃ digit < 16, point = CodePoint.ofChar (Nat.digitChar digit) := by
  induction data with
  | nil => exact absurd inside List.not_mem_nil
  | cons byte data inductionHypothesis =>
      rw [hexOfBytes_cons] at inside
      cases inside with
      | head => exact ⟨_, Nat.mod_lt _ (by decide), rfl⟩
      | tail _ inside =>
          cases inside with
          | head => exact ⟨_, Nat.mod_lt _ (by decide), rfl⟩
          | tail _ inside => exact inductionHypothesis inside

theorem isAscii_hexOfBytes (data : List UInt8) : IsAscii (hexOfBytes data) := by
  intro point inside
  have digits : ∀ digit < 16, (CodePoint.ofChar (Nat.digitChar digit)).val < 0x80 := by decide
  obtain ⟨digit, small, rfl⟩ := mem_hexOfBytes inside
  exact digits digit small

theorem decodeAscii_b2aHex (data : List UInt8) :
    decodeAscii (b2aHex data) = some (hexOfBytes data) :=
  decodeAscii_map (isAscii_hexOfBytes data)

theorem encodeAscii_hexOfBytes (data : List UInt8) :
    encodeAscii (hexOfBytes data) = some (b2aHex data) :=
    encodeAscii_of_isAscii (isAscii_hexOfBytes data)

/-- Spelled bytes are read back. -/
theorem a2bHex_hexOfBytes (data : List UInt8) : a2bHex (hexOfBytes data) = some data := by
  induction data with
  | nil => rfl
  | cons byte data inductionHypothesis =>
      have small := byte.toNat_lt
      have value : byte.toNat / 16 % 16 * 16 + byte.toNat % 16 = byte.toNat := by omega
      rw [hexOfBytes_cons, a2bHex, hexValue_digitChar (Nat.mod_lt _ (by decide)),
        hexValue_digitChar (Nat.mod_lt _ (by decide)), inductionHypothesis]
      dsimp only
      rw [value, UInt8.ofNat_toNat]

end MicrochipDay.Library.Python
