import MicrochipDay.Cloud.RunTask
import MicrochipDay.Cloud.ShadowDelta

/-!
Owns the telemetry: `SENSORS_getTempValue` (sensors_handling.c) on the contents
of the sensor's register, and the document that `publishADC` builds from it. The
document is always well formed and fits its buffer; its temperature is the
measured one for temperatures that are not below zero.
-/

namespace MicrochipDay.Cloud

open MicrochipDay.Umqtt
open MicrochipDay.Library.Unicode
open MicrochipDay.Library.Decimal
open MicrochipDay.Library.Json

/-! ## The sensor -/

/-- `SENSORS_getTempValue` on the contents of the temperature register. -/
def sensorsGetTempValue (register : UInt16) : Int16 :=
  let temperature : Int32 := Int32.ofInt register.toNat
  let temperature := temperature <<< 19
  let temperature := temperature >>> 19
  let temperature := temperature * 100
  let temperature := temperature / 16
  temperature.toInt16

/-- The sixteenths of a degree that the low thirteen bits of the register stand for. -/
def sixteenths (register : UInt16) : Int :=
  if register.toNat % 8192 < 4096 then register.toNat % 8192
  else (register.toNat % 8192 : Int) - 8192

/-- The measured temperature in degrees, truncated toward zero. -/
def degrees (register : UInt16) : Int := (sixteenths register).tdiv 16

theorem sixteenths_range (register : UInt16) :
    -4096 ≤ sixteenths register ∧ sixteenths register < 4096 := by
  unfold sixteenths
  split <;> omega

/-- Division that truncates toward zero, by floor division. -/
theorem tdiv_eq (number : Int) (divisor : Nat) :
    number.tdiv divisor = if 0 ≤ number then number / divisor else -(-number / divisor) := by
  split
  · next nonnegative => exact Int.tdiv_eq_ediv_of_nonneg nonnegative
  · next negative =>
    rw [← Int.tdiv_eq_ediv_of_nonneg (by omega), Int.neg_tdiv, Int.neg_neg]

/-- Shifting left and back by 19 extends the sign of the low thirteen bits. -/
theorem signExtend_toInt (register : UInt16) :
    (((Int32.ofInt register.toNat) <<< 19) >>> 19).toInt = sixteenths register := by
  have small := register.toNat_lt
  have shifted : (((Int32.ofInt register.toNat) <<< 19) >>> 19).toInt =
      ((register.toNat * 2 ^ 19 : Nat) : Int).bmod (2 ^ 32) / 2 ^ 19 := by
    show ((BitVec.ofInt 32 register.toNat <<< 19).sshiftRight 19).toInt = _
    rw [BitVec.toInt_sshiftRight, BitVec.toInt_shiftLeft, Int.shiftRight_eq_div_pow,
      BitVec.ofInt_natCast, BitVec.toNat_ofNat, Nat.mod_eq_of_lt (by omega), Nat.shiftLeft_eq]
    rfl
  rw [shifted]
  unfold sixteenths Int.bmod
  dsimp only
  split <;> split <;> omega

theorem sensorsGetTempValue_toInt (register : UInt16) :
    (sensorsGetTempValue register).toInt = (sixteenths register * 100).tdiv 16 := by
  obtain ⟨low, high⟩ := sixteenths_range register
  have product : (sixteenths register * (100 : Int32).toInt).bmod (2 ^ 32) =
      sixteenths register * 100 :=
    Int.bmod_eq_of_le (by simp; omega) (by simp; omega)
  unfold sensorsGetTempValue
  dsimp only
  rw [Int32.toInt_toInt16, Int32.toInt_div_of_ne_right _ _ (by decide), Int32.toInt_mul,
    signExtend_toInt, product]
  show Int.bmod ((sixteenths register * 100).tdiv (16 : Nat)) (2 ^ 16) =
    (sixteenths register * 100).tdiv (16 : Nat)
  rw [tdiv_eq]
  apply Int.bmod_eq_of_le <;> split <;> omega

/-! ## The document -/

/-- The temperature that `publishADC` prints for the contents of the register. -/
def printedTemperature (register : UInt16) : Nat :=
  (UInt16.ofInt (sensorsGetTempValue register).toInt / 100).toNat

/-- The string that `publishADC` builds. -/
def telemetry (register : UInt16) (counter ioStatus : UInt8) : CString :=
  json counter (UInt16.ofInt (sensorsGetTempValue register).toInt) ioStatus

def jsonSize : Nat := 100

/-- `publishADC` publishes this string and then sees to the subscription. -/
theorem publishADC_telemetry (world : World) (board : Board) (register : UInt16)
    (measured : world.temperature board.log = (sensorsGetTempValue register).toInt) :
    (publishADC world board).1 =
      let published := publish world { board with counter := board.counter + 1 }
        (telemetry register (board.counter + 1) board.ioStatus)
      (if published.subInit = 0 then { subscribe world published with subInit := 1 }
        else published).write .publishReturned := by
  unfold publishADC telemetry
  dsimp only
  rw [measured]

/-- A document with the three numbers that are reported. -/
def telemetryDocument (light temperature led : Int) : Document :=
  .object [(stateName, .object [(plainName "reported" (by decide), .object
    [(plainName "L" (by decide), .number (.ofInt light)),
      (plainName "T" (by decide), .number (.ofInt temperature)),
      (ledName, .number (.ofInt led))])])]

theorem telemetryDocument_text (light temperature led : Int) :
    (telemetryDocument light temperature led).text =
      Text.ofString "\x7b\"state\":\x7b\"reported\":\x7b\"L\":" ++ (intText light ++
        (Text.ofString ",\"T\":" ++ (intText temperature ++ (Text.ofString ",\"D\":" ++
          (intText led ++ Text.ofString "\x7d\x7d\x7d"))))) := by
  simp only [telemetryDocument, Document.text, membersText, Number.ofInt_text, List.append_assoc]
  rfl

theorem telemetryDocument_at (light temperature led : Int) :
    (telemetryDocument light temperature led).at? ["state", "reported", "T"] =
      some (.number (.ofInt temperature)) := rfl

theorem utf8_of_ascii {text : Text} (small : ∀ point ∈ text, point.val < 0x80) :
    utf8 text = text.map fun point => UInt8.ofNat point.val := by
  induction text with
  | nil => rfl
  | cons point text inductionHypothesis =>
      rw [utf8_cons, utf8Bytes_of_small (small point List.mem_cons_self),
        inductionHypothesis fun other inside => small other (List.mem_cons_of_mem _ inside)]
      rfl

theorem decimal_eq (number : Nat) :
    decimal number = (natText number).map fun point => UInt8.ofNat point.val := by
  unfold decimal natText
  rw [List.map_map]
  rfl

theorem utf8_natText (number : Nat) : utf8 (natText number) = decimal number := by
  rw [decimal_eq]
  apply utf8_of_ascii
  intro point inside
  have digit := isDigit_of_mem_natText number inside
  unfold IsDigit at digit
  omega

/-- What `sprintf` writes in front of the terminator. -/
def jsonMemory (counter : UInt8) (rawTemperature : UInt16) (ioStatus : UInt8) : List UInt8 :=
  ascii "\x7b\"state\":\x7b\"reported\":\x7b\"L\":" ++ decimal counter.toNat ++
    ascii ",\"T\":" ++ decimal (rawTemperature / 100).toNat ++
    ascii ",\"D\":" ++ decimal ioStatus.toNat ++ ascii "\x7d\x7d\x7d"

theorem encode_telemetryDocument (counter : UInt8) (rawTemperature : UInt16) (ioStatus : UInt8) :
    (telemetryDocument counter.toNat (rawTemperature / 100).toNat ioStatus.toNat).encode =
      jsonMemory counter rawTemperature ioStatus := by
  unfold Document.encode jsonMemory
  rw [telemetryDocument_text]
  simp only [utf8_append, intText, utf8_natText, List.append_assoc]
  rfl

theorem decimal_noNul (number : Nat) : ∀ byte ∈ decimal number, byte ≠ 0 := by
  intro byte inside isZero
  rw [decimal_eq] at inside
  obtain ⟨point, inDigits, rfl⟩ := List.mem_map.mp inside
  have digit := isDigit_of_mem_natText number inDigits
  unfold IsDigit at digit
  have zero := congrArg UInt8.toNat isZero
  rw [UInt8.toNat_ofNat'] at zero
  simp only [UInt8.toNat_zero] at zero
  omega

theorem decimal_length {number : Nat} (small : number < 1000) : (decimal number).length ≤ 3 := by
  unfold decimal
  rw [List.length_map]
  exact (Nat.length_toDigits_le_iff (by decide) (by decide)).mpr small

theorem jsonMemory_noNul (counter : UInt8) (rawTemperature : UInt16) (ioStatus : UInt8) :
    ∀ byte ∈ jsonMemory counter rawTemperature ioStatus, byte ≠ 0 := by
  have literals : ∀ literal ∈ ["\x7b\"state\":\x7b\"reported\":\x7b\"L\":", ",\"T\":", ",\"D\":",
      "\x7d\x7d\x7d"], ∀ byte ∈ ascii literal, byte ≠ 0 := by decide +kernel
  intro byte inside
  unfold jsonMemory at inside
  simp only [List.mem_append] at inside
  rcases inside with (((((inState | inLight) | inT) | inTemperature) | inD) | inLed) | inEnd
  · exact literals _ (by simp) byte inState
  · exact decimal_noNul _ byte inLight
  · exact literals _ (by simp) byte inT
  · exact decimal_noNul _ byte inTemperature
  · exact literals _ (by simp) byte inD
  · exact decimal_noNul _ byte inLed
  · exact literals _ (by simp) byte inEnd

theorem json_bytes (counter : UInt8) (rawTemperature : UInt16) (ioStatus : UInt8) :
    (json counter rawTemperature ioStatus).bytes = jsonMemory counter rawTemperature ioStatus :=
  CString.ofMemory_bytes (jsonMemory_noNul counter rawTemperature ioStatus)

theorem json_fits (counter : UInt8) (rawTemperature : UInt16) (ioStatus : UInt8) :
    strlen (json counter rawTemperature ioStatus) + 1 ≤ jsonSize := by
  have light := counter.toNat_lt
  have led := ioStatus.toNat_lt
  have raw := rawTemperature.toNat_lt
  have temperature : (rawTemperature / 100).toNat < 1000 := by
    rw [UInt16.toNat_div]
    show rawTemperature.toNat / 100 < 1000
    omega
  have lightLength := decimal_length (by omega : counter.toNat < 1000)
  have temperatureLength := decimal_length temperature
  have ledLength := decimal_length (by omega : ioStatus.toNat < 1000)
  have literals : (ascii "\x7b\"state\":\x7b\"reported\":\x7b\"L\":").length = 26 ∧
      (ascii ",\"T\":").length = 5 ∧ (ascii ",\"D\":").length = 5 ∧
      (ascii "\x7d\x7d\x7d").length = 3 := by decide
  obtain ⟨front, second, third, back⟩ := literals
  unfold strlen jsonSize
  rw [json_bytes]
  unfold jsonMemory
  simp only [List.length_append, front, second, third, back]
  omega

/-! ## What is reported -/

/-- The string fits its buffer with the terminator, is a JSON document, and
reports the measured temperature in whole degrees. -/
structure Reports (register : UInt16) (counter ioStatus : UInt8) : Prop where
  fits : strlen (telemetry register counter ioStatus) + 1 ≤ jsonSize
  document : ∃ document : Document, document.encode = (telemetry register counter ioStatus).bytes ∧
    ∃ number, document.at? ["state", "reported", "T"] = some (.number number) ∧
      number.integer? = some (degrees register)

/-- Below zero the difference of the unsigned conversion is printed. -/
theorem printedTemperature_eq (register : UInt16) :
    (printedTemperature register : Int) =
      if 0 ≤ sixteenths register then degrees register
      else (65536 - -(sixteenths register * 100) / 16) / 100 := by
  obtain ⟨low, high⟩ := sixteenths_range register
  have unsigned : ∀ value : Int, (UInt16.ofInt value).toNat = (value % 65536).toNat := by
    intro value
    show (UInt16.ofNat (value % 2 ^ 16).toNat).toNat = _
    rw [UInt16.toNat_ofNat']
    omega
  have hundred : (100 : UInt16).toNat = 100 := rfl
  have hundredths := tdiv_eq (sixteenths register * 100) 16
  have whole := tdiv_eq (sixteenths register) 16
  unfold printedTemperature degrees
  rw [sensorsGetTempValue_toInt, UInt16.toNat_div, unsigned, hundred]
  simp only [Nat.cast_ofNat] at hundredths whole
  rw [hundredths, whole]
  split
  · next nonnegative =>
    have kept : (sixteenths register * 100 / 16) % 65536 = sixteenths register * 100 / 16 :=
      Int.emod_eq_of_lt (by omega) (by omega)
    have twice : sixteenths register * 100 / 16 / 100 = sixteenths register / 16 := by omega
    rw [if_pos (by omega), if_pos (by omega), kept, Int.natCast_ediv,
      Int.toNat_of_nonneg (by omega)]
    exact twice
  · next negative =>
    rw [if_neg (by omega)]
    omega

theorem printedTemperature_eq_iff (register : UInt16) :
    (printedTemperature register : Int) = degrees register ↔ 0 ≤ sixteenths register := by
  obtain ⟨low, high⟩ := sixteenths_range register
  have whole := tdiv_eq (sixteenths register) 16
  simp only [Nat.cast_ofNat] at whole
  rw [printedTemperature_eq]
  unfold degrees
  rw [whole]
  split <;> omega

theorem encode_telemetry (register : UInt16) (counter ioStatus : UInt8) :
    (telemetryDocument counter.toNat (printedTemperature register) ioStatus.toNat).encode =
      (telemetry register counter ioStatus).bytes := by
  unfold telemetry
  rw [json_bytes, ← encode_telemetryDocument]
  rfl

/-- The telemetry is what was measured exactly if the sign bit of the
temperature is clear. -/
theorem telemetry_reports_iff (register : UInt16) (counter ioStatus : UInt8) :
    Reports register counter ioStatus ↔ register.toNat % 8192 < 4096 := by
  have sign : register.toNat % 8192 < 4096 ↔ 0 ≤ sixteenths register := by
    unfold sixteenths
    split <;> omega
  rw [sign, ← printedTemperature_eq_iff]
  constructor
  · intro reports
    obtain ⟨document, encoded, number, reported, value⟩ := reports.document
    obtain rfl := Document.encode_injective
      (encoded.trans (encode_telemetry register counter ioStatus).symm)
    rw [telemetryDocument_at] at reported
    obtain rfl := Document.number.inj (Option.some.inj reported)
    rw [Number.ofInt_integer?] at value
    exact Option.some.inj value
  · intro same
    refine ⟨json_fits _ _ _, _, encode_telemetry register counter ioStatus, _, rfl, ?_⟩
    rw [Number.ofInt_integer?, same]

/-- One degree below zero is reported as 654 degrees. -/
theorem telemetry_belowZero : ¬ Reports 0x1FF0 1 0 := by
  intro reports
  obtain ⟨document, encoded, number, reported, value⟩ := reports.document
  obtain rfl := Document.encode_injective (encoded.trans (encode_telemetry 0x1FF0 1 0).symm)
  rw [telemetryDocument_at] at reported
  obtain rfl := Document.number.inj (Option.some.inj reported)
  rw [Number.ofInt_integer?] at value
  revert value
  decide +kernel

end MicrochipDay.Cloud
