import MicrochipDay.Library.BigEndian
import MicrochipDay.Library.Calendar
import MicrochipDay.Library.Exception
import MicrochipDay.Provisioning.CertDate

/-!
Owns the way back (atcacert_date.c): dates written in the formats of a certificate,
and the compressed dates read. Every date that is written is read as it was, and what
is written for a date that was read is what it was read from; the latest date of each
format is later than every date that can be written in it, or that date itself.

What a buffer holds when writing has failed is left out, and so are buffers that are
too small.
-/

namespace MicrochipDay.Provisioning

open MicrochipDay.Library

/-! ## Dates written as text -/

/-- `uint_to_str` for a number of at most `width` digits. -/
def uintToStr : (width num : Nat) → List UInt8
  | 0, _ => []
  | width + 1, num => uintToStr width (num / 10) ++ [UInt8.ofNat (0x30 + num % 10)]

/-- A field that is checked before it is written. -/
def inRange (value low high : Int) : Except AtcacertError Unit :=
  if value < low ∨ value > high then .error .invalidDate else .ok ()

/-- The checks that all formats share. -/
def checkFields (timestamp : TmUtc) : Except AtcacertError Unit := do
  inRange timestamp.tmMon 0 11
  inRange timestamp.tmMday 1 31
  inRange timestamp.tmHour 0 23
  inRange timestamp.tmMin 0 59
  inRange timestamp.tmSec 0 59

section Text

variable (timestamp : TmUtc)

def atcacertDateEncIso8601Sep : Except AtcacertError (List UInt8) := do
  inRange (timestamp.tmYear + 1900) 0 9999
  checkFields timestamp
  .ok (uintToStr 4 (timestamp.tmYear + 1900).toNat ++ UInt8.ofNat '-'.toNat ::
    uintToStr 2 (timestamp.tmMon + 1).toNat ++ UInt8.ofNat '-'.toNat ::
    uintToStr 2 timestamp.tmMday.toNat ++ UInt8.ofNat 'T'.toNat ::
    uintToStr 2 timestamp.tmHour.toNat ++ UInt8.ofNat ':'.toNat ::
    uintToStr 2 timestamp.tmMin.toNat ++ UInt8.ofNat ':'.toNat ::
    uintToStr 2 timestamp.tmSec.toNat ++ [UInt8.ofNat 'Z'.toNat])

/-- The fields behind the year, as RFC 5280 has them. -/
def rfc5280Fields : List UInt8 :=
  uintToStr 2 (timestamp.tmMon + 1).toNat ++ uintToStr 2 timestamp.tmMday.toNat ++
    uintToStr 2 timestamp.tmHour.toNat ++ uintToStr 2 timestamp.tmMin.toNat ++
    uintToStr 2 timestamp.tmSec.toNat ++ [UInt8.ofNat 'Z'.toNat]

/-- The two digits that RFC 5280 has for a year in UTC time. -/
def shortYear (year : Int) : Except AtcacertError Int :=
  if year ≥ 1950 ∧ year ≤ 1999 then .ok (year - 1900)
  else if year ≥ 2000 ∧ year ≤ 2049 then .ok (year - 2000)
  else .error .invalidDate

def atcacertDateEncRfc5280Utc : Except AtcacertError (List UInt8) := do
  let year ← shortYear (timestamp.tmYear + 1900)
  checkFields timestamp
  .ok (uintToStr 2 year.toNat ++ rfc5280Fields timestamp)

def atcacertDateEncRfc5280Gen : Except AtcacertError (List UInt8) := do
  inRange (timestamp.tmYear + 1900) 0 9999
  checkFields timestamp
  .ok (uintToStr 4 (timestamp.tmYear + 1900).toNat ++ rfc5280Fields timestamp)

end Text

/-! ## Dates written as seconds -/

/-- The loop of `atcacert_mkgmtime32` over the years since 1970, the last one first. -/
def mkgmtimeYears : (years posixTime : Nat) → Nat
  | 0, posixTime => posixTime
  | years + 1, posixTime =>
      mkgmtimeYears years ((posixTime + getYearSecs (1970 + years)) % 2 ^ 32)

/-- Its loop over the months, the last one first. -/
def mkgmtimeMonths (monthSecs : List Nat) : (months posixTime : Nat) → Nat
  | 0, posixTime => posixTime
  | months + 1, posixTime =>
      mkgmtimeMonths monthSecs months ((posixTime + monthSecs.getD months 0) % 2 ^ 32)

/-- `atcacert_mkgmtime32`. -/
def atcacertMkgmtime32 (timeptr : TmUtc) : Nat :=
  let year := timeptr.tmYear + 1900
  let posixTime := mkgmtimeYears (year - 1970).toNat 0
  let posixTime := mkgmtimeMonths (getMonthSecs year.toNat) timeptr.tmMon.toNat posixTime
  let posixTime := (posixTime + (timeptr.tmMday - 1).toNat * 86400) % 2 ^ 32
  let posixTime := (posixTime + timeptr.tmHour.toNat * 3600) % 2 ^ 32
  let posixTime := (posixTime + timeptr.tmMin.toNat * 60) % 2 ^ 32
  (posixTime + timeptr.tmSec.toNat) % 2 ^ 32

/-- The check for a date past the last one in 32 bits. -/
def pastPosix (timestamp : TmUtc) : Prop :=
  timestamp.tmYear + 1900 = 2106 ∧ (timestamp.tmMon > 1 ∨
    timestamp.tmMon = 1 ∧ (timestamp.tmMday > 7 ∨
      timestamp.tmMday = 7 ∧ (timestamp.tmHour > 6 ∨
        timestamp.tmHour = 6 ∧ (timestamp.tmMin > 28 ∨
          timestamp.tmMin = 28 ∧ timestamp.tmSec > 14))))

instance (timestamp : TmUtc) : Decidable (pastPosix timestamp) := by
  unfold pastPosix
  infer_instance

/-- `atcacert_date_enc_posix_uint32`. -/
def atcacertDateEncPosixUint32 (timestamp : TmUtc) : Except AtcacertError Nat := do
  inRange (timestamp.tmYear + 1900) 1970 2106
  checkFields timestamp
  if pastPosix timestamp then .error .invalidDate
  else .ok (atcacertMkgmtime32 timestamp)

/-- The bytes of a date in seconds, most significant byte first. -/
def posixBytes (posixUint32 : Nat) : List UInt8 :=
  [UInt8.ofNat (posixUint32 >>> 24 &&& 0xff), UInt8.ofNat (posixUint32 >>> 16 &&& 0xff),
    UInt8.ofNat (posixUint32 >>> 8 &&& 0xff), UInt8.ofNat (posixUint32 &&& 0xff)]

/-- `atcacert_date_enc`. -/
def atcacertDateEnc (format : DateFormat) (timestamp : TmUtc) : Except AtcacertError (List UInt8) :=
  match format with
  | .iso8601Sep => atcacertDateEncIso8601Sep timestamp
  | .rfc5280Utc => atcacertDateEncRfc5280Utc timestamp
  | .posixUint32Be => (atcacertDateEncPosixUint32 timestamp).map posixBytes
  | .posixUint32Le => (atcacertDateEncPosixUint32 timestamp).map fun posix =>
      (posixBytes posix).reverse
  | .rfc5280Gen => atcacertDateEncRfc5280Gen timestamp

/-- `atcacert_date_get_max_date`. -/
def atcacertDateGetMaxDate : DateFormat → TmUtc
  | .iso8601Sep | .rfc5280Gen => ⟨59, 59, 23, 31, 12 - 1, 9999 - 1900⟩
  | .rfc5280Utc => ⟨59, 59, 23, 31, 12 - 1, 2049 - 1900⟩
  | .posixUint32Be | .posixUint32Le => ⟨15, 28, 6, 7, 2 - 1, 2106 - 1900⟩

/-! ## Compressed dates read -/

/-- `atcacert_date_dec_compcert`: the issue date and the expiry date. -/
def atcacertDateDecCompcert (encDates : List UInt8) (expireDateFormat : DateFormat) :
    TmUtc × TmUtc :=
  let date0 := encDates.getD 0 0
  let date1 := encDates.getD 1 0
  let date2 := encDates.getD 2 0
  let issueDate : TmUtc := {
    tmYear := (date0 >>> (3 : UInt8)).toNat + 2000 - 1900
    tmMon := (((date0 &&& 0x07) <<< (1 : UInt8)) ||| ((date1 &&& 0x80) >>> (7 : UInt8))).toNat - 1
    tmMday := ((date1 &&& 0x7C) >>> (2 : UInt8)).toNat
    tmHour := (((date1 &&& 0x03) <<< (3 : UInt8)) ||| ((date2 &&& 0xE0) >>> (5 : UInt8))).toNat
    tmMin := 0
    tmSec := 0 }
  let expireYears := date2 &&& 0x1F
  (issueDate,
    if expireYears ≠ 0 then { issueDate with tmYear := issueDate.tmYear + expireYears.toNat }
    else atcacertDateGetMaxDate expireDateFormat)

/-! ## The checks -/

/-- The fields lie where the header says. -/
structure Fields (timestamp : TmUtc) : Prop where
  mon : 0 ≤ timestamp.tmMon ∧ timestamp.tmMon ≤ 11
  mday : 1 ≤ timestamp.tmMday ∧ timestamp.tmMday ≤ 31
  hour : 0 ≤ timestamp.tmHour ∧ timestamp.tmHour ≤ 23
  min : 0 ≤ timestamp.tmMin ∧ timestamp.tmMin ≤ 59
  sec : 0 ≤ timestamp.tmSec ∧ timestamp.tmSec ≤ 59

theorem inRange_ok {value low high : Int} {checked : Unit} :
    inRange value low high = .ok checked ↔ low ≤ value ∧ value ≤ high := by
  unfold inRange
  split
  · rename_i outside
    constructor
    · intro returned
      cases returned
    · omega
  · rename_i inside
    exact ⟨fun _ => by omega, fun _ => rfl⟩

theorem checkFields_ok {timestamp : TmUtc} {checked : Unit} :
    checkFields timestamp = .ok checked ↔ Fields timestamp := by
  unfold checkFields
  simp only [Exception.bind_eq_ok, inRange_ok, exists_const]
  constructor
  · rintro ⟨mon, mday, hour, min, sec⟩
    exact ⟨mon, mday, hour, min, sec⟩
  · rintro ⟨mon, mday, hour, min, sec⟩
    exact ⟨mon, mday, hour, min, sec⟩

section Text

variable {timestamp : TmUtc} {bytes : List UInt8}

theorem encIso8601Sep_ok :
    atcacertDateEncIso8601Sep timestamp = .ok bytes ↔
      (0 ≤ timestamp.tmYear + 1900 ∧ timestamp.tmYear + 1900 ≤ 9999) ∧ Fields timestamp ∧
        uintToStr 4 (timestamp.tmYear + 1900).toNat ++ UInt8.ofNat '-'.toNat ::
          uintToStr 2 (timestamp.tmMon + 1).toNat ++ UInt8.ofNat '-'.toNat ::
          uintToStr 2 timestamp.tmMday.toNat ++ UInt8.ofNat 'T'.toNat ::
          uintToStr 2 timestamp.tmHour.toNat ++ UInt8.ofNat ':'.toNat ::
          uintToStr 2 timestamp.tmMin.toNat ++ UInt8.ofNat ':'.toNat ::
          uintToStr 2 timestamp.tmSec.toNat ++ [UInt8.ofNat 'Z'.toNat] = bytes := by
  unfold atcacertDateEncIso8601Sep
  simp only [Exception.bind_eq_ok, inRange_ok, checkFields_ok, exists_const, Except.ok.injEq]

/-- Two digits stand for the years from 1950 to 2049. -/
theorem shortYear_ok {year short : Int} :
    shortYear year = .ok short ↔
      0 ≤ short ∧ short < 100 ∧ (if short < 50 then short + 2000 else short + 1900) = year := by
  unfold shortYear
  split
  · rw [Except.ok.injEq]
    constructor
    · intro same
      split <;> omega
    · rintro ⟨low, high, same⟩
      split at same <;> omega
  split
  · rw [Except.ok.injEq]
    constructor
    · intro same
      split <;> omega
    · rintro ⟨low, high, same⟩
      split at same <;> omega
  · constructor
    · intro impossible
      cases impossible
    · rintro ⟨low, high, same⟩
      split at same <;> omega

theorem encRfc5280Utc_ok :
    atcacertDateEncRfc5280Utc timestamp = .ok bytes ↔
      ∃ short, shortYear (timestamp.tmYear + 1900) = .ok short ∧ Fields timestamp ∧
        uintToStr 2 short.toNat ++ rfc5280Fields timestamp = bytes := by
  unfold atcacertDateEncRfc5280Utc
  simp only [Exception.bind_eq_ok, checkFields_ok, exists_const, Except.ok.injEq]

theorem encRfc5280Gen_ok :
    atcacertDateEncRfc5280Gen timestamp = .ok bytes ↔
      (0 ≤ timestamp.tmYear + 1900 ∧ timestamp.tmYear + 1900 ≤ 9999) ∧ Fields timestamp ∧
        uintToStr 4 (timestamp.tmYear + 1900).toNat ++ rfc5280Fields timestamp = bytes := by
  unfold atcacertDateEncRfc5280Gen
  simp only [Exception.bind_eq_ok, inRange_ok, checkFields_ok, exists_const, Except.ok.injEq]

end Text

/-! ## Numbers as text -/

theorem digit_toNat (num : Nat) : (UInt8.ofNat (0x30 + num % 10)).toNat = 0x30 + num % 10 := by
  rw [UInt8.toNat_ofNat']
  omega

theorem uintToStr_digits (width num : Nat) :
    ∀ char ∈ uintToStr width num, 0x30 ≤ char ∧ char ≤ 0x39 := by
  induction width generalizing num with
  | zero => exact fun _ member => absurd member List.not_mem_nil
  | succ width inductionHypothesis =>
      intro char member
      rcases List.mem_append.mp member with front | last
      · exact inductionHypothesis _ char front
      · rw [List.mem_singleton.mp last]
        have value := digit_toNat num
        rw [UInt8.le_iff_toNat_le, UInt8.le_iff_toNat_le, value]
        exact ⟨by show 48 ≤ _; omega, by show _ ≤ 57; omega⟩

/-- A number that fits is read as it was written. -/
theorem strToInt_uintToStr {width num : Nat} (fits : num < 10 ^ width) :
    strToInt (uintToStr width num) = .ok num := by
  unfold strToInt
  rw [if_pos (uintToStr_digits width num)]
  refine congrArg Except.ok ?_
  induction width generalizing num with
  | zero =>
      have zero : num = 0 := by omega
      rw [zero]
      rfl
  | succ width inductionHypothesis =>
      have front := @inductionHypothesis (num / 10) (by rw [Nat.pow_succ] at fits; omega)
      rw [uintToStr, List.foldl_append, front, List.foldl_cons, List.foldl_nil, digit_toNat]
      omega

/-- What is read as a number is what would be written for it. -/
theorem strToInt_ok {str : List UInt8} {value : Int} (read : strToInt str = .ok value) :
    0 ≤ value ∧ value.toNat < 10 ^ str.length ∧ str = uintToStr str.length value.toNat := by
  unfold strToInt at read
  split at read
  swap
  · cases read
  rename_i digits
  have known := Except.ok.inj read
  clear read
  induction str using List.reverseRecOn generalizing value with
  | nil =>
      rw [← known]
      exact ⟨Int.le_refl 0, Nat.one_pos, rfl⟩
  | append_singleton front last inductionHypothesis =>
      rw [List.foldl_append] at known
      obtain ⟨positive, fits, written⟩ := inductionHypothesis
        (fun char member => digits char (List.mem_append_left _ member)) rfl
      have digit := digits last (List.mem_append_right _ (List.mem_singleton.mpr rfl))
      rw [UInt8.le_iff_toNat_le, UInt8.le_iff_toNat_le] at digit
      have low : 48 ≤ last.toNat := digit.1
      have high : last.toNat ≤ 57 := digit.2
      generalize front.foldl (fun (number : Int) char => number * 10 + (char.toNat - 0x30)) 0 =
        rest at *
      have sum : value = rest * 10 + (last.toNat - 48) := known.symm
      have tens : value.toNat / 10 = rest.toNat := by omega
      have units : UInt8.ofNat (0x30 + value.toNat % 10) = last := by
        rw [show 0x30 + value.toNat % 10 = last.toNat by omega, UInt8.ofNat_toNat]
      rw [List.length_append, List.length_singleton, Nat.pow_succ]
      refine ⟨by omega, by omega, ?_⟩
      rw [uintToStr, tens, ← written, units]

/-- A number that stands in a date. -/
theorem number_ok {formattedDate : List UInt8} {position width num : Nat}
    (stands : (formattedDate.drop position).take width = uintToStr width num)
    (fits : num < 10 ^ width) : number formattedDate position width = .ok num := by
  rw [number, stands, strToInt_uintToStr fits]

theorem separator_ok {formattedDate : List UInt8} {position : Nat} {char : Char}
    (stands : formattedDate[position]? = some (UInt8.ofNat char.toNat)) :
    separator formattedDate position char = .ok () :=
  if_pos stands

section Pieces

variable {date : List UInt8} {position width : Nat}

/-- A number that was read stands in the date. -/
theorem number_spec (inside : position + width ≤ date.length) {value : Int}
    (read : number date position width = .ok value) :
    0 ≤ value ∧ value.toNat < 10 ^ width ∧
      (date.drop position).take width = uintToStr width value.toNat := by
  have length : ((date.drop position).take width).length = width := by
    rw [List.length_take, List.length_drop]
    omega
  have spec := strToInt_ok read
  rw [length] at spec
  exact spec

theorem separator_spec {char : Char} {read : Unit}
    (stands : separator date position char = .ok read) :
    (date.drop position).take 1 = [UInt8.ofNat char.toNat] := by
  unfold separator at stands
  split at stands
  · rename_i there
    obtain ⟨inside, same⟩ := List.getElem?_eq_some_iff.mp there
    rw [List.drop_eq_getElem_cons inside, List.take_succ_cons, List.take_zero, same]
  · cases stands

/-- Two pieces of a date that stand one behind the other. -/
theorem pieces {more : Nat} {front back : List UInt8}
    (first : (date.drop position).take width = front)
    (second : (date.drop (position + width)).take more = back) :
    (date.drop position).take (width + more) = front ++ back := by
  rw [List.take_add, List.drop_drop, first, second]

end Pieces

/-! ## Text dates are read as they were written -/

/-- What the fields are read as is what they were. -/
theorem Fields.read {timestamp : TmUtc} (fields : Fields timestamp) {year : Int}
    (same : year - 1900 = timestamp.tmYear) :
    (⟨timestamp.tmSec.toNat, timestamp.tmMin.toNat, timestamp.tmHour.toNat,
      timestamp.tmMday.toNat, (timestamp.tmMon + 1).toNat - 1, year - 1900⟩ : TmUtc) =
      timestamp := by
  obtain ⟨mon, mday, hour, min, sec⟩ := fields
  obtain ⟨tmSec, tmMin, tmHour, tmMday, tmMon, tmYear⟩ := timestamp
  dsimp only at *
  rw [same]
  congr 1 <;> omega

theorem iso8601Sep_dec {timestamp : TmUtc} {bytes : List UInt8} (rest : List UInt8)
    (encoded : atcacertDateEncIso8601Sep timestamp = .ok bytes) :
    atcacertDateDecIso8601Sep (bytes ++ rest) = .ok timestamp := by
  obtain ⟨inYear, ⟨mon, mday, hour, min, sec⟩, written⟩ := encIso8601Sep_ok.mp encoded
  have known := written.symm
  have year : number (bytes ++ rest) 0 4 = .ok (timestamp.tmYear + 1900).toNat :=
    number_ok (by rw [known]; rfl) (by omega)
  have month : number (bytes ++ rest) 5 2 = .ok (timestamp.tmMon + 1).toNat :=
    number_ok (by rw [known]; rfl) (by omega)
  have day : number (bytes ++ rest) 8 2 = .ok timestamp.tmMday.toNat :=
    number_ok (by rw [known]; rfl) (by omega)
  have hours : number (bytes ++ rest) 11 2 = .ok timestamp.tmHour.toNat :=
    number_ok (by rw [known]; rfl) (by omega)
  have minutes : number (bytes ++ rest) 14 2 = .ok timestamp.tmMin.toNat :=
    number_ok (by rw [known]; rfl) (by omega)
  have seconds : number (bytes ++ rest) 17 2 = .ok timestamp.tmSec.toNat :=
    number_ok (by rw [known]; rfl) (by omega)
  unfold atcacertDateDecIso8601Sep
  rw [year, month, day, hours, minutes, seconds,
    separator_ok (show (bytes ++ rest)[4]? = _ by rw [known]; rfl),
    separator_ok (show (bytes ++ rest)[7]? = _ by rw [known]; rfl),
    separator_ok (show (bytes ++ rest)[10]? = _ by rw [known]; rfl),
    separator_ok (show (bytes ++ rest)[13]? = _ by rw [known]; rfl),
    separator_ok (show (bytes ++ rest)[16]? = _ by rw [known]; rfl),
    separator_ok (show (bytes ++ rest)[19]? = _ by rw [known]; rfl)]
  exact congrArg Except.ok (Fields.read ⟨mon, mday, hour, min, sec⟩ (by omega))

theorem rfc5280Gen_dec {timestamp : TmUtc} {bytes : List UInt8} (rest : List UInt8)
    (encoded : atcacertDateEncRfc5280Gen timestamp = .ok bytes) :
    atcacertDateDecRfc5280Gen (bytes ++ rest) = .ok timestamp := by
  obtain ⟨inYear, ⟨mon, mday, hour, min, sec⟩, written⟩ := encRfc5280Gen_ok.mp encoded
  have known := written.symm
  have year : number (bytes ++ rest) 0 4 = .ok (timestamp.tmYear + 1900).toNat :=
    number_ok (by rw [known]; rfl) (by omega)
  have month : number (bytes ++ rest) 4 2 = .ok (timestamp.tmMon + 1).toNat :=
    number_ok (by rw [known]; rfl) (by omega)
  have day : number (bytes ++ rest) 6 2 = .ok timestamp.tmMday.toNat :=
    number_ok (by rw [known]; rfl) (by omega)
  have hours : number (bytes ++ rest) 8 2 = .ok timestamp.tmHour.toNat :=
    number_ok (by rw [known]; rfl) (by omega)
  have minutes : number (bytes ++ rest) 10 2 = .ok timestamp.tmMin.toNat :=
    number_ok (by rw [known]; rfl) (by omega)
  have seconds : number (bytes ++ rest) 12 2 = .ok timestamp.tmSec.toNat :=
    number_ok (by rw [known]; rfl) (by omega)
  unfold atcacertDateDecRfc5280Gen
  rw [year, month, day, hours, minutes, seconds,
    separator_ok (show (bytes ++ rest)[14]? = _ by rw [known]; rfl)]
  exact congrArg Except.ok (Fields.read ⟨mon, mday, hour, min, sec⟩ (by omega))

theorem rfc5280Utc_dec {timestamp : TmUtc} {bytes : List UInt8} (rest : List UInt8)
    (encoded : atcacertDateEncRfc5280Utc timestamp = .ok bytes) :
    atcacertDateDecRfc5280Utc (bytes ++ rest) = .ok timestamp := by
  obtain ⟨short, inYear, ⟨mon, mday, hour, min, sec⟩, written⟩ := encRfc5280Utc_ok.mp encoded
  have known := written.symm
  have century := shortYear_ok.mp inYear
  have year : number (bytes ++ rest) 0 2 = .ok short.toNat :=
    number_ok (by rw [known]; rfl) (by omega)
  have month : number (bytes ++ rest) 2 2 = .ok (timestamp.tmMon + 1).toNat :=
    number_ok (by rw [known]; rfl) (by omega)
  have day : number (bytes ++ rest) 4 2 = .ok timestamp.tmMday.toNat :=
    number_ok (by rw [known]; rfl) (by omega)
  have hours : number (bytes ++ rest) 6 2 = .ok timestamp.tmHour.toNat :=
    number_ok (by rw [known]; rfl) (by omega)
  have minutes : number (bytes ++ rest) 8 2 = .ok timestamp.tmMin.toNat :=
    number_ok (by rw [known]; rfl) (by omega)
  have seconds : number (bytes ++ rest) 10 2 = .ok timestamp.tmSec.toNat :=
    number_ok (by rw [known]; rfl) (by omega)
  have nonnegative : (short.toNat : Int) = short := Int.toNat_of_nonneg century.1
  unfold atcacertDateDecRfc5280Utc
  rw [year, month, day, hours, minutes, seconds, nonnegative,
    separator_ok (show (bytes ++ rest)[12]? = _ by rw [known]; rfl)]
  exact congrArg Except.ok (Fields.read ⟨mon, mday, hour, min, sec⟩ (by rw [century.2.2]; omega))

/-! ## What is written for a text date is what it was read from -/

section Text

variable {date bytes : List UInt8} {timestamp : TmUtc}

theorem iso8601Sep_enc (long : 20 ≤ date.length)
    (decoded : atcacertDateDecIso8601Sep date = .ok timestamp) :
    atcacertDateEncIso8601Sep timestamp = .ok bytes ↔
      bytes = date.take 20 ∧ Fields timestamp := by
  unfold atcacertDateDecIso8601Sep at decoded
  simp only [Exception.bind_eq_ok] at decoded
  obtain ⟨year, readYear, _, first, mon, readMon, _, second, mday, readMday, _, third, hour,
    readHour, _, fourth, min, readMin, _, fifth, sec, readSec, _, last, known⟩ := decoded
  have inYear := number_spec (by omega) readYear
  have inMon := number_spec (by omega) readMon
  have inMday := number_spec (by omega) readMday
  have inHour := number_spec (by omega) readHour
  have inMin := number_spec (by omega) readMin
  have inSec := number_spec (by omega) readSec
  have whole := pieces inYear.2.2 (pieces (separator_spec first) (pieces inMon.2.2
    (pieces (separator_spec second) (pieces inMday.2.2 (pieces (separator_spec third)
    (pieces inHour.2.2 (pieces (separator_spec fourth) (pieces inMin.2.2
    (pieces (separator_spec fifth) (pieces inSec.2.2 (separator_spec last)))))))))))
  rw [encIso8601Sep_ok, ← Except.ok.inj known]
  dsimp only
  rw [Int.sub_add_cancel, Int.sub_add_cancel]
  constructor
  · rintro ⟨_, fields, text⟩
    exact ⟨text.symm.trans whole.symm, fields⟩
  · rintro ⟨same, fields⟩
    exact ⟨⟨inYear.1, by omega⟩, fields, (same.trans whole).symm⟩

theorem rfc5280Gen_enc (long : 15 ≤ date.length)
    (decoded : atcacertDateDecRfc5280Gen date = .ok timestamp) :
    atcacertDateEncRfc5280Gen timestamp = .ok bytes ↔
      bytes = date.take 15 ∧ Fields timestamp := by
  unfold atcacertDateDecRfc5280Gen at decoded
  simp only [Exception.bind_eq_ok] at decoded
  obtain ⟨year, readYear, mon, readMon, mday, readMday, hour, readHour, min, readMin, sec,
    readSec, _, last, known⟩ := decoded
  have inYear := number_spec (by omega) readYear
  have inMon := number_spec (by omega) readMon
  have inMday := number_spec (by omega) readMday
  have inHour := number_spec (by omega) readHour
  have inMin := number_spec (by omega) readMin
  have inSec := number_spec (by omega) readSec
  have whole := pieces inYear.2.2 (pieces inMon.2.2 (pieces inMday.2.2 (pieces inHour.2.2
    (pieces inMin.2.2 (pieces inSec.2.2 (separator_spec last))))))
  rw [encRfc5280Gen_ok, ← Except.ok.inj known, rfc5280Fields]
  dsimp only
  rw [Int.sub_add_cancel, Int.sub_add_cancel]
  constructor
  · rintro ⟨_, fields, text⟩
    exact ⟨text.symm.trans whole.symm, fields⟩
  · rintro ⟨same, fields⟩
    exact ⟨⟨inYear.1, by omega⟩, fields, (same.trans whole).symm⟩

theorem rfc5280Utc_enc (long : 13 ≤ date.length)
    (decoded : atcacertDateDecRfc5280Utc date = .ok timestamp) :
    atcacertDateEncRfc5280Utc timestamp = .ok bytes ↔
      bytes = date.take 13 ∧ Fields timestamp := by
  unfold atcacertDateDecRfc5280Utc at decoded
  simp only [Exception.bind_eq_ok] at decoded
  obtain ⟨year, readYear, mon, readMon, mday, readMday, hour, readHour, min, readMin, sec,
    readSec, _, last, known⟩ := decoded
  have inYear := number_spec (by omega) readYear
  have inMon := number_spec (by omega) readMon
  have inMday := number_spec (by omega) readMday
  have inHour := number_spec (by omega) readHour
  have inMin := number_spec (by omega) readMin
  have inSec := number_spec (by omega) readSec
  have whole := pieces inYear.2.2 (pieces inMon.2.2 (pieces inMday.2.2 (pieces inHour.2.2
    (pieces inMin.2.2 (pieces inSec.2.2 (separator_spec last))))))
  -- the two digits that were read are those of the year
  have short : shortYear ((if year < 50 then year + 2000 else year + 1900) - 1900 + 1900) =
      .ok year := shortYear_ok.mpr ⟨inYear.1, by omega, (Int.sub_add_cancel _ _).symm⟩
  rw [encRfc5280Utc_ok, ← Except.ok.inj known, rfc5280Fields]
  dsimp only
  rw [short, Int.sub_add_cancel]
  constructor
  · rintro ⟨other, same, fields, text⟩
    rw [← Except.ok.inj same] at text
    exact ⟨text.symm.trans whole.symm, fields⟩
  · rintro ⟨same, fields⟩
    exact ⟨year, rfl, fields, (same.trans whole).symm⟩

end Text

/-! ## Seconds are read as they were written -/

/-- The seconds of a number of years, from a first one on. -/
def secsOfYears : (year years : Nat) → Nat
  | _, 0 => 0
  | year, years + 1 => getYearSecs year + secsOfYears (year + 1) years

theorem secsOfYears_succ (year years : Nat) :
    secsOfYears year (years + 1) = secsOfYears year years + getYearSecs (year + years) := by
  induction years generalizing year with
  | zero => exact Nat.add_comm _ _
  | succ years inductionHypothesis =>
      rw [secsOfYears, inductionHypothesis, Nat.add_right_comm year 1 years]
      exact (Nat.add_assoc _ _ _).symm

theorem secsOfYears_mono (year : Nat) {years more : Nat} (le : years ≤ more) :
    secsOfYears year years ≤ secsOfYears year more := by
  induction le with
  | refl => exact le_rfl
  | step _ inductionHypothesis =>
      rw [secsOfYears_succ]
      omega

theorem mkgmtimeYears_eq (years : Nat) : ∀ posixTime < 2 ^ 32,
    mkgmtimeYears years posixTime = (posixTime + secsOfYears 1970 years) % 2 ^ 32 := by
  induction years with
  | zero =>
      intro posixTime small
      exact (Nat.mod_eq_of_lt small).symm
  | succ years inductionHypothesis =>
      intro posixTime small
      rw [mkgmtimeYears, inductionHypothesis _ (Nat.mod_lt _ (by decide)), secsOfYears_succ,
        Nat.mod_add_mod]
      congr 1
      omega

theorem mkgmtimeMonths_eq (monthSecs : List Nat) (months : Nat) : ∀ posixTime < 2 ^ 32,
    mkgmtimeMonths monthSecs months posixTime =
      (posixTime + (monthSecs.take months).sum) % 2 ^ 32 := by
  induction months with
  | zero =>
      intro posixTime small
      exact (Nat.mod_eq_of_lt small).symm
  | succ months inductionHypothesis =>
      intro posixTime small
      rw [mkgmtimeMonths, inductionHypothesis _ (Nat.mod_lt _ (by decide)), Nat.mod_add_mod,
        List.take_add_one, List.sum_append, List.getD_eq_getElem?_getD]
      congr 1
      cases monthSecs[months]? with
      | none => simp
      | some secs =>
          simp
          omega

/-- The loop over the years undoes their sum. -/
theorem gmtimeYear_eq (years : Nat) : ∀ (year : Nat) {secs : Nat},
    secs < getYearSecs (year + years) →
      gmtimeYear year (secsOfYears year years + secs) = (year + years, secs) := by
  induction years with
  | zero =>
      intro year secs inside
      rw [Nat.add_zero] at inside ⊢
      rw [secsOfYears, Nat.zero_add, gmtimeYear, if_pos inside]
  | succ years inductionHypothesis =>
      intro year secs inside
      have rest := @inductionHypothesis (year + 1) secs
        (by rwa [show year + 1 + years = year + (years + 1) by omega])
      rw [gmtimeYear, if_neg (by rw [secsOfYears]; omega), secsOfYears,
        show getYearSecs year + secsOfYears (year + 1) years + secs - getYearSecs year =
          secsOfYears (year + 1) years + secs by omega, rest]
      rw [show year + 1 + years = year + (years + 1) by omega]

theorem gmtimeYear_spec (year secsRemaining : Nat) :
    ∃ years, (gmtimeYear year secsRemaining).1 = year + years ∧
      secsRemaining = secsOfYears year years + (gmtimeYear year secsRemaining).2 := by
  induction year, secsRemaining using gmtimeYear.induct with
  | case1 year secsRemaining within =>
      rw [gmtimeYear, if_pos within]
      exact ⟨0, rfl, (Nat.zero_add _).symm⟩
  | case2 year secsRemaining beyond inductionHypothesis =>
      obtain ⟨years, reached, split⟩ := inductionHypothesis
      rw [gmtimeYear, if_neg beyond]
      refine ⟨years + 1, by omega, ?_⟩
      rw [secsOfYears]
      omega

/-- The loop over the months undoes theirs. -/
theorem gmtimeMonth_eq (months : Nat) : ∀ (monthSecs : List Nat) (mon : Nat) {secs : Nat},
    secs < monthSecs.getD months 0 →
      gmtimeMonth monthSecs mon ((monthSecs.take months).sum + secs) = (mon + months, secs) := by
  induction months with
  | zero =>
      intro monthSecs mon secs inside
      cases monthSecs with
      | nil => exact absurd inside (Nat.not_lt_zero secs)
      | cons first others =>
          rw [List.take_zero, List.sum_nil, Nat.zero_add, gmtimeMonth]
          exact if_pos inside
  | succ months inductionHypothesis =>
      intro monthSecs mon secs inside
      cases monthSecs with
      | nil => exact absurd inside (Nat.not_lt_zero secs)
      | cons first others =>
          have rest := @inductionHypothesis others (mon + 1) secs inside
          rw [List.take_succ_cons, List.sum_cons, gmtimeMonth, if_neg (by omega),
            show first + (others.take months).sum + secs - first =
              (others.take months).sum + secs by omega, rest]
          rw [show mon + 1 + months = mon + (months + 1) by omega]

theorem gmtimeMonth_spec (monthSecs : List Nat) : ∀ (mon : Nat) {secsRemaining : Nat},
    secsRemaining < monthSecs.sum →
      ∃ months, (gmtimeMonth monthSecs mon secsRemaining).1 = mon + months ∧
        secsRemaining = (monthSecs.take months).sum + (gmtimeMonth monthSecs mon secsRemaining).2 ∧
        (gmtimeMonth monthSecs mon secsRemaining).2 < monthSecs.getD months 0 := by
  induction monthSecs with
  | nil => exact fun _ _ impossible => absurd impossible (Nat.not_lt_zero _)
  | cons first others inductionHypothesis =>
      intro mon secsRemaining inside
      rw [List.sum_cons] at inside
      unfold gmtimeMonth
      split
      · rename_i within
        exact ⟨0, rfl, (Nat.zero_add _).symm, within⟩
      · obtain ⟨months, reached, split, less⟩ := @inductionHypothesis (mon + 1)
          (secsRemaining - first) (by omega)
        refine ⟨months + 1, by omega, ?_, less⟩
        rw [List.take_succ_cons, List.sum_cons]
        omega

/-- The seconds since 1970 at a date. -/
def posixSecs (timestamp : TmUtc) : Nat :=
  let year := (timestamp.tmYear + 1900).toNat
  secsOfYears 1970 (year - 1970) + (((getMonthSecs year).take timestamp.tmMon.toNat).sum +
    ((timestamp.tmMday - 1).toNat * 86400 + timestamp.tmHour.toNat * 3600 +
      timestamp.tmMin.toNat * 60 + timestamp.tmSec.toNat))

/-- The day of a date exists in its month. -/
def dayExists (timestamp : TmUtc) : Prop :=
  timestamp.tmMday ≤ Calendar.daysInMonth (timestamp.tmYear + 1900).toNat
    (timestamp.tmMon.toNat + 1)

theorem mkgmtime32_eq {timestamp : TmUtc} (since : 0 ≤ timestamp.tmYear + 1900) :
    atcacertMkgmtime32 timestamp = posixSecs timestamp % 2 ^ 32 := by
  have years : (timestamp.tmYear + 1900 - 1970).toNat = (timestamp.tmYear + 1900).toNat - 1970 := by
    omega
  unfold atcacertMkgmtime32 posixSecs
  dsimp only
  rw [years, mkgmtimeYears_eq _ 0 (by decide),
    mkgmtimeMonths_eq _ _ _ (Nat.mod_lt _ (by decide))]
  omega

theorem isLeapYear_eq (year : Nat) : isLeapYear year = Calendar.leapYear year := by
  unfold isLeapYear Calendar.leapYear
  rw [Bool.eq_iff_iff]
  simp only [Bool.or_eq_true, Bool.and_eq_true, decide_eq_true_eq]
  omega

/-- A month has the seconds of its days. -/
theorem monthSecs_eq (year : Nat) {mon : Nat} (inside : mon ≤ 11) :
    (getMonthSecs year).getD mon 0 = Calendar.daysInMonth year (mon + 1) * 86400 := by
  unfold getMonthSecs Calendar.daysInMonth
  rw [isLeapYear_eq]
  cases Calendar.leapYear year
  · revert mon
    decide
  · revert mon
    decide

/-- A month that had 31 days would still end within its year. -/
theorem take_getMonthSecs (year : Nat) {mon : Nat} (inside : mon ≤ 11) :
    ((getMonthSecs year).take mon).sum + 2678400 ≤ getYearSecs year := by
  unfold getMonthSecs getYearSecs
  cases isLeapYear year
  · revert mon
    decide
  · revert mon
    decide

/-- Seconds are read as the date they were written for when its day exists. -/
theorem gmtime32_posixSecs {timestamp : TmUtc} (fields : Fields timestamp)
    (since : 1970 ≤ timestamp.tmYear + 1900) (exists' : dayExists timestamp) {posixTime : UInt32}
    (same : posixTime.toNat = posixSecs timestamp) : atcacertGmtime32 posixTime = timestamp := by
  obtain ⟨mon, mday, hour, min, sec⟩ := fields
  obtain ⟨tmSec, tmMin, tmHour, tmMday, tmMon, tmYear⟩ := timestamp
  unfold posixSecs at same
  unfold dayExists at exists'
  dsimp only at *
  have inYear := take_getMonthSecs (tmYear + 1900).toNat (show tmMon.toNat ≤ 11 by omega)
  have inMonth := monthSecs_eq (tmYear + 1900).toNat (show tmMon.toNat ≤ 11 by omega)
  have since' : 1970 + ((tmYear + 1900).toNat - 1970) = (tmYear + 1900).toNat := by omega
  have years := gmtimeYear_eq ((tmYear + 1900).toNat - 1970) 1970
    (show ((getMonthSecs (tmYear + 1900).toNat).take tmMon.toNat).sum +
      ((tmMday - 1).toNat * 86400 + tmHour.toNat * 3600 + tmMin.toNat * 60 + tmSec.toNat) <
      getYearSecs (1970 + ((tmYear + 1900).toNat - 1970)) by rw [since']; omega)
  have months := gmtimeMonth_eq tmMon.toNat (getMonthSecs (tmYear + 1900).toNat) 0
    (show (tmMday - 1).toNat * 86400 + tmHour.toNat * 3600 + tmMin.toNat * 60 + tmSec.toNat <
      (getMonthSecs (tmYear + 1900).toNat).getD tmMon.toNat 0 by rw [inMonth]; omega)
  unfold atcacertGmtime32
  rw [same, years, since']
  dsimp only
  rw [months]
  simp only [TmUtc.mk.injEq]
  omega

/-- Every number of seconds is read as a date that exists and has as many. -/
theorem gmtime32_spec (posixTime : UInt32) :
    1970 ≤ (atcacertGmtime32 posixTime).tmYear + 1900 ∧ dayExists (atcacertGmtime32 posixTime) ∧
      posixSecs (atcacertGmtime32 posixTime) = posixTime.toNat := by
  have inYear := gmtimeYear_secs 1970 posixTime.toNat
  obtain ⟨years, year, secs⟩ := gmtimeYear_spec 1970 posixTime.toNat
  rw [← sum_getMonthSecs] at inYear
  obtain ⟨months, mon, within, less⟩ := gmtimeMonth_spec
    (getMonthSecs (gmtimeYear 1970 posixTime.toNat).1) 0 inYear
  have inside : months ≤ 11 := by
    by_contra beyond
    have none : (getMonthSecs (gmtimeYear 1970 posixTime.toNat).1)[months]? = none :=
      List.getElem?_eq_none (by show 12 ≤ months; omega)
    rw [List.getD_eq_getElem?_getD, none] at less
    exact absurd less (Nat.not_lt_zero _)
  rw [monthSecs_eq _ inside] at less
  unfold dayExists posixSecs atcacertGmtime32
  dsimp only
  generalize gmtimeMonth (getMonthSecs (gmtimeYear 1970 posixTime.toNat).1) 0
    (gmtimeYear 1970 posixTime.toNat).2 = month at *
  generalize gmtimeYear 1970 posixTime.toNat = reached at *
  have same : ((reached.1 : Int) - 1900 + 1900).toNat = reached.1 := by omega
  have months' : month.1 = months := by omega
  rw [same, year, Nat.add_sub_cancel_left, ← year, Int.toNat_natCast, months']
  omega

/-! ## Dates that can be written as seconds -/

theorem secsOfYears_posix : secsOfYears 1970 136 = 4291747200 := by decide +kernel

/-- The last second that is written is the last but one of 32 bits. -/
theorem posixSecs_lt {timestamp : TmUtc} (fields : Fields timestamp)
    (inYear : 1970 ≤ timestamp.tmYear + 1900 ∧ timestamp.tmYear + 1900 ≤ 2106)
    (notPast : ¬pastPosix timestamp) : posixSecs timestamp < 2 ^ 32 - 1 := by
  obtain ⟨mon, mday, hour, min, sec⟩ := fields
  unfold pastPosix at notPast
  unfold posixSecs
  dsimp only
  by_cases last : timestamp.tmYear + 1900 = 2106
  · have years : (timestamp.tmYear + 1900).toNat - 1970 = 136 := by omega
    rw [years, secsOfYears_posix]
    have months : timestamp.tmMon = 0 ∨ timestamp.tmMon = 1 := by omega
    rcases months with january | february
    · rw [january]
      show 4291747200 + (0 + _) < _
      omega
    · rw [february]
      show 4291747200 + (2678400 + _) < _
      omega
  · have month := take_getMonthSecs (timestamp.tmYear + 1900).toNat
      (show timestamp.tmMon.toNat ≤ 11 by omega)
    have year := secsOfYears_succ 1970 ((timestamp.tmYear + 1900).toNat - 1970)
    have before := secsOfYears_mono 1970
      (show (timestamp.tmYear + 1900).toNat - 1970 + 1 ≤ 136 by omega)
    rw [show 1970 + ((timestamp.tmYear + 1900).toNat - 1970) =
      (timestamp.tmYear + 1900).toNat by omega] at year
    rw [secsOfYears_posix] at before
    omega

/-- The last second of 32 bits is past the last one that is written. -/
theorem le_posixSecs {timestamp : TmUtc} (fields : Fields timestamp)
    (past : pastPosix timestamp) : 2 ^ 32 - 1 ≤ posixSecs timestamp := by
  obtain ⟨mon, mday, hour, min, sec⟩ := fields
  obtain ⟨last, beyond⟩ := past
  have years : (timestamp.tmYear + 1900).toNat = 2106 := by omega
  unfold posixSecs
  dsimp only
  rw [years, secsOfYears_posix]
  rcases beyond with later | ⟨february, within⟩
  · have march : ∀ mon ≤ 11, 1 < mon → 5097600 ≤ ((getMonthSecs 2106).take mon).sum := by decide
    have months := march timestamp.tmMon.toNat (by omega) (by omega)
    omega
  · rw [february]
    show _ ≤ 4291747200 + (2678400 + _)
    omega

theorem encPosixUint32_ok {timestamp : TmUtc} {posixUint32 : Nat} :
    atcacertDateEncPosixUint32 timestamp = .ok posixUint32 ↔
      (1970 ≤ timestamp.tmYear + 1900 ∧ timestamp.tmYear + 1900 ≤ 2106) ∧ Fields timestamp ∧
        ¬pastPosix timestamp ∧ posixUint32 = posixSecs timestamp := by
  unfold atcacertDateEncPosixUint32
  simp only [Exception.bind_eq_ok, inRange_ok, checkFields_ok, exists_const]
  refine and_congr_right fun inYear => and_congr_right fun fields => ?_
  split
  · rename_i past
    constructor
    · intro impossible
      cases impossible
    · exact fun wanted => absurd past wanted.1
  · rename_i notPast
    have small := posixSecs_lt fields inYear notPast
    rw [mkgmtime32_eq (by omega), Nat.mod_eq_of_lt (by omega), Except.ok.injEq]
    exact ⟨fun same => ⟨notPast, same.symm⟩, fun wanted => wanted.2.symm⟩

/-- Seconds that were read are written again, but for the last second of 32 bits. -/
theorem encPosixUint32_gmtime32 {posixTime : UInt32} {posixUint32 : Nat} :
    atcacertDateEncPosixUint32 (atcacertGmtime32 posixTime) = .ok posixUint32 ↔
      posixUint32 = posixTime.toNat ∧ posixTime.toNat ≠ 2 ^ 32 - 1 := by
  have spec := gmtime32_spec posixTime
  have fields : Fields (atcacertGmtime32 posixTime) := by
    have inside := atcacertGmtime32_fields posixTime
    exact ⟨inside.1, inside.2.1, inside.2.2.1, inside.2.2.2.1, inside.2.2.2.2⟩
  have small := posixTime.toNat_lt
  have inYear : (atcacertGmtime32 posixTime).tmYear + 1900 ≤ 2106 := by
    by_contra later
    have before := secsOfYears_mono 1970
      (show 137 ≤ ((atcacertGmtime32 posixTime).tmYear + 1900).toNat - 1970 by omega)
    rw [secsOfYears_succ, secsOfYears_posix] at before
    have known := spec.2.2
    unfold posixSecs at known
    dsimp only at known
    have year : 31536000 ≤ getYearSecs (1970 + 136) := by decide
    omega
  rw [encPosixUint32_ok, spec.2.2]
  constructor
  · rintro ⟨years, _, notPast, same⟩
    have bound := posixSecs_lt fields years notPast
    exact ⟨same, by omega⟩
  · rintro ⟨same, notLast⟩
    refine ⟨⟨spec.1, inYear⟩, fields, ?_, same⟩
    intro past
    have beyond := le_posixSecs fields past
    omega

/-- The bytes of a number in 32 bits. -/
theorem posixBytes_eq (posixUint32 : Nat) :
    posixBytes posixUint32 = BigEndian.toBytes 4 posixUint32 := by
  have byte (shift : Nat) : UInt8.ofNat (posixUint32 >>> shift &&& 0xff) =
      UInt8.ofNat (posixUint32 / 2 ^ shift) := by
    refine BigEndian.ofNat_eq_of_mod ?_
    rw [Nat.shiftRight_eq_div_pow, Nat.and_two_pow_sub_one_eq_mod _ 8]
    exact Nat.mod_mod _ _
  rw [posixBytes, BigEndian.toBytes_four, byte 24, byte 16, byte 8]
  have last := byte 0
  rw [Nat.shiftRight_zero, Nat.pow_zero, Nat.div_one] at last
  rw [last]
  rfl

/-- A byte put behind others. -/
theorem or_byte (high bits : Nat) {low : Nat} (byte : low < 256) :
    high <<< (bits + 8) ||| low <<< bits = (high * 256 + low) <<< bits := by
  have small : low <<< bits < 2 ^ (bits + 8) := by
    rw [Nat.shiftLeft_eq, Nat.pow_add, Nat.mul_comm]
    exact Nat.mul_lt_mul_of_pos_left byte (Nat.two_pow_pos bits)
  rw [← Nat.shiftLeft_add_eq_or_of_lt small, Nat.shiftLeft_eq, Nat.shiftLeft_eq,
    Nat.shiftLeft_eq, Nat.pow_add, Nat.add_mul]
  rw [Nat.mul_comm (2 ^ bits), ← Nat.mul_assoc]

/-- Four bytes are read as the number they are. -/
theorem decPosixUint32_eq {bytes : List UInt8} (four : bytes.length = 4) :
    atcacertDateDecPosixUint32 bytes =
      .ok (atcacertGmtime32 (UInt32.ofNat (BigEndian.fromBytes bytes))) := by
  match bytes, four with
  | [first, second, third, fourth], _ =>
      rw [atcacertDateDecPosixUint32]
      refine congrArg (fun posix => Except.ok (atcacertGmtime32 posix)) ?_
      apply UInt32.toNat_inj.mp
      have high := first.toNat_lt
      have higher := second.toNat_lt
      have low := third.toNat_lt
      have lowest := fourth.toNat_lt
      -- a byte is shifted by less than its distance from the top
      have shifted {byte : UInt8} (small : byte.toNat < 2 ^ 8) {shift : UInt32}
          (inside : shift.toNat ≤ 24) :
          (byte.toUInt32 <<< shift).toNat = byte.toNat <<< shift.toNat := by
        have bound : byte.toNat <<< shift.toNat < 2 ^ 32 := by
          rw [Nat.shiftLeft_eq]
          exact Nat.lt_of_lt_of_le (Nat.mul_lt_mul_of_pos_right small (Nat.two_pow_pos _))
            (Nat.pow_add 2 8 _ ▸ Nat.pow_le_pow_right (by decide) (by omega))
        rw [UInt32.toNat_shiftLeft, UInt8.toNat_toUInt32,
          Nat.mod_eq_of_lt (show shift.toNat < 32 by omega), Nat.mod_eq_of_lt bound]
      rw [UInt32.toNat_or, UInt32.toNat_or, UInt32.toNat_or, shifted high (by decide),
        shifted higher (by decide), shifted low (by decide), UInt8.toNat_toUInt32]
      have joined := or_byte (first.toNat * 256 + second.toNat) 8 low
      have whole := or_byte ((first.toNat * 256 + second.toNat) * 256 + third.toNat) 0 lowest
      rw [Nat.shiftLeft_zero, Nat.zero_add] at whole
      show (first.toNat <<< (16 + 8) ||| second.toNat <<< 16 ||| third.toNat <<< 8 |||
        fourth.toNat) = _
      rw [or_byte first.toNat 16 higher, joined, whole, UInt32.toNat_ofNat',
        BigEndian.fromBytes]
      simp only [List.foldl_cons, List.foldl_nil, Nat.shiftLeft_zero]
      omega

/-! ## What is written is read -/

/-- A format counts seconds. -/
def DateFormat.posix : DateFormat → Bool
  | .posixUint32Be | .posixUint32Le => true
  | .iso8601Sep | .rfc5280Utc | .rfc5280Gen => false

/-- Seconds that were written are read as the date exactly when its day exists. -/
theorem decPosixUint32_enc {timestamp : TmUtc} {posixUint32 : Nat}
    (encoded : atcacertDateEncPosixUint32 timestamp = .ok posixUint32) :
    atcacertDateDecPosixUint32 (BigEndian.toBytes 4 posixUint32) = .ok timestamp ↔
      dayExists timestamp := by
  obtain ⟨inYear, fields, notPast, known⟩ := encPosixUint32_ok.mp encoded
  have small := posixSecs_lt fields inYear notPast
  have value : (UInt32.ofNat (BigEndian.fromBytes (BigEndian.toBytes 4 posixUint32))).toNat =
      posixSecs timestamp := by
    rw [BigEndian.fromBytes_toBytes, UInt32.toNat_ofNat', known]
    omega
  rw [decPosixUint32_eq (BigEndian.toBytes_length 4 _), Except.ok.injEq]
  constructor
  · intro read
    rw [← read]
    exact (gmtime32_spec _).2.1
  · exact fun exists' => gmtime32_posixSecs fields inYear.1 exists' value

/-- A date that is written has the size of its format. -/
theorem atcacertDateEnc_size {format : DateFormat} {timestamp : TmUtc} {bytes : List UInt8}
    (encoded : atcacertDateEnc format timestamp = .ok bytes) : bytes.length = format.size := by
  cases format with
  | iso8601Sep =>
      rw [← (encIso8601Sep_ok.mp encoded).2.2]
      rfl
  | rfc5280Utc =>
      obtain ⟨short, _, _, written⟩ := encRfc5280Utc_ok.mp encoded
      rw [← written]
      rfl
  | posixUint32Be =>
      obtain ⟨posixUint32, _, written⟩ := Exception.map_eq_ok.mp encoded
      rw [← written]
      rfl
  | posixUint32Le =>
      obtain ⟨posixUint32, _, written⟩ := Exception.map_eq_ok.mp encoded
      rw [← written]
      rfl
  | rfc5280Gen =>
      rw [← (encRfc5280Gen_ok.mp encoded).2.2]
      rfl

/-- Text that is written is read, whatever follows it. -/
theorem textDate_dec {format : DateFormat} {timestamp : TmUtc} {bytes : List UInt8}
    (text : format.posix = false) (rest : List UInt8)
    (encoded : atcacertDateEnc format timestamp = .ok bytes) :
    atcacertDateDec format (bytes ++ rest) = .ok timestamp := by
  have size := atcacertDateEnc_size encoded
  unfold atcacertDateDec
  rw [if_neg (by rw [List.length_append]; omega)]
  cases format with
  | iso8601Sep => exact iso8601Sep_dec rest encoded
  | rfc5280Utc => exact rfc5280Utc_dec rest encoded
  | posixUint32Be => exact absurd text (by decide)
  | posixUint32Le => exact absurd text (by decide)
  | rfc5280Gen => exact rfc5280Gen_dec rest encoded

/-- Seconds that are written are read, whatever follows them, when their day exists. -/
theorem posixDate_dec {format : DateFormat} {timestamp : TmUtc} {bytes : List UInt8}
    (seconds : format.posix = true) (rest : List UInt8)
    (encoded : atcacertDateEnc format timestamp = .ok bytes) :
    atcacertDateDec format (bytes ++ rest) = .ok timestamp ↔ dayExists timestamp := by
  have size := atcacertDateEnc_size encoded
  unfold atcacertDateDec
  rw [if_neg (by rw [List.length_append]; omega)]
  cases format with
  | iso8601Sep => exact absurd seconds Bool.false_ne_true
  | rfc5280Utc => exact absurd seconds Bool.false_ne_true
  | posixUint32Be =>
      obtain ⟨posixUint32, written, known⟩ := Exception.map_eq_ok.mp encoded
      have whole : (bytes ++ rest).take 4 = bytes := List.take_left' size
      show atcacertDateDecPosixUint32 ((bytes ++ rest).take 4) = _ ↔ _
      rw [whole, ← known, posixBytes_eq, decPosixUint32_enc written]
  | posixUint32Le =>
      obtain ⟨posixUint32, written, known⟩ := Exception.map_eq_ok.mp encoded
      have whole : (bytes ++ rest).take 4 = bytes := List.take_left' size
      show atcacertDateDecPosixUint32 ((bytes ++ rest).take 4).reverse = _ ↔ _
      rw [whole, ← known, List.reverse_reverse, posixBytes_eq, decPosixUint32_enc written]
  | rfc5280Gen => exact absurd seconds Bool.false_ne_true

/-- What is written for a date is read as that date, whatever follows it, but for seconds
written for a day that does not exist. -/
theorem atcacertDateDec_enc {format : DateFormat} {timestamp : TmUtc} {bytes : List UInt8}
    (rest : List UInt8) (encoded : atcacertDateEnc format timestamp = .ok bytes) :
    atcacertDateDec format (bytes ++ rest) = .ok timestamp ↔
      (format.posix → dayExists timestamp) := by
  cases seconds : format.posix with
  | false => exact iff_of_true (textDate_dec seconds rest encoded) (absurd · Bool.false_ne_true)
  | true =>
      rw [posixDate_dec seconds rest encoded]
      exact ⟨fun exists' _ => exists', fun exists' => exists' rfl⟩

/-- The thirtieth of February is read as the second of March. -/
theorem atcacertDateDec_enc_february :
    ¬(atcacertDateDec .posixUint32Be ([0x65, 0xe1, 0x1a, 0x80] ++ [0x30]) =
      .ok ⟨0, 0, 0, 30, 1, 124⟩) := by
  rw [@atcacertDateDec_enc .posixUint32Be ⟨0, 0, 0, 30, 1, 124⟩ [0x65, 0xe1, 0x1a, 0x80] [0x30]
    (by decide +kernel)]
  intro both
  exact absurd (both rfl) (by unfold dayExists; decide)

/-! ## What was read is written -/

/-- The last second of 32 bits is the one whose bytes are all ones. -/
theorem fromBytes_ones {bytes : List UInt8} (four : bytes.length = 4) :
    BigEndian.fromBytes bytes = 2 ^ 32 - 1 ↔ bytes = [0xff, 0xff, 0xff, 0xff] := by
  constructor
  · intro ones
    have own := BigEndian.toBytes_fromBytes bytes
    rw [ones, four] at own
    rw [← own]
    rfl
  · intro ones
    rw [ones]
    rfl

theorem encPosixUint32_dec {date bytes : List UInt8} {timestamp : TmUtc}
    (four : date.length = 4) (decoded : atcacertDateDecPosixUint32 date = .ok timestamp) :
    (atcacertDateEncPosixUint32 timestamp).map posixBytes = .ok bytes ↔
      bytes = date ∧ date ≠ [0xff, 0xff, 0xff, 0xff] := by
  have small := BigEndian.fromBytes_lt date
  have own := BigEndian.toBytes_fromBytes date
  rw [four] at small own
  have value : (UInt32.ofNat (BigEndian.fromBytes date)).toNat = BigEndian.fromBytes date := by
    rw [UInt32.toNat_ofNat']
    exact Nat.mod_eq_of_lt small
  rw [decPosixUint32_eq four] at decoded
  rw [← Except.ok.inj decoded, Exception.map_eq_ok]
  simp only [encPosixUint32_gmtime32, value, ne_eq, fromBytes_ones four, posixBytes_eq]
  constructor
  · rintro ⟨_, ⟨same, notLast⟩, known⟩
    rw [same, own] at known
    exact ⟨known.symm, notLast⟩
  · rintro ⟨same, notLast⟩
    exact ⟨_, ⟨rfl, notLast⟩, own.trans same.symm⟩

/-- What is written for a date that was read is what it was read from. Text is written
when its fields lie where they must; seconds always are, but for the last one. -/
theorem atcacertDateEnc_dec {format : DateFormat} {date bytes : List UInt8} {timestamp : TmUtc}
    (decoded : atcacertDateDec format date = .ok timestamp) :
    atcacertDateEnc format timestamp = .ok bytes ↔
      bytes = date.take format.size ∧
        if format.posix then date.take 4 ≠ [0xff, 0xff, 0xff, 0xff] else Fields timestamp := by
  unfold atcacertDateDec at decoded
  split at decoded
  · cases decoded
  rename_i long
  have enough : format.size ≤ date.length := Nat.le_of_not_lt long
  cases format with
  | iso8601Sep => exact iso8601Sep_enc enough decoded
  | rfc5280Utc => exact rfc5280Utc_enc enough decoded
  | posixUint32Be =>
      have four : (date.take 4).length = 4 := List.length_take_of_le enough
      exact encPosixUint32_dec four decoded
  | posixUint32Le =>
      have four : (date.take 4).reverse.length = 4 := by
        rw [List.length_reverse]
        exact List.length_take_of_le enough
      have reversed := @encPosixUint32_dec _ bytes.reverse _ four decoded
      rw [Exception.map_eq_ok] at reversed
      show (atcacertDateEncPosixUint32 timestamp).map _ = .ok bytes ↔
        bytes = date.take 4 ∧ date.take 4 ≠ _
      rw [Exception.map_eq_ok]
      simp only [List.reverse_eq_iff] at reversed ⊢
      rw [reversed, List.reverse_reverse]
      exact and_congr_right fun _ => not_congr List.reverse_eq_iff
  | rfc5280Gen => exact rfc5280Gen_enc enough decoded

/-- The last second of the format is read but not written; the one before it is both. -/
theorem atcacertDateEnc_dec_last :
    atcacertDateEnc .posixUint32Be (atcacertDateGetMaxDate .posixUint32Be) ≠
        .ok [0xff, 0xff, 0xff, 0xff] ∧
      atcacertDateEnc .posixUint32Be { atcacertDateGetMaxDate .posixUint32Be with tmSec := 14 } =
        .ok [0xff, 0xff, 0xff, 0xfe] := by
  constructor
  · intro encoded
    have last := @atcacertDateEnc_dec .posixUint32Be [0xff, 0xff, 0xff, 0xff]
      [0xff, 0xff, 0xff, 0xff] (atcacertDateGetMaxDate .posixUint32Be) (by decide +kernel)
    exact (last.mp encoded).2 rfl
  · have before := @atcacertDateEnc_dec .posixUint32Be [0xff, 0xff, 0xff, 0xfe]
      [0xff, 0xff, 0xff, 0xfe] { atcacertDateGetMaxDate .posixUint32Be with tmSec := 14 }
      (by decide +kernel)
    have other : ([0xff, 0xff, 0xff, 0xfe] : List UInt8).take 4 ≠ [0xff, 0xff, 0xff, 0xff] := by
      decide
    exact before.mpr ⟨rfl, other⟩

/-! ## The latest dates -/

/-- A date does not come after another one: the year counts most, the second least. -/
def TmUtc.notAfter (timestamp latest : TmUtc) : Prop :=
  timestamp.tmYear < latest.tmYear ∨ timestamp.tmYear = latest.tmYear ∧
    (timestamp.tmMon < latest.tmMon ∨ timestamp.tmMon = latest.tmMon ∧
      (timestamp.tmMday < latest.tmMday ∨ timestamp.tmMday = latest.tmMday ∧
        (timestamp.tmHour < latest.tmHour ∨ timestamp.tmHour = latest.tmHour ∧
          (timestamp.tmMin < latest.tmMin ∨ timestamp.tmMin = latest.tmMin ∧
            timestamp.tmSec ≤ latest.tmSec))))

/-- The end of a year is later than every date in it. -/
theorem notAfter_of_year {timestamp : TmUtc} (fields : Fields timestamp) {year : Int}
    (inYear : timestamp.tmYear ≤ year) :
    timestamp.notAfter ⟨59, 59, 23, 31, 11, year⟩ := by
  obtain ⟨mon, mday, hour, min, sec⟩ := fields
  unfold TmUtc.notAfter
  dsimp only
  omega

theorem notAfter_of_posix {timestamp : TmUtc} {posixUint32 : Nat}
    (encoded : atcacertDateEncPosixUint32 timestamp = .ok posixUint32) :
    timestamp.notAfter ⟨15, 28, 6, 7, 1, 206⟩ := by
  obtain ⟨inYear, ⟨mon, mday, hour, min, sec⟩, notPast, _⟩ := encPosixUint32_ok.mp encoded
  unfold pastPosix at notPast
  unfold TmUtc.notAfter
  dsimp only
  omega

/-- The check for dates past the last one refuses its last second. -/
theorem posixMaxDate_refused (change : Nat → List UInt8) {bytes : List UInt8} :
    (atcacertDateEncPosixUint32 ⟨15, 28, 6, 7, 1, 206⟩).map change ≠ .ok bytes := by
  intro encoded
  obtain ⟨posixUint32, written, _⟩ := Exception.map_eq_ok.mp encoded
  have notPast := (encPosixUint32_ok.mp written).2.2.1
  exact notPast (by decide)

theorem enc_notAfter {format : DateFormat} {timestamp : TmUtc} {bytes : List UInt8}
    (encoded : atcacertDateEnc format timestamp = .ok bytes) :
    timestamp.notAfter (atcacertDateGetMaxDate format) := by
  cases format with
  | iso8601Sep =>
      obtain ⟨inYear, fields, _⟩ := encIso8601Sep_ok.mp encoded
      exact notAfter_of_year fields (by omega)
  | rfc5280Utc =>
      obtain ⟨short, inYear, fields, _⟩ := encRfc5280Utc_ok.mp encoded
      have century := shortYear_ok.mp inYear
      apply notAfter_of_year fields
      split at century <;> omega
  | posixUint32Be | posixUint32Le =>
      obtain ⟨posixUint32, written, _⟩ := Exception.map_eq_ok.mp encoded
      exact notAfter_of_posix written
  | rfc5280Gen =>
      obtain ⟨inYear, fields, _⟩ := encRfc5280Gen_ok.mp encoded
      exact notAfter_of_year fields (by omega)

theorem maxDate_written_iff (format : DateFormat) :
    (∃ bytes, atcacertDateEnc format (atcacertDateGetMaxDate format) = .ok bytes) ↔
      ¬format.posix := by
  cases format with
  | iso8601Sep | rfc5280Utc | rfc5280Gen => exact iff_of_true ⟨_, rfl⟩ Bool.false_ne_true
  | posixUint32Be =>
      exact iff_of_false (fun ⟨_, encoded⟩ => posixMaxDate_refused posixBytes encoded)
        (absurd rfl)
  | posixUint32Le =>
      exact iff_of_false
        (fun ⟨_, encoded⟩ =>
          posixMaxDate_refused (fun posix => (posixBytes posix).reverse) encoded)
        (absurd rfl)

theorem maxDate_read (format : DateFormat) :
    ∃ date, atcacertDateDec format date = .ok (atcacertDateGetMaxDate format) := by
  by_cases seconds : format.posix
  · refine ⟨[0xff, 0xff, 0xff, 0xff], ?_⟩
    cases format with
    | iso8601Sep | rfc5280Utc | rfc5280Gen => exact absurd seconds Bool.false_ne_true
    | posixUint32Be | posixUint32Le => decide +kernel
  · obtain ⟨bytes, encoded⟩ := (maxDate_written_iff format).mpr seconds
    exact ⟨bytes ++ [], textDate_dec (Bool.eq_false_iff.mpr seconds) [] encoded⟩

/-- Every date that is written comes before the latest date of its format or is that date,
which is read from some bytes but written only as text. -/
theorem atcacertDateGetMaxDate_latest (format : DateFormat) :
    (∀ timestamp bytes, atcacertDateEnc format timestamp = .ok bytes →
      timestamp.notAfter (atcacertDateGetMaxDate format)) ∧
    (∃ date, atcacertDateDec format date = .ok (atcacertDateGetMaxDate format)) ∧
    ((∃ bytes, atcacertDateEnc format (atcacertDateGetMaxDate format) = .ok bytes) ↔
      ¬format.posix) :=
  ⟨fun _ _ encoded => enc_notAfter encoded, maxDate_read format, maxDate_written_iff format⟩

/-! ## Compressed dates -/

/-- The 24 bits of a compressed date as a number. -/
def packed (year month day hour years : Nat) : Nat :=
  (((year * 16 + month) * 32 + day) * 32 + hour) * 32 + years

section Packed

variable {year month day hour years : Nat}

theorem date0_eq (inYear : year < 32) (inMonth : month < 16) :
    (((0 &&& 0x07) ||| ((UInt8.ofNat year &&& 0x1F) <<< (3 : UInt8))) &&& 0xF8) |||
      ((UInt8.ofNat month &&& 0x0F) >>> (1 : UInt8)) = UInt8.ofNat (year * 8 + month / 2) := by
  have all : ∀ year < 32, ∀ month < 16,
      (((0 &&& 0x07) ||| ((UInt8.ofNat year &&& 0x1F) <<< (3 : UInt8))) &&& 0xF8) |||
        ((UInt8.ofNat month &&& 0x0F) >>> (1 : UInt8)) = UInt8.ofNat (year * 8 + month / 2) := by
    decide +kernel
  exact all year inYear month inMonth

theorem date1_eq (inMonth : month < 16) (inDay : day < 32) (inHour : hour < 32) :
    (((((0 &&& 0x7F) ||| ((UInt8.ofNat month &&& 0x0F) <<< (7 : UInt8))) &&& 0x83) |||
      ((UInt8.ofNat day &&& 0x1F) <<< (2 : UInt8))) &&& 0xFC) |||
      ((UInt8.ofNat hour &&& 0x1F) >>> (3 : UInt8)) =
      UInt8.ofNat (month % 2 * 128 + day * 4 + hour / 8) := by
  -- only the last bit of the month and the first two of the hour are in this byte
  have lastBit : ∀ month < 16, (UInt8.ofNat month &&& 0x0F) <<< (7 : UInt8) =
      UInt8.ofNat (month % 2 * 128) := by decide +kernel
  have firstBits : ∀ hour < 32, (UInt8.ofNat hour &&& 0x1F) >>> (3 : UInt8) =
      UInt8.ofNat (hour / 8) := by decide +kernel
  have all : ∀ bit < 2, ∀ day < 32, ∀ bits < 4,
      (((((0 &&& 0x7F) ||| UInt8.ofNat (bit * 128)) &&& 0x83) |||
        ((UInt8.ofNat day &&& 0x1F) <<< (2 : UInt8))) &&& 0xFC) ||| UInt8.ofNat bits =
        UInt8.ofNat (bit * 128 + day * 4 + bits) := by decide +kernel
  rw [lastBit month inMonth, firstBits hour inHour]
  exact all (month % 2) (Nat.mod_lt _ (by decide)) day inDay (hour / 8) (by omega)

theorem date2_eq (inHour : hour < 32) (inYears : years < 32) :
    (((0 &&& 0x1F) ||| ((UInt8.ofNat hour &&& 0x1F) <<< (5 : UInt8))) &&& 0xE0) |||
      (UInt8.ofNat years &&& 0x1F) = UInt8.ofNat (hour % 8 * 32 + years) := by
  have lastBits : ∀ hour < 32, (UInt8.ofNat hour &&& 0x1F) <<< (5 : UInt8) =
      UInt8.ofNat (hour % 8 * 32) := by decide +kernel
  have all : ∀ bits < 8, ∀ years < 32,
      (((0 &&& 0x1F) ||| UInt8.ofNat (bits * 32)) &&& 0xE0) ||| (UInt8.ofNat years &&& 0x1F) =
        UInt8.ofNat (bits * 32 + years) := by decide +kernel
  rw [lastBits hour inHour]
  exact all (hour % 8) (Nat.mod_lt _ (by decide)) years inYears

/-- The three bytes are those of the number. -/
theorem toBytes_packed (inDay : day < 32) (inHour : hour < 32)
    (inYears : years < 32) :
    BigEndian.toBytes 3 (packed year month day hour years) =
      [UInt8.ofNat (year * 8 + month / 2), UInt8.ofNat (month % 2 * 128 + day * 4 + hour / 8),
        UInt8.ofNat (hour % 8 * 32 + years)] := by
  simp only [BigEndian.toBytes, List.nil_append, List.cons_append, List.cons.injEq, and_true]
  unfold packed
  refine ⟨?_, ?_, ?_⟩ <;> exact BigEndian.ofNat_eq_of_mod (by omega)

end Packed

/-- A date that is compressed lies in the years from 2000 to 2031. -/
structure Compressible (issueDate : TmUtc) : Prop where
  year : 2000 ≤ issueDate.tmYear + 1900 ∧ issueDate.tmYear + 1900 ≤ 2031
  mon : 0 ≤ issueDate.tmMon ∧ issueDate.tmMon ≤ 11
  mday : 1 ≤ issueDate.tmMday ∧ issueDate.tmMday ≤ 31
  hour : 0 ≤ issueDate.tmHour ∧ issueDate.tmHour ≤ 23

theorem ofInt_eq {value : Int} (positive : 0 ≤ value) :
    UInt8.ofInt value = UInt8.ofNat value.toNat := by
  apply UInt8.toNat_inj.mp
  unfold UInt8.ofInt
  rw [UInt8.toNat_ofNat', UInt8.toNat_ofNat']
  omega

theorem encCompcert_ok {issueDate : TmUtc} {expireYears : UInt8} {bytes : List UInt8} :
    atcacertDateEncCompcert issueDate expireYears = .ok bytes ↔
      Compressible issueDate ∧ expireYears.toNat < 32 ∧
        bytes = BigEndian.toBytes 3 (packed (issueDate.tmYear - 100).toNat
          (issueDate.tmMon + 1).toNat issueDate.tmMday.toNat issueDate.tmHour.toNat
          expireYears.toNat) := by
  unfold atcacertDateEncCompcert
  split
  · rename_i outside
    exact iff_of_false (by nofun) fun wanted => by have := wanted.1.year; omega
  split
  · rename_i outside
    exact iff_of_false (by nofun) fun wanted => by have := wanted.1.mon; omega
  split
  · rename_i outside
    exact iff_of_false (by nofun) fun wanted => by have := wanted.1.mday; omega
  split
  · rename_i outside
    exact iff_of_false (by nofun) fun wanted => by have := wanted.1.hour; omega
  split
  · rename_i outside
    refine iff_of_false (by nofun) fun wanted => ?_
    have beyond : 31 < expireYears.toNat := outside
    have within := wanted.2.1
    omega
  · rename_i year mon mday hour years
    have few : expireYears.toNat ≤ 31 := Nat.le_of_not_lt years
    dsimp only
    rw [ofInt_eq (by omega), ofInt_eq (by omega), ofInt_eq (by omega), ofInt_eq (by omega),
      Except.ok.injEq, toBytes_packed (by omega) (by omega) (by omega)]
    have own : expireYears = UInt8.ofNat expireYears.toNat := UInt8.ofNat_toNat.symm
    have last := date2_eq (show issueDate.tmHour.toNat < 32 by omega)
      (show expireYears.toNat < 32 by omega)
    rw [← own] at last
    have same : issueDate.tmYear + 1900 - 2000 = issueDate.tmYear - 100 := by omega
    rw [same, date0_eq (by omega) (by omega), date1_eq (by omega) (by omega) (by omega), last]
    exact ⟨fun written => ⟨⟨by omega, by omega, by omega, by omega⟩, by omega, written.symm⟩,
      fun wanted => wanted.2.2.symm⟩

/-- What holds of the 256 bytes holds of every byte. -/
theorem byte_all {Holds : UInt8 → Prop} (all : ∀ number < 256, Holds (UInt8.ofNat number))
    (byte : UInt8) : Holds byte := by
  have own := all byte.toNat byte.toNat_lt
  rwa [UInt8.ofNat_toNat] at own

section Bits

variable (first second : UInt8)

theorem yearBits : (first >>> (3 : UInt8)).toNat = first.toNat / 8 :=
  @byte_all (fun byte => (byte >>> (3 : UInt8)).toNat = byte.toNat / 8) (by decide +kernel) first

theorem monBits :
    (((first &&& 0x07) <<< (1 : UInt8)) ||| ((second &&& 0x80) >>> (7 : UInt8))).toNat =
      first.toNat % 8 * 2 + second.toNat / 128 := by
  have front := @byte_all (fun byte => (byte &&& 0x07) <<< (1 : UInt8) =
    UInt8.ofNat (byte.toNat % 8 * 2)) (by decide +kernel) first
  have back := @byte_all (fun byte => (byte &&& 0x80) >>> (7 : UInt8) =
    UInt8.ofNat (byte.toNat / 128)) (by decide +kernel) second
  have all : ∀ front < 8, ∀ back < 2, (UInt8.ofNat (front * 2) ||| UInt8.ofNat back).toNat =
      front * 2 + back := by decide +kernel
  have bound := second.toNat_lt
  rw [front, back]
  exact all _ (Nat.mod_lt _ (by decide)) _ (by omega)

theorem mdayBits : ((first &&& 0x7C) >>> (2 : UInt8)).toNat = first.toNat % 128 / 4 :=
  @byte_all (fun byte => ((byte &&& 0x7C) >>> (2 : UInt8)).toNat = byte.toNat % 128 / 4)
    (by decide +kernel) first

theorem hourBits :
    (((first &&& 0x03) <<< (3 : UInt8)) ||| ((second &&& 0xE0) >>> (5 : UInt8))).toNat =
      first.toNat % 4 * 8 + second.toNat / 32 := by
  have front := @byte_all (fun byte => (byte &&& 0x03) <<< (3 : UInt8) =
    UInt8.ofNat (byte.toNat % 4 * 8)) (by decide +kernel) first
  have back := @byte_all (fun byte => (byte &&& 0xE0) >>> (5 : UInt8) =
    UInt8.ofNat (byte.toNat / 32)) (by decide +kernel) second
  have all : ∀ front < 4, ∀ back < 8, (UInt8.ofNat (front * 8) ||| UInt8.ofNat back).toNat =
      front * 8 + back := by decide +kernel
  have bound := second.toNat_lt
  rw [front, back]
  exact all _ (Nat.mod_lt _ (by decide)) _ (by omega)

theorem yearsBits : (first &&& 0x1F).toNat = first.toNat % 32 :=
  @byte_all (fun byte => (byte &&& 0x1F).toNat = byte.toNat % 32) (by decide +kernel) first

end Bits

/-- The date in the 24 bits of a number. -/
def unpacked (number : Nat) : TmUtc where
  tmSec := 0
  tmMin := 0
  tmHour := (number / 32 % 32 : Nat)
  tmMday := (number / 1024 % 32 : Nat)
  tmMon := (number / 32768 % 16 : Nat) - 1
  tmYear := (number / 524288 : Nat) + 100

theorem decCompcert_eq (date0 date1 date2 : UInt8) (rest : List UInt8) (format : DateFormat) :
    let number := BigEndian.fromBytes [date0, date1, date2]
    atcacertDateDecCompcert (date0 :: date1 :: date2 :: rest) format =
      (unpacked number,
        if number % 32 ≠ 0 then
          { unpacked number with tmYear := (unpacked number).tmYear + (number % 32 : Nat) }
        else atcacertDateGetMaxDate format) := by
  intro number
  have known : number = date0.toNat * 65536 + date1.toNat * 256 + date2.toNat := by
    show ((0 * 256 + date0.toNat) * 256 + date1.toNat) * 256 + date2.toNat = _
    omega
  have bound0 := date0.toNat_lt
  have bound1 := date1.toNat_lt
  have bound2 := date2.toNat_lt
  have years := yearsBits date2
  have issued : (atcacertDateDecCompcert (date0 :: date1 :: date2 :: rest) format).1 =
      unpacked number := by
    unfold atcacertDateDecCompcert unpacked
    simp only [List.getD_cons_zero, List.getD_cons_succ, yearBits, monBits, mdayBits, hourBits,
      TmUtc.mk.injEq, true_and]
    omega
  have none : date2 &&& 0x1F ≠ 0 ↔ number % 32 ≠ 0 := by
    refine not_congr ⟨fun zero => ?_, fun zero => UInt8.toNat_inj.mp ?_⟩
    · rw [zero] at years
      have zeroYears : 0 = date2.toNat % 32 := years
      omega
    · rw [years]
      show date2.toNat % 32 = 0
      omega
  have sameYears : (date2 &&& 0x1F).toNat = number % 32 := by omega
  have expires : (atcacertDateDecCompcert (date0 :: date1 :: date2 :: rest) format).2 =
      if date2 &&& 0x1F ≠ 0 then
        { (atcacertDateDecCompcert (date0 :: date1 :: date2 :: rest) format).1 with
          tmYear := (atcacertDateDecCompcert (date0 :: date1 :: date2 :: rest) format).1.tmYear +
            (date2 &&& 0x1F).toNat }
      else atcacertDateGetMaxDate format := rfl
  refine Prod.ext issued (expires.trans ?_)
  rw [issued, sameYears]
  exact if_congr none rfl rfl

/-- The issue date is read up to its minutes, and it expires the given years later, or
never. -/
theorem atcacertDateDecCompcert_enc {issueDate : TmUtc} {expireYears : UInt8}
    {bytes : List UInt8} (rest : List UInt8) (format : DateFormat)
    (encoded : atcacertDateEncCompcert issueDate expireYears = .ok bytes) :
    let issued := { issueDate with tmMin := 0, tmSec := 0 }
    atcacertDateDecCompcert (bytes ++ rest) format =
      (issued,
        if expireYears ≠ 0 then { issued with tmYear := issued.tmYear + expireYears.toNat }
        else atcacertDateGetMaxDate format) := by
  obtain ⟨⟨year, mon, mday, hour⟩, few, known⟩ := encCompcert_ok.mp encoded
  obtain ⟨tmSec, tmMin, tmHour, tmMday, tmMon, tmYear⟩ := issueDate
  dsimp only at *
  generalize number : packed (tmYear - 100).toNat (tmMon + 1).toNat tmMday.toNat tmHour.toNat
    expireYears.toNat = date at known
  have value := BigEndian.fromBytes_toBytes 3 date
  rw [← known] at value
  have length : bytes.length = 3 := by
    rw [known]
    exact BigEndian.toBytes_length 3 date
  unfold packed at number
  rw [Nat.mod_eq_of_lt (show date < 256 ^ 3 by omega)] at value
  match bytes, length with
  | [date0, date1, date2], _ =>
      have issued : unpacked date = ⟨0, 0, tmHour, tmMday, tmMon, tmYear⟩ := by
        unfold unpacked
        rw [TmUtc.mk.injEq]
        omega
      have years : date % 32 = expireYears.toNat := by omega
      have none : date % 32 ≠ 0 ↔ expireYears ≠ 0 := by
        rw [years]
        exact not_congr ⟨fun zero => UInt8.toNat_inj.mp zero, congrArg UInt8.toNat⟩
      show atcacertDateDecCompcert (date0 :: date1 :: date2 :: rest) format = _
      rw [decCompcert_eq, value, issued]
      refine Prod.ext rfl ?_
      rw [years] at none ⊢
      exact if_congr none rfl rfl

/-- A leap day is issued; the day on which it expires does not exist. -/
theorem atcacertDateDecCompcert_enc_leapDay :
    atcacertDateDecCompcert ([0xa1, 0x74, 0xe1] ++ [0]) .rfc5280Utc =
      (⟨0, 0, 7, 29, 1, 120⟩, ⟨0, 0, 7, 29, 1, 121⟩) :=
  @atcacertDateDecCompcert_enc ⟨30, 15, 7, 29, 1, 120⟩ 1 [0xa1, 0x74, 0xe1] [0] .rfc5280Utc
    (by decide +kernel)

/-- What is compressed for a date that was read, with its years, is what it was read from;
only dates whose fields lie where they must are. -/
theorem atcacertDateEncCompcert_dec (date0 date1 date2 : UInt8) (format : DateFormat)
    (bytes : List UInt8) :
    let issueDate := (atcacertDateDecCompcert [date0, date1, date2] format).1
    atcacertDateEncCompcert issueDate (date2 &&& 0x1F) = .ok bytes ↔
      bytes = [date0, date1, date2] ∧ Compressible issueDate := by
  intro issueDate
  have known : issueDate = unpacked (BigEndian.fromBytes [date0, date1, date2]) :=
    congrArg Prod.fst (decCompcert_eq date0 date1 date2 [] format)
  have own := BigEndian.toBytes_fromBytes [date0, date1, date2]
  have small := BigEndian.fromBytes_lt [date0, date1, date2]
  have last : BigEndian.fromBytes [date0, date1, date2] % 32 = date2.toNat % 32 := by
    show (((0 * 256 + date0.toNat) * 256 + date1.toNat) * 256 + date2.toNat) % 32 = _
    omega
  rw [encCompcert_ok, yearsBits, known]
  generalize BigEndian.fromBytes [date0, date1, date2] = number at own small last ⊢
  have again (lies : Compressible (unpacked number)) :
      packed ((unpacked number).tmYear - 100).toNat ((unpacked number).tmMon + 1).toNat
        (unpacked number).tmMday.toNat (unpacked number).tmHour.toNat (date2.toNat % 32) =
        number := by
    unfold packed unpacked
    dsimp only
    omega
  constructor
  · rintro ⟨lies, _, written⟩
    rw [again lies] at written
    exact ⟨written.trans own, lies⟩
  · rintro ⟨same, lies⟩
    rw [again lies]
    exact ⟨lies, Nat.mod_lt _ (by decide), same.trans own.symm⟩

end MicrochipDay.Provisioning
