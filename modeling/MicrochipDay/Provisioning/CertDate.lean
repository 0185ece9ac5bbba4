import Mathlib.Algebra.GroupWithZero.Nat
import Mathlib.Data.List.Basic
import Mathlib.Order.Basic

/-!
Owns the dates of the device's certificates (atcacert_date.c): the formats in which a
certificate has its issue date, and the three bytes of a compressed certificate.

An `int` of the source is an integer without bounds here: the decoders return small
numbers. Pointers are never null.
-/

namespace MicrochipDay.Provisioning

/-- The `ATCACERT_E_*` codes that are returned here. -/
inductive AtcacertError where
  | badParams
  | decodingError
  | invalidDate
  | unexpectedElemSize
  | elemMissing
  | elemOutOfBounds
deriving DecidableEq, Repr

/-- `atcacert_tm_utc_t`: the year from 1900 on, the month from 0 on. -/
structure TmUtc where
  tmSec : Int
  tmMin : Int
  tmHour : Int
  tmMday : Int
  tmMon : Int
  tmYear : Int
deriving DecidableEq, Repr

/-- `atcacert_date_format_t`. -/
inductive DateFormat where
  | iso8601Sep
  | rfc5280Utc
  | posixUint32Be
  | posixUint32Le
  | rfc5280Gen
deriving DecidableEq, Repr

/-- `ATCACERT_DATE_FORMAT_SIZES`. -/
def DateFormat.size : DateFormat → Nat
  | .iso8601Sep => 20
  | .rfc5280Utc => 13
  | .posixUint32Be => 4
  | .posixUint32Le => 4
  | .rfc5280Gen => 15

/-! ## Dates as text -/

instance decidableDigits (str : List UInt8) :
    Decidable (∀ char ∈ str, 0x30 ≤ char ∧ char ≤ 0x39) :=
  List.decidableBAll _ str

/-- `str_to_int` on two or four characters, for which its checks of the size of a
number never fail. -/
def strToInt (str : List UInt8) : Except AtcacertError Int :=
  if ∀ char ∈ str, 0x30 ≤ char ∧ char ≤ 0x39 then
    .ok (str.foldl (fun (number : Int) char => number * 10 + (char.toNat - 0x30)) 0)
  else .error .decodingError

section Text

variable (formattedDate : List UInt8)

/-- The number at a position of a date. -/
def number (position width : Nat) : Except AtcacertError Int :=
  strToInt ((formattedDate.drop position).take width)

def separator (position : Nat) (char : Char) : Except AtcacertError Unit :=
  if formattedDate[position]? = some (UInt8.ofNat char.toNat) then .ok ()
  else .error .decodingError

def atcacertDateDecIso8601Sep : Except AtcacertError TmUtc := do
  let year ← number formattedDate 0 4
  separator formattedDate 4 '-'
  let mon ← number formattedDate 5 2
  separator formattedDate 7 '-'
  let mday ← number formattedDate 8 2
  separator formattedDate 10 'T'
  let hour ← number formattedDate 11 2
  separator formattedDate 13 ':'
  let min ← number formattedDate 14 2
  separator formattedDate 16 ':'
  let sec ← number formattedDate 17 2
  separator formattedDate 19 'Z'
  .ok ⟨sec, min, hour, mday, mon - 1, year - 1900⟩

def atcacertDateDecRfc5280Utc : Except AtcacertError TmUtc := do
  let year ← number formattedDate 0 2
  let year := if year < 50 then year + 2000 else year + 1900
  let mon ← number formattedDate 2 2
  let mday ← number formattedDate 4 2
  let hour ← number formattedDate 6 2
  let min ← number formattedDate 8 2
  let sec ← number formattedDate 10 2
  separator formattedDate 12 'Z'
  .ok ⟨sec, min, hour, mday, mon - 1, year - 1900⟩

def atcacertDateDecRfc5280Gen : Except AtcacertError TmUtc := do
  let year ← number formattedDate 0 4
  let mon ← number formattedDate 4 2
  let mday ← number formattedDate 6 2
  let hour ← number formattedDate 8 2
  let min ← number formattedDate 10 2
  let sec ← number formattedDate 12 2
  separator formattedDate 14 'Z'
  .ok ⟨sec, min, hour, mday, mon - 1, year - 1900⟩

end Text

/-! ## Dates as seconds -/

def isLeapYear (year : Nat) : Bool := year % 400 = 0 || (year % 4 = 0 && year % 100 ≠ 0)

def getYearSecs (year : Nat) : Nat := (if isLeapYear year then 366 else 365) * 86400

/-- `get_month_secs` for the twelve months of a year. -/
def getMonthSecs (year : Nat) : List Nat :=
  [2678400, if isLeapYear year then 2505600 else 2419200, 2678400, 2592000, 2678400, 2592000,
    2678400, 2678400, 2592000, 2678400, 2592000, 2678400]

/-- The first loop of `atcacert_gmtime32`: the year, and the seconds since it began. -/
def gmtimeYear (year secsRemaining : Nat) : Nat × Nat :=
  if secsRemaining < getYearSecs year then (year, secsRemaining)
  else gmtimeYear (year + 1) (secsRemaining - getYearSecs year)
termination_by secsRemaining
decreasing_by
  have positive : 0 < getYearSecs year := by
    unfold getYearSecs
    split <;> decide
  omega

/-- Its second loop, over the months that are left. -/
def gmtimeMonth : List Nat → Nat → Nat → Nat × Nat
  | [], mon, secsRemaining => (mon, secsRemaining)
  | secs :: months, mon, secsRemaining =>
      if secsRemaining < secs then (mon, secsRemaining)
      else gmtimeMonth months (mon + 1) (secsRemaining - secs)

def atcacertGmtime32 (posixTime : UInt32) : TmUtc :=
  let (year, secsRemaining) := gmtimeYear 1970 posixTime.toNat
  let (mon, secsRemaining) := gmtimeMonth (getMonthSecs year) 0 secsRemaining
  { tmYear := year - 1900
    tmMon := mon
    tmMday := 1 + secsRemaining / 86400
    tmHour := secsRemaining % 86400 / 3600
    tmMin := secsRemaining % 86400 % 3600 / 60
    tmSec := secsRemaining % 86400 % 3600 % 60 }

/-- The four bytes of a date in seconds, most significant byte first. -/
def atcacertDateDecPosixUint32 : List UInt8 → Except AtcacertError TmUtc
  | [first, second, third, fourth] =>
      .ok (atcacertGmtime32 ((first.toUInt32 <<< 24) ||| (second.toUInt32 <<< 16) |||
        (third.toUInt32 <<< 8) ||| fourth.toUInt32))
  | _ => .error .decodingError

/-- `atcacert_date_dec`. -/
def atcacertDateDec (format : DateFormat) (formattedDate : List UInt8) :
    Except AtcacertError TmUtc :=
  if formattedDate.length < format.size then .error .decodingError
  else
    match format with
    | .iso8601Sep => atcacertDateDecIso8601Sep formattedDate
    | .rfc5280Utc => atcacertDateDecRfc5280Utc formattedDate
    | .posixUint32Be => atcacertDateDecPosixUint32 (formattedDate.take 4)
    | .posixUint32Le => atcacertDateDecPosixUint32 (formattedDate.take 4).reverse
    | .rfc5280Gen => atcacertDateDecRfc5280Gen formattedDate

/-! ### The fields of a date in seconds -/

theorem gmtimeYear_secs (year secsRemaining : Nat) :
    (gmtimeYear year secsRemaining).2 < getYearSecs (gmtimeYear year secsRemaining).1 := by
  induction year, secsRemaining using gmtimeYear.induct with
  | case1 year secsRemaining within =>
      rw [gmtimeYear, if_pos within]
      exact within
  | case2 year secsRemaining beyond inductionHypothesis =>
      rw [gmtimeYear, if_neg beyond]
      exact inductionHypothesis

/-- The loop over the months ends in one of them when the seconds do not reach past the
last one, and leaves fewer seconds than the longest has. -/
theorem gmtimeMonth_within {months : List Nat} {longest : Nat}
    (bounded : ∀ secs ∈ months, secs ≤ longest) (mon : Nat) {secsRemaining : Nat}
    (within : secsRemaining < months.sum) :
    (gmtimeMonth months mon secsRemaining).1 < mon + months.length ∧
      (gmtimeMonth months mon secsRemaining).2 < longest := by
  induction months generalizing mon secsRemaining with
  | nil => exact absurd within (Nat.not_lt_zero _)
  | cons secs months inductionHypothesis =>
      have first := bounded secs List.mem_cons_self
      rw [List.sum_cons] at within
      unfold gmtimeMonth
      split
      · next inside => exact ⟨by simp, by omega⟩
      · have rest := inductionHypothesis
          (fun other inside => bounded other (List.mem_cons_of_mem secs inside)) (mon + 1)
          (by omega : secsRemaining - secs < months.sum)
        rw [List.length_cons]
        exact ⟨by omega, rest.2⟩

/-- The months of a year have its seconds. -/
theorem sum_getMonthSecs (year : Nat) : (getMonthSecs year).sum = getYearSecs year := by
  unfold getMonthSecs getYearSecs
  split <;> rfl

/-- A date in seconds has its fields where the header says they lie. -/
theorem atcacertGmtime32_fields (posixTime : UInt32) :
    let timestamp := atcacertGmtime32 posixTime
    (0 ≤ timestamp.tmMon ∧ timestamp.tmMon ≤ 11) ∧
      (1 ≤ timestamp.tmMday ∧ timestamp.tmMday ≤ 31) ∧
      (0 ≤ timestamp.tmHour ∧ timestamp.tmHour ≤ 23) ∧
      (0 ≤ timestamp.tmMin ∧ timestamp.tmMin ≤ 59) ∧
      (0 ≤ timestamp.tmSec ∧ timestamp.tmSec ≤ 59) := by
  have inYear := gmtimeYear_secs 1970 posixTime.toNat
  rw [← sum_getMonthSecs] at inYear
  have longest : ∀ secs ∈ getMonthSecs (gmtimeYear 1970 posixTime.toNat).1, secs ≤ 2678400 := by
    unfold getMonthSecs
    split <;> decide
  have inMonth := gmtimeMonth_within longest 0 inYear
  have twelve : (getMonthSecs (gmtimeYear 1970 posixTime.toNat).1).length = 12 := rfl
  rw [twelve] at inMonth
  unfold atcacertGmtime32
  dsimp only
  omega

/-! ## The compressed certificate -/

/-- `atcacert_date_enc_compcert`: five bits each for the year, the day, the hour and the
years to expiry, four for the month. -/
def atcacertDateEncCompcert (issueDate : TmUtc) (expireYears : UInt8) :
    Except AtcacertError (List UInt8) :=
  if issueDate.tmYear + 1900 < 2000 ∨ issueDate.tmYear + 1900 > 2031 then .error .invalidDate
  else if issueDate.tmMon < 0 ∨ issueDate.tmMon > 11 then .error .invalidDate
  else if issueDate.tmMday < 1 ∨ issueDate.tmMday > 31 then .error .invalidDate
  else if issueDate.tmHour < 0 ∨ issueDate.tmHour > 23 then .error .invalidDate
  else if expireYears > 31 then .error .invalidDate
  else
    let year := UInt8.ofInt (issueDate.tmYear + 1900 - 2000)
    let month := UInt8.ofInt (issueDate.tmMon + 1)
    let day := UInt8.ofInt issueDate.tmMday
    let hour := UInt8.ofInt issueDate.tmHour
    let date0 : UInt8 := 0
    let date0 := (date0 &&& 0x07) ||| ((year &&& 0x1F) <<< (3 : UInt8))
    let date0 := (date0 &&& 0xF8) ||| ((month &&& 0x0F) >>> (1 : UInt8))
    let date1 : UInt8 := 0
    let date1 := (date1 &&& 0x7F) ||| ((month &&& 0x0F) <<< (7 : UInt8))
    let date1 := (date1 &&& 0x83) ||| ((day &&& 0x1F) <<< (2 : UInt8))
    let date1 := (date1 &&& 0xFC) ||| ((hour &&& 0x1F) >>> (3 : UInt8))
    let date2 : UInt8 := 0
    let date2 := (date2 &&& 0x1F) ||| ((hour &&& 0x1F) <<< (5 : UInt8))
    let date2 := (date2 &&& 0xE0) ||| (expireYears &&& 0x1F)
    .ok [date0, date1, date2]

end MicrochipDay.Provisioning
