import MicrochipDay.Library.Calendar
import MicrochipDay.Library.Exception
import MicrochipDay.Provisioning.CertificateBuilder

/-!
Owns the dates of the certificates that `ca_create_root`, `ca_create_signer` and
`aws_register_signer` build. Each certificate is valid from now on for a period of its
script, and the scripts compute the end of it by replacing one field of a `datetime`.

Every exception is a `ValueError`, of Python's `datetime` or of the certificate library.
The earliest date that the library takes is a parameter.
-/

namespace MicrochipDay.Provisioning

open MicrochipDay.Library.Calendar
open MicrochipDay.Library.Exception

/-- A `datetime` whose day the calendar has. -/
structure UtcDateTime extends DateTime where
  dayExists : day ≤ daysInMonth year month
deriving DecidableEq, Repr

inductive DateError where
  /-- `year … is out of range` -/
  | yearOutOfRange
  /-- `day is out of range for month` -/
  | dayOutOfRange
  | beforeEarliest
  | endsBeforeStart
deriving DecidableEq, Repr

namespace UtcDateTime

/-- The microseconds since midnight. -/
def timeOfDay (date : UtcDateTime) : Nat :=
  ((date.hour * 60 + date.minute) * 60 + date.second) * 1000000 + date.microsecond

/-- The microseconds since the midnight before the first day of year 1. -/
def instant (date : UtcDateTime) : Nat :=
  ordinal date.year date.month date.day * 86400000000 + date.timeOfDay

/-- `datetime.replace` for the year and the day. -/
def replace (date : UtcDateTime) (year day : Nat) : Except DateError UtcDateTime :=
  if yearRange : 1 ≤ year ∧ year ≤ 9999 then
    if dayExists : 1 ≤ day ∧ day ≤ daysInMonth year date.month then
      .ok { date with
        year := year
        day := day
        yearRange := yearRange
        dayRange := ⟨dayExists.1, Nat.le_trans dayExists.2 (daysInMonth_le _ _)⟩
        dayExists := dayExists.2 }
    else .error .dayOutOfRange
  else .error .yearOutOfRange

def LeapDay (date : UtcDateTime) : Prop := date.month = 2 ∧ date.day = 29

instance (date : UtcDateTime) : Decidable date.LeapDay := by
  unfold LeapDay
  infer_instance

end UtcDateTime

/-! ## The scripts -/

section Scripts

variable (earliest : UtcDateTime)

/-- `builder.not_valid_before`. -/
def notValidBefore (time : UtcDateTime) : Except DateError UtcDateTime :=
  if time.instant < earliest.instant then .error .beforeEarliest else .ok time

/-- `builder.not_valid_after`, after `not_valid_before` with `start`. -/
def notValidAfter (start time : UtcDateTime) : Except DateError UtcDateTime :=
  if time.instant < earliest.instant then .error .beforeEarliest
  else if time.instant < start.instant then .error .endsBeforeStart
  else .ok time

/-- The first and the last date of a certificate that is built now. -/
def certificateDates (replacement : UtcDateTime → Except DateError UtcDateTime)
    (now : UtcDateTime) : Except DateError (UtcDateTime × UtcDateTime) := do
  let start ← notValidBefore earliest now
  let finish ← notValidAfter earliest start (← replacement start)
  .ok (start, finish)

def caCreateRoot (now : UtcDateTime) : Except DateError (UtcDateTime × UtcDateTime) :=
  certificateDates earliest (fun start => start.replace (start.year + 25) start.day) now

def caCreateSigner (now : UtcDateTime) : Except DateError (UtcDateTime × UtcDateTime) :=
  certificateDates earliest (fun start => start.replace (start.year + 10) start.day) now

def awsRegisterSigner (now : UtcDateTime) : Except DateError (UtcDateTime × UtcDateTime) :=
  certificateDates earliest (fun start => start.replace start.year (start.day + 1)) now

end Scripts

/-! ## Periods -/

/-- The same day and time some years later, or one of the two days next to it in a year
that does not have it. -/
structure LaterByYears (years : Nat) (start finish : UtcDateTime) : Prop where
  year : finish.year = start.year + years
  day : finish.month = start.month ∧ finish.day = start.day ∨
    start.LeapDay ∧ ¬leapYear finish.year ∧
      (finish.month = 2 ∧ finish.day = 28 ∨ finish.month = 3 ∧ finish.day = 1)
  time : finish.timeOfDay = start.timeOfDay

def LaterByDay (start finish : UtcDateTime) : Prop :=
  finish.instant = start.instant + 86400000000

/-- No exception is raised, and the certificate is valid from now on for the period. -/
def IssuedFor (Period : UtcDateTime → UtcDateTime → Prop)
    (dates : Except DateError (UtcDateTime × UtcDateTime)) (now : UtcDateTime) : Prop :=
  ∃ finish, dates = .ok (now, finish) ∧ now.instant < finish.instant ∧ Period now finish

/-! ## Replacing a field -/

section Replace

variable {earliest now : UtcDateTime}

theorem notValidBefore_ok_iff {time start : UtcDateTime} :
    notValidBefore earliest time = .ok start ↔
      earliest.instant ≤ time.instant ∧ time = start := by
  unfold notValidBefore
  split
  · rename_i tooEarly
    simp [Nat.not_le.mpr tooEarly]
  · rename_i notEarly
    simp [Nat.not_lt.mp notEarly]

theorem notValidAfter_ok_iff {start time finish : UtcDateTime} :
    notValidAfter earliest start time = .ok finish ↔
      earliest.instant ≤ time.instant ∧ start.instant ≤ time.instant ∧ time = finish := by
  unfold notValidAfter
  split
  · rename_i tooEarly
    simp [Nat.not_le.mpr tooEarly]
  · rename_i notEarly
    split
    · rename_i before
      simp [Nat.not_le.mpr before]
    · rename_i notBefore
      simp [Nat.not_lt.mp notEarly, Nat.not_lt.mp notBefore]

/-- A certificate that starts before it ends is issued when the library takes its start
and the replacement is a date. -/
theorem certificateDates_ok_iff {replacement : UtcDateTime → Except DateError UtcDateTime}
    {finish : UtcDateTime} (later : now.instant < finish.instant) :
    certificateDates earliest replacement now = .ok (now, finish) ↔
      earliest.instant ≤ now.instant ∧ replacement now = .ok finish := by
  unfold certificateDates
  rw [bind_eq_ok]
  constructor
  · rintro ⟨start, began, ended⟩
    obtain ⟨notEarly, rfl⟩ := notValidBefore_ok_iff.mp began
    obtain ⟨time, replaced, ended⟩ := bind_eq_ok.mp ended
    obtain ⟨other, taken, ended⟩ := bind_eq_ok.mp ended
    obtain ⟨-, -, rfl⟩ := notValidAfter_ok_iff.mp taken
    obtain ⟨-, rfl⟩ := Prod.mk.inj (Except.ok.inj ended)
    exact ⟨notEarly, replaced⟩
  · rintro ⟨notEarly, replaced⟩
    have taken : notValidAfter earliest now finish = .ok finish :=
      notValidAfter_ok_iff.mpr ⟨Nat.le_trans notEarly (Nat.le_of_lt later), Nat.le_of_lt later, rfl⟩
    refine ⟨now, notValidBefore_ok_iff.mpr ⟨notEarly, rfl⟩, ?_⟩
    exact bind_eq_ok.mpr ⟨finish, replaced, bind_eq_ok.mpr ⟨finish, taken, rfl⟩⟩

namespace UtcDateTime

/-- What a replacement of the two fields is, when it is a date. -/
theorem replace_ok {finish : UtcDateTime} {year day : Nat}
    (replaced : now.replace year day = .ok finish) :
    finish.year = year ∧ finish.month = now.month ∧ finish.day = day ∧
      finish.timeOfDay = now.timeOfDay := by
  unfold replace at replaced
  split at replaced
  · split at replaced
    · rw [← Except.ok.inj replaced]
      exact ⟨rfl, rfl, rfl, rfl⟩
    · contradiction
  · contradiction

theorem replace_exists_iff (year day : Nat) :
    (∃ finish, now.replace year day = .ok finish) ↔
      (1 ≤ year ∧ year ≤ 9999) ∧ 1 ≤ day ∧ day ≤ daysInMonth year now.month := by
  unfold replace
  split
  · rename_i yearRange
    split
    · rename_i dayExists
      exact ⟨fun _ => ⟨yearRange, dayExists⟩, fun _ => ⟨_, rfl⟩⟩
    · rename_i noDay
      constructor
      · rintro ⟨finish, impossible⟩
        contradiction
      · rintro ⟨_, dayExists⟩
        exact absurd dayExists noDay
  · rename_i noYear
    constructor
    · rintro ⟨finish, impossible⟩
      contradiction
    · rintro ⟨yearRange, _⟩
      exact absurd yearRange noYear

/-- The year of a leap day is a leap year, and the one that the period leads to is not. -/
theorem replace_year_exists_iff {years : Nat} (odd : years % 4 ≠ 0) :
    (∃ finish, now.replace (now.year + years) now.day = .ok finish) ↔
      ¬now.LeapDay ∧ now.year + years ≤ 9999 := by
  have positive := now.yearRange.1
  have some := now.dayRange.1
  have dayExists := now.dayExists
  rw [replace_exists_iff]
  constructor
  · rintro ⟨⟨-, inRange⟩, -, stillExists⟩
    refine ⟨?_, inRange⟩
    rintro ⟨february, last⟩
    rw [february, last] at dayExists stillExists
    have leap := (leapDay_exists_iff now.year).mp dayExists
    exact not_leapYear_add leap odd ((leapDay_exists_iff _).mp stillExists)
  · rintro ⟨notLeapDay, inRange⟩
    exact ⟨⟨by omega, inRange⟩, some, le_daysInMonth _ dayExists notLeapDay⟩

theorem replace_year_later {years : Nat} (positive : 0 < years) {finish : UtcDateTime}
    (replaced : now.replace (now.year + years) now.day = .ok finish) :
    now.instant < finish.instant ∧ LaterByYears years now finish := by
  obtain ⟨year, month, day, time⟩ := replace_ok replaced
  refine ⟨?_, year, Or.inl ⟨month, day⟩, time⟩
  have days := ordinal_lt_of_year_lt now.yearRange.1
    (Nat.lt_add_of_pos_right positive : now.year < now.year + years) now.month now.day
  unfold instant
  rw [year, month, day, time]
  omega

theorem replace_day_exists_iff :
    (∃ finish, now.replace now.year (now.day + 1) = .ok finish) ↔
      now.day < daysInMonth now.year now.month := by
  rw [replace_exists_iff]
  constructor
  · rintro ⟨-, -, next⟩
    exact next
  · intro next
    exact ⟨now.yearRange, Nat.succ_pos _, next⟩

theorem replace_day_later {finish : UtcDateTime}
    (replaced : now.replace now.year (now.day + 1) = .ok finish) :
    now.instant < finish.instant ∧ LaterByDay now finish := by
  obtain ⟨year, month, day, time⟩ := replace_ok replaced
  have later : LaterByDay now finish := by
    unfold LaterByDay instant ordinal
    rw [year, month, day, time]
    omega
  refine ⟨?_, later⟩
  unfold LaterByDay at later
  omega

end UtcDateTime

/-! ## When certificates are issued -/

/-- A period that every replacement keeps leaves the exceptions to be excluded. -/
theorem issuedFor_iff {Period : UtcDateTime → UtcDateTime → Prop}
    {replacement : UtcDateTime → Except DateError UtcDateTime}
    (keeps : ∀ finish, replacement now = .ok finish →
      now.instant < finish.instant ∧ Period now finish) :
    IssuedFor Period (certificateDates earliest replacement now) now ↔
      earliest.instant ≤ now.instant ∧ ∃ finish, replacement now = .ok finish := by
  constructor
  · rintro ⟨finish, issued, later, -⟩
    obtain ⟨notEarly, replaced⟩ := (certificateDates_ok_iff later).mp issued
    exact ⟨notEarly, finish, replaced⟩
  · rintro ⟨notEarly, finish, replaced⟩
    obtain ⟨later, period⟩ := keeps finish replaced
    exact ⟨finish, (certificateDates_ok_iff later).mpr ⟨notEarly, replaced⟩, later, period⟩

theorem issuedFor_years_iff {years : Nat} (odd : years % 4 ≠ 0) :
    IssuedFor (LaterByYears years)
        (certificateDates earliest (fun start => start.replace (start.year + years) start.day) now)
        now ↔
      earliest.instant ≤ now.instant ∧ ¬now.LeapDay ∧ now.year + years ≤ 9999 := by
  have positive : 0 < years := by omega
  rw [issuedFor_iff fun finish replaced => UtcDateTime.replace_year_later positive replaced,
    UtcDateTime.replace_year_exists_iff odd]

end Replace

/-- From the earliest date of the library on, the two certificates of an authority are
issued on every day but a leap day, as long as their last year has four digits, and the
certificate for the registration on every day but the last one of a month. -/
theorem certificates_issued_iff (earliest now : UtcDateTime) :
    (IssuedFor (LaterByYears 25) (caCreateRoot earliest now) now ↔
      earliest.instant ≤ now.instant ∧ ¬now.LeapDay ∧ now.year + 25 ≤ 9999) ∧
    (IssuedFor (LaterByYears 10) (caCreateSigner earliest now) now ↔
      earliest.instant ≤ now.instant ∧ ¬now.LeapDay ∧ now.year + 10 ≤ 9999) ∧
    (IssuedFor LaterByDay (awsRegisterSigner earliest now) now ↔
      earliest.instant ≤ now.instant ∧ now.day < daysInMonth now.year now.month) := by
  refine ⟨issuedFor_years_iff (by decide), issuedFor_years_iff (by decide), ?_⟩
  unfold awsRegisterSigner
  rw [issuedFor_iff fun finish replaced => UtcDateTime.replace_day_later replaced,
    UtcDateTime.replace_day_exists_iff]

def leapDayOf2024 : UtcDateTime where
  year := 2024
  month := 2
  day := 29
  hour := 9
  minute := 41
  second := 7
  microsecond := 125000
  yearRange := by decide
  monthRange := by decide
  dayRange := by decide
  hourRange := by decide
  minuteRange := by decide
  secondRange := by decide
  microsecondRange := by decide
  dayExists := by decide

/-- The first date that the certificate library takes, midnight of 1 January. -/
def firstOf1950 : UtcDateTime where
  toDateTime :=
    { leapDayOf2024.onTheHour with
      year := 1950
      month := 1
      day := 1
      hour := 0
      microsecond := 0
      yearRange := by decide
      monthRange := by decide
      dayRange := by decide
      hourRange := by decide
      microsecondRange := by decide }
  dayExists := by decide

/-- On 29 February, which is also the last day of its month, none of the three scripts
issues its certificate. -/
theorem certificates_notIssued :
    ¬IssuedFor (LaterByYears 25) (caCreateRoot firstOf1950 leapDayOf2024) leapDayOf2024 ∧
      ¬IssuedFor (LaterByYears 10) (caCreateSigner firstOf1950 leapDayOf2024) leapDayOf2024 ∧
      ¬IssuedFor LaterByDay (awsRegisterSigner firstOf1950 leapDayOf2024) leapDayOf2024 := by
  have root : caCreateRoot firstOf1950 leapDayOf2024 = .error .dayOutOfRange := by
    decide +kernel
  have signer : caCreateSigner firstOf1950 leapDayOf2024 = .error .dayOutOfRange := by
    decide +kernel
  have register : awsRegisterSigner firstOf1950 leapDayOf2024 = .error .dayOutOfRange := by
    decide +kernel
  rw [root, signer, register]
  refine ⟨?_, ?_, ?_⟩ <;>
  · rintro ⟨finish, issued, -⟩
    contradiction

end MicrochipDay.Provisioning
