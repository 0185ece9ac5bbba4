import Mathlib.Data.Nat.Basic
import Mathlib.Tactic.Common

/-!
Owns the Gregorian calendar: which years have a leap day, how long a month is, and the
number of a day counted from the first day of year 1.

Months are numbered from 1 on.
-/

namespace MicrochipDay.Library.Calendar

/-! ## Years and months -/

def leapYear (year : Nat) : Bool := year % 4 = 0 && (year % 100 ≠ 0 || year % 400 = 0)

def daysInMonth (year month : Nat) : Nat :=
  if month = 2 then (if leapYear year then 29 else 28)
  else if month = 4 ∨ month = 6 ∨ month = 9 ∨ month = 11 then 30
  else 31

theorem daysInMonth_le (year month : Nat) : daysInMonth year month ≤ 31 := by
  unfold daysInMonth
  split
  · split <;> decide
  · split <;> decide

/-- Only a leap day depends on the year. -/
theorem le_daysInMonth {year day : Nat} (other : Nat) {month : Nat}
    (exists' : day ≤ daysInMonth year month) (notLeapDay : ¬(month = 2 ∧ day = 29)) :
    day ≤ daysInMonth other month := by
  unfold daysInMonth at exists' ⊢
  by_cases february : month = 2
  · rw [if_pos february] at exists' ⊢
    have atMost : day ≤ 28 := by
      split at exists' <;> omega
    split <;> omega
  · rw [if_neg february] at exists' ⊢
    exact exists'

theorem leapDay_exists_iff (year : Nat) : 29 ≤ daysInMonth year 2 ↔ leapYear year := by
  unfold daysInMonth
  cases leapYear year <;> decide

/-- The years between two leap days are a multiple of four. -/
theorem not_leapYear_add {year years : Nat} (leap : leapYear year) (odd : years % 4 ≠ 0) :
    ¬leapYear (year + years) := by
  unfold leapYear at leap ⊢
  intro both
  simp only [Bool.and_eq_true, decide_eq_true_eq] at leap both
  omega

/-! ## Numbers of days -/

/-- The days before a year. -/
def daysBeforeYear (year : Nat) : Nat :=
  (year - 1) * 365 + (year - 1) / 4 - (year - 1) / 100 + (year - 1) / 400

/-- The days of a year before a month. -/
def daysBeforeMonth (year : Nat) : Nat → Nat
  | 0 => 0
  | 1 => 0
  | month + 2 => daysBeforeMonth year (month + 1) + daysInMonth year (month + 1)

def ordinal (year month day : Nat) : Nat := daysBeforeYear year + daysBeforeMonth year month + day

/-- Three of four centuries drop a leap day, of which each has more than one. -/
theorem leapDays_mono {fourYears later : Nat} (after : fourYears ≤ later) :
    fourYears - fourYears / 25 + fourYears / 100 ≤ later - later / 25 + later / 100 := by
  have centuries : fourYears / 25 ≤ later / 25 := Nat.div_le_div_right after
  have cycles : fourYears / 100 ≤ later / 100 := Nat.div_le_div_right after
  omega

theorem daysBeforeYear_lt {year later : Nat} (positive : 0 < year) (after : year < later) :
    daysBeforeYear year + 365 ≤ daysBeforeYear later := by
  have fourYears : (year - 1) / 4 ≤ (later - 1) / 4 := Nat.div_le_div_right (by omega)
  have leapDays := leapDays_mono fourYears
  rw [Nat.div_div_eq_div_mul, Nat.div_div_eq_div_mul, Nat.div_div_eq_div_mul,
    Nat.div_div_eq_div_mul] at leapDays
  unfold daysBeforeYear
  omega

theorem daysInMonth_congr (year other : Nat) {month : Nat} (notFebruary : month ≠ 2) :
    daysInMonth year month = daysInMonth other month := by
  unfold daysInMonth
  rw [if_neg notFebruary, if_neg notFebruary]

/-- Two years differ by a leap day, and not before March. -/
theorem daysBeforeMonth_le (year other month : Nat) :
    daysBeforeMonth year month ≤ daysBeforeMonth other month + if month ≤ 2 then 0 else 1 := by
  induction month using daysBeforeMonth.induct with
  | case1 => exact Nat.le_refl _
  | case2 => exact Nat.le_refl _
  | case3 month inductionHypothesis =>
      rw [daysBeforeMonth, daysBeforeMonth]
      by_cases february : month + 1 = 2
      · have shorter : daysInMonth year 2 ≤ daysInMonth other 2 + 1 := by
          unfold daysInMonth
          rw [if_pos rfl, if_pos rfl]
          split <;> split <;> decide
        rw [if_pos (by omega)] at inductionHypothesis
        rw [if_neg (by omega), february]
        rw [february] at inductionHypothesis
        omega
      · rw [daysInMonth_congr year other february]
        split at inductionHypothesis <;> split <;> omega

theorem ordinal_lt_of_year_lt {year later : Nat} (positive : 0 < year) (after : year < later)
    (month day : Nat) : ordinal year month day < ordinal later month day := by
  have years := daysBeforeYear_lt positive after
  have months := daysBeforeMonth_le year later month
  unfold ordinal
  split at months <;> omega

end MicrochipDay.Library.Calendar
