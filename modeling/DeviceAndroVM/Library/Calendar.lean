import Mathlib.Data.Nat.Basic
import Mathlib.Data.Int.Basic

/-!
# The UTC calendar

Broken-down time as C has it, and the two conversions between it and the seconds since the
beginning of 1970.

* `Tm` — `struct tm`, without the fields that the conversion to seconds ignores.
* `daysBeforeYear`, `daysBeforeMonth` — the Gregorian calendar.
* `timegm` — seconds of a broken-down time; fields out of range carry over.
* `gmtime` — the broken-down time of a number of seconds.
* `timegm_gmtime` — the round trip; `gmtime_spec` — the fields are in range.
* `yearDay` — the year of any day and the day in it, also before 1970; `yearDay_unique`.
-/

namespace DeviceAndroVM
namespace Library

/-- `struct tm`. -/
structure Tm where
  tm_sec : Int
  tm_min : Int
  tm_hour : Int
  tm_mday : Int
  tm_mon : Int
  tm_year : Int
  deriving DecidableEq

namespace Calendar

def isLeap (year : Int) : Bool := year % 4 == 0 && (year % 100 != 0 || year % 400 == 0)

def daysInYear (year : Int) : Int := if isLeap year then 366 else 365

/-- The days of the month; January is 0. -/
def daysInMonth (year : Int) (mon : Nat) : Int :=
  match mon with
  | 1 => if isLeap year then 29 else 28
  | 3 | 5 | 8 | 10 => 30
  | _ => 31

/-- The days from the beginning of 1970 to the beginning of a year. -/
def daysBeforeYear (year : Int) : Int :=
  365 * (year - 1) + (year - 1) / 4 - (year - 1) / 100 + (year - 1) / 400 - 719162

/-- The days from the beginning of the year to the beginning of a month. -/
def daysBeforeMonth (year : Int) : Nat → Int
  | 0 => 0
  | mon + 1 => daysBeforeMonth year mon + daysInMonth year mon

/-- The day of a date, counted from the beginning of 1970. -/
def dayNumber (year : Int) (mon : Nat) (mday : Int) : Int :=
  daysBeforeYear year + daysBeforeMonth year mon + (mday - 1)

/-- The UTC calendar conversion. -/
def timegm (tm : Tm) : Int :=
  86400 * dayNumber (tm.tm_year + 1900 + tm.tm_mon / 12) (tm.tm_mon % 12).toNat tm.tm_mday +
    3600 * tm.tm_hour + 60 * tm.tm_min + tm.tm_sec

/-- The year and the day in it, by going through the years. -/
def yearLoop : Nat → Int → Int → Int × Int
  | 0, year, day => (year, day)
  | turns + 1, year, day =>
      if day < daysInYear year then (year, day)
      else yearLoop turns (year + 1) (day - daysInYear year)

/-- The month and the day in it, by going through the months. -/
def monthLoop (year : Int) : Nat → Nat → Int → Nat × Int
  | 0, mon, day => (mon, day)
  | turns + 1, mon, day =>
      if day < daysInMonth year mon then (mon, day)
      else monthLoop year turns (mon + 1) (day - daysInMonth year mon)

/-- The date of a day: the year, the month from 0 on, and the day from 1 on. -/
def civil (day : Nat) : Int × Nat × Int :=
  let inYear := yearLoop (day / 365) 1970 day
  let inMonth := monthLoop inYear.1 11 0 inYear.2
  (inYear.1, inMonth.1, inMonth.2 + 1)

/-- `gmtime_r`. -/
def gmtime (t : Nat) : Tm :=
  let date := civil (t / 86400)
  { tm_sec := (t % 60 : Nat)
    tm_min := (t / 60 % 60 : Nat)
    tm_hour := (t / 3600 % 24 : Nat)
    tm_mday := date.2.2
    tm_mon := date.2.1
    tm_year := date.1 - 1900 }

theorem daysInYear_cases (year : Int) :
    (isLeap year = true ∧ daysInYear year = 366) ∨ (isLeap year = false ∧ daysInYear year = 365) := by
  unfold daysInYear
  cases isLeap year <;> simp

theorem daysBeforeYear_succ (year : Int) :
    daysBeforeYear (year + 1) = daysBeforeYear year + daysInYear year := by
  unfold daysBeforeYear daysInYear isLeap
  split
  · rename_i hleap
    simp only [Bool.and_eq_true, Bool.or_eq_true, beq_iff_eq, bne_iff_ne] at hleap
    omega
  · rename_i hleap
    simp only [Bool.and_eq_true, Bool.or_eq_true, beq_iff_eq, bne_iff_ne] at hleap
    omega

theorem daysInMonth_bounds (year : Int) (mon : Nat) :
    28 ≤ daysInMonth year mon ∧ daysInMonth year mon ≤ 31 := by
  unfold daysInMonth
  split <;> (try split) <;> omega

/-- Twelve months make a year. -/
theorem daysBeforeMonth_twelve (year : Int) : daysBeforeMonth year 12 = daysInYear year := by
  simp only [daysBeforeMonth, daysInMonth, daysInYear]
  split <;> rfl

/-- Going through the years keeps the day, and stops in the year of the day when there are
enough turns. -/
theorem yearLoop_spec (turns : Nat) (year : Int) {day : Int} (hday : 0 ≤ day) (hturns : day < 365 * turns + 365) :
    daysBeforeYear (yearLoop turns year day).1 + (yearLoop turns year day).2 =
        daysBeforeYear year + day ∧
      year ≤ (yearLoop turns year day).1 ∧ 0 ≤ (yearLoop turns year day).2 ∧
      (yearLoop turns year day).2 < daysInYear (yearLoop turns year day).1 := by
  induction turns generalizing year day with
  | zero =>
      have hyear := daysInYear_cases year
      refine ⟨rfl, Int.le_refl year, hday, ?_⟩
      change day < daysInYear year
      omega
  | succ turns ih =>
      have hyear := daysInYear_cases year
      unfold yearLoop
      split
      · rename_i hlt
        exact ⟨rfl, Int.le_refl year, hday, hlt⟩
      · rename_i hge
        obtain ⟨hsum, hle, hrange⟩ :=
          ih (year + 1) (show 0 ≤ day - daysInYear year by omega)
            (by push_cast at hturns; omega)
        have hsucc := daysBeforeYear_succ year
        exact ⟨by omega, by omega, hrange⟩

/-- Going through the months. -/
theorem monthLoop_spec (year : Int) (turns mon : Nat) {day : Int} (hday : 0 ≤ day)
    (hlast : day < daysBeforeMonth year (mon + turns + 1) - daysBeforeMonth year mon) :
    daysBeforeMonth year (monthLoop year turns mon day).1 + (monthLoop year turns mon day).2 =
        daysBeforeMonth year mon + day ∧
      (monthLoop year turns mon day).1 ≤ mon + turns ∧ 0 ≤ (monthLoop year turns mon day).2 ∧
      (monthLoop year turns mon day).2 < daysInMonth year (monthLoop year turns mon day).1 := by
  induction turns generalizing mon day with
  | zero =>
      have hsucc : daysBeforeMonth year (mon + 1) =
          daysBeforeMonth year mon + daysInMonth year mon := rfl
      refine ⟨rfl, Nat.le_refl mon, hday, ?_⟩
      change day < daysInMonth year mon
      rw [Nat.add_zero] at hlast
      omega
  | succ turns ih =>
      have hsucc : daysBeforeMonth year (mon + 1) =
          daysBeforeMonth year mon + daysInMonth year mon := rfl
      unfold monthLoop
      split
      · rename_i hlt
        exact ⟨rfl, by omega, hday, hlt⟩
      · rename_i hge
        have hplace : mon + 1 + turns + 1 = mon + (turns + 1) + 1 := by omega
        obtain ⟨hsum, hle, hrange⟩ :=
          ih (mon + 1) (show 0 ≤ day - daysInMonth year mon by omega)
            (by rw [hplace]; omega)
        exact ⟨by omega, by omega, hrange⟩

/-- The date of a day is that day, in a month of the year. -/
theorem civil_spec (day : Nat) :
    dayNumber (civil day).1 (civil day).2.1 (civil day).2.2 = day ∧
      1970 ≤ (civil day).1 ∧ (civil day).2.1 < 12 ∧
      1 ≤ (civil day).2.2 ∧ (civil day).2.2 ≤ daysInMonth (civil day).1 (civil day).2.1 := by
  obtain ⟨hyears, hyear, hfrom, hto⟩ :=
    yearLoop_spec (day / 365) 1970 (show 0 ≤ (day : Int) by omega) (by omega)
  obtain ⟨hmonths, hmon, hfirst, hlast⟩ :=
    monthLoop_spec (yearLoop (day / 365) 1970 day).1 11 0 hfrom
      (by
        change _ < daysBeforeMonth _ 12 - 0
        rw [daysBeforeMonth_twelve]
        omega)
  have hstart : daysBeforeYear 1970 = 0 := by decide
  have hzero : daysBeforeMonth (yearLoop (day / 365) 1970 day).1 0 = 0 := rfl
  refine ⟨?_, hyear, ?_, ?_, ?_⟩
  · unfold dayNumber
    change daysBeforeYear (yearLoop (day / 365) 1970 day).1 +
      daysBeforeMonth (yearLoop (day / 365) 1970 day).1
        (monthLoop (yearLoop (day / 365) 1970 day).1 11 0 (yearLoop (day / 365) 1970 day).2).1 +
      ((monthLoop (yearLoop (day / 365) 1970 day).1 11 0 (yearLoop (day / 365) 1970 day).2).2 +
        1 - 1) = day
    omega
  · change (monthLoop _ 11 0 _).1 < 12
    omega
  · change 1 ≤ (monthLoop _ 11 0 _).2 + 1
    omega
  · exact hlast

/-- The fields of a broken-down time are in range. -/
theorem gmtime_spec (t : Nat) :
    (gmtime t).tm_sec = (t % 60 : Nat) ∧ (gmtime t).tm_min = (t / 60 % 60 : Nat) ∧
      (gmtime t).tm_hour = (t / 3600 % 24 : Nat) ∧ 70 ≤ (gmtime t).tm_year ∧
      0 ≤ (gmtime t).tm_mon ∧ (gmtime t).tm_mon < 12 ∧
      1 ≤ (gmtime t).tm_mday ∧ (gmtime t).tm_mday ≤ 31 := by
  obtain ⟨-, hyear, hmon, hfirst, hlast⟩ := civil_spec (t / 86400)
  have hmonth := daysInMonth_bounds (civil (t / 86400)).1 (civil (t / 86400)).2.1
  refine ⟨rfl, rfl, rfl, ?_, ?_, ?_, ?_, ?_⟩
  · change 70 ≤ (civil (t / 86400)).1 - 1900
    omega
  · change (0 : Int) ≤ ((civil (t / 86400)).2.1 : Int)
    omega
  · change ((civil (t / 86400)).2.1 : Int) < 12
    omega
  · exact hfirst
  · change (civil (t / 86400)).2.2 ≤ 31
    omega

/-- The seconds of the broken-down time of a number of seconds. -/
theorem timegm_gmtime (t : Nat) : timegm (gmtime t) = t := by
  obtain ⟨hday, -, hmon, -, -⟩ := civil_spec (t / 86400)
  have hquot : ((civil (t / 86400)).2.1 : Int) / 12 = 0 := by omega
  have hrem : (((civil (t / 86400)).2.1 : Int) % 12).toNat = (civil (t / 86400)).2.1 := by omega
  have hyear : (civil (t / 86400)).1 - 1900 + 1900 + 0 = (civil (t / 86400)).1 := by omega
  unfold timegm
  change 86400 * dayNumber ((civil (t / 86400)).1 - 1900 + 1900 +
      ((civil (t / 86400)).2.1 : Int) / 12) (((civil (t / 86400)).2.1 : Int) % 12).toNat
      (civil (t / 86400)).2.2 + 3600 * ((t / 3600 % 24 : Nat) : Int) +
      60 * ((t / 60 % 60 : Nat) : Int) + ((t % 60 : Nat) : Int) = t
  rw [hquot, hrem, hyear, hday]
  omega

/-! ## Days before 1970

The calendar repeats after 400 years, so the loop over the years serves for all days. -/

/-- The days of 400 years. -/
def daysInCycle : Int := 146097

/-- The year of a day, and the day in it. -/
def yearDay (day : Int) : Int × Int :=
  let inYear := yearLoop ((day % daysInCycle).toNat / 365) 1970 (day % daysInCycle)
  (inYear.1 + 400 * (day / daysInCycle), inYear.2)

theorem isLeap_add_cycles (year cycles : Int) : isLeap (year + 400 * cycles) = isLeap year := by
  have h4 : (year + 400 * cycles) % 4 = year % 4 := by omega
  have h100 : (year + 400 * cycles) % 100 = year % 100 := by omega
  have h400 : (year + 400 * cycles) % 400 = year % 400 := by omega
  unfold isLeap
  rw [h4, h100, h400]

theorem daysBeforeYear_add_cycles (year cycles : Int) :
    daysBeforeYear (year + 400 * cycles) = daysBeforeYear year + daysInCycle * cycles := by
  unfold daysBeforeYear daysInCycle
  omega

/-- A day is the day in its year, counted from the beginning of the year. -/
theorem yearDay_spec (day : Int) :
    daysBeforeYear (yearDay day).1 + (yearDay day).2 = day ∧ 0 ≤ (yearDay day).2 ∧
      (yearDay day).2 < daysInYear (yearDay day).1 := by
  have hrest : 0 ≤ day % daysInCycle := Int.emod_nonneg day (by decide)
  have hday : daysInCycle * (day / daysInCycle) + day % daysInCycle = day :=
    Int.mul_ediv_add_emod day daysInCycle
  obtain ⟨hsum, -, hfrom, hto⟩ :=
    yearLoop_spec ((day % daysInCycle).toNat / 365) 1970 hrest (by omega)
  have hstart : daysBeforeYear 1970 = 0 := by decide
  unfold yearDay
  refine ⟨?_, hfrom, ?_⟩
  · dsimp only
    rw [daysBeforeYear_add_cycles]
    omega
  · dsimp only
    rw [daysInYear, isLeap_add_cycles]
    exact hto

theorem daysBeforeYear_le {year later : Int} (h : year ≤ later) :
    daysBeforeYear year ≤ daysBeforeYear later := by
  unfold daysBeforeYear
  omega

/-- No other year has the day. -/
theorem yearDay_unique {day year inYear : Int} (hsum : daysBeforeYear year + inYear = day)
    (hfrom : 0 ≤ inYear) (hto : inYear < daysInYear year) : yearDay day = (year, inYear) := by
  obtain ⟨hsum', hfrom', hto'⟩ := yearDay_spec day
  have hnext := daysBeforeYear_succ year
  have hnext' := daysBeforeYear_succ (yearDay day).1
  have hyear : (yearDay day).1 = year := by
    rcases Int.lt_trichotomy (yearDay day).1 year with hlt | heq | hgt
    · have hle := daysBeforeYear_le (show (yearDay day).1 + 1 ≤ year by omega)
      omega
    · exact heq
    · have hle := daysBeforeYear_le (show year + 1 ≤ (yearDay day).1 by omega)
      omega
  rw [hyear] at hsum'
  exact Prod.ext hyear (by omega)

/-- `gmtime` has the same years. -/
theorem gmtime_year (t : Nat) : (gmtime t).tm_year = (yearDay (t / 86400 : Nat)).1 - 1900 := by
  obtain ⟨hsum, -, hfrom, hto⟩ := yearLoop_spec (t / 86400 / 365) 1970
    (show 0 ≤ ((t / 86400 : Nat) : Int) by omega) (by omega)
  have hstart : daysBeforeYear 1970 = 0 := by decide
  rw [hstart, Int.zero_add] at hsum
  rw [yearDay_unique hsum hfrom hto]
  rfl

end Calendar
end Library
end DeviceAndroVM
