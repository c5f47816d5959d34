import DeviceAndroVM.Gps.NmeaReader

/-!
# The difference between local time and UTC

`nmea_reader_update_utc_diff` subtracts two broken-down times of the same instant.  It counts every
year as 365 days.

* `YearTime`, `brokenDown` — the fields of `struct tm` that it reads.
* `linear` — the seconds that it makes of them, in 32 bits.
* `nmea_reader_update_utc_diff` — the function; `d` is how far the local time is ahead.
* `utc_diff_iff` — the instants and zones for which the difference is right.
-/

namespace DeviceAndroVM
namespace Gps

open Library

abbrev CInt := BitVec 32

/-- The fields of `struct tm` that are read. -/
structure YearTime where
  tm_sec : Int
  tm_min : Int
  tm_hour : Int
  tm_yday : Int
  tm_year : Int
  deriving DecidableEq

/-- The broken-down time of a number of seconds since the beginning of 1970. -/
def brokenDown (t : Int) : YearTime :=
  let inYear := Calendar.yearDay (t / 86400)
  { tm_sec := t % 60
    tm_min := t / 60 % 60
    tm_hour := t / 3600 % 24
    tm_yday := inYear.2
    tm_year := inYear.1 - 1900 }

/-- `gmtime_r`. -/
def gmtime_r (now : Int) : YearTime := brokenDown now

/-- `localtime_r` in a zone that is `d` seconds ahead of UTC. -/
def localtime_r (d now : Int) : YearTime := brokenDown (now + d)

/-- A field of `struct tm` is an `int`. -/
def int (value : Int) : CInt := BitVec.ofInt 32 value

/-- The seconds that are made of a broken-down time. -/
def linear (tm : YearTime) : CInt :=
  int tm.tm_sec +
    60 * (int tm.tm_min + 60 * (int tm.tm_hour + 24 * (int tm.tm_yday + 365 * int tm.tm_year)))

/-- `nmea_reader_update_utc_diff`, where `time(NULL)` is `now`. -/
def nmea_reader_update_utc_diff {F : Type} (d now : Int) (r : NmeaReader F) : NmeaReader F :=
  let time_local := linear (localtime_r d now)
  let time_utc := linear (gmtime_r now)
  { r with utc_diff := (time_utc - time_local).toInt }

/-- The year of an instant. -/
def yearOf (t : Int) : Int := (Calendar.yearDay (t / 86400)).1

/-- The dates on the two sides are those of two years, and the first one is a leap year. -/
def LeapYearEnds (d now : Int) : Prop :=
  yearOf now ≠ yearOf (now + d) ∧ Calendar.isLeap (min (yearOf now) (yearOf (now + d))) = true

instance (d now : Int) : Decidable (LeapYearEnds d now) := by
  unfold LeapYearEnds
  infer_instance

/-! ## The seconds of a broken-down time -/

/-- The days that the years from 1900 on have more than 365 each, up to a year. -/
def leapDays (year : Int) : Int := Calendar.daysBeforeYear year - 365 * (year - 1900)

theorem leapDays_succ (year : Int) :
    leapDays (year + 1) = leapDays year + if Calendar.isLeap year then 1 else 0 := by
  unfold leapDays
  rw [Calendar.daysBeforeYear_succ, Calendar.daysInYear]
  split <;> omega

theorem int_sub (a b : Int) : int a - int b = int (a - b) := by
  unfold int
  rw [BitVec.sub_eq_add_neg, ← BitVec.ofInt_neg, ← BitVec.ofInt_add, Int.sub_eq_add_neg]

/-- The seconds of the instant, without the leap days. -/
theorem linear_brokenDown (t : Int) :
    linear (brokenDown t) = int (t - 86400 * leapDays (yearOf t)) := by
  have hlinear : ∀ tm : YearTime, linear tm = int (tm.tm_sec +
      60 * (tm.tm_min + 60 * (tm.tm_hour + 24 * (tm.tm_yday + 365 * tm.tm_year)))) := by
    intro tm
    unfold linear int
    simp only [BitVec.ofInt_add, BitVec.ofInt_mul]
    rfl
  obtain ⟨hsum, -, -⟩ := Calendar.yearDay_spec (t / 86400)
  rw [hlinear]
  congr 1
  unfold brokenDown leapDays yearOf
  dsimp only
  omega

theorem yearDay_succ (day : Int) :
    (Calendar.yearDay (day + 1)).1 = (Calendar.yearDay day).1 ∨
      (Calendar.yearDay (day + 1)).1 = (Calendar.yearDay day).1 + 1 := by
  obtain ⟨hsum, hfrom, hto⟩ := Calendar.yearDay_spec day
  by_cases hlast : (Calendar.yearDay day).2 + 1 < Calendar.daysInYear (Calendar.yearDay day).1
  · have hsum' : Calendar.daysBeforeYear (Calendar.yearDay day).1 + ((Calendar.yearDay day).2 + 1) =
        day + 1 := by
      omega
    rw [Calendar.yearDay_unique hsum' (by omega) hlast]
    exact .inl rfl
  · have hstart := Calendar.daysBeforeYear_succ (Calendar.yearDay day).1
    have hlength := Calendar.daysInYear_cases ((Calendar.yearDay day).1 + 1)
    have hsum' : Calendar.daysBeforeYear ((Calendar.yearDay day).1 + 1) + 0 = day + 1 := by
      omega
    rw [Calendar.yearDay_unique hsum' (Int.le_refl 0) (by omega)]
    exact .inr rfl

/-- The instants are less than a day apart, and so their years are the same or next to each
other. -/
theorem yearOf_cases {d : Int} (h : |d| < 86400) (now : Int) :
    yearOf (now + d) = yearOf now ∨ yearOf (now + d) = yearOf now + 1 ∨
      yearOf now = yearOf (now + d) + 1 := by
  obtain ⟨hlow, hhigh⟩ := abs_lt.mp h
  have hday : (now + d) / 86400 = now / 86400 ∨ (now + d) / 86400 = now / 86400 + 1 ∨
      now / 86400 = (now + d) / 86400 + 1 := by omega
  unfold yearOf
  rcases hday with heq | hnext | hprev
  · rw [heq]
    exact .inl rfl
  · rw [hnext]
    rcases yearDay_succ (now / 86400) with hsame | hsucc
    · exact .inl hsame
    · exact .inr (.inl hsucc)
  · rw [hprev]
    rcases yearDay_succ ((now + d) / 86400) with hsame | hsucc
    · exact .inl hsame.symm
    · exact .inr (.inr hsucc)

/-! ## The difference -/

section Difference

variable {F : Type} {d : Int} (h : |d| < 86400) (now : Int) (r : NmeaReader F)
include h

/-- The leap days between the two sides. -/
theorem leapDays_sub :
    leapDays (yearOf (now + d)) - leapDays (yearOf now) = 0 ∧ ¬LeapYearEnds d now ∨
      |leapDays (yearOf (now + d)) - leapDays (yearOf now)| = 1 ∧ LeapYearEnds d now := by
  unfold LeapYearEnds
  rcases yearOf_cases h now with heq | hnext | hprev
  · rw [heq]
    exact .inl ⟨sub_self _, fun hends => hends.1 rfl⟩
  · rw [hnext, leapDays_succ, min_eq_left (by omega)]
    cases hleap : Calendar.isLeap (yearOf now) with
    | false => exact .inl ⟨by simp, fun hends => nomatch hends.2⟩
    | true => exact .inr ⟨by simp, by omega, rfl⟩
  · rw [hprev, leapDays_succ, min_eq_right (by omega)]
    cases hleap : Calendar.isLeap (yearOf (now + d)) with
    | false => exact .inl ⟨by simp, fun hends => nomatch hends.2⟩
    | true => exact .inr ⟨by simp, by omega, rfl⟩

/-- What is stored: the difference, and a day for a leap day between the two sides. -/
theorem utc_diff_eq :
    (nmea_reader_update_utc_diff d now r).utc_diff =
      -d + 86400 * (leapDays (yearOf (now + d)) - leapDays (yearOf now)) := by
  obtain ⟨hlow, hhigh⟩ := abs_lt.mp h
  have hbound : |leapDays (yearOf (now + d)) - leapDays (yearOf now)| ≤ 1 := by
    rcases leapDays_sub h now with ⟨hzero, -⟩ | ⟨hone, -⟩
    · rw [hzero]
      decide
    · exact hone.le
  obtain ⟨hfrom, hto⟩ := abs_le.mp hbound
  unfold nmea_reader_update_utc_diff gmtime_r localtime_r
  dsimp only
  rw [linear_brokenDown, linear_brokenDown, int_sub, int,
    BitVec.toInt_ofInt_eq_self (by decide) (by omega) (by omega)]
  omega

/-- The difference is right just when no leap year ends between the two sides. -/
theorem utc_diff_iff :
    (nmea_reader_update_utc_diff d now r).utc_diff = -d ↔ ¬LeapYearEnds d now := by
  rw [utc_diff_eq h]
  rcases leapDays_sub h now with ⟨hzero, hends⟩ | ⟨hone, hends⟩
  · rw [hzero]
    exact iff_of_true (by omega) hends
  · refine iff_of_false ?_ (not_not_intro hends)
    intro heq
    have hzero : leapDays (yearOf (now + d)) - leapDays (yearOf now) = 0 := by omega
    rw [hzero] at hone
    exact absurd hone (by decide)

end Difference

/-- An hour behind UTC, in the summer of 2000 and in the first hour of 2001 by UTC. -/
theorem utc_diff_summer :
    (nmea_reader_update_utc_diff (-3600) 962409600 (.init 0 : NmeaReader ℚ)).utc_diff = 3600 :=
  (utc_diff_iff (by decide) 962409600 _).mpr (by decide +kernel)

theorem not_utc_diff : ∃ d now : Int, |d| < 86400 ∧ 0 ≤ now ∧ now < 2145916800 ∧
    ∀ r : NmeaReader ℚ, (nmea_reader_update_utc_diff d now r).utc_diff = -82800 ∧
      (nmea_reader_update_utc_diff d now r).utc_diff ≠ -d := by
  refine ⟨-3600, 978307200, by decide, by decide, by decide, ?_⟩
  intro r
  have hstored : (nmea_reader_update_utc_diff (-3600) 978307200 r).utc_diff = -82800 := by
    unfold nmea_reader_update_utc_diff
    dsimp only
    decide +kernel
  refine ⟨hstored, ?_⟩
  rw [hstored]
  decide

end Gps
end DeviceAndroVM
