import DeviceAndroVM.Gps.NmeaReader

/-!
# Malformed times and dates

`nmea_reader_update_time` and `nmea_reader_update_date` return -1 for a field that they refuse.
They should refuse every field that has too few bytes, or another byte where a digit belongs, and
then leave the reader as it is.

* `updateTimeResult`, `updateDateResult` — what the two functions return.
* `MalformedTime`, `MalformedDate` — the fields that should be refused.
* `RefusedTime`, `RefusedDate` — the fields that are.
* `checksFields_iff` — when malformed fields leave no trace.
-/

namespace DeviceAndroVM
namespace Gps

open Library

/-- What `nmea_reader_update_time` returns. -/
def updateTimeResult (tok : Token) : Int := if !tok.init || tok.length < 6 then -1 else 0

/-- What `nmea_reader_update_date` returns. -/
def updateDateResult (date time : Token) : Int :=
  if !date.init || date.length ≠ 6 then -1
  else
    let day := str2int (date.bytes 0 2)
    let mon := str2int (date.bytes 2 2)
    let year := str2int (date.bytes 4 2) + 2000
    if day < 0 ∨ mon < 0 ∨ year < 0 then -1 else updateTimeResult time

/-! ## Malformed fields -/

/-- All bytes are digits. -/
def Digits (s : CString) : Prop := s.all CString.isdigit = true

instance (s : CString) : Decidable (Digits s) := by
  unfold Digits
  infer_instance

/-- Six digits are expected, for hour, minute and second or for day, month and year. -/
def MalformedSix (tok : Token) : Prop :=
  tok.length < 6 ∨ ¬Digits (tok.bytes 0 2) ∨ ¬Digits (tok.bytes 2 2) ∨ ¬Digits (tok.bytes 4 2)

/-- `hhmmss`, and perhaps a fraction. -/
abbrev MalformedTime (tok : Token) : Prop := MalformedSix tok

/-- `ddmmyy`. -/
abbrev MalformedDate (tok : Token) : Prop := MalformedSix tok

instance (tok : Token) : Decidable (MalformedSix tok) := by
  unfold MalformedSix
  infer_instance

/-- The time is refused: no byte of it is looked at. -/
def RefusedTime (tok : Token) : Prop := tok.init = false ∨ tok.length < 6

/-- The date is refused: a byte of the year does not matter. -/
def RefusedDate (tok : Token) : Prop :=
  tok.init = false ∨ tok.length ≠ 6 ∨ ¬Digits (tok.bytes 0 2) ∨ ¬Digits (tok.bytes 2 2)

instance (tok : Token) : Decidable (RefusedTime tok) := by
  unfold RefusedTime
  infer_instance

instance (tok : Token) : Decidable (RefusedDate tok) := by
  unfold RefusedDate
  infer_instance

variable {F : Type} [CDouble F]

/-- The date that the reader has stored is the one in the token. -/
def StoresDate (r : NmeaReader F) (date : Token) : Prop :=
  r.utc_year = str2int (date.bytes 4 2) + 2000 ∧ r.utc_mon = str2int (date.bytes 2 2) ∧
    r.utc_day = str2int (date.bytes 0 2)

/-- An error is returned, and the timestamp and the date of the reader are as before. -/
structure Reported (result : Int) (r r' : NmeaReader F) : Prop where
  error : result = -1
  timestamp : r'.fix.timestamp = r.fix.timestamp
  year : r'.utc_year = r.utc_year
  mon : r'.utc_mon = r.utc_mon
  day : r'.utc_day = r.utc_day

/-- Both updates report their malformed fields and leave the reader as it is. -/
structure ChecksFields (mktime : Tm → Int) (now : Nat) (r : NmeaReader F) (date time : Token) :
    Prop where
  checksTime : MalformedTime time →
    Reported (updateTimeResult time) r (nmea_reader_update_time mktime now r time)
  checksDate : MalformedDate date ∨ MalformedTime time →
    Reported (updateDateResult date time) r (nmea_reader_update_date mktime now r date time)

/-! ## Numbers of two digits -/

theorem length_bytes_le (tok : Token) (first count : Nat) :
    (tok.bytes first count).length ≤ count := by
  unfold Token.bytes
  rw [List.length_take]
  exact Nat.min_le_left _ _

theorem str2int_nonneg {s : CString} (hs : s.length ≤ 2) (hdigits : Digits s) : 0 ≤ str2int s := by
  have hlt := CString.decimalValue_lt (List.all_eq_true.mp hdigits)
  have hpow : 10 ^ s.length ≤ 10 ^ 2 := Nat.pow_le_pow_right (by decide) hs
  unfold str2int
  unfold Digits at hdigits
  rw [if_pos hdigits, Int.bmod_eq_of_le (by omega) (by omega)]
  omega

theorem str2int_of_not_digits {s : CString} (hdigits : ¬Digits s) : str2int s = -1 := if_neg hdigits

/-- A number of two digits is no negative one, and anything else is -1. -/
theorem str2int_neg_iff {s : CString} (hs : s.length ≤ 2) : str2int s < 0 ↔ ¬Digits s := by
  by_cases hdigits : Digits s
  · exact iff_of_false (not_lt.mpr (str2int_nonneg hs hdigits)) (not_not.mpr hdigits)
  · rw [str2int_of_not_digits hdigits]
    exact iff_of_true (by decide) hdigits

theorem neg_one_le_str2int {s : CString} (hs : s.length ≤ 2) : -1 ≤ str2int s := by
  by_cases hdigits : Digits s
  · exact le_trans (by decide) (str2int_nonneg hs hdigits)
  · rw [str2int_of_not_digits hdigits]

/-! ## What is refused -/

theorem refusedTime_iff (tok : Token) :
    RefusedTime tok ↔ (!tok.init || tok.length < 6) = true := by
  unfold RefusedTime
  cases tok.init <;> simp

theorem updateTimeResult_eq (tok : Token) :
    updateTimeResult tok = if RefusedTime tok then -1 else 0 := by
  unfold updateTimeResult
  exact if_congr (refusedTime_iff tok).symm rfl rfl

theorem update_time_of_refused (mktime : Tm → Int) (now : Nat) (r : NmeaReader F) {tok : Token}
    (h : RefusedTime tok) : nmea_reader_update_time mktime now r tok = r := by
  rw [nmea_reader_update_time, if_pos ((refusedTime_iff tok).mp h)]

/-- The check of `nmea_reader_update_date`, in one condition; the year cannot be negative. -/
theorem refusedDate_iff (date : Token) :
    RefusedDate date ↔ (!date.init || date.length ≠ 6) = true ∨
      (str2int (date.bytes 0 2) < 0 ∨ str2int (date.bytes 2 2) < 0 ∨
        str2int (date.bytes 4 2) + 2000 < 0) := by
  have hyear : ¬str2int (date.bytes 4 2) + 2000 < 0 := by
    have hleast := neg_one_le_str2int (length_bytes_le date 4 2)
    omega
  rw [str2int_neg_iff (length_bytes_le date 0 2), str2int_neg_iff (length_bytes_le date 2 2)]
  unfold RefusedDate
  cases date.init <;> simp [hyear]

/-- A function that leaves in two places of the check. -/
theorem ite_refusedDate {α : Type} (date : Token) (refused accepted : α) :
    (if !date.init || date.length ≠ 6 then refused
    else if str2int (date.bytes 0 2) < 0 ∨ str2int (date.bytes 2 2) < 0 ∨
        str2int (date.bytes 4 2) + 2000 < 0 then refused
    else accepted) = if RefusedDate date then refused else accepted := by
  by_cases hrefused : RefusedDate date
  · rw [if_pos hrefused]
    rcases (refusedDate_iff date).mp hrefused with hcheck | hneg
    · rw [if_pos hcheck]
    · rw [if_pos hneg, ite_self]
  · rw [if_neg hrefused]
    rw [refusedDate_iff, not_or] at hrefused
    rw [if_neg hrefused.1, if_neg hrefused.2]

theorem updateDateResult_eq (date time : Token) :
    updateDateResult date time = if RefusedDate date then -1 else updateTimeResult time :=
  ite_refusedDate date (-1) (updateTimeResult time)

/-- A date that is not refused is stored before the time is looked at. -/
theorem update_date_eq_ite (mktime : Tm → Int) (now : Nat) (r : NmeaReader F) (date time : Token) :
    nmea_reader_update_date mktime now r date time =
      if RefusedDate date then r
      else
        nmea_reader_update_time mktime now
          { r with
            utc_year := str2int (date.bytes 4 2) + 2000
            utc_mon := str2int (date.bytes 2 2)
            utc_day := str2int (date.bytes 0 2) } time :=
  ite_refusedDate date r _

/-! ## What is reported -/

section Reports

variable (mktime : Tm → Int) (now : Nat) (r : NmeaReader F)

theorem reported_time_iff (tok : Token) :
    Reported (updateTimeResult tok) r (nmea_reader_update_time mktime now r tok) ↔
      RefusedTime tok := by
  rw [updateTimeResult_eq]
  constructor
  · intro h
    by_contra hrefused
    have herror := h.error
    rw [if_neg hrefused] at herror
    exact absurd herror (by decide)
  · intro h
    rw [update_time_of_refused mktime now r h, if_pos h]
    exact ⟨rfl, rfl, rfl, rfl, rfl⟩

theorem reported_date_iff (date time : Token) :
    Reported (updateDateResult date time) r (nmea_reader_update_date mktime now r date time) ↔
      RefusedDate date ∨ RefusedTime time ∧ StoresDate r date := by
  rw [updateDateResult_eq, update_date_eq_ite]
  by_cases hdate : RefusedDate date
  · rw [if_pos hdate, if_pos hdate]
    exact iff_of_true ⟨rfl, rfl, rfl, rfl, rfl⟩ (.inl hdate)
  · rw [if_neg hdate, if_neg hdate, updateTimeResult_eq]
    by_cases htime : RefusedTime time
    · rw [if_pos htime, update_time_of_refused mktime now _ htime]
      -- the error of the time comes after the date was stored
      constructor
      · intro h
        exact .inr ⟨htime, h.year.symm, h.mon.symm, h.day.symm⟩
      · intro h
        obtain ⟨-, hyear, hmon, hday⟩ := h.resolve_left hdate
        exact ⟨rfl, rfl, hyear.symm, hmon.symm, hday.symm⟩
    · rw [if_neg htime]
      constructor
      · intro h
        exact absurd h.error (by decide)
      · rintro (h | h)
        · exact absurd h hdate
        · exact absurd h.1 htime

/-- Malformed fields are reported and leave no trace just when they are refused, and when a date
that is not refused in front of a time that is has been stored before. -/
theorem checksFields_iff (date time : Token) :
    ChecksFields mktime now r date time ↔
      (MalformedTime time → RefusedTime time) ∧
        (MalformedDate date ∨ MalformedTime time →
          RefusedDate date ∨ RefusedTime time ∧ StoresDate r date) := by
  constructor
  · intro h
    exact ⟨fun hmalformed => (reported_time_iff mktime now r time).mp (h.checksTime hmalformed),
      fun hmalformed => (reported_date_iff mktime now r date time).mp (h.checksDate hmalformed)⟩
  · intro h
    exact ⟨fun hmalformed => (reported_time_iff mktime now r time).mpr (h.1 hmalformed),
      fun hmalformed => (reported_date_iff mktime now r date time).mpr (h.2 hmalformed)⟩

end Reports

/-! ## Malformed fields that are accepted -/

namespace Malformed

/-- A token of a sentence that holds a text. -/
def token (s : CString) : Token := ⟨some s, s.length, true⟩

/-- `xx3456`. -/
def time : CString := [0x78, 0x78, 0x33, 0x34, 0x35, 0x36]

/-- `0203yy`. -/
def date : CString := [0x30, 0x32, 0x30, 0x33, 0x79, 0x79]

end Malformed

/-- A time with letters for the hour is accepted; so is a date with letters for the year, which is
stored as that of 1999. -/
theorem not_checksFields : ∃ (mktime : Tm → Int) (now : Nat) (r : NmeaReader ℚ) (time date : Token),
    MalformedTime time ∧ updateTimeResult time = 0 ∧
      MalformedDate date ∧ updateDateResult date time = 0 ∧
      (nmea_reader_update_date mktime now r date time).utc_year = 1999 ∧
      ¬ChecksFields mktime now r date time := by
  refine ⟨fun _ => 0, 0, .init 0, Malformed.token Malformed.time, Malformed.token Malformed.date,
    by decide, by decide, by decide, by decide, ?_, ?_⟩
  · rw [update_date_eq_ite, if_neg (by decide)]
    rfl
  · intro h
    have herror := (h.checksTime (by decide)).error
    revert herror
    decide

end Gps
end DeviceAndroVM
