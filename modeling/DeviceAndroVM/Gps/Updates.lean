import DeviceAndroVM.Gps.NmeaReader

/-!
# What the updates make of the tokens

`nmea_reader_parse` runs all updates of the fix, each of which checks its own tokens.  Here
the updates are put together: every field of the reader after them, from the reader before
and from the tokens.

* `t_all_tokens.timed`, `hasLatLong`, `active`, `date?` — what the updates check.
* `t_all_tokens.flags` — the flags that the tokens set.
* `NmeaReader.applied` — the reader with the values of the tokens.
* `update_eq` — the updates compute it.
* `Session.parse_eq` — what becomes of a sentence: it is too short, or it fills its tokens and
  all updates run.
-/

namespace DeviceAndroVM
namespace Gps

open Library

variable {F : Type} [CDouble F]

namespace t_all_tokens

/-- There is a time. -/
def timed (t : t_all_tokens) : Bool := t.time.init && 6 ≤ t.time.length

/-- There are a latitude and a longitude. -/
def hasLatLong (t : t_all_tokens) : Bool :=
  (t.latitude.init && 6 ≤ t.latitude.length) && (t.longitude.init && 6 ≤ t.longitude.length)

def hasAltitude (t : t_all_tokens) : Bool := t.altitude.init && t.altitude.length ≠ 0

/-- The status of an RMC sentence whose position is valid. -/
def active (t : t_all_tokens) : Bool := t.fixStatus.init && t.fixStatus.first = some 0x41

def hasBearing (t : t_all_tokens) : Bool := t.active && (t.bearing.init && t.bearing.length ≠ 0)

def hasSpeed (t : t_all_tokens) : Bool := t.active && (t.speed.init && t.speed.length ≠ 0)

/-- The flags of the fix that the tokens set. -/
def flags (t : t_all_tokens) : UInt16 :=
  (if t.hasLatLong then GPS_LOCATION_HAS_LAT_LONG else 0) |||
    ((if t.hasAltitude then GPS_LOCATION_HAS_ALTITUDE else 0) |||
      ((if t.accuracy.init then GPS_LOCATION_HAS_ACCURACY else 0) |||
        ((if t.hasBearing then GPS_LOCATION_HAS_BEARING else 0) |||
          (if t.hasSpeed then GPS_LOCATION_HAS_SPEED else 0))))

/-- The date of the date token, where it is one. -/
def date? (t : t_all_tokens) : Option (Int × Int × Int) :=
  if t.date.init && t.date.length = 6 then
    let day := str2int (t.date.bytes 0 2)
    let mon := str2int (t.date.bytes 2 2)
    let year := str2int (t.date.bytes 4 2) + 2000
    if day < 0 ∨ mon < 0 ∨ year < 0 then none else some (year, mon, day)
  else none

/-- The date that the updates store. -/
def newDate (t : t_all_tokens) : Option (Int × Int × Int) := if t.active then t.date? else none

def accuracyValue (t : t_all_tokens) : Int :=
  let accuracy := str2int (t.accuracy.bytesFrom 0)
  if accuracy < 0 ∨ accuracy > 200 then 1 else accuracy

/-- A coordinate, with the sign of its hemisphere. -/
def coordinate (tok : Token) (hemi negative : UInt8) : F :=
  if hemi = negative then -convert_from_hhmm tok else convert_from_hhmm tok

end t_all_tokens

namespace NmeaReader

/-- The reader with a new date, with the current one where it needs one, or as it is. -/
def dated (now : Nat) (r : NmeaReader F) (t : t_all_tokens) : NmeaReader F :=
  match t.newDate with
  | some (year, mon, day) => { r with utc_year := year, utc_mon := mon, utc_day := day }
  | none => if t.timed then r.withDate now else r

/-- The timestamp of the time token on the date of the reader. -/
def timestampOf (mktime : Tm → Int) (r : NmeaReader F) (t : t_all_tokens) : Int :=
  (mktime (timeOf r t.time) + r.utc_diff) * 1000

/-- The reader with the values of the tokens. -/
def applied (mktime : Tm → Int) (now : Nat) (r : NmeaReader F) (t : t_all_tokens)
    (latitudeHemi longitudeHemi : UInt8) : NmeaReader F :=
  { r.dated now t with
    fix :=
      { flags := r.fix.flags ||| t.flags
        latitude :=
          if t.hasLatLong then t_all_tokens.coordinate t.latitude latitudeHemi 0x53
          else r.fix.latitude
        longitude :=
          if t.hasLatLong then t_all_tokens.coordinate t.longitude longitudeHemi 0x57
          else r.fix.longitude
        altitude := if t.hasAltitude then floatOf t.altitude else r.fix.altitude
        speed := if t.hasSpeed then floatOf t.speed else r.fix.speed
        bearing := if t.hasBearing then floatOf t.bearing else r.fix.bearing
        accuracy := if t.accuracy.init then t.accuracyValue else r.fix.accuracy
        timestamp := if t.timed then timestampOf mktime (r.dated now t) t else r.fix.timestamp } }

end NmeaReader

/-! ## One update after the other -/

variable {mktime : Tm → Int} {now : Nat} (r : NmeaReader F) (t : t_all_tokens)

theorem not_or_lt_iff (init : Bool) (length least : Nat) :
    (!init || length < least) = !(init && least ≤ length) := by
  have hlt : decide (length < least) = !decide (least ≤ length) := by
    by_cases h : least ≤ length
    · simp [h]
    · simp only [h, decide_false, Bool.not_false, decide_eq_true_eq]
      omega
  rw [hlt, Bool.not_and]

theorem update_time_eq :
    nmea_reader_update_time mktime now r t.time =
      if t.timed then
        { r.withDate now with
          fix := { r.fix with timestamp := (r.withDate now).timestampOf mktime t } }
      else r := by
  unfold nmea_reader_update_time t_all_tokens.timed
  rw [not_or_lt_iff]
  cases t.time.init && decide (6 ≤ t.time.length) with
  | false => rfl
  | true =>
      have hfix : (r.withDate now).fix = r.fix := by
        unfold NmeaReader.withDate
        split <;> rfl
      simp only [Bool.not_true, Bool.false_eq_true, ↓reduceIte, NmeaReader.timestampOf, hfix]

omit [CDouble F] in
/-- The current date changes the date only. -/
theorem withDate_eq (now : Nat) :
    ∃ year mon day, r.withDate now =
      { r with utc_year := year, utc_mon := mon, utc_day := day } := by
  unfold NmeaReader.withDate
  split
  · exact ⟨_, _, _, rfl⟩
  · exact ⟨r.utc_year, r.utc_mon, r.utc_day, rfl⟩

theorem update_latlong_eq (latitudeHemi longitudeHemi : UInt8) :
    nmea_reader_update_latlong r t.latitude latitudeHemi t.longitude longitudeHemi =
      { r with
        fix :=
          { r.fix with
            flags := r.fix.flags ||| if t.hasLatLong then GPS_LOCATION_HAS_LAT_LONG else 0
            latitude :=
              if t.hasLatLong then t_all_tokens.coordinate t.latitude latitudeHemi 0x53
              else r.fix.latitude
            longitude :=
              if t.hasLatLong then t_all_tokens.coordinate t.longitude longitudeHemi 0x57
              else r.fix.longitude } } := by
  unfold nmea_reader_update_latlong t_all_tokens.hasLatLong
  rw [not_or_lt_iff, not_or_lt_iff]
  cases t.latitude.init && decide (6 ≤ t.latitude.length) with
  | false => simp
  | true =>
      cases t.longitude.init && decide (6 ≤ t.longitude.length) with
      | false => simp
      | true => rfl

theorem update_altitude_eq :
    nmea_reader_update_altitude r t.altitude =
      { r with
        fix :=
          { r.fix with
            flags := r.fix.flags ||| if t.hasAltitude then GPS_LOCATION_HAS_ALTITUDE else 0
            altitude := if t.hasAltitude then floatOf t.altitude else r.fix.altitude } } := by
  unfold nmea_reader_update_altitude t_all_tokens.hasAltitude
  cases t.altitude.init with
  | false => simp
  | true =>
      by_cases hlength : t.altitude.length = 0
      · simp [hlength]
      · simp [hlength, NmeaReader.setFlags]

omit [CDouble F] in
theorem update_accuracy_eq :
    nmea_reader_update_accuracy r t.accuracy =
      { r with
        fix :=
          { r.fix with
            flags := r.fix.flags ||| if t.accuracy.init then GPS_LOCATION_HAS_ACCURACY else 0
            accuracy := if t.accuracy.init then t.accuracyValue else r.fix.accuracy } } := by
  unfold nmea_reader_update_accuracy
  cases t.accuracy.init with
  | false => simp
  | true => rfl

theorem update_bearing_eq (hactive : t.active = true) :
    nmea_reader_update_bearing r t.bearing =
      { r with
        fix :=
          { r.fix with
            flags := r.fix.flags ||| if t.hasBearing then GPS_LOCATION_HAS_BEARING else 0
            bearing := if t.hasBearing then floatOf t.bearing else r.fix.bearing } } := by
  unfold nmea_reader_update_bearing t_all_tokens.hasBearing
  rw [hactive, Bool.true_and]
  cases t.bearing.init with
  | false => simp
  | true =>
      by_cases hlength : t.bearing.length = 0
      · simp [hlength]
      · simp [hlength, NmeaReader.setFlags]

theorem update_speed_eq (hactive : t.active = true) :
    nmea_reader_update_speed r t.speed =
      { r with
        fix :=
          { r.fix with
            flags := r.fix.flags ||| if t.hasSpeed then GPS_LOCATION_HAS_SPEED else 0
            speed := if t.hasSpeed then floatOf t.speed else r.fix.speed } } := by
  unfold nmea_reader_update_speed t_all_tokens.hasSpeed
  rw [hactive, Bool.true_and]
  cases t.speed.init with
  | false => simp
  | true =>
      by_cases hlength : t.speed.length = 0
      · simp [hlength]
      · simp [hlength, NmeaReader.setFlags]

theorem update_date_eq :
    nmea_reader_update_date mktime now r t.date t.time =
      match t.date? with
      | none => r
      | some (year, mon, day) =>
          nmea_reader_update_time mktime now
            { r with utc_year := year, utc_mon := mon, utc_day := day } t.time := by
  unfold nmea_reader_update_date t_all_tokens.date?
  have hcheck : (!t.date.init || decide (t.date.length ≠ 6)) =
      !(t.date.init && decide (t.date.length = 6)) := by
    rw [Bool.not_and, decide_not]
  rw [hcheck]
  cases t.date.init && decide (t.date.length = 6) with
  | false => rfl
  | true =>
      simp only [Bool.not_true, Bool.false_eq_true, ↓reduceIte]
      split <;> rfl

/-- A year that is stored is no negative number. -/
theorem year_nonneg_of_date {t : t_all_tokens} {year mon day : Int}
    (h : t.date? = some (year, mon, day)) : 0 ≤ year := by
  unfold t_all_tokens.date? at h
  split at h
  · dsimp only at h
    split at h
    · cases h
    · rename_i hvalid
      have hyear := congrArg Prod.fst (Option.some.inj h)
      dsimp only at hyear
      omega
  · cases h

/-- The updates give the reader the values of the tokens. -/
theorem update_eq {latitudeHemi longitudeHemi : UInt8}
    (hlatitude : t.latitudeHemi.first = some latitudeHemi)
    (hlongitude : t.longitudeHemi.first = some longitudeHemi) :
    nmea_reader_update mktime now r t =
      some (r.applied mktime now t latitudeHemi longitudeHemi) := by
  unfold nmea_reader_update
  rw [hlatitude, hlongitude]
  dsimp only
  change (if t.active = true then _ else _) = _
  rw [update_time_eq, update_latlong_eq, update_altitude_eq, update_accuracy_eq]
  cases hactive : t.active with
  | false =>
      have hnew : t.newDate = none := by
        unfold t_all_tokens.newDate
        rw [hactive]
        rfl
      have hbearing : t.hasBearing = false := by
        unfold t_all_tokens.hasBearing
        rw [hactive, Bool.false_and]
      have hspeed : t.hasSpeed = false := by
        unfold t_all_tokens.hasSpeed
        rw [hactive, Bool.false_and]
      unfold NmeaReader.applied NmeaReader.dated t_all_tokens.flags
      rw [hnew, hbearing, hspeed]
      cases t.timed <;>
        simp only [Bool.false_eq_true, ↓reduceIte, UInt16.or_zero, UInt16.or_assoc]
  | true =>
      have hnew : t.newDate = t.date? := by
        unfold t_all_tokens.newDate
        rw [hactive]
        rfl
      simp only [↓reduceIte]
      rw [update_date_eq, update_bearing_eq _ t hactive, update_speed_eq _ t hactive]
      unfold NmeaReader.applied NmeaReader.dated t_all_tokens.flags
      rw [hnew]
      cases hdate : t.date? with
      | none =>
          cases t.timed <;> simp only [Bool.false_eq_true, ↓reduceIte, UInt16.or_assoc]
      | some date =>
          obtain ⟨year, mon, day⟩ := date
          -- the reader has a date now, so that the time is put on that one
          have hwith : ∀ r' : NmeaReader F, r'.utc_year = year → r'.withDate now = r' := by
            intro r' hyear
            have hnonneg := year_nonneg_of_date hdate
            unfold NmeaReader.withDate
            rw [if_neg (by omega)]
          obtain ⟨_, _, _, hfirst⟩ := withDate_eq r now
          dsimp only
          rw [update_time_eq, hwith _ rfl, hfirst]
          cases t.timed with
          | false => simp only [Bool.false_eq_true, ↓reduceIte, UInt16.or_assoc]
          | true =>
              simp only [↓reduceIte, UInt16.or_assoc]
              rfl

/-- The values of the fix and what they are computed from. -/
def NmeaReader.values (r : NmeaReader F) : NmeaReader F :=
  { r with
    pos := 0
    overflow := false
    fix := { r.fix with flags := 0 }
    callback := false
    in' := [] }

omit [CDouble F] in
@[simp] theorem values_report : r.report.1.values = r.values := by
  unfold NmeaReader.report
  split <;> rfl

theorem framing_applied (mktime : Tm → Int) (now : Nat) (r : NmeaReader F) (t : t_all_tokens)
    (latitudeHemi longitudeHemi : UInt8) :
    (r.applied mktime now t latitudeHemi longitudeHemi).framing = r.framing := by
  change (r.dated now t).framing = r.framing
  unfold NmeaReader.dated NmeaReader.withDate
  split
  · rfl
  · split
    · split <;> rfl
    · rfl

/-- The updates do not look at the buffer. -/
theorem applied_buffer (latitudeHemi longitudeHemi : UInt8) (pos : Nat) (overflow : Bool)
    (in' : List UInt8) :
    ({ r with pos, overflow, in' } : NmeaReader F).applied mktime now t latitudeHemi longitudeHemi =
      { r.applied mktime now t latitudeHemi longitudeHemi with pos, overflow, in' } := by
  have hdated : ({ r with pos, overflow, in' } : NmeaReader F).dated now t =
      { r.dated now t with pos, overflow, in' } := by
    unfold NmeaReader.dated NmeaReader.withDate
    cases t.newDate with
    | some date => rfl
    | none =>
        dsimp only
        split
        · split <;> rfl
        · rfl
  unfold NmeaReader.applied
  rw [hdated]
  rfl

/-! ## The sentence in the buffer -/

namespace Session

/-- The tokens of the sentence. -/
def tzer (s : Session F) : List Token := nmea_tokenizer_init s.reader.in' s.reader.pos

def sentenceType (s : Session F) : SentenceType := Gps.sentenceType (nmea_tokenizer_get s.tzer 0)

/-- The sentence is not too short, and so is not its id. -/
def LongEnough (s : Session F) : Prop :=
  9 ≤ s.reader.pos ∧ 5 ≤ (nmea_tokenizer_get s.tzer 0).length

/-- The sentence is parsed, or it is too short. -/
theorem parse_eq (mktime : Tm → Int) (now : Nat) (s : Session F) :
    (s.LongEnough ∧ s.nmea_reader_parse mktime now =
        match nmea_reader_update mktime now s.reader (s.tokens.fill s.tzer s.sentenceType) with
        | none => { s with tokens := s.tokens.fill s.tzer s.sentenceType, crashed := true }
        | some r =>
            { s with tokens := s.tokens.fill s.tzer s.sentenceType, reader := r }.report) ∨
      (¬s.LongEnough ∧ s.nmea_reader_parse mktime now = s) := by
  unfold nmea_reader_parse LongEnough
  split
  · exact Or.inr ⟨fun h => by omega, rfl⟩
  · unfold parseTokens
    dsimp only
    split
    · rename_i hid
      exact Or.inr ⟨fun h => absurd hid (Nat.not_lt.mpr h.2), rfl⟩
    · rename_i hpos hid
      exact Or.inl ⟨⟨Nat.not_lt.mp hpos, Nat.not_lt.mp hid⟩, rfl⟩

end Session

end Gps
end DeviceAndroVM
