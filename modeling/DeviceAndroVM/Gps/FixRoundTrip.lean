import DeviceAndroVM.Gps.SentencePairs

/-!
# From the properties to the fix

A position that is written in an RMC sentence is delivered as it was: degrees, minutes and
ten thousandths of minutes are split and put together again, and the sentence fits the
buffer of the reader unless the bearing needs eleven bytes.

* `splitDegrees_of_eq`, `coordinate_of_holds` — a coordinate is read as it was written.
* `length_rmc_le` — the length of an RMC sentence.
* `RoundTrips` — what is asked of a turn of the daemon.
* `fix_round_trip` — it holds for every position, time and bearing whose sentences are read.
-/

namespace DeviceAndroVM
namespace Gps

open Library Library.CString

/-! ## Coordinates -/

/-- Degrees, minutes and ten thousandths of a whole number of ten thousandths of a minute. -/
theorem splitDegrees_of_eq {o : ℚ} {n : Nat} (ho : o = (n : ℚ) / (600000 : Nat))
    (hn : n < 600000000) :
    splitDegrees o = (((n / 600000 : Nat) : Int), ((n % 600000 / 10000 : Nat) : Int),
      ((n % 10000 : Nat) : Int)) := by
  have hdeg : truncate o = (n / 600000 : Nat) := by
    rw [ho]
    exact truncate_div (by omega)
  have hrest : 60 * (o - ((n / 600000 : Nat) : Int)) = ((n % 600000 : Nat) : ℚ) / (10000 : Nat) := by
    have hsum : (n : ℚ) = 600000 * ((n / 600000 : Nat) : ℚ) + ((n % 600000 : Nat) : ℚ) := by
      exact_mod_cast (Nat.div_add_mod n 600000).symm
    rw [ho, Int.cast_natCast, hsum]
    simp only [Nat.cast_ofNat]
    ring
  have hmin : truncate (60 * (o - ((n / 600000 : Nat) : Int))) = (n % 600000 / 10000 : Nat) := by
    rw [hrest]
    exact truncate_div (by omega)
  have hfrac : 10000 * (60 * (o - ((n / 600000 : Nat) : Int)) -
      ((n % 600000 / 10000 : Nat) : Int)) = ((n % 10000 : Nat) : ℚ) := by
    have hsum : ((n % 600000 : Nat) : ℚ) =
        10000 * ((n % 600000 / 10000 : Nat) : ℚ) + ((n % 10000 : Nat) : ℚ) := by
      have hnat := Nat.div_add_mod (n % 600000) 10000
      rw [Nat.mod_mod_of_dvd n (by decide : 10000 ∣ 600000)] at hnat
      exact_mod_cast hnat.symm
    rw [hrest, Int.cast_natCast, hsum]
    simp only [Nat.cast_ofNat]
    ring
  unfold splitDegrees
  dsimp only
  rw [hdeg, hmin, hfrac, truncate_natCast (by omega)]

/-- The text of a coordinate. -/
theorem degreesText_of_eq {i : ℚ} {k : Int} (hi : i = k / 600000) (hk : k.natAbs < 600000000) :
    degreesText i = formatInt 2 (k.natAbs / 600000 : Nat) ++
      (formatInt 2 (k.natAbs % 600000 / 10000 : Nat) ++
        0x2E :: formatInt 4 (k.natAbs % 10000 : Nat)) := by
  have habs : (if i < 0 then -i else i) = (k.natAbs : ℚ) / (600000 : Nat) := by
    rw [Nat.cast_natAbs, Int.cast_abs]
    push_cast
    by_cases hneg : i < 0
    · have hk' : (k : ℚ) < 0 := by
        rw [hi] at hneg
        linarith
      rw [if_pos hneg, abs_of_neg hk', hi]
      ring
    · have hk' : (0 : ℚ) ≤ k := by
        rw [hi] at hneg
        linarith
      rw [if_neg hneg, abs_of_nonneg hk', hi]
  unfold degreesText
  dsimp only
  rw [splitDegrees_of_eq habs hk]

section coordinate

variable {i : ℚ} {k : Int} (hi : i = k / 600000) (hk : k.natAbs < 600000000)

include hi hk

theorem length_degreesText_le (digits : Nat) (hdegrees : k.natAbs / 600000 < 10 ^ (digits + 1)) :
    (degreesText i).length ≤ max 2 (digits + 1) + 7 := by
  rw [degreesText_of_eq hi hk, List.length_append, List.length_append, List.length_cons]
  have hdeg := (formatInt_natCast 2 (k.natAbs / 600000)).2.2 digits hdegrees
  have hmin := length_twoDigits (n := k.natAbs % 600000 / 10000) (by omega)
  have hfrac : (formatInt 4 (k.natAbs % 10000 : Nat)).length = 4 :=
    (formatInt_spec (k := 3) (n := k.natAbs % 10000) (by omega)).2.2
  omega

/-- The number in the token of a coordinate. -/
theorem floatOf_degreesText {tok : Token} (h : tok.Holds (degreesText i)) :
    (floatOf tok : ℚ) = ((k.natAbs / 600000 : Nat) : ℚ) * 100 +
      ((k.natAbs % 600000 / 10000 : Nat) : ℚ) + ((k.natAbs % 10000 : Nat) : ℚ) / 10000 := by
  obtain ⟨hdegDigits, hdegValue, -⟩ := formatInt_natCast 2 (k.natAbs / 600000)
  obtain ⟨hminDigits, hminValue, hminLength⟩ :=
    formatInt_spec (k := 1) (n := k.natAbs % 600000 / 10000) (by omega)
  obtain ⟨hfracDigits, hfracValue, hfracLength⟩ :=
    formatInt_spec (k := 3) (n := k.natAbs % 10000) (by omega)
  have hlength := length_degreesText_le hi hk 2 (by omega)
  have hplain := plain_degreesText i
  unfold floatOf str2float
  rw [h.bytesFrom (Nat.zero_le _), List.drop_zero, h.length, if_neg (by omega),
    cstring_of_plain hplain]
  change strtod (degreesText i) = _
  have hread := strtod_fixed false
    (List.append_ne_nil_of_left_ne_nil (formatInt_ne_nil 2 (k.natAbs / 600000 : Nat))
      (formatInt 2 (k.natAbs % 600000 / 10000 : Nat)))
    (fun d hd => (List.mem_append.mp hd).elim (hdegDigits d) (hminDigits d)) hfracDigits
  rw [degreesText_of_eq hi hk, ← List.append_assoc]
  rw [if_neg Bool.false_ne_true, List.nil_append] at hread
  rw [hread, decimalValue_append, hdegValue, hminValue, hminLength, hfracValue, hfracLength]
  norm_num

/-- A coordinate is read as it was written, sign included. -/
theorem coordinate_of_holds {tok : Token} (h : tok.Holds (degreesText i)) (negative positive : Char)
    (hne : UInt8.ofNat positive.toNat ≠ UInt8.ofNat negative.toNat) :
    (t_all_tokens.coordinate tok (UInt8.ofNat (if i < 0 then negative else positive).toNat)
      (UInt8.ofNat negative.toNat) : ℚ) = i := by
  have hfloat := floatOf_degreesText hi hk h
  have hsum : k.natAbs =
      600000 * (k.natAbs / 600000) + 10000 * (k.natAbs % 600000 / 10000) + k.natAbs % 10000 := by
    omega
  have hdegRange : k.natAbs / 600000 < 1000 := by omega
  have hminRange : k.natAbs % 600000 / 10000 < 60 := by omega
  have hfracRange : k.natAbs % 10000 < 10000 := by omega
  generalize k.natAbs / 600000 = deg at hfloat hsum hdegRange
  generalize k.natAbs % 600000 / 10000 = min at hfloat hsum hminRange
  generalize k.natAbs % 10000 = frac at hfloat hsum hfracRange
  have hwhole : (CDouble.floor (floatOf tok : ℚ) : ℚ) = ((deg * 100 + min : Nat) : ℚ) := by
    have hquot : (floatOf tok : ℚ) = (((deg * 100 + min) * 10000 + frac : Nat) : ℚ) / (10000 : Nat) := by
      rw [hfloat]
      push_cast
      ring
    have hfloor := Rat.floor_natCast_div_natCast ((deg * 100 + min) * 10000 + frac) 10000
    have hwhole : (((deg * 100 + min) * 10000 + frac : Nat) : Int) / ((10000 : Nat) : Int) =
        (deg * 100 + min : Nat) := by
      omega
    rw [hwhole] at hfloor
    change ((floatOf tok : ℚ).floor : ℚ) = _
    rw [hquot]
    exact (congrArg (Int.cast : Int → ℚ) hfloor).trans (Int.cast_natCast _)
  have hdegrees : CDouble.toInt ((CDouble.floor (floatOf tok : ℚ) : ℚ) / ((100 : Int) : ℚ)) =
      (deg : Int) := by
    have hdiv := truncate_div (n := deg * 100 + min) (d := 100) (by omega)
    rw [show (deg * 100 + min) / 100 = deg by omega] at hdiv
    rw [hwhole]
    exact hdiv
  have hvalue : (convert_from_hhmm tok : ℚ) = (k.natAbs : ℚ) / 600000 := by
    unfold convert_from_hhmm
    dsimp only
    rw [hdegrees, hfloat, hsum]
    push_cast
    ring
  unfold t_all_tokens.coordinate
  rw [hvalue, Nat.cast_natAbs, Int.cast_abs]
  by_cases hneg : i < 0
  · have hk' : (k : ℚ) < 0 := by
      rw [hi] at hneg
      linarith
    rw [if_pos hneg, if_pos rfl, abs_of_neg hk', hi]
    ring
  · have hk' : (0 : ℚ) ≤ k := by
      rw [hi] at hneg
      linarith
    rw [if_neg hneg, if_neg hne, abs_of_nonneg hk', hi]

end coordinate

/-! ## Bearings -/

/-- A bearing that is not too far to the left of north takes at most ten bytes. -/
theorem length_bearing {q : ℚ} (hlow : -100 < rounded q) (hhigh : q ≤ 360) :
    (formatFixed q).length ≤ 10 := by
  by_cases hneg : q < 0
  · have hmillionths : millionths q < 100000000 := by
      unfold rounded at hlow
      rw [if_pos hneg] at hlow
      have hcast : (millionths q : ℚ) < 100000000 := by linarith
      exact_mod_cast hcast
    have hlength := length_formatFixed_le (q := q) (k := 1) (by omega)
    rw [if_pos hneg] at hlength
    omega
  · have hfloor : (|q| * 1000000).floor ≤ 360000000 := by
      rw [abs_of_nonneg (not_lt.mp hneg)]
      have hmono := Rat.floor_monotone (a := q * 1000000) (b := ((360000000 : Int) : ℚ))
        (by push_cast; linarith)
      rwa [Rat.floor_intCast] at hmono
    have hround : millionths q ≤ (|q| * 1000000).floor.toNat + 1 := roundHalfEven_le _
    have hlength := length_formatFixed_le (q := q) (k := 2) (by omega)
    rw [if_neg hneg] at hlength
    omega

theorem floatOf_formatFixed {tok : Token} {q : ℚ} (h : tok.Holds (formatFixed q))
    (hlength : (formatFixed q).length ≤ 10) : (floatOf tok : ℚ) = rounded q := by
  unfold floatOf str2float
  rw [h.bytesFrom (Nat.zero_le _), List.drop_zero, h.length, if_neg (by omega),
    cstring_of_plain (plain_of_numeral (isNumeral_formatFixed q))]
  exact strtod_formatFixed q

/-! ## The sentence and the buffer -/

theorem length_sixDigits_eq {a b c : Int} (ha : 0 ≤ a ∧ a < 100) (hb : 0 ≤ b ∧ b < 100)
    (hc : 0 ≤ c ∧ c < 100) : (sixDigits a b c).length = 6 := by
  obtain ⟨a, rfl⟩ := Int.eq_ofNat_of_zero_le ha.1
  obtain ⟨b, rfl⟩ := Int.eq_ofNat_of_zero_le hb.1
  obtain ⟨c, rfl⟩ := Int.eq_ofNat_of_zero_le hc.1
  unfold sixDigits
  rw [List.length_append, List.length_append, length_twoDigits (by omega),
    length_twoDigits (by omega), length_twoDigits (by omega)]

/-- The length of an RMC sentence. -/
theorem length_rmc (p : Properties) (t : Nat) :
    (sentenceOf (rmcFields p (Calendar.gmtime t))).length =
      (degreesText p.i_lat).length + (degreesText p.i_lng).length +
        2 * (formatFixed p.i_bearing).length + 44 := by
  obtain ⟨hsec, hmin, hhour, hyear, hmon, hmon', hday, hday'⟩ := Calendar.gmtime_spec t
  have htime : (sixDigits (Calendar.gmtime t).tm_hour (Calendar.gmtime t).tm_min
      (Calendar.gmtime t).tm_sec).length = 6 :=
    length_sixDigits_eq (by omega) (by omega) (by omega)
  have hdate : (sixDigits (Calendar.gmtime t).tm_mday ((Calendar.gmtime t).tm_mon + 1)
      ((Calendar.gmtime t).tm_year.tmod 100)).length = 6 := by
    rw [Int.tmod_eq_emod_of_nonneg (by omega)]
    exact length_sixDigits_eq (by omega) (by omega) (by omega)
  have hspeed : (formatFixed 0).length = 8 := by decide +kernel
  simp only [sentenceOf, rmcFields, join, hemisphere_eq, ofChars, List.map_cons, List.map_nil,
    List.length_append, List.length_cons, List.length_nil, htime, hdate, hspeed]
  omega

/-- The RMC sentence fits the buffer when its bearing takes no more than ten bytes. -/
theorem length_rmc_le {p : Properties} {t : Nat} (hlat : (degreesText p.i_lat).length ≤ 9)
    (hlng : (degreesText p.i_lng).length ≤ 10) (hbearing : (formatFixed p.i_bearing).length ≤ 10) :
    (sentenceOf (rmcFields p (Calendar.gmtime t))).length ≤ NMEA_MAX_SIZE := by
  rw [length_rmc]
  change _ ≤ 83
  omega

/-! ## The round trip -/

/-- A turn of the daemon round trips: the RMC sentence fits the buffer and reaches the parser,
and the fix that is delivered for it has the position, the time, and `bearing`. -/
def RoundTrips (mktime : Tm → Int) (s : Session ℚ) (p : Properties) (bearing : ℚ)
    (t nowGga nowRmc : Nat) : Prop :=
  ∃ gga rmc s₁ s₂ fix, emit p t = some (gga, rmc) ∧
    Session.feed mktime s (Session.arriving nowGga gga) = some s₁ ∧
    Session.feed mktime s₁ (Session.arriving nowRmc rmc) = some s₂ ∧
    rmc.length ≤ NMEA_MAX_SIZE ∧ s₂.handed = s₁.handed ++ [rmc] ∧ s₂.fixes = s₁.fixes ++ [fix] ∧
    fix.latitude = p.i_lat ∧ fix.longitude = p.i_lng ∧ fix.bearing = bearing ∧
    fix.timestamp = 1000 * (t : Int)

/-- The GGA sentence of a turn does not take the RMC sentence with it: it is not cut off, and
it is not one byte too long. -/
def GgaHarmless (p : Properties) (t : Nat) : Prop :=
  (sentenceOf (ggaFields p (Calendar.gmtime t))).length ≠ NMEA_MAX_SIZE + 1 ∧
    (sentenceOf (ggaFields p (Calendar.gmtime t))).length ≤ 127

/-- The reader behind the GGA sentence. -/
theorem ready_after_gga (mktime : Tm → Int) (now : Nat) {s : Session ℚ} (h : s.Ready)
    (hcallback : s.reader.callback = true) {p : Properties} {t : Nat} (hgga : GgaHarmless p t) :
    ∃ s₁, Session.feed mktime s (Session.arriving now (gpgga p (Calendar.gmtime t))) = some s₁ ∧
      s₁.Ready ∧ s₁.reader.callback = true ∧ s₁.reader.utc_diff = s.reader.utc_diff := by
  obtain ⟨hne, hwhole⟩ := hgga
  unfold gpgga snprintf128
  rw [List.take_of_length_le hwhole]
  by_cases hfits : (sentenceOf (ggaFields p (Calendar.gmtime t))).length ≤ NMEA_MAX_SIZE
  · obtain ⟨s₁, fix, hfeed, hfixed, -⟩ := feed_gga mktime now h hcallback hfits
    exact ⟨s₁, hfeed, hfixed.ready, hfixed.callback, hfixed.utc_diff⟩
  · have hsentence : sentenceOf (ggaFields p (Calendar.gmtime t)) =
        (0x24 :: (join (ggaFields p (Calendar.gmtime t)) ++ [0x2A, 0x34, 0x37])) ++ [0x0A] := by
      simp [sentenceOf, ofChars]
    rw [hsentence] at hne hfits ⊢
    rw [List.length_append, List.length_singleton] at hne hfits
    have hbody : 0x0A ∉ 0x24 :: (join (ggaFields p (Calendar.gmtime t)) ++ [0x2A, 0x34, 0x37]) := by
      have hjoin := not_mem_join (c := 0x0A) (by decide)
        fun text hmem => (plain_gga p (Calendar.gmtime t) text hmem).isField.2
      simpa using hjoin
    obtain ⟨buffer, hbuffer, hfeed⟩ := Session.feed_long_line mktime now h hbody (by omega)
    exact ⟨_, hfeed, ⟨h.alive, rfl, rfl, hbuffer⟩, hcallback, rfl⟩

/-- The date and the time of day that an RMC sentence writes are those of the clock, from 2000
to 2099. -/
theorem timeOn_rmcDate {t : Nat} (hyear : 100 ≤ (Calendar.gmtime t).tm_year ∧
    (Calendar.gmtime t).tm_year < 200) :
    timeOn (Calendar.gmtime t) (rmcDate t) = Calendar.gmtime t := by
  have hcentury : 2000 + (Calendar.gmtime t).tm_year % 100 - 1900 = (Calendar.gmtime t).tm_year := by
    omega
  unfold timeOn rmcDate
  dsimp only
  rw [hcentury, Int.add_sub_cancel]

/-- A coordinate in range has not too many ten thousandths of a minute. -/
theorem natAbs_le_of_range {i : ℚ} {k : Int} (degrees : Nat) (hi : i = k / 600000)
    (hrange : -(degrees : ℚ) ≤ i ∧ i ≤ degrees) : k.natAbs ≤ 600000 * degrees := by
  rw [hi] at hrange
  have hlow : -(600000 * (degrees : ℚ)) ≤ k := by linarith [hrange.1]
  have hhigh : (k : ℚ) ≤ 600000 * (degrees : ℚ) := by linarith [hrange.2]
  have hlow : -(600000 * (degrees : Int)) ≤ k := by exact_mod_cast hlow
  have hhigh : k ≤ 600000 * (degrees : Int) := by exact_mod_cast hhigh
  omega

/-- For every position in whole ten thousandths of a minute, every bearing that is rounded to
more than -100 degrees and every time from 2000 to 2099: the RMC sentence is read, and the
fix has the position, the bearing to six places, and the time. -/
theorem fix_round_trip {mktime : Tm → Int} (hmktime : ∀ tm, mktime tm = Calendar.timegm tm)
    {s : Session ℚ} (h : s.Ready) (hcallback : s.reader.callback = true)
    (hdiff : s.reader.utc_diff = 0) {p : Properties} {t : Nat} {lat lng : Int}
    (hlat : p.i_lat = lat / 600000) (hlatRange : -90 ≤ p.i_lat ∧ p.i_lat ≤ 90)
    (hlng : p.i_lng = lng / 600000) (hlngRange : -180 ≤ p.i_lng ∧ p.i_lng ≤ 180)
    (hbearing : -100 < rounded p.i_bearing) (hbearingRange : p.i_bearing ≤ 360)
    (hprecision : 0 ≤ p.precision ∧ p.precision ≤ 200)
    (hyear : 2000 ≤ (Calendar.gmtime t).tm_year + 1900 ∧ (Calendar.gmtime t).tm_year + 1900 ≤ 2099)
    (hgga : GgaHarmless p t) (nowGga nowRmc : Nat) :
    RoundTrips mktime s p (rounded p.i_bearing) t nowGga nowRmc ∧
      ∀ k : Int, p.i_bearing = k / 1000000 → rounded p.i_bearing = p.i_bearing := by
  have hlatAbs := natAbs_le_of_range 90 hlat (by simpa using hlatRange)
  have hlngAbs := natAbs_le_of_range 180 hlng (by simpa using hlngRange)
  have hlatLength := length_degreesText_le hlat (by omega) 1 (by omega)
  have hlngLength := length_degreesText_le hlng (by omega) 2 (by omega)
  have hbearingLength := length_bearing hbearing hbearingRange
  have hfits := length_rmc_le (t := t) hlatLength hlngLength hbearingLength
  have hrmc : gprmc p (Calendar.gmtime t) = sentenceOf (rmcFields p (Calendar.gmtime t)) := by
    unfold gprmc snprintf128
    exact List.take_of_length_le (Nat.le_trans hfits (by decide))
  obtain ⟨s₁, hfeed₁, hready, hcallback₁, hdiff₁⟩ := ready_after_gga mktime nowGga h hcallback hgga
  obtain ⟨s₂, fix, hfeed₂, hfixed, hdate, hvalues⟩ := feed_rmc mktime nowRmc hready hcallback₁ hfits
  obtain ⟨latTok, hlatTok, hlatFix⟩ := hvalues.latitude
  obtain ⟨lngTok, hlngTok, hlngFix⟩ := hvalues.longitude
  obtain ⟨bearingTok, hbearingTok, hbearingFix⟩ := hvalues.bearing
  have hemit : emit p t = some (gpgga p (Calendar.gmtime t),
      sentenceOf (rmcFields p (Calendar.gmtime t))) := by
    unfold emit
    rw [if_neg (not_or.mpr ⟨not_lt.mpr hprecision.1, not_lt.mpr hprecision.2⟩), ← hrmc]
  refine ⟨⟨_, _, s₁, s₂, fix, hemit, hfeed₁, hfeed₂, hfits, hfixed.handed, hfixed.fixes, ?_, ?_,
    ?_, ?_⟩, fun k hk => rounded_of_eq hk⟩
  · rw [hlatFix]
    exact coordinate_of_holds hlat (by omega) hlatTok 'S' 'N' (by decide)
  · rw [hlngFix]
    exact coordinate_of_holds hlng (by omega) hlngTok 'W' 'E' (by decide)
  · rw [hbearingFix, floatOf_formatFixed hbearingTok hbearingLength]
  · rw [hfixed.timestamp, hdate, timeOn_rmcDate (by omega), hmktime, Calendar.timegm_gmtime, hdiff₁,
      hdiff, Int.add_zero, Int.mul_comm]

/-- A reader that has just been started. -/
def started : Session ℚ := (Session.opened 0).nmea_reader_set_callback true

theorem started_ready : started.Ready := ⟨rfl, rfl, rfl, rfl⟩

/-- Half a degree north, two and a half degrees west, a quarter of a degree to the right. -/
theorem fix_round_trip_north_west :
    RoundTrips Calendar.timegm started ⟨97 / 2, -5 / 2, 100, 1 / 4, 20⟩
      (rounded (1 / 4)) 1700000000 1700000000 1700000000 :=
  (fix_round_trip (fun _ => rfl) started_ready rfl rfl (p := ⟨97 / 2, -5 / 2, 100, 1 / 4, 20⟩)
    (t := 1700000000) (show (97 / 2 : ℚ) = (29100000 : Int) / 600000 by norm_num) (by norm_num)
    (show (-5 / 2 : ℚ) = (-1500000 : Int) / 600000 by norm_num) (by norm_num)
    (by decide +kernel) (by norm_num) (by norm_num) (by decide +kernel)
    (by unfold GgaHarmless; decide +kernel) 1700000000 1700000000).1

/-- A bearing of -360 degrees makes the RMC sentence one byte too long. -/
theorem full_turn_left_too_long :
    ¬∀ (p : Properties) (t : Nat) (lat lng : Int), p.i_lat = lat / 600000 →
      (-90 ≤ p.i_lat ∧ p.i_lat ≤ 90) → p.i_lng = lng / 600000 →
      (-180 ≤ p.i_lng ∧ p.i_lng ≤ 180) → (-360 ≤ p.i_bearing ∧ p.i_bearing ≤ 360) →
      (0 ≤ p.precision ∧ p.precision ≤ 200) →
      (2000 ≤ (Calendar.gmtime t).tm_year + 1900 ∧ (Calendar.gmtime t).tm_year + 1900 ≤ 2099) →
      RoundTrips Calendar.timegm started p p.i_bearing t t t := by
  intro h
  obtain ⟨gga, rmc, -, -, -, hemit, -, -, hfits, -⟩ :=
    h ⟨0, 0, 0, -360, 1⟩ 1700000000 0 0 (by norm_num) (by norm_num) (by norm_num) (by norm_num)
      (by norm_num) (by norm_num) (by decide +kernel)
  have hlength : (emit ⟨0, 0, 0, -360, 1⟩ 1700000000).map (·.2.length) = some 84 := by
    decide +kernel
  rw [hemit, Option.map_some, Option.some.injEq] at hlength
  change rmc.length = 84 at hlength
  change rmc.length ≤ 83 at hfits
  omega

end Gps
end DeviceAndroVM
