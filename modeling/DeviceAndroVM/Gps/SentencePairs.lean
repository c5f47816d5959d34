import DeviceAndroVM.Gps.WrittenSentences

/-!
# The two sentences of a turn

What the reader makes of the GGA and of the RMC sentence that the daemon writes.  The GGA
sentence sets the time, on the date that the reader has; the RMC sentence sets the date, the
time and the position.

* `gga_fields`, `rmc_fields` — the fields that the tokenizer finds.
* `timeOf_sixDigits`, `date_sixDigits` — a time and a date are read as they were written.
* `rmcTime` — the time of an RMC sentence: the century is not written.
* `feed_gga`, `feed_rmc` — the reader after the sentence, and the fix it has delivered.
-/

namespace DeviceAndroVM
namespace Gps

open Library Library.CString

/-! ## Fields -/

/-- Bytes that end no field and no line. -/
def Plain (text : CString) : Prop := ∀ c ∈ text, c ≠ 0x2C ∧ c ≠ 0 ∧ c ≠ 0x0A

theorem Plain.isField {text : CString} (h : Plain text) : IsField text ∧ 0x0A ∉ text :=
  ⟨fun c hc => ⟨(h c hc).1, (h c hc).2.1⟩, fun hmem => (h _ hmem).2.2 rfl⟩

theorem plain_of_numeral {text : CString} (h : ∀ c ∈ text, isNumeral c = true) : Plain text := by
  intro c hc
  have hnumeral := h c hc
  refine ⟨?_, ?_, ?_⟩ <;> rintro rfl <;> exact absurd hnumeral (by decide)

theorem Plain.append {first second : CString} (hfirst : Plain first) (hsecond : Plain second) :
    Plain (first ++ second) := by
  intro c hc
  exact (List.mem_append.mp hc).elim (hfirst c) (hsecond c)

theorem plain_formatInt (width : Nat) (i : Int) : Plain (formatInt width i) :=
  plain_of_numeral (isNumeral_formatInt width i)

theorem plain_sixDigits (a b c : Int) : Plain (sixDigits a b c) :=
  (plain_formatInt 2 a).append ((plain_formatInt 2 b).append (plain_formatInt 2 c))

theorem isNumeral_degreesText (i : ℚ) : ∀ c ∈ degreesText i, isNumeral c = true := by
  intro c hc
  unfold degreesText at hc
  simp only [List.mem_append, List.mem_cons] at hc
  rcases hc with hc | hc | rfl | hc
  · exact isNumeral_formatInt _ _ c hc
  · exact isNumeral_formatInt _ _ c hc
  · rfl
  · exact isNumeral_formatInt _ _ c hc

theorem plain_degreesText (i : ℚ) : Plain (degreesText i) :=
  plain_of_numeral (isNumeral_degreesText i)

theorem hemisphere_eq (i : ℚ) (negative positive : Char) :
    hemisphere i negative positive =
      [UInt8.ofNat (if i < 0 then negative else positive).toNat] := rfl

theorem plain_hemisphere (i : ℚ) {negative positive : Char}
    (hchars : Plain (ofChars [negative, positive])) : Plain (hemisphere i negative positive) := by
  intro c hc
  rw [hemisphere_eq, List.mem_singleton] at hc
  apply hchars c
  rw [hc]
  split <;> simp [ofChars]

theorem plain_of_all {text : CString}
    (h : text.all (fun c => c != 0x2C && c != 0 && c != 0x0A) = true) : Plain text := by
  intro c hc
  have hbyte := List.all_eq_true.mp h c hc
  simp only [Bool.and_eq_true, bne_iff_ne] at hbyte
  exact ⟨hbyte.1.1, hbyte.1.2, hbyte.2⟩

theorem sixDigits_ne_nil (a b c : Int) : sixDigits a b c ≠ [] :=
  List.append_ne_nil_of_left_ne_nil (formatInt_ne_nil 2 a) _

theorem degreesText_ne_nil (i : ℚ) : degreesText i ≠ [] :=
  List.append_ne_nil_of_left_ne_nil (formatInt_ne_nil 2 _) _

variable (p : Properties) (tm : Tm)

theorem plain_gga : ∀ text ∈ ggaFields p tm, Plain text := by
  unfold ggaFields
  simp only [List.forall_mem_cons]
  exact ⟨plain_of_all rfl, plain_sixDigits _ _ _, plain_degreesText _,
    plain_hemisphere _ (plain_of_all rfl), plain_degreesText _,
    plain_hemisphere _ (plain_of_all rfl), plain_of_all rfl, plain_of_all rfl,
    plain_formatInt 0 _, plain_of_numeral (isNumeral_formatFixed _), plain_of_all rfl,
    plain_of_all rfl, plain_of_all rfl, plain_of_all rfl, plain_of_all rfl, plain_of_all rfl, nofun⟩

theorem plain_rmc : ∀ text ∈ rmcFields p tm, Plain text := by
  unfold rmcFields
  simp only [List.forall_mem_cons]
  exact ⟨plain_of_all rfl, plain_sixDigits _ _ _, plain_of_all rfl, plain_degreesText _,
    plain_hemisphere _ (plain_of_all rfl), plain_degreesText _,
    plain_hemisphere _ (plain_of_all rfl), plain_of_numeral (isNumeral_formatFixed _),
    plain_of_numeral (isNumeral_formatFixed _), plain_sixDigits _ _ _,
    plain_of_numeral (isNumeral_formatFixed _), plain_of_all rfl, nofun⟩

/-- The fields of a GGA sentence that are not empty. -/
theorem gga_fields :
    compact (ggaFields p tm) =
      [ofChars ['G', 'P', 'G', 'G', 'A'], sixDigits tm.tm_hour tm.tm_min tm.tm_sec,
        degreesText p.i_lat, hemisphere p.i_lat 'S' 'N', degreesText p.i_lng,
        hemisphere p.i_lng 'W' 'E', ofChars ['1'], ofChars ['0', '8'],
        formatInt 0 (truncate p.precision), formatFixed p.i_alt, ofChars ['M'],
        ofChars ['0', '.'], ofChars ['M']] := by
  simp [compact, ggaFields, sixDigits_ne_nil, degreesText_ne_nil, formatInt_ne_nil, formatFixed_ne_nil,
    hemisphere_eq, ofChars]

/-- The fields of an RMC sentence that are not empty. -/
theorem rmc_fields :
    compact (rmcFields p tm) =
      [ofChars ['G', 'P', 'R', 'M', 'C'], sixDigits tm.tm_hour tm.tm_min tm.tm_sec,
        ofChars ['A'], degreesText p.i_lat, hemisphere p.i_lat 'S' 'N', degreesText p.i_lng,
        hemisphere p.i_lng 'W' 'E', formatFixed 0, formatFixed p.i_bearing,
        sixDigits tm.tm_mday (tm.tm_mon + 1) (tm.tm_year.tmod 100), formatFixed p.i_bearing] := by
  simp [compact, rmcFields, sixDigits_ne_nil, degreesText_ne_nil, formatFixed_ne_nil,
    hemisphere_eq, ofChars]

/-! ## Numbers -/

theorem truncate_div {n d : Nat} (h : n / d < 0x80000000) :
    truncate ((n : ℚ) / (d : ℚ)) = (n / d : Nat) := by
  have hnonneg : (0 : ℚ) ≤ (n : ℚ) / (d : ℚ) := by positivity
  have hfloor : ((n : ℚ) / (d : ℚ)).floor = ((n / d : Nat) : Int) :=
    Rat.floor_natCast_div_natCast n d
  unfold truncate
  dsimp only
  rw [if_pos hnonneg, hfloor]
  generalize n / d = whole at h
  rw [if_pos (by omega)]

theorem truncate_natCast {n : Nat} (h : n < 0x80000000) : truncate (n : ℚ) = n := by
  have hdiv := truncate_div (n := n) (d := 1) (by omega)
  rw [Nat.cast_one, div_one, Nat.div_one] at hdiv
  exact hdiv

theorem cstring_of_plain {text : CString} (h : Plain text) : cstring text = text := by
  unfold cstring
  rw [List.takeWhile_eq_self_iff]
  intro c hc
  simpa using (h c hc).2.1

/-- Two digits are read as they were written. -/
theorem str2int_twoDigits {n : Nat} (h : n < 100) : str2int (formatInt 2 n) = n := by
  obtain ⟨hdigits, hvalue, -⟩ := formatInt_spec (k := 1) h
  unfold str2int
  rw [if_pos (List.all_eq_true.mpr hdigits), hvalue]
  apply Int.bmod_eq_of_le <;> omega

theorem length_twoDigits {n : Nat} (h : n < 100) : (formatInt 2 n).length = 2 :=
  (formatInt_spec (k := 1) h).2.2

section sixDigits

variable {tok : Token} {a b c : Nat} (h : tok.Holds (sixDigits a b c)) (ha : a < 100) (hb : b < 100)
  (hc : c < 100)

include h ha hb hc

theorem length_sixDigits : tok.length = 6 := by
  rw [h.length]
  unfold sixDigits
  rw [List.length_append, List.length_append, length_twoDigits ha, length_twoDigits hb,
    length_twoDigits hc]

/-- The three numbers. -/
theorem bytes_sixDigits :
    tok.bytes 0 2 = formatInt 2 a ∧ tok.bytes 2 2 = formatInt 2 b ∧ tok.bytes 4 2 = formatInt 2 c := by
  have hlength := length_sixDigits h ha hb hc
  rw [h.length] at hlength
  have hla := length_twoDigits ha
  have hlb := length_twoDigits hb
  have hlc := length_twoDigits hc
  have hdrop2 : (sixDigits a b c).drop 2 = formatInt 2 b ++ formatInt 2 c := by
    unfold sixDigits
    exact List.drop_left' hla
  have hdrop4 : (sixDigits a b c).drop 4 = formatInt 2 c := by
    rw [show (4 : Nat) = 2 + 2 from rfl, ← List.drop_drop, hdrop2]
    exact List.drop_left' hlb
  refine ⟨?_, ?_, ?_⟩
  · rw [h.bytes (by omega), List.drop_zero]
    exact List.take_left' hla
  · rw [h.bytes (by omega), hdrop2]
    exact List.take_left' hlb
  · rw [h.bytes (by omega), hdrop4, List.take_of_length_le (by omega)]

/-- A time on the date of the reader. -/
theorem timeOf_sixDigits (r : NmeaReader ℚ) :
    timeOf r tok =
      { tm_sec := c, tm_min := b, tm_hour := a, tm_mday := r.utc_day, tm_mon := r.utc_mon - 1,
        tm_year := r.utc_year - 1900 } := by
  obtain ⟨hfirst, hsecond, hthird⟩ := bytes_sixDigits h ha hb hc
  have hlength := length_sixDigits h ha hb hc
  obtain ⟨hdigits, hvalue, -⟩ := formatInt_spec (k := 1) hc
  have hseconds : CDouble.toInt (str2float (tok.bytesFrom 4) (tok.length - 4) : ℚ) = c := by
    have hplain : Plain (formatInt 2 c) := plain_formatInt 2 c
    unfold Token.bytesFrom str2float
    rw [hlength, hthird, if_neg (by omega), cstring_of_plain hplain]
    change truncate (strtod (formatInt 2 c)) = c
    rw [strtod_digits (formatInt_ne_nil 2 c) hdigits, hvalue, truncate_natCast (by omega)]
  unfold timeOf
  dsimp only
  rw [hseconds, hfirst, hsecond, str2int_twoDigits ha, str2int_twoDigits hb]

end sixDigits

/-! ## The sentences and the reader -/

/-- The date of the reader. -/
def NmeaReader.date {F : Type} (r : NmeaReader F) : Int × Int × Int :=
  (r.utc_year, r.utc_mon, r.utc_day)

/-- The time of day, on another date. -/
def timeOn (tm : Tm) (date : Int × Int × Int) : Tm :=
  { tm with tm_mday := date.2.2, tm_mon := date.2.1 - 1, tm_year := date.1 - 1900 }

/-- The date that an RMC sentence writes: the century is that of 2000. -/
def rmcDate (t : Nat) : Int × Int × Int :=
  let tm := Calendar.gmtime t
  (2000 + tm.tm_year % 100, tm.tm_mon + 1, tm.tm_mday)

/-- The session after a sentence of the time `t`, and the fix that was delivered for it. -/
structure Fixed (mktime : Tm → Int) (t : Nat) (sentence : CString) (s s' : Session ℚ)
    (fix : GpsLocation ℚ) : Prop where
  ready : s'.Ready
  callback : s'.reader.callback = true
  utc_diff : s'.reader.utc_diff = s.reader.utc_diff
  handed : s'.handed = s.handed ++ [sentence]
  fixes : s'.fixes = s.fixes ++ [fix]
  timestamp : fix.timestamp =
    (mktime (timeOn (Calendar.gmtime t) s'.reader.date) + s.reader.utc_diff) * 1000

/-- The time token of a sentence of the time `t`. -/
theorem timeOf_gmtime {tok : Token} {t : Nat}
    (h : tok.Holds (sixDigits (Calendar.gmtime t).tm_hour (Calendar.gmtime t).tm_min
      (Calendar.gmtime t).tm_sec)) (r : NmeaReader ℚ) :
    tok.length = 6 ∧ timeOf r tok = timeOn (Calendar.gmtime t) r.date := by
  obtain ⟨hsec, hmin, hhour, -⟩ := Calendar.gmtime_spec t
  rw [hsec, hmin, hhour] at h
  refine ⟨length_sixDigits h (by omega) (by omega) (by omega), ?_⟩
  rw [timeOf_sixDigits h (by omega) (by omega) (by omega)]
  unfold timeOn NmeaReader.date
  rw [hsec, hmin, hhour]

/-- From a sentence that was parsed to the fix that it gives. -/
theorem fixed_of_parsed {mktime : Tm → Int} {now t : Nat} {sentence : CString} {s s' : Session ℚ}
    {tokens : t_all_tokens} {latitudeHemi longitudeHemi : UInt8}
    (h : Parsed mktime now s tokens latitudeHemi longitudeHemi s')
    (hhanded : s'.handed = s.handed ++ [sentence])
    (htime : tokens.time.Holds (sixDigits (Calendar.gmtime t).tm_hour (Calendar.gmtime t).tm_min
      (Calendar.gmtime t).tm_sec))
    (hflags : tokens.flags ≠ 0) :
    Fixed mktime t sentence s s'
        (s.reader.applied mktime now tokens latitudeHemi longitudeHemi).fix ∧
      s'.reader.date = (s.reader.dated now tokens).date := by
  obtain ⟨hlength, htimeOf⟩ := timeOf_gmtime htime (s.reader.dated now tokens)
  have htimed : tokens.timed = true := by
    unfold t_all_tokens.timed
    rw [htime.init, hlength]
    rfl
  have hdate : s'.reader.date = (s.reader.dated now tokens).date := by
    have hvalues := congrArg NmeaReader.date h.values
    exact hvalues
  have hdiff : s'.reader.utc_diff = s.reader.utc_diff := by
    have hvalues := congrArg NmeaReader.utc_diff h.values
    have hframing := framing_applied mktime now s.reader tokens latitudeHemi
      longitudeHemi
    exact hvalues.trans (congrArg (·.2.2.2.2) hframing)
  refine ⟨⟨h.ready, h.callback, hdiff, hhanded, h.fixes hflags, ?_⟩, hdate⟩
  have hdated : (s.reader.dated now tokens).utc_diff = s.reader.utc_diff :=
    (congrArg NmeaReader.utc_diff h.values).symm.trans hdiff
  change (if tokens.timed = true then
    NmeaReader.timestampOf mktime (s.reader.dated now tokens) tokens else _) = _
  unfold NmeaReader.timestampOf
  rw [if_pos htimed, htimeOf, hdated, hdate]

variable {p tm} {t : Nat} {s : Session ℚ}

theorem sentenceType_of_holds {tok : Token} {a b c d e : UInt8} (h : tok.Holds [a, b, c, d, e]) :
    sentenceType tok =
      if [c, d, e] = [0x47, 0x47, 0x41] then .GGA
      else if [c, d, e] = [0x47, 0x53, 0x41] then .GSA
      else if [c, d, e] = [0x52, 0x4D, 0x43] then .RMC
      else .unknown := by
  obtain ⟨behind, hp⟩ := h.p
  unfold sentenceType
  rw [hp]
  rfl

/-- A GGA sentence: the time of day goes on the date that the reader has. -/
theorem feed_gga (mktime : Tm → Int) (now : Nat) (h : s.Ready) (hcallback : s.reader.callback = true)
    (hfits : (sentenceOf (ggaFields p (Calendar.gmtime t))).length ≤ NMEA_MAX_SIZE) :
    ∃ s' fix, Session.feed mktime s
        (Session.arriving now (sentenceOf (ggaFields p (Calendar.gmtime t)))) = some s' ∧
      Fixed mktime t (sentenceOf (ggaFields p (Calendar.gmtime t))) s s' fix ∧
      s'.reader.date = (s.reader.withDate now).date := by
  obtain ⟨firstLng, restLng, hlng⟩ := List.exists_cons_of_ne_nil (degreesText_ne_nil p.i_lng)
  obtain ⟨firstLat, restLat, hlat⟩ := List.exists_cons_of_ne_nil (degreesText_ne_nil p.i_lat)
  have hfields := gga_fields p (Calendar.gmtime t)
  obtain ⟨s', tzer, htzer, hfeed, hhanded, hparsed⟩ := feed_sentence mktime now h hcallback
    (fun text hmem => (plain_gga p _ text hmem).isField) hfits
    (by rw [hfields]; exact (by decide : 13 ≤ 16)) (ofChars ['G', 'P', 'G', 'G', 'A'])
    (by rw [hfields]; rfl) rfl .GGA (fun tok hholds => sentenceType_of_holds hholds) (Or.inl rfl)
    firstLng 0x31 (by rw [hfields, ← hlng]; rfl) (by rw [hfields]; rfl)
  rw [hfields] at htzer
  -- what looks like the status is the latitude
  have hactive : (s.tokens.fill tzer .GGA).active = false := by
    have hstatus := (holds_get htzer 2 rfl).first hlat
    have hnumeral : firstLat ≠ 0x41 := by
      rintro rfl
      exact absurd (isNumeral_degreesText p.i_lat 0x41 (by rw [hlat]; exact List.mem_cons_self))
        (by decide)
    unfold t_all_tokens.active
    change ((nmea_tokenizer_get tzer 2).init &&
      decide ((nmea_tokenizer_get tzer 2).first = some 0x41)) = false
    rw [hstatus]
    simp [hnumeral]
  have hflags : (s.tokens.fill tzer .GGA).flags ≠ 0 := by
    have haccuracy : (s.tokens.fill tzer .GGA).accuracy.init = true :=
      (holds_get htzer 8 rfl).init
    unfold t_all_tokens.flags
    rw [haccuracy]
    intro hzero
    have hbit := (UInt16.or_eq_zero_iff.mp (UInt16.or_eq_zero_iff.mp
      (UInt16.or_eq_zero_iff.mp hzero).2).2).1
    exact absurd hbit (by decide)
  have htime : (s.tokens.fill tzer .GGA).time.Holds _ := holds_get htzer 1 rfl
  obtain ⟨hfixed, hdate⟩ := fixed_of_parsed hparsed hhanded htime hflags
  refine ⟨s', _, hfeed, hfixed, ?_⟩
  rw [hdate]
  have hnew : (s.tokens.fill tzer .GGA).newDate = none := by
    unfold t_all_tokens.newDate
    rw [hactive]
    rfl
  have htimed : (s.tokens.fill tzer .GGA).timed = true := by
    unfold t_all_tokens.timed
    rw [htime.init, (timeOf_gmtime htime s.reader).1]
    rfl
  unfold NmeaReader.dated
  rw [hnew, htimed]
  rfl

/-- The values of the position that an RMC sentence gives. -/
structure RmcValues (p : Properties) (fix : GpsLocation ℚ) : Prop where
  latitude : ∃ tok : Token, tok.Holds (degreesText p.i_lat) ∧ fix.latitude =
    t_all_tokens.coordinate tok (UInt8.ofNat (if p.i_lat < 0 then 'S' else 'N').toNat) 0x53
  longitude : ∃ tok : Token, tok.Holds (degreesText p.i_lng) ∧ fix.longitude =
    t_all_tokens.coordinate tok (UInt8.ofNat (if p.i_lng < 0 then 'W' else 'E').toNat) 0x57
  bearing : ∃ tok : Token, tok.Holds (formatFixed p.i_bearing) ∧ fix.bearing = floatOf tok

theorem length_degreesText (i : ℚ) : 6 ≤ (degreesText i).length := by
  have hdeg := le_length_formatInt 2 (splitDegrees (if i < 0 then -i else i)).1
  have hmin := le_length_formatInt 2 (splitDegrees (if i < 0 then -i else i)).2.1
  unfold degreesText
  rw [List.length_append, List.length_append, List.length_cons]
  have hfrac := le_length_formatInt 4 (splitDegrees (if i < 0 then -i else i)).2.2
  omega

/-- A date token is read as it was written. -/
theorem date?_of_holds {tokens : t_all_tokens}
    (h : tokens.date.Holds (sixDigits (Calendar.gmtime t).tm_mday ((Calendar.gmtime t).tm_mon + 1)
      ((Calendar.gmtime t).tm_year.tmod 100))) : tokens.date? = some (rmcDate t) := by
  obtain ⟨-, -, -, hyear, hmon, hmon', hday, hday'⟩ := Calendar.gmtime_spec t
  obtain ⟨day, hd⟩ := Int.eq_ofNat_of_zero_le (show 0 ≤ (Calendar.gmtime t).tm_mday by omega)
  obtain ⟨mon, hm⟩ := Int.eq_ofNat_of_zero_le (show 0 ≤ (Calendar.gmtime t).tm_mon + 1 by omega)
  obtain ⟨year, hy⟩ := Int.eq_ofNat_of_zero_le
    (show 0 ≤ (Calendar.gmtime t).tm_year % 100 by omega)
  have htmod : (Calendar.gmtime t).tm_year.tmod 100 = (Calendar.gmtime t).tm_year % 100 :=
    Int.tmod_eq_emod_of_nonneg (by omega)
  have hdate : rmcDate t = (2000 + (year : Int), (mon : Int), (day : Int)) := by
    unfold rmcDate
    dsimp only
    rw [hy, hm, hd]
  rw [htmod, hd, hm, hy] at h
  obtain ⟨hfirst, hsecond, hthird⟩ := bytes_sixDigits h (by omega) (by omega) (by omega)
  have hlength := length_sixDigits h (by omega) (by omega) (by omega)
  unfold t_all_tokens.date?
  rw [h.init, hlength, if_pos (by decide), hfirst, hsecond, hthird, str2int_twoDigits (by omega),
    str2int_twoDigits (by omega), str2int_twoDigits (by omega)]
  dsimp only
  rw [if_neg (by omega), hdate, Int.add_comm]

/-- An RMC sentence: the date, the time and the position. -/
theorem feed_rmc (mktime : Tm → Int) (now : Nat) (h : s.Ready) (hcallback : s.reader.callback = true)
    (hfits : (sentenceOf (rmcFields p (Calendar.gmtime t))).length ≤ NMEA_MAX_SIZE) :
    ∃ s' fix, Session.feed mktime s
        (Session.arriving now (sentenceOf (rmcFields p (Calendar.gmtime t)))) = some s' ∧
      Fixed mktime t (sentenceOf (rmcFields p (Calendar.gmtime t))) s s' fix ∧
      s'.reader.date = rmcDate t ∧ RmcValues p fix := by
  have hfields := rmc_fields p (Calendar.gmtime t)
  obtain ⟨s', tzer, htzer, hfeed, hhanded, hparsed⟩ := feed_sentence mktime now h hcallback
    (fun text hmem => (plain_rmc p _ text hmem).isField) hfits
    (by rw [hfields]; exact (by decide : 11 ≤ 16)) (ofChars ['G', 'P', 'R', 'M', 'C'])
    (by rw [hfields]; rfl) rfl .RMC (fun tok hholds => sentenceType_of_holds hholds) (Or.inr rfl)
    (UInt8.ofNat (if p.i_lat < 0 then 'S' else 'N').toNat)
    (UInt8.ofNat (if p.i_lng < 0 then 'W' else 'E').toNat) (by rw [hfields]; rfl) (by rw [hfields]; rfl)
  rw [hfields] at htzer
  have htime : (s.tokens.fill tzer .RMC).time.Holds _ := holds_get htzer 1 rfl
  have hlat : (s.tokens.fill tzer .RMC).latitude.Holds (degreesText p.i_lat) :=
    holds_get htzer 3 rfl
  have hlng : (s.tokens.fill tzer .RMC).longitude.Holds (degreesText p.i_lng) :=
    holds_get htzer 5 rfl
  have hbearing : (s.tokens.fill tzer .RMC).bearing.Holds (formatFixed p.i_bearing) :=
    holds_get htzer 8 rfl
  have hactive : (s.tokens.fill tzer .RMC).active = true := by
    have hstatus := (holds_get htzer 2 rfl).first rfl
    unfold t_all_tokens.active
    change ((nmea_tokenizer_get tzer 2).init &&
      decide ((nmea_tokenizer_get tzer 2).first = some 0x41)) = true
    rw [hstatus, (holds_get htzer 2 rfl).init]
    rfl
  have hlatlong : (s.tokens.fill tzer .RMC).hasLatLong = true := by
    have hlatLength := length_degreesText p.i_lat
    have hlngLength := length_degreesText p.i_lng
    unfold t_all_tokens.hasLatLong
    rw [hlat.init, hlng.init, hlat.length, hlng.length]
    simp [hlatLength, hlngLength]
  have hhas : (s.tokens.fill tzer .RMC).hasBearing = true := by
    unfold t_all_tokens.hasBearing
    rw [hactive, hbearing.init, hbearing.length]
    simp [formatFixed_ne_nil]
  have hflags : (s.tokens.fill tzer .RMC).flags ≠ 0 := by
    unfold t_all_tokens.flags
    rw [hlatlong]
    intro hzero
    exact absurd (UInt16.or_eq_zero_iff.mp hzero).1 (by decide)
  obtain ⟨hfixed, hdate⟩ := fixed_of_parsed hparsed hhanded htime hflags
  refine ⟨s', _, hfeed, hfixed, ?_, ⟨_, hlat, ?_⟩, ⟨_, hlng, ?_⟩, ⟨_, hbearing, ?_⟩⟩
  · have hnew : (s.tokens.fill tzer .RMC).newDate = some (rmcDate t) := by
      unfold t_all_tokens.newDate
      rw [hactive]
      exact date?_of_holds (holds_get htzer 9 rfl)
    rw [hdate]
    unfold NmeaReader.dated
    rw [hnew]
    rfl
  · exact if_pos hlatlong
  · exact if_pos hlatlong
  · exact if_pos hhas

end Gps
end DeviceAndroVM
