import DeviceAndroVM.Gps.SentenceFields

/-!
# Positions in GGA sentences

A GGA sentence has no status: its latitude stands where an RMC sentence has one.  The reader
takes both types for the same, so it looks for a latitude one field too far.

* `Coordinate`, `Altitude`, `Gga` — what a well-formed sentence says.
* `Shows` — a fix has the position and the altitude of the sentence.
* `gga_applied` — what the reader makes of the sentence.
* `showsGga_iff` — the fix has the position just when it had it before.
-/

namespace DeviceAndroVM
namespace Gps

open Library Library.CString

/-! ## What a sentence says -/

/-- Digits alone, at least one. -/
structure Numeral where
  digits : CString
  nonempty : digits ≠ []
  isdigit : ∀ d ∈ digits, CString.isdigit d = true

/-- Degrees with `width` digits, two digits of minutes and their fraction; `negative` is the side
of the hemisphere letter that makes the number negative. -/
structure Coordinate (width : Nat) where
  degrees : Numeral
  minutes : Numeral
  fraction : Numeral
  negative : Bool
  length_degrees : degrees.digits.length = width
  length_minutes : minutes.digits.length = 2

namespace Coordinate

variable {width : Nat} (c : Coordinate width)

def text : CString := c.degrees.digits ++ (c.minutes.digits ++ 0x2E :: c.fraction.digits)

/-- The number in degrees. -/
def value : ℚ :=
  (if c.negative then -1 else 1) *
    (decimalValue c.degrees.digits +
      (decimalValue c.minutes.digits +
        decimalValue c.fraction.digits / 10 ^ c.fraction.digits.length) / 60)

end Coordinate

/-- A sign, digits, and perhaps a point and more digits. -/
structure Altitude where
  negative : Bool
  whole : Numeral
  fraction : Option CString
  isdigit : ∀ digits ∈ fraction, ∀ d ∈ digits, CString.isdigit d = true

namespace Altitude

variable (a : Altitude)

def text : CString :=
  (if a.negative then [0x2D] else []) ++
    (a.whole.digits ++ match a.fraction with
      | none => []
      | some digits => 0x2E :: digits)

def value : ℚ :=
  (if a.negative then -1 else 1) *
    (decimalValue a.whole.digits + match a.fraction with
      | none => 0
      | some digits => decimalValue digits / 10 ^ digits.length)

end Altitude

/-- A GGA sentence; of the fields that are no position, only that they are there. -/
structure Gga where
  talker : UInt8 × UInt8
  time : CString
  latitude : Coordinate 2
  longitude : Coordinate 3
  quality : CString
  satellites : CString
  accuracy : CString
  altitude : Altitude
  more : List CString
  present : ∀ field ∈ [time, quality, satellites, accuracy], field ≠ []

namespace Gga

variable (g : Gga)

def id : CString := [g.talker.1, g.talker.2, 0x47, 0x47, 0x41]

/-- `S` makes the latitude negative. -/
def latitudeHemi : UInt8 := if g.latitude.negative then 0x53 else 0x4E

/-- `W` makes the longitude negative. -/
def longitudeHemi : UInt8 := if g.longitude.negative then 0x57 else 0x45

def fields : List CString :=
  [g.id, g.time, g.latitude.text, [g.latitudeHemi], g.longitude.text, [g.longitudeHemi],
    g.quality, g.satellites, g.accuracy, g.altitude.text, [0x4D]] ++ g.more

end Gga

/-- The sentence is well formed and says `g`. -/
structure Says (sentence : CString) (g : Gga) : Prop where
  no_nul : 0 ∉ sentence
  fits : sentence.length ≤ NMEA_MAX_SIZE
  fields : sentenceFields sentence = g.fields

/-- The fix has the position and the altitude of the sentence. -/
structure Shows (fix : GpsLocation ℚ) (g : Gga) : Prop where
  hasLatLong : fix.flags &&& GPS_LOCATION_HAS_LAT_LONG ≠ 0
  latitude : fix.latitude = g.latitude.value
  longitude : fix.longitude = g.longitude.value
  hasAltitude : fix.flags &&& GPS_LOCATION_HAS_ALTITUDE ≠ 0
  altitude : fix.altitude = g.altitude.value

/-- The fix of a sentence: what was handed to the callback, or what is kept until there is one. -/
structure Gives (s s' : Session ℚ) (fix : GpsLocation ℚ) : Prop where
  handed : s.reader.callback = true → s'.fixes = s.fixes ++ [fix]
  kept : s.reader.callback = false → s'.fixes = s.fixes ∧ s'.reader.fix = fix

/-- The sentence is parsed and its fix shows what it says. -/
def ShowsGga (mktime : Tm → Int) (now : Nat) (s : Session ℚ) (g : Gga) : Prop :=
  (s.nmea_reader_parse mktime now).crashed = false ∧
    ∃ fix, Gives s (s.nmea_reader_parse mktime now) fix ∧ Shows fix g

/-- The sentence is in the buffer of a reader whose process is alive. -/
structure Holding (s : Session ℚ) (sentence : CString) : Prop where
  alive : s.crashed = false
  pos : s.reader.pos = sentence.length
  buffer : ∃ behind, s.reader.in' = sentence ++ behind

/-! ## The tokens -/

variable {s : Session ℚ} {sentence : CString} {g : Gga}

theorem Coordinate.text_ne_nil {width : Nat} (c : Coordinate width) : c.text ≠ [] :=
  List.append_ne_nil_of_left_ne_nil c.degrees.nonempty _

theorem Altitude.text_ne_nil (a : Altitude) : a.text ≠ [] :=
  List.append_ne_nil_of_right_ne_nil _
    (List.append_ne_nil_of_left_ne_nil a.whole.nonempty _)

/-- The first eleven fields are not empty, so they are at their places. -/
theorem Gga.compact_fields (g : Gga) :
    compact g.fields =
      [g.id, g.time, g.latitude.text, [g.latitudeHemi], g.longitude.text, [g.longitudeHemi],
        g.quality, g.satellites, g.accuracy, g.altitude.text, [0x4D]] ++ compact g.more := by
  have htime := g.present g.time (by simp)
  have hquality := g.present g.quality (by simp)
  have hsatellites := g.present g.satellites (by simp)
  have haccuracy := g.present g.accuracy (by simp)
  rw [Gga.fields, compact_append]
  congr 1
  simp [compact, Gga.id, htime, hquality, hsatellites, haccuracy, g.latitude.text_ne_nil,
    g.longitude.text_ne_nil, g.altitude.text_ne_nil]

section Tokens

variable (hs : Holding s sentence) (h : Says sentence g)
include hs h

theorem tzer_holds {i : Nat} (hi : i < MAX_NMEA_TOKENS) {text : CString}
    (htext : (compact g.fields)[i]? = some text) :
    (nmea_tokenizer_get s.tzer i).Holds text := by
  obtain ⟨behind, hbuffer⟩ := hs.buffer
  have hholds := get_holds h.no_nul behind hi
  rw [h.fields, List.getD_eq_getElem?_getD, htext, ← hbuffer, ← hs.pos] at hholds
  exact hholds

/-- The tokens that the sentence fills. -/
theorem fill_holds :
    let t := s.tokens.fill s.tzer .GGA
    t.fixStatus.Holds g.latitude.text ∧ t.latitude.Holds [g.latitudeHemi] ∧
      t.latitudeHemi.Holds g.longitude.text ∧ t.longitudeHemi.Holds g.quality ∧
        t.accuracy.Holds g.accuracy ∧ t.altitude.Holds g.altitude.text := by
  have hat := fun (i : Nat) (hi : i < MAX_NMEA_TOKENS) (text : CString)
    (htext : (compact g.fields)[i]? = some text) => tzer_holds hs h hi htext
  rw [g.compact_fields] at hat
  exact ⟨hat 2 (by decide) _ rfl, hat 3 (by decide) _ rfl, hat 4 (by decide) _ rfl,
    hat 6 (by decide) _ rfl, hat 8 (by decide) _ rfl, hat 9 (by decide) _ rfl⟩

theorem id_holds : (nmea_tokenizer_get s.tzer 0).Holds g.id := by
  apply tzer_holds hs h (by decide)
  rw [g.compact_fields]
  rfl

theorem sentenceType_gga : s.sentenceType = .GGA := by
  obtain ⟨behind, hp⟩ := (id_holds hs h).p
  rw [Session.sentenceType, Gps.sentenceType, hp]
  rfl

theorem longEnough_gga : s.LongEnough := by
  have hbody : (sentenceBody sentence).length ≤ sentence.length := by
    have hprefix := (dropChecksum_isInitial (dropLineEnd (dropDollar sentence))).trans
      (dropLineEnd_isInitial (dropDollar sentence))
    refine hprefix.length_le.trans ?_
    unfold dropDollar
    split
    · rw [List.length_tail]
      exact Nat.sub_le _ _
    · exact Nat.le_refl _
  have hjoin : join g.fields = sentenceBody sentence := by
    rw [← h.fields]
    exact join_splitOn _
  have hlong : 9 ≤ (join g.fields).length := by
    change 9 ≤ (g.id ++ 0x2C :: (g.time ++ 0x2C :: (g.latitude.text ++ 0x2C ::
      ([g.latitudeHemi] ++ 0x2C :: join _)))).length
    simp only [List.length_append, List.length_cons, List.length_nil, Gga.id]
    omega
  refine ⟨?_, ?_⟩
  · rw [hs.pos]
    rw [hjoin] at hlong
    exact hlong.trans hbody
  · rw [(id_holds hs h).length]
    exact Nat.le_refl 5

end Tokens

/-! ## What the reader makes of them -/

/-- The latitude is where a status would be, and begins with a digit. -/
theorem latitude_first {width : Nat} (c : Coordinate width) :
    ∃ first rest, c.text = first :: rest ∧ first ≠ 0x41 := by
  obtain ⟨first, rest, hdigits⟩ := List.exists_cons_of_ne_nil c.degrees.nonempty
  refine ⟨first, rest ++ (c.minutes.digits ++ 0x2E :: c.fraction.digits), ?_, ?_⟩
  · rw [Coordinate.text, hdigits]
    rfl
  · rintro rfl
    have hdigit := c.degrees.isdigit 0x41 (by rw [hdigits]; exact List.mem_cons_self)
    exact absurd hdigit (by decide)

theorem strtod_altitude (a : Altitude) : strtod a.text = a.value := by
  unfold Altitude.text Altitude.value
  cases hfraction : a.fraction with
  | none =>
      rw [List.append_nil, strtod_integer a.negative a.whole.nonempty a.whole.isdigit, add_zero]
  | some digits =>
      exact strtod_fixed a.negative a.whole.nonempty a.whole.isdigit (a.isdigit digits hfraction)

/-- The altitude is read, unless it has 16 bytes. -/
theorem floatOf_altitude {tok : Token} {a : Altitude} (htok : tok.Holds a.text)
    (hnul : 0 ∉ a.text) :
    (floatOf tok : ℚ) = if a.text.length < 16 then a.value else 0 := by
  have hcstring : cstring a.text = a.text := by
    rw [cstring, List.takeWhile_eq_self_iff]
    intro c hc
    have hne : c ≠ 0 := by
      rintro rfl
      exact hnul hc
    simpa using hne
  unfold floatOf str2float
  rw [htok.bytesFrom (Nat.zero_le _), List.drop_zero, htok.length, hcstring]
  -- `str2float` has a buffer of 16 bytes
  by_cases hshort : a.text.length < 16
  · rw [if_neg (Nat.not_le.mpr hshort), if_pos hshort]
    exact strtod_altitude a
  · rw [if_pos (Nat.not_lt.mp hshort), if_neg hshort]
    rfl

/-- What the sentence changes of the position and the altitude: the altitude only. -/
structure Applied (r r' : NmeaReader ℚ) (g : Gga) : Prop where
  flags : r'.fix.flags =
    r.fix.flags ||| (GPS_LOCATION_HAS_ALTITUDE ||| GPS_LOCATION_HAS_ACCURACY)
  latitude : r'.fix.latitude = r.fix.latitude
  longitude : r'.fix.longitude = r.fix.longitude
  altitude : r'.fix.altitude = if g.altitude.text.length < 16 then g.altitude.value else 0
  callback : r'.callback = r.callback

theorem gga_applied (hs : Holding s sentence) (h : Says sentence g) (mktime : Tm → Int) (now : Nat)
    (latitudeHemi longitudeHemi : UInt8) :
    Applied s.reader (s.reader.applied mktime now (s.tokens.fill s.tzer .GGA) latitudeHemi
      longitudeHemi) g := by
  obtain ⟨hstatus, hlatitude, -, -, haccuracy, haltitude⟩ := fill_holds hs h
  have hframing := framing_applied mktime now s.reader (s.tokens.fill s.tzer .GGA) latitudeHemi
    longitudeHemi
  generalize s.tokens.fill s.tzer .GGA = t at hstatus hlatitude haccuracy haltitude hframing
  -- the letter of the hemisphere is where the latitude would be, and the latitude the status
  have hlatlong : t.hasLatLong = false := by
    rw [t_all_tokens.hasLatLong, hlatitude.length]
    simp
  have hactive : t.active = false := by
    obtain ⟨first, rest, htext, hfirst⟩ := latitude_first g.latitude
    rw [t_all_tokens.active, hstatus.first htext]
    simp [hfirst]
  have hhasAltitude : t.hasAltitude = true := by
    rw [t_all_tokens.hasAltitude, haltitude.init, haltitude.length]
    simpa using g.altitude.text_ne_nil
  have hbearing : t.hasBearing = false := by rw [t_all_tokens.hasBearing, hactive, Bool.false_and]
  have hspeed : t.hasSpeed = false := by rw [t_all_tokens.hasSpeed, hactive, Bool.false_and]
  have hnul : 0 ∉ g.altitude.text := by
    have hmem : g.altitude.text ∈ sentenceFields sentence := by
      rw [h.fields, Gga.fields]
      simp
    exact fun hzero => (isField_of_mem_splitOn (not_mem_sentenceBody h.no_nul) hmem 0 hzero).2 rfl
  constructor
  · change s.reader.fix.flags ||| t.flags = _
    rw [t_all_tokens.flags, hlatlong, hhasAltitude, haccuracy.init, hbearing, hspeed]
    simp
  · change (if t.hasLatLong then _ else _) = _
    rw [hlatlong]
    rfl
  · change (if t.hasLatLong then _ else _) = _
    rw [hlatlong]
    rfl
  · change (if t.hasAltitude then (floatOf t.altitude : ℚ) else _) = _
    rw [hhasAltitude, if_pos rfl, floatOf_altitude haltitude hnul]
  · exact congrArg (·.2.2.2.1) hframing

/-- The position of the sentence was in the fix before, and the altitude is short enough. -/
structure ShownBefore (fix : GpsLocation ℚ) (g : Gga) : Prop where
  hasLatLong : fix.flags &&& GPS_LOCATION_HAS_LAT_LONG ≠ 0
  latitude : fix.latitude = g.latitude.value
  longitude : fix.longitude = g.longitude.value
  altitude : g.altitude.text.length < 16 ∨ g.altitude.value = 0

/-- A flag is set in a union when it is set in one of the two. -/
theorem hasFlag_or_iff (a b mask : UInt16) :
    (a ||| b) &&& mask ≠ 0 ↔ a &&& mask ≠ 0 ∨ b &&& mask ≠ 0 := by
  have hdistrib : (a ||| b) &&& mask = (a &&& mask) ||| (b &&& mask) := by
    rw [← UInt16.toBitVec_inj]
    exact BitVec.and_or_distrib_right
  rw [hdistrib, ne_eq, UInt16.or_eq_zero_iff, not_and_or]

theorem Applied.shows_iff {r r' : NmeaReader ℚ} (happlied : Applied r r' g) :
    Shows r'.fix g ↔ ShownBefore r.fix g := by
  have haltitude : (if g.altitude.text.length < 16 then g.altitude.value else 0) =
      g.altitude.value ↔ g.altitude.text.length < 16 ∨ g.altitude.value = 0 := by
    by_cases hshort : g.altitude.text.length < 16
    · rw [if_pos hshort]
      exact iff_of_true rfl (.inl hshort)
    · rw [if_neg hshort, or_iff_right hshort, eq_comm]
  -- the flags that the sentence sets have no position among them
  have hposition : ¬(GPS_LOCATION_HAS_ALTITUDE ||| GPS_LOCATION_HAS_ACCURACY) &&&
      GPS_LOCATION_HAS_LAT_LONG ≠ 0 := by decide
  constructor
  · intro h
    refine ⟨?_, happlied.latitude ▸ h.latitude, happlied.longitude ▸ h.longitude, ?_⟩
    · have hflag := h.hasLatLong
      rw [happlied.flags, hasFlag_or_iff] at hflag
      exact hflag.resolve_right hposition
    · exact haltitude.mp (happlied.altitude ▸ h.altitude)
  · intro h
    refine ⟨?_, happlied.latitude.trans h.latitude, happlied.longitude.trans h.longitude, ?_,
      happlied.altitude.trans (haltitude.mpr h.altitude)⟩
    · rw [happlied.flags, hasFlag_or_iff]
      exact .inl h.hasLatLong
    · rw [happlied.flags, hasFlag_or_iff]
      exact .inr (by decide)

/-! ## The sentence -/

/-- The fix that a report gives. -/
theorem gives_report {s : Session ℚ} {tokens : t_all_tokens} {r : NmeaReader ℚ}
    (hflags : r.fix.flags ≠ 0) (hcallback : r.callback = s.reader.callback)
    (fix : GpsLocation ℚ) :
    Gives s (Session.report { s with tokens, reader := r }) fix ↔ fix = r.fix := by
  unfold Session.report NmeaReader.report
  cases hcb : s.reader.callback with
  | true =>
      rw [hcb] at hcallback
      simp only [hcallback, Bool.and_true, ne_eq, hflags, not_false_eq_true, decide_true, if_true]
      constructor
      · intro h
        simpa [eq_comm] using h.handed hcb
      · rintro rfl
        exact ⟨fun _ => rfl, fun hno => absurd (hcb.symm.trans hno) (by decide)⟩
  | false =>
      rw [hcb] at hcallback
      simp only [hcallback, Bool.and_false, Bool.false_eq_true, if_false, List.append_nil]
      constructor
      · intro h
        exact (h.kept hcb).2.symm
      · rintro rfl
        exact ⟨fun hyes => absurd (hcb.symm.trans hyes) (by decide), fun _ => ⟨rfl, rfl⟩⟩

/-- The fix of a GGA sentence shows what the sentence says just when the position was in the fix
before, and the altitude is short enough. -/
theorem showsGga_iff (mktime : Tm → Int) (now : Nat) (hs : Holding s sentence)
    (h : Says sentence g) : ShowsGga mktime now s g ↔ ShownBefore s.reader.fix g := by
  obtain ⟨-, -, hlatitudeHemi, hlongitudeHemi, -, -⟩ := fill_holds hs h
  obtain ⟨lat, latRest, hlat⟩ := List.exists_cons_of_ne_nil g.longitude.text_ne_nil
  obtain ⟨lon, lonRest, hlon⟩ := List.exists_cons_of_ne_nil (g.present g.quality (by simp))
  have happlied := gga_applied hs h mktime now lat lon
  have hflags : (s.reader.applied mktime now (s.tokens.fill s.tzer .GGA) lat lon).fix.flags ≠ 0 := by
    rw [happlied.flags, ne_eq, UInt16.or_eq_zero_iff]
    exact fun hzero => absurd hzero.2 (by decide)
  have hparse : s.nmea_reader_parse mktime now =
      Session.report
        { s with
          tokens := s.tokens.fill s.tzer .GGA
          reader := s.reader.applied mktime now (s.tokens.fill s.tzer .GGA) lat lon } := by
    rcases Session.parse_eq mktime now s with ⟨-, hparse⟩ | ⟨hshort, -⟩
    · rw [hparse, sentenceType_gga hs h,
        update_eq _ _ (hlatitudeHemi.first hlat) (hlongitudeHemi.first hlon)]
    · exact absurd (longEnough_gga hs h) hshort
  unfold ShowsGga
  rw [hparse, ← happlied.shows_iff]
  constructor
  · rintro ⟨-, fix, hgives, hshows⟩
    rw [gives_report hflags happlied.callback] at hgives
    exact hgives ▸ hshows
  · intro hshows
    exact ⟨hs.alive, _, (gives_report hflags happlied.callback _).mpr rfl, hshows⟩

/-! ## A sentence

`$GPGGA,1,4807.038,N,01131.000,E,1,8,1,545.4,M` with its line end: the reader has no position, or
the right one by chance. -/

namespace Munich

def numeral (digits : CString) (hne : digits ≠ []) (h : digits.all CString.isdigit = true) :
    Numeral := ⟨digits, hne, List.all_eq_true.mp h⟩

/-- 48 degrees and 7.038 minutes north, 11 degrees and 31 minutes east, at 545.4 metres. -/
def said : Gga where
  talker := (0x47, 0x50)
  time := [0x31]
  latitude := ⟨numeral [0x34, 0x38] nofun rfl, numeral [0x30, 0x37] nofun rfl,
    numeral [0x30, 0x33, 0x38] nofun rfl, false, rfl, rfl⟩
  longitude := ⟨numeral [0x30, 0x31, 0x31] nofun rfl, numeral [0x33, 0x31] nofun rfl,
    numeral [0x30, 0x30, 0x30] nofun rfl, false, rfl, rfl⟩
  quality := [0x31]
  satellites := [0x38]
  accuracy := [0x31]
  altitude := ⟨false, numeral [0x35, 0x34, 0x35] nofun rfl, some [0x34], by
    rintro digits ⟨⟩
    exact List.all_eq_true.mp rfl⟩
  more := []
  present := by decide

def written : CString := 0x24 :: (join said.fields ++ [0x0A])

theorem written_spec : Says written said := ⟨by decide, by decide, by decide⟩

/-- The sentence is in the buffer of a reader with a callback. -/
def session (fix : GpsLocation ℚ) : Session ℚ where
  reader := { (NmeaReader.init 0 : NmeaReader ℚ) with
    pos := written.length, in' := written, fix, callback := true }
  tokens := .zero
  handed := []
  fixes := []
  crashed := false

theorem holding (fix : GpsLocation ℚ) : Holding (session fix) written :=
  ⟨rfl, rfl, [], (List.append_nil _).symm⟩

/-- A fix with the position. -/
def there : GpsLocation ℚ :=
  ⟨GPS_LOCATION_HAS_LAT_LONG, said.latitude.value, said.longitude.value, 0, 0, 0, 0, 0⟩

/-- A fix of zeros. -/
def nowhere : GpsLocation ℚ := ⟨0, 0, 0, 0, 0, 0, 0, 0⟩

end Munich

theorem showsGga_there : ShowsGga (fun _ => 0) 0 (Munich.session Munich.there) Munich.said :=
  (showsGga_iff (fun _ => 0) 0 (Munich.holding Munich.there) Munich.written_spec).mpr
    ⟨by decide, rfl, rfl, .inl (by decide)⟩

/-- A reader that has no position has none after the sentence. -/
theorem not_showsGga : ∃ (mktime : Tm → Int) (now : Nat) (s : Session ℚ) (sentence : CString)
    (g : Gga), Holding s sentence ∧ Says sentence g ∧ s.reader.callback = true ∧
      ¬ShowsGga mktime now s g := by
  refine ⟨fun _ => 0, 0, Munich.session Munich.nowhere, Munich.written, Munich.said,
    Munich.holding _, Munich.written_spec, rfl, ?_⟩
  rintro ⟨-, fix, hgives, hshows⟩
  have hparsed : ((Munich.session Munich.nowhere).nmea_reader_parse (fun _ => 0) 0).fixes =
      [fix] := hgives.handed rfl
  have hflags : ((Munich.session Munich.nowhere).nmea_reader_parse (fun _ => 0) 0).fixes.map
      (·.flags) = [GPS_LOCATION_HAS_ALTITUDE ||| GPS_LOCATION_HAS_ACCURACY] := by
    decide +kernel
  rw [hparsed] at hflags
  have hfix : fix.flags = GPS_LOCATION_HAS_ALTITUDE ||| GPS_LOCATION_HAS_ACCURACY :=
    List.head_eq_of_cons_eq hflags
  have hflag := hshows.hasLatLong
  rw [hfix] at hflag
  revert hflag
  decide

end Gps
end DeviceAndroVM
