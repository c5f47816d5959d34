import DeviceAndroVM.Gps.Updates
import DeviceAndroVM.Library.Transition

/-!
# Sentences of other types

The updates of the fix run for every type of sentence, from the tokens of the sentences
before.  A sentence that fills no token therefore applies the old tokens once more.  That
changes no value, but it sets the flags of the fix again, so that the fix is delivered once
more; and before the first GGA or RMC sentence it dereferences a `NULL` pointer.

* `Absorbed` — the reader has the values of the tokens; `absorbed_applied` and
  `applied_of_absorbed` say that the updates make it so and then change flags only.
* `Session.OtherIgnored`, `Session.NothingToApply` — the property of a step, and the
  condition on the state before it.
* `other_sentences_iff` — over every run, the one holds exactly when the other does.
-/

namespace DeviceAndroVM
namespace Gps

open Library

variable {F : Type} [CDouble F] {mktime : Tm → Int}

/-- The reader has the values of the tokens. -/
structure Absorbed (mktime : Tm → Int) (r : NmeaReader F) (t : t_all_tokens) : Prop where
  year : t.timed = true → 0 ≤ r.utc_year
  date : ∀ date, t.newDate = some date → date = (r.utc_year, r.utc_mon, r.utc_day)
  timestamp : t.timed = true → r.fix.timestamp = r.timestampOf mktime t
  latitude : t.hasLatLong = true → ∀ hemi, t.latitudeHemi.first = some hemi →
    r.fix.latitude = t_all_tokens.coordinate t.latitude hemi 0x53
  longitude : t.hasLatLong = true → ∀ hemi, t.longitudeHemi.first = some hemi →
    r.fix.longitude = t_all_tokens.coordinate t.longitude hemi 0x57
  altitude : t.hasAltitude = true → r.fix.altitude = floatOf t.altitude
  speed : t.hasSpeed = true → r.fix.speed = floatOf t.speed
  bearing : t.hasBearing = true → r.fix.bearing = floatOf t.bearing
  accuracy : t.accuracy.init = true → r.fix.accuracy = t.accuracyValue

section updates

variable {now : Nat} {r : NmeaReader F} {t : t_all_tokens} {latitudeHemi longitudeHemi : UInt8}

omit [CDouble F] in
theorem withDate_year_nonneg : 0 ≤ (r.withDate now).utc_year := by
  unfold NmeaReader.withDate
  split
  · have hyear := (Calendar.gmtime_spec now).2.2.2.1
    change 0 ≤ (Calendar.gmtime now).tm_year + 1900
    omega
  · omega

/-- The updates give the reader the values of the tokens. -/
theorem absorbed_applied (hlatitude : t.latitudeHemi.first = some latitudeHemi)
    (hlongitude : t.longitudeHemi.first = some longitudeHemi) :
    Absorbed mktime (r.applied mktime now t latitudeHemi longitudeHemi) t where
  year htimed := by
    change 0 ≤ (r.dated now t).utc_year
    unfold NmeaReader.dated
    split
    · rename_i hnew
      unfold t_all_tokens.newDate at hnew
      split at hnew
      · exact year_nonneg_of_date hnew
      · cases hnew
    · rw [if_pos htimed]
      exact withDate_year_nonneg
  date date hnew := by
    change date = ((r.dated now t).utc_year, (r.dated now t).utc_mon, (r.dated now t).utc_day)
    unfold NmeaReader.dated
    rw [hnew]
  timestamp htimed := by
    change (if t.timed = true then NmeaReader.timestampOf mktime (r.dated now t) t else _) = _
    rw [if_pos htimed]
    unfold NmeaReader.timestampOf
    have hdiff : (r.dated now t).utc_diff = (r.applied mktime now t latitudeHemi longitudeHemi).utc_diff :=
      rfl
    rw [hdiff]
    rfl
  latitude hlatlong hemi hhemi := by
    rw [← Option.some.inj (hlatitude.symm.trans hhemi)]
    exact if_pos hlatlong
  longitude hlatlong hemi hhemi := by
    rw [← Option.some.inj (hlongitude.symm.trans hhemi)]
    exact if_pos hlatlong
  altitude haltitude := if_pos haltitude
  speed hspeed := if_pos hspeed
  bearing hbearing := if_pos hbearing
  accuracy haccuracy := if_pos haccuracy

theorem dated_of_absorbed (h : Absorbed mktime r t) : r.dated now t = r := by
  unfold NmeaReader.dated
  split
  · rename_i year mon day hnew
    have hdate := h.date _ hnew
    obtain ⟨rfl, rfl, rfl⟩ : year = r.utc_year ∧ mon = r.utc_mon ∧ day = r.utc_day := by
      simpa using hdate
    rfl
  · split
    · rename_i htimed
      have hyear := h.year htimed
      unfold NmeaReader.withDate
      rw [if_neg (by omega)]
    · rfl

/-- Applied once more, the tokens change the flags only. -/
theorem applied_of_absorbed (h : Absorbed mktime r t)
    (hlatitude : t.latitudeHemi.first = some latitudeHemi)
    (hlongitude : t.longitudeHemi.first = some longitudeHemi) :
    r.applied mktime now t latitudeHemi longitudeHemi = r.setFlags t.flags := by
  have hkeep : ∀ {α : Type} {cond : Bool} {new old : α}, (cond = true → old = new) →
      (if cond then new else old) = old := by
    intro α cond new old hcond
    split
    · rename_i htrue
      exact (hcond htrue).symm
    · rfl
  unfold NmeaReader.applied
  rw [dated_of_absorbed h, hkeep h.timestamp, hkeep fun hlatlong => h.latitude hlatlong _ hlatitude,
    hkeep fun hlatlong => h.longitude hlatlong _ hlongitude, hkeep h.altitude, hkeep h.speed,
    hkeep h.bearing, hkeep h.accuracy]
  rfl

theorem absorbed_values_iff : Absorbed mktime r.values t ↔ Absorbed mktime r t where
  mp h := ⟨h.year, h.date, h.timestamp, h.latitude, h.longitude, h.altitude, h.speed, h.bearing,
    h.accuracy⟩
  mpr h := ⟨h.year, h.date, h.timestamp, h.latitude, h.longitude, h.altitude, h.speed, h.bearing,
    h.accuracy⟩

theorem Absorbed.congr (h : Absorbed mktime r t) {r' : NmeaReader F}
    (hvalues : r'.values = r.values) : Absorbed mktime r' t := by
  rw [← absorbed_values_iff, hvalues, absorbed_values_iff]
  exact h

end updates

/-! ## Sentences and steps -/

namespace t_all_tokens

/-- A GGA or an RMC sentence has filled the tokens of the hemispheres. -/
def filled (t : t_all_tokens) : Bool := t.latitudeHemi.p.isSome && t.longitudeHemi.p.isSome

theorem exists_first_of_filled {t : t_all_tokens} (h : t.filled = true) :
    ∃ latitudeHemi longitudeHemi, t.latitudeHemi.first = some latitudeHemi ∧
      t.longitudeHemi.first = some longitudeHemi := by
  unfold filled at h
  unfold Token.first
  obtain ⟨hlatitude, hlongitude⟩ := Bool.and_eq_true_iff.mp h
  obtain ⟨latitude, hlatitude⟩ := Option.isSome_iff_exists.mp hlatitude
  obtain ⟨longitude, hlongitude⟩ := Option.isSome_iff_exists.mp hlongitude
  exact ⟨latitude.headD 0, longitude.headD 0, by rw [hlatitude]; rfl, by rw [hlongitude]; rfl⟩

end t_all_tokens

/-- The updates of tokens that are not filled dereference a `NULL` pointer. -/
theorem update_of_not_filled {now : Nat} {r : NmeaReader F} {t : t_all_tokens}
    (h : t.filled = false) : nmea_reader_update mktime now r t = none := by
  unfold nmea_reader_update Token.first
  unfold t_all_tokens.filled at h
  cases hlatitude : t.latitudeHemi.p with
  | none => rfl
  | some latitude =>
      cases hlongitude : t.longitudeHemi.p with
      | none => rfl
      | some longitude =>
          rw [hlatitude, hlongitude] at h
          cases h

/-- The tokenizer makes tokens that are filled. -/
theorem isSome_tokenizeLoop {turns : Nat} {s : List UInt8} {left : Nat} {tokens : List Token}
    (h : ∀ tok ∈ tokens, tok.p.isSome) : ∀ tok ∈ tokenizeLoop turns s left tokens, tok.p.isSome := by
  induction turns generalizing s left tokens with
  | zero => exact h
  | succ turns ih =>
      unfold tokenizeLoop
      split
      · exact h
      · apply ih
        split
        · intro tok hmem
          rcases List.mem_append.mp hmem with hmem | hmem
          · exact h tok hmem
          · rw [List.mem_singleton.mp hmem]
            rfl
        · exact h

theorem isSome_tokenizer_get (buffer : List UInt8) (pos index : Nat) :
    (nmea_tokenizer_get (nmea_tokenizer_init buffer pos) index).p.isSome := by
  unfold nmea_tokenizer_get
  split
  · rfl
  · rename_i tok hget
    exact isSome_tokenizeLoop (fun tok (hmem : tok ∈ []) => nomatch hmem) tok (List.mem_of_getElem? hget)

namespace Session

/-- The session with the sentence that a byte completes. -/
def sentence (s : Session F) (c : UInt8) : Session F :=
  { s with
    reader := s.reader.store c
    handed := s.handed ++ [(s.reader.store c).in'.take (s.reader.store c).pos] }

/-- The byte completes a sentence. -/
def Completes (s : Session F) (c : UInt8) : Prop :=
  s.reader.overflow = false ∧ s.reader.pos < NMEA_MAX_SIZE ∧ c = 0x0A

/-- The sentence is neither GGA nor RMC. -/
def IsOther (s : Session F) : Prop := s.sentenceType ≠ .GGA ∧ s.sentenceType ≠ .RMC

/-- The step does not dereference a `NULL` pointer, and a sentence of another type leaves the
reader with its fix and its date as they are and delivers nothing. -/
def OtherIgnored (s : Session F) : Input → Session F → Prop
  | .byte _ c, s' =>
      s'.crashed = false ∧
        (s.Completes c → (s.sentence c).IsOther →
          s'.reader = { s.reader.store c with pos := 0 } ∧ s'.fixes = s.fixes)
  | .callback _, s' => s'.crashed = false

/-- No flag is set, where there is a callback, and no token sets another flag. -/
def Quiet (s : Session F) : Prop :=
  s.reader.fix.flags ||| s.tokens.flags = if s.reader.callback then 0 else s.reader.fix.flags

/-- A sentence of another type, which is not too short, comes behind a sentence that has
filled the tokens, and finds nothing to apply. -/
def NothingToApply (s : Session F) : Input → Prop
  | .byte _ c =>
      s.Completes c → (s.sentence c).IsOther → (s.sentence c).LongEnough →
        s.tokens.filled = true ∧ s.Quiet
  | .callback _ => True

instance (s : Session F) (c : UInt8) : Decidable (s.Completes c) :=
  inferInstanceAs (Decidable (_ ∧ _ ∧ _))

instance (s : Session F) : Decidable s.IsOther := inferInstanceAs (Decidable (_ ∧ _))

instance (s : Session F) : Decidable s.LongEnough := inferInstanceAs (Decidable (_ ∧ _))

instance (s : Session F) : Decidable s.Quiet := inferInstanceAs (Decidable (_ = _))

instance [DecidableEq F] (s : Session F) :
    ∀ (input : Input) (s' : Session F), Decidable (s.OtherIgnored input s')
  | .byte _ _, _ => inferInstanceAs (Decidable (_ ∧ (_ → _ → _ ∧ _)))
  | .callback _, _ => inferInstanceAs (Decidable (_ = _))

instance (s : Session F) : ∀ input : Input, Decidable (s.NothingToApply input)
  | .byte _ _ => inferInstanceAs (Decidable (_ → _ → _ → _ ∧ _))
  | .callback _ => isTrue trivial

/-- The invariant: tokens that are filled have been applied. -/
def TokensApplied (mktime : Tm → Int) (s : Session F) : Prop :=
  s.tokens.filled = true → Absorbed mktime s.reader s.tokens

theorem tokensApplied_opened (utc_diff : Int) :
    TokensApplied mktime (opened utc_diff : Session F) := nofun

theorem TokensApplied.congr {s s' : Session F} (h : s.TokensApplied mktime)
    (htokens : s'.tokens = s.tokens) (hvalues : s'.reader.values = s.reader.values) :
    s'.TokensApplied mktime := by
  intro hfilled
  rw [htokens] at hfilled ⊢
  exact (h hfilled).congr hvalues

/-- What a byte does: it is put away, or it completes a sentence. -/
theorem addc_cases (mktime : Tm → Int) (now : Nat) (s : Session F) (c : UInt8) :
    (s.Completes c ∧ s.nmea_reader_addc mktime now c =
        { (s.sentence c).nmea_reader_parse mktime now with
          reader := { ((s.sentence c).nmea_reader_parse mktime now).reader with pos := 0 } }) ∨
      (¬s.Completes c ∧ ∃ r, s.nmea_reader_addc mktime now c = { s with reader := r } ∧
        r.values = s.reader.values) := by
  unfold nmea_reader_addc Completes
  dsimp only
  split
  · rename_i hover
    exact Or.inr ⟨fun h => by simp [hover] at h, _, rfl, rfl⟩
  · rename_i hover
    split
    · exact Or.inr ⟨fun h => by omega, _, rfl, rfl⟩
    · split
      · rename_i hroom hc
        exact Or.inl ⟨⟨by simpa using hover, by omega, hc⟩, rfl⟩
      · rename_i hroom hc
        exact Or.inr ⟨fun h => hc h.2.2, _, rfl, rfl⟩

omit [CDouble F] in
/-- A GGA or an RMC sentence fills the tokens of the hemispheres. -/
theorem filled_fill (t : t_all_tokens) (s : Session F) {type : SentenceType}
    (h : type = .GGA ∨ type = .RMC) : (t.fill s.tzer type).filled = true := by
  have hget := isSome_tokenizer_get s.reader.in' s.reader.pos
  unfold t_all_tokens.filled
  rcases h with rfl | rfl
  · exact Bool.and_eq_true_iff.mpr ⟨hget 4, hget 6⟩
  · exact Bool.and_eq_true_iff.mpr ⟨hget 4, hget 6⟩

theorem fill_of_other (t : t_all_tokens) (tzer : List Token) {type : SentenceType}
    (h : type ≠ .GGA ∧ type ≠ .RMC) : t.fill tzer type = t := by
  cases type with
  | GGA => exact absurd rfl h.1
  | RMC => exact absurd rfl h.2
  | GSA => rfl
  | unknown => rfl

/-- After a sentence, tokens that are filled have been applied. -/
theorem tokensApplied_parse {now : Nat} {s : Session F} (h : s.TokensApplied mktime) :
    (s.nmea_reader_parse mktime now).TokensApplied mktime := by
  rcases s.parse_eq mktime now with ⟨-, hparse⟩ | ⟨-, hparse⟩
  · rw [hparse]
    intro hfilled
    cases hfill : (s.tokens.fill s.tzer s.sentenceType).filled with
    | false =>
        rw [update_of_not_filled hfill] at hfilled
        exact absurd (hfilled.symm.trans hfill) (by decide)
    | true =>
        obtain ⟨_, _, hlatitude, hlongitude⟩ := t_all_tokens.exists_first_of_filled hfill
        rw [update_eq _ _ hlatitude hlongitude]
        exact (absorbed_applied hlatitude hlongitude).congr (values_report _)
  · rw [hparse]
    exact h

/-- One event keeps the invariant. -/
theorem tokensApplied_step {s s' : Session F} {input : Input} (h : s.TokensApplied mktime)
    (hstep : s.step mktime input = some s') : s'.TokensApplied mktime := by
  unfold step at hstep
  split at hstep
  · cases hstep
  · cases input with
    | callback cb =>
        rw [← Option.some.inj hstep]
        exact h.congr rfl (values_report _)
    | byte now c =>
        rw [← Option.some.inj hstep]
        rcases s.addc_cases mktime now c with ⟨-, haddc⟩ | ⟨-, r, haddc, hvalues⟩
        · rw [haddc]
          have hsentence : (s.sentence c).TokensApplied mktime := h.congr rfl rfl
          exact (tokensApplied_parse hsentence).congr rfl rfl
        · rw [haddc]
          exact h.congr rfl hvalues

omit [CDouble F] in
/-- Tokens that have been applied: the reader stays as it is, and delivers nothing, exactly
when the session is quiet. -/
theorem report_eq_iff (s : Session F) :
    ({ s with reader := s.reader.setFlags s.tokens.flags }.report.reader = s.reader ∧
        { s with reader := s.reader.setFlags s.tokens.flags }.report.fixes = s.fixes) ↔ s.Quiet := by
  have hflags : s.reader.setFlags s.tokens.flags = s.reader ↔
      s.reader.fix.flags ||| s.tokens.flags = s.reader.fix.flags := by
    constructor
    · intro h
      exact congrArg (fun r : NmeaReader F => r.fix.flags) h
    · intro h
      unfold NmeaReader.setFlags
      rw [h]
  unfold report NmeaReader.report Quiet
  change (_ = s.reader ∧ s.fixes ++ _ = s.fixes) ↔ _
  cases hcallback : s.reader.callback with
  | false =>
      rw [if_neg (by simp [NmeaReader.setFlags, hcallback]), List.append_nil, hflags]
      simp
  | true =>
      by_cases hzero : s.reader.fix.flags ||| s.tokens.flags = 0
      · -- nothing to deliver, and no flag was set before
        rw [if_neg (by simp [NmeaReader.setFlags, hzero]), List.append_nil, hflags]
        simp [(UInt16.or_eq_zero_iff.mp hzero).1]
      · rw [if_pos (by simp [NmeaReader.setFlags, hzero, hcallback])]
        simp [hzero]

/-- A sentence of another type. -/
theorem parse_other_iff (now : Nat) {s : Session F} (happlied : s.TokensApplied mktime)
    (halive : s.crashed = false) (hother : s.IsOther) :
    ((s.nmea_reader_parse mktime now).crashed = false ∧
        (s.nmea_reader_parse mktime now).reader = s.reader ∧
        (s.nmea_reader_parse mktime now).fixes = s.fixes) ↔
      (s.LongEnough → s.tokens.filled = true ∧ s.Quiet) := by
  rcases s.parse_eq mktime now with ⟨hlong, hparse⟩ | ⟨hshort, hparse⟩
  · rw [hparse, fill_of_other _ _ hother]
    cases hfilled : s.tokens.filled with
    | false =>
        rw [update_of_not_filled hfilled]
        exact iff_of_false (fun h => Bool.false_ne_true h.1.symm) (fun h => absurd (h hlong).1 (by decide))
    | true =>
        obtain ⟨_, _, hlatitude, hlongitude⟩ := t_all_tokens.exists_first_of_filled hfilled
        rw [update_eq _ _ hlatitude hlongitude,
          applied_of_absorbed (happlied hfilled) hlatitude hlongitude]
        have hreport := s.report_eq_iff
        constructor
        · rintro ⟨-, hsame⟩ -
          exact ⟨rfl, hreport.mp hsame⟩
        · intro h
          exact ⟨halive, hreport.mpr (h hlong).2⟩
  · rw [hparse]
    exact iff_of_true ⟨halive, rfl, rfl⟩ (fun hlong => absurd hlong hshort)

/-- A GGA or an RMC sentence is safe. -/
theorem parse_of_not_other {now : Nat} {s : Session F} (halive : s.crashed = false)
    (h : ¬s.IsOther) : (s.nmea_reader_parse mktime now).crashed = false := by
  have htype : s.sentenceType = .GGA ∨ s.sentenceType = .RMC := by
    unfold IsOther at h
    grind
  rcases s.parse_eq mktime now with ⟨-, hparse⟩ | ⟨-, hparse⟩
  · obtain ⟨_, _, hlatitude, hlongitude⟩ :=
      t_all_tokens.exists_first_of_filled (filled_fill s.tokens s htype)
    rw [hparse, update_eq _ _ hlatitude hlongitude]
    exact halive
  · rw [hparse]
    exact halive

omit [CDouble F] in
theorem reader_eq_iff {r r' : NmeaReader F} (hpos : r.pos = r'.pos) :
    { r with pos := 0 } = { r' with pos := 0 } ↔ r = r' := by
  constructor
  · intro h
    calc
      r = { ({ r with pos := 0 } : NmeaReader F) with pos := r.pos } := rfl
      _ = { ({ r' with pos := 0 } : NmeaReader F) with pos := r'.pos } := by rw [h, hpos]
  · rintro rfl
    rfl

/-- One event: the property holds around it exactly when the condition holds before it. -/
theorem otherIgnored_iff {s s' : Session F} {input : Input} (happlied : s.TokensApplied mktime)
    (hstep : s.step mktime input = some s') : s.OtherIgnored input s' ↔ s.NothingToApply input := by
  unfold step at hstep
  split at hstep
  · cases hstep
  · rename_i halive
    have halive : s.crashed = false := by simpa using halive
    cases input with
    | callback cb =>
        rw [← Option.some.inj hstep]
        exact iff_of_true halive trivial
    | byte now c =>
        rw [← Option.some.inj hstep]
        unfold OtherIgnored NothingToApply
        rcases s.addc_cases mktime now c with ⟨hcompletes, haddc⟩ | ⟨hnot, r, haddc, -⟩
        · have hsentence : (s.sentence c).TokensApplied mktime := happlied.congr rfl rfl
          rw [haddc]
          by_cases hother : (s.sentence c).IsOther
          · have hiff := parse_other_iff now hsentence halive hother
            have hreader : { ((s.sentence c).nmea_reader_parse mktime now).reader with pos := 0 } =
                { s.reader.store c with pos := 0 } ↔
                  ((s.sentence c).nmea_reader_parse mktime now).reader = (s.sentence c).reader :=
              reader_eq_iff (congrArg Prod.fst (framing_parse mktime now (s.sentence c)).1)
            constructor
            · rintro ⟨hcrashed, hsame⟩ - -
              obtain ⟨hsame, hfixes⟩ := hsame hcompletes hother
              exact hiff.mp ⟨hcrashed, hreader.mp hsame, hfixes⟩
            · intro h
              obtain ⟨hcrashed, hsame, hfixes⟩ := hiff.mpr (h hcompletes hother)
              exact ⟨hcrashed, fun _ _ => ⟨hreader.mpr hsame, hfixes⟩⟩
          · exact iff_of_true
              ⟨parse_of_not_other halive hother, fun _ h => absurd h hother⟩
              (fun _ h => absurd h hother)
        · rw [haddc]
          exact iff_of_true ⟨halive, fun h => absurd h hnot⟩ (fun h => absurd h hnot)

end Session

/-- Over every run of a module that has just been opened, with the callback set and removed
at any time: a sentence that is neither GGA nor RMC changes nothing, and no token is
dereferenced that has not been filled, exactly when every such sentence that is long enough
comes behind a GGA or an RMC sentence and finds nothing to apply. -/
theorem other_sentences_iff (mktime : Tm → Int) (utc_diff : Int)
    (trace : List (Session.Input × Session F))
    (hrun : Run (fun s input s' => s.step mktime input = some s') (Session.opened utc_diff) trace) :
    EachStep Session.OtherIgnored (Session.opened utc_diff) trace ↔
      EachStep (fun s input _ => s.NothingToApply input) (Session.opened utc_diff) trace :=
  Run.eachStep_iff_eachStep
    (fun s _ _ (happlied : s.TokensApplied mktime) _ hstep => Session.tokensApplied_step happlied hstep)
    (fun _ _ _ happlied hstep => Session.otherIgnored_iff happlied hstep) hrun
    (Session.tokensApplied_opened utc_diff)

/-- An RMC sentence without fields, and a GSA sentence behind it. -/
def emptyThenOther : List Session.Input :=
  .callback true ::
    Session.arriving 0 (CString.ofChars
      ['$', 'G', 'P', 'R', 'M', 'C', ',', ',', ',', '\n', '$', 'G', 'P', 'G', 'S', 'A', ',', 'A', '\n'])

theorem other_sentences_iff_empty_rmc :
    EachStep Session.OtherIgnored (Session.opened 0 : Session ℚ)
      (partialTraceOf (Session.step Calendar.timegm) (Session.opened 0) emptyThenOther) :=
  (other_sentences_iff Calendar.timegm 0 _
    (run_partialTraceOf (Session.step Calendar.timegm) (Session.opened 0) emptyThenOther)).mpr
    (by decide +kernel)

/-- A GSA sentence that comes first dereferences a `NULL` pointer. -/
theorem first_gsa_crashes :
    ¬∀ (mktime : Tm → Int) (utc_diff : Int) (trace : List (Session.Input × Session ℚ)),
      Run (fun s input s' => s.step mktime input = some s') (Session.opened utc_diff) trace →
        EachStep Session.OtherIgnored (Session.opened utc_diff) trace := by
  intro h
  have hall := h Calendar.timegm 0 _
    (run_partialTraceOf (Session.step Calendar.timegm) (Session.opened 0)
      (Session.arriving 0 (CString.ofChars ['$', 'G', 'P', 'G', 'S', 'A', ',', 'A', '\n'])))
  revert hall
  decide +kernel

end Gps
end DeviceAndroVM
