import DeviceAndroVM.Gps.FixRoundTrip

/-!
# Timestamps of the fixes

The time of a fix comes from its sentence, the date from the last RMC sentence.  The GGA
sentence that comes first after midnight therefore puts its time on the day before.

* `Turn` — one turn of the daemon, with the times at which its sentences are read.
* `stamp` — the timestamp of a time of day on a date; `stamp_le_iff_time`,
  `stamp_le_iff_day` compare two of them.
* `stampsFrom` — the timestamps that the turns give, from the date before them.
* `timestamps_iff` — they do not decrease exactly when neither the times of day nor the dates
  of consecutive turns go back.
-/

namespace DeviceAndroVM
namespace Gps

open Library Library.CString

/-- A turn of the daemon; `nowGga` and `nowRmc` are what `time(NULL)` returns while the
sentences are parsed. -/
structure Turn where
  p : Properties
  tv_sec : Nat
  nowGga : Nat
  nowRmc : Nat

namespace Turn

/-- What the reader receives. -/
def written (turn : Turn) : List Session.Input :=
  match emit turn.p turn.tv_sec with
  | none => []
  | some (gga, rmc) => Session.arriving turn.nowGga gga ++ Session.arriving turn.nowRmc rmc

/-- A pair is emitted, and both sentences fit the buffer of the reader. -/
def Read (turn : Turn) : Prop :=
  ∃ gga rmc, emit turn.p turn.tv_sec = some (gga, rmc) ∧ gga.length ≤ NMEA_MAX_SIZE ∧
    rmc.length ≤ NMEA_MAX_SIZE

end Turn

/-- The day of a date. -/
def dayOf (date : Int × Int × Int) : Int :=
  Calendar.dayNumber date.1 (date.2.1 - 1).toNat date.2.2

/-- The current date. -/
def currentDate (now : Nat) : Int × Int × Int :=
  let tm := Calendar.gmtime now
  (tm.tm_year + 1900, tm.tm_mon + 1, tm.tm_mday)

/-- The timestamp of a time of day on a date. -/
def stamp (t : Nat) (date : Int × Int × Int) : Int :=
  Calendar.timegm (timeOn (Calendar.gmtime t) date) * 1000

/-- A date with a month from 1 to 12. -/
def ValidDate (date : Int × Int × Int) : Prop := 1 ≤ date.2.1 ∧ date.2.1 ≤ 12

theorem validDate_currentDate (now : Nat) : ValidDate (currentDate now) := by
  obtain ⟨-, -, -, -, hmon, hmon', -⟩ := Calendar.gmtime_spec now
  unfold ValidDate currentDate
  dsimp only
  omega

theorem validDate_rmcDate (t : Nat) : ValidDate (rmcDate t) := by
  obtain ⟨-, -, -, -, hmon, hmon', -⟩ := Calendar.gmtime_spec t
  unfold ValidDate rmcDate
  dsimp only
  omega

/-- Days and the seconds of the day. -/
theorem stamp_eq (t : Nat) {date : Int × Int × Int} (hdate : ValidDate date) :
    stamp t date = (86400 * dayOf date + (t % 86400 : Nat)) * 1000 := by
  obtain ⟨hsec, hmin, hhour, -⟩ := Calendar.gmtime_spec t
  unfold ValidDate at hdate
  have hquot : (date.2.1 - 1) / 12 = 0 := by omega
  have hrem : (date.2.1 - 1) % 12 = date.2.1 - 1 := by omega
  have hyear : date.1 - 1900 + 1900 + 0 = date.1 := by omega
  unfold stamp Calendar.timegm timeOn dayOf
  dsimp only
  rw [hquot, hrem, hyear, hsec, hmin, hhour]
  omega

theorem stamp_le_iff_time (t u : Nat) {date : Int × Int × Int} (hdate : ValidDate date) :
    stamp t date ≤ stamp u date ↔ t % 86400 ≤ u % 86400 := by
  rw [stamp_eq t hdate, stamp_eq u hdate]
  omega

theorem stamp_le_iff_day (t : Nat) {date other : Int × Int × Int} (hdate : ValidDate date)
    (hother : ValidDate other) : stamp t date ≤ stamp t other ↔ dayOf date ≤ dayOf other := by
  rw [stamp_eq t hdate, stamp_eq t hother]
  omega

/-- The timestamps that turns give, where `date` is the date before them. -/
def stampsFrom : Int × Int × Int → List Turn → List Int
  | _, [] => []
  | date, turn :: rest =>
      stamp turn.tv_sec date :: stamp turn.tv_sec (rmcDate turn.tv_sec) ::
        stampsFrom (rmcDate turn.tv_sec) rest

/-! ## Runs of turns -/

theorem feed_append_inputs (s : Session ℚ) (first second : List Session.Input) :
    Session.feed Calendar.timegm s (first ++ second) =
      Session.feed Calendar.timegm s first >>= fun s' => Session.feed Calendar.timegm s' second :=
  List.foldlM_append

/-- A sentence that fits the buffer of the reader fits that of the writer. -/
theorem uncut_of_fits {text : CString} (h : (snprintf128 text).length ≤ NMEA_MAX_SIZE) :
    text.length ≤ NMEA_MAX_SIZE ∧ snprintf128 text = text := by
  have hlength : text.length ≤ 127 := by
    unfold snprintf128 at h
    rw [List.length_take] at h
    change min 127 text.length ≤ 83 at h
    omega
  have htext : snprintf128 text = text := List.take_of_length_le hlength
  rw [htext] at h
  exact ⟨h, htext⟩

/-- The reader between two turns, on a device whose time is UTC. -/
structure Waiting (s : Session ℚ) : Prop where
  ready : s.Ready
  callback : s.reader.callback = true
  utc_diff : s.reader.utc_diff = 0

/-- One turn. -/
theorem feed_turn {s : Session ℚ} (h : Waiting s) {turn : Turn} (hread : turn.Read) :
    ∃ s', Session.feed Calendar.timegm s turn.written = some s' ∧ Waiting s' ∧
      s'.reader.date = rmcDate turn.tv_sec ∧
      s'.fixes.map (·.timestamp) = s.fixes.map (·.timestamp) ++
        [stamp turn.tv_sec (s.reader.withDate turn.nowGga).date,
          stamp turn.tv_sec (rmcDate turn.tv_sec)] := by
  obtain ⟨gga, rmc, hemit, hgga, hrmc⟩ := hread
  have hwritten : turn.written =
      Session.arriving turn.nowGga gga ++ Session.arriving turn.nowRmc rmc := by
    unfold Turn.written
    rw [hemit]
  unfold emit at hemit
  split at hemit
  · cases hemit
  · obtain ⟨rfl, rfl⟩ := Prod.mk.inj (Option.some.inj hemit)
    obtain ⟨hggaFits, hggaText⟩ := uncut_of_fits hgga
    obtain ⟨hrmcFits, hrmcText⟩ := uncut_of_fits hrmc
    obtain ⟨s₁, fix₁, hfeed₁, hfixed₁, hdate₁⟩ :=
      feed_gga Calendar.timegm turn.nowGga h.ready h.callback hggaFits
    obtain ⟨s₂, fix₂, hfeed₂, hfixed₂, hdate₂, -⟩ :=
      feed_rmc Calendar.timegm turn.nowRmc hfixed₁.ready hfixed₁.callback hrmcFits
    refine ⟨s₂, ?_, ⟨hfixed₂.ready, hfixed₂.callback,
      hfixed₂.utc_diff.trans (hfixed₁.utc_diff.trans h.utc_diff)⟩, hdate₂, ?_⟩
    · rw [hwritten, feed_append_inputs]
      unfold gpgga gprmc
      rw [hggaText, hrmcText, hfeed₁]
      exact hfeed₂
    · have hstamp₁ : fix₁.timestamp =
          stamp turn.tv_sec (s.reader.withDate turn.nowGga).date := by
        rw [hfixed₁.timestamp, hdate₁, h.utc_diff, Int.add_zero]
        rfl
      have hstamp₂ : fix₂.timestamp = stamp turn.tv_sec (rmcDate turn.tv_sec) := by
        rw [hfixed₂.timestamp, hdate₂, hfixed₁.utc_diff, h.utc_diff, Int.add_zero]
        rfl
      rw [hfixed₂.fixes, hfixed₁.fixes, List.map_append, List.map_append, List.append_assoc,
        List.map_singleton, List.map_singleton, hstamp₁, hstamp₂]
      rfl

theorem withDate_of_nonneg {s : Session ℚ} (h : 0 ≤ s.reader.utc_year) (now : Nat) :
    s.reader.withDate now = s.reader := by
  unfold NmeaReader.withDate
  rw [if_neg (by omega)]

/-- A reader with the date of an RMC sentence has a date. -/
theorem utc_year_nonneg {s : Session ℚ} {t : Nat} (hdate : s.reader.date = rmcDate t) :
    0 ≤ s.reader.utc_year := by
  have hfirst : s.reader.utc_year = (rmcDate t).1 := congrArg Prod.fst hdate
  rw [hfirst]
  unfold rmcDate
  dsimp only
  omega

/-- Turns one after the other, when the reader has a date. -/
theorem feed_turns {s : Session ℚ} (h : Waiting s) (hyear : 0 ≤ s.reader.utc_year)
    {turns : List Turn} (hread : ∀ turn ∈ turns, turn.Read) :
    ∃ s', Session.feed Calendar.timegm s (turns.flatMap Turn.written) = some s' ∧
      s'.fixes.map (·.timestamp) =
        s.fixes.map (·.timestamp) ++ stampsFrom s.reader.date turns := by
  induction turns generalizing s with
  | nil => exact ⟨s, rfl, (List.append_nil _).symm⟩
  | cons turn rest ih =>
      obtain ⟨s₁, hfeed₁, hwaiting, hdate, hstamps₁⟩ := feed_turn h (hread turn List.mem_cons_self)
      have hyear₁ := utc_year_nonneg hdate
      obtain ⟨s₂, hfeed₂, hstamps₂⟩ :=
        ih hwaiting hyear₁ fun later hmem => hread later (List.mem_cons_of_mem _ hmem)
      refine ⟨s₂, ?_, ?_⟩
      · rw [List.flatMap_cons, feed_append_inputs, hfeed₁]
        exact hfeed₂
      · rw [hstamps₂, hstamps₁, hdate, withDate_of_nonneg hyear, List.append_assoc]
        rfl

/-! ## When the timestamps decrease -/

/-- Neither the time of day nor the date goes back from one turn to the next. -/
def Turn.Follows (a b : Turn) : Prop :=
  a.tv_sec % 86400 ≤ b.tv_sec % 86400 ∧ dayOf (rmcDate a.tv_sec) ≤ dayOf (rmcDate b.tv_sec)

/-- The date that the first GGA sentence is put on is not later than its own. -/
def StartsInTime (turns : List Turn) : Prop :=
  ∀ first ∈ turns.head?, dayOf (currentDate first.nowGga) ≤ dayOf (rmcDate first.tv_sec)

/-- The timestamps behind those of a turn. -/
theorem isChain_stampsFrom_iff (turn : Turn) (rest : List Turn) :
    List.IsChain (· ≤ ·) (stamp turn.tv_sec (rmcDate turn.tv_sec) ::
      stampsFrom (rmcDate turn.tv_sec) rest) ↔ List.IsChain Turn.Follows (turn :: rest) := by
  induction rest generalizing turn with
  | nil => simp [stampsFrom]
  | cons next rest ih =>
      rw [stampsFrom, List.isChain_cons_cons, List.isChain_cons_cons, ih next,
        List.isChain_cons_cons, stamp_le_iff_time _ _ (validDate_rmcDate _),
        stamp_le_iff_day _ (validDate_rmcDate _) (validDate_rmcDate _), ← and_assoc]
      rfl

/-- From a reader that has just been started, with every pair read: the timestamps of the fixes
do not decrease exactly when neither the time of day nor the date goes back between
consecutive turns, and the current date at the first sentence is not later than its own. -/
theorem timestamps_iff {turns : List Turn} (hread : ∀ turn ∈ turns, turn.Read) :
    ∃ s, Session.feed Calendar.timegm started (turns.flatMap Turn.written) = some s ∧
      ((s.fixes.map (·.timestamp)).Pairwise (· ≤ ·) ↔
        List.IsChain Turn.Follows turns ∧ StartsInTime turns) := by
  cases turns with
  | nil =>
      refine ⟨started, rfl, iff_of_true List.Pairwise.nil ⟨List.IsChain.nil, ?_⟩⟩
      intro first hmem
      cases hmem
  | cons turn rest =>
      obtain ⟨s₁, hfeed₁, hwaiting, hdate, hstamps₁⟩ :=
        feed_turn ⟨started_ready, rfl, rfl⟩ (hread turn List.mem_cons_self)
      have hyear₁ := utc_year_nonneg hdate
      obtain ⟨s₂, hfeed₂, hstamps₂⟩ :=
        feed_turns hwaiting hyear₁ fun later hmem => hread later (List.mem_cons_of_mem _ hmem)
      refine ⟨s₂, ?_, ?_⟩
      · rw [List.flatMap_cons, feed_append_inputs, hfeed₁]
        exact hfeed₂
      · have hstart : (started.reader.withDate turn.nowGga).date = currentDate turn.nowGga := rfl
        have hstamps : s₂.fixes.map (·.timestamp) =
            stamp turn.tv_sec (currentDate turn.nowGga) ::
              stamp turn.tv_sec (rmcDate turn.tv_sec) :: stampsFrom (rmcDate turn.tv_sec) rest := by
          rw [hstamps₂, hstamps₁, hdate, hstart]
          rfl
        have hfirst : StartsInTime (turn :: rest) ↔
            dayOf (currentDate turn.nowGga) ≤ dayOf (rmcDate turn.tv_sec) := by
          simp [StartsInTime]
        rw [hstamps, ← List.isChain_iff_pairwise, List.isChain_cons_cons, isChain_stampsFrom_iff,
          stamp_le_iff_day _ (validDate_currentDate _) (validDate_rmcDate _), hfirst, and_comm]

/-- From 2000 to 2099 the date that is written is the day of the clock. -/
theorem dayOf_rmcDate {t : Nat} (hyear : 100 ≤ (Calendar.gmtime t).tm_year ∧
    (Calendar.gmtime t).tm_year < 200) : dayOf (rmcDate t) = (t / 86400 : Nat) := by
  have hstamp := stamp_eq t (validDate_rmcDate t)
  unfold stamp at hstamp
  rw [timeOn_rmcDate hyear, Calendar.timegm_gmtime] at hstamp
  omega

/-- There, a clock that does not go back only has to keep its time of day. -/
theorem Turn.follows_iff {a b : Turn} (hle : a.tv_sec ≤ b.tv_sec)
    (ha : 100 ≤ (Calendar.gmtime a.tv_sec).tm_year ∧ (Calendar.gmtime a.tv_sec).tm_year < 200)
    (hb : 100 ≤ (Calendar.gmtime b.tv_sec).tm_year ∧ (Calendar.gmtime b.tv_sec).tm_year < 200) :
    a.Follows b ↔ a.tv_sec % 86400 ≤ b.tv_sec % 86400 := by
  unfold Follows
  rw [dayOf_rmcDate ha, dayOf_rmcDate hb]
  omega

instance (turn : Turn) : Decidable turn.Read :=
  decidable_of_iff
    ((emit turn.p turn.tv_sec).any (fun pair =>
      pair.1.length ≤ NMEA_MAX_SIZE && pair.2.length ≤ NMEA_MAX_SIZE) = true)
    (by
      unfold Turn.Read
      cases emit turn.p turn.tv_sec with
      | none => simp
      | some pair =>
          obtain ⟨gga, rmc⟩ := pair
          simp)

instance (a b : Turn) : Decidable (a.Follows b) := inferInstanceAs (Decidable (_ ∧ _))

/-- A turn at a place, at a second of the clock that is the same everywhere. -/
def turnAt (t : Nat) : Turn := ⟨⟨97 / 2, -5 / 2, 100, 90, 20⟩, t, t, t⟩

/-- Two turns on one day. -/
theorem timestamps_iff_same_day :
    ∃ s, Session.feed Calendar.timegm started ([turnAt 1700006398, turnAt 1700006399].flatMap
        Turn.written) = some s ∧
      ((s.fixes.map (·.timestamp)).Pairwise (· ≤ ·) ↔
        List.IsChain Turn.Follows [turnAt 1700006398, turnAt 1700006399] ∧
          StartsInTime [turnAt 1700006398, turnAt 1700006399]) :=
  timestamps_iff (by
    intro turn hmem
    rcases List.mem_pair.mp hmem with rfl | rfl <;> decide +kernel)

/-- The GGA sentence of midnight is put on the day before. -/
theorem midnight_goes_back :
    ¬∀ turns : List Turn, (∀ turn ∈ turns, turn.Read) →
      turns.Pairwise (fun a b => a.tv_sec ≤ b.tv_sec) →
      ∀ s, Session.feed Calendar.timegm started (turns.flatMap Turn.written) = some s →
        (s.fixes.map (·.timestamp)).Pairwise (· ≤ ·) := by
  intro h
  have hfeed : (Session.feed Calendar.timegm started
      ([turnAt 1700006399, turnAt 1700006400].flatMap Turn.written)).map
        (fun s => decide ((s.fixes.map (·.timestamp)).Pairwise (· ≤ ·))) = some false := by
    decide +kernel
  obtain ⟨s, hs, hback⟩ := Option.map_eq_some_iff.mp hfeed
  refine absurd (h _ ?_ ?_ s hs) (of_decide_eq_false hback)
  · intro turn hmem
    rcases List.mem_pair.mp hmem with rfl | rfl <;> decide +kernel
  · decide

end Gps
end DeviceAndroVM
