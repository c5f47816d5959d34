import DeviceAndroVM.Gps.StateThread

/-!
# What the thread of the GPS module calls back

* `Phase` — what the module is for: a life begins and is cleaned up, and in between there are
  sessions, one after the other, with the fixes in them.
* `accept_log` — every log is one of such lives.
* `react` — the statuses that answer commands; `statuses_of_commands` says that these are called
  back, in the order in which the commands were written.
-/

namespace DeviceAndroVM
namespace Gps

open Library

variable {F : Type} [CDouble F] {mktime : Tm → Int} {m m' : GpsState F}

/-! ## The fixes of the reader -/

namespace Session

variable {s s' : Session F}

/-- The reader goes on: fixes are only added, and none without a callback. -/
structure GoesOn (s s' : Session F) : Prop where
  fixes : ∃ new, s'.fixes = s.fixes ++ new ∧ (s.reader.callback = false → new = [])
  callback : s'.reader.callback = s.reader.callback

omit [CDouble F] in
theorem GoesOn.refl (s : Session F) : GoesOn s s := ⟨⟨[], by simp⟩, rfl⟩

omit [CDouble F] in
theorem GoesOn.trans {s₁ s₂ s₃ : Session F} (h : GoesOn s₁ s₂) (h' : GoesOn s₂ s₃) :
    GoesOn s₁ s₃ := by
  obtain ⟨⟨new, hnew, hnone⟩, hcallback⟩ := h
  obtain ⟨⟨new', hnew', hnone'⟩, hcallback'⟩ := h'
  refine ⟨⟨new ++ new', by rw [hnew', hnew, List.append_assoc], fun hoff => ?_⟩,
    hcallback'.trans hcallback⟩
  rw [hnone hoff, hnone' (hcallback.trans hoff), List.append_nil]

omit [CDouble F] in
theorem goesOn_report (s : Session F) : GoesOn s s.report := by
  refine ⟨⟨s.reader.report.2, rfl, fun hoff => ?_⟩, ?_⟩
  · simp [NmeaReader.report, hoff]
  · exact congrArg (fun f => f.2.2.2.1) (NmeaReader.framing_report s.reader)

theorem goesOn_parse (mktime : Tm → Int) (now : Nat) (s : Session F) :
    GoesOn s (s.nmea_reader_parse mktime now) := by
  have hcallback := congrArg (fun f => f.2.2.2.1) (framing_parse mktime now s).1
  refine ⟨?_, hcallback⟩
  unfold nmea_reader_parse
  split
  · exact ⟨[], by simp⟩
  · unfold parseTokens
    dsimp only
    split
    · exact ⟨[], by simp⟩
    · split
      · exact ⟨[], by simp⟩
      · rename_i r hupdate
        have hframing := congrArg (fun f => f.2.2.2.1) (NmeaReader.framing_update hupdate)
        refine ⟨r.report.2, rfl, fun hoff => ?_⟩
        have hr : r.callback = false := hframing.trans hoff
        simp [NmeaReader.report, hr]

theorem goesOn_addc (mktime : Tm → Int) (now : Nat) (s : Session F) (c : UInt8) :
    GoesOn s (s.nmea_reader_addc mktime now c) := by
  unfold nmea_reader_addc
  dsimp only
  split
  · exact ⟨⟨[], by simp⟩, rfl⟩
  · split
    · exact ⟨⟨[], by simp⟩, rfl⟩
    · split
      · have hstore : GoesOn s { s with reader := s.reader.store c } := ⟨⟨[], by simp⟩, rfl⟩
        refine hstore.trans ?_
        have hparse := goesOn_parse mktime now
          { s with
            reader := s.reader.store c
            handed := s.handed ++ [(s.reader.store c).in'.take (s.reader.store c).pos] }
        exact ⟨hparse.fixes, hparse.callback⟩
      · exact ⟨⟨[], by simp⟩, rfl⟩

theorem goesOn_feed (bytes : List (Nat × UInt8)) {s s' : Session F}
    (h : s.feed mktime (bytes.map fun b => .byte b.1 b.2) = some s') : GoesOn s s' := by
  induction bytes generalizing s with
  | nil =>
      obtain rfl := Option.some.inj h
      exact GoesOn.refl s
  | cons b bytes ih =>
      rw [feed, List.map_cons, List.foldlM_cons] at h
      obtain ⟨s₁, hstep, hrest⟩ := Option.bind_eq_some_iff.mp h
      unfold step at hstep
      split at hstep
      · cases hstep
      · obtain rfl := Option.some.inj hstep
        exact (goesOn_addc mktime b.1 s b.2).trans (ih hrest)

omit [CDouble F] in
/-- A new callback may be handed the fix that was kept for it. -/
theorem fixes_set_callback (s : Session F) (cb : Bool) :
    ∃ new, (s.nmea_reader_set_callback cb).fixes = s.fixes ++ new ∧ (cb = false → new = []) := by
  cases cb with
  | false => exact ⟨[], by simp [nmea_reader_set_callback, report, NmeaReader.report], fun _ => rfl⟩
  | true => exact ⟨_, rfl, fun h => by cases h⟩

omit [CDouble F] in
theorem callback_set_callback (s : Session F) (cb : Bool) :
    (s.nmea_reader_set_callback cb).reader.callback = cb := by
  exact (goesOn_report { s with reader := { s.reader with callback := cb } }).callback

end Session

/-! ## What the module is for -/

/-- Where a life of the module is: `dark` before its engine is on, `over` when the engine is off
again, and `off` when there is none. -/
inductive Phase
  | off
  | dark
  | idle
  | session
  | over
  deriving DecidableEq, Repr

namespace Phase

/-- The phase that one entry of the log leads to, and none where it has no place. -/
def next : Phase → Entry F → Option Phase
  | .off, .created => some .dark
  | .dark, .status .GPS_STATUS_ENGINE_ON _ => some .idle
  | .idle, .status .GPS_STATUS_SESSION_BEGIN _ => some .session
  | .session, .location _ => some .session
  | .session, .status .GPS_STATUS_SESSION_END _ => some .idle
  | .idle, .status .GPS_STATUS_ENGINE_OFF _ => some .over
  | .session, .status .GPS_STATUS_ENGINE_OFF _ => some .over
  | .off, .cleaned => some .off
  | .idle, .cleaned => some .off
  | .session, .cleaned => some .off
  | .over, .cleaned => some .off
  | _, _ => none

end Phase

/-- The phase after a whole log. -/
def accept (log : List (Entry F)) : Option Phase := log.foldlM Phase.next .off

/-- The statuses of the last life of a log. -/
def statusesOf (log : List (Entry F)) : List (GpsStatusValue × Bool) :=
  log.foldl
    (fun statuses entry =>
      match entry with
      | .created => []
      | .status val heard => statuses ++ [(val, heard)]
      | _ => statuses)
    []

/-- Whether a session has begun after some commands. -/
def startedAfter : Bool → List Command → Bool
  | started, [] => started
  | started, .CMD_QUIT :: _ => started
  | _, .CMD_START :: cmds => startedAfter true cmds
  | _, .CMD_STOP :: cmds => startedAfter false cmds

/-- The statuses that answer commands. -/
def react : Bool → List Command → List GpsStatusValue
  | _, [] => []
  | _, .CMD_QUIT :: _ => [.GPS_STATUS_ENGINE_OFF]
  | true, .CMD_START :: cmds => react true cmds
  | false, .CMD_START :: cmds => .GPS_STATUS_SESSION_BEGIN :: react true cmds
  | true, .CMD_STOP :: cmds => .GPS_STATUS_SESSION_END :: react false cmds
  | false, .CMD_STOP :: cmds => react false cmds

section Logs

omit [CDouble F]

@[simp] theorem accept_concat (log : List (Entry F)) (entry : Entry F) :
    accept (log ++ [entry]) = (accept log).bind (·.next entry) := by
  simp [accept, List.foldlM_append]

theorem accept_locations {log : List (Entry F)} (h : accept log = some .session)
    (fixes : List (GpsLocation F)) :
    accept (log ++ fixes.map .location) = some .session := by
  induction fixes generalizing log with
  | nil => simpa using h
  | cons fix fixes ih =>
      have hnext : accept (log ++ [.location fix]) = some .session := by
        rw [accept_concat, h]
        rfl
      simpa using ih hnext

@[simp] theorem statusesOf_created (log : List (Entry F)) :
    statusesOf (log ++ [.created]) = [] := by
  simp [statusesOf]

@[simp] theorem statusesOf_status (log : List (Entry F)) (val : GpsStatusValue) (heard : Bool) :
    statusesOf (log ++ [.status val heard]) = statusesOf log ++ [(val, heard)] := by
  simp [statusesOf]

theorem statusesOf_locations (log : List (Entry F)) (fixes : List (GpsLocation F)) :
    statusesOf (log ++ fixes.map .location) = statusesOf log := by
  induction fixes generalizing log with
  | nil => simp
  | cons fix fixes ih =>
      have hone : statusesOf (log ++ [.location fix]) = statusesOf log := by simp [statusesOf]
      have hrest := ih (log ++ [.location fix])
      rw [hone, List.append_assoc] at hrest
      exact hrest

end Logs

theorem startedAfter_concat {cmds : List Command} (started : Bool) (cmd : Command)
    (h : Command.CMD_QUIT ∉ cmds) :
    startedAfter started (cmds ++ [cmd]) = startedAfter (startedAfter started cmds) [cmd] := by
  induction cmds generalizing started with
  | nil => rfl
  | cons first cmds ih =>
      have hrest : Command.CMD_QUIT ∉ cmds := fun hmem => h (List.mem_cons_of_mem first hmem)
      cases first with
      | CMD_QUIT => exact absurd List.mem_cons_self h
      | CMD_START => exact ih true hrest
      | CMD_STOP => exact ih false hrest

theorem react_concat {cmds : List Command} (started : Bool) (cmd : Command)
    (h : Command.CMD_QUIT ∉ cmds) :
    react started (cmds ++ [cmd]) =
      react started cmds ++ react (startedAfter started cmds) [cmd] := by
  induction cmds generalizing started with
  | nil => rfl
  | cons first cmds ih =>
      have hrest : Command.CMD_QUIT ∉ cmds := fun hmem => h (List.mem_cons_of_mem first hmem)
      cases first with
      | CMD_QUIT => exact absurd List.mem_cons_self h
      | CMD_START =>
          cases started with
          | true => exact ih true hrest
          | false => exact congrArg _ (ih true hrest)
      | CMD_STOP =>
          cases started with
          | true => exact congrArg _ (ih false hrest)
          | false => exact ih false hrest

/-! ## The invariant -/

namespace GpsState

/-- The commands of this life are read in the order in which they were written, and the statuses
answer them. -/
structure Answered (m : GpsState F) : Prop where
  queue : ∃ queue, m.control = some queue ∧ m.written = m.read ++ queue
  statuses : ∃ heard, statusesOf m.log =
    (.GPS_STATUS_ENGINE_ON, heard) ::
      (react false m.read).map fun val => (val, m.callbacks.status_cb)

/-- The thread is between two commands. -/
structure Between (m : GpsState F) : Prop where
  answered : m.Answered
  accepted : accept m.log = some (if m.thread.started then .session else .idle)
  started : m.thread.started = startedAfter false m.read
  noQuit : .CMD_QUIT ∉ m.read

/-- The thread is in its loop. -/
structure Running (m : GpsState F) : Prop extends m.Between where
  callback : m.thread.session.reader.callback = true → m.thread.started = true

/-- The thread has not come to its first status. -/
structure Fresh (m : GpsState F) : Prop where
  queue : m.control = some m.written
  read : m.read = []
  accepted : accept m.log = some .dark
  statuses : statusesOf m.log = []

/-- The thread has returned. -/
structure Ended (m : GpsState F) : Prop where
  answered : m.Answered
  accepted : ∃ phase ∈ [Phase.idle, .session, .over], accept m.log = some phase

/-- What holds where the thread stands. -/
def Standing (m : GpsState F) : Place → Prop
  | .absent => accept m.log = some .off
  | .created => m.Fresh
  | .returned => m.Ended
  | .waiting | .handling _ | .receiving _ => m.Running

/-- The invariant of the module. -/
structure Sound (m : GpsState F) : Prop where
  standing : m.Standing m.thread.place
  idle : m.init = false → m.thread.place = .absent ∧ m.caller = .idle
  initializing : ∀ {callbacks}, m.caller = .initializing callbacks → m.written = []
  closed : m.closed = true → ∃ events, m.thread.place = .receiving events

end GpsState

namespace GpsState

/-! ## The steps of the caller -/

section Caller

omit [CDouble F]

theorem Answered.congr (h : m.Answered) (hcontrol : m'.control = m.control)
    (hwritten : m'.written = m.written) (hread : m'.read = m.read)
    (hcallbacks : m'.callbacks = m.callbacks) (hlog : statusesOf m'.log = statusesOf m.log) :
    m'.Answered := by
  constructor
  · rw [hcontrol, hwritten, hread]
    exact h.queue
  · rw [hlog, hread, hcallbacks]
    exact h.statuses

/-- Where the caller stands makes no difference to the thread. -/
theorem standing_caller (m : GpsState F) (init : Bool) (caller : Caller) {place : Place}
    (h : m.Standing place) : { m with init := init, caller := caller }.Standing place := by
  have hanswered : m.Answered → { m with init := init, caller := caller }.Answered :=
    fun h => ⟨h.queue, h.statuses⟩
  cases place with
  | absent => exact h
  | created => exact ⟨h.queue, h.read, h.accepted, h.statuses⟩
  | returned => exact ⟨hanswered h.answered, h.accepted⟩
  | waiting => exact ⟨⟨hanswered h.answered, h.accepted, h.started, h.noQuit⟩, h.callback⟩
  | handling events => exact ⟨⟨hanswered h.answered, h.accepted, h.started, h.noQuit⟩, h.callback⟩
  | receiving events => exact ⟨⟨hanswered h.answered, h.accepted, h.started, h.noQuit⟩, h.callback⟩

/-- No command has been written before the callbacks are copied, so only the first status can
miss them. -/
theorem standing_initialized (callbacks : GpsCallbacks) {place : Place}
    (h : m.Standing place) (hwritten : m.written = []) :
    { m with callbacks := callbacks, caller := .idle }.Standing place := by
  have hanswered : m.Answered →
      { m with callbacks := callbacks, caller := .idle }.Answered := by
    intro h
    obtain ⟨queue, hcontrol, hqueue⟩ := h.queue
    obtain ⟨heard, hstatuses⟩ := h.statuses
    have hread : m.read = [] := (List.append_eq_nil_iff.mp (hqueue.symm.trans hwritten)).1
    refine ⟨⟨queue, hcontrol, hqueue⟩, heard, ?_⟩
    rw [hread] at hstatuses ⊢
    exact hstatuses
  cases place with
  | absent => exact h
  | created => exact ⟨h.queue, h.read, h.accepted, h.statuses⟩
  | returned => exact ⟨hanswered h.answered, h.accepted⟩
  | waiting => exact ⟨⟨hanswered h.answered, h.accepted, h.started, h.noQuit⟩, h.callback⟩
  | handling events => exact ⟨⟨hanswered h.answered, h.accepted, h.started, h.noQuit⟩, h.callback⟩
  | receiving events => exact ⟨⟨hanswered h.answered, h.accepted, h.started, h.noQuit⟩, h.callback⟩

theorem standing_send (cmd : Command) {place : Place} (h : m.Standing place) :
    (m.send cmd).Standing place := by
  unfold send
  cases hcontrol : m.control with
  | none => exact h
  | some queue =>
      have hanswered : m.Answered →
          { m with control := some (queue ++ [cmd]), written := m.written ++ [cmd] }.Answered := by
        intro h
        obtain ⟨queue', hcontrol', hqueue⟩ := h.queue
        obtain rfl : queue = queue' := Option.some.inj (hcontrol.symm.trans hcontrol')
        refine ⟨⟨queue ++ [cmd], rfl, ?_⟩, h.statuses⟩
        exact (congrArg (· ++ [cmd]) hqueue).trans (List.append_assoc _ _ _)
      cases place with
      | absent => exact h
      | created =>
          obtain rfl : queue = m.written := Option.some.inj (hcontrol.symm.trans h.queue)
          exact ⟨rfl, h.read, h.accepted, h.statuses⟩
      | returned => exact ⟨hanswered h.answered, h.accepted⟩
      | waiting => exact ⟨⟨hanswered h.answered, h.accepted, h.started, h.noQuit⟩, h.callback⟩
      | handling events =>
          exact ⟨⟨hanswered h.answered, h.accepted, h.started, h.noQuit⟩, h.callback⟩
      | receiving events =>
          exact ⟨⟨hanswered h.answered, h.accepted, h.started, h.noQuit⟩, h.callback⟩

@[simp] theorem thread_send (m : GpsState F) (cmd : Command) : (m.send cmd).thread = m.thread := by
  unfold send
  split <;> rfl

@[simp] theorem init_send (m : GpsState F) (cmd : Command) : (m.send cmd).init = m.init := by
  unfold send
  split <;> rfl

@[simp] theorem caller_send (m : GpsState F) (cmd : Command) : (m.send cmd).caller = m.caller := by
  unfold send
  split <;> rfl

@[simp] theorem closed_send (m : GpsState F) (cmd : Command) : (m.send cmd).closed = m.closed := by
  unfold send
  split <;> rfl

/-- A command of an idle caller. -/
theorem sound_send (h : m.Sound) (cmd : Command) (hcaller : m.caller = .idle) :
    (m.send cmd).Sound := by
  refine ⟨?_, ?_, ?_, ?_⟩
  · rw [thread_send]
    exact standing_send cmd h.standing
  · simpa using h.idle
  · intro callbacks hinitializing
    rw [caller_send, hcaller] at hinitializing
    cases hinitializing
  · simpa using h.closed

theorem sound_join (h : m.Sound) (hinit : m.init = true) :
    { m with caller := .joining }.Sound := by
  refine ⟨standing_caller m m.init .joining h.standing, ?_, ?_, h.closed⟩
  · intro hoff
    rw [hinit] at hoff
    cases hoff
  · intro callbacks hinitializing
    cases hinitializing

theorem sound_init (h : m.Sound) (callbacks : GpsCallbacks) (outcome : Outcome)
    (hcaller : m.caller = .idle) : (m.gps_init callbacks outcome).Sound := by
  unfold gps_init
  split
  · exact h
  · rename_i hinit
    obtain ⟨habsent, -⟩ := h.idle (Bool.eq_false_iff.mpr hinit)
    have haccepted : accept m.log = some .off := by
      have hstanding := h.standing
      rw [habsent] at hstanding
      exact hstanding
    have hopen : m.closed = false := by
      cases hclosed : m.closed with
      | false => rfl
      | true =>
          obtain ⟨events, hplace⟩ := h.closed hclosed
          rw [habsent] at hplace
          cases hplace
    -- where there is no thread, only the log counts
    have hfailed : ∀ m' : GpsState F, m'.thread = m.thread → m'.log = m.log → m'.init = true →
        m'.closed = m.closed → (∀ callbacks, m'.caller ≠ .initializing callbacks) → m'.Sound := by
      intro m' hthread hlog hinit' hclosed' hcaller'
      refine ⟨?_, ?_, ?_, ?_⟩
      · rw [hthread, habsent]
        exact (congrArg accept hlog).trans haccepted
      · intro hoff
        rw [hinit'] at hoff
        cases hoff
      · intro callbacks hinitializing
        exact absurd hinitializing (hcaller' callbacks)
      · intro hclosed
        rw [hclosed', hopen] at hclosed
        cases hclosed
    cases outcome with
    | noSocket => exact hfailed _ rfl rfl rfl rfl fun callbacks => by simp [gps_state_init, hcaller]
    | refused => exact hfailed _ rfl rfl rfl rfl fun callbacks => by simp [gps_state_init, hcaller]
    | noPair => exact hfailed _ rfl rfl rfl rfl fun callbacks => by simp [gps_state_init]
    | noThread => exact hfailed _ rfl rfl rfl rfl fun callbacks => by simp [gps_state_init]
    | connected =>
        refine ⟨⟨rfl, rfl, ?_, statusesOf_created m.log⟩, ?_, fun _ => rfl, ?_⟩
        · exact (accept_concat m.log .created).trans (by rw [haccepted]; rfl)
        · intro hoff
          cases hoff
        · intro hclosed
          cases hclosed

theorem sound_joined (h : m.Sound)
    (hthread : m.thread.place = .returned ∨ m.thread.place = .absent) : m.joined.Sound := by
  have haccepted : accept m.joined.log = some .off := by
    have hstanding := h.standing
    obtain ⟨phase, hphase, haccept⟩ :
        ∃ phase ∈ [Phase.off, .idle, .session, .over], accept m.log = some phase := by
      rcases hthread with hplace | hplace
      · rw [hplace] at hstanding
        obtain ⟨phase, hmem, haccept⟩ := hstanding.accepted
        exact ⟨phase, List.mem_cons_of_mem _ hmem, haccept⟩
      · rw [hplace] at hstanding
        exact ⟨.off, List.mem_cons_self, hstanding⟩
    rw [joined, accept_concat, haccept]
    simp only [List.mem_cons, List.not_mem_nil, or_false] at hphase
    rcases hphase with rfl | rfl | rfl | rfl <;> rfl
  refine ⟨haccepted, fun _ => ⟨rfl, rfl⟩, ?_, ?_⟩
  · intro callbacks hinitializing
    cases hinitializing
  · intro hclosed
    obtain ⟨events, hplace⟩ := h.closed hclosed
    rcases hthread with hreturned | habsent
    · rw [hreturned] at hplace
      cases hplace
    · rw [habsent] at hplace
      cases hplace

end Caller

/-! ## The steps of the thread -/

section Commands

omit [CDouble F]

theorem Running.setPlace (h : m.Running) (place : Place) : (m.setPlace place).Running :=
  ⟨⟨⟨h.answered.queue, h.answered.statuses⟩, h.accepted, h.started, h.noQuit⟩, h.callback⟩

theorem Running.ended (h : m.Running) : (m.setPlace .returned).Ended := by
  refine ⟨⟨h.answered.queue, h.answered.statuses⟩, _, ?_, h.accepted⟩
  cases m.thread.started <;> simp

/-- The reader goes on, and calls fixes back only in a session. -/
theorem Between.withSession (h : m.Between) {s : Session F}
    (hfixes : ∃ new, s.fixes = m.thread.session.fixes ++ new ∧ (m.thread.started = false → new = []))
    (hcallback : s.reader.callback = true → m.thread.started = true) :
    (m.withSession s).Running := by
  obtain ⟨new, hnew, hnone⟩ := hfixes
  have hlog : (m.withSession s).log = m.log ++ new.map .location := by
    rw [GpsState.withSession, hnew, List.drop_left]
  have hstatuses : statusesOf (m.withSession s).log = statusesOf m.log := by
    rw [hlog, statusesOf_locations]
  refine ⟨⟨h.answered.congr rfl rfl rfl rfl hstatuses, ?_, h.started, h.noQuit⟩, hcallback⟩
  rw [hlog]
  have haccepted := h.accepted
  cases hstarted : m.thread.started with
  | false =>
      rw [hnone hstarted, List.map_nil, List.append_nil, haccepted, hstarted]
      exact congrArg (fun started => some (if started then Phase.session else .idle)) hstarted.symm
  | true =>
      rw [hstarted] at haccepted
      rw [accept_locations haccepted new]
      exact congrArg (fun started => some (if started then Phase.session else .idle)) hstarted.symm

/-- A command is read, and its answer is called back. -/
theorem Running.answers (h : m.Running) {cmd : Command} {queue : List Command}
    (hcontrol : m.control = some (cmd :: queue)) (hcontrol' : m'.control = some queue)
    (hwritten : m'.written = m.written) (hread : m'.read = m.read ++ [cmd])
    (hcallbacks : m'.callbacks = m.callbacks)
    (hlog : statusesOf m'.log = statusesOf m.log ++
      (react m.thread.started [cmd]).map fun val => (val, m.callbacks.status_cb)) :
    m'.Answered := by
  obtain ⟨queue', hqueue', hsplit⟩ := h.answered.queue
  obtain ⟨heard, hstatuses⟩ := h.answered.statuses
  obtain rfl : cmd :: queue = queue' := Option.some.inj (hcontrol.symm.trans hqueue')
  refine ⟨⟨queue, hcontrol', ?_⟩, heard, ?_⟩
  · rw [hwritten, hread, hsplit, List.append_assoc]
    rfl
  · rw [hlog, hread, hcallbacks, react_concat false cmd h.noQuit, ← h.started, hstatuses,
      List.map_append, List.cons_append]

@[simp] theorem thread_took (m : GpsState F) (cmd : Command) (queue : List Command) :
    (m.took cmd queue).thread = m.thread := rfl

/-- A command that changes nothing. -/
theorem Running.took (h : m.Running) {cmd : Command} {queue : List Command}
    (hcontrol : m.control = some (cmd :: queue)) (hquit : cmd ≠ .CMD_QUIT)
    (hnone : react m.thread.started [cmd] = [])
    (hsame : startedAfter m.thread.started [cmd] = m.thread.started) :
    (m.took cmd queue).Running := by
  have hstarted := startedAfter_concat false cmd h.noQuit
  rw [← h.started, hsame] at hstarted
  refine ⟨⟨h.answers hcontrol rfl rfl rfl rfl ?_, h.accepted, hstarted.symm, ?_⟩, h.callback⟩
  · rw [hnone]
    exact (List.append_nil _).symm
  · intro hmem
    rcases List.mem_append.mp hmem with hread | hcmd
    · exact h.noQuit hread
    · exact hquit (List.mem_singleton.mp hcmd).symm

/-- A command that begins or ends a session, before the callback is set. -/
theorem Running.switched (h : m.Running) {cmd : Command} {queue : List Command}
    {val : GpsStatusValue} {started : Bool} (hcontrol : m.control = some (cmd :: queue))
    (hquit : cmd ≠ .CMD_QUIT) (hone : react m.thread.started [cmd] = [val])
    (hafter : startedAfter m.thread.started [cmd] = started)
    (hnext : Phase.next (if m.thread.started then .session else .idle)
      (.status val m.callbacks.status_cb : Entry F) = some (if started then .session else .idle)) :
    (((m.took cmd queue).setStarted started).gps_update_status val).Between := by
  have hstarted := startedAfter_concat false cmd h.noQuit
  rw [← h.started, hafter] at hstarted
  refine ⟨h.answers hcontrol rfl rfl rfl rfl ?_, ?_, hstarted.symm, ?_⟩
  · rw [hone]
    exact statusesOf_status _ _ _
  · refine (accept_concat m.log _).trans ?_
    rw [h.accepted]
    exact hnext
  · intro hmem
    rcases List.mem_append.mp hmem with hread | hcmd
    · exact h.noQuit hread
    · exact hquit (List.mem_singleton.mp hcmd).symm

/-- What a command leaves. -/
theorem standing_obey (h : m.Running) {cmd : Command} {queue : List Command}
    (hcontrol : m.control = some (cmd :: queue)) (events : List Ready) :
    let m' := (m.took cmd queue).obey events cmd
    m'.Standing m'.thread.place := by
  cases cmd with
  | CMD_QUIT =>
      refine ⟨h.answers hcontrol rfl rfl rfl rfl (statusesOf_status _ _ _), .over, by simp, ?_⟩
      refine (accept_concat m.log _).trans ?_
      rw [h.accepted]
      cases m.thread.started <;> rfl
  | CMD_START =>
      cases hon : m.thread.started with
      | true =>
          have hsame := h.took hcontrol (by simp) (by rw [hon]; rfl) (by rw [hon]; rfl)
          simp only [obey, thread_took, hon, if_true]
          exact hsame.setPlace _
      | false =>
          have hbegun := h.switched hcontrol (by simp) (by rw [hon]; rfl) rfl (by rw [hon]; rfl)
          obtain ⟨new, hnew, -⟩ := m.thread.session.fixes_set_callback m.callbacks.location_cb
          have hrunning := hbegun.withSession ⟨new, hnew, fun hoff => by cases hoff⟩ fun _ => rfl
          simp only [obey, thread_took, hon, Bool.false_eq_true, if_false]
          exact hrunning.setPlace _
  | CMD_STOP =>
      cases hon : m.thread.started with
      | false =>
          have hsame := h.took hcontrol (by simp) (by rw [hon]; rfl) (by rw [hon]; rfl)
          simp only [obey, thread_took, hon, Bool.false_eq_true, if_false]
          exact hsame.setPlace _
      | true =>
          have hended := h.switched hcontrol (by simp) (by rw [hon]; rfl) rfl (by rw [hon]; rfl)
          obtain ⟨new, hnew, hnone⟩ := m.thread.session.fixes_set_callback false
          have hrunning := hended.withSession ⟨new, hnew, fun _ => hnone rfl⟩ fun hcallback => by
            rw [Session.callback_set_callback] at hcallback
            cases hcallback
          simp only [obey, thread_took, hon, if_true]
          exact hrunning.setPlace _

theorem standing_handle (h : m.Running) (events : List Ready) :
    (m.handle events).Standing (m.handle events).thread.place := by
  cases events with
  | nil => exact h.setPlace .waiting
  | cons e events =>
      rw [handle]
      split
      · exact h.ended
      · split
        · split
          · split
            · rename_i cmd queue hcontrol
              exact standing_obey h hcontrol events
            · exact h.setPlace (.handling events)
          · exact h.setPlace (.receiving events)
        · exact h.setPlace (.handling events)

/-- What a turn of the loop over the events leaves alone. -/
theorem frame_obey (m : GpsState F) (events : List Ready) (cmd : Command) :
    let m' := m.obey events cmd
    m'.init = m.init ∧ m'.caller = m.caller ∧ m'.written = m.written ∧ m'.closed = m.closed ∧
      m'.control = m.control ∧ m'.thread.session.crashed = m.thread.session.crashed := by
  cases cmd with
  | CMD_QUIT => exact ⟨rfl, rfl, rfl, rfl, rfl, rfl⟩
  | CMD_START =>
      rw [obey]
      split <;> exact ⟨rfl, rfl, rfl, rfl, rfl, rfl⟩
  | CMD_STOP =>
      rw [obey]
      split <;> exact ⟨rfl, rfl, rfl, rfl, rfl, rfl⟩

theorem frame_handle (m : GpsState F) (events : List Ready) :
    let m' := m.handle events
    m'.init = m.init ∧ m'.caller = m.caller ∧ m'.written = m.written ∧ m'.closed = m.closed := by
  have hplace : ∀ place, (m.setPlace place).init = m.init ∧ (m.setPlace place).caller = m.caller ∧
      (m.setPlace place).written = m.written ∧ (m.setPlace place).closed = m.closed :=
    fun place => ⟨rfl, rfl, rfl, rfl⟩
  cases events with
  | nil => exact hplace .waiting
  | cons e events =>
      rw [handle]
      split
      · exact hplace .returned
      · split
        · split
          · split
            · rename_i cmd queue _
              obtain ⟨hinit, hcaller, hwritten, hclosed, -⟩ :=
                frame_obey (m.took cmd queue) events cmd
              exact ⟨hinit, hcaller, hwritten, hclosed⟩
            · exact hplace (.handling events)
          · exact hplace (.receiving events)
        · exact hplace (.handling events)

/-- A step of the thread. -/
theorem Sound.moved (h : m.Sound) (hstanding : m'.Standing m'.thread.place)
    (hthere : m.thread.place ≠ .absent) (hinit : m'.init = m.init) (hcaller : m'.caller = m.caller)
    (hwritten : m'.written = m.written)
    (hclosed : m'.closed = true → ∃ events, m'.thread.place = .receiving events) : m'.Sound := by
  refine ⟨hstanding, ?_, ?_, hclosed⟩
  · intro hoff
    rw [hinit] at hoff
    exact absurd (h.idle hoff).1 hthere
  · intro callbacks hinitializing
    rw [hcaller] at hinitializing
    rw [hwritten]
    exact h.initializing hinitializing

theorem Sound.open_of_place (h : m.Sound) (hplace : ∀ events, m.thread.place ≠ .receiving events) :
    m.closed = false := by
  refine Bool.eq_false_iff.mpr fun hclosed => ?_
  obtain ⟨events, hreceiving⟩ := h.closed hclosed
  exact hplace events hreceiving

end Commands

theorem running_receive (h : m.Running) {events : List Ready} {r : Received}
    (hreceive : m.receive mktime events r = some m') : m'.Running := by
  cases r with
  | data bytes =>
      obtain ⟨s, hfeed, hm'⟩ := Option.map_eq_some_iff.mp hreceive
      obtain rfl := hm'
      obtain ⟨⟨new, hnew, hnone⟩, hcallback⟩ := Session.goesOn_feed bytes hfeed
      refine h.toBetween.withSession ⟨new, hnew, fun hoff => hnone ?_⟩ fun hon => ?_
      · refine Bool.eq_false_iff.mpr fun hon => ?_
        rw [h.callback hon] at hoff
        cases hoff
      · exact h.callback (hcallback.symm.trans hon)
  | interrupted =>
      obtain rfl := Option.some.inj hreceive
      exact h
  | wouldBlock =>
      obtain rfl := Option.some.inj hreceive
      exact h.setPlace (.handling events)
  | error =>
      obtain rfl := Option.some.inj hreceive
      exact h.setPlace (.handling events)
  | zero =>
      obtain rfl := Option.some.inj hreceive
      exact ⟨⟨⟨h.answered.queue, h.answered.statuses⟩, h.accepted, h.started, h.noQuit⟩, h.callback⟩

/-- Where the loop that receives leads. -/
theorem place_receive {events : List Ready} {r : Received}
    (hplace : m.thread.place = .receiving events) (hr : m.CanReceive r)
    (hreceive : m.receive mktime events r = some m') :
    m'.thread.place = .receiving events ∨
      m'.thread.place = .handling events ∧ m'.closed = false := by
  cases r with
  | data bytes =>
      obtain ⟨s, -, hm'⟩ := Option.map_eq_some_iff.mp hreceive
      obtain rfl := hm'
      exact .inl hplace
  | interrupted =>
      obtain rfl := Option.some.inj hreceive
      exact .inl hplace
  | wouldBlock =>
      obtain rfl := Option.some.inj hreceive
      exact .inr ⟨rfl, hr⟩
  | error =>
      obtain rfl := Option.some.inj hreceive
      exact .inr ⟨rfl, hr⟩
  | zero =>
      obtain rfl := Option.some.inj hreceive
      exact .inl hplace

theorem frame_receive {events : List Ready} {r : Received}
    (hreceive : m.receive mktime events r = some m') :
    m'.init = m.init ∧ m'.caller = m.caller ∧ m'.written = m.written := by
  cases r with
  | data bytes =>
      obtain ⟨s, -, hm'⟩ := Option.map_eq_some_iff.mp hreceive
      obtain rfl := hm'
      exact ⟨rfl, rfl, rfl⟩
  | _ =>
      obtain rfl := Option.some.inj hreceive
      exact ⟨rfl, rfl, rfl⟩

theorem fresh_enter (h : m.Fresh) (utc_diff : Int) : (m.enter utc_diff).Running := by
  refine ⟨⟨⟨⟨m.written, h.queue, ?_⟩, m.callbacks.status_cb, ?_⟩, ?_, ?_, ?_⟩, ?_⟩
  · exact (congrArg (· ++ m.written) h.read).symm
  · refine (statusesOf_status m.log _ _).trans ?_
    rw [h.statuses, show (m.enter utc_diff).read = [] from h.read]
    rfl
  · refine (accept_concat m.log _).trans ?_
    rw [h.accepted]
    rfl
  · rw [show (m.enter utc_diff).read = [] from h.read]
    rfl
  · rw [show (m.enter utc_diff).read = [] from h.read]
    exact List.not_mem_nil
  · intro hcallback
    cases hcallback

theorem sound_step {l : Label} (h : m.Sound) (hstep : Step mktime m l m') : m'.Sound := by
  have hstanding := h.standing
  cases hstep with
  | init callbacks outcome hcaller => exact sound_init h callbacks outcome hcaller
  | initialized hcaller =>
      refine ⟨standing_initialized _ hstanding (h.initializing hcaller), ?_, ?_, h.closed⟩
      · exact fun hoff => ⟨(h.idle hoff).1, rfl⟩
      · intro callbacks hinitializing
        cases hinitializing
  | start hcaller =>
      rw [gps_start]
      split
      · exact sound_send h .CMD_START hcaller
      · exact h
  | stop hcaller =>
      rw [gps_stop]
      split
      · exact sound_send h .CMD_STOP hcaller
      · exact h
  | cleanup sent hcaller =>
      rw [gps_cleanup]
      split
      · rename_i hinit
        cases sent with
        | true => exact sound_join (sound_send h .CMD_QUIT hcaller) ((init_send m _).trans hinit)
        | false => exact sound_join h hinit
      · exact h
  | joined hcaller hthread => exact sound_joined h hthread
  | enter utc_diff hplace =>
      rw [hplace] at hstanding
      have hopen : m.closed = false := h.open_of_place fun events => by simp [hplace]
      refine h.moved (fresh_enter hstanding utc_diff) (by simp [hplace]) rfl rfl rfl ?_
      intro hclosed
      rw [show (m.enter utc_diff).closed = false from hopen] at hclosed
      cases hclosed
  | @wait events hplace hevents =>
      rw [hplace] at hstanding
      have hopen : m.closed = false := h.open_of_place fun events => by simp [hplace]
      refine h.moved (hstanding.setPlace _) (by simp [hplace]) rfl rfl rfl ?_
      intro hclosed
      rw [show (m.setPlace (.handling events)).closed = false from hopen] at hclosed
      cases hclosed
  | @handle events hplace =>
      rw [hplace] at hstanding
      have hopen : m.closed = false := h.open_of_place fun events => by simp [hplace]
      obtain ⟨hinit, hcaller, hwritten, hclosed⟩ := frame_handle m events
      refine h.moved (standing_handle hstanding events) (by simp [hplace]) hinit hcaller hwritten ?_
      intro hclosed'
      rw [hclosed, hopen] at hclosed'
      cases hclosed'
  | @receive m' events r hplace hr hreceive =>
      rw [hplace] at hstanding
      obtain ⟨hinit, hcaller, hwritten⟩ := frame_receive hreceive
      have hrunning := running_receive hstanding hreceive
      rcases place_receive hplace hr hreceive with hplace' | ⟨hplace', hopen⟩
      · refine h.moved ?_ (by simp [hplace]) hinit hcaller hwritten fun _ => ⟨events, hplace'⟩
        rw [hplace']
        exact hrunning
      · refine h.moved ?_ (by simp [hplace]) hinit hcaller hwritten ?_
        · rw [hplace']
          exact hrunning
        · intro hclosed
          rw [hopen] at hclosed
          cases hclosed

theorem sound_opened : (opened : GpsState F).Sound := by
  refine ⟨rfl, fun _ => ⟨rfl, rfl⟩, ?_, ?_⟩
  · intro callbacks hinitializing
    cases hinitializing
  · intro hclosed
    cases hclosed

end GpsState

variable {trace : List (Label × GpsState F)}

theorem sound_endState (hrun : Run (LiveStep mktime) GpsState.opened trace) :
    (endState GpsState.opened trace).Sound :=
  hrun.inv_endState (fun _ _ _ h hstep => GpsState.sound_step h hstep.2) GpsState.sound_opened

/-! ## What is called back -/

/-- Whatever the caller, the daemon and the scheduler do, what is called back is a sequence of
lives, with the fixes inside the sessions; after `gps_cleanup` there is nothing. -/
theorem accept_log (hrun : Run (LiveStep mktime) GpsState.opened trace) :
    ∃ phase, accept (endState GpsState.opened trace).log = some phase ∧
      ((endState GpsState.opened trace).init = false → phase = .off) := by
  have hsound := sound_endState hrun
  generalize endState GpsState.opened trace = m at hsound ⊢
  have hstanding := hsound.standing
  have hinit : m.thread.place ≠ .absent → m.init ≠ false :=
    fun hthere hoff => hthere (hsound.idle hoff).1
  cases hplace : m.thread.place with
  | absent =>
      rw [hplace] at hstanding
      exact ⟨.off, hstanding, fun _ => rfl⟩
  | created =>
      rw [hplace] at hstanding
      exact ⟨.dark, hstanding.accepted, fun hoff => absurd hoff (hinit (by simp [hplace]))⟩
  | returned =>
      rw [hplace] at hstanding
      obtain ⟨phase, -, haccepted⟩ := hstanding.accepted
      exact ⟨phase, haccepted, fun hoff => absurd hoff (hinit (by simp [hplace]))⟩
  | _ =>
      rw [hplace] at hstanding
      exact ⟨_, hstanding.accepted, fun hoff => absurd hoff (hinit (by simp [hplace]))⟩

/-- While there is a thread, the commands are read in the order in which they were written, and
the statuses of this life are the answers to those that have been read.  Only the first one can
miss its callback. -/
theorem statuses_of_commands (hrun : Run (LiveStep mktime) GpsState.opened trace)
    (hthere : (endState GpsState.opened trace).thread.place ≠ .absent) :
    let m := endState GpsState.opened trace
    (∃ queue, m.control = some queue ∧ m.written = m.read ++ queue) ∧
      (m.thread.place = .created → m.read = [] ∧ statusesOf m.log = []) ∧
      (m.thread.place ≠ .created → ∃ heard, statusesOf m.log =
        (.GPS_STATUS_ENGINE_ON, heard) ::
          (react false m.read).map fun val => (val, m.callbacks.status_cb)) := by
  have hsound := sound_endState hrun
  generalize endState GpsState.opened trace = m at hsound hthere
  dsimp only
  have hstanding := hsound.standing
  have hanswered : m.thread.place ≠ .created → m.Answered := by
    intro hentered
    cases hplace : m.thread.place with
    | absent => exact absurd hplace hthere
    | created => exact absurd hplace hentered
    | returned =>
        rw [hplace] at hstanding
        exact hstanding.answered
    | _ =>
        rw [hplace] at hstanding
        exact hstanding.answered
  by_cases hcreated : m.thread.place = .created
  · rw [hcreated] at hstanding
    refine ⟨⟨m.written, hstanding.queue, by rw [hstanding.read, List.nil_append]⟩,
      fun _ => ⟨hstanding.read, hstanding.statuses⟩, fun hentered => absurd hcreated hentered⟩
  · exact ⟨(hanswered hcreated).queue, fun h => absurd h hcreated,
      fun _ => (hanswered hcreated).statuses⟩

/-! ## A run -/

/-- The engine is on before the callbacks are copied; then the caller starts and cleans up. -/
def sampleTrace : List (Label × GpsState ℚ) :=
  traceOf
    (fun m l =>
      match l with
      | .init callbacks outcome => m.gps_init callbacks outcome
      | .initialized => { m with callbacks := ⟨true, true⟩, caller := .idle }
      | .start => m.gps_start
      | .stop => m.gps_stop
      | .cleanup sent => m.gps_cleanup sent
      | .enter utc_diff => m.enter utc_diff
      | _ => m)
    GpsState.opened
    [.init ⟨true, true⟩ .connected, .enter 0, .initialized, .start, .cleanup true]

theorem run_sampleTrace : Run (LiveStep fun _ => 0) GpsState.opened sampleTrace :=
  .next ⟨rfl, .init ⟨true, true⟩ .connected rfl⟩ <|
    .next ⟨rfl, .enter 0 rfl⟩ <|
      .next ⟨rfl, .initialized rfl⟩ <|
        .next ⟨rfl, .start rfl⟩ <| .next ⟨rfl, .cleanup true rfl⟩ (.done _)

theorem place_sampleTrace : (endState GpsState.opened sampleTrace).thread.place = .waiting := rfl

theorem written_sampleTrace :
    (endState GpsState.opened sampleTrace).written = [.CMD_START, .CMD_QUIT] := rfl

theorem accept_log_sample : ∃ phase, accept (endState GpsState.opened sampleTrace).log = some phase ∧
    ((endState GpsState.opened sampleTrace).init = false → phase = .off) :=
  accept_log run_sampleTrace

theorem statuses_of_commands_sample :
    (∃ queue, (endState GpsState.opened sampleTrace).control = some queue ∧
        (endState GpsState.opened sampleTrace).written =
          (endState GpsState.opened sampleTrace).read ++ queue) ∧
      ∃ heard, statusesOf (endState GpsState.opened sampleTrace).log =
        [(GpsStatusValue.GPS_STATUS_ENGINE_ON, heard)] := by
  obtain ⟨hqueue, -, hstatuses⟩ := statuses_of_commands run_sampleTrace (by simp [place_sampleTrace])
  exact ⟨hqueue, hstatuses (by simp [place_sampleTrace])⟩

end Gps
end DeviceAndroVM
