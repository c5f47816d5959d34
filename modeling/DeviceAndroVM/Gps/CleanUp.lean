import DeviceAndroVM.Gps.StateThreadRuns

/-!
# Whether `gps_cleanup` returns

`gps_cleanup` tells the thread to quit and waits for its end.

* `Returns` — the thread can come to its end without a descriptor that fails.
* `GpsState.Leaving` — a thread that has not come to the end of the stream and still has to read
  `CMD_QUIT` can.
* `GpsState.Stuck` — one that has come to the end of the stream receives for ever.
* `cleanup_returns_iff` — both together, in every reachable state.
-/

namespace DeviceAndroVM
namespace Gps

open Library

variable {F : Type} [CDouble F] {mktime : Tm → Int} {m m' : GpsState F}
  {trace : List (Label × GpsState F)}

/-- No descriptor fails. -/
def Label.quiet : Label → Prop
  | .wait events => ∀ e ∈ events, e.failed = false
  | _ => True

/-- The join can return, without a descriptor that fails. -/
def Returns (mktime : Tm → Int) (m : GpsState F) : Prop :=
  ∃ more, Run (LiveStep mktime) m more ∧ (∀ entry ∈ more, entry.1.quiet) ∧
    (endState m more).caller = .idle

theorem Returns.step {l : Label} (h : Returns mktime m') (hquiet : l.quiet)
    (hstep : LiveStep mktime m l m') : Returns mktime m := by
  obtain ⟨more, hrun, hmore, hidle⟩ := h
  refine ⟨(l, m') :: more, .next hstep hrun, ?_, hidle⟩
  intro entry hmem
  rcases List.mem_cons.mp hmem with rfl | hmem
  · exact hquiet
  · exact hmore entry hmem

namespace GpsState

/-- The caller waits for a thread that still has some commands to read. -/
structure Leaving (m : GpsState F) (queue : List Command) : Prop where
  caller : m.caller = .joining
  live : m.thread.session.crashed = false
  isOpen : m.closed = false
  control : m.control = some queue

omit [CDouble F] in
theorem Leaving.setPlace {queue : List Command} (h : m.Leaving queue) (place : Place) :
    (m.setPlace place).Leaving queue := ⟨h.caller, h.live, h.isOpen, h.control⟩

omit [CDouble F] in
theorem Leaving.obey {cmd : Command} {queue : List Command} (h : m.Leaving (cmd :: queue))
    (events : List Ready) : ((m.took cmd queue).obey events cmd).Leaving queue := by
  obtain ⟨-, hcaller, -, hclosed, hcontrol, hcrashed⟩ := frame_obey (m.took cmd queue) events cmd
  exact ⟨hcaller.trans h.caller, hcrashed.trans h.live, hclosed.trans h.isOpen, hcontrol⟩

omit [CDouble F] in
theorem place_obey {cmd : Command} (hcmd : cmd ≠ .CMD_QUIT) (m : GpsState F)
    (events : List Ready) : (m.obey events cmd).thread.place = .handling events := by
  cases cmd with
  | CMD_QUIT => exact absurd rfl hcmd
  | _ =>
      rw [obey]
      split <;> rfl

theorem Leaving.returns_returned {queue : List Command} (h : m.Leaving queue)
    (hplace : m.thread.place = .returned) : Returns mktime m := by
  have hjoined : Returns mktime m.joined := ⟨[], .done _, by simp, rfl⟩
  exact hjoined.step (l := .joined) trivial ⟨h.live, .joined h.caller (.inl hplace)⟩

/-- A command is read: the thread returns at `CMD_QUIT`, and else goes on. -/
theorem Leaving.returns_took {cmd : Command} {queue : List Command} (h : m.Leaving (cmd :: queue))
    (events : List Ready) (hquit : .CMD_QUIT ∈ cmd :: queue)
    (hrest : ∀ m' : GpsState F, m'.Leaving queue → .CMD_QUIT ∈ queue →
      m'.thread.place = .handling events → Returns mktime m') :
    Returns mktime ((m.took cmd queue).obey events cmd) := by
  by_cases hcmd : cmd = .CMD_QUIT
  · subst hcmd
    exact (h.obey events).returns_returned rfl
  · have hmem : Command.CMD_QUIT ∈ queue := by
      rcases List.mem_cons.mp hquit with heq | hmem
      · exact absurd heq.symm hcmd
      · exact hmem
    exact hrest _ (h.obey events) hmem (place_obey hcmd _ events)

omit [CDouble F] in
theorem handle_command {cmd : Command} {queue : List Command} {events : List Ready}
    (hcontrol : m.control = some (cmd :: queue)) :
    m.handle (⟨.control, false, true⟩ :: events) = (m.took cmd queue).obey events cmd := by
  simp [handle, hcontrol]

/-- Each round takes one command. -/
theorem Leaving.returns_waiting {queue : List Command} (h : m.Leaving queue)
    (hquit : .CMD_QUIT ∈ queue) (hplace : m.thread.place = .waiting) : Returns mktime m := by
  induction queue generalizing m with
  | nil => cases hquit
  | cons cmd queue ih =>
      have hwait : m.CanWait [⟨.control, false, true⟩] := by
        refine ⟨by simp, fun e hmem _ => ?_⟩
        obtain rfl := List.mem_singleton.mp hmem
        exact ⟨rfl, fun _ => ⟨cmd, queue, h.control⟩⟩
      have hround : Returns mktime (((m.setPlace (.handling [⟨.control, false, true⟩])).took
          cmd queue).obey [] cmd) := by
        refine (h.setPlace _).returns_took [] hquit fun m' h' hquit' hplace' => ?_
        refine Returns.step (ih (h'.setPlace .waiting) hquit' rfl) (l := .handle) trivial
          ⟨h'.live, ?_⟩
        exact .handle hplace'
      refine Returns.step (l := .wait [⟨.control, false, true⟩]) ?_ (by simp [Label.quiet])
        ⟨h.live, .wait hplace hwait⟩
      rw [← handle_command (h.setPlace _).control] at hround
      exact hround.step (l := .handle) trivial ⟨h.live, .handle rfl⟩

/-- The events that are left are handled first. -/
theorem Leaving.returns_handling {events : List Ready} {queue : List Command}
    (h : m.Leaving queue) (hquit : .CMD_QUIT ∈ queue) (hplace : m.thread.place = .handling events) :
    Returns mktime m := by
  induction events generalizing m queue with
  | nil =>
      exact Returns.step ((h.setPlace .waiting).returns_waiting hquit rfl) (l := .handle) trivial
        ⟨h.live, .handle hplace⟩
  | cons e events ih =>
      refine Returns.step (l := .handle) ?_ trivial ⟨h.live, .handle hplace⟩
      rw [handle]
      split
      · exact (h.setPlace .returned).returns_returned rfl
      · split
        · split
          · split
            · rename_i cmd queue' hcontrol
              obtain rfl : cmd :: queue' = queue :=
                Option.some.inj (hcontrol.symm.trans h.control)
              exact h.returns_took events hquit fun m' h' hquit' hplace' => ih h' hquit' hplace'
            · exact ih (h.setPlace _) hquit rfl
          · -- the daemon has not closed, so `recv` can find nothing to read
            refine Returns.step (ih (h.setPlace (.handling events)) hquit rfl)
              (l := .receive .wouldBlock) trivial ⟨h.live, ?_⟩
            exact .receive rfl h.isOpen rfl
        · exact ih (h.setPlace _) hquit rfl

/-- At the end of the stream the thread stays in the loop that receives. -/
structure Stuck (m : GpsState F) : Prop where
  closed : m.closed = true
  place : ∃ events, m.thread.place = .receiving events
  caller : m.caller = .joining

theorem Stuck.step {l : Label} (h : m.Stuck) (hstep : Step mktime m l m') : m'.Stuck := by
  obtain ⟨hclosed, ⟨events, hplace⟩, hcaller⟩ := h
  cases hstep with
  | init callbacks outcome hcaller' => cases hcaller.symm.trans hcaller'
  | initialized hcaller' => cases hcaller.symm.trans hcaller'
  | start hcaller' => cases hcaller.symm.trans hcaller'
  | stop hcaller' => cases hcaller.symm.trans hcaller'
  | cleanup sent hcaller' => cases hcaller.symm.trans hcaller'
  | joined hcaller' hthread =>
      rcases hthread with hplace' | hplace'
      · cases hplace.symm.trans hplace'
      · cases hplace.symm.trans hplace'
  | enter utc_diff hplace' => cases hplace.symm.trans hplace'
  | wait hplace' hevents => cases hplace.symm.trans hplace'
  | handle hplace' => cases hplace.symm.trans hplace'
  | @receive m' events' r hplace' hr hreceive =>
      cases r with
      | zero =>
          obtain rfl := Option.some.inj hreceive
          exact ⟨rfl, ⟨events, hplace⟩, hcaller⟩
      | data bytes => cases hclosed.symm.trans hr.1
      | interrupted => cases hclosed.symm.trans hr
      | wouldBlock => cases hclosed.symm.trans hr
      | error => cases hclosed.symm.trans hr

theorem Stuck.not_returns (h : m.Stuck) : ¬ Returns mktime m := by
  rintro ⟨more, hrun, -, hidle⟩
  have hkeep : ∀ (m : GpsState F) (l : Label) (m' : GpsState F),
      m.Stuck → LiveStep mktime m l m' → m'.Stuck := fun _ _ _ h hstep => h.step hstep.2
  have hstuck := hrun.inv_endState hkeep h
  cases hstuck.caller.symm.trans hidle

end GpsState

/-- Once `gps_cleanup` has told the thread to quit, it can return exactly as long as the thread
has not come to the end of the stream. -/
theorem cleanup_returns_iff (hrun : Run (LiveStep mktime) GpsState.opened trace)
    (hjoining : (endState GpsState.opened trace).caller = .joining)
    (hlive : (endState GpsState.opened trace).thread.session.crashed = false)
    (hthere : (endState GpsState.opened trace).thread.place ≠ .absent)
    (hquit : .CMD_QUIT ∈ (endState GpsState.opened trace).written) :
    Returns mktime (endState GpsState.opened trace) ↔
      (endState GpsState.opened trace).closed = false := by
  have hsound := sound_endState hrun
  generalize endState GpsState.opened trace = m at *
  constructor
  · intro hreturns
    refine Bool.eq_false_iff.mpr fun hclosed => ?_
    have hstuck : m.Stuck := ⟨hclosed, hsound.closed hclosed, hjoining⟩
    exact hstuck.not_returns hreturns
  · intro hopen
    have hstanding := hsound.standing
    have hleft : m.Running → ∃ queue, m.Leaving queue ∧ .CMD_QUIT ∈ queue := by
      intro hrunning
      obtain ⟨queue, hcontrol, hqueue⟩ := hrunning.answered.queue
      rw [hqueue] at hquit
      rcases List.mem_append.mp hquit with hread | hmem
      · exact absurd hread hrunning.noQuit
      · exact ⟨queue, ⟨hjoining, hlive, hopen, hcontrol⟩, hmem⟩
    cases hplace : m.thread.place with
    | absent => exact absurd hplace hthere
    | created =>
        rw [hplace] at hstanding
        have hleaving : (m.enter 0).Leaving m.written := ⟨hjoining, hlive, hopen, hstanding.queue⟩
        exact Returns.step (hleaving.returns_waiting hquit rfl) (l := .enter 0) trivial
          ⟨hlive, .enter 0 hplace⟩
    | returned =>
        rw [hplace] at hstanding
        obtain ⟨queue, hcontrol, -⟩ := hstanding.answered.queue
        have hleaving : m.Leaving queue := ⟨hjoining, hlive, hopen, hcontrol⟩
        exact hleaving.returns_returned hplace
    | waiting =>
        rw [hplace] at hstanding
        obtain ⟨queue, hleaving, hmem⟩ := hleft hstanding
        exact hleaving.returns_waiting hmem hplace
    | handling events =>
        rw [hplace] at hstanding
        obtain ⟨queue, hleaving, hmem⟩ := hleft hstanding
        exact hleaving.returns_handling hmem hplace
    | receiving events =>
        rw [hplace] at hstanding
        obtain ⟨queue, hleaving, hmem⟩ := hleft hstanding
        exact Returns.step ((hleaving.setPlace (.handling events)).returns_handling hmem rfl)
          (l := .receive .wouldBlock) trivial ⟨hlive, .receive hplace hopen rfl⟩

theorem cleanup_returns_iff_sample : Returns (fun _ => 0) (endState GpsState.opened sampleTrace) :=
  (cleanup_returns_iff run_sampleTrace rfl rfl (by simp [place_sampleTrace])
    (by simp [written_sampleTrace])).mpr rfl

end Gps
end DeviceAndroVM
