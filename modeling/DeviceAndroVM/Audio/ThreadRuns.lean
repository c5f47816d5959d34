import DeviceAndroVM.Audio.ActiveStreams
import DeviceAndroVM.Audio.LockedPrograms

/-!
# Threads on the audio device

Any number of threads make calls on the device and its streams, each one call after the other.

* `Call.Effect` — what a call does to the device.
* `serves_standby`, `serves_outWrite`, `serves_inRead`, … — every call keeps to the discipline
  and has its effect before it gives the mutex of the device back.
* `ThreadRun` — threads that make calls after some history of the device.
* `threads_go_on` — no deadlock, and every access behind its mutexes.
* `threads_serial` — what the threads do is what their calls do one after the other.
* `threads_pcm_open` — no pcm is used or closed after it was closed.
-/

namespace DeviceAndroVM
namespace Audio

open Library

variable {M : Platform} {d d' : Device} {k : Kind} {h h' : Handle} {s : Stream}
  {w : Place Lock Call Device} {effect : Call → Device → Device → Prop} {x : Access}
  {Q : Unit → Place Lock Call Device → Device → Prop}

/-! ## The calls -/

namespace Call

/-- What a call does to the device: nothing, or what the function of the device says, with the
answers of `pcm_open`. -/
def Effect (M : Platform) (call : Call) (d d' : Device) : Prop :=
  match call with
  | outStandby out => OpStep M d (.outStandby out) d'
  | inStandby i => OpStep M d (.inStandby i) d'
  | outSetParameters _ none | inSetParameters _ none => d' = d
  | outSetParameters out (some val) => OpStep M d (.outSetParameters out val) d'
  | inSetParameters i (some val) => OpStep M d (.inSetParameters i val) d'
  | outGetLatency _ | adevSetParameters => d' = d
  | outWrite out _ => ∃ opened again, OpStep M d (.outWrite out opened again) d'
  | inRead i _ => ∃ opened, OpStep M d (.inRead i opened) d'

/-- The stream of the call is open. -/
def Open (d : Device) : Call → Prop
  | outStandby out | outSetParameters out _ | outGetLatency out | outWrite out _ =>
      d.Has .output out
  | inStandby i | inSetParameters i _ | inRead i _ => d.Has .input i
  | adevSetParameters => True

end Call

/-- Where a thread is between two calls. -/
def between (calls : List Call) : Place Lock Call Device := ⟨∅, none, calls⟩

/-- The place of a thread with the mutex of the device only. -/
def inside (d₀ : Device) (calls : List Call) : Place Lock Call Device := ⟨{.device}, some d₀, calls⟩

variable {call : Call} {calls : List Call} {d₀ : Device}

/-- After the call the thread is at the next one. -/
def Served (calls : List Call) (_ : Unit) (w : Place Lock Call Device) (_ : Device) : Prop :=
  w = between calls

/-- The mutex of the device is taken. -/
theorem serves_lock_device
    (hrest : ∀ d', (∀ k h, d.Has k h → d'.Has k h) → d'.ActiveOpen →
      Q () (inside d' calls) d') :
    guarded.Serves effect (LockProg.lock .device) Q (between calls) d :=
  Guarded.serves_enter rfl fun d' hrely hactive => hrest d' (fun _ _ => rely_has hrely) hactive

/-- The mutex of the device is given back when the call has had its effect. -/
theorem serves_unlock_device (hgate : Lock.device ∈ w.held) (hentered : w.entered = some d₀)
    (hcalls : w.calls = call :: calls) (heffect : call.Effect M d₀ d) (hactive : d.ActiveOpen)
    (hrest : Q () ⟨w.held \ {.device}, none, calls⟩ d) :
    guarded.Serves (Call.Effect M) (LockProg.unlock .device) Q w d :=
  Guarded.serves_leave hgate hentered hcalls heffect hactive hrest

/-- The same for a call that takes no other mutex in the end. -/
theorem serves_end (heffect : call.Effect M d₀ d) (hactive : d.ActiveOpen) :
    guarded.Serves (Call.Effect M) (LockProg.unlock .device) (Served calls)
      (inside d₀ (call :: calls)) d := by
  refine serves_unlock_device (Set.mem_singleton _) rfl rfl heffect hactive ?_
  simp [Served, between, inside]

/-- What a call leaves of the active streams. -/
theorem activeOpen_withStreams {t : Streams} (hactive : d.ActiveOpen)
    (hkeep : ∀ h, (d.streams k).stream h ≠ none → t.stream h ≠ none)
    (ht : ∀ h, t.active = some h → t.stream h ≠ none) : (d.withStreams k t).ActiveOpen := by
  intro k' h hh
  by_cases hk : k' = k
  · subst hk
    rw [Device.Has, Device.streams_withStreams_self]
    rw [Device.streams_withStreams_self] at hh
    exact ht h hh
  · rw [Device.streams_withStreams_of_ne hk] at hh
    rw [Device.Has, Device.streams_withStreams_of_ne hk]
    exact hactive k' h hh

theorem activeOpen_congr (hactive : d.ActiveOpen) (hsame : ∀ k, d'.streams k = d.streams k) :
    d'.ActiveOpen := by
  intro k h hh
  rw [hsame] at hh
  rw [Device.Has, hsame]
  exact hactive k h hh

theorem activeOpen_doStandby (hactive : d.ActiveOpen) (k : Kind) (h : Handle) :
    (d.doStandby k h).ActiveOpen := by
  cases hs : (d.streams k).stream h with
  | none =>
      have hsame : d.doStandby k h = d := by simp [Device.doStandby, Streams.doStandby, hs]
      rwa [hsame]
  | some s =>
      cases hstandby : s.standby with
      | true =>
          rw [doStandby_of_standby hs hstandby]
          exact hactive
      | false =>
          rw [doStandby_of_not_standby hs hstandby]
          refine activeOpen_withStreams hactive (fun h' hh' => ?_) fun h' hnone => by cases hnone
          by_cases hne : h' = h
          · simp [Streams.set, hne]
          · simpa [Streams.set, hne] using hh'

theorem activeOpen_yield (hactive : d.ActiveOpen) (k : Kind) (conflict : Nat → Bool) :
    (d.yield k conflict).ActiveOpen := by
  unfold Device.yield
  split
  · exact hactive
  · split
    · exact activeOpen_doStandby hactive _ _
    · exact hactive

theorem set_ne_none {t : Streams} {o : Option Stream} (ho : o ≠ none)
    (hh : t.stream h' ≠ none) : (t.set h o).stream h' ≠ none := by
  by_cases hne : h' = h
  · simpa [Streams.set, hne] using ho
  · simpa [Streams.set, hne] using hh

theorem activeOpen_started (hactive : d.ActiveOpen) (k : Kind) (h : Handle) (opened : PcmOpen) :
    (d.started k h opened).1.ActiveOpen := by
  unfold Device.started
  split
  · exact activeOpen_withStreams hactive (fun _ => set_ne_none nofun)
      fun h' hh' => set_ne_none nofun (hactive k h' hh')
  · refine activeOpen_withStreams hactive (fun _ => set_ne_none nofun) fun h' hh' => ?_
    obtain rfl := Option.some.inj hh'
    simp [Streams.set]

theorem activeOpen_leaveStandby (hactive : d.ActiveOpen) (hs : (d.streams k).stream h = some s) :
    (d.withStreams k ((d.streams k).leaveStandby h)).ActiveOpen := by
  have hsome : ((d.streams k).stream h).map (fun s => { s with standby := false }) ≠ none := by
    simp [hs]
  exact activeOpen_withStreams hactive (fun _ => set_ne_none hsome)
    fun h' hh' => set_ne_none hsome (hactive k h' hh')

/-! ## Standby and routing -/

theorem serves_standby (hhas : d.Has k h)
    (heffect : ∀ d, d.Has k h → call.Effect M d (d.doStandby k h)) :
    guarded.Serves (Call.Effect M) (Thread.standby k h) (Served calls) (between (call :: calls))
      d := by
  refine Guarded.serves_bind.mpr (serves_lock_device fun d hkeep hactive => ?_)
  refine Guarded.serves_bind.mpr (serves_lockedStandby (Set.mem_singleton _) (by simp [inside])
    (hkeep k h hhas) ?_)
  exact serves_end (heffect d (hkeep k h hhas)) (activeOpen_doStandby hactive k h)

/-- The routing changes to `val`. -/
def Device.reroute (d : Device) (k : Kind) (sco : BitVec 32) (h : Handle) (val : BitVec 32) :
    Device :=
  if reroutes (d.routing k) val then
    (if togglesSco sco (d.routing k) val then d.doStandby k h else d).withRouting k val
  else d

theorem activeOpen_reroute (hactive : d.ActiveOpen) (k : Kind) (sco : BitVec 32) (h : Handle)
    (val : BitVec 32) : (d.reroute k sco h val).ActiveOpen := by
  unfold Device.reroute
  split
  · refine activeOpen_congr ?_ fun k' => Device.streams_withRouting _ k k' val
    split
    · exact activeOpen_doStandby hactive k h
    · exact hactive
  · exact hactive

theorem serves_setRouting {sco val : BitVec 32} (hgate : Lock.device ∈ w.held)
    (hfree : Lock.stream k h ∉ w.held) (hhas : d.Has k h)
    (hrest : Q () w (d.reroute k sco h val)) :
    guarded.Serves effect (Thread.setRouting k sco h val) Q w d := by
  have hdevice : ({Lock.device} : Set Lock) ⊆ w.held := Set.singleton_subset_iff.mpr hgate
  refine Guarded.serves_bind.mpr (serves_read _ hgate hdevice (fun _ _ => access_routing) ?_)
  unfold Device.reroute at hrest
  split
  · rename_i hreroutes
    rw [if_pos hreroutes] at hrest
    split
    · rename_i htoggles
      rw [if_pos htoggles] at hrest
      refine Guarded.serves_bind.mpr (serves_lockedStandby hgate hfree hhas ?_)
      exact serves_write () hgate hdevice (fun _ => rfl) fun _ => hrest
    · rename_i htoggles
      rw [if_neg htoggles] at hrest
      exact serves_write () hgate hdevice (fun _ => rfl) fun _ => hrest
  · rename_i hreroutes
    rw [if_neg hreroutes] at hrest
    exact hrest

theorem serves_outSetParameters {val : Option (BitVec 32)} (hhas : d.Has .output h) :
    guarded.Serves (Call.Effect M) (Thread.outSetParameters M h val) (Served calls)
      (between (.outSetParameters h val :: calls)) d := by
  refine Guarded.serves_bind.mpr (serves_lock_device fun d hkeep hactive => ?_)
  cases val with
  | none => exact serves_end rfl hactive
  | some val =>
      refine Guarded.serves_bind.mpr (serves_setRouting (Set.mem_singleton _) (by simp [inside])
        (hkeep _ h hhas) ?_)
      exact serves_end ⟨hkeep _ h hhas, rfl⟩ (activeOpen_reroute hactive _ _ h val)

theorem serves_inSetParameters {val : Option (BitVec 32)} (hhas : d.Has .input h) :
    guarded.Serves (Call.Effect M) (Thread.inSetParameters M h val) (Served calls)
      (between (.inSetParameters h val :: calls)) d := by
  refine Guarded.serves_bind.mpr (serves_lock_device fun d hkeep hactive => ?_)
  cases val with
  | none => exact serves_end rfl hactive
  | some val =>
      refine Guarded.serves_bind.mpr (serves_setRouting (Set.mem_singleton _) (by simp [inside])
        (hkeep _ h hhas) ?_)
      exact serves_end ⟨hkeep _ h hhas, rfl⟩ (activeOpen_reroute hactive _ _ h _)

theorem serves_outGetLatency (out : Handle) :
    guarded.Serves (Call.Effect M) Thread.outGetLatency (Served calls)
      (between (.outGetLatency out :: calls)) d := by
  refine Guarded.serves_bind.mpr (serves_lock_device fun d _ hactive => ?_)
  have hend : guarded.Serves (Call.Effect M) (LockProg.unlock .device) (Served calls)
      (inside d (.outGetLatency out :: calls)) d := serves_end rfl hactive
  refine Guarded.serves_bind.mpr (serves_write false (Set.mem_singleton _) (Set.empty_subset _)
    (fun _ => rfl) fun _ => ?_)
  refine Guarded.serves_bind.mpr (serves_read _ (Set.mem_singleton _) (Set.Subset.refl _)
    (fun _ _ => access_active) ?_)
  refine Guarded.serves_bind.mpr (serves_read _ (Set.mem_singleton _) (Set.Subset.refl _)
    (fun _ _ => access_routing) ?_)
  refine Guarded.serves_bind.mpr (hend.mono ?_)
  rintro _ w d rfl
  refine Guarded.serves_bind.mpr (Guarded.serves_access_of_keeps (P := fun _ => True)
    (Set.empty_subset _) (fun _ _ _ _ => trivial) trivial ?_ fun _ _ _ _ _ => rfl)
  exact fun d _ => ⟨d.rate, d, access_rate.mpr ⟨rfl, rfl⟩⟩

theorem serves_adevSetParameters :
    guarded.Serves (Call.Effect M) Thread.adevSetParameters (Served calls)
      (between (.adevSetParameters :: calls)) d := by
  refine Guarded.serves_bind.mpr (serves_lock_device fun d _ hactive => ?_)
  refine Guarded.serves_bind.mpr (serves_write () (Set.mem_singleton _) (Set.Subset.refl _)
    (fun _ => rfl) fun _ => ?_)
  exact serves_end rfl hactive

/-! ## Writes and reads -/

/-- The place of a thread with the mutex of the device and that of a stream. -/
def insideStream (k : Kind) (h : Handle) (d₀ : Device) (calls : List Call) :
    Place Lock Call Device := ⟨{.stream k h, .device}, some d₀, calls⟩

theorem both_subset : ({.device, .stream k h} : Set Lock) ⊆ (insideStream k h d₀ calls).held :=
  (Set.pair_comm _ _).subset

theorem device_mem : Lock.device ∈ (insideStream k h d₀ calls).held :=
  both_subset (Set.mem_insert _ _)

theorem device_subset : ({.device} : Set Lock) ⊆ (insideStream k h d₀ calls).held :=
  Set.singleton_subset_iff.mpr device_mem

theorem stream_subset : ({.stream k h} : Set Lock) ⊆ (insideStream k h d₀ calls).held :=
  Set.Subset.trans (Set.subset_insert _ _) both_subset

/-- The mutex of the device is given back, and that of the stream is kept. -/
theorem serves_unlock_inside (heffect : call.Effect M d₀ d) (hactive : d.ActiveOpen)
    (hrest : Q () ⟨{.stream k h}, none, calls⟩ d) :
    guarded.Serves (Call.Effect M) (LockProg.unlock .device) Q
      (insideStream k h d₀ (call :: calls)) d := by
  refine serves_unlock_device device_mem rfl rfl heffect hactive ?_
  have hheld : (insideStream k h d₀ (call :: calls)).held \ {.device} = {.stream k h} := by
    ext l
    by_cases hl : l = .device <;> simp [insideStream, hl]
  rw [hheld]
  exact hrest

/-- The mutexes are given back after the stream could not be started. -/
theorem serves_failed {p : Thread Unit} (heffect : call.Effect M d₀ d) (hactive : d.ActiveOpen)
    (hs : (d.streams k).stream h = some s) (hstandby : s.standby = true)
    (hp : ∀ d, guarded.Serves (Call.Effect M) p (Served calls) (between calls) d) :
    guarded.Serves (Call.Effect M)
      (do LockProg.unlock .device; LockProg.unlock (.stream k h); p) (Served calls)
      (insideStream k h d₀ (call :: calls)) d := by
  refine Guarded.serves_bind.mpr (serves_unlock_inside heffect hactive ?_)
  have hkeep : ∀ d₁ d₂, guarded.Rely {Lock.stream k h} d₁ d₂ →
      (d₁.streams k).stream h = some s → (d₂.streams k).stream h = some s :=
    fun _ _ hrely hs => (rely_stream (Set.mem_singleton _) hrely).trans hs
  refine Guarded.serves_bind.mpr (Guarded.serves_unlock nofun (Set.mem_singleton _) hkeep hs ?_ ?_)
  · intro d hs s' hs' hout
    rw [hs] at hs'
    obtain rfl := Option.some.inj hs'
    rw [hstandby] at hout
    cases hout
  · intro d _
    have hheld : ({Lock.stream k h} : Set Lock) \ {.stream k h} = ∅ := by simp
    rw [hheld]
    exact hp d

/-- A stream that has started leaves standby. -/
theorem running_leaveStandby (hs : (d.streams k).stream h = some s) (hpcm : s.pcm ≠ .closed) :
    (d.withStreams k ((d.streams k).leaveStandby h)).Running k h := by
  refine ⟨{ s with standby := false }, ?_, rfl, hpcm⟩
  simp [Streams.leaveStandby, hs]

theorem serves_leaveStandby {b : Bool} (hs : (d.streams k).stream h = some s)
    (hrest : Q () (insideStream k h d₀ calls)
      (if b then d.withStreams k ((d.streams k).leaveStandby h) else d)) :
    guarded.Serves effect
      (if b then LockProg.access (Access.setStandby k h false) else pure ()) Q
      (insideStream k h d₀ calls) d := by
  cases b with
  | false => exact hrest
  | true =>
      refine serves_change () both_subset rfl hs (fun _ => rfl) fun _ => ?_
      have hleave : (d.streams k).leaveStandby h =
          (d.streams k).set h (some { s with standby := false }) := by
        simp [Streams.leaveStandby, hs]
      rw [if_pos rfl, hleave] at hrest
      exact hrest

/-- What is left of a start: an error and a stream in standby, or none and a stream that can leave
standby. -/
def Started (k : Kind) (h : Handle) (r : Device × Int) : Prop :=
  r.1.ActiveOpen ∧ ∃ s, (r.1.streams k).stream h = some s ∧
    (s.standby = true ∧ r.2 = -ENOMEM ∨ s.pcm ≠ .closed ∧ r.2 = 0)

theorem started_started (hactive : d.ActiveOpen) (k : Kind) (h : Handle) (opened : PcmOpen) :
    Started k h (d.started k h opened) := by
  refine ⟨activeOpen_started hactive k h opened, ?_⟩
  unfold Device.started
  cases opened with
  | notReady => exact ⟨⟨.closed, true⟩, by simp [PcmOpen.failed], Or.inl ⟨rfl, rfl⟩⟩
  | null =>
      exact ⟨⟨.null, true⟩, by simp [PcmOpen.failed, PcmOpen.pointer, Streams.set],
        Or.inr ⟨by simp, rfl⟩⟩
  | ready =>
      exact ⟨⟨.opened, true⟩, by simp [PcmOpen.failed, PcmOpen.pointer, Streams.set],
        Or.inr ⟨by simp, rfl⟩⟩

theorem started_startOutputStream (hactive : d.ActiveOpen) (h : Handle) (opened again : PcmOpen) :
    Started .output h (d.startOutputStream h opened again) := by
  have hyield := activeOpen_yield hactive .input
    fun rate => Device.ratesConflict rate IN_SAMPLING_RATE
  exact started_started
    (activeOpen_congr hyield fun _ => Device.streams_openOutput _ opened again) _ _ _

theorem started_startInputStream (hactive : d.ActiveOpen) (h : Handle) (opened : PcmOpen) :
    Started .input h (d.startInputStream h opened) := by
  exact started_started (activeOpen_yield hactive .output
    fun rate => Device.ratesConflict IN_SAMPLING_RATE rate) _ _ _

/-- The place of a thread with the mutex of a stream only. -/
theorem between_eq : (⟨({.stream k h} : Set Lock) \ {.stream k h}, none, calls⟩ :
    Place Lock Call Device) = between calls := by
  simp [between]

theorem serves_writeSamples (polls : Nat) (heffect : call.Effect M d₀ d) (hactive : d.ActiveOpen)
    (hrun : d.Running .output h) :
    guarded.Serves (Call.Effect M) (Thread.writeSamples h polls) (Served calls)
      (insideStream .output h d₀ (call :: calls)) d := by
  refine Guarded.serves_bind.mpr
    (serves_write false device_mem (Set.empty_subset _) (fun _ => rfl) fun _ => ?_)
  refine Guarded.serves_bind.mpr
    (serves_read _ device_mem device_subset (fun _ _ => access_active) ?_)
  refine Guarded.serves_bind.mpr
    (serves_read _ device_mem device_subset (fun _ _ => access_routing) ?_)
  refine Guarded.serves_bind.mpr (serves_unlock_inside heffect hactive ?_)
  have hlock : Lock.stream .output h ∈ ({.stream .output h} : Set Lock) := Set.mem_singleton _
  refine Guarded.serves_bind.mpr (serves_running hlock (Set.Subset.refl _) hrun
    (fun _ _ => ⟨(), rfl⟩) rfl fun _ d hrun => ?_)
  refine Guarded.serves_bind.mpr (serves_running hlock (Set.empty_subset _) hrun
    (fun d _ => ⟨d.rate, access_rate.mpr ⟨rfl, rfl⟩⟩) rfl fun _ d hrun => ?_)
  refine Guarded.serves_bind.mpr (serves_transfers polls hlock hrun fun d hrun => ?_)
  refine Guarded.serves_bind.mpr (serves_running hlock (Set.empty_subset _) hrun
    (fun _ _ => ⟨false, rfl⟩) rfl fun _ d hrun => ?_)
  refine Guarded.serves_bind.mpr (serves_running hlock (Set.Subset.refl _) hrun
    (fun _ hrun => ⟨0, exists_transfer hrun 0⟩) rfl fun ret d hrun => ?_)
  split
  · exact serves_unlock_running hlock hrun fun _ => between_eq
  · exact Guarded.serves_bind.mpr
      (serves_unlock_running hlock hrun fun d => serves_sleep ret fun _ => between_eq)

theorem serves_readSamples (reads : Nat) (heffect : call.Effect M d₀ d) (hactive : d.ActiveOpen)
    (hrun : d.Running .input h) :
    guarded.Serves (Call.Effect M) (Thread.readSamples h reads) (Served calls)
      (insideStream .input h d₀ (call :: calls)) d := by
  refine Guarded.serves_bind.mpr (serves_unlock_inside heffect hactive ?_)
  have hlock : Lock.stream .input h ∈ ({.stream .input h} : Set Lock) := Set.mem_singleton _
  refine Guarded.serves_bind.mpr (serves_transfers reads hlock hrun fun d hrun => ?_)
  refine Guarded.serves_bind.mpr (serves_running hlock (Set.Subset.refl _) hrun
    (fun _ _ => ⟨(), rfl⟩) rfl fun _ d hrun => ?_)
  refine Guarded.serves_bind.mpr (serves_running hlock (Set.empty_subset _) hrun
    (fun _ _ => ⟨false, rfl⟩) rfl fun _ d hrun => ?_)
  exact serves_unlock_running hlock hrun fun _ => between_eq

theorem inStandby_eq (hs : (d.streams k).stream h = some s) :
    (d.streams k).inStandby h = s.standby := by
  simp [Streams.inStandby, hs]

theorem serves_outWrite (polls : Nat) (hhas : d.Has .output h) :
    guarded.Serves (Call.Effect M) (Thread.outWrite h polls) (Served calls)
      (between (.outWrite h polls :: calls)) d := by
  refine Guarded.serves_bind.mpr (serves_lock_device fun d hkeep hactive => ?_)
  have hhas := hkeep _ h hhas
  refine Guarded.serves_bind.mpr
    (Guarded.serves_lock (Set.mem_singleton _) (by simp [inside]) fun hpcm => ?_)
  change guarded.Serves _ _ _ (insideStream .output h d (.outWrite h polls :: calls)) d
  obtain ⟨s, hs⟩ := Option.ne_none_iff_exists'.mp hhas
  refine Guarded.serves_bind.mpr
    (serves_read s.standby device_mem stream_subset (fun _ _ => access_standby hs) ?_)
  cases hstandby : s.standby with
  | false =>
      have hsame : d.outWrite h .ready .ready = d :=
        Device.outWrite_of_not_inStandby ((inStandby_eq hs).trans hstandby)
      exact serves_writeSamples polls ⟨.ready, .ready, hhas, hsame.symm⟩ hactive
        ⟨s, hs, hstandby, hpcm s hs hstandby⟩
  | true =>
      refine Guarded.serves_bind.mpr (serves_startOutputStream both_subset (by simp [insideStream])
        hactive hs hstandby fun opened again => ?_)
      have heffect : d.outWrite h opened again = _ :=
        Device.outWrite_of_inStandby ((inStandby_eq hs).trans hstandby)
      obtain ⟨hactive', s', hs', ⟨hstandby', hret⟩ | ⟨hpcm', hret⟩⟩ :=
        started_startOutputStream hactive h opened again
      · rw [hret] at heffect ⊢
        exact serves_failed ⟨opened, again, hhas, heffect.symm⟩ hactive' hs' hstandby'
          fun d => serves_sleep _ fun _ => rfl
      · rw [hret] at heffect ⊢
        refine Guarded.serves_bind.mpr (serves_leaveStandby (b := true) hs' ?_)
        exact serves_writeSamples polls ⟨opened, again, hhas, heffect.symm⟩
          (activeOpen_leaveStandby hactive' hs') (running_leaveStandby hs' hpcm')

theorem serves_inRead (reads : Nat) (hhas : d.Has .input h) :
    guarded.Serves (Call.Effect M) (Thread.inRead h reads) (Served calls)
      (between (.inRead h reads :: calls)) d := by
  refine Guarded.serves_bind.mpr (serves_lock_device fun d hkeep hactive => ?_)
  have hhas := hkeep _ h hhas
  refine Guarded.serves_bind.mpr
    (Guarded.serves_lock (Set.mem_singleton _) (by simp [inside]) fun hpcm => ?_)
  change guarded.Serves _ _ _ (insideStream .input h d (.inRead h reads :: calls)) d
  obtain ⟨s, hs⟩ := Option.ne_none_iff_exists'.mp hhas
  refine Guarded.serves_bind.mpr
    (serves_read s.standby device_mem stream_subset (fun _ _ => access_standby hs) ?_)
  cases hstandby : s.standby with
  | false =>
      have hsame : d.inRead h .ready = d :=
        Device.inRead_of_not_inStandby ((inStandby_eq hs).trans hstandby)
      exact serves_readSamples reads ⟨.ready, hhas, hsame.symm⟩ hactive
        ⟨s, hs, hstandby, hpcm s hs hstandby⟩
  | true =>
      refine Guarded.serves_bind.mpr (serves_startInputStream both_subset (by simp [insideStream])
        hactive hs hstandby fun opened => ?_)
      have heffect : d.inRead h opened = _ :=
        Device.inRead_of_inStandby ((inStandby_eq hs).trans hstandby)
      obtain ⟨hactive', s', hs', ⟨hstandby', hret⟩ | ⟨hpcm', hret⟩⟩ :=
        started_startInputStream hactive h opened
      · rw [hret] at heffect ⊢
        exact serves_failed (p := pure ()) ⟨opened, hhas, heffect.symm⟩ hactive' hs' hstandby'
          fun _ => rfl
      · rw [hret] at heffect ⊢
        refine Guarded.serves_bind.mpr (serves_leaveStandby (b := true) hs' ?_)
        exact serves_readSamples reads ⟨opened, hhas, heffect.symm⟩
          (activeOpen_leaveStandby hactive' hs') (running_leaveStandby hs' hpcm')

theorem serves_serve (hopen : call.Open d) :
    guarded.Serves (Call.Effect M) (Thread.serve M call) (Served calls) (between (call :: calls))
      d := by
  cases call with
  | outStandby out => exact serves_standby hopen fun _ hhas => ⟨hhas, rfl⟩
  | inStandby i => exact serves_standby hopen fun _ hhas => ⟨hhas, rfl⟩
  | outSetParameters out val => exact serves_outSetParameters hopen
  | inSetParameters i val => exact serves_inSetParameters hopen
  | outGetLatency out => exact serves_outGetLatency out
  | adevSetParameters => exact serves_adevSetParameters
  | outWrite out polls => exact serves_outWrite polls hopen
  | inRead i reads => exact serves_inRead reads hopen

theorem open_access {r : x.Resp} (hopen : call.Open d) (hnext : d.access x r = some d') :
    call.Open d' := by
  cases call with
  | adevSetParameters => exact trivial
  | outStandby out => exact Device.has_access hopen hnext
  | inStandby i => exact Device.has_access hopen hnext
  | outSetParameters out val => exact Device.has_access hopen hnext
  | inSetParameters i val => exact Device.has_access hopen hnext
  | outGetLatency out => exact Device.has_access hopen hnext
  | outWrite out polls => exact Device.has_access hopen hnext
  | inRead i reads => exact Device.has_access hopen hnext

/-- A thread that makes calls on open streams keeps to the discipline. -/
theorem serves_serveAll (calls : List Call) (hopen : ∀ call ∈ calls, call.Open d) :
    guarded.Serves (Call.Effect M) (Thread.serveAll M calls) Guarded.Done (between calls) d := by
  induction calls generalizing d with
  | nil => exact ⟨rfl, rfl⟩
  | cons call calls ih =>
      obtain ⟨hcall, hcalls⟩ := List.forall_mem_cons.mp hopen
      have hfirst : guarded.Serves (Call.Effect M) (Thread.serve M call) (Served calls)
          (between (call :: calls)) d := serves_serve hcall
      have hserve := hfirst.and_keeps (P := fun d => ∀ call ∈ calls, call.Open d)
        (fun hcalls hnext call hmem => open_access (hcalls call hmem) hnext) hcalls
      refine Guarded.serves_bind.mpr (hserve.mono ?_)
      rintro _ w d ⟨rfl, hcalls⟩
      exact ih hcalls

/-! ## The device before the threads -/

/-- No stream is out of standby with a pcm that was closed. -/
def Device.PcmsSound (d : Device) : Prop := ∀ k h, d.PcmSound k h

/-- What a stream may be set to. -/
def Stream.Sound (s : Stream) : Prop := s.standby = false → s.pcm ≠ .closed

theorem pcmsSound_set {o : Option Stream} {active : Option Handle} (hsound : d.PcmsSound)
    (ho : ∀ s ∈ o, s.Sound) :
    (d.withStreams k { (d.streams k).set h o with active := active }).PcmsSound := by
  intro k' h' s hs
  by_cases hk : k' = k
  · subst hk
    rw [Device.streams_withStreams_self] at hs
    by_cases hh : h' = h
    · subst hh
      simp only [Streams.set, Function.update_self] at hs
      exact ho s hs
    · simp only [Streams.set, Function.update_of_ne hh] at hs
      exact hsound k' h' s hs
  · rw [Device.streams_withStreams_of_ne hk] at hs
    exact hsound k' h' s hs

theorem pcmsSound_congr (hsound : d.PcmsSound) (hsame : ∀ k, d'.streams k = d.streams k) :
    d'.PcmsSound := by
  intro k h s hs
  rw [hsame] at hs
  exact hsound k h s hs

theorem pcmsSound_doStandby (hsound : d.PcmsSound) (k : Kind) (h : Handle) :
    (d.doStandby k h).PcmsSound := by
  cases hs : (d.streams k).stream h with
  | none =>
      have hsame : d.doStandby k h = d := by simp [Device.doStandby, Streams.doStandby, hs]
      rwa [hsame]
  | some s =>
      cases hstandby : s.standby with
      | true =>
          rw [doStandby_of_standby hs hstandby]
          exact hsound
      | false =>
          rw [doStandby_of_not_standby hs hstandby]
          exact pcmsSound_set hsound (by simp [Stream.Sound])

theorem pcmsSound_yield (hsound : d.PcmsSound) (k : Kind) (conflict : Nat → Bool) :
    (d.yield k conflict).PcmsSound := by
  unfold Device.yield
  split
  · exact hsound
  · split
    · exact pcmsSound_doStandby hsound _ _
    · exact hsound

theorem pcmsSound_started (hsound : d.PcmsSound) (k : Kind) (h : Handle) (opened : PcmOpen) :
    (d.started k h opened).1.PcmsSound := by
  unfold Device.started
  split
  · exact pcmsSound_set hsound (by simp [Stream.Sound])
  · exact pcmsSound_set hsound (by simp [Stream.Sound])

theorem pcmsSound_leaveStandby (hsound : d.PcmsSound)
    (hs : ∀ s, (d.streams k).stream h = some s → s.pcm ≠ .closed) :
    (d.withStreams k ((d.streams k).leaveStandby h)).PcmsSound := by
  refine pcmsSound_set hsound fun s hmem => ?_
  obtain ⟨s', hs', rfl⟩ := Option.map_eq_some_iff.mp hmem
  exact fun _ => hs s' hs'

theorem pcmsSound_reroute (hsound : d.PcmsSound) (k : Kind) (sco : BitVec 32) (h : Handle)
    (val : BitVec 32) : (d.reroute k sco h val).PcmsSound := by
  unfold Device.reroute
  split
  · refine pcmsSound_congr ?_ fun k' => Device.streams_withRouting _ k k' val
    split
    · exact pcmsSound_doStandby hsound k h
    · exact hsound
  · exact hsound

/-- After a start without an error the pcm of the stream has not been closed. -/
theorem pcm_of_started {opened : PcmOpen} (hret : (d.started k h opened).2 = 0)
    (hs : ((d.started k h opened).1.streams k).stream h = some s) : s.pcm ≠ .closed := by
  unfold Device.started at hret hs
  cases opened with
  | notReady => simp [PcmOpen.failed, ENOMEM] at hret
  | null =>
      simp [PcmOpen.failed, PcmOpen.pointer, Streams.set] at hs
      simp [← hs]
  | ready =>
      simp [PcmOpen.failed, PcmOpen.pointer, Streams.set] at hs
      simp [← hs]

theorem pcmsSound_outWrite (hsound : d.PcmsSound) (out : Handle) (opened again : PcmOpen) :
    (d.outWrite out opened again).PcmsSound := by
  cases hstandby : d.outs.inStandby out with
  | false =>
      rw [Device.outWrite_of_not_inStandby hstandby]
      exact hsound
  | true =>
      rw [Device.outWrite_of_inStandby hstandby]
      have hyield := pcmsSound_yield hsound .input
        fun rate => Device.ratesConflict rate IN_SAMPLING_RATE
      have hstarted := pcmsSound_started
        (pcmsSound_congr hyield fun _ => Device.streams_openOutput _ opened again) .output out
        ((d.yield .input fun rate => Device.ratesConflict rate IN_SAMPLING_RATE).openOutput opened
          again).2
      split
      · exact hstarted
      · rename_i hret
        rw [Device.startOutputStream_eq] at hret ⊢
        exact pcmsSound_leaveStandby (k := .output) hstarted
          fun _ => pcm_of_started (by simpa using hret)

theorem pcmsSound_inRead (hsound : d.PcmsSound) (i : Handle) (opened : PcmOpen) :
    (d.inRead i opened).PcmsSound := by
  cases hstandby : d.ins.inStandby i with
  | false =>
      rw [Device.inRead_of_not_inStandby hstandby]
      exact hsound
  | true =>
      rw [Device.inRead_of_inStandby hstandby]
      have hstarted := pcmsSound_started (pcmsSound_yield hsound .output
        fun rate => Device.ratesConflict IN_SAMPLING_RATE rate) .input i opened
      split
      · rename_i hret
        rw [Device.startInputStream_eq] at hret ⊢
        exact pcmsSound_leaveStandby (k := .input) hstarted
          fun _ => pcm_of_started (by simpa using hret)
      · exact hstarted

theorem pcmsSound_apply (hsound : d.PcmsSound) (op : Op) : (d.apply M op).PcmsSound := by
  cases op with
  | openOutput out => exact pcmsSound_set (k := .output) hsound (by simp [Stream.Sound, Stream.start])
  | openInput i => exact pcmsSound_set (k := .input) hsound (by simp [Stream.Sound, Stream.start])
  | closeOutput out =>
      exact pcmsSound_set (k := .output) (pcmsSound_doStandby hsound .output out) (by simp)
  | closeInput i =>
      exact pcmsSound_set (k := .input) (pcmsSound_doStandby hsound .input i) (by simp)
  | outStandby out => exact pcmsSound_doStandby hsound .output out
  | inStandby i => exact pcmsSound_doStandby hsound .input i
  | outSetParameters out val => exact pcmsSound_reroute hsound .output _ out val
  | inSetParameters i value => exact pcmsSound_reroute hsound .input _ i _
  | outWrite out opened again => exact pcmsSound_outWrite hsound out opened again
  | inRead i opened => exact pcmsSound_inRead hsound i opened

/-! ## Runs -/

theorem ops_of_effect (heffect : call.Effect M d d') : d' = d ∨ ∃ op, OpStep M d op d' := by
  cases call with
  | outStandby out => exact Or.inr ⟨_, heffect⟩
  | inStandby i => exact Or.inr ⟨_, heffect⟩
  | outSetParameters out val =>
      cases val with
      | none => exact Or.inl heffect
      | some val => exact Or.inr ⟨_, heffect⟩
  | inSetParameters i val =>
      cases val with
      | none => exact Or.inl heffect
      | some val => exact Or.inr ⟨_, heffect⟩
  | outGetLatency out => exact Or.inl heffect
  | adevSetParameters => exact Or.inl heffect
  | outWrite out polls =>
      obtain ⟨opened, again, hstep⟩ := heffect
      exact Or.inr ⟨_, hstep⟩
  | inRead i reads =>
      obtain ⟨opened, hstep⟩ := heffect
      exact Or.inr ⟨_, hstep⟩

/-- What threads make of the device, calls one after the other make of it, too. -/
theorem ops_of_serial {ι : Type} {trace : List ((ι × Call) × Device)}
    (hserial : Config.Serial (Call.Effect M) d trace) :
    ∃ ops, Run (OpStep M) d ops ∧ endState d ops = endState d trace := by
  induction hserial with
  | done d => exact ⟨[], Run.done d, rfl⟩
  | @next d d' l trace hfirst _ ih =>
      obtain ⟨ops, hops, hend⟩ := ih
      obtain rfl | ⟨op, hop⟩ := ops_of_effect hfirst
      · exact ⟨ops, hops, hend⟩
      · exact ⟨(op, d') :: ops, Run.next hop hops, hend⟩

section Runs

variable {ι : Type} [DecidableEq ι]

/-- The device after these calls, one after the other. -/
def deviceAfter (M : Platform) (before : List (Op × Device)) : Device :=
  endState (Device.adevOpen M) before

/-- Threads with their calls, all mutexes free. -/
def threads (M : Platform) (d : Device) (calls : ι → List Call) :
    Config ι Lock Access Access.Resp Device Unit :=
  Config.start d fun i => Thread.serveAll M (calls i)

/-- After some calls one after the other, threads make calls on open streams. -/
structure ThreadRun (M : Platform) (before : List (Op × Device)) (calls : ι → List Call)
    (steps : List (ι × Config ι Lock Access Access.Resp Device Unit)) : Prop where
  history : Run (OpStep M) (Device.adevOpen M) before
  opened : ∀ i, ∀ call ∈ calls i, call.Open (deviceAfter M before)
  run : Run (Config.Step guarded) (threads M (deviceAfter M before) calls) steps

/-- Where the threads are. -/
def reached (M : Platform) (before : List (Op × Device)) (calls : ι → List Call)
    (steps : List (ι × Config ι Lock Access Access.Resp Device Unit)) :
    Config ι Lock Access Access.Resp Device Unit :=
  endState (threads M (deviceAfter M before) calls) steps

variable {before : List (Op × Device)} {calls : ι → List Call}
  {steps : List (ι × Config ι Lock Access Access.Resp Device Unit)}

theorem activeRunning_deviceAfter (hbefore : Run (OpStep M) (Device.adevOpen M) before) :
    (deviceAfter M before).ActiveRunning := by
  refine (always_activeRunning hbefore).endState ⟨?_, ?_⟩
  · intro i hi
    cases hi
  · intro i hi
    cases hi

theorem activeOpen_of_activeRunning (h : d.ActiveRunning) : d.ActiveOpen := by
  rintro (_ | _) i hi
  · obtain ⟨s, hs, -⟩ := h.1 i hi
    exact Option.ne_none_iff_exists'.mpr ⟨s, hs⟩
  · obtain ⟨s, hs, -⟩ := h.2 i hi
    exact Option.ne_none_iff_exists'.mpr ⟨s, hs⟩

theorem pcmsSound_deviceAfter (hbefore : Run (OpStep M) (Device.adevOpen M) before) :
    (deviceAfter M before).PcmsSound := by
  have hkeep : ∀ d op d', Device.PcmsSound d → OpStep M d op d' → d'.PcmsSound := by
    rintro d op d' hsound ⟨-, rfl⟩
    exact pcmsSound_apply hsound op
  refine hbefore.inv_endState hkeep ?_
  rintro (_ | _) i s hs
  · cases hs
  · cases hs

/-- The invariant of the threads. -/
theorem ThreadRun.ordered (h : ThreadRun M before calls steps) :
    ∃ trace, Config.Ordered guarded (Call.Effect M) (deviceAfter M before) calls trace
      (reached M before calls steps) := by
  refine Config.ordered_endState h.run ⟨[], Config.ordered_start (fun l => ?_) fun i => ?_⟩
  · cases l with
    | device => exact activeOpen_of_activeRunning (activeRunning_deviceAfter h.history)
    | stream k i => exact pcmsSound_deviceAfter h.history k i
  · exact serves_serveAll (calls i) (h.opened i)

/-- At every time every access that comes next is behind the mutexes of its thread, and some
thread can go on unless all of them are done. -/
theorem threads_go_on (h : ThreadRun M before calls steps) :
    (∀ i x k, (reached M before calls steps).prog i = .act (.act x) k →
      ∀ l ∈ x.needs, (reached M before calls steps).owner l = some i) ∧
    ((∃ i, ∀ a, (reached M before calls steps).prog i ≠ .ret a) →
      ∃ i c', Config.Step guarded (reached M before calls steps) i c') := by
  obtain ⟨trace, hordered⟩ := h.ordered
  exact ⟨fun i x k hprog => (hordered.owner_of_access hprog).1, hordered.exists_step⟩

/-- A pcm that a thread is about to use or to close has not been closed, and whenever the mutex of
the device is free, the active streams are open and out of standby. -/
theorem threads_pcm_open (h : ThreadRun M before calls steps) :
    (∀ i x k s f, x = Access.transfer k s ∨ x = Access.pcmClose k s →
      (reached M before calls steps).prog i = .act (.act x) f →
      ∃ stream, ((reached M before calls steps).state.streams k).stream s = some stream ∧
        stream.pcm ≠ .closed) ∧
    ((reached M before calls steps).owner .device = none →
      (reached M before calls steps).state.ActiveRunning) := by
  obtain ⟨trace, hordered⟩ := h.ordered
  constructor
  · intro i x k s f hx hprog
    obtain ⟨-, r, d', hnext⟩ := hordered.owner_of_access hprog
    obtain rfl | rfl := hx
    · obtain ⟨stream, hstream, htransfer⟩ := Option.bind_eq_some_iff.mp hnext
      refine ⟨stream, hstream, fun hclosed => ?_⟩
      rw [if_pos hclosed] at htransfer
      cases htransfer
    · obtain ⟨stream, hstream, hclose⟩ := Option.bind_eq_some_iff.mp hnext
      refine ⟨stream, hstream, fun hclosed => ?_⟩
      rw [if_pos hclosed] at hclose
      cases hclose
  · intro hfree
    obtain ⟨ops, hops, hend⟩ := ops_of_serial hordered.run
    rw [hordered.free hfree, ← hend]
    have hkeep : ∀ d op d', Device.ActiveRunning d → OpStep M d op d' → d'.ActiveRunning := by
      rintro d op d' ⟨houts, hins⟩ ⟨hallowed, rfl⟩
      exact ⟨(moves_outs hallowed).points houts, (moves_ins hallowed).points hins⟩
    exact hops.inv_endState hkeep (activeRunning_deviceAfter h.history)

end Runs

/-! ## A write and a standby at the same time -/

/-- What an access answers when no flag is set and every pcm can be opened. -/
def answer (d : Device) : (x : Access) → x.Resp
  | .active k => (d.streams k).active
  | .routing k => d.routing k
  | .rate => d.rate
  | .alreadyTried => d.already_tried
  | .standby k h => (d.streams k).inStandby h
  | .pcmOpen _ _ => .ready
  | .transfer _ _ => (0 : Int)
  | .flag _ => false
  | .setActive _ _ | .setRouting _ _ | .lowerRate | .setStandby _ _ _ => ()
  | .pcmClose _ _ | .clearPcm _ _ | .fields _ => ()

/-- One thread writes to the stream, the other one puts it in standby. -/
def writeAndStandby : Bool → List Call
  | false => [.outWrite 1 1]
  | true => [.outStandby 1]

/-- The first thread gives the mutex of the device back and is about to ask for the time stamp;
the second one waits for the stream. -/
def waiting : List (Bool × Config Bool Lock Access Access.Resp Device Unit) :=
  Config.play guarded answer
    (List.replicate 12 false ++ [true] ++ List.replicate 2 false)
    (threads android (deviceAfter android (Audio.calls [.openOutput 1])) writeAndStandby)

theorem threadRun_waiting : ThreadRun android (Audio.calls [.openOutput 1]) writeAndStandby waiting where
  history := run_calls (by decide)
  opened := by
    rintro (_ | _) call hcall
    · obtain rfl := List.mem_singleton.mp hcall
      simp [Call.Open, Device.Has, Device.streams, deviceAfter, Audio.calls, traceOf, Device.apply,
        Device.adevOpenOutputStream]
    · obtain rfl := List.mem_singleton.mp hcall
      simp [Call.Open, Device.Has, Device.streams, deviceAfter, Audio.calls, traceOf, Device.apply,
        Device.adevOpenOutputStream]
  run := Config.run_play _ _

/-- The second thread has the mutex of the device and waits for that of the stream. -/
theorem prog_waiting : ∃ k, (reached android (Audio.calls [.openOutput 1]) writeAndStandby
    waiting).prog true = .act (.lock (.stream .output 1)) k := ⟨_, rfl⟩

theorem threads_go_on_waiting :
    ∃ i c', Config.Step guarded
      (reached android (Audio.calls [.openOutput 1]) writeAndStandby waiting) i c' := by
  obtain ⟨k, hk⟩ := prog_waiting
  refine (threads_go_on threadRun_waiting).2 ⟨true, fun a ha => ?_⟩
  rw [hk] at ha
  cases ha

theorem threads_pcm_open_waiting :
    ∃ stream, ((reached android (Audio.calls [.openOutput 1]) writeAndStandby
      waiting).state.streams .output).stream 1 = some stream ∧ stream.pcm ≠ .closed := by
  have hprog : ∃ f, (reached android (Audio.calls [.openOutput 1]) writeAndStandby
      waiting).prog false = .act (.act (.transfer .output 1)) f := ⟨_, rfl⟩
  obtain ⟨f, hf⟩ := hprog
  exact (threads_pcm_open threadRun_waiting).1 false _ .output 1 f (Or.inl rfl) hf

/-- The first thread has just given the mutex of the device back. -/
def givenBack : List (Bool × Config Bool Lock Access Access.Resp Device Unit) :=
  Config.play guarded answer (List.replicate 12 false)
    (threads android (deviceAfter android (Audio.calls [.openOutput 1])) writeAndStandby)

end Audio
end DeviceAndroVM
