import DeviceAndroVM.Camera.CallbackNotifier
import DeviceAndroVM.Library.Lookup
import DeviceAndroVM.Library.Transition

/-!
# Recorded video frames

The frames the framework has given back are released once and out of the list,
in every interleaving of the worker thread and the releases, exactly when no
search comes to the end of the list before its frame is recorded and no search
stands on a node that was freed under it.

* `Ledger` — what the two functions share: the list, the memory, the frames.
* `Ledger.Ok` — the invariant, and one lemma for each access to shared memory.
* `FramesSettled` — what is claimed of a state.
* `Recorded` — the condition on a step.
* `frames_settled_iff` — a run is settled throughout exactly when all its steps
  meet the condition.
-/

namespace DeviceAndroVM
namespace Camera

open Library

/-- What the worker thread and the releases share. -/
structure Ledger where
  recorded : List CameraMemory
  unrecorded : Option CameraMemory
  buffer : Option CameraMemory
  calls : Caller → Option Release
  allocated : Nat
  live : List CameraMemory
  released : List CameraMemory
  held : List CameraMemory
  returned : List CameraMemory
  undefined : Bool

/-- The invariant of the ledger.  A frame the framework holds is in the list, or about
to be put there; a search has its frame ahead. -/
structure Ledger.Ok (v : Ledger) : Prop where
  defined : v.undefined = false
  recordedNodup : v.recorded.Nodup
  releasedNodup : v.released.Nodup
  /-- The next handle is new. -/
  known : ∀ m, m ∈ v.live ∨ m ∈ v.released → m.handle < v.allocated
  liveUnreleased : ∀ m ∈ v.live, m ∉ v.released
  dataInj : ∀ m ∈ v.live, ∀ m' ∈ v.live, m.data = m'.data → m = m'
  recordedKnown : ∀ m ∈ v.recorded, m ∈ v.live ∨ m ∈ v.released
  heldLive : ∀ m ∈ v.held, m ∈ v.live
  heldPlace : ∀ m ∈ v.held, m ∈ v.recorded ∨ v.unrecorded = some m
  unrecordedLive : ∀ m, v.unrecorded = some m → m ∈ v.live ∧ m ∉ v.recorded
  bufferLive : ∀ m, v.buffer = some m → m ∈ v.live ∧ m ∉ v.held ∧ m ∉ v.recorded
  bufferApart : ∀ m, v.buffer = some m → v.unrecorded = none ∧
    ∀ c call, v.calls c = some call → call.frame ≠ m
  returnedDone : ∀ m ∈ v.returned, m ∈ v.released ∧ m ∉ v.recorded
  searching : ∀ c frame node, v.calls c = some (.searching frame node) →
    (frame ∈ v.live ∧ frame ∉ v.held) ∧ (frame ∈ v.recorded ∨ v.unrecorded = some frame) ∧
      Ahead v.recorded node frame ∧ (node ∈ v.recorded ∨ node ∈ v.released)
  erasing : ∀ c frame node, v.calls c = some (.erasing frame node) →
    node = frame ∧ frame ∈ v.recorded ∧ frame ∈ v.released
  callsApart : ∀ c c' call call', v.calls c = some call → v.calls c' = some call' → c ≠ c' →
    call.frame ≠ call'.frame

namespace Ledger.Ok

variable {v : Ledger}

/-! ## The accesses of the worker thread -/

theorem fresh_not_live (h : v.Ok) {m : CameraMemory} (hm : m.handle = v.allocated) :
    m ∉ v.live := by
  intro hin
  have := h.known m (Or.inl hin)
  omega

theorem fresh_not_released (h : v.Ok) {m : CameraMemory} (hm : m.handle = v.allocated) :
    m ∉ v.released := by
  intro hin
  have := h.known m (Or.inr hin)
  omega

theorem fresh_not_recorded (h : v.Ok) {m : CameraMemory} (hm : m.handle = v.allocated) :
    m ∉ v.recorded := by
  intro hin
  rcases h.recordedKnown m hin with hlive | hreleased
  · exact h.fresh_not_live hm hlive
  · exact h.fresh_not_released hm hreleased

theorem fresh_not_frame (h : v.Ok) {m : CameraMemory} (hm : m.handle = v.allocated)
    {c : Caller} {call : Release} (hcall : v.calls c = some call) : call.frame ≠ m := by
  rintro rfl
  cases call with
  | searching frame node => exact h.fresh_not_live hm (h.searching c frame node hcall).1.1
  | erasing frame node => exact h.fresh_not_released hm (h.erasing c frame node hcall).2.2

/-- New memory, whose data is the data of no memory in use. -/
theorem mGetMemoryCB (h : v.Ok) {data : Nat} (hdata : ∀ m ∈ v.live, m.data ≠ data) :
    { v with allocated := v.allocated + 1, live := ⟨v.allocated, data⟩ :: v.live }.Ok where
  defined := h.defined
  recordedNodup := h.recordedNodup
  releasedNodup := h.releasedNodup
  known := by
    rintro m (hlive | hreleased)
    · rcases List.mem_cons.mp hlive with rfl | hlive
      · exact Nat.lt_succ_self _
      · exact Nat.lt_succ_of_lt (h.known m (Or.inl hlive))
    · exact Nat.lt_succ_of_lt (h.known m (Or.inr hreleased))
  liveUnreleased := by
    intro m hm
    rcases List.mem_cons.mp hm with rfl | hm
    · exact h.fresh_not_released rfl
    · exact h.liveUnreleased m hm
  dataInj := by
    intro m hm m' hm' heq
    rcases List.mem_cons.mp hm with rfl | hm <;> rcases List.mem_cons.mp hm' with rfl | hm'
    · rfl
    · exact absurd heq.symm (hdata m' hm')
    · exact absurd heq (hdata m hm)
    · exact h.dataInj m hm m' hm' heq
  recordedKnown := fun m hm => (h.recordedKnown m hm).imp_left (List.mem_cons_of_mem _)
  heldLive := fun m hm => List.mem_cons_of_mem _ (h.heldLive m hm)
  heldPlace := h.heldPlace
  unrecordedLive := fun m hm => (h.unrecordedLive m hm).imp_left (List.mem_cons_of_mem _)
  bufferLive := fun m hm => (h.bufferLive m hm).imp_left (List.mem_cons_of_mem _)
  bufferApart := h.bufferApart
  returnedDone := h.returnedDone
  searching := by
    intro c frame node hcall
    obtain ⟨⟨hlive, hheld⟩, hrest⟩ := h.searching c frame node hcall
    exact ⟨⟨List.mem_cons_of_mem _ hlive, hheld⟩, hrest⟩
  erasing := h.erasing
  callsApart := h.callsApart

/-- The memory is handed to the framework as a video frame. -/
theorem handOut (h : v.Ok) {m : CameraMemory} (hlive : m ∈ v.live) (hrecorded : m ∉ v.recorded)
    (hunrecorded : v.unrecorded = none) (hbuffer : v.buffer = none)
    (hframes : ∀ c call, v.calls c = some call → call.frame ≠ m) :
    { v with unrecorded := some m, held := m :: v.held }.Ok :=
  { h with
    heldLive := by
      intro m' hm'
      rcases List.mem_cons.mp hm' with rfl | hm'
      · exact hlive
      · exact h.heldLive m' hm'
    heldPlace := by
      intro m' hm'
      rcases List.mem_cons.mp hm' with rfl | hm'
      · exact Or.inr rfl
      · rcases h.heldPlace m' hm' with hin | hun
        · exact Or.inl hin
        · cases hunrecorded.symm.trans hun
    unrecordedLive := by
      intro m' hm'
      obtain rfl := Option.some.inj hm'
      exact ⟨hlive, hrecorded⟩
    bufferLive := by
      intro m' hm'
      cases hbuffer.symm.trans hm'
    bufferApart := by
      intro m' hm'
      cases hbuffer.symm.trans hm'
    searching := by
      intro c frame node hcall
      obtain ⟨⟨hframe, hheld⟩, hplace, hrest⟩ := h.searching c frame node hcall
      refine ⟨⟨hframe, ?_⟩, ?_, hrest⟩
      · intro hin
        rcases List.mem_cons.mp hin with heq | hin
        · exact hframes c _ hcall heq
        · exact hheld hin
      · rcases hplace with hin | hun
        · exact Or.inl hin
        · cases hunrecorded.symm.trans hun }

/-- The memory is used for a preview frame or a picture. -/
theorem useBuffer (h : v.Ok) {m : CameraMemory} (hlive : m ∈ v.live) (hheld : m ∉ v.held)
    (hrecorded : m ∉ v.recorded) (hunrecorded : v.unrecorded = none)
    (hframes : ∀ c call, v.calls c = some call → call.frame ≠ m) :
    { v with buffer := some m }.Ok :=
  { h with
    bufferLive := by
      intro m' hm'
      obtain rfl := Option.some.inj hm'
      exact ⟨hlive, hheld, hrecorded⟩
    bufferApart := by
      intro m' hm'
      obtain rfl := Option.some.inj hm'
      exact ⟨hunrecorded, hframes⟩ }

/-- `mCameraMemoryTs.push_back`. -/
theorem record (h : v.Ok) {m : CameraMemory} (hm : v.unrecorded = some m)
    (hbuffer : v.buffer = none) :
    { v with recorded := v.recorded ++ [m], unrecorded := none }.Ok := by
  obtain ⟨hlive, hrecorded⟩ := h.unrecordedLive m hm
  have hplace : ∀ {f}, f ∈ v.recorded ∨ v.unrecorded = some f → f ∈ v.recorded ++ [m] := by
    rintro f (hin | hun)
    · exact List.mem_append_left _ hin
    · obtain rfl := Option.some.inj (hm.symm.trans hun)
      exact List.mem_append_right _ (List.mem_singleton_self _)
  exact
    { h with
      recordedNodup := by
        rw [List.nodup_append]
        refine ⟨h.recordedNodup, List.nodup_singleton m, ?_⟩
        rintro a ha b hb rfl
        exact hrecorded (List.mem_singleton.mp hb ▸ ha)
      recordedKnown := by
        intro m' hm'
        rcases List.mem_append.mp hm' with hin | hlast
        · exact h.recordedKnown m' hin
        · exact Or.inl (List.mem_singleton.mp hlast ▸ hlive)
      heldPlace := fun m' hm' => Or.inl (hplace (h.heldPlace m' hm'))
      unrecordedLive := by
        intro m' hm'
        cases hm'
      bufferLive := by
        intro m' hm'
        cases hbuffer.symm.trans hm'
      bufferApart := by
        intro m' hm'
        cases hbuffer.symm.trans hm'
      returnedDone := by
        intro m' hm'
        obtain ⟨hreleased, hnot⟩ := h.returnedDone m' hm'
        refine ⟨hreleased, ?_⟩
        intro hin
        rcases List.mem_append.mp hin with hin | hlast
        · exact hnot hin
        · exact h.liveUnreleased m hlive (List.mem_singleton.mp hlast ▸ hreleased)
      searching := by
        intro c frame node hcall
        obtain ⟨hframe, hpl, hahead, hnode⟩ := h.searching c frame node hcall
        -- the cursor's node is in the list or freed, so it is not the node appended
        have hne : node ≠ m := by
          rintro rfl
          rcases hnode with hin | hreleased
          · exact hrecorded hin
          · exact h.liveUnreleased node hlive hreleased
        exact ⟨hframe, Or.inl (hplace hpl), ahead_concat hahead hne,
          hnode.imp_left (List.mem_append_left _)⟩
      erasing := by
        intro c frame node hcall
        obtain ⟨hnode, hin, hreleased⟩ := h.erasing c frame node hcall
        exact ⟨hnode, List.mem_append_left _ hin, hreleased⟩ }

/-- Releasing memory that is neither held nor about to be recorded, and that no search
is for. -/
theorem release (h : v.Ok) {m : CameraMemory} (hlive : m ∈ v.live) (hheld : m ∉ v.held)
    (hunrecorded : v.unrecorded ≠ some m) (hbuffer : v.buffer ≠ some m)
    (hframes : ∀ c frame node, v.calls c = some (.searching frame node) → frame ≠ m) :
    { v with live := v.live.filter (· ≠ m), released := m :: v.released }.Ok := by
  have hkeep : ∀ {f}, f ∈ v.live → f ≠ m → f ∈ v.live.filter (· ≠ m) := by
    intro f hf hne
    exact List.mem_filter.mpr ⟨hf, by simpa using hne⟩
  have hold : ∀ {f}, f ∈ v.live.filter (· ≠ m) → f ∈ v.live ∧ f ≠ m := by
    intro f hf
    obtain ⟨hin, hne⟩ := List.mem_filter.mp hf
    exact ⟨hin, by simpa using hne⟩
  exact
    { h with
      releasedNodup := List.nodup_cons.mpr ⟨h.liveUnreleased m hlive, h.releasedNodup⟩
      known := by
        rintro f (hf | hf)
        · exact h.known f (Or.inl (hold hf).1)
        · rcases List.mem_cons.mp hf with rfl | hf
          · exact h.known f (Or.inl hlive)
          · exact h.known f (Or.inr hf)
      liveUnreleased := by
        intro f hf hreleased
        rcases List.mem_cons.mp hreleased with rfl | hreleased
        · exact (hold hf).2 rfl
        · exact h.liveUnreleased f (hold hf).1 hreleased
      dataInj := fun f hf f' hf' heq => h.dataInj f (hold hf).1 f' (hold hf').1 heq
      recordedKnown := by
        intro f hf
        by_cases heq : f = m
        · exact Or.inr (heq ▸ List.mem_cons_self)
        · exact (h.recordedKnown f hf).imp (hkeep · heq) (List.mem_cons_of_mem _)
      heldLive := by
        intro f hf
        exact hkeep (h.heldLive f hf) fun heq => hheld (heq ▸ hf)
      unrecordedLive := by
        intro f hf
        obtain ⟨hin, hnot⟩ := h.unrecordedLive f hf
        exact ⟨hkeep hin fun heq => hunrecorded (heq ▸ hf), hnot⟩
      bufferLive := by
        intro f hf
        obtain ⟨hin, hrest⟩ := h.bufferLive f hf
        exact ⟨hkeep hin fun heq => hbuffer (heq ▸ hf), hrest⟩
      returnedDone := fun f hf => (h.returnedDone f hf).imp_left (List.mem_cons_of_mem _)
      searching := by
        intro c frame node hcall
        obtain ⟨⟨hin, hnot⟩, hplace, hahead, hnode⟩ := h.searching c frame node hcall
        exact ⟨⟨hkeep hin (hframes c frame node hcall), hnot⟩, hplace, hahead,
          hnode.imp_right (List.mem_cons_of_mem _)⟩
      erasing := by
        intro c frame node hcall
        obtain ⟨hnode, hin, hreleased⟩ := h.erasing c frame node hcall
        exact ⟨hnode, hin, List.mem_cons_of_mem _ hreleased⟩ }

theorem dropBuffer (h : v.Ok) : { v with buffer := none }.Ok :=
  { h with
    bufferLive := by
      intro m hm
      cases hm
    bufferApart := by
      intro m hm
      cases hm }

/-! ## The accesses of a release -/

/-- The framework gives a frame back: it no longer holds it. -/
theorem giveBack (h : v.Ok) (frame : CameraMemory) :
    { v with held := v.held.filter (· ≠ frame) }.Ok :=
  { h with
    heldLive := fun f hf => h.heldLive f (List.mem_of_mem_filter hf)
    heldPlace := fun f hf => h.heldPlace f (List.mem_of_mem_filter hf)
    bufferLive := by
      intro m hm
      obtain ⟨hin, hnot, hrecorded⟩ := h.bufferLive m hm
      exact ⟨hin, fun hf => hnot (List.mem_of_mem_filter hf), hrecorded⟩
    searching := by
      intro c f n hcall
      obtain ⟨⟨hin, hnot⟩, hrest⟩ := h.searching c f n hcall
      exact ⟨⟨hin, fun hf => hnot (List.mem_of_mem_filter hf)⟩, hrest⟩ }

/-- The call of `c` becomes one for a frame that nothing else is about. -/
theorem setCall (h : v.Ok) (c : Caller) (call : Release)
    (hbuffer : v.buffer ≠ some call.frame)
    (hothers : ∀ c' call', c' ≠ c → v.calls c' = some call' → call'.frame ≠ call.frame)
    (hsearching : ∀ frame node, call = .searching frame node →
      (frame ∈ v.live ∧ frame ∉ v.held) ∧ (frame ∈ v.recorded ∨ v.unrecorded = some frame) ∧
        Ahead v.recorded node frame ∧ (node ∈ v.recorded ∨ node ∈ v.released))
    (herasing : ∀ frame node, call = .erasing frame node →
      node = frame ∧ frame ∈ v.recorded ∧ frame ∈ v.released) :
    { v with calls := Function.update v.calls c (some call) }.Ok :=
  { h with
    bufferApart := by
      intro m hm
      refine ⟨(h.bufferApart m hm).1, ?_⟩
      intro c' call' hcall'
      rcases update_some_eq_some.mp hcall' with ⟨-, rfl⟩ | ⟨-, hcall'⟩
      · rintro rfl
        exact hbuffer hm
      · exact (h.bufferApart m hm).2 c' call' hcall'
    searching := by
      intro c' f n hcall'
      rcases update_some_eq_some.mp hcall' with ⟨-, hcall'⟩ | ⟨-, hcall'⟩
      · exact hsearching f n hcall'
      · exact h.searching c' f n hcall'
    erasing := by
      intro c' f n hcall'
      rcases update_some_eq_some.mp hcall' with ⟨-, hcall'⟩ | ⟨-, hcall'⟩
      · exact herasing f n hcall'
      · exact h.erasing c' f n hcall'
    callsApart := by
      intro c₁ c₂ call₁ call₂ h₁ h₂ hne
      rcases update_some_eq_some.mp h₁ with ⟨hc₁, rfl⟩ | ⟨hc₁, h₁⟩ <;>
        rcases update_some_eq_some.mp h₂ with ⟨hc₂, rfl⟩ | ⟨hc₂, h₂⟩
      · exact absurd (hc₁.trans hc₂.symm) hne
      · exact (hothers c₂ call₂ hc₂ h₂).symm
      · exact hothers c₁ call₁ hc₁ h₁
      · exact h.callsApart c₁ c₂ call₁ call₂ h₁ h₂ hne }

theorem dropCall (h : v.Ok) (c : Caller) :
    { v with calls := Function.update v.calls c none }.Ok := by
  have hkept : ∀ {c' call}, Function.update v.calls c none c' = some call →
      c' ≠ c ∧ v.calls c' = some call :=
    update_none_eq_some.mp
  exact
    { h with
      bufferApart := fun m hm => ⟨(h.bufferApart m hm).1, fun c' call hcall =>
        (h.bufferApart m hm).2 c' call (hkept hcall).2⟩
      searching := fun c' f n hcall => h.searching c' f n (hkept hcall).2
      erasing := fun c' f n hcall => h.erasing c' f n (hkept hcall).2
      callsApart := fun c₁ c₂ call₁ call₂ h₁ h₂ hne =>
        h.callsApart c₁ c₂ call₁ call₂ (hkept h₁).2 (hkept h₂).2 hne }

/-- The call of `c` moves on, for the same frame. -/
theorem moveCall (h : v.Ok) {c : Caller} {frame node next : CameraMemory}
    (hcall : v.calls c = some (.searching frame node)) (hnode : node ∈ v.recorded)
    (hne : frame ≠ node) (hnext : nextNode v.recorded node = some next) :
    { v with calls := Function.update v.calls c (some (.searching frame next)) }.Ok := by
  obtain ⟨hframe, hplace, hahead, -⟩ := h.searching c frame node hcall
  refine h.setCall c _ ?_ ?_ ?_ ?_
  · intro hbuffer
    exact (h.bufferApart frame hbuffer).2 c _ hcall rfl
  · intro c' call' hc' hcall'
    exact h.callsApart c' c call' (.searching frame node) hcall' hcall hc'
  · intro f n heq
    cases heq
    exact ⟨hframe, hplace, ahead_nextNode h.recordedNodup hnode hahead hne hnext,
      Or.inl (nextNode_mem hnext)⟩
  · intro f n heq
    cases heq

/-- The framework gives back a frame it holds, and the search for it starts. -/
theorem startSearch (h : v.Ok) {c : Caller} {frame node : CameraMemory} (hheld : frame ∈ v.held)
    (hhead : v.recorded.head? = some node) :
    { v with
      held := v.held.filter (· ≠ frame)
      calls := Function.update v.calls c (some (.searching frame node)) }.Ok := by
  have hlive := h.heldLive frame hheld
  refine (h.giveBack frame).setCall c _ ?_ ?_ ?_ ?_
  · intro hbuffer
    exact (h.bufferLive frame hbuffer).2.1 hheld
  · intro c' call' _ hcall' heq
    cases call' with
    | searching f n =>
        obtain rfl : f = frame := heq
        exact (h.searching c' f n hcall').1.2 hheld
    | erasing f n =>
        obtain rfl : f = frame := heq
        exact h.liveUnreleased f hlive (h.erasing c' f n hcall').2.2
  · intro f n heq
    cases heq
    refine ⟨⟨hlive, ?_⟩, h.heldPlace frame hheld, ahead_head hhead,
      Or.inl (List.mem_of_head? hhead)⟩
    simp
  · intro f n heq
    cases heq

/-- The node whose data is the frame's is the frame's own. -/
theorem eq_of_data_eq (h : v.Ok) {c : Caller} {frame node : CameraMemory}
    (hcall : v.calls c = some (.searching frame node)) (hnode : node ∈ v.recorded)
    (hreleased : node ∉ v.released) (hdata : node.data = frame.data) : node = frame := by
  have hlive : node ∈ v.live := (h.recordedKnown node hnode).resolve_right hreleased
  exact h.dataInj node hlive frame (h.searching c frame node hcall).1.1 hdata

/-- The frame is found and released. -/
theorem found (h : v.Ok) {c : Caller} {frame : CameraMemory}
    (hcall : v.calls c = some (.searching frame frame)) (hin : frame ∈ v.recorded) :
    { v with
      live := v.live.filter (· ≠ frame)
      released := frame :: v.released
      calls := Function.update v.calls c (some (.erasing frame frame)) }.Ok := by
  obtain ⟨⟨hlive, hheld⟩, -, -, -⟩ := h.searching c frame frame hcall
  have hbuffer : v.buffer ≠ some frame :=
    fun hb => (h.bufferApart frame hb).2 c _ hcall rfl
  have hunrecorded : v.unrecorded ≠ some frame := fun hu => (h.unrecordedLive frame hu).2 hin
  have hothers : ∀ c' call', c' ≠ c → v.calls c' = some call' → call'.frame ≠ frame :=
    fun c' call' hc' hcall' => h.callsApart c' c call' _ hcall' hcall hc'
  -- the search ends before its frame is released, the erase begins after it
  have hdropped := h.dropCall c
  have hreleased := hdropped.release hlive hheld hunrecorded hbuffer (by
    intro c' f n hcall'
    obtain ⟨hc', hcall'⟩ := update_none_eq_some.mp hcall'
    exact hothers c' _ hc' hcall')
  have herasing := hreleased.setCall c (.erasing frame frame) hbuffer (by
    intro c' call' hc' hcall'
    exact hothers c' call' hc' (update_none_eq_some.mp hcall').2)
    (by
      intro f n heq
      cases heq)
    (by
      intro f n heq
      cases heq
      exact ⟨rfl, hin, List.mem_cons_self⟩)
  simpa only [Function.update_idem] using herasing

/-- `erase` takes the released frame out, and the call comes back. -/
theorem erase (h : v.Ok) {c : Caller} {frame node : CameraMemory}
    (hcall : v.calls c = some (.erasing frame node)) :
    { v with
      recorded := v.recorded.erase node
      calls := Function.update v.calls c none
      returned := frame :: v.returned }.Ok := by
  obtain ⟨rfl, hin, hreleased⟩ := h.erasing c frame node hcall
  have hdropped := h.dropCall c
  have hmem : ∀ {f}, f ∈ v.recorded.erase node ↔ f ≠ node ∧ f ∈ v.recorded :=
    h.recordedNodup.mem_erase_iff
  have hothers : ∀ {c' call'}, Function.update v.calls c none c' = some call' →
      call'.frame ≠ node := by
    intro c' call' hcall'
    obtain ⟨hc', hcall'⟩ := update_none_eq_some.mp hcall'
    exact h.callsApart c' c call' _ hcall' hcall hc'
  exact
    { hdropped with
      recordedNodup := h.recordedNodup.erase node
      recordedKnown := fun f hf => h.recordedKnown f (hmem.mp hf).2
      heldPlace := by
        intro f hf
        refine (h.heldPlace f hf).imp_left fun hrecorded => hmem.mpr ⟨?_, hrecorded⟩
        rintro rfl
        exact h.liveUnreleased f (h.heldLive f hf) hreleased
      unrecordedLive := fun f hf =>
        (h.unrecordedLive f hf).imp_right fun hnot hrecorded => hnot (hmem.mp hrecorded).2
      bufferLive := by
        intro f hf
        obtain ⟨hlive, hheld, hnot⟩ := h.bufferLive f hf
        exact ⟨hlive, hheld, fun hrecorded => hnot (hmem.mp hrecorded).2⟩
      returnedDone := by
        intro f hf
        rcases List.mem_cons.mp hf with rfl | hf
        · exact ⟨hreleased, fun hrecorded => (hmem.mp hrecorded).1 rfl⟩
        · obtain ⟨hdone, hnot⟩ := h.returnedDone f hf
          exact ⟨hdone, fun hrecorded => hnot (hmem.mp hrecorded).2⟩
      searching := by
        intro c' f n hcall'
        obtain ⟨hframe, hplace, hahead, hnode⟩ := hdropped.searching c' f n hcall'
        have hne : f ≠ node := hothers hcall'
        refine ⟨hframe, hplace.imp_left fun hrecorded => hmem.mpr ⟨hne, hrecorded⟩,
          ahead_erase h.recordedNodup hahead, ?_⟩
        by_cases hn : n = node
        · exact Or.inr (hn ▸ hreleased)
        · exact hnode.imp_left fun hrecorded => hmem.mpr ⟨hn, hrecorded⟩
      erasing := by
        intro c' f n hcall'
        obtain ⟨hn, hrecorded, hdone⟩ := hdropped.erasing c' f n hcall'
        exact ⟨hn, hmem.mpr ⟨hothers hcall', hrecorded⟩, hdone⟩ }

end Ledger.Ok

/-! ## The system -/

namespace NotifierSystem

def ledger (s : NotifierSystem) : Ledger where
  recorded := s.notifier.mCameraMemoryTs
  unrecorded := s.worker.unrecorded
  buffer := s.worker.buffer
  calls := s.calls
  allocated := s.allocated
  live := s.live
  released := s.released
  held := s.held
  returned := s.returned
  undefined := s.undefined

/-- What is claimed: a frame the framework has given back was released once and is out
of the list; one it still holds is not released. -/
def FramesSettled (s : NotifierSystem) : Prop :=
  s.undefined = false ∧ (∀ m ∈ s.held, m ∉ s.released) ∧
    ∀ m ∈ s.returned, s.released.count m = 1 ∧ m ∉ s.notifier.mCameraMemoryTs

/-- A step of the search reads a node that is not freed, and does not come to the end
of the list while its frame is still to be recorded. -/
def SearchRecorded (s : NotifierSystem) : Option Release → Prop
  | some (.searching frame node) =>
      (node ∈ s.notifier.mCameraMemoryTs ∧ node ∉ s.released) ∧
        (node.data ≠ frame.data → nextNode s.notifier.mCameraMemoryTs node = none →
          s.worker.unrecorded ≠ some frame)
  | _ => True

/-- The condition on a step of a release; the search comes to the end of the list at
once when the list is empty. -/
def Recorded (s : NotifierSystem) : Action → Prop
  | .releaseRecordingFrame _ frame =>
      s.notifier.mCameraMemoryTs = [] → s.worker.unrecorded ≠ some frame
  | .releaseStep c => s.SearchRecorded (s.calls c)
  | _ => True

instance decidableSearchRecorded (s : NotifierSystem) :
    ∀ call, Decidable (s.SearchRecorded call)
  | some (.searching frame node) =>
      inferInstanceAs (Decidable ((node ∈ s.notifier.mCameraMemoryTs ∧ node ∉ s.released) ∧
        (node.data ≠ frame.data → nextNode s.notifier.mCameraMemoryTs node = none →
          s.worker.unrecorded ≠ some frame)))
  | some (.erasing _ _) => isTrue trivial
  | none => isTrue trivial

instance decidableRecorded (s : NotifierSystem) : ∀ action, Decidable (s.Recorded action)
  | .releaseRecordingFrame _ frame =>
      inferInstanceAs (Decidable (s.notifier.mCameraMemoryTs = [] →
        s.worker.unrecorded ≠ some frame))
  | .releaseStep c => decidableSearchRecorded s (s.calls c)
  | .deliver _ _ | .resume _ _ | .callbackReturns | .set _ => isTrue trivial

theorem ok_init : init.ledger.Ok where
  defined := rfl
  recordedNodup := List.nodup_nil
  releasedNodup := List.nodup_nil
  known := by simp [init, ledger]
  liveUnreleased := by simp [init, ledger]
  dataInj := by simp [init, ledger]
  recordedKnown := by simp [init, ledger, CallbackNotifier.init]
  heldLive := by simp [init, ledger]
  heldPlace := by simp [init, ledger]
  unrecordedLive := by simp [init, ledger, Worker.unrecorded]
  bufferLive := by simp [init, ledger, Worker.buffer]
  bufferApart := by simp [init, ledger, Worker.buffer]
  returnedDone := by simp [init, ledger]
  searching := by simp [init, ledger]
  erasing := by simp [init, ledger]
  callsApart := by simp [init, ledger]

theorem framesSettled_of_ok {s : NotifierSystem} (h : s.ledger.Ok) : s.FramesSettled := by
  refine ⟨h.defined, fun m hm => h.liveUnreleased m (h.heldLive m hm), ?_⟩
  intro m hm
  obtain ⟨hreleased, hnot⟩ := h.returnedDone m hm
  exact ⟨List.count_eq_one_of_mem h.releasedNodup hreleased, hnot⟩

variable {s s' : NotifierSystem}

/-! ## The steps of the worker thread -/

/-- Memory the framework did not have before: the request kept the invariant, and
nothing is about the new memory yet. -/
theorem mGetMemoryCB_cases {answer : MemoryAnswer} {memory : Option CameraMemory}
    (h : s.ledger.Ok) (hget : s.mGetMemoryCB answer = some (s', memory)) :
    s'.ledger.Ok ∧ s'.notifier = s.notifier ∧ s'.worker = s.worker ∧
      ∀ m, memory = some m → m ∈ s'.live ∧ m ∉ s'.held ∧ m ∉ s'.notifier.mCameraMemoryTs ∧
        ∀ c call, s'.calls c = some call → call.frame ≠ m := by
  unfold mGetMemoryCB at hget
  split at hget
  · rename_i data
    split at hget
    · cases hget
    · rename_i hfresh
      cases hget
      refine ⟨h.mGetMemoryCB fun m hm heq => hfresh ⟨m, hm, heq⟩, rfl, rfl, ?_⟩
      intro m hm
      obtain rfl := Option.some.inj hm
      refine ⟨List.mem_cons_self, fun hheld => ?_, h.fresh_not_recorded rfl,
        fun c call hcall => h.fresh_not_frame rfl hcall⟩
      exact h.fresh_not_live rfl (h.heldLive _ hheld)
  · cases hget
    exact ⟨h, rfl, rfl, fun m hm => by cases hm⟩

theorem ok_congr {v : Ledger} (h : v.Ok) (heq : s'.ledger = v) : s'.ledger.Ok := heq ▸ h

/-- The worker goes on between two parts of the function that hold no memory. -/
theorem ok_move {before w : Worker} {n : CallbackNotifier} (h : s.ledger.Ok)
    (hworker : s.worker = before) (hbefore : before.unrecorded = none ∧ before.buffer = none)
    (hw : w.unrecorded = none ∧ w.buffer = none)
    (hn : n.mCameraMemoryTs = s.notifier.mCameraMemoryTs) :
    ({ s with notifier := n, worker := w } : NotifierSystem).ledger.Ok := by
  refine ok_congr h ?_
  simp [ledger, hn, hworker, hbefore, hw]

theorem ok_deliver {timestamp : Int} {answer : MemoryAnswer} (h : s.ledger.Ok)
    (hstep : s.deliver timestamp answer = some s') : s'.ledger.Ok := by
  unfold deliver at hstep
  split at hstep
  · rename_i hidle
    have hlist := s.notifier.isNewVideoFrameTime_mCameraMemoryTs timestamp
    split at hstep
    · dsimp only at hstep
      split at hstep
      · have hasked : ({ s with notifier := (s.notifier.isNewVideoFrameTime timestamp).2 } :
            NotifierSystem).ledger.Ok := by
          refine ok_congr h ?_
          simp [ledger]
        split at hstep
        · cases hstep
        · rename_i after hget
          obtain ⟨hok, hn, hw, -⟩ := mGetMemoryCB_cases hasked hget
          cases hstep
          exact ok_move hok (hw.trans hidle) ⟨rfl, rfl⟩ ⟨rfl, rfl⟩ rfl
        · rename_i after cam_buff hget
          obtain ⟨hok, hn, hw, hnew⟩ := mGetMemoryCB_cases hasked hget
          obtain ⟨hlive, -, hnot, hframes⟩ := hnew cam_buff rfl
          have hworker : after.worker = .idle := hw.trans hidle
          cases hstep
          refine ok_congr (hok.handOut hlive hnot ?_ ?_ hframes) ?_
          · simp [ledger, hworker, Worker.unrecorded]
          · simp [ledger, hworker, Worker.buffer]
          · simp [ledger, hworker, Worker.unrecorded, Worker.buffer]
      · cases hstep
        exact ok_move h hidle ⟨rfl, rfl⟩ ⟨rfl, rfl⟩ hlist
    · cases hstep
      exact ok_move h hidle ⟨rfl, rfl⟩ ⟨rfl, rfl⟩ rfl
  · cases hstep

/-- Asking for memory for a preview frame or a picture, from a part of the function
that has none. -/
theorem ok_buffer (worker : Worker) (inUse : CameraMemory → Worker) {before : Worker}
    {answer : MemoryAnswer} {after : NotifierSystem} {memory : Option CameraMemory}
    (h : s.ledger.Ok) (hworker : s.worker = before)
    (hbefore : before.unrecorded = none ∧ before.buffer = none)
    (hnext : worker.unrecorded = none ∧ worker.buffer = none)
    (hinUse : ∀ m, (inUse m).unrecorded = none ∧ (inUse m).buffer = some m)
    (hget : s.mGetMemoryCB answer = some (after, memory))
    (hafter : s' = { after with worker := memory.elim worker inUse }) : s'.ledger.Ok := by
  obtain ⟨hok, -, hw, hnew⟩ := mGetMemoryCB_cases h hget
  subst hafter
  cases memory with
  | none => exact ok_move hok (hw.trans hworker) hbefore hnext rfl
  | some m =>
      obtain ⟨hlive, hheld, hnot, hframes⟩ := hnew m rfl
      refine ok_congr (hok.useBuffer hlive hheld hnot ?_ hframes) ?_
      · simp [ledger, hw, hworker, hbefore]
      · simp [ledger, hw, hworker, hbefore, hinUse]

theorem ok_resume {answer : MemoryAnswer} {compressed : Bool} (h : s.ledger.Ok)
    (hstep : s.resume answer compressed = some s') : s'.ledger.Ok := by
  unfold resume at hstep
  split at hstep
  · rename_i cam_buff hworker
    cases hstep
    refine ok_congr (@Ledger.Ok.record _ h cam_buff ?_ ?_) ?_
    · simp [ledger, hworker, Worker.unrecorded]
    · simp [ledger, hworker, Worker.buffer]
    · simp [ledger, hworker, Worker.unrecorded, Worker.buffer]
  · rename_i hworker
    split at hstep
    · -- a preview frame is wanted
      split at hstep
      · cases hstep
      · rename_i after hget
        exact ok_buffer .picture .previewCallback h hworker ⟨rfl, rfl⟩
          ⟨rfl, rfl⟩ (fun m => ⟨rfl, rfl⟩) hget (Option.some.inj hstep).symm
      · rename_i after cam_buff hget
        exact ok_buffer .picture .previewCallback h hworker ⟨rfl, rfl⟩
          ⟨rfl, rfl⟩ (fun m => ⟨rfl, rfl⟩) hget (Option.some.inj hstep).symm
    · cases hstep
      exact ok_move h hworker ⟨rfl, rfl⟩ ⟨rfl, rfl⟩ rfl
  · rename_i hworker
    dsimp only at hstep
    split at hstep
    · split at hstep
      · cases hstep
        exact ok_move h hworker ⟨rfl, rfl⟩ ⟨rfl, rfl⟩ rfl
      · cases hstep
        exact ok_move h hworker ⟨rfl, rfl⟩ ⟨rfl, rfl⟩ rfl
    · cases hstep
      exact ok_move h hworker ⟨rfl, rfl⟩ ⟨rfl, rfl⟩ rfl
  · rename_i hworker
    split at hstep
    · cases hstep
      exact ok_move h hworker ⟨rfl, rfl⟩ ⟨rfl, rfl⟩ rfl
    · cases hstep
      exact ok_move h hworker ⟨rfl, rfl⟩ ⟨rfl, rfl⟩ rfl
  · rename_i hworker
    split at hstep
    · -- a JPEG is wanted
      split at hstep
      · cases hstep
      · rename_i after hget
        exact ok_buffer .idle .compressedCallback h hworker ⟨rfl, rfl⟩
          ⟨rfl, rfl⟩ (fun m => ⟨rfl, rfl⟩) hget (Option.some.inj hstep).symm
      · rename_i after jpeg_buff hget
        exact ok_buffer .idle .compressedCallback h hworker ⟨rfl, rfl⟩
          ⟨rfl, rfl⟩ (fun m => ⟨rfl, rfl⟩) hget (Option.some.inj hstep).symm
    · cases hstep
      exact ok_move h hworker ⟨rfl, rfl⟩ ⟨rfl, rfl⟩ rfl
  · cases hstep

/-- The callback of a buffer comes back, and the buffer is released. -/
theorem ok_releaseBuffer {m : CameraMemory} {w : Worker} (h : s.ledger.Ok)
    (hm : s.worker.buffer = some m) (hw : w.unrecorded = none ∧ w.buffer = none) :
    ({ s.release m with worker := w } : NotifierSystem).ledger.Ok := by
  obtain ⟨hlive, hheld, -⟩ := h.bufferLive m hm
  obtain ⟨hunrecorded, hframes⟩ := h.bufferApart m hm
  have hnone : s.worker.unrecorded = none := hunrecorded
  refine ok_congr (h.dropBuffer.release hlive hheld ?_ ?_ ?_) ?_
  · rw [hunrecorded]
    exact fun hsome => by cases hsome
  · exact fun hsome => by cases hsome
  · exact fun c frame node hcall => hframes c _ hcall
  · simp [ledger, release, hnone, hw]

theorem ok_callbackReturns (h : s.ledger.Ok) (hstep : s.callbackReturns = some s') :
    s'.ledger.Ok := by
  unfold callbackReturns at hstep
  split at hstep
  · cases hstep
  split at hstep
  · rename_i cam_buff hworker
    cases hstep
    refine ok_congr h ?_
    simp [ledger, hworker, Worker.unrecorded, Worker.buffer]
  · rename_i cam_buff hworker
    cases hstep
    exact ok_releaseBuffer h (by rw [hworker]; rfl) ⟨rfl, rfl⟩
  · rename_i hworker
    cases hstep
    refine ok_congr h ?_
    simp [ledger, hworker, Worker.unrecorded, Worker.buffer]
  · rename_i hworker
    cases hstep
    refine ok_congr h ?_
    simp [ledger, hworker, Worker.unrecorded, Worker.buffer]
  · rename_i jpeg_buff hworker
    cases hstep
    exact ok_releaseBuffer h (by rw [hworker]; rfl) ⟨rfl, rfl⟩
  · cases hstep

/-! ## The steps of a release -/

/-- What a call of the release does: the search starts, or the list is empty. -/
theorem releaseRecordingFrame_cases {c : Caller} {frame : CameraMemory}
    (hstep : s.releaseRecordingFrame c frame = some s') :
    frame ∈ s.held ∧
      ((s.notifier.mCameraMemoryTs = [] ∧
          s' = { s with held := s.held.filter (· ≠ frame) }.returns c frame) ∨
        ∃ node, s.notifier.mCameraMemoryTs.head? = some node ∧
          s' = { s with held := s.held.filter (· ≠ frame) }.setCall c
            (some (.searching frame node))) := by
  unfold releaseRecordingFrame at hstep
  split at hstep
  · rename_i hguard
    dsimp only at hstep
    refine ⟨hguard.1, ?_⟩
    split at hstep
    · rename_i hhead
      exact Or.inl ⟨List.head?_eq_none_iff.mp hhead, (Option.some.inj hstep).symm⟩
    · rename_i node hhead
      exact Or.inr ⟨node, hhead, (Option.some.inj hstep).symm⟩
  · cases hstep

/-- A frame that comes back unreleased is not settled. -/
theorem not_framesSettled_of_returned (frame : CameraMemory) (hreturned : frame ∈ s.returned)
    (hreleased : frame ∉ s.released) : ¬s.FramesSettled := by
  rintro ⟨-, -, hsettled⟩
  have hcount := (hsettled frame hreturned).1
  rw [List.count_eq_zero_of_not_mem hreleased] at hcount
  cases hcount

theorem ok_releaseRecordingFrame {c : Caller} {frame : CameraMemory} (h : s.ledger.Ok)
    (hcond : s.Recorded (.releaseRecordingFrame c frame))
    (hstep : s.releaseRecordingFrame c frame = some s') : s'.ledger.Ok := by
  obtain ⟨hheld, ⟨hempty, -⟩ | ⟨node, hhead, rfl⟩⟩ := releaseRecordingFrame_cases hstep
  · rcases h.heldPlace frame hheld with hin | hunrecorded
    · have hnot : frame ∈ s.notifier.mCameraMemoryTs := hin
      rw [hempty] at hnot
      cases hnot
    · exact absurd hunrecorded (hcond hempty)
  · exact h.startSearch hheld hhead

theorem recorded_of_releaseRecordingFrame {c : Caller} {frame : CameraMemory} (h : s.ledger.Ok)
    (hstep : s.releaseRecordingFrame c frame = some s') (hsettled : s'.FramesSettled) :
    s.Recorded (.releaseRecordingFrame c frame) := by
  intro hempty _
  obtain ⟨hheld, ⟨-, rfl⟩ | ⟨node, hhead, -⟩⟩ := releaseRecordingFrame_cases hstep
  · refine not_framesSettled_of_returned frame List.mem_cons_self ?_ hsettled
    exact h.liveUnreleased frame (h.heldLive frame hheld)
  · rw [hempty] at hhead
    cases hhead

/-- What a step of a search does: it reads freed memory, finds the frame, comes to the
end of the list, or moves on. -/
theorem searchStep_cases {c : Caller} {frame node : CameraMemory}
    (hcall : s.calls c = some (.searching frame node)) (hstep : s.releaseStep c = some s') :
    (¬(node ∈ s.notifier.mCameraMemoryTs ∧ node ∉ s.released) ∧
        s' = { s with undefined := true }) ∨
      (node ∈ s.notifier.mCameraMemoryTs ∧ node ∉ s.released) ∧
        ((node.data = frame.data ∧
            s' = (s.release node).setCall c (some (.erasing frame node))) ∨
          node.data ≠ frame.data ∧
            ((nextNode s.notifier.mCameraMemoryTs node = none ∧ s' = s.returns c frame) ∨
              ∃ next, nextNode s.notifier.mCameraMemoryTs node = some next ∧
                s' = s.setCall c (some (.searching frame next)))) := by
  unfold releaseStep at hstep
  rw [hcall] at hstep
  dsimp only at hstep
  split at hstep
  · rename_i hread
    refine Or.inr ⟨hread, ?_⟩
    split at hstep
    · rename_i hdata
      exact Or.inl ⟨hdata, (Option.some.inj hstep).symm⟩
    · rename_i hdata
      refine Or.inr ⟨hdata, ?_⟩
      split at hstep
      · rename_i hnext
        exact Or.inl ⟨hnext, (Option.some.inj hstep).symm⟩
      · rename_i next hnext
        exact Or.inr ⟨next, hnext, (Option.some.inj hstep).symm⟩
  · rename_i hread
    exact Or.inl ⟨hread, (Option.some.inj hstep).symm⟩

theorem ok_searchStep {c : Caller} {frame node : CameraMemory} (h : s.ledger.Ok)
    (hcall : s.calls c = some (.searching frame node)) (hcond : s.Recorded (.releaseStep c))
    (hstep : s.releaseStep c = some s') : s'.ledger.Ok := by
  change s.SearchRecorded (s.calls c) at hcond
  rw [hcall] at hcond
  obtain ⟨hread, hend⟩ := hcond
  rcases searchStep_cases hcall hstep with
    ⟨hnot, -⟩ | ⟨-, ⟨hdata, rfl⟩ | ⟨hdata, ⟨hnext, -⟩ | ⟨next, hnext, rfl⟩⟩⟩
  · exact absurd hread hnot
  · obtain rfl := h.eq_of_data_eq hcall hread.1 hread.2 hdata
    exact h.found hcall hread.1
  · -- at the end of the list the frame is neither behind nor still to be recorded
    obtain ⟨-, hplace, hahead, -⟩ := h.searching c frame node hcall
    have hne : frame ≠ node := fun heq => hdata (heq ▸ rfl)
    rcases hplace with hin | hunrecorded
    · exact absurd hin (not_mem_of_nextNode_none h.recordedNodup hread.1 hahead hne hnext)
    · exact absurd hunrecorded (hend hdata hnext)
  · exact h.moveCall hcall hread.1 (fun heq => hdata (heq ▸ rfl)) hnext

theorem ok_releaseStep {c : Caller} (h : s.ledger.Ok) (hcond : s.Recorded (.releaseStep c))
    (hstep : s.releaseStep c = some s') : s'.ledger.Ok := by
  cases hcall : s.calls c with
  | none => simp [releaseStep, hcall] at hstep
  | some call =>
      cases call with
      | searching frame node => exact ok_searchStep h hcall hcond hstep
      | erasing frame node =>
          obtain ⟨rfl, hin, -⟩ := h.erasing c frame node hcall
          unfold releaseStep at hstep
          rw [hcall] at hstep
          dsimp only at hstep
          split at hstep
          · cases hstep
            exact h.erase hcall
          · rename_i hnot
            exact absurd hin hnot

theorem recorded_of_releaseStep {c : Caller} (h : s.ledger.Ok)
    (hstep : s.releaseStep c = some s') (hsettled : s'.FramesSettled) :
    s.Recorded (.releaseStep c) := by
  change s.SearchRecorded (s.calls c)
  cases hcall : s.calls c with
  | none => exact trivial
  | some call =>
      cases call with
      | erasing frame node => exact trivial
      | searching frame node =>
          rcases searchStep_cases hcall hstep with
            ⟨-, rfl⟩ | ⟨hread, ⟨hdata, -⟩ | ⟨-, ⟨hnext, rfl⟩ | ⟨next, hnext, -⟩⟩⟩
          · cases hsettled.1
          · exact ⟨hread, fun hne => absurd hdata hne⟩
          · have hlive := (h.searching c frame node hcall).1.1
            exact absurd hsettled (not_framesSettled_of_returned frame
              List.mem_cons_self (h.liveUnreleased frame hlive))
          · refine ⟨hread, fun _ hnone => ?_⟩
            rw [hnext] at hnone
            cases hnone

/-! ## Runs -/

theorem ok_run {action : Action} (h : s.ledger.Ok) (hcond : s.Recorded action)
    (hstep : s.run action = some s') : s'.ledger.Ok := by
  cases action with
  | deliver timestamp answer => exact ok_deliver h hstep
  | resume answer compressed => exact ok_resume h hstep
  | callbackReturns => exact ok_callbackReturns h hstep
  | releaseRecordingFrame c frame => exact ok_releaseRecordingFrame h hcond hstep
  | releaseStep c => exact ok_releaseStep h hcond hstep
  | set setting =>
      obtain ⟨n, hset, rfl⟩ := Option.map_eq_some_iff.mp hstep
      refine ok_congr h ?_
      simp [ledger, CallbackNotifier.set_mCameraMemoryTs hset]

theorem recorded_of_run {action : Action} (h : s.ledger.Ok) (hstep : s.run action = some s')
    (hsettled : s'.FramesSettled) : s.Recorded action := by
  cases action with
  | releaseRecordingFrame c frame => exact recorded_of_releaseRecordingFrame h hstep hsettled
  | releaseStep c => exact recorded_of_releaseStep h hstep hsettled
  | _ => exact trivial

/-- In every interleaving of the deliveries with the releases, the frames are settled
after every step exactly when every release meets the condition at every step. -/
theorem frames_settled_iff (trace : List (Action × NotifierSystem))
    (hrun : Run (fun s action s' => s.run action = some s') init trace) :
    Always FramesSettled trace ↔ EachStep (fun s action _ => s.Recorded action) init trace :=
  hrun.always_iff_eachStep (fun _ _ _ h hcond hstep => ok_run h hcond hstep)
    (fun _ h => framesSettled_of_ok h)
    (fun _ _ _ h hstep hsettled => recorded_of_run h hstep hsettled) ok_init

/-- One video frame is delivered with a release inside its callback or after its
recording. -/
def recordOneFrame (release : List Action) (later : List Action) : List Action :=
  [.set (.enableMessage CAMERA_MSG_VIDEO_FRAME), .set (.enableVideoRecording 30),
    .deliver 1000000000 (.memory 4096)] ++ release ++
    [.callbackReturns, .resume .null false] ++ later

theorem frames_settled_iff_released_after_recording :
    Always FramesSettled (partialTraceOf run init (recordOneFrame []
      [.releaseRecordingFrame .framework ⟨0, 4096⟩, .releaseStep .framework,
        .releaseStep .framework])) := by
  refine (frames_settled_iff _ (run_partialTraceOf _ _ _)).mpr ?_
  decide

/-- The framework releases the frame inside the callback: the list is empty, so the
release finds nothing, and the frame then stays in the list. -/
theorem release_in_callback_lost :
    ¬∀ trace : List (Action × NotifierSystem),
      Run (fun s action s' => s.run action = some s') init trace → Always FramesSettled trace := by
  intro h
  let steps := partialTraceOf run init
    (recordOneFrame [.releaseRecordingFrame .callback ⟨0, 4096⟩] [])
  have halways := h steps (run_partialTraceOf _ _ _)
  have hlast : steps[5]?.map (fun entry =>
      (entry.2.returned, entry.2.notifier.mCameraMemoryTs)) =
      some ([⟨0, 4096⟩], [⟨0, 4096⟩]) := by decide
  obtain ⟨entry, hget, hbooks⟩ := Option.map_eq_some_iff.mp hlast
  obtain ⟨hreturned, hrecorded⟩ := Prod.mk.inj hbooks
  obtain ⟨-, -, hsettled⟩ := halways entry (List.mem_of_getElem? hget)
  have hgone := (hsettled ⟨0, 4096⟩ (hreturned ▸ List.mem_singleton_self _)).2
  rw [hrecorded] at hgone
  exact hgone (List.mem_singleton_self _)

end NotifierSystem

end Camera
end DeviceAndroVM
