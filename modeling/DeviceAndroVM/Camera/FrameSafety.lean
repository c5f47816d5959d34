import DeviceAndroVM.Camera.EmulatedCamera
import DeviceAndroVM.Library.Transition

/-!
# The frame buffer and the worker thread

After `stopDevice` has freed the frame buffer the worker thread neither touches nor
delivers a frame until the device is started again, in every interleaving of the API
thread with the worker in which every stop reaches the thread: when `stopThread` finds no
control pipe, or cannot write into it, there is no thread that would take another frame.

* `WorkerThread.gone` — the thread is idle, or ends without another frame.
* `Base` — any other thread has a started device, whose frame buffer is not freed.
* `Gone` — the thread is gone.
* `StopReaches` — the condition on an action of the API thread.
* `stopThread_spec`, …, `program_spec` — the calls, bottom up.
* `frame_never_touched` — the safety of whole runs.
-/

namespace DeviceAndroVM
namespace Camera

open Library

/-! ## The invariant -/

/-- The thread takes no more frames: it is idle, or about to leave its loop, or its
`readyToRun` has failed. -/
def WorkerThread.gone (t : WorkerThread) : Bool :=
  match t.phase with
  | .idle | .exiting => true
  | .ready => t.mStatus != NO_ERROR
  | _ => false

/-- A thread that is not gone has a started device; the frame buffer of a started device
is not freed. -/
def Base (s : CameraState) : Prop :=
  (s.thread.gone = false → s.device.isStarted = true) ∧
    (s.device.isStarted = true → s.freed = false)

/-- The thread is gone. -/
def Gone (s : CameraState) : Prop := Base s ∧ s.thread.gone = true

/-- The stop reaches the thread: without a pipe, or when the message cannot be written,
there is no thread to stop. -/
def StopReaches (s : CameraState) (answer : Answer) : Act → Prop
  | .threadControlOpen => s.thread.control = none → s.thread.gone = true
  | .writeStop => answer.status ≠ NO_ERROR → s.thread.gone = true
  | _ => True

def workerStep (s s' : CameraState) : Prop := ∃ w, s.worker w = some s'

/-- An action of the API thread that meets the condition. -/
def apiStep (x : Act) (s : CameraState) (r : x.Resp) (s' : CameraState) : Prop :=
  ∃ answer, StopReaches s answer x ∧ s.perform answer x = some (r, s')

/-- The states agree on everything the assertions are about. -/
structure SameFrame (s s' : CameraState) : Prop where
  started : s'.device.isStarted = s.device.isStarted
  freed : s'.freed = s.freed
  gone : s'.thread.gone = s.thread.gone

theorem Base.same {s s' : CameraState} (h : Base s) (hsame : SameFrame s s') : Base s' := by
  unfold Base
  rw [hsame.started, hsame.freed, hsame.gone]
  exact h

theorem Gone.same {s s' : CameraState} (h : Gone s) (hsame : SameFrame s s') : Gone s' :=
  ⟨h.1.same hsame, hsame.gone.trans h.2⟩

theorem gone_of_not_started {s : CameraState} (h : Base s) (hstarted : s.device.isStarted = false) :
    Gone s := by
  refine ⟨h, ?_⟩
  by_contra hthread
  rw [h.1 (Bool.not_eq_true _ ▸ hthread)] at hstarted
  cases hstarted

theorem not_started_of_not_initialized {dev : EmulatedCameraDevice}
    (h : dev.isInitialized = false) : dev.isStarted = false := by
  unfold EmulatedCameraDevice.isInitialized at h
  unfold EmulatedCameraDevice.isStarted
  cases hstate : dev.mState <;> simp_all

/-! ## The worker thread -/

/-- A thread that is gone stays so. -/
theorem WorkerThread.gone_step {t t' : WorkerThread} {frame : Option Nat} {w : WorkerStep}
    (h : t.step frame w = some t') (hgone : t.gone = true) : t'.gone = true := by
  cases hphase : t.phase with
  | idle =>
      rw [step_idle hphase] at h
      cases h
  | exiting =>
      -- the only step of a thread that leaves is its end
      cases w <;> simp [step, hphase] at h
      subst h
      rfl
  | ready =>
      have hstatus : t.mStatus ≠ NO_ERROR := by simpa [gone, hphase] using hgone
      cases w <;> simp [step, hphase, hstatus] at h
      subst h
      rfl
  | created | selecting | timedOut | asking | delivering | delivered =>
      simp [gone, hphase] at hgone

theorem WorkerThread.not_gone_of_touchesFrame {t : WorkerThread} {w : WorkerStep}
    (h : t.touchesFrame w = true) : t.gone = false := by
  unfold touchesFrame at h
  unfold gone
  split at h
  · split at h
    · rename_i hphase
      rw [hphase]
    · cases h
  · rw [eq_of_beq h]
  · cases h

/-- A step of the worker leaves the device alone, and does not bring a thread back. -/
theorem worker_cases {s s' : CameraState} {w : WorkerStep} (h : s.worker w = some s') :
    (s.thread.gone = true → s'.thread.gone = true) ∧ s'.device = s.device ∧
      s'.freed = s.freed := by
  obtain ⟨thread, hstep, rfl⟩ := Option.map_eq_some_iff.mp h
  exact ⟨WorkerThread.gone_step hstep, rfl, rfl⟩

/-- What an assertion of the proof is: it implies the invariant, no step of the worker
disturbs it, and it is about nothing else than the frame buffer. -/
structure Tracked (P : CameraState → Prop) : Prop where
  base : ∀ s, P s → Base s
  stable : Stable workerStep P
  same : ∀ s s', P s → SameFrame s s' → P s'

theorem tracked_base : Tracked Base where
  base := fun _ h => h
  stable := by
    rintro s s' ⟨w, hw⟩ h
    obtain ⟨hgone, hdevice, hfreed⟩ := worker_cases hw
    unfold Base
    rw [hdevice, hfreed]
    refine ⟨fun hthread => h.1 ?_, h.2⟩
    by_contra hbefore
    rw [hgone (Bool.not_eq_false _ ▸ hbefore)] at hthread
    cases hthread
  same := fun _ _ h hsame => h.same hsame

theorem tracked_gone : Tracked Gone where
  base := fun _ h => h.1
  stable := by
    rintro s s' ⟨w, hw⟩ h
    exact ⟨tracked_base.stable s s' ⟨w, hw⟩ h.1, (worker_cases hw).1 h.2⟩
  same := fun _ _ h hsame => h.same hsame

/-- What has been read of the device stays so. -/
theorem Tracked.and_started {P : CameraState → Prop} (h : Tracked P) (b : Bool) :
    Tracked fun s => P s ∧ s.device.isStarted = b where
  base := fun s hs => h.base s hs.1
  stable := by
    rintro s s' ⟨w, hw⟩ hs
    refine ⟨h.stable s s' ⟨w, hw⟩ hs.1, ?_⟩
    rw [(worker_cases hw).2.1]
    exact hs.2
  same := fun s s' hs hsame => ⟨h.same s s' hs.1 hsame, hsame.started.trans hs.2⟩

/-! ## The actions -/

/-- A program of the API thread, against the worker. -/
abbrev Spec {α : Type} (P : CameraState → Prop) (p : CameraProg α)
    (Q : α → CameraState → Prop) : Prop :=
  Triple workerStep apiStep Base P p Q

/-- The actions that touch neither the thread nor the frame buffer. -/
def Act.quiet : Act → Bool
  | startDevice _ _ _ | stopDevice | run | dereferenceNull => false
  | _ => true

theorem connectDevice_isStarted (dev : EmulatedCameraDevice) (answer : status_t) :
    (dev.connectDevice answer).2.1.isStarted = dev.isStarted := by
  rcases dev.connectDevice_cases answer with ⟨hstate, hcall⟩ | ⟨-, res, hcall⟩
  · rw [hcall]
    unfold EmulatedCameraDevice.isStarted
    dsimp only
    split
    · rw [hstate]
      rfl
    · rfl
  · rw [hcall]

theorem disconnectDevice_isStarted (dev : EmulatedCameraDevice) (answer : status_t) :
    (dev.disconnectDevice answer).2.1.isStarted = dev.isStarted := by
  rcases dev.disconnectDevice_cases answer with ⟨hstate, hcall⟩ | ⟨-, res, hcall⟩
  · rw [hcall]
    unfold EmulatedCameraDevice.isStarted
    dsimp only
    split
    · rw [hstate]
      rfl
    · rfl
  · rw [hcall]

theorem sameFrame_of_quiet {x : Act} (hx : x.quiet = true) {s s' : CameraState} {answer : Answer}
    {r : x.Resp} (h : s.perform answer x = some (r, s')) : SameFrame s s' := by
  cases x with
  | startDevice | stopDevice | run | dereferenceNull => cases hx
  | connectDevice =>
      cases h
      exact ⟨connectDevice_isStarted s.device answer.status, rfl, rfl⟩
  | disconnectDevice =>
      cases h
      exact ⟨disconnectDevice_isStarted s.device answer.status, rfl, rfl⟩
  | writeStop =>
      change (if answer.status = NO_ERROR then some _ else some _) = _ at h
      split at h <;> cases h <;> exact ⟨rfl, rfl, rfl⟩
  | waitForExit =>
      change (if s.thread.phase = .idle then some _ else none) = _ at h
      split at h
      · cases h
        exact ⟨rfl, rfl, rfl⟩
      · cases h
  | _ =>
      cases h
      exact ⟨rfl, rfl, rfl⟩

/-- A quiet action keeps every assertion, and what it gives back may be added. -/
theorem quiet_spec {x : Act} {P : CameraState → Prop} {Q : x.Resp → CameraState → Prop}
    (hx : x.quiet = true) (hP : Tracked P)
    (hQ : ∀ s answer r s', P s → P s' → StopReaches s answer x →
      s.perform answer x = some (r, s') → Q r s') : Spec P (exec x) Q := by
  refine Triple.perform hP.stable ?_
  rintro s r s' hs ⟨answer, hreaches, hact⟩
  have hnext : P s' := hP.same s s' hs (sameFrame_of_quiet hx hact)
  exact ⟨hP.base s' hnext, hQ s answer r s' hs hnext hreaches hact⟩

theorem quiet_keeps {x : Act} {P : CameraState → Prop} (hx : x.quiet = true)
    (hP : Tracked P) : Spec P (exec x) fun _ => P :=
  quiet_spec hx hP fun _ _ _ _ _ hs' _ _ => hs'

theorem isStarted_spec {P : CameraState → Prop} (hP : Tracked P) :
    Spec P (exec .isStarted) fun r s => P s ∧ s.device.isStarted = r :=
  quiet_spec rfl hP fun _ _ _ _ hs _ _ hact => by
    cases hact
    exact ⟨hs, rfl⟩

theorem stopDevice_started {dev : EmulatedCameraDevice} {answer : status_t}
    (h : (dev.stopDevice answer).2.1.isStarted = true) : dev.isStarted = true := by
  rcases dev.stopDevice_cases answer with ⟨hstarted, -⟩ | ⟨-, hcall⟩
  · exact hstarted
  · rw [hcall] at h
    exact h

/-- Without a running worker the device may be stopped. -/
theorem stopDevice_spec : Spec Gone (exec .stopDevice) fun _ => Gone := by
  refine Triple.perform tracked_gone.stable ?_
  rintro s r s' ⟨hbase, hgone⟩ ⟨answer, -, hact⟩
  have hnext : Gone s' := by
    cases hact
    refine ⟨⟨fun hthread => ?_, fun hstarted => ?_⟩, hgone⟩
    · cases hgone.symm.trans hthread
    · -- a device that is still started has kept its frame buffer
      change (s.device.stopDevice answer.status).2.1.isStarted = true at hstarted
      change (s.freed || (s.device.isStarted &&
        !(s.device.stopDevice answer.status).2.1.isStarted)) = false
      rw [hbase.2 (stopDevice_started hstarted), hstarted, Bool.not_true, Bool.and_false]
      rfl
  exact ⟨hnext.1, hnext⟩

/-- A device that has been started has a frame buffer again. -/
theorem startDevice_spec {width height : Int} {pix_fmt : BitVec 32} :
    Spec Gone (exec (.startDevice width height pix_fmt)) fun _ => Gone := by
  refine Triple.perform tracked_gone.stable ?_
  rintro s r s' ⟨-, hgone⟩ ⟨answer, -, hact⟩
  have hnext : Gone s' := by
    cases hact
    refine ⟨⟨fun hthread => ?_, fun hstarted => ?_⟩, hgone⟩
    · cases hgone.symm.trans hthread
    · exact Bool.and_eq_false_iff.mpr (Or.inr (by rw [hstarted]; rfl))
  exact ⟨hnext.1, hnext⟩

theorem WorkerThread.run_failed {t : WorkerThread} {created : Bool} (hgone : t.gone = true)
    (hres : (t.run created).1 ≠ NO_ERROR) : (t.run created).2.gone = true := by
  unfold WorkerThread.run at hres ⊢
  split
  · exact hgone
  · rename_i hidle
    rw [if_neg hidle] at hres
    cases created with
    | true => exact absurd rfl hres
    | false =>
        change WorkerThread.gone { t with mStatus := _, mExitPending := _ } = true
        unfold gone
        rw [not_not.mp hidle]

/-- The thread that is created finds the device started. -/
theorem run_spec : Spec (fun s => Gone s ∧ s.device.isStarted = true) (exec .run)
    fun res s => Base s ∧ (res ≠ NO_ERROR → Gone s) := by
  refine Triple.perform (tracked_gone.and_started true).stable ?_
  rintro s r s' ⟨⟨hbase, hgone⟩, hstarted⟩ ⟨answer, -, hact⟩
  have hnext : Base s' := by
    cases hact
    exact ⟨fun _ => hstarted, hbase.2⟩
  refine ⟨hnext, hnext, fun hres => ⟨hnext, ?_⟩⟩
  cases hact
  exact WorkerThread.run_failed hgone hres

theorem dereferenceNull_spec {Q : Unit → CameraState → Prop} :
    Spec Base (exec .dereferenceNull) Q := by
  refine Triple.perform tracked_base.stable ?_
  rintro s r s' - ⟨answer, -, hact⟩
  cases hact

/-! ## The worker thread is started and stopped -/

theorem writeStop_failed {s s' : CameraState} {answer : Answer} {wres : status_t}
    (h : s.perform answer .writeStop = some (wres, s')) (hres : wres ≠ NO_ERROR) :
    answer.status ≠ NO_ERROR := by
  intro hwritten
  change (if answer.status = NO_ERROR then some (NO_ERROR, _) else some _) = _ at h
  rw [if_pos hwritten] at h
  cases h
  exact hres rfl

theorem waitForExit_joined {s s' : CameraState} {answer : Answer} {res : status_t}
    (h : s.perform answer .waitForExit = some (res, s')) : s'.thread.gone = true := by
  change (if s.thread.phase = .idle then some (s.thread.mStatus, _) else none) = _ at h
  split at h
  · rename_i hidle
    cases h
    unfold WorkerThread.gone
    rw [hidle]
  · cases h

/-- A stop that reaches the thread has joined it, or found none. -/
theorem stopThread_spec : Spec Base stopThread fun _ => Gone := by
  refine Triple.bind (M := fun r s => Base s ∧ (r = false → Gone s))
    (quiet_spec rfl tracked_base ?_) fun isopen => Triple.ite ?_ ?_
  · rintro s answer r s' - hs' hreaches hact
    cases hact
    refine ⟨hs', fun hclosed => ⟨hs', hreaches ?_⟩⟩
    exact Option.isNone_iff_eq_none.mp (Option.isSome_eq_false_iff.mp hclosed)
  · intro _
    refine Triple.bind (M := fun wres s => Base s ∧ (wres ≠ NO_ERROR → Gone s))
      ((quiet_spec rfl tracked_base ?_).pre fun s hs => hs.1) fun wres => Triple.dite ?_ ?_
    · rintro s answer r s' hs hs' hreaches hact
      refine ⟨hs', fun hres => ⟨hs', ?_⟩⟩
      rw [(sameFrame_of_quiet rfl hact).gone]
      exact hreaches (writeStop_failed hact hres)
    · intro _
      refine ((quiet_keeps rfl tracked_base).pre fun s hs => hs.1).bind fun _ => ?_
      refine Triple.bind (M := fun _ => Gone) (quiet_spec rfl tracked_base ?_) fun res => ?_
      · rintro s answer r s' - hs' - hact
        exact ⟨hs', waitForExit_joined hact⟩
      · refine Triple.dite (fun _ => ?_) fun _ => Triple.pure fun s hs => hs
        exact (quiet_keeps rfl tracked_gone).bind fun _ => Triple.pure fun s hs => hs
    · -- the message was not written: by the condition there is no thread
      intro hres
      exact Triple.pure fun s hs => hs.2 hres
  · -- no control pipe: by the condition there is no thread either
    rintro rfl
    exact Triple.pure fun s hs => hs.2 rfl

theorem stopWorkerThread_spec : Spec Base stopWorkerThread fun _ => Gone := by
  refine Triple.bind (M := fun r s => Base s ∧ s.device.isInitialized = r)
    (quiet_spec rfl tracked_base ?_) fun initialized => Triple.ite ?_ ?_
  · rintro s answer r s' - hs' - hact
    cases hact
    exact ⟨hs', rfl⟩
  · intro _
    exact (stopThread_spec).pre fun s hs => hs.1
  · rintro rfl
    exact Triple.pure fun s hs =>
      gone_of_not_started hs.1 (not_started_of_not_initialized hs.2)

theorem stopDeliveringFrames_spec : Spec Base stopDeliveringFrames fun _ => Gone := by
  refine (isStarted_spec tracked_base).bind fun started => Triple.ite ?_ ?_
  · intro _
    exact (stopWorkerThread_spec).pre fun s hs => hs.1
  · rintro rfl
    exact Triple.pure fun s hs => gone_of_not_started hs.1 hs.2

theorem stopIfStarted_spec : Spec Base stopIfStarted fun _ => Gone := by
  refine (isStarted_spec tracked_base).bind fun started => Triple.ite ?_ ?_
  · intro _
    refine ((stopDeliveringFrames_spec).pre fun s hs => hs.1).bind fun _ => ?_
    exact (stopDevice_spec).bind fun _ => Triple.pure fun s hs => hs
  · rintro rfl
    exact Triple.pure fun s hs => gone_of_not_started hs.1 hs.2

/-- A thread that could not be started is not running. -/
theorem startDeliveringFrames_spec {one_burst : Bool} :
    Spec Gone (startDeliveringFrames one_burst)
      fun res s => Base s ∧ (res ≠ NO_ERROR → Gone s) := by
  refine (isStarted_spec tracked_gone).bind fun started => Triple.ite ?_ ?_
  · rintro rfl
    refine (quiet_keeps rfl (tracked_gone.and_started true)).bind fun initialized =>
      Triple.ite (fun _ => ?_) fun _ => Triple.pure fun _ hs => ⟨hs.1.1, fun _ => hs.1⟩
    exact (quiet_keeps rfl (tracked_gone.and_started true)).bind fun _ => run_spec
  · intro _
    exact Triple.pure fun s hs => ⟨hs.1.1, fun _ => hs.1⟩

/-! ## The calls -/

theorem rejectPreview_spec : Spec Gone rejectPreview fun _ => Base :=
  (quiet_keeps rfl tracked_gone).bind fun _ => Triple.pure fun _ hs => hs.1

theorem startPreviewDevice_spec {params : CameraParameters} :
    Spec Gone (startPreviewDevice params) fun _ => Base := by
  unfold startPreviewDevice
  dsimp only
  split
  · exact rejectPreview_spec
  · refine (startDevice_spec).bind fun res => Triple.dite ?_ ?_
    · intro _
      exact (quiet_keeps rfl tracked_gone).bind fun _ => Triple.pure fun s hs => hs.1
    · intro _
      refine (startDeliveringFrames_spec).bind fun res => Triple.dite ?_ ?_
      · -- the thread could not be started, so the device may be stopped
        intro hres
        refine ((stopDevice_spec).pre fun s hs => hs.2 hres).bind fun _ => ?_
        exact (quiet_keeps rfl tracked_gone).bind fun _ => Triple.pure fun s hs => hs.1
      · intro _
        exact Triple.pure fun s hs => hs.1

theorem doStartPreview_spec {params : CameraParameters} :
    Spec Base (doStartPreview params) fun _ => Base := by
  refine (stopIfStarted_spec).bind fun _ => (quiet_keeps rfl tracked_gone).bind fun res =>
    Triple.dite (fun _ => Triple.pure fun s hs => hs.1) fun _ => ?_
  refine (quiet_keeps rfl tracked_gone).bind fun connected => Triple.ite ?_ ?_
  · intro _
    exact startPreviewDevice_spec
  · intro _
    refine (quiet_keeps rfl tracked_gone).bind fun res => Triple.dite ?_ ?_
    · intro _
      exact (quiet_keeps rfl tracked_gone).bind fun _ => Triple.pure fun s hs => hs.1
    · intro _
      exact startPreviewDevice_spec

theorem doStopPreview_spec : Spec Base doStopPreview fun _ => Base := by
  refine (quiet_keeps rfl tracked_base).bind fun enabled =>
    Triple.ite (fun _ => ?_) fun _ => Triple.pure fun s hs => hs
  refine (quiet_keeps rfl tracked_base).bind fun started => Triple.ite ?_ ?_
  · intro _
    refine (stopDeliveringFrames_spec).bind fun _ => (stopDevice_spec).bind fun res =>
      Triple.dite (fun _ => ?_) fun _ => Triple.pure fun s hs => hs.1
    exact (quiet_keeps rfl tracked_gone).bind fun _ => Triple.pure fun s hs => hs.1
  · intro _
    exact (quiet_keeps rfl tracked_base).bind fun _ => Triple.pure fun s hs => hs

theorem stopForPicture_spec {preview_on : Bool} :
    Spec Base (stopForPicture preview_on) fun _ => Base :=
  Triple.ite (fun _ => (doStopPreview_spec).bind fun _ => Triple.pure fun _ hs => hs)
    fun _ => Triple.pure fun _ hs => hs

theorem restorePreview_spec {preview_on : Bool} {params : CameraParameters} :
    Spec Base (restorePreview preview_on params) fun _ => Base :=
  Triple.ite (fun _ => (doStartPreview_spec).bind fun _ => Triple.pure fun _ hs => hs)
    fun _ => Triple.pure fun _ hs => hs

theorem startPicture_spec {preview_on : Bool} {params : CameraParameters} {org_fmt : BitVec 32} :
    Spec Gone (startPicture preview_on params org_fmt) fun _ => Base := by
  refine (startDevice_spec).bind fun res => Triple.dite ?_ ?_
  · intro _
    refine ((restorePreview_spec).pre fun s hs => hs.1).bind fun _ => ?_
    exact Triple.pure fun s hs => hs
  · intro _
    refine (quiet_keeps rfl tracked_gone).bind fun _ =>
      (quiet_keeps rfl tracked_gone).bind fun _ =>
        (startDeliveringFrames_spec).bind fun res => Triple.dite ?_ ?_
    · intro _
      refine ((quiet_keeps rfl tracked_base).pre fun s hs => hs.1).bind fun _ => ?_
      exact (restorePreview_spec).bind fun _ => Triple.pure fun s hs => hs
    · intro _
      exact Triple.pure fun s hs => hs.1

theorem takePicture_spec {params : CameraParameters} :
    Spec Base (takePicture params) fun _ => Base := by
  unfold takePicture
  split
  · exact (dereferenceNull_spec).bind fun _ => Triple.pure fun s hs => hs
  · split
    · exact Triple.pure fun s hs => hs
    · refine (quiet_keeps rfl tracked_base).bind fun preview_on => ?_
      exact (stopForPicture_spec).bind fun _ => (stopIfStarted_spec).bind fun _ => startPicture_spec

theorem disconnectCamera_spec : Spec Base disconnectCamera fun _ => Base := by
  refine (quiet_keeps rfl tracked_base).bind fun connected => Triple.ite ?_ ?_
  · intro _
    refine (quiet_keeps rfl tracked_base).bind fun res =>
      Triple.dite (fun _ => Triple.pure fun s hs => hs) fun _ => ?_
    exact (quiet_keeps rfl tracked_base).bind fun _ => Triple.pure fun s hs => hs
  · intro _
    exact (quiet_keeps rfl tracked_base).bind fun _ => Triple.pure fun s hs => hs

theorem cleanupCamera_spec : Spec Base cleanupCamera fun _ => Base := by
  refine (doStopPreview_spec).bind fun res =>
    Triple.dite (fun _ => Triple.pure fun s hs => hs) fun _ => ?_
  refine (quiet_keeps rfl tracked_base).bind fun started => Triple.ite ?_ ?_
  · intro _
    refine (stopDeliveringFrames_spec).bind fun _ => (stopDevice_spec).bind fun res =>
      Triple.dite (fun _ => Triple.pure fun s hs => hs.1) fun _ => ?_
    exact (disconnectCamera_spec).pre fun s hs => hs.1
  · intro _
    exact disconnectCamera_spec

/-- Every call keeps the invariant after each of its actions. -/
theorem program_spec (params : CameraParameters) (call : CameraCall) :
    Spec Base (call.program params) fun _ => Base := by
  cases call with
  | connectCamera =>
      exact (quiet_keeps rfl tracked_base).bind fun res => Triple.pure fun s hs => hs
  | startPreview dims =>
      refine (quiet_keeps rfl tracked_base).bind fun _ => ?_
      exact (doStartPreview_spec).bind fun res => Triple.pure fun s hs => hs
  | stopPreview => exact doStopPreview_spec
  | takePicture => exact takePicture_spec
  | setParameters params =>
      exact (quiet_keeps rfl tracked_base).bind fun _ => Triple.pure fun s hs => hs
  | releaseCamera => exact cleanupCamera_spec
  | closeCamera => exact cleanupCamera_spec

/-! ## Runs -/

/-- The step of either thread meets the condition. -/
def CameraSystem.StopReaches (s : CameraSystem) : CameraStep → Prop
  | .act answer =>
      match s.api with
      | some { program := .act x _, .. } => Camera.StopReaches s.shared answer x
      | _ => True
  | _ => True

instance (s : CameraState) (answer : Answer) (x : Act) :
    Decidable (Camera.StopReaches s answer x) :=
  match x with
  | .threadControlOpen =>
      inferInstanceAs (Decidable (s.thread.control = none → s.thread.gone = true))
  | .writeStop => inferInstanceAs (Decidable (answer.status ≠ NO_ERROR → s.thread.gone = true))
  | .isPreviewEnabled | .startPreview | .stopPreview | .isInitialized | .isStarted
  | .isConnected | .connectDevice | .disconnectDevice | .startDevice _ _ _ | .stopDevice
  | .setOneBurst _ | .run | .requestExit | .waitForExit | .closeControl | .setJpegQuality _
  | .setTakingPicture _ | .cleanupCBNotifier | .setParameters _ | .dereferenceNull => isTrue trivial

instance (s : CameraSystem) (a : CameraStep) : Decidable (s.StopReaches a) :=
  match a, s with
  | .act answer, ⟨shared, some ⟨_, _, _, .act x _⟩⟩ =>
      inferInstanceAs (Decidable (Camera.StopReaches shared answer x))
  | .act _, ⟨_, some ⟨_, _, _, .ret _⟩⟩ | .act _, ⟨_, none⟩ => isTrue trivial
  | .call _, _ | .returns, _ | .worker _, _ => isTrue trivial

/-- The worker touches or delivers a frame only while `stopDevice` has not freed it. -/
def CameraSystem.FrameSafe (s : CameraSystem) : CameraStep → Prop
  | .worker w => s.shared.thread.touchesFrame w = true → s.shared.freed = false
  | _ => True

instance (s : CameraSystem) (a : CameraStep) : Decidable (s.FrameSafe a) :=
  match a with
  | .worker w =>
      inferInstanceAs (Decidable (s.shared.thread.touchesFrame w = true → s.shared.freed = false))
  | .call _ | .act _ | .returns => isTrue trivial

/-- The invariant holds, and does so to the end of the call in progress. -/
def CameraSystem.Guarded (s : CameraSystem) : Prop :=
  Base s.shared ∧ ∀ c, s.api = some c →
    wp (Interleaved workerStep apiStep) Base c.program (fun _ => Base) s.shared

theorem guarded_initialized (params : CameraParameters) :
    (CameraSystem.initialized params).Guarded := by
  refine ⟨⟨fun h => ?_, fun _ => rfl⟩, fun c hc => ?_⟩
  · cases h
  · cases hc

/-- A step that meets the condition keeps the invariant. -/
theorem guarded_step {s s' : CameraSystem} {a : CameraStep} (h : s.Guarded)
    (hreaches : s.StopReaches a) (hstep : s.run a = some s') : s'.Guarded := by
  obtain ⟨shared, api⟩ := s
  obtain ⟨hbase, hprogram⟩ := h
  cases a with
  | call call =>
      cases api with
      | some c => cases hstep
      | none =>
          cases hstep
          refine ⟨hbase, fun c hc => ?_⟩
          cases hc
          exact program_spec shared.mParameters call _ hbase
  | act answer =>
      match api with
      | none => cases hstep
      | some ⟨call, preview, mState, .ret _⟩ => cases hstep
      | some ⟨call, preview, mState, .act x k⟩ =>
          -- the action now, with no step of the worker before it
          obtain ⟨⟨r, next⟩, hact, rfl⟩ := Option.map_eq_some_iff.mp hstep
          obtain ⟨hnext, hrest⟩ := wp_step (hprogram _ rfl) ⟨answer, hreaches, hact⟩
          refine ⟨hnext, fun c hc => ?_⟩
          cases hc
          exact hrest
  | returns =>
      match api with
      | none => cases hstep
      | some ⟨call, preview, mState, .act x k⟩ => cases hstep
      | some ⟨call, preview, mState, .ret _⟩ =>
          cases hstep
          refine ⟨hbase, fun c hc => ?_⟩
          cases hc
  | worker w =>
      obtain ⟨next, hworker, rfl⟩ := Option.map_eq_some_iff.mp hstep
      have henv : workerStep shared next := ⟨w, hworker⟩
      exact ⟨tracked_base.stable _ _ henv hbase,
        fun c hc => wp_env (fun _ => tracked_base.stable) henv (hprogram c hc)⟩

theorem frameSafe_of_guarded {s : CameraSystem} (h : s.Guarded) (a : CameraStep) :
    s.FrameSafe a := by
  cases a with
  | call | act | returns => trivial
  | worker w =>
      intro htouches
      exact h.1.2 (h.1.1 (WorkerThread.not_gone_of_touchesFrame htouches))

/-- In a run whose stops all reach the thread, the worker thread neither touches nor
delivers a frame between a `stopDevice` that has freed it and the next start. -/
theorem frame_never_touched (params : CameraParameters)
    {trace : List (CameraStep × CameraSystem)}
    (hrun : Run (fun s a s' => s.run a = some s') (.initialized params) trace)
    (hreaches : EachStep (fun s a _ => s.StopReaches a) (.initialized params) trace) :
    EachStep (fun s a _ => s.FrameSafe a) (.initialized params) trace :=
  Run.eachStep_of_eachStep (fun _ _ _ hinv hcond hstep => guarded_step hinv hcond hstep)
    (fun _ a _ hinv _ _ => frameSafe_of_guarded hinv a) hrun (guarded_initialized params) hreaches

/-- The worker delivers the frame the host has sent. -/
def oneFrame : List CameraStep :=
  [.worker (.select false), .worker .queryFrame, .worker (.reply NO_ERROR),
    .worker .onNextFrameAvailable]

/-- The worker delivers a frame, is stopped and joined; then the device is stopped. -/
def stopAfterFrame : List CameraStep :=
  previewStarted ++ [.worker (.readyToRun NO_ERROR), .worker .enter] ++ oneFrame ++
    [.worker .threadLoop, .call .stopPreview] ++ succeeding 7 ++
    [.worker (.select false), .worker .exit] ++ succeeding 4 ++ [.returns]

theorem frame_never_touched_stop_after_frame :
    let trace := partialTraceOf CameraSystem.run (.initialized nv21Parameters) stopAfterFrame
    (trace.getLast?.map fun entry => entry.2.shared.freed) = some true ∧
      EachStep (fun s a _ => s.FrameSafe a) (.initialized nv21Parameters) trace :=
  ⟨by decide, frame_never_touched nv21Parameters (run_partialTraceOf _ _ _) (by decide)⟩

/-- The preview is stopped before the new thread has made its control pipe: the stop is
refused and forgotten, the device is stopped, and then the thread delivers a frame. -/
def stopBeforeReadyToRun : List CameraStep :=
  previewStarted ++ [.call .stopPreview] ++ succeeding 7 ++
    [.returns, .worker (.readyToRun NO_ERROR), .worker .enter] ++ oneFrame

theorem stop_before_readyToRun :
    ¬∀ (params : CameraParameters) (trace : List (CameraStep × CameraSystem)),
      Run (fun s a s' => s.run a = some s') (.initialized params) trace →
        EachStep (fun s a _ => s.FrameSafe a) (.initialized params) trace := by
  intro h
  have hsafe := h nv21Parameters _
    (run_partialTraceOf CameraSystem.run (.initialized nv21Parameters) stopBeforeReadyToRun)
  revert hsafe
  decide

end Camera
end DeviceAndroVM
