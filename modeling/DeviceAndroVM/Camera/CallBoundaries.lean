import DeviceAndroVM.Camera.EmulatedCamera
import DeviceAndroVM.Library.Transition

/-!
# Preview and device between the calls

What the calls leave behind, whatever the host answers: a preview that is on has a
started device, a camera that has been cleaned up has neither preview nor connection, and
a picture that fails does not leave the device started.  Two patterns of answers break
this: a clean-up whose first stop query fails and whose second one does not, and a
picture whose device starts and whose thread does not.

* `View` — the preview, the state of the device and the queries of the call.
* `viewStep` — the actions on it: an abstract machine that the camera refines.
* `doStopPreview_outcomes`, …, `program_outcomes` — the calls, bottom up.
* `CameraSystem.BoundaryOk`, `CameraSystem.AnswersOk` — the property of a return, and the
  condition on the answers.
* `boundaries_iff` — over every run, the one holds exactly when the other does.
-/

namespace DeviceAndroVM
namespace Camera

open Library

/-! ## The abstract machine -/

/-- What the calls decide on. -/
structure View where
  preview : Bool
  mState : ECDState
  asked : List (Query × status_t)
  deriving DecidableEq

namespace View

def isInitialized (v : View) : Bool := v.mState != .ECDS_CONSTRUCTED

def isStarted (v : View) : Bool := v.mState == .ECDS_STARTED

def isConnected (v : View) : Bool := v.mState == .ECDS_CONNECTED || v.mState == .ECDS_STARTED

/-- A query whose success leads into the state `next`. -/
def query (v : View) (q : Query) (res : status_t) (next : ECDState) : View :=
  { v with
    mState := if res = NO_ERROR then next else v.mState
    asked := v.asked ++ [(q, res)] }

/-- A thread is started; the device does not change. -/
def run (v : View) (res : status_t) : View := { v with asked := v.asked ++ [(.run, res)] }

/-- The preview is stopped. -/
def stopped (v : View) : View := { v with preview := false }

/-- A preview that is on has a started device. -/
def Consistent (v : View) : Prop := v.preview = true → v.isStarted = true

theorem stopped_consistent (v : View) : v.stopped.Consistent := nofun

theorem consistent_of_off {v : View} (h : v.preview = false) : v.Consistent := by
  intro hon
  cases h.symm.trans hon

theorem query_failed {v : View} {res : status_t} (hres : res ≠ NO_ERROR) (q : Query)
    (next : ECDState) : (v.query q res next).mState = v.mState := if_neg hres

end View

def CameraState.view (s : CameraState) : View := ⟨s.mPreviewEnabled, s.device.mState, s.asked⟩

/-- The actions, with every answer of the host and of the system. -/
def viewStep : (x : Act) → View → x.Resp → View → Prop
  | .isPreviewEnabled, v, r, v' => r = v.preview ∧ v' = v
  | .startPreview, v, r, v' => r = NO_ERROR ∧ v' = { v with preview := true }
  | .stopPreview, v, _, v' => v' = v.stopped
  | .isInitialized, v, r, v' => r = v.isInitialized ∧ v' = v
  | .isStarted, v, r, v' => r = v.isStarted ∧ v' = v
  | .isConnected, v, r, v' => r = v.isConnected ∧ v' = v
  | .connectDevice, v, r, v' =>
      (v.mState = .ECDS_INITIALIZED ∧ v' = v.query .queryConnect r .ECDS_CONNECTED) ∨
        (v.mState ≠ .ECDS_INITIALIZED ∧ v' = v)
  | .disconnectDevice, v, r, v' =>
      (v.mState = .ECDS_CONNECTED ∧ v' = v.query .queryDisconnect r .ECDS_INITIALIZED) ∨
        (v.mState ≠ .ECDS_CONNECTED ∧ v' = v)
  | .startDevice _ _ _, v, r, v' =>
      (v.mState = .ECDS_CONNECTED ∧ v' = v.query .queryStart r .ECDS_STARTED) ∨
        (v.isStarted = true ∧ r = NO_ERROR ∧ v' = v) ∨ (r ≠ NO_ERROR ∧ v' = v)
  | .stopDevice, v, r, v' =>
      (v.isStarted = true ∧ v' = v.query .queryStop r .ECDS_CONNECTED) ∨
        (v.isStarted = false ∧ r = NO_ERROR ∧ v' = v)
  | .run, v, r, v' => v' = v.run r
  | .dereferenceNull, _, _, _ => False
  | .setOneBurst _, v, _, v' | .threadControlOpen, v, _, v' | .writeStop, v, _, v'
  | .requestExit, v, _, v' | .waitForExit, v, _, v' | .closeControl, v, _, v'
  | .setJpegQuality _, v, _, v' | .setTakingPicture _, v, _, v' | .cleanupCBNotifier, v, _, v'
  | .setParameters _, v, _, v' => v' = v

theorem view_query (s : CameraState) {mState next : ECDState} {q : Query} {res : status_t}
    (h : mState = if res = NO_ERROR then next else s.device.mState) :
    (⟨s.mPreviewEnabled, mState, s.asked ++ [(q, res)]⟩ : View) = s.view.query q res next := by
  rw [h]
  rfl

theorem view_unasked (s : CameraState) :
    (⟨s.mPreviewEnabled, s.device.mState, s.asked ++ []⟩ : View) = s.view := by
  rw [List.append_nil]
  rfl

/-- The camera refines the abstract machine. -/
theorem view_perform {s s' : CameraState} {answer : Answer} {x : Act} {r : x.Resp}
    (h : s.perform answer x = some (r, s')) : viewStep x s.view r s'.view := by
  cases x with
  | connectDevice =>
      unfold CameraState.perform at h
      rcases s.device.connectDevice_cases answer.status with ⟨hstate, hcall⟩ | ⟨hstate, res, hcall⟩
      · rw [hcall] at h
        cases h
        refine Or.inl ⟨hstate, view_query s ?_⟩
        split <;> rfl
      · rw [hcall] at h
        cases h
        exact Or.inr ⟨hstate, view_unasked s⟩
  | disconnectDevice =>
      unfold CameraState.perform at h
      rcases s.device.disconnectDevice_cases answer.status with
        ⟨hstate, hcall⟩ | ⟨hstate, res, hcall⟩
      · rw [hcall] at h
        cases h
        refine Or.inl ⟨hstate, view_query s ?_⟩
        split <;> rfl
      · rw [hcall] at h
        cases h
        exact Or.inr ⟨hstate, view_unasked s⟩
  | startDevice width height pix_fmt =>
      unfold CameraState.perform at h
      dsimp only at h
      generalize hcall : s.device.startDevice _ width height pix_fmt answer.status = result at h
      obtain ⟨res, device, queries⟩ := result
      cases h
      rcases EmulatedCameraDevice.startDevice_cases hcall with
        ⟨hstate, rfl, hnext⟩ | ⟨hstarted, hres, rfl, rfl⟩ | ⟨hres, hnext, rfl⟩
      · exact Or.inl ⟨hstate, view_query s hnext⟩
      · exact Or.inr (Or.inl ⟨hstarted, hres, view_unasked s⟩)
      · refine Or.inr (Or.inr ⟨hres, ?_⟩)
        rw [← view_unasked s, ← hnext]
        rfl
  | stopDevice =>
      unfold CameraState.perform at h
      rcases s.device.stopDevice_cases answer.status with ⟨hstarted, hcall⟩ | ⟨hstarted, hcall⟩
      · rw [hcall] at h
        cases h
        refine Or.inl ⟨hstarted, view_query s ?_⟩
        split <;> rfl
      · rw [hcall] at h
        cases h
        exact Or.inr ⟨hstarted, rfl, view_unasked s⟩
  | waitForExit =>
      change (if s.thread.phase = .idle then some _ else none) = _ at h
      split at h
      · cases h
        rfl
      · cases h
  | writeStop =>
      change (if answer.status = NO_ERROR then some _ else some _) = _ at h
      split at h <;> cases h <;> rfl
  | dereferenceNull => cases h
  | isPreviewEnabled | startPreview | isInitialized | isStarted | isConnected =>
      cases h
      exact ⟨rfl, rfl⟩
  | run =>
      obtain ⟨rfl, rfl⟩ := Prod.mk.inj (Option.some.inj h)
      rfl
  | _ =>
      cases h
      rfl

/-- The actions that the abstract machine does not see. -/
def Act.silent : Act → Bool
  | startPreview | stopPreview | connectDevice | disconnectDevice | startDevice _ _ _
  | stopDevice | run | dereferenceNull => false
  | _ => true

theorem viewStep_silent {x : Act} (hx : x.silent = true) {v v' : View} {r : x.Resp}
    (h : viewStep x v r v') : v' = v := by
  cases x with
  | startPreview | stopPreview | connectDevice | disconnectDevice | startDevice | stopDevice
  | run | dereferenceNull => cases hx
  | isPreviewEnabled | isInitialized | isStarted | isConnected => exact h.2
  | _ => exact h

/-! ## Outcomes -/

/-- Whatever the host and the system answer, the program ends in `Q`. -/
abbrev Outcomes {α : Type} (p : CameraProg α) (Q : α → View → Prop) (v : View) : Prop :=
  wp viewStep (fun _ => True) p Q v

theorem exec_outcomes {x : Act} {Q : x.Resp → View → Prop} {v : View}
    (h : ∀ r v', viewStep x v r v' → Q r v') : Outcomes (exec x) Q v :=
  fun r v' hstep => ⟨trivial, h r v' hstep⟩

theorem silent_outcomes {x : Act} {Q : x.Resp → View → Prop} {v : View} (hx : x.silent = true)
    (h : ∀ r, Q r v) : Outcomes (exec x) Q v :=
  exec_outcomes fun r _ hstep => viewStep_silent hx hstep ▸ h r

theorem bind_outcomes {α β : Type} {p : CameraProg β} {f : β → CameraProg α}
    {Q : α → View → Prop} {v : View} (h : Outcomes p (fun b v => Outcomes (f b) Q v) v) :
    Outcomes (p >>= f) Q v :=
  (wp_bind p f).mpr h

theorem outcomes_of_forall {α : Type} {p : CameraProg α} {Q : α → View → Prop} {v : View}
    (h : ∀ a v, Q a v) : Outcomes p Q v :=
  wp_of_forall (fun _ _ _ _ _ => trivial) h

theorem ite_outcomes {α : Type} {b : Bool} {p q : CameraProg α} {Q : α → View → Prop} {v : View}
    (htrue : b = true → Outcomes p Q v) (hfalse : b = false → Outcomes q Q v) :
    Outcomes (if b then p else q) Q v := by
  cases b with
  | true => exact htrue rfl
  | false => exact hfalse rfl

theorem dite_outcomes {α : Type} {c : Prop} [Decidable c] {p q : CameraProg α}
    {Q : α → View → Prop} {v : View} (htrue : c → Outcomes p Q v)
    (hfalse : ¬c → Outcomes q Q v) : Outcomes (if c then p else q) Q v := by
  split
  · rename_i hc
    exact htrue hc
  · rename_i hc
    exact hfalse hc

/-- The program does nothing the abstract machine sees. -/
def Silent {α : Type} (p : CameraProg α) : Prop :=
  ∀ (v : View) (Q : α → View → Prop), (∀ a, Q a v) → Outcomes p Q v

namespace Silent

variable {α β : Type}

theorem pure (a : α) : Silent (Pure.pure a : CameraProg α) := fun _ _ h => h a

theorem bind {p : CameraProg β} {f : β → CameraProg α} (hp : Silent p) (hf : ∀ b, Silent (f b)) :
    Silent (p >>= f) :=
  fun v _ h => bind_outcomes (hp v _ fun b => hf b v _ h)

theorem exec {x : Act} (hx : x.silent = true) : Silent (exec x) :=
  fun _ _ h => silent_outcomes hx h

theorem ite {c : Prop} [Decidable c] {p q : CameraProg α} (hp : Silent p) (hq : Silent q) :
    Silent (if c then p else q) := by
  split
  · exact hp
  · exact hq

end Silent

theorem stopThread_silent : Silent stopThread := by
  refine (Silent.exec rfl).bind fun isopen => Silent.ite ?_ (Silent.pure _)
  refine (Silent.exec rfl).bind fun wres => Silent.ite ?_ (Silent.pure _)
  refine (Silent.exec rfl).bind fun _ => (Silent.exec rfl).bind fun res =>
    Silent.ite ?_ (Silent.pure _)
  exact (Silent.exec rfl).bind fun _ => Silent.pure _

theorem stopDeliveringFrames_silent : Silent stopDeliveringFrames := by
  refine (Silent.exec rfl).bind fun started => Silent.ite ?_ (Silent.pure _)
  exact (Silent.exec rfl).bind fun initialized =>
    Silent.ite stopThread_silent (Silent.pure _)

/-! ## The device and the preview -/

theorem isStarted_outcomes {Q : Bool → View → Prop} {v : View} (h : Q v.isStarted v) :
    Outcomes (exec .isStarted) Q v := by
  refine exec_outcomes ?_
  rintro r v' ⟨rfl, rfl⟩
  exact h

theorem stopPreview_outcomes {Q : Unit → View → Prop} {v : View} (h : Q () v.stopped) :
    Outcomes (exec .stopPreview) Q v := by
  refine exec_outcomes ?_
  rintro r v' rfl
  exact h

/-- A started device asks the host to stop. -/
theorem stopDevice_outcomes {Q : status_t → View → Prop} {v : View} (hstarted : v.isStarted = true)
    (h : ∀ res, Q res (v.query .queryStop res .ECDS_CONNECTED)) :
    Outcomes (exec .stopDevice) Q v := by
  refine exec_outcomes ?_
  rintro res v' (⟨-, rfl⟩ | ⟨hstopped, -⟩)
  · exact h res
  · cases hstarted.symm.trans hstopped

theorem startDevice_cases {width height : Int} {pix_fmt : BitVec 32} {v v' : View} {res : status_t}
    (h : viewStep (.startDevice width height pix_fmt) v res v') :
    v'.preview = v.preview ∧ (res = NO_ERROR → v'.isStarted = true) := by
  rcases h with ⟨-, rfl⟩ | ⟨hstarted, -, rfl⟩ | ⟨hres, rfl⟩
  · refine ⟨rfl, fun hres => ?_⟩
    unfold View.isStarted View.query
    rw [if_pos hres]
    rfl
  · exact ⟨rfl, fun _ => hstarted⟩
  · exact ⟨rfl, fun hok => absurd hok hres⟩

theorem startDeliveringFrames_outcomes {one_burst : Bool} {Q : status_t → View → Prop} {v : View}
    (hstarted : v.isStarted = true) (h : ∀ res, Q res (v.run res)) :
    Outcomes (startDeliveringFrames one_burst) Q v := by
  refine bind_outcomes (isStarted_outcomes (ite_outcomes (fun _ => ?_) fun hstopped => ?_))
  · refine bind_outcomes (exec_outcomes ?_)
    rintro initialized v' ⟨rfl, rfl⟩
    refine ite_outcomes (fun _ => ?_) fun hfresh => ?_
    · refine bind_outcomes (silent_outcomes rfl fun _ => ?_)
      refine exec_outcomes ?_
      rintro res v' rfl
      exact h res
    · unfold View.isStarted at hstarted
      unfold View.isInitialized at hfresh
      rw [eq_of_beq hstarted] at hfresh
      cases hfresh
  · cases hstarted.symm.trans hstopped

theorem stopIfStarted_outcomes {Q : Unit → View → Prop} {v : View}
    (hoff : v.isStarted = false → Q () v)
    (hstop : v.isStarted = true → ∀ res, Q () (v.query .queryStop res .ECDS_CONNECTED)) :
    Outcomes stopIfStarted Q v := by
  refine bind_outcomes (isStarted_outcomes (ite_outcomes (fun hstarted => ?_) hoff))
  refine bind_outcomes (stopDeliveringFrames_silent v _ fun _ => ?_)
  exact bind_outcomes (stopDevice_outcomes hstarted (hstop hstarted))

/-- The preview that is on is stopped with its device, or stays on with it. -/
theorem doStopPreview_outcomes {Q : status_t → View → Prop} {v : View}
    (hoff : v.preview = false → Q NO_ERROR v)
    (hidle : v.preview = true → v.isStarted = false → Q NO_ERROR v.stopped)
    (hstop : v.preview = true → v.isStarted = true →
      Q NO_ERROR (v.query .queryStop NO_ERROR .ECDS_CONNECTED).stopped)
    (hfail : v.preview = true → v.isStarted = true → ∀ res, res ≠ NO_ERROR →
      Q NO_ERROR (v.query .queryStop res .ECDS_CONNECTED)) :
    Outcomes doStopPreview Q v := by
  refine bind_outcomes (exec_outcomes ?_)
  rintro enabled v' ⟨rfl, rfl⟩
  refine ite_outcomes (fun hon => ?_) hoff
  refine bind_outcomes (isStarted_outcomes (ite_outcomes (fun hstarted => ?_) fun hstopped => ?_))
  · refine bind_outcomes (stopDeliveringFrames_silent _ _ fun _ => ?_)
    refine bind_outcomes (stopDevice_outcomes hstarted fun res => dite_outcomes ?_ ?_)
    · rintro rfl
      exact bind_outcomes (stopPreview_outcomes (hstop hon hstarted))
    · exact hfail hon hstarted res
  · exact bind_outcomes (stopPreview_outcomes (hidle hon hstopped))

theorem startPreviewDevice_outcomes {params : CameraParameters} {Q : status_t → View → Prop}
    {v : View} (h : ∀ res v', v'.Consistent → Q res v') :
    Outcomes (startPreviewDevice params) Q v := by
  unfold startPreviewDevice
  dsimp only
  split
  · exact bind_outcomes (stopPreview_outcomes (h _ _ (View.stopped_consistent v)))
  · refine bind_outcomes (exec_outcomes fun res v' hstart => dite_outcomes (fun _ => ?_) fun hok => ?_)
    · exact bind_outcomes (stopPreview_outcomes (h _ _ (View.stopped_consistent v')))
    · have hstarted := (startDevice_cases hstart).2 (not_not.mp hok)
      refine bind_outcomes (startDeliveringFrames_outcomes hstarted fun res =>
        dite_outcomes (fun _ => ?_) fun _ => ?_)
      · refine bind_outcomes (exec_outcomes fun _ v' _ => ?_)
        exact bind_outcomes (stopPreview_outcomes (h _ _ (View.stopped_consistent v')))
      · exact h res _ fun _ => hstarted

theorem doStartPreview_outcomes {params : CameraParameters} {Q : status_t → View → Prop}
    {v : View} (h : ∀ res v', v'.Consistent → Q res v') :
    Outcomes (doStartPreview params) Q v := by
  -- what the first stop leaves does not matter: the preview is turned on now
  refine bind_outcomes (outcomes_of_forall fun _ v => bind_outcomes (exec_outcomes ?_))
  rintro res v' ⟨rfl, rfl⟩
  refine dite_outcomes (fun hres => absurd rfl hres) fun _ => ?_
  refine bind_outcomes (outcomes_of_forall fun connected v => ite_outcomes ?_ ?_)
  · intro _
    exact startPreviewDevice_outcomes h
  · intro _
    refine bind_outcomes (outcomes_of_forall fun res v => dite_outcomes ?_ ?_)
    · intro _
      exact bind_outcomes (stopPreview_outcomes (h _ _ (View.stopped_consistent v)))
    · intro _
      exact startPreviewDevice_outcomes h

theorem restorePreview_outcomes {preview_on : Bool} {params : CameraParameters}
    {Q : Unit → View → Prop} {v : View} (hoff : preview_on = false → Q () v)
    (h : ∀ v', v'.Consistent → Q () v') : Outcomes (restorePreview preview_on params) Q v :=
  ite_outcomes (fun _ => bind_outcomes (doStartPreview_outcomes fun _ v' hv' => h v' hv')) hoff

/-- Whether the picture succeeds or not, a preview that is on has a started device: it is
restored after a failure. -/
theorem startPicture_consistent {preview_on : Bool} {params : CameraParameters}
    {org_fmt : BitVec 32} {v : View} (hoff : preview_on = false → v.preview = false) :
    Outcomes (startPicture preview_on params org_fmt) (fun _ v' => v'.Consistent) v := by
  refine bind_outcomes (exec_outcomes fun res v' hstart => ?_)
  obtain ⟨hpreview, hstarted⟩ := startDevice_cases hstart
  have hoff' : preview_on = false → v'.Consistent :=
    fun hpicture => View.consistent_of_off (hpreview.trans (hoff hpicture))
  refine dite_outcomes (fun _ => ?_) fun hok => ?_
  · exact bind_outcomes (restorePreview_outcomes hoff' fun _ h => h)
  · have hstarted := hstarted (not_not.mp hok)
    refine bind_outcomes (silent_outcomes rfl fun _ => ?_)
    refine bind_outcomes (silent_outcomes rfl fun _ => ?_)
    refine bind_outcomes (startDeliveringFrames_outcomes hstarted fun res =>
      dite_outcomes (fun _ => ?_) fun _ _ => hstarted)
    refine bind_outcomes (silent_outcomes rfl fun _ => ?_)
    exact bind_outcomes (restorePreview_outcomes hoff' fun _ h => h)

theorem disconnectCamera_outcomes {Q : status_t → View → Prop} {v : View}
    (hstopped : v.isStarted = false)
    (h : ∀ status v', v'.preview = v.preview → v'.isStarted = false →
      (status = NO_ERROR → v'.isConnected = false) →
      (v'.asked = v.asked ∨ ∃ res, v'.asked = v.asked ++ [(.queryDisconnect, res)]) →
      Q status v') : Outcomes disconnectCamera Q v := by
  refine bind_outcomes (exec_outcomes ?_)
  rintro connected v' ⟨rfl, rfl⟩
  refine ite_outcomes (fun hconnected => ?_) fun hconnected => ?_
  · refine bind_outcomes (exec_outcomes ?_)
    rintro res v'' (⟨hstate, rfl⟩ | ⟨hstate, -⟩)
    · refine dite_outcomes (fun hres => ?_) fun hok => ?_
      · have hstill : (v'.query .queryDisconnect res .ECDS_INITIALIZED).isStarted = false := by
          unfold View.isStarted
          rw [View.query_failed hres]
          exact hstopped
        exact h _ _ rfl hstill (fun hstatus => absurd (neg_eq_zero.mp hstatus) hres)
          (Or.inr ⟨res, rfl⟩)
      · cases not_not.mp hok
        refine bind_outcomes (silent_outcomes rfl fun _ => ?_)
        exact h _ _ rfl rfl (fun _ => rfl) (Or.inr ⟨_, rfl⟩)
    · unfold View.isConnected at hconnected
      unfold View.isStarted at hstopped
      simp_all
  · refine bind_outcomes (silent_outcomes rfl fun _ => ?_)
    exact h _ _ rfl hstopped (fun _ => hconnected) (Or.inl rfl)

/-! ## The calls -/

/-- The call is a clean-up of the camera. -/
def CameraCall.cleansUp : CameraCall → Bool
  | releaseCamera | closeCamera => true
  | _ => false

/-- What a call may leave behind: a preview that is on has a started device; a clean-up
without an error leaves no preview and no connection; a picture that fails with the
preview off leaves the device as far from started as it was. -/
def ReturnOk (call : CameraCall) (preview : Bool) (mState : ECDState) (status : status_t)
    (v : View) : Prop :=
  v.Consistent ∧
    (call.cleansUp = true → status = NO_ERROR → v.preview = false ∧ v.isConnected = false) ∧
    (call = .takePicture → status ≠ NO_ERROR → preview = false → mState ≠ .ECDS_STARTED →
      v.isStarted = false)

/-- The first stop query fails and the second one does not. -/
def secondStop : List (Query × status_t) → Bool
  | (.queryStop, first) :: (.queryStop, second) :: _ => first != NO_ERROR && second == NO_ERROR
  | _ => false

/-- The device has been started, and the thread has not. -/
def threadRefused : List (Query × status_t) → Bool
  | [(.queryStart, start), (.run, thread)] => start == NO_ERROR && thread != NO_ERROR
  | _ => false

/-- The condition on the answers to a call. -/
def AnswersOk (preview : Bool) (mState : ECDState) (asked : List (Query × status_t)) :
    CameraCall → Prop
  | .releaseCamera | .closeCamera => preview = true → secondStop asked = false
  | .takePicture => preview = false → mState ≠ .ECDS_STARTED → threadRefused asked = false
  | .connectCamera | .startPreview _ | .stopPreview | .setParameters _ => True

/-- The property of the return is the condition on the answers. -/
def Exact (call : CameraCall) (preview : Bool) (mState : ECDState) (status : status_t)
    (v : View) : Prop :=
  ReturnOk call preview mState status v ↔ AnswersOk preview mState v.asked call

theorem exact_of_consistent {call : CameraCall} {preview : Bool} {mState : ECDState}
    {status : status_t} {v : View} (h : v.Consistent) (hcleanup : call.cleansUp = false)
    (hpicture : call = .takePicture → preview = true ∨ mState = .ECDS_STARTED) :
    Exact call preview mState status v := by
  have hreturn : ReturnOk call preview mState status v := by
    refine ⟨h, fun hcall => ?_, fun hcall _ hoff hstate => ?_⟩
    · cases hcleanup.symm.trans hcall
    · rcases hpicture hcall with hon | hstarted
      · cases hoff.symm.trans hon
      · exact absurd hstarted hstate
  refine iff_of_true hreturn ?_
  cases call with
  | releaseCamera | closeCamera => cases hcleanup
  | takePicture =>
      intro hoff hstate
      rcases hpicture rfl with hon | hstarted
      · cases hoff.symm.trans hon
      · exact absurd hstarted hstate
  | connectCamera | startPreview | stopPreview | setParameters => trivial

/-- A preview that is off stays so, and one that is on is stopped or keeps its device. -/
theorem stopPreview_consistent {v : View} (h : v.Consistent) :
    Outcomes doStopPreview (fun _ v' => v'.Consistent) v := by
  refine doStopPreview_outcomes (fun _ => h) (fun _ _ => v.stopped_consistent)
    (fun _ _ => View.stopped_consistent _) fun _ hstarted res hres _ => ?_
  unfold View.isStarted
  rw [View.query_failed hres]
  exact hstarted

theorem connectDevice_consistent {v : View} (h : v.Consistent) :
    Outcomes (exec .connectDevice) (fun _ v' => v'.Consistent) v := by
  refine exec_outcomes ?_
  rintro res v' (⟨hstate, rfl⟩ | ⟨-, rfl⟩)
  · refine View.consistent_of_off (Bool.eq_false_iff.mpr fun hon => ?_)
    -- the device was not connected, so there was no preview
    have hstarted := h hon
    unfold View.isStarted at hstarted
    rw [hstate] at hstarted
    cases hstarted
  · exact h

/-- A picture that leaves the device as far from started as it was. -/
theorem exact_of_not_started {mState : ECDState} {status : status_t} {v : View}
    (hoff : v.preview = false) (hstopped : v.isStarted = false)
    (hthread : threadRefused v.asked = false) : Exact .takePicture false mState status v :=
  iff_of_true ⟨View.consistent_of_off hoff, nofun, fun _ _ _ _ => hstopped⟩ fun _ _ => hthread

/-- A picture from a device that has not been started, with no preview: what it leaves
depends on the thread alone. -/
theorem startPicture_exact {params : CameraParameters} {org_fmt : BitVec 32} {v : View}
    (hoff : v.preview = false) (hstopped : v.isStarted = false) (hasked : v.asked = []) :
    Outcomes (startPicture false params org_fmt) (Exact .takePicture false v.mState) v := by
  refine bind_outcomes (exec_outcomes fun res v' hstart => dite_outcomes (fun hres => ?_) fun hok => ?_)
  · -- the device is as it was
    refine bind_outcomes (ite_outcomes nofun fun _ => ?_)
    rcases hstart with ⟨-, rfl⟩ | ⟨-, hok, -⟩ | ⟨-, rfl⟩
    · have hstill : (v.query .queryStart res .ECDS_STARTED).isStarted = false := by
        unfold View.isStarted
        rw [View.query_failed hres]
        exact hstopped
      refine exact_of_not_started hoff hstill ?_
      unfold View.query
      rw [hasked]
      rfl
    · exact absurd hok hres
    · exact exact_of_not_started hoff hstopped (by rw [hasked]; rfl)
  · have hres := not_not.mp hok
    obtain rfl : v' = v.query .queryStart NO_ERROR .ECDS_STARTED := by
      rcases hstart with ⟨-, rfl⟩ | ⟨hstarted, -⟩ | ⟨hfail, -⟩
      · rw [hres]
      · cases hstopped.symm.trans hstarted
      · exact absurd hres hfail
    refine bind_outcomes (silent_outcomes rfl fun _ => ?_)
    refine bind_outcomes (silent_outcomes rfl fun _ => ?_)
    refine bind_outcomes (startDeliveringFrames_outcomes rfl fun res =>
      dite_outcomes (fun hthread => ?_) fun hthread => ?_)
    · -- the picture fails, and nothing stops the device
      refine bind_outcomes (silent_outcomes rfl fun _ => ?_)
      refine bind_outcomes (ite_outcomes nofun fun _ => ?_)
      have hstate : v.mState ≠ .ECDS_STARTED := fun h => by
        unfold View.isStarted at hstopped
        rw [h] at hstopped
        cases hstopped
      refine iff_of_false (fun hreturn => ?_) fun hanswers => ?_
      · cases hreturn.2.2 rfl hthread rfl hstate
      · have hrefused := hanswers rfl hstate
        unfold View.run View.query at hrefused
        rw [hasked] at hrefused
        exact hthread (by simpa [threadRefused] using hrefused)
    · refine iff_of_true ⟨View.consistent_of_off hoff, nofun, fun _ hfail => ?_⟩ fun _ _ => ?_
      · exact absurd hfail hthread
      · unfold View.run View.query
        rw [hasked, not_not.mp hthread]
        rfl

theorem takePicture_consistent {params : CameraParameters} {v : View} (h : v.Consistent) :
    Outcomes (takePicture params) (fun _ v' => v'.Consistent) v := by
  unfold takePicture
  split
  · exact bind_outcomes (exec_outcomes nofun)
  · split
    · exact h
    · refine bind_outcomes (exec_outcomes ?_)
      rintro preview_on v' ⟨rfl, rfl⟩
      cases hon : v'.preview with
      | true =>
          -- whatever the stops do, the preview is restored after a failure
          refine bind_outcomes (outcomes_of_forall fun _ _ => ?_)
          exact bind_outcomes (outcomes_of_forall fun _ _ => startPicture_consistent nofun)
      | false =>
          refine bind_outcomes (ite_outcomes nofun fun _ => ?_)
          exact bind_outcomes (stopIfStarted_outcomes
            (fun _ => startPicture_consistent fun _ => hon)
            fun _ _ => startPicture_consistent fun _ => hon)

theorem takePicture_outcomes {params : CameraParameters} {v : View} (h : v.Consistent)
    (hasked : v.asked = []) :
    Outcomes (takePicture params) (Exact .takePicture v.preview v.mState) v := by
  by_cases hfresh : v.preview = false ∧ v.isStarted = false
  · obtain ⟨hoff, hstopped⟩ := hfresh
    unfold takePicture
    rw [hoff]
    split
    · exact bind_outcomes (exec_outcomes nofun)
    · split
      · exact exact_of_not_started hoff hstopped (by rw [hasked]; rfl)
      · refine bind_outcomes (exec_outcomes ?_)
        rintro preview_on v' ⟨rfl, rfl⟩
        rw [hoff]
        refine bind_outcomes (ite_outcomes nofun fun _ => ?_)
        refine bind_outcomes (stopIfStarted_outcomes (fun _ => ?_) fun hstarted => ?_)
        · exact startPicture_exact hoff hstopped hasked
        · cases hstopped.symm.trans hstarted
  · refine wp_mono (fun status v' hv' => ?_) (takePicture_consistent h)
    refine exact_of_consistent hv' rfl fun _ => ?_
    cases hon : v.preview with
    | true => exact Or.inl rfl
    | false =>
        refine Or.inr ?_
        by_contra hstate
        exact hfresh ⟨hon, beq_eq_false_iff_ne.mpr hstate⟩

theorem answersOk_of_cleansUp {call : CameraCall} (hcall : call.cleansUp = true) (preview : Bool)
    (mState : ECDState) (asked : List (Query × status_t)) :
    AnswersOk preview mState asked call ↔ (preview = true → secondStop asked = false) := by
  cases call with
  | releaseCamera | closeCamera => exact Iff.rfl
  | connectCamera | startPreview | stopPreview | takePicture | setParameters => cases hcall

theorem exact_of_cleaned {call : CameraCall} {preview : Bool} {mState : ECDState}
    {status : status_t} {v : View} (hcall : call.cleansUp = true) (h : v.Consistent)
    (hclean : status = NO_ERROR → v.preview = false ∧ v.isConnected = false)
    (hsecond : preview = true → secondStop v.asked = false) :
    Exact call preview mState status v := by
  refine iff_of_true ⟨h, fun _ => hclean, ?_⟩ ((answersOk_of_cleansUp hcall _ _ _).mpr hsecond)
  rintro rfl
  cases hcall

/-- Disconnecting once the preview is off. -/
theorem disconnectCamera_off {call : CameraCall} {preview : Bool} {mState : ECDState} {v : View}
    (hcall : call.cleansUp = true) (hstopped : v.isStarted = false) (hoff : v.preview = false)
    (hasked : preview = true → v.asked = [(.queryStop, NO_ERROR)]) :
    Outcomes disconnectCamera (Exact call preview mState) v := by
  refine disconnectCamera_outcomes hstopped fun status v' hkept _ hconnected hqueries => ?_
  have hoff' := hkept.trans hoff
  refine exact_of_cleaned hcall (View.consistent_of_off hoff')
    (fun hstatus => ⟨hoff', hconnected hstatus⟩) fun hon => ?_
  rcases hqueries with hqueries | ⟨res, hqueries⟩
  · rw [hqueries, hasked hon]
    rfl
  · rw [hqueries, hasked hon]
    rfl

/-- Disconnecting after the second stop of a preview whose first stop has failed: nobody
turns the preview off any more. -/
theorem disconnectCamera_on {call : CameraCall} {mState : ECDState} {v : View} {first : status_t}
    (hcall : call.cleansUp = true) (hstopped : v.isStarted = false) (hon : v.preview = true)
    (hfirst : first ≠ NO_ERROR)
    (hasked : v.asked = [(.queryStop, first), (.queryStop, NO_ERROR)]) :
    Outcomes disconnectCamera (Exact call true mState) v := by
  refine disconnectCamera_outcomes hstopped fun status v' hkept hstopped' _ hqueries => ?_
  refine iff_of_false (fun hreturn => ?_) fun hanswers => ?_
  · cases hstopped'.symm.trans (hreturn.1 (hkept.trans hon))
  · have hsecond := (answersOk_of_cleansUp hcall _ _ _).mp hanswers rfl
    rcases hqueries with hqueries | ⟨res, hqueries⟩ <;>
      · rw [hqueries, hasked] at hsecond
        exact hfirst (by simpa [secondStop] using hsecond)

theorem cleanupCamera_outcomes {call : CameraCall} {v : View} (h : v.Consistent)
    (hasked : v.asked = []) (hcall : call.cleansUp = true) :
    Outcomes cleanupCamera (Exact call v.preview v.mState) v := by
  refine bind_outcomes (doStopPreview_outcomes (fun hoff => ?_) (fun hon hstopped => ?_)
    (fun hon hstarted => ?_) fun hon hstarted first hfirst => ?_)
  · -- no preview: the device may be started for a picture
    rw [hoff]
    refine dite_outcomes (fun hres => absurd rfl hres) fun _ => ?_
    refine bind_outcomes (isStarted_outcomes (ite_outcomes (fun hstarted => ?_) fun hstopped => ?_))
    · refine bind_outcomes (stopDeliveringFrames_silent _ _ fun _ => ?_)
      refine bind_outcomes (stopDevice_outcomes hstarted fun res =>
        dite_outcomes (fun hres => ?_) fun hok => ?_)
      · exact exact_of_cleaned hcall (View.consistent_of_off hoff)
          (fun hstatus => absurd (neg_eq_zero.mp hstatus) hres) nofun
      · cases not_not.mp hok
        exact disconnectCamera_off hcall rfl hoff nofun
    · exact disconnectCamera_off hcall hstopped hoff nofun
  · cases hstopped.symm.trans (h hon)
  · -- the preview has been stopped together with the device
    refine dite_outcomes (fun hres => absurd rfl hres) fun _ => ?_
    refine bind_outcomes (isStarted_outcomes (ite_outcomes nofun fun hstopped => ?_))
    refine disconnectCamera_off hcall hstopped rfl fun _ => ?_
    unfold View.stopped View.query
    rw [hasked]
    rfl
  · -- the preview and the device have stayed on, and the device is stopped once more
    rw [hon]
    have hstill : (v.query .queryStop first .ECDS_CONNECTED).isStarted = true := by
      unfold View.isStarted
      rw [View.query_failed hfirst]
      exact hstarted
    refine dite_outcomes (fun hres => absurd rfl hres) fun _ => ?_
    refine bind_outcomes (isStarted_outcomes (ite_outcomes (fun _ => ?_) fun hstopped => ?_))
    · refine bind_outcomes (stopDeliveringFrames_silent _ _ fun _ => ?_)
      refine bind_outcomes (stopDevice_outcomes hstill fun res =>
        dite_outcomes (fun hres => ?_) fun hok => ?_)
      · refine exact_of_cleaned hcall (fun _ => ?_)
          (fun hstatus => absurd (neg_eq_zero.mp hstatus) hres) fun _ => ?_
        · unfold View.isStarted
          rw [View.query_failed hres]
          exact hstill
        · unfold View.query
          rw [hasked]
          simp [secondStop, hres]
      · cases not_not.mp hok
        refine disconnectCamera_on hcall rfl hon hfirst ?_
        unfold View.query
        rw [hasked]
        rfl
    · cases hstopped.symm.trans hstill

/-- What a call leaves is fine exactly when the answers to it are. -/
theorem program_outcomes (params : CameraParameters) (call : CameraCall) {v : View}
    (h : v.Consistent) (hasked : v.asked = []) :
    Outcomes (call.program params) (Exact call v.preview v.mState) v := by
  cases call with
  | connectCamera =>
      exact bind_outcomes (wp_mono (fun res v' hv' => exact_of_consistent hv' rfl nofun)
        (connectDevice_consistent h))
  | startPreview dims =>
      refine bind_outcomes (silent_outcomes rfl fun _ => ?_)
      exact bind_outcomes (doStartPreview_outcomes fun res v' hv' =>
        exact_of_consistent hv' rfl nofun)
  | stopPreview =>
      exact wp_mono (fun res v' hv' => exact_of_consistent hv' rfl nofun)
        (stopPreview_consistent h)
  | takePicture => exact takePicture_outcomes h hasked
  | setParameters params =>
      exact bind_outcomes (silent_outcomes rfl fun _ => exact_of_consistent h rfl nofun)
  | releaseCamera => exact cleanupCamera_outcomes h hasked rfl
  | closeCamera => exact cleanupCamera_outcomes h hasked rfl

/-! ## Runs -/

/-- A call that returns leaves the camera as it may. -/
def CameraSystem.BoundaryOk (s : CameraSystem) : CameraStep → Prop
  | .returns =>
      match s.api with
      | some ⟨call, preview, mState, .ret status⟩ =>
          ReturnOk call preview mState status s.shared.view
      | _ => True
  | _ => True

/-- A call that returns has had the answers it needs. -/
def CameraSystem.AnswersOk (s : CameraSystem) : CameraStep → Prop
  | .returns =>
      match s.api with
      | some ⟨call, preview, mState, .ret _⟩ => Camera.AnswersOk preview mState s.shared.asked call
      | _ => True
  | _ => True

/-- Between the calls a preview has its device; in a call, the rest of it ends well
exactly when the answers are fine. -/
def CameraSystem.Settled (s : CameraSystem) : Prop :=
  match s.api with
  | none => s.shared.view.Consistent
  | some c => Outcomes c.program (Exact c.call c.preview c.mState) s.shared.view

theorem boundaryOk_iff {s : CameraSystem} (h : s.Settled) (a : CameraStep) :
    s.BoundaryOk a ↔ s.AnswersOk a := by
  cases a with
  | call | act | worker => exact Iff.rfl
  | returns =>
      match s, h with
      | ⟨_, none⟩, _ => exact Iff.rfl
      | ⟨_, some ⟨_, _, _, .act _ _⟩⟩, _ => exact Iff.rfl
      | ⟨_, some ⟨_, _, _, .ret _⟩⟩, h => exact h

/-- A step that meets the condition keeps the invariant. -/
theorem settled_step {s s' : CameraSystem} {a : CameraStep} (h : s.Settled)
    (hanswers : s.AnswersOk a) (hstep : s.run a = some s') : s'.Settled := by
  obtain ⟨shared, api⟩ := s
  cases a with
  | call call =>
      cases api with
      | some c => cases hstep
      | none =>
          cases hstep
          have hfresh : (⟨shared.mPreviewEnabled, shared.device.mState, []⟩ : View).Consistent := h
          exact program_outcomes shared.mParameters call hfresh rfl
  | act answer =>
      match api with
      | none => cases hstep
      | some ⟨call, preview, mState, .ret _⟩ => cases hstep
      | some ⟨call, preview, mState, .act x k⟩ =>
          obtain ⟨⟨r, next⟩, hact, rfl⟩ := Option.map_eq_some_iff.mp hstep
          -- the rest of the program, on what the action is for the abstract machine
          exact (h r next.view (view_perform hact)).2
  | returns =>
      match api with
      | none => cases hstep
      | some ⟨call, preview, mState, .act x k⟩ => cases hstep
      | some ⟨call, preview, mState, .ret status⟩ =>
          cases hstep
          have hexact : Exact call preview mState status shared.view := h
          exact (hexact.mpr hanswers).1
  | worker w =>
      obtain ⟨next, hworker, rfl⟩ := Option.map_eq_some_iff.mp hstep
      obtain ⟨thread, -, rfl⟩ := Option.map_eq_some_iff.mp hworker
      -- the abstract machine does not see the worker
      exact h

/-- Over every run, whatever fails: all calls leave the camera as they may exactly when no
clean-up succeeds with its second stop query only, and no picture starts its device and
then not its thread. -/
theorem boundaries_iff (params : CameraParameters) {trace : List (CameraStep × CameraSystem)}
    (hrun : Run (fun s a s' => s.run a = some s') (.initialized params) trace) :
    EachStep (fun s a _ => s.BoundaryOk a) (.initialized params) trace ↔
      EachStep (fun s a _ => s.AnswersOk a) (.initialized params) trace :=
  hrun.eachStep_iff_eachStep (fun _ _ _ h hcond hstep => settled_step h hcond hstep)
    (fun _ a _ h _ => boundaryOk_iff h a) (fun h => by cases h)

instance (preview : Bool) (mState : ECDState) (asked : List (Query × status_t))
    (call : CameraCall) : Decidable (Camera.AnswersOk preview mState asked call) :=
  match call with
  | .releaseCamera | .closeCamera =>
      inferInstanceAs (Decidable (preview = true → secondStop asked = false))
  | .takePicture => inferInstanceAs
      (Decidable (preview = false → mState ≠ .ECDS_STARTED → threadRefused asked = false))
  | .connectCamera | .startPreview _ | .stopPreview | .setParameters _ => isTrue trivial

instance (call : CameraCall) (preview : Bool) (mState : ECDState) (status : status_t) (v : View) :
    Decidable (ReturnOk call preview mState status v) :=
  inferInstanceAs (Decidable ((v.preview = true → v.isStarted = true) ∧
    (call.cleansUp = true → status = NO_ERROR → v.preview = false ∧ v.isConnected = false) ∧
    (call = .takePicture → status ≠ NO_ERROR → preview = false → mState ≠ .ECDS_STARTED →
      v.isStarted = false)))

instance (s : CameraSystem) (a : CameraStep) : Decidable (s.BoundaryOk a) :=
  match a, s with
  | .returns, ⟨shared, some ⟨call, preview, mState, .ret status⟩⟩ =>
      inferInstanceAs (Decidable (ReturnOk call preview mState status shared.view))
  | .returns, ⟨_, some ⟨_, _, _, .act _ _⟩⟩ | .returns, ⟨_, none⟩ => isTrue trivial
  | .call _, _ | .act _, _ | .worker _, _ => isTrue trivial

instance (s : CameraSystem) (a : CameraStep) : Decidable (s.AnswersOk a) :=
  match a, s with
  | .returns, ⟨shared, some ⟨call, preview, mState, .ret _⟩⟩ =>
      inferInstanceAs (Decidable (Camera.AnswersOk preview mState shared.asked call))
  | .returns, ⟨_, some ⟨_, _, _, .act _ _⟩⟩ | .returns, ⟨_, none⟩ => isTrue trivial
  | .call _, _ | .act _, _ | .worker _, _ => isTrue trivial

/-- The preview is started and the camera closed; the first stop query is answered with
`first`. -/
def closeCameraRun (first : status_t) : List CameraStep :=
  previewStarted ++ [.worker (.readyToRun NO_ERROR), .worker .enter, .call .closeCamera] ++
    succeeding 7 ++ [.worker (.select false), .worker .exit] ++ succeeding 2 ++
    [.act ⟨first, true⟩]

theorem boundaries_iff_close :
    let trace := partialTraceOf CameraSystem.run (.initialized nv21Parameters)
      (closeCameraRun NO_ERROR ++ succeeding 5 ++ [.returns])
    (trace.getLast?.map fun entry => (entry.1, entry.2.shared.device.mState)) =
        some (.returns, .ECDS_INITIALIZED) ∧
      EachStep (fun s a _ => s.BoundaryOk a) (.initialized nv21Parameters) trace :=
  ⟨by decide, (boundaries_iff nv21Parameters (run_partialTraceOf _ _ _)).mpr (by decide)⟩

/-- The first stop query fails and the second one does not: the camera is closed without
an error, and its preview is still on. -/
theorem close_keeps_preview :
    ¬∀ (params : CameraParameters) (trace : List (CameraStep × CameraSystem)),
      Run (fun s a s' => s.run a = some s') (.initialized params) trace →
        EachStep (fun s a _ => s.BoundaryOk a) (.initialized params) trace := by
  intro h
  have hok := h nv21Parameters _ (run_partialTraceOf CameraSystem.run
    (.initialized nv21Parameters) (closeCameraRun (-1) ++ succeeding 8 ++ [.returns]))
  revert hok
  decide

/-- The other way out: a stop that came before `readyToRun` has missed the thread, and the
picture cannot start it a second time.  The picture fails, and its device stays started. -/
example : (partialTraceOf CameraSystem.run (.initialized nv21Parameters)
    (previewStarted ++ [.call .stopPreview] ++ succeeding 7 ++ [.returns, .call .takePicture] ++
      succeeding 10)).getLast?.map (fun entry => entry.2.shared.view) =
    some ⟨false, .ECDS_STARTED, [(.queryStart, NO_ERROR), (.run, INVALID_OPERATION)]⟩ := by
  decide

end Camera
end DeviceAndroVM
