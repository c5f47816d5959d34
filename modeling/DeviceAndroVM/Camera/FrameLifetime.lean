import DeviceAndroVM.Camera.ConversionTouches
import DeviceAndroVM.Library.Transition

/-!
# The lifetime of the frame buffer

`commonStartDevice` allocates the frame before the host is asked to start, and `commonStopDevice`
frees it when the host has stopped.  A run of calls is watched together with the heap.

* `DeviceFrames` — a device and the frames that are allocated and not yet freed.
* `Clean` — nothing is left over of an earlier start.
* `abandonsFrame` — the start fails after it has set up the device.
* `clean_call`, `not_framesKept` — what one call does to a clean device.
* `eachStep_framesKept_iff` — in which runs the pointer, the state and the heap agree.
-/

namespace DeviceAndroVM
namespace Camera

open Library

namespace EmulatedCameraDevice

/-- What `new` answers in a call, where it is called. -/
def allocates (dev : EmulatedCameraDevice) : DeviceCall → Option Nat
  | .startDevice frame width height pix_fmt answer =>
      if dev.setsUp (.startDevice frame width height pix_fmt answer) && isYuv pix_fmt then frame
      else none
  | _ => none

/-- What `commonStopDevice` gives to `delete[]` in a call, where it is called. -/
def deletes (dev : EmulatedCameraDevice) : DeviceCall → Option Nat
  | .stopDevice answer =>
      if dev.isStarted && answer == NO_ERROR then dev.mCurrentFrame else none
  | _ => none

/-- What `startDevice` answers. -/
def startStatus (dev : EmulatedCameraDevice) : DeviceCall → Option status_t
  | .startDevice frame width height pix_fmt answer =>
      some (dev.startDevice frame width height pix_fmt answer).1
  | _ => none

/-- The start fails after the device has been set up: there is no memory for the frame, or the host
does not start. -/
def abandonsFrame (dev : EmulatedCameraDevice) : DeviceCall → Bool
  | .startDevice frame width height pix_fmt answer =>
      dev.setsUp (.startDevice frame width height pix_fmt answer) && isYuv pix_fmt &&
        (frame == none || answer != NO_ERROR)
  | _ => false

theorem setsUp_iff {dev : EmulatedCameraDevice} {frame : Option Nat} {width height : Int}
    {pix_fmt : BitVec 32} {answer : status_t} :
    dev.setsUp (.startDevice frame width height pix_fmt answer) = true ↔
      dev.mState = .ECDS_CONNECTED := by
  unfold setsUp isConnected isStarted
  cases dev.mState <;> simp

/-- A start that gets to `commonStartDevice` with a format of the frame buffer. -/
theorem startDevice_setUp {dev : EmulatedCameraDevice} (hstate : dev.mState = .ECDS_CONNECTED)
    {pix_fmt : BitVec 32} (hformat : isYuv pix_fmt = true) (frame : Option Nat)
    (width height : Int) (answer : status_t) :
    dev.startDevice frame width height pix_fmt answer =
      if frame = none then (ENOMEM, (dev.commonStartDevice frame width height pix_fmt).2, [])
      else
        (answer,
          { (dev.commonStartDevice frame width height pix_fmt).2 with
            mState := if answer = NO_ERROR then .ECDS_STARTED else dev.mState },
          [(.queryStart, answer)]) := by
  have hconnected : dev.isConnected = true := by rw [isConnected, hstate]; rfl
  have hstarted : dev.isStarted = false := by rw [isStarted, hstate]; rfl
  unfold startDevice commonStartDevice
  rw [hconnected, hstarted, if_pos hformat]
  cases frame with
  | none => rfl
  | some f => by_cases hanswer : answer = NO_ERROR <;> simp [hanswer]

/-- Every other start leaves the device alone. -/
theorem startDevice_refused {dev : EmulatedCameraDevice} {pix_fmt : BitVec 32}
    (h : ¬(dev.mState = .ECDS_CONNECTED ∧ isYuv pix_fmt = true)) (frame : Option Nat)
    (width height : Int) (answer : status_t) :
    (dev.startDevice frame width height pix_fmt answer).2.1 = dev := by
  unfold startDevice
  split
  · rfl
  · rename_i hconnected
    split
    · rfl
    · rename_i hstarted
      have hstate : dev.mState = .ECDS_CONNECTED := by
        unfold isConnected at hconnected
        unfold isStarted at hstarted
        simp_all
      have hformat : ¬isYuv pix_fmt = true := fun hyuv => h ⟨hstate, hyuv⟩
      rw [commonStartDevice, if_neg hformat]
      rfl

end EmulatedCameraDevice

/-- A device, and the frames that are allocated and not yet freed. -/
@[ext]
structure DeviceFrames where
  dev : EmulatedCameraDevice
  live : List Nat
  deriving DecidableEq

namespace DeviceFrames

open EmulatedCameraDevice

def initialized : DeviceFrames := ⟨.initialized, []⟩

def call (s : DeviceFrames) (c : DeviceCall) : DeviceFrames where
  dev := s.dev.call c
  live :=
    let live := (s.dev.allocates c).toList ++ s.live
    match s.dev.deletes c with
    | some frame => live.erase frame
    | none => live

theorem live_startDevice (s : DeviceFrames) (frame : Option Nat) (width height : Int)
    (pix_fmt : BitVec 32) (answer : status_t) :
    (s.call (.startDevice frame width height pix_fmt answer)).live =
      (if s.dev.setsUp (.startDevice frame width height pix_fmt answer) && isYuv pix_fmt then frame
        else none).toList ++ s.live := rfl

theorem live_stopDevice (s : DeviceFrames) (answer : status_t) :
    (s.call (.stopDevice answer)).live =
      match (if s.dev.isStarted && answer == NO_ERROR then s.dev.mCurrentFrame else none) with
      | some frame => s.live.erase frame
      | none => s.live := rfl

/-- The members that tell of a frame are those of before. -/
structure SameFrame (dev dev' : EmulatedCameraDevice) : Prop where
  mCurrentFrame : dev'.mCurrentFrame = dev.mCurrentFrame
  mFrameWidth : dev'.mFrameWidth = dev.mFrameWidth
  mFrameHeight : dev'.mFrameHeight = dev.mFrameHeight
  mPixelFormat : dev'.mPixelFormat = dev.mPixelFormat
  mState : dev'.mState = dev.mState

/-- What every call is to keep: there is a frame exactly when the device is started, a start that
fails changes nothing, and the frames that are not freed are the current one. -/
structure FramesKept (s : DeviceFrames) (c : DeviceCall) (s' : DeviceFrames) : Prop where
  started : s'.dev.mCurrentFrame ≠ none ↔ s'.dev.mState = .ECDS_STARTED
  failed : ∀ res, s.dev.startStatus c = some res → res ≠ NO_ERROR → SameFrame s.dev s'.dev
  owned : s'.live = s'.dev.mCurrentFrame.toList

/-- Nothing is left over of an earlier start. -/
structure Clean (s : DeviceFrames) : Prop where
  started : s.dev.mCurrentFrame ≠ none ↔ s.dev.mState = .ECDS_STARTED
  cleared : s.dev.mCurrentFrame = none → s.dev.mPixelFormat = 0#32
  live : s.live = s.dev.mCurrentFrame.toList

theorem clean_initialized : initialized.Clean := ⟨by decide, fun _ => rfl, rfl⟩

/-- In a clean state only a started device has a frame, or a format. -/
theorem Clean.of_not_started {s : DeviceFrames} (h : s.Clean)
    (hstate : s.dev.mState ≠ .ECDS_STARTED) :
    s.dev.mCurrentFrame = none ∧ s.dev.mPixelFormat = 0#32 ∧ s.live = [] := by
  have hnone : s.dev.mCurrentFrame = none := by
    by_contra hsome
    exact hstate (h.started.mp hsome)
  refine ⟨hnone, h.cleared hnone, ?_⟩
  rw [h.live, hnone]
  rfl

/-- A device that is not started goes to another such state. -/
theorem Clean.with_mState {s : DeviceFrames} (h : s.Clean) {state : ECDState}
    (hbefore : s.dev.mState ≠ .ECDS_STARTED) (hafter : state ≠ .ECDS_STARTED) :
    Clean ⟨{ s.dev with mState := state }, s.live⟩ := by
  obtain ⟨hnone, hformat, hlive⟩ := h.of_not_started hbefore
  refine ⟨?_, fun _ => hformat, h.live⟩
  simp [hnone, hafter]

/-! ## One call -/

theorem clean_connectDevice {s : DeviceFrames} (h : s.Clean) (answer : status_t) :
    (s.call (.connectDevice answer)).Clean := by
  have hcall : s.call (.connectDevice answer) = ⟨(s.dev.connectDevice answer).2.1, s.live⟩ := rfl
  rw [hcall]
  rcases connectDevice_cases s.dev answer with ⟨hstate, heq⟩ | ⟨-, res, heq⟩ <;> rw [heq]
  · dsimp only
    split
    · exact h.with_mState (by simp [hstate]) nofun
    · exact h
  · exact h

theorem clean_disconnectDevice {s : DeviceFrames} (h : s.Clean) (answer : status_t) :
    (s.call (.disconnectDevice answer)).Clean := by
  have hcall : s.call (.disconnectDevice answer) =
      ⟨(s.dev.disconnectDevice answer).2.1, s.live⟩ := rfl
  rw [hcall]
  rcases disconnectDevice_cases s.dev answer with ⟨hstate, heq⟩ | ⟨-, res, heq⟩ <;> rw [heq]
  · dsimp only
    split
    · exact h.with_mState (by simp [hstate]) nofun
    · exact h
  · exact h

/-- A host that stops has the only frame freed. -/
theorem clean_stopDevice {s : DeviceFrames} (h : s.Clean) (answer : status_t) :
    (s.call (.stopDevice answer)).Clean := by
  rcases stopDevice_cases s.dev answer with ⟨hstarted, heq⟩ | ⟨hstarted, heq⟩
  · by_cases hanswer : answer = NO_ERROR
    · have hlive : (s.call (.stopDevice answer)).live = [] := by
        rw [live_stopDevice, hstarted, hanswer, h.live]
        cases s.dev.mCurrentFrame <;> simp
      have hdev : (s.call (.stopDevice answer)).dev =
          { s.dev.commonStopDevice with mState := .ECDS_CONNECTED } := by
        rw [call, EmulatedCameraDevice.call, heq, if_pos hanswer]
      exact ⟨by simp [hdev, commonStopDevice], fun _ => by rw [hdev]; rfl,
        by rw [hlive, hdev]; rfl⟩
    · have hdev : (s.call (.stopDevice answer)).dev = s.dev := by
        rw [call, EmulatedCameraDevice.call, heq, if_neg hanswer]
      have hlive : (s.call (.stopDevice answer)).live = s.live := by
        rw [live_stopDevice]
        simp [hanswer]
      exact ⟨hdev ▸ h.started, hdev ▸ h.cleared, by rw [hlive, hdev, h.live]⟩
  · have hdev : (s.call (.stopDevice answer)).dev = s.dev := by
      rw [call, EmulatedCameraDevice.call, heq]
    have hlive : (s.call (.stopDevice answer)).live = s.live := by
      rw [live_stopDevice]
      simp [hstarted]
    exact ⟨hdev ▸ h.started, hdev ▸ h.cleared, by rw [hlive, hdev, h.live]⟩

/-- Where a start that sets the device up leads to. -/
theorem call_startDevice_setUp {s : DeviceFrames} (hstate : s.dev.mState = .ECDS_CONNECTED)
    {pix_fmt : BitVec 32} (hformat : isYuv pix_fmt = true) (frame : Option Nat)
    (width height : Int) (answer : status_t) :
    s.call (.startDevice frame width height pix_fmt answer) =
      { dev :=
          { (s.dev.commonStartDevice frame width height pix_fmt).2 with
            mState := if frame ≠ none ∧ answer = NO_ERROR then .ECDS_STARTED else .ECDS_CONNECTED }
        live := frame.toList ++ s.live } := by
  have hlive := live_startDevice s frame width height pix_fmt answer
  rw [setsUp_iff.mpr hstate, hformat, Bool.and_self, if_pos rfl] at hlive
  rw [← hlive, call, EmulatedCameraDevice.call, startDevice_setUp hstate hformat]
  cases frame <;> simp [commonStartDevice, hformat, hstate]

/-- Every other start leaves everything alone. -/
theorem call_startDevice_refused {s : DeviceFrames} {pix_fmt : BitVec 32}
    (h : ¬(s.dev.mState = .ECDS_CONNECTED ∧ isYuv pix_fmt = true)) (frame : Option Nat)
    (width height : Int) (answer : status_t) :
    s.call (.startDevice frame width height pix_fmt answer) = s := by
  have hnew : (s.dev.setsUp (.startDevice frame width height pix_fmt answer) && isYuv pix_fmt) =
      false := by
    rw [Bool.eq_false_iff, ne_eq, Bool.and_eq_true, setsUp_iff]
    exact h
  have hlive := live_startDevice s frame width height pix_fmt answer
  rw [hnew] at hlive
  exact DeviceFrames.ext (startDevice_refused h frame width height answer) hlive

theorem abandonsFrame_iff {dev : EmulatedCameraDevice} {frame : Option Nat} {width height : Int}
    {pix_fmt : BitVec 32} {answer : status_t} :
    dev.abandonsFrame (.startDevice frame width height pix_fmt answer) = true ↔
      (dev.mState = .ECDS_CONNECTED ∧ isYuv pix_fmt = true) ∧
        (frame = none ∨ answer ≠ NO_ERROR) := by
  rw [abandonsFrame, Bool.and_eq_true, Bool.and_eq_true, setsUp_iff, Bool.or_eq_true, beq_iff_eq,
    bne_iff_ne]

/-- A start that does not fail after setting up the device gives it its frame, or changes
nothing. -/
theorem call_startDevice_cases {s : DeviceFrames} {frame : Option Nat} {width height : Int}
    {pix_fmt : BitVec 32} {answer : status_t}
    (hc : s.dev.abandonsFrame (.startDevice frame width height pix_fmt answer) = false) :
    s.call (.startDevice frame width height pix_fmt answer) = s ∨
      (s.dev.mState = .ECDS_CONNECTED ∧
        s.dev.startStatus (.startDevice frame width height pix_fmt answer) = some NO_ERROR ∧
          ∃ f, (s.call (.startDevice frame width height pix_fmt answer)).dev.mCurrentFrame =
              some f ∧
            (s.call (.startDevice frame width height pix_fmt answer)).dev.mState =
              .ECDS_STARTED ∧
              (s.call (.startDevice frame width height pix_fmt answer)).live = f :: s.live) := by
  by_cases hsetUp : s.dev.mState = .ECDS_CONNECTED ∧ isYuv pix_fmt = true
  · obtain ⟨hstate, hformat⟩ := hsetUp
    have hgood : ¬(frame = none ∨ answer ≠ NO_ERROR) := by
      intro hbad
      rw [abandonsFrame_iff.mpr ⟨⟨hstate, hformat⟩, hbad⟩] at hc
      cases hc
    obtain ⟨hframe, hanswer⟩ := not_or.mp hgood
    obtain ⟨f, rfl⟩ := Option.ne_none_iff_exists'.mp hframe
    have hzero : answer = NO_ERROR := Decidable.not_not.mp hanswer
    refine Or.inr ⟨hstate, ?_, f, ?_⟩
    · rw [startStatus, startDevice_setUp hstate hformat, if_neg hframe, hzero]
    · rw [call_startDevice_setUp hstate hformat, if_pos ⟨hframe, hzero⟩, commonStartDevice,
        if_pos hformat]
      exact ⟨rfl, rfl, rfl⟩
  · exact Or.inl (call_startDevice_refused hsetUp frame width height answer)

/-- A call of a clean device is clean again, unless it is a start that fails after it has set up the
device. -/
theorem clean_call {s : DeviceFrames} (h : s.Clean) {c : DeviceCall}
    (hc : s.dev.abandonsFrame c = false) : (s.call c).Clean := by
  cases c with
  | connectDevice answer => exact clean_connectDevice h answer
  | disconnectDevice answer => exact clean_disconnectDevice h answer
  | stopDevice answer => exact clean_stopDevice h answer
  | startDevice frame width height pix_fmt answer =>
      rcases call_startDevice_cases hc with hsame | ⟨hstate, -, f, hframe, hstarted, hlive⟩
      · rw [hsame]
        exact h
      · have hempty : s.live = [] := (h.of_not_started (by simp [hstate])).2.2
        refine ⟨by simp [hframe, hstarted], ?_, by rw [hlive, hframe, hempty]; rfl⟩
        intro hnone
        rw [hframe] at hnone
        cases hnone

theorem framesKept_of_clean {s : DeviceFrames} (h : s.Clean) {c : DeviceCall}
    (hc : s.dev.abandonsFrame c = false) : FramesKept s c (s.call c) := by
  have hnext := clean_call h hc
  refine ⟨hnext.started, ?_, hnext.live⟩
  intro res hstatus hres
  cases c with
  | connectDevice answer => cases hstatus
  | disconnectDevice answer => cases hstatus
  | stopDevice answer => cases hstatus
  | startDevice frame width height pix_fmt answer =>
      rcases call_startDevice_cases hc with hsame | ⟨-, hzero, -⟩
      · rw [hsame]
        exact ⟨rfl, rfl, rfl, rfl, rfl⟩
      · rw [hzero] at hstatus
        exact absurd (Option.some.inj hstatus).symm hres

/-- A start that fails after it has set up the device leaves a frame behind, or a format. -/
theorem not_framesKept {s : DeviceFrames} (h : s.Clean) {c : DeviceCall}
    (hc : s.dev.abandonsFrame c = true) : ¬FramesKept s c (s.call c) := by
  cases c with
  | connectDevice answer => cases hc
  | disconnectDevice answer => cases hc
  | stopDevice answer => cases hc
  | startDevice frame width height pix_fmt answer =>
      obtain ⟨⟨hstate, hformat⟩, hfails⟩ := abandonsFrame_iff.mp hc
      have hcall := call_startDevice_setUp hstate hformat frame width height answer
      rw [commonStartDevice, if_pos hformat] at hcall
      intro hkept
      cases frame with
      | none =>
          -- the format that the device had is zero
          have hstatus : s.dev.startStatus (.startDevice none width height pix_fmt answer) =
              some ENOMEM := by
            rw [startStatus, startDevice_setUp hstate hformat, if_pos rfl]
          have hsame := (hkept.failed _ hstatus (by decide)).mPixelFormat
          rw [hcall, (h.of_not_started (by simp [hstate])).2.1] at hsame
          rw [show pix_fmt = 0#32 from hsame] at hformat
          cases hformat
      | some f =>
          have hanswer : answer ≠ NO_ERROR := hfails.resolve_left (Option.some_ne_none f)
          have hstarted := hkept.started
          rw [hcall] at hstarted
          simp [hanswer] at hstarted

/-! ## Runs -/

/-- In a run of calls from `Initialize` on, whatever the host answers, there is a frame exactly in
the started state, a start that fails changes nothing and no frame is lost, if and only if no start
fails after it has set up the device. -/
theorem eachStep_framesKept_iff (calls : List DeviceCall) :
    EachStep FramesKept initialized (traceOf call initialized calls) ↔
      EachStep (fun s c _ => s.dev.abandonsFrame c = false) initialized
        (traceOf call initialized calls) := by
  refine Run.eachStep_iff_eachStep ?_ ?_ (run_traceOf call initialized calls) clean_initialized
  · rintro s c s' hclean hc rfl
    exact clean_call hclean hc
  · rintro s c s' hclean rfl
    constructor
    · intro hkept
      by_contra hc
      exact not_framesKept hclean (Bool.not_eq_false _ ▸ hc) hkept
    · exact framesKept_of_clean hclean

/-- The host refuses to start, and starts when it is asked again: the first frame is lost. -/
theorem not_eachStep_framesKept :
    ¬∀ calls : List DeviceCall,
      EachStep FramesKept initialized (traceOf call initialized calls) := by
  intro h
  obtain ⟨-, -, hkept, -⟩ := h [.connectDevice NO_ERROR,
    .startDevice (some 0) 640 480 V4L2_PIX_FMT_NV21 EINVAL,
    .startDevice (some 1) 640 480 V4L2_PIX_FMT_NV21 NO_ERROR]
  exact absurd hkept.owned (by decide)

end DeviceFrames
end Camera
end DeviceAndroVM
