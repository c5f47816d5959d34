import DeviceAndroVM.Camera.CallbackNotifier
import DeviceAndroVM.Camera.PreviewWindow
import DeviceAndroVM.Camera.WhiteBalance
import DeviceAndroVM.Library.MachineWords

/-!
# Frame rates and frame intervals

The preview frame rate of the stored parameters is what `setPreviewWindow` and `startRecording`
divide by, whatever an application has put there.

* `FrameRateClass` — what is used of the class `CameraParameters`.
* `RateCamera.run` — the calls; a division by zero ends the process.
* `IntervalKept` — what a call is to leave: an interval, and no longer one than a second.
* `RateFits` — the rates for which it does.
* `eachStep_intervalKept_iff` — every sequence of calls.
* `wait_usec`, `waits_iff` — how long `inWorkerThread` waits for the next frame.
-/

namespace DeviceAndroVM
namespace Camera

open Library

universe u

/-- The class `CameraParameters`; `unflatten` is that of a new object, and a rate that is missing or
no number has some value too. -/
structure FrameRateClass (Params : Type u) where
  unflatten : CString → Params
  getPreviewFrameRate : Params → Int

/-- What `EmulatedCamera` keeps. -/
structure RateCamera (Params : Type u) where
  mParameters : Params
  mPreviewWindow : PreviewWindow
  mCallbackNotifier : CallbackNotifier

/-- The calls; `set_usage` is the answer of the window. -/
inductive RateCall
  | setParameters (parms : CString)
  | setPreviewWindow (window : Option Nat) (set_usage : status_t)
  | startRecording
  | stopRecording
  deriving DecidableEq

namespace RateCamera

variable {Params : Type u} (ops : FrameRateClass Params)

/-- A camera with the parameters of `Initialize`. -/
def initialized (params : Params) : RateCamera Params := ⟨params, .init, .init⟩

/-- A call; there is no result of a division by zero. -/
def run (s : RateCamera Params) : RateCall → Option (RateCamera Params)
  | .setParameters parms => some { s with mParameters := ops.unflatten parms }
  | .setPreviewWindow window set_usage =>
      (s.mPreviewWindow.setPreviewWindow window (ops.getPreviewFrameRate s.mParameters)
        set_usage).map fun result => { s with mPreviewWindow := result.2 }
  | .startRecording =>
      (s.mCallbackNotifier.enableVideoRecording (ops.getPreviewFrameRate s.mParameters)).map
        fun notifier => { s with mCallbackNotifier := notifier }
  | .stopRecording => some { s with mCallbackNotifier := s.mCallbackNotifier.disableVideoRecording }

/-- A call of a process that may have ended. -/
def call (s : Option (RateCamera Params)) (c : RateCall) : Option (RateCamera Params) :=
  s.bind fun camera => camera.run ops c

/-- The process goes on, a window that is set has an interval of at most a second, and so has a
recording. -/
def IntervalKept (c : RateCall) : Option (RateCamera Params) → Prop
  | none => False
  | some s' =>
      match c with
      | .setParameters _ => True
      | .setPreviewWindow _ _ => s'.mPreviewWindow.mPreviewWindow ≠ none →
          0 < s'.mPreviewWindow.mPreviewAfter.toNat ∧
            s'.mPreviewWindow.mPreviewAfter.toNat ≤ 1000000
      | .startRecording => 0 < s'.mCallbackNotifier.mFrameRefreshFreq ∧
          s'.mCallbackNotifier.mFrameRefreshFreq ≤ 1000000000
      | .stopRecording => True

/-- The rate that a call divides by is positive, and there are not more frames in a second than
units of time. -/
def RateFits (rate : Int) : RateCall → Prop
  | .setPreviewWindow (some _) 0 => 1 ≤ rate ∧ rate ≤ 1000000
  | .startRecording => 1 ≤ rate ∧ rate ≤ 1000000000
  | _ => True

/-! ## Intervals -/

/-- A quotient of a second is at most the second, and positive for the rates from one to the units
of the second. -/
theorem tdiv_pos_iff {units rate : Int} (hunits : 0 < units) :
    0 < units.tdiv rate ↔ 1 ≤ rate ∧ rate ≤ units := by
  rcases Int.lt_or_le 0 rate with hpositive | hnegative
  · have hone : 1 ≤ units / rate ↔ 1 * rate ≤ units := Int.le_ediv_iff_mul_le hpositive
    rw [Int.tdiv_eq_ediv_of_nonneg hunits.le]
    omega
  · have hle := Int.tdiv_nonpos_of_nonneg_of_nonpos hunits.le hnegative
    omega

/-- The microseconds as an unsigned number: what a negative rate makes of them is no second. -/
theorem mPreviewAfter_iff (rate : Int) :
    (0 < (BitVec.ofInt 32 ((1000000 : Int).tdiv rate)).toNat ∧
      (BitVec.ofInt 32 ((1000000 : Int).tdiv rate)).toNat ≤ 1000000) ↔
        1 ≤ rate ∧ rate ≤ 1000000 := by
  have hle := Int.tdiv_le_self rate (show (0 : Int) ≤ 1000000 by decide)
  have hge : -1000000 ≤ (1000000 : Int).tdiv rate := by
    have habs := Int.natAbs_tdiv_le_natAbs 1000000 rate
    omega
  rw [← tdiv_pos_iff (show (0 : Int) < 1000000 by decide), BitVec.toNat_ofInt]
  omega

variable {ops} {s : RateCamera Params}

theorem intervalKept_setPreviewWindow_iff (window : Option Nat) (set_usage : status_t) :
    IntervalKept (.setPreviewWindow window set_usage)
        (s.run ops (.setPreviewWindow window set_usage)) ↔
      RateFits (ops.getPreviewFrameRate s.mParameters) (.setPreviewWindow window set_usage) := by
  unfold run PreviewWindow.setPreviewWindow
  cases window with
  | none => simp [IntervalKept, RateFits]
  | some w =>
      by_cases husage : set_usage = NO_ERROR
      · subst husage
        rw [RateFits, ← mPreviewAfter_iff]
        by_cases hrate : ops.getPreviewFrameRate s.mParameters = 0
        · simp [IntervalKept, hrate]
        · simp [IntervalKept, hrate]
      · have hfits : RateFits (ops.getPreviewFrameRate s.mParameters)
            (.setPreviewWindow (some w) set_usage) := by
          unfold RateFits
          split
          · rename_i heq
            cases heq
            exact absurd rfl husage
          · rename_i heq
            cases heq
          · trivial
        simp [IntervalKept, husage, hfits]

theorem intervalKept_startRecording_iff :
    IntervalKept .startRecording (s.run ops .startRecording) ↔
      RateFits (ops.getPreviewFrameRate s.mParameters) .startRecording := by
  unfold run CallbackNotifier.enableVideoRecording
  rw [RateFits, ← tdiv_pos_iff (show (0 : Int) < 1000000000 by decide)]
  have hle := Int.tdiv_le_self (ops.getPreviewFrameRate s.mParameters)
    (show (0 : Int) ≤ 1000000000 by decide)
  by_cases hrate : ops.getPreviewFrameRate s.mParameters = 0
  · simp [IntervalKept, hrate]
  · simp [IntervalKept, hrate, hle]

/-- A call leaves an interval exactly if the stored rate fits. -/
theorem intervalKept_iff (c : RateCall) :
    IntervalKept c (s.run ops c) ↔ RateFits (ops.getPreviewFrameRate s.mParameters) c := by
  cases c with
  | setParameters parms => exact Iff.rfl
  | setPreviewWindow window set_usage => exact intervalKept_setPreviewWindow_iff window set_usage
  | startRecording => exact intervalKept_startRecording_iff
  | stopRecording => exact Iff.rfl

/-- A process goes on if the rate fits. -/
theorem run_ne_none {c : RateCall}
    (h : RateFits (ops.getPreviewFrameRate s.mParameters) c) : s.run ops c ≠ none := by
  intro hnone
  have hkept := (intervalKept_iff c).mpr h
  rw [hnone] at hkept
  exact hkept

/-! ## Runs -/

/-- In every run of calls, whatever strings an application sets and whatever the windows answer, no
call divides by zero and every one leaves an interval of at most a second, if and only if the stored
rate fits each time that it is used. -/
theorem eachStep_intervalKept_iff (ops : FrameRateClass Params) (params : Params)
    (calls : List RateCall) :
    EachStep (fun _ c s' => IntervalKept c s') (some (initialized params))
        (traceOf (call ops) (some (initialized params)) calls) ↔
      EachStep (fun s c _ => ∀ camera ∈ s, RateFits (ops.getPreviewFrameRate camera.mParameters) c)
        (some (initialized params)) (traceOf (call ops) (some (initialized params)) calls) := by
  have hgoes : ∀ (s : Option (RateCamera Params)) (c : RateCall) (s' : Option (RateCamera Params)),
      s ≠ none → (∀ camera ∈ s, RateFits (ops.getPreviewFrameRate camera.mParameters) c) →
        s' = call ops s c → s' ≠ none := by
    rintro s c s' hs hfits rfl
    obtain ⟨camera, rfl⟩ := Option.ne_none_iff_exists'.mp hs
    exact run_ne_none (hfits camera rfl)
  refine Run.eachStep_iff_eachStep hgoes ?_ (run_traceOf _ _ calls) nofun
  rintro s c s' hs rfl
  obtain ⟨camera, rfl⟩ := Option.ne_none_iff_exists'.mp hs
  have hstored : (∀ camera' ∈ some camera,
      RateFits (ops.getPreviewFrameRate camera'.mParameters) c) ↔
        RateFits (ops.getPreviewFrameRate camera.mParameters) c := by
    simp
  rw [hstored]
  exact intervalKept_iff c

/-- Parameters as the list of their entries. -/
def flatRates : FrameRateClass (List (CString × CString)) where
  unflatten := WhiteBalance.flatEntries [] [] [] false
  getPreviewFrameRate := fun params =>
    ((params.lookup (CString.ofChars "preview-frame-rate".toList)).bind CString.scanInt).getD (-1)

/-- A rate of zero, and then a recording. -/
theorem not_eachStep_intervalKept :
    ¬∀ calls : List RateCall,
      EachStep (fun _ c s' => IntervalKept c s') (some (initialized []))
        (traceOf (call flatRates) (some (initialized [])) calls) := by
  intro h
  obtain ⟨-, hkept, -⟩ := h [.setParameters (CString.ofChars "preview-frame-rate=0".toList),
    .startRecording]
  have hnone : call flatRates (call flatRates (some (initialized []))
      (.setParameters (CString.ofChars "preview-frame-rate=0".toList))) .startRecording = none := by
    decide +kernel
  rw [hnone] at hkept
  exact hkept

end RateCamera

/-! ## The wait of the worker thread -/

namespace EmulatedGenyCameraDevice

abbrev mEmulatedFPS : Int := 25

/-- The microseconds that `inWorkerThread` waits, from the milliseconds at the last frame and now. -/
def wait_usec (mLastFrame now_msec : Int) : Int :=
  if 1000000 / mEmulatedFPS ≤ int32 (int32 (now_msec - mLastFrame) * 1000) then 1
  else int32 (1000000 / mEmulatedFPS - int32 (int32 (now_msec - mLastFrame) * 1000))

/-- The wait is positive and at most an interval between frames, and the shortest one when that has
passed. -/
def Waits (mLastFrame now_msec : Int) : Prop :=
  1 ≤ wait_usec mLastFrame now_msec ∧ wait_usec mLastFrame now_msec ≤ 1000000 / mEmulatedFPS ∧
    (1000000 / mEmulatedFPS ≤ (now_msec - mLastFrame) * 1000 → wait_usec mLastFrame now_msec = 1)

instance decidableWaits (mLastFrame now_msec : Int) : Decidable (Waits mLastFrame now_msec) :=
  inferInstanceAs (Decidable (_ ∧ _ ∧ (_ → _)))

/-- The gap in microseconds in a word; what the difference loses before is lost after it too. -/
theorem exists_elapsed (gap : Int) :
    ∃ k : Int, int32 (int32 gap * 1000) = gap * 1000 - 0x100000000 * k := by
  obtain ⟨k, hk⟩ := exists_int32 gap
  obtain ⟨l, hl⟩ := exists_int32 (int32 gap * 1000)
  exact ⟨1000 * k + l, by omega⟩

/-- The wait is right after a gap of less than an interval, and after all others of which the lower
32 bits of the microseconds are an interval or more as an `int`. -/
theorem waits_iff {mLastFrame now_msec : Int} (hle : mLastFrame ≤ now_msec) :
    Waits mLastFrame now_msec ↔ now_msec - mLastFrame < 40 ∨
      (40000 ≤ (now_msec - mLastFrame) * 1000 % 0x100000000 ∧
        (now_msec - mLastFrame) * 1000 % 0x100000000 < 0x80000000) := by
  obtain ⟨k, hk⟩ := exists_elapsed (now_msec - mLastFrame)
  have helapsed := le_int32 (int32 (now_msec - mLastFrame) * 1000)
  have helapsed' := int32_lt (int32 (now_msec - mLastFrame) * 1000)
  unfold Waits wait_usec mEmulatedFPS
  generalize int32 (int32 (now_msec - mLastFrame) * 1000) = elapsed at *
  generalize hgap : now_msec - mLastFrame = gap at *
  -- the lower 32 bits as an unsigned number
  have hmod : gap * 1000 % 0x100000000 =
      if 0 ≤ elapsed then elapsed else elapsed + 0x100000000 := by
    split <;> omega
  rw [hmod]
  by_cases hlong : 1000000 / 25 ≤ elapsed
  · rw [if_pos hlong, if_pos (show 0 ≤ elapsed by omega)]
    constructor
    · intro _
      right
      omega
    · intro _
      exact ⟨by decide, by decide, fun _ => rfl⟩
  · rw [if_neg hlong]
    obtain ⟨l, hl⟩ := exists_int32 (1000000 / 25 - elapsed)
    have hwait := le_int32 (1000000 / 25 - elapsed)
    have hwait' := int32_lt (1000000 / 25 - elapsed)
    generalize int32 (1000000 / 25 - elapsed) = wait at *
    constructor
    · rintro ⟨hpositive, hshort, hone⟩
      -- after an interval the wait is one, and no number of milliseconds leaves it
      by_contra hgood
      have hpassed := hone (by omega)
      omega
    · rintro (hshort | hgood)
      · have hnone : k = 0 := by omega
        have hnone' : l = 0 := by omega
        subst hnone hnone'
        refine ⟨by omega, by omega, fun hpassed => by omega⟩
      · split at hgood <;> omega

theorem waits_second : Waits 1000 2000 :=
  (waits_iff (by decide)).mpr (by decide)

/-- A camera that was first used after 2147484 milliseconds. -/
theorem not_waits : ¬∀ mLastFrame now_msec : Int, -0x80000000 ≤ mLastFrame →
    mLastFrame ≤ now_msec → now_msec < 0x80000000 → Waits mLastFrame now_msec := by
  intro h
  exact absurd (h 0 2147484 (by decide) (by decide) (by decide)) (by decide)

end EmulatedGenyCameraDevice
end Camera
end DeviceAndroVM
