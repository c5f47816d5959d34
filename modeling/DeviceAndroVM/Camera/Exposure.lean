import DeviceAndroVM.Camera.WhiteBalance
import Mathlib.Algebra.Order.Ring.Unbundled.Rat
import Mathlib.Tactic.Ring

/-!
# The exposure of the emulated camera

`EmulatedCamera::setParameters` tells the device the compensation of the new parameters within
their limits, if that is not the compensation of the stored ones, and stores the new parameters as
they are.

* `exposureOf` — the compensation of parameters in steps.
* `ExposureKept` — the device and the stored parameters agree, and the limits are kept.
* `Follows` — new parameters after stored ones for which that stays so.
* `exposureKept_iff_follows` — one call.
* `always_exposureKept_iff` — every sequence of calls.
-/

namespace DeviceAndroVM
namespace Camera
namespace WhiteBalance

open Library

universe u

variable {Params : Type u} (ops : ParametersClass Params)

/-- The compensation of the parameters. -/
def compensation (params : Params) : Int := ops.getInt params .KEY_EXPOSURE_COMPENSATION

def minCompensation (params : Params) : Int := ops.getInt params .KEY_MIN_EXPOSURE_COMPENSATION

def maxCompensation (params : Params) : Int := ops.getInt params .KEY_MAX_EXPOSURE_COMPENSATION

/-- The compensation within the limits of the parameters. -/
def clampedCompensation (params : Params) : Int :=
  max (minCompensation ops params) (min (maxCompensation ops params) (compensation ops params))

/-- The compensation of the parameters, in steps. -/
def exposureOf (params : Params) : ℚ :=
  compensation ops params * ops.getFloat params .KEY_EXPOSURE_COMPENSATION_STEP

/-- The compensation is within the limits. -/
def InRange (params : Params) : Prop :=
  minCompensation ops params ≤ compensation ops params ∧
    compensation ops params ≤ maxCompensation ops params

/-- The device has the exposure of the stored parameters, and these are within their limits. -/
structure ExposureKept (s : EmulatedCamera Params) : Prop where
  device : s.device.ev = clampedCompensation ops s.mParameters *
    ops.getFloat s.mParameters .KEY_EXPOSURE_COMPENSATION_STEP
  stored : InRange ops s.mParameters

/-- The new parameters are within their limits, and the device need not be told of them unless it
is: that is when they have limits and another compensation. -/
structure Follows (current new_param : Params) : Prop where
  inRange : InRange ops new_param
  untold : (minCompensation ops new_param = 0 ∧ maxCompensation ops new_param = 0) ∨
    compensation ops current = compensation ops new_param →
      exposureOf ops current = exposureOf ops new_param

variable {ops}

theorem clampedCompensation_eq {params : Params} (h : InRange ops params) :
    clampedCompensation ops params = compensation ops params := by
  rw [clampedCompensation, min_eq_right h.2, max_eq_right h.1]

/-- Within the limits the device has what the stored parameters ask for. -/
theorem exposureKept_iff {s : EmulatedCamera Params} :
    ExposureKept ops s ↔ s.device.ev = exposureOf ops s.mParameters ∧ InRange ops s.mParameters := by
  constructor
  · rintro ⟨hdevice, hstored⟩
    rw [clampedCompensation_eq hstored] at hdevice
    exact ⟨hdevice, hstored⟩
  · rintro ⟨hdevice, hstored⟩
    refine ⟨?_, hstored⟩
    rw [clampedCompensation_eq hstored]
    exact hdevice

/-- The white balance is set after the exposure and does not matter to it. -/
theorem setParameters_ev (s : EmulatedCamera Params) (parms : CString) :
    (s.setParameters ops parms).device.ev =
      (requestedExposure ops s.mParameters (ops.unflatten parms)).getD s.device.ev := by
  unfold EmulatedCamera.setParameters
  dsimp only
  cases requestedExposure ops s.mParameters (ops.unflatten parms) with
  | none => cases requestedMode ops s.mParameters (ops.unflatten parms) <;> rfl
  | some ev => cases requestedMode ops s.mParameters (ops.unflatten parms) <;> rfl

/-- Of parameters within their limits the device is told, unless these are zero or the compensation
is the current one. -/
theorem requestedExposure_eq {new_param : Params} (h : InRange ops new_param) (current : Params) :
    requestedExposure ops current new_param =
      if (minCompensation ops new_param = 0 ∧ maxCompensation ops new_param = 0) ∨
          compensation ops current = compensation ops new_param then none
      else some (exposureOf ops new_param) := by
  obtain ⟨hlow, hhigh⟩ := h
  unfold minCompensation maxCompensation compensation at *
  unfold requestedExposure exposureOf compensation
  dsimp only
  rw [if_neg (not_lt.mpr hhigh), if_neg (not_lt.mpr hlow)]
  by_cases hlimits : ops.getInt new_param .KEY_MIN_EXPOSURE_COMPENSATION ≠ 0 ∨
      ops.getInt new_param .KEY_MAX_EXPOSURE_COMPENSATION ≠ 0
  · rw [if_pos hlimits]
    by_cases hsame : ops.getInt current .KEY_EXPOSURE_COMPENSATION =
        ops.getInt new_param .KEY_EXPOSURE_COMPENSATION
    · rw [if_neg (not_not.mpr hsame), if_pos (Or.inr hsame)]
    · have htold : ¬((ops.getInt new_param .KEY_MIN_EXPOSURE_COMPENSATION = 0 ∧
          ops.getInt new_param .KEY_MAX_EXPOSURE_COMPENSATION = 0) ∨
            ops.getInt current .KEY_EXPOSURE_COMPENSATION =
              ops.getInt new_param .KEY_EXPOSURE_COMPENSATION) := by tauto
      rw [if_pos hsame, if_neg htold]
  · have hzero : ops.getInt new_param .KEY_MIN_EXPOSURE_COMPENSATION = 0 ∧
        ops.getInt new_param .KEY_MAX_EXPOSURE_COMPENSATION = 0 := by tauto
    rw [if_neg hlimits, if_pos (Or.inl hzero)]

/-- After a call the device and the stored parameters agree just when these follow the ones that
were stored before. -/
theorem exposureKept_iff_follows {s : EmulatedCamera Params} (h : ExposureKept ops s)
    (parms : CString) :
    ExposureKept ops (s.setParameters ops parms) ↔
      Follows ops s.mParameters (ops.unflatten parms) := by
  have hbefore := (exposureKept_iff.mp h).1
  have hparams : (s.setParameters ops parms).mParameters = ops.unflatten parms := rfl
  rw [exposureKept_iff, hparams, setParameters_ev]
  constructor
  · rintro ⟨hdevice, hrange⟩
    refine ⟨hrange, fun huntold => ?_⟩
    rw [requestedExposure_eq hrange, if_pos huntold, Option.getD_none, hbefore] at hdevice
    exact hdevice
  · rintro ⟨hrange, hsame⟩
    refine ⟨?_, hrange⟩
    rw [requestedExposure_eq hrange]
    split
    · rename_i huntold
      rw [Option.getD_none, hbefore]
      exact hsame huntold
    · exact Option.getD_some

/-! ## Runs -/

/-- What `Initialize` has set as the compensation and its limits is read back. -/
structure InitializeReads (ops : ParametersClass Params) (params : Params) : Prop where
  compensation : compensation ops (EmulatedCamera.afterInitialize ops params).mParameters = 0
  minCompensation : minCompensation ops (EmulatedCamera.afterInitialize ops params).mParameters = -6
  maxCompensation : maxCompensation ops (EmulatedCamera.afterInitialize ops params).mParameters = 6

theorem exposureKept_afterInitialize {params : Params} (h : InitializeReads ops params) :
    ExposureKept ops (EmulatedCamera.afterInitialize ops params) := by
  refine exposureKept_iff.mpr ⟨?_, ?_⟩
  · rw [exposureOf, h.compensation, Int.cast_zero, zero_mul]
    rfl
  · rw [InRange, h.compensation, h.minCompensation, h.maxCompensation]
    decide

/-- For every sequence of calls after `Initialize`: after each of them the device has the exposure
of the stored parameters, which are within their limits, if and only if the parameters of every call
follow those before. -/
theorem always_exposureKept_iff {params : Params} (h : InitializeReads ops params)
    (calls : List CString) :
    Always (ExposureKept ops) (traceOf (EmulatedCamera.setParameters ops)
        (EmulatedCamera.afterInitialize ops params) calls) ↔
      EachStep (fun s parms _ => Follows ops s.mParameters (ops.unflatten parms))
        (EmulatedCamera.afterInitialize ops params)
        (traceOf (EmulatedCamera.setParameters ops) (EmulatedCamera.afterInitialize ops params)
          calls) := by
  refine Run.always_iff_eachStep ?_ (fun _ hkept => hkept) ?_ (run_traceOf _ _ calls)
    (exposureKept_afterInitialize h)
  · rintro s parms s' hkept hfollows rfl
    exact (exposureKept_iff_follows hkept parms).mpr hfollows
  · rintro s parms s' hkept rfl hkept'
    exact (exposureKept_iff_follows hkept parms).mp hkept'

/-! ## Flattened parameters -/

instance decidableInRange (ops : ParametersClass Params) (params : Params) :
    Decidable (InRange ops params) := inferInstanceAs (Decidable (_ ∧ _))

instance decidableFollows (ops : ParametersClass Params) (current new_param : Params) :
    Decidable (Follows ops current new_param) :=
  decidable_of_iff (InRange ops new_param ∧
    ((minCompensation ops new_param = 0 ∧ maxCompensation ops new_param = 0) ∨
      compensation ops current = compensation ops new_param →
        exposureOf ops current = exposureOf ops new_param))
    ⟨fun h => ⟨h.1, h.2⟩, fun h => ⟨h.inRange, h.untold⟩⟩

/-- The limits of `Initialize`, with a compensation and a step. -/
def exposureString (compensation step : CString) : CString :=
  Key.KEY_MAX_EXPOSURE_COMPENSATION.name ++ 0x3D :: 0x36 :: 0x3B ::
    Key.KEY_MIN_EXPOSURE_COMPENSATION.name ++ 0x3D :: 0x2D :: 0x36 :: 0x3B ::
    Key.KEY_EXPOSURE_COMPENSATION_STEP.name ++ 0x3D :: step ++ 0x3B ::
    Key.KEY_EXPOSURE_COMPENSATION.name ++ 0x3D :: compensation

theorem initializeReads_flatParameters : InitializeReads flatParameters [] :=
  ⟨by decide +kernel, by decide +kernel, by decide +kernel⟩

theorem always_exposureKept_four :
    Always (ExposureKept flatParameters) (traceOf (EmulatedCamera.setParameters flatParameters)
      (EmulatedCamera.afterInitialize flatParameters [])
      [exposureString (CString.ofChars ['4']) (CString.ofChars ['1']),
        exposureString (CString.ofChars ['-', '6']) (CString.ofChars ['2'])]) :=
  (always_exposureKept_iff initializeReads_flatParameters _).mpr (by decide +kernel)

/-- A compensation of nine is stored as it is. -/
theorem not_always_exposureKept :
    ¬∀ calls : List CString,
      Always (ExposureKept flatParameters) (traceOf (EmulatedCamera.setParameters flatParameters)
        (EmulatedCamera.afterInitialize flatParameters []) calls) := by
  intro h
  have hkept := h [exposureString (CString.ofChars ['9']) (CString.ofChars ['1'])]
    (_, _) List.mem_cons_self
  exact absurd hkept.stored (by decide +kernel)

end WhiteBalance
end Camera
end DeviceAndroVM
