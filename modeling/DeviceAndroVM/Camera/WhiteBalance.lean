import DeviceAndroVM.Library.CString
import DeviceAndroVM.Library.Transition
import Mathlib.Data.List.Infix
import Mathlib.Data.Rat.Defs

/-!
# The white balance of the emulated camera

`EmulatedCamera::setParameters` accepts a white balance mode that occurs anywhere in the
list of supported modes of the same parameters, and the device then looks its scales up
by the exact name.

* `ParametersClass` — what is used of the class `CameraParameters`, which is a library's.
* `EmulatedCamera.setParameters`, `EmulatedCamera.afterInitialize` — what they do about the
  exposure and the white balance.
* `ReadsScale` — a read of the scales finds some.
* `NamesRegistered` — every mode that a sequence of calls sets is a registered one.
* `readsScale_iff` — all reads between the calls are safe just when the calls do that.
-/

namespace DeviceAndroVM
namespace Camera
namespace WhiteBalance

open Library

universe u

/-! ## Parameters -/

/-- The keys that are about the exposure and the white balance. -/
inductive Key
  | KEY_MAX_EXPOSURE_COMPENSATION
  | KEY_MIN_EXPOSURE_COMPENSATION
  | KEY_EXPOSURE_COMPENSATION_STEP
  | KEY_EXPOSURE_COMPENSATION
  | KEY_SUPPORTED_WHITE_BALANCE
  | KEY_WHITE_BALANCE
  deriving DecidableEq

/-- The class `CameraParameters`; `unflatten` is that of a new object. -/
structure ParametersClass (Params : Type u) where
  unflatten : CString → Params
  set : Params → Key → CString → Params
  get : Params → Key → Option CString
  getInt : Params → Key → Int
  getFloat : Params → Key → ℚ

abbrev WHITE_BALANCE_AUTO : CString := CString.ofChars ['a', 'u', 't', 'o']

abbrev WHITE_BALANCE_INCANDESCENT : CString :=
  CString.ofChars ['i', 'n', 'c', 'a', 'n', 'd', 'e', 's', 'c', 'e', 'n', 't']

abbrev WHITE_BALANCE_DAYLIGHT : CString :=
  CString.ofChars ['d', 'a', 'y', 'l', 'i', 'g', 'h', 't']

abbrev WHITE_BALANCE_TWILIGHT : CString :=
  CString.ofChars ['t', 'w', 'i', 'l', 'i', 'g', 'h', 't']

/-- `"%s,%s,%s,%s"`. -/
def supported_white_balance : CString :=
  WHITE_BALANCE_AUTO ++ 0x2C :: WHITE_BALANCE_INCANDESCENT ++ 0x2C :: WHITE_BALANCE_DAYLIGHT ++
    0x2C :: WHITE_BALANCE_TWILIGHT

/-! ## The device -/

/-- The `float[3]` of a mode, as the literals say. -/
structure Scale where
  r : ℚ
  g : ℚ
  b : ℚ
  deriving DecidableEq

/-- What `EmulatedCameraDevice` keeps of the two settings; `ev` is the argument of the last
`setExposureCompensation`, and a scale that is `none` is `NULL`. -/
structure Device where
  ev : ℚ
  mWhiteBalanceScale : Option Scale
  mSupportedWhiteBalanceScale : List (CString × Scale)

namespace Device

/-- `EmulatedCameraDevice::EmulatedCameraDevice`. -/
def init : Device := ⟨0, none, []⟩

variable (dev : Device)

def setExposureCompensation (ev : ℚ) : Device := { dev with ev := ev }

/-- `EmulatedCameraDevice::initializeWhiteBalanceModes`; what is added last is found. -/
def initializeWhiteBalanceModes (mode : CString) (r_scale b_scale : ℚ) : Device :=
  { dev with
    mSupportedWhiteBalanceScale :=
      (mode, ⟨r_scale, 1, b_scale⟩) :: dev.mSupportedWhiteBalanceScale }

/-- `EmulatedCameraDevice::setWhiteBalanceMode`; `valueFor` brings `NULL` for a mode that has
not been added. -/
def setWhiteBalanceMode (mode : CString) : Device :=
  { dev with mWhiteBalanceScale := dev.mSupportedWhiteBalanceScale.lookup mode }

/-- The scales that `EmulatedGenyCameraDevice::inWorkerThread` passes to `queryFrame`; there
are none where it dereferences `NULL`. -/
def queriedScales : Option (ℚ × ℚ × ℚ) :=
  dev.mWhiteBalanceScale.map fun scale => (scale.r, scale.g, scale.b)

/-- The `r_scale` and `b_scale` of `EmulatedCameraDevice::changeWhiteBalance`. -/
def pixelScales : Option (ℚ × ℚ) :=
  dev.mWhiteBalanceScale.map fun scale => (scale.r, scale.b)

/-- The device after `EmulatedCamera::Initialize`. -/
def initialized : Device :=
  ((((init.initializeWhiteBalanceModes WHITE_BALANCE_AUTO 1 1).initializeWhiteBalanceModes
    WHITE_BALANCE_INCANDESCENT (138 / 100) (60 / 100)).initializeWhiteBalanceModes
    WHITE_BALANCE_DAYLIGHT (109 / 100) (92 / 100)).initializeWhiteBalanceModes
    WHITE_BALANCE_TWILIGHT (92 / 100) (122 / 100)).setWhiteBalanceMode WHITE_BALANCE_AUTO

end Device

/-! ## The camera -/

structure EmulatedCamera (Params : Type u) where
  mParameters : Params
  device : Device

section Calls

variable {Params : Type u} (ops : ParametersClass Params)

/-- The exposure that `setParameters` sets, if any: the new one within the limits, when it is
not the current one. -/
def requestedExposure (current new_param : Params) : Option ℚ :=
  let min_exposure_compensation := ops.getInt new_param .KEY_MIN_EXPOSURE_COMPENSATION
  let max_exposure_compensation := ops.getInt new_param .KEY_MAX_EXPOSURE_COMPENSATION
  if min_exposure_compensation ≠ 0 ∨ max_exposure_compensation ≠ 0 then
    let new := ops.getInt new_param .KEY_EXPOSURE_COMPENSATION
    let new := if new > max_exposure_compensation then max_exposure_compensation else new
    let new := if new < min_exposure_compensation then min_exposure_compensation else new
    if ops.getInt current .KEY_EXPOSURE_COMPENSATION ≠ new then
      some (new * ops.getFloat new_param .KEY_EXPOSURE_COMPENSATION_STEP)
    else none
  else none

/-- The white balance mode that `setParameters` sets, if any.  `strstr` finds the new one in
the supported ones when it is an infix of them. -/
def requestedMode (current new_param : Params) : Option CString :=
  match ops.get new_param .KEY_SUPPORTED_WHITE_BALANCE, ops.get new_param .KEY_WHITE_BALANCE with
  | some supported_white_balance, some new_white_balance =>
      if new_white_balance <:+: supported_white_balance then
        match ops.get current .KEY_WHITE_BALANCE with
        | none => some new_white_balance
        | some current_white_balance =>
            if current_white_balance ≠ new_white_balance then some new_white_balance else none
      else none
  | _, _ => none

/-- `EmulatedCamera::setParameters`. -/
def EmulatedCamera.setParameters (s : EmulatedCamera Params) (parms : CString) :
    EmulatedCamera Params :=
  let new_param := ops.unflatten parms
  let device :=
    match requestedExposure ops s.mParameters new_param with
    | some exposure_value => s.device.setExposureCompensation exposure_value
    | none => s.device
  let device :=
    match requestedMode ops s.mParameters new_param with
    | some new_white_balance => device.setWhiteBalanceMode new_white_balance
    | none => device
  ⟨new_param, device⟩

/-- `EmulatedCamera::Initialize`, of the parameters before it. -/
def EmulatedCamera.afterInitialize (params : Params) : EmulatedCamera Params where
  mParameters :=
    let params := ops.set params .KEY_MAX_EXPOSURE_COMPENSATION (CString.ofChars ['6'])
    let params := ops.set params .KEY_MIN_EXPOSURE_COMPENSATION (CString.ofChars ['-', '6'])
    let params :=
      ops.set params .KEY_EXPOSURE_COMPENSATION_STEP (CString.ofChars ['0', '.', '5'])
    let params := ops.set params .KEY_EXPOSURE_COMPENSATION (CString.ofChars ['0'])
    let params := ops.set params .KEY_SUPPORTED_WHITE_BALANCE supported_white_balance
    ops.set params .KEY_WHITE_BALANCE WHITE_BALANCE_AUTO
  device := Device.initialized

/-! ## Runs -/

/-- A call of the application, or a read of the scales by another thread. -/
inductive Step
  | setParameters (parms : CString)
  | inWorkerThread
  | changeWhiteBalance
  deriving DecidableEq

/-- The camera after a step; a read leaves it as it is. -/
def EmulatedCamera.step (s : EmulatedCamera Params) : Step → EmulatedCamera Params
  | .setParameters parms => s.setParameters ops parms
  | .inWorkerThread => s
  | .changeWhiteBalance => s

/-- The strings of the calls of a trace, in order. -/
def callsOf (trace : List (Step × EmulatedCamera Params)) : List CString :=
  trace.filterMap fun entry =>
    match entry.1 with
    | .setParameters parms => some parms
    | _ => none

/-- A read of the scales does not dereference `NULL`. -/
def ReadsScale (s : EmulatedCamera Params) : Step → Prop
  | .setParameters _ => True
  | .inWorkerThread => s.device.queriedScales ≠ none
  | .changeWhiteBalance => s.device.pixelScales ≠ none

/-- The modes that `Initialize` registers. -/
def registeredModes : List CString :=
  [WHITE_BALANCE_AUTO, WHITE_BALANCE_INCANDESCENT, WHITE_BALANCE_DAYLIGHT,
    WHITE_BALANCE_TWILIGHT]

/-- Every mode that the calls set, the first of them after the parameters `current`, is
registered. -/
def NamesRegistered (current : Params) : List CString → Prop
  | [] => True
  | parms :: rest =>
      (∀ mode ∈ requestedMode ops current (ops.unflatten parms), mode ∈ registeredModes) ∧
        NamesRegistered (ops.unflatten parms) rest

instance decidableNamesRegistered :
    ∀ (current : Params) (calls : List CString), Decidable (NamesRegistered ops current calls)
  | _, [] => isTrue trivial
  | _, parms :: rest =>
      have := decidableNamesRegistered (ops.unflatten parms) rest
      inferInstanceAs (Decidable (_ ∧ _))

/-! ## Calls and reads -/

section Reads

variable {ops : ParametersClass Params} {s : EmulatedCamera Params} {calls : List CString}
  {trace : List (Step × EmulatedCamera Params)}

/-- The device has the registered modes, and scales that can be read. -/
structure Readable (dev : Device) : Prop where
  supported : ∀ mode, (dev.mSupportedWhiteBalanceScale.lookup mode).isSome = true ↔
    mode ∈ registeredModes
  scale : dev.mWhiteBalanceScale ≠ none

theorem readable_afterInitialize (params : Params) :
    Readable (EmulatedCamera.afterInitialize ops params).device := by
  show Readable Device.initialized
  refine ⟨?_, by decide⟩
  intro mode
  have hkeys : registeredModes =
      (Device.initialized.mSupportedWhiteBalanceScale.map Prod.fst).reverse := rfl
  rw [List.lookup_isSome_iff, hkeys, List.mem_reverse, List.mem_map]
  exact exists_congr fun entry => and_congr_right fun _ => beq_iff_eq.trans eq_comm

/-- The exposure is set before the white balance and does not matter to it. -/
theorem setParameters_device (ops : ParametersClass Params) (s : EmulatedCamera Params)
    (parms : CString) :
    (s.setParameters ops parms).device.mSupportedWhiteBalanceScale =
        s.device.mSupportedWhiteBalanceScale ∧
      (s.setParameters ops parms).device.mWhiteBalanceScale =
        match requestedMode ops s.mParameters (ops.unflatten parms) with
        | some mode => s.device.mSupportedWhiteBalanceScale.lookup mode
        | none => s.device.mWhiteBalanceScale := by
  unfold EmulatedCamera.setParameters
  dsimp only
  cases requestedExposure ops s.mParameters (ops.unflatten parms) with
  | none => cases requestedMode ops s.mParameters (ops.unflatten parms) <;> exact ⟨rfl, rfl⟩
  | some ev => cases requestedMode ops s.mParameters (ops.unflatten parms) <;> exact ⟨rfl, rfl⟩

/-- A call leaves scales exactly when the mode that it sets, if any, is registered. -/
theorem readable_setParameters_iff (h : Readable s.device) (parms : CString) :
    Readable (s.setParameters ops parms).device ↔
      ∀ mode ∈ requestedMode ops s.mParameters (ops.unflatten parms), mode ∈ registeredModes := by
  obtain ⟨hsupported, hscale⟩ := setParameters_device ops s parms
  have hreadable : Readable (s.setParameters ops parms).device ↔
      (s.setParameters ops parms).device.mWhiteBalanceScale ≠ none := by
    refine ⟨Readable.scale, fun hne => ⟨?_, hne⟩⟩
    rw [hsupported]
    exact h.supported
  rw [hreadable, hscale]
  cases hmode : requestedMode ops s.mParameters (ops.unflatten parms) with
  | none => exact iff_of_true h.scale fun _ hmem => by cases hmem
  | some mode =>
      simp only [Option.mem_def, Option.some.injEq, forall_eq']
      rw [← h.supported mode, Option.isSome_iff_ne_none]

theorem readsScale_of_readable (h : Readable s.device) (step : Step) : ReadsScale s step := by
  have hscale := h.scale
  cases step with
  | setParameters parms => trivial
  | inWorkerThread => simpa [ReadsScale, Device.queriedScales] using hscale
  | changeWhiteBalance => simpa [ReadsScale, Device.pixelScales] using hscale

/-- Calls that set registered modes only leave scales for all reads. -/
theorem eachStep_readsScale (hrun : Run (fun s step s' => s' = s.step ops step) s trace)
    (h : Readable s.device) (hnames : NamesRegistered ops s.mParameters (callsOf trace)) :
    EachStep (fun s step _ => ReadsScale s step) s trace := by
  induction hrun with
  | done s => exact eachStep_nil _ s
  | @next s s' step trace hstep hrest ih =>
      refine ⟨readsScale_of_readable h step, ?_⟩
      subst hstep
      cases step with
      | setParameters parms =>
          exact ih ((readable_setParameters_iff h parms).mpr hnames.1) hnames.2
      | inWorkerThread => exact ih h hnames
      | changeWhiteBalance => exact ih h hnames

/-- The trace of the calls. -/
def callTrace (ops : ParametersClass Params) (s : EmulatedCamera Params) (calls : List CString) :
    List (Step × EmulatedCamera Params) :=
  traceOf (fun s step => s.step ops step) s (calls.map Step.setParameters)

theorem run_callTrace (ops : ParametersClass Params) (s : EmulatedCamera Params)
    (calls : List CString) :
    Run (fun s step s' => s' = s.step ops step) s (callTrace ops s calls) :=
  run_traceOf _ s _

theorem callsOf_callTrace (ops : ParametersClass Params) (s : EmulatedCamera Params)
    (calls : List CString) : callsOf (callTrace ops s calls) = calls := by
  induction calls generalizing s with
  | nil => rfl
  | cons parms rest ih => exact congrArg (parms :: ·) (ih (s.setParameters ops parms))

/-- A worker thread that reads after a call sees whether the mode is registered. -/
theorem namesRegistered_of_safe (h : Readable s.device)
    (hsafe : ∀ trace, Run (fun s step s' => s' = s.step ops step) s trace →
      callsOf trace = calls → EachStep (fun s step _ => ReadsScale s step) s trace) :
    NamesRegistered ops s.mParameters calls := by
  induction calls generalizing s with
  | nil => trivial
  | cons parms rest ih =>
      have hstep : s.setParameters ops parms = s.step ops (.setParameters parms) := rfl
      have hrest : ∀ trace, Run (fun s step s' => s' = s.step ops step)
          (s.setParameters ops parms) trace → callsOf trace = rest →
          EachStep (fun s step _ => ReadsScale s step) (s.setParameters ops parms) trace := by
        intro trace hrun hcalls
        have hcons : callsOf ((Step.setParameters parms, s.setParameters ops parms) :: trace) =
            parms :: rest := congrArg (parms :: ·) hcalls
        exact (hsafe _ (Run.next hstep hrun) hcons).2
      have hread : ReadsScale (s.setParameters ops parms) .inWorkerThread := by
        have hcalls := callsOf_callTrace ops (s.setParameters ops parms) rest
        have hrun := run_callTrace ops (s.setParameters ops parms) rest
        have hstay : s.setParameters ops parms =
            (s.setParameters ops parms).step ops .inWorkerThread := rfl
        exact (hrest _ (Run.next hstay hrun) hcalls).1
      have hreadable : Readable (s.setParameters ops parms).device := by
        refine ⟨?_, fun hnone => hread ?_⟩
        · rw [(setParameters_device ops s parms).1]
          exact h.supported
        · unfold Device.queriedScales
          rw [hnone]
          rfl
      exact ⟨(readable_setParameters_iff h parms).mp hreadable, ih hreadable hrest⟩

/-- For every sequence of calls: in all runs in which other threads read the scales between
them, no read dereferences `NULL`, if and only if every mode that the calls set is registered. -/
theorem readsScale_iff (ops : ParametersClass Params) (params : Params) (calls : List CString) :
    (∀ trace, Run (fun s step s' => s' = s.step ops step)
        (EmulatedCamera.afterInitialize ops params) trace → callsOf trace = calls →
        EachStep (fun s step _ => ReadsScale s step) (EmulatedCamera.afterInitialize ops params)
          trace) ↔
      NamesRegistered ops (EmulatedCamera.afterInitialize ops params).mParameters calls := by
  constructor
  · exact namesRegistered_of_safe (readable_afterInitialize params)
  · rintro hnames trace hrun rfl
    exact eachStep_readsScale hrun (readable_afterInitialize params) hnames

end Reads

end Calls

/-! ## Flattened parameters -/

/-- The names of the keys. -/
def Key.name : Key → CString
  | KEY_MAX_EXPOSURE_COMPENSATION => CString.ofChars "max-exposure-compensation".toList
  | KEY_MIN_EXPOSURE_COMPENSATION => CString.ofChars "min-exposure-compensation".toList
  | KEY_EXPOSURE_COMPENSATION_STEP => CString.ofChars "exposure-compensation-step".toList
  | KEY_EXPOSURE_COMPENSATION => CString.ofChars "exposure-compensation".toList
  | KEY_SUPPORTED_WHITE_BALANCE => CString.ofChars "whitebalance-values".toList
  | KEY_WHITE_BALANCE => CString.ofChars "whitebalance".toList

/-- The entries of a string, the last one first: names before a `=` and values before a `;` or
the end. -/
def flatEntries (entries : List (CString × CString)) (key value : CString) (inValue : Bool) :
    CString → List (CString × CString)
  | [] => if inValue then (key, value) :: entries else entries
  | c :: rest =>
      if inValue then
        if c = 0x3B then flatEntries ((key, value) :: entries) [] [] false rest
        else flatEntries entries key (value ++ [c]) true rest
      else if c = 0x3D then flatEntries entries key [] true rest
      else flatEntries entries (key ++ [c]) [] false rest

/-- Parameters as the list of their entries; numbers are whole here, and -1 is what an entry
that is missing counts for. -/
def flatParameters : ParametersClass (List (CString × CString)) where
  unflatten := flatEntries [] [] [] false
  set := fun params key value => (key.name, value) :: params
  get := fun params key => params.lookup key.name
  getInt := fun params key => ((params.lookup key.name).bind CString.scanInt).getD (-1)
  getFloat := fun params key => ((params.lookup key.name).bind CString.scanInt).getD (-1)

/-- The supported modes of `Initialize`, with a white balance. -/
def whiteBalanceString (mode : CString) : CString :=
  Key.KEY_SUPPORTED_WHITE_BALANCE.name ++ 0x3D :: supported_white_balance ++ 0x3B ::
    Key.KEY_WHITE_BALANCE.name ++ 0x3D :: mode

theorem readsScale_daylight :
    ∀ trace, Run (fun s step s' => s' = s.step flatParameters step)
      (EmulatedCamera.afterInitialize flatParameters []) trace →
      callsOf trace = [whiteBalanceString WHITE_BALANCE_DAYLIGHT] →
      EachStep (fun s step _ => ReadsScale s step) (EmulatedCamera.afterInitialize flatParameters [])
        trace :=
  (readsScale_iff flatParameters [] _).mpr (by decide +kernel)

/-- `light` occurs in the supported modes and is none of them. -/
theorem not_readsScale_light :
    ¬∀ (calls : List CString) trace, Run (fun s step s' => s' = s.step flatParameters step)
        (EmulatedCamera.afterInitialize flatParameters []) trace → callsOf trace = calls →
      EachStep (fun s step _ => ReadsScale s step) (EmulatedCamera.afterInitialize flatParameters [])
        trace := by
  intro hall
  have hnames := namesRegistered_of_safe (readable_afterInitialize [])
    (hall [whiteBalanceString (CString.ofChars ['l', 'i', 'g', 'h', 't'])])
  revert hnames
  decide +kernel

end WhiteBalance
end Camera
end DeviceAndroVM
