import DeviceAndroVM.Camera.EmulatedCameraDevice

/-!
# The Genymotion camera device and its worker thread

`EmulatedGenyCameraDevice.cpp` and the thread of `EmulatedCameraDevice.cpp`.

* `connectDevice`, `disconnectDevice`, `startDevice`, `stopDevice` — each gives its
  status, the device and the queries it made, from the host's answer; `…_cases` is what
  it can do.
* `WorkerThread` — an `android::Thread` with its control pipe.
* `WorkerThread.run` — `Thread::run`: the new thread calls `readyToRun` later.
* `WorkerThread.step` — what the thread does: `readyToRun`, then one iteration of
  `inWorkerThread` after the other.
-/

namespace DeviceAndroVM
namespace Camera

abbrev UNKNOWN_ERROR : status_t := -2147483648

/-- The queries to the host, and the start of a thread: what can fail outside. -/
inductive Query
  | queryConnect
  | queryDisconnect
  | queryStart
  | queryStop
  | run
  deriving DecidableEq

namespace EmulatedCameraDevice

def connectDevice (dev : EmulatedCameraDevice) (answer : status_t) :
    status_t × EmulatedCameraDevice × List (Query × status_t) :=
  if !dev.isInitialized then (EINVAL, dev, [])
  else if dev.isConnected then (NO_ERROR, dev, [])
  else if answer = NO_ERROR then
    (answer, { dev with mState := .ECDS_CONNECTED }, [(.queryConnect, answer)])
  else (answer, dev, [(.queryConnect, answer)])

def disconnectDevice (dev : EmulatedCameraDevice) (answer : status_t) :
    status_t × EmulatedCameraDevice × List (Query × status_t) :=
  if !dev.isConnected then (NO_ERROR, dev, [])
  else if dev.isStarted then (EINVAL, dev, [])
  else if answer = NO_ERROR then
    (answer, { dev with mState := .ECDS_INITIALIZED }, [(.queryDisconnect, answer)])
  else (answer, dev, [(.queryDisconnect, answer)])

/-- `frame` is what `new` answers. -/
def startDevice (dev : EmulatedCameraDevice) (frame : Option Nat) (width height : Int)
    (pix_fmt : BitVec 32) (answer : status_t) :
    status_t × EmulatedCameraDevice × List (Query × status_t) :=
  if !dev.isConnected then (EINVAL, dev, [])
  else if dev.isStarted then (NO_ERROR, dev, [])
  else
    let (res, dev) := dev.commonStartDevice frame width height pix_fmt
    if res ≠ NO_ERROR then (res, dev, [])
    else if answer = NO_ERROR then
      (answer, { dev with mState := .ECDS_STARTED }, [(.queryStart, answer)])
    else (answer, dev, [(.queryStart, answer)])

def stopDevice (dev : EmulatedCameraDevice) (answer : status_t) :
    status_t × EmulatedCameraDevice × List (Query × status_t) :=
  if !dev.isStarted then (NO_ERROR, dev, [])
  else if answer = NO_ERROR then
    (answer, { dev.commonStopDevice with mState := .ECDS_CONNECTED }, [(.queryStop, answer)])
  else (answer, dev, [(.queryStop, answer)])

/-- What `connectDevice` can do. -/
theorem connectDevice_cases (dev : EmulatedCameraDevice) (answer : status_t) :
    (dev.mState = .ECDS_INITIALIZED ∧ dev.connectDevice answer =
        (answer, if answer = NO_ERROR then { dev with mState := .ECDS_CONNECTED } else dev,
          [(.queryConnect, answer)])) ∨
      (dev.mState ≠ .ECDS_INITIALIZED ∧ ∃ res, dev.connectDevice answer = (res, dev, [])) := by
  unfold connectDevice isInitialized isConnected
  cases hstate : dev.mState with
  | ECDS_CONSTRUCTED => exact Or.inr ⟨nofun, EINVAL, rfl⟩
  | ECDS_INITIALIZED =>
      refine Or.inl ⟨rfl, ?_⟩
      by_cases hanswer : answer = NO_ERROR <;> simp [hanswer]
  | ECDS_CONNECTED | ECDS_STARTED => exact Or.inr ⟨nofun, NO_ERROR, rfl⟩

/-- What `disconnectDevice` can do. -/
theorem disconnectDevice_cases (dev : EmulatedCameraDevice) (answer : status_t) :
    (dev.mState = .ECDS_CONNECTED ∧ dev.disconnectDevice answer =
        (answer, if answer = NO_ERROR then { dev with mState := .ECDS_INITIALIZED } else dev,
          [(.queryDisconnect, answer)])) ∨
      (dev.mState ≠ .ECDS_CONNECTED ∧ ∃ res, dev.disconnectDevice answer = (res, dev, [])) := by
  unfold disconnectDevice isConnected isStarted
  cases hstate : dev.mState with
  | ECDS_CONNECTED =>
      refine Or.inl ⟨rfl, ?_⟩
      by_cases hanswer : answer = NO_ERROR <;> simp [hanswer]
  | ECDS_CONSTRUCTED | ECDS_INITIALIZED => exact Or.inr ⟨nofun, NO_ERROR, rfl⟩
  | ECDS_STARTED => exact Or.inr ⟨nofun, EINVAL, rfl⟩

/-- What `stopDevice` can do. -/
theorem stopDevice_cases (dev : EmulatedCameraDevice) (answer : status_t) :
    (dev.isStarted = true ∧ dev.stopDevice answer =
        (answer, if answer = NO_ERROR then { dev.commonStopDevice with mState := .ECDS_CONNECTED }
          else dev, [(.queryStop, answer)])) ∨
      (dev.isStarted = false ∧ dev.stopDevice answer = (NO_ERROR, dev, [])) := by
  unfold stopDevice
  cases hstarted : dev.isStarted with
  | true =>
      refine Or.inl ⟨rfl, ?_⟩
      by_cases hanswer : answer = NO_ERROR <;> simp [hanswer]
  | false => exact Or.inr ⟨rfl, rfl⟩

/-- What `startDevice` can do: a device that is set up asks the host, a started one has
nothing to do, and what is not connected or cannot be set up fails. -/
theorem startDevice_cases {dev dev' : EmulatedCameraDevice} {frame : Option Nat}
    {width height : Int} {pix_fmt : BitVec 32} {answer res : status_t}
    {queries : List (Query × status_t)}
    (h : dev.startDevice frame width height pix_fmt answer = (res, dev', queries)) :
    (dev.mState = .ECDS_CONNECTED ∧ queries = [(.queryStart, res)] ∧
        dev'.mState = if res = NO_ERROR then .ECDS_STARTED else dev.mState) ∨
      (dev.isStarted = true ∧ res = NO_ERROR ∧ dev' = dev ∧ queries = []) ∨
      (res ≠ NO_ERROR ∧ dev'.mState = dev.mState ∧ queries = []) := by
  unfold startDevice at h
  split at h
  · cases h
    exact Or.inr (Or.inr ⟨nofun, rfl, rfl⟩)
  · rename_i hconnected
    split at h
    · rename_i hstarted
      cases h
      exact Or.inr (Or.inl ⟨hstarted, rfl, rfl, rfl⟩)
    · rename_i hstarted
      have hkept := commonStartDevice_mState dev frame width height pix_fmt
      dsimp only at h
      split at h
      · rename_i hsetup
        cases h
        exact Or.inr (Or.inr ⟨hsetup, hkept, rfl⟩)
      · have hstate : dev.mState = .ECDS_CONNECTED := by
          unfold isConnected at hconnected
          unfold isStarted at hstarted
          simp_all
        refine Or.inl ⟨hstate, ?_⟩
        split at h <;> cases h
        · rename_i hanswer
          simp [hanswer]
        · rename_i hanswer
          simp [hanswer]

end EmulatedCameraDevice

/-! ## The worker thread -/

/-- Where the thread stands.  It is `created` by `run`, and `ready` once `readyToRun` has
come back; an iteration of `inWorkerThread` selects, asks the host for a frame and
delivers it; `exiting`, its loop has returned `false`. -/
inductive WorkerPhase
  | idle
  | created
  | ready
  | selecting
  | timedOut
  | asking (frame : Option Nat)
  | delivering
  | delivered
  | exiting
  deriving DecidableEq

/-- `mRunning` is that the thread is not idle.  `control` is the number of messages in the
control pipe, when that is open. -/
structure WorkerThread where
  phase : WorkerPhase
  mExitPending : Bool
  mStatus : status_t
  mOneBurst : Bool
  control : Option Nat
  deriving DecidableEq

/-- What the thread does; the arguments are the answers of `pipe`, of `select` (whether it
fails) and of the host. -/
inductive WorkerStep
  | readyToRun (pipe : status_t)
  | enter
  | select (error : Bool)
  | queryFrame
  | reply (res : status_t)
  | onNextFrameAvailable
  | threadLoop
  | exit
  deriving DecidableEq

namespace WorkerThread

def init : WorkerThread := ⟨.idle, false, NO_ERROR, false, none⟩

/-- `Thread::run`; `created` is whether the system creates a thread. -/
def run (t : WorkerThread) (created : Bool) : status_t × WorkerThread :=
  if t.phase ≠ .idle then (INVALID_OPERATION, t)
  else if created then
    (NO_ERROR, { t with phase := .created, mStatus := NO_ERROR, mExitPending := false })
  else (UNKNOWN_ERROR, { t with mStatus := UNKNOWN_ERROR, mExitPending := false })

/-- A step of the thread; `frame` is `mCurrentFrame`. -/
def step (t : WorkerThread) (frame : Option Nat) : WorkerStep → Option WorkerThread
  | .readyToRun pipe =>
      if t.phase = .created then
        if pipe = NO_ERROR then
          some { t with phase := .ready, mStatus := NO_ERROR, control := some 0 }
        else some { t with phase := .ready, mStatus := pipe }
      else none
  | .enter =>
      if t.phase = .ready then
        if t.mStatus = NO_ERROR ∧ !t.mExitPending then some { t with phase := .selecting }
        else some { t with phase := .exiting }
      else none
  | .select error =>
      if t.phase = .selecting then
        match error, t.control with
        | false, some (messages + 1) =>
            some { t with phase := .exiting, control := some messages }
        | _, _ => some { t with phase := .timedOut }
      else none
  | .queryFrame =>
      if t.phase = .timedOut then some { t with phase := .asking frame } else none
  | .reply res =>
      match t.phase with
      | .asking _ =>
          if res = NO_ERROR then some { t with phase := .delivering }
          else some { t with phase := .exiting }
      | _ => none
  | .onNextFrameAvailable =>
      if t.phase = .delivering then some { t with phase := .delivered } else none
  | .threadLoop =>
      if t.phase = .delivered then
        if t.mOneBurst || t.mExitPending then
          some { t with phase := .idle, mExitPending := true }
        else some { t with phase := .selecting }
      else none
  | .exit =>
      if t.phase = .exiting then some { t with phase := .idle, mExitPending := true } else none

/-- The step writes into a frame buffer or delivers it: `queryFrame` copies the host's
reply into the buffer it was given. -/
def touchesFrame (t : WorkerThread) : WorkerStep → Bool
  | .reply res =>
      match t.phase with
      | .asking (some _) => res == NO_ERROR
      | _ => false
  | .onNextFrameAvailable => t.phase == .delivering
  | _ => false

/-- An idle thread takes no step. -/
theorem step_idle {t : WorkerThread} (h : t.phase = .idle) (frame : Option Nat) (w : WorkerStep) :
    t.step frame w = none := by
  cases w <;> simp [step, h]

end WorkerThread
end Camera
end DeviceAndroVM
