import DeviceAndroVM.Camera.EmulatedGenyCameraDevice
import DeviceAndroVM.Library.Resumption
import Mathlib.Logic.Function.Basic

/-!
# The camera and its API thread

`EmulatedCamera.cpp` and `EmulatedGenyCamera.cpp`: one API thread calls the camera while
the worker thread of its device runs.  A call is a program of actions on what both
threads share; the worker may take steps between any two of them.

* `CameraParameters`, `CameraState` — the parameters, and what the threads share.
* `Act`, `CameraState.perform` — the actions of the API thread.
* `stopThread`, `startDeliveringFrames`, `doStartPreview`, `doStopPreview`,
  `takePicture`, `cleanupCamera` — the functions of the source as programs.
* `CameraSystem.run` — a step of either thread; `previewStarted` are those of a call.
-/

namespace DeviceAndroVM
namespace Camera

open Library

/-! ## What the threads share -/

/-- The names of the pixel formats in the parameters. -/
inductive FormatName
  | PIXEL_FORMAT_YUV420P
  | PIXEL_FORMAT_RGBA8888
  | PIXEL_FORMAT_YUV420SP
  | PIXEL_FORMAT_JPEG
  | other
  deriving DecidableEq

/-- The parameters the camera reads; a format that is `none` is not set.  `recordingHint`
is whether `RECORDING_HINT_KEY` is `true`. -/
structure CameraParameters where
  pictureSize : Int × Int
  previewSize : Int × Int
  videoSize : Option (Int × Int)
  pictureFormat : Option FormatName
  previewFormat : Option FormatName
  videoFrameFormat : Option FormatName
  recordingHint : Bool
  jpegQuality : Int
  deriving DecidableEq

/-- The camera, its device and its worker thread.  `freed` is that `stopDevice` has freed
the frame buffer and the device has not been started since; `asked` are the queries of
the call in progress, oldest first. -/
structure CameraState where
  device : EmulatedCameraDevice
  thread : WorkerThread
  mParameters : CameraParameters
  mPreviewEnabled : Bool
  mTakingPicture : Bool
  mJpegQuality : Int
  allocated : Nat
  freed : Bool
  asked : List (Query × status_t)
  deriving DecidableEq

/-- The actions of the API thread. -/
inductive Act
  | isPreviewEnabled
  | startPreview
  | stopPreview
  | isInitialized
  | isStarted
  | isConnected
  | connectDevice
  | disconnectDevice
  | startDevice (width height : Int) (pix_fmt : BitVec 32)
  | stopDevice
  | setOneBurst (one_burst : Bool)
  | run
  | threadControlOpen
  | writeStop
  | requestExit
  | waitForExit
  | closeControl
  | setJpegQuality (jpeg_quality : Int)
  | setTakingPicture (taking : Bool)
  | cleanupCBNotifier
  | setParameters (params : CameraParameters)
  | dereferenceNull

/-- What an action gives back. -/
@[reducible] def Act.Resp : Act → Type
  | isPreviewEnabled | isInitialized | isStarted | isConnected | threadControlOpen => Bool
  | startPreview | connectDevice | disconnectDevice | startDevice _ _ _ | stopDevice | run
  | writeStop | waitForExit => status_t
  | _ => Unit

/-- What the host and the system answer to an action: a status, and whether memory or a
thread could be had. -/
structure Answer where
  status : status_t
  granted : Bool
  deriving DecidableEq

namespace CameraState

/-- A camera after `Initialize`. -/
def initialized (params : CameraParameters) : CameraState :=
  ⟨.initialized, .init, params, false, false, 90, 0, false, []⟩

/-- An action of the API thread.  Waiting for the thread has no result while that runs,
and reading through a null pointer never has one. -/
def perform (s : CameraState) (answer : Answer) : (x : Act) → Option (x.Resp × CameraState)
  | .isPreviewEnabled => some (s.mPreviewEnabled, s)
  | .startPreview => some (NO_ERROR, { s with mPreviewEnabled := true })
  | .stopPreview => some ((), { s with mPreviewEnabled := false })
  | .isInitialized => some (s.device.isInitialized, s)
  | .isStarted => some (s.device.isStarted, s)
  | .isConnected => some (s.device.isConnected, s)
  | .connectDevice =>
      let (res, device, queries) := s.device.connectDevice answer.status
      some (res, { s with device := device, asked := s.asked ++ queries })
  | .disconnectDevice =>
      let (res, device, queries) := s.device.disconnectDevice answer.status
      some (res, { s with device := device, asked := s.asked ++ queries })
  | .startDevice width height pix_fmt =>
      let frame := if answer.granted then some s.allocated else none
      let (res, device, queries) := s.device.startDevice frame width height pix_fmt answer.status
      some (res, { s with
        device := device
        allocated := s.allocated + 1
        freed := s.freed && !device.isStarted
        asked := s.asked ++ queries })
  | .stopDevice =>
      let (res, device, queries) := s.device.stopDevice answer.status
      some (res, { s with
        device := device
        freed := s.freed || (s.device.isStarted && !device.isStarted)
        asked := s.asked ++ queries })
  | .setOneBurst one_burst =>
      some ((), { s with thread := { s.thread with mOneBurst := one_burst } })
  | .run =>
      let (res, thread) := s.thread.run answer.granted
      some (res, { s with thread := thread, asked := s.asked ++ [(.run, res)] })
  | .threadControlOpen => some (s.thread.control.isSome, s)
  | .writeStop =>
      if answer.status = NO_ERROR then
        some (NO_ERROR, { s with
          thread := { s.thread with control := s.thread.control.map (· + 1) } })
      else some (answer.status, s)
  | .requestExit => some ((), { s with thread := { s.thread with mExitPending := true } })
  | .waitForExit =>
      if s.thread.phase = .idle then
        some (s.thread.mStatus, { s with thread := { s.thread with mExitPending := false } })
      else none
  | .closeControl => some ((), { s with thread := { s.thread with control := none } })
  | .setJpegQuality jpeg_quality => some ((), { s with mJpegQuality := jpeg_quality })
  | .setTakingPicture taking => some ((), { s with mTakingPicture := taking })
  | .cleanupCBNotifier => some ((), { s with mTakingPicture := false, mJpegQuality := 90 })
  | .setParameters params => some ((), { s with mParameters := params })
  | .dereferenceNull => none

/-- A step of the worker thread; `onNextFrameAvailable` takes the picture that was asked
for. -/
def worker (s : CameraState) (w : WorkerStep) : Option CameraState :=
  (s.thread.step s.device.mCurrentFrame w).map fun thread =>
    { s with
      thread := thread
      mTakingPicture := s.mTakingPicture && w != .onNextFrameAvailable }

end CameraState

/-! ## The functions of the source -/

/-- Programs of the API thread. -/
abbrev CameraProg := Prog Act Act.Resp

/-- The program of a single action. -/
abbrev exec (x : Act) : CameraProg x.Resp := Prog.perform x

/-- `WorkerThread::stopThread`; `requestExitAndWait` is the request and the waiting. -/
def stopThread : CameraProg status_t := do
  if ← exec .threadControlOpen then
    let wres ← exec .writeStop
    if wres = NO_ERROR then
      exec .requestExit
      let res ← exec .waitForExit
      if res = NO_ERROR then
        exec .closeControl
        return res
      else return res
    else return wres
  else return EINVAL

def stopWorkerThread : CameraProg status_t := do
  if ← exec .isInitialized then stopThread else return EINVAL

/-- `startWorkerThread` with `WorkerThread::startThread`. -/
def startWorkerThread (one_burst : Bool) : CameraProg status_t := do
  if ← exec .isInitialized then
    exec (.setOneBurst one_burst)
    exec .run
  else return EINVAL

def startDeliveringFrames (one_burst : Bool) : CameraProg status_t := do
  if ← exec .isStarted then startWorkerThread one_burst else return EINVAL

def stopDeliveringFrames : CameraProg status_t := do
  if ← exec .isStarted then stopWorkerThread else return NO_ERROR

/-- The device is stopped whatever the result: `doStartPreview` and `takePicture` begin
with this. -/
def stopIfStarted : CameraProg Unit := do
  if ← exec .isStarted then
    let _ ← stopDeliveringFrames
    let _ ← exec .stopDevice
    return ()
  else return ()

/-- The size and the format of preview frames. -/
def previewFormat (params : CameraParameters) : Option FormatName :=
  let pix_fmt := if params.recordingHint then params.videoFrameFormat else none
  match pix_fmt with
  | some format => some format
  | none => params.previewFormat

def previewFourcc : FormatName → Option (BitVec 32)
  | .PIXEL_FORMAT_YUV420P => some V4L2_PIX_FMT_YUV420
  | .PIXEL_FORMAT_RGBA8888 => some V4L2_PIX_FMT_RGB32
  | .PIXEL_FORMAT_YUV420SP => some V4L2_PIX_FMT_NV21
  | .PIXEL_FORMAT_JPEG | .other => none

/-- There is no format, or it is unsupported: the second half of `doStartPreview` ends. -/
def rejectPreview : CameraProg status_t := do
  exec .stopPreview
  return EINVAL

/-- `doStartPreview` from the connected device on. -/
def startPreviewDevice (params : CameraParameters) : CameraProg status_t :=
  let (width, height) := params.videoSize.getD params.previewSize
  match (previewFormat params).bind previewFourcc with
  | none => rejectPreview
  | some org_fmt => do
      let res ← exec (.startDevice width height org_fmt)
      if res ≠ NO_ERROR then
        exec .stopPreview
        return res
      else
        let res ← startDeliveringFrames false
        if res ≠ NO_ERROR then
          let _ ← exec .stopDevice
          exec .stopPreview
          return res
        else return res

def doStartPreview (params : CameraParameters) : CameraProg status_t := do
  stopIfStarted
  let res ← exec .startPreview
  if res ≠ NO_ERROR then return res
  else if ← exec .isConnected then startPreviewDevice params
  else
    let res ← exec .connectDevice
    if res ≠ NO_ERROR then
      exec .stopPreview
      return res
    else startPreviewDevice params

/-- The preview stays on when the device does not stop; the result is `NO_ERROR` either
way. -/
def doStopPreview : CameraProg status_t := do
  if ← exec .isPreviewEnabled then
    if ← exec .isStarted then
      let _ ← stopDeliveringFrames
      let res ← exec .stopDevice
      if res = NO_ERROR then
        exec .stopPreview
        return NO_ERROR
      else return NO_ERROR
    else
      exec .stopPreview
      return NO_ERROR
  else return NO_ERROR

/-- A preview that is on is stopped. -/
def stopForPicture (preview_on : Bool) : CameraProg Unit := do
  if preview_on then
    let _ ← doStopPreview
    return ()
  else return ()

/-- The preview that was on is started again. -/
def restorePreview (preview_on : Bool) (params : CameraParameters) : CameraProg Unit := do
  if preview_on then
    let _ ← doStartPreview params
    return ()
  else return ()

/-- A picture takes JPEG frames from NV21 ones. -/
def pictureFourcc : FormatName → Option (BitVec 32)
  | .PIXEL_FORMAT_YUV420P => some V4L2_PIX_FMT_YUV420
  | .PIXEL_FORMAT_RGBA8888 => some V4L2_PIX_FMT_RGB32
  | .PIXEL_FORMAT_YUV420SP => some V4L2_PIX_FMT_NV21
  | .PIXEL_FORMAT_JPEG => some V4L2_PIX_FMT_NV21
  | .other => none

/-- `takePicture` from the stopped device on. -/
def startPicture (preview_on : Bool) (params : CameraParameters) (org_fmt : BitVec 32) :
    CameraProg status_t := do
  let res ← exec (.startDevice params.pictureSize.1 params.pictureSize.2 org_fmt)
  if res ≠ NO_ERROR then
    restorePreview preview_on params
    return res
  else
    exec (.setJpegQuality (if params.jpegQuality ≤ 0 then 90 else params.jpegQuality))
    exec (.setTakingPicture true)
    let res ← startDeliveringFrames true
    if res ≠ NO_ERROR then
      exec (.setTakingPicture false)
      restorePreview preview_on params
      return res
    else return res

/-- `strcmp` reads the picture format also when it is not set. -/
def takePicture (params : CameraParameters) : CameraProg status_t :=
  match params.pictureFormat with
  | none => do
      exec .dereferenceNull
      return EINVAL
  | some pix_fmt =>
      match pictureFourcc pix_fmt with
      | none => return EINVAL
      | some org_fmt => do
          let preview_on ← exec .isPreviewEnabled
          stopForPicture preview_on
          stopIfStarted
          startPicture preview_on params org_fmt

/-- The disconnecting half of `cleanupCamera`. -/
def disconnectCamera : CameraProg status_t := do
  if ← exec .isConnected then
    let res ← exec .disconnectDevice
    if res ≠ NO_ERROR then return -res
    else
      exec .cleanupCBNotifier
      return NO_ERROR
  else
    exec .cleanupCBNotifier
    return NO_ERROR

def cleanupCamera : CameraProg status_t := do
  let res ← doStopPreview
  if res ≠ NO_ERROR then return -res
  else if ← exec .isStarted then
    let _ ← stopDeliveringFrames
    let res ← exec .stopDevice
    if res ≠ NO_ERROR then return -res
    else disconnectCamera
  else disconnectCamera

/-! ## The calls -/

/-- The calls of the camera API.  `dims` are the dimensions in the system property that
overrides the sizes, when it is set. -/
inductive CameraCall
  | connectCamera
  | startPreview (dims : Option (Int × Int))
  | stopPreview
  | takePicture
  | setParameters (params : CameraParameters)
  | releaseCamera
  | closeCamera
  deriving DecidableEq

/-- The sizes of `EmulatedGenyCamera::startPreview`. -/
def overrideSize (params : CameraParameters) : Option (Int × Int) → CameraParameters
  | none => params
  | some dims => { params with previewSize := dims, pictureSize := dims }

/-- What a call does, given the parameters when it is made. -/
def CameraCall.program (params : CameraParameters) : CameraCall → CameraProg status_t
  | connectCamera => do
      let res ← exec .connectDevice
      return -res
  | startPreview dims => do
      exec (.setParameters (overrideSize params dims))
      let res ← doStartPreview (overrideSize params dims)
      return -res
  | stopPreview => doStopPreview
  | takePicture => Camera.takePicture params
  | setParameters params => do
      exec (.setParameters params)
      return NO_ERROR
  | releaseCamera => cleanupCamera
  | closeCamera => cleanupCamera

/-- A call in progress: what it is, the preview and the device when it was made, and what
is left of it. -/
structure CallInProgress where
  call : CameraCall
  preview : Bool
  mState : ECDState
  program : CameraProg status_t

/-- The camera with its two threads. -/
structure CameraSystem where
  shared : CameraState
  api : Option CallInProgress

/-- The steps: a call is made, performs its next action, or returns; or the worker takes a
step. -/
inductive CameraStep
  | call (call : CameraCall)
  | act (answer : Answer)
  | returns
  | worker (w : WorkerStep)
  deriving DecidableEq

namespace CameraSystem

def initialized (params : CameraParameters) : CameraSystem := ⟨.initialized params, none⟩

def run (s : CameraSystem) : CameraStep → Option CameraSystem
  | .call call =>
      match s.api with
      | some _ => none
      | none =>
          some ⟨{ s.shared with asked := [] }, some
            { call := call
              preview := s.shared.mPreviewEnabled
              mState := s.shared.device.mState
              program := call.program s.shared.mParameters }⟩
  | .act answer =>
      match s.api with
      | some { call, preview, mState, program := .act x k } =>
          (s.shared.perform answer x).map fun (r, shared) =>
            ⟨shared, some ⟨call, preview, mState, k r⟩⟩
      | _ => none
  | .returns =>
      match s.api with
      | some { program := .ret _, .. } => some ⟨s.shared, none⟩
      | _ => none
  | .worker w => (s.shared.worker w).map fun shared => ⟨shared, s.api⟩

end CameraSystem

/-! ## Some steps of a run -/

/-- The parameters of a camera that takes NV21 frames. -/
def nv21Parameters : CameraParameters :=
  ⟨(640, 480), (640, 480), none, some .PIXEL_FORMAT_JPEG, some .PIXEL_FORMAT_YUV420SP, none,
    false, 90⟩

/-- The API thread takes `n` actions, and nothing fails. -/
def succeeding (n : Nat) : List CameraStep := List.replicate n (.act ⟨NO_ERROR, true⟩)

/-- The preview is started. -/
def previewStarted : List CameraStep := .call (.startPreview none) :: succeeding 10 ++ [.returns]

end Camera
end DeviceAndroVM
