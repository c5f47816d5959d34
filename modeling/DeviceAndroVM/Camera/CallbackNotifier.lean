import Mathlib.Data.BitVec
import Mathlib.Logic.Function.Basic
import DeviceAndroVM.Library.Cursor

/-!
# The camera's callback notifier

`CallbackNotifier` hands frames to the framework.  The worker thread of the
camera device runs `onNextFrameAvailable`; the framework calls
`releaseRecordingFrame` from a thread of its own or from inside a callback, that
is, on the worker thread.  Nothing of this is under a lock, so both functions
are cut into their accesses to shared memory.

* `CameraMemory` — a `camera_memory_t` and the address of its data.
* `CallbackNotifier` — the fields of the class.
* `Worker` / `Release` — where the two functions stand.
* `NotifierSystem` — both, the memory given out, and the frames the framework has.
* `deliver`, `resume`, `callbackReturns` — the steps of `onNextFrameAvailable`.
* `releaseRecordingFrame`, `releaseStep` — the steps of the release.
-/

namespace DeviceAndroVM
namespace Camera

open Library

/-! ## The class -/

/-- A `camera_memory_t`: the handle tells two requests of memory apart, `data` is the
address of the bytes, which may be reused once the memory is released. -/
structure CameraMemory where
  handle : Nat
  data : Nat
  deriving DecidableEq

abbrev CAMERA_MSG_SHUTTER : BitVec 32 := 0x2#32
abbrev CAMERA_MSG_PREVIEW_FRAME : BitVec 32 := 0x10#32
abbrev CAMERA_MSG_VIDEO_FRAME : BitVec 32 := 0x20#32
abbrev CAMERA_MSG_COMPRESSED_IMAGE : BitVec 32 := 0x100#32
abbrev CAMERA_MSG_RAW_IMAGE_NOTIFY : BitVec 32 := 0x200#32

/-- The members of `CallbackNotifier`; the times are in nanoseconds. -/
structure CallbackNotifier where
  mCameraMemoryTs : List CameraMemory
  mLastFrameTimestamp : Int
  mFrameRefreshFreq : Int
  mMessageEnabler : BitVec 32
  mVideoRecEnabled : Bool
  mTakingPicture : Bool
  deriving DecidableEq

namespace CallbackNotifier

/-- The constructor. -/
def init : CallbackNotifier := ⟨[], 0, 0, 0#32, false, false⟩

def isMessageEnabled (n : CallbackNotifier) (msg_type : BitVec 32) : Bool :=
  n.mMessageEnabler &&& msg_type != 0#32

def isVideoRecordingEnabled (n : CallbackNotifier) : Bool := n.mVideoRecEnabled

def isNewVideoFrameTime (n : CallbackNotifier) (timestamp : Int) : Bool × CallbackNotifier :=
  if timestamp - n.mLastFrameTimestamp ≥ n.mFrameRefreshFreq then
    (true, { n with mLastFrameTimestamp := timestamp })
  else (false, n)

def enableMessage (n : CallbackNotifier) (msg_type : BitVec 32) : CallbackNotifier :=
  { n with mMessageEnabler := n.mMessageEnabler ||| msg_type }

def disableMessage (n : CallbackNotifier) (msg_type : BitVec 32) : CallbackNotifier :=
  { n with mMessageEnabler := n.mMessageEnabler &&& ~~~msg_type }

/-- Dividing by a rate of zero traps. -/
def enableVideoRecording (n : CallbackNotifier) (fps : Int) : Option CallbackNotifier :=
  if fps = 0 then none
  else
    some { n with
      mVideoRecEnabled := true
      mLastFrameTimestamp := 0
      mFrameRefreshFreq := (1000000000 : Int).tdiv fps }

def disableVideoRecording (n : CallbackNotifier) : CallbackNotifier :=
  { n with mVideoRecEnabled := false, mLastFrameTimestamp := 0, mFrameRefreshFreq := 0 }

def setTakingPicture (n : CallbackNotifier) (taking : Bool) : CallbackNotifier :=
  { n with mTakingPicture := taking }

/-- The list of frames is left as it is. -/
def cleanupCBNotifier (n : CallbackNotifier) : CallbackNotifier :=
  { n with
    mMessageEnabler := 0#32
    mLastFrameTimestamp := 0
    mFrameRefreshFreq := 0
    mVideoRecEnabled := false
    mTakingPicture := false }

/-- The calls of the framework that only set members. -/
inductive Setting
  | enableMessage (msg_type : BitVec 32)
  | disableMessage (msg_type : BitVec 32)
  | enableVideoRecording (fps : Int)
  | disableVideoRecording
  | setTakingPicture (taking : Bool)
  | cleanupCBNotifier
  deriving DecidableEq

def set (n : CallbackNotifier) : Setting → Option CallbackNotifier
  | .enableMessage msg_type => some (n.enableMessage msg_type)
  | .disableMessage msg_type => some (n.disableMessage msg_type)
  | .enableVideoRecording fps => n.enableVideoRecording fps
  | .disableVideoRecording => some n.disableVideoRecording
  | .setTakingPicture taking => some (n.setTakingPicture taking)
  | .cleanupCBNotifier => some n.cleanupCBNotifier

@[simp] theorem isNewVideoFrameTime_mCameraMemoryTs (n : CallbackNotifier) (timestamp : Int) :
    (n.isNewVideoFrameTime timestamp).2.mCameraMemoryTs = n.mCameraMemoryTs := by
  unfold isNewVideoFrameTime
  split <;> rfl

/-- No setting touches the list of frames. -/
theorem set_mCameraMemoryTs {n n' : CallbackNotifier} {setting : Setting}
    (h : n.set setting = some n') : n'.mCameraMemoryTs = n.mCameraMemoryTs := by
  cases setting with
  | enableVideoRecording fps =>
      change n.enableVideoRecording fps = some n' at h
      unfold enableVideoRecording at h
      split at h
      · cases h
      · cases h
        rfl
  | _ =>
      cases h
      rfl

end CallbackNotifier

/-! ## The two functions in progress -/

/-- Where the worker thread stands in `onNextFrameAvailable`: in a callback of the
framework, or before the part of the function that is named. -/
inductive Worker
  | idle
  | videoCallback (cam_buff : CameraMemory)
  | recordFrame (cam_buff : CameraMemory)
  | previewFrame
  | previewCallback (cam_buff : CameraMemory)
  | picture
  | shutterCallback
  | rawImage
  | rawCallback
  | compressedImage
  | compressedCallback (jpeg_buff : CameraMemory)
  deriving DecidableEq

namespace Worker

/-- The framework's code runs on the worker thread. -/
def inCallback : Worker → Bool
  | videoCallback _ | previewCallback _ | shutterCallback | rawCallback | compressedCallback _ =>
      true
  | _ => false

/-- The video frame that is handed out and not yet in the list. -/
def unrecorded : Worker → Option CameraMemory
  | videoCallback cam_buff | recordFrame cam_buff => some cam_buff
  | _ => none

/-- The memory that `onNextFrameAvailable` itself releases after the callback. -/
def buffer : Worker → Option CameraMemory
  | previewCallback cam_buff => some cam_buff
  | compressedCallback jpeg_buff => some jpeg_buff
  | _ => none

end Worker

/-- The thread that runs a release: the worker thread inside a callback, or the
framework's own. -/
inductive Caller
  | callback
  | framework
  deriving DecidableEq

/-- A release in progress: the frame the framework gives back, and the node the
iterator stands on, while searching or before `erase`. -/
inductive Release
  | searching (frame node : CameraMemory)
  | erasing (frame node : CameraMemory)
  deriving DecidableEq

/-- The frame a release is for. -/
def Release.frame : Release → CameraMemory
  | searching frame _ => frame
  | erasing frame _ => frame

/-- What `mGetMemoryCB` answers. -/
inductive MemoryAnswer
  | null
  | nullData
  | memory (data : Nat)
  deriving DecidableEq

/-- The notifier, its two threads and the memory.  `released` logs the calls of
`camera_memory_t::release`; the framework holds the frames `held` and has given back
those in `returned`.  `undefined` is set when a node or a memory is read after it was
freed: nothing is promised from there on. -/
structure NotifierSystem where
  notifier : CallbackNotifier
  worker : Worker
  calls : Caller → Option Release
  allocated : Nat
  live : List CameraMemory
  released : List CameraMemory
  held : List CameraMemory
  returned : List CameraMemory
  undefined : Bool

namespace NotifierSystem

def init : NotifierSystem := ⟨.init, .idle, fun _ => none, 0, [], [], [], [], false⟩

/-! ## Memory -/

/-- Memory in use is not given out again. -/
def mGetMemoryCB (s : NotifierSystem) :
    MemoryAnswer → Option (NotifierSystem × Option CameraMemory)
  | .memory data =>
      if ∃ m ∈ s.live, m.data = data then none
      else
        let memory : CameraMemory := ⟨s.allocated, data⟩
        some ({ s with allocated := s.allocated + 1, live := memory :: s.live }, some memory)
  | _ => some (s, none)

/-- `cam_buff->release(cam_buff)`. -/
def release (s : NotifierSystem) (memory : CameraMemory) : NotifierSystem :=
  { s with live := s.live.filter (· ≠ memory), released := memory :: s.released }

/-! ## `onNextFrameAvailable` -/

/-- The part for video frames, up to the call of `mDataCBTimestamp`. -/
def deliver (s : NotifierSystem) (timestamp : Int) (answer : MemoryAnswer) :
    Option NotifierSystem :=
  if s.worker = .idle then
    if s.notifier.isMessageEnabled CAMERA_MSG_VIDEO_FRAME && s.notifier.isVideoRecordingEnabled then
      let (isNew, notifier) := s.notifier.isNewVideoFrameTime timestamp
      if isNew then
        match { s with notifier := notifier }.mGetMemoryCB answer with
        | none => none
        | some (s', none) => some { s' with worker := .previewFrame }
        | some (s', some cam_buff) =>
            some { s' with worker := .videoCallback cam_buff, held := cam_buff :: s'.held }
      else some { s with notifier := notifier, worker := .previewFrame }
    else some { s with worker := .previewFrame }
  else none

/-- The part that `worker` names, up to the next callback or the end of the function.
`compressed` tells whether the frame could be compressed. -/
def resume (s : NotifierSystem) (answer : MemoryAnswer) (compressed : Bool) :
    Option NotifierSystem :=
  match s.worker with
  | .recordFrame cam_buff =>
      some { s with
        notifier := { s.notifier with
          mCameraMemoryTs := s.notifier.mCameraMemoryTs ++ [cam_buff] }
        worker := .previewFrame }
  | .previewFrame =>
      if s.notifier.isMessageEnabled CAMERA_MSG_PREVIEW_FRAME then
        match s.mGetMemoryCB answer with
        | none => none
        | some (s', none) => some { s' with worker := .picture }
        | some (s', some cam_buff) => some { s' with worker := .previewCallback cam_buff }
      else some { s with worker := .picture }
  | .picture =>
      if s.notifier.mTakingPicture then
        let s := { s with notifier := s.notifier.setTakingPicture false }
        if s.notifier.isMessageEnabled CAMERA_MSG_SHUTTER then
          some { s with worker := .shutterCallback }
        else some { s with worker := .rawImage }
      else some { s with worker := .idle }
  | .rawImage =>
      if s.notifier.isMessageEnabled CAMERA_MSG_RAW_IMAGE_NOTIFY then
        some { s with worker := .rawCallback }
      else some { s with worker := .compressedImage }
  | .compressedImage =>
      if s.notifier.isMessageEnabled CAMERA_MSG_COMPRESSED_IMAGE && compressed then
        match s.mGetMemoryCB answer with
        | none => none
        | some (s', none) => some { s' with worker := .idle }
        | some (s', some jpeg_buff) => some { s' with worker := .compressedCallback jpeg_buff }
      else some { s with worker := .idle }
  | _ => none

/-- The callback comes back, after every release made inside it. -/
def callbackReturns (s : NotifierSystem) : Option NotifierSystem :=
  match s.calls .callback with
  | some _ => none
  | none =>
      match s.worker with
      | .videoCallback cam_buff => some { s with worker := .recordFrame cam_buff }
      | .previewCallback cam_buff => some { s.release cam_buff with worker := .picture }
      | .shutterCallback => some { s with worker := .rawImage }
      | .rawCallback => some { s with worker := .compressedImage }
      | .compressedCallback jpeg_buff => some { s.release jpeg_buff with worker := .idle }
      | _ => none

/-! ## `releaseRecordingFrame` -/

def setCall (s : NotifierSystem) (c : Caller) (call : Option Release) : NotifierSystem :=
  { s with calls := Function.update s.calls c call }

/-- The release of the frame comes back to the framework. -/
def returns (s : NotifierSystem) (c : Caller) (frame : CameraMemory) : NotifierSystem :=
  { s.setCall c none with returned := frame :: s.returned }

/-- The framework gives back a frame it holds: `opaque` is the frame's data, and the
search starts at `mCameraMemoryTs.begin()`. -/
def releaseRecordingFrame (s : NotifierSystem) (c : Caller) (frame : CameraMemory) :
    Option NotifierSystem :=
  if frame ∈ s.held ∧ s.calls c = none ∧ (c = .callback → s.worker.inCallback) then
    let s := { s with held := s.held.filter (· ≠ frame) }
    match s.notifier.mCameraMemoryTs.head? with
    | none => some (s.returns c frame)
    | some node => some (s.setCall c (some (.searching frame node)))
  else none

/-- One turn of the loop, or the `erase` after it.  The comparison of an iterator with
`end()` reads nothing shared, so it belongs to the step that moves the iterator. -/
def releaseStep (s : NotifierSystem) (c : Caller) : Option NotifierSystem :=
  match s.calls c with
  | none => none
  | some (.searching frame node) =>
      if node ∈ s.notifier.mCameraMemoryTs ∧ node ∉ s.released then
        if node.data = frame.data then
          some ((s.release node).setCall c (some (.erasing frame node)))
        else
          match nextNode s.notifier.mCameraMemoryTs node with
          | none => some (s.returns c frame)
          | some next => some (s.setCall c (some (.searching frame next)))
      else some { s with undefined := true }
  | some (.erasing frame node) =>
      if node ∈ s.notifier.mCameraMemoryTs then
        some ({ s with
          notifier := { s.notifier with
            mCameraMemoryTs := s.notifier.mCameraMemoryTs.erase node } }.returns c frame)
      else some { s with undefined := true }

/-! ## Runs -/

/-- The steps of the two threads. -/
inductive Action
  | deliver (timestamp : Int) (answer : MemoryAnswer)
  | resume (answer : MemoryAnswer) (compressed : Bool)
  | callbackReturns
  | releaseRecordingFrame (c : Caller) (frame : CameraMemory)
  | releaseStep (c : Caller)
  | set (setting : CallbackNotifier.Setting)
  deriving DecidableEq

def run (s : NotifierSystem) : Action → Option NotifierSystem
  | .deliver timestamp answer => s.deliver timestamp answer
  | .resume answer compressed => s.resume answer compressed
  | .callbackReturns => s.callbackReturns
  | .releaseRecordingFrame c frame => s.releaseRecordingFrame c frame
  | .releaseStep c => s.releaseStep c
  | .set setting => (s.notifier.set setting).map fun n => { s with notifier := n }

end NotifierSystem
end Camera
end DeviceAndroVM
