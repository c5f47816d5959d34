import DeviceAndroVM.Camera.EmulatedCameraDevice

/-!
# The preview window

`PreviewWindow.cpp`: frames of the camera device are converted into buffers that are
dequeued from the preview window and handed back to it.  All of it runs under
`mObjectLock`, so a call is one step.

* `WindowEvent` — what is done to windows, buffers and the graphics mapper.
* `FrameAnswers` — what they answer while one frame is pushed.
* `setPreviewWindow`, `startPreview`, `stopPreview`, `onNextFrameAvailable` — the calls.
* `PreviewState.run` — a call, which adds its events to the log.
-/

namespace DeviceAndroVM
namespace Camera

/-- What the preview window does; windows and buffers are known by their address. -/
inductive WindowEvent
  | set_buffers_geometry (window : Nat) (width height : Int) (res : status_t)
  | dequeue_buffer (window buffer : Nat)
  | lock_buffer (window buffer : Nat) (res : status_t)
  | mapper_lock (buffer : Nat)
  | convert (window buffer : Nat) (width height : Int)
  | set_timestamp (window : Nat) (timestamp : Int)
  | enqueue_buffer (window buffer : Nat)
  | cancel_buffer (window buffer : Nat)
  | mapper_unlock (buffer : Nat)
  deriving DecidableEq

/-- The clock, and the answers to the calls made for one frame.  The buffer of
`dequeue_buffer` and the address of `grbuffer_mapper.lock` may be `NULL`. -/
structure FrameAnswers where
  cur_mks : BitVec 64
  set_buffers_geometry : status_t
  dequeue_buffer : status_t × Option Nat
  lock_buffer : status_t
  mapper_lock : status_t × Option Nat
  deriving DecidableEq

/-- The members of `PreviewWindow`; the times are in microseconds. -/
structure PreviewWindow where
  mPreviewWindow : Option Nat
  mLastPreviewed : BitVec 64
  mPreviewAfter : BitVec 32
  mPreviewFrameWidth : Int
  mPreviewFrameHeight : Int
  mPreviewEnabled : Bool
  deriving DecidableEq

namespace PreviewWindow

/-- The constructor. -/
def init : PreviewWindow := ⟨none, 0#64, 0#32, 0, 0, false⟩

/-- `set_usage` is the window's answer; a frame rate of zero traps. -/
def setPreviewWindow (p : PreviewWindow) (window : Option Nat) (preview_fps : Int)
    (set_usage : status_t) : Option (status_t × PreviewWindow) :=
  let p := { p with
    mPreviewFrameWidth := 0
    mPreviewFrameHeight := 0
    mPreviewAfter := 0#32
    mLastPreviewed := 0#64 }
  match window with
  | none => some (NO_ERROR, { p with mPreviewWindow := none })
  | some w =>
      if set_usage = NO_ERROR then
        if preview_fps = 0 then none
        else
          some (NO_ERROR, { p with
            mPreviewAfter := BitVec.ofInt 32 ((1000000 : Int).tdiv preview_fps)
            mPreviewWindow := some w })
      else some (-set_usage, { p with mPreviewWindow := none })

def startPreview (p : PreviewWindow) : status_t × PreviewWindow :=
  (NO_ERROR, { p with mPreviewEnabled := true })

def stopPreview (p : PreviewWindow) : PreviewWindow := { p with mPreviewEnabled := false }

def isPreviewEnabled (p : PreviewWindow) : Bool := p.mPreviewEnabled

def isPreviewTime (p : PreviewWindow) (cur_mks : BitVec 64) : Bool × PreviewWindow :=
  if cur_mks - p.mLastPreviewed ≥ p.mPreviewAfter.setWidth 64 then
    (true, { p with mLastPreviewed := cur_mks })
  else (false, p)

/-- The device's size is cached before the window is told. -/
def adjustPreviewDimensions (p : PreviewWindow) (camera_dev : EmulatedCameraDevice) :
    Bool × PreviewWindow :=
  if p.mPreviewFrameWidth = camera_dev.mFrameWidth ∧
      p.mPreviewFrameHeight = camera_dev.mFrameHeight then (false, p)
  else
    (true, { p with
      mPreviewFrameWidth := camera_dev.mFrameWidth
      mPreviewFrameHeight := camera_dev.mFrameHeight })

/-- The second half of `onNextFrameAvailable`: a frame is pushed to the window. -/
def pushFrame (window : Nat) (answers : FrameAnswers) (timestamp : Int)
    (camera_dev : EmulatedCameraDevice) : List WindowEvent :=
  match answers.dequeue_buffer with
  | (_, none) => []
  | (res, some buffer) =>
      if res ≠ NO_ERROR then []
      else
        .dequeue_buffer window buffer :: .lock_buffer window buffer answers.lock_buffer ::
          if answers.lock_buffer ≠ NO_ERROR then [.cancel_buffer window buffer]
          else if answers.mapper_lock.1 ≠ NO_ERROR then [.cancel_buffer window buffer]
          else if camera_dev.getCurrentPreviewFrame answers.mapper_lock.2 = NO_ERROR then
            [.mapper_lock buffer,
              .convert window buffer camera_dev.mFrameWidth camera_dev.mFrameHeight,
              .set_timestamp window timestamp, .enqueue_buffer window buffer,
              .mapper_unlock buffer]
          else [.mapper_lock buffer, .cancel_buffer window buffer, .mapper_unlock buffer]

def onNextFrameAvailable (p : PreviewWindow) (answers : FrameAnswers) (timestamp : Int)
    (camera_dev : EmulatedCameraDevice) : PreviewWindow × List WindowEvent :=
  if !p.isPreviewEnabled then (p, [])
  else
    match p.mPreviewWindow with
    | none => (p, [])
    | some window =>
        let (time, p) := p.isPreviewTime answers.cur_mks
        if !time then (p, [])
        else
          let (adjusted, p) := p.adjustPreviewDimensions camera_dev
          if adjusted then
            let geometry : WindowEvent := .set_buffers_geometry window p.mPreviewFrameWidth
              p.mPreviewFrameHeight answers.set_buffers_geometry
            if answers.set_buffers_geometry ≠ NO_ERROR then (p, [geometry])
            else (p, geometry :: pushFrame window answers timestamp camera_dev)
          else (p, pushFrame window answers timestamp camera_dev)

end PreviewWindow

/-! ## Runs -/

/-- The calls; a frame comes with the device that delivers it. -/
inductive PreviewCall
  | setPreviewWindow (window : Option Nat) (preview_fps : Int) (set_usage : status_t)
  | startPreview
  | stopPreview
  | onNextFrameAvailable (answers : FrameAnswers) (timestamp : Int)
      (camera_dev : EmulatedCameraDevice)

/-- The preview window and everything done so far. -/
structure PreviewState where
  preview : PreviewWindow
  log : List WindowEvent

namespace PreviewState

def init : PreviewState := ⟨.init, []⟩

def run (s : PreviewState) : PreviewCall → Option PreviewState
  | .setPreviewWindow window preview_fps set_usage =>
      (s.preview.setPreviewWindow window preview_fps set_usage).map fun result =>
        { s with preview := result.2 }
  | .startPreview => some { s with preview := s.preview.startPreview.2 }
  | .stopPreview => some { s with preview := s.preview.stopPreview }
  | .onNextFrameAvailable answers timestamp camera_dev =>
      let (preview, events) := s.preview.onNextFrameAvailable answers timestamp camera_dev
      some ⟨preview, s.log ++ events⟩

end PreviewState
end Camera
end DeviceAndroVM
