import Mathlib.Data.Int.Notation
import Mathlib.Data.BitVec

/-!
# Emulated camera devices

The data of `EmulatedCameraDevice` and the functions that only work on it.

* `ECDState` — the life of a device: constructed, initialized, connected, started.
* `commonStartDevice` / `commonStopDevice` — set up and drop the frame buffer.
* `getCurrentPreviewFrame` — whether a frame can be converted for the preview.
-/

namespace DeviceAndroVM
namespace Camera

/-- `status_t`: `NO_ERROR` is zero, everything else an error. -/
abbrev status_t := Int

abbrev NO_ERROR : status_t := 0
abbrev EINVAL : status_t := 22
abbrev ENOMEM : status_t := 12
abbrev INVALID_OPERATION : status_t := -38

abbrev V4L2_PIX_FMT_YVU420 : BitVec 32 := 0x32315659#32
abbrev V4L2_PIX_FMT_YUV420 : BitVec 32 := 0x32315559#32
abbrev V4L2_PIX_FMT_NV21 : BitVec 32 := 0x3132564e#32
abbrev V4L2_PIX_FMT_NV12 : BitVec 32 := 0x3231564e#32
abbrev V4L2_PIX_FMT_RGB32 : BitVec 32 := 0x34424752#32

/-- `EmulatedCameraDeviceState`. -/
inductive ECDState
  | ECDS_CONSTRUCTED
  | ECDS_INITIALIZED
  | ECDS_CONNECTED
  | ECDS_STARTED
  deriving DecidableEq

/-- The members of `EmulatedCameraDevice`; `mCurrentFrame` is the number of the
allocation it points to. -/
structure EmulatedCameraDevice where
  mState : ECDState
  mFrameWidth : Int
  mFrameHeight : Int
  mTotalPixels : Int
  mPixelFormat : BitVec 32
  mFrameBufferSize : Int
  mCurrentFrame : Option Nat
  deriving DecidableEq

namespace EmulatedCameraDevice

/-- A device after `Initialize`. -/
def initialized : EmulatedCameraDevice := ⟨.ECDS_INITIALIZED, 0, 0, 0, 0#32, 0, none⟩

def isInitialized (dev : EmulatedCameraDevice) : Bool := dev.mState != .ECDS_CONSTRUCTED

def isConnected (dev : EmulatedCameraDevice) : Bool :=
  dev.mState == .ECDS_CONNECTED || dev.mState == .ECDS_STARTED

def isStarted (dev : EmulatedCameraDevice) : Bool := dev.mState == .ECDS_STARTED

/-- The formats the frame buffer may have; a preview frame is never RGB. -/
def isYuv (pix_fmt : BitVec 32) : Bool :=
  pix_fmt == V4L2_PIX_FMT_YVU420 || pix_fmt == V4L2_PIX_FMT_YUV420 ||
    pix_fmt == V4L2_PIX_FMT_NV21 || pix_fmt == V4L2_PIX_FMT_NV12

/-- `frame` is what `new` answers. -/
def commonStartDevice (dev : EmulatedCameraDevice) (frame : Option Nat) (width height : Int)
    (pix_fmt : BitVec 32) : status_t × EmulatedCameraDevice :=
  if isYuv pix_fmt then
    let dev := { dev with
      mFrameBufferSize := (width * height * 12).tdiv 8
      mFrameWidth := width
      mFrameHeight := height
      mPixelFormat := pix_fmt
      mTotalPixels := width * height
      mCurrentFrame := frame }
    if frame = none then (ENOMEM, dev) else (NO_ERROR, dev)
  else (EINVAL, dev)

def commonStopDevice (dev : EmulatedCameraDevice) : EmulatedCameraDevice :=
  { dev with
    mFrameWidth := 0
    mFrameHeight := 0
    mTotalPixels := 0
    mPixelFormat := 0#32
    mCurrentFrame := none }

/-- The converters write every pixel of a frame of the device's size. -/
def getCurrentPreviewFrame (dev : EmulatedCameraDevice) (buffer : Option Nat) : status_t :=
  if !dev.isStarted then EINVAL
  else if dev.mCurrentFrame = none ∨ buffer = none then EINVAL
  else if isYuv dev.mPixelFormat then NO_ERROR
  else EINVAL

@[simp] theorem commonStartDevice_mState (dev : EmulatedCameraDevice) (frame : Option Nat)
    (width height : Int) (pix_fmt : BitVec 32) :
    (dev.commonStartDevice frame width height pix_fmt).2.mState = dev.mState := by
  unfold commonStartDevice
  split
  · dsimp only
    split <;> rfl
  · rfl

end EmulatedCameraDevice
end Camera
end DeviceAndroVM
