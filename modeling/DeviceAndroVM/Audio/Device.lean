import DeviceAndroVM.Library.Transition
import Mathlib.Data.BitVec
import Mathlib.Logic.Function.Basic

/-!
# The streams of the audio device

The device knows one active stream of each kind; a stream leaves standby with its first
write or read and returns to it when it is told to, when it is closed, when the routing
changes to or from SCO, or when the other kind needs the other group of sample rates.

* `Streams` — the open streams of one kind and the active one.
* `Device` — both kinds, the routing and the rate of the output.
* `doStandby`, `startOutputStream`, `startInputStream` — what moves the active streams.
* `step` — the calls of the hardware interface, each under the lock of the device.
-/

namespace DeviceAndroVM
namespace Audio

/-- The address of a stream. -/
abbrev Handle := Nat

/-- A `pcm` pointer; `closed` is one that was given to `pcm_close` and not replaced. -/
inductive Pcm
  | null
  | opened
  | closed
  deriving DecidableEq, Repr

/-- What `pcm_open` returns: nothing, a pcm that is not ready, or one that is. -/
inductive PcmOpen
  | null
  | notReady
  | ready
  deriving DecidableEq, Repr

def PcmOpen.pointer : PcmOpen → Pcm
  | null => .null
  | notReady => .opened
  | ready => .opened

/-- `pcm && !pcm_is_ready(pcm)`. -/
def PcmOpen.failed : PcmOpen → Bool
  | notReady => true
  | null => false
  | ready => false

structure Stream where
  pcm : Pcm
  standby : Bool
  deriving DecidableEq, Repr

/-- A stream that has just been opened. -/
def Stream.start : Stream := ⟨.null, true⟩

/-- The open streams of one kind; `active` is `active_out` or `active_in`. -/
structure Streams where
  active : Option Handle
  stream : Handle → Option Stream

namespace Streams

def set (t : Streams) (i : Handle) (s : Option Stream) : Streams :=
  { t with stream := Function.update t.stream i s }

/-- The stream is put in standby; the active one is forgotten, whichever it is. -/
def doStandby (t : Streams) (i : Handle) : Streams :=
  match t.stream i with
  | none => t
  -- `active` is not compared with the stream
  | some s => if s.standby then t else { t.set i (some ⟨.null, true⟩) with active := none }

end Streams

def OUT_SAMPLING_RATE : Nat := 44100

/-- The rate in `pcm_config_in`, which every input stream has. -/
def IN_SAMPLING_RATE : Nat := 44100

def ENOMEM : Int := 12

/-- `rate` is the one in `pcm_config_out`, which every started output stream has. -/
structure Device where
  out_device : BitVec 32
  in_device : BitVec 32
  rate : Nat
  already_tried : Nat
  outs : Streams
  ins : Streams

/-- The devices in the platform's header: those at the start, the SCO devices of each kind,
and the bit that marks an input device. -/
structure Platform where
  AUDIO_DEVICE_OUT_SPEAKER : BitVec 32
  AUDIO_DEVICE_IN_BUILTIN_MIC : BitVec 32
  AUDIO_DEVICE_OUT_ALL_SCO : BitVec 32
  AUDIO_DEVICE_IN_ALL_SCO : BitVec 32
  AUDIO_DEVICE_BIT_IN : BitVec 32

variable (M : Platform)

namespace Device

def adevOpen : Device where
  out_device := M.AUDIO_DEVICE_OUT_SPEAKER
  in_device := M.AUDIO_DEVICE_IN_BUILTIN_MIC &&& ~~~M.AUDIO_DEVICE_BIT_IN
  rate := OUT_SAMPLING_RATE
  already_tried := 0
  outs := ⟨none, fun _ => none⟩
  ins := ⟨none, fun _ => none⟩

def doOutStandby (d : Device) (out : Handle) : Device := { d with outs := d.outs.doStandby out }

def doInStandby (d : Device) (i : Handle) : Device := { d with ins := d.ins.doStandby i }

/-- The first rate is in one of the two groups and the second is not. -/
def ratesConflict (mine other : Nat) : Bool :=
  (mine % 8000 == 0 && other % 8000 != 0) || (mine % 11025 == 0 && other % 11025 != 0)

/-- What `start_output_stream` does about the active input stream. -/
def yieldInput (d : Device) : Device :=
  match d.ins.active with
  | none => d
  | some i => if ratesConflict d.rate IN_SAMPLING_RATE then d.doInStandby i else d

/-- What `start_input_stream` does about the active output stream. -/
def yieldOutput (d : Device) : Device :=
  match d.outs.active with
  | none => d
  | some out => if ratesConflict IN_SAMPLING_RATE d.rate then d.doOutStandby out else d

/-- The calls of `pcm_open` in `start_output_stream`: `again` is what the second one returns,
which is made with the rate lowered by one if this has never been tried. -/
def openOutput (d : Device) (opened again : PcmOpen) : Device × PcmOpen :=
  if opened.failed && d.already_tried == 0 then
    -- `already_tried` is never reset, and the new rate stays for all later streams
    ({ d with rate := d.rate - 1, already_tried := d.already_tried + 1 }, again)
  else (d, opened)

/-- The output stream has the pcm that `pcm_open` returned and becomes the active one; a pcm
that is not ready is closed.  The rate of the stream is that of the pcm, so there is no
resampler. -/
def startOutputStream (d : Device) (out : Handle) (opened again : PcmOpen) : Device × Int :=
  let (d, result) := d.yieldInput.openOutput opened again
  if result.failed then
    ({ d with outs := d.outs.set out (some ⟨.closed, true⟩) }, -ENOMEM)
  else
    ({ d with outs := { d.outs.set out (some ⟨result.pointer, true⟩) with active := some out } }, 0)

def startInputStream (d : Device) (i : Handle) (opened : PcmOpen) : Device × Int :=
  let d := d.yieldOutput
  if opened.failed then
    ({ d with ins := d.ins.set i (some ⟨.closed, true⟩) }, -ENOMEM)
  else
    ({ d with ins := { d.ins.set i (some ⟨opened.pointer, true⟩) with active := some i } }, 0)

end Device

namespace Streams

/-- `standby = false` for a stream that is open. -/
def leaveStandby (t : Streams) (i : Handle) : Streams :=
  t.set i ((t.stream i).map fun s => { s with standby := false })

end Streams

/-- The routing changes to `val`. -/
def reroutes (device val : BitVec 32) : Bool := device != val && val != 0#32

/-- SCO is turned on or off. -/
def togglesSco (sco device val : BitVec 32) : Bool := (val &&& sco) ^^^ (device &&& sco) != 0#32

namespace Device

def outStandby (d : Device) (out : Handle) : Device := d.doOutStandby out

def inStandby (d : Device) (i : Handle) : Device := d.doInStandby i

/-- `val` is the number after `routing=`. -/
def outSetParameters (d : Device) (out : Handle) (val : BitVec 32) : Device :=
  if reroutes d.out_device val then
    let e :=
      if togglesSco M.AUDIO_DEVICE_OUT_ALL_SCO d.out_device val then d.doOutStandby out else d
    { e with out_device := val }
  else d

def inSetParameters (d : Device) (i : Handle) (value : BitVec 32) : Device :=
  let val := value &&& ~~~M.AUDIO_DEVICE_BIT_IN
  if reroutes d.in_device val then
    let e := if togglesSco M.AUDIO_DEVICE_IN_ALL_SCO d.in_device val then d.doInStandby i else d
    { e with in_device := val }
  else d

/-- The part of `out_write` under the lock of the device. -/
def outWrite (d : Device) (out : Handle) (opened again : PcmOpen) : Device :=
  match d.outs.stream out with
  | none => d
  | some s =>
      if s.standby then
        let (e, ret) := d.startOutputStream out opened again
        -- a stream that cannot be started stays in standby
        if ret != 0 then e else { e with outs := e.outs.leaveStandby out }
      else d

/-- The part of `in_read` under the lock of the device. -/
def inRead (d : Device) (i : Handle) (opened : PcmOpen) : Device :=
  match d.ins.stream i with
  | none => d
  | some s =>
      if s.standby then
        let (e, ret) := d.startInputStream i opened
        if ret == 0 then { e with ins := e.ins.leaveStandby i } else e
      else d

/-- `out` is the address that `calloc` returned. -/
def adevOpenOutputStream (d : Device) (out : Handle) : Device :=
  { d with outs := d.outs.set out (some Stream.start) }

def adevOpenInputStream (d : Device) (i : Handle) : Device :=
  { d with ins := d.ins.set i (some Stream.start) }

def adevCloseOutputStream (d : Device) (out : Handle) : Device :=
  let e := d.outStandby out
  { e with outs := e.outs.set out none }

def adevCloseInputStream (d : Device) (i : Handle) : Device :=
  let e := d.inStandby i
  { e with ins := e.ins.set i none }

end Device

/-- A call on the device or on one of its streams.  An open call that returns an error and a
`set_parameters` without a routing change nothing here, and have no constructor. -/
inductive Op
  | openOutput (out : Handle)
  | openInput (i : Handle)
  | closeOutput (out : Handle)
  | closeInput (i : Handle)
  | outStandby (out : Handle)
  | inStandby (i : Handle)
  | outSetParameters (out : Handle) (val : BitVec 32)
  | inSetParameters (i : Handle) (value : BitVec 32)
  | outWrite (out : Handle) (opened again : PcmOpen)
  | inRead (i : Handle) (opened : PcmOpen)
  deriving DecidableEq, Repr

/-- A new stream is where there is none, and every other call is on an open stream. -/
def Op.Allowed (d : Device) : Op → Prop
  | openOutput out => d.outs.stream out = none
  | openInput i => d.ins.stream i = none
  | closeOutput out | outStandby out | outSetParameters out _ | outWrite out _ _ =>
      d.outs.stream out ≠ none
  | closeInput i | inStandby i | inSetParameters i _ | inRead i _ => d.ins.stream i ≠ none

instance (d : Device) (op : Op) : Decidable (op.Allowed d) := by
  unfold Op.Allowed
  split <;> infer_instance

def Device.apply (d : Device) : Op → Device
  | .openOutput out => d.adevOpenOutputStream out
  | .openInput i => d.adevOpenInputStream i
  | .closeOutput out => d.adevCloseOutputStream out
  | .closeInput i => d.adevCloseInputStream i
  | .outStandby out => d.outStandby out
  | .inStandby i => d.inStandby i
  | .outSetParameters out val => d.outSetParameters M out val
  | .inSetParameters i value => d.inSetParameters M i value
  | .outWrite out opened again => d.outWrite out opened again
  | .inRead i opened => d.inRead i opened

/-- An allowed call is made. -/
def OpStep (d : Device) (op : Op) (d' : Device) : Prop := op.Allowed d ∧ d' = d.apply M op

end Audio
end DeviceAndroVM
