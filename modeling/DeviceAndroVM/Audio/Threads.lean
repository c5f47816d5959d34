import DeviceAndroVM.Audio.Device
import DeviceAndroVM.Library.GateLocks

/-!
# The locks of the audio device

The calls of the hardware interface as programs of their threads, with the mutex of the device
and those of the streams.  The mutex of the device is taken first; a write or a read gives it
back before the samples are transferred.

* `Lock`, `Access` — the mutexes, and what the threads do to the device and the streams.
* `Access.needs` — the mutexes in the comments over the functions.
* `Access.next` — what an access does; there is none to a stream that is not open, and no
  transfer to or from a pcm that was closed.
* `doStandby`, `startOutputStream`, `startInputStream` — what the calls share.
* `serve` — the calls.
-/

namespace DeviceAndroVM
namespace Audio

open Library

inductive Kind
  | output
  | input
  deriving DecidableEq, Repr

namespace Device

def streams (d : Device) : Kind → Streams
  | .output => d.outs
  | .input => d.ins

def withStreams (d : Device) (k : Kind) (t : Streams) : Device :=
  match k with
  | .output => { d with outs := t }
  | .input => { d with ins := t }

/-- `out_device` or `in_device`. -/
def routing (d : Device) : Kind → BitVec 32
  | .output => d.out_device
  | .input => d.in_device

def withRouting (d : Device) (k : Kind) (val : BitVec 32) : Device :=
  match k with
  | .output => { d with out_device := val }
  | .input => { d with in_device := val }

end Device

/-- `adev->lock`, and the `lock` of each stream. -/
inductive Lock
  | device
  | stream (k : Kind) (h : Handle)
  deriving DecidableEq, Repr

/-- The fields that are read and written without a mutex. -/
inductive Flag
  | screen_off
  | mic_mute
  | pcm_server_socket
  deriving DecidableEq, Repr

/-- The accesses to the device and its streams.  `fields` is any number of them to the other
fields that the mutex protects: the orientation, or the buffers and thresholds of a stream. -/
inductive Access
  | active (k : Kind)
  | setActive (k : Kind) (value : Option Handle)
  | routing (k : Kind)
  | setRouting (k : Kind) (val : BitVec 32)
  | rate
  | alreadyTried
  | lowerRate
  | standby (k : Kind) (h : Handle)
  | setStandby (k : Kind) (h : Handle) (value : Bool)
  | pcmOpen (k : Kind) (h : Handle)
  | pcmClose (k : Kind) (h : Handle)
  | clearPcm (k : Kind) (h : Handle)
  | transfer (k : Kind) (h : Handle)
  | fields (l : Lock)
  | flag (f : Flag)

namespace Access

/-- What an access answers. -/
abbrev Resp : Access → Type
  | active _ => Option Handle
  | routing _ => BitVec 32
  | rate => Nat
  | alreadyTried => Nat
  | standby _ _ => Bool
  | pcmOpen _ _ => PcmOpen
  | transfer _ _ => Int
  | flag _ => Bool
  | _ => Unit

/-- The mutexes that the thread has to have.  The rate of the output is also read without any. -/
def needs : Access → Set Lock
  | active _ | setActive _ _ | routing _ | setRouting _ _ | alreadyTried | lowerRate => {.device}
  | standby k h | transfer k h => {.stream k h}
  | setStandby k h _ | pcmOpen k h | pcmClose k h | clearPcm k h => {.device, .stream k h}
  | fields l => {l}
  | rate | flag _ => ∅

end Access

namespace Device

/-- A change of an open stream. -/
def change (d : Device) (k : Kind) (h : Handle) (f : Stream → Stream) : Option Device :=
  ((d.streams k).stream h).map fun s => d.withStreams k ((d.streams k).set h (some (f s)))

/-- The device after an access.  Nothing is known of what a flag holds. -/
def access (d : Device) : (x : Access) → x.Resp → Option Device
  | .active k, r => if r = (d.streams k).active then some d else none
  | .setActive k value, _ => some (d.withStreams k { d.streams k with active := value })
  | .routing k, r => if r = d.routing k then some d else none
  | .setRouting k val, _ => some (d.withRouting k val)
  | .rate, r => if r = d.rate then some d else none
  | .alreadyTried, r => if r = d.already_tried then some d else none
  | .lowerRate, _ => some { d with rate := d.rate - 1, already_tried := d.already_tried + 1 }
  | .standby k h, r =>
      ((d.streams k).stream h).bind fun s => if r = s.standby then some d else none
  | .setStandby k h value, _ => d.change k h fun s => { s with standby := value }
  | .pcmOpen k h, r => d.change k h fun s => { s with pcm := r.pointer }
  | .pcmClose k h, _ =>
      ((d.streams k).stream h).bind fun s =>
        -- a pcm is not closed twice
        if s.pcm = .closed then none else d.change k h fun s => { s with pcm := .closed }
  | .clearPcm k h, _ => d.change k h fun s => { s with pcm := .null }
  | .transfer k h, _ =>
      ((d.streams k).stream h).bind fun s => if s.pcm = .closed then none else some d
  | .fields _, _ => some d
  | .flag _, _ => some d

end Device

/-! ## The programs -/

abbrev Thread (α : Type) : Type := LockProg Lock Access Access.Resp α

namespace Thread

open LockProg

/-- `do_out_standby` and `do_in_standby`. -/
def doStandby (k : Kind) (h : Handle) : Thread Unit := do
  let standby ← access (Access.standby k h)
  if standby then pure ()
  else
    let _ ← access (Access.pcmClose k h)
    let _ ← access (Access.clearPcm k h)
    let _ ← access (Access.setActive k none)
    -- the resampler and the buffer are released
    let _ ← access (Access.fields (.stream k h))
    access (Access.setStandby k h true)

def doOutStandby (out : Handle) : Thread Unit := doStandby .output out

def doInStandby (i : Handle) : Thread Unit := doStandby .input i

/-- What `start_output_stream` and `start_input_stream` do about the active stream of the other
kind, whose mutex is taken behind that of the stream that starts. -/
def yield (other : Kind) (conflict : Nat → Bool) : Thread Unit := do
  let active ← access (Access.active other)
  match active with
  | none => pure ()
  | some h =>
      lock (.stream other h)
      let rate ← access Access.rate
      let _ ← if conflict rate then doStandby other h else pure ()
      unlock (.stream other h)

/-- The calls of `pcm_open` in `start_output_stream`. -/
def openOutput (out : Handle) : Thread PcmOpen := do
  let opened ← access (Access.pcmOpen .output out)
  if opened.failed then
    let already_tried ← access Access.alreadyTried
    if already_tried == 0 then
      let _ ← access Access.lowerRate
      access (Access.pcmOpen .output out)
    else pure opened
  else pure opened

/-- What is done with the pcm that `pcm_open` returned. -/
def started (k : Kind) (h : Handle) (opened : PcmOpen) : Thread Int :=
  if opened.failed then do
    let _ ← access (Access.pcmClose k h)
    pure (-ENOMEM)
  else do
    let _ ← access (Access.fields (.stream k h))
    let _ ← access (Access.setActive k (some h))
    pure 0

def startOutputStream (out : Handle) : Thread Int := do
  yield .input fun rate => Device.ratesConflict rate IN_SAMPLING_RATE
  let opened ← openOutput out
  started .output out opened

def startInputStream (i : Handle) : Thread Int := do
  yield .output fun rate => Device.ratesConflict IN_SAMPLING_RATE rate
  let opened ← access (Access.pcmOpen .input i)
  started .input i opened

/-- A stream goes to standby behind the mutex of the device. -/
def lockedStandby (k : Kind) (h : Handle) : Thread Unit := do
  lock (.stream k h)
  doStandby k h
  unlock (.stream k h)

/-- `out_standby` and `in_standby`. -/
def standby (k : Kind) (h : Handle) : Thread Unit := do
  lock .device
  lockedStandby k h
  unlock .device

def outStandby (out : Handle) : Thread Unit := standby .output out

def inStandby (i : Handle) : Thread Unit := standby .input i

/-- The routing changes to `val`; the stream goes to standby when SCO is turned on or off. -/
def setRouting (k : Kind) (sco : BitVec 32) (h : Handle) (val : BitVec 32) : Thread Unit := do
  let device ← access (Access.routing k)
  if reroutes device val then
    let _ ← if togglesSco sco device val then lockedStandby k h else pure ()
    access (Access.setRouting k val)
  else pure ()

variable (M : Platform)

/-- `val` is the number after `routing=`, if there is one. -/
def outSetParameters (out : Handle) (val : Option (BitVec 32)) : Thread Unit := do
  lock .device
  let _ ← match val with
    | none => pure ()
    | some val => setRouting .output M.AUDIO_DEVICE_OUT_ALL_SCO out val
  unlock .device

def inSetParameters (i : Handle) (val : Option (BitVec 32)) : Thread Unit := do
  lock .device
  let _ ← match val with
    | none => pure ()
    | some val =>
        setRouting .input M.AUDIO_DEVICE_IN_ALL_SCO i (val &&& ~~~M.AUDIO_DEVICE_BIT_IN)
  unlock .device

/-- The screen and the input decide on the period count, unless the output is routed to SCO. -/
def outGetLatency : Thread Unit := do
  lock .device
  let _ ← access (Access.flag .screen_off)
  let _ ← access (Access.active .input)
  let _ ← access (Access.routing .output)
  unlock .device
  let _ ← access Access.rate

/-- The orientation changes. -/
def adevSetParameters : Thread Unit := do
  lock .device
  let _ ← access (Access.fields .device)
  unlock .device

/-- So many calls of `tinyalsa` on the pcm of a stream. -/
def transfers (k : Kind) (h : Handle) : Nat → Thread Unit
  | 0 => pure ()
  | n + 1 => do
      let _ ← access (Access.transfer k h)
      transfers k h n

def EPIPE : Int := 32

/-- After an error the thread sleeps as long as the samples would have played. -/
def sleep (ret : Int) : Thread Unit :=
  if ret != 0 then do
    let _ ← access Access.rate
    pure ()
  else pure ()

/-- `out_write` once the stream is out of standby: `polls` is how often `pcm_get_htimestamp` is
called. -/
def writeSamples (out : Handle) (polls : Nat) : Thread Unit := do
  let _ ← access (Access.flag .screen_off)
  let _ ← access (Access.active .input)
  let _ ← access (Access.routing .output)
  unlock .device
  -- the buffer type and the thresholds
  let _ ← access (Access.fields (.stream .output out))
  let _ ← access Access.rate
  transfers .output out polls
  let _ ← access (Access.flag .pcm_server_socket)
  let ret ← access (Access.transfer .output out)
  if ret == -EPIPE then
    unlock (.stream .output out)
  else
    unlock (.stream .output out)
    sleep ret

def outWrite (out : Handle) (polls : Nat) : Thread Unit := do
  lock .device
  lock (.stream .output out)
  let standby ← access (Access.standby .output out)
  let ret ← if standby then startOutputStream out else pure 0
  if ret != 0 then
    unlock .device
    unlock (.stream .output out)
    sleep ret
  else
    let _ ← if standby then access (Access.setStandby .output out false) else pure ()
    writeSamples out polls

/-- `in_read` once the stream is out of standby, with so many calls of `pcm_read`. -/
def readSamples (i : Handle) (reads : Nat) : Thread Unit := do
  unlock .device
  transfers .input i reads
  let _ ← access (Access.fields (.stream .input i))
  let _ ← access (Access.flag .mic_mute)
  unlock (.stream .input i)

def inRead (i : Handle) (reads : Nat) : Thread Unit := do
  lock .device
  lock (.stream .input i)
  let standby ← access (Access.standby .input i)
  let ret ← if standby then startInputStream i else pure 0
  if ret == 0 then
    let _ ← if standby then access (Access.setStandby .input i false) else pure ()
    readSamples i reads
  else
    unlock .device
    unlock (.stream .input i)

end Thread

/-- A call of the hardware interface on a stream that stays open. -/
inductive Call
  | outStandby (out : Handle)
  | inStandby (i : Handle)
  | outSetParameters (out : Handle) (val : Option (BitVec 32))
  | inSetParameters (i : Handle) (val : Option (BitVec 32))
  | outGetLatency (out : Handle)
  | adevSetParameters
  | outWrite (out : Handle) (polls : Nat)
  | inRead (i : Handle) (reads : Nat)
  deriving DecidableEq, Repr

variable (M : Platform)

namespace Thread

def serve : Call → Thread Unit
  | .outStandby out => outStandby out
  | .inStandby i => inStandby i
  | .outSetParameters out val => outSetParameters M out val
  | .inSetParameters i val => inSetParameters M i val
  | .outGetLatency _ => outGetLatency
  | .adevSetParameters => adevSetParameters
  | .outWrite out polls => outWrite out polls
  | .inRead i reads => inRead i reads

/-- A thread that makes one call after the other. -/
def serveAll : List Call → Thread Unit
  | [] => pure ()
  | call :: calls => do
      serve M call
      serveAll calls

end Thread

end Audio
end DeviceAndroVM
