import DeviceAndroVM.Library.BlockHeap

/-!
# The command stream over a socket

`IOStream.h` and `SocketStream.cpp`: a caller gets a region of the stream's buffer with
`alloc`, fills it, and the regions go out with the next `flush`.  Both classes keep a
pointer to the buffer and its size.  The target is x86: a `size_t` has 32 bits.

* `Environment` — the heap, and what the allocator and the kernel answer.
* `SocketStream` — the fields of both classes, and the regions handed out since the last
  commit.
* `writeFully`, `readFully` — the loops over `send` and `recv`.
* `alloc`, `flush`, `readback` — `IOStream`'s functions; there is no result when the code
  accesses memory outside a live block.
* `Call` — what the users of a stream do with it.
-/

namespace DeviceAndroVM
namespace OpenglCodecCommon

open Library

/-- What a `send` gives. -/
inductive SendResult
  | accepted (count : Nat)
  | interrupted
  | failed
  deriving DecidableEq

/-- What a `recv` gives; no more bytes are taken than were asked for. -/
inductive RecvResult
  | bytes (data : List UInt8)
  | interrupted
  | failed
  deriving DecidableEq

/-- What the stream runs in.  The answers of the allocator and of `send` are taken from the
lists; behind their ends every allocation succeeds and `send` takes all it is given. -/
structure Environment where
  heap : BlockHeap
  allocations : List Bool
  sends : List SendResult
  receives : List RecvResult
  sent : ByteBlock

namespace Environment

def malloc (e : Environment) (size : UInt32) : Option Nat × Environment :=
  let rest := { e with allocations := e.allocations.tail }
  if e.allocations.headD true then
    let (p, heap) := e.heap.malloc size.toNat
    (some p, { rest with heap })
  else (none, rest)

def realloc (e : Environment) (old : Nat) (size : UInt32) : Option Nat × Environment :=
  let rest := { e with allocations := e.allocations.tail }
  if e.allocations.headD true then
    let (p, heap) := e.heap.realloc old size.toNat
    (some p, { rest with heap })
  else (none, rest)

def free (e : Environment) (p : Nat) : Environment :=
  { e with heap := e.heap.free p }

end Environment

/-- The members of `IOStream`. -/
structure IOStream where
  m_buf : Option Nat
  m_bufsize : UInt32
  m_free : UInt32
  deriving DecidableEq

/-- Bytes of a block that `alloc` has returned. -/
structure Region where
  block : Nat
  offset : Nat
  size : Nat
  deriving DecidableEq

/-- The members of `SocketStream` and of its base.  `unflushed` is not one: it lists the
regions that were handed out and not committed since. -/
structure SocketStream where
  io : IOStream
  m_sock : Int
  m_bufsize : UInt32
  m_buf : Option Nat
  env : Environment
  unflushed : List Region

/-- The loop of `writeFully` over the bytes that are left: its `retval`, the bytes that the
socket took, and the answers that are left. -/
def sendLoop : List SendResult → ByteBlock → Int × ByteBlock × List SendResult
  | results, [] => (0, [], results)
  | [], rest => (0, rest, [])
  | .accepted count :: results, rest =>
      let (retval, taken, results) := sendLoop results (rest.drop count)
      (retval, rest.take count ++ taken, results)
  | .interrupted :: results, rest => sendLoop results rest
  | .failed :: results, _ => (-1, [], results)

/-- The loop of `readFully` for `res` more bytes. -/
def recvLoop : List RecvResult → Nat → Option (List UInt8) × List RecvResult
  | results, 0 => (some [], results)
  | [], _ => (none, [])
  | .bytes data :: results, res =>
      if data = [] then (none, results)
      else if data.length ≤ res then
        let (buf, results) := recvLoop results (res - data.length)
        (buf.map (data ++ ·), results)
      else (some (data.take res), .bytes (data.drop res) :: results)
  | .interrupted :: results, res => recvLoop results res
  | .failed :: results, _ => (none, results)

namespace SocketStream

/-- The stream of a connected socket. -/
def ofSocket (sock : Int) (bufSize : UInt32) (env : Environment) : SocketStream :=
  { io := ⟨none, bufSize, 0⟩, m_sock := sock, m_bufsize := bufSize, m_buf := none, env
    unflushed := [] }

def valid (s : SocketStream) : Bool := decide (0 ≤ s.m_sock)

def allocBuffer (s : SocketStream) (minSize : UInt32) : Option Nat × SocketStream :=
  let allocSize := if s.m_bufsize < minSize then minSize else s.m_bufsize
  match s.m_buf with
  | none =>
      let (p, env) := s.env.malloc allocSize
      (p, { s with m_buf := p, env })
  | some old =>
      if s.m_bufsize < allocSize then
        match s.env.realloc old allocSize with
        | (some p, env) => (some p, { s with m_buf := some p, m_bufsize := allocSize, env })
        | (none, env) => (none, { s with m_buf := none, m_bufsize := 0, env := env.free old })
      else (some old, s)

/-- `buffer` is what the pointer and the size lead to, if that is inside a block. -/
def writeFully (s : SocketStream) (buffer : Option ByteBlock) : Option (Int × SocketStream) :=
  if !s.valid then some (-1, s)
  else buffer.map fun bytes =>
    let (retval, taken, sends) := sendLoop s.env.sends bytes
    (retval, { s with env := { s.env with sends, sent := s.env.sent ++ taken } })

def commitBuffer (s : SocketStream) (size : UInt32) : Option (Int × SocketStream) :=
  s.writeFully (s.m_buf.bind fun p => s.env.heap.read p size.toNat)

/-- `buf` is whether the caller gave a buffer. -/
def readFully (s : SocketStream) (buf : Bool) (len : UInt32) :
    Option (List UInt8) × SocketStream :=
  if !s.valid then (none, s)
  else if !buf then (none, s)
  else
    let (bytes, receives) := recvLoop s.env.receives len.toNat
    (bytes, { s with env := { s.env with receives } })

def flush (s : SocketStream) : Option (Int × SocketStream) :=
  if s.io.m_buf = none ∨ s.io.m_free = s.io.m_bufsize then some (0, s)
  else (s.commitBuffer (s.io.m_bufsize - s.io.m_free)).map fun (stat, s) =>
    (stat, { s with io := { s.io with m_buf := none, m_free := 0 }, unflushed := [] })

/-- The first `if` of `alloc`; the result is `false` where `alloc` returns. -/
def flushIfFull (s : SocketStream) (len : UInt32) : Option (Bool × SocketStream) :=
  if s.io.m_buf ≠ none ∧ s.io.m_free < len then
    s.flush.map fun (stat, s) => (decide (0 ≤ stat), s)
  else some (true, s)

/-- The second `if` of `alloc`.  The length passes through an `int`. -/
def getBuffer (s : SocketStream) (len : UInt32) : Bool × SocketStream :=
  if s.io.m_buf = none ∨ s.io.m_bufsize < len then
    let allocLen : Int32 := (if s.io.m_bufsize < len then len else s.io.m_bufsize).toInt32
    match s.allocBuffer allocLen.toUInt32 with
    | (none, s) => (false, { s with io := { s.io with m_buf := none } })
    | (some p, s) => (true, { s with io := ⟨some p, allocLen.toUInt32, allocLen.toUInt32⟩ })
  else (true, s)

def alloc (s : SocketStream) (len : UInt32) : Option (Option Region × SocketStream) :=
  (s.flushIfFull len).bind fun (flushed, s) =>
    if !flushed then some (none, s)
    else
      let (allocated, s) := s.getBuffer len
      if !allocated then some (none, s)
      else s.io.m_buf.map fun p =>
        let ptr : Region := ⟨p, (s.io.m_bufsize - s.io.m_free).toNat, len.toNat⟩
        (some ptr, { s with
          io := { s.io with m_free := s.io.m_free - len }
          unflushed := s.unflushed ++ [ptr] })

def readback (s : SocketStream) (buf : Bool) (len : UInt32) :
    Option (Option (List UInt8) × SocketStream) :=
  s.flush.map fun (_, s) => s.readFully buf len

/-- The caller writes into a region. -/
def fill (s : SocketStream) (ptr : Region) (data : List UInt8) : Option SocketStream :=
  (s.env.heap.write ptr.block ptr.offset data).map fun heap =>
    { s with env := { s.env with heap } }

end SocketStream

/-- A command of the protocol: some bytes, no more than a `size_t` counts. -/
structure Packet where
  bytes : List UInt8
  pos : 0 < bytes.length
  fits : bytes.length < 0x100000000
  deriving DecidableEq

def Packet.len (packet : Packet) : UInt32 := UInt32.ofNat packet.bytes.length

@[simp] theorem Packet.toNat_len (packet : Packet) : packet.len.toNat = packet.bytes.length :=
  UInt32.toNat_ofNat_of_lt packet.fits

/-- What the users of a stream do: an `alloc` whose region is filled at once, `flush`, a
`flush` with bytes sent behind it, and `readback`. -/
inductive Call
  | alloc (packet : Packet)
  | flush
  | flushWrite (data : List UInt8)
  | readback (buf : Bool) (len : UInt32)
  deriving DecidableEq

/-- The bytes a call puts on the stream. -/
def Call.packet : Call → List UInt8
  | .alloc packet => packet.bytes
  | .flushWrite data => data
  | .flush | .readback .. => []

/-- The calls behind which nothing is left to be sent. -/
def Call.flushes : Call → Bool
  | .alloc _ => false
  | _ => true

namespace SocketStream

/-- A call; a region that could not be had is not filled. -/
def call (s : SocketStream) : Call → Option SocketStream
  | .alloc packet =>
      (s.alloc packet.len).bind fun (ptr, s) =>
        match ptr with
        | none => some s
        | some ptr => s.fill ptr packet.bytes
  | .flush => s.flush.map Prod.snd
  | .flushWrite data =>
      s.flush.bind fun (_, s) => (s.writeFully (some (data.map some))).map Prod.snd
  | .readback buf len => (s.readback buf len).map Prod.snd

/-- The calls one after the other. -/
def run (s : SocketStream) (calls : List Call) : Option SocketStream :=
  calls.foldlM call s

end SocketStream
end OpenglCodecCommon
end DeviceAndroVM
