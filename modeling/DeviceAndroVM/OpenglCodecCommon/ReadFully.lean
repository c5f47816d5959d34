import Mathlib.Data.BitVec
import DeviceAndroVM.Library.WhileLoop

/-!
# Reading a given number of bytes

`SocketStream::readFully` and `QemuPipeStream::readFully` read until `len` bytes have come.  They
differ in what they ask for: the socket for the bytes that are still missing, the pipe for `len`
bytes every time.  Addresses and a `size_t` have 32 bits.

* `Kernel` — the bytes that come in, and how the kernel hands them out.
* `readFullyBody` — one turn of either loop.
* `FillsBuffer` — nothing is stored outside of the buffer, and when the call returns the buffer
  it has taken `len` bytes and stored them in order.
* `fillsBuffer_iff` — the socket always does so, the pipe if no read steps over the end.
-/

namespace DeviceAndroVM
namespace OpenglCodecCommon

open Library

/-- What a `read` or a `recv` gives. -/
inductive ReadAnswer
  | bytes (count : Nat)
  | shutdown
  | interrupted
  | failed
  deriving DecidableEq

/-- The bytes of an answer. -/
def ReadAnswer.count : ReadAnswer → Nat
  | .bytes count => count
  | .shutdown | .interrupted | .failed => 0

/-- The bytes that come in from now on, and the answer to the read with some number for so many
bytes.  The count of an answer is that of a `ssize_t`. -/
structure Kernel where
  incoming : Nat → UInt8
  answer : Nat → BitVec 32 → ReadAnswer
  within : ∀ {turn requested count}, answer turn requested = .bytes count →
    0 < count ∧ count ≤ requested.toNat ∧ count < 2 ^ 31

/-- The variables of the loop, the bytes that it has taken, and what has been stored. -/
structure Reading where
  res : BitVec 32
  turn : Nat
  consumed : Nat
  written : BitVec 32 → Option UInt8

/-- The state before the loop. -/
def Reading.start (len : BitVec 32) : Reading where
  res := len
  turn := 0
  consumed := 0
  written := fun _ => none

/-- The kernel stores `count` bytes from `p` on. -/
def Reading.take (incoming : Nat → UInt8) (p : BitVec 32) (count : Nat) (s : Reading) :
    Reading where
  res := s.res - BitVec.ofNat 32 count
  turn := s.turn + 1
  consumed := s.consumed + count
  written := fun a =>
    if (a - p).toNat < count then some (incoming (s.consumed + (a - p).toNat)) else s.written a

/-- One turn of the loop, which asks for `request res` bytes.  The result is `NULL` or `buf`. -/
def readFullyBody (request : BitVec 32 → BitVec 32) (kernel : Kernel) (buf len : BitVec 32)
    (s : Reading) : Iteration Reading (Option (BitVec 32) × Reading) :=
  if s.res = 0#32 then .leave (some buf, s)
  else
    match kernel.answer s.turn (request s.res) with
    | .bytes count => .again (s.take kernel.incoming (buf + len - s.res) count)
    | .interrupted => .again { s with turn := s.turn + 1 }
    | .shutdown | .failed => .leave (none, s)

/-- `recv(m_sock, buf + len - res, res, 0)`. -/
def SocketStream.readFullyBody (kernel : Kernel) (buf len : BitVec 32) :=
  OpenglCodecCommon.readFullyBody (fun res => res) kernel buf len

/-- `read(m_sock, buf + len - res, len)`. -/
def QemuPipeStream.readFullyBody (kernel : Kernel) (buf len : BitVec 32) :=
  OpenglCodecCommon.readFullyBody (fun _ => len) kernel buf len

/-- The two streams. -/
inductive StreamKind
  | socketStream
  | qemuPipeStream
  deriving DecidableEq

/-- A call of `readFully`. -/
structure ReadCall where
  stream : StreamKind
  kernel : Kernel
  m_sock : Int
  buf : BitVec 32
  len : BitVec 32

namespace ReadCall

variable (call : ReadCall)

/-- The loop of the stream. -/
def body : Reading → Iteration Reading (Option (BitVec 32) × Reading) :=
  match call.stream with
  | .socketStream => SocketStream.readFullyBody call.kernel call.buf call.len
  | .qemuPipeStream => QemuPipeStream.readFullyBody call.kernel call.buf call.len

/-- The tests in front of the loop. -/
def Enters : Prop := 0 ≤ call.m_sock ∧ call.buf ≠ 0#32

/-- The states that a call gets to. -/
def Gets (s : Reading) : Prop :=
  s = .start call.len ∨ call.Enters ∧ Reaches call.body (.start call.len) s

/-- What a call returns, and the state then. -/
def Returns (result : Option (BitVec 32) × Reading) : Prop :=
  ¬call.Enters ∧ result = (none, .start call.len) ∨
    call.Enters ∧ WhileRun call.body (.start call.len) result

/-- Nothing is ever stored outside of the buffer, and a call that returns the buffer has taken
`len` bytes and stored them in order. -/
structure FillsBuffer : Prop where
  inside : ∀ s, call.Gets s → ∀ a, (s.written a).isSome → (a - call.buf).toNat < call.len.toNat
  filled : ∀ s, call.Returns (some call.buf, s) → s.consumed = call.len.toNat ∧
    ∀ i < call.len.toNat,
      s.written (call.buf + BitVec.ofNat 32 i) = some (call.kernel.incoming i)

end ReadCall

namespace Kernel

variable (kernel : Kernel) (len : BitVec 32)

/-- The bytes that the first reads give when each asks for `len`. -/
def given : Nat → Nat
  | 0 => 0
  | turn + 1 => given turn + (kernel.answer turn len).count

/-- None of the first reads, for `len` bytes each, ends the loop. -/
def GoesOn (turns : Nat) : Prop :=
  ∀ turn < turns, kernel.answer turn len ≠ .shutdown ∧ kernel.answer turn len ≠ .failed

/-- No read for `len` bytes steps over the end of the first `len` bytes. -/
def NeverOversteps : Prop :=
  ∀ turn, kernel.GoesOn len turn → kernel.given len turn < len.toNat →
    kernel.given len (turn + 1) ≤ len.toNat

end Kernel

/-! ## One read -/

namespace ReadCall

variable {call : ReadCall} {s s' : Reading} {count : Nat}

/-- The first bytes of the stream are at the beginning of the buffer, and the rest is missing. -/
structure Filled (call : ReadCall) (s : Reading) : Prop where
  consumed_le : s.consumed ≤ call.len.toNat
  res_eq : s.res = BitVec.ofNat 32 (call.len.toNat - s.consumed)
  written_eq : ∀ a, s.written a =
    if (a - call.buf).toNat < s.consumed then some (call.kernel.incoming (a - call.buf).toNat)
    else none

theorem filled_start (call : ReadCall) : call.Filled (.start call.len) where
  consumed_le := Nat.zero_le _
  res_eq := by simp [Reading.start]
  written_eq := by simp [Reading.start]

namespace Filled

theorem toNat_res (h : call.Filled s) : s.res.toNat = call.len.toNat - s.consumed := by
  have hlt := call.len.isLt
  rw [h.res_eq, BitVec.toNat_ofNat]
  omega

/-- The distance of an address from the place where the next byte goes. -/
theorem toNat_sub_next (h : call.Filled s) (a : BitVec 32) :
    (a - (call.buf + call.len - s.res)).toNat =
      if s.consumed ≤ (a - call.buf).toNat then (a - call.buf).toNat - s.consumed
      else 2 ^ 32 + (a - call.buf).toNat - s.consumed := by
  have hle := h.consumed_le
  have hlen := call.len.isLt
  have hd := (a - call.buf).isLt
  have hbuf := call.buf.isLt
  have hnext : call.buf + call.len - s.res = call.buf + BitVec.ofNat 32 s.consumed := by
    apply BitVec.eq_of_toNat_eq
    rw [BitVec.toNat_sub, h.toNat_res, BitVec.toNat_add, BitVec.toNat_add, BitVec.toNat_ofNat]
    omega
  have hsplit : a - (call.buf + BitVec.ofNat 32 s.consumed) =
      (a - call.buf) - BitVec.ofNat 32 s.consumed := sub_add_eq_sub_sub ..
  rw [hnext, hsplit, BitVec.toNat_sub, BitVec.toNat_ofNat]
  split <;> omega

/-- A read that gives no more than is missing. -/
theorem take (h : call.Filled s) (hcount : count ≤ call.len.toNat - s.consumed) :
    call.Filled (s.take call.kernel.incoming (call.buf + call.len - s.res) count) where
  consumed_le := by
    have hle := h.consumed_le
    change s.consumed + count ≤ call.len.toNat
    omega
  res_eq := by
    have hlen := call.len.isLt
    apply BitVec.eq_of_toNat_eq
    change (s.res - BitVec.ofNat 32 count).toNat = _
    rw [BitVec.toNat_sub, h.toNat_res, BitVec.toNat_ofNat, BitVec.toNat_ofNat]
    change _ = (call.len.toNat - (s.consumed + count)) % 2 ^ 32
    omega
  written_eq := by
    have hle := h.consumed_le
    have hlen := call.len.isLt
    intro a
    change (if _ < count then some (call.kernel.incoming (s.consumed + _)) else s.written a) =
      if (a - call.buf).toNat < s.consumed + count then _ else none
    rw [h.toNat_sub_next, h.written_eq]
    by_cases hold : (a - call.buf).toNat < s.consumed
    · rw [if_neg (Nat.not_le.mpr hold), if_neg (by omega), if_pos hold, if_pos (by omega)]
    · rw [if_pos (Nat.not_lt.mp hold), if_neg hold, Nat.add_sub_cancel' (Nat.not_lt.mp hold)]
      by_cases hnew : (a - call.buf).toNat < s.consumed + count
      · rw [if_pos (by omega), if_pos hnew]
      · rw [if_neg (by omega), if_neg hnew]

/-- A read that gives more stores something behind the buffer. -/
theorem written_end (h : call.Filled s) (hmissing : s.consumed < call.len.toNat)
    (hcount : call.len.toNat - s.consumed < count) :
    ((s.take call.kernel.incoming (call.buf + call.len - s.res) count).written
      (call.buf + call.len)).isSome := by
  have hend : call.buf + call.len - call.buf = call.len := add_sub_cancel_left ..
  change (if _ < count then _ else _ : Option UInt8).isSome
  rw [h.toNat_sub_next, hend, if_pos (Nat.le_of_lt hmissing), if_pos hcount]
  rfl

/-- What stands in the buffer when nothing is missing any more. -/
theorem written_of_complete (h : call.Filled s) (hcomplete : s.res = 0#32) :
    s.consumed = call.len.toNat ∧ ∀ i < call.len.toNat,
      s.written (call.buf + BitVec.ofNat 32 i) = some (call.kernel.incoming i) := by
  have hle := h.consumed_le
  have hmissing := h.toNat_res
  rw [hcomplete, BitVec.toNat_ofNat] at hmissing
  have hconsumed : s.consumed = call.len.toNat := by omega
  refine ⟨hconsumed, fun i hi => ?_⟩
  have hlen := call.len.isLt
  have hdistance : (call.buf + BitVec.ofNat 32 i - call.buf).toNat = i := by
    rw [add_sub_cancel_left, BitVec.toNat_ofNat]
    omega
  rw [h.written_eq, hdistance, if_pos (by omega)]

/-- An interrupted read. -/
theorem interrupted (h : call.Filled s) : call.Filled { s with turn := s.turn + 1 } where
  consumed_le := h.consumed_le
  res_eq := h.res_eq
  written_eq := h.written_eq

end Filled

/-! ## The loops -/

/-- What the loop of the stream asks for. -/
def request (call : ReadCall) (res : BitVec 32) : BitVec 32 :=
  match call.stream with
  | .socketStream => res
  | .qemuPipeStream => call.len

theorem body_eq (call : ReadCall) :
    call.body = readFullyBody call.request call.kernel call.buf call.len := by
  unfold body request
  cases call.stream <;> rfl

/-- A turn behind which the loop goes on. -/
theorem body_again (h : call.body s = .again s') :
    s.res ≠ 0#32 ∧
      ((∃ count, call.kernel.answer s.turn (call.request s.res) = .bytes count ∧
          s' = s.take call.kernel.incoming (call.buf + call.len - s.res) count) ∨
        call.kernel.answer s.turn (call.request s.res) = .interrupted ∧
          s' = { s with turn := s.turn + 1 }) := by
  rw [body_eq, readFullyBody] at h
  by_cases hres : s.res = 0#32
  · rw [if_pos hres] at h
    cases h
  · rw [if_neg hres] at h
    refine ⟨hres, ?_⟩
    cases hanswer : call.kernel.answer s.turn (call.request s.res) with
    | bytes count =>
        rw [hanswer] at h
        cases h
        exact .inl ⟨count, rfl, rfl⟩
    | interrupted =>
        rw [hanswer] at h
        cases h
        exact .inr ⟨rfl, rfl⟩
    | shutdown =>
        rw [hanswer] at h
        cases h
    | failed =>
        rw [hanswer] at h
        cases h

/-- The turn that returns the buffer. -/
theorem body_leave {p : BitVec 32} (h : call.body s = .leave (some p, s')) :
    s.res = 0#32 ∧ s' = s := by
  rw [body_eq, readFullyBody] at h
  by_cases hres : s.res = 0#32
  · rw [if_pos hres] at h
    cases h
    exact ⟨hres, rfl⟩
  · rw [if_neg hres] at h
    cases hanswer : call.kernel.answer s.turn (call.request s.res) <;>
      rw [hanswer] at h <;> cases h

theorem Filled.missing (h : call.Filled s) (hres : s.res ≠ 0#32) :
    s.consumed < call.len.toNat := by
  have hle := h.consumed_le
  refine Nat.lt_of_le_of_ne hle fun hcomplete => hres ?_
  rw [h.res_eq, hcomplete, Nat.sub_self]

/-- A call whose reads never give more than is missing. -/
theorem fillsBuffer_of_filled
    (hfilled : ∀ s, call.Enters → Reaches call.body (.start call.len) s → call.Filled s) :
    call.FillsBuffer where
  inside s hs a ha := by
    have h : call.Filled s := by
      rcases hs with rfl | ⟨henters, hreach⟩
      · exact call.filled_start
      · exact hfilled s henters hreach
    have hle := h.consumed_le
    rw [h.written_eq] at ha
    split at ha
    · omega
    · cases ha
  filled s hs := by
    rcases hs with ⟨-, hnull⟩ | ⟨henters, hrun⟩
    · cases hnull
    · obtain ⟨s', hreach, hleave⟩ := hrun.exists_reaches
      obtain ⟨hres, rfl⟩ := body_leave hleave
      exact (hfilled _ henters hreach).written_of_complete hres

theorem fillsBuffer_of_not_enters (h : ¬call.Enters) : call.FillsBuffer :=
  fillsBuffer_of_filled fun _ henters => absurd henters h

/-- The socket is asked for no more than is missing. -/
theorem fillsBuffer_socketStream (hstream : call.stream = .socketStream) : call.FillsBuffer := by
  refine fillsBuffer_of_filled fun s _ hreach => hreach.invariant ?_ call.filled_start
  intro s s' h hbody
  obtain ⟨-, ⟨count, hanswer, rfl⟩ | ⟨-, rfl⟩⟩ := body_again hbody
  · have hcount := (call.kernel.within hanswer).2.1
    have hrequest : call.request s.res = s.res := by rw [request, hstream]
    rw [hrequest, h.toNat_res] at hcount
    exact h.take hcount
  · exact h.interrupted

/-! ## The pipe -/

theorem request_qemuPipeStream (hstream : call.stream = .qemuPipeStream) (res : BitVec 32) :
    call.request res = call.len := by
  rw [request, hstream]

/-- A state of the pipe's loop, counted by its reads. -/
structure Counted (call : ReadCall) (s : Reading) : Prop where
  filled : call.Filled s
  consumed_eq : s.consumed = call.kernel.given call.len s.turn
  goesOn : call.kernel.GoesOn call.len s.turn

theorem goesOn_succ {kernel : Kernel} {len : BitVec 32} {turn : Nat} :
    kernel.GoesOn len (turn + 1) ↔ kernel.GoesOn len turn ∧
      kernel.answer turn len ≠ .shutdown ∧ kernel.answer turn len ≠ .failed := by
  constructor
  · intro h
    exact ⟨fun t ht => h t (Nat.lt_succ_of_lt ht), h turn (Nat.lt_succ_self turn)⟩
  · rintro ⟨hbefore, hlast⟩ t ht
    rcases Nat.lt_succ_iff_lt_or_eq.mp ht with hlt | rfl
    · exact hbefore t hlt
    · exact hlast

theorem given_bytes {kernel : Kernel} {len : BitVec 32} {turn count : Nat}
    (h : kernel.answer turn len = .bytes count) :
    kernel.given len (turn + 1) = kernel.given len turn + count := by
  rw [Kernel.given, h]
  rfl

theorem given_interrupted {kernel : Kernel} {len : BitVec 32} {turn : Nat}
    (h : kernel.answer turn len = .interrupted) :
    kernel.given len (turn + 1) = kernel.given len turn := by
  rw [Kernel.given, h]
  rfl

theorem counted_start (call : ReadCall) : call.Counted (.start call.len) where
  filled := call.filled_start
  consumed_eq := rfl
  goesOn _ hturn := absurd hturn (Nat.not_lt_zero _)

/-- A read of the pipe that does not step over the end. -/
theorem Counted.take (h : call.Counted s)
    (hanswer : call.kernel.answer s.turn call.len = .bytes count)
    (hend : call.kernel.given call.len (s.turn + 1) ≤ call.len.toNat) :
    call.Counted (s.take call.kernel.incoming (call.buf + call.len - s.res) count) where
  filled := by
    rw [given_bytes hanswer, ← h.consumed_eq] at hend
    exact h.filled.take (by omega)
  consumed_eq := by
    refine Eq.trans ?_ (given_bytes hanswer).symm
    rw [← h.consumed_eq]
    rfl
  goesOn := goesOn_succ.mpr ⟨h.goesOn, by simp [hanswer]⟩

theorem Counted.interrupted (h : call.Counted s)
    (hanswer : call.kernel.answer s.turn call.len = .interrupted) :
    call.Counted { s with turn := s.turn + 1 } where
  filled := h.filled.interrupted
  consumed_eq := h.consumed_eq.trans (given_interrupted hanswer).symm
  goesOn := goesOn_succ.mpr ⟨h.goesOn, by simp [hanswer]⟩

/-- Without a read that steps over the end, the pipe fills the buffer as well. -/
theorem fillsBuffer_of_neverOversteps (hstream : call.stream = .qemuPipeStream)
    (hnever : call.kernel.NeverOversteps call.len) : call.FillsBuffer := by
  have hkeep : ∀ s s', call.Counted s → call.body s = .again s' → call.Counted s' := by
    intro s s' h hbody
    obtain ⟨hres, hturn⟩ := body_again hbody
    rw [request_qemuPipeStream hstream] at hturn
    rcases hturn with ⟨count, hanswer, rfl⟩ | ⟨hanswer, rfl⟩
    · refine h.take hanswer (hnever s.turn h.goesOn ?_)
      rw [← h.consumed_eq]
      exact h.filled.missing hres
    · exact h.interrupted hanswer
  exact fillsBuffer_of_filled fun s _ hreach => (hreach.invariant hkeep call.counted_start).filled

theorem body_bytes (hstream : call.stream = .qemuPipeStream) (hres : s.res ≠ 0#32)
    (hanswer : call.kernel.answer s.turn call.len = .bytes count) :
    call.body s = .again (s.take call.kernel.incoming (call.buf + call.len - s.res) count) := by
  rw [body_eq, readFullyBody, if_neg hres, request_qemuPipeStream hstream, hanswer]

theorem body_interrupted (hstream : call.stream = .qemuPipeStream) (hres : s.res ≠ 0#32)
    (hanswer : call.kernel.answer s.turn call.len = .interrupted) :
    call.body s = .again { s with turn := s.turn + 1 } := by
  rw [body_eq, readFullyBody, if_neg hres, request_qemuPipeStream hstream, hanswer]

theorem Counted.res_ne_zero (h : call.Counted s)
    (hmissing : call.kernel.given call.len s.turn < call.len.toNat) : s.res ≠ 0#32 := by
  intro hres
  have hconsumed := (h.filled.written_of_complete hres).1
  rw [h.consumed_eq] at hconsumed
  omega

/-- The pipe gets to every read in front of the end. -/
theorem exists_reaches_counted (hstream : call.stream = .qemuPipeStream) {turn : Nat}
    (hgoes : call.kernel.GoesOn call.len turn)
    (hmissing : call.kernel.given call.len turn < call.len.toNat) :
    ∃ s, Reaches call.body (.start call.len) s ∧ call.Counted s ∧ s.turn = turn := by
  induction turn with
  | zero => exact ⟨_, .refl, call.counted_start, rfl⟩
  | succ turn ih =>
      obtain ⟨hbefore, hshutdown, hfailed⟩ := goesOn_succ.mp hgoes
      have hle : call.kernel.given call.len turn ≤ call.kernel.given call.len (turn + 1) :=
        Nat.le_add_right _ _
      obtain ⟨s, hreach, h, rfl⟩ := ih hbefore (by omega)
      have hres := h.res_ne_zero (by omega)
      cases hanswer : call.kernel.answer s.turn call.len with
      | bytes count =>
          exact ⟨_, hreach.tail (body_bytes hstream hres hanswer),
            h.take hanswer (Nat.le_of_lt hmissing), rfl⟩
      | interrupted =>
          exact ⟨_, hreach.tail (body_interrupted hstream hres hanswer),
            h.interrupted hanswer, rfl⟩
      | shutdown => exact absurd hanswer hshutdown
      | failed => exact absurd hanswer hfailed

/-- A read that steps over the end stores something behind the buffer. -/
theorem neverOversteps_of_fillsBuffer (hstream : call.stream = .qemuPipeStream)
    (henters : call.Enters) (hfills : call.FillsBuffer) :
    call.kernel.NeverOversteps call.len := by
  intro turn hgoes hmissing
  obtain ⟨s, hreach, h, rfl⟩ := exists_reaches_counted hstream hgoes hmissing
  have hres := h.res_ne_zero hmissing
  by_contra hover
  obtain ⟨count, hanswer⟩ : ∃ count, call.kernel.answer s.turn call.len = .bytes count := by
    rw [Kernel.given] at hover
    cases hanswer : call.kernel.answer s.turn call.len with
    | bytes count => exact ⟨count, rfl⟩
    | _ =>
        rw [hanswer] at hover
        exact absurd (Nat.le_of_lt hmissing) hover
  rw [given_bytes hanswer, ← h.consumed_eq] at hover
  have hle := h.filled.consumed_le
  have hstored := hfills.inside _
    (.inr ⟨henters, hreach.tail (body_bytes hstream hres hanswer)⟩) _
    (h.filled.written_end (h.filled.missing hres) (by omega))
  rw [add_sub_cancel_left] at hstored
  exact Nat.lt_irrefl _ hstored

/-- The pipe fills the buffer just when the reads for `len` bytes each, one after the other, come
to exactly `len` bytes or end before that. -/
theorem fillsBuffer_iff (call : ReadCall) :
    call.FillsBuffer ↔
      (call.stream = .qemuPipeStream → call.Enters → call.kernel.NeverOversteps call.len) := by
  constructor
  · intro hfills hstream henters
    exact neverOversteps_of_fillsBuffer hstream henters hfills
  · intro hnever
    cases hstream : call.stream with
    | socketStream => exact fillsBuffer_socketStream hstream
    | qemuPipeStream =>
        by_cases henters : call.Enters
        · exact fillsBuffer_of_neverOversteps hstream (hnever hstream henters)
        · exact fillsBuffer_of_not_enters henters

/-- A kernel that has one byte at first, and then as many as it is asked for. -/
def oneByteFirst : Kernel where
  incoming := fun i => UInt8.ofNat i
  answer := fun turn requested =>
    if requested = 0#32 ∨ 2 ^ 31 ≤ requested.toNat then .failed
    else if turn = 0 then .bytes 1
    else .bytes requested.toNat
  within := by
    intro turn requested count h
    split at h
    · cases h
    · next hrequested =>
      have hpos : requested.toNat ≠ 0 := fun hzero =>
        hrequested (.inl (BitVec.eq_of_toNat_eq hzero))
      split at h <;> cases h <;> omega

/-- Eight bytes are read with two reads, of which the first gives one byte. -/
def eightBytesCall : ReadCall where
  stream := .qemuPipeStream
  kernel := oneByteFirst
  m_sock := 5
  buf := 0x1000#32
  len := 8#32

theorem not_fillsBuffer_eightBytes : ¬eightBytesCall.FillsBuffer := by
  intro hfills
  have hnever := neverOversteps_of_fillsBuffer rfl ⟨by decide, by decide⟩ hfills
  have hgoes : oneByteFirst.GoesOn 8#32 1 := by
    intro turn hturn
    obtain rfl : turn = 0 := by omega
    decide
  exact absurd (hnever 1 hgoes (by decide)) (by decide)

end ReadCall

end OpenglCodecCommon
end DeviceAndroVM
