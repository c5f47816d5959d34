import DeviceAndroVM.OpenglCodecCommon.SocketStream
import Mathlib.Data.List.Induction

/-!
# What a stream sends

A stream is a queue of bytes: what the calls put on it is either sent or stands, in the
same order, at the front of the current buffer.

* `Queue` — the stream with the bytes it has sent and those it holds.
* `flush_spec`, `getBuffer_spec`, `alloc_spec`, `fill_spec` — what the functions do to the
  queue.
* `call_spec` — one call adds its packet; `run_spec` — so do calls in a row.
* `Safe` — the regions that are not yet sent lie apart in the current buffer.
-/

namespace DeviceAndroVM
namespace OpenglCodecCommon

open Library

/-- The two regions have no byte in common. -/
def Region.Disjoint (r q : Region) : Prop :=
  r.block = q.block → r.offset + r.size ≤ q.offset ∨ q.offset + q.size ≤ r.offset

/-- The region lies in a block. -/
def Region.Within (r : Region) (p size : Nat) : Prop :=
  r.block = p ∧ r.offset + r.size ≤ size

/-! ## Sending -/

/-- A socket that never fails takes all that is sent, whatever the chunks. -/
theorem sendLoop_eq (results : List SendResult) (bytes : ByteBlock)
    (hsends : SendResult.failed ∉ results) :
    ∃ rest, sendLoop results bytes = (0, bytes, rest) ∧ SendResult.failed ∉ rest := by
  fun_induction sendLoop results bytes with
  | case1 results => exact ⟨results, rfl, hsends⟩
  | case2 bytes hbytes => exact ⟨[], rfl, hsends⟩
  | case3 count results bytes hbytes retval taken rest heq ih =>
      obtain ⟨rest', hloop, hrest⟩ := ih (by simp_all)
      rw [heq] at hloop
      obtain ⟨rfl, rfl, rfl⟩ : retval = 0 ∧ taken = bytes.drop count ∧ rest = rest' := by
        simpa using hloop
      exact ⟨rest, by rw [List.take_append_drop], hrest⟩
  | case4 results bytes hbytes ih => exact ih (by simp_all)
  | case5 results bytes hbytes => simp at hsends

namespace SocketStream

/-! ## The invariant -/

/-- The buffer that `IOStream` writes to: the block `SocketStream` holds, at least as large
as `IOStream` takes it to be, with the bytes `held` at its front and the regions that were
handed out over them. -/
structure Current (s : SocketStream) (p : Nat) (held : List UInt8) : Prop where
  same : s.m_buf = some p
  free_le : s.io.m_free ≤ s.io.m_bufsize
  used : (s.io.m_bufsize - s.io.m_free).toNat = held.length
  front : ∃ block, s.env.heap.blocks p = some block ∧ s.io.m_bufsize.toNat ≤ block.length ∧
    block.take held.length = held.map some
  within : ∀ r ∈ s.unflushed, r.Within p held.length
  apart : s.unflushed.Pairwise Region.Disjoint

/-- The stream has sent `done` and holds `held`; neither the allocator nor the socket will
fail. -/
structure Queue (s : SocketStream) (done held : List UInt8) : Prop where
  connected : s.valid = true
  sends : SendResult.failed ∉ s.env.sends
  allocations : false ∉ s.env.allocations
  sent : s.env.sent = done.map some
  room : ∀ p, s.m_buf = some p →
    ∃ block, s.env.heap.blocks p = some block ∧ s.m_bufsize.toNat ≤ block.length
  idle : s.io.m_buf = none → held = []
  nothing : held = [] → s.unflushed = []
  current : ∀ p, s.io.m_buf = some p → s.Current p held

theorem queue_ofSocket {sock : Int} (bufSize : UInt32) {env : Environment} (hsock : 0 ≤ sock)
    (hsends : SendResult.failed ∉ env.sends) (hallocs : false ∉ env.allocations)
    (hsent : env.sent = []) : (ofSocket sock bufSize env).Queue [] [] where
  connected := decide_eq_true hsock
  sends := hsends
  allocations := hallocs
  sent := by simpa [ofSocket] using hsent
  room := by simp [ofSocket]
  idle := fun _ => rfl
  nothing := fun _ => rfl
  current := by simp [ofSocket]

variable {s : SocketStream} {done held : List UInt8}

theorem Current.length_add {p : Nat} (h : s.Current p held) :
    held.length + s.io.m_free.toNat = s.io.m_bufsize.toNat := by
  have hused := h.used
  have hle := UInt32.le_iff_toNat_le.mp h.free_le
  rw [UInt32.toNat_sub_of_le _ _ h.free_le] at hused
  omega

theorem Queue.writeFully (h : s.Queue done held) (bytes : List UInt8) :
    ∃ s', s.writeFully (some (bytes.map some)) = some (0, s') ∧
      s'.io = s.io ∧ s'.unflushed = s.unflushed ∧ s'.Queue (done ++ bytes) held := by
  obtain ⟨rest, hloop, hrest⟩ := sendLoop_eq s.env.sends (bytes.map some) h.sends
  let s' := { s with env := { s.env with sends := rest, sent := s.env.sent ++ bytes.map some } }
  refine ⟨s', by simp [SocketStream.writeFully, h.connected, hloop, s'], rfl, rfl, ?_⟩
  exact {
    connected := h.connected
    sends := hrest
    allocations := h.allocations
    sent := by simp [s', h.sent]
    room := h.room
    idle := h.idle
    nothing := h.nothing
    current := fun p hp =>
      have hcur := h.current p hp
      ⟨hcur.same, hcur.free_le, hcur.used, hcur.front, hcur.within, hcur.apart⟩ }

theorem Queue.readFully (h : s.Queue done held) (buf : Bool) (len : UInt32) :
    (s.readFully buf len).2.Queue done held := by
  unfold SocketStream.readFully
  split
  · exact h
  · split
    · exact h
    · exact {
        connected := h.connected
        sends := h.sends
        allocations := h.allocations
        sent := h.sent
        room := h.room
        idle := h.idle
        nothing := h.nothing
        current := fun p hp =>
          have hcur := h.current p hp
          ⟨hcur.same, hcur.free_le, hcur.used, hcur.front, hcur.within, hcur.apart⟩ }

/-- `flush` sends what the stream holds; then nothing has been taken from the buffer. -/
theorem flush_spec (h : s.Queue done held) :
    ∃ s', s.flush = some (0, s') ∧ s'.Queue (done ++ held) [] := by
  unfold flush
  split
  · rename_i hcase
    refine ⟨s, rfl, ?_⟩
    have hheld : held = [] := by
      rcases hcase with hbuf | hfull
      · exact h.idle hbuf
      · cases hbuf : s.io.m_buf with
        | none => exact h.idle hbuf
        | some p =>
            have hused := (h.current p hbuf).used
            rw [hfull] at hused
            simpa using hused.symm
    subst hheld
    simpa using h
  · rename_i hcase
    rw [not_or] at hcase
    obtain ⟨p, hp⟩ := Option.ne_none_iff_exists'.mp hcase.1
    have hcur := h.current p hp
    obtain ⟨block, hblock, hsize, hfront⟩ := hcur.front
    have hlen := hcur.length_add
    have hread : s.env.heap.read p (s.io.m_bufsize - s.io.m_free).toNat =
        some (held.map some) := by
      rw [hcur.used, BlockHeap.read_eq hblock (by omega), hfront]
    obtain ⟨s', hwrite, -, -, hqueue⟩ := h.writeFully held
    refine ⟨{ s' with io := { s'.io with m_buf := none, m_free := 0 }, unflushed := [] }, ?_, ?_⟩
    · simp [commitBuffer, hcur.same, hread, hwrite]
    · exact {
        connected := hqueue.connected
        sends := hqueue.sends
        allocations := hqueue.allocations
        sent := hqueue.sent
        room := hqueue.room
        idle := fun _ => rfl
        nothing := fun _ => rfl
        current := fun p hp => by simp at hp }

/-- After the first part of `alloc`, the packet has room or nothing is held. -/
theorem flushIfFull_spec (h : s.Queue done held) (len : UInt32) :
    ∃ s' done' held', s.flushIfFull len = some (true, s') ∧ s'.Queue done' held' ∧
      done' ++ held' = done ++ held ∧ (len ≤ s'.io.m_free ∨ held' = []) := by
  unfold flushIfFull
  split
  · obtain ⟨s', hflush, hqueue⟩ := flush_spec h
    exact ⟨s', done ++ held, [], by simp [hflush], hqueue, by simp, Or.inr rfl⟩
  · rename_i hcase
    refine ⟨s, done, held, rfl, h, rfl, ?_⟩
    by_cases hbuf : s.io.m_buf = none
    · exact Or.inr (h.idle hbuf)
    · exact Or.inl (UInt32.not_lt.mp fun hlt => hcase ⟨hbuf, hlt⟩)

/-- `SocketStream` gives out a block of the size asked for; its own size is a lower bound. -/
theorem allocBuffer_spec (h : s.Queue done held) (minSize : UInt32) :
    ∃ p s', s.allocBuffer minSize = (some p, s') ∧
      s'.io = s.io ∧ s'.unflushed = s.unflushed ∧ s'.m_sock = s.m_sock ∧
      s'.env.sends = s.env.sends ∧ s'.env.sent = s.env.sent ∧
      false ∉ s'.env.allocations ∧ s'.m_buf = some p ∧
      ∃ block, s'.env.heap.blocks p = some block ∧ minSize.toNat ≤ block.length ∧
        s'.m_bufsize.toNat ≤ block.length := by
  have hanswer : s.env.allocations.headD true = true := by
    cases hlist : s.env.allocations with
    | nil => rfl
    | cons answer rest =>
        have hmem := h.allocations
        cases answer with
        | true => rfl
        | false => simp [hlist] at hmem
  have htail : false ∉ s.env.allocations.tail := fun hmem =>
    h.allocations (List.mem_of_mem_tail hmem)
  unfold allocBuffer
  -- the size asked for is the larger of the two
  have hmin : minSize.toNat ≤
      (if s.m_bufsize < minSize then minSize else s.m_bufsize).toNat := by
    split
    · omega
    · rename_i hge
      exact UInt32.le_iff_toNat_le.mp (UInt32.not_lt.mp hge)
  have hown : s.m_bufsize.toNat ≤
      (if s.m_bufsize < minSize then minSize else s.m_bufsize).toNat := by
    split
    · rename_i hlt
      exact Nat.le_of_lt (UInt32.lt_iff_toNat_lt.mp hlt)
    · omega
  generalize (if s.m_bufsize < minSize then minSize else s.m_bufsize) = allocSize at hmin hown
  cases hbuf : s.m_buf with
  | none =>
      obtain ⟨block, hblock, hlen⟩ := BlockHeap.blocks_malloc s.env.heap allocSize.toNat
      simp only [Environment.malloc, hanswer, if_true]
      exact ⟨_, _, rfl, rfl, rfl, rfl, rfl, rfl, htail, rfl, block, hblock,
        hlen ▸ hmin, hlen ▸ hown⟩
  | some old =>
      simp only
      split
      · obtain ⟨block, hblock, hlen⟩ := BlockHeap.blocks_realloc s.env.heap old allocSize.toNat
        simp only [Environment.realloc, hanswer, if_true]
        exact ⟨_, _, rfl, rfl, rfl, rfl, rfl, rfl, htail, rfl, block, hblock,
          hlen ▸ hmin, Nat.le_of_eq hlen.symm⟩
      · rename_i hge
        obtain ⟨block, hblock, hlen⟩ := h.room old hbuf
        have hle := UInt32.le_iff_toNat_le.mp (UInt32.not_lt.mp hge)
        exact ⟨old, s, rfl, rfl, rfl, rfl, rfl, rfl, h.allocations, hbuf, block, hblock,
          by omega, hlen⟩

/-- After the second part of `alloc` there is a buffer with room for the packet. -/
theorem getBuffer_spec {len : UInt32} (h : s.Queue done held)
    (hroom : len ≤ s.io.m_free ∨ held = []) :
    ∃ s' p, s.getBuffer len = (true, s') ∧ s'.Queue done held ∧ s'.io.m_buf = some p ∧
      len ≤ s'.io.m_free := by
  unfold getBuffer
  split
  · rename_i hcase
    -- a new buffer is asked for only while nothing is held
    have hheld : held = [] := by
      rcases hcase with hbuf | hlt
      · exact h.idle hbuf
      · rcases hroom with hfits | hheld
        · cases hbuf : s.io.m_buf with
          | none => exact h.idle hbuf
          | some p =>
              exact absurd hlt (UInt32.not_lt.mpr
                (UInt32.le_trans hfits (h.current p hbuf).free_le))
        · exact hheld
    subst hheld
    have hunflushed := h.nothing rfl
    -- on this target nothing is lost in the `int`
    simp only [UInt32.toUInt32_toInt32]
    have hlen : len ≤ if s.io.m_bufsize < len then len else s.io.m_bufsize := by
      split
      · exact UInt32.le_refl len
      · rename_i hge
        exact UInt32.not_lt.mp hge
    generalize (if s.io.m_bufsize < len then len else s.io.m_bufsize) = allocLen at hlen
    obtain ⟨p, s', halloc, -, hregions, hsock, hsends, hsent, hallocs, hbuf, block, hblock,
      hsize, hown⟩ := allocBuffer_spec h allocLen
    refine ⟨{ s' with io := ⟨some p, allocLen, allocLen⟩ }, p, ?_, ?_, rfl, hlen⟩
    · simp [halloc]
    · exact {
        connected := by simpa [valid, hsock] using h.connected
        sends := hsends ▸ h.sends
        allocations := hallocs
        sent := hsent.trans h.sent
        room := fun q hq => by
          obtain rfl : p = q := Option.some.inj (hbuf.symm.trans hq)
          exact ⟨block, hblock, hown⟩
        idle := fun _ => rfl
        nothing := fun _ => hregions.trans hunflushed
        current := fun q hq => by
          obtain rfl : p = q := Option.some.inj hq
          exact {
            same := hbuf
            free_le := UInt32.le_refl allocLen
            used := by simp
            front := ⟨block, hblock, hsize, by simp⟩
            within := by simp [hregions, hunflushed]
            apart := by simp [hregions, hunflushed] } }
  · rename_i hcase
    rw [not_or] at hcase
    obtain ⟨p, hp⟩ := Option.ne_none_iff_exists'.mp hcase.1
    refine ⟨s, p, rfl, h, hp, ?_⟩
    rcases hroom with hfits | rfl
    · exact hfits
    · have hcur := (h.current p hp).length_add
      have hge := UInt32.le_iff_toNat_le.mp (UInt32.not_lt.mp hcase.2)
      rw [UInt32.le_iff_toNat_le]
      simp only [List.length_nil] at hcur
      omega

/-- The stream after `alloc` has given a packet the place at `offset` of the buffer and the
caller has filled it. -/
def put (s : SocketStream) (p offset : Nat) (block : ByteBlock) (packet : Packet) : SocketStream :=
  { s with
    io := { s.io with m_free := s.io.m_free - packet.len }
    unflushed := s.unflushed ++ [⟨p, offset, packet.bytes.length⟩]
    env := { s.env with heap := s.env.heap.set p (some (block.store offset packet.bytes)) } }

/-- The packet stands behind what is held, and its region behind the other regions. -/
theorem Current.put {p : Nat} (hcur : s.Current p held) {packet : Packet}
    (hfits : packet.len ≤ s.io.m_free) {block : ByteBlock}
    (hblock : s.env.heap.blocks p = some block) :
    (s.put p held.length block packet).Current p (held ++ packet.bytes) := by
  obtain ⟨block', hblock', hsize, hfront⟩ := hcur.front
  obtain rfl : block = block' := Option.some.inj (hblock.symm.trans hblock')
  have hadd := hcur.length_add
  have hfree := UInt32.le_iff_toNat_le.mp hfits
  have hfree_le := UInt32.le_iff_toNat_le.mp hcur.free_le
  rw [Packet.toNat_len] at hfree
  have hleft : (s.io.m_free - packet.len).toNat = s.io.m_free.toNat - packet.bytes.length := by
    rw [UInt32.toNat_sub_of_le _ _ hfits, Packet.toNat_len]
  have hstore : held.length + packet.bytes.length ≤ block.length := by omega
  exact {
    same := hcur.same
    free_le := by
      rw [UInt32.le_iff_toNat_le]
      change (s.io.m_free - packet.len).toNat ≤ s.io.m_bufsize.toNat
      omega
    used := by
      change (s.io.m_bufsize - (s.io.m_free - packet.len)).toNat = _
      rw [UInt32.toNat_sub_of_le _ _ (by rw [UInt32.le_iff_toNat_le]; omega), hleft,
        List.length_append]
      omega
    front := by
      refine ⟨_, BlockHeap.blocks_set_self _ _ _, ?_, ?_⟩
      · rw [ByteBlock.length_store hstore]
        exact hsize
      · rw [List.length_append, ByteBlock.take_store hstore, hfront, List.map_append]
    within := by
      intro r hr
      rcases List.mem_append.mp hr with hold | hnew
      · obtain ⟨hblk, hend⟩ := hcur.within r hold
        exact ⟨hblk, by rw [List.length_append]; omega⟩
      · obtain rfl := List.mem_singleton.mp hnew
        exact ⟨rfl, by simp⟩
    apart := by
      refine List.pairwise_append.mpr ⟨hcur.apart, List.pairwise_singleton _ _, ?_⟩
      intro r hr q hq _
      obtain rfl := List.mem_singleton.mp hq
      exact Or.inl (hcur.within r hr).2 }

/-- `alloc` of a packet that the caller fills: the packet stands behind what is held. -/
theorem alloc_fill_spec (h : s.Queue done held) (packet : Packet) :
    ∃ s' s'' ptr done' held', s.alloc packet.len = some (some ptr, s') ∧
      s'.unflushed.getLast? = some ptr ∧ s'.fill ptr packet.bytes = some s'' ∧
      s''.Queue done' (held' ++ packet.bytes) ∧ done' ++ held' = done ++ held := by
  obtain ⟨s₁, done', held', hflush, hqueue₁, hsame, hroom⟩ := flushIfFull_spec h packet.len
  obtain ⟨s₂, p, hget, hqueue, hp, hfits⟩ := getBuffer_spec hqueue₁ hroom
  have hcur := hqueue.current p hp
  obtain ⟨block, hblock, hsize, -⟩ := hcur.front
  have hadd := hcur.length_add
  have hfree := UInt32.le_iff_toNat_le.mp hfits
  rw [Packet.toNat_len] at hfree
  have hstore : held'.length + packet.bytes.length ≤ block.length := by omega
  let ptr : Region := ⟨p, held'.length, packet.bytes.length⟩
  let s' : SocketStream := { s₂ with
    io := { s₂.io with m_free := s₂.io.m_free - packet.len }
    unflushed := s₂.unflushed ++ [ptr] }
  have halloc : s.alloc packet.len = some (some ptr, s') := by
    simp [alloc, hflush, hget, hp, hcur.used, s', ptr]
  have hfill : s'.fill ptr packet.bytes = some (s₂.put p held'.length block packet) := by
    simp [fill, put, s', ptr, BlockHeap.write_eq hblock hstore]
  refine ⟨s', _, ptr, done', held', halloc, by simp [s'], hfill, ?_, hsame⟩
  exact {
    connected := hqueue.connected
    sends := hqueue.sends
    allocations := hqueue.allocations
    sent := hqueue.sent
    room := fun q hq => by
      obtain rfl : p = q := Option.some.inj (hcur.same.symm.trans hq)
      obtain ⟨block', hblock', hown⟩ := hqueue.room p hq
      obtain rfl : block = block' := Option.some.inj (hblock.symm.trans hblock')
      exact ⟨_, BlockHeap.blocks_set_self _ _ _, by rw [ByteBlock.length_store hstore]; exact hown⟩
    idle := fun hnone => by simp [put, hp] at hnone
    nothing := fun hempty => by
      have hpos := packet.pos
      simp [(List.append_eq_nil_iff.mp hempty).2] at hpos
    current := fun q hq => by
      obtain rfl : p = q := Option.some.inj (hp.symm.trans hq)
      exact hcur.put hfits hblock }

/-! ## Calls -/

/-- A call puts its packet on the stream; behind a call that flushes nothing is held. -/
theorem call_spec (h : s.Queue done held) (c : Call) :
    ∃ s' done' held', s.call c = some s' ∧ s'.Queue done' held' ∧
      done' ++ held' = done ++ held ++ c.packet ∧ (c.flushes = true → held' = []) := by
  cases c with
  | alloc packet =>
      obtain ⟨s', s'', ptr, done', held', halloc, -, hfill, hqueue, hsame⟩ :=
        alloc_fill_spec h packet
      refine ⟨s'', done', held' ++ packet.bytes, by simp [call, halloc, hfill], hqueue, ?_, ?_⟩
      · rw [← List.append_assoc, hsame]
        rfl
      · simp [Call.flushes]
  | flush =>
      obtain ⟨s', hflush, hqueue⟩ := flush_spec h
      exact ⟨s', done ++ held, [], by simp [call, hflush], hqueue, by simp [Call.packet],
        fun _ => rfl⟩
  | flushWrite data =>
      obtain ⟨s', hflush, hqueue⟩ := flush_spec h
      obtain ⟨s'', hwrite, -, -, hsent⟩ := hqueue.writeFully data
      exact ⟨s'', done ++ held ++ data, [], by simp [call, hflush, hwrite], hsent,
        by simp [Call.packet], fun _ => rfl⟩
  | readback buf len =>
      obtain ⟨s', hflush, hqueue⟩ := flush_spec h
      exact ⟨(s'.readFully buf len).2, done ++ held, [], by simp [call, readback, hflush],
        hqueue.readFully buf len, by simp [Call.packet], fun _ => rfl⟩

theorem run_spec (calls : List Call) (h : s.Queue done held) (hdone : held = []) :
    ∃ s' done' held', s.run calls = some s' ∧ s'.Queue done' held' ∧
      done' ++ held' = done ++ calls.flatMap Call.packet ∧
      ∀ c ∈ calls.getLast?, c.flushes = true → held' = [] := by
  induction calls using List.reverseRecOn with
  | nil => exact ⟨s, done, held, rfl, h, by simp [hdone], fun _ _ _ => hdone⟩
  | append_singleton past c ih =>
      obtain ⟨s₁, done₁, held₁, hrun, hqueue₁, hsame₁, -⟩ := ih
      obtain ⟨s', done', held', hcall, hqueue, hsame, hflushed⟩ := call_spec hqueue₁ c
      refine ⟨s', done', held', ?_, hqueue, ?_, ?_⟩
      · unfold run at hrun ⊢
        simp [List.foldlM_append, hrun, hcall]
      · simp [hsame, hsame₁]
      · intro last hlast
        obtain rfl : c = last := by simpa using hlast
        exact hflushed

/-! ## Safety -/

/-- Every region that is handed out and not sent lies in the current buffer, in a live block
of at least that size, and no two have a byte in common; no more is free than there is. -/
structure Safe (s : SocketStream) : Prop where
  inside : ∀ r ∈ s.unflushed, s.io.m_buf = some r.block ∧
    r.offset + r.size ≤ s.io.m_bufsize.toNat ∧
    ∃ block, s.env.heap.blocks r.block = some block ∧ s.io.m_bufsize.toNat ≤ block.length
  apart : s.unflushed.Pairwise Region.Disjoint
  free_le : s.io.m_buf ≠ none → s.io.m_free ≤ s.io.m_bufsize

theorem Queue.safe (h : s.Queue done held) : s.Safe := by
  cases hbuf : s.io.m_buf with
  | none =>
      have hnone := h.nothing (h.idle hbuf)
      exact {
        inside := by simp [hnone]
        apart := by simp [hnone]
        free_le := fun hne => absurd hbuf hne }
  | some p =>
      have hcur := h.current p hbuf
      obtain ⟨block, hblock, hsize, -⟩ := hcur.front
      have hadd := hcur.length_add
      exact {
        inside := by
          intro r hr
          obtain ⟨rfl, hend⟩ := hcur.within r hr
          exact ⟨hbuf, by omega, block, hblock, hsize⟩
        apart := hcur.apart
        free_le := fun _ => hcur.free_le }

/-- Filling a region changes no size and no pointer. -/
theorem Safe.of_fill {s' : SocketStream} {ptr : Region} {data : List UInt8}
    (hfill : s.fill ptr data = some s') (h : s'.Safe) : s.Safe := by
  obtain ⟨heap, hwrite, rfl⟩ := Option.map_eq_some_iff.mp hfill
  obtain ⟨block, hblock, hstore⟩ := Option.bind_eq_some_iff.mp hwrite
  split at hstore
  · rename_i hroom
    obtain rfl := Option.some.inj hstore
    refine ⟨fun r hr => ?_, h.apart, h.free_le⟩
    obtain ⟨hbuf, hend, block', hblock', hsize⟩ := h.inside r hr
    refine ⟨hbuf, hend, ?_⟩
    by_cases hp : r.block = ptr.block
    · refine ⟨block, hp ▸ hblock, ?_⟩
      change (s.env.heap.set ptr.block _).blocks r.block = some block' at hblock'
      rw [hp, BlockHeap.blocks_set_self] at hblock'
      obtain rfl := Option.some.inj hblock'
      rwa [ByteBlock.length_store hroom] at hsize
    · refine ⟨block', ?_, hsize⟩
      simpa [BlockHeap.set, hp] using hblock'
  · cases hstore

/-- However the calls follow each other and however the socket cuts up what it is given:
the stream is safe, and stays so when another region is handed out; what has been sent is the
packets in the order of the calls as far as it goes, and it is all of them behind a call that
flushes. -/
theorem packets_sent_in_order (sock : Int) (bufSize : UInt32) (env : Environment)
    (hsock : 0 ≤ sock) (hsends : SendResult.failed ∉ env.sends)
    (hallocs : false ∉ env.allocations) (hsent : env.sent = []) (calls : List Call) :
    ∃ s, (ofSocket sock bufSize env).run calls = some s ∧ s.Safe ∧
      (∀ packet : Packet, ∃ ptr s', s.alloc packet.len = some (some ptr, s') ∧
        s'.Safe ∧ s'.unflushed.getLast? = some ptr) ∧
      s.env.sent <+: (calls.flatMap Call.packet).map some ∧
      ∀ c ∈ calls.getLast?, c.flushes = true →
        s.env.sent = (calls.flatMap Call.packet).map some := by
  obtain ⟨s, done, held, hrun, hqueue, hsame, hflushed⟩ :=
    run_spec calls (queue_ofSocket bufSize hsock hsends hallocs hsent) rfl
  rw [List.nil_append] at hsame
  refine ⟨s, hrun, hqueue.safe, ?_, ?_, ?_⟩
  · intro packet
    obtain ⟨s', s'', ptr, done', held', halloc, hlast, hfill, hqueue', -⟩ :=
      alloc_fill_spec hqueue packet
    exact ⟨ptr, s', halloc, hqueue'.safe.of_fill hfill, hlast⟩
  · rw [← hsame, List.map_append, hqueue.sent]
    exact List.prefix_append _ _
  · intro c hc hcf
    rw [← hsame, hflushed c hc hcf, List.append_nil, hqueue.sent]

/-- Packets below, at and above the size of the buffer, and a socket that takes one or two
bytes at first. -/
theorem packets_sent_in_order_three_sizes :
    ∃ s, (ofSocket 5 4
        ⟨BlockHeap.empty, [true], [.accepted 1, .interrupted, .accepted 2], [], []⟩).run
        [.alloc ⟨[1, 2, 3], by decide, by decide⟩, .alloc ⟨[4, 5, 6, 7, 8, 9], by decide, by decide⟩,
          .alloc ⟨[10, 11, 12, 13], by decide, by decide⟩, .flushWrite [14], .flush] = some s ∧
      s.Safe ∧
      s.env.sent = [1, 2, 3, 4, 5, 6, 7, 8, 9, 10, 11, 12, 13, 14].map some := by
  obtain ⟨s, hrun, hsafe, -, -, hsent⟩ := packets_sent_in_order 5 4
    ⟨BlockHeap.empty, [true], [.accepted 1, .interrupted, .accepted 2], [], []⟩
    (by decide) (by decide) (by decide) rfl
    [.alloc ⟨[1, 2, 3], by decide, by decide⟩, .alloc ⟨[4, 5, 6, 7, 8, 9], by decide, by decide⟩,
      .alloc ⟨[10, 11, 12, 13], by decide, by decide⟩, .flushWrite [14], .flush]
  exact ⟨s, hrun, hsafe, hsent .flush rfl rfl⟩

end SocketStream
end OpenglCodecCommon
end DeviceAndroVM
