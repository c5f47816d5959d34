import DeviceAndroVM.Wire.Gl2Enc
import DeviceAndroVM.Wire.GlEnc
import DeviceAndroVM.Wire.RenderControlEnc

/-!
# The stream to the host

`HostConnection::get` connects a thread to the host, once, and all encoders of the thread write to
the one stream.

* `HostConnection.get` — the stream behind the flags that are sent first; `get_spec`.
* `StreamCall` — a call of one of the three encoders.
* `hostKinds_op` — the operations of the encoders are apart, so that one reader knows them all.
* `Extends` — what a use of the stream leaves as it is: what has been sent and what has come.
-/

namespace DeviceAndroVM
namespace Wire

open Library OpenglCodecCommon

/-- `STREAM_BUFFER_SIZE`. -/
def STREAM_BUFFER_SIZE : UInt32 := 4 * 1024 * 1024

/-- The zero `clientFlags`. -/
def clientFlags : List UInt8 := littleEndian 4 0

/-- The stream that `HostConnection::get` makes when its socket is connected. -/
def HostConnection.get (sock : Int) (env : Environment) : Option SocketStream :=
  match (SocketStream.ofSocket sock STREAM_BUFFER_SIZE env).allocBuffer 4 with
  | (none, _) => none
  | (some pClientFlags, con) =>
      (con.fill ⟨pClientFlags, 0, 4⟩ clientFlags).bind fun con =>
        (con.commitBuffer 4).map Prod.snd

/-! ## The encoders of a thread -/

/-- A call of `glEncoder()`, `gl2Encoder()` or `rcEncoder()`. -/
inductive StreamCall
  | gl (ctx : EncoderContext) (call : GlCall)
  | gl2 (ctx : EncoderContext) (call : Gl2Call)
  | rc (call : RenderControlCall)

def StreamCall.enc : StreamCall → EncCall
  | gl ctx call => call.enc ctx
  | gl2 ctx call => call.enc ctx
  | rc call => call.enc

/-- The fields of an operation, for a reader that asks one decoder after the other. -/
def hostKinds (op : Nat) : Option (List FieldKind) :=
  (glKinds op).or ((gl2Kinds op).or (renderControlKinds op))

theorem lookup_eq_none_of_lt {entries : List (Nat × List FieldKind)} {bound op : Nat}
    (h : ∀ entry ∈ entries, entry.1 < bound) (hop : bound ≤ op) : entries.lookup op = none := by
  rw [List.lookup_eq_none_iff]
  intro entry hentry
  have hlt := h entry hentry
  rw [bne_iff_ne]
  omega

theorem le_of_lookup {entries : List (Nat × List FieldKind)} {bound op : Nat}
    {kinds : List FieldKind} (h : ∀ entry ∈ entries, bound ≤ entry.1)
    (hlookup : entries.lookup op = some kinds) : bound ≤ op := by
  by_contra hlt
  have hnone : entries.lookup op = none := by
    rw [List.lookup_eq_none_iff]
    intro entry hentry
    have hle := h entry hentry
    rw [bne_iff_ne]
    omega
  rw [hnone] at hlookup
  cases hlookup

/-- `OP_last` of `gl_opcodes.h` and `gl2_opcodes.h` is not above the next first operation. -/
theorem glApi_lt : ∀ entry ∈ glApi, entry.1 < 2048 := by decide +kernel

theorem le_gl2Api : ∀ entry ∈ gl2Api, 2048 ≤ entry.1 := by decide +kernel

theorem gl2Api_lt : ∀ entry ∈ gl2Api, entry.1 < renderControlBase := by decide +kernel

/-- The reader knows the fields of every call. -/
theorem hostKinds_op (c : StreamCall) : hostKinds c.enc.op = some c.enc.kinds := by
  cases c with
  | gl ctx call => rw [StreamCall.enc, hostKinds, call.kinds_enc, Option.some_or]
  | gl2 ctx call =>
      have hkinds := call.kinds_enc ctx
      have hnone : glKinds (call.enc ctx).op = none :=
        lookup_eq_none_of_lt glApi_lt (le_of_lookup le_gl2Api hkinds)
      rw [StreamCall.enc, hostKinds, hnone, hkinds, Option.none_or, Option.some_or]
  | rc call =>
      have hkinds := call.kinds_enc
      have hbase : renderControlBase ≤ call.enc.op := by
        by_contra hlt
        rw [renderControlKinds, if_pos (by omega)] at hkinds
        cases hkinds
      have hgl : glKinds call.enc.op = none :=
        lookup_eq_none_of_lt glApi_lt (Nat.le_trans (by decide) hbase)
      have hgl2 : gl2Kinds call.enc.op = none := lookup_eq_none_of_lt gl2Api_lt hbase
      rw [StreamCall.enc, hostKinds, hgl, hgl2, hkinds, Option.none_or, Option.none_or]

/-! ## What a use of the stream leaves as it is -/

/-- What has been sent is sent, and what has come stays until it is read. -/
structure Extends (s s' : SocketStream) : Prop where
  sent : s.env.sent <+: s'.env.sent
  receives : s'.env.receives = s.env.receives

namespace Extends

variable {s s' s'' : SocketStream}

theorem refl (s : SocketStream) : Extends s s := ⟨List.prefix_rfl, rfl⟩

theorem trans (h : Extends s s') (h' : Extends s' s'') : Extends s s'' :=
  ⟨h.sent.trans h'.sent, h'.receives.trans h.receives⟩

theorem of_eq (hsent : s'.env.sent = s.env.sent) (hreceives : s'.env.receives = s.env.receives) :
    Extends s s' :=
  ⟨hsent ▸ List.prefix_rfl, hreceives⟩

theorem writeFully {buffer : Option ByteBlock} {stat : Int}
    (h : s.writeFully buffer = some (stat, s')) : Extends s s' := by
  unfold SocketStream.writeFully at h
  split at h
  · obtain ⟨-, rfl⟩ : (-1 : Int) = stat ∧ s = s' := by simpa using h
    exact refl s
  · obtain ⟨bytes, -, hbytes⟩ := Option.map_eq_some_iff.mp h
    obtain ⟨-, rfl⟩ := Prod.mk.inj hbytes
    exact ⟨List.prefix_append _ _, rfl⟩

theorem flush {stat : Int} (h : s.flush = some (stat, s')) : Extends s s' := by
  unfold SocketStream.flush at h
  split at h
  · obtain ⟨-, rfl⟩ : (0 : Int) = stat ∧ s = s' := by simpa using h
    exact refl s
  · obtain ⟨⟨stat', s₁⟩, hcommit, hs₁⟩ := Option.map_eq_some_iff.mp h
    obtain ⟨-, rfl⟩ := Prod.mk.inj hs₁
    have hwrite := writeFully hcommit
    exact ⟨hwrite.sent, hwrite.receives⟩

theorem allocBuffer (s : SocketStream) (minSize : UInt32) :
    Extends s (s.allocBuffer minSize).2 := by
  unfold SocketStream.allocBuffer
  generalize (if s.m_bufsize < minSize then minSize else s.m_bufsize) = allocSize
  cases s.m_buf with
  | none =>
      unfold Environment.malloc
      dsimp only
      split <;> exact of_eq rfl rfl
  | some old =>
      dsimp only
      split
      · unfold Environment.realloc
        cases s.env.allocations.headD true with
        | true => exact of_eq rfl rfl
        | false => exact of_eq rfl rfl
      · exact refl s

theorem getBuffer (s : SocketStream) (len : UInt32) : Extends s (s.getBuffer len).2 := by
  unfold SocketStream.getBuffer
  split
  · dsimp only
    generalize hsize : (Int32.toUInt32 _) = size
    have hbuffer := allocBuffer s size
    cases hcase : s.allocBuffer size with
    | mk p s₁ =>
        rw [hcase] at hbuffer
        cases p with
        | none => exact ⟨hbuffer.sent, hbuffer.receives⟩
        | some p => exact ⟨hbuffer.sent, hbuffer.receives⟩
  · exact refl s

theorem alloc {len : UInt32} {ptr : Option Region} (h : s.alloc len = some (ptr, s')) :
    Extends s s' := by
  unfold SocketStream.alloc at h
  obtain ⟨⟨flushed, s₁⟩, hflush, hrest⟩ := Option.bind_eq_some_iff.mp h
  have hfirst : Extends s s₁ := by
    unfold SocketStream.flushIfFull at hflush
    split at hflush
    · obtain ⟨⟨stat, s₂⟩, hstat, hs₂⟩ := Option.map_eq_some_iff.mp hflush
      obtain ⟨-, rfl⟩ := Prod.mk.inj hs₂
      exact flush hstat
    · obtain ⟨-, rfl⟩ := Prod.mk.inj (Option.some.inj hflush)
      exact refl s
  have hsecond := getBuffer s₁ len
  dsimp only at hrest
  cases hcase : s₁.getBuffer len with
  | mk allocated s₂ =>
      rw [hcase] at hrest hsecond
      dsimp only at hrest hsecond
      split at hrest
      · obtain ⟨-, rfl⟩ := Prod.mk.inj (Option.some.inj hrest)
        exact hfirst
      · split at hrest
        · obtain ⟨-, rfl⟩ := Prod.mk.inj (Option.some.inj hrest)
          exact hfirst.trans hsecond
        · obtain ⟨p, -, hp⟩ := Option.map_eq_some_iff.mp hrest
          obtain ⟨-, rfl⟩ := Prod.mk.inj hp
          exact hfirst.trans ⟨hsecond.sent, hsecond.receives⟩

theorem fill {ptr : Region} {data : List UInt8} (h : s.fill ptr data = some s') :
    Extends s s' := by
  obtain ⟨heap, -, rfl⟩ := Option.map_eq_some_iff.mp h
  exact of_eq rfl rfl

/-- A call that does not read back. -/
theorem call {c : Call} (h : s.call c = some s') (hread : ∀ buf len, c ≠ .readback buf len) :
    Extends s s' := by
  cases c with
  | alloc packet =>
      obtain ⟨⟨ptr, s₁⟩, halloc, hptr⟩ := Option.bind_eq_some_iff.mp h
      cases ptr with
      | none =>
          obtain rfl := Option.some.inj hptr
          exact alloc halloc
      | some ptr => exact (alloc halloc).trans (fill hptr)
  | flush =>
      obtain ⟨⟨stat, s₁⟩, hflush, rfl⟩ := Option.map_eq_some_iff.mp h
      exact flush hflush
  | flushWrite data =>
      obtain ⟨⟨stat, s₁⟩, hflush, hrest⟩ := Option.bind_eq_some_iff.mp h
      obtain ⟨⟨stat', s₂⟩, hwrite, rfl⟩ := Option.map_eq_some_iff.mp hrest
      exact (flush hflush).trans (writeFully hwrite)
  | readback buf len => exact absurd rfl (hread buf len)

end Extends

/-! ## The start -/

/-- The new stream has sent the flags and holds nothing. -/
theorem HostConnection.get_spec {sock : Int} {env : Environment} (hsock : 0 ≤ sock)
    (hsends : SendResult.failed ∉ env.sends) (hallocs : false ∉ env.allocations)
    (hsent : env.sent = []) :
    ∃ s, HostConnection.get sock env = some s ∧ s.Queue clientFlags [] ∧
      s.env.receives = env.receives := by
  have hqueue := SocketStream.queue_ofSocket STREAM_BUFFER_SIZE hsock hsends hallocs hsent
  obtain ⟨p, s₁, halloc, hio, hregions, hsock₁, hsends₁, hsent₁, hallocs₁, hbuf, block, hblock, hmin,
    hown⟩ := SocketStream.allocBuffer_spec hqueue 4
  have hreceives := (Extends.allocBuffer
    (SocketStream.ofSocket sock STREAM_BUFFER_SIZE env) 4).receives
  rw [halloc] at hreceives
  have hlen : clientFlags.length = 4 := length_littleEndian 4 0
  have hroom : 0 + clientFlags.length ≤ block.length := by
    rw [hlen]
    exact (Nat.zero_add 4).symm ▸ hmin
  have hfill : s₁.fill ⟨p, 0, 4⟩ clientFlags =
      some { s₁ with env := { s₁.env with
        heap := s₁.env.heap.set p (some (block.store 0 clientFlags)) } } := by
    simp [SocketStream.fill, BlockHeap.write_eq hblock hroom]
  set s₂ : SocketStream := { s₁ with env := { s₁.env with
    heap := s₁.env.heap.set p (some (block.store 0 clientFlags)) } } with hs₂
  have hqueue₂ : s₂.Queue [] [] := {
    connected := by simpa [SocketStream.valid, hs₂, hsock₁] using hqueue.connected
    sends := by simpa [hs₂, hsends₁] using hqueue.sends
    allocations := hallocs₁
    sent := by simpa [hs₂, hsent₁] using hqueue.sent
    room := fun q hq => by
      obtain rfl : p = q := Option.some.inj (hbuf.symm.trans hq)
      exact ⟨_, BlockHeap.blocks_set_self _ _ _, by rw [ByteBlock.length_store hroom]; exact hown⟩
    idle := fun _ => rfl
    nothing := fun _ => hregions
    current := fun q hq => by
      change s₁.io.m_buf = some q at hq
      rw [hio] at hq
      cases hq }
  have hread : s₂.m_buf.bind (fun p => s₂.env.heap.read p (4 : UInt32).toNat) =
      some (clientFlags.map some) := by
    have hlong : 4 ≤ (block.store 0 clientFlags).length := by
      rw [ByteBlock.length_store hroom]
      omega
    have hstored := ByteBlock.take_store hroom
    rw [Nat.zero_add, hlen, List.take_zero, List.nil_append] at hstored
    have hblock₂ : s₂.env.heap.blocks p = some (block.store 0 clientFlags) :=
      BlockHeap.blocks_set_self _ _ _
    change s₁.m_buf.bind _ = _
    rw [hbuf, Option.bind_some, ← hstored]
    exact BlockHeap.read_eq hblock₂ hlong
  obtain ⟨s₃, hwrite, -, -, hqueue₃⟩ := hqueue₂.writeFully clientFlags
  have hcommit : s₂.commitBuffer 4 = some (0, s₃) := by
    rw [SocketStream.commitBuffer, hread, hwrite]
  refine ⟨s₃, ?_, hqueue₃, ?_⟩
  · simp [HostConnection.get, halloc, hfill, hcommit]
  · rw [(Extends.writeFully hwrite).receives]
    exact hreceives

/-! ## What the host can read -/

/-- A call of a thread, whose packet has a size that a `size_t` counts, with what stands in the
room for its outputs. -/
structure Request where
  call : StreamCall
  leftover : List UInt8
  fits : call.enc.message.Fits
  filled : leftover.length = call.enc.message.room

namespace Request

def issued (r : Request) : Issued := ⟨r.call.enc, r.leftover, r.fits, r.filled⟩

/-- All that the function does with the stream. -/
def streamCalls (r : Request) : List Call :=
  r.issued.streamCalls ++ r.call.enc.readbacks.map (Call.readback true)

theorem flatMap_packet_streamCalls (r : Request) :
    r.streamCalls.flatMap Call.packet = r.issued.sent.packet := by
  have hreadbacks (lens : List UInt32) :
      (lens.map (Call.readback true)).flatMap Call.packet = [] := by
    simp [List.flatMap_map, Call.packet]
  rw [streamCalls, List.flatMap_append, hreadbacks, List.append_nil]
  exact r.issued.flatMap_packet_streamCalls

end Request

/-- The bytes behind the flags that a stream has sent. -/
def sentBytes (s : SocketStream) : List UInt8 :=
  (s.env.sent.drop clientFlags.length).map fun byte => byte.getD 0

theorem sent_readFully (s : SocketStream) (buf : Bool) (len : UInt32) :
    (s.readFully buf len).2.env.sent = s.env.sent := by
  unfold SocketStream.readFully
  split
  · rfl
  · split
    · rfl
    · rfl

/-- What has been sent is sent, also by a call that reads back. -/
theorem sent_call {s s' : SocketStream} {c : Call} (h : s.call c = some s') :
    s.env.sent <+: s'.env.sent := by
  by_cases hread : ∃ buf len, c = .readback buf len
  · obtain ⟨buf, len, rfl⟩ := hread
    obtain ⟨⟨bytes, s₁⟩, hreadback, rfl⟩ := Option.map_eq_some_iff.mp h
    obtain ⟨⟨stat, s₂⟩, hflush, hs₁⟩ := Option.map_eq_some_iff.mp hreadback
    have hsame := sent_readFully s₂ buf len
    dsimp only at hs₁
    rw [hs₁] at hsame
    exact hsame ▸ (Extends.flush hflush).sent
  · exact (Extends.call h fun buf len hc => hread ⟨buf, len, hc⟩).sent

theorem sent_run {s s' : SocketStream} {calls : List Call} (h : s.run calls = some s') :
    s.env.sent <+: s'.env.sent := by
  induction calls generalizing s with
  | nil =>
      obtain rfl : s = s' := Option.some.inj h
      exact List.prefix_rfl
  | cons c calls ih =>
      rw [SocketStream.run, List.foldlM_cons] at h
      obtain ⟨s₁, hcall, hrest⟩ := Option.bind_eq_some_iff.mp h
      exact (sent_call hcall).trans (ih hrest)

/-- Behind the flags, a stream has sent a first part of the packets of its calls, and all of them
behind a call that flushes. -/
theorem sentBytes_run {con : SocketStream} (hqueue : con.Queue clientFlags []) (calls : List Call) :
    ∃ s, con.run calls = some s ∧ sentBytes s <+: calls.flatMap Call.packet ∧
      ((∀ c ∈ calls.getLast?, c.flushes = true) → sentBytes s = calls.flatMap Call.packet) := by
  obtain ⟨s, done, held, hrun, hqueue', hall, hflushed⟩ :=
    SocketStream.run_spec calls hqueue rfl
  have hprefix := sent_run hrun
  rw [hqueue.sent, hqueue'.sent] at hprefix
  obtain ⟨early, rfl⟩ : clientFlags <+: done :=
    (List.prefix_map_iff_of_injective (Option.some_injective _)).mp hprefix
  have hearly : sentBytes s = early := by
    rw [sentBytes, hqueue'.sent, List.map_append, List.drop_left' (by simp), List.map_map]
    simp [Function.comp_def]
  rw [List.append_assoc] at hall
  have hsplit := List.append_cancel_left hall
  refine ⟨s, hrun, ?_, ?_⟩
  · rw [hearly, ← hsplit]
    exact List.prefix_append _ _
  · intro hlast
    rw [hearly, ← hsplit]
    cases hget : calls.getLast? with
    | none =>
        rw [List.getLast?_eq_none_iff] at hget
        rw [hget, List.flatMap_nil] at hsplit
        rw [(List.append_eq_nil_iff.mp hsplit).2, List.append_nil]
    | some c => rw [hflushed c hget (hlast c hget), List.append_nil]

/-- The packets of the calls, for the library. -/
theorem flatMap_streamCalls (requests : List Request) :
    (requests.flatMap Request.streamCalls).flatMap Call.packet =
      (requests.map fun r => r.issued.sent).flatMap Sent.packet := by
  rw [List.flatMap_assoc, List.flatMap_map]
  congr 1
  funext r
  exact r.flatMap_packet_streamCalls

theorem decode_packet (r : Request) :
    decodePacket hostKinds r.issued.sent.packet = some r.call.enc.message := by
  have hkinds := hostKinds_op r.call
  rw [← r.call.enc.kinds_message, ← r.call.enc.op_message] at hkinds
  exact Message.decode_encode r.fits hkinds r.leftover

/-- A call of `glBindBuffer` and one of `rcGetEGLVersion`. -/
def bindThenVersion : List Request :=
  [{ call := .gl2 ⟨.init, fun _ _ => 0#32, fun _ => 0⟩ (.glBindBuffer 0x8892#32 7#32)
     leftover := []
     fits := ⟨by decide, by decide⟩
     filled := rfl },
    { call := .rc .rcGetEGLVersion
      leftover := List.replicate 8 0xCD
      fits := ⟨by decide, by decide⟩
      filled := rfl }]

end Wire
end DeviceAndroVM
