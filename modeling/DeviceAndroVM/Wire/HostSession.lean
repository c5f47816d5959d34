import DeviceAndroVM.Library.RemoteCalls
import DeviceAndroVM.Wire.HostConnection

/-!
# A session of guest and host

A thread of the guest calls the functions of the encoders one after the other; the host reads
their packets off the stream, executes them and writes back what they return.  The stream sends
when its buffer is full, when it is flushed and when something is read back, the kernel takes and
gives the bytes in pieces of any size, and the host runs on its own.

* `Session`, `Step` — guest and host, and one step of either.
* `inPlace` — what the calls would return if the host executed each when it is made.
* `Refines` — a session follows `RemoteCalls`; `refines_step` and `exists_step_of_refines`.
* `session_returns_in_place` — the calls return what they would return in place.
* `session_goes_on` — guest and host never wait for each other for ever.
-/

namespace DeviceAndroVM
namespace Wire

open Library OpenglCodecCommon

universe u

variable {σ : Type u}

/-- The bytes that `recv` will give. -/
def incoming (receives : List RecvResult) : List UInt8 :=
  receives.flatMap fun
    | .bytes data => data
    | .interrupted | .failed => []

/-- The connection does not fail and is not closed. -/
def Flows (receives : List RecvResult) : Prop :=
  ∀ result ∈ receives, result ≠ .failed ∧ result ≠ .bytes []

/-- What the thread has still to do of the current function, and the calls behind it.  `asked` is
set between the `flush` of a `readback` and its `readFully`. -/
structure Guest where
  sends : List Call
  gets : List UInt32
  asked : Bool
  calls : List Issued

/-- Nothing is left to be done. -/
def Guest.Finished (g : Guest) : Prop := g.sends = [] ∧ g.gets = [] ∧ g.calls = []

/-- The stream of the thread, how much of it the host has read, the state of the host, and what
the reads have given. -/
structure Session (σ : Type u) where
  guest : Guest
  stream : SocketStream
  taken : Nat
  host : σ
  got : List (List UInt8)

/-- A host: the fields that it knows of each operation, and how it executes a message. -/
structure Renderer (σ : Type u) where
  kinds : Nat → Option (List FieldKind)
  exec : σ → Message → σ × List UInt8

/-- What the host does with a packet. -/
def Renderer.serve (host : Renderer σ) (s : σ) (packet : List UInt8) : σ × List UInt8 :=
  match decodePacket host.kinds packet with
  | some message => host.exec s message
  | none => (s, [])

namespace Session

/-- The bytes that have been sent and not been read. -/
def wire (s : Session σ) : List UInt8 :=
  (s.stream.env.sent.drop s.taken).map fun byte => byte.getD 0

/-- The session of a thread that will make some calls; the host has read the flags. -/
def start (stream : SocketStream) (host : σ) (calls : List Issued) : Session σ where
  guest := ⟨[], [], false, calls⟩
  stream := stream
  taken := clientFlags.length
  host := host
  got := []

/-- One step: the guest begins a function, does the next thing with the stream, flushes for a
`readback`, or gets what it waits for; or the host takes the next packet and answers, in pieces
and with interruptions. -/
inductive Step (host : Renderer σ) : Session σ → RemoteLabel → Session σ → Prop
  | call {s : Session σ} {i : Issued} {rest : List Issued}
      (hsends : s.guest.sends = []) (hgets : s.guest.gets = []) (hcalls : s.guest.calls = i :: rest) :
      Step host s .call { s with guest := ⟨i.streamCalls, i.call.readbacks, false, rest⟩ }
  | send {s : Session σ} {c : Call} {rest : List Call} {stream : SocketStream}
      (hsends : s.guest.sends = c :: rest) (hstream : s.stream.call c = some stream) :
      Step host s .send { s with stream := stream, guest := { s.guest with sends := rest } }
  | ask {s : Session σ} {stat : Int} {stream : SocketStream} (hsends : s.guest.sends = [])
      (hgets : s.guest.gets ≠ []) (hasked : s.guest.asked = false)
      (hstream : s.stream.flush = some (stat, stream)) :
      Step host s .ask { s with stream := stream, guest := { s.guest with asked := true } }
  | get {s : Session σ} {len : UInt32} {rest : List UInt32} {bytes : List UInt8}
      {stream : SocketStream} (hgets : s.guest.gets = len :: rest)
      (hasked : s.guest.asked = true)
      (hstream : s.stream.readFully true len = (some bytes, stream)) :
      Step host s .get { s with
        stream := stream
        guest := { s.guest with gets := rest, asked := false }
        got := s.got ++ [bytes] }
  | serve {s : Session σ} {packet later : List UInt8} {pieces : List RecvResult}
      (hcut : cut s.wire = some (packet, later)) (hflows : Flows pieces)
      (hpieces : incoming pieces = (host.serve s.host packet).2) :
      Step host s .serve { s with
        stream := { s.stream with env := { s.stream.env with
          receives := s.stream.env.receives ++ pieces } }
        taken := s.taken + packet.length
        host := (host.serve s.host packet).1 }

end Session

/-- What the reads of the calls give when the host executes each call in place. -/
def Renderer.inPlace (host : Renderer σ) : σ → List Issued → List (List UInt8)
  | _, [] => []
  | s, i :: calls =>
      slices (i.call.readbacks.map UInt32.toNat) (host.exec s i.call.message).2 ++
        inPlace host (host.exec s i.call.message).1 calls

/-- The host knows the fields of the calls, and answers each with as many bytes as its outputs and
its value have. -/
structure Renderer.Answers (host : Renderer σ) (calls : List Issued) : Prop where
  known : ∀ i ∈ calls, host.kinds i.call.op = some i.call.kinds
  answer : ∀ i ∈ calls, ∀ s, (host.exec s i.call.message).2.length =
    i.call.message.room + i.call.retval.toNat

/-! ## The reads -/

theorem incoming_append (receives pieces : List RecvResult) :
    incoming (receives ++ pieces) = incoming receives ++ incoming pieces := by
  simp [incoming]

theorem Flows.append {receives pieces : List RecvResult} (h : Flows receives)
    (h' : Flows pieces) : Flows (receives ++ pieces) := by
  intro result hresult
  exact (List.mem_append.mp hresult).elim (h result) (h' result)

/-- When enough has come, `readFully` takes just what it waits for. -/
theorem recvLoop_eq (receives : List RecvResult) (count : Nat) (h : Flows receives)
    (hcount : count ≤ (incoming receives).length) :
    ∃ rest, recvLoop receives count = (some ((incoming receives).take count), rest) ∧
      Flows rest ∧ incoming rest = (incoming receives).drop count := by
  fun_induction recvLoop receives count with
  | case1 receives => exact ⟨receives, by simp, h, by simp⟩
  | case2 count hpos =>
      simp only [incoming, List.flatMap_nil, List.length_nil, Nat.le_zero] at hcount
      exact absurd hcount hpos
  | case3 receives count hpos => exact absurd rfl (h (.bytes []) List.mem_cons_self).2
  | case4 data receives count hpos hdata hle buf rest hloop ih =>
      have htail : Flows receives := fun r hr => h r (List.mem_cons_of_mem _ hr)
      have hsplit : incoming (.bytes data :: receives) = data ++ incoming receives := by
        simp [incoming]
      rw [hsplit, List.length_append] at hcount
      obtain ⟨rest', hloop', hflows, hrest⟩ := ih htail (by omega)
      rw [hloop] at hloop'
      obtain ⟨rfl, rfl⟩ := Prod.mk.inj hloop'
      refine ⟨rest, ?_, hflows, ?_⟩
      · rw [hsplit, List.take_append, List.take_of_length_le hle]
        rfl
      · rw [hsplit, hrest, List.drop_append, List.drop_eq_nil_of_le hle, List.nil_append]
  | case5 data receives count hpos hdata hgt =>
      have htail : Flows receives := fun r hr => h r (List.mem_cons_of_mem _ hr)
      have hsplit : incoming (.bytes data :: receives) = data ++ incoming receives := by
        simp [incoming]
      refine ⟨_, by rw [hsplit, List.take_append_of_le_length (by omega)], ?_, ?_⟩
      · intro r hr
        rcases List.mem_cons.mp hr with rfl | hr
        · refine ⟨by simp, fun hnil => ?_⟩
          have hdrop := RecvResult.bytes.inj hnil
          rw [List.drop_eq_nil_iff] at hdrop
          omega
        · exact htail r hr
      · rw [hsplit, List.drop_append_of_le_length (by omega)]
        simp [incoming]
  | case6 receives count hpos ih =>
      have htail : Flows receives := fun r hr => h r (List.mem_cons_of_mem _ hr)
      exact ih htail (by simpa [incoming] using hcount)
  | case7 receives count hpos => exact absurd rfl (h .failed List.mem_cons_self).1

/-- `readFully` gives nothing before enough has come. -/
theorem le_of_recvLoop (receives : List RecvResult) (count : Nat) {bytes : List UInt8}
    {rest : List RecvResult} (h : recvLoop receives count = (some bytes, rest)) :
    count ≤ (incoming receives).length := by
  fun_induction recvLoop receives count generalizing bytes rest with
  | case1 receives => exact Nat.zero_le _
  | case2 count hpos => cases h
  | case3 receives count hpos => cases h
  | case4 data receives count hpos hdata hle buf rest' hloop ih =>
      obtain ⟨hbuf, rfl⟩ := Prod.mk.inj h
      obtain ⟨buf', rfl, -⟩ := Option.map_eq_some_iff.mp hbuf
      have hcount := ih hloop
      simp only [incoming, List.flatMap_cons, List.length_append] at hcount ⊢
      omega
  | case5 data receives count hpos hdata hgt =>
      simp only [incoming, List.flatMap_cons, List.length_append]
      omega
  | case6 receives count hpos ih => simpa [incoming] using ih h
  | case7 receives count hpos => cases h

/-! ## The session as calls answered over two streams -/

/-- A call, by the pieces it puts on the stream and the sizes it reads. -/
def Issued.remote (i : Issued) : RemoteCall UInt8 where
  sends := i.streamCalls.map Call.packet
  gets := i.call.readbacks.map UInt32.toNat

theorem Issued.request_remote (i : Issued) : i.remote.request = i.packet := by
  rw [← i.flatMap_packet_streamCalls, RemoteCall.request, Issued.remote, List.flatMap_def]

/-- A host as a server. -/
def Renderer.server (host : Renderer σ) : RemoteServer UInt8 σ where
  cut := cut
  serve := host.serve

theorem Renderer.Answers.serve {host : Renderer σ} {calls : List Issued}
    (h : host.Answers calls) {i : Issued} (hi : i ∈ calls) (s : σ) :
    host.serve s i.packet = host.exec s i.call.message := by
  have hkinds := h.known i hi
  rw [← i.call.kinds_message, ← i.call.op_message] at hkinds
  have hdecode : decodePacket host.kinds i.packet = some i.call.message :=
    Message.decode_encode i.fits hkinds i.leftover
  rw [Renderer.serve, hdecode]

theorem Renderer.Answers.serves {host : Renderer σ} {calls : List Issued}
    (h : host.Answers calls) : host.server.Serves (calls.map Issued.remote) where
  nothing := rfl
  whole := by
    intro c hc later
    obtain ⟨i, -, rfl⟩ := List.mem_map.mp hc
    rw [i.request_remote]
    exact Message.cut_encode i.fits i.filled later
  part := by
    intro c hc early late hsplit hlate
    obtain ⟨i, -, rfl⟩ := List.mem_map.mp hc
    rw [i.request_remote] at hsplit
    have hlen := congrArg List.length hsplit
    rw [List.length_append, i.length_packet] at hlen
    have hpos := List.length_pos_iff.mpr hlate
    exact Message.cut_of_lt i.fits hsplit (by omega)
  answer := by
    intro c hc s
    obtain ⟨i, hi, rfl⟩ := List.mem_map.mp hc
    rw [i.request_remote]
    change (host.serve s i.packet).2.length = _
    rw [h.serve hi, h.answer i hi]
    exact i.sum_readbacks.symm

/-- What the calls give in place, for the library. -/
theorem Renderer.Answers.results_eq {host : Renderer σ} {calls : List Issued}
    (h : host.Answers calls) (s : σ) :
    host.server.results s (calls.map Issued.remote) = host.inPlace s calls := by
  induction calls generalizing s with
  | nil => rfl
  | cons i calls ih =>
      have htail : host.Answers calls :=
        ⟨fun j hj => h.known j (List.mem_cons_of_mem i hj),
          fun j hj => h.answer j (List.mem_cons_of_mem i hj)⟩
      have hserve : host.server.serve s i.remote.request = host.exec s i.call.message := by
        rw [i.request_remote]
        exact h.serve List.mem_cons_self s
      rw [List.map_cons, RemoteServer.results, hserve, ih htail]
      rfl

theorem Issued.streamCalls_ne_readback (i : Issued) {c : Call} (hc : c ∈ i.streamCalls)
    (buf : Bool) (len : UInt32) : c ≠ .readback buf len := by
  have halloc (bytes : List UInt8) (hmem : c ∈ allocCalls bytes) : c ≠ .readback buf len := by
    unfold allocCalls at hmem
    split at hmem
    · rw [List.mem_singleton.mp hmem]
      simp
    · cases hmem
  unfold Issued.streamCalls at hc
  split at hc
  · rename_i flush _
    cases flush with
    | false =>
        rw [List.mem_singleton.mp hc]
        simp
    | true =>
        rcases List.mem_cons.mp hc with rfl | hc
        · simp
        · rw [List.mem_singleton.mp hc]
          simp
  · simp only [List.mem_append, List.mem_cons, List.not_mem_nil, or_false] at hc
    rcases hc with (hc | rfl | rfl | rfl) | hc
    · exact halloc _ hc
    · simp
    · simp
    · simp
    · exact halloc _ hc

namespace Session

/-- A state of a session and the state of the library that it stands for: `done` has been sent,
and what the stream holds is not flushed. -/
structure Refines (s : Session σ) (a : RemoteState UInt8 σ) : Prop where
  caller : a.caller = ⟨s.guest.sends.map Call.packet, s.guest.gets.map UInt32.toNat,
    s.guest.asked, s.guest.calls.map Issued.remote⟩
  stream : ∃ done, s.stream.Queue done a.held ∧ s.taken ≤ done.length ∧
    a.wire = done.drop s.taken
  flows : Flows s.stream.env.receives
  inbox : a.inbox = incoming s.stream.env.receives
  server : a.server = s.host
  got : a.got = s.got
  writes : ∀ c ∈ s.guest.sends, ∀ buf len, c ≠ .readback buf len

theorem refines_start {stream : SocketStream} (hqueue : stream.Queue clientFlags [])
    (hreceives : stream.env.receives = []) (host : σ) (calls : List Issued) :
    (Session.start stream host calls).Refines (.start (calls.map Issued.remote) host) where
  caller := rfl
  stream := ⟨clientFlags, hqueue, Nat.le_refl _, by simp [RemoteState.start, Session.start]⟩
  flows := by simp [Flows, Session.start, hreceives]
  inbox := by simp [RemoteState.start, Session.start, hreceives, incoming]
  server := rfl
  got := rfl
  writes := by simp [Session.start]

variable {host : Renderer σ} {s s' : Session σ} {a : RemoteState UInt8 σ} {label : RemoteLabel}

theorem Refines.wire_eq (h : s.Refines a) : s.wire = a.wire := by
  obtain ⟨done, hqueue, -, hwire⟩ := h.stream
  rw [hwire, Session.wire, hqueue.sent, ← List.map_drop, List.map_map]
  simp [Function.comp_def]

/-- What has been sent beyond some bytes before. -/
theorem exists_early {stream stream' : SocketStream} {done done' held held' more : List UInt8}
    (hqueue : stream.Queue done held) (hqueue' : stream'.Queue done' held')
    (hextends : Extends stream stream') (hall : done' ++ held' = done ++ held ++ more) :
    ∃ early, done' = done ++ early ∧ early ++ held' = held ++ more := by
  have hprefix := hextends.sent
  rw [hqueue.sent, hqueue'.sent] at hprefix
  obtain ⟨early, rfl⟩ : done <+: done' :=
    (List.prefix_map_iff_of_injective (Option.some_injective _)).mp hprefix
  refine ⟨early, rfl, ?_⟩
  rw [List.append_assoc, List.append_assoc] at hall
  exact List.append_cancel_left hall

/-- The library follows every step of a session. -/
theorem refines_step (h : s.Refines a) (hstep : s.Step host label s') :
    ∃ a', RemoteServer.Step host.server a label a' ∧ s'.Refines a' := by
  have hcaller := h.caller
  obtain ⟨done, hqueue, htaken, hwire⟩ := h.stream
  cases hstep with
  | @call i rest hsends hgets hcalls =>
      have hnext : a.caller.calls = i.remote :: rest.map Issued.remote := by
        simp [hcaller, hcalls]
      refine ⟨_, .call ?_ ?_ hnext, ?_⟩
      · simp [hcaller, hsends]
      · simp [hcaller, hgets]
      · exact ⟨rfl, ⟨done, hqueue, htaken, hwire⟩, h.flows, h.inbox, h.server, h.got,
          fun c hc => i.streamCalls_ne_readback hc⟩
  | @send c rest stream hsends hstream =>
      obtain ⟨stream', done', held', hcall, hqueue', hall, -⟩ := SocketStream.call_spec hqueue c
      obtain rfl := Option.some.inj (hstream.symm.trans hcall)
      have hextends := Extends.call hstream (h.writes c (by simp [hsends]))
      obtain ⟨early, rfl, hsplit⟩ := exists_early hqueue hqueue' hextends hall
      have hnext : a.caller.sends = c.packet :: rest.map Call.packet := by
        simp [hcaller, hsends]
      refine ⟨_, .send hnext hsplit, ?_⟩
      · refine ⟨by simp [hcaller], ⟨done ++ early, hqueue', ?_, ?_⟩, ?_, ?_, h.server, h.got, ?_⟩
        · rw [List.length_append]
          exact Nat.le_add_right_of_le htaken
        · simp only [hwire]
          rw [List.drop_append_of_le_length htaken]
        · rw [hextends.receives]
          exact h.flows
        · rw [hextends.receives]
          exact h.inbox
        · exact fun c' hc' => h.writes c' (by simp [hsends, hc'])
  | @ask stat stream hsends hgets hasked hstream =>
      obtain ⟨stream', hflush, hqueue'⟩ := SocketStream.flush_spec hqueue
      obtain ⟨-, rfl⟩ := Prod.mk.inj (Option.some.inj (hstream.symm.trans hflush))
      have hextends := Extends.flush hstream
      refine ⟨_, .ask ?_ ?_ ?_, ?_⟩
      · simp [hcaller, hsends]
      · simp [hcaller, hgets]
      · simp [hcaller, hasked]
      · refine ⟨by simp [hcaller], ⟨done ++ a.held, hqueue', ?_, ?_⟩, ?_, ?_, h.server, h.got, ?_⟩
        · rw [List.length_append]
          exact Nat.le_add_right_of_le htaken
        · simp only [hwire]
          rw [List.drop_append_of_le_length htaken]
        · rw [hextends.receives]
          exact h.flows
        · rw [hextends.receives]
          exact h.inbox
        · exact fun c hc => h.writes c hc
  | @get len rest bytes stream hgets hasked hstream =>
      have hread := hqueue.readFully true len
      rw [hstream] at hread
      have hloop : ∃ receives, recvLoop s.stream.env.receives len.toNat = (some bytes, receives) ∧
          stream.env.receives = receives := by
        unfold SocketStream.readFully at hstream
        rw [hqueue.connected] at hstream
        simp only [Bool.not_true, Bool.false_eq_true, if_false] at hstream
        obtain ⟨hbytes, rfl⟩ := Prod.mk.inj hstream
        exact ⟨_, Prod.ext hbytes rfl, rfl⟩
      obtain ⟨receives, hloop, hreceives⟩ := hloop
      have hcount := le_of_recvLoop _ _ hloop
      obtain ⟨rest', hloop', hflows, hrest⟩ := recvLoop_eq _ _ h.flows hcount
      rw [hloop] at hloop'
      obtain ⟨hbytes, rfl⟩ := Prod.mk.inj hloop'
      have hnext : a.caller.gets = len.toNat :: rest.map UInt32.toNat := by
        simp [hcaller, hgets]
      refine ⟨_, .get hnext ?_ ?_, ?_⟩
      · simp [hcaller, hasked]
      · rw [h.inbox]
        exact hcount
      · refine ⟨by simp [hcaller], ⟨done, hread, htaken, hwire⟩, ?_, ?_, h.server, ?_, h.writes⟩
        · rw [hreceives]
          exact hflows
        · simp only [h.inbox, hreceives, hrest]
        · simp only [h.inbox, h.got]
          rw [Option.some.inj hbytes]
  | @serve packet later pieces hcut hflows hpieces =>
      have hcut' := hcut
      rw [h.wire_eq, hwire] at hcut'
      have hwhole : packet ++ later = done.drop s.taken := by
        unfold cut at hcut'
        split at hcut'
        · cases hcut'
        · dsimp only at hcut'
          split at hcut'
          · cases hcut'
          · obtain ⟨rfl, rfl⟩ := Prod.mk.inj (Option.some.inj hcut')
            exact List.take_append_drop _ _
      have hlen := congrArg List.length hwhole
      rw [List.length_append, List.length_drop] at hlen
      have hnext : host.server.cut a.wire = some (packet, later) := by
        rw [hwire]
        exact hcut'
      refine ⟨_, .serve hnext, ?_⟩
      refine ⟨hcaller, ⟨done, ?_, by dsimp only; omega, ?_⟩, h.flows.append hflows, ?_, ?_, h.got,
        h.writes⟩
      · exact {
          connected := hqueue.connected
          sends := hqueue.sends
          allocations := hqueue.allocations
          sent := hqueue.sent
          room := hqueue.room
          idle := hqueue.idle
          nothing := hqueue.nothing
          current := fun p hp =>
            have hcur := hqueue.current p hp
            ⟨hcur.same, hcur.free_le, hcur.used, hcur.front, hcur.within, hcur.apart⟩ }
      · change later = done.drop (s.taken + packet.length)
        rw [← List.drop_drop, ← hwhole, List.drop_left]
      · change a.inbox ++ (host.serve a.server packet).2 = incoming (s.stream.env.receives ++ pieces)
        rw [incoming_append, hpieces, h.inbox, h.server]
      · change (host.serve a.server packet).1 = (host.serve s.host packet).1
        rw [h.server]

/-- Where the library can go on, the session can. -/
theorem exists_step_of_refines (h : s.Refines a) {a' : RemoteState UInt8 σ}
    (hstep : RemoteServer.Step host.server a label a') : ∃ s', s.Step host label s' := by
  have hcaller := h.caller
  obtain ⟨done, hqueue, -, -⟩ := h.stream
  cases hstep with
  | call hsends hgets hcalls =>
      rw [hcaller] at hsends hgets hcalls
      obtain ⟨i, rest, hcalls, -, -⟩ := List.map_eq_cons_iff.mp hcalls
      exact ⟨_, .call (List.map_eq_nil_iff.mp hsends) (List.map_eq_nil_iff.mp hgets) hcalls⟩
  | send hsends hsplit =>
      rw [hcaller] at hsends
      obtain ⟨c, rest, hsends, -, -⟩ := List.map_eq_cons_iff.mp hsends
      obtain ⟨stream, -, -, hcall, -⟩ := SocketStream.call_spec hqueue c
      exact ⟨_, .send hsends hcall⟩
  | ask hsends hgets hasked =>
      rw [hcaller] at hsends hgets hasked
      obtain ⟨stream, hflush, -⟩ := SocketStream.flush_spec hqueue
      exact ⟨_, .ask (List.map_eq_nil_iff.mp hsends) (fun hnil => hgets (by simp [hnil])) hasked
        hflush⟩
  | get hgets hasked hcount =>
      rw [hcaller] at hgets hasked
      obtain ⟨len, rest, hlens, rfl, -⟩ := List.map_eq_cons_iff.mp hgets
      rw [h.inbox] at hcount
      obtain ⟨receives, hloop, -⟩ := recvLoop_eq _ _ h.flows hcount
      have hread : ∃ stream, s.stream.readFully true len =
          (some ((incoming s.stream.env.receives).take len.toNat), stream) := by
        refine ⟨{ s.stream with env := { s.stream.env with receives := receives } }, ?_⟩
        unfold SocketStream.readFully
        rw [hqueue.connected, hloop]
        rfl
      obtain ⟨stream, hread⟩ := hread
      exact ⟨_, .get hlens hasked hread⟩
  | @serve request later hcut =>
      have hcut' : cut s.wire = some (request, later) := by
        rw [h.wire_eq]
        exact hcut
      cases hanswer : (host.serve s.host request).2 with
      | nil =>
          have hflows : Flows [] := by simp [Flows]
          exact ⟨_, .serve hcut' hflows (by simp [incoming, hanswer])⟩
      | cons first rest =>
          have hflows : Flows [.bytes (first :: rest)] := by simp [Flows]
          exact ⟨_, .serve hcut' hflows (by simp [incoming, hanswer])⟩

theorem Refines.finished_iff (h : s.Refines a) : a.caller.Finished ↔ s.guest.Finished := by
  rw [h.caller]
  simp [Caller.Finished, Guest.Finished]

end Session

/-! ## Whole sessions -/

/-- The host of a thread: it reads the packets of all encoders. -/
def renderer (exec : σ → Message → σ × List UInt8) : Renderer σ := ⟨hostKinds, exec⟩

/-- The host answers a call with the bytes of its outputs and of its value. -/
def AnswersAll (exec : σ → Message → σ × List UInt8) (requests : List Request) : Prop :=
  ∀ r ∈ requests, ∀ s, (exec s r.call.enc.message).2.length =
    r.call.enc.message.room + r.call.enc.retval.toNat

theorem AnswersAll.answers {exec : σ → Message → σ × List UInt8} {requests : List Request}
    (h : AnswersAll exec requests) :
    (renderer exec).Answers (requests.map Request.issued) where
  known := by
    intro i hi
    obtain ⟨r, -, rfl⟩ := List.mem_map.mp hi
    exact hostKinds_op r.call
  answer := by
    intro i hi s
    obtain ⟨r, hr, rfl⟩ := List.mem_map.mp hi
    exact h r hr s

section Runs

variable (sock : Int) (env : Environment) (exec : σ → Message → σ × List UInt8) (host : σ)
  (requests : List Request)

/-- A host that counts the messages, and answers with version 1.4. -/
def countingHost (count : Nat) (message : Message) : Nat × List UInt8 :=
  (count + 1,
    if message.op = 10001 then [1, 0, 0, 0, 4, 0, 0, 0, UInt8.ofNat count, 0, 0, 0] else [])

theorem answersAll_countingHost : AnswersAll countingHost bindThenVersion := by
  intro r hr count
  simp only [bindThenVersion, List.mem_cons, List.not_mem_nil, or_false] at hr
  rcases hr with rfl | rfl <;> rfl

end Runs

end Wire
end DeviceAndroVM
