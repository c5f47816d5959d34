import DeviceAndroVM.Camera.GenyClient
import DeviceAndroVM.Library.Transition

/-!
# Framing of the replies

Every query gets exactly the payload of its own reply, or fails because the query, a
`read` or `malloc` failed, in every run in which each header arrives in one piece and no
bytes of an earlier reply are on their way when it is read.  A header that arrives in
pieces fails its query.

* `Delivered` — what is claimed of a completed query.
* `HeaderFirst` — the condition on a step.
* `Framed` — the invariant: what is on its way is the rest of one reply and then whole
  replies.
* `queries_delivered` — every completed query of a run is delivered.
-/

namespace DeviceAndroVM
namespace Camera

open Library

namespace GenyClient

variable {c c' : GenyClient}

/-- What is claimed of a completed query: it got exactly the payload of its reply, or it
failed for a reason other than how the bytes were cut. -/
def Delivered (replies : List (Nat × List UInt8)) : Nat × QueryOutcome → Prop
  | (query, .received data) =>
      ∃ payload, (query, payload) ∈ replies ∧ data = payload.map fun byte => (query, byte)
  | (_, .failed why) => why ≠ .shortHeader ∧ why ≠ .payloadSize

def AllDelivered (c : GenyClient) : Prop := ∀ result ∈ c.results, Delivered c.replies result

/-- The condition on a step: a header is read in one piece, and nothing of another reply
is before it. -/
def HeaderFirst (c : GenyClient) : Step → Prop
  | .read (.bytes count) _ =>
      ∀ query, c.phase = .header query → count = 8 ∧ c.stream.head?.map Prod.fst = some query
  | _ => True

/-! ## The invariant -/

/-- A reply as it was sent. -/
structure Frame where
  query : Nat
  header : List UInt8
  payload : List UInt8

def Frame.bytes (f : Frame) : List (Nat × UInt8) := frame f.query f.header f.payload

/-- What is on its way before the first whole reply, by where the client stands. -/
def RestOk (replies : List (Nat × List UInt8)) (rest : List (Nat × UInt8)) : QueryPhase → Prop
  | .idle => True
  | .header query => ∀ byte ∈ rest, byte.1 ≠ query
  | .payload query payload_size data =>
      ∃ payload, (query, payload) ∈ replies ∧ payload_size = payload.length ∧
        data ++ rest = payload.map fun byte => (query, byte)

/-- Another reply changes nothing for the one that is being read. -/
theorem RestOk.reply {replies : List (Nat × List UInt8)} {rest : List (Nat × UInt8)}
    {phase : QueryPhase} (h : RestOk replies rest phase) (new : Nat × List UInt8) :
    RestOk (new :: replies) rest phase := by
  cases phase with
  | idle => trivial
  | header query => exact h
  | payload query payload_size data =>
      obtain ⟨own, hown, hsize, hdata⟩ := h
      exact ⟨own, List.mem_cons_of_mem _ hown, hsize, hdata⟩

theorem Delivered.reply {replies : List (Nat × List UInt8)} {result : Nat × QueryOutcome}
    (h : Delivered replies result) (new : Nat × List UInt8) : Delivered (new :: replies) result := by
  obtain ⟨query, outcome⟩ := result
  cases outcome with
  | failed why => exact h
  | received data =>
      obtain ⟨own, hown, hdata⟩ := h
      exact ⟨own, List.mem_cons_of_mem _ hown, hdata⟩

/-- The bytes on their way are the rest of a reply and then whole replies. -/
structure Framed (c : GenyClient) : Prop where
  known : ∀ byte ∈ c.stream, byte.1 < c.queries
  pendingKnown : ∀ query ∈ c.pending, query < c.queries
  shape : ∃ (rest : List (Nat × UInt8)) (frames : List Frame),
    c.stream = rest ++ frames.flatMap Frame.bytes ∧ RestOk c.replies rest c.phase ∧
      ∀ f ∈ frames, (f.query, f.payload) ∈ c.replies ∧ WellFormedReply f.header f.payload
  delivered : c.AllDelivered

theorem framed_connectedClient : connectedClient.Framed where
  known := by simp [connectedClient]
  pendingKnown := by simp [connectedClient]
  shape := ⟨[], [], rfl, trivial, by simp⟩
  delivered := by simp [AllDelivered, connectedClient]

namespace Framed

/-- A completed query leaves what is on its way as it is. -/
theorem complete (h : c.Framed) {stream : List (Nat × UInt8)} {query : Nat}
    {outcome : QueryOutcome} (hsuffix : stream <:+ c.stream)
    (hshape : ∃ (rest : List (Nat × UInt8)) (frames : List Frame),
      stream = rest ++ frames.flatMap Frame.bytes ∧
        ∀ f ∈ frames, (f.query, f.payload) ∈ c.replies ∧ WellFormedReply f.header f.payload)
    (houtcome : Delivered c.replies (query, outcome)) :
    ({ c with stream := stream }.complete query outcome).Framed where
  known := fun byte hbyte => h.known byte (hsuffix.subset hbyte)
  pendingKnown := h.pendingKnown
  shape := by
    obtain ⟨rest, frames, hstream, hframes⟩ := hshape
    exact ⟨rest, frames, hstream, trivial, hframes⟩
  delivered := by
    intro result hresult
    rcases List.mem_cons.mp hresult with rfl | hresult
    · exact houtcome
    · exact h.delivered result hresult

/-- A query that fails before anything more is read. -/
theorem fail (h : c.Framed) (query : Nat) {why : Failure}
    (hwhy : why ≠ .shortHeader ∧ why ≠ .payloadSize) :
    (c.complete query (.failed why)).Framed := by
  obtain ⟨rest, frames, hstream, -, hframes⟩ := h.shape
  exact h.complete (List.suffix_refl _) ⟨rest, frames, hstream, hframes⟩ hwhy

/-- One more query has been made. -/
theorem queries_succ (h : c.Framed) (hidle : c.phase = .idle) :
    { c with queries := c.queries + 1 }.Framed where
  known := fun byte hbyte => Nat.lt_succ_of_lt (h.known byte hbyte)
  pendingKnown := fun query hquery => Nat.lt_succ_of_lt (h.pendingKnown query hquery)
  shape := by
    obtain ⟨rest, frames, hstream, -, hframes⟩ := h.shape
    refine ⟨rest, frames, hstream, ?_, hframes⟩
    change RestOk c.replies rest c.phase
    rw [hidle]
    trivial
  delivered := h.delivered

theorem doQuery (h : c.Framed) {valid sent : Bool} (hstep : c.doQuery valid sent = some c') :
    c'.Framed := by
  unfold GenyClient.doQuery at hstep
  split at hstep
  · rename_i hidle
    have hnext := h.queries_succ hidle
    dsimp only at hstep
    split at hstep
    · cases hstep
      exact hnext.fail c.queries ⟨nofun, nofun⟩
    split at hstep
    · cases hstep
      exact hnext.fail c.queries ⟨nofun, nofun⟩
    split at hstep
    · cases hstep
      exact hnext.fail c.queries ⟨nofun, nofun⟩
    cases hstep
    obtain ⟨rest, frames, hstream, -, hframes⟩ := hnext.shape
    -- everything on its way replies to an earlier query
    refine ⟨hnext.known, ?_, ⟨rest, frames, hstream, ?_, hframes⟩, hnext.delivered⟩
    · intro query hquery
      rcases List.mem_append.mp hquery with hold | hnew
      · exact hnext.pendingKnown query hold
      · obtain rfl := List.mem_singleton.mp hnew
        exact Nat.lt_succ_self _
    · intro byte hbyte
      have hmem : byte ∈ c.stream := by
        change byte ∈ { c with queries := c.queries + 1 }.stream
        rw [hstream]
        exact List.mem_append_left _ hbyte
      exact Nat.ne_of_lt (h.known byte hmem)
  · cases hstep

theorem serviceReply (h : c.Framed) {header payload : List UInt8}
    (hstep : c.serviceReply header payload = some c') : c'.Framed := by
  unfold GenyClient.serviceReply at hstep
  split at hstep
  · cases hstep
  rename_i query pending hpending
  split at hstep
  · rename_i hreply
    cases hstep
    obtain ⟨rest, frames, hstream, hrest, hframes⟩ := h.shape
    have hlt : query < c.queries := h.pendingKnown query (hpending ▸ List.mem_cons_self)
    refine ⟨?_, fun q hq => h.pendingKnown q (hpending ▸ List.mem_cons_of_mem _ hq), ?_, ?_⟩
    · intro byte hbyte
      rcases List.mem_append.mp hbyte with hold | hnew
      · exact h.known byte hold
      · obtain ⟨b, -, rfl⟩ := List.mem_map.mp hnew
        exact hlt
    · refine ⟨rest, frames ++ [⟨query, header, payload⟩], ?_, hrest.reply (query, payload), ?_⟩
      · simp [hstream, Frame.bytes]
      · intro f hf
        rcases List.mem_append.mp hf with hold | hnew
        · exact ⟨List.mem_cons_of_mem _ (hframes f hold).1, (hframes f hold).2⟩
        · obtain rfl := List.mem_singleton.mp hnew
          exact ⟨List.mem_cons_self, hreply⟩
    · exact fun result hresult => (h.delivered result hresult).reply (query, payload)
  · cases hstep

theorem disconnectClient (h : c.Framed) (hstep : c.disconnectClient = some c') : c'.Framed := by
  unfold GenyClient.disconnectClient at hstep
  split at hstep
  · rename_i hidle
    cases hstep
    refine ⟨by simp, by simp, ⟨[], [], rfl, ?_, by simp⟩, h.delivered⟩
    change RestOk c.replies [] c.phase
    rw [hidle]
    trivial
  · cases hstep

/-- When the first byte on its way is of the query whose header is to be read, then it
begins that query's whole reply. -/
theorem frame_first (h : c.Framed) {query : Nat} (hphase : c.phase = .header query)
    (hfirst : c.stream.head?.map Prod.fst = some query) :
    ∃ (f : Frame) (frames : List Frame), f.query = query ∧
      c.stream = f.bytes ++ frames.flatMap Frame.bytes ∧
        ∀ f' ∈ f :: frames,
          (f'.query, f'.payload) ∈ c.replies ∧ WellFormedReply f'.header f'.payload := by
  obtain ⟨rest, frames, hstream, hrest, hframes⟩ := h.shape
  rw [hphase] at hrest
  cases rest with
  | cons byte rest =>
      rw [hstream] at hfirst
      exact absurd (Option.some.inj hfirst) (hrest byte List.mem_cons_self)
  | nil =>
      cases frames with
      | nil =>
          rw [hstream] at hfirst
          cases hfirst
      | cons f frames =>
          refine ⟨f, frames, ?_, by simpa using hstream, hframes⟩
          obtain ⟨⟨hlength, -⟩, -⟩ := (hframes f List.mem_cons_self).2
          cases hheader : f.header with
          | nil =>
              rw [hheader] at hlength
              cases hlength
          | cons digit digits =>
              rw [hstream] at hfirst
              simpa [Frame.bytes, frame, hheader] using hfirst

theorem readHeader (h : c.Framed) {query : Nat} {res : ReadResult} {allocated : Bool}
    (hphase : c.phase = .header query) (hcond : c.HeaderFirst (.read res allocated))
    (hstep : c.readHeader query res allocated = some c') : c'.Framed := by
  unfold GenyClient.readHeader at hstep
  split at hstep
  · rename_i count
    obtain ⟨rfl, hfirst⟩ := hcond query hphase
    obtain ⟨f, frames, rfl, hstream, hframes⟩ := h.frame_first hphase hfirst
    obtain ⟨hsent, ⟨hlength, hdigits⟩, hvalue, hmin, hmax⟩ := hframes f List.mem_cons_self
    -- the eight bytes are the header of the query's own reply
    have hcut : c.stream = f.header.map (fun byte => (f.query, byte)) ++
        (f.payload.map (fun byte => (f.query, byte)) ++ frames.flatMap Frame.bytes) := by
      rw [hstream, Frame.bytes, frame, List.map_append, List.append_assoc]
    have htake : (c.stream.take 8).map Prod.snd = f.header := by
      rw [hcut, List.take_left' (by simpa using hlength), List.map_map]
      exact List.map_id'' (fun _ => rfl) _
    have hdrop : c.stream.drop 8 =
        f.payload.map (fun byte => (f.query, byte)) ++ frames.flatMap Frame.bytes := by
      rw [hcut, List.drop_left' (by simpa using hlength)]
    have hlater : ∀ f' ∈ frames,
        (f'.query, f'.payload) ∈ c.replies ∧ WellFormedReply f'.header f'.payload :=
      fun f' hf' => hframes f' (List.mem_cons_of_mem _ hf')
    split at hstep
    · dsimp only at hstep
      rw [if_neg (not_not_intro rfl), htake,
        CString.strtolHex_digits hdigits (hvalue ▸ hmax), hvalue] at hstep
      dsimp only at hstep
      rw [if_neg Bool.false_ne_true, hdrop] at hstep
      split at hstep
      · cases hstep
        refine h.complete ?_ ⟨_, frames, rfl, hlater⟩ ⟨nofun, nofun⟩
        exact hdrop ▸ List.drop_suffix 8 c.stream
      · -- what is left of the reply is its payload
        have hsize : ((f.payload.length : Int) % 0x100000000).toNat = f.payload.length := by
          omega
        rw [hsize] at hstep
        cases hstep
        refine ⟨?_, h.pendingKnown, ⟨_, frames, rfl, ⟨f.payload, hsent, rfl, rfl⟩, hlater⟩,
          h.delivered⟩
        intro byte hbyte
        exact h.known byte ((hdrop ▸ List.drop_suffix 8 c.stream).subset hbyte)
    · cases hstep
  · cases hstep
    exact h.fail query ⟨nofun, nofun⟩
  · split at hstep
    · cases hstep
      exact h.fail query ⟨nofun, nofun⟩
    · cases hstep

theorem readPayload (h : c.Framed) {query payload_size : Nat} {data : List (Nat × UInt8)}
    {res : ReadResult} (hphase : c.phase = .payload query payload_size data)
    (hstep : c.readPayload query payload_size data res = some c') : c'.Framed := by
  obtain ⟨rest, frames, hstream, hrest, hframes⟩ := h.shape
  rw [hphase] at hrest
  obtain ⟨payload, hsent, hsize, hdata⟩ := hrest
  have hlength : data.length + rest.length = payload_size := by
    rw [hsize, ← List.length_append, hdata, List.length_map]
  -- a read that brings nothing ends the loop
  have hended : (if data.length ≠ payload_size then c.complete query (.failed .payloadNotRead)
      else c.complete query (.received data)).Framed := by
    split
    · exact h.fail query ⟨nofun, nofun⟩
    · rename_i hall
      have hnil : rest = [] := List.eq_nil_of_length_eq_zero (by omega)
      refine h.complete (List.suffix_refl _) ⟨rest, frames, hstream, hframes⟩ ⟨payload, hsent, ?_⟩
      simpa [hnil] using hdata
  unfold GenyClient.readPayload at hstep
  dsimp only at hstep
  split at hstep
  · rename_i count
    split at hstep
    · rename_i hcount
      have hle : count ≤ rest.length := by omega
      have htake : c.stream.take count = rest.take count := by
        rw [hstream, List.take_append_of_le_length hle]
      have hdrop : c.stream.drop count = rest.drop count ++ frames.flatMap Frame.bytes := by
        rw [hstream, List.drop_append_of_le_length hle]
      have hjoin : data ++ rest.take count ++ rest.drop count =
          payload.map fun byte => (query, byte) := by
        rw [List.append_assoc, List.take_append_drop, hdata]
      rw [htake, hdrop] at hstep
      split at hstep
      · -- the last bytes of the payload
        rename_i hall
        cases hstep
        have hnil : rest.drop count = [] := by
          apply List.eq_nil_of_length_eq_zero
          rw [List.length_append, List.length_take] at hall
          rw [List.length_drop]
          omega
        refine h.complete ?_ ⟨_, frames, rfl, hframes⟩ ⟨payload, hsent, ?_⟩
        · exact hdrop ▸ List.drop_suffix count c.stream
        · rw [hnil, List.append_nil] at hjoin
          exact hjoin
      · -- more of it is to come
        cases hstep
        refine ⟨?_, h.pendingKnown, ⟨_, frames, rfl, ⟨payload, hsent, hsize, hjoin⟩, hframes⟩,
          h.delivered⟩
        intro byte hbyte
        exact h.known byte ((hdrop ▸ List.drop_suffix count c.stream).subset hbyte)
    · cases hstep
  · cases hstep
    exact hended
  · split at hstep
    · cases hstep
      exact hended
    · cases hstep

theorem run (h : c.Framed) {step : Step} (hcond : c.HeaderFirst step)
    (hstep : c.run step = some c') : c'.Framed := by
  cases step with
  | doQuery valid sent => exact h.doQuery hstep
  | serviceReply header payload => exact h.serviceReply hstep
  | disconnectClient => exact h.disconnectClient hstep
  | read res allocated =>
      change c.read res allocated = some c' at hstep
      unfold GenyClient.read at hstep
      split at hstep
      · cases hstep
      · rename_i query hphase
        exact h.readHeader hphase hcond hstep
      · rename_i query payload_size data hphase
        exact h.readPayload hphase hstep

end Framed

/-! ## Runs -/

/-- Over every run whose header reads meet the condition, for every way the bytes are cut
into segments, every order of replies and reads, and all failures: each query gets
exactly the payload of its own reply, or fails because something it needs failed. -/
theorem queries_delivered (trace : List (Step × GenyClient))
    (hrun : Run (fun c step c' => c.run step = some c') connectedClient trace)
    (hcond : EachStep (fun c step _ => c.HeaderFirst step) connectedClient trace) :
    Always AllDelivered trace := by
  have hkeep : ∀ (c : GenyClient) step c', c.Framed → c.HeaderFirst step →
      c.run step = some c' → c'.Framed := fun _ _ _ h hstep => h.run hstep
  have hframed := hrun.always_of_eachStep hkeep framed_connectedClient hcond
  exact hframed.imp fun c h => h.delivered

/-- A header that arrives in pieces fails its query, although nothing failed. -/
theorem not_allDelivered_of_short_read {query count : Nat} {allocated : Bool}
    (hphase : c.phase = .header query) (hcount : count ≠ 8)
    (hstep : c.run (.read (.bytes count) allocated) = some c') : ¬c'.AllDelivered := by
  change c.read (.bytes count) allocated = some c' at hstep
  unfold read at hstep
  rw [hphase] at hstep
  dsimp only [readHeader] at hstep
  split at hstep
  · cases hstep
    intro hall
    exact (hall (query, .failed .shortHeader) List.mem_cons_self).1 rfl
  · cases hstep

/-- The reply `ok`, with its terminator. -/
def okHeader : List UInt8 := CString.ofChars ['0', '0', '0', '0', '0', '0', '0', '3']

def okPayload : List UInt8 := [0x6F, 0x6B, 0]

/-- The payload arrives in two pieces. -/
theorem queries_delivered_split_payload :
    Always AllDelivered (partialTraceOf run connectedClient
      [.doQuery true true, .serviceReply okHeader okPayload, .read (.bytes 8) true,
        .read (.bytes 1) true, .read (.bytes 2) true]) := by
  refine queries_delivered _ (run_partialTraceOf _ _ _) ⟨trivial, trivial, ?_, ?_, ?_, trivial⟩
  · intro query hphase
    cases hphase
    exact ⟨rfl, rfl⟩
  · intro query hphase
    cases hphase
  · intro query hphase
    cases hphase

/-- The first query times out and is answered late: the second query is given the
payload of the first one's reply. -/
theorem late_reply_taken :
    ¬∀ trace : List (Step × GenyClient),
      Run (fun c step c' => c.run step = some c') connectedClient trace →
        Always AllDelivered trace := by
  intro h
  let steps := partialTraceOf run connectedClient
    [.doQuery true true, .read .failed true, .serviceReply okHeader okPayload,
      .doQuery true true, .read (.bytes 8) true, .read (.bytes 3) true]
  have halways := h steps (run_partialTraceOf _ _ _)
  have hlast : steps[5]?.map (fun entry => (entry.2.results, entry.2.replies)) =
      some ([(1, .received [(0, 0x6F), (0, 0x6B), (0, 0)]), (0, .failed .headerNotRead)],
        [(0, okPayload)]) := by decide
  obtain ⟨entry, hget, hbooks⟩ := Option.map_eq_some_iff.mp hlast
  obtain ⟨hresults, hreplies⟩ := Prod.mk.inj hbooks
  have hdelivered := halways entry (List.mem_of_getElem? hget)
  obtain ⟨payload, hpayload, -⟩ :=
    hdelivered (1, .received [(0, 0x6F), (0, 0x6B), (0, 0)]) (hresults ▸ List.mem_cons_self)
  rw [hreplies] at hpayload
  cases List.mem_singleton.mp hpayload

end GenyClient
end Camera
end DeviceAndroVM
