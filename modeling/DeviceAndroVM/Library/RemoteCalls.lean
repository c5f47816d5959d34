import DeviceAndroVM.Library.Transition
import Mathlib.Data.BitVec

/-!
# Calls answered over two streams

A caller puts requests on a stream that holds bytes back until it is flushed, and reads
answers of known sizes from another one.  A server cuts the first stream into requests as
they come and answers them one by one.  The two take their steps in any order.

* `RemoteCall`, `RemoteServer`, `Step` — the two parties.
* `results` — what the calls would give if the server were called in place.
* `Serves` — what the server is expected to do with the requests.
* `Progress` — the invariant; `progress_step` is the step lemma, `progress_run` the run lemma.
* `got_prefix_results`, `got_eq_results` — the caller gets what the calls in place would give.
* `exists_step`, `length_run_le` — the parties never wait for each other, and they come to an end.
-/

namespace DeviceAndroVM
namespace Library

universe u v

variable {α : Type u} {σ : Type v}

/-- A call: the pieces of its request, and the sizes of the answers that are then read. -/
structure RemoteCall (α : Type u) where
  sends : List (List α)
  gets : List Nat

/-- The whole request. -/
def RemoteCall.request (c : RemoteCall α) : List α := c.sends.flatten

/-- What a call takes of the caller's steps; a read takes two. -/
def RemoteCall.work (c : RemoteCall α) : Nat := 1 + c.sends.length + 2 * c.gets.length

/-- A server: how it finds the first request of a stream, and how it answers. -/
structure RemoteServer (α : Type u) (σ : Type v) where
  cut : List α → Option (List α × List α)
  serve : σ → List α → σ × List α

/-- What is left of the caller's program: of the current call and behind it.  `asked` is set
between the flush of a read and its end. -/
structure Caller (α : Type u) where
  sends : List (List α)
  gets : List Nat
  asked : Bool
  calls : List (RemoteCall α)

namespace Caller

/-- A caller that has not begun. -/
def start (calls : List (RemoteCall α)) : Caller α := ⟨[], [], false, calls⟩

/-- Nothing is left to be done. -/
def Finished (c : Caller α) : Prop := c.sends = [] ∧ c.gets = [] ∧ c.calls = []

/-- The steps that are left. -/
def work (c : Caller α) : Nat :=
  c.sends.length + (if c.asked then 2 * c.gets.length - 1 else 2 * c.gets.length) +
    (c.calls.map RemoteCall.work).sum

end Caller

/-- Both parties and the streams between them: `held` is not flushed yet, `wire` not cut off
yet by the server, `inbox` not read yet by the caller, and `got` are the answers read. -/
structure RemoteState (α : Type u) (σ : Type v) where
  caller : Caller α
  held : List α
  wire : List α
  server : σ
  inbox : List α
  got : List (List α)

/-- The state before the calls. -/
def RemoteState.start (calls : List (RemoteCall α)) (server : σ) : RemoteState α σ :=
  ⟨.start calls, [], [], server, [], []⟩

/-- The steps of the caller and of the server. -/
inductive RemoteLabel
  | call
  | send
  | ask
  | get
  | serve
  deriving DecidableEq

namespace RemoteServer

variable (S : RemoteServer α σ)

/-- One step.  Sending a piece may flush some or all of what is held, that piece included; what
is flushed without a piece is sent with an empty one. -/
inductive Step : RemoteState α σ → RemoteLabel → RemoteState α σ → Prop
  | call {s : RemoteState α σ} {c : RemoteCall α} {rest : List (RemoteCall α)}
      (hsends : s.caller.sends = []) (hgets : s.caller.gets = [])
      (hcalls : s.caller.calls = c :: rest) :
      Step s .call { s with caller := ⟨c.sends, c.gets, false, rest⟩ }
  | send {s : RemoteState α σ} {piece early late : List α} {rest : List (List α)}
      (hsends : s.caller.sends = piece :: rest) (hsplit : early ++ late = s.held ++ piece) :
      Step s .send { s with
        caller := { s.caller with sends := rest }
        wire := s.wire ++ early
        held := late }
  | ask {s : RemoteState α σ} (hsends : s.caller.sends = []) (hgets : s.caller.gets ≠ [])
      (hasked : s.caller.asked = false) :
      Step s .ask { s with
        caller := { s.caller with asked := true }
        wire := s.wire ++ s.held
        held := [] }
  | get {s : RemoteState α σ} {count : Nat} {rest : List Nat}
      (hgets : s.caller.gets = count :: rest) (hasked : s.caller.asked = true)
      (hcount : count ≤ s.inbox.length) :
      Step s .get { s with
        caller := { s.caller with gets := rest, asked := false }
        inbox := s.inbox.drop count
        got := s.got ++ [s.inbox.take count] }
  | serve {s : RemoteState α σ} {request later : List α}
      (hcut : S.cut s.wire = some (request, later)) :
      Step s .serve { s with
        wire := later
        server := (S.serve s.server request).1
        inbox := s.inbox ++ (S.serve s.server request).2 }

/-- The state of the server behind calls, and all its answers to them. -/
def answers : σ → List (RemoteCall α) → σ × List α
  | server, [] => (server, [])
  | server, c :: calls =>
      ((answers (S.serve server c.request).1 calls).1,
        (S.serve server c.request).2 ++ (answers (S.serve server c.request).1 calls).2)

end RemoteServer

/-- A list cut into pieces of the given sizes. -/
def slices : List Nat → List α → List (List α)
  | [], _ => []
  | count :: counts, l => l.take count :: slices counts (l.drop count)

namespace RemoteServer

variable (S : RemoteServer α σ)

/-- What the reads of the calls give when each call is served in place. -/
def results : σ → List (RemoteCall α) → List (List α)
  | _, [] => []
  | server, c :: calls =>
      slices c.gets (S.serve server c.request).2 ++ results (S.serve server c.request).1 calls

/-- The server cuts off each request when all of it has come and not before, and its answer has
the size that the call reads. -/
structure Serves (calls : List (RemoteCall α)) : Prop where
  nothing : S.cut [] = none
  whole : ∀ c ∈ calls, ∀ later, S.cut (c.request ++ later) = some (c.request, later)
  part : ∀ c ∈ calls, ∀ early late, early ++ late = c.request → late ≠ [] → S.cut early = none
  answer : ∀ c ∈ calls, ∀ server, (S.serve server c.request).2.length = c.gets.sum

end RemoteServer

/-! ## Slices -/

theorem slices_append {counts : List Nat} {l : List α} (h : l.length = counts.sum)
    (counts' : List Nat) (l' : List α) :
    slices (counts ++ counts') (l ++ l') = slices counts l ++ slices counts' l' := by
  induction counts generalizing l with
  | nil =>
      have hnil : l = [] := List.eq_nil_of_length_eq_zero h
      rw [hnil]
      rfl
  | cons count counts ih =>
      rw [List.sum_cons] at h
      have hle : count ≤ l.length := by omega
      simp only [List.cons_append, slices]
      rw [List.take_append_of_le_length hle, List.drop_append_of_le_length hle,
        ih (by rw [List.length_drop]; omega)]

theorem slices_flatten (got : List (List α)) (l : List α) :
    slices (got.map List.length) (got.flatten ++ l) = got := by
  induction got with
  | nil => rfl
  | cons first rest ih =>
      rw [List.map_cons, slices, List.flatten_cons, List.append_assoc, List.take_left' rfl,
        List.drop_left' rfl, ih]

theorem slices_prefix (counts counts' : List Nat) (l : List α) :
    slices counts l <+: slices (counts ++ counts') l := by
  induction counts generalizing l with
  | nil => exact List.nil_prefix
  | cons count counts ih => exact List.cons_prefix_cons.mpr ⟨rfl, ih _⟩

namespace RemoteServer

variable {S : RemoteServer α σ} {server : σ} {calls served pending begun : List (RemoteCall α)}
  {s s' : RemoteState α σ} {label : RemoteLabel}

/-! ## Calls in place -/

theorem answers_append (server : σ) (served pending : List (RemoteCall α)) :
    S.answers server (served ++ pending) =
      ((S.answers (S.answers server served).1 pending).1,
        (S.answers server served).2 ++ (S.answers (S.answers server served).1 pending).2) := by
  induction served generalizing server with
  | nil => rfl
  | cons c served ih => simp [answers, ih]

theorem Serves.length_answers (h : S.Serves calls) (hsub : served ⊆ calls) (server : σ) :
    (S.answers server served).2.length = (served.flatMap RemoteCall.gets).sum := by
  induction served generalizing server with
  | nil => rfl
  | cons c served ih =>
      rw [List.cons_subset] at hsub
      simp [answers, h.answer c hsub.1, ih hsub.2]

theorem Serves.slices_answers (h : S.Serves calls) (hsub : served ⊆ calls) (server : σ) :
    slices (served.flatMap RemoteCall.gets) (S.answers server served).2 =
      S.results server served := by
  induction served generalizing server with
  | nil => rfl
  | cons c served ih =>
      rw [List.cons_subset] at hsub
      rw [List.flatMap_cons, answers, results,
        slices_append (h.answer c hsub.1 server), ih hsub.2]

/-! ## The invariant -/

/-- The calls are served in their order: `served` are behind the server and `pending` before it,
`begun` are those the caller has begun.  What the streams hold belongs to the calls between. -/
structure Progress (S : RemoteServer α σ) (server : σ) (calls served pending begun : List (RemoteCall α))
    (s : RemoteState α σ) : Prop where
  served_eq : calls = served ++ pending
  begun_eq : calls = begun ++ s.caller.calls
  server_eq : s.server = (S.answers server served).1
  stream_eq : s.wire ++ (s.held ++ (s.caller.sends.flatten ++
    s.caller.calls.flatMap RemoteCall.request)) = pending.flatMap RemoteCall.request
  inbox_eq : s.got.flatten ++ s.inbox = (S.answers server served).2
  gets_eq : s.got.map List.length ++ s.caller.gets = begun.flatMap RemoteCall.gets
  asked : s.caller.asked = true → s.held = [] ∧ s.caller.sends = [] ∧ s.caller.gets ≠ []

theorem progress_start (S : RemoteServer α σ) (server : σ) (calls : List (RemoteCall α)) :
    S.Progress server calls [] calls [] (.start calls server) where
  served_eq := rfl
  begun_eq := rfl
  server_eq := rfl
  stream_eq := by simp [RemoteState.start, Caller.start]
  inbox_eq := rfl
  gets_eq := rfl
  asked := by simp [RemoteState.start, Caller.start]

/-- No read has begun while there is something to be sent, or nothing to be read. -/
theorem Progress.asked_eq_false (hs : S.Progress server calls served pending begun s)
    (h : s.caller.sends ≠ [] ∨ s.caller.gets = []) : s.caller.asked = false := by
  by_contra hne
  obtain ⟨-, hsends, hgets⟩ := hs.asked (by simpa using hne)
  exact h.elim (fun h => h hsends) hgets

/-- What the server cuts off is the first request that is pending. -/
theorem Serves.cut_pending (h : S.Serves calls) (hsub : pending ⊆ calls)
    {wire more request later : List α}
    (hstream : wire ++ more = pending.flatMap RemoteCall.request)
    (hcut : S.cut wire = some (request, later)) :
    ∃ c rest, pending = c :: rest ∧ request = c.request ∧
      later ++ more = rest.flatMap RemoteCall.request := by
  cases pending with
  | nil =>
      have hnil : wire = [] := (List.append_eq_nil_iff.mp hstream).1
      rw [hnil, h.nothing] at hcut
      cases hcut
  | cons c rest =>
      rw [List.cons_subset] at hsub
      rw [List.flatMap_cons] at hstream
      rcases List.append_eq_append_iff.mp hstream with ⟨late, hrequest, hmore⟩ | ⟨rest', hwire, hrest⟩
      · -- only a part of the request has come
        by_cases hlate : late = []
        · subst hlate
          rw [List.append_nil] at hrequest
          have hwhole := h.whole c hsub.1 []
          rw [List.append_nil, hrequest, hcut] at hwhole
          obtain ⟨rfl, rfl⟩ : request = wire ∧ later = [] := by simpa using hwhole
          exact ⟨c, rest, rfl, hrequest.symm, by simpa using hmore⟩
        · rw [h.part c hsub.1 wire late hrequest.symm hlate] at hcut
          cases hcut
      · rw [hwire, h.whole c hsub.1] at hcut
        obtain ⟨rfl, rfl⟩ : c.request = request ∧ rest' = later := by simpa using hcut
        exact ⟨c, rest, rfl, rfl, hrest.symm⟩

/-- One step keeps the invariant, and takes something from what is left to be done. -/
theorem progress_step (h : S.Serves calls) (hs : S.Progress server calls served pending begun s)
    (hstep : S.Step s label s') :
    ∃ served' pending' begun', S.Progress server calls served' pending' begun' s' ∧
      s'.caller.work + pending'.length + 1 = s.caller.work + pending.length := by
  have hstream := hs.stream_eq
  have hgets := hs.gets_eq
  cases hstep with
  | @call c rest hsends hnone hcalls =>
      have hbegun := hs.begun_eq
      rw [hsends, hcalls] at hstream
      rw [hcalls] at hbegun
      rw [hnone] at hgets
      refine ⟨served, pending, begun ++ [c], ⟨hs.served_eq, by simpa using hbegun, hs.server_eq,
        ?_, hs.inbox_eq, ?_, by simp⟩, ?_⟩
      · rw [← hstream]
        simp [RemoteCall.request]
      · rw [List.append_nil] at hgets
        simp [hgets]
      · simp [Caller.work, RemoteCall.work, hsends, hnone, hcalls]
        omega
  | @send piece early late rest hsends hsplit =>
      have hasked := hs.asked_eq_false (Or.inl (by simp [hsends]))
      rw [hsends] at hstream
      refine ⟨served, pending, begun, ⟨hs.served_eq, hs.begun_eq, hs.server_eq, ?_, hs.inbox_eq,
        hgets, ?_⟩, ?_⟩
      · rw [← hstream]
        simp only [List.flatten_cons, List.append_assoc]
        rw [← List.append_assoc early, hsplit, List.append_assoc]
      · intro hne
        rw [hasked] at hne
        cases hne
      · simp [Caller.work, hsends]
        omega
  | ask hsends hnonempty hasked =>
      refine ⟨served, pending, begun, ⟨hs.served_eq, hs.begun_eq, hs.server_eq, ?_, hs.inbox_eq,
        hgets, fun _ => ⟨rfl, hsends, hnonempty⟩⟩, ?_⟩
      · rw [← hstream]
        simp
      · have hpos := List.length_pos_iff.mpr hnonempty
        simp [Caller.work, hasked]
        omega
  | @get count rest hcounts hasked hcount =>
      obtain ⟨hheld, hsends, -⟩ := hs.asked hasked
      refine ⟨served, pending, begun, ⟨hs.served_eq, hs.begun_eq, hs.server_eq, hstream, ?_, ?_,
        by simp⟩, ?_⟩
      · rw [← hs.inbox_eq]
        simp
      · rw [← hgets, hcounts]
        simp [Nat.min_eq_left hcount]
      · simp [Caller.work, hasked, hcounts]
        omega
  | @serve request later hcut =>
      have hsub : pending ⊆ calls := hs.served_eq ▸ List.subset_append_right served pending
      obtain ⟨c, rest, hpending, hrequest, hlater⟩ := h.cut_pending hsub hstream hcut
      subst hpending hrequest
      refine ⟨served ++ [c], rest, begun, ⟨by simpa using hs.served_eq, hs.begun_eq, ?_, hlater,
        ?_, hgets, hs.asked⟩, by simp; omega⟩
      · simp [answers_append, answers, hs.server_eq]
      · simp [answers_append, answers, hs.server_eq, ← hs.inbox_eq]

/-- The invariant, and so many steps taken as the work has become less. -/
def ProgressAfter (S : RemoteServer α σ) (server : σ) (calls : List (RemoteCall α))
    (past : List RemoteLabel) (s : RemoteState α σ) : Prop :=
  ∃ served pending begun, S.Progress server calls served pending begun s ∧
    past.length + s.caller.work + pending.length =
      (calls.map RemoteCall.work).sum + calls.length

/-- However the two parties interleave, the invariant holds. -/
theorem progress_run (h : S.Serves calls) {trace : List (RemoteLabel × RemoteState α σ)}
    (hrun : Run S.Step (.start calls server) trace) :
    S.ProgressAfter server calls (trace.map Prod.fst) (endState (.start calls server) trace) := by
  have hstart : S.ProgressAfter server calls [] (.start calls server) :=
    ⟨[], calls, [], progress_start S server calls, by
      simp [RemoteState.start, Caller.start, Caller.work]⟩
  have hend := hrun.endState_of_history []
    (fun past s label s' (hs : S.ProgressAfter server calls past s) hstep => by
      obtain ⟨served, pending, begun, hprogress, hwork⟩ := hs
      obtain ⟨served', pending', begun', hprogress', hless⟩ := progress_step h hprogress hstep
      refine ⟨served', pending', begun', hprogress', ?_⟩
      rw [List.length_append, List.length_singleton]
      omega)
    hstart
  simpa using hend

/-! ## What the caller gets -/

/-- The answers read so far are the first results of the calls in place. -/
theorem Progress.got_prefix (h : S.Serves calls)
    (hs : S.Progress server calls served pending begun s) :
    s.got <+: S.results server calls := by
  have hall := h.slices_answers (List.Subset.refl calls) server
  have hcalls : calls.flatMap RemoteCall.gets =
      s.got.map List.length ++ (s.caller.gets ++ s.caller.calls.flatMap RemoteCall.gets) := by
    rw [← List.append_assoc, hs.gets_eq, ← List.flatMap_append, ← hs.begun_eq]
  have hanswers : (S.answers server calls).2 =
      s.got.flatten ++ (s.inbox ++ (S.answers (S.answers server served).1 pending).2) := by
    rw [← List.append_assoc, hs.inbox_eq, hs.served_eq, answers_append]
  rw [← hall, hcalls, hanswers]
  conv_lhs => rw [← slices_flatten s.got
    (s.inbox ++ (S.answers (S.answers server served).1 pending).2)]
  exact slices_prefix _ _ _

theorem length_slices (counts : List Nat) (l : List α) :
    (slices counts l).length = counts.length := by
  induction counts generalizing l with
  | nil => rfl
  | cons count counts ih => simp [slices, ih]

/-- A caller that has finished has got all results, and no answer is left over. -/
theorem Progress.got_eq (h : S.Serves calls)
    (hs : S.Progress server calls served pending begun s) (hfinished : s.caller.Finished) :
    s.got = S.results server calls ∧ s.inbox = [] := by
  obtain ⟨hsends, hnone, hcalls⟩ := hfinished
  have hbegun := hs.begun_eq
  have hgets := hs.gets_eq
  rw [hcalls, List.append_nil] at hbegun
  rw [hnone, List.append_nil, ← hbegun] at hgets
  constructor
  · apply (hs.got_prefix h).eq_of_length
    rw [← h.slices_answers (List.Subset.refl calls) server, length_slices, ← hgets,
      List.length_map]
  · have hsub : served ⊆ calls := hs.served_eq ▸ List.subset_append_left served pending
    have hlength := congrArg List.length hs.inbox_eq
    rw [h.length_answers hsub, List.length_append, List.length_flatten, hgets,
      hs.served_eq, List.flatMap_append, List.sum_append] at hlength
    exact List.eq_nil_of_length_eq_zero (by omega)

/-- A server that has served all calls begun has answered all that is still read of them. -/
theorem Progress.gets_le_inbox (h : S.Serves calls)
    (hs : S.Progress server calls served pending begun s) {ahead : List (RemoteCall α)}
    (hserved : served = begun ++ ahead) : s.caller.gets.sum ≤ s.inbox.length := by
  have hsub : served ⊆ calls := hs.served_eq ▸ List.subset_append_left served pending
  have hlength := congrArg List.length hs.inbox_eq
  have hsum := congrArg List.sum hs.gets_eq
  rw [h.length_answers hsub, List.length_append, List.length_flatten, hserved,
    List.flatMap_append, List.sum_append, ← hsum, List.sum_append] at hlength
  omega

/-- While the caller has not finished, one of the two can go on. -/
theorem Progress.exists_step (h : S.Serves calls)
    (hs : S.Progress server calls served pending begun s) (hfinished : ¬ s.caller.Finished) :
    ∃ label s', S.Step s label s' := by
  cases hsends : s.caller.sends with
  | cons piece rest =>
      have hsplit : [] ++ (s.held ++ piece) = s.held ++ piece := List.nil_append _
      exact ⟨.send, _, .send hsends hsplit⟩
  | nil =>
      cases hcounts : s.caller.gets with
      | nil =>
          cases hcalls : s.caller.calls with
          | nil => exact absurd ⟨hsends, hcounts, hcalls⟩ hfinished
          | cons c rest => exact ⟨.call, _, .call hsends hcounts hcalls⟩
      | cons count rest =>
          cases hasked : s.caller.asked with
          | false => exact ⟨.ask, _, .ask hsends (by simp [hcounts]) hasked⟩
          | true =>
              -- the request of this call and all before it are on the wire
              have hheld := (hs.asked hasked).1
              have hstream := hs.stream_eq
              rw [hheld, hsends, List.nil_append, List.flatten_nil, List.nil_append] at hstream
              have hcalls := hs.begun_eq.symm.trans hs.served_eq
              have hget (ahead : List (RemoteCall α)) (hserved : served = begun ++ ahead) :
                  ∃ label s', S.Step s label s' := by
                have hinbox := hs.gets_le_inbox h hserved
                rw [hcounts, List.sum_cons] at hinbox
                exact ⟨.get, _, .get hcounts hasked (by omega)⟩
              rcases List.append_eq_append_iff.mp hcalls with
                ⟨ahead, hserved, -⟩ | ⟨behind, hbegun, hpending⟩
              · exact hget ahead hserved
              · cases behind with
                | nil => exact hget [] (by simpa using hbegun.symm)
                | cons c behind =>
                    have hwire : s.wire = (c :: behind).flatMap RemoteCall.request := by
                      rw [hpending, List.flatMap_append] at hstream
                      exact List.append_cancel_right hstream
                    have hmem : c ∈ calls := by
                      rw [hs.served_eq, hpending]
                      simp
                    have hcut := h.whole c hmem (behind.flatMap RemoteCall.request)
                    rw [← List.flatMap_cons, ← hwire] at hcut
                    exact ⟨.serve, _, .serve hcut⟩

/-! ## Whole runs -/

variable {trace : List (RemoteLabel × RemoteState α σ)}

theorem got_prefix_results (h : S.Serves calls) (hrun : Run S.Step (.start calls server) trace) :
    (endState (.start calls server) trace).got <+: S.results server calls := by
  obtain ⟨served, pending, begun, hs, -⟩ := progress_run h hrun
  exact hs.got_prefix h

theorem got_eq_results (h : S.Serves calls) (hrun : Run S.Step (.start calls server) trace)
    (hfinished : (endState (.start calls server) trace).caller.Finished) :
    (endState (.start calls server) trace).got = S.results server calls ∧
      (endState (.start calls server) trace).inbox = [] := by
  obtain ⟨served, pending, begun, hs, -⟩ := progress_run h hrun
  exact hs.got_eq h hfinished

theorem exists_step (h : S.Serves calls) (hrun : Run S.Step (.start calls server) trace)
    (hfinished : ¬ (endState (.start calls server) trace).caller.Finished) :
    ∃ label s', S.Step (endState (.start calls server) trace) label s' := by
  obtain ⟨served, pending, begun, hs, -⟩ := progress_run h hrun
  exact hs.exists_step h hfinished

theorem length_run_le (h : S.Serves calls) (hrun : Run S.Step (.start calls server) trace) :
    trace.length ≤ (calls.map RemoteCall.work).sum + calls.length := by
  obtain ⟨served, pending, begun, -, hwork⟩ := progress_run h hrun
  rw [List.length_map] at hwork
  omega

end RemoteServer

end Library
end DeviceAndroVM
