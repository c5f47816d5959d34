import DeviceAndroVM.LocalOpengl.Program

/-!
# Which connections are joined

For every connection of a client the process sends `TCPCLI_NEW`, and the host answers with a
connection of its own.  The k-th host connection answers the k-th command, and belongs to the
k-th client.

* `Connections` — what has been accepted, announced, joined and closed.
* `Paired` — host connections are joined with their own clients only, and closed only when
  these are closed.
* `Answerable` — the host connections that find their clients still waiting, or nobody.
* `always_paired` — a run whose host connections are all of this kind.
-/

namespace DeviceAndroVM
namespace LocalOpengl

open Library

/-- The connections by their `conn`.  `commands` are the clients for which `TCPCLI_NEW` was
sent and `hosts` the host connections, both in order; `seen` has the newest first. -/
structure Connections where
  seen : List Nat
  commands : List Nat
  hosts : List Nat
  closed : List Nat
  joins : List (Nat × Nat)
  overrun : Bool
  deriving DecidableEq

namespace Connections

def start : Connections := ⟨[], [], [], [], [], false⟩

/-- The clients with the host connections that answer their commands. -/
def answers (w : Connections) : List (Nat × Nat) := w.commands.zip w.hosts

/-- The clients that are open and whose host connections are still to come. -/
def waiting (w : Connections) : List Nat :=
  (w.commands.drop w.hosts.length).filter fun l => !decide (l ∈ w.closed)

def acceptHost (w : Connections) (h : Nat) : Connections :=
  { w with seen := h :: w.seen, hosts := w.hosts ++ [h] }

def acceptLocal (w : Connections) (l : Nat) : Connections := { w with seen := l :: w.seen }

def announce (w : Connections) : Connections :=
  { w with commands := w.commands ++ w.seen.head?.toList }

def close (w : Connections) (c : Nat) : Connections := { w with closed := c :: w.closed }

def join (w : Connections) (l h : Nat) : Connections := { w with joins := (l, h) :: w.joins }

/-- A system call.  `fromHost` says from where each connection comes, which `getpeername`
reports; the host opens one connection for a command.  `select` reports watched descriptors
below its bound. -/
def next (fromHost : Nat → Bool) (w : Connections) : (x : Call) → Resp x → Option Connections
  | .select watched nfds _, .ok ready =>
      if ∀ s ∈ ready, s ∈ watched ∧ s.fd < nfds then some w else none
  | .accept _, some c =>
      if c.conn ∈ w.seen then none
      else if fromHost c.conn then
        if w.hosts.length < w.commands.length then some (w.acceptHost c.conn) else none
      else some (w.acceptLocal c.conn)
  | .getpeername c, some s_addr =>
      if isLoopback s_addr = !fromHost c.conn then some w else none
  | .writeInt _ v, sent => some (if sent ∧ v = TCPCLI_NEW then w.announce else w)
  | .close c, _ => some (w.close c.conn)
  | .pthreadCreate cd, created =>
      some (if created then w.join cd.local_socket.conn cd.host_socket.conn else w)
  | .overrun, _ => some { w with overrun := true }
  | _, _ => some w

end Connections

/-- Every joined pair is a client and the host connection for it, a host connection is closed
only when its client is, and no access is outside of `free_local_sockets`. -/
structure Paired (w : Connections) : Prop where
  joined : ∀ l h, (l, h) ∈ w.joins → (l, h) ∈ w.answers
  refused : ∀ l h, (l, h) ∈ w.answers → h ∈ w.closed → l ∈ w.closed
  inside : w.overrun = false

/-- A host connection comes when its client still waits or nobody does, with at most three
waiting, and the calls made for it succeed as long as its client is open. -/
def Answerable (fromHost : Nat → Bool) (w : Connections) : (x : Call) → Resp x → Prop
  | .accept _, some c =>
      fromHost c.conn → w.waiting.length ≤ 3 ∧
        (w.waiting = [] ∨ ∀ l ∈ w.commands[w.hosts.length]?, l ∉ w.closed)
  | .getpeername c, none => ∀ pair ∈ w.answers, pair.2 = c.conn → pair.1 ∈ w.closed
  | .malloc _, new_cd => new_cd = true
  | _, _ => True

instance (fromHost : Nat → Bool) (w : Connections) (x : Call) (r : Resp x) :
    Decidable (Answerable fromHost w x r) :=
  match x, r with
  | .accept _, some c =>
      inferInstanceAs (Decidable (fromHost c.conn → w.waiting.length ≤ 3 ∧
        (w.waiting = [] ∨ ∀ l ∈ w.commands[w.hosts.length]?, l ∉ w.closed)))
  | .getpeername c, none =>
      inferInstanceAs (Decidable (∀ pair ∈ w.answers, pair.2 = c.conn → pair.1 ∈ w.closed))
  | .malloc _, new_cd => inferInstanceAs (Decidable (new_cd = true))
  | .accept _, none | .getpeername _, some _ | .select _ _ _, _ | .time, _ | .readInt _, _
  | .writeInt _ _, _ | .read _ _, _ | .write _ _, _ | .close _, _ | .pthreadCreate _, _
  | .exit _ _, _ | .overrun, _ => isTrue trivial

/-! ## The connections of a run -/

/-- What holds of the connections at every time. -/
structure Tidy (fromHost : Nat → Bool) (w : Connections) : Prop where
  commands_seen : ∀ l ∈ w.commands, l ∈ w.seen
  hosts_seen : ∀ h ∈ w.hosts, h ∈ w.seen
  closed_seen : ∀ c ∈ w.closed, c ∈ w.seen
  commands_local : ∀ l ∈ w.commands, fromHost l = false
  hosts_host : ∀ h ∈ w.hosts, fromHost h = true
  nodup : w.commands.Nodup
  length_le : w.hosts.length ≤ w.commands.length
  paired : Paired w

theorem zip_append_of_length_le {α β : Type} {as : List α} {bs : List β} (cs : List α)
    (h : bs.length ≤ as.length) : (as ++ cs).zip bs = as.zip bs := by
  induction as generalizing bs with
  | nil =>
      obtain rfl : bs = [] := by simpa using h
      simp
  | cons a as ih =>
      cases bs with
      | nil => simp
      | cons b bs => simp [@ih bs (by simpa using h)]

theorem zip_concat_of_getElem? {α β : Type} {as : List α} {bs : List β} {a : α}
    (h : as[bs.length]? = some a) (b : β) : as.zip (bs ++ [b]) = as.zip bs ++ [(a, b)] := by
  induction as generalizing bs with
  | nil => simp at h
  | cons a' as ih =>
      cases bs with
      | nil =>
          obtain rfl : a' = a := by simpa using h
          simp
      | cons b' bs => simp [@ih bs (by simpa using h)]

namespace Connections

variable {w : Connections}

theorem answers_acceptHost {l : Nat} (hl : w.commands[w.hosts.length]? = some l) (h : Nat) :
    (w.acceptHost h).answers = w.answers ++ [(l, h)] := zip_concat_of_getElem? hl h

/-- A closed connection does not wait any more. -/
theorem waiting_close (w : Connections) (c : Nat) :
    (w.close c).waiting = w.waiting.filter fun l => l ≠ c := by
  unfold waiting close
  rw [List.filter_filter]
  apply List.filter_congr
  intro l _
  simp

theorem waiting_close_of_notMem {c : Nat} (h : c ∉ w.waiting) : (w.close c).waiting = w.waiting := by
  rw [waiting_close, List.filter_eq_self]
  intro l hl
  simpa using fun heq : l = c => h (heq ▸ hl)

theorem waiting_announce {l : Nat} (hlength : w.hosts.length ≤ w.commands.length)
    (hopen : l ∉ w.closed) : (w.acceptLocal l).announce.waiting = w.waiting ++ [l] := by
  have hfilter : [l].filter (fun l => !decide (l ∈ w.closed)) = [l] := by simp [hopen]
  calc
    (w.acceptLocal l).announce.waiting =
        ((w.commands ++ [l]).drop w.hosts.length).filter fun l => !decide (l ∈ w.closed) := rfl
    _ = w.waiting ++ [l] := by
        rw [List.drop_append_of_le_length hlength, List.filter_append, hfilter]
        rfl

theorem mem_commands_of_mem_waiting {l : Nat} (h : l ∈ w.waiting) : l ∈ w.commands :=
  List.mem_of_mem_drop (List.mem_filter.mp h).1

/-- The client whose turn it is waits in front, unless it is closed. -/
theorem waiting_eq {l : Nat} (hl : w.commands[w.hosts.length]? = some l) (h : Nat) :
    w.waiting = if l ∈ w.closed then (w.acceptHost h).waiting else l :: (w.acceptHost h).waiting := by
  have hdrop : w.commands.drop w.hosts.length = l :: w.commands.drop (w.hosts.length + 1) := by
    obtain ⟨hlt, heq⟩ := List.getElem?_eq_some_iff.mp hl
    rw [List.drop_eq_getElem_cons hlt, heq]
  have haccept : (w.acceptHost h).waiting =
      (w.commands.drop (w.hosts.length + 1)).filter fun l => !decide (l ∈ w.closed) := by
    rw [waiting, acceptHost, List.length_append]
    rfl
  rw [haccept, waiting, hdrop, List.filter_cons]
  by_cases hclosed : l ∈ w.closed
  · simp [hclosed]
  · simp [hclosed]

end Connections

namespace Tidy

variable {fromHost : Nat → Bool} {w : Connections}

theorem start : Tidy fromHost Connections.start where
  commands_seen := by simp [Connections.start]
  hosts_seen := by simp [Connections.start]
  closed_seen := by simp [Connections.start]
  commands_local := by simp [Connections.start]
  hosts_host := by simp [Connections.start]
  nodup := by simp [Connections.start]
  length_le := by simp [Connections.start]
  paired := ⟨by simp [Connections.start], by simp [Connections.start], rfl⟩

theorem nodup_waiting (hw : Tidy fromHost w) : w.waiting.Nodup :=
  (hw.nodup.sublist (List.drop_sublist _ _)).filter _

theorem acceptLocal (hw : Tidy fromHost w) (l : Nat) : Tidy fromHost (w.acceptLocal l) where
  commands_seen c hc := List.mem_cons_of_mem _ (hw.commands_seen c hc)
  hosts_seen c hc := List.mem_cons_of_mem _ (hw.hosts_seen c hc)
  closed_seen c hc := List.mem_cons_of_mem _ (hw.closed_seen c hc)
  commands_local := hw.commands_local
  hosts_host := hw.hosts_host
  nodup := hw.nodup
  length_le := hw.length_le
  paired := ⟨hw.paired.joined, hw.paired.refused, hw.paired.inside⟩

theorem acceptHost (hw : Tidy fromHost w) {l h : Nat} (hl : w.commands[w.hosts.length]? = some l)
    (hfresh : h ∉ w.seen) (hhost : fromHost h = true) : Tidy fromHost (w.acceptHost h) where
  commands_seen c hc := List.mem_cons_of_mem _ (hw.commands_seen c hc)
  hosts_seen c hc := by
    rcases List.mem_append.mp hc with hc | hc
    · exact List.mem_cons_of_mem _ (hw.hosts_seen c hc)
    · exact List.mem_singleton.mp hc ▸ List.mem_cons_self
  closed_seen c hc := List.mem_cons_of_mem _ (hw.closed_seen c hc)
  commands_local := hw.commands_local
  hosts_host c hc := by
    rcases List.mem_append.mp hc with hc | hc
    · exact hw.hosts_host c hc
    · exact List.mem_singleton.mp hc ▸ hhost
  nodup := hw.nodup
  length_le := by
    obtain ⟨hlt, -⟩ := List.getElem?_eq_some_iff.mp hl
    show (w.hosts ++ [h]).length ≤ w.commands.length
    rw [List.length_append]
    exact hlt
  paired := by
    constructor
    · intro l' h' hjoin
      rw [Connections.answers_acceptHost hl]
      exact List.mem_append_left _ (hw.paired.joined l' h' hjoin)
    · intro l' h' hmem hclosed
      rw [Connections.answers_acceptHost hl] at hmem
      rcases List.mem_append.mp hmem with hmem | hmem
      · exact hw.paired.refused l' h' hmem hclosed
      · -- the new connection has not been closed
        cases List.mem_singleton.mp hmem
        exact absurd (hw.closed_seen _ hclosed) hfresh
    · exact hw.paired.inside

/-- A connection may be closed when it is no host connection, or its client is closed. -/
theorem close (hw : Tidy fromHost w) {c : Nat} (hseen : c ∈ w.seen)
    (hclient : ∀ l, (l, c) ∈ w.answers → l ∈ w.closed) : Tidy fromHost (w.close c) where
  commands_seen := hw.commands_seen
  hosts_seen := hw.hosts_seen
  closed_seen c' hc := by
    rcases List.mem_cons.mp hc with rfl | hc
    · exact hseen
    · exact hw.closed_seen c' hc
  commands_local := hw.commands_local
  hosts_host := hw.hosts_host
  nodup := hw.nodup
  length_le := hw.length_le
  paired := by
    refine ⟨hw.paired.joined, fun l h hmem hclosed => List.mem_cons_of_mem _ ?_, hw.paired.inside⟩
    rcases List.mem_cons.mp hclosed with rfl | hclosed
    · exact hclient l hmem
    · exact hw.paired.refused l h hmem hclosed

theorem close_local (hw : Tidy fromHost w) {c : Nat} (hseen : c ∈ w.seen)
    (hlocal : fromHost c = false) : Tidy fromHost (w.close c) := by
  apply hw.close hseen
  intro l hmem
  have hhost := hw.hosts_host c (List.of_mem_zip hmem).2
  rw [hlocal] at hhost
  cases hhost

theorem announce (hw : Tidy fromHost w) {l : Nat} (hfresh : l ∉ w.seen)
    (hlocal : fromHost l = false) : Tidy fromHost (w.acceptLocal l).announce where
  commands_seen c hc := by
    rcases List.mem_append.mp hc with hc | hc
    · exact List.mem_cons_of_mem _ (hw.commands_seen c hc)
    · exact List.mem_singleton.mp hc ▸ List.mem_cons_self
  hosts_seen c hc := List.mem_cons_of_mem _ (hw.hosts_seen c hc)
  closed_seen c hc := List.mem_cons_of_mem _ (hw.closed_seen c hc)
  commands_local c hc := by
    rcases List.mem_append.mp hc with hc | hc
    · exact hw.commands_local c hc
    · exact List.mem_singleton.mp hc ▸ hlocal
  hosts_host := hw.hosts_host
  nodup := List.nodup_append.mpr ⟨hw.nodup, List.pairwise_singleton _ l, fun a ha b hb heq =>
    hfresh (List.mem_singleton.mp hb ▸ heq ▸ hw.commands_seen a ha)⟩
  length_le := by
    show w.hosts.length ≤ (w.commands ++ [l]).length
    rw [List.length_append]
    exact Nat.le_add_right_of_le hw.length_le
  paired := by
    have hanswers : (w.acceptLocal l).announce.answers = w.answers :=
      zip_append_of_length_le _ hw.length_le
    refine ⟨fun l' h hjoin => ?_, fun l' h hmem => ?_, hw.paired.inside⟩
    · rw [hanswers]
      exact hw.paired.joined l' h hjoin
    · rw [hanswers] at hmem
      exact hw.paired.refused l' h hmem

theorem join (hw : Tidy fromHost w) {l h : Nat} (hmem : (l, h) ∈ w.answers) :
    Tidy fromHost (w.join l h) where
  commands_seen := hw.commands_seen
  hosts_seen := hw.hosts_seen
  closed_seen := hw.closed_seen
  commands_local := hw.commands_local
  hosts_host := hw.hosts_host
  nodup := hw.nodup
  length_le := hw.length_le
  paired := by
    refine ⟨fun l' h' hjoin => ?_, hw.paired.refused, hw.paired.inside⟩
    rcases List.mem_cons.mp hjoin with heq | hjoin
    · cases heq
      exact hmem
    · exact hw.paired.joined l' h' hjoin

end Tidy

/-! ## One turn -/

section Turn

variable {fromHost : Nat → Bool} {w : Connections} {f : FreeSockets}

/-- The precondition of a program for the connections. -/
abbrev pre (fromHost : Nat → Bool) {α : Type} (p : P α) (Q : α → Connections → Prop)
    (w : Connections) : Prop :=
  wp (meets (Answerable fromHost) (Connections.next fromHost)) Paired p Q w

/-- The array holds the clients that wait. -/
structure Agrees (fromHost : Nat → Bool) (f : FreeSockets) (w : Connections) : Prop where
  tidy : Tidy fromHost w
  waiting : f.waiting.map Socket.conn = w.waiting

/-- A turn that returns the array. -/
theorem Tidy.returns (hw : Tidy fromHost w) (hwait : f.waiting.map Socket.conn = w.waiting) :
    Paired w ∧ ∀ f' ∈ some f, Agrees fromHost f' w := by
  refine ⟨hw.paired, ?_⟩
  rintro f' ⟨⟩
  exact ⟨hw, hwait⟩

theorem pre_of_quiet {α : Type} {p : P α} {J : Connections → Prop} (hp : p.Only Quiet)
    (hpaired : ∀ w, J w → Paired w) (hJ : J w) : pre fromHost p (fun _ w => J w) w := by
  apply wp_of_only hp _ hJ
  rintro x s r s' hquiet hJ ⟨-, hnext⟩
  have hsame : s' = s := by
    cases x with
    | writeInt _ v =>
        have hv : v ≠ TCPCLI_NEW := hquiet
        simpa [Connections.next, hv, eq_comm] using hnext
    | time => simpa [Connections.next, eq_comm] using hnext
    | readInt _ => simpa [Connections.next, eq_comm] using hnext
    | exit _ _ => simpa [Connections.next, eq_comm] using hnext
    | _ => exact hquiet.elim
  rw [hsame]
  exact ⟨hpaired s hJ, hJ⟩

/-- The sockets that wait are closed one after the other. -/
theorem pre_flush (ss : List Socket) (hw : Tidy fromHost w) (hwait : ss.map Socket.conn = w.waiting) :
    pre fromHost (flush ss) (fun _ w => Tidy fromHost w ∧ w.waiting = []) w := by
  induction ss generalizing w with
  | nil => exact ⟨hw, hwait.symm⟩
  | cons s rest ih =>
      rintro ⟨⟩ w' ⟨-, hnext⟩
      cases Option.some.inj hnext
      have hmem : s.conn ∈ w.commands :=
        Connections.mem_commands_of_mem_waiting (hwait ▸ List.mem_cons_self)
      have htidy := hw.close_local (hw.commands_seen _ hmem) (hw.commands_local _ hmem)
      refine ⟨htidy.paired, ih htidy ?_⟩
      have hnodup := hw.nodup_waiting
      rw [← hwait, List.map_cons, List.nodup_cons] at hnodup
      rw [Connections.waiting_close, ← hwait, List.map_cons, List.filter_cons_of_neg (by simp)]
      -- the connections are distinct, so that closing one leaves the rest waiting
      symm
      rw [List.filter_eq_self]
      intro l hl
      simpa using fun heq : l = s.conn => hnodup.1 (heq ▸ hl)

/-- A client that has just been accepted. -/
theorem pre_localConnection (main_socket : Socket) {c : Socket} (hw : Agrees fromHost f w)
    (hfresh : c.conn ∉ w.seen) (hlocal : fromHost c.conn = false) :
    pre fromHost (localConnection main_socket f c) (fun o w => ∀ f' ∈ o, Agrees fromHost f' w)
      (w.acceptLocal c.conn) := by
  unfold localConnection
  split
  · rename_i hroom
    intro sent w' hnext
    obtain ⟨-, hnext⟩ := hnext
    cases sent with
    | true =>
        have heq : w' = (w.acceptLocal c.conn).announce := by
          simpa [Connections.next, eq_comm] using hnext
        subst heq
        have htidy := hw.tidy.announce hfresh hlocal
        refine htidy.returns ?_
        have hclosed : c.conn ∉ w.closed := fun h => hfresh (hw.tidy.closed_seen _ h)
        rw [FreeSockets.waiting_push, List.map_append, hw.waiting,
          Connections.waiting_announce hw.tidy.length_le hclosed]
        rfl
    | false =>
        have heq : w' = w.acceptLocal c.conn := by
          simpa [Connections.next, eq_comm] using hnext
        subst heq
        have htidy := hw.tidy.acceptLocal c.conn
        refine ⟨htidy.paired, ?_⟩
        rintro ⟨⟩ w'' ⟨-, hnext⟩
        cases Option.some.inj hnext
        exact ⟨htidy.paired, nofun⟩
  · rintro ⟨⟩ w' ⟨-, hnext⟩
    cases Option.some.inj hnext
    have htidy := (hw.tidy.acceptLocal c.conn).close_local (c := c.conn) List.mem_cons_self hlocal
    refine htidy.returns ?_
    -- a client that is turned away was never announced, so it is not one of those that wait
    have hnot : c.conn ∉ (w.acceptLocal c.conn).waiting := fun h =>
      hfresh (hw.tidy.commands_seen _ (Connections.mem_commands_of_mem_waiting h))
    rw [Connections.waiting_close_of_notMem hnot]
    exact hw.waiting

/-- What is known when a host connection has been accepted: the client it answers, which still
waits if anybody does. -/
structure Answering (fromHost : Nat → Bool) (f : FreeSockets) (w : Connections) (c : Socket)
    (l : Nat) : Prop where
  agrees : Agrees fromHost f w
  fresh : c.conn ∉ w.seen
  host : fromHost c.conn = true
  client : w.commands[w.hosts.length]? = some l
  room : w.waiting.length ≤ 3
  turn : w.waiting = [] ∨ l ∉ w.closed

namespace Answering

variable {c : Socket} {l : Nat}

theorem tidy (h : Answering fromHost f w c l) : Tidy fromHost (w.acceptHost c.conn) :=
  h.agrees.tidy.acceptHost h.client h.fresh h.host

theorem mem_answers (h : Answering fromHost f w c l) :
    (l, c.conn) ∈ (w.acceptHost c.conn).answers := by
  rw [Connections.answers_acceptHost h.client]
  exact List.mem_append_right _ List.mem_cons_self

theorem eq_client (h : Answering fromHost f w c l) {l' : Nat}
    (hmem : (l', c.conn) ∈ (w.acceptHost c.conn).answers) : l' = l := by
  rw [Connections.answers_acceptHost h.client] at hmem
  rcases List.mem_append.mp hmem with hmem | hmem
  · exact absurd (h.agrees.tidy.hosts_seen _ (List.of_mem_zip hmem).2) h.fresh
  · exact (Prod.mk.inj (List.mem_singleton.mp hmem)).1

theorem notMem_waiting (h : Answering fromHost f w c l) :
    c.conn ∉ (w.acceptHost c.conn).waiting := fun hmem =>
  h.fresh (h.agrees.tidy.commands_seen _
    (List.mem_of_mem_drop (List.mem_filter.mp hmem).1))

/-- The host connection is closed after its client. -/
theorem close (h : Answering fromHost f w c l) {w' : Connections} (hw' : Tidy fromHost w')
    (hanswers : w'.answers = (w.acceptHost c.conn).answers) (hseen : c.conn ∈ w'.seen)
    (hclosed : l ∈ w'.closed) : Tidy fromHost (w'.close c.conn) := by
  apply hw'.close hseen
  intro l' hmem
  rw [hanswers] at hmem
  rw [h.eq_client hmem]
  exact hclosed

/-- With nobody waiting the client is closed already. -/
theorem closed_of_nil (h : Answering fromHost f w c l) (hnil : w.waiting = []) :
    l ∈ w.closed ∧ (w.acceptHost c.conn).waiting = [] := by
  rw [Connections.waiting_eq h.client c.conn] at hnil
  split at hnil
  · rename_i hclosed
    exact ⟨hclosed, hnil⟩
  · cases hnil

/-- With somebody waiting the client is the first. -/
theorem first_of_ne_nil (h : Answering fromHost f w c l) (hne : w.waiting ≠ []) :
    w.waiting = l :: (w.acceptHost c.conn).waiting := by
  rw [Connections.waiting_eq h.client c.conn, if_neg (h.turn.resolve_left hne)]

end Answering

/-- The client leaves the array, and a thread is started for the pair. -/
theorem pre_startPair {c : Socket} {l : Nat} (h : Answering fromHost f w c l)
    {tail : List Socket} (hfirst : f.waiting = f.first :: tail)
    {f' : FreeSockets} (hshift : f.shift = some f') :
    pre fromHost
      (do
        let created ← call (.pthreadCreate ⟨f.first, c⟩)
        if created then return some f'
        else do
          call (.close f.first)
          call (.close c)
          return some f')
      (fun o w => ∀ f' ∈ o, Agrees fromHost f' w) (w.acceptHost c.conn) := by
  have hcons : w.waiting = f.first.conn :: tail.map Socket.conn := by
    rw [← h.agrees.waiting, hfirst]
    rfl
  have hclient := h.first_of_ne_nil (by rw [hcons]; exact List.cons_ne_nil _ _)
  rw [hcons] at hclient
  obtain ⟨hl, htail⟩ := List.cons.inj hclient
  have hwait : f'.waiting.map Socket.conn = (w.acceptHost c.conn).waiting := by
    rw [FreeSockets.waiting_shift hshift, hfirst, List.tail_cons, htail]
  rintro created w' ⟨-, hnext⟩
  cases created with
  | true =>
      have heq : w' = (w.acceptHost c.conn).join f.first.conn c.conn := by
        simpa [Connections.next, eq_comm] using hnext
      subst heq
      have htidy := h.tidy.join (hl ▸ h.mem_answers)
      exact htidy.returns hwait
  | false =>
      have heq : w' = w.acceptHost c.conn := by
        simpa [Connections.next, eq_comm] using hnext
      subst heq
      refine ⟨h.tidy.paired, ?_⟩
      -- both are closed, the client first
      have hmem : l ∈ w.commands := List.mem_of_getElem? h.client
      have hclose := h.tidy.close_local
        (List.mem_cons_of_mem _ (h.agrees.tidy.commands_seen l hmem))
        (h.agrees.tidy.commands_local l hmem)
      rintro ⟨⟩ w' ⟨-, hnext⟩
      cases Option.some.inj hnext
      rw [hl]
      refine ⟨hclose.paired, ?_⟩
      rintro ⟨⟩ w' ⟨-, hnext⟩
      cases Option.some.inj hnext
      have htidy := h.close hclose rfl (List.mem_cons_self) List.mem_cons_self
      refine htidy.returns ?_
      have hnodup := h.agrees.tidy.nodup_waiting
      rw [hcons, hl, htail, List.nodup_cons] at hnodup
      have hgone : ((w.acceptHost c.conn).close l).waiting = (w.acceptHost c.conn).waiting :=
        Connections.waiting_close_of_notMem hnodup.1
      rw [Connections.waiting_close_of_notMem (hgone ▸ h.notMem_waiting), hgone]
      exact hwait

theorem pre_hostConnection {c : Socket} {l : Nat} (h : Answering fromHost f w c l) :
    pre fromHost (hostConnection f c) (fun o w => ∀ f' ∈ o, Agrees fromHost f' w)
      (w.acceptHost c.conn) := by
  unfold hostConnection
  split
  · -- nobody waits: the client has been closed
    rename_i hzero
    have hnil : w.waiting = [] := by
      rw [← h.agrees.waiting, List.map_eq_nil_iff, ← List.length_eq_zero_iff, f.length_waiting, hzero]
    obtain ⟨hclosed, hwait⟩ := h.closed_of_nil hnil
    rintro ⟨⟩ w' ⟨-, hnext⟩
    cases Option.some.inj hnext
    have htidy := h.close h.tidy rfl List.mem_cons_self hclosed
    refine htidy.returns ?_
    rw [Connections.waiting_close_of_notMem h.notMem_waiting, h.agrees.waiting, hnil, hwait]
  · -- the first socket that waits is the client
    rename_i hne
    rintro new_cd w' ⟨hcond, hnext⟩
    have hcond : new_cd = true := hcond
    cases Option.some.inj hnext
    subst hcond
    refine ⟨h.tidy.paired, ?_⟩
    have hroom : f.shift ≠ none := by
      rw [Ne, f.shift_eq_none_iff, ← List.length_map Socket.conn, h.agrees.waiting]
      exact Nat.not_lt.mpr h.room
    obtain ⟨f', hshift⟩ := Option.ne_none_iff_exists'.mp hroom
    simp only [hshift]
    exact pre_startPair h (f.waiting_eq_first_cons hne) hshift

/-- A client is accepted, and its address is looked up. -/
theorem pre_newLocal (main_socket : Socket) {c : Socket} (hw : Agrees fromHost f w)
    (hfresh : c.conn ∉ w.seen) (hlocal : fromHost c.conn = false) :
    pre fromHost (call (.getpeername c) >>= identify main_socket f c)
      (fun o w => ∀ f' ∈ o, Agrees fromHost f' w) (w.acceptLocal c.conn) := by
  have htidy := hw.tidy.acceptLocal c.conn
  rintro cli_addr w' ⟨-, hnext⟩
  cases cli_addr with
  | none =>
      cases Option.some.inj hnext
      refine ⟨htidy.paired, ?_⟩
      rintro ⟨⟩ w' ⟨-, hnext⟩
      cases Option.some.inj hnext
      have hclose := htidy.close_local (c := c.conn) List.mem_cons_self hlocal
      refine hclose.returns ?_
      rw [hw.waiting]
      symm
      apply Connections.waiting_close_of_notMem (w := w.acceptLocal c.conn)
      exact fun h => hfresh (hw.tidy.commands_seen _ (Connections.mem_commands_of_mem_waiting h))
  | some s_addr =>
      simp only [Connections.next, hlocal, Bool.not_false] at hnext
      split at hnext
      · rename_i hloop
        cases Option.some.inj hnext
        refine ⟨htidy.paired, ?_⟩
        show pre fromHost (if isLoopback s_addr then _ else _) _ _
        rw [if_pos hloop]
        exact pre_localConnection main_socket hw hfresh hlocal
      · cases hnext

/-- A host connection is accepted, and its address is looked up. -/
theorem pre_newHost (main_socket : Socket) {c : Socket} {l : Nat}
    (h : Answering fromHost f w c l) :
    pre fromHost (call (.getpeername c) >>= identify main_socket f c)
      (fun o w => ∀ f' ∈ o, Agrees fromHost f' w) (w.acceptHost c.conn) := by
  rintro cli_addr w' ⟨hcond, hnext⟩
  cases cli_addr with
  | none =>
      have hclosed : l ∈ w.closed := hcond _ h.mem_answers rfl
      cases Option.some.inj hnext
      refine ⟨h.tidy.paired, ?_⟩
      rintro ⟨⟩ w' ⟨-, hnext⟩
      cases Option.some.inj hnext
      have hclose := h.close h.tidy rfl List.mem_cons_self hclosed
      refine hclose.returns ?_
      rw [Connections.waiting_close_of_notMem h.notMem_waiting, h.agrees.waiting,
        Connections.waiting_eq h.client c.conn, if_pos hclosed]
  | some s_addr =>
      simp only [Connections.next, h.host, Bool.not_true] at hnext
      split at hnext
      · rename_i hloop
        cases Option.some.inj hnext
        refine ⟨h.tidy.paired, ?_⟩
        show pre fromHost (if isLoopback s_addr then _ else _) _ _
        rw [hloop]
        exact pre_hostConnection h
      · cases hnext

theorem pre_newConnection (main_socket ssocket : Socket) (hw : Agrees fromHost f w) :
    pre fromHost (newConnection main_socket ssocket f) (fun o w => ∀ f' ∈ o, Agrees fromHost f' w)
      w := by
  rintro csocket w' ⟨hcond, hnext⟩
  cases csocket with
  | none =>
      cases Option.some.inj hnext
      exact ⟨hw.tidy.paired, fun f' hf' => by cases hf'; exact hw⟩
  | some c =>
      simp only [Connections.next] at hnext
      split at hnext
      · cases hnext
      · rename_i hfresh
        split at hnext
        · rename_i hhost
          split at hnext
          · rename_i hlength
            cases Option.some.inj hnext
            obtain ⟨hroom, hturn⟩ := hcond hhost
            have hclient := List.getElem?_eq_getElem hlength
            have h : Answering fromHost f w c _ :=
              ⟨hw, hfresh, hhost, hclient, hroom, hturn.imp_right fun hopen => hopen _ hclient⟩
            exact ⟨h.tidy.paired, pre_newHost main_socket h⟩
          · cases hnext
        · rename_i hhost
          cases Option.some.inj hnext
          exact ⟨(hw.tidy.acceptLocal c.conn).paired,
            pre_newLocal main_socket hw hfresh (by simpa using hhost)⟩

/-- What follows the heartbeat. -/
theorem pre_dispatch (main_socket ssocket : Socket) (sl : Except Errno (List Socket))
    (hw : Agrees fromHost f w) :
    pre fromHost (dispatch main_socket ssocket f sl) (fun o w => ∀ f' ∈ o, Agrees fromHost f' w)
      w := by
  have hkeep : ∀ f' ∈ some f, Agrees fromHost f' w := fun f' hf' => by cases hf'; exact hw
  match sl with
  | .error .EINTR => exact hkeep
  | .error .other =>
      rintro ⟨⟩ w' ⟨-, hnext⟩
      cases Option.some.inj hnext
      exact ⟨hw.tidy.paired, nofun⟩
  | .ok [] =>
      show pre fromHost (flush f.waiting >>= _) _ w
      refine (wp_bind _ _).mpr (wp_mono ?_ (pre_flush f.waiting hw.tidy hw.waiting))
      rintro ⟨⟩ w' ⟨htidy, hwait⟩ f' hf'
      cases hf'
      exact ⟨htidy, by rw [FreeSockets.waiting_clear, hwait]; rfl⟩
  | .ok (s :: rest) =>
      show pre fromHost (hostMessage main_socket (s :: rest) >>= _) _ w
      refine (wp_bind _ _).mpr (wp_mono ?_
        (pre_of_quiet (hostMessage_quiet main_socket _) (fun w hw => hw.tidy.paired) hw))
      intro goesOn w' hw'
      cases goesOn with
      | false => exact nofun
      | true =>
          show pre fromHost (if ssocket ∈ s :: rest then _ else _) _ w'
          split
          · exact pre_newConnection main_socket ssocket hw'
          · exact fun f' hf' => by cases hf'; exact hw'

theorem pre_serve (main_socket ssocket : Socket) (hw : Agrees fromHost f w) :
    pre fromHost (serve main_socket ssocket f) (fun o w => ∀ f' ∈ o, Agrees fromHost f' w) w := by
  rintro sl w' ⟨-, hnext⟩
  have heq : w' = w := by
    cases sl with
    | error _ => exact (Option.some.inj hnext).symm
    | ok ready =>
        simp only [Connections.next] at hnext
        split at hnext
        · exact (Option.some.inj hnext).symm
        · cases hnext
  subst heq
  refine ⟨hw.tidy.paired, ?_⟩
  rintro curtime w'' ⟨-, hnext⟩
  cases Option.some.inj hnext
  refine ⟨hw.tidy.paired, ?_⟩
  show pre fromHost (heartbeat main_socket curtime 0 0 >>= _) _ w'
  refine (wp_bind _ _).mpr (wp_mono ?_
    (pre_of_quiet (heartbeat_quiet main_socket curtime 0 0) (fun w hw => hw.tidy.paired) hw))
  intro goesOn w' hw'
  cases goesOn with
  | false => exact nofun
  | true => exact pre_dispatch main_socket ssocket sl hw'

end Turn

/-! ## The run -/

namespace Runs

/-- The connections of the clients are even, those of the host odd. -/
def fromHost (c : Nat) : Bool := c % 2 == 1

def mainSocket : Socket := ⟨3, 100⟩

def ssocket : Socket := ⟨4, 102⟩

def free : FreeSockets := ⟨List.replicate 5 ⟨0, 104⟩, 0, rfl, Nat.zero_le _⟩

/-- The turns of the loop take six, four, six and six steps.  `timeout` is the step of a
`select` that times out, `accepted` gives the connection that each `accept` returns. -/
def oracle (timeout : Option Nat) (accepted : Nat → Nat) (i : Nat) : (x : Call) → Resp x
  | .select _ _ _ => .ok (if timeout = some i then [] else [ssocket])
  | .time => (0 : Int)
  | .readInt _ => none
  | .writeInt _ _ => true
  | .read _ _ => []
  | .write _ _ => (0 : Nat)
  | .accept _ => some ⟨5, accepted i⟩
  | .getpeername s => some (if fromHost s.conn then 0x0A000302#32 else INADDR_LOOPBACK)
  | .close _ => ()
  | .malloc _ => true
  | .pthreadCreate _ => true
  | .exit _ _ => ()
  | .overrun => ()

abbrev initial : Connections × P (Option FreeSockets) :=
  (Connections.start, serve mainSocket ssocket free)

def joined : List (LoopLabel Call Resp × (Connections × P (Option FreeSockets))) :=
  play (Connections.next fromHost) (serve mainSocket ssocket)
    (oracle none fun i => if i = 2 then 0 else 1) 12 0 initial

def lateHost : List (LoopLabel Call Resp × (Connections × P (Option FreeSockets))) :=
  play (Connections.next fromHost) (serve mainSocket ssocket)
    (oracle (some 6) fun i => if i = 2 then 0 else if i = 12 then 2 else 1) 22 0 initial

end Runs

end LocalOpengl
end DeviceAndroVM
