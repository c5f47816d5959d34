import DeviceAndroVM.Library.Threads
import DeviceAndroVM.LocalOpengl.Program

/-!
# Who closes which descriptor

The main thread and the relay threads share the descriptors of the process.  `accept` gives out
the lowest free number, so a number that is closed soon stands for another connection.

* `Kernel` — the connection behind each number, and every `close` with what it hit.
* `process`, `spawn` — the turns of the main thread and of the relay threads.
* `ClosedOnce` — every `close` hits the connection it is meant for, and no connection is closed
  twice.
* `Copies` — `copy_socket` does not fail.
* `always_closedOnce` — a run in which it never does.
-/

namespace DeviceAndroVM
namespace LocalOpengl

open Library

/-! ## The kernel -/

/-- `table` gives the connection that a number stands for, `fresh` the next connection.
`closes` has every `close` with the connection it found, newest first. -/
structure Kernel where
  table : Nat → Option Nat
  fresh : Nat
  closes : List (Socket × Option Nat)
  running : Bool

namespace Kernel

def acceptConn (k : Kernel) (c : Socket) : Kernel :=
  { k with
    table := fun n => if n = c.fd then some c.conn else k.table n
    fresh := k.fresh + 1 }

def closeFd (k : Kernel) (s : Socket) : Kernel :=
  { k with
    table := fun n => if n = s.fd then none else k.table n
    closes := (s, k.table s.fd) :: k.closes }

def stop (k : Kernel) : Kernel := { k with running := false }

/-- A system call; there is none after the process has ended. -/
def next (k : Kernel) (x : Call) (r : Resp x) : Option Kernel :=
  if k.running then
    match x, r with
    | .select watched nfds _, .ok ready =>
        if ∀ s ∈ ready, s ∈ watched ∧ s.fd < nfds then some k else none
    | .accept _, some c =>
        if c.conn = k.fresh ∧ k.table c.fd = none ∧ ∀ n < c.fd, k.table n ≠ none then
          some (k.acceptConn c)
        else none
    | .close s, _ => some (k.closeFd s)
    | .read _ count, bytes => if bytes.length ≤ count then some k else none
    | .write _ bytes, wsize => if wsize ≤ bytes.length then some k else none
    | .exit _ _, _ => some k.stop
    | .overrun, _ => some k.stop
    | _, _ => some k
  else none

end Kernel

/-- Every `close` found the connection that its caller meant, and no connection was closed
twice. -/
structure ClosedOnce (k : Kernel) : Prop where
  hits : ∀ entry ∈ k.closes, entry.2 = some entry.1.conn
  once : (k.closes.map fun entry => entry.1.conn).Nodup

/-- Reads give bytes, and writes take some of what they are offered: then `copy_socket` does
not fail. -/
def Copies (_ : Kernel) : (x : Call) → Resp x → Prop
  | .read _ _, bytes => bytes ≠ []
  | .write _ bytes, wsize => bytes ≠ [] → wsize ≠ 0
  | _, _ => True

instance (k : Kernel) (x : Call) (r : Resp x) : Decidable (Copies k x r) :=
  match x, r with
  | .read _ _, bytes => inferInstanceAs (Decidable (bytes ≠ []))
  | .write _ bytes, wsize => inferInstanceAs (Decidable (bytes ≠ [] → wsize ≠ (0 : Nat)))
  | .select _ _ _, _ | .time, _ | .readInt _, _ | .writeInt _ _, _ | .accept _, _
  | .getpeername _, _ | .close _, _ | .malloc _, _ | .pthreadCreate _, _ | .exit _ _, _
  | .overrun, _ => isTrue trivial

/-! ## The threads -/

/-- A turn of the main thread, or a part of a relay thread. -/
inductive Turn
  | serve (f : FreeSockets)
  | relay (cd : ConnDuo) (phase : Phase)

def process (main_socket ssocket : Socket) : Turn → P (Option Turn)
  | .serve f => do
      let f' ← serve main_socket ssocket f
      return f'.map .serve
  | .relay cd phase => do
      let phase' ← connThread cd phase
      return phase'.map (.relay cd)

/-- `pthread_create` starts `conn_thread`. -/
def spawn : (x : Call) → Resp x → Option Turn
  | .pthreadCreate cd, created => if created then some (.relay cd .starting) else none
  | _, _ => none

/-! ## Ownership -/

/-- The sockets that the calls open, close and hand to a relay thread. -/
def sockets : Flow Call Resp Socket where
  gains
    | .accept _, some c => {c}
    | _, _ => 0
  drops
    | .close s, _ => {s}
    | _, _ => 0
  hands
    | .pthreadCreate cd, created =>
        if created then {cd.local_socket} + {cd.host_socket} else 0
    | _, _ => 0

/-- The responses as `copy_socket` needs them. -/
def Moves : (x : Call) → Resp x → Prop
  | .read _ _, bytes => bytes ≠ []
  | .write _ bytes, wsize => wsize ≤ bytes.length ∧ (bytes ≠ [] → wsize ≠ 0)
  | _, _ => True

/-- The precondition of a program for the sockets that its thread holds. -/
abbrev owns {α : Type} (p : P α) (Q : α → Multiset Socket → Prop) (held : Multiset Socket) : Prop :=
  Owns sockets Moves p Q held

section Owns

variable {α : Type} {held : Multiset Socket} {Q : α → Multiset Socket → Prop}

theorem idle_of_quiet {x : Call} (h : Quiet x) : sockets.Idle x := by
  intro r
  cases x with
  | time => exact ⟨rfl, rfl, rfl⟩
  | readInt => exact ⟨rfl, rfl, rfl⟩
  | writeInt => exact ⟨rfl, rfl, rfl⟩
  | exit => exact ⟨rfl, rfl, rfl⟩
  | _ => exact h.elim

theorem owns_of_quiet {p : P α} (hp : p.Only Quiet) :
    owns p (fun _ held' => held' = held) held :=
  owns_of_only (hp.mono fun _ => idle_of_quiet) held

theorem owns_close {s : Socket} {k : Unit → P α} (hk : owns (k ()) Q held) :
    owns (call (.close s) >>= k) Q ({s} + held) := by
  rintro ⟨⟩ -
  refine ⟨held, ?_, ?_⟩
  · show {s} + held = {s} + 0 + held
    rw [add_zero]
  · show owns (k ()) Q (0 + held)
    rw [zero_add]
    exact hk

/-- The main thread holds the sockets that wait. -/
def holds (f : FreeSockets) : Multiset Socket := f.waiting

theorem owns_flush (ss : List Socket) : owns (flush ss) (fun _ held => held = 0) ss := by
  induction ss with
  | nil => exact rfl
  | cons s rest ih =>
      rw [← Multiset.cons_coe, ← Multiset.singleton_add]
      exact owns_close ih

theorem owns_localConnection (main_socket : Socket) (f : FreeSockets) (c : Socket) :
    owns (localConnection main_socket f c) (fun o held => ∀ f' ∈ o, held = holds f')
      ({c} + holds f) := by
  unfold localConnection
  split
  · rename_i hroom
    refine owns_idle (fun _ => ⟨rfl, rfl, rfl⟩) fun sent _ => ?_
    cases sent with
    | true =>
        intro f' hf'
        cases hf'
        rw [holds, holds, FreeSockets.waiting_push, ← Multiset.coe_add, add_comm]
        rfl
    | false => exact owns_idle (fun _ => ⟨rfl, rfl, rfl⟩) fun _ _ => nofun
  · apply owns_close
    intro f' hf'
    cases hf'
    rfl

theorem owns_hostConnection (f : FreeSockets) (c : Socket) :
    owns (hostConnection f c) (fun o held => ∀ f' ∈ o, held = holds f') ({c} + holds f) := by
  have hkeep : owns (do
      call (.close c)
      return some f : P (Option FreeSockets)) (fun o held => ∀ f' ∈ o, held = holds f')
      ({c} + holds f) := by
    apply owns_close
    intro f' hf'
    cases hf'
    rfl
  unfold hostConnection
  split
  · exact hkeep
  · rename_i hne
    refine owns_idle (fun _ => ⟨rfl, rfl, rfl⟩) fun new_cd _ => ?_
    cases new_cd with
    | false => exact hkeep
    | true =>
        cases hshift : f.shift with
        | none => exact owns_idle (fun _ => ⟨rfl, rfl, rfl⟩) fun _ _ _ hf' => by cases hf'
        | some f' =>
          have hholds : {c} + holds f = {f.first} + {c} + holds f' := by
            rw [holds, holds, FreeSockets.waiting_shift hshift, f.waiting_eq_first_cons hne,
              ← Multiset.cons_coe, ← Multiset.singleton_add, List.tail_cons, add_left_comm,
              add_assoc]
          rw [hholds]
          intro created _
          cases created with
          | true =>
              -- the pair is handed to the relay thread
              refine ⟨holds f', ?_, ?_⟩
              · show _ = 0 + ({f.first} + {c}) + holds f'
                rw [zero_add]
              · intro f'' hf'
                cases hf'
                exact zero_add _
          | false =>
              refine ⟨{f.first} + {c} + holds f', ?_, ?_⟩
              · show _ = 0 + 0 + _
                rw [zero_add, zero_add]
              · show owns _ _ (0 + _)
                rw [zero_add, add_assoc]
                apply owns_close
                apply owns_close
                intro f'' hf'
                cases hf'
                rfl

theorem owns_newConnection (main_socket ssocket : Socket) (f : FreeSockets) :
    owns (newConnection main_socket ssocket f) (fun o held => ∀ f' ∈ o, held = holds f')
      (holds f) := by
  intro csocket _
  refine ⟨holds f, ?_, ?_⟩
  · show holds f = 0 + 0 + holds f
    rw [zero_add, zero_add]
  · cases csocket with
    | none =>
        intro f' hf'
        cases hf'
        exact zero_add _
    | some c =>
        show owns (call (.getpeername c) >>= identify main_socket f c) _ ({c} + holds f)
        refine owns_idle (fun _ => ⟨rfl, rfl, rfl⟩) fun cli_addr _ => ?_
        cases cli_addr with
        | none =>
            apply owns_close
            intro f' hf'
            cases hf'
            rfl
        | some s_addr =>
            show owns (if isLoopback s_addr then _ else _) _ _
            split
            · exact owns_localConnection main_socket f c
            · exact owns_hostConnection f c

theorem owns_dispatch (main_socket ssocket : Socket) (f : FreeSockets)
    (sl : Except Errno (List Socket)) :
    owns (dispatch main_socket ssocket f sl) (fun o held => ∀ f' ∈ o, held = holds f')
      (holds f) := by
  match sl with
  | .error .EINTR =>
      intro f' hf'
      cases hf'
      rfl
  | .error .other => exact owns_idle (fun _ => ⟨rfl, rfl, rfl⟩) fun _ _ => nofun
  | .ok [] =>
      show owns (flush f.waiting >>= _) _ _
      refine owns_bind.mpr ((owns_flush f.waiting).mono ?_)
      rintro ⟨⟩ held rfl f' hf'
      cases hf'
      rw [holds, FreeSockets.waiting_clear]
      rfl
  | .ok (s :: rest) =>
      show owns (hostMessage main_socket (s :: rest) >>= _) _ _
      refine owns_bind.mpr ((owns_of_quiet (hostMessage_quiet main_socket _)).mono ?_)
      rintro goesOn held rfl
      cases goesOn with
      | false => exact nofun
      | true =>
          show owns (if ssocket ∈ s :: rest then _ else _) _ _
          split
          · exact owns_newConnection main_socket ssocket f
          · intro f' hf'
            cases hf'
            rfl

theorem owns_serve (main_socket ssocket : Socket) (f : FreeSockets) :
    owns (serve main_socket ssocket f) (fun o held => ∀ f' ∈ o, held = holds f') (holds f) := by
  refine owns_idle (fun _ => ⟨rfl, rfl, rfl⟩) fun sl _ => ?_
  refine owns_idle (fun _ => ⟨rfl, rfl, rfl⟩) fun curtime _ => ?_
  show owns (heartbeat main_socket curtime 0 0 >>= _) _ _
  refine owns_bind.mpr ((owns_of_quiet (heartbeat_quiet main_socket curtime 0 0)).mono ?_)
  rintro goesOn held rfl
  cases goesOn with
  | false => exact nofun
  | true => exact owns_dispatch main_socket ssocket f sl

/-- With writes that take something the loop ends with nothing left to write. -/
theorem owns_writeLoop (fd_write : Socket) (buff : List UInt8) (held : Multiset Socket) :
    ∀ fuel towrite, towrite < fuel → towrite ≤ buff.length →
      owns (writeLoop fd_write buff fuel towrite)
        (fun towrite held' => towrite = 0 ∧ held' = held) held := by
  intro fuel
  induction fuel with
  | zero =>
      intro towrite hfuel
      omega
  | succ fuel ih =>
      intro towrite hfuel hle
      have hlength : (buff.take towrite).length = towrite := by
        rw [List.length_take]
        omega
      refine owns_idle (fun _ => ⟨rfl, rfl, rfl⟩) fun (wsize : Nat) hmoves => ?_
      obtain ⟨hwsize, hsome⟩ : wsize ≤ (buff.take towrite).length ∧
        (buff.take towrite ≠ [] → wsize ≠ 0) := hmoves
      rw [hlength] at hwsize
      show owns (if wsize > 0 then _ else _) _ _
      split
      · rename_i hpos
        have hpos : 0 < wsize := hpos
        exact ih (towrite - wsize) (by omega) (by omega)
      · rename_i hzero
        refine ⟨?_, rfl⟩
        -- a write that takes nothing had nothing to write
        have hzero : wsize = 0 := Nat.eq_zero_of_not_pos hzero
        by_contra hne
        have hnil : buff.take towrite ≠ [] := by
          intro hnil
          rw [hnil] at hlength
          exact hne hlength.symm
        exact hsome hnil hzero

theorem owns_copySocket (fd_read fd_write : Socket) (held : Multiset Socket) :
    owns (copySocket fd_read fd_write) (fun ok held' => ok = true ∧ held' = held) held := by
  refine owns_idle (fun _ => ⟨rfl, rfl, rfl⟩) fun buff hbuff => ?_
  have hbuff : buff ≠ [] := hbuff
  show owns (if buff = [] then _ else _) _ _
  rw [if_neg hbuff]
  refine owns_bind.mpr ((owns_writeLoop fd_write buff held _ _ (Nat.lt_succ_self _)
    (Nat.le_refl _)).mono ?_)
  rintro towrite held' ⟨rfl, rfl⟩
  exact ⟨rfl, rfl⟩

theorem owns_relay (cd : ConnDuo) (set_read : List Socket) (held : Multiset Socket) :
    owns (relay cd set_read) (fun ok held' => ok = true ∧ held' = held) held := by
  have hready : ∀ fd_read fd_write, owns (copyReady fd_read fd_write set_read)
      (fun ok held' => ok = true ∧ held' = held) held := by
    intro fd_read fd_write
    unfold copyReady
    split
    · exact owns_copySocket fd_read fd_write held
    · exact ⟨rfl, rfl⟩
  refine owns_bind.mpr ((hready cd.local_socket cd.host_socket).mono ?_)
  rintro goesOn held' ⟨rfl, rfl⟩
  exact hready cd.host_socket cd.local_socket

/-- What each turn holds when it begins. -/
def Turn.holds : Turn → Multiset Socket
  | .serve f => LocalOpengl.holds f
  | .relay cd _ => {cd.local_socket} + {cd.host_socket}

theorem owns_connThread (cd : ConnDuo) (phase : Phase) :
    owns (connThread cd phase)
      (fun o held => ∀ phase' ∈ o, held = {cd.local_socket} + {cd.host_socket})
      ({cd.local_socket} + {cd.host_socket}) := by
  cases phase with
  | starting => exact owns_idle (fun _ => ⟨rfl, rfl, rfl⟩) fun buff _ _ _ => rfl
  | looping =>
      refine owns_idle (fun _ => ⟨rfl, rfl, rfl⟩) fun r _ => ?_
      match r with
      | .error .EINTR => exact fun _ _ => rfl
      | .error .other => exact fun _ _ => rfl
      | .ok set_read =>
          show owns (relay cd set_read >>= _) _ _
          refine owns_bind.mpr ((owns_relay cd set_read _).mono ?_)
          rintro goesOn held ⟨-, rfl⟩
          exact fun _ _ => rfl
  -- both sockets are still held here, as `copy_socket` has not failed
  | stopping =>
      refine owns_close ?_
      show owns _ _ ({cd.host_socket} + 0)
      exact owns_close nofun

theorem owns_process (main_socket ssocket : Socket) (t : Turn) :
    owns (process main_socket ssocket t) (fun o held => ∀ t' ∈ o, held = t'.holds) t.holds := by
  cases t with
  | serve f =>
      refine owns_bind.mpr ((owns_serve main_socket ssocket f).mono ?_)
      intro o held hheld t' ht'
      obtain ⟨f', hf', rfl⟩ := Option.map_eq_some_iff.mp ht'
      exact hheld f' hf'
  | relay cd phase =>
      refine owns_bind.mpr ((owns_connThread cd phase).mono ?_)
      intro o held hheld t' ht'
      obtain ⟨phase', hphase', rfl⟩ := Option.map_eq_some_iff.mp ht'
      exact hheld phase' hphase'

end Owns

/-! ## The descriptors of a run -/

/-- The sockets held in all threads are open, each under its own number. -/
structure Good (k : Kernel) (held : Multiset Socket) : Prop where
  right : ClosedOnce k
  nodup : (held.map Socket.conn).Nodup
  opened : ∀ s ∈ held, k.table s.fd = some s.conn
  notClosed : ∀ s ∈ held, s.conn ∉ k.closes.map fun entry => entry.1.conn
  fresh_held : ∀ s ∈ held, s.conn < k.fresh
  fresh_closes : ∀ entry ∈ k.closes, entry.1.conn < k.fresh

namespace Good

variable {k : Kernel} {held : Multiset Socket}

theorem start (hcloses : k.closes = []) : Good k 0 where
  right := ⟨by simp [hcloses], by simp [hcloses]⟩
  nodup := by simp
  opened := by simp
  notClosed := by simp
  fresh_held := by simp
  fresh_closes := by simp [hcloses]

theorem acceptConn (h : Good k held) {c : Socket} (hconn : c.conn = k.fresh)
    (hfree : k.table c.fd = none) : Good (k.acceptConn c) ({c} + held) where
  right := ⟨h.right.hits, h.right.once⟩
  nodup := by
    rw [Multiset.singleton_add, Multiset.map_cons, Multiset.nodup_cons]
    refine ⟨fun hmem => ?_, h.nodup⟩
    obtain ⟨s, hs, heq⟩ := Multiset.mem_map.mp hmem
    have hlt := h.fresh_held s hs
    omega
  opened s hs := by
    show (if s.fd = c.fd then some c.conn else k.table s.fd) = some s.conn
    rcases Multiset.mem_cons.mp (Multiset.singleton_add c held ▸ hs) with rfl | hs
    · rw [if_pos rfl]
    · have hopen := h.opened s hs
      rw [if_neg (fun heq => by rw [heq, hfree] at hopen; cases hopen)]
      exact hopen
  notClosed s hs := by
    rcases Multiset.mem_cons.mp (Multiset.singleton_add c held ▸ hs) with rfl | hs
    · intro hmem
      obtain ⟨entry, hentry, heq⟩ := List.mem_map.mp hmem
      have hlt := h.fresh_closes entry hentry
      omega
    · exact h.notClosed s hs
  fresh_held s hs := by
    show s.conn < k.fresh + 1
    rcases Multiset.mem_cons.mp (Multiset.singleton_add c held ▸ hs) with rfl | hs
    · omega
    · exact Nat.lt_succ_of_lt (h.fresh_held s hs)
  fresh_closes entry hentry := Nat.lt_succ_of_lt (h.fresh_closes entry hentry)

theorem closeFd {s : Socket} (h : Good k ({s} + held)) : Good (k.closeFd s) held := by
  have hopen : k.table s.fd = some s.conn := h.opened s (Multiset.mem_cons_self s held)
  have hmem : ∀ t ∈ held, t ∈ ({s} + held : Multiset Socket) :=
    fun t ht => Multiset.mem_cons_of_mem ht
  have hnodup := h.nodup
  rw [Multiset.singleton_add, Multiset.map_cons, Multiset.nodup_cons] at hnodup
  have hne : ∀ t ∈ held, t.conn ≠ s.conn := fun t ht heq =>
    hnodup.1 (Multiset.mem_map.mpr ⟨t, ht, heq⟩)
  refine ⟨⟨?_, ?_⟩, hnodup.2, ?_, ?_, fun t ht => h.fresh_held t (hmem t ht), ?_⟩
  · intro entry hentry
    rcases List.mem_cons.mp hentry with rfl | hentry
    · exact hopen
    · exact h.right.hits entry hentry
  · exact List.nodup_cons.mpr ⟨h.notClosed s (Multiset.mem_cons_self s held), h.right.once⟩
  · intro t ht
    show (if t.fd = s.fd then none else k.table t.fd) = some t.conn
    have ht' := h.opened t (hmem t ht)
    have hfd : t.fd ≠ s.fd := by
      intro heq
      rw [heq, hopen] at ht'
      exact hne t ht (Option.some.inj ht').symm
    rw [if_neg hfd]
    exact ht'
  · intro t ht hclosed
    rcases List.mem_cons.mp hclosed with heq | hclosed
    · exact hne t ht heq
    · exact h.notClosed t (hmem t ht) hclosed
  · intro entry hentry
    rcases List.mem_cons.mp hentry with rfl | hentry
    · exact h.fresh_held s (Multiset.mem_cons_self s held)
    · exact h.fresh_closes entry hentry

/-- Every system call keeps the kernel and what is held in step. -/
theorem next {k' : Kernel} {x : Call} {r : Resp x} (h : Good k (sockets.drops x r + held))
    (hnext : k.next x r = some k') : Good k' (sockets.gains x r + held) := by
  have hsame : k' = k → sockets.drops x r = 0 → sockets.gains x r = 0 →
      Good k' (sockets.gains x r + held) := by
    intro heq hdrops hgains
    rw [heq, hgains, ← hdrops]
    exact h
  unfold Kernel.next at hnext
  split at hnext
  · cases x with
    | select watched nfds timeout =>
        cases r with
        | error e => exact hsame (Option.some.inj hnext).symm rfl rfl
        | ok ready =>
            simp only at hnext
            split at hnext
            · exact hsame (Option.some.inj hnext).symm rfl rfl
            · cases hnext
    | accept ssocket =>
        cases r with
        | none => exact hsame (Option.some.inj hnext).symm rfl rfl
        | some c =>
            simp only at hnext
            split at hnext
            · rename_i hfree
              cases Option.some.inj hnext
              have h : Good k (0 + held) := h
              rw [zero_add] at h
              exact h.acceptConn hfree.1 hfree.2.1
            · cases hnext
    | close s =>
        cases Option.some.inj hnext
        show Good (k.closeFd s) (0 + held)
        rw [zero_add]
        exact Good.closeFd h
    | read s count =>
        simp only at hnext
        split at hnext
        · exact hsame (Option.some.inj hnext).symm rfl rfl
        · cases hnext
    | write s bytes =>
        simp only at hnext
        split at hnext
        · exact hsame (Option.some.inj hnext).symm rfl rfl
        · cases hnext
    | exit code site =>
        cases Option.some.inj hnext
        exact ⟨⟨h.right.hits, h.right.once⟩, h.nodup, h.opened, h.notClosed, h.fresh_held,
          h.fresh_closes⟩
    | overrun =>
        cases Option.some.inj hnext
        exact ⟨⟨h.right.hits, h.right.once⟩, h.nodup, h.opened, h.notClosed, h.fresh_held,
          h.fresh_closes⟩
    | _ => exact hsame (Option.some.inj hnext).symm rfl rfl
  · cases hnext

end Good

/-! ## The run -/

/-- When no `copy_socket` fails, bytes move. -/
theorem moves_of_copies {k k' : Kernel} {x : Call} {r : Resp x} (hcopies : Copies k x r)
    (hnext : k.next x r = some k') : Moves x r := by
  cases x with
  | read => exact hcopies
  | write s bytes =>
      refine ⟨?_, hcopies⟩
      unfold Kernel.next at hnext
      split at hnext
      · simp only at hnext
        split at hnext
        · assumption
        · cases hnext
      · cases hnext
  | _ => exact trivial

/-- A new thread begins with what `pthread_create` hands to it. -/
theorem hands_of_spawn {x : Call} {r : Resp x} {t : Turn} (ht : spawn x r = some t) :
    sockets.hands x r = t.holds := by
  cases x with
  | pthreadCreate cd =>
      cases r with
      | true =>
          cases Option.some.inj ht
          rfl
      | false => cases ht
  | _ => cases ht

theorem hands_of_spawn_eq_none {x : Call} {r : Resp x} (ht : spawn x r = none) :
    sockets.hands x r = 0 := by
  cases x with
  | pthreadCreate cd =>
      cases r with
      | true => cases ht
      | false => rfl
  | _ => rfl

theorem holds_of_empty {f : FreeSockets} (hempty : f.nb_free_local = 0) : holds f = 0 := by
  have hnil : f.waiting = [] := by rw [← List.length_eq_zero_iff, f.length_waiting, hempty]
  rw [holds, hnil]
  rfl

/-- When no `copy_socket` fails, no descriptor is closed for another connection's. -/
theorem always_closedOnce {main_socket ssocket : Socket} {f : FreeSockets} {k : Kernel}
    {trace : List ((Nat × LoopLabel Call Resp) × (Kernel × List (P (Option Turn))))}
    (hempty : f.nb_free_local = 0) (hcloses : k.closes = [])
    (hrun : Run (ThreadStep Kernel.next (process main_socket ssocket) spawn)
      (k, [process main_socket ssocket (.serve f)]) trace)
    (hcond : EachStep (ThreadCond Copies) (k, [process main_socket ssocket (.serve f)]) trace) :
    Always (fun c => ClosedOnce c.1) trace := by
  have hok : ∀ (k : Kernel) (x : Call) (r : Resp x) (k' : Kernel), Copies k x r →
      k.next x r = some k' → Moves x r := fun k x r k' => moves_of_copies
  have hbody : ∀ (t : Turn) (held : Multiset Socket), held = t.holds →
      owns (process main_socket ssocket t) (fun o held => ∀ t' ∈ o, held = t'.holds) held :=
    fun t held heq => heq ▸ owns_process main_socket ssocket t
  have hstart : 0 = (Turn.serve f).holds := (holds_of_empty hempty).symm
  have hgood := threads_always (J := fun t held => held = t.holds)
    hok (fun k x r k' rest => Good.next) (fun x r t => hands_of_spawn)
    (fun x r => hands_of_spawn_eq_none) hbody hrun hcond (Good.start hcloses) hstart
  exact hgood.imp fun c ⟨held, h⟩ => h.right

/-! ## Two runs

In both a client and the host are joined by a relay thread.  In the first run the thread copies
a byte and then stops because `select` fails.  In the second the client hangs up: `copy_socket`
closes both descriptors, the next client gets the number of the first, and then the thread
closes both numbers once more. -/

namespace Relays

def mainSocket : Socket := ⟨3, 3⟩

def ssocket : Socket := ⟨4, 4⟩

def free : FreeSockets := ⟨List.replicate 5 ⟨0, 0⟩, 0, rfl, Nat.zero_le _⟩

/-- The numbers below 5 are in use. -/
def kernel : Kernel := ⟨fun n => if n < 5 then some n else none, 5, [], true⟩

def oracle (received : List UInt8) (j : Nat) : (x : Call) → Resp x
  | .select watched _ timeout =>
      if timeout.isSome then .ok [ssocket] else if j = 14 then .ok (watched.take 1) else .error .other
  | .time => (0 : Int)
  | .readInt _ => none
  | .writeInt _ _ => true
  | .read _ _ => received
  | .write _ bytes => bytes.length
  | .accept _ => some (if j = 2 then ⟨5, 5⟩ else if j = 8 then ⟨6, 6⟩ else ⟨5, 7⟩)
  | .getpeername s => some (if s.conn = 6 then 0x0A000302#32 else INADDR_LOOPBACK)
  | .close _ => ()
  | .malloc _ => true
  | .pthreadCreate _ => true
  | .exit _ _ => ()
  | .overrun => ()

abbrev initial : Kernel × List (P (Option Turn)) :=
  (kernel, [process mainSocket ssocket (.serve free)])

abbrev run (received : List UInt8) (schedule : List Nat) :
    List ((Nat × LoopLabel Call Resp) × (Kernel × List (P (Option Turn)))) :=
  playThreads Kernel.next (process mainSocket ssocket) spawn (oracle received) schedule 0 initial

/-- The main thread takes twelve steps, the relay thread all others. -/
def copied : List ((Nat × LoopLabel Call Resp) × (Kernel × List (P (Option Turn)))) :=
  run [7] (List.replicate 12 0 ++ List.replicate 11 1)

/-- After six steps of the relay thread a third connection is accepted. -/
def hungUp : List ((Nat × LoopLabel Call Resp) × (Kernel × List (P (Option Turn)))) :=
  run [] (List.replicate 12 0 ++ List.replicate 6 1 ++ List.replicate 4 0 ++ List.replicate 2 1)

end Relays

theorem always_closedOnce_copied :
    (endState Relays.initial Relays.copied).1.closes = [(⟨6, 6⟩, some 6), (⟨5, 5⟩, some 5)] ∧
      Always (fun c => ClosedOnce c.1) Relays.copied := by
  have hcond : EachStep (ThreadCond Copies) Relays.initial Relays.copied := by decide +kernel
  exact ⟨by decide +kernel, always_closedOnce rfl rfl (run_playThreads _ _ _ _ _ _ _) hcond⟩

theorem not_always_closedOnce :
    ∃ trace : List ((Nat × LoopLabel Call Resp) × (Kernel × List (P (Option Turn)))),
      Run (ThreadStep Kernel.next (process Relays.mainSocket Relays.ssocket) spawn)
        Relays.initial trace ∧
      ¬Always (fun c => ClosedOnce c.1) trace := by
  refine ⟨Relays.hungUp, run_playThreads _ _ _ _ _ _ _, fun h => ?_⟩
  have hend : (endState Relays.initial Relays.hungUp).1.closes =
      [(⟨5, 5⟩, some 7), (⟨6, 6⟩, some 6), (⟨5, 5⟩, some 5)] := by decide +kernel
  have hright : ClosedOnce (endState Relays.initial Relays.hungUp).1 :=
    h.endState (s := Relays.initial) (Good.start rfl).right
  -- the number 5 stands for connection 7 when it is closed for connection 5
  have hhit := hright.hits (⟨5, 5⟩, some 7) (hend ▸ List.mem_cons_self)
  exact absurd hhit (by decide)

end LocalOpengl
end DeviceAndroVM
