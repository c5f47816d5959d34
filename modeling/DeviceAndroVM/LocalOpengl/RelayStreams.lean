import DeviceAndroVM.Library.Forwarding
import DeviceAndroVM.LocalOpengl.Program

/-!
# The bytes between a client and the host

A relay thread reads from one socket and writes to the other.  A `write` may accept fewer bytes
than it is offered; the loop of `copy_socket` then offers the rest of the block, but from the
beginning of the buffer.

* `moveBytes` — the bytes read from and written to each socket.
* `Faithful` — the bytes written are those read, in order, and all of them when a turn ends.
* `Whole` — a `write` accepts all bytes or none.
* `always_faithful` — a relay thread whose writes are all of this kind.
-/

namespace DeviceAndroVM
namespace LocalOpengl

open Library

abbrev Bytes := Streams Socket UInt8

/-- A system call: a read gives at most as many bytes as are asked for, and a write accepts a
beginning of what it is offered. -/
def moveBytes (s : Bytes) : (x : Call) → Resp x → Option Bytes
  | .select watched nfds _, .ok ready =>
      if ∀ a ∈ ready, a ∈ watched ∧ a.fd < nfds then some s else none
  | .read a count, bytes => if bytes.length ≤ count then some (s.receive a bytes) else none
  | .write a bytes, wsize =>
      if wsize ≤ bytes.length then some (s.send a (bytes.take wsize)) else none
  | _, _ => some s

/-- The bytes written in both directions are the bytes read, all of them when a turn of the loop
has ended and another one follows. -/
structure Faithful (cd : ConnDuo) (c : Bytes × P (Option Phase)) : Prop where
  toHost : c.1.Behind cd.local_socket cd.host_socket
  toLocal : c.1.Behind cd.host_socket cd.local_socket
  allToHost : c.2 = .ret (some .looping) → c.1.Level cd.local_socket cd.host_socket
  allToLocal : c.2 = .ret (some .looping) → c.1.Level cd.host_socket cd.local_socket

/-- A `write` accepts all bytes or none. -/
def Whole (_ : Bytes) : (x : Call) → Resp x → Prop
  | .write _ bytes, wsize => wsize = bytes.length ∨ wsize = (0 : Nat)
  | _, _ => True

instance (s : Bytes) (x : Call) (r : Resp x) : Decidable (Whole s x r) :=
  match x, r with
  | .write _ bytes, wsize =>
      inferInstanceAs (Decidable (wsize = bytes.length ∨ wsize = (0 : Nat)))
  | .select _ _ _, _ | .time, _ | .readInt _, _ | .writeInt _ _, _ | .read _ _, _ | .accept _, _
  | .getpeername _, _ | .close _, _ | .malloc _, _ | .pthreadCreate _, _ | .exit _ _, _
  | .overrun, _ => isTrue trivial

/-! ## One direction -/

section Copy

variable {s : Bytes}

/-- The precondition of a program for the two streams of a pair. -/
abbrev streams (a b : Socket) {α : Type} (p : P α) (Q : α → Bytes → Prop) (s : Bytes) : Prop :=
  wp (meets Whole moveBytes) (Ordered a b) p Q s

/-- A call that moves no bytes. -/
theorem streams_still {a b : Socket} {α : Type} {x : Call} {k : Resp x → P α}
    {Q : α → Bytes → Prop} (hx : ∀ r s', moveBytes s x r = some s' → s' = s) (hs : Ordered a b s)
    (hk : ∀ r, streams a b (k r) Q s) : streams a b (.act x k) Q s := by
  rintro r s' ⟨-, hnext⟩
  rw [hx r s' hnext]
  exact ⟨hs, hk r⟩

/-- With nothing left to write the loop writes nothing. -/
theorem streams_writeLoop_zero {a b : Socket} {buff : List UInt8} (fd_write : Socket)
    (hs : Ordered a b s) :
    ∀ fuel, streams a b (writeLoop fd_write buff fuel 0) (fun towrite s' => towrite = 0 ∧ s' = s) s := by
  intro fuel
  cases fuel with
  | zero => exact ⟨rfl, rfl⟩
  | succ fuel =>
      rintro (wsize : Nat) s' ⟨-, hnext⟩
      simp only [moveBytes, List.take_zero, List.length_nil, Nat.le_zero] at hnext
      split at hnext
      · rename_i hzero
        have hsame : s' = s := by
          rw [List.take_nil, Streams.send_nil] at hnext
          exact (Option.some.inj hnext).symm
        subst hsame
        refine ⟨hs, ?_⟩
        show streams a b (if wsize > 0 then _ else _) _ s'
        rw [if_neg (by omega)]
        exact ⟨rfl, rfl⟩
      · cases hnext

/-- A block that is written whole or not at all. -/
theorem streams_writeLoop {a b : Socket} {buff : List UInt8} (hs : Between buff a b s)
    (hne : buff ≠ []) (fuel : Nat) :
    streams a b (writeLoop b buff (fuel + 1) buff.length)
      (fun towrite s' => Ordered a b s' ∧ (towrite = 0 → Abreast a b s')) s := by
  rintro (wsize : Nat) s' ⟨hwhole, hnext⟩
  have hwhole : wsize = (buff.take buff.length).length ∨ wsize = 0 := hwhole
  rw [List.take_length] at hwhole
  simp only [moveBytes, List.take_length] at hnext
  split at hnext
  · cases Option.some.inj hnext
    have hpos : 0 < buff.length := List.length_pos_iff.mpr hne
    -- a write that is refused ends the loop, and the block is lost with the connection
    rcases hwhole with rfl | rfl
    · have hbetween : Between [] a b (s.send b (buff.take buff.length)) := by
        rw [List.take_length]
        exact hs.send
      refine ⟨hbetween.ordered, ?_⟩
      show streams a b (if buff.length > 0 then _ else _) _ _
      rw [if_pos hpos, Nat.sub_self]
      refine wp_mono ?_ (streams_writeLoop_zero b hbetween.ordered fuel)
      rintro towrite s' ⟨-, rfl⟩
      exact ⟨hbetween.ordered, fun _ => hbetween.abreast⟩
    · rw [List.take_zero, Streams.send_nil]
      refine ⟨hs.ordered, hs.ordered, fun hzero => ?_⟩
      omega
  · cases hnext

theorem streams_copySocket {a b : Socket} (hs : Abreast a b s) :
    streams a b (copySocket a b)
      (fun ok s' => Ordered a b s' ∧ (ok = true → Abreast a b s')) s := by
  have hclose : ∀ (t : Bytes) (s' s'' : Socket), Ordered a b t → streams a b
      (do call (.close s')
          call (.close s'')
          return false)
      (fun ok s' => Ordered a b s' ∧ (ok = true → Abreast a b s')) t := by
    intro t s' s'' ht
    refine streams_still (fun _ _ h => (Option.some.inj h).symm) ht fun _ => ?_
    exact streams_still (fun _ _ h => (Option.some.inj h).symm) ht fun _ => ⟨ht, nofun⟩
  rintro buff s' ⟨-, hnext⟩
  simp only [moveBytes] at hnext
  split at hnext
  · cases Option.some.inj hnext
    have hbetween : Between buff a b (s.receive a buff) := hs.receive buff
    refine ⟨hbetween.ordered, ?_⟩
    show streams a b (if buff = [] then _ else _) _ _
    split
    · exact hclose _ a b hbetween.ordered
    · rename_i hne
      refine (wp_bind _ _).mpr (wp_mono ?_ (streams_writeLoop hbetween hne buff.length))
      rintro towrite s' ⟨hordered, hall⟩
      show streams a b (if towrite > 0 then _ else _) _ _
      split
      · exact hclose _ a b hordered
      · rename_i hzero
        exact ⟨hordered, fun _ => hall (Nat.eq_zero_of_not_pos hzero)⟩
  · cases hnext

/-- One turn of the loop; after `break` the bytes are still in order. -/
theorem streams_relay (cd : ConnDuo) (set_read : List Socket)
    (hs : Abreast cd.local_socket cd.host_socket s) :
    streams cd.local_socket cd.host_socket (relay cd set_read)
      (fun ok s' => Ordered cd.local_socket cd.host_socket s' ∧
        (ok = true → Abreast cd.local_socket cd.host_socket s')) s := by
  have hready : ∀ a b t, Abreast a b t → streams a b (copyReady a b set_read)
      (fun ok s' => Ordered a b s' ∧ (ok = true → Abreast a b s')) t := by
    intro a b t ht
    unfold copyReady
    split
    · exact streams_copySocket ht
    · exact ⟨ht.ordered, fun _ => ht⟩
  refine (wp_bind _ _).mpr (wp_mono ?_ (hready cd.local_socket cd.host_socket s hs))
  rintro goesOn s' ⟨hordered, hall⟩
  cases goesOn with
  | false => exact ⟨hordered, nofun⟩
  | true =>
      -- the second direction is the first one with the sides exchanged
      have hback := hready cd.host_socket cd.local_socket s' (hall rfl).symm
      exact wp_mono (fun ok t ht => ⟨ht.1.symm, fun hok => (ht.2 hok).symm⟩)
        (wp_inv (fun t ht => ht.symm) hback)

/-- What holds at the beginning of each part of `conn_thread`. -/
def AtPhase (cd : ConnDuo) : Phase → Bytes → Prop
  | .stopping, s => Ordered cd.local_socket cd.host_socket s
  | _, s => Abreast cd.local_socket cd.host_socket s

theorem AtPhase.ordered {cd : ConnDuo} {phase : Phase} (h : AtPhase cd phase s) :
    Ordered cd.local_socket cd.host_socket s := by
  cases phase with
  | starting => exact Abreast.ordered h
  | looping => exact Abreast.ordered h
  | stopping => exact h

theorem streams_connThread (cd : ConnDuo) (phase : Phase) (hs : AtPhase cd phase s) :
    streams cd.local_socket cd.host_socket (connThread cd phase)
      (fun o s' => ∀ phase' ∈ o, AtPhase cd phase' s') s := by
  cases phase with
  | starting =>
      refine streams_still (fun _ _ h => (Option.some.inj h).symm) hs.ordered fun buff => ?_
      cases buff with
      | false => exact nofun
      | true =>
          intro phase' hphase'
          cases hphase'
          exact hs
  | looping =>
      refine streams_still ?_ hs.ordered fun r => ?_
      · intro r s' hnext
        cases r with
        | error e => exact (Option.some.inj hnext).symm
        | ok set_read =>
            simp only [moveBytes] at hnext
            split at hnext
            · exact (Option.some.inj hnext).symm
            · cases hnext
      match r with
      | .error .EINTR =>
          intro phase' hphase'
          cases hphase'
          exact hs
      | .error .other =>
          intro phase' hphase'
          cases hphase'
          exact hs.ordered
      | .ok set_read =>
          show streams _ _ (relay cd set_read >>= _) _ s
          refine (wp_bind _ _).mpr (wp_mono ?_ (streams_relay cd set_read hs))
          rintro goesOn s' ⟨hordered, hall⟩ phase' hphase'
          cases hphase'
          cases goesOn with
          | true => exact hall rfl
          | false => exact hordered
  | stopping =>
      refine streams_still (fun _ _ h => (Option.some.inj h).symm) hs.ordered fun _ => ?_
      exact streams_still (fun _ _ h => (Option.some.inj h).symm) hs.ordered fun _ => nofun

end Copy

/-! ## The run of a relay thread -/

/-- When every `write` accepts all bytes or none, both sides get the bytes of the other. -/
theorem always_faithful {cd : ConnDuo}
    {trace : List (LoopLabel Call Resp × (Bytes × P (Option Phase)))}
    (hrun : Run (LoopStep moveBytes (connThread cd))
      (Streams.start, connThread cd .starting) trace)
    (hcond : EachStep (LoopCond Whole) (Streams.start, connThread cd .starting) trace) :
    Always (Faithful cd) trace := by
  have hstart : AtPhase cd .starting Streams.start := Abreast.start
  have hall := loop_always_turns (J := AtPhase cd) (fun phase s hs => streams_connThread cd phase hs)
    hrun hcond hstart.ordered hstart
  refine hall.imp fun c h => ⟨h.1.forth, h.1.back, fun hturn => ?_, fun hturn => ?_⟩
  · exact Abreast.forth (h.2 .looping hturn)
  · exact Abreast.back (h.2 .looping hturn)

/-! ## Two runs

A client sends three bytes.  In the first run the host accepts them at once; in the second it
accepts one byte and then two more. -/

namespace ThreeBytes

def pair : ConnDuo := ⟨⟨5, 5⟩, ⟨6, 6⟩⟩

def oracle (short : Bool) (i : Nat) : (x : Call) → Resp x
  | .select _ _ _ => .ok [pair.local_socket]
  | .time => (0 : Int)
  | .readInt _ => none
  | .writeInt _ _ => true
  | .read _ _ => [1, 2, 3]
  | .write _ bytes => if short ∧ i = 4 then (1 : Nat) else bytes.length
  | .accept _ => none
  | .getpeername _ => none
  | .close _ => ()
  | .malloc _ => true
  | .pthreadCreate _ => true
  | .exit _ _ => ()
  | .overrun => ()

abbrev initial : Bytes × P (Option Phase) := (Streams.start, connThread pair .starting)

def run (short : Bool) (n : Nat) : List (LoopLabel Call Resp × (Bytes × P (Option Phase))) :=
  play moveBytes (connThread pair) (oracle short) n 0 initial

end ThreeBytes

theorem always_faithful_whole :
    (endState ThreeBytes.initial (ThreeBytes.run false 6)).1.sent ThreeBytes.pair.host_socket =
        [1, 2, 3] ∧
      Always (Faithful ThreeBytes.pair) (ThreeBytes.run false 6) := by
  have hcond : EachStep (LoopCond Whole) ThreeBytes.initial (ThreeBytes.run false 6) := by
    decide +kernel
  exact ⟨by decide +kernel, always_faithful (run_play _ _ _ _ _ _) hcond⟩

theorem not_always_faithful :
    ∃ (cd : ConnDuo) (trace : List (LoopLabel Call Resp × (Bytes × P (Option Phase)))),
      Run (LoopStep moveBytes (connThread cd)) (Streams.start, connThread cd .starting) trace ∧
      ¬Always (Faithful cd) trace := by
  refine ⟨ThreeBytes.pair, ThreeBytes.run true 7, run_play _ _ _ _ _ _, fun h => ?_⟩
  have hstart : AtPhase ThreeBytes.pair .starting Streams.start := Abreast.start
  have hend : Faithful ThreeBytes.pair (endState ThreeBytes.initial (ThreeBytes.run true 7)) :=
    h.endState ⟨hstart.ordered.forth, hstart.ordered.back, fun _ => rfl, fun _ => rfl⟩
  -- the second write begins with the first byte again
  have hsent : (endState ThreeBytes.initial (ThreeBytes.run true 7)).1.sent
      ThreeBytes.pair.host_socket = [1, 1, 2] := by decide +kernel
  have hread : (endState ThreeBytes.initial (ThreeBytes.run true 7)).1.received
      ThreeBytes.pair.local_socket = [1, 2, 3] := by decide +kernel
  have hbehind : _ <+: _ := hend.toHost
  rw [hsent, hread] at hbehind
  revert hbehind
  decide

end LocalOpengl
end DeviceAndroVM
