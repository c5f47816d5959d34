import DeviceAndroVM.Library.Forwarding
import DeviceAndroVM.Library.LoopRuns

/-!
# The proxy of the camera

`local_camera/main.c` from line 88 on: the Android side is connected, the player connects, and
messages are forwarded in both directions.  When the player is lost the process waits for it
again; when the Android side is lost it ends.

* `serve` — the outer loop's `accept` and one turn of the inner loop.
* `moveBytes` — the bytes read from and sent to each side.
* `Unmodified` — what is sent is what was read, all of it when another turn follows.
* `Whole` — a `send` accepts the whole message or fails.
* `always_unmodified` — a run with such sends only.
-/

namespace DeviceAndroVM
namespace LocalCamera

open Library

abbrev READ_BUFFER_SIZE : Nat := 640 * 480 * 12

/-- The system calls on descriptors. -/
inductive Call
  | accept
  | select (watched : List Nat) (nfds : Nat)
  | read (fd count : Nat)
  | send (fd : Nat) (bytes : List UInt8)
  | close (fd : Nat)
  deriving DecidableEq

/-- `none` and no bytes at a failure; `select` returns the readable descriptors. -/
@[reducible] def Resp : Call → Type
  | .accept => Option Nat
  | .select _ _ => Option (List Nat)
  | .read _ _ => List UInt8
  | .send _ _ => Nat
  | .close _ => Unit

abbrev P := Prog Call Resp

abbrev call (x : Call) : P (Resp x) := Prog.perform x

/-- What the process does next: it waits for the player, or forwards. -/
inductive Phase
  | accepting
  | forwarding (player_fd : Nat)
  deriving DecidableEq

/-- How a message was handled: it went through, nothing could be read, or the send failed. -/
inductive Forwarded
  | sent
  | unread
  | unsent
  deriving DecidableEq

/-- One message from one side to the other, when there is one. -/
def forward (from_fd to_fd : Nat) (rfds : List Nat) : P Forwarded :=
  if from_fd ∈ rfds then do
    let read_buffer ← call (.read from_fd (READ_BUFFER_SIZE + 1))
    if read_buffer = [] then return .unread
    else do
      let wr ← call (.send to_fd read_buffer)
      return if wr = 0 then .unsent else .sent
  else return .sent

/-- The player is gone: the inner loop ends. -/
def dropPlayer (player_fd : Nat) : P (Option Phase) := do
  call (.close player_fd)
  return some .accepting

/-- One turn of the outer loop up to the inner one, or of the inner loop; `none` is a return of
`main`. -/
def serve (hw_fd : Nat) : Phase → P (Option Phase)
  | .accepting => do
      let player_fd ← call .accept
      return player_fd.map .forwarding
  | .forwarding player_fd => do
      let max_fd := max player_fd hw_fd + 1
      let rfds ← call (.select [player_fd, hw_fd] max_fd)
      match rfds with
      | none => dropPlayer player_fd
      | some rfds => do
          let fromPlayer ← forward player_fd hw_fd rfds
          match fromPlayer with
          | .unread => dropPlayer player_fd
          | .unsent => return none
          | .sent => do
              let fromHw ← forward hw_fd player_fd rfds
              return match fromHw with
                | .sent => some (.forwarding player_fd)
                | _ => none

/-! ## The two sides -/

inductive Side
  | player
  | android
  deriving DecidableEq

abbrev Bytes := Streams Side UInt8

/-- Every descriptor but `hw_fd` is one of the player. -/
def side (hw_fd fd : Nat) : Side := if fd = hw_fd then .android else .player

/-- A system call: `accept` does not give out the number that is in use, a read gives at most
as many bytes as are asked for, and a send accepts a beginning of the message. -/
def moveBytes (hw_fd : Nat) (s : Bytes) : (x : Call) → Resp x → Option Bytes
  | .accept, some fd => if fd = hw_fd then none else some s
  | .select watched nfds, some rfds => if ∀ fd ∈ rfds, fd ∈ watched ∧ fd < nfds then some s else none
  | .read fd count, bytes =>
      if bytes.length ≤ count then some (s.receive (side hw_fd fd) bytes) else none
  | .send fd bytes, wr =>
      if wr ≤ bytes.length then some (s.send (side hw_fd fd) (bytes.take wr)) else none
  | _, _ => some s

/-- The bytes sent in both directions are the bytes read, and all of them when the loop goes
on. -/
structure Unmodified (c : Bytes × P (Option Phase)) : Prop where
  toAndroid : c.1.Behind .player .android
  toPlayer : c.1.Behind .android .player
  allToAndroid : ∀ fd, c.2 = .ret (some (.forwarding fd)) → c.1.Level .player .android
  allToPlayer : ∀ fd, c.2 = .ret (some (.forwarding fd)) → c.1.Level .android .player

/-- A send accepts the whole message or fails. -/
def Whole (_ : Bytes) : (x : Call) → Resp x → Prop
  | .send _ bytes, wr => wr = bytes.length ∨ wr = (0 : Nat)
  | _, _ => True

instance (s : Bytes) (x : Call) (r : Resp x) : Decidable (Whole s x r) := by
  unfold Whole
  split <;> infer_instance

/-! ## One turn -/

section Turn

variable {hw_fd : Nat} {s : Bytes}

/-- The precondition of a program for the two streams. -/
abbrev streams (hw_fd : Nat) {α : Type} (p : P α) (Q : α → Bytes → Prop) (s : Bytes) : Prop :=
  wp (meets Whole (moveBytes hw_fd)) (Ordered .player .android) p Q s

/-- A message is forwarded whole, or the bytes are in order and the process does not go on
with this player. -/
theorem streams_forward {from_fd to_fd : Nat} (rfds : List Nat) {a b : Side}
    (ha : side hw_fd from_fd = a) (hb : side hw_fd to_fd = b)
    (hordered : ∀ s : Bytes, Ordered a b s → Ordered .player .android s) (hs : Abreast a b s) :
    streams hw_fd (forward from_fd to_fd rfds)
      (fun f s' => Ordered a b s' ∧ (f ≠ .unsent → Abreast a b s')) s := by
  unfold forward
  split
  · rintro read_buffer s' ⟨-, hnext⟩
    simp only [moveBytes] at hnext
    split at hnext
    · cases Option.some.inj hnext
      have hbetween : Between read_buffer a b (s.receive (side hw_fd from_fd) read_buffer) :=
        ha ▸ hs.receive read_buffer
      refine ⟨hordered _ hbetween.ordered, ?_⟩
      show streams hw_fd (if read_buffer = [] then _ else _) _ _
      split
      · rename_i hnil
        subst hnil
        exact ⟨hbetween.ordered, fun _ => hbetween.abreast⟩
      · rename_i hne
        rintro (wr : Nat) s' ⟨hwhole, hnext⟩
        simp only [moveBytes] at hnext
        split at hnext
        · cases Option.some.inj hnext
          -- a send that fails leaves the message unsent, and the process does not go on
          rcases (hwhole : wr = read_buffer.length ∨ wr = 0) with rfl | rfl
          · have hsent : Between [] a b ((s.receive (side hw_fd from_fd) read_buffer).send
                (side hw_fd to_fd) (read_buffer.take read_buffer.length)) := by
              rw [List.take_length, hb]
              exact hbetween.send
            exact ⟨hordered _ hsent.ordered, hsent.ordered, fun _ => hsent.abreast⟩
          · rw [List.take_zero, Streams.send_nil]
            exact ⟨hordered _ hbetween.ordered, hbetween.ordered, fun hsent => absurd rfl hsent⟩
        · cases hnext
    · cases hnext
  · exact ⟨hs.ordered, fun _ => hs⟩

/-- What holds when a turn begins.  The descriptor of the player is not that of the Android
side. -/
structure AtPhase (hw_fd : Nat) (phase : Phase) (s : Bytes) : Prop where
  abreast : Abreast .player .android s
  player : ∀ fd, phase = .forwarding fd → fd ≠ hw_fd

theorem streams_dropPlayer (player_fd : Nat) (hs : Abreast .player .android s) :
    streams hw_fd (dropPlayer player_fd) (fun o s' => ∀ phase ∈ o, AtPhase hw_fd phase s') s := by
  rintro ⟨⟩ s' ⟨-, hnext⟩
  cases Option.some.inj hnext
  refine ⟨hs.ordered, fun phase hphase => ?_⟩
  cases hphase
  exact ⟨hs, nofun⟩

theorem streams_serve (phase : Phase) (hs : AtPhase hw_fd phase s) :
    streams hw_fd (serve hw_fd phase) (fun o s' => ∀ phase' ∈ o, AtPhase hw_fd phase' s') s := by
  cases phase with
  | accepting =>
      rintro player_fd s' ⟨-, hnext⟩
      cases player_fd with
      | none =>
          cases Option.some.inj hnext
          exact ⟨hs.abreast.ordered, nofun⟩
      | some fd =>
          simp only [moveBytes] at hnext
          split at hnext
          · cases hnext
          · rename_i hne
            cases Option.some.inj hnext
            refine ⟨hs.abreast.ordered, fun phase hphase => ?_⟩
            cases hphase
            refine ⟨hs.abreast, fun fd' hfd' => ?_⟩
            cases hfd'
            exact hne
  | forwarding player_fd =>
      have hplayer : side hw_fd player_fd = .player := if_neg (hs.player player_fd rfl)
      have handroid : side hw_fd hw_fd = .android := if_pos rfl
      rintro rfds s' ⟨-, hnext⟩
      cases rfds with
      | none =>
          cases Option.some.inj hnext
          exact ⟨hs.abreast.ordered, streams_dropPlayer player_fd hs.abreast⟩
      | some rfds =>
          simp only [moveBytes] at hnext
          split at hnext
          · cases Option.some.inj hnext
            refine ⟨hs.abreast.ordered, ?_⟩
            show streams hw_fd (forward player_fd hw_fd rfds >>= _) _ s
            refine (wp_bind _ _).mpr (wp_mono ?_
              (streams_forward rfds hplayer handroid (fun _ h => h) hs.abreast))
            rintro fromPlayer s₁ ⟨-, hall⟩
            cases fromPlayer with
            -- only the loss of the player leads back to `accept`
            | unread => exact streams_dropPlayer player_fd (hall (by decide))
            | unsent => exact nofun
            | sent =>
                refine (wp_bind _ _).mpr (wp_mono ?_ (streams_forward rfds handroid hplayer
                  (fun _ h => h.symm) (hall (by decide)).symm))
                rintro fromHw s₂ ⟨-, hall⟩
                cases fromHw with
                | unread => exact nofun
                | unsent => exact nofun
                | sent =>
                    intro phase hphase
                    cases hphase
                    refine ⟨(hall (by decide)).symm, fun fd hfd => ?_⟩
                    cases hfd
                    exact hs.player player_fd rfl
          · cases hnext

end Turn

/-! ## The run -/

/-- When every send accepts the whole message or fails, messages are forwarded without
modification. -/
theorem always_unmodified {hw_fd : Nat}
    {trace : List (LoopLabel Call Resp × (Bytes × P (Option Phase)))}
    (hrun : Run (LoopStep (moveBytes hw_fd) (serve hw_fd))
      (Streams.start, serve hw_fd .accepting) trace)
    (hcond : EachStep (LoopCond Whole) (Streams.start, serve hw_fd .accepting) trace) :
    Always Unmodified trace := by
  have hstart : AtPhase hw_fd .accepting Streams.start := ⟨Abreast.start, nofun⟩
  have hall := loop_always_turns (J := AtPhase hw_fd) (fun phase s hs => streams_serve phase hs)
    hrun hcond hstart.abreast.ordered hstart
  refine hall.imp fun c h => ⟨h.1.forth, h.1.back, fun fd hturn => ?_, fun fd hturn => ?_⟩
  · exact (h.2 _ hturn).abreast.forth
  · exact (h.2 _ hturn).abreast.back

/-! ## Two runs

The player sends three bytes; the Android side accepts all of them, or only the first. -/

namespace ThreeBytes

def hwFd : Nat := 5

def oracle (accepted : Nat) (_ : Nat) : (x : Call) → Resp x
  | .accept => some 6
  | .select _ _ => some [6]
  | .read _ _ => [1, 2, 3]
  | .send _ _ => accepted
  | .close _ => ()

abbrev initial : Bytes × P (Option Phase) := (Streams.start, serve hwFd .accepting)

def run (accepted n : Nat) : List (LoopLabel Call Resp × (Bytes × P (Option Phase))) :=
  play (moveBytes hwFd) (serve hwFd) (oracle accepted) n 0 initial

end ThreeBytes

theorem always_unmodified_whole :
    (endState ThreeBytes.initial (ThreeBytes.run 3 5)).1.sent .android = [1, 2, 3] ∧
      Always Unmodified (ThreeBytes.run 3 5) := by
  have hcond : EachStep (LoopCond Whole) ThreeBytes.initial (ThreeBytes.run 3 5) := by
    decide +kernel
  exact ⟨by decide +kernel, always_unmodified (run_play _ _ _ _ _ _) hcond⟩

theorem not_always_unmodified :
    ∃ (hw_fd : Nat) (trace : List (LoopLabel Call Resp × (Bytes × P (Option Phase)))),
      Run (LoopStep (moveBytes hw_fd) (serve hw_fd)) (Streams.start, serve hw_fd .accepting) trace ∧
      ¬Always Unmodified trace := by
  refine ⟨ThreeBytes.hwFd, ThreeBytes.run 1 5, run_play _ _ _ _ _ _, fun h => ?_⟩
  have hstart : AtPhase ThreeBytes.hwFd .accepting Streams.start := ⟨Abreast.start, nofun⟩
  have hend : Unmodified (endState ThreeBytes.initial (ThreeBytes.run 1 5)) :=
    h.endState ⟨hstart.abreast.ordered.forth, hstart.abreast.ordered.back, fun _ _ => rfl,
      fun _ _ => rfl⟩
  -- the loop goes on although two bytes are missing
  have hlevel : _ = _ := hend.allToAndroid 6 rfl
  revert hlevel
  decide +kernel

end LocalCamera
end DeviceAndroVM
