import DeviceAndroVM.LocalOpengl.Program

/-!
# The heartbeat of the main connection

The process pings the host and listens for its answers.  It looks at the clock once after every
`select`; a pong answers the oldest ping that has none yet.

* `Heart` — the clock, the pings and what became of them.
* `Alive` — pings are apart, no unanswered ping outlives a wake-up that finds it too old, and
  nothing but an unanswered ping makes the process give up.
* `FirstPing` — no ping has been sent before the wake-up.
* `always_alive` — a run with such wake-ups only.
* `not_alive_of_second_ping` — the wake-up after a ping is wrong in one way or the other.
-/

namespace DeviceAndroVM
namespace LocalOpengl

open Library

/-- What can be judged of the heartbeat: a ping with the time since the last one, a `select`
with what the wake-up before had found, and the end of the process with the pings that have no
answer. -/
inductive Verdict
  | pinged (since : Option Int)
  | selected (overdue : Bool)
  | gaveUp (unanswered : List Int)
  deriving DecidableEq

def Verdict.Right : Verdict → Prop
  | .pinged since => ∀ d ∈ since, d > HEARTBEAT_PERIOD
  | .selected overdue => overdue = false
  | .gaveUp unanswered => unanswered ≠ []

/-- `clock` is the last time that was read and `lastPing` the time of the last ping;
`unanswered` are the times of the pings without a pong, oldest first.  Between `select` and the
next look at the clock the process is `woken`; then `overdue` says whether a ping has waited too
long. -/
structure Heart where
  clock : Int
  woken : Bool
  lastPing : Option Int
  unanswered : List Int
  overdue : Bool
  verdicts : List Verdict
  deriving DecidableEq

namespace Heart

def start : Heart := ⟨0, false, none, [], false, []⟩

def judge (h : Heart) (v : Verdict) : Heart := { h with verdicts := v :: h.verdicts }

def wake (h : Heart) : Heart := { h.judge (.selected h.overdue) with woken := true, overdue := false }

def tick (h : Heart) (t : Int) : Heart :=
  { h with
    clock := t
    woken := false
    overdue := if h.woken then h.unanswered.any fun p => t - p > HEARTBEAT_PERIOD else h.overdue }

def ping (h : Heart) : Heart :=
  { h.judge (.pinged (h.lastPing.map fun p => h.clock - p)) with
    lastPing := some h.clock
    unanswered := h.unanswered ++ [h.clock] }

/-- A system call.  The clock does not go back, and `select` reports watched descriptors below
its bound. -/
def next (h : Heart) : (x : Call) → Resp x → Option Heart
  | .select watched nfds _, .ok ready =>
      if ∀ s ∈ ready, s ∈ watched ∧ s.fd < nfds then some h.wake else none
  | .select _ _ _, .error _ => some h.wake
  | .time, t => if h.clock ≤ t then some (h.tick t) else none
  | .writeInt _ v, sent => some (if sent ∧ v = OPENGL_PING then h.ping else h)
  | .readInt _, nop =>
      some (if nop = some OPENGL_PONG then { h with unanswered := h.unanswered.tail } else h)
  | .exit _ .noPong, _ => some (h.judge (.gaveUp h.unanswered))
  | _, _ => some h

end Heart

/-- Everything so far is right. -/
def Alive (h : Heart) : Prop := ∀ v ∈ h.verdicts, v.Right

/-- No ping has been sent before the wake-up. -/
def FirstPing (h : Heart) : (x : Call) → Resp x → Prop
  | .time, _ => h.woken = true → h.lastPing = none
  | _, _ => True

instance (h : Heart) (x : Call) (r : Resp x) : Decidable (FirstPing h x r) :=
  match x, r with
  | .time, _ => inferInstanceAs (Decidable (h.woken = true → h.lastPing = none))
  | .select _ _ _, _ | .readInt _, _ | .writeInt _ _, _ | .read _ _, _ | .write _ _, _
  | .accept _, _ | .getpeername _, _ | .close _, _ | .malloc _, _ | .pthreadCreate _, _
  | .exit _ _, _ | .overrun, _ => isTrue trivial

/-! ## One turn -/

section Turn

variable {h : Heart}

/-- The precondition of a program for the heartbeat. -/
abbrev beats {α : Type} (p : P α) (Q : α → Heart → Prop) (h : Heart) : Prop :=
  wp (meets FirstPing Heart.next) Alive p Q h

/-- Between the wake-ups. -/
structure Steady (h : Heart) : Prop where
  alive : Alive h
  awake : h.woken = false
  inTime : h.overdue = false
  silent : h.lastPing = none → h.unanswered = []

/-- After a wake-up, before the ping. -/
structure Due (h : Heart) : Prop extends Steady h where
  first : h.lastPing = none

theorem Alive.judge (hh : Alive h) {v : Verdict} (hv : v.Right) : Alive (h.judge v) := by
  intro v' hmem
  rcases List.mem_cons.mp hmem with rfl | hmem
  · exact hv
  · exact hh v' hmem

theorem Steady.start : Steady Heart.start := ⟨nofun, rfl, rfl, fun _ => rfl⟩

/-- The calls that neither wake the process, nor ping, nor give up. -/
def Calm : Call → Prop
  | .select _ _ _ => False
  | .writeInt _ v => v ≠ OPENGL_PING
  | .exit _ site => site ≠ .noPong
  | _ => True

theorem Steady.calm {x : Call} {r : Resp x} {h' : Heart} (hx : Calm x) (hh : Steady h)
    (hnext : h.next x r = some h') : Steady h' := by
  cases x with
  | select => exact hx.elim
  | time =>
      simp only [Heart.next] at hnext
      split at hnext
      · cases Option.some.inj hnext
        refine ⟨hh.alive, rfl, ?_, hh.silent⟩
        show (if h.woken then _ else h.overdue) = false
        rw [hh.awake]
        exact hh.inTime
      · cases hnext
  | writeInt s v =>
      have hv : v ≠ OPENGL_PING := hx
      have heq : h' = h := by simpa [Heart.next, hv, eq_comm] using hnext
      exact heq ▸ hh
  | readInt s =>
      cases Option.some.inj hnext
      split
      · refine ⟨hh.alive, hh.awake, hh.inTime, fun hnone => ?_⟩
        show h.unanswered.tail = []
        rw [hh.silent hnone]
        rfl
      · exact hh
  | exit code site =>
      have hsite : site ≠ .noPong := hx
      have heq : h' = h := by
        cases site with
        | noPong => exact absurd rfl hsite
        | _ => exact (Option.some.inj hnext).symm
      exact heq ▸ hh
  | _ => exact Option.some.inj hnext ▸ hh

theorem beats_of_calm {α : Type} {p : P α} (hp : p.Only Calm) (hh : Steady h) :
    beats p (fun _ h => Steady h) h := by
  apply wp_of_only hp _ hh
  rintro x s r s' hcalm hsteady ⟨-, hnext⟩
  have hsteady' := hsteady.calm hcalm hnext
  exact ⟨hsteady'.alive, hsteady'⟩

theorem readCommand_calm (main_socket : Socket) : (readCommand main_socket).Only Calm := by
  refine ⟨trivial, fun nop => ?_⟩
  cases nop with
  | none => exact ⟨(by decide : ExitSite.hangUp ≠ .noPong), fun _ => trivial⟩
  | some nop =>
      show Prog.Only Calm (if nop = OPENGL_PING then _ else _)
      split
      · refine ⟨(by decide : OPENGL_PONG ≠ OPENGL_PING), fun sent => ?_⟩
        cases sent with
        | true => exact trivial
        | false => exact ⟨(by decide : ExitSite.pongFailed ≠ .noPong), fun _ => trivial⟩
      · split
        · exact ⟨trivial, fun _ => trivial⟩
        · exact trivial

theorem flush_calm (ss : List Socket) : (flush ss).Only Calm := by
  induction ss with
  | nil => exact trivial
  | cons s rest ih => exact ⟨trivial, fun _ => ih⟩

theorem identify_calm (main_socket : Socket) (f : FreeSockets) (csocket : Socket)
    (cli_addr : Option CInt) : (identify main_socket f csocket cli_addr).Only Calm := by
  cases cli_addr with
  | none => exact ⟨trivial, fun _ => trivial⟩
  | some s_addr =>
      show Prog.Only Calm (if isLoopback s_addr then _ else _)
      split
      · unfold localConnection
        split
        · refine ⟨(by decide : TCPCLI_NEW ≠ OPENGL_PING), fun sent => ?_⟩
          cases sent with
          | true => exact trivial
          | false => exact ⟨(by decide : ExitSite.commandFailed ≠ .noPong), fun _ => trivial⟩
        · exact ⟨trivial, fun _ => trivial⟩
      · unfold hostConnection
        split
        · exact ⟨trivial, fun _ => trivial⟩
        · refine ⟨trivial, fun new_cd => ?_⟩
          cases new_cd with
          | false => exact ⟨trivial, fun _ => trivial⟩
          | true =>
              cases f.shift with
              | none => exact ⟨trivial, fun _ => trivial⟩
              | some f' =>
                  refine ⟨trivial, fun created => ?_⟩
                  cases created with
                  | true => exact trivial
                  | false => exact ⟨trivial, fun _ => ⟨trivial, fun _ => trivial⟩⟩

theorem dispatch_calm (main_socket ssocket : Socket) (f : FreeSockets)
    (sl : Except Errno (List Socket)) : (dispatch main_socket ssocket f sl).Only Calm := by
  match sl with
  | .error .EINTR => exact trivial
  | .error .other => exact ⟨(by decide : ExitSite.selectFailed ≠ .noPong), fun _ => trivial⟩
  | .ok [] => exact (flush_calm f.waiting).bind fun _ => trivial
  | .ok (s :: rest) =>
      have hmessage : (hostMessage main_socket (s :: rest)).Only Calm := by
        unfold hostMessage
        split
        · exact readCommand_calm main_socket
        · exact trivial
      refine hmessage.bind fun goesOn => ?_
      cases goesOn with
      | false => exact trivial
      | true =>
          show Prog.Only Calm (if ssocket ∈ s :: rest then _ else _)
          split
          · refine ⟨trivial, fun csocket => ?_⟩
            cases csocket with
            | none => exact trivial
            | some c => exact ⟨trivial, identify_calm main_socket f c⟩
          · exact trivial

/-- The variables `lasttime_ping` and `lasttime_pong` are 0: a ping is sent whenever the clock is
past the period. -/
theorem beats_heartbeat (main_socket : Socket) (curtime : Int) (hh : Due h) :
    beats (heartbeat main_socket curtime 0 0) (fun _ h => Steady h) h := by
  unfold heartbeat
  split
  · show beats (do
      let sent ← call (.writeInt main_socket OPENGL_PING)
      if sent then return true
      else do
        call (.exit 0 .pingFailed)
        return false) _ h
    rintro sent h' ⟨-, hnext⟩
    cases sent with
    | true =>
        have heq : h' = h.ping := by simpa [Heart.next, eq_comm] using hnext
        subst heq
        -- the first ping has no other one before it to be apart from
        have hright : (Verdict.pinged (h.lastPing.map fun p => h.clock - p)).Right := by
          rw [hh.first]
          exact nofun
        have halive : Alive h.ping := hh.alive.judge hright
        exact ⟨halive, halive, hh.awake, hh.inTime, nofun⟩
    | false =>
        have heq : h' = h := by simpa [Heart.next, eq_comm] using hnext
        subst heq
        refine ⟨hh.alive, ?_⟩
        rintro ⟨⟩ h' ⟨-, hnext⟩
        cases Option.some.inj hnext
        exact ⟨hh.alive, hh.toSteady⟩
  · exact hh.toSteady

theorem beats_serve (main_socket ssocket : Socket) (f : FreeSockets) (hh : Steady h) :
    beats (serve main_socket ssocket f) (fun _ h => Steady h) h := by
  rintro sl h' ⟨-, hnext⟩
  have heq : h' = h.wake := by
    cases sl with
    | error _ => exact (Option.some.inj hnext).symm
    | ok ready =>
        simp only [Heart.next] at hnext
        split at hnext
        · exact (Option.some.inj hnext).symm
        · cases hnext
  subst heq
  have halive : Alive h.wake := hh.alive.judge hh.inTime
  refine ⟨halive, ?_⟩
  rintro curtime h' ⟨htime, hnext⟩
  -- the clock is read right after the wake-up, so the condition speaks of this turn
  have hfirst : h.lastPing = none := htime rfl
  have htick : h' = h.wake.tick curtime := by
    simp only [Heart.next] at hnext
    split at hnext
    · exact (Option.some.inj hnext).symm
    · cases hnext
  subst htick
  have hdue : Due (h.wake.tick curtime) := by
    refine ⟨⟨halive, rfl, ?_, fun _ => hh.silent hfirst⟩, hfirst⟩
    show (h.unanswered.any fun p => decide (curtime - p > HEARTBEAT_PERIOD)) = false
    rw [hh.silent hfirst]
    rfl
  refine ⟨halive, ?_⟩
  show beats (heartbeat main_socket curtime 0 0 >>= _) _ _
  refine (wp_bind _ _).mpr (wp_mono ?_ (beats_heartbeat main_socket curtime hdue))
  intro goesOn h' hh'
  cases goesOn with
  | false => exact hh'
  | true => exact beats_of_calm (dispatch_calm main_socket ssocket f sl) hh'

end Turn

/-! ## The run -/

/-- A wake-up after an unanswered ping pings again: too early, or although the ping before is
overdue. -/
theorem not_alive_of_second_ping {h : Heart} {p : Int} (t : Int) (hlast : h.lastPing = some p)
    (hopen : h.unanswered = [p]) : ¬Alive (h.wake.tick t).ping.wake := by
  intro halive
  have hpinged : Verdict.Right (.pinged (h.lastPing.map fun p => t - p)) :=
    halive _ (List.mem_cons_of_mem _ List.mem_cons_self)
  have hselected : Verdict.Right
      (.selected (h.unanswered.any fun p => decide (t - p > HEARTBEAT_PERIOD))) :=
    halive _ List.mem_cons_self
  rw [hlast] at hpinged
  rw [hopen] at hselected
  have hlate : t - p > 3 := hpinged _ rfl
  have hearly : t - p ≤ 3 := by simpa [Verdict.Right] using hselected
  omega

/-! ## Two wake-ups

Both `select` calls time out, and the clock shows 10 and 11.  The first turn alone is right. -/

namespace TwoWakeUps

def mainSocket : Socket := ⟨3, 0⟩

def ssocket : Socket := ⟨4, 1⟩

def free : FreeSockets := ⟨List.replicate 5 ⟨0, 2⟩, 0, rfl, Nat.zero_le _⟩

def oracle (i : Nat) : (x : Call) → Resp x
  | .select _ _ _ => .ok []
  | .time => if i < 4 then (10 : Int) else 11
  | .readInt _ => none
  | .writeInt _ _ => true
  | .read _ _ => []
  | .write _ _ => (0 : Nat)
  | .accept _ => none
  | .getpeername _ => none
  | .close _ => ()
  | .malloc _ => true
  | .pthreadCreate _ => true
  | .exit _ _ => ()
  | .overrun => ()

abbrev initial : Heart × P (Option FreeSockets) := (Heart.start, serve mainSocket ssocket free)

def run (n : Nat) : List (LoopLabel Call Resp × (Heart × P (Option FreeSockets))) :=
  play Heart.next (serve mainSocket ssocket) oracle n 0 initial

end TwoWakeUps

end LocalOpengl
end DeviceAndroVM
