import DeviceAndroVM.Library.Slot
import DeviceAndroVM.Sensors.SensorStream

/-!
# The slots of the clients

Every client that was accepted should have one slot of `clientsSocks` until its socket is
closed.  Slots are filled in `acceptNewClient`, and cleared in `readData` and, all of them, when
`select` fails.

* `ClientsKept` — the sockets of the clients and the slots.
* `Held` — the invariant, over `SlotTable.Keeps`.
* `Step.HasRoom` — a client that connects finds a slot, and its descriptor is not 0.
* `always_clientsKept_iff` — in the runs with room for all clients, and in no others.
-/

namespace DeviceAndroVM
namespace Sensors
namespace System

open Library

/-- Every accepted socket is in one slot or has been closed, slots have open sockets, and no two
slots have the same one.  A slot with 0 is free. -/
structure ClientsKept (s : System) : Prop where
  accepted : ∀ id < s.clients.length,
    (∃! c, 0 < s.clientsSocks c ∧ s.sockets (s.clientsSocks c) = some id) ∨
      ∀ fd, s.sockets fd ≠ some id
  noneClosed : ∀ c, 0 < s.clientsSocks c → s.sockets (s.clientsSocks c) ≠ none
  distinct : ∀ c d, 0 < s.clientsSocks c → s.clientsSocks c = s.clientsSocks d → c = d

/-- The descriptors with an open connection. -/
def openSockets (s : System) : Set Nat := {fd | s.sockets fd ≠ none}

/-- The slots keep the open connections, and each client has one connection. -/
structure Held (s : System) : Prop where
  keeps : SlotTable.Keeps 0 s.clientsSocks s.openSockets
  bounded : ∀ fd id, s.sockets fd = some id → id < s.clients.length
  injective : ∀ fd fd' id, s.sockets fd = some id → s.sockets fd' = some id → fd = fd'

/-- A client has a connection that is in no slot. -/
def Leaks (s : System) (fd id : Nat) : Prop :=
  id < s.clients.length ∧ s.sockets fd = some id ∧
    ∀ c, 0 < s.clientsSocks c → s.sockets (s.clientsSocks c) ≠ some id

/-! ## The invariant and the property -/

variable {s s' : System}

theorem Held.clientsKept (h : s.Held) : s.ClientsKept where
  accepted := by
    intro id _
    by_cases hopen : ∃ fd, s.sockets fd = some id
    · obtain ⟨fd, hfd⟩ := hopen
      have hlive : fd ∈ s.openSockets := by
        change s.sockets fd ≠ none
        rw [hfd]
        exact Option.some_ne_none id
      obtain ⟨c, rfl, hunique⟩ := h.keeps.existsUnique hlive
      refine .inl ⟨c, ⟨Nat.pos_of_ne_zero (h.keeps.ne_free hlive), hfd⟩, ?_⟩
      rintro d ⟨-, hd⟩
      exact hunique d (h.injective _ _ id hd hfd)
    · exact .inr fun fd hfd => hopen ⟨fd, hfd⟩
  noneClosed := fun c hc => h.keeps.live_of_taken c (Nat.ne_of_gt hc)
  distinct := fun c d hc => h.keeps.distinct c d (Nat.ne_of_gt hc)

theorem Leaks.not_clientsKept {fd id : Nat} (h : s.Leaks fd id) : ¬s.ClientsKept := by
  intro hkept
  rcases hkept.accepted id h.1 with ⟨c, ⟨hc, hslot⟩, -⟩ | hclosed
  · exact h.2.2 c hc hslot
  · exact hclosed fd h.2.1

theorem held_start (serverSock : Nat) (timestamp : BitVec 64) (enabled : Bool) :
    (start serverSock timestamp enabled).Held where
  keeps := by
    have hnone : (start serverSock timestamp enabled).openSockets = ∅ := by
      ext fd
      exact iff_of_false (fun h => h rfl) (Set.notMem_empty fd)
    rw [hnone]
    exact SlotTable.Keeps.empty
  bounded := nofun
  injective := nofun

/-- What does not touch slots, connections and the number of clients keeps the invariant. -/
theorem Held.congr (h : s.Held) (hslots : s'.clientsSocks = s.clientsSocks)
    (hsockets : s'.sockets = s.sockets) (hclients : s'.clients.length = s.clients.length) :
    s'.Held where
  keeps := by
    rw [openSockets, hslots, hsockets]
    exact h.keeps
  bounded := by
    rw [hsockets, hclients]
    exact h.bounded
  injective := by
    rw [hsockets]
    exact h.injective

/-! ## Clearing a slot -/

theorem openSockets_close (s : System) (c : Fin MAX_CLIENTS) :
    (s.close c).openSockets = s.openSockets \ {s.clientsSocks c} := by
  ext fd
  change Function.update s.sockets (s.clientsSocks c) none fd ≠ none ↔
    s.sockets fd ≠ none ∧ fd ≠ s.clientsSocks c
  by_cases hfd : fd = s.clientsSocks c
  · rw [hfd, Function.update_self]
    simp
  · rw [Function.update_of_ne hfd]
    simp [hfd]

/-- A connection that is open after a close was open before. -/
theorem sockets_close {c : Fin MAX_CLIENTS} {fd id : Nat}
    (h : (s.close c).sockets fd = some id) : s.sockets fd = some id := by
  change Function.update s.sockets (s.clientsSocks c) none fd = some id at h
  by_cases hfd : fd = s.clientsSocks c
  · rw [hfd, Function.update_self] at h
    cases h
  · rwa [Function.update_of_ne hfd] at h

theorem Held.close (h : s.Held) (c : Fin MAX_CLIENTS) : (s.close c).Held where
  keeps := by
    rw [openSockets_close]
    exact h.keeps.drop c
  bounded := fun fd id hfd => h.bounded fd id (sockets_close hfd)
  injective := fun fd fd' id hfd hfd' =>
    h.injective fd fd' id (sockets_close hfd) (sockets_close hfd')

theorem Leaks.close {fd id : Nat} (h : s.Leaks fd id) {c : Fin MAX_CLIENTS}
    (hc : s.clientsSocks c ≠ fd) : (s.close c).Leaks fd id := by
  refine ⟨h.1, ?_, ?_⟩
  · change Function.update s.sockets (s.clientsSocks c) none fd = some id
    rw [Function.update_of_ne (Ne.symm hc)]
    exact h.2.1
  · intro d hd hslot
    change 0 < Function.update s.clientsSocks c 0 d at hd
    by_cases hdc : d = c
    · rw [hdc, Function.update_self] at hd
      exact Nat.lt_irrefl 0 hd
    · have hsame : (s.close c).clientsSocks d = s.clientsSocks d := Function.update_of_ne hdc 0 _
      rw [hsame] at hslot
      rw [Function.update_of_ne hdc] at hd
      exact h.2.2 d hd (sockets_close hslot)

/-! ## Reading -/

/-- `readData` clears the slot, or leaves slots and connections as they are. -/
theorem readData_cases {clock : Nat → BitVec 64} {c : Fin MAX_CLIENTS}
    {first count readSize : Nat} {events : List (Nat × Event)}
    (h : s.readData clock c first count readSize = some (s', events)) :
    s' = s.close c ∨ s'.clientsSocks = s.clientsSocks ∧ s'.sockets = s.sockets ∧
      s'.clients.length = s.clients.length := by
  unfold readData at h
  split at h
  · cases h
    exact .inl rfl
  · obtain ⟨⟨id, client⟩, -, h⟩ := Option.bind_eq_some_iff.mp h
    obtain ⟨-, h⟩ := Option.ite_none_right_eq_some.mp h
    simp only at h
    split at h
    · cases h
      exact .inr ⟨rfl, rfl, List.length_set⟩
    · cases h
      exact .inr ⟨rfl, rfl, List.length_set⟩

theorem Held.readClients {clock : Nat → BitVec 64} {readfs : Nat → Bool} {count : Nat}
    {slots : List (Fin MAX_CLIENTS)} {reads : List Nat} {data : List (Nat × Event)} (h : s.Held)
    (hread : readClients clock readfs count slots s reads [] = some (s', data)) : s'.Held := by
  refine readClients_induction (P := fun s _ _ => s.Held) ?_ h hread
  intro c mid readSize reads data next events hmid hevents
  rcases readData_cases hevents with rfl | ⟨hslots, hsockets, hclients⟩
  · exact hmid.close c
  · exact hmid.congr hslots hsockets hclients

/-- A connection that is in no slot, and whose descriptor is not ready, is never read and never
closed. -/
theorem Leaks.readClients {clock : Nat → BitVec 64} {readfs : Nat → Bool} {count : Nat}
    {slots : List (Fin MAX_CLIENTS)} {reads : List Nat} {data : List (Nat × Event)} {fd id : Nat}
    (h : s.Leaks fd id) (hready : readfs 0 = true → fd ≠ 0)
    (hread : readClients clock readfs count slots s reads [] = some (s', data)) :
    s'.Leaks fd id := by
  refine readClients_induction_of_ready (P := fun s _ _ => s.Leaks fd id) ?_ h hread
  intro c mid readSize reads data next events hc hmid hevents
  rcases readData_cases hevents with rfl | ⟨hslots, hsockets, hclients⟩
  · -- the slot that is cleared has a descriptor that is ready, and the connection is in no slot
    refine hmid.close ?_
    rintro heq
    by_cases hzero : mid.clientsSocks c = 0
    · exact hready (hzero ▸ hc) (heq ▸ hzero)
    · exact hmid.2.2 c (Nat.pos_of_ne_zero hzero) (heq ▸ hmid.2.1)
  · refine ⟨hclients ▸ hmid.1, ?_, ?_⟩
    · rw [hsockets]
      exact hmid.2.1
    · rw [hslots, hsockets]
      exact hmid.2.2

/-! ## Waiting -/

theorem clientsSocks_close_eq_zero {c d : Fin MAX_CLIENTS} (h : s.clientsSocks d = 0 ∨ d = c) :
    (s.close c).clientsSocks d = 0 := by
  change Function.update s.clientsSocks c 0 d = 0
  by_cases hd : d = c
  · rw [hd, Function.update_self]
  · rw [Function.update_of_ne hd]
    exact h.resolve_right hd

/-- The loop that closes connections, over slots outside which all are free. -/
theorem foldl_close_spec {slots : List (Fin MAX_CLIENTS)} (h : s.Held)
    (hzero : ∀ c, c ∉ slots → s.clientsSocks c = 0)
    (hloop : slots.foldl (fun s c => if 0 < s.clientsSocks c then s.close c else s) s = s') :
    s'.Held ∧ s'.serverSock = s.serverSock ∧ ∀ c, s'.clientsSocks c = 0 := by
  induction slots generalizing s with
  | nil =>
      cases hloop
      exact ⟨h, rfl, fun c => hzero c List.not_mem_nil⟩
  | cons c rest ih =>
      rw [List.foldl_cons] at hloop
      split at hloop
      · refine ih (s := s.close c) (h.close c) ?_ hloop
        intro d hd
        by_cases hdc : d = c
        · exact clientsSocks_close_eq_zero (.inr hdc)
        · exact clientsSocks_close_eq_zero (.inl (hzero d (by simp [hdc, hd])))
      · rename_i hpos
        refine ih h ?_ hloop
        intro d hd
        by_cases hdc : d = c
        · exact hdc ▸ Nat.eq_zero_of_not_pos hpos
        · exact hzero d (by simp [hdc, hd])

/-- When `select` fails, all slots are cleared and their connections closed. -/
theorem disconnectAll_spec (h : s.Held) :
    s.disconnectAll.Held ∧ s.disconnectAll.serverSock = s.serverSock ∧
      ∀ c, s.disconnectAll.clientsSocks c = 0 :=
  foldl_close_spec h (fun c hc => absurd (List.mem_finRange c) hc) (disconnectAll.eq_1 s).symm

/-- A `select` of the call fails before one succeeds. -/
def failsFirst (selects : List (Option (Nat → Bool))) : Bool :=
  match selects with
  | none :: _ => true
  | _ => false

/-- The first `select` that succeeds finds the descriptor ready. -/
def findsReady (selects : List (Option (Nat → Bool))) (fd : Nat) : Bool :=
  match selects with
  | [] => false
  | none :: rest => findsReady rest fd
  | some ready :: _ => ready fd

/-- The state in which the clients are read: the invariant holds; without a failure it is the
state before, and after one all slots are free. -/
structure Awaited (selects : List (Option (Nat → Bool))) (s s' : System) (readfs : Nat → Bool) :
    Prop where
  held : s'.Held
  serverSock : s'.serverSock = s.serverSock
  unchanged : failsFirst selects = false → s' = s
  cleared : failsFirst selects = true → ∀ c, s'.clientsSocks c = 0
  server_ready : readfs s'.serverSock = findsReady selects s.serverSock
  zero_ready : readfs 0 = true → s'.serverSock = 0

theorem awaitReady_spec {selects : List (Option (Nat → Bool))} {readfs : Nat → Bool}
    (h : s.Held) (hawait : awaitReady selects s = some (s', readfs)) :
    Awaited selects s s' readfs := by
  induction selects generalizing s with
  | nil => cases hawait
  | cons reply rest ih =>
      cases reply with
      | some ready =>
          obtain ⟨rfl, rfl⟩ := Prod.mk.inj (Option.some.inj hawait)
          refine ⟨h, rfl, fun _ => rfl, nofun, ?_, ?_⟩
          · simp [watches, findsReady]
          · intro hzero
            simp [watches] at hzero
            exact hzero.1.symm
      | none =>
          obtain ⟨-, hawait⟩ := Option.ite_none_left_eq_some.mp hawait
          obtain ⟨hheld, hserver, hzero⟩ := disconnectAll_spec h
          have hrest := ih hheld hawait
          refine ⟨hrest.held, hrest.serverSock.trans hserver, nofun, ?_, ?_, hrest.zero_ready⟩
          · intro _
            -- a second failure clears what is clear already
            cases hfails : failsFirst rest with
            | false => rw [hrest.unchanged hfails]; exact hzero
            | true => exact hrest.cleared hfails
          · rw [hrest.server_ready, hserver]
            rfl

/-! ## A new client -/

theorem openSockets_accept (s : System) (fd id : Nat) :
    {fd' | Function.update s.sockets fd (some id) fd' ≠ none} = insert fd s.openSockets := by
  ext fd'
  change Function.update s.sockets fd (some id) fd' ≠ none ↔ fd' = fd ∨ s.sockets fd' ≠ none
  by_cases hfd : fd' = fd
  · rw [hfd, Function.update_self]
    simp
  · rw [Function.update_of_ne hfd]
    simp [hfd]

/-- The connections after a client was accepted: the new one, or one that was there. -/
theorem sockets_accept {fd fd' id : Nat}
    (h : Function.update s.sockets fd (some s.clients.length) fd' = some id) :
    fd' = fd ∧ id = s.clients.length ∨ fd' ≠ fd ∧ s.sockets fd' = some id := by
  by_cases hfd : fd' = fd
  · rw [hfd, Function.update_self] at h
    exact .inl ⟨hfd, (Option.some.inj h).symm⟩
  · rw [Function.update_of_ne hfd] at h
    exact .inr ⟨hfd, h⟩

/-- A client that finds a slot is kept. -/
theorem Held.acceptNewClient {accepted : Option Nat} (h : s.Held)
    (hroom : ∀ fd ∈ accepted, 0 < fd ∧ ∃ c, s.clientsSocks c = 0)
    (haccept : s.acceptNewClient accepted = some s') : s'.Held := by
  cases accepted with
  | none => exact Option.some.inj haccept ▸ h
  | some fd =>
      obtain ⟨⟨hnew, -⟩, haccept⟩ := Option.ite_none_right_eq_some.mp haccept
      obtain ⟨hpos, c, hc⟩ := hroom fd rfl
      cases hfind : (List.finRange MAX_CLIENTS).find? fun c => s.clientsSocks c = 0 with
      | none =>
          have hno := List.find?_eq_none.mp hfind c (List.mem_finRange c)
          exact absurd hc (by simpa using hno)
      | some d =>
          -- the loop stops at the first free slot, which need not be `c`
          have hd : s.clientsSocks d = 0 := by simpa using List.find?_some hfind
          rw [hfind] at haccept
          obtain rfl := Option.some.inj haccept
          refine ⟨?_, ?_, ?_⟩
          · have hput := h.keeps.put hd (h := fd) (fun hopen => hopen hnew) (Nat.ne_of_gt hpos)
            rw [← openSockets_accept s fd s.clients.length] at hput
            exact hput
          · intro fd' id hid
            change id < (s.clients ++ [_]).length
            rw [List.length_append, List.length_singleton]
            rcases sockets_accept hid with ⟨-, rfl⟩ | ⟨-, hold⟩
            · exact Nat.lt_succ_self _
            · exact Nat.lt_succ_of_lt (h.bounded fd' id hold)
          · intro fd₁ fd₂ id h₁ h₂
            rcases sockets_accept h₁ with ⟨rfl, rfl⟩ | ⟨-, hold₁⟩
            · rcases sockets_accept h₂ with ⟨rfl, -⟩ | ⟨-, hold₂⟩
              · rfl
              · exact absurd (h.bounded fd₂ _ hold₂) (Nat.lt_irrefl _)
            · rcases sockets_accept h₂ with ⟨-, rfl⟩ | ⟨-, hold₂⟩
              · exact absurd (h.bounded fd₁ _ hold₁) (Nat.lt_irrefl _)
              · exact h.injective fd₁ fd₂ id hold₁ hold₂

/-- A client that finds no slot, or has the descriptor 0, leaks. -/
theorem leaks_acceptNewClient {fd : Nat} (h : s.Held)
    (hfull : fd = 0 ∨ ∀ c, s.clientsSocks c ≠ 0)
    (haccept : s.acceptNewClient (some fd) = some s') :
    s'.Leaks fd s.clients.length ∧ fd ≠ s'.serverSock := by
  obtain ⟨⟨hnew, hserver⟩, haccept⟩ := Option.ite_none_right_eq_some.mp haccept
  obtain rfl := Option.some.inj haccept
  refine ⟨⟨?_, Function.update_self _ _ _, ?_⟩, hserver⟩
  · change s.clients.length < (s.clients ++ [_]).length
    rw [List.length_append]
    exact Nat.lt_succ_self _
  · -- whichever slot it is, it does not hold the new descriptor
    intro c hc hslot
    have hold : ∀ d, 0 < s.clientsSocks d → s.clientsSocks d ≠ fd ∧
        s.sockets (s.clientsSocks d) ≠ some s.clients.length := by
      intro d hd
      refine ⟨?_, fun hid => Nat.lt_irrefl _ (h.bounded _ _ hid)⟩
      rintro rfl
      exact h.keeps.live_of_taken d (Nat.ne_of_gt hd) hnew
    have hslots : ∀ d, 0 < s.clientsSocks d →
        Function.update s.sockets fd (some s.clients.length) (s.clientsSocks d) ≠
          some s.clients.length := by
      intro d hd
      rw [Function.update_of_ne (hold d hd).1]
      exact (hold d hd).2
    simp only at hc hslot
    split at hc
    · rename_i d hfind
      have hd : s.clientsSocks d = 0 := by simpa using List.find?_some hfind
      obtain rfl : fd = 0 := hfull.resolve_right fun hne => hne d hd
      rw [hfind] at hslot
      by_cases hcd : c = d
      · rw [hcd, Function.update_self] at hc
        exact Nat.lt_irrefl 0 hc
      · simp only [Function.update_of_ne hcd] at hc hslot
        exact hslots c hc hslot
    · rename_i hfind
      rw [hfind] at hslot
      exact hslots c hc hslot

/-! ## Calls of `poll` -/

/-- A client that connects has a descriptor other than 0, and finds a slot that is free before the
call or is cleared by it. -/
def Step.HasRoom (s : System) : Step → Prop
  | .poll _ reply => findsReady reply.selects s.serverSock = true → ∀ fd ∈ reply.accepted,
      0 < fd ∧ (failsFirst reply.selects = true ∨ ∃ c, s.clientsSocks c = 0)
  | _ => True

instance (s : System) (a : Step) : Decidable (Step.HasRoom s a) :=
  match a with
  | .poll _ reply =>
      inferInstanceAs (Decidable (findsReady reply.selects s.serverSock = true →
        ∀ fd ∈ reply.accepted, 0 < fd ∧ (failsFirst reply.selects = true ∨
          ∃ c, s.clientsSocks c = 0)))
  | .send _ _ | .setSensorStatus _ => isTrue trivial

/-- The parts of a call: waiting, the new client, and reading the clients. -/
theorem poll_cases {count : Nat} {reply : PollReply} {events : List Event} (h : s.Held)
    (hpoll : s.poll count reply = some (s', events)) :
    ∃ ready accepted found readfs data, Awaited reply.selects s ready readfs ∧
      (if findsReady reply.selects s.serverSock then ready.acceptNewClient reply.accepted
        else some ready) = some accepted ∧
      readClients reply.clock readfs count (List.finRange MAX_CLIENTS) accepted reply.reads [] =
        some (found, data) ∧
      s'.clientsSocks = found.clientsSocks ∧ s'.sockets = found.sockets ∧
        s'.clients = found.clients := by
  obtain ⟨⟨ready, readfs⟩, hready, hpoll⟩ := Option.bind_eq_some_iff.mp hpoll
  obtain ⟨accepted, haccept, hpoll⟩ := Option.bind_eq_some_iff.mp hpoll
  obtain ⟨⟨found, data⟩, hfound, hpoll⟩ := Option.map_eq_some_iff.mp hpoll
  have hawaited := awaitReady_spec h hready
  rw [hawaited.server_ready] at haccept
  refine ⟨ready, accepted, found, readfs, data, hawaited, haccept, hfound, ?_⟩
  simp only at hpoll
  split at hpoll
  · cases hpoll
    exact ⟨rfl, rfl, rfl⟩
  · cases hpoll
    exact ⟨rfl, rfl, rfl⟩

theorem Held.poll {count : Nat} {reply : PollReply} {events : List Event} (h : s.Held)
    (hroom : Step.HasRoom s (.poll count reply))
    (hpoll : s.poll count reply = some (s', events)) : s'.Held := by
  obtain ⟨ready, accepted, found, readfs, data, hawaited, haccept, hfound, hslots, hsockets,
    hclients⟩ := poll_cases h hpoll
  have haccepted : accepted.Held := by
    split at haccept
    · rename_i hserver
      refine hawaited.held.acceptNewClient ?_ haccept
      intro fd hfd
      obtain ⟨hpos, hfree⟩ := hroom hserver fd hfd
      refine ⟨hpos, ?_⟩
      cases hfails : failsFirst reply.selects with
      | true => exact ⟨0, hawaited.cleared hfails 0⟩
      | false =>
          rw [hawaited.unchanged hfails]
          exact hfree.resolve_left (by simp [hfails])
    · exact Option.some.inj haccept ▸ hawaited.held
  exact (haccepted.readClients hfound).congr hslots hsockets (by rw [hclients])

/-- A call in which a client finds no room leaves a connection behind. -/
theorem leaks_poll {count : Nat} {reply : PollReply} {events : List Event} (h : s.Held)
    (hroom : ¬Step.HasRoom s (.poll count reply))
    (hpoll : s.poll count reply = some (s', events)) : ∃ fd id, s'.Leaks fd id := by
  obtain ⟨ready, accepted, found, readfs, data, hawaited, haccept, hfound, hslots, hsockets,
    hclients⟩ := poll_cases h hpoll
  simp only [Step.HasRoom, Classical.not_imp, not_forall] at hroom
  obtain ⟨hserver, fd, hfd, hroom⟩ := hroom
  rw [if_pos hserver, Option.mem_def.mp hfd] at haccept
  have hfull : fd = 0 ∨ ∀ c, ready.clientsSocks c ≠ 0 := by
    by_cases hzero : fd = 0
    · exact .inl hzero
    · rw [not_and, not_or] at hroom
      obtain ⟨hfails, hfree⟩ := hroom (Nat.pos_of_ne_zero hzero)
      rw [hawaited.unchanged (Bool.eq_false_iff.mpr hfails)]
      exact .inr fun c hc => hfree ⟨c, hc⟩
  obtain ⟨hleaks, hother⟩ := leaks_acceptNewClient hawaited.held hfull haccept
  have hready : readfs 0 = true → fd ≠ 0 := by
    intro hzero heq
    have hserverSock : accepted.serverSock = ready.serverSock := by
      obtain ⟨-, haccept⟩ := Option.ite_none_right_eq_some.mp haccept
      exact Option.some.inj haccept ▸ rfl
    exact hother (heq.trans (hserverSock.trans (hawaited.zero_ready hzero)).symm)
  obtain ⟨hbound, hopen, hnoslot⟩ := hleaks.readClients hready hfound
  refine ⟨fd, ready.clients.length, ?_⟩
  rw [Leaks, hslots, hsockets, hclients]
  exact ⟨hbound, hopen, hnoslot⟩

/-! ## Runs -/

theorem Held.step {a : Step} (h : s.Held) (hroom : Step.HasRoom s a)
    (hstep : s.step a = some s') : s'.Held := by
  cases a with
  | send fd r =>
      obtain ⟨found, -, rfl⟩ := Option.map_eq_some_iff.mp hstep
      exact h.congr rfl rfl List.length_set
  | setSensorStatus enabled => exact Option.some.inj hstep ▸ h.congr rfl rfl rfl
  | poll count reply =>
      obtain ⟨⟨next, events⟩, hpoll, rfl⟩ := Option.map_eq_some_iff.mp hstep
      exact h.poll hroom hpoll

/-- A step that keeps the clients had room for them. -/
theorem Held.hasRoom {a : Step} (h : s.Held) (hstep : s.step a = some s')
    (hkept : s'.ClientsKept) : Step.HasRoom s a := by
  cases a with
  | send | setSensorStatus => trivial
  | poll count reply =>
      obtain ⟨⟨next, events⟩, hpoll, rfl⟩ := Option.map_eq_some_iff.mp hstep
      by_contra hroom
      obtain ⟨fd, id, hleaks⟩ := leaks_poll h hroom hpoll
      exact hleaks.not_clientsKept hkept

/-- In every run, the sockets of the clients are kept just when every client that connects finds
room. -/
theorem always_clientsKept_iff {serverSock : Nat} {timestamp : BitVec 64} {enabled : Bool}
    {trace : List (Step × System)}
    (hrun : Run (fun s a s' => s.step a = some s') (start serverSock timestamp enabled) trace) :
    Always ClientsKept trace ↔
      EachStep (fun s a _ => Step.HasRoom s a) (start serverSock timestamp enabled) trace := by
  have hkeep : ∀ s a s', Held s → Step.HasRoom s a → s.step a = some s' → Held s' :=
    fun s a s' h hroom hstep => h.step hroom hstep
  have hbreak : ∀ s a s', Held s → s.step a = some s' → ClientsKept s' → Step.HasRoom s a :=
    fun s a s' h hstep hkept => h.hasRoom hstep hkept
  exact hrun.always_iff_eachStep hkeep (fun s h => h.clientsKept) hbreak
    (held_start serverSock timestamp enabled)

/-! ## Clients that connect

Each call of `poll` accepts one client.  The second run has one more client than there are
slots. -/

namespace Crowd

/-- A client connects, with the descriptor `fd`. -/
def connect (fd : Nat) : Step := .poll 1 ⟨[some fun watched => watched = 3], some fd, [], fun _ => 0⟩

def two : List (Step × System) := partialTraceOf step (start 3 0 true) [connect 4, connect 5]

def nine : List (Step × System) :=
  partialTraceOf step (start 3 0 true)
    [connect 4, connect 5, connect 6, connect 7, connect 8, connect 9, connect 10, connect 11,
      connect 12]

end Crowd

theorem always_clientsKept_two : Always ClientsKept Crowd.two :=
  (always_clientsKept_iff (run_partialTraceOf step (start 3 0 true) _)).mpr
    (by decide +kernel)

/-- The ninth client is connected, and its socket 12 is in no slot. -/
theorem not_always_clientsKept :
    ∃ trace, Run (fun s a s' => s.step a = some s') (start 3 0 true) trace ∧
      ¬Always ClientsKept trace ∧
      (endState (start 3 0 true) trace).sockets 12 = some 8 ∧
      ∀ c, (endState (start 3 0 true) trace).clientsSocks c ≠ 12 := by
  refine ⟨Crowd.nine, run_partialTraceOf step (start 3 0 true) _, ?_, by decide +kernel,
    by decide +kernel⟩
  intro h
  have hleaks : (endState (start 3 0 true) Crowd.nine).Leaks 12 8 := by
    unfold Leaks
    decide +kernel
  exact hleaks.not_clientsKept (h.endState (held_start 3 0 true).clientsKept)

end System
end Sensors
end DeviceAndroVM
