import DeviceAndroVM.Gralloc.Calls
import DeviceAndroVM.Library.Lookup
import DeviceAndroVM.Library.Transition
import Mathlib.Data.List.Count

/-!
# References to colour buffers of the host

The buffers of all processes, and the commands about their colour buffers that the calls on
them send.

* `Buffers` — the handles of all processes, those of `gralloc_alloc` and copies of them.
* `Accounted` — where every `rcCloseColorBuffer` comes from.
* `hostReferences` — over every run, the closes are covered by the creation and the opens, but
  for the second closes of `gralloc_free` and for calls of `gralloc_unregister_buffer` that
  answer no call of `gralloc_register_buffer`.
-/

namespace DeviceAndroVM
namespace Gralloc

open Library

/-! ## What the calls send -/

def commandsOf (effects : List Effect) : List RcCommand :=
  effects.filterMap fun
    | .command c => some c
    | _ => none

/-- The host handle of a buffer, when a call on it gets to the host. -/
def reached (cb : CbHandle) (connected : Bool) : List CInt :=
  if cb.hostHandle ≠ 0#32 ∧ connected then [cb.hostHandle] else []

@[simp] theorem commandsOf_append (front back : List Effect) :
    commandsOf (front ++ back) = commandsOf front ++ commandsOf back :=
  List.filterMap_append

@[simp] theorem commandsOf_nil : commandsOf [] = [] := rfl

/-- Only commands to the host count. -/
@[simp] theorem commandsOf_cons (e : Effect) (rest : List Effect) :
    commandsOf (e :: rest) = (match e with
      | .command c => [c]
      | _ => []) ++ commandsOf rest := by
  cases e <;> rfl

theorem commandsOf_mapBuffer (cb : CbHandle) (mmap : Except Errno CInt) (pid : CInt) :
    commandsOf (mapBuffer cb mmap pid).2.2 = [] := by
  unfold mapBuffer
  split
  · rfl
  · cases mmap <;> rfl

theorem hostHandle_mapBuffer (cb : CbHandle) (mmap : Except Errno CInt) (pid : CInt) :
    (mapBuffer cb mmap pid).2.1.hostHandle = cb.hostHandle := by
  unfold mapBuffer
  split
  · rfl
  · cases mmap <;> rfl

/-- What an outcome of `gralloc_alloc` says about the host: a creation is sent for the handle
that is made, and nothing is sent without one. -/
def CreatedOnly (outcome : Outcome) : Prop :=
  match outcome.cb with
  | none => commandsOf outcome.effects = []
  | some cb => commandsOf outcome.effects =
      if cb.hostHandle = 0#32 then [] else [.rcCreateColorBuffer cb.hostHandle]

theorem createdOnly_allocHost {effects : List Effect} {cb : CbHandle} (r : AllocRequest)
    (reply : AllocReply) (fd : CInt) (heffects : commandsOf effects = [])
    (hcb : cb.hostHandle = 0#32) : CreatedOnly (allocHost r reply fd cb effects) := by
  unfold allocHost
  split
  · cases hconnected : reply.connected with
    | false => simp [createColorBuffer, hconnected, CreatedOnly, heffects]
    | true =>
        by_cases hzero : reply.colorBuffer = 0#32
        · simp [createColorBuffer, hconnected, hzero, CreatedOnly, heffects]
        · simp [createColorBuffer, hconnected, hzero, CreatedOnly, heffects]
  · simp [CreatedOnly, heffects, hcb]

theorem createdOnly_allocMapped {effects : List Effect} (r : AllocRequest) (plan : Plan)
    (reply : AllocReply) (fd : CInt) (heffects : commandsOf effects = []) :
    CreatedOnly (allocMapped r plan reply fd effects) := by
  have hmapped := commandsOf_mapBuffer (newCbHandle r plan fd) reply.mmap reply.pid
  have hhost := hostHandle_mapBuffer (newCbHandle r plan fd) reply.mmap reply.pid
  unfold allocMapped
  simp only
  split
  · split
    · simp [CreatedOnly, heffects, hmapped]
    · exact createdOnly_allocHost r reply fd (by simp [heffects, hmapped]) hhost
  · exact createdOnly_allocHost r reply fd (by simp [heffects]) rfl

theorem createdOnly_allocBuffer (r : AllocRequest) (reply : AllocReply) :
    CreatedOnly (allocBuffer r reply) := by
  unfold allocBuffer
  split
  · rfl
  · split
    · split
      · rfl
      · exact createdOnly_allocMapped r _ reply _ rfl
    · exact createdOnly_allocMapped r _ reply _ rfl

/-- A command about the host handle, in a call that has a connection if it needs one. -/
theorem commandsOf_reached {cb : CbHandle} {connected : Bool}
    (h : ¬(cb.hostHandle ≠ 0#32 ∧ (!connected) = true)) (c : CInt → RcCommand) :
    commandsOf (if cb.hostHandle ≠ 0#32 then [Effect.command (c cb.hostHandle)] else []) =
      (reached cb connected).map c := by
  unfold reached
  by_cases hzero : cb.hostHandle = 0#32
  · simp [hzero]
  · have hconnected : connected = true := by simpa [hzero] using h
    simp [hzero, hconnected]

/-- Without a connection that it needs, a call sends nothing. -/
theorem reached_of_not_connected {cb : CbHandle} {connected : Bool}
    (h : cb.hostHandle ≠ 0#32 ∧ (!connected) = true) : reached cb connected = [] := by
  have hconnected : connected = false := by simpa using h.2
  simp [reached, hconnected]

/-- `gralloc_free` closes once, and twice for a buffer of the composer; without a connection
that it needs the handle stays and nothing is sent. -/
theorem commandsOf_freeBuffer (cb : CbHandle) (connected : Bool) :
    commandsOf (freeBuffer cb connected).effects =
        (reached cb connected).map .rcCloseColorBuffer ++
          (if has cb.usage GRALLOC_USAGE_HW_COMPOSER then
            (reached cb connected).map .rcCloseColorBuffer else []) ∧
      ((freeBuffer cb connected).cb = none ∧ reached cb connected = reached cb true ∨
        (freeBuffer cb connected).cb = some cb ∧ reached cb connected = []) := by
  have hunmapped : commandsOf (if 0 < cb.fd.toInt then
      (if 0 < cb.ashmemSize.toInt ∧ cb.ashmemBase ≠ 0#32 then
        [Effect.munmap cb.ashmemBase cb.ashmemSize] else []) ++ [.close cb.fd]
      else []) = [] := by
    split
    · split <;> rfl
    · rfl
  unfold freeBuffer reached
  by_cases hhost : cb.hostHandle = 0#32
  · simp only [hhost, ne_eq, not_true_eq_false, if_false, false_and, hunmapped]
    simp
  · cases connected with
    | false => simp [hhost]
    | true =>
        simp only [hhost, ne_eq, not_false_eq_true, if_true, and_self, commandsOf_append,
          hunmapped]
        constructor
        · split <;> simp
        · simp

/-- The host handle of the handle that an outcome leaves. -/
def Outcome.hostHandle? (outcome : Outcome) : Option CInt := outcome.cb.map CbHandle.hostHandle

theorem commandsOf_registerBuffer (cb : CbHandle) (connected : Bool) (mmap : Except Errno CInt)
    (pid : CInt) :
    commandsOf (registerBuffer cb connected mmap pid).effects =
        (reached cb connected).map .rcOpenColorBuffer ∧
      (registerBuffer cb connected mmap pid).hostHandle? = some cb.hostHandle := by
  have hmapped := commandsOf_mapBuffer cb mmap pid
  have hhost := hostHandle_mapBuffer cb mmap pid
  unfold registerBuffer
  split
  · rename_i h
    simp [reached_of_not_connected h, Outcome.hostHandle?]
  · rename_i h
    have hopening := commandsOf_reached h .rcOpenColorBuffer
    simp only
    split
    · split
      · exact ⟨by rw [commandsOf_append, hmapped, List.append_nil, hopening],
          by simp [Outcome.hostHandle?, hhost]⟩
      · exact ⟨by rw [commandsOf_append, hmapped, List.append_nil, hopening],
          by simp [Outcome.hostHandle?, hhost]⟩
    · exact ⟨hopening, rfl⟩

theorem commandsOf_unregisterBuffer (cb : CbHandle) (connected unmapped : Bool) (pid : CInt) :
    commandsOf (unregisterBuffer cb connected unmapped pid).effects =
        (reached cb connected).map .rcCloseColorBuffer ∧
      (unregisterBuffer cb connected unmapped pid).hostHandle? = some cb.hostHandle := by
  unfold unregisterBuffer
  split
  · rename_i h
    simp [reached_of_not_connected h, Outcome.hostHandle?]
  · rename_i h
    have hclosing := commandsOf_reached h .rcCloseColorBuffer
    simp only
    split
    · split
      · exact ⟨by rw [commandsOf_append, hclosing]; simp, rfl⟩
      · exact ⟨hclosing, rfl⟩
    · exact ⟨hclosing, rfl⟩

/-! ## The buffers of all processes -/

/-- A handle: one that `gralloc_alloc` returned, or a copy of one in whatever process. -/
structure Buffer where
  cb : CbHandle
  allocated : Bool

/-- The handles of all processes by their names, and the commands that were sent, oldest first.
`closedTwice` and `unregistered` record the host handles of the second closes of `gralloc_free`
and of the calls of `gralloc_unregister_buffer` that got to the host. -/
structure Buffers where
  handles : AList fun _ : Nat => Buffer
  sent : List RcCommand
  closedTwice : List CInt
  unregistered : List CInt

namespace Buffers

def start : Buffers := ⟨∅, [], [], []⟩

/-- A handle after a call on it that left `outcome`. -/
def record (s : Buffers) (p : Nat) (b : Buffer) (outcome : Outcome) : Buffers where
  handles := match outcome.cb with
    | some cb => s.handles.insert p { b with cb }
    | none => s.handles.erase p
  sent := s.sent ++ commandsOf outcome.effects
  closedTwice := s.closedTwice
  unregistered := s.unregistered

def alloc (s : Buffers) (p : Nat) (r : AllocRequest) (reply : AllocReply) : Option Buffers :=
  if s.handles.lookup p = none then
    let outcome := allocBuffer r reply
    match outcome.cb with
    | some cb => some (s.record p ⟨cb, true⟩ outcome)
    | none => some { s with sent := s.sent ++ commandsOf outcome.effects }
  else none

/-- Another process gets a copy of a handle; a descriptor has another number there. -/
def share (s : Buffers) (p q : Nat) (fd : CInt) : Option Buffers :=
  if s.handles.lookup q = none then
    (s.handles.lookup p).map fun b =>
      let cb := { b.cb with fd := if b.cb.fd.toInt < 0 then b.cb.fd else fd }
      { s with handles := s.handles.insert q ⟨cb, false⟩ }
  else none

/-- `gralloc_register_buffer`; what has no handle is invalid. -/
def register (s : Buffers) (p : Nat) (connected : Bool) (mmap : Except Errno CInt) (pid : CInt) :
    CInt × Buffers :=
  match s.handles.lookup p with
  | none => (-EINVAL, s)
  | some b =>
      let outcome := registerBuffer b.cb connected mmap pid
      (outcome.status, s.record p b outcome)

def unregister (s : Buffers) (p : Nat) (connected unmapped : Bool) (pid : CInt) : CInt × Buffers :=
  match s.handles.lookup p with
  | none => (-EINVAL, s)
  | some b =>
      let outcome := unregisterBuffer b.cb connected unmapped pid
      (outcome.status, { s.record p b outcome with
        unregistered := s.unregistered ++ reached b.cb connected })

/-- `gralloc_free`, of a handle that `gralloc_alloc` returned and that was not freed. -/
def free (s : Buffers) (p : Nat) (connected : Bool) : Option Buffers :=
  (s.handles.lookup p).bind fun b =>
    if b.allocated then
      some { s.record p b (freeBuffer b.cb connected) with
        closedTwice := s.closedTwice ++
          if has b.cb.usage GRALLOC_USAGE_HW_COMPOSER then reached b.cb connected else [] }
    else none

inductive Step
  | alloc (p : Nat) (r : AllocRequest) (reply : AllocReply)
  | share (p q : Nat) (fd : CInt)
  | register (p : Nat) (connected : Bool) (mmap : Except Errno CInt) (pid : CInt)
  | unregister (p : Nat) (connected unmapped : Bool) (pid : CInt)
  | free (p : Nat) (connected : Bool)

def step (s : Buffers) : Step → Option Buffers
  | .alloc p r reply => s.alloc p r reply
  | .share p q fd => s.share p q fd
  | .register p connected mmap pid => some (s.register p connected mmap pid).2
  | .unregister p connected unmapped pid => some (s.unregister p connected unmapped pid).2
  | .free p connected => s.free p connected

/-! ## The accounts of a host handle -/

def creates (s : Buffers) (h : CInt) : Nat := s.sent.count (.rcCreateColorBuffer h)

def opens (s : Buffers) (h : CInt) : Nat := s.sent.count (.rcOpenColorBuffer h)

def closes (s : Buffers) (h : CInt) : Nat := s.sent.count (.rcCloseColorBuffer h)

/-- The buffer was allocated with the host handle and is not freed. -/
def owns (h : CInt) (b : Buffer) : Bool :=
  b.allocated && decide (b.cb.hostHandle ≠ 0#32 ∧ b.cb.hostHandle = h)

def held (s : Buffers) (h : CInt) : Nat := countValues (owns h) s.handles

/-- Every close is the first one of `gralloc_free`, of which there is one for each creation
whose buffer is freed, its second one, or one of `gralloc_unregister_buffer`. -/
def Accounted (s : Buffers) : Prop :=
  ∀ h, s.closes h + s.held h = s.creates h + s.closedTwice.count h + s.unregistered.count h

theorem accounted_start : start.Accounted := fun _ => rfl

variable {s s' : Buffers}

/-- The host handle counts for a buffer of `gralloc_alloc` that has one. -/
theorem owns_eq_count (h : CInt) (b : Buffer) (hallocated : b.allocated = true) :
    (if owns h b then 1 else 0) = (reached b.cb true).count h := by
  unfold owns reached
  by_cases hzero : b.cb.hostHandle = 0#32
  · simp [hzero]
  · by_cases heq : b.cb.hostHandle = h
    · simp [hallocated, hzero, ← heq]
    · simp [hallocated, hzero, heq]

/-- Commands of one kind do not count for another. -/
theorem count_map_command_ne (c : CInt → RcCommand) (d : RcCommand) (hne : ∀ a, c a ≠ d)
    (handles : List CInt) : (handles.map c).count d = 0 := by
  rw [List.count_eq_zero]
  intro hmem
  obtain ⟨a, -, heq⟩ := List.mem_map.mp hmem
  exact hne a heq

/-- A handle that a call leaves with its host handle is held as before. -/
theorem held_record {p : Nat} {b : Buffer} {outcome : Outcome} (hp : s.handles.lookup p = some b)
    (hleft : outcome.hostHandle? = some b.cb.hostHandle) (h : CInt) :
    (s.record p b outcome).held h = s.held h := by
  obtain ⟨cb, hcb, hhost⟩ := Option.map_eq_some_iff.mp hleft
  have hcount := countValues_insert (p := owns h) (b := { b with cb }) hp
  have howns : owns h { b with cb } = owns h b := by simp [owns, hhost]
  rw [howns] at hcount
  have heq : (s.record p b outcome).held h = countValues (owns h) (s.handles.insert p { b with cb }) := by
    simp [held, record, hcb]
  unfold held at heq ⊢
  omega

theorem count_close (handles : List CInt) (h : CInt) :
    (handles.map RcCommand.rcCloseColorBuffer).count (.rcCloseColorBuffer h) = handles.count h :=
  List.count_map_of_injective _ _ (fun _ _ => RcCommand.rcCloseColorBuffer.inj) h

/-- What a step has to keep level: the commands that it sends, the buffers held, and the
records. -/
theorem Accounted.of_sent {sent : List RcCommand} (hs : s.Accounted)
    (hsent : s'.sent = s.sent ++ sent)
    (hlevel : ∀ h, sent.count (.rcCloseColorBuffer h) + s'.held h +
        (s.closedTwice.count h + s.unregistered.count h) =
      sent.count (.rcCreateColorBuffer h) + s.held h +
        (s'.closedTwice.count h + s'.unregistered.count h)) : s'.Accounted := by
  intro h
  have hold := hs h
  have hnew := hlevel h
  simp only [closes, creates, hsent, List.count_append] at hold ⊢
  omega

theorem accounted_alloc {p : Nat} {r : AllocRequest} {reply : AllocReply} (hs : s.Accounted)
    (hstep : s.alloc p r reply = some s') : s'.Accounted := by
  obtain ⟨hfree, hstep⟩ := Option.ite_none_right_eq_some.mp hstep
  have hcreated := createdOnly_allocBuffer r reply
  simp only [CreatedOnly] at hstep hcreated
  cases hcb : (allocBuffer r reply).cb with
  | none =>
      rw [hcb] at hstep hcreated
      obtain rfl := Option.some.inj hstep
      exact hs.of_sent rfl fun h => by simp [hcreated, held]
  | some cb =>
      rw [hcb] at hstep hcreated
      obtain rfl := Option.some.inj hstep
      refine hs.of_sent rfl fun h => ?_
      have hheld := countValues_insert_of_lookup_none (p := owns h) (b := ⟨cb, true⟩) hfree
      rw [owns_eq_count h ⟨cb, true⟩ rfl] at hheld
      simp only [held, record, hcb, hheld, hcreated, reached]
      by_cases hzero : cb.hostHandle = 0#32
      · simp [hzero]
      · by_cases heq : cb.hostHandle = h
        · subst heq
          simp [hzero]
          omega
        · simp [hzero, heq]

theorem accounted_share {p q : Nat} {fd : CInt} (hs : s.Accounted)
    (hstep : s.share p q fd = some s') : s'.Accounted := by
  obtain ⟨hfree, hstep⟩ := Option.ite_none_right_eq_some.mp hstep
  obtain ⟨b, -, rfl⟩ := Option.map_eq_some_iff.mp hstep
  refine hs.of_sent (List.append_nil _).symm fun h => ?_
  simp [held, countValues_insert_of_lookup_none hfree, owns]

theorem accounted_register {p : Nat} {connected : Bool} {mmap : Except Errno CInt} {pid : CInt}
    (hs : s.Accounted) : (s.register p connected mmap pid).2.Accounted := by
  unfold register
  cases hp : s.handles.lookup p with
  | none => exact hs
  | some b =>
      obtain ⟨hsent, hleft⟩ := commandsOf_registerBuffer b.cb connected mmap pid
      refine hs.of_sent rfl fun h => ?_
      have hcloses := count_map_command_ne .rcOpenColorBuffer (.rcCloseColorBuffer h) (by simp)
        (reached b.cb connected)
      have hcreates := count_map_command_ne .rcOpenColorBuffer (.rcCreateColorBuffer h) (by simp)
        (reached b.cb connected)
      rw [hsent, hcloses, hcreates, held_record hp hleft h]
      rfl

theorem accounted_unregister {p : Nat} {connected unmapped : Bool} {pid : CInt}
    (hs : s.Accounted) : (s.unregister p connected unmapped pid).2.Accounted := by
  unfold unregister
  cases hp : s.handles.lookup p with
  | none => exact hs
  | some b =>
      obtain ⟨hsent, hleft⟩ := commandsOf_unregisterBuffer b.cb connected unmapped pid
      refine hs.of_sent rfl fun h => ?_
      have hcreates := count_map_command_ne .rcCloseColorBuffer (.rcCreateColorBuffer h) (by simp)
        (reached b.cb connected)
      have hheld := held_record hp hleft h
      simp only [held, record] at hheld ⊢
      rw [hsent, count_close, hcreates, hheld, List.count_append]
      omega

theorem accounted_free {p : Nat} {connected : Bool} (hs : s.Accounted)
    (hstep : s.free p connected = some s') : s'.Accounted := by
  obtain ⟨b, hp, hstep⟩ := Option.bind_eq_some_iff.mp hstep
  obtain ⟨hallocated, hstep⟩ := Option.ite_none_right_eq_some.mp hstep
  obtain rfl := Option.some.inj hstep
  obtain ⟨hsent, hleft⟩ := commandsOf_freeBuffer b.cb connected
  refine hs.of_sent rfl fun h => ?_
  have hcreates := count_map_command_ne .rcCloseColorBuffer (.rcCreateColorBuffer h) (by simp)
    (reached b.cb connected)
  -- the second close counts on both sides
  have hsecond : (if has b.cb.usage GRALLOC_USAGE_HW_COMPOSER then
      (reached b.cb connected).map RcCommand.rcCloseColorBuffer else []).count
        (.rcCloseColorBuffer h) =
      (if has b.cb.usage GRALLOC_USAGE_HW_COMPOSER then reached b.cb connected else []).count h := by
    split
    · exact count_close _ h
    · rfl
  have hsecond_creates : (if has b.cb.usage GRALLOC_USAGE_HW_COMPOSER then
      (reached b.cb connected).map RcCommand.rcCloseColorBuffer else []).count
        (.rcCreateColorBuffer h) = 0 := by
    split
    · exact hcreates
    · rfl
  simp only [hsent, List.count_append, count_close, hcreates, hsecond, hsecond_creates]
  rcases hleft with ⟨hnone, hreached⟩ | ⟨hsome, hreached⟩
  · -- the first close is for the buffer that is held no longer
    have hheld := countValues_erase (p := owns h) hp
    rw [owns_eq_count h b hallocated, ← hreached] at hheld
    simp only [held, record, hnone, hheld]
    omega
  · have hheld := held_record hp (show (freeBuffer b.cb connected).hostHandle? = _ by
      rw [Outcome.hostHandle?, hsome, Option.map_some]) h
    simp only [held, record] at hheld ⊢
    rw [hheld, hreached]
    simp

theorem Accounted.step {a : Step} (hs : s.Accounted) (hstep : s.step a = some s') :
    s'.Accounted := by
  cases a with
  | alloc p r reply => exact accounted_alloc hs hstep
  | share p q fd => exact accounted_share hs hstep
  | register p connected mmap pid =>
      obtain rfl := Option.some.inj hstep
      exact accounted_register hs
  | unregister p connected unmapped pid =>
      obtain rfl := Option.some.inj hstep
      exact accounted_unregister hs
  | free p connected => exact accounted_free hs hstep

/-! ## The balance -/

/-- The closes of a host handle are covered by its creation and its opens, but for second closes
and for closes of `gralloc_unregister_buffer` that exceed the opens. -/
def Balanced (s : Buffers) : Prop :=
  ∀ h, s.closes h ≤ s.creates h + s.opens h +
    (s.closedTwice.count h + (s.unregistered.count h - s.opens h))

theorem Accounted.balanced (hs : s.Accounted) : s.Balanced := by
  intro h
  have hold := hs h
  omega

/-- The call opens the colour buffer and has an area left to map. -/
def opensBeforeMap (s : Buffers) (p : Nat) (connected : Bool) (pid : CInt) : Bool :=
  match s.handles.lookup p with
  | none => false
  | some b => decide (reached b.cb connected ≠ []) && positive b.cb.ashmemSize &&
      decide (b.cb.mappedPid ≠ pid)

/-- A call of `gralloc_register_buffer` that returns an error sends nothing, unless what fails
is to map the area behind the open. -/
def RegisterErrorSendsNothing (s : Buffers) (a : Step) (s' : Buffers) : Prop :=
  match a with
  | .register p connected mmap pid =>
      (s.register p connected mmap pid).1 ≠ 0#32 → s.opensBeforeMap p connected pid = false →
        s'.sent = s.sent
  | _ => True

/-- With nothing to map, the call fails only when it does not get to the host. -/
theorem reached_of_registerBuffer {cb : CbHandle} {connected : Bool} {mmap : Except Errno CInt}
    {pid : CInt} (hstatus : (registerBuffer cb connected mmap pid).status ≠ 0#32)
    (hmap : ¬(reached cb connected ≠ [] ∧ positive cb.ashmemSize = true ∧ cb.mappedPid ≠ pid)) :
    reached cb connected = [] := by
  by_contra hreached
  have hhost : ¬(cb.hostHandle ≠ 0#32 ∧ (!connected) = true) := fun h =>
    hreached (reached_of_not_connected h)
  have hnothing : ¬(positive cb.ashmemSize = true ∧ cb.mappedPid ≠ pid) := fun h =>
    hmap ⟨hreached, h⟩
  apply hstatus
  simp only [registerBuffer, if_neg hhost, if_neg hnothing]

theorem registerErrorSendsNothing {a : Step} (hstep : s.step a = some s') :
    RegisterErrorSendsNothing s a s' := by
  cases a with
  | alloc | share | unregister | free => trivial
  | register p connected mmap pid =>
      obtain rfl := Option.some.inj hstep
      intro hstatus hmap
      unfold opensBeforeMap at hmap
      unfold register at hstatus ⊢
      cases hp : s.handles.lookup p with
      | none => rfl
      | some b =>
          rw [hp] at hstatus hmap
          have hreached := reached_of_registerBuffer hstatus (by
            simpa only [Bool.and_eq_false_iff, decide_eq_false_iff_not, not_and_or,
              Bool.not_eq_true, or_assoc] using hmap)
          simp [record, commandsOf_registerBuffer, hreached]

/-- Over every run of the calls on any buffers. -/
theorem hostReferences {trace : List (Step × Buffers)}
    (hrun : Run (fun s a s' => s.step a = some s') start trace) :
    Always Balanced trace ∧ EachStep RegisterErrorSendsNothing start trace := by
  have hkeep : ∀ s a s', Accounted s → s.step a = some s' → Accounted s' :=
    fun _ _ _ hs hstep => hs.step hstep
  exact ⟨(hrun.always hkeep accounted_start).imp fun _ hs => hs.balanced,
    hrun.eachStep hkeep (fun _ _ _ _ hstep => registerErrorSendsNothing hstep) accounted_start⟩

/-- A buffer of the composer is used in another process, where a call finds no connection. -/
theorem hostReferences_shared_buffer :
    (Always Balanced (partialTraceOf step start
      [.alloc 1 ⟨true, 4, 4, HAL_PIXEL_FORMAT_RGBA_8888, 0x933#32⟩
          ⟨.ok ⟨7, by decide⟩, .ok 0x10000#32, true, 9, 100⟩,
        .share 1 2 12, .register 2 false (.ok 0x20000#32) 200,
        .register 2 true (.ok 0x20000#32) 200, .unregister 2 true true 200, .free 1 true])) :=
  (hostReferences (run_partialTraceOf step start
    [.alloc 1 ⟨true, 4, 4, HAL_PIXEL_FORMAT_RGBA_8888, 0x933#32⟩
        ⟨.ok ⟨7, by decide⟩, .ok 0x10000#32, true, 9, 100⟩,
      .share 1 2 12, .register 2 false (.ok 0x20000#32) 200,
      .register 2 true (.ok 0x20000#32) 200, .unregister 2 true true 200, .free 1 true])).1

/-- A buffer of the composer is closed twice when it is freed, and nobody opened it; another
buffer is unregistered and freed, and was not registered. -/
theorem closes_exceed_opens :
    (∃ trace, Run (fun s a s' => s.step a = some s') start trace ∧
      (endState start trace).creates 9 = 1 ∧ (endState start trace).opens 9 = 0 ∧
      (endState start trace).closes 9 = 2 ∧ (endState start trace).unregistered = []) ∧
    ∃ trace, Run (fun s a s' => s.step a = some s') start trace ∧
      (endState start trace).creates 9 = 1 ∧ (endState start trace).opens 9 = 0 ∧
      (endState start trace).closes 9 = 2 ∧ (endState start trace).closedTwice = [] := by
  constructor
  · refine ⟨_, run_partialTraceOf step start
      [.alloc 1 ⟨true, 4, 4, HAL_PIXEL_FORMAT_RGBA_8888, GRALLOC_USAGE_HW_COMPOSER⟩
        ⟨.ok ⟨7, by decide⟩, .ok 0x10000#32, true, 9, 100⟩, .free 1 true], ?_⟩
    decide +kernel
  · refine ⟨_, run_partialTraceOf step start
      [.alloc 1 ⟨true, 4, 4, HAL_PIXEL_FORMAT_RGBA_8888, GRALLOC_USAGE_HW_TEXTURE⟩
        ⟨.ok ⟨7, by decide⟩, .ok 0x10000#32, true, 9, 100⟩, .unregister 1 true true 100,
        .free 1 true], ?_⟩
    decide +kernel

end Buffers

end Gralloc
end DeviceAndroVM
