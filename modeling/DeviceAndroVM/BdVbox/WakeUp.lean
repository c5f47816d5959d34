import DeviceAndroVM.BdVbox.OutputMatching

/-!
# Waiting for a message

`pop_message` and `find_next_context_message_out` wait in the same way: they lock the mutex,
look into the queue, and when they find nothing they unlock the mutex and then call
`pthread_cond_wait`.  The push functions lock, append, unlock and signal.  Here every one of
these is a step of its own, and the threads take them in any order.

* `Buffer` — a queue with what is pushed and how the consumer looks into it; `inBuffer` and
  `outBuffer` are the two of the program.
* `Threads` — the mutex, the consumer and any number of producers.
* `WakesUp` — the wait is entered with the mutex held, and nobody waits for what is there.
* `wakesUp_iff` — this is so just as long as the wait is not entered at all.
-/

namespace DeviceAndroVM
namespace BdVbox

open Library

/-! ## The queues -/

/-- A queue that producers push to.  `attempt` is the consumer's look into it with the mutex
held: it may find nothing, but not when the queue is `ready`. -/
structure Buffer (Queue Item : Type) where
  push : Queue → Item → Option Queue
  attempt : Queue → Option (Option Queue)
  ready : Queue → Prop
  attempt_of_ready : ∀ q, ready q → attempt q ≠ some none

/-- The queue of one connection, for `push_message` and `pop_message`. -/
def inBuffer : Buffer (LinkedQueue ThMessage) (Nat × ThMessage) where
  push q item := if q.cells item.1 = none then pushMessage q item.1 item.2 else none
  attempt q := (popMessage q).map fun found => found.map Prod.snd
  ready q := q.head ≠ none
  attempt_of_ready q hready hnone := by
    obtain ⟨m, hm⟩ := Option.ne_none_iff_exists'.mp hready
    simp [popMessage, hm] at hnone

/-- What is pushed towards the host. -/
inductive OutItem
  | context (p : Nat) (ctxt : ThContextOut)
  | message (p : Nat) (msg : ThMessage)
  deriving DecidableEq

/-- The queues towards the host, for `push_context_out`, `push_message_out` and
`find_next_context_message_out`.  They are ready when a context has a message. -/
def outBuffer : Buffer OutQueues OutItem where
  push q item :=
    match item with
    | .context p ctxt => if q.ctrl_context_out.cells p = none then q.pushContextOut p ctxt else none
    | .message p msg => if q.ctrl_message_out.cells p = none then q.pushMessageOut p msg else none
  attempt q := q.findNextContextMessageOut.map fun found => found.map Prod.snd
  ready q := ∃ ctxts msgs, q.ctrl_context_out.Represents ctxts ∧ q.ctrl_message_out.Represents msgs ∧
    ∃ c ∈ ctxts, ∃ m ∈ msgs, c.2.cid = m.2.cid
  attempt_of_ready := by
    rintro q ⟨ctxts, msgs, hctxts, hmsgs, c, hc, m, hm, hcid⟩ hnone
    rcases findNextContextMessageOut_spec hctxts hmsgs with ⟨-, hno⟩ |
      ⟨_, _, _, _, _, _, _, _, _, _, _, _, _, _, hfind, _⟩
    · exact hno c hc m hm hcid
    · simp [hfind] at hnone

/-! ## The threads -/

inductive Owner
  | consumer
  | producer (n : Nat)
  deriving DecidableEq

/-- Where the consumer stands; `empty` and `unlocked` are the two places between a look that
found nothing and the wait. -/
inductive ConsumerPhase
  | outside
  | locked
  | found
  | empty
  | unlocked
  | waiting
  | woken
  deriving DecidableEq

inductive ProducerPhase
  | outside
  | locked
  | appended
  | unlocked
  deriving DecidableEq

structure Threads (Queue : Type) where
  queue : Queue
  mutex : Option Owner
  consumer : ConsumerPhase
  producers : Nat → ProducerPhase

/-- The steps: those of the consumer, and those of the producer `n`. -/
inductive WaitStep (Item : Type)
  | lock
  | attempt
  | unlock
  | wait
  | wake
  | relock
  | producerLock (n : Nat)
  | append (n : Nat) (item : Item)
  | producerUnlock (n : Nat)
  | signal (n : Nat)
  deriving DecidableEq

namespace Threads

variable {Queue Item : Type}

/-- Nobody is in any of the functions. -/
def start (queue : Queue) : Threads Queue := ⟨queue, none, .outside, fun _ => .outside⟩

def setProducer (s : Threads Queue) (n : Nat) (phase : ProducerPhase) : Threads Queue :=
  { s with producers := fun m => if m = n then phase else s.producers m }

/-- One step.  `pthread_cond_wait` releases the mutex if the caller holds it, and it may return
without a signal (`wake`); `pthread_cond_signal` has no effect when nobody waits. -/
def step (B : Buffer Queue Item) (s : Threads Queue) : WaitStep Item → Option (Threads Queue)
  | .lock =>
      if s.consumer = .outside ∧ s.mutex = none then
        some { s with mutex := some .consumer, consumer := .locked }
      else none
  | .attempt =>
      if s.consumer = .locked then
        (B.attempt s.queue).map fun found =>
          match found with
          | none => { s with consumer := .empty }
          | some queue => { s with queue, consumer := .found }
      else none
  | .unlock =>
      match s.consumer with
      | .found => some { s with mutex := none, consumer := .outside }
      | .empty => some { s with mutex := none, consumer := .unlocked }
      | _ => none
  | .wait =>
      if s.consumer = .unlocked then
        some { s with
          mutex := if s.mutex = some .consumer then none else s.mutex
          consumer := .waiting }
      else none
  | .wake => if s.consumer = .waiting then some { s with consumer := .woken } else none
  | .relock =>
      if s.consumer = .woken ∧ s.mutex = none then
        some { s with mutex := some .consumer, consumer := .locked }
      else none
  | .producerLock n =>
      if s.producers n = .outside ∧ s.mutex = none then
        some { s.setProducer n .locked with mutex := some (.producer n) }
      else none
  | .append n item =>
      if s.producers n = .locked then
        (B.push s.queue item).map fun queue => { s.setProducer n .appended with queue }
      else none
  | .producerUnlock n =>
      if s.producers n = .appended then
        some { s.setProducer n .unlocked with mutex := none }
      else none
  | .signal n =>
      if s.producers n = .unlocked then
        some { s.setProducer n .outside with
          consumer := if s.consumer = .waiting then .woken else s.consumer }
      else none

/-! ## The property -/

/-- The consumer waits although the queue is ready, and no producer has a signal to give for
what it appended. -/
def Stalled (B : Buffer Queue Item) (s : Threads Queue) : Prop :=
  s.consumer = .waiting ∧ B.ready s.queue ∧
    ∀ n, s.producers n ≠ .appended ∧ s.producers n ≠ .unlocked

/-- The wait is only entered with the mutex held, and the consumer is never stalled. -/
def WakesUp (B : Buffer Queue Item) (s : Threads Queue)
    (trace : List (WaitStep Item × Threads Queue)) : Prop :=
  EachStep (fun s a _ => a = .wait → s.mutex = some .consumer) s trace ∧
    Always (fun s => ¬Stalled B s) trace

/-- The wait is not entered. -/
def NeverWaits (s : Threads Queue) (trace : List (WaitStep Item × Threads Queue)) : Prop :=
  EachStep (fun _ a _ => a ≠ .wait) s trace

variable {B : Buffer Queue Item} {s s' : Threads Queue} {a : WaitStep Item}
  {trace : List (WaitStep Item × Threads Queue)}

/-- What each step does to the mutex and to the consumer. -/
inductive Moves (B : Buffer Queue Item) (s : Threads Queue) :
    WaitStep Item → Option Owner → ConsumerPhase → Prop
  | lock : s.consumer = .outside → Moves B s .lock (some .consumer) .locked
  | relock : s.consumer = .woken → Moves B s .relock (some .consumer) .locked
  | found : s.consumer = .locked → Moves B s .attempt s.mutex .found
  | empty : s.consumer = .locked → B.attempt s.queue = some none → Moves B s .attempt s.mutex .empty
  | leave : s.consumer = .found → Moves B s .unlock none .outside
  | release : s.consumer = .empty → Moves B s .unlock none .unlocked
  | wait : s.consumer = .unlocked →
      Moves B s .wait (if s.mutex = some .consumer then none else s.mutex) .waiting
  | wake : s.consumer = .waiting → Moves B s .wake s.mutex .woken
  | producerLock (n : Nat) : Moves B s (.producerLock n) (some (.producer n)) s.consumer
  | append (n : Nat) (item : Item) : Moves B s (.append n item) s.mutex s.consumer
  | producerUnlock (n : Nat) : Moves B s (.producerUnlock n) none s.consumer
  | signal (n : Nat) :
      Moves B s (.signal n) s.mutex (if s.consumer = .waiting then .woken else s.consumer)

theorem moves_of_step (h : s.step B a = some s') : Moves B s a s'.mutex s'.consumer := by
  cases a with
  | lock =>
      obtain ⟨⟨hphase, -⟩, ⟨⟩⟩ := Option.ite_none_right_eq_some.mp h
      exact .lock hphase
  | relock =>
      obtain ⟨⟨hphase, -⟩, ⟨⟩⟩ := Option.ite_none_right_eq_some.mp h
      exact .relock hphase
  | attempt =>
      obtain ⟨hphase, hattempt⟩ := Option.ite_none_right_eq_some.mp h
      obtain ⟨found, hfound, rfl⟩ := Option.map_eq_some_iff.mp hattempt
      cases found with
      | none => exact .empty hphase hfound
      | some queue => exact .found hphase
  | unlock =>
      simp only [step] at h
      split at h
      · rename_i hphase
        obtain rfl := Option.some.inj h
        exact .leave hphase
      · rename_i hphase
        obtain rfl := Option.some.inj h
        exact .release hphase
      · cases h
  | wait =>
      obtain ⟨hphase, ⟨⟩⟩ := Option.ite_none_right_eq_some.mp h
      exact .wait hphase
  | wake =>
      obtain ⟨hphase, ⟨⟩⟩ := Option.ite_none_right_eq_some.mp h
      exact .wake hphase
  | producerLock n =>
      obtain ⟨-, ⟨⟩⟩ := Option.ite_none_right_eq_some.mp h
      exact .producerLock n
  | append n item =>
      obtain ⟨-, hpush⟩ := Option.ite_none_right_eq_some.mp h
      obtain ⟨queue, -, rfl⟩ := Option.map_eq_some_iff.mp hpush
      exact .append n item
  | producerUnlock n =>
      obtain ⟨-, ⟨⟩⟩ := Option.ite_none_right_eq_some.mp h
      exact .producerUnlock n
  | signal n =>
      obtain ⟨-, ⟨⟩⟩ := Option.ite_none_right_eq_some.mp h
      exact .signal n

/-- The consumer only has the mutex between its lock and its unlock. -/
def HoldsInside (s : Threads Queue) : Prop :=
  s.mutex = some .consumer → s.consumer = .locked ∨ s.consumer = .found ∨ s.consumer = .empty

theorem Moves.holdsInside {mutex : Option Owner} {phase : ConsumerPhase} (h : s.HoldsInside)
    (hmoves : Moves B s a mutex phase) :
    mutex = some .consumer → phase = .locked ∨ phase = .found ∨ phase = .empty := by
  unfold HoldsInside at h
  intro hheld
  cases hmoves with
  | lock | relock => exact Or.inl rfl
  | found => exact Or.inr (Or.inl rfl)
  | empty => exact Or.inr (Or.inr rfl)
  | leave | release | producerUnlock => cases hheld
  | producerLock n => simp at hheld
  | append => exact h hheld
  -- in the other phases the consumer has no mutex to begin with
  | wait hphase | wake hphase => grind
  | signal n => grind

/-- A consumer that does not wait is not made to wait by any other step. -/
theorem Moves.ne_waiting {mutex : Option Owner} {phase : ConsumerPhase}
    (h : s.consumer ≠ .waiting) (hne : a ≠ .wait) (hmoves : Moves B s a mutex phase) :
    phase ≠ .waiting := by
  cases hmoves with
  | wait => exact absurd rfl hne
  | wake hphase => exact absurd hphase h
  | producerLock | append | producerUnlock => exact h
  | signal n => simp [h]
  | _ => simp

/-- The consumer has not found its queue empty. -/
def Served (s : Threads Queue) : Prop :=
  s.consumer = .outside ∨ s.consumer = .locked ∨ s.consumer = .found

theorem Moves.served {mutex : Option Owner} {phase : ConsumerPhase} (h : s.Served)
    (hready : a = .attempt → B.ready s.queue) (hmoves : Moves B s a mutex phase) :
    phase = .outside ∨ phase = .locked ∨ phase = .found := by
  unfold Served at h
  cases hmoves with
  | empty _ hnone => exact absurd hnone (B.attempt_of_ready _ (hready rfl))
  | release hphase | wait hphase | wake hphase => simp [hphase] at h
  | producerLock | append | producerUnlock => exact h
  | signal n =>
      rcases h with h | h | h <;> simp [h]
  | _ => simp

/-- The wait is entered without the mutex, whenever it is entered. -/
theorem wait_unlocked (h : s.HoldsInside) (hstep : s.step B .wait = some s') :
    s.mutex ≠ some .consumer := by
  intro hheld
  have hphase : s.consumer = .unlocked := (Option.ite_none_right_eq_some.mp hstep).1
  simpa [hphase] using h hheld

/-- The wait is entered with the mutex held, and a consumer is woken when there is something
for it, exactly as long as the wait is not entered at all. -/
theorem wakesUp_iff_neverWaits {q : Queue}
    (hrun : Run (fun s a s' => step B s a = some s') (start q) trace) :
    WakesUp B (start q) trace ↔ NeverWaits (start q) trace := by
  have hkeep : ∀ s a s', HoldsInside s → step B s a = some s' → HoldsInside s' :=
    fun s a s' h hstep => (moves_of_step hstep).holdsInside h
  have hinit : (start q).HoldsInside := fun hheld => by simp [start] at hheld
  have hlocked : EachStep (fun s a _ => a = .wait → s.mutex = some .consumer) (start q) trace ↔
      NeverWaits (start q) trace := by
    refine hrun.eachStep_iff_eachStep (fun s a s' h _ => hkeep s a s' h) ?_ hinit
    intro s a s' h hstep
    constructor
    · rintro hheld rfl
      exact wait_unlocked h hstep (hheld rfl)
    · exact fun hne heq => absurd heq hne
  refine ⟨fun h => hlocked.mp h.1, fun hnever => ⟨hlocked.mpr hnever, ?_⟩⟩
  have hawake : Always (fun s : Threads Queue => s.consumer ≠ .waiting) trace :=
    hrun.always_of_eachStep
      (fun s a s' h hne hstep => (moves_of_step hstep).ne_waiting h hne) (by simp [start]) hnever
  exact hawake.imp fun s hne hstalled => hne hstalled.1

/-- A consumer that finds something whenever it looks never waits. -/
theorem neverWaits_of_ready {q : Queue}
    (hrun : Run (fun s a s' => step B s a = some s') (start q) trace)
    (hready : EachStep (fun s a _ => a = .attempt → B.ready s.queue) (start q) trace) :
    NeverWaits (start q) trace := by
  refine hrun.eachStep_of_eachStep
    (fun s a s' h hcond hstep => (moves_of_step hstep).served h hcond) ?_ (Or.inl rfl) hready
  rintro s a s' h hcond hstep rfl
  have hphase : s.consumer = .unlocked := (Option.ite_none_right_eq_some.mp hstep).1
  simp [hphase] at h

end Threads

open Threads

/-- For a connection's own queue and for the queues towards the host: in a run whose consumer
finds something at every look, the wait is entered only with the mutex held and nobody waits
for what is there.  And this is so in no run in which the wait is entered. -/
theorem wakesUp_of_ready {qIn : LinkedQueue ThMessage} {qOut : OutQueues}
    {traceIn : List (WaitStep (Nat × ThMessage) × Threads (LinkedQueue ThMessage))}
    {traceOut : List (WaitStep OutItem × Threads OutQueues)}
    (hin : Run (fun s a s' => step inBuffer s a = some s') (start qIn) traceIn)
    (hout : Run (fun s a s' => step outBuffer s a = some s') (start qOut) traceOut) :
    (EachStep (fun s a _ => a = .attempt → inBuffer.ready s.queue) (start qIn) traceIn →
      WakesUp inBuffer (start qIn) traceIn) ∧
    (EachStep (fun s a _ => a = .attempt → outBuffer.ready s.queue) (start qOut) traceOut →
      WakesUp outBuffer (start qOut) traceOut) ∧
    (WakesUp inBuffer (start qIn) traceIn ↔ NeverWaits (start qIn) traceIn) ∧
    (WakesUp outBuffer (start qOut) traceOut ↔ NeverWaits (start qOut) traceOut) :=
  ⟨fun hready => (wakesUp_iff_neverWaits hin).mpr (neverWaits_of_ready hin hready),
    fun hready => (wakesUp_iff_neverWaits hout).mpr (neverWaits_of_ready hout hready),
    wakesUp_iff_neverWaits hin, wakesUp_iff_neverWaits hout⟩

/-- A message is pushed and popped without a wait, and so are a context and its message. -/
theorem wakesUp_of_ready_one_message :
    WakesUp inBuffer (start LinkedQueue.empty) (partialTraceOf (step inBuffer)
      (start LinkedQueue.empty)
      [.producerLock 0, .append 0 (0, ⟨5, 0, none⟩), .producerUnlock 0, .lock, .attempt, .signal 0,
        .unlock]) ∧
    WakesUp outBuffer (start OutQueues.empty) (partialTraceOf (step outBuffer)
      (start OutQueues.empty)
      [.producerLock 0, .append 0 (.context 0 ⟨5, 1, 0, 0⟩), .producerUnlock 0, .producerLock 1,
        .append 1 (.message 0 ⟨5, 0, none⟩), .producerUnlock 1, .lock, .attempt, .unlock]) := by
  obtain ⟨hin, hout, -, -⟩ :=
    wakesUp_of_ready (run_partialTraceOf (step inBuffer) (start LinkedQueue.empty)
        [.producerLock 0, .append 0 (0, ⟨5, 0, none⟩), .producerUnlock 0, .lock, .attempt,
          .signal 0, .unlock])
      (run_partialTraceOf (step outBuffer) (start OutQueues.empty)
        [.producerLock 0, .append 0 (.context 0 ⟨5, 1, 0, 0⟩), .producerUnlock 0, .producerLock 1,
          .append 1 (.message 0 ⟨5, 0, none⟩), .producerUnlock 1, .lock, .attempt, .unlock])
  constructor
  · exact hin ⟨nofun, nofun, nofun, nofun, fun _ => nofun, nofun, nofun, trivial⟩
  · exact hout
      ⟨nofun, nofun, nofun, nofun, nofun, nofun, nofun,
        fun _ => ⟨[(0, ⟨5, 1, 0, 0⟩)], [(0, ⟨5, 0, none⟩)],
          ⟨⟨rfl, none, rfl, rfl⟩, by decide, by decide⟩,
          ⟨⟨rfl, none, rfl, rfl⟩, by decide, by decide⟩,
          _, List.mem_singleton_self _, _, List.mem_singleton_self _, rfl⟩,
        nofun, trivial⟩

/-- The consumer finds nothing and unlocks; a producer appends and signals; then the consumer
waits, without the mutex and for what is already there.  So it is with both kinds of queue. -/
theorem signal_before_wait_is_lost :
    (∃ trace, Run (fun s a s' => step inBuffer s a = some s') (start LinkedQueue.empty) trace ∧
      ¬WakesUp inBuffer (start LinkedQueue.empty) trace ∧
      Stalled inBuffer (endState (start LinkedQueue.empty) trace)) ∧
    ∃ trace, Run (fun s a s' => step outBuffer s a = some s') (start OutQueues.empty) trace ∧
      ¬WakesUp outBuffer (start OutQueues.empty) trace ∧
      Stalled outBuffer (endState (start OutQueues.empty) trace) := by
  constructor
  · refine ⟨_, run_partialTraceOf (step inBuffer) _ [.lock, .attempt, .unlock, .producerLock 0,
      .append 0 (0, ⟨5, 0, none⟩), .producerUnlock 0, .signal 0, .wait], ?_, rfl, nofun, ?_⟩
    · rintro ⟨hlocked, -⟩
      revert hlocked
      decide
    · rintro (_ | n) <;> exact ⟨nofun, nofun⟩
  · refine ⟨_, run_partialTraceOf (step outBuffer) _ [.producerLock 0,
      .append 0 (.context 0 ⟨5, 1, 0, 0⟩), .producerUnlock 0, .signal 0, .lock, .attempt, .unlock,
      .producerLock 0, .append 0 (.message 0 ⟨5, 0, none⟩), .producerUnlock 0, .signal 0, .wait],
      ?_, rfl, ?_, ?_⟩
    · rintro ⟨hlocked, -⟩
      revert hlocked
      decide
    · exact ⟨[(0, ⟨5, 1, 0, 0⟩)], [(0, ⟨5, 0, none⟩)],
        ⟨⟨rfl, none, rfl, rfl⟩, by decide, by decide⟩, ⟨⟨rfl, none, rfl, rfl⟩, by decide, by decide⟩,
        _, List.mem_singleton_self _, _, List.mem_singleton_self _, rfl⟩
    · rintro (_ | n) <;> exact ⟨nofun, nofun⟩

end BdVbox
end DeviceAndroVM
