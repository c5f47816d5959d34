import DeviceAndroVM.Library.Resumption
import DeviceAndroVM.Library.Transition
import Mathlib.Data.Set.Insert
import Mathlib.Data.Set.Lattice
import Mathlib.Logic.Function.Basic
import Mathlib.Order.CompletePartialOrder

/-!
# Locks behind a gate

Threads share a state whose parts are protected by locks.  One of the locks is the gate: it is
taken first, the others are taken only by a thread that has it, and it may be given back before
them.

* `LockAct`, `LockProg` — what a thread does: it takes a lock, gives one back, or accesses the
  state.
* `Guarded` — the accesses, the locks that each of them needs, and what holds of the state
  while a lock is free.
* `Config`, `Config.Step` — the threads with their locks, and what each can do next.
* `Serves` — a program keeps to the discipline, whatever the other threads do to the parts that
  it has not locked, and all it does between taking the gate and giving it back is the effect of
  its next call.
* `Config.Ordered` — the invariant: what the threads have done is what their calls do one after
  the other.  `Ordered.step` and `ordered_endState` carry it along runs.
* `Ordered.exists_step` — no deadlock; `Ordered.owner_of_access` — every access is behind its
  locks.
* `play` — the run of a schedule in which an oracle answers the accesses.
-/

namespace DeviceAndroVM
namespace Library

universe u

/-- What a thread does next. -/
inductive LockAct (Lock Act : Type)
  | lock (l : Lock)
  | unlock (l : Lock)
  | act (x : Act)

/-- Only an access answers anything. -/
def LockResp {Lock Act : Type} (Resp : Act → Type) : LockAct Lock Act → Type
  | .lock _ => Unit
  | .unlock _ => Unit
  | .act x => Resp x

/-- A program with locks. -/
abbrev LockProg (Lock Act : Type) (Resp : Act → Type) (α : Type) : Type :=
  Prog (LockAct Lock Act) (LockResp Resp) α

namespace LockProg

variable {Lock Act : Type} {Resp : Act → Type}

def lock (l : Lock) : LockProg Lock Act Resp Unit := Prog.perform (LockAct.lock l)

def unlock (l : Lock) : LockProg Lock Act Resp Unit := Prog.perform (LockAct.unlock l)

def access (x : Act) : LockProg Lock Act Resp (Resp x) := Prog.perform (LockAct.act x)

end LockProg

/-- A state with its accesses and its locks. -/
structure Guarded (Lock Act : Type) (Resp : Act → Type) (State : Type u) where
  gate : Lock
  needs : Act → Set Lock
  /-- The state after an access with its answer; there is none where the access is not
  possible. -/
  next : State → (x : Act) → Resp x → Option State
  /-- What holds while the lock is free. -/
  inv : Lock → State → Prop
  /-- Without the gate the state is only read. -/
  read_only : ∀ {x : Act} {s r s'}, gate ∉ needs x → next s x r = some s' → s' = s
  /-- An access does not disturb what is said of a lock that it does not need. -/
  inv_next : ∀ {l : Lock} {x : Act} {s r s'}, l ∉ needs x → inv l s → next s x r = some s' →
    inv l s'

variable {Lock Act : Type} {Resp : Act → Type} {State : Type u} {α β Call ι : Type}

/-! ## Programs -/

/-- Where a program is: the locks that it has, the state in which it took the gate, and the
calls that it has not served. -/
structure Place (Lock Call : Type) (State : Type u) where
  held : Set Lock
  entered : Option State
  calls : List Call

namespace Guarded

variable (C : Guarded Lock Act Resp State)

/-- What other threads can do to the state while these locks are taken. -/
inductive Rely (held : Set Lock) (s : State) : State → Prop
  | refl : Rely held s s
  | tail {mid s' : State} {x : Act} {r : Resp x} (hmid : Rely held s mid)
      (hother : Disjoint (C.needs x) held) (hnext : C.next mid x r = some s') : Rely held s s'

variable {C} {held : Set Lock} {s s' : State}

theorem Rely.trans {s₁ s₂ s₃ : State} (h : C.Rely held s₁ s₂) (h' : C.Rely held s₂ s₃) :
    C.Rely held s₁ s₃ := by
  induction h' with
  | refl => exact h
  | tail _ hother hnext ih => exact Rely.tail ih hother hnext

/-- Nobody else changes the state while the gate is taken. -/
theorem Rely.eq_of_gate (hgate : C.gate ∈ held) (h : C.Rely held s s') : s' = s := by
  induction h with
  | refl => exact rfl
  | tail _ hother hnext ih =>
      have hneeds : C.gate ∉ C.needs _ := Set.disjoint_right.mp hother hgate
      rw [C.read_only hneeds hnext, ih]

/-- What an access of anybody else keeps is kept. -/
theorem Rely.keeps {P : State → Prop}
    (hkeep : ∀ {x s r s'}, Disjoint (C.needs x) held → P s → C.next s x r = some s' → P s')
    (h : C.Rely held s s') (hP : P s) : P s' := by
  induction h with
  | refl => exact hP
  | tail _ hother hnext ih => exact hkeep hother ih hnext

section Serves

variable [DecidableEq Lock] (C)

/-- The gate is taken first, and every other lock behind it. -/
def MayLock (l : Lock) (held : Set Lock) : Prop :=
  if l = C.gate then held = ∅ else C.gate ∈ held ∧ l ∉ held

def afterLock (w : Place Lock Call State) (l : Lock) (s : State) : Place Lock Call State where
  held := insert l w.held
  entered := if l = C.gate then some s else w.entered
  calls := w.calls

/-- Where a program is when it has given a lock back.  With the gate it ends the effect of its
next call. -/
def AfterUnlock (effect : Call → State → State → Prop) (w : Place Lock Call State) (l : Lock)
    (s : State) (w' : Place Lock Call State) : Prop :=
  w'.held = w.held \ {l} ∧
    if l = C.gate then
      ∃ call s₀, w.entered = some s₀ ∧ effect call s₀ s ∧ w.calls = call :: w'.calls
    else w'.entered = w.entered ∧ w'.calls = w.calls

/-- The program keeps to the discipline from here on, and `Q` holds when it returns. -/
def Serves (effect : Call → State → State → Prop) :
    LockProg Lock Act Resp α → (α → Place Lock Call State → State → Prop) →
      Place Lock Call State → State → Prop
  | .ret a, Q, w, s => Q a w s
  | .act (.lock l) k, Q, w, s => C.MayLock l w.held ∧ ∀ s', C.Rely w.held s s' → C.inv l s' →
      Serves effect (k ()) Q (C.afterLock w l s') s'
  | .act (.unlock l) k, Q, w, s => l ∈ w.held ∧ ∀ s', C.Rely w.held s s' → C.inv l s' ∧
      ∃ w', C.AfterUnlock effect w l s' w' ∧ Serves effect (k ()) Q w' s'
  | .act (.act x) k, Q, w, s => C.needs x ⊆ w.held ∧ ∀ s', C.Rely w.held s s' →
      (∃ r s'', C.next s' x r = some s'') ∧
        ∀ r s'', C.next s' x r = some s'' → Serves effect (k r) Q w s''

variable {C} {effect : Call → State → State → Prop}
  {Q Q' : α → Place Lock Call State → State → Prop} {w : Place Lock Call State}

theorem serves_bind {p : LockProg Lock Act Resp β}
    {f : β → LockProg Lock Act Resp α} :
    C.Serves effect (p >>= f) Q w s ↔
      C.Serves effect p (fun b w s => C.Serves effect (f b) Q w s) w s := by
  induction p generalizing w s with
  | ret b => exact Iff.rfl
  | act x k ih =>
      cases x with
      | lock l =>
          refine and_congr_right fun _ => forall_congr' fun s' => ?_
          exact forall_congr' fun _ => forall_congr' fun _ => ih ()
      | unlock l =>
          refine and_congr_right fun _ => forall_congr' fun s' => forall_congr' fun _ => ?_
          refine and_congr_right fun _ => exists_congr fun w' => ?_
          exact and_congr_right fun _ => ih ()
      | act x =>
          refine and_congr_right fun _ => forall_congr' fun s' => forall_congr' fun _ => ?_
          refine and_congr_right fun _ => forall_congr' fun r => forall_congr' fun s'' => ?_
          exact forall_congr' fun _ => ih r

theorem Serves.mono {p : LockProg Lock Act Resp α}
    (himp : ∀ a w s, Q a w s → Q' a w s) (h : C.Serves effect p Q w s) :
    C.Serves effect p Q' w s := by
  induction p generalizing w s with
  | ret a => exact himp a w s h
  | act x k ih =>
      cases x with
      | lock l =>
          obtain ⟨hmay, hrest⟩ := h
          exact ⟨hmay, fun s' hrely hinv => ih () (hrest s' hrely hinv)⟩
      | unlock l =>
          obtain ⟨hmem, hrest⟩ := h
          refine ⟨hmem, fun s' hrely => ?_⟩
          obtain ⟨hinv, w', hafter, hk⟩ := hrest s' hrely
          exact ⟨hinv, w', hafter, ih () hk⟩
      | act x =>
          obtain ⟨hneeds, hrest⟩ := h
          refine ⟨hneeds, fun s' hrely => ?_⟩
          obtain ⟨hcan, hk⟩ := hrest s' hrely
          exact ⟨hcan, fun r s'' hnext => ih r (hk r s'' hnext)⟩

/-- What every access keeps is kept by every program. -/
theorem Serves.and_keeps {P : State → Prop} {p : LockProg Lock Act Resp α}
    (hkeep : ∀ {x s r s'}, P s → C.next s x r = some s' → P s') (hP : P s)
    (h : C.Serves effect p Q w s) : C.Serves effect p (fun a w s => Q a w s ∧ P s) w s := by
  have hrely : ∀ {held s s'}, C.Rely held s s' → P s → P s' :=
    fun hrely hP => hrely.keeps (fun _ hP hnext => hkeep hP hnext) hP
  induction p generalizing w s with
  | ret a => exact ⟨h, hP⟩
  | act x k ih =>
      cases x with
      | lock l =>
          obtain ⟨hmay, hrest⟩ := h
          exact ⟨hmay, fun s' hothers hinv => ih () (hrely hothers hP) (hrest s' hothers hinv)⟩
      | unlock l =>
          obtain ⟨hmem, hrest⟩ := h
          refine ⟨hmem, fun s' hothers => ?_⟩
          obtain ⟨hinv, w', hafter, hk⟩ := hrest s' hothers
          exact ⟨hinv, w', hafter, ih () (hrely hothers hP) hk⟩
      | act x =>
          obtain ⟨hneeds, hrest⟩ := h
          refine ⟨hneeds, fun s' hothers => ?_⟩
          obtain ⟨hcan, hk⟩ := hrest s' hothers
          exact ⟨hcan, fun r s'' hnext => ih r (hkeep (hrely hothers hP) hnext) (hk r s'' hnext)⟩

/-- A program is not disturbed by what it does not have locked. -/
theorem Serves.rely {p : LockProg Lock Act Resp α}
    (hQ : ∀ a w s s', Q a w s → Q a w s') (h : C.Serves effect p Q w s)
    (hrely : C.Rely w.held s s') : C.Serves effect p Q w s' := by
  cases p with
  | ret a => exact hQ a w s s' h
  | act x k =>
      cases x with
      | lock l => exact ⟨h.1, fun s'' hmore => h.2 s'' (hrely.trans hmore)⟩
      | unlock l => exact ⟨h.1, fun s'' hmore => h.2 s'' (hrely.trans hmore)⟩
      | act x => exact ⟨h.1, fun s'' hmore => h.2 s'' (hrely.trans hmore)⟩

/-! ## Rules for the parts of a program -/

section Rules

variable {l : Lock} {x : Act} {R : Unit → Place Lock Call State → State → Prop}
  {A : Resp x → Place Lock Call State → State → Prop}

/-- An access while the gate is taken: the state is where the program left it. -/
theorem serves_access (hgate : C.gate ∈ w.held) (hneeds : C.needs x ⊆ w.held)
    (hcan : ∃ r s', C.next s x r = some s')
    (hrest : ∀ r s', C.next s x r = some s' → A r w s') :
    C.Serves effect (LockProg.access x) A w s := by
  refine ⟨hneeds, fun s' hrely => ?_⟩
  obtain rfl := hrely.eq_of_gate hgate
  exact ⟨hcan, hrest⟩

/-- An access when the gate may be free: all that is known is what the others keep. -/
theorem serves_access_of_keeps {P : State → Prop} (hneeds : C.needs x ⊆ w.held)
    (hkeep : ∀ s s', C.Rely w.held s s' → P s → P s') (hP : P s)
    (hcan : ∀ s, P s → ∃ r s', C.next s x r = some s')
    (hrest : ∀ s r s', P s → C.next s x r = some s' → A r w s') :
    C.Serves effect (LockProg.access x) A w s := by
  refine ⟨hneeds, fun s' hrely => ?_⟩
  have hP' := hkeep s s' hrely hP
  exact ⟨hcan s' hP', fun r s'' hnext => hrest s' r s'' hP' hnext⟩

theorem serves_lock (hgate : C.gate ∈ w.held) (hfree : l ∉ w.held)
    (hrest : C.inv l s → R () { w with held := insert l w.held } s) :
    C.Serves effect (LockProg.lock l) R w s := by
  have hne : l ≠ C.gate := fun heq => hfree (heq ▸ hgate)
  refine ⟨by rw [MayLock, if_neg hne]; exact ⟨hgate, hfree⟩, fun s' hrely hinv => ?_⟩
  obtain rfl := hrely.eq_of_gate hgate
  rw [afterLock, if_neg hne]
  exact hrest hinv

theorem serves_unlock {P : State → Prop} (hne : l ≠ C.gate) (hmem : l ∈ w.held)
    (hkeep : ∀ s s', C.Rely w.held s s' → P s → P s') (hP : P s) (hinv : ∀ s, P s → C.inv l s)
    (hrest : ∀ s, P s → R () { w with held := w.held \ {l} } s) :
    C.Serves effect (LockProg.unlock l) R w s := by
  refine ⟨hmem, fun s' hrely => ?_⟩
  have hP' := hkeep s s' hrely hP
  refine ⟨hinv s' hP', { w with held := w.held \ {l} }, ⟨rfl, ?_⟩, hrest s' hP'⟩
  rw [if_neg hne]
  exact ⟨rfl, rfl⟩

theorem serves_unlock_of_gate (hgate : C.gate ∈ w.held) (hne : l ≠ C.gate) (hmem : l ∈ w.held)
    (hinv : C.inv l s) (hrest : R () { w with held := w.held \ {l} } s) :
    C.Serves effect (LockProg.unlock l) R w s := by
  have hkeep : ∀ s₁ s₂, C.Rely w.held s₁ s₂ → s₁ = s → s₂ = s :=
    fun _ _ hrely heq => (hrely.eq_of_gate hgate).trans heq
  exact serves_unlock hne hmem hkeep rfl (fun _ heq => heq ▸ hinv) fun _ heq => heq ▸ hrest

/-- The gate is taken with no other lock, in whatever state it is free. -/
theorem serves_enter (hheld : w.held = ∅)
    (hrest : ∀ s', C.Rely ∅ s s' → C.inv C.gate s' → R () ⟨{C.gate}, some s', w.calls⟩ s') :
    C.Serves effect (LockProg.lock C.gate) R w s := by
  refine ⟨by rw [MayLock, if_pos rfl]; exact hheld, fun s' hrely hinv => ?_⟩
  rw [afterLock, if_pos rfl, hheld, insert_empty_eq]
  exact hrest s' (hheld ▸ hrely) hinv

/-- The gate is given back when the next call has had its effect. -/
theorem serves_leave {call : Call} {calls : List Call} {s₀ : State} (hgate : C.gate ∈ w.held)
    (hentered : w.entered = some s₀) (hcalls : w.calls = call :: calls)
    (heffect : effect call s₀ s) (hinv : C.inv C.gate s)
    (hrest : R () ⟨w.held \ {C.gate}, none, calls⟩ s) :
    C.Serves effect (LockProg.unlock C.gate) R w s := by
  refine ⟨hgate, fun s' hrely => ?_⟩
  obtain rfl := hrely.eq_of_gate hgate
  refine ⟨hinv, ⟨w.held \ {C.gate}, none, calls⟩, ⟨rfl, ?_⟩, hrest⟩
  rw [if_pos rfl]
  exact ⟨call, s₀, hentered, heffect, hcalls⟩

end Rules

end Serves

/-- A program that is done: it has no lock and has served all its calls. -/
def Done (_ : α) (w : Place Lock Call State) (_ : State) : Prop := w.held = ∅ ∧ w.calls = []

end Guarded

/-! ## Threads -/

/-- The state, the thread that has each lock, and what is left of each thread's program. -/
structure Config (ι Lock Act : Type) (Resp : Act → Type) (State : Type u) (α : Type) where
  state : State
  owner : Lock → Option ι
  prog : ι → LockProg Lock Act Resp α

namespace Config

open Guarded

variable [DecidableEq Lock] [DecidableEq ι] (C : Guarded Lock Act Resp State)

/-- The thread performs its next action. -/
inductive Step : Config ι Lock Act Resp State α → ι → Config ι Lock Act Resp State α → Prop
  | lock {c : Config ι Lock Act Resp State α} {i : ι} {l : Lock}
      {k : Unit → LockProg Lock Act Resp α}
      (hprog : c.prog i = .act (.lock l) k) (hfree : c.owner l = none) :
      Step c i ⟨c.state, Function.update c.owner l (some i), Function.update c.prog i (k ())⟩
  | unlock {c : Config ι Lock Act Resp State α} {i : ι} {l : Lock}
      {k : Unit → LockProg Lock Act Resp α}
      (hprog : c.prog i = .act (.unlock l) k) (hmine : c.owner l = some i) :
      Step c i ⟨c.state, Function.update c.owner l none, Function.update c.prog i (k ())⟩
  | act {c : Config ι Lock Act Resp State α} {i : ι} {x : Act}
      {k : Resp x → LockProg Lock Act Resp α} {r : Resp x} {s' : State}
      (hprog : c.prog i = .act (.act x) k) (hnext : C.next c.state x r = some s') :
      Step c i ⟨s', c.owner, Function.update c.prog i (k r)⟩

variable (effect : Call → State → State → Prop)

/-- Calls that are made one after the other, each by its thread. -/
abbrev Serial (s : State) (trace : List ((ι × Call) × State)) : Prop :=
  Run (fun s (l : ι × Call) s' => effect l.2 s s') s trace

/-- The calls of one thread, in the order in which they are made. -/
def callsOf (trace : List ((ι × Call) × State)) (i : ι) : List Call :=
  ((trace.map Prod.fst).filter fun l => l.1 = i).map Prod.snd

/-- A thread at its place keeps to the discipline, and the calls that it has served are in the
trace. -/
structure Fits (s₀ : State) (calls : ι → List Call) (trace : List ((ι × Call) × State))
    (owner : Lock → Option ι) (s : State) (i : ι) (w : Place Lock Call State)
    (p : LockProg Lock Act Resp α) : Prop where
  held : ∀ l, l ∈ w.held ↔ owner l = some i
  serves : C.Serves effect p Done w s
  entered : owner C.gate = some i → w.entered = some (endState s₀ trace)
  order : calls i = callsOf trace i ++ w.calls

/-- Every thread is at some place, and what all of them have done together is what the calls of
`trace` do one after the other. -/
structure Ordered (s₀ : State) (calls : ι → List Call) (trace : List ((ι × Call) × State))
    (c : Config ι Lock Act Resp State α) : Prop where
  fits : ∀ i, ∃ w, Fits C effect s₀ calls trace c.owner c.state i w (c.prog i)
  inv : ∀ l, c.owner l = none → C.inv l c.state
  run : Serial effect s₀ trace
  free : c.owner C.gate = none → c.state = endState s₀ trace

variable {C effect} {s₀ : State} {calls : ι → List Call} {trace : List ((ι × Call) × State)}
  {c c' : Config ι Lock Act Resp State α} {i : ι}

theorem callsOf_concat {call : Call} {s : State} {j : ι} :
    callsOf (trace ++ [((i, call), s)]) j =
      callsOf trace j ++ if i = j then [call] else [] := by
  by_cases hij : i = j
  · simp [callsOf, hij]
  · simp [callsOf, hij]

namespace Ordered

/-- The thread that moves has a new place; the others stay where they are. -/
theorem fits_update {trace' : List ((ι × Call) × State)} {owner : Lock → Option ι} {s : State}
    {w : Place Lock Call State} {p : LockProg Lock Act Resp α}
    (h : Ordered C effect s₀ calls trace c)
    (hmine : Fits C effect s₀ calls trace' owner s i w p)
    (hothers : ∀ j w (p : LockProg Lock Act Resp α), j ≠ i →
      Fits C effect s₀ calls trace c.owner c.state j w p →
      Fits C effect s₀ calls trace' owner s j w p) (j : ι) :
    ∃ w, Fits C effect s₀ calls trace' owner s j w (Function.update c.prog i p j) := by
  by_cases hj : j = i
  · subst hj
    rw [Function.update_self]
    exact ⟨w, hmine⟩
  · rw [Function.update_of_ne hj]
    obtain ⟨w', hw'⟩ := h.fits j
    exact ⟨w', hothers j w' _ hj hw'⟩

theorem step_lock (h : Ordered C effect s₀ calls trace c) {l : Lock}
    {k : Unit → LockProg Lock Act Resp α}
    (hprog : c.prog i = .act (.lock l) k) (hfree : c.owner l = none) :
    Ordered C effect s₀ calls trace
      ⟨c.state, Function.update c.owner l (some i), Function.update c.prog i (k ())⟩ := by
  obtain ⟨w, hw⟩ := h.fits i
  have hserves := hw.serves
  rw [hprog] at hserves
  obtain ⟨-, hrest⟩ := hserves
  have hmine : Fits C effect s₀ calls trace (Function.update c.owner l (some i)) c.state i
      (C.afterLock w l c.state) (k ()) := by
    refine ⟨fun l' => ?_, hrest c.state Rely.refl (h.inv l hfree), fun hgate => ?_, hw.order⟩
    · by_cases hl : l' = l
      · simp [afterLock, hl]
      · simp [afterLock, hl, hw.held l']
    · by_cases hl : l = C.gate
      · rw [afterLock, if_pos hl, h.free (hl ▸ hfree)]
      · rw [Function.update_of_ne (Ne.symm hl)] at hgate
        rw [afterLock, if_neg hl]
        exact hw.entered hgate
  have hothers : ∀ j w (p : LockProg Lock Act Resp α), j ≠ i →
      Fits C effect s₀ calls trace c.owner c.state j w p → Fits C effect s₀ calls trace (Function.update c.owner l (some i)) c.state j w p := by
    intro j w p hj hfits
    refine ⟨fun l' => ?_, hfits.serves, fun hgate => ?_, hfits.order⟩
    · rw [hfits.held l']
      by_cases hl : l' = l
      · simp [hl, hfree, Ne.symm hj]
      · simp [hl]
    · by_cases hl : l = C.gate
      · simp [hl, Ne.symm hj] at hgate
      · rw [Function.update_of_ne (Ne.symm hl)] at hgate
        exact hfits.entered hgate
  refine ⟨h.fits_update hmine hothers, fun l' hl' => ?_, h.run, fun hgate => ?_⟩
  · by_cases hl : l' = l
    · simp [hl] at hl'
    · exact h.inv l' (by simpa [hl] using hl')
  · by_cases hl : l = C.gate
    · simp [hl] at hgate
    · exact h.free (by simpa [Ne.symm hl] using hgate)

/-- With the gate the next call of the thread joins the trace. -/
theorem step_unlock (h : Ordered C effect s₀ calls trace c) {l : Lock}
    {k : Unit → LockProg Lock Act Resp α}
    (hprog : c.prog i = .act (.unlock l) k) (hown : c.owner l = some i) :
    ∃ trace', Ordered C effect s₀ calls trace'
      ⟨c.state, Function.update c.owner l none, Function.update c.prog i (k ())⟩ := by
  obtain ⟨w, hw⟩ := h.fits i
  have hserves := hw.serves
  rw [hprog] at hserves
  obtain ⟨-, hrest⟩ := hserves
  obtain ⟨hinv, w', ⟨hheld, hgive⟩, hk⟩ := hrest c.state Rely.refl
  have hmem : ∀ l', l' ∈ w'.held ↔ Function.update c.owner l none l' = some i := by
    intro l'
    rw [hheld]
    by_cases hl : l' = l
    · simp [hl]
    · simp [hl, hw.held l']
  have hmemOther : ∀ {j l'}, j ≠ i →
      (c.owner l' = some j ↔ Function.update c.owner l none l' = some j) := by
    intro j l' hj
    by_cases hl : l' = l
    · simp [hl, hown, Ne.symm hj]
    · simp [hl]
  have hinv' : ∀ l', Function.update c.owner l none l' = none → C.inv l' c.state := by
    intro l' hl'
    by_cases hl : l' = l
    · exact hl ▸ hinv
    · exact h.inv l' (by simpa [hl] using hl')
  by_cases hl : l = C.gate
  · rw [if_pos hl] at hgive
    obtain ⟨call, s₁, hentered, heffect, hcalls⟩ := hgive
    obtain rfl : s₁ = endState s₀ trace := by
      rw [hw.entered (hl ▸ hown)] at hentered
      exact (Option.some.inj hentered).symm
    have hgateFree : ∀ {j}, Function.update c.owner l none C.gate ≠ some j := by simp [hl]
    refine ⟨trace ++ [((i, call), c.state)],
      h.fits_update ⟨hmem, hk, fun hgate => absurd hgate hgateFree, ?_⟩ ?_, hinv',
      h.run.concat heffect, fun _ => (endState_concat _ _ _ _).symm⟩
    · rw [callsOf_concat, if_pos rfl, hw.order, hcalls, List.append_assoc]
      rfl
    · intro j w p hj hfits
      refine ⟨fun l' => (hfits.held l').trans (hmemOther hj), hfits.serves,
        fun hgate => absurd hgate hgateFree, ?_⟩
      rw [callsOf_concat, if_neg (Ne.symm hj), List.append_nil]
      exact hfits.order
  · rw [if_neg hl] at hgive
    obtain ⟨hentered, hcalls⟩ := hgive
    have hgateSame : Function.update c.owner l none C.gate = c.owner C.gate :=
      Function.update_of_ne (Ne.symm hl) _ _
    refine ⟨trace, h.fits_update ⟨hmem, hk, fun hgate => ?_, ?_⟩ ?_, hinv', h.run,
      fun hgate => h.free (hgateSame ▸ hgate)⟩
    · rw [hentered]
      exact hw.entered (hgateSame ▸ hgate)
    · rw [hcalls]
      exact hw.order
    · intro j w p hj hfits
      exact ⟨fun l' => (hfits.held l').trans (hmemOther hj), hfits.serves,
        fun hgate => hfits.entered (hgateSame ▸ hgate), hfits.order⟩

/-- An access is behind the locks that it needs, so no other thread is disturbed. -/
theorem step_act (h : Ordered C effect s₀ calls trace c) {x : Act}
    {k : Resp x → LockProg Lock Act Resp α} {r : Resp x} {s' : State}
    (hprog : c.prog i = .act (.act x) k) (hnext : C.next c.state x r = some s') :
    Ordered C effect s₀ calls trace ⟨s', c.owner, Function.update c.prog i (k r)⟩ := by
  obtain ⟨w, hw⟩ := h.fits i
  have hserves := hw.serves
  rw [hprog] at hserves
  obtain ⟨hneeds, hrest⟩ := hserves
  have hmine : ∀ l ∈ C.needs x, c.owner l = some i := fun l hl => (hw.held l).mp (hneeds hl)
  refine ⟨h.fits_update ⟨hw.held, (hrest c.state Rely.refl).2 r s' hnext, hw.entered, hw.order⟩
    ?_, fun l hl => ?_, h.run, fun hgate => ?_⟩
  · intro j w p hj hfits
    have hdisjoint : Disjoint (C.needs x) w.held := by
      refine Set.disjoint_left.mpr fun l hl hheld => hj ?_
      have howner := (hfits.held l).mp hheld
      rw [hmine l hl] at howner
      exact (Option.some.inj howner).symm
    exact ⟨hfits.held, hfits.serves.rely (fun _ _ _ _ hdone => hdone)
      (Rely.tail Rely.refl hdisjoint hnext), hfits.entered, hfits.order⟩
  · refine C.inv_next (fun hneed => ?_) (h.inv l hl) hnext
    rw [hmine l hneed] at hl
    cases hl
  · have hread : C.gate ∉ C.needs x := by
      intro hneed
      rw [hmine _ hneed] at hgate
      cases hgate
    rw [C.read_only hread hnext]
    exact h.free hgate

theorem step (h : Ordered C effect s₀ calls trace c) (hstep : Step C c i c') :
    ∃ trace', Ordered C effect s₀ calls trace' c' := by
  cases hstep with
  | lock hprog hfree => exact ⟨trace, h.step_lock hprog hfree⟩
  | unlock hprog hown => exact h.step_unlock hprog hown
  | act hprog hnext => exact ⟨trace, h.step_act hprog hnext⟩

/-- The thread waits for a lock that is taken: for the gate when it has none itself, for
another lock when it has the gate. -/
def Waits (C : Guarded Lock Act Resp State) (c : Config ι Lock Act Resp State α) (i : ι)
    (l : Lock) : Prop :=
  c.owner l ≠ none ∧
    if l = C.gate then ∀ l', c.owner l' ≠ some i else c.owner C.gate = some i ∧ c.owner l ≠ some i

/-- A thread is done and has no lock, can move, or waits for a lock. -/
theorem done_or_step_or_waits (h : Ordered C effect s₀ calls trace c) (i : ι) :
    ((∃ a, c.prog i = .ret a) ∧ ∀ l, c.owner l ≠ some i) ∨ (∃ c', Step C c i c') ∨
      ∃ l, Waits C c i l := by
  obtain ⟨w, hw⟩ := h.fits i
  have hserves := hw.serves
  cases hprog : c.prog i with
  | ret a =>
      rw [hprog] at hserves
      refine Or.inl ⟨⟨a, rfl⟩, fun l hl => ?_⟩
      have hheld := (hw.held l).mpr hl
      rw [hserves.1] at hheld
      cases hheld
  | act x k =>
      rw [hprog] at hserves
      refine Or.inr ?_
      cases x with
      | lock l =>
          by_cases hfree : c.owner l = none
          · exact Or.inl ⟨_, Step.lock hprog hfree⟩
          · refine Or.inr ⟨l, hfree, ?_⟩
            have hmay := hserves.1
            unfold MayLock at hmay
            split at hmay
            · rename_i hl
              rw [if_pos hl]
              intro l' hl'
              have hheld := (hw.held l').mpr hl'
              rw [hmay] at hheld
              cases hheld
            · rename_i hl
              rw [if_neg hl]
              exact ⟨(hw.held _).mp hmay.1, fun hmine => hmay.2 ((hw.held l).mpr hmine)⟩
      | unlock l => exact Or.inl ⟨_, Step.unlock hprog ((hw.held l).mp hserves.1)⟩
      | act x =>
          obtain ⟨⟨r, s', hnext⟩, -⟩ := hserves.2 c.state Rely.refl
          exact Or.inl ⟨_, Step.act hprog hnext⟩

/-- A thread that has a lock but not the gate waits for nobody. -/
theorem exists_step_of_behind (h : Ordered C effect s₀ calls trace c) {l : Lock}
    (hown : c.owner l = some i) (hgate : c.owner C.gate ≠ some i) : ∃ c', Step C c i c' := by
  obtain ⟨-, hnone⟩ | hstep | ⟨l', -, hwaits⟩ := h.done_or_step_or_waits i
  · exact absurd hown (hnone l)
  · exact hstep
  · split at hwaits
    · exact absurd hown (hwaits l)
    · exact absurd hwaits.1 hgate

/-- The owner of a lock that the thread with the gate waits for. -/
theorem exists_step_of_waits (h : Ordered C effect s₀ calls trace c) {l : Lock}
    (hne : l ≠ C.gate) (hwaits : Waits C c i l) : ∃ j c', Step C c j c' := by
  obtain ⟨htaken, hmine⟩ := hwaits
  rw [if_neg hne] at hmine
  obtain ⟨j, hj⟩ := Option.ne_none_iff_exists'.mp htaken
  refine ⟨j, h.exists_step_of_behind hj fun hgate => hmine.2 ?_⟩
  rw [hmine.1] at hgate
  rw [hj, Option.some.inj hgate]

/-- As long as some thread is not done, some thread can move. -/
theorem exists_step (h : Ordered C effect s₀ calls trace c)
    (hleft : ∃ i, ∀ a, c.prog i ≠ .ret a) : ∃ i c', Step C c i c' := by
  obtain ⟨i, hi⟩ := hleft
  obtain ⟨⟨a, ha⟩, -⟩ | ⟨c', hc'⟩ | ⟨l, hwaits⟩ := h.done_or_step_or_waits i
  · exact absurd ha (hi a)
  · exact ⟨i, c', hc'⟩
  by_cases hl : l = C.gate
  swap
  · exact h.exists_step_of_waits hl hwaits
  -- everybody may wait for the thread that has the gate, and that one waits for no gate
  obtain ⟨j, hj⟩ := Option.ne_none_iff_exists'.mp hwaits.1
  rw [hl] at hj
  obtain ⟨-, hnone⟩ | ⟨c', hc'⟩ | ⟨l', hwaits'⟩ := h.done_or_step_or_waits j
  · exact absurd hj (hnone _)
  · exact ⟨j, c', hc'⟩
  · refine h.exists_step_of_waits (fun hl' => ?_) hwaits'
    have hnone := hwaits'.2
    rw [if_pos hl'] at hnone
    exact hnone _ hj

/-- What a thread is about to access is behind locks that the thread has. -/
theorem owner_of_access (h : Ordered C effect s₀ calls trace c) {x : Act}
    {k : Resp x → LockProg Lock Act Resp α}
    (hprog : c.prog i = .act (.act x) k) :
    (∀ l ∈ C.needs x, c.owner l = some i) ∧ ∃ r s', C.next c.state x r = some s' := by
  obtain ⟨w, hw⟩ := h.fits i
  have hserves := hw.serves
  rw [hprog] at hserves
  exact ⟨fun l hl => (hw.held l).mp (hserves.1 hl), (hserves.2 c.state Rely.refl).1⟩

end Ordered

/-- Threads that start with all locks free. -/
def start (s₀ : State) (prog : ι → LockProg Lock Act Resp α) :
    Config ι Lock Act Resp State α := ⟨s₀, fun _ => none, prog⟩

theorem ordered_start {prog : ι → LockProg Lock Act Resp α}
    (hinv : ∀ l, C.inv l s₀)
    (hserves : ∀ i, C.Serves effect (prog i) Done ⟨∅, none, calls i⟩ s₀) :
    Ordered C effect s₀ calls [] (start s₀ prog) where
  fits i := ⟨⟨∅, none, calls i⟩, fun l => by simp [start], hserves i, nofun, rfl⟩
  inv l _ := hinv l
  run := Run.done s₀
  free _ := rfl

/-- The invariant holds wherever a run of the threads leads. -/
theorem ordered_endState {steps : List (ι × Config ι Lock Act Resp State α)}
    (hrun : Run (Step C) c steps) (h : ∃ trace, Ordered C effect s₀ calls trace c) :
    ∃ trace, Ordered C effect s₀ calls trace (endState c steps) := by
  have hkeep : ∀ (c : Config ι Lock Act Resp State α) i c',
      (∃ trace, Ordered C effect s₀ calls trace c) → Step C c i c' →
        ∃ trace, Ordered C effect s₀ calls trace c' :=
    fun c i c' ⟨_, hordered⟩ hstep => hordered.step hstep
  exact hrun.inv_endState hkeep h

/-! ## Runs from a schedule -/

/-- The next action of the thread, with the answer of an oracle. -/
def move (C : Guarded Lock Act Resp State) (oracle : State → (x : Act) → Resp x)
    (c : Config ι Lock Act Resp State α) (i : ι) : Option (Config ι Lock Act Resp State α) :=
  match c.prog i with
  | .ret _ => none
  | .act (.lock l) k =>
      if c.owner l = none then
        some ⟨c.state, Function.update c.owner l (some i), Function.update c.prog i (k ())⟩
      else none
  | .act (.unlock l) k =>
      if c.owner l = some i then
        some ⟨c.state, Function.update c.owner l none, Function.update c.prog i (k ())⟩
      else none
  | .act (.act x) k =>
      (C.next c.state x (oracle c.state x)).map fun s' =>
        ⟨s', c.owner, Function.update c.prog i (k (oracle c.state x))⟩

theorem step_of_move {oracle : State → (x : Act) → Resp x} (h : move C oracle c i = some c') :
    Step C c i c' := by
  unfold move at h
  split at h
  · cases h
  · rename_i l k hprog
    split at h
    · rename_i hfree
      obtain rfl := Option.some.inj h
      exact Step.lock hprog hfree
    · cases h
  · rename_i l k hprog
    split at h
    · rename_i hown
      obtain rfl := Option.some.inj h
      exact Step.unlock hprog hown
    · cases h
  · rename_i x k hprog
    obtain ⟨s', hnext, rfl⟩ := Option.map_eq_some_iff.mp h
    exact Step.act hprog hnext

/-- The run in which the threads move in this order, up to the first one that cannot. -/
def play (C : Guarded Lock Act Resp State) (oracle : State → (x : Act) → Resp x) :
    List ι → Config ι Lock Act Resp State α → List (ι × Config ι Lock Act Resp State α)
  | [], _ => []
  | i :: schedule, c =>
      match move C oracle c i with
      | none => []
      | some c' => (i, c') :: play C oracle schedule c'

theorem run_play {oracle : State → (x : Act) → Resp x} (schedule : List ι)
    (c : Config ι Lock Act Resp State α) : Run (Step C) c (play C oracle schedule c) := by
  induction schedule generalizing c with
  | nil => exact Run.done c
  | cons i schedule ih =>
      unfold play
      split
      · exact Run.done c
      · rename_i c' hmove
        exact Run.next (step_of_move hmove) (ih c')

end Config

end Library
end DeviceAndroVM
