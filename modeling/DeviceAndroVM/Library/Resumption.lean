import Mathlib.Logic.Relation

/-!
# Programs whose actions interleave with an environment

A program is a tree of actions on a shared state: each action gives a response, and
the rest of the program depends on it.  Between two actions the environment may take
any number of steps.

* `Prog` — programs, with `perform` and the monad's `bind`.
* `wp` — the weakest precondition of a program for a step relation and an invariant
  that every action keeps.
* `Prog.Only` — the actions a program can perform at all.
* `Interleaved` — an action after any steps of the environment.
* `wp_env` — the precondition survives the environment's steps.
* `Triple` — pre- and postconditions that the environment does not disturb, with one
  rule for each way a program is built.
-/

namespace DeviceAndroVM
namespace Library

universe u

/-- A program: it returns, or performs an action and goes on with the response. -/
inductive Prog (Act : Type) (Resp : Act → Type) (α : Type)
  | ret (a : α)
  | act (x : Act) (k : Resp x → Prog Act Resp α)

variable {Act : Type} {Resp : Act → Type} {α β : Type}

namespace Prog

/-- One program after the other. -/
def bind : Prog Act Resp α → (α → Prog Act Resp β) → Prog Act Resp β
  | ret a, f => f a
  | act x k, f => act x fun r => (k r).bind f

instance : Monad (Prog Act Resp) where
  pure := ret
  bind := bind

/-- The program that performs one action. -/
def perform (x : Act) : Prog Act Resp (Resp x) := act x ret

end Prog

open Prog

/-! ## Weakest preconditions -/

variable {State : Type u} {step : (x : Act) → State → Resp x → State → Prop}
  {Inv : State → Prop} {Q R : α → State → Prop} {s : State}

/-- From `s`, every action of the program leads into `Inv`, and what it returns meets
`Q`. -/
def wp (step : (x : Act) → State → Resp x → State → Prop) (Inv : State → Prop) :
    Prog Act Resp α → (α → State → Prop) → State → Prop
  | .ret a, Q, s => Q a s
  | .act x k, Q, s => ∀ r s', step x s r s' → Inv s' ∧ wp step Inv (k r) Q s'

theorem wp_mono {p : Prog Act Resp α} (himp : ∀ a s, Q a s → R a s)
    (h : wp step Inv p Q s) : wp step Inv p R s := by
  induction p generalizing s with
  | ret a => exact himp a s h
  | act x k ih =>
      intro r s' hstep
      obtain ⟨hinv, hrest⟩ := h r s' hstep
      exact ⟨hinv, ih r hrest⟩

theorem wp_inv {Inv' : State → Prop} {p : Prog Act Resp α} (himp : ∀ s, Inv s → Inv' s)
    (h : wp step Inv p Q s) : wp step Inv' p Q s := by
  induction p generalizing s with
  | ret a => exact h
  | act x k ih =>
      intro r s' hstep
      obtain ⟨hinv, hrest⟩ := h r s' hstep
      exact ⟨himp s' hinv, ih r hrest⟩

/-- Every program has a postcondition that always holds, when every action leads into the
invariant. -/
theorem wp_of_forall {p : Prog Act Resp α} (hstep : ∀ x s r s', step x s r s' → Inv s')
    (hQ : ∀ a s, Q a s) : wp step Inv p Q s := by
  induction p generalizing s with
  | ret a => exact hQ a s
  | act x k ih => exact fun r s' hact => ⟨hstep x s r s' hact, ih r⟩

theorem wp_bind (p : Prog Act Resp β) (f : β → Prog Act Resp α) :
    wp step Inv (p >>= f) Q s ↔ wp step Inv p (fun b s => wp step Inv (f b) Q s) s := by
  induction p generalizing s with
  | ret b => exact Iff.rfl
  | act x k ih =>
      constructor
      · intro h r s' hstep
        exact (h r s' hstep).imp_right (ih r).mp
      · intro h r s' hstep
        exact (h r s' hstep).imp_right (ih r).mpr

@[simp] theorem wp_pure (a : α) : wp step Inv (pure a : Prog Act Resp α) Q s ↔ Q a s := Iff.rfl

/-- Every action the program can perform is one of `S`. -/
def Prog.Only (S : Act → Prop) : Prog Act Resp α → Prop
  | .ret _ => True
  | .act x k => S x ∧ ∀ r, (k r).Only S

theorem Prog.Only.bind {S : Act → Prop} {p : Prog Act Resp β} {f : β → Prog Act Resp α}
    (hp : p.Only S) (hf : ∀ b, (f b).Only S) : (p >>= f).Only S := by
  induction p with
  | ret b => exact hf b
  | act x k ih => exact ⟨hp.1, fun r => ih r (hp.2 r)⟩

theorem Prog.Only.mono {S S' : Act → Prop} (h : ∀ x, S x → S' x) {p : Prog Act Resp α}
    (hp : p.Only S) : p.Only S' := by
  induction p with
  | ret a => exact trivial
  | act x k ih => exact ⟨h x hp.1, fun r => ih r (hp.2 r)⟩

/-- A program whose actions all keep `J` keeps it. -/
theorem wp_of_only {S : Act → Prop} {J : State → Prop} {p : Prog Act Resp α} (hp : p.Only S)
    (hkeep : ∀ x s r s', S x → J s → step x s r s' → Inv s' ∧ J s') (hJ : J s) :
    wp step Inv p (fun _ s => J s) s := by
  induction p generalizing s with
  | ret a => exact hJ
  | act x k ih =>
      intro r s' hstep
      obtain ⟨hinv, hJ'⟩ := hkeep x s r s' hp.1 hJ hstep
      exact ⟨hinv, ih r (hp.2 r) hJ'⟩

/-! ## Interleaving -/

variable {env : State → State → Prop}

/-- The environment takes some steps, and then the action is performed. -/
def Interleaved (env : State → State → Prop)
    (step : (x : Act) → State → Resp x → State → Prop) (x : Act) (s : State) (r : Resp x)
    (s' : State) : Prop :=
  ∃ mid, Relation.ReflTransGen env s mid ∧ step x mid r s'

/-- The environment does not disturb the predicate. -/
def Stable (env : State → State → Prop) (P : State → Prop) : Prop :=
  ∀ s s', env s s' → P s → P s'

theorem Stable.star {P : State → Prop} (h : Stable env P) {s s' : State}
    (hsteps : Relation.ReflTransGen env s s') (hP : P s) : P s' := by
  induction hsteps with
  | refl => exact hP
  | tail _ hlast ih => exact h _ _ hlast ih

/-- A step of the environment keeps the precondition of the rest of the program. -/
theorem wp_env {p : Prog Act Resp α} (hQ : ∀ a, Stable env (Q a)) {s' : State}
    (henv : env s s') (h : wp (Interleaved env step) Inv p Q s) :
    wp (Interleaved env step) Inv p Q s' := by
  cases p with
  | ret a => exact hQ a s s' henv h
  | act x k =>
      rintro r s'' ⟨mid, hsteps, hstep⟩
      exact h r s'' ⟨mid, Relation.ReflTransGen.head henv hsteps, hstep⟩

/-- An action performed now, with no more steps of the environment. -/
theorem wp_step {x : Act} {k : Resp x → Prog Act Resp α} {r : Resp x} {s' : State}
    (h : wp (Interleaved env step) Inv (.act x k) Q s) (hstep : step x s r s') :
    Inv s' ∧ wp (Interleaved env step) Inv (k r) Q s' :=
  h r s' ⟨s, Relation.ReflTransGen.refl, hstep⟩

/-! ## Triples -/

/-- From every state of `P`, however the environment interleaves, every action leads into
`Inv` and what the program returns meets `Q`. -/
def Triple (env : State → State → Prop) (step : (x : Act) → State → Resp x → State → Prop)
    (Inv : State → Prop) (P : State → Prop) (p : Prog Act Resp α) (Q : α → State → Prop) : Prop :=
  ∀ s, P s → wp (Interleaved env step) Inv p Q s

namespace Triple

variable {P P' : State → Prop}

theorem pure {a : α} (h : ∀ s, P s → Q a s) :
    Triple env step Inv P (Pure.pure a : Prog Act Resp α) Q := h

theorem bind {p : Prog Act Resp β} {f : β → Prog Act Resp α} {M : β → State → Prop}
    (hp : Triple env step Inv P p M) (hf : ∀ b, Triple env step Inv (M b) (f b) Q) :
    Triple env step Inv P (p >>= f) Q := by
  intro s hs
  rw [wp_bind]
  exact wp_mono (fun b s => hf b s) (hp s hs)

theorem perform {x : Act} {Q : Resp x → State → Prop} (hstable : Stable env P)
    (hstep : ∀ s r s', P s → step x s r s' → Inv s' ∧ Q r s') :
    Triple env step Inv P (Prog.perform x) Q := by
  rintro s hs r s' ⟨mid, hsteps, hact⟩
  exact hstep mid r s' (hstable.star hsteps hs) hact

theorem consequence {p : Prog Act Resp α} (hpre : ∀ s, P s → P' s)
    (hpost : ∀ a s, R a s → Q a s) (h : Triple env step Inv P' p R) :
    Triple env step Inv P p Q :=
  fun s hs => wp_mono hpost (h s (hpre s hs))

theorem pre {p : Prog Act Resp α} (hpre : ∀ s, P s → P' s)
    (h : Triple env step Inv P' p Q) : Triple env step Inv P p Q :=
  h.consequence hpre fun _ _ hQ => hQ

theorem ite {b : Bool} {p q : Prog Act Resp α}
    (htrue : b = true → Triple env step Inv P p Q)
    (hfalse : b = false → Triple env step Inv P q Q) :
    Triple env step Inv P (if b then p else q) Q := by
  cases b with
  | true => exact htrue rfl
  | false => exact hfalse rfl

theorem dite {c : Prop} [Decidable c] {p q : Prog Act Resp α}
    (htrue : c → Triple env step Inv P p Q) (hfalse : ¬c → Triple env step Inv P q Q) :
    Triple env step Inv P (if c then p else q) Q := by
  by_cases hc : c
  · rw [if_pos hc]
    exact htrue hc
  · rw [if_neg hc]
    exact hfalse hc

end Triple

end Library
end DeviceAndroVM
