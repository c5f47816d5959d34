import Mathlib.Logic.Relation

/-!
# Loops that end

A loop of the source is given by its body: one iteration goes on from a new state, or leaves
the loop with a result.

* `Iteration` — what one iteration does.
* `WhileRun` — the loop from a state to its result; there is such a run only if it ends.
* `WhileRun.unique` — the result of a loop depends on nothing but its first state.
* `Reaches` — the states that iterations lead to, also those of a loop that does not end.
* `Reaches.invariant` — the induction over them.
* `WhileRun.leave_iff`, `WhileRun.again_iff` — the loop from a state whose iteration is known.
-/

namespace DeviceAndroVM
namespace Library

universe u v

variable {σ : Type u} {ρ : Type v}

/-- What one iteration of a loop does. -/
inductive Iteration (σ : Type u) (ρ : Type v)
  | again (s : σ)
  | leave (result : ρ)

/-- The iterations from a state on, up to the one that leaves the loop. -/
inductive WhileRun (body : σ → Iteration σ ρ) : σ → ρ → Prop
  | leave {s : σ} {result : ρ} (h : body s = .leave result) : WhileRun body s result
  | again {s s' : σ} {result : ρ} (h : body s = .again s') (rest : WhileRun body s' result) :
      WhileRun body s result

variable {body : σ → Iteration σ ρ}

theorem WhileRun.unique {s : σ} {a b : ρ} (ha : WhileRun body s a) (hb : WhileRun body s b) :
    a = b := by
  induction ha with
  | leave h =>
      cases hb with
      | leave h' => exact Iteration.leave.inj (h.symm.trans h')
      | again h' _ => cases h.symm.trans h'
  | again h _ ih =>
      cases hb with
      | leave h' => cases h.symm.trans h'
      | again h' rest =>
          cases h.symm.trans h'
          exact ih rest

theorem WhileRun.leave_iff {s : σ} {result result' : ρ} (h : body s = .leave result) :
    WhileRun body s result' ↔ result' = result := by
  constructor
  · intro hrun
    exact hrun.unique (.leave h)
  · rintro rfl
    exact .leave h

theorem WhileRun.again_iff {s s' : σ} {result : ρ} (h : body s = .again s') :
    WhileRun body s result ↔ WhileRun body s' result := by
  constructor
  · intro hrun
    cases hrun with
    | leave h' => cases h.symm.trans h'
    | again h' rest =>
        cases h.symm.trans h'
        exact rest
  · exact .again h

/-- The states in front of the iterations of a loop. -/
def Reaches (body : σ → Iteration σ ρ) : σ → σ → Prop :=
  Relation.ReflTransGen fun s s' => body s = .again s'

/-- What every iteration keeps holds in every state that the loop gets to. -/
theorem Reaches.invariant {Inv : σ → Prop} (hkeep : ∀ s s', Inv s → body s = .again s' → Inv s')
    {s s' : σ} (h : Reaches body s s') (hs : Inv s) : Inv s' := by
  induction h with
  | refl => exact hs
  | tail _ hlast ih => exact hkeep _ _ ih hlast

/-- A loop ends in a state that it gets to. -/
theorem WhileRun.exists_reaches {s : σ} {result : ρ} (h : WhileRun body s result) :
    ∃ s', Reaches body s s' ∧ body s' = .leave result := by
  induction h with
  | @leave s _ h => exact ⟨s, .refl, h⟩
  | again h _ ih =>
      obtain ⟨s', hreach, hleave⟩ := ih
      exact ⟨s', .head h hreach, hleave⟩

end Library
end DeviceAndroVM
