import DeviceAndroVM.Library.Resumption
import DeviceAndroVM.Library.Transition

/-!
# Programs that loop

A program that runs its body again and again, each time with what the last turn returned, until
a turn returns `none`.  A run is one of single actions, so that it may end in the middle of a
turn.  What an action leads to is a function of the state and the response.

* `LoopStep` — one action, or the start of the next turn.
* `loop_always`, `loop_always_turns` — what every turn keeps is kept by the loop, in every run
  whose actions meet a condition.
* `play` — the run in which an oracle gives the responses.
-/

namespace DeviceAndroVM
namespace Library

universe u

variable {Act : Type} {Resp : Act → Type} {σ : Type} {State : Type u}

/-- What a step of a loop does: an action with its response, or the start of a turn. -/
inductive LoopLabel (Act : Type) (Resp : Act → Type)
  | act (x : Act) (r : Resp x)
  | again

/-- The program performs its next action, or has ended its turn and begins the next one. -/
inductive LoopStep (next : State → (x : Act) → Resp x → Option State)
    (body : σ → Prog Act Resp (Option σ)) :
    State × Prog Act Resp (Option σ) → LoopLabel Act Resp →
      State × Prog Act Resp (Option σ) → Prop
  | act {x : Act} {k : Resp x → Prog Act Resp (Option σ)} {s s' : State} {r : Resp x}
      (hstep : next s x r = some s') : LoopStep next body (s, .act x k) (.act x r) (s', k r)
  | again (a : σ) (s : State) : LoopStep next body (s, .ret (some a)) .again (s, body a)

/-- The condition holds of every action of a run. -/
def LoopCond (cond : State → (x : Act) → Resp x → Prop) (c : State × Prog Act Resp (Option σ)) :
    LoopLabel Act Resp → State × Prog Act Resp (Option σ) → Prop
  | .act x r, _ => cond c.1 x r
  | .again, _ => True

instance decidableLoopCond (cond : State → (x : Act) → Resp x → Prop)
    [∀ s x r, Decidable (cond s x r)] (c : State × Prog Act Resp (Option σ)) :
    ∀ l c', Decidable (LoopCond cond c l c')
  | .act x r, _ => inferInstanceAs (Decidable (cond c.1 x r))
  | .again, _ => isTrue trivial

/-- The actions that meet the condition. -/
def meets (cond : State → (x : Act) → Resp x → Prop)
    (next : State → (x : Act) → Resp x → Option State) (x : Act) (s : State) (r : Resp x)
    (s' : State) : Prop :=
  cond s x r ∧ next s x r = some s'

/-- The precondition `J` of a turn is its postcondition: then the invariant of the actions holds
in every state of the loop, and `J` wherever a turn ends. -/
theorem loop_always_turns {next : State → (x : Act) → Resp x → Option State}
    {cond : State → (x : Act) → Resp x → Prop} {body : σ → Prog Act Resp (Option σ)}
    {Inv : State → Prop} {J : σ → State → Prop} {a : σ} {s : State}
    {trace : List (LoopLabel Act Resp × (State × Prog Act Resp (Option σ)))}
    (hbody : ∀ a s, J a s → wp (meets cond next) Inv (body a) (fun o s => ∀ b ∈ o, J b s) s)
    (hrun : Run (LoopStep next body) (s, body a) trace)
    (hcond : EachStep (LoopCond cond) (s, body a) trace) (hinv : Inv s) (hstart : J a s) :
    Always (fun c => Inv c.1 ∧ ∀ b, c.2 = .ret (some b) → J b c.1) trace := by
  have hkeep : ∀ (c : State × Prog Act Resp (Option σ)) (l : LoopLabel Act Resp)
      (c' : State × Prog Act Resp (Option σ)),
      (Inv c.1 ∧ wp (meets cond next) Inv c.2 (fun o s => ∀ b ∈ o, J b s) c.1) →
      (LoopCond cond c l c' ∧ LoopStep next body c l c') →
      Inv c'.1 ∧ wp (meets cond next) Inv c'.2 (fun o s => ∀ b ∈ o, J b s) c'.1 := by
    rintro c l c' ⟨hinv, hwp⟩ ⟨hmeets, hstep⟩
    cases hstep with
    -- what is left of the turn keeps its precondition; a new turn begins with `J`
    | act hact => exact hwp _ _ ⟨hmeets, hact⟩
    | again b s => exact ⟨hinv, hbody b s (hwp b rfl)⟩
  have hall := (hrun.and_eachStep hcond).always hkeep ⟨hinv, hbody a s hstart⟩
  refine hall.imp fun c h => ⟨h.1, fun b hb => ?_⟩
  obtain ⟨s, p⟩ := c
  cases hb
  exact h.2 b rfl

theorem loop_always {next : State → (x : Act) → Resp x → Option State}
    {cond : State → (x : Act) → Resp x → Prop} {body : σ → Prog Act Resp (Option σ)}
    {Inv : State → Prop} {J : σ → State → Prop} {a : σ} {s : State}
    {trace : List (LoopLabel Act Resp × (State × Prog Act Resp (Option σ)))}
    (hbody : ∀ a s, J a s → wp (meets cond next) Inv (body a) (fun o s => ∀ b ∈ o, J b s) s)
    (hrun : Run (LoopStep next body) (s, body a) trace)
    (hcond : EachStep (LoopCond cond) (s, body a) trace) (hinv : Inv s) (hstart : J a s) :
    Always (fun c => Inv c.1) trace :=
  (loop_always_turns hbody hrun hcond hinv hstart).imp fun _ h => h.1

/-! ## Runs from an oracle -/

/-- The run of at most `n` steps in which `oracle i` answers the action of step `i`; it ends
before an action that has no result. -/
def play (next : State → (x : Act) → Resp x → Option State)
    (body : σ → Prog Act Resp (Option σ)) (oracle : Nat → (x : Act) → Resp x) :
    Nat → Nat → State × Prog Act Resp (Option σ) →
      List (LoopLabel Act Resp × (State × Prog Act Resp (Option σ)))
  | 0, _, _ => []
  | n + 1, i, (s, .act x k) =>
      match next s x (oracle i x) with
      | none => []
      | some s' =>
          (.act x (oracle i x), (s', k (oracle i x))) ::
            play next body oracle n (i + 1) (s', k (oracle i x))
  | n + 1, i, (s, .ret (some a)) =>
      (.again, (s, body a)) :: play next body oracle n (i + 1) (s, body a)
  | _ + 1, _, (_, .ret none) => []

theorem run_play (next : State → (x : Act) → Resp x → Option State)
    (body : σ → Prog Act Resp (Option σ)) (oracle : Nat → (x : Act) → Resp x) (n i : Nat)
    (c : State × Prog Act Resp (Option σ)) :
    Run (LoopStep next body) c (play next body oracle n i c) := by
  induction n generalizing i c with
  | zero => exact Run.done c
  | succ n ih =>
      obtain ⟨s, p⟩ := c
      cases p with
      | act x k =>
          unfold play
          split
          · exact Run.done _
          · rename_i s' hnext
            exact Run.next (LoopStep.act hnext) (ih _ _)
      | ret o =>
          cases o with
          | none => exact Run.done _
          | some a => exact Run.next (LoopStep.again a s) (ih _ _)

end Library
end DeviceAndroVM
