import Mathlib.Data.List.Basic

/-!
# Runs of labelled transition systems

A component is given by a step relation `step before label after`.  A run is
recorded as the list of its labels, each paired with the state that label led
to, so "after every completed call" is a statement about the entries of that
list.

* `Run` — the traces a step relation allows from a state.
* `Always` — a property of every state the trace reaches.
* `EachStep` — a relation between the states around every single step.
* `endState` — where the trace leads; `Run.endState_of_history` is the induction over what
  has happened so far.
* `Run.simulate` — runs that are followed by the runs of another system.
* `Run.always_of_eachStep` / `Run.eachStep_of_eachStep` — induction over runs:
  an invariant kept by every step that meets a condition.
* `Run.always_iff_eachStep` / `Run.eachStep_iff_eachStep` — the exact form: if a
  step that violates the condition also violates the property, then a run keeps
  the property exactly when all its steps meet the condition.
-/

namespace DeviceAndroVM
namespace Library

universe u v

variable {State : Type u} {Label : Type v}

/-- `Run step s trace`: starting in `s`, the labels of `trace` can be taken one
after the other, each leading to the state it is paired with. -/
inductive Run (step : State → Label → State → Prop) :
    State → List (Label × State) → Prop
  | done (s : State) : Run step s []
  | next {s s' : State} {a : Label} {trace : List (Label × State)}
      (hstep : step s a s') (hrest : Run step s' trace) :
      Run step s ((a, s') :: trace)

/-- `P` holds in every state the trace reaches. -/
def Always (P : State → Prop) (trace : List (Label × State)) : Prop :=
  ∀ entry ∈ trace, P entry.2

/-- `Q` relates the states before and after every single step of the trace. -/
def EachStep (Q : State → Label → State → Prop) :
    State → List (Label × State) → Prop
  | _, [] => True
  | s, (a, s') :: trace => Q s a s' ∧ EachStep Q s' trace

@[simp] theorem always_nil (P : State → Prop) :
    Always P ([] : List (Label × State)) := by
  intro entry hmem
  cases hmem

@[simp] theorem always_cons (P : State → Prop) (a : Label) (s' : State)
    (trace : List (Label × State)) :
    Always P ((a, s') :: trace) ↔ P s' ∧ Always P trace := by
  simp [Always]

@[simp] theorem eachStep_nil (Q : State → Label → State → Prop) (s : State) :
    EachStep Q s [] := trivial

@[simp] theorem eachStep_cons (Q : State → Label → State → Prop) (s : State)
    (a : Label) (s' : State) (trace : List (Label × State)) :
    EachStep Q s ((a, s') :: trace) ↔ Q s a s' ∧ EachStep Q s' trace := Iff.rfl

instance decidableEachStep (Q : State → Label → State → Prop)
    [∀ s a s', Decidable (Q s a s')] :
    ∀ (s : State) (trace : List (Label × State)), Decidable (EachStep Q s trace)
  | _, [] => isTrue trivial
  | s, (a, s') :: trace =>
      have := decidableEachStep Q s' trace
      inferInstanceAs (Decidable (Q s a s' ∧ EachStep Q s' trace))

theorem EachStep.and {Q R : State → Label → State → Prop} {s : State}
    {trace : List (Label × State)} (hQ : EachStep Q s trace) (hR : EachStep R s trace) :
    EachStep (fun s a s' => Q s a s' ∧ R s a s') s trace := by
  induction trace generalizing s with
  | nil => exact eachStep_nil _ s
  | cons entry rest ih => exact ⟨⟨hQ.1, hR.1⟩, ih hQ.2 hR.2⟩

/-- A relation that depends on the labels only holds around every step when it
holds of every label. -/
theorem eachStep_of_forall {good : Label → Prop} {s : State}
    {trace : List (Label × State)} (h : ∀ entry ∈ trace, good entry.1) :
    EachStep (fun _ a _ => good a) s trace := by
  induction trace generalizing s with
  | nil => exact eachStep_nil _ s
  | cons entry rest ih =>
      exact ⟨h entry List.mem_cons_self,
        ih fun later hmem => h later (List.mem_cons_of_mem _ hmem)⟩

/-- The state a trace leads to. -/
def endState : State → List (Label × State) → State
  | s, [] => s
  | _, (_, s') :: trace => endState s' trace

@[simp] theorem endState_nil (s : State) : endState s ([] : List (Label × State)) = s := rfl

@[simp] theorem endState_cons (s : State) (a : Label) (s' : State)
    (trace : List (Label × State)) : endState s ((a, s') :: trace) = endState s' trace := rfl

@[simp] theorem endState_concat (s : State) (trace : List (Label × State)) (a : Label)
    (s' : State) : endState s (trace ++ [(a, s')]) = s' := by
  induction trace generalizing s with
  | nil => rfl
  | cons entry rest ih => exact ih entry.2

/-- The trace of a component whose calls are functions of the state. -/
def traceOf (f : State → Label → State) : State → List Label → List (Label × State)
  | _, [] => []
  | s, a :: rest => (a, f s a) :: traceOf f (f s a) rest

theorem run_traceOf (f : State → Label → State) (s : State) (labels : List Label) :
    Run (fun s a s' => s' = f s a) s (traceOf f s labels) := by
  induction labels generalizing s with
  | nil => exact Run.done s
  | cons a rest ih => exact Run.next rfl (ih (f s a))

@[simp] theorem map_fst_traceOf (f : State → Label → State) (s : State)
    (labels : List Label) : (traceOf f s labels).map Prod.fst = labels := by
  induction labels generalizing s with
  | nil => rfl
  | cons a rest ih => simp [traceOf, ih]

theorem forall_mem_traceOf {f : State → Label → State} {s : State} {labels : List Label}
    (good : Label → Prop) (h : ∀ a ∈ labels, good a) :
    ∀ entry ∈ traceOf f s labels, good entry.1 := by
  intro entry hmem
  have hlabel : entry.1 ∈ (traceOf f s labels).map Prod.fst := List.mem_map_of_mem hmem
  rw [map_fst_traceOf] at hlabel
  exact h _ hlabel

/-- The trace of a component whose calls are partial functions of the state: it
ends before the first call that has no result. -/
def partialTraceOf (f : State → Label → Option State) : State → List Label → List (Label × State)
  | _, [] => []
  | s, a :: rest =>
      match f s a with
      | none => []
      | some s' => (a, s') :: partialTraceOf f s' rest

theorem run_partialTraceOf (f : State → Label → Option State) (s : State)
    (labels : List Label) : Run (fun s a s' => f s a = some s') s (partialTraceOf f s labels) := by
  induction labels generalizing s with
  | nil => exact Run.done s
  | cons a rest ih =>
      unfold partialTraceOf
      split
      · exact Run.done s
      · rename_i s' hstep
        exact Run.next hstep (ih s')

theorem forall_mem_partialTraceOf {f : State → Label → Option State} {s : State}
    {labels : List Label} (good : Label → Prop) (h : ∀ a ∈ labels, good a) :
    ∀ entry ∈ partialTraceOf f s labels, good entry.1 := by
  induction labels generalizing s with
  | nil => simp [partialTraceOf]
  | cons a rest ih =>
      unfold partialTraceOf
      split
      · simp
      · intro entry hmem
        rcases List.mem_cons.mp hmem with rfl | hmem
        · exact h a List.mem_cons_self
        · exact ih (fun b hb => h b (List.mem_cons_of_mem a hb)) entry hmem

namespace Run

variable {step : State → Label → State → Prop} {cond : State → Label → Prop}
  {Inv P : State → Prop} {Q : State → Label → State → Prop}
  {s : State} {trace : List (Label × State)}

/-- A run whose labels all have a property is a run of the restricted relation. -/
theorem restrict (good : Label → Prop) (hrun : Run step s trace)
    (hgood : ∀ entry ∈ trace, good entry.1) :
    Run (fun s a s' => good a ∧ step s a s') s trace := by
  induction hrun with
  | done s => exact Run.done s
  | next hstep _ ih =>
      exact Run.next ⟨hgood _ List.mem_cons_self, hstep⟩
        (ih fun entry hmem => hgood entry (List.mem_cons_of_mem _ hmem))

/-- A run around whose steps a relation holds is a run of the relation's
restriction of the steps. -/
theorem and_eachStep (hrun : Run step s trace) (hQ : EachStep Q s trace) :
    Run (fun s a s' => Q s a s' ∧ step s a s') s trace := by
  induction hrun with
  | done s => exact Run.done s
  | next hstep _ ih => exact Run.next ⟨hQ.1, hstep⟩ (ih hQ.2)

/-- An invariant kept by every step that meets `cond` holds after every step of
a run whose steps all meet it. -/
theorem always_of_eachStep
    (hkeep : ∀ s a s', Inv s → cond s a → step s a s' → Inv s')
    (hrun : Run step s trace) (hinit : Inv s)
    (hcond : EachStep (fun s a _ => cond s a) s trace) : Always Inv trace := by
  induction hrun with
  | done s => exact always_nil Inv
  | next hstep _ ih =>
      obtain ⟨hhead, htail⟩ := hcond
      have hnext := hkeep _ _ _ hinit hhead hstep
      exact (always_cons _ _ _ _).mpr ⟨hnext, ih hnext htail⟩

/-- The relation `Q` holds around every step of a run whose steps all meet
`cond`, when the invariant makes it hold around one such step. -/
theorem eachStep_of_eachStep
    (hkeep : ∀ s a s', Inv s → cond s a → step s a s' → Inv s')
    (hQ : ∀ s a s', Inv s → cond s a → step s a s' → Q s a s')
    (hrun : Run step s trace) (hinit : Inv s)
    (hcond : EachStep (fun s a _ => cond s a) s trace) : EachStep Q s trace := by
  induction hrun with
  | done s => exact eachStep_nil Q s
  | next hstep _ ih =>
      obtain ⟨hhead, htail⟩ := hcond
      exact ⟨hQ _ _ _ hinit hhead hstep,
        ih (hkeep _ _ _ hinit hhead hstep) htail⟩

/-- An unconditional invariant holds after every step of every run. -/
theorem always
    (hkeep : ∀ s a s', Inv s → step s a s' → Inv s')
    (hrun : Run step s trace) (hinit : Inv s) : Always Inv trace := by
  induction hrun with
  | done s => exact always_nil Inv
  | next hstep _ ih =>
      have hnext := hkeep _ _ _ hinit hstep
      exact (always_cons _ _ _ _).mpr ⟨hnext, ih hnext⟩

/-- An unconditional invariant holds where a run leads. -/
theorem inv_endState
    (hkeep : ∀ s a s', Inv s → step s a s' → Inv s')
    (hrun : Run step s trace) (hinit : Inv s) : Inv (endState s trace) := by
  induction hrun with
  | done s => exact hinit
  | next hstep _ ih => exact ih (hkeep _ _ _ hinit hstep)

/-- One more step from where a run leads. -/
theorem concat {a : Label} {s' : State} (hrun : Run step s trace)
    (hstep : step (endState s trace) a s') : Run step s (trace ++ [(a, s')]) := by
  induction hrun with
  | done s => exact Run.next hstep (Run.done s')
  | next hfirst _ ih => exact Run.next hfirst (ih hstep)

/-- An invariant between what has happened and the state holds at the end of every run. -/
theorem endState_of_history {History : List Label → State → Prop} (past : List Label)
    (hkeep : ∀ past s a s', History past s → step s a s' → History (past ++ [a]) s')
    (hrun : Run step s trace) (hinit : History past s) :
    History (past ++ trace.map Prod.fst) (endState s trace) := by
  induction hrun generalizing past with
  | done s => simpa using hinit
  | @next s s' a trace hstep _ ih => simpa using ih (past ++ [a]) (hkeep _ _ _ _ hinit hstep)

/-- The step at any place of a run starts in a state of the invariant. -/
theorem at_entry {entry : Label × State} {before after : List (Label × State)}
    (hkeep : ∀ s a s', Inv s → step s a s' → Inv s')
    (hrun : Run step s (before ++ entry :: after)) (hinit : Inv s) :
    ∃ mid, Inv mid ∧ step mid entry.1 entry.2 ∧ Run step entry.2 after := by
  induction before generalizing s with
  | nil =>
      cases hrun with
      | next hstep hrest => exact ⟨s, hinit, hstep, hrest⟩
  | cons first rest ih =>
      cases hrun with
      | next hstep hrest => exact ih hrest (hkeep _ _ _ hinit hstep)

/-- A relation that the invariant makes hold around every step. -/
theorem eachStep
    (hkeep : ∀ s a s', Inv s → step s a s' → Inv s')
    (hQ : ∀ s a s', Inv s → step s a s' → Q s a s')
    (hrun : Run step s trace) (hinit : Inv s) : EachStep Q s trace := by
  induction hrun with
  | done s => exact eachStep_nil Q s
  | next hstep _ ih => exact ⟨hQ _ _ _ hinit hstep, ih (hkeep _ _ _ hinit hstep)⟩

/-- The exact form.  `Inv` implies the property `P` and is kept by the steps
that meet `cond`; a step that does not meet it leads out of `P`.  Then a run
keeps `P` exactly when all its steps meet `cond`. -/
theorem always_iff_eachStep
    (hkeep : ∀ s a s', Inv s → cond s a → step s a s' → Inv s')
    (himp : ∀ s, Inv s → P s)
    (hbreak : ∀ s a s', Inv s → step s a s' → P s' → cond s a)
    (hrun : Run step s trace) (hinit : Inv s) :
    Always P trace ↔ EachStep (fun s a _ => cond s a) s trace := by
  induction hrun with
  | done s => simp
  | next hstep _ ih =>
      rw [always_cons, eachStep_cons]
      constructor
      · rintro ⟨hP, htail⟩
        have hcond := hbreak _ _ _ hinit hstep hP
        exact ⟨hcond, (ih (hkeep _ _ _ hinit hcond hstep)).mp htail⟩
      · rintro ⟨hcond, htail⟩
        have hnext := hkeep _ _ _ hinit hcond hstep
        exact ⟨himp _ hnext, (ih hnext).mpr htail⟩

/-- The exact form for a relation around the steps: it holds around a step from the
invariant exactly when the step meets `cond`, and then the invariant holds again. -/
theorem eachStep_iff_eachStep
    (hkeep : ∀ s a s', Inv s → cond s a → step s a s' → Inv s')
    (hiff : ∀ s a s', Inv s → step s a s' → (Q s a s' ↔ cond s a))
    (hrun : Run step s trace) (hinit : Inv s) :
    EachStep Q s trace ↔ EachStep (fun s a _ => cond s a) s trace := by
  induction hrun with
  | done s => simp
  | next hstep _ ih =>
      rw [eachStep_cons, eachStep_cons, hiff _ _ _ hinit hstep]
      exact and_congr_right fun hcond => ih (hkeep _ _ _ hinit hcond hstep)

end Run

/-- A system whose steps another one follows with steps of the same labels: runs are followed
by runs. -/
theorem Run.simulate {State' : Type*} {step : State → Label → State → Prop}
    {step' : State' → Label → State' → Prop} {R : State → State' → Prop}
    {s : State} {t : State'} {trace : List (Label × State)} (hrun : Run step s trace)
    (hstep : ∀ {s a s₁ t}, R s t → step s a s₁ → ∃ t₁, step' t a t₁ ∧ R s₁ t₁) (hR : R s t) :
    ∃ trace', Run step' t trace' ∧ trace'.map Prod.fst = trace.map Prod.fst ∧
      R (endState s trace) (endState t trace') := by
  induction hrun generalizing t with
  | done s => exact ⟨[], .done t, rfl, hR⟩
  | @next s s₁ a trace hfirst _ ih =>
      obtain ⟨t₁, hfollow, hR₁⟩ := hstep hR hfirst
      obtain ⟨trace', hrun', hlabels, hend⟩ := ih hR₁
      exact ⟨(a, t₁) :: trace', .next hfollow hrun', by simp [hlabels], hend⟩

theorem Always.imp {P R : State → Prop} {trace : List (Label × State)}
    (himp : ∀ s, P s → R s) (h : Always P trace) : Always R trace := by
  intro entry hmem
  exact himp _ (h entry hmem)

/-- What holds at the start and in every state of a trace holds where the trace leads. -/
theorem Always.endState {P : State → Prop} {s : State} {trace : List (Label × State)}
    (h : Always P trace) (hs : P s) : P (endState s trace) := by
  induction trace generalizing s with
  | nil => exact hs
  | cons entry rest ih =>
      obtain ⟨a, s'⟩ := entry
      obtain ⟨hhead, htail⟩ := (always_cons P a s' rest).mp h
      exact ih htail hhead

end Library
end DeviceAndroVM
