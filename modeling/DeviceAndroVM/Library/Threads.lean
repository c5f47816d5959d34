import DeviceAndroVM.Library.LoopRuns
import Mathlib.Algebra.Order.Group.Multiset
import Mathlib.Tactic.Abel

/-!
# Threads that own resources

Any number of looping programs share a state; an action may start another one.  A resource is
something that an action gives, that one thread holds at a time, and that is used up once.

* `ThreadStep` — one thread performs an action or begins its next turn.
* `Flow` — what an action gives, uses up and hands to the new thread.
* `Owns` — a program spends only what it holds.
* `threads_always` — when every turn does, what is held in all threads together stays in step
  with the state.
* `playThreads` — the run of a schedule in which an oracle gives the responses.
-/

namespace DeviceAndroVM
namespace Library

universe u

variable {Act : Type} {Resp : Act → Type} {σ : Type} {State : Type u}

/-- Thread `i` performs its next action, and starts a thread when `spawn` says so; or it begins
its next turn. -/
inductive ThreadStep (next : State → (x : Act) → Resp x → Option State)
    (body : σ → Prog Act Resp (Option σ)) (spawn : (x : Act) → Resp x → Option σ) :
    State × List (Prog Act Resp (Option σ)) → Nat × LoopLabel Act Resp →
      State × List (Prog Act Resp (Option σ)) → Prop
  | act {threads : List (Prog Act Resp (Option σ))} {i : Nat} {x : Act}
      {k : Resp x → Prog Act Resp (Option σ)} {s s' : State} {r : Resp x}
      (hthread : threads[i]? = some (.act x k)) (hstep : next s x r = some s') :
      ThreadStep next body spawn (s, threads) (i, .act x r)
        (s', threads.set i (k r) ++ ((spawn x r).map body).toList)
  | again {threads : List (Prog Act Resp (Option σ))} {i : Nat} {a : σ} (s : State)
      (hthread : threads[i]? = some (.ret (some a))) :
      ThreadStep next body spawn (s, threads) (i, .again) (s, threads.set i (body a))

/-- The condition holds of every action of a run. -/
def ThreadCond (cond : State → (x : Act) → Resp x → Prop)
    (c : State × List (Prog Act Resp (Option σ))) (l : Nat × LoopLabel Act Resp)
    (_ : State × List (Prog Act Resp (Option σ))) : Prop :=
  match l.2 with
  | .act x r => cond c.1 x r
  | .again => True

instance decidableThreadCond (cond : State → (x : Act) → Resp x → Prop)
    [∀ s x r, Decidable (cond s x r)] (c : State × List (Prog Act Resp (Option σ)))
    (l : Nat × LoopLabel Act Resp) (c' : State × List (Prog Act Resp (Option σ))) :
    Decidable (ThreadCond cond c l c') :=
  match l with
  | (_, .act x r) => inferInstanceAs (Decidable (cond c.1 x r))
  | (_, .again) => isTrue trivial

/-! ## Ownership -/

/-- What an action gives its thread, what it uses up, and what it hands to the thread it
starts. -/
structure Flow (Act : Type) (Resp : Act → Type) (R : Type) where
  gains : (x : Act) → Resp x → Multiset R
  drops : (x : Act) → Resp x → Multiset R
  hands : (x : Act) → Resp x → Multiset R

variable {R : Type} {α β : Type}

/-- As long as the responses are `ok`, the program spends only what it holds, and what it
returns meets `Q` with what it holds in the end. -/
def Owns (F : Flow Act Resp R) (ok : (x : Act) → Resp x → Prop) :
    Prog Act Resp α → (α → Multiset R → Prop) → Multiset R → Prop
  | .ret a, Q, held => Q a held
  | .act x k, Q, held => ∀ r, ok x r →
      ∃ rest, held = F.drops x r + F.hands x r + rest ∧ Owns F ok (k r) Q (F.gains x r + rest)

section Owns

variable {F : Flow Act Resp R} {ok : (x : Act) → Resp x → Prop} {Q Q' : α → Multiset R → Prop}
  {held : Multiset R}

theorem Owns.mono {p : Prog Act Resp α} (himp : ∀ a held, Q a held → Q' a held)
    (h : Owns F ok p Q held) : Owns F ok p Q' held := by
  induction p generalizing held with
  | ret a => exact himp a held h
  | act x k ih =>
      intro r hr
      obtain ⟨rest, hheld, hk⟩ := h r hr
      exact ⟨rest, hheld, ih r hk⟩

theorem owns_bind {p : Prog Act Resp β} {f : β → Prog Act Resp α} :
    Owns F ok (p >>= f) Q held ↔ Owns F ok p (fun b held => Owns F ok (f b) Q held) held := by
  induction p generalizing held with
  | ret b => exact Iff.rfl
  | act x k ih =>
      constructor
      · intro h r hr
        obtain ⟨rest, hheld, hk⟩ := h r hr
        exact ⟨rest, hheld, (ih r).mp hk⟩
      · intro h r hr
        obtain ⟨rest, hheld, hk⟩ := h r hr
        exact ⟨rest, hheld, (ih r).mpr hk⟩

/-- An action that has to do with no resource. -/
def Flow.Idle (F : Flow Act Resp R) (x : Act) : Prop :=
  ∀ r, F.gains x r = 0 ∧ F.drops x r = 0 ∧ F.hands x r = 0

theorem owns_idle {x : Act} {k : Resp x → Prog Act Resp α} (hx : F.Idle x)
    (hk : ∀ r, ok x r → Owns F ok (k r) Q held) : Owns F ok (.act x k) Q held := by
  intro r hr
  obtain ⟨hgains, hdrops, hhands⟩ := hx r
  refine ⟨held, by rw [hdrops, hhands, zero_add, zero_add], ?_⟩
  rw [hgains, zero_add]
  exact hk r hr

/-- A program without such actions holds what it held. -/
theorem owns_of_only {p : Prog Act Resp α} (hp : p.Only F.Idle) (held : Multiset R) :
    Owns F ok p (fun _ held' => held' = held) held := by
  induction p with
  | ret a => exact rfl
  | act x k ih => exact owns_idle hp.1 fun r _ => ih r (hp.2 r)

end Owns

/-! ## All threads together -/

/-- The entry of one thread, and what the list is with another program and holding there. -/
theorem split_pool {A B : Type} {pool : List (A × B)} {i : Nat} {p : A}
    (h : (pool.map Prod.fst)[i]? = some p) :
    ∃ before b after, pool = before ++ (p, b) :: after ∧
      ∀ q b', (pool.map Prod.fst).set i q = (before ++ (q, b') :: after).map Prod.fst := by
  induction pool generalizing i with
  | nil => simp at h
  | cons entry rest ih =>
      cases i with
      | zero =>
          obtain ⟨p', b⟩ := entry
          obtain rfl : p' = p := by simpa using h
          exact ⟨[], b, rest, rfl, fun q b' => rfl⟩
      | succ i =>
          obtain ⟨before, b, after, hrest, hset⟩ := ih (by simpa using h)
          refine ⟨entry :: before, b, after, by rw [hrest]; rfl, fun q b' => ?_⟩
          rw [List.map_cons, List.set_cons_succ, hset q b']
          rfl

theorem sum_pool {A : Type} (before after : List (A × Multiset R)) (p : A) (mine : Multiset R) :
    ((before ++ (p, mine) :: after).map Prod.snd).sum =
      mine + ((before.map Prod.snd).sum + (after.map Prod.snd).sum) := by
  simp only [List.map_append, List.map_cons, List.sum_append, List.sum_cons]
  abel

/-- Every thread owns a part of what is held, and all parts together are `Good`. -/
def Pooled (F : Flow Act Resp R) (ok : (x : Act) → Resp x → Prop) (J : σ → Multiset R → Prop)
    (Good : Multiset R → Prop) (threads : List (Prog Act Resp (Option σ))) : Prop :=
  ∃ pool : List (Prog Act Resp (Option σ) × Multiset R),
    pool.map Prod.fst = threads ∧ Good (pool.map Prod.snd).sum ∧
    ∀ entry ∈ pool, Owns F ok entry.1 (fun o held => ∀ b ∈ o, J b held) entry.2

section Pooled

variable {F : Flow Act Resp R} {ok : (x : Act) → Resp x → Prop} {J : σ → Multiset R → Prop}
  {Good : Multiset R → Prop} {threads : List (Prog Act Resp (Option σ))}
  {p : Prog Act Resp (Option σ)}

/-- What one thread holds, and what the pool is when it goes on with another program. -/
theorem Pooled.split (h : Pooled F ok J Good threads) {i : Nat} (hthread : threads[i]? = some p) :
    ∃ mine others, Owns F ok p (fun o held => ∀ b ∈ o, J b held) mine ∧ Good (mine + others) ∧
      ∀ q mine' Good', Owns F ok q (fun o held => ∀ b ∈ o, J b held) mine' →
        Good' (mine' + others) → Pooled F ok J Good' (threads.set i q) := by
  obtain ⟨pool, rfl, hsum, howns⟩ := h
  obtain ⟨before, mine, after, rfl, hset⟩ := split_pool hthread
  obtain ⟨hbefore, hrest⟩ := List.forall_mem_append.mp howns
  obtain ⟨hmine, hafter⟩ := List.forall_mem_cons.mp hrest
  rw [sum_pool] at hsum
  refine ⟨mine, _, hmine, hsum, ?_⟩
  intro q mine' Good' hq hgood
  refine ⟨before ++ (q, mine') :: after, (hset q mine').symm, ?_, ?_⟩
  · rw [sum_pool]
    exact hgood
  · exact List.forall_mem_append.mpr ⟨hbefore, List.forall_mem_cons.mpr ⟨hq, hafter⟩⟩

/-- A new thread with what it was handed. -/
theorem Pooled.push {new : Multiset R} (h : Pooled F ok J (fun held => Good (held + new)) threads)
    (hp : Owns F ok p (fun o held => ∀ b ∈ o, J b held) new) :
    Pooled F ok J Good (threads ++ [p]) := by
  obtain ⟨pool, rfl, hsum, howns⟩ := h
  refine ⟨pool ++ [(p, new)], by simp, ?_, ?_⟩
  · rw [List.map_append, List.sum_append, List.map_singleton, List.sum_singleton]
    exact hsum
  · exact List.forall_mem_append.mpr ⟨howns, List.forall_mem_singleton.mpr hp⟩

end Pooled

/-- `Good s held` relates the state and everything that is held; every action keeps it, a new
thread begins with what it is handed, and every turn owns what it spends.  Then it holds at
every time. -/
theorem threads_always {next : State → (x : Act) → Resp x → Option State}
    {cond : State → (x : Act) → Resp x → Prop} {body : σ → Prog Act Resp (Option σ)}
    {spawn : (x : Act) → Resp x → Option σ} {F : Flow Act Resp R}
    {ok : (x : Act) → Resp x → Prop} {Good : State → Multiset R → Prop}
    {J : σ → Multiset R → Prop} {a : σ} {s : State} {held : Multiset R}
    {trace : List ((Nat × LoopLabel Act Resp) × (State × List (Prog Act Resp (Option σ))))}
    (hok : ∀ s x r s', cond s x r → next s x r = some s' → ok x r)
    (hgood : ∀ s x r s' rest, Good s (F.drops x r + rest) → next s x r = some s' →
      Good s' (F.gains x r + rest))
    (hspawn : ∀ x r b, spawn x r = some b → J b (F.hands x r))
    (hnone : ∀ x r, spawn x r = none → F.hands x r = 0)
    (hbody : ∀ a held, J a held → Owns F ok (body a) (fun o held => ∀ b ∈ o, J b held) held)
    (hrun : Run (ThreadStep next body spawn) (s, [body a]) trace)
    (hcond : EachStep (ThreadCond cond) (s, [body a]) trace)
    (hstart : Good s held) (hJ : J a held) :
    Always (fun c => ∃ held, Good c.1 held) trace := by
  have hkeep : ∀ c l c', Pooled F ok J (Good c.1) c.2 →
      (ThreadCond cond c l c' ∧ ThreadStep next body spawn c l c') →
      Pooled F ok J (Good c'.1) c'.2 := by
    rintro c l c' hpool ⟨hmeets, hstep⟩
    cases hstep with
    | @act threads i x k s s' r hthread hstep =>
        obtain ⟨mine, others, hmine, hsum, hset⟩ := hpool.split hthread
        obtain ⟨rest, hheld, hk⟩ := hmine r (hok s x r s' hmeets hstep)
        have hheld : mine = F.drops x r + F.hands x r + rest := hheld
        -- what is handed on stays with the others
        rw [hheld, add_assoc, add_assoc] at hsum
        have hsum' := hgood s x r s' _ hsum hstep
        cases hb : spawn x r with
        | none =>
            rw [hnone x r hb, zero_add] at hsum'
            show Pooled F ok J (Good s') (threads.set i (k r) ++ [])
            rw [List.append_nil]
            apply hset _ _ _ hk
            rw [add_assoc]
            exact hsum'
        | some b =>
            -- the new thread takes its part from the sum first
            apply Pooled.push _ (hbody b _ (hspawn x r b hb))
            apply hset _ _ _ hk
            have hswap : F.gains x r + rest + others + F.hands x r =
                F.gains x r + (F.hands x r + (rest + others)) := by abel
            rw [hswap]
            exact hsum'
    | @again threads i b s hthread =>
        obtain ⟨mine, others, hmine, hsum, hset⟩ := hpool.split hthread
        exact hset _ _ _ (hbody b mine (hmine b rfl)) hsum
  have hinit : Pooled F ok J (Good s) [body a] :=
    ⟨[(body a, held)], rfl, by simpa using hstart, by simpa using hbody a held hJ⟩
  have hall := (hrun.and_eachStep hcond).always hkeep hinit
  exact hall.imp fun c ⟨_, _, hsum, _⟩ => ⟨_, hsum⟩

/-! ## Runs from a schedule -/

/-- The run in which step `j` is one of thread `schedule[j]` and `oracle j` answers its action;
it ends before a step that is not possible. -/
def playThreads (next : State → (x : Act) → Resp x → Option State)
    (body : σ → Prog Act Resp (Option σ)) (spawn : (x : Act) → Resp x → Option σ)
    (oracle : Nat → (x : Act) → Resp x) :
    List Nat → Nat → State × List (Prog Act Resp (Option σ)) →
      List ((Nat × LoopLabel Act Resp) × (State × List (Prog Act Resp (Option σ))))
  | [], _, _ => []
  | i :: schedule, j, (s, threads) =>
      match threads[i]? with
      | some (.act x k) =>
          match next s x (oracle j x) with
          | none => []
          | some s' =>
              let c := (s', threads.set i (k (oracle j x)) ++
                ((spawn x (oracle j x)).map body).toList)
              ((i, .act x (oracle j x)), c) ::
                playThreads next body spawn oracle schedule (j + 1) c
      | some (.ret (some a)) =>
          let c := (s, threads.set i (body a))
          ((i, .again), c) :: playThreads next body spawn oracle schedule (j + 1) c
      | _ => []

theorem run_playThreads (next : State → (x : Act) → Resp x → Option State)
    (body : σ → Prog Act Resp (Option σ)) (spawn : (x : Act) → Resp x → Option σ)
    (oracle : Nat → (x : Act) → Resp x) (schedule : List Nat) (j : Nat)
    (c : State × List (Prog Act Resp (Option σ))) :
    Run (ThreadStep next body spawn) c (playThreads next body spawn oracle schedule j c) := by
  induction schedule generalizing j c with
  | nil => exact Run.done c
  | cons i schedule ih =>
      obtain ⟨s, threads⟩ := c
      unfold playThreads
      split
      · rename_i x k hthread
        split
        · exact Run.done _
        · rename_i s' hnext
          exact Run.next (ThreadStep.act hthread hnext) (ih _ _)
      · rename_i a hthread
        exact Run.next (ThreadStep.again s hthread) (ih _ _)
      · exact Run.done _

end Library
end DeviceAndroVM
