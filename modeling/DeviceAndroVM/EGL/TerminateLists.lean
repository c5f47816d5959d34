import Mathlib.Data.Fintype.Basic
import DeviceAndroVM.EGL.Lifetime

/-!
# What `eglDisplay::terminate` leaves of the lists

The loop increments the iterator that `erase` returns, so it never looks at the element
after an erased one, and moves past the end of the list when the last one is erased.  The
surfaces are freed before it, whatever they are used for.

* `terminateWatched` — `terminate`, with whether the iterator has moved past the end.
* `Terminated` — what should be left of the contexts and the surfaces.
* `Spaced` — the lists of contexts on which the loop does that.
* `terminated_iff` — `terminate` does what it should for these, when no surface of a current
  context is listed, and for no others.
-/

namespace DeviceAndroVM
namespace EGL

universe u

variable {Thread : Type u}

namespace EGLState

/-! ## The loop, watched -/

section Watched

variable [DecidableEq Thread]

/-- `terminateContexts`, with whether the iterator has moved past the end. -/
def terminateContextsWatched (t : Thread) (connects : Bool) (s : EGLState Thread)
    (visited : List ContextPtr) :
    List ContextPtr → Option (EGLState Thread × Bool)
  | [] => some ({ s with display := { s.display with contexts := visited } }, false)
  | c :: rest =>
      match s.contexts c with
      | none => none
      | some context =>
          if context.isCurrent then
            terminateContextsWatched t connects (s.setContext c context.markToDelete)
              (visited ++ [c]) rest
          else
            match s.destroyContext t connects s_display (some c), rest with
            | none, _ => none
            | some (_, s), [] =>
                -- the element was the last, and `erase` has returned the end
                (terminateContextsWatched t connects s [] visited).map fun result =>
                  (result.1, true)
            | some (_, s), next :: rest =>
                terminateContextsWatched t connects s (visited ++ [next]) rest
termination_by rest => (visited.length + rest.length, rest.length)
decreasing_by
  all_goals
    simp only [List.length_append, List.length_cons, List.length_nil, Prod.lex_def]
    omega

section Turns

variable {t : Thread} {connects : Bool} {s s₁ : EGLState Thread} {visited rest : List ContextPtr}
  {c : ContextPtr} {context : EGLContext}

/-- A flagged context. -/
theorem watched_flagged (hctx : s.contexts c = some context) (hflag : context.isCurrent = true) :
    terminateContextsWatched t connects s visited (c :: rest) =
      terminateContextsWatched t connects (s.setContext c context.markToDelete)
        (visited ++ [c]) rest := by
  rw [terminateContextsWatched.eq_def]
  simp only [hctx, hflag, if_true]

/-- The last element is erased. -/
theorem watched_last {ret : Bool} (hctx : s.contexts c = some context)
    (hclear : context.isCurrent = false)
    (hcall : s.destroyContext t connects s_display (some c) = some (ret, s₁)) :
    terminateContextsWatched t connects s visited [c] =
      (terminateContextsWatched t connects s₁ [] visited).map fun result => (result.1, true) := by
  rw [terminateContextsWatched.eq_def]
  simp only [hctx, hclear, hcall, Bool.false_eq_true, if_false]

/-- Another element is erased, and the next one is passed over. -/
theorem watched_next {ret : Bool} {next : ContextPtr} (hctx : s.contexts c = some context)
    (hclear : context.isCurrent = false)
    (hcall : s.destroyContext t connects s_display (some c) = some (ret, s₁)) :
    terminateContextsWatched t connects s visited (c :: next :: rest) =
      terminateContextsWatched t connects s₁ (visited ++ [next]) rest := by
  rw [terminateContextsWatched.eq_def]
  simp only [hctx, hclear, hcall, Bool.false_eq_true, if_false]

end Turns

theorem terminateContextsWatched_fst (t : Thread) (connects : Bool) (s : EGLState Thread)
    (visited rest : List ContextPtr) :
    (terminateContextsWatched t connects s visited rest).map Prod.fst =
      terminateContexts t connects s visited rest := by
  fun_induction terminateContexts t connects s visited rest with
  | case1 s visited => simp [terminateContextsWatched]
  | case2 s visited c rest hctx =>
      rw [terminateContextsWatched.eq_def]
      simp only [hctx, Option.map_none]
  | case3 s visited c rest context hctx hflag ih => rw [watched_flagged hctx hflag, ih]
  | case4 s visited c rest context hctx hclear hcall =>
      rw [terminateContextsWatched.eq_def]
      simp only [hctx, hclear, hcall, Bool.false_eq_true, if_false, Option.map_none]
  | case5 s visited c context hctx hclear ret s₁ hcall ih =>
      rw [watched_last hctx (Bool.eq_false_iff.mpr hclear) hcall, ← ih, Option.map_map]
      rfl
  | case6 s visited c context hctx hclear ret s₁ next rest hcall ih =>
      rw [watched_next hctx (Bool.eq_false_iff.mpr hclear) hcall, ih]

/-- `eglDisplay::terminate`, with whether the iterator has moved past the end. -/
def terminateWatched (s : EGLState Thread) (t : Thread) (connects : Bool) :
    Option (EGLState Thread × Bool) := do
  let s ← s.display.surfaces.foldlM (deleteSurface t connects) s
  let s := { s with display := { s.display with surfaces := [] } }
  terminateContextsWatched t connects s [] s.display.contexts

theorem terminateWatched_fst (s : EGLState Thread) (t : Thread) (connects : Bool) :
    (s.terminateWatched t connects).map Prod.fst = s.terminate t connects := by
  unfold terminateWatched terminate
  cases s.display.surfaces.foldlM (deleteSurface t connects) s with
  | none => rfl
  | some s₁ => exact terminateContextsWatched_fst t connects _ _ _

end Watched

/-! ## The property -/

/-- Some thread has the context current. -/
def Current (s : EGLState Thread) (c : ContextPtr) : Prop := ∃ t, s.currentContext t = some c

/-- What should be left of the listed contexts: those that are not current are freed and off
the list, the current ones are on it and marked. -/
structure ContextsTerminated (s : EGLState Thread) (listed : List ContextPtr)
    (s' : EGLState Thread) : Prop where
  destroyed : ∀ c ∈ listed, ¬s.Current c → s'.contexts c = none ∧ c ∉ s'.display.contexts
  kept : ∀ c ∈ listed, s.Current c → c ∈ s'.display.contexts ∧
    ∃ context, s'.contexts c = some context ∧ context.toDelete = true

/-- The surface is the draw or the read surface of a listed context that is current. -/
def UsedSurface (s : EGLState Thread) (surface : SurfacePtr) : Prop :=
  ∃ c ∈ s.display.contexts, s.Current c ∧ ∃ context, s.contexts c = some context ∧
    (context.draw = some surface ∨ context.read = some surface)

/-- The surfaces of current contexts should not be freed. -/
structure Terminated (s s' : EGLState Thread) : Prop where
  contexts : ContextsTerminated s s.display.contexts s'
  surfaces : ∀ surface, s.UsedSurface surface → s.surfaces surface ≠ none →
    s'.surfaces surface ≠ none

/-! ## The condition -/

/-- `HostConnection::get` returns a connection. -/
def CanConnect (s : EGLState Thread) (t : Thread) (connects : Bool) : Prop :=
  (s.threads t).hostConn.isSome ∨ connects = true

/-- The context object has a property. -/
def Has (s : EGLState Thread) (c : ContextPtr) (property : EGLContext → Bool) : Prop :=
  ∃ context, s.contexts c = some context ∧ property context = true

/-- `destroyContext` gets as far as the `delete`, for a context that is not the caller's own. -/
def Destroyable (s : EGLState Thread) (t : Thread) (connects : Bool) (c : ContextPtr) : Prop :=
  s.Has c (fun context => context.rcContext == 0#32) ∨ s.CanConnect t connects

/-- A flagged context is current.  One that is not flagged is not current and can be destroyed,
and the next one, which the loop does not look at, is current and marked already. -/
def Spaced (t : Thread) (connects : Bool) (s : EGLState Thread) : List ContextPtr → Prop
  | [] => True
  | c :: rest =>
      (s.Has c EGLContext.isCurrent ∧ s.Current c ∧ Spaced t connects s rest) ∨
        (¬s.Has c EGLContext.isCurrent ∧ ¬s.Current c ∧ s.Destroyable t connects c ∧
          match rest with
          | [] => False
          | next :: rest => s.Current next ∧ s.Has next EGLContext.toDelete ∧
              Spaced t connects s rest)

section Decide

variable (s : EGLState Thread)

instance [Fintype Thread] (c : ContextPtr) : Decidable (s.Current c) := by
  unfold Current
  infer_instance

instance (t : Thread) (connects : Bool) : Decidable (s.CanConnect t connects) := by
  unfold CanConnect
  infer_instance

instance (c : ContextPtr) (property : EGLContext → Bool) : Decidable (s.Has c property) :=
  decidable_of_iff ((s.contexts c).any property = true) (by
    unfold Has
    cases s.contexts c <;> simp)

instance (t : Thread) (connects : Bool) (c : ContextPtr) :
    Decidable (s.Destroyable t connects c) := by
  unfold Destroyable
  infer_instance

instance decidableSpaced [Fintype Thread] (t : Thread) (connects : Bool) :
    ∀ listed, Decidable (Spaced t connects s listed)
  | [] => isTrue trivial
  | [c] => by
      have := decidableSpaced t connects []
      unfold Spaced
      infer_instance
  | c :: next :: rest => by
      have := decidableSpaced t connects (next :: rest)
      have := decidableSpaced t connects rest
      unfold Spaced
      infer_instance

end Decide

/-- The lists of the display have addresses of objects that exist, each once. -/
structure Registered (s : EGLState Thread) : Prop where
  initialized : s.display.initialized = true
  contextsOnce : s.display.contexts.Nodup
  contextsLive : ∀ c ∈ s.display.contexts, ∃ context, s.contexts c = some context
  surfacesOnce : s.display.surfaces.Nodup
  surfacesLive : ∀ surface ∈ s.display.surfaces, ∃ object, s.surfaces surface = some object

/-- The contexts are spaced, no listed surface is used, and if there are any there is a
connection to flush. -/
structure TerminatesCleanly (s : EGLState Thread) (t : Thread) (connects : Bool) : Prop where
  spaced : Spaced t connects s s.display.contexts
  unused : ∀ surface ∈ s.display.surfaces, ¬s.UsedSurface surface
  connected : s.display.surfaces ≠ [] → s.CanConnect t connects

/-! ## One destruction -/

/-- The threads, the display and the chance of a connection are as before. -/
structure SameAround (t : Thread) (connects : Bool) (s s' : EGLState Thread) : Prop where
  current : ∀ t', s'.currentContext t' = s.currentContext t'
  display : s'.display = s.display
  connection : s'.CanConnect t connects ↔ s.CanConnect t connects

theorem SameAround.refl (t : Thread) (connects : Bool) (s : EGLState Thread) :
    SameAround t connects s s where
  current := fun _ => rfl
  display := rfl
  connection := Iff.rfl

theorem SameAround.trans {t : Thread} {connects : Bool} {s s' s'' : EGLState Thread}
    (h : SameAround t connects s s') (h' : SameAround t connects s' s'') :
    SameAround t connects s s'' where
  current := fun t' => (h'.current t').trans (h.current t')
  display := h'.display.trans h.display
  connection := h'.connection.trans h.connection

theorem SameAround.current_iff {t : Thread} {connects : Bool} {s s' : EGLState Thread}
    (h : SameAround t connects s s') (c : ContextPtr) : s'.Current c ↔ s.Current c := by
  unfold Current
  simp only [h.current]

section Destroy

variable [DecidableEq Thread] {t : Thread} {connects : Bool} {s s' : EGLState Thread}
  {c : ContextPtr} {context : EGLContext}

theorem getHostConnection_sameAround {connected : Bool}
    (h : s.getHostConnection t connects = (connected, s')) :
    SameAround t connects s s' ∧ s'.contexts = s.contexts ∧ s'.surfaces = s.surfaces ∧
      (connected = true ↔ s.CanConnect t connects) := by
  obtain ⟨hsame, -, hdisplay, hsurfaces, hconn, hconnected⟩ := getHostConnection_cases h
  refine ⟨⟨hsame.current, hdisplay, ?_⟩, hsame.contexts, hsurfaces, hconnected⟩
  cases connected with
  | true =>
      obtain ⟨hostCon, hsome⟩ := hconn rfl
      exact iff_of_true (Or.inl (by rw [hsome]; rfl)) (hconnected.mp rfl)
  | false =>
      -- nothing has changed without a connection
      unfold getHostConnection at h
      split at h
      · cases h
      · split at h
        · cases h
        · cases h
          exact Iff.rfl

/-- `destroyContext` changes the context only, and frees it if it is not the caller's own and
can be destroyed. -/
theorem destroyContext_spec (t : Thread) (connects : Bool) (hinit : s.display.initialized = true)
    (hctx : s.contexts c = some context) :
    ∃ ret s', s.destroyContext t connects s_display (some c) = some (ret, s') ∧
      SameAround t connects s s' ∧ s'.surfaces = s.surfaces ∧
      (∀ x, x ≠ c → s'.contexts x = s.contexts x) ∧
      (s.currentContext t ≠ some c → (s'.contexts c = none ↔ s.Destroyable t connects c)) := by
  have hzero : s.Has c (fun context => context.rcContext == 0#32) ↔ context.rcContext = 0#32 := by
    unfold Has
    simp only [hctx, Option.some.injEq, exists_eq_left', beq_iff_eq]
  unfold destroyContext destroyContextWith Destroyable
  rw [if_neg (not_not.mpr rfl), if_neg (by simp [hinit])]
  simp only [hctx, hzero]
  by_cases hcur : s.currentContext t = some c
  · rw [if_pos hcur]
    refine ⟨_, _, rfl, ⟨fun _ => rfl, rfl, Iff.rfl⟩, rfl, ?_, fun hne => absurd hcur hne⟩
    intro x hx
    exact Function.update_of_ne hx _ _
  rw [if_neg hcur]
  by_cases hrc : context.rcContext = 0#32
  · rw [if_neg (not_not.mpr hrc)]
    refine ⟨_, _, rfl, ⟨fun _ => rfl, rfl, Iff.rfl⟩, rfl, ?_, ?_⟩
    · intro x hx
      exact Function.update_of_ne hx _ _
    · intro _
      exact iff_of_true (Function.update_self ..) (Or.inl hrc)
  rw [if_pos hrc]
  cases hconn : s.getHostConnection t connects with
  | mk connected s₁ =>
      obtain ⟨hsame, hcontexts, hsurfaces, hconnected⟩ := getHostConnection_sameAround hconn
      cases connected with
      | false =>
          refine ⟨_, _, rfl, hsame, hsurfaces, fun x _ => by rw [hcontexts], fun _ => ?_⟩
          rw [hcontexts, hctx]
          refine iff_of_false (by simp) ?_
          rintro (hzero | hcan)
          · exact hrc hzero
          · exact absurd (hconnected.mpr hcan) (by simp)
      | true =>
          refine ⟨_, _, rfl, ⟨hsame.current, hsame.display, hsame.connection⟩, hsurfaces, ?_, ?_⟩
          · intro x hx
            show Function.update s₁.contexts c none x = _
            rw [Function.update_of_ne hx, hcontexts]
          · intro _
            exact iff_of_true (Function.update_self ..) (Or.inr (hconnected.mp rfl))

end Destroy

/-! ## The loop within the list -/

section Loop

variable [DecidableEq Thread] {t : Thread} {connects : Bool} {s s₁ s' : EGLState Thread}
  {visited rest : List ContextPtr} {c next : ContextPtr} {context : EGLContext}

/-- A loop that stays within the list keeps what stands before the iterator, and changes no
context but those from it on. -/
structure Passed (visited rest : List ContextPtr) (s s' : EGLState Thread) : Prop where
  kept : ∀ c ∈ visited, c ∈ s'.display.contexts
  listed : ∀ c ∈ s'.display.contexts, c ∈ visited ∨ c ∈ rest
  contexts : ∀ c, c ∉ rest → s'.contexts c = s.contexts c
  surfaces : s'.surfaces = s.surfaces

omit [DecidableEq Thread] in
/-- One turn in front of a run: the iterator passes one entry of the list, and entries leave the
list only. -/
theorem Passed.turn {left : List ContextPtr} {passed : ContextPtr}
    (h : Passed (visited ++ [passed]) left s₁ s') (hpassed : passed ∈ rest)
    (hleft : ∀ x ∈ left, x ∈ rest) (hcontexts : ∀ x, x ∉ rest → s₁.contexts x = s.contexts x)
    (hsurfaces : s₁.surfaces = s.surfaces) : Passed visited rest s s' where
  kept x hx := h.kept x (List.mem_append_left _ hx)
  listed := by
    intro x hx
    rcases h.listed x hx with hx | hx
    · rcases List.mem_append.mp hx with hx | hx
      · exact Or.inl hx
      · rw [List.mem_singleton.mp hx]
        exact Or.inr hpassed
    · exact Or.inr (hleft x hx)
  contexts := by
    intro x hx
    rw [h.contexts x fun hmem => hx (hleft x hmem)]
    exact hcontexts x hx
  surfaces := h.surfaces.trans hsurfaces

theorem passed_of_watched (hinit : s.display.initialized = true)
    (h : terminateContextsWatched t connects s visited rest = some (s', false)) :
    Passed visited rest s s' := by
  fun_induction terminateContextsWatched t connects s visited rest with
  | case1 s visited =>
      cases h
      exact ⟨fun _ hc => hc, fun _ hc => Or.inl hc, fun _ _ => rfl, rfl⟩
  | case2 s visited c rest hctx => cases h
  | case3 s visited c rest context hctx hflag ih =>
      refine (ih hinit h).turn List.mem_cons_self (fun x hx => List.mem_cons_of_mem _ hx) ?_ rfl
      intro x hx
      exact Function.update_of_ne (List.ne_of_not_mem_cons hx) _ _
  | case4 s visited c rest context hctx hclear hcall => cases h
  | case5 s visited c context hctx hclear ret s₁ hcall ih =>
      obtain ⟨_, -, heq⟩ := Option.map_eq_some_iff.mp h
      cases (Prod.mk.inj heq).2
  | case6 s visited c context hctx hclear ret s₁ next rest hcall ih =>
      obtain ⟨_, _, hcall', hsame, hsurfaces, hothers, -⟩ :=
        destroyContext_spec t connects hinit hctx
      rw [hcall] at hcall'
      cases hcall'
      have hpassed := ih (by rw [hsame.display]; exact hinit) h
      refine hpassed.turn (List.mem_cons_of_mem _ List.mem_cons_self)
        (fun x hx => List.mem_cons_of_mem _ (List.mem_cons_of_mem _ hx)) ?_ hsurfaces
      intro x hx
      exact hothers x (List.ne_of_not_mem_cons hx)

/-- From the iterator on, the loop stays within the list and leaves what it should. -/
def TurnsOut (t : Thread) (connects : Bool) (s : EGLState Thread)
    (visited rest : List ContextPtr) : Prop :=
  ∃ s', terminateContextsWatched t connects s visited rest = some (s', false) ∧
    ContextsTerminated s rest s'

theorem turnsOut_flagged (hinit : s.display.initialized = true)
    (honce : (visited ++ c :: rest).Nodup) (hctx : s.contexts c = some context)
    (hflag : context.isCurrent = true) :
    TurnsOut t connects s visited (c :: rest) ↔
      s.Current c ∧
        TurnsOut t connects (s.setContext c context.markToDelete) (visited ++ [c]) rest := by
  have hrest : c ∉ rest := (List.nodup_cons.mp (List.nodup_append.mp honce).2.1).1
  unfold TurnsOut
  rw [watched_flagged hctx hflag]
  constructor
  · rintro ⟨s', hrun, hdone⟩
    have hpassed := passed_of_watched (s := s.setContext c context.markToDelete) hinit hrun
    refine ⟨?_, s', hrun, ?_, ?_⟩
    · -- what has been visited stays on the list, so it should be current
      by_contra hcurrent
      exact (hdone.destroyed c List.mem_cons_self hcurrent).2
        (hpassed.kept c (List.mem_append_right _ (List.mem_singleton_self c)))
    · exact fun x hx => hdone.destroyed x (List.mem_cons_of_mem _ hx)
    · exact fun x hx => hdone.kept x (List.mem_cons_of_mem _ hx)
  · rintro ⟨hcurrent, s', hrun, hdone⟩
    have hpassed := passed_of_watched (s := s.setContext c context.markToDelete) hinit hrun
    have hmarked : s'.contexts c = some context.markToDelete := by
      rw [hpassed.contexts c hrest]
      exact Function.update_self ..
    refine ⟨s', hrun, ?_, ?_⟩
    · intro x hx hother
      rcases List.mem_cons.mp hx with rfl | hx
      · exact absurd hcurrent hother
      · exact hdone.destroyed x hx hother
    · intro x hx hx'
      rcases List.mem_cons.mp hx with rfl | hx
      · exact ⟨hpassed.kept x (List.mem_append_right _ (List.mem_singleton_self x)), _, hmarked,
          context.toDelete_markToDelete⟩
      · exact hdone.kept x hx hx'

/-- Erasing the last element leads past the end. -/
theorem not_turnsOut_last (hinit : s.display.initialized = true)
    (hctx : s.contexts c = some context) (hclear : context.isCurrent = false) :
    ¬TurnsOut t connects s visited [c] := by
  rintro ⟨s', hrun, -⟩
  obtain ⟨ret, s₁, hcall, -⟩ := destroyContext_spec t connects hinit hctx
  rw [watched_last hctx hclear hcall] at hrun
  obtain ⟨_, -, heq⟩ := Option.map_eq_some_iff.mp hrun
  cases (Prod.mk.inj heq).2

theorem turnsOut_next (hinit : s.display.initialized = true)
    (honce : (visited ++ c :: next :: rest).Nodup) (hctx : s.contexts c = some context)
    (hclear : context.isCurrent = false) {ret : Bool}
    (hcall : s.destroyContext t connects s_display (some c) = some (ret, s₁)) :
    TurnsOut t connects s visited (c :: next :: rest) ↔
      ¬s.Current c ∧ s.Destroyable t connects c ∧ s.Current next ∧
        s.Has next EGLContext.toDelete ∧ TurnsOut t connects s₁ (visited ++ [next]) rest := by
  obtain ⟨_, _, hcall', hsame, -, hothers, hfreed⟩ :=
    destroyContext_spec t connects hinit hctx
  rw [hcall] at hcall'
  cases hcall'
  obtain ⟨-, hcons, hvisited⟩ := List.nodup_append.mp honce
  obtain ⟨hc, hnext, -⟩ : c ∉ next :: rest ∧ next ∉ rest ∧ rest.Nodup := by
    simpa [List.nodup_cons] using hcons
  have hne : next ≠ c := fun h => hc (h ▸ List.mem_cons_self)
  have hinit₁ : s₁.display.initialized = true := by rw [hsame.display]; exact hinit
  -- the loop steps over `c`, so nothing it visits later puts `c` back in the list
  have hdropped : ∀ {s'}, Passed (visited ++ [next]) rest s₁ s' → c ∉ s'.display.contexts := by
    intro s' hpassed hmem
    rcases hpassed.listed c hmem with hmem | hmem
    · rcases List.mem_append.mp hmem with hmem | hmem
      · exact hvisited c hmem c List.mem_cons_self rfl
      · exact hne (List.mem_singleton.mp hmem).symm
    · exact hc (List.mem_cons_of_mem _ hmem)
  unfold TurnsOut
  rw [watched_next hctx hclear hcall]
  constructor
  · rintro ⟨s', hrun, hdone⟩
    have hpassed := passed_of_watched hinit₁ hrun
    have hgone : c ∉ s'.display.contexts := hdropped hpassed
    have hother : ¬s.Current c := fun hcurrent => hgone (hdone.kept c List.mem_cons_self hcurrent).1
    have hcurrent : s.Current next := by
      by_contra hnot
      exact (hdone.destroyed next (by simp) hnot).2
        (hpassed.kept next (List.mem_append_right _ (List.mem_singleton_self next)))
    obtain ⟨-, object, hobject, hmarked⟩ := hdone.kept next (by simp) hcurrent
    rw [hpassed.contexts next hnext, hothers next hne] at hobject
    refine ⟨hother, ?_, hcurrent, ⟨object, hobject, hmarked⟩, s', hrun, ?_, ?_⟩
    · refine (hfreed fun hmine => hother ⟨t, hmine⟩).mp ?_
      rw [← hpassed.contexts c fun hmem => hc (List.mem_cons_of_mem _ hmem)]
      exact (hdone.destroyed c List.mem_cons_self hother).1
    · intro x hx hx'
      exact hdone.destroyed x (by simp [hx]) (mt (hsame.current_iff x).mpr hx')
    · intro x hx hx'
      exact hdone.kept x (by simp [hx]) ((hsame.current_iff x).mp hx')
  · rintro ⟨hother, hdestroyable, hcurrent, ⟨object, hobject, hmarked⟩, s', hrun, hdone⟩
    have hpassed := passed_of_watched hinit₁ hrun
    refine ⟨s', hrun, ?_, ?_⟩
    · intro x hx hx'
      rcases List.mem_cons.mp hx with rfl | hx
      · refine ⟨?_, ?_⟩
        · rw [hpassed.contexts x fun hmem => hc (List.mem_cons_of_mem _ hmem)]
          exact (hfreed fun hmine => hother ⟨t, hmine⟩).mpr hdestroyable
        · exact hdropped hpassed
      rcases List.mem_cons.mp hx with rfl | hx
      · exact absurd hcurrent hx'
      · exact hdone.destroyed x hx (mt (hsame.current_iff x).mp hx')
    · intro x hx hx'
      rcases List.mem_cons.mp hx with rfl | hx
      · exact absurd hx' hother
      rcases List.mem_cons.mp hx with rfl | hx
      · refine ⟨hpassed.kept x (List.mem_append_right _ (List.mem_singleton_self x)), object, ?_,
          hmarked⟩
        rw [hpassed.contexts x hnext, hothers x hne]
        exact hobject
      · exact hdone.kept x hx ((hsame.current_iff x).mpr hx')

omit [DecidableEq Thread] in
theorem spaced_next : Spaced t connects s (c :: next :: rest) ↔
    (s.Has c EGLContext.isCurrent ∧ s.Current c ∧ Spaced t connects s (next :: rest)) ∨
      (¬s.Has c EGLContext.isCurrent ∧ ¬s.Current c ∧ s.Destroyable t connects c ∧
        s.Current next ∧ s.Has next EGLContext.toDelete ∧ Spaced t connects s rest) :=
  Iff.rfl

omit [DecidableEq Thread] in
/-- The lists from the iterator on depend on the contexts there only. -/
theorem spaced_congr (hcurrent : ∀ x, s'.Current x ↔ s.Current x)
    (hconnection : s'.CanConnect t connects ↔ s.CanConnect t connects)
    (hcontexts : ∀ x ∈ rest, s'.contexts x = s.contexts x) :
    Spaced t connects s' rest ↔ Spaced t connects s rest := by
  have hhas : ∀ x ∈ rest, ∀ property, s'.Has x property ↔ s.Has x property := by
    intro x hx property
    unfold Has
    rw [hcontexts x hx]
  induction rest using List.twoStepInduction with
  | nil => exact Iff.rfl
  | singleton c =>
      simp only [Spaced, Destroyable, hcurrent, hconnection, hhas c List.mem_cons_self]
  | cons_cons c next rest ih ih' =>
      have hnext : Spaced t connects s' (next :: rest) ↔ Spaced t connects s (next :: rest) :=
        ih' next (fun x hx => hcontexts x (List.mem_cons_of_mem _ hx))
          fun x hx => hhas x (List.mem_cons_of_mem _ hx)
      have hrest : Spaced t connects s' rest ↔ Spaced t connects s rest :=
        ih (fun x hx => hcontexts x (List.mem_cons_of_mem _ (List.mem_cons_of_mem _ hx)))
          fun x hx => hhas x (List.mem_cons_of_mem _ (List.mem_cons_of_mem _ hx))
      rw [spaced_next, spaced_next, hnext, hrest]
      simp only [Destroyable, hcurrent, hconnection, hhas c List.mem_cons_self,
        hhas next (List.mem_cons_of_mem _ List.mem_cons_self)]

/-- From here on, the loop leaves what it should exactly on spaced lists. -/
def ExactOn (t : Thread) (connects : Bool) (rest : List ContextPtr) : Prop :=
  ∀ (s : EGLState Thread) (visited : List ContextPtr), s.display.initialized = true →
    (visited ++ rest).Nodup → (∀ c ∈ rest, ∃ context, s.contexts c = some context) →
    (TurnsOut t connects s visited rest ↔ Spaced t connects s rest)

theorem exactOn_nil (t : Thread) (connects : Bool) : ExactOn t connects [] := by
  intro s visited _ _ _
  refine iff_of_true ⟨_, by rw [terminateContextsWatched], ?_, ?_⟩ trivial
  · exact fun x hx => absurd hx List.not_mem_nil
  · exact fun x hx => absurd hx List.not_mem_nil

/-- A flagged context is followed by a turn at the next one. -/
theorem ExactOn.flagged (hrest : ExactOn t connects rest) (hinit : s.display.initialized = true)
    (honce : (visited ++ c :: rest).Nodup)
    (hlive : ∀ x ∈ rest, ∃ context, s.contexts x = some context)
    (hctx : s.contexts c = some context) (hflag : context.isCurrent = true) :
    TurnsOut t connects s visited (c :: rest) ↔ s.Current c ∧ Spaced t connects s rest := by
  have hc : c ∉ rest := (List.nodup_cons.mp (List.nodup_append.mp honce).2.1).1
  have hsame : ∀ x ∈ rest, (s.setContext c context.markToDelete).contexts x = s.contexts x := by
    intro x hx
    refine Function.update_of_ne ?_ _ _
    rintro rfl
    exact hc hx
  have hlive' : ∀ x ∈ rest, ∃ object,
      (s.setContext c context.markToDelete).contexts x = some object := by
    intro x hx
    rw [hsame x hx]
    exact hlive x hx
  have hexact := hrest (s.setContext c context.markToDelete) (visited ++ [c]) hinit
    (by simpa using honce) hlive'
  rw [turnsOut_flagged hinit honce hctx hflag, hexact]
  exact and_congr_right fun _ => spaced_congr (fun _ => Iff.rfl) Iff.rfl hsame

omit [DecidableEq Thread] in
theorem has_isCurrent_iff (hctx : s.contexts c = some context) :
    s.Has c EGLContext.isCurrent ↔ context.isCurrent = true := by
  unfold Has
  simp only [hctx, Option.some.injEq, exists_eq_left']

/-- The loop leaves what it should, without moving past the end, exactly on spaced lists. -/
theorem exactOn (t : Thread) (connects : Bool) (rest : List ContextPtr) :
    ExactOn t connects rest := by
  induction rest using List.twoStepInduction with
  | nil => exact exactOn_nil t connects
  | singleton c =>
      intro s visited hinit honce hlive
      obtain ⟨context, hctx⟩ := hlive c List.mem_cons_self
      by_cases hflag : context.isCurrent = true
      · rw [(exactOn_nil t connects).flagged hinit honce (by simp) hctx hflag]
        simp only [Spaced, has_isCurrent_iff hctx, hflag, true_and, not_true, false_and,
          or_false]
      · refine iff_of_false (not_turnsOut_last hinit hctx (Bool.eq_false_iff.mpr hflag)) ?_
        simp only [Spaced, has_isCurrent_iff hctx, hflag, and_false, or_false, Bool.false_eq_true,
          false_and, not_false_iff]
  | cons_cons c next rest ih ih' =>
      intro s visited hinit honce hlive
      obtain ⟨context, hctx⟩ := hlive c List.mem_cons_self
      have hlive' : ∀ x ∈ next :: rest, ∃ context, s.contexts x = some context :=
        fun x hx => hlive x (List.mem_cons_of_mem _ hx)
      rw [spaced_next, has_isCurrent_iff hctx]
      by_cases hflag : context.isCurrent = true
      · rw [(ih' next).flagged hinit honce hlive' hctx hflag]
        simp only [hflag, true_and, not_true, false_and, or_false]
      · obtain ⟨ret, s₁, hcall, hsame, -, hothers, -⟩ :=
          destroyContext_spec t connects hinit hctx
        have hfresh : c ∉ rest := by
          have hcons := (List.nodup_append.mp honce).2.1
          exact fun hmem => (List.nodup_cons.mp hcons).1 (List.mem_cons_of_mem _ hmem)
        have hkeep : ∀ x ∈ rest, s₁.contexts x = s.contexts x := by
          intro x hx
          refine hothers x ?_
          rintro rfl
          exact hfresh hx
        have hlive₁ : ∀ x ∈ rest, ∃ context, s₁.contexts x = some context := by
          intro x hx
          rw [hkeep x hx]
          exact hlive' x (List.mem_cons_of_mem _ hx)
        have honce' : (visited ++ [next] ++ rest).Nodup := by
          have hsub : (visited ++ next :: rest).Sublist (visited ++ c :: next :: rest) :=
            List.Sublist.append_left (List.sublist_cons_self c _) visited
          simpa using honce.sublist hsub
        have hexact := ih s₁ (visited ++ [next]) (by rw [hsame.display]; exact hinit) honce' hlive₁
        rw [turnsOut_next hinit honce hctx (Bool.eq_false_iff.mpr hflag) hcall, hexact,
          spaced_congr hsame.current_iff hsame.connection hkeep]
        simp only [hflag, Bool.false_eq_true, false_and, false_or, not_false_iff, true_and]

end Loop

/-! ## The whole function -/

section Terminate

variable [DecidableEq Thread] {t : Thread} {connects : Bool} {s s' : EGLState Thread}

theorem deleteSurface_spec (t : Thread) (connects : Bool) {surface : SurfacePtr}
    {object : EGLSurface} (hlive : s.surfaces surface = some object) :
    (s.CanConnect t connects → ∃ s', s.deleteSurface t connects surface = some s') ∧
      ∀ s', s.deleteSurface t connects surface = some s' →
        s.CanConnect t connects ∧ SameAround t connects s s' ∧ s'.contexts = s.contexts ∧
          s'.surfaces = Function.update s.surfaces surface none := by
  unfold deleteSurface
  cases hconn : s.getHostConnection t connects with
  | mk connected s₁ =>
      obtain ⟨hsame, hcontexts, hsurfaces, hconnected⟩ := getHostConnection_sameAround hconn
      rw [hlive]
      cases connected with
      | false =>
          refine ⟨fun hcan => absurd (hconnected.mpr hcan) (by simp), ?_⟩
          intro s' h
          cases h
      | true =>
          refine ⟨fun _ => ⟨_, rfl⟩, ?_⟩
          intro s' h
          cases h
          refine ⟨hconnected.mp rfl, ⟨hsame.current, hsame.display, hsame.connection⟩,
            hcontexts, ?_⟩
          rw [hsurfaces]

/-- The surfaces of a list are freed, for which a connection is needed if there are any. -/
theorem deleteSurfaces_spec (t : Thread) (connects : Bool) {surfaces : List SurfacePtr}
    (honce : surfaces.Nodup)
    (hlive : ∀ surface ∈ surfaces, ∃ object, s.surfaces surface = some object) :
    ((surfaces ≠ [] → s.CanConnect t connects) →
        ∃ s', surfaces.foldlM (deleteSurface t connects) s = some s') ∧
      ∀ s', surfaces.foldlM (deleteSurface t connects) s = some s' →
        (surfaces ≠ [] → s.CanConnect t connects) ∧ SameAround t connects s s' ∧
          s'.contexts = s.contexts ∧
          ∀ surface, s'.surfaces surface =
            if surface ∈ surfaces then none else s.surfaces surface := by
  induction surfaces generalizing s with
  | nil =>
      refine ⟨fun _ => ⟨s, rfl⟩, ?_⟩
      intro s' h
      cases h
      exact ⟨fun hne => absurd rfl hne, .refl t connects s, rfl, fun _ => by simp⟩
  | cons first rest ih =>
      obtain ⟨object, hobject⟩ := hlive first List.mem_cons_self
      obtain ⟨hrun, hspec⟩ := deleteSurface_spec t connects hobject
      obtain ⟨hfresh, honce'⟩ := List.nodup_cons.mp honce
      -- what a deletion leaves for the rest of the list
      have hrest : ∀ s₁, s.deleteSurface t connects first = some s₁ →
          ∀ surface ∈ rest, ∃ object, s₁.surfaces surface = some object := by
        intro s₁ hdelete surface hmem
        obtain ⟨-, -, -, hsurfaces⟩ := hspec s₁ hdelete
        rw [hsurfaces, Function.update_of_ne]
        · exact hlive surface (List.mem_cons_of_mem _ hmem)
        · rintro rfl
          exact hfresh hmem
      rw [List.foldlM_cons]
      constructor
      · intro hcan
        obtain ⟨s₁, hdelete⟩ := hrun (hcan (List.cons_ne_nil _ _))
        obtain ⟨hcan₁, hsame, -, -⟩ := hspec s₁ hdelete
        obtain ⟨s', htail⟩ := (ih honce' (hrest s₁ hdelete)).1 fun _ => hsame.connection.mpr hcan₁
        exact ⟨s', Option.bind_eq_some_iff.mpr ⟨s₁, hdelete, htail⟩⟩
      · intro s' h
        obtain ⟨s₁, hdelete, htail⟩ := Option.bind_eq_some_iff.mp h
        obtain ⟨hcan₁, hsame, hcontexts, hsurfaces⟩ := hspec s₁ hdelete
        obtain ⟨-, hsame', hcontexts', hsurfaces'⟩ :=
          (ih honce' (hrest s₁ hdelete)).2 s' htail
        refine ⟨fun _ => hcan₁, hsame.trans hsame', hcontexts'.trans hcontexts, ?_⟩
        intro surface
        rw [hsurfaces', hsurfaces]
        by_cases hfirst : surface = first
        · subst hfirst
          simp
        · simp [hfirst]

omit [DecidableEq Thread] in
theorem contextsTerminated_congr {s₁ : EGLState Thread} {listed : List ContextPtr}
    (hcurrent : ∀ c, s₁.Current c ↔ s.Current c) :
    ContextsTerminated s₁ listed s' ↔ ContextsTerminated s listed s' := by
  constructor
  · rintro ⟨hdestroyed, hkept⟩
    refine ⟨fun c hc hother => hdestroyed c hc (mt (hcurrent c).mp hother), ?_⟩
    exact fun c hc hcur => hkept c hc ((hcurrent c).mpr hcur)
  · rintro ⟨hdestroyed, hkept⟩
    refine ⟨fun c hc hother => hdestroyed c hc (mt (hcurrent c).mpr hother), ?_⟩
    exact fun c hc hcur => hkept c hc ((hcurrent c).mp hcur)

/-- After `m_surfaces.clear()`. -/
def withoutSurfaces (s : EGLState Thread) : EGLState Thread :=
  { s with display := { s.display with surfaces := [] } }

section Registered

variable {s₁ : EGLState Thread} (hregistered : s.Registered)
  (hsurfaces : s.display.surfaces.foldlM (deleteSurface t connects) s = some s₁)
include hregistered hsurfaces

/-- What is as before when the surfaces are gone. -/
theorem surfaces_deleted :
    (s.display.surfaces ≠ [] → s.CanConnect t connects) ∧ SameAround t connects s s₁ ∧
      s₁.contexts = s.contexts ∧
      ∀ surface, s₁.surfaces surface =
        if surface ∈ s.display.surfaces then none else s.surfaces surface :=
  (deleteSurfaces_spec t connects hregistered.surfacesOnce hregistered.surfacesLive).2 s₁ hsurfaces

theorem initialized_withoutSurfaces : s₁.withoutSurfaces.display.initialized = true := by
  obtain ⟨-, hsame, -, -⟩ := surfaces_deleted hregistered hsurfaces
  show s₁.display.initialized = true
  rw [hsame.display]
  exact hregistered.initialized

/-- What the loop over the contexts does after the surfaces are gone. -/
theorem turnsOut_iff_spaced :
    TurnsOut t connects s₁.withoutSurfaces [] s.display.contexts ↔
      Spaced t connects s s.display.contexts := by
  obtain ⟨-, hsame, hcontexts, -⟩ := surfaces_deleted hregistered hsurfaces
  have hlive := hregistered.contextsLive
  have hexact := exactOn t connects s.display.contexts
    s₁.withoutSurfaces [] (initialized_withoutSurfaces hregistered hsurfaces)
    hregistered.contextsOnce (by rw [← hcontexts] at hlive; exact hlive)
  exact hexact.trans (spaced_congr hsame.current_iff hsame.connection
    fun c _ => congrFun hcontexts c)

/-- The loop frees no surface, so those of the list are what is gone. -/
theorem surfaces_kept_iff
    (hrun : terminateContextsWatched t connects s₁.withoutSurfaces [] s.display.contexts =
      some (s', false)) :
    (∀ surface, s.UsedSurface surface → s.surfaces surface ≠ none →
        s'.surfaces surface ≠ none) ↔
      ∀ surface ∈ s.display.surfaces, ¬s.UsedSurface surface := by
  obtain ⟨-, hsame, -, hgone⟩ := surfaces_deleted hregistered hsurfaces
  have hpassed := passed_of_watched (initialized_withoutSurfaces hregistered hsurfaces) hrun
  rw [hpassed.surfaces]
  constructor
  · intro hkept surface hmem hused
    obtain ⟨object, hobject⟩ := hregistered.surfacesLive surface hmem
    refine hkept surface hused (by simp [hobject]) ?_
    show s₁.surfaces surface = none
    rw [hgone, if_pos hmem]
  · intro hunused surface hused hsurface
    show s₁.surfaces surface ≠ none
    rw [hgone, if_neg fun hmem => hunused surface hmem hused]
    exact hsurface

end Registered

theorem terminatesCleanly_of_terminated (hregistered : s.Registered)
    (hrun : s.terminateWatched t connects = some (s', false)) (hterminated : Terminated s s') :
    TerminatesCleanly s t connects := by
  obtain ⟨s₁, hsurfaces, hrest⟩ := Option.bind_eq_some_iff.mp hrun
  obtain ⟨hconnected, hsame, -, -⟩ := surfaces_deleted hregistered hsurfaces
  have hrest : terminateContextsWatched t connects s₁.withoutSurfaces [] s₁.display.contexts =
      some (s', false) := hrest
  rw [hsame.display] at hrest
  refine ⟨(turnsOut_iff_spaced hregistered hsurfaces).mp ⟨s', hrest, ?_⟩, ?_, hconnected⟩
  · have hcurrent : ∀ c, s₁.withoutSurfaces.Current c ↔ s.Current c := hsame.current_iff
    exact (contextsTerminated_congr hcurrent).mpr hterminated.contexts
  · exact (surfaces_kept_iff hregistered hsurfaces hrest).mp hterminated.surfaces

end Terminate

end EGLState

open EGLState Library

/-- The contexts 2 and 5 of which the second is current to thread `false`, without surfaces. -/
def secondCurrent : List (Bool × EGLCall) :=
  openDisplay false ++
    [(false, .eglCreateContext true 10#32 s_display 0#32 none none),
      (false, .eglMakeCurrent ⟨true, EGL_TRUE⟩ s_display (some 0) (some 0) (some 5)),
      (false, .eglDestroySurface true s_display (some 0)),
      (false, .eglDestroySurface true s_display (some 1))]

def stateAfter (calls : List (Bool × EGLCall)) : EGLState Bool :=
  endState EGLState.init (partialTraceOf runCall EGLState.init calls)

end EGL
end DeviceAndroVM
