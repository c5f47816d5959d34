import DeviceAndroVM.EGL.Lifetime

/-!
# What the encoders of a thread hold

`eglMakeCurrent` points the encoder of the new context's version at its client
state; the other encoder is released only when there is no new context.

* `EncodersFollow` — each encoder of the thread holds what belongs to the
  thread's current context of its version, or nothing, and no freed client
  state.
* `encoders_follow_iff` — on one thread this holds after every call exactly
  when no accepted call switches between contexts of different encoders.
-/

namespace DeviceAndroVM
namespace EGL

open Library

universe u

variable {Thread : Type u}

namespace EGLState

/-! ## Client states -/

/-- Every context has a live client state of its own. -/
structure StatesOwned (s : EGLState Thread) : Prop where
  live : ∀ c context, s.contexts c = some context → s.clientStates context.clientState = true
  bounded : ∀ c context, s.contexts c = some context → context.clientState < s.nextPtr
  own : ∀ c c' context context', s.contexts c = some context → s.contexts c' = some context' →
    context.clientState = context'.clientState → c = c'

theorem StatesOwned.sameContexts {s s' : EGLState Thread} (h : StatesOwned s)
    (hsame : SameContexts s s') : StatesOwned s' where
  live := by simpa only [hsame.contexts, hsame.clientStates] using h.live
  bounded := by
    intro c context hctx
    rw [hsame.contexts] at hctx
    exact (h.bounded c context hctx).trans_le hsame.nextPtr
  own := by simpa only [hsame.contexts] using h.own

theorem StatesOwned.setContext {s : EGLState Thread} (h : StatesOwned s) {c : ContextPtr}
    {context context' : EGLContext} (hctx : s.contexts c = some context)
    (hstate : context'.clientState = context.clientState) :
    StatesOwned (s.setContext c context') := by
  have hbehind : ∀ x object, (s.setContext c context').contexts x = some object →
      ∃ old, s.contexts x = some old ∧ object.clientState = old.clientState := by
    intro x object hobject
    by_cases hxc : x = c
    · subst hxc
      obtain rfl : context' = object := by simpa using hobject
      exact ⟨context, hctx, hstate⟩
    · exact ⟨object, by simpa [hxc] using hobject, rfl⟩
  exact {
    live := by
      intro x object hobject
      obtain ⟨old, hold, heq⟩ := hbehind x object hobject
      rw [heq]
      exact h.live x old hold
    bounded := by
      intro x object hobject
      obtain ⟨old, hold, heq⟩ := hbehind x object hobject
      rw [heq]
      exact h.bounded x old hold
    own := by
      intro x y object object' hobject hobject' hsame
      obtain ⟨old, hold, heq⟩ := hbehind x object hobject
      obtain ⟨old', hold', heq'⟩ := hbehind y object' hobject'
      exact h.own x y old old' hold hold' (by rw [← heq, ← heq', hsame]) }

theorem StatesOwned.destroyed {s : EGLState Thread} (h : StatesOwned s) {c : ContextPtr}
    {context : EGLContext} (hctx : s.contexts c = some context) :
    StatesOwned (s.destroyed c context) := by
  have hother : ∀ x object, (s.destroyed c context).contexts x = some object →
      x ≠ c ∧ s.contexts x = some object := by
    intro x object hobject
    have hxc : x ≠ c := by
      rintro rfl
      simp at hobject
    exact ⟨hxc, by simpa [hxc] using hobject⟩
  exact {
    live := by
      intro x object hobject
      obtain ⟨hxc, hold⟩ := hother x object hobject
      have hne : object.clientState ≠ context.clientState := fun heq =>
        hxc (h.own x c object context hold hctx heq)
      simp [hne, h.live x object hold]
    bounded := by
      intro x object hobject
      rw [nextPtr_destroyed]
      exact h.bounded x object (hother x object hobject).2
    own := fun x y object object' hobject hobject' =>
      h.own x y object object' (hother x object hobject).2 (hother y object' hobject').2 }

theorem StatesOwned.created {s s' : EGLState Thread} (h : StatesOwned s) {c : ContextPtr}
    {context : EGLContext} (hnew : CreatedContext s s' c context) : StatesOwned s' := by
  have hcases : ∀ x object, s'.contexts x = some object →
      x = c ∧ object = context ∨ s.contexts x = some object := by
    intro x object hobject
    rw [hnew.contexts] at hobject
    by_cases hxc : x = c
    · subst hxc
      exact Or.inl ⟨rfl, by simpa using hobject.symm⟩
    · exact Or.inr (by simpa [hxc] using hobject)
  have hfresh : ∀ x object, s.contexts x = some object →
      object.clientState < context.clientState := fun x object hobject =>
    (h.bounded x object hobject).trans_le hnew.freshState
  exact {
    live := by
      intro x object hobject
      rw [hnew.clientStates]
      rcases hcases x object hobject with ⟨-, rfl⟩ | hobject
      · simp
      · simp [(hfresh x object hobject).ne, h.live x object hobject]
    bounded := by
      intro x object hobject
      rcases hcases x object hobject with ⟨-, rfl⟩ | hobject
      · exact hnew.nextPtr.2
      · exact (hfresh x object hobject).trans hnew.nextPtr.2
    own := by
      intro x y object object' hobject hobject' hsame
      rcases hcases x object hobject with ⟨rfl, rfl⟩ | hobject
      · rcases hcases y object' hobject' with ⟨rfl, -⟩ | hobject'
        · rfl
        · exact absurd hsame.symm (hfresh y object' hobject').ne
      · rcases hcases y object' hobject' with ⟨-, rfl⟩ | hobject'
        · exact absurd hsame (hfresh x object hobject).ne
        · exact h.own x y object object' hobject hobject' hsame }

variable [DecidableEq Thread]

theorem StatesOwned.leave {s : EGLState Thread} (h : StatesOwned s) {t : Thread}
    {p : ContextPtr} {previous : EGLContext} (hprev : s.contexts p = some previous) :
    StatesOwned (s.leave t p previous) := by
  have hcleared : StatesOwned (s.setContext p previous.clearCurrent) := h.setContext hprev rfl
  have hdropped : StatesOwned ((s.setContext p previous.clearCurrent).setCurrentContext t none) :=
    ⟨hcleared.live, hcleared.bounded, hcleared.own⟩
  unfold EGLState.leave
  dsimp only
  split_ifs
  · rw [← destroyed_clearCurrent]
    exact hdropped.destroyed (contexts_setContext_self s p previous.clearCurrent)
  · exact hdropped

theorem StatesOwned.makeCurrent {s s' : EGLState Thread} {t : Thread} (h : StatesOwned s)
    {draw read : Option SurfacePtr} {ctx : Option ContextPtr}
    (hout : MakeCurrentOutcome s t draw read ctx s') : StatesOwned s' := by
  cases hout with
  | @rebound c context s' hcur hctx hsame =>
      refine (h.setContext hctx ?_).sameContexts hsame
      unfold reboundContext
      dsimp only
      split_ifs <;> rfl
  | released hcur hprev hsame => exact (h.leave hprev).sameContexts hsame
  | @entered c context s₁ s' hcur hctx hfree hleft hsame =>
      have hleftOwned : StatesOwned s₁ := by
        cases hleft with
        | idle hidle => exact h
        | left hprevCtx hprev => exact h.leave hprev
      have hctx₁ : s₁.contexts c = some context := (hleft.contexts_of_ne hcur).trans hctx
      have hbound : StatesOwned (s₁.setContext c (context.bind draw read)) :=
        hleftOwned.setContext hctx₁ rfl
      have hentered : StatesOwned (s₁.enter t c context draw read) :=
        ⟨hbound.live, hbound.bounded, hbound.own⟩
      exact hentered.sameContexts hsame

/-! ## Encoders through a call -/

theorem sameHeld_setCurrentContext (s : EGLState Thread) (t : Thread)
    (ctx : Option ContextPtr) : SameHeld s (s.setCurrentContext t ctx) :=
  fun t' api => held_updThread s t t' api fun _ => rfl

theorem held_setEncoder (s : EGLState Thread) {t : Thread} {hostCon : HostConnection}
    (hconn : (s.threads t).hostConn = some hostCon) (api api' : ClientApi)
    (clientState : Option ClientStatePtr) (sharedGroup : Option SharedGroupPtr) :
    (s.setEncoder t api clientState sharedGroup).held t api' =
      if api' = api then (clientState, sharedGroup) else s.held t api' := by
  by_cases hapi : api' = api
  · subst hapi
    simp [held, setEncoder, updThread, hconn, HostConnection.encoder]
  · simp [held, setEncoder, updThread, hconn, HostConnection.encoder, hapi]

omit [DecidableEq Thread] in
theorem sameHeld_requestDestroy (s : EGLState Thread) (context : EGLContext) :
    SameHeld s (s.requestDestroy context) := by
  unfold requestDestroy
  split_ifs <;> exact fun _ _ => rfl

theorem eglDestroyContext_sameHeld {s s' : EGLState Thread} {t : Thread} {connects ret : Bool}
    {dpy : EGLDisplay} {ctx : Option ContextPtr}
    (h : s.eglDestroyContext t connects dpy ctx = some (ret, s')) : SameHeld s s' := by
  rcases destroyContextWith_cases h with ⟨-, hheld⟩ |
    ⟨c, context, -, -, -, -, ⟨-, rfl⟩ | ⟨-, -, s₁, -, hheld, rfl⟩⟩
  · exact hheld
  · exact fun _ _ => rfl
  · intro t' api
    exact (sameHeld_requestDestroy s₁ context t' api).trans (hheld t' api)

/-- After the local bind the flags, the previous context and the initialisation
of the encoder do not change what the encoders hold. -/
theorem makeCurrentLocally_held {s s' : EGLState Thread} {t : Thread} {connects : Bool}
    {draw read : Option SurfacePtr} {ctx : Option ContextPtr}
    (h : s.makeCurrentLocally t connects draw read ctx = some s') :
    ∃ s₁, s.bindLocally t draw read ctx = some s₁ ∧ SameHeld s₁ s' := by
  simp only [makeCurrentLocally, Option.bind_eq_bind, Option.bind_eq_some_iff] at h
  obtain ⟨s₁, hbind, s₂, hrelease, s₃, hdestroy, henc⟩ := h
  have hreleased : SameHeld s₁ s₂ := by
    unfold releaseCurrent at hrelease
    split at hrelease
    · exact Option.some.inj hrelease ▸ fun _ _ => rfl
    · obtain ⟨previous, -, rfl⟩ := Option.map_eq_some_iff.mp hrelease
      exact fun _ _ => rfl
  have hdestroyed : SameHeld (s₂.setCurrentContext t ctx) s₃ := by
    unfold destroyMarked at hdestroy
    split at hdestroy
    · exact Option.some.inj hdestroy ▸ fun _ _ => rfl
    · split at hdestroy
      · cases hdestroy
      · split_ifs at hdestroy
        · obtain ⟨⟨ret, s₄⟩, hcall, rfl⟩ := Option.map_eq_some_iff.mp hdestroy
          exact eglDestroyContext_sameHeld hcall
        · exact Option.some.inj hdestroy ▸ fun _ _ => rfl
  refine ⟨s₁, hbind, fun t' api => ?_⟩
  calc s'.held t' api = s₃.held t' api := initEncoder_sameHeld henc t' api
    _ = (s₂.setCurrentContext t ctx).held t' api := hdestroyed t' api
    _ = s₂.held t' api := sameHeld_setCurrentContext s₂ t ctx t' api
    _ = s₁.held t' api := hreleased t' api

/-- What an accepted `eglMakeCurrent` does to the caller's encoders: the one of
the new context is pointed at it, or that of the previous one is released. -/
def EncoderMoved (s : EGLState Thread) (t : Thread) (ctx : Option ContextPtr)
    (s' : EGLState Thread) : Prop :=
  match ctx with
  | some c => ∃ context, s.contexts c = some context ∧ ∀ api, s'.held t api =
      if api = context.api then (some context.clientState, some context.sharedGroup)
      else s.held t api
  | none => ∃ p previous, s.currentContext t = some p ∧ s.contexts p = some previous ∧
      ∀ api, s'.held t api = if api = previous.api then (none, none) else s.held t api

theorem eglMakeCurrent_held {s s' : EGLState Thread} {t : Thread} {reply : HostReply}
    {ret : Bool} {dpy : EGLDisplay} {draw read : Option SurfacePtr} {ctx : Option ContextPtr}
    (h : s.eglMakeCurrent t reply dpy draw read ctx = some (ret, s')) :
    SameHeld s s' ∧ ¬s.AcceptsMakeCurrent t reply dpy draw read ctx ∨
      EncoderMoved s t ctx s' := by
  rcases eglMakeCurrent_cases h with ⟨hnot, -, hheld⟩ |
    ⟨-, s₀, hsame, hheld, -, ⟨hostCon, hconn⟩, hlocal⟩
  · exact Or.inl ⟨hheld, hnot⟩
  · refine Or.inr ?_
    obtain ⟨s₁, hbind, hrest⟩ := makeCurrentLocally_held hlocal
    cases ctx with
    | some c =>
        obtain ⟨context, hctx, rfl⟩ := Option.map_eq_some_iff.mp hbind
        rw [hsame.contexts] at hctx
        have hconn' : ((s₀.setContext c (context.bind draw read)).threads t).hostConn =
            some hostCon := hconn
        refine ⟨context, hctx, fun api => ?_⟩
        rw [hrest t api, held_setEncoder _ hconn']
        split_ifs
        · rfl
        · exact hheld t api
    | none =>
        obtain ⟨previous, hprev, rfl⟩ := Option.map_eq_some_iff.mp hbind
        obtain ⟨p, hcur, hprev⟩ := Option.bind_eq_some_iff.mp hprev
        rw [hsame.current] at hcur
        rw [hsame.contexts] at hprev
        refine ⟨p, previous, hcur, hprev, fun api => ?_⟩
        rw [hrest t api, held_setEncoder _ hconn]
        split_ifs
        · rfl
        · exact hheld t api

/-! ## The invariant of one thread -/

/-- Each encoder of the thread holds the client state and the shared group of
the thread's current context if that is of its version, or nothing; a client
state it holds has not been deleted. -/
structure EncodersFollow (s : EGLState Thread) (t : Thread) : Prop where
  clientState : ∀ api, (s.held t api).1 = none ∨ ∃ c context, s.currentContext t = some c ∧
    s.contexts c = some context ∧ context.api = api ∧ (s.held t api).1 = some context.clientState
  sharedGroup : ∀ api, (s.held t api).2 = none ∨ ∃ c context, s.currentContext t = some c ∧
    s.contexts c = some context ∧ context.api = api ∧ (s.held t api).2 = some context.sharedGroup
  live : ∀ api p, (s.held t api).1 = some p → s.clientStates p = true

/-- What the encoder of one API should hold: the pointers of the current
context, if it is of that API. -/
def ownPointers (s : EGLState Thread) (t : Thread) (api : ClientApi) :
    Option ClientStatePtr × Option SharedGroupPtr :=
  match (s.currentContext t).bind s.contexts with
  | some context =>
      if api = context.api then (some context.clientState, some context.sharedGroup)
      else (none, none)
  | none => (none, none)

/-- The invariant of a run in which only one thread makes calls. -/
structure EncoderInv (s : EGLState Thread) (t : Thread) : Prop extends Owned s where
  states : StatesOwned s
  alone : ∀ t', t' ≠ t → s.currentContext t' = none
  points : ∀ api, s.held t api = s.ownPointers t api

omit [DecidableEq Thread] in
theorem ownPointers_of_current {s : EGLState Thread} {t : Thread} {c : ContextPtr}
    {context : EGLContext} (hcur : s.currentContext t = some c)
    (hctx : s.contexts c = some context) (api : ClientApi) :
    s.ownPointers t api =
      if api = context.api then (some context.clientState, some context.sharedGroup)
      else (none, none) := by
  simp [ownPointers, hcur, hctx]

omit [DecidableEq Thread] in
theorem ownPointers_of_idle {s : EGLState Thread} {t : Thread}
    (hcur : s.currentContext t = none) (api : ClientApi) :
    s.ownPointers t api = (none, none) := by
  simp [ownPointers, hcur]

omit [DecidableEq Thread] in
theorem EncoderInv.encodersFollow {s : EGLState Thread} {t : Thread} (h : EncoderInv s t) :
    EncodersFollow s t := by
  have hall : ∀ api, s.held t api = (none, none) ∨ ∃ c context, s.currentContext t = some c ∧
      s.contexts c = some context ∧ context.api = api ∧
      s.held t api = (some context.clientState, some context.sharedGroup) := by
    intro api
    rw [h.points]
    cases hcur : s.currentContext t with
    | none => exact Or.inl (ownPointers_of_idle hcur api)
    | some c =>
        obtain ⟨context, hctx⟩ := h.live t c hcur
        rw [ownPointers_of_current hcur hctx]
        by_cases hapi : api = context.api
        · exact Or.inr ⟨c, context, rfl, hctx, hapi.symm, if_pos hapi⟩
        · exact Or.inl (if_neg hapi)
  refine ⟨fun api => ?_, fun api => ?_, fun api p hp => ?_⟩
  · rcases hall api with hnone | ⟨c, context, hcur, hctx, hapi, hheld⟩
    · exact Or.inl (by rw [hnone])
    · exact Or.inr ⟨c, context, hcur, hctx, hapi, by rw [hheld]⟩
  · rcases hall api with hnone | ⟨c, context, hcur, hctx, hapi, hheld⟩
    · exact Or.inl (by rw [hnone])
    · exact Or.inr ⟨c, context, hcur, hctx, hapi, by rw [hheld]⟩
  · rcases hall api with hnone | ⟨c, context, hcur, hctx, hapi, hheld⟩
    · rw [hnone] at hp
      cases hp
    · rw [hheld] at hp
      obtain rfl := Option.some.inj hp
      exact h.states.live c context hctx

omit [DecidableEq Thread] in
/-- The invariant depends on the encoders, on who is current and on the current
objects up to flags and surfaces. -/
theorem ownPointers_congr {s s' : EGLState Thread} {t : Thread}
    (hcur : s'.currentContext t = s.currentContext t)
    (hlive : ∀ c, s.currentContext t = some c → ∃ context, s.contexts c = some context)
    (hobject : ∀ c context, s.currentContext t = some c → s.contexts c = some context →
      ∃ context', s'.contexts c = some context' ∧ context.SameObject context')
    (api : ClientApi) : s'.ownPointers t api = s.ownPointers t api := by
  cases hctx : s.currentContext t with
  | none => rw [ownPointers_of_idle hctx, ownPointers_of_idle (hcur.trans hctx)]
  | some c =>
      obtain ⟨context, hcontext⟩ := hlive c hctx
      obtain ⟨context', hcontext', hsame⟩ := hobject c context hctx hcontext
      rw [ownPointers_of_current hctx hcontext,
        ownPointers_of_current (hcur.trans hctx) hcontext', hsame.api, hsame.clientState,
        hsame.sharedGroup]

/-! ## Preservation -/

omit [DecidableEq Thread] in
theorem EncoderInv.sameContexts {s s' : EGLState Thread} {t : Thread} (h : EncoderInv s t)
    (hsame : SameContexts s s') (hheld : SameHeld s s') : EncoderInv s' t where
  toOwned := h.toOwned.sameContexts hsame
  states := h.states.sameContexts hsame
  alone := by simpa only [hsame.current] using h.alone
  points := by
    intro api
    rw [hheld t api, h.points]
    refine (ownPointers_congr (hsame.current t) (h.live t) ?_ api).symm
    intro c context _ hctx
    exact ⟨context, by rwa [hsame.contexts], rfl, rfl, rfl, rfl⟩

omit [DecidableEq Thread] in
theorem EncoderInv.created {s s' : EGLState Thread} {t : Thread} (h : EncoderInv s t)
    {c : ContextPtr} {context : EGLContext} (hnew : CreatedContext s s' c context) :
    EncoderInv s' t where
  toOwned := h.toOwned.created hnew
  states := h.states.created hnew
  alone := by simpa only [hnew.current] using h.alone
  points := by
    intro api
    rw [hnew.held t api, h.points]
    refine (ownPointers_congr (hnew.current t) (h.live t) ?_ api).symm
    intro x object _ hobject
    have hxc : x ≠ c := ((h.bounded x object hobject).trans_le hnew.fresh).ne
    exact ⟨object, by simp [hnew.contexts, hxc, hobject], rfl, rfl, rfl, rfl⟩

theorem EncoderInv.eglDestroyContext {s s' : EGLState Thread} {t : Thread}
    (h : EncoderInv s t) {connects ret : Bool} {dpy : EGLDisplay} {ctx : Option ContextPtr}
    (hcall : s.eglDestroyContext t connects dpy ctx = some (ret, s')) : EncoderInv s' t := by
  have hheld := eglDestroyContext_sameHeld hcall
  rcases destroyContextWith_cases hcall with ⟨hsame, -⟩ |
    ⟨c, context, rfl, hctx, -, -, ⟨hcur, rfl⟩ | ⟨hcur, -, s₁, hsame, -, rfl⟩⟩
  · exact h.sameContexts hsame hheld
  · exact {
      toOwned := h.markToDelete hcur hctx
      states := h.states.setContext hctx rfl
      alone := h.alone
      points := by
        intro api
        rw [hheld t api, h.points]
        refine (ownPointers_congr (currentContext_setContext s c _ t) (h.live t) ?_ api).symm
        intro x object hx hobject
        obtain rfl := Option.some.inj (hcur.symm.trans hx)
        obtain rfl := Option.some.inj (hctx.symm.trans hobject)
        exact ⟨context.markToDelete, by simp, rfl, rfl, rfl, rfl⟩ }
  · have hnobody : ∀ t', s.currentContext t' ≠ some c := by
      intro t' ht'
      by_cases ht : t' = t
      · exact hcur (ht ▸ ht')
      · rw [h.alone t' ht] at ht'
        cases ht'
    have hafter : SameContexts (s.destroyed c context) (s₁.destroyed c context) :=
      hsame.destroyed c context
    exact {
      toOwned := (h.toOwned.destroyed hctx hnobody).sameContexts hafter
      states := (h.states.destroyed hctx).sameContexts hafter
      alone := by
        intro t' ht
        have hcurrent := (hafter.current t').trans (currentContext_destroyed s c context t')
        exact hcurrent.trans (h.alone t' ht)
      points := by
        intro api
        rw [hheld t api, h.points]
        refine (ownPointers_congr ?_ (h.live t) ?_ api).symm
        · exact (hafter.current t).trans (currentContext_destroyed s c context t)
        · intro x object hx hobject
          have hxc : x ≠ c := fun heq => hcur (heq ▸ hx)
          have hkept : (s₁.destroyed c context).contexts x = some object := by
            rw [hafter.contexts, contexts_destroyed, Function.update_of_ne hxc, hobject]
          exact ⟨object, hkept, rfl, rfl, rfl, rfl⟩ }

/-- After an accepted `eglMakeCurrent` the named context is current and the
same object as before. -/
theorem MakeCurrentOutcome.current {s s' : EGLState Thread} {t : Thread}
    {draw read : Option SurfacePtr} {ctx : Option ContextPtr}
    (hout : MakeCurrentOutcome s t draw read ctx s') :
    s'.currentContext t = ctx ∧
      (∀ t', t' ≠ t → s'.currentContext t' = s.currentContext t') ∧
      ∀ c context, ctx = some c → s.contexts c = some context →
        ∃ context', s'.contexts c = some context' ∧ context.SameObject context' := by
  cases hout with
  | @rebound c context s' hcur hctx hsame =>
      refine ⟨(hsame.current t).trans hcur, fun t' _ => hsame.current t', ?_⟩
      rintro c' context' ⟨⟩ hctx'
      obtain rfl := Option.some.inj (hctx.symm.trans hctx')
      refine ⟨reboundContext context draw read, by simp [hsame.contexts], ?_⟩
      unfold reboundContext
      dsimp only
      split_ifs <;> exact ⟨rfl, rfl, rfl, rfl⟩
  | @released p previous s' hcur hprev hsame =>
      refine ⟨by simp [hsame.current], fun t' ht => by simp [hsame.current, ht], ?_⟩
      intro c context hnone
      cases hnone
  | @entered c context s₁ s' hcur hctx hfree hleft hsame =>
      refine ⟨by simp [hsame.current], ?_, ?_⟩
      · intro t' ht
        simp [hsame.current, hleft.currentContext, ht]
      · rintro c' context' ⟨⟩ hctx'
        obtain rfl := Option.some.inj (hctx.symm.trans hctx')
        exact ⟨context.bind draw read, by simp [hsame.contexts], rfl, rfl, rfl, rfl⟩

/-- An accepted `eglMakeCurrent` that stays with one encoder keeps the
invariant. -/
theorem EncoderInv.makeCurrent {s s' : EGLState Thread} {t : Thread} (h : EncoderInv s t)
    {draw read : Option SurfacePtr} {ctx : Option ContextPtr}
    (hout : MakeCurrentOutcome s t draw read ctx s') (hmoved : EncoderMoved s t ctx s')
    (hstays : ∀ p c previous context, s.currentContext t = some p → ctx = some c →
      s.contexts p = some previous → s.contexts c = some context →
      previous.api = context.api) : EncoderInv s' t := by
  obtain ⟨hcurrent, hothers, hobject⟩ := hout.current
  have hfree : ∀ c t', ctx = some c → t' ≠ t → s.currentContext t' ≠ some c := by
    intro c t' _ ht
    rw [h.alone t' ht]
    exact (Option.some_ne_none c).symm
  refine ⟨(h.toOwned.makeCurrent hout hfree).1, h.states.makeCurrent hout, ?_, ?_⟩
  · intro t' ht
    rw [hothers t' ht, h.alone t' ht]
  · intro api
    cases ctx with
    | some c =>
        obtain ⟨context, hctx, hheld⟩ := hmoved
        obtain ⟨context', hctx', hsame⟩ := hobject c context rfl hctx
        rw [hheld, ownPointers_of_current hcurrent hctx', hsame.api, hsame.clientState,
          hsame.sharedGroup]
        split_ifs with hapi
        · rfl
        · -- the other encoder held nothing, because the previous context is of this API
          rw [h.points]
          cases hcur : s.currentContext t with
          | none => exact ownPointers_of_idle hcur api
          | some p =>
              obtain ⟨previous, hprev⟩ := h.live t p hcur
              have hsameApi := hstays p c previous context hcur rfl hprev hctx
              rw [ownPointers_of_current hcur hprev, if_neg (by rwa [hsameApi])]
    | none =>
        obtain ⟨p, previous, hcur, hprev, hheld⟩ := hmoved
        rw [hheld, ownPointers_of_idle hcurrent]
        split_ifs with hapi
        · rfl
        · rw [h.points, ownPointers_of_current hcur hprev, if_neg hapi]

/-- After a switch between contexts of different encoders the old encoder holds
the client state of a context that is not current. -/
theorem EncoderInv.not_encodersFollow {s s' : EGLState Thread} {t : Thread}
    (h : EncoderInv s t) {draw read : Option SurfacePtr} {c p : ContextPtr}
    {context previous : EGLContext} (hout : MakeCurrentOutcome s t draw read (some c) s')
    (hmoved : EncoderMoved s t (some c) s') (hcur : s.currentContext t = some p)
    (hprev : s.contexts p = some previous) (hctx : s.contexts c = some context)
    (hdiffer : previous.api ≠ context.api) : ¬EncodersFollow s' t := by
  intro hfollow
  obtain ⟨context₀, hctx₀, hheld⟩ := hmoved
  obtain rfl := Option.some.inj (hctx.symm.trans hctx₀)
  have hstale : s'.held t previous.api =
      (some previous.clientState, some previous.sharedGroup) := by
    rw [hheld, if_neg hdiffer, h.points, ownPointers_of_current hcur hprev, if_pos rfl]
  obtain ⟨hcurrent, -, hobject⟩ := hout.current
  obtain ⟨context', hctx', hsame⟩ := hobject c context rfl hctx
  rcases hfollow.clientState previous.api with hnone | ⟨c', other, hcur', hother, hapi, -⟩
  · rw [hstale] at hnone
    cases hnone
  · obtain rfl := Option.some.inj (hcurrent.symm.trans hcur')
    obtain rfl := Option.some.inj (hctx'.symm.trans hother)
    exact hdiffer (hapi.symm.trans hsame.api)

end EGLState

open EGLState

/-! ## Runs of one thread -/

/-- The calls other than `eglTerminate`. -/
def EGLCall.KeepsDisplay : EGLCall → Prop
  | .eglTerminate _ _ => False
  | _ => True

variable [DecidableEq Thread]

/-- The call is an accepted `eglMakeCurrent` that goes from a current context
to one of the other encoder. -/
def SwitchesEncoder (s : EGLState Thread) : Thread × EGLCall → Prop
  | (t, .eglMakeCurrent reply dpy draw read ctx) =>
      s.AcceptsMakeCurrent t reply dpy draw read ctx ∧
        ∃ p c previous context, s.currentContext t = some p ∧ ctx = some c ∧
          s.contexts p = some previous ∧ s.contexts c = some context ∧
          previous.api ≠ context.api
  | _ => False

/-- One call of the thread: without a switch the invariant is kept, with one
the property is lost. -/
theorem eglStep_encoders {s s' : EGLState Thread} {t : Thread} {call : EGLCall}
    (h : EncoderInv s t) (hkeeps : call.KeepsDisplay) (hstep : EGLStep s (t, call) s') :
    (¬SwitchesEncoder s (t, call) → EncoderInv s' t) ∧
      (EncodersFollow s' t → ¬SwitchesEncoder s (t, call)) := by
  have hsame : SameContexts s s' ∧ SameHeld s s' → ¬SwitchesEncoder s (t, call) →
      (¬SwitchesEncoder s (t, call) → EncoderInv s' t) ∧
        (EncodersFollow s' t → ¬SwitchesEncoder s (t, call)) :=
    fun hunchanged hnot =>
      ⟨fun _ => h.sameContexts hunchanged.1 hunchanged.2, fun _ => hnot⟩
  have hmake : ∀ {reply dpy draw read ctx ret},
      s.eglMakeCurrent t reply dpy draw read ctx = some (ret, s') →
      (¬SwitchesEncoder s (t, .eglMakeCurrent reply dpy draw read ctx) → EncoderInv s' t) ∧
        (EncodersFollow s' t →
          ¬SwitchesEncoder s (t, .eglMakeCurrent reply dpy draw read ctx)) := by
    intro reply dpy draw read ctx ret hcall
    rcases eglMakeCurrent_outcome hcall with ⟨hnot, hunchanged⟩ | ⟨haccept, hout⟩
    · rcases eglMakeCurrent_cases hcall with ⟨-, -, hheld⟩ | ⟨haccept, -⟩
      · exact ⟨fun _ => h.sameContexts hunchanged hheld, fun _ hswitch => hnot hswitch.1⟩
      · exact absurd haccept hnot
    · have hmoved : EncoderMoved s t ctx s' :=
        (eglMakeCurrent_held hcall).resolve_left fun hrefused => hrefused.2 haccept
      constructor
      · intro hno
        refine h.makeCurrent hout hmoved ?_
        intro p c previous context hcur hc hprev hctx
        by_contra hdiffer
        exact hno ⟨haccept, p, c, previous, context, hcur, hc, hprev, hctx, hdiffer⟩
      · rintro hfollow ⟨-, p, c, previous, context, hcur, rfl, hprev, hctx, hdiffer⟩
        exact h.not_encodersFollow hout hmoved hcur hprev hctx hdiffer hfollow
  cases call with
  | eglInitialize dpy reply =>
      refine hsame ?_ fun hno => hno
      simp only [EGLStep, runCall, EGLCall.run] at hstep
      split_ifs at hstep
      · obtain rfl := Option.some.inj hstep
        exact ⟨SameContexts.setErrorReturn s t _, sameHeld_setErrorReturn s t _⟩
      · exact Option.some.inj hstep ▸ initializeDisplay_sameContexts s t reply
  | createSurface connects rcSurface =>
      exact hsame (createSurface_sameContexts hstep) fun hno => hno
  | eglDestroySurface connects dpy surface =>
      obtain ⟨⟨ret, _⟩, hcall, rfl⟩ := Option.map_eq_some_iff.mp hstep
      exact hsame (eglDestroySurface_sameContexts hcall) fun hno => hno
  | eglCreateContext connects rcContext dpy config share_context attrib_list =>
      rcases eglCreateContext_cases hstep with hunchanged | ⟨c, context, hnew⟩
      · exact hsame hunchanged fun hno => hno
      · exact ⟨fun _ => h.created hnew, fun _ hno => hno⟩
  | eglMakeCurrent reply dpy draw read ctx =>
      obtain ⟨⟨ret, _⟩, hcall, rfl⟩ := Option.map_eq_some_iff.mp hstep
      exact hmake hcall
  | eglDestroyContext connects dpy ctx =>
      obtain ⟨⟨ret, _⟩, hcall, rfl⟩ := Option.map_eq_some_iff.mp hstep
      exact ⟨fun _ => h.eglDestroyContext hcall, fun _ hno => hno⟩
  | eglReleaseThread reply =>
      obtain ⟨⟨ret, _⟩, hcall, rfl⟩ := Option.map_eq_some_iff.mp hstep
      rcases eglReleaseThread_cases hcall with rfl | hrelease
      · exact ⟨fun _ => h, fun _ hno => hno⟩
      · refine ⟨fun _ => (hmake hrelease).1 ?_, fun _ hno => hno⟩
        rintro ⟨-, p, c, previous, context, -, hnone, -⟩
        cases hnone
  | eglTerminate connects dpy => exact hkeeps.elim

theorem init_encoderInv (t : Thread) : EncoderInv (EGLState.init : EGLState Thread) t where
  toOwned := init_flagInv.toOwned
  states := ⟨by simp [init], by simp [init], by simp [init]⟩
  alone := fun _ _ => rfl
  points := fun _ => rfl

/-- For every sequence of calls of one thread, with contexts of any versions
and every answer of the host: after every call the encoders of the thread hold
what belongs to its current context or nothing, if and only if no call switches
from a current context to one of the other encoder. -/
theorem encoders_follow_iff (t : Thread)
    (trace : List ((Thread × EGLCall) × EGLState Thread))
    (hrun : Run EGLStep EGLState.init trace)
    (hcalls : ∀ entry ∈ trace, entry.1.1 = t ∧ entry.1.2.KeepsDisplay) :
    Always (fun s => EncodersFollow s t) trace ↔
      EachStep (fun s label _ => ¬SwitchesEncoder s label) EGLState.init trace := by
  refine (hrun.restrict (fun label => label.1 = t ∧ label.2.KeepsDisplay)
    hcalls).always_iff_eachStep ?_ (fun s h => EncoderInv.encodersFollow h) ?_
    (init_encoderInv t)
  · rintro s ⟨t', call⟩ s' hinv hno ⟨⟨hthread, hcall⟩, hstep⟩
    obtain rfl : t' = t := hthread
    exact (eglStep_encoders hinv hcall hstep).1 hno
  · rintro s ⟨t', call⟩ s' hinv ⟨⟨hthread, hcall⟩, hstep⟩ hfollow
    obtain rfl : t' = t := hthread
    exact (eglStep_encoders hinv hcall hstep).2 hfollow

/-- A context of version 1, number 2, and one of version 2, number 5. -/
def bothVersions : List (Unit × EGLCall) :=
  openDisplay () ++ [((), .eglCreateContext true 10#32 s_display 0#32 none
    (some [EGL_CONTEXT_CLIENT_VERSION, 2#32, 0#32])),
    ((), .eglMakeCurrent ⟨true, EGL_TRUE⟩ s_display (some 0) (some 0) (some 2))]

theorem encoders_follow_iff_release_first :
    let trace := partialTraceOf runCall EGLState.init
      (bothVersions ++ [((), .eglReleaseThread ⟨true, EGL_TRUE⟩),
        ((), .eglMakeCurrent ⟨true, EGL_TRUE⟩ s_display (some 0) (some 0) (some 5)),
        ((), .eglDestroyContext true s_display (some 2))])
    Always (fun s => EncodersFollow s ()) trace ↔
      EachStep (fun s label _ => ¬SwitchesEncoder s label) EGLState.init trace :=
  encoders_follow_iff () _ (run_partialTraceOf _ _ _)
    (forall_mem_partialTraceOf
      (fun label : Unit × EGLCall => label.1 = () ∧ label.2.KeepsDisplay)
      (by simp [bothVersions, openDisplay, EGLCall.KeepsDisplay]))

/-- Going straight from the context of version 1 to the one of version 2 and
destroying the first leaves its deleted client state with the old encoder. -/
theorem switch_leaves_dangling_encoder :
    ¬∀ trace : List ((Unit × EGLCall) × EGLState Unit), Run EGLStep EGLState.init trace →
      (∀ entry ∈ trace, entry.1.1 = () ∧ entry.1.2.KeepsDisplay) →
      Always (fun s => EncodersFollow s ()) trace := by
  intro h
  let calls : List (Unit × EGLCall) := bothVersions ++
    [((), .eglMakeCurrent ⟨true, EGL_TRUE⟩ s_display (some 0) (some 0) (some 5)),
      ((), .eglDestroyContext true s_display (some 2))]
  let trace := partialTraceOf runCall EGLState.init calls
  have halways := h trace (run_partialTraceOf _ _ _)
    (forall_mem_partialTraceOf
      (fun label : Unit × EGLCall => label.1 = () ∧ label.2.KeepsDisplay)
      (by simp [calls, bothVersions, openDisplay, EGLCall.KeepsDisplay]))
  have hheld : trace.getLast?.map (fun entry => (entry.2.held () .gles).1) = some (some 3) := by
    decide
  have hdeleted : trace.getLast?.map (fun entry => entry.2.clientStates 3) = some false := by
    decide
  obtain ⟨entry, hlast, hpointer⟩ := Option.map_eq_some_iff.mp hheld
  rw [hlast, Option.map_some, Option.some.injEq] at hdeleted
  have hlive := (halways entry (List.mem_of_getLast? hlast)).live .gles 3 hpointer
  rw [hdeleted] at hlive
  cases hlive

end EGL
end DeviceAndroVM
