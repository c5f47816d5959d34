import DeviceAndroVM.EGL.Calls

/-!
# What each context call can do

The calls change the contexts in few ways.  Here each call is brought into the
form of such changes, so that invariants need not look into its branches.

* `SameContexts` — nothing about the contexts and their threads changes.
* `leave`, `enter`, `rebind` — a thread drops its current context, takes one
  while it has none, or keeps its own with other surfaces.
* `eglMakeCurrent_cases`, `makeCurrentLocally_cases` — an accepted
  `eglMakeCurrent` is a `rebind`, or a `leave` followed by an `enter`.
* `destroyContextWith_cases`, `eglCreateContext_cases`, ... — the other calls.
-/

namespace DeviceAndroVM
namespace EGL

universe u

variable {Thread : Type u}

namespace EGLState

/-! ## Views of the state -/

/-- The client state and shared group that a thread's encoder holds.  An
encoder that does not exist yet holds nothing. -/
def held (s : EGLState Thread) (t : Thread) (api : ClientApi) :
    Option ClientStatePtr × Option SharedGroupPtr :=
  let encoder := (s.threads t).hostConn.elim Encoder.new fun hostCon => hostCon.encoder api
  (encoder.clientState, encoder.sharedGroup)

/-- The host contexts whose destruction has been requested, in order. -/
def destroyRequests (s : EGLState Thread) : List (BitVec 32) :=
  s.sent.filterMap fun
    | .rcDestroyContext rcContext => some rcContext
    | _ => none

@[simp] theorem currentContext_setContext (s : EGLState Thread) (c : ContextPtr)
    (context : EGLContext) (t : Thread) :
    (s.setContext c context).currentContext t = s.currentContext t := rfl

@[simp] theorem contexts_setContext (s : EGLState Thread) (c : ContextPtr)
    (context : EGLContext) :
    (s.setContext c context).contexts = Function.update s.contexts c (some context) := rfl

@[simp] theorem threads_setContext (s : EGLState Thread) (c : ContextPtr)
    (context : EGLContext) : (s.setContext c context).threads = s.threads := rfl

@[simp] theorem display_setContext (s : EGLState Thread) (c : ContextPtr)
    (context : EGLContext) : (s.setContext c context).display = s.display := rfl

theorem contexts_setContext_self (s : EGLState Thread) (c : ContextPtr)
    (context : EGLContext) : (s.setContext c context).contexts c = some context := by
  simp

theorem setContext_setContext (s : EGLState Thread) (c : ContextPtr)
    (context context' : EGLContext) :
    (s.setContext c context).setContext c context' = s.setContext c context' := by
  simp [setContext]

@[simp] theorem clientStates_setContext (s : EGLState Thread) (c : ContextPtr)
    (context : EGLContext) : (s.setContext c context).clientStates = s.clientStates := rfl

@[simp] theorem nextPtr_setContext (s : EGLState Thread) (c : ContextPtr)
    (context : EGLContext) : (s.setContext c context).nextPtr = s.nextPtr := rfl

@[simp] theorem freed_setContext (s : EGLState Thread) (c : ContextPtr)
    (context : EGLContext) : (s.setContext c context).freed = s.freed := rfl

@[simp] theorem destroyRequests_setContext (s : EGLState Thread) (c : ContextPtr)
    (context : EGLContext) :
    (s.setContext c context).destroyRequests = s.destroyRequests := rfl

/-! ## The destruction of a context -/

/-- `rcDestroyContext`, for a context that has a host context. -/
def requestDestroy (s : EGLState Thread) (context : EGLContext) : EGLState Thread :=
  if context.rcContext = 0#32 then s else s.send (.rcDestroyContext context.rcContext)

/-- A context that no thread of the caller holds: destroyed on the host, taken
off the display's list and freed. -/
def destroyed (s : EGLState Thread) (c : ContextPtr) (context : EGLContext) : EGLState Thread :=
  ((s.requestDestroy context).removeContext c).deleteContext c context

/-- Clearing the flag changes nothing that the destruction of a context reads. -/
theorem destroyed_clearCurrent (s : EGLState Thread) (c : ContextPtr) (context : EGLContext) :
    s.destroyed c context.clearCurrent = s.destroyed c context := rfl

@[simp] theorem currentContext_destroyed (s : EGLState Thread) (c : ContextPtr)
    (context : EGLContext) (t : Thread) :
    (s.destroyed c context).currentContext t = s.currentContext t := by
  unfold destroyed requestDestroy
  split_ifs <;> rfl

@[simp] theorem contexts_destroyed (s : EGLState Thread) (c : ContextPtr)
    (context : EGLContext) :
    (s.destroyed c context).contexts = Function.update s.contexts c none := by
  unfold destroyed requestDestroy
  split_ifs <;> rfl

@[simp] theorem clientStates_destroyed (s : EGLState Thread) (c : ContextPtr)
    (context : EGLContext) :
    (s.destroyed c context).clientStates =
      Function.update s.clientStates context.clientState false := by
  unfold destroyed requestDestroy
  split_ifs <;> rfl

@[simp] theorem nextPtr_destroyed (s : EGLState Thread) (c : ContextPtr)
    (context : EGLContext) : (s.destroyed c context).nextPtr = s.nextPtr := by
  unfold destroyed requestDestroy
  split_ifs <;> rfl

@[simp] theorem listed_destroyed (s : EGLState Thread) (c : ContextPtr)
    (context : EGLContext) :
    (s.destroyed c context).display.contexts = s.display.contexts.erase c := by
  unfold destroyed requestDestroy
  split_ifs <;> rfl

@[simp] theorem freed_destroyed (s : EGLState Thread) (c : ContextPtr)
    (context : EGLContext) : (s.destroyed c context).freed = s.freed ++ [c] := by
  unfold destroyed requestDestroy
  split_ifs <;> rfl

@[simp] theorem destroyRequests_send (s : EGLState Thread) (rcContext : BitVec 32) :
    (s.send (.rcDestroyContext rcContext)).destroyRequests =
      s.destroyRequests ++ [rcContext] := by
  simp [destroyRequests, send]

theorem destroyRequests_destroyed (s : EGLState Thread) (c : ContextPtr)
    (context : EGLContext) :
    (s.destroyed c context).destroyRequests = s.destroyRequests ++
      (if context.rcContext = 0#32 then [] else [context.rcContext]) := by
  show (s.requestDestroy context).destroyRequests = _
  unfold requestDestroy
  split_ifs <;> simp

/-! ## Steps that leave the contexts alone -/

/-- The contexts, the current context of every thread, the display's list of
contexts and the contexts destroyed so far are the same. -/
structure SameContexts (s s' : EGLState Thread) : Prop where
  current : ∀ t, s'.currentContext t = s.currentContext t
  contexts : s'.contexts = s.contexts
  clientStates : s'.clientStates = s.clientStates
  nextPtr : s.nextPtr ≤ s'.nextPtr
  listed : s'.display.contexts = s.display.contexts
  freed : s'.freed = s.freed
  destroyRequests : s'.destroyRequests = s.destroyRequests

/-- Every encoder holds what it held. -/
def SameHeld (s s' : EGLState Thread) : Prop := ∀ t api, s'.held t api = s.held t api

theorem SameContexts.refl (s : EGLState Thread) : SameContexts s s where
  current := fun _ => rfl
  contexts := rfl
  clientStates := rfl
  nextPtr := le_rfl
  listed := rfl
  freed := rfl
  destroyRequests := rfl

theorem SameContexts.trans {s s₁ s₂ : EGLState Thread} (h : SameContexts s s₁)
    (h₁ : SameContexts s₁ s₂) : SameContexts s s₂ where
  current := fun t => (h₁.current t).trans (h.current t)
  contexts := h₁.contexts.trans h.contexts
  clientStates := h₁.clientStates.trans h.clientStates
  nextPtr := h.nextPtr.trans h₁.nextPtr
  listed := h₁.listed.trans h.listed
  freed := h₁.freed.trans h.freed
  destroyRequests := h₁.destroyRequests.trans h.destroyRequests

theorem SameContexts.send (s : EGLState Thread) (command : RcCommand)
    (hcommand : ∀ rcContext, command ≠ .rcDestroyContext rcContext) :
    SameContexts s (s.send command) where
  current := fun _ => rfl
  contexts := rfl
  clientStates := rfl
  nextPtr := le_rfl
  listed := rfl
  freed := rfl
  destroyRequests := by
    cases command with
    | rcCreateContext config share version => simp [EGLState.destroyRequests, EGLState.send]
    | rcDestroyContext rcContext => exact absurd rfl (hcommand rcContext)
    | rcMakeCurrent context drawSurf readSurf =>
        simp [EGLState.destroyRequests, EGLState.send]

theorem SameContexts.setContext {s s' : EGLState Thread} (h : SameContexts s s') (c : ContextPtr) (context : EGLContext) :
    SameContexts (s.setContext c context) (s'.setContext c context) where
  current := h.current
  contexts := by simp [h.contexts]
  clientStates := h.clientStates
  nextPtr := h.nextPtr
  listed := h.listed
  freed := h.freed
  destroyRequests := h.destroyRequests

theorem SameContexts.destroyed {s s' : EGLState Thread} (h : SameContexts s s')
    (c : ContextPtr) (context : EGLContext) :
    SameContexts (s.destroyed c context) (s'.destroyed c context) where
  current := by simpa using h.current
  contexts := by simp [h.contexts]
  clientStates := by simp [h.clientStates]
  nextPtr := by simpa using h.nextPtr
  listed := by simp [h.listed]
  freed := by simp [h.freed]
  destroyRequests := by simp [destroyRequests_destroyed, h.destroyRequests]

variable [DecidableEq Thread]

@[simp] theorem currentContext_updThread (s : EGLState Thread) (t t' : Thread)
    (f : EGLThreadInfo → EGLThreadInfo) :
    (s.updThread t f).currentContext t' =
      if t' = t then (f (s.threads t)).currentContext else s.currentContext t' := by
  by_cases h : t' = t
  · subst h
    simp [updThread, currentContext]
  · simp [updThread, currentContext, h]

@[simp] theorem contexts_updThread (s : EGLState Thread) (t : Thread)
    (f : EGLThreadInfo → EGLThreadInfo) : (s.updThread t f).contexts = s.contexts := rfl

@[simp] theorem currentContext_setCurrentContext (s : EGLState Thread) (t t' : Thread)
    (ctx : Option ContextPtr) :
    (s.setCurrentContext t ctx).currentContext t' =
      if t' = t then ctx else s.currentContext t' := by
  simp [setCurrentContext]

@[simp] theorem contexts_setCurrentContext (s : EGLState Thread) (t : Thread)
    (ctx : Option ContextPtr) : (s.setCurrentContext t ctx).contexts = s.contexts := rfl

@[simp] theorem clientStates_setCurrentContext (s : EGLState Thread) (t : Thread)
    (ctx : Option ContextPtr) :
    (s.setCurrentContext t ctx).clientStates = s.clientStates := rfl

@[simp] theorem nextPtr_setCurrentContext (s : EGLState Thread) (t : Thread)
    (ctx : Option ContextPtr) : (s.setCurrentContext t ctx).nextPtr = s.nextPtr := rfl

@[simp] theorem display_setCurrentContext (s : EGLState Thread) (t : Thread)
    (ctx : Option ContextPtr) : (s.setCurrentContext t ctx).display = s.display := rfl

@[simp] theorem freed_setCurrentContext (s : EGLState Thread) (t : Thread)
    (ctx : Option ContextPtr) : (s.setCurrentContext t ctx).freed = s.freed := rfl

@[simp] theorem destroyRequests_setCurrentContext (s : EGLState Thread) (t : Thread)
    (ctx : Option ContextPtr) :
    (s.setCurrentContext t ctx).destroyRequests = s.destroyRequests := rfl

@[simp] theorem currentContext_setEncoder (s : EGLState Thread) (t t' : Thread)
    (api : ClientApi) (clientState : Option ClientStatePtr)
    (sharedGroup : Option SharedGroupPtr) :
    (s.setEncoder t api clientState sharedGroup).currentContext t' = s.currentContext t' := by
  unfold setEncoder
  rw [currentContext_updThread]
  split_ifs with h
  · rw [h]
    rfl
  · rfl

@[simp] theorem contexts_setEncoder (s : EGLState Thread) (t : Thread) (api : ClientApi)
    (clientState : Option ClientStatePtr) (sharedGroup : Option SharedGroupPtr) :
    (s.setEncoder t api clientState sharedGroup).contexts = s.contexts := rfl

@[simp] theorem display_setEncoder (s : EGLState Thread) (t : Thread) (api : ClientApi)
    (clientState : Option ClientStatePtr) (sharedGroup : Option SharedGroupPtr) :
    (s.setEncoder t api clientState sharedGroup).display = s.display := rfl

namespace SameContexts

/-- Changing thread info other than the current context. -/
theorem updThread (s : EGLState Thread) (t : Thread) {f : EGLThreadInfo → EGLThreadInfo}
    (hf : ∀ info, (f info).currentContext = info.currentContext) :
    SameContexts s (s.updThread t f) where
  current := by
    intro t'
    rw [currentContext_updThread]
    split_ifs with h
    · rw [h, hf]
      rfl
    · rfl
  contexts := rfl
  clientStates := rfl
  nextPtr := le_rfl
  listed := rfl
  freed := rfl
  destroyRequests := rfl

theorem setErrorReturn (s : EGLState Thread) (t : Thread) (error : EGLint) :
    SameContexts s (s.setErrorReturn t error).2 := by
  show SameContexts s (s.updThread t fun info => { info with eglError := error })
  exact updThread s t fun _ => rfl

theorem setEncoder (s : EGLState Thread) (t : Thread) (api : ClientApi)
    (clientState : Option ClientStatePtr) (sharedGroup : Option SharedGroupPtr) :
    SameContexts s (s.setEncoder t api clientState sharedGroup) := by
  refine updThread s t ?_
  intro info
  rfl

end SameContexts

theorem held_updThread (s : EGLState Thread) (t t' : Thread) (api : ClientApi)
    {f : EGLThreadInfo → EGLThreadInfo}
    (hf : ∀ info, (f info).hostConn = info.hostConn) :
    (s.updThread t f).held t' api = s.held t' api := by
  by_cases h : t' = t
  · subst h
    simp [held, updThread, hf]
  · simp [held, updThread, h]

theorem sameHeld_setErrorReturn (s : EGLState Thread) (t : Thread) (error : EGLint) :
    SameHeld s (s.setErrorReturn t error).2 := by
  intro t' api
  show (s.updThread t fun info => { info with eglError := error }).held t' api = _
  exact held_updThread s t t' api fun _ => rfl

theorem getHostConnection_cases {s s' : EGLState Thread} {t : Thread} {connects connected : Bool}
    (h : s.getHostConnection t connects = (connected, s')) :
    SameContexts s s' ∧ SameHeld s s' ∧ s'.display = s.display ∧ s'.surfaces = s.surfaces ∧
      (connected = true → ∃ hostCon, (s'.threads t).hostConn = some hostCon) ∧
      (connected = true ↔ (s.threads t).hostConn.isSome ∨ connects = true) := by
  unfold getHostConnection at h
  cases hconn : (s.threads t).hostConn with
  | some hostCon =>
      simp only [hconn, Prod.mk.injEq] at h
      obtain ⟨rfl, rfl⟩ := h
      exact ⟨SameContexts.refl s, fun _ _ => rfl, rfl, rfl, fun _ => ⟨hostCon, hconn⟩, by simp⟩
  | none =>
      simp only [hconn] at h
      split_ifs at h with hconnects
      · simp only [Prod.mk.injEq] at h
        obtain ⟨rfl, rfl⟩ := h
        refine ⟨SameContexts.updThread s t fun _ => rfl, ?_, rfl, rfl, ?_, by simp [hconnects]⟩
        · intro t' api
          by_cases ht : t' = t
          · subst ht
            simp [held, updThread, hconn, HostConnection.encoder]
          · simp [held, updThread, ht]
        · intro _
          exact ⟨⟨fun _ => none⟩, by simp [updThread]⟩
      · simp only [Prod.mk.injEq] at h
        obtain ⟨rfl, rfl⟩ := h
        exact ⟨SameContexts.refl s, fun _ _ => rfl, rfl, rfl, by simp, by simp [hconnects]⟩

theorem initEncoder_sameContexts {s s' : EGLState Thread} {t : Thread}
    (h : s.initEncoder t = some s') : SameContexts s s' := by
  unfold initEncoder at h
  cases hcur : s.currentContext t with
  | none =>
      simp only [hcur, Option.some.injEq] at h
      exact h ▸ SameContexts.refl s
  | some c =>
      simp only [hcur] at h
      split at h
      · split_ifs at h
        · exact Option.some.inj h ▸ SameContexts.refl s
        · exact Option.some.inj h ▸ SameContexts.updThread s t fun _ => rfl
      · cases h

/-- Initialising an encoder changes nothing but its own flag. -/
theorem initEncoder_sameHeld {s s' : EGLState Thread} {t : Thread}
    (h : s.initEncoder t = some s') : SameHeld s s' := by
  unfold initEncoder at h
  cases hcur : s.currentContext t with
  | none =>
      simp only [hcur, Option.some.injEq] at h
      exact h ▸ fun _ _ => rfl
  | some c =>
      simp only [hcur] at h
      split at h
      · rename_i context hostCon _ hconn
        split_ifs at h
        · exact Option.some.inj h ▸ fun _ _ => rfl
        · obtain rfl := Option.some.inj h
          intro t' api
          by_cases ht : t' = t
          · subst ht
            by_cases hapi : api = context.api
            · subst hapi
              simp [held, updThread, hconn, HostConnection.encoder]
            · simp [held, updThread, hconn, HostConnection.encoder, hapi]
          · simp [held, updThread, ht]
      · cases h

/-! ## `eglDestroyContext` and `destroyContext` -/

/-- The three ways `eglDestroyContext` and `destroyContext` end: without an
effect, with a mark on the caller's current context, or with its destruction. -/
theorem destroyContextWith_cases {unlink : EGLState Thread → ContextPtr → EGLState Thread}
    {s s' : EGLState Thread} {t : Thread} {connects ret : Bool} {dpy : EGLDisplay}
    {ctx : Option ContextPtr}
    (h : destroyContextWith unlink s t connects dpy ctx = some (ret, s')) :
    (SameContexts s s' ∧ SameHeld s s') ∨
    ∃ c context, ctx = some c ∧ s.contexts c = some context ∧
      dpy = s_display ∧ s.display.initialized = true ∧
      (s.currentContext t = some c ∧ s' = s.setContext c context.markToDelete ∨
        s.currentContext t ≠ some c ∧
          (context.rcContext ≠ 0#32 → (s.threads t).hostConn.isSome ∨ connects = true) ∧
          ∃ s₁, SameContexts s s₁ ∧ SameHeld s s₁ ∧
          s' = (unlink (s₁.requestDestroy context) c).deleteContext c context) := by
  unfold destroyContextWith at h
  have hrefused : ∀ error, some (s.setErrorReturn t error) = some (ret, s') →
      SameContexts s s' ∧ SameHeld s s' := by
    intro error herror
    obtain rfl := congrArg Prod.snd (Option.some.inj herror)
    exact ⟨SameContexts.setErrorReturn s t error, sameHeld_setErrorReturn s t error⟩
  split_ifs at h with hdpy hinit
  · exact Or.inl (hrefused _ h)
  · exact Or.inl (hrefused _ h)
  · have hdpy' : dpy = s_display := not_not.mp hdpy
    have hinit' : s.display.initialized = true := by simpa using hinit
    cases ctx with
    | none => exact Or.inl (hrefused _ h)
    | some c =>
        cases hctx : s.contexts c with
        | none => simp [hctx] at h
        | some context =>
            simp only [hctx] at h
            split_ifs at h with hcur hrc
            · -- the caller holds it: the release will delete it
              obtain rfl := congrArg Prod.snd (Option.some.inj h)
              exact Or.inr ⟨c, context, rfl, hctx, hdpy', hinit', Or.inl ⟨hcur, rfl⟩⟩
            · cases hconn : s.getHostConnection t connects with
              | mk connected s₁ =>
                  obtain ⟨hsame, hheld, -, -, -, hconnected⟩ := getHostConnection_cases hconn
                  cases connected with
                  | false =>
                      simp only [hconn] at h
                      obtain rfl := congrArg Prod.snd (Option.some.inj h)
                      exact Or.inl ⟨hsame, hheld⟩
                  | true =>
                      simp only [hconn] at h
                      obtain rfl := congrArg Prod.snd (Option.some.inj h)
                      refine Or.inr ⟨c, context, rfl, hctx, hdpy', hinit', Or.inr ⟨hcur,
                        fun _ => hconnected.mp rfl, s₁, hsame, hheld, ?_⟩⟩
                      simp [requestDestroy, hrc, deleteContext]
            · -- the host has no context to destroy
              obtain rfl := congrArg Prod.snd (Option.some.inj h)
              refine Or.inr ⟨c, context, rfl, hctx, hdpy', hinit', Or.inr ⟨hcur,
                fun hne => absurd hne hrc, s, SameContexts.refl s, fun _ _ => rfl, ?_⟩⟩
              simp [requestDestroy, not_not.mp hrc]

/-- Once the thread is connected, a context it does not hold is destroyed. -/
theorem eglDestroyContext_eq_destroyed {s : EGLState Thread} {t : Thread} {connects : Bool}
    {c : ContextPtr} {context : EGLContext} {hostCon : HostConnection}
    (hinit : s.display.initialized = true) (hconn : (s.threads t).hostConn = some hostCon)
    (hctx : s.contexts c = some context) (hcur : s.currentContext t ≠ some c) :
    s.eglDestroyContext t connects s_display (some c) = some (true, s.destroyed c context) := by
  by_cases hrc : context.rcContext = 0#32
  · simp [eglDestroyContext, destroyContextWith, hinit, hctx, hcur, hrc, destroyed,
      requestDestroy]
  · simp [eglDestroyContext, destroyContextWith, hinit, hctx, hcur, hrc, destroyed,
      requestDestroy, getHostConnection, hconn, deleteContext]

theorem eglDestroyContext_eq_marked {s : EGLState Thread} {t : Thread} {connects : Bool}
    {c : ContextPtr} {context : EGLContext} (hinit : s.display.initialized = true)
    (hctx : s.contexts c = some context) (hcur : s.currentContext t = some c) :
    s.eglDestroyContext t connects s_display (some c) =
      some (true, s.setContext c context.markToDelete) := by
  simp [eglDestroyContext, destroyContextWith, hinit, hctx, hcur]

/-! ## Leaving and entering a context -/

/-- The thread drops its current context, which is destroyed if it is marked. -/
def leave (s : EGLState Thread) (t : Thread) (p : ContextPtr) (previous : EGLContext) :
    EGLState Thread :=
  let s := (s.setContext p previous.clearCurrent).setCurrentContext t none
  if previous.toDelete then s.destroyed p previous else s

/-- The thread, which has no current context, takes one. -/
def enter (s : EGLState Thread) (t : Thread) (c : ContextPtr) (context : EGLContext)
    (draw read : Option SurfacePtr) : EGLState Thread :=
  (s.setContext c (context.bind draw read)).setCurrentContext t (some c)

@[simp] theorem currentContext_leave (s : EGLState Thread) (t t' : Thread) (p : ContextPtr)
    (previous : EGLContext) :
    (s.leave t p previous).currentContext t' =
      if t' = t then none else s.currentContext t' := by
  unfold leave
  split_ifs <;> simp_all

@[simp] theorem contexts_leave (s : EGLState Thread) (t : Thread) (p : ContextPtr)
    (previous : EGLContext) :
    (s.leave t p previous).contexts = Function.update s.contexts p
      (if previous.toDelete then none else some previous.clearCurrent) := by
  unfold leave
  split_ifs <;> simp

@[simp] theorem clientStates_leave (s : EGLState Thread) (t : Thread) (p : ContextPtr)
    (previous : EGLContext) :
    (s.leave t p previous).clientStates = if previous.toDelete then
      Function.update s.clientStates previous.clientState false else s.clientStates := by
  unfold leave
  split_ifs <;> simp

@[simp] theorem nextPtr_leave (s : EGLState Thread) (t : Thread) (p : ContextPtr)
    (previous : EGLContext) : (s.leave t p previous).nextPtr = s.nextPtr := by
  unfold leave
  split_ifs <;> simp

@[simp] theorem listed_leave (s : EGLState Thread) (t : Thread) (p : ContextPtr)
    (previous : EGLContext) :
    (s.leave t p previous).display.contexts =
      if previous.toDelete then s.display.contexts.erase p else s.display.contexts := by
  unfold leave
  split_ifs <;> simp

@[simp] theorem freed_leave (s : EGLState Thread) (t : Thread) (p : ContextPtr)
    (previous : EGLContext) :
    (s.leave t p previous).freed = s.freed ++ (if previous.toDelete then [p] else []) := by
  unfold leave
  split_ifs <;> simp

@[simp] theorem currentContext_enter (s : EGLState Thread) (t t' : Thread) (c : ContextPtr)
    (context : EGLContext) (draw read : Option SurfacePtr) :
    (s.enter t c context draw read).currentContext t' =
      if t' = t then some c else s.currentContext t' := by
  simp [enter]

@[simp] theorem contexts_enter (s : EGLState Thread) (t : Thread) (c : ContextPtr)
    (context : EGLContext) (draw read : Option SurfacePtr) :
    (s.enter t c context draw read).contexts =
      Function.update s.contexts c (some (context.bind draw read)) := rfl

/-- What rebinding makes of a context: it gets the new surfaces, and the flag
that has just been set is cleared again. -/
def reboundContext (context : EGLContext) (draw read : Option SurfacePtr) : EGLContext :=
  let context := (context.bind draw read).clearCurrent
  if context.toDelete then context.markToDelete else context

/-- The thread's current context, if any, has been left. -/
inductive Left (s : EGLState Thread) (t : Thread) : EGLState Thread → Prop
  | idle (hcur : s.currentContext t = none) : Left s t s
  | left {p : ContextPtr} {previous : EGLContext} (hcur : s.currentContext t = some p)
      (hprev : s.contexts p = some previous) : Left s t (s.leave t p previous)

namespace SameContexts

variable {s s' : EGLState Thread}

theorem setCurrentContext (h : SameContexts s s') (t : Thread) (ctx : Option ContextPtr) :
    SameContexts (s.setCurrentContext t ctx) (s'.setCurrentContext t ctx) where
  current := by
    intro t'
    simp [h.current t']
  contexts := h.contexts
  clientStates := h.clientStates
  nextPtr := h.nextPtr
  listed := h.listed
  freed := h.freed
  destroyRequests := h.destroyRequests

end SameContexts

theorem Left.currentContext {s s₁ : EGLState Thread} {t : Thread} (h : Left s t s₁)
    (t' : Thread) :
    s₁.currentContext t' = if t' = t then none else s.currentContext t' := by
  cases h with
  | idle hcur =>
      split_ifs with ht
      · rw [ht, hcur]
      · rfl
  | left hcur hprev => exact currentContext_leave s t t' _ _

/-- Leaving changes no other context. -/
theorem Left.contexts_of_ne {s s₁ : EGLState Thread} {t : Thread} (h : Left s t s₁)
    {c : ContextPtr} (hne : s.currentContext t ≠ some c) : s₁.contexts c = s.contexts c := by
  cases h with
  | idle hcur => rfl
  | @left p previous hcur hprev =>
      have hcp : c ≠ p := fun heq => hne (heq ▸ hcur)
      simp [hcp]

theorem hostConn_setCurrentContext (s : EGLState Thread) (t : Thread) (ctx : Option ContextPtr) :
    ((s.setCurrentContext t ctx).threads t).hostConn = (s.threads t).hostConn := by
  simp [setCurrentContext, updThread]

theorem hostConn_setEncoder (s : EGLState Thread) {t : Thread} {hostCon : HostConnection}
    (hconn : (s.threads t).hostConn = some hostCon) (api : ClientApi)
    (clientState : Option ClientStatePtr) (sharedGroup : Option SharedGroupPtr) :
    ∃ hostCon', ((s.setEncoder t api clientState sharedGroup).threads t).hostConn =
      some hostCon' := by
  simp [setEncoder, updThread, hconn]

/-- The end of `eglMakeCurrent` once the flags have been changed: the current
context is replaced and the previous one, which differs from it, destroyed if
it is marked. -/
theorem destroyMarked_left {s s' : EGLState Thread} {t : Thread} {connects : Bool}
    {p : ContextPtr} {previous : EGLContext} {ctx : Option ContextPtr}
    {hostCon : HostConnection} (hinit : s.display.initialized = true)
    (hconn : (s.threads t).hostConn = some hostCon) (hne : ctx ≠ some p)
    (hprev : s.contexts p = some previous)
    (h : (s.setCurrentContext t ctx).destroyMarked t connects (some p) = some s') :
    s' = if previous.toDelete then (s.setCurrentContext t ctx).destroyed p previous
      else s.setCurrentContext t ctx := by
  have hprev' : (s.setCurrentContext t ctx).contexts p = some previous := by simpa using hprev
  simp only [destroyMarked, hprev'] at h
  split_ifs at h ⊢ with hmarked
  · rw [eglDestroyContext_eq_destroyed (by simpa using hinit)
      ((hostConn_setCurrentContext s t ctx).trans hconn) hprev' (by simpa using hne)] at h
    exact (Option.some.inj h).symm
  · exact (Option.some.inj h).symm

/-- Leaving `p` and entering another context touch different objects, so the
order in which the source does it does not matter. -/
theorem leave_enter_sameContexts (s : EGLState Thread) (t : Thread) {p c : ContextPtr}
    (hne : p ≠ c) (previous context : EGLContext) (draw read : Option SurfacePtr) :
    SameContexts ((s.leave t p previous).enter t c context draw read)
      (let s := ((s.setContext c (context.bind draw read)).setContext p
        previous.clearCurrent).setCurrentContext t (some c)
      if previous.toDelete then s.destroyed p previous else s) := by
  unfold leave enter
  cases hmarked : previous.toDelete with
  | false =>
      refine ⟨?_, ?_, rfl, le_rfl, rfl, rfl, rfl⟩
      · intro t'
        by_cases ht : t' = t <;> simp [ht]
      · simp [Function.update_comm hne]
  | true =>
      refine ⟨?_, ?_, ?_, ?_, ?_, ?_, ?_⟩
      · intro t'
        by_cases ht : t' = t <;> simp [ht]
      · simp [Function.update_comm hne]
      · simp
      · simp
      · simp
      · simp
      · simp [destroyRequests_destroyed]

/-! ## `eglMakeCurrent` -/

/-- A thread keeps its context with other surfaces. -/
theorem makeCurrentLocally_rebound {s s' : EGLState Thread} {t : Thread} {connects : Bool}
    {draw read : Option SurfacePtr} {c : ContextPtr} {context : EGLContext}
    (hinit : s.display.initialized = true) (hcur : s.currentContext t = some c)
    (hctx : s.contexts c = some context)
    (h : s.makeCurrentLocally t connects draw read (some c) = some s') :
    SameContexts (s.setContext c (reboundContext context draw read)) s' := by
  simp only [makeCurrentLocally, bindLocally, hctx, Option.map_some, Option.bind_eq_bind,
    Option.bind_some, releaseCurrent, currentContext_setEncoder, currentContext_setContext,
    hcur, contexts_setEncoder, contexts_setContext, Function.update_self,
    Option.bind_eq_some_iff] at h
  obtain ⟨s₁, hdestroy, henc⟩ := h
  refine SameContexts.trans ?_ (initEncoder_sameContexts henc)
  let cleared := (context.bind draw read).clearCurrent
  let s₀ := ((((s.setContext c (context.bind draw read)).setEncoder t context.api
    (some context.clientState) (some context.sharedGroup)).setContext c
    cleared).setCurrentContext t (some c))
  have hctx₀ : s₀.contexts c = some cleared := by simp [s₀]
  have hcur₀ : s₀.currentContext t = some c := by simp [s₀]
  have hsame : SameContexts (s.setContext c cleared) s₀ := by
    refine ⟨?_, by simp [s₀], rfl, le_rfl, rfl, rfl, rfl⟩
    intro t'
    by_cases ht : t' = t
    · simp [s₀, ht, hcur]
    · simp [s₀, ht]
  change s₀.destroyMarked t connects (some c) = some s₁ at hdestroy
  simp only [destroyMarked, hctx₀] at hdestroy
  show SameContexts (s.setContext c (if cleared.toDelete then cleared.markToDelete else cleared)) s₁
  split_ifs at hdestroy ⊢ with hmarked
  · have hinit₀ : s₀.display.initialized = true := hinit
    rw [eglDestroyContext_eq_marked hinit₀ hctx₀ hcur₀] at hdestroy
    obtain rfl := Option.some.inj hdestroy
    have hmark := hsame.setContext c cleared.markToDelete
    rwa [setContext_setContext] at hmark
  · obtain rfl := Option.some.inj hdestroy
    exact hsame

/-- A thread goes over to another context. -/
theorem makeCurrentLocally_entered {s s' : EGLState Thread} {t : Thread} {connects : Bool}
    {draw read : Option SurfacePtr} {c : ContextPtr} {context : EGLContext}
    {hostCon : HostConnection} (hinit : s.display.initialized = true)
    (hconn : (s.threads t).hostConn = some hostCon) (hcur : s.currentContext t ≠ some c)
    (hctx : s.contexts c = some context)
    (h : s.makeCurrentLocally t connects draw read (some c) = some s') :
    ∃ s₁, Left s t s₁ ∧ SameContexts (s₁.enter t c context draw read) s' := by
  simp only [makeCurrentLocally, bindLocally, hctx, Option.map_some, Option.bind_eq_bind,
    Option.bind_some, Option.bind_eq_some_iff] at h
  obtain ⟨s₁, hrelease, s₂, hdestroy, henc⟩ := h
  cases hprevCtx : s.currentContext t with
  | none =>
      simp only [releaseCurrent, currentContext_setEncoder, currentContext_setContext,
        hprevCtx, Option.some.injEq] at hrelease
      subst hrelease
      simp only [hprevCtx, destroyMarked, Option.some.injEq] at hdestroy
      subst hdestroy
      refine ⟨s, Left.idle hprevCtx, SameContexts.trans ?_ (initEncoder_sameContexts henc)⟩
      exact (SameContexts.setEncoder _ _ _ _ _).setCurrentContext t (some c)
  | some p =>
      have hne : p ≠ c := fun heq => hcur (heq ▸ hprevCtx)
      simp only [releaseCurrent, currentContext_setEncoder, currentContext_setContext,
        hprevCtx, contexts_setEncoder, contexts_setContext, Function.update_of_ne hne,
        Option.map_eq_some_iff] at hrelease
      obtain ⟨previous, hprev, rfl⟩ := hrelease
      obtain ⟨hostCon', hconn'⟩ := hostConn_setEncoder (s := s.setContext c (context.bind draw read))
        hconn context.api (some context.clientState) (some context.sharedGroup)
      rw [hprevCtx] at hdestroy
      have hs₂ := destroyMarked_left (s := ((s.setContext c (context.bind draw read)).setEncoder t
        context.api (some context.clientState) (some context.sharedGroup)).setContext p
        previous.clearCurrent) hinit hconn' (by simpa using hne.symm)
        (contexts_setContext_self _ p previous.clearCurrent) hdestroy
      refine ⟨_, Left.left hprevCtx hprev, SameContexts.trans ?_ (initEncoder_sameContexts henc)⟩
      refine (leave_enter_sameContexts s t hne previous context draw read).trans ?_
      rw [hs₂, EGLContext.toDelete_clearCurrent, destroyed_clearCurrent]
      -- pointing the encoder at the new context is all that differs
      have hsame := (((SameContexts.setEncoder (s.setContext c (context.bind draw read)) t
        context.api (some context.clientState) (some context.sharedGroup)).setContext p
        previous.clearCurrent).setCurrentContext t (some c))
      split_ifs with hmarked
      · exact hsame.destroyed p previous
      · exact hsame

/-- A thread lets its context go. -/
theorem makeCurrentLocally_released {s s' : EGLState Thread} {t : Thread} {connects : Bool}
    {draw read : Option SurfacePtr} {hostCon : HostConnection}
    (hinit : s.display.initialized = true) (hconn : (s.threads t).hostConn = some hostCon)
    (h : s.makeCurrentLocally t connects draw read none = some s') :
    ∃ p previous, s.currentContext t = some p ∧ s.contexts p = some previous ∧
      SameContexts (s.leave t p previous) s' := by
  simp only [makeCurrentLocally, bindLocally, Option.bind_eq_bind, Option.bind_eq_some_iff,
    Option.map_eq_some_iff] at h
  obtain ⟨s₁, ⟨previous, ⟨p, hcur, hprev⟩, rfl⟩, s₂, hrelease, s₃, hdestroy, henc⟩ := h
  simp only [releaseCurrent, currentContext_setEncoder, hcur, contexts_setEncoder, hprev,
    Option.map_some, Option.some.injEq] at hrelease
  subst hrelease
  rw [hcur] at hdestroy
  obtain ⟨hostCon', hconn'⟩ := hostConn_setEncoder s hconn previous.api none none
  have hs₃ := destroyMarked_left (s := (s.setEncoder t previous.api none none).setContext p
    previous.clearCurrent) hinit hconn' (by simp)
    (contexts_setContext_self _ p previous.clearCurrent) hdestroy
  refine ⟨p, previous, hcur, hprev, SameContexts.trans ?_ (initEncoder_sameContexts henc)⟩
  rw [hs₃, EGLContext.toDelete_clearCurrent, destroyed_clearCurrent]
  have hsame := ((SameContexts.setEncoder s t previous.api none none).setContext p
    previous.clearCurrent).setCurrentContext t none
  unfold leave
  split_ifs with hmarked
  · exact hsame.destroyed p previous
  · exact hsame

/-- The checks of `eglMakeCurrent` pass, there is a change to make and the host
grants it. -/
structure AcceptsMakeCurrent (s : EGLState Thread) (t : Thread) (reply : HostReply)
    (dpy : EGLDisplay) (draw read : Option SurfacePtr) (ctx : Option ContextPtr) : Prop where
  display : dpy = s_display
  initialized : s.display.initialized = true
  drawValid : s.validateSurface draw = some true
  readValid : s.validateSurface read = some true
  surfaces : ctx = none ↔ read = none ∧ draw = none
  change : s.currentContext t = ctx → ∃ c context, ctx = some c ∧ s.contexts c = some context ∧
    ¬(context.draw = draw ∧ context.read = read)
  free : ∀ c context, ctx = some c → s.contexts c = some context → context.isCurrent = true →
    s.currentContext t = some c
  connected : (s.threads t).hostConn.isSome ∨ reply.connects = true
  granted : reply.rcMakeCurrent ≠ EGL_FALSE

theorem makeCurrentChecked_cases {s s' : EGLState Thread} {t : Thread} {reply : HostReply}
    {ret : Bool} {draw read : Option SurfacePtr} {ctx : Option ContextPtr}
    {context : Option EGLContext}
    (h : s.makeCurrentChecked t reply draw read ctx context = some (ret, s')) :
    (SameContexts s s' ∧ SameHeld s s' ∧
      (s.currentContext t = ctx ∧
          context.elim true (fun context => context.draw = draw ∧ context.read = read) ∨
        context.elim false EGLContext.isCurrent ∧ ctx ≠ s.currentContext t ∨
        ¬((s.threads t).hostConn.isSome ∨ reply.connects = true) ∨
        reply.rcMakeCurrent = EGL_FALSE)) ∨
    (¬(s.currentContext t = ctx ∧
        context.elim true (fun context => context.draw = draw ∧ context.read = read)) ∧
      ¬(context.elim false EGLContext.isCurrent ∧ ctx ≠ s.currentContext t) ∧
      ((s.threads t).hostConn.isSome ∨ reply.connects = true) ∧
      reply.rcMakeCurrent ≠ EGL_FALSE ∧
      ∃ s₁, SameContexts s s₁ ∧ SameHeld s s₁ ∧ s₁.display = s.display ∧
        (∃ hostCon, (s₁.threads t).hostConn = some hostCon) ∧
        s₁.makeCurrentLocally t reply.connects draw read ctx = some s') := by
  unfold makeCurrentChecked at h
  by_cases hunchanged : s.currentContext t = ctx ∧
      context.elim true (fun context => context.draw = draw ∧ context.read = read)
  · -- the call returns before it asks the host
    rw [if_pos hunchanged] at h
    obtain rfl := congrArg Prod.snd (Option.some.inj h)
    exact Or.inl ⟨SameContexts.refl s, fun _ _ => rfl, Or.inl hunchanged⟩
  rw [if_neg hunchanged] at h
  by_cases hother : context.elim false EGLContext.isCurrent ∧ ctx ≠ s.currentContext t
  · -- the flag says that another thread holds the context
    rw [if_pos hother] at h
    obtain rfl := congrArg Prod.snd (Option.some.inj h)
    exact Or.inl ⟨SameContexts.setErrorReturn s t _, sameHeld_setErrorReturn s t _,
      Or.inr (Or.inl hother)⟩
  rw [if_neg hother] at h
  cases hconn : s.getHostConnection t reply.connects with
  | mk connected s₁ =>
      obtain ⟨hsame, hheld, hdisplay, -, hopen, hconnected⟩ := getHostConnection_cases hconn
      cases connected with
      | false =>
          simp only [hconn] at h
          obtain rfl := congrArg Prod.snd (Option.some.inj h)
          refine Or.inl ⟨hsame, hheld, Or.inr (Or.inr (Or.inl ?_))⟩
          exact fun hany => Bool.false_ne_true (hconnected.mpr hany)
      | true =>
          simp only [hconn] at h
          have hsent := SameContexts.send s₁ (.rcMakeCurrent
            (context.elim 0#32 EGLContext.rcContext) (s₁.surfaceHandle draw)
            (s₁.surfaceHandle read)) (by simp)
          by_cases hfalse : reply.rcMakeCurrent = EGL_FALSE
          · rw [if_pos hfalse] at h
            obtain rfl := congrArg Prod.snd (Option.some.inj h)
            refine Or.inl ⟨(hsame.trans hsent).trans (SameContexts.setErrorReturn _ t _), ?_,
              Or.inr (Or.inr (Or.inr hfalse))⟩
            intro t' api
            exact (sameHeld_setErrorReturn _ t _ t' api).trans (hheld t' api)
          · rw [if_neg hfalse] at h
            obtain ⟨s₂, hlocal, heq⟩ := Option.map_eq_some_iff.mp h
            obtain rfl := congrArg Prod.snd heq
            exact Or.inr ⟨hunchanged, hother, hconnected.mp rfl, hfalse, _,
              hsame.trans hsent, hheld, hdisplay, hopen rfl, hlocal⟩

/-- The same for the part of `eglMakeCurrent` that follows the validation of
the surfaces. -/
theorem makeCurrentValidated_cases {s s' : EGLState Thread} {t : Thread} {reply : HostReply}
    {ret : Bool} {dpy : EGLDisplay} {draw read : Option SurfacePtr} {ctx : Option ContextPtr}
    (hdpy : dpy = s_display) (hinit : s.display.initialized = true)
    (hdraw : s.validateSurface draw = some true) (hread : s.validateSurface read = some true)
    (hrefused : ∀ error, ¬s.AcceptsMakeCurrent t reply dpy draw read ctx →
      some (s.setErrorReturn t error) = some (ret, s') →
      ¬s.AcceptsMakeCurrent t reply dpy draw read ctx ∧ SameContexts s s' ∧ SameHeld s s')
    (h : s.makeCurrentValidated t reply draw read ctx = some (ret, s')) :
    (¬s.AcceptsMakeCurrent t reply dpy draw read ctx ∧ SameContexts s s' ∧ SameHeld s s') ∨
    (s.AcceptsMakeCurrent t reply dpy draw read ctx ∧
      ∃ s₁, SameContexts s s₁ ∧ SameHeld s s₁ ∧ s₁.display = s.display ∧
        (∃ hostCon, (s₁.threads t).hostConn = some hostCon) ∧
        s₁.makeCurrentLocally t reply.connects draw read ctx = some s') := by
  unfold makeCurrentValidated at h
  -- a context needs surfaces, and surfaces need a context
  by_cases hmissing : (read = none ∧ draw = none) ∧ ctx ≠ none
  · rw [if_pos hmissing] at h
    exact Or.inl (hrefused _ (fun ha => hmissing.2 (ha.surfaces.mpr hmissing.1)) h)
  rw [if_neg hmissing] at h
  by_cases hextra : (read ≠ none ∨ draw ≠ none) ∧ ctx = none
  · rw [if_pos hextra] at h
    refine Or.inl (hrefused _ (fun ha => ?_) h)
    obtain ⟨hr, hd⟩ := ha.surfaces.mp hextra.2
    exact hextra.1.elim (fun hne => hne hr) fun hne => hne hd
  rw [if_neg hextra] at h
  have hsurfaces : ctx = none ↔ read = none ∧ draw = none := by
    constructor
    · intro hnone
      by_contra hany
      exact hextra ⟨by tauto, hnone⟩
    · intro hnone
      by_contra hsome
      exact hmissing ⟨hnone, hsome⟩
  cases ctx with
  | none =>
      -- a release: there is no flag to look at
      rcases makeCurrentChecked_cases h with ⟨hsame, hheld, hwhy⟩ |
        ⟨hchange, -, hconnected, hgranted, hlocal⟩
      · refine Or.inl ⟨fun ha => ?_, hsame, hheld⟩
        rcases hwhy with ⟨hcur, -⟩ | ⟨hother, -⟩ | hconn | hfalse
        · obtain ⟨c, context, hnone, -⟩ := ha.change hcur
          cases hnone
        · cases hother
        · exact hconn ha.connected
        · exact ha.granted hfalse
      · refine Or.inr ⟨⟨hdpy, hinit, hdraw, hread, hsurfaces, ?_, by simp, hconnected,
          hgranted⟩, hlocal⟩
        exact fun hcur => absurd ⟨hcur, rfl⟩ hchange
  | some c =>
      cases hctx : s.contexts c with
      | none => simp [hctx] at h
      | some context =>
          simp only [hctx] at h
          rcases makeCurrentChecked_cases h with ⟨hsame, hheld, hwhy⟩ |
            ⟨hchange, hother, hconnected, hgranted, hlocal⟩
          · refine Or.inl ⟨fun ha => ?_, hsame, hheld⟩
            rcases hwhy with ⟨hcur, hsurf⟩ | ⟨hflag, hne⟩ | hconn | hfalse
            · obtain ⟨c', context', hc, hctx', hdiffer⟩ := ha.change hcur
              obtain rfl := Option.some.inj hc
              obtain rfl := Option.some.inj (hctx.symm.trans hctx')
              exact hdiffer (by simpa using hsurf)
            · exact hne (ha.free c context rfl hctx hflag).symm
            · exact hconn ha.connected
            · exact ha.granted hfalse
          · refine Or.inr ⟨⟨hdpy, hinit, hdraw, hread, hsurfaces, ?_, ?_, hconnected,
              hgranted⟩, hlocal⟩
            · intro hcur
              refine ⟨c, context, rfl, hctx, fun hsurf => hchange ⟨hcur, ?_⟩⟩
              simpa using hsurf
            · intro c' context' hc hctx' hflag
              obtain rfl := Option.some.inj hc
              obtain rfl := Option.some.inj (hctx.symm.trans hctx')
              by_contra hne
              exact hother ⟨hflag, fun heq => hne heq.symm⟩

/-- `eglMakeCurrent` either changes nothing about contexts and encoders, or its
checks pass and the local bind is made. -/
theorem eglMakeCurrent_cases {s s' : EGLState Thread} {t : Thread} {reply : HostReply}
    {ret : Bool} {dpy : EGLDisplay} {draw read : Option SurfacePtr} {ctx : Option ContextPtr}
    (h : s.eglMakeCurrent t reply dpy draw read ctx = some (ret, s')) :
    (¬s.AcceptsMakeCurrent t reply dpy draw read ctx ∧ SameContexts s s' ∧ SameHeld s s') ∨
    (s.AcceptsMakeCurrent t reply dpy draw read ctx ∧
      ∃ s₁, SameContexts s s₁ ∧ SameHeld s s₁ ∧ s₁.display = s.display ∧
        (∃ hostCon, (s₁.threads t).hostConn = some hostCon) ∧
        s₁.makeCurrentLocally t reply.connects draw read ctx = some s') := by
  have hrefused : ∀ error, ¬s.AcceptsMakeCurrent t reply dpy draw read ctx →
      some (s.setErrorReturn t error) = some (ret, s') →
      ¬s.AcceptsMakeCurrent t reply dpy draw read ctx ∧ SameContexts s s' ∧ SameHeld s s' := by
    intro error hnot herror
    obtain rfl := congrArg Prod.snd (Option.some.inj herror)
    exact ⟨hnot, SameContexts.setErrorReturn s t error, sameHeld_setErrorReturn s t error⟩
  unfold eglMakeCurrent at h
  by_cases hdpy : dpy ≠ s_display
  · rw [if_pos hdpy] at h
    exact Or.inl (hrefused _ (fun ha => hdpy ha.display) h)
  rw [if_neg hdpy] at h
  by_cases hinit : s.display.initialized = false
  · rw [if_pos hinit] at h
    refine Or.inl (hrefused _ (fun ha => ?_) h)
    rw [ha.initialized] at hinit
    cases hinit
  rw [if_neg hinit] at h
  cases hdraw : s.validateSurface draw with
  | none => simp [hdraw] at h
  | some drawOk =>
      cases drawOk with
      | false =>
          simp only [hdraw] at h
          refine Or.inl (hrefused _ (fun ha => ?_) h)
          have hvalid := ha.drawValid
          rw [hdraw] at hvalid
          cases hvalid
      | true =>
          cases hread : s.validateSurface read with
          | none => simp [hdraw, hread] at h
          | some readOk =>
              cases readOk with
              | false =>
                  simp only [hdraw, hread] at h
                  refine Or.inl (hrefused _ (fun ha => ?_) h)
                  have hvalid := ha.readValid
                  rw [hread] at hvalid
                  cases hvalid
              | true =>
                  simp only [hdraw, hread] at h
                  exact makeCurrentValidated_cases (not_not.mp hdpy) (by simpa using hinit)
                    hdraw hread hrefused h

theorem SameContexts.leave {s s' : EGLState Thread} (h : SameContexts s s') (t : Thread)
    (p : ContextPtr) (previous : EGLContext) :
    SameContexts (s.leave t p previous) (s'.leave t p previous) := by
  unfold EGLState.leave
  have hcleared := (h.setContext p previous.clearCurrent).setCurrentContext t none
  split_ifs
  · exact hcleared.destroyed p previous
  · exact hcleared

theorem SameContexts.enter {s s' : EGLState Thread} (h : SameContexts s s') (t : Thread)
    (c : ContextPtr) (context : EGLContext) (draw read : Option SurfacePtr) :
    SameContexts (s.enter t c context draw read) (s'.enter t c context draw read) :=
  (h.setContext c (context.bind draw read)).setCurrentContext t (some c)

/-- What an accepted `eglMakeCurrent` does to the contexts. -/
inductive MakeCurrentOutcome (s : EGLState Thread) (t : Thread)
    (draw read : Option SurfacePtr) : Option ContextPtr → EGLState Thread → Prop
  | rebound {c : ContextPtr} {context : EGLContext} {s' : EGLState Thread}
      (hcur : s.currentContext t = some c) (hctx : s.contexts c = some context)
      (hsame : SameContexts (s.setContext c (reboundContext context draw read)) s') :
      MakeCurrentOutcome s t draw read (some c) s'
  | released {p : ContextPtr} {previous : EGLContext} {s' : EGLState Thread}
      (hcur : s.currentContext t = some p) (hprev : s.contexts p = some previous)
      (hsame : SameContexts (s.leave t p previous) s') :
      MakeCurrentOutcome s t draw read none s'
  | entered {c : ContextPtr} {context : EGLContext} {s₁ s' : EGLState Thread}
      (hcur : s.currentContext t ≠ some c) (hctx : s.contexts c = some context)
      (hfree : context.isCurrent = false) (hleft : Left s t s₁)
      (hsame : SameContexts (s₁.enter t c context draw read) s') :
      MakeCurrentOutcome s t draw read (some c) s'

theorem eglMakeCurrent_outcome {s s' : EGLState Thread} {t : Thread} {reply : HostReply}
    {ret : Bool} {dpy : EGLDisplay} {draw read : Option SurfacePtr} {ctx : Option ContextPtr}
    (h : s.eglMakeCurrent t reply dpy draw read ctx = some (ret, s')) :
    (¬s.AcceptsMakeCurrent t reply dpy draw read ctx ∧ SameContexts s s') ∨
    (s.AcceptsMakeCurrent t reply dpy draw read ctx ∧
      MakeCurrentOutcome s t draw read ctx s') := by
  rcases eglMakeCurrent_cases h with ⟨hnot, hsame, -⟩ |
    ⟨ha, s₀, hsame, -, hdisplay, ⟨hostCon, hconn⟩, hlocal⟩
  · exact Or.inl ⟨hnot, hsame⟩
  refine Or.inr ⟨ha, ?_⟩
  have hinit : s₀.display.initialized = true := by rw [hdisplay, ha.initialized]
  cases ctx with
  | none =>
      obtain ⟨p, previous, hcur, hprev, hleave⟩ := makeCurrentLocally_released hinit hconn hlocal
      rw [hsame.current] at hcur
      rw [hsame.contexts] at hprev
      exact MakeCurrentOutcome.released hcur hprev ((hsame.leave t p previous).trans hleave)
  | some c =>
      cases hctx : s.contexts c with
      | none => simp [makeCurrentLocally, bindLocally, hsame.contexts, hctx] at hlocal
      | some context =>
          have hctx₀ : s₀.contexts c = some context := by rw [hsame.contexts, hctx]
          by_cases hcur : s.currentContext t = some c
          · have hcur₀ : s₀.currentContext t = some c := by rw [hsame.current, hcur]
            exact MakeCurrentOutcome.rebound hcur hctx
              ((hsame.setContext c _).trans
                (makeCurrentLocally_rebound hinit hcur₀ hctx₀ hlocal))
          · have hcur₀ : s₀.currentContext t ≠ some c := by rwa [hsame.current]
            have hfree : context.isCurrent = false := by
              by_contra hflag
              exact hcur (ha.free c context rfl hctx (by simpa using hflag))
            obtain ⟨s₁, hleft, henter⟩ :=
              makeCurrentLocally_entered hinit hconn hcur₀ hctx₀ hlocal
            cases hleft with
            | idle hidle =>
                rw [hsame.current] at hidle
                exact MakeCurrentOutcome.entered hcur hctx hfree (Left.idle hidle)
                  ((hsame.enter t c context draw read).trans henter)
            | left hprevCtx hprev =>
                rw [hsame.current] at hprevCtx
                rw [hsame.contexts] at hprev
                exact MakeCurrentOutcome.entered hcur hctx hfree (Left.left hprevCtx hprev)
                  (((hsame.leave t _ _).enter t c context draw read).trans henter)

/-- `eglReleaseThread` is an `eglMakeCurrent` without a context, or nothing. -/
theorem eglReleaseThread_cases {s s' : EGLState Thread} {t : Thread} {reply : HostReply}
    {ret : Bool} (h : s.eglReleaseThread t reply = some (ret, s')) :
    s' = s ∨ s.eglMakeCurrent t reply s_display none none none = some (ret, s') := by
  unfold eglReleaseThread at h
  split_ifs at h
  · exact Or.inr h
  · exact Or.inl (congrArg Prod.snd (Option.some.inj h)).symm

/-! ## Calls that create objects -/

/-- A new context object, which no thread has current, at a fresh address. -/
structure CreatedContext (s s' : EGLState Thread) (c : ContextPtr) (context : EGLContext) :
    Prop where
  fresh : s.nextPtr ≤ c
  flags : context.flags = 0#32
  host : context.rcContext ≠ 0#32
  current : ∀ t, s'.currentContext t = s.currentContext t
  contexts : s'.contexts = Function.update s.contexts c (some context)
  clientStates : s'.clientStates = Function.update s.clientStates context.clientState true
  freshState : s.nextPtr ≤ context.clientState
  nextPtr : c < s'.nextPtr ∧ context.clientState < s'.nextPtr
  listed : s'.display.contexts = s.display.contexts ++ [c]
  freed : s'.freed = s.freed
  destroyRequests : s'.destroyRequests = s.destroyRequests
  held : SameHeld s s'

omit [DecidableEq Thread] in
/-- Adding a context to a state that differs from `s` in no context. -/
theorem newContext_created {s s₁ : EGLState Thread} (hsame : SameContexts s s₁)
    (hheld : SameHeld s s₁) {rcContext : BitVec 32} (hrc : rcContext ≠ 0#32)
    (dpy : EGLDisplay) (config version : EGLint) (share : Option (ContextPtr × EGLContext)) :
    CreatedContext s (s₁.newContext dpy config version rcContext share) s₁.nextPtr
      (s₁.constructContext dpy config version rcContext share) where
  fresh := hsame.nextPtr
  flags := rfl
  host := hrc
  current := hsame.current
  contexts := by rw [← hsame.contexts]; rfl
  clientStates := by rw [← hsame.clientStates]; rfl
  freshState := hsame.nextPtr.trans (Nat.le_succ _)
  nextPtr := by constructor <;> simp [newContext, constructContext]
  listed := by rw [← hsame.listed]; rfl
  freed := hsame.freed
  destroyRequests := hsame.destroyRequests
  held := hheld

/-- `eglCreateContext` adds one context or changes none. -/
theorem eglCreateContext_cases {s s' : EGLState Thread} {t : Thread} {connects : Bool}
    {rcContext : BitVec 32} {dpy : EGLDisplay} {config : EGLint}
    {share_context : Option ContextPtr} {attrib_list : Option (List EGLint)}
    (h : s.eglCreateContext t connects rcContext dpy config share_context attrib_list =
      some s') :
    (SameContexts s s' ∧ SameHeld s s') ∨ ∃ c context, CreatedContext s s' c context := by
  have hrefused : ∀ error, some (s.setErrorReturn t error).2 = some s' →
      SameContexts s s' ∧ SameHeld s s' := by
    intro error herror
    obtain rfl := Option.some.inj herror
    exact ⟨SameContexts.setErrorReturn s t error, sameHeld_setErrorReturn s t error⟩
  have hshared : ∀ version share,
      some (s.createContextShared t connects rcContext dpy config version share) = some s' →
      (SameContexts s s' ∧ SameHeld s s') ∨ ∃ c context, CreatedContext s s' c context := by
    intro version share hcreate
    obtain rfl := Option.some.inj hcreate
    unfold createContextShared
    cases hconn : s.getHostConnection t connects with
    | mk connected s₁ =>
        obtain ⟨hsame, hheld, -⟩ := getHostConnection_cases hconn
        cases connected with
        | false => exact Or.inl ⟨hsame, hheld⟩
        | true =>
            have hsent := hsame.trans (SameContexts.send s₁ (.rcCreateContext config
              (share.elim 0#32 fun shared => shared.2.rcContext) version) (by simp))
            dsimp only
            split_ifs with hrc
            · refine Or.inl ⟨hsent.trans (SameContexts.setErrorReturn _ t _), ?_⟩
              intro t' api
              exact (sameHeld_setErrorReturn _ t _ t' api).trans (hheld t' api)
            · exact Or.inr ⟨_, _, newContext_created hsent hheld hrc dpy config version share⟩
  unfold eglCreateContext at h
  split_ifs at h
  · exact Or.inl (hrefused _ h)
  · exact Or.inl (hrefused _ h)
  · exact Or.inl (hrefused _ h)
  · cases hversion : attrib_list.elim (some 1#32) (clientVersion 1#32) with
    | none => simp [hversion] at h
    | some version =>
        simp only [hversion] at h
        cases share_context with
        | none => exact hshared version none h
        | some c =>
            cases hshare : s.contexts c with
            | none => simp [hshare] at h
            | some shareCtx =>
                simp only [hshare] at h
                split_ifs at h
                · exact Or.inl (hrefused _ h)
                · exact hshared version _ h

theorem deleteSurface_sameContexts {s s' : EGLState Thread} {t : Thread} {connects : Bool}
    {surface : SurfacePtr} (h : s.deleteSurface t connects surface = some s') :
    SameContexts s s' ∧ SameHeld s s' := by
  unfold deleteSurface at h
  cases hconn : s.getHostConnection t connects with
  | mk connected s₁ =>
      obtain ⟨hsame, hheld, -⟩ := getHostConnection_cases hconn
      cases hsurface : s.surfaces surface with
      | none => simp [hsurface] at h
      | some object =>
          cases connected with
          | false => simp [hsurface, hconn] at h
          | true =>
              simp only [hsurface, hconn, Option.some.injEq] at h
              subst h
              exact ⟨⟨hsame.current, hsame.contexts, hsame.clientStates, hsame.nextPtr,
                hsame.listed, hsame.freed, hsame.destroyRequests⟩, hheld⟩

theorem createSurface_sameContexts {s s' : EGLState Thread} {t : Thread} {connects : Bool}
    {rcSurface : BitVec 32} (h : s.createSurface t connects rcSurface = some s') :
    SameContexts s s' ∧ SameHeld s s' := by
  unfold createSurface at h
  cases hconn : s.getHostConnection t connects with
  | mk connected s₁ =>
      obtain ⟨hsame, hheld, -⟩ := getHostConnection_cases hconn
      cases connected with
      | false => simp [hconn] at h
      | true =>
          simp only [hconn] at h
          split_ifs at h
          · obtain rfl := Option.some.inj h
            refine ⟨hsame.trans (SameContexts.setErrorReturn s₁ t _), ?_⟩
            intro t' api
            exact (sameHeld_setErrorReturn s₁ t _ t' api).trans (hheld t' api)
          · obtain rfl := Option.some.inj h
            exact ⟨⟨hsame.current, hsame.contexts, hsame.clientStates,
              hsame.nextPtr.trans (Nat.le_succ _), hsame.listed, hsame.freed,
              hsame.destroyRequests⟩, hheld⟩

theorem eglDestroySurface_sameContexts {s s' : EGLState Thread} {t : Thread}
    {connects ret : Bool} {dpy : EGLDisplay} {surface : Option SurfacePtr}
    (h : s.eglDestroySurface t connects dpy surface = some (ret, s')) :
    SameContexts s s' ∧ SameHeld s s' := by
  have hrefused : ∀ error, some (s.setErrorReturn t error) = some (ret, s') →
      SameContexts s s' ∧ SameHeld s s' := by
    intro error herror
    obtain rfl := congrArg Prod.snd (Option.some.inj herror)
    exact ⟨SameContexts.setErrorReturn s t error, sameHeld_setErrorReturn s t error⟩
  unfold eglDestroySurface at h
  split_ifs at h
  · exact hrefused _ h
  · exact hrefused _ h
  · split at h
    · cases h
    · exact hrefused _ h
    · obtain rfl := congrArg Prod.snd (Option.some.inj h)
      exact ⟨SameContexts.refl s, fun _ _ => rfl⟩
    · obtain ⟨s₁, hdelete, heq⟩ := Option.map_eq_some_iff.mp h
      obtain rfl := congrArg Prod.snd heq
      obtain ⟨hsame, hheld⟩ := deleteSurface_sameContexts hdelete
      exact ⟨⟨hsame.current, hsame.contexts, hsame.clientStates, hsame.nextPtr, hsame.listed,
        hsame.freed, hsame.destroyRequests⟩, hheld⟩

theorem initializeDisplay_sameContexts (s : EGLState Thread) (t : Thread) (reply : InitReply) :
    SameContexts s (s.initializeDisplay t reply).2 ∧
      SameHeld s (s.initializeDisplay t reply).2 := by
  unfold initializeDisplay
  split_ifs with hinit hgles
  · exact ⟨SameContexts.refl s, fun _ _ => rfl⟩
  · exact ⟨SameContexts.refl s, fun _ _ => rfl⟩
  · dsimp only
    split
    · rename_i s₁ hconn
      obtain ⟨hsame, hheld, -⟩ := getHostConnection_cases hconn
      exact ⟨⟨hsame.current, hsame.contexts, hsame.clientStates, hsame.nextPtr, hsame.listed,
        hsame.freed, hsame.destroyRequests⟩, hheld⟩
    · rename_i s₁ hconn
      obtain ⟨hsame, hheld, -⟩ := getHostConnection_cases hconn
      have hsame' : SameContexts s s₁ := ⟨hsame.current, hsame.contexts, hsame.clientStates,
        hsame.nextPtr, hsame.listed, hsame.freed, hsame.destroyRequests⟩
      split
      · exact ⟨hsame', hheld⟩
      · split_ifs
        · exact ⟨hsame', hheld⟩
        · exact ⟨⟨hsame'.current, hsame'.contexts, hsame'.clientStates, hsame'.nextPtr,
            hsame'.listed, hsame'.freed, hsame'.destroyRequests⟩, hheld⟩

end EGLState
end EGL
end DeviceAndroVM
