import DeviceAndroVM.EGL.Terminate
import DeviceAndroVM.EGL.TerminateLists

/-!
# The two lists of the display over whole runs

The lists have addresses of objects that exist, each once, whatever the threads call and
whatever the host answers.  New objects come behind all others.

* `Catalogued` — the invariant.
* `SameCatalogue` — the objects and the lists are as before.
* `Catalogued.setContext`, `Catalogued.deleteContext`, ... — one lemma for each kind of
  change.
* `catalogued_step` — the calls.
* `registered_of_run` — in a run, an initialised display is `Registered` after every call.
-/

namespace DeviceAndroVM
namespace EGL

open Library

universe u

variable {Thread : Type u}

namespace EGLState

/-- The lists have addresses of existing objects, each once, and the next address is
unused. -/
structure Catalogued (s : EGLState Thread) : Prop where
  contextsOnce : s.display.contexts.Nodup
  contextsLive : ∀ c ∈ s.display.contexts, ∃ context, s.contexts c = some context
  contextsBelow : ∀ c context, s.contexts c = some context → c < s.nextPtr
  surfacesOnce : s.display.surfaces.Nodup
  surfacesLive : ∀ surface ∈ s.display.surfaces, ∃ object, s.surfaces surface = some object
  surfacesBelow : ∀ surface object, s.surfaces surface = some object → surface < s.nextPtr

/-- The objects and the lists are the same. -/
structure SameCatalogue (s s' : EGLState Thread) : Prop where
  contexts : s'.contexts = s.contexts
  surfaces : s'.surfaces = s.surfaces
  listedContexts : s'.display.contexts = s.display.contexts
  listedSurfaces : s'.display.surfaces = s.display.surfaces
  nextPtr : s'.nextPtr = s.nextPtr

theorem Catalogued.registered {s : EGLState Thread} (h : Catalogued s)
    (hinit : s.display.initialized = true) : s.Registered :=
  ⟨hinit, h.contextsOnce, h.contextsLive, h.surfacesOnce, h.surfacesLive⟩

theorem catalogued_init : Catalogued (init : EGLState Thread) where
  contextsOnce := List.nodup_nil
  contextsLive := fun _ h => nomatch h
  contextsBelow := fun _ _ h => nomatch h
  surfacesOnce := List.nodup_nil
  surfacesLive := fun _ h => nomatch h
  surfacesBelow := fun _ _ h => nomatch h

/-! ## The kinds of changes -/

section Changes

variable {s s' : EGLState Thread}

theorem Catalogued.same (h : Catalogued s) (hsame : SameCatalogue s s') : Catalogued s' where
  contextsOnce := by simpa only [hsame.listedContexts] using h.contextsOnce
  contextsLive := by simpa only [hsame.listedContexts, hsame.contexts] using h.contextsLive
  contextsBelow := by simpa only [hsame.contexts, hsame.nextPtr] using h.contextsBelow
  surfacesOnce := by simpa only [hsame.listedSurfaces] using h.surfacesOnce
  surfacesLive := by simpa only [hsame.listedSurfaces, hsame.surfaces] using h.surfacesLive
  surfacesBelow := by simpa only [hsame.surfaces, hsame.nextPtr] using h.surfacesBelow

/-- A context object is overwritten. -/
theorem Catalogued.setContext (h : Catalogued s) {c : ContextPtr} {context : EGLContext}
    (hctx : s.contexts c = some context) (context' : EGLContext) :
    Catalogued (s.setContext c context') where
  contextsOnce := h.contextsOnce
  contextsLive := by
    intro x hx
    obtain ⟨object, hobject⟩ := h.contextsLive x hx
    exact exists_setContext context' hobject
  contextsBelow := by
    intro x object hobject
    rcases update_some_eq_some.mp hobject with ⟨rfl, -⟩ | ⟨-, hold⟩
    · exact h.contextsBelow x context hctx
    · exact h.contextsBelow x object hold
  surfacesOnce := h.surfacesOnce
  surfacesLive := h.surfacesLive
  surfacesBelow := h.surfacesBelow

/-- Contexts leave the list. -/
theorem Catalogued.withListed (h : Catalogued s) {listed : List ContextPtr}
    (hsub : listed.Sublist s.display.contexts) : Catalogued (s.withListed listed) where
  contextsOnce := h.contextsOnce.sublist hsub
  contextsLive := fun c hc => h.contextsLive c (hsub.subset hc)
  contextsBelow := h.contextsBelow
  surfacesOnce := h.surfacesOnce
  surfacesLive := h.surfacesLive
  surfacesBelow := h.surfacesBelow

/-- A context that is off the list is freed. -/
theorem Catalogued.deleteContext (h : Catalogued s) {c : ContextPtr} (context : EGLContext)
    (hc : c ∉ s.display.contexts) : Catalogued (s.deleteContext c context) where
  contextsOnce := h.contextsOnce
  contextsLive := by
    intro x hx
    obtain ⟨object, hobject⟩ := h.contextsLive x hx
    refine ⟨object, update_none_eq_some.mpr ⟨?_, hobject⟩⟩
    rintro rfl
    exact hc hx
  contextsBelow := fun x object hobject =>
    h.contextsBelow x object (update_none_eq_some.mp hobject).2
  surfacesOnce := h.surfacesOnce
  surfacesLive := h.surfacesLive
  surfacesBelow := h.surfacesBelow

/-- A surface leaves the list and is freed. -/
theorem Catalogued.eraseSurface (h : Catalogued s) (surface : SurfacePtr) :
    Catalogued { s with
      surfaces := Function.update s.surfaces surface none
      display := { s.display with surfaces := s.display.surfaces.erase surface } } where
  contextsOnce := h.contextsOnce
  contextsLive := h.contextsLive
  contextsBelow := h.contextsBelow
  surfacesOnce := h.surfacesOnce.erase surface
  surfacesLive := by
    intro x hx
    obtain ⟨hne, hmem⟩ := h.surfacesOnce.mem_erase_iff.mp hx
    obtain ⟨object, hobject⟩ := h.surfacesLive x hmem
    exact ⟨object, update_none_eq_some.mpr ⟨hne, hobject⟩⟩
  surfacesBelow := fun x object hobject =>
    h.surfacesBelow x object (update_none_eq_some.mp hobject).2

theorem nodup_concat {listed : List Nat} {n : Nat} (h : listed.Nodup) (hn : ∀ x ∈ listed, x ≠ n) :
    (listed ++ [n]).Nodup := by
  refine List.nodup_append.mpr ⟨h, List.nodup_singleton n, fun x hx y hy => ?_⟩
  rw [List.mem_singleton.mp hy]
  exact hn x hx

/-- A surface is allocated and listed. -/
theorem Catalogued.addSurface (h : Catalogued s) (object : EGLSurface) :
    Catalogued { s with
      surfaces := Function.update s.surfaces s.nextPtr (some object)
      nextPtr := s.nextPtr + 1
      display := { s.display with surfaces := s.display.surfaces ++ [s.nextPtr] } } where
  contextsOnce := h.contextsOnce
  contextsLive := h.contextsLive
  contextsBelow := fun c context hctx => Nat.lt_succ_of_lt (h.contextsBelow c context hctx)
  surfacesOnce := by
    refine nodup_concat h.surfacesOnce fun x hx => ?_
    obtain ⟨old, hold⟩ := h.surfacesLive x hx
    exact Nat.ne_of_lt (h.surfacesBelow x old hold)
  surfacesLive := by
    intro x hx
    rcases List.mem_append.mp hx with hx | hx
    · obtain ⟨old, hold⟩ := h.surfacesLive x hx
      have hlt := h.surfacesBelow x old hold
      exact ⟨old, update_some_eq_some.mpr (Or.inr ⟨Nat.ne_of_lt hlt, hold⟩)⟩
    · rw [List.mem_singleton.mp hx]
      exact ⟨object, Function.update_self ..⟩
  surfacesBelow := by
    intro x old hold
    rcases update_some_eq_some.mp hold with ⟨rfl, -⟩ | ⟨-, hold⟩
    · exact Nat.lt_succ_self _
    · exact Nat.lt_succ_of_lt (h.surfacesBelow x old hold)

/-- A context is allocated and listed. -/
theorem Catalogued.newContext (h : Catalogued s) (dpy : EGLDisplay) (config version : EGLint)
    (rcContext : BitVec 32) (share : Option (ContextPtr × EGLContext)) :
    Catalogued (s.newContext dpy config version rcContext share) where
  contextsOnce := by
    refine nodup_concat h.contextsOnce fun x hx => ?_
    obtain ⟨old, hold⟩ := h.contextsLive x hx
    exact Nat.ne_of_lt (h.contextsBelow x old hold)
  contextsLive := by
    intro x hx
    rcases List.mem_append.mp hx with hx | hx
    · obtain ⟨old, hold⟩ := h.contextsLive x hx
      exact exists_setContext _ hold
    · rw [List.mem_singleton.mp hx]
      exact ⟨_, Function.update_self ..⟩
  contextsBelow := by
    intro x old hold
    rcases update_some_eq_some.mp hold with ⟨rfl, -⟩ | ⟨-, hold⟩
    · exact Nat.lt_add_of_pos_right (by decide)
    · exact (h.contextsBelow x old hold).trans_le (Nat.le_add_right _ 3)
  surfacesOnce := h.surfacesOnce
  surfacesLive := h.surfacesLive
  surfacesBelow := by
    intro x old hold
    have hlt := h.surfacesBelow x old hold
    exact hlt.trans_le (Nat.le_add_right _ 3)

end Changes

/-! ## Steps that keep the catalogue -/

theorem SameCatalogue.refl (s : EGLState Thread) : SameCatalogue s s := ⟨rfl, rfl, rfl, rfl, rfl⟩

theorem SameCatalogue.trans {s s₁ s₂ : EGLState Thread} (h : SameCatalogue s s₁)
    (h₁ : SameCatalogue s₁ s₂) : SameCatalogue s s₂ where
  contexts := h₁.contexts.trans h.contexts
  surfaces := h₁.surfaces.trans h.surfaces
  listedContexts := h₁.listedContexts.trans h.listedContexts
  listedSurfaces := h₁.listedSurfaces.trans h.listedSurfaces
  nextPtr := h₁.nextPtr.trans h.nextPtr

section Calls

variable [DecidableEq Thread] {s s' : EGLState Thread} {t : Thread} {connects : Bool}

theorem sameCatalogue_updThread (s : EGLState Thread) (t : Thread)
    (f : EGLThreadInfo → EGLThreadInfo) : SameCatalogue s (s.updThread t f) :=
  ⟨rfl, rfl, rfl, rfl, rfl⟩

theorem sameCatalogue_setErrorReturn (s : EGLState Thread) (t : Thread) (error : EGLint) :
    SameCatalogue s (s.setErrorReturn t error).2 := ⟨rfl, rfl, rfl, rfl, rfl⟩

/-- A call that is refused. -/
theorem Catalogued.refused {ret : Bool} {error : EGLint} (h : Catalogued s)
    (hcall : some (s.setErrorReturn t error) = some (ret, s')) : Catalogued s' := by
  obtain rfl := congrArg Prod.snd (Option.some.inj hcall)
  exact h.same (sameCatalogue_setErrorReturn s t error)

theorem sameCatalogue_getHostConnection {connected : Bool}
    (h : s.getHostConnection t connects = (connected, s')) : SameCatalogue s s' := by
  unfold getHostConnection at h
  split at h
  · cases h
    exact .refl s
  · split at h
    · cases h
      exact sameCatalogue_updThread s t _
    · cases h
      exact .refl s

theorem sameCatalogue_initEncoder (h : s.initEncoder t = some s') : SameCatalogue s s' := by
  unfold initEncoder at h
  split at h
  · cases h
    exact .refl s
  · split at h
    · dsimp only at h
      split at h
      · cases h
        exact .refl s
      · split at h
        · cases h
          exact sameCatalogue_updThread s t _
        · cases h
    · cases h

/-! ## The calls -/

/-- How `eglDestroyContext` and `destroyContext` end: the context is marked, or it is freed,
or nothing happens to the objects. -/
theorem destroyContextWith_catalogue
    {unlink : EGLState Thread → ContextPtr → EGLState Thread} {ret : Bool} {dpy : EGLDisplay}
    {ctx : Option ContextPtr}
    (h : destroyContextWith unlink s t connects dpy ctx = some (ret, s')) :
    SameCatalogue s s' ∨ ∃ c context, ctx = some c ∧ s.contexts c = some context ∧
      (s' = s.setContext c context.markToDelete ∨ ∃ s₁ context', SameCatalogue s s₁ ∧
        s' = (unlink s₁ c).deleteContext c context') := by
  unfold destroyContextWith at h
  have hrefused : ∀ error, some (s.setErrorReturn t error) = some (ret, s') →
      SameCatalogue s s' := by
    intro error herror
    obtain rfl := congrArg Prod.snd (Option.some.inj herror)
    exact sameCatalogue_setErrorReturn s t error
  split_ifs at h with hdpy hinit
  · exact Or.inl (hrefused _ h)
  · exact Or.inl (hrefused _ h)
  cases ctx with
  | none => exact Or.inl (hrefused _ h)
  | some c =>
      cases hctx : s.contexts c with
      | none => simp [hctx] at h
      | some context =>
          simp only [hctx] at h
          split_ifs at h with hcur hrc
          · obtain rfl := congrArg Prod.snd (Option.some.inj h)
            exact Or.inr ⟨c, context, rfl, hctx, Or.inl rfl⟩
          · cases hconn : s.getHostConnection t connects with
            | mk connected s₁ =>
                have hsame := sameCatalogue_getHostConnection hconn
                simp only [hconn] at h
                cases connected with
                | false =>
                    obtain rfl := congrArg Prod.snd (Option.some.inj h)
                    exact Or.inl hsame
                | true =>
                    obtain rfl := congrArg Prod.snd (Option.some.inj h)
                    refine Or.inr ⟨c, context, rfl, hctx, Or.inr ⟨_, _, hsame.trans ?_, rfl⟩⟩
                    exact ⟨rfl, rfl, rfl, rfl, rfl⟩
          · obtain rfl := congrArg Prod.snd (Option.some.inj h)
            exact Or.inr ⟨c, context, rfl, hctx, Or.inr ⟨s, context, .refl s, rfl⟩⟩

theorem Catalogued.eglDestroyContext {ret : Bool} {dpy : EGLDisplay} {ctx : Option ContextPtr}
    (h : Catalogued s) (hcall : s.eglDestroyContext t connects dpy ctx = some (ret, s')) :
    Catalogued s' := by
  rcases destroyContextWith_catalogue hcall with
    hsame | ⟨c, context, -, hctx, rfl | ⟨s₁, context', hsame, rfl⟩⟩
  · exact h.same hsame
  · exact h.setContext hctx _
  · have h₁ := h.same hsame
    have hremoved : Catalogued (s₁.removeContext c) := h₁.withListed (List.erase_sublist ..)
    exact hremoved.deleteContext context' h₁.contextsOnce.not_mem_erase

/-- A context leaves the list of the loop of `terminate`. -/
theorem Catalogued.destroyContext {ret : Bool} {c : ContextPtr} {visited rest : List ContextPtr}
    (h : Catalogued (s.withListed (visited ++ c :: rest)))
    (hcall : s.destroyContext t connects s_display (some c) = some (ret, s')) :
    Catalogued (s'.withListed (visited ++ rest)) := by
  have hshorter : (visited ++ rest).Sublist (visited ++ c :: rest) :=
    List.Sublist.append_left (List.sublist_cons_self c rest) visited
  have hleft : Catalogued (s.withListed (visited ++ rest)) := h.withListed hshorter
  rcases destroyContextWith_catalogue hcall with
    hsame | ⟨c', context, hc, hctx, rfl | ⟨s₁, context', hsame, rfl⟩⟩
  · exact hleft.same ⟨hsame.contexts, hsame.surfaces, rfl, hsame.listedSurfaces, hsame.nextPtr⟩
  · exact hleft.setContext hctx _
  · obtain rfl := Option.some.inj hc
    have h₁ : Catalogued (s₁.withListed (visited ++ rest)) :=
      hleft.same ⟨hsame.contexts, hsame.surfaces, rfl, hsame.listedSurfaces, hsame.nextPtr⟩
    refine h₁.deleteContext context' fun hmem => ?_
    have honce : (visited ++ c :: rest).Nodup := h.contextsOnce
    rw [List.nodup_middle, List.nodup_cons] at honce
    exact honce.1 hmem

theorem Catalogued.terminateContexts {visited rest : List ContextPtr}
    (h : Catalogued (s.withListed (visited ++ rest)))
    (hrun : terminateContexts t connects s visited rest = some s') : Catalogued s' := by
  fun_induction EGLState.terminateContexts t connects s visited rest with
  | case1 s visited =>
      obtain rfl := Option.some.inj hrun
      rwa [List.append_nil] at h
  | case2 s visited c rest hctx => cases hrun
  | case3 s visited c rest context hctx hflag ih =>
      refine ih ?_ hrun
      rw [List.append_assoc]
      exact h.setContext hctx _
  | case4 s visited c rest context hctx hclear hcall => cases hrun
  | case5 s visited c context hctx hclear ret s₁ hcall ih =>
      have hleft := h.destroyContext hcall
      rw [List.append_nil] at hleft
      exact ih hleft hrun
  | case6 s visited c context hctx hclear ret s₁ next rest hcall ih =>
      refine ih ?_ hrun
      rw [List.append_assoc]
      exact h.destroyContext hcall

theorem deleteSurface_catalogue {surface : SurfacePtr}
    (h : s.deleteSurface t connects surface = some s') :
    ∃ s₁, SameCatalogue s s₁ ∧
      s' = { s₁ with surfaces := Function.update s₁.surfaces surface none } := by
  unfold deleteSurface at h
  split at h
  · rename_i s₁ _ hconn
    exact ⟨s₁, sameCatalogue_getHostConnection hconn, (Option.some.inj h).symm⟩
  · cases h

/-- `terminate` frees the surfaces one after the other, and clears the list then. -/
theorem Catalogued.deleteSurfaces {surfaces : List SurfacePtr}
    (h : Catalogued s.withoutSurfaces)
    (hrun : surfaces.foldlM (deleteSurface t connects) s = some s') :
    Catalogued s'.withoutSurfaces := by
  induction surfaces generalizing s with
  | nil =>
      obtain rfl := Option.some.inj hrun
      exact h
  | cons surface rest ih =>
      rw [List.foldlM_cons] at hrun
      obtain ⟨s₁, hdelete, hrest⟩ := Option.bind_eq_some_iff.mp hrun
      refine ih ?_ hrest
      obtain ⟨s₂, hsame, rfl⟩ := deleteSurface_catalogue hdelete
      refine (h.eraseSurface surface).same ⟨hsame.contexts, ?_, hsame.listedContexts, rfl,
        hsame.nextPtr⟩
      exact congrArg (Function.update · surface none) hsame.surfaces

theorem Catalogued.eglTerminate {ret : Bool} {dpy : EGLDisplay} (h : Catalogued s)
    (hcall : s.eglTerminate t connects dpy = some (ret, s')) : Catalogued s' := by
  unfold EGLState.eglTerminate at hcall
  split_ifs at hcall with hdpy hinit
  · exact h.refused hcall
  · exact h.refused hcall
  · obtain ⟨s₂, hterminate, heq⟩ := Option.map_eq_some_iff.mp hcall
    obtain rfl := congrArg Prod.snd heq
    obtain ⟨s₁, hsurfaces, hloop⟩ := Option.bind_eq_some_iff.mp hterminate
    have hcleared : Catalogued s.withoutSurfaces :=
      ⟨h.contextsOnce, h.contextsLive, h.contextsBelow, List.nodup_nil, (fun _ hx => nomatch hx),
        h.surfacesBelow⟩
    have h₁ : Catalogued s₁.withoutSurfaces := hcleared.deleteSurfaces hsurfaces
    have hlisted : Catalogued
        (s₁.withoutSurfaces.withListed ([] ++ s₁.withoutSurfaces.display.contexts)) := h₁
    exact hlisted.terminateContexts hloop

theorem Catalogued.eglDestroySurface {ret : Bool} {dpy : EGLDisplay}
    {surface : Option SurfacePtr} (h : Catalogued s)
    (hcall : s.eglDestroySurface t connects dpy surface = some (ret, s')) : Catalogued s' := by
  unfold EGLState.eglDestroySurface at hcall
  split_ifs at hcall with hdpy hinit
  · exact h.refused hcall
  · exact h.refused hcall
  · split at hcall
    · cases hcall
    · exact h.refused hcall
    · obtain rfl := congrArg Prod.snd (Option.some.inj hcall)
      exact h
    · rename_i surf _
      obtain ⟨s₁, hdelete, heq⟩ := Option.map_eq_some_iff.mp hcall
      obtain rfl := congrArg Prod.snd heq
      obtain ⟨s₂, hsame, rfl⟩ := deleteSurface_catalogue hdelete
      refine (h.eraseSurface surf).same ⟨hsame.contexts, ?_, hsame.listedContexts,
        hsame.listedSurfaces, hsame.nextPtr⟩
      exact congrArg (Function.update · surf none) hsame.surfaces

omit [DecidableEq Thread] in
/-- Which interfaces are loaded does not matter. -/
theorem SameCatalogue.ofIface {iface : ClientApi → Bool}
    (h : SameCatalogue { s with display := { s.display with iface := iface } } s') :
    SameCatalogue s s' :=
  ⟨h.contexts, h.surfaces, h.listedContexts, h.listedSurfaces, h.nextPtr⟩

theorem sameCatalogue_initializeDisplay (s : EGLState Thread) (t : Thread) (reply : InitReply) :
    SameCatalogue s (s.initializeDisplay t reply).2 := by
  unfold initializeDisplay
  split_ifs with hinit hgles
  · exact .refl s
  · exact .refl s
  · dsimp only
    split
    · rename_i s₁ hconn
      exact (sameCatalogue_getHostConnection hconn).ofIface
    · rename_i s₁ hconn
      have hsame := (sameCatalogue_getHostConnection hconn).ofIface
      split
      · exact hsame
      · split_ifs
        · exact hsame
        · exact ⟨hsame.contexts, hsame.surfaces, hsame.listedContexts, hsame.listedSurfaces,
            hsame.nextPtr⟩

theorem Catalogued.createSurface {rcSurface : BitVec 32} (h : Catalogued s)
    (hcall : s.createSurface t connects rcSurface = some s') : Catalogued s' := by
  unfold EGLState.createSurface at hcall
  split at hcall
  · cases hcall
  · rename_i s₁ hconn
    have h₁ := h.same (sameCatalogue_getHostConnection hconn)
    split at hcall
    · obtain rfl := Option.some.inj hcall
      exact h₁.same (sameCatalogue_setErrorReturn s₁ t _)
    · obtain rfl := Option.some.inj hcall
      exact h₁.addSurface _

theorem Catalogued.createContextShared (h : Catalogued s) (rcContext : BitVec 32)
    (dpy : EGLDisplay) (config version : EGLint) (share : Option (ContextPtr × EGLContext)) :
    Catalogued (s.createContextShared t connects rcContext dpy config version share) := by
  unfold EGLState.createContextShared
  cases hconn : s.getHostConnection t connects with
  | mk connected s₁ =>
      have h₁ := h.same (sameCatalogue_getHostConnection hconn)
      cases connected with
      | false => exact h₁
      | true =>
          have hsent : ∀ command, Catalogued (s₁.send command) :=
            fun command => h₁.same ⟨rfl, rfl, rfl, rfl, rfl⟩
          dsimp only
          split
          · exact (hsent _).same (sameCatalogue_setErrorReturn _ t _)
          · exact (hsent _).newContext dpy config version rcContext share

theorem Catalogued.eglCreateContext {rcContext : BitVec 32} {dpy : EGLDisplay} {config : EGLint}
    {share_context : Option ContextPtr} {attrib_list : Option (List EGLint)} (h : Catalogued s)
    (hcall : s.eglCreateContext t connects rcContext dpy config share_context attrib_list =
      some s') : Catalogued s' := by
  unfold EGLState.eglCreateContext at hcall
  have hrefused : ∀ error, some (s.setErrorReturn t error).2 = some s' → Catalogued s' := by
    intro error herror
    obtain rfl := Option.some.inj herror
    exact h.same (sameCatalogue_setErrorReturn s t error)
  split_ifs at hcall with hdpy hinit hconfig
  · exact hrefused _ hcall
  · exact hrefused _ hcall
  · exact hrefused _ hcall
  · split at hcall
    · cases hcall
    · split at hcall
      · obtain rfl := Option.some.inj hcall
        exact h.createContextShared rcContext dpy config _ none
      · split at hcall
        · cases hcall
        · split at hcall
          · exact hrefused _ hcall
          · obtain rfl := Option.some.inj hcall
            exact h.createContextShared rcContext dpy config _ _

/-! ## `eglMakeCurrent` -/

theorem Catalogued.bindLocally {draw read : Option SurfacePtr} {ctx : Option ContextPtr}
    (h : Catalogued s) (hcall : s.bindLocally t draw read ctx = some s') : Catalogued s' := by
  cases ctx with
  | none =>
      obtain ⟨previous, -, rfl⟩ := Option.map_eq_some_iff.mp hcall
      exact h.same (sameCatalogue_updThread s t _)
  | some c =>
      obtain ⟨context, hctx, rfl⟩ := Option.map_eq_some_iff.mp hcall
      exact (h.setContext hctx _).same (sameCatalogue_updThread _ t _)

omit [DecidableEq Thread] in
theorem Catalogued.releaseCurrent (h : Catalogued s) (hcall : s.releaseCurrent t = some s') :
    Catalogued s' := by
  unfold EGLState.releaseCurrent at hcall
  split at hcall
  · obtain rfl := Option.some.inj hcall
    exact h
  · obtain ⟨previous, hctx, rfl⟩ := Option.map_eq_some_iff.mp hcall
    exact h.setContext hctx _

theorem Catalogued.destroyMarked {previous : Option ContextPtr} (h : Catalogued s)
    (hcall : s.destroyMarked t connects previous = some s') : Catalogued s' := by
  unfold EGLState.destroyMarked at hcall
  split at hcall
  · obtain rfl := Option.some.inj hcall
    exact h
  · split at hcall
    · cases hcall
    · split at hcall
      · obtain ⟨⟨ret, s₁⟩, hdestroy, rfl⟩ := Option.map_eq_some_iff.mp hcall
        exact h.eglDestroyContext hdestroy
      · obtain rfl := Option.some.inj hcall
        exact h

theorem Catalogued.makeCurrentLocally {draw read : Option SurfacePtr} {ctx : Option ContextPtr}
    (h : Catalogued s) (hcall : s.makeCurrentLocally t connects draw read ctx = some s') :
    Catalogued s' := by
  obtain ⟨s₁, hbind, hcall⟩ := Option.bind_eq_some_iff.mp hcall
  obtain ⟨s₂, hrelease, hcall⟩ := Option.bind_eq_some_iff.mp hcall
  obtain ⟨s₃, hdestroy, hinit⟩ := Option.bind_eq_some_iff.mp hcall
  have h₂ := (h.bindLocally hbind).releaseCurrent hrelease
  have hset : Catalogued (s₂.setCurrentContext t ctx) := h₂.same (sameCatalogue_updThread s₂ t _)
  exact (hset.destroyMarked hdestroy).same (sameCatalogue_initEncoder hinit)

theorem Catalogued.makeCurrentChecked {reply : HostReply} {draw read : Option SurfacePtr}
    {ctx : Option ContextPtr} {context : Option EGLContext} {ret : Bool} (h : Catalogued s)
    (hcall : s.makeCurrentChecked t reply draw read ctx context = some (ret, s')) :
    Catalogued s' := by
  unfold EGLState.makeCurrentChecked at hcall
  split at hcall
  · obtain rfl := congrArg Prod.snd (Option.some.inj hcall)
    exact h
  split at hcall
  · exact h.refused hcall
  cases hconn : s.getHostConnection t reply.connects with
  | mk connected s₁ =>
      have h₁ := h.same (sameCatalogue_getHostConnection hconn)
      rw [hconn] at hcall
      cases connected with
      | false =>
          obtain rfl := congrArg Prod.snd (Option.some.inj hcall)
          exact h₁
      | true =>
          have hsent : ∀ command, Catalogued (s₁.send command) :=
            fun command => h₁.same ⟨rfl, rfl, rfl, rfl, rfl⟩
          dsimp only at hcall
          split at hcall
          · exact (hsent _).refused hcall
          · obtain ⟨s₂, hlocal, heq⟩ := Option.map_eq_some_iff.mp hcall
            obtain rfl := congrArg Prod.snd heq
            exact (hsent _).makeCurrentLocally hlocal

theorem Catalogued.eglMakeCurrent {reply : HostReply} {dpy : EGLDisplay}
    {draw read : Option SurfacePtr} {ctx : Option ContextPtr} {ret : Bool} (h : Catalogued s)
    (hcall : s.eglMakeCurrent t reply dpy draw read ctx = some (ret, s')) : Catalogued s' := by
  unfold EGLState.eglMakeCurrent at hcall
  split_ifs at hcall with hdpy hinit
  · exact h.refused hcall
  · exact h.refused hcall
  split at hcall
  · cases hcall
  · exact h.refused hcall
  split at hcall
  · cases hcall
  · exact h.refused hcall
  unfold makeCurrentValidated at hcall
  split_ifs at hcall with hnone hsome
  · exact h.refused hcall
  · exact h.refused hcall
  split at hcall
  · exact h.makeCurrentChecked hcall
  · split at hcall
    · cases hcall
    · exact h.makeCurrentChecked hcall

/-- One call of any thread. -/
theorem catalogued_step {label : Thread × EGLCall} (h : Catalogued s)
    (hstep : EGLStep s label s') : Catalogued s' := by
  obtain ⟨t, call⟩ := label
  cases call with
  | eglInitialize dpy reply =>
      simp only [EGLStep, runCall, EGLCall.run] at hstep
      split_ifs at hstep
      · exact Option.some.inj hstep ▸ h.same (sameCatalogue_setErrorReturn s t _)
      · exact Option.some.inj hstep ▸ h.same (sameCatalogue_initializeDisplay s t reply)
  | createSurface connects rcSurface => exact h.createSurface hstep
  | eglDestroySurface connects dpy surface =>
      obtain ⟨⟨ret, _⟩, hcall, rfl⟩ := Option.map_eq_some_iff.mp hstep
      exact h.eglDestroySurface hcall
  | eglCreateContext connects rcContext dpy config share_context attrib_list =>
      exact h.eglCreateContext hstep
  | eglMakeCurrent reply dpy draw read ctx =>
      obtain ⟨⟨ret, _⟩, hcall, rfl⟩ := Option.map_eq_some_iff.mp hstep
      exact h.eglMakeCurrent hcall
  | eglDestroyContext connects dpy ctx =>
      obtain ⟨⟨ret, _⟩, hcall, rfl⟩ := Option.map_eq_some_iff.mp hstep
      exact h.eglDestroyContext hcall
  | eglReleaseThread reply =>
      obtain ⟨⟨ret, _⟩, hcall, rfl⟩ := Option.map_eq_some_iff.mp hstep
      rcases eglReleaseThread_cases hcall with rfl | hrelease
      · exact h
      · exact h.eglMakeCurrent hrelease
  | eglTerminate connects dpy =>
      obtain ⟨⟨ret, _⟩, hcall, rfl⟩ := Option.map_eq_some_iff.mp hstep
      exact h.eglTerminate hcall

end Calls

end EGLState

open EGLState

variable [DecidableEq Thread]

/-- For every number of threads, every interleaving of their calls and every answer of the
host: when the display is initialised, its lists are in order. -/
theorem registered_of_run (trace : List ((Thread × EGLCall) × EGLState Thread))
    (hrun : Run EGLStep EGLState.init trace) :
    Always (fun s => s.display.initialized = true → s.Registered) trace :=
  (hrun.always (fun _ _ _ h hstep => catalogued_step h hstep) catalogued_init).imp
    fun _ h => h.registered

end EGL
end DeviceAndroVM
