import DeviceAndroVM.EGL.Lifetime

/-!
# The loop of `eglDisplay::terminate`

* `Shrinks` — a step that marks or frees contexts and changes nothing else
  about them.
* `terminateContexts_shrinks` — the loop is such a step and keeps the
  invariant, whatever elements it skips.
-/

namespace DeviceAndroVM
namespace EGL

universe u

variable {Thread : Type u}

namespace EGLState

/-- Threads keep their current contexts, the surviving contexts keep their host
context and `IS_CURRENT`, and the others have been freed with their requests. -/
structure Shrinks (s s' : EGLState Thread) : Prop where
  current : ∀ t, s'.currentContext t = s.currentContext t
  survives : ∀ c context', s'.contexts c = some context' → ∃ context,
    s.contexts c = some context ∧ context'.rcContext = context.rcContext ∧
      context'.isCurrent = context.isCurrent
  frees : ∃ gone, Frees s gone s'

theorem Shrinks.refl (s : EGLState Thread) : Shrinks s s where
  current := fun _ => rfl
  survives := fun _ context' hctx => ⟨context', hctx, rfl, rfl⟩
  frees := ⟨[], (SameContexts.refl s).frees⟩

theorem Shrinks.trans {s s₁ s₂ : EGLState Thread} (h : Shrinks s s₁) (h₁ : Shrinks s₁ s₂) :
    Shrinks s s₂ where
  current := fun t => (h₁.current t).trans (h.current t)
  survives := by
    intro c context₂ hctx₂
    obtain ⟨context₁, hctx₁, hhost₁, hflag₁⟩ := h₁.survives c context₂ hctx₂
    obtain ⟨context, hctx, hhost, hflag⟩ := h.survives c context₁ hctx₁
    exact ⟨context, hctx, hhost₁.trans hhost, hflag₁.trans hflag⟩
  frees := by
    obtain ⟨gone, hfreed, hrequests, hlive⟩ := h.frees
    obtain ⟨gone₁, hfreed₁, hrequests₁, hlive₁⟩ := h₁.frees
    refine ⟨gone ++ gone₁, by simp [hfreed₁, hfreed], ?_, ?_⟩
    · have hsameHost : gone₁.map s₁.hostContext = gone₁.map s.hostContext := by
        apply List.map_congr_left
        intro c hc
        obtain ⟨context₁, hctx₁⟩ := hlive₁ c hc
        obtain ⟨context, hctx, hhost, -⟩ := h.survives c context₁ hctx₁
        rw [hostContext_eq hctx₁, hostContext_eq hctx, hhost]
      rw [hrequests₁, hrequests, hsameHost, List.map_append, List.append_assoc]
    · intro c hc
      rcases List.mem_append.mp hc with hc | hc
      · exact hlive c hc
      · obtain ⟨context₁, hctx₁⟩ := hlive₁ c hc
        obtain ⟨context, hctx, -⟩ := h.survives c context₁ hctx₁
        exact ⟨context, hctx⟩

theorem SameContexts.shrinks {s s' : EGLState Thread} (h : SameContexts s s') :
    Shrinks s s' where
  current := h.current
  survives := fun c context' hctx => ⟨context', by rwa [← h.contexts], rfl, rfl⟩
  frees := ⟨[], h.frees⟩

theorem markToDelete_shrinks {s : EGLState Thread} {c : ContextPtr} {context : EGLContext}
    (hctx : s.contexts c = some context) : Shrinks s (s.setContext c context.markToDelete) where
  current := fun _ => rfl
  survives := by
    intro x object hobject
    by_cases hxc : x = c
    · subst hxc
      obtain rfl : context.markToDelete = object := by simpa using hobject
      exact ⟨context, hctx, rfl, context.isCurrent_markToDelete⟩
    · exact ⟨object, by simpa [hxc] using hobject, rfl, rfl⟩
  frees := ⟨[], by simp [Frees]⟩

theorem Owned.destroyed_shrinks {s : EGLState Thread} (h : Owned s) {c : ContextPtr}
    {context : EGLContext} (hctx : s.contexts c = some context) :
    Shrinks s (s.destroyed c context) where
  current := by simp
  survives := by
    intro x object hobject
    have hxc : x ≠ c := by
      rintro rfl
      simp at hobject
    exact ⟨object, by simpa [hxc] using hobject, rfl, rfl⟩
  frees := ⟨[c], h.frees_destroyed hctx⟩

/-! ## The list during the loop -/

/-- The state with another list of contexts in the display.  The loop has its
own list; the one in the display is out of date until the loop ends. -/
def withListed (s : EGLState Thread) (listed : List ContextPtr) : EGLState Thread :=
  { s with display := { s.display with contexts := listed } }

theorem Owned.withListed {s : EGLState Thread} (h : Owned s) {listed : List ContextPtr}
    (hsub : listed.Sublist s.display.contexts) : Owned (s.withListed listed) where
  live := h.live
  exclusive := h.exclusive
  flagged := h.flagged
  marked := h.marked
  host := h.host
  bounded := h.bounded
  freedDead := h.freedDead
  freedOnce := h.freedOnce
  listedOnce := h.listedOnce.sublist hsub
  listedLive := fun c hc => h.listedLive c (hsub.subset hc)

theorem Shrinks.of_withListed {s s' : EGLState Thread} {listed listed' : List ContextPtr}
    (h : Shrinks (s.withListed listed) (s'.withListed listed')) : Shrinks s s' :=
  ⟨h.current, h.survives, h.frees⟩

theorem withListed_destroyed (s : EGLState Thread) (listed : List ContextPtr) (c : ContextPtr)
    (context : EGLContext) :
    (s.withListed listed).destroyed c context =
      (s.destroyed c context).withListed (listed.erase c) := by
  unfold destroyed requestDestroy
  split_ifs <;> rfl

/-- Without its unlinking, the destruction of a context differs in the list. -/
theorem withListed_delete (s : EGLState Thread) (listed : List ContextPtr) (c : ContextPtr)
    (context : EGLContext) :
    ((s.requestDestroy context).deleteContext c context).withListed listed =
      (s.destroyed c context).withListed listed := by
  unfold destroyed requestDestroy
  split_ifs <;> rfl

variable [DecidableEq Thread]

/-- The contexts of the list that other threads have current are flagged. -/
def OthersFlagged (s : EGLState Thread) (t : Thread) (listed : List ContextPtr) : Prop :=
  ∀ t' c context, t' ≠ t → s.currentContext t' = some c → c ∈ listed →
    s.contexts c = some context → context.isCurrent = true

omit [DecidableEq Thread] in
theorem OthersFlagged.shrinks {s s' : EGLState Thread} {t : Thread}
    {listed listed' : List ContextPtr} (h : OthersFlagged s t listed) (hshrinks : Shrinks s s')
    (hsub : listed' ⊆ listed) : OthersFlagged s' t listed' := by
  intro t' c context' ht hcur hmem hctx'
  rw [hshrinks.current] at hcur
  obtain ⟨context, hctx, -, hflag⟩ := hshrinks.survives c context' hctx'
  rw [hflag]
  exact h t' c context ht hcur (hsub hmem) hctx

/-- One unflagged element: it is destroyed, or marked as the caller's own, or
left alone, and it leaves the list. -/
theorem destroyContext_shrinks {s s' : EGLState Thread} {t : Thread} {connects ret : Bool}
    {c : ContextPtr} {context : EGLContext} {visited rest : List ContextPtr}
    (hcall : s.destroyContext t connects s_display (some c) = some (ret, s'))
    (h : Owned (s.withListed (visited ++ c :: rest))) (hctx : s.contexts c = some context)
    (hclear : context.isCurrent = false) (hothers : OthersFlagged s t (visited ++ c :: rest)) :
    Shrinks s s' ∧ Owned (s'.withListed (visited ++ rest)) := by
  have hshorter : (visited ++ rest).Sublist (visited ++ c :: rest) :=
    List.Sublist.append_left (List.sublist_cons_self c rest) visited
  rcases destroyContextWith_cases hcall with ⟨hsame, -⟩ |
    ⟨c', context', hc, hctx', -, -, ⟨hcur, rfl⟩ | ⟨hcur, -, s₁, hsame, -, rfl⟩⟩
  · refine ⟨hsame.shrinks, (h.withListed hshorter).sameContexts ?_⟩
    exact ⟨hsame.current, hsame.contexts, hsame.clientStates, hsame.nextPtr, rfl, hsame.freed,
      hsame.destroyRequests⟩
  · obtain rfl := Option.some.inj hc
    refine ⟨markToDelete_shrinks hctx', ?_⟩
    exact (h.withListed hshorter).markToDelete hcur hctx'
  · obtain rfl := Option.some.inj hc
    obtain rfl := Option.some.inj (hctx.symm.trans hctx')
    have hnobody : ∀ t', s.currentContext t' ≠ some c := by
      intro t' ht'
      by_cases ht : t' = t
      · exact hcur (ht ▸ ht')
      · rw [hothers t' c context ht ht' (by simp) hctx] at hclear
        cases hclear
    have hfirst : (visited ++ c :: rest).erase c = visited ++ rest := by
      have hfresh : c ∉ visited := by
        intro hmem
        have hdisjoint := List.disjoint_of_nodup_append h.listedOnce
        exact hdisjoint hmem List.mem_cons_self
      rw [List.erase_append_right _ hfresh, List.erase_cons_head]
    have hafter : SameContexts ((s.withListed (visited ++ c :: rest)).destroyed c context)
        (((s₁.requestDestroy context).deleteContext c context).withListed (visited ++ rest)) := by
      have hlisted : SameContexts (s.withListed (visited ++ c :: rest))
          (s₁.withListed (visited ++ c :: rest)) :=
        ⟨hsame.current, hsame.contexts, hsame.clientStates, hsame.nextPtr, rfl, hsame.freed,
          hsame.destroyRequests⟩
      rw [withListed_delete, ← hfirst, ← withListed_destroyed]
      exact hlisted.destroyed c context
    have howned := h.destroyed hctx hnobody
    exact ⟨((h.destroyed_shrinks hctx).trans hafter.shrinks).of_withListed,
      howned.sameContexts hafter⟩

/-- The loop marks or frees contexts, keeps every current one, and leaves a
well-formed list.  The two lists of the loop are the elements that stand before
and from the iterator. -/
theorem terminateContexts_shrinks {t : Thread} {connects : Bool} {s s' : EGLState Thread}
    {visited rest : List ContextPtr}
    (hrun : terminateContexts t connects s visited rest = some s')
    (h : Owned (s.withListed (visited ++ rest))) (hothers : OthersFlagged s t (visited ++ rest)) :
    Shrinks s s' ∧ Owned s' := by
  fun_induction terminateContexts t connects s visited rest with
  | case1 s visited =>
      obtain rfl := Option.some.inj hrun
      rw [List.append_nil] at h
      exact ⟨⟨fun _ => rfl, fun _ object hobject => ⟨object, hobject, rfl, rfl⟩,
        ⟨[], (SameContexts.refl s).frees⟩⟩, h⟩
  | case2 s visited c rest hctx => cases hrun
  | case3 s visited c rest context hctx hflag ih =>
      -- a flagged context is marked and kept
      have hmark := markToDelete_shrinks hctx
      have hlist : visited ++ [c] ++ rest = visited ++ c :: rest := by simp
      rw [hlist] at ih
      obtain ⟨t', ht'⟩ := h.flagged c context hctx hflag
      obtain ⟨hshrinks, howned⟩ := ih hrun (h.markToDelete ht' hctx)
        (hothers.shrinks hmark (List.Subset.refl _))
      exact ⟨hmark.trans hshrinks, howned⟩
  | case4 s visited c rest context hctx hclear hcall => cases hrun
  | case5 s visited c context hctx hclear ret s₁ hcall ih =>
      obtain ⟨hstep, hleft⟩ :=
        destroyContext_shrinks hcall h hctx (by simpa using hclear) hothers
      rw [List.append_nil] at hleft
      obtain ⟨hshrinks, howned⟩ := ih hrun (by simpa using hleft)
        (hothers.shrinks hstep (by simp))
      exact ⟨hstep.trans hshrinks, howned⟩
  | case6 s visited c context hctx hclear ret s₁ next rest hcall ih =>
      obtain ⟨hstep, hleft⟩ :=
        destroyContext_shrinks hcall h hctx (by simpa using hclear) hothers
      have hlist : visited ++ [next] ++ rest = visited ++ next :: rest := by simp
      rw [hlist] at ih
      obtain ⟨hshrinks, howned⟩ := ih hrun hleft (hothers.shrinks hstep
        (List.Sublist.append_left (List.sublist_cons_self c _) visited).subset)
      exact ⟨hstep.trans hshrinks, howned⟩

theorem deleteSurfaces_sameContexts {t : Thread} {connects : Bool} {surfaces : List SurfacePtr}
    {s s' : EGLState Thread} (h : surfaces.foldlM (deleteSurface t connects) s = some s') :
    SameContexts s s' ∧ SameHeld s s' := by
  induction surfaces generalizing s with
  | nil =>
      obtain rfl := Option.some.inj h
      exact ⟨SameContexts.refl s, fun _ _ => rfl⟩
  | cons surface rest ih =>
      rw [List.foldlM_cons] at h
      obtain ⟨s₁, hdelete, hrest⟩ := Option.bind_eq_some_iff.mp h
      obtain ⟨hsame, hheld⟩ := deleteSurface_sameContexts hdelete
      obtain ⟨hsame₁, hheld₁⟩ := ih hrest
      exact ⟨hsame.trans hsame₁, fun t' api => (hheld₁ t' api).trans (hheld t' api)⟩

/-- `eglTerminate`, when the contexts that other threads have current are
flagged. -/
theorem Owned.eglTerminate {s s' : EGLState Thread} {t : Thread} (h : Owned s)
    {connects ret : Bool} {dpy : EGLDisplay}
    (hcall : s.eglTerminate t connects dpy = some (ret, s'))
    (hothers : dpy = s_display → s.display.initialized = true →
      OthersFlagged s t s.display.contexts) :
    Owned s' ∧ DestroysOnRelease s s' := by
  have hrefused : ∀ error, some (s.setErrorReturn t error) = some (ret, s') →
      Owned s' ∧ DestroysOnRelease s s' := by
    intro error herror
    obtain rfl := congrArg Prod.snd (Option.some.inj herror)
    have hsame := SameContexts.setErrorReturn s t error
    have howned := h.sameContexts hsame
    exact ⟨howned, howned.destroysOnRelease_of_current hsame.frees hsame.current⟩
  unfold EGLState.eglTerminate at hcall
  split_ifs at hcall with hdpy hinit
  · exact hrefused _ hcall
  · exact hrefused _ hcall
  · obtain ⟨s₂, hterminate, heq⟩ := Option.map_eq_some_iff.mp hcall
    obtain rfl := congrArg Prod.snd heq
    obtain ⟨s₁, hsurfaces, hloop⟩ := Option.bind_eq_some_iff.mp hterminate
    obtain ⟨hsame, -⟩ := deleteSurfaces_sameContexts hsurfaces
    have hothers' := hothers (not_not.mp hdpy) (by simpa using hinit)
    have hcleared : SameContexts s
        { s₁ with display := { s₁.display with surfaces := [] } } :=
      ⟨hsame.current, hsame.contexts, hsame.clientStates, hsame.nextPtr, hsame.listed,
        hsame.freed, hsame.destroyRequests⟩
    have hlisted := hsame.listed
    obtain ⟨hshrinks, howned⟩ := terminateContexts_shrinks hloop
      (h.sameContexts hcleared) (hothers'.shrinks hcleared.shrinks (by simp [hlisted]))
    have hall := hcleared.shrinks.trans hshrinks
    obtain ⟨gone, hgone⟩ := hall.frees
    exact ⟨howned, howned.destroysOnRelease_of_current hgone hall.current⟩

end EGLState
end EGL
end DeviceAndroVM
