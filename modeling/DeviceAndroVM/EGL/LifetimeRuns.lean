import DeviceAndroVM.EGL.Terminate

/-!
# Contexts over whole runs

* `RespectsOtherThreads` — the call does not get past a test of being current
  at a context that another thread has current.
* `contexts_destroyed_once` — in a run of such calls, over any number of
  threads, no current context is ever freed and a marked one is destroyed once,
  by the call that makes it not current.
* `destroy_frees_other_threads_context` — `eglDestroyContext` of a context that
  another thread has current.
-/

namespace DeviceAndroVM
namespace EGL

open Library EGLState

universe u

variable {Thread : Type u} [DecidableEq Thread]

/-- The calls that the tests of being current protect other threads from:
`eglMakeCurrent` is not accepted for a context that another thread has current,
`eglDestroyContext` is not called (with effect) for one, and those that
`eglTerminate` visits are flagged. -/
def RespectsOtherThreads (s : EGLState Thread) : Thread × EGLCall → Prop
  | (t, .eglMakeCurrent reply dpy draw read ctx) =>
      s.AcceptsMakeCurrent t reply dpy draw read ctx →
        ∀ c t', ctx = some c → t' ≠ t → s.currentContext t' ≠ some c
  | (t, .eglDestroyContext connects dpy ctx) =>
      dpy = s_display → s.display.initialized = true →
        ((s.threads t).hostConn.isSome ∨ connects = true) →
        ∀ c t', ctx = some c → t' ≠ t → s.currentContext t' ≠ some c
  | (t, .eglTerminate _ dpy) =>
      dpy = s_display → s.display.initialized = true →
        OthersFlagged s t s.display.contexts
  | _ => True

omit [DecidableEq Thread] in
theorem Owned.unchanged {s s' : EGLState Thread} (h : Owned s) (hsame : SameContexts s s') :
    Owned s' ∧ DestroysOnRelease s s' := by
  have howned := h.sameContexts hsame
  exact ⟨howned, howned.destroysOnRelease_of_current hsame.frees hsame.current⟩

/-- One call of any thread. -/
theorem eglStep_lifetime {s s' : EGLState Thread} {label : Thread × EGLCall} (h : Owned s)
    (hsafe : RespectsOtherThreads s label) (hstep : EGLStep s label s') :
    Owned s' ∧ DestroysOnRelease s s' := by
  obtain ⟨t, call⟩ := label
  have hmake : ∀ {reply dpy draw read ctx ret},
      s.eglMakeCurrent t reply dpy draw read ctx = some (ret, s') →
      (s.AcceptsMakeCurrent t reply dpy draw read ctx →
        ∀ c t', ctx = some c → t' ≠ t → s.currentContext t' ≠ some c) →
      Owned s' ∧ DestroysOnRelease s s' := by
    intro reply dpy draw read ctx ret hcall hfree
    rcases eglMakeCurrent_outcome hcall with ⟨-, hsame⟩ | ⟨haccept, hout⟩
    · exact Owned.unchanged h hsame
    · exact h.makeCurrent hout (hfree haccept)
  cases call with
  | eglInitialize dpy reply =>
      refine Owned.unchanged h ?_
      simp only [EGLStep, runCall, EGLCall.run] at hstep
      split_ifs at hstep
      · exact Option.some.inj hstep ▸ SameContexts.setErrorReturn s t _
      · exact Option.some.inj hstep ▸ (initializeDisplay_sameContexts s t reply).1
  | createSurface connects rcSurface =>
      exact Owned.unchanged h (createSurface_sameContexts hstep).1
  | eglDestroySurface connects dpy surface =>
      obtain ⟨⟨ret, _⟩, hcall, rfl⟩ := Option.map_eq_some_iff.mp hstep
      exact Owned.unchanged h (eglDestroySurface_sameContexts hcall).1
  | eglCreateContext connects rcContext dpy config share_context attrib_list =>
      rcases eglCreateContext_cases hstep with ⟨hsame, -⟩ | ⟨c, context, hnew⟩
      · exact Owned.unchanged h hsame
      · have howned := h.created hnew
        have hnone : Frees s [] s' :=
          ⟨by simp [hnew.freed], by simp [hnew.destroyRequests], by simp⟩
        exact ⟨howned, howned.destroysOnRelease_of_current hnone hnew.current⟩
  | eglMakeCurrent reply dpy draw read ctx =>
      obtain ⟨⟨ret, _⟩, hcall, rfl⟩ := Option.map_eq_some_iff.mp hstep
      exact hmake hcall hsafe
  | eglDestroyContext connects dpy ctx =>
      obtain ⟨⟨ret, _⟩, hcall, rfl⟩ := Option.map_eq_some_iff.mp hstep
      exact h.eglDestroyContext hcall hsafe
  | eglReleaseThread reply =>
      obtain ⟨⟨ret, _⟩, hcall, rfl⟩ := Option.map_eq_some_iff.mp hstep
      rcases eglReleaseThread_cases hcall with rfl | hrelease
      · exact Owned.unchanged h (SameContexts.refl _)
      · exact hmake hrelease fun _ c t' hnone => by cases hnone
  | eglTerminate connects dpy =>
      obtain ⟨⟨ret, _⟩, hcall, rfl⟩ := Option.map_eq_some_iff.mp hstep
      exact h.eglTerminate hcall hsafe

/-- For every number of threads, every interleaving of their calls and every
answer of the host: as long as every call respects the contexts that other
threads have current, a current context is never freed, and a marked context is
destroyed exactly once, by the call after which it is not current any more. -/
theorem contexts_destroyed_once
    (trace : List ((Thread × EGLCall) × EGLState Thread))
    (hrun : Run EGLStep EGLState.init trace)
    (hsafe : EachStep (fun s label _ => RespectsOtherThreads s label) EGLState.init trace) :
    Always LifetimeOK trace ∧ EachStep (fun s _ s' => DestroysOnRelease s s') EGLState.init
      trace := by
  have hinit : Owned (EGLState.init : EGLState Thread) := init_flagInv.toOwned
  have hkeep : ∀ (s : EGLState Thread) label s', Owned s → RespectsOtherThreads s label →
      EGLStep s label s' → Owned s' :=
    fun s label s' h hcall hstep => (eglStep_lifetime h hcall hstep).1
  constructor
  · exact (hrun.always_of_eachStep hkeep hinit hsafe).imp fun s h => Owned.lifetimeOK h
  · exact hrun.eachStep_of_eachStep hkeep
      (fun s label s' h hcall hstep => (eglStep_lifetime h hcall hstep).2) hinit hsafe

/-- Thread `false` makes the context 2 current. -/
def currentElsewhere : List (Bool × EGLCall) :=
  openDisplay false ++
    [(false, .eglMakeCurrent ⟨true, EGL_TRUE⟩ s_display (some 0) (some 0) (some 2))]

theorem contexts_destroyed_once_deferred :
    let trace := partialTraceOf runCall EGLState.init
      (currentElsewhere ++ [(false, .eglDestroyContext true s_display (some 2)),
        (false, .eglReleaseThread ⟨true, EGL_TRUE⟩)])
    Always LifetimeOK trace ∧ EachStep (fun s _ s' => DestroysOnRelease s s') EGLState.init
      trace := by
  refine contexts_destroyed_once _ (run_partialTraceOf _ _ _)
    ⟨trivial, trivial, trivial, trivial, ?_, ?_, trivial, trivial⟩
  · intro _ c t' _ hne
    cases t' with
    | false => exact absurd rfl hne
    | true => exact (Option.some_ne_none c).symm
  · intro _ _ _ c t' _ hne
    cases t' with
    | false => exact absurd rfl hne
    | true => exact (Option.some_ne_none c).symm

/-- `eglDestroyContext` compares with the caller's own current context only, so
it frees a context that another thread has current. -/
theorem destroy_frees_other_threads_context :
    ¬∀ trace : List ((Bool × EGLCall) × EGLState Bool), Run EGLStep EGLState.init trace →
      Always LifetimeOK trace ∧ EachStep (fun s _ s' => DestroysOnRelease s s')
        EGLState.init trace := by
  intro h
  let trace := partialTraceOf runCall EGLState.init
    (currentElsewhere ++ [(true, .eglDestroyContext true s_display (some 2))])
  have halways := (h trace (run_partialTraceOf _ _ _)).1
  have hcurrent : trace.getLast?.map (fun entry => entry.2.currentContext false) =
      some (some 2) := by decide
  have hfreed : trace.getLast?.map (fun entry => entry.2.freed) = some [2] := by decide
  obtain ⟨entry, hlast, hcur⟩ := Option.map_eq_some_iff.mp hcurrent
  rw [hlast, Option.map_some, Option.some.injEq] at hfreed
  have hok := halways entry (List.mem_of_getLast? hlast)
  exact (hok.current_live false 2 hcur).2 (by simp [hfreed])

end EGL
end DeviceAndroVM
