import DeviceAndroVM.Library.Transition
import DeviceAndroVM.EGL.Ownership

/-!
# `IS_CURRENT` and the current contexts of the threads

`eglMakeCurrent` keeps threads out of each other's contexts by the flag
`IS_CURRENT` alone.  The flag is set on the new context and cleared on the
previous one, in that order, so it is lost when both are the same context.

* `FlagsFollowThreads` — a context is flagged exactly when it is current to
  some thread, and it is current to one thread at most.
* `flags_follow_threads_iff` — over any number of threads this holds after
  every call exactly when no call rebinds the caller's own context.
-/

namespace DeviceAndroVM
namespace EGL

open Library

universe u

variable {Thread : Type u}

namespace EGLState

/-- A context is flagged if and only if it is the current context of some
thread, and of no two threads. -/
structure FlagsFollowThreads (s : EGLState Thread) : Prop where
  flag_iff : ∀ c context, s.contexts c = some context →
    (context.isCurrent = true ↔ ∃ t, s.currentContext t = some c)
  exclusive : ∀ t t' c, s.currentContext t = some c → s.currentContext t' = some c → t = t'

/-- The invariant of runs that destroy no context. -/
structure FlagInv (s : EGLState Thread) : Prop extends Owned s where
  held : ∀ t c context, s.currentContext t = some c → s.contexts c = some context →
    context.isCurrent = true
  unmarked : ∀ c context, s.contexts c = some context → context.toDelete = false

theorem FlagInv.flagsFollowThreads {s : EGLState Thread} (h : FlagInv s) :
    FlagsFollowThreads s where
  flag_iff := by
    intro c context hctx
    constructor
    · exact h.flagged c context hctx
    · rintro ⟨t, ht⟩
      exact h.held t c context ht hctx
  exclusive := h.exclusive

theorem FlagInv.sameContexts {s s' : EGLState Thread} (h : FlagInv s)
    (hsame : SameContexts s s') : FlagInv s' where
  toOwned := h.toOwned.sameContexts hsame
  held := by simpa only [hsame.current, hsame.contexts] using h.held
  unmarked := by simpa only [hsame.contexts] using h.unmarked

theorem FlagInv.created {s s' : EGLState Thread} (h : FlagInv s) {c : ContextPtr}
    {context : EGLContext} (hnew : CreatedContext s s' c context) : FlagInv s' where
  toOwned := h.toOwned.created hnew
  held := by
    intro t x object hx hobject
    rw [hnew.current] at hx
    obtain ⟨old, hold⟩ := h.live t x hx
    have hxc : x ≠ c := ((h.bounded x old hold).trans_le hnew.fresh).ne
    exact h.held t x object hx (by simpa [hnew.contexts, hxc] using hobject)
  unmarked := by
    intro x object hobject
    rw [hnew.contexts] at hobject
    rcases update_some_eq_some.mp hobject with ⟨-, rfl⟩ | ⟨-, hold⟩
    · simp [EGLContext.toDelete, hnew.flags]
    · exact h.unmarked x object hold

theorem init_flagInv [DecidableEq Thread] : FlagInv (EGLState.init : EGLState Thread) where
  live := by simp [init, currentContext, EGLThreadInfo.init]
  exclusive := by simp [init, currentContext, EGLThreadInfo.init]
  flagged := by simp [init]
  marked := by simp [init]
  host := by simp [init]
  bounded := by simp [init]
  freedDead := by simp [init]
  freedOnce := List.nodup_nil
  listedOnce := List.nodup_nil
  listedLive := by simp [init]
  held := by simp [init]
  unmarked := by simp [init]

variable [DecidableEq Thread]

theorem FlagInv.left {s s₁ : EGLState Thread} {t : Thread} (h : FlagInv s)
    (hleft : Left s t s₁) : FlagInv s₁ where
  toOwned := (h.toOwned.left hleft).1
  held := by
    intro t' x object hx hobject
    cases hleft with
    | idle hidle => exact h.held t' x object hx hobject
    | @left p previous hcur hprev =>
        rw [currentContext_leave] at hx
        split_ifs at hx with ht
        have hxp : x ≠ p := by
          rintro rfl
          exact ht (h.exclusive t' t x hx hcur)
        exact h.held t' x object hx (by simpa [hxp] using hobject)
  unmarked := by
    intro x object hobject
    cases hleft with
    | idle hidle => exact h.unmarked x object hobject
    | @left p previous hcur hprev =>
        have hkeep := h.unmarked p previous hprev
        rw [contexts_leave, hkeep] at hobject
        rcases update_some_eq_some.mp hobject with ⟨-, rfl⟩ | ⟨-, hold⟩
        · simpa using hkeep
        · exact h.unmarked x object hold

theorem FlagInv.enter {s : EGLState Thread} (h : FlagInv s) {t : Thread} {c : ContextPtr}
    {context : EGLContext} (hidle : s.currentContext t = none)
    (hctx : s.contexts c = some context) (hfree : context.isCurrent = false)
    (draw read : Option SurfacePtr) : FlagInv (s.enter t c context draw read) where
  toOwned := by
    refine h.toOwned.enter hidle hctx ?_ draw read
    intro t' ht'
    rw [h.held t' c context ht' hctx] at hfree
    cases hfree
  held := by
    intro t' x object hx hobject
    rcases update_some_eq_some.mp hobject with ⟨-, rfl⟩ | ⟨hxc, hold⟩
    · exact context.isCurrent_bind draw read
    · rw [currentContext_enter] at hx
      split_ifs at hx with ht
      · exact absurd (Option.some.inj hx).symm hxc
      · exact h.held t' x object hx hold
  unmarked := by
    intro x object hobject
    rcases update_some_eq_some.mp hobject with ⟨-, rfl⟩ | ⟨-, hold⟩
    · simpa using h.unmarked c context hctx
    · exact h.unmarked x object hold

/-- An accepted `eglMakeCurrent` that does not rebind keeps the invariant. -/
theorem FlagInv.makeCurrent {s s' : EGLState Thread} {t : Thread} (h : FlagInv s)
    {draw read : Option SurfacePtr} {ctx : Option ContextPtr}
    (hout : MakeCurrentOutcome s t draw read ctx s') (hne : s.currentContext t ≠ ctx) :
    FlagInv s' := by
  cases hout with
  | rebound hcur hctx hsame => exact absurd hcur hne
  | released hcur hprev hsame => exact (h.left (Left.left hcur hprev)).sameContexts hsame
  | @entered c context s₁ s' hcur hctx hfree hleft hsame =>
      have hctx₁ : s₁.contexts c = some context := (hleft.contexts_of_ne hcur).trans hctx
      have hidle := (h.toOwned.left hleft).2
      exact ((h.left hleft).enter hidle hctx₁ hfree draw read).sameContexts hsame

/-- A rebind leaves the context current to the caller without its flag. -/
theorem rebound_loses_flag {s s' : EGLState Thread} {t : Thread}
    {draw read : Option SurfacePtr} {ctx : Option ContextPtr}
    (hout : MakeCurrentOutcome s t draw read ctx s') (hsame : s.currentContext t = ctx) :
    ¬FlagsFollowThreads s' := by
  intro hfollow
  cases hout with
  | @rebound c context s' hcur hctx hafter =>
      have hobject : s'.contexts c = some (reboundContext context draw read) := by
        simp [hafter.contexts]
      have hcurrent : s'.currentContext t = some c := by
        rw [hafter.current]
        exact hcur
      have hflag := (hfollow.flag_iff c _ hobject).mpr ⟨t, hcurrent⟩
      unfold reboundContext at hflag
      dsimp only at hflag
      split_ifs at hflag <;> simp at hflag
  | released hcur hprev hafter =>
      rw [hcur] at hsame
      cases hsame
  | entered hcur hctx hfree hleft hafter => exact hcur hsame

end EGLState

open EGLState

/-- The calls other than `eglDestroyContext` and `eglTerminate`. -/
def EGLCall.KeepsContexts : EGLCall → Prop
  | .eglDestroyContext _ _ _ => False
  | .eglTerminate _ _ => False
  | _ => True

variable [DecidableEq Thread]

/-- The call is an `eglMakeCurrent` that names the caller's own current context
with other surfaces, and it is accepted. -/
def Rebinds (s : EGLState Thread) : Thread × EGLCall → Prop
  | (t, .eglMakeCurrent reply dpy draw read ctx) =>
      s.currentContext t = ctx ∧ s.AcceptsMakeCurrent t reply dpy draw read ctx
  | _ => False

/-- One call: without a rebind the invariant is kept, with one the property is
lost. -/
theorem eglStep_flags {s s' : EGLState Thread} {label : Thread × EGLCall} (h : FlagInv s)
    (hkeeps : label.2.KeepsContexts) (hstep : EGLStep s label s') :
    (¬Rebinds s label → FlagInv s') ∧ (FlagsFollowThreads s' → ¬Rebinds s label) := by
  obtain ⟨t, call⟩ := label
  have hsame : ∀ hsame : SameContexts s s', ¬Rebinds s (t, call) →
      (¬Rebinds s (t, call) → FlagInv s') ∧ (FlagsFollowThreads s' → ¬Rebinds s (t, call)) :=
    fun hsame hnot => ⟨fun _ => h.sameContexts hsame, fun _ => hnot⟩
  have hmake : ∀ {reply dpy draw read ctx ret},
      s.eglMakeCurrent t reply dpy draw read ctx = some (ret, s') →
      (¬(s.currentContext t = ctx ∧ s.AcceptsMakeCurrent t reply dpy draw read ctx) →
        FlagInv s') ∧
      (FlagsFollowThreads s' →
        ¬(s.currentContext t = ctx ∧ s.AcceptsMakeCurrent t reply dpy draw read ctx)) := by
    intro reply dpy draw read ctx ret hcall
    rcases eglMakeCurrent_outcome hcall with ⟨hnot, hunchanged⟩ | ⟨haccept, hout⟩
    · exact ⟨fun _ => h.sameContexts hunchanged, fun _ hboth => hnot hboth.2⟩
    · exact ⟨fun hno => h.makeCurrent hout fun heq => hno ⟨heq, haccept⟩,
        fun hfollow hboth => rebound_loses_flag hout hboth.1 hfollow⟩
  cases call with
  | eglInitialize dpy reply =>
      refine hsame ?_ (fun hno => hno)
      simp only [EGLStep, runCall, EGLCall.run] at hstep
      split_ifs at hstep
      · exact Option.some.inj hstep ▸ SameContexts.setErrorReturn s t _
      · exact Option.some.inj hstep ▸ (initializeDisplay_sameContexts s t reply).1
  | createSurface connects rcSurface =>
      exact hsame (createSurface_sameContexts hstep).1 fun hno => hno
  | eglDestroySurface connects dpy surface =>
      obtain ⟨⟨ret, _⟩, hcall, rfl⟩ := Option.map_eq_some_iff.mp hstep
      exact hsame (eglDestroySurface_sameContexts hcall).1 fun hno => hno
  | eglCreateContext connects rcContext dpy config share_context attrib_list =>
      rcases eglCreateContext_cases hstep with ⟨hunchanged, -⟩ | ⟨c, context, hnew⟩
      · exact hsame hunchanged fun hno => hno
      · exact ⟨fun _ => h.created hnew, fun _ hno => hno⟩
  | eglMakeCurrent reply dpy draw read ctx =>
      obtain ⟨⟨ret, _⟩, hcall, rfl⟩ := Option.map_eq_some_iff.mp hstep
      exact hmake hcall
  | eglDestroyContext connects dpy ctx => exact hkeeps.elim
  | eglReleaseThread reply =>
      obtain ⟨⟨ret, _⟩, hcall, rfl⟩ := Option.map_eq_some_iff.mp hstep
      rcases eglReleaseThread_cases hcall with rfl | hrelease
      · exact ⟨fun _ => h, fun _ hno => hno⟩
      · refine ⟨fun _ => (hmake hrelease).1 ?_, fun _ hno => hno⟩
        -- without a context there is nothing to rebind
        rintro ⟨hidle, haccept⟩
        obtain ⟨c, context, hnone, -⟩ := haccept.change hidle
        cases hnone
  | eglTerminate connects dpy => exact hkeeps.elim

/-- For every number of threads, every interleaving of their calls and every
answer of the host: the flags follow the threads after every call if and only
if no call rebinds the caller's own current context. -/
theorem flags_follow_threads_iff
    (trace : List ((Thread × EGLCall) × EGLState Thread))
    (hrun : Run EGLStep EGLState.init trace)
    (hkeeps : ∀ entry ∈ trace, entry.1.2.KeepsContexts) :
    Always FlagsFollowThreads trace ↔
      EachStep (fun s label _ => ¬Rebinds s label) EGLState.init trace := by
  refine (hrun.restrict (fun label => label.2.KeepsContexts) hkeeps).always_iff_eachStep
    ?_ (fun s h => FlagInv.flagsFollowThreads h) ?_ init_flagInv
  · rintro s label s' hinv hno ⟨hcall, hstep⟩
    exact (eglStep_flags hinv hcall hstep).1 hno
  · rintro s label s' hinv ⟨hcall, hstep⟩ hfollow
    exact (eglStep_flags hinv hcall hstep).2 hfollow

/-- An initialised display with two surfaces, 0 and 1, and the context 2. -/
def openDisplay (t : Thread) : List (Thread × EGLCall) :=
  [(t, .eglInitialize s_display ⟨true, true, true, some 4⟩), (t, .createSurface true 7#32),
    (t, .createSurface true 8#32), (t, .eglCreateContext true 9#32 s_display 0#32 none none)]

theorem flags_follow_threads_iff_handover :
    let trace := partialTraceOf runCall EGLState.init
      (openDisplay false ++
        [(false, .eglMakeCurrent ⟨true, EGL_TRUE⟩ s_display (some 0) (some 0) (some 2)),
          (true, .eglMakeCurrent ⟨true, EGL_TRUE⟩ s_display (some 1) (some 1) (some 2)),
          (false, .eglReleaseThread ⟨true, EGL_TRUE⟩),
          (true, .eglMakeCurrent ⟨true, EGL_TRUE⟩ s_display (some 1) (some 1) (some 2))])
    Always FlagsFollowThreads trace ↔
      EachStep (fun s label _ => ¬Rebinds s label) EGLState.init trace :=
  flags_follow_threads_iff _ (run_partialTraceOf _ _ _)
    (forall_mem_partialTraceOf (fun label : Bool × EGLCall => label.2.KeepsContexts)
      (by simp [openDisplay, EGLCall.KeepsContexts]))

/-- A thread that binds its own current context to the other surface has a
current context without the flag. -/
theorem rebind_loses_current_flag :
    ¬∀ trace : List ((Bool × EGLCall) × EGLState Bool), Run EGLStep EGLState.init trace →
      (∀ entry ∈ trace, entry.1.2.KeepsContexts) → Always FlagsFollowThreads trace := by
  intro h
  let calls : List (Bool × EGLCall) := openDisplay false ++
    [(false, .eglMakeCurrent ⟨true, EGL_TRUE⟩ s_display (some 0) (some 0) (some 2)),
      (false, .eglMakeCurrent ⟨true, EGL_TRUE⟩ s_display (some 1) (some 1) (some 2))]
  let trace := partialTraceOf runCall EGLState.init calls
  have halways := h trace (run_partialTraceOf _ _ _)
    (forall_mem_partialTraceOf (fun label : Bool × EGLCall => label.2.KeepsContexts)
      (by simp [calls, openDisplay, EGLCall.KeepsContexts]))
  have hcurrent : trace.getLast?.map (fun entry => entry.2.currentContext false) =
      some (some 2) := by decide
  have hflag : trace.getLast?.map (fun entry => (entry.2.contexts 2).map EGLContext.isCurrent) =
      some (some false) := by decide
  obtain ⟨entry, hlast, hcur⟩ := Option.map_eq_some_iff.mp hcurrent
  rw [hlast, Option.map_some, Option.some.injEq, Option.map_eq_some_iff] at hflag
  obtain ⟨context, hctx, hclear⟩ := hflag
  have hfollow := halways entry (List.mem_of_getLast? hlast)
  rw [(hfollow.flag_iff 2 context hctx).mpr ⟨false, hcur⟩] at hclear
  cases hclear

end EGL
end DeviceAndroVM
