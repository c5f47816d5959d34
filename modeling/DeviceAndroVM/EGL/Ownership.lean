import Mathlib.Data.List.Nodup
import DeviceAndroVM.EGL.Steps
import DeviceAndroVM.Library.Lookup

/-!
# Who owns a context

The invariant that ties the heap of contexts to the threads, to the display's
list and to the contexts freed so far, and its preservation by the changes of
`EGL.Steps`.

* `Owned` — current contexts are live and current to one thread; a flagged or
  marked context is current to some thread; a context is freed at most once.
* `Owned.leave`, `Owned.enter`, `Owned.rebound`, `Owned.created`, ... — one
  preservation lemma for each change.
-/

namespace DeviceAndroVM
namespace EGL

open Library

universe u

namespace EGLState

variable {Thread : Type u}

/-- The invariant of the contexts and the threads that hold them. -/
structure Owned (s : EGLState Thread) : Prop where
  live : ∀ t c, s.currentContext t = some c → ∃ context, s.contexts c = some context
  exclusive : ∀ t t' c, s.currentContext t = some c → s.currentContext t' = some c → t = t'
  flagged : ∀ c context, s.contexts c = some context → context.isCurrent = true →
    ∃ t, s.currentContext t = some c
  marked : ∀ c context, s.contexts c = some context → context.toDelete = true →
    ∃ t, s.currentContext t = some c
  host : ∀ c context, s.contexts c = some context → context.rcContext ≠ 0#32
  bounded : ∀ c context, s.contexts c = some context → c < s.nextPtr
  freedDead : ∀ c ∈ s.freed, s.contexts c = none ∧ c < s.nextPtr
  freedOnce : s.freed.Nodup
  listedOnce : s.display.contexts.Nodup
  listedLive : ∀ c ∈ s.display.contexts, ∃ context, s.contexts c = some context

theorem Owned.sameContexts {s s' : EGLState Thread} (h : Owned s) (hsame : SameContexts s s') :
    Owned s' where
  live := by simpa only [hsame.current, hsame.contexts] using h.live
  exclusive := by simpa only [hsame.current] using h.exclusive
  flagged := by simpa only [hsame.current, hsame.contexts] using h.flagged
  marked := by simpa only [hsame.current, hsame.contexts] using h.marked
  host := by simpa only [hsame.contexts] using h.host
  bounded := by
    intro c context hctx
    rw [hsame.contexts] at hctx
    exact (h.bounded c context hctx).trans_le hsame.nextPtr
  freedDead := by
    intro c hc
    rw [hsame.freed] at hc
    rw [hsame.contexts]
    exact ⟨(h.freedDead c hc).1, (h.freedDead c hc).2.trans_le hsame.nextPtr⟩
  freedOnce := by simpa only [hsame.freed] using h.freedOnce
  listedOnce := by simpa only [hsame.listed] using h.listedOnce
  listedLive := by simpa only [hsame.listed, hsame.contexts] using h.listedLive

/-- A live context stays live when a context object is replaced. -/
theorem exists_setContext {s : EGLState Thread} {c x : ContextPtr} {object : EGLContext}
    (context' : EGLContext) (hobject : s.contexts x = some object) :
    ∃ object', (s.setContext c context').contexts x = some object' := by
  by_cases hxc : x = c
  · exact ⟨context', by simp [hxc]⟩
  · exact ⟨object, by simp [hxc, hobject]⟩

/-- What is live after a context was destroyed is another context, as before. -/
theorem live_of_destroyed {s : EGLState Thread} {c x : ContextPtr} {context object : EGLContext}
    (hobject : (s.destroyed c context).contexts x = some object) :
    x ≠ c ∧ s.contexts x = some object := by
  rw [contexts_destroyed] at hobject
  exact update_none_eq_some.mp hobject

/-- Replacing a context object by one with the same host context: what matters
is who holds it when it is flagged or marked. -/
theorem Owned.setContext {s : EGLState Thread} (h : Owned s) {c : ContextPtr}
    {context context' : EGLContext} (hctx : s.contexts c = some context)
    (hhost : context'.rcContext = context.rcContext)
    (hflagged : context'.isCurrent = true → ∃ t, s.currentContext t = some c)
    (hmarked : context'.toDelete = true → ∃ t, s.currentContext t = some c) :
    Owned (s.setContext c context') where
  live := by
    intro t x hx
    obtain ⟨object, hobject⟩ := h.live t x hx
    exact exists_setContext context' hobject
  exclusive := h.exclusive
  flagged := by
    intro x object hobject hflag
    rcases update_some_eq_some.mp hobject with ⟨rfl, rfl⟩ | ⟨-, hold⟩
    · exact hflagged hflag
    · exact h.flagged x object hold hflag
  marked := by
    intro x object hobject hmark
    rcases update_some_eq_some.mp hobject with ⟨rfl, rfl⟩ | ⟨-, hold⟩
    · exact hmarked hmark
    · exact h.marked x object hold hmark
  host := by
    intro x object hobject
    rcases update_some_eq_some.mp hobject with ⟨rfl, rfl⟩ | ⟨-, hold⟩
    · rw [hhost]
      exact h.host x context hctx
    · exact h.host x object hold
  bounded := by
    intro x object hobject
    rcases update_some_eq_some.mp hobject with ⟨rfl, -⟩ | ⟨-, hold⟩
    · exact h.bounded x context hctx
    · exact h.bounded x object hold
  freedDead := by
    intro x hx
    have hxc : x ≠ c := by
      rintro rfl
      rw [(h.freedDead x hx).1] at hctx
      cases hctx
    exact ⟨by simpa [hxc] using (h.freedDead x hx).1, (h.freedDead x hx).2⟩
  freedOnce := h.freedOnce
  listedOnce := h.listedOnce
  listedLive := by
    intro x hx
    obtain ⟨object, hobject⟩ := h.listedLive x hx
    exact exists_setContext context' hobject

/-- Destroying a context that no thread has current. -/
theorem Owned.destroyed {s : EGLState Thread} (h : Owned s) {c : ContextPtr}
    {context : EGLContext} (hctx : s.contexts c = some context)
    (hfree : ∀ t, s.currentContext t ≠ some c) : Owned (s.destroyed c context) where
  live := by
    intro t x hx
    rw [currentContext_destroyed] at hx
    have hxc : x ≠ c := by
      rintro rfl
      exact hfree t hx
    obtain ⟨object, hobject⟩ := h.live t x hx
    exact ⟨object, by simp [hxc, hobject]⟩
  exclusive := by simpa using h.exclusive
  flagged := by
    intro x object hobject hflag
    simpa using h.flagged x object (live_of_destroyed hobject).2 hflag
  marked := by
    intro x object hobject hmark
    simpa using h.marked x object (live_of_destroyed hobject).2 hmark
  host := fun x object hobject => h.host x object (live_of_destroyed hobject).2
  bounded := by
    intro x object hobject
    simpa using h.bounded x object (live_of_destroyed hobject).2
  freedDead := by
    intro x hx
    rw [freed_destroyed, List.mem_append, List.mem_singleton] at hx
    rw [contexts_destroyed, nextPtr_destroyed]
    by_cases hxc : x = c
    · subst hxc
      exact ⟨Function.update_self .., h.bounded x context hctx⟩
    · have hdead := h.freedDead x (hx.resolve_right hxc)
      exact ⟨by simpa [hxc] using hdead.1, hdead.2⟩
  freedOnce := by
    rw [freed_destroyed]
    refine List.nodup_append.mpr ⟨h.freedOnce, List.nodup_singleton c, ?_⟩
    intro x hx y hy hxy
    rw [List.mem_singleton.mp hy] at hxy
    have hdead := (h.freedDead x hx).1
    rw [hxy, hctx] at hdead
    cases hdead
  listedOnce := by
    rw [listed_destroyed]
    exact h.listedOnce.erase c
  listedLive := by
    intro x hx
    rw [listed_destroyed, h.listedOnce.mem_erase_iff] at hx
    obtain ⟨object, hobject⟩ := h.listedLive x hx.2
    exact ⟨object, by simp [hx.1, hobject]⟩

variable [DecidableEq Thread]

/-- A thread whose context is neither flagged nor marked lets go of it. -/
theorem Owned.dropCurrent {s : EGLState Thread} (h : Owned s) {t : Thread} {p : ContextPtr}
    {previous : EGLContext} (hcur : s.currentContext t = some p)
    (hprev : s.contexts p = some previous) (hflag : previous.isCurrent = false)
    (hmark : previous.toDelete = false) : Owned (s.setCurrentContext t none) := by
  have hkeeps : ∀ x object, s.contexts x = some object →
      (object.isCurrent = true ∨ object.toDelete = true) → (∃ t', s.currentContext t' = some x) →
      ∃ t', (s.setCurrentContext t none).currentContext t' = some x := by
    rintro x object hobject hset ⟨t', ht'⟩
    refine ⟨t', ?_⟩
    have hne : t' ≠ t := by
      rintro rfl
      obtain rfl := Option.some.inj (hcur.symm.trans ht')
      obtain rfl := Option.some.inj (hprev.symm.trans hobject)
      rcases hset with hset | hset
      · rw [hflag] at hset
        cases hset
      · rw [hmark] at hset
        cases hset
    simp [hne, ht']
  exact {
    live := by
      intro t' x hx
      rw [currentContext_setCurrentContext] at hx
      split_ifs at hx with ht
      exact h.live t' x hx
    exclusive := by
      intro t₁ t₂ x h₁ h₂
      rw [currentContext_setCurrentContext] at h₁ h₂
      split_ifs at h₁ h₂
      exact h.exclusive t₁ t₂ x h₁ h₂
    flagged := fun x object hobject hset =>
      hkeeps x object hobject (Or.inl hset) (h.flagged x object hobject hset)
    marked := fun x object hobject hset =>
      hkeeps x object hobject (Or.inr hset) (h.marked x object hobject hset)
    host := h.host
    bounded := h.bounded
    freedDead := h.freedDead
    freedOnce := h.freedOnce
    listedOnce := h.listedOnce
    listedLive := h.listedLive }

/-- A thread without a current context takes one that nobody has. -/
theorem Owned.takeCurrent {s : EGLState Thread} (h : Owned s) {t : Thread} {c : ContextPtr}
    {context : EGLContext} (hidle : s.currentContext t = none)
    (hctx : s.contexts c = some context) (hfree : ∀ t', s.currentContext t' ≠ some c) :
    Owned (s.setCurrentContext t (some c)) := by
  have hkeeps : ∀ x, (∃ t', s.currentContext t' = some x) →
      ∃ t', (s.setCurrentContext t (some c)).currentContext t' = some x := by
    rintro x ⟨t', ht'⟩
    have hne : t' ≠ t := by
      rintro rfl
      rw [hidle] at ht'
      cases ht'
    exact ⟨t', by simp [hne, ht']⟩
  exact {
    live := by
      intro t' x hx
      rw [currentContext_setCurrentContext] at hx
      split_ifs at hx with ht
      · obtain rfl := Option.some.inj hx
        exact ⟨context, hctx⟩
      · exact h.live t' x hx
    exclusive := by
      intro t₁ t₂ x h₁ h₂
      rw [currentContext_setCurrentContext] at h₁ h₂
      split_ifs at h₁ h₂ with ht₁ ht₂ ht₂
      · rw [ht₁, ht₂]
      · exact absurd (h₁ ▸ h₂) (hfree t₂)
      · exact absurd (h₂ ▸ h₁) (hfree t₁)
      · exact h.exclusive t₁ t₂ x h₁ h₂
    flagged := fun x object hobject hset => hkeeps x (h.flagged x object hobject hset)
    marked := fun x object hobject hset => hkeeps x (h.marked x object hobject hset)
    host := h.host
    bounded := h.bounded
    freedDead := h.freedDead
    freedOnce := h.freedOnce
    listedOnce := h.listedOnce
    listedLive := h.listedLive }

theorem Owned.leave {s : EGLState Thread} (h : Owned s) {t : Thread} {p : ContextPtr}
    {previous : EGLContext} (hcur : s.currentContext t = some p)
    (hprev : s.contexts p = some previous) : Owned (s.leave t p previous) := by
  cases hmarked : previous.toDelete with
  | false =>
      have hcleared : Owned (s.setContext p previous.clearCurrent) :=
        h.setContext hprev rfl (by simp) (by simp [hmarked])
      have hdropped := hcleared.dropCurrent (p := p) hcur
        (contexts_setContext_self s p previous.clearCurrent) (by simp) (by simp [hmarked])
      simpa [EGLState.leave, hmarked] using hdropped
  | true =>
      -- in between the context is marked but not current, so it is followed with
      -- its flags erased, which its destruction does not read
      let blank : EGLContext := { previous with flags := 0#32 }
      have hblank : Owned (s.setContext p blank) :=
        h.setContext hprev rfl (by simp [blank, EGLContext.isCurrent])
          (by simp [blank, EGLContext.toDelete])
      have hdropped := hblank.dropCurrent (p := p) hcur (contexts_setContext_self s p blank)
        (by simp [blank, EGLContext.isCurrent]) (by simp [blank, EGLContext.toDelete])
      have hfree : ∀ t', ((s.setContext p blank).setCurrentContext t none).currentContext t' ≠
          some p := by
        intro t' ht'
        rw [currentContext_setCurrentContext] at ht'
        split_ifs at ht' with ht
        exact ht (h.exclusive t' t p ht' hcur)
      refine (hdropped.destroyed (contexts_setContext_self s p blank) hfree).sameContexts ?_
      refine ⟨?_, ?_, ?_, ?_, ?_, ?_, ?_⟩
      · simp
      · simp [hmarked]
      · simp [hmarked, blank]
      · simp
      · simp [hmarked]
      · simp [hmarked]
      · simp [EGLState.leave, hmarked, destroyRequests_destroyed, blank]

theorem Owned.left {s s₁ : EGLState Thread} {t : Thread} (h : Owned s) (hleft : Left s t s₁) :
    Owned s₁ ∧ s₁.currentContext t = none := by
  cases hleft with
  | idle hidle => exact ⟨h, hidle⟩
  | left hcur hprev => exact ⟨h.leave hcur hprev, by simp⟩

theorem Owned.enter {s : EGLState Thread} (h : Owned s) {t : Thread} {c : ContextPtr}
    {context : EGLContext} (hidle : s.currentContext t = none)
    (hctx : s.contexts c = some context) (hfree : ∀ t', s.currentContext t' ≠ some c)
    (draw read : Option SurfacePtr) : Owned (s.enter t c context draw read) := by
  have hmine : (s.setCurrentContext t (some c)).currentContext t = some c := by simp
  have hbound : Owned ((s.setCurrentContext t (some c)).setContext c (context.bind draw read)) :=
    (h.takeCurrent hidle hctx hfree).setContext hctx rfl (fun _ => ⟨t, hmine⟩)
      fun _ => ⟨t, hmine⟩
  exact hbound

omit [DecidableEq Thread] in
theorem Owned.rebound {s : EGLState Thread} (h : Owned s) {t : Thread} {c : ContextPtr}
    {context : EGLContext} (hcur : s.currentContext t = some c)
    (hctx : s.contexts c = some context) (draw read : Option SurfacePtr) :
    Owned (s.setContext c (reboundContext context draw read)) := by
  refine h.setContext hctx ?_ (fun _ => ⟨t, hcur⟩) fun _ => ⟨t, hcur⟩
  unfold reboundContext
  dsimp only
  split_ifs <;> rfl

omit [DecidableEq Thread] in
theorem Owned.markToDelete {s : EGLState Thread} (h : Owned s) {t : Thread} {c : ContextPtr}
    {context : EGLContext} (hcur : s.currentContext t = some c)
    (hctx : s.contexts c = some context) : Owned (s.setContext c context.markToDelete) :=
  h.setContext hctx rfl (fun _ => ⟨t, hcur⟩) fun _ => ⟨t, hcur⟩

omit [DecidableEq Thread] in
theorem Owned.created {s s' : EGLState Thread} (h : Owned s) {c : ContextPtr}
    {context : EGLContext} (hnew : CreatedContext s s' c context) : Owned s' := by
  have hold : ∀ x object, s.contexts x = some object → x ≠ c := by
    rintro x object hobject rfl
    exact absurd (h.bounded x object hobject) (Nat.not_lt.mpr hnew.fresh)
  have hblank : context.isCurrent = false ∧ context.toDelete = false := by
    simp [EGLContext.isCurrent, EGLContext.toDelete, hnew.flags]
  have hcases : ∀ x object, s'.contexts x = some object →
      x = c ∧ context = object ∨ x ≠ c ∧ s.contexts x = some object := by
    intro x object hobject
    rw [hnew.contexts] at hobject
    exact update_some_eq_some.mp hobject
  have hkeeps : ∀ x, (∃ object, s.contexts x = some object) →
      ∃ object, s'.contexts x = some object := by
    rintro x ⟨object, hobject⟩
    exact ⟨object, by simp [hnew.contexts, hold x object hobject, hobject]⟩
  exact {
    live := fun t x hx => hkeeps x (h.live t x ((hnew.current t) ▸ hx))
    exclusive := by simpa only [hnew.current] using h.exclusive
    flagged := by
      intro x object hobject hset
      simp only [hnew.current]
      rcases hcases x object hobject with ⟨-, rfl⟩ | ⟨-, hobject⟩
      · rw [hblank.1] at hset
        cases hset
      · exact h.flagged x object hobject hset
    marked := by
      intro x object hobject hset
      simp only [hnew.current]
      rcases hcases x object hobject with ⟨-, rfl⟩ | ⟨-, hobject⟩
      · rw [hblank.2] at hset
        cases hset
      · exact h.marked x object hobject hset
    host := by
      intro x object hobject
      rcases hcases x object hobject with ⟨-, rfl⟩ | ⟨-, hobject⟩
      · exact hnew.host
      · exact h.host x object hobject
    bounded := by
      intro x object hobject
      rcases hcases x object hobject with ⟨rfl, -⟩ | ⟨-, hobject⟩
      · exact hnew.nextPtr.1
      · exact ((h.bounded x object hobject).trans_le hnew.fresh).trans hnew.nextPtr.1
    freedDead := by
      intro x hx
      rw [hnew.freed] at hx
      obtain ⟨hdead, hlt⟩ := h.freedDead x hx
      have hxc : x < c := hlt.trans_le hnew.fresh
      exact ⟨by simp [hnew.contexts, hxc.ne, hdead], hxc.trans hnew.nextPtr.1⟩
    freedOnce := by simpa only [hnew.freed] using h.freedOnce
    listedOnce := by
      rw [hnew.listed]
      refine List.nodup_append.mpr ⟨h.listedOnce, List.nodup_singleton c, ?_⟩
      intro x hx y hy hxy
      obtain ⟨object, hobject⟩ := h.listedLive x hx
      exact hold x object hobject (hxy.trans (List.mem_singleton.mp hy))
    listedLive := by
      intro x hx
      rw [hnew.listed, List.mem_append, List.mem_singleton] at hx
      rcases hx with hx | rfl
      · exact hkeeps x (h.listedLive x hx)
      · exact ⟨context, by simp [hnew.contexts]⟩ }

end EGLState
end EGL
end DeviceAndroVM
