import DeviceAndroVM.EGL.WindowSurface
import DeviceAndroVM.Library.Lookup
import DeviceAndroVM.Library.Transition

/-!
# The buffers of window surfaces

A window surface holds the buffer in its `buffer` field and no other, so its window
gets every buffer back exactly once — unless the surface is swapped while `buffer` is
`NULL`, which a failed dequeue leaves behind.

* `BuffersAccounted` — every buffer given back was held, and a surface that is gone
  holds none.
* `Holdings` — the invariant: the log of a surface leaves exactly its `buffer`.
* `buffers_accounted_iff` — a run accounts for its buffers exactly when it never swaps a
  surface without a buffer.
-/

namespace DeviceAndroVM
namespace EGL

open Library

universe u

variable {Thread : Type u} [DecidableEq Thread]

namespace WindowState

/-- The buffers that a surface holds by its `buffer` field. -/
def held (s : WindowState Thread) (surface : SurfacePtr) : List NativeBuffer :=
  ((s.windows surface).bind WindowSurface.buffer).toList

/-- Every buffer that a surface gave back is one that it held at that time, and a
surface that does not exist any more has given back all that it took. -/
def BuffersAccounted (s : WindowState Thread) : Prop :=
  ∀ surface, ∃ buffers, custody [] (s.log surface) = some buffers ∧
    (s.windows surface = none → buffers = [])

/-- The invariant. -/
structure Holdings (s : WindowState Thread) : Prop where
  custody_log : ∀ surface, custody [] (s.log surface) = some (s.held surface)
  fresh : ∀ surface, s.egl.nextPtr ≤ surface → s.windows surface = none

/-- The call did nothing to window surfaces. -/
structure SameWindows (s s' : WindowState Thread) : Prop where
  log : s'.log = s.log
  windows : s'.windows = s.windows
  nextPtr : s'.egl.nextPtr = s.egl.nextPtr

variable {s s' : WindowState Thread}

omit [DecidableEq Thread] in
theorem Holdings.buffersAccounted (h : Holdings s) : BuffersAccounted s := by
  intro surface
  refine ⟨_, h.custody_log surface, ?_⟩
  intro hnone
  simp [held, hnone]

omit [DecidableEq Thread] in
/-- A surface that is gone gave every buffer back as often as it took it. -/
theorem BuffersAccounted.count_eq (h : BuffersAccounted s) {surface : SurfacePtr}
    (hgone : s.windows surface = none) (buffer : NativeBuffer) :
    (s.log surface).count (.take buffer) = (s.log surface).count (.give (some buffer)) := by
  obtain ⟨buffers, hlog, hempty⟩ := h surface
  rw [hempty hgone] at hlog
  exact count_take_eq_count_give hlog buffer

omit [DecidableEq Thread] in
theorem holdings_start (egl : EGLState Thread) : Holdings (start egl) :=
  ⟨fun _ => rfl, fun _ _ => rfl⟩

omit [DecidableEq Thread] in
theorem Holdings.unchanged (h : Holdings s) (hsame : SameWindows s s') : Holdings s' := by
  constructor
  · intro surface
    rw [hsame.log, held, hsame.windows]
    exact h.custody_log surface
  · intro surface hle
    rw [hsame.windows]
    exact h.fresh surface (hsame.nextPtr ▸ hle)

omit [DecidableEq Thread] in
/-- A call that changes one surface keeps the invariant when what it did with buffers
leads from the old `buffer` to the new one. -/
theorem Holdings.change (h : Holdings s) {surface : SurfacePtr} {window : Option WindowSurface}
    {events : List (CustodyEvent NativeBuffer)}
    (hlog : s'.log = Function.update s.log surface (s.log surface ++ events))
    (hwindows : s'.windows = Function.update s.windows surface window)
    (hevents : custody (s.held surface) events =
      some (window.bind WindowSurface.buffer).toList)
    (hnext : s.egl.nextPtr ≤ s'.egl.nextPtr) (hlt : surface < s'.egl.nextPtr) :
    Holdings s' := by
  constructor
  · intro other
    by_cases hother : other = surface
    · subst hother
      rw [hlog, held, hwindows, Function.update_self, Function.update_self, custody_append,
        h.custody_log other, Option.bind_some, hevents]
    · rw [hlog, held, hwindows, Function.update_of_ne hother, Function.update_of_ne hother]
      exact h.custody_log other
  · intro other hle
    rw [hwindows, Function.update_of_ne (Nat.ne_of_gt (Nat.lt_of_lt_of_le hlt hle))]
    exact h.fresh other (hnext.trans hle)

omit [DecidableEq Thread] in
theorem Holdings.lt_nextPtr (h : Holdings s) {surface : SurfacePtr} {window : WindowSurface}
    (hwindow : s.windows surface = some window) : surface < s.egl.nextPtr := by
  by_contra hle
  rw [h.fresh surface (Nat.le_of_not_lt hle)] at hwindow
  cases hwindow

@[simp] theorem getHostConnection_nextPtr (egl : EGLState Thread) (t : Thread)
    (connects : Bool) : (egl.getHostConnection t connects).2.nextPtr = egl.nextPtr := by
  unfold EGLState.getHostConnection
  split
  · rfl
  · split
    · rfl
    · rfl

theorem eglDestroySurface_nextPtr {egl egl' : EGLState Thread} {t : Thread} {connects ret : Bool}
    {dpy : EGLDisplay} {surface : Option SurfacePtr}
    (hcall : egl.eglDestroySurface t connects dpy surface = some (ret, egl')) :
    egl'.nextPtr = egl.nextPtr := by
  unfold EGLState.eglDestroySurface at hcall
  split_ifs at hcall
  · cases hcall
    rfl
  · cases hcall
    rfl
  split at hcall
  · cases hcall
  · cases hcall
    rfl
  · cases hcall
    rfl
  · rename_i surf _
    obtain ⟨deleted, hdelete, heq⟩ := Option.map_eq_some_iff.mp hcall
    cases heq
    unfold EGLState.deleteSurface at hdelete
    split at hdelete
    · rename_i connected hconn
      cases hdelete
      have hnext := congrArg (fun result => result.2.nextPtr) hconn
      rw [getHostConnection_nextPtr] at hnext
      exact hnext.symm
    · cases hdelete

/-! ## The calls -/

/-- What a destructor gives back. -/
def cancelled (window : WindowSurface) : List (CustodyEvent NativeBuffer) :=
  window.buffer.toList.map fun buffer => .give (some buffer)

/-- What `init` takes. -/
def dequeued (dequeue : Option NativeBuffer) : List (CustodyEvent NativeBuffer) :=
  dequeue.toList.map .take

theorem deleteWindow_log {t : Thread} {connects : Bool} {surface : SurfacePtr}
    {object : EGLSurface} {window : WindowSurface} :
    (s.deleteWindow t connects surface object window).log =
      Function.update s.log surface (s.log surface ++ cancelled window) := by
  cases hbuffer : window.buffer with
  | none => simp [deleteWindow, cancelled, hbuffer, record, setWindow, send]
  | some buffer => simp [deleteWindow, cancelled, hbuffer, record, setWindow, send]

theorem custody_cancelled (window : WindowSurface) :
    custody window.buffer.toList (cancelled window) = some [] := by
  unfold cancelled
  cases window.buffer with
  | none => rfl
  | some buffer => exact custody_give_last buffer []

theorem custody_dequeued (dequeue : Option NativeBuffer) :
    custody [] (dequeued dequeue) = some dequeue.toList := by
  cases dequeue with
  | none => rfl
  | some buffer => rfl

theorem init_log {t : Thread} {surface : SurfacePtr} {config : EGLint} {window : WindowSurface}
    {reply : CreateReply} :
    (s.init t surface config window reply).2.log =
      Function.update s.log surface (s.log surface ++ dequeued reply.dequeue) := by
  unfold init
  cases reply.dequeue with
  | none => simp [dequeued, setError]
  | some buffer =>
      dsimp only
      split
      · rfl
      · split
        · rfl
        · rfl

theorem init_windows {t : Thread} {surface : SurfacePtr} {config : EGLint}
    {window : WindowSurface} {reply : CreateReply}
    (hwindow : s.windows surface = some window) (hbuffer : window.buffer = none) :
    (s.init t surface config window reply).2.windows =
      Function.update s.windows surface (some { window with buffer := reply.dequeue }) := by
  unfold init
  cases reply.dequeue with
  | none =>
      show s.windows = _
      rw [← hbuffer, ← hwindow, Function.update_eq_self]
  | some buffer =>
      dsimp only
      split
      · rfl
      · split
        · rfl
        · rfl

theorem init_nextPtr {t : Thread} {surface : SurfacePtr} {config : EGLint}
    {window : WindowSurface} {reply : CreateReply} :
    (s.init t surface config window reply).2.egl.nextPtr = s.egl.nextPtr := by
  unfold init
  cases reply.dequeue with
  | none => rfl
  | some buffer =>
      dsimp only
      have hnext := getHostConnection_nextPtr s.egl t reply.connects
      split
      · rename_i heq
        rw [← hnext]
        exact congrArg (fun result => result.2.nextPtr) heq.symm
      · rename_i heq
        have hegl := congrArg (fun result => result.2.nextPtr) heq.symm
        split
        · exact hegl.trans hnext
        · exact hegl.trans hnext

omit [DecidableEq Thread] in
theorem Holdings.construct (h : Holdings s) (win : Nat) (reply : CreateReply) :
    Holdings (s.construct s.egl.nextPtr win reply) := by
  have hnew : s.held s.egl.nextPtr = [] := by
    simp [held, h.fresh s.egl.nextPtr (Nat.le_refl _)]
  have hlog : (s.construct s.egl.nextPtr win reply).log =
      Function.update s.log s.egl.nextPtr (s.log s.egl.nextPtr ++ []) := by
    rw [List.append_nil, Function.update_eq_self]
    rfl
  refine h.change hlog rfl ?_ (Nat.le_succ _) (Nat.lt_succ_self _)
  rw [hnew]
  rfl

theorem Holdings.init (h : Holdings s) {t : Thread} {surface : SurfacePtr} {config : EGLint}
    {window : WindowSurface} {reply : CreateReply}
    (hwindow : s.windows surface = some window) (hbuffer : window.buffer = none) :
    Holdings (s.init t surface config window reply).2 := by
  refine h.change init_log (init_windows hwindow hbuffer) ?_ (Nat.le_of_eq init_nextPtr.symm)
    (Nat.lt_of_lt_of_eq (h.lt_nextPtr hwindow) init_nextPtr.symm)
  have hheld : s.held surface = [] := by simp [held, hwindow, hbuffer]
  rw [hheld]
  exact custody_dequeued reply.dequeue

theorem Holdings.deleteWindow (h : Holdings s) {t : Thread} {connects : Bool}
    {surface : SurfacePtr} {object : EGLSurface} {window : WindowSurface}
    (hwindow : s.windows surface = some window) :
    Holdings (s.deleteWindow t connects surface object window) := by
  have hnext := getHostConnection_nextPtr s.egl t connects
  refine h.change deleteWindow_log rfl ?_ (Nat.le_of_eq hnext.symm)
    (Nat.lt_of_lt_of_eq (h.lt_nextPtr hwindow) hnext.symm)
  have hheld : s.held surface = window.buffer.toList := by simp [held, hwindow]
  rw [hheld]
  exact custody_cancelled window

theorem Holdings.createWindow (h : Holdings s) {t : Thread} {config : EGLint} {win : Nat}
    {reply : CreateReply} : Holdings (s.createWindow t config win reply).2 := by
  have hwindow : (s.construct s.egl.nextPtr win reply).windows s.egl.nextPtr =
      some ⟨win, reply.width, reply.height, none⟩ := by
    simp [WindowState.construct, setWindow]
  have hinit : Holdings ((s.construct s.egl.nextPtr win reply).init t s.egl.nextPtr config
      ⟨win, reply.width, reply.height, none⟩ reply).2 := (h.construct win reply).init hwindow rfl
  unfold WindowState.createWindow
  dsimp only
  split
  · exact hinit.unchanged ⟨rfl, rfl, rfl⟩
  · split
    · rename_i window hfailed
      exact (hinit.deleteWindow hfailed).unchanged ⟨rfl, rfl, rfl⟩
    · exact hinit

theorem Holdings.eglCreateWindowSurface (h : Holdings s) {t : Thread} {reply : CreateReply}
    {dpy : EGLDisplay} {config : EGLint} {win : Option Nat} :
    Holdings (s.eglCreateWindowSurface t reply dpy config win).2 := by
  have herror : ∀ error, Holdings (s.setError t error) :=
    fun error => h.unchanged ⟨rfl, rfl, rfl⟩
  unfold WindowState.eglCreateWindowSurface
  split
  · exact herror _
  split
  · exact herror _
  split
  · exact herror _
  split
  · exact herror _
  · exact h
  · split
    · exact herror _
    split
    · exact herror _
    · exact h.createWindow

theorem Holdings.eglDestroySurface (h : Holdings s) {t : Thread} {connects : Bool}
    {dpy : EGLDisplay} {surface : Option SurfacePtr} {ret : Bool}
    (hcall : s.eglDestroySurface t connects dpy surface = some (ret, s')) : Holdings s' := by
  -- a call that fails, or on a surface of another kind
  have hother : ((s.egl.eglDestroySurface t connects dpy surface).map fun result =>
      (result.1, { s with egl := result.2 })) = some (ret, s') → Holdings s' := by
    intro heq
    obtain ⟨⟨ret', egl⟩, hegl, hpair⟩ := Option.map_eq_some_iff.mp heq
    cases hpair
    exact h.unchanged ⟨rfl, rfl, eglDestroySurface_nextPtr hegl⟩
  unfold WindowState.eglDestroySurface at hcall
  dsimp only at hcall
  split at hcall
  · exact hother hcall
  · rename_i surf
    split at hcall
    · rename_i window object hwindow hobject
      split at hcall
      · exact hother hcall
      · cases hcall
        refine Holdings.deleteWindow ?_ hwindow
        exact h.unchanged ⟨rfl, rfl, rfl⟩
    · exact hother hcall

/-! ## Swapping -/

/-- `eglSwapBuffers` gets past its checks on the surface. -/
def ReachesSwap (s : WindowState Thread) (t : Thread) (connects : Bool) (dpy : EGLDisplay)
    (surface : SurfacePtr) : Prop :=
  dpy = s_display ∧ s.egl.display.initialized = true ∧
    (s.egl.getHostConnection t connects).1 = true ∧
    ∃ object, (s.egl.getHostConnection t connects).2.surfaces surface = some object ∧
      object.dpy = dpy

/-- The call does not swap a window surface whose `buffer` is `NULL`, which it is after a
dequeue that failed in the swap before. -/
def SwapsHeldBuffer (s : WindowState Thread) : Thread × WindowCall → Prop
  | (t, .eglSwapBuffers connects _ dpy (some surface)) =>
      s.ReachesSwap t connects dpy surface →
        ∀ window, s.windows surface = some window → window.buffer ≠ none
  | _ => True

/-- `eglSwapBuffers` changes nothing or swaps one surface. -/
theorem eglSwapBuffers_cases {t : Thread} {connects ret : Bool} {dequeue : Option NativeBuffer}
    {dpy : EGLDisplay} {surface : Option SurfacePtr}
    (hcall : s.eglSwapBuffers t connects dequeue dpy surface = some (ret, s')) :
    SameWindows s s' ∨
      ∃ surf object window connected, surface = some surf ∧
        s.ReachesSwap t connects dpy surf ∧ s.windows surf = some window ∧
        SameWindows s connected ∧
        s' = connected.swapBuffers t surf object window dequeue := by
  unfold eglSwapBuffers at hcall
  have hnext := getHostConnection_nextPtr s.egl t connects
  split_ifs at hcall with hdpy hinit
  · cases hcall
    exact Or.inl ⟨rfl, rfl, rfl⟩
  · cases hcall
    exact Or.inl ⟨rfl, rfl, rfl⟩
  split at hcall
  · cases hcall
    exact Or.inl ⟨rfl, rfl, rfl⟩
  rename_i surf
  split at hcall
  · rename_i egl hconn
    cases hcall
    rw [hconn] at hnext
    exact Or.inl ⟨rfl, rfl, hnext⟩
  rename_i egl hconn
  rw [hconn] at hnext
  split at hcall
  · cases hcall
  rename_i object hobject
  split_ifs at hcall with hobj
  · cases hcall
    exact Or.inl ⟨rfl, rfl, hnext⟩
  split at hcall
  · cases hcall
    exact Or.inl ⟨rfl, rfl, hnext⟩
  · rename_i window hwindow
    cases hcall
    refine Or.inr ⟨surf, _, window, { s with egl := egl }, rfl, ?_, hwindow,
      ⟨rfl, rfl, hnext⟩, rfl⟩
    refine ⟨not_not.mp hdpy, ?_, ?_, object, ?_, not_not.mp hobj⟩
    · simpa using hinit
    · rw [hconn]
    · rw [hconn]
      exact hobject

/-- A call that gets past the checks does swap the surface. -/
theorem eglSwapBuffers_of_reachesSwap {t : Thread} {connects : Bool} {dpy : EGLDisplay}
    {surface : SurfacePtr} {window : WindowSurface} (hreach : s.ReachesSwap t connects dpy surface)
    (hwindow : s.windows surface = some window) (dequeue : Option NativeBuffer) :
    ∃ (connected : WindowState Thread) (rcSurface : BitVec 32),
      s.eglSwapBuffers t connects dequeue dpy (some surface) =
        some (true, connected.swapBuffers t surface rcSurface window dequeue) := by
  obtain ⟨hdpy, hinit, hconn, object, hobject, hobj⟩ := hreach
  refine ⟨{ s with egl := (s.egl.getHostConnection t connects).2 }, object.rcSurface, ?_⟩
  cases hget : s.egl.getHostConnection t connects with
  | mk connected egl =>
      rw [hget] at hconn hobject
      cases hconn
      have hfound : egl.surfaces surface = some object := hobject
      simp [eglSwapBuffers, hdpy, hinit, hget, hfound, hobj, hwindow]

theorem swapBuffers_log {t : Thread} {surface : SurfacePtr} {rcSurface : BitVec 32}
    {window : WindowSurface} {dequeue : Option NativeBuffer} :
    (s.swapBuffers t surface rcSurface window dequeue).log =
      Function.update s.log surface
        (s.log surface ++ .give window.buffer :: dequeued dequeue) := by
  cases dequeue with
  | none => rfl
  | some buffer => simp [swapBuffers, record, setWindow, send, dequeued]

theorem swapBuffers_windows {t : Thread} {surface : SurfacePtr} {rcSurface : BitVec 32}
    {window : WindowSurface} {dequeue : Option NativeBuffer} :
    (s.swapBuffers t surface rcSurface window dequeue).windows =
      Function.update s.windows surface (some { window with buffer := dequeue }) := by
  cases dequeue with
  | none => rfl
  | some buffer => rfl

theorem swapBuffers_nextPtr {t : Thread} {surface : SurfacePtr} {rcSurface : BitVec 32}
    {window : WindowSurface} {dequeue : Option NativeBuffer} :
    (s.swapBuffers t surface rcSurface window dequeue).egl.nextPtr = s.egl.nextPtr := by
  cases dequeue with
  | none => rfl
  | some buffer => rfl

theorem Holdings.swapBuffers (h : Holdings s) {t : Thread} {surface : SurfacePtr}
    {rcSurface : BitVec 32} {window : WindowSurface} {dequeue : Option NativeBuffer}
    (hwindow : s.windows surface = some window) (hbuffer : window.buffer ≠ none) :
    Holdings (s.swapBuffers t surface rcSurface window dequeue) := by
  obtain ⟨buffer, hsome⟩ := Option.ne_none_iff_exists'.mp hbuffer
  have hheld : s.held surface = [buffer] := by simp [held, hwindow, hsome]
  refine h.change swapBuffers_log swapBuffers_windows ?_ (Nat.le_of_eq swapBuffers_nextPtr.symm)
    (Nat.lt_of_lt_of_eq (h.lt_nextPtr hwindow) swapBuffers_nextPtr.symm)
  rw [hheld, hsome, custody_give_last]
  exact custody_dequeued dequeue

/-- Swapping without a buffer hands `NULL` to the window. -/
theorem not_buffersAccounted_swapBuffers {t : Thread} {surface : SurfacePtr}
    {rcSurface : BitVec 32} {window : WindowSurface} {dequeue : Option NativeBuffer}
    (hbuffer : window.buffer = none) :
    ¬BuffersAccounted (s.swapBuffers t surface rcSurface window dequeue) := by
  intro h
  obtain ⟨buffers, hcustody, -⟩ := h surface
  rw [swapBuffers_log, Function.update_self, custody_append, hbuffer] at hcustody
  cases hlog : custody [] (s.log surface) with
  | none => simp [hlog] at hcustody
  | some held => simp [hlog] at hcustody

end WindowState

/-! ## Runs -/

open WindowState

theorem windowStep_holdings {s s' : WindowState Thread} {label : Thread × WindowCall}
    (h : Holdings s) (hheld : s.SwapsHeldBuffer label) (hstep : WindowStep s label s') :
    Holdings s' := by
  obtain ⟨t, call⟩ := label
  unfold WindowStep runWindowCall at hstep
  split at hstep
  · cases hstep
  cases call with
  | eglCreateWindowSurface reply dpy config win =>
      cases hstep
      exact h.eglCreateWindowSurface
  | eglSwapBuffers connects dequeue dpy surface =>
      obtain ⟨⟨ret, _⟩, hcall, rfl⟩ := Option.map_eq_some_iff.mp hstep
      rcases eglSwapBuffers_cases hcall with
        hsame | ⟨surf, rcSurface, window, connected, rfl, hreach, hwindow, hsame, rfl⟩
      · exact h.unchanged hsame
      · exact (h.unchanged hsame).swapBuffers (hsame.windows ▸ hwindow)
          (hheld hreach window hwindow)
  | eglDestroySurface connects dpy surface =>
      obtain ⟨⟨ret, _⟩, hcall, rfl⟩ := Option.map_eq_some_iff.mp hstep
      exact h.eglDestroySurface hcall

theorem swapsHeldBuffer_of_buffersAccounted {s s' : WindowState Thread}
    {label : Thread × WindowCall} (hstep : WindowStep s label s') (hok : BuffersAccounted s') :
    s.SwapsHeldBuffer label := by
  obtain ⟨t, call⟩ := label
  unfold WindowStep runWindowCall at hstep
  split at hstep
  · cases hstep
  cases call with
  | eglCreateWindowSurface reply dpy config win => exact trivial
  | eglDestroySurface connects dpy surface => exact trivial
  | eglSwapBuffers connects dequeue dpy surface =>
      cases surface with
      | none => exact trivial
      | some surf =>
          intro hreach window hwindow hbuffer
          obtain ⟨connected, rcSurface, hcall⟩ :=
            eglSwapBuffers_of_reachesSwap hreach hwindow dequeue
          dsimp only at hstep
          rw [hcall] at hstep
          cases hstep
          exact not_buffersAccounted_swapBuffers hbuffer hok

/-- For any threads, every order of the calls and all answers of the window and the host:
the buffers are accounted for after every call exactly when no call swaps a surface
without a buffer. -/
theorem buffers_accounted_iff (egl : EGLState Thread)
    (trace : List ((Thread × WindowCall) × WindowState Thread))
    (hrun : Run WindowStep (WindowState.start egl) trace) :
    Always BuffersAccounted trace ↔
      EachStep (fun s label _ => s.SwapsHeldBuffer label) (WindowState.start egl) trace := by
  have hkeep : ∀ (s : WindowState Thread) label s', Holdings s → s.SwapsHeldBuffer label →
      WindowStep s label s' → Holdings s' :=
    fun s label s' h hheld hstep => windowStep_holdings h hheld hstep
  refine hrun.always_iff_eachStep hkeep ?_ ?_ (holdings_start egl)
  · intro s h
    exact h.buffersAccounted
  · intro s label s' _ hstep hok
    exact swapsHeldBuffer_of_buffersAccounted hstep hok

/-- A process whose display is initialised, and the answers of a window that hands out
the buffer 7. -/
def openedDisplay : EGLState Unit :=
  { (EGLState.init : EGLState Unit) with
    display := ⟨true, 1, fun _ => true, [], []⟩ }

def windowReply : CreateReply where
  surfaceType := some EGL_WINDOW_BIT
  windowMagic := true
  width := 640#32
  height := 480#32
  dequeue := some ⟨7, 70#32⟩
  connects := true
  rcSurface := 5#32
  reconnects := true

/-- A surface is created and swapped, the first time with the given answer. -/
def swapTwice (dequeue : Option NativeBuffer) : List (Unit × WindowCall) :=
  [((), .eglCreateWindowSurface windowReply s_display 0#32 (some 3)),
    ((), .eglSwapBuffers true dequeue s_display (some 0)),
    ((), .eglSwapBuffers true (some ⟨9, 90#32⟩) s_display (some 0)),
    ((), .eglDestroySurface true s_display (some 0))]

theorem buffers_accounted_iff_all_dequeued :
    Always BuffersAccounted (partialTraceOf runWindowCall (WindowState.start openedDisplay)
      (swapTwice (some ⟨8, 80#32⟩))) := by
  refine (buffers_accounted_iff openedDisplay _ (run_partialTraceOf _ _ _)).mpr
    ⟨trivial, ?_, ?_, trivial, trivial⟩
  · intro _ window hwindow
    cases hwindow
    exact Option.some_ne_none _
  · intro _ window hwindow
    cases hwindow
    exact Option.some_ne_none _

/-- The dequeue of the first swap fails, so the second one queues `NULL`. -/
theorem swap_queues_null :
    ¬∀ trace : List ((Unit × WindowCall) × WindowState Unit),
      Run WindowStep (WindowState.start openedDisplay) trace → Always BuffersAccounted trace := by
  intro h
  let calls := partialTraceOf runWindowCall (WindowState.start openedDisplay) (swapTwice none)
  have halways := h calls (run_partialTraceOf _ _ _)
  have hthird : calls[2]?.map (fun entry => custody [] (entry.2.log 0)) = some none := by decide
  obtain ⟨entry, hget, hcustody⟩ := Option.map_eq_some_iff.mp hthird
  obtain ⟨buffers, hlog, -⟩ := halways entry (List.mem_of_getElem? hget) 0
  rw [hcustody] at hlog
  cases hlog

end EGL
end DeviceAndroVM
