import DeviceAndroVM.EGL.Calls
import DeviceAndroVM.Library.EventLog

/-!
# Window surfaces

`egl_window_surface_t` of `egl.cpp` (lines 191–296) and the three calls that create,
swap and destroy one.  The surface takes buffers from its native window and gives them
back; each surface keeps the list of what it did.

* `eglCreateWindowSurface`, `eglSwapBuffers`, `eglDestroySurface` — the calls, with the
  answers of the window and the host as arguments.
* `WindowCall`, `WindowStep` — the calls of any threads as labels of a run.
-/

namespace DeviceAndroVM
namespace EGL

open Library

universe u

abbrev EGL_BAD_NATIVE_WINDOW : EGLint := 0x300B#32
abbrev EGL_BAD_SURFACE : EGLint := 0x300D#32
abbrev EGL_WINDOW_BIT : EGLint := 0x0004#32

/-- An `android_native_buffer_t`: its address and the `hostHandle` of its handle. -/
structure NativeBuffer where
  address : Nat
  hostHandle : BitVec 32
  deriving DecidableEq

/-- The fields that `egl_window_surface_t` and its base class add to `EGLSurface`; a
`buffer` that is `none` is `NULL`. -/
structure WindowSurface where
  nativeWindow : Nat
  width : EGLint
  height : EGLint
  buffer : Option NativeBuffer

/-- The renderControl commands of window surfaces. -/
inductive RcSurfaceCommand
  | rcCreateWindowSurface (config width height : EGLint)
  | rcDestroyWindowSurface (surface : BitVec 32)
  | rcFlushWindowColorBuffer (surface : BitVec 32)
  | rcSetWindowColorBuffer (surface buffer : BitVec 32)
  deriving DecidableEq

/-- What the native window and the host answer to `eglCreateWindowSurface`.
`dequeue` is the buffer of `dequeueBuffer`, `none` when that fails. -/
structure CreateReply where
  surfaceType : Option EGLint
  windowMagic : Bool
  width : EGLint
  height : EGLint
  dequeue : Option NativeBuffer
  connects : Bool
  rcSurface : BitVec 32
  reconnects : Bool

/-- The process with its window surfaces.  `log` is what each surface did with buffers,
`crashed` that a destructor used the encoder of a connection that is not there. -/
structure WindowState (Thread : Type u) where
  egl : EGLState Thread
  windows : SurfacePtr → Option WindowSurface
  log : SurfacePtr → List (CustodyEvent NativeBuffer)
  commands : List RcSurfaceCommand
  crashed : Bool

namespace WindowState

variable {Thread : Type u} [DecidableEq Thread]

/-- A process without window surfaces. -/
def start (egl : EGLState Thread) : WindowState Thread where
  egl := egl
  windows := fun _ => none
  log := fun _ => []
  commands := []
  crashed := false

variable (s : WindowState Thread)

/-- `setErrorReturn`. -/
def setError (t : Thread) (error : EGLint) : WindowState Thread :=
  { s with egl := (s.egl.setErrorReturn t error).2 }

/-- A surface hands buffers to or from its window. -/
def record (surface : SurfacePtr) (events : List (CustodyEvent NativeBuffer)) :
    WindowState Thread :=
  { s with log := Function.update s.log surface (s.log surface ++ events) }

/-- Overwrite or free the window surface at an address. -/
def setWindow (surface : SurfacePtr) (window : Option WindowSurface) : WindowState Thread :=
  { s with windows := Function.update s.windows surface window }

/-- Send commands to the host. -/
def send (commands : List RcSurfaceCommand) : WindowState Thread :=
  { s with commands := s.commands ++ commands }

/-! ## Constructor and destructor -/

/-- `egl_window_surface_t::egl_window_surface_t`. -/
def construct (surface : SurfacePtr) (win : Nat) (reply : CreateReply) : WindowState Thread :=
  { s.setWindow surface (some ⟨win, reply.width, reply.height, none⟩) with
    egl := { s.egl with
      surfaces := Function.update s.egl.surfaces surface (some ⟨s_display, 0#32⟩)
      nextPtr := s.egl.nextPtr + 1 } }

/-- `delete` of a window surface.  The stream is flushed without asking whether there is
a connection. -/
def deleteWindow (t : Thread) (connects : Bool) (surface : SurfacePtr) (object : EGLSurface)
    (window : WindowSurface) : WindowState Thread :=
  let connection := s.egl.getHostConnection t connects
  let destroyed : List RcSurfaceCommand :=
    if object.rcSurface ≠ 0#32 ∧ connection.1 then [.rcDestroyWindowSurface object.rcSurface]
    else []
  let cancelled : List (CustodyEvent NativeBuffer) :=
    match window.buffer with
    | some buffer => [.give (some buffer)]
    | none => []
  { ((s.send destroyed).record surface cancelled).setWindow surface none with
    egl := { connection.2 with
      surfaces := Function.update connection.2.surfaces surface none }
    crashed := !connection.1 }

/-- `egl_window_surface_t::init`, of the surface `window` at `surface`. -/
def init (t : Thread) (surface : SurfacePtr) (config : EGLint) (window : WindowSurface)
    (reply : CreateReply) : Bool × WindowState Thread :=
  match reply.dequeue with
  | none => (false, s.setError t EGL_BAD_ALLOC)
  | some buffer =>
      let s := (s.record surface [.take buffer]).setWindow surface
        (some { window with buffer := some buffer })
      match s.egl.getHostConnection t reply.connects with
      | (false, egl) => (false, { s with egl := egl })
      | (true, egl) =>
          let s := { s with egl := egl }.send
            [.rcCreateWindowSurface config window.width window.height]
          if reply.rcSurface = 0#32 then (false, s)
          else
            (true, { s.send [.rcSetWindowColorBuffer reply.rcSurface buffer.hostHandle] with
              egl := { s.egl with
                surfaces := Function.update s.egl.surfaces surface
                  (some ⟨s_display, reply.rcSurface⟩) } })

/-! ## Calls -/

/-- `egl_window_surface_t::create` and the end of `eglCreateWindowSurface`.  A surface
whose `init` failed is deleted again. -/
def createWindow (t : Thread) (config : EGLint) (win : Nat) (reply : CreateReply) :
    Option SurfacePtr × WindowState Thread :=
  let surface := s.egl.nextPtr
  let constructed := s.construct surface win reply
  let result := constructed.init t surface config ⟨win, reply.width, reply.height, none⟩ reply
  if result.1 then
    (some surface, { result.2 with
      egl := { result.2.egl with
        display := { result.2.egl.display with
          surfaces := result.2.egl.display.surfaces ++ [surface] } } })
  else
    match result.2.windows surface with
    | some window =>
        (none, (result.2.deleteWindow t reply.reconnects surface ⟨s_display, 0#32⟩
          window).setError t EGL_BAD_ALLOC)
    | none => (none, result.2)

/-- `eglCreateWindowSurface`; `win` is `none` for the window 0. -/
def eglCreateWindowSurface (t : Thread) (reply : CreateReply) (dpy : EGLDisplay)
    (config : EGLint) (win : Option Nat) : Option SurfacePtr × WindowState Thread :=
  if dpy ≠ s_display then (none, s.setError t EGL_BAD_DISPLAY)
  else if s.egl.display.initialized = false then (none, s.setError t EGL_NOT_INITIALIZED)
  else if config.toInt < 0 ∨ s.egl.display.numConfigs < config.toInt then
    (none, s.setError t EGL_BAD_CONFIG)
  else
    match win, reply.surfaceType with
    | none, _ => (none, s.setError t EGL_BAD_MATCH)
    | some _, none => (none, s)
    | some win, some surfaceType =>
        if surfaceType &&& EGL_WINDOW_BIT = 0#32 then (none, s.setError t EGL_BAD_MATCH)
        else if reply.windowMagic = false then (none, s.setError t EGL_BAD_NATIVE_WINDOW)
        else s.createWindow t config win reply

/-- `egl_window_surface_t::swapBuffers`; the buffer is queued without asking whether
there is one. -/
def swapBuffers (t : Thread) (surface : SurfacePtr) (rcSurface : BitVec 32)
    (window : WindowSurface) (dequeue : Option NativeBuffer) : WindowState Thread :=
  let queued := (s.send [.rcFlushWindowColorBuffer rcSurface]).record surface
    [.give window.buffer]
  match dequeue with
  | none => (queued.setWindow surface (some { window with buffer := none })).setError t
      EGL_BAD_ALLOC
  | some buffer =>
      ((queued.record surface [.take buffer]).setWindow surface
        (some { window with buffer := some buffer })).send
        [.rcSetWindowColorBuffer rcSurface buffer.hostHandle]

/-- `eglSwapBuffers`, whose result does not depend on that of `swapBuffers`.  A surface
that is not a window surface has nothing to swap; there is no result for a dead pointer. -/
def eglSwapBuffers (t : Thread) (connects : Bool) (dequeue : Option NativeBuffer)
    (dpy : EGLDisplay) (surface : Option SurfacePtr) : Option (Bool × WindowState Thread) :=
  if dpy ≠ s_display then some (false, s.setError t EGL_BAD_DISPLAY)
  else if s.egl.display.initialized = false then some (false, s.setError t EGL_NOT_INITIALIZED)
  else
    match surface with
    | none => some (false, s.setError t EGL_BAD_SURFACE)
    | some surf =>
        match s.egl.getHostConnection t connects with
        | (false, egl) => some (false, { s with egl := egl })
        | (true, egl) =>
            match egl.surfaces surf with
            | none => none
            | some object =>
                let connected := { s with egl := egl }
                if object.dpy ≠ dpy then some (false, connected.setError t EGL_BAD_DISPLAY)
                else
                  match s.windows surf with
                  | none => some (true, connected)
                  | some window =>
                      some (true, connected.swapBuffers t surf object.rcSurface window dequeue)

/-- `eglDestroySurface`.  Surfaces that are not window surfaces are those of
`EGLState.eglDestroySurface`. -/
def eglDestroySurface (t : Thread) (connects : Bool) (dpy : EGLDisplay)
    (surface : Option SurfacePtr) : Option (Bool × WindowState Thread) :=
  let other := (s.egl.eglDestroySurface t connects dpy surface).map fun result =>
    (result.1, { s with egl := result.2 })
  match surface with
  | none => other
  | some surf =>
      match s.windows surf, s.egl.surfaces surf with
      | some window, some object =>
          if dpy ≠ s_display ∨ s.egl.display.initialized = false ∨ object.dpy ≠ s_display then
            other
          else
            let removed := { s with
              egl := { s.egl with
                display := { s.egl.display with
                  surfaces := s.egl.display.surfaces.erase surf } } }
            some (true, removed.deleteWindow t connects surf object window)
      | _, _ => other

end WindowState

/-! ## Calls as labels -/

/-- One call on window surfaces, with what its environment answers. -/
inductive WindowCall
  | eglCreateWindowSurface (reply : CreateReply) (dpy : EGLDisplay) (config : EGLint)
      (win : Option Nat)
  | eglSwapBuffers (connects : Bool) (dequeue : Option NativeBuffer) (dpy : EGLDisplay)
      (surface : Option SurfacePtr)
  | eglDestroySurface (connects : Bool) (dpy : EGLDisplay) (surface : Option SurfacePtr)

variable {Thread : Type u} [DecidableEq Thread]

/-- The state after a call of a thread, when its behaviour is defined.  Nothing follows a
crash. -/
def runWindowCall (s : WindowState Thread) (label : Thread × WindowCall) :
    Option (WindowState Thread) :=
  if s.crashed then none
  else
    match label.2 with
    | .eglCreateWindowSurface reply dpy config win =>
        some (s.eglCreateWindowSurface label.1 reply dpy config win).2
    | .eglSwapBuffers connects dequeue dpy surface =>
        (s.eglSwapBuffers label.1 connects dequeue dpy surface).map Prod.snd
    | .eglDestroySurface connects dpy surface =>
        (s.eglDestroySurface label.1 connects dpy surface).map Prod.snd

/-- A completed call of a thread; the calls of different threads interleave. -/
def WindowStep (s : WindowState Thread) (label : Thread × WindowCall)
    (s' : WindowState Thread) : Prop :=
  runWindowCall s label = some s'

end EGL
end DeviceAndroVM
