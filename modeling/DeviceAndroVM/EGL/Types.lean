import Mathlib.Logic.Function.Basic
import DeviceAndroVM.Library.MachineWords

/-!
# Objects of the guest EGL library

The records of `eglContext.h`, `eglSurface.h`, `eglDisplay.h`, `ThreadInfo.h`
and `HostConnection.h` that the context calls of `egl.cpp` read and write, and
the state they make up together: the threads, the heap of contexts and
surfaces, the display and the commands sent to the host.

A pointer is the number of the allocation it came from, so a freed object is a
pointer without an entry in its heap and is never allocated again.
-/

namespace DeviceAndroVM
namespace EGL

open Library

universe u

/-- `EGLint`, and the results of the host that are compared with `EGL_FALSE`. -/
abbrev EGLint := BitVec 32

abbrev EGL_FALSE : EGLint := 0#32
abbrev EGL_TRUE : EGLint := 1#32
abbrev EGL_SUCCESS : EGLint := 0x3000#32
abbrev EGL_NOT_INITIALIZED : EGLint := 0x3001#32
abbrev EGL_BAD_ACCESS : EGLint := 0x3002#32
abbrev EGL_BAD_ALLOC : EGLint := 0x3003#32
abbrev EGL_BAD_CONFIG : EGLint := 0x3005#32
abbrev EGL_BAD_CONTEXT : EGLint := 0x3006#32
abbrev EGL_BAD_DISPLAY : EGLint := 0x3008#32
abbrev EGL_BAD_MATCH : EGLint := 0x3009#32
abbrev EGL_CONTEXT_CLIENT_VERSION : EGLint := 0x3098#32

/-- An `EGLDisplay` handle. -/
abbrev EGLDisplay := Nat

/-- `&s_display`, the one and only supported display object. -/
abbrev s_display : EGLDisplay := 1

/-- Addresses of `EGLContext_t` objects; `EGL_NO_CONTEXT` is `none`. -/
abbrev ContextPtr := Nat

/-- Addresses of `egl_surface_t` objects; `EGL_NO_SURFACE` is `none`. -/
abbrev SurfacePtr := Nat

/-- Addresses of `GLClientState` objects. -/
abbrev ClientStatePtr := Nat

/-- Addresses of `GLSharedGroup` objects. -/
abbrev SharedGroupPtr := Nat

/-- The two client APIs, each with its encoder and its interface. -/
inductive ClientApi
  | gles
  | gles2
  deriving DecidableEq

/-! ## Contexts -/

/-- `EGLContext_t`, without the strings that `getGLString` caches. -/
structure EGLContext where
  flags : BitVec 32
  dpy : EGLDisplay
  config : EGLint
  read : Option SurfacePtr
  draw : Option SurfacePtr
  shareCtx : Option ContextPtr
  version : EGLint
  rcContext : BitVec 32
  clientState : ClientStatePtr
  sharedGroup : SharedGroupPtr

namespace EGLContext

/-- `EGLContext_t::IS_CURRENT`. -/
abbrev IS_CURRENT : BitVec 32 := 0x00010000#32

/-- `EGLContext_t::TO_DELETE`. -/
abbrev TO_DELETE : BitVec 32 := 0x00040000#32

/-- `flags & IS_CURRENT`. -/
def isCurrent (context : EGLContext) : Bool := hasFlag context.flags IS_CURRENT

/-- `flags & TO_DELETE`. -/
def toDelete (context : EGLContext) : Bool := hasFlag context.flags TO_DELETE

/-- `flags |= TO_DELETE`. -/
def markToDelete (context : EGLContext) : EGLContext :=
  { context with flags := context.flags ||| TO_DELETE }

/-- `flags &= ~IS_CURRENT`. -/
def clearCurrent (context : EGLContext) : EGLContext :=
  { context with flags := context.flags &&& ~~~IS_CURRENT }

/-- The local bind of `eglMakeCurrent`: the surfaces and `IS_CURRENT`. -/
def bind (context : EGLContext) (draw read : Option SurfacePtr) : EGLContext :=
  { context with draw, read, flags := context.flags ||| IS_CURRENT }

/-- The test `version == 2` that picks the encoder. -/
def api (context : EGLContext) : ClientApi :=
  if context.version = 2#32 then .gles2 else .gles

@[simp] theorem isCurrent_markToDelete (context : EGLContext) :
    context.markToDelete.isCurrent = context.isCurrent :=
  hasFlag_setFlag_of_disjoint (by decide)

@[simp] theorem toDelete_markToDelete (context : EGLContext) :
    context.markToDelete.toDelete = true :=
  hasFlag_setFlag (by decide)

@[simp] theorem isCurrent_clearCurrent (context : EGLContext) :
    context.clearCurrent.isCurrent = false :=
  hasFlag_clearFlag _ _

@[simp] theorem toDelete_clearCurrent (context : EGLContext) :
    context.clearCurrent.toDelete = context.toDelete :=
  hasFlag_clearFlag_of_disjoint (by decide)

@[simp] theorem isCurrent_bind (context : EGLContext) (draw read : Option SurfacePtr) :
    (context.bind draw read).isCurrent = true :=
  hasFlag_setFlag (by decide)

@[simp] theorem toDelete_bind (context : EGLContext) (draw read : Option SurfacePtr) :
    (context.bind draw read).toDelete = context.toDelete :=
  hasFlag_setFlag_of_disjoint (by decide)

/-- What stays when the flags and surfaces of a context change. -/
structure SameObject (context context' : EGLContext) : Prop where
  rcContext : context'.rcContext = context.rcContext
  version : context'.version = context.version
  clientState : context'.clientState = context.clientState
  sharedGroup : context'.sharedGroup = context.sharedGroup

theorem SameObject.api {context context' : EGLContext} (h : context.SameObject context') :
    context'.api = context.api := by
  rw [EGLContext.api, EGLContext.api, h.version]

end EGLContext

/-! ## Surfaces, encoders, threads -/

/-- `egl_surface_t`, as far as the context calls use it. -/
structure EGLSurface where
  dpy : EGLDisplay
  rcSurface : BitVec 32

/-- What `GLEncoder` and `GL2Encoder` hold of the current context; `none` is
`NULL`. -/
structure Encoder where
  clientState : Option ClientStatePtr
  sharedGroup : Option SharedGroupPtr
  initialized : Bool

/-- An encoder as its constructor leaves it. -/
def Encoder.new : Encoder where
  clientState := none
  sharedGroup := none
  initialized := false

/-- `HostConnection`: `m_glEnc` and `m_gl2Enc`, created on first use. -/
structure HostConnection where
  encoders : ClientApi → Option Encoder

/-- `HostConnection::glEncoder` and `HostConnection::gl2Encoder`. -/
def HostConnection.encoder (hostCon : HostConnection) (api : ClientApi) : Encoder :=
  (hostCon.encoders api).getD Encoder.new

/-- `EGLThreadInfo`. -/
structure EGLThreadInfo where
  currentContext : Option ContextPtr
  hostConn : Option HostConnection
  eglError : EGLint

/-- A thread before its first EGL call. -/
def EGLThreadInfo.init : EGLThreadInfo where
  currentContext := none
  hostConn := none
  eglError := EGL_SUCCESS

/-- `eglDisplay`: `m_initialized`, `m_numConfigs`, `m_gles_iface` and
`m_gles2_iface`, `m_contexts` and `m_surfaces`. -/
structure EGLDisplayState where
  initialized : Bool
  numConfigs : Int
  iface : ClientApi → Bool
  contexts : List ContextPtr
  surfaces : List SurfacePtr

/-- The renderControl commands that the context calls send. -/
inductive RcCommand
  | rcCreateContext (config : EGLint) (share : BitVec 32) (version : EGLint)
  | rcDestroyContext (context : BitVec 32)
  | rcMakeCurrent (context drawSurf readSurf : BitVec 32)
  deriving DecidableEq

/-- The guest process: its threads, heaps and display, the commands sent so
far, and the contexts freed so far. -/
structure EGLState (Thread : Type u) where
  threads : Thread → EGLThreadInfo
  contexts : ContextPtr → Option EGLContext
  surfaces : SurfacePtr → Option EGLSurface
  clientStates : ClientStatePtr → Bool
  nextPtr : Nat
  display : EGLDisplayState
  sent : List RcCommand
  freed : List ContextPtr

namespace EGLState

variable {Thread : Type u} [DecidableEq Thread] (s : EGLState Thread)

/-- The process before its first EGL call. -/
def init : EGLState Thread where
  threads := fun _ => EGLThreadInfo.init
  contexts := fun _ => none
  surfaces := fun _ => none
  clientStates := fun _ => false
  nextPtr := 0
  display := ⟨false, 0, fun _ => false, [], []⟩
  sent := []
  freed := []

/-- `tInfo->currentContext` of a thread. -/
def currentContext (t : Thread) : Option ContextPtr := (s.threads t).currentContext

/-- Overwrite the context object at an address. -/
def setContext (c : ContextPtr) (context : EGLContext) : EGLState Thread :=
  { s with contexts := Function.update s.contexts c (some context) }

/-- Change the thread info of one thread. -/
def updThread (t : Thread) (f : EGLThreadInfo → EGLThreadInfo) : EGLState Thread :=
  { s with threads := Function.update s.threads t (f (s.threads t)) }

/-- Send a command to the host. -/
def send (command : RcCommand) : EGLState Thread := { s with sent := s.sent ++ [command] }

end EGLState
end EGL
end DeviceAndroVM
