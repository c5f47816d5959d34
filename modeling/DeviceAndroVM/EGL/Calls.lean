import DeviceAndroVM.EGL.Types

/-!
# The context calls of `egl.cpp` and `eglDisplay.cpp`

Each call is a function of the state, the calling thread, its arguments and
the answers of the host.  The result is `none` where the source reads or
deletes an object that is not there (a dead pointer, a NULL interface): the
behaviour is then undefined.

* `eglMakeCurrent`, `eglReleaseThread` — which context a thread has current.
* `eglDestroyContext`, `destroyContext`, `terminate` — the three functions that
  free a context or mark it for deletion.
* `EGLCall`, `EGLCall.run` — the calls as labels of a transition system.
-/

namespace DeviceAndroVM
namespace EGL

universe u

/-- What the environment answers during one call: whether a host connection
can be opened when the thread has none, and the result of `rcMakeCurrent`. -/
structure HostReply where
  connects : Bool
  rcMakeCurrent : EGLint

/-- What `eglDisplay::initialize` gets from the client libraries and the host:
`numConfigs` is present when the version and config queries succeed. -/
structure InitReply where
  gles : Bool
  gles2 : Bool
  connects : Bool
  numConfigs : Option Int

namespace EGLState

variable {Thread : Type u} [DecidableEq Thread]

/-- `setErrorReturn` and `RETURN_ERROR` in a function that returns a boolean. -/
def setErrorReturn (s : EGLState Thread) (t : Thread) (error : EGLint) :
    Bool × EGLState Thread :=
  (false, s.updThread t fun info => { info with eglError := error })

/-- `HostConnection::get`: whether the thread has a connection afterwards. -/
def getHostConnection (s : EGLState Thread) (t : Thread) (connects : Bool) :
    Bool × EGLState Thread :=
  match (s.threads t).hostConn with
  | some _ => (true, s)
  | none =>
      if connects then
        (true, s.updThread t fun info => { info with hostConn := some ⟨fun _ => none⟩ })
      else (false, s)

/-- `VALIDATE_SURFACE_RETURN`: whether the surface belongs to the display. -/
def validateSurface (s : EGLState Thread) : Option SurfacePtr → Option Bool
  | none => some true
  | some surface => (s.surfaces surface).map fun surf => surf.dpy = s_display

/-- `surf ? surf->getRcSurface() : 0`. -/
def surfaceHandle (s : EGLState Thread) (surface : Option SurfacePtr) : BitVec 32 :=
  (surface.bind s.surfaces).elim 0#32 EGLSurface.rcSurface

/-- `delete surface`.  The destructors of both kinds of surface flush the
stream of the thread's connection without asking whether there is one. -/
def deleteSurface (t : Thread) (connects : Bool) (s : EGLState Thread) (surface : SurfacePtr) :
    Option (EGLState Thread) :=
  match s.surfaces surface, s.getHostConnection t connects with
  | some _, (true, s) => some { s with surfaces := Function.update s.surfaces surface none }
  | _, _ => none

/-- `EGLContext_t::~EGLContext_t` and the `delete` around it. -/
def deleteContext (s : EGLState Thread) (c : ContextPtr) (context : EGLContext) :
    EGLState Thread :=
  { s with
    contexts := Function.update s.contexts c none
    clientStates := Function.update s.clientStates context.clientState false
    freed := s.freed ++ [c] }

/-! ## The display -/

/-- `eglDisplay::addContext`. -/
def addContext (s : EGLState Thread) (c : ContextPtr) : EGLState Thread :=
  { s with display := { s.display with contexts := s.display.contexts ++ [c] } }

/-- `eglDisplay::removeContext`: the first entry that is the context. -/
def removeContext (s : EGLState Thread) (c : ContextPtr) : EGLState Thread :=
  { s with display := { s.display with contexts := s.display.contexts.erase c } }

/-- `eglDisplay::initialize`. -/
def initializeDisplay (s : EGLState Thread) (t : Thread) (reply : InitReply) :
    Bool × EGLState Thread :=
  if s.display.initialized then (true, s)
  else if reply.gles = false then (false, s)
  else
    let loaded : ClientApi → Bool
      | .gles => true
      | .gles2 => reply.gles2
    let s := { s with display := { s.display with iface := loaded } }
    match s.getHostConnection t reply.connects with
    | (false, s) => (false, s)
    | (true, s) =>
        match reply.numConfigs with
        | none => (false, s)
        | some numConfigs =>
            if numConfigs ≤ 0 then (false, s)
            else (true, { s with display := { s.display with initialized := true, numConfigs } })

/-! ## Creating objects -/

/-- The part that `eglCreateWindowSurface` and `eglCreatePbufferSurface` share
once their arguments have been checked: the host surface, the object and
`addSurface`.  A half-built surface is deleted again, which needs the
connection. -/
def createSurface (s : EGLState Thread) (t : Thread) (connects : Bool) (rcSurface : BitVec 32) :
    Option (EGLState Thread) :=
  match s.getHostConnection t connects with
  | (false, _) => none
  | (true, s) =>
      if rcSurface = 0#32 then some (s.setErrorReturn t EGL_BAD_ALLOC).2
      else some { s with
        surfaces := Function.update s.surfaces s.nextPtr (some ⟨s_display, rcSurface⟩)
        nextPtr := s.nextPtr + 1
        display := { s.display with surfaces := s.display.surfaces ++ [s.nextPtr] } }

/-- `eglDestroySurface`. -/
def eglDestroySurface (s : EGLState Thread) (t : Thread) (connects : Bool) (dpy : EGLDisplay)
    (surface : Option SurfacePtr) : Option (Bool × EGLState Thread) :=
  if dpy ≠ s_display then some (s.setErrorReturn t EGL_BAD_DISPLAY)
  else if s.display.initialized = false then some (s.setErrorReturn t EGL_NOT_INITIALIZED)
  else
    match s.validateSurface surface, surface with
    | none, _ => none
    | some false, _ => some (s.setErrorReturn t EGL_BAD_DISPLAY)
    | some true, none => some (true, s)
    | some true, some surf =>
        let s := { s with
          display := { s.display with surfaces := s.display.surfaces.erase surf } }
        (s.deleteSurface t connects surf).map (true, ·)

/-- The loop of `eglCreateContext` over its attribute list, which ends at an
attribute 0; `none` when it runs past the last element. -/
def clientVersion (version : EGLint) : List EGLint → Option EGLint
  | [] => none
  | [name] => if name = 0#32 then some version else none
  | name :: value :: rest =>
      if name = 0#32 then some version
      else clientVersion (if name = EGL_CONTEXT_CLIENT_VERSION then value else version) rest

/-- `EGLContext_t::EGLContext_t`, with the version and the host context that
`eglCreateContext` stores next.  The client state and, without a shared
context, the shared group are allocated with it. -/
def constructContext (s : EGLState Thread) (dpy : EGLDisplay) (config version : EGLint)
    (rcContext : BitVec 32) (share : Option (ContextPtr × EGLContext)) : EGLContext where
  flags := 0#32
  dpy := dpy
  config := config
  read := none
  draw := none
  shareCtx := share.map Prod.fst
  version := version
  rcContext := rcContext
  clientState := s.nextPtr + 1
  sharedGroup := share.elim (s.nextPtr + 2) fun shared => shared.2.sharedGroup

/-- `new EGLContext_t(dpy, config, shareCtx)` and `addContext`. -/
def newContext (s : EGLState Thread) (dpy : EGLDisplay) (config version : EGLint)
    (rcContext : BitVec 32) (share : Option (ContextPtr × EGLContext)) : EGLState Thread :=
  let context := s.constructContext dpy config version rcContext share
  { s.setContext s.nextPtr context with
    clientStates := Function.update s.clientStates context.clientState true
    nextPtr := s.nextPtr + 3
    display := { s.display with contexts := s.display.contexts ++ [s.nextPtr] } }

/-- `eglCreateContext`, after the attributes and the shared context have been
read. -/
def createContextShared (s : EGLState Thread) (t : Thread) (connects : Bool)
    (rcContext : BitVec 32) (dpy : EGLDisplay) (config version : EGLint)
    (share : Option (ContextPtr × EGLContext)) : EGLState Thread :=
  match s.getHostConnection t connects with
  | (false, s) => s
  | (true, s) =>
      let s := s.send (.rcCreateContext config
        (share.elim 0#32 fun shared => shared.2.rcContext) version)
      if rcContext = 0#32 then (s.setErrorReturn t EGL_BAD_ALLOC).2
      else s.newContext dpy config version rcContext share

/-- `eglCreateContext`; the new context is the last of the display's list.
`rcContext` is the host's answer to `rcCreateContext`. -/
def eglCreateContext (s : EGLState Thread) (t : Thread) (connects : Bool) (rcContext : BitVec 32)
    (dpy : EGLDisplay) (config : EGLint) (share_context : Option ContextPtr)
    (attrib_list : Option (List EGLint)) : Option (EGLState Thread) :=
  if dpy ≠ s_display then some (s.setErrorReturn t EGL_BAD_DISPLAY).2
  else if s.display.initialized = false then some (s.setErrorReturn t EGL_NOT_INITIALIZED).2
  else if config.toInt < 0 ∨ s.display.numConfigs < config.toInt then
    some (s.setErrorReturn t EGL_BAD_CONFIG).2
  else
    match attrib_list.elim (some 1#32) (clientVersion 1#32) with
    | none => none
    | some version =>
        match share_context with
        | none => some (s.createContextShared t connects rcContext dpy config version none)
        | some c =>
            match s.contexts c with
            | none => none
            | some shareCtx =>
                if shareCtx.dpy ≠ dpy then some (s.setErrorReturn t EGL_BAD_MATCH).2
                else some (s.createContextShared t connects rcContext dpy config version
                  (some (c, shareCtx)))

/-! ## Destroying contexts -/

/-- The common part of `eglDestroyContext` and `destroyContext`.  `unlink` is
what the first of them does to the display's list. -/
def destroyContextWith (unlink : EGLState Thread → ContextPtr → EGLState Thread)
    (s : EGLState Thread) (t : Thread) (connects : Bool) (dpy : EGLDisplay)
    (ctx : Option ContextPtr) : Option (Bool × EGLState Thread) :=
  if dpy ≠ s_display then some (s.setErrorReturn t EGL_BAD_DISPLAY)
  else if s.display.initialized = false then some (s.setErrorReturn t EGL_NOT_INITIALIZED)
  else
    match ctx with
    | none => some (s.setErrorReturn t EGL_BAD_CONTEXT)
    | some c =>
        match s.contexts c with
        | none => none
        | some context =>
            if s.currentContext t = some c then
              -- do not delete immediately current context
              some (true, s.setContext c context.markToDelete)
            else if context.rcContext ≠ 0#32 then
              match s.getHostConnection t connects with
              | (false, s) => some (false, s)
              | (true, s) =>
                  let s := s.send (.rcDestroyContext context.rcContext)
                  some (true, (unlink s c).deleteContext c { context with rcContext := 0#32 })
            else some (true, (unlink s c).deleteContext c context)

/-- `eglDestroyContext`. -/
def eglDestroyContext (s : EGLState Thread) (t : Thread) (connects : Bool) (dpy : EGLDisplay)
    (ctx : Option ContextPtr) : Option (Bool × EGLState Thread) :=
  destroyContextWith removeContext s t connects dpy ctx

/-- `destroyContext`, which `terminate` calls with the display's lock held. -/
def destroyContext (s : EGLState Thread) (t : Thread) (connects : Bool) (dpy : EGLDisplay)
    (ctx : Option ContextPtr) : Option (Bool × EGLState Thread) :=
  destroyContextWith (fun s _ => s) s t connects dpy ctx

/-- The second loop of `eglDisplay::terminate`.  `rest` is the list from the
iterator on and `visited` what stands before it.  The list is a ring through
its end marker, and the loop increments the iterator that `erase` returns:
the element after an erased one is skipped, and past the end the iterator goes
back to the first element. -/
def terminateContexts (t : Thread) (connects : Bool) (s : EGLState Thread)
    (visited : List ContextPtr) :
    List ContextPtr → Option (EGLState Thread)
  | [] => some { s with display := { s.display with contexts := visited } }
  | c :: rest =>
      match s.contexts c with
      | none => none
      | some context =>
          if context.isCurrent then
            -- context is current to a thread
            terminateContexts t connects (s.setContext c context.markToDelete)
              (visited ++ [c]) rest
          else
            match s.destroyContext t connects s_display (some c), rest with
            | none, _ => none
            | some (_, s), [] => terminateContexts t connects s [] visited
            | some (_, s), next :: rest =>
                terminateContexts t connects s (visited ++ [next]) rest
termination_by rest => (visited.length + rest.length, rest.length)
decreasing_by
  all_goals
    simp only [List.length_append, List.length_cons, List.length_nil, Prod.lex_def]
    omega

/-- `eglDisplay::terminate`. -/
def terminate (s : EGLState Thread) (t : Thread) (connects : Bool) :
    Option (EGLState Thread) := do
  -- release surfaces
  let s ← s.display.surfaces.foldlM (deleteSurface t connects) s
  let s := { s with display := { s.display with surfaces := [] } }
  -- release contexts or mark them for deletion
  terminateContexts t connects s [] s.display.contexts

/-- `eglTerminate`. -/
def eglTerminate (s : EGLState Thread) (t : Thread) (connects : Bool) (dpy : EGLDisplay) :
    Option (Bool × EGLState Thread) :=
  if dpy ≠ s_display then some (s.setErrorReturn t EGL_BAD_DISPLAY)
  else if s.display.initialized = false then some (s.setErrorReturn t EGL_NOT_INITIALIZED)
  else (s.terminate t connects).map (true, ·)

/-! ## Making a context current -/

/-- `setClientState` and `setSharedGroup` on the encoder of one API. -/
def setEncoder (s : EGLState Thread) (t : Thread) (api : ClientApi)
    (clientState : Option ClientStatePtr) (sharedGroup : Option SharedGroupPtr) :
    EGLState Thread :=
  s.updThread t fun info => { info with
    hostConn := info.hostConn.map fun hostCon =>
      ⟨Function.update hostCon.encoders api
        (some { hostCon.encoder api with clientState, sharedGroup })⟩ }

/-- "Now make the local bind": the context takes its surfaces and flag and the
encoder of its version is pointed at it; without a context the encoder of the
previous one is released. -/
def bindLocally (s : EGLState Thread) (t : Thread) (draw read : Option SurfacePtr) :
    Option ContextPtr → Option (EGLState Thread)
  | some c =>
      (s.contexts c).map fun context =>
        (s.setContext c (context.bind draw read)).setEncoder t context.api
          (some context.clientState) (some context.sharedGroup)
  | none =>
      ((s.currentContext t).bind s.contexts).map fun previous =>
        s.setEncoder t previous.api none none

/-- `tInfo->currentContext->flags &= ~IS_CURRENT`, if there is one. -/
def releaseCurrent (s : EGLState Thread) (t : Thread) : Option (EGLState Thread) :=
  match s.currentContext t with
  | none => some s
  | some p => (s.contexts p).map fun previous => s.setContext p previous.clearCurrent

/-- `tInfo->currentContext = context`. -/
def setCurrentContext (s : EGLState Thread) (t : Thread) (ctx : Option ContextPtr) :
    EGLState Thread :=
  s.updThread t fun info => { info with currentContext := ctx }

/-- The previous context is deleted if it is marked for deletion. -/
def destroyMarked (s : EGLState Thread) (t : Thread) (connects : Bool) :
    Option ContextPtr → Option (EGLState Thread)
  | none => some s
  | some p =>
      match s.contexts p with
      | none => none
      | some previous =>
          if previous.toDelete then
            (s.eglDestroyContext t connects s_display (some p)).map Prod.snd
          else some s

/-- "Check maybe we need to init the encoder": the first `eglMakeCurrent` of a
version calls `init` of its interface. -/
def initEncoder (s : EGLState Thread) (t : Thread) : Option (EGLState Thread) :=
  match s.currentContext t with
  | none => some s
  | some c =>
      match s.contexts c, (s.threads t).hostConn with
      | some context, some hostCon =>
          let encoder := hostCon.encoder context.api
          if encoder.initialized then some s
          else if s.display.iface context.api then
            some (s.updThread t fun info => { info with
              hostConn := some ⟨Function.update hostCon.encoders context.api
                (some { encoder with initialized := true })⟩ })
          else none
      | _, _ => none

/-- The part of `eglMakeCurrent` after the host has accepted the change. -/
def makeCurrentLocally (s : EGLState Thread) (t : Thread) (connects : Bool)
    (draw read : Option SurfacePtr) (ctx : Option ContextPtr) : Option (EGLState Thread) := do
  let prevCtx := s.currentContext t
  let s ← s.bindLocally t draw read ctx
  let s ← s.releaseCurrent t
  let s ← (s.setCurrentContext t ctx).destroyMarked t connects prevCtx
  s.initEncoder t

/-- The part of `eglMakeCurrent` after `context`, the object behind `ctx`, has
been looked up. -/
def makeCurrentChecked (s : EGLState Thread) (t : Thread) (reply : HostReply)
    (draw read : Option SurfacePtr) (ctx : Option ContextPtr) (context : Option EGLContext) :
    Option (Bool × EGLState Thread) :=
  -- nothing to do if no binding change has been made
  if s.currentContext t = ctx ∧
      context.elim true (fun context => context.draw = draw ∧ context.read = read) then
    some (true, s)
  else if context.elim false EGLContext.isCurrent ∧ ctx ≠ s.currentContext t then
    -- context is current to another thread
    some (s.setErrorReturn t EGL_BAD_ACCESS)
  else
    match s.getHostConnection t reply.connects with
    | (false, s) => some (false, s)
    | (true, s) =>
        let s := s.send (.rcMakeCurrent (context.elim 0#32 EGLContext.rcContext)
          (s.surfaceHandle draw) (s.surfaceHandle read))
        if reply.rcMakeCurrent = EGL_FALSE then some (s.setErrorReturn t EGL_BAD_CONTEXT)
        else (s.makeCurrentLocally t reply.connects draw read ctx).map (true, ·)

/-- The part of `eglMakeCurrent` after the validation of the surfaces. -/
def makeCurrentValidated (s : EGLState Thread) (t : Thread) (reply : HostReply)
    (draw read : Option SurfacePtr) (ctx : Option ContextPtr) :
    Option (Bool × EGLState Thread) :=
  if (read = none ∧ draw = none) ∧ ctx ≠ none then some (s.setErrorReturn t EGL_BAD_MATCH)
  else if (read ≠ none ∨ draw ≠ none) ∧ ctx = none then
    some (s.setErrorReturn t EGL_BAD_MATCH)
  else
    match ctx with
    | none => s.makeCurrentChecked t reply draw read none none
    | some c =>
        match s.contexts c with
        | none => none
        | some context => s.makeCurrentChecked t reply draw read (some c) (some context)

/-- `eglMakeCurrent`. -/
def eglMakeCurrent (s : EGLState Thread) (t : Thread) (reply : HostReply) (dpy : EGLDisplay)
    (draw read : Option SurfacePtr) (ctx : Option ContextPtr) :
    Option (Bool × EGLState Thread) :=
  if dpy ≠ s_display then some (s.setErrorReturn t EGL_BAD_DISPLAY)
  else if s.display.initialized = false then some (s.setErrorReturn t EGL_NOT_INITIALIZED)
  else
    match s.validateSurface draw with
    | none => none
    | some false => some (s.setErrorReturn t EGL_BAD_DISPLAY)
    | some true =>
        match s.validateSurface read with
        | none => none
        | some false => some (s.setErrorReturn t EGL_BAD_DISPLAY)
        | some true => s.makeCurrentValidated t reply draw read ctx

/-- `eglReleaseThread`. -/
def eglReleaseThread (s : EGLState Thread) (t : Thread) (reply : HostReply) :
    Option (Bool × EGLState Thread) :=
  if s.currentContext t ≠ none then s.eglMakeCurrent t reply s_display none none none
  else some (true, s)

end EGLState

/-! ## Calls as labels -/

/-- One call of a client thread, with what its environment answers. -/
inductive EGLCall
  | eglInitialize (dpy : EGLDisplay) (reply : InitReply)
  | createSurface (connects : Bool) (rcSurface : BitVec 32)
  | eglDestroySurface (connects : Bool) (dpy : EGLDisplay) (surface : Option SurfacePtr)
  | eglCreateContext (connects : Bool) (rcContext : BitVec 32) (dpy : EGLDisplay)
      (config : EGLint) (share_context : Option ContextPtr) (attrib_list : Option (List EGLint))
  | eglMakeCurrent (reply : HostReply) (dpy : EGLDisplay) (draw read : Option SurfacePtr)
      (ctx : Option ContextPtr)
  | eglDestroyContext (connects : Bool) (dpy : EGLDisplay) (ctx : Option ContextPtr)
  | eglReleaseThread (reply : HostReply)
  | eglTerminate (connects : Bool) (dpy : EGLDisplay)

variable {Thread : Type u} [DecidableEq Thread]

/-- The state after a call, when its behaviour is defined. -/
def EGLCall.run (t : Thread) (s : EGLState Thread) : EGLCall → Option (EGLState Thread)
  | .eglInitialize dpy reply =>
      if dpy ≠ s_display then some (s.setErrorReturn t EGL_BAD_DISPLAY).2
      else some (s.initializeDisplay t reply).2
  | .createSurface connects rcSurface => s.createSurface t connects rcSurface
  | .eglDestroySurface connects dpy surface =>
      (s.eglDestroySurface t connects dpy surface).map Prod.snd
  | .eglCreateContext connects rcContext dpy config share_context attrib_list =>
      s.eglCreateContext t connects rcContext dpy config share_context attrib_list
  | .eglMakeCurrent reply dpy draw read ctx =>
      (s.eglMakeCurrent t reply dpy draw read ctx).map Prod.snd
  | .eglDestroyContext connects dpy ctx =>
      (s.eglDestroyContext t connects dpy ctx).map Prod.snd
  | .eglReleaseThread reply => (s.eglReleaseThread t reply).map Prod.snd
  | .eglTerminate connects dpy => (s.eglTerminate t connects dpy).map Prod.snd

/-- The call of one thread. -/
def runCall (s : EGLState Thread) (label : Thread × EGLCall) : Option (EGLState Thread) :=
  label.2.run label.1 s

/-- A completed call of a thread; the calls of different threads interleave. -/
def EGLStep (s : EGLState Thread) (label : Thread × EGLCall) (s' : EGLState Thread) : Prop :=
  runCall s label = some s'

end EGL
end DeviceAndroVM
