import DeviceAndroVM.Gralloc.Types

/-!
# The calls of the graphics allocator

`map_buffer`, `gralloc_alloc`, `gralloc_free`, `gralloc_register_buffer` and
`gralloc_unregister_buffer` of `gralloc.cpp`, without the critical sections on the list of
buffers, where no fallback module is loaded.  Every function takes the answers of the kernel
and of the host as arguments and gives its status, the handle it leaves, and its effects in
their order.

* `Effect`, `RcCommand` — what a call does outside its handle.
* `allocBuffer`, `freeBuffer`, `registerBuffer`, `unregisterBuffer` — the calls.
-/

namespace DeviceAndroVM
namespace Gralloc

/-- The commands to the host about a colour buffer. -/
inductive RcCommand
  | rcCreateColorBuffer (hostHandle : CInt)
  | rcOpenColorBuffer (hostHandle : CInt)
  | rcCloseColorBuffer (hostHandle : CInt)
  deriving DecidableEq

/-- What a call does to the resources of the process and at the host.  A creation counts only
when the host gave a handle. -/
inductive Effect
  | newHandle
  | deleteHandle
  | openRegion (fd : CInt)
  | close (fd : CInt)
  | mmap (address size : CInt)
  | munmap (address size : CInt)
  | command (c : RcCommand)
  deriving DecidableEq

/-- A value of `errno` after an error. -/
abbrev Errno := { code : CInt // code ≠ 0#32 }

/-- The status of a call, the handle as the call leaves it, and the effects. -/
structure Outcome where
  status : CInt
  cb : Option CbHandle
  effects : List Effect
  deriving DecidableEq

/-- `map_buffer`: the status, and the handle; `mmap` is the answer of the kernel. -/
def mapBuffer (cb : CbHandle) (mmap : Except Errno CInt) (pid : CInt) :
    CInt × CbHandle × List Effect :=
  if cb.fd.toInt < 0 ∨ cb.ashmemSize.toInt ≤ 0 then (-EINVAL, cb, [])
  else
    match mmap with
    | .error errno => (-errno.val, cb, [])
    | .ok addr =>
        (0#32, { cb with ashmemBase := addr, ashmemBasePid := pid }, [.mmap addr cb.ashmemSize])

/-- The answers to `gralloc_alloc`: of `ashmem_create_region`, of `mmap`, whether there is a
connection with an encoder, and of `rcCreateColorBuffer`. -/
structure AllocReply where
  region : Except Errno { fd : CInt // 0 ≤ fd.toInt }
  mmap : Except Errno CInt
  connected : Bool
  colorBuffer : CInt
  pid : CInt

/-- The `rcCreateColorBuffer` of `gralloc_alloc`: the handle, zero if there is none. -/
def createColorBuffer (reply : AllocReply) : CInt × List Effect :=
  if reply.connected then
    (reply.colorBuffer, if reply.colorBuffer = 0#32 then []
      else [.command (.rcCreateColorBuffer reply.colorBuffer)])
  else (0#32, [])

/-- `gralloc_alloc` behind the creation of the handle, up to the critical section. -/
def allocHost (r : AllocRequest) (reply : AllocReply) (fd : CInt) (cb : CbHandle)
    (effects : List Effect) : Outcome :=
  if r.wantsHost then
    let (hostHandle, created) := createColorBuffer reply
    if hostHandle = 0#32 then ⟨- EIO, none, effects ++ [.close fd, .deleteHandle]⟩
    else ⟨0#32, some { cb with hostHandle }, effects ++ created⟩
  else ⟨0#32, some cb, effects⟩

/-- The handle of a request, before anything is mapped or made for it. -/
def newCbHandle (r : AllocRequest) (plan : Plan) (fd : CInt) : CbHandle where
  fd := fd
  usage := r.usage
  width := r.w
  height := r.h
  frameworkFormat := r.format
  format := plan.format
  glFormat := plan.info.glFormat
  glType := plan.info.glType
  ashmemSize := plan.areaSize
  ashmemBase := 0#32
  ashmemBasePid := 0#32
  mappedPid := 0#32
  hostHandle := 0#32

/-- `gralloc_alloc` with a region of the kernel, or with `fd` -1 for none. -/
def allocMapped (r : AllocRequest) (plan : Plan) (reply : AllocReply) (fd : CInt)
    (effects : List Effect) : Outcome :=
  let cb := newCbHandle r plan fd
  let effects := effects ++ [.newHandle]
  if positive plan.areaSize then
    let (err, cb, mapped) := mapBuffer cb reply.mmap reply.pid
    if err ≠ 0#32 then ⟨err, none, effects ++ mapped ++ [.close fd, .deleteHandle]⟩
    else allocHost r reply fd cb (effects ++ mapped)
  else allocHost r reply fd cb effects

/-- `gralloc_alloc` up to the critical section: it returns an error, or goes on to insert the
handle. -/
def allocBuffer (r : AllocRequest) (reply : AllocReply) : Outcome :=
  match r.plan with
  | none => ⟨-EINVAL, none, []⟩
  | some plan =>
      if positive plan.ashmem_size then
        match reply.region with
        | .error errno => ⟨-errno.val, none, []⟩
        | .ok fd => allocMapped r plan reply fd.val [.openRegion fd.val]
      else allocMapped r plan reply (-1) []

/-- `gralloc_free` up to the critical section, behind which the handle is deleted: it stays
only when there is no connection to the host. -/
def freeBuffer (cb : CbHandle) (connected : Bool) : Outcome :=
  let unmapped :=
    if 0 < cb.fd.toInt then
      (if 0 < cb.ashmemSize.toInt ∧ cb.ashmemBase ≠ 0#32 then
        [Effect.munmap cb.ashmemBase cb.ashmemSize] else []) ++ [.close cb.fd]
    else []
  if cb.hostHandle ≠ 0#32 then
    if connected then
      let closing := [Effect.command (.rcCloseColorBuffer cb.hostHandle)] ++
        -- against the leak of buffers that SurfaceFlinger allocated
        (if has cb.usage GRALLOC_USAGE_HW_COMPOSER then
          [.command (.rcCloseColorBuffer cb.hostHandle)] else [])
      ⟨0#32, none, closing ++ unmapped⟩
    else ⟨- EIO, some cb, []⟩
  else ⟨0#32, none, unmapped⟩

/-- `gralloc_register_buffer` of a valid handle in the process `pid`. -/
def registerBuffer (cb : CbHandle) (connected : Bool) (mmap : Except Errno CInt) (pid : CInt) :
    Outcome :=
  if cb.hostHandle ≠ 0#32 ∧ !connected then ⟨- EIO, some cb, []⟩
  else
    let opening := if cb.hostHandle ≠ 0#32 then
      [Effect.command (.rcOpenColorBuffer cb.hostHandle)] else []
    if positive cb.ashmemSize ∧ cb.mappedPid ≠ pid then
      let (err, cb, mapped) := mapBuffer cb mmap pid
      if err ≠ 0#32 then ⟨-err, some cb, opening ++ mapped⟩
      else ⟨0#32, some { cb with mappedPid := pid }, opening ++ mapped⟩
    else ⟨0#32, some cb, opening⟩

/-- `gralloc_unregister_buffer` of a valid handle; `unmapped` is the answer of `munmap`. -/
def unregisterBuffer (cb : CbHandle) (connected unmapped : Bool) (pid : CInt) : Outcome :=
  if cb.hostHandle ≠ 0#32 ∧ !connected then ⟨- EIO, some cb, []⟩
  else
    let closing := if cb.hostHandle ≠ 0#32 then
      [Effect.command (.rcCloseColorBuffer cb.hostHandle)] else []
    if positive cb.ashmemSize ∧ cb.mappedPid = pid then
      if unmapped then
        ⟨0#32, some { cb with ashmemBase := 0#32, mappedPid := 0#32 },
          closing ++ [.munmap cb.ashmemBase cb.ashmemSize]⟩
      else ⟨-EINVAL, some cb, closing⟩
    else ⟨0#32, some cb, closing⟩

end Gralloc
end DeviceAndroVM
