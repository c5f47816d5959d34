import Mathlib.Data.List.AList
import DeviceAndroVM.Library.ByteBlock
import DeviceAndroVM.Library.CString
import DeviceAndroVM.OpenglCodecCommon.ProgramData

/-!
# `GLSharedGroup`

The records shared by the contexts of one share group, by value: the contents of
the buffer objects, the uniform tables of the programs, and the reference-counted
shader records (`GLSharedGroup.cpp`).  Every method takes the lock for its whole
body, so each is one function of the group.

* `BufferData`, `ShaderData` — the records; programs are in `ProgramData`.
* `updateBufferData`, `subUpdateBufferData`, `deleteBufferData` — shadow copies of
  the buffer contents.
* `attachShader`, `detachShader`, `addShaderData`, `unrefShaderData` — the
  operations that count references.

Allocation is assumed to succeed, as everywhere in this development.
-/

namespace DeviceAndroVM
namespace OpenglCodecCommon

open OpenGL Library

/-- `android::DefaultKeyedVector<GLuint, T*>`: at most one value for each name,
`add` replaces the value of a name that is present. -/
abbrev ObjectMap (T : Type) := AList fun _ : GLuint => T

/-- `android::String8`. -/
abbrev String8 := List UInt8

/-- `struct BufferData`, with the bytes of its `FixedBuffer`. -/
structure BufferData where
  size : GLint
  bytes : ByteBlock
  deriving DecidableEq

/-- `struct ShaderData`.  Every counted reference but one belongs to a live
program with a record of its own, so the `int` counter cannot reach `2 ^ 31` on a
32-bit target and is kept as an integer. -/
structure ShaderData where
  samplerExternalNames : List String8
  refcount : Int
  deriving DecidableEq

/-- `class GLSharedGroup`. -/
@[ext] structure GLSharedGroup where
  buffers : ObjectMap BufferData
  programs : ObjectMap ProgramData
  shaders : ObjectMap ShaderData

namespace BufferData

/-- `BufferData::BufferData(GLsizeiptr, void *)`; the callers pass a non-negative
size. -/
def ofData (size : GLint) (data : DataPtr) : BufferData where
  size := size
  bytes := ByteBlock.ofMemory size.toInt.toNat data

/-- The test of `subUpdateBufferData`, in the wrapping arithmetic of the target. -/
def subUpdateAccepts (buf : BufferData) (offset size : GLint) : Bool :=
  !(buf.size.slt (offset + size) || offset.slt 0#32 || size.slt 0#32)

/-- The record after an accepted `subUpdateBufferData`: the bytes of the `memcpy` that
lie inside the allocation. -/
def subUpdated (buf : BufferData) (offset size : GLint) (data : Nat → UInt8) : BufferData :=
  { buf with bytes := buf.bytes.overwrite offset.toInt.toNat size.toInt.toNat data }

end BufferData

namespace GLSharedGroup

/-- `GLSharedGroup::GLSharedGroup`. -/
def init : GLSharedGroup where
  buffers := ∅
  programs := ∅
  shaders := ∅

variable (shared : GLSharedGroup)

/-! ## Buffers -/

/-- `GLSharedGroup::getBufferData`. -/
def getBufferData (bufferId : GLuint) : Option BufferData := shared.buffers.lookup bufferId

/-- `GLSharedGroup::addBufferData` and `updateBufferData`, which leave the same
records. -/
def updateBufferData (bufferId : GLuint) (size : GLint) (data : DataPtr) : GLSharedGroup :=
  { shared with buffers := shared.buffers.insert bufferId (BufferData.ofData size data) }

/-- `GLSharedGroup::subUpdateBufferData`. -/
def subUpdateBufferData (bufferId : GLuint) (offset size : GLint) (data : Nat → UInt8) :
    GLenum × GLSharedGroup :=
  match shared.buffers.lookup bufferId with
  | none => (GL_INVALID_VALUE, shared)
  | some buf =>
      if !buf.subUpdateAccepts offset size then (GL_INVALID_VALUE, shared)
      else
        (GL_NO_ERROR,
          { shared with
            buffers := shared.buffers.insert bufferId (buf.subUpdated offset size data) })

/-- `GLSharedGroup::deleteBufferData`. -/
def deleteBufferData (bufferId : GLuint) : GLSharedGroup :=
  { shared with buffers := shared.buffers.erase bufferId }

/-! ## Programs -/

/-- `m_programs.valueFor(program)` followed by a method that changes the record. -/
def modifyProgram (program : GLuint) (f : ProgramData → ProgramData) : GLSharedGroup :=
  match shared.programs.lookup program with
  | none => shared
  | some data => { shared with programs := shared.programs.insert program (f data) }

/-- `GLSharedGroup::isProgram`. -/
def isProgram (program : GLuint) : Bool := (shared.programs.lookup program).isSome

/-- `GLSharedGroup::isProgramInitialized`. -/
def isProgramInitialized (program : GLuint) : Bool :=
  match shared.programs.lookup program with
  | some data => data.initialized
  | none => false

/-- `GLSharedGroup::addProgramData`: an old record of that name is replaced. -/
def addProgramData (program : GLuint) : GLSharedGroup :=
  { shared with programs := shared.programs.insert program ProgramData.init }

/-- `GLSharedGroup::initProgramData`. -/
def initProgramData (program numIndexes : GLuint) (memory : Nat → IndexInfo) : GLSharedGroup :=
  shared.modifyProgram program fun data => data.initProgramData numIndexes memory

/-- `GLSharedGroup::deleteProgramData`. -/
def deleteProgramData (program : GLuint) : GLSharedGroup :=
  { shared with programs := shared.programs.erase program }

/-- Some attached shader declared the uniform `name` as an external sampler. -/
def declaresSamplerExternal (data : ProgramData) (name : String8) : Bool :=
  data.shaders.any fun shader =>
    match shared.shaders.lookup shader with
    | some record => decide (name ∈ record.samplerExternalNames)
    | none => false

/-- `GLSharedGroup::setProgramIndexInfo`. -/
def setProgramIndexInfo (program index : GLuint) (base size : GLint) (type : GLenum)
    (name : String8) : GLSharedGroup :=
  shared.modifyProgram program fun data =>
    let filled := data.setIndexInfo index base size type
    if type == GL_SAMPLER_2D && shared.declaresSamplerExternal data name then
      filled.setIndexFlags index INDEX_FLAG_SAMPLER_EXTERNAL
    else filled

/-- `GLSharedGroup::getProgramUniformType`. -/
def getProgramUniformType (program : GLuint) (location : GLint) : GLenum :=
  match shared.programs.lookup program with
  | some data => data.getTypeForLocation location
  | none => 0#32

/-- `GLSharedGroup::setupLocationShiftWAR`. -/
def setupLocationShiftWAR (program : GLuint) : GLSharedGroup :=
  shared.modifyProgram program ProgramData.setupLocationShiftWAR

/-- `GLSharedGroup::locationWARHostToApp`. -/
def locationWARHostToApp (program : GLuint) (hostLoc arrIndex : GLint) : GLint × GLSharedGroup :=
  match shared.programs.lookup program with
  | some data =>
      let result := data.locationWARHostToApp hostLoc arrIndex
      (result.1, { shared with programs := shared.programs.insert program result.2 })
  | none => (hostLoc, shared)

/-- `GLSharedGroup::locationWARAppToHost`. -/
def locationWARAppToHost (program : GLuint) (appLoc : GLint) : GLint :=
  match shared.programs.lookup program with
  | some data => data.locationWARAppToHost appLoc
  | none => appLoc

/-- `GLSharedGroup::needUniformLocationWAR`. -/
def needUniformLocationWAR (program : GLuint) : Bool :=
  match shared.programs.lookup program with
  | some data => data.locShiftWAR
  | none => false

/-- `GLSharedGroup::getNextSamplerUniform`. -/
def getNextSamplerUniform (program : GLuint) (index : Int) : Option (Nat × GLint × GLenum) :=
  match shared.programs.lookup program with
  | some data => data.getNextSamplerUniform index
  | none => none

/-- `GLSharedGroup::setSamplerUniform`. -/
def setSamplerUniform (program : GLuint) (appLoc val : GLint) : Option GLenum × GLSharedGroup :=
  match shared.programs.lookup program with
  | some data =>
      let result := data.setSamplerUniform appLoc val
      (result.1, { shared with programs := shared.programs.insert program result.2 })
  | none => (none, shared)

/-! ## Shaders -/

/-- `GLSharedGroup::addShaderData`: a record of that name is replaced. -/
def addShaderData (shader : GLuint) : GLSharedGroup :=
  { shared with
    shaders := shared.shaders.insert shader { samplerExternalNames := [], refcount := 1 } }

/-- `GLSharedGroup::getShaderData`. -/
def getShaderData (shader : GLuint) : Option ShaderData := shared.shaders.lookup shader

/-- `GLSharedGroup::refShaderDataLocked`, for the record of `shader`. -/
def refShaderDataLocked (shader : GLuint) (data : ShaderData) : GLSharedGroup :=
  { shared with
    shaders := shared.shaders.insert shader { data with refcount := data.refcount + 1 } }

/-- `GLSharedGroup::unrefShaderDataLocked`, for the record of `shader`: the record
is deleted when the counter reaches 0. -/
def unrefShaderDataLocked (shader : GLuint) (data : ShaderData) : GLSharedGroup :=
  if data.refcount - 1 = 0 then { shared with shaders := shared.shaders.erase shader }
  else
    { shared with
      shaders := shared.shaders.insert shader { data with refcount := data.refcount - 1 } }

/-- `GLSharedGroup::unrefShaderData`. -/
def unrefShaderData (shader : GLuint) : GLSharedGroup :=
  match shared.shaders.lookup shader with
  | some data => shared.unrefShaderDataLocked shader data
  | none => shared

/-- `GLSharedGroup::attachShader`. -/
def attachShader (program shader : GLuint) : GLSharedGroup :=
  match shared.programs.lookup program, shared.shaders.lookup shader with
  | some programData, some data =>
      let attached := programData.attachShader shader
      let group := { shared with programs := shared.programs.insert program attached.2 }
      if attached.1 then group.refShaderDataLocked shader data else group
  | _, _ => shared

/-- `GLSharedGroup::detachShader`. -/
def detachShader (program shader : GLuint) : GLSharedGroup :=
  match shared.programs.lookup program, shared.shaders.lookup shader with
  | some programData, some data =>
      let detached := programData.detachShader shader
      let group := { shared with programs := shared.programs.insert program detached.2 }
      if detached.1 then group.unrefShaderDataLocked shader data else group
  | _, _ => shared

end GLSharedGroup

end OpenglCodecCommon
end DeviceAndroVM
