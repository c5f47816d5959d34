import DeviceAndroVM.OpenglCodecCommon.TextureState

/-!
# `GLClientState`

The client's own copy of the context state (`GLClientState.h`, `GLClientState.cpp`):
the vertex attributes, the buffer bindings and the current program, together with
the texture state of `TextureState`.
-/

namespace DeviceAndroVM
namespace OpenglCodecCommon

open OpenGL

/-- `glSizeof`. -/
def glSizeof (type : GLenum) : GLuint :=
  if type ∈ [GL_BYTE, GL_UNSIGNED_BYTE] then 1#32
  else if type ∈ [GL_SHORT, GL_UNSIGNED_SHORT, GL_HALF_FLOAT_OES] then 2#32
  else if type ∈ [GL_INT, GL_FLOAT, GL_FIXED, GL_BOOL] then 4#32
  else if type ∈ [GL_FLOAT_VEC2, GL_INT_VEC2, GL_BOOL_VEC2] then 8#32
  else if type ∈ [GL_INT_VEC3, GL_BOOL_VEC3, GL_FLOAT_VEC3] then 12#32
  else if type ∈ [GL_FLOAT_VEC4, GL_BOOL_VEC4, GL_INT_VEC4, GL_FLOAT_MAT2] then 16#32
  else if type = GL_FLOAT_MAT3 then 36#32
  else if type = GL_FLOAT_MAT4 then 64#32
  else if type ∈ [GL_SAMPLER_2D, GL_SAMPLER_CUBE] then 4#32
  else 0#32

/-- `GLClientState::VertexAttribState`. -/
structure VertexAttribState where
  enabled : GLint
  size : GLint
  type : GLenum
  stride : GLint
  data : VoidPtr
  bufferObject : GLuint
  elementSize : GLuint
  enableDirty : Bool
  normalized : Bool
  deriving DecidableEq

/-- The fields of `class GLClientState` that the modelled calls use; `states` has
`m_nLocations` entries. -/
structure GLClientState where
  states : List VertexAttribState
  currentArrayVbo : GLuint
  currentIndexVbo : GLuint
  activeTexture : GLint
  currentProgram : GLuint
  tex : TextureState

/-- `CODEC_MAX_VERTEX_ATTRIBUTES`. -/
abbrev CODEC_MAX_VERTEX_ATTRIBUTES : Nat := 64

/-! `GLClientState::StateLocation`. -/

abbrev VERTEX_LOCATION : Nat := 0
abbrev NORMAL_LOCATION : Nat := 1
abbrev COLOR_LOCATION : Nat := 2
abbrev POINTSIZE_LOCATION : Nat := 3
abbrev TEXCOORD0_LOCATION : Nat := 4
abbrev TEXCOORD7_LOCATION : Nat := 11
abbrev MATRIXINDEX_LOCATION : Nat := 12
abbrev WEIGHT_LOCATION : Nat := 13

/-- `LAST_LOCATION`. -/
abbrev LAST_LOCATION : Nat := 14

/-- The `glConst` that the constructor gives a location of `StateLocation`. -/
def glConst (location : Nat) : GLenum :=
  if location = VERTEX_LOCATION then GL_VERTEX_ARRAY
  else if location = NORMAL_LOCATION then GL_NORMAL_ARRAY
  else if location = COLOR_LOCATION then GL_COLOR_ARRAY
  else if location = POINTSIZE_LOCATION then GL_POINT_SIZE_ARRAY_OES
  else if location ≤ TEXCOORD7_LOCATION then GL_TEXTURE_COORD_ARRAY
  else if location = MATRIXINDEX_LOCATION then GL_MATRIX_INDEX_ARRAY_OES
  else GL_WEIGHT_ARRAY_OES

namespace GLClientState

/-- `GLClientState::GLClientState`.  Of the attributes only the enable state is
initialised, the rest is what the allocated `memory` holds. -/
def init (nLocations : Nat) (memory : Nat → VertexAttribState) : GLClientState where
  states := (List.range (max nLocations LAST_LOCATION)).map fun i =>
    { memory i with enabled := 0#32, enableDirty := false }
  currentArrayVbo := 0#32
  currentIndexVbo := 0#32
  activeTexture := 0#32
  currentProgram := 0#32
  tex := TextureState.init

variable (state : GLClientState)

/-- `m_nLocations`. -/
def nLocations : Nat := state.states.length

/-- Change the attribute of a valid location. -/
def modifyState (location : GLuint) (f : VertexAttribState → VertexAttribState) : GLClientState :=
  if 0 ≤ location.toInt then { state with states := state.states.modify location.toNat f }
  else state

/-- `GLClientState::enable`. -/
def enable (location : GLuint) (enabled : GLint) : GLClientState :=
  state.modifyState location fun attrib =>
    { attrib with
      enableDirty := attrib.enableDirty || enabled != attrib.enabled
      enabled := enabled }

/-- `GLClientState::setState`. -/
def setState (location : GLuint) (size : GLint) (type : GLenum) (normalized : Bool)
    (stride : GLint) (data : VoidPtr) : GLClientState :=
  state.modifyState location fun attrib =>
    { attrib with
      size := size
      type := type
      stride := stride
      data := data
      bufferObject := state.currentArrayVbo
      elementSize := glSizeof type * size
      normalized := normalized }

/-- `GLClientState::getStateAndEnableDirty`, for a location of the loop over all of
them: the attribute with its `enableDirty`, which is cleared. -/
def getStateAndEnableDirty (location : Nat) : Option VertexAttribState × GLClientState :=
  (state.states[location]?,
    { state with
      states := state.states.modify location fun attrib => { attrib with enableDirty := false } })

/-- `GLClientState::bindBuffer`. -/
def bindBuffer (target : GLenum) (id : GLuint) : GLClientState :=
  if target = GL_ARRAY_BUFFER then { state with currentArrayVbo := id }
  else if target = GL_ELEMENT_ARRAY_BUFFER then { state with currentIndexVbo := id }
  else state

/-- `GLClientState::getBuffer`; `-1` for any other target. -/
def getBuffer (target : GLenum) : GLuint :=
  if target = GL_ARRAY_BUFFER then state.currentArrayVbo
  else if target = GL_ELEMENT_ARRAY_BUFFER then state.currentIndexVbo
  else -1#32

/-- `GLClientState::setActiveTexture`, the client's active unit. -/
def setActiveTexture (texUnit : GLint) : GLClientState := { state with activeTexture := texUnit }

/-- `GLClientState::getLocation`. -/
def getLocation (loc : GLenum) : GLuint :=
  if loc = GL_VERTEX_ARRAY then BitVec.ofNat 32 VERTEX_LOCATION
  else if loc = GL_NORMAL_ARRAY then BitVec.ofNat 32 NORMAL_LOCATION
  else if loc = GL_COLOR_ARRAY then BitVec.ofNat 32 COLOR_LOCATION
  else if loc = GL_POINT_SIZE_ARRAY_OES then BitVec.ofNat 32 POINTSIZE_LOCATION
  else if loc = GL_TEXTURE_COORD_ARRAY then
    BitVec.ofNat 32 TEXCOORD0_LOCATION + state.activeTexture
  else if loc = GL_MATRIX_INDEX_ARRAY_OES then BitVec.ofNat 32 MATRIXINDEX_LOCATION
  else if loc = GL_WEIGHT_ARRAY_OES then BitVec.ofNat 32 WEIGHT_LOCATION
  else loc

/-- `GLClientState::setCurrentProgram`. -/
def setCurrentProgram (program : GLuint) : GLClientState :=
  { state with currentProgram := program }

end GLClientState

end OpenglCodecCommon
end DeviceAndroVM
