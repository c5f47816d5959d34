import DeviceAndroVM.OpenglCodecCommon.GLClientState

/-!
# Queries of the client arrays

`GLClientState::getState`, `getClientStatePointer` and `getClientStateParameter`.  A query
that dereferences the `NULL` of `getState` has no result.

* `arrayParameters` — the cases of `getClientStateParameter` for the arrays.
* `getClientStateParameter_eq_none_iff` — the query fails for the texture coordinates of a
  unit that is no location, and never else.
* `states_modifyState` — what a call on a location does to all of them.
-/

namespace DeviceAndroVM
namespace OpenglCodecCommon

open OpenGL

/-! ## Parameters -/

abbrev GL_CLIENT_ACTIVE_TEXTURE : GLenum := 0x84E1#32

abbrev GL_VERTEX_ARRAY_SIZE : GLenum := 0x807A#32
abbrev GL_VERTEX_ARRAY_TYPE : GLenum := 0x807B#32
abbrev GL_VERTEX_ARRAY_STRIDE : GLenum := 0x807C#32
abbrev GL_NORMAL_ARRAY_TYPE : GLenum := 0x807E#32
abbrev GL_NORMAL_ARRAY_STRIDE : GLenum := 0x807F#32
abbrev GL_COLOR_ARRAY_SIZE : GLenum := 0x8081#32
abbrev GL_COLOR_ARRAY_TYPE : GLenum := 0x8082#32
abbrev GL_COLOR_ARRAY_STRIDE : GLenum := 0x8083#32
abbrev GL_TEXTURE_COORD_ARRAY_SIZE : GLenum := 0x8088#32
abbrev GL_TEXTURE_COORD_ARRAY_TYPE : GLenum := 0x8089#32
abbrev GL_TEXTURE_COORD_ARRAY_STRIDE : GLenum := 0x808A#32
abbrev GL_POINT_SIZE_ARRAY_TYPE_OES : GLenum := 0x898A#32
abbrev GL_POINT_SIZE_ARRAY_STRIDE_OES : GLenum := 0x898B#32
abbrev GL_MATRIX_INDEX_ARRAY_SIZE_OES : GLenum := 0x8846#32
abbrev GL_MATRIX_INDEX_ARRAY_TYPE_OES : GLenum := 0x8847#32
abbrev GL_MATRIX_INDEX_ARRAY_STRIDE_OES : GLenum := 0x8848#32
abbrev GL_WEIGHT_ARRAY_SIZE_OES : GLenum := 0x86AB#32
abbrev GL_WEIGHT_ARRAY_TYPE_OES : GLenum := 0x86A9#32
abbrev GL_WEIGHT_ARRAY_STRIDE_OES : GLenum := 0x86AA#32

abbrev GL_ARRAY_BUFFER_BINDING : GLenum := 0x8894#32
abbrev GL_ELEMENT_ARRAY_BUFFER_BINDING : GLenum := 0x8895#32
abbrev GL_VERTEX_ARRAY_BUFFER_BINDING : GLenum := 0x8896#32
abbrev GL_NORMAL_ARRAY_BUFFER_BINDING : GLenum := 0x8897#32
abbrev GL_COLOR_ARRAY_BUFFER_BINDING : GLenum := 0x8898#32
abbrev GL_TEXTURE_COORD_ARRAY_BUFFER_BINDING : GLenum := 0x889A#32
abbrev GL_POINT_SIZE_ARRAY_BUFFER_BINDING_OES : GLenum := 0x8B9F#32
abbrev GL_MATRIX_INDEX_ARRAY_BUFFER_BINDING_OES : GLenum := 0x8B9E#32
abbrev GL_WEIGHT_ARRAY_BUFFER_BINDING_OES : GLenum := 0x889E#32

abbrev GL_VERTEX_ARRAY_POINTER : GLenum := 0x808E#32
abbrev GL_NORMAL_ARRAY_POINTER : GLenum := 0x808F#32
abbrev GL_COLOR_ARRAY_POINTER : GLenum := 0x8090#32
abbrev GL_TEXTURE_COORD_ARRAY_POINTER : GLenum := 0x8092#32
abbrev GL_POINT_SIZE_ARRAY_POINTER_OES : GLenum := 0x898C#32
abbrev GL_MATRIX_INDEX_ARRAY_POINTER_OES : GLenum := 0x8849#32
abbrev GL_WEIGHT_ARRAY_POINTER_OES : GLenum := 0x86AC#32

/-- The fields of an attribute that can be queried. -/
inductive AttribField
  | size
  | type
  | stride
  | bufferObject
  deriving DecidableEq

def AttribField.get (attrib : VertexAttribState) : AttribField → GLuint
  | size => attrib.size
  | type => attrib.type
  | stride => attrib.stride
  | bufferObject => attrib.bufferObject

/-- The cases of `getClientStateParameter` that read an attribute, with its location; `none`
is that of the texture coordinates of the active unit. -/
def arrayParameters : List (GLenum × Option Nat × AttribField) :=
  [(GL_VERTEX_ARRAY_SIZE, some VERTEX_LOCATION, .size),
    (GL_VERTEX_ARRAY_TYPE, some VERTEX_LOCATION, .type),
    (GL_VERTEX_ARRAY_STRIDE, some VERTEX_LOCATION, .stride),
    (GL_COLOR_ARRAY_SIZE, some COLOR_LOCATION, .size),
    (GL_COLOR_ARRAY_TYPE, some COLOR_LOCATION, .type),
    (GL_COLOR_ARRAY_STRIDE, some COLOR_LOCATION, .stride),
    (GL_NORMAL_ARRAY_TYPE, some NORMAL_LOCATION, .type),
    (GL_NORMAL_ARRAY_STRIDE, some NORMAL_LOCATION, .stride),
    (GL_TEXTURE_COORD_ARRAY_SIZE, none, .size),
    (GL_TEXTURE_COORD_ARRAY_TYPE, none, .type),
    (GL_TEXTURE_COORD_ARRAY_STRIDE, none, .stride),
    (GL_POINT_SIZE_ARRAY_TYPE_OES, some POINTSIZE_LOCATION, .type),
    (GL_POINT_SIZE_ARRAY_STRIDE_OES, some POINTSIZE_LOCATION, .stride),
    (GL_MATRIX_INDEX_ARRAY_SIZE_OES, some MATRIXINDEX_LOCATION, .size),
    (GL_MATRIX_INDEX_ARRAY_TYPE_OES, some MATRIXINDEX_LOCATION, .type),
    (GL_MATRIX_INDEX_ARRAY_STRIDE_OES, some MATRIXINDEX_LOCATION, .stride),
    (GL_WEIGHT_ARRAY_SIZE_OES, some WEIGHT_LOCATION, .size),
    (GL_WEIGHT_ARRAY_TYPE_OES, some WEIGHT_LOCATION, .type),
    (GL_WEIGHT_ARRAY_STRIDE_OES, some WEIGHT_LOCATION, .stride),
    (GL_VERTEX_ARRAY_BUFFER_BINDING, some VERTEX_LOCATION, .bufferObject),
    (GL_NORMAL_ARRAY_BUFFER_BINDING, some NORMAL_LOCATION, .bufferObject),
    (GL_COLOR_ARRAY_BUFFER_BINDING, some COLOR_LOCATION, .bufferObject),
    (GL_TEXTURE_COORD_ARRAY_BUFFER_BINDING, none, .bufferObject),
    (GL_POINT_SIZE_ARRAY_BUFFER_BINDING_OES, some POINTSIZE_LOCATION, .bufferObject),
    (GL_MATRIX_INDEX_ARRAY_BUFFER_BINDING_OES, some MATRIXINDEX_LOCATION, .bufferObject),
    (GL_WEIGHT_ARRAY_BUFFER_BINDING_OES, some WEIGHT_LOCATION, .bufferObject)]

/-- The cases of `getClientStatePointer`, with the location of the array. -/
def arrayPointers : List (GLenum × Option Nat) :=
  [(GL_VERTEX_ARRAY_POINTER, some VERTEX_LOCATION),
    (GL_NORMAL_ARRAY_POINTER, some NORMAL_LOCATION),
    (GL_COLOR_ARRAY_POINTER, some COLOR_LOCATION),
    (GL_TEXTURE_COORD_ARRAY_POINTER, none),
    (GL_POINT_SIZE_ARRAY_POINTER_OES, some POINTSIZE_LOCATION),
    (GL_MATRIX_INDEX_ARRAY_POINTER_OES, some MATRIXINDEX_LOCATION),
    (GL_WEIGHT_ARRAY_POINTER_OES, some WEIGHT_LOCATION)]

/-- The parameters of the texture coordinates. -/
def texCoordParameters : List GLenum :=
  [GL_TEXTURE_COORD_ARRAY_SIZE, GL_TEXTURE_COORD_ARRAY_TYPE, GL_TEXTURE_COORD_ARRAY_STRIDE,
    GL_TEXTURE_COORD_ARRAY_BUFFER_BINDING]

namespace GLClientState

variable (state : GLClientState)

/-- `GLClientState::validLocation`. -/
def validLocation (location : GLuint) : Bool :=
  0 ≤ location.toInt && location.toInt < state.nLocations

/-- `GLClientState::getState`; `none` is `NULL`. -/
def getState (location : GLuint) : Option VertexAttribState :=
  if state.validLocation location then state.states[location.toNat]? else none

/-- `getActiveTexture() + TEXCOORD0_LOCATION`. -/
def texCoordLocation : GLuint := state.activeTexture + BitVec.ofNat 32 TEXCOORD0_LOCATION

/-- The location that a case names. -/
def arrayLocation : Option Nat → GLuint
  | some location => BitVec.ofNat 32 location
  | none => state.texCoordLocation

/-- `GLClientState::getClientStatePointer`: what is stored in `*params`, if anything. -/
def getClientStatePointer (pname : GLenum) : Option VoidPtr :=
  match arrayPointers.lookup pname with
  | none => none
  | some location => (state.getState (state.arrayLocation location)).map VertexAttribState.data

/-- `GLClientState::getClientStateParameter`: the value, or `none` when the parameter is not
one of the client.  There is no result at all when `NULL` is dereferenced. -/
def getClientStateParameter (param : GLenum) : Option (Option GLuint) :=
  if param = GL_CLIENT_ACTIVE_TEXTURE then some (some (state.activeTexture + GL_TEXTURE0))
  else if param = GL_ARRAY_BUFFER_BINDING then some (some (state.getBuffer GL_ARRAY_BUFFER))
  else if param = GL_ELEMENT_ARRAY_BUFFER_BINDING then
    some (some (state.getBuffer GL_ELEMENT_ARRAY_BUFFER))
  else
    match arrayParameters.lookup param with
    | none => some none
    | some (location, field) =>
        (state.getState (state.arrayLocation location)).map fun attrib => some (field.get attrib)

variable {state} {location : GLuint} {f : VertexAttribState → VertexAttribState}

/-! ## Valid locations -/

/-- A location that is negative as an `int` is not below the number of locations either. -/
theorem validLocation_iff (hlength : state.nLocations ≤ 2 ^ 31) :
    state.validLocation location = true ↔ location.toNat < state.nLocations := by
  unfold validLocation
  rw [Bool.and_eq_true, decide_eq_true_eq, decide_eq_true_eq, BitVec.toInt_eq_toNat_cond]
  have hlt := location.isLt
  split <;> omega

theorem getState_isSome_iff (hlength : state.nLocations ≤ 2 ^ 31) :
    (state.getState location).isSome = true ↔ location.toNat < state.nLocations := by
  unfold getState
  rw [← validLocation_iff hlength]
  by_cases hvalid : state.validLocation location = true
  · have hlt := (validLocation_iff hlength).mp hvalid
    rw [if_pos hvalid, List.getElem?_eq_getElem hlt]
    simp [hvalid]
  · rw [if_neg hvalid]
    simp [hvalid]

/-- A call on a location changes the attribute there, if there is one, and no other. -/
theorem states_modifyState (i : Nat) :
    (state.modifyState location f).states[i]? =
      if i = location.toNat then
        (match state.getState location with
        | some attrib => some (f attrib)
        | none => state.states[i]?)
      else state.states[i]? := by
  unfold modifyState getState validLocation
  by_cases hpos : 0 ≤ location.toInt
  case neg =>
    rw [if_neg hpos]
    simp [hpos]
  have hint : location.toInt = location.toNat := by
    rw [BitVec.toInt_eq_toNat_cond] at hpos ⊢
    have hlt := location.isLt
    split at hpos
    next hlow => rw [if_pos hlow]
    next hhigh => omega
  rw [if_pos hpos]
  show (state.states.modify location.toNat f)[i]? = _
  rw [List.getElem?_modify]
  by_cases hi : i = location.toNat
  case neg => simp [hi, Ne.symm hi]
  subst hi
  rw [if_pos rfl, hint]
  by_cases hvalid : location.toNat < state.nLocations
  · have hattrib : state.states[location.toNat]? = some (state.states[location.toNat]) :=
      List.getElem?_eq_getElem hvalid
    simp [hvalid, hattrib]
  · have hnone : state.states[location.toNat]? = none :=
      List.getElem?_eq_none (Nat.le_of_not_lt hvalid)
    simp [hvalid, hnone]

theorem states_of_getState {attrib : VertexAttribState}
    (h : state.getState location = some attrib) : state.states[location.toNat]? = some attrib := by
  unfold getState at h
  split at h
  · exact h
  · cases h

/-- Nothing changes exactly when the attribute, if there is one, stays as it is. -/
theorem modifyState_unchanged_iff :
    (state.modifyState location f).states = state.states ↔
      ∀ attrib, state.getState location = some attrib → f attrib = attrib := by
  constructor
  · intro hsame attrib hattrib
    have hat : (state.modifyState location f).states[location.toNat]? = _ :=
      states_modifyState location.toNat
    rw [hsame, if_pos rfl, hattrib, states_of_getState hattrib] at hat
    exact (Option.some.inj hat).symm
  · intro hfix
    apply List.ext_getElem?
    intro i
    rw [states_modifyState]
    split
    next hi =>
      subst hi
      cases hattrib : state.getState location with
      | none => rfl
      | some attrib =>
          show some (f attrib) = _
          rw [hfix attrib hattrib, states_of_getState hattrib]
    next => rfl

/-! ## Queries that fail -/

/-- A parameter that is found reads the texture coordinates, or a location of
`StateLocation`. -/
theorem location_of_lookup {param : GLenum} {location : Option Nat} {field : AttribField}
    (h : arrayParameters.lookup param = some (location, field)) :
    (param ∈ texCoordParameters ∧ location = none) ∨
      (param ∉ texCoordParameters ∧ ∃ i, location = some i ∧ i < LAST_LOCATION) := by
  have hmem : (param, location, field) ∈ arrayParameters := by
    obtain ⟨before, after, heq, _⟩ := List.lookup_eq_some_iff.mp h
    rw [heq]
    exact List.mem_append_right _ List.mem_cons_self
  have hall : ∀ entry ∈ arrayParameters,
      (entry.1 ∈ texCoordParameters ∧ entry.2.1 = none) ∨
        (entry.1 ∉ texCoordParameters ∧ ∃ i ∈ entry.2.1, i < LAST_LOCATION) := by
    decide +kernel
  rcases hall _ hmem with htex | ⟨hother, i, hi, hlt⟩
  · exact .inl htex
  · exact .inr ⟨hother, i, hi, hlt⟩

/-- The query dereferences `NULL` for a parameter of the texture coordinates, when the active
unit is no location, and never else. -/
theorem getClientStateParameter_eq_none_iff (hlow : LAST_LOCATION ≤ state.nLocations)
    (hhigh : state.nLocations ≤ 2 ^ 31) (param : GLenum) :
    state.getClientStateParameter param = none ↔
      param ∈ texCoordParameters ∧ state.getState state.texCoordLocation = none := by
  -- the first three cases read no attribute
  have hvalue : ∀ (v : GLuint) (special : GLenum), param = special →
      special ∉ texCoordParameters → (some (some v) = none ↔
        param ∈ texCoordParameters ∧ state.getState state.texCoordLocation = none) := by
    intro v special hparam hspecial
    constructor
    · intro h
      cases h
    · rintro ⟨htex, _⟩
      exact absurd (hparam ▸ htex) hspecial
  unfold getClientStateParameter
  by_cases hactive : param = GL_CLIENT_ACTIVE_TEXTURE
  · rw [if_pos hactive]
    exact hvalue _ _ hactive (by decide)
  rw [if_neg hactive]
  by_cases hvbo : param = GL_ARRAY_BUFFER_BINDING
  · rw [if_pos hvbo]
    exact hvalue _ _ hvbo (by decide)
  rw [if_neg hvbo]
  by_cases hindex : param = GL_ELEMENT_ARRAY_BUFFER_BINDING
  · rw [if_pos hindex]
    exact hvalue _ _ hindex (by decide)
  rw [if_neg hindex]
  cases hlookup : arrayParameters.lookup param with
  | none =>
      have hnot : param ∉ texCoordParameters := by
        have hfound : ∀ tex ∈ texCoordParameters, tex ∈ arrayParameters.map Prod.fst := by
          simp [texCoordParameters, arrayParameters]
        intro htex
        obtain ⟨entry, hentry, hparam⟩ := List.mem_map.mp (hfound param htex)
        have hother := List.lookup_eq_none_iff.mp hlookup entry hentry
        simp [hparam] at hother
      simp [hnot]
  | some found =>
      obtain ⟨location, field⟩ := found
      show Option.map _ (state.getState (state.arrayLocation location)) = none ↔ _
      rw [Option.map_eq_none_iff]
      rcases location_of_lookup hlookup with ⟨htex, rfl⟩ | ⟨hnot, i, rfl, hi⟩
      · simp only [htex, true_and]
        rfl
      · -- the other arrays have a location in any state
        have hsmall : (BitVec.ofNat 32 i).toNat < state.nLocations := by
          rw [BitVec.toNat_ofNat]
          exact Nat.lt_of_le_of_lt (Nat.mod_le _ _) (Nat.lt_of_lt_of_le hi hlow)
        have hsome := (getState_isSome_iff hhigh).mpr hsmall
        constructor
        · intro hnone
          rw [show state.getState (BitVec.ofNat 32 i) = none from hnone] at hsome
          cases hsome
        · rintro ⟨htex, _⟩
          exact absurd htex hnot

end GLClientState

end OpenglCodecCommon
end DeviceAndroVM
