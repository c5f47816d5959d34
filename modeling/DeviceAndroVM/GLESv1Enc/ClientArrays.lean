import DeviceAndroVM.GLESv1Enc.ArrayEnables
import DeviceAndroVM.OpenglCodecCommon.ClientStateQueries

/-!
# Which client arrays a call concerns

`GLEncoder` adds the unit of `glClientActiveTexture` to the first location of the texture
coordinates, and takes an enum that it does not know for a location.

* `runQuery` — the queries of the client state; `none` where `NULL` is dereferenced.
* `Framed` — a call on texture coordinates stays within their locations, an unknown array is
  ignored, and a query is answered.
* `Fits` — the unit and the enum stay off the locations of other arrays.
* `eachStep_framed_iff` — a run is `Framed` just when all its calls are `Fits`.
-/

namespace DeviceAndroVM
namespace GLESv1Enc

open OpenGL Library OpenglCodecCommon GLEncoder

variable {ctx ctx' : Encoder} {state : GLClientState}

/-- What a query brings: a value of the client, nothing, or the answer of the host. -/
inductive Reply
  | value (v : GLuint)
  | nothing
  | host
  deriving DecidableEq

namespace GLEncoder

/-- `GLEncoder::s_glIsEnabled`. -/
def s_glIsEnabled (ctx : Encoder) (cap : GLenum) : Option Reply :=
  match ctx.state.getState (ctx.state.getLocation cap) with
  | some attrib => some (.value attrib.enabled)
  | none => some .host

/-- `GLEncoder::s_glGetPointerv`. -/
def s_glGetPointerv (ctx : Encoder) (param : GLenum) : Option Reply :=
  match ctx.state.getClientStatePointer param with
  | some data => some (.value data)
  | none => some .nothing

/-- The default case of `s_glGetIntegerv`, `s_glGetFloatv`, `s_glGetFixedv` and
`s_glGetBooleanv`; the value is then converted. -/
def s_glGetv (ctx : Encoder) (param : GLenum) : Option Reply :=
  match ctx.state.getClientStateParameter param with
  | none => none
  | some (some v) => some (.value v)
  | some none => some .host

end GLEncoder

inductive Query
  | glIsEnabled (cap : GLenum)
  | glGetPointerv (param : GLenum)
  | glGetv (param : GLenum)

def runQuery (ctx : Encoder) : Query → Option Reply
  | .glIsEnabled cap => s_glIsEnabled ctx cap
  | .glGetPointerv param => s_glGetPointerv ctx param
  | .glGetv param => s_glGetv ctx param

/-- The calls on the client arrays and the queries of their state. -/
inductive ClientCall
  | array (call : GLArrayCall)
  | query (query : Query)

/-- The encoder after one call; a query leaves it as it is. -/
def runClientCall (ctx : Encoder) : ClientCall → Option Encoder
  | .array call => runArrayCall ctx call
  | .query _ => some ctx

/-- The enum names a client array. -/
def namesArray (array : GLenum) : Bool :=
  array ∈ [GL_VERTEX_ARRAY, GL_NORMAL_ARRAY, GL_COLOR_ARRAY, GL_POINT_SIZE_ARRAY_OES,
    GL_TEXTURE_COORD_ARRAY, GL_MATRIX_INDEX_ARRAY_OES, GL_WEIGHT_ARRAY_OES]

/-! ## The property -/

/-- At most one location has changed, and it belongs to a texture unit. -/
def TexCoordFrame (state state' : GLClientState) : Prop :=
  ∃ j, isTexCoord j = true ∧ ∀ i, i ≠ j → state'.states[i]? = state.states[i]?

/-- What an enable or a disable with the enum may change. -/
def EnableFrame (array : GLenum) (state state' : GLClientState) : Prop :=
  (array = GL_TEXTURE_COORD_ARRAY → TexCoordFrame state state') ∧
    (namesArray array = false → state'.states = state.states)

/-- The call changes no location that it may not change, and a query is answered. -/
def Framed (ctx : Encoder) (call : ClientCall) (ctx' : Encoder) : Prop :=
  match call with
  | .array (.glClientActiveTexture _) => TexCoordFrame ctx.state ctx'.state
  | .array (.glTexCoordPointer ..) => TexCoordFrame ctx.state ctx'.state
  | .array (.glEnableClientState array) => EnableFrame array ctx.state ctx'.state
  | .array (.glDisableClientState array) => EnableFrame array ctx.state ctx'.state
  | .array _ => True
  | .query query => runQuery ctx query ≠ none

/-! ## The condition -/

/-- The location of the texture coordinates belongs to a texture unit or is none at all, or
what is there stays as it is. -/
def UnitFits (state : GLClientState) (same : VertexAttribState → Prop) : Prop :=
  ∀ attrib ∈ state.getState state.texCoordLocation,
    isTexCoord state.texCoordLocation.toNat = true ∨ same attrib

/-- The attribute has been set to these values before. -/
def HasPointer (state : GLClientState) (size : GLint) (type : GLenum) (stride : GLint)
    (data : VoidPtr) (attrib : VertexAttribState) : Prop :=
  attrib.size = size ∧ attrib.type = type ∧ attrib.stride = stride ∧ attrib.data = data ∧
    attrib.bufferObject = state.currentArrayVbo ∧ attrib.elementSize = glSizeof type * size ∧
    attrib.normalized = false

instance (state : GLClientState) (size : GLint) (type : GLenum) (stride : GLint) (data : VoidPtr)
    (attrib : VertexAttribState) : Decidable (HasPointer state size type stride data attrib) := by
  unfold HasPointer
  infer_instance

/-- An unknown enum is no location, or one that is enabled or disabled already. -/
def EnableFits (array : GLenum) (enabled : GLint) (state : GLClientState) : Prop :=
  (array = GL_TEXTURE_COORD_ARRAY → UnitFits state fun attrib => attrib.enabled = enabled) ∧
    (namesArray array = false → ∀ attrib ∈ state.getState array, attrib.enabled = enabled)

/-- The unit and the enum stay off the locations of other arrays, and the texture coordinates
that are queried have a location. -/
def Fits (ctx : Encoder) (call : ClientCall) : Prop :=
  match call with
  | .array (.glTexCoordPointer size type stride data) =>
      UnitFits ctx.state (HasPointer ctx.state size type stride data)
  | .array (.glEnableClientState array) => EnableFits array 1#32 ctx.state
  | .array (.glDisableClientState array) => EnableFits array 0#32 ctx.state
  | .array _ => True
  | .query (.glGetv param) =>
      param ∈ texCoordParameters → ctx.state.getState ctx.state.texCoordLocation ≠ none
  | .query _ => True

instance (state : GLClientState) (same : VertexAttribState → Prop) [DecidablePred same] :
    Decidable (UnitFits state same) := by
  unfold UnitFits
  infer_instance

instance (array : GLenum) (enabled : GLint) (state : GLClientState) :
    Decidable (EnableFits array enabled state) := by
  unfold EnableFits
  infer_instance

instance (ctx : Encoder) (call : ClientCall) : Decidable (Fits ctx call) := by
  unfold Fits
  split <;> infer_instance

/-! ## One call -/

theorem texCoordFrame_refl : TexCoordFrame state state :=
  ⟨TEXCOORD0_LOCATION, by decide, fun _ _ => rfl⟩

/-- A call on a location keeps to the texture coordinates exactly when the location does, or
nothing changes there. -/
theorem texCoordFrame_modifyState_iff {location : GLuint}
    {f : VertexAttribState → VertexAttribState} :
    TexCoordFrame state (state.modifyState location f) ↔
      ∀ attrib ∈ state.getState location,
        isTexCoord location.toNat = true ∨ f attrib = attrib := by
  constructor
  · rintro ⟨j, hj, hframe⟩ attrib hattrib
    by_cases hlocation : location.toNat = j
    · left
      rw [hlocation]
      exact hj
    · -- the location is none of the texture coordinates, so it has not changed
      right
      have hsame : (state.modifyState location f).states = state.states := by
        apply List.ext_getElem?
        intro i
        by_cases hi : i = j
        · rw [GLClientState.states_modifyState, if_neg (fun h => hlocation (h.symm.trans hi))]
        · exact hframe i hi
      exact GLClientState.modifyState_unchanged_iff.mp hsame attrib hattrib
  · intro hfits
    by_cases htex : isTexCoord location.toNat = true
    · refine ⟨location.toNat, htex, fun i hi => ?_⟩
      rw [GLClientState.states_modifyState, if_neg hi]
    · have hsame : (state.modifyState location f).states = state.states := by
        apply GLClientState.modifyState_unchanged_iff.mpr
        intro attrib hattrib
        exact (hfits attrib hattrib).resolve_left htex
      refine ⟨TEXCOORD0_LOCATION, by decide, fun i _ => ?_⟩
      rw [hsame]

/-- An enable changes nothing when the array is enabled or disabled already. -/
theorem enable_unchanged_iff {attrib : VertexAttribState} {enabled : GLint} :
    { attrib with
      enableDirty := attrib.enableDirty || enabled != attrib.enabled
      enabled := enabled } = attrib ↔ attrib.enabled = enabled := by
  constructor
  · intro h
    exact (congrArg VertexAttribState.enabled h).symm
  · intro h
    subst h
    simp

/-- A pointer changes nothing when it has been set before. -/
theorem setState_unchanged_iff {attrib : VertexAttribState} {size : GLint} {type : GLenum}
    {stride : GLint} {data : VoidPtr} :
    { attrib with
      size := size
      type := type
      stride := stride
      data := data
      bufferObject := state.currentArrayVbo
      elementSize := glSizeof type * size
      normalized := false } = attrib ↔ HasPointer state size type stride data attrib := by
  constructor
  · intro h
    unfold HasPointer
    rw [← h]
    exact ⟨rfl, rfl, rfl, rfl, rfl, rfl, rfl⟩
  · rintro ⟨rfl, rfl, rfl, rfl, hvbo, hsize, hnormalized⟩
    rw [← hvbo, ← hsize, ← hnormalized]

theorem getLocation_texCoord : state.getLocation GL_TEXTURE_COORD_ARRAY = state.texCoordLocation := by
  have hlocation : state.getLocation GL_TEXTURE_COORD_ARRAY =
      BitVec.ofNat 32 TEXCOORD0_LOCATION + state.activeTexture := by
    unfold GLClientState.getLocation
    rw [if_neg (by decide), if_neg (by decide), if_neg (by decide), if_neg (by decide), if_pos rfl]
  rw [hlocation, BitVec.add_comm]
  rfl

/-- An enum that names no array is the location. -/
theorem getLocation_of_not_namesArray {array : GLenum} (h : namesArray array = false) :
    state.getLocation array = array := by
  simp only [namesArray, List.mem_cons, List.not_mem_nil, or_false, decide_eq_false_iff_not,
    not_or] at h
  obtain ⟨hvertex, hnormal, hcolor, hpoint, htex, hmatrix, hweight⟩ := h
  unfold GLClientState.getLocation
  simp [hvertex, hnormal, hcolor, hpoint, htex, hmatrix, hweight]

/-- `s_glEnableClientState` and `s_glDisableClientState`. -/
theorem enableFrame_iff {array : GLenum} {enabled : GLint} :
    EnableFrame array state (state.enable (state.getLocation array) enabled) ↔
      EnableFits array enabled state := by
  unfold EnableFrame EnableFits UnitFits GLClientState.enable
  constructor
  · rintro ⟨htex, hunknown⟩
    constructor
    · rintro rfl attrib hattrib
      have hframe := texCoordFrame_modifyState_iff.mp (htex rfl)
      rw [getLocation_texCoord] at hframe
      exact (hframe attrib hattrib).imp_right enable_unchanged_iff.mp
    · intro hnone attrib hattrib
      have hsame := hunknown hnone
      rw [getLocation_of_not_namesArray hnone] at hsame
      exact enable_unchanged_iff.mp
        (GLClientState.modifyState_unchanged_iff.mp hsame attrib hattrib)
  · rintro ⟨htex, hunknown⟩
    constructor
    · rintro rfl
      apply texCoordFrame_modifyState_iff.mpr
      rw [getLocation_texCoord]
      intro attrib hattrib
      exact (htex rfl attrib hattrib).imp_right enable_unchanged_iff.mpr
    · intro hnone
      apply GLClientState.modifyState_unchanged_iff.mpr
      rw [getLocation_of_not_namesArray hnone]
      intro attrib hattrib
      exact enable_unchanged_iff.mpr (hunknown hnone attrib hattrib)

/-- `s_glTexcoordPointer`. -/
theorem texcoordPointer_iff {size : GLint} {type : GLenum} {stride : GLint} {data : VoidPtr} :
    TexCoordFrame ctx.state (s_glTexcoordPointer ctx size type stride data).state ↔
      UnitFits ctx.state (HasPointer ctx.state size type stride data) := by
  show TexCoordFrame ctx.state (GLClientState.modifyState _ _ _) ↔ _
  rw [texCoordFrame_modifyState_iff, getLocation_texCoord]
  unfold UnitFits
  constructor
  · intro h attrib hattrib
    exact (h attrib hattrib).imp_right setState_unchanged_iff.mp
  · intro h attrib hattrib
    exact (h attrib hattrib).imp_right setState_unchanged_iff.mpr

/-- A query is answered unless it asks for texture coordinates that have no location. -/
theorem runQuery_ne_none_iff (hlength : ctx.state.states.length = CODEC_MAX_VERTEX_ATTRIBUTES)
    (query : Query) : runQuery ctx query ≠ none ↔ Fits ctx (.query query) := by
  cases query with
  | glIsEnabled cap =>
      unfold runQuery s_glIsEnabled
      constructor
      · exact fun _ => trivial
      · intro _
        dsimp only
        split <;> simp
  | glGetPointerv param =>
      unfold runQuery s_glGetPointerv
      constructor
      · exact fun _ => trivial
      · intro _
        dsimp only
        split <;> simp
  | glGetv param =>
      -- with 64 locations, the array that is asked for is out of range only by the unit
      have hlow : LAST_LOCATION ≤ ctx.state.nLocations := by
        show LAST_LOCATION ≤ ctx.state.states.length
        rw [hlength]
        decide
      have hhigh : ctx.state.nLocations ≤ 2 ^ 31 := by
        show ctx.state.states.length ≤ 2 ^ 31
        rw [hlength]
        decide
      have hnone := GLClientState.getClientStateParameter_eq_none_iff hlow hhigh param
      have hquery : runQuery ctx (.glGetv param) = none ↔
          ctx.state.getClientStateParameter param = none := by
        show s_glGetv ctx param = none ↔ _
        unfold s_glGetv
        split
        next h => simp [h]
        next v h => simp [h]
        next h => simp [h]
      show ¬ runQuery ctx (.glGetv param) = none ↔ (param ∈ texCoordParameters → ¬ _ = none)
      rw [hquery, hnone, not_and]

/-- One call is `Framed` exactly when it is `Fits`. -/
theorem framed_iff (hlength : ctx.state.states.length = CODEC_MAX_VERTEX_ATTRIBUTES)
    {call : ClientCall} (hcall : runClientCall ctx call = some ctx') :
    Framed ctx call ctx' ↔ Fits ctx call := by
  cases call with
  | query query => exact runQuery_ne_none_iff hlength query
  | array call =>
      cases call with
      | glTexCoordPointer size type stride data =>
          cases hcall
          exact texcoordPointer_iff
      | glEnableClientState array =>
          cases hcall
          exact enableFrame_iff
      | glDisableClientState array =>
          cases hcall
          exact enableFrame_iff
      | glClientActiveTexture texture =>
          cases hcall
          exact iff_of_true texCoordFrame_refl trivial
      | _ => exact Iff.rfl

/-! ## Runs -/

/-- Between calls, the client has its 64 locations. -/
def Located (ctx : Encoder) : Prop :=
  Enables (arrayBit HostCaps.minimal CODEC_MAX_VERTEX_ATTRIBUTES) LAST_LOCATION ctx

theorem Located.runClientCall (h : Located ctx) {call : ClientCall}
    (hcall : runClientCall ctx call = some ctx') : Located ctx' := by
  cases call with
  | query query =>
      cases hcall
      exact h
  | array call => exact (runArrayCall_callAgrees h hcall).enables

/-- In any run of a context, all calls are `Framed` exactly when all calls are `Fits`. -/
theorem eachStep_framed_iff {memory : Nat → VertexAttribState} {shared : GLSharedGroup}
    {trace : List (ClientCall × Encoder)}
    (hrun : Run (fun ctx call ctx' => runClientCall ctx call = some ctx')
      (Encoder.init memory shared) trace) :
    EachStep Framed (Encoder.init memory shared) trace ↔
      EachStep (fun ctx call _ => Fits ctx call) (Encoder.init memory shared) trace := by
  have hkeep : ∀ ctx call ctx', Located ctx → Fits ctx call →
      runClientCall ctx call = some ctx' → Located ctx' :=
    fun _ _ _ h _ hcall => h.runClientCall hcall
  have hiff : ∀ ctx call ctx', Located ctx → runClientCall ctx call = some ctx' →
      (Framed ctx call ctx' ↔ Fits ctx call) :=
    fun _ _ _ h hcall => framed_iff h.length hcall
  have hinit : Located (Encoder.init memory shared) := enables_init (fun _ => rfl) memory shared
  exact hrun.eachStep_iff_eachStep hkeep hiff hinit

/-! ## Units of a context, and others -/

def blank : Nat → VertexAttribState :=
  fun _ => ⟨0#32, 4#32, GL_FLOAT, 0#32, 0#32, 0#32, 16#32, false, false⟩

def clientTrace (calls : List ClientCall) : List (ClientCall × Encoder) :=
  partialTraceOf runClientCall (Encoder.init blank GLSharedGroup.init) calls

/-- Unit 1, and an enum that is neither an array nor a location. -/
def withinUnits : List ClientCall :=
  [.array (.glClientActiveTexture 0x84C1#32),
    .array (.glTexCoordPointer 2#32 GL_FLOAT 8#32 0x1000#32),
    .array (.glEnableClientState GL_TEXTURE_COORD_ARRAY),
    .array (.glDisableClientState 0x0B50#32),
    .query (.glGetv GL_TEXTURE_COORD_ARRAY_SIZE)]

theorem eachStep_framed_withinUnits :
    EachStep Framed (Encoder.init blank GLSharedGroup.init) (clientTrace withinUnits) :=
  (eachStep_framed_iff (run_partialTraceOf _ _ _)).mpr (by decide +kernel)

/-- Unit 8 is the location of the matrix indices. -/
theorem not_eachStep_framed :
    ¬ ∀ trace, Run (fun ctx call ctx' => runClientCall ctx call = some ctx')
        (Encoder.init blank GLSharedGroup.init) trace →
      EachStep Framed (Encoder.init blank GLSharedGroup.init) trace := by
  intro h
  have hframed := h (clientTrace [.array (.glClientActiveTexture 0x84C8#32),
    .array (.glEnableClientState GL_TEXTURE_COORD_ARRAY)]) (run_partialTraceOf _ _ _)
  obtain ⟨j, hj, hframe⟩ := hframed.2.1.1 rfl
  have hother : MATRIXINDEX_LOCATION ≠ j := by
    rintro rfl
    exact absurd hj (by decide)
  exact absurd (hframe MATRIXINDEX_LOCATION hother) (by decide +kernel)

end GLESv1Enc
end DeviceAndroVM
