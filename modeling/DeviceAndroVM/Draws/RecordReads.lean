import DeviceAndroVM.Draws.ElementDraws
import DeviceAndroVM.GLESv1Enc.ClientArrays

/-!
# Fields of a vertex attribute that are read

The constructor of `GLClientState` leaves most fields of the attribute records as the
memory had them; `setState` assigns all of them.  Enabling an array and setting its
pointer are separate calls, so a record may be read before.

* `RecordField` — the fields that only `setState` assigns.
* `recordReads` — which fields of which records a draw or a query reads; `sendPointer_congr`,
  `runQuery_of_read` and `runAttribQuery_of_read` connect it with what is sent and replied.
* `SetsOnly` — a call sets the record of the location of its `setState`, and no other.
* `RecordState` — a context with what has been assigned, and which locations have been
  given a pointer.
* `eachStep_leftover` — a field that has not been assigned is what the memory held.
* `eachStep_readsAssigned_iff` — a run reads assigned fields only, just when every array
  that it looks at has been given a pointer.
-/

namespace DeviceAndroVM
namespace Draws

open OpenGL Library OpenglCodecCommon GLESv2Enc

/-! ## Fields -/

/-- The fields of `VertexAttribState` that the constructor does not assign. -/
inductive RecordField
  | size
  | type
  | stride
  | data
  | bufferObject
  | elementSize
  | normalized
  deriving DecidableEq

namespace RecordField

/-- All of them, in the order of `setState`. -/
def all : List RecordField := [size, type, stride, data, bufferObject, elementSize, normalized]

theorem mem_all (field : RecordField) : field ∈ all := by
  cases field <;> decide

def get (attrib : VertexAttribState) : RecordField → GLuint
  | size => attrib.size
  | type => attrib.type
  | stride => attrib.stride
  | data => attrib.data
  | bufferObject => attrib.bufferObject
  | elementSize => attrib.elementSize
  | normalized => if attrib.normalized then 1#32 else 0#32

end RecordField

/-- A field of the record of a location. -/
abbrev RecordPlace := Nat × RecordField

/-! ## Queries of generic attributes -/

abbrev GL_VERTEX_ATTRIB_ARRAY_ENABLED : GLenum := 0x8622#32
abbrev GL_VERTEX_ATTRIB_ARRAY_SIZE : GLenum := 0x8623#32
abbrev GL_VERTEX_ATTRIB_ARRAY_STRIDE : GLenum := 0x8624#32
abbrev GL_VERTEX_ATTRIB_ARRAY_TYPE : GLenum := 0x8625#32
abbrev GL_VERTEX_ATTRIB_ARRAY_NORMALIZED : GLenum := 0x886A#32
abbrev GL_VERTEX_ATTRIB_ARRAY_BUFFER_BINDING : GLenum := 0x889F#32

/-- The cases of `getVertexAttribParameter` that read a field of a pointer. -/
def attribParameters : List (GLenum × RecordField) :=
  [(GL_VERTEX_ATTRIB_ARRAY_BUFFER_BINDING, .bufferObject),
    (GL_VERTEX_ATTRIB_ARRAY_SIZE, .size),
    (GL_VERTEX_ATTRIB_ARRAY_STRIDE, .stride),
    (GL_VERTEX_ATTRIB_ARRAY_TYPE, .type),
    (GL_VERTEX_ATTRIB_ARRAY_NORMALIZED, .normalized)]

/-- `GLClientState::getVertexAttribParameter`, which `s_glGetVertexAttribiv` and
`s_glGetVertexAttribfv` call; nothing is stored for an index that does not exist. -/
def getVertexAttribParameter (state : GLClientState) (index : GLuint) (param : GLenum) :
    GLESv1Enc.Reply :=
  match state.getState index with
  | none => .nothing
  | some attrib =>
      if param = GL_VERTEX_ATTRIB_ARRAY_ENABLED then .value attrib.enabled
      else
        match attribParameters.lookup param with
        | some field => .value (field.get attrib)
        | none => .host

/-- `GL2Encoder::s_glGetVertexAttribPointerv`, for any `pname`. -/
def s_glGetVertexAttribPointerv (state : GLClientState) (index : GLuint) : GLESv1Enc.Reply :=
  match state.getState index with
  | none => .nothing
  | some attrib => .value attrib.data

inductive AttribQuery
  | glGetVertexAttribiv (index : GLuint) (pname : GLenum)
  | glGetVertexAttribfv (index : GLuint) (pname : GLenum)
  | glGetVertexAttribPointerv (index : GLuint) (pname : GLenum)

/-- The calls on a context that read or write attribute records. -/
inductive RecordCall
  | gles1 (call : GLESv1Enc.ClientCall)
  | gles2 (call : GL2Encoder.GL2BufferCall)
  | gles2Query (query : AttribQuery)

/-! ## What is read -/

/-- The fields that a turn of `sendVertexAttributes` or `sendVertexData` reads of an enabled
attribute.  Only `GL2Encoder` sends `normalized`, and the arrays of normals and point sizes
have no size to be sent. -/
def sendReads : Api → Nat → List RecordField
  | .gles2, _ => [.elementSize, .stride, .bufferObject, .size, .type, .normalized, .data]
  | .gles1, i =>
      let sized := (GLESv1Enc.GLEncoder.arrayPointer i).any fun array =>
        (GLESv1Enc.GLEncoder.pointerSize array 0#32).isSome
      [.elementSize, .stride, .bufferObject] ++ (if sized then [.size] else []) ++ [.type, .data]

/-- The locations that the loops of a draw go over. -/
def loopLocations (api : Api) (state : GLClientState) : Nat :=
  match api with
  | .gles1 => LAST_LOCATION
  | .gles2 => state.nLocations

/-- Those of them that are enabled. -/
def enabledLocations (api : Api) (state : GLClientState) : List Nat :=
  (List.range (loopLocations api state)).filter fun i =>
    match state.states[i]? with
    | some attrib => attrib.enabled != 0#32
    | none => false

/-- The reads of the loop that sends the arrays. -/
def sendLoopReads (api : Api) (state : GLClientState) : List RecordPlace :=
  (enabledLocations api state).flatMap fun i => (sendReads api i).map fun field => (i, field)

/-- The reads of `s_glDrawElements`: its own loop looks for buffer objects first.  Nothing is
sent for a negative count, without enabled arrays, or where `NULL` is dereferenced. -/
def drawElementsReads (api : Api) (ctx : Encoder) (mode : GLenum) (count : GLint) (type : GLenum)
    (indices : VoidPtr) (memory : Nat → UInt8) : List RecordPlace :=
  if count.toInt < 0 then []
  else
    (enabledLocations api ctx.state).map (fun i => (i, .bufferObject)) ++
      match api.s_glDrawElements ctx mode count type indices memory with
      | none => []
      | some _ => sendLoopReads api ctx.state

/-- The same field in both enumerations. -/
def recordField : AttribField → RecordField
  | .size => .size
  | .type => .type
  | .stride => .stride
  | .bufferObject => .bufferObject

/-- The location and the field that a query of a `GLEncoder` asks for, if it is one that
`setState` assigns. -/
def arrayQueried (state : GLClientState) : GLESv1Enc.Query → Option (GLuint × RecordField)
  | .glIsEnabled _ => none
  | .glGetPointerv param =>
      (arrayPointers.lookup param).map fun location => (state.arrayLocation location, .data)
  | .glGetv param =>
      (arrayParameters.lookup param).map fun entry =>
        (state.arrayLocation entry.1, recordField entry.2)

/-- The same of a query of a `GL2Encoder`. -/
def attribQueried : AttribQuery → Option (GLuint × RecordField)
  | .glGetVertexAttribiv index pname | .glGetVertexAttribfv index pname =>
      (attribParameters.lookup pname).map fun field => (index, field)
  | .glGetVertexAttribPointerv index _ => some (index, .data)

/-- A query reads nothing of a location that does not exist. -/
def queryReads (state : GLClientState) (queried : Option (GLuint × RecordField)) :
    List RecordPlace :=
  match queried with
  | none => []
  | some (location, field) =>
      match state.getState location with
      | none => []
      | some _ => [(location.toNat, field)]

/-- The fields that a call reads. -/
def recordReads (ctx : Encoder) : RecordCall → List RecordPlace
  | .gles1 (.array (.glDrawArrays ..)) => sendLoopReads .gles1 ctx.state
  | .gles1 (.array (.glDrawElements mode count type indices memory)) =>
      drawElementsReads .gles1 ctx mode count type indices memory
  | .gles1 (.array _) => []
  | .gles1 (.query query) => queryReads ctx.state (arrayQueried ctx.state query)
  | .gles2 (.glDrawArrays ..) => sendLoopReads .gles2 ctx.state
  | .gles2 (.glDrawElements mode count type indices memory) =>
      drawElementsReads .gles2 ctx mode count type indices memory
  | .gles2 _ => []
  | .gles2Query query => queryReads ctx.state (attribQueried query)

/-! ## What is read decides what is done -/

section Reads

variable {state : GLClientState}

theorem mem_queryReads {queried : Option (GLuint × RecordField)} {place : RecordPlace} :
    place ∈ queryReads state queried ↔
      ∃ location attrib, queried = some (location, place.2) ∧
        state.getState location = some attrib ∧ place.1 = location.toNat := by
  obtain ⟨i, field⟩ := place
  cases queried with
  | none => simp [queryReads]
  | some asked =>
      obtain ⟨location, asked⟩ := asked
      cases hattrib : state.getState location with
      | none =>
          simp only [queryReads, hattrib, List.not_mem_nil, false_iff, not_exists]
          rintro other attrib ⟨heq, hother, -⟩
          cases heq
          rw [hattrib] at hother
          cases hother
      | some attrib =>
          simp only [queryReads, hattrib, List.mem_singleton, Prod.mk.injEq]
          constructor
          · rintro ⟨rfl, rfl⟩
            exact ⟨location, attrib, rfl, hattrib, rfl⟩
          · rintro ⟨other, _, heq, -, rfl⟩
            cases heq
            exact ⟨rfl, rfl⟩

/-- The reply to a query of a `GLEncoder` that reads a field is what is read there. -/
theorem runQuery_of_read {ctx : Encoder} {query : GLESv1Enc.Query} {place : RecordPlace}
    (h : place ∈ queryReads ctx.state (arrayQueried ctx.state query)) :
    ∃ attrib, ctx.state.states[place.1]? = some attrib ∧
      GLESv1Enc.runQuery ctx query = some (.value (place.2.get attrib)) := by
  obtain ⟨location, attrib, hqueried, hattrib, hplace⟩ := mem_queryReads.mp h
  refine ⟨attrib, hplace ▸ GLClientState.states_of_getState hattrib, ?_⟩
  cases query with
  | glIsEnabled cap => cases hqueried
  | glGetPointerv param =>
      obtain ⟨array, hlookup, heq⟩ := Option.map_eq_some_iff.mp hqueried
      obtain ⟨rfl, hfield⟩ := Prod.mk.inj heq
      rw [← hfield]
      simp only [GLESv1Enc.runQuery, GLESv1Enc.GLEncoder.s_glGetPointerv,
        GLClientState.getClientStatePointer, hlookup, hattrib]
      rfl
  | glGetv param =>
      obtain ⟨⟨array, field⟩, hlookup, heq⟩ := Option.map_eq_some_iff.mp hqueried
      obtain ⟨rfl, hfield⟩ := Prod.mk.inj heq
      -- the three parameters that come first are none of the arrays
      have hother : ∀ special, arrayParameters.lookup special = none → param ≠ special := by
        rintro special hnone rfl
        rw [hlookup] at hnone
        cases hnone
      rw [← hfield]
      simp only [GLESv1Enc.runQuery, GLESv1Enc.GLEncoder.s_glGetv,
        GLClientState.getClientStateParameter, if_neg (hother GL_CLIENT_ACTIVE_TEXTURE rfl),
        if_neg (hother GL_ARRAY_BUFFER_BINDING rfl),
        if_neg (hother GL_ELEMENT_ARRAY_BUFFER_BINDING rfl), hlookup, hattrib, Option.map_some]
      cases field <;> rfl

/-- What is sent for an enabled array of a `GLEncoder` depends on no other field than those that
are read. -/
theorem sendPointer_congr {i : Nat} {attrib attrib' : VertexAttribState}
    (h : ∀ field ∈ sendReads .gles1 i, RecordField.get attrib field = RecordField.get attrib' field)
    (ctx : Encoder) (first count : GLuint) :
    GLESv1Enc.GLEncoder.sendPointer ctx i attrib first count =
      GLESv1Enc.GLEncoder.sendPointer ctx i attrib' first count := by
  have hread : ∀ field : RecordField, field ≠ .size → field ≠ .normalized →
      field.get attrib = field.get attrib' := by
    intro field hsize hnormalized
    refine h field ?_
    cases field <;> simp_all [sendReads]
  have helement : attrib.elementSize = attrib'.elementSize := hread .elementSize (by simp) (by simp)
  have hstride : attrib.stride = attrib'.stride := hread .stride (by simp) (by simp)
  have hbuffer : attrib.bufferObject = attrib'.bufferObject :=
    hread .bufferObject (by simp) (by simp)
  have htype : attrib.type = attrib'.type := hread .type (by simp) (by simp)
  have hdata : attrib.data = attrib'.data := hread .data (by simp) (by simp)
  -- the size is read for the arrays that have one
  have hpointer : ∀ array ∈ GLESv1Enc.GLEncoder.arrayPointer i,
      GLESv1Enc.GLEncoder.pointerSize array attrib.size =
        GLESv1Enc.GLEncoder.pointerSize array attrib'.size := by
    intro array harray
    unfold GLESv1Enc.GLEncoder.pointerSize
    split
    · rfl
    · rename_i hsized
      refine congrArg some (h .size ?_)
      rw [Option.mem_def] at harray
      simp [sendReads, harray, GLESv1Enc.GLEncoder.pointerSize, hsized]
  unfold GLESv1Enc.GLEncoder.sendPointer GLESv1Enc.GLEncoder.emitPointer
  rw [helement, hstride, hbuffer, htype, hdata]
  cases harray : GLESv1Enc.GLEncoder.arrayPointer i with
  | none => rfl
  | some array =>
      dsimp only
      rw [hpointer array harray]

/-- The reply to a query of a `GL2Encoder`. -/
def runAttribQuery (state : GLClientState) : AttribQuery → GLESv1Enc.Reply
  | .glGetVertexAttribiv index pname | .glGetVertexAttribfv index pname =>
      getVertexAttribParameter state index pname
  | .glGetVertexAttribPointerv index _ => s_glGetVertexAttribPointerv state index

/-- So is the reply to a query of a `GL2Encoder`. -/
theorem runAttribQuery_of_read {query : AttribQuery} {place : RecordPlace}
    (h : place ∈ queryReads state (attribQueried query)) :
    ∃ attrib, state.states[place.1]? = some attrib ∧
      runAttribQuery state query = .value (place.2.get attrib) := by
  obtain ⟨location, attrib, hqueried, hattrib, hplace⟩ := mem_queryReads.mp h
  refine ⟨attrib, hplace ▸ GLClientState.states_of_getState hattrib, ?_⟩
  have hparameter : ∀ index pname,
      (attribParameters.lookup pname).map (fun field => (index, field)) =
        some (location, place.2) →
      getVertexAttribParameter state index pname = .value (place.2.get attrib) := by
    intro index pname hasked
    obtain ⟨field, hlookup, heq⟩ := Option.map_eq_some_iff.mp hasked
    obtain ⟨rfl, rfl⟩ := Prod.mk.inj heq
    have henabled : pname ≠ GL_VERTEX_ATTRIB_ARRAY_ENABLED := by
      rintro rfl
      cases hlookup
    simp only [getVertexAttribParameter, hattrib, if_neg henabled, hlookup]
  cases query with
  | glGetVertexAttribiv index pname => exact hparameter index pname hqueried
  | glGetVertexAttribfv index pname => exact hparameter index pname hqueried
  | glGetVertexAttribPointerv index pname =>
      obtain ⟨rfl, hfield⟩ := Prod.mk.inj (Option.some.inj hqueried)
      rw [← hfield]
      simp only [runAttribQuery, s_glGetVertexAttribPointerv, hattrib]
      rfl

end Reads

/-! ## What a call assigns -/

/-- The location that a pointer call of a `GLEncoder` passes to `setState`. -/
def arrayPointed (state : GLClientState) : GLESv1Enc.GLEncoder.GLArrayCall → Option GLuint
  | .glVertexPointer .. => some (BitVec.ofNat 32 VERTEX_LOCATION)
  | .glNormalPointer .. => some (BitVec.ofNat 32 NORMAL_LOCATION)
  | .glColorPointer .. => some (BitVec.ofNat 32 COLOR_LOCATION)
  | .glPointSizePointerOES .. => some (BitVec.ofNat 32 POINTSIZE_LOCATION)
  | .glTexCoordPointer .. => some (state.getLocation GL_TEXTURE_COORD_ARRAY)
  | .glMatrixIndexPointerOES .. => some (state.getLocation GL_MATRIX_INDEX_ARRAY_OES)
  | .glWeightPointerOES .. => some (state.getLocation GL_WEIGHT_ARRAY_OES)
  | _ => none

/-- The location that a call passes to `setState`, if it calls it. -/
def setLocation (ctx : Encoder) : RecordCall → Option GLuint
  | .gles1 (.array call) => arrayPointed ctx.state call
  | .gles2 (.glVertexAttribPointer indx ..) => some indx
  | _ => none

/-- The context after a call; a query leaves it as it is. -/
def runRecordCall (ctx : Encoder) : RecordCall → Option Encoder
  | .gles1 call => GLESv1Enc.runClientCall ctx call
  | .gles2 call => GL2Encoder.runBufferCall ctx call
  | .gles2Query _ => some ctx

/-- The fields of all records are as before. -/
def KeepsFields (state state' : GLClientState) : Prop :=
  ∀ (i : Nat) (field : RecordField),
    (state'.states[i]?).map (fun attrib => field.get attrib) =
      (state.states[i]?).map fun attrib => field.get attrib

section Keeps

variable {state state' state'' : GLClientState} {ctx ctx' : Encoder}

theorem KeepsFields.refl (state : GLClientState) : KeepsFields state state := fun _ _ => rfl

theorem KeepsFields.trans (h : KeepsFields state state') (h' : KeepsFields state' state'') :
    KeepsFields state state'' :=
  fun i field => (h' i field).trans (h i field)

theorem keepsFields_of_states (h : state'.states = state.states) : KeepsFields state state' := by
  intro i field
  rw [h]

theorem keepsFields_modify {i : Nat} {f : VertexAttribState → VertexAttribState}
    (hf : ∀ attrib (field : RecordField), field.get (f attrib) = field.get attrib)
    (h : state'.states = state.states.modify i f) : KeepsFields state state' := by
  intro j field
  rw [h, List.getElem?_modify, Option.map_eq_map, Option.map_map]
  congr 1
  funext attrib
  dsimp only [Function.comp]
  split
  · exact hf attrib field
  · rfl

theorem keepsFields_modifyState {f : VertexAttribState → VertexAttribState}
    (hf : ∀ attrib (field : RecordField), field.get (f attrib) = field.get attrib)
    (location : GLuint) : KeepsFields state (state.modifyState location f) := by
  unfold GLClientState.modifyState
  split
  · exact keepsFields_modify hf rfl
  · exact .refl state

/-- Enabling and disabling assign none of the fields. -/
theorem keepsFields_enable (location : GLuint) (enabled : GLint) :
    KeepsFields state (state.enable location enabled) :=
  keepsFields_modifyState (fun _ field => by cases field <;> rfl) location

theorem keepsFields_bindBuffer (target : GLenum) (id : GLuint) :
    KeepsFields state (state.bindBuffer target id) := by
  unfold GLClientState.bindBuffer
  split
  · exact keepsFields_of_states rfl
  split
  · exact keepsFields_of_states rfl
  · exact .refl state

/-- A turn of either loop only clears `enableDirty`. -/
theorem keepsFields_turn {i : Nat} (h : ctx'.state = (ctx.state.getStateAndEnableDirty i).2) :
    KeepsFields ctx.state ctx'.state := by
  rw [h]
  exact keepsFields_modify (fun _ field => by cases field <;> rfl) rfl

theorem keepsFields_loop {turn : Encoder → Nat → Encoder}
    (hturn : ∀ ctx i, (turn ctx i).state = (ctx.state.getStateAndEnableDirty i).2)
    (locations : List Nat) (ctx : Encoder) :
    KeepsFields ctx.state (locations.foldl turn ctx).state := by
  induction locations generalizing ctx with
  | nil => exact .refl _
  | cons i rest ih => exact (keepsFields_turn (hturn ctx i)).trans (ih (turn ctx i))

theorem sendVertexAttribute_state (first count : GLint) (ctx : Encoder) (i : Nat) :
    (GL2Encoder.sendVertexAttribute first count ctx i).state =
      (ctx.state.getStateAndEnableDirty i).2 := by
  unfold GL2Encoder.sendVertexAttribute
  dsimp only
  split
  · rfl
  split
  · rfl
  split
  · split
    · rfl
    · rfl
  · rfl

theorem emitPointer_state (ctx : Encoder) (i : Nat) (cmd : ArrayPointer → GLCmd) :
    (GLESv1Enc.GLEncoder.emitPointer ctx i cmd).state = ctx.state := by
  unfold GLESv1Enc.GLEncoder.emitPointer
  split
  · rfl
  · rfl

theorem sendPointer_state (ctx : Encoder) (i : Nat) (attrib : VertexAttribState)
    (first count : GLuint) :
    (GLESv1Enc.GLEncoder.sendPointer ctx i attrib first count).state = ctx.state := by
  unfold GLESv1Enc.GLEncoder.sendPointer
  dsimp only
  split
  · exact emitPointer_state ctx i _
  · exact emitPointer_state _ i _

theorem sendVertexArray_state (first count : GLuint) (ctx : Encoder) (i : Nat) :
    (GLESv1Enc.GLEncoder.sendVertexArray first count ctx i).state =
      (ctx.state.getStateAndEnableDirty i).2 := by
  unfold GLESv1Enc.GLEncoder.sendVertexArray
  dsimp only
  split
  · rfl
  split
  · rfl
  split
  · rw [sendPointer_state]
    split
    · exact GLESv1Enc.selectUnit_states _ i
    · exact GLESv1Enc.selectUnit_states _ i
  · exact GLESv1Enc.selectUnit_states _ i

theorem keepsFields_sendVertexData (ctx : Encoder) (first count : GLuint) :
    KeepsFields ctx.state (GLESv1Enc.GLEncoder.sendVertexData ctx first count).state :=
  keepsFields_loop (sendVertexArray_state first count) _ ctx

theorem keepsFields_sendVertexAttributes (ctx : Encoder) (first count : GLint) :
    KeepsFields ctx.state (GL2Encoder.sendVertexAttributes ctx first count).state :=
  keepsFields_loop (sendVertexAttribute_state first count) _ ctx

theorem keepsFields_glDrawArrays1 (ctx : Encoder) (mode : GLenum) (first count : GLint) :
    KeepsFields ctx.state (GLESv1Enc.GLEncoder.s_glDrawArrays ctx mode first count).state := by
  unfold GLESv1Enc.GLEncoder.s_glDrawArrays
  rw [Encoder.emit_state]
  exact keepsFields_sendVertexData ctx first count

theorem keepsFields_glDrawArrays2 (ctx : Encoder) (mode : GLenum) (first count : GLint) :
    KeepsFields ctx.state (GL2Encoder.s_glDrawArrays ctx mode first count).state := by
  unfold GL2Encoder.s_glDrawArrays
  rw [Encoder.emit_state]
  exact keepsFields_sendVertexAttributes ctx first count

/-- A draw keeps all fields, whether the indices are adjusted or not. -/
theorem keepsFields_glDrawElements1 {mode : GLenum} {count : GLint} {type : GLenum}
    {indices : VoidPtr} {memory : Nat → UInt8}
    (h : GLESv1Enc.GLEncoder.s_glDrawElements ctx mode count type indices memory = some ctx') :
    KeepsFields ctx.state ctx'.state := by
  have hadjusted : ∀ (base : Encoder) (source : Nat → UInt8), KeepsFields base.state
      (GLESv1Enc.GLEncoder.drawAdjusted base mode count type source).state := by
    intro base source
    unfold GLESv1Enc.GLEncoder.drawAdjusted
    dsimp only
    rw [Encoder.emit_state]
    exact keepsFields_sendVertexData base _ _
  unfold GLESv1Enc.GLEncoder.s_glDrawElements at h
  split at h
  · cases h
    exact .refl _
  split at h
  · cases h
    exact .refl _
  split at h
  · split at h
    · rw [← Option.some.inj h, Encoder.emit_state, Encoder.emit_state]
      exact keepsFields_sendVertexData ctx 0#32 count
    · split at h
      · cases h
      · rw [← Option.some.inj h]
        exact hadjusted (ctx.emit (.glBindBuffer GL_ELEMENT_ARRAY_BUFFER 0#32)) _
  · rw [← Option.some.inj h]
    exact hadjusted ctx memory

theorem keepsFields_glDrawElements2 {mode : GLenum} {count : GLint} {type : GLenum}
    {indices : VoidPtr} {memory : Nat → UInt8}
    (h : GL2Encoder.s_glDrawElements ctx mode count type indices memory = some ctx') :
    KeepsFields ctx.state ctx'.state := by
  have hadjusted : ∀ (base : Encoder) (source : Nat → UInt8), KeepsFields base.state
      (GL2Encoder.drawAdjusted base mode count type source).state := by
    intro base source
    unfold GL2Encoder.drawAdjusted
    dsimp only
    rw [Encoder.emit_state]
    exact keepsFields_sendVertexAttributes base _ _
  unfold GL2Encoder.s_glDrawElements at h
  split at h
  · cases h
    exact .refl _
  split at h
  · cases h
    exact .refl _
  split at h
  · split at h
    · rw [← Option.some.inj h, Encoder.emit_state, Encoder.emit_state]
      exact keepsFields_sendVertexAttributes ctx 0#32 count
    · split at h
      · cases h
      · rw [← Option.some.inj h]
        exact hadjusted (ctx.emit (.glBindBuffer GL_ELEMENT_ARRAY_BUFFER 0#32)) _
  · rw [← Option.some.inj h]
    exact hadjusted ctx memory

theorem glBufferData_state (ctx : Encoder) (target : GLenum) (size : GLint) (data : DataPtr)
    (usage : GLenum) : (GL2Encoder.s_glBufferData ctx target size data usage).state = ctx.state := by
  unfold GL2Encoder.s_glBufferData
  dsimp only
  split
  · rfl
  split
  · rfl
  · rfl

theorem glBufferSubData_state (ctx : Encoder) (target : GLenum) (offset size : GLint)
    (data : Nat → UInt8) :
    (GL2Encoder.s_glBufferSubData ctx target offset size data).state = ctx.state := by
  unfold GL2Encoder.s_glBufferSubData
  dsimp only
  split
  · rfl
  split
  · rfl
  · rfl

theorem glDeleteBuffers_state (ctx : Encoder) (n : GLint) (buffers : Nat → GLuint) :
    (GL2Encoder.s_glDeleteBuffers ctx n buffers).state = ctx.state := by
  have hloop : ∀ (names : List GLuint) (ctx : Encoder),
      (names.foldl GL2Encoder.deleteBuffer ctx).state = ctx.state := by
    intro names
    induction names with
    | nil => exact fun _ => rfl
    | cons name rest ih => exact fun ctx => ih _
  unfold GL2Encoder.s_glDeleteBuffers
  split
  · rfl
  · exact hloop _ ctx

end Keeps

/-- A call sets the record of the location that it passes to `setState`, and no other field of
any record changes. -/
def SetsOnly (location : Option GLuint) (state state' : GLClientState) : Prop :=
  (location = none ∧ KeepsFields state state') ∨
    ∃ place f, location = some place ∧ state' = state.modifyState place f

theorem runArrayCall_setsOnly {ctx ctx' : Encoder} {call : GLESv1Enc.GLEncoder.GLArrayCall}
    (h : GLESv1Enc.GLEncoder.runArrayCall ctx call = some ctx') :
    SetsOnly (arrayPointed ctx.state call) ctx.state ctx'.state := by
  cases call with
  | glClientActiveTexture texture =>
      cases h
      exact .inl ⟨rfl, keepsFields_of_states rfl⟩
  | glEnableClientState array =>
      cases h
      exact .inl ⟨rfl, keepsFields_enable _ _⟩
  | glDisableClientState array =>
      cases h
      exact .inl ⟨rfl, keepsFields_enable _ _⟩
  | glBindBuffer target id =>
      cases h
      exact .inl ⟨rfl, keepsFields_bindBuffer target id⟩
  | glBufferData target size data usage =>
      cases h
      exact .inl ⟨rfl, keepsFields_of_states (by rw [glBufferData_state])⟩
  | glBufferSubData target offset size data =>
      cases h
      exact .inl ⟨rfl, keepsFields_of_states (by rw [glBufferSubData_state])⟩
  | glDeleteBuffers n buffers =>
      cases h
      exact .inl ⟨rfl, keepsFields_of_states (by rw [glDeleteBuffers_state])⟩
  | glDrawArrays mode first count =>
      obtain rfl : GLESv1Enc.GLEncoder.s_glDrawArrays ctx mode first count = ctx' :=
        Option.some.inj h
      exact .inl ⟨rfl, keepsFields_glDrawArrays1 ctx mode first count⟩
  | glDrawElements mode count type indices memory =>
      exact .inl ⟨rfl, keepsFields_glDrawElements1 h⟩
  | _ =>
      cases h
      exact .inr ⟨_, _, rfl, rfl⟩

theorem runBufferCall_setsOnly {ctx ctx' : Encoder} {call : GL2Encoder.GL2BufferCall}
    (h : GL2Encoder.runBufferCall ctx call = some ctx') :
    SetsOnly (setLocation ctx (.gles2 call)) ctx.state ctx'.state := by
  cases call with
  | glBindBuffer target id =>
      cases h
      exact .inl ⟨rfl, keepsFields_bindBuffer target id⟩
  | glBufferData target size data usage =>
      cases h
      exact .inl ⟨rfl, keepsFields_of_states (by rw [glBufferData_state])⟩
  | glBufferSubData target offset size data =>
      cases h
      exact .inl ⟨rfl, keepsFields_of_states (by rw [glBufferSubData_state])⟩
  | glDeleteBuffers n buffers =>
      cases h
      exact .inl ⟨rfl, keepsFields_of_states (by rw [glDeleteBuffers_state])⟩
  | glVertexAttribPointer indx size type normalized stride ptr =>
      cases h
      exact .inr ⟨_, _, rfl, rfl⟩
  | glEnableVertexAttribArray index =>
      cases h
      exact .inl ⟨rfl, keepsFields_enable _ _⟩
  | glDisableVertexAttribArray index =>
      cases h
      exact .inl ⟨rfl, keepsFields_enable _ _⟩
  | glDrawArrays mode first count =>
      cases h
      exact .inl ⟨rfl, keepsFields_glDrawArrays2 ctx mode first count⟩
  | glDrawElements mode count type indices memory =>
      exact .inl ⟨rfl, keepsFields_glDrawElements2 h⟩

theorem runRecordCall_setsOnly {ctx ctx' : Encoder} {call : RecordCall}
    (h : runRecordCall ctx call = some ctx') :
    SetsOnly (setLocation ctx call) ctx.state ctx'.state := by
  cases call with
  | gles1 call =>
      cases call with
      | query query =>
          cases h
          exact .inl ⟨rfl, .refl _⟩
      | array call => exact runArrayCall_setsOnly h
  | gles2 call => exact runBufferCall_setsOnly h
  | gles2Query query =>
      cases h
      exact .inl ⟨rfl, .refl _⟩

/-! ## Arrays that are looked at -/

/-- The location of the array that a query asks for, where it exists. -/
def queriedLocations (state : GLClientState) (queried : Option (GLuint × RecordField)) :
    List Nat :=
  match queried with
  | none => []
  | some (location, _) => if state.getState location = none then [] else [location.toNat]

/-- The locations whose arrays a call looks at: the enabled ones of a draw, unless its count is
negative, and that of a query. -/
def lookedAt (ctx : Encoder) : RecordCall → List Nat
  | .gles1 (.array (.glDrawArrays ..)) => enabledLocations .gles1 ctx.state
  | .gles1 (.array (.glDrawElements _ count ..)) =>
      if count.toInt < 0 then [] else enabledLocations .gles1 ctx.state
  | .gles1 (.array _) => []
  | .gles1 (.query query) => queriedLocations ctx.state (arrayQueried ctx.state query)
  | .gles2 (.glDrawArrays ..) => enabledLocations .gles2 ctx.state
  | .gles2 (.glDrawElements _ count ..) =>
      if count.toInt < 0 then [] else enabledLocations .gles2 ctx.state
  | .gles2 _ => []
  | .gles2Query query => queriedLocations ctx.state (attribQueried query)

theorem elementSize_mem_sendReads (api : Api) (i : Nat) :
    RecordField.elementSize ∈ sendReads api i := by
  cases api <;> simp [sendReads]

theorem exists_sendLoopReads_iff {api : Api} {state : GLClientState} {i : Nat} :
    (∃ field, (i, field) ∈ sendLoopReads api state) ↔ i ∈ enabledLocations api state := by
  unfold sendLoopReads
  constructor
  · rintro ⟨field, hmem⟩
    obtain ⟨j, hj, hmem⟩ := List.mem_flatMap.mp hmem
    obtain ⟨_, _, heq⟩ := List.mem_map.mp hmem
    cases heq
    exact hj
  · intro hi
    exact ⟨.elementSize, List.mem_flatMap.mpr
      ⟨i, hi, List.mem_map_of_mem (elementSize_mem_sendReads api i)⟩⟩

/-- `s_glDrawElements` reads of the enabled arrays in its own loop already. -/
theorem exists_drawElementsReads_iff {api : Api} {ctx : Encoder} {mode : GLenum} {count : GLint}
    {type : GLenum} {indices : VoidPtr} {memory : Nat → UInt8} {i : Nat} :
    (∃ field, (i, field) ∈ drawElementsReads api ctx mode count type indices memory) ↔
      i ∈ if count.toInt < 0 then [] else enabledLocations api ctx.state := by
  unfold drawElementsReads
  split
  · simp
  constructor
  · rintro ⟨field, hmem⟩
    rcases List.mem_append.mp hmem with hmem | hmem
    · obtain ⟨j, hj, heq⟩ := List.mem_map.mp hmem
      cases heq
      exact hj
    · split at hmem
      · cases hmem
      · exact exists_sendLoopReads_iff.mp ⟨field, hmem⟩
  · intro hi
    exact ⟨.bufferObject, List.mem_append_left _ (List.mem_map.mpr ⟨i, hi, rfl⟩)⟩

theorem exists_queryReads_iff {state : GLClientState} {queried : Option (GLuint × RecordField)}
    {i : Nat} :
    (∃ field, (i, field) ∈ queryReads state queried) ↔ i ∈ queriedLocations state queried := by
  cases queried with
  | none => simp [queryReads, queriedLocations]
  | some asked =>
      obtain ⟨location, field⟩ := asked
      cases hattrib : state.getState location <;>
        simp [queryReads, queriedLocations, hattrib]

theorem exists_recordReads_iff {ctx : Encoder} {call : RecordCall} {i : Nat} :
    (∃ field, (i, field) ∈ recordReads ctx call) ↔ i ∈ lookedAt ctx call := by
  have hnone : (∃ field : RecordField, (i, field) ∈ ([] : List RecordPlace)) ↔
      i ∈ ([] : List Nat) := by
    simp
  cases call with
  | gles1 call =>
      cases call with
      | query query => exact exists_queryReads_iff
      | array call =>
          cases call with
          | glDrawArrays mode first count => exact exists_sendLoopReads_iff
          | glDrawElements mode count type indices memory => exact exists_drawElementsReads_iff
          | _ => exact hnone
  | gles2 call =>
      cases call with
      | glDrawArrays mode first count => exact exists_sendLoopReads_iff
      | glDrawElements mode count type indices memory => exact exists_drawElementsReads_iff
      | _ => exact hnone
  | gles2Query query => exact exists_queryReads_iff

/-! ## Runs -/

/-- A context, with the fields that `setState` has assigned so far and the locations that have
been given a pointer. -/
structure RecordState where
  ctx : Encoder
  written : List RecordPlace
  pointed : List Nat

/-- The record that a call sets, when its location is valid. -/
def recordsSet (ctx : Encoder) (call : RecordCall) : List Nat :=
  match setLocation ctx call with
  | none => []
  | some location => if ctx.state.validLocation location then [location.toNat] else []

namespace RecordState

/-- A fresh context; the constructor assigns none of the fields. -/
def init (memory : Nat → VertexAttribState) (shared : GLSharedGroup) : RecordState :=
  ⟨Encoder.init memory shared, [], []⟩

/-- After a call; one that dereferences `NULL` leaves the context as it was. -/
def step (s : RecordState) (call : RecordCall) : RecordState where
  ctx := (runRecordCall s.ctx call).getD s.ctx
  written := s.written ++
    (recordsSet s.ctx call).flatMap fun i => RecordField.all.map fun field => (i, field)
  pointed := s.pointed ++ recordsSet s.ctx call

/-- What has been assigned are the fields of the arrays that have a pointer. -/
def Assigned (s : RecordState) : Prop :=
  ∀ place : RecordPlace, place ∈ s.written ↔ place.1 ∈ s.pointed

theorem assigned_step {s : RecordState} (h : s.Assigned) (call : RecordCall) :
    (s.step call).Assigned := by
  rintro ⟨i, field⟩
  show (i, field) ∈ _ ++ _ ↔ i ∈ _ ++ _
  rw [List.mem_append, List.mem_append, h (i, field), List.mem_flatMap]
  refine or_congr_right ⟨?_, ?_⟩
  · rintro ⟨j, hj, hmem⟩
    obtain ⟨_, _, heq⟩ := List.mem_map.mp hmem
    cases heq
    exact hj
  · intro hi
    exact ⟨i, hi, List.mem_map_of_mem (RecordField.mem_all field)⟩

/-- A field that has not been assigned is as the memory of the new object had it. -/
def Leftover (memory : Nat → VertexAttribState) (s : RecordState) : Prop :=
  ∀ i (field : RecordField) attrib, (i, field) ∉ s.written →
    s.ctx.state.states[i]? = some attrib → field.get attrib = field.get (memory i)

theorem leftover_init (memory : Nat → VertexAttribState) (shared : GLSharedGroup) :
    (init memory shared).Leftover memory := by
  intro i field attrib _ hattrib
  have hinit : (((List.range (max CODEC_MAX_VERTEX_ATTRIBUTES LAST_LOCATION)).map fun i =>
      ({ memory i with enabled := 0#32, enableDirty := false } : VertexAttribState))[i]?) =
        some attrib := hattrib
  rw [List.getElem?_map, Option.map_eq_some_iff] at hinit
  obtain ⟨j, hj, rfl⟩ := hinit
  obtain ⟨_, rfl⟩ := List.getElem?_eq_some_iff.mp hj
  rw [List.getElem_range]
  cases field <;> rfl

theorem leftover_step {memory : Nat → VertexAttribState} {s : RecordState}
    (h : s.Leftover memory) (call : RecordCall) : (s.step call).Leftover memory := by
  intro i field attrib hwritten hattrib
  have hbefore : (i, field) ∉ s.written := fun hmem => hwritten (List.mem_append_left _ hmem)
  have hstate : (s.step call).ctx = (runRecordCall s.ctx call).getD s.ctx := rfl
  cases hcall : runRecordCall s.ctx call with
  | none =>
      rw [hstate, hcall] at hattrib
      exact h i field attrib hbefore hattrib
  | some ctx' =>
      rw [hstate, hcall, Option.getD_some] at hattrib
      rcases runRecordCall_setsOnly hcall with ⟨-, hkeeps⟩ | ⟨location, f, hset, hmodify⟩
      · have hfield := hkeeps i field
        rw [hattrib, Option.map_some] at hfield
        obtain ⟨before, hsome, hsame⟩ := Option.map_eq_some_iff.mp hfield.symm
        rw [← hsame]
        exact h i field before hbefore hsome
      · -- only the record of the location changes, and it has been assigned now
        have hother : i = location.toNat → s.ctx.state.getState location = none := by
          rintro rfl
          by_contra hvalid
          refine hwritten (List.mem_append_right _ (List.mem_flatMap.mpr
            ⟨location.toNat, ?_, List.mem_map_of_mem (RecordField.mem_all field)⟩))
          unfold recordsSet
          rw [hset]
          dsimp only
          rw [if_pos]
          · exact List.mem_singleton_self _
          · by_contra hinvalid
            unfold GLClientState.getState at hvalid
            rw [if_neg hinvalid] at hvalid
            exact hvalid rfl
        rw [hmodify, GLClientState.states_modifyState] at hattrib
        split at hattrib
        · rename_i hi
          rw [hother hi] at hattrib
          exact h i field attrib hbefore hattrib
        · exact h i field attrib hbefore hattrib

end RecordState

/-- Everything that the call reads has been assigned. -/
def ReadsAssigned (s : RecordState) (call : RecordCall) : Prop :=
  ∀ place ∈ recordReads s.ctx call, place ∈ s.written

/-- Every array that the call looks at has been given a pointer. -/
def LooksAtPointed (s : RecordState) (call : RecordCall) : Prop :=
  ∀ i ∈ lookedAt s.ctx call, i ∈ s.pointed

instance (s : RecordState) (call : RecordCall) : Decidable (ReadsAssigned s call) := by
  unfold ReadsAssigned
  infer_instance

instance (s : RecordState) (call : RecordCall) : Decidable (LooksAtPointed s call) := by
  unfold LooksAtPointed
  infer_instance

theorem readsAssigned_iff {s : RecordState} (h : s.Assigned) (call : RecordCall) :
    ReadsAssigned s call ↔ LooksAtPointed s call := by
  constructor
  · intro hreads i hi
    obtain ⟨field, hread⟩ := exists_recordReads_iff.mpr hi
    exact (h (i, field)).mp (hreads (i, field) hread)
  · rintro hpointed ⟨i, field⟩ hread
    exact (h (i, field)).mpr (hpointed i (exists_recordReads_iff.mp ⟨field, hread⟩))

section Runs

variable {memory : Nat → VertexAttribState} {shared : GLSharedGroup}
  {trace : List (RecordCall × RecordState)}

/-- In every run of a fresh context of either encoder, every call reads assigned fields only, if
and only if every array that a call looks at has been given a pointer by then. -/
theorem eachStep_readsAssigned_iff
    (hrun : Run (fun s call s' => s' = s.step call) (RecordState.init memory shared) trace) :
    EachStep (fun s call _ => ReadsAssigned s call) (RecordState.init memory shared) trace ↔
      EachStep (fun s call _ => LooksAtPointed s call) (RecordState.init memory shared) trace := by
  have hkeep : ∀ (s : RecordState) (call : RecordCall) (s' : RecordState), s.Assigned →
      LooksAtPointed s call → s' = s.step call → s'.Assigned := by
    rintro s call _ h _ rfl
    exact RecordState.assigned_step h call
  have hiff : ∀ (s : RecordState) (call : RecordCall) (s' : RecordState), s.Assigned →
      s' = s.step call → (ReadsAssigned s call ↔ LooksAtPointed s call) :=
    fun _ call _ h _ => readsAssigned_iff h call
  have hinit : (RecordState.init memory shared).Assigned :=
    fun _ => iff_of_false List.not_mem_nil List.not_mem_nil
  exact hrun.eachStep_iff_eachStep hkeep hiff hinit

/-- A read that is not assigned brings what was in the memory of the new object. -/
theorem eachStep_leftover
    (hrun : Run (fun s call s' => s' = s.step call) (RecordState.init memory shared) trace) :
    EachStep (fun s call _ => ∀ place ∈ recordReads s.ctx call, place ∉ s.written →
        ∀ attrib, s.ctx.state.states[place.1]? = some attrib →
          place.2.get attrib = place.2.get (memory place.1))
      (RecordState.init memory shared) trace := by
  have hkeep : ∀ (s : RecordState) (call : RecordCall) (s' : RecordState), s.Leftover memory →
      s' = s.step call → s'.Leftover memory := by
    rintro s call _ h rfl
    exact RecordState.leftover_step h call
  have hread : ∀ (s : RecordState) (call : RecordCall) (s' : RecordState), s.Leftover memory →
      s' = s.step call → ∀ place ∈ recordReads s.ctx call, place ∉ s.written →
        ∀ attrib, s.ctx.state.states[place.1]? = some attrib →
          place.2.get attrib = place.2.get (memory place.1) :=
    fun _ _ _ h _ place _ hwritten attrib hattrib => h place.1 place.2 attrib hwritten hattrib
  exact hrun.eachStep hkeep hread (RecordState.leftover_init memory shared)

end Runs

def freshRecords : RecordState :=
  RecordState.init (fun _ => ⟨0#32, 0#32, 0#32, 0#32, 0#32, 0#32, 0#32, false, false⟩)
    GLSharedGroup.init

/-- An attribute with a pointer, which is drawn and queried. -/
def pointedCalls : List RecordCall :=
  [.gles2 (.glEnableVertexAttribArray 1#32),
    .gles2 (.glVertexAttribPointer 1#32 3#32 GL_FLOAT false 0#32 0x1000#32),
    .gles2 (.glDrawArrays 4#32 0#32 3#32),
    .gles2Query (.glGetVertexAttribiv 1#32 GL_VERTEX_ATTRIB_ARRAY_SIZE)]

theorem eachStep_readsAssigned_pointed :
    EachStep (fun s call _ => ReadsAssigned s call) freshRecords
      (traceOf RecordState.step freshRecords pointedCalls) :=
  (eachStep_readsAssigned_iff (run_traceOf _ _ _)).mpr (by decide +kernel)

/-- An attribute that is enabled and drawn, and has no pointer. -/
theorem not_eachStep_readsAssigned :
    ¬∀ trace, Run (fun s call s' => s' = s.step call) freshRecords trace →
      EachStep (fun s call _ => ReadsAssigned s call) freshRecords trace := by
  intro hall
  have hreads := (hall _ (run_traceOf RecordState.step freshRecords
    [.gles2 (.glEnableVertexAttribArray 0#32), .gles2 (.glDrawArrays 4#32 0#32 3#32)])).2.1
  have hsize := hreads (0, .size) (by decide +kernel)
  revert hsize
  decide +kernel

end Draws
end DeviceAndroVM
