import DeviceAndroVM.GLESv2Enc.Buffers

/-!
# Client arrays and draws of `GLEncoder`

`GLEncoder.cpp` lines 255–364 and 397–601.  The buffer calls and the index adjustment
are those of `GL2Encoder`, which has the same functions.

* `sendVertexData` — the loop over the locations of `StateLocation` before a draw.
* `s_glDrawElements` — no result where the encoder dereferences `NULL`.
* `GLArrayCall` — these calls, as the labels of a run.
-/

namespace DeviceAndroVM
namespace GLESv1Enc

open OpenGL OpenglCodecCommon GLESv2Enc

namespace GLEncoder

variable (ctx : Encoder)

/-! ## Client state -/

/-- What the pointer calls do with the location of their array. -/
def setPointer (location : GLuint) (size : GLint) (type : GLenum) (stride : GLint)
    (data : VoidPtr) : Encoder :=
  { ctx with state := ctx.state.setState location size type false stride data }

/-- `GLEncoder::s_glVertexPointer`. -/
def s_glVertexPointer (size : GLint) (type : GLenum) (stride : GLint) (data : VoidPtr) :
    Encoder :=
  setPointer ctx (BitVec.ofNat 32 VERTEX_LOCATION) size type stride data

/-- `GLEncoder::s_glNormalPointer`. -/
def s_glNormalPointer (type : GLenum) (stride : GLint) (data : VoidPtr) : Encoder :=
  setPointer ctx (BitVec.ofNat 32 NORMAL_LOCATION) 3#32 type stride data

/-- `GLEncoder::s_glColorPointer`. -/
def s_glColorPointer (size : GLint) (type : GLenum) (stride : GLint) (data : VoidPtr) :
    Encoder :=
  setPointer ctx (BitVec.ofNat 32 COLOR_LOCATION) size type stride data

/-- `GLEncoder::s_glPointsizePointer`. -/
def s_glPointsizePointer (type : GLenum) (stride : GLint) (data : VoidPtr) : Encoder :=
  setPointer ctx (BitVec.ofNat 32 POINTSIZE_LOCATION) 1#32 type stride data

/-- `GLEncoder::s_glTexcoordPointer`. -/
def s_glTexcoordPointer (size : GLint) (type : GLenum) (stride : GLint) (data : VoidPtr) :
    Encoder :=
  setPointer ctx (ctx.state.getLocation GL_TEXTURE_COORD_ARRAY) size type stride data

/-- `GLEncoder::s_glMatrixIndexPointerOES`. -/
def s_glMatrixIndexPointerOES (size : GLint) (type : GLenum) (stride : GLint) (data : VoidPtr) :
    Encoder :=
  setPointer ctx (ctx.state.getLocation GL_MATRIX_INDEX_ARRAY_OES) size type stride data

/-- `GLEncoder::s_glWeightPointerOES`. -/
def s_glWeightPointerOES (size : GLint) (type : GLenum) (stride : GLint) (data : VoidPtr) :
    Encoder :=
  setPointer ctx (ctx.state.getLocation GL_WEIGHT_ARRAY_OES) size type stride data

/-- `GLEncoder::s_glClientActiveTexture`; the host is not told. -/
def s_glClientActiveTexture (texture : GLenum) : Encoder :=
  { ctx with state := ctx.state.setActiveTexture (texture - GL_TEXTURE0) }

/-- `GLEncoder::s_glEnableClientState`. -/
def s_glEnableClientState (state : GLenum) : Encoder :=
  { ctx with state := ctx.state.enable (ctx.state.getLocation state) 1#32 }

/-- `GLEncoder::s_glDisableClientState`. -/
def s_glDisableClientState (state : GLenum) : Encoder :=
  { ctx with state := ctx.state.enable (ctx.state.getLocation state) 0#32 }

/-! ## Sending the arrays -/

/-- The location belongs to a texture unit. -/
def isTexCoord (i : Nat) : Bool := TEXCOORD0_LOCATION ≤ i && i ≤ TEXCOORD7_LOCATION

/-- The `switch` of `sendVertexData` over the locations. -/
def arrayPointer (i : Nat) : Option ArrayPointer :=
  if i = VERTEX_LOCATION then some .glVertexPointer
  else if i = NORMAL_LOCATION then some .glNormalPointer
  else if i = COLOR_LOCATION then some .glColorPointer
  else if i = POINTSIZE_LOCATION then some .glPointSizePointer
  else if isTexCoord i then some (.glTexCoordPointer (i - TEXCOORD0_LOCATION))
  else if i = MATRIXINDEX_LOCATION then some .glMatrixIndexPointer
  else if i = WEIGHT_LOCATION then some .glWeightPointer
  else none

/-- The size that goes with an array, if any. -/
def pointerSize (array : ArrayPointer) (size : GLint) : Option GLint :=
  if array = .glNormalPointer ∨ array = .glPointSizePointer then none else some size

/-- The command for the pointer of location `i`, when there is one. -/
def emitPointer (i : Nat) (cmd : ArrayPointer → GLCmd) : Encoder :=
  match arrayPointer i with
  | some array => ctx.emit (cmd array)
  | none => ctx

/-- The part of one turn for an enabled array that sends its pointer. -/
def sendPointer (i : Nat) (state : VertexAttribState) (first count : GLuint) : Encoder :=
  let datalen := state.elementSize * count
  let stride := if state.stride = 0#32 then state.elementSize else state.stride
  let firstIndex := stride * first
  if state.bufferObject = 0#32 then
    emitPointer ctx i fun array =>
      .glArrayPointerData array (pointerSize array state.size) state.type state.stride
        (state.data + firstIndex) datalen
  else
    (emitPointer (ctx.emit (.glBindBuffer GL_ARRAY_BUFFER state.bufferObject)) i fun array =>
      .glArrayPointerOffset array (pointerSize array state.size) state.type state.stride
        (state.data + firstIndex)).emit
      (.glBindBuffer GL_ARRAY_BUFFER ctx.state.currentArrayVbo)

/-- One turn of the loop of `sendVertexData`. -/
def sendVertexArray (first count : GLuint) (ctx : Encoder) (i : Nat) : Encoder :=
  let result := ctx.state.getStateAndEnableDirty i
  let ctx := { ctx with state := result.2 }
  match result.1 with
  | none => ctx
  | some state =>
      if !state.enableDirty ∧ state.enabled = 0#32 then ctx
      else
        let ctx :=
          if isTexCoord i then
            ctx.emit (.glClientActiveTexture
              (GL_TEXTURE0 + BitVec.ofNat 32 (i - TEXCOORD0_LOCATION)))
          else ctx
        if state.enabled ≠ 0#32 then
          -- unlike `GL2Encoder`, an array that stays enabled is not enabled again
          let ctx := if state.enableDirty then ctx.emit (.glEnableClientState (glConst i)) else ctx
          sendPointer ctx i state first count
        else ctx.emit (.glDisableClientState (glConst i))

/-- `GLEncoder::sendVertexData`. -/
def sendVertexData (first count : GLuint) : Encoder :=
  (List.range LAST_LOCATION).foldl (sendVertexArray first count) ctx

/-! ## Draws -/

/-- `GLEncoder::s_glDrawArrays`. -/
def s_glDrawArrays (mode : GLenum) (first count : GLint) : Encoder :=
  (sendVertexData ctx first count).emit (.glDrawArrays mode 0#32 count)

/-- `has_immediate_arrays` of `s_glDrawElements`. -/
def hasImmediateArrays (state : GLClientState) : Bool :=
  (state.states.take LAST_LOCATION).any fun attrib =>
    attrib.enabled != 0#32 && attrib.bufferObject == 0#32

/-- `has_indirect_arrays` of `s_glDrawElements`. -/
def hasIndirectArrays (state : GLClientState) : Bool :=
  (state.states.take LAST_LOCATION).any fun attrib =>
    attrib.enabled != 0#32 && attrib.bufferObject != 0#32

/-- The part of `s_glDrawElements` under `if (adjustIndices)`; `indices` is the memory
behind the pointer. -/
def drawAdjusted (mode : GLenum) (count : GLint) (type : GLenum) (indices : Nat → UInt8) :
    Encoder :=
  let n := count.toInt.toNat
  let datalen : GLuint := count * glSizeof type
  let asGiven := (List.range datalen.toNat).map indices
  let adjust (width : Nat) : (Int × Int) × List UInt8 :=
    let found := GLUtils.minmax width indices n
    (found,
      if found.1 ≠ 0 then GLUtils.shiftIndices width indices n (-found.1) else asGiven)
  let adjusted :=
    if type = GL_BYTE ∨ type = GL_UNSIGNED_BYTE then adjust 1
    else if type = GL_SHORT ∨ type = GL_UNSIGNED_SHORT then adjust 2
    else ((0, 0), asGiven)
  (sendVertexData ctx (BitVec.ofInt 32 adjusted.1.1)
    (BitVec.ofInt 32 (adjusted.1.2 - adjusted.1.1 + 1))).emit
    (.glDrawElementsData mode count type adjusted.2 datalen)

/-- `GLEncoder::s_glDrawElements`; `memory` is what is behind `indices` when that is a
pointer.  There is no result when the shadow copy of the index buffer is missing. -/
def s_glDrawElements (mode : GLenum) (count : GLint) (type : GLenum) (indices : VoidPtr)
    (memory : Nat → UInt8) : Option Encoder :=
  if count.toInt < 0 then some (ctx.setError GL_INVALID_VALUE)
  else if !hasImmediateArrays ctx.state && !hasIndirectArrays ctx.state then some ctx
  else if ctx.state.currentIndexVbo ≠ 0#32 then
    if !hasImmediateArrays ctx.state then
      some (((sendVertexData ctx 0#32 count).emit
        (.glBindBuffer GL_ELEMENT_ARRAY_BUFFER ctx.state.currentIndexVbo)).emit
        (.glDrawElementsOffset mode count type indices))
    else
      match ctx.shared.getBufferData ctx.state.currentIndexVbo with
      | none => none
      | some buf =>
          -- the host's binding is not restored
          some (drawAdjusted (ctx.emit (.glBindBuffer GL_ELEMENT_ARRAY_BUFFER 0#32)) mode count
            type (GL2Encoder.bufferMemory buf indices memory))
  else some (drawAdjusted ctx mode count type memory)

/-! ## Calls -/

/-- The calls of one context on client arrays and buffers, and its draws. -/
inductive GLArrayCall
  | glVertexPointer (size : GLint) (type : GLenum) (stride : GLint) (data : VoidPtr)
  | glNormalPointer (type : GLenum) (stride : GLint) (data : VoidPtr)
  | glColorPointer (size : GLint) (type : GLenum) (stride : GLint) (data : VoidPtr)
  | glPointSizePointerOES (type : GLenum) (stride : GLint) (data : VoidPtr)
  | glTexCoordPointer (size : GLint) (type : GLenum) (stride : GLint) (data : VoidPtr)
  | glMatrixIndexPointerOES (size : GLint) (type : GLenum) (stride : GLint) (data : VoidPtr)
  | glWeightPointerOES (size : GLint) (type : GLenum) (stride : GLint) (data : VoidPtr)
  | glClientActiveTexture (texture : GLenum)
  | glEnableClientState (state : GLenum)
  | glDisableClientState (state : GLenum)
  | glBindBuffer (target : GLenum) (id : GLuint)
  | glBufferData (target : GLenum) (size : GLint) (data : DataPtr) (usage : GLenum)
  | glBufferSubData (target : GLenum) (offset size : GLint) (data : Nat → UInt8)
  | glDeleteBuffers (n : GLint) (buffers : Nat → GLuint)
  | glDrawArrays (mode : GLenum) (first count : GLint)
  | glDrawElements (mode : GLenum) (count : GLint) (type : GLenum) (indices : VoidPtr)
      (memory : Nat → UInt8)

/-- The encoder after one call. -/
def runArrayCall : GLArrayCall → Option Encoder
  | .glVertexPointer size type stride data => some (s_glVertexPointer ctx size type stride data)
  | .glNormalPointer type stride data => some (s_glNormalPointer ctx type stride data)
  | .glColorPointer size type stride data => some (s_glColorPointer ctx size type stride data)
  | .glPointSizePointerOES type stride data => some (s_glPointsizePointer ctx type stride data)
  | .glTexCoordPointer size type stride data =>
      some (s_glTexcoordPointer ctx size type stride data)
  | .glMatrixIndexPointerOES size type stride data =>
      some (s_glMatrixIndexPointerOES ctx size type stride data)
  | .glWeightPointerOES size type stride data =>
      some (s_glWeightPointerOES ctx size type stride data)
  | .glClientActiveTexture texture => some (s_glClientActiveTexture ctx texture)
  | .glEnableClientState state => some (s_glEnableClientState ctx state)
  | .glDisableClientState state => some (s_glDisableClientState ctx state)
  | .glBindBuffer target id => some (GL2Encoder.s_glBindBuffer ctx target id)
  | .glBufferData target size data usage =>
      some (GL2Encoder.s_glBufferData ctx target size data usage)
  | .glBufferSubData target offset size data =>
      some (GL2Encoder.s_glBufferSubData ctx target offset size data)
  | .glDeleteBuffers n buffers => some (GL2Encoder.s_glDeleteBuffers ctx n buffers)
  | .glDrawArrays mode first count => some (s_glDrawArrays ctx mode first count)
  | .glDrawElements mode count type indices memory =>
      s_glDrawElements ctx mode count type indices memory

end GLEncoder

end GLESv1Enc
end DeviceAndroVM
