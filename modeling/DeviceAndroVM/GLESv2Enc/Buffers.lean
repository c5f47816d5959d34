import DeviceAndroVM.OpenglCodecCommon.Encoder

/-!
# Buffer and draw calls of `GL2Encoder`

`GL2Encoder.cpp` lines 180–220, 353–368 and 413–542, with `minmax` and
`shiftIndices` of `glUtils.h`.

* `sendVertexAttributes` — the loop over all locations before a draw, which binds
  the buffers of the attributes on the host meanwhile.
* `s_glDrawElements` — no result where the encoder dereferences `NULL`.
* `GL2BufferCall` — these calls, as the labels of a run.
-/

namespace DeviceAndroVM
namespace GLESv2Enc

open OpenGL Library OpenglCodecCommon

/-! ## Indices -/

namespace GLUtils

/-- The element `i` of an array of unsigned integers of `width` bytes, little endian. -/
def readIndex (width : Nat) (indices : Nat → UInt8) (i : Nat) : Nat :=
  (List.range width).foldr (fun k high => (indices (width * i + k)).toNat + 256 * high) 0

/-- The bytes of an integer of `width` bytes. -/
def indexBytes (width value : Nat) : List UInt8 :=
  (List.range width).map fun k => UInt8.ofNat (value / 256 ^ k)

/-- `GLUtils::minmax<T>`, `T` being `width` bytes long. -/
def minmax (width : Nat) (indices : Nat → UInt8) (count : Nat) : Int × Int :=
  (List.range count).foldl
    (fun found i =>
      let index : Int := readIndex width indices i
      (if found.1 = -1 ∨ index < found.1 then index else found.1,
        if found.2 = -1 ∨ found.2 < index then index else found.2))
    (-1, -1)

/-- `GLUtils::shiftIndices<T>`: the bytes of the shifted array. -/
def shiftIndices (width : Nat) (src : Nat → UInt8) (count : Nat) (offset : Int) : List UInt8 :=
  (List.range count).flatMap fun i =>
    indexBytes width ((readIndex width src i + offset) % 256 ^ width).toNat

example : minmax 2 (fun i => [5, 1, 3, 0, 9, 0].getD i 0) 3 = (3, 261) := by decide

example : shiftIndices 2 (fun i => [5, 1, 3, 0].getD i 0) 2 (-3) = [2, 1, 0, 0] := by decide

end GLUtils

namespace GL2Encoder

variable (ctx : Encoder)

/-! ## Buffers -/

/-- `GL2Encoder::s_glBindBuffer`. -/
def s_glBindBuffer (target : GLenum) (id : GLuint) : Encoder :=
  { ctx with state := ctx.state.bindBuffer target id }.emit (.glBindBuffer target id)

/-- `GL2Encoder::s_glBufferData`. -/
def s_glBufferData (target : GLenum) (size : GLint) (data : DataPtr) (usage : GLenum) : Encoder :=
  let bufferId := ctx.state.getBuffer target
  if bufferId = 0#32 then ctx.setError GL_INVALID_OPERATION
  else if size.toInt < 0 then ctx.setError GL_INVALID_VALUE
  else
    { ctx with shared := ctx.shared.updateBufferData bufferId size data }.emit
      (.glBufferData target size data usage)

/-- `GL2Encoder::s_glBufferSubData`. -/
def s_glBufferSubData (target : GLenum) (offset size : GLint) (data : Nat → UInt8) : Encoder :=
  let bufferId := ctx.state.getBuffer target
  if bufferId = 0#32 then ctx.setError GL_INVALID_OPERATION
  else
    let result := ctx.shared.subUpdateBufferData bufferId offset size data
    let updated := { ctx with shared := result.2 }
    if result.1 ≠ GL_NO_ERROR then updated.setError result.1
    else updated.emit (.glBufferSubData target offset size data)

/-- One turn of the loop of `s_glDeleteBuffers`. -/
def deleteBuffer (buffer : GLuint) : Encoder :=
  { ctx with shared := ctx.shared.deleteBufferData buffer }.emit (.glDeleteBuffers [buffer])

/-- The names of a `const GLuint * buffers` argument. -/
def bufferNames (n : GLint) (buffers : Nat → GLuint) : List GLuint :=
  (List.range n.toInt.toNat).map buffers

/-- `GL2Encoder::s_glDeleteBuffers`. -/
def s_glDeleteBuffers (n : GLint) (buffers : Nat → GLuint) : Encoder :=
  if n.toInt < 0 then ctx.setError GL_INVALID_VALUE
  else (bufferNames n buffers).foldl deleteBuffer ctx

/-! ## Vertex attributes -/

/-- `GL2Encoder::s_glVertexAtrribPointer`. -/
def s_glVertexAtrribPointer (indx : GLuint) (size : GLint) (type : GLenum) (normalized : Bool)
    (stride : GLint) (ptr : VoidPtr) : Encoder :=
  { ctx with state := ctx.state.setState indx size type normalized stride ptr }

/-- `GL2Encoder::s_glEnableVertexAttribArray`. -/
def s_glEnableVertexAttribArray (index : GLuint) : Encoder :=
  { ctx with state := ctx.state.enable index 1#32 }

/-- `GL2Encoder::s_glDisableVertexAttribArray`. -/
def s_glDisableVertexAttribArray (index : GLuint) : Encoder :=
  { ctx with state := ctx.state.enable index 0#32 }

/-- One turn of the loop of `sendVertexAttributes`. -/
def sendVertexAttribute (first count : GLint) (ctx : Encoder) (i : Nat) : Encoder :=
  let result := ctx.state.getStateAndEnableDirty i
  let ctx := { ctx with state := result.2 }
  let index : GLuint := BitVec.ofNat 32 i
  match result.1 with
  | none => ctx
  | some state =>
      if !state.enableDirty ∧ state.enabled = 0#32 then ctx
      else if state.enabled ≠ 0#32 then
        let enabled := ctx.emit (.glEnableVertexAttribArray index)
        let datalen := state.elementSize * count
        let stride := if state.stride = 0#32 then state.elementSize else state.stride
        let firstIndex := stride * first
        if state.bufferObject = 0#32 then
          enabled.emit (.glVertexAttribPointerData index state.size state.type state.normalized
            state.stride (state.data + firstIndex) datalen)
        else
          ((enabled.emit (.glBindBuffer GL_ARRAY_BUFFER state.bufferObject)).emit
            (.glVertexAttribPointerOffset index state.size state.type state.normalized
              state.stride (state.data + firstIndex))).emit
            (.glBindBuffer GL_ARRAY_BUFFER ctx.state.currentArrayVbo)
      else ctx.emit (.glDisableVertexAttribArray index)

/-- `GL2Encoder::sendVertexAttributes`. -/
def sendVertexAttributes (first count : GLint) : Encoder :=
  (List.range ctx.state.nLocations).foldl (sendVertexAttribute first count) ctx

/-! ## Draws -/

/-- `GL2Encoder::s_glDrawArrays`. -/
def s_glDrawArrays (mode : GLenum) (first count : GLint) : Encoder :=
  (sendVertexAttributes ctx first count).emit (.glDrawArrays mode 0#32 count)

/-- `has_immediate_arrays` of `s_glDrawElements`. -/
def hasImmediateArrays (state : GLClientState) : Bool :=
  state.states.any fun attrib => attrib.enabled != 0#32 && attrib.bufferObject == 0#32

/-- `has_indirect_arrays` of `s_glDrawElements`. -/
def hasIndirectArrays (state : GLClientState) : Bool :=
  state.states.any fun attrib => attrib.enabled != 0#32 && attrib.bufferObject != 0#32

/-- The part of `s_glDrawElements` under `if (adjustIndices)`; `indices` is the memory
behind the pointer. -/
def drawAdjusted (mode : GLenum) (count : GLint) (type : GLenum) (indices : Nat → UInt8) :
    Encoder :=
  let n := count.toInt.toNat
  let datalen : GLuint := count * glSizeof type
  let asGiven := (List.range datalen.toNat).map indices
  let adjust (width : Nat) : (Int × Int) × List UInt8 :=
    let found := GLUtils.minmax width indices n
    (found,
      if found.1 ≠ 0 then GLUtils.shiftIndices width indices n (-found.1) else asGiven)
  let adjusted :=
    if type = GL_BYTE ∨ type = GL_UNSIGNED_BYTE then adjust 1
    else if type = GL_SHORT ∨ type = GL_UNSIGNED_SHORT then adjust 2
    else ((0, 0), asGiven)
  (sendVertexAttributes ctx (BitVec.ofInt 32 adjusted.1.1)
    (BitVec.ofInt 32 (adjusted.1.2 - adjusted.1.1 + 1))).emit
    (.glDrawElementsData mode count type adjusted.2 datalen)

/-- Memory read at an offset into the shadow copy; `beyond` is what reads of bytes that
are unspecified or outside return. -/
def bufferMemory (buf : BufferData) (offset : VoidPtr) (beyond : Nat → UInt8) (i : Nat) : UInt8 :=
  match buf.bytes[offset.toNat + i]? with
  | some (some byte) => byte
  | _ => beyond i

/-- `GL2Encoder::s_glDrawElements`; `memory` is what is behind `indices` when that is a
pointer.  There is no result when the shadow copy of the index buffer is missing. -/
def s_glDrawElements (mode : GLenum) (count : GLint) (type : GLenum) (indices : VoidPtr)
    (memory : Nat → UInt8) : Option Encoder :=
  if count.toInt < 0 then some (ctx.setError GL_INVALID_VALUE)
  else if !hasImmediateArrays ctx.state && !hasIndirectArrays ctx.state then some ctx
  else if ctx.state.currentIndexVbo ≠ 0#32 then
    if !hasImmediateArrays ctx.state then
      some (((sendVertexAttributes ctx 0#32 count).emit
        (.glBindBuffer GL_ELEMENT_ARRAY_BUFFER ctx.state.currentIndexVbo)).emit
        (.glDrawElementsOffset mode count type indices))
    else
      match ctx.shared.getBufferData ctx.state.currentIndexVbo with
      | none => none
      | some buf =>
          -- the host's binding is not restored
          some (drawAdjusted (ctx.emit (.glBindBuffer GL_ELEMENT_ARRAY_BUFFER 0#32)) mode count
            type (bufferMemory buf indices memory))
  else some (drawAdjusted ctx mode count type memory)

/-! ## Calls -/

/-- The buffer calls and draws of one context, and the calls that set the vertex
attributes which the draws send. -/
inductive GL2BufferCall
  | glBindBuffer (target : GLenum) (id : GLuint)
  | glBufferData (target : GLenum) (size : GLint) (data : DataPtr) (usage : GLenum)
  | glBufferSubData (target : GLenum) (offset size : GLint) (data : Nat → UInt8)
  | glDeleteBuffers (n : GLint) (buffers : Nat → GLuint)
  | glVertexAttribPointer (indx : GLuint) (size : GLint) (type : GLenum) (normalized : Bool)
      (stride : GLint) (ptr : VoidPtr)
  | glEnableVertexAttribArray (index : GLuint)
  | glDisableVertexAttribArray (index : GLuint)
  | glDrawArrays (mode : GLenum) (first count : GLint)
  | glDrawElements (mode : GLenum) (count : GLint) (type : GLenum) (indices : VoidPtr)
      (memory : Nat → UInt8)

/-- The encoder after one call. -/
def runBufferCall : GL2BufferCall → Option Encoder
  | .glBindBuffer target id => some (s_glBindBuffer ctx target id)
  | .glBufferData target size data usage => some (s_glBufferData ctx target size data usage)
  | .glBufferSubData target offset size data => some (s_glBufferSubData ctx target offset size data)
  | .glDeleteBuffers n buffers => some (s_glDeleteBuffers ctx n buffers)
  | .glVertexAttribPointer indx size type normalized stride ptr =>
      some (s_glVertexAtrribPointer ctx indx size type normalized stride ptr)
  | .glEnableVertexAttribArray index => some (s_glEnableVertexAttribArray ctx index)
  | .glDisableVertexAttribArray index => some (s_glDisableVertexAttribArray ctx index)
  | .glDrawArrays mode first count => some (s_glDrawArrays ctx mode first count)
  | .glDrawElements mode count type indices memory =>
      s_glDrawElements ctx mode count type indices memory

end GL2Encoder

end GLESv2Enc
end DeviceAndroVM
