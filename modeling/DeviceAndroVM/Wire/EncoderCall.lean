import DeviceAndroVM.Draws.PointerData
import DeviceAndroVM.Library.CString
import DeviceAndroVM.Library.WireFormat
import DeviceAndroVM.OpenglCodecCommon.PixelData
import DeviceAndroVM.OpenglCodecCommon.StreamPackets

/-!
# What the generated encoders put on the stream

The functions of `gl_enc.cpp`, `gl2_enc.cpp` and `renderControl_enc.cpp` are generated: each
writes its opcode, the size of its packet and its parameters, and reads back what it returns.
Large data is not copied to the buffer of the stream but written behind a flush.

* `Param` — a parameter, by the way it is written.
* `EncCall` — a call of a generated function; `message` is the packet it stands for.
* `streamCalls`, `readbacks` — what the function does with the stream.
* `flatMap_packet_streamCalls` — all it puts on the stream is the message.
* `sum_readbacks` — what it reads back is what the message asks for, and the return value.
* `glUtilsParamSize` — the number of values of a state parameter.
* `EncoderContext` — `pixelDataSize`, `pixelDataSize3D` and `uniformType` of the encoder.
* `packed` — what `glUtilsPackPointerData` leaves in the packet.
-/

namespace DeviceAndroVM
namespace Wire

section Calls

open Library OpenGL OpenglCodecCommon

/-- `GLboolean`. -/
abbrev GLboolean := BitVec 8

/-- `GLubyte`. -/
abbrev GLubyte := BitVec 8

/-- `GLshort`. -/
abbrev GLshort := BitVec 16

/-- The memory that a pointer argument leads to. -/
abbrev Memory := Nat → UInt8

/-- What `memcpy` copies of it. -/
def memoryBytes (memory : Memory) (size : BitVec 32) : List UInt8 :=
  (List.range size.toNat).map memory

@[simp] theorem length_memoryBytes (memory : Memory) (size : BitVec 32) :
    (memoryBytes memory size).length = size.toNat := by
  simp [memoryBytes]

/-- What is copied behind a pointer that may be `NULL`: then it is nothing. -/
def dataBytes (data : DataPtr) (size : BitVec 32) : List UInt8 :=
  match data with
  | none => []
  | some memory => memoryBytes memory size

/-- A string with its terminator, as memory. -/
def stringMemory (s : CString) : Memory := fun i => List.getD s i 0

/-- `strlen(s) + 1`. -/
def strlenPlusOne (s : CString) : BitVec 32 := BitVec.ofNat 32 (List.length s + 1)

/-- A parameter of a generated function: a value of one, two or four bytes, memory that is
copied behind its size, or memory that is read back.  Memory that need not be given is copied or
read back when it is, and its size is 0 otherwise. -/
inductive Param
  | byte (value : BitVec 8)
  | short (value : BitVec 16)
  | word (value : BitVec 32)
  | input (size : BitVec 32) (data : Memory)
  | inputIf (data : DataPtr) (size : BitVec 32)
  | output (size : BitVec 32)
  | outputIf (given : Bool) (size : BitVec 32)

namespace Param

/-- `(p != NULL) ? size : 0`. -/
def sizeIf (given : Bool) (size : BitVec 32) : BitVec 32 := if given then size else 0#32

def field : Param → Field
  | byte value => .fixed (littleEndian 1 value.toNat)
  | short value => .fixed (littleEndian 2 value.toNat)
  | word value => .fixed (littleEndian 4 value.toNat)
  | input size data => .block (memoryBytes data size)
  | inputIf data size => .block (dataBytes data size)
  | output size => .answer size.toNat
  | outputIf given size => .answer (sizeIf given size).toNat

/-- The kind of a parameter, whatever its value. -/
def kind : Param → FieldKind
  | byte _ => .fixed 1
  | short _ => .fixed 2
  | word _ => .fixed 4
  | input .. | inputIf .. => .block
  | output _ | outputIf .. => .answer

theorem kind_field (p : Param) : p.field.kind = p.kind := by
  cases p <;> simp [field, Field.kind, kind]

/-- The `readback` of a parameter. -/
def readback : Param → List UInt32
  | output size => [UInt32.ofBitVec size]
  | outputIf given size => if given then [UInt32.ofBitVec size] else []
  | byte _ | short _ | word _ | input .. | inputIf .. => []

end Param

/-- The kinds of the values. -/
abbrev byte : FieldKind := .fixed 1

abbrev short : FieldKind := .fixed 2

abbrev word : FieldKind := .fixed 4

/-- A call of a generated function; `retval` is the size of the value it returns.  `whole`
copies the packet to one region of the stream's buffer, and may end with a flush; `split` copies
the words in front of the data, flushes, writes the size of the data and the data if there is
any, and copies the words behind it. -/
inductive EncCall
  | whole (op : Nat) (params : List Param) (retval : UInt32) (flush : Bool)
  | split (op : Nat) (head : List (BitVec 32)) (size : BitVec 32) (data : DataPtr)
      (tail : List (BitVec 32)) (retval : UInt32)

/-- A function that copies its parameters. -/
def packet (op : Nat) (params : List Param) : EncCall := .whole op params 0 false

/-- A function that also returns a value of some bytes. -/
def packetReturning (retval : UInt32) (op : Nat) (params : List Param) : EncCall :=
  .whole op params retval false

namespace EncCall

def message : EncCall → Message
  | whole op params _ _ => ⟨op, params.map Param.field⟩
  | split op head size data tail _ =>
      ⟨op, head.map (fun w => (Param.word w).field) ++
        .block (dataBytes data size) :: tail.map fun w => (Param.word w).field⟩

/-- The operation. -/
def op : EncCall → Nat
  | whole op .. | split op .. => op

/-- The kinds of the parameters. -/
def kinds : EncCall → List FieldKind
  | whole _ params _ _ => params.map Param.kind
  | split _ head _ _ tail _ =>
      head.map (fun _ => .fixed 4) ++ .block :: tail.map fun _ => .fixed 4

theorem op_message (c : EncCall) : c.message.op = c.op := by
  cases c <;> rfl

/-- The parameters of a call, once it has been computed. -/
theorem kinds_of_eq (table : Nat → Option (List FieldKind)) {c d : EncCall} (heq : c = d)
    (hkinds : table d.op = some d.kinds) : table c.op = some c.kinds := heq ▸ hkinds

theorem kinds_message (c : EncCall) : c.message.kinds = c.kinds := by
  cases c with
  | whole op params retval flush =>
      simp [message, Message.kinds, kinds, Function.comp_def, Param.kind_field]
  | split op head size data tail retval =>
      have hword (w : BitVec 32) : (Param.word w).field.kind = .fixed 4 := Param.kind_field (.word w)
      simp only [message, Message.kinds, kinds, List.map_append, List.map_cons, List.map_map,
        Function.comp_def, hword]
      rfl

/-- The size of the value that is returned. -/
def retval : EncCall → UInt32
  | whole _ _ retval _ => retval
  | split _ _ _ _ _ retval => retval

/-- The reads of a call: its outputs in their order, then the value it returns. -/
def readbacks (c : EncCall) : List UInt32 :=
  (match c with
    | whole _ params _ _ => params.flatMap Param.readback
    | split .. => []) ++ if c.retval = 0 then [] else [c.retval]

end EncCall

/-- A call whose packet has a size that a `size_t` counts, with what stood in the part of the
buffer that is kept for outputs: nothing is copied there. -/
structure Issued where
  call : EncCall
  leftover : List UInt8
  fits : call.message.Fits
  filled : leftover.length = call.message.room

namespace Issued

variable (i : Issued)

/-- The message with what stands in the room for its outputs. -/
def sent : Sent := ⟨i.call.message, i.leftover, i.fits, i.filled⟩

/-- The bytes of the packet. -/
def packet : List UInt8 := i.sent.packet

theorem length_packet : i.packet.length = i.call.message.size := Message.length_encode i.filled

/-- The whole packet in one region. -/
def region : Packet where
  bytes := i.packet
  pos := List.length_pos_iff.mpr i.sent.packet_ne_nil
  fits := i.length_packet ▸ i.fits.size

end Issued

/-- Words, as bytes. -/
def wordBytes (words : List (BitVec 32)) : List UInt8 :=
  words.flatMap fun w => littleEndian 4 w.toNat

/-- The header of a packet. -/
def header (m : Message) : List UInt8 := littleEndian 4 m.op ++ littleEndian 4 m.size

/-- `alloc` of some bytes that are then copied there, if there are any. -/
def allocCalls (bytes : List UInt8) : List Call :=
  if h : 0 < bytes.length ∧ bytes.length < 0x100000000 then [.alloc ⟨bytes, h.1, h.2⟩] else []

namespace Issued

/-- What a function does with the stream before it reads back.  The `flush` of the second
`flushWrite` finds nothing: the code has none there. -/
def streamCalls (i : Issued) : List Call :=
  match i.call with
  | .whole _ _ _ flush => .alloc i.region :: if flush then [.flush] else []
  | .split _ head size data tail _ =>
      allocCalls (header i.call.message ++ wordBytes head) ++
        [.flush, .flushWrite (littleEndian 4 (dataBytes data size).length),
          .flushWrite (dataBytes data size)] ++
        allocCalls (wordBytes tail)

end Issued

/-! ## What is put on the stream -/

theorem flatMap_packet_allocCalls {bytes : List UInt8} (h : bytes.length < 0x100000000) :
    (allocCalls bytes).flatMap Call.packet = bytes := by
  unfold allocCalls
  split
  · simp [Call.packet]
  · rename_i hcase
    have hnil : bytes = [] := List.eq_nil_of_length_eq_zero (by omega)
    simp [hnil]

@[simp] theorem length_wordBytes (words : List (BitVec 32)) :
    (wordBytes words).length = 4 * words.length := by
  simp [wordBytes, List.length_flatMap, Nat.mul_comm]

theorem flatMap_encode_words (words : List (BitVec 32)) :
    (words.map fun w => (Param.word w).field).flatMap Field.encode = wordBytes words := by
  simp [wordBytes, List.flatMap_map, Param.field, Field.encode]

theorem sum_room_words (words : List (BitVec 32)) :
    (words.map (Field.room ∘ fun w => (Param.word w).field)).sum = 0 := by
  induction words with
  | nil => rfl
  | cons w words ih => simpa [Param.field, Field.room] using ih

namespace Issued

variable (i : Issued)

/-- However a function writes its packet, the message is all it puts on the stream. -/
theorem flatMap_packet_streamCalls : i.streamCalls.flatMap Call.packet = i.packet := by
  have hsize := i.fits.size
  have hfilled := i.filled
  have hpacket : i.packet = i.call.message.encode i.leftover := rfl
  unfold streamCalls
  split
  · rename_i flush hcall
    cases flush <;> simp [Call.packet, region]
  · rename_i op head size data tail retval hcall
    have hroom : i.call.message.room = 0 := by
      rw [hcall]
      simp [EncCall.message, Message.room, Field.room, sum_room_words]
    have hbody : i.call.message.body = wordBytes head ++
        (littleEndian 4 (dataBytes data size).length ++
          (dataBytes data size ++ wordBytes tail)) := by
      rw [hcall]
      simp only [EncCall.message, Message.body, List.flatMap_append, List.flatMap_cons,
        flatMap_encode_words, Field.encode, List.append_assoc]
    have hleftover : i.leftover = [] := List.eq_nil_of_length_eq_zero (hfilled.trans hroom)
    have hlength := congrArg List.length hbody
    rw [Message.size] at hsize
    simp only [List.length_append, length_wordBytes] at hlength
    have hhead : (header i.call.message ++ wordBytes head).length < 0x100000000 := by
      simp only [header, List.length_append, length_littleEndian, length_wordBytes]
      omega
    have htail : (wordBytes tail).length < 0x100000000 := by
      rw [length_wordBytes]
      omega
    rw [List.flatMap_append, List.flatMap_append, flatMap_packet_allocCalls hhead,
      flatMap_packet_allocCalls htail, hpacket, Message.encode, hbody, hleftover]
    simp [Call.packet, header]

end Issued

/-! ## What is read back -/

theorem Param.sum_readback (p : Param) :
    (p.readback.map UInt32.toNat).sum = p.field.room := by
  cases p with
  | outputIf given size =>
      cases given <;> simp [readback, field, Field.room, sizeIf]
  | _ => simp [readback, field, Field.room]

/-- A call reads back the sizes that its message asks for, and the value it returns. -/
theorem Issued.sum_readbacks (i : Issued) :
    (i.call.readbacks.map UInt32.toNat).sum = i.call.message.room + i.call.retval.toNat := by
  have hretval : ((if i.call.retval = 0 then [] else [i.call.retval]).map UInt32.toNat).sum =
      i.call.retval.toNat := by
    split
    · rename_i hzero
      simp [hzero]
    · simp
  unfold EncCall.readbacks
  rw [List.map_append, List.sum_append, hretval]
  congr 1
  cases i.call with
  | whole op params retval flush =>
      simp only [EncCall.message, Message.room]
      induction params with
      | nil => rfl
      | cons p params ih => simp [p.sum_readback, ih]
  | split op head size data tail retval =>
      simp [EncCall.message, Message.room, Field.room, sum_room_words]

end Calls

section Sizes

open OpenGL OpenglCodecCommon

/-- The parameters with two values: `GL_ALIASED_LINE_WIDTH_RANGE`,
`GL_ALIASED_POINT_SIZE_RANGE`, `GL_DEPTH_RANGE`, `GL_MAX_VIEWPORT_DIMS`,
`GL_SMOOTH_POINT_SIZE_RANGE`, `GL_SMOOTH_LINE_WIDTH_RANGE`. -/
def twoValues : List GLenum :=
  [0x846E#32, 0x846D#32, 0x0B70#32, 0x0D3A#32, 0x0B12#32, 0x0B22#32]

/-- With three: `GL_SPOT_DIRECTION`, `GL_POINT_DISTANCE_ATTENUATION`, `GL_CURRENT_NORMAL`. -/
def threeValues : List GLenum := [0x1204#32, 0x8129#32, 0x0B02#32]

/-- With four: `GL_CURRENT_VERTEX_ATTRIB`, `GL_CURRENT_TEXTURE_COORDS`, `GL_CURRENT_COLOR`,
`GL_FOG_COLOR`, `GL_AMBIENT`, `GL_DIFFUSE`, `GL_SPECULAR`, `GL_EMISSION`, `GL_POSITION`,
`GL_LIGHT_MODEL_AMBIENT`, `GL_TEXTURE_ENV_COLOR`, `GL_SCISSOR_BOX`, `GL_VIEWPORT`,
`GL_TEXTURE_CROP_RECT_OES`, `GL_COLOR_CLEAR_VALUE`, `GL_COLOR_WRITEMASK`,
`GL_AMBIENT_AND_DIFFUSE`, `GL_BLEND_COLOR`. -/
def fourValues : List GLenum :=
  [0x8626#32, 0x0B03#32, 0x0B00#32, 0x0B66#32, 0x1200#32, 0x1201#32, 0x1202#32, 0x1600#32,
    0x1203#32, 0x0B53#32, 0x2201#32, 0x0C10#32, 0x0BA2#32, 0x8B9D#32, 0x0C22#32, 0x0C23#32,
    0x1602#32, 0x8005#32]

/-- With sixteen: `GL_MODELVIEW_MATRIX`, `GL_PROJECTION_MATRIX`, `GL_TEXTURE_MATRIX`. -/
def sixteenValues : List GLenum := [0x0BA6#32, 0x0BA7#32, 0x0BA8#32]

/-- `glUtilsParamSize`; the others have one value, and so has what it does not know. -/
def glUtilsParamSize (param : GLenum) : BitVec 32 :=
  if param ∈ twoValues then 2#32
  else if param ∈ threeValues then 3#32
  else if param ∈ fourValues then 4#32
  else if param ∈ sixteenValues then 16#32
  else 1#32

/-- What the functions ask of the encoder: the alignments of its state, the types that its shared
group has for the uniforms of a program, and the memory of the client. -/
structure EncoderContext where
  store : PixelStoreState
  uniformType : GLuint → GLint → GLenum
  memory : VoidPtr → UInt8

namespace EncoderContext

variable (ctx : EncoderContext)

def pixelDataSize (width height : GLint) (format type : GLenum) (pack : Bool) : BitVec 32 :=
  ctx.store.pixelDataSize width height format type pack

def pixelDataSize3D (width height depth : GLint) (format type : GLenum) (pack : Bool) :
    BitVec 32 :=
  ctx.pixelDataSize width height format type pack * depth

/-- The bytes that `glUtilsPackPointerData` copies to the packet. -/
def packed (data : VoidPtr) (size : GLint) (type : GLenum) (stride : GLint) (datalen : GLuint) :
    Memory :=
  fun i => ((Draws.glUtilsPackPointerData data size type stride datalen).map ctx.memory).getD i 0

end EncoderContext

end Sizes

end Wire
end DeviceAndroVM
