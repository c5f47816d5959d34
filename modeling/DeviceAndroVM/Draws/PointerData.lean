import DeviceAndroVM.Library.Chunks
import DeviceAndroVM.OpenglCodecCommon.Encoder

/-!
# Vertex arrays from the client to the host

The data of a client-side array is packed when the pointer command is written: of every
vertex the bytes of its element, one after the other.  Here a byte sent is represented
by the client address it was read at.

* `glUtilsPackPointerData` — the code.
* `glUtilsPackPointerData_eq` — whole elements are packed as whole elements.
* `vertexElement` — where element `k` of an attribute is, for the application.
* `HostPointers` — the arrays on the host after a stream of commands, and where element `k`
  of one of them comes from.
-/

namespace DeviceAndroVM
namespace Draws

open OpenGL Library OpenglCodecCommon

/-! ## Packing -/

/-- The addresses of `size` bytes from `start` on. -/
def addressesFrom (start : VoidPtr) (size : Nat) : List VoidPtr :=
  (List.range size).map fun j => start + BitVec.ofNat 32 j

/-- The loop of `glUtilsPackPointerData`, for at most `fuel` turns. -/
def packLoop (vsize stride datalen : GLuint) : Nat → GLuint → VoidPtr → List VoidPtr
  | 0, _, _ => []
  | fuel + 1, i, src =>
      if i < datalen then
        addressesFrom src vsize.toNat ++ packLoop vsize stride datalen fuel (i + vsize) (src + stride)
      else []

/-- `glUtilsPackPointerData`: the addresses that are read, in the order of the bytes that are
written.  Every turn of the loop with a non-zero `vsize` writes a byte or more. -/
def glUtilsPackPointerData (src : VoidPtr) (size : GLint) (type : GLenum)
    (stride datalen : GLuint) : List VoidPtr :=
  let vsize := size * glSizeof type
  let stride := if stride = 0#32 then vsize else stride
  if stride = vsize then addressesFrom src datalen.toNat
  else packLoop vsize stride datalen datalen.toNat 0#32 src

@[simp] theorem length_addressesFrom (start : VoidPtr) (size : Nat) :
    (addressesFrom start size).length = size := by
  simp [addressesFrom]

/-- The loop writes the elements that are left. -/
theorem packLoop_eq {vsize stride datalen : GLuint} (hvsize : 0 < vsize.toNat)
    {left fuel : Nat} (hfuel : left ≤ fuel) {i : GLuint}
    (hleft : i.toNat + left * vsize.toNat = datalen.toNat) (src : VoidPtr) :
    packLoop vsize stride datalen fuel i src =
      pieces (fun k => addressesFrom (src + stride * BitVec.ofNat 32 k) vsize.toNat) left := by
  induction left generalizing fuel i src with
  | zero =>
      cases fuel with
      | zero => rfl
      | succ fuel =>
          have hend : ¬i < datalen := by
            rw [BitVec.lt_def]
            omega
          rw [packLoop, if_neg hend, pieces_zero]
  | succ left ih =>
      obtain ⟨fuel, rfl⟩ : ∃ rest, fuel = rest + 1 := ⟨fuel - 1, by omega⟩
      rw [Nat.succ_mul] at hleft
      have hnext : (i + vsize).toNat = i.toNat + vsize.toNat := by
        rw [BitVec.toNat_add, Nat.mod_eq_of_lt (by omega)]
      have hgo : i < datalen := by
        rw [BitVec.lt_def]
        omega
      rw [packLoop, if_pos hgo, pieces_succ_eq_cons,
        ih (by omega) (by rw [hnext]; omega)]
      congr 1
      · simp
      · congr 1
        funext k
        congr 1
        rw [BitVec.ofNat_add, BitVec.mul_add, BitVec.mul_one, BitVec.add_comm (stride * _),
          BitVec.add_assoc]

/-- The distance of two elements: a stride of 0 stands for elements without gaps. -/
def elementStride (stride vsize : GLuint) : GLuint := if stride = 0#32 then vsize else stride

/-- Elements without gaps are one run of bytes. -/
theorem addressesFrom_mul (src : VoidPtr) (vsize : GLuint) (count : Nat) :
    addressesFrom src (count * vsize.toNat) =
      pieces (fun k => addressesFrom (src + vsize * BitVec.ofNat 32 k) vsize.toNat) count := by
  have hpiece : ∀ k, addressesFrom (src + vsize * BitVec.ofNat 32 k) vsize.toNat =
      (List.range vsize.toNat).map fun j => src + BitVec.ofNat 32 (k * vsize.toNat + j) := by
    intro k
    unfold addressesFrom
    apply List.map_congr_left
    intro j _
    rw [BitVec.ofNat_add, BitVec.ofNat_mul, BitVec.ofNat_toNat, BitVec.setWidth_eq,
      BitVec.mul_comm (BitVec.ofNat 32 k), BitVec.add_assoc]
  rw [pieces_eq_map (fun j => src + BitVec.ofNat 32 j) hpiece]
  rfl

/-- The data of whole elements: element after element, from wherever the stride has them. -/
theorem glUtilsPackPointerData_eq {size : GLint} {type : GLenum}
    (hvsize : 0 < (size * glSizeof type).toNat) {count : Nat} {datalen : GLuint}
    (hdatalen : datalen.toNat = count * (size * glSizeof type).toNat) (stride : GLuint)
    (src : VoidPtr) :
    glUtilsPackPointerData src size type stride datalen =
      pieces (fun k => addressesFrom
        (src + elementStride stride (size * glSizeof type) * BitVec.ofNat 32 k)
        (size * glSizeof type).toNat) count := by
  unfold glUtilsPackPointerData elementStride
  dsimp only
  generalize size * glSizeof type = vsize at hvsize hdatalen ⊢
  generalize (if stride = 0#32 then vsize else stride) = step
  split
  · rename_i hpacked
    subst hpacked
    rw [hdatalen, addressesFrom_mul]
  · refine packLoop_eq hvsize ?_ ?_ src
    · rw [hdatalen]
      exact Nat.le_mul_of_pos_right count hvsize
    · rw [hdatalen, show (0#32 : GLuint).toNat = 0 from rfl, Nat.zero_add]

/-- An array with elements is read: the first byte is the one at the pointer. -/
theorem mem_glUtilsPackPointerData {size : GLint} {type : GLenum}
    (hvsize : 0 < (size * glSizeof type).toNat) (stride : GLuint) (src : VoidPtr) :
    src ∈ glUtilsPackPointerData src size type stride (size * glSizeof type) := by
  rw [glUtilsPackPointerData_eq hvsize (Nat.one_mul _).symm]
  refine mem_pieces.mpr ⟨0, Nat.one_pos, List.mem_map.mpr ⟨0, List.mem_range.mpr hvsize, ?_⟩⟩
  simp

/-! ## Elements -/

/-- Where the bytes of an element are: at addresses of the client, or from an offset on in
a buffer. -/
inductive Element
  | client (addresses : List VoidPtr)
  | buffer (name offset : GLuint)
  deriving DecidableEq

/-- Element `k` of an attribute as the application has set it up. -/
def vertexElement (attrib : VertexAttribState) (k : Nat) : Element :=
  let first := attrib.data +
    elementStride attrib.stride attrib.elementSize * BitVec.ofNat 32 k
  if attrib.bufferObject = 0#32 then .client (addressesFrom first attrib.elementSize.toNat)
  else .buffer attrib.bufferObject first

/-! ## The host -/

/-- An array of the host, by the number of the generic attribute or the client array. -/
inductive ArrayKey
  | attrib (index : GLuint)
  | clientArray (array : ArrayPointer)
  deriving DecidableEq

/-- What an array points to: packed data that came with the command, with the size of an
element, or a buffer. -/
inductive HostPointer
  | data (size : Nat) (bytes : List VoidPtr)
  | buffer (name offset stride : GLuint)

/-- Element `k` of an array. -/
def HostPointer.element (k : Nat) : HostPointer → Element
  | data size bytes => .client (pieceAt size k bytes)
  | buffer name offset stride => .buffer name (offset + stride * BitVec.ofNat 32 k)

/-- The components of a vertex of a client array; the pointer calls for normals and point
sizes have none among their arguments. -/
def arrayComponents (array : ArrayPointer) (size : Option GLint) : GLint :=
  match size with
  | some components => components
  | none => if array = .glNormalPointer then 3#32 else 1#32

/-- The pointers of the arrays, and the buffer that is bound for the next ones. -/
structure HostPointers where
  arrayBuffer : GLuint
  pointer : ArrayKey → Option HostPointer

namespace HostPointers

variable (host : HostPointers)

def setPointer (key : ArrayKey) (pointer : HostPointer) : HostPointers :=
  { host with pointer := Function.update host.pointer key (some pointer) }

/-- One command.  Packed data is used without its stride. -/
def exec : GLCmd → HostPointers
  | .glBindBuffer target buffer =>
      if target = GL_ARRAY_BUFFER then { host with arrayBuffer := buffer } else host
  | .glVertexAttribPointerData indx size type _ stride data datalen =>
      host.setPointer (.attrib indx) (.data (size * glSizeof type).toNat
        (glUtilsPackPointerData data size type stride datalen))
  | .glVertexAttribPointerOffset indx size type _ stride offset =>
      host.setPointer (.attrib indx) (.buffer host.arrayBuffer offset
        (elementStride stride (size * glSizeof type)))
  | .glArrayPointerData array size type stride data datalen =>
      host.setPointer (.clientArray array)
        (.data (arrayComponents array size * glSizeof type).toNat
          (glUtilsPackPointerData data (arrayComponents array size) type stride datalen))
  | .glArrayPointerOffset array size type stride offset =>
      host.setPointer (.clientArray array) (.buffer host.arrayBuffer offset
        (elementStride stride (arrayComponents array size * glSizeof type)))
  | _ => host

/-- The pointers after a stream of commands. -/
def execs (cmds : List GLCmd) : HostPointers := cmds.foldl exec host

end HostPointers

/-- The client addresses of vertex data that a command reads. -/
def vertexReads : GLCmd → List VoidPtr
  | .glVertexAttribPointerData _ size type _ stride data datalen =>
      glUtilsPackPointerData data size type stride datalen
  | .glArrayPointerData array size type stride data datalen =>
      glUtilsPackPointerData data (arrayComponents array size) type stride datalen
  | _ => []

end Draws
end DeviceAndroVM
