import DeviceAndroVM.Draws.PointerData
import DeviceAndroVM.Library.Sink
import DeviceAndroVM.Library.WhileLoop

/-!
# The bytes of packed vertex data

`glUtilsPackPointerData` packs vertex data into memory and `glUtilsWritePackPointerData` into a
stream.  Both copy elements that lie without gaps as one block and others one by one, in a loop
that goes on by the size of an element; with elements of no bytes it would not come to an end.

* `packTurn` — one turn of the loops.
* `GlUtilsPackPointerData`, `GlUtilsWritePackPointerData` — the code, with all the bytes.
* `packLoop_iff` — the loop ends and has written the elements.
* `packed_elements` — so do both functions, on either way.
* `packedAddresses_iff` — what `glUtilsPackPointerData` says about the addresses is what happens.
-/

namespace DeviceAndroVM
namespace Draws

open OpenGL Library OpenglCodecCommon

/-- `n` bytes of the client's memory. -/
def bytesFrom (memory : VoidPtr → UInt8) (src : VoidPtr) (n : Nat) : List UInt8 :=
  (addressesFrom src n).map memory

/-- The variables of the loops, and what has been written to. -/
structure PackCursor (Out : Type) where
  i : GLuint
  src : VoidPtr
  out : Out

section Code

variable {Out : Type} (sink : Sink Out) (memory : VoidPtr → UInt8)

/-- One turn of `for (unsigned int i = 0; i < datalen; i += vsize)`.  The loop is left without a
result when there is no room. -/
def packTurn (vsize stride datalen : GLuint) (c : PackCursor Out) :
    Iteration (PackCursor Out) (Option Out) :=
  if c.i < datalen then
    match sink.put c.out (bytesFrom memory c.src vsize.toNat) with
    | none => .leave none
    | some out => .again { i := c.i + vsize, src := c.src + stride, out }
  else .leave (some c.out)

/-- The loop from its beginning to its end. -/
def PackLoop (out : Out) (src : VoidPtr) (vsize stride datalen : GLuint) :
    Option Out → Prop :=
  WhileRun (packTurn sink memory vsize stride datalen) { i := 0#32, src, out }

/-- The two functions, which write to different things: the function ends with that result. -/
def PackPointerData (out : Out) (src : VoidPtr) (size : GLint) (type : GLenum)
    (stride datalen : GLuint) (result : Option Out) : Prop :=
  let vsize := size * glSizeof type
  let stride := if stride = 0#32 then vsize else stride
  if stride = vsize then result = sink.put out (bytesFrom memory src datalen.toNat)
  else PackLoop sink memory out src vsize stride datalen result

/-- `glUtilsPackPointerData`. -/
abbrev GlUtilsPackPointerData (dst : Destination) := PackPointerData .memory memory dst

/-- `glUtilsWritePackPointerData`, with the bytes that the stream is given to write; what
`writeFully` returns is not looked at. -/
abbrev GlUtilsWritePackPointerData (stream : List UInt8) := PackPointerData .stream memory stream

end Code

/-- `n` elements of `width` bytes, one every `stride` bytes of the client's memory. -/
def elementBytes (memory : VoidPtr → UInt8) (src : VoidPtr) (stride : GLuint) (width n : Nat) :
    List UInt8 :=
  pieces (fun k => bytesFrom memory (src + stride * BitVec.ofNat 32 k) width) n

/-! ## The loop -/

section Loop

variable {Out : Type} {sink : Sink Out} {memory : VoidPtr → UInt8} {vsize datalen : GLuint}

theorem elementBytes_succ (src : VoidPtr) (stride : GLuint) (width left : Nat) :
    elementBytes memory src stride width (left + 1) =
      bytesFrom memory src width ++ elementBytes memory (src + stride) stride width left := by
  unfold elementBytes
  rw [pieces_succ_eq_cons]
  congr 1
  · simp
  · congr 1
    funext k
    rw [BitVec.ofNat_add, BitVec.mul_add, BitVec.mul_one, BitVec.add_comm (stride * _),
      BitVec.add_assoc]

theorem elementBytes_zero_width (src : VoidPtr) (stride : GLuint) (n : Nat) :
    elementBytes memory src stride 0 n = [] := by
  simp [elementBytes, pieces, bytesFrom, addressesFrom]

/-- All bytes have been counted: the loop ends. -/
theorem packTurn_run_done {c : PackCursor Out} (hend : ¬c.i < datalen) (stride : GLuint)
    (result : Option Out) :
    WhileRun (packTurn sink memory vsize stride datalen) c result ↔ result = some c.out := by
  have hturn : packTurn sink memory vsize stride datalen c = .leave (some c.out) := if_neg hend
  rw [WhileRun.leave_iff hturn]

/-- The loop with `left` elements to go. -/
theorem packTurn_run_iff (hvsize : 0 < vsize.toNat) {left : Nat} {c : PackCursor Out}
    (hleft : c.i.toNat + left * vsize.toNat = datalen.toNat) (stride : GLuint)
    (result : Option Out) :
    WhileRun (packTurn sink memory vsize stride datalen) c result ↔
      result = sink.put c.out (elementBytes memory c.src stride vsize.toNat left) := by
  induction left generalizing c with
  | zero =>
      have hend : ¬c.i < datalen := by
        rw [BitVec.lt_def]
        omega
      rw [packTurn_run_done hend, elementBytes, pieces_zero, sink.put_nil]
  | succ left ih =>
      rw [Nat.succ_mul] at hleft
      have hgo : c.i < datalen := by
        rw [BitVec.lt_def]
        omega
      have hnext : (c.i + vsize).toNat = c.i.toNat + vsize.toNat := by
        rw [BitVec.toNat_add, Nat.mod_eq_of_lt (by omega)]
      rw [elementBytes_succ, sink.put_append]
      cases hput : sink.put c.out (bytesFrom memory c.src vsize.toNat) with
      | none =>
          have hturn : packTurn sink memory vsize stride datalen c = .leave none := by
            rw [packTurn, if_pos hgo, hput]
          rw [WhileRun.leave_iff hturn, Option.bind_none]
      | some out =>
          have hturn : packTurn sink memory vsize stride datalen c =
              .again { i := c.i + vsize, src := c.src + stride, out } := by
            rw [packTurn, if_pos hgo, hput]
          rw [WhileRun.again_iff hturn, Option.bind_some]
          exact ih (by rw [hnext]; omega)

/-- For whole elements the loop ends, also for elements of no bytes, and has written them. -/
theorem packLoop_iff {n : Nat} (hdatalen : datalen.toNat = n * vsize.toNat) (out : Out)
    (src : VoidPtr) (stride : GLuint) (result : Option Out) :
    PackLoop sink memory out src vsize stride datalen result ↔
      result = sink.put out (elementBytes memory src stride vsize.toNat n) := by
  unfold PackLoop
  rcases Nat.eq_zero_or_pos vsize.toNat with hzero | hpos
  · -- there is no turn
    rw [hzero, Nat.mul_zero] at hdatalen
    have hend : ¬0#32 < datalen := by
      rw [BitVec.lt_def]
      omega
    rw [packTurn_run_done hend, hzero, elementBytes_zero_width, sink.put_nil]
  · refine packTurn_run_iff hpos ?_ stride result
    rw [hdatalen, show (0#32 : GLuint).toNat = 0 from rfl, Nat.zero_add]

/-- Both ways of the functions write the elements: the copy of one block, which is taken for
elements without gaps, and the loop. -/
theorem packPointerData_iff {size : GLint} {type : GLenum} {n : Nat}
    (hdatalen : datalen.toNat = n * (size * glSizeof type).toNat) (out : Out) (src : VoidPtr)
    (stride : GLuint) (result : Option Out) :
    PackPointerData sink memory out src size type stride datalen result ↔
      result = sink.put out (elementBytes memory src
        (elementStride stride (size * glSizeof type)) (size * glSizeof type).toNat n) := by
  unfold PackPointerData elementStride
  dsimp only
  generalize size * glSizeof type = vsize at hdatalen ⊢
  generalize (if stride = 0#32 then vsize else stride) = step
  split
  · rename_i hpacked
    subst hpacked
    have hblock : bytesFrom memory src datalen.toNat = elementBytes memory src step step.toNat n := by
      unfold bytesFrom elementBytes
      rw [hdatalen, addressesFrom_mul, pieces, List.map_flatMap]
      rfl
    rw [hblock]
  · exact packLoop_iff hdatalen out src step result

end Loop

/-! ## The elements -/

/-- The bytes of an element, counted in integers: `size` components of the type. -/
def elementWidth (size : GLint) (type : GLenum) : Int := size.toInt * (glSizeof type).toNat

/-- A size in integers that is one of a machine word is the one that the functions compute. -/
theorem toNat_mul_glSizeof {size : GLint} {type : GLenum} (hlow : 0 ≤ elementWidth size type)
    (hhigh : elementWidth size type < 2 ^ 32) :
    (size * glSizeof type).toNat = (elementWidth size type).toNat := by
  unfold elementWidth at hlow hhigh ⊢
  generalize glSizeof type = components at hlow hhigh ⊢
  rw [BitVec.toNat_mul]
  rw [BitVec.toInt_eq_toNat_cond] at hlow hhigh ⊢
  split at hlow
  · rename_i hnonneg
    rw [if_pos hnonneg] at hhigh ⊢
    rw [← Nat.cast_mul, Int.toNat_natCast, Nat.mod_eq_of_lt]
    exact_mod_cast hhigh
  · -- a negative number of components has no size but with components of no bytes
    rename_i hneg
    have hlt := size.isLt
    have hzero : components.toNat = 0 := by
      by_contra hne
      have hproduct := Int.mul_neg_of_neg_of_pos
        (show (size.toNat : Int) - (2 ^ 32 : Nat) < 0 by omega)
        (show (0 : Int) < components.toNat by omega)
      exact absurd hlow (by omega)
    simp [hzero]

/-- Elements of whole components, counted in integers, are those that the functions write. -/
theorem elementBytes_width (memory : VoidPtr → UInt8) {size : GLint} {type : GLenum}
    {datalen : GLuint} {n : Nat} (hdatalen : (datalen.toNat : Int) = n * elementWidth size type)
    (src : VoidPtr) (stride : GLuint) :
    datalen.toNat = n * (size * glSizeof type).toNat ∧
      elementBytes memory src stride (elementWidth size type).toNat n =
        elementBytes memory src stride (size * glSizeof type).toNat n := by
  rcases Nat.eq_zero_or_pos n with rfl | hn
  · rw [Nat.cast_zero, Int.zero_mul, Int.natCast_eq_zero] at hdatalen
    exact ⟨by rw [hdatalen, Nat.zero_mul], rfl⟩
  · have hlow : 0 ≤ elementWidth size type := by
      by_contra hneg
      have hproduct := Int.mul_neg_of_pos_of_neg (show (0 : Int) < n by omega) (not_le.mp hneg)
      omega
    have hle := Int.mul_le_mul_of_nonneg_right (show (1 : Int) ≤ n by omega) hlow
    rw [Int.one_mul] at hle
    have hwidth := toNat_mul_glSizeof hlow (by have := datalen.isLt; omega)
    refine ⟨?_, by rw [hwidth]⟩
    rw [hwidth, ← Int.natCast_inj, hdatalen, Nat.cast_mul, Int.toNat_of_nonneg hlow]

/-- For a length of whole elements both functions end, also when an element has no bytes, and
have written just the elements, one after the other: `glUtilsPackPointerData` to `dst` and
`glUtilsWritePackPointerData` to the stream.  The loop does the same where the functions copy one
block instead. -/
theorem packed_elements (memory : VoidPtr → UInt8) (src : VoidPtr) (size : GLint) (type : GLenum)
    (stride datalen : GLuint) (n : Nat)
    (hdatalen : (datalen.toNat : Int) = n * elementWidth size type) (dst : Destination)
    (stream : List UInt8) :
    let step := elementStride stride (size * glSizeof type)
    let elements := elementBytes memory src step (elementWidth size type).toNat n
    (∀ result, GlUtilsPackPointerData memory dst src size type stride datalen result ↔
      result = dst.memcpy elements) ∧
    (∀ result, GlUtilsWritePackPointerData memory stream src size type stride datalen result ↔
      result = some (stream ++ elements)) ∧
    (∀ result, PackLoop .memory memory dst src (size * glSizeof type) step datalen result ↔
      result = dst.memcpy elements) ∧
    ∀ result, PackLoop .stream memory stream src (size * glSizeof type) step datalen result ↔
      result = some (stream ++ elements) := by
  intro step elements
  obtain ⟨hlength, helements⟩ := elementBytes_width memory hdatalen src step
  have hbytes : elements = elementBytes memory src step (size * glSizeof type).toNat n := helements
  rw [hbytes]
  exact ⟨packPointerData_iff hlength dst src stride, packPointerData_iff hlength stream src stride,
    packLoop_iff hlength dst src step, packLoop_iff hlength stream src step⟩

/-- Two elements of two `GLshort`s, six bytes apart. -/
theorem packed_elements_shorts :
    GlUtilsPackPointerData (fun address => UInt8.ofNat address.toNat)
        ⟨[0xFF], [0, 0, 0, 0, 0, 0, 0, 0, 0xFF]⟩ 0x10#32 2#32 GL_SHORT 6#32 8#32
        (some ⟨[0xFF, 0x10, 0x11, 0x12, 0x13, 0x16, 0x17, 0x18, 0x19], [0xFF]⟩) ∧
      GlUtilsWritePackPointerData (fun address => UInt8.ofNat address.toNat) [0xFF]
        0x10#32 2#32 GL_SHORT 6#32 8#32
        (some [0xFF, 0x10, 0x11, 0x12, 0x13, 0x16, 0x17, 0x18, 0x19]) := by
  obtain ⟨hmemory, hstream, -⟩ := packed_elements (fun address => UInt8.ofNat address.toNat)
    0x10#32 2#32 GL_SHORT 6#32 8#32 2 (by decide)
    ⟨[0xFF], [0, 0, 0, 0, 0, 0, 0, 0, 0xFF]⟩ [0xFF]
  exact ⟨(hmemory _).mpr (by decide), (hstream _).mpr (by decide)⟩

/-! ## The addresses -/

/-- What is written are the bytes at the addresses that `glUtilsPackPointerData` lists. -/
theorem packedAddresses_iff {Out : Type} {sink : Sink Out} {memory : VoidPtr → UInt8}
    {size : GLint} {type : GLenum} {datalen : GLuint} {n : Nat}
    (hdatalen : datalen.toNat = n * (size * glSizeof type).toNat) (out : Out) (src : VoidPtr)
    (stride : GLuint) (result : Option Out) :
    PackPointerData sink memory out src size type stride datalen result ↔
      result = sink.put out ((glUtilsPackPointerData src size type stride datalen).map memory) := by
  rw [packPointerData_iff hdatalen]
  rcases Nat.eq_zero_or_pos (size * glSizeof type).toNat with hzero | hpos
  · -- no bytes at all
    rw [hzero, Nat.mul_zero] at hdatalen
    have hnone : glUtilsPackPointerData src size type stride datalen = [] := by
      simp [glUtilsPackPointerData, hdatalen, packLoop, addressesFrom]
    rw [hzero, elementBytes_zero_width, hnone, List.map_nil]
  · rw [glUtilsPackPointerData_eq hpos hdatalen, elementBytes, pieces, pieces, List.map_flatMap]
    rfl

end Draws
end DeviceAndroVM
