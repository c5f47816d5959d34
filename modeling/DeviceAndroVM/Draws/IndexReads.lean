import DeviceAndroVM.Draws.ElementDraws
import DeviceAndroVM.Library.Transition
import DeviceAndroVM.OpenglCodecCommon.SharedRecords

/-!
# Reading the indices of a bound buffer

With client-side arrays and a bound index buffer, `glDrawElements` takes the indices from
the shadow copy of the buffer: it looks up the record of the name and reads on from the
offset of the call.

* `indexReads` — the offsets, from the pointer on, that the scan, the shift and the copy
  read; `drawAdjusted_congr` says that nothing else matters.
* `IndexReadsSafe` — there is a record, and all that is read lies in it.
* `CoversIndices` — the condition on the record, the offset and the count.
* `eachStep_indexReadsSafe_iff` — all draws of a run are safe just when all meet it.
-/

namespace DeviceAndroVM
namespace Draws

open OpenGL Library OpenglCodecCommon GLESv2Enc

/-! ## What is read -/

/-- The bytes of `count` elements of `width` bytes, in the order of a loop over them. -/
def scanOffsets (width count : Nat) : List Nat :=
  (List.range count).flatMap fun i => (List.range width).map fun k => width * i + k

/-- The offsets that are read from the pointer on: by `minmax`, and then by `shiftIndices` or,
where the indices are sent as they are, by the copy of `glDrawElementsData`. -/
def indexReads (count : GLint) (type : GLenum) (indices : Nat → UInt8) : List Nat :=
  let n := count.toInt.toNat
  let copied := List.range (count * glSizeof type).toNat
  let adjusted (width : Nat) :=
    scanOffsets width n ++
      if (GLUtils.minmax width indices n).1 ≠ 0 then scanOffsets width n else copied
  if type = GL_BYTE ∨ type = GL_UNSIGNED_BYTE then adjusted 1
  else if type = GL_SHORT ∨ type = GL_UNSIGNED_SHORT then adjusted 2
  else copied

theorem mem_scanOffsets {width count k : Nat} :
    k ∈ scanOffsets width count ↔ k < count * width := by
  unfold scanOffsets
  simp only [List.mem_flatMap, List.mem_map, List.mem_range]
  constructor
  · rintro ⟨i, hi, j, hj, rfl⟩
    have hnext : (i + 1) * width ≤ count * width := Nat.mul_le_mul_right width hi
    rw [Nat.succ_mul, Nat.mul_comm i] at hnext
    omega
  · intro hk
    have hpos : 0 < width := Nat.pos_of_ne_zero fun h => by simp [h] at hk
    exact ⟨k / width, Nat.div_lt_of_lt_mul (by rwa [Nat.mul_comm]), k % width,
      Nat.mod_lt k hpos, Nat.div_add_mod k width⟩

/-- All bytes of the list are read, and no others. -/
theorem mem_indexReads {count : GLint} (hcount : 0 ≤ count.toInt) (type : GLenum)
    (indices : Nat → UInt8) {k : Nat} :
    k ∈ indexReads count type indices ↔ k < (count * glSizeof type).toNat := by
  have hadjusted : ∀ width, (glSizeof type).toNat = width → width ≤ 2 →
      (k ∈ scanOffsets width count.toInt.toNat ++
        (if (GLUtils.minmax width indices count.toInt.toNat).1 ≠ 0
          then scanOffsets width count.toInt.toNat
          else List.range (count * glSizeof type).toNat) ↔
        k < (count * glSizeof type).toNat) := by
    intro width hsize hwidth
    rw [List.mem_append, datalen_of_width hcount hsize hwidth, mem_scanOffsets]
    split
    · rw [mem_scanOffsets, or_self]
    · rw [List.mem_range, or_self]
  unfold indexReads
  dsimp only
  split
  · rename_i hbyte
    refine hadjusted 1 ?_ (by omega)
    rcases hbyte with rfl | rfl <;> rfl
  split
  · rename_i hshort
    refine hadjusted 2 ?_ (by omega)
    rcases hshort with rfl | rfl <;> rfl
  · exact List.mem_range

/-! ## Nothing else matters -/

section Congr

variable {width n : Nat} {m m' : Nat → UInt8}

theorem readIndex_congr (h : ∀ k < n * width, m k = m' k) {i : Nat} (hi : i < n) :
    GLUtils.readIndex width m i = GLUtils.readIndex width m' i := by
  unfold GLUtils.readIndex
  apply List.foldr_ext
  intro k hk high
  have hk' := List.mem_range.mp hk
  have hnext : (i + 1) * width ≤ n * width := Nat.mul_le_mul_right width hi
  rw [Nat.succ_mul, Nat.mul_comm i] at hnext
  rw [h (width * i + k) (by omega)]

theorem minmax_congr (h : ∀ k < n * width, m k = m' k) :
    GLUtils.minmax width m n = GLUtils.minmax width m' n := by
  unfold GLUtils.minmax
  apply List.foldl_ext
  intro found i hi
  rw [readIndex_congr h (List.mem_range.mp hi)]

theorem shiftIndices_congr (h : ∀ k < n * width, m k = m' k) (offset : Int) :
    GLUtils.shiftIndices width m n offset = GLUtils.shiftIndices width m' n offset := by
  unfold GLUtils.shiftIndices
  apply List.flatMap_congr
  intro i hi
  rw [readIndex_congr h (List.mem_range.mp hi)]

end Congr

/-- A draw depends on the memory behind the indices only at the offsets of `indexReads`. -/
theorem drawAdjusted_congr (api : Api) (ctx : Encoder) (mode : GLenum) {count : GLint}
    (hcount : 0 ≤ count.toInt) (type : GLenum) {m m' : Nat → UInt8}
    (h : ∀ k ∈ indexReads count type m, m k = m' k) :
    api.drawAdjusted ctx mode count type m = api.drawAdjusted ctx mode count type m' := by
  have hbytes : ∀ k < (count * glSizeof type).toNat, m k = m' k :=
    fun k hk => h k ((mem_indexReads hcount type m).mpr hk)
  have hcopied : (List.range (count * glSizeof type).toNat).map m =
      (List.range (count * glSizeof type).toNat).map m' :=
    List.map_congr_left fun k hk => hbytes k (List.mem_range.mp hk)
  have hadjusted : ∀ width, (glSizeof type).toNat = width → width ≤ 2 →
      GLUtils.minmax width m count.toInt.toNat = GLUtils.minmax width m' count.toInt.toNat ∧
        ∀ offset, GLUtils.shiftIndices width m count.toInt.toNat offset =
          GLUtils.shiftIndices width m' count.toInt.toNat offset := by
    intro width hsize hwidth
    rw [datalen_of_width hcount hsize hwidth] at hbytes
    exact ⟨minmax_congr hbytes, shiftIndices_congr hbytes⟩
  by_cases hbyte : type = GL_BYTE ∨ type = GL_UNSIGNED_BYTE
  · obtain ⟨hminmax, hshift⟩ := hadjusted 1 (by rcases hbyte with rfl | rfl <;> rfl) (by omega)
    cases api <;>
      simp only [Api.drawAdjusted, GLESv1Enc.GLEncoder.drawAdjusted, GL2Encoder.drawAdjusted,
        if_pos hbyte, hminmax, hshift, hcopied]
  by_cases hshort : type = GL_SHORT ∨ type = GL_UNSIGNED_SHORT
  · obtain ⟨hminmax, hshift⟩ := hadjusted 2 (by rcases hshort with rfl | rfl <;> rfl) (by omega)
    cases api <;>
      simp only [Api.drawAdjusted, GLESv1Enc.GLEncoder.drawAdjusted, GL2Encoder.drawAdjusted,
        if_neg hbyte, if_pos hshort, hminmax, hshift, hcopied]
  · cases api <;>
      simp only [Api.drawAdjusted, GLESv1Enc.GLEncoder.drawAdjusted, GL2Encoder.drawAdjusted,
        if_neg hbyte, if_neg hshort, hcopied]

/-! ## Reads of the shadow copy -/

/-- The places of the shadow copy, counted from its first byte, that the call reads; the sum of
the pointer and the offset wraps.  There is no result where the record is missing. -/
def shadowReads (ctx : Encoder) (count : GLint) (type : GLenum) (offset : VoidPtr)
    (memory : Nat → UInt8) : Option (List VoidPtr) :=
  if count.toInt < 0 then some []
  else
    (ctx.shared.getBufferData ctx.state.currentIndexVbo).map fun buf =>
      (indexReads count type (GL2Encoder.bufferMemory buf offset memory)).map fun k =>
        offset + BitVec.ofNat 32 k

/-- The record of the bound name exists and all that is read lies within its size, or the call
raises an error and reads nothing. -/
def IndexReadsSafe (api : Api) (ctx : Encoder) (mode : GLenum) (count : GLint) (type : GLenum)
    (offset : VoidPtr) (memory : Nat → UInt8) : Prop :=
  (∃ error, api.s_glDrawElements ctx mode count type offset memory = some (ctx.setError error) ∧
    shadowReads ctx count type offset memory = some []) ∨
  ∃ buf reads, ctx.shared.getBufferData ctx.state.currentIndexVbo = some buf ∧
    shadowReads ctx count type offset memory = some reads ∧
    ∀ place ∈ reads, (place.toNat : Int) < buf.size.toInt

/-- A negative count, or a record of the bound name that holds the `count` elements from the
offset on. -/
def CoversIndices (ctx : Encoder) (count : GLint) (type : GLenum) (offset : VoidPtr) : Prop :=
  count.toInt < 0 ∨
    ∃ buf ∈ ctx.shared.getBufferData ctx.state.currentIndexVbo,
      count * glSizeof type = 0#32 ∨
        ((offset.toNat + (count * glSizeof type).toNat : Nat) : Int) ≤ buf.size.toInt

instance (ctx : Encoder) (count : GLint) (type : GLenum) (offset : VoidPtr) :
    Decidable (CoversIndices ctx count type offset) := by
  unfold CoversIndices
  infer_instance

/-- Bytes from an offset on stay within a size exactly when their end does. -/
theorem places_inside_iff (offset : VoidPtr) {n : Nat} (hn : n ≤ 2 ^ 32) {size : Int}
    (hsize : size < 2 ^ 31) :
    (∀ k < n, ((offset + BitVec.ofNat 32 k).toNat : Int) < size) ↔
      n = 0 ∨ ((offset.toNat + n : Nat) : Int) ≤ size := by
  have hoffset := offset.isLt
  constructor
  · intro hinside
    by_contra hout
    push Not at hout
    obtain ⟨hne, hend⟩ := hout
    -- the first byte lies inside, so a later one is the first that does not
    have hfirst := hinside 0 (by omega)
    rw [BitVec.add_zero] at hfirst
    have hplace := hinside (size.toNat - offset.toNat) (by omega)
    rw [BitVec.toNat_add, BitVec.toNat_ofNat, Nat.mod_eq_of_lt (b := 2 ^ 32) (by omega),
      Nat.mod_eq_of_lt (by omega)] at hplace
    omega
  · rintro (rfl | hend) k hk
    · omega
    · rw [BitVec.toNat_add, BitVec.toNat_ofNat, Nat.mod_eq_of_lt (b := 2 ^ 32) (by omega),
        Nat.mod_eq_of_lt (by omega)]
      omega

/-- One draw with a bound index buffer and a client-side array is safe exactly when the record
covers the indices. -/
theorem indexReadsSafe_iff {api : Api} {ctx : Encoder}
    (himmediate : api.hasImmediateArrays ctx.state = true)
    (hvbo : ctx.state.currentIndexVbo ≠ 0#32) (mode : GLenum) (count : GLint) (type : GLenum)
    (offset : VoidPtr) (memory : Nat → UInt8) :
    IndexReadsSafe api ctx mode count type offset memory ↔
      CoversIndices ctx count type offset := by
  unfold IndexReadsSafe CoversIndices shadowReads
  by_cases hneg : count.toInt < 0
  · have herror : api.s_glDrawElements ctx mode count type offset memory =
        some (ctx.setError GL_INVALID_VALUE) := by
      cases api <;>
        simp only [Api.s_glDrawElements, GLESv1Enc.GLEncoder.s_glDrawElements,
          GL2Encoder.s_glDrawElements, if_pos hneg]
    rw [if_pos hneg]
    exact iff_of_true (Or.inl ⟨_, herror, rfl⟩) (Or.inl hneg)
  have hcount : 0 ≤ count.toInt := by omega
  rw [if_neg hneg, s_glDrawElements_of_immediate hcount himmediate, if_pos hvbo]
  cases hbuf : ctx.shared.getBufferData ctx.state.currentIndexVbo with
  | none => simp [hneg]
  | some buf =>
      have hplaces := places_inside_iff offset (BitVec.isLt (count * glSizeof type)).le
        buf.size.toInt_lt
      have hzero : count * glSizeof type = 0#32 ↔ (count * glSizeof type).toNat = 0 :=
        ⟨fun h => by rw [h]; rfl, fun h => BitVec.eq_of_toNat_eq h⟩
      have hmem : ∀ k, k ∈ indexReads count type (GL2Encoder.bufferMemory buf offset memory) ↔
          k < (count * glSizeof type).toNat := fun k => mem_indexReads hcount type _
      simp only [Option.map_some, Option.mem_def, Option.some.injEq, hneg, false_or,
        exists_eq_left', List.map_eq_nil_iff, exists_and_left, hzero]
      constructor
      · rintro (⟨_, -, hempty⟩ | hinside)
        · left
          by_contra hne
          have hread := (hmem 0).mpr (by omega)
          rw [hempty] at hread
          cases hread
        · refine hplaces.mp fun k hk => hinside _ (List.mem_map.mpr ⟨k, (hmem k).mpr hk, rfl⟩)
      · intro hcovers
        refine Or.inr fun place hplace => ?_
        obtain ⟨k, hk, rfl⟩ := List.mem_map.mp hplace
        exact hplaces.mpr hcovers k ((hmem k).mp hk)

/-! ## Runs -/

/-- A call of the context, or a method that another context of the share group runs. -/
inductive DrawLabel
  | gles1 (call : GLESv1Enc.GLEncoder.GLArrayCall)
  | gles2 (call : GL2Encoder.GL2BufferCall)
  | group (m : GroupMethod)

/-- The context after a step; a call that dereferences `NULL` leaves it as it was. -/
def drawStep (ctx : Encoder) : DrawLabel → Encoder
  | .gles1 call => (GLESv1Enc.GLEncoder.runArrayCall ctx call).getD ctx
  | .gles2 call => (GL2Encoder.runBufferCall ctx call).getD ctx
  | .group m => { ctx with shared := ctx.shared.run m }

/-- What `P` says of a `glDrawElements` with a bound index buffer and an enabled client-side
array. -/
def AtBufferDraw
    (P : Api → Encoder → GLenum → GLint → GLenum → VoidPtr → (Nat → UInt8) → Prop)
    (ctx : Encoder) : DrawLabel → Prop
  | .gles1 (.glDrawElements mode count type offset memory) =>
      Api.gles1.hasImmediateArrays ctx.state = true → ctx.state.currentIndexVbo ≠ 0#32 →
        P .gles1 ctx mode count type offset memory
  | .gles2 (.glDrawElements mode count type offset memory) =>
      Api.gles2.hasImmediateArrays ctx.state = true → ctx.state.currentIndexVbo ≠ 0#32 →
        P .gles2 ctx mode count type offset memory
  | _ => True

theorem atBufferDraw_congr
    {P Q : Api → Encoder → GLenum → GLint → GLenum → VoidPtr → (Nat → UInt8) → Prop}
    {ctx : Encoder}
    (h : ∀ api mode count type offset memory, api.hasImmediateArrays ctx.state = true →
      ctx.state.currentIndexVbo ≠ 0#32 → (P api ctx mode count type offset memory ↔
        Q api ctx mode count type offset memory)) (label : DrawLabel) :
    AtBufferDraw P ctx label ↔ AtBufferDraw Q ctx label := by
  cases label with
  | gles1 call =>
      cases call with
      | glDrawElements mode count type offset memory =>
          exact forall_congr' fun himmediate => forall_congr' fun hvbo =>
            h .gles1 mode count type offset memory himmediate hvbo
      | _ => exact Iff.rfl
  | gles2 call =>
      cases call with
      | glDrawElements mode count type offset memory =>
          exact forall_congr' fun himmediate => forall_congr' fun hvbo =>
            h .gles2 mode count type offset memory himmediate hvbo
      | _ => exact Iff.rfl
  | group m => exact Iff.rfl

/-- In every run of a context, from any share group, all draws that read their indices from a
shadow copy are safe if and only if at each of them the record covers the indices. -/
theorem eachStep_indexReadsSafe_iff {memory : Nat → VertexAttribState} {shared : GLSharedGroup}
    {trace : List (DrawLabel × Encoder)}
    (hrun : Run (fun ctx label ctx' => ctx' = drawStep ctx label) (Encoder.init memory shared)
      trace) :
    EachStep (fun ctx label _ => AtBufferDraw IndexReadsSafe ctx label)
        (Encoder.init memory shared) trace ↔
      EachStep (fun ctx label _ =>
          AtBufferDraw (fun _ ctx _ count type offset _ => CoversIndices ctx count type offset)
            ctx label) (Encoder.init memory shared) trace := by
  -- no invariant is needed: the condition is exact in every state
  have hkeep : ∀ (ctx : Encoder) (label : DrawLabel) (ctx' : Encoder), True →
      AtBufferDraw (fun _ ctx _ count type offset _ => CoversIndices ctx count type offset) ctx
        label → ctx' = drawStep ctx label → True := fun _ _ _ _ _ _ => trivial
  refine hrun.eachStep_iff_eachStep hkeep ?_ trivial
  intro ctx label ctx' _ _
  exact atBufferDraw_congr (fun api mode count type offset memory himmediate hvbo =>
    indexReadsSafe_iff himmediate hvbo mode count type offset memory) label

instance (P : Api → Encoder → GLenum → GLint → GLenum → VoidPtr → (Nat → UInt8) → Prop)
    [∀ api ctx mode count type offset memory, Decidable (P api ctx mode count type offset memory)]
    (ctx : Encoder) (label : DrawLabel) : Decidable (AtBufferDraw P ctx label) := by
  unfold AtBufferDraw
  split <;> infer_instance

/-- A draw of three byte indices from buffer 1, after the calls `filling` on it, with attribute 0
in client memory. -/
def bufferDraw (filling : List DrawLabel) : List DrawLabel :=
  .gles2 (.glBindBuffer GL_ELEMENT_ARRAY_BUFFER 1#32) :: filling ++
    [.gles2 (.glVertexAttribPointer 0#32 3#32 GL_FLOAT false 0#32 0x1000#32),
      .gles2 (.glEnableVertexAttribArray 0#32),
      .gles2 (.glDrawElements 4#32 3#32 GL_UNSIGNED_BYTE 0#32 fun _ => 0)]

def freshContext : Encoder :=
  Encoder.init (fun _ => ⟨0#32, 0#32, 0#32, 0#32, 0#32, 0#32, 0#32, false, false⟩)
    GLSharedGroup.init

theorem eachStep_indexReadsSafe_filled :
    EachStep (fun ctx label _ => AtBufferDraw IndexReadsSafe ctx label) freshContext
      (traceOf drawStep freshContext (bufferDraw
        [.gles2 (.glBufferData GL_ELEMENT_ARRAY_BUFFER 4#32 none 0x88E4#32)])) :=
  (eachStep_indexReadsSafe_iff (run_traceOf _ _ _)).mpr (by decide +kernel)

/-- Buffer 1 has been bound but never filled. -/
theorem not_eachStep_indexReadsSafe :
    ¬∀ trace, Run (fun ctx label ctx' => ctx' = drawStep ctx label) freshContext trace →
      EachStep (fun ctx label _ => AtBufferDraw IndexReadsSafe ctx label) freshContext trace := by
  intro hall
  have hsafe := (hall _ (run_traceOf drawStep freshContext (bufferDraw []))).2.2.2.1
    (by decide +kernel) (by decide +kernel)
  rw [indexReadsSafe_iff (by decide +kernel) (by decide +kernel)] at hsafe
  revert hsafe
  decide +kernel

end Draws
end DeviceAndroVM
