import DeviceAndroVM.Draws.IndexRange
import DeviceAndroVM.Draws.SentArrays

/-!
# `glDrawElements` with client-side arrays

Both encoders look for the least and the greatest index, send the elements between them,
and subtract the least index from all.

* `Api` — the two encoders.
* `DrawsSame` — what was sent draws the vertices of the call, and nothing else was read.
* `drawsSame_of_count` — so it is for a list of indices that is not empty.
* `drawsSame_iff` — and not for an empty one, where element -1 is read.
-/

namespace DeviceAndroVM
namespace Draws

open OpenGL Library OpenglCodecCommon GLESv2Enc

/-! ## The two encoders -/

/-- `GLEncoder` and `GL2Encoder`. -/
inductive Api
  | gles1
  | gles2
  deriving DecidableEq

namespace Api

/-- The locations that a draw looks at. -/
def locations : Api → Nat
  | gles1 => LAST_LOCATION
  | gles2 => CODEC_MAX_VERTEX_ATTRIBUTES

def key : Api → Nat → ArrayKey
  | gles1 => arrayKey
  | gles2 => attribKey

def hasImmediateArrays : Api → GLClientState → Bool
  | gles1 => GLESv1Enc.GLEncoder.hasImmediateArrays
  | gles2 => GL2Encoder.hasImmediateArrays

def s_glDrawElements : Api → Encoder → GLenum → GLint → GLenum → VoidPtr → (Nat → UInt8) →
    Option Encoder
  | gles1 => GLESv1Enc.GLEncoder.s_glDrawElements
  | gles2 => GL2Encoder.s_glDrawElements

/-- `sendVertexData` and `sendVertexAttributes`. -/
def sendArrays : Api → Encoder → GLint → GLint → Encoder
  | gles1 => GLESv1Enc.GLEncoder.sendVertexData
  | gles2 => GL2Encoder.sendVertexAttributes

def drawAdjusted : Api → Encoder → GLenum → GLint → GLenum → (Nat → UInt8) → Encoder
  | gles1 => GLESv1Enc.GLEncoder.drawAdjusted
  | gles2 => GL2Encoder.drawAdjusted

/-- What the locations need of an attribute. -/
def fits : Api → Nat → VertexAttribState → Prop
  | gles1, i, attrib => ArraySizeFits i attrib
  | gles2, _, _ => True

instance (api : Api) (i : Nat) (attrib : VertexAttribState) : Decidable (api.fits i attrib) := by
  cases api with
  | gles1 => exact inferInstanceAs (Decidable (ArraySizeFits i attrib))
  | gles2 => exact inferInstanceAs (Decidable True)

theorem key_injective (api : Api) :
    ∀ i < api.locations, ∀ j < api.locations, api.key i = api.key j → i = j := by
  cases api with
  | gles1 => exact arrayKey_injective
  | gles2 =>
      intro i hi j hj hkey
      have hlimit : Api.gles2.locations ≤ 2 ^ 32 := by decide
      exact attribKey_injective (by omega) (by omega) hkey

end Api

/-- The enabled arrays that a draw looks at have been set up by pointer calls. -/
structure WellFormedArrays (api : Api) (state : GLClientState) : Prop where
  length : state.nLocations = CODEC_MAX_VERTEX_ATTRIBUTES
  attribs : ∀ i < api.locations, ∀ attrib, state.states[i]? = some attrib →
    attrib.enabled ≠ 0#32 → WellFormedAttrib attrib ∧ api.fits i attrib

/-- The loops of both encoders, for arrays that are set up. -/
theorem sendArrays_sends {api : Api} {ctx : Encoder} (h : WellFormedArrays api ctx.state)
    (first count : GLint) :
    ∃ cmds, SendsArrays api.key first count api.locations ctx
      (api.sendArrays ctx first count) cmds := by
  cases api with
  | gles1 =>
      have hturn : ∀ (ctx' : Encoder) (i : Nat), i < LAST_LOCATION →
          (∀ attrib, ctx'.state.states[i]? = some attrib → attrib.enabled ≠ 0#32 →
            ArraySizeFits i attrib) →
          ∃ cmds, SendsArray arrayKey first count i ctx'
            (GLESv1Enc.GLEncoder.sendVertexArray first count ctx' i) cmds :=
        fun ctx' i hi hfits => sendVertexArray_sendsArray first count ctx' hi hfits
      exact SendsArrays.loop hturn arrayKey_injective
        fun i hi attrib hattrib henabled => (h.attribs i hi attrib hattrib henabled).2
  | gles2 =>
      have hturn : ∀ (ctx' : Encoder) (i : Nat), i < CODEC_MAX_VERTEX_ATTRIBUTES →
          (∀ attrib, ctx'.state.states[i]? = some attrib → attrib.enabled ≠ 0#32 → True) →
          ∃ cmds, SendsArray attribKey first count i ctx'
            (GL2Encoder.sendVertexAttribute first count ctx' i) cmds :=
        fun ctx' i _ _ => sendVertexAttribute_sendsArray first count ctx' i
      show ∃ cmds, SendsArrays attribKey first count CODEC_MAX_VERTEX_ATTRIBUTES ctx
        (GL2Encoder.sendVertexAttributes ctx first count) cmds
      unfold GL2Encoder.sendVertexAttributes
      rw [h.length]
      exact SendsArrays.loop hturn (Api.key_injective .gles2) fun _ _ _ _ _ => trivial

/-! ## The indices -/

/-- The bytes of an index of the types that `glDrawElements` has. -/
def indexWidth (type : GLenum) : Nat := if type = GL_UNSIGNED_BYTE then 1 else 2

/-- The memory that the indices are read from: the shadow copy of the bound index buffer, or
what is behind the pointer. -/
def indexSource (ctx : Encoder) (indices : VoidPtr) (memory : Nat → UInt8) : Nat → UInt8 :=
  if ctx.state.currentIndexVbo = 0#32 then memory
  else
    match ctx.shared.getBufferData ctx.state.currentIndexVbo with
    | some buf => GL2Encoder.bufferMemory buf indices memory
    | none => memory

/-! ## The property -/

/-- The commands of the call are some that set up the arrays and one that draws, and
* every enabled array has, at the place of every index, the element of the call;
* every index sent is within the range sent;
* only elements between two indices of the call are read from the client. -/
def DrawsSame (api : Api) (ctx : Encoder) (mode : GLenum) (count : GLint) (type : GLenum)
    (source : Nat → UInt8) (ctx' : Encoder) : Prop :=
  ∃ sent data datalen,
    ctx'.stream = ctx.stream ++ sent ++ [.glDrawElementsData mode count type data datalen] ∧
    data.length = count.toInt.toNat * indexWidth type ∧ datalen.toNat = data.length ∧
    (∀ i < api.locations, ∀ attrib, ctx.state.states[i]? = some attrib →
      attrib.enabled ≠ 0#32 → ∀ host : HostPointers, ∃ pointer,
        (host.execs sent).pointer (api.key i) = some pointer ∧
        ∀ p < count.toInt.toNat,
          pointer.element (GLUtils.readIndex (indexWidth type) (GLUtils.memoryOf data) p) =
            vertexElement attrib (GLUtils.readIndex (indexWidth type) source p)) ∧
    (∀ least greatest, GLUtils.IndexRange (indexWidth type) source count.toInt.toNat least
      greatest → ∀ p < count.toInt.toNat,
        GLUtils.readIndex (indexWidth type) (GLUtils.memoryOf data) p ≤ greatest - least) ∧
    ∀ address ∈ sent.flatMap vertexReads,
      ∃ i < api.locations, ∃ attrib, ctx.state.states[i]? = some attrib ∧ Immediate attrib ∧
        ∃ p < count.toInt.toNat, ∃ q < count.toInt.toNat, ∃ k addresses,
          GLUtils.readIndex (indexWidth type) source p ≤ k ∧
          k ≤ GLUtils.readIndex (indexWidth type) source q ∧
          vertexElement attrib k = .client addresses ∧ address ∈ addresses

/-! ## The draw -/

/-- The bytes of the indices that are sent: shifted ones unless the least index is 0. -/
def adjustedData (width : Nat) (indices : Nat → UInt8) (count datalen : Nat) : List UInt8 :=
  if (GLUtils.minmax width indices count).1 ≠ 0 then
    GLUtils.shiftIndices width indices count (-(GLUtils.minmax width indices count).1)
  else (List.range datalen).map indices

theorem drawAdjusted_eq (api : Api) {type : GLenum}
    (htype : type = GL_UNSIGNED_BYTE ∨ type = GL_UNSIGNED_SHORT) (ctx : Encoder) (mode : GLenum)
    (count : GLint) (indices : Nat → UInt8) :
    api.drawAdjusted ctx mode count type indices =
      (api.sendArrays ctx
        (BitVec.ofInt 32 (GLUtils.minmax (indexWidth type) indices count.toInt.toNat).1)
        (BitVec.ofInt 32 ((GLUtils.minmax (indexWidth type) indices count.toInt.toNat).2 -
          (GLUtils.minmax (indexWidth type) indices count.toInt.toNat).1 + 1))).emit
        (.glDrawElementsData mode count type
          (adjustedData (indexWidth type) indices count.toInt.toNat
            (count * glSizeof type).toNat) (count * glSizeof type)) := by
  rcases htype with rfl | rfl
  · cases api <;> rfl
  · cases api <;> rfl

/-- The bytes of a list of elements of one or two bytes. -/
theorem datalen_of_width {count : GLint} (hcount : 0 ≤ count.toInt) {type : GLenum} {width : Nat}
    (hsize : (glSizeof type).toNat = width) (hwidth : width ≤ 2) :
    (count * glSizeof type).toNat = count.toInt.toNat * width := by
  have hlt := count.toInt_lt
  have hnat : count.toNat = count.toInt.toNat := by
    rw [BitVec.toInt_eq_toNat_cond] at hcount ⊢
    have := count.isLt
    split at hcount <;> omega
  have hmul := Nat.mul_le_mul_left count.toInt.toNat hwidth
  rw [BitVec.toNat_mul, hsize, hnat, Nat.mod_eq_of_lt (by omega)]

theorem datalen_eq {type : GLenum} (htype : type = GL_UNSIGNED_BYTE ∨ type = GL_UNSIGNED_SHORT)
    {count : GLint} (hcount : 0 ≤ count.toInt) :
    (count * glSizeof type).toNat = count.toInt.toNat * indexWidth type := by
  rcases htype with rfl | rfl
  · exact datalen_of_width hcount rfl (by decide)
  · exact datalen_of_width hcount rfl (by decide)

theorem length_adjustedData (width : Nat) (indices : Nat → UInt8) (count : Nat) :
    (adjustedData width indices count (count * width)).length = count * width := by
  unfold adjustedData
  split
  · exact length_pieces (fun _ => GLUtils.length_indexBytes _) count
  · simp

/-- Index `p` of what is sent, for a list that has a range. -/
theorem readIndex_adjustedData {width : Nat} {indices : Nat → UInt8} {count least greatest : Nat}
    (hrange : GLUtils.IndexRange width indices count least greatest)
    (hfound : GLUtils.minmax width indices count = ((least : Int), (greatest : Int)))
    {p : Nat} (hp : p < count) :
    GLUtils.readIndex width
        (GLUtils.memoryOf (adjustedData width indices count (count * width))) p =
      GLUtils.readIndex width indices p - least := by
  have hlow := hrange.least_le p hp
  have hlt : GLUtils.readIndex width indices p < 256 ^ width := GLUtils.readIndex_lt p
  unfold adjustedData
  rw [hfound]
  dsimp only
  split
  · have hbase : (256 : Int) ^ width = ((256 ^ width : Nat) : Int) := by
      push_cast
      rfl
    rw [GLUtils.readIndex_shiftIndices _ hp, hbase, Int.emod_eq_of_lt (by omega) (by omega)]
    omega
  · -- the indices are sent as they are
    rename_i hzero
    have hleast : least = 0 := by omega
    rw [hleast, Nat.sub_zero]
    unfold GLUtils.readIndex
    apply List.foldr_ext
    intro k hk high
    have hinside : width * p + k < count * width := by
      have hk' := List.mem_range.mp hk
      have hnext : (p + 1) * width ≤ count * width := Nat.mul_le_mul_right width hp
      rw [Nat.succ_mul, Nat.mul_comm p] at hnext
      omega
    simp [GLUtils.memoryOf, hinside]

/-- Some location that the draw looks at is sent from client memory. -/
theorem exists_immediate {api : Api} {state : GLClientState}
    (hlength : state.nLocations = CODEC_MAX_VERTEX_ATTRIBUTES)
    (himmediate : api.hasImmediateArrays state = true) :
    ∃ i < api.locations, ∃ attrib, state.states[i]? = some attrib ∧ Immediate attrib := by
  have hlocations : ∀ attrib, (attrib.enabled != 0#32 && attrib.bufferObject == 0#32) = true →
      Immediate attrib := by
    intro attrib h
    simpa [Immediate] using h
  cases api with
  | gles1 =>
      obtain ⟨attrib, hmem, hattrib⟩ := List.any_eq_true.mp
        (himmediate : ((state.states.take LAST_LOCATION).any _) = true)
      obtain ⟨i, hi, heq⟩ := List.mem_iff_getElem.mp hmem
      rw [List.length_take] at hi
      refine ⟨i, lt_of_lt_of_le hi (Nat.min_le_left _ _), attrib, ?_, hlocations attrib hattrib⟩
      rw [List.getElem_take] at heq
      exact List.getElem?_eq_some_iff.mpr ⟨by omega, heq⟩
  | gles2 =>
      obtain ⟨attrib, hmem, hattrib⟩ := List.any_eq_true.mp
        (himmediate : (state.states.any _) = true)
      obtain ⟨i, hi, heq⟩ := List.mem_iff_getElem.mp hmem
      refine ⟨i, ?_, attrib, List.getElem?_eq_some_iff.mpr ⟨hi, heq⟩, hlocations attrib hattrib⟩
      rw [GLClientState.nLocations] at hlength
      rw [hlength] at hi
      exact hi

/-- With an immediate array the call adjusts the indices, from a buffer or from the client. -/
theorem s_glDrawElements_of_immediate {api : Api} {ctx : Encoder} {count : GLint}
    (hcount : 0 ≤ count.toInt) (himmediate : api.hasImmediateArrays ctx.state = true)
    (mode type : GLenum) (indices : VoidPtr) (memory : Nat → UInt8) :
    api.s_glDrawElements ctx mode count type indices memory =
      if ctx.state.currentIndexVbo ≠ 0#32 then
        (ctx.shared.getBufferData ctx.state.currentIndexVbo).map fun buf =>
          api.drawAdjusted (ctx.emit (.glBindBuffer GL_ELEMENT_ARRAY_BUFFER 0#32)) mode count
            type (GL2Encoder.bufferMemory buf indices memory)
      else some (api.drawAdjusted ctx mode count type memory) := by
  have hnonneg : ¬count.toInt < 0 := by omega
  cases api with
  | gles1 =>
      have himmediate' : GLESv1Enc.GLEncoder.hasImmediateArrays ctx.state = true := himmediate
      show GLESv1Enc.GLEncoder.s_glDrawElements ctx mode count type indices memory = _
      unfold GLESv1Enc.GLEncoder.s_glDrawElements
      rw [if_neg hnonneg, himmediate']
      simp only [Bool.not_true, Bool.false_and, Bool.false_eq_true, if_false]
      cases ctx.shared.getBufferData ctx.state.currentIndexVbo <;> rfl
  | gles2 =>
      have himmediate' : GL2Encoder.hasImmediateArrays ctx.state = true := himmediate
      show GL2Encoder.s_glDrawElements ctx mode count type indices memory = _
      unfold GL2Encoder.s_glDrawElements
      rw [if_neg hnonneg, himmediate']
      simp only [Bool.not_true, Bool.false_and, Bool.false_eq_true, if_false]
      cases ctx.shared.getBufferData ctx.state.currentIndexVbo <;> rfl

/-- What such a call does to the stream before it sends the arrays sets no pointer. -/
theorem s_glDrawElements_adjusts {api : Api} {ctx ctx' : Encoder} {mode : GLenum} {count : GLint}
    {type : GLenum} {indices : VoidPtr} {memory : Nat → UInt8} (hcount : 0 ≤ count.toInt)
    (himmediate : api.hasImmediateArrays ctx.state = true)
    (hcall : api.s_glDrawElements ctx mode count type indices memory = some ctx') :
    ∃ base before, base.state = ctx.state ∧ base.stream = ctx.stream ++ before ∧ Quiet before ∧
      ctx' = api.drawAdjusted base mode count type (indexSource ctx indices memory) := by
  rw [s_glDrawElements_of_immediate hcount himmediate] at hcall
  unfold indexSource
  split at hcall
  · rename_i hvbo
    obtain ⟨buf, hbuf, rfl⟩ := Option.map_eq_some_iff.mp hcall
    rw [if_neg hvbo, hbuf]
    -- the index buffer is unbound before anything is sent
    exact ⟨ctx.emit (.glBindBuffer GL_ELEMENT_ARRAY_BUFFER 0#32),
      [.glBindBuffer GL_ELEMENT_ARRAY_BUFFER 0#32], rfl, rfl, ⟨fun _ => rfl, rfl⟩, rfl⟩
  · rename_i hvbo
    rw [if_pos (not_not.mp hvbo)]
    exact ⟨ctx, [], rfl, (List.append_nil _).symm, ⟨fun _ => rfl, rfl⟩,
      (Option.some.inj hcall).symm⟩

section Draw

variable {api : Api} {ctx ctx' : Encoder} {mode : GLenum} {count : GLint} {type : GLenum}
  {indices : VoidPtr} {memory : Nat → UInt8}

/-- The range of a list of indices of two bytes or less, as the encoder computes with it. -/
theorem rangeWords {type : GLenum} {source : Nat → UInt8} {n least greatest : Nat}
    (hrange : GLUtils.IndexRange (indexWidth type) source n least greatest) :
    least ≤ greatest ∧ greatest - least + 1 ≤ 2 ^ 16 ∧
      BitVec.ofInt 32 (least : Int) = BitVec.ofNat 32 least ∧
      BitVec.ofInt 32 ((greatest : Int) - (least : Int) + 1) =
        BitVec.ofNat 32 (greatest - least + 1) := by
  obtain ⟨p, hp, hleast⟩ := hrange.least_mem
  obtain ⟨q, hq, hgreatest⟩ := hrange.greatest_mem
  have hle := hrange.le_greatest p hp
  have hlt : GLUtils.readIndex (indexWidth type) source q < 256 ^ indexWidth type :=
    GLUtils.readIndex_lt q
  have hwidth : 256 ^ indexWidth type ≤ 2 ^ 16 := by
    unfold indexWidth
    split <;> decide
  refine ⟨by omega, by omega, BitVec.ofInt_natCast .., ?_⟩
  rw [← BitVec.ofInt_natCast]
  congr 1
  omega

/-- A list of indices that is not empty draws the vertices of the call. -/
theorem drawsSame_of_count (h : WellFormedArrays api ctx.state)
    (htype : type = GL_UNSIGNED_BYTE ∨ type = GL_UNSIGNED_SHORT) (hcount : 0 < count.toInt)
    (himmediate : api.hasImmediateArrays ctx.state = true)
    (hcall : api.s_glDrawElements ctx mode count type indices memory = some ctx') :
    DrawsSame api ctx mode count type (indexSource ctx indices memory) ctx' := by
  obtain ⟨base, before, hstate, hstream, hquiet, rfl⟩ :=
    s_glDrawElements_adjusts hcount.le himmediate hcall
  generalize indexSource ctx indices memory = source
  obtain ⟨least, greatest, hrange, hfound⟩ : ∃ least greatest,
      GLUtils.IndexRange (indexWidth type) source count.toInt.toNat least greatest ∧
        GLUtils.minmax (indexWidth type) source count.toInt.toNat =
          ((least : Int), (greatest : Int)) := GLUtils.minmax_range (by omega)
  obtain ⟨hle, hlimit, hfirst, hnumber⟩ := rangeWords hrange
  rw [drawAdjusted_eq api htype, hfound]
  dsimp only
  rw [hfirst, hnumber, datalen_eq htype hcount.le]
  rw [← hstate] at h
  obtain ⟨cmds, hsent⟩ := sendArrays_sends h (BitVec.ofNat 32 least)
    (BitVec.ofNat 32 (greatest - least + 1))
  refine ⟨before ++ cmds,
    adjustedData (indexWidth type) source count.toInt.toNat
      (count.toInt.toNat * indexWidth type), count * glSizeof type, ?_,
    length_adjustedData _ _ _, ?_, ?_, ?_, ?_⟩
  · show (api.sendArrays base _ _).stream ++ _ = _
    rw [hsent.stream, hstream, List.append_assoc ctx.stream]
  · rw [length_adjustedData, datalen_eq htype hcount.le]
  · intro i hi attrib hattrib henabled host
    rw [← hstate] at hattrib
    obtain ⟨hattribute, -⟩ := h.attribs i hi attrib hattrib henabled
    have hpointer := hsent.pointer i hi attrib hattrib henabled (host.execs before)
    rw [← HostPointers.execs_append] at hpointer
    refine ⟨_, hpointer, ?_⟩
    intro p hp
    have hlow := hrange.least_le p hp
    have hhigh := hrange.le_greatest p hp
    rw [readIndex_adjustedData hrange hfound hp,
      hattribute.element_attribPointer hlimit least (by omega), Nat.add_sub_cancel' hlow]
  · intro least' greatest' hrange' p hp
    obtain ⟨q, hq, hleast⟩ := hrange.least_mem
    have hlow := hrange'.least_le q hq
    have hhigh := hrange'.le_greatest p hp
    rw [readIndex_adjustedData hrange hfound hp]
    omega
  · intro address hmem
    rw [List.flatMap_append, hquiet.reads, List.nil_append, hsent.mem_reads] at hmem
    obtain ⟨i, hi, attrib, hattrib, hclient, hmem⟩ := hmem
    obtain ⟨hattribute, -⟩ := h.attribs i hi attrib hattrib hclient.1
    obtain ⟨k, hk, addresses, helement, hmem⟩ :=
      hattribute.mem_attribReads hlimit least hclient.2 hmem
    obtain ⟨p, hp, hleast⟩ := hrange.least_mem
    obtain ⟨q, hq, hgreatest⟩ := hrange.greatest_mem
    rw [hstate] at hattrib
    exact ⟨i, hi, attrib, hattrib, hclient, p, hp, q, hq, least + k, addresses, by omega,
      by omega, helement, hmem⟩

/-- For an empty list the code sends one element from index -1 on. -/
theorem not_drawsSame_of_empty (h : WellFormedArrays api ctx.state)
    (htype : type = GL_UNSIGNED_BYTE ∨ type = GL_UNSIGNED_SHORT) (hcount : count.toInt = 0)
    (himmediate : api.hasImmediateArrays ctx.state = true)
    (hcall : api.s_glDrawElements ctx mode count type indices memory = some ctx') :
    ¬DrawsSame api ctx mode count type (indexSource ctx indices memory) ctx' := by
  obtain ⟨base, before, hstate, hstream, hquiet, rfl⟩ :=
    s_glDrawElements_adjusts hcount.ge himmediate hcall
  obtain ⟨i, hi, attrib, hattrib, hclient⟩ := exists_immediate h.length himmediate
  obtain ⟨hattribute, -⟩ := h.attribs i hi attrib hattrib hclient.1
  rw [← hstate] at h hattrib
  obtain ⟨cmds, hsent⟩ := sendArrays_sends h (BitVec.ofInt 32 (-1)) (BitVec.ofInt 32 (-1 - -1 + 1))
  have hread : sentStart attrib (BitVec.ofInt 32 (-1)) ∈
      (before ++ cmds).flatMap vertexReads := by
    rw [List.flatMap_append, hquiet.reads, List.nil_append, hsent.mem_reads]
    refine ⟨i, hi, attrib, hattrib, hclient, ?_⟩
    have hvsize : 0 < (attrib.size * glSizeof attrib.type).toNat := by
      rw [hattribute.vsize_eq]
      exact hattribute.elementSize_bounds.1
    have hone : attrib.elementSize * BitVec.ofInt 32 (-1 - -1 + 1) =
        attrib.size * glSizeof attrib.type := by
      rw [show BitVec.ofInt 32 (-1 - -1 + 1) = 1#32 from rfl, BitVec.mul_one, hattribute.vsize_eq]
    unfold attribReads
    rw [hone]
    exact mem_glUtilsPackPointerData hvsize _ _
  rintro ⟨sent, data, datalen, hsame, -, -, -, -, hreads⟩
  rw [drawAdjusted_eq api htype, show count.toInt.toNat = 0 by omega, GLUtils.minmax_zero] at hsame
  dsimp only at hsame
  -- the commands before the draw are those of the loop
  have hcmds : before ++ cmds = sent := by
    have hdrop := congrArg List.dropLast hsame
    rw [List.dropLast_concat] at hdrop
    have hinit : (api.sendArrays base (BitVec.ofInt 32 (-1))
        (BitVec.ofInt 32 (-1 - -1 + 1))).stream = ctx.stream ++ sent := by
      rw [← hdrop]
      exact List.dropLast_concat.symm
    rw [hsent.stream, hstream, List.append_assoc] at hinit
    exact List.append_cancel_left hinit
  obtain ⟨_, _, _, _, _, p, hp, _⟩ := hreads _ (hcmds ▸ hread)
  omega

end Draw

instance (api : Api) (state : GLClientState) : Decidable (WellFormedArrays api state) :=
  decidable_of_iff (state.nLocations = CODEC_MAX_VERTEX_ATTRIBUTES ∧
      ∀ i < api.locations, ∀ attrib ∈ state.states[i]?, attrib.enabled ≠ 0#32 →
        WellFormedAttrib attrib ∧ api.fits i attrib)
    ⟨fun h => ⟨h.1, fun i hi attrib hattrib => h.2 i hi attrib hattrib⟩,
      fun h => ⟨h.length, fun i hi attrib hattrib => h.attribs i hi attrib hattrib⟩⟩

/-- A context with attribute 0 in client memory: three floats, 16 bytes apart. -/
def oneArray : Encoder :=
  let fresh := Encoder.init (fun _ => ⟨0#32, 0#32, 0#32, 0#32, 0#32, 0#32, 0#32, false, false⟩)
    GLSharedGroup.init
  GL2Encoder.s_glEnableVertexAttribArray
    (GL2Encoder.s_glVertexAtrribPointer fresh 0#32 3#32 GL_FLOAT false 16#32 0x1000#32) 0#32

theorem wellFormedArrays_oneArray : WellFormedArrays .gles2 oneArray.state := by
  decide +kernel

theorem hasImmediateArrays_oneArray : Api.gles2.hasImmediateArrays oneArray.state = true := by
  decide +kernel

theorem s_glDrawElements_oneArray {count : GLint} (hcount : 0 ≤ count.toInt) (type : GLenum)
    (memory : Nat → UInt8) :
    Api.gles2.s_glDrawElements oneArray 4#32 count type 0#32 memory =
      some (Api.gles2.drawAdjusted oneArray 4#32 count type memory) := by
  rw [s_glDrawElements_of_immediate hcount hasImmediateArrays_oneArray]
  rfl

end Draws
end DeviceAndroVM
