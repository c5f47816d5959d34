import DeviceAndroVM.Library.Transition
import DeviceAndroVM.OpenglCodecCommon.SharedRecords

/-!
# Overwriting a range of a buffer's shadow copy

`GLSharedGroup::subUpdateBufferData` decides with `m_size < offset + size` whether the
range lies in the buffer, in the wrapping arithmetic of a 32-bit target, and then
copies over the shadow bytes.

* `BufferData.InRange` — the range lies in the buffer, over the integers.
* `SubUpdateExact` — what the call should do, in both cases.
* `StoresAllocated` / `storesAllocated_run` — a record has as many bytes as it says,
  after any methods of the group.
* `subUpdateExact_iff` — the call is exact unless the end of the range does not fit the
  signed word.
-/

namespace DeviceAndroVM
namespace OpenglCodecCommon

open OpenGL Library

namespace BufferData

/-- `[offset, offset + size)` is a range of the buffer. -/
def InRange (buf : BufferData) (offset size : GLint) : Prop :=
  0 ≤ offset.toInt ∧ 0 ≤ size.toInt ∧ offset.toInt + size.toInt ≤ buf.size.toInt

instance (buf : BufferData) (offset size : GLint) : Decidable (buf.InRange offset size) :=
  inferInstanceAs (Decidable (_ ∧ _ ∧ _))

/-- `m_fixedBuffer` holds `m_size` bytes. -/
structure Allocated (buf : BufferData) : Prop where
  size_nonneg : 0 ≤ buf.size.toInt
  length_bytes : buf.bytes.length = buf.size.toInt.toNat

theorem allocated_ofData {size : GLint} (hsize : 0 ≤ size.toInt) (data : DataPtr) :
    (ofData size data).Allocated where
  size_nonneg := hsize
  length_bytes := ByteBlock.length_ofMemory _ _

theorem Allocated.subUpdated {buf : BufferData} (h : buf.Allocated) (offset size : GLint)
    (data : Nat → UInt8) : (buf.subUpdated offset size data).Allocated where
  size_nonneg := h.size_nonneg
  length_bytes := by
    unfold BufferData.subUpdated
    rw [ByteBlock.length_overwrite]
    exact h.length_bytes

/-- The signed value of a sum of two non-negative words. -/
theorem toInt_add_of_nonneg {offset size : GLint} (hoffset : 0 ≤ offset.toInt)
    (hsize : 0 ≤ size.toInt) :
    (offset + size).toInt =
      if offset.toInt + size.toInt < 2 ^ 31 then offset.toInt + size.toInt
      else offset.toInt + size.toInt - 2 ^ 32 := by
  have hoffset' := offset.toInt_lt
  have hsize' := size.toInt_lt
  rw [BitVec.toInt_add, Int.bmod_def]
  split
  · split <;> omega
  · split <;> omega

/-- The test of the code, read as integers: the sum is the wrapped one. -/
theorem subUpdateAccepts_iff (buf : BufferData) (offset size : GLint) :
    buf.subUpdateAccepts offset size = true ↔
      0 ≤ offset.toInt ∧ 0 ≤ size.toInt ∧ (offset + size).toInt ≤ buf.size.toInt := by
  simp only [subUpdateAccepts, BitVec.slt_eq_decide, BitVec.toInt_zero, Bool.not_eq_true',
    Bool.or_eq_false_iff, decide_eq_false_iff_not, not_lt]
  tauto

/-- What the test accepts is in range, or ends past the largest signed word. -/
theorem subUpdateAccepts_iff_inRange {buf : BufferData} (hbuf : 0 ≤ buf.size.toInt)
    (offset size : GLint) :
    buf.subUpdateAccepts offset size = true ↔
      buf.InRange offset size ∨
        (0 ≤ offset.toInt ∧ 0 ≤ size.toInt ∧ 2 ^ 31 ≤ offset.toInt + size.toInt) := by
  have hbound := buf.size.toInt_lt
  rw [subUpdateAccepts_iff]
  unfold InRange
  constructor
  · rintro ⟨hoffset, hsize, hsum⟩
    rw [toInt_add_of_nonneg hoffset hsize] at hsum
    split at hsum
    · exact Or.inl ⟨hoffset, hsize, hsum⟩
    · exact Or.inr ⟨hoffset, hsize, by omega⟩
  · rintro (⟨hoffset, hsize, hsum⟩ | ⟨hoffset, hsize, hsum⟩)
    · refine ⟨hoffset, hsize, ?_⟩
      rw [toInt_add_of_nonneg hoffset hsize, if_pos (by omega)]
      exact hsum
    · refine ⟨hoffset, hsize, ?_⟩
      -- the wrapped sum is negative, so it passes whatever the size of the buffer is
      have hoffset' := offset.toInt_lt
      have hsize' := size.toInt_lt
      rw [toInt_add_of_nonneg hoffset hsize, if_neg (by omega)]
      omega

end BufferData

namespace GLSharedGroup

/-! ## The sizes of the stored buffers -/

/-- Every buffer of the group has the bytes that its record says. -/
def StoresAllocated (shared : GLSharedGroup) : Prop :=
  ∀ bufferId buf, shared.buffers.lookup bufferId = some buf → buf.Allocated

theorem storesAllocated_init : init.StoresAllocated := by
  intro bufferId buf hlookup
  cases hlookup

end GLSharedGroup

/-- `s_glBufferData` of both encoders rejects a negative size before it defines a
store. -/
def GroupMethod.SizeChecked : GroupMethod → Prop
  | .updateBufferData _ size _ => 0 ≤ size.toInt
  | _ => True

namespace GLSharedGroup

variable {shared : GLSharedGroup}

theorem StoresAllocated.insert (h : shared.StoresAllocated) (bufferId : GLuint)
    {buf : BufferData} (hbuf : buf.Allocated) :
    StoresAllocated { shared with buffers := shared.buffers.insert bufferId buf } := by
  intro other found hlookup
  rw [lookup_insert_eq_ite] at hlookup
  split at hlookup
  · cases hlookup
    exact hbuf
  · exact h other found hlookup

theorem StoresAllocated.erase (h : shared.StoresAllocated) (bufferId : GLuint) :
    StoresAllocated { shared with buffers := shared.buffers.erase bufferId } := by
  intro other found hlookup
  rw [lookup_erase_eq_ite] at hlookup
  split at hlookup
  · cases hlookup
  · exact h other found hlookup

theorem StoresAllocated.subUpdateBufferData (h : shared.StoresAllocated) (bufferId : GLuint)
    (offset size : GLint) (data : Nat → UInt8) :
    (shared.subUpdateBufferData bufferId offset size data).2.StoresAllocated := by
  unfold GLSharedGroup.subUpdateBufferData
  cases hlookup : shared.buffers.lookup bufferId with
  | none => exact h
  | some buf =>
      dsimp only
      split
      · exact h
      · exact h.insert bufferId ((h bufferId buf hlookup).subUpdated offset size data)

variable (shared) in
theorem buffers_modifyProgram (program : GLuint) (f : ProgramData → ProgramData) :
    (shared.modifyProgram program f).buffers = shared.buffers := by
  unfold modifyProgram
  split <;> rfl

variable (shared) in
theorem buffers_unrefShaderDataLocked (shader : GLuint) (data : ShaderData) :
    (shared.unrefShaderDataLocked shader data).buffers = shared.buffers := by
  unfold unrefShaderDataLocked
  split <;> rfl

variable (shared) in
theorem buffers_unrefShaderData (shader : GLuint) :
    (shared.unrefShaderData shader).buffers = shared.buffers := by
  unfold unrefShaderData
  split
  · exact shared.buffers_unrefShaderDataLocked shader _
  · rfl

variable (shared) in
theorem buffers_attachShader (program shader : GLuint) :
    (shared.attachShader program shader).buffers = shared.buffers := by
  unfold attachShader
  split
  · dsimp only
    split <;> rfl
  · rfl

variable (shared) in
theorem buffers_detachShader (program shader : GLuint) :
    (shared.detachShader program shader).buffers = shared.buffers := by
  unfold detachShader
  split
  · dsimp only
    split
    · exact buffers_unrefShaderDataLocked _ shader _
    · rfl
  · rfl

/-- Every method keeps the sizes of the records true. -/
theorem storesAllocated_run (h : shared.StoresAllocated) {m : GroupMethod} (hm : m.SizeChecked) :
    (shared.run m).StoresAllocated := by
  have hbuffers : ∀ {group : GLSharedGroup}, group.buffers = shared.buffers →
      group.StoresAllocated := by
    intro group hgroup bufferId buf hlookup
    exact h bufferId buf (hgroup ▸ hlookup)
  cases m with
  | updateBufferData bufferId size data =>
      exact h.insert bufferId (BufferData.allocated_ofData hm data)
  | subUpdateBufferData bufferId offset size data =>
      exact h.subUpdateBufferData bufferId offset size data
  | deleteBufferData bufferId => exact h.erase bufferId
  | addProgramData program => exact hbuffers rfl
  | modifyProgram program f => exact hbuffers (shared.buffers_modifyProgram program f)
  | deleteProgramData program => exact hbuffers rfl
  | addShaderData shader => exact hbuffers rfl
  | unrefShaderData shader => exact hbuffers (shared.buffers_unrefShaderData shader)
  | attachShader program shader => exact hbuffers (shared.buffers_attachShader program shader)
  | detachShader program shader => exact hbuffers (shared.buffers_detachShader program shader)

/-- One method of the group, called as the encoders call it. -/
def MethodStep (shared : GLSharedGroup) (m : GroupMethod) (shared' : GLSharedGroup) : Prop :=
  m.SizeChecked ∧ shared' = shared.run m

theorem storesAllocated_endState {trace : List (GroupMethod × GLSharedGroup)}
    (hrun : Run MethodStep init trace) : (endState init trace).StoresAllocated := by
  refine hrun.inv_endState ?_ storesAllocated_init
  rintro s m s' h ⟨hm, rfl⟩
  exact storesAllocated_run h hm

/-! ## The exact range check -/

/-- The range of the call lies in the buffer of that name. -/
def AcceptsRange (shared : GLSharedGroup) (bufferId : GLuint) (offset size : GLint) : Prop :=
  ∃ buf, shared.buffers.lookup bufferId = some buf ∧ buf.InRange offset size

/-- What `subUpdateBufferData` should do.  The range is accepted exactly when it lies in
the buffer; then its bytes, and nothing else in the group, become the data; otherwise
nothing changes. -/
structure SubUpdateExact (shared : GLSharedGroup) (bufferId : GLuint) (offset size : GLint)
    (data : Nat → UInt8) : Prop where
  result_iff : (shared.subUpdateBufferData bufferId offset size data).1 = GL_NO_ERROR ↔
    shared.AcceptsRange bufferId offset size
  written : ∀ buf, shared.buffers.lookup bufferId = some buf → buf.InRange offset size →
    ∃ written, (shared.subUpdateBufferData bufferId offset size data).2.buffers.lookup
        bufferId = some written ∧
      written.size = buf.size ∧ written.bytes.length = buf.bytes.length ∧
      ∀ i < buf.bytes.length, written.bytes[i]? =
        if offset.toInt.toNat ≤ i ∧ i < offset.toInt.toNat + size.toInt.toNat
        then some (some (data (i - offset.toInt.toNat))) else buf.bytes[i]?
  elsewhere : ∀ other ≠ bufferId,
    (shared.subUpdateBufferData bufferId offset size data).2.buffers.lookup other =
      shared.buffers.lookup other
  programs : (shared.subUpdateBufferData bufferId offset size data).2.programs = shared.programs
  shaders : (shared.subUpdateBufferData bufferId offset size data).2.shaders = shared.shaders
  unchanged : ¬shared.AcceptsRange bufferId offset size →
    (shared.subUpdateBufferData bufferId offset size data).2 = shared

/-- A non-negative range of an existing buffer whose end is `2 ^ 31` or more. -/
def EndsPastWord (shared : GLSharedGroup) (bufferId : GLuint) (offset size : GLint) : Prop :=
  (shared.buffers.lookup bufferId).isSome ∧ 0 ≤ offset.toInt ∧ 0 ≤ size.toInt ∧
    2 ^ 31 ≤ offset.toInt + size.toInt

instance (bufferId : GLuint) (offset size : GLint) :
    Decidable (shared.EndsPastWord bufferId offset size) :=
  inferInstanceAs (Decidable (_ ∧ _ ∧ _ ∧ _))

/-- The call is accepted when the test of the code accepts the range. -/
theorem subUpdateBufferData_noError_iff (bufferId : GLuint) (offset size : GLint)
    (data : Nat → UInt8) :
    (shared.subUpdateBufferData bufferId offset size data).1 = GL_NO_ERROR ↔
      ∃ buf, shared.buffers.lookup bufferId = some buf ∧
        buf.subUpdateAccepts offset size = true := by
  unfold subUpdateBufferData
  cases hlookup : shared.buffers.lookup bufferId with
  | none => simp [GL_INVALID_VALUE, GL_NO_ERROR]
  | some buf =>
      cases haccepts : buf.subUpdateAccepts offset size with
      | false => simp [haccepts, GL_INVALID_VALUE, GL_NO_ERROR]
      | true => simp [haccepts]

/-- Accepted: the record of the name is replaced by the overwritten one. -/
theorem subUpdateBufferData_of_accepts {bufferId : GLuint} {buf : BufferData}
    (hlookup : shared.buffers.lookup bufferId = some buf) {offset size : GLint}
    (haccepts : buf.subUpdateAccepts offset size = true) (data : Nat → UInt8) :
    shared.subUpdateBufferData bufferId offset size data =
      (GL_NO_ERROR,
        { shared with
          buffers := shared.buffers.insert bufferId (buf.subUpdated offset size data) }) := by
  simp [subUpdateBufferData, hlookup, haccepts]

/-- Rejected, for whatever reason: the group is the same. -/
theorem subUpdateBufferData_of_error {bufferId : GLuint} {offset size : GLint}
    {data : Nat → UInt8}
    (herror : (shared.subUpdateBufferData bufferId offset size data).1 ≠ GL_NO_ERROR) :
    (shared.subUpdateBufferData bufferId offset size data).2 = shared := by
  unfold subUpdateBufferData at herror ⊢
  split
  · rfl
  · rename_i buf hlookup
    simp only [hlookup] at herror
    split
    · rfl
    · rename_i haccepts
      simp [haccepts] at herror

/-- Whatever is accepted, only the record of the name changes. -/
theorem subUpdateBufferData_elsewhere (bufferId : GLuint) (offset size : GLint)
    (data : Nat → UInt8) :
    (∀ other ≠ bufferId,
      (shared.subUpdateBufferData bufferId offset size data).2.buffers.lookup other =
        shared.buffers.lookup other) ∧
      (shared.subUpdateBufferData bufferId offset size data).2.programs = shared.programs ∧
      (shared.subUpdateBufferData bufferId offset size data).2.shaders = shared.shaders := by
  unfold subUpdateBufferData
  split
  · exact ⟨fun _ _ => rfl, rfl, rfl⟩
  · split
    · exact ⟨fun _ _ => rfl, rfl, rfl⟩
    · exact ⟨fun other hother => AList.lookup_insert_ne hother, rfl, rfl⟩

/-- With the sizes of the records true, the test is wrong only past the signed word. -/
theorem noError_iff_acceptsRange_or (h : shared.StoresAllocated) (bufferId : GLuint)
    (offset size : GLint) (data : Nat → UInt8) :
    (shared.subUpdateBufferData bufferId offset size data).1 = GL_NO_ERROR ↔
      shared.AcceptsRange bufferId offset size ∨ shared.EndsPastWord bufferId offset size := by
  rw [subUpdateBufferData_noError_iff]
  unfold AcceptsRange EndsPastWord
  cases hlookup : shared.buffers.lookup bufferId with
  | none => simp
  | some buf =>
      have hnonneg := (h bufferId buf hlookup).size_nonneg
      simp [BufferData.subUpdateAccepts_iff_inRange hnonneg]

/-- No buffer is large enough for a range that ends past the signed word. -/
theorem EndsPastWord.not_acceptsRange {bufferId : GLuint} {offset size : GLint}
    (h : shared.EndsPastWord bufferId offset size) :
    ¬shared.AcceptsRange bufferId offset size := by
  rintro ⟨buf, -, -, -, hsum⟩
  have hbound := buf.size.toInt_lt
  have hend := h.2.2.2
  omega

/-- In every group the encoders can build, overwriting a range is exact if and only if
the end of the range, where offset and size are non-negative and the buffer exists, is
representable as a signed 32-bit word. -/
theorem subUpdateExact_iff {trace : List (GroupMethod × GLSharedGroup)}
    (hrun : Run MethodStep init trace) (bufferId : GLuint) (offset size : GLint)
    (data : Nat → UInt8) :
    (endState init trace).SubUpdateExact bufferId offset size data ↔
      ¬(endState init trace).EndsPastWord bufferId offset size := by
  have hstores := storesAllocated_endState hrun
  generalize endState init trace = shared at hstores
  have hresult := noError_iff_acceptsRange_or hstores bufferId offset size data
  obtain ⟨helsewhere, hprograms, hshaders⟩ :=
    shared.subUpdateBufferData_elsewhere bufferId offset size data
  constructor
  · intro hexact hpast
    exact hpast.not_acceptsRange (hexact.result_iff.mp (hresult.mpr (Or.inr hpast)))
  · intro hpast
    have hiff := hresult.trans (or_iff_left hpast)
    refine ⟨hiff, ?_, helsewhere, hprograms, hshaders, ?_⟩
    · intro buf hlookup hrange
      have haccepts := (BufferData.subUpdateAccepts_iff_inRange
        (hstores bufferId buf hlookup).size_nonneg offset size).mpr (Or.inl hrange)
      rw [subUpdateBufferData_of_accepts hlookup haccepts]
      refine ⟨buf.subUpdated offset size data, AList.lookup_insert _, rfl,
        ByteBlock.length_overwrite _ _ _ _, ?_⟩
      intro i hi
      exact ByteBlock.getElem?_overwrite _ _ data hi
    · intro hrejected
      exact subUpdateBufferData_of_error (mt hiff.mp hrejected)

/-- A group after one `glBufferData` of eight bytes. -/
theorem run_eightBytes :
    Run MethodStep init
      (traceOf run init [.updateBufferData 1#32 8#32 none]) :=
  .next ⟨show (0 : Int) ≤ (8#32 : GLint).toInt by decide, rfl⟩ (.done _)

theorem subUpdateExact_iff_eightBytes :
    Run MethodStep init (traceOf run init [.updateBufferData 1#32 8#32 none]) ∧
      ((endState init (traceOf run init [.updateBufferData 1#32 8#32 none])).SubUpdateExact
          1#32 4#32 4#32 (fun _ => 0) ↔
        ¬(endState init (traceOf run init [.updateBufferData 1#32 8#32 none])).EndsPastWord
          1#32 4#32 4#32) :=
  ⟨run_eightBytes, subUpdateExact_iff run_eightBytes 1#32 4#32 4#32 fun _ => 0⟩

/-- One byte at offset `2 ^ 31 - 1` of a buffer of eight bytes is accepted. -/
theorem not_subUpdateExact_lastOffset :
    ¬∀ (trace : List (GroupMethod × GLSharedGroup)), Run MethodStep init trace →
      ∀ (bufferId : GLuint) (offset size : GLint) (data : Nat → UInt8),
        (endState init trace).SubUpdateExact bufferId offset size data := by
  intro hall
  have hexact := hall _ run_eightBytes 1#32 0x7FFFFFFF#32 1#32 fun _ => 0
  obtain ⟨buf, hlookup, hrange⟩ := hexact.result_iff.mp (by decide)
  have hbuf : buf = BufferData.ofData 8#32 none := by
    simpa [traceOf, run, updateBufferData] using hlookup.symm
  subst hbuf
  revert hrange
  decide

end GLSharedGroup

end OpenglCodecCommon
end DeviceAndroVM
