import DeviceAndroVM.Library.RecordTable
import DeviceAndroVM.OpenglCodecCommon.GLSharedGroup

/-!
# The records of `GLSharedGroup` by address

`getBufferData` and `getShaderData` hand out pointers into the group, so here the
records are kept as the code keeps them: `KeyedVector`s of pointers to records on
the heap.

* `SharedRecords` — the group with the addresses of its records.
* `GroupMethod` — the locked methods that change the group.
* `Represents` / `Represents.run` — the group of `GLSharedGroup` is this one with
  the addresses left out, and every method does the same on both.
* `isLive_buffers_run_iff` / `isLive_shaders_run_iff` — which method deletes the
  record at a given address.
-/

namespace DeviceAndroVM
namespace OpenglCodecCommon

open OpenGL Library

/-- `class GLSharedGroup`, with the addresses of the records that it hands out. -/
structure SharedRecords where
  buffers : RecordTable GLuint BufferData
  programs : ObjectMap ProgramData
  shaders : RecordTable GLuint ShaderData

/-- The locked methods that change the group.  `modifyProgram` stands for those
which only fill in the uniform table of a program. -/
inductive GroupMethod
  | updateBufferData (bufferId : GLuint) (size : GLint) (data : DataPtr)
  | subUpdateBufferData (bufferId : GLuint) (offset size : GLint) (data : Nat → UInt8)
  | deleteBufferData (bufferId : GLuint)
  | addProgramData (program : GLuint)
  | modifyProgram (program : GLuint) (f : ProgramData → ProgramData)
  | deleteProgramData (program : GLuint)
  | addShaderData (shader : GLuint)
  | unrefShaderData (shader : GLuint)
  | attachShader (program shader : GLuint)
  | detachShader (program shader : GLuint)

/-- A method on the group by value. -/
def GLSharedGroup.run (shared : GLSharedGroup) : GroupMethod → GLSharedGroup
  | .updateBufferData bufferId size data => shared.updateBufferData bufferId size data
  | .subUpdateBufferData bufferId offset size data =>
      (shared.subUpdateBufferData bufferId offset size data).2
  | .deleteBufferData bufferId => shared.deleteBufferData bufferId
  | .addProgramData program => shared.addProgramData program
  | .modifyProgram program f => shared.modifyProgram program f
  | .deleteProgramData program => shared.deleteProgramData program
  | .addShaderData shader => shared.addShaderData shader
  | .unrefShaderData shader => shared.unrefShaderData shader
  | .attachShader program shader => shared.attachShader program shader
  | .detachShader program shader => shared.detachShader program shader

namespace SharedRecords

/-- `GLSharedGroup::GLSharedGroup`. -/
def init : SharedRecords where
  buffers := RecordTable.empty
  programs := ∅
  shaders := RecordTable.empty

variable (records : SharedRecords)

/-- `GLSharedGroup::getBufferData`: the pointer, `none` for `NULL`. -/
def getBufferData (bufferId : GLuint) : Option Nat := records.buffers.find bufferId

/-- `GLSharedGroup::getShaderData`: the pointer, `none` for `NULL`. -/
def getShaderData (shader : GLuint) : Option Nat := records.shaders.find shader

/-- `GLSharedGroup::updateBufferData`: the old record is deleted. -/
def updateBufferData (bufferId : GLuint) (size : GLint) (data : DataPtr) : SharedRecords :=
  { records with buffers := records.buffers.replace bufferId (BufferData.ofData size data) }

/-- `GLSharedGroup::subUpdateBufferData`: the record is written in place. -/
def subUpdateBufferData (bufferId : GLuint) (offset size : GLint) (data : Nat → UInt8) :
    SharedRecords :=
  { records with
    buffers := records.buffers.modify bufferId fun buf =>
      if !buf.subUpdateAccepts offset size then buf else buf.subUpdated offset size data }

/-- `GLSharedGroup::deleteBufferData`. -/
def deleteBufferData (bufferId : GLuint) : SharedRecords :=
  { records with buffers := records.buffers.erase bufferId }

/-- `GLSharedGroup::addShaderData`: `add` overwrites the pointer of a name that has
one, and that record stays allocated. -/
def addShaderData (shader : GLuint) : SharedRecords :=
  { records with
    shaders := records.shaders.add shader { samplerExternalNames := [], refcount := 1 } }

/-- `GLSharedGroup::refShaderDataLocked`. -/
def refShaderDataLocked (shader : GLuint) : SharedRecords :=
  { records with
    shaders := records.shaders.modify shader fun data =>
      { data with refcount := data.refcount + 1 } }

/-- `GLSharedGroup::unrefShaderDataLocked`, for the record of `shader`. -/
def unrefShaderDataLocked (shader : GLuint) (data : ShaderData) : SharedRecords :=
  if data.refcount - 1 = 0 then { records with shaders := records.shaders.erase shader }
  else
    { records with
      shaders := records.shaders.modify shader fun data =>
        { data with refcount := data.refcount - 1 } }

/-- `GLSharedGroup::unrefShaderData`. -/
def unrefShaderData (shader : GLuint) : SharedRecords :=
  match records.shaders.value shader with
  | some data => records.unrefShaderDataLocked shader data
  | none => records

/-- `GLSharedGroup::attachShader`. -/
def attachShader (program shader : GLuint) : SharedRecords :=
  match records.programs.lookup program, records.shaders.value shader with
  | some programData, some _ =>
      let attached := programData.attachShader shader
      let group := { records with programs := records.programs.insert program attached.2 }
      if attached.1 then group.refShaderDataLocked shader else group
  | _, _ => records

/-- `GLSharedGroup::detachShader`. -/
def detachShader (program shader : GLuint) : SharedRecords :=
  match records.programs.lookup program, records.shaders.value shader with
  | some programData, some data =>
      let detached := programData.detachShader shader
      let group := { records with programs := records.programs.insert program detached.2 }
      if detached.1 then group.unrefShaderDataLocked shader data else group
  | _, _ => records

/-- A method that changes the record of one program only. -/
def modifyProgram (program : GLuint) (f : ProgramData → ProgramData) : SharedRecords :=
  match records.programs.lookup program with
  | none => records
  | some data => { records with programs := records.programs.insert program (f data) }

/-- One locked method. -/
def run : GroupMethod → SharedRecords
  | .updateBufferData bufferId size data => records.updateBufferData bufferId size data
  | .subUpdateBufferData bufferId offset size data =>
      records.subUpdateBufferData bufferId offset size data
  | .deleteBufferData bufferId => records.deleteBufferData bufferId
  | .addProgramData program =>
      { records with programs := records.programs.insert program ProgramData.init }
  | .modifyProgram program f => records.modifyProgram program f
  | .deleteProgramData program =>
      { records with programs := records.programs.erase program }
  | .addShaderData shader => records.addShaderData shader
  | .unrefShaderData shader => records.unrefShaderData shader
  | .attachShader program shader => records.attachShader program shader
  | .detachShader program shader => records.detachShader program shader

/-! ## The group by value -/

/-- `shared` holds the same records as `records`, without their addresses. -/
structure Represents (records : SharedRecords) (shared : GLSharedGroup) : Prop where
  buffers : ∀ bufferId, shared.buffers.lookup bufferId = records.buffers.value bufferId
  programs : ∀ program, shared.programs.lookup program = records.programs.lookup program
  shaders : ∀ shader, shared.shaders.lookup shader = records.shaders.value shader

theorem represents_init : Represents init GLSharedGroup.init where
  buffers := fun _ => rfl
  programs := fun _ => rfl
  shaders := fun _ => rfl

variable {records} {shared : GLSharedGroup}

/-- Both sides get the same program record. -/
theorem Represents.insertProgram (h : Represents records shared) (program : GLuint)
    (data : ProgramData) :
    Represents { records with programs := records.programs.insert program data }
      { shared with programs := shared.programs.insert program data } where
  buffers := h.buffers
  programs := by
    intro other
    rw [lookup_insert_eq_ite, lookup_insert_eq_ite, h.programs other]
  shaders := h.shaders

theorem Represents.refShaderDataLocked (h : Represents records shared) {shader : GLuint}
    {data : ShaderData} (hvalue : records.shaders.value shader = some data) :
    Represents (records.refShaderDataLocked shader) (shared.refShaderDataLocked shader data) where
  buffers := h.buffers
  programs := h.programs
  shaders := by
    intro other
    unfold SharedRecords.refShaderDataLocked GLSharedGroup.refShaderDataLocked
    rw [lookup_insert_eq_ite, RecordTable.value_modify, hvalue, h.shaders other]
    rfl

theorem Represents.unrefShaderDataLocked (h : Represents records shared) {shader : GLuint}
    {data : ShaderData} (hvalue : records.shaders.value shader = some data) :
    Represents (records.unrefShaderDataLocked shader data)
      (shared.unrefShaderDataLocked shader data) := by
  unfold SharedRecords.unrefShaderDataLocked GLSharedGroup.unrefShaderDataLocked
  split
  · refine ⟨h.buffers, h.programs, ?_⟩
    intro other
    rw [lookup_erase_eq_ite, RecordTable.value_erase, h.shaders other]
  · refine ⟨h.buffers, h.programs, ?_⟩
    intro other
    rw [lookup_insert_eq_ite, RecordTable.value_modify, hvalue, h.shaders other]
    rfl

theorem Represents.subUpdateBufferData (h : Represents records shared) (bufferId : GLuint)
    (offset size : GLint) (data : Nat → UInt8) :
    Represents (records.subUpdateBufferData bufferId offset size data)
      (shared.subUpdateBufferData bufferId offset size data).2 := by
  unfold SharedRecords.subUpdateBufferData GLSharedGroup.subUpdateBufferData
  have hvalue := h.buffers bufferId
  cases hlookup : shared.buffers.lookup bufferId with
  | none =>
      rw [hlookup] at hvalue
      refine ⟨?_, h.programs, h.shaders⟩
      intro other
      rw [RecordTable.value_modify, ← hvalue, h.buffers other]
      by_cases hother : other = bufferId
      · rw [if_pos hother, hother, ← hvalue]
        rfl
      · rw [if_neg hother]
  | some buf =>
      rw [hlookup] at hvalue
      dsimp only
      split
      · refine ⟨?_, h.programs, h.shaders⟩
        rename_i hrefused
        intro other
        rw [RecordTable.value_modify, ← hvalue, h.buffers other, Option.map_some,
          if_pos hrefused]
        by_cases hother : other = bufferId
        · rw [if_pos hother, hother, ← hvalue]
        · rw [if_neg hother]
      · refine ⟨?_, h.programs, h.shaders⟩
        rename_i haccepted
        intro other
        rw [RecordTable.value_modify, ← hvalue, Option.map_some, if_neg haccepted,
          lookup_insert_eq_ite, h.buffers other]

theorem Represents.unrefShaderData (h : Represents records shared) (shader : GLuint) :
    Represents (records.unrefShaderData shader) (shared.unrefShaderData shader) := by
  unfold SharedRecords.unrefShaderData GLSharedGroup.unrefShaderData
  rw [h.shaders shader]
  cases hvalue : records.shaders.value shader with
  | none => exact h
  | some data => exact h.unrefShaderDataLocked hvalue

theorem Represents.attachShader (h : Represents records shared) (program shader : GLuint) :
    Represents (records.attachShader program shader) (shared.attachShader program shader) := by
  unfold SharedRecords.attachShader GLSharedGroup.attachShader
  rw [h.programs program, h.shaders shader]
  cases records.programs.lookup program with
  | none => exact h
  | some programData =>
      cases hvalue : records.shaders.value shader with
      | none => exact h
      | some data =>
          have hgroup := h.insertProgram program (programData.attachShader shader).2
          dsimp only
          split
          · exact hgroup.refShaderDataLocked hvalue
          · exact hgroup

theorem Represents.detachShader (h : Represents records shared) (program shader : GLuint) :
    Represents (records.detachShader program shader) (shared.detachShader program shader) := by
  unfold SharedRecords.detachShader GLSharedGroup.detachShader
  rw [h.programs program, h.shaders shader]
  cases records.programs.lookup program with
  | none => exact h
  | some programData =>
      cases hvalue : records.shaders.value shader with
      | none => exact h
      | some data =>
          have hgroup := h.insertProgram program (programData.detachShader shader).2
          dsimp only
          split
          · exact hgroup.unrefShaderDataLocked hvalue
          · exact hgroup

/-- Every method does to the group by value what it does to the group by address. -/
theorem Represents.run (h : Represents records shared) (method : GroupMethod) :
    Represents (records.run method) (shared.run method) := by
  cases method with
  | updateBufferData bufferId size data =>
      refine ⟨?_, h.programs, h.shaders⟩
      intro other
      show (shared.buffers.insert bufferId _).lookup other = _
      rw [lookup_insert_eq_ite, h.buffers other]
      exact (RecordTable.value_replace _ _ _).symm
  | subUpdateBufferData bufferId offset size data =>
      exact h.subUpdateBufferData bufferId offset size data
  | deleteBufferData bufferId =>
      refine ⟨?_, h.programs, h.shaders⟩
      intro other
      show (shared.buffers.erase bufferId).lookup other = _
      rw [lookup_erase_eq_ite, h.buffers other]
      exact (RecordTable.value_erase _ _).symm
  | addProgramData program => exact h.insertProgram program ProgramData.init
  | modifyProgram program f =>
      show Represents (records.modifyProgram program f) (shared.modifyProgram program f)
      unfold SharedRecords.modifyProgram GLSharedGroup.modifyProgram
      rw [h.programs program]
      cases records.programs.lookup program with
      | none => exact h
      | some data => exact h.insertProgram program (f data)
  | deleteProgramData program =>
      refine ⟨h.buffers, ?_, h.shaders⟩
      intro other
      show (shared.programs.erase program).lookup other =
        (records.programs.erase program).lookup other
      rw [lookup_erase_eq_ite, lookup_erase_eq_ite, h.programs other]
  | addShaderData shader =>
      refine ⟨h.buffers, h.programs, ?_⟩
      intro other
      show (shared.shaders.insert shader _).lookup other = _
      rw [lookup_insert_eq_ite, h.shaders other]
      exact (RecordTable.value_add _ _ _).symm
  | unrefShaderData shader => exact h.unrefShaderData shader
  | attachShader program shader => exact h.attachShader program shader
  | detachShader program shader => exact h.detachShader program shader

/-- After any methods on a new group, both sides hold the same records. -/
theorem represents_runs (methods : List GroupMethod) :
    Represents (methods.foldl SharedRecords.run init)
      (methods.foldl GLSharedGroup.run GLSharedGroup.init) := by
  have hruns : ∀ {records : SharedRecords} {shared : GLSharedGroup}, Represents records shared →
      Represents (methods.foldl SharedRecords.run records)
        (methods.foldl GLSharedGroup.run shared) := by
    induction methods with
    | nil => exact id
    | cons method rest ih => exact fun h => ih (h.run method)
  exact hruns represents_init

/-! ## Which method deletes a record -/

/-- The record of the shader counts one reference. -/
def LastReference (records : SharedRecords) (shader : GLuint) : Prop :=
  ∃ data, records.shaders.value shader = some data ∧ data.refcount = 1

/-- The method deletes the buffer record at `p`: it replaces or deletes the buffer
that the record belongs to. -/
def DropsBuffer (records : SharedRecords) (p : Nat) : GroupMethod → Prop
  | .updateBufferData bufferId _ _ => records.getBufferData bufferId = some p
  | .deleteBufferData bufferId => records.getBufferData bufferId = some p
  | _ => False

/-- The method deletes the shader record at `p`: it drops its last reference. -/
def DropsShader (records : SharedRecords) (p : Nat) : GroupMethod → Prop
  | .unrefShaderData shader =>
      records.getShaderData shader = some p ∧ records.LastReference shader
  | .detachShader program shader =>
      records.getShaderData shader = some p ∧ records.LastReference shader ∧
        ∃ data, records.programs.lookup program = some data ∧ shader ∈ data.shaders
  | _ => False

theorem buffers_unrefShaderDataLocked (shader : GLuint) (data : ShaderData) :
    (records.unrefShaderDataLocked shader data).buffers = records.buffers := by
  unfold unrefShaderDataLocked
  split
  · rfl
  · rfl

theorem isLive_buffers_run_iff {p : Nat} (hlive : records.buffers.heap.IsLive p)
    (method : GroupMethod) :
    (records.run method).buffers.heap.IsLive p ↔ ¬records.DropsBuffer p method := by
  have hsame : ∀ {after : SharedRecords}, after.buffers = records.buffers →
      (after.buffers.heap.IsLive p ↔ ¬False) := by
    intro after hbuffers
    rw [hbuffers]
    exact iff_of_true hlive not_false
  cases method with
  | updateBufferData bufferId size data =>
      exact RecordTable.isLive_replace_iff hlive bufferId _
  | subUpdateBufferData bufferId offset size data =>
      exact (RecordTable.isLive_modify_iff bufferId p _).trans (iff_of_true hlive not_false)
  | deleteBufferData bufferId => exact RecordTable.isLive_erase_iff hlive bufferId
  | addProgramData program => exact hsame rfl
  | modifyProgram program f =>
      refine hsame ?_
      show (records.modifyProgram program f).buffers = records.buffers
      unfold modifyProgram
      split
      · rfl
      · rfl
  | deleteProgramData program => exact hsame rfl
  | addShaderData shader => exact hsame rfl
  | unrefShaderData shader =>
      refine hsame ?_
      show (records.unrefShaderData shader).buffers = records.buffers
      unfold unrefShaderData
      split
      · exact buffers_unrefShaderDataLocked shader _
      · rfl
  | attachShader program shader =>
      refine hsame ?_
      show (records.attachShader program shader).buffers = records.buffers
      unfold attachShader
      split
      · dsimp only
        split
        · rfl
        · rfl
      · rfl
  | detachShader program shader =>
      refine hsame ?_
      show (records.detachShader program shader).buffers = records.buffers
      unfold detachShader
      split
      · dsimp only
        split
        · exact buffers_unrefShaderDataLocked shader _
        · rfl
      · rfl

theorem isLive_shaders_unrefShaderDataLocked_iff {p : Nat}
    (hlive : records.shaders.heap.IsLive p) (shader : GLuint) (data : ShaderData) :
    (records.unrefShaderDataLocked shader data).shaders.heap.IsLive p ↔
      ¬(records.getShaderData shader = some p ∧ data.refcount = 1) := by
  unfold unrefShaderDataLocked
  split
  · rename_i hlast
    have hone : data.refcount = 1 := by omega
    rw [and_iff_left hone]
    exact RecordTable.isLive_erase_iff hlive shader
  · rename_i hmore
    have hmany : data.refcount ≠ 1 := by omega
    refine (RecordTable.isLive_modify_iff shader p _).trans (iff_of_true hlive ?_)
    rintro ⟨_, hone⟩
    exact hmany hone

theorem lastReference_iff {shader : GLuint} {data : ShaderData}
    (hvalue : records.shaders.value shader = some data) :
    records.LastReference shader ↔ data.refcount = 1 := by
  constructor
  · rintro ⟨data', hvalue', hone⟩
    rw [hvalue] at hvalue'
    obtain rfl := Option.some.inj hvalue'
    exact hone
  · intro hone
    exact ⟨data, hvalue, hone⟩

theorem not_lastReference {shader : GLuint} (hvalue : records.shaders.value shader = none) :
    ¬records.LastReference shader := by
  rintro ⟨data, hsome, _⟩
  rw [hvalue] at hsome
  cases hsome

theorem isLive_shaders_detachShader_iff {p : Nat} (hlive : records.shaders.heap.IsLive p)
    (program shader : GLuint) :
    (records.detachShader program shader).shaders.heap.IsLive p ↔
      ¬records.DropsShader p (.detachShader program shader) := by
  unfold detachShader DropsShader
  cases hprogram : records.programs.lookup program with
  | none =>
      refine iff_of_true hlive ?_
      rintro ⟨_, _, data, hdata, _⟩
      rw [hprogram] at hdata
      cases hdata
  | some programData =>
      cases hvalue : records.shaders.value shader with
      | none =>
          refine iff_of_true hlive ?_
          rintro ⟨_, hlast, _⟩
          exact not_lastReference hvalue hlast
      | some data =>
          dsimp only
          unfold ProgramData.detachShader
          by_cases hmem : shader ∈ programData.shaders
          · let group : SharedRecords :=
              { records with
                programs := records.programs.insert program
                  { programData with shaders := programData.shaders.erase shader } }
            rw [if_pos hmem]
            show (group.unrefShaderDataLocked shader data).shaders.heap.IsLive p ↔ _
            have hkept : group.shaders.heap.IsLive p := hlive
            refine (isLive_shaders_unrefShaderDataLocked_iff hkept shader data).trans
              (not_congr ?_)
            show records.getShaderData shader = some p ∧ _ ↔ _
            rw [lastReference_iff hvalue]
            constructor
            · rintro ⟨hfind, hone⟩
              exact ⟨hfind, hone, programData, hprogram, hmem⟩
            · rintro ⟨hfind, hone, _⟩
              exact ⟨hfind, hone⟩
          · rw [if_neg hmem]
            refine iff_of_true hlive ?_
            rintro ⟨_, _, other, hother, hattached⟩
            rw [hprogram] at hother
            obtain rfl := Option.some.inj hother
            exact hmem hattached

theorem isLive_shaders_run_iff {p : Nat} (hlive : records.shaders.heap.IsLive p)
    (method : GroupMethod) :
    (records.run method).shaders.heap.IsLive p ↔ ¬records.DropsShader p method := by
  cases method with
  | updateBufferData bufferId size data => exact iff_of_true hlive not_false
  | subUpdateBufferData bufferId offset size data => exact iff_of_true hlive not_false
  | deleteBufferData bufferId => exact iff_of_true hlive not_false
  | addProgramData program => exact iff_of_true hlive not_false
  | modifyProgram program f =>
      refine iff_of_true ?_ not_false
      show (records.modifyProgram program f).shaders.heap.IsLive p
      unfold modifyProgram
      split
      · exact hlive
      · exact hlive
  | deleteProgramData program => exact iff_of_true hlive not_false
  | addShaderData shader =>
      exact iff_of_true (RecordTable.isLive_add hlive shader _) not_false
  | unrefShaderData shader =>
      show (records.unrefShaderData shader).shaders.heap.IsLive p ↔ ¬(_ ∧ _)
      unfold unrefShaderData
      cases hvalue : records.shaders.value shader with
      | none =>
          refine iff_of_true hlive ?_
          rintro ⟨_, hlast⟩
          exact not_lastReference hvalue hlast
      | some data =>
          rw [lastReference_iff hvalue]
          exact isLive_shaders_unrefShaderDataLocked_iff hlive shader data
  | attachShader program shader =>
      refine iff_of_true ?_ not_false
      show (records.attachShader program shader).shaders.heap.IsLive p
      unfold attachShader
      split
      · dsimp only
        split
        · exact (RecordTable.isLive_modify_iff shader p _).mpr hlive
        · exact hlive
      · exact hlive
  | detachShader program shader => exact isLive_shaders_detachShader_iff hlive program shader

end SharedRecords

end OpenglCodecCommon
end DeviceAndroVM
