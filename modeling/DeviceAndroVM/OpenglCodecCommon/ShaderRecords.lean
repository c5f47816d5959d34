import DeviceAndroVM.OpenglCodecCommon.GLSharedGroup

/-!
# Shader and program records of `GLSharedGroup`

How the methods of the group change the two things the reference counts are about.

* `refcountOf`, `attachedTo` — the counter of a shader record and the shaders a
  program record lists.
* `refcountOf_…`, `attachedTo_…` — one lemma for each method of the group.
-/

namespace DeviceAndroVM
namespace OpenglCodecCommon

open OpenGL

namespace GLSharedGroup

variable (shared : GLSharedGroup)

/-- The reference count of the record of a shader. -/
def refcountOf (shader : GLuint) : Option Int :=
  (shared.shaders.lookup shader).map ShaderData.refcount

/-- The shaders that the record of a program lists. -/
def attachedTo (program : GLuint) : Option (List GLuint) :=
  (shared.programs.lookup program).map ProgramData.shaders

/-- The counter after one reference is dropped; the record goes with the last. -/
def dropReference (count : Option Int) : Option Int :=
  count.bind fun n => if n - 1 = 0 then none else some (n - 1)

variable {shared}

theorem lookup_of_refcountOf {shader : GLuint} {count : Int}
    (h : shared.refcountOf shader = some count) :
    ∃ data, shared.shaders.lookup shader = some data ∧ data.refcount = count :=
  Option.map_eq_some_iff.mp h

theorem lookup_of_attachedTo {program : GLuint} {shaders : List GLuint}
    (h : shared.attachedTo program = some shaders) :
    ∃ data, shared.programs.lookup program = some data ∧ data.shaders = shaders :=
  Option.map_eq_some_iff.mp h

/-! ## Adding and dropping references -/

theorem refcountOf_insert (shader other : GLuint) (data : ShaderData) :
    ({ shared with shaders := shared.shaders.insert shader data }).refcountOf other =
      if other = shader then some data.refcount else shared.refcountOf other := by
  unfold refcountOf
  by_cases hother : other = shader
  · subst hother
    simp
  · simp [hother]

theorem refcountOf_addShaderData (shader other : GLuint) :
    (shared.addShaderData shader).refcountOf other =
      if other = shader then some 1 else shared.refcountOf other :=
  refcountOf_insert shader other _

theorem refcountOf_refShaderDataLocked (shader other : GLuint) (data : ShaderData) :
    (shared.refShaderDataLocked shader data).refcountOf other =
      if other = shader then some (data.refcount + 1) else shared.refcountOf other :=
  refcountOf_insert shader other _

theorem refcountOf_unrefShaderDataLocked (shader other : GLuint) (data : ShaderData) :
    (shared.unrefShaderDataLocked shader data).refcountOf other =
      if other = shader then dropReference (some data.refcount)
      else shared.refcountOf other := by
  unfold unrefShaderDataLocked
  simp only [dropReference, Option.bind_some]
  split
  · by_cases hother : other = shader
    · subst hother
      simp [refcountOf]
    · simp [refcountOf, hother]
  · exact refcountOf_insert shader other _

theorem refcountOf_unrefShaderData (shader other : GLuint) :
    (shared.unrefShaderData shader).refcountOf other =
      if other = shader then dropReference (shared.refcountOf shader)
      else shared.refcountOf other := by
  unfold unrefShaderData
  split
  · rename_i data hlookup
    rw [refcountOf_unrefShaderDataLocked]
    simp [refcountOf, hlookup]
  · rename_i hlookup
    by_cases hother : other = shader
    · subst hother
      simp [refcountOf, hlookup, dropReference]
    · rw [if_neg hother]

@[simp] theorem attachedTo_refShaderDataLocked (shader program : GLuint) (data : ShaderData) :
    (shared.refShaderDataLocked shader data).attachedTo program = shared.attachedTo program :=
  rfl

@[simp] theorem attachedTo_unrefShaderDataLocked (shader program : GLuint)
    (data : ShaderData) :
    (shared.unrefShaderDataLocked shader data).attachedTo program =
      shared.attachedTo program := by
  unfold unrefShaderDataLocked
  split
  · rfl
  · rfl

@[simp] theorem attachedTo_unrefShaderData (shader program : GLuint) :
    (shared.unrefShaderData shader).attachedTo program = shared.attachedTo program := by
  unfold unrefShaderData
  split
  · exact attachedTo_unrefShaderDataLocked _ _ _
  · rfl

/-! ## Program records -/

theorem attachedTo_insert (program other : GLuint) (data : ProgramData) :
    ({ shared with programs := shared.programs.insert program data }).attachedTo other =
      if other = program then some data.shaders else shared.attachedTo other := by
  unfold attachedTo
  by_cases hother : other = program
  · subst hother
    simp
  · simp [hother]

theorem attachedTo_addProgramData (program other : GLuint) :
    (shared.addProgramData program).attachedTo other =
      if other = program then some [] else shared.attachedTo other :=
  attachedTo_insert program other _

theorem attachedTo_deleteProgramData (program other : GLuint) :
    (shared.deleteProgramData program).attachedTo other =
      if other = program then none else shared.attachedTo other := by
  unfold attachedTo deleteProgramData
  by_cases hother : other = program
  · subst hother
    simp
  · simp [hother]

@[simp] theorem refcountOf_deleteProgramData (program shader : GLuint) :
    (shared.deleteProgramData program).refcountOf shader = shared.refcountOf shader := rfl

/-! ## Attaching and detaching -/

/-- Both records exist and the shader is not listed: it is listed last and gains a
reference. -/
theorem attachShader_of_new {program shader : GLuint} {shaders : List GLuint} {count : Int}
    (hprogram : shared.attachedTo program = some shaders)
    (hshader : shared.refcountOf shader = some count) (hnot : shader ∉ shaders) :
    (∀ other, (shared.attachShader program shader).refcountOf other =
        if other = shader then some (count + 1) else shared.refcountOf other) ∧
      ∀ other, (shared.attachShader program shader).attachedTo other =
        if other = program then some (shaders ++ [shader]) else shared.attachedTo other := by
  obtain ⟨programData, hlookupProgram, rfl⟩ := lookup_of_attachedTo hprogram
  obtain ⟨data, hlookupShader, rfl⟩ := lookup_of_refcountOf hshader
  have hattach : shared.attachShader program shader =
      ({ shared with
          programs := shared.programs.insert program
            { programData with shaders := programData.shaders ++ [shader] } } :
        GLSharedGroup).refShaderDataLocked shader data := by
    simp [attachShader, ProgramData.attachShader, hlookupProgram, hlookupShader, hnot]
  rw [hattach]
  exact ⟨fun other => refcountOf_refShaderDataLocked shader other data,
    fun other => attachedTo_insert program other _⟩

/-- A record is missing or the shader is listed already: nothing changes. -/
theorem attachShader_of_not_new {program shader : GLuint}
    (h : ∀ shaders count, shared.attachedTo program = some shaders →
      shared.refcountOf shader = some count → shader ∈ shaders) :
    (∀ other, (shared.attachShader program shader).refcountOf other =
        shared.refcountOf other) ∧
      ∀ other, (shared.attachShader program shader).attachedTo other =
        shared.attachedTo other := by
  unfold attachShader
  split
  · rename_i programData data hlookupProgram hlookupShader
    have hattached : shared.attachedTo program = some programData.shaders := by
      simp [attachedTo, hlookupProgram]
    have hmem : shader ∈ programData.shaders :=
      h _ data.refcount hattached (by simp [refcountOf, hlookupShader])
    simp only [ProgramData.attachShader, hmem, if_true, Bool.false_eq_true, if_false]
    refine ⟨fun other => rfl, fun other => ?_⟩
    rw [attachedTo_insert]
    split
    · rename_i hother
      rw [hother, hattached]
    · rfl
  · exact ⟨fun other => rfl, fun other => rfl⟩

/-- Both records exist and the shader is listed: it loses its place and a
reference. -/
theorem detachShader_of_attached {program shader : GLuint} {shaders : List GLuint} {count : Int}
    (hprogram : shared.attachedTo program = some shaders)
    (hshader : shared.refcountOf shader = some count) (hmem : shader ∈ shaders) :
    (∀ other, (shared.detachShader program shader).refcountOf other =
        if other = shader then dropReference (some count) else shared.refcountOf other) ∧
      ∀ other, (shared.detachShader program shader).attachedTo other =
        if other = program then some (shaders.erase shader) else shared.attachedTo other := by
  obtain ⟨programData, hlookupProgram, rfl⟩ := lookup_of_attachedTo hprogram
  obtain ⟨data, hlookupShader, rfl⟩ := lookup_of_refcountOf hshader
  have hdetach : shared.detachShader program shader =
      ({ shared with
          programs := shared.programs.insert program
            { programData with shaders := programData.shaders.erase shader } } :
        GLSharedGroup).unrefShaderDataLocked shader data := by
    simp [detachShader, ProgramData.detachShader, hlookupProgram, hlookupShader, hmem]
  rw [hdetach]
  refine ⟨fun other => refcountOf_unrefShaderDataLocked shader other data, fun other => ?_⟩
  rw [attachedTo_unrefShaderDataLocked]
  exact attachedTo_insert program other _

/-- A record is missing or the shader is not listed: nothing changes. -/
theorem detachShader_of_not_attached {program shader : GLuint}
    (h : ∀ shaders count, shared.attachedTo program = some shaders →
      shared.refcountOf shader = some count → shader ∉ shaders) :
    (∀ other, (shared.detachShader program shader).refcountOf other =
        shared.refcountOf other) ∧
      ∀ other, (shared.detachShader program shader).attachedTo other =
        shared.attachedTo other := by
  unfold detachShader
  split
  · rename_i programData data hlookupProgram hlookupShader
    have hattached : shared.attachedTo program = some programData.shaders := by
      simp [attachedTo, hlookupProgram]
    have hmem : shader ∉ programData.shaders :=
      h _ data.refcount hattached (by simp [refcountOf, hlookupShader])
    simp only [ProgramData.detachShader, hmem, if_false, Bool.false_eq_true]
    refine ⟨fun other => rfl, fun other => ?_⟩
    rw [attachedTo_insert]
    split
    · rename_i hother
      rw [hother, hattached]
    · rfl
  · exact ⟨fun other => rfl, fun other => rfl⟩

end GLSharedGroup

end OpenglCodecCommon
end DeviceAndroVM
