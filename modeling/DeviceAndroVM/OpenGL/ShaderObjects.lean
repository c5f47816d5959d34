import Mathlib.Data.Finset.Basic
import DeviceAndroVM.OpenGL.Types
import DeviceAndroVM.Library.Lookup

/-!
# Shader and program objects of a GL context

What GL itself says about the names of shader and program objects, without any
of the guest's bookkeeping: which shaders `glDeleteShader` has not been called on,
and which programs are live with which shaders attached.

* `references` — the references that keep a shader object alive: one until it is
  deleted, and one for each live program it is attached to.
* `perform` — the effect of a call, and `Allows` — which answers of the host GL
  permits to it.
* `references_perform_…` — how each call changes the number of references.
-/

namespace DeviceAndroVM
namespace OpenGL

open Library

/-- The object calls of a context, each with what the host answered: the name it
returned, or whether it carried the attachment out. -/
inductive ObjectCall
  | glCreateShader (name : GLuint)
  | glDeleteShader (shader : GLuint)
  | glCreateProgram (name : GLuint)
  | glDeleteProgram (program : GLuint)
  | glAttachShader (program shader : GLuint) (attached : Bool)
  | glDetachShader (program shader : GLuint)
  deriving DecidableEq

/-- The shader and program objects. -/
structure ShaderObjects where
  undeleted : Finset GLuint
  programs : AList fun _ : GLuint => List GLuint

namespace ShaderObjects

/-- No objects. -/
def init : ShaderObjects where
  undeleted := ∅
  programs := ∅

variable (objs : ShaderObjects)

/-- The number of live programs a shader is attached to. -/
def attachments (shader : GLuint) : Nat :=
  countValues (fun shaders => decide (shader ∈ shaders)) objs.programs

/-- 1 for a shader that has not been deleted, plus its attachments. -/
def references (shader : GLuint) : Nat :=
  (if shader ∈ objs.undeleted then 1 else 0) + objs.attachments shader

/-- The name denotes a shader object. -/
def IsShader (shader : GLuint) : Prop := 0 < objs.references shader

/-- The name is in use for a shader or a program. -/
def InUse (name : GLuint) : Prop := objs.IsShader name ∨ objs.programs.lookup name ≠ none

/-- GL has no reason of its own to refuse the attachment: both objects exist and
the shader is not attached yet. -/
def CanAttach (program shader : GLuint) : Prop :=
  objs.IsShader shader ∧ ∃ shaders, objs.programs.lookup program = some shaders ∧ shader ∉ shaders

/-- The answers GL permits: a new name is 0 or not in use, and only what can be
attached is attached. -/
def Allows : ObjectCall → Prop
  | .glCreateShader name => name = 0#32 ∨ ¬ objs.InUse name
  | .glCreateProgram name => name = 0#32 ∨ ¬ objs.InUse name
  | .glAttachShader program shader attached =>
      attached = true → objs.CanAttach program shader
  | _ => True

/-- Replace the list of attached shaders of a live program. -/
def modifyAttached (program : GLuint) (f : List GLuint → List GLuint) : ShaderObjects :=
  match objs.programs.lookup program with
  | some shaders => { objs with programs := objs.programs.insert program (f shaders) }
  | none => objs

/-- The effect of a call. -/
def perform : ObjectCall → ShaderObjects
  | .glCreateShader name =>
      if name = 0#32 then objs else { objs with undeleted := insert name objs.undeleted }
  | .glDeleteShader shader => { objs with undeleted := objs.undeleted.erase shader }
  | .glCreateProgram name =>
      if name = 0#32 then objs else { objs with programs := objs.programs.insert name [] }
  | .glDeleteProgram program => { objs with programs := objs.programs.erase program }
  | .glAttachShader program shader attached =>
      if attached then objs.modifyAttached program (· ++ [shader]) else objs
  | .glDetachShader program shader => objs.modifyAttached program (·.erase shader)

/-- A shader is attached to a program at most once. -/
def AttachedOnce : Prop :=
  ∀ program shaders, objs.programs.lookup program = some shaders → shaders.Nodup

instance (shader : GLuint) : Decidable (objs.IsShader shader) :=
  inferInstanceAs (Decidable (0 < _))

instance (name : GLuint) : Decidable (objs.InUse name) :=
  inferInstanceAs (Decidable (_ ∨ _))

instance (program shader : GLuint) : Decidable (objs.CanAttach program shader) :=
  inferInstanceAs (Decidable (_ ∧ ∃ shaders ∈ objs.programs.lookup program, shader ∉ shaders))

instance : ∀ call, Decidable (objs.Allows call)
  | .glCreateShader _ => inferInstanceAs (Decidable (_ ∨ _))
  | .glCreateProgram _ => inferInstanceAs (Decidable (_ ∨ _))
  | .glAttachShader _ _ _ => inferInstanceAs (Decidable (_ → _))
  | .glDeleteShader _ => isTrue trivial
  | .glDeleteProgram _ => isTrue trivial
  | .glDetachShader _ _ => isTrue trivial

theorem attachedOnce_init : init.AttachedOnce := by
  intro program shaders hlookup
  cases hlookup

variable {objs}

theorem isShader_of_mem_attached {program shader : GLuint} {shaders : List GLuint}
    (hlookup : objs.programs.lookup program = some shaders) (hmem : shader ∈ shaders) :
    objs.IsShader shader := by
  have hpos : 0 < objs.attachments shader :=
    countValues_pos.mpr ⟨program, shaders, hlookup, by simpa using hmem⟩
  show 0 < _ + _
  omega

/-! ## References after a call -/

theorem references_createShader {name : GLuint} (hname : name ≠ 0#32)
    (hfree : ¬ objs.InUse name) (shader : GLuint) :
    (objs.perform (.glCreateShader name)).references shader =
      objs.references shader + (if shader = name then 1 else 0) := by
  have hnot : name ∉ objs.undeleted := by
    intro hmem
    apply hfree
    left
    show 0 < (if name ∈ objs.undeleted then 1 else 0) + _
    rw [if_pos hmem]
    omega
  simp only [perform, if_neg hname, references, attachments, Finset.mem_insert]
  by_cases hshader : shader = name
  · subst hshader
    simp only [true_or, if_true, if_neg hnot]
    omega
  · simp only [hshader, false_or, if_false]
    omega

theorem references_deleteShader (target shader : GLuint) :
    (objs.perform (.glDeleteShader target)).references shader +
        (if shader = target ∧ target ∈ objs.undeleted then 1 else 0) =
      objs.references shader := by
  simp only [perform, references, attachments, Finset.mem_erase]
  by_cases hshader : shader = target
  · subst hshader
    by_cases hmem : shader ∈ objs.undeleted
    · simp [hmem]
      omega
    · simp [hmem]
  · simp [hshader]

theorem references_createProgram {name : GLuint} (hfree : objs.programs.lookup name = none)
    (shader : GLuint) :
    (objs.perform (.glCreateProgram name)).references shader = objs.references shader := by
  simp only [perform]
  split
  · rfl
  · simp only [references, attachments]
    rw [countValues_insert_of_lookup_none hfree]
    rfl

theorem references_deleteProgram {program : GLuint} {shaders : List GLuint}
    (hlookup : objs.programs.lookup program = some shaders) (shader : GLuint) :
    (objs.perform (.glDeleteProgram program)).references shader +
        (if shader ∈ shaders then 1 else 0) =
      objs.references shader := by
  have hcount := countValues_erase (p := fun shaders => decide (shader ∈ shaders)) hlookup
  simp only [decide_eq_true_eq] at hcount
  show _ + countValues _ (objs.programs.erase program) + _ = _ + countValues _ objs.programs
  rw [hcount, Nat.add_assoc]
  rfl

theorem references_modifyAttached {program : GLuint} {shaders : List GLuint}
    (hlookup : objs.programs.lookup program = some shaders) (f : List GLuint → List GLuint)
    (shader : GLuint) :
    (objs.modifyAttached program f).references shader + (if shader ∈ shaders then 1 else 0) =
      objs.references shader + (if shader ∈ f shaders then 1 else 0) := by
  simp only [modifyAttached, hlookup, references, attachments]
  have hcount := countValues_insert (p := fun shaders => decide (shader ∈ shaders))
    (b := f shaders) hlookup
  simp only [decide_eq_true_eq] at hcount
  omega

theorem references_attachShader {program target : GLuint}
    (hattach : objs.CanAttach program target) (shader : GLuint) :
    (objs.perform (.glAttachShader program target true)).references shader =
      objs.references shader + (if shader = target then 1 else 0) := by
  obtain ⟨_, shaders, hlookup, hnot⟩ := hattach
  have hcount := references_modifyAttached hlookup (· ++ [target]) shader
  simp only [perform, if_true]
  by_cases hshader : shader = target
  · subst hshader
    simp only [List.mem_append, List.mem_singleton, or_true, if_true, if_neg hnot] at hcount ⊢
    omega
  · simp only [List.mem_append, List.mem_singleton, hshader, or_false, if_false] at hcount ⊢
    omega

theorem references_detachShader (honce : objs.AttachedOnce) {program target : GLuint}
    {shaders : List GLuint} (hlookup : objs.programs.lookup program = some shaders)
    (hmem : target ∈ shaders) (shader : GLuint) :
    (objs.perform (.glDetachShader program target)).references shader +
        (if shader = target then 1 else 0) =
      objs.references shader := by
  have hcount := references_modifyAttached hlookup (·.erase target) shader
  have hnodup := honce program shaders hlookup
  simp only [perform]
  by_cases hshader : shader = target
  · subst hshader
    simp only [hnodup.mem_erase_iff, ne_eq, not_true_eq_false, false_and, if_false, hmem,
      if_true] at hcount ⊢
    omega
  · simp only [hnodup.mem_erase_iff, ne_eq, hshader, not_false_eq_true, true_and,
      if_false] at hcount ⊢
    omega

theorem references_detachShader_of_not_mem {program target : GLuint}
    (hnot : ∀ shaders, objs.programs.lookup program = some shaders → target ∉ shaders)
    (shader : GLuint) :
    (objs.perform (.glDetachShader program target)).references shader =
      objs.references shader := by
  cases hlookup : objs.programs.lookup program with
  | none => simp only [perform, modifyAttached, hlookup]
  | some shaders =>
      have hcount := references_modifyAttached hlookup (·.erase target) shader
      rw [List.erase_of_not_mem (hnot shaders hlookup)] at hcount
      simp only [perform]
      omega

/-! ## Attachments stay without repetition -/

theorem lookup_modifyAttached (program other : GLuint) (f : List GLuint → List GLuint) :
    (objs.modifyAttached program f).programs.lookup other =
      if other = program then (objs.programs.lookup program).map f
      else objs.programs.lookup other := by
  unfold modifyAttached
  split
  · rename_i shaders hlookup
    by_cases hother : other = program
    · subst hother
      simp [hlookup]
    · simp [hother]
  · rename_i hlookup
    by_cases hother : other = program
    · subst hother
      simp [hlookup]
    · simp [hother]

theorem AttachedOnce.modifyAttached (honce : objs.AttachedOnce) {program : GLuint}
    {f : List GLuint → List GLuint}
    (hf : ∀ shaders, objs.programs.lookup program = some shaders → (f shaders).Nodup) :
    (objs.modifyAttached program f).AttachedOnce := by
  intro other shaders hlookup
  rw [lookup_modifyAttached] at hlookup
  split at hlookup
  · obtain ⟨old, hold, rfl⟩ := Option.map_eq_some_iff.mp hlookup
    exact hf old hold
  · exact honce other shaders hlookup

theorem AttachedOnce.perform (honce : objs.AttachedOnce) {call : ObjectCall}
    (hallows : objs.Allows call) : (objs.perform call).AttachedOnce := by
  cases call with
  | glCreateShader name =>
      simp only [ShaderObjects.perform]
      split
      · exact honce
      · exact honce
  | glDeleteShader shader => exact honce
  | glCreateProgram name =>
      simp only [ShaderObjects.perform]
      split
      · exact honce
      · intro program shaders hlookup
        rcases lookup_insert_eq_some.mp hlookup with ⟨-, rfl⟩ | ⟨-, hold⟩
        · exact List.nodup_nil
        · exact honce program shaders hold
  | glDeleteProgram program =>
      intro other shaders hlookup
      by_cases hother : other = program
      · subst hother
        simp [ShaderObjects.perform] at hlookup
      · exact honce other shaders (by simpa [ShaderObjects.perform, hother] using hlookup)
  | glAttachShader program shader attached =>
      simp only [ShaderObjects.perform]
      split
      · rename_i hattached
        obtain ⟨_, shaders, hlookup, hnot⟩ := hallows hattached
        apply honce.modifyAttached
        intro old hold
        obtain rfl : old = shaders := by rw [hlookup] at hold; exact (Option.some.inj hold).symm
        have hnodup := honce program old hlookup
        rw [List.nodup_append]
        refine ⟨hnodup, List.nodup_singleton shader, ?_⟩
        intro a ha b hb hab
        rw [List.mem_singleton] at hb
        exact hnot (hb ▸ hab ▸ ha)
      · exact honce
  | glDetachShader program shader =>
      apply honce.modifyAttached
      intro old hold
      exact (honce program old hold).erase shader

end ShaderObjects

end OpenGL
end DeviceAndroVM
