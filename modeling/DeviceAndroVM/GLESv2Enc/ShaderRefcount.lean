import DeviceAndroVM.OpenGL.ShaderObjects
import DeviceAndroVM.Library.Transition
import DeviceAndroVM.OpenglCodecCommon.ShaderRecords

/-!
# Shader reference counts

The shader and program calls of `GL2Encoder` (`GL2Encoder.cpp` lines 710–778), run
together with the GL objects they are about, and when the reference counts of
`GLSharedGroup` are the references that keep the objects alive.

* `RefcountsAgree` — every shader record counts its references, and exists exactly
  while there are any.
* `CountsReferences` — the calls that keep it so: no second `glDeleteShader`, no
  `glDeleteProgram` of a program with shaders, no attachment that the host refuses.
* `refcounts_agree_iff` — a run keeps the counts exactly when all its calls are
  such.
-/

namespace DeviceAndroVM
namespace GLESv2Enc

open OpenGL Library OpenglCodecCommon

namespace GL2Encoder

/-! ## The entry points

Each sends its command to the host first; the host's answer is an argument. -/

/-- `GL2Encoder::s_glCreateShader`, for the name the host returned. -/
def s_glCreateShader (shared : GLSharedGroup) (shader : GLuint) : GLSharedGroup :=
  if shader ≠ 0#32 then shared.addShaderData shader else shared

/-- `GL2Encoder::s_glDeleteShader`. -/
def s_glDeleteShader (shared : GLSharedGroup) (shader : GLuint) : GLSharedGroup :=
  shared.unrefShaderData shader

/-- `GL2Encoder::s_glCreateProgram`, for the name the host returned. -/
def s_glCreateProgram (shared : GLSharedGroup) (program : GLuint) : GLSharedGroup :=
  if program ≠ 0#32 then shared.addProgramData program else shared

/-- `GL2Encoder::s_glDeleteProgram`. -/
def s_glDeleteProgram (shared : GLSharedGroup) (program : GLuint) : GLSharedGroup :=
  shared.deleteProgramData program

/-- `GL2Encoder::s_glAttachShader`. -/
def s_glAttachShader (shared : GLSharedGroup) (program shader : GLuint) : GLSharedGroup :=
  shared.attachShader program shader

/-- `GL2Encoder::s_glDetachShader`. -/
def s_glDetachShader (shared : GLSharedGroup) (program shader : GLuint) : GLSharedGroup :=
  shared.detachShader program shader

/-- The shared group after one object call.  Whether the host carried an
attachment out is not looked at. -/
def runObjectCall (shared : GLSharedGroup) : ObjectCall → GLSharedGroup
  | .glCreateShader name => s_glCreateShader shared name
  | .glDeleteShader shader => s_glDeleteShader shared shader
  | .glCreateProgram name => s_glCreateProgram shared name
  | .glDeleteProgram program => s_glDeleteProgram shared program
  | .glAttachShader program shader _ => s_glAttachShader shared program shader
  | .glDetachShader program shader => s_glDetachShader shared program shader

end GL2Encoder

/-! ## The shared group beside the GL objects -/

/-- One share group: the guest's records and the host's objects. -/
structure ShaderSystem where
  shared : GLSharedGroup
  objects : ShaderObjects

/-- Nothing created yet. -/
def ShaderSystem.init : ShaderSystem where
  shared := GLSharedGroup.init
  objects := ShaderObjects.init

/-- What one call does on both sides. -/
def ShaderSystem.call (s : ShaderSystem) (call : ObjectCall) : ShaderSystem where
  shared := GL2Encoder.runObjectCall s.shared call
  objects := s.objects.perform call

/-- One call, with an answer that GL permits. -/
def ShaderStep (s : ShaderSystem) (call : ObjectCall) (s' : ShaderSystem) : Prop :=
  s.objects.Allows call ∧ s' = s.call call

/-- The record that counts `n` references; there is none for `n = 0`. -/
def countRecord (n : Nat) : Option Int := if n = 0 then none else some (n : Int)

/-- Every shader record counts the references of its shader, and it exists exactly
while there are any. -/
def RefcountsAgree (s : ShaderSystem) : Prop :=
  ∀ shader, s.shared.refcountOf shader = countRecord (s.objects.references shader)

/-- The calls that count references correctly: a shader is deleted once, a program
only after its shaders were detached, and what GL could attach gets attached. -/
def CountsReferences (s : ShaderSystem) : ObjectCall → Prop
  | .glDeleteShader shader => s.objects.IsShader shader → shader ∈ s.objects.undeleted
  | .glDeleteProgram program =>
      ∀ shaders, s.objects.programs.lookup program = some shaders → shaders = []
  | .glAttachShader program shader attached =>
      s.objects.CanAttach program shader → attached = true
  | _ => True

/-- The invariant: besides the counts, the program records list the shaders that
are attached. -/
structure RefcountInv (s : ShaderSystem) : Prop where
  counts : RefcountsAgree s
  attached : ∀ program, s.shared.attachedTo program = s.objects.programs.lookup program
  once : s.objects.AttachedOnce

theorem refcountInv_init : RefcountInv ShaderSystem.init where
  counts := fun _ => rfl
  attached := fun _ => rfl
  once := ShaderObjects.attachedOnce_init

@[simp] theorem countRecord_zero : countRecord 0 = none := rfl

@[simp] theorem countRecord_succ (n : Nat) : countRecord (n + 1) = some ((n : Int) + 1) := by
  simp [countRecord]

theorem countRecord_inj {m n : Nat} (h : countRecord m = countRecord n) : m = n := by
  cases m with
  | zero => cases n with
    | zero => rfl
    | succ n => simp at h
  | succ m => cases n with
    | zero => simp at h
    | succ n =>
        simp only [countRecord_succ, Option.some.injEq] at h
        omega

/-- Dropping one of `n + 1` references leaves the record of `n`. -/
theorem dropReference_countRecord (n : Nat) :
    GLSharedGroup.dropReference (countRecord (n + 1)) = countRecord n := by
  cases n with
  | zero => rfl
  | succ n =>
      simp only [countRecord_succ, GLSharedGroup.dropReference, Option.bind_some]
      have hne : ((n + 1 : Nat) : Int) + 1 - 1 ≠ 0 := by omega
      rw [if_neg hne]
      congr 1
      omega

theorem dropReference_countRecord_zero :
    GLSharedGroup.dropReference (countRecord 0) = countRecord 0 := rfl

variable {s : ShaderSystem}

theorem RefcountsAgree.isShader_iff (h : RefcountsAgree s) (shader : GLuint) :
    s.objects.IsShader shader ↔ ∃ count, s.shared.refcountOf shader = some count := by
  rw [h shader]
  unfold ShaderObjects.IsShader
  cases s.objects.references shader with
  | zero => simp
  | succ n => simp

/-! ## What each call does to the counts -/

/-- A name that is not in use gets a record with one reference. -/
theorem counts_createShader (h : RefcountInv s) {name : GLuint} (hname : name ≠ 0#32)
    (hfree : ¬ s.objects.InUse name) (shader : GLuint) :
    (GL2Encoder.s_glCreateShader s.shared name).refcountOf shader =
      countRecord ((s.objects.perform (.glCreateShader name)).references shader) := by
  have hzero : s.objects.references name = 0 := by
    have hnot : ¬ s.objects.IsShader name := fun hshader => hfree (Or.inl hshader)
    unfold ShaderObjects.IsShader at hnot
    omega
  unfold GL2Encoder.s_glCreateShader
  rw [if_pos hname, GLSharedGroup.refcountOf_addShaderData,
    ShaderObjects.references_createShader hname hfree]
  by_cases hshader : shader = name
  · subst hshader
    rw [if_pos rfl, if_pos rfl, hzero]
    rfl
  · rw [if_neg hshader, if_neg hshader]
    exact h.counts shader

/-- The first `glDeleteShader` drops the reference of the name; on what is no
shader it does nothing. -/
theorem counts_deleteShader (h : RefcountInv s) {target : GLuint}
    (honce : s.objects.IsShader target → target ∈ s.objects.undeleted) (shader : GLuint) :
    (GL2Encoder.s_glDeleteShader s.shared target).refcountOf shader =
      countRecord ((s.objects.perform (.glDeleteShader target)).references shader) := by
  have hrefs := @ShaderObjects.references_deleteShader s.objects target shader
  unfold GL2Encoder.s_glDeleteShader
  rw [GLSharedGroup.refcountOf_unrefShaderData]
  by_cases hshader : shader = target
  · subst hshader
    rw [if_pos rfl, h.counts shader]
    by_cases hmem : shader ∈ s.objects.undeleted
    · rw [if_pos ⟨rfl, hmem⟩] at hrefs
      rw [← hrefs]
      exact dropReference_countRecord _
    · have hzero : s.objects.references shader = 0 :=
        Nat.eq_zero_of_not_pos fun hpos => hmem (honce hpos)
      rw [if_neg (fun hand => hmem hand.2)] at hrefs
      have hafter : (s.objects.perform (.glDeleteShader shader)).references shader = 0 := by
        omega
      rw [hafter, hzero]
      exact dropReference_countRecord_zero
  · rw [if_neg hshader, h.counts shader]
    rw [if_neg (fun hand => hshader hand.1)] at hrefs
    rw [← hrefs]
    rfl

/-- An attachment that the host carries out gains a reference. -/
theorem counts_attachShader (h : RefcountInv s) {program target : GLuint}
    (hattach : s.objects.CanAttach program target) (shader : GLuint) :
    (GL2Encoder.s_glAttachShader s.shared program target).refcountOf shader =
      countRecord ((s.objects.perform (.glAttachShader program target true)).references
        shader) := by
  rw [ShaderObjects.references_attachShader hattach]
  obtain ⟨hisShader, shaders, hlookup, hnot⟩ := hattach
  have hattached : s.shared.attachedTo program = some shaders := by
    rw [h.attached program, hlookup]
  obtain ⟨n, hn⟩ : ∃ n, s.objects.references target = n + 1 :=
    Nat.exists_eq_succ_of_ne_zero (Nat.pos_iff_ne_zero.mp hisShader)
  have hcount : s.shared.refcountOf target = some ((n : Int) + 1) := by
    rw [h.counts target, hn, countRecord_succ]
  obtain ⟨hrefcount, _⟩ := GLSharedGroup.attachShader_of_new hattached hcount hnot
  unfold GL2Encoder.s_glAttachShader
  rw [hrefcount shader]
  by_cases hshader : shader = target
  · subst hshader
    rw [if_pos rfl, if_pos rfl, hn, countRecord_succ]
    congr 1
  · rw [if_neg hshader, if_neg hshader]
    exact h.counts shader

/-- What GL cannot attach, the group does not attach either. -/
theorem attachShader_of_not_canAttach (h : RefcountInv s) {program target : GLuint}
    (hcannot : ¬ s.objects.CanAttach program target) :
    (∀ shader, (GL2Encoder.s_glAttachShader s.shared program target).refcountOf shader =
        s.shared.refcountOf shader) ∧
      ∀ other, (GL2Encoder.s_glAttachShader s.shared program target).attachedTo other =
        s.shared.attachedTo other := by
  refine GLSharedGroup.attachShader_of_not_new ?_
  intro shaders count hattached hcount
  by_contra hnot
  have hisShader : s.objects.IsShader target := (h.counts.isShader_iff target).mpr ⟨count, hcount⟩
  rw [h.attached program] at hattached
  exact hcannot ⟨hisShader, shaders, hattached, hnot⟩

/-- Detaching an attached shader drops a reference. -/
theorem counts_detachShader (h : RefcountInv s) {program target : GLuint}
    {shaders : List GLuint} (hlookup : s.objects.programs.lookup program = some shaders)
    (hmem : target ∈ shaders) :
    (∀ shader, (GL2Encoder.s_glDetachShader s.shared program target).refcountOf shader =
        countRecord ((s.objects.perform (.glDetachShader program target)).references
          shader)) ∧
      ∀ other, (GL2Encoder.s_glDetachShader s.shared program target).attachedTo other =
        if other = program then some (shaders.erase target) else s.shared.attachedTo other := by
  have hattached : s.shared.attachedTo program = some shaders := by
    rw [h.attached program, hlookup]
  have hisShader := ShaderObjects.isShader_of_mem_attached hlookup hmem
  obtain ⟨count, hcount⟩ := (h.counts.isShader_iff target).mp hisShader
  obtain ⟨hrefcount, hprograms⟩ := GLSharedGroup.detachShader_of_attached hattached hcount hmem
  refine ⟨fun shader => ?_, hprograms⟩
  unfold GL2Encoder.s_glDetachShader
  rw [hrefcount shader]
  have hrefs := ShaderObjects.references_detachShader h.once hlookup hmem shader
  by_cases hshader : shader = target
  · subst hshader
    rw [if_pos rfl, ← hcount, h.counts shader]
    rw [if_pos rfl] at hrefs
    rw [← hrefs]
    exact dropReference_countRecord _
  · rw [if_neg hshader, h.counts shader]
    rw [if_neg hshader] at hrefs
    rw [← hrefs]
    rfl

/-- Detaching a shader that is not attached does nothing. -/
theorem detachShader_of_not_mem (h : RefcountInv s) {program target : GLuint}
    (hnot : ∀ shaders, s.objects.programs.lookup program = some shaders → target ∉ shaders) :
    (∀ shader, (GL2Encoder.s_glDetachShader s.shared program target).refcountOf shader =
        s.shared.refcountOf shader) ∧
      ∀ other, (GL2Encoder.s_glDetachShader s.shared program target).attachedTo other =
        s.shared.attachedTo other := by
  refine GLSharedGroup.detachShader_of_not_attached ?_
  intro shaders count hattached _
  rw [h.attached program] at hattached
  exact hnot shaders hattached

/-! ## The invariant over one call -/

theorem counts_step (h : RefcountInv s) {call : ObjectCall} (hallows : s.objects.Allows call)
    (hcond : CountsReferences s call) (shader : GLuint) :
    (GL2Encoder.runObjectCall s.shared call).refcountOf shader =
      countRecord ((s.objects.perform call).references shader) := by
  cases call with
  | glCreateShader name =>
      rcases hallows with rfl | hfree
      · exact h.counts shader
      · by_cases hname : name = 0#32
        · subst hname
          exact h.counts shader
        · exact counts_createShader h hname hfree shader
  | glDeleteShader target => exact counts_deleteShader h hcond shader
  | glCreateProgram name =>
      rcases hallows with rfl | hfree
      · exact h.counts shader
      · have hnone : s.objects.programs.lookup name = none := by
          by_contra hlive
          exact hfree (Or.inr hlive)
        rw [ShaderObjects.references_createProgram hnone, ← h.counts shader]
        show (GL2Encoder.s_glCreateProgram s.shared name).refcountOf shader = _
        unfold GL2Encoder.s_glCreateProgram
        split
        · rfl
        · rfl
  | glDeleteProgram program =>
      show s.shared.refcountOf shader = _
      rw [h.counts shader]
      cases hlookup : s.objects.programs.lookup program with
      | none =>
          simp only [ShaderObjects.perform]
          rw [erase_of_lookup_none hlookup]
      | some shaders =>
          -- the list is empty, so no reference goes with the program
          have hrefs := ShaderObjects.references_deleteProgram hlookup shader
          rw [hcond shaders hlookup] at hrefs
          rw [← hrefs]
          rfl
  | glAttachShader program target attached =>
      by_cases hcan : s.objects.CanAttach program target
      · rw [hcond hcan]
        exact counts_attachShader h hcan shader
      · have hrefused : attached = false := by
          cases attached with
          | false => rfl
          | true => exact absurd (hallows rfl) hcan
        subst hrefused
        show (GL2Encoder.s_glAttachShader s.shared program target).refcountOf shader = _
        rw [(attachShader_of_not_canAttach h hcan).1 shader]
        exact h.counts shader
  | glDetachShader program target =>
      by_cases hattached :
          ∃ shaders, s.objects.programs.lookup program = some shaders ∧ target ∈ shaders
      · obtain ⟨shaders, hlookup, hmem⟩ := hattached
        exact (counts_detachShader h hlookup hmem).1 shader
      · have hnot : ∀ shaders, s.objects.programs.lookup program = some shaders →
            target ∉ shaders :=
          fun shaders hlookup hmem => hattached ⟨shaders, hlookup, hmem⟩
        show (GL2Encoder.s_glDetachShader s.shared program target).refcountOf shader = _
        rw [(detachShader_of_not_mem h hnot).1 shader, h.counts shader,
          ShaderObjects.references_detachShader_of_not_mem hnot]

/-- `s_glAttachShader` lists the shader when the host attaches it. -/
theorem attachedTo_attachShader (h : RefcountInv s) {target shader : GLuint} {attached : Bool}
    (hallows : s.objects.Allows (.glAttachShader target shader attached))
    (hcond : CountsReferences s (.glAttachShader target shader attached)) (program : GLuint) :
    (GL2Encoder.s_glAttachShader s.shared target shader).attachedTo program =
      (s.objects.perform (.glAttachShader target shader attached)).programs.lookup program := by
  by_cases hcan : s.objects.CanAttach target shader
  · -- the host attaches, and the condition says that it was told to
    rw [hcond hcan]
    obtain ⟨hisShader, shaders, hlookup, hnot⟩ := hcan
    have hattached : s.shared.attachedTo target = some shaders := by
      rw [h.attached target, hlookup]
    obtain ⟨count, hcount⟩ := (h.counts.isShader_iff shader).mp hisShader
    unfold GL2Encoder.s_glAttachShader
    rw [(GLSharedGroup.attachShader_of_new hattached hcount hnot).2 program]
    simp only [ShaderObjects.perform, if_true, ShaderObjects.lookup_modifyAttached, hlookup,
      Option.map_some, h.attached program]
  · have hrefused : attached = false := by
      cases attached with
      | false => rfl
      | true => exact absurd (hallows rfl) hcan
    subst hrefused
    rw [(attachShader_of_not_canAttach h hcan).2 program]
    exact h.attached program

/-- `s_glDetachShader` takes the shader off the list, as the host does. -/
theorem attachedTo_detachShader (h : RefcountInv s) (target shader program : GLuint) :
    (GL2Encoder.s_glDetachShader s.shared target shader).attachedTo program =
      (s.objects.perform (.glDetachShader target shader)).programs.lookup program := by
  simp only [ShaderObjects.perform, ShaderObjects.lookup_modifyAttached]
  by_cases hattached :
      ∃ shaders, s.objects.programs.lookup target = some shaders ∧ shader ∈ shaders
  · obtain ⟨shaders, hlookup, hmem⟩ := hattached
    rw [(counts_detachShader h hlookup hmem).2 program, hlookup, h.attached program]
    rfl
  · have hnot : ∀ shaders, s.objects.programs.lookup target = some shaders →
        shader ∉ shaders :=
      fun shaders hlookup hmem => hattached ⟨shaders, hlookup, hmem⟩
    rw [(detachShader_of_not_mem h hnot).2 program, h.attached program]
    by_cases hprogram : program = target
    · subst hprogram
      rw [if_pos rfl]
      cases hlookup : s.objects.programs.lookup program with
      | none => rfl
      | some shaders =>
          rw [Option.map_some, List.erase_of_not_mem (hnot shaders hlookup)]
    · rw [if_neg hprogram]

theorem attached_step (h : RefcountInv s) {call : ObjectCall} (hallows : s.objects.Allows call)
    (hcond : CountsReferences s call) (program : GLuint) :
    (GL2Encoder.runObjectCall s.shared call).attachedTo program =
      (s.objects.perform call).programs.lookup program := by
  cases call with
  | glCreateShader name =>
      unfold GL2Encoder.runObjectCall GL2Encoder.s_glCreateShader ShaderObjects.perform
      by_cases hname : name = 0#32
      · simp only [hname, ne_eq, not_true_eq_false, if_false, if_true]
        exact h.attached program
      · simp only [hname, ne_eq, not_false_eq_true, if_true, if_false]
        exact h.attached program
  | glDeleteShader target =>
      show (s.shared.unrefShaderData target).attachedTo program = _
      rw [GLSharedGroup.attachedTo_unrefShaderData]
      exact h.attached program
  | glCreateProgram name =>
      unfold GL2Encoder.runObjectCall GL2Encoder.s_glCreateProgram ShaderObjects.perform
      by_cases hname : name = 0#32
      · simp only [hname, ne_eq, not_true_eq_false, if_false, if_true]
        exact h.attached program
      · simp only [hname, ne_eq, not_false_eq_true, if_true, if_false]
        rw [GLSharedGroup.attachedTo_addProgramData]
        by_cases hprogram : program = name
        · subst hprogram
          simp
        · simp only [hprogram, if_false, ne_eq, not_false_eq_true, AList.lookup_insert_ne]
          exact h.attached program
  | glDeleteProgram target =>
      show (s.shared.deleteProgramData target).attachedTo program = _
      rw [GLSharedGroup.attachedTo_deleteProgramData]
      by_cases hprogram : program = target
      · subst hprogram
        simp [ShaderObjects.perform]
      · simp only [hprogram, if_false, ShaderObjects.perform, ne_eq, not_false_eq_true,
          AList.lookup_erase_ne]
        exact h.attached program
  | glAttachShader target shader attached => exact attachedTo_attachShader h hallows hcond program
  | glDetachShader target shader => exact attachedTo_detachShader h target shader program

theorem RefcountInv.step (h : RefcountInv s) {call : ObjectCall} {s' : ShaderSystem}
    (hcond : CountsReferences s call) (hstep : ShaderStep s call s') : RefcountInv s' := by
  obtain ⟨hallows, rfl⟩ := hstep
  exact
    { counts := counts_step h hallows hcond
      attached := attached_step h hallows hcond
      once := h.once.perform hallows }

/-- A call outside of `CountsReferences` leaves a count that is wrong. -/
theorem RefcountInv.countsReferences_of_step (h : RefcountInv s) {call : ObjectCall}
    {s' : ShaderSystem} (hstep : ShaderStep s call s') (hagree : RefcountsAgree s') :
    CountsReferences s call := by
  obtain ⟨hallows, rfl⟩ := hstep
  cases call with
  | glCreateShader name => trivial
  | glCreateProgram name => trivial
  | glDetachShader program target => trivial
  | glDeleteShader target =>
      intro hisShader
      by_contra hnot
      -- a reference is dropped that the deleted name no longer had
      have hbefore := h.counts target
      have hafter := hagree target
      have hrefs := @ShaderObjects.references_deleteShader s.objects target target
      rw [if_neg (fun hand => hnot hand.2), Nat.add_zero] at hrefs
      change (s.shared.unrefShaderData target).refcountOf target =
        countRecord ((s.objects.perform (.glDeleteShader target)).references target) at hafter
      rw [GLSharedGroup.refcountOf_unrefShaderData, if_pos rfl, hbefore, hrefs] at hafter
      obtain ⟨n, hn⟩ : ∃ n, s.objects.references target = n + 1 :=
        Nat.exists_eq_succ_of_ne_zero (Nat.pos_iff_ne_zero.mp hisShader)
      rw [hn, dropReference_countRecord] at hafter
      have heq : n = n + 1 := countRecord_inj hafter
      omega
  | glDeleteProgram program =>
      intro shaders hlookup
      by_contra hne
      -- the records keep the references that went with the program
      obtain ⟨shader, hmem⟩ := List.exists_mem_of_ne_nil shaders hne
      have hrefs := ShaderObjects.references_deleteProgram hlookup shader
      rw [if_pos hmem] at hrefs
      have hafter := hagree shader
      change s.shared.refcountOf shader =
        countRecord ((s.objects.perform (.glDeleteProgram program)).references shader) at hafter
      rw [h.counts shader] at hafter
      have heq : s.objects.references shader =
          (s.objects.perform (.glDeleteProgram program)).references shader :=
        countRecord_inj hafter
      omega
  | glAttachShader program target attached =>
      intro hcan
      cases attached with
      | true => rfl
      | false =>
          -- the group counts an attachment that does not exist
          have hafter := hagree target
          change (GL2Encoder.s_glAttachShader s.shared program target).refcountOf target =
            countRecord (s.objects.references target) at hafter
          rw [counts_attachShader h hcan, ShaderObjects.references_attachShader hcan,
            if_pos rfl] at hafter
          have heq : s.objects.references target + 1 = s.objects.references target :=
            countRecord_inj hafter
          omega

/-- Over every run, the reference count of every shader record is 1 until the first
`glDeleteShader` plus the number of live programs the shader is attached to, with
the record gone exactly at 0, if and only if no live shader is deleted a second
time, every program is deleted without shaders attached to it, and the host never
refuses to attach a shader that is not attached yet. -/
theorem refcounts_agree_iff {trace : List (ObjectCall × ShaderSystem)}
    (hrun : Run ShaderStep ShaderSystem.init trace) :
    Always RefcountsAgree trace ↔
      EachStep (fun s call _ => CountsReferences s call) ShaderSystem.init trace :=
  hrun.always_iff_eachStep (fun _ _ _ hinv hcond hstep => hinv.step hcond hstep)
    (fun _ hinv => hinv.counts)
    (fun _ _ _ hinv hstep hagree => hinv.countsReferences_of_step hstep hagree)
    refcountInv_init

/-- A shader, number 1, attached to a program, number 2. -/
def attachOne : List ObjectCall :=
  [.glCreateShader 1#32, .glCreateProgram 2#32, .glAttachShader 2#32 1#32 true]

theorem refcounts_agree_iff_detach_first :
    let trace := traceOf ShaderSystem.call ShaderSystem.init
      (attachOne ++ [.glDeleteShader 1#32, .glDetachShader 2#32 1#32, .glDeleteProgram 2#32])
    Always RefcountsAgree trace ↔
      EachStep (fun s call _ => CountsReferences s call) ShaderSystem.init trace :=
  refcounts_agree_iff ((run_traceOf _ _ _).and_eachStep (by decide))

/-- Deleting the program keeps its reference: the record of the shader counts two
references when only the undeleted name is left. -/
theorem delete_program_leaks_references :
    ¬∀ trace : List (ObjectCall × ShaderSystem), Run ShaderStep ShaderSystem.init trace →
      Always RefcountsAgree trace := by
  intro h
  let trace := traceOf ShaderSystem.call ShaderSystem.init (attachOne ++ [.glDeleteProgram 2#32])
  have hrun : Run ShaderStep ShaderSystem.init trace :=
    (run_traceOf _ _ _).and_eachStep (by decide)
  have hcount : trace.getLast?.map (fun entry => entry.2.shared.refcountOf 1#32) =
      some (some 2) := by
    decide
  have hrefs : trace.getLast?.map (fun entry => entry.2.objects.references 1#32) = some 1 := by
    decide
  obtain ⟨entry, hlast, hrefcount⟩ := Option.map_eq_some_iff.mp hcount
  rw [hlast, Option.map_some, Option.some.injEq] at hrefs
  have hagree := h trace hrun entry (List.mem_of_getLast? hlast) 1#32
  rw [hrefcount, hrefs] at hagree
  revert hagree
  decide

end GLESv2Enc
end DeviceAndroVM
