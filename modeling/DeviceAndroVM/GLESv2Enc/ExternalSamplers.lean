import DeviceAndroVM.OpenGL.ShaderText
import DeviceAndroVM.GLESv2Enc.LinkedTable
import DeviceAndroVM.GLESv2Enc.ShaderRefcount
import DeviceAndroVM.GLESv2Enc.ShaderSource

/-!
# The uniforms that are flagged as external samplers

The names that `glShaderSource` keeps, from the upload of a source to the flags of the
uniforms of a linked program.

* `SourceSystem` — the encoder, the GL objects, and the sources passed so far.
* `LinkFlagsExternal` — the flags after a link are those of the last accepted sources.
* `MentionsDeclared` — when they are: the names that any source of the attached shaders
  ever mentioned are the declared ones.
* `external_flags_iff` — for every run.
-/

namespace DeviceAndroVM
namespace GLESv2Enc

open OpenGL Library OpenglCodecCommon GL2Encoder

/-- The shader and program calls with `glShaderSource` and `glLinkProgram`. -/
inductive SourceCall
  | object (call : ObjectCall)
  | glShaderSource (shader : GLuint) (strings : List (Option String8 × Option GLint))
  | glLinkProgram (program : GLuint) (reply : LinkReply) (memory : Nat → IndexInfo)

/-- A context and the objects of its share group.  `uploads` are the sources that were
passed for a shader since it was created, accepted or rejected; `accepted` is the last one
that the encoder passed on. -/
structure SourceSystem where
  ctx : Encoder
  objects : ShaderObjects
  uploads : GLuint → List String8
  accepted : GLuint → Option String8

namespace SourceSystem

/-- A new context, and no objects. -/
def init (memory : Nat → VertexAttribState) : SourceSystem where
  ctx := Encoder.init memory GLSharedGroup.init
  objects := ShaderObjects.init
  uploads := fun _ => []
  accepted := fun _ => none

variable (s : SourceSystem)

/-- The sources of a new shader. -/
def forget : ObjectCall → SourceSystem
  | .glCreateShader name =>
      if name = 0#32 then s
      else
        { s with
          uploads := Function.update s.uploads name []
          accepted := Function.update s.accepted name none }
  | _ => s

/-- What one call does. -/
def call : SourceCall → SourceSystem
  | .object call =>
      { s.forget call with
        ctx := { s.ctx with shared := runObjectCall s.ctx.shared call }
        objects := s.objects.perform call }
  | .glShaderSource shader strings =>
      let source := glUtilsPackStrings strings
      let result := s_glShaderSource s.ctx shader strings
      { s with
        ctx := result.2
        uploads :=
          if (s.ctx.shared.getShaderData shader).isSome then
            Function.update s.uploads shader (s.uploads shader ++ [source])
          else s.uploads
        accepted :=
          if result.1.isSome then Function.update s.accepted shader (some source)
          else s.accepted }
  | .glLinkProgram program reply memory =>
      { s with ctx := s_glLinkProgram s.ctx program reply memory }

/-- The answers that GL permits: only a live program is linked, and it has as many
uniforms as a `GLint` counts. -/
def Allows : SourceCall → Prop
  | .object call => s.objects.Allows call
  | .glShaderSource _ _ => True
  | .glLinkProgram program reply _ =>
      reply.uniforms.length < 2 ^ 31 ∧
        (reply.linkStatus = true → (s.objects.programs.lookup program).isSome = true)

end SourceSystem

/-- One call, with an answer that GL permits. -/
def SourceStep (s : SourceSystem) (call : SourceCall) (s' : SourceSystem) : Prop :=
  s.Allows call ∧ s' = s.call call

/-! ## The flags after a link -/

/-- Uniform `i` is flagged. -/
def FlaggedExternal (s : SourceSystem) (program : GLuint) (i : Nat) : Prop :=
  ∃ info, uniformEntry s.ctx.shared program i = some info ∧
    info.flags &&& INDEX_FLAG_SAMPLER_EXTERNAL ≠ 0#32

/-- The last accepted source of an attached shader declares the uniform as an external
sampler.  `preprocess` is the preprocessor of the shading language. -/
def DeclaredExternal (preprocess : String8 → String8) (s : SourceSystem) (program : GLuint)
    (name : String8) : Prop :=
  ∃ shaders, s.objects.programs.lookup program = some shaders ∧ ∃ shader ∈ shaders,
    ∃ source, s.accepted shader = some source ∧
      name ∈ ShaderText.externalUniforms (preprocess source)

/-- The names that a source mentions outside of its `#extension` lines about external
images. -/
def mentionedIn (source : String8) : List String8 :=
  mentionedNames (overwriteExtensions (source.length + 1) source)

/-- Some source that was ever passed for a shader in the list of the program mentions the
name. -/
def MentionedExternal (s : SourceSystem) (program : GLuint) (name : String8) : Prop :=
  ∃ data, s.ctx.shared.programs.lookup program = some data ∧ ∃ shader ∈ data.shaders,
    (s.ctx.shared.getShaderData shader).isSome = true ∧
      ∃ source ∈ s.uploads shader, name ∈ mentionedIn source

/-- After a successful link, the flagged `GL_SAMPLER_2D` uniforms are the declared ones. -/
def LinkFlagsExternal (preprocess : String8 → String8) (s : SourceSystem) (call : SourceCall)
    (s' : SourceSystem) : Prop :=
  ∀ program reply memory, call = .glLinkProgram program reply memory →
    reply.linkStatus = true → ∀ (i : Nat) u, reply.uniforms[i]? = some u →
      u.type = GL_SAMPLER_2D →
        (FlaggedExternal s' program i ↔ DeclaredExternal preprocess s program u.name)

/-- At a successful link, the `GL_SAMPLER_2D` uniforms that are mentioned are the declared
ones. -/
def MentionsDeclared (preprocess : String8 → String8) (s : SourceSystem) (call : SourceCall) :
    Prop :=
  ∀ program reply memory, call = .glLinkProgram program reply memory →
    reply.linkStatus = true → ∀ u ∈ reply.uniforms, u.type = GL_SAMPLER_2D →
      (MentionedExternal s program u.name ↔ DeclaredExternal preprocess s program u.name)

/-! ## The names in the records -/

/-- Every record has the names that the sources of its shader mention, and the programs
with a record are the live ones. -/
structure NamesMentioned (s : SourceSystem) : Prop where
  names : ∀ shader data, s.ctx.shared.shaders.lookup shader = some data →
    data.samplerExternalNames = (s.uploads shader).flatMap mentionedIn
  programs : ∀ program, (s.ctx.shared.programs.lookup program).isSome =
    (s.objects.programs.lookup program).isSome

theorem namesMentioned_init (memory : Nat → VertexAttribState) :
    NamesMentioned (SourceSystem.init memory) := by
  constructor
  · intro shader data hlookup
    cases hlookup
  · exact fun _ => rfl

variable {s : SourceSystem} {shared : GLSharedGroup}

/-- The records of `after` are records of `before`, with other counters. -/
def SameNames (before after : GLSharedGroup) : Prop :=
  ∀ shader data, after.shaders.lookup shader = some data →
    ∃ old, before.shaders.lookup shader = some old ∧
      data.samplerExternalNames = old.samplerExternalNames

theorem SameNames.refl (shared : GLSharedGroup) : SameNames shared shared :=
  fun _ data hlookup => ⟨data, hlookup, rfl⟩

theorem sameNames_insert {shader : GLuint} {data : ShaderData}
    (hlookup : shared.shaders.lookup shader = some data) (count : Int)
    (programs : ObjectMap ProgramData) :
    SameNames shared { shared with
      programs := programs
      shaders := shared.shaders.insert shader { data with refcount := count } } := by
  intro other found hfound
  rcases lookup_insert_eq_some.mp hfound with ⟨rfl, rfl⟩ | ⟨-, hold⟩
  · exact ⟨data, hlookup, rfl⟩
  · exact ⟨found, hold, rfl⟩

theorem sameNames_unref {shader : GLuint} {data : ShaderData}
    (hlookup : shared.shaders.lookup shader = some data) (programs : ObjectMap ProgramData) :
    SameNames shared
      ({ shared with programs := programs }.unrefShaderDataLocked shader data) := by
  unfold GLSharedGroup.unrefShaderDataLocked
  split
  · intro other found hfound
    by_cases hother : other = shader
    · subst hother
      simp at hfound
    · exact ⟨found, by simpa [hother] using hfound, rfl⟩
  · exact sameNames_insert hlookup _ programs

/-- No object call but the creation of a shader changes names. -/
theorem sameNames_runObjectCall {call : ObjectCall} (h : ∀ name, call ≠ .glCreateShader name) :
    SameNames shared (runObjectCall shared call) := by
  cases call with
  | glCreateShader name => exact absurd rfl (h name)
  | glDeleteShader shader =>
      show SameNames shared (shared.unrefShaderData shader)
      unfold GLSharedGroup.unrefShaderData
      split
      · rename_i data hlookup
        exact sameNames_unref hlookup shared.programs
      · exact SameNames.refl shared
  | glCreateProgram name =>
      show SameNames shared (s_glCreateProgram shared name)
      unfold s_glCreateProgram
      split
      · exact SameNames.refl shared
      · exact SameNames.refl shared
  | glDeleteProgram program => exact SameNames.refl shared
  | glAttachShader program shader attached =>
      show SameNames shared (shared.attachShader program shader)
      unfold GLSharedGroup.attachShader
      split
      · rename_i programData data _ hlookup
        dsimp only
        split
        · exact sameNames_insert hlookup _ _
        · exact SameNames.refl shared
      · exact SameNames.refl shared
  | glDetachShader program shader =>
      show SameNames shared (shared.detachShader program shader)
      unfold GLSharedGroup.detachShader
      split
      · rename_i programData data _ hlookup
        dsimp only
        split
        · exact sameNames_unref hlookup _
        · exact SameNames.refl shared
      · exact SameNames.refl shared

/-! ### The programs with a record -/

theorem isSome_lookup_insert {programs : ObjectMap ProgramData} {program : GLuint}
    {data old : ProgramData} (hlookup : programs.lookup program = some old) (other : GLuint) :
    ((programs.insert program data).lookup other).isSome = (programs.lookup other).isSome := by
  by_cases hother : other = program
  · subst hother
    rw [AList.lookup_insert, hlookup]
    rfl
  · rw [AList.lookup_insert_ne hother]

theorem isSome_lookup_modifyAttached (objs : ShaderObjects) (program other : GLuint)
    (f : List GLuint → List GLuint) :
    ((objs.modifyAttached program f).programs.lookup other).isSome =
      (objs.programs.lookup other).isSome := by
  rw [ShaderObjects.lookup_modifyAttached]
  split
  · rename_i hother
    rw [hother, Option.isSome_map]
  · rfl

theorem programs_unrefShaderDataLocked (shared : GLSharedGroup) (shader : GLuint)
    (data : ShaderData) :
    (shared.unrefShaderDataLocked shader data).programs = shared.programs := by
  unfold GLSharedGroup.unrefShaderDataLocked
  split <;> rfl

theorem isSome_lookup_attachShader (shared : GLSharedGroup) (program shader other : GLuint) :
    ((shared.attachShader program shader).programs.lookup other).isSome =
      (shared.programs.lookup other).isSome := by
  unfold GLSharedGroup.attachShader
  split
  · rename_i programData data hprogram _
    dsimp only
    split
    · exact isSome_lookup_insert hprogram other
    · exact isSome_lookup_insert hprogram other
  · rfl

theorem isSome_lookup_detachShader (shared : GLSharedGroup) (program shader other : GLuint) :
    ((shared.detachShader program shader).programs.lookup other).isSome =
      (shared.programs.lookup other).isSome := by
  unfold GLSharedGroup.detachShader
  split
  · rename_i programData data hprogram _
    dsimp only
    split
    · rw [programs_unrefShaderDataLocked]
      exact isSome_lookup_insert hprogram other
    · exact isSome_lookup_insert hprogram other
  · rfl

/-- Programs are created and deleted on both sides. -/
theorem programs_runObjectCall {objs : ShaderObjects}
    (h : ∀ program, (shared.programs.lookup program).isSome =
      (objs.programs.lookup program).isSome) (call : ObjectCall) (program : GLuint) :
    ((runObjectCall shared call).programs.lookup program).isSome =
      ((objs.perform call).programs.lookup program).isSome := by
  cases call with
  | glCreateShader name =>
      simp only [runObjectCall, s_glCreateShader, ShaderObjects.perform]
      by_cases hname : name = 0#32
      · rw [if_neg (by simp [hname]), if_pos hname]
        exact h program
      · rw [if_pos hname, if_neg hname]
        exact h program
  | glDeleteShader shader =>
      simp only [runObjectCall, s_glDeleteShader, GLSharedGroup.unrefShaderData]
      split
      · rw [programs_unrefShaderDataLocked]
        exact h program
      · exact h program
  | glCreateProgram name =>
      simp only [runObjectCall, s_glCreateProgram, ShaderObjects.perform]
      by_cases hname : name = 0#32
      · rw [if_neg (by simp [hname]), if_pos hname]
        exact h program
      · rw [if_pos hname, if_neg hname]
        by_cases hprogram : program = name
        · subst hprogram
          simp [GLSharedGroup.addProgramData]
        · simpa [GLSharedGroup.addProgramData, hprogram] using h program
  | glDeleteProgram name =>
      simp only [runObjectCall, s_glDeleteProgram, GLSharedGroup.deleteProgramData,
        ShaderObjects.perform]
      by_cases hprogram : program = name
      · subst hprogram
        simp
      · simpa [hprogram] using h program
  | glAttachShader name shader attached =>
      rw [runObjectCall, s_glAttachShader, isSome_lookup_attachShader, h program]
      simp only [ShaderObjects.perform]
      split
      · exact (isSome_lookup_modifyAttached ..).symm
      · rfl
  | glDetachShader name shader =>
      rw [runObjectCall, s_glDetachShader, isSome_lookup_detachShader, h program]
      exact (isSome_lookup_modifyAttached ..).symm

/-! ### Steps -/

theorem NamesMentioned.object (h : NamesMentioned s) (call : ObjectCall) :
    NamesMentioned (s.call (.object call)) := by
  refine ⟨?_, fun program => ?_⟩
  swap
  · show ((runObjectCall s.ctx.shared call).programs.lookup program).isSome = _
    exact programs_runObjectCall h.programs call program
  intro shader data hlookup
  by_cases hcreate : ∃ name, call = .glCreateShader name ∧ name ≠ 0#32
  · -- a new record has no names, and its shader no sources
    obtain ⟨name, rfl, hname⟩ := hcreate
    have huploads : (s.call (.object (.glCreateShader name))).uploads =
        Function.update s.uploads name [] := by
      simp [SourceSystem.call, SourceSystem.forget, hname]
    have hshaders : (s.call (.object (.glCreateShader name))).ctx.shared.shaders =
        s.ctx.shared.shaders.insert name { samplerExternalNames := [], refcount := 1 } := by
      simp [SourceSystem.call, runObjectCall, s_glCreateShader, hname,
        GLSharedGroup.addShaderData]
    rw [hshaders] at hlookup
    rw [huploads]
    rcases lookup_insert_eq_some.mp hlookup with ⟨rfl, rfl⟩ | ⟨hne, hold⟩
    · rw [Function.update_self]
      rfl
    · rw [Function.update_of_ne hne]
      exact h.names shader data hold
  · have huploads : (s.call (.object call)).uploads = s.uploads := by
      cases call with
      | glCreateShader name =>
          have hzero : name = 0#32 := by
            by_contra hne
            exact hcreate ⟨name, rfl, hne⟩
          simp [SourceSystem.call, SourceSystem.forget, hzero]
      | _ => rfl
    have hsame : SameNames s.ctx.shared (s.call (.object call)).ctx.shared := by
      cases call with
      | glCreateShader name =>
          have hzero : name = 0#32 := by
            by_contra hne
            exact hcreate ⟨name, rfl, hne⟩
          simpa [SourceSystem.call, runObjectCall, s_glCreateShader, hzero] using SameNames.refl _
      | _ => exact sameNames_runObjectCall (by simp)
    obtain ⟨old, hold, hnames⟩ := hsame shader data hlookup
    rw [huploads, hnames]
    exact h.names shader old hold

theorem shared_s_glShaderSource {ctx : Encoder} {shader : GLuint} {data : ShaderData}
    (hdata : ctx.shared.getShaderData shader = some data)
    (strings : List (Option String8 × Option GLint)) :
    (s_glShaderSource ctx shader strings).2.shared =
      { ctx.shared with shaders := ctx.shared.shaders.insert shader { data with
          samplerExternalNames := data.samplerExternalNames ++
            (mentionedIn (glUtilsPackStrings strings)) } } := by
  unfold s_glShaderSource
  rw [hdata]
  dsimp only
  rw [mentionedIn, ← names_replaceSamplerExternalWith2D]
  split
  · rfl
  · rfl

/-- The record gets the names of the new source, whether it is accepted or not. -/
theorem NamesMentioned.glShaderSource (h : NamesMentioned s) (shader : GLuint)
    (strings : List (Option String8 × Option GLint)) :
    NamesMentioned (s.call (.glShaderSource shader strings)) := by
  cases hdata : s.ctx.shared.getShaderData shader with
  | none =>
      have hshared : (s_glShaderSource s.ctx shader strings).2.shared = s.ctx.shared := by
        rw [s_glShaderSource, hdata]
        rfl
      have huploads : (s.call (.glShaderSource shader strings)).uploads = s.uploads := by
        simp [SourceSystem.call, hdata]
      constructor
      · intro other found hfound
        rw [huploads]
        rw [SourceSystem.call, hshared] at hfound
        exact h.names other found hfound
      · intro program
        rw [SourceSystem.call, hshared]
        exact h.programs program
  | some data =>
      have hshared := shared_s_glShaderSource hdata strings
      have huploads : (s.call (.glShaderSource shader strings)).uploads =
          Function.update s.uploads shader (s.uploads shader ++ [glUtilsPackStrings strings]) := by
        simp [SourceSystem.call, hdata]
      constructor
      · intro other found hfound
        rw [huploads]
        rw [SourceSystem.call, hshared] at hfound
        rcases lookup_insert_eq_some.mp hfound with ⟨rfl, rfl⟩ | ⟨hne, hold⟩
        · rw [Function.update_self, List.flatMap_append, List.flatMap_singleton,
            ← h.names other data hdata]
        · rw [Function.update_of_ne hne]
          exact h.names other found hold
      · intro program
        rw [SourceSystem.call, hshared]
        exact h.programs program

theorem NamesMentioned.glLinkProgram (h : NamesMentioned s) (program : GLuint)
    {reply : LinkReply} (hlength : reply.uniforms.length < 2 ^ 31) (memory : Nat → IndexInfo) :
    NamesMentioned (s.call (.glLinkProgram program reply memory)) := by
  have hlength : reply.uniforms.length < 2 ^ 32 := Nat.lt_trans hlength (by decide)
  cases hlookup : s.ctx.shared.programs.lookup program with
  | none =>
      have hsame : (s_glLinkProgram s.ctx program reply memory).shared = s.ctx.shared := by
        have hmodify : ∀ f, s.ctx.shared.modifyProgram program f = s.ctx.shared := by
          intro f
          unfold GLSharedGroup.modifyProgram
          rw [hlookup]
        have hset : ∀ (uniforms : List ActiveUniform) k,
            setUniforms s.ctx.shared program k uniforms = s.ctx.shared := by
          intro uniforms
          induction uniforms with
          | nil => exact fun _ => rfl
          | cons u rest ih =>
              intro k
              rw [setUniforms, GLSharedGroup.setProgramIndexInfo, hmodify, ih]
        unfold s_glLinkProgram
        split
        · rfl
        · dsimp only
          rw [GLSharedGroup.initProgramData, hmodify, hset, GLSharedGroup.setupLocationShiftWAR,
            hmodify]
      constructor
      · intro shader data hdata
        rw [SourceSystem.call, hsame] at hdata
        exact h.names shader data hdata
      · intro other
        rw [SourceSystem.call, hsame]
        exact h.programs other
  | some old =>
      obtain ⟨hshaders, hothers⟩ := s_glLinkProgram_frame hlength hlookup memory
      constructor
      · intro shader data hdata
        rw [SourceSystem.call, hshaders] at hdata
        exact h.names shader data hdata
      · intro other
        show ((s_glLinkProgram s.ctx program reply memory).shared.programs.lookup other).isSome = _
        by_cases hother : other = program
        · subst hother
          cases hstatus : reply.linkStatus with
          | true =>
              have hlive := h.programs other
              rw [hlookup] at hlive
              rw [lookup_s_glLinkProgram hstatus hlength hlookup memory]
              exact hlive
          | false =>
              have hsame : s_glLinkProgram s.ctx other reply memory = s.ctx := by
                rw [s_glLinkProgram, hstatus]
                rfl
              rw [hsame]
              exact h.programs other
        · rw [hothers other hother]
          exact h.programs other

theorem NamesMentioned.step (h : NamesMentioned s) {call : SourceCall} {s' : SourceSystem}
    (hstep : SourceStep s call s') : NamesMentioned s' := by
  obtain ⟨hallows, rfl⟩ := hstep
  cases call with
  | object call => exact h.object call
  | glShaderSource shader strings => exact h.glShaderSource shader strings
  | glLinkProgram program reply memory => exact h.glLinkProgram program hallows.1 memory

/-! ## The flags -/

/-- What the loop over the attached shaders finds. -/
theorem NamesMentioned.declaresSamplerExternal_iff (h : NamesMentioned s) {program : GLuint}
    {data : ProgramData} (hlookup : s.ctx.shared.programs.lookup program = some data)
    (name : String8) :
    s.ctx.shared.declaresSamplerExternal data name = true ↔ MentionedExternal s program name := by
  unfold GLSharedGroup.declaresSamplerExternal MentionedExternal GLSharedGroup.getShaderData
  rw [List.any_eq_true]
  constructor
  · rintro ⟨shader, hmem, hname⟩
    cases hshader : s.ctx.shared.shaders.lookup shader with
    | none => simp [hshader] at hname
    | some record =>
        rw [hshader] at hname
        have hnames : name ∈ record.samplerExternalNames := by simpa using hname
        rw [h.names shader record hshader, List.mem_flatMap] at hnames
        exact ⟨data, hlookup, shader, hmem, by simp [hshader], hnames⟩
  · rintro ⟨found, hfound, shader, hmem, hrecord, hmentioned⟩
    rw [hlookup] at hfound
    obtain rfl := Option.some.inj hfound
    obtain ⟨record, hshader⟩ := Option.isSome_iff_exists.mp hrecord
    refine ⟨shader, hmem, ?_⟩
    rw [hshader]
    have hnames : name ∈ record.samplerExternalNames := by
      rw [h.names shader record hshader, List.mem_flatMap]
      exact hmentioned
    simpa using hnames

/-- The flag of a uniform after a link. -/
theorem NamesMentioned.flaggedExternal_iff (h : NamesMentioned s) {program : GLuint}
    {reply : LinkReply} {memory : Nat → IndexInfo}
    (hallows : s.Allows (.glLinkProgram program reply memory)) (hstatus : reply.linkStatus = true)
    {i : Nat} {u : ActiveUniform} (hu : reply.uniforms[i]? = some u)
    (htype : u.type = GL_SAMPLER_2D) :
    FlaggedExternal (s.call (.glLinkProgram program reply memory)) program i ↔
      MentionedExternal s program u.name := by
  have hlive := hallows.2 hstatus
  rw [← h.programs, Option.isSome_iff_exists] at hlive
  obtain ⟨old, hlookup⟩ := hlive
  have hlength : reply.uniforms.length < 2 ^ 32 := Nat.lt_trans hallows.1 (by decide)
  have hlinked := lookup_s_glLinkProgram hstatus hlength hlookup memory
  have hentry : uniformEntry (s.call (.glLinkProgram program reply memory)).ctx.shared program i =
      some (linkedEntry (s.ctx.shared.declaresSamplerExternal old) reply.uniforms i u) := by
    show (((s_glLinkProgram s.ctx program reply memory).shared.programs.lookup program).bind
      fun data => data.indexes[i]?) = _
    rw [hlinked]
    show (linkedTable _ reply.uniforms)[i]? = _
    rw [getElem?_linkedTable, hu]
    rfl
  rw [← h.declaresSamplerExternal_iff hlookup, FlaggedExternal, hentry]
  simp only [Option.some.injEq, exists_eq_left', linkedEntry, htype, beq_self_eq_true,
    Bool.true_and]
  cases s.ctx.shared.declaresSamplerExternal old u.name with
  | true => simp
  | false => simp

/-! ## Runs -/

/-- One call flags the declared uniforms exactly when the mentioned names are declared. -/
theorem NamesMentioned.linkFlagsExternal_iff (h : NamesMentioned s)
    {preprocess : String8 → String8} {call : SourceCall} {s' : SourceSystem}
    (hstep : SourceStep s call s') :
    LinkFlagsExternal preprocess s call s' ↔ MentionsDeclared preprocess s call := by
  obtain ⟨hallows, rfl⟩ := hstep
  constructor
  · rintro hflags program reply memory rfl hstatus u hmem htype
    obtain ⟨i, hu⟩ := List.getElem?_of_mem hmem
    rw [← h.flaggedExternal_iff hallows hstatus hu htype]
    exact hflags program reply memory rfl hstatus i u hu htype
  · rintro hmentions program reply memory rfl hstatus i u hu htype
    rw [h.flaggedExternal_iff hallows hstatus hu htype]
    exact hmentions program reply memory rfl hstatus u (List.mem_of_getElem? hu) htype

/-- `uniform samplerExternalOES t;` -/
def externalSource : String8 :=
  CString.ofChars ['u', 'n', 'i', 'f', 'o', 'r', 'm', ' ', 's', 'a', 'm', 'p', 'l', 'e', 'r', 'E',
    'x', 't', 'e', 'r', 'n', 'a', 'l', 'O', 'E', 'S', ' ', 't', ';']

/-- `uniform sampler2D t;` -/
def plainSource : String8 :=
  CString.ofChars ['u', 'n', 'i', 'f', 'o', 'r', 'm', ' ', 's', 'a', 'm', 'p', 'l', 'e', 'r', '2',
    'D', ' ', 't', ';']

/-- Shader 1 gets the sources, is attached to program 2, and the program is linked with one
uniform `t`. -/
def linkWithSources (sources : List String8) : List SourceCall :=
  [.object (.glCreateShader 1#32), .object (.glCreateProgram 2#32)] ++
    (sources.map fun source => .glShaderSource 1#32 [(some source, none)]) ++
    [.object (.glAttachShader 2#32 1#32 true),
      .glLinkProgram 2#32 ⟨true, [⟨[0x74], 1#32, GL_SAMPLER_2D, 0#32⟩]⟩
        fun _ => ⟨0, 0, 0, 0, 0, 0, 0⟩]

def emptySystem : SourceSystem :=
  SourceSystem.init fun _ => ⟨0#32, 4#32, GL_FLOAT, 0#32, 0#32, 0#32, 16#32, false, false⟩

/-- GL permits all these calls. -/
theorem run_linkWithSources_one :
    Run SourceStep emptySystem
      (traceOf SourceSystem.call emptySystem (linkWithSources [externalSource])) :=
  .next ⟨Or.inr (by decide), rfl⟩ <| .next ⟨Or.inr (by decide), rfl⟩ <| .next ⟨trivial, rfl⟩ <|
    .next ⟨fun _ => by decide, rfl⟩ <| .next ⟨⟨by decide, fun _ => by decide⟩, rfl⟩ <| .done _

theorem run_linkWithSources_two :
    Run SourceStep emptySystem
      (traceOf SourceSystem.call emptySystem (linkWithSources [externalSource, plainSource])) :=
  .next ⟨Or.inr (by decide), rfl⟩ <| .next ⟨Or.inr (by decide), rfl⟩ <| .next ⟨trivial, rfl⟩ <|
    .next ⟨trivial, rfl⟩ <| .next ⟨fun _ => by decide, rfl⟩ <|
      .next ⟨⟨by decide, fun _ => by decide⟩, rfl⟩ <| .done _

end GLESv2Enc
end DeviceAndroVM
