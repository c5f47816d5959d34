import DeviceAndroVM.GLESv2Enc.TextureSync
import DeviceAndroVM.GLESv2Enc.UniformLocations

/-!
# The recorded units of sampler uniforms

`glUniform1i` on a sampler sets the texture unit that the sampler reads.  The host has
the value by the host location of the uniform, the client records it in the uniform table
by the location of the application (`setSamplerUniform`), and reads it back with
`getNextSamplerUniform`.

* `UniformCall` — the calls, as the labels of a run.
* `SamplerTracked` — the record after `glUniform1i` is that of the host's uniform.
* `NothingRecorded` — the invariant: `setSamplerUniform` never finds a uniform.
* `sampler_tracked_iff` — the units that are tracked.
-/

namespace DeviceAndroVM
namespace GLESv2Enc

open OpenGL Library OpenglCodecCommon GL2Encoder

namespace GL2Encoder

/-- The calls on the uniforms of a program; `hostLoc` is the host's answer. -/
inductive UniformCall
  | glGetUniformLocation (program : GLuint) (name : Option String8) (hostLoc : GLint)
  | glUniform1i (location x : GLint)

/-- The encoder after one call. -/
def runUniformCall (ctx : Encoder) : UniformCall → Encoder
  | .glGetUniformLocation program name hostLoc =>
      (s_glGetUniformLocation ctx program name hostLoc).2
  | .glUniform1i location x => s_glUniform1i ctx location x

end GL2Encoder

/-- The unit recorded for uniform `i`. -/
def recordedUnit (shared : GLSharedGroup) (program : GLuint) (i : Nat) : Option GLint :=
  (uniformEntry shared program i).map IndexInfo.samplerValue

/-- The call sets the sampler uniform `i`.  `owner` is the host's: which uniform has a
host location. -/
def UniformCall.SetsSampler (owner : GLint → Option Nat) (program : GLuint) (ctx : Encoder)
    (call : UniformCall) (i : Nat) (info : IndexInfo) (x : GLint) : Prop :=
  ∃ location, call = .glUniform1i location x ∧
    owner (ctx.shared.locationWARAppToHost program location) = some i ∧
    uniformEntry ctx.shared program i = some info ∧ info.type = GL_SAMPLER_2D

/-- When the call sets a sampler, its unit is recorded for that uniform and no other one,
and `getNextSamplerUniform` reports the unit and the target of the sampler. -/
def SamplerTracked (owner : GLint → Option Nat) (program : GLuint) (ctx : Encoder)
    (call : UniformCall) (ctx' : Encoder) : Prop :=
  ∀ i info x, UniformCall.SetsSampler owner program ctx call i info x →
    recordedUnit ctx'.shared program i = some x ∧
      ctx'.shared.getNextSamplerUniform program (i - 1) =
        some (i, x, if info.flags &&& INDEX_FLAG_SAMPLER_EXTERNAL ≠ 0#32
          then GL_TEXTURE_EXTERNAL_OES else GL_TEXTURE_2D) ∧
      ∀ j ≠ i, recordedUnit ctx'.shared program j = recordedUnit ctx.shared program j

/-- When the call sets a sampler, it is to the unit 0, which linking records. -/
def SetsUnitZero (owner : GLint → Option Nat) (program : GLuint) (ctx : Encoder)
    (call : UniformCall) : Prop :=
  ∀ i info x, UniformCall.SetsSampler owner program ctx call i info x → x = 0#32

/-! ## The invariant -/

/-- The program is current, and its table is as linking left it but for the strides. -/
structure NothingRecorded (program : GLuint) (ctx : Encoder) : Prop where
  current : ctx.state.currentProgram = program
  table : ∃ data, ctx.shared.programs.lookup program = some data ∧
    ∀ info ∈ data.indexes, info.type ∈ uniformTypes ∧ info.samplerValue = 0#32

variable {owner : GLint → Option Nat} {program : GLuint} {ctx : Encoder} {call : UniformCall}
  {i : Nat} {info : IndexInfo} {x : GLint}

theorem NothingRecorded.recordedUnit (h : NothingRecorded program ctx)
    (hinfo : uniformEntry ctx.shared program i = some info) :
    GLESv2Enc.recordedUnit ctx.shared program i = some 0#32 := by
  obtain ⟨data, hlookup, htable⟩ := h.table
  rw [GLESv2Enc.recordedUnit, hinfo]
  rw [uniformEntry, hlookup] at hinfo
  exact congrArg some (htable info (List.mem_of_getElem? hinfo)).2

/-- The sampler that `getNextSamplerUniform` finds first from itself on. -/
theorem getNextSamplerUniform_self {shared : GLSharedGroup}
    (hinfo : uniformEntry shared program i = some info) (htype : info.type = GL_SAMPLER_2D) :
    shared.getNextSamplerUniform program (i - 1) =
      some (i, info.samplerValue, info.samplerTarget) := by
  obtain ⟨data, hlookup, hentry⟩ := Option.bind_eq_some_iff.mp hinfo
  have hdrop : (data.indexes.zipIdx.drop i).find? (fun entry => entry.1.type == GL_SAMPLER_2D) =
      some (info, i) := by
    have hzip : data.indexes.zipIdx[i]? = some (info, i) := by simp [hentry]
    obtain ⟨hlt, hget⟩ := List.getElem?_eq_some_iff.mp hzip
    rw [List.drop_eq_getElem_cons hlt, hget]
    exact List.find?_cons_of_pos (by simp [htype])
  have hstart : ((i : Int) - 1 + 1).toNat = i := by omega
  unfold GLSharedGroup.getNextSamplerUniform ProgramData.getNextSamplerUniform
  rw [hlookup]
  dsimp only
  rw [if_neg (by omega), hstart, hdrop]

/-! ## Calls -/

theorem updateHostTexture2DBinding_frame (ctx : Encoder) (texUnit newTarget : GLenum) :
    (updateHostTexture2DBinding ctx texUnit newTarget).2.shared = ctx.shared ∧
      (updateHostTexture2DBinding ctx texUnit newTarget).2.state.currentProgram =
        ctx.state.currentProgram := by
  unfold updateHostTexture2DBinding
  split
  · exact ⟨rfl, rfl⟩
  · dsimp only
    split
    · exact ⟨rfl, rfl⟩
    · exact ⟨rfl, rfl⟩

theorem useProgramLoop_frame (program : GLuint) (fuel : Nat) (ctx : Encoder)
    (hostActiveTexture : GLenum) (samplerIdx : Int) :
    (useProgramLoop program fuel ctx hostActiveTexture samplerIdx).1.shared = ctx.shared ∧
      (useProgramLoop program fuel ctx hostActiveTexture samplerIdx).1.state.currentProgram =
        ctx.state.currentProgram := by
  induction fuel generalizing ctx hostActiveTexture samplerIdx with
  | zero => exact ⟨rfl, rfl⟩
  | succ fuel ih =>
      unfold useProgramLoop
      split
      · exact ⟨rfl, rfl⟩
      · split
        · exact ih ..
        · rename_i samplerVal samplerTarget _ _
          have hupdate := updateHostTexture2DBinding_frame ctx (GL_TEXTURE0 + samplerVal)
            samplerTarget
          exact ⟨(ih ..).1.trans hupdate.1, (ih ..).2.trans hupdate.2⟩

/-- `glUseProgram` makes the program current and changes no record. -/
theorem s_glUseProgram_frame (ctx : Encoder) (program : GLuint) :
    (s_glUseProgram ctx program).shared = ctx.shared ∧
      (s_glUseProgram ctx program).state.currentProgram = program := by
  unfold s_glUseProgram
  dsimp only
  split
  · exact useProgramLoop_frame ..
  · exact useProgramLoop_frame ..

/-- A linked program that is made current. -/
theorem nothingRecorded_linked (hprogram : ctx.shared.isProgram program = true)
    {reply : LinkReply} (hstatus : reply.linkStatus = true) (hlegal : reply.Legal)
    (memory : Nat → IndexInfo) :
    NothingRecorded program (s_glUseProgram (s_glLinkProgram ctx program reply memory)
      program) := by
  obtain ⟨old, hlookup⟩ := Option.isSome_iff_exists.mp hprogram
  have hlength : reply.uniforms.length < 2 ^ 32 := Nat.lt_trans hlegal.1 (by decide)
  have hlinked := lookup_s_glLinkProgram hstatus hlength hlookup memory
  obtain ⟨hshared, hcurrent⟩ :=
    s_glUseProgram_frame (s_glLinkProgram ctx program reply memory) program
  refine ⟨hcurrent, ?_⟩
  rw [hshared, hlinked]
  refine ⟨_, rfl, ?_⟩
  intro info hmem
  obtain ⟨i, hi⟩ := List.getElem?_of_mem hmem
  have hi : (linkedTable (ctx.shared.declaresSamplerExternal old) reply.uniforms)[i]? =
    some info := hi
  rw [getElem?_linkedTable, Option.map_eq_some_iff] at hi
  obtain ⟨u, hu, rfl⟩ := hi
  exact ⟨hlegal.2 u (List.mem_of_getElem? hu), rfl⟩

/-- `glUniform1i` leaves the table of the current program as it is. -/
theorem NothingRecorded.s_glUniform1i (h : NothingRecorded program ctx) (location x : GLint) :
    NothingRecorded program (GL2Encoder.s_glUniform1i ctx location x) ∧
      ∀ j, uniformEntry (GL2Encoder.s_glUniform1i ctx location x).shared program j =
        uniformEntry ctx.shared program j := by
  obtain ⟨data, hlookup, htable⟩ := h.table
  have hset : ctx.shared.setSamplerUniform program location x =
      (none, { ctx.shared with programs := ctx.shared.programs.insert program data }) := by
    unfold GLSharedGroup.setSamplerUniform
    rw [hlookup]
    dsimp only
    rw [setSamplerUniform_eq_none fun info hmem => (htable info hmem).1]
  have hcall : GL2Encoder.s_glUniform1i ctx location x =
      { ctx.emit (.glUniform1i (ctx.shared.locationWARAppToHost program location) x) with
        shared := { ctx.shared with programs := ctx.shared.programs.insert program data } } := by
    unfold GL2Encoder.s_glUniform1i
    dsimp only
    rw [h.current, hset]
  rw [hcall]
  refine ⟨⟨h.current, data, AList.lookup_insert _, htable⟩, ?_⟩
  intro j
  unfold uniformEntry
  dsimp only
  rw [AList.lookup_insert, hlookup]

/-- A query changes the strides only. -/
theorem locationWARHostToApp_entries (data : ProgramData) (hostLoc arrIndex : GLint) :
    ∀ info ∈ (data.locationWARHostToApp hostLoc arrIndex).2.indexes,
      ∃ before ∈ data.indexes, info.type = before.type ∧ info.samplerValue = before.samplerValue := by
  unfold ProgramData.locationWARHostToApp
  dsimp only
  split
  · exact fun info hmem => ⟨info, hmem, rfl, rfl⟩
  · split
    · exact fun info hmem => ⟨info, hmem, rfl, rfl⟩
    · rename_i entry hentry
      intro info hmem
      rcases List.mem_or_eq_of_mem_set hmem with hold | rfl
      · exact ⟨info, hold, rfl, rfl⟩
      · exact ⟨entry, List.mem_of_getElem? hentry, rfl, rfl⟩

theorem NothingRecorded.s_glGetUniformLocation (h : NothingRecorded program ctx)
    (other : GLuint) (name : Option String8) (hostLoc : GLint) :
    NothingRecorded program (GL2Encoder.s_glGetUniformLocation ctx other name hostLoc).2 := by
  rcases s_glGetUniformLocation_cases ctx other name hostLoc with heq | ⟨arrIndex, heq⟩
  · rw [heq]
    exact h
  obtain ⟨data, hlookup, htable⟩ := h.table
  rw [heq]
  refine ⟨h.current, ?_⟩
  by_cases hother : other = program
  · subst hother
    refine ⟨(data.locationWARHostToApp hostLoc arrIndex).2, ?_, ?_⟩
    · unfold GLSharedGroup.locationWARHostToApp
      rw [hlookup]
      exact AList.lookup_insert _
    · intro info hmem
      obtain ⟨before, hbefore, htype, hvalue⟩ := locationWARHostToApp_entries data _ _ info hmem
      rw [htype, hvalue]
      exact htable before hbefore
  · exact ⟨data, (locationWARHostToApp_frame ctx.shared hother _ _).trans hlookup, htable⟩

theorem NothingRecorded.runUniformCall (h : NothingRecorded program ctx) (call : UniformCall) :
    NothingRecorded program (GL2Encoder.runUniformCall ctx call) := by
  cases call with
  | glGetUniformLocation other name hostLoc => exact h.s_glGetUniformLocation other name hostLoc
  | glUniform1i location x => exact (h.s_glUniform1i location x).1

/-! ## Runs -/

/-- One call is tracked exactly when it sets a sampler to the unit 0, or no sampler. -/
theorem NothingRecorded.samplerTracked_iff (h : NothingRecorded program ctx)
    (call : UniformCall) :
    SamplerTracked owner program ctx call (GL2Encoder.runUniformCall ctx call) ↔
      SetsUnitZero owner program ctx call := by
  constructor
  · intro htracked i info x hsets
    obtain ⟨location, rfl, howner, hinfo, htype⟩ := id hsets
    have hafter := (h.s_glUniform1i location x).2 i
    have hrecorded := (htracked i info x hsets).1
    -- the record is still the one that linking left
    rw [GLESv2Enc.recordedUnit, GL2Encoder.runUniformCall, hafter] at hrecorded
    exact Option.some.inj (hrecorded.symm.trans (h.recordedUnit hinfo))
  · intro hzero i info x hsets
    obtain rfl := hzero i info x hsets
    obtain ⟨location, rfl, howner, hinfo, htype⟩ := hsets
    have hentries := (h.s_glUniform1i location 0#32).2
    have hunits : ∀ j, GLESv2Enc.recordedUnit
        (GL2Encoder.runUniformCall ctx (.glUniform1i location 0#32)).shared program j =
          GLESv2Enc.recordedUnit ctx.shared program j :=
      fun j => congrArg (Option.map IndexInfo.samplerValue) (hentries j)
    have hself := getNextSamplerUniform_self ((hentries i).trans hinfo) htype
    have hvalue := h.recordedUnit hinfo
    refine ⟨(hunits i).trans hvalue, ?_, fun j _ => hunits j⟩
    rw [GLESv2Enc.recordedUnit, hinfo] at hvalue
    rw [GL2Encoder.runUniformCall, hself]
    exact congrArg (fun unit => some (i, unit, info.samplerTarget)) (Option.some.inj hvalue)

/-- For every linked program that is made current and every sequence of queries and
`glUniform1i` calls: the units of the samplers are tracked exactly when every call that
sets a sampler sets it to the unit 0. -/
theorem sampler_tracked_iff (owner : GLint → Option Nat) (ctx : Encoder) (program : GLuint)
    (hprogram : ctx.shared.isProgram program = true) (reply : LinkReply)
    (hstatus : reply.linkStatus = true) (hlegal : reply.Legal) (memory : Nat → IndexInfo)
    (trace : List (UniformCall × Encoder))
    (hrun : Run (fun ctx call ctx' => ctx' = runUniformCall ctx call)
      (s_glUseProgram (s_glLinkProgram ctx program reply memory) program) trace) :
    EachStep (SamplerTracked owner program)
        (s_glUseProgram (s_glLinkProgram ctx program reply memory) program) trace ↔
      EachStep (fun ctx call _ => SetsUnitZero owner program ctx call)
        (s_glUseProgram (s_glLinkProgram ctx program reply memory) program) trace := by
  have hinit := nothingRecorded_linked hprogram hstatus hlegal memory
  generalize s_glUseProgram (s_glLinkProgram ctx program reply memory) program = linked
    at hrun hinit ⊢
  induction hrun with
  | done ctx => exact Iff.rfl
  | next hstep _ ih =>
      subst hstep
      rw [eachStep_cons, eachStep_cons]
      exact and_congr (hinit.samplerTracked_iff _) (ih (hinit.runUniformCall _))

/-- A new context whose group has the program 1, and one sampler uniform `t` at location 0. -/
def oneProgram : Encoder :=
  Encoder.init (fun _ => ⟨0#32, 4#32, GL_FLOAT, 0#32, 0#32, 0#32, 16#32, false, false⟩)
    (GLSharedGroup.init.addProgramData 1#32)

def oneSampler : LinkReply := ⟨true, [⟨[0x74], 1#32, GL_SAMPLER_2D, 0#32⟩]⟩

/-- The host location 0 is the uniform 0. -/
def ownerOfZero (location : GLint) : Option Nat := if location = 0#32 then some 0 else none

theorem legal_oneSampler : oneSampler.Legal := ⟨by decide, by decide⟩

/-- The sampler is set to the unit 0. -/
theorem sampler_tracked_iff_unit_zero :
    let memory : Nat → IndexInfo := fun _ => ⟨0, 0, 0, 0, 0, 0, 0⟩
    let linked := s_glUseProgram (s_glLinkProgram oneProgram 1#32 oneSampler memory) 1#32
    EachStep (SamplerTracked ownerOfZero 1#32) linked
      (traceOf runUniformCall linked
        [.glGetUniformLocation 1#32 (some [0x74]) 0#32, .glUniform1i 0#32 0#32]) := by
  intro memory linked
  refine (sampler_tracked_iff ownerOfZero oneProgram 1#32 rfl oneSampler rfl legal_oneSampler memory
    _ (run_traceOf _ _ _)).mpr ⟨?_, ?_, trivial⟩
  · rintro i info x ⟨location, hcall, -⟩
    cases hcall
  · rintro i info x ⟨location, hcall, -⟩
    cases hcall
    rfl

/-- The sampler is set to the unit 1, and 0 stays recorded. -/
theorem sampler_unit_not_recorded :
    ¬ ∀ (owner : GLint → Option Nat) (ctx : Encoder) (program : GLuint),
      ctx.shared.isProgram program = true → ∀ reply : LinkReply, reply.linkStatus = true →
      reply.Legal → ∀ (memory : Nat → IndexInfo) (trace : List (UniformCall × Encoder)),
      Run (fun ctx call ctx' => ctx' = runUniformCall ctx call)
        (s_glUseProgram (s_glLinkProgram ctx program reply memory) program) trace →
      EachStep (SamplerTracked owner program)
        (s_glUseProgram (s_glLinkProgram ctx program reply memory) program) trace := by
  intro h
  have hrun := run_traceOf runUniformCall (s_glUseProgram (s_glLinkProgram oneProgram 1#32
    oneSampler fun _ => ⟨0, 0, 0, 0, 0, 0, 0⟩) 1#32)
    [.glGetUniformLocation 1#32 (some [0x74]) 0#32, .glUniform1i 0#32 1#32]
  obtain ⟨-, htracked, -⟩ := h ownerOfZero oneProgram 1#32 rfl oneSampler rfl legal_oneSampler _ _
    hrun
  have hentry : uniformEntry (runUniformCall (s_glUseProgram (s_glLinkProgram oneProgram 1#32
      oneSampler fun _ => ⟨0, 0, 0, 0, 0, 0, 0⟩) 1#32)
      (.glGetUniformLocation 1#32 (some [0x74]) 0#32)).shared 1#32 0 =
        some ⟨0#32, 1#32, GL_SAMPLER_2D, 0#32, 1#32, 0#32, 0#32⟩ := by
    decide
  have hrecorded := (htracked 0 _ 1#32 ⟨0#32, rfl, by decide, hentry, rfl⟩).1
  revert hrecorded
  decide

end GLESv2Enc
end DeviceAndroVM
