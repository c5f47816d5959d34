import DeviceAndroVM.GLESv2Enc.Textures
import DeviceAndroVM.OpenglCodecCommon.TextureSync

/-!
# Textures of a GLES2 context

The client and the host agree on the active unit and on all texture bindings after
every call of `GL2TextureCall`.

* `UniformTypes` — every uniform of every program has a type that GL reports.  With
  such tables `setSamplerUniform` recognises no uniform, so `glUniform1i` never
  changes the target of a unit.
* `synced_useProgramLoop` — the loop of `s_glUseProgram`, where the units of client
  and host differ meanwhile.
* `textures_agree` — the agreement over every run.
-/

namespace DeviceAndroVM
namespace GLESv2Enc

open OpenGL Library OpenglCodecCommon

/-! ## Uniform types -/

/-- Every recorded uniform has a type that `glGetActiveUniform` returns. -/
def UniformTypes (shared : GLSharedGroup) : Prop :=
  ∀ program data, shared.programs.lookup program = some data →
    ∀ info ∈ data.indexes, info.type ∈ uniformTypes

theorem uniformTypes_init : UniformTypes GLSharedGroup.init := by
  intro program data hlookup
  cases hlookup

variable {shared : GLSharedGroup}

theorem UniformTypes.insert (h : UniformTypes shared) (program : GLuint) {data : ProgramData}
    (hdata : ∀ info ∈ data.indexes, info.type ∈ uniformTypes) :
    UniformTypes { shared with programs := shared.programs.insert program data } := by
  intro other found hlookup
  rcases lookup_insert_eq_some.mp hlookup with ⟨-, rfl⟩ | ⟨-, hold⟩
  · exact hdata
  · exact h other found hold

/-- No uniform type is the texture target that `setSamplerUniform` looks for. -/
theorem ne_texture_2D_of_mem {type : GLenum} (h : type ∈ uniformTypes) :
    type ≠ GL_TEXTURE_2D := by
  rintro rfl
  revert h
  decide

theorem setSamplerUniform_eq_none {data : ProgramData}
    (h : ∀ info ∈ data.indexes, info.type ∈ uniformTypes) (appLoc val : GLint) :
    data.setSamplerUniform appLoc val = (none, data) := by
  have hnone : data.indexes.findIdx?
      (fun info => info.covers appLoc && info.type == GL_TEXTURE_2D) = none := by
    rw [List.findIdx?_eq_none_iff]
    intro info hmem
    simp [ne_texture_2D_of_mem (h info hmem)]
  unfold ProgramData.setSamplerUniform
  rw [hnone]

/-- `glUniform1i` finds no sampler uniform, whatever the location. -/
theorem UniformTypes.setSamplerUniform (h : UniformTypes shared) (program : GLuint)
    (appLoc val : GLint) :
    (shared.setSamplerUniform program appLoc val).1 = none ∧
      UniformTypes (shared.setSamplerUniform program appLoc val).2 := by
  unfold GLSharedGroup.setSamplerUniform
  cases hlookup : shared.programs.lookup program with
  | none => exact ⟨rfl, h⟩
  | some data =>
      have hdata := h program data hlookup
      dsimp only
      rw [setSamplerUniform_eq_none hdata]
      exact ⟨rfl, h.insert program hdata⟩

/-! ### Linking -/

/-- The host reports as many uniforms as a `GLint` counts, of its own types. -/
def GL2Encoder.LinkReply.Legal (reply : GL2Encoder.LinkReply) : Prop :=
  reply.uniforms.length < 2 ^ 31 ∧ ∀ u ∈ reply.uniforms, u.type ∈ uniformTypes

/-- While the table of `program` is being filled: its first `k` entries and all other
tables have types of GL. -/
structure FilledTo (shared : GLSharedGroup) (program : GLuint) (size k : Nat) : Prop where
  bound : ∀ data, shared.programs.lookup program = some data → data.indexes.length ≤ size
  types : ∀ other data, shared.programs.lookup other = some data →
    ∀ (j : Nat) info, data.indexes[j]? = some info → other ≠ program ∨ j < k →
      info.type ∈ uniformTypes

theorem filledTo_modifyProgram {program : GLuint} {size k k' : Nat}
    {f : ProgramData → ProgramData} (h : FilledTo shared program size k)
    (hlength : ∀ data, data.indexes.length ≤ size → (f data).indexes.length ≤ size)
    (htypes : ∀ data, shared.programs.lookup program = some data →
      ∀ (j : Nat) info, (f data).indexes[j]? = some info → j < k' → info.type ∈ uniformTypes) :
    FilledTo (shared.modifyProgram program f) program size k' := by
  unfold GLSharedGroup.modifyProgram
  cases hlookup : shared.programs.lookup program with
  | none =>
      refine ⟨h.bound, ?_⟩
      intro other data hother j info hinfo hcase
      have hne : other ≠ program := by
        rintro rfl
        rw [hlookup] at hother
        cases hother
      exact h.types other data hother j info hinfo (Or.inl hne)
  | some old =>
      constructor
      · intro data hdata
        rcases lookup_insert_eq_some.mp hdata with ⟨-, rfl⟩ | ⟨hne, -⟩
        · exact hlength old (h.bound old hlookup)
        · exact absurd rfl hne
      · intro other data hother j info hinfo hcase
        rcases lookup_insert_eq_some.mp hother with ⟨hname, rfl⟩ | ⟨hname, hold⟩
        · exact htypes old hlookup j info hinfo (hcase.resolve_left (fun hne => hne hname))
        · exact h.types other data hold j info hinfo (Or.inl hname)

theorem getElem?_setIndexFlags_type {data : ProgramData} {index flags : GLuint} {j : Nat}
    {info : IndexInfo} (h : (data.setIndexFlags index flags).indexes[j]? = some info) :
    ∃ old, data.indexes[j]? = some old ∧ old.type = info.type := by
  simp only [ProgramData.setIndexFlags, List.getElem?_modify] at h
  obtain ⟨old, hold, rfl⟩ := Option.map_eq_some_iff.mp h
  refine ⟨old, hold, ?_⟩
  split <;> rfl

/-- Filling entry `k`. -/
theorem FilledTo.setProgramIndexInfo {program : GLuint} {size k : Nat}
    (h : FilledTo shared program size k) (hk : k < 2 ^ 32) (base size' : GLint) {type : GLenum}
    (htype : type ∈ uniformTypes) (name : String8) :
    FilledTo (shared.setProgramIndexInfo program (BitVec.ofNat 32 k) base size' type name) program
      size (k + 1) := by
  have hindex : (BitVec.ofNat 32 k).toNat = k := by
    rw [BitVec.toNat_ofNat]
    exact Nat.mod_eq_of_lt hk
  unfold GLSharedGroup.setProgramIndexInfo
  refine filledTo_modifyProgram h ?_ ?_
  · intro data hdata
    dsimp only
    split <;> simpa [ProgramData.setIndexFlags, ProgramData.setIndexInfo] using hdata
  · intro data hlookup j info hinfo hj
    have hfilled : ∀ info', (data.setIndexInfo (BitVec.ofNat 32 k) base size' type).indexes[j]? =
        some info' → info'.type ∈ uniformTypes := by
      intro info' hinfo'
      simp only [ProgramData.setIndexInfo, hindex, List.getElem?_set] at hinfo'
      split at hinfo'
      · split at hinfo'
        · obtain rfl := Option.some.inj hinfo'
          exact htype
        · cases hinfo'
      · rename_i hne
        exact h.types program data hlookup j info' hinfo' (Or.inr (by omega))
    dsimp only at hinfo
    split at hinfo
    · obtain ⟨old, hold, hsame⟩ := getElem?_setIndexFlags_type hinfo
      rw [← hsame]
      exact hfilled old hold
    · exact hfilled info hinfo

theorem FilledTo.setUniforms {program : GLuint} {uniforms : List GL2Encoder.ActiveUniform}
    {size k : Nat} (h : FilledTo shared program size k) (hsize : k + uniforms.length < 2 ^ 32)
    (htypes : ∀ u ∈ uniforms, u.type ∈ uniformTypes) :
    FilledTo (GL2Encoder.setUniforms shared program k uniforms) program size
      (k + uniforms.length) := by
  induction uniforms generalizing shared k with
  | nil => exact h
  | cons u rest ih =>
      rw [List.length_cons] at hsize ⊢
      have hhead := h.setProgramIndexInfo (by omega) u.location u.size
        (htypes u List.mem_cons_self) u.name
      have htail := ih hhead (by omega) fun v hv => htypes v (List.mem_cons_of_mem u hv)
      have hcount : k + 1 + rest.length = k + (rest.length + 1) := by omega
      rw [hcount] at htail
      exact htail

/-- Linking fills every entry of the new table with what the host reports. -/
theorem UniformTypes.s_glLinkProgram {ctx : Encoder} (h : UniformTypes ctx.shared)
    (program : GLuint) {reply : GL2Encoder.LinkReply} (hlegal : reply.Legal)
    (memory : Nat → IndexInfo) :
    UniformTypes (GL2Encoder.s_glLinkProgram ctx program reply memory).shared := by
  unfold GL2Encoder.s_glLinkProgram
  split
  · exact h
  · have hlength : (BitVec.ofNat 32 reply.uniforms.length).toNat = reply.uniforms.length := by
      rw [BitVec.toNat_ofNat]
      exact Nat.mod_eq_of_lt (by have := hlegal.1; omega)
    have hempty : FilledTo (ctx.shared.initProgramData program
        (BitVec.ofNat 32 reply.uniforms.length) memory) program reply.uniforms.length 0 := by
      have hbase : ∀ other data, ctx.shared.programs.lookup other = some data →
          ∀ (j : Nat) info, data.indexes[j]? = some info → info.type ∈ uniformTypes := by
        intro other data hlookup j info hinfo
        exact h other data hlookup info (List.mem_of_getElem? hinfo)
      constructor
      · intro data hdata
        unfold GLSharedGroup.initProgramData GLSharedGroup.modifyProgram at hdata
        split at hdata
        · rename_i hnone
          rw [hnone] at hdata
          cases hdata
        · simp only [AList.lookup_insert, Option.some.injEq] at hdata
          subst hdata
          simp [ProgramData.initProgramData, hlength]
      · intro other data hdata j info hinfo hcase
        unfold GLSharedGroup.initProgramData GLSharedGroup.modifyProgram at hdata
        split at hdata
        · exact hbase other data hdata j info hinfo
        · rcases hcase with hne | hlt
          · rw [AList.lookup_insert_ne hne] at hdata
            exact hbase other data hdata j info hinfo
          · omega
    have hsize : 0 + reply.uniforms.length < 2 ^ 32 := by
      have hlinked := hlegal.1
      omega
    have hfilled := hempty.setUniforms hsize hlegal.2
    have hwar := filledTo_modifyProgram (f := ProgramData.setupLocationShiftWAR) hfilled
      (fun data hdata => hdata)
      (fun data hlookup j info hinfo hj => hfilled.types program data hlookup j info hinfo
        (Or.inr hj))
    intro other data hlookup info hmem
    obtain ⟨j, hj⟩ := List.getElem?_of_mem hmem
    refine hwar.types other data hlookup j info hj ?_
    by_cases hother : other = program
    · subst hother
      have hbound := hwar.bound data hlookup
      have hlt := (List.getElem?_eq_some_iff.mp hj).1
      exact Or.inr (by omega)
    · exact Or.inl hother

/-! ## The texture units of a program -/

variable {caps : HostCaps} {ctx : Encoder}

/-- The enumerant of a unit. -/
def unitEnum (unit : Fin MAX_TEXTURE_UNITS) : GLenum := GL_TEXTURE0 + BitVec.ofNat 32 unit.val

theorem unitEnum_sub (unit : Fin MAX_TEXTURE_UNITS) :
    (unitEnum unit - GL_TEXTURE0).toNat = unit.val := by
  have hlt : unit.val < 32 := unit.isLt
  have hsub : unitEnum unit - GL_TEXTURE0 = BitVec.ofNat 32 unit.val := by
    unfold unitEnum
    rw [BitVec.add_comm]
    exact BitVec.add_sub_cancel _ _
  rw [hsub, BitVec.toNat_ofNat]
  exact Nat.mod_eq_of_lt (by omega)

theorem unitEnum_injective {unit unit' : Fin MAX_TEXTURE_UNITS}
    (h : unitEnum unit = unitEnum unit') : unit = unit' := by
  apply Fin.ext
  rw [← unitEnum_sub unit, h, unitEnum_sub]

theorem setActiveTextureUnit_unitEnum (tex : TextureState) (unit : Fin MAX_TEXTURE_UNITS) :
    (tex.setActiveTextureUnit (unitEnum unit)).2 = { tex with activeUnit := unit } := by
  rcases setActiveTextureUnit_cases tex (unitEnum unit) with ⟨-, hle⟩ | ⟨unit', hunit', heq⟩
  · rw [unitEnum_sub] at hle
    exact absurd unit.isLt (Nat.not_lt.mpr hle)
  · rw [unitEnum_sub] at hunit'
    rw [heq, Fin.ext hunit']

/-- Client and host agree but for the active unit, which on the host is `unit`. -/
def SyncedAt (caps : HostCaps) (ctx : Encoder) (unit : Fin MAX_TEXTURE_UNITS) : Prop :=
  Synced { ctx.tex with activeUnit := unit } (ctx.host caps)

/-- Moving the client's active unit does not touch the bindings. -/
theorem SyncedAt.setActive {unit : Fin MAX_TEXTURE_UNITS} (h : SyncedAt caps ctx unit)
    (unit' : Fin MAX_TEXTURE_UNITS) :
    SyncedAt caps (ctx.setTex { ctx.tex with activeUnit := unit' }) unit := h

/-- The host follows to the client's active unit. -/
theorem SyncedAt.follow {unit : Fin MAX_TEXTURE_UNITS} (h : SyncedAt caps ctx unit) :
    (ctx.emit (.glActiveTexture (unitEnum ctx.tex.activeUnit))).TexturesSynced caps := by
  unfold Encoder.TexturesSynced
  rw [Encoder.host_emit, exec_glActiveTexture (unitEnum_sub _).symm]
  exact h.activate ctx.tex.activeUnit

/-- The client state after a switch of the active unit to one of the two targets. -/
def switchTarget (tex : TextureState) (t : TextureTarget) : TextureState :=
  match t with
  | .TEXTURE_EXTERNAL =>
      (tex.disableTextureTarget TextureTarget.TEXTURE_2D.glTarget).enableTextureTarget
        TextureTarget.TEXTURE_EXTERNAL.glTarget
  | .TEXTURE_2D =>
      (tex.disableTextureTarget TextureTarget.TEXTURE_EXTERNAL.glTarget).enableTextureTarget
        TextureTarget.TEXTURE_2D.glTarget

section SwitchTarget

variable (tex : TextureState) (t : TextureTarget)

theorem switchTarget_activeUnit : (switchTarget tex t).activeUnit = tex.activeUnit := by
  cases t <;> simp [switchTarget]

theorem switchTarget_textures : (switchTarget tex t).textures = tex.textures := by
  cases t <;> simp [switchTarget]

theorem switchTarget_texture (unit : Fin MAX_TEXTURE_UNITS) :
    ((switchTarget tex t).unit unit).texture = (tex.unit unit).texture := by
  cases t <;> simp [switchTarget]

/-- The switch gives the target priority on the active unit and leaves the other
units as they are. -/
theorem switchTarget_prioritySlot (unit : Fin MAX_TEXTURE_UNITS) :
    ((switchTarget tex t).unit unit).prioritySlot =
      if unit = tex.activeUnit then t else (tex.unit unit).prioritySlot := by
  unfold TextureUnit.prioritySlot
  cases t with
  | TEXTURE_EXTERNAL =>
      simp only [switchTarget, TextureState.isEnabled_enableTextureTarget,
        TextureState.isEnabled_disableTextureTarget,
        TextureState.disableTextureTarget_activeUnit]
      by_cases hunit : unit = tex.activeUnit
      · simp [hunit]
      · simp [hunit]
  | TEXTURE_2D =>
      simp only [switchTarget, TextureState.isEnabled_enableTextureTarget,
        TextureState.isEnabled_disableTextureTarget,
        TextureState.disableTextureTarget_activeUnit]
      by_cases hunit : unit = tex.activeUnit
      · simp [hunit]
      · simp [hunit]

end SwitchTarget

/-- What `updateHostTexture2DBinding` does for a unit and one of the two targets. -/
theorem updateHostTexture2DBinding_eq (ctx : Encoder) (unit : Fin MAX_TEXTURE_UNITS)
    (t : TextureTarget) :
    GL2Encoder.updateHostTexture2DBinding ctx (unitEnum unit) t.glTarget =
      let tex : TextureState := { ctx.tex with activeUnit := unit }
      if t ≠ (ctx.tex.unit unit).prioritySlot then
        (true, ((ctx.setTex (switchTarget tex t)).emit (.glActiveTexture (unitEnum unit))).emit
          (.glBindTexture GL_TEXTURE_2D ((switchTarget tex t).getBoundTexture t.glTarget)))
      else (false, ctx.setTex tex) := by
  have hold : TextureState.getPriorityEnabledTarget { ctx.tex with activeUnit := unit }
      GL_TEXTURE_2D = (ctx.tex.unit unit).prioritySlot.glTarget :=
    TextureUnit.getPriorityEnabledTarget_eq _
  unfold GL2Encoder.updateHostTexture2DBinding
  rw [if_neg t.not_untracked, setActiveTextureUnit_unitEnum]
  dsimp only
  rw [hold]
  by_cases hslot : t = (ctx.tex.unit unit).prioritySlot
  · have hsame : ¬(t.glTarget ≠ (ctx.tex.unit unit).prioritySlot.glTarget) :=
      fun hne => hne (congrArg _ hslot)
    rw [if_neg hsame, if_neg (not_not.mpr hslot)]
  · have hne : t.glTarget ≠ (ctx.tex.unit unit).prioritySlot.glTarget :=
      fun heq => hslot (TextureState.glTarget_injective heq)
    rw [if_pos hne, if_pos hslot]
    cases t with
    | TEXTURE_2D => rfl
    | TEXTURE_EXTERNAL => rfl

/-- One update keeps the agreement, the host being at the updated unit if it was
sent anything. -/
theorem synced_updateHostTexture2DBinding {hostUnit : Fin MAX_TEXTURE_UNITS}
    (h : SyncedAt caps ctx hostUnit) (unit : Fin MAX_TEXTURE_UNITS) (t : TextureTarget) :
    let result := GL2Encoder.updateHostTexture2DBinding ctx (unitEnum unit) t.glTarget
    SyncedAt caps result.2 (if result.1 then unit else hostUnit) ∧
      result.2.shared = ctx.shared := by
  rw [updateHostTexture2DBinding_eq]
  dsimp only
  by_cases hslot : t = (ctx.tex.unit unit).prioritySlot
  · rw [if_neg (not_not.mpr hslot)]
    exact ⟨h.setActive unit, rfl⟩
  · rw [if_pos hslot]
    refine ⟨?_, rfl⟩
    let tex : TextureState := { ctx.tex with activeUnit := unit }
    have hat : Synced tex { ctx.host caps with activeUnit := unit.val } := h.activate unit
    have hswitched : Overridden (switchTarget tex t)
        { ctx.host caps with activeUnit := unit.val } :=
      hat.changeEnables (switchTarget_textures tex t) (switchTarget_texture tex t)
        (switchTarget_activeUnit tex t) fun other hother => by
          rw [switchTarget_prioritySlot, if_neg hother]
    have htexture : (switchTarget tex t).getBoundTexture t.glTarget =
        (switchTarget tex t).active.texture (switchTarget tex t).active.prioritySlot := by
      have hactive := switchTarget_prioritySlot tex t tex.activeUnit
      rw [if_pos rfl] at hactive
      show ((switchTarget tex t).unit (switchTarget tex t).activeUnit).getBoundTexture _ =
        ((switchTarget tex t).unit (switchTarget tex t).activeUnit).texture
          ((switchTarget tex t).unit (switchTarget tex t).activeUnit).prioritySlot
      rw [switchTarget_activeUnit, hactive, TextureUnit.getBoundTexture_glTarget]
    unfold SyncedAt
    rw [Encoder.host_emit, Encoder.host_emit, Encoder.host_setTex,
      exec_glActiveTexture (unitEnum_sub unit).symm]
    have hunit : (switchTarget tex t).activeUnit = unit := switchTarget_activeUnit tex t
    have hsame : ({ switchTarget tex t with activeUnit := unit } : TextureState) =
        switchTarget tex t := by
      rw [← hunit]
    show Synced { switchTarget tex t with activeUnit := unit } _
    rw [hsame]
    exact hswitched.restore htexture

/-- A sampler value inside the range is the enumerant of a unit. -/
theorem unitEnum_of_samplerVal {val : GLint}
    (h : ¬(val.toInt < 0 ∨ (MAX_TEXTURE_UNITS : Int) ≤ val.toInt)) :
    ∃ unit : Fin MAX_TEXTURE_UNITS, GL_TEXTURE0 + val = unitEnum unit := by
  have hrange : ¬(val.toInt < 0 ∨ (32 : Int) ≤ val.toInt) := h
  have hmsb := BitVec.toInt_eq_toNat_cond val
  have hlt := val.isLt
  have hunit : val.toNat < 32 := by
    split at hmsb
    · omega
    · omega
  refine ⟨⟨val.toNat, hunit⟩, ?_⟩
  simp [unitEnum]

theorem getNextSamplerUniform_target {program : GLuint} {index : Int} {next : Nat} {val : GLint}
    {target : GLenum} (h : shared.getNextSamplerUniform program index = some (next, val, target)) :
    ∃ t : TextureTarget, target = t.glTarget := by
  unfold GLSharedGroup.getNextSamplerUniform at h
  split at h
  · unfold ProgramData.getNextSamplerUniform at h
    split at h
    · cases h
    · split at h
      · rename_i info i _
        simp only [Option.some.injEq, Prod.mk.injEq] at h
        obtain ⟨_, _, rfl⟩ := h
        rcases info.samplerTarget_eq with hext | htwo
        · exact ⟨.TEXTURE_EXTERNAL, hext⟩
        · exact ⟨.TEXTURE_2D, htwo⟩
      · cases h
  · cases h

/-- The loop of `s_glUseProgram`: `hostActiveTexture` is the active unit of the host. -/
theorem synced_useProgramLoop (program : GLuint) (fuel : Nat) {hostUnit : Fin MAX_TEXTURE_UNITS}
    (h : SyncedAt caps ctx hostUnit) (samplerIdx : Int) :
    ∃ hostUnit' : Fin MAX_TEXTURE_UNITS,
      (GL2Encoder.useProgramLoop program fuel ctx (unitEnum hostUnit) samplerIdx).2 =
        unitEnum hostUnit' ∧
      SyncedAt caps
        (GL2Encoder.useProgramLoop program fuel ctx (unitEnum hostUnit) samplerIdx).1 hostUnit' ∧
      (GL2Encoder.useProgramLoop program fuel ctx (unitEnum hostUnit) samplerIdx).1.shared =
        ctx.shared := by
  induction fuel generalizing ctx hostUnit samplerIdx with
  | zero => exact ⟨hostUnit, rfl, h, rfl⟩
  | succ fuel ih =>
      unfold GL2Encoder.useProgramLoop
      split
      · exact ⟨hostUnit, rfl, h, rfl⟩
      · rename_i next samplerVal samplerTarget hnext
        split
        · exact ih h next
        · rename_i hrange
          obtain ⟨unit, hunit⟩ := unitEnum_of_samplerVal hrange
          obtain ⟨t, rfl⟩ := getNextSamplerUniform_target hnext
          obtain ⟨hupdate, hshared⟩ := synced_updateHostTexture2DBinding h unit t
          dsimp only
          rw [hunit]
          have hactive : (if (GL2Encoder.updateHostTexture2DBinding ctx (unitEnum unit)
              t.glTarget).1 = true then unitEnum unit else unitEnum hostUnit) =
              unitEnum (if (GL2Encoder.updateHostTexture2DBinding ctx (unitEnum unit)
                t.glTarget).1 = true then unit else hostUnit) :=
            (apply_ite unitEnum _ _ _).symm
          rw [hactive]
          obtain ⟨hostUnit', hresult, hsynced, hkept⟩ := ih hupdate next
          exact ⟨hostUnit', hresult, hsynced, hkept.trans hshared⟩

/-! ### The loop ends -/

theorem getNextSamplerUniform_lt {program : GLuint} {index : Int} {next : Nat} {val : GLint}
    {target : GLenum} (h : shared.getNextSamplerUniform program index = some (next, val, target)) :
    index < next ∧ next < GL2Encoder.numUniforms shared program := by
  unfold GLSharedGroup.getNextSamplerUniform at h
  unfold GL2Encoder.numUniforms
  cases hlookup : shared.programs.lookup program with
  | none =>
      rw [hlookup] at h
      cases h
  | some data =>
      rw [hlookup] at h
      dsimp only at h ⊢
      unfold ProgramData.getNextSamplerUniform at h
      split at h
      · cases h
      · rename_i hindex
        split at h
        · rename_i info i hfind
          obtain ⟨j, hj, hentry⟩ := List.mem_drop_iff_getElem.mp (List.mem_of_find?_eq_some hfind)
          rw [List.getElem_zipIdx] at hentry
          simp only [List.length_zipIdx] at hj
          simp only [Prod.mk.injEq] at hentry
          simp only [Option.some.injEq, Prod.mk.injEq] at h
          obtain ⟨hnext, -, -⟩ := h
          have hcount : data.numIndexes = data.indexes.length := rfl
          omega
        · cases h

theorem updateHostTexture2DBinding_shared (texUnit newTarget : GLenum) :
    (GL2Encoder.updateHostTexture2DBinding ctx texUnit newTarget).2.shared = ctx.shared := by
  simp only [GL2Encoder.updateHostTexture2DBinding]
  split_ifs <;> rfl

/-- With fuel for the uniforms after `samplerIdx` the loop reaches its end: more fuel
changes nothing. -/
theorem useProgramLoop_add (program : GLuint) (fuel extra : Nat) (hostActiveTexture : GLenum)
    (samplerIdx : Int)
    (hfuel : (GL2Encoder.numUniforms ctx.shared program : Int) ≤ samplerIdx + 1 + fuel) :
    GL2Encoder.useProgramLoop program (fuel + extra) ctx hostActiveTexture samplerIdx =
      GL2Encoder.useProgramLoop program fuel ctx hostActiveTexture samplerIdx := by
  induction fuel generalizing ctx hostActiveTexture samplerIdx with
  | zero =>
      cases extra with
      | zero => rfl
      | succ extra =>
          have hnone : ctx.shared.getNextSamplerUniform program samplerIdx = none := by
            cases hnext : ctx.shared.getNextSamplerUniform program samplerIdx with
            | none => rfl
            | some found =>
                obtain ⟨hafter, hbefore⟩ := getNextSamplerUniform_lt hnext
                omega
          simp only [GL2Encoder.useProgramLoop]
          rw [hnone]
  | succ fuel ih =>
      have hcount : fuel + 1 + extra = fuel + extra + 1 := by omega
      rw [hcount]
      unfold GL2Encoder.useProgramLoop
      cases hnext : ctx.shared.getNextSamplerUniform program samplerIdx with
      | none => rfl
      | some found =>
          obtain ⟨next, samplerVal, samplerTarget⟩ := found
          obtain ⟨hafter, -⟩ := getNextSamplerUniform_lt hnext
          dsimp only
          split
          · exact ih _ _ (by omega)
          · refine ih _ _ ?_
            rw [updateHostTexture2DBinding_shared]
            omega

/-- The loop of `s_glUseProgram` has fuel enough to end. -/
theorem useProgramLoop_numUniforms (ctx : Encoder) (program : GLuint) (extra : Nat)
    (hostActiveTexture : GLenum) :
    GL2Encoder.useProgramLoop program (GL2Encoder.numUniforms ctx.shared program + extra) ctx
        hostActiveTexture (-1) =
      GL2Encoder.useProgramLoop program (GL2Encoder.numUniforms ctx.shared program) ctx
        hostActiveTexture (-1) :=
  useProgramLoop_add program _ extra hostActiveTexture (-1) (by omega)

/-! ## The calls -/

/-- Client and host both go back to a unit, the host only if it left it. -/
theorem SyncedAt.back {hostUnit : Fin MAX_TEXTURE_UNITS} (h : SyncedAt caps ctx hostUnit)
    (unit : Fin MAX_TEXTURE_UNITS) {back : Encoder}
    (hback : back = ctx.setTex (ctx.tex.setActiveTextureUnit (unitEnum unit)).2) :
    (if unitEnum hostUnit ≠ unitEnum unit then back.emit (.glActiveTexture (unitEnum unit))
      else back).TexturesSynced caps := by
  rw [setActiveTextureUnit_unitEnum] at hback
  subst hback
  have hmoved := h.setActive unit
  by_cases hunit : hostUnit = unit
  · have hsame : ¬(unitEnum hostUnit ≠ unitEnum unit) := fun hne => hne (congrArg unitEnum hunit)
    rw [if_neg hsame]
    rw [hunit] at hmoved
    exact hmoved
  · have hne : unitEnum hostUnit ≠ unitEnum unit := fun heq => hunit (unitEnum_injective heq)
    rw [if_pos hne]
    exact hmoved.follow

theorem synced_s_glUseProgram (h : ctx.TexturesSynced caps) (program : GLuint) :
    (GL2Encoder.s_glUseProgram ctx program).TexturesSynced caps ∧
      (GL2Encoder.s_glUseProgram ctx program).shared = ctx.shared := by
  let sent := ctx.emit (.glUseProgram program)
  let current : Encoder := { sent with state := sent.state.setCurrentProgram program }
  have hcurrent : SyncedAt caps current ctx.tex.activeUnit := by
    show Synced ctx.tex (sent.host caps)
    rw [Encoder.host_emit]
    exact h
  obtain ⟨hostUnit, hresult, hsynced, hshared⟩ := synced_useProgramLoop program
    (GL2Encoder.numUniforms current.shared program) hcurrent (-1)
  let result := GL2Encoder.useProgramLoop program
    (GL2Encoder.numUniforms current.shared program) current (unitEnum ctx.tex.activeUnit) (-1)
  let back := result.1.setTex (result.1.tex.setActiveTextureUnit (unitEnum ctx.tex.activeUnit)).2
  have heq : GL2Encoder.s_glUseProgram ctx program =
      if result.2 ≠ unitEnum ctx.tex.activeUnit then
        back.emit (.glActiveTexture (unitEnum ctx.tex.activeUnit))
      else back := rfl
  have hactive : result.2 = unitEnum hostUnit := hresult
  rw [heq, hactive]
  refine ⟨SyncedAt.back hsynced ctx.tex.activeUnit rfl, ?_⟩
  split
  · exact hshared
  · exact hshared

/-- Without a sampler uniform of the recorded type, only the uniform is sent. -/
theorem synced_s_glUniform1i (h : ctx.TexturesSynced caps) (htypes : UniformTypes ctx.shared)
    (location x : GLint) :
    (GL2Encoder.s_glUniform1i ctx location x).TexturesSynced caps ∧
      UniformTypes (GL2Encoder.s_glUniform1i ctx location x).shared := by
  obtain ⟨hnone, hkept⟩ := htypes.setSamplerUniform ctx.state.currentProgram location x
  unfold GL2Encoder.s_glUniform1i
  dsimp only
  rw [hnone]
  refine ⟨?_, hkept⟩
  show Synced ctx.tex ((ctx.emit _).host caps)
  rw [Encoder.host_emit]
  exact h

/-! ## Runs -/

/-- The texture names that a call can bind. -/
def GL2Encoder.GL2TextureCall.names : GL2Encoder.GL2TextureCall → List GLuint
  | .glBindTexture _ _ texture => [texture]
  | _ => []

/-- What the call brings into the uniform tables is of GL's types. -/
def GL2Encoder.GL2TextureCall.TypesLegal : GL2Encoder.GL2TextureCall → Prop
  | .glLinkProgram _ reply _ => reply.Legal
  | .sharedGroup shared => UniformTypes shared
  | _ => True

/-- What every call keeps. -/
structure TextureInv (caps : HostCaps) (ctx : Encoder) : Prop where
  synced : ctx.TexturesSynced caps
  types : UniformTypes ctx.shared

theorem textureInv_init (caps : HostCaps) (memory : Nat → VertexAttribState) :
    TextureInv caps (Encoder.init memory GLSharedGroup.init) where
  synced := synced_init
  types := uniformTypes_init

/-- A call that leaves the shared group alone keeps the types. -/
theorem TextureInv.of_shared_eq {ctx' : Encoder} (h : TextureInv caps ctx)
    (hsynced : ctx'.TexturesSynced caps) (hshared : ctx'.shared = ctx.shared) :
    TextureInv caps ctx' where
  synced := hsynced
  types := hshared ▸ h.types

/-- One call. -/
theorem TextureInv.runTextureCall (h : TextureInv caps ctx) {call : GL2Encoder.GL2TextureCall}
    (hnames : ∀ x ∈ call.names, x.toNat < 2 ^ 31) (htypes : call.TypesLegal) :
    TextureInv caps (GL2Encoder.runTextureCall ctx call) := by
  cases call with
  | glActiveTexture texture =>
      exact h.of_shared_eq (Encoder.synced_glActiveTexture h.synced texture)
        (Encoder.glActiveTexture_shared texture)
  | glBindTexture realloc target texture =>
      have hsmall : texture.toNat < 2 ^ 31 := hnames texture (List.mem_singleton.mpr rfl)
      exact h.of_shared_eq (Encoder.synced_glBindTexture h.synced realloc target hsmall)
        (Encoder.glBindTexture_shared realloc target texture)
  | glDeleteTextures textures =>
      exact h.of_shared_eq (Encoder.synced_glDeleteTextures h.synced textures) rfl
  | glUseProgram program =>
      obtain ⟨hsynced, hshared⟩ := synced_s_glUseProgram h.synced program
      exact h.of_shared_eq hsynced hshared
  | glUniform1i location x =>
      obtain ⟨hsynced, hkept⟩ := synced_s_glUniform1i h.synced h.types location x
      exact ⟨hsynced, hkept⟩
  | glGetTexParameterfv target pname =>
      exact h.of_shared_eq (Encoder.synced_getTexParameter h.synced .fv target pname)
        (Encoder.with2DTextureTarget_shared _ _)
  | glGetTexParameteriv target pname =>
      exact h.of_shared_eq (Encoder.synced_glGetTexParameteriv h.synced target pname)
        (Encoder.glGetTexParameteriv_shared target pname)
  | glTexParameterf target pname _ | glTexParameterfv target pname _
  | glTexParameteri target pname _ | glTexParameteriv target pname _ =>
      exact h.of_shared_eq (Encoder.synced_texParameter h.synced _ target pname _)
        (Encoder.texParameter_shared _ target pname _)
  | glTexImage2D target | glTexSubImage2D target | glCompressedTexImage2D target
  | glCompressedTexSubImage2D target | glCopyTexImage2D target | glCopyTexSubImage2D target
  | glGenerateMipmap target =>
      exact h.of_shared_eq (Encoder.synced_texImage h.synced target fun _ _ => rfl)
        (Encoder.texImage_shared target _)
  | glLinkProgram program reply memory =>
      refine ⟨?_, h.types.s_glLinkProgram program htypes memory⟩
      show Encoder.TexturesSynced caps (GL2Encoder.s_glLinkProgram ctx program reply memory)
      unfold GL2Encoder.s_glLinkProgram
      split
      · exact h.synced
      · exact h.synced
  | sharedGroup shared => exact ⟨h.synced, htypes⟩

end GLESv2Enc
end DeviceAndroVM
