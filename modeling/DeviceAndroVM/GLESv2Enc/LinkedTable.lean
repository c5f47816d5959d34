import DeviceAndroVM.GLESv2Enc.Textures

/-!
# The uniform table of a linked program

What `s_glLinkProgram` leaves in the record of the program, as a function of what the
host reports about the active uniforms.

* `linkedEntry`, `linkedTable` — one entry, and all of them.
* `lookup_s_glLinkProgram` — the record after linking.
* `s_glLinkProgram_frame` — linking changes no other record.
-/

namespace DeviceAndroVM
namespace GLESv2Enc

open OpenGL Library OpenglCodecCommon GL2Encoder

namespace GL2Encoder

/-- The `appBase` of uniform `i`: the elements of the uniforms before it, in the
wrapping arithmetic of the target. -/
def appBaseOf (uniforms : List ActiveUniform) (i : Nat) : GLint :=
  ((uniforms.take i).map ActiveUniform.size).sum

/-- The entry of uniform `i`; `external` tells which names are external samplers. -/
def linkedEntry (external : String8 → Bool) (uniforms : List ActiveUniform) (i : Nat)
    (u : ActiveUniform) : IndexInfo where
  base := u.location
  size := u.size
  type := u.type
  appBase := appBaseOf uniforms i
  hostLocsPerElement := 1#32
  flags :=
    if u.type == GL_SAMPLER_2D && external u.name then INDEX_FLAG_SAMPLER_EXTERNAL else 0#32
  samplerValue := 0#32

/-- The entries of all active uniforms. -/
def linkedTable (external : String8 → Bool) (uniforms : List ActiveUniform) : List IndexInfo :=
  uniforms.mapIdx (linkedEntry external uniforms)

/-- The record of a program after linking. -/
def linkedData (external : String8 → Bool) (uniforms : List ActiveUniform) (old : ProgramData) :
    ProgramData :=
  ProgramData.setupLocationShiftWAR
    { indexes := linkedTable external uniforms
      initialized := true
      locShiftWAR := false
      shaders := old.shaders }

end GL2Encoder

/-- Entry `i` of the uniform table of a program. -/
def uniformEntry (shared : GLSharedGroup) (program : GLuint) (i : Nat) : Option IndexInfo :=
  (shared.programs.lookup program).bind fun data => data.indexes[i]?

variable {external : String8 → Bool} {uniforms : List ActiveUniform} {i : Nat}
  {u : ActiveUniform}

theorem length_linkedTable : (linkedTable external uniforms).length = uniforms.length :=
  List.length_mapIdx

theorem getElem?_linkedTable :
    (linkedTable external uniforms)[i]? =
      (uniforms[i]?).map (linkedEntry external uniforms i) :=
  List.getElem?_mapIdx

theorem appBaseOf_succ (h : uniforms[i]? = some u) :
    appBaseOf uniforms (i + 1) = appBaseOf uniforms i + u.size := by
  obtain ⟨hlt, rfl⟩ := List.getElem?_eq_some_iff.mp h
  unfold appBaseOf
  rw [List.take_succ_eq_append_getElem hlt, List.map_append, List.sum_append]
  simp

/-! ## The loop over the active uniforms -/

/-- While the table of `program` is filled: the first `k` entries are there. -/
structure Linking (before : GLSharedGroup) (program : GLuint) (old : ProgramData)
    (uniforms : List ActiveUniform) (k : Nat) (shared : GLSharedGroup) : Prop where
  buffers : shared.buffers = before.buffers
  shaders : shared.shaders = before.shaders
  others : ∀ other ≠ program, shared.programs.lookup other = before.programs.lookup other
  record : ∃ data, shared.programs.lookup program = some data ∧ data.shaders = old.shaders ∧
    data.initialized = true ∧ data.locShiftWAR = false ∧
    data.indexes.length = uniforms.length ∧
    ∀ i < k, data.indexes[i]? =
      (linkedTable (before.declaresSamplerExternal old) uniforms)[i]?

variable {before shared : GLSharedGroup} {program : GLuint} {old data : ProgramData} {k : Nat}

theorem declaresSamplerExternal_congr (hshaders : shared.shaders = before.shaders)
    (hattached : data.shaders = old.shaders) :
    shared.declaresSamplerExternal data = before.declaresSamplerExternal old := by
  funext name
  unfold GLSharedGroup.declaresSamplerExternal
  rw [hshaders, hattached]

/-- The `appBase` that the next entry computes from the one before it. -/
theorem nextAppBase_eq (hle : k ≤ uniforms.length)
    (hfilled : ∀ i < k, data.indexes[i]? = (linkedTable external uniforms)[i]?) :
    data.nextAppBase k = appBaseOf uniforms k := by
  cases k with
  | zero => rfl
  | succ n =>
      have hlast : uniforms[n]? = some uniforms[n] := List.getElem?_eq_getElem hle
      have hentry : data.indexes[n]? = some (linkedEntry external uniforms n uniforms[n]) := by
        rw [hfilled n (Nat.lt_succ_self n), getElem?_linkedTable, hlast]
        rfl
      rw [ProgramData.nextAppBase, hentry, appBaseOf_succ hlast]
      rfl

theorem modify_set_self {α : Type*} (entries : List α) (k : Nat) (a : α) (f : α → α) :
    (entries.set k a).modify k f = entries.set k (f a) := by
  apply List.ext_getElem?
  intro i
  rw [List.getElem?_modify, List.getElem?_set, List.getElem?_set]
  by_cases hi : k = i
  · subst hi
    by_cases hlt : k < entries.length
    · simp [hlt]
    · simp [hlt]
  · simp [hi]

/-- `setIndexInfo` and `setIndexFlags` leave the entry of the uniform. -/
theorem setIndexInfo_entry (hk : k < 2 ^ 32)
    (hbase : data.nextAppBase k = appBaseOf uniforms k) (external : Bool) :
    (if external then
        (data.setIndexInfo (BitVec.ofNat 32 k) u.location u.size u.type).setIndexFlags
          (BitVec.ofNat 32 k) INDEX_FLAG_SAMPLER_EXTERNAL
      else data.setIndexInfo (BitVec.ofNat 32 k) u.location u.size u.type) =
    { data with
      indexes := data.indexes.set k
        { base := u.location
          size := u.size
          type := u.type
          appBase := appBaseOf uniforms k
          hostLocsPerElement := 1#32
          flags := if external then INDEX_FLAG_SAMPLER_EXTERNAL else 0#32
          samplerValue := 0#32 } } := by
  have hindex : (BitVec.ofNat 32 k).toNat = k := by
    rw [BitVec.toNat_ofNat]
    exact Nat.mod_eq_of_lt hk
  cases external with
  | false => simp [ProgramData.setIndexInfo, hindex, hbase]
  | true =>
      simp [ProgramData.setIndexInfo, ProgramData.setIndexFlags, hindex, hbase, modify_set_self]

/-- Filling entry `k`. -/
theorem Linking.setProgramIndexInfo (h : Linking before program old uniforms k shared)
    (hk : k < 2 ^ 32) (hu : uniforms[k]? = some u) :
    Linking before program old uniforms (k + 1)
      (shared.setProgramIndexInfo program (BitVec.ofNat 32 k) u.location u.size u.type u.name) := by
  obtain ⟨data, hlookup, hattached, hinit, hwar, hlength, hfilled⟩ := h.record
  have hlt : k < uniforms.length := (List.getElem?_eq_some_iff.mp hu).1
  have hexternal := declaresSamplerExternal_congr h.shaders hattached
  have hentry := setIndexInfo_entry (u := u) hk
    (nextAppBase_eq (Nat.le_of_lt hlt) hfilled)
    (u.type == GL_SAMPLER_2D && shared.declaresSamplerExternal data u.name)
  unfold GLSharedGroup.setProgramIndexInfo GLSharedGroup.modifyProgram
  rw [hlookup]
  dsimp only
  rw [hentry]
  refine ⟨h.buffers, h.shaders, ?_, _, AList.lookup_insert _, hattached, hinit, hwar, ?_, ?_⟩
  · intro other hne
    rw [AList.lookup_insert_ne hne]
    exact h.others other hne
  · rw [List.length_set, hlength]
  · intro i hi
    rw [List.getElem?_set]
    by_cases hlast : k = i
    · subst hlast
      rw [if_pos rfl, if_pos (hlength ▸ hlt), getElem?_linkedTable, hu, hexternal]
      rfl
    · rw [if_neg hlast]
      exact hfilled i (by omega)

theorem Linking.setUniforms {rest : List ActiveUniform}
    (h : Linking before program old uniforms k shared) (hlength : uniforms.length < 2 ^ 32)
    (hrest : uniforms.drop k = rest) :
    Linking before program old uniforms uniforms.length
      (GL2Encoder.setUniforms shared program k rest) := by
  induction rest generalizing shared k with
  | nil =>
      have hle := List.drop_eq_nil_iff.mp hrest
      obtain ⟨data, hlookup, hattached, hinit, hwar, hsize, hfilled⟩ := h.record
      exact ⟨h.buffers, h.shaders, h.others, data, hlookup, hattached, hinit, hwar, hsize,
        fun i hi => hfilled i (Nat.lt_of_lt_of_le hi hle)⟩
  | cons u rest ih =>
      have hu : uniforms[k]? = some u := by
        rw [← List.head?_drop, hrest]
        rfl
      have hlt := (List.getElem?_eq_some_iff.mp hu).1
      refine ih (h.setProgramIndexInfo (Nat.lt_trans hlt hlength) hu) ?_
      rw [← List.tail_drop, hrest]
      rfl

/-! ## Linking -/

/-- The group after the loop over the active uniforms. -/
theorem linking_s_glLinkProgram {ctx : Encoder} {reply : LinkReply}
    (hlength : reply.uniforms.length < 2 ^ 32)
    (hlookup : ctx.shared.programs.lookup program = some old) (memory : Nat → IndexInfo) :
    Linking ctx.shared program old reply.uniforms reply.uniforms.length
      (GL2Encoder.setUniforms (ctx.shared.initProgramData program
        (BitVec.ofNat 32 reply.uniforms.length) memory) program 0 reply.uniforms) := by
  have hcount : (BitVec.ofNat 32 reply.uniforms.length).toNat = reply.uniforms.length := by
    rw [BitVec.toNat_ofNat]
    exact Nat.mod_eq_of_lt hlength
  have hstart : Linking ctx.shared program old reply.uniforms 0 (ctx.shared.initProgramData program
      (BitVec.ofNat 32 reply.uniforms.length) memory) := by
    unfold GLSharedGroup.initProgramData GLSharedGroup.modifyProgram
    rw [hlookup]
    refine ⟨rfl, rfl, fun other hne => AList.lookup_insert_ne hne, _, AList.lookup_insert _, rfl,
      rfl, rfl, ?_, fun i hi => absurd hi (Nat.not_lt_zero i)⟩
    simp [ProgramData.initProgramData, hcount]
  exact hstart.setUniforms hlength rfl

/-- The record of a linked program. -/
theorem lookup_s_glLinkProgram {ctx : Encoder} {reply : LinkReply}
    (hstatus : reply.linkStatus = true) (hlength : reply.uniforms.length < 2 ^ 32)
    (hlookup : ctx.shared.programs.lookup program = some old) (memory : Nat → IndexInfo) :
    (s_glLinkProgram ctx program reply memory).shared.programs.lookup program =
      some (linkedData (ctx.shared.declaresSamplerExternal old) reply.uniforms old) := by
  obtain ⟨data, hdata, hattached, hinit, hwar, hsize, hfilled⟩ :=
    (linking_s_glLinkProgram hlength hlookup memory).record
  have htable : data.indexes = linkedTable (ctx.shared.declaresSamplerExternal old)
      reply.uniforms := by
    apply List.ext_getElem?
    intro i
    by_cases hi : i < reply.uniforms.length
    · exact hfilled i hi
    · rw [List.getElem?_eq_none (by omega), List.getElem?_eq_none (by
        rw [length_linkedTable]
        omega)]
  unfold s_glLinkProgram
  rw [hstatus]
  simp only [Bool.not_true, Bool.false_eq_true, if_false]
  unfold GLSharedGroup.setupLocationShiftWAR GLSharedGroup.modifyProgram
  rw [hdata]
  dsimp only
  rw [AList.lookup_insert, linkedData, ← htable, ← hattached, ← hinit, ← hwar]

/-- Linking changes the record of the program only. -/
theorem s_glLinkProgram_frame {ctx : Encoder} {reply : LinkReply}
    (hlength : reply.uniforms.length < 2 ^ 32)
    (hlookup : ctx.shared.programs.lookup program = some old) (memory : Nat → IndexInfo) :
    (s_glLinkProgram ctx program reply memory).shared.shaders = ctx.shared.shaders ∧
      ∀ other ≠ program, (s_glLinkProgram ctx program reply memory).shared.programs.lookup other =
        ctx.shared.programs.lookup other := by
  unfold s_glLinkProgram
  split
  · exact ⟨rfl, fun _ _ => rfl⟩
  · have h := linking_s_glLinkProgram hlength hlookup memory
    obtain ⟨data, hdata, -⟩ := h.record
    dsimp only
    unfold GLSharedGroup.setupLocationShiftWAR GLSharedGroup.modifyProgram
    rw [hdata]
    refine ⟨h.shaders, fun other hne => ?_⟩
    rw [AList.lookup_insert_ne hne]
    exact h.others other hne

end GLESv2Enc
end DeviceAndroVM
