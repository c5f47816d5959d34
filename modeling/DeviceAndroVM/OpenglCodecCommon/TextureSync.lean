import DeviceAndroVM.Library.Lookup
import DeviceAndroVM.OpenglCodecCommon.Encoder
import DeviceAndroVM.OpenglCodecCommon.TextureEnables
import DeviceAndroVM.OpenglCodecCommon.TextureRuns

/-!
# Texture bindings on the client and on the host

External textures are emulated on one host target: on every unit the host has
bound to `GL_TEXTURE_2D` the texture of the client target with priority.  The
client's texture state and the host are related unit by unit, and each texture
call of the encoders keeps them related.

* `Synced` — active unit and bindings agree, and every texture object of the host
  has a record of the client.
* `Overridden` — the same except for the binding of the active unit, as between
  `override2DTextureTarget` and `restore2DTextureTarget`.
* `synced_…` — one theorem for each call.
-/

namespace DeviceAndroVM
namespace OpenglCodecCommon

open OpenGL Library TextureState

/-- The host target of a client target. -/
def hostTarget (target : GLenum) : GLenum :=
  if target = GL_TEXTURE_EXTERNAL_OES then GL_TEXTURE_2D else target

@[simp] theorem hostTarget_glTarget (t : TextureTarget) :
    hostTarget t.glTarget = GL_TEXTURE_2D := by
  cases t with
  | TEXTURE_2D => rfl
  | TEXTURE_EXTERNAL => rfl

/-- The texture has a client record for a target which the host knows as `target`;
0 is no texture. -/
def Recorded (tex : TextureState) (target : GLenum) (texture : GLuint) : Prop :=
  texture = 0#32 ∨ ∃ r ∈ tex.textures, r.id = texture ∧ hostTarget r.target = target

/-! ## The relation -/

/-- The table is well formed and covers the texture objects of the host. -/
structure Tracked (tex : TextureState) (host : Host) : Prop where
  wf : tex.WF
  small : SmallNames tex
  objects : ∀ name target, host.textures.lookup name = some target →
    ∃ r ∈ tex.textures, r.id = name ∧ hostTarget r.target = target

/-- The host has bound the texture with priority to `GL_TEXTURE_2D` of the unit. -/
def UnitAgrees (tex : TextureState) (host : Host) (unit : Fin MAX_TEXTURE_UNITS) : Prop :=
  host.binding unit.val GL_TEXTURE_2D = (tex.unit unit).texture (tex.unit unit).prioritySlot

/-- Every unit but the active one agrees. -/
structure Overridden (tex : TextureState) (host : Host) : Prop extends Tracked tex host where
  activeUnit : host.activeUnit = tex.activeUnit.val
  others : ∀ unit, unit ≠ tex.activeUnit → UnitAgrees tex host unit

/-- Client and host agree on the active unit and on every binding. -/
structure Synced (tex : TextureState) (host : Host) : Prop extends Tracked tex host where
  activeUnit : host.activeUnit = tex.activeUnit.val
  units : ∀ unit, UnitAgrees tex host unit

/-- The host's active unit is the client's, and on every unit its `GL_TEXTURE_2D`
binding is what the client has bound to the enabled target with priority. -/
structure TexturesAgree (tex : TextureState) (host : Host) : Prop where
  activeUnit : host.activeUnit = tex.activeUnit.val
  binding : ∀ unit : Fin MAX_TEXTURE_UNITS, host.binding unit.val GL_TEXTURE_2D =
    (tex.unit unit).getBoundTexture ((tex.unit unit).getPriorityEnabledTarget GL_TEXTURE_2D)

theorem synced_init : Synced TextureState.init Host.init where
  wf := init_wf
  small := by
    intro r hr
    cases hr
  objects := by
    intro name target hlookup
    cases hlookup
  activeUnit := rfl
  units := fun _ => rfl

variable {tex : TextureState} {host : Host} {caps : HostCaps}

theorem Synced.texturesAgree (h : Synced tex host) : TexturesAgree tex host where
  activeUnit := h.activeUnit
  binding := by
    intro unit
    rw [TextureUnit.getPriorityEnabledTarget_eq, TextureUnit.getBoundTexture_glTarget]
    exact h.units unit

theorem Synced.overridden (h : Synced tex host) : Overridden tex host where
  toTracked := h.toTracked
  activeUnit := h.activeUnit
  others := fun unit _ => h.units unit

theorem Overridden.synced (h : Overridden tex host) (hactive : UnitAgrees tex host tex.activeUnit) :
    Synced tex host where
  toTracked := h.toTracked
  activeUnit := h.activeUnit
  units := by
    intro unit
    by_cases hunit : unit = tex.activeUnit
    · rw [hunit]
      exact hactive
    · exact h.others unit hunit

/-- A change of the enables of the active unit may leave its binding behind. -/
theorem Synced.changeEnables (h : Synced tex host) {tex' : TextureState}
    (htextures : tex'.textures = tex.textures)
    (htexture : ∀ unit, (tex'.unit unit).texture = (tex.unit unit).texture)
    (hactive : tex'.activeUnit = tex.activeUnit)
    (hslots : ∀ unit, unit ≠ tex.activeUnit →
      (tex'.unit unit).prioritySlot = (tex.unit unit).prioritySlot) : Overridden tex' host := by
  refine ⟨⟨h.wf.of_texture_eq htextures htexture, ?_, ?_⟩, ?_, ?_⟩
  · intro r hr
    rw [htextures] at hr
    exact h.small r hr
  · intro name target hlookup
    rw [htextures]
    exact h.objects name target hlookup
  · rw [hactive]
    exact h.activeUnit
  · intro unit hunit
    rw [hactive] at hunit
    unfold UnitAgrees
    rw [htexture, hslots unit hunit]
    exact h.units unit

/-- What is bound on a unit is recorded under a target that the host knows as
`GL_TEXTURE_2D`. -/
theorem recorded_texture (h : tex.WF) (unit : Fin MAX_TEXTURE_UNITS) (t : TextureTarget) :
    Recorded tex GL_TEXTURE_2D ((tex.unit unit).texture t) := by
  by_cases hzero : (tex.unit unit).texture t = 0#32
  · exact Or.inl hzero
  · exact Or.inr ⟨_, h.recorded unit t hzero, rfl, hostTarget_glTarget t⟩

/-! ## Binding on the host -/

theorem setBinding_binding_of_ne {target other : GLenum} (hne : other ≠ target)
    (texture : GLuint) (unit : Nat) :
    (host.setBinding target texture).binding unit other = host.binding unit other := by
  simp [Host.setBinding, hne]

theorem setBinding_binding (target : GLenum) (texture : GLuint) (unit : Nat) :
    (host.setBinding target texture).binding unit target =
      if unit = host.activeUnit then texture else host.binding unit target := by
  simp [Host.setBinding]

/-- The host binds what the client has recorded for the target: the name has no
object yet or one of that very target. -/
theorem Tracked.bindTexture (h : Tracked tex host) (caps : HostCaps) {target : GLenum} {texture : GLuint}
    (hrec : Recorded tex target texture) :
    Tracked tex (host.bindTexture caps target texture) ∧
      (host.bindTexture caps target texture).activeUnit = host.activeUnit ∧
      (host.bindTexture caps target texture).enabled = host.enabled ∧
      (host.bindTexture caps target texture).binding =
        if caps.isTextureTarget target then (host.setBinding target texture).binding
        else host.binding := by
  unfold Host.bindTexture
  by_cases htarget : caps.isTextureTarget target = true
  · simp only [htarget, Bool.not_true, Bool.false_eq_true, if_false, if_true]
    by_cases hzero : texture = 0#32
    · rw [if_pos hzero]
      exact ⟨⟨h.wf, h.small, h.objects⟩, rfl, rfl, rfl⟩
    · rw [if_neg hzero]
      obtain ⟨r, hmem, hid, hr⟩ := hrec.resolve_left hzero
      cases hlookup : host.textures.lookup texture with
      | none =>
          refine ⟨⟨h.wf, h.small, ?_⟩, rfl, rfl, rfl⟩
          intro name other hother
          rcases lookup_insert_eq_some.mp hother with ⟨rfl, rfl⟩ | ⟨-, hold⟩
          · exact ⟨r, hmem, hid, hr⟩
          · exact h.objects name other hold
      | some old =>
          -- the object was made for the target that its one record has
          have hold : old = target := by
            obtain ⟨r', hmem', hid', hr'⟩ := h.objects texture old hlookup
            have hsame : r' = r := h.wf.ordered.eq_of_id_eq hmem' hmem (hid'.trans hid.symm)
            rw [← hr', hsame, hr]
          dsimp only
          rw [if_pos hold]
          exact ⟨⟨h.wf, h.small, h.objects⟩, rfl, rfl, rfl⟩
  · have hfalse : caps.isTextureTarget target = false := by simpa using htarget
    rw [if_pos (by simp [hfalse]), if_neg htarget]
    exact ⟨h, rfl, rfl, rfl⟩

/-- Any recorded texture may be bound on the active unit meanwhile. -/
theorem Overridden.bind2D (h : Overridden tex host) {texture : GLuint}
    (hrec : Recorded tex GL_TEXTURE_2D texture) :
    Overridden tex (host.exec caps (.glBindTexture GL_TEXTURE_2D texture)) := by
  obtain ⟨htracked, hactive, _, hbinding⟩ := h.toTracked.bindTexture caps hrec
  rw [if_pos caps.texture2D] at hbinding
  refine ⟨htracked, hactive.trans h.activeUnit, ?_⟩
  intro unit hunit
  have hne : unit.val ≠ host.activeUnit := by
    rw [h.activeUnit]
    exact fun heq => hunit (Fin.ext heq)
  show (host.bindTexture caps GL_TEXTURE_2D texture).binding unit.val GL_TEXTURE_2D = _
  rw [hbinding, setBinding_binding, if_neg hne]
  exact h.others unit hunit

/-- Binding the texture with priority restores the agreement. -/
theorem Overridden.restore (h : Overridden tex host) {texture : GLuint}
    (htexture : texture = tex.active.texture tex.active.prioritySlot) :
    Synced tex (host.exec caps (.glBindTexture GL_TEXTURE_2D texture)) := by
  have hrec : Recorded tex GL_TEXTURE_2D texture := by
    rw [htexture]
    exact recorded_texture h.wf tex.activeUnit _
  refine (h.bind2D hrec).synced ?_
  obtain ⟨_, _, _, hbinding⟩ := h.toTracked.bindTexture caps hrec
  rw [if_pos caps.texture2D] at hbinding
  show (host.bindTexture caps GL_TEXTURE_2D texture).binding _ GL_TEXTURE_2D = _
  rw [hbinding, setBinding_binding, if_pos h.activeUnit.symm]
  exact htexture

/-- A binding to another target is no concern of the relation. -/
theorem Synced.bindOther (h : Synced tex host) {target : GLenum} {texture : GLuint}
    (hne : target ≠ GL_TEXTURE_2D) (hrec : Recorded tex target texture) :
    Synced tex (host.exec caps (.glBindTexture target texture)) := by
  obtain ⟨htracked, hactive, _, hbinding⟩ := h.toTracked.bindTexture caps hrec
  refine ⟨htracked, hactive.trans h.activeUnit, ?_⟩
  intro unit
  show (host.bindTexture caps target texture).binding unit.val GL_TEXTURE_2D = _
  rw [hbinding]
  split
  · rw [setBinding_binding_of_ne (Ne.symm hne)]
    exact h.units unit
  · exact h.units unit

/-! ## Deleting -/

theorem deleteTexture_zero (h : tex.WF) : tex.deleteTexture 0#32 = tex := by
  unfold TextureState.deleteTexture
  cases hfind : tex.findTexture 0#32 with
  | none => rfl
  | some i =>
      obtain ⟨r, hr, hid⟩ := findTexture_sound hfind
      exact absurd hid (h.nonzero r (List.mem_of_getElem? hr))

theorem Synced.deleteTexture (h : Synced tex host) (texture : GLuint) :
    Synced (tex.deleteTexture texture) (host.deleteTexture texture) := by
  by_cases hzero : texture = 0#32
  · subst hzero
    rw [deleteTexture_zero h.wf]
    exact h
  · unfold Host.deleteTexture
    rw [if_neg hzero]
    refine ⟨⟨h.wf.deleteTexture texture, ?_, ?_⟩, ?_, ?_⟩
    · intro r hr
      rw [deleteTexture_textures h.wf.ordered] at hr
      exact h.small r (List.mem_of_mem_filter hr)
    · intro name target hlookup
      obtain ⟨hname, hold⟩ := lookup_erase_eq_some.mp hlookup
      obtain ⟨r, hmem, hid, htarget⟩ := h.objects name target hold
      refine ⟨r, ?_, hid, htarget⟩
      rw [deleteTexture_textures h.wf.ordered]
      exact List.mem_filter.mpr ⟨hmem, by simpa [hid] using hname⟩
    · rw [deleteTexture_activeUnit]
      exact h.activeUnit
    · intro unit
      have hslot : ((tex.deleteTexture texture).unit unit).prioritySlot =
          (tex.unit unit).prioritySlot :=
        TextureUnit.prioritySlot_congr (deleteTexture_enables tex texture unit)
      unfold UnitAgrees
      rw [hslot, deleteTexture_texture h.wf, ← h.units unit]

theorem Synced.deleteTextures (h : Synced tex host) (textures : List GLuint) :
    Synced (tex.deleteTextures textures) (host.exec caps (.glDeleteTextures textures)) := by
  show Synced (textures.foldl TextureState.deleteTexture tex)
    (textures.foldl Host.deleteTexture host)
  induction textures generalizing tex host with
  | nil => exact h
  | cons texture rest ih => exact ih (h.deleteTexture texture)

/-! ## Switching units -/

/-- The host has all units that the client accepts. -/
theorem exec_glActiveTexture {texture : GLenum} {unit : Fin MAX_TEXTURE_UNITS}
    (hunit : unit.val = (texture - GL_TEXTURE0).toNat) :
    host.exec caps (.glActiveTexture texture) = { host with activeUnit := unit.val } := by
  have hlt : (texture - GL_TEXTURE0).toNat < caps.maxUnits := by
    rw [← hunit]
    exact Nat.lt_of_lt_of_le unit.isLt caps.units_le
  simp only [Host.exec]
  rw [if_pos hlt, hunit]

theorem Synced.activate (h : Synced tex host) (unit : Fin MAX_TEXTURE_UNITS) :
    Synced { tex with activeUnit := unit } { host with activeUnit := unit.val } where
  wf := ⟨h.wf.ordered, h.wf.nonzero, h.wf.recorded⟩
  small := h.small
  objects := h.objects
  activeUnit := rfl
  units := h.units

/-! ## The encoder calls -/

namespace Encoder

variable (caps)

/-- The relation for the client state of an encoder and the host it has driven. -/
def TexturesSynced (ctx : Encoder) : Prop := Synced ctx.tex (ctx.host caps)

variable {caps} {ctx : Encoder}

theorem synced_glActiveTexture (h : ctx.TexturesSynced caps) (texture : GLenum) :
    (ctx.glActiveTexture texture).TexturesSynced caps := by
  unfold glActiveTexture
  rcases setActiveTextureUnit_cases ctx.tex texture with ⟨heq, -⟩ | ⟨unit, hunit, heq⟩
  · rw [heq]
    exact h
  · rw [heq]
    dsimp only
    rw [if_neg (by simp)]
    unfold TexturesSynced
    rw [host_emit, host_setTex, exec_glActiveTexture hunit]
    exact h.activate unit

theorem synced_glDeleteTextures (h : ctx.TexturesSynced caps) (textures : List GLuint) :
    (ctx.glDeleteTextures textures).TexturesSynced caps := by
  unfold glDeleteTextures TexturesSynced
  rw [host_emit]
  exact Synced.deleteTextures h textures

/-- The override, a command without effect here, and the restore. -/
theorem synced_with2DTextureTarget (h : ctx.TexturesSynced caps) (target : GLenum)
    {cmd : GLenum → GLCmd} (hcmd : ∀ t, NoEffect caps (cmd t)) :
    (ctx.with2DTextureTarget target cmd).TexturesSynced caps := by
  unfold with2DTextureTarget
  split
  · have hoverride : Overridden (ctx.override2DTextureTarget target).tex
        ((ctx.override2DTextureTarget target).host caps) := by
      unfold override2DTextureTarget
      split
      · rename_i hcase
        have hbound : Recorded ctx.tex GL_TEXTURE_2D (ctx.tex.getBoundTexture target) := by
          rcases hcase.1 with rfl | rfl
          · exact recorded_texture h.wf ctx.tex.activeUnit .TEXTURE_2D
          · exact recorded_texture h.wf ctx.tex.activeUnit .TEXTURE_EXTERNAL
        rw [host_emit]
        exact h.overridden.bind2D hbound
      · exact h.overridden
    unfold restore2DTextureTarget TexturesSynced
    rw [host_emit, host_emit, hcmd]
    refine hoverride.restore ?_
    show (ctx.override2DTextureTarget target).tex.active.getBoundTexture
      ((ctx.override2DTextureTarget target).tex.active.getPriorityEnabledTarget _) = _
    rw [TextureUnit.getPriorityEnabledTarget_eq, TextureUnit.getBoundTexture_glTarget]
  · unfold TexturesSynced
    rw [host_emit, hcmd]
    exact h

theorem synced_getTexParameter (h : ctx.TexturesSynced caps) (entry : GetTexParameter)
    (target pname : GLenum) : (ctx.getTexParameter entry target pname).TexturesSynced caps :=
  synced_with2DTextureTarget h target fun _ _ => rfl

theorem synced_glGetTexParameteriv (h : ctx.TexturesSynced caps) (target pname : GLenum) :
    (ctx.glGetTexParameteriv target pname).2.TexturesSynced caps := by
  unfold glGetTexParameteriv
  split
  · exact h
  · exact synced_getTexParameter h .iv target pname

theorem synced_texParameter (h : ctx.TexturesSynced caps) (isValid : GLenum → GLenum → Bool)
    (target pname : GLenum) (value : TexParameterValue) :
    (ctx.texParameter isValid target pname value).TexturesSynced caps := by
  unfold texParameter
  split
  · exact h
  · exact synced_with2DTextureTarget h target fun _ _ => rfl

theorem synced_texImage (h : ctx.TexturesSynced caps) (target : GLenum) {cmd : GLenum → GLCmd}
    (hcmd : ∀ t, NoEffect caps (cmd t)) : (ctx.texImage target cmd).TexturesSynced caps := by
  unfold texImage
  split
  · exact h
  · exact synced_with2DTextureTarget h target hcmd

/-! ### `glBindTexture` -/

theorem overridden_sendExternalDefaults (h : Overridden ctx.tex (ctx.host caps))
    {texture : GLuint} (hrec : Recorded ctx.tex GL_TEXTURE_2D texture) :
    Overridden (ctx.sendExternalDefaults texture).tex
      ((ctx.sendExternalDefaults texture).host caps) := by
  unfold sendExternalDefaults
  rw [host_emit, host_emit, host_emit, host_emit]
  exact h.bind2D hrec

/-- Sending a binding of a tracked target to the host, after the client recorded it.
`hkept` is about a target without priority, whose binding the host does not see. -/
theorem synced_sendBinding (h : Overridden ctx.tex (ctx.host caps)) {t : TextureTarget}
    {texture : GLuint} (hbound : ctx.tex.active.texture t = texture)
    (hkept : t ≠ ctx.tex.active.prioritySlot →
      UnitAgrees ctx.tex (ctx.host caps) ctx.tex.activeUnit) (firstUse : Bool) :
    (ctx.sendBinding t.glTarget texture firstUse).TexturesSynced caps := by
  have hrec : Recorded ctx.tex GL_TEXTURE_2D texture := by
    rw [← hbound]
    exact recorded_texture h.wf ctx.tex.activeUnit t
  have hpriority : ctx.tex.getPriorityEnabledTarget GL_TEXTURE_2D =
      ctx.tex.active.prioritySlot.glTarget := TextureUnit.getPriorityEnabledTarget_eq _
  unfold sendBinding TexturesSynced
  rw [if_neg t.not_untracked, hpriority]
  by_cases hslot : t = ctx.tex.active.prioritySlot
  · -- the binding has priority, and is sent last
    rw [if_pos (congrArg _ hslot)]
    have hsame : ¬(t.glTarget ≠ ctx.tex.active.prioritySlot.glTarget) :=
      fun hne => hne (congrArg _ hslot)
    rw [if_neg hsame, host_emit]
    split
    · refine (overridden_sendExternalDefaults h hrec).restore ?_
      show texture = ctx.tex.active.texture ctx.tex.active.prioritySlot
      rw [← hslot, hbound]
    · refine h.restore ?_
      rw [← hslot, hbound]
  · -- the host stays at, or goes back to, the other target's texture
    have hne : t.glTarget ≠ ctx.tex.active.prioritySlot.glTarget :=
      fun heq => hslot (glTarget_injective heq)
    rw [if_neg hne, if_pos hne]
    split
    · rename_i hfirst
      have hexternal : t = .TEXTURE_EXTERNAL := glTarget_injective hfirst.1
      have htwo : ctx.tex.active.prioritySlot = .TEXTURE_2D := by
        cases hp : ctx.tex.active.prioritySlot with
        | TEXTURE_2D => rfl
        | TEXTURE_EXTERNAL => exact absurd (hexternal.trans hp.symm) hslot
      rw [host_emit]
      refine (overridden_sendExternalDefaults h hrec).restore ?_
      show ctx.tex.active.getBoundTexture TextureTarget.TEXTURE_2D.glTarget =
        ctx.tex.active.texture ctx.tex.active.prioritySlot
      rw [htwo, TextureUnit.getBoundTexture_glTarget]
    · exact h.synced (hkept hslot)

/-- The client state after a successful `bindTexture`: the record is there, nothing
but the binding of the active unit changed. -/
structure Bound (tex tex' : TextureState) (target : GLenum) (texture : GLuint) : Prop where
  wf : tex'.WF
  small : SmallNames tex'
  records : ∀ r ∈ tex.textures, r ∈ tex'.textures
  recorded : texture ≠ 0#32 → (⟨texture, target⟩ : TextureRec) ∈ tex'.textures
  activeUnit : tex'.activeUnit = tex.activeUnit
  enables : ∀ unit, (tex'.unit unit).enables = (tex.unit unit).enables
  texture : ∀ unit t, (tex'.unit unit).texture t =
    if unit = tex.activeUnit ∧ t.glTarget = target then texture else (tex.unit unit).texture t

/-- `bindTexture` refuses and changes nothing, or binds. -/
theorem bindTexture_cases {tex : TextureState} (h : tex.WF) (hsmall : SmallNames tex)
    (realloc : BitVec 32 → Bool) (target : GLenum) {texture : GLuint}
    (hx : texture.toNat < 2 ^ 31) :
    ((tex.bindTexture realloc target texture).1.err ≠ GL_NO_ERROR ∧
      (tex.bindTexture realloc target texture).2 = tex) ∨
    ((tex.bindTexture realloc target texture).1.err = GL_NO_ERROR ∧
      Bound tex (tex.bindTexture realloc target texture).2 target texture) := by
  have hnames : ∀ x ∈ (TextureCall.bindTexture realloc target texture).names,
      x.toNat < 2 ^ 31 := by simpa [TextureCall.names] using hx
  have hcall := textureCall_wf h hsmall hnames
  obtain ⟨res, tex', heq, houtcome⟩ := bindTexture_outcome h.ordered realloc target texture
  change (tex.bindTexture realloc target texture).2.WF ∧
    SmallNames (tex.bindTexture realloc target texture).2 at hcall
  rw [heq] at hcall ⊢
  cases houtcome with
  | mismatch =>
      refine Or.inl ⟨?_, rfl⟩
      show GL_INVALID_OPERATION ≠ GL_NO_ERROR
      decide
  | exhausted =>
      refine Or.inl ⟨?_, rfl⟩
      show GL_OUT_OF_MEMORY ≠ GL_NO_ERROR
      decide
  | zero hzero =>
      refine Or.inr ⟨rfl, hcall.1, hcall.2, ?_, fun hne => absurd hzero hne, ?_, ?_, ?_⟩
      · intro r hr
        simpa using hr
      · exact setBinding_activeUnit tex target texture
      · exact setBinding_enables tex target texture
      · exact setBinding_texture tex target texture
  | known hne hmem =>
      refine Or.inr ⟨rfl, hcall.1, hcall.2, ?_, fun _ => by simpa using hmem, ?_, ?_, ?_⟩
      · intro r hr
        simpa using hr
      · exact setBinding_activeUnit tex target texture
      · exact setBinding_enables tex target texture
      · exact setBinding_texture tex target texture
  | first hne habsent alloc hroom =>
      refine Or.inr ⟨rfl, hcall.1, hcall.2, ?_, ?_, ?_, ?_, ?_⟩
      · intro r hr
        rw [setBinding_textures]
        exact mem_insertRec.mpr (Or.inr hr)
      · intro _
        rw [setBinding_textures]
        exact mem_insertRec.mpr (Or.inl rfl)
      · exact setBinding_activeUnit _ target texture
      · exact setBinding_enables _ target texture
      · exact setBinding_texture _ target texture

/-- Only the binding of the active unit under the bound target can disagree. -/
theorem Bound.unitAgrees {tex tex' : TextureState} {host : Host} {target : GLenum}
    {texture : GLuint} (hbound : Bound tex tex' target texture) (h : Synced tex host)
    {unit : Fin MAX_TEXTURE_UNITS}
    (hother : unit ≠ tex.activeUnit ∨ (tex'.unit unit).prioritySlot.glTarget ≠ target) :
    UnitAgrees tex' host unit := by
  have hslot : (tex'.unit unit).prioritySlot = (tex.unit unit).prioritySlot :=
    TextureUnit.prioritySlot_congr (hbound.enables unit)
  have hne : ¬(unit = tex.activeUnit ∧ (tex'.unit unit).prioritySlot.glTarget = target) := by
    rintro ⟨hunit, htarget⟩
    rcases hother with hno | hno
    · exact hno hunit
    · exact hno htarget
  unfold UnitAgrees
  rw [hbound.texture, if_neg hne, hslot]
  exact h.units unit

theorem Bound.tracked {tex tex' : TextureState} {host : Host} {target : GLenum}
    {texture : GLuint} (hbound : Bound tex tex' target texture) (h : Tracked tex host) :
    Tracked tex' host where
  wf := hbound.wf
  small := hbound.small
  objects := by
    intro name target hlookup
    obtain ⟨r, hmem, hid, htarget⟩ := h.objects name target hlookup
    exact ⟨r, hbound.records r hmem, hid, htarget⟩

theorem synced_glBindTexture (h : ctx.TexturesSynced caps) (realloc : BitVec 32 → Bool)
    (target : GLenum) {texture : GLuint} (hx : texture.toNat < 2 ^ 31) :
    (ctx.glBindTexture realloc target texture).TexturesSynced caps := by
  unfold glBindTexture
  rcases bindTexture_cases h.wf h.small realloc target hx with ⟨herr, hsame⟩ | ⟨herr, hbound⟩
  · dsimp only
    rw [if_pos herr, hsame]
    exact h
  · dsimp only
    rw [if_neg (not_not.mpr herr)]
    generalize (ctx.tex.bindTexture realloc target texture).2 = tex' at hbound
    generalize ((ctx.tex.bindTexture realloc target texture).1.firstUse == some true) = firstUse
    have hothers : Overridden (ctx.setTex tex').tex ((ctx.setTex tex').host caps) := by
      rw [setTex_tex]
      refine ⟨hbound.tracked h.toTracked, ?_, ?_⟩
      · rw [hbound.activeUnit]
        exact h.activeUnit
      · intro unit hunit
        rw [hbound.activeUnit] at hunit
        exact hbound.unitAgrees h (Or.inl hunit)
    cases hslot : TextureTarget.ofGLenum? target with
    | some t =>
        obtain rfl := (ofGLenum?_eq_some_iff target t).mp hslot
        refine synced_sendBinding hothers ?_ ?_ firstUse
        · show (tex'.unit tex'.activeUnit).texture t = texture
          rw [hbound.texture, if_pos ⟨hbound.activeUnit, rfl⟩]
        · intro hne
          refine hbound.unitAgrees h (Or.inr ?_)
          exact fun heq => hne (glTarget_injective heq).symm
    | none =>
        have hneither : ∀ t : TextureTarget, t.glTarget ≠ target := by
          intro t heq
          rw [(ofGLenum?_eq_some_iff target t).mpr heq] at hslot
          cases hslot
        have hno2d : target ≠ GL_TEXTURE_2D := fun heq => hneither .TEXTURE_2D heq.symm
        have hnoext : target ≠ GL_TEXTURE_EXTERNAL_OES :=
          fun heq => hneither .TEXTURE_EXTERNAL heq.symm
        unfold sendBinding TexturesSynced
        rw [if_pos ⟨hno2d, hnoext⟩, host_emit]
        refine Synced.bindOther ?_ hno2d ?_
        · exact hothers.synced (hbound.unitAgrees h (Or.inr (hneither _)))
        · by_cases hzero : texture = 0#32
          · exact Or.inl hzero
          · exact Or.inr ⟨_, hbound.recorded hzero, rfl, if_neg hnoext⟩

end Encoder

end OpenglCodecCommon
end DeviceAndroVM
