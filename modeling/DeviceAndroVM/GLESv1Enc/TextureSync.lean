import DeviceAndroVM.GLESv1Enc.Textures
import DeviceAndroVM.OpenglCodecCommon.TextureSync

/-!
# Textures of a GLES1 context

Here the client also switches the host's `GL_TEXTURE_2D` on and off: it is on while
either of the two targets is enabled.

* `KeepsEnables` — the calls other than `glEnable` and `glDisable` change no texture
  enable on either side.
* `TextureInv.glEnable`, `TextureInv.glDisable` — the two calls that do.
* `units_agree` — active unit, enables and bindings agree over every run; in
  particular `GL_TEXTURE_2D`'s binding is active whenever the external target is
  disabled.
-/

namespace DeviceAndroVM
namespace GLESv1Enc

open OpenGL Library OpenglCodecCommon

variable {caps : HostCaps} {ctx : Encoder}

/-! ## Enables of a unit -/

/-- One of the two targets of a unit is enabled. -/
def anyEnabled (u : TextureUnit) : Bool := u.isEnabled .TEXTURE_EXTERNAL || u.isEnabled .TEXTURE_2D

theorem getPriorityEnabledTarget_eq_external_iff (u : TextureUnit) :
    u.getPriorityEnabledTarget GL_INVALID_ENUM = GL_TEXTURE_EXTERNAL_OES ↔
      u.isEnabled .TEXTURE_EXTERNAL = true := by
  unfold TextureUnit.getPriorityEnabledTarget
  by_cases hext : u.isEnabled .TEXTURE_EXTERNAL = true
  · simp [hext]
  · rw [if_neg hext]
    have hother : (if u.isEnabled .TEXTURE_2D = true then GL_TEXTURE_2D else GL_INVALID_ENUM) ≠
        GL_TEXTURE_EXTERNAL_OES := by
      split
      · decide
      · decide
    exact ⟨fun heq => absurd heq hother, fun hno => absurd hno hext⟩

theorem getPriorityEnabledTarget_eq_invalid_iff (u : TextureUnit) :
    u.getPriorityEnabledTarget GL_INVALID_ENUM = GL_INVALID_ENUM ↔ anyEnabled u = false := by
  have hexternal : GL_TEXTURE_EXTERNAL_OES ≠ GL_INVALID_ENUM := by decide
  have htwo : GL_TEXTURE_2D ≠ GL_INVALID_ENUM := by decide
  unfold TextureUnit.getPriorityEnabledTarget anyEnabled
  by_cases hext : u.isEnabled .TEXTURE_EXTERNAL = true
  · simp [hext, hexternal]
  · by_cases h2d : u.isEnabled .TEXTURE_2D = true
    · simp [hext, h2d, htwo]
    · simp [hext, h2d]

/-- The target whose texture is bound after `glDisable`. -/
theorem getPriorityEnabledTarget_invalid (u : TextureUnit) :
    (if u.getPriorityEnabledTarget GL_INVALID_ENUM = GL_INVALID_ENUM then GL_TEXTURE_2D
      else u.getPriorityEnabledTarget GL_INVALID_ENUM) = u.prioritySlot.glTarget := by
  have hexternal : GL_TEXTURE_EXTERNAL_OES ≠ GL_INVALID_ENUM := by decide
  unfold TextureUnit.getPriorityEnabledTarget TextureUnit.prioritySlot
  by_cases hext : u.isEnabled .TEXTURE_EXTERNAL = true
  · simp [hext, hexternal, TextureTarget.glTarget]
  · by_cases h2d : u.isEnabled .TEXTURE_2D = true
    · simp [hext, h2d, TextureTarget.glTarget]
    · simp [hext, h2d, TextureTarget.glTarget]

theorem prioritySlot_eq_of_external_eq {u u' : TextureUnit}
    (h : u'.isEnabled .TEXTURE_EXTERNAL = u.isEnabled .TEXTURE_EXTERNAL) :
    u'.prioritySlot = u.prioritySlot := by
  unfold TextureUnit.prioritySlot
  rw [h]

theorem anyEnabled_congr {u u' : TextureUnit} (h : ∀ t, u'.isEnabled t = u.isEnabled t) :
    anyEnabled u' = anyEnabled u := by
  unfold anyEnabled
  rw [h, h]

/-- While the target with priority stays the same, so does what the host is told. -/
theorem eq_of_priority_eq {u u' : TextureUnit}
    (h : u.getPriorityEnabledTarget GL_INVALID_ENUM = u'.getPriorityEnabledTarget GL_INVALID_ENUM) :
    u'.prioritySlot = u.prioritySlot ∧ anyEnabled u' = anyEnabled u := by
  constructor
  · refine prioritySlot_eq_of_external_eq ?_
    rw [Bool.eq_iff_iff, ← getPriorityEnabledTarget_eq_external_iff,
      ← getPriorityEnabledTarget_eq_external_iff, h]
  · have hfalse : anyEnabled u' = false ↔ anyEnabled u = false := by
      rw [← getPriorityEnabledTarget_eq_invalid_iff, ← getPriorityEnabledTarget_eq_invalid_iff, h]
    cases hu : anyEnabled u with
    | false => exact hfalse.mpr hu
    | true =>
        cases hu' : anyEnabled u' with
        | false => exact absurd (hfalse.mp hu') (by simp [hu])
        | true => rfl

/-! ## The relation -/

/-- On every unit the host's `GL_TEXTURE_2D` is on when one of the client's targets is. -/
def EnablesAgree (tex : TextureState) (host : Host) : Prop :=
  ∀ unit : Fin MAX_TEXTURE_UNITS, host.enabled unit.val GL_TEXTURE_2D = anyEnabled (tex.unit unit)

/-- What every call keeps. -/
structure TextureInv (caps : HostCaps) (ctx : Encoder) : Prop where
  synced : ctx.TexturesSynced caps
  enables : EnablesAgree ctx.tex (ctx.host caps)

/-- Active unit, enables and bindings of the host are what the client records. -/
structure UnitsAgree (tex : TextureState) (host : Host) : Prop where
  activeUnit : host.activeUnit = tex.activeUnit.val
  enabled : ∀ unit : Fin MAX_TEXTURE_UNITS, host.enabled unit.val GL_TEXTURE_2D = true ↔
    (tex.unit unit).isEnabled .TEXTURE_2D = true ∨
      (tex.unit unit).isEnabled .TEXTURE_EXTERNAL = true
  binding : ∀ unit : Fin MAX_TEXTURE_UNITS, host.binding unit.val GL_TEXTURE_2D =
    if (tex.unit unit).isEnabled .TEXTURE_EXTERNAL = true then
      (tex.unit unit).texture .TEXTURE_EXTERNAL
    else (tex.unit unit).texture .TEXTURE_2D

theorem TextureInv.unitsAgree (h : TextureInv caps ctx) : UnitsAgree ctx.tex (ctx.host caps) where
  activeUnit := h.synced.activeUnit
  enabled := by
    intro unit
    rw [h.enables unit, anyEnabled, Bool.or_eq_true, or_comm]
  binding := by
    intro unit
    rw [h.synced.units unit, TextureUnit.prioritySlot]
    split
    · rfl
    · rfl

theorem textureInv_init (caps : HostCaps) (memory : Nat → VertexAttribState)
    (shared : GLSharedGroup) : TextureInv caps (Encoder.init memory shared) where
  synced := synced_init
  enables := by
    intro unit
    show false = anyEnabled { enables := 0#32, texture := fun _ => 0#32 }
    decide

/-! ## Calls that change no enable -/

/-- No texture enable changes, neither on the host nor on the client. -/
structure KeepsEnables (caps : HostCaps) (ctx ctx' : Encoder) : Prop where
  host : (ctx'.host caps).enabled = (ctx.host caps).enabled
  client : ∀ unit, (ctx'.tex.unit unit).enables = (ctx.tex.unit unit).enables

theorem KeepsEnables.refl (ctx : Encoder) : KeepsEnables caps ctx ctx := ⟨rfl, fun _ => rfl⟩

theorem KeepsEnables.trans {ctx₁ ctx₂ ctx₃ : Encoder} (h : KeepsEnables caps ctx₁ ctx₂)
    (h' : KeepsEnables caps ctx₂ ctx₃) : KeepsEnables caps ctx₁ ctx₃ where
  host := h'.host.trans h.host
  client := fun unit => (h'.client unit).trans (h.client unit)

theorem TextureInv.of_keepsEnables {ctx' : Encoder} (h : TextureInv caps ctx)
    (hsynced : ctx'.TexturesSynced caps) (hkeep : KeepsEnables caps ctx ctx') :
    TextureInv caps ctx' where
  synced := hsynced
  enables := by
    intro unit
    rw [hkeep.host, h.enables unit]
    exact (anyEnabled_congr (TextureUnit.isEnabled_congr (hkeep.client unit))).symm

/-- A command that changes no enable is sent. -/
theorem keepsEnables_emit {cmd : GLCmd}
    (hcmd : ∀ host : Host, (host.exec caps cmd).enabled = host.enabled) :
    KeepsEnables caps ctx (ctx.emit cmd) where
  host := by
    rw [Encoder.host_emit]
    exact hcmd _
  client := fun _ => rfl

theorem keepsEnables_setTex {tex : TextureState}
    (htex : ∀ unit, (tex.unit unit).enables = (ctx.tex.unit unit).enables) :
    KeepsEnables caps ctx (ctx.setTex tex) where
  host := rfl
  client := htex

theorem bindTexture_enabled (host : Host) (target : GLenum) (texture : GLuint) :
    (host.exec caps (.glBindTexture target texture)).enabled = host.enabled := by
  simp only [Host.exec, Host.bindTexture]
  split
  · rfl
  · split
    · rfl
    · split
      · rfl
      · split
        · rfl
        · rfl

theorem deleteTextures_enabled (host : Host) (textures : List GLuint) :
    (host.exec caps (.glDeleteTextures textures)).enabled = host.enabled := by
  show (textures.foldl Host.deleteTexture host).enabled = host.enabled
  induction textures generalizing host with
  | nil => rfl
  | cons texture rest ih =>
      rw [List.foldl_cons, ih]
      unfold Host.deleteTexture
      split
      · rfl
      · rfl

theorem activeTexture_enabled (host : Host) (texture : GLenum) :
    (host.exec caps (.glActiveTexture texture)).enabled = host.enabled := by
  simp only [Host.exec]
  split
  · rfl
  · rfl

theorem keepsEnables_glActiveTexture (texture : GLenum) :
    KeepsEnables caps ctx (ctx.glActiveTexture texture) := by
  unfold Encoder.glActiveTexture
  rcases setActiveTextureUnit_cases ctx.tex texture with ⟨heq, -⟩ | ⟨unit, -, heq⟩
  · rw [heq]
    exact ⟨rfl, fun _ => rfl⟩
  · rw [heq]
    have hmoved : KeepsEnables caps ctx (ctx.setTex { ctx.tex with activeUnit := unit }) :=
      keepsEnables_setTex fun _ => rfl
    exact hmoved.trans (keepsEnables_emit fun host => activeTexture_enabled host texture)

theorem deleteTextures_enables (tex : TextureState) (textures : List GLuint)
    (unit : Fin MAX_TEXTURE_UNITS) :
    ((tex.deleteTextures textures).unit unit).enables = (tex.unit unit).enables := by
  show ((textures.foldl TextureState.deleteTexture tex).unit unit).enables = _
  induction textures generalizing tex with
  | nil => rfl
  | cons texture rest ih =>
      rw [List.foldl_cons, ih]
      exact TextureState.deleteTexture_enables tex texture unit

theorem keepsEnables_glDeleteTextures (textures : List GLuint) :
    KeepsEnables caps ctx (ctx.glDeleteTextures textures) :=
  (keepsEnables_setTex (deleteTextures_enables ctx.tex textures)).trans
    (keepsEnables_emit fun host => deleteTextures_enabled host textures)

theorem keepsEnables_bind2D (texture : GLuint) :
    KeepsEnables caps ctx (ctx.emit (.glBindTexture GL_TEXTURE_2D texture)) :=
  keepsEnables_emit fun host => bindTexture_enabled host GL_TEXTURE_2D texture

theorem keepsEnables_with2DTextureTarget (target : GLenum) {cmd : GLenum → GLCmd}
    (hcmd : ∀ t, Encoder.NoEffect caps (cmd t)) :
    KeepsEnables caps ctx (ctx.with2DTextureTarget target cmd) := by
  have hsend : ∀ (ctx : Encoder) (t : GLenum), KeepsEnables caps ctx (ctx.emit (cmd t)) :=
    fun ctx t => keepsEnables_emit fun host => congrArg Host.enabled (hcmd t host)
  unfold Encoder.with2DTextureTarget
  split
  · have hoverride : KeepsEnables caps ctx (ctx.override2DTextureTarget target) := by
      unfold Encoder.override2DTextureTarget
      split
      · exact keepsEnables_bind2D _
      · exact KeepsEnables.refl ctx
    exact (hoverride.trans (hsend _ _)).trans (keepsEnables_bind2D _)
  · exact hsend ctx target

theorem keepsEnables_getTexParameter (entry : GetTexParameter) (target pname : GLenum) :
    KeepsEnables caps ctx (ctx.getTexParameter entry target pname) := by
  unfold Encoder.getTexParameter
  exact keepsEnables_with2DTextureTarget target fun _ _ => rfl

theorem keepsEnables_glGetTexParameteriv (target pname : GLenum) :
    KeepsEnables caps ctx (ctx.glGetTexParameteriv target pname).2 := by
  unfold Encoder.glGetTexParameteriv
  split
  · exact KeepsEnables.refl ctx
  · exact keepsEnables_getTexParameter .iv target pname

theorem keepsEnables_texParameter (isValid : GLenum → GLenum → Bool) (target pname : GLenum)
    (value : TexParameterValue) :
    KeepsEnables caps ctx (ctx.texParameter isValid target pname value) := by
  unfold Encoder.texParameter
  split
  · exact ⟨rfl, fun _ => rfl⟩
  · exact keepsEnables_with2DTextureTarget target fun _ _ => rfl

theorem keepsEnables_texImage (target : GLenum) {cmd : GLenum → GLCmd}
    (hcmd : ∀ t, Encoder.NoEffect caps (cmd t)) :
    KeepsEnables caps ctx (ctx.texImage target cmd) := by
  unfold Encoder.texImage
  split
  · exact ⟨rfl, fun _ => rfl⟩
  · exact keepsEnables_with2DTextureTarget target hcmd

theorem keepsEnables_sendBinding (target : GLenum) (texture : GLuint) (firstUse : Bool) :
    KeepsEnables caps ctx (ctx.sendBinding target texture firstUse) := by
  have hdefaults : KeepsEnables caps ctx (ctx.sendExternalDefaults texture) :=
    (((keepsEnables_bind2D texture).trans (keepsEnables_emit fun _ => rfl)).trans
      (keepsEnables_emit fun _ => rfl)).trans (keepsEnables_emit fun _ => rfl)
  unfold Encoder.sendBinding
  split
  · exact keepsEnables_emit fun host => bindTexture_enabled host target texture
  · have hfirst : KeepsEnables caps ctx
        (if target = GL_TEXTURE_EXTERNAL_OES ∧ firstUse = true then
          if target ≠ ctx.tex.getPriorityEnabledTarget GL_TEXTURE_2D then
            (ctx.sendExternalDefaults texture).emit
              (.glBindTexture GL_TEXTURE_2D (ctx.tex.getBoundTexture GL_TEXTURE_2D))
          else ctx.sendExternalDefaults texture
        else ctx) := by
      split
      · split
        · exact hdefaults.trans (keepsEnables_bind2D _)
        · exact hdefaults
      · exact KeepsEnables.refl ctx
    by_cases hpriority : target = ctx.tex.getPriorityEnabledTarget GL_TEXTURE_2D
    · dsimp only
      rw [if_pos hpriority]
      exact hfirst.trans (keepsEnables_bind2D texture)
    · dsimp only
      rw [if_neg hpriority]
      exact hfirst

theorem keepsEnables_glBindTexture (h : ctx.TexturesSynced caps) (realloc : BitVec 32 → Bool)
    (target : GLenum) {texture : GLuint} (hx : texture.toNat < 2 ^ 31) :
    KeepsEnables caps ctx (ctx.glBindTexture realloc target texture) := by
  unfold Encoder.glBindTexture
  rcases Encoder.bindTexture_cases h.wf h.small realloc target hx with ⟨herr, hsame⟩ | ⟨herr, hbound⟩
  · dsimp only
    rw [if_pos herr, hsame]
    exact ⟨rfl, fun _ => rfl⟩
  · dsimp only
    rw [if_neg (not_not.mpr herr)]
    exact (keepsEnables_setTex hbound.enables).trans (keepsEnables_sendBinding _ _ _)

/-! ## `glEnable` and `glDisable` -/

/-- Only the enables of the active unit differ. -/
structure EnablesChanged (tex tex' : TextureState) : Prop where
  textures : tex'.textures = tex.textures
  texture : ∀ unit, (tex'.unit unit).texture = (tex.unit unit).texture
  activeUnit : tex'.activeUnit = tex.activeUnit
  others : ∀ unit, unit ≠ tex.activeUnit → ∀ t,
    (tex'.unit unit).isEnabled t = (tex.unit unit).isEnabled t

theorem enablesChanged_enable (tex : TextureState) (t : TextureTarget) :
    EnablesChanged tex (tex.enableTextureTarget t.glTarget) where
  textures := TextureState.enableTextureTarget_textures tex t
  texture := TextureState.enableTextureTarget_texture tex t
  activeUnit := TextureState.enableTextureTarget_activeUnit tex t
  others := by
    intro unit hunit t'
    rw [TextureState.isEnabled_enableTextureTarget, if_neg (fun hand => hunit hand.1)]

theorem enablesChanged_disable (tex : TextureState) (t : TextureTarget) :
    EnablesChanged tex (tex.disableTextureTarget t.glTarget) where
  textures := TextureState.disableTextureTarget_textures tex t
  texture := TextureState.disableTextureTarget_texture tex t
  activeUnit := TextureState.disableTextureTarget_activeUnit tex t
  others := by
    intro unit hunit t'
    rw [TextureState.isEnabled_disableTextureTarget, if_neg (fun hand => hunit hand.1)]

theorem EnablesChanged.active_eq {tex tex' : TextureState} (h : EnablesChanged tex tex') :
    tex'.active = tex'.unit tex.activeUnit := by
  unfold TextureState.active
  rw [h.activeUnit]

/-- The enables agree, and the bindings of all units but the active one. -/
structure Switched (caps : HostCaps) (ctx : Encoder) : Prop where
  overridden : Overridden ctx.tex (ctx.host caps)
  enables : EnablesAgree ctx.tex (ctx.host caps)

section Switch

variable {tex' : TextureState} (h : TextureInv caps ctx) (hchange : EnablesChanged ctx.tex tex')

include h hchange

theorem TextureInv.overridden_change : Overridden tex' (ctx.host caps) :=
  h.synced.changeEnables hchange.textures hchange.texture hchange.activeUnit
    fun unit hunit => prioritySlot_eq_of_external_eq (hchange.others unit hunit .TEXTURE_EXTERNAL)

/-- As long as a target stays enabled, or none, the host is told nothing. -/
theorem TextureInv.switch_silent (hany : anyEnabled tex'.active = anyEnabled ctx.tex.active) :
    Switched caps (ctx.setTex tex') where
  overridden := h.overridden_change hchange
  enables := by
    intro unit
    show (ctx.host caps).enabled unit.val GL_TEXTURE_2D = anyEnabled (tex'.unit unit)
    rw [h.enables unit]
    by_cases hunit : unit = ctx.tex.activeUnit
    · rw [hchange.active_eq] at hany
      rw [hunit]
      exact hany.symm
    · exact (anyEnabled_congr (hchange.others unit hunit)).symm

/-- The host's `GL_TEXTURE_2D` is switched to what the unit now has. -/
theorem TextureInv.switch_sent {cmd : GLCmd} {on : Bool}
    (hcmd : ∀ host : Host, host.exec caps cmd = host.setEnabled caps GL_TEXTURE_2D on)
    (hany : anyEnabled tex'.active = on) : Switched caps ((ctx.setTex tex').emit cmd) := by
  have hover := h.overridden_change hchange
  have hhost : ((ctx.setTex tex').emit cmd).host caps =
      { ctx.host caps with
        enabled := fun unit target =>
          if unit = (ctx.host caps).activeUnit ∧ target = GL_TEXTURE_2D then on
          else (ctx.host caps).enabled unit target } := by
    rw [Encoder.host_emit, hcmd]
    exact if_pos caps.texture2D
  constructor
  · rw [hhost]
    exact ⟨⟨hover.wf, hover.small, hover.objects⟩, hover.activeUnit, hover.others⟩
  · rw [hhost]
    intro unit
    show (if unit.val = (ctx.host caps).activeUnit ∧ GL_TEXTURE_2D = GL_TEXTURE_2D then on
      else (ctx.host caps).enabled unit.val GL_TEXTURE_2D) = anyEnabled (tex'.unit unit)
    by_cases hunit : unit = ctx.tex.activeUnit
    · rw [hchange.active_eq] at hany
      rw [if_pos ⟨by rw [hunit, h.synced.activeUnit], rfl⟩, hunit]
      exact hany.symm
    · have hother : ¬(unit.val = (ctx.host caps).activeUnit ∧ GL_TEXTURE_2D = GL_TEXTURE_2D) := by
        rintro ⟨hval, -⟩
        rw [h.synced.activeUnit] at hval
        exact hunit (Fin.ext hval)
      rw [if_neg hother, h.enables unit]
      exact (anyEnabled_congr (hchange.others unit hunit)).symm

omit h in
/-- With the same target in priority the active unit still agrees. -/
theorem unitAgrees_of_slot_eq {host : Host} (hagree : UnitAgrees ctx.tex host ctx.tex.activeUnit)
    (hslot : tex'.active.prioritySlot = ctx.tex.active.prioritySlot) :
    UnitAgrees tex' host tex'.activeUnit := by
  rw [hchange.active_eq] at hslot
  unfold UnitAgrees
  rw [hchange.activeUnit, hchange.texture, hslot]
  exact hagree

end Switch

theorem Switched.same (h : Switched caps ctx)
    (hactive : UnitAgrees ctx.tex (ctx.host caps) ctx.tex.activeUnit) : TextureInv caps ctx where
  synced := h.overridden.synced hactive
  enables := h.enables

/-- Binding the texture with priority. -/
theorem Switched.bind (h : Switched caps ctx) {texture : GLuint}
    (htexture : texture = ctx.tex.active.texture ctx.tex.active.prioritySlot) :
    TextureInv caps (ctx.emit (.glBindTexture GL_TEXTURE_2D texture)) where
  synced := by
    unfold Encoder.TexturesSynced
    rw [Encoder.host_emit]
    exact h.overridden.restore htexture
  enables := by
    intro unit
    rw [Encoder.host_emit, bindTexture_enabled]
    exact h.enables unit

/-- Of a call for one of the two targets. -/
theorem tracked_cases (cap : GLenum) :
    (∃ t : TextureTarget, cap = t.glTarget) ∨
      ¬(cap = GL_TEXTURE_2D ∨ cap = GL_TEXTURE_EXTERNAL_OES) := by
  by_cases htwo : cap = GL_TEXTURE_2D
  · exact Or.inl ⟨.TEXTURE_2D, htwo⟩
  · by_cases hext : cap = GL_TEXTURE_EXTERNAL_OES
    · exact Or.inl ⟨.TEXTURE_EXTERNAL, hext⟩
    · exact Or.inr (not_or.mpr ⟨htwo, hext⟩)

/-- Any other capability is passed on. -/
theorem TextureInv.passOn (h : TextureInv caps ctx) {cap : GLenum} (hcap : cap ≠ GL_TEXTURE_2D)
    {cmd : GLCmd} {on : Bool}
    (hcmd : ∀ host : Host, host.exec caps cmd = host.setEnabled caps cap on) :
    TextureInv caps (ctx.emit cmd) := by
  have hother : ∀ unit : Nat, ((ctx.host caps).setEnabled caps cap on).enabled unit GL_TEXTURE_2D =
      (ctx.host caps).enabled unit GL_TEXTURE_2D := by
    intro unit
    unfold Host.setEnabled
    split
    · exact if_neg fun hand => hcap hand.2.symm
    · rfl
  have hsame : Synced ctx.tex ((ctx.host caps).setEnabled caps cap on) := by
    have hsynced : Synced ctx.tex (ctx.host caps) := h.synced
    unfold Host.setEnabled
    split
    · exact ⟨⟨hsynced.wf, hsynced.small, hsynced.objects⟩, hsynced.activeUnit, hsynced.units⟩
    · exact hsynced
  constructor
  · unfold Encoder.TexturesSynced
    rw [Encoder.host_emit, hcmd]
    exact hsame
  · intro unit
    rw [Encoder.host_emit, hcmd, hother]
    exact h.enables unit

/-! ### Disabling -/

/-- While the priority stays, the host need not be told. -/
theorem TextureInv.of_priority_eq (h : TextureInv caps ctx) {tex' : TextureState}
    (hchange : EnablesChanged ctx.tex tex') (hpriority :
      ctx.tex.getPriorityEnabledTarget GL_INVALID_ENUM =
        tex'.getPriorityEnabledTarget GL_INVALID_ENUM) : TextureInv caps (ctx.setTex tex') := by
  obtain ⟨hslot, hany⟩ := eq_of_priority_eq hpriority
  exact (h.switch_silent hchange hany).same
    (unitAgrees_of_slot_eq hchange (h.synced.units _) hslot)

/-- `glDisable` only takes enables away. -/
theorem anyEnabled_of_disable {tex : TextureState} {t : TextureTarget}
    (h : anyEnabled (tex.disableTextureTarget t.glTarget).active = true) :
    anyEnabled tex.active = true := by
  rw [(enablesChanged_disable tex t).active_eq] at h
  have hkept : ∀ t' : TextureTarget,
      ((tex.disableTextureTarget t.glTarget).unit tex.activeUnit).isEnabled t' = true →
        tex.active.isEnabled t' = true := by
    intro t' ht'
    rw [TextureState.isEnabled_disableTextureTarget] at ht'
    split at ht'
    · cases ht'
    · exact ht'
  unfold anyEnabled at h ⊢
  rw [Bool.or_eq_true] at h ⊢
  exact h.imp (hkept _) (hkept _)

theorem TextureInv.s_glDisable (h : TextureInv caps ctx) (cap : GLenum) :
    TextureInv caps (GLEncoder.s_glDisable ctx cap) := by
  unfold GLEncoder.s_glDisable
  rcases tracked_cases cap with ⟨t, rfl⟩ | hcap
  · rw [if_pos t.glTarget_tracked]
    have hchange := enablesChanged_disable ctx.tex t
    have hless : anyEnabled (ctx.tex.disableTextureTarget t.glTarget).active = true →
        anyEnabled ctx.tex.active = true := anyEnabled_of_disable
    dsimp only
    rw [Encoder.setTex_tex]
    generalize ctx.tex.disableTextureTarget t.glTarget = tex' at hchange hless
    by_cases hpriority : ctx.tex.getPriorityEnabledTarget GL_INVALID_ENUM =
        tex'.getPriorityEnabledTarget GL_INVALID_ENUM
    · rw [if_neg (not_not.mpr hpriority)]
      exact h.of_priority_eq hchange hpriority
    · rw [if_pos hpriority]
      have htexture : tex'.getBoundTexture
          (if tex'.getPriorityEnabledTarget GL_INVALID_ENUM = GL_INVALID_ENUM then GL_TEXTURE_2D
            else tex'.getPriorityEnabledTarget GL_INVALID_ENUM) =
          tex'.active.texture tex'.active.prioritySlot :=
        (congrArg tex'.getBoundTexture (getPriorityEnabledTarget_invalid tex'.active)).trans
          (TextureUnit.getBoundTexture_glTarget _ _)
      by_cases hnone : tex'.getPriorityEnabledTarget GL_INVALID_ENUM = GL_INVALID_ENUM
      · -- the last of the two targets was switched off
        have hoff := (getPriorityEnabledTarget_eq_invalid_iff tex'.active).mp hnone
        rw [if_pos hnone] at htexture ⊢
        rw [if_pos hnone]
        exact (h.switch_sent hchange (fun _ => rfl) hoff).bind htexture
      · have hon : anyEnabled tex'.active = true := by
          rw [← Bool.not_eq_false, ← getPriorityEnabledTarget_eq_invalid_iff]
          exact hnone
        rw [if_neg hnone] at htexture ⊢
        rw [if_neg hnone]
        exact (h.switch_silent hchange (hon.trans (hless hon).symm)).bind htexture
  · rw [if_neg hcap]
    exact h.passOn (fun heq => hcap (Or.inl heq)) fun _ => rfl

/-! ### Enabling -/

/-- `glEnable` leaves the target enabled, and whatever was. -/
theorem isEnabled_enable (tex : TextureState) (t : TextureTarget) :
    (tex.enableTextureTarget t.glTarget).active.isEnabled t = true ∧
      ∀ t', tex.active.isEnabled t' = true →
        (tex.enableTextureTarget t.glTarget).active.isEnabled t' = true := by
  rw [(enablesChanged_enable tex t).active_eq]
  constructor
  · rw [TextureState.isEnabled_enableTextureTarget, if_pos ⟨rfl, rfl⟩]
  · intro t' ht'
    rw [TextureState.isEnabled_enableTextureTarget]
    split
    · rfl
    · exact ht'

theorem anyEnabled_of_isEnabled {u : TextureUnit} {t : TextureTarget}
    (h : u.isEnabled t = true) : anyEnabled u = true := by
  unfold anyEnabled
  cases t with
  | TEXTURE_2D => rw [h, Bool.or_true]
  | TEXTURE_EXTERNAL => rw [h, Bool.true_or]

theorem TextureInv.s_glEnable (h : TextureInv caps ctx) (cap : GLenum) :
    TextureInv caps (GLEncoder.s_glEnable ctx cap) := by
  unfold GLEncoder.s_glEnable
  rcases tracked_cases cap with ⟨t, rfl⟩ | hcap
  · rw [if_pos t.glTarget_tracked]
    have hchange := enablesChanged_enable ctx.tex t
    obtain ⟨hself, hmore⟩ := isEnabled_enable ctx.tex t
    have hon := anyEnabled_of_isEnabled hself
    dsimp only
    rw [Encoder.setTex_tex]
    generalize ctx.tex.enableTextureTarget t.glTarget = tex' at hchange hmore hon
    by_cases hpriority : ctx.tex.getPriorityEnabledTarget GL_INVALID_ENUM =
        tex'.getPriorityEnabledTarget GL_INVALID_ENUM
    · rw [if_neg (not_not.mpr hpriority)]
      exact h.of_priority_eq hchange hpriority
    · rw [if_pos hpriority]
      -- the host is told when the first of the two targets is switched on
      obtain ⟨sent, hsent, hswitched, htex, hbinding⟩ : ∃ sent : Encoder,
          (if ctx.tex.getPriorityEnabledTarget GL_INVALID_ENUM = GL_INVALID_ENUM then
            (ctx.setTex tex').emit (.glEnable GL_TEXTURE_2D) else ctx.setTex tex') = sent ∧
          Switched caps sent ∧ sent.tex = tex' ∧
          (sent.host caps).binding = (ctx.host caps).binding := by
        by_cases hnone : ctx.tex.getPriorityEnabledTarget GL_INVALID_ENUM = GL_INVALID_ENUM
        · refine ⟨_, if_pos hnone, h.switch_sent hchange (fun _ => rfl) hon, rfl, ?_⟩
          rw [Encoder.host_emit]
          show ((ctx.host caps).setEnabled caps GL_TEXTURE_2D true).binding = _
          unfold Host.setEnabled
          rw [if_pos caps.texture2D]
        · have hany : anyEnabled ctx.tex.active = true := by
            rw [← Bool.not_eq_false, ← getPriorityEnabledTarget_eq_invalid_iff]
            exact hnone
          exact ⟨_, if_neg hnone, h.switch_silent hchange (hon.trans hany.symm), rfl, rfl⟩
      rw [hsent]
      by_cases hexternal : tex'.getPriorityEnabledTarget GL_INVALID_ENUM = GL_TEXTURE_EXTERNAL_OES
      · rw [if_pos hexternal]
        refine hswitched.bind ?_
        have hslot : tex'.active.prioritySlot = .TEXTURE_EXTERNAL :=
          if_pos ((getPriorityEnabledTarget_eq_external_iff tex'.active).mp hexternal)
        rw [htex, hexternal, hslot]
        exact TextureUnit.getBoundTexture_glTarget tex'.active .TEXTURE_EXTERNAL
      · -- `GL_TEXTURE_2D` had priority already, though it may have been off
        rw [if_neg hexternal]
        have hno := mt (getPriorityEnabledTarget_eq_external_iff tex'.active).mpr hexternal
        have hslot : tex'.active.prioritySlot = ctx.tex.active.prioritySlot := by
          refine prioritySlot_eq_of_external_eq ?_
          rw [Bool.eq_iff_iff]
          exact ⟨fun hyes => absurd hyes hno, fun hyes => absurd (hmore _ hyes) hno⟩
        refine hswitched.same ?_
        have hagree := unitAgrees_of_slot_eq hchange (h.synced.units _) hslot
        rw [htex]
        unfold UnitAgrees
        rw [hbinding]
        exact hagree
  · rw [if_neg hcap]
    exact h.passOn (fun heq => hcap (Or.inl heq)) fun _ => rfl

/-! ## Runs -/

/-- The texture names that a call can bind. -/
def GLEncoder.GLTextureCall.names : GLEncoder.GLTextureCall → List GLuint
  | .glBindTexture _ _ texture => [texture]
  | _ => []

/-- One call. -/
theorem TextureInv.runTextureCall (h : TextureInv caps ctx) {call : GLEncoder.GLTextureCall}
    (hnames : ∀ x ∈ call.names, x.toNat < 2 ^ 31) :
    TextureInv caps (GLEncoder.runTextureCall ctx call) := by
  cases call with
  | glActiveTexture texture =>
      exact h.of_keepsEnables (Encoder.synced_glActiveTexture h.synced texture)
        (keepsEnables_glActiveTexture texture)
  | glBindTexture realloc target texture =>
      have hsmall : texture.toNat < 2 ^ 31 := hnames texture (List.mem_singleton.mpr rfl)
      exact h.of_keepsEnables (Encoder.synced_glBindTexture h.synced realloc target hsmall)
        (keepsEnables_glBindTexture h.synced realloc target hsmall)
  | glDeleteTextures textures =>
      exact h.of_keepsEnables (Encoder.synced_glDeleteTextures h.synced textures)
        (keepsEnables_glDeleteTextures textures)
  | glDisable cap => exact h.s_glDisable cap
  | glEnable cap => exact h.s_glEnable cap
  | glGetTexParameterfv target pname | glGetTexParameterxv target pname =>
      exact h.of_keepsEnables (Encoder.synced_getTexParameter h.synced _ target pname)
        (keepsEnables_getTexParameter _ target pname)
  | glGetTexParameteriv target pname =>
      exact h.of_keepsEnables (Encoder.synced_glGetTexParameteriv h.synced target pname)
        (keepsEnables_glGetTexParameteriv target pname)
  | glTexParameterf target pname _ | glTexParameterfv target pname _
  | glTexParameteri target pname _ | glTexParameterx target pname _
  | glTexParameteriv target pname _ | glTexParameterxv target pname _ =>
      exact h.of_keepsEnables (Encoder.synced_texParameter h.synced _ target pname _)
        (keepsEnables_texParameter _ target pname _)
  | glTexImage2D target | glTexSubImage2D target | glCompressedTexImage2D target
  | glCompressedTexSubImage2D target | glCopyTexImage2D target | glCopyTexSubImage2D target
  | glGenerateMipmapOES target =>
      exact h.of_keepsEnables (Encoder.synced_texImage h.synced target fun _ _ => rfl)
        (keepsEnables_texImage target fun _ _ => rfl)

end GLESv1Enc
end DeviceAndroVM
