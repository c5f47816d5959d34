import DeviceAndroVM.Library.MachineWords
import DeviceAndroVM.OpenglCodecCommon.TextureTable

/-!
# Enabled targets of a texture unit

`enableTextureTarget` and `disableTextureTarget` change one enable bit of the active
unit and nothing else; the target with priority is read off the bits.
-/

namespace DeviceAndroVM
namespace OpenglCodecCommon

open OpenGL Library

/-! ## The target with priority -/

namespace TextureUnit

/-- The slot of the target that `getPriorityEnabledTarget(GL_TEXTURE_2D)` returns. -/
def prioritySlot (u : TextureUnit) : TextureTarget :=
  if u.isEnabled .TEXTURE_EXTERNAL then .TEXTURE_EXTERNAL else .TEXTURE_2D

theorem getPriorityEnabledTarget_eq (u : TextureUnit) :
    u.getPriorityEnabledTarget GL_TEXTURE_2D = u.prioritySlot.glTarget := by
  unfold getPriorityEnabledTarget prioritySlot
  by_cases hext : u.isEnabled .TEXTURE_EXTERNAL = true
  · simp [hext, TextureTarget.glTarget]
  · by_cases h2d : u.isEnabled .TEXTURE_2D = true
    · simp [hext, h2d, TextureTarget.glTarget]
    · simp [hext, h2d, TextureTarget.glTarget]

@[simp] theorem getBoundTexture_glTarget (u : TextureUnit) (t : TextureTarget) :
    u.getBoundTexture t.glTarget = u.texture t := by
  unfold getBoundTexture
  rw [(TextureState.ofGLenum?_eq_some_iff _ t).mpr rfl]

theorem isEnabled_congr {u u' : TextureUnit} (h : u'.enables = u.enables)
    (t : TextureTarget) : u'.isEnabled t = u.isEnabled t := by
  unfold isEnabled
  rw [h]

theorem prioritySlot_congr {u u' : TextureUnit} (h : u'.enables = u.enables) :
    u'.prioritySlot = u.prioritySlot := by
  unfold prioritySlot
  rw [isEnabled_congr h]

end TextureUnit

namespace TextureTarget

theorem glTarget_tracked (t : TextureTarget) :
    t.glTarget = GL_TEXTURE_2D ∨ t.glTarget = GL_TEXTURE_EXTERNAL_OES := by
  cases t with
  | TEXTURE_2D => exact Or.inl rfl
  | TEXTURE_EXTERNAL => exact Or.inr rfl

/-- The test with which the encoders pass on the other targets. -/
theorem not_untracked (t : TextureTarget) :
    ¬(t.glTarget ≠ GL_TEXTURE_2D ∧ t.glTarget ≠ GL_TEXTURE_EXTERNAL_OES) := by
  rintro ⟨htwo, hexternal⟩
  exact t.glTarget_tracked.elim htwo hexternal

/-- The bit of a slot in `enables`. -/
def mask (t : TextureTarget) : BitVec 32 := 1#32 <<< t.toNat

theorem mask_ne_zero (t : TextureTarget) : t.mask ≠ 0#32 := by
  cases t <;> decide

theorem mask_disjoint {t t' : TextureTarget} (h : t ≠ t') : t.mask &&& t'.mask = 0#32 := by
  cases t <;> cases t' <;> first | decide | exact absurd rfl h

end TextureTarget

namespace TextureState

theorem enableTextureTarget_eq (tex : TextureState) (t : TextureTarget) :
    tex.enableTextureTarget t.glTarget =
      tex.setActive { tex.active with enables := tex.active.enables ||| t.mask } := by
  unfold enableTextureTarget
  rw [(ofGLenum?_eq_some_iff _ t).mpr rfl]
  rfl

theorem disableTextureTarget_eq (tex : TextureState) (t : TextureTarget) :
    tex.disableTextureTarget t.glTarget =
      tex.setActive { tex.active with enables := tex.active.enables &&& ~~~t.mask } := by
  unfold disableTextureTarget
  rw [(ofGLenum?_eq_some_iff _ t).mpr rfl]
  rfl

@[simp] theorem enableTextureTarget_activeUnit (tex : TextureState) (t : TextureTarget) :
    (tex.enableTextureTarget t.glTarget).activeUnit = tex.activeUnit := by
  rw [enableTextureTarget_eq]
  rfl

@[simp] theorem disableTextureTarget_activeUnit (tex : TextureState) (t : TextureTarget) :
    (tex.disableTextureTarget t.glTarget).activeUnit = tex.activeUnit := by
  rw [disableTextureTarget_eq]
  rfl

@[simp] theorem enableTextureTarget_textures (tex : TextureState) (t : TextureTarget) :
    (tex.enableTextureTarget t.glTarget).textures = tex.textures := by
  rw [enableTextureTarget_eq]
  rfl

@[simp] theorem disableTextureTarget_textures (tex : TextureState) (t : TextureTarget) :
    (tex.disableTextureTarget t.glTarget).textures = tex.textures := by
  rw [disableTextureTarget_eq]
  rfl

/-- Changing the enables of the active unit keeps all bindings. -/
theorem setActive_enables_texture (tex : TextureState) (enables : BitVec 32)
    (unit : Fin MAX_TEXTURE_UNITS) :
    ((tex.setActive { tex.active with enables := enables }).unit unit).texture =
      (tex.unit unit).texture := by
  rw [setActive_unit]
  split
  · rename_i hunit
    rw [hunit]
    rfl
  · rfl

@[simp] theorem enableTextureTarget_texture (tex : TextureState) (t : TextureTarget)
    (unit : Fin MAX_TEXTURE_UNITS) :
    ((tex.enableTextureTarget t.glTarget).unit unit).texture = (tex.unit unit).texture := by
  rw [enableTextureTarget_eq]
  exact setActive_enables_texture tex _ unit

@[simp] theorem disableTextureTarget_texture (tex : TextureState) (t : TextureTarget)
    (unit : Fin MAX_TEXTURE_UNITS) :
    ((tex.disableTextureTarget t.glTarget).unit unit).texture = (tex.unit unit).texture := by
  rw [disableTextureTarget_eq]
  exact setActive_enables_texture tex _ unit

/-- Enabling a target sets its own bit on the active unit. -/
theorem isEnabled_enableTextureTarget (tex : TextureState) (t t' : TextureTarget)
    (unit : Fin MAX_TEXTURE_UNITS) :
    ((tex.enableTextureTarget t.glTarget).unit unit).isEnabled t' =
      if unit = tex.activeUnit ∧ t' = t then true else (tex.unit unit).isEnabled t' := by
  rw [enableTextureTarget_eq, setActive_unit]
  by_cases hunit : unit = tex.activeUnit
  · rw [if_pos hunit, hunit]
    show hasFlag (tex.active.enables ||| t.mask) t'.mask = _
    by_cases ht : t' = t
    · rw [if_pos ⟨rfl, ht⟩, ht]
      exact hasFlag_setFlag t.mask_ne_zero
    · rw [if_neg (fun hand => ht hand.2)]
      exact hasFlag_setFlag_of_disjoint (TextureTarget.mask_disjoint (Ne.symm ht))
  · rw [if_neg hunit, if_neg (fun hand => hunit hand.1)]

/-- Disabling a target clears its own bit on the active unit. -/
theorem isEnabled_disableTextureTarget (tex : TextureState) (t t' : TextureTarget)
    (unit : Fin MAX_TEXTURE_UNITS) :
    ((tex.disableTextureTarget t.glTarget).unit unit).isEnabled t' =
      if unit = tex.activeUnit ∧ t' = t then false else (tex.unit unit).isEnabled t' := by
  rw [disableTextureTarget_eq, setActive_unit]
  by_cases hunit : unit = tex.activeUnit
  · rw [if_pos hunit, hunit]
    show hasFlag (tex.active.enables &&& ~~~t.mask) t'.mask = _
    by_cases ht : t' = t
    · rw [if_pos ⟨rfl, ht⟩, ht]
      exact hasFlag_clearFlag _ _
    · rw [if_neg (fun hand => ht hand.2)]
      exact hasFlag_clearFlag_of_disjoint (TextureTarget.mask_disjoint (Ne.symm ht))
  · rw [if_neg hunit, if_neg (fun hand => hunit hand.1)]

/-- The invariant of the table is about names and bindings only. -/
theorem WF.of_texture_eq {tex tex' : TextureState} (h : tex.WF)
    (htextures : tex'.textures = tex.textures)
    (htexture : ∀ unit, (tex'.unit unit).texture = (tex.unit unit).texture) : tex'.WF where
  ordered := by
    rw [htextures]
    exact h.ordered
  nonzero := by
    rw [htextures]
    exact h.nonzero
  recorded := by
    intro unit t hne
    rw [htexture] at hne ⊢
    rw [htextures]
    exact h.recorded unit t hne

end TextureState

end OpenglCodecCommon
end DeviceAndroVM
