import DeviceAndroVM.EGL.ConfigBounds

/-!
# The two pixel formats of a config

`getConfigNativePixelFormat` and `getConfigGLPixelFormat` decide over the same four sizes.

* `ChannelLayout` — what a pixel format stands for, by its native and by its GL name.
* `nativePixelFormat_eq`, `glPixelFormat_eq` — both chains by the layout of the sizes.
* `formatsAgree_iff` — the configs on which they agree.
-/

namespace DeviceAndroVM
namespace EGL

open ConfigDisplay

/-- The order and the widths of the channels of a pixel. -/
inductive ChannelLayout
  | RGBA_8888
  | RGBX_8888
  | RGB_565
  | RGBA_5551
  | RGBA_4444
  deriving DecidableEq

namespace ChannelLayout

/-- The native name of a layout. -/
def native : ChannelLayout → EGLint
  | RGBA_8888 => PIXEL_FORMAT_RGBA_8888
  | RGBX_8888 => PIXEL_FORMAT_RGBX_8888
  | RGB_565 => PIXEL_FORMAT_RGB_565
  | RGBA_5551 => PIXEL_FORMAT_RGBA_5551
  | RGBA_4444 => PIXEL_FORMAT_RGBA_4444

/-- The GL name of a layout. -/
def gl : ChannelLayout → EGLint
  | RGBA_8888 => GL_RGBA
  | RGBX_8888 => GL_RGB
  | RGB_565 => GL_RGB565_OES
  | RGBA_5551 => GL_RGB5_A1_OES
  | RGBA_4444 => GL_RGBA4_OES

/-- The layout of the sizes of the channels. -/
def ofSizes (s : ChannelSizes) : Option ChannelLayout :=
  if s.redSize = 8 ∧ s.greenSize = 8 ∧ s.blueSize = 8 ∧ s.alphaSize = 8 then some RGBA_8888
  else if s.redSize = 8 ∧ s.greenSize = 8 ∧ s.blueSize = 8 ∧ s.alphaSize = 0 then some RGBX_8888
  else if s.redSize = 5 ∧ s.greenSize = 6 ∧ s.blueSize = 5 ∧ s.alphaSize = 0 then some RGB_565
  else if s.redSize = 5 ∧ s.greenSize = 5 ∧ s.blueSize = 5 ∧ s.alphaSize = 1 then some RGBA_5551
  else if s.redSize = 4 ∧ s.greenSize = 4 ∧ s.blueSize = 4 ∧ s.alphaSize = 4 then some RGBA_4444
  else none

end ChannelLayout

/-- Both results denote one layout. -/
def SameLayout (native gl : EGLint) : Prop :=
  ∃ layout : ChannelLayout, native = layout.native ∧ gl = layout.gl

/-- One function succeeds if the other does, and their results denote one layout. -/
def SameResult (native gl : Option EGLint) : Prop :=
  (gl.isSome ↔ native.isSome) ∧ ∀ n g, native = some n → gl = some g → SameLayout n g

/-- The sizes that only the GL chain accepts, by its two tests for the blue channel. -/
def GreenIgnored (s : ChannelSizes) : Prop :=
  s.redSize = 8 ∧ s.greenSize ≠ 8 ∧ s.blueSize = 8 ∧ s.alphaSize = 8

instance decidableGreenIgnored (s : ChannelSizes) : Decidable (GreenIgnored s) :=
  inferInstanceAs (Decidable (_ ∧ _ ∧ _ ∧ _))

variable {s : ChannelSizes}

theorem nativePixelFormat_eq (s : ChannelSizes) :
    nativePixelFormat s = (ChannelLayout.ofSizes s).map ChannelLayout.native := by
  unfold nativePixelFormat ChannelLayout.ofSizes
  split_ifs <;> rfl

theorem glPixelFormat_eq (h : ¬GreenIgnored s) :
    glPixelFormat s = (ChannelLayout.ofSizes s).map ChannelLayout.gl := by
  have hfirst : s.redSize = 8 ∧ s.blueSize = 8 ∧ s.blueSize = 8 ∧ s.alphaSize = 8 ↔
      s.redSize = 8 ∧ s.greenSize = 8 ∧ s.blueSize = 8 ∧ s.alphaSize = 8 := by
    constructor
    · rintro ⟨hred, hblue, -, halpha⟩
      exact ⟨hred, not_not.mp fun hgreen => h ⟨hred, hgreen, hblue, halpha⟩, hblue, halpha⟩
    · rintro ⟨hred, -, hblue, halpha⟩
      exact ⟨hred, hblue, hblue, halpha⟩
  unfold glPixelFormat ChannelLayout.ofSizes
  rw [if_congr hfirst rfl rfl]
  split_ifs <;> rfl

/-- The native chain has no result where the GL chain ignores the green channel. -/
theorem nativePixelFormat_of_greenIgnored (h : GreenIgnored s) : nativePixelFormat s = none := by
  obtain ⟨red, green, blue, alpha⟩ := s
  obtain ⟨rfl, hgreen, rfl, rfl⟩ := h
  have hgreen : ¬green = 8#32 := hgreen
  simp [nativePixelFormat, hgreen]

/-- The two chains agree on all other sizes. -/
theorem sameResult_iff : SameResult (nativePixelFormat s) (glPixelFormat s) ↔ ¬GreenIgnored s := by
  constructor
  · rintro ⟨hsome, -⟩ h
    have hgl : glPixelFormat s = some GL_RGBA := if_pos ⟨h.1, h.2.2.1, h.2.2.1, h.2.2.2⟩
    rw [hgl, nativePixelFormat_of_greenIgnored h] at hsome
    exact absurd (hsome.mp rfl) Bool.false_ne_true
  · intro h
    rw [nativePixelFormat_eq, glPixelFormat_eq h]
    refine ⟨by simp, ?_⟩
    intro n g hn hg
    obtain ⟨layout, hlayout, rfl⟩ := Option.map_eq_some_iff.mp hn
    rw [hlayout] at hg
    cases hg
    exact ⟨layout, rfl, rfl⟩

/-- For every config of every display whose channel sizes can be read, the two functions give the
same result if and only if it is not so that red, blue and alpha have 8 bits and green has not. -/
theorem formatsAgree_iff (d : ConfigDisplay) (config : EGLint) :
    (∀ native gl, d.getConfigNativePixelFormat config = some native →
        d.getConfigGLPixelFormat config = some gl → SameResult native gl) ↔
      ∀ sizes, d.channelSizes config = some (some sizes) → ¬GreenIgnored sizes := by
  unfold getConfigNativePixelFormat getConfigGLPixelFormat
  cases d.channelSizes config with
  | none => simp
  | some read =>
      cases read with
      | none => simp [SameResult]
      | some sizes =>
          simp only [Option.map_some, Option.some.injEq, Option.bind_some, forall_eq']
          constructor
          · exact fun h => sameResult_iff.mp (h _ _ rfl rfl)
          · rintro h native gl rfl rfl
            exact sameResult_iff.mpr h

/-- The display of a host whose only config has 8, 6, 8 and 8 bits. -/
def greenSixDisplay : ConfigDisplay :=
  (new.initializeAll [oneConfig [(EGL_RED_SIZE, 8), (EGL_GREEN_SIZE, 6), (EGL_BLUE_SIZE, 8),
    (EGL_ALPHA_SIZE, 8)]]).getD new

/-- It is `GL_RGBA` for the one function, and no format for the other. -/
theorem not_formatsAgree_greenSix :
    greenSixDisplay.channelSizes 0 = some (some ⟨8, 6, 8, 8⟩) ∧
      ¬∀ native gl, greenSixDisplay.getConfigNativePixelFormat 0 = some native →
        greenSixDisplay.getConfigGLPixelFormat 0 = some gl → SameResult native gl := by
  have hsizes : greenSixDisplay.channelSizes 0 = some (some ⟨8, 6, 8, 8⟩) := by rfl
  have hnative : greenSixDisplay.getConfigNativePixelFormat 0 =
      some (nativePixelFormat ⟨8, 6, 8, 8⟩) := by
    rw [getConfigNativePixelFormat, hsizes]
    rfl
  have hgl : greenSixDisplay.getConfigGLPixelFormat 0 = some (glPixelFormat ⟨8, 6, 8, 8⟩) := by
    rw [getConfigGLPixelFormat, hsizes]
    rfl
  exact ⟨hsizes, fun h => sameResult_iff.mp (h _ _ hnative hgl) (by decide)⟩

end EGL
end DeviceAndroVM
