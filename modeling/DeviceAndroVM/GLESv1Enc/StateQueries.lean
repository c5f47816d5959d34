import DeviceAndroVM.GLESv1Enc.ClientArrays
import DeviceAndroVM.Library.Significand

/-!
# State queries by four types

`glGetIntegerv`, `glGetFloatv`, `glGetFixedv` and `glGetBooleanv` answer the texture
bindings with a conversion of their own each, and all other client parameters through
`getClientStateParameter<T>`, which assigns to a `T`.

* `s_glGetIntegerv`, `s_glGetFloatv`, `s_glGetFixedv`, `s_glGetBooleanv` — the code.
* `storedValue` — the number that the client state holds for a parameter.
* `QueriesAgree` — the four answers are conversions of one number.
* `queriesAgree_iff` — the numbers for which they are.
-/

namespace DeviceAndroVM
namespace GLESv1Enc

open OpenGL Library OpenglCodecCommon

abbrev GL_TEXTURE_BINDING_2D : GLenum := 0x8069#32
abbrev GL_TEXTURE_BINDING_EXTERNAL_OES : GLenum := 0x8D67#32
abbrev GL_COMPRESSED_TEXTURE_FORMATS : GLenum := 0x86A3#32
abbrev GL_MAX_TEXTURE_UNITS : GLenum := 0x84E2#32

/-- `GLboolean`, an unsigned byte. -/
abbrev GLboolean := BitVec 8

abbrev GL_FALSE : GLboolean := 0#8
abbrev GL_TRUE : GLboolean := 1#8

/-- The number that an integer becomes as a `GLfloat`, which has 24 significant bits. -/
def toGLfloat (n : Int) : Int := roundInt 24 n

/-- The C++ type of the source of an assignment `*ptr = …` of `getClientStateParameter`:
sizes, strides and the local `GLint tex` and `int buffer` are signed, types and buffer names
are not. -/
def parameterIsSigned (param : GLenum) : Bool :=
  match arrayParameters.lookup param with
  | some (_, .type) => false
  | some (_, .bufferObject) => false
  | _ => true

/-- The number in a word of a signed or an unsigned type. -/
def wordValue (isSigned : Bool) (word : BitVec 32) : Int :=
  if isSigned then word.toInt else word.toNat

/-- `GLClientState::getClientStateParameter<T>`, with the conversion that the assignment to
a `T` makes. -/
def getClientStateParameterAs {T : Type} (convert : Int → T) (state : GLClientState)
    (param : GLenum) : Option (Option T) :=
  (state.getClientStateParameter param).map fun answer =>
    answer.map fun word => convert (wordValue (parameterIsSigned param) word)

namespace GLEncoder

variable (ctx : Encoder) (param : GLenum)

/-- `GLEncoder::s_glGetIntegerv`: the value, `some none` where the host is asked, `none` where
`NULL` is dereferenced. -/
def s_glGetIntegerv : Option (Option GLint) :=
  if param = GL_COMPRESSED_TEXTURE_FORMATS then some none
  else if param = GL_MAX_TEXTURE_UNITS then some none
  else if param = GL_TEXTURE_BINDING_2D then
    some (some (ctx.state.tex.getBoundTexture GL_TEXTURE_2D))
  else if param = GL_TEXTURE_BINDING_EXTERNAL_OES then
    some (some (ctx.state.tex.getBoundTexture GL_TEXTURE_EXTERNAL_OES))
  else getClientStateParameterAs (BitVec.ofInt 32) ctx.state param

/-- `GLEncoder::s_glGetFloatv`, by the number that the `GLfloat` stands for. -/
def s_glGetFloatv : Option (Option Int) :=
  if param = GL_COMPRESSED_TEXTURE_FORMATS then some none
  else if param = GL_MAX_TEXTURE_UNITS then some none
  else if param = GL_TEXTURE_BINDING_2D then
    some (some (toGLfloat (ctx.state.tex.getBoundTexture GL_TEXTURE_2D).toNat))
  else if param = GL_TEXTURE_BINDING_EXTERNAL_OES then
    some (some (toGLfloat (ctx.state.tex.getBoundTexture GL_TEXTURE_EXTERNAL_OES).toNat))
  else getClientStateParameterAs toGLfloat ctx.state param

/-- `GLEncoder::s_glGetFixedv`: `GLfixed` is the same C type as `GLint`, so the template is
the same instance. -/
def s_glGetFixedv : Option (Option GLfixed) :=
  if param = GL_COMPRESSED_TEXTURE_FORMATS then some none
  else if param = GL_MAX_TEXTURE_UNITS then some none
  else if param = GL_TEXTURE_BINDING_2D then
    some (some (ctx.state.tex.getBoundTexture GL_TEXTURE_2D <<< 16))
  else if param = GL_TEXTURE_BINDING_EXTERNAL_OES then
    some (some (ctx.state.tex.getBoundTexture GL_TEXTURE_EXTERNAL_OES <<< 16))
  else getClientStateParameterAs (BitVec.ofInt 32) ctx.state param

/-- `GLEncoder::s_glGetBooleanv`. -/
def s_glGetBooleanv : Option (Option GLboolean) :=
  if param = GL_COMPRESSED_TEXTURE_FORMATS then some none
  else if param = GL_TEXTURE_BINDING_2D then
    some (some (if ctx.state.tex.getBoundTexture GL_TEXTURE_2D ≠ 0#32 then GL_TRUE else GL_FALSE))
  else if param = GL_TEXTURE_BINDING_EXTERNAL_OES then
    some (some (if ctx.state.tex.getBoundTexture GL_TEXTURE_EXTERNAL_OES ≠ 0#32 then GL_TRUE
      else GL_FALSE))
  else getClientStateParameterAs (BitVec.ofInt 8) ctx.state param

end GLEncoder

/-! ## The property -/

/-- The parameter is a texture binding. -/
def IsTextureBinding (param : GLenum) : Prop :=
  param = GL_TEXTURE_BINDING_2D ∨ param = GL_TEXTURE_BINDING_EXTERNAL_OES

instance (param : GLenum) : Decidable (IsTextureBinding param) :=
  inferInstanceAs (Decidable (_ ∨ _))

/-- The number that the client state holds for a parameter it answers. -/
def storedValue (state : GLClientState) (param : GLenum) : Option Int :=
  if param = GL_TEXTURE_BINDING_2D then some (state.tex.getBoundTexture GL_TEXTURE_2D).toNat
  else if param = GL_TEXTURE_BINDING_EXTERNAL_OES then
    some (state.tex.getBoundTexture GL_TEXTURE_EXTERNAL_OES).toNat
  else
    match state.getClientStateParameter param with
    | some (some word) => some (wordValue (parameterIsSigned param) word)
    | _ => none

/-- The number has a 16.16 representation. -/
def FitsFixed (n : Int) : Prop := -2 ^ 15 ≤ n ∧ n < 2 ^ 15

instance (n : Int) : Decidable (FitsFixed n) := inferInstanceAs (Decidable (_ ∧ _))

/-- The answer of `glGetIntegerv`, times `2 ^ 16` if that fits from `glGetFixedv`, the same
number from `glGetFloatv`, and `GL_FALSE` from `glGetBooleanv` exactly for 0. -/
def QueriesAgree (ctx : Encoder) (param : GLenum) : Prop :=
  ∃ v fixed float bool,
    GLEncoder.s_glGetIntegerv ctx param = some (some v) ∧
      GLEncoder.s_glGetFixedv ctx param = some (some fixed) ∧
      GLEncoder.s_glGetFloatv ctx param = some (some float) ∧
      GLEncoder.s_glGetBooleanv ctx param = some (some bool) ∧
      (FitsFixed v.toInt → fixed.toInt = v.toInt * 2 ^ 16) ∧
      float = v.toInt ∧ (bool = GL_FALSE ↔ v.toInt = 0)

/-! ## The condition -/

/-- The number is an `int` with at most 24 significant bits.  For any other parameter than
a texture binding it is also 0, or too large for a `GLfixed` and no multiple of 256. -/
def Convertible (param : GLenum) (n : Int) : Prop :=
  n < 2 ^ 31 ∧ Representable 24 n.natAbs ∧
    (IsTextureBinding param ∨ n = 0 ∨ (¬FitsFixed n ∧ n % 256 ≠ 0))

instance (param : GLenum) (n : Int) : Decidable (Convertible param n) :=
  inferInstanceAs (Decidable (_ ∧ _ ∧ _))

/-! ## One number, four conversions -/

variable {n : Int}

/-- A number of a 32-bit word, signed or unsigned, read as an `int`. -/
theorem toInt_ofInt_word (hlow : -2 ^ 31 ≤ n) (hhigh : n < 2 ^ 32) :
    (BitVec.ofInt 32 n).toInt = if n < 2 ^ 31 then n else n - 2 ^ 32 := by
  rw [BitVec.toInt_ofInt, Int.bmod_def]
  split <;> split <;> omega

theorem wordValue_bounds (isSigned : Bool) (word : BitVec 32) :
    -2 ^ 31 ≤ wordValue isSigned word ∧ wordValue isSigned word < 2 ^ 32 := by
  cases isSigned with
  | false =>
      have hlt := word.isLt
      simp only [wordValue, Bool.false_eq_true, if_false]
      omega
  | true =>
      have hlow := word.le_toInt
      have hhigh := word.toInt_lt
      simp only [wordValue, if_true]
      omega

theorem toGLfloat_nonneg (hn : 0 ≤ n) : 0 ≤ toGLfloat n := by
  unfold toGLfloat roundInt
  exact Int.mul_nonneg (Int.sign_nonneg_iff.mpr hn) (Int.natCast_nonneg _)

/-- The `GLfloat` is the number of `glGetIntegerv` when neither conversion changes it. -/
theorem toGLfloat_eq_toInt_iff (hlow : -2 ^ 31 ≤ n) (hhigh : n < 2 ^ 32) :
    toGLfloat n = (BitVec.ofInt 32 n).toInt ↔ n < 2 ^ 31 ∧ Representable 24 n.natAbs := by
  rw [toInt_ofInt_word hlow hhigh]
  by_cases hsmall : n < 2 ^ 31
  · rw [if_pos hsmall]
    simp only [hsmall, true_and]
    exact roundInt_eq_self_iff
  · -- the `int` is negative, the `GLfloat` is not
    rw [if_neg hsmall]
    have hnonneg := toGLfloat_nonneg (n := n) (by omega)
    constructor
    · intro h
      omega
    · intro h
      exact absurd h.1 hsmall

/-- The shifted word is the product, where the product fits. -/
theorem toInt_shiftLeft_of_fitsFixed {word : BitVec 32} (hfits : FitsFixed word.toInt) :
    (word <<< 16).toInt = word.toInt * 2 ^ 16 := by
  unfold FitsFixed at hfits
  rw [BitVec.toInt_shiftLeft, Nat.shiftLeft_eq]
  have hcast : ((word.toNat * 2 ^ 16 : Nat) : Int) = (word.toNat : Int) * 2 ^ 16 := by
    push_cast
    rfl
  rw [hcast, Int.bmod_def]
  rw [BitVec.toInt_eq_toNat_cond] at hfits ⊢
  split at hfits
  · rename_i hlow
    rw [if_pos hlow]
    split <;> omega
  · rename_i hhigh
    rw [if_neg hhigh]
    split <;> omega

/-- The unsigned byte is 0 for the multiples of 256. -/
theorem ofInt_eq_false_iff : BitVec.ofInt 8 n = GL_FALSE ↔ n % 256 = 0 := by
  rw [← BitVec.toNat_inj, BitVec.toNat_ofInt]
  show (n % 256).toNat = 0 ↔ _
  omega

/-- The answers of a texture binding. -/
theorem agree_of_name (word : BitVec 32) :
    ((FitsFixed word.toInt → (word <<< 16).toInt = word.toInt * 2 ^ 16) ∧
      toGLfloat word.toNat = word.toInt ∧
      ((if word ≠ 0#32 then GL_TRUE else GL_FALSE) = GL_FALSE ↔ word.toInt = 0)) ↔
      ((word.toNat : Int) < 2 ^ 31 ∧ Representable 24 word.toNat) := by
  have hlt := word.isLt
  have hfloat := toGLfloat_eq_toInt_iff (n := word.toNat) (by omega) (by omega)
  rw [BitVec.ofInt_natCast, BitVec.ofNat_toNat, BitVec.setWidth_eq, Int.natAbs_natCast] at hfloat
  have hbool : (if word ≠ 0#32 then GL_TRUE else GL_FALSE) = GL_FALSE ↔ word.toInt = 0 := by
    rw [← BitVec.toInt_zero, BitVec.toInt_inj]
    by_cases hzero : word = 0#32
    · simp [hzero]
    · simp [hzero, GL_TRUE, GL_FALSE]
  simp only [hbool, hfloat, and_true]
  exact and_iff_right toInt_shiftLeft_of_fitsFixed

/-- The answers of the template. -/
theorem agree_of_parameter (hlow : -2 ^ 31 ≤ n) (hhigh : n < 2 ^ 32) :
    ((FitsFixed (BitVec.ofInt 32 n).toInt →
        (BitVec.ofInt 32 n).toInt = (BitVec.ofInt 32 n).toInt * 2 ^ 16) ∧
      toGLfloat n = (BitVec.ofInt 32 n).toInt ∧
      (BitVec.ofInt 8 n = GL_FALSE ↔ (BitVec.ofInt 32 n).toInt = 0)) ↔
      (n < 2 ^ 31 ∧ Representable 24 n.natAbs ∧ (n = 0 ∨ (¬FitsFixed n ∧ n % 256 ≠ 0))) := by
  rw [toGLfloat_eq_toInt_iff hlow hhigh, ofInt_eq_false_iff, toInt_ofInt_word hlow hhigh]
  by_cases hsmall : n < 2 ^ 31
  · rw [if_pos hsmall]
    unfold FitsFixed
    constructor
    · rintro ⟨hfixed, ⟨hint, hrepr⟩, hbool⟩
      refine ⟨hint, hrepr, ?_⟩
      by_cases hzero : n = 0
      · exact Or.inl hzero
      · refine Or.inr ⟨?_, fun hmod => hzero (hbool.mp hmod)⟩
        intro hfits
        have hsame := hfixed hfits
        omega
    · rintro ⟨hint, hrepr, hcase⟩
      refine ⟨?_, ⟨hint, hrepr⟩, ?_⟩
      · rintro ⟨hge, hlt⟩
        rcases hcase with hzero | ⟨hfits, -⟩
        · omega
        · exact absurd ⟨hge, hlt⟩ hfits
      · rcases hcase with hzero | ⟨-, hmod⟩
        · omega
        · omega
  · rw [if_neg hsmall]
    constructor
    · intro h
      exact absurd h.2.1.1 hsmall
    · intro h
      exact absurd h.1 hsmall

/-! ## The four queries -/

variable {ctx : Encoder} {param : GLenum}

/-- Four answers that are there agree by their values. -/
theorem queriesAgree_iff_values {v : GLint} {fixed : GLfixed} {float : Int} {bool : GLboolean}
    (hint : GLEncoder.s_glGetIntegerv ctx param = some (some v))
    (hfixed : GLEncoder.s_glGetFixedv ctx param = some (some fixed))
    (hfloat : GLEncoder.s_glGetFloatv ctx param = some (some float))
    (hbool : GLEncoder.s_glGetBooleanv ctx param = some (some bool)) :
    QueriesAgree ctx param ↔
      (FitsFixed v.toInt → fixed.toInt = v.toInt * 2 ^ 16) ∧
        float = v.toInt ∧ (bool = GL_FALSE ↔ v.toInt = 0) := by
  unfold QueriesAgree
  rw [hint, hfixed, hfloat, hbool]
  constructor
  · rintro ⟨_, _, _, _, ⟨⟩, ⟨⟩, ⟨⟩, ⟨⟩, hagree⟩
    exact hagree
  · intro hagree
    exact ⟨v, fixed, float, bool, rfl, rfl, rfl, rfl, hagree⟩

/-- The parameters that the host answers are not in the client state. -/
theorem storedValue_of_host (state : GLClientState)
    (hparam : param = GL_COMPRESSED_TEXTURE_FORMATS ∨ param = GL_MAX_TEXTURE_UNITS) :
    storedValue state param = none := by
  rcases hparam with rfl | rfl <;> rfl

/-- For every parameter that the client answers, the four queries agree if and only if the
stored number is convertible. -/
theorem queriesAgree_iff (hstored : storedValue ctx.state param = some n) :
    QueriesAgree ctx param ↔ Convertible param n := by
  have hhost : param ≠ GL_COMPRESSED_TEXTURE_FORMATS ∧ param ≠ GL_MAX_TEXTURE_UNITS := by
    constructor <;> intro hparam
    · rw [storedValue_of_host _ (Or.inl hparam)] at hstored
      cases hstored
    · rw [storedValue_of_host _ (Or.inr hparam)] at hstored
      cases hstored
  obtain ⟨hformats, hunits⟩ := hhost
  unfold storedValue at hstored
  by_cases htwo : param = GL_TEXTURE_BINDING_2D
  · rw [if_pos htwo] at hstored
    cases hstored
    rw [queriesAgree_iff_values (by simp only [GLEncoder.s_glGetIntegerv, htwo]; rfl)
      (by simp only [GLEncoder.s_glGetFixedv, htwo]; rfl)
      (by simp only [GLEncoder.s_glGetFloatv, htwo]; rfl)
      (by simp only [GLEncoder.s_glGetBooleanv, htwo]; rfl), agree_of_name]
    simp [Convertible, IsTextureBinding, htwo]
  by_cases hexternal : param = GL_TEXTURE_BINDING_EXTERNAL_OES
  · rw [if_neg htwo, if_pos hexternal] at hstored
    cases hstored
    rw [queriesAgree_iff_values (by simp only [GLEncoder.s_glGetIntegerv, hexternal]; rfl)
      (by simp only [GLEncoder.s_glGetFixedv, hexternal]; rfl)
      (by simp only [GLEncoder.s_glGetFloatv, hexternal]; rfl)
      (by simp only [GLEncoder.s_glGetBooleanv, hexternal]; rfl), agree_of_name]
    simp [Convertible, IsTextureBinding, hexternal]
  · rw [if_neg htwo, if_neg hexternal] at hstored
    split at hstored
    · rename_i word hword
      cases hstored
      have hanswer : ∀ {T : Type} (convert : Int → T),
          getClientStateParameterAs convert ctx.state param =
            some (some (convert (wordValue (parameterIsSigned param) word))) := by
        intro T convert
        unfold getClientStateParameterAs
        rw [hword]
        rfl
      obtain ⟨hlow, hhigh⟩ := wordValue_bounds (parameterIsSigned param) word
      have hint : GLEncoder.s_glGetIntegerv ctx param =
          some (some (BitVec.ofInt 32 (wordValue (parameterIsSigned param) word))) := by
        simp [GLEncoder.s_glGetIntegerv, hformats, hunits, htwo, hexternal, hanswer]
      have hfixed : GLEncoder.s_glGetFixedv ctx param =
          some (some (BitVec.ofInt 32 (wordValue (parameterIsSigned param) word))) := by
        simp [GLEncoder.s_glGetFixedv, hformats, hunits, htwo, hexternal, hanswer]
      have hfloat : GLEncoder.s_glGetFloatv ctx param =
          some (some (toGLfloat (wordValue (parameterIsSigned param) word))) := by
        simp [GLEncoder.s_glGetFloatv, hformats, hunits, htwo, hexternal, hanswer]
      have hbool : GLEncoder.s_glGetBooleanv ctx param =
          some (some (BitVec.ofInt 8 (wordValue (parameterIsSigned param) word))) := by
        simp [GLEncoder.s_glGetBooleanv, hformats, htwo, hexternal, hanswer]
      rw [queriesAgree_iff_values hint hfixed hfloat hbool, agree_of_parameter hlow hhigh]
      simp [Convertible, IsTextureBinding, htwo, hexternal]
    · cases hstored

/-- An encoder after `glBindBuffer(GL_ARRAY_BUFFER, name)`. -/
def withArrayBuffer (name : GLuint) : Encoder :=
  let fresh := Encoder.init blank GLSharedGroup.init
  { fresh with state := fresh.state.bindBuffer GL_ARRAY_BUFFER name }

theorem queriesAgree_iff_noBuffer :
    storedValue (withArrayBuffer 0#32).state GL_ARRAY_BUFFER_BINDING = some 0 ∧
      (QueriesAgree (withArrayBuffer 0#32) GL_ARRAY_BUFFER_BINDING ↔
        Convertible GL_ARRAY_BUFFER_BINDING 0) :=
  ⟨rfl, queriesAgree_iff rfl⟩

/-- With buffer 256 bound, `glGetFixedv` returns 256 in place of `256 * 2 ^ 16` and
`glGetBooleanv` returns `GL_FALSE`. -/
theorem not_queriesAgree_buffer256 :
    ¬∀ (ctx : Encoder) (param : GLenum), (storedValue ctx.state param).isSome →
      QueriesAgree ctx param := by
  intro hall
  obtain ⟨v, fixed, float, bool, hint, hfixed, -, -, hagree, -, -⟩ :=
    hall (withArrayBuffer 256#32) GL_ARRAY_BUFFER_BINDING rfl
  have hv : v = 256#32 := (Option.some.inj (Option.some.inj hint)).symm
  have hbad : fixed = 256#32 := (Option.some.inj (Option.some.inj hfixed)).symm
  subst hv hbad
  revert hagree
  decide

end GLESv1Enc
end DeviceAndroVM
