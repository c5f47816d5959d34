import DeviceAndroVM.Library.RoundUp
import DeviceAndroVM.Library.Transition
import DeviceAndroVM.OpenGL.Types

/-!
# The size of client pixel data

How many bytes `glTexImage2D`, `glTexSubImage2D` and `glReadPixels` move is computed by
`GLClientState::pixelDataSize` from the pixel-store alignment and the bits per pixel of
`glUtilsPixelBitSize`.

* `PixelStoreState`, `setPixelStore`, `pixelDataSize` — the code, with the sums and
  products of the 32-bit target.
* `bytesPerPixel`, `imageSize` — what a pixel and an image of a format take.
* `bytesPerPixel_cases` — the table is right, or leaves out the component count.
* `pixelDataSize_eq_imageSize_iff` — which images get the right size.
-/

namespace DeviceAndroVM
namespace OpenglCodecCommon

open OpenGL Library

/-! ## Enumerants -/

abbrev GL_UNPACK_ALIGNMENT : GLenum := 0x0CF5#32
abbrev GL_PACK_ALIGNMENT : GLenum := 0x0D05#32
abbrev GL_UNSIGNED_INT : GLenum := 0x1405#32
abbrev GL_UNSIGNED_SHORT_5_6_5 : GLenum := 0x8363#32
abbrev GL_UNSIGNED_SHORT_4_4_4_4 : GLenum := 0x8033#32
abbrev GL_UNSIGNED_SHORT_5_5_5_1 : GLenum := 0x8034#32
abbrev GL_RGB565_OES : GLenum := 0x8D62#32
abbrev GL_RGB5_A1_OES : GLenum := 0x8057#32
abbrev GL_RGBA4_OES : GLenum := 0x8056#32
abbrev GL_UNSIGNED_INT_24_8_OES : GLenum := 0x84FA#32
abbrev GL_DEPTH_COMPONENT : GLenum := 0x1902#32
abbrev GL_ALPHA : GLenum := 0x1906#32
abbrev GL_RGB : GLenum := 0x1907#32
abbrev GL_RGBA : GLenum := 0x1908#32
abbrev GL_LUMINANCE : GLenum := 0x1909#32
abbrev GL_LUMINANCE_ALPHA : GLenum := 0x190A#32
abbrev GL_DEPTH_STENCIL_OES : GLenum := 0x84F9#32
abbrev GL_BGRA_EXT : GLenum := 0x80E1#32

/-! ## The code -/

/-- `GLClientState::PixelStoreState`. -/
structure PixelStoreState where
  unpack_alignment : GLint
  pack_alignment : GLint
  deriving DecidableEq

namespace PixelStoreState

/-- The alignments of a new `GLClientState`. -/
def init : PixelStoreState where
  unpack_alignment := 4#32
  pack_alignment := 4#32

/-- `GLClientState::setPixelStore`. -/
def setPixelStore (store : PixelStoreState) (param : GLenum) (value : GLint) :
    GLenum × PixelStoreState :=
  if param = GL_UNPACK_ALIGNMENT then
    if value = 1#32 ∨ value = 2#32 ∨ value = 4#32 ∨ value = 8#32 then
      (0#32, { store with unpack_alignment := value })
    else (GL_INVALID_VALUE, store)
  else if param = GL_PACK_ALIGNMENT then
    if value = 1#32 ∨ value = 2#32 ∨ value = 4#32 ∨ value = 8#32 then
      (0#32, { store with pack_alignment := value })
    else (GL_INVALID_VALUE, store)
  else (GL_INVALID_ENUM, store)

/-- The alignment that a transfer uses. -/
def alignment (store : PixelStoreState) (pack : Bool) : GLint :=
  if pack then store.pack_alignment else store.unpack_alignment

end PixelStoreState

/-- The components of a format, the second `switch` of `glUtilsPixelBitSize`; 0 for a
format it does not know. -/
def formatComponents (format : GLenum) : Nat :=
  if format ∈ [GL_ALPHA, GL_LUMINANCE, GL_DEPTH_COMPONENT, GL_DEPTH_STENCIL_OES] then 1
  else if format = GL_LUMINANCE_ALPHA then 2
  else if format = GL_RGB then 3
  else if format ∈ [GL_RGBA, GL_BGRA_EXT] then 4
  else 0

/-- `glUtilsPixelBitSize`. -/
def glUtilsPixelBitSize (format type : GLenum) : Nat :=
  let componentsize := if type ∈ [GL_BYTE, GL_UNSIGNED_BYTE] then 8 else 0
  let pixelsize :=
    if type ∈ [GL_SHORT, GL_UNSIGNED_SHORT, GL_UNSIGNED_SHORT_5_6_5, GL_UNSIGNED_SHORT_4_4_4_4,
      GL_UNSIGNED_SHORT_5_5_5_1, GL_RGB565_OES, GL_RGB5_A1_OES, GL_RGBA4_OES] then 16
    else if type ∈ [GL_INT, GL_UNSIGNED_INT, GL_FLOAT, GL_FIXED, GL_UNSIGNED_INT_24_8_OES] then 32
    else 0
  if pixelsize = 0 then formatComponents format * componentsize else pixelsize

/-- `GLClientState::pixelDataSize`. -/
def PixelStoreState.pixelDataSize (store : PixelStoreState) (width height : GLint)
    (format type : GLenum) (pack : Bool) : BitVec 32 :=
  let pixelsize : GLint := BitVec.ofNat 32 (glUtilsPixelBitSize format type >>> 3)
  let alignment := store.alignment pack
  let linesize := pixelsize * width
  let aligned_linesize := linesize / alignment * alignment
  if aligned_linesize < linesize then (aligned_linesize + alignment) * height
  else aligned_linesize * height

/-! ## What an image takes -/

/-- The bytes of one component, for a type that has one value for each component. -/
def componentBytes (type : GLenum) : Option Nat :=
  if type ∈ [GL_BYTE, GL_UNSIGNED_BYTE] then some 1
  else if type ∈ [GL_SHORT, GL_UNSIGNED_SHORT] then some 2
  else if type ∈ [GL_INT, GL_UNSIGNED_INT, GL_FLOAT, GL_FIXED] then some 4
  else none

/-- The types that pack all components of a pixel into 16 bits. -/
def PackedShort (type : GLenum) : Prop :=
  type ∈ [GL_UNSIGNED_SHORT_5_6_5, GL_UNSIGNED_SHORT_4_4_4_4, GL_UNSIGNED_SHORT_5_5_5_1,
    GL_RGB565_OES, GL_RGB5_A1_OES, GL_RGBA4_OES]

instance (type : GLenum) : Decidable (PackedShort type) :=
  inferInstanceAs (Decidable (_ ∈ _))

/-- The bytes of one pixel, where format and type are in the tables. -/
def bytesPerPixel (format type : GLenum) : Option Nat :=
  if formatComponents format = 0 then none
  else if PackedShort type then some 2
  else (componentBytes type).map (formatComponents format * ·)

/-- The bytes of an image: `height` lines, each rounded up to the alignment. -/
def imageSize (width height bytes alignment : Nat) : Nat :=
  height * roundUp (width * bytes) alignment

/-! ## The alignments -/

namespace PixelStoreState

/-- An alignment that `setPixelStore` accepts. -/
def IsAlignment (value : GLint) : Prop :=
  value = 1#32 ∨ value = 2#32 ∨ value = 4#32 ∨ value = 8#32

/-- Both alignments of the state are accepted ones. -/
structure Valid (store : PixelStoreState) : Prop where
  unpack : IsAlignment store.unpack_alignment
  pack : IsAlignment store.pack_alignment

theorem valid_init : init.Valid where
  unpack := Or.inr (Or.inr (Or.inl rfl))
  pack := Or.inr (Or.inr (Or.inl rfl))

theorem Valid.setPixelStore {store : PixelStoreState} (h : store.Valid) (param : GLenum)
    (value : GLint) : (store.setPixelStore param value).2.Valid := by
  unfold PixelStoreState.setPixelStore
  split
  · split
    · exact ⟨‹_›, h.pack⟩
    · exact h
  · split
    · split
      · exact ⟨h.unpack, ‹_›⟩
      · exact h
    · exact h

theorem Valid.alignment {store : PixelStoreState} (h : store.Valid) (pack : Bool) :
    IsAlignment (store.alignment pack) := by
  cases pack with
  | false => exact h.unpack
  | true => exact h.pack

/-- The state after a sequence of `glPixelStorei` calls. -/
def run (store : PixelStoreState) (call : GLenum × GLint) : PixelStoreState :=
  (store.setPixelStore call.1 call.2).2

theorem valid_run (calls : List (GLenum × GLint)) :
    (endState init (traceOf run init calls)).Valid := by
  refine (run_traceOf run init calls).inv_endState ?_ valid_init
  rintro store call _ h rfl
  exact h.setPixelStore call.1 call.2

end PixelStoreState

theorem PixelStoreState.IsAlignment.toNat_bounds {value : GLint}
    (h : PixelStoreState.IsAlignment value) : 0 < value.toNat ∧ value.toNat ≤ 8 := by
  rcases h with rfl | rfl | rfl | rfl <;> decide

/-! ## The table -/

/-- The types whose size the table gives for the whole pixel although they describe one
component. -/
def WideComponent (type : GLenum) : Prop :=
  type ∈ [GL_SHORT, GL_UNSIGNED_SHORT, GL_INT, GL_UNSIGNED_INT, GL_FLOAT, GL_FIXED]

instance (type : GLenum) : Decidable (WideComponent type) :=
  inferInstanceAs (Decidable (_ ∈ _))

theorem formatComponents_le (format : GLenum) : formatComponents format ≤ 4 := by
  unfold formatComponents
  split_ifs <;> omega

theorem glUtilsPixelBitSize_of_byte {type : GLenum} (htype : type ∈ [GL_BYTE, GL_UNSIGNED_BYTE])
    (format : GLenum) :
    glUtilsPixelBitSize format type = formatComponents format * 8 ∧ ¬WideComponent type := by
  simp only [List.mem_cons, List.not_mem_nil, or_false] at htype
  rcases htype with rfl | rfl <;> exact ⟨rfl, by decide⟩

theorem glUtilsPixelBitSize_of_packedShort {type : GLenum} (htype : PackedShort type)
    (format : GLenum) : glUtilsPixelBitSize format type = 16 ∧ ¬WideComponent type := by
  simp only [PackedShort, List.mem_cons, List.not_mem_nil, or_false] at htype
  rcases htype with rfl | rfl | rfl | rfl | rfl | rfl <;> exact ⟨rfl, by decide⟩

theorem glUtilsPixelBitSize_of_short {type : GLenum} (htype : type ∈ [GL_SHORT, GL_UNSIGNED_SHORT])
    (format : GLenum) : glUtilsPixelBitSize format type = 16 ∧ WideComponent type := by
  simp only [List.mem_cons, List.not_mem_nil, or_false] at htype
  rcases htype with rfl | rfl <;> exact ⟨rfl, by decide⟩

theorem glUtilsPixelBitSize_of_word {type : GLenum}
    (htype : type ∈ [GL_INT, GL_UNSIGNED_INT, GL_FLOAT, GL_FIXED]) (format : GLenum) :
    glUtilsPixelBitSize format type = 32 ∧ WideComponent type := by
  simp only [List.mem_cons, List.not_mem_nil, or_false] at htype
  rcases htype with rfl | rfl | rfl | rfl <;> exact ⟨rfl, by decide⟩

/-- The table has the bytes of a pixel, or for a wide component type those of one
component only. -/
theorem bytesPerPixel_cases {format type : GLenum} {bytes : Nat}
    (hbytes : bytesPerPixel format type = some bytes) :
    0 < glUtilsPixelBitSize format type >>> 3 ∧ bytes ≤ 16 ∧ formatComponents format ≠ 0 ∧
      bytes = (if WideComponent type then formatComponents format else 1) *
        (glUtilsPixelBitSize format type >>> 3) := by
  have hle := formatComponents_le format
  unfold bytesPerPixel at hbytes
  split at hbytes
  · cases hbytes
  · rename_i hformat
    split at hbytes
    · rename_i hpacked
      obtain ⟨hbits, hwide⟩ := glUtilsPixelBitSize_of_packedShort hpacked format
      cases hbytes
      rw [hbits, if_neg hwide]
      exact ⟨by decide, by decide, hformat, rfl⟩
    · obtain ⟨size, hsize, rfl⟩ := Option.map_eq_some_iff.mp hbytes
      unfold componentBytes at hsize
      split at hsize
      · rename_i htype
        obtain ⟨hbits, hwide⟩ := glUtilsPixelBitSize_of_byte htype format
        cases hsize
        rw [hbits, if_neg hwide, Nat.shiftRight_eq_div_pow]
        omega
      · split at hsize
        · rename_i htype
          obtain ⟨hbits, hwide⟩ := glUtilsPixelBitSize_of_short htype format
          cases hsize
          rw [hbits, if_pos hwide]
          exact ⟨by decide, by omega, hformat, rfl⟩
        · split at hsize
          · rename_i htype
            obtain ⟨hbits, hwide⟩ := glUtilsPixelBitSize_of_word htype format
            cases hsize
            rw [hbits, if_pos hwide]
            exact ⟨by decide, by omega, hformat, rfl⟩
          · cases hsize

/-! ## The size -/

namespace PixelStoreState

/-- Where the image the code has in mind fits the word, nothing wraps. -/
theorem pixelDataSize_toNat (store : PixelStoreState) {width height : GLint}
    {format type : GLenum} {pack : Bool} (halign : IsAlignment (store.alignment pack))
    (hbits : glUtilsPixelBitSize format type >>> 3 < 2 ^ 31)
    (hfits : height ≠ 0#32 →
      imageSize width.toNat height.toNat (glUtilsPixelBitSize format type >>> 3)
        (store.alignment pack).toNat < 2 ^ 31) :
    (store.pixelDataSize width height format type pack).toNat =
      imageSize width.toNat height.toNat (glUtilsPixelBitSize format type >>> 3)
        (store.alignment pack).toNat := by
  by_cases hzero : height = 0#32
  · subst hzero
    simp [pixelDataSize, imageSize]
  have hheight : 0 < height.toNat := by
    rw [Nat.pos_iff_ne_zero]
    exact fun h => hzero (BitVec.eq_of_toNat_eq h)
  have hfits := hfits hzero
  obtain ⟨hpos, hle⟩ := halign.toNat_bounds
  unfold pixelDataSize
  unfold imageSize at hfits ⊢
  dsimp only
  generalize glUtilsPixelBitSize format type >>> 3 = pixelsize at hbits hfits ⊢
  generalize store.alignment pack = alignment at hpos hle hfits ⊢
  have hline : roundUp (width.toNat * pixelsize) alignment.toNat < 2 ^ 31 :=
    lt_of_le_of_lt (Nat.le_mul_of_pos_left _ hheight) hfits
  have hwhole : width.toNat * pixelsize < 2 ^ 31 := lt_of_le_of_lt (le_roundUp hpos) hline
  have hlinesize : (BitVec.ofNat 32 pixelsize * width).toNat = width.toNat * pixelsize := by
    rw [BitVec.toNat_mul, BitVec.toNat_ofNat, Nat.mod_eq_of_lt (by omega : pixelsize < 2 ^ 32),
      Nat.mul_comm, Nat.mod_eq_of_lt (by omega)]
  have hdown : (BitVec.ofNat 32 pixelsize * width / alignment * alignment).toNat =
      width.toNat * pixelsize / alignment.toNat * alignment.toNat := by
    have hdiv := Nat.div_mul_le_self (width.toNat * pixelsize) alignment.toNat
    rw [BitVec.toNat_mul, BitVec.toNat_udiv, hlinesize, Nat.mod_eq_of_lt (by omega)]
  rw [roundUp_eq_ite hpos] at hline hfits ⊢
  simp only [BitVec.lt_def, hdown, hlinesize]
  split
  · rename_i hshort
    rw [if_pos hshort] at hline hfits
    have hup : (BitVec.ofNat 32 pixelsize * width / alignment * alignment + alignment).toNat =
        width.toNat * pixelsize / alignment.toNat * alignment.toNat + alignment.toNat := by
      rw [BitVec.toNat_add, hdown, Nat.mod_eq_of_lt (by omega)]
    rw [BitVec.toNat_mul, hup, Nat.mul_comm, Nat.mod_eq_of_lt (by omega)]
  · rename_i hexact
    rw [if_neg hexact] at hline hfits
    rw [BitVec.toNat_mul, hdown, Nat.mul_comm, Nat.mod_eq_of_lt (by omega)]

end PixelStoreState

/-- The images whose size does not depend on the component count that the table leaves
out: the type has it, there is one component, there are no pixels, or a whole line fits
one unit of the alignment. -/
def CountImmaterial (width height : Nat) (format type : GLenum) (bytes alignment : Nat) : Prop :=
  ¬WideComponent type ∨ formatComponents format = 1 ∨ width = 0 ∨ height = 0 ∨
    width * bytes ≤ alignment

instance (width height : Nat) (format type : GLenum) (bytes alignment : Nat) :
    Decidable (CountImmaterial width height format type bytes alignment) :=
  inferInstanceAs (Decidable (_ ∨ _ ∨ _ ∨ _ ∨ _))

/-- Leaving out the component count gives the right size for these images only. -/
theorem imageSize_pixelBits_eq_iff {format type : GLenum} {bytes : Nat}
    (hbytes : bytesPerPixel format type = some bytes) (width height : Nat) {alignment : Nat}
    (halign : 0 < alignment) :
    imageSize width height (glUtilsPixelBitSize format type >>> 3) alignment =
        imageSize width height bytes alignment ↔
      CountImmaterial width height format type bytes alignment := by
  obtain ⟨hpos, -, hformat, hcount⟩ := bytesPerPixel_cases hbytes
  unfold imageSize CountImmaterial
  by_cases hwide : WideComponent type
  · rw [if_pos hwide] at hcount
    by_cases hone : formatComponents format = 1
    · rw [hone, Nat.one_mul] at hcount
      simp [hcount, hone]
    · have hline : width * bytes =
          formatComponents format * (width * (glUtilsPixelBitSize format type >>> 3)) := by
        rw [hcount, Nat.mul_left_comm]
      have hround := roundUp_mul_eq_iff (x := width * (glUtilsPixelBitSize format type >>> 3))
        halign (c := formatComponents format) (by omega)
      rw [hline, mul_eq_mul_left_iff, eq_comm, hround, Nat.mul_eq_zero]
      simp only [hwide, hone, hpos.ne', not_true_eq_false, false_or, or_false]
      exact or_right_comm.trans or_assoc
  · rw [if_neg hwide, Nat.one_mul] at hcount
    simp [hwide, hcount]

theorem toInt_toNat_of_nonneg {x : GLint} (hx : 0 ≤ x.toInt) : x.toInt.toNat = x.toNat := by
  rw [BitVec.toInt_eq_toNat_cond] at hx ⊢
  have hlt := x.isLt
  split at hx
  · rename_i h
    rw [if_pos h]
    omega
  · omega

namespace PixelStoreState

/-- After any `glPixelStorei` calls, an image whose size fits 31 bits gets the right size
if and only if the component count is immaterial. -/
theorem pixelDataSize_eq_imageSize_iff (calls : List (GLenum × GLint)) {width height : GLint}
    (hwidth : 0 ≤ width.toInt) (hheight : 0 ≤ height.toInt) (pack : Bool)
    {format type : GLenum} {bytes : Nat} (hbytes : bytesPerPixel format type = some bytes)
    (hfits : imageSize width.toInt.toNat height.toInt.toNat bytes
      ((endState init (traceOf run init calls)).alignment pack).toNat < 2 ^ 31) :
    ((endState init (traceOf run init calls)).pixelDataSize width height format type
        pack).toNat =
      imageSize width.toInt.toNat height.toInt.toNat bytes
        ((endState init (traceOf run init calls)).alignment pack).toNat ↔
      CountImmaterial width.toInt.toNat height.toInt.toNat format type bytes
        ((endState init (traceOf run init calls)).alignment pack).toNat := by
  have halign := (valid_run calls).alignment pack
  generalize endState init (traceOf run init calls) = store at halign hfits ⊢
  have hpos := halign.toNat_bounds.1
  rw [toInt_toNat_of_nonneg hwidth, toInt_toNat_of_nonneg hheight] at hfits ⊢
  obtain ⟨-, hsmall, hformat, hcount⟩ := bytesPerPixel_cases hbytes
  -- the table never gives more than the bytes of the pixel
  have hbits : glUtilsPixelBitSize format type >>> 3 ≤ bytes := by
    rw [hcount]
    refine Nat.le_mul_of_pos_left _ ?_
    split <;> omega
  rw [pixelDataSize_toNat store halign (by omega)]
  · exact imageSize_pixelBits_eq_iff hbytes width.toNat height.toNat hpos
  · intro _
    refine lt_of_le_of_lt (Nat.mul_le_mul_left _ (roundUp_mono hpos ?_)) hfits
    exact Nat.mul_le_mul_left _ hbits

/-- A line of three RGB pixels of bytes, packed to two bytes. -/
theorem pixelDataSize_eq_imageSize_iff_rgb :
    PixelStoreState.pixelDataSize
          (endState init (traceOf run init [(GL_PACK_ALIGNMENT, 2#32)])) 3#32 1#32 GL_RGB
          GL_UNSIGNED_BYTE true = 10#32 ∧
      (((endState init (traceOf run init [(GL_PACK_ALIGNMENT, 2#32)])).pixelDataSize 3#32 1#32
            GL_RGB GL_UNSIGNED_BYTE true).toNat =
          imageSize (3#32 : GLint).toInt.toNat (1#32 : GLint).toInt.toNat 3
            ((endState init (traceOf run init [(GL_PACK_ALIGNMENT, 2#32)])).alignment
              true).toNat ↔
        CountImmaterial (3#32 : GLint).toInt.toNat (1#32 : GLint).toInt.toNat GL_RGB
          GL_UNSIGNED_BYTE 3
          ((endState init (traceOf run init [(GL_PACK_ALIGNMENT, 2#32)])).alignment
            true).toNat) :=
  ⟨rfl, pixelDataSize_eq_imageSize_iff [(GL_PACK_ALIGNMENT, 2#32)] (by decide) (by decide) true
    rfl (by decide)⟩

/-- Two RGBA pixels of floats take 32 bytes; the code counts 8. -/
theorem pixelDataSize_rgbaFloat :
    ¬∀ (calls : List (GLenum × GLint)) (width height : GLint), 0 ≤ width.toInt →
      0 ≤ height.toInt → ∀ (pack : Bool) (format type : GLenum) (bytes : Nat),
        bytesPerPixel format type = some bytes →
        imageSize width.toInt.toNat height.toInt.toNat bytes
          ((endState init (traceOf run init calls)).alignment pack).toNat < 2 ^ 31 →
        ((endState init (traceOf run init calls)).pixelDataSize width height format type
            pack).toNat =
          imageSize width.toInt.toNat height.toInt.toNat bytes
            ((endState init (traceOf run init calls)).alignment pack).toNat := by
  intro hall
  have hsize := hall [] 2#32 1#32 (by decide) (by decide) false GL_RGBA GL_FLOAT 16 rfl (by decide)
  revert hsize
  decide

end PixelStoreState

end OpenglCodecCommon
end DeviceAndroVM
