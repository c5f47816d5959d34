import Mathlib.Data.Int.Bitwise
import Mathlib.Data.List.Basic

/-!
# From YUV 4:2:0 to RGB

`Converters.h` and `Converters.cpp` of the camera, on a little-endian processor.  The two inner
loops are the same but for the pixels they write; here they are one loop with the pixel as a
parameter.  A frame gives the byte at each distance from its beginning.

* `YUVToRGB565`, `YUVToRGB32` — one pixel; `RGB32` is without its fourth byte, which nothing
  writes.
* `yuv420S` — the loop, and `yuv420S_eq` which samples its pixels are made of.
* `YV12ToRGB565` and the other converters.
* `Reduced` — an RGB565 image agrees with an RGB32 image.
* `reduced_iff` — when the converters of all encodings agree.
-/

namespace DeviceAndroVM
namespace Camera
namespace Converters

abbrev CInt := BitVec 32

/-! ## Pixels -/

/-- `RGB32_t`, without `a`. -/
structure RGB32 where
  r : BitVec 8
  g : BitVec 8
  b : BitVec 8
  deriving DecidableEq

/-- The macro `RGB565` on a little-endian processor. -/
def RGB565 (r g b : BitVec 16) : BitVec 16 := (((b <<< 6) ||| g) <<< 5) ||| r

def clamp (x : Int) : Int := if x > 255 then 255 else if x < 0 then 0 else x

def YUV2RO (c _d e : Int) : Int := clamp ((298 * c + 409 * e + 128) >>> 8)

def YUV2GO (c d e : Int) : Int := clamp ((298 * c - 100 * d - 208 * e + 128) >>> 8)

def YUV2BO (c d _e : Int) : Int := clamp ((298 * c + 516 * d + 128) >>> 8)

/-- `(value >> shift) & mask` of an `int`, in 16 bits. -/
def bits16 (value : Int) (shift : Nat) (mask : CInt) : BitVec 16 :=
  ((BitVec.ofInt 32 value).sshiftRight shift &&& mask).setWidth 16

/-- `value & 0xff` of an `int`, in 8 bits. -/
def bits8 (value : Int) : BitVec 8 := (BitVec.ofInt 32 value &&& 0xff#32).setWidth 8

def YUVToRGB565 (y u v : Int) : BitVec 16 :=
  let c := y - 16
  let d := u - 128
  let e := v - 128
  RGB565 (bits16 (YUV2RO c d e) 3 0x1f#32) (bits16 (YUV2GO c d e) 2 0x3f#32)
    (bits16 (YUV2BO c d e) 3 0x1f#32)

def YUVToRGB32 (y u v : Int) : RGB32 :=
  let c := y - 16
  let d := u - 128
  let e := v - 128
  ⟨bits8 (YUV2RO c d e), bits8 (YUV2GO c d e), bits8 (YUV2BO c d e)⟩

/-- The 5-6-5 reduction of a colour. -/
def RGB32.reduce (p : RGB32) : BitVec 16 :=
  RGB565 ((p.r >>> 3).setWidth 16) ((p.g >>> 2).setWidth 16) ((p.b >>> 3).setWidth 16)

/-- A clamped value is a byte. -/
theorem clamp_eq_byte (x : Int) : ∃ n : Fin 256, clamp x = (n.val : Int) := by
  unfold clamp
  split
  · exact ⟨255, rfl⟩
  · split
    · exact ⟨0, rfl⟩
    · refine ⟨⟨x.toNat, by omega⟩, ?_⟩
      show x = (x.toNat : Int)
      omega

theorem bits16_byte_three : ∀ n : Fin 256,
    bits16 n.val 3 0x1f#32 = (bits8 n.val >>> 3).setWidth 16 := by decide +kernel

theorem bits16_byte_two : ∀ n : Fin 256,
    bits16 n.val 2 0x3f#32 = (bits8 n.val >>> 2).setWidth 16 := by decide +kernel

/-- Both depths make a pixel of the same colour. -/
theorem YUVToRGB565_eq_reduce (y u v : Int) : YUVToRGB565 y u v = (YUVToRGB32 y u v).reduce := by
  have hthree : ∀ x, bits16 (clamp x) 3 0x1f#32 = (bits8 (clamp x) >>> 3).setWidth 16 := by
    intro x
    obtain ⟨n, hn⟩ := clamp_eq_byte x
    rw [hn]
    exact bits16_byte_three n
  have htwo : ∀ x, bits16 (clamp x) 2 0x3f#32 = (bits8 (clamp x) >>> 2).setWidth 16 := by
    intro x
    obtain ⟨n, hn⟩ := clamp_eq_byte x
    rw [hn]
    exact bits16_byte_two n
  simp only [YUVToRGB565, YUVToRGB32, RGB32.reduce, YUV2RO, YUV2GO, YUV2BO, hthree, htwo]

/-! ## The loop -/

abbrev Frame := Nat → BitVec 8

/-- The pointers of the loop, and the pixels written so far. -/
structure Cursor (α : Type) where
  Y : Nat
  U : Nat
  V : Nat
  U_pos : Nat
  V_pos : Nat
  rgb : List α

section Loop

variable {α : Type} (frame : Frame) (pixel : Int → Int → Int → α) (dUV : Nat)

/-- Two pixels with the same chroma. -/
def pair (c : Cursor α) : Cursor α :=
  let nU := (frame c.U).toNat
  let nV := (frame c.V).toNat
  { c with
    rgb := c.rgb ++ [pixel (frame c.Y).toNat nU nV, pixel (frame (c.Y + 1)).toNat nU nV]
    Y := c.Y + 2
    U := c.U + dUV
    V := c.V + dUV }

/-- The first `n` turns of the loop over a row. -/
def pairs : Nat → Cursor α → Cursor α
  | 0, c => c
  | n + 1, c => pair frame pixel dUV (pairs n c)

/-- After an odd row the chroma pointers stay where they are, after an even one they go back. -/
def endRow (y : Nat) (c : Cursor α) : Cursor α :=
  if y % 2 = 1 then { c with U_pos := c.U, V_pos := c.V } else { c with U := c.U_pos, V := c.V_pos }

/-- The first `y` rows. -/
def rows (width : Nat) : Nat → Cursor α → Cursor α
  | 0, c => c
  | y + 1, c => endRow y (pairs frame pixel dUV ((width + 1) / 2) (rows width y c))

/-- `_YUV420SToRGB565` and `_YUV420SToRGB32`, by their pixels. -/
def yuv420S (Y U V width height : Nat) : List α :=
  (rows frame pixel dUV width height ⟨Y, U, V, U, V, []⟩).rgb

/-- The pixels of an image in the order of the loop. -/
def positions (width height : Nat) : List (Nat × Nat) :=
  (List.range height).flatMap fun y => (List.range width).map fun x => (x, y)

theorem mem_positions {width height x y : Nat} :
    (x, y) ∈ positions width height ↔ x < width ∧ y < height := by
  simp [positions, and_comm]

/-- Which samples make up the pixel at `(x, y)`. -/
def samplePixel (Y U V width : Nat) (p : Nat × Nat) : α :=
  let chroma := (p.2 / 2 * (width / 2) + p.1 / 2) * dUV
  pixel (frame (Y + p.2 * width + p.1)).toNat (frame (U + chroma)).toNat
    (frame (V + chroma)).toNat

/-- The pointers after `n` turns, and the pixels of these turns. -/
theorem pairs_eq (c : Cursor α) (n : Nat) :
    pairs frame pixel dUV n c =
      { c with
        Y := c.Y + 2 * n
        U := c.U + n * dUV
        V := c.V + n * dUV
        rgb := c.rgb ++ (List.range (2 * n)).map fun x =>
          pixel (frame (c.Y + x)).toNat (frame (c.U + x / 2 * dUV)).toNat
            (frame (c.V + x / 2 * dUV)).toNat } := by
  induction n with
  | zero => simp [pairs]
  | succ n ih =>
      have hrange : List.range (2 * (n + 1)) = List.range (2 * n) ++ [2 * n, 2 * n + 1] := by
        rw [show 2 * (n + 1) = 2 * n + 1 + 1 by omega, List.range_succ, List.range_succ,
          List.append_assoc]
        rfl
      have heven : 2 * n / 2 = n := by omega
      have hodd : (2 * n + 1) / 2 = n := by omega
      have hluma : 2 * (n + 1) = 2 * n + 2 := by omega
      rw [pairs, ih, hrange, hluma, Nat.succ_mul n dUV]
      simp only [pair, List.map_append, List.map_cons, List.map_nil, heven, hodd,
        List.append_assoc, Nat.add_assoc]

/-- The pointers at the beginning of row `y`, and the pixels of the rows before it. -/
theorem rows_eq {width : Nat} (hwidth : width % 2 = 0) (Y U V y : Nat) :
    rows frame pixel dUV width y ⟨Y, U, V, U, V, []⟩ =
      { Y := Y + y * width
        U := U + y / 2 * (width / 2) * dUV
        V := V + y / 2 * (width / 2) * dUV
        U_pos := U + y / 2 * (width / 2) * dUV
        V_pos := V + y / 2 * (width / 2) * dUV
        rgb := (positions width y).map (samplePixel frame pixel dUV Y U V width) } := by
  induction y with
  | zero => simp [rows, positions]
  | succ y ih =>
      have hhalf : (width + 1) / 2 = width / 2 := by omega
      have htwice : 2 * (width / 2) = width := by omega
      have hrow : (positions width (y + 1)) =
          positions width y ++ (List.range width).map fun x => (x, y) := by
        rw [positions, List.range_succ, List.flatMap_append, List.flatMap_singleton]
        rfl
      have hpixels : ((List.range width).map fun x => (x, y)).map
            (samplePixel frame pixel dUV Y U V width) =
          (List.range width).map fun x => pixel (frame (Y + y * width + x)).toNat
            (frame (U + y / 2 * (width / 2) * dUV + x / 2 * dUV)).toNat
            (frame (V + y / 2 * (width / 2) * dUV + x / 2 * dUV)).toNat := by
        rw [List.map_map]
        apply List.map_congr_left
        intro x _
        simp only [Function.comp_apply, samplePixel, Nat.add_mul, Nat.add_assoc]
      rw [rows, ih, hhalf, pairs_eq, htwice, hrow, List.map_append, hpixels]
      -- two rows share a row of chroma, so only an odd row moves on in it
      rcases Nat.mod_two_eq_zero_or_one y with heven | hodd
      · have hnext : (y + 1) / 2 = y / 2 := by omega
        rw [endRow, if_neg (by omega), hnext, Nat.succ_mul, ← Nat.add_assoc]
      · have hnext : (y + 1) / 2 = y / 2 + 1 := by omega
        rw [endRow, if_pos hodd, hnext, Nat.succ_mul, Nat.succ_mul, Nat.add_mul, ← Nat.add_assoc,
          ← Nat.add_assoc, ← Nat.add_assoc]

theorem yuv420S_eq {width : Nat} (hwidth : width % 2 = 0) (Y U V height : Nat) :
    yuv420S frame pixel dUV Y U V width height =
      (positions width height).map (samplePixel frame pixel dUV Y U V width) := by
  rw [yuv420S, rows_eq frame pixel dUV hwidth]

end Loop

/-! ## The converters -/

def YV12ToRGB565 (yv12 : Frame) (width height : Nat) : List (BitVec 16) :=
  let pix_total := width * height
  let U := pix_total
  let V := U + pix_total / 4
  yuv420S yv12 YUVToRGB565 1 0 U V width height

def YV12ToRGB32 (yv12 : Frame) (width height : Nat) : List RGB32 :=
  let pix_total := width * height
  -- V comes first here, and second in the converter to RGB565
  let V := pix_total
  let U := V + pix_total / 4
  yuv420S yv12 YUVToRGB32 1 0 U V width height

def YU12ToRGB32 (yu12 : Frame) (width height : Nat) : List RGB32 :=
  let pix_total := width * height
  let U := pix_total
  let V := U + pix_total / 4
  yuv420S yu12 YUVToRGB32 1 0 U V width height

/-- `_NVXXToRGB565` and `_NVXXToRGB32`. -/
def nvXX {α : Type} (frame : Frame) (pixel : Int → Int → Int → α) (Y U V width height : Nat) :
    List α :=
  yuv420S frame pixel 2 Y U V width height

def NV12ToRGB565 (nv12 : Frame) (width height : Nat) : List (BitVec 16) :=
  let pix_total := width * height
  nvXX nv12 YUVToRGB565 0 pix_total (pix_total + 1) width height

def NV12ToRGB32 (nv12 : Frame) (width height : Nat) : List RGB32 :=
  let pix_total := width * height
  nvXX nv12 YUVToRGB32 0 pix_total (pix_total + 1) width height

def NV21ToRGB565 (nv21 : Frame) (width height : Nat) : List (BitVec 16) :=
  let pix_total := width * height
  nvXX nv21 YUVToRGB565 0 (pix_total + 1) pix_total width height

def NV21ToRGB32 (nv21 : Frame) (width height : Nat) : List RGB32 :=
  let pix_total := width * height
  nvXX nv21 YUVToRGB32 0 (pix_total + 1) pix_total width height

/-! ## Agreement -/

/-- Every pixel of the RGB565 image is the 5-6-5 reduction of the RGB32 pixel. -/
def Reduced (rgb565 : List (BitVec 16)) (rgb32 : List RGB32) : Prop :=
  rgb565 = rgb32.map RGB32.reduce

instance (rgb565 : List (BitVec 16)) (rgb32 : List RGB32) : Decidable (Reduced rgb565 rgb32) :=
  inferInstanceAs (Decidable (rgb565 = rgb32.map RGB32.reduce))

/-- The two converters of each encoding agree on the frame. -/
structure Agree (frame : Frame) (width height : Nat) : Prop where
  yv12 : Reduced (YV12ToRGB565 frame width height) (YV12ToRGB32 frame width height)
  nv12 : Reduced (NV12ToRGB565 frame width height) (NV12ToRGB32 frame width height)
  nv21 : Reduced (NV21ToRGB565 frame width height) (NV21ToRGB32 frame width height)

/-- The RGB565 pixel stays the same when the two chroma samples of a YV12 frame change
places. -/
def Exchangeable (frame : Frame) (width height : Nat) (p : Nat × Nat) : Prop :=
  let chroma := p.2 / 2 * (width / 2) + p.1 / 2
  let y := (frame (p.2 * width + p.1)).toNat
  let first := (frame (width * height + chroma)).toNat
  let second := (frame (width * height + width * height / 4 + chroma)).toNat
  YUVToRGB565 y first second = YUVToRGB565 y second first

instance (frame : Frame) (width height : Nat) (p : Nat × Nat) :
    Decidable (Exchangeable frame width height p) := by
  unfold Exchangeable
  infer_instance

/-- With the same samples the two depths agree. -/
theorem reduced_yuv420S (frame : Frame) (dUV Y U V : Nat) {width : Nat} (hwidth : width % 2 = 0)
    (height : Nat) :
    Reduced (yuv420S frame YUVToRGB565 dUV Y U V width height)
      (yuv420S frame YUVToRGB32 dUV Y U V width height) := by
  rw [Reduced, yuv420S_eq frame _ dUV hwidth, yuv420S_eq frame _ dUV hwidth, List.map_map]
  apply List.map_congr_left
  intro p _
  exact YUVToRGB565_eq_reduce _ _ _

/-- For YV12 the two depths take the chroma planes in different orders. -/
theorem reduced_yv12_iff (frame : Frame) {width : Nat} (hwidth : width % 2 = 0) (height : Nat) :
    Reduced (YV12ToRGB565 frame width height) (YV12ToRGB32 frame width height) ↔
      ∀ p ∈ positions width height, Exchangeable frame width height p := by
  rw [Reduced, YV12ToRGB565, YV12ToRGB32, yuv420S_eq frame _ 1 hwidth, yuv420S_eq frame _ 1 hwidth,
    List.map_map, List.map_inj_left]
  apply forall₂_congr
  intro p _
  simp only [Function.comp_apply, samplePixel, Exchangeable, YUVToRGB565_eq_reduce, Nat.mul_one,
    Nat.zero_add]

/-- The converters agree on a frame of even width just when no pixel of it changes as the chroma
samples of the YV12 layout change places. -/
theorem agree_iff (frame : Frame) {width : Nat} (hwidth : width % 2 = 0) (height : Nat) :
    Agree frame width height ↔
      ∀ x < width, ∀ y < height, Exchangeable frame width height (x, y) := by
  have hyv12 : (∀ p ∈ positions width height, Exchangeable frame width height p) ↔
      ∀ x < width, ∀ y < height, Exchangeable frame width height (x, y) := by
    constructor
    · intro h x hx y hy
      exact h (x, y) (mem_positions.mpr ⟨hx, hy⟩)
    · rintro h ⟨x, y⟩ hmem
      obtain ⟨hx, hy⟩ := mem_positions.mp hmem
      exact h x hx y hy
  rw [← hyv12, ← reduced_yv12_iff frame hwidth]
  constructor
  · intro h
    exact h.yv12
  · intro h
    exact ⟨h, reduced_yuv420S frame 2 _ _ _ hwidth height,
      reduced_yuv420S frame 2 _ _ _ hwidth height⟩

/-! ## Two frames of two by two pixels -/

/-- A frame with one luma and two chroma values. -/
def flat (y first second : BitVec 8) : Frame := fun i =>
  if i < 4 then y else if i = 4 then first else second

theorem agree_flat : Agree (flat 128 90 90) 2 2 :=
  (agree_iff (flat 128 90 90) rfl 2).mpr (by decide)

theorem not_agree_flat : ¬∀ (frame : Frame) (width height : Nat), width % 2 = 0 → height % 2 = 0 →
    Agree frame width height := by
  intro h
  have hyv12 := (h (flat 128 90 160) 2 2 rfl rfl).yv12
  revert hyv12
  decide

end Converters
end Camera
end DeviceAndroVM
