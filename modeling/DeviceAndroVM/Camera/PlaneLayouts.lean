import DeviceAndroVM.Camera.Converters
import DeviceAndroVM.Library.Chunks

/-!
# The plane layouts of YUV 4:2:0

An image has a luma sample for every pixel and two chroma samples for every square of four.  The
encodings put the same samples into a frame in different orders, and the converters to RGB32 undo
that.

* `Yuv420`, `Yuv420.pixel` — an image, and the colour of a pixel of it.
* `Encoding.encode` — the bytes of a frame, plane by plane.
* `Encoding.image` — the image that a frame has the bytes of.
* `Encoding.pointers` — where a converter begins, from the source.
* `toRGB32_eq` — every converter samples the image of its frame.
* `toRGB32_of_liesAt` — and so gives the same colours for all the encodings of an image.
-/

namespace DeviceAndroVM
namespace Camera
namespace Converters

open Library

/-! ## Images -/

/-- The samples by column and row; two by two pixels have the same chroma. -/
structure Yuv420 where
  luma : Nat → Nat → BitVec 8
  u : Nat → Nat → BitVec 8
  v : Nat → Nat → BitVec 8

namespace Yuv420

def pixel (image : Yuv420) (p : Nat × Nat) : RGB32 :=
  YUVToRGB32 (image.luma p.1 p.2).toNat (image.u (p.1 / 2) (p.2 / 2)).toNat
    (image.v (p.1 / 2) (p.2 / 2)).toNat

/-- The colours of an image, row after row. -/
def toRGB32 (image : Yuv420) (width height : Nat) : List RGB32 :=
  (positions width height).map image.pixel

end Yuv420

theorem length_positions (width height : Nat) : (positions width height).length = height * width :=
  length_pieces (fun _ => by simp) height

/-- Where a pixel stands among the others. -/
theorem getElem?_positions {width height x y : Nat} (hx : x < width) (hy : y < height) :
    (positions width height)[y * width + x]? = some (x, y) := by
  have hlength : ∀ row : Nat,
      ((List.range width).map fun column => (column, row)).length = width := by
    simp
  have hpixel := getElem?_pieces hlength hy hx
  rw [List.getElem?_map, List.getElem?_range hx] at hpixel
  exact hpixel

theorem getElem?_toRGB32 (image : Yuv420) {width height x y : Nat} (hx : x < width)
    (hy : y < height) :
    (image.toRGB32 width height)[y * width + x]? = some (image.pixel (x, y)) := by
  rw [Yuv420.toRGB32, List.getElem?_map, getElem?_positions hx hy, Option.map_some]

/-! ## Encodings -/

/-- The encodings with a converter to RGB32. -/
inductive Encoding
  | YV12
  | YU12
  | NV12
  | NV21
  deriving DecidableEq

/-- A row of groups after the other; a group is the samples that share a place. -/
def plane (group : Nat → Nat → List (BitVec 8)) (columns rows : Nat) : List (BitVec 8) :=
  pieces (fun row => pieces (fun column => group column row) columns) rows

section Plane

variable {group : Nat → Nat → List (BitVec 8)} {parts base columns rows : Nat} {frame : Frame}

theorem length_plane (hgroup : ∀ column row, (group column row).length = parts) :
    (plane group columns rows).length = rows * (columns * parts) :=
  length_pieces (fun row => length_pieces (fun column => hgroup column row) columns) rows

/-- A plane lies in a frame when every group of it lies at its place. -/
theorem liesAt_plane (hgroup : ∀ column row, (group column row).length = parts) :
    LiesAt frame base (plane group columns rows) ↔
      ∀ row < rows, ∀ column < columns,
        LiesAt frame (base + (row * columns + column) * parts) (group column row) := by
  have hrow : ∀ row, (pieces (fun column => group column row) columns).length = columns * parts :=
    fun row => length_pieces (fun column => hgroup column row) columns
  rw [plane, liesAt_pieces hrow]
  apply forall₂_congr
  intro row _
  rw [liesAt_pieces fun column => hgroup column row]
  apply forall₂_congr
  intro column _
  rw [Nat.add_mul, Nat.mul_assoc, Nat.add_assoc]

variable {first second : Nat → Nat → BitVec 8}

/-- A plane of one channel. -/
@[simp] theorem liesAt_single :
    LiesAt frame base (plane (fun x y => [first x y]) columns rows) ↔
      ∀ row < rows, ∀ column < columns,
        frame (base + (row * columns + column)) = first column row := by
  have hone : ∀ column row, [first column row].length = 1 := fun _ _ => rfl
  rw [liesAt_plane hone]
  simp

@[simp] theorem length_single :
    (plane (fun x y => [first x y]) columns rows).length = columns * rows := by
  have hone : ∀ column row, [first column row].length = 1 := fun _ _ => rfl
  rw [length_plane hone, Nat.mul_one, Nat.mul_comm]

/-- A plane that two channels share. -/
@[simp] theorem liesAt_double :
    LiesAt frame base (plane (fun x y => [first x y, second x y]) columns rows) ↔
      ∀ row < rows, ∀ column < columns,
        frame (base + (row * columns + column) * 2) = first column row ∧
          frame (base + (row * columns + column) * 2 + 1) = second column row := by
  have htwo : ∀ column row, [first column row, second column row].length = 2 := fun _ _ => rfl
  rw [liesAt_plane htwo]
  simp

end Plane

namespace Encoding

/-- The frame of an image: the luma plane, and behind it a plane for each chroma channel or one
with both. -/
def encode (image : Yuv420) (width height : Nat) : Encoding → List (BitVec 8)
  | YV12 =>
      plane (fun x y => [image.luma x y]) width height ++
        (plane (fun x y => [image.v x y]) (width / 2) (height / 2) ++
          plane (fun x y => [image.u x y]) (width / 2) (height / 2))
  | YU12 =>
      plane (fun x y => [image.luma x y]) width height ++
        (plane (fun x y => [image.u x y]) (width / 2) (height / 2) ++
          plane (fun x y => [image.v x y]) (width / 2) (height / 2))
  | NV12 =>
      plane (fun x y => [image.luma x y]) width height ++
        plane (fun x y => [image.u x y, image.v x y]) (width / 2) (height / 2)
  | NV21 =>
      plane (fun x y => [image.luma x y]) width height ++
        plane (fun x y => [image.v x y, image.u x y]) (width / 2) (height / 2)

/-- The image whose samples are the bytes of the frame. -/
def image (frame : Frame) (width height : Nat) (e : Encoding) : Yuv420 :=
  let pix_total := width * height
  let quarter := width / 2 * (height / 2)
  let chroma := fun x y => y * (width / 2) + x
  let luma := fun x y => frame (y * width + x)
  match e with
  | YV12 => ⟨luma, fun x y => frame (pix_total + quarter + chroma x y),
      fun x y => frame (pix_total + chroma x y)⟩
  | YU12 => ⟨luma, fun x y => frame (pix_total + chroma x y),
      fun x y => frame (pix_total + quarter + chroma x y)⟩
  | NV12 => ⟨luma, fun x y => frame (pix_total + chroma x y * 2),
      fun x y => frame (pix_total + chroma x y * 2 + 1)⟩
  | NV21 => ⟨luma, fun x y => frame (pix_total + chroma x y * 2 + 1),
      fun x y => frame (pix_total + chroma x y * 2)⟩

/-- The converter of the encoding. -/
def toRGB32 (frame : Frame) (width height : Nat) : Encoding → List RGB32
  | YV12 => YV12ToRGB32 frame width height
  | YU12 => YU12ToRGB32 frame width height
  | NV12 => NV12ToRGB32 frame width height
  | NV21 => NV21ToRGB32 frame width height

/-- Where a converter begins in the planes, and how far apart it takes the samples of a chroma
channel to be. -/
structure Pointers where
  dUV : Nat
  Y : Nat
  U : Nat
  V : Nat

def pointers (width height : Nat) : Encoding → Pointers
  | YV12 => ⟨1, 0, width * height + width * height / 4, width * height⟩
  | YU12 => ⟨1, 0, width * height, width * height + width * height / 4⟩
  | NV12 => ⟨2, 0, width * height, width * height + 1⟩
  | NV21 => ⟨2, 0, width * height + 1, width * height⟩

/-- The converters are the same loop from different places. -/
theorem toRGB32_eq_yuv420S (frame : Frame) (width height : Nat) (e : Encoding) :
    e.toRGB32 frame width height =
      yuv420S frame YUVToRGB32 (e.pointers width height).dUV (e.pointers width height).Y
        (e.pointers width height).U (e.pointers width height).V width height := by
  cases e <;> rfl

/-- A frame holds the encoding of an image when the samples it has are those of the image. -/
theorem liesAt_encode {frame : Frame} {picture : Yuv420} {width height : Nat} (e : Encoding) :
    LiesAt frame 0 (e.encode picture width height) ↔
      (∀ y < height, ∀ x < width, (e.image frame width height).luma x y = picture.luma x y) ∧
        ∀ y < height / 2, ∀ x < width / 2,
          (e.image frame width height).u x y = picture.u x y ∧
            (e.image frame width height).v x y = picture.v x y := by
  -- one chroma channel after the other or side by side, the places are those of `image`
  cases e with
  | YV12 =>
      simp only [encode, image, liesAt_append, liesAt_single, length_single, Nat.zero_add,
        Nat.add_assoc]
      grind
  | YU12 =>
      simp only [encode, image, liesAt_append, liesAt_single, length_single, Nat.zero_add,
        Nat.add_assoc]
      grind
  | NV12 =>
      simp only [encode, image, liesAt_append, liesAt_single, liesAt_double, length_single,
        Nat.zero_add, Nat.add_assoc]
  | NV21 =>
      simp only [encode, image, liesAt_append, liesAt_single, liesAt_double, length_single,
        Nat.zero_add, Nat.add_assoc]
      grind

/-- Every frame holds the encoding of its image. -/
theorem liesAt_encode_image (frame : Frame) (width height : Nat) (e : Encoding) :
    LiesAt frame 0 (e.encode (e.image frame width height) width height) :=
  (liesAt_encode e).mpr ⟨fun _ _ _ _ => rfl, fun _ _ _ _ => ⟨rfl, rfl⟩⟩

/-- With even sides the chroma planes are a quarter of the luma plane each. -/
theorem quarter_eq {width height : Nat} (hwidth : width % 2 = 0) (hheight : height % 2 = 0) :
    width * height / 4 = width / 2 * (height / 2) := by
  exact Nat.mul_div_mul_comm (Nat.dvd_of_mod_eq_zero hwidth) (Nat.dvd_of_mod_eq_zero hheight)

/-- Every converter samples the image of its frame. -/
theorem toRGB32_eq (frame : Frame) {width height : Nat} (hwidth : width % 2 = 0)
    (hheight : height % 2 = 0) (e : Encoding) :
    e.toRGB32 frame width height = (e.image frame width height).toRGB32 width height := by
  have hquarter := quarter_eq hwidth hheight
  rw [toRGB32_eq_yuv420S, yuv420S_eq frame _ _ hwidth, Yuv420.toRGB32]
  apply List.map_congr_left
  intro p _
  cases e with
  | YV12 | YU12 =>
      simp only [pointers, hquarter, samplePixel, Yuv420.pixel, image, Nat.zero_add, Nat.mul_one]
  | NV12 | NV21 =>
      simp only [pointers, samplePixel, Yuv420.pixel, image, Nat.zero_add, Nat.add_right_comm]

/-- All the encodings of an image are converted to its colours. -/
theorem toRGB32_of_liesAt {frame : Frame} {picture : Yuv420} {width height : Nat}
    (hwidth : width % 2 = 0) (hheight : height % 2 = 0) {e : Encoding}
    (h : LiesAt frame 0 (e.encode picture width height)) :
    e.toRGB32 frame width height = picture.toRGB32 width height := by
  obtain ⟨hluma, hchroma⟩ := (liesAt_encode e).mp h
  rw [toRGB32_eq frame hwidth hheight]
  apply List.map_congr_left
  intro p hp
  obtain ⟨hx, hy⟩ := mem_positions.mp hp
  -- with even sides, half a place is a place in the chroma planes
  obtain ⟨hu, hv⟩ := hchroma (p.2 / 2) (by omega) (p.1 / 2) (by omega)
  rw [Yuv420.pixel, Yuv420.pixel, hluma p.2 hy p.1 hx, hu, hv]

/-- With even sides, every pixel a converter gives is made of the luma sample at its place and of
the chroma samples at half of it, whatever the frame has in it; and so encodings of one image all
become the same colours. -/
theorem toRGB32_samples {width height : Nat} (hwidth : width % 2 = 0) (hheight : height % 2 = 0) :
    (∀ (e : Encoding) (frame : Frame),
      LiesAt frame 0 (e.encode (e.image frame width height) width height) ∧
        (e.toRGB32 frame width height).length = width * height ∧
          ∀ x < width, ∀ y < height, (e.toRGB32 frame width height)[y * width + x]? =
            some ((e.image frame width height).pixel (x, y))) ∧
      ∀ (picture : Yuv420) (e e' : Encoding) (frame frame' : Frame),
        LiesAt frame 0 (e.encode picture width height) →
          LiesAt frame' 0 (e'.encode picture width height) →
            e.toRGB32 frame width height = e'.toRGB32 frame' width height := by
  refine ⟨fun e frame => ⟨liesAt_encode_image frame width height e, ?_, ?_⟩, ?_⟩
  · rw [toRGB32_eq frame hwidth hheight, Yuv420.toRGB32, List.length_map, length_positions,
      Nat.mul_comm]
  · intro x hx y hy
    rw [toRGB32_eq frame hwidth hheight, getElem?_toRGB32 _ hx hy]
  · intro picture e e' frame frame' h h'
    rw [toRGB32_of_liesAt hwidth hheight h, toRGB32_of_liesAt hwidth hheight h']

/-- The image that lies in the four encodings of two by two pixels. -/
def twoByTwo : Yuv420 :=
  ⟨fun x y => BitVec.ofNat 8 (50 * x + 90 * y + 16), fun _ _ => 90, fun _ _ => 160⟩

/-- A frame with the given bytes, and zeros behind them. -/
def frameOf (bytes : List (BitVec 8)) : Frame := fun i => bytes.getD i 0

theorem toRGB32_samples_twoByTwo :
    YV12ToRGB32 (frameOf (YV12.encode twoByTwo 2 2)) 2 2 =
      NV21ToRGB32 (frameOf (NV21.encode twoByTwo 2 2)) 2 2 :=
  (toRGB32_samples rfl rfl).2 twoByTwo .YV12 .NV21 _ _ (by decide) (by decide)

end Encoding

end Converters
end Camera
end DeviceAndroVM
