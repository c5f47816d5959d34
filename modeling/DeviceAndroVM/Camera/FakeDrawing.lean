import DeviceAndroVM.Camera.EmulatedFakeCameraDevice
import Mathlib.Data.Int.Lemmas

/-!
# Where the fake camera draws

A frame has a plane of luma, a byte for each pixel in rows, and behind it the chroma.

* `IsU`, `IsV`, `InChroma` — the samples of the chroma panes, and the bytes behind the luma.
* `Store.Within` — a byte is stored in the row that is drawn, or at a sample.
* `PanesPartition`, `DrawsWithin` — the panes share the chroma, and nothing is drawn outside.
* `boardStores_within`, `squareStores_within` — the two parts of the picture.
* `drawsFrame_iff` — for which formats and sizes a started device has all that.
-/

namespace DeviceAndroVM
namespace Camera
namespace EmulatedFakeCameraDevice

open Library

/-! ## The property -/

/-- The address of a U sample. -/
def IsU (dev : EmulatedFakeCameraDevice) (a : Int) : Prop :=
  ∃ i : Nat, (i : Int) < dev.mUVTotalNum ∧ a = dev.mFrameU + i * dev.mUVStep

/-- The address of a V sample. -/
def IsV (dev : EmulatedFakeCameraDevice) (a : Int) : Prop :=
  ∃ i : Nat, (i : Int) < dev.mUVTotalNum ∧ a = dev.mFrameV + i * dev.mUVStep

/-- The address is one of the frame's, behind its luma. -/
def InChroma (dev : EmulatedFakeCameraDevice) (a : Int) : Prop :=
  frame dev.toEmulatedCameraDevice + dev.mFrameWidth * dev.mFrameHeight ≤ a ∧
    a < frame dev.toEmulatedCameraDevice + dev.mFrameBufferSize

/-- The samples make up the chroma of the frame. -/
structure PanesPartition (dev : EmulatedFakeCameraDevice) : Prop where
  covers : ∀ a, dev.InChroma a ↔ dev.IsU a ∨ dev.IsV a
  apart : ∀ a, ¬(dev.IsU a ∧ dev.IsV a)

/-- A luma byte is one of the row of the frame that is drawn, a chroma byte is a sample. -/
def Store.Within (dev : EmulatedFakeCameraDevice) : Store → Prop
  | .luma row a =>
      (0 ≤ row ∧ row < dev.mFrameHeight) ∧
        frame dev.toEmulatedCameraDevice + row * dev.mFrameWidth ≤ a ∧
          a < frame dev.toEmulatedCameraDevice + (row + 1) * dev.mFrameWidth
  | .chroma a => dev.IsU a ∨ dev.IsV a

/-- The animation, at any point. -/
def atCounters (dev : EmulatedFakeCameraDevice) (checkX checkY counter : Nat) :
    EmulatedFakeCameraDevice :=
  { dev with mCheckX := checkX, mCheckY := checkY, mCcounter := counter }

/-- Whatever picture is drawn, it is drawn within. -/
def DrawsWithin (dev : EmulatedFakeCameraDevice) : Prop :=
  ∀ (checkX checkY counter : Nat) (changeWhiteBalance : YUVPixel → YUVPixel)
    (changeExposure : UInt8 → UInt8) (memory : Int → UInt8),
      ∀ s ∈ (drawCheckerboard (dev.atCounters checkX checkY counter) changeWhiteBalance
        changeExposure ⟨memory, []⟩).2.stores, s.Within dev

/-! ## The picture -/

theorem forall_mem_pairStores {dev : EmulatedFakeCameraDevice} {row Y U V : Int}
    (hrow : 0 ≤ row ∧ row < dev.mFrameHeight)
    (hlow : frame dev.toEmulatedCameraDevice + row * dev.mFrameWidth ≤ Y)
    (hhigh : Y + 1 < frame dev.toEmulatedCameraDevice + (row + 1) * dev.mFrameWidth)
    (hU : dev.IsU U) (hV : dev.IsV V) : ∀ s ∈ pairStores row Y U V, s.Within dev := by
  have hfirst : Store.Within dev (.luma row Y) := ⟨hrow, hlow, by omega⟩
  have hsecond : Store.Within dev (.luma row (Y + 1)) := ⟨hrow, by omega, hhigh⟩
  simp only [pairStores, List.mem_cons, List.not_mem_nil, or_false, forall_eq_or_imp, forall_eq]
  exact ⟨hfirst, Or.inl hU, Or.inr hV, hfirst, hsecond⟩

/-- The sizes that a start has set, for `2 * columns` by `2 * rows` pixels. -/
structure Sized (dev : EmulatedFakeCameraDevice) (columns rows : Nat) : Prop where
  mFrameWidth : dev.mFrameWidth = 2 * columns
  mFrameHeight : dev.mFrameHeight = 2 * rows
  mUVTotalNum : dev.mUVTotalNum = rows * columns
  mUVInRow : dev.mUVInRow = columns * dev.mUVStep
  mUVStep : dev.mUVStep = 1 ∨ dev.mUVStep = 2
  columns_low : 10 ≤ columns
  rows_low : 10 ≤ rows
  pixels : 48 * (rows * columns) < 2 ^ 31

section Sized

variable {dev : EmulatedFakeCameraDevice} {columns rows : Nat} (h : dev.Sized columns rows)
include h

/-- The chroma of a pair of a row is that of a sample. -/
theorem Sized.sample {row pair : Nat} (hrow : row < 2 * rows) (hpair : pair < columns) :
    dev.IsU (dev.mFrameU + ((row / 2 * columns + pair : Nat) : Int) * dev.mUVStep) ∧
      dev.IsV (dev.mFrameV + ((row / 2 * columns + pair : Nat) : Int) * dev.mUVStep) := by
  have hrows : (row / 2 + 1) * columns ≤ rows * columns := Nat.mul_le_mul_right _ (by omega)
  have hindex : ((row / 2 * columns + pair : Nat) : Int) < dev.mUVTotalNum := by
    rw [h.mUVTotalNum, ← Int.natCast_mul, Int.ofNat_lt]
    rw [Nat.succ_mul] at hrows
    omega
  exact ⟨⟨_, hindex, rfl⟩, ⟨_, hindex, rfl⟩⟩

/-- Every row of the checkerboard is drawn from its first byte to its last. -/
theorem Sized.boardStores_within : ∀ s ∈ boardStores dev, s.Within dev := by
  intro s hs
  have hpairs : ((dev.mFrameWidth + 1) / 2).toNat = columns := by
    rw [h.mFrameWidth]
    omega
  have hheight : dev.mFrameHeight.toNat = 2 * rows := by
    rw [h.mFrameHeight]
    omega
  unfold boardStores at hs
  rw [hpairs, hheight] at hs
  obtain ⟨y, hy, hs⟩ := mem_pieces.mp hs
  obtain ⟨i, hi, hs⟩ := mem_pieces.mp hs
  obtain ⟨hU, hV⟩ := h.sample hy hi
  have hheight := h.mFrameHeight
  refine forall_mem_pairStores ⟨by omega, by omega⟩ ?_ ?_ hU hV s hs
  · rw [h.mFrameWidth]
    omega
  · rw [h.mFrameWidth, Int.add_mul]
    omega

/-- The offset of the chroma of a pair in a row of the square. -/
theorem Sized.squareUV_eq {x row i : Nat} (hrow : row < 2 * rows) (hpair : x / 2 + i < columns) :
    squareUV dev x row i = ((row / 2 * columns + (x / 2 + i) : Nat) : Int) * dev.mUVStep := by
  have hrows : (row / 2 + 1) * columns ≤ rows * columns := Nat.mul_le_mul_right _ (by omega)
  rw [Nat.succ_mul] at hrows
  have hpixels := h.pixels
  have hstart : ((row : Int).tdiv 2 * dev.mUVInRow) = (row / 2 * columns : Nat) * dev.mUVStep := by
    rw [h.mUVInRow, Int.tdiv_eq_ediv_of_nonneg (Int.natCast_nonneg row)]
    push_cast
    ring
  have hcolumn : (x : Int).tdiv 2 * dev.mUVStep = (x / 2 : Nat) * dev.mUVStep := by
    rw [Int.tdiv_eq_ediv_of_nonneg (Int.natCast_nonneg x)]
    push_cast
    ring
  -- with either step nothing leaves the range of an `int`
  have hinner : int32 ((row / 2 * columns : Nat) * dev.mUVStep) =
      (row / 2 * columns : Nat) * dev.mUVStep := by
    rcases h.mUVStep with hstep | hstep
    all_goals
      rw [hstep]
      exact int32_eq (by omega) (by omega)
  have houter : int32 ((row / 2 * columns : Nat) * dev.mUVStep + (x / 2 : Nat) * dev.mUVStep) =
      (row / 2 * columns : Nat) * dev.mUVStep + (x / 2 : Nat) * dev.mUVStep := by
    rcases h.mUVStep with hstep | hstep
    all_goals
      rw [hstep]
      exact int32_eq (by omega) (by omega)
  rw [squareUV, hstart, hcolumn, hinner, houter]
  push_cast
  ring

/-- A square that ends before the right edge is cut at the lower one. -/
theorem Sized.squareStores_within {x y : Nat} {size : Int} (hright : x + size < 2 * columns) :
    ∀ s ∈ squareStores dev x y size, s.Within dev := by
  intro s hs
  unfold squareStores at hs
  obtain ⟨j, hj, hs⟩ := mem_pieces.mp hs
  obtain ⟨i, hi, hs⟩ := mem_pieces.mp hs
  rw [h.mFrameHeight] at hj
  rw [h.mFrameWidth] at hi hs
  have hrow : y + j < 2 * rows := by omega
  have hpair : x / 2 + i < columns := by omega
  obtain ⟨hU, hV⟩ := h.sample hrow hpair
  rw [← h.squareUV_eq hrow hpair] at hU hV
  have hpixels := h.pixels
  have hlast : (y + 1) * (2 * columns) ≤ 2 * rows * (2 * columns) :=
    Nat.mul_le_mul_right _ (by omega)
  have harea : 2 * rows * (2 * columns) = 4 * (rows * columns) := by ring
  have hstart : int32 ((y : Int) * (2 * columns)) = (y : Int) * (2 * columns) := by
    have hnat : ((y * (2 * columns) : Nat) : Int) = (y : Int) * (2 * columns) := by push_cast; rfl
    rw [Nat.succ_mul] at hlast
    exact int32_eq (by omega) (by omega)
  have hheight := h.mFrameHeight
  have hadd : ((y : Int) + j) * (2 * columns) = (y : Int) * (2 * columns) + j * (2 * columns) :=
    Int.add_mul _ _ _
  rw [hstart] at hs
  refine forall_mem_pairStores ⟨by omega, by omega⟩ ?_ ?_ hU hV s hs
  · rw [h.mFrameWidth, hadd]
    omega
  · rw [h.mFrameWidth, Int.add_mul, hadd]
    omega

/-- Where the counter brings the square, it ends before the right edge. -/
theorem Sized.drawsWithin : dev.DrawsWithin := by
  intro checkX checkY counter changeWhiteBalance changeExposure memory s hs
  rw [stores_drawCheckerboard, List.nil_append, List.mem_append] at hs
  rcases hs with hs | hs
  · exact h.boardStores_within s hs
  · have hcolumns := h.columns_low
    have hpixels := h.pixels
    have hrows : 10 * columns ≤ rows * columns := Nat.mul_le_mul_right _ h.rows_low
    have hsize : dev.mFrameWidth.tdiv 10 = ((2 * columns / 10 : Nat) : Int) := by
      rw [h.mFrameWidth]
      rfl
    -- each coordinate is at most four times the tenth of the width
    have hcoordinate : ∀ factor, ∃ n : Nat, n ≤ 4 * (2 * columns / 10) ∧
        (int32 (bounce counter factor * dev.mFrameWidth.tdiv 10)).tdiv 32 = n := by
      intro factor
      obtain ⟨hlow, hhigh⟩ := bounce_range counter factor
      obtain ⟨b, hb⟩ := Int.eq_ofNat_of_zero_le hlow
      have hmul : b * (2 * columns / 10) ≤ 128 * (2 * columns / 10) :=
        Nat.mul_le_mul_right _ (by omega)
      refine ⟨b * (2 * columns / 10) / 32, by omega, ?_⟩
      rw [hb, hsize, ← Int.natCast_mul, int32_eq (by omega) (by omega)]
      rfl
    obtain ⟨x, hx, hxeq⟩ := hcoordinate 3
    obtain ⟨y, -, hyeq⟩ := hcoordinate 5
    have hsquare : s ∈ squareStores dev x y (dev.mFrameWidth.tdiv 10 * 5 / 2) := by
      rw [← hxeq, ← hyeq]
      exact hs
    exact h.squareStores_within (by rw [hsize]; omega) s hsquare

end Sized

/-! ## The panes -/

/-- The samples of a plane of their own. -/
theorem mem_plane {base a : Int} {n : Nat} :
    (∃ i : Nat, (i : Int) < n ∧ a = base + i * 1) ↔ base ≤ a ∧ a < base + n := by
  constructor
  · rintro ⟨i, hi, rfl⟩
    omega
  · rintro ⟨hlow, hhigh⟩
    exact ⟨(a - base).toNat, by omega, by omega⟩

/-- The samples of a plane that is shared by two. -/
theorem mem_shared {base a : Int} {n : Nat} :
    (∃ i : Nat, (i : Int) < n ∧ a = base + i * 2) ↔
      base ≤ a ∧ a < base + 2 * n ∧ (a - base) % 2 = 0 := by
  constructor
  · rintro ⟨i, hi, rfl⟩
    omega
  · rintro ⟨hlow, hhigh, heven⟩
    exact ⟨((a - base) / 2).toNat, by omega, by omega⟩

/-- The arithmetic of a start, for `4 * n` pixels. -/
theorem sizes_eq {n : Nat} (h : 48 * n < 2 ^ 31) :
    int32 (4 * n) = 4 * n ∧ (4 * n : Int).tdiv 4 = n ∧
      uint32 ((int32 (4 * n * 12)).tdiv 8) = 6 * n := by
  have hbits : (4 * n * 12 : Int).tdiv 8 = 6 * n := by
    rw [Int.tdiv_eq_ediv_of_nonneg (by omega)]
    omega
  refine ⟨int32_eq (by omega) (by omega), Int.mul_tdiv_cancel_left _ (by decide), ?_⟩
  rw [int32_eq (by omega) (by omega), hbits]
  have hsize : (uint32 (6 * n) : Int) = 6 * n := uint32_eq (by omega) (by omega)
  omega

theorem area_eq (columns rows : Nat) :
    (2 * columns * (2 * rows) : Int) = 4 * (rows * columns : Nat) := by
  push_cast
  ring

section Started

variable {dev : EmulatedFakeCameraDevice} {U₀ : Int} {size address columns rows : Nat}
  {pix_fmt : BitVec 32} (h : dev.StartedWith U₀ size address (2 * columns) (2 * rows) pix_fmt)
include h

theorem StartedWith.sized (hcolumns : 10 ≤ columns) (hrows : 10 ≤ rows)
    (hpixels : 48 * (rows * columns) < 2 ^ 31) : dev.Sized columns rows := by
  have hrow : 10 * columns ≤ rows * columns := Nat.mul_le_mul_right _ hrows
  have hstep : dev.mUVStep = 1 ∨ dev.mUVStep = 2 := by
    have hpanes := h.panes
    generalize dev.mFrameU = U, dev.mFrameV = V, dev.mUVStep = step at hpanes ⊢
    cases hpanes with
    | YVU420 | YUV420 => exact Or.inl rfl
    | NV21 | NV12 => exact Or.inr rfl
  refine ⟨h.mFrameWidth, h.mFrameHeight, ?_, ?_, hstep, hcolumns, hrows, hpixels⟩
  · rw [h.mUVTotalNum, area_eq, (sizes_eq hpixels).1, (sizes_eq hpixels).2.1]
    exact Int.natCast_mul rows columns
  · have hhalf : (2 * columns : Int).tdiv 2 = columns := Int.mul_tdiv_cancel_left _ (by decide)
    rw [h.mUVInRow, hhalf]
    rcases hstep with hstep | hstep
    all_goals
      rw [hstep]
      exact int32_eq (by omega) (by omega)

/-- Without an overflow there are six bytes for four pixels. -/
theorem StartedWith.inChroma_iff (hpixels : 48 * (rows * columns) < 2 ^ 31) (a : Int) :
    dev.InChroma a ↔
      address + 4 * (rows * columns : Nat) ≤ a ∧ a < address + 6 * (rows * columns : Nat) := by
  have hsize : size = 6 * (rows * columns) := by
    rw [h.size_eq, area_eq, (sizes_eq hpixels).1, (sizes_eq hpixels).2.2]
  rw [InChroma, h.frame, h.mFrameWidth, h.mFrameHeight, h.mFrameBufferSize, area_eq, hsize]
  push_cast
  rfl

/-- The samples share the chroma in three formats, and in the fourth if `mFrameU` was already where
the chroma begins. -/
theorem StartedWith.panesPartition_iff (hcolumns : 10 ≤ columns) (hrows : 10 ≤ rows)
    (hpixels : 48 * (rows * columns) < 2 ^ 31) :
    dev.PanesPartition ↔
      (pix_fmt = V4L2_PIX_FMT_YVU420 → U₀ = address + 4 * (rows * columns : Nat)) := by
  obtain ⟨hword, hquarter, -⟩ := sizes_eq hpixels
  have htotal : dev.mUVTotalNum = (rows * columns : Nat) := (h.sized hcolumns hrows hpixels).3
  have hchroma := h.inChroma_iff hpixels
  have hpositive : 100 ≤ rows * columns := Nat.mul_le_mul hrows hcolumns
  have hpanes := h.panes
  rw [area_eq, hword] at hpanes
  have hU : ∀ a, dev.IsU a ↔ ∃ i : Nat, (i : Int) < (rows * columns : Nat) ∧
      a = dev.mFrameU + i * dev.mUVStep := fun a => by rw [IsU, htotal]
  have hV : ∀ a, dev.IsV a ↔ ∃ i : Nat, (i : Int) < (rows * columns : Nat) ∧
      a = dev.mFrameV + i * dev.mUVStep := fun a => by rw [IsV, htotal]
  generalize dev.mFrameU = U, dev.mFrameV = V, dev.mUVStep = step at hpanes hU hV
  generalize rows * columns = q at *
  cases hpanes with
  | YVU420 =>
      simp only [mem_plane, hquarter] at hU hV
      constructor
      · intro hpartition _
        -- the first and the last U sample are in the chroma, behind the V samples
        have hapart := hpartition.apart (U₀ + q)
        have hfirst := hpartition.covers (U₀ + q)
        have hlast := hpartition.covers (U₀ + q + q - 1)
        rw [hU, hV] at hapart
        rw [hchroma, hU, hV] at hfirst hlast
        omega
      · intro hbase
        have hU₀ := hbase rfl
        refine ⟨fun a => ?_, fun a => ?_⟩
        · rw [hchroma, hU, hV]
          omega
        · rw [hU, hV]
          omega
  | YUV420 =>
      simp only [mem_plane, hquarter] at hU hV
      refine iff_of_true ⟨fun a => ?_, fun a => ?_⟩ (fun hformat => absurd hformat (by decide))
      · rw [hchroma, hU, hV]
        omega
      · rw [hU, hV]
        omega
  | NV21 | NV12 =>
      simp only [mem_shared] at hU hV
      refine iff_of_true ⟨fun a => ?_, fun a => ?_⟩ (fun hformat => absurd hformat (by decide))
      · rw [hchroma, hU, hV]
        omega
      · rw [hU, hV]
        omega

/-- After an overflow the frame ends within what should be its luma. -/
theorem StartedWith.size_le (hsize : size < 2 ^ 31) (hpixels : 2 ^ 31 ≤ 48 * (rows * columns)) :
    size ≤ 4 * (rows * columns) := by
  have heq := h.size_eq
  rw [area_eq] at heq
  generalize rows * columns = q at *
  rcases Int.le_total 0 (int32 (int32 (4 * q) * 12)) with hpositive | hnegative
  · -- at most a byte for each eight bits, and a frame with less luma would not have overflowed
    have hhigh := int32_lt (int32 (4 * q) * 12)
    rw [Int.tdiv_eq_ediv_of_nonneg hpositive] at heq
    have hword : (uint32 (int32 (int32 (4 * q) * 12) / 8) : Int) =
        int32 (int32 (4 * q) * 12) / 8 := uint32_eq (by omega) (by omega)
    by_contra hlarge
    have hpixel : int32 (4 * q) = 4 * q := int32_eq (by omega) (by omega)
    obtain ⟨k, hk⟩ := exists_int32 (4 * q * 12)
    have hlow := le_int32 (4 * q * 12)
    rw [hpixel] at heq hword hpositive hhigh
    have hnone : k ≤ 0 := by omega
    omega
  · -- a negative number of bytes is an enormous one
    have hlow := le_int32 (int32 (4 * q) * 12)
    generalize int32 (int32 (4 * q) * 12) = bits at heq hlow hnegative
    have hbytes : bits.tdiv 8 = -(-bits / 8) := by
      rw [← Int.neg_neg bits, Int.neg_tdiv, Int.tdiv_eq_ediv_of_nonneg (by omega), Int.neg_neg]
    have hrange : 0 ≤ -bits / 8 ∧ -bits / 8 ≤ 2 ^ 28 := by omega
    rw [hbytes, uint32] at heq
    generalize -bits / 8 = bytes at heq hrange
    omega

/-- After an overflow there is no chroma, and it is drawn nevertheless. -/
theorem StartedWith.not_within (hcolumns : 10 ≤ columns) (hrows : 10 ≤ rows)
    (hsize : size < 2 ^ 31) (hpixels : 2 ^ 31 ≤ 48 * (rows * columns))
    (hpartition : dev.PanesPartition) : ¬dev.DrawsWithin := by
  intro hdraws
  have hnone : ∀ a, ¬dev.InChroma a := by
    rintro a ⟨hlow, hhigh⟩
    have hle := h.size_le hsize hpixels
    rw [h.frame, h.mFrameWidth, h.mFrameHeight, area_eq] at hlow
    rw [h.frame, h.mFrameBufferSize] at hhigh
    omega
  -- the first pair of the first row
  have hstore : Store.chroma dev.mFrameU ∈ (drawCheckerboard (dev.atCounters 0 0 0) id id
      ⟨fun _ => 0, []⟩).2.stores := by
    rw [stores_drawCheckerboard]
    apply List.mem_append_left
    apply List.mem_append_right
    refine mem_pieces.mpr ⟨0, ?_, mem_pieces.mpr ⟨0, ?_, ?_⟩⟩
    · change 0 < dev.mFrameHeight.toNat
      rw [h.mFrameHeight]
      omega
    · change 0 < ((dev.mFrameWidth + 1) / 2).toNat
      rw [h.mFrameWidth]
      omega
    · simp [pairStores, boardUV, atCounters]
  exact hnone _ ((hpartition.covers _).mpr (hdraws 0 0 0 id id (fun _ => 0) _ hstore))

end Started

/-! ## All formats and sizes -/

/-- A device that was started with an even width and height has panes that share the chroma of the
frame, and never draws outside of the row or the panes, if and only if the size of the frame did not
overflow and, for the format `YVU420`, `mFrameU` was the end of the luma before the start.
A block of memory has less than half of the addresses. -/
theorem drawsFrame_iff {dev dev' : EmulatedFakeCameraDevice} {new : Nat → Option Nat}
    {width height : Int} {pix_fmt : BitVec 32}
    (hnew : ∀ size address, new size = some address → size < 2 ^ 31)
    (hwidth : 20 ≤ width ∧ width % 2 = 0) (hheight : 20 ≤ height ∧ height % 2 = 0)
    (hstart : dev.startDevice new width height pix_fmt = (NO_ERROR, dev')) :
    dev'.PanesPartition ∧ dev'.DrawsWithin ↔
      12 * (width * height) < 2 ^ 31 ∧ (pix_fmt = V4L2_PIX_FMT_YVU420 →
        ∀ address, new (width * height * 3 / 2).toNat = some address →
          dev.mFrameU = address + width * height) := by
  obtain ⟨columns, hcolumns⟩ : ∃ n : Nat, width = 2 * n := ⟨(width / 2).toNat, by omega⟩
  obtain ⟨rows, hrows⟩ : ∃ n : Nat, height = 2 * n := ⟨(height / 2).toNat, by omega⟩
  subst hcolumns hrows
  obtain ⟨size, address, hsize, hstarted⟩ := startDevice_spec hstart
  have hcolumns : 10 ≤ columns := by omega
  have hrows : 10 ≤ rows := by omega
  rw [area_eq]
  by_cases hpixels : 48 * (rows * columns) < 2 ^ 31
  · have hsame : (4 * (rows * columns : Nat) * 3 / 2 : Int).toNat = size := by
      rw [hstarted.size_eq, area_eq, (sizes_eq hpixels).1, (sizes_eq hpixels).2.2]
      omega
    rw [hstarted.panesPartition_iff hcolumns hrows hpixels, hsame, hsize]
    constructor
    · rintro ⟨hpanes, -⟩
      refine ⟨by omega, fun hformat a ha => ?_⟩
      cases ha
      exact hpanes hformat
    · rintro ⟨-, hpanes⟩
      exact ⟨fun hformat => hpanes hformat address rfl,
        (hstarted.sized hcolumns hrows hpixels).drawsWithin⟩
  · constructor
    · rintro ⟨hpartition, hdraws⟩
      exact absurd hdraws (hstarted.not_within hcolumns hrows (hnew _ _ hsize) (by omega)
        hpartition)
    · rintro ⟨hbits, -⟩
      omega

/-- A device that was connected; a device that was stopped has no panes. -/
def connected : EmulatedFakeCameraDevice where
  toEmulatedCameraDevice := { EmulatedCameraDevice.initialized with mState := .ECDS_CONNECTED }
  mBlackYUV := ⟨8, 128, 128⟩
  mWhiteYUV := ⟨117, 128, 128⟩
  mRedYUV := ⟨40, 90, 240⟩
  mGreenYUV := ⟨72, 54, 34⟩
  mFrameU := 0
  mFrameV := 0
  mUVStep := 1
  mUVInRow := 0
  mUVTotalNum := 0
  mCheckX := 0
  mCheckY := 0
  mCcounter := 0

/-- An allocator with one block of a megabyte. -/
def megabyte (size : Nat) : Option Nat := if size ≤ 0x100000 then some 0x40000000 else none

theorem megabyte_lt {size address : Nat} (h : megabyte size = some address) : size < 2 ^ 31 := by
  unfold megabyte at h
  split at h
  · omega
  · cases h

theorem drawsFrame_vga :
    (connected.startDevice megabyte 640 480 V4L2_PIX_FMT_NV21).2.PanesPartition ∧
      (connected.startDevice megabyte 640 480 V4L2_PIX_FMT_NV21).2.DrawsWithin := by
  have hstart : connected.startDevice megabyte 640 480 V4L2_PIX_FMT_NV21 =
      (NO_ERROR, (connected.startDevice megabyte 640 480 V4L2_PIX_FMT_NV21).2) := rfl
  exact (drawsFrame_iff (fun _ _ => megabyte_lt) (by decide) (by decide) hstart).mpr
    ⟨by decide, fun hformat => absurd hformat (by decide)⟩

/-- In the format `YVU420` the U pane is where `NULL` and a quarter of the pixels lead. -/
theorem not_drawsFrame : ¬∀ (dev dev' : EmulatedFakeCameraDevice) (new : Nat → Option Nat)
    (width height : Int) (pix_fmt : BitVec 32),
      (∀ size address, new size = some address → size < 2 ^ 31) →
        20 ≤ width ∧ width % 2 = 0 → 20 ≤ height ∧ height % 2 = 0 →
          dev.startDevice new width height pix_fmt = (NO_ERROR, dev') →
            dev'.PanesPartition ∧ dev'.DrawsWithin := by
  intro h
  obtain ⟨hpartition, -⟩ := h connected
    (connected.startDevice megabyte 640 480 V4L2_PIX_FMT_YVU420).2 megabyte 640 480
    V4L2_PIX_FMT_YVU420 (fun _ _ => megabyte_lt) (by decide) (by decide) rfl
  have hsample := (hpartition.covers 76800).mpr (Or.inl ⟨0, by decide, rfl⟩)
  exact absurd hsample.1 (by decide)

end EmulatedFakeCameraDevice
end Camera
end DeviceAndroVM
