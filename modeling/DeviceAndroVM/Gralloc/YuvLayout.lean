import DeviceAndroVM.Gralloc.BufferSize
import DeviceAndroVM.Library.SamplePlane
import Mathlib.Data.BitVec
import Mathlib.Tactic.Ring

/-!
# Locking a buffer with colour planes

`gralloc_lock_ycbcr` of `gralloc.cpp`, where no fallback module is loaded.  The flexible format is
stored with a plane of luma, and behind it one of chroma, in which a Cr byte and a Cb byte take
turns.  `gralloc_alloc` counts `w / 2` by `h / 2` pairs; the rows that are handed out are `w` apart,
and a picture has a sample for every half that is begun.

* `grallocLockYcbcr` — what the call fills in.
* `Sample`, `AndroidYcbcr.address` — the samples of a picture, and where a caller finds them.
* `SamplesHeld` — all of them lie in the mapping, at different addresses.
* `samplesHeld_iff` — the sizes for which that is so: even ones, and some that the rounding to
  pages saves.
-/

namespace DeviceAndroVM
namespace Gralloc

open Library

abbrev EACCES : CInt := 13#32

/-! ## The call -/

/-- `android_ycbcr`. -/
structure AndroidYcbcr where
  y : CInt
  cb : CInt
  cr : CInt
  ystride : CInt
  cstride : CInt
  chroma_step : CInt
  reserved : List CInt
  deriving DecidableEq

/-- The rectangle that a handle keeps until it is unlocked. -/
structure LockedRect where
  lockedLeft : CInt
  lockedTop : CInt
  lockedWidth : CInt
  lockedHeight : CInt
  deriving DecidableEq

/-- The arguments of `gralloc_lock_ycbcr`; `valid` is that no pointer is NULL and the handle is
one of `gralloc_alloc`. -/
structure LockRequest where
  valid : Bool
  usage : CInt
  l : CInt
  t : CInt
  w : CInt
  h : CInt

def CbHandle.canBePosted (cb : CbHandle) : Bool := has cb.usage GRALLOC_USAGE_HW_FB

/-- `gralloc_lock_ycbcr` in the process `pid`: the error, or what it fills in. -/
def grallocLockYcbcr (cb : CbHandle) (lock : LockRequest) (pid : CInt) :
    Except CInt (AndroidYcbcr × LockedRect) :=
  if !lock.valid then .error (-EINVAL)
  else if cb.frameworkFormat ≠ HAL_PIXEL_FORMAT_YCbCr_420_888 then .error (-EINVAL)
  else
    let sw_read := has lock.usage GRALLOC_USAGE_SW_READ_MASK
    let hw_cam_write := has lock.usage GRALLOC_USAGE_HW_CAMERA_WRITE
    let sw_read_allowed := has cb.usage GRALLOC_USAGE_SW_READ_MASK
    if (!hw_cam_write && !sw_read) || (sw_read && !sw_read_allowed) then .error (-EINVAL)
    else if cb.ashmemBasePid ≠ pid ∨ cb.ashmemBase = 0#32 then .error (-EACCES)
    else
      let cpu_addr := if cb.canBePosted then cb.ashmemBase + 4 else cb.ashmemBase
      if cb.format = HAL_PIXEL_FORMAT_YCrCb_420_SP then
        let yStride := cb.width
        let cStride := cb.width
        let yOffset : CInt := 0
        let vOffset := yStride * cb.height
        let uOffset := vOffset + 1
        let cStep : CInt := 2
        .ok ({ y := cpu_addr + yOffset, cb := cpu_addr + uOffset, cr := cpu_addr + vOffset
               ystride := yStride, cstride := cStride, chroma_step := cStep
               reserved := List.replicate 8 0 }, ⟨lock.l, lock.t, lock.w, lock.h⟩)
      else .error (-EINVAL)

/-! ## Samples -/

/-- A request for a picture in the flexible format, of fewer than 2 ^ 30 pixels. -/
structure YcbcrRequest extends AllocRequest where
  w_pos : 0 < w.toInt
  h_pos : 0 < h.toInt
  small : w.toNat * h.toNat * 2 < 2 ^ 31
  flexible : format = HAL_PIXEL_FORMAT_YCbCr_420_888

namespace YcbcrRequest

/-- The rows of chroma: one for each two rows that are begun. -/
def chromaRows (r : YcbcrRequest) : Nat := (r.h.toNat + 1) / 2

def chromaColumns (r : YcbcrRequest) : Nat := (r.w.toNat + 1) / 2

/-- The samples of a picture. -/
inductive Sample (r : YcbcrRequest)
  | y (row : Fin r.h.toNat) (column : Fin r.w.toNat)
  | cb (row : Fin r.chromaRows) (column : Fin r.chromaColumns)
  | cr (row : Fin r.chromaRows) (column : Fin r.chromaColumns)

/-- The address of a sample, as the fields of `android_ycbcr` are meant. -/
def address {r : YcbcrRequest} (ycbcr : AndroidYcbcr) : r.Sample → CInt
  | .y row column => ycbcr.y + (BitVec.ofNat 32 row * ycbcr.ystride + BitVec.ofNat 32 column)
  | .cb row column => ycbcr.cb +
      (BitVec.ofNat 32 row * ycbcr.cstride + BitVec.ofNat 32 column * ycbcr.chroma_step)
  | .cr row column => ycbcr.cr +
      (BitVec.ofNat 32 row * ycbcr.cstride + BitVec.ofNat 32 column * ycbcr.chroma_step)

/-- Wherever the buffer is mapped: each sample of a locked picture lies in the mapping, and no two
have one address. -/
def SamplesHeld (r : YcbcrRequest) : Prop :=
  ∀ reply cb base basePid mappedPid lock pid ycbcr rect,
    (allocBuffer r.toAllocRequest reply).status = 0#32 →
    (allocBuffer r.toAllocRequest reply).cb = some cb →
    grallocLockYcbcr { cb with ashmemBase := base, ashmemBasePid := basePid, mappedPid } lock pid =
      .ok (ycbcr, rect) →
    (∀ s : r.Sample, ((address ycbcr s - base).toNat : Int) < cb.ashmemSize.toInt) ∧
      Function.Injective (address ycbcr : r.Sample → CInt)

/-! ## The layout -/

variable (r : YcbcrRequest)

theorem toNat_w_pos : 0 < r.w.toNat := by
  have hpos := r.w_pos
  have hw := toNat_eq_toInt hpos
  omega

theorem toNat_h_pos : 0 < r.h.toNat := by
  have hpos := r.h_pos
  have hh := toNat_eq_toInt hpos
  omega

/-- The bytes before the picture. -/
def counterBytes : Nat := if has r.usage GRALLOC_USAGE_HW_FB then 4 else 0

def lumaPlane : SamplePlane where
  rows := r.h.toNat
  columns := r.w.toNat
  step := 1
  stride := r.w.toNat
  rows_pos := r.toNat_h_pos
  columns_pos := r.toNat_w_pos
  step_pos := by decide

/-- The plane of chroma: its first part is Cr, its second Cb. -/
def chromaPlane : SamplePlane where
  rows := r.chromaRows
  columns := r.chromaColumns
  step := 2
  stride := r.w.toNat
  rows_pos := by
    have hpos := r.toNat_h_pos
    unfold chromaRows
    omega
  columns_pos := by
    have hpos := r.toNat_w_pos
    unfold chromaColumns
    omega
  step_pos := by decide

/-- The samples as the cells of the two planes. -/
def cells : r.Sample ≃ r.lumaPlane.Cell ⊕ r.chromaPlane.Cell where
  toFun
    | .y row column => .inl ⟨row, column, (0 : Fin 1)⟩
    | .cb row column => .inr ⟨row, column, (1 : Fin 2)⟩
    | .cr row column => .inr ⟨row, column, (0 : Fin 2)⟩
  invFun
    | .inl c => .y c.row c.column
    | .inr c => if c.part.val = 0 then .cr c.row c.column else .cb c.row c.column
  left_inv := by
    rintro (s | s | s)
    · rfl
    · rfl
    · rfl
  right_inv := by
    rintro (⟨row, column, part⟩ | ⟨row, column, part⟩)
    · obtain rfl : part = (0 : Fin 1) := Subsingleton.elim (α := Fin 1) part 0
      rfl
    · revert part
      exact Fin.forall_fin_two.mpr ⟨rfl, rfl⟩

/-- Where a sample lies in the area. -/
def offset (s : r.Sample) : Nat :=
  SamplePlane.stacked r.lumaPlane r.chromaPlane r.counterBytes (r.cells s)

/-- A row of chroma has one byte more than the stride if the width is odd. -/
theorem offset_injective_iff :
    Function.Injective r.offset ↔ r.w.toNat % 2 = 0 ∨ r.h.toNat ≤ 2 := by
  have hluma : Function.Injective r.lumaPlane.offset :=
    SamplePlane.injective_of_le (Nat.mul_one r.w.toNat).le
  have hw := r.toNat_w_pos
  have hh := r.toNat_h_pos
  have hcolumns : (r.w.toNat + 1) / 2 * 2 ≤ r.w.toNat ↔ r.w.toNat % 2 = 0 := by omega
  have hrows : (r.h.toNat + 1) / 2 = 1 ↔ r.h.toNat ≤ 2 := by omega
  have hcells : r.offset =
      SamplePlane.stacked r.lumaPlane r.chromaPlane r.counterBytes ∘ r.cells := rfl
  rw [hcells, Equiv.injective_comp, SamplePlane.stacked_injective_iff, and_iff_right hluma,
    SamplePlane.offset_injective_iff, or_comm]
  exact or_congr hcolumns hrows

/-- The end of the last sample. -/
def extent : Nat :=
  r.counterBytes + r.w.toNat * r.h.toNat +
    ((r.chromaRows - 1) * r.w.toNat + r.chromaColumns * 2)

theorem extent_lumaPlane : r.lumaPlane.extent = r.w.toNat * r.h.toNat := by
  obtain ⟨rows, hrows⟩ := Nat.exists_eq_add_of_le' r.toNat_h_pos
  change (r.h.toNat - 1) * r.w.toNat + r.w.toNat * 1 = _
  rw [hrows, Nat.add_sub_cancel, Nat.mul_one, Nat.mul_comm, ← Nat.mul_succ]

theorem offset_lt_iff {size : Nat} : (∀ s, r.offset s < size) ↔ r.extent ≤ size := by
  have hextent : r.extent = r.counterBytes + r.lumaPlane.extent + r.chromaPlane.extent := by
    rw [r.extent_lumaPlane]
    rfl
  rw [hextent, ← SamplePlane.stacked_lt_iff]
  exact (r.cells.surjective.forall
    (p := fun c => SamplePlane.stacked r.lumaPlane r.chromaPlane r.counterBytes c < size)).symm

/-! ## The area -/

/-- The picture with the counter, as `gralloc_alloc` adds it up, over the integers. -/
def imageBytes : Nat :=
  r.counterBytes + (r.w.toNat * r.h.toNat + 2 * (r.h.toNat / 2 * (r.w.toNat / 2)))

/-- What the rounding to pages leaves behind the picture. -/
def padding : Nat := Library.roundUp r.imageBytes 4096 - r.imageBytes

/-- The sizes for which no sample is lost. -/
def ChromaFits : Prop :=
  r.w.toNat % 2 = 0 ∧ (r.h.toNat % 2 = 0 ∨ r.w.toNat ≤ r.padding) ∨
    r.w.toNat % 2 = 1 ∧
      (r.h.toNat = 2 ∧ 2 ≤ r.padding ∨ r.h.toNat = 1 ∧ r.w.toNat + 1 ≤ r.padding)

/-- How far the last sample is from the end of what was counted. -/
theorem extent_eq :
    r.extent + (r.h.toNat / 2) * (r.w.toNat / 2 * 2) =
      r.imageBytes + ((r.chromaRows - 1) * r.w.toNat + r.chromaColumns * 2) := by
  unfold extent imageBytes
  ring

theorem chromaFits_iff :
    r.ChromaFits ↔ r.extent ≤ Library.roundUp r.imageBytes 4096 ∧
      (r.w.toNat % 2 = 0 ∨ r.h.toNat ≤ 2) := by
  have hw := r.toNat_w_pos
  have hh := r.toNat_h_pos
  have hpages : r.imageBytes ≤ Library.roundUp r.imageBytes 4096 := le_roundUp (by decide)
  have hend := r.extent_eq
  unfold ChromaFits padding
  unfold chromaRows chromaColumns at hend
  rcases Nat.mod_two_eq_zero_or_one r.w.toNat with hodd | hodd
  · -- the pairs of an even width fill the stride, so that only a half row can be missing
    have hpairs : (r.w.toNat + 1) / 2 * 2 = r.w.toNat := by omega
    have hhalf : r.w.toNat / 2 * 2 = r.w.toNat := by omega
    rw [hpairs, hhalf] at hend
    obtain ⟨rows, hrows⟩ := Nat.exists_eq_add_of_le' (show 0 < (r.h.toNat + 1) / 2 by omega)
    rw [hrows, Nat.add_sub_cancel] at hend
    rcases Nat.mod_two_eq_zero_or_one r.h.toNat with heven | heven
    · have hcounted : r.h.toNat / 2 = rows + 1 := by omega
      rw [hcounted, Nat.add_mul, Nat.one_mul] at hend
      omega
    · have hcounted : r.h.toNat / 2 = rows := by omega
      rw [hcounted] at hend
      omega
  · by_cases hlow : r.h.toNat ≤ 2
    · have hone : (r.h.toNat + 1) / 2 = 1 := by omega
      have hpairs : (r.w.toNat + 1) / 2 * 2 = r.w.toNat + 1 := by omega
      have hhalf : r.w.toNat / 2 * 2 = r.w.toNat - 1 := by omega
      rw [hone, hpairs, hhalf, Nat.sub_self, Nat.zero_mul] at hend
      rcases (show r.h.toNat = 1 ∨ r.h.toNat = 2 by omega) with h | h
      · rw [h] at hend ⊢
        omega
      · rw [h] at hend ⊢
        omega
    · omega

/-- The pairs that are counted are at most one for four pixels. -/
theorem four_pairs_le (w h : Nat) : 4 * (h / 2 * (w / 2)) ≤ w * h := by
  have hmul : w / 2 * 2 * (h / 2 * 2) ≤ w * h :=
    Nat.mul_le_mul (Nat.div_mul_le_self w 2) (Nat.div_mul_le_self h 2)
  have hfour : w / 2 * 2 * (h / 2 * 2) = 4 * (h / 2 * (w / 2)) := by ring
  omega

theorem counterBytes_le : r.counterBytes ≤ 4 := by
  unfold counterBytes
  split
  · exact le_rfl
  · exact Nat.zero_le 4

theorem imageBytes_le : r.imageBytes ≤ 2 ^ 31 - 4096 := by
  have hpairs := four_pairs_le r.w.toNat r.h.toNat
  have hcounter := r.counterBytes_le
  have hsmall := r.small
  unfold imageBytes
  omega

/-- No offset of a sample wraps around. -/
theorem extent_le : r.extent ≤ 2 ^ 32 := by
  have hcounter := r.counterBytes_le
  have hsmall := r.small
  have hwidth : r.w.toNat * 1 ≤ r.w.toNat * r.h.toNat := Nat.mul_le_mul_left _ r.toNat_h_pos
  have hrows : (r.chromaRows - 1) * r.w.toNat ≤ r.h.toNat * r.w.toNat := by
    refine Nat.mul_le_mul_right _ ?_
    unfold chromaRows
    omega
  rw [Nat.mul_comm r.h.toNat] at hrows
  unfold extent chromaColumns
  omega

/-- Rounding to single bytes. -/
theorem roundUp_byte (n : CInt) : roundUp n 1 = n := by
  have hmask : (1 : CInt) - 1 = 0#32 := rfl
  rw [roundUp, hmask, BitVec.add_zero, BitVec.not_zero, BitVec.and_allOnes]

theorem toNat_sdiv_two {n : CInt} (hn : 0 < n.toInt) : (n.sdiv 2).toNat = n.toNat / 2 := by
  have hmsb : n.msb = false := by
    rw [BitVec.msb_eq_toInt]
    exact decide_eq_false (by omega)
  rw [BitVec.sdiv_eq, hmsb]
  rfl

variable {r} {plan : Plan}

/-- What `gralloc_alloc` adds up does not overflow for the sizes at issue. -/
theorem ashmem_size_eq (h : r.plan = some plan) : plan.ashmem_size.toNat = r.imageBytes := by
  have hinfo := (plan_flexible h r.flexible).2.2
  have hcamera := (plan_flexible h r.flexible).1
  have hfits := r.imageBytes_le
  have hhalf := toNat_sdiv_two r.h_pos
  have hcounter : (if has r.usage GRALLOC_USAGE_HW_FB then (4 : CInt) else 0).toNat =
      r.counterBytes := by
    unfold counterBytes
    split <;> rfl
  have hsize : plan.ashmem_size =
      (if has r.usage GRALLOC_USAGE_HW_FB then 4 else 0) +
        (r.w * r.h + 2 * (r.h.sdiv 2 * (r.w / 2))) := by
    rw [(plan_eq h).2.2.1, hinfo]
    simp only [imageSize, hcamera, Bool.or_true, Bool.true_or, if_true, mul_one, roundUp_byte]
  unfold imageBytes at hfits ⊢
  rw [hsize, BitVec.toNat_add, hcounter, BitVec.toNat_add, BitVec.toNat_mul, BitVec.toNat_mul,
    BitVec.toNat_mul, hhalf, BitVec.toNat_udiv]
  change (_ + (_ + 2 * (r.h.toNat / 2 * (r.w.toNat / 2) % _) % _) % _) % _ = _
  omega

/-- The area is the picture rounded to pages. -/
theorem areaSize_eq (h : r.plan = some plan) :
    plan.areaSize.toInt = Library.roundUp r.imageBytes 4096 := by
  have hsize := ashmem_size_eq h
  have hfits := r.imageBytes_le
  have hsome : 0 < r.imageBytes := by
    have hpixels : 0 < r.w.toNat * r.h.toNat := Nat.mul_pos r.toNat_w_pos r.toNat_h_pos
    unfold imageBytes
    omega
  have harea : plan.areaSize.toNat = _ :=
    toNat_areaSize (positive_of_toNat (by omega) (by omega))
  rw [BitVec.toNat_add, BitVec.toNat_ofNat, hsize] at harea
  rw [Library.roundUp, Nat.ceilDiv_eq_add_pred_div, BitVec.toInt_eq_toNat_cond]
  split <;> omega

/-! ## Locked pictures -/

variable {cb : CbHandle} {lock : LockRequest} {pid : CInt} {ycbcr : AndroidYcbcr}
  {rect : LockedRect}

/-- The start of the picture. -/
theorem cpu_addr_eq (hmade : cb.MadeFor r.toAllocRequest plan) :
    (if cb.canBePosted then cb.ashmemBase + 4 else cb.ashmemBase) =
      cb.ashmemBase + BitVec.ofNat 32 r.counterBytes := by
  rw [CbHandle.canBePosted, hmade.usage, counterBytes]
  split
  · rfl
  · exact (BitVec.add_zero _).symm

/-- What a lock fills in. -/
theorem ycbcr_eq (hmade : cb.MadeFor r.toAllocRequest plan)
    (h : grallocLockYcbcr cb lock pid = .ok (ycbcr, rect)) :
    ycbcr =
      { y := cb.ashmemBase + BitVec.ofNat 32 r.counterBytes + 0
        cb := cb.ashmemBase + BitVec.ofNat 32 r.counterBytes + (r.w * r.h + 1)
        cr := cb.ashmemBase + BitVec.ofNat 32 r.counterBytes + r.w * r.h
        ystride := r.w, cstride := r.w, chroma_step := 2, reserved := List.replicate 8 0 } := by
  unfold grallocLockYcbcr at h
  rw [cpu_addr_eq hmade, hmade.width, hmade.height] at h
  split at h
  · cases h
  · split at h
    · cases h
    · simp only at h
      split at h
      · cases h
      · split at h
        · cases h
        · split at h
          · cases h
            rfl
          · cases h

/-- A caller finds a sample where the layout has it. -/
theorem address_eq (hmade : cb.MadeFor r.toAllocRequest plan)
    (h : grallocLockYcbcr cb lock pid = .ok (ycbcr, rect)) (s : r.Sample) :
    address ycbcr s - cb.ashmemBase = BitVec.ofNat 32 (r.offset s) := by
  have hw : BitVec.ofNat 32 r.w.toNat = r.w := BitVec.ofNat_toNat 32 r.w
  have hh : BitVec.ofNat 32 r.h.toNat = r.h := BitVec.ofNat_toNat 32 r.h
  have hzero : BitVec.ofNat 32 0 = (0 : CInt) := rfl
  have hone : BitVec.ofNat 32 1 = (1 : CInt) := rfl
  have htwo : BitVec.ofNat 32 2 = (2 : CInt) := rfl
  rw [ycbcr_eq hmade h]
  cases s with
  | y row column =>
      change _ = BitVec.ofNat 32 (r.counterBytes + (row * r.w.toNat + (column * 1 + 0)))
      simp only [address, BitVec.ofNat_add, BitVec.ofNat_mul, hw, hzero, hone]
      ring
  | cb row column =>
      change _ = BitVec.ofNat 32 (r.counterBytes + r.lumaPlane.extent +
        (row * r.w.toNat + (column * 2 + 1)))
      rw [r.extent_lumaPlane]
      simp only [address, BitVec.ofNat_add, BitVec.ofNat_mul, hw, hh, hone, htwo]
      ring
  | cr row column =>
      change _ = BitVec.ofNat 32 (r.counterBytes + r.lumaPlane.extent +
        (row * r.w.toNat + (column * 2 + 0)))
      rw [r.extent_lumaPlane]
      simp only [address, BitVec.ofNat_add, BitVec.ofNat_mul, hw, hh, hzero, htwo]
      ring

/-- The addresses are apart as the offsets are, none of which wraps around. -/
theorem address_injective_iff (hmade : cb.MadeFor r.toAllocRequest plan)
    (h : grallocLockYcbcr cb lock pid = .ok (ycbcr, rect)) :
    Function.Injective (address ycbcr : r.Sample → CInt) ↔ Function.Injective r.offset := by
  have hlt := r.offset_lt_iff.mpr r.extent_le
  have hsame (s s' : r.Sample) : address ycbcr s = address ycbcr s' ↔ r.offset s = r.offset s' := by
    rw [← sub_left_inj (a := cb.ashmemBase), address_eq hmade h, address_eq hmade h]
    constructor
    · intro hoffsets
      have hnat := congrArg BitVec.toNat hoffsets
      rwa [BitVec.toNat_ofNat, BitVec.toNat_ofNat, Nat.mod_eq_of_lt (hlt s),
        Nat.mod_eq_of_lt (hlt s')] at hnat
    · intro hoffsets
      rw [hoffsets]
  constructor
  · intro hinj s s' hs
    exact hinj ((hsame s s').mpr hs)
  · intro hinj s s' hs
    exact hinj ((hsame s s').mp hs)

/-- The samples of a picture that is locked. -/
theorem samples_iff (hplan : r.plan = some plan) (hmade : cb.MadeFor r.toAllocRequest plan)
    (h : grallocLockYcbcr cb lock pid = .ok (ycbcr, rect)) :
    ((∀ s : r.Sample, ((address ycbcr s - cb.ashmemBase).toNat : Int) < cb.ashmemSize.toInt) ∧
      Function.Injective (address ycbcr : r.Sample → CInt)) ↔ r.ChromaFits := by
  have hlt := r.offset_lt_iff.mpr r.extent_le
  have hin (s : r.Sample) : ((address ycbcr s - cb.ashmemBase).toNat : Int) < cb.ashmemSize.toInt ↔
      r.offset s < Library.roundUp r.imageBytes 4096 := by
    rw [address_eq hmade h, hmade.ashmemSize, areaSize_eq hplan, BitVec.toNat_ofNat,
      Nat.mod_eq_of_lt (hlt s), Int.ofNat_lt]
  rw [forall_congr' hin, r.offset_lt_iff, address_injective_iff hmade h, r.offset_injective_iff,
    r.chromaFits_iff]

/-- A camera that locks what was allocated. -/
def cameraLock : LockRequest := ⟨true, GRALLOC_USAGE_HW_CAMERA_WRITE, 0, 0, 0, 0⟩

theorem lock_served (hplan : r.plan = some plan) (hmade : cb.MadeFor r.toAllocRequest plan)
    (hpid : cb.ashmemBasePid = pid) (hbase : cb.ashmemBase ≠ 0#32) :
    ∃ ycbcr rect, grallocLockYcbcr cb cameraLock pid = .ok (ycbcr, rect) := by
  have hformat : cb.format = HAL_PIXEL_FORMAT_YCrCb_420_SP :=
    hmade.format.trans (plan_flexible hplan r.flexible).2.1
  have hframework : cb.frameworkFormat = HAL_PIXEL_FORMAT_YCbCr_420_888 :=
    hmade.frameworkFormat.trans r.flexible
  have hmapped : ¬(cb.ashmemBasePid ≠ pid ∨ cb.ashmemBase = 0#32) := by
    rintro (h | h)
    · exact h hpid
    · exact hbase h
  unfold grallocLockYcbcr
  rw [if_neg (show ¬(!cameraLock.valid) = true by decide), if_neg (not_not.mpr hframework)]
  have hwrite : has cameraLock.usage GRALLOC_USAGE_HW_CAMERA_WRITE = true := by decide
  have hread : has cameraLock.usage GRALLOC_USAGE_SW_READ_MASK = false := by decide
  simp only [hwrite, hread, Bool.not_true, Bool.false_and, Bool.or_self, Bool.false_eq_true,
    if_false]
  rw [if_neg hmapped, if_pos hformat]
  exact ⟨_, _, rfl⟩

/-- A picture in the flexible format keeps its samples apart and in the mapping exactly if both
sides are even, or the rounding to pages has room for the half rows and columns and these do not
run into each other. -/
theorem samplesHeld_iff (r : YcbcrRequest) : r.SamplesHeld ↔ r.plan = none ∨ r.ChromaFits := by
  constructor
  · intro h
    cases hplan : r.plan with
    | none => exact .inl rfl
    | some plan =>
        right
        have hserved := allocBuffer_served hplan
        obtain ⟨plan', cb, hplan', hcb, hmade⟩ := allocBuffer_ok hserved
        obtain rfl := Option.some.inj (hplan'.symm.trans hplan)
        have hbase : (0x40000000 : CInt) ≠ 0#32 := by decide
        obtain ⟨ycbcr, rect, hlock⟩ :=
          lock_served hplan (hmade.mapped 0x40000000 100 0) rfl hbase
        have hheld := h served cb _ _ _ cameraLock 100 ycbcr rect hserved hcb hlock
        exact (samples_iff hplan (hmade.mapped _ _ _) hlock).mp hheld
  · intro h reply cb base basePid mappedPid lock pid ycbcr rect hstatus hcb hlock
    obtain ⟨plan, hplan, hmade⟩ := madeFor_allocBuffer hcb
    rcases h with h | h
    · cases h.symm.trans hplan
    · exact (samples_iff hplan (hmade.mapped base basePid mappedPid) hlock).mpr h

/-- A picture of three rows, whose image is one page. -/
def threeRows : YcbcrRequest where
  valid := true
  w := 1024
  h := 3
  format := HAL_PIXEL_FORMAT_YCbCr_420_888
  usage := GRALLOC_USAGE_HW_CAMERA_WRITE
  w_pos := by decide
  h_pos := by decide
  small := by decide
  flexible := rfl

/-- What it comes to. -/
def onePage : Plan := ⟨HAL_PIXEL_FORMAT_YCrCb_420_SP, ⟨1, 1, true, 0, 0⟩, 4096, 1024⟩

/-- Its second row of chroma starts where the page ends. -/
theorem not_samplesHeld_threeRows : ¬threeRows.SamplesHeld := by
  intro h
  have hserved : (allocBuffer threeRows.toAllocRequest served).status = 0#32 := by decide
  have hcb : (allocBuffer threeRows.toAllocRequest served).cb =
      some { newCbHandle threeRows.toAllocRequest onePage 5 with
        ashmemBase := 0x40000000, ashmemBasePid := 100 } := by decide
  have hlock : grallocLockYcbcr { newCbHandle threeRows.toAllocRequest onePage 5 with
        ashmemBase := 0x40000000, ashmemBasePid := 100 } cameraLock 100 =
      .ok (⟨0x40000000, 0x40000C01, 0x40000C00, 1024, 1024, 2, List.replicate 8 0⟩,
        ⟨0, 0, 0, 0⟩) := rfl
  have hin := (h served _ 0x40000000 100 0 cameraLock 100 _ _ hserved hcb hlock).1
    (.cr ⟨1, by decide⟩ ⟨0, by decide⟩)
  exact absurd hin (by decide)

end YcbcrRequest

end Gralloc
end DeviceAndroVM
