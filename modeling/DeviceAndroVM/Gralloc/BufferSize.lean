import DeviceAndroVM.Gralloc.Calls
import DeviceAndroVM.Library.RoundUp

/-!
# The size of an image in guest memory

`gralloc_alloc` adds up the size of the area in an `int`: the post counter, the rows of the image,
and the rounding to pages.  Nothing is checked for overflow.

* `rowSize`, `imageBytes` — the row and the image with the counter, over the integers.
* `GuestRequest` — a request for an image with one plane in guest memory.
* `SizeSuffices` — whatever the kernel and the host answer, a buffer that is returned is large
  enough, and the stride is that of the rows.
* `sizeSuffices_iff` — the sizes for which that is so: up to the last page but one of an `int`.
-/

namespace DeviceAndroVM
namespace Gralloc

open Library

/-! ## The sizes -/

/-- The size of a row over the integers. -/
def AllocRequest.rowSize (r : AllocRequest) (info : FormatInfo) : Nat :=
  Library.roundUp (r.w.toNat * info.bpp.toNat) info.align.toNat

/-- The image with its post counter over the integers. -/
def AllocRequest.imageBytes (r : AllocRequest) (info : FormatInfo) : Nat :=
  r.h.toNat * r.rowSize info + if has r.usage GRALLOC_USAGE_HW_FB then 4 else 0

/-- `*pStride`. -/
def AllocRequest.pStride (r : AllocRequest) (plan : Plan) : CInt :=
  if r.format = HAL_PIXEL_FORMAT_YCbCr_420_888 then 0 else plan.stride

/-- A request for an image in guest memory, whose format has one plane. -/
structure GuestRequest extends AllocRequest where
  w_pos : 0 < w.toInt
  h_pos : 0 < h.toInt
  guest : (toAllocRequest.sw_read || toAllocRequest.sw_write || toAllocRequest.hw_cam_write ||
    toAllocRequest.hw_vid_enc_read) = true
  not_yuv : ∀ plan, toAllocRequest.plan = some plan → plan.info.yuv_format = false

/-- A buffer that is returned is as large as the image, and its stride is that of the rows. -/
def GuestRequest.SizeSuffices (r : GuestRequest) : Prop :=
  ∀ reply, (allocBuffer r.toAllocRequest reply).status = 0#32 →
    ∃ plan cb, r.plan = some plan ∧ (allocBuffer r.toAllocRequest reply).cb = some cb ∧
      (r.imageBytes plan.info : Int) ≤ cb.ashmemSize.toInt ∧
      (r.pStride plan).toNat * plan.info.bpp.toNat = r.rowSize plan.info

/-! ## Formats -/

/-- The formats that there are in `gralloc_alloc`. -/
def formatInfos : List FormatInfo :=
  [⟨4, 1, false, GL_RGBA, GL_UNSIGNED_BYTE⟩, ⟨3, 1, false, GL_RGB, GL_UNSIGNED_BYTE⟩,
    ⟨2, 1, false, GL_RGB, GL_UNSIGNED_SHORT_5_6_5⟩,
    ⟨2, 1, false, GL_RGB5_A1_OES, GL_UNSIGNED_SHORT_5_5_5_1⟩,
    ⟨2, 1, false, GL_RGBA4_OES, GL_UNSIGNED_SHORT_4_4_4_4⟩,
    ⟨2, 16 * 2, false, GL_LUMINANCE, GL_UNSIGNED_SHORT⟩,
    ⟨1, 1, false, GL_LUMINANCE, GL_UNSIGNED_BYTE⟩, ⟨1, 1, true, 0, 0⟩, ⟨1, 16, true, 0, 0⟩]

theorem formatInfo_mem (r : AllocRequest) (format : CInt) :
    ∀ info ∈ formatInfo r format, info ∈ formatInfos := by
  have hite : ∀ {c : Prop} [Decidable c] {first second : Option FormatInfo},
      (∀ info ∈ first, info ∈ formatInfos) → (∀ info ∈ second, info ∈ formatInfos) →
        ∀ info ∈ if c then first else second, info ∈ formatInfos := by
    intro c _ first second hfirst hsecond
    split
    · exact hfirst
    · exact hsecond
  unfold formatInfo
  repeat' apply hite
  all_goals decide

/-- Without planes of their own, the formats have rows of whole pixels; only raw sensor data is
aligned. -/
theorem formatInfo_cases {r : AllocRequest} {format : CInt} {info : FormatInfo}
    (h : formatInfo r format = some info) (hyuv : info.yuv_format = false) :
    (info.align = 1#32 ∨ info.align = 32#32 ∧ info.bpp = 2#32) ∧ 0 < info.bpp.toNat := by
  have hall : ∀ info ∈ formatInfos, info.yuv_format = false →
      (info.align = 1#32 ∨ info.align = 32#32 ∧ info.bpp = 2#32) ∧ 0 < info.bpp.toNat := by
    decide
  exact hall info (formatInfo_mem r format info h) hyuv

variable {r : AllocRequest} {plan : Plan}

/-- What a request that is planned has come to. -/
theorem plan_eq (h : r.plan = some plan) :
    r.selectFormat = some plan.format ∧ formatInfo r plan.format = some plan.info ∧
      plan.ashmem_size = (imageSize r plan.info).1 ∧ plan.stride = (imageSize r plan.info).2 := by
  unfold AllocRequest.plan at h
  split at h
  · cases h
  · obtain ⟨format, hformat, h⟩ := Option.bind_eq_some_iff.mp h
    obtain ⟨info, hinfo, rfl⟩ := Option.map_eq_some_iff.mp h
    exact ⟨hformat, hinfo, rfl, rfl⟩

/-- The flexible format is planned for a camera only, and then it is the one with two planes. -/
theorem plan_flexible (h : r.plan = some plan)
    (hflexible : r.format = HAL_PIXEL_FORMAT_YCbCr_420_888) :
    r.hw_cam_write = true ∧ plan.format = HAL_PIXEL_FORMAT_YCrCb_420_SP ∧
      plan.info = ⟨1, 1, true, 0, 0⟩ := by
  obtain ⟨hformat, hinfo, -⟩ := plan_eq h
  rw [AllocRequest.selectFormat, hflexible, if_neg (by decide), if_pos rfl] at hformat
  rw [← Option.some.inj hformat] at hinfo ⊢
  cases hwrite : r.hw_cam_write with
  | true =>
      rw [hwrite, if_pos rfl] at hinfo
      have htwo : formatInfo r HAL_PIXEL_FORMAT_YCrCb_420_SP = some ⟨1, 1, true, 0, 0⟩ := rfl
      exact ⟨rfl, if_pos rfl, (Option.some.inj (htwo.symm.trans hinfo)).symm⟩
  | false =>
      rw [hwrite, if_neg Bool.false_ne_true] at hinfo
      have hnone : formatInfo r HAL_PIXEL_FORMAT_YCbCr_420_888 = none := rfl
      cases hnone.symm.trans hinfo

/-- The format that has no colour planes of its own is not the flexible one. -/
theorem pStride_eq (h : r.plan = some plan) (hyuv : plan.info.yuv_format = false) :
    r.pStride plan = plan.stride := by
  refine if_neg fun hflexible => ?_
  rw [(plan_flexible h hflexible).2.2] at hyuv
  cases hyuv

/-! ## Sizes that fit -/

theorem toNat_eq_toInt {n : CInt} (hn : 0 < n.toInt) : (n.toNat : Int) = n.toInt := by
  rw [BitVec.toInt_eq_toNat_cond] at hn ⊢
  split at hn <;> omega

/-- `bpr`, if the row fits. -/
theorem toNat_bpr {info : FormatInfo} (halign : info.align = 1#32 ∨ info.align = 32#32)
    (hfits : r.rowSize info + 31 < 2 ^ 32) :
    (roundUp (r.w * info.bpp) info.align).toNat = r.rowSize info := by
  have hle : r.w.toNat * info.bpp.toNat ≤ r.rowSize info :=
    le_roundUp (by rcases halign with h | h <;> rw [h] <;> decide)
  have hmul : (r.w * info.bpp).toNat = r.w.toNat * info.bpp.toNat := by
    rw [BitVec.toNat_mul]
    exact Nat.mod_eq_of_lt (by omega)
  rcases halign with h | h
  · have hround := toNat_roundUp_mask (r.w * info.bpp) (k := 0) (by rw [hmul]; omega)
    rw [hmul] at hround
    rw [AllocRequest.rowSize, h]
    exact hround
  · have hround := toNat_roundUp_mask (r.w * info.bpp) (k := 5) (by rw [hmul]; omega)
    rw [hmul] at hround
    rw [AllocRequest.rowSize, h]
    exact hround

/-- An area is whole pages. -/
theorem toNat_areaSize (hpos : positive plan.ashmem_size = true) :
    plan.areaSize.toNat = (plan.ashmem_size + 4095#32).toNat / 4096 * 4096 := by
  rw [Plan.areaSize, if_pos hpos]
  exact toNat_and_not_mask (plan.ashmem_size + 4095#32) 12

theorem positive_of_toNat {n : CInt} (hpos : 0 < n.toNat) (hlt : n.toNat < 2 ^ 31) :
    positive n = true := by
  rw [positive, decide_eq_true_eq, BitVec.toInt_eq_toNat_cond]
  split <;> omega

/-- The area of a size that leaves room for the last page. -/
theorem le_areaSize (hpos : 0 < plan.ashmem_size.toNat)
    (hfits : plan.ashmem_size.toNat ≤ 2 ^ 31 - 4096) :
    (plan.ashmem_size.toNat : Int) ≤ plan.areaSize.toInt := by
  have hround := toNat_areaSize (positive_of_toNat hpos (by omega))
  rw [BitVec.toNat_add, BitVec.toNat_ofNat] at hround
  rw [BitVec.toInt_eq_toNat_cond]
  split <;> omega

/-- No area is longer than all but the last page of an `int`. -/
theorem areaSize_le (plan : Plan) : plan.areaSize.toInt ≤ 2 ^ 31 - 4096 := by
  by_cases hpos : positive plan.ashmem_size = true
  · have hround := toNat_areaSize hpos
    rw [BitVec.toInt_eq_toNat_cond]
    split <;> omega
  · rw [Plan.areaSize, if_neg hpos]
    rw [positive, decide_eq_true_eq] at hpos
    omega

/-! ## Calls that succeed -/

/-- What a handle keeps of the request it was made for. -/
structure CbHandle.MadeFor (cb : CbHandle) (r : AllocRequest) (plan : Plan) : Prop where
  usage : cb.usage = r.usage
  width : cb.width = r.w
  height : cb.height = r.h
  frameworkFormat : cb.frameworkFormat = r.format
  format : cb.format = plan.format
  ashmemSize : cb.ashmemSize = plan.areaSize

theorem madeFor_newCbHandle (r : AllocRequest) (plan : Plan) (fd : CInt) :
    (newCbHandle r plan fd).MadeFor r plan := ⟨rfl, rfl, rfl, rfl, rfl, rfl⟩

/-- It keeps that wherever its area is mapped. -/
theorem CbHandle.MadeFor.mapped {cb : CbHandle} (h : cb.MadeFor r plan)
    (base basePid mappedPid : CInt) :
    { cb with ashmemBase := base, ashmemBasePid := basePid, mappedPid }.MadeFor r plan :=
  ⟨h.usage, h.width, h.height, h.frameworkFormat, h.format, h.ashmemSize⟩

section Outcomes

variable {reply : AllocReply} {fd : CInt} {effects : List Effect} {cb cb' : CbHandle}

/-- `map_buffer` changes only where the area is mapped. -/
theorem madeFor_mapBuffer (h : cb.MadeFor r plan) (mmap : Except Errno CInt) (pid : CInt) :
    (mapBuffer cb mmap pid).2.1.MadeFor r plan := by
  unfold mapBuffer
  split
  · exact h
  · split
    · exact h
    · exact h.mapped _ _ _

theorem madeFor_allocHost (h : cb.MadeFor r plan)
    (hcb : (allocHost r reply fd cb effects).cb = some cb') : cb'.MadeFor r plan := by
  unfold allocHost at hcb
  split at hcb
  · simp only at hcb
    split at hcb
    · cases hcb
    · cases hcb
      exact ⟨h.usage, h.width, h.height, h.frameworkFormat, h.format, h.ashmemSize⟩
  · cases hcb
    exact h

theorem madeFor_allocMapped (hcb : (allocMapped r plan reply fd effects).cb = some cb') :
    cb'.MadeFor r plan := by
  have hnew := madeFor_newCbHandle r plan fd
  unfold allocMapped at hcb
  simp only at hcb
  split at hcb
  · split at hcb
    · cases hcb
    · exact madeFor_allocHost (madeFor_mapBuffer hnew reply.mmap reply.pid) hcb
  · exact madeFor_allocHost hnew hcb

/-- A handle is only made for a request that is planned. -/
theorem madeFor_allocBuffer (hcb : (allocBuffer r reply).cb = some cb') :
    ∃ plan, r.plan = some plan ∧ cb'.MadeFor r plan := by
  unfold allocBuffer at hcb
  split at hcb
  · cases hcb
  · rename_i plan hplan
    refine ⟨plan, hplan, ?_⟩
    split at hcb
    · split at hcb
      · cases hcb
      · exact madeFor_allocMapped hcb
    · exact madeFor_allocMapped hcb

/-- Success comes with a handle. -/
theorem allocHost_ok (h : (allocHost r reply fd cb effects).status = 0#32) :
    ∃ cb', (allocHost r reply fd cb effects).cb = some cb' := by
  unfold allocHost at h ⊢
  split at h
  · simp only at h ⊢
    split at h
    · exact absurd h (show - EIO ≠ 0#32 by decide)
    · rename_i hwants hhost
      exact ⟨_, by rw [if_pos hwants, if_neg hhost]⟩
  · rename_i hwants
    exact ⟨_, by rw [if_neg hwants]⟩

theorem allocMapped_ok (h : (allocMapped r plan reply fd effects).status = 0#32) :
    ∃ cb', (allocMapped r plan reply fd effects).cb = some cb' := by
  unfold allocMapped at h ⊢
  simp only at h ⊢
  split at h
  · rename_i hpositive
    rw [if_pos hpositive]
    split at h
    · contradiction
    · rename_i hmapped
      rw [if_neg hmapped]
      exact allocHost_ok h
  · rename_i hpositive
    rw [if_neg hpositive]
    exact allocHost_ok h

theorem neg_errno_ne (errno : Errno) : -errno.val ≠ 0#32 := by
  rw [ne_eq, BitVec.neg_eq_zero_iff]
  exact errno.property

theorem allocBuffer_ok (h : (allocBuffer r reply).status = 0#32) :
    ∃ plan cb, r.plan = some plan ∧ (allocBuffer r reply).cb = some cb ∧ cb.MadeFor r plan := by
  have hcb : ∃ cb, (allocBuffer r reply).cb = some cb := by
    unfold allocBuffer at h ⊢
    cases hplan : r.plan with
    | none =>
        rw [hplan] at h
        exact absurd h (show -EINVAL ≠ 0#32 by decide)
    | some plan =>
        rw [hplan] at h
        simp only at h ⊢
        split at h
        · rename_i hpositive
          rw [if_pos hpositive]
          cases hregion : reply.region with
          | error errno =>
              rw [hregion] at h
              exact absurd h (neg_errno_ne errno)
          | ok fd =>
              rw [hregion] at h
              exact allocMapped_ok h
        · rename_i hpositive
          rw [if_neg hpositive]
          exact allocMapped_ok h
  obtain ⟨cb, hcb⟩ := hcb
  obtain ⟨plan, hplan, hmade⟩ := madeFor_allocBuffer hcb
  exact ⟨plan, cb, hplan, hcb, hmade⟩

/-- A kernel and a host that serve every request. -/
def served : AllocReply where
  region := .ok ⟨5, by decide⟩
  mmap := .ok 0x40000000
  connected := true
  colorBuffer := 1
  pid := 100

theorem allocHost_served (r : AllocRequest) (fd : CInt) (cb : CbHandle) (effects : List Effect) :
    (allocHost r served fd cb effects).status = 0#32 := by
  unfold allocHost
  split
  · rfl
  · rfl

theorem allocMapped_served (hfd : 0 ≤ fd.toInt) :
    (allocMapped r plan served fd effects).status = 0#32 := by
  unfold allocMapped
  simp only
  split
  · rename_i hpositive
    have hsize : 0 < plan.areaSize.toInt := of_decide_eq_true hpositive
    have hmap : mapBuffer (newCbHandle r plan fd) served.mmap served.pid =
        (0#32, { newCbHandle r plan fd with ashmemBase := 0x40000000, ashmemBasePid := 100 },
          [.mmap 0x40000000 plan.areaSize]) :=
      if_neg (not_or.mpr ⟨not_lt.mpr hfd, not_le.mpr hsize⟩)
    rw [hmap, if_neg (not_not.mpr rfl)]
    exact allocHost_served r fd _ _
  · exact allocHost_served r fd _ _

/-- Every request that is planned is served. -/
theorem allocBuffer_served (h : r.plan = some plan) : (allocBuffer r served).status = 0#32 := by
  unfold allocBuffer
  rw [h]
  simp only
  split
  · exact allocMapped_served (by decide)
  · rename_i hpositive
    -- without a region there is nothing to map
    have harea : ¬positive plan.areaSize = true := by rwa [Plan.areaSize, if_neg hpositive]
    unfold allocMapped
    rw [if_neg harea]
    exact allocHost_served r _ _ _

end Outcomes

/-! ## Requests -/

namespace GuestRequest

variable {r : GuestRequest} {plan : Plan}

/-- What is added up for an image in guest memory. -/
theorem imageSize_eq (r : GuestRequest) {info : FormatInfo} (hyuv : info.yuv_format = false) :
    imageSize r.toAllocRequest info =
      ((if has r.usage GRALLOC_USAGE_HW_FB then 4 else 0) +
          roundUp (r.w * info.bpp) info.align * r.h,
        roundUp (r.w * info.bpp) info.align / info.bpp) := by
  simp only [imageSize, r.guest, if_true, hyuv, Bool.false_eq_true, if_false]

/-- What the formats of one plane make of a row. -/
theorem align_or (h : r.plan = some plan) :
    (plan.info.align = 1#32 ∨ plan.info.align = 32#32 ∧ plan.info.bpp = 2#32) ∧
      0 < plan.info.bpp.toNat :=
  formatInfo_cases (plan_eq h).2.1 (r.not_yuv plan h)

theorem rowSize_pos (h : r.plan = some plan) : 0 < r.rowSize plan.info := by
  obtain ⟨halign, hbpp⟩ := align_or h
  have hpixel : 0 < r.w.toNat * plan.info.bpp.toNat := by
    have hw := toNat_eq_toInt r.w_pos
    have hpos := r.w_pos
    exact Nat.mul_pos (by omega) hbpp
  have hle : r.w.toNat * plan.info.bpp.toNat ≤ r.rowSize plan.info :=
    le_roundUp (by rcases halign with h | ⟨h, -⟩ <;> rw [h] <;> decide)
  omega

/-- A row is not longer than the image. -/
theorem rowSize_le (r : GuestRequest) (info : FormatInfo) : r.rowSize info ≤ r.imageBytes info := by
  have hh := toNat_eq_toInt r.h_pos
  have hpos := r.h_pos
  have hmul : 1 * r.rowSize info ≤ r.h.toNat * r.rowSize info :=
    Nat.mul_le_mul_right _ (by omega)
  rw [AllocRequest.imageBytes]
  omega

/-- `bpr` of an image that fits. -/
theorem toNat_bpr_eq (h : r.plan = some plan) (hfits : r.imageBytes plan.info ≤ 2 ^ 31 - 4096) :
    (roundUp (r.w * plan.info.bpp) plan.info.align).toNat = r.rowSize plan.info := by
  have hrow := r.rowSize_le plan.info
  exact toNat_bpr ((align_or h).1.imp_right And.left) (by omega)

/-- A size that fits is added up without overflow. -/
theorem ashmem_size_eq (h : r.plan = some plan)
    (hfits : r.imageBytes plan.info ≤ 2 ^ 31 - 4096) :
    plan.ashmem_size.toNat = r.imageBytes plan.info := by
  have hbpr := toNat_bpr_eq h hfits
  have hpost : (if has r.usage GRALLOC_USAGE_HW_FB then (4 : CInt) else 0).toNat =
      if has r.usage GRALLOC_USAGE_HW_FB then 4 else 0 := by
    split <;> rfl
  rw [(plan_eq h).2.2.1, imageSize_eq r (r.not_yuv plan h), BitVec.toNat_add, BitVec.toNat_mul,
    hbpr, hpost]
  rw [AllocRequest.imageBytes, Nat.mul_comm r.h.toNat] at hfits ⊢
  rw [Nat.mod_eq_of_lt (a := r.rowSize plan.info * r.h.toNat) (by omega), Nat.add_comm]
  exact Nat.mod_eq_of_lt (by omega)

/-- A row is whole pixels. -/
theorem stride_eq (h : r.plan = some plan) (hfits : r.imageBytes plan.info ≤ 2 ^ 31 - 4096) :
    plan.stride.toNat * plan.info.bpp.toNat = r.rowSize plan.info := by
  rw [(plan_eq h).2.2.2, imageSize_eq r (r.not_yuv plan h), BitVec.toNat_udiv,
    toNat_bpr_eq h hfits]
  refine Nat.div_mul_cancel ?_
  obtain ⟨halign | ⟨halign, hbpp⟩, -⟩ := align_or h
  · rw [AllocRequest.rowSize, halign, show (1#32 : CInt).toNat = 1 from rfl, roundUp_one]
    exact Nat.dvd_mul_left _ _
  · rw [AllocRequest.rowSize, halign, hbpp]
    exact (show (2 : Nat) ∣ 32 by decide).trans (roundUp_dvd _ _)

/-- A buffer of one plane is large enough, and its stride that of the rows, exactly if the image
with its counter ends before the last page that an `int` can count. -/
theorem sizeSuffices_iff (r : GuestRequest) :
    r.SizeSuffices ↔ ∀ plan, r.plan = some plan → r.imageBytes plan.info ≤ 2 ^ 31 - 4096 := by
  constructor
  · intro h plan hplan
    obtain ⟨plan', cb, hplan', hcb, hsize, -⟩ := h served (allocBuffer_served hplan)
    obtain rfl := Option.some.inj (hplan'.symm.trans hplan)
    obtain ⟨plan', hmadeFor, hmade⟩ := madeFor_allocBuffer hcb
    obtain rfl := Option.some.inj (hmadeFor.symm.trans hplan)
    have hle := areaSize_le plan'
    rw [hmade.ashmemSize] at hsize
    omega
  · intro h reply hstatus
    obtain ⟨plan, cb, hplan, hcb, hmade⟩ := allocBuffer_ok hstatus
    have hfits := h plan hplan
    have hsize := ashmem_size_eq hplan hfits
    have hrow := rowSize_pos hplan
    have himage := r.rowSize_le plan.info
    have hcovers : (plan.ashmem_size.toNat : Int) ≤ plan.areaSize.toInt :=
      le_areaSize (by omega) (by omega)
    refine ⟨plan, cb, hplan, hcb, ?_, ?_⟩
    · rw [hmade.ashmemSize, ← hsize]
      exact hcovers
    · rw [pStride_eq hplan (r.not_yuv plan hplan)]
      exact stride_eq hplan hfits

/-- A picture of 65536 by 65536 pixels of four bytes. -/
def hugePicture : GuestRequest where
  valid := true
  w := 65536
  h := 65536
  format := HAL_PIXEL_FORMAT_RGBA_8888
  usage := 0x33
  w_pos := by decide
  h_pos := by decide
  guest := by decide
  not_yuv := by
    intro plan h
    have hplan : AllocRequest.plan ⟨true, 65536, 65536, HAL_PIXEL_FORMAT_RGBA_8888, 0x33⟩ =
        some ⟨1, ⟨4, 1, false, GL_RGBA, GL_UNSIGNED_BYTE⟩, 0, 65536⟩ := by decide
    rw [← Option.some.inj (hplan.symm.trans h)]

/-- It is allocated, without any memory. -/
theorem not_sizeSuffices_hugePicture : ¬hugePicture.SizeSuffices := by
  intro h
  obtain ⟨plan, cb, hplan, hcb, hsize, -⟩ := h served (by decide)
  have hplanned : hugePicture.plan =
      some ⟨1, ⟨4, 1, false, GL_RGBA, GL_UNSIGNED_BYTE⟩, 0, 65536⟩ := by decide
  have halloc : ((allocBuffer hugePicture.toAllocRequest served).cb.map CbHandle.ashmemSize) =
      some 0 := by decide
  rw [hcb] at halloc
  rw [← Option.some.inj (hplanned.symm.trans hplan), Option.some.inj halloc] at hsize
  exact absurd hsize (by decide)

end GuestRequest

end Gralloc
end DeviceAndroVM
