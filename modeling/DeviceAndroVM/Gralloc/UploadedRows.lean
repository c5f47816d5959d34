import DeviceAndroVM.Gralloc.LockUpload
import DeviceAndroVM.Library.Chunks

/-!
# The rows of an upload

Between `gralloc_lock` and `gralloc_unlock` the CPU has written into a rectangle of the image, whose
rows are as far apart as the stride says that `gralloc_alloc` has reported.  `gralloc_unlock` has
the width of the buffer instead, and looks at nothing but sizes.

* `UploadRequest` — a buffer with an image in guest memory and a colour buffer of the host.
* `rectOffsets`, `imageByte` — the bytes of a rectangle, and what there is in the image.
* `Uploads` — whatever memory holds, the host gets these bytes and no others are read.
* `Addressed`, `uploads_iff` — the rectangles for which that is so.
-/

namespace DeviceAndroVM
namespace Gralloc

open Library

/-! ## Rectangles -/

/-- A request for an image in guest memory with a colour buffer of the host. -/
structure UploadRequest extends GuestRequest where
  host : toAllocRequest.wantsHost = true

namespace UploadRequest

/-- A row, by the stride that `gralloc_alloc` reports. -/
def strideBytes (r : UploadRequest) (plan : Plan) : Nat :=
  (r.pStride plan).toNat * plan.info.bpp.toNat

/-- The end of the image: it has so many rows, and it is in the area behind the counter. -/
def imageEnd (r : UploadRequest) (plan : Plan) : Nat :=
  min (r.h.toNat * r.strideBytes plan)
    (plan.areaSize.toNat - if has r.usage GRALLOC_USAGE_HW_FB then 4 else 0)

/-- Where a rectangle begins, counted from the first byte of the image. -/
def firstByte (r : UploadRequest) (plan : Plan) (rect : LockedRect) : Int :=
  rect.lockedTop.toInt * r.strideBytes plan + rect.lockedLeft.toInt * plan.info.bpp.toNat

/-- The bytes of a rectangle, row after row. -/
def rectOffsets (r : UploadRequest) (plan : Plan) (rect : LockedRect) : List Int :=
  rectangle (r.firstByte plan rect) (r.strideBytes plan)
    (rect.lockedWidth.toInt.toNat * plan.info.bpp.toNat) rect.lockedHeight.toInt.toNat

end UploadRequest

/-- What memory holds at an offset into the image, if the image reaches there. -/
def imageByte (cpu_addr : CInt) (limit : Nat) (memory : Memory) (offset : Int) :
    Option (BitVec 8) :=
  if 0 ≤ offset ∧ offset < limit then some (memory (cpu_addr + offset)) else none

/-- With a connection the unlock succeeds, reads below the limit only, and sends the bytes at the
offsets. -/
def CbHandle.Sends (cb : CbHandle) (rect : LockedRect) (limit : Nat) (offsets : List Int) : Prop :=
  ∀ memory, ∃ out, grallocUnlock cb rect true true memory = some out ∧ out.status = 0#32 ∧
    (∀ address ∈ out.reads, (address - cb.cpuAddr).toNat < limit) ∧
      out.sent.map some = offsets.map (imageByte cb.cpuAddr limit memory)

/-- Wherever the buffer is mapped and however it is locked for writing the rectangle: the unlock
reads bytes of the image only, and sends the rows of the rectangle. -/
def UploadRequest.Uploads (r : UploadRequest) (rect : LockedRect) : Prop :=
  ∀ reply plan cb base basePid mappedPid (lock : LockRequest) pid memory flush before vaddr locked,
    (allocBuffer r.toAllocRequest reply).status = 0#32 → r.plan = some plan →
      (allocBuffer r.toAllocRequest reply).cb = some cb →
        -- there is nothing to map without an area
        (base ≠ 0#32 → positive cb.ashmemSize = true) →
          lock.writes = true → (⟨lock.l, lock.t, lock.w, lock.h⟩ : LockedRect) = rect →
            grallocLock { cb with ashmemBase := base, ashmemBasePid := basePid, mappedPid } lock pid
                memory flush before = .ok (vaddr, locked) →
              { cb with ashmemBase := base, ashmemBasePid := basePid, mappedPid }.Sends locked
                (r.imageEnd plan) (r.rectOffsets plan rect)

/-! ## Bytes and addresses -/

/-- The bytes of the image that are sent, whatever they are, tell where they come from. -/
theorem forall_map_eq_imageByte {cpu_addr : CInt} {limit : Nat} {places : List CInt}
    {offsets : List Int} :
    (∀ memory : Memory, (places.map memory).map some =
        offsets.map (imageByte cpu_addr limit memory)) ↔
      (∀ offset ∈ offsets, 0 ≤ offset ∧ offset < limit) ∧
        places = offsets.map fun offset : Int => cpu_addr + offset := by
  constructor
  · intro h
    have hwithin : ∀ offset ∈ offsets, 0 ≤ offset ∧ offset < limit := by
      intro offset hoffset
      by_contra hbeyond
      -- where the image does not reach, no byte that is sent will do
      have hmem : imageByte cpu_addr limit (fun _ => 0) offset ∈
          (places.map fun _ => (0 : BitVec 8)).map some := by
        rw [h]
        exact List.mem_map_of_mem hoffset
      rw [imageByte, if_neg hbeyond] at hmem
      simp at hmem
    -- memories that differ in one place tell the addresses apart
    have htwo : Nontrivial (BitVec 8) := ⟨0, 1, by decide⟩
    refine ⟨hwithin, eq_of_forall_map_eq (β := BitVec 8) fun memory => ?_⟩
    have hbytes : offsets.map (imageByte cpu_addr limit memory) =
        (offsets.map fun offset : Int => memory (cpu_addr + offset)).map some := by
      rw [List.map_map]
      apply List.map_congr_left
      intro offset hoffset
      exact if_pos (hwithin offset hoffset)
    rw [List.map_map]
    exact List.map_injective_iff.mpr (Option.some_injective _) ((h memory).trans hbytes)
  · rintro ⟨hwithin, rfl⟩ memory
    rw [List.map_map, List.map_map]
    apply List.map_congr_left
    intro offset hoffset
    exact (if_pos (hwithin offset hoffset)).symm

/-- An offset into the image is found again from its address. -/
theorem toNat_address_sub (cpu_addr : CInt) {limit : Nat} (hlimit : limit ≤ 2 ^ 32) {offset : Int}
    (hwithin : 0 ≤ offset ∧ offset < limit) :
    (cpu_addr + (offset : CInt) - cpu_addr).toNat < limit := by
  rw [add_sub_cancel_left, BitVec.toNat_intCast]
  omega

section Sends

variable {cb : CbHandle} {rect : LockedRect} {limit : Nat} {offsets : List Int}

/-- The addresses that are sent are those of the offsets, and nothing else is read. -/
def SendsPlaces (cb : CbHandle) (limit : Nat) (reads sent : List CInt) (offsets : List Int) :
    Prop :=
  (∀ address ∈ reads, (address - cb.cpuAddr).toNat < limit) ∧
    (∀ offset ∈ offsets, 0 ≤ offset ∧ offset < limit) ∧
      sent = offsets.map fun offset : Int => cb.cpuAddr + offset

/-- Nothing is sent for an empty rectangle. -/
theorem sends_empty (hempty : ¬(0 < rect.lockedWidth.toInt ∧ 0 < rect.lockedHeight.toInt)) :
    cb.Sends rect limit offsets ↔ offsets = [] := by
  have hunlock : ∀ memory, grallocUnlock cb rect true true memory =
      some ⟨0, { rect with lockedWidth := 0, lockedHeight := 0 }, [], none⟩ := by
    intro memory
    unfold grallocUnlock
    dsimp only
    rw [if_neg (by decide), if_neg fun h => hempty ⟨h.1, h.2.1⟩]
  constructor
  · intro h
    obtain ⟨out, hout, -, -, hsent⟩ := h fun _ => 0
    rw [hunlock, Option.some.injEq] at hout
    rw [← hout] at hsent
    exact List.map_eq_nil_iff.mp hsent.symm
  · rintro rfl memory
    exact ⟨_, hunlock memory, rfl, nofun, rfl⟩

/-- An unlock that always reads and sends the same places. -/
theorem sends_iff {reads sent : List CInt}
    (hunlock : ∀ memory, ∃ unlocked update, grallocUnlock cb rect true true memory =
      some ⟨0, unlocked, reads, some update⟩ ∧ update.pixels = sent.map memory) :
    cb.Sends rect limit offsets ↔ SendsPlaces cb limit reads sent offsets := by
  constructor
  · intro h
    have hboth : ∀ memory, (∀ address ∈ reads, (address - cb.cpuAddr).toNat < limit) ∧
        (sent.map memory).map some = offsets.map (imageByte cb.cpuAddr limit memory) := by
      intro memory
      obtain ⟨out, hout, -, hreads, hsent⟩ := h memory
      obtain ⟨unlocked, update, hupdate, hpixels⟩ := hunlock memory
      rw [hupdate, Option.some.injEq] at hout
      rw [← hout] at hreads hsent
      rw [← hpixels]
      exact ⟨hreads, hsent⟩
    exact ⟨(hboth fun _ => 0).1, forall_map_eq_imageByte.mp fun memory => (hboth memory).2⟩
  · rintro ⟨hreads, hplaces⟩ memory
    obtain ⟨unlocked, update, hupdate, hpixels⟩ := hunlock memory
    refine ⟨_, hupdate, rfl, hreads, ?_⟩
    change update.pixels.map some = _
    rw [hpixels]
    exact forall_map_eq_imageByte.mpr hplaces memory

theorem sends_part (hwidth : 0 < rect.lockedWidth.toInt) (hheight : 0 < rect.lockedHeight.toInt)
    (hhost : cb.hostHandle ≠ 0#32) (hpart : rect.lockedWidth.toInt < cb.width.toInt ∨
      rect.lockedHeight.toInt < cb.height.toInt) :
    cb.Sends rect limit offsets ↔
      cb.LinesFit rect ∧ SendsPlaces cb limit (cb.lines rect) ((cb.lines rect).take
        (sizePixels cb.glFormat cb.glType rect.lockedWidth rect.lockedHeight).toNat) offsets := by
  have hunlock : ∀ memory, grallocUnlock cb rect true true memory =
      (partialUpload cb rect memory).map fun sent =>
        ⟨0, { rect with lockedWidth := 0, lockedHeight := 0 }, sent.1, some sent.2⟩ := by
    intro memory
    unfold grallocUnlock
    dsimp only
    rw [if_neg (by decide), if_pos ⟨hwidth, hheight, hhost⟩, if_neg (by decide), if_pos hpart]
  by_cases hfit : cb.LinesFit rect
  · rw [and_iff_right hfit]
    refine sends_iff fun memory => ?_
    rw [hunlock, partialUpload_eq, if_pos hfit]
    exact ⟨_, _, rfl, rfl⟩
  · refine iff_of_false (fun h => ?_) fun h => hfit h.1
    obtain ⟨out, hout, -⟩ := h fun _ => 0
    rw [hunlock, partialUpload_eq, if_neg hfit] at hout
    cases hout

theorem sends_whole (hwidth : 0 < rect.lockedWidth.toInt) (hheight : 0 < rect.lockedHeight.toInt)
    (hhost : cb.hostHandle ≠ 0#32) (hwhole : ¬(rect.lockedWidth.toInt < cb.width.toInt ∨
      rect.lockedHeight.toInt < cb.height.toInt)) :
    cb.Sends rect limit offsets ↔
      SendsPlaces cb limit
        (span cb.cpuAddr (sizePixels cb.glFormat cb.glType cb.width cb.height).toNat)
        (span cb.cpuAddr (sizePixels cb.glFormat cb.glType cb.width cb.height).toNat) offsets := by
  refine sends_iff fun memory => ?_
  unfold grallocUnlock
  dsimp only
  rw [if_neg (by decide), if_pos ⟨hwidth, hheight, hhost⟩, if_neg (by decide), if_neg hwhole]
  exact ⟨_, _, rfl, rfl⟩

/-- If what is read is what is sent, it is enough that the offsets are in the image. -/
theorem sendsPlaces_self (hlimit : limit ≤ 2 ^ 32) {places : List CInt} :
    SendsPlaces cb limit places places offsets ↔
      (∀ offset ∈ offsets, 0 ≤ offset ∧ offset < limit) ∧
        places = offsets.map fun offset : Int => cb.cpuAddr + offset := by
  refine and_iff_right_of_imp ?_
  rintro ⟨hwithin, rfl⟩ address haddress
  obtain ⟨offset, hoffset, rfl⟩ := List.mem_map.mp haddress
  exact toNat_address_sub cb.cpuAddr hlimit (hwithin offset hoffset)

end Sends

/-! ## The rectangles that are uploaded -/

namespace UploadRequest

/-- The rectangle lies in the image, and its lines are counted without overflow.  Of a part of the
image the rows are where the width puts them, which without padding is the same place; the whole
image is sent as it lies in memory. -/
def Addressed (r : UploadRequest) (plan : Plan) (rect : LockedRect) : Prop :=
  0 ≤ r.firstByte plan rect ∧
    r.firstByte plan rect + (rect.lockedHeight.toInt - 1) * r.strideBytes plan +
        rect.lockedWidth.toInt * plan.info.bpp.toNat ≤ r.imageEnd plan ∧
      rect.lockedWidth.toInt * plan.info.bpp.toNat < 2 ^ 28 ∧
        if rect.lockedWidth.toInt < r.w.toInt ∨ rect.lockedHeight.toInt < r.h.toInt then
          rect.lockedWidth.toInt * plan.info.bpp.toNat * rect.lockedHeight.toInt < 2 ^ 31 ∧
            (r.w * plan.info.bpp = r.pStride plan * plan.info.bpp ∨
              rect.lockedHeight = 1 ∧ rect.lockedTop * (r.w * plan.info.bpp) =
                rect.lockedTop * (r.pStride plan * plan.info.bpp))
        else
          rect.lockedWidth = r.w ∧ rect.lockedHeight = r.h ∧ r.firstByte plan rect = 0 ∧
            (rect.lockedHeight = 1 ∨
              (r.strideBytes plan : Int) = rect.lockedWidth.toInt * plan.info.bpp.toNat)

variable {r : UploadRequest} {plan : Plan} {rect : LockedRect}

theorem cast_toNat (x : CInt) : ((x.toNat : Nat) : CInt) = x := by
  rw [BitVec.natCast_eq_ofNat, BitVec.ofNat_toNat, BitVec.setWidth_eq]

theorem cast_toInt (x : CInt) : ((x.toInt : Int) : CInt) = x := BitVec.ofInt_toInt

theorem cast_strideBytes : (((r.strideBytes plan : Nat) : Int) : CInt) =
    r.pStride plan * plan.info.bpp := by
  rw [strideBytes, Int.cast_natCast, Nat.cast_mul, cast_toNat, cast_toNat]

theorem cast_firstByte : ((r.firstByte plan rect : Int) : CInt) =
    rect.lockedTop * (r.pStride plan * plan.info.bpp) + rect.lockedLeft * plan.info.bpp := by
  rw [firstByte, Int.cast_add, Int.cast_mul, Int.cast_mul, cast_strideBytes, cast_toInt, cast_toInt,
    Int.cast_natCast, cast_toNat]

theorem imageEnd_lt (hpos : positive plan.areaSize = true) : r.imageEnd plan < 2 ^ 31 := by
  have harea : 0 < plan.areaSize.toInt := of_decide_eq_true hpos
  have hnat := toNat_eq_toInt harea
  have hle := areaSize_le plan
  have hmin := Nat.min_le_right (r.h.toNat * r.strideBytes plan)
    (plan.areaSize.toNat - if has r.usage GRALLOC_USAGE_HW_FB then 4 else 0)
  unfold imageEnd
  omega

/-- The addresses of a rectangle of the image. -/
theorem map_rectOffsets (cpu_addr : CInt) :
    ((r.rectOffsets plan rect).map fun offset : Int => cpu_addr + offset) =
      rectangle (cpu_addr + (rect.lockedTop * (r.pStride plan * plan.info.bpp) +
          rect.lockedLeft * plan.info.bpp)) (r.pStride plan * plan.info.bpp)
        (rect.lockedWidth.toInt.toNat * plan.info.bpp.toNat) rect.lockedHeight.toInt.toNat := by
  rw [rectOffsets, map_rectangle, cast_firstByte, cast_strideBytes]

theorem forall_mem_rectOffsets (hbpp : 0 < plan.info.bpp.toNat)
    (hwidth : 0 < rect.lockedWidth.toInt) (hheight : 0 < rect.lockedHeight.toInt) {limit : Nat} :
    (∀ offset ∈ r.rectOffsets plan rect, 0 ≤ offset ∧ offset < (limit : Int)) ↔
      0 ≤ r.firstByte plan rect ∧
        r.firstByte plan rect + (rect.lockedHeight.toInt - 1) * r.strideBytes plan +
          rect.lockedWidth.toInt * plan.info.bpp.toNat ≤ limit := by
  have hline : 0 < rect.lockedWidth.toInt.toNat * plan.info.bpp.toNat :=
    Nat.mul_pos (by omega) hbpp
  rw [rectOffsets, forall_mem_rectangle (Int.natCast_nonneg _) hline (by omega), Nat.cast_mul,
    Int.toNat_of_nonneg hwidth.le, Int.toNat_of_nonneg hheight.le]

end UploadRequest

section Lines

variable {cb : CbHandle} {rect : LockedRect} {bytes : Nat}

/-- The temporary buffer of lines that are not too long. -/
theorem linesFit_iff (hbpp : cb.bpp.toNat = bytes)
    (hline : rect.lockedWidth.toNat * bytes < 2 ^ 31) :
    cb.LinesFit rect ↔ rect.lockedWidth.toNat * bytes * rect.lockedHeight.toNat < 2 ^ 31 ∧
      (sizePixels cb.glFormat cb.glType rect.lockedWidth rect.lockedHeight).toNat ≤
        (cb.lines rect).length := by
  have hlength : (cb.lines rect).length =
      rect.lockedWidth.toNat * bytes * rect.lockedHeight.toNat := by
    rw [CbHandle.lines, length_rectangle, BitVec.toNat_mul, hbpp, Nat.mod_eq_of_lt (by omega),
      Nat.mul_comm]
  have hsize : (rect.lockedWidth * rect.lockedHeight * cb.bpp).toNat =
      rect.lockedWidth.toNat * bytes * rect.lockedHeight.toNat % 2 ^ 32 := by
    rw [BitVec.toNat_mul, BitVec.toNat_mul, hbpp, Nat.mod_mul_mod, Nat.mul_right_comm]
  have hsign := BitVec.toInt_eq_toNat_cond (rect.lockedWidth * rect.lockedHeight * cb.bpp)
  rw [CbHandle.LinesFit, ← and_assoc, hlength]
  refine and_congr_left fun _ => ?_
  rw [hsize] at hsign ⊢
  split at hsign <;> omega

theorem lines_eq (hbpp : cb.bpp.toNat = bytes) (hline : rect.lockedWidth.toNat * bytes < 2 ^ 31) :
    cb.lines rect = rectangle (cb.lockedSrc rect) (cb.width * cb.bpp)
      (rect.lockedWidth.toNat * bytes) rect.lockedHeight.toNat := by
  rw [CbHandle.lines, BitVec.toNat_mul, hbpp, Nat.mod_eq_of_lt (by omega)]

/-- The lines are those of another stride. -/
theorem lines_eq_rectangle_iff (hbpp : cb.bpp.toNat = bytes) (hbytes : 0 < bytes)
    (hline : rect.lockedWidth.toNat * bytes < 2 ^ 31) (hwidth : 0 < rect.lockedWidth.toNat)
    (hheight : 0 < rect.lockedHeight.toNat) (stride : CInt) :
    cb.lines rect = rectangle (cb.cpuAddr + (rect.lockedTop * stride + rect.lockedLeft * cb.bpp))
        stride (rect.lockedWidth.toNat * bytes) rect.lockedHeight.toNat ↔
      cb.width * cb.bpp = stride ∨ rect.lockedHeight = 1 ∧
        rect.lockedTop * (cb.width * cb.bpp) = rect.lockedTop * stride := by
  have hone : rect.lockedHeight.toNat = 1 ↔ rect.lockedHeight = 1 := by
    rw [← BitVec.toNat_inj]
    rfl
  rw [lines_eq hbpp hline, rectangle_eq_iff (Nat.mul_pos hwidth hbytes) hheight, hone,
    CbHandle.lockedSrc, add_assoc, add_right_inj, add_left_inj]
  constructor
  · rintro ⟨hsrc, hheight | hstride⟩
    · exact Or.inr ⟨hheight, hsrc⟩
    · exact Or.inl hstride
  · rintro (hstride | ⟨hheight, hsrc⟩)
    · exact ⟨congrArg _ hstride, Or.inr hstride⟩
    · exact ⟨hsrc, Or.inl hheight⟩

end Lines

namespace UploadRequest

variable {r : UploadRequest} {plan : Plan} {cb : CbHandle} {rect : LockedRect}

theorem bpp_eq (hplan : r.plan = some plan) (hdrawn : cb.DrawnAs plan) :
    cb.bpp = plan.info.bpp := by
  obtain ⟨hbits, -⟩ := pixelBitSize_eq (plan_eq hplan).2.1 (r.not_yuv plan hplan)
  rw [CbHandle.bpp, hdrawn.glFormat, hdrawn.glType, hbits, Nat.shiftRight_eq_div_pow,
    Nat.mul_div_cancel_left _ (by decide), BitVec.ofNat_toNat, BitVec.setWidth_eq]

/-- The rectangle is not empty and lies in the image. -/
structure InImage (r : UploadRequest) (plan : Plan) (rect : LockedRect) : Prop where
  area : positive plan.areaSize = true
  width_pos : 0 < rect.lockedWidth.toInt
  height_pos : 0 < rect.lockedHeight.toInt
  begins : 0 ≤ r.firstByte plan rect
  ends : r.firstByte plan rect + (rect.lockedHeight.toInt - 1) * r.strideBytes plan +
    rect.lockedWidth.toInt * plan.info.bpp.toNat ≤ r.imageEnd plan

namespace InImage

/-- The first byte, the rows before the last one and the line of that take no more than the image
together. -/
theorem bounds (hin : r.InImage plan rect) :
    0 ≤ (rect.lockedHeight.toInt - 1) * (r.strideBytes plan : Int) ∧
      0 ≤ rect.lockedWidth.toInt * (plan.info.bpp.toNat : Int) ∧
        r.firstByte plan rect + (rect.lockedHeight.toInt - 1) * r.strideBytes plan +
          rect.lockedWidth.toInt * plan.info.bpp.toNat < 2 ^ 31 := by
  have hlimit := r.imageEnd_lt hin.area
  have hheight := hin.height_pos
  refine ⟨mul_nonneg (by omega) (Int.natCast_nonneg _),
    mul_nonneg hin.width_pos.le (Int.natCast_nonneg _), ?_⟩
  exact lt_of_le_of_lt hin.ends (by omega)

theorem line_lt (hin : r.InImage plan rect) :
    rect.lockedWidth.toNat * plan.info.bpp.toNat < 2 ^ 31 := by
  obtain ⟨hrows, -, hlimit⟩ := hin.bounds
  have hbegins := hin.begins
  rw [← toNat_eq_toInt hin.width_pos] at hlimit
  omega

theorem firstByte_lt (hin : r.InImage plan rect) : r.firstByte plan rect < 2 ^ 31 := by
  obtain ⟨hrows, hline, hlimit⟩ := hin.bounds
  omega

theorem strideBytes_lt (hin : r.InImage plan rect) (hmore : rect.lockedHeight ≠ 1) :
    r.strideBytes plan < 2 ^ 31 := by
  obtain ⟨-, hline, hlimit⟩ := hin.bounds
  have hbegins := hin.begins
  have hheight := hin.height_pos
  have htwo : rect.lockedHeight.toInt ≠ 1 := fun h => hmore (BitVec.eq_of_toInt_eq h)
  have hrow : 1 * (r.strideBytes plan : Int) ≤
      (rect.lockedHeight.toInt - 1) * r.strideBytes plan :=
    mul_le_mul_of_nonneg_right (by omega) (Int.natCast_nonneg _)
  omega

/-- Without gaps between the rows, all of them are in the image together. -/
theorem total_lt (hin : r.InImage plan rect) (hrows : rect.lockedHeight = 1 ∨
      (r.strideBytes plan : Int) = rect.lockedWidth.toInt * plan.info.bpp.toNat) :
    rect.lockedWidth.toNat * plan.info.bpp.toNat * rect.lockedHeight.toNat < 2 ^ 31 := by
  rcases hrows with hone | hsame
  · rw [hone]
    exact (Nat.mul_one _).trans_lt hin.line_lt
  · obtain ⟨-, -, hlimit⟩ := hin.bounds
    have hbegins := hin.begins
    have hrun : (rect.lockedHeight.toInt - 1) * (rect.lockedWidth.toInt * plan.info.bpp.toNat) +
        rect.lockedWidth.toInt * plan.info.bpp.toNat =
          rect.lockedWidth.toInt * plan.info.bpp.toNat * rect.lockedHeight.toInt := by
      ring
    rw [hsame, add_assoc, hrun, ← toNat_eq_toInt hin.width_pos,
      ← toNat_eq_toInt hin.height_pos] at hlimit
    have hcast : (rect.lockedWidth.toNat : Int) * plan.info.bpp.toNat *
        rect.lockedHeight.toNat < 2 ^ 31 := by
      omega
    exact_mod_cast hcast

end InImage

theorem sends_part_iff (hplan : r.plan = some plan) (hmade : cb.MadeFor r.toAllocRequest plan)
    (hdrawn : cb.DrawnAs plan) (hhost : cb.hostHandle ≠ 0#32)
    (hpos : positive plan.areaSize = true) (hwidth : 0 < rect.lockedWidth.toInt)
    (hheight : 0 < rect.lockedHeight.toInt)
    (hpart : rect.lockedWidth.toInt < r.w.toInt ∨ rect.lockedHeight.toInt < r.h.toInt) :
    cb.Sends rect (r.imageEnd plan) (r.rectOffsets plan rect) ↔ r.Addressed plan rect := by
  have hbpp := bpp_eq hplan hdrawn
  obtain ⟨hbits, hfour⟩ := pixelBitSize_eq (plan_eq hplan).2.1 (r.not_yuv plan hplan)
  rw [← hdrawn.glFormat, ← hdrawn.glType, ← hbpp] at hbits
  rw [← hbpp] at hfour
  have hbytes := (GuestRequest.align_or hplan).2
  have hw := toNat_eq_toInt hwidth
  have hh := toNat_eq_toInt hheight
  have hlimit := r.imageEnd_lt hpos
  rw [sends_part hwidth hheight hhost (by rwa [hmade.width, hmade.height]), Addressed,
    if_pos hpart]
  have hwithin : (∀ offset ∈ r.rectOffsets plan rect, 0 ≤ offset ∧ offset < r.imageEnd plan) ↔ _ :=
    forall_mem_rectOffsets hbytes hwidth hheight
  constructor
  · rintro ⟨hfit, -, hoffsets, hsent⟩
    obtain ⟨hbegin, hend⟩ := hwithin.mp hoffsets
    have hline := InImage.line_lt ⟨hpos, hwidth, hheight, hbegin, hend⟩
    rw [← hbpp] at hline
    obtain ⟨htotal, hsize⟩ := (linesFit_iff rfl hline).mp hfit
    have hlines := congrArg List.length (lines_eq rfl hline)
    have hlength := congrArg List.length hsent
    rw [map_rectOffsets, List.length_take, length_rectangle, ← hbpp, ← hw, ← hh, Int.toNat_natCast,
      Int.toNat_natCast] at hlength
    rw [length_rectangle] at hlines
    -- everything that is read is sent
    rw [List.take_of_length_le (by omega), map_rectOffsets, ← hbpp, ← hw, ← hh, Int.toNat_natCast,
      Int.toNat_natCast] at hsent
    have hcount := (toNat_sizePixels_eq_iff hbits hfour (by omega) le_rfl htotal).mp
      (by rw [Nat.mul_comm]; omega)
    have hrows := (lines_eq_rectangle_iff rfl (by rwa [hbpp]) hline (by omega) (by omega) _).mp
      hsent
    rw [hmade.width, hbpp] at hrows
    rw [hbpp] at hcount htotal
    refine ⟨hbegin, hend, ?_, ?_, hrows⟩
    · rw [← hw]
      exact_mod_cast hcount.1
    · rw [← hw, ← hh]
      exact_mod_cast htotal
  · rintro ⟨hbegin, hend, hnarrow, htotal, hrows⟩
    have hline := InImage.line_lt ⟨hpos, hwidth, hheight, hbegin, hend⟩
    rw [← hw, ← hbpp] at hnarrow htotal
    rw [← hh] at htotal
    rw [← hbpp] at hline
    have hfits : rect.lockedWidth.toNat * cb.bpp.toNat * rect.lockedHeight.toNat < 2 ^ 31 := by
      exact_mod_cast htotal
    have hcount := (toNat_sizePixels_eq_iff hbits hfour (by omega) le_rfl hfits).mpr
      ⟨by exact_mod_cast hnarrow, rfl⟩
    have hlines := congrArg List.length (lines_eq rfl hline)
    rw [length_rectangle, Nat.mul_comm] at hlines
    rw [← hmade.width, ← hbpp] at hrows
    have hplaces := (lines_eq_rectangle_iff rfl (by rwa [hbpp]) hline (by omega) (by omega) _).mpr
      hrows
    rw [List.take_of_length_le (by omega), sendsPlaces_self (by omega), map_rectOffsets, ← hbpp,
      ← hw, ← hh, Int.toNat_natCast, Int.toNat_natCast]
    exact ⟨(linesFit_iff rfl hline).mpr ⟨hfits, by omega⟩, hwithin.mpr ⟨hbegin, hend⟩, hplaces⟩

/-- A count that is reached by no larger width and height needs all of them. -/
theorem eq_of_mul_eq {width height bytes w h : Nat} (hbytes : 0 < bytes) (hwidth : width ≤ w)
    (hheight : height ≤ h) (hpos : 0 < width * height)
    (heq : w * bytes * h = width * bytes * height) : w = width ∧ h = height := by
  have hw : 0 < width := Nat.pos_of_mul_pos_right hpos
  have hh : 0 < height := Nat.pos_of_mul_pos_left hpos
  have hwider : width * bytes * height ≤ w * bytes * height :=
    Nat.mul_le_mul_right _ (Nat.mul_le_mul_right _ hwidth)
  have hhigher : w * bytes * height ≤ w * bytes * h := Nat.mul_le_mul_left _ hheight
  have hline : 0 < w * bytes := Nat.mul_pos (by omega) hbytes
  constructor
  · have hsame : w * bytes * height = width * bytes * height := by omega
    exact Nat.eq_of_mul_eq_mul_right hbytes (Nat.eq_of_mul_eq_mul_right hh hsame)
  · have hsame : w * bytes * h = w * bytes * height := by omega
    exact Nat.eq_of_mul_eq_mul_left hline hsame

/-- Numbers of the range of an `int` are told apart by it. -/
theorem cast_eq_cast_iff {m n : Nat} (hm : m < 2 ^ 32) (hn : n < 2 ^ 32) :
    ((m : Int) : CInt) = (n : CInt) ↔ m = n := by
  rw [Int.cast_natCast, BitVec.natCast_eq_ofNat, BitVec.natCast_eq_ofNat, ← BitVec.toNat_inj,
    BitVec.toNat_ofNat, BitVec.toNat_ofNat]
  omega

/-- Within the image, what holds for the addresses holds for the numbers. -/
theorem InImage.adjoining_iff (hin : r.InImage plan rect) (cpu_addr : CInt) :
    cpu_addr + ((r.firstByte plan rect : Int) : CInt) = cpu_addr ∧
        (rect.lockedHeight.toNat = 1 ∨ (((r.strideBytes plan : Nat) : Int) : CInt) =
          ((rect.lockedWidth.toNat * plan.info.bpp.toNat : Nat) : CInt)) ↔
      r.firstByte plan rect = 0 ∧ (rect.lockedHeight = 1 ∨
        (r.strideBytes plan : Int) = rect.lockedWidth.toInt * plan.info.bpp.toNat) := by
  have hone : rect.lockedHeight.toNat = 1 ↔ rect.lockedHeight = 1 := by
    rw [← BitVec.toNat_inj]
    rfl
  refine and_congr ?_ ?_
  · obtain ⟨first, heq⟩ := Int.eq_ofNat_of_zero_le hin.begins
    have hfirst := hin.firstByte_lt
    have hzero : ((first : Int) : CInt) = ((0 : Nat) : CInt) ↔ first = 0 :=
      cast_eq_cast_iff (by omega) (by omega)
    rw [add_eq_left, heq]
    exact hzero.trans (by omega)
  · rw [hone]
    refine or_congr_right' fun hmore => ?_
    have hstride := hin.strideBytes_lt hmore
    have hline := hin.line_lt
    rw [cast_eq_cast_iff (by omega) (by omega), ← toNat_eq_toInt hin.width_pos, ← Nat.cast_mul,
      Int.natCast_inj]

/-- The encoder counts the bytes of the image as those of a rectangle that is not smaller. -/
theorem InImage.sizePixels_eq_iff (hin : r.InImage plan rect) (hplan : r.plan = some plan)
    (hwhole : ¬(rect.lockedWidth.toInt < r.w.toInt ∨ rect.lockedHeight.toInt < r.h.toInt))
    (hrows : rect.lockedHeight = 1 ∨
      (r.strideBytes plan : Int) = rect.lockedWidth.toInt * plan.info.bpp.toNat) :
    (sizePixels plan.info.glFormat plan.info.glType r.w r.h).toNat =
        rect.lockedHeight.toNat * (rect.lockedWidth.toNat * plan.info.bpp.toNat) ↔
      rect.lockedWidth.toInt * plan.info.bpp.toNat < 2 ^ 28 ∧
        rect.lockedWidth = r.w ∧ rect.lockedHeight = r.h := by
  obtain ⟨hbits, hfour⟩ := pixelBitSize_eq (plan_eq hplan).2.1 (r.not_yuv plan hplan)
  have hw := toNat_eq_toInt hin.width_pos
  have hh := toNat_eq_toInt hin.height_pos
  have hW := toNat_eq_toInt r.w_pos
  have hH := toNat_eq_toInt r.h_pos
  have hwidth := hin.width_pos
  have hheight := hin.height_pos
  have hWpos := r.w_pos
  have hHpos := r.h_pos
  have hle : r.w.toNat * plan.info.bpp.toNat * r.h.toNat ≤
      rect.lockedWidth.toNat * plan.info.bpp.toNat * rect.lockedHeight.toNat :=
    Nat.mul_le_mul (Nat.mul_le_mul_right _ (by omega)) (by omega)
  rw [Nat.mul_comm rect.lockedHeight.toNat,
    toNat_sizePixels_eq_iff hbits hfour (by omega) hle (hin.total_lt hrows), ← hw]
  constructor
  · rintro ⟨hnarrow, hsame⟩
    obtain ⟨hsameWidth, hsameHeight⟩ := eq_of_mul_eq (GuestRequest.align_or hplan).2 (by omega)
      (by omega) (Nat.mul_pos (by omega) (by omega)) hsame
    rw [hsameWidth]
    exact ⟨by exact_mod_cast hnarrow, BitVec.eq_of_toNat_eq hsameWidth,
      BitVec.eq_of_toNat_eq hsameHeight⟩
  · rintro ⟨hnarrow, hsameWidth, hsameHeight⟩
    rw [← hsameWidth, ← hsameHeight]
    exact ⟨by exact_mod_cast hnarrow, rfl⟩

/-- The whole image is sent as one run of bytes. -/
theorem sends_whole_iff (hplan : r.plan = some plan) (hmade : cb.MadeFor r.toAllocRequest plan)
    (hdrawn : cb.DrawnAs plan) (hhost : cb.hostHandle ≠ 0#32)
    (hpos : positive plan.areaSize = true) (hwidth : 0 < rect.lockedWidth.toInt)
    (hheight : 0 < rect.lockedHeight.toInt)
    (hwhole : ¬(rect.lockedWidth.toInt < r.w.toInt ∨ rect.lockedHeight.toInt < r.h.toInt)) :
    cb.Sends rect (r.imageEnd plan) (r.rectOffsets plan rect) ↔ r.Addressed plan rect := by
  have hbytes := (GuestRequest.align_or hplan).2
  have hw := toNat_eq_toInt hwidth
  have hh := toNat_eq_toInt hheight
  have hlimit := r.imageEnd_lt hpos
  have hwithin : (∀ offset ∈ r.rectOffsets plan rect, 0 ≤ offset ∧ offset < r.imageEnd plan) ↔ _ :=
    forall_mem_rectOffsets hbytes hwidth hheight
  have hline : 0 < rect.lockedWidth.toNat * plan.info.bpp.toNat := Nat.mul_pos (by omega) hbytes
  have hcolumns : rect.lockedWidth.toInt.toNat = rect.lockedWidth.toNat := by
    rw [← hw, Int.toNat_natCast]
  have hlines : rect.lockedHeight.toInt.toNat = rect.lockedHeight.toNat := by
    rw [← hh, Int.toNat_natCast]
  rw [sends_whole hwidth hheight hhost (by rwa [hmade.width, hmade.height]), hmade.width,
    hmade.height, hdrawn.glFormat, hdrawn.glType, sendsPlaces_self (by omega), hwithin, Addressed,
    if_neg hwhole, rectOffsets, map_rectangle, hcolumns, hlines, eq_comm,
    rectangle_eq_span_iff hline (by omega), and_assoc]
  refine and_congr_right fun hbegin => and_congr_right fun hend => ?_
  have hin : r.InImage plan rect := ⟨hpos, hwidth, hheight, hbegin, hend⟩
  rw [hin.adjoining_iff]
  constructor
  · rintro ⟨hsize, hzero, hrows⟩
    obtain ⟨hnarrow, hsameWidth, hsameHeight⟩ := (hin.sizePixels_eq_iff hplan hwhole hrows).mp hsize
    exact ⟨hnarrow, hsameWidth, hsameHeight, hzero, hrows⟩
  · rintro ⟨hnarrow, hsameWidth, hsameHeight, hzero, hrows⟩
    exact ⟨(hin.sizePixels_eq_iff hplan hwhole hrows).mpr ⟨hnarrow, hsameWidth, hsameHeight⟩,
      hzero, hrows⟩

theorem sends_addressed_iff (hplan : r.plan = some plan) (hmade : cb.MadeFor r.toAllocRequest plan)
    (hdrawn : cb.DrawnAs plan) (hhost : cb.hostHandle ≠ 0#32)
    (hpos : positive plan.areaSize = true) (hwidth : 0 < rect.lockedWidth.toInt)
    (hheight : 0 < rect.lockedHeight.toInt) :
    cb.Sends rect (r.imageEnd plan) (r.rectOffsets plan rect) ↔ r.Addressed plan rect := by
  by_cases hpart : rect.lockedWidth.toInt < r.w.toInt ∨ rect.lockedHeight.toInt < r.h.toInt
  · exact sends_part_iff hplan hmade hdrawn hhost hpos hwidth hheight hpart
  · exact sends_whole_iff hplan hmade hdrawn hhost hpos hwidth hheight hpart

/-- An empty rectangle has no bytes. -/
theorem rectOffsets_empty (hempty : ¬(0 < rect.lockedWidth.toInt ∧ 0 < rect.lockedHeight.toInt)) :
    r.rectOffsets plan rect = [] := by
  apply List.eq_nil_of_length_eq_zero
  rw [rectOffsets, length_rectangle]
  rcases not_and_or.mp hempty with hwidth | hheight
  · rw [Int.toNat_of_nonpos (not_lt.mp hwidth), Nat.zero_mul, Nat.mul_zero]
  · rw [Int.toNat_of_nonpos (not_lt.mp hheight), Nat.zero_mul]

theorem frameworkFormat_ne (hplan : r.plan = some plan)
    (hmade : cb.MadeFor r.toAllocRequest plan) :
    cb.frameworkFormat ≠ HAL_PIXEL_FORMAT_YCbCr_420_888 := by
  rw [hmade.frameworkFormat]
  intro hflexible
  have hyuv := r.not_yuv plan hplan
  rw [(plan_flexible hplan hflexible).2.2] at hyuv
  cases hyuv

/-- A buffer that is mapped can be locked by the camera, and then shows what an unlock does. -/
theorem addressed_of_uploads (hplan : r.plan = some plan) (h : r.Uploads rect)
    (hpos : positive plan.areaSize = true) (hwidth : 0 < rect.lockedWidth.toInt)
    (hheight : 0 < rect.lockedHeight.toInt) : r.Addressed plan rect := by
  have hstatus := allocBuffer_served hplan
  obtain ⟨plan', cb, hplan', hcb, hmade⟩ := allocBuffer_ok hstatus
  obtain rfl := Option.some.inj (hplan.symm.trans hplan')
  obtain ⟨hdrawn, hhost⟩ := drawnAs_allocBuffer r.host hplan hcb
  -- the camera may lock whatever is mapped
  have hmapped := hmade.mapped 0x1000 7 7
  have hlock := grallocLock_of_lockable (fun _ => 0) rect rfl (frameworkFormat_ne hplan hmapped)
    (lockable_cameraLock _ rect) (writes_cameraLock rect) rfl
    (show (0x1000 : CInt) ≠ 0#32 by decide)
  have hsends := h served plan cb 0x1000 7 7 (cameraLock rect) 7 _ _ _ _ _ hstatus hplan hcb
    (fun _ => by rwa [hmade.ashmemSize]) (writes_cameraLock rect) rfl hlock
  exact (sends_addressed_iff hplan hmapped ⟨hdrawn.glFormat, hdrawn.glType⟩ hhost hpos hwidth
    hheight).mp hsends

/-- Rectangles that are empty or lie well are uploaded, as are all that nobody can lock. -/
theorem uploads_iff (hplan : r.plan = some plan) (rect : LockedRect) :
    r.Uploads rect ↔ (positive plan.areaSize = true → 0 < rect.lockedWidth.toInt →
      0 < rect.lockedHeight.toInt → r.Addressed plan rect) := by
  constructor
  · exact addressed_of_uploads hplan
  · intro h reply plan' cb base basePid mappedPid lock pid memory flush before vaddr locked hstatus
      hplan' hcb harea hwrites hrect hlock
    obtain rfl := Option.some.inj (hplan.symm.trans hplan')
    obtain ⟨plan', hplan', hmade⟩ := madeFor_allocBuffer hcb
    obtain rfl := Option.some.inj (hplan.symm.trans hplan')
    obtain ⟨hdrawn, hhost⟩ := drawnAs_allocBuffer r.host hplan hcb
    -- what has been locked is mapped, and so there is an area
    obtain ⟨hbase, hlocked⟩ := grallocLock_ok hwrites hlock
    have hpos := harea hbase
    rw [hmade.ashmemSize] at hpos
    rw [hlocked, hrect]
    by_cases hsome : 0 < rect.lockedWidth.toInt ∧ 0 < rect.lockedHeight.toInt
    · exact (sends_addressed_iff hplan (hmade.mapped base basePid mappedPid)
        ⟨hdrawn.glFormat, hdrawn.glType⟩ hhost hpos hsome.1 hsome.2).mpr (h hpos hsome.1 hsome.2)
    · exact (sends_empty hsome).mpr (rectOffsets_empty hsome)

instance (r : UploadRequest) (plan : Plan) (rect : LockedRect) :
    Decidable (r.Addressed plan rect) := by
  unfold Addressed
  infer_instance

/-- A picture of 4 by 4 pixels of four bytes. -/
def colourPicture : UploadRequest where
  valid := true
  w := 4
  h := 4
  format := HAL_PIXEL_FORMAT_RGBA_8888
  usage := 0x133
  w_pos := by decide
  h_pos := by decide
  guest := by decide
  not_yuv := by
    intro plan h
    have hplan : AllocRequest.plan ⟨true, 4, 4, HAL_PIXEL_FORMAT_RGBA_8888, 0x133⟩ =
        some ⟨1, ⟨4, 1, false, GL_RGBA, GL_UNSIGNED_BYTE⟩, 64, 4⟩ := by decide
    rw [← Option.some.inj (hplan.symm.trans h)]
  host := by decide

theorem uploads_colourPicture : colourPicture.Uploads ⟨1, 1, 2, 3⟩ :=
  (uploads_iff (show colourPicture.plan =
    some ⟨1, ⟨4, 1, false, GL_RGBA, GL_UNSIGNED_BYTE⟩, 64, 4⟩ by decide) _).mpr
      fun _ _ _ => by decide

/-- Raw data of 17 by 2 pixels of two bytes; a row takes 64 bytes. -/
def rawPicture : UploadRequest where
  valid := true
  w := 17
  h := 2
  format := HAL_PIXEL_FORMAT_RAW_SENSOR
  usage := 0x133
  w_pos := by decide
  h_pos := by decide
  guest := by decide
  not_yuv := by
    intro plan h
    have hplan : AllocRequest.plan ⟨true, 17, 2, HAL_PIXEL_FORMAT_RAW_SENSOR, 0x133⟩ =
        some ⟨0x20, ⟨2, 32, false, GL_LUMINANCE, GL_UNSIGNED_SHORT⟩, 128, 32⟩ := by decide
    rw [← Option.some.inj (hplan.symm.trans h)]
  host := by decide

/-- The second row is taken to be 34 bytes behind the first. -/
theorem not_uploads_rawPicture : ¬∀ (r : UploadRequest) (rect : LockedRect), r.Uploads rect := by
  intro h
  have hplan : rawPicture.plan =
      some ⟨0x20, ⟨2, 32, false, GL_LUMINANCE, GL_UNSIGNED_SHORT⟩, 128, 32⟩ := by decide
  have haddressed := addressed_of_uploads hplan (h rawPicture ⟨0, 1, 1, 1⟩) (by decide) (by decide)
    (by decide)
  exact absurd haddressed (by decide)

end UploadRequest

end Gralloc
end DeviceAndroVM
