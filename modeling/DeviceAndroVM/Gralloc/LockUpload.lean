import DeviceAndroVM.Gralloc.YuvLayout
import DeviceAndroVM.Library.Rectangle
import DeviceAndroVM.OpenglCodecCommon.PixelData

/-!
# Locking a buffer, and its upload to the host

`gralloc_lock` and `gralloc_unlock` of `gralloc.cpp`, where no fallback module is loaded, with
`rcUpdateColorBuffer` of the encoder.  A lock for writing records its rectangle; when the buffer is
unlocked, the host gets the pixels of that.

* `grallocLock` — the error, or the address that is handed out and the recorded rectangle.
* `copyLines`, `sizePixels` — the loop that collects the lines, and what the encoder sends.
* `grallocUnlock` — what is read and sent; without a result the process has crashed, or read or
  written outside of its own temporary buffer.
* `copyLines_eq`, `partialUpload_eq` — the lines are the rows of a rectangle.
-/

namespace DeviceAndroVM
namespace Gralloc

open Library

abbrev EBUSY : CInt := 16#32

/-! ## Locking -/

/-- The bytes of a process by their addresses. -/
abbrev Memory := CInt → BitVec 8

/-- `*(int *)address`. -/
def Memory.loadInt (memory : Memory) (address : CInt) : CInt :=
  memory (address + 3) ++ memory (address + 2) ++ memory (address + 1) ++ memory address

/-- What the host answers to `rcColorBufferCacheFlush` with a handle, a counter, and whether the
CPU is going to read; there is no answer without a connection. -/
abbrev CacheFlush := CInt → CInt → Bool → Option CInt

/-- Where the pixels begin. -/
def CbHandle.cpuAddr (cb : CbHandle) : CInt :=
  if cb.canBePosted then cb.ashmemBase + 4 else cb.ashmemBase

/-- The lock is one for writing. -/
def LockRequest.writes (lock : LockRequest) : Bool :=
  has lock.usage GRALLOC_USAGE_SW_WRITE_MASK || has lock.usage GRALLOC_USAGE_HW_CAMERA_WRITE

/-- The usage is none for hardware only, and the buffer was allocated for it. -/
def CbHandle.lockable (cb : CbHandle) (lock : LockRequest) : Bool :=
  let sw_read := has lock.usage GRALLOC_USAGE_SW_READ_MASK
  let sw_write := has lock.usage GRALLOC_USAGE_SW_WRITE_MASK
  let hw_read := has lock.usage GRALLOC_USAGE_HW_TEXTURE
  let hw_write := has lock.usage GRALLOC_USAGE_HW_RENDER
  let hw_vid_enc_read := has lock.usage GRALLOC_USAGE_HW_VIDEO_ENCODER
  let hw_cam_write := has lock.usage GRALLOC_USAGE_HW_CAMERA_WRITE
  let hw_cam_read := has lock.usage GRALLOC_USAGE_HW_CAMERA_READ
  let sw_read_allowed := has cb.usage GRALLOC_USAGE_SW_READ_MASK
  let sw_write_allowed := has cb.usage GRALLOC_USAGE_SW_WRITE_MASK
  !((hw_read || hw_write) ||
    (!sw_read && !sw_write && !hw_cam_write && !hw_cam_read && !hw_vid_enc_read) ||
    (sw_read && !sw_read_allowed) || (sw_write && !sw_write_allowed))

/-- `gralloc_lock` in the process `pid`; `rect` is what the handle has recorded before.  A lockable
buffer is accessed by the CPU or by the camera, and so always needs its area. -/
def grallocLock (cb : CbHandle) (lock : LockRequest) (pid : CInt) (memory : Memory)
    (flush : CacheFlush) (rect : LockedRect) : Except CInt (CInt × LockedRect) :=
  if !lock.valid then .error (-EINVAL)
  else if cb.frameworkFormat = HAL_PIXEL_FORMAT_YCbCr_420_888 then .error (-EINVAL)
  else if !cb.lockable lock then .error (-EINVAL)
  else if cb.ashmemBasePid ≠ pid ∨ cb.ashmemBase = 0#32 then .error (-EACCES)
  else
    let postCount := if cb.canBePosted then memory.loadInt cb.ashmemBase else 0
    let locked := if lock.writes then ⟨lock.l, lock.t, lock.w, lock.h⟩ else rect
    if cb.hostHandle ≠ 0#32 then
      match flush cb.hostHandle postCount (has lock.usage GRALLOC_USAGE_SW_READ_MASK) with
      | none => .error (- EIO)
      | some hostSyncStatus =>
          if hostSyncStatus.toInt < 0 then .error (-EBUSY) else .ok (cb.cpuAddr, locked)
    else .ok (cb.cpuAddr, locked)

/-- What a lock for writing that is granted comes with. -/
theorem grallocLock_ok {cb : CbHandle} {lock : LockRequest} {pid vaddr : CInt} {memory : Memory}
    {flush : CacheFlush} {rect locked : LockedRect} (hwrites : lock.writes = true)
    (h : grallocLock cb lock pid memory flush rect = .ok (vaddr, locked)) :
    cb.ashmemBase ≠ 0#32 ∧ locked = ⟨lock.l, lock.t, lock.w, lock.h⟩ := by
  unfold grallocLock at h
  rw [hwrites] at h
  split at h
  · cases h
  · split at h
    · cases h
    · split at h
      · cases h
      · split at h
        · cases h
        · rename_i hmapped
          refine ⟨fun hbase => hmapped (Or.inr hbase), ?_⟩
          dsimp only at h
          split at h
          · split at h
            · cases h
            · split at h
              · cases h
              · cases h
                rfl
          · cases h
            rfl

/-- What is mapped may be locked for writing, if the host does not mind. -/
theorem grallocLock_of_lockable {cb : CbHandle} {lock : LockRequest} {pid : CInt}
    (memory : Memory) (rect : LockedRect) (hvalid : lock.valid = true)
    (hformat : cb.frameworkFormat ≠ HAL_PIXEL_FORMAT_YCbCr_420_888)
    (hlockable : cb.lockable lock = true) (hwrites : lock.writes = true)
    (hpid : cb.ashmemBasePid = pid) (hbase : cb.ashmemBase ≠ 0#32) :
    grallocLock cb lock pid memory (fun _ _ _ => some 0) rect =
      .ok (cb.cpuAddr, ⟨lock.l, lock.t, lock.w, lock.h⟩) := by
  unfold grallocLock
  rw [hvalid, hlockable, hwrites, if_neg (by decide), if_neg hformat, if_neg (by decide),
    if_neg (not_or.mpr ⟨not_not.mpr hpid, hbase⟩)]
  dsimp only
  split
  · rfl
  · rfl

/-- A lock for the camera. -/
def cameraLock (rect : LockedRect) : LockRequest :=
  ⟨true, GRALLOC_USAGE_HW_CAMERA_WRITE, rect.lockedLeft, rect.lockedTop, rect.lockedWidth,
    rect.lockedHeight⟩

theorem writes_cameraLock (rect : LockedRect) : (cameraLock rect).writes = true := by
  simp only [LockRequest.writes, cameraLock]
  rfl

/-- The camera needs no usage from the allocation. -/
theorem lockable_cameraLock (cb : CbHandle) (rect : LockedRect) :
    cb.lockable (cameraLock rect) = true := by
  simp only [CbHandle.lockable, cameraLock]
  rfl

/-! ## Unlocking -/

/-- `rcUpdateColorBuffer` with its arguments; the pixels are those that are sent. -/
structure ColorUpdate where
  colorbuffer : CInt
  x : CInt
  y : CInt
  width : CInt
  height : CInt
  format : CInt
  type : CInt
  pixels : List (BitVec 8)
  deriving DecidableEq

/-- What an unlock comes to; `reads` are the addresses in the area, in order. -/
structure Unlocked where
  status : CInt
  rect : LockedRect
  reads : List CInt
  update : Option ColorUpdate
  deriving DecidableEq

/-- All the pixels that the host gets. -/
def Unlocked.sent (u : Unlocked) : List (BitVec 8) := (u.update.map ColorUpdate.pixels).getD []

/-- `__size_pixels`. -/
def sizePixels (format type width height : CInt) : CInt :=
  (BitVec.ofNat 32 (OpenglCodecCommon.glUtilsPixelBitSize format type) * width).sshiftRight 3 *
    height

/-- The loop over the lines, with the addresses it reads; `room` is what is left of `tmpBuf`, and
`memcpy` may not leave that. -/
def copyLines (src_line_len dst_line_len : CInt) : Nat → CInt → Nat → Option (List CInt)
  | 0, _, _ => some []
  | lines + 1, src, room =>
      if dst_line_len.toNat ≤ room then
        (copyLines src_line_len dst_line_len lines (src + src_line_len)
          (room - dst_line_len.toNat)).map (span src dst_line_len.toNat ++ ·)
      else none

/-- The `bpp` of `gralloc_unlock`. -/
def CbHandle.bpp (cb : CbHandle) : CInt :=
  BitVec.ofNat 32 (OpenglCodecCommon.glUtilsPixelBitSize cb.glFormat cb.glType >>> 3)

/-- The `src` of the loop before its first turn; a line of the image is taken to be `width * bpp`
bytes. -/
def CbHandle.lockedSrc (cb : CbHandle) (rect : LockedRect) : CInt :=
  cb.cpuAddr + rect.lockedTop * (cb.width * cb.bpp) + rect.lockedLeft * cb.bpp

/-- The upload of less than the whole image: what is read, and what is sent of `tmpBuf`. -/
def partialUpload (cb : CbHandle) (rect : LockedRect) (memory : Memory) :
    Option (List CInt × ColorUpdate) :=
  let size := rect.lockedWidth * rect.lockedHeight * cb.bpp
  let dst_line_len := rect.lockedWidth * cb.bpp
  let src_line_len := cb.width * cb.bpp
  -- `new` throws if the size is negative
  if size.toInt < 0 then none
  else
    (copyLines src_line_len dst_line_len rect.lockedHeight.toNat (cb.lockedSrc rect)
        size.toNat).bind fun reads =>
      let tmpBuf := reads.map memory
      let size_pixels := sizePixels cb.glFormat cb.glType rect.lockedWidth rect.lockedHeight
      if size_pixels.toNat ≤ tmpBuf.length then
        some (reads, ⟨cb.hostHandle, rect.lockedLeft, rect.lockedTop, rect.lockedWidth,
          rect.lockedHeight, cb.glFormat, cb.glType, tmpBuf.take size_pixels.toNat⟩)
      else none

/-- `gralloc_unlock`; `valid` is that the module and the handle are, and `connected` that there is
a connection to the host. -/
def grallocUnlock (cb : CbHandle) (rect : LockedRect) (valid connected : Bool) (memory : Memory) :
    Option Unlocked :=
  let unlocked := { rect with lockedWidth := 0, lockedHeight := 0 }
  if !valid then some ⟨-EINVAL, rect, [], none⟩
  else if 0 < rect.lockedWidth.toInt ∧ 0 < rect.lockedHeight.toInt ∧ cb.hostHandle ≠ 0#32 then
    if !connected then some ⟨- EIO, rect, [], none⟩
    else if rect.lockedWidth.toInt < cb.width.toInt ∨ rect.lockedHeight.toInt < cb.height.toInt then
      (partialUpload cb rect memory).map fun (reads, update) => ⟨0, unlocked, reads, some update⟩
    else
      let reads := span cb.cpuAddr (sizePixels cb.glFormat cb.glType cb.width cb.height).toNat
      some ⟨0, unlocked, reads, some ⟨cb.hostHandle, 0, 0, cb.width, cb.height, cb.glFormat,
        cb.glType, reads.map memory⟩⟩
  else some ⟨0, unlocked, [], none⟩

/-! ## The lines -/

/-- The lines are the rows of a rectangle, and all of them have to fit. -/
theorem copyLines_eq (src_line_len dst_line_len : CInt) (lines : Nat) (src : CInt) (room : Nat) :
    copyLines src_line_len dst_line_len lines src room =
      if lines * dst_line_len.toNat ≤ room then
        some (rectangle src src_line_len dst_line_len.toNat lines)
      else none := by
  induction lines generalizing src room with
  | zero =>
      rw [Nat.zero_mul, if_pos (Nat.zero_le room)]
      rfl
  | succ lines ih =>
      rw [copyLines, ih, rectangle_succ, Nat.succ_mul]
      -- the line at hand has to fit, and then the others into what it leaves
      by_cases hline : dst_line_len.toNat ≤ room
      · rw [if_pos hline]
        by_cases hrest : lines * dst_line_len.toNat ≤ room - dst_line_len.toNat
        · rw [if_pos hrest, if_pos (by omega), Option.map_some]
        · rw [if_neg hrest, if_neg (by omega), Option.map_none]
      · rw [if_neg hline, if_neg (by omega)]

/-- The addresses that a partial upload reads. -/
def CbHandle.lines (cb : CbHandle) (rect : LockedRect) : List CInt :=
  rectangle (cb.lockedSrc rect) (cb.width * cb.bpp) (rect.lockedWidth * cb.bpp).toNat
    rect.lockedHeight.toNat

/-- The temporary buffer can be had, the lines fit into it, and no more than these are sent. -/
def CbHandle.LinesFit (cb : CbHandle) (rect : LockedRect) : Prop :=
  0 ≤ (rect.lockedWidth * rect.lockedHeight * cb.bpp).toInt ∧
    (cb.lines rect).length ≤ (rect.lockedWidth * rect.lockedHeight * cb.bpp).toNat ∧
      (sizePixels cb.glFormat cb.glType rect.lockedWidth rect.lockedHeight).toNat ≤
        (cb.lines rect).length

instance (cb : CbHandle) (rect : LockedRect) : Decidable (cb.LinesFit rect) := by
  unfold CbHandle.LinesFit
  infer_instance

theorem partialUpload_eq (cb : CbHandle) (rect : LockedRect) (memory : Memory) :
    partialUpload cb rect memory =
      if cb.LinesFit rect then
        some (cb.lines rect, ⟨cb.hostHandle, rect.lockedLeft, rect.lockedTop, rect.lockedWidth,
          rect.lockedHeight, cb.glFormat, cb.glType, ((cb.lines rect).take
            (sizePixels cb.glFormat cb.glType rect.lockedWidth rect.lockedHeight).toNat).map
              memory⟩)
      else none := by
  have hlength : (cb.lines rect).length =
      rect.lockedHeight.toNat * (rect.lockedWidth * cb.bpp).toNat := length_rectangle
  unfold partialUpload
  dsimp only
  rw [copyLines_eq, ← hlength]
  change (if _ then none else (if _ then some (cb.lines rect) else none).bind _) = _
  by_cases hfit : cb.LinesFit rect
  · have hsent : (sizePixels cb.glFormat cb.glType rect.lockedWidth rect.lockedHeight).toNat ≤
        ((cb.lines rect).map memory).length := by
      rw [List.length_map]
      exact hfit.2.2
    rw [if_pos hfit, if_neg (not_lt.mpr hfit.1), if_pos hfit.2.1, Option.bind_some, if_pos hsent,
      List.map_take]
  · rw [if_neg hfit]
    split
    · rfl
    · rename_i hsize
      split
      · rename_i hroom
        rw [Option.bind_some, if_neg]
        rw [List.length_map]
        exact fun hsent => hfit ⟨not_lt.mp hsize, hroom, hsent⟩
      · rfl

/-! ## Buffers of the host -/

/-- The handle is for the colours of the plan. -/
structure CbHandle.DrawnAs (cb : CbHandle) (plan : Plan) : Prop where
  glFormat : cb.glFormat = plan.info.glFormat
  glType : cb.glType = plan.info.glType

section Outcomes

variable {r : AllocRequest} {plan : Plan} {reply : AllocReply} {fd : CInt} {effects : List Effect}
  {cb cb' : CbHandle}

theorem drawnAs_mapBuffer (h : cb.DrawnAs plan) (mmap : Except Errno CInt) (pid : CInt) :
    (mapBuffer cb mmap pid).2.1.DrawnAs plan := by
  unfold mapBuffer
  split
  · exact h
  · split
    · exact h
    · exact ⟨h.glFormat, h.glType⟩

/-- Where the host has to make a colour buffer, a handle that is returned has one. -/
theorem drawnAs_allocHost (hwants : r.wantsHost = true) (h : cb.DrawnAs plan)
    (hcb : (allocHost r reply fd cb effects).cb = some cb') :
    cb'.DrawnAs plan ∧ cb'.hostHandle ≠ 0#32 := by
  unfold allocHost at hcb
  rw [if_pos hwants] at hcb
  dsimp only at hcb
  split at hcb
  · cases hcb
  · rename_i hhost
    cases hcb
    exact ⟨⟨h.glFormat, h.glType⟩, hhost⟩

theorem drawnAs_allocMapped (hwants : r.wantsHost = true)
    (hcb : (allocMapped r plan reply fd effects).cb = some cb') :
    cb'.DrawnAs plan ∧ cb'.hostHandle ≠ 0#32 := by
  have hnew : (newCbHandle r plan fd).DrawnAs plan := ⟨rfl, rfl⟩
  unfold allocMapped at hcb
  dsimp only at hcb
  split at hcb
  · split at hcb
    · cases hcb
    · exact drawnAs_allocHost hwants (drawnAs_mapBuffer hnew reply.mmap reply.pid) hcb
  · exact drawnAs_allocHost hwants hnew hcb

theorem drawnAs_allocBuffer (hwants : r.wantsHost = true) (hplan : r.plan = some plan)
    (hcb : (allocBuffer r reply).cb = some cb') : cb'.DrawnAs plan ∧ cb'.hostHandle ≠ 0#32 := by
  unfold allocBuffer at hcb
  rw [hplan] at hcb
  dsimp only at hcb
  split at hcb
  · split at hcb
    · cases hcb
    · exact drawnAs_allocMapped hwants hcb
  · exact drawnAs_allocMapped hwants hcb

end Outcomes

/-! ## The size of an upload -/

/-- Without colour planes of its own, the encoder counts a format as `gralloc_alloc` does. -/
theorem pixelBitSize_eq {r : AllocRequest} {format : CInt} {info : FormatInfo}
    (h : formatInfo r format = some info) (hyuv : info.yuv_format = false) :
    OpenglCodecCommon.glUtilsPixelBitSize info.glFormat info.glType = 8 * info.bpp.toNat ∧
      info.bpp.toNat ≤ 4 := by
  have hall : ∀ info ∈ formatInfos, info.yuv_format = false →
      OpenglCodecCommon.glUtilsPixelBitSize info.glFormat info.glType = 8 * info.bpp.toNat ∧
        info.bpp.toNat ≤ 4 := by
    decide
  exact hall info (formatInfo_mem r format info h) hyuv

/-- The bytes of a line, as the encoder gets them from its bits: the bits may have wrapped
around. -/
theorem toInt_lineBits {width bits : CInt} {line : Nat} (hbits : (bits * width).toNat =
    8 * line % 2 ^ 32) :
    ∃ q : Int, ((bits * width).sshiftRight 3).toInt = line - 2 ^ 29 * q ∧
      2 ^ 29 * q ≤ line + 2 ^ 28 ∧ line + 2 ^ 28 < 2 ^ 29 * (q + 1) := by
  rw [BitVec.toInt_sshiftRight, Int.shiftRight_eq_div_pow, BitVec.toInt_eq_toNat_cond, hbits]
  -- how often the bits have wrapped around
  refine ⟨(line + 2 ^ 28) / 2 ^ 29, ?_⟩
  split <;> omega

theorem toNat_mul_eq_emod (x y : CInt) : ((x * y).toNat : Int) = x.toInt * y.toNat % 2 ^ 32 := by
  have hx : (x.toNat : Int) = x.toInt % 2 ^ 32 := by
    rw [BitVec.toInt_eq_toNat_cond]
    split <;> omega
  rw [BitVec.toNat_mul, Int.natCast_emod, Int.natCast_mul, Int.natCast_pow, Nat.cast_ofNat, hx,
    Int.mul_emod, Int.emod_emod, ← Int.mul_emod]

/-- The encoder counts bits before it counts bytes, in an `int`: the count of a small image is
right just when a line of it has fewer than `2 ^ 28` bytes. -/
theorem toNat_sizePixels_eq_iff {format type width height : CInt} {bytes total : Nat}
    (hbits : OpenglCodecCommon.glUtilsPixelBitSize format type = 8 * bytes) (hbytes : bytes ≤ 4)
    (hheight : 0 < height.toNat)
    (hle : width.toNat * bytes * height.toNat ≤ total) (htotal : total < 2 ^ 31) :
    (sizePixels format type width height).toNat = total ↔
      width.toNat * bytes < 2 ^ 28 ∧ total = width.toNat * bytes * height.toNat := by
  generalize hline : width.toNat * bytes = line at hle ⊢
  have hwrap : (BitVec.ofNat 32 (8 * bytes) * width).toNat = 8 * line % 2 ^ 32 := by
    rw [BitVec.toNat_mul, BitVec.toNat_ofNat, Nat.mod_eq_of_lt (a := 8 * bytes) (by omega), ← hline]
    congr 1
    ring
  obtain ⟨q, hq, hbelow, habove⟩ := toInt_lineBits hwrap
  have hsize : ((sizePixels format type width height).toNat : Int) =
      (line * height.toNat - 2 ^ 29 * (q * height.toNat)) % 2 ^ 32 := by
    rw [sizePixels, hbits, toNat_mul_eq_emod, hq]
    congr 1
    ring
  constructor
  · intro h
    rw [h] at hsize
    by_cases hzero : q = 0
    · rw [hzero, zero_mul, mul_zero, sub_zero] at hsize
      exact ⟨by omega, by omega⟩
    · -- a count that has wrapped around is too large for the image, or too small
      have hscaled : (2 ^ 29 * q - 2 ^ 28) * (height.toNat : Int) ≤ line * height.toNat :=
        mul_le_mul_of_nonneg_right (by omega) (by omega)
      have hrows : (height.toNat : Int) ≤ q * height.toNat :=
        le_mul_of_one_le_left (by omega) (by omega)
      have hexpand : (2 ^ 29 * q - 2 ^ 28) * (height.toNat : Int) =
          2 ^ 29 * (q * height.toNat) - 2 ^ 28 * height.toNat := by ring
      omega
  · rintro ⟨hnarrow, rfl⟩
    have hzero : q = 0 := by omega
    rw [hzero, zero_mul, mul_zero, sub_zero] at hsize
    omega

end Gralloc
end DeviceAndroVM
