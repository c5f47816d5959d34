import Mathlib.Data.List.Basic

/-!
# Buffers of the graphics allocator

`gralloc_cb.h` and the first part of `gralloc_alloc` (`gralloc.cpp`, lines 133–326): what a
buffer is asked for and what memory it needs.  An `int` and a `size_t` have 32 bits; the flags
and formats are those of the Android headers.

* `CbHandle` — `cb_handle_t`, without the locked rectangle.
* `selectFormat`, `formatInfo`, `imageSize` — the pixel format and the size of the image.
* `plan` — everything `gralloc_alloc` works out before it allocates anything.
-/

namespace DeviceAndroVM
namespace Gralloc

abbrev CInt := BitVec 32

/-! ## Constants -/

abbrev GRALLOC_USAGE_SW_READ_MASK : CInt := 0x0000000F#32
abbrev GRALLOC_USAGE_SW_WRITE_MASK : CInt := 0x000000F0#32
abbrev GRALLOC_USAGE_HW_TEXTURE : CInt := 0x00000100#32
abbrev GRALLOC_USAGE_HW_RENDER : CInt := 0x00000200#32
abbrev GRALLOC_USAGE_HW_2D : CInt := 0x00000400#32
abbrev GRALLOC_USAGE_HW_COMPOSER : CInt := 0x00000800#32
abbrev GRALLOC_USAGE_HW_FB : CInt := 0x00001000#32
abbrev GRALLOC_USAGE_HW_VIDEO_ENCODER : CInt := 0x00010000#32
abbrev GRALLOC_USAGE_HW_CAMERA_WRITE : CInt := 0x00020000#32
abbrev GRALLOC_USAGE_HW_CAMERA_READ : CInt := 0x00040000#32
abbrev GRALLOC_USAGE_HW_CAMERA_ZSL : CInt := 0x00060000#32
abbrev GRALLOC_USAGE_HW_CAMERA_MASK : CInt := 0x00060000#32

abbrev HAL_PIXEL_FORMAT_RGBA_8888 : CInt := 1#32
abbrev HAL_PIXEL_FORMAT_RGBX_8888 : CInt := 2#32
abbrev HAL_PIXEL_FORMAT_RGB_888 : CInt := 3#32
abbrev HAL_PIXEL_FORMAT_RGB_565 : CInt := 4#32
abbrev HAL_PIXEL_FORMAT_BGRA_8888 : CInt := 5#32
abbrev HAL_PIXEL_FORMAT_RGBA_5551 : CInt := 6#32
abbrev HAL_PIXEL_FORMAT_RGBA_4444 : CInt := 7#32
abbrev HAL_PIXEL_FORMAT_YCrCb_420_SP : CInt := 0x11#32
abbrev HAL_PIXEL_FORMAT_RAW_SENSOR : CInt := 0x20#32
abbrev HAL_PIXEL_FORMAT_BLOB : CInt := 0x21#32
abbrev HAL_PIXEL_FORMAT_IMPLEMENTATION_DEFINED : CInt := 0x22#32
abbrev HAL_PIXEL_FORMAT_YCbCr_420_888 : CInt := 0x23#32
abbrev HAL_PIXEL_FORMAT_YV12 : CInt := 0x32315659#32

abbrev GL_RGB : CInt := 0x1907#32
abbrev GL_RGBA : CInt := 0x1908#32
abbrev GL_LUMINANCE : CInt := 0x1909#32
abbrev GL_UNSIGNED_BYTE : CInt := 0x1401#32
abbrev GL_UNSIGNED_SHORT : CInt := 0x1403#32
abbrev GL_RGBA4_OES : CInt := 0x8056#32
abbrev GL_RGB5_A1_OES : CInt := 0x8057#32
abbrev GL_UNSIGNED_SHORT_4_4_4_4 : CInt := 0x8033#32
abbrev GL_UNSIGNED_SHORT_5_5_5_1 : CInt := 0x8034#32
abbrev GL_UNSIGNED_SHORT_5_6_5 : CInt := 0x8363#32

abbrev EIO : CInt := 5#32
abbrev EINVAL : CInt := 22#32
abbrev PAGE_SIZE : CInt := 4096#32

/-- `usage & flags` as a condition. -/
def has (usage flags : CInt) : Bool := decide (usage &&& flags ≠ 0)

/-- `0 < n` for an `int`. -/
def positive (n : CInt) : Bool := decide (0 < n.toInt)

/-- `cb_handle_t`; that its header is that of a valid handle is not a field. -/
structure CbHandle where
  fd : CInt
  usage : CInt
  width : CInt
  height : CInt
  frameworkFormat : CInt
  format : CInt
  glFormat : CInt
  glType : CInt
  ashmemSize : CInt
  ashmemBase : CInt
  ashmemBasePid : CInt
  mappedPid : CInt
  hostHandle : CInt
  deriving DecidableEq

/-- What a caller of `gralloc_alloc` asks for; `valid` is that no pointer is NULL. -/
structure AllocRequest where
  valid : Bool
  w : CInt
  h : CInt
  format : CInt
  usage : CInt
  deriving DecidableEq

namespace AllocRequest

def sw_read (r : AllocRequest) : Bool := has r.usage GRALLOC_USAGE_SW_READ_MASK

def sw_write (r : AllocRequest) : Bool := has r.usage GRALLOC_USAGE_SW_WRITE_MASK

def hw_write (r : AllocRequest) : Bool := has r.usage GRALLOC_USAGE_HW_RENDER

def hw_cam_write (r : AllocRequest) : Bool := has r.usage GRALLOC_USAGE_HW_CAMERA_WRITE

def hw_cam_read (r : AllocRequest) : Bool := has r.usage GRALLOC_USAGE_HW_CAMERA_READ

def hw_vid_enc_read (r : AllocRequest) : Bool := has r.usage GRALLOC_USAGE_HW_VIDEO_ENCODER

/-- The concrete pixel format for the endpoints in the usage bits. -/
def selectFormat (r : AllocRequest) : Option CInt :=
  if r.format = HAL_PIXEL_FORMAT_IMPLEMENTATION_DEFINED then
    if r.hw_cam_write then
      if has r.usage GRALLOC_USAGE_HW_TEXTURE then some HAL_PIXEL_FORMAT_RGBA_8888
      else if r.hw_vid_enc_read then some HAL_PIXEL_FORMAT_YCrCb_420_SP
      else if r.usage &&& GRALLOC_USAGE_HW_CAMERA_MASK = GRALLOC_USAGE_HW_CAMERA_ZSL then
        some HAL_PIXEL_FORMAT_RGB_888
      else none
    else none
  else if r.format = HAL_PIXEL_FORMAT_YCbCr_420_888 then
    -- without a camera the format stays, and no case below is for it
    some (if r.hw_cam_write then HAL_PIXEL_FORMAT_YCrCb_420_SP else r.format)
  else some r.format

end AllocRequest

/-- What the `switch` over the formats sets. -/
structure FormatInfo where
  bpp : CInt
  align : CInt
  yuv_format : Bool
  glFormat : CInt
  glType : CInt
  deriving DecidableEq

def formatInfo (r : AllocRequest) (format : CInt) : Option FormatInfo :=
  if format = HAL_PIXEL_FORMAT_RGBA_8888 ∨ format = HAL_PIXEL_FORMAT_RGBX_8888 ∨
      format = HAL_PIXEL_FORMAT_BGRA_8888 then
    some ⟨4, 1, false, GL_RGBA, GL_UNSIGNED_BYTE⟩
  else if format = HAL_PIXEL_FORMAT_RGB_888 then some ⟨3, 1, false, GL_RGB, GL_UNSIGNED_BYTE⟩
  else if format = HAL_PIXEL_FORMAT_RGB_565 then
    some ⟨2, 1, false, GL_RGB, GL_UNSIGNED_SHORT_5_6_5⟩
  else if format = HAL_PIXEL_FORMAT_RGBA_5551 then
    some ⟨2, 1, false, GL_RGB5_A1_OES, GL_UNSIGNED_SHORT_5_5_5_1⟩
  else if format = HAL_PIXEL_FORMAT_RGBA_4444 then
    some ⟨2, 1, false, GL_RGBA4_OES, GL_UNSIGNED_SHORT_4_4_4_4⟩
  else if format = HAL_PIXEL_FORMAT_RAW_SENSOR then
    if (r.sw_read || r.hw_cam_read) && (r.sw_write || r.hw_cam_write) then
      some ⟨2, 16 * 2, false, GL_LUMINANCE, GL_UNSIGNED_SHORT⟩
    else none
  else if format = HAL_PIXEL_FORMAT_BLOB then
    if r.sw_read && r.hw_cam_write then some ⟨1, 1, false, GL_LUMINANCE, GL_UNSIGNED_BYTE⟩
    else none
  else if format = HAL_PIXEL_FORMAT_YCrCb_420_SP then some ⟨1, 1, true, 0, 0⟩
  else if format = HAL_PIXEL_FORMAT_YV12 then some ⟨1, 16, true, 0, 0⟩
  else none

/-- `(n + (align - 1)) & ~(align - 1)`. -/
def roundUp (n align : CInt) : CInt := (n + (align - 1)) &&& ~~~(align - 1)

/-- `ashmem_size` before it is rounded to pages, and `stride`. -/
def imageSize (r : AllocRequest) (info : FormatInfo) : CInt × CInt :=
  let ashmem_size : CInt := if has r.usage GRALLOC_USAGE_HW_FB then 4 else 0
  if r.sw_read || r.sw_write || r.hw_cam_write || r.hw_vid_enc_read then
    if info.yuv_format then
      let yStride := roundUp (r.w * info.bpp) info.align
      let uvStride := roundUp (yStride / 2) info.align
      let uvHeight := r.h.sdiv 2
      (ashmem_size + (yStride * r.h + 2 * (uvHeight * uvStride)), yStride / info.bpp)
    else
      let bpr := roundUp (r.w * info.bpp) info.align
      (ashmem_size + bpr * r.h, bpr / info.bpp)
  else (ashmem_size, r.w)

/-- What is to be allocated for a request; the size is not rounded to pages yet. -/
structure Plan where
  format : CInt
  info : FormatInfo
  ashmem_size : CInt
  stride : CInt
  deriving DecidableEq

/-- The part of `gralloc_alloc` before it allocates anything; without a result it returns
`-EINVAL`. -/
def AllocRequest.plan (r : AllocRequest) : Option Plan :=
  if !r.valid || (r.hw_write && r.sw_write) then none
  else
    r.selectFormat.bind fun format =>
      (formatInfo r format).map fun info => ⟨format, info, (imageSize r info).1, (imageSize r info).2⟩

/-- The size of the area: a positive size is rounded to pages. -/
def Plan.areaSize (plan : Plan) : CInt :=
  if positive plan.ashmem_size then roundUp plan.ashmem_size PAGE_SIZE else plan.ashmem_size

/-- The usages for which the host makes a colour buffer. -/
def AllocRequest.wantsHost (r : AllocRequest) : Bool :=
  has r.usage (GRALLOC_USAGE_HW_TEXTURE ||| GRALLOC_USAGE_HW_RENDER ||| GRALLOC_USAGE_HW_2D |||
    GRALLOC_USAGE_HW_COMPOSER ||| GRALLOC_USAGE_HW_FB)

end Gralloc
end DeviceAndroVM
