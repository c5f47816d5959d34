import DeviceAndroVM.Camera.EmulatedCamera
import DeviceAndroVM.Camera.PlaneLayouts
import DeviceAndroVM.Library.Decimal
import DeviceAndroVM.VInput.LineParsing
import Mathlib.Algebra.Group.Nat.Even
import Mathlib.Tactic.Ring

/-!
# What the preview conversion touches

The converters walk over pairs of pixels, whatever the size of the frame.  Here the loop is watched:
which bytes of the frame it reads, and which pixels of the preview it writes.

* `Touch`, `pairTouches`, `touches` — the loop with its reads and writes.
* `yuv420S_congr` — no other byte of the frame has a part in the image.
* `touches_within_iff` — the touches stay within two limits when those of the last turn do.
* `parseXYFromList`, `overload_natDigits` — the sizes that a property can ask for: all.
* `previewTouches`, `Later` — what `getCurrentPreviewFrame` touches, at any time until the device is
  set up again.
* `previewWithin_iff` — for which sizes it stays within the buffers.
-/

namespace DeviceAndroVM
namespace Camera
namespace Converters

open Library

/-! ## The loop, watched -/

/-- A byte of the frame that is read, or a pixel that is written. -/
inductive Touch
  | read (address : Nat)
  | write (index : Nat)
  deriving DecidableEq

/-- Only the first bytes are read, and only the first pixels written. -/
def Touch.Within (bytes pixels : Nat) : Touch → Prop
  | read address => address < bytes
  | write index => index < pixels

instance (bytes pixels : Nat) : DecidablePred (Touch.Within bytes pixels)
  | .read address => inferInstanceAs (Decidable (address < bytes))
  | .write index => inferInstanceAs (Decidable (index < pixels))

section Loop

variable {α : Type} (frame : Frame) (pixel : Int → Int → Int → α) (dUV width : Nat)

/-- A turn of the loop over a row, in the order of the source. -/
def pairTouches (c : Cursor α) : List Touch :=
  [.read c.U, .read c.V, .read c.Y, .write c.rgb.length, .read (c.Y + 1), .write (c.rgb.length + 1)]

def rowTouches (c : Cursor α) : List Touch :=
  pieces (fun k => pairTouches (pairs frame pixel dUV k c)) ((width + 1) / 2)

def touches (height : Nat) (c : Cursor α) : List Touch :=
  pieces (fun y => rowTouches frame pixel dUV width (rows frame pixel dUV width y c)) height

variable {frame pixel dUV width}

theorem mem_touches {height : Nat} {c : Cursor α} {t : Touch} :
    t ∈ touches frame pixel dUV width height c ↔
      ∃ y < height, ∃ k < (width + 1) / 2,
        t ∈ pairTouches (pairs frame pixel dUV k (rows frame pixel dUV width y c)) := by
  simp only [touches, rowTouches, mem_pieces]

theorem pair_congr {frame' : Frame} {c : Cursor α}
    (h : ∀ a, .read a ∈ pairTouches c → frame' a = frame a) :
    pair frame' pixel dUV c = pair frame pixel dUV c := by
  have hU : frame' c.U = frame c.U := h c.U (by simp [pairTouches])
  have hV : frame' c.V = frame c.V := h c.V (by simp [pairTouches])
  have hfirst : frame' c.Y = frame c.Y := h c.Y (by simp [pairTouches])
  have hsecond : frame' (c.Y + 1) = frame (c.Y + 1) := h (c.Y + 1) (by simp [pairTouches])
  simp only [pair, hU, hV, hfirst, hsecond]

theorem pairs_congr {frame' : Frame} {n : Nat} {c : Cursor α}
    (h : ∀ k < n, ∀ a, .read a ∈ pairTouches (pairs frame pixel dUV k c) → frame' a = frame a) :
    pairs frame' pixel dUV n c = pairs frame pixel dUV n c := by
  induction n with
  | zero => rfl
  | succ n ih =>
      rw [pairs, pairs, ih fun k hk => h k (Nat.lt_succ_of_lt hk)]
      exact pair_congr (h n (Nat.lt_succ_self n))

theorem rows_congr {frame' : Frame} {height : Nat} {c : Cursor α}
    (h : ∀ a, .read a ∈ touches frame pixel dUV width height c → frame' a = frame a) :
    rows frame' pixel dUV width height c = rows frame pixel dUV width height c := by
  induction height with
  | zero => rfl
  | succ y ih =>
      have hbefore : ∀ a, .read a ∈ touches frame pixel dUV width y c → frame' a = frame a := by
        intro a ha
        obtain ⟨y', hy', k, hk, hmem⟩ := mem_touches.mp ha
        exact h a (mem_touches.mpr ⟨y', Nat.lt_succ_of_lt hy', k, hk, hmem⟩)
      rw [rows, rows, ih hbefore]
      congr 1
      apply pairs_congr
      intro k hk a ha
      exact h a (mem_touches.mpr ⟨y, Nat.lt_succ_self y, k, hk, ha⟩)

/-- What the loop does not read has no part in the image. -/
theorem yuv420S_congr {frame' : Frame} {Y U V height : Nat}
    (h : ∀ a, .read a ∈ touches frame pixel dUV width height ⟨Y, U, V, U, V, []⟩ →
      frame' a = frame a) :
    yuv420S frame' pixel dUV Y U V width height = yuv420S frame pixel dUV Y U V width height := by
  rw [yuv420S, yuv420S, rows_congr h]

/-! ## Where the loop gets to -/

/-- A row of odd length is walked like one with a pixel more. -/
theorem rows_even (y : Nat) (c : Cursor α) :
    rows frame pixel dUV width y c = rows frame pixel dUV (2 * ((width + 1) / 2)) y c := by
  have hturns : (2 * ((width + 1) / 2) + 1) / 2 = (width + 1) / 2 := by omega
  induction y with
  | zero => rfl
  | succ y ih => rw [rows, rows, ih, hturns]

variable (frame pixel) in
/-- The pointers at the beginning of turn `k` of row `y`. -/
theorem turn_eq (Y U V y k : Nat) :
    ∃ rgb : List α, rgb.length = y * (2 * ((width + 1) / 2)) + 2 * k ∧
      pairs frame pixel dUV k (rows frame pixel dUV width y ⟨Y, U, V, U, V, []⟩) =
        { Y := Y + y * (2 * ((width + 1) / 2)) + 2 * k
          U := U + (y / 2 * ((width + 1) / 2) + k) * dUV
          V := V + (y / 2 * ((width + 1) / 2) + k) * dUV
          U_pos := U + y / 2 * ((width + 1) / 2) * dUV
          V_pos := V + y / 2 * ((width + 1) / 2) * dUV
          rgb := rgb } := by
  have heven : 2 * ((width + 1) / 2) % 2 = 0 := Nat.mul_mod_right 2 _
  have hhalf : 2 * ((width + 1) / 2) / 2 = (width + 1) / 2 := Nat.mul_div_cancel_left _ (by decide)
  rw [rows_even, rows_eq frame pixel dUV heven, pairs_eq, hhalf]
  simp only [Nat.add_mul, Nat.add_assoc]
  refine ⟨_, ?_, rfl⟩
  simp [length_positions]

theorem forall_mem_pairTouches {c : Cursor α} {bytes pixels : Nat} :
    (∀ t ∈ pairTouches c, t.Within bytes pixels) ↔
      c.U < bytes ∧ c.V < bytes ∧ c.Y + 1 < bytes ∧ c.rgb.length + 1 < pixels := by
  simp only [pairTouches, List.mem_cons, List.not_mem_nil, or_false, forall_eq_or_imp, forall_eq,
    Touch.Within]
  omega

/-- The pointers are nowhere further than in the last turn of the last row. -/
theorem touches_within_iff {Y U V height bytes pixels : Nat} (hwidth : 0 < width)
    (hheight : 0 < height) :
    (∀ t ∈ touches frame pixel dUV width height ⟨Y, U, V, U, V, []⟩, t.Within bytes pixels) ↔
      (U + ((height + 1) / 2 * ((width + 1) / 2) - 1) * dUV < bytes ∧
        V + ((height + 1) / 2 * ((width + 1) / 2) - 1) * dUV < bytes) ∧
        Y + height * (2 * ((width + 1) / 2)) ≤ bytes ∧
          height * (2 * ((width + 1) / 2)) ≤ pixels := by
  have hturns : 0 < (width + 1) / 2 := by omega
  have hturn : ∀ y k, (∀ t ∈ pairTouches (pairs frame pixel dUV k
        (rows frame pixel dUV width y ⟨Y, U, V, U, V, []⟩)), t.Within bytes pixels) ↔
      U + (y / 2 * ((width + 1) / 2) + k) * dUV < bytes ∧
        V + (y / 2 * ((width + 1) / 2) + k) * dUV < bytes ∧
          Y + (y * (2 * ((width + 1) / 2)) + 2 * k + 1) < bytes ∧
            y * (2 * ((width + 1) / 2)) + 2 * k + 1 < pixels := by
    intro y k
    obtain ⟨rgb, hlength, hcursor⟩ := turn_eq frame pixel Y U V y k
    rw [forall_mem_pairTouches, hcursor]
    simp only [hlength, Nat.add_assoc]
  have hall : (∀ t ∈ touches frame pixel dUV width height ⟨Y, U, V, U, V, []⟩,
      t.Within bytes pixels) ↔ ∀ y < height, ∀ k < (width + 1) / 2,
        ∀ t ∈ pairTouches (pairs frame pixel dUV k
          (rows frame pixel dUV width y ⟨Y, U, V, U, V, []⟩)), t.Within bytes pixels := by
    constructor
    · intro h y hy k hk t ht
      exact h t (mem_touches.mpr ⟨y, hy, k, hk, ht⟩)
    · intro h t ht
      obtain ⟨y, hy, k, hk, hmem⟩ := mem_touches.mp ht
      exact h y hy k hk t hmem
  rw [hall]
  simp only [hturn]
  generalize (width + 1) / 2 = turns at *
  -- one way the last turn is enough, the other way it is ahead of every other one
  constructor
  · intro h
    have hlast := h (height - 1) (by omega) (turns - 1) (by omega)
    have hchroma : (height - 1) / 2 * turns + (turns - 1) = (height + 1) / 2 * turns - 1 := by
      rw [show (height + 1) / 2 = (height - 1) / 2 + 1 by omega, Nat.succ_mul]
      omega
    have hluma : (height - 1) * (2 * turns) + 2 * (turns - 1) + 2 = height * (2 * turns) := by
      rw [Nat.sub_one_mul]
      have hrow := Nat.le_mul_of_pos_left (2 * turns) hheight
      omega
    rw [hchroma] at hlast
    omega
  · rintro ⟨⟨hU, hV⟩, hY, hrgb⟩ y hy k hk
    have hrow : (y / 2 + 1) * turns ≤ (height + 1) / 2 * turns :=
      Nat.mul_le_mul_right _ (by omega)
    rw [Nat.succ_mul] at hrow
    have hchroma : (y / 2 * turns + k) * dUV ≤ ((height + 1) / 2 * turns - 1) * dUV :=
      Nat.mul_le_mul_right _ (by omega)
    have hluma : (y + 1) * (2 * turns) ≤ height * (2 * turns) := Nat.mul_le_mul_right _ hy
    rw [Nat.succ_mul] at hluma
    omega

end Loop

/-! ## The encodings -/

namespace Encoding

def touches (frame : Frame) (width height : Nat) (e : Encoding) : List Touch :=
  let p := e.pointers width height
  Converters.touches frame YUVToRGB32 p.dUV width height ⟨p.Y, p.U, p.V, p.U, p.V, []⟩

/-- The chroma channels have planes of their own. -/
def planar : Encoding → Bool
  | YV12 | YU12 => true
  | NV12 | NV21 => false

/-- For which sizes a converter stays within a frame of twelve bits per pixel. -/
def Fits (width height : Nat) (e : Encoding) : Prop :=
  width % 2 = 0 ∧ (height % 2 = 0 ∨ (width = 2 ∧ e.planar = true))

instance (width height : Nat) (e : Encoding) : Decidable (e.Fits width height) :=
  inferInstanceAs (Decidable (width % 2 = 0 ∧ (height % 2 = 0 ∨ (width = 2 ∧ e.planar = true))))

/-- With an even width there are three halves of a byte for each pixel, and half a row more when
the last row has no other to share its chroma with. -/
theorem chroma_within_iff {width height : Nat} (hwidth : 0 < width) (hheight : 0 < height)
    (heven : width % 2 = 0) (e : Encoding) :
    ((e.pointers width height).U +
          ((height + 1) / 2 * ((width + 1) / 2) - 1) * (e.pointers width height).dUV <
        width * height * 12 / 8 ∧
      (e.pointers width height).V +
          ((height + 1) / 2 * ((width + 1) / 2) - 1) * (e.pointers width height).dUV <
        width * height * 12 / 8) ↔
      height % 2 = 0 ∨ (width = 2 ∧ e.planar = true) := by
  obtain ⟨columns, rfl⟩ := Nat.dvd_of_mod_eq_zero heven
  have hcolumns : (2 * columns + 1) / 2 = columns := by omega
  rw [hcolumns]
  rcases Nat.even_or_odd' height with ⟨rows, rfl | rfl⟩
  · have harea : 2 * columns * (2 * rows) = 4 * (rows * columns) := by ring
    have hchroma : (2 * rows + 1) / 2 * columns = rows * columns := by
      rw [show (2 * rows + 1) / 2 = rows by omega]
    have hpos : 0 < rows * columns := Nat.mul_pos (by omega) (by omega)
    cases e with
    | YV12 | YU12 | NV12 | NV21 =>
        simp only [pointers, harea, hchroma]
        omega
  · have harea : 2 * columns * (2 * rows + 1) = 4 * (rows * columns) + 2 * columns := by ring
    have hchroma : (2 * rows + 1 + 1) / 2 * columns = rows * columns + columns := by
      rw [show (2 * rows + 1 + 1) / 2 = rows + 1 by omega, Nat.succ_mul]
    -- a plane for each channel holds the additional samples only if there is one of them
    cases e with
    | YV12 | YU12 =>
        simp only [pointers, planar, harea, hchroma, and_true]
        omega
    | NV12 | NV21 =>
        simp only [pointers, planar, harea, hchroma, Bool.false_eq_true, and_false, or_false]
        omega

/-- A converter stays within a frame of twelve bits per pixel, and within the pixels of the preview,
for these sizes and no others. -/
theorem touches_within_iff (frame : Frame) {width height : Nat} (hwidth : 0 < width)
    (hheight : 0 < height) (e : Encoding) :
    (∀ t ∈ e.touches frame width height,
      t.Within (width * height * 12 / 8) (width * height)) ↔ e.Fits width height := by
  rw [touches, Converters.touches_within_iff hwidth hheight, Fits]
  rcases Nat.mod_two_eq_zero_or_one width with heven | hodd
  · have hrow : 2 * ((width + 1) / 2) = width := by omega
    have hY : (e.pointers width height).Y = 0 := by cases e <;> rfl
    rw [chroma_within_iff hwidth hheight heven, hY, hrow, Nat.mul_comm height width,
      and_iff_right heven]
    exact and_iff_left ⟨by omega, Nat.le_refl _⟩
  · -- every row has a pixel too many
    have hrow : 2 * ((width + 1) / 2) = width + 1 := by omega
    have hpixels : width * height < height * (2 * ((width + 1) / 2)) := by
      rw [hrow, Nat.mul_comm width height]
      exact Nat.mul_lt_mul_of_pos_left (Nat.lt_succ_self width) hheight
    omega

end Encoding

end Converters

/-! ## The sizes -/

open Library Library.CString Converters Relation

/-- The bytes `,` and `x`. -/
abbrev COMMA : UInt8 := 0x2C
abbrev TIMES : UInt8 := 0x78

/-- `EmulatedGenyCamera::parseXYFromList`; `first_dim` has room for 127 bytes. -/
def parseXYFromList (dims_list : CString) : Option (Int × Int) :=
  let first_dim := (dims_list.takeWhile (· != COMMA)).take 127
  if TIMES ∈ first_dim then
    some (VInput.atoi (first_dim.takeWhile (· != TIMES)),
      VInput.atoi ((first_dim.dropWhile (· != TIMES)).drop 1))
  else none

/-- `EmulatedGenyCamera::startPreview` before it calls its parent: a size in the property takes the
place of those in the parameters. -/
def CameraParameters.overload (params : CameraParameters) (prop : CString) : CameraParameters :=
  match parseXYFromList prop with
  | some dims => { params with previewSize := dims, pictureSize := dims }
  | none => params

theorem atoi_natDigits {n : Nat} (h : n < 2 ^ 31) : VInput.atoi (natDigits n) = n := by
  obtain ⟨hdigits, hvalue, hne, -⟩ := natDigits_spec n
  have hscan := scanInt_digits_append hne hdigits [] rfl
  rw [List.append_nil, hvalue] at hscan
  rw [VInput.atoi, hscan, Option.getD_some]
  omega

/-- The property can ask for every size that there is. -/
theorem overload_natDigits (params : CameraParameters) {width height : Nat}
    (hwidth : width < 2 ^ 31) (hheight : height < 2 ^ 31) :
    (params.overload (natDigits width ++ TIMES :: natDigits height)).previewSize =
      ((width : Int), (height : Int)) := by
  -- no separator is a digit, and so the text is cut where it was put together
  have hbyte : ∀ n, ∀ c, isdigit c = false → ∀ d ∈ natDigits n, d ≠ c := by
    rintro n c hc d hd rfl
    rw [(natDigits_spec n).1 d hd] at hc
    cases hc
  have hlength : ∀ n < 2 ^ 31, (natDigits n).length ≤ 10 := fun n hn =>
    ((natDigits_spec n).2.2.2 9).mp (by omega)
  have hfirst : ((natDigits width ++ TIMES :: natDigits height).takeWhile (· != COMMA)).take 127 =
      natDigits width ++ TIMES :: natDigits height := by
    have hcomma : ∀ d ∈ natDigits width ++ TIMES :: natDigits height, (d != COMMA) = true := by
      intro d hd
      rcases List.mem_append.mp hd with hd | hd
      · exact bne_iff_ne.mpr (hbyte width COMMA rfl d hd)
      · rcases List.mem_cons.mp hd with rfl | hd
        · rfl
        · exact bne_iff_ne.mpr (hbyte height COMMA rfl d hd)
    have hw := hlength width hwidth
    have hh := hlength height hheight
    rw [List.takeWhile_eq_self_iff.mpr hcomma, List.take_of_length_le]
    simp only [List.length_append, List.length_cons]
    omega
  have hdrop : (natDigits width ++ TIMES :: natDigits height).dropWhile (· != TIMES) =
      TIMES :: natDigits height := by
    rw [List.dropWhile_append_of_pos fun d hd => bne_iff_ne.mpr (hbyte width TIMES rfl d hd)]
    rfl
  unfold CameraParameters.overload parseXYFromList
  dsimp only
  rw [hfirst, if_pos (by simp), takeWhile_append_cons (hbyte width TIMES rfl), hdrop,
    List.drop_one, List.tail_cons, atoi_natDigits hwidth, atoi_natDigits hheight]

/-! ## The device -/

/-- The encoding of a format that a frame buffer may have. -/
def encodingOf (pix_fmt : BitVec 32) : Option Encoding :=
  if pix_fmt = V4L2_PIX_FMT_YVU420 then some .YV12
  else if pix_fmt = V4L2_PIX_FMT_YUV420 then some .YU12
  else if pix_fmt = V4L2_PIX_FMT_NV21 then some .NV21
  else if pix_fmt = V4L2_PIX_FMT_NV12 then some .NV12
  else none

/-- The calls of a device. -/
inductive DeviceCall
  | connectDevice (answer : status_t)
  | disconnectDevice (answer : status_t)
  | startDevice (frame : Option Nat) (width height : Int) (pix_fmt : BitVec 32) (answer : status_t)
  | stopDevice (answer : status_t)

namespace EmulatedCameraDevice

/-- What `getCurrentPreviewFrame` reads of `mCurrentFrame` and writes of the preview buffer. -/
def previewTouches (dev : EmulatedCameraDevice) (buffer : Option Nat) (content : Frame) :
    List Touch :=
  if dev.getCurrentPreviewFrame buffer = NO_ERROR then
    match encodingOf dev.mPixelFormat with
    | some e => e.touches content dev.mFrameWidth.toNat dev.mFrameHeight.toNat
    | none => []
  else []

def call (dev : EmulatedCameraDevice) : DeviceCall → EmulatedCameraDevice
  | .connectDevice answer => (dev.connectDevice answer).2.1
  | .disconnectDevice answer => (dev.disconnectDevice answer).2.1
  | .startDevice frame width height pix_fmt answer =>
      (dev.startDevice frame width height pix_fmt answer).2.1
  | .stopDevice answer => (dev.stopDevice answer).2.1

/-- The call gets to `commonStartDevice`. -/
def setsUp (dev : EmulatedCameraDevice) : DeviceCall → Bool
  | .startDevice .. => dev.isConnected && !dev.isStarted
  | _ => false

/-- The device after calls none of which has set it up again. -/
def Later : EmulatedCameraDevice → EmulatedCameraDevice → Prop :=
  ReflTransGen fun dev dev' => ∃ c, dev.setsUp c = false ∧ dev' = dev.call c

/-- The frame is gone, or the device has the members it was set up with. -/
def KeepsFrame (dev later : EmulatedCameraDevice) : Prop :=
  later.mCurrentFrame = none ∨
    (later.mFrameWidth = dev.mFrameWidth ∧ later.mFrameHeight = dev.mFrameHeight ∧
      later.mPixelFormat = dev.mPixelFormat ∧ later.mFrameBufferSize = dev.mFrameBufferSize)

theorem keepsFrame_call {dev later : EmulatedCameraDevice} {c : DeviceCall}
    (h : dev.KeepsFrame later) (hc : later.setsUp c = false) : dev.KeepsFrame (later.call c) := by
  cases c with
  | connectDevice answer =>
      rcases connectDevice_cases later answer with ⟨-, heq⟩ | ⟨-, res, heq⟩
      · rw [call, heq]
        dsimp only
        split <;> exact h
      · rw [call, heq]
        exact h
  | disconnectDevice answer =>
      rcases disconnectDevice_cases later answer with ⟨-, heq⟩ | ⟨-, res, heq⟩
      · rw [call, heq]
        dsimp only
        split <;> exact h
      · rw [call, heq]
        exact h
  | startDevice frame width height pix_fmt answer =>
      rw [call, startDevice]
      rw [setsUp] at hc
      split
      · exact h
      · rename_i hconnected
        split
        · exact h
        · rename_i hstarted
          simp_all
  | stopDevice answer =>
      rcases stopDevice_cases later answer with ⟨-, heq⟩ | ⟨-, heq⟩
      · rw [call, heq]
        dsimp only
        split
        · exact Or.inl rfl
        · exact h
      · rw [call, heq]
        exact h

theorem keepsFrame_later {dev later : EmulatedCameraDevice} (h : dev.Later later) :
    dev.KeepsFrame later := by
  induction h with
  | refl => exact Or.inr ⟨rfl, rfl, rfl, rfl⟩
  | tail _ hstep ih =>
      obtain ⟨c, hc, rfl⟩ := hstep
      exact keepsFrame_call ih hc

/-- A frame that is gone is not converted. -/
theorem previewTouches_none {dev : EmulatedCameraDevice} (h : dev.mCurrentFrame = none)
    (buffer : Option Nat) (content : Frame) : dev.previewTouches buffer content = [] := by
  have herror : dev.getCurrentPreviewFrame buffer ≠ NO_ERROR := by
    unfold getCurrentPreviewFrame
    rw [if_pos (Or.inl h)]
    split <;> decide
  rw [previewTouches, if_neg herror]

/-- The device has been set up with this size and format. -/
structure SetUp (dev : EmulatedCameraDevice) (width height : Int) (pix_fmt : BitVec 32) : Prop where
  mFrameWidth : dev.mFrameWidth = width
  mFrameHeight : dev.mFrameHeight = height
  mPixelFormat : dev.mPixelFormat = pix_fmt
  mFrameBufferSize : dev.mFrameBufferSize = (width * height * 12).tdiv 8

theorem setUp_commonStartDevice {dev dev' : EmulatedCameraDevice} {frame : Option Nat}
    {width height : Int} {pix_fmt : BitVec 32}
    (h : dev.commonStartDevice frame width height pix_fmt = (NO_ERROR, dev')) :
    dev'.SetUp width height pix_fmt := by
  unfold commonStartDevice at h
  split at h
  · dsimp only at h
    split at h
    · cases h
    · cases h
      exact ⟨rfl, rfl, rfl, rfl⟩
  · cases h

theorem setUp_startDevice {dev dev' : EmulatedCameraDevice} {frame : Option Nat}
    {width height : Int} {pix_fmt : BitVec 32} {answer : status_t}
    {queries : List (Query × status_t)} (hstarted : dev.isStarted = false)
    (h : dev.startDevice frame width height pix_fmt answer = (NO_ERROR, dev', queries)) :
    dev'.SetUp width height pix_fmt := by
  unfold startDevice at h
  rw [hstarted, if_neg Bool.false_ne_true] at h
  split at h
  · cases h
  · generalize hcommon : dev.commonStartDevice frame width height pix_fmt = result at h
    obtain ⟨res, dev''⟩ := result
    dsimp only at h
    split at h
    · rename_i hres
      exact absurd (congrArg Prod.fst h) hres
    · rename_i hres
      rw [Decidable.not_not.mp hres] at hcommon
      have hsetUp := setUp_commonStartDevice hcommon
      split at h
      · cases h
        exact ⟨hsetUp.mFrameWidth, hsetUp.mFrameHeight, hsetUp.mPixelFormat,
          hsetUp.mFrameBufferSize⟩
      · rename_i hanswer
        exact absurd (congrArg Prod.fst h) hanswer

/-- After a start the preview is converted with the sizes and the format of that, or not at all. -/
theorem previewTouches_cases {dev later : EmulatedCameraDevice} {e : Encoding}
    (hlater : dev.Later later) (he : encodingOf dev.mPixelFormat = some e) (buffer : Option Nat)
    (content : Frame) :
    later.previewTouches buffer content = [] ∨
      (later.mFrameBufferSize = dev.mFrameBufferSize ∧ later.previewTouches buffer content =
        e.touches content dev.mFrameWidth.toNat dev.mFrameHeight.toNat) := by
  rcases keepsFrame_later hlater with hnone | ⟨hwidth, hheight, hformat, hsize⟩
  · exact Or.inl (previewTouches_none hnone buffer content)
  · unfold previewTouches
    rw [hwidth, hheight, hformat, he]
    split
    · exact Or.inr ⟨hsize, rfl⟩
    · exact Or.inl rfl

theorem encodingOf_isYuv {pix_fmt : BitVec 32} (h : isYuv pix_fmt = true) :
    ∃ e, encodingOf pix_fmt = some e ∧
      (e.planar = true ↔ pix_fmt = V4L2_PIX_FMT_YVU420 ∨ pix_fmt = V4L2_PIX_FMT_YUV420) := by
  simp only [isYuv, Bool.or_eq_true, beq_iff_eq] at h
  rcases h with ((rfl | rfl) | rfl) | rfl
  · exact ⟨.YV12, rfl, by decide⟩
  · exact ⟨.YU12, rfl, by decide⟩
  · exact ⟨.NV21, rfl, by decide⟩
  · exact ⟨.NV12, rfl, by decide⟩

/-- From a start with this size and format until the next one, no preview frame is converted from
outside of the frame buffer, or to more than the pixels of the frame. -/
def PreviewWithin (width height : Int) (pix_fmt : BitVec 32) : Prop :=
  ∀ (dev dev' later : EmulatedCameraDevice) (frame : Option Nat) (answer : status_t)
    (queries : List (Query × status_t)), dev.isStarted = false →
      dev.startDevice frame width height pix_fmt answer = (NO_ERROR, dev', queries) →
        dev'.Later later → ∀ (buffer : Option Nat) (content : Frame),
          ∀ t ∈ later.previewTouches buffer content,
            t.Within dev'.mFrameBufferSize.toNat (width * height).toNat

/-- A connected device. -/
def connected : EmulatedCameraDevice := { initialized with mState := .ECDS_CONNECTED }

/-- There is a start after which a preview frame is converted. -/
theorem exists_preview (width height : Int) {pix_fmt : BitVec 32} (hformat : isYuv pix_fmt = true) :
    ∃ dev' queries, connected.startDevice (some 0) width height pix_fmt NO_ERROR =
        (NO_ERROR, dev', queries) ∧ dev'.getCurrentPreviewFrame (some 0) = NO_ERROR := by
  refine ⟨{ (connected.commonStartDevice (some 0) width height pix_fmt).2 with
    mState := .ECDS_STARTED }, [(.queryStart, NO_ERROR)], ?_, ?_⟩
  · simp [startDevice, commonStartDevice, hformat, connected, isConnected, isStarted]
  · simp [getCurrentPreviewFrame, commonStartDevice, hformat, isStarted]

/-- The conversion stays within the buffers for even widths and heights, and for the other heights
only of a column pair with planes of its own for each chroma channel. -/
theorem previewWithin_iff {width height : Int} {pix_fmt : BitVec 32} (hwidth : 0 < width)
    (hheight : 0 < height) (_hsize : width * height * 12 < 2 ^ 31)
    (hformat : isYuv pix_fmt = true) :
    PreviewWithin width height pix_fmt ↔
      width % 2 = 0 ∧ (height % 2 = 0 ∨
        (width = 2 ∧ (pix_fmt = V4L2_PIX_FMT_YVU420 ∨ pix_fmt = V4L2_PIX_FMT_YUV420))) := by
  obtain ⟨e, he, hplanar⟩ := encodingOf_isYuv hformat
  obtain ⟨columns, rfl⟩ := Int.eq_ofNat_of_zero_le hwidth.le
  obtain ⟨rows, rfl⟩ := Int.eq_ofNat_of_zero_le hheight.le
  have hbytes : ((columns * rows * 12 : Int).tdiv 8).toNat = columns * rows * 12 / 8 := rfl
  have hpixels : (columns * rows : Int).toNat = columns * rows := rfl
  have hfits := fun content => e.touches_within_iff content (show 0 < columns by omega)
    (show 0 < rows by omega)
  have hcondition : (columns : Int) % 2 = 0 ∧ ((rows : Int) % 2 = 0 ∨
      ((columns : Int) = 2 ∧ (pix_fmt = V4L2_PIX_FMT_YVU420 ∨ pix_fmt = V4L2_PIX_FMT_YUV420))) ↔
      e.Fits columns rows := by
    rw [Encoding.Fits, hplanar]
    exact and_congr (by omega) (or_congr (by omega) (and_congr (by omega) Iff.rfl))
  rw [hcondition]
  constructor
  · intro h
    -- a connected device is started, and its first frame converted
    obtain ⟨dev', queries, hstart, hpreview⟩ := exists_preview columns rows hformat
    have hsetUp := setUp_startDevice rfl hstart
    have htouches := h connected dev' dev' (some 0) NO_ERROR queries rfl hstart .refl (some 0)
      fun _ => 0
    rw [previewTouches, if_pos hpreview, hsetUp.mPixelFormat, he, hsetUp.mFrameWidth,
      hsetUp.mFrameHeight, hsetUp.mFrameBufferSize, hbytes, hpixels] at htouches
    exact (hfits _).mp htouches
  · intro h dev dev' later frame answer queries hstarted hstart hlater buffer content t ht
    have hsetUp := setUp_startDevice hstarted hstart
    rw [hsetUp.mFrameBufferSize, hbytes, hpixels]
    rcases previewTouches_cases hlater (hsetUp.mPixelFormat ▸ he) buffer content with
      hnone | ⟨-, hsome⟩
    · rw [hnone] at ht
      cases ht
    · rw [hsome, hsetUp.mFrameWidth, hsetUp.mFrameHeight] at ht
      exact (hfits content).mpr h t ht

theorem previewWithin_vga : PreviewWithin 640 480 V4L2_PIX_FMT_NV21 :=
  (previewWithin_iff (by decide) (by decide) (by decide) rfl).mpr ⟨rfl, .inl rfl⟩

/-- Three columns and two rows have six pixels; the converter takes two pairs for each row. -/
theorem not_previewWithin : ¬∀ (width height : Int) (pix_fmt : BitVec 32), 0 < width → 0 < height →
    width * height * 12 < 2 ^ 31 → isYuv pix_fmt = true → PreviewWithin width height pix_fmt := by
  intro h
  have hformat : isYuv V4L2_PIX_FMT_YUV420 = true := rfl
  obtain ⟨dev', queries, hstart, -⟩ := exists_preview 3 2 hformat
  have hlast := h 3 2 V4L2_PIX_FMT_YUV420 (by decide) (by decide) (by decide) hformat connected
    dev' dev' (some 0) NO_ERROR queries rfl hstart .refl (some 0) (fun _ => 0) (.write 7)
  cases hstart
  exact absurd (hlast (by decide)) (by decide)

end EmulatedCameraDevice
end Camera
end DeviceAndroVM
