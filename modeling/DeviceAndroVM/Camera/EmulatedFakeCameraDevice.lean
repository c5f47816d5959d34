import DeviceAndroVM.Camera.EmulatedCameraDevice
import DeviceAndroVM.Library.Chunks
import DeviceAndroVM.Library.MachineWords
import Mathlib.Logic.Function.Basic
import Mathlib.Tactic.Ring

/-!
# The fake camera device

`EmulatedFakeCameraDevice.cpp`: a device that draws its frames itself.  Addresses are numbers, and
`int32` stands at the operations on `int` that can leave its range.

* `commonStartDevice`, `startDevice` — with the arithmetic of the machine; `new` is what the
  allocator answers for a size.
* `Canvas`, `Store` — the memory that is drawn to, with a record of what is stored.
* `drawSquare`, `drawCheckerboard` — the loops over rows and pairs of pixels.
* `mem_drawSquare`, `mem_drawCheckerboard` — what they store, pair by pair.
-/

namespace DeviceAndroVM
namespace Camera

open Library

/-- `YUVPixel`. -/
structure YUVPixel where
  Y : UInt8
  U : UInt8
  V : UInt8
  deriving DecidableEq

/-- The members of `EmulatedFakeCameraDevice`; a frame is known by its address, and `NULL` is
zero. -/
structure EmulatedFakeCameraDevice extends EmulatedCameraDevice where
  mBlackYUV : YUVPixel
  mWhiteYUV : YUVPixel
  mRedYUV : YUVPixel
  mGreenYUV : YUVPixel
  mFrameU : Int
  mFrameV : Int
  mUVStep : Int
  mUVInRow : Int
  mUVTotalNum : Int
  mCheckX : Int
  mCheckY : Int
  mCcounter : Int
  deriving DecidableEq

namespace EmulatedFakeCameraDevice

/-! ## The start -/

/-- `EmulatedCameraDevice::commonStartDevice`. -/
def commonStartDevice (dev : EmulatedCameraDevice) (new : Nat → Option Nat) (width height : Int)
    (pix_fmt : BitVec 32) : status_t × EmulatedCameraDevice :=
  if EmulatedCameraDevice.isYuv pix_fmt then
    let size := uint32 ((int32 (int32 (width * height) * 12)).tdiv 8)
    let dev := { dev with
      mFrameBufferSize := size
      mFrameWidth := width
      mFrameHeight := height
      mPixelFormat := pix_fmt
      mTotalPixels := int32 (width * height)
      mCurrentFrame := new size }
    if new size = none then (ENOMEM, dev) else (NO_ERROR, dev)
  else (EINVAL, dev)

/-- The address in `mCurrentFrame`. -/
def frame (dev : EmulatedCameraDevice) : Int := dev.mCurrentFrame.getD 0

/-- The part of `startDevice` that is about the chroma panes. -/
def calculatePanes (dev : EmulatedFakeCameraDevice) (width : Int) :
    Option EmulatedFakeCameraDevice :=
  let mCurrentFrame := frame dev.toEmulatedCameraDevice
  let pixels := dev.mTotalPixels
  let panes : Option (Int × Int × Int) :=
    if dev.mPixelFormat = V4L2_PIX_FMT_YVU420 then
      some (dev.mFrameU + pixels.tdiv 4, mCurrentFrame + pixels, 1)
    else if dev.mPixelFormat = V4L2_PIX_FMT_YUV420 then
      some (mCurrentFrame + pixels, mCurrentFrame + pixels + pixels.tdiv 4, 1)
    else if dev.mPixelFormat = V4L2_PIX_FMT_NV21 then
      some (mCurrentFrame + pixels + 1, mCurrentFrame + pixels, 2)
    else if dev.mPixelFormat = V4L2_PIX_FMT_NV12 then
      some (mCurrentFrame + pixels, mCurrentFrame + pixels + 1, 2)
    else none
  panes.map fun (U, V, step) =>
    { dev with
      mFrameU := U
      mFrameV := V
      mUVStep := step
      mUVTotalNum := pixels.tdiv 4
      mUVInRow := int32 (width.tdiv 2 * step) }

def startDevice (dev : EmulatedFakeCameraDevice) (new : Nat → Option Nat) (width height : Int)
    (pix_fmt : BitVec 32) : status_t × EmulatedFakeCameraDevice :=
  if !dev.isConnected then (EINVAL, dev)
  else if dev.isStarted then (EINVAL, dev)
  else
    let (res, base) := commonStartDevice dev.toEmulatedCameraDevice new width height pix_fmt
    let dev := { dev with toEmulatedCameraDevice := base }
    if res = NO_ERROR then
      match dev.calculatePanes width with
      | some dev => (res, { dev with mState := .ECDS_STARTED })
      | none => (EINVAL, dev)
    else (res, dev)

def stopDevice (dev : EmulatedFakeCameraDevice) : status_t × EmulatedFakeCameraDevice :=
  if !dev.isStarted then (NO_ERROR, dev)
  else
    (NO_ERROR,
      { dev with
        toEmulatedCameraDevice :=
          { dev.toEmulatedCameraDevice.commonStopDevice with mState := .ECDS_CONNECTED }
        mFrameU := 0
        mFrameV := 0 })

/-! ## Drawing -/

/-- A byte that is stored: of the luma of a row of the frame, or of the chroma. -/
inductive Store
  | luma (row address : Int)
  | chroma (address : Int)
  deriving DecidableEq

def Store.address : Store → Int
  | luma _ address => address
  | chroma address => address

/-- The memory, and what has been stored in it so far. -/
structure Canvas where
  memory : Int → UInt8
  stores : List Store

def Canvas.put (c : Canvas) (s : Store) (value : UInt8) : Canvas where
  memory := Function.update c.memory s.address value
  stores := c.stores ++ [s]

/-- What the drawing of a pair of pixels stores. -/
def pairStores (row Y U V : Int) : List Store :=
  [.luma row Y, .chroma U, .chroma V, .luma row Y, .luma row (Y + 1)]

/-- `YUVPixel::get`, and the two luma bytes after it. -/
def drawPair (changeExposure : UInt8 → UInt8) (c : Canvas) (color : YUVPixel) (row Y U V : Int) :
    Canvas :=
  let c := c.put (.luma row Y) color.Y
  let c := c.put (.chroma U) color.U
  let c := c.put (.chroma V) color.V
  let c := c.put (.luma row Y) (changeExposure (c.memory Y))
  c.put (.luma row (Y + 1)) (c.memory Y)

@[simp] theorem stores_put (c : Canvas) (s : Store) (value : UInt8) :
    (c.put s value).stores = c.stores ++ [s] := rfl

theorem stores_drawPair (changeExposure : UInt8 → UInt8) (c : Canvas) (color : YUVPixel)
    (row Y U V : Int) :
    (drawPair changeExposure c color row Y U V).stores = c.stores ++ pairStores row Y U V := by
  simp [drawPair, pairStores]

/-! ### The square -/

section Square

variable (dev : EmulatedFakeCameraDevice) (changeExposure : UInt8 → UInt8) (color : YUVPixel)

/-- The pointers of the loop over a row of the square. -/
structure SquarePen where
  canvas : Canvas
  sqY : Int
  sqU : Int
  sqV : Int

def squareTurn (row : Int) (p : SquarePen) : SquarePen where
  canvas := drawPair changeExposure p.canvas color row p.sqY p.sqU p.sqV
  sqY := p.sqY + 2
  sqU := p.sqU + dev.mUVStep
  sqV := p.sqV + dev.mUVStep

def squareTurns (row : Int) : Nat → SquarePen → SquarePen
  | 0, p => p
  | k + 1, p => squareTurn dev changeExposure color row (squareTurns row k p)

/-- A row of the square from column `x` on, with `turns` pairs. -/
def squareRow (x : Int) (turns : Nat) (y Y_pos : Int) (c : Canvas) : Canvas :=
  let iUV := int32 (int32 (y.tdiv 2 * dev.mUVInRow) + x.tdiv 2 * dev.mUVStep)
  (squareTurns dev changeExposure color y turns
    ⟨c, Y_pos, dev.mFrameU + iUV, dev.mFrameV + iUV⟩).canvas

/-- The rows of the square; `Y_pos` is the pointer to the first one. -/
def squareRows (x : Int) (turns : Nat) (y Y_pos : Int) : Nat → Canvas → Canvas
  | 0, c => c
  | i + 1, c =>
      squareRow dev changeExposure color x turns (y + i) (Y_pos + i * dev.mFrameWidth)
        (squareRows x turns y Y_pos i c)

/-- `drawSquare`; the color has been adjusted to the white balance. -/
def drawSquare (x y size : Int) (c : Canvas) : Canvas :=
  let square_xstop := min dev.mFrameWidth (x + size)
  let square_ystop := min dev.mFrameHeight (y + size)
  squareRows dev changeExposure color x ((square_xstop - x + 1) / 2).toNat y
    (frame dev.toEmulatedCameraDevice + int32 (y * dev.mFrameWidth) + x)
    (square_ystop - y).toNat c

variable {dev changeExposure color}

/-- After some turns the pointers have moved by as many pairs, which have been stored. -/
theorem squareTurns_spec (row : Int) (k : Nat) (p : SquarePen) :
    (squareTurns dev changeExposure color row k p).sqY = p.sqY + 2 * k ∧
      (squareTurns dev changeExposure color row k p).sqU = p.sqU + k * dev.mUVStep ∧
      (squareTurns dev changeExposure color row k p).sqV = p.sqV + k * dev.mUVStep ∧
      (squareTurns dev changeExposure color row k p).canvas.stores =
        p.canvas.stores ++ pieces (fun i => pairStores row (p.sqY + 2 * i)
          (p.sqU + i * dev.mUVStep) (p.sqV + i * dev.mUVStep)) k := by
  induction k with
  | zero => simp [squareTurns]
  | succ k ih =>
      obtain ⟨hY, hU, hV, hstores⟩ := ih
      rw [squareTurns, squareTurn]
      dsimp only
      refine ⟨?_, ?_, ?_, ?_⟩
      · rw [hY]
        omega
      · rw [hU]
        push_cast
        ring
      · rw [hV]
        push_cast
        ring
      · rw [stores_drawPair, hstores, hY, hU, hV, pieces_succ, List.append_assoc]

/-- The offset of the chroma of pair `i` in row `y` of a square that starts at column `x`. -/
def squareUV (dev : EmulatedFakeCameraDevice) (x y i : Int) : Int :=
  int32 (int32 (y.tdiv 2 * dev.mUVInRow) + x.tdiv 2 * dev.mUVStep) + i * dev.mUVStep

theorem stores_squareRows (x y Y_pos : Int) (turns n : Nat) (c : Canvas) :
    (squareRows dev changeExposure color x turns y Y_pos n c).stores =
      c.stores ++ pieces (fun j => pieces (fun i => pairStores (y + j)
        (Y_pos + j * dev.mFrameWidth + 2 * i) (dev.mFrameU + squareUV dev x (y + j) i)
        (dev.mFrameV + squareUV dev x (y + j) i)) turns) n := by
  induction n with
  | zero => simp [squareRows]
  | succ n ih =>
      rw [squareRows, squareRow, (squareTurns_spec (y + n) turns _).2.2.2, ih, pieces_succ,
        List.append_assoc]
      simp only [squareUV, Int.add_assoc]

/-- What `drawSquare` stores. -/
def squareStores (dev : EmulatedFakeCameraDevice) (x y size : Int) : List Store :=
  pieces (fun j => pieces (fun i => pairStores (y + j)
    (frame dev.toEmulatedCameraDevice + int32 (y * dev.mFrameWidth) + x + j * dev.mFrameWidth +
      2 * i)
    (dev.mFrameU + squareUV dev x (y + j) i) (dev.mFrameV + squareUV dev x (y + j) i))
      ((min dev.mFrameWidth (x + size) - x + 1) / 2).toNat)
    (min dev.mFrameHeight (y + size) - y).toNat

theorem stores_drawSquare (x y size : Int) (c : Canvas) :
    (drawSquare dev changeExposure color x y size c).stores =
      c.stores ++ squareStores dev x y size := stores_squareRows _ _ _ _ _ _

end Square

/-! ### The checkerboard -/

section Checkerboard

variable (dev : EmulatedFakeCameraDevice) (changeExposure : UInt8 → UInt8)
  (adjustedWhite : YUVPixel) (size : Int)

/-- The variables of the loops of `drawCheckerboard`. -/
structure Pen where
  canvas : Canvas
  Y : Int
  U : Int
  V : Int
  U_pos : Int
  V_pos : Int
  county : Int
  countx : Int
  black : Bool
  current : Bool

/-- A turn of the loop over a row. -/
def turn (y : Int) (p : Pen) : Pen :=
  let color := if p.current then dev.mBlackYUV else adjustedWhite
  let p := { p with
    canvas := drawPair changeExposure p.canvas color y p.Y p.U p.V
    Y := p.Y + 2
    U := p.U + dev.mUVStep
    V := p.V + dev.mUVStep
    countx := p.countx + 2 }
  if p.countx ≥ size then { p with countx := 0, current := !p.current } else p

def turns (y : Int) : Nat → Pen → Pen
  | 0, p => p
  | k + 1, p => turn dev changeExposure adjustedWhite size y (turns y k p)

/-- What follows the loop over row `y`: an even row shares its chroma with the next one. -/
def endRow (y : Nat) (p : Pen) : Pen :=
  let p :=
    if y % 2 = 1 then { p with U_pos := p.U, V_pos := p.V }
    else { p with U := p.U_pos, V := p.V_pos }
  if p.county ≥ size then { p with county := 0, black := !p.black }
  else { p with county := p.county + 1 }

/-- The first rows. -/
def rows (checkxremainder : Int) : Nat → Pen → Pen
  | 0, p => p
  | y + 1, p =>
      let p := rows checkxremainder y p
      endRow size y (turns dev changeExposure adjustedWhite size y
        ((dev.mFrameWidth + 1) / 2).toNat { p with countx := checkxremainder, current := p.black })

end Checkerboard

/-- The coordinate of the square in units of a 32nd of its size: it goes up to 128 and back. -/
def bounce (counter factor : Int) : Int :=
  let sq := int32 (counter * factor) % 256
  if sq > 128 then 255 - sq else sq

/-- `drawCheckerboard`; the adjustments of colors to the white balance and of luma to the exposure
are parameters. -/
def drawCheckerboard (dev : EmulatedFakeCameraDevice) (changeWhiteBalance : YUVPixel → YUVPixel)
    (changeExposure : UInt8 → UInt8) (c : Canvas) : EmulatedFakeCameraDevice × Canvas :=
  let size := dev.mFrameWidth.tdiv 10
  let black := true
  let black := if (dev.mCheckX.tdiv size) % 2 = 1 then false else black
  let black := if (dev.mCheckY.tdiv size) % 2 = 1 then !black else black
  let board := rows dev changeExposure (changeWhiteBalance dev.mWhiteYUV) size
    (dev.mCheckX.tmod size) dev.mFrameHeight.toNat
    { canvas := c
      Y := frame dev.toEmulatedCameraDevice
      U := dev.mFrameU
      V := dev.mFrameV
      U_pos := dev.mFrameU
      V_pos := dev.mFrameV
      county := dev.mCheckY.tmod size
      countx := dev.mCheckX.tmod size
      black := black
      current := black }
  let sqx := bounce dev.mCcounter 3
  let sqy := bounce dev.mCcounter 5
  let sqsize := dev.mFrameWidth.tdiv 10
  let color := if dev.mCcounter / 256 % 2 = 1 then dev.mRedYUV else dev.mGreenYUV
  ({ dev with
      mCheckX := int32 (dev.mCheckX + 3)
      mCheckY := int32 (dev.mCheckY + 1)
      mCcounter := int32 (dev.mCcounter + 1) },
    drawSquare dev changeExposure (changeWhiteBalance color) ((int32 (sqx * sqsize)).tdiv 32)
      ((int32 (sqy * sqsize)).tdiv 32) (sqsize * 5 / 2) board.canvas)

section Checkerboard

variable (dev : EmulatedFakeCameraDevice) (changeExposure : UInt8 → UInt8)
  (adjustedWhite : YUVPixel) (size : Int)

/-- The members that tell where a pen is. -/
structure Pen.At (p : Pen) (stores : List Store) (Y U V U_pos V_pos : Int) : Prop where
  stores : p.canvas.stores = stores
  Y : p.Y = Y
  U : p.U = U
  V : p.V = V
  U_pos : p.U_pos = U_pos
  V_pos : p.V_pos = V_pos

theorem at_turn {p : Pen} {stores : List Store} {Y U V U_pos V_pos : Int}
    (h : p.At stores Y U V U_pos V_pos) (y : Int) :
    (turn dev changeExposure adjustedWhite size y p).At (stores ++ pairStores y Y U V) (Y + 2)
      (U + dev.mUVStep) (V + dev.mUVStep) U_pos V_pos := by
  unfold turn
  dsimp only
  split
  all_goals
    exact ⟨by rw [stores_drawPair, h.stores, h.Y, h.U, h.V], by rw [h.Y], by rw [h.U], by rw [h.V],
      h.U_pos, h.V_pos⟩

theorem at_turns {p : Pen} {stores : List Store} {Y U V U_pos V_pos : Int}
    (h : p.At stores Y U V U_pos V_pos) (y : Int) (k : Nat) :
    (turns dev changeExposure adjustedWhite size y k p).At
      (stores ++ pieces (fun i => pairStores y (Y + 2 * i) (U + i * dev.mUVStep)
        (V + i * dev.mUVStep)) k) (Y + 2 * k) (U + k * dev.mUVStep) (V + k * dev.mUVStep) U_pos
      V_pos := by
  induction k with
  | zero => simpa [turns] using h
  | succ k ih =>
      have hnext := at_turn dev changeExposure adjustedWhite size ih y
      rw [List.append_assoc, ← pieces_succ] at hnext
      rw [turns, show Y + 2 * ((k + 1 : Nat) : Int) = Y + 2 * k + 2 by omega,
        show U + ((k + 1 : Nat) : Int) * dev.mUVStep = U + k * dev.mUVStep + dev.mUVStep by
          push_cast; ring,
        show V + ((k + 1 : Nat) : Int) * dev.mUVStep = V + k * dev.mUVStep + dev.mUVStep by
          push_cast; ring]
      exact hnext

theorem at_endRow {p : Pen} {stores : List Store} {Y U V U_pos V_pos : Int}
    (h : p.At stores Y U V U_pos V_pos) (y : Nat) :
    (endRow size y p).At stores Y (if y % 2 = 1 then U else U_pos)
      (if y % 2 = 1 then V else V_pos) (if y % 2 = 1 then U else U_pos)
      (if y % 2 = 1 then V else V_pos) := by
  unfold endRow
  dsimp only
  split
  all_goals
    split
    all_goals
      exact ⟨h.stores, h.Y, by simp [h.U, h.U_pos], by simp [h.V, h.V_pos],
        by simp [h.U, h.U_pos], by simp [h.V, h.V_pos]⟩

/-- The offset of the chroma of pair `i` in row `y` of the checkerboard. -/
def boardUV (dev : EmulatedFakeCameraDevice) (pairs : Nat) (y i : Nat) : Int :=
  (y / 2 * pairs + i : Nat) * dev.mUVStep

theorem boardUV_add (pairs y i : Nat) (base : Int) :
    base + boardUV dev pairs y 0 + i * dev.mUVStep = base + boardUV dev pairs y i := by
  unfold boardUV
  push_cast
  ring

/-- The chroma goes on after an odd row. -/
theorem boardUV_succ (pairs y : Nat) (base : Int) :
    (if y % 2 = 1 then base + boardUV dev pairs y pairs else base + boardUV dev pairs y 0) =
      base + boardUV dev pairs (y + 1) 0 := by
  split
  · rename_i hodd
    rw [boardUV, boardUV, show (y + 1) / 2 = y / 2 + 1 by omega, Nat.succ_mul,
      Nat.add_zero]
  · rename_i heven
    rw [boardUV, boardUV, show (y + 1) / 2 = y / 2 by omega]

/-- Two rows share their chroma, and everything else is behind each other. -/
theorem at_rows {p : Pen} {stores : List Store} {Y U V : Int} (h : p.At stores Y U V U V)
    (checkxremainder : Int) {pairs : Nat} (hpairs : ((dev.mFrameWidth + 1) / 2).toNat = pairs)
    (n : Nat) :
    (rows dev changeExposure adjustedWhite size checkxremainder n p).At
      (stores ++ pieces (fun y => pieces (fun i => pairStores y (Y + y * (2 * pairs) + 2 * i)
        (U + boardUV dev pairs y i) (V + boardUV dev pairs y i)) pairs) n)
      (Y + n * (2 * pairs)) (U + boardUV dev pairs n 0) (V + boardUV dev pairs n 0)
      (U + boardUV dev pairs n 0) (V + boardUV dev pairs n 0) := by
  induction n with
  | zero => simpa [rows, boardUV] using h
  | succ y ih =>
      have hstart : Pen.At { rows dev changeExposure adjustedWhite size checkxremainder y p with
          countx := checkxremainder
          current := (rows dev changeExposure adjustedWhite size checkxremainder y p).black }
          _ _ _ _ _ _ := ⟨ih.stores, ih.Y, ih.U, ih.V, ih.U_pos, ih.V_pos⟩
      have hturns := at_turns dev changeExposure adjustedWhite size hstart y pairs
      have hend := at_endRow size hturns y
      simp only [boardUV_add, boardUV_succ] at hend
      have hY : Y + y * (2 * pairs) + 2 * pairs = Y + ((y + 1 : Nat) : Int) * (2 * pairs) := by
        push_cast
        ring
      rw [rows, hpairs, pieces_succ, ← List.append_assoc, ← hY]
      exact hend

/-- What the loops of `drawCheckerboard` store. -/
def boardStores : List Store :=
  let pairs := ((dev.mFrameWidth + 1) / 2).toNat
  pieces (fun y => pieces (fun i => pairStores y
    (frame dev.toEmulatedCameraDevice + y * (2 * pairs) + 2 * i)
    (dev.mFrameU + boardUV dev pairs y i) (dev.mFrameV + boardUV dev pairs y i)) pairs)
    dev.mFrameHeight.toNat

/-- Everything that is drawn: the checkerboard, and the square where the counter has brought it. -/
theorem stores_drawCheckerboard (changeWhiteBalance : YUVPixel → YUVPixel) (c : Canvas) :
    (drawCheckerboard dev changeWhiteBalance changeExposure c).2.stores =
      c.stores ++ boardStores dev ++ squareStores dev
        ((int32 (bounce dev.mCcounter 3 * dev.mFrameWidth.tdiv 10)).tdiv 32)
        ((int32 (bounce dev.mCcounter 5 * dev.mFrameWidth.tdiv 10)).tdiv 32)
        (dev.mFrameWidth.tdiv 10 * 5 / 2) := by
  unfold drawCheckerboard
  dsimp only
  rw [stores_drawSquare, (at_rows dev changeExposure _ _ ⟨rfl, rfl, rfl, rfl, rfl, rfl⟩ _ rfl _).1]
  rfl

theorem bounce_range (counter factor : Int) : 0 ≤ bounce counter factor ∧
    bounce counter factor ≤ 128 := by
  unfold bounce
  dsimp only
  split <;> omega

end Checkerboard

/-! ## What a start sets -/

/-- Where the panes are for each of the formats. -/
inductive PanesOf (U₀ address pixels : Int) : BitVec 32 → Int → Int → Int → Prop
  | YVU420 : PanesOf U₀ address pixels V4L2_PIX_FMT_YVU420 (U₀ + pixels.tdiv 4)
      (address + pixels) 1
  | YUV420 : PanesOf U₀ address pixels V4L2_PIX_FMT_YUV420 (address + pixels)
      (address + pixels + pixels.tdiv 4) 1
  | NV21 : PanesOf U₀ address pixels V4L2_PIX_FMT_NV21 (address + pixels + 1) (address + pixels) 2
  | NV12 : PanesOf U₀ address pixels V4L2_PIX_FMT_NV12 (address + pixels) (address + pixels + 1) 2

/-- What `startDevice` leaves; `U₀` is what `mFrameU` was before, and `size` and `address` are those
of the frame. -/
structure StartedWith (dev : EmulatedFakeCameraDevice) (U₀ : Int) (size address : Nat)
    (width height : Int) (pix_fmt : BitVec 32) : Prop where
  size_eq : size = uint32 ((int32 (int32 (width * height) * 12)).tdiv 8)
  mFrameBufferSize : dev.mFrameBufferSize = size
  frame : frame dev.toEmulatedCameraDevice = address
  mFrameWidth : dev.mFrameWidth = width
  mFrameHeight : dev.mFrameHeight = height
  mUVTotalNum : dev.mUVTotalNum = (int32 (width * height)).tdiv 4
  mUVInRow : dev.mUVInRow = int32 (width.tdiv 2 * dev.mUVStep)
  panes : PanesOf U₀ address (int32 (width * height)) pix_fmt dev.mFrameU dev.mFrameV dev.mUVStep

theorem commonStartDevice_spec {dev base : EmulatedCameraDevice} {new : Nat → Option Nat}
    {width height : Int} {pix_fmt : BitVec 32}
    (h : commonStartDevice dev new width height pix_fmt = (NO_ERROR, base)) :
    ∃ size address, size = uint32 ((int32 (int32 (width * height) * 12)).tdiv 8) ∧
      new size = some address ∧ base = { dev with
        mFrameBufferSize := size
        mFrameWidth := width
        mFrameHeight := height
        mPixelFormat := pix_fmt
        mTotalPixels := int32 (width * height)
        mCurrentFrame := some address } := by
  unfold commonStartDevice at h
  split at h
  · dsimp only at h
    split at h
    · cases h
    · rename_i hsome
      obtain ⟨address, haddress⟩ := Option.ne_none_iff_exists'.mp hsome
      cases h
      exact ⟨_, address, rfl, haddress, by rw [haddress]⟩
  · cases h

theorem calculatePanes_spec {dev dev' : EmulatedFakeCameraDevice} {width : Int}
    (h : dev.calculatePanes width = some dev') :
    PanesOf dev.mFrameU (frame dev.toEmulatedCameraDevice) dev.mTotalPixels dev.mPixelFormat
        dev'.mFrameU dev'.mFrameV dev'.mUVStep ∧
      dev'.toEmulatedCameraDevice = dev.toEmulatedCameraDevice ∧
      dev'.mUVTotalNum = dev.mTotalPixels.tdiv 4 ∧
      dev'.mUVInRow = int32 (width.tdiv 2 * dev'.mUVStep) := by
  unfold calculatePanes at h
  dsimp only at h
  obtain ⟨⟨U, V, step⟩, hpanes, rfl⟩ := Option.map_eq_some_iff.mp h
  refine ⟨?_, rfl, rfl, rfl⟩
  dsimp only
  split at hpanes
  · rename_i hformat
    rw [hformat]
    cases hpanes
    exact .YVU420
  · split at hpanes
    · rename_i hformat
      rw [hformat]
      cases hpanes
      exact .YUV420
    · split at hpanes
      · rename_i hformat
        rw [hformat]
        cases hpanes
        exact .NV21
      · split at hpanes
        · rename_i hformat
          rw [hformat]
          cases hpanes
          exact .NV12
        · cases hpanes

theorem startDevice_spec {dev dev' : EmulatedFakeCameraDevice} {new : Nat → Option Nat}
    {width height : Int} {pix_fmt : BitVec 32}
    (h : dev.startDevice new width height pix_fmt = (NO_ERROR, dev')) :
    ∃ size address, new size = some address ∧
      dev'.StartedWith dev.mFrameU size address width height pix_fmt := by
  unfold startDevice at h
  split at h
  · cases h
  · split at h
    · cases h
    · generalize hcommon :
        commonStartDevice dev.toEmulatedCameraDevice new width height pix_fmt = result at h
      obtain ⟨res, base⟩ := result
      dsimp only at h
      split at h
      · rename_i hres
        obtain ⟨size, address, hsize, hnew, hbase⟩ := commonStartDevice_spec (hres ▸ hcommon)
        split at h
        · rename_i dev'' hpanes
          obtain ⟨hwhere, hkept, htotal, hrow⟩ := calculatePanes_spec hpanes
          cases h
          refine ⟨size, address, hnew, ?_⟩
          dsimp only at hwhere hkept htotal hrow
          subst hbase
          exact
            { size_eq := hsize
              mFrameBufferSize := by simp [hkept]
              frame := by simp [frame, hkept]
              mFrameWidth := by simp [hkept]
              mFrameHeight := by simp [hkept]
              mUVTotalNum := htotal
              mUVInRow := hrow
              panes := hwhere }
        · cases h
      · rename_i hres
        exact absurd (congrArg Prod.fst h) hres

/-- Without an overflow the device is set up as that of the other cameras. -/
theorem commonStartDevice_eq (dev : EmulatedCameraDevice) (new : Nat → Option Nat)
    {width height : Int} (pix_fmt : BitVec 32) (hlow : 0 ≤ width * height)
    (hhigh : 12 * (width * height) < 2 ^ 31) :
    commonStartDevice dev new width height pix_fmt =
      dev.commonStartDevice (new ((width * height * 12).tdiv 8).toNat) width height pix_fmt := by
  unfold commonStartDevice EmulatedCameraDevice.commonStartDevice
  generalize width * height = pixels at hlow hhigh ⊢
  have hpixels : int32 pixels = pixels := int32_eq (by omega) (by omega)
  have hbits : int32 (pixels * 12) = pixels * 12 := int32_eq (by omega) (by omega)
  have hdiv : (pixels * 12).tdiv 8 = pixels * 12 / 8 :=
    Int.tdiv_eq_ediv_of_nonneg (by omega)
  have hsize : (uint32 (pixels * 12 / 8) : Int) = pixels * 12 / 8 :=
    uint32_eq (by omega) (by omega)
  have hsame : uint32 (pixels * 12 / 8) = (pixels * 12 / 8).toNat := by omega
  rw [hpixels, hbits, hdiv]
  dsimp only
  rw [hsize, hsame]

end EmulatedFakeCameraDevice
end Camera
end DeviceAndroVM
