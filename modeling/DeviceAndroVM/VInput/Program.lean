import Mathlib.Algebra.Order.Group.Unbundled.Int

/-!
# The virtual input device

`vinput.c`: what `main` does with one line of the player, and the state of the mouse it keeps
between the lines.  A line is given by its command and the array `parameters`, of which
`nbInput` cells have been filled; the others hold whatever they held.  Integers are in a range
where the arithmetic of the program does not overflow.

* `Touch` — `mouse_state` and what multitouch saves.
* `Event` — what is written to the device.
* `mouse`, `msmtpr` and the other commands, and `handle` for a line.
-/

namespace DeviceAndroVM
namespace VInput

abbrev PINCH_TO_ZOOM_FINGERS_OFFSET : Int := 200
abbrev ROTATION_FINGERS_OFFSET : Int := 50
abbrev MULTITOUCH_MODE_ZOOM : Int := 1
abbrev MULTITOUCH_MODE_ROTATION : Int := 2
abbrev ACTION_DOWN : Int := 0
abbrev ACTION_UP : Int := 1
abbrev ACTION_MOVE : Int := 2
abbrev ACTION_POINTER_DOWN : Int := 5
abbrev ACTION_POINTER_UP : Int := 6

/-! ## State, lines and events -/

/-- `mouse_state_t`, without the prefix `MOUSE_STATE_`. -/
inductive MouseState
  | NO_CLICK
  | CLICKED
  | PINCH_TO_ZOOM
  | ROTATION
  deriving DecidableEq

structure Touch where
  mouse_state : MouseState
  last_fixed_xpos : Int
  last_fixed_ypos : Int
  centeroffset : Int
  orientation : Int
  deriving DecidableEq

def Touch.start : Touch := ⟨.NO_CLICK, 0, 0, 0, 0⟩

inductive Command
  | CONFIG
  | MOUSE
  | WHEEL
  | MSBPR
  | MSBRL
  | MSMTPR
  | MSMTRL
  | KBDPR
  | KBDRL
  | MULTI
  | unknown
  deriving DecidableEq

structure Line where
  pcmd : Command
  nbInput : Nat
  parameters : Nat → Int

/-- The axes of the wheel. -/
inductive Wheel
  | REL_WHEEL
  | REL_HWHEEL
  deriving DecidableEq

/-- The events written to the device, and its creation with the largest coordinates. -/
inductive Event
  | create (xmax ymax : Int)
  | inputMtSync
  | inputSync
  | absMtPositionX (value : Int)
  | absMtPositionY (value : Int)
  | btnTouch (value : Int)
  | absMtPressure (value : Int)
  | wheelEvent (code : Wheel) (value : Int)
  | key (code value : Int)
  deriving DecidableEq

structure Finger where
  x : Int
  y : Int
  deriving DecidableEq

/-- The two fingers of a gesture. -/
structure Fingers where
  l_finger : Finger
  r_finger : Finger
  deriving DecidableEq

/-- `radius * sin(angle)` and `radius * cos(angle)` for an angle in degrees, without the
fraction; the sine and the cosine are between -1 and 1. -/
structure Trig where
  sinTimes : Int → Int → Int
  cosTimes : Int → Int → Int
  abs_sinTimes_le : ∀ radius angle, |sinTimes radius angle| ≤ |radius|
  abs_cosTimes_le : ∀ radius angle, |cosTimes radius angle| ≤ |radius|

theorem abs_zero_le (radius _angle : Int) : |(0 : Int)| ≤ |radius| := by
  rw [abs_zero]
  exact abs_nonneg radius

theorem abs_radius_le (radius _angle : Int) : |radius| ≤ |radius| := le_rfl

/-- `PINCH_FACTOR` is a half, and the fraction is dropped. -/
def pinchDelta (distance : Int) : Int := distance.tdiv 2

/-! ## The fingers -/

/-- The fingers of a zoom gesture when the cursor moves to `(xpos, ypos)`. -/
def pinchFingers (s : Touch) (xpos ypos : Int) : Fingers :=
  if s.orientation = 90 then
    let delta := pinchDelta (ypos - s.last_fixed_ypos)
    let l_finger_y := s.last_fixed_ypos + s.centeroffset - delta
    let r_finger_y := s.last_fixed_ypos - s.centeroffset + delta
    -- fingers that would pass each other stay next to each other
    if l_finger_y < r_finger_y then
      ⟨⟨xpos, s.last_fixed_ypos⟩, ⟨xpos, s.last_fixed_ypos + 1⟩⟩
    else ⟨⟨xpos, l_finger_y⟩, ⟨xpos, r_finger_y⟩⟩
  else if s.orientation = 180 then
    let delta := pinchDelta (xpos - s.last_fixed_xpos)
    let l_finger_x := s.last_fixed_xpos + s.centeroffset + delta
    let r_finger_x := s.last_fixed_xpos - s.centeroffset - delta
    if r_finger_x > l_finger_x then
      ⟨⟨s.last_fixed_xpos + 1, ypos⟩, ⟨s.last_fixed_xpos, ypos⟩⟩
    else ⟨⟨l_finger_x, ypos⟩, ⟨r_finger_x, ypos⟩⟩
  else if s.orientation = 270 then
    let delta := pinchDelta (s.last_fixed_ypos - ypos)
    let l_finger_y := s.last_fixed_ypos - s.centeroffset + delta
    let r_finger_y := s.last_fixed_ypos + s.centeroffset - delta
    if l_finger_y ≥ r_finger_y then
      -- the source sets `r_finger_x` here
      ⟨⟨xpos, s.last_fixed_ypos⟩, ⟨s.last_fixed_ypos + 1, r_finger_y⟩⟩
    else ⟨⟨xpos, l_finger_y⟩, ⟨xpos, r_finger_y⟩⟩
  else
    let delta := pinchDelta (s.last_fixed_xpos - xpos)
    let l_finger_x := s.last_fixed_xpos - s.centeroffset - delta
    let r_finger_x := s.last_fixed_xpos + s.centeroffset + delta
    if l_finger_x ≥ r_finger_x then
      ⟨⟨s.last_fixed_xpos, ypos⟩, ⟨s.last_fixed_xpos + 1, ypos⟩⟩
    else ⟨⟨l_finger_x, ypos⟩, ⟨r_finger_x, ypos⟩⟩

/-- The fingers of a rotation when the cursor moves to `(xpos, ypos)`. -/
def rotationFingers (T : Trig) (s : Touch) (xpos ypos : Int) : Fingers :=
  let x := s.last_fixed_xpos
  let y := s.last_fixed_ypos
  if s.orientation = 90 then
    let degree_angle := y - ypos
    let xdelta := T.sinTimes s.centeroffset degree_angle
    let ydelta := T.cosTimes s.centeroffset degree_angle
    ⟨⟨x + xdelta, y + ydelta⟩, ⟨x - xdelta, y - ydelta⟩⟩
  else if s.orientation = 180 then
    let degree_angle := xpos - x
    let xdelta := T.cosTimes s.centeroffset degree_angle
    let ydelta := T.sinTimes s.centeroffset degree_angle
    ⟨⟨x - xdelta, y + ydelta⟩, ⟨x + xdelta, y - ydelta⟩⟩
  else if s.orientation = 270 then
    let degree_angle := ypos - y
    let xdelta := T.sinTimes s.centeroffset degree_angle
    let ydelta := T.cosTimes s.centeroffset degree_angle
    ⟨⟨x - xdelta, y - ydelta⟩, ⟨x + xdelta, y + ydelta⟩⟩
  else
    let degree_angle := x - xpos
    let xdelta := T.cosTimes s.centeroffset degree_angle
    let ydelta := T.sinTimes s.centeroffset degree_angle
    ⟨⟨x - xdelta, y + ydelta⟩, ⟨x + xdelta, y - ydelta⟩⟩

/-- The fingers when a gesture begins at `(xpos, ypos)`. -/
def pressedFingers (s : Touch) (xpos ypos : Int) : Fingers :=
  if s.orientation = 90 then
    ⟨⟨xpos, ypos + s.centeroffset⟩, ⟨xpos, ypos - s.centeroffset⟩⟩
  else if s.orientation = 180 then
    ⟨⟨xpos + s.centeroffset, ypos⟩, ⟨xpos - s.centeroffset, ypos⟩⟩
  else if s.orientation = 270 then
    ⟨⟨xpos, ypos - s.centeroffset⟩, ⟨xpos, ypos + s.centeroffset⟩⟩
  else
    ⟨⟨xpos - s.centeroffset, ypos⟩, ⟨xpos + s.centeroffset, ypos⟩⟩

/-! ## The commands -/

/-- One contact of a report. -/
def contact (f : Finger) : List Event :=
  [.absMtPositionX f.x, .absMtPositionY f.y, .inputMtSync]

/-- A contact at the first two parameters, as the last of its report. -/
def report (a : Line) : List Event := contact ⟨a.parameters 0, a.parameters 1⟩ ++ [.inputSync]

/-- `CONFIG`; `opened` and `created` say whether `open` and `UI_DEV_CREATE` succeed. -/
def config (opened created : Bool) (a : Line) : Option (List Event) :=
  if a.nbInput < 2 then some []
  else if opened && created then some [.create (a.parameters 0) (a.parameters 1)]
  else none

def mouse (T : Trig) (s : Touch) (a : Line) : List Event :=
  if a.nbInput < 2 then []
  else
    match s.mouse_state with
    | .NO_CLICK => []
    | .CLICKED => report a
    | .PINCH_TO_ZOOM =>
        let fingers := pinchFingers s (a.parameters 0) (a.parameters 1)
        contact fingers.l_finger ++ contact fingers.r_finger ++ [.inputSync]
    | .ROTATION =>
        let fingers := rotationFingers T s (a.parameters 0) (a.parameters 1)
        contact fingers.l_finger ++ contact fingers.r_finger ++ [.inputSync]

def wheel (a : Line) : List Event :=
  if a.nbInput < 4 then []
  else
    [.absMtPositionX (a.parameters 0), .absMtPositionY (a.parameters 1),
      .wheelEvent .REL_WHEEL (a.parameters 2), .wheelEvent .REL_HWHEEL (a.parameters 3), .inputSync]

/-- A button of the mouse: the new state, and whether it touches. -/
def button (mouse_state : MouseState) (value : Int) (s : Touch) (a : Line) : Touch × List Event :=
  if a.nbInput < 2 then (s, [])
  else ({ s with mouse_state }, [.btnTouch value, .absMtPressure value] ++ report a)

def msbpr (s : Touch) (a : Line) : Touch × List Event := button .CLICKED 1 s a

def msbrl (s : Touch) (a : Line) : Touch × List Event := button .NO_CLICK 0 s a

/-- The state and the offset of a multitouch mode. -/
def multitouchMode (mode : Int) : Option (MouseState × Int) :=
  if mode = MULTITOUCH_MODE_ZOOM then some (.PINCH_TO_ZOOM, PINCH_TO_ZOOM_FINGERS_OFFSET)
  else if mode = MULTITOUCH_MODE_ROTATION then some (.ROTATION, ROTATION_FINGERS_OFFSET)
  else none

/-- The offset that keeps the fingers on the screen when they are rotated. -/
def clampOffset (xpos ypos centeroffset : Int) : Int :=
  let centeroffset := if xpos - centeroffset < 0 then xpos else centeroffset
  if ypos - centeroffset < 0 then ypos else centeroffset

/-- `MSMTPR`.  Orientation and position are saved before the mode is looked at. -/
def msmtpr (s : Touch) (a : Line) : Touch × List Event :=
  if a.nbInput < 4 then (s, [])
  else
    let xpos := a.parameters 0
    let ypos := a.parameters 1
    let s := { s with
      orientation := a.parameters 2, last_fixed_xpos := xpos, last_fixed_ypos := ypos }
    match multitouchMode (a.parameters 3) with
    -- an unknown mode leaves the rest of the state, and what has been saved stays saved
    | none => (s, [])
    | some (mouse_state, centeroffset) =>
        let s := { s with mouse_state, centeroffset := clampOffset xpos ypos centeroffset }
        let fingers := pressedFingers s xpos ypos
        (s, [.btnTouch 1, .absMtPressure 1] ++ contact fingers.r_finger ++
          contact fingers.l_finger ++ [.inputSync])

def msmtrl (s : Touch) (a : Line) : Touch × List Event :=
  if a.nbInput < 2 then (s, [])
  else
    ({ s with mouse_state := .NO_CLICK },
      -- no position is sent, whatever the line says
      [.btnTouch 0, .absMtPressure 0, .inputMtSync, .inputSync])

/-- A key of the keyboard, pressed or released. -/
def keyboard (value : Int) (a : Line) : List Event :=
  if a.nbInput < 2 then [] else [.key (a.parameters 0) value, .inputSync]

def kbdpr (a : Line) : List Event := keyboard 1 a

def kbdrl (a : Line) : List Event := keyboard 0 a

/-- The pointers of a `MULTI` line. -/
def pointers (a : Line) : List Finger :=
  (List.range (a.parameters 0).toNat).map fun i =>
    ⟨a.parameters (2 * i + 2), a.parameters (2 * i + 3)⟩

def multi (a : Line) : List Event :=
  if (a.nbInput : Int) ≠ 2 * a.parameters 0 + 2 then []
  else if a.parameters 1 = ACTION_MOVE ∨ a.parameters 1 = ACTION_POINTER_UP then
    (pointers a).flatMap contact ++ [.inputSync]
  else if a.parameters 1 = ACTION_DOWN ∨ a.parameters 1 = ACTION_POINTER_DOWN then
    (pointers a).flatMap (fun f => [.btnTouch 1, .absMtPressure 1] ++ contact f) ++ [.inputSync]
  -- an empty report: all fingers are up
  else if a.parameters 1 = ACTION_UP then [.inputMtSync, .inputSync]
  else []

/-- One line; there is no result when the process ends. -/
def handle (T : Trig) (opened created : Bool) (s : Touch) (a : Line) :
    Option (Touch × List Event) :=
  match a.pcmd with
  | .CONFIG => (config opened created a).map fun events => (s, events)
  | .MOUSE => some (s, mouse T s a)
  | .WHEEL => some (s, wheel a)
  | .MSBPR => some (msbpr s a)
  | .MSBRL => some (msbrl s a)
  | .MSMTPR => some (msmtpr s a)
  | .MSMTRL => some (msmtrl s a)
  | .KBDPR => some (s, kbdpr a)
  | .KBDRL => some (s, kbdrl a)
  | .MULTI => some (s, multi a)
  | .unknown => some (s, [])

end VInput
end DeviceAndroVM
