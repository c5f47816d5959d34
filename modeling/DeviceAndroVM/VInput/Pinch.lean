import DeviceAndroVM.VInput.Program

/-!
# The fingers of a zoom

When the cursor moves in a zoom, the two fingers move toward each other or apart along one
axis.  They should stay on the sides on which they began.

* `pinchDelta_lt_iff`, `add_pinchDelta_ne_zero_iff` — when half the distance of the cursor
  reaches the offset.
* `KeepsAxis` — the fingers are apart, on the axis of the zoom and in the order of its beginning.
* `mouse_keepsAxis_iff` — where the cursor must be for that.
-/

namespace DeviceAndroVM
namespace VInput

/-! ## The axis -/

/-- The coordinate that changes in a zoom. -/
def Finger.onAxis (orientation : Int) (f : Finger) : Int :=
  if orientation = 90 ∨ orientation = 270 then f.y else f.x

/-- The other coordinate. -/
def Finger.offAxis (orientation : Int) (f : Finger) : Int :=
  if orientation = 90 ∨ orientation = 270 then f.x else f.y

/-- Which finger is first on the axis. -/
def Fingers.order (orientation : Int) (fingers : Fingers) : Ordering :=
  compare (fingers.l_finger.onAxis orientation) (fingers.r_finger.onAxis orientation)

/-- The order in which the fingers are when the cursor is at the saved position. -/
def startOrder (s : Touch) (centeroffset : Int) : Ordering :=
  (pinchFingers { s with centeroffset } s.last_fixed_xpos s.last_fixed_ypos).order s.orientation

/-- The fingers are apart, on the axis of the zoom and in the order of its beginning. -/
structure KeepsAxis (s : Touch) (fingers : Fingers) : Prop where
  shared : fingers.l_finger.offAxis s.orientation = fingers.r_finger.offAxis s.orientation
  apart : fingers.l_finger ≠ fingers.r_finger
  ordered : ∀ centeroffset : Int, 0 < centeroffset →
    fingers.order s.orientation = startOrder s centeroffset

/-- The report of two fingers. -/
def twoContacts (fingers : Fingers) : List Event :=
  contact fingers.l_finger ++ contact fingers.r_finger ++ [.inputSync]

/-- The cursor is where the fingers neither meet nor pass each other; where they would, only
one of the four orientations puts them right. -/
def CursorApart (s : Touch) (xpos ypos : Int) : Prop :=
  if s.orientation = 90 then
    ypos - s.last_fixed_ypos < 2 * s.centeroffset ∧
      ¬(s.centeroffset = 0 ∧ ypos - s.last_fixed_ypos = -1)
  else if s.orientation = 180 then
    (xpos - s.last_fixed_xpos < -2 * s.centeroffset - 1 ∨
      -2 * s.centeroffset < xpos - s.last_fixed_xpos) ∧
      ¬(s.centeroffset = 0 ∧ xpos - s.last_fixed_xpos = 1)
  else if s.orientation = 270 then
    s.last_fixed_ypos - ypos < 2 * s.centeroffset ∧
      ¬(s.centeroffset = 0 ∧ s.last_fixed_ypos - ypos = -1)
  else True

instance (s : Touch) (xpos ypos : Int) : Decidable (CursorApart s xpos ypos) := by
  unfold CursorApart
  infer_instance

/-! ## Half of a distance -/

section Halves

variable {distance centeroffset : Int}

theorem pinchDelta_of_nonneg (h : 0 ≤ distance) : pinchDelta distance = distance / 2 :=
  Int.tdiv_eq_ediv_of_nonneg h

theorem pinchDelta_neg : pinchDelta (-distance) = -pinchDelta distance :=
  Int.neg_tdiv distance 2

theorem pinchDelta_of_neg (h : distance < 0) : pinchDelta distance = -(-distance / 2) := by
  rw [← pinchDelta_of_nonneg (by omega), pinchDelta_neg, neg_neg]

/-- The fraction is dropped toward zero, so the half of `-1` reaches the offset 0. -/
theorem pinchDelta_lt_iff (h : 0 ≤ centeroffset) :
    pinchDelta distance < centeroffset ↔
      distance < 2 * centeroffset ∧ ¬(centeroffset = 0 ∧ distance = -1) := by
  by_cases hdistance : 0 ≤ distance
  · rw [pinchDelta_of_nonneg hdistance]
    omega
  · have hhalf := pinchDelta_of_neg (Int.not_le.mp hdistance)
    omega

theorem add_pinchDelta_ne_zero_iff (h : 0 ≤ centeroffset) :
    centeroffset + pinchDelta distance ≠ 0 ↔
      (distance < -2 * centeroffset - 1 ∨ -2 * centeroffset < distance) ∧
        ¬(centeroffset = 0 ∧ distance = 1) := by
  by_cases hdistance : 0 ≤ distance
  · rw [pinchDelta_of_nonneg hdistance]
    omega
  · have hhalf := pinchDelta_of_neg (Int.not_le.mp hdistance)
    omega

end Halves

/-! ## The order of the fingers -/

theorem pinchDelta_self (x : Int) : pinchDelta (x - x) = 0 := by
  rw [sub_self]
  rfl

/-- When the screen is turned by 90 or by 180 degrees the left finger is behind the other. -/
theorem startOrder_eq (s : Touch) {centeroffset : Int} (h : 0 < centeroffset) :
    startOrder s centeroffset =
      if s.orientation = 90 ∨ s.orientation = 180 then .gt else .lt := by
  obtain ⟨mouse_state, x, y, _, orientation⟩ := s
  unfold startOrder pinchFingers
  by_cases h90 : orientation = 90
  · subst h90
    simp only [if_true, pinchDelta_self, true_or]
    rw [if_neg (by omega)]
    exact compare_gt_iff_gt.mpr (show y - centeroffset + 0 < y + centeroffset - 0 by omega)
  by_cases h180 : orientation = 180
  · subst h180
    simp only [pinchDelta_self, or_true, if_true]
    rw [if_neg (by decide), if_neg (by omega)]
    exact compare_gt_iff_gt.mpr (show x - centeroffset - 0 < x + centeroffset + 0 by omega)
  rw [if_neg (show ¬(orientation = 90 ∨ orientation = 180) by omega)]
  by_cases h270 : orientation = 270
  · subst h270
    simp only [if_true, pinchDelta_self]
    rw [if_neg (by decide), if_neg (by decide), if_neg (by omega)]
    exact compare_lt_iff_lt.mpr (show y - centeroffset + 0 < y + centeroffset - 0 by omega)
  · simp only [h90, h180, h270, if_false, pinchDelta_self]
    rw [if_neg (by omega)]
    unfold Fingers.order Finger.onAxis
    rw [if_neg (by omega), if_neg (by omega)]
    exact compare_lt_iff_lt.mpr (show x - centeroffset - 0 < x + centeroffset + 0 by omega)

/-- The fingers keep the axis when they share the coordinate off it and are in order on it. -/
theorem keepsAxis_iff {s : Touch} {fingers : Fingers} :
    KeepsAxis s fingers ↔
      fingers.l_finger.offAxis s.orientation = fingers.r_finger.offAxis s.orientation ∧
        fingers.order s.orientation =
          if s.orientation = 90 ∨ s.orientation = 180 then .gt else .lt := by
  constructor
  · intro h
    exact ⟨h.shared, (h.ordered 1 one_pos).trans (startOrder_eq s one_pos)⟩
  · rintro ⟨hshared, horder⟩
    refine ⟨hshared, ?_, ?_⟩
    · intro heq
      -- fingers that coincide are in no order
      rw [Fingers.order, heq, compare_eq_iff_eq.mpr rfl] at horder
      split at horder <;> cases horder
    · intro centeroffset hpos
      rw [horder, startOrder_eq s hpos]

/-! ## The cursor -/

section Cursor

variable {s : Touch} (hoffset : 0 ≤ s.centeroffset) (xpos ypos : Int)
include hoffset

/-- Turned by 90 degrees, fingers that would pass each other are put the wrong way round. -/
theorem keepsAxis_iff_of_90 (h90 : s.orientation = 90) :
    KeepsAxis s (pinchFingers s xpos ypos) ↔ CursorApart s xpos ypos := by
  have hbehind : s.orientation = 90 ∨ s.orientation = 180 := .inl h90
  rw [keepsAxis_iff, pinchFingers, CursorApart, if_pos h90, if_pos h90, if_pos hbehind, h90,
    ← pinchDelta_lt_iff hoffset]
  dsimp only
  split
  · rename_i hpass
    change xpos = xpos ∧ compare s.last_fixed_ypos (s.last_fixed_ypos + 1) = .gt ↔ _
    rw [compare_gt_iff_gt]
    omega
  · change xpos = xpos ∧ compare (_ + s.centeroffset - _) (_ - s.centeroffset + _) = .gt ↔ _
    rw [compare_gt_iff_gt]
    omega

/-- Turned by 180 degrees, fingers that would pass each other are put right, but fingers that
meet are not. -/
theorem keepsAxis_iff_of_180 (h180 : s.orientation = 180) :
    KeepsAxis s (pinchFingers s xpos ypos) ↔ CursorApart s xpos ypos := by
  have h90 : s.orientation ≠ 90 := by omega
  have hbehind : s.orientation = 90 ∨ s.orientation = 180 := .inr h180
  rw [keepsAxis_iff, pinchFingers, CursorApart, if_neg h90, if_neg h90, if_pos h180, if_pos h180,
    if_pos hbehind, h180, ← add_pinchDelta_ne_zero_iff hoffset]
  dsimp only
  split
  · rename_i hpass
    change ypos = ypos ∧ compare (s.last_fixed_xpos + 1) s.last_fixed_xpos = .gt ↔ _
    rw [compare_gt_iff_gt]
    omega
  · change ypos = ypos ∧ compare (_ + s.centeroffset + _) (_ - s.centeroffset - _) = .gt ↔ _
    rw [compare_gt_iff_gt]
    omega

/-- Turned by 270 degrees, the coordinate that would part the fingers is the wrong one. -/
theorem keepsAxis_iff_of_270 (h270 : s.orientation = 270) :
    KeepsAxis s (pinchFingers s xpos ypos) ↔ CursorApart s xpos ypos := by
  have h90 : s.orientation ≠ 90 := by omega
  have h180 : s.orientation ≠ 180 := by omega
  have hfront : ¬(s.orientation = 90 ∨ s.orientation = 180) := by omega
  rw [keepsAxis_iff, pinchFingers, CursorApart, if_neg h90, if_neg h90, if_neg h180, if_neg h180,
    if_pos h270, if_pos h270, if_neg hfront, h270, ← pinchDelta_lt_iff hoffset]
  dsimp only
  split
  · rename_i hpass
    change xpos = _ + 1 ∧ compare s.last_fixed_ypos (_ + s.centeroffset - _) = .lt ↔ _
    rw [compare_lt_iff_lt]
    omega
  · change xpos = xpos ∧ compare (_ - s.centeroffset + _) (_ + s.centeroffset - _) = .lt ↔ _
    rw [compare_lt_iff_lt]
    omega

omit hoffset in
/-- Upright, the fingers are always put right. -/
theorem keepsAxis_of_upright (h90 : s.orientation ≠ 90) (h180 : s.orientation ≠ 180)
    (h270 : s.orientation ≠ 270) : KeepsAxis s (pinchFingers s xpos ypos) := by
  have hhorizontal : ¬(s.orientation = 90 ∨ s.orientation = 270) := by omega
  have hfront : ¬(s.orientation = 90 ∨ s.orientation = 180) := by omega
  rw [keepsAxis_iff, pinchFingers, if_neg h90, if_neg h180, if_neg h270, if_neg hfront,
    Fingers.order, Finger.offAxis, Finger.offAxis, Finger.onAxis, Finger.onAxis,
    if_neg hhorizontal, if_neg hhorizontal, if_neg hhorizontal, if_neg hhorizontal,
    compare_lt_iff_lt]
  dsimp only
  split
  · exact ⟨rfl, Int.lt_succ _⟩
  · rename_i hpass
    exact ⟨rfl, Int.not_le.mp hpass⟩

/-- The fingers keep the axis just when the cursor is apart. -/
theorem pinchFingers_keepsAxis_iff :
    KeepsAxis s (pinchFingers s xpos ypos) ↔ CursorApart s xpos ypos := by
  by_cases h90 : s.orientation = 90
  · exact keepsAxis_iff_of_90 hoffset xpos ypos h90
  by_cases h180 : s.orientation = 180
  · exact keepsAxis_iff_of_180 hoffset xpos ypos h180
  by_cases h270 : s.orientation = 270
  · exact keepsAxis_iff_of_270 hoffset xpos ypos h270
  · rw [CursorApart, if_neg h90, if_neg h180, if_neg h270]
    exact iff_true_intro (keepsAxis_of_upright xpos ypos h90 h180 h270)

end Cursor

/-! ## The command -/

theorem twoContacts_injective {f g : Fingers} (h : twoContacts f = twoContacts g) : f = g := by
  obtain ⟨⟨lx, ly⟩, ⟨rx, ry⟩⟩ := f
  obtain ⟨⟨lx', ly'⟩, ⟨rx', ry'⟩⟩ := g
  simp [twoContacts, contact] at h
  obtain ⟨rfl, rfl, rfl, rfl⟩ := h
  rfl

/-- `MOUSE` in a zoom reports two fingers that keep the axis just when the cursor is apart. -/
theorem mouse_keepsAxis_iff (T : Trig) {s : Touch} {a : Line}
    (hzoom : s.mouse_state = .PINCH_TO_ZOOM) (hcount : 2 ≤ a.nbInput) (hoffset : 0 ≤ s.centeroffset) :
    (∃ fingers, mouse T s a = twoContacts fingers ∧ KeepsAxis s fingers) ↔
      CursorApart s (a.parameters 0) (a.parameters 1) := by
  have hmouse : mouse T s a = twoContacts (pinchFingers s (a.parameters 0) (a.parameters 1)) := by
    rw [mouse, if_neg (Nat.not_lt.mpr hcount), hzoom]
    rfl
  rw [← pinchFingers_keepsAxis_iff hoffset, hmouse]
  constructor
  · rintro ⟨fingers, heq, hkeeps⟩
    exact twoContacts_injective heq ▸ hkeeps
  · intro hkeeps
    exact ⟨_, rfl, hkeeps⟩

/-! ## Two movements

A zoom with the offset 10 around `(100, 100)` on a screen turned by 270 degrees: the cursor
moves up by 5, and by 30. -/

namespace Turned

def zoomed : Touch := ⟨.PINCH_TO_ZOOM, 100, 100, 10, 270⟩

def trig : Trig := ⟨fun _ _ => 0, fun radius _ => radius, abs_zero_le, abs_radius_le⟩

def moved (ypos : Int) : Line := ⟨.MOUSE, 2, fun i => if i = 0 then 100 else ypos⟩

end Turned

theorem mouse_keepsAxis_near : ∃ fingers,
    mouse Turned.trig Turned.zoomed (Turned.moved 95) = twoContacts fingers ∧
      KeepsAxis Turned.zoomed fingers :=
  (mouse_keepsAxis_iff Turned.trig rfl le_rfl (by decide)).mpr (by decide)

/-- The fingers are reported at `(100, 100)` and `(101, 95)`. -/
theorem not_mouse_keepsAxis : ∃ (T : Trig) (s : Touch) (a : Line),
    s.mouse_state = .PINCH_TO_ZOOM ∧ 2 ≤ a.nbInput ∧ 0 ≤ s.centeroffset ∧
      mouse T s a = twoContacts ⟨⟨100, 100⟩, ⟨101, 95⟩⟩ ∧
      ¬∃ fingers, mouse T s a = twoContacts fingers ∧ KeepsAxis s fingers := by
  refine ⟨Turned.trig, Turned.zoomed, Turned.moved 70, rfl, le_rfl, by decide, by decide, ?_⟩
  rintro ⟨fingers, heq, hkeeps⟩
  have hfingers : fingers = ⟨⟨100, 100⟩, ⟨101, 95⟩⟩ :=
    twoContacts_injective (heq.symm.trans (by decide))
  subst hfingers
  have hshared := hkeeps.shared
  revert hshared
  decide

end VInput
end DeviceAndroVM
