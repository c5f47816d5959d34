import DeviceAndroVM.Library.Transition
import DeviceAndroVM.VInput.Program
import Mathlib.Algebra.Order.Group.Abs
import Mathlib.Algebra.Order.Group.Int

/-!
# The state of a multitouch gesture

`MSMTPR` saves a position and an offset that must fit together, and it saves the position
before it finds out whether it knows the mode.

* `Fits` — in a gesture the offset reaches neither edge of the screen.
* `rotationFingers_nonneg` — then a rotation keeps the fingers on the screen.
* `Kept` — the state fits, and a line with an unknown mode has changed nothing.
* `eachStep_kept_iff` — this is so in a run just when every such line repeats what is saved.
-/

namespace DeviceAndroVM
namespace VInput

open Library

/-- A line that moves the mouse or the fingers has no negative coordinate. -/
def Line.Nonneg (a : Line) : Prop :=
  match a.pcmd with
  | .MOUSE | .WHEEL | .MSBPR | .MSBRL | .MSMTPR | .MSMTRL => 0 ≤ a.parameters 0 ∧ 0 ≤ a.parameters 1
  | .MULTI => ∀ f ∈ pointers a, 0 ≤ f.x ∧ 0 ≤ f.y
  | _ => True

instance (a : Line) : Decidable a.Nonneg := by
  unfold Line.Nonneg
  split <;> infer_instance

/-- `MSMTPR` with a mode that it does not know. -/
def Line.UnknownMode (a : Line) : Prop :=
  a.pcmd = .MSMTPR ∧ 4 ≤ a.nbInput ∧ multitouchMode (a.parameters 3) = none

instance (a : Line) : Decidable a.UnknownMode := by
  unfold Line.UnknownMode
  infer_instance

/-- In a gesture the offset is between 0 and the saved coordinates. -/
def Fits (s : Touch) : Prop :=
  s.mouse_state = .PINCH_TO_ZOOM ∨ s.mouse_state = .ROTATION →
    0 ≤ s.centeroffset ∧ s.centeroffset ≤ min s.last_fixed_xpos s.last_fixed_ypos

/-- A line without negative coordinates is handled; `label` has the line and whether the device
can be opened and created. -/
def LineStep (T : Trig) (s : Touch) (label : Line × Bool × Bool) (s' : Touch) : Prop :=
  label.1.Nonneg ∧ ∃ events, handle T label.2.1 label.2.2 s label.1 = some (s', events)

/-- The state fits after the line, and is the same after an unknown mode. -/
def Kept (s : Touch) (label : Line × Bool × Bool) (s' : Touch) : Prop :=
  Fits s' ∧ (label.1.UnknownMode → s' = s)

/-- A line with an unknown mode repeats the position and the orientation that are saved. -/
def Repeats (s : Touch) (label : Line × Bool × Bool) : Prop :=
  label.1.UnknownMode → label.1.parameters 0 = s.last_fixed_xpos ∧
    label.1.parameters 1 = s.last_fixed_ypos ∧ label.1.parameters 2 = s.orientation

instance (s : Touch) (label : Line × Bool × Bool) : Decidable (Repeats s label) := by
  unfold Repeats
  infer_instance

/-! ## Offsets -/

theorem clampOffset_fits {xpos ypos centeroffset : Int} (hx : 0 ≤ xpos) (hy : 0 ≤ ypos)
    (h : 0 ≤ centeroffset) :
    0 ≤ clampOffset xpos ypos centeroffset ∧
      clampOffset xpos ypos centeroffset ≤ min xpos ypos := by
  by_cases hleft : xpos - centeroffset < 0
  · simp only [clampOffset, if_pos hleft]
    split <;> omega
  · simp only [clampOffset, if_neg hleft]
    split <;> omega

/-- A rotation around the saved position keeps both fingers on the screen. -/
theorem rotationFingers_nonneg (T : Trig) {s : Touch} (hs : Fits s)
    (hrotation : s.mouse_state = .ROTATION) (xpos ypos : Int) :
    0 ≤ (rotationFingers T s xpos ypos).l_finger.x ∧
      0 ≤ (rotationFingers T s xpos ypos).l_finger.y ∧
      0 ≤ (rotationFingers T s xpos ypos).r_finger.x ∧
      0 ≤ (rotationFingers T s xpos ypos).r_finger.y := by
  obtain ⟨hoffset, hmin⟩ := hs (.inr hrotation)
  have hsin : ∀ angle, -s.centeroffset ≤ T.sinTimes s.centeroffset angle ∧
      T.sinTimes s.centeroffset angle ≤ s.centeroffset := by
    intro angle
    have habs := T.abs_sinTimes_le s.centeroffset angle
    rw [abs_of_nonneg hoffset] at habs
    exact abs_le.mp habs
  have hcos : ∀ angle, -s.centeroffset ≤ T.cosTimes s.centeroffset angle ∧
      T.cosTimes s.centeroffset angle ≤ s.centeroffset := by
    intro angle
    have habs := T.abs_cosTimes_le s.centeroffset angle
    rw [abs_of_nonneg hoffset] at habs
    exact abs_le.mp habs
  have hbetween : ∀ {x y c d r : Int}, (-r ≤ c ∧ c ≤ r) → (-r ≤ d ∧ d ≤ r) → r ≤ min x y →
      0 ≤ x + c ∧ 0 ≤ y + d ∧ 0 ≤ x - c ∧ 0 ≤ y - d := by
    intro x y c d r hc hd hr
    omega
  unfold rotationFingers
  split
  · exact hbetween (hsin _) (hcos _) hmin
  · split
    · obtain ⟨h₁, h₂, h₃, h₄⟩ := hbetween (hcos (xpos - s.last_fixed_xpos))
        (hsin (xpos - s.last_fixed_xpos)) hmin
      exact ⟨h₃, h₂, h₁, h₄⟩
    · split
      · obtain ⟨h₁, h₂, h₃, h₄⟩ := hbetween (hsin (ypos - s.last_fixed_ypos))
          (hcos (ypos - s.last_fixed_ypos)) hmin
        exact ⟨h₃, h₄, h₁, h₂⟩
      · obtain ⟨h₁, h₂, h₃, h₄⟩ := hbetween (hcos (s.last_fixed_xpos - xpos))
          (hsin (s.last_fixed_xpos - xpos)) hmin
        exact ⟨h₃, h₂, h₁, h₄⟩

/-! ## One line -/

/-- A gesture with a known mode begins with an offset that fits. -/
theorem msmtpr_fits {s : Touch} {a : Line} (hx : 0 ≤ a.parameters 0) (hy : 0 ≤ a.parameters 1)
    (hs : Fits s) (hmode : 4 ≤ a.nbInput → multitouchMode (a.parameters 3) ≠ none) :
    Fits (msmtpr s a).1 := by
  unfold msmtpr
  split
  · exact hs
  · rename_i hcount
    have hmode := hmode (Nat.not_lt.mp hcount)
    split
    · rename_i hnone
      exact absurd hnone hmode
    · rename_i mouse_state centeroffset hsome
      -- both modes begin with a positive offset, and it is cut to the position
      intro _
      have hpos : 0 ≤ centeroffset := by
        unfold multitouchMode at hsome
        split at hsome
        · cases hsome
          decide
        · split at hsome
          · cases hsome
            decide
          · cases hsome
      exact clampOffset_fits hx hy hpos

/-- An unknown mode saves the position and the orientation all the same. -/
theorem msmtpr_of_unknown {s : Touch} {a : Line} (h : a.UnknownMode) :
    (msmtpr s a).1 = { s with
      orientation := a.parameters 2
      last_fixed_xpos := a.parameters 0
      last_fixed_ypos := a.parameters 1 } := by
  obtain ⟨-, hcount, hmode⟩ := h
  unfold msmtpr
  rw [if_neg (Nat.not_lt.mpr hcount), hmode]

theorem msmtpr_eq_self_iff {s : Touch} {a : Line} (h : a.UnknownMode) :
    (msmtpr s a).1 = s ↔ a.parameters 0 = s.last_fixed_xpos ∧
      a.parameters 1 = s.last_fixed_ypos ∧ a.parameters 2 = s.orientation := by
  rw [msmtpr_of_unknown h]
  obtain ⟨mouse_state, x, y, centeroffset, orientation⟩ := s
  simp only [Touch.mk.injEq, true_and]

/-- A line that is no unknown mode keeps the state fitting. -/
theorem fits_of_known {T : Trig} {s s' : Touch} {label : Line × Bool × Bool} (hs : Fits s)
    (hknown : ¬label.1.UnknownMode) (hstep : LineStep T s label s') : Fits s' := by
  obtain ⟨a, opened, created⟩ := label
  obtain ⟨hnonneg, events, hhandle⟩ := hstep
  have hbutton : ∀ mouse_state value, mouse_state = .CLICKED ∨ mouse_state = .NO_CLICK →
      Fits (button mouse_state value s a).1 := by
    intro mouse_state value hstate
    unfold button
    split
    · exact hs
    · intro hgesture
      rcases hstate with rfl | rfl <;> rcases hgesture with h | h <;> cases h
  unfold handle at hhandle
  cases hcmd : a.pcmd with
  | MSMTPR =>
      simp only [hcmd, Option.some.injEq] at hhandle
      rw [show s' = (msmtpr s a).1 by rw [hhandle]]
      have hnonneg : 0 ≤ a.parameters 0 ∧ 0 ≤ a.parameters 1 := by
        simpa [Line.Nonneg, hcmd] using hnonneg
      exact msmtpr_fits hnonneg.1 hnonneg.2 hs fun hcount hmode => hknown ⟨hcmd, hcount, hmode⟩
  | MSBPR =>
      simp only [hcmd, Option.some.injEq] at hhandle
      rw [show s' = (msbpr s a).1 by rw [hhandle]]
      exact hbutton _ _ (.inl rfl)
  | MSBRL =>
      simp only [hcmd, Option.some.injEq] at hhandle
      rw [show s' = (msbrl s a).1 by rw [hhandle]]
      exact hbutton _ _ (.inr rfl)
  | MSMTRL =>
      simp only [hcmd, Option.some.injEq] at hhandle
      rw [show s' = (msmtrl s a).1 by rw [hhandle]]
      unfold msmtrl
      split
      · exact hs
      · rintro (h | h) <;> cases h
  | CONFIG =>
      simp only [hcmd, Option.map_eq_some_iff, Prod.mk.injEq] at hhandle
      obtain ⟨_, _, rfl, _⟩ := hhandle
      exact hs
  | _ =>
      simp only [hcmd, Option.some.injEq, Prod.mk.injEq] at hhandle
      exact hhandle.1 ▸ hs

/-- An unknown mode is handled by `msmtpr`. -/
theorem eq_of_unknown {T : Trig} {s s' : Touch} {label : Line × Bool × Bool}
    (hunknown : label.1.UnknownMode) (hstep : LineStep T s label s') :
    s' = (msmtpr s label.1).1 := by
  obtain ⟨-, events, hhandle⟩ := hstep
  unfold handle at hhandle
  simp only [hunknown.1, Option.some.injEq] at hhandle
  rw [hhandle]

/-- The line keeps what it should just when it repeats what is saved. -/
theorem kept_iff_repeats {T : Trig} {s s' : Touch} {label : Line × Bool × Bool} (hs : Fits s)
    (hstep : LineStep T s label s') : Kept s label s' ↔ Repeats s label := by
  by_cases hunknown : label.1.UnknownMode
  · rw [Kept, Repeats, eq_of_unknown hunknown hstep, ← msmtpr_eq_self_iff hunknown]
    constructor
    · intro hkept _
      exact hkept.2 hunknown
    · intro hrepeats
      exact ⟨(hrepeats hunknown).symm ▸ hs, hrepeats⟩
  · constructor
    · intro _ h
      exact absurd h hunknown
    · intro _
      exact ⟨fits_of_known hs hunknown hstep, fun h => absurd h hunknown⟩

/-! ## Runs -/

theorem Fits.start : Fits Touch.start := by
  rintro (h | h) <;> cases h

/-- In a run without negative coordinates the state fits and unknown modes are ignored just
when every line with an unknown mode repeats what is saved. -/
theorem eachStep_kept_iff {T : Trig} {trace : List ((Line × Bool × Bool) × Touch)}
    (hrun : Run (LineStep T) Touch.start trace) :
    EachStep Kept Touch.start trace ↔
      EachStep (fun s label _ => Repeats s label) Touch.start trace := by
  have hkeep : ∀ s label s', Fits s → Repeats s label → LineStep T s label s' → Fits s' :=
    fun s label s' hs hrepeats hstep => ((kept_iff_repeats hs hstep).mpr hrepeats).1
  have hiff : ∀ s label s', Fits s → LineStep T s label s' →
      (Kept s label s' ↔ Repeats s label) :=
    fun s label s' hs hstep => kept_iff_repeats hs hstep
  exact hrun.eachStep_iff_eachStep hkeep hiff Fits.start

/-! ## Two runs

A zoom begins at `(10, 20)`; then a line with an unknown mode comes, with the same position, or
with another one. -/

namespace Zoomed

/-- No rotation is asked for. -/
def trig : Trig := ⟨fun _ _ => 0, fun radius _ => radius, abs_zero_le, abs_radius_le⟩

def press (xpos ypos mode : Int) : Line :=
  ⟨.MSMTPR, 4, fun i => if i = 0 then xpos else if i = 1 then ypos else if i = 2 then 0 else mode⟩

def zoomed : Touch := ⟨.PINCH_TO_ZOOM, 10, 20, 10, 0⟩

def repeated : List ((Line × Bool × Bool) × Touch) :=
  [((press 10 20 1, true, true), zoomed), ((press 10 20 3, true, true), zoomed)]

def moved : List ((Line × Bool × Bool) × Touch) :=
  [((press 10 20 1, true, true), zoomed),
    ((press 3 4 3, true, true), { zoomed with last_fixed_xpos := 3, last_fixed_ypos := 4 })]

theorem run_repeated : Run (LineStep trig) Touch.start repeated :=
  .next ⟨by decide, _, rfl⟩ (.next ⟨by decide, _, rfl⟩ (.done _))

theorem run_moved : Run (LineStep trig) Touch.start moved :=
  .next ⟨by decide, _, rfl⟩ (.next ⟨by decide, _, rfl⟩ (.done _))

end Zoomed

theorem eachStep_kept_repeated : EachStep Kept Touch.start Zoomed.repeated :=
  (eachStep_kept_iff Zoomed.run_repeated).mpr (by decide)

theorem not_eachStep_kept : ∃ (T : Trig) (trace : List ((Line × Bool × Bool) × Touch)),
    Run (LineStep T) Touch.start trace ∧ ¬EachStep Kept Touch.start trace := by
  refine ⟨Zoomed.trig, Zoomed.moved, Zoomed.run_moved, ?_⟩
  rintro ⟨-, ⟨hfits, hsame⟩, -⟩
  -- the offset 10 does not fit the position that was saved for the unknown mode
  have hmin := (hfits (.inl rfl)).2
  revert hmin
  decide

end VInput
end DeviceAndroVM
