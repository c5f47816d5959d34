import Mathlib.Algebra.Order.Group.Nat
import Mathlib.Data.Sum.Basic

/-!
# Planes of interleaved samples

A plane has rows that start a stride apart.  A row is groups of a fixed number of parts, one
group right after the other: one part for each channel that shares the plane.

* `SamplePlane`, `Cell`, `offset` — a plane, a place in it, and where that lies.
* `offset_lt_iff` — how much memory the cells reach into.
* `offset_injective_iff` — they are apart exactly if no row runs into the next.
* `stacked` — a plane behind another.
-/

namespace DeviceAndroVM
namespace Library

/-- A plane of `rows` rows with `columns` groups of `step` parts; no count is zero. -/
structure SamplePlane where
  rows : Nat
  columns : Nat
  step : Nat
  stride : Nat
  rows_pos : 0 < rows
  columns_pos : 0 < columns
  step_pos : 0 < step

namespace SamplePlane

/-- A place in the plane. -/
@[ext] structure Cell (p : SamplePlane) where
  row : Fin p.rows
  column : Fin p.columns
  part : Fin p.step

variable (p : SamplePlane)

def offset (c : p.Cell) : Nat := c.row * p.stride + (c.column * p.step + c.part)

/-- The end of the last cell. -/
def extent : Nat := (p.rows - 1) * p.stride + p.columns * p.step

variable {p}

/-- A cell lies within the groups of its row. -/
theorem within_lt (c : p.Cell) : c.column * p.step + c.part < p.columns * p.step := by
  have hcolumn : (c.column + 1) * p.step ≤ p.columns * p.step :=
    Nat.mul_le_mul_right _ c.column.isLt
  have hpart := c.part.isLt
  rw [Nat.add_mul] at hcolumn
  omega

theorem offset_lt_extent (c : p.Cell) : p.offset c < p.extent := by
  have hrow : c.row * p.stride ≤ (p.rows - 1) * p.stride :=
    Nat.mul_le_mul_right _ (Nat.le_sub_one_of_lt c.row.isLt)
  have hwithin := within_lt c
  unfold offset extent
  omega

/-- The last cell of the last row. -/
def last (p : SamplePlane) : p.Cell where
  row := ⟨p.rows - 1, Nat.sub_one_lt_of_lt p.rows_pos⟩
  column := ⟨p.columns - 1, Nat.sub_one_lt_of_lt p.columns_pos⟩
  part := ⟨p.step - 1, Nat.sub_one_lt_of_lt p.step_pos⟩

theorem offset_last (p : SamplePlane) : p.offset p.last + 1 = p.extent := by
  obtain ⟨columns, hcolumns⟩ := Nat.exists_eq_add_of_le' p.columns_pos
  have hstep := p.step_pos
  unfold offset extent last
  simp only [hcolumns, Nat.add_sub_cancel, Nat.add_mul, Nat.one_mul]
  omega

/-- The cells of a plane that starts at `base` end before `size`. -/
theorem offset_lt_iff {base size : Nat} :
    (∀ c : p.Cell, base + p.offset c < size) ↔ base + p.extent ≤ size := by
  constructor
  · intro h
    have hlast := h p.last
    have hend := offset_last p
    omega
  · intro h c
    have hlt := offset_lt_extent c
    omega

/-- A number of whole strides with a rest is a number of strides in one way only. -/
theorem row_unique {row row' within within' stride : Nat} (hw : within < stride)
    (hw' : within' < stride) (h : row * stride + within = row' * stride + within') :
    row = row' ∧ within = within' := by
  have hrest : within = within' := by
    have hmod : (row * stride + within) % stride = (row' * stride + within') % stride := by rw [h]
    rwa [Nat.mul_add_mod_of_lt hw, Nat.mul_add_mod_of_lt hw'] at hmod
  refine ⟨?_, hrest⟩
  rw [hrest] at h
  exact Nat.eq_of_mul_eq_mul_right (Nat.zero_lt_of_lt hw) (Nat.add_right_cancel h)

/-- In one row, the groups and the parts are apart. -/
theorem eq_of_within {c c' : p.Cell} (hrow : c.row = c'.row)
    (h : c.column * p.step + c.part = c'.column * p.step + c'.part) : c = c' := by
  obtain ⟨hcolumn, hpart⟩ := row_unique c.part.isLt c'.part.isLt h
  exact Cell.ext hrow (Fin.ext hcolumn) (Fin.ext hpart)

/-- Where rows do not run into each other, an offset tells its row. -/
theorem injective_of_le (hapart : p.columns * p.step ≤ p.stride) : Function.Injective p.offset := by
  intro c c' h
  obtain ⟨hrow, hwithin⟩ :=
    row_unique ((within_lt c).trans_le hapart) ((within_lt c').trans_le hapart) h
  exact eq_of_within (Fin.ext hrow) hwithin

theorem injective_of_one (hone : p.rows = 1) : Function.Injective p.offset := by
  intro c c' h
  have hrow : (c.row : Nat) = c'.row := by
    have hc := c.row.isLt
    have hc' := c'.row.isLt
    omega
  unfold offset at h
  rw [hrow] at h
  exact eq_of_within (Fin.ext hrow) (Nat.add_left_cancel h)

/-- A row that is too long has a part where the next row starts. -/
theorem offset_injective_iff :
    Function.Injective p.offset ↔ p.rows = 1 ∨ p.columns * p.step ≤ p.stride := by
  constructor
  · intro h
    by_contra hlong
    push Not at hlong
    obtain ⟨hrows, hlong⟩ := hlong
    have hsecond : 1 < p.rows := by
      have hpos := p.rows_pos
      omega
    have hcolumn : p.stride / p.step < p.columns := Nat.div_lt_of_lt_mul (by rwa [Nat.mul_comm])
    let first : p.Cell :=
      ⟨⟨0, p.rows_pos⟩, ⟨_, hcolumn⟩, ⟨_, Nat.mod_lt p.stride p.step_pos⟩⟩
    let second : p.Cell := ⟨⟨1, hsecond⟩, ⟨0, p.columns_pos⟩, ⟨0, p.step_pos⟩⟩
    have hsame : p.offset first = p.offset second := by
      change 0 * p.stride + (p.stride / p.step * p.step + p.stride % p.step) =
        1 * p.stride + (0 * p.step + 0)
      rw [Nat.div_add_mod', Nat.zero_mul, Nat.zero_mul, Nat.one_mul, Nat.zero_add]
      rfl
    have hrow : (0 : Nat) = 1 := congrArg (fun c : p.Cell => (c.row : Nat)) (h hsame)
    exact absurd hrow (by decide)
  · rintro (hone | hapart)
    · exact injective_of_one hone
    · exact injective_of_le hapart

/-! ## A plane behind another -/

/-- Where the cells of two planes lie, the second where the first one ends. -/
def stacked (p q : SamplePlane) (base : Nat) : p.Cell ⊕ q.Cell → Nat :=
  Sum.elim (fun c => base + p.offset c) fun c => base + p.extent + q.offset c

variable {q : SamplePlane} {base : Nat}

theorem stacked_lt_iff {size : Nat} :
    (∀ c, stacked p q base c < size) ↔ base + p.extent + q.extent ≤ size := by
  rw [Sum.forall]
  constructor
  · intro h
    exact offset_lt_iff.mp h.2
  · intro h
    exact ⟨offset_lt_iff.mpr (by omega), offset_lt_iff.mpr h⟩

theorem stacked_injective_iff :
    Function.Injective (stacked p q base) ↔
      Function.Injective p.offset ∧ Function.Injective q.offset := by
  constructor
  · intro h
    refine ⟨fun c c' hc => Sum.inl_injective (h ?_), fun c c' hc => Sum.inr_injective (h ?_)⟩
    · exact congrArg (base + ·) hc
    · exact congrArg (base + p.extent + ·) hc
  · rintro ⟨hp, hq⟩
    refine Function.Injective.sumElim ?_ ?_ ?_
    · intro c c' hc
      exact hp (Nat.add_left_cancel hc)
    · intro c c' hc
      exact hq (Nat.add_left_cancel hc)
    · intro c d
      have hlt := offset_lt_extent c
      omega

end SamplePlane
end Library
end DeviceAndroVM
