import DeviceAndroVM.Library.Chunks
import Mathlib.Data.Int.Cast.Lemmas
import Mathlib.Algebra.Order.Ring.Int
import Mathlib.Tactic.Ring

/-!
# The places of a rectangle

Rows of one length that start a stride apart.  Start and stride may be numbers, or addresses of a
machine, which wrap around; the places are listed row after row.

* `span`, `rectangle` — the places of a row, and of all rows.
* `rectangle_eq_iff` — two rectangles of one size have the same places when they start in one place
  and, with more than one row, have the same stride.
* `rectangle_eq_span_iff` — a rectangle without gaps.
* `forall_mem_rectangle` — a rectangle lies between two limits when its first and its last place do.
-/

namespace DeviceAndroVM
namespace Library

universe u

section Ring

variable {R : Type u} [CommRing R] {start start' stride stride' : R} {length rows : Nat}

/-- `length` places from `start` on. -/
def span (start : R) (length : Nat) : List R := (List.range length).map fun k : Nat => start + k

def rectangle (start stride : R) (length rows : Nat) : List R :=
  pieces (fun row : Nat => span (start + row * stride) length) rows

@[simp] theorem length_span : (span start length).length = length := by simp [span]

@[simp] theorem length_rectangle : (rectangle start stride length rows).length = rows * length :=
  length_pieces (fun _ => length_span) rows

theorem getElem?_span {k : Nat} (hk : k < length) : (span start length)[k]? = some (start + k) := by
  rw [span, List.getElem?_map, List.getElem?_range hk, Option.map_some]

theorem getElem?_rectangle {row column : Nat} (hrow : row < rows) (hcolumn : column < length) :
    (rectangle start stride length rows)[row * length + column]? =
      some (start + row * stride + column) := by
  rw [rectangle, getElem?_pieces (fun _ => length_span) hrow hcolumn, getElem?_span hcolumn]

/-- The first row, and the rectangle of the others. -/
theorem rectangle_succ :
    rectangle start stride length (rows + 1) =
      span start length ++ rectangle (start + stride) stride length rows := by
  rw [rectangle, pieces_succ_eq_cons, Nat.cast_zero, zero_mul, add_zero, rectangle]
  congr 2
  funext row
  congr 1
  push_cast
  ring

/-- Rectangles of the same size. -/
theorem rectangle_eq_iff (hlength : 0 < length) (hrows : 0 < rows) :
    rectangle start stride length rows = rectangle start' stride' length rows ↔
      start = start' ∧ (rows = 1 ∨ stride = stride') := by
  constructor
  · intro h
    have hplace : ∀ row : Nat, row < rows → start + row * stride = start' + row * stride' := by
      intro row hrow
      have hleft : (rectangle start stride length rows)[row * length + 0]? = _ :=
        getElem?_rectangle hrow hlength
      rw [h, getElem?_rectangle hrow hlength, Nat.cast_zero, add_zero, add_zero] at hleft
      exact (Option.some.inj hleft).symm
    have hfirst := hplace 0 hrows
    simp only [Nat.cast_zero, zero_mul, add_zero] at hfirst
    refine ⟨hfirst, or_iff_not_imp_left.mpr fun hone => ?_⟩
    have hsecond := hplace 1 (by omega)
    simpa only [Nat.cast_one, one_mul, hfirst, add_right_inj] using hsecond
  · rintro ⟨rfl, rfl | rfl⟩
    · simp [rectangle, pieces]
    · rfl

/-- Rows that follow each other without a gap. -/
theorem span_eq_rectangle :
    span start (rows * length) = rectangle start (length : R) length rows := by
  refine (pieces_eq_map (fun k => start + k) (fun row => ?_) rows).symm
  apply List.map_congr_left
  intro k _
  push_cast
  ring

theorem rectangle_eq_span_iff {size : Nat} (hlength : 0 < length) (hrows : 0 < rows) :
    rectangle start stride length rows = span start' size ↔
      size = rows * length ∧ start = start' ∧ (rows = 1 ∨ stride = length) := by
  constructor
  · intro h
    have hsize := congrArg List.length h
    rw [length_rectangle, length_span] at hsize
    rw [← hsize, span_eq_rectangle, rectangle_eq_iff hlength hrows] at h
    exact ⟨hsize.symm, h⟩
  · rintro ⟨rfl, h⟩
    rw [span_eq_rectangle, rectangle_eq_iff hlength hrows]
    exact h

/-- The places of a rectangle of numbers, from a base on. -/
theorem map_rectangle (base : R) (start stride : Int) (length rows : Nat) :
    (rectangle start stride length rows).map (fun offset : Int => base + offset) =
      rectangle (base + start) stride length rows := by
  simp only [rectangle, pieces, span, List.map_flatMap, List.map_map]
  congr 1
  funext row
  apply List.map_congr_left
  intro k _
  simp only [Function.comp_apply]
  push_cast
  ring

end Ring

/-! ## Limits -/

variable {start stride limit : Int} {length rows : Nat}

theorem mem_rectangle {offset : Int} :
    offset ∈ rectangle start stride length rows ↔
      ∃ row < rows, ∃ column < length, start + row * stride + column = offset := by
  simp [rectangle, mem_pieces, span]

theorem forall_mem_rectangle (hstride : 0 ≤ stride) (hlength : 0 < length) (hrows : 0 < rows) :
    (∀ offset ∈ rectangle start stride length rows, 0 ≤ offset ∧ offset < limit) ↔
      0 ≤ start ∧ start + (rows - 1) * stride + length ≤ limit := by
  constructor
  · intro h
    have hfirst := h _ (mem_rectangle.mpr ⟨0, hrows, 0, hlength, rfl⟩)
    have hlast := h _ (mem_rectangle.mpr ⟨rows - 1, by omega, length - 1, by omega, rfl⟩)
    rw [Nat.cast_sub hrows, Nat.cast_sub hlength] at hlast
    simp only [Nat.cast_zero, zero_mul, add_zero, Nat.cast_one] at hfirst hlast
    exact ⟨hfirst.1, by omega⟩
  · rintro ⟨hfirst, hlast⟩ offset hmem
    obtain ⟨row, hrow, column, hcolumn, rfl⟩ := mem_rectangle.mp hmem
    have hbelow : (row : Int) * stride ≤ (rows - 1) * stride :=
      mul_le_mul_of_nonneg_right (by omega) hstride
    have habove : 0 ≤ (row : Int) * stride := mul_nonneg (by omega) hstride
    omega

end Library
end DeviceAndroVM
