import Mathlib.Data.BitVec

/-!
# Arrays of words behind a pointer

An array in a 32-bit address space whose elements take four bytes each, read through pointers
that are plain addresses.  The address behind its last element is still in the address space.

* `WordArray` — the array with its address.
* `pointer`, `element` — the addresses of pointer arithmetic; `element i` is that of element `i`.
* `read` — what a pointer leads to, if that is inside the array.
* `element_inj` — the elements and the end have addresses of their own.
-/

namespace DeviceAndroVM
namespace Library

universe u

/-- An array of `count` words. -/
structure WordArray (α : Type u) (count : Nat) where
  address : BitVec 32
  word : Fin count → α
  fits : address.toNat + 4 * count < 2 ^ 32

namespace WordArray

variable {α : Type u} {count : Nat} (a : WordArray α count)

/-- The pointer to the array, plus `n`. -/
def pointer (n : BitVec 32) : BitVec 32 := a.address + 4#32 * n

/-- The address of element `i`. -/
def element (i : Nat) : BitVec 32 := a.pointer (BitVec.ofNat 32 i)

/-- The number of the element that a pointer is at. -/
def index (p : BitVec 32) : Nat := (p - a.address).toNat / 4

/-- The element at a pointer; there is none outside of the array. -/
def read (p : BitVec 32) : Option α :=
  if h : a.index p < count then some (a.word ⟨a.index p, h⟩) else none

@[simp] theorem element_zero : a.element 0 = a.address := by
  simp [element, pointer]

/-- `p++` on an element. -/
@[simp] theorem element_add (i : Nat) : a.element i + 4#32 = a.element (i + 1) := by
  unfold element pointer
  rw [BitVec.ofNat_add, BitVec.mul_add, BitVec.add_assoc]
  rfl

variable {a} {i j : Nat}

theorem toNat_element (hi : i ≤ count) : (a.element i).toNat = a.address.toNat + 4 * i := by
  have hfits := a.fits
  unfold element pointer
  rw [BitVec.toNat_add, BitVec.toNat_mul, BitVec.toNat_ofNat, BitVec.toNat_ofNat]
  omega

theorem index_element (hi : i ≤ count) : a.index (a.element i) = i := by
  have hfits := a.fits
  unfold index
  rw [BitVec.toNat_sub, toNat_element hi]
  omega

theorem read_element (hi : i < count) : a.read (a.element i) = some (a.word ⟨i, hi⟩) := by
  have hindex := index_element (a := a) (Nat.le_of_lt hi)
  unfold read
  rw [dif_pos (by rwa [hindex])]
  exact congrArg (fun k => some (a.word k)) (Fin.ext hindex)

/-- Different elements are at different addresses, and so is the end of the array. -/
theorem element_inj (hi : i ≤ count) (hj : j ≤ count) : a.element i = a.element j ↔ i = j := by
  constructor
  · intro heq
    have hnat := congrArg BitVec.toNat heq
    rw [toNat_element hi, toNat_element hj] at hnat
    omega
  · rintro rfl
    rfl

end WordArray

end Library
end DeviceAndroVM
