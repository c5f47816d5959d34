import Mathlib.Algebra.Order.Group.Int
import Mathlib.Data.BitVec
import Mathlib.Data.Int.Notation

/-!
# Machine words

What an operation on integers leaves of its result in a word of 32 bits, and words that keep
several booleans: `w |= MASK` sets one, `w &= ~MASK` clears it and `w & MASK` tests it.

* `int32`, `uint32` — the result as a signed and as an unsigned number.
* `int32_eq`, `uint32_eq` — in range there is nothing lost.
* `le_int32`, `int32_lt` — the range.
* `hasFlag` — the test; each operation works on the bits of its own mask and leaves a disjoint
  mask alone.
-/

namespace DeviceAndroVM
namespace Library

section Int32

/-- The signed number with the lower 32 bits of `x`. -/
def int32 (x : Int) : Int := x.bmod 0x100000000

/-- The unsigned number with the lower 32 bits of `x`. -/
def uint32 (x : Int) : Nat := (x % 0x100000000).toNat

variable {x : Int}

theorem int32_eq (hlow : -0x80000000 ≤ x) (hhigh : x < 0x80000000) : int32 x = x :=
  Int.bmod_eq_of_le (by omega) (by omega)

theorem uint32_eq (hlow : 0 ≤ x) (hhigh : x < 0x100000000) : (uint32 x : Int) = x := by
  unfold uint32
  omega

theorem le_int32 (x : Int) : -0x80000000 ≤ int32 x := Int.le_bmod (by decide)

theorem int32_lt (x : Int) : int32 x < 0x80000000 := Int.bmod_lt (by decide)

/-- What is lost is a multiple of the size of the word. -/
theorem exists_int32 (x : Int) : ∃ k : Int, int32 x = x - 0x100000000 * k := by
  refine ⟨x.bdiv 0x100000000, ?_⟩
  have h := Int.bdiv_add_bmod x 0x100000000
  unfold int32
  omega

end Int32

section Flags

variable {w : Nat}

/-- `word & mask`, as a condition. -/
def hasFlag (word mask : BitVec w) : Bool := word &&& mask != 0#w

@[simp] theorem hasFlag_zero (mask : BitVec w) : hasFlag 0#w mask = false := by
  simp [hasFlag]

theorem hasFlag_setFlag {word mask : BitVec w} (hmask : mask ≠ 0#w) :
    hasFlag (word ||| mask) mask = true := by
  have habsorb : (word ||| mask) &&& mask = mask := by
    ext i hi
    simp only [BitVec.getElem_and, BitVec.getElem_or]
    cases word[i] <;> cases mask[i] <;> rfl
  simpa [hasFlag, habsorb] using hmask

theorem hasFlag_setFlag_of_disjoint {word mask other : BitVec w}
    (hdisjoint : other &&& mask = 0#w) :
    hasFlag (word ||| other) mask = hasFlag word mask := by
  have hdistrib : (word ||| other) &&& mask = word &&& mask := by
    ext i hi
    have hbit : (other[i] && mask[i]) = false := by
      simpa using congrArg (·[i]) hdisjoint
    simp only [BitVec.getElem_and, BitVec.getElem_or]
    revert hbit
    cases word[i] <;> cases mask[i] <;> cases other[i] <;> decide
  rw [hasFlag, hasFlag, hdistrib]

@[simp] theorem hasFlag_clearFlag (word mask : BitVec w) :
    hasFlag (word &&& ~~~mask) mask = false := by
  have hcleared : word &&& ~~~mask &&& mask = 0#w := by
    ext i hi
    simp only [BitVec.getElem_and, BitVec.getElem_not, BitVec.getElem_zero]
    cases word[i] <;> cases mask[i] <;> rfl
  simp [hasFlag, hcleared]

theorem hasFlag_clearFlag_of_disjoint {word mask other : BitVec w}
    (hdisjoint : other &&& mask = 0#w) :
    hasFlag (word &&& ~~~other) mask = hasFlag word mask := by
  have hkept : word &&& ~~~other &&& mask = word &&& mask := by
    ext i hi
    have hbit : (other[i] && mask[i]) = false := by
      simpa using congrArg (·[i]) hdisjoint
    simp only [BitVec.getElem_and, BitVec.getElem_not]
    revert hbit
    cases word[i] <;> cases mask[i] <;> cases other[i] <;> decide
  rw [hasFlag, hasFlag, hkept]

end Flags

end Library
end DeviceAndroVM
