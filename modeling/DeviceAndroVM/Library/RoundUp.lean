import Mathlib.Algebra.Order.Floor.Div
import Mathlib.Data.Nat.Bitwise

/-!
# Rounding a length up to an alignment

`roundUp x a` is the least multiple of `a` that is at least `x`.

* `roundUp_eq_ite` — the form that rounds down first and corrects.
* `roundUp_mul_eq_iff` — when a length and a multiple of it round to the same.
* `toNat_and_not_mask` — the low bits of a word cleared with a mask.
* `toNat_roundUp_mask` — the usual expression with two masks rounds up if it does not overflow.
-/

namespace DeviceAndroVM
namespace Library

/-- `x` rounded up to a multiple of `a`. -/
def roundUp (x a : Nat) : Nat := (x ⌈/⌉ a) * a

variable {x y a : Nat}

@[simp] theorem roundUp_zero : roundUp 0 a = 0 := by
  unfold roundUp
  rw [zero_ceilDiv, Nat.zero_mul]

@[simp] theorem roundUp_one : roundUp x 1 = x := by
  rw [roundUp, Nat.ceilDiv_eq_add_pred_div, Nat.add_sub_cancel, Nat.div_one, Nat.mul_one]

theorem le_roundUp (ha : 0 < a) : x ≤ roundUp x a := by
  have hle : x ≤ a * (x ⌈/⌉ a) := (ceilDiv_le_iff_le_mul ha).mp le_rfl
  rwa [Nat.mul_comm] at hle

theorem roundUp_mono (ha : 0 < a) (hxy : x ≤ y) : roundUp x a ≤ roundUp y a := by
  refine Nat.mul_le_mul_right a ((ceilDiv_le_iff_le_mul ha).mpr ?_)
  have hy := le_roundUp (x := y) ha
  unfold roundUp at hy
  rw [Nat.mul_comm] at hy
  exact hxy.trans hy

/-- Rounding down, and one step up if that was too short. -/
theorem roundUp_eq_ite (ha : 0 < a) :
    roundUp x a = if x / a * a < x then x / a * a + a else x / a * a := by
  have hdiv := Nat.div_add_mod x a
  have hmod := Nat.mod_lt x ha
  rw [Nat.mul_comm] at hdiv
  unfold roundUp
  rw [Nat.ceilDiv_eq_add_pred_div]
  split
  · have hquot : (x + a - 1) / a = x / a + 1 := by
      apply Nat.div_eq_of_lt_le
      · rw [Nat.add_mul]
        omega
      · rw [Nat.add_mul, Nat.add_mul]
        omega
    rw [hquot, Nat.add_mul, Nat.one_mul]
  · have hquot : (x + a - 1) / a = x / a := by
      apply Nat.div_eq_of_lt_le
      · omega
      · rw [Nat.add_mul]
        omega
    rw [hquot]

/-- A length that fits one unit. -/
theorem roundUp_of_le (hpos : 0 < x) (hx : x ≤ a) : roundUp x a = a := by
  rw [roundUp_eq_ite (by omega)]
  rcases Nat.lt_or_eq_of_le hx with hlt | rfl
  · rw [Nat.div_eq_of_lt hlt, Nat.zero_mul, if_pos hpos, Nat.zero_add]
  · rw [Nat.div_self hpos, Nat.one_mul, if_neg (Nat.lt_irrefl x)]

/-- A length and twice or more of it take the same number of units only if there is
nothing, or all of it fits one unit. -/
theorem roundUp_mul_eq_iff (ha : 0 < a) {c : Nat} (hc : 2 ≤ c) :
    roundUp (c * x) a = roundUp x a ↔ x = 0 ∨ c * x ≤ a := by
  have htwice : 2 * x ≤ c * x := Nat.mul_le_mul_right x hc
  constructor
  · intro heq
    by_contra hne
    push Not at hne
    obtain ⟨hpos, hlong⟩ := hne
    have hcover : c * x ≤ roundUp x a := heq ▸ le_roundUp ha
    -- the units of `x` stop short of `x + a`, and `x` itself is longer than one unit
    rw [roundUp_eq_ite ha] at hcover
    have hdiv := Nat.div_mul_le_self x a
    split at hcover
    · rcases Nat.lt_or_ge x a with hx | hx
      · rw [Nat.div_eq_of_lt hx] at hcover
        omega
      · have hone : 1 * a ≤ x / a * a := Nat.mul_le_mul_right a (Nat.div_pos hx ha)
        omega
    · omega
  · rintro (rfl | hfits)
    · simp
    · rcases Nat.eq_zero_or_pos x with rfl | hx
      · simp
      · rw [roundUp_of_le (by omega) hfits, roundUp_of_le hx (by omega)]

theorem roundUp_dvd (x a : Nat) : a ∣ roundUp x a := ⟨x ⌈/⌉ a, Nat.mul_comm _ _⟩

/-! ## Words -/

/-- Clearing the low `k` bits rounds down. -/
theorem toNat_and_not_mask {w : Nat} (x : BitVec w) (k : Nat) :
    (x &&& ~~~BitVec.ofNat w (2 ^ k - 1)).toNat = x.toNat / 2 ^ k * 2 ^ k := by
  apply Nat.eq_of_testBit_eq
  intro i
  rw [Nat.testBit_mul_two_pow, Nat.testBit_div_two_pow, BitVec.testBit_toNat,
    BitVec.getLsbD_and, BitVec.getLsbD_not, BitVec.getLsbD_ofNat, Nat.testBit_two_pow_sub_one]
  by_cases hi : k ≤ i
  · rw [Nat.sub_add_cancel hi, BitVec.testBit_toNat]
    have hlow : ¬i < k := Nat.not_lt.mpr hi
    by_cases hw : i < w
    · simp [hi, hlow, hw]
    · simp [hw, BitVec.getLsbD_of_ge x i (Nat.not_lt.mp hw)]
  · have hlow : i < k := Nat.not_le.mp hi
    simp [hi, hlow]

/-- `(x + (a - 1)) & ~(a - 1)` for a power of two `a`. -/
theorem toNat_roundUp_mask {w : Nat} (x : BitVec w) {k : Nat} (hx : x.toNat + (2 ^ k - 1) < 2 ^ w) :
    ((x + BitVec.ofNat w (2 ^ k - 1)) &&& ~~~BitVec.ofNat w (2 ^ k - 1)).toNat =
      roundUp x.toNat (2 ^ k) := by
  rw [toNat_and_not_mask, BitVec.toNat_add, BitVec.toNat_ofNat, Nat.add_mod_mod,
    Nat.mod_eq_of_lt hx, roundUp, Nat.ceilDiv_eq_add_pred_div, Nat.add_sub_assoc Nat.one_le_two_pow]

end Library
end DeviceAndroVM
