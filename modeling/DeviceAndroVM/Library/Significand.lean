import Mathlib.Algebra.Group.Nat.Even
import Mathlib.Data.Int.Order.Basic
import Mathlib.Tactic.Ring

/-!
# Integers in floating point

Rounding an integer to a significand of `p` bits, to the nearest such number and to
the even one of two, as conversions of machine integers do.  The exponent is not
bounded.

* `Representable` — `p` bits and a power of two suffice.
* `roundToEven_eq_self_iff` — the conversion is exact for these numbers only.
-/

namespace DeviceAndroVM
namespace Library

/-- `n` is a number of `p` bits times a power of two. -/
def Representable (p n : Nat) : Prop := ∃ m q, m < 2 ^ p ∧ n = m * 2 ^ q

/-- The place of the last of the `p` leading bits of `n`. -/
def lastPlace (p n : Nat) : Nat := 2 ^ (n.log2 + 1 - p)

/-- `n` rounded to `p` bits, ties to even. -/
def roundToEven (p n : Nat) : Nat :=
  let quotient := n / lastPlace p n
  let remainder := n % lastPlace p n
  if 2 * remainder < lastPlace p n ∨ 2 * remainder = lastPlace p n ∧ Even quotient then
    quotient * lastPlace p n
  else (quotient + 1) * lastPlace p n

/-- A signed integer rounded to `p` bits. -/
def roundInt (p : Nat) (n : Int) : Int := n.sign * roundToEven p n.natAbs

variable {p n : Nat}

theorem lastPlace_pos : 0 < lastPlace p n := Nat.two_pow_pos _

theorem lastPlace_dvd_iff : lastPlace p n ∣ n ↔ Representable p n := by
  have hlog : n < 2 ^ (n.log2 + 1) := Nat.lt_log2_self
  constructor
  · rintro ⟨m, hm⟩
    refine ⟨m, n.log2 + 1 - p, ?_, by rw [Nat.mul_comm]; exact hm⟩
    rcases Nat.le_total (n.log2 + 1) p with hle | hle
    · have hmn : m ≤ n := hm ▸ Nat.le_mul_of_pos_left m lastPlace_pos
      exact lt_of_le_of_lt hmn (hlog.trans_le (Nat.pow_le_pow_right (by omega) hle))
    · have hsplit : 2 ^ (n.log2 + 1) = lastPlace p n * 2 ^ p := by
        unfold lastPlace
        rw [← Nat.pow_add, Nat.sub_add_cancel hle]
      have hlt : lastPlace p n * m < lastPlace p n * 2 ^ p := by
        rw [← hm, ← hsplit]
        exact hlog
      exact Nat.lt_of_mul_lt_mul_left hlt
  · rintro ⟨m, q, hm, hn⟩
    rcases Nat.eq_zero_or_pos n with hzero | hpos
    · rw [hzero]
      exact Nat.dvd_zero _
    · have hbound : n < 2 ^ (p + q) := by
        rw [Nat.pow_add]
        conv_lhs => rw [hn]
        exact Nat.mul_lt_mul_of_pos_right hm (Nat.two_pow_pos q)
      have hlast : n.log2 < p + q := (Nat.log2_lt hpos.ne').mpr hbound
      have hdvd : lastPlace p n ∣ 2 ^ q := Nat.pow_dvd_pow 2 (by omega)
      conv_rhs => rw [hn]
      exact hdvd.trans (Nat.dvd_mul_left _ m)

instance : Decidable (Representable p n) := decidable_of_iff _ lastPlace_dvd_iff

/-- A number is rounded to itself only if `p` bits suffice for it. -/
theorem roundToEven_eq_self_iff : roundToEven p n = n ↔ Representable p n := by
  rw [← lastPlace_dvd_iff]
  have hpos := lastPlace_pos (p := p) (n := n)
  have hdiv := Nat.div_add_mod n (lastPlace p n)
  have hmod := Nat.mod_lt n hpos
  rw [Nat.mul_comm] at hdiv
  unfold roundToEven
  dsimp only
  constructor
  · intro hround
    apply Nat.dvd_of_mod_eq_zero
    split at hround
    · omega
    · rw [Nat.add_mul] at hround
      omega
  · intro hdvd
    have hzero : n % lastPlace p n = 0 := Nat.mod_eq_zero_of_dvd hdvd
    rw [hzero, if_pos (Or.inl hpos)]
    omega

theorem roundToEven_zero : roundToEven p 0 = 0 :=
  roundToEven_eq_self_iff.mpr ⟨0, 0, Nat.two_pow_pos p, rfl⟩

theorem roundInt_eq_self_iff {n : Int} : roundInt p n = n ↔ Representable p n.natAbs := by
  rw [← roundToEven_eq_self_iff]
  unfold roundInt
  constructor
  · intro h
    have habs := congrArg Int.natAbs h
    rw [Int.natAbs_mul, Int.natAbs_natCast, Int.natAbs_sign] at habs
    split at habs
    · rename_i hzero
      subst hzero
      exact roundToEven_zero
    · rwa [Nat.one_mul] at habs
  · intro h
    rw [h]
    exact Int.sign_mul_natAbs n

end Library
end DeviceAndroVM
