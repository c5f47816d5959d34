import Mathlib.Algebra.BigOperators.Group.Finset.Sigma
import Mathlib.Algebra.BigOperators.Intervals
import Mathlib.Data.Finset.Card
import Mathlib.Data.Finset.Sigma

/-!
# Arrays at strided addresses

Arrays that lie apart from each other, array `i` with its elements at `base i`,
`base i + stride i`, and so on.  A second numbering gives each array as many
consecutive numbers as it has elements, in the order of the arrays.

* `StridedLayout` — the arrays.
* `address_injective` — an address belongs to one element.
* `base_lt_of_le_address` — the base nearest below an address is that of its array.
* `offset` — the first number of an array.
* `offset_add_injective` — a number belongs to one element.
* `offset_add_lt` — there are no more numbers than addresses.
-/

namespace DeviceAndroVM
namespace Library

/-- Arrays whose elements have addresses of their own below `limit`, all elements of an
array below the next base. -/
structure StridedLayout (limit : Nat) where
  count : Nat
  base : Nat → Nat
  size : Nat → Nat
  stride : Nat → Nat
  base_injective : ∀ i < count, ∀ j < count, base i = base j → i = j
  stride_pos : ∀ i < count, 1 < size i → 0 < stride i
  below_next : ∀ i < count, ∀ j < count, base i < base j →
    ∀ k < size i, base i + k * stride i < base j
  below_limit : ∀ i < count, ∀ k < size i, base i + k * stride i < limit

namespace StridedLayout

variable {limit : Nat} (L : StridedLayout limit)

/-- The address of element `k` of array `i`. -/
def address (i k : Nat) : Nat := L.base i + k * L.stride i

theorem base_le_address (i k : Nat) : L.base i ≤ L.address i k :=
  Nat.le_add_right _ _

variable {L} {i j k l : Nat}

theorem address_lt_limit (hi : i < L.count) (hk : k < L.size i) : L.address i k < limit :=
  L.below_limit i hi k hk

/-- The bases of other arrays that are not above an address are below the base of its
array. -/
theorem base_lt_of_le_address (hi : i < L.count) (hj : j < L.count) (hk : k < L.size i)
    (hne : j ≠ i) (hle : L.base j ≤ L.address i k) : L.base j < L.base i := by
  rcases Nat.lt_trichotomy (L.base j) (L.base i) with hlt | heq | hgt
  · exact hlt
  · exact absurd (L.base_injective j hj i hi heq) hne
  · exact absurd (L.below_next i hi j hj hgt k hk) (Nat.not_lt.mpr hle)

theorem eq_of_address_eq (hi : i < L.count) (hj : j < L.count) (hk : k < L.size i)
    (hl : l < L.size j) (heq : L.address i k = L.address j l) : j = i := by
  by_contra hne
  have hbelow := base_lt_of_le_address hi hj hk hne (heq ▸ L.base_le_address j l)
  have habove := base_lt_of_le_address hj hi hl (Ne.symm hne) (heq ▸ L.base_le_address i k)
  exact Nat.lt_asymm hbelow habove

/-- An address belongs to one element. -/
theorem address_injective (hi : i < L.count) (hj : j < L.count) (hk : k < L.size i)
    (hl : l < L.size j) (heq : L.address i k = L.address j l) : i = j ∧ k = l := by
  obtain rfl := eq_of_address_eq hi hj hk hl heq
  refine ⟨rfl, ?_⟩
  have hmul : k * L.stride j = l * L.stride j := Nat.add_left_cancel heq
  by_cases hone : 1 < L.size j
  · exact Nat.eq_of_mul_eq_mul_right (L.stride_pos j hj hone) hmul
  · omega

/-- There are no more arrays than bases. -/
theorem count_le (hbase : ∀ i < L.count, L.base i < limit) : L.count ≤ limit := by
  have hcard : (Finset.range L.count).card ≤ (Finset.range limit).card := by
    refine Finset.card_le_card_of_injOn L.base ?_ ?_
    · intro i hi
      have hlt := Finset.mem_range.mp (Finset.mem_coe.mp hi)
      exact Finset.mem_coe.mpr (Finset.mem_range.mpr (hbase i hlt))
    · intro i hi j hj heq
      exact L.base_injective i (Finset.mem_range.mp (Finset.mem_coe.mp hi)) j
        (Finset.mem_range.mp (Finset.mem_coe.mp hj)) heq
  rwa [Finset.card_range, Finset.card_range] at hcard

/-! ## The second numbering -/

variable (L) in
/-- The number of the first element of array `i`. -/
def offset (i : Nat) : Nat := ∑ j ∈ Finset.range i, L.size j

@[simp] theorem offset_zero : L.offset 0 = 0 := Finset.sum_range_zero _

theorem offset_succ (i : Nat) : L.offset (i + 1) = L.offset i + L.size i :=
  Finset.sum_range_succ _ _

theorem offset_mono (h : i ≤ j) : L.offset i ≤ L.offset j := by
  have hstep : ∀ i, L.offset i ≤ L.offset (i + 1) := by
    intro i
    rw [offset_succ]
    exact Nat.le_add_right _ _
  exact monotone_nat_of_le_succ hstep h

/-- The numbers of an array end where those of a later array begin. -/
theorem offset_add_size_le (h : i < j) : L.offset i + L.size i ≤ L.offset j := by
  rw [← offset_succ]
  exact offset_mono h

/-- A number belongs to one element. -/
theorem offset_add_injective (hk : k < L.size i) (hl : l < L.size j)
    (heq : L.offset i + k = L.offset j + l) : i = j ∧ k = l := by
  rcases Nat.lt_trichotomy i j with hlt | rfl | hgt
  · have := L.offset_add_size_le hlt
    omega
  · exact ⟨rfl, Nat.add_left_cancel heq⟩
  · have := L.offset_add_size_le hgt
    omega

variable (L) in
/-- There are no more elements than addresses. -/
theorem offset_count_le : L.offset L.count ≤ limit := by
  have hcard : ((Finset.range L.count).sigma fun i => Finset.range (L.size i)).card ≤
      (Finset.range limit).card := by
    refine Finset.card_le_card_of_injOn (fun e => L.address e.1 e.2) ?_ ?_
    · intro e he
      simp only [Finset.coe_sigma, Finset.coe_range, Set.mem_sigma_iff, Set.mem_Iio] at he
      exact Finset.mem_coe.mpr (Finset.mem_range.mpr (address_lt_limit he.1 he.2))
    · rintro ⟨i, k⟩ he ⟨j, l⟩ he' heq
      simp only [Finset.coe_sigma, Finset.coe_range, Set.mem_sigma_iff, Set.mem_Iio] at he he'
      obtain ⟨rfl, rfl⟩ := address_injective he.1 he'.1 he.2 he'.2 heq
      rfl
  simp only [Finset.card_sigma, Finset.card_range] at hcard
  exact hcard

theorem offset_add_lt (hi : i < L.count) (hk : k < L.size i) : L.offset i + k < limit := by
  have hend := L.offset_add_size_le hi
  have htotal := L.offset_count_le
  omega

end StridedLayout

end Library
end DeviceAndroVM
