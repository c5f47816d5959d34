import Mathlib.Data.Fintype.Card

/-!
# Who holds a thing

Each holder holds one thing or nothing, and a holder changes hands one at a time.

* `holders` — how many hold a thing.
* `holders_update` — what one holder's change does to the number.
* `holders_take`, `holders_drop`, `holders_of_ne` — its three cases.
-/

namespace DeviceAndroVM
namespace Library

universe u v

variable {ι : Type u} {α : Type v} [Fintype ι] [DecidableEq α] {f : ι → Option α} {i : ι} {a : α}

/-- How many hold `a`.  Nothing is to count them by evaluation. -/
@[irreducible]
def holders (f : ι → Option α) (a : α) : Nat := (Finset.univ.filter fun i => f i = some a).card

theorem holders_le_card (f : ι → Option α) (a : α) : holders f a ≤ Fintype.card ι := by
  rw [holders]
  exact Finset.card_le_univ _

theorem holders_ne_zero (h : f i = some a) : holders f a ≠ 0 := by
  rw [holders]
  exact Finset.card_ne_zero_of_mem (Finset.mem_filter.mpr ⟨Finset.mem_univ i, h⟩)

theorem holders_eq_zero (h : ∀ i, f i ≠ some a) : holders f a = 0 := by
  rw [holders, Finset.card_eq_zero]
  exact Finset.filter_eq_empty_iff.mpr fun i _ => h i

variable [DecidableEq ι]

/-- The holders apart from one of them. -/
theorem holders_eq_erase (f : ι → Option α) (i : ι) (a : α) :
    holders f a = ((Finset.univ.erase i).filter fun j => f j = some a).card +
      if f i = some a then 1 else 0 := by
  rw [holders, ← Finset.insert_erase (Finset.mem_univ i), Finset.filter_insert,
    Finset.erase_insert (Finset.notMem_erase i _)]
  split
  · exact Finset.card_insert_of_notMem fun hmem =>
      Finset.notMem_erase i _ (Finset.mem_filter.mp hmem).1
  · rfl

/-- The number before and after the change of one holder. -/
theorem holders_update (f : ι → Option α) (i : ι) (v : Option α) (a : α) :
    holders (Function.update f i v) a + (if f i = some a then 1 else 0) =
      holders f a + if v = some a then 1 else 0 := by
  have hrest : ((Finset.univ.erase i).filter fun j => Function.update f i v j = some a) =
      (Finset.univ.erase i).filter fun j => f j = some a := by
    refine Finset.filter_congr fun j hj => ?_
    rw [Function.update_of_ne (Finset.ne_of_mem_erase hj)]
  rw [holders_eq_erase (Function.update f i v) i, holders_eq_erase f i, hrest,
    Function.update_self]
  omega

theorem holders_take (hf : f i = none) :
    holders (Function.update f i (some a)) a = holders f a + 1 := by
  simpa [hf] using holders_update f i (some a) a

theorem holders_drop (hf : f i = some a) :
    holders (Function.update f i none) a + 1 = holders f a := by
  simpa [hf] using holders_update f i none a

theorem holders_of_ne {v : Option α} (hf : f i ≠ some a) (hv : v ≠ some a) :
    holders (Function.update f i v) a = holders f a := by
  simpa [hf, hv] using holders_update f i v a

end Library
end DeviceAndroVM
