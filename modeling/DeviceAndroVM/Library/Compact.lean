import Mathlib.Data.List.Basic

/-!
# Lists without their empty entries

When the empty entries of a list of lists are left out, the others move forward.

* `compact` — the entries that are not empty.
* `EmptyAtTheEnd` — behind an empty entry there are only empty ones.
* `compact_iff` — in which lists the entries keep their places.
-/

namespace DeviceAndroVM
namespace Library

universe u

variable {α : Type u}

/-- The entries that are not empty. -/
def compact (l : List (List α)) : List (List α) := l.filter (· ≠ [])

/-- No empty entry at one of the first `n` places has one behind it that is not empty. -/
def EmptyAtTheEnd (n : Nat) (l : List (List α)) : Prop :=
  ∀ j < n, ∀ k, j < k → l[j]? = some [] → ∀ entry, l[k]? = some entry → entry = []

theorem compact_eq_nil {l : List (List α)} : compact l = [] ↔ ∀ entry ∈ l, entry = [] := by
  simp [compact, List.filter_eq_nil_iff]

theorem compact_append (l m : List (List α)) : compact (l ++ m) = compact l ++ compact m :=
  List.filter_append l m

theorem compact_cons_of_ne {entry : List α} (h : entry ≠ []) (l : List (List α)) :
    compact (entry :: l) = entry :: compact l := by
  simp [compact, h]

theorem compact_cons_nil (l : List (List α)) : compact ([] :: l) = compact l := by
  simp [compact]

theorem ne_nil_of_mem_compact {entry : List α} {l : List (List α)} (h : entry ∈ compact l) :
    entry ≠ [] := by
  simpa using (List.mem_filter.mp h).2

/-- The entries of the first `n` places keep their places. -/
theorem compact_iff (n : Nat) (l : List (List α)) :
    (∀ i < n, ∀ entry, l[i]? = some entry → (compact l).getD i [] = entry) ↔
      EmptyAtTheEnd n l := by
  induction l generalizing n with
  | nil => exact ⟨fun _ _ _ _ _ _ entry h => (nomatch h), fun _ _ _ entry h => nomatch h⟩
  | cons head l ih =>
      cases n with
      | zero =>
          exact ⟨fun _ j hj => absurd hj (Nat.not_lt_zero j),
            fun _ i hi => absurd hi (Nat.not_lt_zero i)⟩
      | succ n =>
          by_cases hhead : head = []
          · subst hhead
            rw [compact_cons_nil]
            constructor
            · intro h
              -- the first entry that is left, if there is one, takes the place of the empty one
              have hfirst := h 0 (Nat.succ_pos n) [] rfl
              have hnil : compact l = [] := by
                cases hc : compact l with
                | nil => rfl
                | cons entry rest =>
                    rw [hc] at hfirst
                    have hmem : entry ∈ compact l := by
                      rw [hc]
                      exact List.mem_cons_self
                    exact absurd hfirst (ne_nil_of_mem_compact hmem)
              intro j _ k hk _ entry hentry
              obtain ⟨k, rfl⟩ := Nat.exists_eq_succ_of_ne_zero (Nat.ne_of_gt (Nat.zero_lt_of_lt hk))
              exact compact_eq_nil.mp hnil entry (List.mem_of_getElem? hentry)
            · intro h i _ entry hentry
              have hempty : ∀ entry ∈ l, entry = [] := by
                intro entry hmem
                obtain ⟨k, hk⟩ := List.getElem?_of_mem hmem
                exact h 0 (Nat.succ_pos n) (k + 1) (Nat.succ_pos k) rfl entry hk
              rw [compact_eq_nil.mpr hempty]
              cases i with
              | zero => exact Option.some.inj hentry
              | succ i => exact (hempty entry (List.mem_of_getElem? hentry)).symm
          · rw [compact_cons_of_ne hhead]
            constructor
            · intro h
              have hrest := (ih n).mp fun i hi entry hentry =>
                h (i + 1) (Nat.succ_lt_succ hi) entry hentry
              intro j hj k hk hj0 entry hentry
              cases j with
              | zero => exact absurd (Option.some.inj hj0) hhead
              | succ j =>
                  obtain ⟨k, rfl⟩ := Nat.exists_eq_succ_of_ne_zero
                    (Nat.ne_of_gt (Nat.zero_lt_of_lt hk))
                  exact hrest j (Nat.lt_of_succ_lt_succ hj) k (Nat.lt_of_succ_lt_succ hk) hj0
                    entry hentry
            · intro h
              have hrest := (ih n).mpr fun j hj k hk hj0 entry hentry =>
                h (j + 1) (Nat.succ_lt_succ hj) (k + 1) (Nat.succ_lt_succ hk) hj0 entry hentry
              intro i hi entry hentry
              cases i with
              | zero => exact Option.some.inj hentry
              | succ i => exact hrest i (Nat.lt_of_succ_lt_succ hi) entry hentry

end Library
end DeviceAndroVM
