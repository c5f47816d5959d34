import Mathlib.Data.List.AList
import Mathlib.Logic.Function.Basic

/-!
# Finite maps after an update

What a finite map or a partial function holds after one update, as an equation and
as the condition for a value to be found, and the number of keys of a finite map whose
value satisfies a test.

* `countValues_erase` / `countValues_insert` — the effect of one update on the number, in
  terms of the value the key had before.
* `countValues_pos` — the count is positive exactly when some key has such a
  value.
-/

namespace DeviceAndroVM
namespace Library

section Lookup

universe u v

variable {α : Type u} {β : Type v} [DecidableEq α] {m : AList fun _ : α => β} {a a' : α} {b b' : β}

/-! ## Finite maps -/

theorem lookup_insert_eq_ite :
    (m.insert a b).lookup a' = if a' = a then some b else m.lookup a' := by
  by_cases ha : a' = a
  · subst ha
    rw [AList.lookup_insert, if_pos rfl]
  · rw [AList.lookup_insert_ne ha, if_neg ha]

theorem lookup_erase_eq_ite :
    (m.erase a).lookup a' = if a' = a then none else m.lookup a' := by
  by_cases ha : a' = a
  · subst ha
    rw [AList.lookup_erase, if_pos rfl]
  · rw [AList.lookup_erase_ne ha, if_neg ha]

theorem lookup_insert_eq_some :
    (m.insert a b).lookup a' = some b' ↔
      a' = a ∧ b = b' ∨ a' ≠ a ∧ m.lookup a' = some b' := by
  rw [lookup_insert_eq_ite]
  by_cases ha : a' = a
  · simp [ha]
  · simp [ha]

theorem lookup_erase_eq_some :
    (m.erase a).lookup a' = some b ↔ a' ≠ a ∧ m.lookup a' = some b := by
  rw [lookup_erase_eq_ite]
  by_cases ha : a' = a
  · simp [ha]
  · simp [ha]

theorem mem_of_lookup_eq_some (h : m.lookup a = some b) : a ∈ m := by
  rw [← AList.lookup_isSome, h]
  rfl

/-! ## Partial functions -/

variable {f : α → Option β}

theorem update_some_eq_some :
    Function.update f a (some b) a' = some b' ↔ a' = a ∧ b = b' ∨ a' ≠ a ∧ f a' = some b' := by
  by_cases ha : a' = a
  · subst ha
    simp
  · simp [ha]

theorem update_none_eq_some :
    Function.update f a none a' = some b ↔ a' ≠ a ∧ f a' = some b := by
  by_cases ha : a' = a
  · subst ha
    simp
  · simp [ha]

end Lookup

section Count

universe u v

variable {α : Type u} {β : Type v}

/-- The number of keys of `m` whose value satisfies `p`. -/
def countValues (p : β → Bool) (m : AList fun _ : α => β) : Nat :=
  m.entries.countP fun entry => p entry.2

@[simp] theorem countValues_empty (p : β → Bool) :
    countValues p (∅ : AList fun _ : α => β) = 0 := rfl

variable [DecidableEq α] {p : β → Bool} {m : AList fun _ : α => β} {a : α} {b b' : β}

theorem erase_of_lookup_none (h : m.lookup a = none) : m.erase a = m := by
  have hmem : a ∉ m := AList.lookup_eq_none.mp h
  apply AList.ext
  exact List.kerase_of_notMem_keys hmem

/-- Erasing a key takes its own value out of the count. -/
theorem countValues_erase (h : m.lookup a = some b) :
    countValues p m = countValues p (m.erase a) + (if p b then 1 else 0) := by
  have hkey : a ∈ m.entries.keys := AList.lookup_isSome.mp (by rw [h]; rfl)
  obtain ⟨b₀, before, after, hnot, hentries, herase⟩ := List.exists_of_kerase hkey
  have hb : b₀ = b := by
    have hmem : (⟨a, b₀⟩ : Sigma fun _ : α => β) ∈ m.entries := by
      rw [hentries]
      exact List.mem_append_right _ List.mem_cons_self
    have hlookup := AList.mem_lookup_iff.mpr hmem
    rw [h] at hlookup
    exact (Option.some.inj hlookup).symm
  subst hb
  unfold countValues
  show _ = (List.kerase a m.entries).countP _ + _
  rw [hentries] at herase ⊢
  rw [herase, List.countP_append, List.countP_append, List.countP_cons]
  dsimp only
  omega

/-- A new key adds its own value to the count. -/
theorem countValues_insert_of_lookup_none (h : m.lookup a = none) :
    countValues p (m.insert a b) = countValues p m + (if p b then 1 else 0) := by
  have hmem : a ∉ m := AList.lookup_eq_none.mp h
  unfold countValues
  rw [AList.entries_insert_of_notMem hmem, List.countP_cons]

/-- Overwriting a key exchanges its old value for the new one. -/
theorem countValues_insert (h : m.lookup a = some b') :
    countValues p (m.insert a b) + (if p b' then 1 else 0) =
      countValues p m + (if p b then 1 else 0) := by
  have herase := countValues_erase (p := p) h
  have hinsert : countValues p (m.insert a b) =
      countValues p (m.erase a) + (if p b then 1 else 0) := by
    unfold countValues
    rw [AList.entries_insert, List.countP_cons]
    rfl
  omega

theorem countValues_pos :
    0 < countValues p m ↔ ∃ a b, m.lookup a = some b ∧ p b = true := by
  unfold countValues
  rw [List.countP_pos_iff]
  constructor
  · rintro ⟨⟨a, b⟩, hmem, hp⟩
    exact ⟨a, b, AList.mem_lookup_iff.mpr hmem, hp⟩
  · rintro ⟨a, b, hlookup, hp⟩
    exact ⟨⟨a, b⟩, AList.mem_lookup_iff.mp hlookup, hp⟩

end Count

end Library
end DeviceAndroVM
