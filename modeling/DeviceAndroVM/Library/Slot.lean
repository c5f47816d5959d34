import Mathlib.Data.Set.Insert
import Mathlib.Logic.Function.Basic

/-!
# Slots

Several users can be busy at the same time, but there is one place that names the
current one: whoever becomes busy is put there, and whoever stops clears it.  A table has a
handle, or the value that stands for none, in each of its slots; the handles that are live should
be those in the table.

* `Slot` — the users that are busy, and the one that is named.
* `Slot.Tracks` — somebody is named exactly when somebody is busy, and it is one of these.
* `Slot.Moves` — what one operation can do to a slot.
* `Slot.Moves.tracks_iff` — the slot tracks its users unless one of several stops.
* `SlotTable.Keeps` — every live handle has one slot, and every slot that is taken a live handle.
* `Keeps.put`, `Keeps.drop` — a handle that becomes live gets a free slot; a slot is cleared
  and its handle is live no more.
* `Keeps.existsUnique` — the slot of a live handle.
-/

namespace DeviceAndroVM
namespace Library

section Current

universe u

/-- The users that are busy and the one that is named. -/
structure Slot (ι : Type u) where
  current : Option ι
  busy : Set ι

namespace Slot

variable {ι : Type u} {s s' : Slot ι} {leaving : Option ι} {i j : ι}

/-- `i` becomes busy, and is named. -/
def take (s : Slot ι) (i : ι) : Slot ι := ⟨some i, insert i s.busy⟩

/-- `i` stops, and nobody is named. -/
def give (s : Slot ι) (i : ι) : Slot ι := ⟨none, s.busy \ {i}⟩

/-- The one that is named is busy. -/
def Points (s : Slot ι) : Prop := ∀ i, s.current = some i → i ∈ s.busy

/-- Somebody is named exactly when somebody is busy, and then it is one of these. -/
def Tracks (s : Slot ι) : Prop := (s.current ≠ none ↔ s.busy.Nonempty) ∧ s.Points

/-- The user in `leaving`, if it is busy, is the only one. -/
def Alone (s : Slot ι) (leaving : Option ι) : Prop :=
  ∀ i ∈ leaving, i ∈ s.busy → ∀ j ∈ s.busy, j = i

theorem points_take : (s.take i).Points := by
  intro j hj
  cases hj
  exact Set.mem_insert i s.busy

theorem points_give : (s.give i).Points := by
  intro j hj
  cases hj

theorem tracks_take : (s.take i).Tracks := by
  constructor
  · constructor
    · intro _
      exact ⟨i, Set.mem_insert i s.busy⟩
    · intro _ h
      cases h
  · exact points_take

/-- When a user stops, nobody is named: that is right when nobody else is busy. -/
theorem tracks_give_iff : (s.give i).Tracks ↔ ∀ j ∈ s.busy, j = i := by
  constructor
  · intro h j hj
    by_contra hne
    -- `j` is still busy, and nobody is named
    have hother : (s.give i).busy.Nonempty := ⟨j, hj, hne⟩
    exact h.1.mpr hother rfl
  · intro halone
    refine ⟨⟨fun h => absurd rfl h, ?_⟩, points_give⟩
    rintro ⟨j, hj, hne⟩
    exact absurd (halone j hj) hne

/-- What one operation does to a slot when it stops the user in `leaving`. -/
inductive Moves (s : Slot ι) (leaving : Option ι) : Slot ι → Prop
  | keep (hidle : ∀ i ∈ leaving, i ∉ s.busy) : Moves s leaving s
  | take (i : ι) (hnone : leaving = none) : Moves s leaving (s.take i)
  | give (i : ι) (hsome : leaving = some i) (hi : i ∈ s.busy) : Moves s leaving (s.give i)

/-- Whatever happens, the one that is named is busy. -/
theorem Moves.points (h : s.Moves leaving s') (hs : s.Points) : s'.Points := by
  cases h with
  | keep hidle => exact hs
  | take i hnone => exact points_take
  | give i hsome hi => exact points_give

/-- The slot goes on tracking its users exactly when nobody stops who is not alone. -/
theorem Moves.tracks_iff (h : s.Moves leaving s') (hs : s.Tracks) :
    s'.Tracks ↔ s.Alone leaving := by
  cases h with
  | keep hidle =>
      constructor
      · intro _ i hi hbusy
        exact absurd hbusy (hidle i hi)
      · intro _
        exact hs
  | take i hnone =>
      subst hnone
      constructor
      · intro _ j hj
        cases hj
      · intro _
        exact tracks_take
  | give i hsome hi =>
      subst hsome
      rw [tracks_give_iff]
      constructor
      · intro halone j hj _
        cases hj
        exact halone
      · intro halone
        exact halone i rfl hi

end Slot

end Current

section Table

namespace SlotTable

universe u v

variable {ι : Type u} {H : Type v} {free : H} {slots : ι → H} {live : Set H} {i : ι} {h : H}

/-- The slots that are taken and the live handles belong to each other. -/
structure Keeps (free : H) (slots : ι → H) (live : Set H) : Prop where
  free_not_live : free ∉ live
  held : ∀ h ∈ live, ∃ i, slots i = h
  live_of_taken : ∀ i, slots i ≠ free → slots i ∈ live
  distinct : ∀ i j, slots i ≠ free → slots i = slots j → i = j

namespace Keeps

theorem empty : Keeps free (fun _ : ι => free) ∅ where
  free_not_live := Set.notMem_empty free
  held := fun _ h => absurd h (Set.notMem_empty _)
  live_of_taken := fun _ h => absurd rfl h
  distinct := fun _ _ h => absurd rfl h

theorem ne_free (hkeeps : Keeps free slots live) (hlive : h ∈ live) : h ≠ free := by
  rintro rfl
  exact hkeeps.free_not_live hlive

theorem existsUnique (hkeeps : Keeps free slots live) (hlive : h ∈ live) :
    ∃! i, slots i = h := by
  obtain ⟨i, rfl⟩ := hkeeps.held h hlive
  refine ⟨i, rfl, ?_⟩
  intro j hj
  exact (hkeeps.distinct i j (hkeeps.ne_free hlive) hj.symm).symm

/-- A handle that is not live is in no slot. -/
theorem not_mem_slots (hkeeps : Keeps free slots live) (hlive : h ∉ live) (hne : h ≠ free) :
    slots i ≠ h := by
  rintro rfl
  exact hlive (hkeeps.live_of_taken i hne)

variable [DecidableEq ι]

theorem put (hkeeps : Keeps free slots live) (hslot : slots i = free) (hlive : h ∉ live)
    (hne : h ≠ free) : Keeps free (Function.update slots i h) (insert h live) where
  free_not_live := by
    rw [Set.mem_insert_iff, not_or]
    exact ⟨hne.symm, hkeeps.free_not_live⟩
  held := by
    intro h' hmem
    rcases Set.mem_insert_iff.mp hmem with rfl | hold
    · exact ⟨i, Function.update_self i h' slots⟩
    · obtain ⟨j, rfl⟩ := hkeeps.held h' hold
      have hj : j ≠ i := by
        rintro rfl
        exact hkeeps.ne_free hold hslot
      exact ⟨j, Function.update_of_ne hj h slots⟩
  live_of_taken := by
    intro j hj
    by_cases heq : j = i
    · subst heq
      rw [Function.update_self]
      exact Set.mem_insert h live
    · rw [Function.update_of_ne heq] at hj ⊢
      exact Set.mem_insert_of_mem h (hkeeps.live_of_taken j hj)
  distinct := by
    intro j k hj heq
    by_cases hji : j = i
    · subst hji
      rw [Function.update_self] at heq
      by_contra hjk
      rw [Function.update_of_ne (Ne.symm hjk)] at heq
      exact hkeeps.not_mem_slots hlive hne heq.symm
    · rw [Function.update_of_ne hji] at hj heq
      by_cases hki : k = i
      · subst hki
        rw [Function.update_self] at heq
        exact absurd heq (hkeeps.not_mem_slots hlive hne)
      · rw [Function.update_of_ne hki] at heq
        exact hkeeps.distinct j k hj heq

theorem drop (hkeeps : Keeps free slots live) (i : ι) :
    Keeps free (Function.update slots i free) (live \ {slots i}) where
  free_not_live := fun hmem => hkeeps.free_not_live hmem.1
  held := by
    rintro h ⟨hlive, hother⟩
    obtain ⟨j, rfl⟩ := hkeeps.held h hlive
    have hj : j ≠ i := by
      rintro rfl
      exact hother rfl
    exact ⟨j, Function.update_of_ne hj free slots⟩
  live_of_taken := by
    intro j hj
    have hji : j ≠ i := by
      rintro rfl
      exact hj (Function.update_self j free slots)
    rw [Function.update_of_ne hji] at hj ⊢
    refine ⟨hkeeps.live_of_taken j hj, ?_⟩
    intro heq
    exact hji (hkeeps.distinct j i hj heq)
  distinct := by
    intro j k hj heq
    have hji : j ≠ i := by
      rintro rfl
      exact hj (Function.update_self j free slots)
    rw [Function.update_of_ne hji] at hj heq
    by_cases hki : k = i
    · subst hki
      rw [Function.update_self] at heq
      exact absurd heq hj
    · rw [Function.update_of_ne hki] at heq
      exact hkeeps.distinct j k hj heq

end Keeps
end SlotTable

end Table

end Library
end DeviceAndroVM
