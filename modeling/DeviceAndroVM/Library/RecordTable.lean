import Mathlib.Logic.Function.Basic
import DeviceAndroVM.Library.Lookup

/-!
# Tables of heap-allocated records

A table that owns the records it names: keys are mapped to addresses, and the
records live on a heap on which addresses are never used twice, so that a freed
record can be told from every later one.

* `Heap` — allocation, deletion and change in place.
* `RecordTable` — the table with its invariant: every named record is live and has
  one name.
* `value_…` — the table as a map from keys to records.
* `isLive_…` — which operations delete the record at a given address.
-/

namespace DeviceAndroVM
namespace Library

universe u v

/-- A heap of records; nothing is allocated from `next` on. -/
structure Heap (T : Type u) where
  cell : Nat → Option T
  next : Nat
  fresh : ∀ p, next ≤ p → cell p = none

namespace Heap

variable {T : Type u} (heap : Heap T)

/-- Nothing allocated. -/
def empty : Heap T where
  cell := fun _ => none
  next := 0
  fresh := fun _ _ => rfl

/-- A record is allocated at the address and has not been deleted. -/
def IsLive (p : Nat) : Prop := (heap.cell p).isSome = true

instance (p : Nat) : Decidable (heap.IsLive p) := inferInstanceAs (Decidable (_ = true))

variable {heap}

theorem IsLive.lt_next {p : Nat} (h : heap.IsLive p) : p < heap.next := by
  by_contra hge
  unfold IsLive at h
  rw [heap.fresh p (Nat.le_of_not_lt hge)] at h
  cases h

variable (heap)

/-- Allocate a record, at the address `next`. -/
def alloc (value : T) : Heap T where
  cell := Function.update heap.cell heap.next (some value)
  next := heap.next + 1
  fresh := by
    intro p hp
    have hne : p ≠ heap.next := by omega
    rw [Function.update_of_ne hne]
    exact heap.fresh p (by omega)

/-- Delete the record at an address. -/
def free (p : Nat) : Heap T where
  cell := Function.update heap.cell p none
  next := heap.next
  fresh := by
    intro q hq
    by_cases hqp : q = p
    · subst hqp
      exact Function.update_self ..
    · rw [Function.update_of_ne hqp]
      exact heap.fresh q hq

/-- Change the record at an address in place. -/
def modify (p : Nat) (f : T → T) : Heap T where
  cell := Function.update heap.cell p ((heap.cell p).map f)
  next := heap.next
  fresh := by
    intro q hq
    by_cases hqp : q = p
    · subst hqp
      rw [Function.update_self, heap.fresh q hq]
      rfl
    · rw [Function.update_of_ne hqp]
      exact heap.fresh q hq

variable {heap}

theorem cell_alloc (value : T) (p : Nat) :
    (heap.alloc value).cell p = if p = heap.next then some value else heap.cell p :=
  Function.update_apply ..

theorem cell_free (p q : Nat) :
    (heap.free p).cell q = if q = p then none else heap.cell q :=
  Function.update_apply ..

theorem cell_modify (p q : Nat) (f : T → T) :
    (heap.modify p f).cell q = if q = p then (heap.cell p).map f else heap.cell q :=
  Function.update_apply ..

theorem cell_alloc_of_isLive (value : T) {p : Nat} (h : heap.IsLive p) :
    (heap.alloc value).cell p = heap.cell p := by
  have hlt := h.lt_next
  rw [cell_alloc, if_neg (by omega)]

theorem IsLive.alloc {p : Nat} (h : heap.IsLive p) (value : T) : (heap.alloc value).IsLive p := by
  unfold IsLive
  rw [cell_alloc_of_isLive value h]
  exact h

theorem isLive_alloc_next (value : T) : (heap.alloc value).IsLive heap.next := by
  unfold IsLive
  rw [cell_alloc, if_pos rfl]
  rfl

theorem isLive_free_iff (p q : Nat) : (heap.free p).IsLive q ↔ q ≠ p ∧ heap.IsLive q := by
  unfold IsLive
  rw [cell_free]
  by_cases hqp : q = p
  · simp [hqp]
  · simp [hqp]

theorem isLive_modify_iff (p q : Nat) (f : T → T) :
    (heap.modify p f).IsLive q ↔ heap.IsLive q := by
  unfold IsLive
  rw [cell_modify]
  by_cases hqp : q = p
  · subst hqp
    simp
  · simp [hqp]

end Heap

/-- Keys mapped to the records they own. -/
structure RecordTable (Key : Type u) [DecidableEq Key] (T : Type v) where
  index : AList fun _ : Key => Nat
  heap : Heap T
  live : ∀ key p, index.lookup key = some p → heap.IsLive p
  injective : ∀ key key' p, index.lookup key = some p → index.lookup key' = some p → key = key'

namespace RecordTable

variable {Key : Type u} [DecidableEq Key] {T : Type v}

/-- No keys, nothing allocated. -/
def empty : RecordTable Key T where
  index := ∅
  heap := Heap.empty
  live := by
    intro key p hlookup
    cases hlookup
  injective := by
    intro key key' p hlookup
    cases hlookup

variable (table : RecordTable Key T)

/-- The address of the record of a key. -/
def find (key : Key) : Option Nat := table.index.lookup key

/-- The record of a key. -/
def value (key : Key) : Option T := (table.index.lookup key).bind table.heap.cell

/-- A new record under a key; the record the key had before stays allocated. -/
def add (key : Key) (record : T) : RecordTable Key T where
  index := table.index.insert key table.heap.next
  heap := table.heap.alloc record
  live := by
    intro other p hlookup
    rcases lookup_insert_eq_some.mp hlookup with ⟨-, rfl⟩ | ⟨-, hold⟩
    · exact Heap.isLive_alloc_next record
    · exact (table.live other p hold).alloc record
  injective := by
    intro k k' p hk hk'
    rcases lookup_insert_eq_some.mp hk with ⟨hkey, hp⟩ | ⟨-, hold⟩
    · rcases lookup_insert_eq_some.mp hk' with ⟨hkey', -⟩ | ⟨-, hold'⟩
      · rw [hkey, hkey']
      · -- the new address is the address of no other key, being beyond all live ones
        have hlt := (table.live k' p hold').lt_next
        omega
    · rcases lookup_insert_eq_some.mp hk' with ⟨-, hp⟩ | ⟨-, hold'⟩
      · have hlt := (table.live k p hold).lt_next
        omega
      · exact table.injective k k' p hold hold'

/-- The heap without the record of a key. -/
def freed (key : Key) : Heap T :=
  match table.index.lookup key with
  | some p => table.heap.free p
  | none => table.heap

theorem isLive_freed_iff (key : Key) (p : Nat) :
    (table.freed key).IsLive p ↔ table.index.lookup key ≠ some p ∧ table.heap.IsLive p := by
  unfold freed
  cases hlookup : table.index.lookup key with
  | none => simp
  | some q =>
      simp only [Heap.isLive_free_iff, ne_eq, Option.some.injEq]
      rw [eq_comm]

/-- Delete the record of a key and the key with it. -/
def erase (key : Key) : RecordTable Key T where
  index := table.index.erase key
  heap := table.freed key
  live := by
    intro other p hlookup
    obtain ⟨hother, hold⟩ := lookup_erase_eq_some.mp hlookup
    refine (table.isLive_freed_iff key p).mpr ⟨?_, table.live other p hold⟩
    intro hkey
    exact hother (table.injective other key p hold hkey)
  injective := by
    intro k k' p hk hk'
    exact table.injective k k' p (lookup_erase_eq_some.mp hk).2 (lookup_erase_eq_some.mp hk').2

/-- Delete the record of a key, if it has one, and give it a new one. -/
def replace (key : Key) (record : T) : RecordTable Key T := (table.erase key).add key record

/-- Change the record at an address in place. -/
def modifyAt (p : Nat) (f : T → T) : RecordTable Key T where
  index := table.index
  heap := table.heap.modify p f
  live := by
    intro key q hlookup
    exact (Heap.isLive_modify_iff p q f).mpr (table.live key q hlookup)
  injective := table.injective

/-- Change the record of a key in place. -/
def modify (key : Key) (f : T → T) : RecordTable Key T :=
  match table.find key with
  | some p => table.modifyAt p f
  | none => table

variable {table}

/-! ## The table as a map -/

theorem value_add (key other : Key) (record : T) :
    (table.add key record).value other = if other = key then some record else table.value other := by
  simp only [value, add]
  by_cases hother : other = key
  · subst hother
    rw [AList.lookup_insert, Option.bind_some, Heap.cell_alloc, if_pos rfl, if_pos rfl]
  · rw [AList.lookup_insert_ne hother, if_neg hother]
    cases hlookup : table.index.lookup other with
    | none => rfl
    | some p => exact Heap.cell_alloc_of_isLive record (table.live other p hlookup)

theorem value_erase (key other : Key) :
    (table.erase key).value other = if other = key then none else table.value other := by
  simp only [value, erase]
  by_cases hother : other = key
  · subst hother
    rw [AList.lookup_erase, if_pos rfl]
    rfl
  · rw [AList.lookup_erase_ne hother, if_neg hother]
    cases hlookup : table.index.lookup other with
    | none => rfl
    | some p =>
        simp only [freed, Option.bind_some]
        cases hkey : table.index.lookup key with
        | none => rfl
        | some q =>
            have hne : p ≠ q := by
              rintro rfl
              exact hother (table.injective other key p hlookup hkey)
            rw [Heap.cell_free, if_neg hne]

theorem value_replace (key other : Key) (record : T) :
    (table.replace key record).value other =
      if other = key then some record else table.value other := by
  unfold replace
  rw [value_add]
  by_cases hother : other = key
  · simp [hother]
  · rw [if_neg hother, value_erase, if_neg hother, if_neg hother]

theorem value_modify (key other : Key) (f : T → T) :
    (table.modify key f).value other =
      if other = key then (table.value key).map f else table.value other := by
  unfold modify find
  cases hkey : table.index.lookup key with
  | none =>
      by_cases hother : other = key
      · subst hother
        simp [value, hkey]
      · simp [hother]
  | some p =>
      simp only [value, modifyAt]
      by_cases hother : other = key
      · subst hother
        rw [if_pos rfl, hkey, Option.bind_some, Option.bind_some, Heap.cell_modify, if_pos rfl]
      · rw [if_neg hother]
        cases hlookup : table.index.lookup other with
        | none => rfl
        | some q =>
            have hne : q ≠ p := by
              rintro rfl
              exact hother (table.injective other key q hlookup hkey)
            rw [Option.bind_some, Option.bind_some, Heap.cell_modify, if_neg hne]

/-! ## Which records are deleted -/

theorem isLive_of_find {key : Key} {p : Nat} (h : table.find key = some p) :
    table.heap.IsLive p := table.live key p h

theorem isLive_add {p : Nat} (h : table.heap.IsLive p) (key : Key) (record : T) :
    (table.add key record).heap.IsLive p := h.alloc record

theorem isLive_erase_iff {p : Nat} (h : table.heap.IsLive p) (key : Key) :
    (table.erase key).heap.IsLive p ↔ table.find key ≠ some p := by
  show (table.freed key).IsLive p ↔ _
  rw [isLive_freed_iff]
  exact and_iff_left h

/-- Replacing the record of a key deletes the old one. -/
theorem isLive_replace_iff {p : Nat} (h : table.heap.IsLive p) (key : Key) (record : T) :
    (table.replace key record).heap.IsLive p ↔ table.find key ≠ some p := by
  have hnext : (table.erase key).heap.next = table.heap.next := by
    show (table.freed key).next = table.heap.next
    unfold freed
    split
    · rfl
    · rfl
  have hlt := h.lt_next
  have hcell : (table.replace key record).heap.cell p = (table.erase key).heap.cell p := by
    show ((table.erase key).heap.alloc record).cell p = _
    rw [Heap.cell_alloc, if_neg (by omega)]
  rw [← isLive_erase_iff h key]
  unfold Heap.IsLive
  rw [hcell]

theorem isLive_modifyAt_iff (p q : Nat) (f : T → T) :
    (table.modifyAt q f).heap.IsLive p ↔ table.heap.IsLive p := Heap.isLive_modify_iff q p f

theorem isLive_modify_iff (key : Key) (p : Nat) (f : T → T) :
    (table.modify key f).heap.IsLive p ↔ table.heap.IsLive p := by
  unfold modify
  split
  · exact isLive_modifyAt_iff p _ f
  · exact Iff.rfl

end RecordTable

end Library
end DeviceAndroVM
