import Mathlib.Data.List.Basic

/-!
# Copies in and between buffers

Pieces of a buffer are copied out of it, into it, and from one place of it to another; a copy
that leaves the buffer has no result.

* `load`, `store` — a piece at an offset.
* `take_store` — a piece stored behind what has been stored so far.
* `store_append_piece` — two pieces stored one behind the other.
* `memmove`, `memcpy` — a piece of the buffer copied to another place of it; `memcpy` is undefined
  on places that overlap.
* `gather` — the loop that sets every element of a range to another one further on.
* `gather_spec` — it reads the elements as they were before.
-/

namespace DeviceAndroVM
namespace Library

universe u

variable {α β : Type u} {a dst piece : List α} {f : Nat → Nat} {offset n i : Nat}

/-- `n` elements from `offset` on. -/
def load (src : List α) (offset n : Nat) : Option (List α) :=
  if offset + n ≤ src.length then some ((src.drop offset).take n) else none

/-- `piece` takes the place of as many elements from `offset` on. -/
def store (dst : List α) (offset : Nat) (piece : List α) : Option (List α) :=
  if offset + piece.length ≤ dst.length then
    some (dst.take offset ++ (piece ++ dst.drop (offset + piece.length)))
  else none

theorem load_of_le (h : offset + n ≤ a.length) : load a offset n = some ((a.drop offset).take n) :=
  if_pos h

theorem store_of_le (h : offset + piece.length ≤ dst.length) :
    store dst offset piece = some (dst.take offset ++ (piece ++ dst.drop (offset + piece.length))) :=
  if_pos h

theorem le_of_store (h : store dst offset piece = some a) : offset + piece.length ≤ dst.length := by
  unfold store at h
  split at h
  next hle => exact hle
  next => cases h

/-- A piece is stored just when it does not leave the buffer. -/
theorem exists_store_iff :
    (∃ a, store dst offset piece = some a) ↔ offset + piece.length ≤ dst.length :=
  ⟨fun ⟨_, h⟩ => le_of_store h, fun h => ⟨_, store_of_le h⟩⟩

theorem length_store (h : store dst offset piece = some a) : a.length = dst.length := by
  unfold store at h
  split at h
  next hle =>
    cases h
    simp only [List.length_append, List.length_take, List.length_drop]
    omega
  next => cases h

/-- What has been stored up to the offset, and then the piece. -/
theorem take_store (h : store dst offset piece = some a) :
    a.take (offset + piece.length) = dst.take offset ++ piece := by
  unfold store at h
  split at h
  next hle =>
    cases h
    have hlength : (dst.take offset).length = offset := by
      rw [List.length_take]
      omega
    rw [← List.append_assoc, List.take_append_of_le_length]
    · apply List.take_of_length_le
      simp [hlength]
    · simp [hlength]
  next => cases h

theorem load_append (before piece after : List α) :
    load (before ++ (piece ++ after)) before.length piece.length = some piece := by
  rw [load_of_le (by simp), List.drop_left, List.take_left]

theorem store_append {old : List α} (before after : List α) (h : old.length = piece.length) :
    store (before ++ (old ++ after)) before.length piece =
      some (before ++ (piece ++ after)) := by
  rw [store_of_le (by simp [h]), List.take_left, ← h, ← List.append_assoc before old after,
    ← List.length_append, List.drop_left]

/-- One piece behind the other is stored as both together. -/
theorem store_append_piece (dst : List α) (offset : Nat) (piece more : List α) :
    store dst offset (piece ++ more) =
      (store dst offset piece).bind fun a => store a (offset + piece.length) more := by
  by_cases hroom : offset + (piece.length + more.length) ≤ dst.length
  · obtain ⟨before, old, old', after, rfl, rfl, hold, hold'⟩ : ∃ before old old' after,
        dst = before ++ (old ++ (old' ++ after)) ∧ offset = before.length ∧
          old.length = piece.length ∧ old'.length = more.length := by
      refine ⟨dst.take offset, (dst.drop offset).take piece.length,
        ((dst.drop offset).drop piece.length).take more.length,
        ((dst.drop offset).drop piece.length).drop more.length, ?_⟩
      simp only [List.take_append_drop, List.length_take, List.length_drop, true_and]
      omega
    have hsecond := store_append (before ++ piece) after hold'
    rw [List.length_append, List.append_assoc, List.append_assoc] at hsecond
    rw [store_append before _ hold, Option.bind_some, hsecond, ← List.append_assoc old,
      store_append before after (by simp [hold, hold']), List.append_assoc]
  · have hnone : store dst offset (piece ++ more) = none :=
      if_neg (by rwa [List.length_append])
    rw [hnone]
    cases ha : store dst offset piece with
    | none => rfl
    | some a =>
        have hlength := length_store ha
        exact (if_neg (by omega)).symm

/-! ## Copies inside a buffer -/

/-- `n` elements from `src` on are copied to `dst`. -/
def memmove (a : List α) (dst src n : Nat) : Option (List α) := (load a src n).bind (store a dst)

/-- A copy between places that do not overlap. -/
def memcpy (a : List α) (dst src n : Nat) : Option (List α) :=
  if dst + n ≤ src ∨ src + n ≤ dst then memmove a dst src n else none

/-- A piece is moved down over a gap, which afterwards lies behind it. -/
theorem memmove_down (before gap piece after : List α) :
    memmove (before ++ (gap ++ (piece ++ after))) before.length (before.length + gap.length)
        piece.length =
      some (before ++ (piece ++ ((gap ++ piece).drop piece.length ++ after))) := by
  have hload := load_append (before ++ gap) piece after
  rw [List.length_append, List.append_assoc] at hload
  have hold : ((gap ++ piece).take piece.length).length = piece.length := by simp
  have hsplit : gap ++ (piece ++ after) =
      (gap ++ piece).take piece.length ++ ((gap ++ piece).drop piece.length ++ after) := by
    rw [← List.append_assoc, ← List.append_assoc, List.take_append_drop]
  rw [memmove, hload, Option.bind_some, hsplit]
  exact store_append before _ hold

theorem memcpy_down (before gap piece after : List α) (hne : gap ≠ []) :
    memcpy (before ++ (gap ++ (piece ++ after))) before.length (before.length + gap.length)
        piece.length =
      if piece.length ≤ gap.length then
        some (before ++ (piece ++ ((gap ++ piece).drop piece.length ++ after)))
      else none := by
  have hpos := List.length_pos_of_ne_nil hne
  unfold memcpy
  by_cases hfits : piece.length ≤ gap.length
  · rw [if_pos (Or.inl (by omega)), if_pos hfits, memmove_down]
  · rw [if_neg (by omega), if_neg hfits]

/-! ## A loop in place -/

/-- `for (; n > 0; i++, n--) a[i] = a[f(i)]`. -/
def gather (f : Nat → Nat) : Nat → Nat → List α → Option (List α)
  | 0, _, a => some a
  | n + 1, i, a =>
      match a[f i]? with
      | none => none
      | some x => if i < a.length then gather f n (i + 1) (a.set i x) else none

/-- If nothing is read from behind its own place, the loop reads what was there at first. -/
theorem gather_spec (hf : ∀ j, j ≤ f j) (hbound : ∀ j, i ≤ j → j < i + n → f j < a.length) :
    ∃ b, gather f n i a = some b ∧ b.length = a.length ∧
      ∀ j, b[j]? = if i ≤ j ∧ j < i + n then a[f j]? else a[j]? := by
  induction n generalizing i a with
  | zero =>
      refine ⟨a, rfl, rfl, fun j => ?_⟩
      have hempty : ¬(i ≤ j ∧ j < i + 0) := by omega
      rw [if_neg hempty]
  | succ n ih =>
      have hread : f i < a.length := hbound i (Nat.le_refl i) (by omega)
      have hwrite : i < a.length := Nat.lt_of_le_of_lt (hf i) hread
      have hrest : ∀ j, i + 1 ≤ j → j < i + 1 + n → f j < (a.set i a[f i]).length := by
        intro j hlow hhigh
        rw [List.length_set]
        exact hbound j (by omega) (by omega)
      obtain ⟨b, hb, hlength, hget⟩ := ih hrest
      refine ⟨b, ?_, by rw [hlength, List.length_set], ?_⟩
      · simp only [gather, List.getElem?_eq_getElem hread, if_pos hwrite]
        exact hb
      · intro j
        rw [hget j]
        -- the element at `i` has changed, and it is not read again
        by_cases hlater : i + 1 ≤ j ∧ j < i + 1 + n
        · have hj := hf j
          rw [if_pos hlater, if_pos (by omega), List.getElem?_set_ne (by omega)]
        · rw [if_neg hlater]
          by_cases hnow : j = i
          · subst hnow
            rw [if_pos (by omega), List.getElem?_set_self hwrite, List.getElem?_eq_getElem hread]
          · rw [if_neg (by omega), List.getElem?_set_ne (Ne.symm hnow)]

end Library
end DeviceAndroVM
