import Mathlib.Data.List.Basic

/-!
# The C library's `bsearch`

`bsearch` probes the middle of a shrinking window of an array with a
caller-supplied comparison of the key with an element.  It trusts the
comparison: the only elements it can miss are those which some probe on the way
steers away from.

* `bsearch` — the search, as the C library's loop runs it.
* `bsearch_sound` — an index it returns compares equal.
* `bsearch_eq_some` — an element compared equal is found when the comparison is
  positive before it and negative after it.
* `bsearch_eq_none` — nothing is found when nothing compares equal.
-/

namespace DeviceAndroVM
namespace Library

universe u v

variable {α : Type u} {β : Type v}

/-- The loop of `bsearch` over the window of `lim` elements from index `base`.
The window at least halves in every round, so `lim` rounds of `fuel` are more
than the loop makes. -/
def bsearchLoop (cmp : α → β → Int) (key : α) (xs : List β) :
    Nat → Nat → Nat → Option Nat
  | 0, _, _ => none
  | fuel + 1, base, lim =>
      if lim = 0 then none
      else
        match xs[base + lim / 2]? with
        | none => none
        | some p =>
            if cmp key p = 0 then some (base + lim / 2)
            else if 0 < cmp key p then
              -- move right: the probed element leaves the window too
              bsearchLoop cmp key xs fuel (base + lim / 2 + 1) ((lim - 1) / 2)
            else
              bsearchLoop cmp key xs fuel base (lim / 2)

/-- Search the whole array; the result is the index of the match. -/
def bsearch (cmp : α → β → Int) (key : α) (xs : List β) : Option Nat :=
  bsearchLoop cmp key xs xs.length 0 xs.length

theorem bsearchLoop_sound {cmp : α → β → Int} {key : α} {xs : List β}
    {fuel base lim i : Nat}
    (h : bsearchLoop cmp key xs fuel base lim = some i) :
    ∃ x, xs[i]? = some x ∧ cmp key x = 0 := by
  induction fuel generalizing base lim with
  | zero => simp [bsearchLoop] at h
  | succ fuel ih =>
      rw [bsearchLoop] at h
      split at h
      · simp at h
      · split at h
        · simp at h
        · rename_i p hp
          split at h
          · rename_i heq
            obtain rfl := Option.some.inj h
            exact ⟨p, hp, heq⟩
          · split at h
            · exact ih h
            · exact ih h

/-- An index that `bsearch` returns holds an element that compares equal. -/
theorem bsearch_sound {cmp : α → β → Int} {key : α} {xs : List β} {i : Nat}
    (h : bsearch cmp key xs = some i) :
    ∃ x, xs[i]? = some x ∧ cmp key x = 0 :=
  bsearchLoop_sound h

/-- Nothing is found when no element compares equal. -/
theorem bsearch_eq_none {cmp : α → β → Int} {key : α} {xs : List β}
    (h : ∀ x ∈ xs, cmp key x ≠ 0) : bsearch cmp key xs = none := by
  cases hfound : bsearch cmp key xs with
  | none => rfl
  | some i =>
      obtain ⟨x, hx, heq⟩ := bsearch_sound hfound
      exact absurd heq (h x (List.mem_of_getElem? hx))

/-- The loop invariant: the sought index `i` stays in the window, because every
probe other than `i` itself is steered to the side `i` is on. -/
theorem bsearchLoop_eq_some {cmp : α → β → Int} {key : α} {xs : List β} {i : Nat}
    {x : β} (hx : xs[i]? = some x) (heq : cmp key x = 0)
    (hbefore : ∀ j y, j < i → xs[j]? = some y → 0 < cmp key y)
    (hafter : ∀ j y, i < j → xs[j]? = some y → cmp key y < 0)
    {fuel base lim : Nat} (hfuel : lim ≤ fuel) (hlow : base ≤ i)
    (hhigh : i < base + lim) (hlen : base + lim ≤ xs.length) :
    bsearchLoop cmp key xs fuel base lim = some i := by
  induction fuel generalizing base lim with
  | zero => omega
  | succ fuel ih =>
      rw [bsearchLoop, if_neg (by omega)]
      have hprobe : base + lim / 2 < xs.length := by omega
      rw [List.getElem?_eq_getElem hprobe]
      set p := xs[base + lim / 2] with hp
      have hget : xs[base + lim / 2]? = some p := List.getElem?_eq_getElem hprobe
      rcases Nat.lt_trichotomy (base + lim / 2) i with hlt | hmid | hgt
      · have hpos := hbefore _ _ hlt hget
        have hne : cmp key p ≠ 0 := by omega
        simp only [if_neg hne, if_pos hpos]
        exact ih (by omega) (by omega) (by omega) (by omega)
      · rw [← hmid, hget] at hx
        obtain rfl := Option.some.inj hx
        simp only [heq, if_true, hmid]
      · have hneg := hafter _ _ hgt hget
        have hne : cmp key p ≠ 0 := by omega
        have hnotpos : ¬ 0 < cmp key p := by omega
        simp only [if_neg hne, if_neg hnotpos]
        exact ih (by omega) (by omega) (by omega) (by omega)

/-- An element that compares equal is found if every element before it compares
positive and every element after it compares negative. -/
theorem bsearch_eq_some {cmp : α → β → Int} {key : α} {xs : List β} {i : Nat}
    {x : β} (hx : xs[i]? = some x) (heq : cmp key x = 0)
    (hbefore : ∀ j y, j < i → xs[j]? = some y → 0 < cmp key y)
    (hafter : ∀ j y, i < j → xs[j]? = some y → cmp key y < 0) :
    bsearch cmp key xs = some i := by
  have hi : i < xs.length := (List.getElem?_eq_some_iff.mp hx).1
  exact bsearchLoop_eq_some hx heq hbefore hafter (Nat.le_refl _) (Nat.zero_le _)
    (by omega) (by omega)

end Library
end DeviceAndroVM
