import Mathlib.Data.List.Range
import Mathlib.Logic.Nontrivial.Basic

/-!
# Lists of equal pieces, and lists in a memory

A list that is put together from pieces of one length, the piece `k` being a function
of `k`.  A memory has an entry at each address, and a list lies in it from an address on when
the entries from there are those of the list.

* `getElem?_pieces` — an entry of the list belongs to one piece.
* `piece_pieces` — what stands at a piece boundary is the piece.
* `liesAt_append`, `liesAt_pieces` — a list that is put together from parts lies there when every
  part lies behind the ones before it.
* `eq_of_forall_map_eq` — which places are read can be seen from what memories show there.
-/

namespace DeviceAndroVM
namespace Library

section Pieces

universe u

variable {α : Type u} {piece : Nat → List α} {size : Nat}

/-- The first `count` pieces. -/
def pieces (piece : Nat → List α) (count : Nat) : List α := (List.range count).flatMap piece

@[simp] theorem pieces_zero : pieces piece 0 = [] := rfl

theorem pieces_succ (count : Nat) :
    pieces piece (count + 1) = pieces piece count ++ piece count := by
  unfold pieces
  rw [List.range_succ, List.flatMap_append, List.flatMap_singleton]

theorem pieces_succ_eq_cons (count : Nat) :
    pieces piece (count + 1) = piece 0 ++ pieces (fun k => piece (k + 1)) count := by
  unfold pieces
  rw [List.range_succ_eq_map, List.flatMap_cons, List.flatMap_map]

theorem length_pieces (hsize : ∀ k, (piece k).length = size) (count : Nat) :
    (pieces piece count).length = count * size := by
  induction count with
  | zero => simp
  | succ count ih => rw [pieces_succ, List.length_append, ih, hsize, Nat.succ_mul]

theorem mem_pieces {count : Nat} {x : α} : x ∈ pieces piece count ↔ ∃ k < count, x ∈ piece k := by
  simp [pieces]

/-- Entry `j` of piece `k`. -/
theorem getElem?_pieces (hsize : ∀ k, (piece k).length = size) {count k j : Nat}
    (hk : k < count) (hj : j < size) :
    (pieces piece count)[k * size + j]? = (piece k)[j]? := by
  induction count with
  | zero => omega
  | succ count ih =>
      have hlength := length_pieces hsize count
      rw [pieces_succ]
      rcases Nat.lt_succ_iff_lt_or_eq.mp hk with hlt | rfl
      · have hbefore : (k + 1) * size ≤ count * size := Nat.mul_le_mul_right size hlt
        rw [Nat.succ_mul] at hbefore
        rw [List.getElem?_append_left (by omega), ih hlt]
      · rw [List.getElem?_append_right (by omega), hlength, Nat.add_sub_cancel_left]

/-- The `size` entries from entry `k * size` on. -/
def pieceAt (size k : Nat) (xs : List α) : List α := (xs.drop (k * size)).take size

theorem pieceAt_pieces (hsize : ∀ k, (piece k).length = size) {count k : Nat} (hk : k < count) :
    pieceAt size k (pieces piece count) = piece k := by
  apply List.ext_getElem?
  intro j
  unfold pieceAt
  by_cases hj : j < size
  · rw [List.getElem?_take_of_lt hj, List.getElem?_drop, getElem?_pieces hsize hk hj]
  · rw [List.getElem?_eq_none (by rw [List.length_take]; omega),
      List.getElem?_eq_none (by rw [hsize]; omega)]

/-- Long pieces of `size` entries each are read as one run of entries when every piece goes
on where the last one ended. -/
theorem pieces_eq_map (f : Nat → α) (hpiece : ∀ k, piece k =
    (List.range size).map fun j => f (k * size + j)) (count : Nat) :
    pieces piece count = (List.range (count * size)).map f := by
  have hsize : ∀ k, (piece k).length = size := fun k => by simp [hpiece]
  apply List.ext_getElem?
  intro i
  by_cases hi : i < count * size
  · have hpos : 0 < size := Nat.pos_of_ne_zero fun h => by simp [h] at hi
    have hk : i / size < count := Nat.div_lt_of_lt_mul (by rwa [Nat.mul_comm])
    have hj : i % size < size := Nat.mod_lt i hpos
    have hsplit : i / size * size + i % size = i := Nat.div_add_mod' i size
    have hentry := getElem?_pieces hsize hk hj
    rw [hsplit, hpiece, List.getElem?_map, List.getElem?_range hj] at hentry
    rw [hentry, List.getElem?_map, List.getElem?_range hi]
    simp [hsplit]
  · rw [List.getElem?_eq_none (by rw [length_pieces hsize]; omega),
      List.getElem?_eq_none (by simpa using hi)]

end Pieces

section Memory

universe u

variable {α : Type u} {memory : Nat → α}

/-- The entries of the list are those from `base` on. -/
def LiesAt (memory : Nat → α) : Nat → List α → Prop
  | _, [] => True
  | base, a :: rest => memory base = a ∧ LiesAt memory (base + 1) rest

@[simp] theorem liesAt_nil (base : Nat) : LiesAt memory base [] := trivial

@[simp] theorem liesAt_cons {base : Nat} {a : α} {rest : List α} :
    LiesAt memory base (a :: rest) ↔ memory base = a ∧ LiesAt memory (base + 1) rest := Iff.rfl

theorem liesAt_append {base : Nat} {xs ys : List α} :
    LiesAt memory base (xs ++ ys) ↔
      LiesAt memory base xs ∧ LiesAt memory (base + xs.length) ys := by
  induction xs generalizing base with
  | nil => simp
  | cons a xs ih =>
      have hnext : base + 1 + xs.length = base + (a :: xs).length := by
        simp only [List.length_cons]
        omega
      rw [List.cons_append, liesAt_cons, ih, hnext, liesAt_cons, and_assoc]

theorem liesAt_pieces {piece : Nat → List α} {size base : Nat}
    (hsize : ∀ k, (piece k).length = size) (count : Nat) :
    LiesAt memory base (pieces piece count) ↔
      ∀ k < count, LiesAt memory (base + k * size) (piece k) := by
  induction count with
  | zero => simp
  | succ count ih =>
      rw [pieces_succ, liesAt_append, ih, length_pieces hsize, Nat.forall_lt_succ_right]

instance decidableLiesAt [DecidableEq α] (memory : Nat → α) :
    ∀ (base : Nat) (xs : List α), Decidable (LiesAt memory base xs)
  | _, [] => isTrue trivial
  | base, a :: rest =>
      have := decidableLiesAt memory (base + 1) rest
      inferInstanceAs (Decidable (memory base = a ∧ LiesAt memory (base + 1) rest))

/-- Places that show the same in every memory are the same. -/
theorem eq_of_forall_map_eq {ι : Type u} {β : Type u} [Nontrivial β] {xs ys : List ι}
    (h : ∀ memory : ι → β, xs.map memory = ys.map memory) : xs = ys := by
  classical
  obtain ⟨here, elsewhere, hne⟩ := exists_pair_ne β
  induction xs generalizing ys with
  | nil =>
      have hnil := h fun _ => here
      rw [List.map_nil, eq_comm, List.map_eq_nil_iff] at hnil
      exact hnil.symm
  | cons x xs ih =>
      cases ys with
      | nil => exact absurd (h fun _ => here) (List.cons_ne_nil _ _)
      | cons y ys =>
          have hhead : (if x = x then here else elsewhere) = if y = x then here else elsewhere :=
            (List.cons.inj (h fun z => if z = x then here else elsewhere)).1
          rw [if_pos rfl] at hhead
          have hxy : y = x := by
            by_contra hxy
            rw [if_neg hxy] at hhead
            exact hne hhead
          rw [hxy, ih fun memory => (List.cons.inj (h memory)).2]

end Memory

end Library
end DeviceAndroVM
