import DeviceAndroVM.Library.Buffer
import DeviceAndroVM.Library.CString

/-!
# C strings in memory

A block of bytes that begins with a string and its terminator.

* `strlen`, `strcat` — without a result where there is no terminator or no room.
* `strcatAt`, `strncatAt` — the string that is added is one in memory too, and what it is added
  to begins somewhere in the block.
* `StringWithin` — whatever lies behind a block, a string in it is read no further.
* `strchr` — the rest of a string from a byte on.
-/

namespace DeviceAndroVM
namespace Library
namespace CString

/-- `strlen` of the string that a block begins with. -/
def strlen (block : List UInt8) : Option Nat :=
  if 0 ∈ block then some (block.takeWhile (· != 0)).length else none

/-- `strcat` to the string that a block begins with. -/
def strcat (block : List UInt8) (s : CString) : Option (List UInt8) :=
  (strlen block).bind fun n => store block n (s ++ [0])

/-- A string is added to the one that begins `offset` bytes into the block. -/
def appendAt (block : List UInt8) (offset : Nat) (s : CString) : Option (List UInt8) :=
  (strlen (block.drop offset)).bind fun n => store block (offset + n) (s ++ [0])

/-- `strcat(block + offset, src)`. -/
def strcatAt (block : List UInt8) (offset : Nat) (src : List UInt8) : Option (List UInt8) :=
  (strlen src).bind fun n => appendAt block offset (src.take n)

/-- `strncat(block + offset, src, n)`: `src` has a terminator or `n` bytes. -/
def strncatAt (block : List UInt8) (offset : Nat) (src : List UInt8) (n : Nat) :
    Option (List UInt8) :=
  if 0 ∈ src ∨ n ≤ src.length then appendAt block offset ((src.take n).takeWhile (· != 0))
  else none

/-- `strchr`: what it finds, and the bytes before that. -/
def strchr (c : UInt8) (s : CString) : Option (CString × CString) :=
  if c ∈ s then some (s.takeWhile (· != c), s.dropWhile (· != c)) else none

variable {s : CString}

theorem strlen_append (hs : ∀ b ∈ s, b ≠ 0) (rest : List UInt8) :
    strlen (s ++ 0 :: rest) = some s.length := by
  rw [strlen, if_pos (by simp), takeWhile_append_cons hs]

/-- A string is added behind another one whose block goes on long enough. -/
theorem strcat_append {old more : List UInt8} (hs : ∀ b ∈ s, b ≠ 0) (t : CString)
    (hroom : old.length = t.length) :
    strcat (s ++ 0 :: (old ++ more)) t = some (s ++ (t ++ 0 :: more)) := by
  have hsplit : 0 :: (old ++ more) = (0 :: old) ++ more := rfl
  rw [strcat, strlen_append hs, Option.bind_some, hsplit,
    store_append s more (by simp [hroom]), List.append_assoc]
  rfl

/-- Where the terminator is known, there is just the room behind it. -/
theorem appendAt_spec (text rest : List UInt8) (s : CString) :
    appendAt (text ++ 0 :: rest) text.length s =
      if s.length ≤ rest.length then some (text ++ (s ++ 0 :: rest.drop s.length)) else none := by
  have hstart : strlen (0 :: rest) = some 0 := strlen_append (s := []) (by simp) rest
  rw [appendAt, List.drop_left, hstart, Option.bind_some, Nat.add_zero]
  split
  next hroom =>
    have hsplit : 0 :: rest = (0 :: rest.take s.length) ++ rest.drop s.length := by
      rw [List.cons_append, List.take_append_drop]
    rw [hsplit, store_append text (rest.drop s.length) (by simp [hroom]), List.append_assoc]
    rfl
  next hroom =>
    refine if_neg ?_
    simp only [List.length_append, List.length_cons, List.length_nil]
    omega

theorem strlen_eq {block : List UInt8} (h : 0 ∈ block) :
    strlen block = some (block.takeWhile (· != 0)).length := if_pos h

/-- What `strlen` counts. -/
theorem take_length_takeWhile (block : List UInt8) :
    block.take (block.takeWhile (· != 0)).length = block.takeWhile (· != 0) :=
  (List.prefix_iff_eq_take.mp (List.takeWhile_prefix _)).symm

/-- No more bytes than the string has are all in front of its terminator. -/
theorem takeWhile_take {block : List UInt8} {n : Nat}
    (h : n ≤ (block.takeWhile (· != 0)).length) :
    (block.take n).takeWhile (· != 0) = block.take n := by
  have htake : block.take n = (block.takeWhile (· != 0)).take n := by
    rw [← take_length_takeWhile block, List.take_take, Nat.min_eq_left h]
  rw [List.takeWhile_eq_self_iff]
  intro b hb
  rw [htake] at hb
  exact List.mem_takeWhile_imp (p := (· != 0)) (List.mem_of_mem_take hb)

theorem strchr_append {c : UInt8} (hs : ∀ b ∈ s, b ≠ c) (rest : CString) :
    strchr c (s ++ c :: rest) = some (s, c :: rest) := by
  rw [strchr, if_pos (by simp), takeWhile_append_cons hs,
    List.dropWhile_append_of_pos (by simpa using hs), List.dropWhile_cons_of_neg (by simp)]

/-- A string is read up to its terminator: from `offset` of the block on nothing behind the block is
read, whatever is there. -/
def StringWithin (block : List UInt8) (offset : Nat) : Prop :=
  ∀ memory : Nat → UInt8, (∀ i, i < block.length → block[i]? = some (memory i)) →
    ∀ i, offset ≤ i → (∀ j, offset ≤ j → j < i → memory j ≠ 0) → i < block.length

/-- A string is read no further than its block just when that has a terminator. -/
theorem stringWithin_iff {block : List UInt8} {offset : Nat} (h : offset ≤ block.length) :
    StringWithin block offset ↔ 0 ∈ block.drop offset := by
  constructor
  · intro hwithin
    by_contra hnone
    -- without a terminator the byte behind the block is read
    refine absurd (hwithin (fun i => (block[i]?).getD 1) ?_ block.length h ?_) (Nat.lt_irrefl _)
    · intro i hi
      rw [List.getElem?_eq_getElem hi, Option.getD_some]
    · intro j hj hend hzero
      rw [List.getElem?_eq_getElem hend, Option.getD_some] at hzero
      refine hnone (List.mem_iff_getElem?.mpr ⟨j - offset, ?_⟩)
      rw [List.getElem?_drop, Nat.add_sub_cancel' hj, List.getElem?_eq_getElem hend, hzero]
  · intro hzero memory hmemory i _ hread
    obtain ⟨k, hk⟩ := List.mem_iff_getElem?.mp hzero
    rw [List.getElem?_drop] at hk
    obtain ⟨hlt, -⟩ := List.getElem?_eq_some_iff.mp hk
    by_contra hbeyond
    refine hread (offset + k) (by omega) (by omega) ?_
    exact Option.some.inj ((hmemory _ hlt).symm.trans hk)

end CString
end Library
end DeviceAndroVM
