import DeviceAndroVM.Library.FirstFit

/-!
# The real mode memory of v86d

`x86-common.c`: the memory below 1 MiB from which the buffers for BIOS calls are taken.

* `mem_info` — the table of blocks.
* `insert_block`, `delete_block`, `LRMI_alloc_real`, `LRMI_free_real` — the functions of the
  source, by the numbers of the blocks.
* `carve_numbers`, `mergeNext_numbers`, `mergePrev_numbers` — the same without the numbers.
-/

namespace DeviceAndroVM
namespace V86d

open Library Library.Arena

def REAL_MEM_BASE : Nat := 0x01000
def REAL_MEM_SIZE : Nat := 0xa0000
def REAL_MEM_BLOCKS : Nat := 0x100

/-- `mem_info`; `count` is the length of the list. -/
structure mem_info where
  ready : Bool
  blocks : List Block
  deriving DecidableEq, Repr

/-- A value for the field of 20 bits. -/
def size20 (size : Int) : Nat := (size % 0x100000).toNat

/-- `real_mem_init`; `mapped` is whether the memory could be mapped. -/
def real_mem_init (m : mem_info) (mapped : Bool) : Bool × mem_info :=
  if m.ready then (true, m)
  else if mapped then (true, ⟨true, [⟨REAL_MEM_SIZE, true⟩]⟩)
  else (false, m)

/-- `insert_block`: the blocks from `i` on move up, and block `i` stays where it was, too. -/
def insert_block (blocks : List Block) (i : Nat) : List Block :=
  blocks.take (i + 1) ++ blocks.drop i

def delete_block (blocks : List Block) (i : Nat) : List Block := blocks.eraseIdx i

/-- `(size + 15) & ~15`, where `int` wraps around. -/
def paragraphs (size : Int) : Int := (size + 15).bmod 0x100000000 / 16 * 16

/-- The loop of `LRMI_alloc_real`. -/
def findFree (size : Int) : List Block → Nat → Nat → Option (Nat × Nat)
  | [], _, _ => none
  | b :: blocks, i, r =>
      if b.free && size < b.size then some (i, r) else findFree size blocks (i + 1) (r + b.size)

/-- `LRMI_alloc_real`: the address, or none for `NULL`. -/
def LRMI_alloc_real (m : mem_info) (size : Int) : Option Nat × mem_info :=
  if !m.ready then (none, m)
  else if m.blocks.length = REAL_MEM_BLOCKS then (none, m)
  else
    let size := paragraphs size
    match findFree size m.blocks 0 REAL_MEM_BASE with
    | none => (none, m)
    | some (i, r) =>
        let blocks := insert_block m.blocks i
        let blocks := blocks.modify i fun _ => ⟨size20 size, false⟩
        let blocks := blocks.modify (i + 1) fun b => { b with size := size20 (b.size - size) }
        (some r, { m with blocks })

/-- The block behind a free one is merged into it, where it is free. -/
def mergeNext (blocks : List Block) (i : Nat) : List Block :=
  match blocks[i + 1]? with
  | none => blocks
  | some next =>
      if next.free then
        delete_block (blocks.modify i fun b => { b with size := size20 (b.size + next.size) }) (i + 1)
      else blocks

/-- A block is merged into the one before it, where that is free. -/
def mergePrev (blocks : List Block) (i : Nat) : List Block :=
  if i = 0 then blocks
  else
    match blocks[i - 1]?, blocks[i]? with
    | some prev, some b =>
        if prev.free then
          delete_block
            (blocks.modify (i - 1) fun p => { p with size := size20 (p.size + b.size) }) i
        else blocks
    | _, _ => blocks

/-- `LRMI_free_real`. -/
def LRMI_free_real (m : mem_info) (p : Nat) : mem_info :=
  if !m.ready then m
  else
    match blockAt p m.blocks 0 REAL_MEM_BASE with
    | none => m
    | some i =>
        let blocks := m.blocks.modify i fun b => { b with free := true }
        { m with blocks := mergePrev (mergeNext blocks i) i }

/-! ## Blocks by their numbers -/

section Numbers

variable {before after : List Block} {n : Nat}

theorem size20_of_lt (h : n < 0x100000) : size20 n = n := by
  unfold size20
  omega

theorem modify_middle (before : List Block) (b : Block) (after : List Block) (f : Block → Block) :
    (before ++ b :: after).modify before.length f = before ++ f b :: after := by
  induction before with
  | nil => rfl
  | cons a before ih => simpa using ih

theorem erase_middle (before : List Block) (b : Block) (after : List Block) :
    delete_block (before ++ b :: after) before.length = before ++ after := by
  induction before with
  | nil => rfl
  | cons a before ih => simpa [delete_block] using ih

theorem get_middle (before : List Block) (b : Block) (after : List Block) :
    (before ++ b :: after)[before.length]? = some b := by simp

theorem insert_middle (before : List Block) (b : Block) (after : List Block) :
    insert_block (before ++ b :: after) before.length = before ++ b :: b :: after := by
  have htake : before.take (before.length + 1) = before := List.take_of_length_le (by omega)
  simp [insert_block, List.take_append, htake]

/-- What `LRMI_alloc_real` makes of a free block. -/
theorem carve_numbers {size : Nat} (hsize : size < n) (hn : n < 0x100000) :
    ((insert_block (before ++ ⟨n, true⟩ :: after) before.length).modify before.length
        fun _ => ⟨size20 size, false⟩).modify (before.length + 1)
        (fun b => { b with size := size20 (b.size - size) }) =
      carve before n size after := by
  have hrest : size20 (n - size : Int) = n - size := by
    rw [← Int.ofNat_sub hsize.le]
    exact size20_of_lt (by omega)
  rw [insert_middle, modify_middle, size20_of_lt (by omega)]
  have hmodify := modify_middle (before ++ [⟨size, false⟩]) ⟨n, true⟩ after
    fun b => { b with size := size20 (b.size - size) }
  rw [List.length_append, List.length_singleton, List.append_assoc, List.append_assoc] at hmodify
  refine hmodify.trans ?_
  rw [carve]
  dsimp only
  rw [hrest]
  rfl

/-- The block behind a free one. -/
theorem mergeNext_numbers (hn : n + total after < 0x100000) :
    mergeNext (before ++ ⟨n, true⟩ :: after) before.length =
      before ++ ⟨n + (nextFree after).1, true⟩ :: (nextFree after).2 := by
  have hget : (before ++ ⟨n, true⟩ :: after)[before.length + 1]? = after.head? := by
    rw [List.getElem?_append_right (by omega), Nat.add_sub_cancel_left, List.getElem?_cons_succ,
      List.head?_eq_getElem?]
  rw [mergeNext, hget]
  match after with
  | [] => rfl
  | ⟨m, false⟩ :: after => rfl
  | ⟨m, true⟩ :: after =>
      rw [total_cons] at hn
      dsimp only at hn
      simp only [List.head?_cons, if_true]
      have herase := erase_middle (before ++ [⟨n + m, true⟩]) ⟨m, true⟩ after
      rw [List.length_append, List.length_singleton, List.append_assoc, List.append_assoc] at herase
      have hsum : size20 ((n : Int) + m) = n + m := size20_of_lt (by omega)
      rw [modify_middle]
      dsimp only
      rw [hsum]
      exact herase

/-- The block before a free one. -/
theorem mergePrev_numbers (hn : total before + n < 0x100000) :
    mergePrev (before ++ ⟨n, true⟩ :: after) before.length =
      (prevFree before).1 ++ ⟨(prevFree before).2 + n, true⟩ :: after := by
  rcases before.eq_nil_or_concat' with rfl | ⟨first, ⟨m, free⟩, rfl⟩
  · simp [mergePrev]
  · have hgetPrev : (first ++ [⟨m, free⟩] ++ ⟨n, true⟩ :: after)[first.length]? =
        some ⟨m, free⟩ := by
      rw [List.append_assoc]
      exact get_middle _ _ _
    have hget := get_middle (first ++ [⟨m, free⟩]) ⟨n, true⟩ after
    rw [List.length_append, List.length_singleton] at hget ⊢
    rw [mergePrev, if_neg (by omega), Nat.add_sub_cancel, hgetPrev, hget]
    cases free with
    | false => simp
    | true =>
        rw [total_append, total_cons, total_nil] at hn
        dsimp only at hn
        have hsum : size20 ((m : Int) + n) = m + n := size20_of_lt (by omega)
        simp only [if_true, prevFree_concat_free, List.append_assoc]
        rw [List.singleton_append, modify_middle]
        dsimp only
        rw [hsum]
        have herase := erase_middle (first ++ [⟨m + n, true⟩]) ⟨n, true⟩ after
        rw [List.length_append, List.length_singleton, List.append_assoc, List.append_assoc] at herase
        exact herase

end Numbers

end V86d
end DeviceAndroVM
