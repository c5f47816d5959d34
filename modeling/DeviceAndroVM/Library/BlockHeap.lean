import DeviceAndroVM.Library.ByteBlock

/-!
# A heap of byte blocks

Memory as blocks that are allocated, resized and freed.  An address is never used again,
so a pointer to a block that is gone is told from every other pointer.

* `BlockHeap` — the blocks by address; `malloc` and `realloc`.
* `write`, `read` — an access has a result only inside a live block.
* `ByteBlock.take_store` — what was stored stands behind what stood before it.
-/

namespace DeviceAndroVM
namespace Library

/-- The block with `data` stored at `offset`. -/
def ByteBlock.store (bytes : ByteBlock) (offset : Nat) (data : List UInt8) : ByteBlock :=
  bytes.take offset ++ data.map some ++ bytes.drop (offset + data.length)

theorem ByteBlock.length_store {bytes : ByteBlock} {offset : Nat} {data : List UInt8}
    (hroom : offset + data.length ≤ bytes.length) :
    (bytes.store offset data).length = bytes.length := by
  simp only [ByteBlock.store, List.length_append, List.length_take, List.length_map,
    List.length_drop]
  omega

theorem ByteBlock.take_store {bytes : ByteBlock} {offset : Nat} {data : List UInt8}
    (hroom : offset + data.length ≤ bytes.length) :
    (bytes.store offset data).take (offset + data.length) =
      bytes.take offset ++ data.map some := by
  have hlen : (bytes.take offset ++ data.map some).length = offset + data.length := by
    simp only [List.length_append, List.length_take, List.length_map]
    omega
  rw [ByteBlock.store, List.take_append_of_le_length (by omega), List.take_of_length_le (by omega)]

/-- The live blocks by their addresses; `fresh` is the address of the next one. -/
structure BlockHeap where
  blocks : Nat → Option ByteBlock
  fresh : Nat

namespace BlockHeap

/-- The heap with nothing allocated. -/
def empty : BlockHeap := ⟨fun _ => none, 0⟩

def set (h : BlockHeap) (p : Nat) (block : Option ByteBlock) : BlockHeap :=
  { h with blocks := fun q => if q = p then block else h.blocks q }

@[simp] theorem blocks_set_self (h : BlockHeap) (p : Nat) (block : Option ByteBlock) :
    (h.set p block).blocks p = block := by
  simp [set]

/-- A block of which nothing has been written. -/
def malloc (h : BlockHeap) (size : Nat) : Nat × BlockHeap :=
  (h.fresh, { h.set h.fresh (some (ByteBlock.ofMemory size none)) with fresh := h.fresh + 1 })

/-- The block moves: its bytes are at a new address as far as they fit. -/
def realloc (h : BlockHeap) (p : Nat) (size : Nat) : Nat × BlockHeap :=
  let bytes := ((h.blocks p).getD []).take size
  let block := bytes ++ List.replicate (size - bytes.length) none
  (h.fresh, { (h.set p none).set h.fresh (some block) with fresh := h.fresh + 1 })

def free (h : BlockHeap) (p : Nat) : BlockHeap := h.set p none

/-- Store `data` in a block. -/
def write (h : BlockHeap) (p offset : Nat) (data : List UInt8) : Option BlockHeap :=
  (h.blocks p).bind fun block =>
    if offset + data.length ≤ block.length then some (h.set p (some (block.store offset data)))
    else none

/-- The first `size` bytes of a block. -/
def read (h : BlockHeap) (p size : Nat) : Option ByteBlock :=
  (h.blocks p).bind fun block => if size ≤ block.length then some (block.take size) else none

theorem blocks_malloc (h : BlockHeap) (size : Nat) :
    ∃ block, (h.malloc size).2.blocks (h.malloc size).1 = some block ∧ block.length = size := by
  refine ⟨ByteBlock.ofMemory size none, ?_, by simp⟩
  simp [malloc, set]

theorem blocks_realloc (h : BlockHeap) (p size : Nat) :
    ∃ block, (h.realloc p size).2.blocks (h.realloc p size).1 = some block ∧
      block.length = size := by
  refine ⟨_, by simp [realloc, set]; rfl, ?_⟩
  simp only [List.length_append, List.length_take, List.length_replicate]
  omega

theorem read_eq {h : BlockHeap} {p size : Nat} {block : ByteBlock}
    (hblock : h.blocks p = some block) (hsize : size ≤ block.length) :
    h.read p size = some (block.take size) := by
  simp [read, hblock, hsize]

theorem write_eq {h : BlockHeap} {p offset : Nat} {data : List UInt8} {block : ByteBlock}
    (hblock : h.blocks p = some block) (hroom : offset + data.length ≤ block.length) :
    h.write p offset data = some (h.set p (some (block.store offset data))) := by
  simp [write, hblock, hroom]

end BlockHeap

end Library
end DeviceAndroVM
