import Mathlib.Data.List.Basic

/-!
# Blocks of bytes

Memory whose bytes may be unspecified: an allocation that was filled from a source
or left as it was, and a range of it overwritten.
-/

namespace DeviceAndroVM
namespace Library

/-- A block of bytes; `none` is a byte nothing has been stored in. -/
abbrev ByteBlock := List (Option UInt8)

namespace ByteBlock

/-- A block of `size` bytes, copied from `memory` if there is any. -/
def ofMemory (size : Nat) (memory : Option (Nat → UInt8)) : ByteBlock :=
  match memory with
  | some data => (List.range size).map fun i => some (data i)
  | none => List.replicate size none

/-- Copy `size` bytes of `data` to `offset`; only bytes inside the block change. -/
def overwrite (bytes : ByteBlock) (offset size : Nat) (data : Nat → UInt8) : ByteBlock :=
  bytes.mapIdx fun i old =>
    if offset ≤ i ∧ i < offset + size then some (data (i - offset)) else old

@[simp] theorem length_ofMemory (size : Nat) (memory : Option (Nat → UInt8)) :
    (ofMemory size memory).length = size := by
  cases memory with
  | none => simp [ofMemory]
  | some data => simp [ofMemory]

@[simp] theorem length_overwrite (bytes : ByteBlock) (offset size : Nat)
    (data : Nat → UInt8) : (overwrite bytes offset size data).length = bytes.length := by
  simp [overwrite]

/-- The bytes inside the block after a copy. -/
theorem getElem?_overwrite {bytes : ByteBlock} (offset size : Nat) (data : Nat → UInt8)
    {i : Nat} (hi : i < bytes.length) :
    (overwrite bytes offset size data)[i]? =
      if offset ≤ i ∧ i < offset + size then some (some (data (i - offset))) else bytes[i]? := by
  unfold overwrite
  rw [List.getElem?_mapIdx, List.getElem?_eq_getElem hi]
  simp only [Option.map_some]
  split <;> rfl

/-- Copying nothing changes nothing. -/
@[simp] theorem overwrite_zero (bytes : ByteBlock) (offset : Nat) (data : Nat → UInt8) :
    overwrite bytes offset 0 data = bytes := by
  unfold overwrite
  apply List.ext_getElem?
  intro i
  rw [List.getElem?_mapIdx, Nat.add_zero]
  have hempty : ¬(offset ≤ i ∧ i < offset) := by omega
  simp [hempty]

end ByteBlock

end Library
end DeviceAndroVM
