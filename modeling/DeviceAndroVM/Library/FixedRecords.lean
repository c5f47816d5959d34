import Mathlib.Algebra.Group.Nat.Defs
import Mathlib.Data.List.Basic

/-!
# Records of a fixed size in a stream of bytes

A stream whose records all take the same number of bytes has its record boundaries at the
multiples of that number.

* `littleEndian`, `valueOf` — words in bytes, the low byte first.
* `FixedRecord` — how records are written, and how they are read back.
* `decodeAll_slice` — a whole number of records, taken at a record boundary.
-/

namespace DeviceAndroVM
namespace Library

universe u v

/-! ## Words -/

/-- The low `n` bytes of a number, the lowest first. -/
def littleEndian : Nat → Nat → List UInt8
  | 0, _ => []
  | n + 1, value => UInt8.ofNat value :: littleEndian n (value / 256)

/-- The number that bytes stand for, the lowest first. -/
def valueOf : List UInt8 → Nat
  | [] => 0
  | b :: rest => b.toNat + 256 * valueOf rest

@[simp] theorem length_littleEndian (n value : Nat) : (littleEndian n value).length = n := by
  induction n generalizing value with
  | zero => rfl
  | succ n ih => simp [littleEndian, ih]

theorem valueOf_littleEndian {n value : Nat} (h : value < 256 ^ n) :
    valueOf (littleEndian n value) = value := by
  induction n generalizing value with
  | zero =>
      simp only [Nat.pow_zero, Nat.lt_one_iff] at h
      simp [littleEndian, valueOf, h]
  | succ n ih =>
      have hrest : value / 256 < 256 ^ n := by
        rw [Nat.pow_succ] at h
        omega
      simp only [littleEndian, valueOf, ih hrest, UInt8.toNat_ofNat']
      omega

/-! ## Records -/

/-- Records of type `α`, each written as `size` symbols. -/
structure FixedRecord (α : Type u) (β : Type v) where
  size : Nat
  encode : α → List β
  decode : List β → α
  length_encode : ∀ r, (encode r).length = size
  decode_encode : ∀ r, decode (encode r) = r

namespace FixedRecord

variable {α : Type u} {β : Type v} (R : FixedRecord α β)

def encodeAll (records : List α) : List β := records.flatMap R.encode

/-- The first `count` records of a stream. -/
def decodeAll : Nat → List β → List α
  | 0, _ => []
  | count + 1, stream => R.decode (stream.take R.size) :: decodeAll count (stream.drop R.size)

@[simp] theorem encodeAll_nil : R.encodeAll [] = [] := rfl

@[simp] theorem encodeAll_cons (r : α) (rest : List α) :
    R.encodeAll (r :: rest) = R.encode r ++ R.encodeAll rest := rfl

@[simp] theorem length_encodeAll (records : List α) :
    (R.encodeAll records).length = R.size * records.length := by
  induction records with
  | nil => rfl
  | cons r rest ih => simp [ih, R.length_encode, Nat.mul_add, Nat.add_comm]

@[simp] theorem length_decodeAll (count : Nat) (stream : List β) :
    (R.decodeAll count stream).length = count := by
  induction count generalizing stream with
  | zero => rfl
  | succ count ih => simp [decodeAll, ih]

/-- What stands behind whole records are whole records. -/
theorem drop_encodeAll (k : Nat) (records : List α) :
    (R.encodeAll records).drop (R.size * k) = R.encodeAll (records.drop k) := by
  induction k generalizing records with
  | zero => simp
  | succ k ih =>
      cases records with
      | nil => simp
      | cons r rest =>
          have hsize : R.size * (k + 1) = (R.encode r).length + R.size * k := by
            rw [R.length_encode, Nat.mul_add, Nat.mul_one, Nat.add_comm]
          rw [encodeAll_cons, hsize, List.drop_append, List.drop_succ_cons]
          simp [ih]

theorem decodeAll_encodeAll {count : Nat} {records : List α} (hcount : count ≤ records.length) :
    R.decodeAll count ((R.encodeAll records).take (R.size * count)) = records.take count := by
  induction count generalizing records with
  | zero => rfl
  | succ count ih =>
      cases records with
      | nil => simp at hcount
      | cons r rest =>
          have hrest : count ≤ rest.length := by simpa using hcount
          have hsize : R.size * (count + 1) = (R.encode r).length + R.size * count := by
            rw [R.length_encode, Nat.mul_add, Nat.mul_one, Nat.add_comm]
          have hfirst : ((R.encode r) ++ (R.encodeAll rest).take (R.size * count)).take R.size =
              R.encode r := List.take_left' (R.length_encode r)
          have hlater : ((R.encode r) ++ (R.encodeAll rest).take (R.size * count)).drop R.size =
              (R.encodeAll rest).take (R.size * count) := List.drop_left' (R.length_encode r)
          rw [encodeAll_cons, hsize, List.take_length_add_append, decodeAll, hfirst, hlater,
            R.decode_encode, ih hrest, List.take_succ_cons]

/-- Whole records that are taken at a record boundary are the records that stand there. -/
theorem decodeAll_slice {k count : Nat} {records : List α} (hcount : k + count ≤ records.length) :
    R.decodeAll count (((R.encodeAll records).drop (R.size * k)).take (R.size * count)) =
      (records.drop k).take count := by
  rw [R.drop_encodeAll]
  apply R.decodeAll_encodeAll
  rw [List.length_drop]
  omega

end FixedRecord

end Library
end DeviceAndroVM
