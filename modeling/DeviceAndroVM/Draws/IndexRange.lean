import DeviceAndroVM.GLESv2Enc.Buffers
import DeviceAndroVM.Library.Chunks

/-!
# The range of an index list

What `GLUtils::minmax` finds in a list of indices, and what is read from the list
after `GLUtils::shiftIndices`.

* `readIndex_of_bytes` — an index written byte by byte is read back.
* `minmax_range` — the least and the greatest index, for a list that is not empty.
* `readIndex_shiftIndices` — every index of the shifted list.
-/

namespace DeviceAndroVM
namespace GLESv2Enc
namespace GLUtils

open OpenGL Library OpenglCodecCommon

variable {width : Nat} {indices : Nat → UInt8}

/-! ## Reading and writing one index -/

theorem foldr_digits (value start count : Nat) :
    (List.range' start count).foldr (fun k high => value / 256 ^ k % 256 + 256 * high) 0 =
      value / 256 ^ start % 256 ^ count := by
  induction count generalizing start with
  | zero => simp [Nat.mod_one]
  | succ count ih =>
      rw [List.range'_succ, List.foldr_cons, ih, Nat.pow_succ, Nat.pow_succ,
        Nat.mul_comm (256 ^ count) 256, Nat.mod_mul, Nat.div_div_eq_div_mul]

theorem readIndex_of_bytes {value i : Nat} (hvalue : value < 256 ^ width)
    (hbytes : ∀ k < width, indices (width * i + k) = UInt8.ofNat (value / 256 ^ k)) :
    readIndex width indices i = value := by
  have hdigits : readIndex width indices i =
      (List.range' 0 width).foldr (fun k high => value / 256 ^ k % 256 + 256 * high) 0 := by
    unfold readIndex
    rw [List.range_eq_range']
    apply List.foldr_ext
    intro k hk high
    have hlt : k < width := by simpa using hk
    rw [hbytes k hlt, UInt8.toNat_ofNat']
  rw [hdigits, foldr_digits, Nat.pow_zero, Nat.div_one, Nat.mod_eq_of_lt hvalue]

theorem foldr_bytes_lt (b : Nat → UInt8) (start count : Nat) :
    (List.range' start count).foldr (fun k high => (b k).toNat + 256 * high) 0 < 256 ^ count := by
  induction count generalizing start with
  | zero => simp
  | succ count ih =>
      have hlow := (b start).toNat_lt
      have hhigh := ih (start + 1)
      rw [List.range'_succ, List.foldr_cons, Nat.pow_succ]
      omega

theorem readIndex_lt (i : Nat) : readIndex width indices i < 256 ^ width := by
  unfold readIndex
  rw [List.range_eq_range']
  exact foldr_bytes_lt (fun k => indices (width * i + k)) 0 width

/-! ## Least and greatest -/

/-- One turn of the loop of `minmax`. -/
theorem minmax_succ (count : Nat) :
    minmax width indices (count + 1) =
      (if (minmax width indices count).1 = -1 ∨
          (readIndex width indices count : Int) < (minmax width indices count).1
        then (readIndex width indices count : Int) else (minmax width indices count).1,
        if (minmax width indices count).2 = -1 ∨
          (minmax width indices count).2 < (readIndex width indices count : Int)
        then (readIndex width indices count : Int) else (minmax width indices count).2) := by
  unfold minmax
  rw [List.range_succ, List.foldl_append]
  rfl

@[simp] theorem minmax_zero : minmax width indices 0 = (-1, -1) := rfl

/-- `least` and `greatest` are indices of the list, and bound all of them. -/
structure IndexRange (width : Nat) (indices : Nat → UInt8) (count least greatest : Nat) :
    Prop where
  least_mem : ∃ p < count, readIndex width indices p = least
  greatest_mem : ∃ p < count, readIndex width indices p = greatest
  least_le : ∀ p < count, least ≤ readIndex width indices p
  le_greatest : ∀ p < count, readIndex width indices p ≤ greatest

/-- A list that is not empty has a range, and `minmax` returns it. -/
theorem minmax_range {count : Nat} (hcount : 0 < count) :
    ∃ least greatest, IndexRange width indices count least greatest ∧
      minmax width indices count = ((least : Int), (greatest : Int)) := by
  induction count with
  | zero => omega
  | succ count ih =>
      rcases Nat.eq_zero_or_pos count with rfl | hpos
      · refine ⟨readIndex width indices 0, readIndex width indices 0, ⟨⟨0, by omega, rfl⟩,
          ⟨0, by omega, rfl⟩, ?_, ?_⟩, ?_⟩
        · intro p hp
          rw [show p = 0 by omega]
        · intro p hp
          rw [show p = 0 by omega]
        · rw [minmax_succ, minmax_zero]
          simp
      · obtain ⟨least, greatest, hrange, hfound⟩ := ih hpos
        obtain ⟨low, hlow, hlowest⟩ := hrange.least_mem
        obtain ⟨high, hhigh, hhighest⟩ := hrange.greatest_mem
        refine ⟨min least (readIndex width indices count),
          max greatest (readIndex width indices count), ⟨?_, ?_, ?_, ?_⟩, ?_⟩
        · rcases Nat.le_total least (readIndex width indices count) with hle | hle
          · exact ⟨low, by omega, by omega⟩
          · exact ⟨count, by omega, by omega⟩
        · rcases Nat.le_total greatest (readIndex width indices count) with hle | hle
          · exact ⟨count, by omega, by omega⟩
          · exact ⟨high, by omega, by omega⟩
        · intro p hp
          rcases Nat.lt_succ_iff_lt_or_eq.mp hp with hlt | rfl
          · have := hrange.least_le p hlt
            omega
          · omega
        · intro p hp
          rcases Nat.lt_succ_iff_lt_or_eq.mp hp with hlt | rfl
          · have := hrange.le_greatest p hlt
            omega
          · omega
        · rw [minmax_succ, hfound]
          dsimp only
          congr 1
          · split <;> omega
          · split <;> omega

/-! ## The shifted list -/

/-- The bytes of a list as memory, nothing being behind them. -/
def memoryOf (bytes : List UInt8) (i : Nat) : UInt8 := bytes.getD i 0

theorem length_indexBytes (value : Nat) : (indexBytes width value).length = width := by
  simp [indexBytes]

/-- Index `p` of the shifted list. -/
theorem readIndex_shiftIndices {count p : Nat} (offset : Int) (hp : p < count) :
    readIndex width (memoryOf (shiftIndices width indices count offset)) p =
      ((readIndex width indices p + offset) % 256 ^ width).toNat := by
  have hbase : (256 : Int) ^ width = ((256 ^ width : Nat) : Int) := by
    push_cast
    rfl
  have hpos : 0 < 256 ^ width := Nat.pow_pos (by decide)
  apply readIndex_of_bytes
  · rw [hbase]
    have hnonneg : (0 : Int) ≤ (readIndex width indices p + offset) % ((256 ^ width : Nat) : Int) :=
      Int.emod_nonneg _ (by omega)
    have hlt : (readIndex width indices p + offset) % ((256 ^ width : Nat) : Int) <
        ((256 ^ width : Nat) : Int) := Int.emod_lt_of_pos _ (by omega)
    omega
  · intro k hk
    have hsize : ∀ i, (indexBytes width
        ((readIndex width indices i + offset) % 256 ^ width).toNat).length = width :=
      fun i => length_indexBytes _
    have hentry := getElem?_pieces hsize hp hk
    unfold memoryOf
    rw [List.getD_eq_getElem?_getD, Nat.mul_comm width p]
    rw [show shiftIndices width indices count offset = pieces _ count from rfl, hentry]
    simp [indexBytes, hk]

end GLUtils
end GLESv2Enc
end DeviceAndroVM
