import DeviceAndroVM.Library.Strides
import DeviceAndroVM.OpenglCodecCommon.ProgramData

/-!
# The uniform location workaround

Some hosts give each uniform a location that is a multiple of 65536.  The application
then sees consecutive locations, and the table of uniforms translates between the two.
The uniforms of a program are a `StridedLayout` below `2 ^ 31`: host locations are its
addresses, locations of the application its second numbering.

* `getIndexForLocation_eq` — the search for the nearest base.
* `Laid` — the table describes the layout.
* `Resolved` — the stride of a queried element is known.
* `locationWARHostToApp_spec` — a query answers the number of the element and learns the
  stride of its array.
* `locationWARAppToHost_eq` — the way back.
-/

namespace DeviceAndroVM
namespace OpenglCodecCommon

open OpenGL Library

/-! ## Signed words -/

theorem toInt_sub_of_nonneg {a b : GLint} (ha : 0 ≤ a.toInt) (hb : 0 ≤ b.toInt) :
    (a - b).toInt = a.toInt - b.toInt := by
  have hltA := @BitVec.two_mul_toInt_lt 32 a
  have hltB := @BitVec.two_mul_toInt_lt 32 b
  rw [BitVec.toInt_sub]
  apply Int.bmod_eq_of_le <;> omega

theorem toInt_ofNat_of_lt {n : Nat} (h : n < 2 ^ 31) : (BitVec.ofNat 32 n).toInt = n := by
  rw [BitVec.toInt_ofNat']
  apply Int.bmod_eq_of_le <;> omega

theorem toInt_add_of_lt {a b : GLint} {m n : Nat} (ha : a.toInt = m) (hb : b.toInt = n)
    (h : m + n < 2 ^ 31) : (a + b).toInt = (m + n : Nat) := by
  rw [BitVec.toInt_add, ha, hb]
  apply Int.bmod_eq_of_le <;> omega

theorem toInt_mul_of_lt {a b : GLint} {m n : Nat} (ha : a.toInt = m) (hb : b.toInt = n)
    (h : m * n < 2 ^ 31) : (a * b).toInt = (m * n : Nat) := by
  rw [BitVec.toInt_mul, ha, hb, ← Nat.cast_mul]
  apply Int.bmod_eq_of_le <;> omega

theorem toInt_sdiv_of_pos {a b : GLint} {m n : Nat} (ha : a.toInt = (m * n : Nat))
    (hb : b.toInt = m) (hm : 0 < m) : (a.sdiv b).toInt = n := by
  have hne : b ≠ -1#32 := by
    rintro rfl
    simp at hb
  rw [BitVec.toInt_sdiv_of_ne_or_ne _ _ (Or.inr hne), ha, hb, Nat.cast_mul]
  exact Int.mul_tdiv_cancel_left _ (by omega)

/-! ## The nearest base -/

namespace ProgramData

variable {data : ProgramData}

/-- A base that is above the location or farther away does not change the best entry. -/
theorem foldl_nearer_of_far {location : GLint} {entries : List (IndexInfo × Nat)}
    {best : Nat × GLint} (hbest : 0 ≤ best.2.toInt)
    (hfar : ∀ entry ∈ entries, (location - entry.1.base).toInt < 0 ∨
      best.2.toInt < (location - entry.1.base).toInt) :
    entries.foldl (nearer location) best = best := by
  induction entries with
  | nil => rfl
  | cons entry rest ih =>
      have hhead := hfar entry List.mem_cons_self
      have hkept : nearer location best entry = best := by
        unfold nearer
        dsimp only
        rw [if_neg]
        omega
      rw [List.foldl_cons, hkept]
      exact ih fun later hmem => hfar later (List.mem_cons_of_mem _ hmem)

/-- Before the nearest base, no entry is as near as `dist`. -/
theorem foldl_nearer_far {location : GLint} {dist : Int} {entries : List (IndexInfo × Nat)}
    {best : Nat × GLint} (hbest : best.2.toInt < 0 ∨ dist < best.2.toInt)
    (hfar : ∀ entry ∈ entries, (location - entry.1.base).toInt < 0 ∨
      dist < (location - entry.1.base).toInt) :
    (entries.foldl (nearer location) best).2.toInt < 0 ∨
      dist < (entries.foldl (nearer location) best).2.toInt := by
  induction entries generalizing best with
  | nil => exact hbest
  | cons entry rest ih =>
      refine ih ?_ fun later hmem => hfar later (List.mem_cons_of_mem _ hmem)
      have hhead := hfar entry List.mem_cons_self
      unfold nearer
      dsimp only
      split
      · exact hhead
      · exact hbest

/-- The entry between the others is the nearest one. -/
theorem foldl_nearer_split {location : GLint} {before after : List (IndexInfo × Nat)}
    {entry : IndexInfo × Nat} {best : Nat × GLint} (hnone : best.2.toInt < 0)
    (hbelow : 0 ≤ (location - entry.1.base).toInt)
    (hfar : ∀ other ∈ before ++ after, (location - other.1.base).toInt < 0 ∨
      (location - entry.1.base).toInt < (location - other.1.base).toInt) :
    (before ++ entry :: after).foldl (nearer location) best =
      (entry.2, location - entry.1.base) := by
  have hbest := foldl_nearer_far (Or.inl hnone) fun other hmem =>
    hfar other (List.mem_append_left after hmem)
  have hnearest : nearer location (before.foldl (nearer location) best) entry =
      (entry.2, location - entry.1.base) := by
    unfold nearer
    dsimp only
    exact if_pos ⟨hbelow, hbest⟩
  rw [List.foldl_append, List.foldl_cons, hnearest]
  exact foldl_nearer_of_far hbelow fun other hmem => hfar other (List.mem_append_right before hmem)

/-- The entry whose base is the nearest one below the location. -/
theorem getIndexForLocation_eq {location : GLint} {i : Nat} {info : IndexInfo}
    (hinfo : data.indexes[i]? = some info) (hbelow : 0 ≤ (location - info.base).toInt)
    (hfar : ∀ (j : Nat) (other : IndexInfo), j ≠ i → data.indexes[j]? = some other →
      (location - other.base).toInt < 0 ∨
        (location - info.base).toInt < (location - other.base).toInt) :
    data.getIndexForLocation location = i := by
  have hentry : data.indexes.zipIdx[i]? = some (info, i) := by simp [hinfo]
  obtain ⟨hlt, hget⟩ := List.getElem?_eq_some_iff.mp hentry
  have hsplit : data.indexes.zipIdx =
      data.indexes.zipIdx.take i ++ (info, i) :: data.indexes.zipIdx.drop (i + 1) := by
    rw [← hget, ← List.drop_eq_getElem_cons hlt, List.take_append_drop]
  have hothers : ∀ entry ∈ data.indexes.zipIdx.take i ++ data.indexes.zipIdx.drop (i + 1),
      ∃ j, j ≠ i ∧ data.indexes[j]? = some entry.1 := by
    intro entry hmem
    rcases List.mem_append.mp hmem with hmem | hmem
    · obtain ⟨j, hj⟩ := List.getElem?_of_mem hmem
      rw [List.getElem?_take] at hj
      split at hj
      · rename_i hji
        rw [List.getElem?_zipIdx, Option.map_eq_some_iff] at hj
        obtain ⟨other, hother, rfl⟩ := hj
        exact ⟨j, Nat.ne_of_lt hji, hother⟩
      · cases hj
    · obtain ⟨j, hj⟩ := List.getElem?_of_mem hmem
      rw [List.getElem?_drop, List.getElem?_zipIdx, Option.map_eq_some_iff] at hj
      obtain ⟨other, hother, rfl⟩ := hj
      exact ⟨i + 1 + j, by omega, hother⟩
  have hnone : ((data.numIndexes, -1#32) : Nat × GLint).2.toInt < 0 := by
    show (-1#32 : GLint).toInt < 0
    decide
  have hfold := @foldl_nearer_split location _ _ (info, i) _ hnone hbelow fun entry hmem => by
    obtain ⟨j, hne, hj⟩ := hothers entry hmem
    exact hfar j entry.1 hne hj
  unfold getIndexForLocation
  rw [hsplit]
  exact congrArg Prod.fst hfold

end ProgramData

/-! ## The layout of a program -/

/-- The table of uniforms describes the layout, but for the strides. -/
structure Laid (L : StridedLayout (2 ^ 31)) (data : ProgramData) : Prop where
  war : data.locShiftWAR = true
  length : data.indexes.length = L.count
  base : ∀ (i : Nat) (info : IndexInfo), data.indexes[i]? = some info →
    info.base.toInt = (L.base i : Int)
  size : ∀ (i : Nat) (info : IndexInfo), data.indexes[i]? = some info →
    info.size.toInt = (L.size i : Int)
  appBase : ∀ (i : Nat) (info : IndexInfo), data.indexes[i]? = some info →
    info.appBase = BitVec.ofNat 32 (L.offset i)

/-- The table locates element `k` of uniform `i`: its stride is known, or not needed. -/
def Resolved (L : StridedLayout (2 ^ 31)) (data : ProgramData) (i k : Nat) : Prop :=
  ∀ info, data.indexes[i]? = some info → k = 0 ∨ info.hostLocsPerElement.toInt = L.stride i

variable {L : StridedLayout (2 ^ 31)} {data : ProgramData} {i k : Nat} {location : GLint}

theorem Laid.entry (h : Laid L data) (hi : i < L.count) :
    ∃ info, data.indexes[i]? = some info :=
  ⟨_, List.getElem?_eq_getElem (h.length ▸ hi)⟩

/-- The uniform of a host location. -/
theorem Laid.getIndexForLocation (h : Laid L data) (hi : i < L.count) (hk : k < L.size i)
    (hloc : location.toInt = L.address i k) : data.getIndexForLocation location = i := by
  obtain ⟨info, hinfo⟩ := h.entry hi
  have hdist : ∀ j info, data.indexes[j]? = some info →
      (location - info.base).toInt = (L.address i k : Int) - L.base j := by
    intro j info hj
    have hbase := h.base j info hj
    rw [toInt_sub_of_nonneg (by omega) (by omega), hloc, hbase]
  have hown := L.base_le_address i k
  refine ProgramData.getIndexForLocation_eq hinfo ?_ ?_
  · rw [hdist i _ hinfo]
    omega
  · intro j other hne hother
    rw [hdist i _ hinfo, hdist j other hother]
    have hj : j < L.count := h.length ▸ (List.getElem?_eq_some_iff.mp hother).1
    by_cases hle : L.base j ≤ L.address i k
    · have := StridedLayout.base_lt_of_le_address hi hj hk hne hle
      omega
    · omega

/-! ### Learning a stride -/

/-- The table with another stride in one entry. -/
def withStride (data : ProgramData) (i : Nat) (info : IndexInfo) (stride : GLint) : ProgramData :=
  { data with indexes := data.indexes.set i { info with hostLocsPerElement := stride } }

section Stride

variable {info : IndexInfo} {stride : GLint}

/-- The entries are as before, but for the one stride. -/
theorem getElem?_withStride (hinfo : data.indexes[i]? = some info) {j : Nat} {other : IndexInfo}
    (hother : (withStride data i info stride).indexes[j]? = some other) :
    ∃ before, data.indexes[j]? = some before ∧ other.base = before.base ∧
      other.size = before.size ∧ other.appBase = before.appBase ∧
      other.hostLocsPerElement = if j = i then stride else before.hostLocsPerElement := by
  change (data.indexes.set i _)[j]? = some other at hother
  rw [List.getElem?_set] at hother
  split at hother
  · rename_i hij
    subst hij
    split at hother
    · cases hother
      exact ⟨info, hinfo, rfl, rfl, rfl, (if_pos rfl).symm⟩
    · cases hother
  · rename_i hij
    exact ⟨other, hother, rfl, rfl, rfl, (if_neg (Ne.symm hij)).symm⟩

theorem Laid.withStride (h : Laid L data) (hinfo : data.indexes[i]? = some info)
    (stride : GLint) : Laid L (withStride data i info stride) := by
  refine ⟨h.war, (List.length_set ..).trans h.length, ?_, ?_, ?_⟩
  · intro j other hother
    obtain ⟨before, hbefore, heq, -⟩ := getElem?_withStride hinfo hother
    rw [heq]
    exact h.base j before hbefore
  · intro j other hother
    obtain ⟨before, hbefore, -, heq, -⟩ := getElem?_withStride hinfo hother
    rw [heq]
    exact h.size j before hbefore
  · intro j other hother
    obtain ⟨before, hbefore, -, -, heq, -⟩ := getElem?_withStride hinfo hother
    rw [heq]
    exact h.appBase j before hbefore

/-- The stride that is learned, or not needed, locates the element. -/
theorem resolved_withStride_self (hinfo : data.indexes[i]? = some info)
    (hstride : k = 0 ∨ stride.toInt = L.stride i) :
    Resolved L (withStride data i info stride) i k := by
  intro other hother
  obtain ⟨before, hbefore, -, -, -, heq⟩ := getElem?_withStride hinfo hother
  rw [heq, if_pos rfl]
  exact hstride

/-- What was located stays so: the stride is the old one, or right. -/
theorem Resolved.withStride (hinfo : data.indexes[i]? = some info)
    (hstride : stride = info.hostLocsPerElement ∨ stride.toInt = L.stride i) {j l : Nat}
    (h : Resolved L data j l) : Resolved L (withStride data i info stride) j l := by
  intro other hother
  obtain ⟨before, hbefore, -, -, -, heq⟩ := getElem?_withStride hinfo hother
  rw [heq]
  split
  · rename_i hij
    subst hij
    rcases hstride with hold | hright
    · rw [hold]
      exact h info hinfo
    · exact Or.inr hright
  · exact h before hbefore

end Stride

/-- A query of element `k` of uniform `i` answers with its number, and learns the stride
unless that is the first element. -/
theorem Laid.hostToApp_eq (h : Laid L data) (hi : i < L.count) (hk : k < L.size i)
    (hloc : location.toInt = L.address i k) {arrIndex : GLint} (harr : arrIndex.toInt = k) :
    ∃ info stride, data.indexes[i]? = some info ∧
      data.locationWARHostToApp location arrIndex =
        (info.appBase + arrIndex, OpenglCodecCommon.withStride data i info stride) ∧
      (0 < k → stride.toInt = L.stride i) ∧ (k = 0 → stride = info.hostLocsPerElement) := by
  obtain ⟨info, hinfo⟩ := h.entry hi
  have hbase := h.base i info hinfo
  refine ⟨info, if 0 < arrIndex.toInt then (location - info.base).sdiv arrIndex
    else info.hostLocsPerElement, hinfo, ?_, ?_, ?_⟩
  · unfold ProgramData.locationWARHostToApp OpenglCodecCommon.withStride
    dsimp only
    rw [h.getIndexForLocation hi hk hloc, hinfo, h.war]
    rfl
  · intro hpos
    rw [if_pos (by omega)]
    refine toInt_sdiv_of_pos ?_ harr hpos
    rw [toInt_sub_of_nonneg (by omega) (by omega), hloc, hbase, StridedLayout.address]
    push_cast
    omega
  · intro hzero
    rw [if_neg (by omega)]

/-- A query of element `k` of uniform `i`. -/
theorem locationWARHostToApp_spec (h : Laid L data) (hi : i < L.count) (hk : k < L.size i)
    (hloc : location.toInt = L.address i k) {arrIndex : GLint} (harr : arrIndex.toInt = k) :
    (data.locationWARHostToApp location arrIndex).1.toInt = (L.offset i + k : Nat) ∧
      Laid L (data.locationWARHostToApp location arrIndex).2 ∧
      Resolved L (data.locationWARHostToApp location arrIndex).2 i k ∧
      ∀ j l, Resolved L data j l →
        Resolved L (data.locationWARHostToApp location arrIndex).2 j l := by
  obtain ⟨info, stride, hinfo, hanswer, hlearned, hkept⟩ := h.hostToApp_eq hi hk hloc harr
  have hlt := StridedLayout.offset_add_lt hi hk
  have happ : info.appBase.toInt = L.offset i := by
    rw [h.appBase i info hinfo]
    exact toInt_ofNat_of_lt (by omega)
  rw [hanswer]
  refine ⟨toInt_add_of_lt happ harr hlt, h.withStride hinfo stride, ?_, ?_⟩
  · exact resolved_withStride_self hinfo (k.eq_zero_or_pos.imp_right hlearned)
  · intro j l hresolved
    exact hresolved.withStride hinfo (k.eq_zero_or_pos.imp hkept hlearned)

/-- The entry that covers a location of the application. -/
theorem Laid.covers_iff (h : Laid L data) (hi : i < L.count) (hk : k < L.size i)
    (hloc : location.toInt = (L.offset i + k : Nat)) {j : Nat} {info : IndexInfo} (hji : j ≤ i)
    (hj : data.indexes[j]? = some info) :
    (location - info.appBase).toInt = (L.offset i + k - L.offset j : Nat) ∧
      (info.covers location = true ↔ L.offset i + k < L.offset j + L.size j) := by
  have hlt := StridedLayout.offset_add_lt hi hk
  have hmono : L.offset j ≤ L.offset i := StridedLayout.offset_mono hji
  have happ : info.appBase.toInt = L.offset j := by
    rw [h.appBase j info hj]
    exact toInt_ofNat_of_lt (by omega)
  have hsize := h.size j info hj
  have hsub : (location - info.appBase).toInt = (L.offset i + k - L.offset j : Nat) := by
    rw [toInt_sub_of_nonneg (by omega) (by omega), hloc, happ]
    omega
  refine ⟨hsub, ?_⟩
  unfold IndexInfo.covers
  rw [hsub, hsize, decide_eq_true_iff]
  omega

/-- The host location of a resolved element. -/
theorem locationWARAppToHost_eq (h : Laid L data) (hi : i < L.count) (hk : k < L.size i)
    (hresolved : Resolved L data i k) (hloc : location.toInt = (L.offset i + k : Nat)) :
    (data.locationWARAppToHost location).toInt = L.address i k := by
  have hlen : i < data.indexes.length := h.length ▸ hi
  have hinfo : data.indexes[i]? = some data.indexes[i] := List.getElem?_eq_getElem hlen
  obtain ⟨hsub, hcovers⟩ := h.covers_iff hi hk hloc (Nat.le_refl i) hinfo
  have hfind : data.indexes.find? (fun info => info.covers location) = some data.indexes[i] := by
    refine List.find?_eq_some_iff_getElem.mpr ⟨hcovers.mpr (by omega), i, hlen, rfl, ?_⟩
    intro j hj
    have hbefore : data.indexes[j]? = some data.indexes[j] := List.getElem?_eq_getElem _
    have hskip := (h.covers_iff hi hk hloc (Nat.le_of_lt hj) hbefore).2
    have hend : L.offset j + L.size j ≤ L.offset i := StridedLayout.offset_add_size_le hj
    rw [Bool.not_eq_true', Bool.eq_false_iff]
    intro hcovered
    have := hskip.mp hcovered
    omega
  have hbase := h.base i _ hinfo
  have hlimit : L.address i k < 2 ^ 31 := StridedLayout.address_lt_limit hi hk
  have helem : (location - data.indexes[i].appBase).toInt = k := by
    rw [hsub]
    omega
  have hmul : ((location - data.indexes[i].appBase) * data.indexes[i].hostLocsPerElement).toInt =
      (k * L.stride i : Nat) := by
    rcases hresolved _ hinfo with hzero | hstride
    · rw [BitVec.toInt_mul, helem, hzero]
      simp
    · exact toInt_mul_of_lt helem hstride
        (Nat.lt_of_le_of_lt (Nat.le_add_left _ (L.base i)) hlimit)
  unfold ProgramData.locationWARAppToHost
  rw [h.war, hfind]
  exact toInt_add_of_lt hbase hmul hlimit

end OpenglCodecCommon
end DeviceAndroVM
