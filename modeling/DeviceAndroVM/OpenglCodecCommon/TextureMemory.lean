import DeviceAndroVM.OpenglCodecCommon.TextureRuns

/-!
# The memory of the texture table

`addTextureRec` doubles the capacity of a full table and takes care that the number of records
does not wrap around.  What it passes to `realloc` is the product of that number and the eight
bytes of a record, in 32 bits.

* `TextureMemory` — the state with the bytes that its array has been given.
* `Outcome` — what a call can do to the array.
* `Grows` — the array has room for what is written.
* `grows_iff` — it has as long as no full table of `2^28` records is to grow.
* `always_counted` — the number of records never gets over the capacity.
-/

namespace DeviceAndroVM
namespace OpenglCodecCommon

open OpenGL Library TextureState

namespace TextureState

/-- The call `bindTexture` gets to `addTextureRec`: the search has not found the name. -/
def Misses (tex : TextureState) (texture : GLuint) : Prop :=
  texture ≠ 0#32 ∧ (tex.findTexture texture).bind (tex.textures[·]?) = none

instance (tex : TextureState) (texture : GLuint) : Decidable (tex.Misses texture) :=
  inferInstanceAs (Decidable (_ ∧ _))

/-- The capacity for which `addTextureRec` asks `realloc` during the call. -/
def requested (tex : TextureState) : TextureCall → Option GLuint
  | .bindTexture _ _ texture =>
      if tex.Misses texture ∧ tex.numTextures = tex.allocTextures then newAlloc tex.allocTextures
      else none
  | _ => none

/-- The capacity behind the test at the begin of `addTextureRec`, if it has not failed. -/
def capacityAfter (realloc : BitVec 32 → Bool) (tex : TextureState) : Option GLuint :=
  if tex.numTextures = tex.allocTextures then
    (newAlloc tex.allocTextures).filter fun alloc => realloc (alloc * 8#32)
  else some tex.allocTextures

theorem addTextureRec_eq (realloc : BitVec 32 → Bool) (tex : TextureState) (id : GLuint)
    (target : GLenum) :
    addTextureRec realloc tex id target = (capacityAfter realloc tex).map fun alloc =>
      (⟨id, target⟩,
        { tex with textures := insertRec ⟨id, target⟩ tex.textures, allocTextures := alloc }) := by
  unfold addTextureRec capacityAfter
  split_ifs with hfull
  · cases newAlloc tex.allocTextures with
    | none => rfl
    | some alloc =>
        rw [Option.filter_some]
        dsimp only
        split_ifs <;> rfl
  · rfl

/-- A name that is found leaves the table as it is. -/
theorem bindTexture_hit {tex : TextureState} {texture : GLuint} (h : ¬tex.Misses texture)
    (realloc : BitVec 32 → Bool) (target : GLenum) :
    (tex.bindTexture realloc target texture).2.textures = tex.textures ∧
      (tex.bindTexture realloc target texture).2.allocTextures = tex.allocTextures := by
  unfold TextureState.bindTexture
  by_cases hzero : texture = 0#32
  · simp [hzero]
  · cases hsearch : (tex.findTexture texture).bind (tex.textures[·]?) with
    | none => exact absurd ⟨hzero, hsearch⟩ h
    | some r =>
        rw [if_neg hzero]
        dsimp only
        split_ifs <;> simp

/-- A name that is not found gets a record, unless there is no memory. -/
theorem bindTexture_miss {tex : TextureState} {texture : GLuint} (h : tex.Misses texture)
    (realloc : BitVec 32 → Bool) (target : GLenum) :
    ((tex.bindTexture realloc target texture).2.textures,
        (tex.bindTexture realloc target texture).2.allocTextures) =
      match capacityAfter realloc tex with
      | none => (tex.textures, tex.allocTextures)
      | some alloc => (insertRec ⟨texture, target⟩ tex.textures, alloc) := by
  unfold TextureState.bindTexture
  rw [if_neg h.1, h.2, addTextureRec_eq]
  cases capacityAfter realloc tex with
  | none => rfl
  | some alloc => simp

theorem length_deleteTextures_le (tex : TextureState) (textures : List GLuint) :
    (tex.deleteTextures textures).textures.length ≤ tex.textures.length := by
  induction textures generalizing tex with
  | nil => exact le_rfl
  | cons id rest ih =>
      refine (ih (tex.deleteTexture id)).trans ?_
      unfold deleteTexture
      split
      · exact le_rfl
      · exact List.length_eraseIdx_le _ _

/-- Only a full table is to grow. -/
theorem requested_eq_some {tex : TextureState} {call : TextureCall} {alloc : GLuint}
    (h : tex.requested call = some alloc) :
    tex.numTextures = tex.allocTextures ∧ newAlloc tex.allocTextures = some alloc := by
  cases call with
  | bindTexture realloc target texture =>
      by_cases hfull : tex.Misses texture ∧ tex.numTextures = tex.allocTextures
      · exact ⟨hfull.2, (if_pos hfull).symm.trans h⟩
      · cases (if_neg hfull).symm.trans h
  | setActiveTextureUnit texture => cases h
  | deleteTextures textures => cases h

end TextureState

/-! ## The array and its memory -/

/-- The state, and the bytes of the array that `realloc` has given last. -/
structure TextureMemory where
  tex : TextureState
  block : Nat

namespace TextureMemory

/-- The constructor's empty table, which has no array. -/
def init : TextureMemory := ⟨TextureState.init, 0⟩

/-- The bytes of the array after the call. -/
def blockAfter (m : TextureMemory) (call : TextureCall) : Nat :=
  match call, m.tex.requested call with
  | .bindTexture realloc _ _, some alloc =>
      if realloc (alloc * 8#32) then (alloc * 8#32).toNat else m.block
  | _, _ => m.block

/-- One call. -/
def apply (m : TextureMemory) (call : TextureCall) : TextureMemory :=
  ⟨call.apply m.tex, m.blockAfter call⟩

/-- What a call does to the array. -/
inductive Outcome (m : TextureMemory) (call : TextureCall) : TextureMemory → Prop
  | kept {tex : TextureState} (hrequested : m.tex.requested call = none)
      (hlength : tex.textures.length ≤ m.tex.textures.length)
      (halloc : tex.allocTextures = m.tex.allocTextures) : Outcome m call ⟨tex, m.block⟩
  | inserted {tex : TextureState} (hrequested : m.tex.requested call = none)
      (hroom : m.tex.numTextures ≠ m.tex.allocTextures)
      (hlength : tex.textures.length = m.tex.textures.length + 1)
      (halloc : tex.allocTextures = m.tex.allocTextures) : Outcome m call ⟨tex, m.block⟩
  | refused {tex : TextureState} {alloc : GLuint} (hrequested : m.tex.requested call = some alloc)
      (hlength : tex.textures.length = m.tex.textures.length)
      (halloc : tex.allocTextures = m.tex.allocTextures) : Outcome m call ⟨tex, m.block⟩
  | grown {tex : TextureState} {alloc : GLuint} (hrequested : m.tex.requested call = some alloc)
      (hlength : tex.textures.length = m.tex.textures.length + 1)
      (halloc : tex.allocTextures = alloc) : Outcome m call ⟨tex, (alloc * 8#32).toNat⟩

theorem bindTexture_outcome (m : TextureMemory) (realloc : BitVec 32 → Bool) (target : GLenum)
    (texture : GLuint) :
    Outcome m (.bindTexture realloc target texture)
      (m.apply (.bindTexture realloc target texture)) := by
  unfold apply blockAfter
  by_cases hmiss : m.tex.Misses texture
  · have htable := bindTexture_miss hmiss realloc target
    by_cases hfull : m.tex.numTextures = m.tex.allocTextures
    · have hrequested : m.tex.requested (.bindTexture realloc target texture) =
          newAlloc m.tex.allocTextures := if_pos ⟨hmiss, hfull⟩
      rw [capacityAfter, if_pos hfull] at htable
      cases halloc : newAlloc m.tex.allocTextures with
      | none =>
          rw [halloc] at hrequested htable
          rw [hrequested]
          obtain ⟨htextures, hsame⟩ := Prod.mk.inj htable
          exact .kept hrequested (congrArg List.length htextures).le hsame
      | some alloc =>
          rw [halloc] at hrequested htable
          rw [hrequested]
          dsimp only
          by_cases hgrant : realloc (alloc * 8#32) = true
          · rw [Option.filter_some, if_pos hgrant] at htable
            rw [if_pos hgrant]
            obtain ⟨htextures, hgrown⟩ := Prod.mk.inj htable
            refine .grown hrequested ?_ hgrown
            rw [TextureCall.apply, htextures, length_insertRec]
          · rw [Option.filter_some, if_neg hgrant] at htable
            rw [if_neg hgrant]
            obtain ⟨htextures, hsame⟩ := Prod.mk.inj htable
            exact .refused hrequested (congrArg List.length htextures) hsame
    · have hrequested : m.tex.requested (.bindTexture realloc target texture) = none :=
        if_neg fun h => hfull h.2
      rw [capacityAfter, if_neg hfull] at htable
      rw [hrequested]
      obtain ⟨htextures, hsame⟩ := Prod.mk.inj htable
      refine .inserted hrequested hfull ?_ hsame
      rw [TextureCall.apply, htextures, length_insertRec]
  · have hrequested : m.tex.requested (.bindTexture realloc target texture) = none :=
      if_neg fun h => hmiss h.1
    obtain ⟨htextures, hsame⟩ := bindTexture_hit hmiss realloc target
    rw [hrequested]
    exact .kept hrequested (congrArg List.length htextures).le hsame

theorem apply_outcome (m : TextureMemory) (call : TextureCall) : Outcome m call (m.apply call) := by
  cases call with
  | setActiveTextureUnit texture =>
      refine .kept rfl (congrArg List.length ?_).le ?_
      · exact setActiveTextureUnit_textures m.tex texture
      · rcases setActiveTextureUnit_cases m.tex texture with ⟨heq, -⟩ | ⟨unit, -, heq⟩ <;>
          rw [TextureCall.apply, heq]
  | bindTexture realloc target texture => exact bindTexture_outcome m realloc target texture
  | deleteTextures textures =>
      exact .kept rfl (length_deleteTextures_le m.tex textures)
        (deleteTextures_allocTextures m.tex textures)

/-! ## What a call should keep -/

/-- Around a call: the records are counted right and are not more than the array is to hold, the
array only gets larger, `realloc` is asked for all the bytes of a larger one, and every record
lies in the memory that it has given. -/
structure Grows (m : TextureMemory) (call : TextureCall) (m' : TextureMemory) : Prop where
  counted : m'.tex.numTextures.toNat = m'.tex.textures.length
  fits : m'.tex.numTextures ≤ m'.tex.allocTextures
  larger : m'.tex.allocTextures ≠ m.tex.allocTextures →
    m.tex.allocTextures < m'.tex.allocTextures
  asked : ∀ alloc, m.tex.requested call = some alloc →
    m.tex.allocTextures < alloc ∧ 8 * alloc.toNat ≤ (alloc * 8#32).toNat
  inside : ∀ i < m'.tex.textures.length, 8 * i + 8 ≤ m'.block

/-- A table that is to grow has fewer than `2^28` records. -/
def GrowsSmall (m : TextureMemory) (call : TextureCall) : Prop :=
  m.tex.requested call ≠ none → m.tex.allocTextures.toNat < 2 ^ 28

/-- The records are not more than the array is to hold. -/
def Counted (m : TextureMemory) : Prop := m.tex.textures.length ≤ m.tex.allocTextures.toNat

theorem Counted.toNat_numTextures {m : TextureMemory} (h : Counted m) :
    m.tex.numTextures.toNat = m.tex.textures.length := by
  have hlt := m.tex.allocTextures.isLt
  unfold Counted at h
  rw [numTextures, BitVec.toNat_ofNat, Nat.mod_eq_of_lt (by omega)]

/-- The capacity is 0 or one of the powers of two from 4 to `2^28`, and the array has all the
bytes for it. -/
structure Sized (m : TextureMemory) : Prop where
  counted : Counted m
  capacity : m.tex.allocTextures.toNat = 0 ∨
    ∃ k, 2 ≤ k ∧ k ≤ 28 ∧ m.tex.allocTextures.toNat = 2 ^ k
  block : m.block = 8 * m.tex.allocTextures.toNat

theorem init_counted : Counted init := Nat.zero_le _

theorem init_sized : Sized init where
  counted := init_counted
  capacity := Or.inl rfl
  block := rfl

/-- A call never writes more records than the array is to hold, whatever `realloc` has been asked
for. -/
theorem Counted.apply {m : TextureMemory} (h : Counted m) (call : TextureCall) :
    Counted (m.apply call) ∧ ((m.apply call).tex.allocTextures ≠ m.tex.allocTextures →
      m.tex.allocTextures < (m.apply call).tex.allocTextures) := by
  have houtcome := m.apply_outcome call
  generalize m.apply call = m' at houtcome
  unfold Counted at h ⊢
  cases houtcome with
  | kept hrequested hlength halloc =>
      refine ⟨?_, fun hne => absurd halloc hne⟩
      rw [halloc]
      exact hlength.trans h
  | inserted hrequested hroom hlength halloc =>
      refine ⟨?_, fun hne => absurd halloc hne⟩
      have hne : m.tex.textures.length ≠ m.tex.allocTextures.toNat := by
        intro heq
        exact hroom (BitVec.eq_of_toNat_eq (by rw [Counted.toNat_numTextures h, heq]))
      rw [halloc]
      dsimp only
      omega
  | refused hrequested hlength halloc =>
      refine ⟨?_, fun hne => absurd halloc hne⟩
      rw [halloc]
      exact hlength.le.trans h
  | grown hrequested hlength halloc =>
      obtain ⟨-, hnew⟩ := requested_eq_some hrequested
      have hgt := newAlloc_gt hnew
      subst halloc
      refine ⟨?_, fun _ => BitVec.lt_def.mpr hgt⟩
      dsimp only
      omega

/-! ## The product -/

theorem toNat_mul_eight (alloc : GLuint) : (alloc * 8#32).toNat = 8 * alloc.toNat % 2 ^ 32 := by
  rw [BitVec.toNat_mul, show (8#32 : GLuint).toNat = 8 from rfl, Nat.mul_comm]

/-- From 0 the capacity gets to 4, and from a power of two it is doubled. -/
theorem toNat_newAlloc {a b : GLuint}
    (hcapacity : a.toNat = 0 ∨ ∃ k, 2 ≤ k ∧ k ≤ 28 ∧ a.toNat = 2 ^ k)
    (h : newAlloc a = some b) :
    a.toNat = 0 ∧ b.toNat = 2 ^ 2 ∨
      ∃ k, 2 ≤ k ∧ k ≤ 28 ∧ a.toNat = 2 ^ k ∧ b.toNat = 2 ^ (k + 1) := by
  rcases hcapacity with hzero | ⟨k, hlow, hhigh, ha⟩
  · obtain rfl : a = 0#32 := BitVec.eq_of_toNat_eq hzero
    obtain rfl : (4#32 : GLuint) = b := Option.some.inj h
    exact Or.inl ⟨rfl, rfl⟩
  · have hfour : 2 ^ 2 ≤ 2 ^ k := Nat.pow_le_pow_right (by decide) hlow
    have hbound : 2 ^ k ≤ 2 ^ 28 := Nat.pow_le_pow_right (by decide) hhigh
    have hdouble : newAlloc a = some (2#32 * a) := by
      unfold newAlloc
      rw [if_pos (by bv_omega), if_pos (by bv_omega)]
    obtain rfl := Option.some.inj (hdouble.symm.trans h)
    refine Or.inr ⟨k, hlow, hhigh, ha, ?_⟩
    rw [Nat.pow_succ, ← ha, BitVec.toNat_mul, show (2#32 : GLuint).toNat = 2 from rfl]
    omega

/-- A table of fewer than `2^28` records gets the bytes that it needs, and the next capacity is a
power of two again. -/
theorem Sized.grow {m : TextureMemory} (h : Sized m) {call : TextureCall} {alloc : GLuint}
    (hrequested : m.tex.requested call = some alloc)
    (hsmall : m.tex.allocTextures.toNat < 2 ^ 28) :
    (alloc * 8#32).toNat = 8 * alloc.toNat ∧
      ∃ k, 2 ≤ k ∧ k ≤ 28 ∧ alloc.toNat = 2 ^ k := by
  obtain ⟨-, hnew⟩ := requested_eq_some hrequested
  rw [toNat_mul_eight]
  rcases toNat_newAlloc h.capacity hnew with ⟨-, halloc⟩ | ⟨k, hlow, -, hold, halloc⟩
  · exact ⟨by omega, 2, le_rfl, by decide, halloc⟩
  · rw [hold] at hsmall
    have hk : k < 28 := (Nat.pow_lt_pow_iff_right (by decide)).mp hsmall
    rw [Nat.pow_succ] at halloc
    exact ⟨by omega, k + 1, by omega, hk, by rw [halloc, Nat.pow_succ]⟩

/-- A call that keeps the array keeps its size. -/
theorem Sized.of_same_array {m : TextureMemory} (h : Sized m) {tex : TextureState}
    (halloc : tex.allocTextures = m.tex.allocTextures) (hcounted : Counted ⟨tex, m.block⟩) :
    Sized ⟨tex, m.block⟩ := by
  refine ⟨hcounted, ?_, ?_⟩
  · rw [halloc]
    exact h.capacity
  · rw [halloc]
    exact h.block

theorem Sized.apply {m : TextureMemory} (h : Sized m) {call : TextureCall}
    (hsmall : m.GrowsSmall call) : Sized (m.apply call) := by
  have hcounted := (h.counted.apply call).1
  have houtcome := m.apply_outcome call
  generalize m.apply call = m' at hcounted houtcome
  cases houtcome with
  | kept hrequested hlength halloc => exact h.of_same_array halloc hcounted
  | inserted hrequested hroom hlength halloc => exact h.of_same_array halloc hcounted
  | refused hrequested hlength halloc => exact h.of_same_array halloc hcounted
  | grown hrequested hlength halloc =>
      subst halloc
      obtain ⟨hbytes, hcapacity⟩ := h.grow hrequested (hsmall (by rw [hrequested]; simp))
      exact ⟨hcounted, Or.inr hcapacity, hbytes⟩

/-- Around one call the array grows as it should just when it is not one of `2^28` records. -/
theorem Sized.grows_iff_growsSmall {m : TextureMemory} (h : Sized m) (call : TextureCall) :
    Grows m call (m.apply call) ↔ m.GrowsSmall call := by
  constructor
  · intro hgrows hne
    obtain ⟨alloc, hrequested⟩ := Option.ne_none_iff_exists'.mp hne
    obtain ⟨-, hbytes⟩ := hgrows.asked alloc hrequested
    have hlt := (alloc * 8#32).isLt
    obtain ⟨-, hnew⟩ := requested_eq_some hrequested
    -- the bytes of twice the capacity fit into a word
    rcases toNat_newAlloc h.capacity hnew with ⟨hold, -⟩ | ⟨k, -, -, hold, halloc⟩
    · omega
    · rw [Nat.pow_succ] at halloc
      omega
  · intro hsmall
    obtain ⟨hcounted, hlarger⟩ := h.counted.apply call
    have hsized := h.apply hsmall
    refine ⟨hcounted.toNat_numTextures, ?_, hlarger, ?_, ?_⟩
    · rw [BitVec.le_def, hcounted.toNat_numTextures]
      exact hcounted
    · intro alloc hrequested
      obtain ⟨-, hnew⟩ := requested_eq_some hrequested
      obtain ⟨hbytes, -⟩ := h.grow hrequested (hsmall (by rw [hrequested]; simp))
      exact ⟨BitVec.lt_def.mpr (newAlloc_gt hnew), hbytes.ge⟩
    · intro i hi
      have hroom : (m.apply call).tex.textures.length ≤ _ := hcounted
      rw [hsized.block]
      omega

/-! ## Runs -/

/-- In every run the table counts its records right and its capacity never gets smaller. -/
theorem always_counted (calls : List TextureCall) :
    EachStep (fun m _ m' => Counted m' ∧ (m'.tex.allocTextures ≠ m.tex.allocTextures →
      m.tex.allocTextures < m'.tex.allocTextures)) init (traceOf apply init calls) := by
  refine (run_traceOf apply init calls).eachStep ?_ ?_ init_counted
  · rintro m call m' h rfl
    exact (Counted.apply h call).1
  · rintro m call m' h rfl
    exact Counted.apply h call

/-- A run of any calls, with any answers of the allocator, keeps the table in its memory if and
only if no table of `2^28` records is to grow: the next capacity has `2^32` bytes. -/
theorem grows_iff (calls : List TextureCall) :
    EachStep Grows init (traceOf apply init calls) ↔
      EachStep (fun m call _ => GrowsSmall m call) init (traceOf apply init calls) := by
  refine (run_traceOf apply init calls).eachStep_iff_eachStep ?_ ?_ init_sized
  · rintro m call m' h hsmall rfl
    exact Sized.apply h hsmall
  · rintro m call m' h rfl
    exact Sized.grows_iff_growsSmall h call

/-! ## New names -/

theorem Sized.capacity_le {m : TextureMemory} (h : Sized m) :
    m.tex.allocTextures.toNat ≤ 2 ^ 28 := by
  rcases h.capacity with hzero | ⟨k, -, hhigh, hk⟩
  · omega
  · rw [hk]
    exact Nat.pow_le_pow_right (by decide) hhigh

/-- The next of the names 1, 2 and so on, with an allocator that grants everything. -/
def bindNext (i : Nat) : TextureCall :=
  .bindTexture (fun _ => true) GL_TEXTURE_2D (BitVec.ofNat 32 (i + 1))

/-- The table holds the names from 1 to `i`. -/
structure HoldsNames (m : TextureMemory) (i : Nat) : Prop where
  length : m.tex.textures.length = i
  le : ∀ r ∈ m.tex.textures, r.id.toNat ≤ i

/-- A new name gets a record. -/
theorem HoldsNames.bindNext {m : TextureMemory} {i : Nat} (h : m.HoldsNames i) (hsized : Sized m)
    (hi : i + 1 < 2 ^ 32) : (m.apply (bindNext i)).HoldsNames (i + 1) := by
  have hname : (BitVec.ofNat 32 (i + 1)).toNat = i + 1 := by
    rw [BitVec.toNat_ofNat, Nat.mod_eq_of_lt hi]
  have hmiss : m.tex.Misses (BitVec.ofNat 32 (i + 1)) := by
    constructor
    · intro hzero
      rw [hzero] at hname
      cases hname
    · rw [findTexture_eq_none, Option.bind_none]
      intro r hr heq
      have hle := h.le r hr
      rw [heq, hname] at hle
      omega
  obtain ⟨alloc, halloc⟩ : ∃ alloc, capacityAfter (fun _ => true) m.tex = some alloc := by
    unfold capacityAfter
    split
    · cases hnew : newAlloc m.tex.allocTextures with
      | none =>
          have hmax := hsized.capacity_le
          rw [newAlloc_eq_none hnew] at hmax
          exact absurd hmax (by decide)
      | some alloc => exact ⟨alloc, rfl⟩
    · exact ⟨_, rfl⟩
  have htable := bindTexture_miss hmiss (fun _ => true) GL_TEXTURE_2D
  rw [halloc] at htable
  have htextures : (m.apply (TextureMemory.bindNext i)).tex.textures =
      insertRec ⟨BitVec.ofNat 32 (i + 1), GL_TEXTURE_2D⟩ m.tex.textures :=
    (Prod.mk.inj htable).1
  constructor
  · rw [htextures, length_insertRec, h.length]
  · intro r hr
    rw [htextures] at hr
    rcases mem_insertRec.mp hr with rfl | hold
    · exact hname.le
    · exact (h.le r hold).trans (Nat.le_succ i)

/-- As long as the array grows as it should it has no more than `2^28` records. -/
theorem HoldsNames.add_le {m : TextureMemory} {i n : Nat} (h : m.HoldsNames i) (hsized : Sized m)
    (hn : i + n < 2 ^ 32)
    (hgrows : EachStep Grows m (traceOf apply m ((List.range' i n).map TextureMemory.bindNext))) :
    i + n ≤ 2 ^ 28 := by
  induction n generalizing m i with
  | zero =>
      have hfits : m.tex.textures.length ≤ _ := hsized.counted
      rw [h.length] at hfits
      exact hfits.trans hsized.capacity_le
  | succ n ih =>
      rw [List.range'_succ, List.map_cons] at hgrows
      obtain ⟨hfirst, hrest⟩ := hgrows
      have hnext := hsized.apply ((hsized.grows_iff_growsSmall _).mp hfirst)
      have hadd := ih (h.bindNext hsized (by omega)) hnext (by omega) hrest
      omega

/-- After the names from 1 to `2^28` the next one makes the array grow to `2^29` records, for which
`realloc` is asked for no bytes. -/
theorem new_names_not_grows : ¬∀ calls : List TextureCall,
    EachStep Grows init (traceOf apply init calls) := by
  intro hall
  have hempty : init.HoldsNames 0 := ⟨rfl, by simp [init, TextureState.init]⟩
  have hle := hempty.add_le init_sized (by decide)
    (hall ((List.range' 0 (2 ^ 28 + 1)).map bindNext))
  omega

end TextureMemory

end OpenglCodecCommon
end DeviceAndroVM
