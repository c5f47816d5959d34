import Mathlib.Data.List.Nodup
import DeviceAndroVM.OpenglCodecCommon.TextureState

/-!
# The texture table and its invariant

`compareTexId` orders two names correctly as long as they differ by less than
`2^31`.  On a table that is sorted by unsigned name and in which any two names
are that near, the search finds exactly the names that are present, insertion
keeps the table sorted, and deletion removes exactly the named record.

* `Ordered` — sorted by name, any two names less than `2^31` apart.
* `TextureState.WF` — the cross-structure invariant: the table is ordered and
  every non-zero binding of a unit has its record under the right target.
* `search_eq_find?`, `bindTexture_cases`, `deleteTexture_spec` — what the three
  operations do to a well-formed state.
-/

namespace DeviceAndroVM
namespace OpenglCodecCommon

open OpenGL Library

/-- Two names whose unsigned difference is below `2^31`, in either order. -/
def Near (a b : GLuint) : Prop :=
  a.toNat < b.toNat + 2 ^ 31 ∧ b.toNat < a.toNat + 2 ^ 31

instance (a b : GLuint) : Decidable (Near a b) := by
  unfold Near
  infer_instance

theorem Near.symm {a b : GLuint} (h : Near a b) : Near b a := ⟨h.2, h.1⟩

theorem near_of_lt {a b : GLuint} (ha : a.toNat < 2 ^ 31) (hb : b.toNat < 2 ^ 31) :
    Near a b := by
  constructor <;> omega

namespace TextureState

/-! ## The comparison -/

theorem compareTexId_eq_zero_iff (id : GLuint) (r : TextureRec) :
    compareTexId id r = 0 ↔ id = r.id := by
  constructor
  · intro h
    unfold compareTexId at h
    rw [BitVec.toInt_eq_toNat_cond, BitVec.toNat_sub] at h
    apply BitVec.eq_of_toNat_eq
    have hid := id.isLt
    have hrid := r.id.isLt
    split at h <;> omega
  · rintro rfl
    simp [compareTexId]

theorem compareTexId_pos {id : GLuint} {r : TextureRec}
    (hlt : r.id.toNat < id.toNat) (hnear : Near id r.id) :
    0 < compareTexId id r := by
  unfold compareTexId
  rw [BitVec.toInt_eq_toNat_cond, BitVec.toNat_sub]
  have hid := id.isLt
  have hgap := hnear.1
  split <;> omega

theorem compareTexId_neg {id : GLuint} {r : TextureRec}
    (hlt : id.toNat < r.id.toNat) (hnear : Near id r.id) :
    compareTexId id r < 0 := by
  unfold compareTexId
  rw [BitVec.toInt_eq_toNat_cond, BitVec.toNat_sub]
  have hrid := r.id.isLt
  have hgap := hnear.2
  split <;> omega

/-! ## Search -/

/-- Sorted by unsigned name without duplicates, any two names near each other. -/
def Ordered (textures : List TextureRec) : Prop :=
  textures.Pairwise fun a b => a.id.toNat < b.id.toNat ∧ Near a.id b.id

theorem Ordered.lt_of_getElem? {textures : List TextureRec} (h : Ordered textures)
    {i j : Nat} {a b : TextureRec} (hij : i < j)
    (ha : textures[i]? = some a) (hb : textures[j]? = some b) :
    a.id.toNat < b.id.toNat ∧ Near a.id b.id := by
  obtain ⟨hi, rfl⟩ := List.getElem?_eq_some_iff.mp ha
  obtain ⟨hj, rfl⟩ := List.getElem?_eq_some_iff.mp hb
  exact List.pairwise_iff_getElem.mp h i j hi hj hij

theorem Ordered.eq_of_id_eq {textures : List TextureRec} (h : Ordered textures)
    {a b : TextureRec} (ha : a ∈ textures) (hb : b ∈ textures) (hid : a.id = b.id) :
    a = b := by
  obtain ⟨i, hi⟩ := List.getElem?_of_mem ha
  obtain ⟨j, hj⟩ := List.getElem?_of_mem hb
  rcases Nat.lt_trichotomy i j with hlt | rfl | hgt
  · have := (h.lt_of_getElem? hlt hi hj).1
    rw [hid] at this
    omega
  · rw [hi] at hj
    exact Option.some.inj hj
  · have := (h.lt_of_getElem? hgt hj hi).1
    rw [hid] at this
    omega

theorem Ordered.nodup {textures : List TextureRec} (h : Ordered textures) :
    textures.Nodup := by
  refine List.Pairwise.imp ?_ h
  rintro a b ⟨hlt, -⟩ rfl
  exact absurd hlt (Nat.lt_irrefl _)

/-- A found index holds the record of that name, whatever the table. -/
theorem findTexture_sound {tex : TextureState} {id : GLuint} {i : Nat}
    (h : tex.findTexture id = some i) :
    ∃ r, tex.textures[i]? = some r ∧ r.id = id := by
  obtain ⟨r, hr, heq⟩ := bsearch_sound h
  exact ⟨r, hr, ((compareTexId_eq_zero_iff id r).mp heq).symm⟩

/-- An absent name is never found, whatever the table. -/
theorem findTexture_eq_none {tex : TextureState} {id : GLuint}
    (h : ∀ r ∈ tex.textures, r.id ≠ id) : tex.findTexture id = none := by
  apply bsearch_eq_none
  intro r hr heq
  exact h r hr ((compareTexId_eq_zero_iff id r).mp heq).symm

/-- In an ordered table every record is found at its own index. -/
theorem findTexture_eq_some {tex : TextureState} (h : Ordered tex.textures)
    {i : Nat} {r : TextureRec} (hi : tex.textures[i]? = some r) :
    tex.findTexture r.id = some i := by
  apply bsearch_eq_some hi ((compareTexId_eq_zero_iff r.id r).mpr rfl)
  · intro j a hj ha
    obtain ⟨hlt, hnear⟩ := h.lt_of_getElem? hj ha hi
    exact compareTexId_pos hlt hnear.symm
  · intro j a hj ha
    obtain ⟨hlt, hnear⟩ := h.lt_of_getElem? hj hi ha
    exact compareTexId_neg hlt hnear

/-- The record that `bindTexture` works on: on an ordered table the binary
search agrees with a linear one. -/
theorem search_eq_find? {tex : TextureState} (h : Ordered tex.textures) (id : GLuint) :
    (tex.findTexture id).bind (tex.textures[·]?) = tex.textures.find? (·.id = id) := by
  cases hfind : tex.textures.find? (·.id = id) with
  | none =>
      have habsent : ∀ r ∈ tex.textures, r.id ≠ id := by
        simpa using List.find?_eq_none.mp hfind
      rw [findTexture_eq_none habsent, Option.bind_none]
  | some r =>
      have hid : r.id = id := by simpa using List.find?_some hfind
      obtain ⟨i, hi⟩ := List.getElem?_of_mem (List.mem_of_find?_eq_some hfind)
      rw [← hid, findTexture_eq_some h hi, Option.bind_some, hi]

/-! ## Insertion -/

theorem mem_insertFromEnd {r new : TextureRec} {textures : List TextureRec} :
    r ∈ insertFromEnd new textures ↔ r = new ∨ r ∈ textures := by
  induction textures with
  | nil => simp [insertFromEnd]
  | cons prev before ih =>
      unfold insertFromEnd
      split
      · rw [List.mem_cons, ih, List.mem_cons]
        tauto
      · rw [List.mem_cons]

@[simp] theorem mem_insertRec {r new : TextureRec} {textures : List TextureRec} :
    r ∈ insertRec new textures ↔ r = new ∨ r ∈ textures := by
  simp [insertRec, mem_insertFromEnd]

theorem length_insertFromEnd (new : TextureRec) (textures : List TextureRec) :
    (insertFromEnd new textures).length = textures.length + 1 := by
  induction textures with
  | nil => rfl
  | cons prev before ih =>
      unfold insertFromEnd
      split
      · rw [List.length_cons, ih, List.length_cons]
      · rfl

@[simp] theorem length_insertRec (new : TextureRec) (textures : List TextureRec) :
    (insertRec new textures).length = textures.length + 1 := by
  simp [insertRec, length_insertFromEnd]

/-- The loop keeps the reversed table sorted: it stops at the first record that
is not larger than the new name. -/
theorem insertFromEnd_ordered {new : TextureRec} {textures : List TextureRec}
    (h : textures.Pairwise fun a b => b.id.toNat < a.id.toNat ∧ Near b.id a.id)
    (hnew : ∀ r ∈ textures, r.id ≠ new.id ∧ Near new.id r.id) :
    (insertFromEnd new textures).Pairwise
      fun a b => b.id.toNat < a.id.toNat ∧ Near b.id a.id := by
  induction textures with
  | nil => simp [insertFromEnd]
  | cons prev before ih =>
      obtain ⟨hprev, hbefore⟩ := List.pairwise_cons.mp h
      obtain ⟨hne, hnear⟩ := hnew prev List.mem_cons_self
      have hnewBefore : ∀ r ∈ before, r.id ≠ new.id ∧ Near new.id r.id :=
        fun r hr => hnew r (List.mem_cons_of_mem _ hr)
      unfold insertFromEnd
      split
      · rename_i hlt
        refine List.pairwise_cons.mpr ⟨?_, ih hbefore hnewBefore⟩
        intro r hr
        rcases mem_insertFromEnd.mp hr with rfl | hmem
        · exact ⟨hlt, hnear⟩
        · exact hprev r hmem
      · rename_i hge
        have hlt : prev.id.toNat < new.id.toNat := by
          have hnat : prev.id.toNat ≠ new.id.toNat := fun heq =>
            hne (BitVec.eq_of_toNat_eq heq)
          have hle : ¬ new.id.toNat < prev.id.toNat := hge
          omega
        refine List.pairwise_cons.mpr ⟨?_, h⟩
        intro r hr
        rcases List.mem_cons.mp hr with rfl | hmem
        · exact ⟨hlt, hnear.symm⟩
        · exact ⟨(hprev r hmem).1.trans hlt, (hnewBefore r hmem).2.symm⟩

theorem Ordered.insertRec {new : TextureRec} {textures : List TextureRec}
    (h : Ordered textures) (hnew : ∀ r ∈ textures, r.id ≠ new.id ∧ Near new.id r.id) :
    Ordered (insertRec new textures) := by
  unfold Ordered TextureState.insertRec
  rw [List.pairwise_reverse]
  apply insertFromEnd_ordered
  · exact List.pairwise_reverse.mpr h
  · simpa using hnew

/-! ## Deletion -/

theorem Ordered.filter {textures : List TextureRec} (h : Ordered textures)
    (p : TextureRec → Bool) : Ordered (textures.filter p) :=
  List.Pairwise.filter p h

/-- Erasing the found index removes exactly the record of that name. -/
theorem eraseIdx_eq_filter {tex : TextureState} (h : Ordered tex.textures)
    {i : Nat} {r : TextureRec} (hi : tex.textures[i]? = some r) :
    tex.textures.eraseIdx i = tex.textures.filter (·.id ≠ r.id) := by
  obtain ⟨hlen, rfl⟩ := List.getElem?_eq_some_iff.mp hi
  rw [← List.Nodup.erase_getElem h.nodup i hlen, List.Nodup.erase_eq_filter h.nodup]
  apply List.filter_congr
  intro a ha
  have hiff : a = tex.textures[i] ↔ a.id = tex.textures[i].id := by
    constructor
    · rintro rfl
      rfl
    · exact h.eq_of_id_eq ha (List.getElem_mem hlen)
  by_cases hsame : a = tex.textures[i]
  · simp [hsame]
  · have hid : a.id ≠ tex.textures[i].id := fun heq => hsame (hiff.mpr heq)
    simp [hsame, hid]

/-! ## Bindings of the units -/

@[simp] theorem ofGLenum?_eq_some_iff (target : GLenum) (t : TextureTarget) :
    TextureTarget.ofGLenum? target = some t ↔ t.glTarget = target := by
  unfold TextureTarget.ofGLenum?
  by_cases h2d : target = GL_TEXTURE_2D
  · subst h2d
    cases t <;> decide
  by_cases hext : target = GL_TEXTURE_EXTERNAL_OES
  · subst hext
    cases t <;> decide
  rw [if_neg h2d, if_neg hext]
  cases t with
  | TEXTURE_2D => simpa [TextureTarget.glTarget] using Ne.symm h2d
  | TEXTURE_EXTERNAL => simpa [TextureTarget.glTarget] using Ne.symm hext

theorem glTarget_injective {t t' : TextureTarget} (h : t.glTarget = t'.glTarget) :
    t = t' := by
  cases t <;> cases t' <;> first | rfl | (exact absurd h (by decide))

@[simp] theorem setActive_textures (tex : TextureState) (u : TextureUnit) :
    (tex.setActive u).textures = tex.textures := rfl

@[simp] theorem setActive_activeUnit (tex : TextureState) (u : TextureUnit) :
    (tex.setActive u).activeUnit = tex.activeUnit := rfl

theorem setActive_unit (tex : TextureState) (u : TextureUnit) (i : Fin MAX_TEXTURE_UNITS) :
    (tex.setActive u).unit i = if i = tex.activeUnit then u else tex.unit i := by
  simp [setActive, Function.update_apply]

@[simp] theorem setBinding_textures (tex : TextureState) (target : GLenum) (x : GLuint) :
    (tex.setBinding target x).textures = tex.textures := by
  unfold setBinding
  split <;> rfl

@[simp] theorem setBinding_activeUnit (tex : TextureState) (target : GLenum) (x : GLuint) :
    (tex.setBinding target x).activeUnit = tex.activeUnit := by
  unfold setBinding
  split <;> rfl

@[simp] theorem setBinding_enables (tex : TextureState) (target : GLenum) (x : GLuint)
    (u : Fin MAX_TEXTURE_UNITS) :
    ((tex.setBinding target x).unit u).enables = (tex.unit u).enables := by
  unfold setBinding
  split
  · rw [setActive_unit]
    split_ifs with hu
    · rw [hu]
      rfl
    · rfl
  · rfl

theorem setBinding_texture (tex : TextureState) (target : GLenum) (x : GLuint)
    (u : Fin MAX_TEXTURE_UNITS) (t : TextureTarget) :
    ((tex.setBinding target x).unit u).texture t =
      if u = tex.activeUnit ∧ t.glTarget = target then x else (tex.unit u).texture t := by
  unfold setBinding
  split
  · rename_i slot hslot
    have htarget := (ofGLenum?_eq_some_iff target slot).mp hslot
    rw [setActive_unit]
    by_cases hu : u = tex.activeUnit
    · subst hu
      by_cases ht : t = slot
      · simp [ht, htarget]
      · have hne : t.glTarget ≠ target := fun heq =>
          ht (glTarget_injective (heq.trans htarget.symm))
        simp [ht, hne, active]
    · simp [hu]
  · rename_i hnone
    have hne : t.glTarget ≠ target := fun heq => by
      rw [(ofGLenum?_eq_some_iff target t).mpr heq] at hnone
      simp at hnone
    simp [hne]

/-! ## The invariant -/

/-- The cross-structure invariant of the table and the 64 bindings. -/
structure WF (tex : TextureState) : Prop where
  ordered : Ordered tex.textures
  nonzero : ∀ r ∈ tex.textures, r.id ≠ 0#32
  recorded : ∀ u t, (tex.unit u).texture t ≠ 0#32 →
    (⟨(tex.unit u).texture t, t.glTarget⟩ : TextureRec) ∈ tex.textures

theorem init_wf : WF TextureState.init where
  ordered := List.Pairwise.nil
  nonzero := by simp [init]
  recorded := by simp [init]

/-- A name has one record, so it is bound under one target only. -/
theorem WF.binding_unique {tex : TextureState} (h : tex.WF)
    {u u' : Fin MAX_TEXTURE_UNITS} {t t' : TextureTarget}
    (hne : (tex.unit u).texture t ≠ 0#32)
    (heq : (tex.unit u).texture t = (tex.unit u').texture t') : t = t' := by
  have hfirst := h.recorded u t hne
  have hsecond := h.recorded u' t' (heq ▸ hne)
  have hsame := h.ordered.eq_of_id_eq hfirst hsecond heq
  exact glTarget_injective (congrArg TextureRec.target hsame)

theorem WF.setBinding {tex : TextureState} (h : tex.WF) {target : GLenum} {x : GLuint}
    (hrec : x ≠ 0#32 → (⟨x, target⟩ : TextureRec) ∈ tex.textures) :
    (tex.setBinding target x).WF where
  ordered := by simpa using h.ordered
  nonzero := by simpa using h.nonzero
  recorded := by
    intro u t hne
    rw [setBinding_texture] at hne ⊢
    rw [setBinding_textures]
    split_ifs at hne ⊢ with hcase
    · rw [hcase.2]
      exact hrec hne
    · exact h.recorded u t hne

theorem WF.insertRec {tex : TextureState} (h : tex.WF) {target : GLenum}
    {x alloc : GLuint} (hx : x ≠ 0#32) (habsent : ∀ r ∈ tex.textures, r.id ≠ x)
    (hnear : ∀ r ∈ tex.textures, Near x r.id) :
    WF { tex with textures := insertRec ⟨x, target⟩ tex.textures, allocTextures := alloc } where
  ordered := h.ordered.insertRec fun r hr => ⟨habsent r hr, hnear r hr⟩
  nonzero := by
    intro r hr
    rcases mem_insertRec.mp hr with rfl | hmem
    · exact hx
    · exact h.nonzero r hmem
  recorded := fun u t hne => mem_insertRec.mpr (Or.inr (h.recorded u t hne))

/-! ## What `bindTexture` does -/

/-- The five ways a `bindTexture` call can end. -/
inductive BindOutcome (realloc : BitVec 32 → Bool) (tex : TextureState) (target : GLenum)
    (texture : GLuint) : BindResult → TextureState → Prop
  | zero (hzero : texture = 0#32) :
      BindOutcome realloc tex target texture ⟨GL_NO_ERROR, some false⟩
        (tex.setBinding target texture)
  | known (hne : texture ≠ 0#32) (hmem : (⟨texture, target⟩ : TextureRec) ∈ tex.textures) :
      BindOutcome realloc tex target texture ⟨GL_NO_ERROR, some false⟩
        (tex.setBinding target texture)
  | mismatch {r : TextureRec} (hne : texture ≠ 0#32) (hmem : r ∈ tex.textures)
      (hid : r.id = texture) (htarget : target ≠ r.target) :
      BindOutcome realloc tex target texture ⟨GL_INVALID_OPERATION, none⟩ tex
  | exhausted (hne : texture ≠ 0#32) (habsent : ∀ r ∈ tex.textures, r.id ≠ texture)
      (hnull : addTextureRec realloc tex texture target = none) :
      BindOutcome realloc tex target texture ⟨GL_OUT_OF_MEMORY, none⟩ tex
  | first (hne : texture ≠ 0#32) (habsent : ∀ r ∈ tex.textures, r.id ≠ texture)
      (alloc : GLuint)
      (hroom : tex.textures.length ≤ tex.allocTextures.toNat →
        tex.textures.length < alloc.toNat) :
      BindOutcome realloc tex target texture ⟨GL_NO_ERROR, some true⟩
        (TextureState.setBinding
          { tex with
            textures := insertRec ⟨texture, target⟩ tex.textures
            allocTextures := alloc } target texture)

/-- Every growth makes the capacity strictly larger. -/
theorem newAlloc_gt {a b : GLuint} (h : newAlloc a = some b) : a.toNat < b.toNat := by
  unfold newAlloc at h
  split at h
  · obtain rfl := Option.some.inj h
    split <;> bv_omega
  · split at h
    · cases h
    · obtain rfl := Option.some.inj h
      bv_omega

theorem newAlloc_eq_none {a : GLuint} (h : newAlloc a = none) : a = MAX_TEXTURES := by
  unfold newAlloc at h
  split at h
  · cases h
  · split at h
    · assumption
    · cases h

/-- `addTextureRec` fails, or inserts the record and perhaps grows the array. -/
theorem addTextureRec_cases (realloc : BitVec 32 → Bool) (tex : TextureState) (id : GLuint)
    (target : GLenum) :
    addTextureRec realloc tex id target = none ∨
      ∃ alloc, addTextureRec realloc tex id target =
          some (⟨id, target⟩,
            { tex with
              textures := insertRec ⟨id, target⟩ tex.textures
              allocTextures := alloc }) ∧
        (tex.textures.length ≤ tex.allocTextures.toNat →
          tex.textures.length < alloc.toNat) := by
  unfold addTextureRec
  split_ifs with hfull
  · cases halloc : newAlloc tex.allocTextures with
    | none => exact Or.inl rfl
    | some alloc =>
        by_cases hgrant : realloc (alloc * 8#32) = true
        · exact Or.inr ⟨alloc, if_pos hgrant, fun hcap => hcap.trans_lt (newAlloc_gt halloc)⟩
        · exact Or.inl (if_neg hgrant)
  · refine Or.inr ⟨tex.allocTextures, rfl, fun hcap => ?_⟩
    have hne : tex.textures.length ≠ tex.allocTextures.toNat := by
      intro heq
      apply hfull
      apply BitVec.eq_of_toNat_eq
      have hlt := tex.allocTextures.isLt
      simp only [numTextures, BitVec.toNat_ofNat]
      omega
    omega

theorem bindTexture_outcome {tex : TextureState} (h : Ordered tex.textures)
    (realloc : BitVec 32 → Bool) (target : GLenum) (texture : GLuint) :
    ∃ res tex', bindTexture realloc tex target texture = (res, tex') ∧
      BindOutcome realloc tex target texture res tex' := by
  unfold bindTexture
  by_cases hzero : texture = 0#32
  · rw [if_pos hzero]
    exact ⟨_, _, rfl, BindOutcome.zero hzero⟩
  rw [if_neg hzero, search_eq_find? h]
  cases hfind : tex.textures.find? (·.id = texture) with
  | some r =>
      have hid : r.id = texture := by simpa using List.find?_some hfind
      have hmem := List.mem_of_find?_eq_some hfind
      by_cases htarget : target ≠ r.target
      · exact ⟨_, _, if_pos htarget, BindOutcome.mismatch hzero hmem hid htarget⟩
      · have hrec : r = ⟨texture, target⟩ := by
          cases r
          simp_all
        exact ⟨_, _, if_neg htarget, BindOutcome.known hzero (hrec ▸ hmem)⟩
  | none =>
      have habsent : ∀ r ∈ tex.textures, r.id ≠ texture := by
        simpa using List.find?_eq_none.mp hfind
      rcases addTextureRec_cases realloc tex texture target with
        hnone | ⟨alloc, hsome, hroom⟩
      · simp only [hnone]
        exact ⟨_, _, rfl, BindOutcome.exhausted hzero habsent hnone⟩
      · simp only [hsome, ne_eq, not_true_eq_false, if_false]
        exact ⟨_, _, rfl, BindOutcome.first hzero habsent alloc hroom⟩

theorem WF.bindTexture {tex : TextureState} (h : tex.WF) {texture : GLuint}
    (hnear : texture ≠ 0#32 → ∀ r ∈ tex.textures, Near texture r.id)
    (realloc : BitVec 32 → Bool) (target : GLenum) :
    (TextureState.bindTexture realloc tex target texture).2.WF := by
  obtain ⟨res, tex', heq, houtcome⟩ := bindTexture_outcome h.ordered realloc target texture
  rw [heq]
  cases houtcome with
  | zero hzero => exact h.setBinding fun hne => absurd hzero hne
  | known _ hmem => exact h.setBinding fun _ => hmem
  | mismatch => exact h
  | exhausted => exact h
  | first hne habsent alloc _ =>
      exact (h.insertRec hne habsent (hnear hne)).setBinding
        fun _ => mem_insertRec.mpr (Or.inl rfl)

/-! ## What `deleteTextures` does -/

theorem deleteTexture_textures {tex : TextureState} (h : Ordered tex.textures)
    (id : GLuint) :
    (tex.deleteTexture id).textures = tex.textures.filter (·.id ≠ id) := by
  unfold deleteTexture
  cases hfind : tex.findTexture id with
  | none =>
      symm
      apply List.filter_eq_self.mpr
      intro r hr
      have hne : r.id ≠ id := by
        rintro rfl
        obtain ⟨i, hi⟩ := List.getElem?_of_mem hr
        rw [findTexture_eq_some h hi] at hfind
        simp at hfind
      simpa using hne
  | some i =>
      obtain ⟨r, hi, rfl⟩ := findTexture_sound hfind
      exact eraseIdx_eq_filter h hi

@[simp] theorem deleteTexture_activeUnit (tex : TextureState) (id : GLuint) :
    (tex.deleteTexture id).activeUnit = tex.activeUnit := by
  unfold deleteTexture
  split <;> rfl

@[simp] theorem deleteTexture_enables (tex : TextureState) (id : GLuint)
    (u : Fin MAX_TEXTURE_UNITS) :
    ((tex.deleteTexture id).unit u).enables = (tex.unit u).enables := by
  unfold deleteTexture
  split
  · rfl
  · show (clearBinding id (tex.unit u)).enables = _
    unfold clearBinding
    split_ifs <;> rfl

/-- On a unit whose two bindings are not the same non-zero name, the `else if`
clears every binding of the deleted name. -/
theorem clearBinding_texture {id : GLuint} {u : TextureUnit}
    (hdistinct : u.texture .TEXTURE_2D = id → u.texture .TEXTURE_EXTERNAL ≠ id)
    (t : TextureTarget) :
    (clearBinding id u).texture t = if u.texture t = id then 0#32 else u.texture t := by
  unfold clearBinding
  cases t with
  | TEXTURE_2D =>
      split_ifs <;> simp_all
  | TEXTURE_EXTERNAL =>
      split_ifs <;> simp_all

/-- Deleting one name clears its bindings on every unit and no other.  That the
bindings of a name without a record need no clearing is the invariant. -/
theorem deleteTexture_texture {tex : TextureState} (h : tex.WF) (id : GLuint)
    (u : Fin MAX_TEXTURE_UNITS) (t : TextureTarget) :
    ((tex.deleteTexture id).unit u).texture t =
      if (tex.unit u).texture t = id then 0#32 else (tex.unit u).texture t := by
  unfold deleteTexture
  cases hfind : tex.findTexture id with
  | none =>
      by_cases hbound : (tex.unit u).texture t = id
      · -- a bound name without a record can only be zero
        have hzero : (tex.unit u).texture t = 0#32 := by
          by_contra hne
          obtain ⟨i, hi⟩ := List.getElem?_of_mem (h.recorded u t hne)
          have hfound := findTexture_eq_some h.ordered hi
          rw [hbound, hfind] at hfound
          simp at hfound
        simp [hzero]
      · simp [hbound]
  | some i =>
      obtain ⟨r, hi, hid⟩ := findTexture_sound hfind
      have hne : id ≠ 0#32 := hid ▸ h.nonzero r (List.mem_of_getElem? hi)
      apply clearBinding_texture
      intro h2d hext
      have hslots : TextureTarget.TEXTURE_2D = TextureTarget.TEXTURE_EXTERNAL :=
        h.binding_unique (h2d ▸ hne) (h2d.trans hext.symm)
      exact absurd hslots (by decide)

theorem WF.deleteTexture {tex : TextureState} (h : tex.WF) (id : GLuint) :
    (tex.deleteTexture id).WF where
  ordered := by
    rw [deleteTexture_textures h.ordered]
    exact h.ordered.filter _
  nonzero := by
    intro r hr
    rw [deleteTexture_textures h.ordered] at hr
    exact h.nonzero r (List.mem_of_mem_filter hr)
  recorded := by
    intro u t hne
    rw [deleteTexture_texture h] at hne ⊢
    rw [deleteTexture_textures h.ordered]
    split_ifs at hne ⊢ with hid
    · exact absurd rfl hne
    · exact List.mem_filter.mpr ⟨h.recorded u t hne, by simpa using hid⟩

theorem WF.deleteTextures {tex : TextureState} (h : tex.WF) (textures : List GLuint) :
    (tex.deleteTextures textures).WF := by
  induction textures generalizing tex with
  | nil => exact h
  | cons id rest ih => exact ih (h.deleteTexture id)

/-- A whole call removes exactly the records it names. -/
theorem deleteTextures_textures {tex : TextureState} (h : tex.WF) (textures : List GLuint) :
    (tex.deleteTextures textures).textures =
      tex.textures.filter (·.id ∉ textures) := by
  induction textures generalizing tex with
  | nil => simp [TextureState.deleteTextures]
  | cons id rest ih =>
      have hrest := ih (h.deleteTexture id)
      show ((tex.deleteTexture id).deleteTextures rest).textures = _
      rw [hrest, deleteTexture_textures h.ordered, List.filter_filter]
      apply List.filter_congr
      intro r _
      simp [Bool.and_comm]

/-- A whole call clears exactly the bindings of the names it is given. -/
theorem deleteTextures_texture {tex : TextureState} (h : tex.WF) (textures : List GLuint)
    (u : Fin MAX_TEXTURE_UNITS) (t : TextureTarget) :
    ((tex.deleteTextures textures).unit u).texture t =
      if (tex.unit u).texture t ∈ textures then 0#32 else (tex.unit u).texture t := by
  induction textures generalizing tex with
  | nil => simp [TextureState.deleteTextures]
  | cons id rest ih =>
      show (((tex.deleteTexture id).deleteTextures rest).unit u).texture t = _
      rw [ih (h.deleteTexture id), deleteTexture_texture h]
      by_cases hid : (tex.unit u).texture t = id
      · simp [hid]
      · simp [hid]

@[simp] theorem deleteTextures_activeUnit (tex : TextureState) (textures : List GLuint) :
    (tex.deleteTextures textures).activeUnit = tex.activeUnit := by
  induction textures generalizing tex with
  | nil => rfl
  | cons id rest ih => exact (ih (tex.deleteTexture id)).trans (deleteTexture_activeUnit tex id)

@[simp] theorem deleteTextures_allocTextures (tex : TextureState) (textures : List GLuint) :
    (tex.deleteTextures textures).allocTextures = tex.allocTextures := by
  induction textures generalizing tex with
  | nil => rfl
  | cons id rest ih =>
      refine (ih (tex.deleteTexture id)).trans ?_
      unfold deleteTexture
      split <;> rfl

@[simp] theorem setBinding_allocTextures (tex : TextureState) (target : GLenum) (x : GLuint) :
    (tex.setBinding target x).allocTextures = tex.allocTextures := by
  unfold setBinding
  split <;> rfl

@[simp] theorem deleteTextures_enables (tex : TextureState) (textures : List GLuint)
    (u : Fin MAX_TEXTURE_UNITS) :
    ((tex.deleteTextures textures).unit u).enables = (tex.unit u).enables := by
  induction textures generalizing tex with
  | nil => rfl
  | cons id rest ih => exact (ih (tex.deleteTexture id)).trans (deleteTexture_enables tex id u)

end TextureState
end OpenglCodecCommon
end DeviceAndroVM
