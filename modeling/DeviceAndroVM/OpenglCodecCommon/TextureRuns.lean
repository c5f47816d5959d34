import Mathlib.Data.Set.Insert
import DeviceAndroVM.Library.Transition
import DeviceAndroVM.OpenglCodecCommon.TextureTable

/-!
# Runs of the texture calls of `GLClientState`

Histories of `setActiveTextureUnit`, `bindTexture` and `deleteTextures` from
the constructor's state.

* `bound_names_recorded` — with names below `2^31`, a bound name has exactly one
  record, under the target it is bound to, and a deletion removes exactly the
  names it is given.
* `texture_table_searchable` — with arbitrary names, the table stays sorted and
  searchable as long as every bound name is less than `2^31` away from the names
  in the table; `firstUse` then says whether the name is new.
* `texture_table_loses_name` — two names further apart than that make the search
  miss a record that is present.
-/

namespace DeviceAndroVM
namespace OpenglCodecCommon

open OpenGL Library TextureState

/-- The calls that work on the texture table.  Each `bindTexture` comes with
the answers of the allocator during that call. -/
inductive TextureCall
  | setActiveTextureUnit (texture : GLenum)
  | bindTexture (realloc : BitVec 32 → Bool) (target : GLenum) (texture : GLuint)
  | deleteTextures (textures : List GLuint)

namespace TextureCall

/-- The state after the call. -/
def apply (tex : TextureState) : TextureCall → TextureState
  | setActiveTextureUnit texture => (tex.setActiveTextureUnit texture).2
  | bindTexture realloc target texture => (tex.bindTexture realloc target texture).2
  | deleteTextures textures => tex.deleteTextures textures

/-- The names the call passes. -/
def names : TextureCall → List GLuint
  | setActiveTextureUnit _ => []
  | bindTexture _ _ texture => [texture]
  | deleteTextures textures => textures

/-- Every allocation made during the call succeeds. -/
def AllocationSucceeds : TextureCall → Prop
  | bindTexture realloc _ _ => ∀ bytes, realloc bytes = true
  | _ => True

end TextureCall

/-- One call on the state. -/
def TextureStep (tex : TextureState) (call : TextureCall) (tex' : TextureState) : Prop :=
  tex' = call.apply tex

theorem setActiveTextureUnit_cases (tex : TextureState) (texture : GLenum) :
    (tex.setActiveTextureUnit texture = (GL_INVALID_OPERATION, tex) ∧
      MAX_TEXTURE_UNITS ≤ (texture - GL_TEXTURE0).toNat) ∨
    ∃ unit : Fin MAX_TEXTURE_UNITS, unit.val = (texture - GL_TEXTURE0).toNat ∧
      tex.setActiveTextureUnit texture = (GL_NO_ERROR, { tex with activeUnit := unit }) := by
  unfold TextureState.setActiveTextureUnit
  by_cases h : (texture - GL_TEXTURE0).toNat < MAX_TEXTURE_UNITS
  · exact Or.inr ⟨⟨_, h⟩, rfl, dif_pos h⟩
  · exact Or.inl ⟨dif_neg h, Nat.le_of_not_lt h⟩

theorem setActiveTextureUnit_wf {tex : TextureState} (h : tex.WF) (texture : GLenum) :
    (tex.setActiveTextureUnit texture).2.WF := by
  rcases setActiveTextureUnit_cases tex texture with ⟨heq, -⟩ | ⟨unit, -, heq⟩
  · rw [heq]
    exact h
  · rw [heq]
    exact ⟨h.ordered, h.nonzero, h.recorded⟩

@[simp] theorem setActiveTextureUnit_textures (tex : TextureState) (texture : GLenum) :
    (tex.setActiveTextureUnit texture).2.textures = tex.textures := by
  rcases setActiveTextureUnit_cases tex texture with ⟨heq, -⟩ | ⟨unit, -, heq⟩ <;> rw [heq]

/-! ## Names below `2^31` -/

/-- Every recorded name is below `2^31`, where the signed and the unsigned
order agree. -/
def SmallNames (tex : TextureState) : Prop := ∀ r ∈ tex.textures, r.id.toNat < 2 ^ 31

theorem bindTexture_smallNames {tex : TextureState} (h : Ordered tex.textures)
    (hsmall : SmallNames tex) {texture : GLuint} (hx : texture.toNat < 2 ^ 31)
    (realloc : BitVec 32 → Bool) (target : GLenum) :
    SmallNames (tex.bindTexture realloc target texture).2 := by
  obtain ⟨res, tex', heq, houtcome⟩ := bindTexture_outcome h realloc target texture
  rw [heq]
  cases houtcome with
  | zero => simpa [SmallNames] using hsmall
  | known => simpa [SmallNames] using hsmall
  | mismatch => exact hsmall
  | exhausted => exact hsmall
  | first =>
      intro r hr
      rw [setBinding_textures] at hr
      rcases mem_insertRec.mp hr with rfl | hmem
      · exact hx
      · exact hsmall r hmem

theorem deleteTextures_smallNames {tex : TextureState} (h : tex.WF)
    (hsmall : SmallNames tex) (textures : List GLuint) :
    SmallNames (tex.deleteTextures textures) := by
  intro r hr
  rw [deleteTextures_textures h] at hr
  exact hsmall r (List.mem_of_mem_filter hr)

/-- One call with small names keeps the invariant of the table. -/
theorem textureCall_wf {tex : TextureState} (h : tex.WF) (hsmall : SmallNames tex)
    {call : TextureCall} (hnames : ∀ x ∈ call.names, x.toNat < 2 ^ 31) :
    (call.apply tex).WF ∧ SmallNames (call.apply tex) := by
  cases call with
  | setActiveTextureUnit texture =>
      refine ⟨setActiveTextureUnit_wf h texture, ?_⟩
      intro r hr
      exact hsmall r (by simpa [TextureCall.apply] using hr)
  | bindTexture realloc target texture =>
      have hx : texture.toNat < 2 ^ 31 := hnames texture (by simp [TextureCall.names])
      have hnear : texture ≠ 0#32 → ∀ r ∈ tex.textures, Near texture r.id :=
        fun _ r hr => near_of_lt hx (hsmall r hr)
      exact ⟨h.bindTexture hnear realloc target,
        bindTexture_smallNames h.ordered hsmall hx realloc target⟩
  | deleteTextures textures =>
      exact ⟨h.deleteTextures textures, deleteTextures_smallNames h hsmall textures⟩

/-- Every non-zero bound name has exactly one record and it carries the target
the name is bound under; no name is bound under both targets. -/
structure BoundNamesRecorded (tex : TextureState) : Prop where
  one_record : ∀ u t, (tex.unit u).texture t ≠ 0#32 →
    tex.textures.filter (·.id = (tex.unit u).texture t) =
      [⟨(tex.unit u).texture t, t.glTarget⟩]
  one_target : ∀ u u', (tex.unit u).texture .TEXTURE_2D ≠ 0#32 →
    (tex.unit u).texture .TEXTURE_2D ≠ (tex.unit u').texture .TEXTURE_EXTERNAL

/-- What a `deleteTextures` call does: the non-zero names are bound nowhere and
have no record, every other record and binding stays. -/
def DeletesExactly (tex : TextureState) : TextureCall → TextureState → Prop
  | .deleteTextures ids, tex' =>
      (∀ id ∈ ids, id ≠ 0#32 →
        (∀ u t, (tex'.unit u).texture t ≠ id) ∧ ∀ r ∈ tex'.textures, r.id ≠ id) ∧
      tex'.textures = tex.textures.filter (·.id ∉ ids) ∧
      (∀ u t, (tex.unit u).texture t ∉ ids →
        (tex'.unit u).texture t = (tex.unit u).texture t)
  | _, _ => True

theorem TextureState.Ordered.filter_id_eq {textures : List TextureRec} (h : Ordered textures)
    {r : TextureRec} (hr : r ∈ textures) : textures.filter (·.id = r.id) = [r] := by
  have hsame : ∀ a ∈ textures.filter (·.id = r.id), a = r := by
    intro a ha
    obtain ⟨hmem, hid⟩ := List.mem_filter.mp ha
    exact h.eq_of_id_eq hmem hr (by simpa using hid)
  have hnodup : (textures.filter (·.id = r.id)).Nodup := h.nodup.filter _
  have hmem : r ∈ textures.filter (·.id = r.id) :=
    List.mem_filter.mpr ⟨hr, by simp⟩
  cases hlist : textures.filter (·.id = r.id) with
  | nil => rw [hlist] at hmem; simp at hmem
  | cons a rest =>
      rw [hlist] at hsame hnodup
      obtain rfl := hsame a List.mem_cons_self
      cases rest with
      | nil => rfl
      | cons b rest =>
          obtain rfl := hsame b (by simp)
          simp at hnodup

theorem TextureState.WF.boundNamesRecorded {tex : TextureState} (h : tex.WF) :
    BoundNamesRecorded tex where
  one_record := fun u t hne => Ordered.filter_id_eq h.ordered (h.recorded u t hne)
  one_target := fun _ _ hne heq => absurd (h.binding_unique hne heq) (by decide)

theorem TextureState.WF.deletesExactly {tex : TextureState} (h : tex.WF) (call : TextureCall) :
    DeletesExactly tex call (call.apply tex) := by
  cases call with
  | setActiveTextureUnit texture => exact trivial
  | bindTexture realloc target texture => exact trivial
  | deleteTextures ids =>
      refine ⟨?_, deleteTextures_textures h ids, ?_⟩
      · intro id hid hne
        constructor
        · intro u t heq
          rw [TextureCall.apply, deleteTextures_texture h] at heq
          split_ifs at heq with hmem
          · exact hne heq.symm
          · exact hmem (heq ▸ hid)
        · intro r hr heq
          rw [TextureCall.apply, deleteTextures_textures h] at hr
          have hkept := (List.mem_filter.mp hr).2
          rw [heq] at hkept
          simp [hid] at hkept
      · intro u t hmem
        show ((tex.deleteTextures ids).unit u).texture t = _
        rw [deleteTextures_texture h, if_neg hmem]

/-- In every history with names below `2^31`, each non-zero bound name has
exactly one record and under its own target, and each deletion removes exactly
the names it is given. -/
theorem bound_names_recorded (trace : List (TextureCall × TextureState))
    (hrun : Run TextureStep TextureState.init trace)
    (hnames : ∀ entry ∈ trace, ∀ x ∈ entry.1.names, x.toNat < 2 ^ 31) :
    Always BoundNamesRecorded trace ∧ EachStep DeletesExactly TextureState.init trace := by
  let Inv : TextureState → Prop := fun tex => tex.WF ∧ SmallNames tex
  let cond : TextureState → TextureCall → Prop :=
    fun _ call => ∀ x ∈ call.names, x.toNat < 2 ^ 31
  have hkeep : ∀ tex call tex', Inv tex → cond tex call → TextureStep tex call tex' →
      Inv tex' := by
    rintro tex call tex' ⟨hwf, hsmall⟩ hcall rfl
    exact textureCall_wf hwf hsmall hcall
  have hinit : Inv TextureState.init := ⟨init_wf, by simp [SmallNames, TextureState.init]⟩
  have hcond : EachStep (fun tex call _ => cond tex call) TextureState.init trace := by
    exact eachStep_of_forall (fun entry hmem => hnames entry hmem)
  constructor
  · exact (hrun.always_of_eachStep hkeep hinit hcond).imp fun tex h => h.1.boundNamesRecorded
  · refine hrun.eachStep_of_eachStep hkeep ?_ hinit hcond
    rintro tex call tex' ⟨hwf, -⟩ - rfl
    exact hwf.deletesExactly call

theorem bound_names_recorded_rebind_delete :
    let trace := traceOf TextureCall.apply TextureState.init
      [.bindTexture (fun _ => true) GL_TEXTURE_2D 5#32,
        .setActiveTextureUnit (GL_TEXTURE0 + 3#32),
        .bindTexture (fun _ => true) GL_TEXTURE_EXTERNAL_OES 9#32,
        .deleteTextures [5#32, 7#32]]
    Always BoundNamesRecorded trace ∧ EachStep DeletesExactly TextureState.init trace :=
  bound_names_recorded _ (run_traceOf _ _ _)
    (forall_mem_traceOf (fun call : TextureCall => ∀ x ∈ call.names, x.toNat < 2 ^ 31)
      (by simp [TextureCall.names]))

/-! ## Arbitrary names -/

/-- The state together with the names that have been bound since the creation
of the table or their last deletion. -/
structure NamedTable where
  tex : TextureState
  inUse : Set GLuint

namespace NamedTable

/-- The names in use after a call; name 0 is the default texture and never in
use. -/
def namesAfter (inUse : Set GLuint) : TextureCall → Set GLuint
  | .setActiveTextureUnit _ => inUse
  | .bindTexture _ _ texture => if texture = 0#32 then inUse else insert texture inUse
  | .deleteTextures ids => {id | id ∈ inUse ∧ id ∉ ids}

/-- One call. -/
def apply (s : NamedTable) (call : TextureCall) : NamedTable :=
  ⟨call.apply s.tex, namesAfter s.inUse call⟩

/-- The constructor's empty table. -/
def init : NamedTable := ⟨TextureState.init, ∅⟩

/-- The table is strictly sorted by unsigned name, and `bsearch` returns an
index for a name exactly when the record at that index has the name. -/
structure Searchable (s : NamedTable) : Prop where
  sorted : s.tex.textures.Pairwise fun a b => a.id < b.id
  finds : ∀ id i, s.tex.findTexture id = some i ↔
    ∃ r, s.tex.textures[i]? = some r ∧ r.id = id

/-- What a `bindTexture` call reports: `firstUse` for a name that is not in
use, and `GL_INVALID_OPERATION` without any change for a name whose record has
another target. -/
def ReportsUse (s : NamedTable) : TextureCall → NamedTable → Prop
  | .bindTexture realloc target texture, s' =>
      ((s.tex.bindTexture realloc target texture).1.firstUse = some true ↔
        texture ≠ 0#32 ∧ texture ∉ s.inUse) ∧
      ((∃ r ∈ s.tex.textures, r.id = texture ∧ r.target ≠ target) →
        (s.tex.bindTexture realloc target texture).1.err = GL_INVALID_OPERATION ∧
          s'.tex = s.tex)
  | _, _ => True

/-- Every non-zero name a call binds is less than `2^31` away from every name
in the table. -/
def BindsNear (s : NamedTable) : TextureCall → Prop
  | .bindTexture _ _ texture =>
      texture ≠ 0#32 → ∀ r ∈ s.tex.textures, Near texture r.id
  | _ => True

/-- The invariant: the table is well formed, fits its array and lists exactly
the names in use. -/
structure Inv (s : NamedTable) : Prop where
  wf : s.tex.WF
  capacity : s.tex.textures.length ≤ s.tex.allocTextures.toNat
  lists : ∀ id, (∃ r ∈ s.tex.textures, r.id = id) ↔ id ∈ s.inUse

theorem init_inv : Inv NamedTable.init where
  wf := init_wf
  capacity := Nat.zero_le _
  lists := by simp [NamedTable.init, TextureState.init]

theorem Inv.searchable {s : NamedTable} (h : Inv s) : Searchable s where
  sorted := h.wf.ordered.imp fun hab => hab.1
  finds := by
    intro id i
    constructor
    · exact findTexture_sound
    · rintro ⟨r, hi, rfl⟩
      exact findTexture_eq_some h.wf.ordered hi

/-- There is always room for one more name: the table holds distinct non-zero
32-bit names, so an array of `2^32 - 1` records is only full when every name
has its record. -/
theorem Inv.addTextureRec_ne_none {s : NamedTable} (h : Inv s) {x : GLuint}
    (hx : x ≠ 0#32) (habsent : ∀ r ∈ s.tex.textures, r.id ≠ x)
    {realloc : BitVec 32 → Bool} (hgrant : ∀ bytes, realloc bytes = true)
    (target : GLenum) : addTextureRec realloc s.tex x target ≠ none := by
  unfold addTextureRec
  split_ifs with hfull
  · cases halloc : newAlloc s.tex.allocTextures with
    | some alloc => simp [hgrant]
    | none =>
        exfalso
        have hmax : s.tex.allocTextures.toNat = 2 ^ 32 - 1 := by
          rw [newAlloc_eq_none halloc]
          rfl
        have hcount : s.tex.textures.length = 2 ^ 32 - 1 := by
          have hcap := h.capacity
          have hnum := congrArg BitVec.toNat hfull
          simp only [numTextures, BitVec.toNat_ofNat] at hnum
          omega
        have hids : (s.tex.textures.map TextureRec.id).Nodup :=
          List.pairwise_map.mpr (h.wf.ordered.imp fun hab heq =>
            absurd (heq ▸ hab.1) (Nat.lt_irrefl _))
        have hall : (0#32 :: x :: s.tex.textures.map TextureRec.id).Nodup := by
          refine List.nodup_cons.mpr ⟨?_, List.nodup_cons.mpr ⟨?_, hids⟩⟩
          · rintro hmem
            rcases List.mem_cons.mp hmem with heq | hmem
            · exact hx heq.symm
            · obtain ⟨r, hr, hid⟩ := List.mem_map.mp hmem
              exact h.wf.nonzero r hr hid
          · rintro hmem
            obtain ⟨r, hr, hid⟩ := List.mem_map.mp hmem
            exact habsent r hr hid
        have hbound := (hall.map BitVec.toFin_injective).length_le_card
        simp only [List.length_map, List.length_cons, Fintype.card_fin] at hbound
        omega
  · simp

theorem Inv.setActiveTextureUnit {s : NamedTable} (h : Inv s) (texture : GLenum) :
    Inv (s.apply (.setActiveTextureUnit texture)) := by
  refine ⟨setActiveTextureUnit_wf h.wf texture, ?_, ?_⟩
  · rcases setActiveTextureUnit_cases s.tex texture with ⟨heq, -⟩ | ⟨unit, -, heq⟩ <;>
      simpa [NamedTable.apply, TextureCall.apply, heq] using h.capacity
  · intro id
    simpa [NamedTable.apply, TextureCall.apply, namesAfter] using h.lists id

/-- The records of the deleted names are gone. -/
theorem Inv.deleteTextures {s : NamedTable} (h : Inv s) (ids : List GLuint) :
    Inv (s.apply (.deleteTextures ids)) := by
  refine ⟨h.wf.deleteTextures ids, ?_, ?_⟩
  · have hlen := List.length_filter_le (·.id ∉ ids) s.tex.textures
    show (s.tex.deleteTextures ids).textures.length ≤
      (s.tex.deleteTextures ids).allocTextures.toNat
    rw [deleteTextures_textures h.wf, deleteTextures_allocTextures]
    exact hlen.trans h.capacity
  · intro id
    show (∃ r ∈ (s.tex.deleteTextures ids).textures, r.id = id) ↔
      id ∈ s.inUse ∧ id ∉ ids
    rw [deleteTextures_textures h.wf, ← h.lists id]
    constructor
    · rintro ⟨r, hr, rfl⟩
      obtain ⟨hmem, hkept⟩ := List.mem_filter.mp hr
      exact ⟨⟨r, hmem, rfl⟩, by simpa using hkept⟩
    · rintro ⟨⟨r, hmem, rfl⟩, hkept⟩
      exact ⟨r, List.mem_filter.mpr ⟨hmem, by simpa using hkept⟩, rfl⟩

/-- A texture is bound: the use of a name is reported as its first just when it is. -/
theorem Inv.bindTexture {s : NamedTable} (h : Inv s) {realloc : BitVec 32 → Bool} {target : GLenum}
    {texture : GLuint} (hgrant : (TextureCall.bindTexture realloc target texture).AllocationSucceeds)
    (hnear : s.BindsNear (.bindTexture realloc target texture)) :
    Inv (s.apply (.bindTexture realloc target texture)) ∧
      s.ReportsUse (.bindTexture realloc target texture)
        (s.apply (.bindTexture realloc target texture)) := by
  have hwf := h.wf.bindTexture hnear realloc target
  obtain ⟨res, tex', heq, houtcome⟩ :=
    bindTexture_outcome h.wf.ordered realloc target texture
  have hstate : s.apply (.bindTexture realloc target texture) =
      ⟨tex', if texture = 0#32 then s.inUse else insert texture s.inUse⟩ := by
    simp [NamedTable.apply, TextureCall.apply, namesAfter, heq]
  rw [hstate]
  rw [heq] at hwf
  simp only [ReportsUse, heq]
  cases houtcome with
  | zero hzero =>
      refine ⟨⟨hwf, by simpa using h.capacity, ?_⟩, by simp [hzero], ?_⟩
      · simpa [hzero] using h.lists
      · rintro ⟨r, hr, hid, -⟩
        exact absurd (hid.trans hzero) (h.wf.nonzero r hr)
  | known hne hmem =>
      -- a record of this target: the name has been in use
      have huse : texture ∈ s.inUse := (h.lists texture).mp ⟨_, hmem, rfl⟩
      refine ⟨⟨hwf, by simpa using h.capacity, ?_⟩, by simp [huse], ?_⟩
      · simpa [hne, Set.insert_eq_of_mem huse] using h.lists
      · rintro ⟨r, hr, hid, htarget⟩
        have hsame := h.wf.ordered.eq_of_id_eq hr hmem hid
        exact absurd (congrArg TextureRec.target hsame) htarget
  | mismatch hne hmem hid htarget =>
      -- a record of another target: nothing changes
      have huse : texture ∈ s.inUse := (h.lists texture).mp ⟨_, hmem, hid⟩
      refine ⟨⟨hwf, h.capacity, ?_⟩, by simp [huse], fun _ => ⟨rfl, rfl⟩⟩
      simpa [hne, Set.insert_eq_of_mem huse] using h.lists
  | exhausted hne habsent hnull =>
      exact absurd hnull (h.addTextureRec_ne_none hne habsent hgrant target)
  | first hne habsent alloc hroom =>
      -- the first use of the name: `addTextureRec` has found room
      have huse : texture ∉ s.inUse := by
        intro hmem
        obtain ⟨r, hr, hid⟩ := (h.lists texture).mpr hmem
        exact habsent r hr hid
      refine ⟨⟨hwf, ?_, ?_⟩, by simp [hne, huse], ?_⟩
      · simpa [Nat.succ_le_iff] using hroom h.capacity
      · intro id
        simp only [setBinding_textures, mem_insertRec, if_neg hne, Set.mem_insert_iff,
          ← h.lists id]
        constructor
        · rintro ⟨r, rfl | hr, hid⟩
          · exact Or.inl hid.symm
          · exact Or.inr ⟨r, hr, hid⟩
        · rintro (rfl | ⟨r, hr, hid⟩)
          · exact ⟨_, Or.inl rfl, rfl⟩
          · exact ⟨r, Or.inr hr, hid⟩
      · rintro ⟨r, hr, hid, -⟩
        exact absurd hid (habsent r hr)

/-- One call that binds near names keeps the invariant. -/
theorem Inv.apply {s : NamedTable} (h : Inv s) {call : TextureCall}
    (hgrant : call.AllocationSucceeds) (hnear : s.BindsNear call) :
    Inv (s.apply call) ∧ s.ReportsUse call (s.apply call) := by
  cases call with
  | setActiveTextureUnit texture => exact ⟨h.setActiveTextureUnit texture, trivial⟩
  | deleteTextures ids => exact ⟨h.deleteTextures ids, trivial⟩
  | bindTexture realloc target texture => exact h.bindTexture hgrant hnear

end NamedTable

/-- In every history whose allocations succeed and whose new names are less
than `2^31` away from the names in the table, the table stays sorted and
searchable, `firstUse` tells the names that are not in use, and a bind to
another target is refused without a change. -/
theorem texture_table_searchable (trace : List (TextureCall × NamedTable))
    (hrun : Run (fun s call s' => s' = NamedTable.apply s call) NamedTable.init trace)
    (hgrant : ∀ entry ∈ trace, entry.1.AllocationSucceeds)
    (hnear : EachStep (fun s call _ => s.BindsNear call) NamedTable.init trace) :
    Always NamedTable.Searchable trace ∧
      EachStep NamedTable.ReportsUse NamedTable.init trace := by
  have hcond : EachStep (fun s call _ => call.AllocationSucceeds ∧ s.BindsNear call)
      NamedTable.init trace :=
    (eachStep_of_forall hgrant).and hnear
  constructor
  · refine (hrun.always_of_eachStep ?_ NamedTable.init_inv hcond).imp
      fun s h => NamedTable.Inv.searchable h
    rintro s call s' hinv ⟨hcall, hbind⟩ rfl
    exact (hinv.apply hcall hbind).1
  · refine hrun.eachStep_of_eachStep ?_ ?_ NamedTable.init_inv hcond
    · rintro s call s' hinv ⟨hcall, hbind⟩ rfl
      exact (hinv.apply hcall hbind).1
    · rintro s call s' hinv ⟨hcall, hbind⟩ rfl
      exact (hinv.apply hcall hbind).2

theorem texture_table_searchable_high_names :
    let trace := traceOf NamedTable.apply NamedTable.init
      [.bindTexture (fun _ => true) GL_TEXTURE_2D 0x80000002#32,
        .bindTexture (fun _ => true) GL_TEXTURE_2D 0xFFFFFFFF#32]
    Always NamedTable.Searchable trace ∧
      EachStep NamedTable.ReportsUse NamedTable.init trace := by
  refine texture_table_searchable _ (run_traceOf _ _ _)
    (forall_mem_traceOf TextureCall.AllocationSucceeds
      (by simp [TextureCall.AllocationSucceeds])) ⟨?_, ?_, trivial⟩
  · intro _ r hr
    simp [NamedTable.init, TextureState.init] at hr
  · intro _ r hr
    have htable : (NamedTable.init.apply
        (.bindTexture (fun _ => true) GL_TEXTURE_2D 0x80000002#32)).tex.textures =
        [⟨0x80000002#32, GL_TEXTURE_2D⟩] := by decide
    rw [htable, List.mem_singleton] at hr
    subst hr
    decide

/-- Names 1 and `0x80000002` differ by more than `2^31`: once both are bound,
the search steers away from name 1, although its record is in the table. -/
theorem texture_table_loses_name :
    ¬ ∀ trace : List (TextureCall × NamedTable),
      Run (fun s call s' => s' = NamedTable.apply s call) NamedTable.init trace →
      (∀ entry ∈ trace, entry.1.AllocationSucceeds) →
      Always NamedTable.Searchable trace ∧
        EachStep NamedTable.ReportsUse NamedTable.init trace := by
  intro h
  let calls : List TextureCall :=
    [.bindTexture (fun _ => true) GL_TEXTURE_2D 1#32,
      .bindTexture (fun _ => true) GL_TEXTURE_2D 0x80000002#32]
  have hboth := (h (traceOf NamedTable.apply NamedTable.init calls) (run_traceOf _ _ _)
    (forall_mem_traceOf TextureCall.AllocationSucceeds
      (by simp [calls, TextureCall.AllocationSucceeds]))).1
  let last := (NamedTable.init.apply (calls[0])).apply (calls[1])
  have hlast : last.Searchable := hboth (calls[1], last) (by simp [calls, traceOf, last])
  have hpresent : last.tex.textures[0]? = some ⟨1#32, GL_TEXTURE_2D⟩ := by decide
  have hlost : last.tex.findTexture 1#32 = none := by decide
  have hfound := (hlast.finds 1#32 0).mpr ⟨_, hpresent, rfl⟩
  rw [hlost] at hfound
  cases hfound

end OpenglCodecCommon
end DeviceAndroVM
