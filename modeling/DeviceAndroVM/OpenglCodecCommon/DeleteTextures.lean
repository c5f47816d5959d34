import DeviceAndroVM.OpenglCodecCommon.Encoder
import DeviceAndroVM.Library.WhileLoop
import DeviceAndroVM.Library.WordArray

/-!
# The loop over the names to delete

`GLClientState::deleteTextures` walks through the names with a pointer until it is
`textures + n`.  The names are those of an array in memory; the loop is undefined from the
moment on that it reads behind them.

* `deleteTexturesBody` — one turn of the loop, with the elements read so far.
* `deletesTextures_of_nonneg` — with a count that is not negative the loop ends, and does what
  `TextureState.deleteTextures` does.
* `readsExactly_iff_count` — the two encoders and the client state read the names they were
  given and nothing else just when the count is not negative, but for two counts whose length in
  bytes is a multiple of `2 ^ 32`.
-/

namespace DeviceAndroVM
namespace OpenglCodecCommon

open OpenGL Library

variable {count : Nat}

/-- The variables of the loop, and the elements of the array that have been read. -/
structure DeleteCursor where
  texture : VoidPtr
  tex : TextureState
  read : List Nat

/-- The loop ends, or reads a name at an address outside of the array. -/
inductive DeleteResult
  | ended (tex : TextureState) (read : List Nat)
  | outside (texture : VoidPtr)

/-- One turn of the loop of `GLClientState::deleteTextures`. -/
def deleteTexturesBody (n : GLint) (textures : WordArray GLuint count) (c : DeleteCursor) :
    Iteration DeleteCursor DeleteResult :=
  if c.texture = textures.pointer n then .leave (.ended c.tex c.read)
  else
    match textures.read c.texture with
    | none => .leave (.outside c.texture)
    | some name =>
        .again ⟨c.texture + 4#32, c.tex.deleteTexture name, c.read ++ [textures.index c.texture]⟩

/-- `GLClientState::deleteTextures`: it ends with the state and has read those names. -/
def GLClientState.DeletesTextures (state : GLClientState) (n : GLint)
    (textures : WordArray GLuint count) (state' : GLClientState) (read : List Nat) : Prop :=
  ∃ tex, WhileRun (deleteTexturesBody n textures) ⟨textures.address, state.tex, []⟩
      (.ended tex read) ∧
    state' = { state with tex }

/-- What both encoders do in `s_glDeleteTextures`; `enc` is what the generated
`m_glDeleteTextures_enc` sends for its arguments. -/
def Encoder.DeletesTextures (enc : GLint → WordArray GLuint count → List GLCmd) (ctx : Encoder)
    (n : GLint) (textures : WordArray GLuint count) (ctx' : Encoder) (read : List Nat) : Prop :=
  ∃ state, ctx.state.DeletesTextures n textures state read ∧
    ctx' = { ctx with state, stream := ctx.stream ++ enc n textures }

/-- `GLEncoder::s_glDeleteTextures`. -/
abbrev GLEncoder.DeletesTextures (enc : GLint → WordArray GLuint count → List GLCmd)
    (ctx : Encoder) := ctx.DeletesTextures enc

/-- `GL2Encoder::s_glDeleteTextures`. -/
abbrev GL2Encoder.DeletesTextures (enc : GLint → WordArray GLuint count → List GLCmd)
    (ctx : Encoder) := ctx.DeletesTextures enc

/-- A call ends after it has read every name, each once, and a negative count changes nothing. -/
def ReadsExactly {σ : Type} (client : σ → GLClientState) (n : GLint)
    (Ends : σ → List Nat → Prop) (before : σ) : Prop :=
  ∃ after, Ends after (List.range n.toInt.toNat) ∧ (n.toInt < 0 → client after = client before)

/-! ## Counts that are not negative -/

/-- The loop from element `i` on. -/
theorem deleteTextures_run_from (textures : WordArray GLuint count) {n : GLint}
    (hn : n = BitVec.ofNat 32 count) {i : Nat} (hi : i ≤ count) (tex : TextureState) :
    WhileRun (deleteTexturesBody n textures) ⟨textures.element i, tex, List.range i⟩
      (.ended (tex.deleteTextures ((List.ofFn textures.word).drop i)) (List.range count)) := by
  have hend : textures.pointer n = textures.element count := by rw [hn]; rfl
  -- by induction on the number of names that are left
  induction hleft : count - i generalizing i tex with
  | zero =>
      obtain rfl : i = count := by omega
      refine .leave ?_
      rw [deleteTexturesBody, hend, if_pos rfl, List.drop_of_length_le (by simp)]
      rfl
  | succ left ih =>
      have hlt : i < count := by omega
      have hmore : textures.element i ≠ textures.pointer n := by
        rw [hend]
        exact mt (WordArray.element_inj hi le_rfl).mp (Nat.ne_of_lt hlt)
      have hdrop : (List.ofFn textures.word).drop i =
          textures.word ⟨i, hlt⟩ :: (List.ofFn textures.word).drop (i + 1) := by
        rw [List.drop_eq_getElem_cons (by simpa using hlt)]
        simp
      have hturn : deleteTexturesBody n textures ⟨textures.element i, tex, List.range i⟩ =
          .again ⟨textures.element (i + 1), tex.deleteTexture (textures.word ⟨i, hlt⟩),
            List.range (i + 1)⟩ := by
        rw [deleteTexturesBody, if_neg hmore, WordArray.read_element hlt,
          WordArray.index_element hi, WordArray.element_add, List.range_succ]
      rw [hdrop]
      exact .again hturn (ih hlt _ (by omega))

theorem eq_ofNat_toInt_toNat {n : GLint} (hn : 0 ≤ n.toInt) :
    n = BitVec.ofNat 32 n.toInt.toNat := by
  have hlt := n.isLt
  apply BitVec.eq_of_toNat_eq
  rw [BitVec.toNat_ofNat]
  rw [BitVec.toInt_eq_toNat_cond] at hn ⊢
  split at hn <;> omega

/-- For two negative counts the array ends, by the overflow of its length in bytes, where it
begins. -/
theorem address_eq_pointer_iff {n : GLint} (hn : n.toInt < 0) (textures : WordArray GLuint count) :
    textures.address = textures.pointer n ↔ n.toInt = -2 ^ 30 ∨ n.toInt = -2 ^ 31 := by
  have haddress := textures.address.isLt
  have hlt := n.isLt
  unfold WordArray.pointer
  rw [← BitVec.toNat_inj, BitVec.toNat_add, BitVec.toNat_mul, BitVec.toNat_ofNat]
  rw [BitVec.toInt_eq_toNat_cond] at hn ⊢
  split at hn <;> omega

namespace GLClientState

variable {state : GLClientState} {n : GLint}

/-- With a count that is not negative, the loop deletes the names of the array one after the
other. -/
theorem deletesTextures_of_nonneg (hn : 0 ≤ n.toInt) (textures : WordArray GLuint n.toInt.toNat) :
    state.DeletesTextures n textures
      { state with tex := state.tex.deleteTextures (List.ofFn textures.word) }
      (List.range n.toInt.toNat) := by
  refine ⟨_, ?_, rfl⟩
  simpa using deleteTextures_run_from textures (eq_ofNat_toInt_toNat hn) (Nat.zero_le _) state.tex

/-- With a negative count, the loop ends at once or reads a name that is not there. -/
theorem deletesTextures_iff_of_neg (hn : n.toInt < 0) (textures : WordArray GLuint n.toInt.toNat)
    (state' : GLClientState) (read : List Nat) :
    state.DeletesTextures n textures state' read ↔
      (n.toInt = -2 ^ 30 ∨ n.toInt = -2 ^ 31) ∧ state' = state ∧ read = [] := by
  have hempty : n.toInt.toNat = 0 := Int.toNat_eq_zero.mpr (Int.le_of_lt hn)
  rw [← address_eq_pointer_iff hn textures]
  by_cases hend : textures.address = textures.pointer n
  · have hbody : deleteTexturesBody n textures ⟨textures.address, state.tex, []⟩ =
        .leave (.ended state.tex []) := if_pos hend
    constructor
    · rintro ⟨tex, hrun, rfl⟩
      cases (WhileRun.leave hbody).unique hrun
      exact ⟨hend, rfl, rfl⟩
    · rintro ⟨-, rfl, rfl⟩
      exact ⟨_, .leave hbody, rfl⟩
  · have hread : textures.read textures.address = none := dif_neg (by omega)
    have hbody : deleteTexturesBody n textures ⟨textures.address, state.tex, []⟩ =
        .leave (.outside textures.address) := by
      rw [deleteTexturesBody, if_neg hend, hread]
    constructor
    · rintro ⟨tex, hrun, -⟩
      cases (WhileRun.leave hbody).unique hrun
    · exact fun h => absurd h.1 hend

/-- The counts with which the loop reads just the names of its array. -/
theorem readsExactly_iff (state : GLClientState) (textures : WordArray GLuint n.toInt.toNat) :
    ReadsExactly id n (fun state' => state.DeletesTextures n textures state') state ↔
      0 ≤ n.toInt ∨ n.toInt = -2 ^ 30 ∨ n.toInt = -2 ^ 31 := by
  rcases lt_or_ge n.toInt 0 with hneg | hnonneg
  · have hrange : List.range n.toInt.toNat = [] := by
      rw [Int.toNat_eq_zero.mpr (Int.le_of_lt hneg), List.range_zero]
    constructor
    · rintro ⟨state', hrun, -⟩
      exact Or.inr ((deletesTextures_iff_of_neg hneg textures state' _).mp hrun).1
    · intro h
      have hsize := h.resolve_left (Int.not_le.mpr hneg)
      exact ⟨state, (deletesTextures_iff_of_neg hneg textures state _).mpr ⟨hsize, rfl, hrange⟩,
        fun _ => rfl⟩
  · exact iff_of_true ⟨_, deletesTextures_of_nonneg hnonneg textures,
      fun hneg => absurd hneg (Int.not_lt.mpr hnonneg)⟩ (Or.inl hnonneg)

end GLClientState

/-- An encoder reads the names that the client state reads. -/
theorem Encoder.readsExactly_iff {enc : GLint → WordArray GLuint count → List GLCmd}
    {ctx : Encoder} {n : GLint} {textures : WordArray GLuint count} :
    ReadsExactly Encoder.state n (fun ctx' => ctx.DeletesTextures enc n textures ctx') ctx ↔
      ReadsExactly id n (fun state => ctx.state.DeletesTextures n textures state) ctx.state := by
  constructor
  · rintro ⟨-, ⟨state, hrun, rfl⟩, hsame⟩
    exact ⟨state, hrun, hsame⟩
  · rintro ⟨state, hrun, hsame⟩
    exact ⟨_, ⟨state, hrun, rfl⟩, hsame⟩

end OpenglCodecCommon
end DeviceAndroVM
