import DeviceAndroVM.GLESv2Enc.Buffers
import DeviceAndroVM.OpenglCodecCommon.ArrayEnables

/-!
# Enabled vertex attributes of `GL2Encoder`

At every draw that `GL2Encoder` sends, the host has enabled exactly the generic
attributes that the client has.

* `Enables.s_glBufferData` and so on — the buffer calls, which both encoders have.
* `sendVertexAttribute_turn` — one turn of the loop of `sendVertexAttributes`.
* `runBufferCall_callAgrees` — every call keeps the enables tracked, and its draws agree.
-/

namespace DeviceAndroVM
namespace OpenglCodecCommon

open OpenGL GLESv2Enc

/-! ## The buffer calls -/

section Buffers

variable {bit : List GLCmd → Nat → Bool} {n : Nat} {ctx : Encoder}

theorem Enables.s_glBindBuffer
    (hneutral : ∀ cmd, HostArrays.concerns cmd = false → Neutral bit cmd)
    (h : Enables bit n ctx) (target : GLenum) (id : GLuint) :
    CallAgrees bit n ctx (GL2Encoder.s_glBindBuffer ctx target id) := by
  have hbound : Enables bit n { ctx with state := ctx.state.bindBuffer target id } :=
    ⟨h.tracks.bindBuffer target id, (length_bindBuffer ..).trans h.length⟩
  exact .of_sentNoDraw (hbound.emit (hneutral _ rfl)) (SentNoDraw.emit (SentNoDraw.of_eq rfl) rfl)

theorem Enables.s_glBufferData
    (hneutral : ∀ cmd, HostArrays.concerns cmd = false → Neutral bit cmd)
    (h : Enables bit n ctx) (target : GLenum) (size : GLint) (data : DataPtr) (usage : GLenum) :
    CallAgrees bit n ctx (GL2Encoder.s_glBufferData ctx target size data usage) := by
  have hfailed : ∀ error, CallAgrees bit n ctx (ctx.setError error) :=
    fun error => .of_sentNoDraw ⟨h.tracks, h.length⟩ (SentNoDraw.of_eq rfl)
  unfold GL2Encoder.s_glBufferData
  dsimp only
  split
  · exact hfailed _
  split
  · exact hfailed _
  · exact .of_sentNoDraw (Enables.emit ⟨h.tracks, h.length⟩ (hneutral _ rfl))
      (SentNoDraw.emit (SentNoDraw.of_eq rfl) rfl)

theorem Enables.s_glBufferSubData
    (hneutral : ∀ cmd, HostArrays.concerns cmd = false → Neutral bit cmd)
    (h : Enables bit n ctx) (target : GLenum) (offset size : GLint) (data : Nat → UInt8) :
    CallAgrees bit n ctx (GL2Encoder.s_glBufferSubData ctx target offset size data) := by
  unfold GL2Encoder.s_glBufferSubData
  dsimp only
  split
  · exact .of_sentNoDraw ⟨h.tracks, h.length⟩ (SentNoDraw.of_eq rfl)
  split
  · exact .of_sentNoDraw ⟨h.tracks, h.length⟩ (SentNoDraw.of_eq rfl)
  · exact .of_sentNoDraw (Enables.emit ⟨h.tracks, h.length⟩ (hneutral _ rfl))
      (SentNoDraw.emit (SentNoDraw.of_eq rfl) rfl)

theorem Enables.s_glDeleteBuffers
    (hneutral : ∀ cmd, HostArrays.concerns cmd = false → Neutral bit cmd)
    (h : Enables bit n ctx) (count : GLint) (buffers : Nat → GLuint) :
    CallAgrees bit n ctx (GL2Encoder.s_glDeleteBuffers ctx count buffers) := by
  have hloop : ∀ (names : List GLuint) ctx', Enables bit n ctx' → SentNoDraw ctx ctx' →
      CallAgrees bit n ctx (names.foldl GL2Encoder.deleteBuffer ctx') := by
    intro names
    induction names with
    | nil => exact fun ctx' h' hsent => .of_sentNoDraw h' hsent
    | cons name rest ih =>
        intro ctx' h' hsent
        exact ih _ (Enables.emit ⟨h'.tracks, h'.length⟩ (hneutral _ rfl))
          (hsent.trans (SentNoDraw.emit (SentNoDraw.of_eq rfl) rfl))
  unfold GL2Encoder.s_glDeleteBuffers
  split
  · exact .of_sentNoDraw ⟨h.tracks, h.length⟩ (SentNoDraw.of_eq rfl)
  · exact hloop _ ctx h (SentNoDraw.of_eq rfl)

end Buffers

end OpenglCodecCommon

namespace GLESv2Enc

open OpenGL Library OpenglCodecCommon GL2Encoder

variable {caps : HostCaps} {maxVertexAttribs : Nat} {ctx ctx' : Encoder}

/-! ## The loop over the attributes -/

/-- The host's enable of the generic attribute `i`. -/
def attribBit (caps : HostCaps) (maxVertexAttribs : Nat) (stream : List GLCmd) (i : Nat) : Bool :=
  (hostArrays caps maxVertexAttribs stream).attribs i

theorem neutral_attribBit (cmd : GLCmd) (h : HostArrays.concerns cmd = false) :
    Neutral (attribBit caps maxVertexAttribs) cmd := by
  intro stream i
  rw [attribBit, hostArrays_append, HostArrays.exec_of_not_concerns _ _ _ h]
  rfl

/-- A command on one attribute. -/
theorem attribBit_setAttrib {cmd : GLCmd} {index : GLuint} {on : Bool}
    (h : ∀ host : HostArrays, host.exec caps maxVertexAttribs cmd =
      host.setAttrib maxVertexAttribs index on) (stream : List GLCmd) (i : Nat) :
    attribBit caps maxVertexAttribs (stream ++ [cmd]) i =
      if i = index.toNat ∧ i < maxVertexAttribs then on
      else attribBit caps maxVertexAttribs stream i := by
  have hset : attribBit caps maxVertexAttribs (stream ++ [cmd]) i =
      ((hostArrays caps maxVertexAttribs stream).setAttrib maxVertexAttribs index on).attribs
        i := by
    rw [attribBit, hostArrays_append, h]
  rw [hset, HostArrays.setAttrib]
  by_cases hlimit : index.toNat < maxVertexAttribs
  · rw [if_pos hlimit]
    by_cases hi : i = index.toNat
    · rw [if_pos ⟨hi, hi ▸ hlimit⟩, hi]
      exact Function.update_self ..
    · rw [if_neg fun hand => hi hand.1]
      exact Function.update_of_ne hi _ _
  · have hnot : ¬(i = index.toNat ∧ i < maxVertexAttribs) := by
      rintro ⟨rfl, hlt⟩
      exact hlimit hlt
    rw [if_neg hlimit, if_neg hnot]
    rfl

/-- One turn of the loop of `sendVertexAttributes`. -/
theorem sendVertexAttribute_turn (first count : GLint) (ctx : Encoder) {i : Nat}
    (hi : i < 2 ^ 32) :
    Turn (attribBit caps maxVertexAttribs) maxVertexAttribs i ctx
      (sendVertexAttribute first count ctx i) := by
  have hindex : (BitVec.ofNat 32 i).toNat = i := by
    rw [BitVec.toNat_ofNat]
    exact Nat.mod_eq_of_lt hi
  unfold sendVertexAttribute
  cases hattrib : ctx.state.states[i]? with
  | none =>
      have hget : (ctx.state.getStateAndEnableDirty i).1 = none := hattrib
      dsimp only
      rw [hget]
      exact Turn.skip fun _ attrib hsome => by simp [hattrib] at hsome
  | some attrib =>
      have hget : (ctx.state.getStateAndEnableDirty i).1 = some attrib := hattrib
      -- an enable that is sent for this location
      have hset : ∀ (cmd : GLCmd) (on : Bool), (∀ host : HostArrays,
          host.exec caps maxVertexAttribs cmd = host.setAttrib maxVertexAttribs
            (BitVec.ofNat 32 i) on) → attrib.isEnabled = on → cmd.isDraw = false →
          Turn (attribBit caps maxVertexAttribs) maxVertexAttribs i ctx
            ((ctx.cleaned i).emit cmd) := by
        intro cmd on hexec hon hdraw
        refine Turn.emit_enable hattrib rfl (SentNoDraw.of_eq rfl) (fun _ => rfl) ?_ ?_ hdraw
        · intro j _ hj
          rw [attribBit_setAttrib hexec, hindex, if_neg fun hand => hj hand.1]
        · intro hlt
          rw [attribBit_setAttrib hexec, hindex, if_pos ⟨rfl, hlt⟩, hon]
      dsimp only
      rw [hget]
      dsimp only
      split
      · rename_i hskip
        exact Turn.skip fun _ other hother => by simp_all
      · rename_i hsend
        split
        · rename_i henabled
          have hturn := hset (.glEnableVertexAttribArray (BitVec.ofNat 32 i)) true
            (fun _ => rfl) (by simpa [VertexAttribState.isEnabled] using henabled) rfl
          split
          · exact hturn.emit (neutral_attribBit _ rfl) rfl
          · exact ((hturn.emit (neutral_attribBit _ rfl) rfl).emit
              (neutral_attribBit _ rfl) rfl).emit (neutral_attribBit _ rfl) rfl
        · rename_i hdisabled
          exact hset (.glDisableVertexAttribArray (BitVec.ofNat 32 i)) false
            (fun _ => rfl) (by simpa [VertexAttribState.isEnabled] using hdisabled) rfl

/-- The loop of `sendVertexAttributes` leaves the host ready for a draw. -/
theorem sendVertexAttributes_ready
    (h : Enables (attribBit caps maxVertexAttribs) maxVertexAttribs ctx) (first count : GLint) :
    Ready (attribBit caps maxVertexAttribs) maxVertexAttribs ctx
      (sendVertexAttributes ctx first count) := by
  have hsent : Sent (attribBit caps maxVertexAttribs) maxVertexAttribs ctx.state.nLocations ctx
      (sendVertexAttributes ctx first count) := by
    refine Sent.loop h.tracks fun ctx' i hi => sendVertexAttribute_turn first count ctx' ?_
    rw [GLClientState.nLocations, h.length] at hi
    exact Nat.lt_trans hi (by decide)
  exact hsent.ready fun _ _ hlt => hlt

/-! ## Draws -/

theorem drawAdjusted_callAgrees
    (h : Enables (attribBit caps maxVertexAttribs) maxVertexAttribs ctx) (mode : GLenum)
    (count : GLint) (type : GLenum) (indices : Nat → UInt8) :
    CallAgrees (attribBit caps maxVertexAttribs) maxVertexAttribs ctx
      (drawAdjusted ctx mode count type indices) :=
  .of_ready h (sendVertexAttributes_ready h _ _) (neutral_attribBit _ rfl)

theorem s_glDrawElements_callAgrees
    (h : Enables (attribBit caps maxVertexAttribs) maxVertexAttribs ctx) {mode : GLenum}
    {count : GLint} {type : GLenum} {indices : VoidPtr} {memory : Nat → UInt8}
    (hcall : s_glDrawElements ctx mode count type indices memory = some ctx') :
    CallAgrees (attribBit caps maxVertexAttribs) maxVertexAttribs ctx ctx' := by
  unfold s_glDrawElements at hcall
  split at hcall
  · cases hcall
    exact .of_sentNoDraw ⟨h.tracks, h.length⟩ (SentNoDraw.of_eq rfl)
  split at hcall
  · cases hcall
    exact .of_sentNoDraw h (SentNoDraw.of_eq rfl)
  split at hcall
  · split at hcall
    · cases hcall
      exact .of_ready h ((sendVertexAttributes_ready h _ _).emit (neutral_attribBit _ rfl) rfl)
        (neutral_attribBit _ rfl)
    · split at hcall
      · cases hcall
      · -- the index buffer is unbound first
        cases hcall
        have hunbound := h.emit (neutral_attribBit
          (.glBindBuffer GL_ELEMENT_ARRAY_BUFFER 0#32) rfl)
        exact .of_ready h ((sendVertexAttributes_ready hunbound _ _).after_emit rfl)
          (neutral_attribBit _ rfl)
  · cases hcall
    exact drawAdjusted_callAgrees h mode count type memory

/-! ## Calls -/

/-- Every buffer call and every draw keeps the enables tracked, and its draws agree. -/
theorem runBufferCall_callAgrees
    (h : Enables (attribBit caps maxVertexAttribs) maxVertexAttribs ctx) {call : GL2BufferCall}
    (hcall : runBufferCall ctx call = some ctx') :
    CallAgrees (attribBit caps maxVertexAttribs) maxVertexAttribs ctx ctx' := by
  cases call with
  | glBindBuffer target id =>
      cases hcall
      exact h.s_glBindBuffer neutral_attribBit target id
  | glBufferData target size data usage =>
      cases hcall
      exact h.s_glBufferData neutral_attribBit target size data usage
  | glBufferSubData target offset size data =>
      cases hcall
      exact h.s_glBufferSubData neutral_attribBit target offset size data
  | glDeleteBuffers n buffers =>
      cases hcall
      exact h.s_glDeleteBuffers neutral_attribBit n buffers
  | glVertexAttribPointer indx size type normalized stride ptr =>
      cases hcall
      exact h.setState indx size type normalized stride ptr
  | glEnableVertexAttribArray index =>
      cases hcall
      exact h.enable index 1#32
  | glDisableVertexAttribArray index =>
      cases hcall
      exact h.enable index 0#32
  | glDrawArrays mode first count =>
      cases hcall
      exact .of_ready h (sendVertexAttributes_ready h _ _) (neutral_attribBit _ rfl)
  | glDrawElements mode count type indices memory => exact s_glDrawElements_callAgrees h hcall

end GLESv2Enc
end DeviceAndroVM
