import DeviceAndroVM.GLESv1Enc.Arrays
import DeviceAndroVM.GLESv2Enc.ArrayEnables
import DeviceAndroVM.Library.Transition

/-!
# Enabled client arrays of `GLEncoder`

At every draw that `GLEncoder` sends, the host has enabled exactly the client arrays
that the client has, the texture coordinates of each unit included.

* `arrayBit` — the host's enable of a location after a stream.
* `sendVertexArray_turn` — one turn of the loop of `sendVertexData`; the host's client
  unit is selected before an array of texture coordinates.
* `vertex_array_enables_at_draws` — both encoders, over all runs.
-/

namespace DeviceAndroVM
namespace GLESv1Enc

open OpenGL Library OpenglCodecCommon GLEncoder

variable {caps : HostCaps} {maxVertexAttribs : Nat} {ctx ctx' : Encoder}

/-- The texture unit of a location, 0 when it belongs to none. -/
def texUnit (i : Nat) : Nat := if isTexCoord i then i - TEXCOORD0_LOCATION else 0

/-- The host's enable of the location `i`. -/
def arrayBit (caps : HostCaps) (maxVertexAttribs : Nat) (stream : List GLCmd) (i : Nat) : Bool :=
  (hostArrays caps maxVertexAttribs stream).clientArrays (glConst i) (texUnit i)

/-- Each location of `StateLocation` has an array of its own. -/
theorem glConst_texUnit_injective :
    ∀ i < LAST_LOCATION, ∀ j < LAST_LOCATION,
      glConst j = glConst i → texUnit j = texUnit i → j = i := by
  decide

theorem neutral_arrayBit (cmd : GLCmd) (h : HostArrays.concerns cmd = false) :
    Neutral (arrayBit caps maxVertexAttribs) cmd := by
  intro stream i
  rw [arrayBit, hostArrays_append, HostArrays.exec_of_not_concerns _ _ _ h]
  rfl

/-! ## The loop over the locations -/

/-- An enable sent now is that of location `i`. -/
def Selected (caps : HostCaps) (maxVertexAttribs : Nat) (ctx : Encoder) (i : Nat) : Prop :=
  (hostArrays caps maxVertexAttribs ctx.stream).unitOf (glConst i) = texUnit i

/-- The part of a turn before the enable. -/
def selectUnit (ctx : Encoder) (i : Nat) : Encoder :=
  if isTexCoord i then
    ctx.emit (.glClientActiveTexture (GL_TEXTURE0 + BitVec.ofNat 32 (i - TEXCOORD0_LOCATION)))
  else ctx

theorem glConst_of_isTexCoord :
    ∀ i < LAST_LOCATION, glConst i = GL_TEXTURE_COORD_ARRAY ↔ isTexCoord i = true := by
  decide

theorem selectUnit_selected (ctx : Encoder) {i : Nat} (hi : i < LAST_LOCATION) :
    Selected caps maxVertexAttribs (selectUnit ctx i) i := by
  unfold Selected selectUnit HostArrays.unitOf texUnit
  by_cases htex : isTexCoord i = true
  · have hunit : (GL_TEXTURE0 + BitVec.ofNat 32 (i - TEXCOORD0_LOCATION) - GL_TEXTURE0).toNat =
        i - TEXCOORD0_LOCATION := by
      rw [BitVec.add_comm, BitVec.add_sub_cancel, BitVec.toNat_ofNat]
      exact Nat.mod_eq_of_lt (Nat.lt_of_le_of_lt (Nat.sub_le _ _) (Nat.lt_trans hi (by decide)))
    have hlt : i - TEXCOORD0_LOCATION < caps.maxUnits :=
      Nat.lt_of_lt_of_le (Nat.lt_of_le_of_lt (Nat.sub_le _ _) (Nat.lt_trans hi (by decide)))
        caps.units_le
    rw [if_pos htex, if_pos ((glConst_of_isTexCoord i hi).mpr htex), if_pos htex, Encoder.emit,
      hostArrays_append]
    unfold HostArrays.exec
    dsimp only
    rw [hunit, if_pos hlt]
  · have hconst : glConst i ≠ GL_TEXTURE_COORD_ARRAY :=
      fun heq => htex ((glConst_of_isTexCoord i hi).mp heq)
    rw [if_neg htex, if_neg hconst, if_neg htex]

/-- Selecting a unit changes no enable. -/
theorem arrayBit_selectUnit (ctx : Encoder) (i j : Nat) :
    arrayBit caps maxVertexAttribs (selectUnit ctx i).stream j =
      arrayBit caps maxVertexAttribs ctx.stream j := by
  unfold selectUnit
  split
  · rw [arrayBit, Encoder.emit, hostArrays_append]
    unfold HostArrays.exec
    dsimp only
    split
    · rfl
    · rfl
  · rfl

/-- A command on the array of a location. -/
theorem arrayBit_setClientArray {cmd : GLCmd} {i : Nat} {on : Bool}
    (h : ∀ host : HostArrays, host.exec caps maxVertexAttribs cmd =
      host.setClientArray (glConst i) on) (hselected : Selected caps maxVertexAttribs ctx i)
    (j : Nat) :
    arrayBit caps maxVertexAttribs (ctx.stream ++ [cmd]) j =
      if glConst j = glConst i ∧ texUnit j = texUnit i then on
      else arrayBit caps maxVertexAttribs ctx.stream j := by
  have hset : arrayBit caps maxVertexAttribs (ctx.stream ++ [cmd]) j =
      ((hostArrays caps maxVertexAttribs ctx.stream).setClientArray (glConst i)
        on).clientArrays (glConst j) (texUnit j) := by
    rw [arrayBit, hostArrays_append, h]
  rw [hset, HostArrays.setClientArray]
  dsimp only
  rw [hselected]
  rfl

/-- The pointer of an array changes no enable. -/
theorem sendPointer_turn {i : Nat} {base : Encoder}
    (h : Turn (arrayBit caps maxVertexAttribs) LAST_LOCATION i base ctx)
    (state : VertexAttribState) (first count : GLuint) :
    Turn (arrayBit caps maxVertexAttribs) LAST_LOCATION i base
      (sendPointer ctx i state first count) := by
  have hpointer : ∀ {ctx' : Encoder} {cmd : ArrayPointer → GLCmd},
      Turn (arrayBit caps maxVertexAttribs) LAST_LOCATION i base ctx' →
      (∀ array, HostArrays.concerns (cmd array) = false) → (∀ array, (cmd array).isDraw = false) →
      Turn (arrayBit caps maxVertexAttribs) LAST_LOCATION i base (emitPointer ctx' i cmd) := by
    intro ctx' cmd h' hconcerns hdraw
    unfold emitPointer
    split
    · exact h'.emit (neutral_arrayBit _ (hconcerns _)) (hdraw _)
    · exact h'
  unfold sendPointer
  dsimp only
  split
  · exact hpointer h (fun _ => rfl) fun _ => rfl
  · have hbound := h.emit (neutral_arrayBit
      (.glBindBuffer GL_ARRAY_BUFFER state.bufferObject) rfl) rfl
    exact (hpointer hbound (fun _ => rfl) fun _ => rfl).emit (neutral_arrayBit _ rfl) rfl

theorem selectUnit_sentNoDraw (ctx : Encoder) (i : Nat) : SentNoDraw ctx (selectUnit ctx i) := by
  unfold selectUnit
  split
  · exact (SentNoDraw.of_eq rfl).emit rfl
  · exact SentNoDraw.of_eq rfl

theorem selectUnit_states (ctx : Encoder) (i : Nat) :
    (selectUnit ctx i).state = ctx.state := by
  unfold selectUnit
  split
  · rfl
  · rfl

/-- One turn of the loop of `sendVertexData`. -/
theorem sendVertexArray_turn (first count : GLuint) (ctx : Encoder) {i : Nat}
    (hi : i < LAST_LOCATION) :
    Turn (arrayBit caps maxVertexAttribs) LAST_LOCATION i ctx
      (sendVertexArray first count ctx i) := by
  unfold sendVertexArray
  cases hattrib : ctx.state.states[i]? with
  | none =>
      have hget : (ctx.state.getStateAndEnableDirty i).1 = none := hattrib
      dsimp only
      rw [hget]
      exact Turn.skip fun _ attrib hsome => by simp [hattrib] at hsome
  | some attrib =>
      have hget : (ctx.state.getStateAndEnableDirty i).1 = some attrib := hattrib
      have hstates : (selectUnit (ctx.cleaned i) i).state.states =
          ctx.state.states.modify i VertexAttribState.clean := by
        rw [selectUnit_states]
        rfl
      have hsent : SentNoDraw ctx (selectUnit (ctx.cleaned i) i) :=
        (SentNoDraw.of_eq rfl).trans (selectUnit_sentNoDraw (ctx.cleaned i) i)
      have hsame : ∀ j, arrayBit caps maxVertexAttribs (selectUnit (ctx.cleaned i) i).stream j =
          arrayBit caps maxVertexAttribs ctx.stream j :=
        fun j => arrayBit_selectUnit (ctx.cleaned i) i j
      -- an enable that is sent for this location
      have hset : ∀ (cmd : GLCmd) (on : Bool), (∀ host : HostArrays,
          host.exec caps maxVertexAttribs cmd = host.setClientArray (glConst i) on) →
          attrib.isEnabled = on → cmd.isDraw = false →
          Turn (arrayBit caps maxVertexAttribs) LAST_LOCATION i ctx
            ((selectUnit (ctx.cleaned i) i).emit cmd) := by
        intro cmd on hexec hon hdraw
        have hselected : Selected caps maxVertexAttribs (selectUnit (ctx.cleaned i) i) i :=
          selectUnit_selected (ctx.cleaned i) hi
        refine Turn.emit_enable hattrib hstates hsent hsame ?_ ?_ hdraw
        · intro j hj hne
          rw [arrayBit_setClientArray hexec hselected, if_neg]
          rintro ⟨hconst, hunit⟩
          exact hne (glConst_texUnit_injective i hi j hj hconst hunit)
        · intro _
          rw [arrayBit_setClientArray hexec hselected, if_pos ⟨rfl, rfl⟩, hon]
      dsimp only
      rw [hget]
      dsimp only
      split
      · rename_i hskip
        exact Turn.skip fun _ other hother => by simp_all
      · rename_i hsend
        split
        · rename_i henabled
          have hon : attrib.isEnabled = true := by
            simpa [VertexAttribState.isEnabled] using henabled
          split
          · exact sendPointer_turn (hset (.glEnableClientState (glConst i)) true
              (fun _ => rfl) hon rfl) attrib first count
          · -- the array was enabled before and has not changed since
            rename_i hclean
            refine sendPointer_turn ⟨hstates, hsent, fun j _ _ => hsame j, ?_⟩ attrib first count
            intro _ other hother
            rw [hattrib] at hother
            cases hother
            exact Or.inr ⟨by simpa using hclean, hsame i⟩
        · rename_i hdisabled
          exact hset (.glDisableClientState (glConst i)) false (fun _ => rfl)
            (by simpa [VertexAttribState.isEnabled] using hdisabled) rfl

/-- The loop of `sendVertexData` leaves the host ready for a draw. -/
theorem sendVertexData_ready (h : Enables (arrayBit caps maxVertexAttribs) LAST_LOCATION ctx)
    (first count : GLuint) :
    Ready (arrayBit caps maxVertexAttribs) LAST_LOCATION ctx (sendVertexData ctx first count) := by
  have hsent : Sent (arrayBit caps maxVertexAttribs) LAST_LOCATION LAST_LOCATION ctx
      (sendVertexData ctx first count) :=
    Sent.loop h.tracks fun ctx' _ hi => sendVertexArray_turn first count ctx' hi
  exact hsent.ready fun _ hi _ => hi

/-! ## Draws -/

/-- The draw after the loop. -/
theorem draw_callAgrees {ready : Encoder} {cmd : GLCmd}
    (h : Enables (arrayBit caps maxVertexAttribs) LAST_LOCATION ctx)
    (hready : Ready (arrayBit caps maxVertexAttribs) LAST_LOCATION ctx ready)
    (hcmd : HostArrays.concerns cmd = false) :
    CallAgrees (arrayBit caps maxVertexAttribs) LAST_LOCATION ctx (ready.emit cmd) :=
  .of_ready h hready (neutral_arrayBit cmd hcmd)

theorem drawAdjusted_callAgrees (h : Enables (arrayBit caps maxVertexAttribs) LAST_LOCATION ctx)
    (mode : GLenum) (count : GLint) (type : GLenum) (indices : Nat → UInt8) :
    CallAgrees (arrayBit caps maxVertexAttribs) LAST_LOCATION ctx
      (drawAdjusted ctx mode count type indices) := by
  unfold drawAdjusted
  dsimp only
  exact draw_callAgrees h (sendVertexData_ready h _ _) rfl

theorem s_glDrawElements_callAgrees
    (h : Enables (arrayBit caps maxVertexAttribs) LAST_LOCATION ctx) {mode : GLenum}
    {count : GLint} {type : GLenum} {indices : VoidPtr} {memory : Nat → UInt8}
    (hcall : s_glDrawElements ctx mode count type indices memory = some ctx') :
    CallAgrees (arrayBit caps maxVertexAttribs) LAST_LOCATION ctx ctx' := by
  unfold s_glDrawElements at hcall
  split at hcall
  · obtain rfl := Option.some.inj hcall
    exact .of_sentNoDraw ⟨h.tracks, h.length⟩ (SentNoDraw.of_eq rfl)
  split at hcall
  · obtain rfl := Option.some.inj hcall
    exact .of_sentNoDraw h (SentNoDraw.of_eq rfl)
  split at hcall
  · split at hcall
    · obtain rfl := Option.some.inj hcall
      exact draw_callAgrees h
        ((sendVertexData_ready h _ _).emit (neutral_arrayBit _ rfl) rfl) rfl
    · split at hcall
      · cases hcall
      · -- the index buffer is unbound first
        obtain rfl := Option.some.inj hcall
        have hunbound := h.emit (neutral_arrayBit
          (.glBindBuffer GL_ELEMENT_ARRAY_BUFFER 0#32) rfl)
        unfold drawAdjusted
        dsimp only
        exact draw_callAgrees h ((sendVertexData_ready hunbound _ _).after_emit rfl) rfl
  · obtain rfl := Option.some.inj hcall
    exact drawAdjusted_callAgrees h mode count type memory

/-! ## Runs -/

/-- Every call keeps the enables tracked, and its draws agree. -/
theorem runArrayCall_callAgrees (h : Enables (arrayBit caps maxVertexAttribs) LAST_LOCATION ctx)
    {call : GLArrayCall} (hcall : runArrayCall ctx call = some ctx') :
    CallAgrees (arrayBit caps maxVertexAttribs) LAST_LOCATION ctx ctx' := by
  cases call with
  | glVertexPointer size type stride data
  | glNormalPointer type stride data
  | glColorPointer size type stride data
  | glPointSizePointerOES type stride data
  | glTexCoordPointer size type stride data
  | glMatrixIndexPointerOES size type stride data
  | glWeightPointerOES size type stride data =>
      cases hcall
      exact h.setState ..
  | glClientActiveTexture texture =>
      cases hcall
      exact .of_sentNoDraw ⟨h.tracks, h.length⟩ (SentNoDraw.of_eq rfl)
  | glEnableClientState state =>
      cases hcall
      exact h.enable (ctx.state.getLocation state) 1#32
  | glDisableClientState state =>
      cases hcall
      exact h.enable (ctx.state.getLocation state) 0#32
  | glBindBuffer target id =>
      cases hcall
      exact h.s_glBindBuffer neutral_arrayBit target id
  | glBufferData target size data usage =>
      cases hcall
      exact h.s_glBufferData neutral_arrayBit target size data usage
  | glBufferSubData target offset size data =>
      cases hcall
      exact h.s_glBufferSubData neutral_arrayBit target offset size data
  | glDeleteBuffers n buffers =>
      cases hcall
      exact h.s_glDeleteBuffers neutral_arrayBit n buffers
  | glDrawArrays mode first count =>
      obtain rfl := Option.some.inj hcall
      exact draw_callAgrees h (sendVertexData_ready h _ _) rfl
  | glDrawElements mode count type indices memory => exact s_glDrawElements_callAgrees h hcall

/-- For every context of either encoder and every sequence of calls on its arrays, sent
and ignored draws among them: at every draw command, the host has enabled a location
exactly when the client has. -/
theorem vertex_array_enables_at_draws (caps : HostCaps) (maxVertexAttribs : Nat)
    (memory : Nat → VertexAttribState) (shared : GLSharedGroup) :
    (∀ trace : List (GLESv2Enc.GL2Encoder.GL2BufferCall × Encoder),
      Run (fun ctx call ctx' => GLESv2Enc.GL2Encoder.runBufferCall ctx call = some ctx')
        (Encoder.init memory shared) trace →
      EachStep (fun ctx _ ctx' => DrawsAgree (GLESv2Enc.attribBit caps maxVertexAttribs)
        maxVertexAttribs ctx ctx') (Encoder.init memory shared) trace) ∧
    ∀ trace : List (GLArrayCall × Encoder),
      Run (fun ctx call ctx' => runArrayCall ctx call = some ctx')
        (Encoder.init memory shared) trace →
      EachStep (fun ctx _ ctx' => DrawsAgree (arrayBit caps maxVertexAttribs)
        LAST_LOCATION ctx ctx') (Encoder.init memory shared) trace := by
  constructor
  · intro trace hrun
    have hinit := enables_init (n := maxVertexAttribs)
      (fun _ => rfl : ∀ i, GLESv2Enc.attribBit caps maxVertexAttribs [] i = false) memory shared
    have hcall : ∀ (ctx : Encoder) (call : GLESv2Enc.GL2Encoder.GL2BufferCall) (ctx' : Encoder),
        Enables (GLESv2Enc.attribBit caps maxVertexAttribs) maxVertexAttribs ctx →
        GLESv2Enc.GL2Encoder.runBufferCall ctx call = some ctx' → CallAgrees
          (GLESv2Enc.attribBit caps maxVertexAttribs) maxVertexAttribs ctx ctx' :=
      fun _ _ _ h hstep => GLESv2Enc.runBufferCall_callAgrees h hstep
    exact hrun.eachStep (fun ctx call ctx' h hstep => (hcall ctx call ctx' h hstep).enables)
      (fun ctx call ctx' h hstep => (hcall ctx call ctx' h hstep).draws) hinit
  · intro trace hrun
    have hinit := enables_init (n := LAST_LOCATION)
      (fun _ => rfl : ∀ i, arrayBit caps maxVertexAttribs [] i = false) memory shared
    have hcall : ∀ (ctx : Encoder) (call : GLArrayCall) (ctx' : Encoder),
        Enables (arrayBit caps maxVertexAttribs) LAST_LOCATION ctx →
        runArrayCall ctx call = some ctx' →
        CallAgrees (arrayBit caps maxVertexAttribs) LAST_LOCATION ctx ctx' :=
      fun _ _ _ h hstep => runArrayCall_callAgrees h hstep
    exact hrun.eachStep (fun ctx call ctx' h hstep => (hcall ctx call ctx' h hstep).enables)
      (fun ctx call ctx' h hstep => (hcall ctx call ctx' h hstep).draws) hinit

/-- An ignored draw between the enables: with a negative count in `GL2Encoder`, before
any array is enabled in `GLEncoder`. -/
theorem vertex_array_enables_ignored_draw :
    let memory : Nat → VertexAttribState :=
      fun _ => ⟨0#32, 4#32, GL_FLOAT, 0#32, 0#32, 0#32, 16#32, false, false⟩
    let attribs : List GLESv2Enc.GL2Encoder.GL2BufferCall :=
      [.glEnableVertexAttribArray 3#32, .glDrawElements 4#32 (-1) GL_UNSIGNED_SHORT 0 fun _ => 0,
        .glDisableVertexAttribArray 3#32, .glDrawArrays 4#32 0#32 3#32]
    let arrays : List GLArrayCall :=
      [.glDrawElements 4#32 3#32 GL_UNSIGNED_SHORT 0 fun _ => 0, .glClientActiveTexture 0x84C1#32,
        .glEnableClientState GL_TEXTURE_COORD_ARRAY, .glDrawArrays 4#32 0#32 3#32]
    let shared := GLSharedGroup.init
    EachStep (fun ctx _ ctx' => DrawsAgree (GLESv2Enc.attribBit HostCaps.minimal 16) 16 ctx ctx')
        (Encoder.init memory shared)
        (partialTraceOf GLESv2Enc.GL2Encoder.runBufferCall (Encoder.init memory shared) attribs) ∧
      EachStep (fun ctx _ ctx' => DrawsAgree (arrayBit HostCaps.minimal 16) LAST_LOCATION ctx ctx')
        (Encoder.init memory shared)
        (partialTraceOf runArrayCall (Encoder.init memory shared) arrays) := by
  intro memory attribs arrays shared
  have h := vertex_array_enables_at_draws HostCaps.minimal 16 memory shared
  exact ⟨h.1 _ (run_partialTraceOf _ _ _), h.2 _ (run_partialTraceOf _ _ _)⟩

end GLESv1Enc
end DeviceAndroVM
