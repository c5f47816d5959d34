import DeviceAndroVM.GLESv2Enc.Buffers
import DeviceAndroVM.Library.Lookup
import DeviceAndroVM.Library.Transition

/-!
# Buffers of a GLES2 context

The client keeps a copy of the two buffer bindings and of the contents of every
buffer object.

* `Mirrored` — the bindings agree, the bound buffers are live, and the shadow copies
  are those of live buffers and have their contents.
* `InStep` — the calls that change both sides alike.
* `agree_s_glDeleteBuffers_iff`, `agree_s_glDrawElements_iff` — of these two calls,
  every one that is not in step breaks the agreement.
* `buffers_agree` — a run of calls in step keeps client and host in agreement.
* `delete_leaves_binding` — `glDeleteBuffers` of a bound buffer does not.
-/

namespace DeviceAndroVM
namespace GLESv2Enc

open OpenGL Library OpenglCodecCommon

/-! ## The relation -/

/-- A shadow copy has the size and the bytes of a buffer; a buffer that was given no
data is empty and needs none. -/
def ShadowAgrees : Option BufferData → ByteBlock → Prop
  | some buf, bytes => buf.size.toInt = bytes.length ∧ buf.bytes = bytes
  | none, bytes => bytes = []

/-- The host's bindings are the client's, and the shadow copies of its buffers agree. -/
structure BuffersAgree (ctx : Encoder) (host : Host) : Prop where
  arrayBuffer : host.arrayBuffer = ctx.state.currentArrayVbo
  elementBuffer : host.elementBuffer = ctx.state.currentIndexVbo
  shadow : ∀ name bytes, host.buffers.lookup name = some bytes →
    ShadowAgrees (ctx.shared.getBufferData name) bytes

/-- The relation that the calls keep, for the client's bindings and records. -/
structure Mirrored (arrayVbo indexVbo : GLuint) (shared : GLSharedGroup) (host : Host) : Prop where
  arrayBuffer : host.arrayBuffer = arrayVbo
  elementBuffer : host.elementBuffer = indexVbo
  arrayLive : arrayVbo ≠ 0#32 → arrayVbo ∈ host.buffers
  elementLive : indexVbo ≠ 0#32 → indexVbo ∈ host.buffers
  zero : 0#32 ∉ host.buffers
  records : ∀ name buf, shared.buffers.lookup name = some buf → name ∈ host.buffers
  shadow : ∀ name bytes, host.buffers.lookup name = some bytes →
    ShadowAgrees (shared.buffers.lookup name) bytes

variable {arrayVbo indexVbo : GLuint} {shared : GLSharedGroup} {host : Host} {caps : HostCaps}

theorem mirrored_init : Mirrored 0#32 0#32 GLSharedGroup.init Host.init where
  arrayBuffer := rfl
  elementBuffer := rfl
  arrayLive := fun hne => absurd rfl hne
  elementLive := fun hne => absurd rfl hne
  zero := AList.notMem_empty _
  records := by
    intro name buf hlookup
    cases hlookup
  shadow := by
    intro name bytes hlookup
    cases hlookup

/-! ### Binding -/

/-- A new buffer object is empty, like the missing shadow copy. -/
theorem Mirrored.create (h : Mirrored arrayVbo indexVbo shared host) {buffer : GLuint}
    (hne : buffer ≠ 0#32) (hnone : host.buffers.lookup buffer = none) :
    Mirrored arrayVbo indexVbo shared
      { host with buffers := host.buffers.insert buffer [] } where
  arrayBuffer := h.arrayBuffer
  elementBuffer := h.elementBuffer
  arrayLive := fun hbound => AList.mem_insert _ |>.mpr (Or.inr (h.arrayLive hbound))
  elementLive := fun hbound => AList.mem_insert _ |>.mpr (Or.inr (h.elementLive hbound))
  zero := by
    rw [AList.mem_insert]
    exact fun hor => hor.elim (fun heq => hne heq.symm) h.zero
  records := fun name buf hlookup => AList.mem_insert _ |>.mpr (Or.inr (h.records name buf hlookup))
  shadow := by
    intro name bytes hlookup
    rcases lookup_insert_eq_some.mp hlookup with ⟨rfl, rfl⟩ | ⟨-, hold⟩
    · have habsent : shared.buffers.lookup name = none := by
        cases hrecord : shared.buffers.lookup name with
        | none => rfl
        | some buf =>
            have hmem := h.records name buf hrecord
            rw [← AList.lookup_isSome, hnone] at hmem
            cases hmem
      rw [habsent]
      exact rfl
    · exact h.shadow name bytes hold

/-- Before the binding is set, the buffer object is there. -/
theorem Mirrored.created (h : Mirrored arrayVbo indexVbo shared host) (buffer : GLuint) :
    ∃ created : Host,
      (if buffer ≠ 0#32 ∧ host.buffers.lookup buffer = none then
        { host with buffers := host.buffers.insert buffer [] } else host) = created ∧
      Mirrored arrayVbo indexVbo shared created ∧
      (buffer ≠ 0#32 → buffer ∈ created.buffers) := by
  by_cases hnew : buffer ≠ 0#32 ∧ host.buffers.lookup buffer = none
  · refine ⟨_, if_pos hnew, h.create hnew.1 hnew.2, ?_⟩
    intro _
    exact AList.mem_insert _ |>.mpr (Or.inl rfl)
  · refine ⟨_, if_neg hnew, h, ?_⟩
    intro hne
    rw [← AList.lookup_isSome, Option.isSome_iff_ne_none]
    exact fun hnone => hnew ⟨hne, hnone⟩

theorem Mirrored.bindArray (h : Mirrored arrayVbo indexVbo shared host) (buffer : GLuint) :
    Mirrored buffer indexVbo shared (host.exec caps (.glBindBuffer GL_ARRAY_BUFFER buffer)) := by
  obtain ⟨created, hcreated, hmirror, hlive⟩ := h.created buffer
  have heq : host.exec caps (.glBindBuffer GL_ARRAY_BUFFER buffer) =
      { created with arrayBuffer := buffer } := by
    simp only [Host.exec, Host.bindBuffer]
    rw [hcreated, if_pos trivial]
  rw [heq]
  exact ⟨rfl, hmirror.elementBuffer, hlive, hmirror.elementLive, hmirror.zero, hmirror.records,
    hmirror.shadow⟩

theorem Mirrored.bindElement (h : Mirrored arrayVbo indexVbo shared host) (buffer : GLuint) :
    Mirrored arrayVbo buffer shared
      (host.exec caps (.glBindBuffer GL_ELEMENT_ARRAY_BUFFER buffer)) := by
  obtain ⟨created, hcreated, hmirror, hlive⟩ := h.created buffer
  have heq : host.exec caps (.glBindBuffer GL_ELEMENT_ARRAY_BUFFER buffer) =
      { created with elementBuffer := buffer } := by
    have hother : ¬GL_ELEMENT_ARRAY_BUFFER = GL_ARRAY_BUFFER := by decide
    simp only [Host.exec, Host.bindBuffer]
    rw [hcreated, if_neg hother, if_pos trivial]
  rw [heq]
  exact ⟨hmirror.arrayBuffer, rfl, hmirror.arrayLive, hlive, hmirror.zero, hmirror.records,
    hmirror.shadow⟩

/-! ### Contents -/

/-- The same contents on both sides, for a live buffer. -/
theorem Mirrored.insert (h : Mirrored arrayVbo indexVbo shared host) {buffer : GLuint}
    {buf : BufferData} {bytes : ByteBlock} (hlive : buffer ∈ host.buffers)
    (hagree : ShadowAgrees (some buf) bytes) :
    Mirrored arrayVbo indexVbo { shared with buffers := shared.buffers.insert buffer buf }
      { host with buffers := host.buffers.insert buffer bytes } where
  arrayBuffer := h.arrayBuffer
  elementBuffer := h.elementBuffer
  arrayLive := fun hbound => AList.mem_insert _ |>.mpr (Or.inr (h.arrayLive hbound))
  elementLive := fun hbound => AList.mem_insert _ |>.mpr (Or.inr (h.elementLive hbound))
  zero := by
    rw [AList.mem_insert]
    exact fun hor => hor.elim (fun heq => h.zero (heq ▸ hlive)) h.zero
  records := by
    intro name other hlookup
    rw [AList.mem_insert]
    exact (lookup_insert_eq_some.mp hlookup).imp And.left fun hold => h.records name other hold.2
  shadow := by
    intro name other hlookup
    rw [lookup_insert_eq_ite]
    rcases lookup_insert_eq_some.mp hlookup with ⟨hname, rfl⟩ | ⟨hname, hold⟩
    · rw [if_pos hname]
      exact hagree
    · rw [if_neg hname]
      exact h.shadow name other hold

/-- A buffer that is bound to neither target is deleted on both sides. -/
theorem Mirrored.delete (h : Mirrored arrayVbo indexVbo shared host) {buffer : GLuint}
    (hunbound : buffer ≠ 0#32 → buffer ≠ arrayVbo ∧ buffer ≠ indexVbo) :
    Mirrored arrayVbo indexVbo (shared.deleteBufferData buffer)
      (host.exec caps (.glDeleteBuffers [buffer])) := by
  show Mirrored arrayVbo indexVbo
    { shared with buffers := shared.buffers.erase buffer } (host.deleteBuffer buffer)
  unfold Host.deleteBuffer
  by_cases hzero : buffer = 0#32
  · rw [if_pos hzero]
    have hother : ∀ name, name ∈ host.buffers → name ≠ buffer := by
      rintro name hmem rfl
      exact h.zero (hzero ▸ hmem)
    refine { h with records := ?_, shadow := ?_ }
    · intro name buf hlookup
      exact h.records name buf (lookup_erase_eq_some.mp hlookup).2
    · intro name bytes hlookup
      rw [lookup_erase_eq_ite, if_neg (hother name (mem_of_lookup_eq_some hlookup))]
      exact h.shadow name bytes hlookup
  · rw [if_neg hzero]
    obtain ⟨harray, helement⟩ := hunbound hzero
    refine ⟨?_, ?_, ?_, ?_, ?_, ?_, ?_⟩
    · show (if host.arrayBuffer = buffer then 0#32 else host.arrayBuffer) = arrayVbo
      rw [h.arrayBuffer, if_neg (Ne.symm harray)]
    · show (if host.elementBuffer = buffer then 0#32 else host.elementBuffer) = indexVbo
      rw [h.elementBuffer, if_neg (Ne.symm helement)]
    · intro hbound
      exact AList.mem_erase.mpr ⟨Ne.symm harray, h.arrayLive hbound⟩
    · intro hbound
      exact AList.mem_erase.mpr ⟨Ne.symm helement, h.elementLive hbound⟩
    · exact fun hmem => h.zero (AList.mem_erase.mp hmem).2
    · intro name buf hlookup
      obtain ⟨hname, hold⟩ := lookup_erase_eq_some.mp hlookup
      exact AList.mem_erase.mpr ⟨hname, h.records name buf hold⟩
    · intro name bytes hlookup
      obtain ⟨hname, hold⟩ := lookup_erase_eq_some.mp hlookup
      rw [lookup_erase_eq_ite, if_neg hname]
      exact h.shadow name bytes hold

/-- Without overflow the client tests what the host does. -/
theorem le_of_subUpdateAccepts {buf : BufferData} {offset size : GLint}
    (h : buf.subUpdateAccepts offset size = true) (hsum : offset.toInt + size.toInt < 2 ^ 31) :
    0 ≤ offset.toInt ∧ 0 ≤ size.toInt ∧ offset.toInt + size.toInt ≤ buf.size.toInt := by
  unfold BufferData.subUpdateAccepts at h
  simp only [Bool.not_eq_true', Bool.or_eq_false_iff, BitVec.slt_eq_decide,
    decide_eq_false_iff_not] at h
  obtain ⟨⟨hend, hoffset⟩, hsize⟩ := h
  have hzero : (0#32 : GLint).toInt = 0 := by decide
  rw [hzero] at hoffset hsize
  have hadd : (offset + size).toInt = offset.toInt + size.toInt := by
    rw [BitVec.toInt_add]
    exact Int.bmod_eq_of_le (by omega) (by omega)
  omega

/-! ## The calls -/

variable {ctx : Encoder}

/-- The relation for the client state of an encoder and the host it has driven. -/
def BuffersMirrored (caps : HostCaps) (ctx : Encoder) : Prop :=
  Mirrored ctx.state.currentArrayVbo ctx.state.currentIndexVbo ctx.shared (ctx.host caps)

theorem BuffersMirrored.buffersAgree (h : BuffersMirrored caps ctx) :
    BuffersAgree ctx (ctx.host caps) where
  arrayBuffer := h.arrayBuffer
  elementBuffer := h.elementBuffer
  shadow := h.shadow

theorem BuffersMirrored.emit (h : BuffersMirrored caps ctx) {cmd : GLCmd}
    (hcmd : Encoder.NoEffect caps cmd) : BuffersMirrored caps (ctx.emit cmd) := by
  unfold BuffersMirrored
  rw [Encoder.host_emit, hcmd]
  exact h

/-- One of the two targets of OpenGL ES 2.0. -/
def isBufferTarget (target : GLenum) : Bool :=
  target == GL_ARRAY_BUFFER || target == GL_ELEMENT_ARRAY_BUFFER

/-- The call takes no path on which the client or the host changes alone: the client
checks neither the target nor the usage of `glBufferData`, its test in
`glBufferSubData` can overflow, `glDeleteBuffers` keeps its bindings, and
`glDrawElements` leaves the host without an index buffer when it has to read one. -/
def GL2Encoder.GL2BufferCall.InStep (ctx : Encoder) : GL2Encoder.GL2BufferCall → Prop
  | .glBufferData target size _ usage =>
      ctx.state.getBuffer target = 0#32 ∨ size.toInt < 0 ∨
        (isBufferTarget target = true ∧ Host.isUsage usage = true)
  | .glBufferSubData target offset size _ =>
      ∀ buf, ctx.shared.getBufferData (ctx.state.getBuffer target) = some buf →
        buf.subUpdateAccepts offset size = true →
        isBufferTarget target = true ∧ offset.toInt + size.toInt < 2 ^ 31
  | .glDeleteBuffers n buffers =>
      ∀ name ∈ GL2Encoder.bufferNames n buffers, name ≠ 0#32 →
        name ≠ ctx.state.currentArrayVbo ∧ name ≠ ctx.state.currentIndexVbo
  | .glDrawElements _ count _ _ _ =>
      count.toInt < 0 ∨ ctx.state.currentIndexVbo = 0#32 ∨
        GL2Encoder.hasImmediateArrays ctx.state = false
  | _ => True

theorem BuffersMirrored.s_glBindBuffer (h : BuffersMirrored caps ctx) (target : GLenum)
    (id : GLuint) : BuffersMirrored caps (GL2Encoder.s_glBindBuffer ctx target id) := by
  unfold BuffersMirrored GL2Encoder.s_glBindBuffer
  rw [Encoder.host_emit]
  by_cases harray : target = GL_ARRAY_BUFFER
  · subst harray
    exact Mirrored.bindArray h id
  · by_cases helement : target = GL_ELEMENT_ARRAY_BUFFER
    · subst helement
      exact Mirrored.bindElement h id
    · -- neither side knows the target
      have hstate : ctx.state.bindBuffer target id = ctx.state := by
        unfold GLClientState.bindBuffer
        rw [if_neg harray, if_neg helement]
      have hhost : ∀ host : Host, host.exec caps (.glBindBuffer target id) = host := by
        intro host
        simp only [Host.exec, Host.bindBuffer]
        rw [if_neg harray, if_neg helement]
      rw [hhost]
      show Mirrored (ctx.state.bindBuffer target id).currentArrayVbo
        (ctx.state.bindBuffer target id).currentIndexVbo ctx.shared (ctx.host caps)
      rw [hstate]
      exact h

/-- For a valid target, client and host mean the same buffer, which is live. -/
theorem BuffersMirrored.boundBuffer (h : BuffersMirrored caps ctx) {target : GLenum}
    (htarget : isBufferTarget target = true) (hne : ctx.state.getBuffer target ≠ 0#32) :
    (ctx.host caps).boundBuffer target = some (ctx.state.getBuffer target) ∧
      ctx.state.getBuffer target ∈ (ctx.host caps).buffers := by
  unfold isBufferTarget at htarget
  rw [Bool.or_eq_true, beq_iff_eq, beq_iff_eq] at htarget
  rcases htarget with rfl | rfl
  · exact ⟨congrArg some h.arrayBuffer, h.arrayLive hne⟩
  · exact ⟨congrArg some h.elementBuffer, h.elementLive hne⟩

theorem BuffersMirrored.s_glBufferData (h : BuffersMirrored caps ctx) {target : GLenum}
    {size : GLint} {data : DataPtr} {usage : GLenum}
    (hstep : (GL2Encoder.GL2BufferCall.glBufferData target size data usage).InStep ctx) :
    BuffersMirrored caps (GL2Encoder.s_glBufferData ctx target size data usage) := by
  unfold GL2Encoder.s_glBufferData
  by_cases hzero : ctx.state.getBuffer target = 0#32
  · dsimp only
    rw [if_pos hzero]
    exact h
  · by_cases hsize : size.toInt < 0
    · dsimp only
      rw [if_neg hzero, if_pos hsize]
      exact h
    · dsimp only
      rw [if_neg hzero, if_neg hsize]
      obtain ⟨htarget, husage⟩ := (hstep.resolve_left hzero).resolve_left hsize
      obtain ⟨hbound, hlive⟩ := h.boundBuffer htarget hzero
      unfold BuffersMirrored
      rw [Encoder.host_emit]
      show Mirrored _ _ (ctx.shared.updateBufferData (ctx.state.getBuffer target) size data)
        ((ctx.host caps).bufferData target size data usage)
      unfold Host.bufferData
      rw [hbound]
      dsimp only
      rw [if_neg (by simp [hzero, hsize, husage])]
      refine Mirrored.insert h hlive ⟨?_, rfl⟩
      show size.toInt = ((ByteBlock.ofMemory size.toInt.toNat data).length : Int)
      rw [ByteBlock.length_ofMemory]
      omega

/-- `subUpdateBufferData` writes to a record that accepts the range. -/
theorem subUpdateBufferData_of_accepts {bufferId : GLuint} {buf : BufferData}
    {offset size : GLint} (hbuf : shared.buffers.lookup bufferId = some buf)
    (haccept : buf.subUpdateAccepts offset size = true) (data : Nat → UInt8) :
    shared.subUpdateBufferData bufferId offset size data =
      (GL_NO_ERROR,
        { shared with
          buffers := shared.buffers.insert bufferId (buf.subUpdated offset size data) }) := by
  unfold GLSharedGroup.subUpdateBufferData
  rw [hbuf]
  dsimp only
  rw [haccept]
  exact if_neg Bool.false_ne_true

/-- Otherwise it returns `GL_INVALID_VALUE` and leaves the records alone. -/
theorem subUpdateBufferData_of_rejects {bufferId : GLuint} {offset size : GLint}
    (hreject : ∀ buf, shared.buffers.lookup bufferId = some buf →
      buf.subUpdateAccepts offset size = false) (data : Nat → UInt8) :
    shared.subUpdateBufferData bufferId offset size data = (GL_INVALID_VALUE, shared) := by
  unfold GLSharedGroup.subUpdateBufferData
  cases hbuf : shared.buffers.lookup bufferId with
  | none => rfl
  | some buf =>
      dsimp only
      rw [hreject buf hbuf]
      exact if_pos rfl

theorem BuffersMirrored.s_glBufferSubData (h : BuffersMirrored caps ctx) {target : GLenum}
    {offset size : GLint} {data : Nat → UInt8}
    (hstep : (GL2Encoder.GL2BufferCall.glBufferSubData target offset size data).InStep ctx) :
    BuffersMirrored caps (GL2Encoder.s_glBufferSubData ctx target offset size data) := by
  unfold GL2Encoder.s_glBufferSubData
  dsimp only
  by_cases hzero : ctx.state.getBuffer target = 0#32
  · rw [if_pos hzero]
    exact h
  · rw [if_neg hzero]
    by_cases haccept : ∃ buf, ctx.shared.buffers.lookup (ctx.state.getBuffer target) = some buf ∧
        buf.subUpdateAccepts offset size = true
    · obtain ⟨buf, hbuf, haccept⟩ := haccept
      obtain ⟨htarget, hsum⟩ := hstep buf hbuf haccept
      obtain ⟨hbound, hlive⟩ := h.boundBuffer htarget hzero
      obtain ⟨hoffset, hsize, hend⟩ := le_of_subUpdateAccepts haccept hsum
      obtain ⟨bytes, hbytes⟩ := Option.isSome_iff_exists.mp (AList.lookup_isSome.mpr hlive)
      have hshadow := h.shadow _ bytes hbytes
      rw [hbuf] at hshadow
      obtain ⟨hlength, hsame⟩ := hshadow
      rw [subUpdateBufferData_of_accepts hbuf haccept, if_neg (not_not.mpr rfl)]
      unfold BuffersMirrored
      rw [Encoder.host_emit]
      show Mirrored _ _ { ctx.shared with
          buffers := ctx.shared.buffers.insert _ (buf.subUpdated offset size data) }
        ((ctx.host caps).bufferSubData target offset size data)
      unfold Host.bufferSubData
      rw [hbound]
      dsimp only
      rw [hbytes]
      dsimp only
      have hinside : ¬(offset.toInt < 0 ∨ size.toInt < 0 ∨
          (bytes.length : Int) < offset.toInt + size.toInt) := by omega
      rw [if_neg hinside]
      refine Mirrored.insert h hlive ⟨?_, ?_⟩
      · show buf.size.toInt = ((bytes.overwrite _ _ data).length : Int)
        rw [ByteBlock.length_overwrite]
        exact hlength
      · show buf.bytes.overwrite _ _ data = bytes.overwrite _ _ data
        rw [hsame]
    · have hreject : ∀ buf, ctx.shared.buffers.lookup (ctx.state.getBuffer target) = some buf →
          buf.subUpdateAccepts offset size = false := by
        intro buf hbuf
        rw [← Bool.not_eq_true]
        exact fun hyes => haccept ⟨buf, hbuf, hyes⟩
      have herror : GL_INVALID_VALUE ≠ GL_NO_ERROR := by decide
      rw [subUpdateBufferData_of_rejects hreject, if_pos herror]
      exact h

theorem BuffersMirrored.deleteBuffers {names : List GLuint} (h : BuffersMirrored caps ctx)
    (hunbound : ∀ name ∈ names, name ≠ 0#32 →
      name ≠ ctx.state.currentArrayVbo ∧ name ≠ ctx.state.currentIndexVbo) :
    BuffersMirrored caps (names.foldl GL2Encoder.deleteBuffer ctx) := by
  induction names generalizing ctx with
  | nil => exact h
  | cons name rest ih =>
      refine ih ?_ fun other hmem => hunbound other (List.mem_cons_of_mem _ hmem)
      unfold BuffersMirrored GL2Encoder.deleteBuffer
      rw [Encoder.host_emit]
      exact Mirrored.delete h (hunbound name List.mem_cons_self)

theorem BuffersMirrored.s_glDeleteBuffers (h : BuffersMirrored caps ctx) {n : GLint}
    {buffers : Nat → GLuint} (hstep : (GL2Encoder.GL2BufferCall.glDeleteBuffers n buffers).InStep ctx) :
    BuffersMirrored caps (GL2Encoder.s_glDeleteBuffers ctx n buffers) := by
  unfold GL2Encoder.s_glDeleteBuffers
  split
  · exact h
  · exact h.deleteBuffers hstep

/-! ### Draws -/

/-- The vertex attributes are no concern of the relation. -/
theorem BuffersMirrored.modifyState (h : BuffersMirrored caps ctx) (location : GLuint)
    (f : VertexAttribState → VertexAttribState) :
    BuffersMirrored caps { ctx with state := ctx.state.modifyState location f } := by
  unfold GLClientState.modifyState
  split
  · exact h
  · exact h

/-- A buffer bound for one attribute, and the client's binding again. -/
theorem BuffersMirrored.rebind (h : BuffersMirrored caps ctx) (buffer : GLuint) {cmd : GLCmd}
    (hcmd : Encoder.NoEffect caps cmd) :
    BuffersMirrored caps (((ctx.emit (.glBindBuffer GL_ARRAY_BUFFER buffer)).emit cmd).emit
      (.glBindBuffer GL_ARRAY_BUFFER ctx.state.currentArrayVbo)) := by
  unfold BuffersMirrored
  rw [Encoder.host_emit, Encoder.host_emit, Encoder.host_emit, hcmd]
  exact (Mirrored.bindArray h buffer).bindArray ctx.state.currentArrayVbo

/-- The client's index buffer bound again. -/
theorem BuffersMirrored.bindIndexVbo (h : BuffersMirrored caps ctx) :
    BuffersMirrored caps
      (ctx.emit (.glBindBuffer GL_ELEMENT_ARRAY_BUFFER ctx.state.currentIndexVbo)) := by
  unfold BuffersMirrored
  rw [Encoder.host_emit]
  exact Mirrored.bindElement h ctx.state.currentIndexVbo

theorem BuffersMirrored.sendVertexAttribute (h : BuffersMirrored caps ctx) (first count : GLint)
    (i : Nat) : BuffersMirrored caps (GL2Encoder.sendVertexAttribute first count ctx i) := by
  have hclean : BuffersMirrored caps
      { ctx with state := (ctx.state.getStateAndEnableDirty i).2 } := h
  unfold GL2Encoder.sendVertexAttribute
  dsimp only
  split
  · exact hclean
  · rename_i attrib _
    split
    · exact hclean
    · split
      · have henabled : BuffersMirrored caps (Encoder.emit _
            (.glEnableVertexAttribArray (BitVec.ofNat 32 i))) := hclean.emit fun _ => rfl
        split
        · exact henabled.emit fun _ => rfl
        · exact henabled.rebind attrib.bufferObject fun _ => rfl
      · exact hclean.emit fun _ => rfl

theorem BuffersMirrored.sendVertexAttributes (h : BuffersMirrored caps ctx)
    (first count : GLint) :
    BuffersMirrored caps (GL2Encoder.sendVertexAttributes ctx first count) := by
  unfold GL2Encoder.sendVertexAttributes
  generalize List.range ctx.state.nLocations = locations
  induction locations generalizing ctx with
  | nil => exact h
  | cons i rest ih => exact ih (h.sendVertexAttribute first count i)

theorem sendVertexAttributes_currentIndexVbo (ctx : Encoder) (first count : GLint) :
    (GL2Encoder.sendVertexAttributes ctx first count).state.currentIndexVbo =
      ctx.state.currentIndexVbo := by
  unfold GL2Encoder.sendVertexAttributes
  generalize List.range ctx.state.nLocations = locations
  induction locations generalizing ctx with
  | nil => rfl
  | cons i rest ih =>
      rw [List.foldl_cons, ih]
      simp only [GL2Encoder.sendVertexAttribute]
      split
      · rfl
      · split_ifs <;> rfl

theorem BuffersMirrored.drawAdjusted (h : BuffersMirrored caps ctx) (mode : GLenum)
    (count : GLint) (type : GLenum) (indices : Nat → UInt8) :
    BuffersMirrored caps (GL2Encoder.drawAdjusted ctx mode count type indices) :=
  (h.sendVertexAttributes _ _).emit fun _ => rfl

/-- With no index buffer to read, `glDrawElements` has a result and keeps the
relation. -/
theorem BuffersMirrored.s_glDrawElements (h : BuffersMirrored caps ctx) {mode : GLenum}
    {count : GLint} {type : GLenum} {indices : VoidPtr} {memory : Nat → UInt8}
    (hstep : (GL2Encoder.GL2BufferCall.glDrawElements mode count type indices memory).InStep ctx) :
    ∃ ctx', GL2Encoder.s_glDrawElements ctx mode count type indices memory = some ctx' ∧
      BuffersMirrored caps ctx' := by
  unfold GL2Encoder.s_glDrawElements
  by_cases hcount : count.toInt < 0
  · rw [if_pos hcount]
    exact ⟨_, rfl, h⟩
  · rw [if_neg hcount]
    by_cases hnone : (!GL2Encoder.hasImmediateArrays ctx.state &&
        !GL2Encoder.hasIndirectArrays ctx.state) = true
    · rw [if_pos hnone]
      exact ⟨_, rfl, h⟩
    · rw [if_neg hnone]
      by_cases hindex : ctx.state.currentIndexVbo = 0#32
      · rw [if_neg (not_not.mpr hindex)]
        exact ⟨_, rfl, h.drawAdjusted mode count type memory⟩
      · have himmediate := (hstep.resolve_left hcount).resolve_left hindex
        rw [if_pos hindex, if_pos (by rw [himmediate]; rfl)]
        refine ⟨_, rfl, BuffersMirrored.emit ?_ fun _ => rfl⟩
        have hsent := (h.sendVertexAttributes 0#32 count).bindIndexVbo
        rw [sendVertexAttributes_currentIndexVbo] at hsent
        exact hsent

/-! ### Calls that are not in step -/

/-- Neither binding of the host is the buffer. -/
def Unbound (host : Host) (buffer : GLuint) : Prop :=
  host.arrayBuffer ≠ buffer ∧ host.elementBuffer ≠ buffer

/-- Deleting unbinds, and binds nothing but 0. -/
theorem unbound_deleteBuffer {name buffer : GLuint} (hne : name ≠ 0#32)
    (h : Unbound host name ∨ buffer = name) : Unbound (host.deleteBuffer buffer) name := by
  have hkept : ∀ old : GLuint, old ≠ name ∨ buffer = name →
      (if old = buffer then 0#32 else old) ≠ name := by
    intro old hold
    split
    · exact Ne.symm hne
    · rename_i hother
      rcases hold with hold | rfl
      · exact hold
      · exact hother
  by_cases hzero : buffer = 0#32
  · have hunbound := h.resolve_right fun heq => hne (heq.symm.trans hzero)
    unfold Host.deleteBuffer
    rw [if_pos hzero]
    exact hunbound
  · unfold Host.deleteBuffer
    rw [if_neg hzero]
    exact ⟨hkept _ (h.imp_left And.left), hkept _ (h.imp_left And.right)⟩

theorem unbound_deleteBuffers {name : GLuint} (hne : name ≠ 0#32) (names : List GLuint)
    (h : Unbound (ctx.host caps) name ∨ name ∈ names) :
    Unbound ((names.foldl GL2Encoder.deleteBuffer ctx).host caps) name := by
  induction names generalizing ctx with
  | nil => exact h.resolve_right List.not_mem_nil
  | cons buffer rest ih =>
      rw [List.foldl_cons]
      have hhost : (GL2Encoder.deleteBuffer ctx buffer).host caps =
          (ctx.host caps).deleteBuffer buffer := Encoder.host_emit _ _
      rcases h with h | hmem
      · refine ih (Or.inl ?_)
        rw [hhost]
        exact unbound_deleteBuffer hne (Or.inl h)
      · rcases List.mem_cons.mp hmem with rfl | hmem
        · refine ih (Or.inl ?_)
          rw [hhost]
          exact unbound_deleteBuffer hne (Or.inr rfl)
        · exact ih (Or.inr hmem)

theorem deleteBuffers_state (ctx : Encoder) (names : List GLuint) :
    (names.foldl GL2Encoder.deleteBuffer ctx).state = ctx.state := by
  induction names generalizing ctx with
  | nil => rfl
  | cons buffer rest ih =>
      rw [List.foldl_cons, ih]
      rfl

/-- `glDeleteBuffers` keeps the agreement exactly when it is in step. -/
theorem agree_s_glDeleteBuffers_iff (h : BuffersMirrored caps ctx) (n : GLint)
    (buffers : Nat → GLuint) :
    BuffersAgree (GL2Encoder.s_glDeleteBuffers ctx n buffers)
        ((GL2Encoder.s_glDeleteBuffers ctx n buffers).host caps) ↔
      (GL2Encoder.GL2BufferCall.glDeleteBuffers n buffers).InStep ctx := by
  refine ⟨?_, fun hstep => (h.s_glDeleteBuffers hstep).buffersAgree⟩
  intro hagree name hmem hne
  have hcount : ¬n.toInt < 0 := by
    intro hneg
    have hnone : n.toInt.toNat = 0 := by omega
    simp [GL2Encoder.bufferNames, hnone] at hmem
  unfold GL2Encoder.s_glDeleteBuffers at hagree
  rw [if_neg hcount] at hagree
  have hunbound : Unbound (((GL2Encoder.bufferNames n buffers).foldl GL2Encoder.deleteBuffer
      ctx).host caps) name := unbound_deleteBuffers hne _ (Or.inr hmem)
  obtain ⟨harray, helement⟩ := hunbound
  have hstate := deleteBuffers_state ctx (GL2Encoder.bufferNames n buffers)
  rw [hagree.arrayBuffer, hstate] at harray
  rw [hagree.elementBuffer, hstate] at helement
  exact ⟨Ne.symm harray, Ne.symm helement⟩

theorem bindArray_elementBuffer (host : Host) (buffer : GLuint) :
    (host.exec caps (.glBindBuffer GL_ARRAY_BUFFER buffer)).elementBuffer =
      host.elementBuffer := by
  simp only [Host.exec, Host.bindBuffer]
  split_ifs <;> rfl

theorem sendVertexAttribute_elementBuffer (ctx : Encoder) (first count : GLint) (i : Nat) :
    ((GL2Encoder.sendVertexAttribute first count ctx i).host caps).elementBuffer =
      (ctx.host caps).elementBuffer := by
  unfold GL2Encoder.sendVertexAttribute
  dsimp only
  split
  · rfl
  · split
    · rfl
    · split
      · split
        · rw [Encoder.host_emit, Encoder.host_emit]
          rfl
        · rw [Encoder.host_emit, bindArray_elementBuffer, Encoder.host_emit]
          show ((Encoder.emit _ (.glBindBuffer GL_ARRAY_BUFFER _)).host caps).elementBuffer = _
          rw [Encoder.host_emit, bindArray_elementBuffer, Encoder.host_emit]
          rfl
      · rw [Encoder.host_emit]
        rfl

theorem sendVertexAttributes_elementBuffer (ctx : Encoder) (first count : GLint) :
    ((GL2Encoder.sendVertexAttributes ctx first count).host caps).elementBuffer =
      (ctx.host caps).elementBuffer := by
  unfold GL2Encoder.sendVertexAttributes
  generalize List.range ctx.state.nLocations = locations
  induction locations generalizing ctx with
  | nil => rfl
  | cons i rest ih => exact (ih _).trans (sendVertexAttribute_elementBuffer ctx first count i)

/-- `glDrawElements` keeps the agreement exactly when it is in step. -/
theorem agree_s_glDrawElements_iff (h : BuffersMirrored caps ctx) {mode : GLenum}
    {count : GLint} {type : GLenum} {indices : VoidPtr} {memory : Nat → UInt8} {ctx' : Encoder}
    (hresult : GL2Encoder.s_glDrawElements ctx mode count type indices memory = some ctx') :
    BuffersAgree ctx' (ctx'.host caps) ↔
      (GL2Encoder.GL2BufferCall.glDrawElements mode count type indices memory).InStep ctx := by
  constructor
  · intro hagree
    by_contra hstep
    change ¬(count.toInt < 0 ∨ ctx.state.currentIndexVbo = 0#32 ∨
      GL2Encoder.hasImmediateArrays ctx.state = false) at hstep
    rw [not_or, not_or, Bool.not_eq_false] at hstep
    obtain ⟨hcount, hindex, himmediate⟩ := hstep
    unfold GL2Encoder.s_glDrawElements at hresult
    rw [if_neg hcount, himmediate, if_neg (by simp), if_pos hindex, if_neg (by simp)] at hresult
    split at hresult
    · cases hresult
    · rename_i buf _
      obtain rfl := Option.some.inj hresult
      -- the host is left with 0, the client still has its index buffer
      have hhost := hagree.elementBuffer
      unfold GL2Encoder.drawAdjusted at hhost
      rw [Encoder.host_emit] at hhost
      change ((GL2Encoder.sendVertexAttributes _ _ _).host caps).elementBuffer =
        (GL2Encoder.sendVertexAttributes _ _ _).state.currentIndexVbo at hhost
      rw [sendVertexAttributes_elementBuffer, sendVertexAttributes_currentIndexVbo,
        Encoder.host_emit] at hhost
      have hunbound : ((ctx.host caps).exec caps
          (.glBindBuffer GL_ELEMENT_ARRAY_BUFFER 0#32)).elementBuffer = 0#32 :=
        (Mirrored.bindElement h 0#32).elementBuffer
      rw [hunbound] at hhost
      exact hindex hhost.symm
  · intro hstep
    obtain ⟨result, heq, hmirrored⟩ := h.s_glDrawElements hstep
    rw [heq] at hresult
    obtain rfl := Option.some.inj hresult
    exact hmirrored.buffersAgree

/-! ## Runs -/

/-- A call in step has a result and keeps the relation. -/
theorem BuffersMirrored.runBufferCall (h : BuffersMirrored caps ctx)
    {call : GL2Encoder.GL2BufferCall} (hstep : call.InStep ctx) :
    ∃ ctx', GL2Encoder.runBufferCall ctx call = some ctx' ∧ BuffersMirrored caps ctx' := by
  cases call with
  | glBindBuffer target id => exact ⟨_, rfl, h.s_glBindBuffer target id⟩
  | glBufferData target size data usage => exact ⟨_, rfl, h.s_glBufferData hstep⟩
  | glBufferSubData target offset size data => exact ⟨_, rfl, h.s_glBufferSubData hstep⟩
  | glDeleteBuffers n buffers => exact ⟨_, rfl, h.s_glDeleteBuffers hstep⟩
  | glVertexAttribPointer indx => exact ⟨_, rfl, h.modifyState indx _⟩
  | glEnableVertexAttribArray index | glDisableVertexAttribArray index =>
      exact ⟨_, rfl, h.modifyState index _⟩
  | glDrawArrays mode first count =>
      exact ⟨_, rfl, (h.sendVertexAttributes first count).emit fun _ => rfl⟩
  | glDrawElements mode count type indices memory => exact h.s_glDrawElements hstep

/-- In every run of a new context whose calls are in step, the host's buffer bindings
are the client's and the shadow copy of every live buffer is the host's buffer, after
every call. -/
theorem buffers_agree (caps : HostCaps) (memory : Nat → VertexAttribState)
    (trace : List (GL2Encoder.GL2BufferCall × Encoder))
    (hrun : Run (fun ctx call ctx' => GL2Encoder.runBufferCall ctx call = some ctx')
      (Encoder.init memory GLSharedGroup.init) trace)
    (hstep : EachStep (fun ctx call _ => call.InStep ctx)
      (Encoder.init memory GLSharedGroup.init) trace) :
    Always (fun ctx => BuffersAgree ctx (ctx.host caps)) trace := by
  have hinit : BuffersMirrored caps (Encoder.init memory GLSharedGroup.init) := mirrored_init
  refine (hrun.always_of_eachStep ?_ hinit hstep).imp fun ctx h => h.buffersAgree
  intro ctx call ctx' h hcall hresult
  obtain ⟨result, heq, hmirrored⟩ := h.runBufferCall hcall
  rw [heq] at hresult
  obtain rfl := Option.some.inj hresult
  exact hmirrored

/-- A buffer is filled, unbound, deleted, and a draw follows. -/
theorem buffers_agree_unbound_delete :
    let calls : List GL2Encoder.GL2BufferCall :=
      [.glBindBuffer GL_ARRAY_BUFFER 1#32,
        .glBufferData GL_ARRAY_BUFFER 4#32 none GL_STATIC_DRAW,
        .glBufferSubData GL_ARRAY_BUFFER 1#32 2#32 (fun _ => 7),
        .glBindBuffer GL_ARRAY_BUFFER 0#32,
        .glDeleteBuffers 1#32 (fun _ => 1#32),
        .glDrawArrays 4#32 0#32 3#32]
    Always (fun ctx : Encoder => BuffersAgree ctx (ctx.host HostCaps.minimal))
      (partialTraceOf GL2Encoder.runBufferCall
        (Encoder.init (fun _ => ⟨0#32, 4#32, GL_FLOAT, 0#32, 0#32, 0#32, 16#32, false, false⟩)
          GLSharedGroup.init) calls) := by
  intro calls
  refine buffers_agree HostCaps.minimal _ _ (run_partialTraceOf _ _ _)
    ⟨trivial, Or.inr (Or.inr ⟨rfl, rfl⟩), ?_, trivial, ?_, trivial, trivial⟩
  · intro buf _ _
    exact ⟨rfl, by decide⟩
  · intro name _ hne
    exact ⟨hne, hne⟩

/-- After `glDeleteBuffers` of the bound buffer the host's binding is 0, the client's
is not. -/
theorem delete_leaves_binding :
    ¬ ∀ (caps : HostCaps) (memory : Nat → VertexAttribState)
        (trace : List (GL2Encoder.GL2BufferCall × Encoder)),
      Run (fun ctx call ctx' => GL2Encoder.runBufferCall ctx call = some ctx')
        (Encoder.init memory GLSharedGroup.init) trace →
      Always (fun ctx => BuffersAgree ctx (ctx.host caps)) trace := by
  intro h
  let start := Encoder.init (fun _ => ⟨0#32, 4#32, GL_FLOAT, 0#32, 0#32, 0#32, 16#32, false, false⟩)
    GLSharedGroup.init
  let bound := GL2Encoder.s_glBindBuffer start GL_ARRAY_BUFFER 1#32
  let deleted := GL2Encoder.s_glDeleteBuffers bound 1#32 (fun _ => 1#32)
  have hrun : Run (fun ctx call ctx' => GL2Encoder.runBufferCall ctx call = some ctx') start
      [(.glBindBuffer GL_ARRAY_BUFFER 1#32, bound),
        (.glDeleteBuffers 1#32 (fun _ => 1#32), deleted)] :=
    Run.next rfl (Run.next rfl (Run.done _))
  have hagree := h HostCaps.minimal _ _ hrun (.glDeleteBuffers 1#32 (fun _ => 1#32), deleted)
    (by simp)
  have hclient : deleted.state.currentArrayVbo = 1#32 := rfl
  have hhost : (deleted.host HostCaps.minimal).arrayBuffer = 0#32 := by decide
  have heq := hagree.arrayBuffer
  rw [hhost, hclient] at heq
  exact absurd heq (by decide)

end GLESv2Enc
end DeviceAndroVM
