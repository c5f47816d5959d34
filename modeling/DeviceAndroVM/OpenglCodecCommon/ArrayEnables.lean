import DeviceAndroVM.OpenGL.VertexArrays
import DeviceAndroVM.OpenglCodecCommon.Encoder

/-!
# Lazy enables

The encoders send the enables of vertex arrays only before a draw, for the locations
whose `enableDirty` is set or whose array is enabled.  `bit stream i` is the host's
enable of location `i` after a stream; `n` is the number of locations that the host has.

* `Tracks` — the invariant between draws: a location that is not dirty agrees.
* `Turn` — what one turn of the loop over the locations does.
* `Turn.loop` — after the loop, all locations agree.
* `DrawsAgree` — at every draw command of a call, all locations agree.
-/

namespace DeviceAndroVM
namespace OpenglCodecCommon

open OpenGL

/-- `enabled` of an attribute, as a bit. -/
def VertexAttribState.isEnabled (attrib : VertexAttribState) : Bool := attrib.enabled != 0#32

/-- The attribute after its enable was sent. -/
def VertexAttribState.clean (attrib : VertexAttribState) : VertexAttribState :=
  { attrib with enableDirty := false }

section Lazy

variable (bit : List GLCmd → Nat → Bool) (n : Nat)

/-- The host agrees about every location that is not dirty. -/
def Tracks (ctx : Encoder) : Prop :=
  ∀ i < n, ∀ attrib, ctx.state.states[i]? = some attrib → attrib.enableDirty = false →
    bit ctx.stream i = attrib.isEnabled

/-- When the call from `ctx` to `ctx'` sends a draw, the host agrees at that moment about
every location. -/
def DrawsAgree (ctx ctx' : Encoder) : Prop :=
  ∀ sent draw rest, ctx'.stream = ctx.stream ++ sent ++ draw :: rest → draw.isDraw = true →
    ∀ i < n, ∀ attrib, ctx'.state.states[i]? = some attrib →
      bit (ctx.stream ++ sent) i = attrib.isEnabled

/-- Commands other than draws lead from `ctx` to `ctx'`. -/
def SentNoDraw (ctx ctx' : Encoder) : Prop :=
  ∃ cmds, ctx'.stream = ctx.stream ++ cmds ∧ ∀ cmd ∈ cmds, cmd.isDraw = false

/-- One turn of the loop, for location `i`. -/
structure Turn (i : Nat) (ctx ctx' : Encoder) : Prop where
  states : ctx'.state.states = ctx.state.states.modify i VertexAttribState.clean
  sent : SentNoDraw ctx ctx'
  others : ∀ j < n, j ≠ i → bit ctx'.stream j = bit ctx.stream j
  changed : i < n → ∀ attrib, ctx.state.states[i]? = some attrib →
    bit ctx'.stream i = attrib.isEnabled ∨
      attrib.enableDirty = false ∧ bit ctx'.stream i = bit ctx.stream i

variable {bit n} {ctx ctx' : Encoder}

theorem SentNoDraw.of_eq (h : ctx'.stream = ctx.stream) : SentNoDraw ctx ctx' :=
  ⟨[], by rw [h, List.append_nil], fun _ hmem => absurd hmem List.not_mem_nil⟩

theorem SentNoDraw.trans {ctx'' : Encoder} (h : SentNoDraw ctx ctx') (h' : SentNoDraw ctx' ctx'') :
    SentNoDraw ctx ctx'' := by
  obtain ⟨cmds, hcmds, hnone⟩ := h
  obtain ⟨cmds', hcmds', hnone'⟩ := h'
  refine ⟨cmds ++ cmds', by rw [hcmds', hcmds, List.append_assoc], ?_⟩
  intro cmd hmem
  rcases List.mem_append.mp hmem with hmem | hmem
  · exact hnone cmd hmem
  · exact hnone' cmd hmem

theorem SentNoDraw.emit {cmd : GLCmd} (h : SentNoDraw ctx ctx') (hdraw : cmd.isDraw = false) :
    SentNoDraw ctx (ctx'.emit cmd) := by
  refine h.trans ⟨[cmd], rfl, ?_⟩
  intro other hmem
  rwa [List.mem_singleton.mp hmem]

@[simp] theorem isEnabled_clean (attrib : VertexAttribState) :
    attrib.clean.isEnabled = attrib.isEnabled := rfl

/-- The client part of a turn. -/
def Encoder.cleaned (ctx : Encoder) (i : Nat) : Encoder :=
  { ctx with state := (ctx.state.getStateAndEnableDirty i).2 }

/-- A turn that sends nothing. -/
theorem Turn.skip {i : Nat}
    (hskip : i < n → ∀ attrib, ctx.state.states[i]? = some attrib → attrib.enableDirty = false) :
    Turn bit n i ctx (ctx.cleaned i) where
  states := rfl
  sent := SentNoDraw.of_eq rfl
  others := fun _ _ _ => rfl
  changed := fun hi attrib hattrib => Or.inr ⟨hskip hi attrib hattrib, rfl⟩

/-- The command changes no enable. -/
def Neutral (bit : List GLCmd → Nat → Bool) (cmd : GLCmd) : Prop :=
  ∀ stream i, bit (stream ++ [cmd]) i = bit stream i

/-- The turn goes on with a command that sets the enable of its location. -/
theorem Turn.emit_enable {i : Nat} {cmd : GLCmd} {attrib : VertexAttribState}
    (hattrib : ctx.state.states[i]? = some attrib)
    (hstates : ctx'.state.states = ctx.state.states.modify i VertexAttribState.clean)
    (hsent : SentNoDraw ctx ctx')
    (hsame : ∀ j, bit ctx'.stream j = bit ctx.stream j)
    (hothers : ∀ j < n, j ≠ i → bit (ctx'.stream ++ [cmd]) j = bit ctx'.stream j)
    (hset : i < n → bit (ctx'.stream ++ [cmd]) i = attrib.isEnabled)
    (hdraw : cmd.isDraw = false) : Turn bit n i ctx (ctx'.emit cmd) where
  states := hstates
  sent := hsent.emit hdraw
  others := fun j hn hj => (hothers j hn hj).trans (hsame j)
  changed := by
    intro hi other hother
    rw [hattrib] at hother
    cases hother
    exact Or.inl (hset hi)

/-- The turn goes on with a command that changes no enable. -/
theorem Turn.emit {i : Nat} {cmd : GLCmd} (h : Turn bit n i ctx ctx') (hcmd : Neutral bit cmd)
    (hdraw : cmd.isDraw = false) : Turn bit n i ctx (ctx'.emit cmd) where
  states := h.states
  sent := h.sent.emit hdraw
  others := fun j hn hj => (hcmd _ j).trans (h.others j hn hj)
  changed := by
    intro hi attrib hattrib
    rw [Encoder.emit, hcmd]
    exact h.changed hi attrib hattrib

/-- What holds when the first `k` locations had their turn. -/
structure Sent (bit : List GLCmd → Nat → Bool) (n k : Nat) (ctx ctx' : Encoder) : Prop where
  length : ctx'.state.states.length = ctx.state.states.length
  states : ∀ i, ctx'.state.states[i]? =
    if i < k then (ctx.state.states[i]?).map VertexAttribState.clean else ctx.state.states[i]?
  sent : SentNoDraw ctx ctx'
  agrees : ∀ i < n, i < k → ∀ attrib, ctx.state.states[i]? = some attrib →
    bit ctx'.stream i = attrib.isEnabled
  ahead : ∀ i < n, k ≤ i → bit ctx'.stream i = bit ctx.stream i

theorem Sent.refl (ctx : Encoder) : Sent bit n 0 ctx ctx where
  length := rfl
  states := fun i => by rw [if_neg (Nat.not_lt_zero i)]
  sent := SentNoDraw.of_eq rfl
  agrees := fun i _ hi => absurd hi (Nat.not_lt_zero i)
  ahead := fun _ _ _ => rfl

/-- The next location has its turn. -/
theorem Sent.turn {k : Nat} {ctx'' : Encoder} (h : Sent bit n k ctx ctx')
    (htracks : Tracks bit n ctx) (hturn : Turn bit n k ctx' ctx'') :
    Sent bit n (k + 1) ctx ctx'' := by
  have hk : ctx'.state.states[k]? = ctx.state.states[k]? := by
    rw [h.states, if_neg (Nat.lt_irrefl k)]
  constructor
  · rw [hturn.states, List.length_modify, h.length]
  · intro i
    rw [hturn.states, List.getElem?_modify, h.states]
    by_cases hi : k = i
    · subst hi
      simp
    · by_cases hlt : i < k
      · rw [if_pos hlt, if_pos (Nat.lt_succ_of_lt hlt)]
        simp [hi]
      · rw [if_neg hlt, if_neg (by omega)]
        simp [hi]
  · exact h.sent.trans hturn.sent
  · intro i hn hi attrib hattrib
    by_cases hlast : i = k
    · subst hlast
      -- the bit and the attribute of this location are those before the loop
      rcases hturn.changed hn attrib (hk.trans hattrib) with hset | ⟨hclean, hkept⟩
      · exact hset
      · rw [hkept, h.ahead i hn (Nat.le_refl i)]
        exact htracks i hn attrib hattrib hclean
    · rw [hturn.others i hn hlast]
      exact h.agrees i hn (by omega) attrib hattrib
  · intro i hn hi
    rw [hturn.others i hn (by omega)]
    exact h.ahead i hn (by omega)

/-- The loop over the first `m` locations. -/
theorem Sent.loop {turn : Encoder → Nat → Encoder} {m : Nat} (htracks : Tracks bit n ctx)
    (hturn : ∀ ctx, ∀ i < m, Turn bit n i ctx (turn ctx i)) :
    Sent bit n m ctx ((List.range m).foldl turn ctx) := by
  induction m with
  | zero => exact Sent.refl ctx
  | succ k ih =>
      rw [List.range_succ, List.foldl_append]
      exact (ih fun ctx i hi => hturn ctx i (Nat.lt_succ_of_lt hi)).turn htracks
        (hturn _ k (Nat.lt_succ_self k))

/-! ## Draws -/

/-- The host agrees about every location, and no draw was sent since `ctx`. -/
structure Ready (bit : List GLCmd → Nat → Bool) (n : Nat) (ctx ctx' : Encoder) : Prop where
  length : ctx'.state.states.length = ctx.state.states.length
  agrees : ∀ i < n, ∀ attrib, ctx'.state.states[i]? = some attrib →
    bit ctx'.stream i = attrib.isEnabled
  sent : SentNoDraw ctx ctx'

/-- A loop over all locations of the client makes the host ready. -/
theorem Sent.ready {m : Nat} (h : Sent bit n m ctx ctx')
    (hall : ∀ i < n, i < ctx.state.states.length → i < m) : Ready bit n ctx ctx' := by
  refine ⟨h.length, ?_, h.sent⟩
  intro i hi attrib hattrib
  rw [h.states] at hattrib
  split at hattrib
  · rename_i hlt
    obtain ⟨before, hbefore, rfl⟩ := Option.map_eq_some_iff.mp hattrib
    exact h.agrees i hi hlt before hbefore
  · rename_i hle
    exact absurd (hall i hi (List.getElem?_eq_some_iff.mp hattrib).1) hle

theorem Ready.emit {cmd : GLCmd} (h : Ready bit n ctx ctx') (hcmd : Neutral bit cmd)
    (hdraw : cmd.isDraw = false) : Ready bit n ctx (ctx'.emit cmd) := by
  refine ⟨h.length, ?_, h.sent.emit hdraw⟩
  intro i hi attrib hattrib
  rw [Encoder.emit, hcmd]
  exact h.agrees i hi attrib hattrib

/-- A command before the loop. -/
theorem Ready.after_emit {cmd : GLCmd} (hdraw : cmd.isDraw = false)
    (h : Ready bit n (ctx.emit cmd) ctx') : Ready bit n ctx ctx' :=
  ⟨h.length, h.agrees, ((SentNoDraw.of_eq rfl).emit hdraw).trans h.sent⟩

theorem Tracks.emit {cmd : GLCmd} (h : Tracks bit n ctx) (hcmd : Neutral bit cmd) :
    Tracks bit n (ctx.emit cmd) := by
  intro i hi attrib hattrib hclean
  rw [Encoder.emit, hcmd]
  exact h i hi attrib hattrib hclean

theorem Ready.tracks (h : Ready bit n ctx ctx') : Tracks bit n ctx' :=
  fun i hi attrib hattrib _ => h.agrees i hi attrib hattrib

/-- Nothing that a call sends is a draw. -/
theorem SentNoDraw.drawsAgree (h : SentNoDraw ctx ctx') : DrawsAgree bit n ctx ctx' := by
  obtain ⟨cmds, hstream, hnone⟩ := h
  intro sent draw rest hsplit hdraw
  rw [hstream, List.append_assoc, List.append_cancel_left_eq] at hsplit
  have hmem : draw ∈ cmds := by simp [hsplit]
  rw [hnone draw hmem] at hdraw
  cases hdraw

/-- A draw sent when the host is ready. -/
theorem Ready.draw {cmd : GLCmd} (h : Ready bit n ctx ctx') :
    DrawsAgree bit n ctx (ctx'.emit cmd) := by
  obtain ⟨cmds, hcmds, hnone⟩ := h.sent
  intro sent draw rest hsplit hdraw i hi attrib hattrib
  have hstream : (ctx'.emit cmd).stream = ctx.stream ++ (cmds ++ [cmd]) := by
    rw [Encoder.emit, hcmds, List.append_assoc]
  rw [hstream, List.append_assoc, List.append_cancel_left_eq] at hsplit
  -- the draw is the last command, since none of the others is one
  have hsent : sent = cmds := by
    rcases List.append_eq_append_iff.mp hsplit with ⟨mid, hsent, hrest⟩ | ⟨mid, hcmds, hrest⟩
    · cases mid with
      | nil => simpa using hsent
      | cons first tail => simp at hrest
    · cases mid with
      | nil => simpa using hcmds.symm
      | cons first tail =>
          have hfirst : first = draw := (List.cons.inj hrest).1.symm
          have hmem : draw ∈ cmds := by simp [hcmds, hfirst]
          rw [hnone draw hmem] at hdraw
          cases hdraw
  rw [hsent, ← hcmds]
  exact h.agrees i hi attrib hattrib

/-! ## The client's calls -/

theorem Tracks.bindBuffer (h : Tracks bit n ctx) (target : GLenum) (id : GLuint) :
    Tracks bit n { ctx with state := ctx.state.bindBuffer target id } := by
  unfold GLClientState.bindBuffer
  split
  · exact h
  split
  · exact h
  · exact h

/-- A call that leaves an attribute clean only if it was clean and keeps its enable. -/
theorem Tracks.modifyState (h : Tracks bit n ctx) (location : GLuint)
    {f : VertexAttribState → VertexAttribState}
    (hkeeps : ∀ attrib, (f attrib).enableDirty = false →
      attrib.enableDirty = false ∧ (f attrib).isEnabled = attrib.isEnabled) :
    Tracks bit n { ctx with state := ctx.state.modifyState location f } := by
  unfold GLClientState.modifyState
  split
  · intro i hi attrib hattrib hclean
    rw [List.getElem?_modify, Option.map_eq_map, Option.map_eq_some_iff] at hattrib
    obtain ⟨before, hbefore, rfl⟩ := hattrib
    split at hclean
    · rename_i hloc
      obtain ⟨hbeforeClean, henabled⟩ := hkeeps before hclean
      rw [if_pos hloc, henabled]
      exact h i hi before hbefore hbeforeClean
    · rename_i hloc
      rw [if_neg hloc]
      exact h i hi before hbefore hclean
  · exact h

theorem length_modifyState (state : GLClientState) (location : GLuint)
    (f : VertexAttribState → VertexAttribState) :
    (state.modifyState location f).states.length = state.states.length := by
  unfold GLClientState.modifyState
  split
  · exact List.length_modify ..
  · rfl

theorem length_bindBuffer (state : GLClientState) (target : GLenum) (id : GLuint) :
    (state.bindBuffer target id).states.length = state.states.length := by
  unfold GLClientState.bindBuffer
  split
  · rfl
  split
  · rfl
  · rfl

theorem Tracks.setState (h : Tracks bit n ctx) (location : GLuint) (size : GLint)
    (type : GLenum) (normalized : Bool) (stride : GLint) (data : VoidPtr) :
    Tracks bit n
      { ctx with state := ctx.state.setState location size type normalized stride data } :=
  h.modifyState location fun _ hclean => ⟨hclean, rfl⟩

theorem Tracks.enable (h : Tracks bit n ctx) (location : GLuint) (enabled : GLint) :
    Tracks bit n { ctx with state := ctx.state.enable location enabled } := by
  unfold GLClientState.enable
  refine h.modifyState location fun attrib hclean => ?_
  -- the location is clean only when its enable did not change
  rw [Bool.or_eq_false_iff, bne_eq_false_iff_eq] at hclean
  exact ⟨hclean.1, by simp [VertexAttribState.isEnabled, hclean.2]⟩

/-! ## Calls -/

/-- Between calls: the enables are tracked, and the client has its 64 locations. -/
structure Enables (bit : List GLCmd → Nat → Bool) (n : Nat) (ctx : Encoder) : Prop where
  tracks : Tracks bit n ctx
  length : ctx.state.states.length = CODEC_MAX_VERTEX_ATTRIBUTES

/-- What one call does: the enables stay tracked, and its draws agree. -/
structure CallAgrees (bit : List GLCmd → Nat → Bool) (n : Nat) (ctx ctx' : Encoder) : Prop where
  enables : Enables bit n ctx'
  draws : DrawsAgree bit n ctx ctx'

/-- A new context: all arrays are disabled on both sides. -/
theorem enables_init (hinit : ∀ i, bit [] i = false) (memory : Nat → VertexAttribState)
    (shared : GLSharedGroup) : Enables bit n (Encoder.init memory shared) := by
  constructor
  · intro i _ attrib hattrib _
    have hmem := List.mem_of_getElem? hattrib
    simp only [Encoder.init, GLClientState.init, List.mem_map] at hmem
    obtain ⟨k, -, rfl⟩ := hmem
    exact hinit i
  · simp only [Encoder.init, GLClientState.init, List.length_map, List.length_range]
    decide

theorem Enables.emit {cmd : GLCmd} (h : Enables bit n ctx) (hcmd : Neutral bit cmd) :
    Enables bit n (ctx.emit cmd) :=
  ⟨h.tracks.emit hcmd, h.length⟩

/-- A call that sends no draw. -/
theorem CallAgrees.of_sentNoDraw (h : Enables bit n ctx') (hsent : SentNoDraw ctx ctx') :
    CallAgrees bit n ctx ctx' :=
  ⟨h, hsent.drawsAgree⟩

/-- A draw that follows on the loop over the locations. -/
theorem CallAgrees.of_ready {cmd : GLCmd} (h : Enables bit n ctx)
    (hready : Ready bit n ctx ctx') (hcmd : Neutral bit cmd) :
    CallAgrees bit n ctx (ctx'.emit cmd) :=
  ⟨⟨hready.tracks.emit hcmd, hready.length.trans h.length⟩, hready.draw⟩

theorem Enables.enable (h : Enables bit n ctx) (location : GLuint) (enabled : GLint) :
    CallAgrees bit n ctx { ctx with state := ctx.state.enable location enabled } :=
  .of_sentNoDraw ⟨h.tracks.enable location enabled, (length_modifyState ..).trans h.length⟩
    (SentNoDraw.of_eq rfl)

theorem Enables.setState (h : Enables bit n ctx) (location : GLuint) (size : GLint)
    (type : GLenum) (normalized : Bool) (stride : GLint) (data : VoidPtr) :
    CallAgrees bit n ctx
      { ctx with state := ctx.state.setState location size type normalized stride data } :=
  .of_sentNoDraw ⟨h.tracks.setState location size type normalized stride data,
    (length_modifyState ..).trans h.length⟩ (SentNoDraw.of_eq rfl)

end Lazy

end OpenglCodecCommon
end DeviceAndroVM
