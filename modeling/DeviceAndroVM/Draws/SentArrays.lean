import DeviceAndroVM.Draws.PointerData
import DeviceAndroVM.GLESv1Enc.Arrays

/-!
# The arrays that a draw sends

What the loops of `sendVertexAttributes` and `sendVertexData` put on the stream, seen by
the pointers that the host has after it.

* `attribPointer` — what the host is told about one attribute.
* `SendsArray` — one turn of either loop: the pointer of its own location, and no other.
* `SendsArrays` / `SendsArrays.loop` — the whole loop.
* `element_attribPointer` — element `k` of what was sent from `first` on is element
  `first + k` of the application.
-/

namespace DeviceAndroVM
namespace Draws

open OpenGL Library OpenglCodecCommon

/-! ## One attribute -/

/-- The address or offset of the first element that is sent. -/
def sentStart (attrib : VertexAttribState) (first : GLuint) : VoidPtr :=
  attrib.data + elementStride attrib.stride attrib.elementSize * first

/-- The client addresses that are read for `count` elements from `first` on. -/
def attribReads (attrib : VertexAttribState) (first count : GLuint) : List VoidPtr :=
  glUtilsPackPointerData (sentStart attrib first) attrib.size attrib.type attrib.stride
    (attrib.elementSize * count)

/-- The pointer that the host gets. -/
def attribPointer (attrib : VertexAttribState) (first count : GLuint) : HostPointer :=
  if attrib.bufferObject = 0#32 then
    .data (attrib.size * glSizeof attrib.type).toNat (attribReads attrib first count)
  else
    .buffer attrib.bufferObject (sentStart attrib first)
      (elementStride attrib.stride (attrib.size * glSizeof attrib.type))

/-- An attribute as the pointer calls leave it, with a size and a type that GL has. -/
structure WellFormedAttrib (attrib : VertexAttribState) : Prop where
  size_pos : 0 < attrib.size.toNat
  size_le : attrib.size.toNat ≤ 4
  type_known : glSizeof attrib.type ≠ 0#32
  elementSize_eq : attrib.elementSize = glSizeof attrib.type * attrib.size

instance (attrib : VertexAttribState) : Decidable (WellFormedAttrib attrib) :=
  decidable_of_iff (0 < attrib.size.toNat ∧ attrib.size.toNat ≤ 4 ∧
      glSizeof attrib.type ≠ 0#32 ∧ attrib.elementSize = glSizeof attrib.type * attrib.size)
    ⟨fun ⟨h₁, h₂, h₃, h₄⟩ => ⟨h₁, h₂, h₃, h₄⟩, fun ⟨h₁, h₂, h₃, h₄⟩ => ⟨h₁, h₂, h₃, h₄⟩⟩

theorem glSizeof_le (type : GLenum) : (glSizeof type).toNat ≤ 64 := by
  have hite : ∀ {c : Prop} [Decidable c] {first second : GLuint}, first.toNat ≤ 64 →
      second.toNat ≤ 64 → (if c then first else second).toNat ≤ 64 := by
    intro c _ first second hfirst hsecond
    split
    · exact hfirst
    · exact hsecond
  unfold glSizeof
  repeat' apply hite
  all_goals decide

namespace WellFormedAttrib

variable {attrib : VertexAttribState}

theorem vsize_eq (h : WellFormedAttrib attrib) :
    attrib.size * glSizeof attrib.type = attrib.elementSize := by
  rw [h.elementSize_eq, BitVec.mul_comm]

theorem elementSize_bounds (h : WellFormedAttrib attrib) :
    0 < attrib.elementSize.toNat ∧ attrib.elementSize.toNat ≤ 256 := by
  have hle := Nat.mul_le_mul (glSizeof_le attrib.type) h.size_le
  have htype : 0 < (glSizeof attrib.type).toNat := by
    rw [Nat.pos_iff_ne_zero]
    exact fun hzero => h.type_known (BitVec.eq_of_toNat_eq hzero)
  have hpos := Nat.mul_pos htype h.size_pos
  rw [h.elementSize_eq, BitVec.toNat_mul, Nat.mod_eq_of_lt (by omega)]
  omega

/-- Packing `count` elements reads these elements. -/
theorem attribReads_eq (h : WellFormedAttrib attrib) {count : Nat} (hcount : count ≤ 2 ^ 16)
    (first : GLuint) :
    attribReads attrib first (BitVec.ofNat 32 count) =
      pieces (fun k => addressesFrom
        (sentStart attrib first +
          elementStride attrib.stride attrib.elementSize * BitVec.ofNat 32 k)
        attrib.elementSize.toNat) count := by
  obtain ⟨hpos, hle⟩ := h.elementSize_bounds
  have hlen : (attrib.elementSize * BitVec.ofNat 32 count).toNat =
      count * (attrib.size * glSizeof attrib.type).toNat := by
    have hmul := Nat.mul_le_mul hle hcount
    rw [BitVec.toNat_mul, BitVec.toNat_ofNat, Nat.mod_eq_of_lt (by omega : count < 2 ^ 32),
      Nat.mod_eq_of_lt (by omega), h.vsize_eq, Nat.mul_comm]
  unfold attribReads
  rw [glUtilsPackPointerData_eq (by rw [h.vsize_eq]; exact hpos) hlen, h.vsize_eq]

/-- The bytes of the elements that were packed lie at the elements of the application. -/
theorem sentStart_add (first k : Nat) :
    sentStart attrib (BitVec.ofNat 32 first) +
        elementStride attrib.stride attrib.elementSize * BitVec.ofNat 32 k =
      attrib.data +
        elementStride attrib.stride attrib.elementSize * BitVec.ofNat 32 (first + k) := by
  unfold sentStart
  rw [BitVec.ofNat_add, BitVec.mul_add, BitVec.add_assoc]

/-- Element `k` of what the host has is element `first + k` of the application. -/
theorem element_attribPointer (h : WellFormedAttrib attrib) {count : Nat}
    (hcount : count ≤ 2 ^ 16) (first : Nat) {k : Nat} (hk : k < count) :
    (attribPointer attrib (BitVec.ofNat 32 first) (BitVec.ofNat 32 count)).element k =
      vertexElement attrib (first + k) := by
  unfold attribPointer vertexElement
  rw [h.vsize_eq]
  split
  · rw [HostPointer.element, h.attribReads_eq hcount,
      pieceAt_pieces (fun _ => length_addressesFrom _ _) hk, sentStart_add]
  · rw [HostPointer.element, sentStart_add]

/-- Only elements of the range are read. -/
theorem mem_attribReads (h : WellFormedAttrib attrib) {count : Nat} (hcount : count ≤ 2 ^ 16)
    (first : Nat) (hclient : attrib.bufferObject = 0#32) {address : VoidPtr}
    (hmem : address ∈ attribReads attrib (BitVec.ofNat 32 first) (BitVec.ofNat 32 count)) :
    ∃ k < count, ∃ addresses, vertexElement attrib (first + k) = .client addresses ∧
      address ∈ addresses := by
  rw [h.attribReads_eq hcount] at hmem
  obtain ⟨k, hk, hmem⟩ := mem_pieces.mp hmem
  rw [sentStart_add] at hmem
  refine ⟨k, hk, _, ?_, hmem⟩
  unfold vertexElement
  rw [if_pos hclient]

end WellFormedAttrib

/-! ## One turn -/

/-- The attribute is sent from client memory. -/
def Immediate (attrib : VertexAttribState) : Prop :=
  attrib.enabled ≠ 0#32 ∧ attrib.bufferObject = 0#32

/-- The locations below `n` have been sent by the commands `cmds`: every enabled attribute has
its pointer, whatever the host had before, and exactly the immediate ones have been read. -/
structure SendsArrays (key : Nat → ArrayKey) (first count : GLuint) (n : Nat)
    (ctx ctx' : Encoder) (cmds : List GLCmd) : Prop where
  stream : ctx'.stream = ctx.stream ++ cmds
  states : ∀ j, n ≤ j → ctx'.state.states[j]? = ctx.state.states[j]?
  length : ctx'.state.nLocations = ctx.state.nLocations
  pointer : ∀ i < n, ∀ attrib, ctx.state.states[i]? = some attrib → attrib.enabled ≠ 0#32 →
    ∀ host : HostPointers, (host.execs cmds).pointer (key i) =
      some (attribPointer attrib first count)
  mem_reads : ∀ address, address ∈ cmds.flatMap vertexReads ↔
    ∃ i < n, ∃ attrib, ctx.state.states[i]? = some attrib ∧ Immediate attrib ∧
      address ∈ attribReads attrib first count

/-- The same of the location of one turn. -/
structure SendsArray (key : Nat → ArrayKey) (first count : GLuint) (i : Nat)
    (ctx ctx' : Encoder) (cmds : List GLCmd) : Prop where
  stream : ctx'.stream = ctx.stream ++ cmds
  states : ∀ j ≠ i, ctx'.state.states[j]? = ctx.state.states[j]?
  length : ctx'.state.nLocations = ctx.state.nLocations
  pointer : ∀ attrib, ctx.state.states[i]? = some attrib → attrib.enabled ≠ 0#32 →
    ∀ host : HostPointers, (host.execs cmds).pointer (key i) =
      some (attribPointer attrib first count)
  other : ∀ (host : HostPointers) k, k ≠ key i → (host.execs cmds).pointer k = host.pointer k
  mem_reads : ∀ address, address ∈ cmds.flatMap vertexReads ↔
    ∃ attrib, ctx.state.states[i]? = some attrib ∧ Immediate attrib ∧
      address ∈ attribReads attrib first count

theorem HostPointers.execs_append (host : HostPointers) (cmds cmds' : List GLCmd) :
    host.execs (cmds ++ cmds') = (host.execs cmds).execs cmds' :=
  List.foldl_append

theorem SendsArrays.zero (key : Nat → ArrayKey) (first count : GLuint) (ctx : Encoder) :
    SendsArrays key first count 0 ctx ctx [] where
  stream := (List.append_nil _).symm
  states := fun _ _ => rfl
  length := rfl
  pointer := fun i hi => absurd hi (Nat.not_lt_zero i)
  mem_reads := by simp

/-- The next turn adds its location. -/
theorem SendsArrays.turn {key : Nat → ArrayKey} {first count : GLuint} {n : Nat}
    {ctx ctx' ctx'' : Encoder} {cmds cmds' : List GLCmd}
    (h : SendsArrays key first count n ctx ctx' cmds)
    (hturn : SendsArray key first count n ctx' ctx'' cmds')
    (hinjective : ∀ i < n, key i ≠ key n) :
    SendsArrays key first count (n + 1) ctx ctx'' (cmds ++ cmds') where
  stream := by rw [hturn.stream, h.stream, List.append_assoc]
  states := by
    intro j hj
    rw [hturn.states j (by omega), h.states j (by omega)]
  length := hturn.length.trans h.length
  pointer := by
    intro i hi attrib hattrib henabled host
    rw [HostPointers.execs_append]
    rcases Nat.lt_succ_iff_lt_or_eq.mp hi with hlt | rfl
    · rw [hturn.other _ _ (hinjective i hlt)]
      exact h.pointer i hlt attrib hattrib henabled host
    · rw [← h.states i le_rfl] at hattrib
      exact hturn.pointer attrib hattrib henabled _
  mem_reads := by
    intro address
    rw [List.flatMap_append, List.mem_append, h.mem_reads, hturn.mem_reads, h.states n le_rfl]
    constructor
    · rintro (⟨i, hi, hread⟩ | hread)
      · exact ⟨i, by omega, hread⟩
      · exact ⟨n, by omega, hread⟩
    · rintro ⟨i, hi, hread⟩
      rcases Nat.lt_succ_iff_lt_or_eq.mp hi with hlt | rfl
      · exact Or.inl ⟨i, hlt, hread⟩
      · exact Or.inr hread

/-- The whole loop; `good` is what the turns need of an attribute. -/
theorem SendsArrays.loop {turn : Encoder → Nat → Encoder} {key : Nat → ArrayKey}
    {first count : GLuint} {good : Nat → VertexAttribState → Prop} {n : Nat}
    (hturn : ∀ (ctx : Encoder) (i : Nat), i < n →
      (∀ attrib, ctx.state.states[i]? = some attrib → attrib.enabled ≠ 0#32 → good i attrib) →
      ∃ cmds, SendsArray key first count i ctx (turn ctx i) cmds)
    (hinjective : ∀ i < n, ∀ j < n, key i = key j → i = j) {ctx : Encoder}
    (hgood : ∀ i < n, ∀ attrib, ctx.state.states[i]? = some attrib → attrib.enabled ≠ 0#32 →
      good i attrib) :
    ∃ cmds, SendsArrays key first count n ctx ((List.range n).foldl turn ctx) cmds := by
  have hprefix : ∀ m ≤ n,
      ∃ cmds, SendsArrays key first count m ctx ((List.range m).foldl turn ctx) cmds := by
    intro m
    induction m with
    | zero => exact fun _ => ⟨[], .zero key first count ctx⟩
    | succ m ih =>
        intro hm
        obtain ⟨cmds, hsent⟩ := ih (by omega)
        obtain ⟨cmds', hlast⟩ := hturn ((List.range m).foldl turn ctx) m (by omega) (by
          intro attrib hattrib
          rw [hsent.states m le_rfl] at hattrib
          exact hgood m (by omega) attrib hattrib)
        refine ⟨cmds ++ cmds', ?_⟩
        rw [List.range_succ, List.foldl_append]
        refine hsent.turn hlast ?_
        intro i hi hkey
        exact absurd (hinjective i (by omega) m (by omega) hkey) (by omega)
  exact hprefix n le_rfl

/-! ## The turns of both encoders -/

/-- `getStateAndEnableDirty` leaves the other locations. -/
theorem states_getStateAndEnableDirty (state : GLClientState) {i j : Nat} (hj : j ≠ i) :
    (state.getStateAndEnableDirty i).2.states[j]? = state.states[j]? := by
  show (state.states.modify i _)[j]? = _
  rw [List.getElem?_modify]
  simp [Ne.symm hj]

theorem nLocations_getStateAndEnableDirty (state : GLClientState) (i : Nat) :
    (state.getStateAndEnableDirty i).2.nLocations = state.nLocations :=
  List.length_modify ..

theorem append_four {α : Type} (xs : List α) (a b c d : α) :
    xs ++ [a] ++ [b] ++ [c] ++ [d] = xs ++ [a, b, c, d] := by
  simp

theorem append_three {α : Type} (xs : List α) (a b c : α) :
    xs ++ [a] ++ [b] ++ [c] = xs ++ [a, b, c] := by
  simp

section Turn

variable {key : Nat → ArrayKey} {first count : GLuint} {i : Nat} {ctx ctx' : Encoder}
  {cmds : List GLCmd}

theorem disabled_of_none (hattrib : ctx.state.states[i]? = none) :
    ∀ attrib, ctx.state.states[i]? = some attrib → attrib.enabled = 0#32 := by
  intro attrib hsome
  rw [hattrib] at hsome
  cases hsome

theorem disabled_of_some {attrib : VertexAttribState}
    (hattrib : ctx.state.states[i]? = some attrib) (hdisabled : attrib.enabled = 0#32) :
    ∀ other, ctx.state.states[i]? = some other → other.enabled = 0#32 := by
  intro other hother
  rw [hattrib] at hother
  cases hother
  exact hdisabled

/-- A turn for no attribute, or for one that is not enabled. -/
theorem SendsArray.of_disabled (hstream : ctx'.stream = ctx.stream ++ cmds)
    (hstate : ctx'.state = (ctx.state.getStateAndEnableDirty i).2)
    (hdisabled : ∀ attrib, ctx.state.states[i]? = some attrib → attrib.enabled = 0#32)
    (hpointer : ∀ host : HostPointers, (host.execs cmds).pointer = host.pointer)
    (hreads : cmds.flatMap vertexReads = []) :
    SendsArray key first count i ctx ctx' cmds where
  stream := hstream
  states := by
    intro j hj
    rw [hstate, states_getStateAndEnableDirty _ hj]
  length := by rw [hstate, nLocations_getStateAndEnableDirty]
  pointer := fun attrib hattrib henabled => absurd (hdisabled attrib hattrib) henabled
  other := fun host k _ => congrFun (hpointer host) k
  mem_reads := by
    intro address
    rw [hreads]
    constructor
    · intro hmem
      cases hmem
    · rintro ⟨attrib, hattrib, henabled, -⟩
      exact absurd (hdisabled attrib hattrib) henabled.1

/-- A turn for an enabled attribute. -/
theorem SendsArray.of_enabled {attrib : VertexAttribState}
    (hattrib : ctx.state.states[i]? = some attrib) (henabled : attrib.enabled ≠ 0#32)
    (hstream : ctx'.stream = ctx.stream ++ cmds)
    (hstate : ctx'.state = (ctx.state.getStateAndEnableDirty i).2)
    (hpointer : ∀ host : HostPointers, (host.execs cmds).pointer =
      Function.update host.pointer (key i) (some (attribPointer attrib first count)))
    (hreads : cmds.flatMap vertexReads =
      if attrib.bufferObject = 0#32 then attribReads attrib first count else []) :
    SendsArray key first count i ctx ctx' cmds where
  stream := hstream
  states := by
    intro j hj
    rw [hstate, states_getStateAndEnableDirty _ hj]
  length := by rw [hstate, nLocations_getStateAndEnableDirty]
  pointer := by
    intro other hother _ host
    rw [hattrib] at hother
    cases hother
    rw [hpointer, Function.update_self]
  other := by
    intro host k hk
    rw [hpointer, Function.update_of_ne hk]
  mem_reads := by
    intro address
    rw [hreads]
    constructor
    · intro hmem
      split at hmem
      · rename_i hclient
        exact ⟨attrib, hattrib, ⟨henabled, hclient⟩, hmem⟩
      · cases hmem
    · rintro ⟨other, hother, hclient, hmem⟩
      rw [hattrib] at hother
      cases hother
      rw [if_pos hclient.2]
      exact hmem

end Turn

/-- The key of a generic attribute. -/
def attribKey (i : Nat) : ArrayKey := .attrib (BitVec.ofNat 32 i)

theorem attribKey_injective {i j : Nat} (hi : i < 2 ^ 32) (hj : j < 2 ^ 32)
    (hkey : attribKey i = attribKey j) : i = j := by
  have hindex : BitVec.ofNat 32 i = BitVec.ofNat 32 j := ArrayKey.attrib.inj hkey
  have hnat := congrArg BitVec.toNat hindex
  rwa [BitVec.toNat_ofNat, BitVec.toNat_ofNat, Nat.mod_eq_of_lt hi, Nat.mod_eq_of_lt hj] at hnat

/-- One turn of the loop of `sendVertexAttributes`. -/
theorem sendVertexAttribute_sendsArray (first count : GLint) (ctx : Encoder) (i : Nat) :
    ∃ cmds, SendsArray attribKey first count i ctx
      (GLESv2Enc.GL2Encoder.sendVertexAttribute first count ctx i) cmds := by
  unfold GLESv2Enc.GL2Encoder.sendVertexAttribute
  cases hattrib : ctx.state.states[i]? with
  | none =>
      have hget : (ctx.state.getStateAndEnableDirty i).1 = none := hattrib
      dsimp only
      rw [hget]
      exact ⟨[], .of_disabled (List.append_nil _).symm rfl (disabled_of_none hattrib)
        (fun _ => rfl) rfl⟩
  | some attrib =>
      have hget : (ctx.state.getStateAndEnableDirty i).1 = some attrib := hattrib
      have hdisabled := disabled_of_some hattrib
      dsimp only
      rw [hget]
      dsimp only
      split
      · rename_i hclean
        exact ⟨[], .of_disabled (List.append_nil _).symm rfl (hdisabled hclean.2)
          (fun _ => rfl) rfl⟩
      split
      · rename_i henabled
        split
        · rename_i hclient
          refine ⟨[.glEnableVertexAttribArray _, .glVertexAttribPointerData ..],
            .of_enabled hattrib henabled (List.append_assoc ..) rfl ?_ ?_⟩
          · intro host
            unfold attribPointer
            rw [if_pos hclient]
            rfl
          · rw [if_pos hclient]
            exact List.append_nil _
        · -- the buffer of the attribute is bound for the pointer only
          rename_i hbuffer
          refine ⟨_, .of_enabled hattrib henabled (append_four ..) rfl ?_ ?_⟩
          · intro host
            unfold attribPointer
            rw [if_neg hbuffer]
            rfl
          · rw [if_neg hbuffer]
            rfl
      · rename_i henabled
        exact ⟨[.glDisableVertexAttribArray _], .of_disabled rfl rfl
          (hdisabled (not_not.mp henabled)) (fun _ => rfl) rfl⟩

/-- The key of a location of `StateLocation`. -/
def arrayKey (i : Nat) : ArrayKey :=
  .clientArray ((GLESv1Enc.GLEncoder.arrayPointer i).getD .glVertexPointer)

theorem arrayKey_injective :
    ∀ i < LAST_LOCATION, ∀ j < LAST_LOCATION, arrayKey i = arrayKey j → i = j := by
  decide

theorem arrayPointer_isSome :
    ∀ i < LAST_LOCATION, (GLESv1Enc.GLEncoder.arrayPointer i).isSome = true := by
  decide

/-- The array of the location has as many components as its pointer call says. -/
def ArraySizeFits (i : Nat) (attrib : VertexAttribState) : Prop :=
  ∀ array ∈ GLESv1Enc.GLEncoder.arrayPointer i,
    arrayComponents array (GLESv1Enc.GLEncoder.pointerSize array attrib.size) = attrib.size

instance (i : Nat) (attrib : VertexAttribState) : Decidable (ArraySizeFits i attrib) := by
  unfold ArraySizeFits
  infer_instance

/-- Commands that set no pointer and read no vertex data. -/
structure Quiet (cmds : List GLCmd) : Prop where
  pointer : ∀ host : HostPointers, (host.execs cmds).pointer = host.pointer
  reads : cmds.flatMap vertexReads = []

theorem Quiet.append {cmds cmds' : List GLCmd} (h : Quiet cmds) (h' : Quiet cmds') :
    Quiet (cmds ++ cmds') where
  pointer := by
    intro host
    rw [HostPointers.execs_append, h'.pointer, h.pointer]
  reads := by rw [List.flatMap_append, h.reads, h'.reads, List.append_nil]

/-- A command that is sent under a condition. -/
theorem optional_emit (sent : Prop) [Decidable sent] (ctx : Encoder) (cmd : GLCmd)
    (hquiet : Quiet [cmd]) :
    ∃ cmds, (if sent then ctx.emit cmd else ctx).stream = ctx.stream ++ cmds ∧
      (if sent then ctx.emit cmd else ctx).state = ctx.state ∧ Quiet cmds := by
  by_cases hsent : sent
  · rw [if_pos hsent]
    exact ⟨[cmd], rfl, rfl, hquiet⟩
  · rw [if_neg hsent]
    exact ⟨[], (List.append_nil _).symm, rfl, fun _ => rfl, rfl⟩

/-- What `sendPointer` adds to the stream. -/
theorem sendPointer_sends {i : Nat} (hi : i < LAST_LOCATION) {attrib : VertexAttribState}
    (hfits : ArraySizeFits i attrib) (first count : GLuint) (ctx : Encoder) :
    ∃ cmds, (GLESv1Enc.GLEncoder.sendPointer ctx i attrib first count).stream =
        ctx.stream ++ cmds ∧
      (GLESv1Enc.GLEncoder.sendPointer ctx i attrib first count).state = ctx.state ∧
      (∀ host : HostPointers, (host.execs cmds).pointer =
        Function.update host.pointer (arrayKey i) (some (attribPointer attrib first count))) ∧
      cmds.flatMap vertexReads =
        if attrib.bufferObject = 0#32 then attribReads attrib first count else [] := by
  obtain ⟨array, harray⟩ := Option.isSome_iff_exists.mp (arrayPointer_isSome i hi)
  have hkey : arrayKey i = .clientArray array := by
    unfold arrayKey
    rw [harray]
    rfl
  have hsize := hfits array harray
  unfold GLESv1Enc.GLEncoder.sendPointer GLESv1Enc.GLEncoder.emitPointer attribPointer
  rw [harray, hkey]
  dsimp only
  split
  · refine ⟨[.glArrayPointerData ..], rfl, rfl, ?_, ?_⟩
    · intro host
      simp only [HostPointers.execs, List.foldl_cons, List.foldl_nil, HostPointers.exec, hsize]
      rfl
    · simp only [List.flatMap_singleton, vertexReads, hsize]
      rfl
  · refine ⟨_, append_three .., rfl, ?_, rfl⟩
    intro host
    simp only [HostPointers.execs, List.foldl_cons, List.foldl_nil, HostPointers.exec, hsize]
    rfl

/-- One turn of the loop of `sendVertexData`. -/
theorem sendVertexArray_sendsArray (first count : GLuint) (ctx : Encoder) {i : Nat}
    (hi : i < LAST_LOCATION)
    (hfits : ∀ attrib, ctx.state.states[i]? = some attrib → attrib.enabled ≠ 0#32 →
      ArraySizeFits i attrib) :
    ∃ cmds, SendsArray arrayKey first count i ctx
      (GLESv1Enc.GLEncoder.sendVertexArray first count ctx i) cmds := by
  unfold GLESv1Enc.GLEncoder.sendVertexArray
  cases hattrib : ctx.state.states[i]? with
  | none =>
      have hget : (ctx.state.getStateAndEnableDirty i).1 = none := hattrib
      dsimp only
      rw [hget]
      exact ⟨[], .of_disabled (List.append_nil _).symm rfl (disabled_of_none hattrib)
        (fun _ => rfl) rfl⟩
  | some attrib =>
      have hget : (ctx.state.getStateAndEnableDirty i).1 = some attrib := hattrib
      have hdisabled := disabled_of_some hattrib
      dsimp only
      rw [hget]
      dsimp only
      split
      · rename_i hclean
        exact ⟨[], .of_disabled (List.append_nil _).symm rfl (hdisabled hclean.2)
          (fun _ => rfl) rfl⟩
      -- before the pointer come the unit, and the enable of an array that has changed
      obtain ⟨unit, hunit, hunitState, hunitQuiet⟩ := optional_emit
        (GLESv1Enc.GLEncoder.isTexCoord i = true)
        { ctx with state := (ctx.state.getStateAndEnableDirty i).2 }
        (.glClientActiveTexture (GL_TEXTURE0 + BitVec.ofNat 32 (i - TEXCOORD0_LOCATION)))
        ⟨fun _ => rfl, rfl⟩
      generalize (if GLESv1Enc.GLEncoder.isTexCoord i = true then _ else _ : Encoder) = selected
        at hunit hunitState ⊢
      split
      · rename_i henabled
        obtain ⟨enable, henable, henableState, henableQuiet⟩ := optional_emit
          (attrib.enableDirty = true) selected (.glEnableClientState (glConst i))
          ⟨fun _ => rfl, rfl⟩
        generalize (if attrib.enableDirty = true then _ else _ : Encoder) = ready
          at henable henableState ⊢
        obtain ⟨pointer, hpointer, hpointerState, hset, hreads⟩ :=
          sendPointer_sends hi (hfits attrib hattrib henabled) first count ready
        have hquiet := hunitQuiet.append henableQuiet
        refine ⟨unit ++ enable ++ pointer, .of_enabled hattrib henabled ?_ ?_ ?_ ?_⟩
        · rw [hpointer, henable, hunit, List.append_assoc, List.append_assoc, List.append_assoc]
        · rw [hpointerState, henableState, hunitState]
        · intro host
          rw [HostPointers.execs_append, hset, hquiet.pointer]
        · rw [List.flatMap_append, hquiet.reads, hreads, List.nil_append]
      · rename_i henabled
        have hdisable : Quiet [.glDisableClientState (glConst i)] := ⟨fun _ => rfl, rfl⟩
        have hquiet := hunitQuiet.append hdisable
        refine ⟨unit ++ [.glDisableClientState (glConst i)], .of_disabled ?_ hunitState
          (hdisabled (not_not.mp henabled)) hquiet.pointer hquiet.reads⟩
        show selected.stream ++ _ = _
        rw [hunit, List.append_assoc]

end Draws
end DeviceAndroVM
