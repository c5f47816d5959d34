import DeviceAndroVM.Library.Transition
import DeviceAndroVM.OpenglCodecCommon.SharedRecords

/-!
# Shared records held across calls

`s_glDrawElements` and `s_glShaderSource` use the pointer that `getBufferData` or
`getShaderData` returned after the lock was released, while other contexts of the
share group run further methods.  A call is therefore cut where it takes the lock;
the uses of the pointer in between are steps of their own.

* `CallPhase` — what a context holds between the lookup and the last use.
* `ContextStep` — the steps: a locked method, a lookup, a use, the last use.
* `HeldLive` — no held record has been deleted.
* `held_live_iff` — a run keeps every held record exactly when no method replaces,
  deletes or releases a record while a context holds it.
-/

namespace DeviceAndroVM
namespace GLESv2Enc

open OpenGL Library OpenglCodecCommon

/-- Where a context is in a call that holds a pointer into the shared group. -/
inductive CallPhase
  | idle
  | drawElements (buf : Nat)
  | shaderSource (shaderData : Nat)
  deriving DecidableEq

/-- The steps of a context.  `getBufferData` begins the branch of
`s_glDrawElements` that reads the indices from a buffer, `readIndices` is `minmax`
or `shiftIndices` on them, and `glDrawElementsData` sends them.  `getShaderData`
begins `s_glShaderSource`, `recordSampler` is a `push_back` in
`replaceSamplerExternalWith2D`, and `glShaderString` follows its return.  Every
other call is its locked `method`, one for each name in `glDeleteBuffers`. -/
inductive ContextStep
  | method (m : GroupMethod)
  | getBufferData (bufferId : GLuint)
  | readIndices
  | glDrawElementsData
  | getShaderData (shader : GLuint)
  | recordSampler (name : String8)
  | glShaderString

/-- The share group and what each of its contexts is doing. -/
structure RecordSystem (Context : Type) where
  records : SharedRecords
  phase : Context → CallPhase

variable {Context : Type}

namespace RecordSystem

/-- No records, no calls. -/
def init : RecordSystem Context where
  records := SharedRecords.init
  phase := fun _ => CallPhase.idle

variable [DecidableEq Context] (s : RecordSystem Context)

/-- The context goes on to another phase. -/
def enter (c : Context) (phase : CallPhase) : RecordSystem Context :=
  { s with phase := Function.update s.phase c phase }

/-- One step of a context.  There is none when the call is not at that point, and
none through a pointer that is `NULL` or whose record is gone. -/
def stepContext (c : Context) : ContextStep → Option (RecordSystem Context)
  | .method m =>
      if s.phase c = .idle then some { s with records := s.records.run m } else none
  | .getBufferData bufferId =>
      if s.phase c = .idle then
        (s.records.getBufferData bufferId).map fun buf => s.enter c (.drawElements buf)
      else none
  | .readIndices =>
      match s.phase c with
      | .drawElements buf => if s.records.buffers.heap.IsLive buf then some s else none
      | _ => none
  | .glDrawElementsData =>
      match s.phase c with
      | .drawElements buf =>
          if s.records.buffers.heap.IsLive buf then some (s.enter c .idle) else none
      | _ => none
  | .getShaderData shader =>
      if s.phase c = .idle then
        match s.records.getShaderData shader with
        | some shaderData => some (s.enter c (.shaderSource shaderData))
        -- `SET_ERROR_IF(!shaderData, GL_INVALID_VALUE)`
        | none => some s
      else none
  | .recordSampler name =>
      match s.phase c with
      | .shaderSource shaderData =>
          if s.records.shaders.heap.IsLive shaderData then
            some { s with
              records := { s.records with
                shaders := s.records.shaders.modifyAt shaderData fun data =>
                  { data with samplerExternalNames := data.samplerExternalNames ++ [name] } } }
          else none
      | _ => none
  | .glShaderString =>
      match s.phase c with
      | .shaderSource shaderData =>
          if s.records.shaders.heap.IsLive shaderData then some (s.enter c .idle) else none
      | _ => none

end RecordSystem

/-- The record that a phase holds has not been deleted. -/
def CallPhase.Live (records : SharedRecords) : CallPhase → Prop
  | .idle => True
  | .drawElements buf => records.buffers.heap.IsLive buf
  | .shaderSource shaderData => records.shaders.heap.IsLive shaderData

/-- The method deletes the record that a phase holds. -/
def CallPhase.Drops (records : SharedRecords) (m : GroupMethod) : CallPhase → Prop
  | .idle => False
  | .drawElements buf => records.DropsBuffer buf m
  | .shaderSource shaderData => records.DropsShader shaderData m

/-- A context that still has a use of a record to come finds it there. -/
def HeldLive (s : RecordSystem Context) : Prop := ∀ c, (s.phase c).Live s.records

/-- The step deletes no record that a context holds. -/
def KeepsHeld (s : RecordSystem Context) (label : Context × ContextStep) : Prop :=
  ∀ m, label.2 = .method m → ∀ c, ¬(s.phase c).Drops s.records m

theorem CallPhase.live_run_iff {records : SharedRecords} {phase : CallPhase}
    (hlive : phase.Live records) (m : GroupMethod) :
    phase.Live (records.run m) ↔ ¬phase.Drops records m := by
  cases phase with
  | idle => exact iff_of_true trivial not_false
  | drawElements buf => exact SharedRecords.isLive_buffers_run_iff hlive m
  | shaderSource shaderData => exact SharedRecords.isLive_shaders_run_iff hlive m

theorem CallPhase.live_modifyAt_iff {records : SharedRecords} {phase : CallPhase} (p : Nat)
    (f : ShaderData → ShaderData) :
    phase.Live { records with shaders := records.shaders.modifyAt p f } ↔
      phase.Live records := by
  cases phase with
  | idle => exact Iff.rfl
  | drawElements buf => exact Iff.rfl
  | shaderSource shaderData => exact RecordTable.isLive_modifyAt_iff shaderData p f

variable [DecidableEq Context] {s s' : RecordSystem Context}

/-- A context enters a phase whose record is live. -/
theorem HeldLive.enter (h : HeldLive s) {c : Context} {phase : CallPhase}
    (hphase : phase.Live s.records) : HeldLive (s.enter c phase) := by
  intro c'
  show (Function.update s.phase c phase c').Live s.records
  by_cases hc : c' = c
  · subst hc
    rw [Function.update_self]
    exact hphase
  · rw [Function.update_of_ne hc]
    exact h c'

/-- One step keeps all held records exactly when it deletes none of them. -/
theorem HeldLive.step_iff (h : HeldLive s) {c : Context} {step : ContextStep}
    (hstep : s.stepContext c step = some s') : HeldLive s' ↔ KeepsHeld s (c, step) := by
  have hkeeps : (∀ m, step ≠ .method m) → KeepsHeld s (c, step) :=
    fun hno m hm => absurd hm (hno m)
  cases step with
  | method m =>
      -- the only step that frees records, of other contexts too
      simp only [RecordSystem.stepContext] at hstep
      split_ifs at hstep
      obtain rfl := Option.some.inj hstep
      constructor
      · intro hafter m' hm' c'
        obtain rfl := ContextStep.method.inj hm'
        exact (CallPhase.live_run_iff (h c') m).mp (hafter c')
      · intro hkeep c'
        exact (CallPhase.live_run_iff (h c') m).mpr (hkeep m rfl c')
  | getBufferData bufferId =>
      refine iff_of_true ?_ (hkeeps (by simp))
      simp only [RecordSystem.stepContext] at hstep
      split_ifs at hstep
      obtain ⟨buf, hfind, rfl⟩ := Option.map_eq_some_iff.mp hstep
      exact h.enter (RecordTable.isLive_of_find hfind)
  | readIndices =>
      refine iff_of_true ?_ (hkeeps (by simp))
      simp only [RecordSystem.stepContext] at hstep
      split at hstep
      · split_ifs at hstep
        obtain rfl := Option.some.inj hstep
        exact h
      · cases hstep
  | glDrawElementsData =>
      refine iff_of_true ?_ (hkeeps (by simp))
      simp only [RecordSystem.stepContext] at hstep
      split at hstep
      · split_ifs at hstep
        obtain rfl := Option.some.inj hstep
        exact h.enter trivial
      · cases hstep
  | getShaderData shader =>
      refine iff_of_true ?_ (hkeeps (by simp))
      simp only [RecordSystem.stepContext] at hstep
      split_ifs at hstep
      split at hstep
      · rename_i shaderData hfind
        obtain rfl := Option.some.inj hstep
        exact h.enter (RecordTable.isLive_of_find hfind)
      · obtain rfl := Option.some.inj hstep
        exact h
  | recordSampler name =>
      refine iff_of_true ?_ (hkeeps (by simp))
      simp only [RecordSystem.stepContext] at hstep
      split at hstep
      · split_ifs at hstep
        obtain rfl := Option.some.inj hstep
        -- a record is written, none is freed
        intro c'
        exact (CallPhase.live_modifyAt_iff _ _).mpr (h c')
      · cases hstep
  | glShaderString =>
      refine iff_of_true ?_ (hkeeps (by simp))
      simp only [RecordSystem.stepContext] at hstep
      split at hstep
      · split_ifs at hstep
        obtain rfl := Option.some.inj hstep
        exact h.enter trivial
      · cases hstep

omit [DecidableEq Context] in
theorem heldLive_init : HeldLive (RecordSystem.init : RecordSystem Context) := fun _ => trivial

/-- For any contexts of a share group and every interleaving of their steps: no
record is deleted between the lookup and the last use of a call that holds it, if
and only if no method of another context replaces or deletes a buffer, or drops the
last reference of a shader, while a call holds the record. -/
theorem held_live_iff (trace : List ((Context × ContextStep) × RecordSystem Context))
    (hrun : Run (fun s label s' => s.stepContext label.1 label.2 = some s')
      RecordSystem.init trace) :
    Always HeldLive trace ↔
      EachStep (fun s label _ => KeepsHeld s label) RecordSystem.init trace :=
  hrun.always_iff_eachStep (fun _ _ _ hinv hcond hstep => (hinv.step_iff hstep).mpr hcond)
    (fun _ hinv => hinv)
    (fun _ _ _ hinv hstep hlive => (hinv.step_iff hstep).mp hlive)
    heldLive_init

/-- Two contexts; the one that is `true` draws from buffer 1, which the other one
filled. -/
def fillAndDraw : List (Bool × ContextStep) :=
  [(false, .method (.updateBufferData 1#32 4#32 (some fun _ => 0))),
    (true, .getBufferData 1#32)]

theorem held_live_iff_draw_first :
    let trace := partialTraceOf (fun s label => RecordSystem.stepContext s label.1 label.2)
      (RecordSystem.init : RecordSystem Bool)
      (fillAndDraw ++ [(true, .readIndices), (true, .glDrawElementsData),
        (false, .method (.deleteBufferData 1#32))])
    Always HeldLive trace ↔
      EachStep (fun s label _ => KeepsHeld s label) RecordSystem.init trace :=
  held_live_iff _ (run_partialTraceOf _ _ _)

/-- A buffer deleted by another context between the lookup and the use of its
record. -/
theorem delete_frees_held_record :
    ¬∀ trace : List ((Bool × ContextStep) × RecordSystem Bool),
      Run (fun s label s' => s.stepContext label.1 label.2 = some s') RecordSystem.init trace →
        Always HeldLive trace := by
  intro h
  let calls := fillAndDraw ++ [(false, .method (.deleteBufferData 1#32))]
  let trace := partialTraceOf (fun s label => RecordSystem.stepContext s label.1 label.2)
    (RecordSystem.init : RecordSystem Bool) calls
  have halways := h trace (run_partialTraceOf _ _ _)
  have hheld : trace.getLast?.map (fun entry => entry.2.phase true) =
      some (.drawElements 0) := by
    decide
  have hdeleted : trace.getLast?.map (fun entry =>
      decide (entry.2.records.buffers.heap.IsLive 0)) = some false := by
    decide
  obtain ⟨entry, hlast, hphase⟩ := Option.map_eq_some_iff.mp hheld
  rw [hlast, Option.map_some, Option.some.injEq] at hdeleted
  have hlive := halways entry (List.mem_of_getLast? hlast) true
  rw [hphase] at hlive
  exact of_decide_eq_false hdeleted hlive

end GLESv2Enc
end DeviceAndroVM
