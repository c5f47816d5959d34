import DeviceAndroVM.Audio.Device
import DeviceAndroVM.Library.Slot

/-!
# The active streams of the audio device

`active_out` and `active_in` name one stream each, but any number of streams can be out of
standby.

* `Streams.Tracks` — a stream is active exactly when one is out of standby, and it is such a
  stream.
* `outLeaving`, `inLeaving` — the stream that a call puts in standby.
* `active_outOfStandby` — whatever is called, the active streams are open and out of standby.
* `always_tracks_iff` — the device tracks its streams just when no stream is put in standby
  while another one of its kind is out of it.
-/

namespace DeviceAndroVM
namespace Audio

open Library

variable {M : Platform} {d d' : Device} {t : Streams} {i : Handle}

namespace Streams

/-- The stream is open and not in standby. -/
def OutOfStandby (t : Streams) (i : Handle) : Prop :=
  ∃ s, t.stream i = some s ∧ s.standby = false

/-- A stream is active exactly when some stream is out of standby, and then it is such a
stream. -/
def Tracks (t : Streams) : Prop :=
  (t.active ≠ none ↔ ∃ i, t.OutOfStandby i) ∧ ∀ i, t.active = some i → t.OutOfStandby i

/-- The stream that leaves, if it is out of standby, is the only one that is. -/
def Alone (t : Streams) (leaving : Option Handle) : Prop :=
  ∀ i ∈ leaving, t.OutOfStandby i → ∀ j, t.OutOfStandby j → j = i

/-- The streams of one kind, as users of the one place for the active stream. -/
def slot (t : Streams) : Slot Handle := ⟨t.active, {i | t.OutOfStandby i}⟩

theorem tracks_iff : t.slot.Tracks ↔ t.Tracks := Iff.rfl

theorem alone_iff {leaving : Option Handle} : t.slot.Alone leaving ↔ t.Alone leaving := Iff.rfl

/-- The stream is in standby, so that the next write or read starts it. -/
def inStandby (t : Streams) (i : Handle) : Bool := (t.stream i).any Stream.standby

end Streams

/-- The output stream that the call puts in standby, if it is not there yet. -/
def Op.outLeaving (M : Platform) (d : Device) : Op → Option Handle
  | closeOutput out => some out
  | .outStandby out => some out
  | outSetParameters out val =>
      if reroutes d.out_device val && togglesSco M.AUDIO_DEVICE_OUT_ALL_SCO d.out_device val then
        some out
      else none
  | inRead i _ =>
      if d.ins.inStandby i && Device.ratesConflict IN_SAMPLING_RATE d.rate then d.outs.active
      else none
  | _ => none

/-- The input stream that the call puts in standby, if it is not there yet. -/
def Op.inLeaving (M : Platform) (d : Device) : Op → Option Handle
  | closeInput i => some i
  | .inStandby i => some i
  | inSetParameters i value =>
      if reroutes d.in_device (value &&& ~~~M.AUDIO_DEVICE_BIT_IN) &&
          togglesSco M.AUDIO_DEVICE_IN_ALL_SCO d.in_device
            (value &&& ~~~M.AUDIO_DEVICE_BIT_IN) then
        some i
      else none
  | outWrite out _ _ =>
      if d.outs.inStandby out && Device.ratesConflict d.rate IN_SAMPLING_RATE then d.ins.active
      else none
  | _ => none

/-- No stream is put in standby while another one of its kind is out of standby. -/
def LeavesAlone (M : Platform) (d : Device) (op : Op) : Prop :=
  d.outs.Alone (op.outLeaving M d) ∧ d.ins.Alone (op.inLeaving M d)

def Device.Tracks (d : Device) : Prop := d.outs.Tracks ∧ d.ins.Tracks

/-! ## One kind of streams -/

namespace Streams

theorem outOfStandby_set {s : Option Stream} {j : Handle} :
    (t.set i s).OutOfStandby j ↔
      (j = i ∧ ∃ x, s = some x ∧ x.standby = false) ∨ (j ≠ i ∧ t.OutOfStandby j) := by
  unfold OutOfStandby set
  by_cases hj : j = i
  · subst hj
    simp
  · simp [hj]

/-- A stream that is not out of standby can be replaced by one that is in standby, or by
none. -/
theorem slot_set (hi : ¬ t.OutOfStandby i) {s : Option Stream}
    (hs : ∀ x, s = some x → x.standby = true) : (t.set i s).slot = t.slot := by
  have hbusy : {j | (t.set i s).OutOfStandby j} = {j | t.OutOfStandby j} := by
    ext j
    show (t.set i s).OutOfStandby j ↔ t.OutOfStandby j
    rw [outOfStandby_set]
    constructor
    · rintro (⟨_, x, hx, hout⟩ | ⟨_, hout⟩)
      · rw [hs x hx] at hout
        cases hout
      · exact hout
    · intro hout
      right
      exact ⟨fun hj => hi (hj ▸ hout), hout⟩
  show (⟨t.active, {j | (t.set i s).OutOfStandby j}⟩ : Slot Handle) = ⟨t.active, _⟩
  rw [hbusy]

theorem not_outOfStandby_of_inStandby (h : t.inStandby i = true) : ¬ t.OutOfStandby i := by
  rintro ⟨s, hs, hout⟩
  simp [inStandby, hs, hout] at h

/-- `do_out_standby` and `do_in_standby`. -/
theorem moves_doStandby : t.slot.Moves (some i) (t.doStandby i).slot := by
  unfold doStandby
  split
  next hnone =>
    apply Slot.Moves.keep
    rintro j ⟨⟩ ⟨s, hs, _⟩
    rw [hnone] at hs
    cases hs
  next s hs =>
    split
    next hstandby =>
      apply Slot.Moves.keep
      rintro j ⟨⟩ ⟨s', hs', hout⟩
      rw [hs, Option.some.injEq] at hs'
      rw [← hs', hstandby] at hout
      cases hout
    next hout =>
      have hgive : ({ t.set i (some ⟨.null, true⟩) with active := none } : Streams).slot =
          t.slot.give i := by
        have hbusy : {j | (t.set i (some ⟨.null, true⟩)).OutOfStandby j} =
            {j | t.OutOfStandby j} \ {i} := by
          ext j
          show (t.set i _).OutOfStandby j ↔ t.OutOfStandby j ∧ j ≠ i
          rw [outOfStandby_set]
          constructor
          · rintro (⟨_, x, hx, hout⟩ | ⟨hne, hout⟩)
            · cases hx
              cases hout
            · exact ⟨hout, hne⟩
          · rintro ⟨hout, hne⟩
            exact .inr ⟨hne, hout⟩
        show (⟨none, {j | (t.set i (some ⟨.null, true⟩)).OutOfStandby j}⟩ : Slot Handle) = _
        rw [hbusy]
        rfl
      rw [hgive]
      exact Slot.Moves.give i rfl ⟨s, hs, by simpa using hout⟩

theorem not_outOfStandby_doStandby : ¬ (t.doStandby i).OutOfStandby i := by
  unfold doStandby
  split
  next hnone => simp [OutOfStandby, hnone]
  next s hs =>
    split
    next hstandby => simp [OutOfStandby, hs, hstandby]
    next => exact fun h => by simp [OutOfStandby, set] at h

/-- A stream that is closed is put in standby first. -/
theorem slot_close : ((t.doStandby i).set i none).slot = (t.doStandby i).slot :=
  slot_set not_outOfStandby_doStandby (by simp)

/-- A stream that has been started is active and leaves standby. -/
theorem slot_started {pcm : Pcm} :
    (({ t.set i (some ⟨pcm, true⟩) with active := some i } : Streams).leaveStandby i).slot =
      t.slot.take i := by
  have hstream : ({ t.set i (some ⟨pcm, true⟩) with active := some i } : Streams).leaveStandby i =
      { t.set i (some ⟨pcm, false⟩) with active := some i } := by
    simp [leaveStandby, set]
  have hbusy : {j | (t.set i (some ⟨pcm, false⟩)).OutOfStandby j} =
      insert i {j | t.OutOfStandby j} := by
    ext j
    show (t.set i _).OutOfStandby j ↔ j = i ∨ t.OutOfStandby j
    rw [outOfStandby_set]
    constructor
    · rintro (⟨hj, _⟩ | ⟨_, hout⟩)
      · exact .inl hj
      · exact .inr hout
    · intro h
      by_cases hj : j = i
      · exact .inl ⟨hj, _, rfl, rfl⟩
      · exact .inr ⟨hj, h.resolve_left hj⟩
  rw [hstream]
  show (⟨some i, {j | (t.set i (some ⟨pcm, false⟩)).OutOfStandby j}⟩ : Slot Handle) = _
  rw [hbusy]
  rfl

end Streams

/-! ## The calls -/

namespace Device

@[simp] theorem outs_yieldInput : d.yieldInput.outs = d.outs := by
  unfold yieldInput doInStandby
  split
  · rfl
  · split <;> rfl

@[simp] theorem ins_yieldOutput : d.yieldOutput.ins = d.ins := by
  unfold yieldOutput doOutStandby
  split
  · rfl
  · split <;> rfl

@[simp] theorem outs_openOutput {opened again : PcmOpen} :
    (d.openOutput opened again).1.outs = d.outs := by
  unfold openOutput
  split <;> rfl

@[simp] theorem ins_openOutput {opened again : PcmOpen} :
    (d.openOutput opened again).1.ins = d.ins := by
  unfold openOutput
  split <;> rfl

/-- The active input stream is put in standby when its rate is in the other group. -/
theorem moves_yieldInput :
    d.ins.slot.Moves (if ratesConflict d.rate IN_SAMPLING_RATE then d.ins.active else none)
      d.yieldInput.ins.slot := by
  unfold yieldInput
  cases hactive : d.ins.active with
  | none =>
      have hnobody : (if ratesConflict d.rate IN_SAMPLING_RATE then none else none : Option Handle) = none := by
        split <;> rfl
      rw [hnobody]
      exact Slot.Moves.keep (by simp)
  | some i =>
      cases hconflict : ratesConflict d.rate IN_SAMPLING_RATE with
      | false => exact Slot.Moves.keep (by simp)
      | true => exact Streams.moves_doStandby

/-- The active output stream is put in standby when its rate is in the other group. -/
theorem moves_yieldOutput :
    d.outs.slot.Moves (if ratesConflict IN_SAMPLING_RATE d.rate then d.outs.active else none)
      d.yieldOutput.outs.slot := by
  unfold yieldOutput
  cases hactive : d.outs.active with
  | none =>
      have hnobody : (if ratesConflict IN_SAMPLING_RATE d.rate then none else none : Option Handle) = none := by
        split <;> rfl
      rw [hnobody]
      exact Slot.Moves.keep (by simp)
  | some out =>
      cases hconflict : ratesConflict IN_SAMPLING_RATE d.rate with
      | false => exact Slot.Moves.keep (by simp)
      | true => exact Streams.moves_doStandby

/-- An output stream fails to start and stays in standby, or becomes the active one. -/
theorem outs_startOutputStream (out : Handle) (opened again : PcmOpen) :
    ((d.startOutputStream out opened again).2 = -ENOMEM ∧
        (d.startOutputStream out opened again).1.outs = d.outs.set out (some ⟨.closed, true⟩)) ∨
      ((d.startOutputStream out opened again).2 = 0 ∧
        ∃ pcm, (d.startOutputStream out opened again).1.outs =
          { d.outs.set out (some ⟨pcm, true⟩) with active := some out }) := by
  unfold startOutputStream
  by_cases hfailed : (d.yieldInput.openOutput opened again).2.failed = true
  · left
    simp [hfailed]
  · right
    simp only [if_neg hfailed, outs_openOutput, outs_yieldInput]
    exact ⟨trivial, _, rfl⟩

theorem ins_startOutputStream (out : Handle) (opened again : PcmOpen) :
    (d.startOutputStream out opened again).1.ins = d.yieldInput.ins := by
  unfold startOutputStream
  by_cases hfailed : (d.yieldInput.openOutput opened again).2.failed = true <;> simp [hfailed]

/-- An input stream fails to start and stays in standby, or becomes the active one. -/
theorem ins_startInputStream (i : Handle) (opened : PcmOpen) :
    ((d.startInputStream i opened).2 = -ENOMEM ∧
        (d.startInputStream i opened).1.ins = d.ins.set i (some ⟨.closed, true⟩)) ∨
      ((d.startInputStream i opened).2 = 0 ∧
        ∃ pcm, (d.startInputStream i opened).1.ins =
          { d.ins.set i (some ⟨pcm, true⟩) with active := some i }) := by
  unfold startInputStream
  by_cases hfailed : opened.failed = true
  · left
    simp [hfailed]
  · right
    simp only [if_neg hfailed, ins_yieldOutput]
    exact ⟨trivial, _, rfl⟩

theorem outs_startInputStream (i : Handle) (opened : PcmOpen) :
    (d.startInputStream i opened).1.outs = d.yieldOutput.outs := by
  unfold startInputStream
  by_cases hfailed : opened.failed = true <;> simp [hfailed]

/-- A write to a started stream changes nothing here. -/
theorem outWrite_of_not_inStandby {out : Handle} {opened again : PcmOpen}
    (h : d.outs.inStandby out = false) : d.outWrite out opened again = d := by
  unfold outWrite
  split
  next => rfl
  next s hs =>
    rw [if_neg]
    simpa [Streams.inStandby, hs] using h

theorem inRead_of_not_inStandby {opened : PcmOpen} (h : d.ins.inStandby i = false) :
    d.inRead i opened = d := by
  unfold inRead
  split
  next => rfl
  next s hs =>
    rw [if_neg]
    simpa [Streams.inStandby, hs] using h

theorem outWrite_of_inStandby {out : Handle} {opened again : PcmOpen}
    (h : d.outs.inStandby out = true) :
    d.outWrite out opened again =
      if (d.startOutputStream out opened again).2 != 0 then
        (d.startOutputStream out opened again).1
      else
        { (d.startOutputStream out opened again).1 with
          outs := (d.startOutputStream out opened again).1.outs.leaveStandby out } := by
  unfold outWrite
  split
  next hnone => simp [Streams.inStandby, hnone] at h
  next s hs =>
    rw [if_pos]
    simpa [Streams.inStandby, hs] using h

theorem inRead_of_inStandby {opened : PcmOpen} (h : d.ins.inStandby i = true) :
    d.inRead i opened =
      if (d.startInputStream i opened).2 == 0 then
        { (d.startInputStream i opened).1 with
          ins := (d.startInputStream i opened).1.ins.leaveStandby i }
      else (d.startInputStream i opened).1 := by
  unfold inRead
  split
  next hnone => simp [Streams.inStandby, hnone] at h
  next s hs =>
    rw [if_pos]
    simpa [Streams.inStandby, hs] using h

/-- A write starts a stream that is in standby, or fails to. -/
theorem moves_outs_outWrite {out : Handle} {opened again : PcmOpen} :
    d.outs.slot.Moves none (d.outWrite out opened again).outs.slot := by
  cases h : d.outs.inStandby out with
  | false =>
      rw [outWrite_of_not_inStandby h]
      exact Slot.Moves.keep (by simp)
  | true =>
      rw [outWrite_of_inStandby h]
      obtain ⟨hret, houts⟩ | ⟨hret, pcm, houts⟩ := d.outs_startOutputStream out opened again
      · rw [hret, if_pos (by decide), houts,
          Streams.slot_set (Streams.not_outOfStandby_of_inStandby h) (by simp)]
        exact Slot.Moves.keep (by simp)
      · rw [hret, if_neg (by decide)]
        show d.outs.slot.Moves none (Streams.leaveStandby _ out).slot
        rw [houts, Streams.slot_started]
        exact Slot.Moves.take out rfl

/-- It also puts the active input stream in standby when that is in the other group of
rates. -/
theorem moves_ins_outWrite {out : Handle} {opened again : PcmOpen} :
    d.ins.slot.Moves (Op.inLeaving M d (.outWrite out opened again))
      (d.outWrite out opened again).ins.slot := by
  simp only [Op.inLeaving]
  cases h : d.outs.inStandby out with
  | false =>
      rw [outWrite_of_not_inStandby h]
      exact Slot.Moves.keep (by simp)
  | true =>
      have hins : (d.outWrite out opened again).ins = d.yieldInput.ins := by
        rw [outWrite_of_inStandby h, ← d.ins_startOutputStream out opened again]
        split <;> rfl
      rw [hins]
      exact moves_yieldInput

/-- A read starts a stream that is in standby, or fails to. -/
theorem moves_ins_inRead {opened : PcmOpen} :
    d.ins.slot.Moves none (d.inRead i opened).ins.slot := by
  cases h : d.ins.inStandby i with
  | false =>
      rw [inRead_of_not_inStandby h]
      exact Slot.Moves.keep (by simp)
  | true =>
      rw [inRead_of_inStandby h]
      obtain ⟨hret, hins⟩ | ⟨hret, pcm, hins⟩ := d.ins_startInputStream i opened
      · rw [hret, if_neg (by decide), hins,
          Streams.slot_set (Streams.not_outOfStandby_of_inStandby h) (by simp)]
        exact Slot.Moves.keep (by simp)
      · rw [hret, if_pos (by decide)]
        show d.ins.slot.Moves none (Streams.leaveStandby _ i).slot
        rw [hins, Streams.slot_started]
        exact Slot.Moves.take i rfl

/-- It also puts the active output stream in standby when that is in the other group of
rates. -/
theorem moves_outs_inRead {opened : PcmOpen} :
    d.outs.slot.Moves (Op.outLeaving M d (.inRead i opened)) (d.inRead i opened).outs.slot := by
  simp only [Op.outLeaving]
  cases h : d.ins.inStandby i with
  | false =>
      rw [inRead_of_not_inStandby h]
      exact Slot.Moves.keep (by simp)
  | true =>
      have houts : (d.inRead i opened).outs = d.yieldOutput.outs := by
        rw [inRead_of_inStandby h, ← d.outs_startInputStream i opened]
        split <;> rfl
      rw [houts]
      exact moves_yieldOutput

theorem moves_outSetParameters {out : Handle} {val : BitVec 32} :
    d.outs.slot.Moves (Op.outLeaving M d (.outSetParameters out val))
      (d.outSetParameters M out val).outs.slot := by
  unfold outSetParameters
  simp only [Op.outLeaving]
  cases reroutes d.out_device val with
  | false => exact Slot.Moves.keep (by simp)
  | true =>
      cases togglesSco M.AUDIO_DEVICE_OUT_ALL_SCO d.out_device val with
      | false => exact Slot.Moves.keep (by simp)
      | true => exact Streams.moves_doStandby

theorem moves_inSetParameters {value : BitVec 32} :
    d.ins.slot.Moves (Op.inLeaving M d (.inSetParameters i value))
      (d.inSetParameters M i value).ins.slot := by
  unfold inSetParameters
  simp only [Op.inLeaving]
  cases reroutes d.in_device (value &&& ~~~M.AUDIO_DEVICE_BIT_IN) with
  | false => exact Slot.Moves.keep (by simp)
  | true =>
      cases togglesSco M.AUDIO_DEVICE_IN_ALL_SCO d.in_device
          (value &&& ~~~M.AUDIO_DEVICE_BIT_IN) with
      | false => exact Slot.Moves.keep (by simp)
      | true => exact Streams.moves_doStandby

theorem ins_outSetParameters {out : Handle} {val : BitVec 32} :
    (d.outSetParameters M out val).ins = d.ins := by
  unfold outSetParameters doOutStandby
  cases reroutes d.out_device val with
  | false => rfl
  | true => cases togglesSco M.AUDIO_DEVICE_OUT_ALL_SCO d.out_device val <;> rfl

theorem outs_inSetParameters {value : BitVec 32} :
    (d.inSetParameters M i value).outs = d.outs := by
  simp only [inSetParameters, doInStandby]
  cases reroutes d.in_device (value &&& ~~~M.AUDIO_DEVICE_BIT_IN) with
  | false => rfl
  | true =>
      cases togglesSco M.AUDIO_DEVICE_IN_ALL_SCO d.in_device
        (value &&& ~~~M.AUDIO_DEVICE_BIT_IN) <;> rfl

end Device

/-! ## Every call -/

/-- What a call does to the output streams. -/
theorem moves_outs {op : Op} (h : op.Allowed d) :
    d.outs.slot.Moves (op.outLeaving M d) (d.apply M op).outs.slot := by
  cases op with
  | openOutput out =>
      have hidle : ¬ d.outs.OutOfStandby out := by
        rintro ⟨s, hs, _⟩
        rw [show d.outs.stream out = none from h] at hs
        cases hs
      show d.outs.slot.Moves none (d.outs.set out (some Stream.start)).slot
      rw [Streams.slot_set hidle (by simp [Stream.start])]
      exact Slot.Moves.keep (by simp)
  | closeOutput out =>
      show d.outs.slot.Moves (some out) ((d.outs.doStandby out).set out none).slot
      rw [Streams.slot_close]
      exact Streams.moves_doStandby
  | outStandby out => exact Streams.moves_doStandby
  | outSetParameters out val => exact Device.moves_outSetParameters
  | outWrite out opened again => exact Device.moves_outs_outWrite
  | inRead i opened => exact Device.moves_outs_inRead
  | inSetParameters i value =>
      show d.outs.slot.Moves none (d.inSetParameters M i value).outs.slot
      rw [Device.outs_inSetParameters]
      exact Slot.Moves.keep (by simp)
  | openInput i => exact Slot.Moves.keep (by simp [Op.outLeaving])
  | closeInput i => exact Slot.Moves.keep (by simp [Op.outLeaving])
  | inStandby i => exact Slot.Moves.keep (by simp [Op.outLeaving])

/-- What a call does to the input streams. -/
theorem moves_ins {op : Op} (h : op.Allowed d) :
    d.ins.slot.Moves (op.inLeaving M d) (d.apply M op).ins.slot := by
  cases op with
  | openInput i =>
      have hidle : ¬ d.ins.OutOfStandby i := by
        rintro ⟨s, hs, _⟩
        rw [show d.ins.stream i = none from h] at hs
        cases hs
      show d.ins.slot.Moves none (d.ins.set i (some Stream.start)).slot
      rw [Streams.slot_set hidle (by simp [Stream.start])]
      exact Slot.Moves.keep (by simp)
  | closeInput i =>
      show d.ins.slot.Moves (some i) ((d.ins.doStandby i).set i none).slot
      rw [Streams.slot_close]
      exact Streams.moves_doStandby
  | inStandby i => exact Streams.moves_doStandby
  | inSetParameters i value => exact Device.moves_inSetParameters
  | inRead i opened => exact Device.moves_ins_inRead
  | outWrite out opened again => exact Device.moves_ins_outWrite
  | outSetParameters out val =>
      show d.ins.slot.Moves none (d.outSetParameters M out val).ins.slot
      rw [Device.ins_outSetParameters]
      exact Slot.Moves.keep (by simp)
  | openOutput out => exact Slot.Moves.keep (by simp [Op.inLeaving])
  | closeOutput out => exact Slot.Moves.keep (by simp [Op.inLeaving])
  | outStandby out => exact Slot.Moves.keep (by simp [Op.inLeaving])

/-- The active streams, if there are any, are open and out of standby. -/
def Device.ActiveRunning (d : Device) : Prop := d.outs.slot.Points ∧ d.ins.slot.Points

/-- Whatever is called, the code never reaches an active stream that is closed or in standby. -/
theorem always_activeRunning {trace : List (Op × Device)}
    (hrun : Run (OpStep M) (Device.adevOpen M) trace) : Always Device.ActiveRunning trace := by
  have hkeep : ∀ d op d', d.ActiveRunning → OpStep M d op d' → d'.ActiveRunning := by
    rintro d op d' ⟨houts, hins⟩ ⟨hallowed, rfl⟩
    exact ⟨(moves_outs hallowed).points houts, (moves_ins hallowed).points hins⟩
  have hinit : (Device.adevOpen M).ActiveRunning := by
    constructor
    · intro i h
      cases h
    · intro i h
      cases h
  exact hrun.always hkeep hinit

theorem tracks_adevOpen : (Device.adevOpen M).Tracks := by
  have hempty : (⟨none, fun _ => none⟩ : Streams).Tracks := by
    constructor
    · constructor
      · intro h
        exact absurd rfl h
      · rintro ⟨i, s, hs, _⟩
        cases hs
    · intro i h
      cases h
  exact ⟨hempty, hempty⟩

/-- One call: the streams are tracked afterwards exactly when it leaves no other one running. -/
theorem tracks_apply_iff {op : Op} (hallowed : op.Allowed d) (h : d.Tracks) :
    (d.apply M op).Tracks ↔ LeavesAlone M d op := by
  have houts : (d.apply M op).outs.Tracks ↔ d.outs.Alone (op.outLeaving M d) := by
    rw [← Streams.tracks_iff, ← Streams.alone_iff]
    exact (moves_outs hallowed).tracks_iff (Streams.tracks_iff.mpr h.1)
  have hins : (d.apply M op).ins.Tracks ↔ d.ins.Alone (op.inLeaving M d) := by
    rw [← Streams.tracks_iff, ← Streams.alone_iff]
    exact (moves_ins hallowed).tracks_iff (Streams.tracks_iff.mpr h.2)
  exact and_congr houts hins

/-- The device tracks its streams through a run exactly when none of them is ever put in
standby while another one of its kind is out of it. -/
theorem always_tracks_iff {trace : List (Op × Device)}
    (hrun : Run (OpStep M) (Device.adevOpen M) trace) :
    Always Device.Tracks trace ↔
      EachStep (fun d op _ => LeavesAlone M d op) (Device.adevOpen M) trace := by
  have hkeep : ∀ d op d', d.Tracks → LeavesAlone M d op → OpStep M d op d' → d'.Tracks := by
    rintro d op d' h halone ⟨hallowed, rfl⟩
    exact (tracks_apply_iff hallowed h).mpr halone
  have hbreak : ∀ d op d', d.Tracks → OpStep M d op d' → d'.Tracks → LeavesAlone M d op := by
    rintro d op d' h ⟨hallowed, rfl⟩ h'
    exact (tracks_apply_iff hallowed h).mp h'
  exact hrun.always_iff_eachStep hkeep (fun _ h => h) hbreak tracks_adevOpen

/-! ## One stream, and two -/

def android : Platform := ⟨0x2#32, 0x80000004#32, 0x70#32, 0x80000008#32, 0x80000000#32⟩

/-- The run of some calls. -/
def calls (ops : List Op) : List (Op × Device) :=
  traceOf (fun d op => d.apply android op) (Device.adevOpen android) ops

theorem run_calls {ops : List Op}
    (h : EachStep (fun d op _ => op.Allowed d) (Device.adevOpen android) (calls ops)) :
    Run (OpStep android) (Device.adevOpen android) (calls ops) :=
  (run_traceOf _ _ ops).and_eachStep h

def single : List Op := [.openOutput 1, .outWrite 1 .ready .ready, .outStandby 1]

/-- Of two streams that play, the first is put in standby. -/
def double : List Op :=
  [.openOutput 1, .openOutput 2, .outWrite 1 .ready .ready, .outWrite 2 .ready .ready,
    .outStandby 1]

theorem always_tracks_single : Always Device.Tracks (calls single) := by
  have hallowed : EachStep (fun d op _ => op.Allowed d) (Device.adevOpen android)
      (calls single) := by decide
  have halone : EachStep (fun d op _ => LeavesAlone android d op) (Device.adevOpen android)
      (calls single) := by
    have hnone : ∀ t : Streams, t.Alone none := by
      intro t i hi
      cases hi
    refine ⟨⟨hnone _, hnone _⟩, ⟨hnone _, hnone _⟩, ⟨?_, hnone _⟩, trivial⟩
    -- the stream that is put in standby is the only one there is
    rintro i ⟨⟩ _ j ⟨s, hs, _⟩
    by_contra hj
    simp [Device.apply, Device.adevOpenOutputStream, Device.adevOpen, Device.outWrite,
      Device.startOutputStream, Device.yieldInput, Device.openOutput, Streams.set,
      Streams.leaveStandby, Stream.start, PcmOpen.failed, hj] at hs
  exact (always_tracks_iff (run_calls hallowed)).mpr halone

/-- Then no stream is active, but the second one still plays. -/
theorem not_always_tracks :
    ¬ ∀ trace, Run (OpStep android) (Device.adevOpen android) trace →
      Always Device.Tracks trace := by
  intro h
  have hallowed : EachStep (fun d op _ => op.Allowed d) (Device.adevOpen android)
      (calls double) := by decide
  have htracks : (endState (Device.adevOpen android) (calls double)).Tracks :=
    (h _ (run_calls hallowed)).endState tracks_adevOpen
  have hplays : (endState (Device.adevOpen android) (calls double)).outs.OutOfStandby 2 :=
    ⟨⟨.opened, false⟩, by decide, rfl⟩
  exact htracks.1.1.mpr ⟨2, hplays⟩ rfl

end Audio
end DeviceAndroVM
