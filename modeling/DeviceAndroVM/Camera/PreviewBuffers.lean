import DeviceAndroVM.Camera.PreviewWindow
import DeviceAndroVM.Library.EventLog
import DeviceAndroVM.Library.Transition

/-!
# Buffers of the preview window

Every buffer is handed back exactly once.  A frame is converted into a buffer of its
size exactly when no frame of the cached size is converted while the window has another
geometry, and a buffer is handed back unlocked exactly when no frame gets past
`grbuffer_mapper.lock`: the mapper is unlocked last.

* `lastGeometry`, `mapperLocked` — what a log says of a window and of a buffer.
* `GeometryMatches`, `HandedBack`, `UnlockedFirst` — the three parts of the claim.
* `pushFrame_cases`, `onNextFrameAvailable_cases` — what a frame does.
* `preview_buffers` — the three parts over whole runs.
-/

namespace DeviceAndroVM
namespace Camera

open Library

/-! ## Reading the log -/

/-- The size the window was last given. -/
def geometryStep (window : Nat) (geometry : Option (Int × Int)) : WindowEvent → Option (Int × Int)
  | .set_buffers_geometry w width height res =>
      if w = window ∧ res = NO_ERROR then some (width, height) else geometry
  | _ => geometry

def lastGeometry (window : Nat) (log : List WindowEvent) : Option (Int × Int) :=
  log.foldl (geometryStep window) none

/-- Whether the graphics mapper holds a lock on the buffer. -/
def mapperStep (buffer : Nat) (locked : Bool) : WindowEvent → Bool
  | .mapper_lock b => if b = buffer then true else locked
  | .mapper_unlock b => if b = buffer then false else locked
  | _ => locked

def mapperLocked (buffer : Nat) (log : List WindowEvent) : Bool :=
  log.foldl (mapperStep buffer) false

@[simp] theorem lastGeometry_append (window : Nat) (log events : List WindowEvent) :
    lastGeometry window (log ++ events) =
      events.foldl (geometryStep window) (lastGeometry window log) := by
  simp [lastGeometry]

@[simp] theorem mapperLocked_append (buffer : Nat) (log events : List WindowEvent) :
    mapperLocked buffer (log ++ events) =
      events.foldl (mapperStep buffer) (mapperLocked buffer log) := by
  simp [mapperLocked]

/-- A dequeued buffer is taken from the window; it is given back enqueued or cancelled. -/
def custodyEvent : WindowEvent → Option (CustodyEvent (Nat × Nat))
  | .dequeue_buffer window buffer => some (.take (window, buffer))
  | .enqueue_buffer window buffer => some (.give (some (window, buffer)))
  | .cancel_buffer window buffer => some (.give (some (window, buffer)))
  | _ => none

/-- A frame is converted when the window was last given exactly the camera's size. -/
def GeometryOk (past : List WindowEvent) : WindowEvent → Prop
  | .convert window _ width height => lastGeometry window past = some (width, height)
  | _ => True

/-- A buffer is handed back when the mapper's lock on it is released. -/
def UnlockedOk (past : List WindowEvent) : WindowEvent → Prop
  | .enqueue_buffer _ buffer => mapperLocked buffer past = false
  | .cancel_buffer _ buffer => mapperLocked buffer past = false
  | _ => True

/-! ## What a frame does -/

/-- The window hands out a buffer, and both locks on it succeed. -/
def FrameAnswers.Mapped (answers : FrameAnswers) : Prop :=
  (answers.dequeue_buffer.1 = NO_ERROR ∧ answers.dequeue_buffer.2 ≠ none) ∧
    answers.lock_buffer = NO_ERROR ∧ answers.mapper_lock.1 = NO_ERROR

instance (answers : FrameAnswers) : Decidable answers.Mapped :=
  inferInstanceAs (Decidable (_ ∧ _))

namespace PreviewWindow

theorem pushFrame_cases (window : Nat) (answers : FrameAnswers) (timestamp : Int)
    (camera_dev : EmulatedCameraDevice) :
    (¬answers.Mapped ∧
        (pushFrame window answers timestamp camera_dev = [] ∨
          ∃ buffer res, pushFrame window answers timestamp camera_dev =
            [.dequeue_buffer window buffer, .lock_buffer window buffer res,
              .cancel_buffer window buffer])) ∨
      answers.Mapped ∧ ∃ buffer,
        (camera_dev.getCurrentPreviewFrame answers.mapper_lock.2 = NO_ERROR ∧
          pushFrame window answers timestamp camera_dev =
            [.dequeue_buffer window buffer, .lock_buffer window buffer answers.lock_buffer,
              .mapper_lock buffer,
              .convert window buffer camera_dev.mFrameWidth camera_dev.mFrameHeight,
              .set_timestamp window timestamp, .enqueue_buffer window buffer,
              .mapper_unlock buffer]) ∨
        (camera_dev.getCurrentPreviewFrame answers.mapper_lock.2 ≠ NO_ERROR ∧
          pushFrame window answers timestamp camera_dev =
            [.dequeue_buffer window buffer, .lock_buffer window buffer answers.lock_buffer,
              .mapper_lock buffer, .cancel_buffer window buffer, .mapper_unlock buffer]) := by
  unfold pushFrame FrameAnswers.Mapped
  split
  · rename_i hdequeue
    rw [hdequeue]
    exact Or.inl ⟨fun h => h.1.2 rfl, Or.inl rfl⟩
  · rename_i res buffer hdequeue
    rw [hdequeue]
    by_cases hres : res = NO_ERROR
    · rw [if_neg (not_not_intro hres)]
      by_cases hlock : answers.lock_buffer = NO_ERROR
      · rw [if_neg (not_not_intro hlock)]
        by_cases hmapper : answers.mapper_lock.1 = NO_ERROR
        · rw [if_neg (not_not_intro hmapper)]
          refine Or.inr ⟨⟨⟨hres, Option.some_ne_none buffer⟩, hlock, hmapper⟩, buffer, ?_⟩
          by_cases hframe : camera_dev.getCurrentPreviewFrame answers.mapper_lock.2 = NO_ERROR
          · rw [if_pos hframe]
            exact Or.inl ⟨hframe, rfl⟩
          · rw [if_neg hframe]
            exact Or.inr ⟨hframe, rfl⟩
        · rw [if_pos hmapper]
          exact Or.inl ⟨fun h => hmapper h.2.2, Or.inr ⟨buffer, answers.lock_buffer, rfl⟩⟩
      · rw [if_pos hlock]
        exact Or.inl ⟨fun h => hlock h.2.1, Or.inr ⟨buffer, answers.lock_buffer, rfl⟩⟩
    · rw [if_pos hres]
      exact Or.inl ⟨fun h => hres h.1.1, Or.inl rfl⟩

/-- The frame is to be pushed: the preview is on, it is time, and the window takes the
size where that has changed. -/
def Pushes (p : PreviewWindow) (answers : FrameAnswers) (camera_dev : EmulatedCameraDevice) :
    Prop :=
  p.isPreviewEnabled ∧ p.mPreviewWindow ≠ none ∧ (p.isPreviewTime answers.cur_mks).1 ∧
    ((p.adjustPreviewDimensions camera_dev).1 → answers.set_buffers_geometry = NO_ERROR)

instance (p : PreviewWindow) (answers : FrameAnswers) (camera_dev : EmulatedCameraDevice) :
    Decidable (p.Pushes answers camera_dev) :=
  inferInstanceAs (Decidable (_ ∧ _))

@[simp] theorem isPreviewTime_adjusted (p : PreviewWindow) (cur_mks : BitVec 64)
    (camera_dev : EmulatedCameraDevice) :
    ((p.isPreviewTime cur_mks).2.adjustPreviewDimensions camera_dev).1 =
      (p.adjustPreviewDimensions camera_dev).1 := by
  unfold isPreviewTime
  split
  · unfold adjustPreviewDimensions
    dsimp only
    split <;> rfl
  · rfl

/-- After the adjustment the cache has the device's size. -/
theorem adjustPreviewDimensions_size (p : PreviewWindow) (camera_dev : EmulatedCameraDevice) :
    (p.adjustPreviewDimensions camera_dev).2.mPreviewFrameWidth = camera_dev.mFrameWidth ∧
      (p.adjustPreviewDimensions camera_dev).2.mPreviewFrameHeight = camera_dev.mFrameHeight := by
  unfold adjustPreviewDimensions
  split
  · rename_i hsame
    exact hsame
  · exact ⟨rfl, rfl⟩

/-- The first half of `onNextFrameAvailable`. -/
theorem onNextFrameAvailable_cases (p : PreviewWindow) (answers : FrameAnswers) (timestamp : Int)
    (camera_dev : EmulatedCameraDevice) :
    (¬p.Pushes answers camera_dev ∧
        ((p.onNextFrameAvailable answers timestamp camera_dev).2 = [] ∨
          ∃ window width height, (p.onNextFrameAvailable answers timestamp camera_dev).2 =
            [.set_buffers_geometry window width height answers.set_buffers_geometry])) ∨
      p.Pushes answers camera_dev ∧ ∃ window, p.mPreviewWindow = some window ∧
        (p.onNextFrameAvailable answers timestamp camera_dev).2 =
          (if (p.adjustPreviewDimensions camera_dev).1 then
            [.set_buffers_geometry window camera_dev.mFrameWidth camera_dev.mFrameHeight NO_ERROR]
          else []) ++ pushFrame window answers timestamp camera_dev := by
  unfold onNextFrameAvailable Pushes
  by_cases henabled : p.isPreviewEnabled = true
  case neg =>
    simp [henabled]
  simp only [henabled, Bool.not_true, Bool.false_eq_true, if_false]
  cases hwindow : p.mPreviewWindow with
  | none => simp
  | some window =>
      dsimp only
      by_cases htime : (p.isPreviewTime answers.cur_mks).1 = true
      case neg =>
        simp [htime]
      simp only [htime, Bool.not_true, Bool.false_eq_true, if_false, isPreviewTime_adjusted]
      obtain ⟨hwidth, hheight⟩ :=
        adjustPreviewDimensions_size (p.isPreviewTime answers.cur_mks).2 camera_dev
      by_cases hadjusted : (p.adjustPreviewDimensions camera_dev).1 = true
      · rw [if_pos hadjusted, hwidth, hheight]
        by_cases hgeometry : answers.set_buffers_geometry = NO_ERROR
        · rw [if_neg (not_not_intro hgeometry), hgeometry]
          refine Or.inr ⟨⟨trivial, Option.some_ne_none window, trivial, fun _ => rfl⟩, window, rfl, ?_⟩
          rw [if_pos hadjusted]
          rfl
        · rw [if_pos hgeometry]
          exact Or.inl ⟨fun h => hgeometry (h.2.2.2 hadjusted),
            Or.inr ⟨window, camera_dev.mFrameWidth, camera_dev.mFrameHeight, rfl⟩⟩
      · rw [if_neg hadjusted]
        refine Or.inr ⟨⟨trivial, Option.some_ne_none window, trivial,
          fun h => absurd h hadjusted⟩, window, rfl, ?_⟩
        rw [if_neg hadjusted]
        rfl

end PreviewWindow

/-! ## The parts of the claim -/

namespace PreviewState

/-- Every frame was converted into a buffer of its size. -/
def GeometryMatches (s : PreviewState) : Prop := EachEvent GeometryOk [] s.log

/-- Every dequeued buffer was handed back, once. -/
def HandedBack (s : PreviewState) : Prop :=
  custody [] (s.log.filterMap custodyEvent) = some []

/-- Every buffer was handed back after the mapper's lock on it was released. -/
def UnlockedFirst (s : PreviewState) : Prop := EachEvent UnlockedOk [] s.log

/-- The cached size is the one the current window was last given. -/
def GeometryCached (s : PreviewState) : Prop :=
  ∀ window, s.preview.mPreviewWindow = some window →
    lastGeometry window s.log = some (s.preview.mPreviewFrameWidth, s.preview.mPreviewFrameHeight)

/-- No frame of the cached size is converted while the window has another size. -/
def CachedFramesFit (s : PreviewState) : PreviewCall → Prop
  | .onNextFrameAvailable answers _ camera_dev =>
      s.preview.Pushes answers camera_dev → answers.Mapped →
        camera_dev.getCurrentPreviewFrame answers.mapper_lock.2 = NO_ERROR →
          (s.preview.adjustPreviewDimensions camera_dev).1 = false → s.GeometryCached
  | _ => True

/-- No frame gets past `grbuffer_mapper.lock`. -/
def NotMapped (s : PreviewState) : PreviewCall → Prop
  | .onNextFrameAvailable answers _ camera_dev =>
      ¬(s.preview.Pushes answers camera_dev ∧ answers.Mapped)
  | _ => True

/-- What a call adds to the log. -/
def events (s : PreviewState) : PreviewCall → List WindowEvent
  | .onNextFrameAvailable answers timestamp camera_dev =>
      (s.preview.onNextFrameAvailable answers timestamp camera_dev).2
  | _ => []

theorem run_log {s s' : PreviewState} {call : PreviewCall} (hstep : s.run call = some s') :
    s'.log = s.log ++ s.events call := by
  cases call with
  | setPreviewWindow window preview_fps set_usage =>
      obtain ⟨result, -, rfl⟩ := Option.map_eq_some_iff.mp hstep
      exact (List.append_nil s.log).symm
  | startPreview =>
      cases hstep
      exact (List.append_nil s.log).symm
  | stopPreview =>
      cases hstep
      exact (List.append_nil s.log).symm
  | onNextFrameAvailable answers timestamp camera_dev =>
      cases hstep
      rfl

/-! ## Handing back -/

/-- A frame hands back the buffer it dequeued. -/
theorem custody_events (s : PreviewState) (call : PreviewCall) :
    custody [] ((s.events call).filterMap custodyEvent) = some [] := by
  cases call with
  | onNextFrameAvailable answers timestamp camera_dev =>
      change custody [] ((s.preview.onNextFrameAvailable answers timestamp camera_dev).2.filterMap
        custodyEvent) = some []
      rcases s.preview.onNextFrameAvailable_cases answers timestamp camera_dev with
        ⟨-, hempty | ⟨window, width, height, hfailed⟩⟩ | ⟨-, window, -, hpushed⟩
      · rw [hempty]
        rfl
      · rw [hfailed]
        rfl
      · have hpush : custody []
            ((PreviewWindow.pushFrame window answers timestamp camera_dev).filterMap
              custodyEvent) = some [] := by
          rcases PreviewWindow.pushFrame_cases window answers timestamp camera_dev with
            ⟨-, hempty | ⟨buffer, res, hlocked⟩⟩ | ⟨-, buffer, ⟨-, hframe⟩ | ⟨-, hframe⟩⟩
          · rw [hempty]
            rfl
          · rw [hlocked]
            simp [custodyEvent, List.filterMap_cons]
          · rw [hframe]
            simp [custodyEvent, List.filterMap_cons]
          · rw [hframe]
            simp [custodyEvent, List.filterMap_cons]
        rw [hpushed, List.filterMap_append, custody_append]
        split
        · exact hpush
        · exact hpush
  | _ => rfl

theorem handedBack_run {s s' : PreviewState} {call : PreviewCall} (h : s.HandedBack)
    (hstep : s.run call = some s') : s'.HandedBack := by
  unfold HandedBack at h ⊢
  rw [run_log hstep, List.filterMap_append, custody_append, h, Option.bind_some]
  exact custody_events s call

/-! ## The geometry -/

/-- A frame is good for the geometry exactly when the window has its size, if it comes
to be converted. -/
theorem geometryOk_pushFrame (past : List WindowEvent) (window : Nat) (answers : FrameAnswers)
    (timestamp : Int) (camera_dev : EmulatedCameraDevice) :
    EachEvent GeometryOk past (PreviewWindow.pushFrame window answers timestamp camera_dev) ↔
      (answers.Mapped → camera_dev.getCurrentPreviewFrame answers.mapper_lock.2 = NO_ERROR →
        lastGeometry window past = some (camera_dev.mFrameWidth, camera_dev.mFrameHeight)) := by
  rcases PreviewWindow.pushFrame_cases window answers timestamp camera_dev with
    ⟨hnot, hempty | ⟨buffer, res, hlocked⟩⟩ | ⟨hmapped, buffer, ⟨hok, hframe⟩ | ⟨hfail, hframe⟩⟩
  · rw [hempty]
    simp [hnot]
  · rw [hlocked]
    simp [hnot, GeometryOk]
  · rw [hframe]
    simp [hmapped, hok, GeometryOk, geometryStep]
  · rw [hframe]
    simp [hfail, GeometryOk]

theorem geometryOk_events (s : PreviewState) (call : PreviewCall) :
    EachEvent GeometryOk s.log (s.events call) ↔ s.CachedFramesFit call := by
  cases call with
  | onNextFrameAvailable answers timestamp camera_dev =>
      change EachEvent GeometryOk s.log
        (s.preview.onNextFrameAvailable answers timestamp camera_dev).2 ↔ _
      unfold CachedFramesFit
      rcases s.preview.onNextFrameAvailable_cases answers timestamp camera_dev with
        ⟨hnot, hempty | ⟨window, width, height, hfailed⟩⟩ | ⟨hpushes, window, hwindow, hpushed⟩
      · rw [hempty]
        simp [hnot]
      · rw [hfailed]
        simp [hnot, GeometryOk]
      · rw [hpushed, eachEvent_append, geometryOk_pushFrame]
        cases hadjusted : (s.preview.adjustPreviewDimensions camera_dev).1 with
        | true =>
            -- the window has just been given this very size
            simp [GeometryOk, geometryStep, hadjusted]
        | false =>
            have hsize : s.preview.mPreviewFrameWidth = camera_dev.mFrameWidth ∧
                s.preview.mPreviewFrameHeight = camera_dev.mFrameHeight := by
              unfold PreviewWindow.adjustPreviewDimensions at hadjusted
              split at hadjusted
              · assumption
              · cases hadjusted
            simp [hpushes, GeometryCached, hwindow, hsize, hadjusted]
  | _ => exact iff_of_true (eachEvent_nil _) trivial

theorem geometryMatches_run {s s' : PreviewState} {call : PreviewCall} (h : s.GeometryMatches)
    (hstep : s.run call = some s') : s'.GeometryMatches ↔ s.CachedFramesFit call := by
  unfold GeometryMatches at h ⊢
  rw [run_log hstep, eachEvent_append, List.nil_append, geometryOk_events]
  exact and_iff_right h

/-! ## The mapper's lock -/

/-- Between the calls no buffer is locked. -/
def NoneLocked (s : PreviewState) : Prop := ∀ buffer, mapperLocked buffer s.log = false

theorem unlockedOk_pushFrame {past : List WindowEvent}
    (hpast : ∀ buffer, mapperLocked buffer past = false) (window : Nat) (answers : FrameAnswers)
    (timestamp : Int) (camera_dev : EmulatedCameraDevice) :
    (EachEvent UnlockedOk past (PreviewWindow.pushFrame window answers timestamp camera_dev) ↔
        ¬answers.Mapped) ∧
      ∀ buffer, mapperLocked buffer
        (past ++ PreviewWindow.pushFrame window answers timestamp camera_dev) = false := by
  rcases PreviewWindow.pushFrame_cases window answers timestamp camera_dev with
    ⟨hnot, hempty | ⟨buffer, res, hlocked⟩⟩ | ⟨hmapped, buffer, ⟨-, hframe⟩ | ⟨-, hframe⟩⟩
  · rw [hempty]
    simp [hnot, hpast]
  · rw [hlocked]
    simp [hnot, hpast, UnlockedOk, mapperStep]
  · rw [hframe]
    refine ⟨?_, fun b => ?_⟩
    · simp [hmapped, UnlockedOk, mapperStep]
    · by_cases hb : buffer = b <;> simp [hb, hpast, mapperStep]
  · rw [hframe]
    refine ⟨?_, fun b => ?_⟩
    · simp [hmapped, UnlockedOk, mapperStep]
    · by_cases hb : buffer = b <;> simp [hb, hpast, mapperStep]

theorem unlockedOk_events {s : PreviewState} (h : s.NoneLocked) (call : PreviewCall) :
    (EachEvent UnlockedOk s.log (s.events call) ↔ s.NotMapped call) ∧
      ∀ buffer, mapperLocked buffer (s.log ++ s.events call) = false := by
  have hquiet : ∀ buffer, mapperLocked buffer (s.log ++ []) = false := by
    intro buffer
    rw [List.append_nil]
    exact h buffer
  cases call with
  | onNextFrameAvailable answers timestamp camera_dev =>
      change (EachEvent UnlockedOk s.log
          (s.preview.onNextFrameAvailable answers timestamp camera_dev).2 ↔ _) ∧
        ∀ buffer, mapperLocked buffer
          (s.log ++ (s.preview.onNextFrameAvailable answers timestamp camera_dev).2) = false
      unfold NotMapped
      rcases s.preview.onNextFrameAvailable_cases answers timestamp camera_dev with
        ⟨hnot, hempty | ⟨window, width, height, hfailed⟩⟩ | ⟨hpushes, window, -, hpushed⟩
      · rw [hempty]
        exact ⟨by simp [hnot], hquiet⟩
      · rw [hfailed]
        exact ⟨by simp [hnot, UnlockedOk], by simp [mapperStep, h _]⟩
      · rw [hpushed, eachEvent_append, ← List.append_assoc]
        have hpast : ∀ buffer, mapperLocked buffer (s.log ++
            if (s.preview.adjustPreviewDimensions camera_dev).1 then
              [.set_buffers_geometry window camera_dev.mFrameWidth camera_dev.mFrameHeight
                NO_ERROR]
            else []) = false := by
          intro buffer
          split
          · simp [mapperStep, h buffer]
          · exact hquiet buffer
        obtain ⟨hiff, hnone⟩ := unlockedOk_pushFrame hpast window answers timestamp camera_dev
        refine ⟨?_, hnone⟩
        rw [hiff]
        split <;> simp [hpushes, UnlockedOk]
  | _ => exact ⟨iff_of_true (eachEvent_nil _) trivial, hquiet⟩

/-! ## Runs -/

/-- Over every run: the buffers are handed back exactly once; frames fit the window's
geometry exactly when no frame of the cached size is converted while the window has
another size; buffers are handed back unlocked exactly when no frame gets past
`grbuffer_mapper.lock`. -/
theorem preview_buffers (trace : List (PreviewCall × PreviewState))
    (hrun : Run (fun s call s' => s.run call = some s') init trace) :
    Always HandedBack trace ∧
      (Always GeometryMatches trace ↔
        EachStep (fun s call _ => s.CachedFramesFit call) init trace) ∧
      (Always UnlockedFirst trace ↔ EachStep (fun s call _ => s.NotMapped call) init trace) := by
  have hfit : ∀ (s : PreviewState) call s', s.GeometryMatches → s.CachedFramesFit call →
      s.run call = some s' → s'.GeometryMatches :=
    fun s call s' h hfit hstep => (geometryMatches_run h hstep).mpr hfit
  have hunlocked : ∀ (s : PreviewState) call s', s.UnlockedFirst ∧ s.NoneLocked →
      s.NotMapped call → s.run call = some s' → s'.UnlockedFirst ∧ s'.NoneLocked := by
    rintro s call s' ⟨hfirst, hnone⟩ hnot hstep
    obtain ⟨hiff, hnone'⟩ := unlockedOk_events hnone call
    unfold UnlockedFirst NoneLocked at *
    rw [run_log hstep, eachEvent_append, List.nil_append]
    exact ⟨⟨hfirst, hiff.mpr hnot⟩, hnone'⟩
  refine ⟨?_, ?_, ?_⟩
  · exact hrun.always (fun s call s' h hstep => handedBack_run h hstep) rfl
  · refine hrun.always_iff_eachStep hfit (fun s h => h) ?_ (eachEvent_nil _)
    intro s call s' h hstep hmatches
    exact (geometryMatches_run h hstep).mp hmatches
  · refine hrun.always_iff_eachStep hunlocked (fun s h => h.1) ?_
      ⟨eachEvent_nil _, fun buffer => rfl⟩
    rintro s call s' ⟨-, hnone⟩ hstep hfirst
    unfold UnlockedFirst at hfirst
    rw [run_log hstep, eachEvent_append, List.nil_append] at hfirst
    exact (unlockedOk_events hnone call).1.mp hfirst.2

/-- A started camera of the size 640 by 480. -/
def startedCamera : EmulatedCameraDevice :=
  ⟨.ECDS_STARTED, 640, 480, 307200, V4L2_PIX_FMT_NV21, 460800, some 0⟩

/-- A window is set, and two frames come in; the answers to the first are given. -/
def twoFrames (first : FrameAnswers) : List PreviewCall :=
  [.setPreviewWindow (some 1) 24 NO_ERROR, .startPreview,
    .onNextFrameAvailable first 0 startedCamera,
    .onNextFrameAvailable ⟨200000#64, NO_ERROR, (NO_ERROR, some 7), NO_ERROR, (NO_ERROR, some 70)⟩
      50 startedCamera]

/-- Both frames are converted into buffers of their size, since the window takes it. -/
theorem preview_buffers_geometry_taken :
    Always GeometryMatches (partialTraceOf run init (twoFrames
      ⟨100000#64, NO_ERROR, (NO_ERROR, some 7), NO_ERROR, (NO_ERROR, some 70)⟩)) := by
  refine (preview_buffers _ (run_partialTraceOf _ _ _)).2.1.mpr ⟨trivial, trivial, ?_, ?_, trivial⟩
  · intro _ _ _ hsame
    cases hsame
  · intro _ _ _ _ window hwindow
    cases hwindow
    rfl

/-- The window refuses the size of the first frame; the second is converted all the
same, and its buffer is enqueued locked. -/
theorem second_frame_unfit :
    ¬∀ trace : List (PreviewCall × PreviewState),
      Run (fun s call s' => s.run call = some s') init trace →
        Always (fun s => s.HandedBack ∧ s.GeometryMatches ∧ s.UnlockedFirst) trace := by
  intro h
  let calls := partialTraceOf run init (twoFrames
    ⟨100000#64, -22, (NO_ERROR, some 7), NO_ERROR, (NO_ERROR, some 70)⟩)
  have halways := h calls (run_partialTraceOf _ _ _)
  have hlast : calls[3]?.map (fun entry => entry.2.log) =
      some [.set_buffers_geometry 1 640 480 (-22), .dequeue_buffer 1 7, .lock_buffer 1 7 0,
        .mapper_lock 7, .convert 1 7 640 480, .set_timestamp 1 50, .enqueue_buffer 1 7,
        .mapper_unlock 7] := by decide
  obtain ⟨entry, hget, hlog⟩ := Option.map_eq_some_iff.mp hlast
  obtain ⟨-, hmatches, -⟩ := halways entry (List.mem_of_getElem? hget)
  unfold GeometryMatches at hmatches
  rw [hlog] at hmatches
  obtain ⟨-, -, -, -, hconvert, -⟩ := hmatches
  cases hconvert

end PreviewState

end Camera
end DeviceAndroVM
