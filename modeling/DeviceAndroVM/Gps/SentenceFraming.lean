import DeviceAndroVM.Gps.NmeaReader
import DeviceAndroVM.Library.EventLog
import DeviceAndroVM.Library.Lines
import DeviceAndroVM.Library.Transition

/-!
# Framing of sentences

The reader keeps at most `NMEA_MAX_SIZE` bytes of a line.  It notices that a line is too long
at the byte behind the full buffer and skips to the next newline from there on; when that
byte is itself the newline, the line that follows is skipped.

* `swallows` — whether the lines so far make the reader skip the next one.
* `kept` — the lines that are handed to the parser.
* `Framed` — the reader against the bytes so far; `framed_step` is the step lemma.
* `handed_iff` — over every run, the sentences are the lines that fit the buffer exactly when
  no such line is swallowed.
-/

namespace DeviceAndroVM
namespace Gps

open Library

variable {F : Type} [CDouble F]

/-- The bytes among the events. -/
def bytesOf (inputs : List Session.Input) : List UInt8 :=
  inputs.filterMap fun
    | .byte _ c => some c
    | .callback _ => none

/-- The lines end with an odd number of lines that are one byte too long. -/
def swallows (before : List CString) : Bool :=
  (before.reverse.takeWhile (·.length == NMEA_MAX_SIZE + 1)).length % 2 == 1

/-- The lines that fit the buffer and are not swallowed. -/
def kept : List CString → List CString → List CString
  | _, [] => []
  | before, line :: rest =>
      (if line.length ≤ NMEA_MAX_SIZE ∧ swallows before = false then [line] else []) ++
        kept (before ++ [line]) rest

theorem swallows_append (before : List CString) (line : CString) :
    swallows (before ++ [line]) = (line.length == NMEA_MAX_SIZE + 1 && !swallows before) := by
  unfold swallows
  rw [List.reverse_append, List.reverse_singleton, List.singleton_append]
  by_cases hline : line.length = NMEA_MAX_SIZE + 1
  · rw [List.takeWhile_cons_of_pos (by simpa using hline), List.length_cons]
    simp only [hline, beq_self_eq_true, Bool.true_and]
    generalize (List.takeWhile _ before.reverse).length = run
    rcases Nat.mod_two_eq_zero_or_one run with h | h
    · have hsucc : (run + 1) % 2 = 1 := by omega
      rw [h, hsucc]
      rfl
    · have hsucc : (run + 1) % 2 = 0 := by omega
      rw [h, hsucc]
      rfl
  · rw [List.takeWhile_cons_of_neg (by simpa using hline)]
    simp [hline]

theorem kept_append (before first second : List CString) :
    kept before (first ++ second) = kept before first ++ kept (before ++ first) second := by
  induction first generalizing before with
  | nil => simp [kept]
  | cons line rest ih => simp [kept, ih]

theorem length_kept_le (before rest : List CString) :
    (kept before rest).length ≤ (rest.filter (·.length ≤ NMEA_MAX_SIZE)).length := by
  induction rest generalizing before with
  | nil => exact Nat.le_refl 0
  | cons line rest ih =>
      have hrest := ih (before ++ [line])
      unfold kept
      by_cases hline : line.length ≤ NMEA_MAX_SIZE
      · rw [List.filter_cons_of_pos (by simpa using hline), List.length_append, List.length_cons]
        split
        · change 1 + _ ≤ _
          omega
        · change 0 + _ ≤ _
          omega
      · rw [List.filter_cons_of_neg (by simpa using hline), if_neg (fun h => hline h.1)]
        exact hrest

/-- All lines that fit are kept exactly when none of them is swallowed. -/
theorem kept_eq_filter_iff (before rest : List CString) :
    kept before rest = rest.filter (·.length ≤ NMEA_MAX_SIZE) ↔
      EachEvent (fun before line => line.length ≤ NMEA_MAX_SIZE → swallows before = false)
        before rest := by
  induction rest generalizing before with
  | nil => simp [kept]
  | cons line rest ih =>
      unfold kept
      rw [eachEvent_cons, ← ih]
      by_cases hline : line.length ≤ NMEA_MAX_SIZE
      · rw [List.filter_cons_of_pos (by simpa using hline)]
        by_cases hkept : swallows before = false
        · rw [if_pos ⟨hline, hkept⟩]
          simp [hkept]
        · -- a line is missing, and no later one makes up for it
          rw [if_neg (fun h => hkept h.2), List.nil_append]
          refine iff_of_false (fun heq => ?_) (fun h => hkept (h.1 hline))
          have hlength := length_kept_le (before ++ [line]) rest
          rw [heq, List.length_cons] at hlength
          omega
      · rw [List.filter_cons_of_neg (by simpa using hline), if_neg (fun h => hline h.1),
          List.nil_append]
        simp [hline]

/-- The reader and its log, after the bytes `input`. -/
structure Framed (input : List UInt8) (s : Session F) : Prop where
  handed : s.handed = kept [] (lines 0x0A input)
  buffer : s.reader.in'.length = NMEA_MAX_SIZE + 1
  skipping : swallows (lines 0x0A input) = true ∨ NMEA_MAX_SIZE < (lastLine 0x0A input).length →
    s.reader.overflow = true ∧ s.reader.pos = 0
  reading : swallows (lines 0x0A input) = false → (lastLine 0x0A input).length ≤ NMEA_MAX_SIZE →
    s.reader.overflow = false ∧ s.reader.pos = (lastLine 0x0A input).length ∧
      s.reader.in'.take s.reader.pos = lastLine 0x0A input

theorem framed_opened (utc_diff : Int) : Framed [] (Session.opened utc_diff : Session F) where
  handed := rfl
  buffer := List.length_replicate
  skipping := by
    rintro (h | h)
    · exact absurd h (by decide)
    · exact absurd h (by decide)
  reading _ _ := ⟨rfl, rfl, rfl⟩

/-- Handing over a sentence changes the log and the position. -/
theorem endSentence_frame (mktime : Tm → Int) (now : Nat) (s : Session F) :
    (s.endSentence mktime now).handed = s.handed ++ [s.reader.in'.take s.reader.pos] ∧
      (s.endSentence mktime now).reader.pos = 0 ∧
      (s.endSentence mktime now).reader.overflow = s.reader.overflow ∧
      (s.endSentence mktime now).reader.in' = s.reader.in' := by
  obtain ⟨hframing, hhanded⟩ := Session.framing_parse mktime now
    { s with handed := s.handed ++ [s.reader.in'.take s.reader.pos] }
  exact ⟨hhanded, rfl, congrArg (·.2.1) hframing, congrArg (·.2.2.1) hframing⟩

/-- A line that has been skipped, or does not fill the buffer, does not swallow the next one. -/
theorem not_swallows_sep {input : List UInt8} (h : swallows (lines 0x0A input) = true ∨
    (lastLine 0x0A input).length ≠ NMEA_MAX_SIZE) :
    swallows (lines 0x0A (input ++ [0x0A])) = false := by
  rw [lines_append_sep, swallows_append, List.length_append, List.length_singleton]
  rcases h with hswallows | hlength
  · rw [hswallows, Bool.not_true, Bool.and_false]
  · have hne : ((lastLine 0x0A input).length + 1 == NMEA_MAX_SIZE + 1) = false := by
      rw [beq_eq_false_iff_ne]
      omega
    rw [hne, Bool.false_and]

/-- What is kept when a line ends. -/
theorem kept_sep (input : List UInt8) :
    kept [] (lines 0x0A (input ++ [0x0A])) = kept [] (lines 0x0A input) ++
      if (lastLine 0x0A input ++ [0x0A]).length ≤ NMEA_MAX_SIZE ∧
        swallows (lines 0x0A input) = false then [lastLine 0x0A input ++ [0x0A]] else [] := by
  rw [lines_append_sep, kept_append, List.nil_append, kept, kept, List.append_nil]

omit [CDouble F] in
/-- The reader at the beginning of a line that is not swallowed. -/
theorem framed_line {input : List UInt8} {s : Session F}
    (hhanded : s.handed = kept [] (lines 0x0A (input ++ [0x0A])))
    (hbuffer : s.reader.in'.length = NMEA_MAX_SIZE + 1)
    (hend : swallows (lines 0x0A (input ++ [0x0A])) = false) (hover : s.reader.overflow = false)
    (hpos : s.reader.pos = 0) : Framed (input ++ [0x0A]) s := by
  have hlast : lastLine 0x0A (input ++ [0x0A]) = [] := lastLine_append_sep input
  constructor
  · exact hhanded
  · exact hbuffer
  · rintro (hswallows | hlong)
    · rw [hend] at hswallows
      cases hswallows
    · rw [hlast] at hlong
      exact absurd hlong (Nat.not_lt_zero _)
  · intro _ _
    rw [hlast, hpos]
    exact ⟨hover, rfl, rfl⟩

omit [CDouble F] in
/-- A byte that is skipped. -/
theorem framed_skip {input : List UInt8} {s : Session F} (h : Framed input s)
    (hskip : swallows (lines 0x0A input) = true ∨
      NMEA_MAX_SIZE < (lastLine 0x0A input).length) (c : UInt8) :
    Framed (input ++ [c]) { s with reader := { s.reader with overflow := c != 0x0A } } := by
  obtain ⟨-, hpos⟩ := h.skipping hskip
  by_cases hc : c = 0x0A
  · -- the newline ends the skipped line, and a skipped line does not swallow the next one
    subst hc
    have hlost : ¬((lastLine 0x0A input ++ [0x0A]).length ≤ NMEA_MAX_SIZE ∧
        swallows (lines 0x0A input) = false) := by
      rw [List.length_append, List.length_singleton]
      rintro ⟨hfits, hnot⟩
      rcases hskip with hswallows | hlong
      · rw [hswallows] at hnot
        cases hnot
      · omega
    have hhanded : s.handed = kept [] (lines 0x0A (input ++ [0x0A])) := by
      rw [kept_sep, if_neg hlost, List.append_nil]
      exact h.handed
    exact framed_line hhanded h.buffer (not_swallows_sep (hskip.imp_right fun hlong => by omega))
      rfl hpos
  · have hover : (c != 0x0A) = true := by simpa using hc
    have hskip' : swallows (lines 0x0A input) = true ∨
        NMEA_MAX_SIZE < (lastLine 0x0A input ++ [c]).length := by
      rw [List.length_append, List.length_singleton]
      exact hskip.imp_right fun hlong => by omega
    constructor
    · rw [lines_append_of_ne _ hc]
      exact h.handed
    · exact h.buffer
    · intro _
      exact ⟨hover, hpos⟩
    · intro hnot hfits
      rw [lines_append_of_ne _ hc] at hnot
      rw [lastLine_append_of_ne _ hc] at hfits
      rcases hskip' with hswallows | hlong
      · rw [hswallows] at hnot
        cases hnot
      · omega

omit [CDouble F] in
/-- The byte behind the full buffer is lost, whatever it is. -/
theorem framed_full {input : List UInt8} {s : Session F} (h : Framed input s)
    (hnot : swallows (lines 0x0A input) = false)
    (hfull : (lastLine 0x0A input).length = NMEA_MAX_SIZE) (c : UInt8) :
    Framed (input ++ [c]) { s with reader := { s.reader with overflow := true, pos := 0 } } := by
  by_cases hc : c = 0x0A
  · -- the newline is the lost byte: the next line is swallowed
    subst hc
    have hend : swallows (lines 0x0A (input ++ [0x0A])) = true := by
      rw [lines_append_sep, swallows_append, List.length_append, List.length_singleton, hfull, hnot]
      rfl
    have hlost : ¬((lastLine 0x0A input ++ [0x0A]).length ≤ NMEA_MAX_SIZE ∧
        swallows (lines 0x0A input) = false) := by
      rw [List.length_append, List.length_singleton]
      omega
    constructor
    · rw [kept_sep, if_neg hlost, List.append_nil]
      exact h.handed
    · exact h.buffer
    · intro _
      exact ⟨rfl, rfl⟩
    · intro hfalse
      rw [hend] at hfalse
      cases hfalse
  · constructor
    · rw [lines_append_of_ne _ hc]
      exact h.handed
    · exact h.buffer
    · intro _
      exact ⟨rfl, rfl⟩
    · intro _ hfits
      rw [lastLine_append_of_ne _ hc, List.length_append, List.length_singleton] at hfits
      omega

omit [CDouble F] in
/-- The byte is stored, and is not the end of the line. -/
theorem framed_store {input : List UInt8} {s : Session F} (h : Framed input s)
    (hnot : swallows (lines 0x0A input) = false)
    (hfits : (lastLine 0x0A input).length < NMEA_MAX_SIZE) {c : UInt8} (hc : c ≠ 0x0A) :
    Framed (input ++ [c])
      { s with reader := s.reader.store c } := by
  obtain ⟨hover, hpos, htake⟩ := h.reading hnot (Nat.le_of_lt hfits)
  have hroom : s.reader.pos < s.reader.in'.length := by
    rw [h.buffer]
    omega
  constructor
  · rw [lines_append_of_ne _ hc]
    exact h.handed
  · exact (List.length_set).trans h.buffer
  · rintro (hswallows | hlong)
    · rw [lines_append_of_ne _ hc, hnot] at hswallows
      cases hswallows
    · rw [lastLine_append_of_ne _ hc, List.length_append, List.length_singleton] at hlong
      omega
  · intro _ _
    rw [lastLine_append_of_ne _ hc, List.length_append, List.length_singleton]
    refine ⟨hover, congrArg (· + 1) hpos, ?_⟩
    change (s.reader.in'.set s.reader.pos c).take (s.reader.pos + 1) = _
    rw [List.take_succ_eq_append_getElem (by simpa using hroom), List.take_set_of_le (Nat.le_refl _),
      List.getElem_set_self, htake]

/-- The newline is stored, and the sentence goes to the parser. -/
theorem framed_end {input : List UInt8} {s : Session F} (h : Framed input s)
    (hnot : swallows (lines 0x0A input) = false)
    (hfits : (lastLine 0x0A input).length < NMEA_MAX_SIZE) (mktime : Tm → Int) (now : Nat) :
    Framed (input ++ [0x0A])
      (Session.endSentence mktime now
        { s with reader := s.reader.store 0x0A }) := by
  obtain ⟨hover, hpos, htake⟩ := h.reading hnot (Nat.le_of_lt hfits)
  have hroom : s.reader.pos < s.reader.in'.length := by
    rw [h.buffer]
    omega
  have hsentence : (s.reader.in'.set s.reader.pos 0x0A).take (s.reader.pos + 1) =
      lastLine 0x0A input ++ [0x0A] := by
    rw [List.take_succ_eq_append_getElem (by simpa using hroom), List.take_set_of_le (Nat.le_refl _),
      List.getElem_set_self, htake]
  have hkeep : (lastLine 0x0A input ++ [0x0A]).length ≤ NMEA_MAX_SIZE ∧
      swallows (lines 0x0A input) = false := by
    rw [List.length_append, List.length_singleton]
    exact ⟨by omega, hnot⟩
  obtain ⟨hhanded, hpos', hover', hbuffer'⟩ := endSentence_frame mktime now
    { s with reader := s.reader.store 0x0A }
  refine framed_line ?_ ?_ (not_swallows_sep (Or.inr hfits.ne)) (hover'.trans hover) hpos'
  · rw [hhanded, kept_sep, if_pos hkeep, ← h.handed]
    exact congrArg (fun sentence => s.handed ++ [sentence]) hsentence
  · exact (congrArg List.length hbuffer').trans ((List.length_set).trans h.buffer)

/-- One byte. -/
theorem framed_addc {input : List UInt8} {s : Session F} (h : Framed input s)
    (mktime : Tm → Int) (now : Nat) (c : UInt8) :
    Framed (input ++ [c]) (s.nmea_reader_addc mktime now c) := by
  unfold Session.nmea_reader_addc
  dsimp only
  by_cases hskip : swallows (lines 0x0A input) = true ∨ NMEA_MAX_SIZE < (lastLine 0x0A input).length
  · obtain ⟨hover, -⟩ := h.skipping hskip
    rw [if_pos hover]
    exact framed_skip h hskip c
  · have hnot : swallows (lines 0x0A input) = false := by
      simpa using fun hswallows => hskip (Or.inl hswallows)
    have hfits : (lastLine 0x0A input).length ≤ NMEA_MAX_SIZE :=
      Nat.le_of_not_lt fun hlong => hskip (Or.inr hlong)
    obtain ⟨hover, hpos, -⟩ := h.reading hnot hfits
    rw [if_neg (by simp [hover]), hpos]
    split
    · exact framed_full h hnot (by omega) c
    · rename_i hroom
      split
      · rename_i hc
        subst hc
        exact framed_end h hnot (by omega) mktime now
      · rename_i hc
        exact framed_store h hnot (by omega) hc

/-- One event. -/
theorem framed_step {mktime : Tm → Int} {past : List Session.Input} {s s' : Session F}
    {input : Session.Input} (h : Framed (bytesOf past) s) (hstep : s.step mktime input = some s') :
    Framed (bytesOf (past ++ [input])) s' := by
  have hbytes : bytesOf (past ++ [input]) = bytesOf past ++ bytesOf [input] :=
    List.filterMap_append
  rw [hbytes]
  unfold Session.step at hstep
  split at hstep
  · cases hstep
  · cases input with
    | byte now c =>
        rw [← Option.some.inj hstep]
        exact framed_addc h mktime now c
    | callback cb =>
        rw [← Option.some.inj hstep]
        have hframing := NmeaReader.framing_report { s.reader with callback := cb }
        have hpos : (s.nmea_reader_set_callback cb).reader.pos = s.reader.pos :=
          congrArg Prod.fst hframing
        have hover : (s.nmea_reader_set_callback cb).reader.overflow = s.reader.overflow :=
          congrArg (·.2.1) hframing
        have hbuffer : (s.nmea_reader_set_callback cb).reader.in' = s.reader.in' :=
          congrArg (·.2.2.1) hframing
        change Framed (bytesOf past ++ []) (s.nmea_reader_set_callback cb)
        rw [List.append_nil]
        constructor
        · exact h.handed
        · rw [hbuffer]
          exact h.buffer
        · rw [hpos, hover]
          exact h.skipping
        · rw [hpos, hover, hbuffer]
          exact h.reading

/-- Over every stream of bytes, with the callback set and removed at any time, the sentences
that reach the parser are the lines that fit the buffer, exactly when no such line stands
behind an odd number of lines that are one byte too long. -/
theorem handed_iff (mktime : Tm → Int) (utc_diff : Int)
    (trace : List (Session.Input × Session F))
    (hrun : Run (fun s input s' => s.step mktime input = some s') (Session.opened utc_diff) trace) :
    (endState (Session.opened utc_diff) trace).handed =
        (lines 0x0A (bytesOf (trace.map Prod.fst))).filter (·.length ≤ NMEA_MAX_SIZE) ↔
      EachEvent (fun before line => line.length ≤ NMEA_MAX_SIZE → swallows before = false) []
        (lines 0x0A (bytesOf (trace.map Prod.fst))) := by
  have hframed := hrun.endState_of_history []
    (fun past s _ _ (h : Framed (bytesOf past) s) hstep => framed_step h hstep)
    (framed_opened utc_diff)
  rw [List.nil_append] at hframed
  rw [hframed.handed]
  exact kept_eq_filter_iff [] _

/-- A line that fits, one that is far too long, and another one that fits. -/
theorem handed_iff_long_line :
    (endState (Session.opened 0 : Session ℚ)
        (partialTraceOf (Session.step Calendar.timegm) (Session.opened 0)
          (Session.arriving 0 ([0x41, 0x0A] ++ List.replicate 90 0x42 ++ [0x0A, 0x43, 0x0A])))).handed =
      [[0x41, 0x0A], [0x43, 0x0A]] := by
  have hsentences := (handed_iff Calendar.timegm 0 _
    (run_partialTraceOf (Session.step Calendar.timegm) (Session.opened 0 : Session ℚ)
      (Session.arriving 0 ([0x41, 0x0A] ++ List.replicate 90 0x42 ++ [0x0A, 0x43, 0x0A])))).mpr
  exact (hsentences (by decide +kernel)).trans (by decide +kernel)

/-- A line of `NMEA_MAX_SIZE + 1` bytes takes the next line with it. -/
theorem newline_behind_full_buffer_swallows :
    ¬∀ (mktime : Tm → Int) (utc_diff : Int) (trace : List (Session.Input × Session ℚ)),
      Run (fun s input s' => s.step mktime input = some s') (Session.opened utc_diff) trace →
        (endState (Session.opened utc_diff) trace).handed =
          (lines 0x0A (bytesOf (trace.map Prod.fst))).filter (·.length ≤ NMEA_MAX_SIZE) := by
  intro h
  have hall := h Calendar.timegm 0 _
    (run_partialTraceOf (Session.step Calendar.timegm) (Session.opened 0)
      (Session.arriving 0 (List.replicate 83 0x41 ++ [0x0A, 0x42, 0x0A])))
  revert hall
  decide +kernel

end Gps
end DeviceAndroVM
