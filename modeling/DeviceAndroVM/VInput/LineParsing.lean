import DeviceAndroVM.Library.CString
import DeviceAndroVM.VInput.Program
import Mathlib.Data.List.Count
import Mathlib.Logic.Function.Basic

/-!
# The parameters of a line

`main` in `vinput.c` stores what stands behind every colon of a line in `parameters`, and each
command then looks at the cells it needs.  The array is filled anew for every line.

* `parse` — a line as `fgets` leaves it in `mbuf`, and the cells that are written.
* `reads` — the cells a command looks at; `handle_congr` says that `handle` depends on no others.
* `LineSafe` — nothing is written behind the array, and what is read has been written.
* `lineSafe_iff` — the lines for which this is so.
-/

namespace DeviceAndroVM
namespace VInput

open Library CString

abbrev BUFSIZE : Nat := 256
abbrev MAX_NB_INPUT : Nat := 22
abbrev COLON : UInt8 := 0x3A
abbrev NEWLINE : UInt8 := 0x0A

/-- `atoi`, where `long` has 32 bits. -/
def atoi (s : CString) : Int := max (-0x80000000) (min 0x7FFFFFFF ((scanInt s).getD 0))

def Command.name : Command → CString
  | .CONFIG => ofChars ['C', 'O', 'N', 'F', 'I', 'G']
  | .MOUSE => ofChars ['M', 'O', 'U', 'S', 'E']
  | .WHEEL => ofChars ['W', 'H', 'E', 'E', 'L']
  | .MSBPR => ofChars ['M', 'S', 'B', 'P', 'R']
  | .MSBRL => ofChars ['M', 'S', 'B', 'R', 'L']
  | .MSMTPR => ofChars ['M', 'S', 'M', 'T', 'P', 'R']
  | .MSMTRL => ofChars ['M', 'S', 'M', 'T', 'R', 'L']
  | .KBDPR => ofChars ['K', 'B', 'D', 'P', 'R']
  | .KBDRL => ofChars ['K', 'B', 'D', 'R', 'L']
  | .MULTI => ofChars ['M', 'U', 'L', 'T', 'I']
  | .unknown => []

/-- The comparisons of `main`, in their order. -/
def Command.ofName (pcmd : CString) : Command :=
  ([.CONFIG, .MOUSE, .WHEEL, .MSBPR, .MSBRL, .MSMTPR, .MSMTRL, .KBDPR, .KBDRL, .MULTI].find?
    fun command => pcmd == command.name).getD .unknown

/-! ## Parsing -/

/-- The array while a line is parsed; `written` has the cells in the order of the stores. -/
structure Parameters where
  cells : Nat → Int
  nbInput : Nat
  written : List Nat

/-- `parameters[nbInput++] = value`. -/
def Parameters.push (p : Parameters) (value : Int) : Parameters :=
  ⟨Function.update p.cells p.nbInput value, p.nbInput + 1, p.written ++ [p.nbInput]⟩

/-- The loop over the colons; each one is followed by a number. -/
def parseLoop : CString → Parameters → Parameters
  | [], p => p
  | c :: pb, p => if c = COLON then parseLoop pb (p.push (atoi pb)) else parseLoop pb p

/-- The string in `mbuf`, cut at the end of the line. -/
def lineText (mbuf : CString) : CString := (mbuf.takeWhile (· != 0)).takeWhile (· != NEWLINE)

/-- The text in front of the first colon. -/
def pcmd (mbuf : CString) : CString := (lineText mbuf).takeWhile (· != COLON)

/-- The array after the loop; `cells` has what it held before. -/
def parameters (cells : Nat → Int) (mbuf : CString) : Parameters :=
  parseLoop (lineText mbuf) ⟨cells, 0, []⟩

/-- The line that is handled. -/
def parse (cells : Nat → Int) (mbuf : CString) : Line :=
  ⟨Command.ofName (pcmd mbuf), (parameters cells mbuf).nbInput, (parameters cells mbuf).cells⟩

/-- How many colons the line has. -/
def colons (mbuf : CString) : Nat := (lineText mbuf).count COLON

/-! ## What the commands read -/

/-- `nbInput == 2 * parameters[0] + 2`, in 32 bits. -/
def multiCount (a : Line) : Prop := ((a.nbInput : Int) - (2 * a.parameters 0 + 2)) % 2 ^ 32 = 0

instance (a : Line) : Decidable (multiCount a) := by
  unfold multiCount
  infer_instance

/-- The cells of the pointers. -/
def pointerCells (count : Int) : List Nat :=
  (List.range count.toNat).flatMap fun i => [2 * i + 2, 2 * i + 3]

/-- The actions of `MULTI` that look at the pointers. -/
def readsPointers (action : Int) : Prop :=
  action = ACTION_MOVE ∨ action = ACTION_POINTER_UP ∨ action = ACTION_DOWN ∨
    action = ACTION_POINTER_DOWN

instance (action : Int) : Decidable (readsPointers action) := by
  unfold readsPointers
  infer_instance

/-- The cells of `parameters` that a command reads; `opened` says whether `open` succeeds. -/
def reads (opened : Bool) (s : Touch) (a : Line) : List Nat :=
  match a.pcmd with
  | .CONFIG => if a.nbInput < 2 ∨ !opened then [] else [0, 1]
  | .MOUSE => if a.nbInput < 2 ∨ s.mouse_state = .NO_CLICK then [] else [0, 1]
  | .WHEEL | .MSMTPR => if a.nbInput < 4 then [] else [0, 1, 2, 3]
  | .MSBPR | .MSBRL => if a.nbInput < 2 then [] else [0, 1]
  | .KBDPR | .KBDRL => if a.nbInput < 2 then [] else [0]
  | .MULTI =>
      -- the count is compared with a cell of the array before anything else is known
      0 :: if multiCount a then
        1 :: if readsPointers (a.parameters 1) then pointerCells (a.parameters 0) else []
      else []
  | .MSMTRL | .unknown => []

/-- Nothing is written behind the array, and what is read has been written. -/
structure LineSafe (opened : Bool) (s : Touch) (cells : Nat → Int) (mbuf : CString) : Prop where
  few : (parameters cells mbuf).written.length ≤ MAX_NB_INPUT
  inside : ∀ i ∈ (parameters cells mbuf).written, i < MAX_NB_INPUT
  written : ∀ i ∈ reads opened s (parse cells mbuf), i ∈ (parameters cells mbuf).written

/-! ## The loop -/

theorem atoi_bounds (s : CString) : -0x80000000 ≤ atoi s ∧ atoi s ≤ 0x7FFFFFFF := by
  unfold atoi
  omega

/-- The cells below `nbInput` are written, each with a value of `atoi`. -/
structure Parameters.Filled (p : Parameters) : Prop where
  written : p.written = List.range p.nbInput
  bounds : ∀ i < p.nbInput, -0x80000000 ≤ p.cells i ∧ p.cells i ≤ 0x7FFFFFFF

theorem Parameters.Filled.push {p : Parameters} (h : p.Filled) (s : CString) :
    (p.push (atoi s)).Filled := by
  refine ⟨?_, ?_⟩
  · change p.written ++ [p.nbInput] = List.range (p.nbInput + 1)
    rw [h.written, List.range_succ]
  · intro i hi
    change -0x80000000 ≤ Function.update p.cells p.nbInput (atoi s) i ∧
      Function.update p.cells p.nbInput (atoi s) i ≤ 0x7FFFFFFF
    by_cases heq : i = p.nbInput
    · rw [heq, Function.update_self]
      exact atoi_bounds s
    · rw [Function.update_of_ne heq]
      exact h.bounds i (Nat.lt_of_le_of_ne (Nat.lt_succ_iff.mp hi) heq)

theorem parseLoop_filled {s : CString} : ∀ {p : Parameters}, p.Filled → (parseLoop s p).Filled := by
  induction s with
  | nil => exact fun h => h
  | cons c pb ih =>
      intro p h
      unfold parseLoop
      split
      · exact ih (h.push pb)
      · exact ih h

theorem parseLoop_nbInput (s : CString) : ∀ p : Parameters,
    (parseLoop s p).nbInput = p.nbInput + s.count COLON := by
  induction s with
  | nil => exact fun _ => rfl
  | cons c pb ih =>
      intro p
      unfold parseLoop
      split
      · rename_i hc
        subst hc
        rw [ih, List.count_cons_self]
        exact Nat.add_right_comm p.nbInput 1 _
      · rename_i hc
        rw [ih, List.count_cons_of_ne hc]

theorem parameters_filled (cells : Nat → Int) (mbuf : CString) : (parameters cells mbuf).Filled :=
  parseLoop_filled ⟨rfl, fun _ hi => absurd hi (Nat.not_lt_zero _)⟩

/-- As many cells are written as the line has colons. -/
theorem parameters_nbInput (cells : Nat → Int) (mbuf : CString) :
    (parameters cells mbuf).nbInput = colons mbuf := by
  rw [parameters, parseLoop_nbInput, Nat.zero_add]
  rfl

theorem parameters_written (cells : Nat → Int) (mbuf : CString) :
    (parameters cells mbuf).written = List.range (colons mbuf) := by
  rw [(parameters_filled cells mbuf).written, parameters_nbInput]

/-! ## The cells a command depends on -/

/-- The same command with the same count. -/
structure SameLine (a b : Line) : Prop where
  pcmd : a.pcmd = b.pcmd
  nbInput : a.nbInput = b.nbInput

theorem mem_pointerCells {count : Int} {i j : Nat} (hi : (i : Int) < count)
    (hj : j = 2 * i + 2 ∨ j = 2 * i + 3) : j ∈ pointerCells count := by
  unfold pointerCells
  rw [List.mem_flatMap]
  refine ⟨i, ?_, ?_⟩
  · rw [List.mem_range]
    omega
  · simpa using hj

theorem lt_of_mem_pointerCells {count : Int} {j : Nat} (h : j ∈ pointerCells count) :
    (j : Int) < 2 * count + 2 := by
  unfold pointerCells at h
  rw [List.mem_flatMap] at h
  obtain ⟨i, hi, hj⟩ := h
  rw [List.mem_range] at hi
  simp only [List.mem_cons, List.not_mem_nil, or_false] at hj
  omega

/-- The check of `MULTI`, when the count does not overflow. -/
theorem multiCount_of_eq {a : Line} (h : (a.nbInput : Int) = 2 * a.parameters 0 + 2) :
    multiCount a := by
  rw [multiCount, h, sub_self]
  rfl

theorem pointers_congr {a b : Line} (hzero : a.parameters 0 = b.parameters 0)
    (h : ∀ i ∈ pointerCells (a.parameters 0), a.parameters i = b.parameters i) :
    pointers a = pointers b := by
  unfold pointers
  rw [← hzero]
  refine List.map_congr_left fun i hi => ?_
  have hlt : (i : Int) < a.parameters 0 := by
    rw [List.mem_range] at hi
    omega
  rw [h _ (mem_pointerCells hlt (.inl rfl)), h _ (mem_pointerCells hlt (.inr rfl))]

theorem multi_congr {opened : Bool} {s : Touch} {a b : Line} (hsame : SameLine a b)
    (hcmd : a.pcmd = .MULTI) (h : ∀ i ∈ reads opened s a, a.parameters i = b.parameters i) :
    multi a = multi b := by
  simp only [reads, hcmd] at h
  have hzero : a.parameters 0 = b.parameters 0 := h 0 List.mem_cons_self
  unfold multi
  rw [← hsame.nbInput, ← hzero]
  split
  · rfl
  · rename_i hcount
    rw [if_pos (multiCount_of_eq (not_not.mp hcount))] at h
    have hone : a.parameters 1 = b.parameters 1 := h 1 (by simp)
    -- only some of the actions come with pointers
    have hpointers : readsPointers (a.parameters 1) → pointers a = pointers b := by
      intro hreads
      rw [if_pos hreads] at h
      exact pointers_congr hzero fun i hi => h i (by simp [hi])
    rw [← hone]
    split
    · rename_i haction
      rw [hpointers (by unfold readsPointers; tauto)]
    · split
      · rename_i haction
        rw [hpointers (by unfold readsPointers; tauto)]
      · rfl

theorem report_congr {a b : Line} (hzero : a.parameters 0 = b.parameters 0)
    (hone : a.parameters 1 = b.parameters 1) : report a = report b := by
  rw [report, report, hzero, hone]

/-- `handle` depends on no other cell than those that the command reads. -/
theorem handle_congr (T : Trig) {opened : Bool} (created : Bool) {s : Touch} {a b : Line}
    (hsame : SameLine a b) (h : ∀ i ∈ reads opened s a, a.parameters i = b.parameters i) :
    handle T opened created s a = handle T opened created s b := by
  unfold handle
  rw [← hsame.pcmd]
  cases hcmd : a.pcmd with
  | MULTI => exact congrArg (fun events => some (s, events)) (multi_congr hsame hcmd h)
  | CONFIG =>
      simp only [reads, hcmd] at h
      simp only [config, ← hsame.nbInput]
      by_cases hcount : a.nbInput < 2
      · rw [if_pos hcount, if_pos hcount]
      · cases opened with
        | false => rfl
        | true =>
            simp [hcount] at h
            rw [h.1, h.2]
  | MOUSE =>
      simp only [reads, hcmd] at h
      simp only [mouse, ← hsame.nbInput]
      by_cases hcount : a.nbInput < 2
      · rw [if_pos hcount, if_pos hcount]
      · cases hstate : s.mouse_state with
        | NO_CLICK => rfl
        | _ =>
            simp [hcount, hstate] at h
            simp only [report, h.1, h.2]
  | WHEEL =>
      simp only [reads, hcmd] at h
      simp only [wheel, ← hsame.nbInput]
      by_cases hcount : a.nbInput < 4
      · rw [if_pos hcount, if_pos hcount]
      · simp [hcount] at h
        simp only [h]
  | MSMTPR =>
      simp only [reads, hcmd] at h
      simp only [msmtpr, ← hsame.nbInput]
      by_cases hcount : a.nbInput < 4
      · rw [if_pos hcount, if_pos hcount]
      · simp [hcount] at h
        simp only [h]
  | MSBPR | MSBRL =>
      simp only [reads, hcmd] at h
      simp only [msbpr, msbrl, button, ← hsame.nbInput]
      by_cases hcount : a.nbInput < 2
      · rw [if_pos hcount, if_pos hcount]
      · simp [hcount] at h
        rw [report_congr h.1 h.2]
  | KBDPR | KBDRL =>
      simp only [reads, hcmd] at h
      simp only [kbdpr, kbdrl, keyboard, ← hsame.nbInput]
      by_cases hcount : a.nbInput < 2
      · rw [if_pos hcount, if_pos hcount]
      · simp [hcount] at h
        rw [h]
  | MSMTRL => simp only [msmtrl, hsame.nbInput]
  | unknown => rfl

/-! ## What has been written -/

/-- The count of a `MULTI` line that passes the check is that of its pointers, unless there are
none. -/
theorem lt_nbInput_of_pointerCells {a : Line} {j : Nat} (hcount : multiCount a)
    (hbounds : -0x80000000 ≤ a.parameters 0 ∧ a.parameters 0 ≤ 0x7FFFFFFF)
    (hpos : 0 < a.nbInput) (h : j ∈ pointerCells (a.parameters 0)) : j < a.nbInput := by
  have hlt := lt_of_mem_pointerCells h
  unfold multiCount at hcount
  omega

theorem lt_nbInput_of_mem_reads {opened : Bool} {s : Touch} {a : Line} {i : Nat}
    (hmulti : a.pcmd = .MULTI → 0 < a.nbInput)
    (hbounds : 0 < a.nbInput → -0x80000000 ≤ a.parameters 0 ∧ a.parameters 0 ≤ 0x7FFFFFFF)
    (hi : i ∈ reads opened s a) : i < a.nbInput := by
  unfold reads at hi
  cases hcmd : a.pcmd with
  | MULTI =>
      have hpos := hmulti hcmd
      simp only [hcmd, List.mem_cons] at hi
      rcases hi with rfl | hi
      · exact hpos
      · split at hi
        · rename_i hcount
          rcases List.mem_cons.mp hi with rfl | hi
          · -- the count is even, and it is not 0
            unfold multiCount at hcount
            omega
          · split at hi
            · exact lt_nbInput_of_pointerCells hcount (hbounds hpos) hpos hi
            · cases hi
        · cases hi
  | _ =>
      simp only [hcmd] at hi
      first
        | cases hi
        | split at hi
          · cases hi
          · rename_i hcount
            simp only [List.mem_cons, List.not_mem_nil, or_false] at hi
            omega

/-- What the command reads has been written when the line is `MULTI` with a parameter, or
another command. -/
theorem reads_written_iff {opened : Bool} {s : Touch} {cells : Nat → Int} {mbuf : CString} :
    (∀ i ∈ reads opened s (parse cells mbuf), i ∈ (parameters cells mbuf).written) ↔
      (Command.ofName (pcmd mbuf) = .MULTI → 0 < colons mbuf) := by
  have hcount : (parse cells mbuf).nbInput = colons mbuf := parameters_nbInput cells mbuf
  constructor
  · intro h hcmd
    have hzero : 0 ∈ reads opened s (parse cells mbuf) := by
      have hpcmd : (parse cells mbuf).pcmd = .MULTI := hcmd
      simp only [reads, hpcmd, List.mem_cons, true_or]
    have hmem := h 0 hzero
    rw [parameters_written, List.mem_range] at hmem
    exact hmem
  · intro hmulti i hi
    rw [parameters_written, List.mem_range, ← hcount]
    refine lt_nbInput_of_mem_reads (fun hcmd => hcount ▸ hmulti hcmd) ?_ hi
    intro hpos
    exact (parameters_filled cells mbuf).bounds 0 hpos

/-- A line is safe just when it has at most 22 colons, and one at least behind `MULTI`. -/
theorem lineSafe_iff (opened : Bool) (s : Touch) (cells : Nat → Int) (mbuf : CString) :
    LineSafe opened s cells mbuf ↔ colons mbuf ≤ MAX_NB_INPUT ∧
      (Command.ofName (pcmd mbuf) = .MULTI → 0 < colons mbuf) := by
  constructor
  · intro h
    have hfew := h.few
    rw [parameters_written, List.length_range] at hfew
    exact ⟨hfew, reads_written_iff.mp h.written⟩
  · rintro ⟨hfew, hmulti⟩
    refine ⟨?_, ?_, reads_written_iff.mpr hmulti⟩
    · rw [parameters_written, List.length_range]
      exact hfew
    · intro i hi
      rw [parameters_written, List.mem_range] at hi
      exact Nat.lt_of_lt_of_le hi hfew

/-! ## Two lines

`MULTI` alone, and `MOUSE` with 23 parameters that are all empty. -/

namespace Overrun

def multi : CString := Command.MULTI.name ++ [NEWLINE]

def mouse : CString := Command.MOUSE.name ++ List.replicate 23 COLON ++ [NEWLINE]

end Overrun

/-- The cell 22 behind the array is written, and the first cell is read unwritten. -/
theorem not_lineSafe : ∃ alone full : CString, alone.length < BUFSIZE ∧ full.length < BUFSIZE ∧
    ∀ (opened : Bool) (s : Touch) (cells : Nat → Int),
      (0 ∈ reads opened s (parse cells alone) ∧ (parameters cells alone).written = [] ∧
        ¬LineSafe opened s cells alone) ∧
      (MAX_NB_INPUT ∈ (parameters cells full).written ∧ ¬LineSafe opened s cells full) := by
  refine ⟨Overrun.multi, Overrun.mouse, by decide, by decide, ?_⟩
  intro opened s cells
  have halone : (parameters cells Overrun.multi).written = [] := parameters_written cells _
  have hread : 0 ∈ reads opened s (parse cells Overrun.multi) := List.mem_cons_self
  have hfull : MAX_NB_INPUT ∈ (parameters cells Overrun.mouse).written := by
    rw [parameters_written]
    decide
  refine ⟨⟨hread, halone, ?_⟩, hfull, ?_⟩
  · intro h
    have hmem := h.written 0 hread
    rw [halone] at hmem
    cases hmem
  · intro h
    exact absurd (h.inside MAX_NB_INPUT hfull) (Nat.lt_irrefl _)

end VInput
end DeviceAndroVM
