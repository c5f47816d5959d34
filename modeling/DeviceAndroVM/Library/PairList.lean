import Mathlib.Data.List.Induction
import Mathlib.Data.List.TakeWhile
import Mathlib.Tactic.Ring
import DeviceAndroVM.Library.WhileLoop

/-!
# Lists of pairs up to a mark

Names and values lie one after the other in memory, and a mark stands where the next name would
be.  A loop walks over them in steps of two until it likes the name it is at.

* `PairList` — the pairs, and what memory holds behind the mark.
* `lastValue` — the value of the last pair with a name.
* `Turn`, `scanBody` — what a loop does with one pair, and one iteration of it.
* `scan_within_iff` — when a loop stays inside the list, and what its variables are then.
-/

namespace DeviceAndroVM
namespace Library

universe u v

variable {α : Type u} {σ : Type v} {mark : α}

/-- The pairs in front of the mark, and the memory behind it. -/
structure PairList (α : Type u) (mark : α) where
  pairs : List (α × α)
  names_ne : ∀ p ∈ pairs, p.1 ≠ mark
  behind : Nat → α

namespace PairList

/-- The list as it lies in memory, with its mark. -/
def words (list : PairList α mark) : List α :=
  list.pairs.flatMap (fun p => [p.1, p.2]) ++ [mark]

/-- The memory from the first name on. -/
def word (list : PairList α mark) (i : Nat) : α :=
  list.words[i]?.getD (list.behind i)

/-- The pairs in front of the first name that a loop stops at. -/
def front (stops : α → Bool) (list : PairList α mark) : List (α × α) :=
  list.pairs.takeWhile fun p => !stops p.1

end PairList

/-- The value of the last pair with a name. -/
def lastValue [BEq α] (name dflt : α) (pairs : List (α × α)) : α :=
  (pairs.reverse.lookup name).getD dflt

@[simp] theorem lastValue_nil [BEq α] (name dflt : α) : lastValue name dflt [] = dflt :=
  rfl

@[simp] theorem lastValue_concat [DecidableEq α] (name dflt : α) (pairs : List (α × α))
    (p : α × α) :
    lastValue name dflt (pairs ++ [p]) =
      if name = p.1 then p.2 else lastValue name dflt pairs := by
  obtain ⟨name', value⟩ := p
  by_cases h : name = name'
  · simp [lastValue, h]
  · simp [lastValue, List.lookup_cons, h, beq_false_of_ne h]

/-! ## The loop -/

/-- What a loop does for a name: the second kind reads the value behind it. -/
inductive Turn (α : Type u) (σ : Type v)
  | plain (next : σ → σ)
  | valued (next : α → σ → σ)

/-- The variables after a turn. -/
def Turn.vars (value : α) (vars : σ) : Turn α σ → σ
  | .plain next => next vars
  | .valued next => next value vars

/-- The words that a turn reads. -/
def Turn.reads (pos : Nat) : Turn α σ → List Nat
  | .plain _ => [pos]
  | .valued _ => [pos, pos + 1]

/-- The variables of a loop, the name it is at, and the words it has read. -/
structure Scan (σ : Type v) where
  vars : σ
  pos : Nat
  read : List Nat

namespace Scan

/-- A loop in front of the first name. -/
def start (vars : σ) : Scan σ where
  vars := vars
  pos := 0
  read := []

/-- A loop after one more pair. -/
def next (turn : α → Turn α σ) (s : Scan σ) (p : α × α) : Scan σ where
  vars := (turn p.1).vars p.2 s.vars
  pos := s.pos + 2
  read := s.read ++ (turn p.1).reads s.pos

/-- A loop after some pairs. -/
def after (turn : α → Turn α σ) (vars : σ) (pairs : List (α × α)) : Scan σ :=
  pairs.foldl (next turn) (start vars)

end Scan

/-- One iteration: `while (!stops(list[0])) { … list += 2; }`. -/
def scanBody (stops : α → Bool) (turn : α → Turn α σ) (word : Nat → α) (s : Scan σ) :
    Iteration (Scan σ) (Scan σ) :=
  if stops (word s.pos) then .leave { s with read := s.read ++ [s.pos] }
  else .again (s.next turn (word s.pos, word (s.pos + 1)))

namespace PairList

variable {list : PairList α mark} {before behind : List (α × α)} {p : α × α}

theorem length_flatMap (pairs : List (α × α)) :
    (pairs.flatMap fun p => [p.1, p.2]).length = 2 * pairs.length := by
  induction pairs with
  | nil => rfl
  | cons p pairs ih =>
      rw [List.flatMap_cons, List.length_append, ih, List.length_cons]
      simp only [List.length_cons, List.length_nil]
      omega

theorem length_words (list : PairList α mark) :
    list.words.length = 2 * list.pairs.length + 1 := by
  rw [words, List.length_append, length_flatMap, List.length_singleton]

theorem words_of_eq (h : list.pairs = before ++ behind) :
    list.words = before.flatMap (fun p => [p.1, p.2]) ++
      (behind.flatMap (fun p => [p.1, p.2]) ++ [mark]) := by
  rw [words, h, List.flatMap_append, List.append_assoc]

/-- The words from a pair on. -/
theorem word_add (h : list.pairs = before ++ behind) (i : Nat)
    (hi : i < 2 * behind.length + 1) :
    some (list.word (2 * before.length + i)) =
      (behind.flatMap (fun p => [p.1, p.2]) ++ [mark])[i]? := by
  have hlength : i < (behind.flatMap (fun p => [p.1, p.2]) ++ [mark]).length := by
    rwa [List.length_append, length_flatMap, List.length_singleton]
  rw [word, words_of_eq h, ← length_flatMap, List.getElem?_append_right (Nat.le_add_right _ _),
    Nat.add_sub_cancel_left, List.getElem?_eq_getElem hlength]
  rfl

theorem map_word_range (list : PairList α mark) :
    (List.range list.words.length).map list.word = list.words := by
  refine List.ext_getElem (by simp) fun i hi hi' => ?_
  simp [word, hi']

theorem word_name (h : list.pairs = before ++ p :: behind) :
    list.word (2 * before.length) = p.1 := by
  simpa using word_add h 0 (by omega)

theorem word_value (h : list.pairs = before ++ p :: behind) :
    list.word (2 * before.length + 1) = p.2 := by
  simpa using word_add h 1 (by simp only [List.length_cons]; omega)

theorem word_mark (list : PairList α mark) : list.word (2 * list.pairs.length) = mark := by
  simpa using word_add (List.append_nil list.pairs).symm 0 (by omega)

end PairList

/-! ## Runs of the loop -/

section

variable {list : PairList α mark} {stops : α → Bool} {turn : α → Turn α σ} {vars : σ}
  {before behind : List (α × α)} {s : Scan σ}

@[simp] theorem Scan.after_concat (p : α × α) :
    Scan.after turn vars (before ++ [p]) = (Scan.after turn vars before).next turn p := by
  rw [after, List.foldl_append]
  rfl

theorem Scan.pos_after : (Scan.after turn vars before).pos = 2 * before.length := by
  induction before using List.reverseRecOn with
  | nil => rfl
  | append_singleton before p ih =>
      rw [after_concat, next, ih, List.length_append, List.length_singleton]
      ring

theorem Turn.lt_of_mem_reads (t : Turn α σ) {pos i : Nat} (hi : i ∈ t.reads pos) :
    i < pos + 2 := by
  cases t with
  | plain next =>
      obtain rfl : i = pos := by simpa [reads] using hi
      omega
  | valued next =>
      have hi' : i = pos ∨ i = pos + 1 := by simpa [reads] using hi
      omega

theorem Turn.pos_mem_reads (t : Turn α σ) (pos : Nat) : pos ∈ t.reads pos := by
  cases t <;> simp [reads]

/-- The loop has read nothing but the pairs it has passed. -/
theorem Scan.lt_of_mem_read_after {i : Nat} (hi : i ∈ (Scan.after turn vars before).read) :
    i < 2 * before.length := by
  induction before using List.reverseRecOn with
  | nil => cases hi
  | append_singleton before p ih =>
      rw [after_concat] at hi
      rw [List.length_append, List.length_singleton]
      rcases List.mem_append.mp hi with hold | hnew
      · have := ih hold
        omega
      · have := Turn.lt_of_mem_reads _ hnew
        rw [pos_after] at this
        omega

theorem scanBody_leave (h : stops (list.word s.pos) = true) :
    scanBody stops turn list.word s = .leave { s with read := s.read ++ [s.pos] } :=
  if_pos h

theorem scanBody_again (h : stops (list.word s.pos) = false) :
    scanBody stops turn list.word s =
      .again (s.next turn (list.word s.pos, list.word (s.pos + 1))) :=
  if_neg (by simp [h])

/-- The loop passes the pairs whose names it does not stop at. -/
theorem scan_after_iff (h : list.pairs = before ++ behind)
    (hpass : ∀ p ∈ before, stops p.1 = false) :
    WhileRun (scanBody stops turn list.word) (Scan.start vars) s ↔
      WhileRun (scanBody stops turn list.word) (Scan.after turn vars before) s := by
  induction before using List.reverseRecOn generalizing behind with
  | nil => rfl
  | append_singleton before p ih =>
      rw [List.append_assoc, List.singleton_append] at h
      rw [ih h fun q hq => hpass q (List.mem_append_left _ hq)]
      refine WhileRun.again_iff ?_
      rw [scanBody_again, Scan.pos_after, PairList.word_name h, PairList.word_value h,
        Scan.after_concat]
      rw [Scan.pos_after, PairList.word_name h]
      exact hpass p (by simp)

/-- A loop has read, in the end, what it had read before and the name it was at. -/
theorem mem_read_of_run {s' : Scan σ} (hrun : WhileRun (scanBody stops turn list.word) s s') :
    s.pos ∈ s'.read ∧ ∀ i ∈ s.read, i ∈ s'.read := by
  -- by induction on the iterations that are left
  induction hrun with
  | @leave s s' h =>
      unfold scanBody at h
      split at h
      · cases h
        simp +contextual
      · cases h
  | @again s next s' h rest ih =>
      unfold scanBody at h
      split at h
      · cases h
      · cases h
        refine ⟨ih.2 _ ?_, fun i hi => ih.2 i (List.mem_append_left _ hi)⟩
        exact List.mem_append_right _ (Turn.pos_mem_reads _ _)

/-- Without a name to stop at, the mark being none, the loop leaves the list. -/
theorem exists_read_of_pass (hpass : ∀ p ∈ list.pairs, stops p.1 = false)
    (hmark : stops mark = false)
    (hrun : WhileRun (scanBody stops turn list.word) (Scan.start vars) s) :
    ∃ i ∈ s.read, list.words.length ≤ i := by
  have hend := (scan_after_iff (List.append_nil _).symm hpass).mp hrun
  have hgoes : stops (list.word (Scan.after turn vars list.pairs).pos) = false := by
    rwa [Scan.pos_after, PairList.word_mark]
  have hread := (mem_read_of_run ((WhileRun.again_iff (scanBody_again hgoes)).mp hend)).1
  refine ⟨_, hread, ?_⟩
  change list.words.length ≤ (Scan.after turn vars list.pairs).pos + 2
  rw [Scan.pos_after, PairList.length_words]
  omega

theorem pass_of_mem_front {p : α × α} (hp : p ∈ list.front stops) : stops p.1 = false := by
  simpa using List.mem_takeWhile_imp hp

/-- The name behind the pairs that the loop passes stops it. -/
theorem stops_word_front (hstop : (∃ p ∈ list.pairs, stops p.1 = true) ∨ stops mark = true) :
    stops (list.word (2 * (list.front stops).length)) = true := by
  have hsplit : list.pairs = list.front stops ++ list.pairs.dropWhile fun p => !stops p.1 :=
    List.takeWhile_append_dropWhile.symm
  cases hrest : list.pairs.dropWhile fun p => !stops p.1 with
  | nil =>
      have hall : list.front stops = list.pairs := by
        rw [hrest, List.append_nil] at hsplit
        exact hsplit.symm
      rw [hall, PairList.word_mark]
      refine hstop.resolve_left ?_
      rintro ⟨p, hp, hp'⟩
      rw [← hall] at hp
      cases hp'.symm.trans (pass_of_mem_front hp)
  | cons p rest =>
      rw [hrest] at hsplit
      rw [PairList.word_name hsplit]
      have hhead := List.head_dropWhile_not (fun p : α × α => !stops p.1) (l := list.pairs)
        (by simp [hrest])
      simpa [hrest] using hhead

/-- A loop ends without having left the list just when it stops at a name of the list or at the
mark.  Its variables are then those after the pairs in front. -/
theorem scan_within_iff (list : PairList α mark) (stops : α → Bool) (turn : α → Turn α σ)
    (vars vars' : σ) :
    (∃ s, WhileRun (scanBody stops turn list.word) (Scan.start vars) s ∧
        (∀ i ∈ s.read, i < list.words.length) ∧ s.vars = vars') ↔
      ((∃ p ∈ list.pairs, stops p.1 = true) ∨ stops mark = true) ∧
        (Scan.after turn vars (list.front stops)).vars = vars' := by
  have hsplit : list.pairs = list.front stops ++ list.pairs.dropWhile fun p => !stops p.1 :=
    List.takeWhile_append_dropWhile.symm
  have hrun (s : Scan σ) :
      WhileRun (scanBody stops turn list.word) (Scan.start vars) s ↔
        WhileRun (scanBody stops turn list.word) (Scan.after turn vars (list.front stops)) s :=
    scan_after_iff hsplit fun _ => pass_of_mem_front
  by_cases hstop : (∃ p ∈ list.pairs, stops p.1 = true) ∨ stops mark = true
  · have hleave : stops (list.word (Scan.after turn vars (list.front stops)).pos) = true := by
      rw [Scan.pos_after]
      exact stops_word_front hstop
    constructor
    · rintro ⟨s, hs, -, rfl⟩
      rw [hrun, WhileRun.leave_iff (scanBody_leave hleave)] at hs
      exact ⟨hstop, hs ▸ rfl⟩
    · rintro ⟨-, rfl⟩
      refine ⟨_, (hrun _).mpr (.leave (scanBody_leave hleave)), ?_, rfl⟩
      intro i hi
      have hlength : (list.front stops).length ≤ list.pairs.length :=
        (List.takeWhile_sublist _).length_le
      rw [PairList.length_words]
      rcases List.mem_append.mp hi with hpassed | hlast
      · have := Scan.lt_of_mem_read_after hpassed
        omega
      · rw [List.mem_singleton.mp hlast, Scan.pos_after]
        omega
  · refine iff_of_false ?_ fun h => hstop h.1
    rintro ⟨s, hs, hinside, -⟩
    obtain ⟨i, hi, hbehind⟩ := exists_read_of_pass
      (fun p hp => Bool.eq_false_iff.mpr fun h => hstop (.inl ⟨p, hp, h⟩))
      (Bool.eq_false_iff.mpr fun h => hstop (.inr h)) hs
    exact absurd (hinside i hi) (Nat.not_lt.mpr hbehind)

end

end Library
end DeviceAndroVM
