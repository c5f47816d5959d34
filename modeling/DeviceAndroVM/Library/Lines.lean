import Mathlib.Data.List.Basic
import Mathlib.Data.List.TakeWhile

/-!
# Lines of a stream

A stream is cut behind every separator: the complete lines, each with its separator, and
what is left of a line that has not ended.

* `lines`, `lastLine` — the two parts.
* `lines_flatten_append_lastLine` — together they are the stream.
* `lines_append_of_ne`, `lines_append_sep` — one more element of the stream.
* `lines_append` — complete lines in front of a stream.
-/

namespace DeviceAndroVM
namespace Library

universe u

variable {α : Type u} [DecidableEq α] {sep : α}

/-- The complete lines of a stream, each with the separator that ends it. -/
def lines (sep : α) : List α → List (List α)
  | [] => []
  | b :: rest => if b = sep then [b] :: lines sep rest else (lines sep rest).modifyHead (b :: ·)

/-- What is behind the last separator. -/
def lastLine (sep : α) : List α → List α
  | [] => []
  | b :: rest => if sep ∈ b :: rest then lastLine sep rest else b :: rest

@[simp] theorem lines_nil : lines sep [] = [] := rfl

@[simp] theorem lastLine_nil : lastLine sep [] = [] := rfl

theorem lines_eq_nil {s : List α} : lines sep s = [] ↔ sep ∉ s := by
  induction s with
  | nil => simp
  | cons b rest ih =>
      unfold lines
      by_cases hb : b = sep
      · simp [hb]
      · have hne : sep ≠ b := fun h => hb h.symm
        rw [if_neg hb, List.modifyHead_eq_nil_iff, ih]
        simp [hne]

theorem lastLine_of_not_mem {s : List α} (h : sep ∉ s) : lastLine sep s = s := by
  cases s with
  | nil => rfl
  | cons b rest => exact if_neg h

theorem not_mem_lastLine (s : List α) : sep ∉ lastLine sep s := by
  induction s with
  | nil => simp
  | cons b rest ih =>
      unfold lastLine
      split
      · exact ih
      · assumption

/-- Nothing of the stream is lost. -/
theorem lines_flatten_append_lastLine (s : List α) :
    (lines sep s).flatten ++ lastLine sep s = s := by
  induction s with
  | nil => rfl
  | cons b rest ih =>
      unfold lines lastLine
      by_cases hb : b = sep
      · rw [if_pos hb, if_pos (by simp [hb])]
        simpa using ih
      · have hne : sep ≠ b := fun h => hb h.symm
        rw [if_neg hb]
        by_cases hmem : sep ∈ rest
        · rw [if_pos (List.mem_cons_of_mem b hmem)]
          obtain ⟨first, more, hlines⟩ :=
            List.exists_cons_of_ne_nil (mt lines_eq_nil.mp (not_not_intro hmem))
          rw [hlines] at ih ⊢
          simpa using ih
        · rw [if_neg (by simp [hne, hmem]), lines_eq_nil.mpr hmem]
          rfl

/-- A complete line in front of a stream. -/
theorem lines_cons {body : List α} (hbody : sep ∉ body) (rest : List α) :
    lines sep (body ++ sep :: rest) = (body ++ [sep]) :: lines sep rest := by
  induction body with
  | nil => simp [lines]
  | cons b more ih =>
      have hb : b ≠ sep := fun h => hbody (by simp [h])
      have hmore : sep ∉ more := fun h => hbody (List.mem_cons_of_mem b h)
      rw [List.cons_append, lines, if_neg hb, ih hmore]
      rfl

theorem lastLine_cons (body rest : List α) :
    lastLine sep (body ++ sep :: rest) = lastLine sep rest := by
  induction body with
  | nil => simp [lastLine]
  | cons b more ih =>
      rw [List.cons_append, lastLine, if_pos (by simp), ih]

/-- Complete lines in front of a stream. -/
theorem lines_append (s rest : List α) :
    lines sep (s ++ rest) = lines sep s ++ lines sep (lastLine sep s ++ rest) := by
  induction s with
  | nil => rfl
  | cons b more ih =>
      by_cases hb : b = sep
      · have hlast : lastLine sep (b :: more) = lastLine sep more := by
          rw [lastLine, if_pos (by simp [hb])]
        rw [hlast, List.cons_append, lines, if_pos hb, ih, lines, if_pos hb, List.cons_append]
      · by_cases hmem : sep ∈ more
        · have hlast : lastLine sep (b :: more) = lastLine sep more := by
            rw [lastLine, if_pos (List.mem_cons_of_mem b hmem)]
          obtain ⟨first, others, hlines⟩ :=
            List.exists_cons_of_ne_nil (mt lines_eq_nil.mp (not_not_intro hmem))
          rw [hlast, List.cons_append, lines, if_neg hb, ih, lines, if_neg hb, hlines]
          rfl
        · have hnot : sep ∉ b :: more := by simp [hmem, Ne.symm hb]
          rw [lastLine_of_not_mem hnot, lines_eq_nil.mpr hnot, List.nil_append]

theorem lastLine_append_of_ne (s : List α) {b : α} (hb : b ≠ sep) :
    lastLine sep (s ++ [b]) = lastLine sep s ++ [b] := by
  induction s with
  | nil => simp [lastLine, Ne.symm hb]
  | cons c rest ih =>
      have hiff : sep ∈ c :: (rest ++ [b]) ↔ sep ∈ c :: rest := by simp [Ne.symm hb]
      rw [List.cons_append, lastLine, lastLine]
      by_cases hmem : sep ∈ c :: rest
      · rw [if_pos hmem, if_pos (hiff.mpr hmem), ih]
      · rw [if_neg hmem, if_neg (mt hiff.mp hmem), List.cons_append]

@[simp] theorem lastLine_append_sep (s : List α) : lastLine sep (s ++ [sep]) = [] :=
  lastLine_cons s []

/-- An element that is no separator completes no line. -/
theorem lines_append_of_ne (s : List α) {b : α} (hb : b ≠ sep) :
    lines sep (s ++ [b]) = lines sep s := by
  have hnot : sep ∉ lastLine sep s ++ [b] := by
    simp [not_mem_lastLine, Ne.symm hb]
  rw [lines_append, lines_eq_nil.mpr hnot, List.append_nil]

/-- A separator completes the line that has not ended. -/
theorem lines_append_sep (s : List α) :
    lines sep (s ++ [sep]) = lines sep s ++ [lastLine sep s ++ [sep]] := by
  rw [lines_append, lines_cons (not_mem_lastLine s), lines_nil]

end Library
end DeviceAndroVM
