import Mathlib.Data.List.Basic
import Mathlib.Data.List.TakeWhile

/-!
# C strings

The bytes of a C string before its terminator, and functions of the C library that look
into them.

* `isspace`, `isdigit`, `isalpha`, `isalnum` — the classes of the C locale.
* `afterLast` — what follows the byte that `strrchr` finds.
* `decimalValue` — the value of a sequence of digits.
* `scanInt` — the conversion `%d` of `sscanf`.
* `strtolHex` — `strtol` to the base 16.
* `strstr` — the first occurrence of a string.
* `words` — the parts of a string between white space.
-/

namespace DeviceAndroVM
namespace Library

/-- The bytes of a string, without the terminator. -/
abbrev CString := List UInt8

/-- Whether a string is in a list is decided by the equality of strings. -/
instance : LawfulBEq CString := inferInstance

namespace CString

/-- `isspace`. -/
def isspace (c : UInt8) : Bool := c == 0x20 || (0x09 ≤ c && c ≤ 0x0D)

/-- `isdigit`. -/
def isdigit (c : UInt8) : Bool := 0x30 ≤ c && c ≤ 0x39

/-- `isalpha`. -/
def isalpha (c : UInt8) : Bool := (0x41 ≤ c && c ≤ 0x5A) || (0x61 ≤ c && c ≤ 0x7A)

/-- `isalnum`. -/
def isalnum (c : UInt8) : Bool := isalpha c || isdigit c

/-- A string literal. -/
def ofChars (chars : List Char) : CString := chars.map fun c => UInt8.ofNat c.toNat

/-- `strrchr(s, c) + 1`, when `strrchr` finds the byte. -/
def afterLast (c : UInt8) (s : CString) : Option CString :=
  if c ∈ s then some (s.reverse.takeWhile (· != c)).reverse else none

/-- The value of decimal digits. -/
def decimalValue (digits : CString) : Nat :=
  digits.foldl (fun value digit => 10 * value + (digit.toNat - 0x30)) 0

/-- `sscanf(s, "%d", &value) == 1`, with the value: white space, a sign, and digits.  C
leaves the value open when it is no `int`. -/
def scanInt (s : CString) : Option Int :=
  let rest := s.dropWhile isspace
  let signed :=
    match rest with
    | 0x2D :: tail => (-1, tail)
    | 0x2B :: tail => (1, tail)
    | _ => (1, rest)
  let digits := signed.2.takeWhile isdigit
  if digits.isEmpty then none else some (signed.1 * decimalValue digits)

/-- `isxdigit`. -/
def isxdigit (c : UInt8) : Bool :=
  isdigit c || (0x41 ≤ c && c ≤ 0x46) || (0x61 ≤ c && c ≤ 0x66)

def hexDigit (c : UInt8) : Nat :=
  if c ≤ 0x39 then c.toNat - 0x30 else if c ≤ 0x46 then c.toNat - 0x37 else c.toNat - 0x57

/-- The value of hexadecimal digits. -/
def hexValue (digits : CString) : Nat :=
  digits.foldl (fun value digit => 16 * value + hexDigit digit) 0

/-- `strtol` skips `0x` before a digit. -/
def dropHexPrefix : CString → CString
  | 0x30 :: x :: digit :: rest =>
      if (x == 0x78 || x == 0x58) && isxdigit digit then digit :: rest
      else 0x30 :: x :: digit :: rest
  | s => s

/-- `strtol(s, NULL, 16)` where `long` has 32 bits: white space, a sign and digits, and
whether `errno` becomes `ERANGE`. -/
def strtolHex (s : CString) : Int × Bool :=
  let rest := s.dropWhile isspace
  let signed :=
    match rest with
    | 0x2D :: tail => (true, tail)
    | 0x2B :: tail => (false, tail)
    | _ => (false, rest)
  let value := hexValue ((dropHexPrefix signed.2).takeWhile isxdigit)
  if signed.1 then
    if 0x80000000 < value then (-0x80000000, true) else (-(value : Int), false)
  else
    if 0x80000000 ≤ value then (0x7FFFFFFF, true) else (value, false)

/-- `strstr(s, needle)`: what is before the first occurrence and what is behind it. -/
def strstr (needle : CString) : CString → Option (CString × CString)
  | [] => none
  | c :: rest =>
      if needle <+: c :: rest then some ([], (c :: rest).drop needle.length)
      else (strstr needle rest).map fun found => (c :: found.1, found.2)

/-- The parts of a string between white space. -/
def words : CString → List CString
  | [] => []
  | c :: rest =>
      if isspace c then words rest
      else if rest.head?.all isspace then [c] :: words rest
      else (words rest).modifyHead (c :: ·)

variable {c : UInt8} {digits : CString}

theorem takeWhile_append_cons {s : CString} (hs : ∀ b ∈ s, b ≠ c) (rest : CString) :
    (s ++ c :: rest).takeWhile (· != c) = s := by
  rw [List.takeWhile_append_of_pos (by simpa using hs), List.takeWhile_cons_of_neg (by simp),
    List.append_nil]

/-- The last occurrence is the one after which there is no other. -/
theorem afterLast_append {tail : CString} (htail : ∀ b ∈ tail, b ≠ c) (s : CString) :
    afterLast c (s ++ c :: tail) = some tail := by
  have hmem : c ∈ s ++ c :: tail := by simp
  have hrev : (s ++ c :: tail).reverse = tail.reverse ++ c :: s.reverse := by simp
  rw [afterLast, if_pos hmem, hrev,
    takeWhile_append_cons (fun b hb => htail b (List.mem_reverse.mp hb)), List.reverse_reverse]

theorem isspace_of_isdigit (h : isdigit c = true) : isspace c = false := by
  unfold isdigit at h
  unfold isspace
  grind

theorem takeWhile_digits (hdigits : ∀ d ∈ digits, isdigit d = true) (rest : CString)
    (hrest : rest.head?.all (!isdigit ·)) :
    (digits ++ rest).takeWhile isdigit = digits ∧ (digits ++ rest).dropWhile isdigit = rest := by
  have hstop : rest.takeWhile isdigit = [] ∧ rest.dropWhile isdigit = rest := by
    cases rest with
    | nil => exact ⟨rfl, rfl⟩
    | cons c tail =>
        have hc : isdigit c = false := by simpa using hrest
        exact ⟨List.takeWhile_cons_of_neg (by simp [hc]), List.dropWhile_cons_of_neg (by simp [hc])⟩
  rw [List.takeWhile_append_of_pos hdigits, List.dropWhile_append_of_pos hdigits, hstop.1, hstop.2,
    List.append_nil]
  exact ⟨rfl, rfl⟩

/-- Digits before anything else. -/
theorem scanInt_digits_append (hne : digits ≠ []) (hdigits : ∀ d ∈ digits, isdigit d = true)
    (rest : CString) (hrest : rest.head?.all (!isdigit ·)) :
    scanInt (digits ++ rest) = some (decimalValue digits : Int) := by
  obtain ⟨first, more, rfl⟩ := List.exists_cons_of_ne_nil hne
  have hfirst := hdigits first List.mem_cons_self
  have hspace : isspace first = false := isspace_of_isdigit hfirst
  obtain ⟨htake, -⟩ := takeWhile_digits hdigits rest hrest
  have hminus : first ≠ 0x2D := by
    rintro rfl
    exact absurd hfirst (by decide)
  have hplus : first ≠ 0x2B := by
    rintro rfl
    exact absurd hfirst (by decide)
  have hdrop : (first :: more ++ rest).dropWhile isspace = first :: more ++ rest := by
    rw [List.cons_append, List.dropWhile_cons_of_neg (by simp [hspace])]
  unfold scanInt
  dsimp only
  rw [hdrop]
  split
  · rename_i heq
    exact absurd (List.cons.inj heq).1 hminus
  · rename_i heq
    exact absurd (List.cons.inj heq).1 hplus
  · dsimp only
    rw [htake]
    simp

/-- Digits before a byte that is none. -/
theorem scanInt_digits (hne : digits ≠ []) (hdigits : ∀ d ∈ digits, isdigit d = true)
    {stop : UInt8} (hstop : isdigit stop = false) (tail : CString) :
    scanInt (digits ++ stop :: tail) = some (decimalValue digits : Int) :=
  scanInt_digits_append hne hdigits (stop :: tail) (by simp [hstop])

theorem any_head?_dropWhile (p : UInt8 → Bool) (s : CString) :
    (s.dropWhile p).head?.any p = false := by
  have hhead := List.head?_dropWhile_not p s
  cases hfirst : (s.dropWhile p).head? with
  | none => rfl
  | some c =>
      rw [hfirst] at hhead
      exact hhead

/-- What `strstr` finds is there. -/
theorem strstr_eq_append {needle s before after : CString}
    (h : strstr needle s = some (before, after)) : s = before ++ needle ++ after := by
  induction s generalizing before with
  | nil => cases h
  | cons c rest ih =>
      rw [strstr] at h
      split at h
      · rename_i hneedle
        cases h
        exact (List.prefix_iff_eq_append.mp hneedle).symm
      · obtain ⟨found, hrest, heq⟩ := Option.map_eq_some_iff.mp h
        cases heq
        exact congrArg (c :: ·) (ih hrest)

/-! ## Words -/

theorem words_cons_of_isspace (h : isspace c = true) (s : CString) : words (c :: s) = words s := by
  rw [words, if_pos h]

theorem isxdigit_cases {c : UInt8} (h : isxdigit c) :
    isspace c = false ∧ c ≠ 0x2D ∧ c ≠ 0x2B ∧ c ≠ 0x78 ∧ c ≠ 0x58 := by
  simp only [isxdigit, isdigit, isspace, Bool.or_eq_true, Bool.and_eq_true, decide_eq_true_eq,
    Bool.or_eq_false_iff, Bool.and_eq_false_iff, decide_eq_false_iff_not, beq_eq_false_iff_ne,
    UInt8.le_iff_toNat_le, ne_eq, ← UInt8.toNat_inj, UInt8.reduceToNat] at h ⊢
  omega

theorem dropHexPrefix_digits {s : CString} (h : ∀ c ∈ s, isxdigit c) : dropHexPrefix s = s := by
  unfold dropHexPrefix
  split
  · rename_i x digit rest
    have hx := isxdigit_cases (h x (by simp))
    simp [hx]
  · rfl

/-- A string of hexadecimal digits is read as its value, when that is a `long`. -/
theorem strtolHex_digits {s : CString} (h : ∀ c ∈ s, isxdigit c) (hvalue : hexValue s < 0x80000000) :
    strtolHex s = ((hexValue s : Int), false) := by
  have hspace : s.dropWhile isspace = s := by
    cases s with
    | nil => rfl
    | cons c rest =>
        have hc := (isxdigit_cases (h c List.mem_cons_self)).1
        exact List.dropWhile_cons_of_neg (by simp [hc])
  have hdigits : s.takeWhile isxdigit = s := List.takeWhile_eq_self_iff.mpr h
  unfold strtolHex
  rw [hspace]
  cases s with
  | nil => rfl
  | cons c rest =>
      obtain ⟨-, hminus, hplus, -⟩ := isxdigit_cases (h c List.mem_cons_self)
      have hsign : (match c :: rest with
          | 0x2D :: tail => (true, tail)
          | 0x2B :: tail => (false, tail)
          | _ => (false, c :: rest)) = (false, c :: rest) := by
        split
        · rename_i heq
          exact absurd (List.cons.inj heq).1 hminus
        · rename_i heq
          exact absurd (List.cons.inj heq).1 hplus
        · rfl
      dsimp only
      rw [hsign]
      dsimp only
      rw [dropHexPrefix_digits h, hdigits, if_neg Bool.false_ne_true, if_neg (by omega)]

theorem words_dropWhile_isspace (s : CString) : words (s.dropWhile isspace) = words s := by
  induction s with
  | nil => rfl
  | cons c rest ih =>
      by_cases hc : isspace c = true
      · rw [List.dropWhile_cons_of_pos hc, ih, words_cons_of_isspace hc]
      · rw [List.dropWhile_cons_of_neg hc]

/-- The first word. -/
theorem words_cons (h : isspace c = false) (s : CString) :
    words (c :: s) = (c :: s.takeWhile (!isspace ·)) :: words (s.dropWhile (!isspace ·)) := by
  induction s generalizing c with
  | nil => simp [words, h]
  | cons d rest ih =>
      rw [words, if_neg (by simp [h])]
      by_cases hd : isspace d = true
      · rw [if_pos (by simpa using hd), List.takeWhile_cons_of_neg (by simp [hd]),
          List.dropWhile_cons_of_neg (by simp [hd])]
      · have hd : isspace d = false := by simpa using hd
        rw [if_neg (by simp [hd]), ih hd, List.takeWhile_cons_of_pos (by simp [hd]),
          List.dropWhile_cons_of_pos (by simp [hd])]
        rfl

/-- A text that begins with bytes of its first word. -/
theorem words_append {w : CString} (hne : w ≠ []) (hw : ∀ b ∈ w, (!isspace b) = true)
    (s : CString) :
    words (w ++ s) = (w ++ s.takeWhile (!isspace ·)) :: words (s.dropWhile (!isspace ·)) := by
  obtain ⟨c, rest, rfl⟩ := List.exists_cons_of_ne_nil hne
  have hc : isspace c = false := by simpa using hw c List.mem_cons_self
  have hrest : ∀ b ∈ rest, (!isspace b) = true := fun b hb => hw b (List.mem_cons_of_mem c hb)
  rw [List.cons_append, words_cons hc, List.takeWhile_append_of_pos hrest,
    List.dropWhile_append_of_pos hrest, List.cons_append]

/-- The bytes before the first white space. -/
theorem not_isspace_of_mem_takeWhile {s : CString} {b : UInt8}
    (h : b ∈ s.takeWhile (!isspace ·)) : (!isspace b) = true :=
  List.mem_takeWhile_imp (p := (!isspace ·)) h

/-- A word before white space. -/
theorem words_word_append {w s : CString} (hne : w ≠ []) (hw : ∀ b ∈ w, (!isspace b) = true)
    (hs : s.head?.any (!isspace ·) = false) : words (w ++ s) = w :: words s := by
  rw [words_append hne hw]
  cases s with
  | nil => rw [List.takeWhile_nil, List.dropWhile_nil, List.append_nil]
  | cons c rest =>
      rw [List.takeWhile_cons_of_neg (by simpa using hs),
        List.dropWhile_cons_of_neg (by simpa using hs), List.append_nil]

/-- White space before the words. -/
theorem words_space_append {space : CString} (h : ∀ b ∈ space, isspace b = true) (s : CString) :
    words (space ++ s) = words s := by
  rw [← words_dropWhile_isspace, List.dropWhile_append_of_pos h, words_dropWhile_isspace]

end CString

end Library
end DeviceAndroVM
