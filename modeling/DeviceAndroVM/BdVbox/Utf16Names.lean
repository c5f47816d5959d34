import DeviceAndroVM.Library.Buffer
import DeviceAndroVM.Library.CString
import DeviceAndroVM.Library.MachineWords
import DeviceAndroVM.Library.Utf16

/-!
# Names in UTF-16

`converUTF16toUTF8` of `androVM-vbox-sf.cpp`, which converts the names of the shared folders, with
the block that it writes to.

* `converUnits` — the loop; there is no result when it leaves the block or the array.
* `converUTF16toUTF8` — with the block that `malloc` gives.
* `Scanned` — the characters that are converted, and the units where that ends.
* `converUTF16toUTF8_of_string`, `converUTF16toUTF8_of_null` — what is written, and the answer.
* `converts_iff` — it answers as UTF-8 demands exactly when the bytes fit.
-/

namespace DeviceAndroVM
namespace BdVbox

open Library Library.Utf16

/-! ## The code -/

/-- What an assignment to a `char` keeps of an `int`. -/
def char (x : Nat) : UInt8 := UInt8.ofNat x

/-- The bytes of a unit that is no surrogate; none for those that are refused. -/
def unitBytes (wc : Nat) : Option (List UInt8) :=
  if wc < 0x80 then some [char wc]
  else if wc < 0x800 then some [char (0xC0 ||| wc >>> 6), char (0x80 ||| wc &&& 0x3F)]
  else if wc < 0xFFFE then
    some [char (0xE0 ||| wc >>> 12), char (0x80 ||| wc >>> 6 &&& 0x3F), char (0x80 ||| wc &&& 0x3F)]
  else none

def codePoint (wc wc2 : Nat) : Nat := 0x10000 + ((wc &&& 0x3FF) <<< 10 ||| wc2 &&& 0x3FF)

/-- The bytes of a pair of surrogates. -/
def pairBytes (wc wc2 : Nat) : List UInt8 :=
  [char (0xF0 ||| codePoint wc wc2 >>> 18), char (0x80 ||| codePoint wc wc2 >>> 12 &&& 0x3F),
    char (0x80 ||| codePoint wc wc2 >>> 6 &&& 0x3F), char (0x80 ||| codePoint wc wc2 &&& 0x3F)]

/-- The terminator. -/
def endString (s_utf8 : List UInt8) (pwch : Nat) : Option (Option (List UInt8)) :=
  (store s_utf8 pwch [0]).map some

/-- The loop, with the units from `pwsz` on: the block, or `NULL`. -/
def converUnits (s_utf8 : List UInt8) (pwch : Nat) (pwsz : List UInt16) (cwc : Int) :
    Option (Option (List UInt8)) :=
  match pwsz with
  | [] => if cwc ≤ 0 then endString s_utf8 pwch else none
  | unit :: pwsz =>
      let wc := unit.toNat
      if cwc ≤ 0 then endString s_utf8 pwch
      else if wc = 0 then endString s_utf8 pwch
      else if wc < 0xD800 ∨ 0xDFFF < wc then
        match unitBytes wc with
        | some bytes =>
            (store s_utf8 pwch bytes).bind fun s_utf8 =>
              converUnits s_utf8 (pwch + bytes.length) pwsz (cwc - 1)
        | none => some none
      -- a low surrogate, and a high one at the end of the array
      else if 0xDC00 ≤ wc then some none
      else if cwc - 1 ≤ 0 then some none
      else
        match pwsz with
        | [] => none
        | unit2 :: pwsz =>
            let wc2 := unit2.toNat
            if wc2 < 0xDC00 ∨ 0xDFFF < wc2 then some none
            else
              (store s_utf8 pwch (pairBytes wc wc2)).bind fun s_utf8 =>
                converUnits s_utf8 (pwch + (pairBytes wc wc2).length) pwsz (cwc - 1 - 1)

/-- `malloc` is what the allocator answers for a size: the bytes that are there already.  The size
is computed in a word of 32 bits. -/
def converUTF16toUTF8 (malloc : Nat → Option (Nat → UInt8)) (s_utf16 : List UInt16)
    (utf16_len : Int) : Option (Option (List UInt8)) :=
  let size := uint32 (utf16_len * 2 + 1)
  match malloc size with
  | none => some none
  | some bytes => converUnits ((List.range size).map bytes) 0 s_utf16 utf16_len

/-! ## One character -/

/-- `|` of the upper bits of a byte and of a number below them. -/
theorem char_or {i x n : Nat} (a : Nat) (h : x = n) (hn : n < 2 ^ i) :
    char (2 ^ i * a ||| x) = UInt8.ofNat (n + 2 ^ i * a) := by
  rw [char, h, ← Nat.two_pow_add_eq_or_of_lt hn, Nat.add_comm]

theorem char_more {x n : Nat} (h : x = n) :
    char (0x80 ||| x &&& 0x3F) = UInt8.ofNat (n % 0x40 + 0x80) :=
  char_or (i := 6) 2 ((Nat.and_two_pow_sub_one_eq_mod x 6).trans (by rw [h]))
    (Nat.mod_lt _ (by decide))

/-- A unit that is no surrogate has the bytes of its character, but for two. -/
theorem unitBytes_eq {c : Char} (hlast : c.toNat < 0xFFFE) :
    unitBytes c.toNat = some (String.utf8EncodeChar c) := by
  have hval : c.val.toNat = c.toNat := rfl
  unfold unitBytes String.utf8EncodeChar
  dsimp only
  rw [hval]
  generalize c.toNat = wc at hlast
  by_cases hone : wc ≤ 0x7F
  · rw [if_pos (Nat.lt_succ_of_le hone), if_pos hone]
    rfl
  · rw [if_neg (by omega), if_neg hone]
    by_cases htwo : wc ≤ 0x7FF
    · have hlead : char (0xC0 ||| wc >>> 6) = UInt8.ofNat (wc / 64 % 0x20 + 0xC0) :=
        char_or (i := 5) 6 (by rw [Nat.shiftRight_eq_div_pow]; omega) (Nat.mod_lt _ (by decide))
      rw [if_pos (Nat.lt_succ_of_le htwo), if_pos htwo, hlead, char_more (x := wc) rfl]
    · have hlead : char (0xE0 ||| wc >>> 12) = UInt8.ofNat (wc / 4096 % 0x10 + 0xE0) :=
        char_or (i := 4) 14 (by rw [Nat.shiftRight_eq_div_pow]; omega) (Nat.mod_lt _ (by decide))
      rw [if_neg (by omega), if_neg htwo, if_pos hlast, if_pos (by omega), hlead,
        char_more (Nat.shiftRight_eq_div_pow wc 6), char_more (x := wc) rfl]

theorem codePoint_eq {wc wc2 : Nat} (hhigh : 0xD800 ≤ wc ∧ wc ≤ 0xDBFF)
    (hlow : 0xDC00 ≤ wc2 ∧ wc2 ≤ 0xDFFF) :
    codePoint wc wc2 = 0x10000 + (wc - 0xD800) * 0x400 + (wc2 - 0xDC00) := by
  have hfirst : wc &&& 0x3FF = wc - 0xD800 := by
    rw [Nat.and_two_pow_sub_one_eq_mod wc 10]
    omega
  have hsecond : wc2 &&& 0x3FF = wc2 - 0xDC00 := by
    rw [Nat.and_two_pow_sub_one_eq_mod wc2 10]
    omega
  have hlt : wc2 - 0xDC00 < 2 ^ 10 := by omega
  rw [codePoint, hfirst, hsecond, Nat.shiftLeft_eq, Nat.mul_comm _ (2 ^ 10),
    ← Nat.two_pow_add_eq_or_of_lt hlt]
  omega

/-- A pair of surrogates has the bytes of its character. -/
theorem pairBytes_eq {c : Char} {wc wc2 : Nat} (hc : codePoint wc wc2 = c.toNat)
    (hlarge : 0x10000 ≤ c.toNat) : pairBytes wc wc2 = String.utf8EncodeChar c := by
  have hval : c.val.toNat = c.toNat := rfl
  have hvalid := toNat_lt c
  unfold pairBytes String.utf8EncodeChar
  dsimp only
  rw [hval, hc]
  generalize c.toNat = v at *
  have hlead : char (0xF0 ||| v >>> 18) = UInt8.ofNat (v / 262144 % 0x08 + 0xF0) :=
    char_or (i := 3) 30 (by rw [Nat.shiftRight_eq_div_pow]; omega) (Nat.mod_lt _ (by decide))
  rw [if_neg (by omega), if_neg (by omega), if_neg (by omega), hlead,
    char_more (Nat.shiftRight_eq_div_pow v 12), char_more (Nat.shiftRight_eq_div_pow v 6),
    char_more (x := v) rfl]

/-! ## The loop -/

/-- A character that is not converted: `NUL`, and the two that are refused. -/
def Stops (c : Char) : Prop := c.toNat = 0 ∨ c.toNat = 0xFFFE ∨ c.toNat = 0xFFFF

variable {s_utf8 : List UInt8} {pwch : Nat} {rest : List UInt16} {cwc : Int}

/-- One turn: a character is written. -/
theorem converUnits_encode_append (hgo : ¬Stops c) (hroom : (encode c).length ≤ cwc) :
    converUnits s_utf8 pwch (encode c ++ rest) cwc =
      (store s_utf8 pwch (String.utf8EncodeChar c)).bind fun s_utf8 =>
        converUnits s_utf8 (pwch + (String.utf8EncodeChar c).length) rest
          (cwc - (encode c).length) := by
  unfold Stops at hgo
  have hvalid := toNat_lt c
  -- one unit that is no surrogate, or a pair
  rcases encode_cases c with ⟨u, h, hu, hhigh, hlow⟩ | ⟨hi, lo, h, hhigh, hlow, hc⟩
  · rw [h] at hroom ⊢
    have hplain : u.toNat < 0xD800 ∨ 0xDFFF < u.toNat := by
      unfold IsHigh IsLow at *
      omega
    have hlt := u.toNat_lt
    rw [List.singleton_append, converUnits.eq_def]
    dsimp only
    rw [if_neg (by simp at hroom; omega), if_neg (by omega), if_pos hplain, hu,
      unitBytes_eq (by omega)]
    rfl
  · rw [h] at hroom ⊢
    have hchar : codePoint hi.toNat lo.toNat = c.toNat := (codePoint_eq hhigh hlow).trans hc.symm
    have hlarge : 0x10000 ≤ c.toNat := by omega
    obtain ⟨hhigh, hhigh'⟩ := hhigh
    obtain ⟨hlow, hlow'⟩ := hlow
    have hunits : 2 ≤ cwc := hroom
    rw [List.cons_append, List.singleton_append, converUnits.eq_def]
    dsimp only
    rw [if_neg (by omega), if_neg (by omega), if_neg (by omega), if_neg (by omega),
      if_neg (by omega), if_neg (by omega), pairBytes_eq hchar hlarge, Int.sub_sub]
    rfl

/-- All turns: the characters are written one behind the other. -/
theorem converUnits_encodeAll_append (cs : List Char) (hgo : ∀ c ∈ cs, ¬Stops c)
    (hstart : pwch ≤ s_utf8.length) (hroom : (encodeAll cs).length ≤ cwc.toNat) :
    converUnits s_utf8 pwch (encodeAll cs ++ rest) cwc =
      (store s_utf8 pwch (utf8 cs)).bind fun s_utf8 =>
        converUnits s_utf8 (pwch + (utf8 cs).length) rest (cwc - (encodeAll cs).length) := by
  induction cs generalizing s_utf8 pwch cwc with
  | nil =>
      have hsame : store s_utf8 pwch (utf8 []) = some s_utf8 := by
        rw [store_of_le (show pwch + (utf8 []).length ≤ _ from hstart)]
        simp [utf8]
      rw [hsame, Option.bind_some]
      simp [encodeAll, utf8]
  | cons c cs ih =>
      have hsplit : encodeAll (c :: cs) = encode c ++ encodeAll cs := List.flatMap_cons
      have hpositive := List.length_pos_iff.mpr (encode_ne_nil c)
      rw [hsplit, List.length_append] at hroom
      rw [hsplit, List.append_assoc,
        converUnits_encode_append (hgo c (by simp)) (by omega), utf8_cons, store_append_piece]
      cases hstore : store s_utf8 pwch (String.utf8EncodeChar c) with
      | none => rfl
      | some block =>
          have hend : pwch + (String.utf8EncodeChar c).length ≤ block.length :=
            (le_of_store hstore).trans (length_store hstore).ge
          rw [Option.bind_some, Option.bind_some,
            ih (fun d hd => hgo d (List.mem_cons_of_mem c hd)) hend (by omega)]
          simp only [List.length_append, Nat.cast_add, Nat.add_assoc, Int.sub_sub]

/-! ## Where the conversion ends -/

/-- The characters that are converted, and the units behind them. -/
structure Scanned (units : List UInt16) (cs : List Char) (tail : List UInt16) : Prop where
  split : units = encodeAll cs ++ tail
  go : ∀ c ∈ cs, ¬Stops c
  stop : tail = [] ∨ UnpairedHead tail ∨ ∃ c rest, Stops c ∧ tail = encode c ++ rest

theorem exists_scanned (units : List UInt16) : ∃ cs tail, Scanned units cs tail := by
  obtain ⟨cs, tail, hsplit, hgo, hstop⟩ := exists_scan Stops units
  exact ⟨cs, tail, hsplit, hgo, hstop⟩

/-- The string ends here. -/
def Ends (tail : List UInt16) : Prop := tail = [] ∨ tail.head? = some 0

instance (tail : List UInt16) : Decidable (Ends tail) := inferInstanceAs (Decidable (_ ∨ _))

/-- The string is refused here: a noncharacter, or a surrogate without the other half. -/
def Refuses (tail : List UInt16) : Prop :=
  ∃ u rest, tail = u :: rest ∧ (u = 0xFFFE ∨ u = 0xFFFF ∨ IsLow u ∨
    (IsHigh u ∧ ∀ lo, rest.head? = some lo → ¬IsLow lo))

variable {units tail : List UInt16} {cs : List Char}

theorem ne_of_mem_encodeAll (hgo : ∀ c ∈ cs, ¬Stops c) (h : u ∈ encodeAll cs) :
    u ≠ 0 ∧ u ≠ 0xFFFE ∧ u ≠ 0xFFFF := by
  obtain ⟨c, hc, hu⟩ := List.mem_flatMap.mp h
  have hstop := hgo c hc
  have hnat : u.toNat ≠ 0 ∧ u.toNat ≠ 0xFFFE ∧ u.toNat ≠ 0xFFFF := by
    unfold Stops at hstop
    rcases encode_cases c with ⟨u', heq, hu', -⟩ | ⟨hi, lo, heq, hhigh, hlow, -⟩
    · obtain rfl := List.mem_singleton.mp (heq ▸ hu)
      omega
    · unfold IsHigh IsLow at *
      rw [heq, List.mem_cons, List.mem_singleton] at hu
      rcases hu with rfl | rfl <;> omega
  refine ⟨?_, ?_, ?_⟩
  · rintro rfl
    exact hnat.1 rfl
  · rintro rfl
    exact hnat.2.1 rfl
  · rintro rfl
    exact hnat.2.2 rfl

theorem Scanned.ends_or_refuses (h : Scanned units cs tail) : Ends tail ∨ Refuses tail := by
  rcases h.stop with hnil | ⟨u, rest, htail, hu⟩ | ⟨c, rest, hstop, htail⟩
  · exact Or.inl (Or.inl hnil)
  · exact Or.inr ⟨u, rest, htail, Or.inr (Or.inr hu)⟩
  · unfold Stops at hstop
    rcases encode_cases c with ⟨u, heq, hu, -⟩ | ⟨hi, lo, -, -, -, hc⟩
    · rw [heq, List.singleton_append] at htail
      rw [← hu] at hstop
      rcases hstop with hzero | hlast | hlast
      · have hu₀ : u = 0 := UInt16.toNat_inj.mp hzero
        exact Or.inl (Or.inr (by rw [htail, List.head?_cons, hu₀]))
      · exact Or.inr ⟨u, rest, htail, Or.inl (UInt16.toNat_inj.mp hlast)⟩
      · exact Or.inr ⟨u, rest, htail, Or.inr (Or.inl (UInt16.toNat_inj.mp hlast))⟩
    · omega

theorem Refuses.ne_zero (h : Refuses (u :: rest)) : u ≠ 0 := by
  obtain ⟨u', rest', heq, hu⟩ := h
  cases heq
  rintro rfl
  unfold IsHigh IsLow at hu
  rcases hu with h | h | h | h
  · cases h
  · cases h
  · exact absurd h.1 (by decide)
  · exact absurd h.1.1 (by decide)

theorem Refuses.not_ends (h : Refuses tail) : ¬Ends tail := by
  have hcopy := h
  obtain ⟨u, rest, rfl, -⟩ := hcopy
  rintro (hnil | hzero)
  · cases hnil
  · exact h.ne_zero (Option.some.inj hzero)

theorem converUnits_of_ended (h : cwc ≤ 0 ∨ rest.head? = some 0) :
    converUnits s_utf8 pwch rest cwc = endString s_utf8 pwch := by
  cases rest with
  | nil =>
      have hcwc : cwc ≤ 0 := h.resolve_right (by simp)
      rw [converUnits, if_pos hcwc]
  | cons u rest =>
      rw [converUnits.eq_def]
      dsimp only
      by_cases hcwc : cwc ≤ 0
      · rw [if_pos hcwc]
      · have hzero : u = 0 := Option.some.inj (h.resolve_left hcwc)
        rw [if_neg hcwc, if_pos (by rw [hzero]; rfl)]

theorem converUnits_of_refused {next : List UInt16} (hcwc : 0 < cwc)
    (h : u = 0xFFFE ∨ u = 0xFFFF ∨ IsLow u ∨
      (IsHigh u ∧ (cwc = 1 ∨ ∃ other more, next = other :: more ∧ ¬IsLow other))) :
    converUnits s_utf8 pwch (u :: next) cwc = some none := by
  rw [converUnits.eq_def]
  dsimp only
  rw [if_neg (by omega)]
  rcases h with rfl | rfl | ⟨hlow, hlow'⟩ | ⟨⟨hhigh, hhigh'⟩, hnext⟩
  · rfl
  · rfl
  · rw [if_neg (by omega), if_neg (by omega), if_pos hlow]
  · rw [if_neg (by omega), if_neg (by omega), if_neg (by omega)]
    rcases hnext with rfl | ⟨other, more, rfl, hother⟩
    · rfl
    · unfold IsLow at hother
      dsimp only
      rw [if_pos (show other.toNat < 0xDC00 ∨ 0xDFFF < other.toNat by omega), ite_self]

/-! ## What is written -/

/-- The array has as many units as the length, or a `NUL`. -/
def Covers (s_utf16 : List UInt16) (utf16_len : Int) : Prop :=
  utf16_len ≤ s_utf16.length ∨ 0 ∈ s_utf16

variable {malloc : Nat → Option (Nat → UInt8)} {bytes : Nat → UInt8} {s_utf16 : List UInt16}
  {utf16_len : Int}

/-- The block that is allocated. -/
def blockOf (bytes : Nat → UInt8) (utf16_len : Int) : List UInt8 :=
  (List.range (uint32 (utf16_len * 2 + 1))).map bytes

theorem converUTF16toUTF8_eq (hmalloc : malloc (uint32 (utf16_len * 2 + 1)) = some bytes)
    (hscanned : Scanned (s_utf16.take utf16_len.toNat) cs tail) :
    converUTF16toUTF8 malloc s_utf16 utf16_len =
      (store (blockOf bytes utf16_len) 0 (utf8 cs)).bind fun s_utf8 =>
        converUnits s_utf8 (utf8 cs).length (tail ++ s_utf16.drop utf16_len.toNat)
          (utf16_len - (encodeAll cs).length) := by
  have hunits : s_utf16 = encodeAll cs ++ (tail ++ s_utf16.drop utf16_len.toNat) := by
    rw [← List.append_assoc, ← hscanned.split, List.take_append_drop]
  unfold converUTF16toUTF8
  dsimp only
  rw [hmalloc]
  have hroom : (encodeAll cs).length ≤ utf16_len.toNat := by
    have hlength := congrArg List.length hscanned.split
    rw [List.length_take, List.length_append] at hlength
    omega
  have hrun : converUnits (blockOf bytes utf16_len) 0
      (encodeAll cs ++ (tail ++ s_utf16.drop utf16_len.toNat)) utf16_len = _ :=
    converUnits_encodeAll_append cs hscanned.go (Nat.zero_le _) hroom
  rw [← hunits] at hrun
  simp only [Nat.zero_add] at hrun
  exact hrun

/-- Behind the characters the conversion is at the end of the string, if that ends there. -/
theorem Scanned.ended (hscanned : Scanned (s_utf16.take utf16_len.toNat) cs tail)
    (hcovers : Covers s_utf16 utf16_len) (hends : Ends tail) :
    utf16_len - (encodeAll cs).length ≤ 0 ∨
      (tail ++ s_utf16.drop utf16_len.toNat).head? = some 0 := by
  have hsplit := hscanned.split
  rcases hends with rfl | hzero
  · rw [List.append_nil] at hsplit
    by_cases hlen : utf16_len ≤ s_utf16.length
    · have hlength := congrArg List.length hsplit
      rw [List.length_take] at hlength
      omega
    · -- the whole array is converted, and has no `NUL`
      have hmem : 0 ∈ s_utf16 := hcovers.resolve_left hlen
      rw [List.take_of_length_le (by omega)] at hsplit
      exact absurd rfl (ne_of_mem_encodeAll hscanned.go (hsplit ▸ hmem)).1
  · refine Or.inr ?_
    cases tail with
    | nil => cases hzero
    | cons u rest => exact hzero

theorem Scanned.refused (hscanned : Scanned (s_utf16.take utf16_len.toNat) cs tail)
    (hcovers : Covers s_utf16 utf16_len) (hrefuses : Refuses tail) (pwch : Nat) :
    converUnits s_utf8 pwch (tail ++ s_utf16.drop utf16_len.toNat)
      (utf16_len - (encodeAll cs).length) = some none := by
  have hne := hrefuses
  obtain ⟨u, rest, rfl, hu⟩ := hrefuses
  have hsplit := hscanned.split
  have hlength := congrArg List.length hsplit
  rw [List.length_take, List.length_append, List.length_cons] at hlength
  rw [List.cons_append]
  refine converUnits_of_refused (by omega) ?_
  refine hu.imp id (Or.imp id (Or.imp id (And.imp id fun hnext => ?_)))
  -- behind a high surrogate there is another unit, or the array ends
  cases rest with
  | cons other more => exact Or.inr ⟨other, more ++ _, rfl, hnext other rfl⟩
  | nil =>
      refine Or.inl ?_
      by_cases hlen : utf16_len ≤ s_utf16.length
      · rw [List.length_nil] at hlength
        omega
      · have hmem : 0 ∈ s_utf16 := hcovers.resolve_left hlen
        rw [List.take_of_length_le (by omega)] at hsplit
        rw [hsplit, List.mem_append, List.mem_singleton] at hmem
        rcases hmem with hmem | rfl
        · exact absurd rfl (ne_of_mem_encodeAll hscanned.go hmem).1
        · exact absurd rfl hne.ne_zero

/-- The characters and the terminator are written. -/
theorem converUTF16toUTF8_of_string (hmalloc : malloc (uint32 (utf16_len * 2 + 1)) = some bytes)
    (hscanned : Scanned (s_utf16.take utf16_len.toNat) cs tail)
    (hcovers : Covers s_utf16 utf16_len) (hends : Ends tail) :
    converUTF16toUTF8 malloc s_utf16 utf16_len =
      (store (blockOf bytes utf16_len) 0 (utf8 cs ++ [0])).map some := by
  rw [converUTF16toUTF8_eq hmalloc hscanned, store_append_piece, Option.map_bind]
  simp only [converUnits_of_ended (hscanned.ended hcovers hends), Nat.zero_add]
  rfl

/-- The characters are written, and there is no string. -/
theorem converUTF16toUTF8_of_null (hmalloc : malloc (uint32 (utf16_len * 2 + 1)) = some bytes)
    (hscanned : Scanned (s_utf16.take utf16_len.toNat) cs tail)
    (hcovers : Covers s_utf16 utf16_len) (hrefuses : Refuses tail) :
    converUTF16toUTF8 malloc s_utf16 utf16_len =
      (store (blockOf bytes utf16_len) 0 (utf8 cs)).map fun _ => none := by
  rw [converUTF16toUTF8_eq hmalloc hscanned, Option.map_eq_bind]
  simp only [hscanned.refused hcovers hrefuses]
  rfl

/-! ## The answer -/

/-- The units before the first `NUL`, or the end. -/
def text (s_utf16 : List UInt16) (utf16_len : Int) : List UInt16 :=
  (s_utf16.take utf16_len.toNat).takeWhile (· != 0)

/-- An unpaired surrogate, or one of the two units that are refused. -/
def Malformed (units : List UInt16) : Prop :=
  HasUnpaired units ∨ 0xFFFE ∈ units ∨ 0xFFFF ∈ units

/-- The answer is the string in UTF-8, or `NULL` for those that are malformed. -/
def Converts (malloc : Nat → Option (Nat → UInt8)) (s_utf16 : List UInt16) (utf16_len : Int) :
    Prop :=
  ∃ res, converUTF16toUTF8 malloc s_utf16 utf16_len = some res ∧
    (∀ s_utf8, res = some s_utf8 → ∃ cs, text s_utf16 utf16_len = encodeAll cs ∧
      0 ∈ s_utf8 ∧ s_utf8.takeWhile (· != 0) = utf8 cs) ∧
    (res = none ↔ Malformed (text s_utf16 utf16_len))

/-- Up to where the conversion ends there are no more characters of three bytes than the characters
of one byte and the units that are left make up for. -/
def Fits (s_utf16 : List UInt16) (utf16_len : Int) : Prop :=
  ∃ cs tail, Scanned (s_utf16.take utf16_len.toNat) cs tail ∧
    cs.countP (·.utf8Size = 3) ≤ cs.countP (·.utf8Size = 1) +
      2 * (utf16_len.toNat - (encodeAll cs).length) + if Ends tail then 0 else 1

theorem takeWhile_encodeAll_append (hgo : ∀ c ∈ cs, ¬Stops c) (tail : List UInt16) :
    (encodeAll cs ++ tail).takeWhile (· != 0) = encodeAll cs ++ tail.takeWhile (· != 0) := by
  refine List.takeWhile_append_of_pos fun u hu => ?_
  simpa using (ne_of_mem_encodeAll hgo hu).1

theorem Scanned.text_of_ends (hscanned : Scanned (s_utf16.take utf16_len.toNat) cs tail)
    (hends : Ends tail) : text s_utf16 utf16_len = encodeAll cs := by
  rw [text, hscanned.split, takeWhile_encodeAll_append hscanned.go]
  rcases hends with rfl | hzero
  · simp
  · cases tail with
    | nil => cases hzero
    | cons u rest => simp [Option.some.inj hzero]

theorem not_malformed_encodeAll (hgo : ∀ c ∈ cs, ¬Stops c) : ¬Malformed (encodeAll cs) := by
  rintro (hunpaired | hlast | hlast)
  · exact not_hasUnpaired_encodeAll cs hunpaired
  · exact (ne_of_mem_encodeAll hgo hlast).2.1 rfl
  · exact (ne_of_mem_encodeAll hgo hlast).2.2 rfl

theorem Scanned.malformed_of_refuses (hscanned : Scanned (s_utf16.take utf16_len.toNat) cs tail)
    (hrefuses : Refuses tail) : Malformed (text s_utf16 utf16_len) := by
  have hne := hrefuses
  obtain ⟨u, rest, rfl, hu⟩ := hrefuses
  have htext : text s_utf16 utf16_len = encodeAll cs ++ u :: rest.takeWhile (· != 0) := by
    rw [text, hscanned.split, takeWhile_encodeAll_append hscanned.go,
      List.takeWhile_cons_of_pos (by simpa using hne.ne_zero)]
  rw [htext]
  rcases hu with rfl | rfl | hsurrogate
  · exact Or.inr (Or.inl (by simp))
  · exact Or.inr (Or.inr (by simp))
  · refine Or.inl ((hasUnpaired_encodeAll_append cs _).mpr (hasUnpaired_of_head ?_))
    refine ⟨u, _, rfl, hsurrogate.imp id (And.imp id fun hnext lo hlo => ?_)⟩
    cases rest with
    | nil => cases hlo
    | cons other more =>
        by_cases hzero : other = 0
        · rw [List.takeWhile_cons_of_neg (by simp [hzero])] at hlo
          cases hlo
        · rw [List.takeWhile_cons_of_pos (by simpa using hzero)] at hlo
          exact hnext lo hlo

theorem length_blockOf (bytes : Nat → UInt8) (utf16_len : Int) :
    (blockOf bytes utf16_len).length = uint32 (utf16_len * 2 + 1) := by
  rw [blockOf, List.length_map, List.length_range]

/-- What is written fits the block: the characters, and one byte more or none. -/
theorem Scanned.exists_store_iff_count (hscanned : Scanned (s_utf16.take utf16_len.toNat) cs tail)
    (hlow : -0x80000000 ≤ utf16_len) (hhigh : utf16_len < 0x80000000) {written : List UInt8}
    {terminator : Nat} (hwritten : written.length = (utf8 cs).length + terminator)
    (hterminator : terminator ≤ 1) :
    (∃ s₁, store (blockOf bytes utf16_len) 0 written = some s₁) ↔
      cs.countP (·.utf8Size = 3) ≤ cs.countP (·.utf8Size = 1) +
        2 * (utf16_len.toNat - (encodeAll cs).length) + (1 - terminator) := by
  have hlength := congrArg List.length hscanned.split
  rw [List.length_take, List.length_append] at hlength
  have hsizes := length_utf8_add cs
  rw [exists_store_iff, Nat.zero_add, hwritten, length_blockOf]
  by_cases hpositive : 0 ≤ utf16_len
  · have hsize := uint32_eq (x := utf16_len * 2 + 1) (by omega) (by omega)
    omega
  · -- without units one byte is written at most, and the size is odd
    have hnil : cs = [] := by
      refine List.eq_nil_iff_forall_not_mem.mpr fun c hc => ?_
      have hempty : encodeAll cs = [] := List.length_eq_zero_iff.mp (by omega)
      exact encode_ne_nil c (List.flatMap_eq_nil_iff.mp hempty c hc)
    have hodd : 1 ≤ uint32 (utf16_len * 2 + 1) := by
      unfold uint32
      omega
    rw [hnil] at hsizes ⊢
    simp only [utf8, List.flatMap_nil, List.length_nil, List.countP_nil]
    omega

/-- The block begins with the string, if that is written. -/
theorem string_of_store {s₁ : List UInt8} (hgo : ∀ c ∈ cs, ¬Stops c)
    (h : store (blockOf bytes utf16_len) 0 (utf8 cs ++ [0]) = some s₁) :
    0 ∈ s₁ ∧ s₁.takeWhile (· != 0) = utf8 cs := by
  have hbytes : ∀ b ∈ utf8 cs, b ≠ 0 :=
    utf8_ne_zero fun c hc hzero => hgo c hc (Or.inl hzero)
  have htake := take_store h
  rw [Nat.zero_add, List.take_zero, List.nil_append] at htake
  have hsplit := List.take_append_drop (utf8 cs ++ [0]).length s₁
  rw [htake, List.append_assoc, List.singleton_append] at hsplit
  rw [← hsplit]
  exact ⟨by simp, CString.takeWhile_append_cons hbytes _⟩

theorem Scanned.converts_iff_count (hscanned : Scanned (s_utf16.take utf16_len.toNat) cs tail)
    (hlow : -0x80000000 ≤ utf16_len) (hhigh : utf16_len < 0x80000000)
    (hcovers : Covers s_utf16 utf16_len)
    (hmalloc : malloc (uint32 (utf16_len * 2 + 1)) = some bytes) :
    Converts malloc s_utf16 utf16_len ↔
      cs.countP (·.utf8Size = 3) ≤ cs.countP (·.utf8Size = 1) +
        2 * (utf16_len.toNat - (encodeAll cs).length) + if Ends tail then 0 else 1 := by
  unfold Converts
  rcases hscanned.ends_or_refuses with hends | hrefuses
  · have hstored : (∃ s₁, store (blockOf bytes utf16_len) 0 (utf8 cs ++ [0]) = some s₁) ↔ _ :=
      hscanned.exists_store_iff_count hlow hhigh List.length_append (Nat.le_refl 1)
    rw [if_pos hends, converUTF16toUTF8_of_string hmalloc hscanned hcovers hends,
      hscanned.text_of_ends hends]
    refine Iff.trans ?_ hstored
    constructor
    · rintro ⟨res, hres, -⟩
      obtain ⟨s₁, hstore, -⟩ := Option.map_eq_some_iff.mp hres
      exact ⟨s₁, hstore⟩
    · rintro ⟨s₁, hstore⟩
      rw [hstore, Option.map_some]
      refine ⟨some s₁, rfl, ?_, iff_of_false (by simp) (not_malformed_encodeAll hscanned.go)⟩
      intro s_utf8 heq
      cases heq
      exact ⟨cs, rfl, string_of_store hscanned.go hstore⟩
  · have hstored : (∃ s₁, store (blockOf bytes utf16_len) 0 (utf8 cs) = some s₁) ↔ _ :=
      hscanned.exists_store_iff_count hlow hhigh (Nat.add_zero _).symm (Nat.zero_le 1)
    rw [if_neg hrefuses.not_ends, converUTF16toUTF8_of_null hmalloc hscanned hcovers hrefuses]
    refine Iff.trans ?_ hstored
    constructor
    · rintro ⟨res, hres, -⟩
      obtain ⟨s₁, hstore, -⟩ := Option.map_eq_some_iff.mp hres
      exact ⟨s₁, hstore⟩
    · rintro ⟨s₁, hstore⟩
      rw [hstore, Option.map_some]
      refine ⟨none, rfl, ?_, iff_of_true rfl (hscanned.malformed_of_refuses hrefuses)⟩
      intro s_utf8 heq
      cases heq

theorem Fits.converts (h : Fits s_utf16 utf16_len) (hlow : -0x80000000 ≤ utf16_len)
    (hhigh : utf16_len < 0x80000000) (hcovers : Covers s_utf16 utf16_len)
    (hmalloc : malloc (uint32 (utf16_len * 2 + 1)) ≠ none) :
    Converts malloc s_utf16 utf16_len := by
  obtain ⟨bytes, hbytes⟩ := Option.ne_none_iff_exists'.mp hmalloc
  obtain ⟨cs, tail, hscanned, hcount⟩ := h
  exact (hscanned.converts_iff_count hlow hhigh hcovers hbytes).mpr hcount

/-- Every array of units is converted as UTF-8 demands, or refused, exactly when what is written of
it fits the block. -/
theorem converts_iff (hlow : -0x80000000 ≤ utf16_len) (hhigh : utf16_len < 0x80000000)
    (hcovers : Covers s_utf16 utf16_len)
    (hmalloc : malloc (uint32 (utf16_len * 2 + 1)) ≠ none) :
    Converts malloc s_utf16 utf16_len ↔ Fits s_utf16 utf16_len := by
  refine ⟨fun h => ?_, fun h => h.converts hlow hhigh hcovers hmalloc⟩
  obtain ⟨bytes, hbytes⟩ := Option.ne_none_iff_exists'.mp hmalloc
  obtain ⟨cs, tail, hscanned⟩ := exists_scanned (s_utf16.take utf16_len.toNat)
  exact ⟨cs, tail, hscanned, (hscanned.converts_iff_count hlow hhigh hcovers hbytes).mp h⟩

/-- A letter and a character of three bytes fit. -/
theorem converts_pair : Converts (fun _ => some fun _ => 0x66) [0x61, 0x4E2D] 2 := by
  refine (converts_iff (by decide) (by decide) (Or.inl (by decide)) (by simp)).mpr ?_
  refine ⟨['a', '中'], [], ⟨rfl, ?_, Or.inl rfl⟩, by decide⟩
  intro c hc
  simp only [List.mem_cons, List.not_mem_nil, or_false] at hc
  rcases hc with rfl | rfl
  · unfold Stops
    decide
  · unfold Stops
    decide

/-- Two characters of three bytes and the terminator do not fit a block of five. -/
theorem not_converts : ¬∀ (malloc : Nat → Option (Nat → UInt8)) (s_utf16 : List UInt16)
    (utf16_len : Int), -0x80000000 ≤ utf16_len → utf16_len < 0x80000000 →
      Covers s_utf16 utf16_len → malloc (uint32 (utf16_len * 2 + 1)) ≠ none →
        Converts malloc s_utf16 utf16_len := by
  intro h
  have hnone : converUTF16toUTF8 (fun _ => some fun _ => 0x66) [0x4E2D, 0x6587] 2 = none := by
    decide
  obtain ⟨res, hres, -⟩ := h (fun _ => some fun _ => 0x66) [0x4E2D, 0x6587] 2 (by decide)
    (by decide) (Or.inl (by decide)) (by simp)
  rw [hnone] at hres
  cases hres

end BdVbox
end DeviceAndroVM
