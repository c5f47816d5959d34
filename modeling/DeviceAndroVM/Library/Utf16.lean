import Mathlib.Data.List.Basic
import Mathlib.Data.UInt

/-!
# UTF-16

Characters as units of 16 bits, and what such units are that are no characters.

* `encode`, `encodeAll` — the units of a character, and of a string.
* `HasUnpaired` — a surrogate without the other half.
* `UnpairedHead` — the first unit is one.
* `encodeAll_injective` — the units of a string determine it.
* `head_cases` — units begin with a character, or with such a surrogate.
* `exists_scan` — characters up to the end, or to a place where a reader stops.
* `utf8` — the bytes of the same characters; `length_utf8_add` — how many these are.
-/

namespace DeviceAndroVM
namespace Library
namespace Utf16

def IsHigh (u : UInt16) : Prop := 0xD800 ≤ u.toNat ∧ u.toNat ≤ 0xDBFF

def IsLow (u : UInt16) : Prop := 0xDC00 ≤ u.toNat ∧ u.toNat ≤ 0xDFFF

/-- The units of a character. -/
def encode (c : Char) : List UInt16 :=
  if c.toNat < 0x10000 then [UInt16.ofNat c.toNat]
  else
    [UInt16.ofNat (0xD800 + (c.toNat - 0x10000) / 0x400),
      UInt16.ofNat (0xDC00 + (c.toNat - 0x10000) % 0x400)]

/-- The units of a string. -/
def encodeAll (cs : List Char) : List UInt16 := cs.flatMap encode

def HighAt (units : List UInt16) (i : Nat) : Prop := ∃ u, units[i]? = some u ∧ IsHigh u

def LowAt (units : List UInt16) (i : Nat) : Prop := ∃ u, units[i]? = some u ∧ IsLow u

/-- A surrogate that its other half does not follow, or precede. -/
def HasUnpaired (units : List UInt16) : Prop :=
  ∃ i, (HighAt units i ∧ ¬LowAt units (i + 1)) ∨
    (LowAt units i ∧ ∀ j, j + 1 = i → ¬HighAt units j)

/-- The first unit is a surrogate that has no other half. -/
def UnpairedHead (units : List UInt16) : Prop :=
  ∃ u rest, units = u :: rest ∧
    (IsLow u ∨ (IsHigh u ∧ ∀ lo, rest.head? = some lo → ¬IsLow lo))

variable {u hi lo : UInt16} {units rest : List UInt16} {c : Char}

/-! ## Characters -/

theorem toNat_lt (c : Char) : c.toNat < 0xD800 ∨ 0xDFFF < c.toNat ∧ c.toNat < 0x110000 := c.valid

/-- A character is a unit that is no surrogate, or a pair of surrogates. -/
theorem encode_cases (c : Char) :
    (∃ u, encode c = [u] ∧ u.toNat = c.toNat ∧ ¬IsHigh u ∧ ¬IsLow u) ∨
      ∃ hi lo, encode c = [hi, lo] ∧ IsHigh hi ∧ IsLow lo ∧
        c.toNat = 0x10000 + (hi.toNat - 0xD800) * 0x400 + (lo.toNat - 0xDC00) := by
  have hvalid := toNat_lt c
  unfold encode IsHigh IsLow
  -- the surrogates lie between the characters of one unit
  by_cases hsmall : c.toNat < 0x10000
  · rw [if_pos hsmall]
    refine Or.inl ⟨_, rfl, ?_⟩
    rw [UInt16.toNat_ofNat', Nat.mod_eq_of_lt (by omega)]
    omega
  · rw [if_neg hsmall]
    refine Or.inr ⟨_, _, rfl, ?_⟩
    rw [UInt16.toNat_ofNat', UInt16.toNat_ofNat', Nat.mod_eq_of_lt (by omega),
      Nat.mod_eq_of_lt (by omega)]
    omega

theorem exists_encode_eq_single (hhigh : ¬IsHigh u) (hlow : ¬IsLow u) :
    ∃ c, encode c = [u] ∧ c.toNat = u.toNat := by
  have hlt := u.toNat_lt
  have hvalid : u.toNat.isValidChar := by
    unfold IsHigh IsLow at *
    unfold Nat.isValidChar
    omega
  have hchar : (Char.ofNat u.toNat).toNat = u.toNat := by
    rw [Char.ofNat, dif_pos hvalid]
    rfl
  refine ⟨Char.ofNat u.toNat, ?_, hchar⟩
  rw [encode, hchar, if_pos (by omega), UInt16.ofNat_toNat]

theorem exists_encode_eq_pair (hhigh : IsHigh hi) (hlow : IsLow lo) :
    ∃ c, encode c = [hi, lo] := by
  obtain ⟨hhigh, hhigh'⟩ := hhigh
  obtain ⟨hlow, hlow'⟩ := hlow
  let v := 0x10000 + (hi.toNat - 0xD800) * 0x400 + (lo.toNat - 0xDC00)
  have hv : v = 0x10000 + (hi.toNat - 0xD800) * 0x400 + (lo.toNat - 0xDC00) := rfl
  have hvalid : v.isValidChar := by
    unfold Nat.isValidChar
    omega
  have hchar : (Char.ofNat v).toNat = v := by
    rw [Char.ofNat, dif_pos hvalid]
    rfl
  refine ⟨Char.ofNat v, ?_⟩
  rw [encode, hchar, if_neg (by omega)]
  have hfirst : 0xD800 + (v - 0x10000) / 0x400 = hi.toNat := by omega
  have hsecond : 0xDC00 + (v - 0x10000) % 0x400 = lo.toNat := by omega
  rw [hfirst, hsecond, UInt16.ofNat_toNat, UInt16.ofNat_toNat]

theorem encode_ne_nil (c : Char) : encode c ≠ [] := by
  rcases encode_cases c with ⟨u, h, -⟩ | ⟨hi, lo, h, -⟩ <;> simp [h]

/-- Units begin with a character, or with a surrogate that is no half of one. -/
theorem head_cases (units : List UInt16) :
    units = [] ∨ UnpairedHead units ∨ ∃ c rest, units = encode c ++ rest := by
  cases units with
  | nil => exact Or.inl rfl
  | cons u rest =>
      refine Or.inr ?_
      by_cases hlow : IsLow u
      · exact Or.inl ⟨u, rest, rfl, Or.inl hlow⟩
      · by_cases hhigh : IsHigh u
        · by_cases hnext : ∃ lo, rest.head? = some lo ∧ IsLow lo
          · obtain ⟨lo, hhead, hlow'⟩ := hnext
            obtain ⟨c, hc⟩ := exists_encode_eq_pair hhigh hlow'
            refine Or.inr ⟨c, rest.tail, ?_⟩
            rw [hc, List.cons_append, List.singleton_append, List.cons_head?_tail hhead]
          · refine Or.inl ⟨u, rest, rfl, Or.inr ⟨hhigh, ?_⟩⟩
            exact fun lo hhead hlow' => hnext ⟨lo, hhead, hlow'⟩
        · obtain ⟨c, hc, -⟩ := exists_encode_eq_single hhigh hlow
          exact Or.inr ⟨c, rest, by rw [hc, List.singleton_append]⟩

/-- A reader takes characters up to the end, to a surrogate that is no half of one, or to a
character at which it stops. -/
theorem exists_scan (stop : Char → Prop) (units : List UInt16) :
    ∃ cs tail, units = encodeAll cs ++ tail ∧ (∀ c ∈ cs, ¬stop c) ∧
      (tail = [] ∨ UnpairedHead tail ∨ ∃ c rest, stop c ∧ tail = encode c ++ rest) := by
  rcases head_cases units with rfl | hunpaired | ⟨c, rest, rfl⟩
  · exact ⟨[], [], rfl, by simp, Or.inl rfl⟩
  · exact ⟨[], units, rfl, by simp, Or.inr (Or.inl hunpaired)⟩
  · by_cases hstop : stop c
    · exact ⟨[], encode c ++ rest, rfl, by simp, Or.inr (Or.inr ⟨c, rest, hstop, rfl⟩)⟩
    · have hshorter : rest.length < (encode c ++ rest).length := by
        have hpositive := List.length_pos_iff.mpr (encode_ne_nil c)
        rw [List.length_append]
        omega
      obtain ⟨cs, tail, hsplit, hgo, hend⟩ := exists_scan stop rest
      refine ⟨c :: cs, tail, ?_, ?_, hend⟩
      · rw [hsplit, encodeAll, encodeAll, List.flatMap_cons, List.append_assoc]
      · intro d hd
        rcases List.mem_cons.mp hd with rfl | hd
        · exact hstop
        · exact hgo d hd
termination_by units.length

/-- The first character of a string is known by its units. -/
theorem encode_append_cancel {c d : Char} {rest rest' : List UInt16}
    (h : encode c ++ rest = encode d ++ rest') : c = d ∧ rest = rest' := by
  have hinj : ∀ {c d : Char}, c.toNat = d.toNat → c = d := fun h => Char.ext (UInt32.toNat_inj.mp h)
  rcases encode_cases c with ⟨u, hc, hu, hhigh, -⟩ | ⟨hi, lo, hc, hhigh, -, hcode⟩
  · rcases encode_cases d with ⟨u', hd, hu', -⟩ | ⟨hi', lo', hd, hhigh', -⟩
    · rw [hc, hd] at h
      obtain ⟨rfl, rfl⟩ := List.cons.inj h
      exact ⟨hinj (hu.symm.trans hu'), rfl⟩
    · rw [hc, hd] at h
      obtain ⟨rfl, -⟩ := List.cons.inj h
      exact absurd hhigh' hhigh
  · rcases encode_cases d with ⟨u', hd, -, hhigh', -⟩ | ⟨hi', lo', hd, -, -, hcode'⟩
    · rw [hc, hd] at h
      obtain ⟨rfl, -⟩ := List.cons.inj h
      exact absurd hhigh hhigh'
    · rw [hc, hd] at h
      obtain ⟨rfl, htail⟩ := List.cons.inj h
      obtain ⟨rfl, rfl⟩ := List.cons.inj htail
      exact ⟨hinj (hcode.trans hcode'.symm), rfl⟩

/-- No two strings have the same units. -/
theorem encodeAll_injective {cs ds : List Char} (h : encodeAll cs = encodeAll ds) : cs = ds := by
  unfold encodeAll at h
  induction cs generalizing ds with
  | nil =>
      cases ds with
      | nil => rfl
      | cons d ds => simp [encode_ne_nil] at h
  | cons c cs ih =>
      cases ds with
      | nil => simp [encode_ne_nil] at h
      | cons d ds =>
          rw [List.flatMap_cons, List.flatMap_cons] at h
          obtain ⟨rfl, hrest⟩ := encode_append_cancel h
          rw [ih hrest]

/-! ## Surrogates -/

@[simp] theorem highAt_cons_zero : HighAt (u :: rest) 0 ↔ IsHigh u := by simp [HighAt]

@[simp] theorem lowAt_cons_zero : LowAt (u :: rest) 0 ↔ IsLow u := by simp [LowAt]

@[simp] theorem highAt_cons_succ (i : Nat) : HighAt (u :: rest) (i + 1) ↔ HighAt rest i := by
  simp [HighAt]

@[simp] theorem lowAt_cons_succ (i : Nat) : LowAt (u :: rest) (i + 1) ↔ LowAt rest i := by
  simp [LowAt]

theorem lowAt_zero_iff : LowAt rest 0 ↔ ∃ lo, rest.head? = some lo ∧ IsLow lo := by
  simp [LowAt, List.head?_eq_getElem?]

theorem not_isHigh_of_isLow (h : IsLow u) : ¬IsHigh u := by
  unfold IsHigh IsLow at *
  omega

theorem hasUnpaired_of_head (h : UnpairedHead units) : HasUnpaired units := by
  obtain ⟨u, rest, rfl, hlow | ⟨hhigh, hnext⟩⟩ := h
  · refine ⟨0, Or.inr ⟨lowAt_cons_zero.mpr hlow, ?_⟩⟩
    intro j hj
    omega
  · refine ⟨0, Or.inl ⟨highAt_cons_zero.mpr hhigh, ?_⟩⟩
    rw [lowAt_cons_succ, lowAt_zero_iff]
    rintro ⟨lo, hhead, hlow⟩
    exact hnext lo hhead hlow

/-- A unit that is no surrogate does not matter for those behind it. -/
theorem hasUnpaired_cons_iff (hhigh : ¬IsHigh u) (hpaired : ¬IsLow u) :
    HasUnpaired (u :: rest) ↔ HasUnpaired rest := by
  constructor
  · rintro ⟨i, h⟩
    cases i with
    | zero => simp [hhigh, hpaired] at h
    | succ i =>
        -- the halves move by one place together
        refine ⟨i, h.imp (by simp) ?_⟩
        rintro ⟨hlow, hfirst⟩
        refine ⟨(lowAt_cons_succ i).mp hlow, fun j hj hat => ?_⟩
        exact hfirst (j + 1) (by omega) ((highAt_cons_succ j).mpr hat)
  · rintro ⟨i, h⟩
    refine ⟨i + 1, h.imp (by simp) ?_⟩
    rintro ⟨hlow, hfirst⟩
    refine ⟨(lowAt_cons_succ i).mpr hlow, fun j hj hat => ?_⟩
    cases j with
    | zero => exact hhigh (highAt_cons_zero.mp hat)
    | succ j => exact hfirst j (by omega) ((highAt_cons_succ j).mp hat)

theorem hasUnpaired_pair_iff (hhigh : IsHigh hi) (hlow : IsLow lo) :
    HasUnpaired (hi :: lo :: rest) ↔ HasUnpaired rest := by
  have hnot := not_isHigh_of_isLow hlow
  constructor
  · rintro ⟨i, h⟩
    match i with
    | 0 =>
        rcases h with ⟨-, hnext⟩ | ⟨hat, -⟩
        · exact absurd hlow (by simpa using hnext)
        · exact absurd hhigh (not_isHigh_of_isLow (lowAt_cons_zero.mp hat))
    | 1 =>
        rcases h with ⟨hat, -⟩ | ⟨-, hfirst⟩
        · exact absurd (by simpa using hat) hnot
        · exact absurd (highAt_cons_zero.mpr hhigh) (hfirst 0 rfl)
    | i + 2 =>
        refine ⟨i, h.imp (by simp) ?_⟩
        rintro ⟨hat, hfirst⟩
        refine ⟨by simpa using hat, fun j hj hat' => ?_⟩
        exact hfirst (j + 2) (by omega) (by simpa using hat')
  · rintro ⟨i, h⟩
    refine ⟨i + 2, h.imp (by simp) ?_⟩
    rintro ⟨hat, hfirst⟩
    refine ⟨by simpa using hat, fun j hj hat' => ?_⟩
    match j with
    | 0 => omega
    | 1 => exact hnot (by simpa using hat')
    | j + 2 => exact hfirst j (by omega) (by simpa using hat')

theorem hasUnpaired_encode_append (c : Char) :
    HasUnpaired (encode c ++ rest) ↔ HasUnpaired rest := by
  rcases encode_cases c with ⟨u, h, -, hhigh, hlow⟩ | ⟨hi, lo, h, hhigh, hlow, -⟩
  · rw [h]
    exact hasUnpaired_cons_iff hhigh hlow
  · rw [h]
    exact hasUnpaired_pair_iff hhigh hlow

/-- The surrogates of characters are all paired. -/
theorem hasUnpaired_encodeAll_append (cs : List Char) (tail : List UInt16) :
    HasUnpaired (encodeAll cs ++ tail) ↔ HasUnpaired tail := by
  induction cs with
  | nil => rfl
  | cons c cs ih =>
      rw [encodeAll, List.flatMap_cons, List.append_assoc, hasUnpaired_encode_append]
      exact ih

theorem not_hasUnpaired_encodeAll (cs : List Char) : ¬HasUnpaired (encodeAll cs) := by
  rw [← List.append_nil (encodeAll cs), hasUnpaired_encodeAll_append]
  rintro ⟨i, ⟨⟨u, h, -⟩, -⟩ | ⟨⟨u, h, -⟩, -⟩⟩ <;> cases h

/-! ## The same characters in UTF-8 -/

/-- The bytes of a string in UTF-8. -/
def utf8 (cs : List Char) : List UInt8 := cs.flatMap String.utf8EncodeChar

theorem length_utf8 (cs : List Char) : (utf8 cs).length = (cs.map Char.utf8Size).sum := by
  simp [utf8, List.length_flatMap]

theorem utf8_cons (c : Char) (cs : List Char) :
    utf8 (c :: cs) = String.utf8EncodeChar c ++ utf8 cs := List.flatMap_cons

/-- Only the character `NUL` has a byte that is zero. -/
theorem utf8EncodeChar_ne_zero (hc : c.toNat ≠ 0) : ∀ b ∈ String.utf8EncodeChar c, b ≠ 0 := by
  have hbyte : ∀ n : Nat, 0 < n → n < 256 → UInt8.ofNat n ≠ 0 := by
    intro n hpositive hlt hzero
    have hnat := congrArg UInt8.toNat hzero
    rw [UInt8.toNat_ofNat', Nat.mod_eq_of_lt (by omega)] at hnat
    exact hpositive.ne' hnat
  have hvalid := toNat_lt c
  change c.val.toNat ≠ 0 at hc
  unfold String.utf8EncodeChar
  dsimp only
  split
  · intro b hb
    obtain rfl := List.mem_singleton.mp hb
    exact hbyte _ (by omega) (by omega)
  · split
    · simp only [List.forall_mem_cons, List.not_mem_nil, false_imp_iff, implies_true, and_true]
      exact ⟨hbyte _ (by omega) (by omega), hbyte _ (by omega) (by omega)⟩
    · split
      · simp only [List.forall_mem_cons, List.not_mem_nil, false_imp_iff, implies_true, and_true]
        exact ⟨hbyte _ (by omega) (by omega), hbyte _ (by omega) (by omega),
          hbyte _ (by omega) (by omega)⟩
      · simp only [List.forall_mem_cons, List.not_mem_nil, false_imp_iff, implies_true, and_true]
        exact ⟨hbyte _ (by omega) (by omega), hbyte _ (by omega) (by omega),
          hbyte _ (by omega) (by omega), hbyte _ (by omega) (by omega)⟩

theorem utf8_ne_zero {cs : List Char} (hcs : ∀ c ∈ cs, c.toNat ≠ 0) : ∀ b ∈ utf8 cs, b ≠ 0 := by
  intro b hb
  obtain ⟨c, hc, hb⟩ := List.mem_flatMap.mp hb
  exact utf8EncodeChar_ne_zero (hcs c hc) b hb

/-- How the sizes of a character in the two encodings differ. -/
theorem utf8Size_add (c : Char) :
    c.utf8Size + (if c.utf8Size = 1 then 1 else 0) =
      2 * (encode c).length + if c.utf8Size = 3 then 1 else 0 := by
  have hlength : (encode c).length = if c.toNat < 0x10000 then 1 else 2 := by
    unfold encode
    split <;> rfl
  have hnat : c.toNat = c.val.toNat := rfl
  rw [hlength, hnat]
  rcases c.utf8Size_eq with h | h | h | h
  · have hbound := UInt32.le_iff_toNat_le.mp (Char.utf8Size_eq_one_iff.mp h)
    have hsmall : c.val.toNat < 0x10000 := lt_of_le_of_lt hbound (by decide)
    rw [h, if_pos rfl, if_pos hsmall, if_neg (by decide)]
  · have hbound := UInt32.le_iff_toNat_le.mp (Char.utf8Size_eq_two_iff.mp h).2
    have hsmall : c.val.toNat < 0x10000 := lt_of_le_of_lt hbound (by decide)
    rw [h, if_neg (by decide), if_pos hsmall, if_neg (by decide)]
  · have hbound := UInt32.le_iff_toNat_le.mp (Char.utf8Size_eq_three_iff.mp h).2
    have hsmall : c.val.toNat < 0x10000 := lt_of_le_of_lt hbound (by decide)
    rw [h, if_neg (by decide), if_pos hsmall, if_pos rfl]
  · have hbound := UInt32.lt_iff_toNat_lt.mp (Char.utf8Size_eq_four_iff.mp h)
    have hlarge : ¬c.val.toNat < 0x10000 := Nat.not_lt.mpr hbound
    rw [h, if_neg (by decide), if_neg hlarge, if_neg (by decide)]

/-- The bytes of a string, by the units of the same string. -/
theorem length_utf8_add (cs : List Char) :
    (utf8 cs).length + cs.countP (·.utf8Size = 1) =
      2 * (encodeAll cs).length + cs.countP (·.utf8Size = 3) := by
  induction cs with
  | nil => rfl
  | cons c cs ih =>
      have hc := utf8Size_add c
      rw [utf8_cons, List.length_append, String.length_utf8EncodeChar, encodeAll,
        List.flatMap_cons, List.length_append, List.countP_cons, List.countP_cons]
      rw [encodeAll] at ih
      simp only [decide_eq_true_eq]
      omega

end Utf16
end Library
end DeviceAndroVM
