import Mathlib.Algebra.Order.BigOperators.Group.List
import Mathlib.Algebra.Order.Group.Nat
import DeviceAndroVM.GLESv2Enc.ShaderSource
import DeviceAndroVM.Library.StringBlock

/-!
# Shader sources in memory

`s_glShaderSource` puts the strings of a shader into one block: `glUtilsCalcShaderSourceLen`
counts the bytes, and `glUtilsPackStrings` adds string after string with `strcat` and `strncat`
at a pointer that is to stand on the terminator of the text so far.  Each of them decides for
itself how long a string is, and the count is an `int`.

* `Sources` — the arguments; `Sources.Valid` says that the arrays and strings are there.
* `glUtilsCalcShaderSourceLen`, `glUtilsPackStrings` — the code.
* `packLoop_eq` — the pointer stands on the terminator before and after every string.
* `packsWithin_iff` — the block is filled as it should be unless the count overflows.
* `text_eq` — the text is the one that `GL2Encoder.s_glShaderSource` goes on with.
-/

namespace DeviceAndroVM
namespace GLESv2Enc

open OpenGL Library CString

/-- The arguments of `glShaderSource`: `strings` has the bytes from each pointer on, or `none`
for `NULL`, and the array of the lengths may be `NULL`. -/
structure Sources where
  strings : List (Option (List UInt8))
  length : Option (List GLint)
  count : GLint

namespace Sources

/-! ## The code -/

section Code

variable (s : Sources)

/-- The test `length == NULL || length[i] < 0`: it gives `none`, and otherwise `length[i]`. -/
def declared (i : Nat) : Option (Option GLint) :=
  match s.length with
  | none => some none
  | some length => length[i]?.map fun l => if l.toInt < 0 then none else some l

/-- What a turn of the loop of `glUtilsCalcShaderSourceLen` adds. -/
def calcTurn (i : Nat) : Option GLint :=
  (s.declared i).bind fun
    | some l => some l
    | none => s.strings[i]?.bind fun
        | none => some 0#32
        | some string => (strlen string).map (BitVec.ofNat 32)

/-- The loop of `glUtilsCalcShaderSourceLen` from string `i` on. -/
def calcLoop : Nat → Nat → GLint → Option GLint
  | 0, _, len => some len
  | left + 1, i, len => (s.calcTurn i).bind fun l => calcLoop left (i + 1) (len + l)

/-- `glUtilsCalcShaderSourceLen`. -/
def glUtilsCalcShaderSourceLen : Option GLint := s.calcLoop s.count.toInt.toNat 0 0#32

/-- A turn of the loop of `glUtilsPackStrings`: the block afterwards, and `l`. -/
def packTurn (block : List UInt8) (p : GLuint) (i : Nat) : Option (List UInt8 × GLint) :=
  s.strings[i]?.bind fun
    | none => some (block, 0#32)
    | some string => (s.declared i).bind fun
        | none => (strlen string).bind fun l =>
            (strcatAt block p.toNat string).map (·, BitVec.ofNat 32 l)
        | some l => (strncatAt block p.toNat string l.toNat).map (·, l)

/-- The loop of `glUtilsPackStrings` from string `i` on; `p` is counted from the begin of the
block. -/
def packLoop : Nat → Nat → GLuint → List UInt8 → Option (List UInt8)
  | 0, _, _, block => some block
  | left + 1, i, p, block =>
      (s.packTurn block p i).bind fun (block, l) => packLoop left (i + 1) (p + l) block

/-- `glUtilsPackStrings`, for a block of memory. -/
def glUtilsPackStrings (block : List UInt8) : Option (List UInt8) :=
  (store block 0 [0]).bind fun block => s.packLoop s.count.toInt.toNat 0 0#32 block

end Code

/-! ## What it should do -/

section Purpose

variable (s : Sources)

/-- The two arrays have an entry `i`, and so many bytes are there as are to be read of the
string: up to its terminator, or an explicit length that is not longer. -/
inductive ValidAt (i : Nat) : Prop
  | null {length : Option GLint} (hstring : s.strings[i]? = some none)
      (hdeclared : s.declared i = some length)
  | terminated {string : List UInt8} (hstring : s.strings[i]? = some (some string))
      (hdeclared : s.declared i = some none) (hzero : 0 ∈ string)
  | explicit {string : List UInt8} {l : GLint} (hstring : s.strings[i]? = some (some string))
      (hdeclared : s.declared i = some (some l))
      (hle : l.toNat ≤ (string.takeWhile (· != 0)).length)

/-- Arguments as the caller has to pass them. -/
structure Valid : Prop where
  count : 0 ≤ s.count.toInt
  entry : ∀ i < s.count.toInt.toNat, s.ValidAt i

/-- What belongs to the text of string `i`: all of it, or as much as its length says. -/
def prefixAt (i : Nat) : CString :=
  match s.strings[i]?.join, (s.declared i).join with
  | none, _ => []
  | some string, none => string.takeWhile (· != 0)
  | some string, some l => string.take l.toNat

/-- The length that string `i` is given, a string of `NULL` too. -/
def lengthAt (i : Nat) : Nat :=
  match (s.declared i).join, s.strings[i]?.join with
  | some l, _ => l.toNat
  | none, none => 0
  | none, some string => (string.takeWhile (· != 0)).length

/-- The strings as far as they belong to the text, one behind the other. -/
def text : CString := (List.range s.count.toInt.toNat).flatMap s.prefixAt

/-- The sum of the lengths, counted in integers. -/
def totalLength : Nat := ((List.range s.count.toInt.toNat).map s.lengthAt).sum

/-- A string of `NULL` has no length but zero. -/
def NullsEmpty : Prop :=
  ∀ i < s.count.toInt.toNat, s.strings[i]? = some none → s.lengthAt i = 0

/-- The text is put into a block of `glUtilsCalcShaderSourceLen + 1` bytes, in front of a
terminator; and it has the length that was computed, if no string of `NULL` has been given one.
Nothing is known of the bytes that are in the block before. -/
def PacksWithin : Prop :=
  ∃ len, s.glUtilsCalcShaderSourceLen = some len ∧
    (∀ block : List UInt8, block.length = (len + 1#32).toNat →
      ∃ rest, s.glUtilsPackStrings block = some (s.text ++ 0 :: rest) ∧
        (s.text ++ 0 :: rest).length = block.length ∧
        strlen (s.text ++ 0 :: rest) = some s.text.length) ∧
    (s.NullsEmpty → (s.text.length : Int) = len.toInt)

/-- The sum of the lengths is an `int`.  If a string of `NULL` has been given a length, the block
may have room for the text nevertheless. -/
def LengthsFit : Prop :=
  s.totalLength < 2 ^ 31 ∨
    ¬s.NullsEmpty ∧ s.text.length < (s.totalLength + 1) % 2 ^ 32

end Purpose

variable {s : Sources}

/-! ## One string -/

theorem ofNat_toNat_eq (l : GLint) : BitVec.ofNat 32 l.toNat = l := by
  rw [BitVec.ofNat_toNat, BitVec.setWidth_eq]

theorem calcTurn_eq {i : Nat} (h : s.ValidAt i) :
    s.calcTurn i = some (BitVec.ofNat 32 (s.lengthAt i)) := by
  unfold calcTurn lengthAt
  cases h with
  | @null length hstring hdeclared => cases length <;> simp [hstring, hdeclared]
  | terminated hstring hdeclared hzero => simp [hstring, hdeclared, strlen_eq hzero]
  | explicit hstring hdeclared hle => simp [hstring, hdeclared]

theorem nonzero_of_mem_prefixAt {i : Nat} (h : s.ValidAt i) : ∀ b ∈ s.prefixAt i, b ≠ 0 := by
  intro b hb
  unfold prefixAt at hb
  cases h with
  | null hstring hdeclared => simp [hstring] at hb
  | terminated hstring hdeclared hzero =>
      simp only [hstring, hdeclared, Option.join_some] at hb
      simpa using List.mem_takeWhile_imp hb
  | explicit hstring hdeclared hle =>
      simp only [hstring, hdeclared, Option.join_some] at hb
      rw [← takeWhile_take hle] at hb
      simpa using List.mem_takeWhile_imp hb

/-- What is counted for a string is the length of its part of the text, if it is not `NULL`. -/
theorem length_prefixAt {i : Nat} (h : s.ValidAt i) :
    (s.prefixAt i).length = s.lengthAt i ∨ s.prefixAt i = [] ∧ s.strings[i]? = some none := by
  unfold prefixAt lengthAt
  cases h with
  | null hstring hdeclared => exact Or.inr ⟨by simp [hstring], hstring⟩
  | terminated hstring hdeclared hzero => exact Or.inl (by simp [hstring, hdeclared])
  | explicit hstring hdeclared hle =>
      have hlength := hle.trans (List.takeWhile_prefix _).length_le
      exact Or.inl (by simp [hstring, hdeclared, hlength])

/-- With the pointer on the terminator, a string is added to the text. -/
theorem packTurn_eq {i : Nat} (h : s.ValidAt i) {p : GLuint} {front : CString}
    (hp : p.toNat = front.length) (rest : List UInt8) :
    s.packTurn (front ++ 0 :: rest) p i =
      if (s.prefixAt i).length ≤ rest.length then
        some (front ++ (s.prefixAt i ++ 0 :: rest.drop (s.prefixAt i).length),
          BitVec.ofNat 32 (s.prefixAt i).length)
      else none := by
  unfold packTurn prefixAt
  rw [hp]
  cases h with
  | null hstring hdeclared => simp [hstring]
  | terminated hstring hdeclared hzero =>
      simp only [hstring, hdeclared, Option.bind_some, Option.join_some, strlen_eq hzero,
        strcatAt, take_length_takeWhile, appendAt_spec]
      split <;> rfl
  | explicit hstring hdeclared hle =>
      have hbytes := hle.trans (List.takeWhile_prefix _).length_le
      simp only [hstring, hdeclared, Option.bind_some, Option.join_some, strncatAt,
        if_pos (Or.inr hbytes), takeWhile_take hle, appendAt_spec, List.length_take_of_le hbytes,
        ofNat_toNat_eq]
      split <;> rfl

/-! ## The loops -/

/-- The count, as the machine leaves it. -/
theorem calcLoop_eq {left i : Nat} (h : ∀ k, i ≤ k → k < i + left → s.ValidAt k) (len : GLint) :
    s.calcLoop left i len =
      some (len + BitVec.ofNat 32 ((List.range' i left).map s.lengthAt).sum) := by
  induction left generalizing i len with
  | zero => simp [calcLoop]
  | succ left ih =>
      have hrest : ∀ k, i + 1 ≤ k → k < i + 1 + left → s.ValidAt k :=
        fun k hlow hhigh => h k (by omega) (by omega)
      rw [calcLoop, calcTurn_eq (h i le_rfl (by omega)), Option.bind_some, ih hrest,
        List.range'_succ, List.map_cons, List.sum_cons, BitVec.ofNat_add, BitVec.add_assoc]

/-- The pointer stands on the terminator of the text before and after every string; a text that
does not fit is not written. -/
theorem packLoop_eq {left i : Nat} (h : ∀ k, i ≤ k → k < i + left → s.ValidAt k) {p : GLuint}
    {front : CString} (hp : p.toNat = front.length) (rest : List UInt8)
    (hblock : front.length + rest.length < 2 ^ 32) :
    s.packLoop left i p (front ++ 0 :: rest) =
      if ((List.range' i left).flatMap s.prefixAt).length ≤ rest.length then
        some (front ++ ((List.range' i left).flatMap s.prefixAt ++
          0 :: rest.drop ((List.range' i left).flatMap s.prefixAt).length))
      else none := by
  induction left generalizing i p front rest with
  | zero => simp [packLoop]
  | succ left ih =>
      have hrest : ∀ k, i + 1 ≤ k → k < i + 1 + left → s.ValidAt k :=
        fun k hlow hhigh => h k (by omega) (by omega)
      rw [packLoop, packTurn_eq (h i le_rfl (by omega)) hp, List.range'_succ, List.flatMap_cons]
      generalize s.prefixAt i = piece
      generalize hmore : (List.range' (i + 1) left).flatMap s.prefixAt = more at ih
      by_cases hfits : piece.length ≤ rest.length
      · have hnext : (p + BitVec.ofNat 32 piece.length).toNat = (front ++ piece).length := by
          rw [BitVec.toNat_add, BitVec.toNat_ofNat, hp, List.length_append]
          omega
        have hroom : (front ++ piece).length + (rest.drop piece.length).length < 2 ^ 32 := by
          rw [List.length_append, List.length_drop]
          omega
        rw [if_pos hfits, Option.bind_some]
        dsimp only
        rw [← List.append_assoc, ih hrest hnext _ hroom, hmore]
        -- both ask whether the two fit together
        simp only [List.length_append, List.length_drop, List.drop_drop, List.append_assoc,
          Nat.le_sub_iff_add_le' hfits]
      · rw [if_neg hfits, Option.bind_none, if_neg]
        rw [List.length_append]
        omega

namespace Valid

variable (h : s.Valid)
include h

theorem validAt_range' : ∀ k, 0 ≤ k → k < 0 + s.count.toInt.toNat → s.ValidAt k :=
  fun k _ hk => h.entry k (by omega)

theorem glUtilsCalcShaderSourceLen_eq :
    s.glUtilsCalcShaderSourceLen = some (BitVec.ofNat 32 s.totalLength) := by
  rw [glUtilsCalcShaderSourceLen, calcLoop_eq h.validAt_range', BitVec.zero_add, totalLength,
    List.range_eq_range']

/-- The text is packed just when there is room for it and its terminator. -/
theorem glUtilsPackStrings_eq {block : List UInt8} (hblock : block.length < 2 ^ 32) :
    s.glUtilsPackStrings block =
      if s.text.length < block.length then
        some (s.text ++ 0 :: block.drop (s.text.length + 1))
      else none := by
  cases block with
  | nil => rfl
  | cons b rest =>
      have hstore : store (b :: rest) 0 [0] = some (0 :: rest) := store_append [] rest rfl
      have hstart : (0#32 : GLuint).toNat = ([] : CString).length := rfl
      have hloop := packLoop_eq h.validAt_range' hstart rest
        (by simpa using Nat.lt_of_succ_lt hblock)
      rw [List.nil_append, ← List.range_eq_range'] at hloop
      rw [glUtilsPackStrings, hstore, Option.bind_some, hloop, List.length_cons]
      simp only [Nat.lt_succ_iff]
      rfl

theorem nonzero_of_mem_text : ∀ b ∈ s.text, b ≠ 0 := by
  intro b hb
  obtain ⟨i, hi, hmem⟩ := List.mem_flatMap.mp hb
  exact nonzero_of_mem_prefixAt (h.entry i (List.mem_range.mp hi)) b hmem

/-- Without strings of `NULL` that have a length, the sum of the lengths is that of the text. -/
theorem length_text (hnulls : s.NullsEmpty) : s.text.length = s.totalLength := by
  unfold text totalLength
  rw [List.length_flatMap]
  congr 1
  apply List.map_congr_left
  intro i hi
  have hlt := List.mem_range.mp hi
  rcases length_prefixAt (h.entry i hlt) with hlength | ⟨hnil, hstring⟩
  · exact hlength
  · rw [hnil, hnulls i hlt hstring]
    rfl

theorem length_text_le : s.text.length ≤ s.totalLength := by
  unfold text totalLength
  rw [List.length_flatMap]
  apply List.sum_le_sum
  intro i hi
  rcases length_prefixAt (h.entry i (List.mem_range.mp hi)) with hlength | ⟨hnil, -⟩
  · exact hlength.le
  · rw [hnil]
    exact Nat.zero_le _

/-- The block has the size that the sum of the lengths and one more leave of 32 bits. -/
theorem packsWithin_iff_of_total : s.PacksWithin ↔
    s.text.length < (s.totalLength + 1) % 2 ^ 32 ∧
      (s.NullsEmpty → (s.text.length : Int) = (BitVec.ofNat 32 s.totalLength).toInt) := by
  have hsize : (BitVec.ofNat 32 s.totalLength + 1#32).toNat = (s.totalLength + 1) % 2 ^ 32 := by
    rw [BitVec.toNat_add, BitVec.toNat_ofNat, BitVec.toNat_ofNat]
    omega
  have hbound : (s.totalLength + 1) % 2 ^ 32 < 2 ^ 32 := Nat.mod_lt _ (by decide)
  unfold PacksWithin
  rw [h.glUtilsCalcShaderSourceLen_eq]
  constructor
  · rintro ⟨len, hlen, hpack, hlength⟩
    obtain rfl := Option.some.inj hlen
    refine ⟨?_, hlength⟩
    -- one block of the size tells how much room there is
    obtain ⟨rest, hpacked, -⟩ := hpack
      (List.replicate ((s.totalLength + 1) % 2 ^ 32) 0) (by rw [hsize, List.length_replicate])
    rw [h.glUtilsPackStrings_eq (by rwa [List.length_replicate]), List.length_replicate] at hpacked
    by_contra hroom
    rw [if_neg hroom] at hpacked
    cases hpacked
  · rintro ⟨hroom, hlength⟩
    refine ⟨_, rfl, ?_, hlength⟩
    intro block hblock
    rw [hsize] at hblock
    refine ⟨block.drop (s.text.length + 1), ?_, ?_, strlen_append h.nonzero_of_mem_text _⟩
    · rw [h.glUtilsPackStrings_eq (by rwa [hblock]), if_pos (by rwa [hblock])]
    · rw [List.length_append, List.length_cons, List.length_drop]
      omega

end Valid

/-- The text is packed within its block, and has the length that was computed, if and only if the
lengths add up to an `int`, or those of strings of `NULL` leave room for the text by chance. -/
theorem packsWithin_iff (h : s.Valid) : s.PacksWithin ↔ s.LengthsFit := by
  rw [h.packsWithin_iff_of_total, LengthsFit]
  have hle := h.length_text_le
  have hlt := BitVec.toInt_lt (x := BitVec.ofNat 32 s.totalLength)
  constructor
  · rintro ⟨hroom, hlength⟩
    by_cases hnulls : s.NullsEmpty
    · left
      have htext := h.length_text hnulls
      have htotal := hlength hnulls
      omega
    · exact Or.inr ⟨hnulls, hroom⟩
  · rintro (hint | ⟨hnulls, hroom⟩)
    · have htotal : (BitVec.ofNat 32 s.totalLength).toInt = s.totalLength := by
        rw [BitVec.toInt_eq_toNat_of_lt] <;> rw [BitVec.toNat_ofNat] <;> omega
      refine ⟨by omega, fun hnulls => ?_⟩
      rw [htotal, h.length_text hnulls]
    · exact ⟨hroom, fun h => absurd h hnulls⟩

/-- A string with its terminator, one of `NULL`, and two bytes of a block without one. -/
theorem packsWithin_mixed :
    PacksWithin ⟨[some [0x61, 0x62, 0, 0x7A], none, some [0x63, 0x64, 0x65]],
      some [-1#32, 0#32, 2#32], 3#32⟩ := by
  refine (packsWithin_iff ⟨by decide, ?_⟩).mpr (Or.inl (by decide))
  intro i hi
  have hlt : i < 3 := hi
  match i, hlt with
  | 0, _ => exact .terminated rfl rfl (by decide)
  | 1, _ => exact .null rfl rfl
  | 2, _ => exact .explicit rfl rfl (by decide)

/-! ## One string many times -/

/-- The pointer to one string, `n` times. -/
def copies (n : Nat) (string : CString) : Sources where
  strings := List.replicate n (some (string ++ [0]))
  length := none
  count := BitVec.ofNat 32 n

section Copies

variable {n : Nat} {string : CString}

theorem copies_toInt (hn : n < 2 ^ 31) : (copies n string).count.toInt = n := by
  unfold copies
  rw [BitVec.toInt_eq_toNat_of_lt] <;> rw [BitVec.toNat_ofNat] <;> omega

theorem copies_count (hn : n < 2 ^ 31) : (copies n string).count.toInt.toNat = n := by
  rw [copies_toInt hn, Int.toNat_natCast]

theorem copies_strings {i : Nat} (hi : i < n) :
    (copies n string).strings[i]? = some (some (string ++ [0])) := by
  simp [copies, hi]

theorem copies_valid (string : CString) (hn : n < 2 ^ 31) : (copies n string).Valid where
  count := by
    rw [copies_toInt hn]
    exact Int.natCast_nonneg n
  entry := by
    intro i hi
    rw [copies_count hn] at hi
    exact .terminated (copies_strings hi) rfl (by simp)

theorem copies_nullsEmpty (hn : n < 2 ^ 31) : (copies n string).NullsEmpty := by
  intro i hi hnull
  rw [copies_count hn] at hi
  rw [copies_strings hi] at hnull
  cases hnull

theorem copies_totalLength (hn : n < 2 ^ 31) (hstring : ∀ b ∈ string, b ≠ 0) :
    (copies n string).totalLength = n * string.length := by
  have hlength : ∀ i ∈ List.range n, (copies n string).lengthAt i = string.length := by
    intro i hi
    unfold lengthAt
    rw [copies_strings (List.mem_range.mp hi)]
    exact congrArg List.length (takeWhile_append_cons hstring [])
  rw [totalLength, copies_count hn, List.map_congr_left hlength, List.map_const',
    List.sum_replicate_nat, List.length_range]

end Copies

/-- A string of 1 MiB, given 4096 times: the count of its `2 ^ 32` bytes is 0, and the block has
one byte. -/
theorem repeated_not_packsWithin : ¬∀ s : Sources, s.Valid → s.PacksWithin := by
  intro hall
  let string : CString := List.replicate (2 ^ 20) 0x20
  have hstring : ∀ b ∈ string, b ≠ 0 := by
    intro b hb
    rw [List.eq_of_mem_replicate hb]
    decide
  have hn : 4096 < 2 ^ 31 := by decide
  have hvalid := copies_valid string hn
  obtain ⟨hroom, -⟩ := hvalid.packsWithin_iff_of_total.mp (hall _ hvalid)
  rw [hvalid.length_text (copies_nullsEmpty hn), copies_totalLength hn hstring,
    List.length_replicate] at hroom
  exact absurd hroom (by decide)

/-! ## The text that the call goes on with -/

/-- String `i` with its length, for `GL2Encoder.s_glShaderSource`. -/
def entryAt (s : Sources) (i : Nat) : Option CString × Option GLint :=
  (s.strings[i]?.join.map (List.takeWhile (· != 0)), s.length.bind (·[i]?))

/-- An explicit length is the one in the array. -/
theorem declared_eq_some {l : GLint} {i : Nat} (h : s.declared i = some (some l)) :
    s.length.bind (·[i]?) = some l ∧ ¬l.toInt < 0 := by
  unfold declared at h
  split at h
  next hnull => cases h
  next length hlength =>
    obtain ⟨entry, hentry, hl⟩ := Option.map_eq_some_iff.mp h
    split at hl
    next => cases hl
    next hnonneg =>
      cases hl
      exact ⟨by rw [hlength, Option.bind_some, hentry], hnonneg⟩

/-- Otherwise there is none, or a negative one. -/
theorem declared_eq_none {i : Nat} (h : s.declared i = some none) :
    ∀ l ∈ s.length.bind (·[i]?), l.toInt < 0 := by
  intro l hl
  unfold declared at h
  split at h
  next hnull =>
    rw [hnull] at hl
    cases hl
  next length hlength =>
    rw [hlength, Option.bind_some, Option.mem_def] at hl
    rw [hl, Option.map_some] at h
    split at h
    next hneg => exact hneg
    next => cases h

theorem prefixAt_eq {i : Nat} (h : s.ValidAt i) :
    s.prefixAt i = GL2Encoder.glUtilsPackStrings [s.entryAt i] := by
  unfold prefixAt GL2Encoder.glUtilsPackStrings entryAt
  rw [List.flatMap_singleton]
  cases h with
  | null hstring hdeclared => simp [hstring]
  | terminated hstring hdeclared hzero =>
      have hneg := declared_eq_none hdeclared
      simp only [hstring, hdeclared, Option.join_some, Option.map_some]
      cases hlength : s.length.bind (·[i]?) with
      | none => rfl
      | some l => exact (if_pos (hneg l hlength)).symm
  | @explicit string l hstring hdeclared hle =>
      obtain ⟨hlength, hnonneg⟩ := declared_eq_some hdeclared
      have hnat : l.toInt.toNat = l.toNat := by
        rw [BitVec.toInt_eq_toNat_cond] at hnonneg ⊢
        split at hnonneg <;> omega
      simp only [hstring, hdeclared, Option.join_some, Option.map_some, hlength, if_neg hnonneg,
        hnat]
      rw [← take_length_takeWhile string, List.take_take, Nat.min_eq_left hle]

/-- The text is the one of the strings without their memory. -/
theorem text_eq (h : s.Valid) :
    s.text = GL2Encoder.glUtilsPackStrings ((List.range s.count.toInt.toNat).map s.entryAt) := by
  have hone : ∀ i ∈ List.range s.count.toInt.toNat,
      s.prefixAt i = GL2Encoder.glUtilsPackStrings [s.entryAt i] :=
    fun i hi => prefixAt_eq (h.entry i (List.mem_range.mp hi))
  rw [text, List.flatMap_congr hone, GL2Encoder.glUtilsPackStrings, List.flatMap_map]
  simp [GL2Encoder.glUtilsPackStrings]

end Sources
end GLESv2Enc
end DeviceAndroVM
