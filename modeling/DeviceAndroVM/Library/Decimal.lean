import DeviceAndroVM.Library.CString
import Mathlib.Algebra.Order.Field.Rat
import Mathlib.Data.List.Induction
import Mathlib.Data.Rat.Floor
import Mathlib.Tactic.FieldSimp
import Mathlib.Tactic.Linarith
import Mathlib.Tactic.NormNum
import Mathlib.Tactic.Ring

/-!
# Decimal numbers as text

What `printf` writes for `%d` and `%f`, and what `strtod` reads, over the rationals.

* `natDigits`, `padded` — the digits of a number, and zeros in front of them.
* `formatInt` — `%0Nd`; `formatFixed` — `%f`, rounded half to even at six places.
* `strtod` — decimal notation with a fraction and an exponent.
* `decimalValue_padded`, `length_padded` — numbers of a fixed width.
* `strtod_digits` — digits, a point and digits are read as the number they write.
-/

namespace DeviceAndroVM
namespace Library

namespace CString

def digit (n : Nat) : UInt8 := UInt8.ofNat (0x30 + n)

/-- The digits of a number in front of `tail`; a turn writes one digit. -/
def digitsLoop : Nat → Nat → CString → CString
  | 0, _, tail => tail
  | turns + 1, n, tail =>
      if n < 10 then digit n :: tail else digitsLoop turns (n / 10) (digit (n % 10) :: tail)

/-- The digits of a number. -/
def natDigits (n : Nat) : CString := digitsLoop (n + 1) n []

/-- Zeros in front, up to a width. -/
def padded (width : Nat) (s : CString) : CString := List.replicate (width - s.length) 0x30 ++ s

/-- `%0Nd`, with `N = width`. -/
def formatInt (width : Nat) (i : Int) : CString :=
  if i < 0 then 0x2D :: padded (width - 1) (natDigits i.natAbs)
  else padded width (natDigits i.natAbs)

/-- The nearest whole number, of two the even one. -/
def roundHalfEven (q : ℚ) : Nat :=
  let whole := q.floor
  let rest := q - whole
  if rest < 1 / 2 then whole.toNat
  else if 1 / 2 < rest then whole.toNat + 1
  else if whole % 2 = 0 then whole.toNat else whole.toNat + 1

/-- The millionths that `%f` writes. -/
def millionths (q : ℚ) : Nat := roundHalfEven (|q| * 1000000)

/-- `%f`. -/
def formatFixed (q : ℚ) : CString :=
  (if q < 0 then [0x2D] else []) ++
    (natDigits (millionths q / 1000000) ++ 0x2E :: padded 6 (natDigits (millionths q % 1000000)))

/-- A sign in front of a number. -/
def splitSign : CString → Bool × CString
  | 0x2D :: rest => (true, rest)
  | 0x2B :: rest => (false, rest)
  | s => (false, s)

/-- The exponent that follows a number: `e`, a sign, and digits. -/
def exponent : CString → Int
  | [] => 0
  | c :: rest =>
      if c = 0x65 ∨ c = 0x45 then
        let digits := (splitSign rest).2.takeWhile isdigit
        if (splitSign rest).1 then -(decimalValue digits : Int) else decimalValue digits
      else 0

/-- `strtod`: white space, a sign, digits with a point among them, and an exponent.  What is
no such number is 0; an infinity or a number that is none has no rational value. -/
def strtod (s : CString) : ℚ :=
  let signed := splitSign (s.dropWhile isspace)
  let whole := signed.2.takeWhile isdigit
  let behind := signed.2.dropWhile isdigit
  let fraction := if behind.head? = some 0x2E then behind.tail.takeWhile isdigit else []
  let rest := if behind.head? = some 0x2E then behind.tail.dropWhile isdigit else behind
  let magnitude : ℚ :=
    if whole = [] ∧ fraction = [] then 0
    else
      ((decimalValue whole : ℚ) + (decimalValue fraction : ℚ) / 10 ^ fraction.length) *
        10 ^ exponent rest
  if signed.1 then -magnitude else magnitude

/-! ## Digits -/

variable {n width : Nat} {s digits : CString}

theorem digit_toNat (h : n < 10) : (digit n).toNat = 0x30 + n := by
  unfold digit
  rw [UInt8.toNat_ofNat']
  omega

theorem isdigit_digit (h : n < 10) : isdigit (digit n) = true := by
  unfold isdigit
  simp only [Bool.and_eq_true, decide_eq_true_eq, UInt8.le_iff_toNat_le, digit_toNat h,
    UInt8.reduceToNat]
  omega

theorem decimalValue_append (first second : CString) :
    decimalValue (first ++ second) =
      decimalValue first * 10 ^ second.length + decimalValue second := by
  induction second using List.reverseRecOn with
  | nil => simp [decimalValue]
  | append_singleton second d ih =>
      have hsnoc : ∀ t : CString,
          decimalValue (t ++ [d]) = 10 * decimalValue t + (d.toNat - 0x30) := by
        intro t
        simp [decimalValue]
      rw [← List.append_assoc, hsnoc, hsnoc, ih, List.length_append, List.length_singleton,
        Nat.pow_succ]
      ring

/-- A number of `n` digits is less than the `n`th power of ten. -/
theorem decimalValue_lt {digits : CString} (hdigits : ∀ d ∈ digits, isdigit d = true) :
    decimalValue digits < 10 ^ digits.length := by
  induction digits with
  | nil => decide
  | cons d rest ih =>
      have hrest := ih fun e hmem => hdigits e (List.mem_cons_of_mem d hmem)
      have hd : d.toNat - 0x30 ≤ 9 := by
        have hle := hdigits d List.mem_cons_self
        simp only [isdigit, Bool.and_eq_true, decide_eq_true_eq, UInt8.le_iff_toNat_le] at hle
        have hnine := hle.2
        change d.toNat ≤ 57 at hnine
        omega
      have hone : decimalValue [d] = d.toNat - 0x30 := by
        simp [decimalValue]
      have hmul : (d.toNat - 0x30) * 10 ^ rest.length ≤ 9 * 10 ^ rest.length :=
        Nat.mul_le_mul_right _ hd
      rw [← List.singleton_append, decimalValue_append, hone, List.length_append,
        List.length_singleton, Nat.pow_add]
      omega

theorem decimalValue_cons_digit (h : n < 10) (tail : CString) :
    decimalValue (digit n :: tail) = n * 10 ^ tail.length + decimalValue tail := by
  have hone : decimalValue [digit n] = n := by
    change 10 * 0 + ((digit n).toNat - 0x30) = n
    rw [digit_toNat h]
    omega
  rw [← List.singleton_append, decimalValue_append, hone]

/-- The loop writes the number in front of what it has written. -/
theorem digitsLoop_spec {turns : Nat} (h : n < 10 ^ turns) (tail : CString) :
    ∃ front, digitsLoop turns n tail = front ++ tail ∧ (∀ d ∈ front, isdigit d = true) ∧
      decimalValue front = n ∧
        (0 < turns → front ≠ [] ∧ ∀ k, n < 10 ^ (k + 1) ↔ front.length ≤ k + 1) := by
  induction turns generalizing n tail with
  | zero =>
      have hzero : n = 0 := by simpa using h
      exact ⟨[], rfl, nofun, hzero.symm ▸ rfl, fun hpos => absurd hpos (Nat.lt_irrefl 0)⟩
  | succ turns ih =>
      unfold digitsLoop
      split
      · rename_i hsmall
        have hvalue : decimalValue [digit n] = n := by
          rw [decimalValue_cons_digit hsmall]
          simp [decimalValue]
        refine ⟨[digit n], rfl, ?_, hvalue, fun _ => ⟨List.cons_ne_nil _ _, fun k => ?_⟩⟩
        · intro d hd
          rw [List.mem_singleton.mp hd]
          exact isdigit_digit hsmall
        · have hpow : 10 ≤ 10 ^ (k + 1) := Nat.le_self_pow (Nat.succ_ne_zero k) 10
          exact iff_of_true (by omega) (by simp)
      · rename_i hlarge
        have hquot : n / 10 < 10 ^ turns := by
          rw [Nat.div_lt_iff_lt_mul (by omega), ← Nat.pow_succ]
          exact h
        have hturns : 0 < turns := by
          rcases Nat.eq_zero_or_pos turns with rfl | hpos
          · omega
          · exact hpos
        obtain ⟨front, hloop, hdigits, hvalue, hlength⟩ := ih hquot (digit (n % 10) :: tail)
        obtain ⟨hne, hlength⟩ := hlength hturns
        refine ⟨front ++ [digit (n % 10)], by simp [hloop], ?_, ?_, fun _ => ⟨by simp, fun k => ?_⟩⟩
        · intro d hd
          rcases List.mem_append.mp hd with hd | hd
          · exact hdigits d hd
          · rw [List.mem_singleton.mp hd]
            exact isdigit_digit (Nat.mod_lt n (by omega))
        · rw [decimalValue_append, hvalue, decimalValue_cons_digit (Nat.mod_lt n (by omega))]
          simp [decimalValue]
          omega
        · -- one digit less for the quotient
          have hfront : 0 < front.length := List.length_pos_iff.mpr hne
          rw [List.length_append, List.length_singleton]
          cases k with
          | zero => exact iff_of_false (by simp; omega) (by omega)
          | succ k =>
              have hstep := hlength k
              rw [Nat.div_lt_iff_lt_mul (by omega), ← Nat.pow_succ] at hstep
              rw [hstep]
              omega

theorem natDigits_spec (n : Nat) :
    (∀ d ∈ natDigits n, isdigit d = true) ∧ decimalValue (natDigits n) = n ∧ natDigits n ≠ [] ∧
      ∀ k, n < 10 ^ (k + 1) ↔ (natDigits n).length ≤ k + 1 := by
  have hfuel : n < 10 ^ (n + 1) :=
    Nat.lt_trans (Nat.lt_succ_self n) (Nat.lt_pow_self (by omega))
  obtain ⟨front, hloop, hdigits, hvalue, hlength⟩ := digitsLoop_spec hfuel []
  have hfront : natDigits n = front := by
    unfold natDigits
    rw [hloop, List.append_nil]
  rw [hfront]
  obtain ⟨hne, hlength⟩ := hlength (Nat.succ_pos n)
  exact ⟨hdigits, hvalue, hne, hlength⟩

/-! ## Numbers of a fixed width -/

theorem length_padded (width : Nat) (s : CString) :
    (padded width s).length = max width s.length := by
  unfold padded
  rw [List.length_append, List.length_replicate]
  omega

theorem decimalValue_padded (width : Nat) (s : CString) :
    decimalValue (padded width s) = decimalValue s := by
  have hzeros : ∀ k, decimalValue (List.replicate k 0x30) = 0 := by
    intro k
    induction k with
    | zero => rfl
    | succ k ih =>
        rw [List.replicate_succ']
        have hsnoc : decimalValue (List.replicate k 0x30 ++ [0x30]) =
            10 * decimalValue (List.replicate k 0x30) + 0 := by
          simp [decimalValue]
        rw [hsnoc, ih]
  unfold padded
  rw [decimalValue_append, hzeros]
  omega

theorem isdigit_padded (width : Nat) (hdigits : ∀ d ∈ s, isdigit d = true) :
    ∀ d ∈ padded width s, isdigit d = true := by
  intro d hd
  rcases List.mem_append.mp hd with hd | hd
  · rw [List.eq_of_mem_replicate hd]
    decide
  · exact hdigits d hd

/-- The digits of a number, at a width that they may exceed. -/
theorem formatInt_natCast (width n : Nat) :
    (∀ d ∈ formatInt width n, isdigit d = true) ∧ decimalValue (formatInt width n) = n ∧
      ∀ k, n < 10 ^ (k + 1) → (formatInt width n).length ≤ max width (k + 1) := by
  obtain ⟨hdigits, hvalue, -, hlength⟩ := natDigits_spec n
  have hformat : formatInt width n = padded width (natDigits n) := by
    unfold formatInt
    rw [if_neg (by omega), Int.natAbs_natCast]
  rw [hformat, decimalValue_padded, length_padded]
  refine ⟨isdigit_padded width hdigits, hvalue, fun k hk => ?_⟩
  have hdigit := (hlength k).mp hk
  omega

/-- A number that fits a width, at that width. -/
theorem formatInt_spec {k : Nat} (h : n < 10 ^ (k + 1)) :
    (∀ d ∈ formatInt (k + 1) n, isdigit d = true) ∧
      decimalValue (formatInt (k + 1) n) = n ∧ (formatInt (k + 1) n).length = k + 1 := by
  obtain ⟨hdigits, hvalue, hlength⟩ := formatInt_natCast (k + 1) n
  have hmin : k + 1 ≤ (formatInt (k + 1) n).length := by
    unfold formatInt
    rw [if_neg (by omega), length_padded]
    omega
  have hmax := hlength k h
  exact ⟨hdigits, hvalue, by omega⟩

/-! ## The bytes of a number -/

/-- A byte of a number: a digit, a sign or a point. -/
def isNumeral (c : UInt8) : Bool := isdigit c || c == 0x2D || c == 0x2E

theorem isNumeral_of_isdigit {c : UInt8} (h : isdigit c = true) : isNumeral c = true := by
  unfold isNumeral
  rw [h]
  rfl

theorem isNumeral_formatInt (width : Nat) (i : Int) : ∀ c ∈ formatInt width i, isNumeral c = true := by
  have hdigits : ∀ w, ∀ c ∈ padded w (natDigits i.natAbs), isNumeral c = true := fun w c hc =>
    isNumeral_of_isdigit (isdigit_padded w (natDigits_spec i.natAbs).1 c hc)
  intro c hc
  unfold formatInt at hc
  split at hc
  · rcases List.mem_cons.mp hc with rfl | hc
    · rfl
    · exact hdigits _ c hc
  · exact hdigits _ c hc

theorem le_length_formatInt (width : Nat) (i : Int) : width ≤ (formatInt width i).length := by
  unfold formatInt
  split
  · rw [List.length_cons, length_padded]
    omega
  · rw [length_padded]
    omega

theorem formatInt_ne_nil (width : Nat) (i : Int) : formatInt width i ≠ [] := by
  have hne := (natDigits_spec i.natAbs).2.2.1
  unfold formatInt padded
  split
  · exact List.cons_ne_nil _ _
  · exact List.append_ne_nil_of_right_ne_nil _ hne

theorem isNumeral_formatFixed (q : ℚ) : ∀ c ∈ formatFixed q, isNumeral c = true := by
  intro c hc
  unfold formatFixed at hc
  simp only [List.mem_append, List.mem_cons] at hc
  rcases hc with hc | hc | rfl | hc
  · split at hc
    · rw [List.mem_singleton.mp hc]
      rfl
    · cases hc
  · exact isNumeral_of_isdigit ((natDigits_spec _).1 c hc)
  · rfl
  · exact isNumeral_of_isdigit (isdigit_padded 6 (natDigits_spec _).1 c hc)

theorem formatFixed_ne_nil (q : ℚ) : formatFixed q ≠ [] := by
  unfold formatFixed
  exact List.append_ne_nil_of_right_ne_nil _
    (List.append_ne_nil_of_right_ne_nil _ (List.cons_ne_nil _ _))

/-! ## Reading -/

/-- Digits do not begin with a sign or with white space. -/
theorem splitSign_digit {c : UInt8} (hc : isdigit c = true) (rest : CString) :
    splitSign (c :: rest) = (false, c :: rest) := by
  unfold splitSign
  split
  · rename_i heq
    rw [(List.cons.inj heq).1] at hc
    exact absurd hc (by decide)
  · rename_i heq
    rw [(List.cons.inj heq).1] at hc
    exact absurd hc (by decide)
  · rfl

/-- A sign, digits, a point and digits. -/
theorem strtod_fixed (negative : Bool) {fraction : CString} (hne : digits ≠ [])
    (hdigits : ∀ d ∈ digits, isdigit d = true) (hfraction : ∀ d ∈ fraction, isdigit d = true) :
    strtod ((if negative then [0x2D] else []) ++ (digits ++ 0x2E :: fraction)) =
      (if negative then -1 else 1) *
        ((decimalValue digits : ℚ) + (decimalValue fraction : ℚ) / 10 ^ fraction.length) := by
  obtain ⟨first, more, rfl⟩ := List.exists_cons_of_ne_nil hne
  have hfirst := hdigits first List.mem_cons_self
  have hsigned : splitSign (((if negative then [0x2D] else []) ++
      (first :: more ++ 0x2E :: fraction)).dropWhile isspace) =
        (negative, first :: more ++ 0x2E :: fraction) := by
    cases negative with
    | true => rfl
    | false =>
        change splitSign ((first :: (more ++ 0x2E :: fraction)).dropWhile isspace) = _
        rw [List.dropWhile_cons_of_neg (by simp [isspace_of_isdigit hfirst]), splitSign_digit hfirst]
        rfl
  obtain ⟨hwhole, hbehind⟩ := takeWhile_digits hdigits (0x2E :: fraction) rfl
  obtain ⟨htake, hdrop⟩ := takeWhile_digits hfraction [] rfl
  rw [List.append_nil] at htake hdrop
  unfold strtod
  dsimp only
  rw [hsigned]
  dsimp only
  rw [hwhole, hbehind]
  simp only [List.head?_cons, List.tail_cons, ↓reduceIte, htake, hdrop, exponent, zpow_zero,
    mul_one, reduceCtorEq, false_and]
  cases negative with
  | true => simp only [↓reduceIte, neg_mul, one_mul]
  | false => simp only [Bool.false_eq_true, ↓reduceIte, one_mul]

/-- A sign and digits. -/
theorem strtod_integer (negative : Bool) (hne : digits ≠ [])
    (hdigits : ∀ d ∈ digits, isdigit d = true) :
    strtod ((if negative then [0x2D] else []) ++ digits) =
      (if negative then -1 else 1) * (decimalValue digits : ℚ) := by
  obtain ⟨first, more, rfl⟩ := List.exists_cons_of_ne_nil hne
  have hfirst := hdigits first List.mem_cons_self
  have hsigned : splitSign (((if negative then [0x2D] else []) ++
      (first :: more)).dropWhile isspace) = (negative, first :: more) := by
    cases negative with
    | true => rfl
    | false =>
        change splitSign ((first :: more).dropWhile isspace) = _
        rw [List.dropWhile_cons_of_neg (by simp [isspace_of_isdigit hfirst]), splitSign_digit hfirst]
  obtain ⟨hwhole, hbehind⟩ := takeWhile_digits hdigits [] rfl
  rw [List.append_nil] at hwhole hbehind
  unfold strtod
  dsimp only
  rw [hsigned]
  dsimp only
  rw [hwhole, hbehind]
  cases negative <;> simp [exponent, decimalValue]

/-- Digits alone. -/
theorem strtod_digits (hne : digits ≠ []) (hdigits : ∀ d ∈ digits, isdigit d = true) :
    strtod digits = decimalValue digits := by
  have hread := strtod_integer false hne hdigits
  rwa [if_neg Bool.false_ne_true, if_neg Bool.false_ne_true, List.nil_append, one_mul] at hread

/-! ## The text of a fixed-point number -/

/-- The number that `%f` writes. -/
def rounded (q : ℚ) : ℚ := (if q < 0 then -1 else 1) * ((millionths q : ℚ) / 1000000)

/-- `strtod` reads what `%f` writes: the number, rounded to millionths. -/
theorem strtod_formatFixed (q : ℚ) : strtod (formatFixed q) = rounded q := by
  obtain ⟨hwhole, hvalue, hne, -⟩ := natDigits_spec (millionths q / 1000000)
  obtain ⟨hdigits, hrest, -, hwidth⟩ := natDigits_spec (millionths q % 1000000)
  have hlength : (padded 6 (natDigits (millionths q % 1000000))).length = 6 := by
    rw [length_padded]
    exact Nat.max_eq_left ((hwidth 5).mp (Nat.mod_lt _ (by omega)))
  have hsum : (millionths q : ℚ) =
      ((millionths q / 1000000 : Nat) : ℚ) * 1000000 + ((millionths q % 1000000 : Nat) : ℚ) := by
    have hnat := Nat.div_add_mod (millionths q) 1000000
    exact_mod_cast by omega
  have hread := strtod_fixed (decide (q < 0)) hne hwhole (isdigit_padded 6 hdigits)
  simp only [decide_eq_true_eq] at hread
  unfold formatFixed rounded
  rw [hread, hvalue, decimalValue_padded, hrest, hlength, hsum]
  ring

/-- A whole number of millionths is not rounded. -/
theorem rounded_of_eq {q : ℚ} {k : Int} (h : q = k / 1000000) : rounded q = q := by
  have hscaled : |q| * 1000000 = (k.natAbs : ℚ) := by
    have habs : |q| = |(k : ℚ)| / 1000000 := by
      rw [h, abs_div]
      norm_num
    rw [habs, Nat.cast_natAbs, Int.cast_abs]
    ring
  have hmillionths : millionths q = k.natAbs := by
    unfold millionths roundHalfEven
    rw [hscaled]
    have hfloor : ((k.natAbs : ℚ)).floor = (k.natAbs : Int) := by
      rw [← Int.cast_natCast k.natAbs]
      exact Rat.floor_intCast (k.natAbs : Int)
    have hrest : (k.natAbs : ℚ) - ((k.natAbs : Int) : ℚ) = 0 := by
      rw [Int.cast_natCast, sub_self]
    dsimp only
    rw [hfloor, hrest, if_pos (by norm_num), Int.toNat_natCast]
  unfold rounded
  rw [hmillionths, Nat.cast_natAbs, Int.cast_abs]
  by_cases hneg : q < 0
  · have hk : (k : ℚ) < 0 := by
      rw [h] at hneg
      linarith
    rw [if_pos hneg, abs_of_neg hk, h]
    ring
  · have hk : (0 : ℚ) ≤ k := by
      rw [h] at hneg
      linarith
    rw [if_neg hneg, abs_of_nonneg hk, h]
    ring

theorem roundHalfEven_le (q : ℚ) : roundHalfEven q ≤ q.floor.toNat + 1 := by
  unfold roundHalfEven
  dsimp only
  split
  · omega
  · split
    · omega
    · split <;> omega

/-- How much room `%f` takes. -/
theorem length_formatFixed_le {q : ℚ} {k : Nat} (h : millionths q / 1000000 < 10 ^ (k + 1)) :
    (formatFixed q).length ≤ (if q < 0 then 1 else 0) + (k + 8) := by
  have hwhole := ((natDigits_spec (millionths q / 1000000)).2.2.2 k).mp h
  have hdigits := ((natDigits_spec (millionths q % 1000000)).2.2.2 5).mp
    (Nat.mod_lt _ (by omega))
  have hwidth := length_padded 6 (natDigits (millionths q % 1000000))
  unfold formatFixed
  rw [List.length_append, List.length_append, List.length_cons]
  split
  · rw [List.length_singleton]
    omega
  · rw [List.length_nil]
    omega

end CString
end Library
end DeviceAndroVM
