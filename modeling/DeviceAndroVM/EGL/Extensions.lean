import DeviceAndroVM.EGL.Types
import DeviceAndroVM.Library.StringBlock
import DeviceAndroVM.Library.WhileLoop

/-!
# The extension string

`queryHostEGLString`, `findExtInList` and `buildExtensionString` of `eglDisplay.cpp` (lines
305–391).  The list of the host is filtered in the block that holds it: names that are kept move
down over those that are not.  `malloc` and `asprintf` get their memory.

* `filterBody` — one turn of the loop, with the cursors `ext`, `c` and `insert`.
* `CopiesApart` — no name moves onto bytes of its own.
* `filter_run` — the loop ends; `memcpy` copies as it should just if the names move apart.
* `buildsExtensionString_iff` — the string is the static list and the names that the dynamic one
  has, exactly then.
-/

namespace DeviceAndroVM
namespace EGL

open Library CString

/-! ## The functions -/

/-- `systemStaticEGLExtensions`. -/
def systemStaticEGLExtensions : CString :=
  ofChars "EGL_ANDROID_image_native_buffer EGL_KHR_fence_sync ".toList

/-- `systemDynamicEGLExtensions`. -/
def systemDynamicEGLExtensions : CString :=
  ofChars "EGL_KHR_image_base EGL_KHR_gl_texture_2d_image ".toList

/-- The connection to the host, by what `rcQueryEGLString` returns and reads back into a buffer
of that size; `NULL` comes with the size zero. -/
abbrev QueryEGLString := Nat → EGLint × (Nat → UInt8)

/-- `queryHostEGLString`: the block of the string, or `NULL`; there is no result where `strcat`
leaves the block.  `memory` is what `malloc` leaves in the two bytes behind the buffer. -/
def queryHostEGLString (hcon : Option QueryEGLString) (memory : UInt8 × UInt8) :
    Option (Option (List UInt8)) :=
  match hcon with
  | none => some none
  | some rcQueryEGLString =>
      let n := (rcQueryEGLString 0).1.toInt
      if n < 0 then
        let size := (-n).toNat
        let (n, str) := rcQueryEGLString size
        if 0 < n.toInt then
          (strcat ((List.range size).map str ++ [memory.1, memory.2]) [0x20]).map some
        else some none
      else some none

/-- `findExtInList`, from `p` on. -/
def findExtInList (token : CString) (p : CString) : Bool :=
  if p = [] then false
  else
    match _h : strchr 0x20 p with
    | none => false
    | some (entry, q) =>
        if token.length = entry.length ∧ token = p.take token.length then true
        else findExtInList token q.tail
termination_by p.length
decreasing_by
  obtain ⟨-, heq⟩ := Option.ite_none_right_eq_some.mp _h
  cases heq
  have hlength := List.length_dropWhile_le (· != (0x20 : UInt8)) p
  have hpos := List.length_pos_of_ne_nil ‹p ≠ []›
  rw [List.length_tail]
  omega

/-- The block of the host's list, and the three pointers into it. -/
structure FilterScan where
  block : List UInt8
  ext : Nat
  c : Nat
  insert : Nat

/-- One turn of the loop of `buildExtensionString`, and behind the loop the terminator. -/
def filterBody (copy : List UInt8 → Nat → Nat → Nat → Option (List UInt8)) (scan : FilterScan) :
    Iteration FilterScan (Option (List UInt8)) :=
  match scan.block[scan.c]? with
  | none => .leave none
  | some b =>
      if b = 0 then .leave (store scan.block scan.insert [0])
      else if b = 0x20 then
        let len := scan.c - scan.ext
        if findExtInList ((scan.block.drop scan.ext).take len) systemDynamicEGLExtensions then
          match (if scan.ext ≠ scan.insert then copy scan.block scan.insert scan.ext (len + 1)
              else some scan.block) with
          | none => .leave none
          | some block => .again ⟨block, scan.c + 1, scan.c + 1, scan.insert + (len + 1)⟩
        else .again { scan with ext := scan.c + 1, c := scan.c + 1 }
      else .again { scan with c := scan.c + 1 }

/-- The end of `buildExtensionString`, with what is left of the host's list. -/
def prependStatic (hostExt : List UInt8) : Option CString :=
  (strlen hostExt).map fun n =>
    if 0 < n then systemStaticEGLExtensions ++ hostExt.take n else systemStaticEGLExtensions

/-- `buildExtensionString` ends with that string, or with an access that is not allowed. -/
def BuildsExtensionString (copy : List UInt8 → Nat → Nat → Nat → Option (List UInt8))
    (hcon : Option QueryEGLString) (memory : UInt8 × UInt8) (result : Option CString) : Prop :=
  match queryHostEGLString hcon memory with
  | none => result = none
  | some none => result = some systemStaticEGLExtensions
  | some (some hostExt) =>
      match (hostExt[1]? : Option UInt8) with
      | none => result = none
      | some 0 => result = some systemStaticEGLExtensions
      | some _ => ∃ filtered, WhileRun (filterBody copy) ⟨hostExt, 0, 0, 0⟩ filtered ∧
          result = filtered.bind prependStatic

/-! ## Lists of names -/

/-- The names, each followed by a space. -/
def listText (names : List CString) : CString := names.flatMap (· ++ [0x20])

@[simp] theorem listText_nil : listText [] = [] := rfl

@[simp] theorem listText_cons (w : CString) (names : List CString) :
    listText (w :: names) = w ++ 0x20 :: listText names := by
  simp [listText]

/-- The entries of `systemDynamicEGLExtensions`. -/
def dynamicExtensions : List CString :=
  [ofChars "EGL_KHR_image_base".toList, ofChars "EGL_KHR_gl_texture_2d_image".toList]

theorem listText_dynamicExtensions : listText dynamicExtensions = systemDynamicEGLExtensions := by
  decide +kernel

/-- A token is found if it is a whole entry. -/
theorem findExtInList_listText (token : CString) {entries : List CString}
    (hentries : ∀ e ∈ entries, ∀ b ∈ e, b ≠ 0x20) :
    findExtInList token (listText entries) = decide (token ∈ entries) := by
  induction entries with
  | nil => simp [findExtInList]
  | cons e entries ih =>
      have hne : e ++ 0x20 :: listText entries ≠ [] := by simp
      rw [listText_cons, findExtInList, if_neg hne]
      split
      · rename_i hnone
        rw [strchr_append (hentries e List.mem_cons_self)] at hnone
        cases hnone
      · rename_i entry q hfound
        rw [strchr_append (hentries e List.mem_cons_self)] at hfound
        cases hfound
        have hsame : token.length = e.length ∧
            token = (e ++ 0x20 :: listText entries).take token.length ↔ token = e := by
          constructor
          · rintro ⟨hlength, htake⟩
            rwa [hlength, List.take_left] at htake
          · rintro rfl
            exact ⟨rfl, List.take_left.symm⟩
        rw [List.tail_cons, ih fun e he => hentries e (List.mem_cons_of_mem _ he)]
        by_cases htoken : token = e
        · rw [if_pos (hsame.mpr htoken), htoken]
          simp
        · rw [if_neg (mt hsame.mp htoken)]
          simp [htoken]

theorem forall_bytes_of_all (names : List CString)
    (h : names.all (fun w => w.all fun b => b != 0 && b != 0x20) = true) :
    ∀ w ∈ names, ∀ b ∈ w, b ≠ 0 ∧ b ≠ 0x20 := by
  intro w hw b hb
  simpa using List.all_eq_true.mp (List.all_eq_true.mp h w hw) b hb

theorem findExtInList_dynamic (token : CString) :
    findExtInList token systemDynamicEGLExtensions = decide (token ∈ dynamicExtensions) := by
  rw [← listText_dynamicExtensions]
  exact findExtInList_listText token fun e he b hb =>
    (forall_bytes_of_all dynamicExtensions (by decide) e he b hb).2

/-! ## The loop -/

/-- Every kept name, with its space, is `apart` from where it moves to; `dropped` are the bytes of
the names before it that are not kept. -/
def CopiesApart (apart : Nat → Nat → Prop) : Nat → List CString → Prop
  | _, [] => True
  | dropped, w :: names =>
      if w ∈ dynamicExtensions then
        (dropped = 0 ∨ apart dropped (w.length + 1)) ∧ CopiesApart apart dropped names
      else CopiesApart apart (dropped + (w.length + 1)) names

instance decidableCopiesApart (apart : Nat → Nat → Prop) [∀ d n, Decidable (apart d n)] :
    ∀ dropped names, Decidable (CopiesApart apart dropped names)
  | _, [] => isTrue trivial
  | dropped, w :: names =>
      have := decidableCopiesApart apart dropped names
      have := decidableCopiesApart apart (dropped + (w.length + 1)) names
      inferInstanceAs (Decidable (if w ∈ dynamicExtensions then
        (dropped = 0 ∨ apart dropped (w.length + 1)) ∧ CopiesApart apart dropped names
        else CopiesApart apart (dropped + (w.length + 1)) names))

section Loop

variable {copy : List UInt8 → Nat → Nat → Nat → Option (List UInt8)}
  {result : Option (List UInt8)}

/-- The cursor `c` runs to the end of a name. -/
theorem filter_skip {w : CString} (hw : ∀ b ∈ w, b ≠ 0 ∧ b ≠ 0x20) {before after : List UInt8}
    {ext insert : Nat}
    (hrest : WhileRun (filterBody copy)
      ⟨before ++ (w ++ after), ext, before.length + w.length, insert⟩ result) :
    WhileRun (filterBody copy) ⟨before ++ (w ++ after), ext, before.length, insert⟩ result := by
  induction w generalizing before with
  | nil => exact hrest
  | cons b w ih =>
      have hb := hw b List.mem_cons_self
      have hget : (before ++ (b :: w ++ after))[before.length]? = some b := by simp
      have hturn : filterBody copy ⟨before ++ (b :: w ++ after), ext, before.length, insert⟩ =
          .again ⟨before ++ (b :: w ++ after), ext, before.length + 1, insert⟩ := by
        simp only [filterBody, hget, if_neg hb.1, if_neg hb.2]
      have hnext := @ih (fun x hx => hw x (List.mem_cons_of_mem _ hx)) (before ++ [b])
      simp only [List.append_assoc, List.singleton_append, List.length_append,
        List.length_singleton] at hnext
      refine .again hturn (hnext ?_)
      rw [Nat.add_right_comm, Nat.add_assoc]
      exact hrest

/-- The turn at the space behind a name. -/
theorem filterBody_space (copy : List UInt8 → Nat → Nat → Nat → Option (List UInt8))
    (before w rest : List UInt8) (insert : Nat) :
    filterBody copy
        ⟨before ++ (w ++ 0x20 :: rest), before.length, before.length + w.length, insert⟩ =
      if w ∈ dynamicExtensions then
        match (if before.length ≠ insert then
            copy (before ++ (w ++ 0x20 :: rest)) insert before.length (w.length + 1)
          else some (before ++ (w ++ 0x20 :: rest))) with
        | none => .leave none
        | some block => .again ⟨block, before.length + w.length + 1, before.length + w.length + 1,
            insert + (w.length + 1)⟩
      else .again ⟨before ++ (w ++ 0x20 :: rest), before.length + w.length + 1,
        before.length + w.length + 1, insert⟩ := by
  have hget : (before ++ (w ++ 0x20 :: rest))[before.length + w.length]? = some 0x20 := by
    rw [← List.append_assoc, ← List.length_append, List.getElem?_append_right le_rfl]
    simp
  have htoken : ((before ++ (w ++ 0x20 :: rest)).drop before.length).take w.length = w := by
    rw [List.drop_left, List.take_left]
  have hspace : (0x20 : UInt8) ≠ 0 := by decide
  simp only [filterBody, hget, if_neg hspace, if_true, Nat.add_sub_cancel_left, htoken,
    findExtInList_dynamic, decide_eq_true_eq]

/-- The turn at the end of the list. -/
theorem filterBody_end (copy : List UInt8 → Nat → Nat → Nat → Option (List UInt8))
    (before rest : List UInt8) (ext insert : Nat) :
    filterBody copy ⟨before ++ 0 :: rest, ext, before.length, insert⟩ =
      .leave (store (before ++ 0 :: rest) insert [0]) := by
  have hget : (before ++ 0 :: rest)[before.length]? = some 0 := by simp
  simp only [filterBody, hget, if_true]

/-- The loop at the beginning of a name, with the names that are still to come: behind `kept` there
are the bytes `gap` of names that were not kept. -/
def atName (kept gap : List UInt8) (names : List CString) (spare : List UInt8) : FilterScan :=
  ⟨kept ++ gap ++ (listText names ++ 0 :: spare), (kept ++ gap).length, (kept ++ gap).length,
    kept.length⟩

theorem filter_nil (kept gap spare : List UInt8) : ∃ behind,
    WhileRun (filterBody copy) (atName kept gap [] spare) (some (kept ++ 0 :: behind)) := by
  have hend := filterBody_end copy (kept ++ gap) spare (kept ++ gap).length kept.length
  cases gap with
  | nil =>
      have hstore : store (kept ++ [] ++ 0 :: spare) kept.length [0] =
          some (kept ++ 0 :: spare) := by
        have hsame : store (kept ++ ([0] ++ spare)) kept.length [0] =
            some (kept ++ ([0] ++ spare)) :=
          store_append kept spare rfl
        simpa using hsame
      exact ⟨spare, .leave (by rw [← hstore]; exact hend)⟩
  | cons b gap =>
      have hstore : store (kept ++ b :: gap ++ 0 :: spare) kept.length [0] =
          some (kept ++ 0 :: (gap ++ 0 :: spare)) := by
        have hfirst : store (kept ++ ([b] ++ (gap ++ 0 :: spare))) kept.length [0] =
            some (kept ++ ([0] ++ (gap ++ 0 :: spare))) := store_append kept _ rfl
        simpa using hfirst
      exact ⟨_, .leave (by rw [← hstore]; exact hend)⟩

section Name

variable {w : CString} {kept gap spare : List UInt8} {names : List CString}

/-- A name that is not kept becomes a part of the gap. -/
theorem filter_drop (hw : ∀ b ∈ w, b ≠ 0 ∧ b ≠ 0x20) (hmem : w ∉ dynamicExtensions)
    (hrest : WhileRun (filterBody copy) (atName kept (gap ++ (w ++ [0x20])) names spare) result) :
    WhileRun (filterBody copy) (atName kept gap (w :: names) spare) result := by
  have hspace := filterBody_space copy (kept ++ gap) w (listText names ++ 0 :: spare)
    kept.length
  rw [if_neg hmem] at hspace
  have hcursor : (kept ++ (gap ++ (w ++ [0x20]))).length = (kept ++ gap).length + w.length + 1 := by
    simp [Nat.add_assoc]
  unfold atName at hrest ⊢
  rw [listText_cons, List.append_assoc w, List.cons_append]
  refine filter_skip hw (.again hspace ?_)
  rw [hcursor] at hrest
  simpa using hrest

/-- A kept name stays if nothing has been dropped before it. -/
theorem filter_keep (hw : ∀ b ∈ w, b ≠ 0 ∧ b ≠ 0x20) (hmem : w ∈ dynamicExtensions)
    (hrest : WhileRun (filterBody copy) (atName (kept ++ (w ++ [0x20])) [] names spare) result) :
    WhileRun (filterBody copy) (atName kept [] (w :: names) spare) result := by
  have hspace := filterBody_space copy kept w (listText names ++ 0 :: spare) kept.length
  rw [if_pos hmem, if_neg (by simp)] at hspace
  dsimp only at hspace
  unfold atName at hrest ⊢
  rw [listText_cons, List.append_assoc w, List.cons_append, List.append_nil]
  refine filter_skip hw (.again hspace ?_)
  simpa [Nat.add_assoc] using hrest

/-- A kept name is copied down over the gap. -/
theorem filterBody_copy (copy : List UInt8 → Nat → Nat → Nat → Option (List UInt8))
    (hmem : w ∈ dynamicExtensions) (hgap : gap ≠ []) (kept spare : List UInt8)
    (names : List CString) :
    filterBody copy ⟨kept ++ gap ++ (w ++ 0x20 :: (listText names ++ 0 :: spare)),
        (kept ++ gap).length, (kept ++ gap).length + w.length, kept.length⟩ =
      match copy (kept ++ (gap ++ ((w ++ [0x20]) ++ (listText names ++ 0 :: spare)))) kept.length
          (kept.length + gap.length) (w ++ [0x20]).length with
      | none => .leave none
      | some block => .again ⟨block, (kept ++ gap).length + w.length + 1,
          (kept ++ gap).length + w.length + 1, kept.length + (w.length + 1)⟩ := by
  have hpos := List.length_pos_of_ne_nil hgap
  rw [filterBody_space, if_pos hmem, if_pos (by rw [List.length_append]; omega)]
  simp

/-- The loop goes on behind the copy, with a gap of the same length. -/
theorem filter_copy (hw : ∀ b ∈ w, b ≠ 0 ∧ b ≠ 0x20) (hmem : w ∈ dynamicExtensions)
    (hgap : gap ≠ [])
    (hcopy : copy (kept ++ (gap ++ ((w ++ [0x20]) ++ (listText names ++ 0 :: spare)))) kept.length
        (kept.length + gap.length) (w ++ [0x20]).length =
      some (kept ++ ((w ++ [0x20]) ++ ((gap ++ (w ++ [0x20])).drop (w ++ [0x20]).length ++
        (listText names ++ 0 :: spare)))))
    (hrest : WhileRun (filterBody copy) (atName (kept ++ (w ++ [0x20]))
      ((gap ++ (w ++ [0x20])).drop (w ++ [0x20]).length) names spare) result) :
    WhileRun (filterBody copy) (atName kept gap (w :: names) spare) result := by
  have hturn := filterBody_copy copy hmem hgap kept spare names
  rw [hcopy] at hturn
  have hcursor : (kept ++ (w ++ [(0x20 : UInt8)]) ++
      (gap ++ (w ++ [0x20])).drop (w ++ [(0x20 : UInt8)]).length).length =
      (kept ++ gap).length + w.length + 1 := by
    simp
    omega
  have hinsert : (kept ++ (w ++ [(0x20 : UInt8)])).length = kept.length + (w.length + 1) := by simp
  unfold atName at hrest ⊢
  rw [listText_cons, List.append_assoc w, List.cons_append]
  refine filter_skip hw (.again hturn ?_)
  rw [hcursor, hinsert] at hrest
  simpa using hrest

/-- The loop ends with a copy that is not allowed. -/
theorem filter_fail (hw : ∀ b ∈ w, b ≠ 0 ∧ b ≠ 0x20) (hmem : w ∈ dynamicExtensions)
    (hgap : gap ≠ [])
    (hcopy : copy (kept ++ (gap ++ ((w ++ [0x20]) ++ (listText names ++ 0 :: spare)))) kept.length
      (kept.length + gap.length) (w ++ [0x20]).length = none) :
    WhileRun (filterBody copy) (atName kept gap (w :: names) spare) none := by
  have hturn := filterBody_copy copy hmem hgap kept spare names
  rw [hcopy] at hturn
  unfold atName
  rw [listText_cons, List.append_assoc w, List.cons_append]
  exact filter_skip hw (.leave hturn)

end Name

/-- A copy that moves a piece down over a gap just if they are apart. -/
def CopiesDown (copy : List UInt8 → Nat → Nat → Nat → Option (List UInt8))
    (apart : Nat → Nat → Prop) : Prop :=
  ∀ before gap piece after : List UInt8, gap ≠ [] →
    (apart gap.length piece.length →
      copy (before ++ (gap ++ (piece ++ after))) before.length (before.length + gap.length)
          piece.length = some (before ++ (piece ++ ((gap ++ piece).drop piece.length ++ after)))) ∧
    (¬apart gap.length piece.length →
      copy (before ++ (gap ++ (piece ++ after))) before.length (before.length + gap.length)
          piece.length = none)

theorem copiesDown_memcpy : CopiesDown memcpy fun dropped n => n ≤ dropped := by
  intro before gap piece after hgap
  rw [memcpy_down before gap piece after hgap]
  exact ⟨fun h => if_pos h, fun h => if_neg h⟩

theorem copiesDown_memmove : CopiesDown memmove fun _ _ => True :=
  fun before gap piece after _ =>
    ⟨fun _ => memmove_down before gap piece after, fun h => absurd trivial h⟩

variable {apart : Nat → Nat → Prop}

/-- The loop keeps the names that the dynamic list has, if no copy meets bytes of its own; else
it ends there. -/
theorem filter_run (hcopy : CopiesDown copy apart) {names : List CString}
    (hnames : ∀ w ∈ names, ∀ b ∈ w, b ≠ 0 ∧ b ≠ 0x20) (kept gap spare : List UInt8) :
    (CopiesApart apart gap.length names → ∃ behind,
      WhileRun (filterBody copy) (atName kept gap names spare)
        (some (kept ++ (listText (names.filter (· ∈ dynamicExtensions)) ++ 0 :: behind)))) ∧
    (¬CopiesApart apart gap.length names →
      WhileRun (filterBody copy) (atName kept gap names spare) none) := by
  induction names generalizing kept gap with
  | nil => exact ⟨fun _ => filter_nil kept gap spare, fun h => absurd trivial h⟩
  | cons w names ih =>
      have hw := hnames w List.mem_cons_self
      have ih := fun kept gap => ih (fun v hv => hnames v (List.mem_cons_of_mem _ hv)) kept gap
      unfold CopiesApart
      by_cases hmem : w ∈ dynamicExtensions
      · rw [if_pos hmem, List.filter_cons_of_pos (by simpa using hmem), listText_cons]
        by_cases hgap : gap = []
        · subst hgap
          obtain ⟨hgood, hbad⟩ := ih (kept ++ (w ++ [0x20])) []
          constructor
          · rintro ⟨-, hrest⟩
            obtain ⟨behind, hrun⟩ := hgood hrest
            exact ⟨behind, filter_keep hw hmem (by simpa using hrun)⟩
          · intro h
            exact filter_keep hw hmem (hbad fun hrest => h ⟨Or.inl rfl, hrest⟩)
        · obtain ⟨happly, hfail⟩ :=
            hcopy kept gap (w ++ [0x20]) (listText names ++ 0 :: spare) hgap
          have hsize : (w ++ [(0x20 : UInt8)]).length = w.length + 1 := by simp
          -- the gap has moved behind the name, and is as long as before
          have hmoved : ((gap ++ (w ++ [0x20])).drop (w ++ [0x20]).length).length = gap.length := by
            simp
          obtain ⟨hgood, hbad⟩ :=
            ih (kept ++ (w ++ [0x20])) ((gap ++ (w ++ [0x20])).drop (w ++ [0x20]).length)
          rw [hmoved] at hgood hbad
          rw [← hsize]
          constructor
          · rintro ⟨hapart, hrest⟩
            have hapart := hapart.resolve_left (mt List.length_eq_zero_iff.mp hgap)
            obtain ⟨behind, hrun⟩ := hgood hrest
            exact ⟨behind, filter_copy hw hmem hgap (happly hapart) (by simpa using hrun)⟩
          · intro h
            by_cases hapart : apart gap.length (w ++ [0x20]).length
            · exact filter_copy hw hmem hgap (happly hapart)
                (hbad fun hrest => h ⟨Or.inr hapart, hrest⟩)
            · exact filter_fail hw hmem hgap (hfail hapart)
      · rw [if_neg hmem, List.filter_cons_of_neg (by simpa using hmem)]
        have hsize : (gap ++ (w ++ [0x20])).length = gap.length + (w.length + 1) := by simp
        obtain ⟨hgood, hbad⟩ := ih kept (gap ++ (w ++ [0x20]))
        rw [hsize] at hgood hbad
        constructor
        · intro h
          obtain ⟨behind, hrun⟩ := hgood h
          exact ⟨behind, filter_drop hw hmem hrun⟩
        · exact fun h => filter_drop hw hmem (hbad h)

end Loop

/-! ## The string of the host -/

/-- The host has the string `s`: it tells the bytes that it takes, and copies it into a buffer of
that size. -/
structure Reports (rcQueryEGLString : QueryEGLString) (s : CString) : Prop where
  required : (rcQueryEGLString 0).1.toInt = -(s.length + 1 : Int)
  returned : (rcQueryEGLString (s.length + 1)).1.toInt = (s.length + 1 : Int)
  copied : ∀ i < s.length + 1, some ((rcQueryEGLString (s.length + 1)).2 i) = (s ++ [0])[i]?

variable {rcQueryEGLString : QueryEGLString}

/-- `queryHostEGLString` appends a space. -/
theorem queryHostEGLString_of_reports {s : CString} (h : Reports rcQueryEGLString s)
    (hs : ∀ b ∈ s, b ≠ 0) (memory : UInt8 × UInt8) :
    queryHostEGLString (some rcQueryEGLString) memory =
      some (some (s ++ [0x20] ++ 0 :: [memory.2])) := by
  have hsize : (-(rcQueryEGLString 0).1.toInt).toNat = s.length + 1 := by
    rw [h.required]
    omega
  have hbuffer : (List.range (s.length + 1)).map (rcQueryEGLString (s.length + 1)).2 =
      s ++ [0] := by
    apply List.ext_getElem?
    intro i
    by_cases hi : i < s.length + 1
    · rw [List.getElem?_map, List.getElem?_range hi, Option.map_some, h.copied i hi]
    · rw [List.getElem?_eq_none (by simpa using hi),
        List.getElem?_eq_none (by simp; omega)]
  have hroom : strcat (s ++ [0] ++ [memory.1, memory.2]) [0x20] =
      some (s ++ [0x20] ++ 0 :: [memory.2]) := by
    have hadded : strcat (s ++ 0 :: ([memory.1] ++ [memory.2])) [0x20] =
        some (s ++ ([0x20] ++ 0 :: [memory.2])) := strcat_append hs [0x20] rfl
    simpa using hadded
  unfold queryHostEGLString
  dsimp only
  rw [if_pos (by rw [h.required]; omega), hsize]
  rw [if_pos (by rw [h.returned]; omega), hbuffer, hroom]
  rfl

/-- Names with a space between them, and one more space. -/
theorem intercalate_append_space {names : List CString} (hne : names ≠ []) :
    List.intercalate [0x20] names ++ [0x20] = listText names := by
  induction names with
  | nil => exact absurd rfl hne
  | cons w names ih =>
      cases names with
      | nil => simp [List.intercalate]
      | cons v rest =>
          have hrest := ih (by simp)
          rw [listText_cons, ← hrest]
          simp [List.intercalate]

theorem ne_zero_of_mem_listText {names : List CString} (hnames : ∀ w ∈ names, ∀ b ∈ w, b ≠ 0)
    {b : UInt8} (hb : b ∈ listText names) : b ≠ 0 := by
  obtain ⟨w, hw, hmem⟩ := List.mem_flatMap.mp hb
  rcases List.mem_append.mp hmem with hmem | hmem
  · exact hnames w hw b hmem
  · rw [List.mem_singleton.mp hmem]
    decide

theorem prependStatic_append {s : CString} (hs : ∀ b ∈ s, b ≠ 0) (rest : List UInt8) :
    prependStatic (s ++ 0 :: rest) = some (systemStaticEGLExtensions ++ s) := by
  rw [prependStatic, strlen_append hs, Option.map_some]
  by_cases hpos : 0 < s.length
  · rw [if_pos hpos, List.take_left]
  · rw [if_neg hpos, List.length_eq_zero_iff.mp (Nat.eq_zero_of_not_pos hpos), List.append_nil]

/-- For every copy, the string of a host with at least two bytes of names comes out of the loop. -/
theorem buildsExtensionString_filter (copy : List UInt8 → Nat → Nat → Nat → Option (List UInt8))
    {names : List CString} (hnames : ∀ w ∈ names, ∀ b ∈ w, b ≠ 0 ∧ b ≠ 0x20)
    (hlength : 2 ≤ (List.intercalate [0x20] names).length)
    (hhost : Reports rcQueryEGLString (List.intercalate [0x20] names)) (memory : UInt8 × UInt8)
    (result : Option CString) :
    BuildsExtensionString copy (some rcQueryEGLString) memory result ↔
      ∃ filtered, WhileRun (filterBody copy) (atName [] [] names [memory.2]) filtered ∧
        result = filtered.bind prependStatic := by
  have hne : names ≠ [] := by
    rintro rfl
    simp [List.intercalate] at hlength
  have htext := intercalate_append_space hne
  have hbytes : ∀ b ∈ List.intercalate [0x20] names, b ≠ 0 := by
    intro b hb
    have hmem : b ∈ listText names := by
      rw [← htext]
      exact List.mem_append_left _ hb
    exact ne_zero_of_mem_listText (fun w hw b hb => (hnames w hw b hb).1) hmem
  have hsecond : ∃ b : UInt8, b ≠ 0 ∧
      (listText names ++ 0 :: [memory.2] : List UInt8)[1]? = some b := by
    refine ⟨(List.intercalate [0x20] names).get ⟨1, hlength⟩, hbytes _ (List.get_mem _ _), ?_⟩
    rw [← htext, List.append_assoc, List.getElem?_append_left hlength,
      List.getElem?_eq_getElem hlength]
    rfl
  obtain ⟨b, hb, hget⟩ := hsecond
  unfold BuildsExtensionString
  rw [queryHostEGLString_of_reports hhost hbytes, htext]
  dsimp only
  rw [hget]
  split
  · rename_i hnone
    cases hnone
  · rename_i hzero
    exact absurd (Option.some.inj hzero) hb
  · simp only [atName, List.nil_append, List.length_nil]

section Built

variable {names : List CString} (hnames : ∀ w ∈ names, ∀ b ∈ w, b ≠ 0 ∧ b ≠ 0x20)
  (hlength : 2 ≤ (List.intercalate [0x20] names).length)
  (hhost : Reports rcQueryEGLString (List.intercalate [0x20] names)) (memory : UInt8 × UInt8)
include hnames hlength hhost

/-- The function ends: with the static names and the host's names of the dynamic list, if the
copies are allowed, and else with one that is not. -/
theorem buildsExtensionString_of_copiesDown
    {copy : List UInt8 → Nat → Nat → Nat → Option (List UInt8)} {apart : Nat → Nat → Prop}
    (hcopy : CopiesDown copy apart) (result : Option CString) :
    BuildsExtensionString copy (some rcQueryEGLString) memory result ↔
      (CopiesApart apart 0 names ∧ result = some (systemStaticEGLExtensions ++
        listText (names.filter (· ∈ dynamicExtensions)))) ∨
      (¬CopiesApart apart 0 names ∧ result = none) := by
  obtain ⟨hgood, hbad⟩ := filter_run hcopy hnames [] [] [memory.2]
  rw [buildsExtensionString_filter copy hnames hlength hhost]
  have hkept : ∀ b ∈ listText (names.filter (· ∈ dynamicExtensions)), b ≠ 0 := fun b hb =>
    ne_zero_of_mem_listText (fun w hw b hb => (hnames w (List.mem_of_mem_filter hw) b hb).1) hb
  by_cases hapart : CopiesApart apart 0 names
  · obtain ⟨behind, hrun⟩ := hgood hapart
    constructor
    · rintro ⟨filtered, hfiltered, rfl⟩
      rw [hfiltered.unique hrun]
      exact Or.inl ⟨hapart, prependStatic_append hkept behind⟩
    · rintro (⟨-, rfl⟩ | ⟨hnot, -⟩)
      · exact ⟨_, hrun, (prependStatic_append hkept behind).symm⟩
      · exact absurd hapart hnot
  · constructor
    · rintro ⟨filtered, hfiltered, rfl⟩
      rw [hfiltered.unique (hbad hapart)]
      exact Or.inr ⟨hapart, rfl⟩
    · rintro (⟨hyes, -⟩ | ⟨-, rfl⟩)
      · exact absurd hyes hapart
      · exact ⟨none, hbad hapart, rfl⟩

/-- With `memmove` in place of `memcpy` the string would always be that. -/
theorem buildsExtensionString_memmove :
    BuildsExtensionString memmove (some rcQueryEGLString) memory
      (some (systemStaticEGLExtensions ++ listText (names.filter (· ∈ dynamicExtensions)))) := by
  have hall : ∀ names dropped, CopiesApart (fun _ _ => True) dropped names := by
    intro names
    induction names with
    | nil => exact fun _ => trivial
    | cons w names ih =>
        intro dropped
        unfold CopiesApart
        split
        · exact ⟨Or.inr trivial, ih dropped⟩
        · exact ih _
  exact (buildsExtensionString_of_copiesDown hnames hlength hhost memory copiesDown_memmove _).mpr
    (Or.inl ⟨hall names 0, rfl⟩)

/-- For every list of the host, the string is the static list and the host's names that are whole
entries of the dynamic one, in their order, just if every kept name is behind dropped bytes that
are none or at least as many as it takes itself. -/
theorem buildsExtensionString_iff :
    BuildsExtensionString memcpy (some rcQueryEGLString) memory
        (some (systemStaticEGLExtensions ++ listText (names.filter (· ∈ dynamicExtensions)))) ↔
      CopiesApart (fun dropped n => n ≤ dropped) 0 names := by
  rw [buildsExtensionString_of_copiesDown hnames hlength hhost memory copiesDown_memcpy]
  simp

end Built

/-- A host with the string `s`, as the protocol describes it. -/
def hostOf (s : CString) : QueryEGLString := fun size =>
  if size < s.length + 1 then (BitVec.ofInt 32 (-(s.length + 1 : Int)), fun _ => 0)
  else (BitVec.ofNat 32 (s.length + 1), fun i => (s ++ [0]).getD i 0)

theorem hostOf_reports {s : CString} (hs : s.length + 1 < 2 ^ 31) : Reports (hostOf s) s where
  required := by
    rw [hostOf, if_pos (by omega), BitVec.toInt_ofInt]
    exact Int.bmod_eq_of_le (by omega) (by omega)
  returned := by
    rw [hostOf, if_neg (by omega), BitVec.toInt_ofNat']
    exact Int.bmod_eq_of_le (by omega) (by omega)
  copied := by
    intro i hi
    rw [hostOf, if_neg (by omega)]
    show some ((s ++ [0]).getD i 0) = _
    rw [List.getD_eq_getElem?_getD, List.getElem?_eq_getElem (by simpa using hi), Option.getD_some]

/-- A long name before it leaves room enough for `EGL_KHR_image_base`. -/
theorem buildsExtensionString_iff_framebuffer_target :
    BuildsExtensionString memcpy
      (some (hostOf (ofChars "EGL_ANDROID_framebuffer_target EGL_KHR_image_base".toList))) (0, 0)
      (some (ofChars
        "EGL_ANDROID_image_native_buffer EGL_KHR_fence_sync EGL_KHR_image_base ".toList)) := by
  have hnames := forall_bytes_of_all [ofChars "EGL_ANDROID_framebuffer_target".toList,
    ofChars "EGL_KHR_image_base".toList] (by decide)
  have hhost : ofChars "EGL_ANDROID_framebuffer_target EGL_KHR_image_base".toList =
      List.intercalate [0x20] [ofChars "EGL_ANDROID_framebuffer_target".toList,
        ofChars "EGL_KHR_image_base".toList] := by decide +kernel
  have hbuilt : ofChars
        "EGL_ANDROID_image_native_buffer EGL_KHR_fence_sync EGL_KHR_image_base ".toList =
      systemStaticEGLExtensions ++ listText ([ofChars "EGL_ANDROID_framebuffer_target".toList,
        ofChars "EGL_KHR_image_base".toList].filter (· ∈ dynamicExtensions)) := by
    decide +kernel
  rw [hhost, hbuilt]
  exact (buildsExtensionString_iff hnames (by decide) (hostOf_reports (by decide)) (0, 0)).mpr
    (by decide)

/-- A short name before it does not: `memcpy` is given places that overlap. -/
theorem not_buildsExtensionString_short_name :
    ¬BuildsExtensionString memcpy
      (some (hostOf (ofChars "EGL_EXT_x EGL_KHR_image_base".toList))) (0, 0)
      (some (ofChars
        "EGL_ANDROID_image_native_buffer EGL_KHR_fence_sync EGL_KHR_image_base ".toList)) := by
  have hnames := forall_bytes_of_all [ofChars "EGL_EXT_x".toList,
    ofChars "EGL_KHR_image_base".toList] (by decide)
  have hhost : ofChars "EGL_EXT_x EGL_KHR_image_base".toList = List.intercalate [0x20]
      [ofChars "EGL_EXT_x".toList, ofChars "EGL_KHR_image_base".toList] := by decide +kernel
  intro hbuilds
  rw [hhost] at hbuilds
  rcases (buildsExtensionString_of_copiesDown hnames (by decide) (hostOf_reports (by decide))
    (0, 0) copiesDown_memcpy _).mp hbuilds with ⟨hapart, -⟩ | ⟨-, hnone⟩
  · exact absurd hapart (by decide)
  · cases hnone

end EGL
end DeviceAndroVM
