import DeviceAndroVM.GLESv2Enc.ShaderSource
import DeviceAndroVM.Library.WhileLoop

/-!
# The loops over a shader source

The two loops of `replaceSamplerExternalWith2D` (`GL2Encoder.cpp` lines 591–641), one
iteration after the other, over the string that they modify.

* `ExtensionScan`, `SamplerScan` — the string with the cursor `c` in it.
* `extensionBody`, `samplerBody` — one iteration.
* `overwriteExtensions_run`, `replaceSamplers_run` — both loops end, with the results of
  `overwriteExtensions` and `replaceSamplers`.
* `overwritten_cons`, `replacedFrom_cons`, `replacedFrom_keyword` — the results byte by byte.
-/

namespace DeviceAndroVM
namespace GLESv2Enc

open OpenGL Library OpenglCodecCommon CString

namespace GL2Encoder

/-- The string of the first loop: the cursor `c` stands behind the bytes `passed`. -/
structure ExtensionScan where
  passed : String8
  rest : String8

/-- The string of the second loop, and the names pushed so far. -/
structure SamplerScan where
  passed : String8
  rest : String8
  names : List String8

/-- An iteration of the first loop. -/
def extensionBody (scan : ExtensionScan) : Iteration ExtensionScan String8 :=
  match strstr STR_HASH_EXTENSION scan.rest with
  | none => .leave (scan.passed ++ scan.rest)
  | some (before, after) =>
      let c := after.dropWhile isspace
      if STR_GL_OES_EGL_IMAGE_EXTERNAL <+: c then
        -- `c = start`, and up to the end of the line
        let start := STR_HASH_EXTENSION ++ after
        let line := start.takeWhile fun b => b != 0x0D && b != 0x0A
        .again ⟨scan.passed ++ (before ++ List.replicate line.length 0x20),
          start.drop line.length⟩
      else
        .again ⟨scan.passed ++ (before ++ STR_HASH_EXTENSION ++ after.takeWhile isspace), c⟩

/-- An iteration of the second loop. -/
def samplerBody (scan : SamplerScan) : Iteration SamplerScan Replaced :=
  match strstr STR_SAMPLER_EXTERNAL_OES scan.rest with
  | none => .leave ⟨true, scan.names, scan.passed ++ scan.rest⟩
  | some (before, after) =>
      if !(scan.passed ++ before).getLast?.any isspace then
        .again ⟨scan.passed ++ (before ++ STR_SAMPLER_EXTERNAL_OES.take 1),
          STR_SAMPLER_EXTERNAL_OES.tail ++ after, scan.names⟩
      else if after.head?.any (!isspace ·) then
        .again ⟨scan.passed ++ (before ++ STR_SAMPLER_EXTERNAL_OES), after, scan.names⟩
      else
        match after.dropWhile isspace with
        | [] => .leave ⟨false, scan.names, scan.passed ++ scan.rest⟩
        | first :: tail =>
            if !isIdentifierStart first then
              .leave ⟨false, scan.names, scan.passed ++ scan.rest⟩
            else
              let name := first :: tail.takeWhile isIdentifierByte
              .again ⟨scan.passed ++
                  (before ++ STR_SAMPLER2D_SPACE ++ after.takeWhile isspace ++ name),
                tail.dropWhile isIdentifierByte, scan.names ++ [name]⟩

end GL2Encoder

open GL2Encoder

/-! ## The loops end -/

/-- The line of a `#extension` is not empty. -/
theorem length_drop_line (after : String8) :
    ((STR_HASH_EXTENSION ++ after).drop
      ((STR_HASH_EXTENSION ++ after).takeWhile fun b => b != 0x0D && b != 0x0A).length).length <
      (STR_HASH_EXTENSION ++ after).length := by
  have hline : (STR_HASH_EXTENSION ++ after).takeWhile (fun b => b != 0x0D && b != 0x0A) =
      0x23 :: (STR_HASH_EXTENSION.tail ++ after).takeWhile fun b => b != 0x0D && b != 0x0A :=
    List.takeWhile_cons_of_pos rfl
  rw [List.length_drop, hline, List.length_cons]
  exact Nat.sub_lt (Nat.succ_pos _) (Nat.succ_pos _)

/-- The first loop ends, and leaves `overwriteExtensions`. -/
theorem overwriteExtensions_run (fuel : Nat) (passed s : String8) (hfuel : s.length < fuel) :
    WhileRun extensionBody ⟨passed, s⟩ (passed ++ overwriteExtensions fuel s) := by
  induction fuel generalizing passed s with
  | zero => exact absurd hfuel (Nat.not_lt_zero _)
  | succ fuel ih =>
      cases hfound : strstr STR_HASH_EXTENSION s with
      | none =>
          rw [overwriteExtensions, hfound]
          apply WhileRun.leave
          rw [extensionBody, hfound]
      | some found =>
          obtain ⟨before, after⟩ := found
          have hs := strstr_eq_append hfound
          rw [List.append_assoc] at hs
          rw [hs, List.length_append] at hfuel
          rw [overwriteExtensions, hfound]
          dsimp only
          by_cases hname : STR_GL_OES_EGL_IMAGE_EXTERNAL <+: after.dropWhile isspace
          · rw [if_pos hname, ← List.append_assoc]
            refine WhileRun.again ?_ (ih _ _ ?_)
            · rw [extensionBody, hfound]
              exact if_pos hname
            · have hline := length_drop_line after
              omega
          · rw [if_neg hname, ← List.append_assoc]
            refine WhileRun.again ?_ (ih _ _ ?_)
            · rw [extensionBody, hfound]
              exact if_neg hname
            · have hspace := List.length_dropWhile_le isspace after
              rw [List.length_append] at hfuel
              have hneedle : STR_HASH_EXTENSION.length = 10 := rfl
              omega

/-- An iteration that passes the bytes `bytes`, and the rest of the second loop. -/
theorem samplerBody_again {fuel : Nat} {passed s bytes rest : String8} {names : List String8}
    (pushed : List String8)
    (hbody : samplerBody ⟨passed, s, names⟩ = .again ⟨passed ++ bytes, rest, names ++ pushed⟩)
    {prev : Option UInt8} (hprev : (passed ++ bytes).getLast? = prev)
    (hrest : WhileRun samplerBody ⟨passed ++ bytes, rest, names ++ pushed⟩
      ⟨(replaceSamplers fuel (passed ++ bytes).getLast? rest).ok,
        names ++ pushed ++ (replaceSamplers fuel (passed ++ bytes).getLast? rest).names,
        passed ++ bytes ++ (replaceSamplers fuel (passed ++ bytes).getLast? rest).text⟩) :
    WhileRun samplerBody ⟨passed, s, names⟩
      ⟨(replaceSamplers fuel prev rest).ok,
        names ++ (pushed ++ (replaceSamplers fuel prev rest).names),
        passed ++ (bytes ++ (replaceSamplers fuel prev rest).text)⟩ := by
  rw [hprev, List.append_assoc, List.append_assoc] at hrest
  exact .again hbody hrest

/-- The second loop ends, and leaves `replaceSamplers`. -/
theorem replaceSamplers_run (fuel : Nat) (passed s : String8) (names : List String8)
    (hfuel : s.length < fuel) :
    WhileRun samplerBody ⟨passed, s, names⟩
      ⟨(replaceSamplers fuel passed.getLast? s).ok,
        names ++ (replaceSamplers fuel passed.getLast? s).names,
        passed ++ (replaceSamplers fuel passed.getLast? s).text⟩ := by
  induction fuel generalizing passed s names with
  | zero => exact absurd hfuel (Nat.not_lt_zero _)
  | succ fuel ih =>
      cases hfound : strstr STR_SAMPLER_EXTERNAL_OES s with
      | none =>
          rw [replaceSamplers, hfound]
          apply WhileRun.leave
          rw [samplerBody, hfound, List.append_nil]
      | some found =>
          obtain ⟨before, after⟩ := found
          have hs := strstr_eq_append hfound
          rw [List.append_assoc] at hs
          rw [hs, List.length_append, length_keyword_append] at hfuel
          have hspace := List.length_dropWhile_le isspace after
          rw [replaceSamplers, hfound]
          dsimp only
          rw [← List.getLast?_append]
          by_cases hprev : (!(passed ++ before).getLast?.any isspace) = true
          · rw [if_pos hprev]
            refine samplerBody_again [] ?_ ?_ (ih _ _ _ ?_)
            · rw [samplerBody, hfound, List.append_nil]
              exact if_pos hprev
            · rw [List.getLast?_append, List.getLast?_append]
              rfl
            · have htail : (STR_SAMPLER_EXTERNAL_OES.tail ++ after).length + 1 =
                  (STR_SAMPLER_EXTERNAL_OES ++ after).length := rfl
              rw [length_keyword_append] at htail
              omega
          rw [if_neg hprev]
          by_cases hword : after.head?.any (!isspace ·) = true
          · rw [if_pos hword]
            refine samplerBody_again [] ?_ ?_ (ih _ _ _ (by omega))
            · rw [samplerBody, hfound, List.append_nil]
              exact (if_neg hprev).trans (if_pos hword)
            · rw [List.getLast?_append, List.getLast?_append]
              rfl
          rw [if_neg hword]
          cases hnext : after.dropWhile isspace with
          | nil =>
              rw [List.append_nil]
              refine WhileRun.leave ?_
              rw [samplerBody, hfound]
              refine (if_neg hprev).trans ((if_neg hword).trans ?_)
              rw [hnext]
          | cons first tail =>
              dsimp only
              by_cases hfirst : (!isIdentifierStart first) = true
              · rw [if_pos hfirst, List.append_nil]
                refine WhileRun.leave ?_
                rw [samplerBody, hfound]
                refine (if_neg hprev).trans ((if_neg hword).trans ?_)
                rw [hnext]
                exact if_pos hfirst
              · rw [if_neg hfirst]
                rw [hnext, List.length_cons] at hspace
                have htail := List.length_dropWhile_le isIdentifierByte tail
                refine samplerBody_again [first :: tail.takeWhile isIdentifierByte] ?_ ?_
                  (ih _ _ _ (by omega))
                · rw [samplerBody, hfound]
                  refine (if_neg hprev).trans ((if_neg hword).trans ?_)
                  rw [hnext]
                  exact if_neg hfirst
                · rw [List.getLast?_append, List.getLast?_append,
                    List.getLast?_cons]
                  rfl

/-! ## The first loop, byte by byte -/

/-- A text begins with `#extension`, at least `least` bytes of white space, and
`GL_OES_EGL_image_external`. -/
def BeginsDirective (least : Nat) (s : String8) : Prop :=
  STR_HASH_EXTENSION <+: s ∧
    least ≤ ((s.drop STR_HASH_EXTENSION.length).takeWhile isspace).length ∧
      STR_GL_OES_EGL_IMAGE_EXTERNAL <+: (s.drop STR_HASH_EXTENSION.length).dropWhile isspace

instance (least : Nat) (s : String8) : Decidable (BeginsDirective least s) :=
  inferInstanceAs (Decidable (_ ∧ _ ∧ _))

/-- The rest of the line. -/
def lineOf (s : String8) : String8 := s.takeWhile fun b => b != 0x0D && b != 0x0A

/-- What the first loop leaves of a text. -/
def overwritten (s : String8) : String8 := overwriteExtensions (s.length + 1) s

theorem overwriteExtensions_eq {fuel : Nat} {s : String8} (hfuel : s.length < fuel) :
    overwriteExtensions fuel s = overwritten s :=
  (overwriteExtensions_run fuel [] s hfuel).unique
    (overwriteExtensions_run (s.length + 1) [] s (Nat.lt_succ_self _))

theorem overwriteExtensions_of_unmatched {fuel : Nat} {c : UInt8} {rest : String8}
    (h : ¬ STR_HASH_EXTENSION <+: c :: rest) :
    overwriteExtensions (fuel + 1) (c :: rest) = c :: overwriteExtensions (fuel + 1) rest := by
  rw [overwriteExtensions, overwriteExtensions, strstr, if_neg h]
  cases strstr STR_HASH_EXTENSION rest with
  | none => rfl
  | some found =>
      simp only [Option.map_some]
      split
      · rfl
      · rfl

theorem overwritten_of_unmatched {c : UInt8} {rest : String8}
    (h : ¬ STR_HASH_EXTENSION <+: c :: rest) :
    overwritten (c :: rest) = c :: overwritten rest := by
  rw [overwritten, overwriteExtensions_of_unmatched h, overwriteExtensions_eq]
  exact Nat.lt_succ_of_lt (Nat.lt_succ_self _)

/-- A `#extension` begins with `#`. -/
theorem eq_hash_of_begins {c : UInt8} {rest : String8} (h : STR_HASH_EXTENSION <+: c :: rest) :
    c = 0x23 := (List.cons_prefix_cons.mp h).1.symm

/-- Bytes that are no `#` stay. -/
theorem overwritten_append {bytes : String8} (h : ∀ b ∈ bytes, b ≠ 0x23) (s : String8) :
    overwritten (bytes ++ s) = bytes ++ overwritten s := by
  induction bytes with
  | nil => rfl
  | cons c rest ih =>
      rw [List.cons_append, overwritten_of_unmatched,
        ih fun b hb => h b (List.mem_cons_of_mem c hb)]
      · rfl
      · exact fun hprefix => h c List.mem_cons_self (eq_hash_of_begins hprefix)

/-- There is no further `#` in `#extension` and the white space behind it. -/
theorem ne_hash_of_mem {b : UInt8} {after : String8}
    (h : b ∈ STR_HASH_EXTENSION.tail ++ after.takeWhile isspace) : b ≠ 0x23 := by
  rcases List.mem_append.mp h with hmem | hmem
  · have hall : ∀ b ∈ STR_HASH_EXTENSION.tail, (b != 0x23) = true :=
      List.all_eq_true.mp (by decide)
    exact bne_iff_ne.mp (hall b hmem)
  · rintro rfl
    exact absurd (List.mem_takeWhile_imp hmem) (by decide)

theorem overwritten_cons (c : UInt8) (rest : String8) :
    overwritten (c :: rest) =
      if BeginsDirective 0 (c :: rest) then
        List.replicate (lineOf (c :: rest)).length 0x20 ++
          overwritten ((c :: rest).drop (lineOf (c :: rest)).length)
      else c :: overwritten rest := by
  by_cases hhash : STR_HASH_EXTENSION <+: c :: rest
  · obtain ⟨after, hafter⟩ := hhash
    have hprefix : STR_HASH_EXTENSION <+: c :: rest := ⟨after, hafter⟩
    have hfound : strstr STR_HASH_EXTENSION (c :: rest) = some ([], after) := by
      rw [strstr, if_pos hprefix, ← hafter]
      rfl
    have hdirective : BeginsDirective 0 (c :: rest) ↔
        STR_GL_OES_EGL_IMAGE_EXTERNAL <+: after.dropWhile isspace := by
      rw [BeginsDirective, ← hafter, List.drop_left]
      simp
    have hspace := List.length_dropWhile_le isspace after
    have hlength : (c :: rest).length = 10 + after.length := by
      rw [← hafter]
      exact List.length_append
    rw [overwritten, overwriteExtensions, hfound]
    dsimp only
    by_cases hname : STR_GL_OES_EGL_IMAGE_EXTERNAL <+: after.dropWhile isspace
    · rw [if_pos hname, if_pos (hdirective.mpr hname), overwriteExtensions_eq, ← hafter]
      · rfl
      · have hline := length_drop_line after
        rwa [hafter] at hline ⊢
    · rw [if_neg hname, if_neg (fun h => hname (hdirective.mp h)),
        overwriteExtensions_eq (by omega)]
      have hrest : rest = (STR_HASH_EXTENSION.tail ++ after.takeWhile isspace) ++
          after.dropWhile isspace := by
        rw [List.append_assoc, List.takeWhile_append_dropWhile]
        exact (List.cons.inj hafter).2.symm
      rw [hrest, overwritten_append fun b => ne_hash_of_mem, eq_hash_of_begins hprefix]
      rfl
  · rw [overwritten_of_unmatched hhash, if_neg fun h => hhash h.1]

/-! ## The second loop, word by word -/

/-- What the second loop does with a text behind the byte `prev`. -/
def replacedFrom (prev : Option UInt8) (s : String8) : Replaced :=
  replaceSamplers (s.length + 1) prev s

theorem replaceSamplers_eq {fuel : Nat} (prev : Option UInt8) {s : String8}
    (hfuel : s.length < fuel) : replaceSamplers fuel prev s = replacedFrom prev s := by
  have hlast : prev.toList.getLast? = prev := by cases prev <;> rfl
  have hrun := (replaceSamplers_run fuel prev.toList s [] hfuel).unique
    (replaceSamplers_run (s.length + 1) prev.toList s [] (Nat.lt_succ_self _))
  rw [hlast] at hrun
  obtain ⟨hok, hnames, htext⟩ := Replaced.mk.inj hrun
  have htext := List.append_cancel_left htext
  cases hr : replaceSamplers fuel prev s
  cases hr' : replaceSamplers (s.length + 1) prev s
  rw [hr, hr'] at hok hnames htext
  rw [replacedFrom, hr']
  exact congr (congr (congrArg Replaced.mk hok) hnames) htext

@[simp] theorem Replaced.behind_nil (r : Replaced) : r.behind [] = r := rfl

@[simp] theorem Replaced.behind_behind (r : Replaced) (before after : String8) :
    (r.behind after).behind before = r.behind (before ++ after) := by
  simp [Replaced.behind]

theorem replacedFrom_of_unmatched {prev : Option UInt8} {c : UInt8} {rest : String8}
    (h : ¬ STR_SAMPLER_EXTERNAL_OES <+: c :: rest) :
    replacedFrom prev (c :: rest) = (replacedFrom (some c) rest).behind [c] := by
  rw [replacedFrom, replaceSamplers_of_unmatched h, replaceSamplers_eq]
  exact Nat.lt_succ_of_lt (Nat.lt_succ_self _)

/-- In a word nothing is replaced. -/
theorem replacedFrom_in_word {prev : Option UInt8} (hprev : prev.any isspace = false) (c : UInt8)
    (rest : String8) :
    replacedFrom prev (c :: rest) = (replacedFrom (some c) rest).behind [c] := by
  by_cases hkeyword : STR_SAMPLER_EXTERNAL_OES <+: c :: rest
  · obtain ⟨after, hafter⟩ := hkeyword
    have hrest : rest = STR_SAMPLER_EXTERNAL_OES.tail ++ after := (List.cons.inj hafter).2.symm
    have hc : c = 0x73 := (List.cons.inj hafter).1.symm
    rw [replacedFrom, ← hafter, replaceSamplers_keyword, if_pos (by simp [hprev]),
      replaceSamplers_eq, hrest, hc]
    · rfl
    · exact Nat.lt_of_succ_le (Nat.le_of_eq rfl)
  · exact replacedFrom_of_unmatched hkeyword

/-- What is left of a word is passed. -/
theorem replacedFrom_append {prev : Option UInt8} (hprev : prev.any isspace = false)
    {bytes : String8} (h : ∀ b ∈ bytes, (!isspace b) = true) (s : String8) :
    replacedFrom prev (bytes ++ s) = (replacedFrom (bytes.getLast?.or prev) s).behind bytes := by
  induction bytes generalizing prev with
  | nil => rfl
  | cons c rest ih =>
      have hc : (some c).any isspace = false := by simpa using h c List.mem_cons_self
      rw [List.cons_append, replacedFrom_in_word hprev, ih hc fun b hb =>
        h b (List.mem_cons_of_mem c hb), Replaced.behind_behind]
      rw [List.getLast?_cons]
      cases rest.getLast? with
      | none => rfl
      | some last => rfl

section Keyword

variable {prev : Option UInt8} {after : String8}

/-- The keyword at the beginning of a larger word. -/
theorem replacedFrom_joined (hprev : prev.any isspace = true)
    (hword : after.head?.any (!isspace ·) = true) :
    replacedFrom prev (STR_SAMPLER_EXTERNAL_OES ++ after) =
      (replacedFrom STR_SAMPLER_EXTERNAL_OES.getLast? after).behind STR_SAMPLER_EXTERNAL_OES := by
  rw [replacedFrom, replaceSamplers_keyword, if_neg (by simp [hprev]), if_pos hword,
    replaceSamplers_eq]
  rw [length_keyword_append]
  omega

/-- A byte that does not begin the keyword as a word. -/
theorem replacedFrom_cons {c : UInt8} {rest : String8}
    (h : prev.any isspace = true →
      (c :: rest).takeWhile (!isspace ·) ≠ STR_SAMPLER_EXTERNAL_OES) :
    replacedFrom prev (c :: rest) = (replacedFrom (some c) rest).behind [c] := by
  cases hprev : prev.any isspace with
  | false => exact replacedFrom_in_word hprev c rest
  | true =>
      by_cases hkeyword : STR_SAMPLER_EXTERNAL_OES <+: c :: rest
      · obtain ⟨after, hafter⟩ := hkeyword
        have hword : after.head?.any (!isspace ·) = true := by
          by_contra hends
          refine h hprev ?_
          rw [← hafter, List.takeWhile_append_of_pos not_isspace_of_mem_keyword]
          cases after with
          | nil => rfl
          | cons d rest =>
              rw [List.takeWhile_cons_of_neg (by simpa using hends), List.append_nil]
        obtain ⟨rfl, rfl⟩ : 0x73 = c ∧ STR_SAMPLER_EXTERNAL_OES.tail ++ after = rest :=
          List.cons.inj hafter
        have htail : ∀ b ∈ STR_SAMPLER_EXTERNAL_OES.tail, (!isspace b) = true :=
          fun b hb => not_isspace_of_mem_keyword b (List.mem_of_mem_tail hb)
        rw [← hafter, replacedFrom_joined hprev hword, replacedFrom_append rfl htail,
          Replaced.behind_behind]
        rfl
      · exact replacedFrom_of_unmatched hkeyword

/-- The keyword as a word. -/
theorem eq_keyword_append {s : String8}
    (h : s.takeWhile (!isspace ·) = STR_SAMPLER_EXTERNAL_OES) :
    ∃ after, s = STR_SAMPLER_EXTERNAL_OES ++ after ∧ after.head?.any (!isspace ·) = false := by
  refine ⟨s.dropWhile (!isspace ·), ?_, ?_⟩
  · rw [← h, List.takeWhile_append_dropWhile]
  · exact any_head?_dropWhile _ s

/-- The keyword as a word is replaced, when an identifier follows. -/
theorem replacedFrom_keyword (hprev : prev.any isspace = true)
    (hword : after.head?.any (!isspace ·) = false) :
    replacedFrom prev (STR_SAMPLER_EXTERNAL_OES ++ after) =
      match after.dropWhile isspace with
      | [] => ⟨false, [], STR_SAMPLER_EXTERNAL_OES ++ after⟩
      | first :: tail =>
          if !isIdentifierStart first then ⟨false, [], STR_SAMPLER_EXTERNAL_OES ++ after⟩
          else
            let name := first :: tail.takeWhile isIdentifierByte
            let rest := replacedFrom name.getLast? (tail.dropWhile isIdentifierByte)
            { rest with
              names := name :: rest.names
              text := STR_SAMPLER2D_SPACE ++ after.takeWhile isspace ++ name ++ rest.text } := by
  have hspace := List.length_dropWhile_le isspace after
  have hlength := length_keyword_append after
  rw [replacedFrom, replaceSamplers_keyword, if_neg (by simp [hprev]), if_neg (by simp [hword])]
  cases hnext : after.dropWhile isspace with
  | nil => rfl
  | cons first tail =>
      have htail := List.length_dropWhile_le isIdentifierByte tail
      rw [hnext, List.length_cons] at hspace
      dsimp only
      rw [replaceSamplers_eq _ (by omega)]

end Keyword

end GLESv2Enc
end DeviceAndroVM
