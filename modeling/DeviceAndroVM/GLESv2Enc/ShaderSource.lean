import DeviceAndroVM.Library.CString
import DeviceAndroVM.OpenglCodecCommon.Encoder

/-!
# Shader sources

`glShaderSource` (`GL2Encoder.cpp` lines 559–667): the host knows no external samplers, so
the encoder replaces `samplerExternalOES` by `sampler2D` in the text and keeps the names
of the samplers in the record of the shader.

* `overwriteExtensions`, `replaceSamplers` — the two loops of
  `replaceSamplerExternalWith2D`.
* `s_glShaderSource` — the call.
* `mentionedNames` — the names after `samplerExternalOES`, word by word.
* `names_replaceSamplerExternalWith2D` — the names that are kept are the mentioned ones.
-/

namespace DeviceAndroVM
namespace GLESv2Enc

open OpenGL Library OpenglCodecCommon CString

namespace GL2Encoder

/-! ## The text -/

def STR_HASH_EXTENSION : String8 :=
  ofChars ['#', 'e', 'x', 't', 'e', 'n', 's', 'i', 'o', 'n']

def STR_GL_OES_EGL_IMAGE_EXTERNAL : String8 :=
  ofChars ['G', 'L', '_', 'O', 'E', 'S', '_', 'E', 'G', 'L', '_', 'i', 'm', 'a', 'g', 'e', '_',
    'e', 'x', 't', 'e', 'r', 'n', 'a', 'l']

def STR_SAMPLER_EXTERNAL_OES : String8 :=
  ofChars ['s', 'a', 'm', 'p', 'l', 'e', 'r', 'E', 'x', 't', 'e', 'r', 'n', 'a', 'l', 'O', 'E',
    'S']

def STR_SAMPLER2D_SPACE : String8 :=
  ofChars ['s', 'a', 'm', 'p', 'l', 'e', 'r', '2', 'D', ' ', ' ', ' ', ' ', ' ', ' ', ' ', ' ',
    ' ']

/-- A byte of an identifier, `isalnum(*c) || *c == '_'`. -/
def isIdentifierByte (c : UInt8) : Bool := isalnum c || c == 0x5F

/-- The first byte of an identifier, `isalpha(*c) || *c == '_'`. -/
def isIdentifierStart (c : UInt8) : Bool := isalpha c || c == 0x5F

/-- The first loop of `replaceSamplerExternalWith2D`, from `c` on; `fuel` bounds the
occurrences still to come. -/
def overwriteExtensions : Nat → String8 → String8
  | 0, s => s
  | fuel + 1, s =>
      match strstr STR_HASH_EXTENSION s with
      | none => s
      | some (before, after) =>
          let c := after.dropWhile isspace
          if STR_GL_OES_EGL_IMAGE_EXTERNAL <+: c then
            let start := STR_HASH_EXTENSION ++ after
            let line := start.takeWhile fun b => b != 0x0D && b != 0x0A
            before ++ List.replicate line.length 0x20 ++
              overwriteExtensions fuel (start.drop line.length)
          else
            before ++ STR_HASH_EXTENSION ++ after.takeWhile isspace ++ overwriteExtensions fuel c

/-- The result of `replaceSamplerExternalWith2D`, the names it pushes, and the text that
it leaves. -/
structure Replaced where
  ok : Bool
  names : List String8
  text : String8

/-- The text goes on behind `before`. -/
def Replaced.behind (before : String8) (r : Replaced) : Replaced :=
  { r with text := before ++ r.text }

/-- The second loop of `replaceSamplerExternalWith2D`, from `c` on.  `prev` is the byte
before `c`, `none` at the start of the string; `fuel` bounds the occurrences still to
come. -/
def replaceSamplers : Nat → Option UInt8 → String8 → Replaced
  | 0, _, s => ⟨true, [], s⟩
  | fuel + 1, prev, s =>
      match strstr STR_SAMPLER_EXTERNAL_OES s with
      | none => ⟨true, [], s⟩
      | some (before, after) =>
          if !(before.getLast?.or prev).any isspace then
            -- a substring of a larger token: `c++`
            (replaceSamplers fuel STR_SAMPLER_EXTERNAL_OES.head?
              (STR_SAMPLER_EXTERNAL_OES.tail ++ after)).behind
                (before ++ STR_SAMPLER_EXTERNAL_OES.take 1)
          else if after.head?.any (!isspace ·) then
            (replaceSamplers fuel STR_SAMPLER_EXTERNAL_OES.getLast? after).behind
              (before ++ STR_SAMPLER_EXTERNAL_OES)
          else
            match after.dropWhile isspace with
            | [] => ⟨false, [], s⟩
            | first :: tail =>
                if !isIdentifierStart first then ⟨false, [], s⟩
                else
                  let name := first :: tail.takeWhile isIdentifierByte
                  let rest := replaceSamplers fuel name.getLast? (tail.dropWhile isIdentifierByte)
                  { rest with
                    names := name :: rest.names
                    text := before ++ STR_SAMPLER2D_SPACE ++ after.takeWhile isspace ++ name ++
                      rest.text }

/-- `replaceSamplerExternalWith2D`. -/
def replaceSamplerExternalWith2D (str : String8) : Replaced :=
  let overwritten := overwriteExtensions (str.length + 1) str
  replaceSamplers (overwritten.length + 1) none overwritten

/-! ## The call -/

/-- `glUtilsPackStrings`: the strings one after the other, those with a length up to it.
The lengths are not beyond the ends of the strings. -/
def glUtilsPackStrings (strings : List (Option String8 × Option GLint)) : String8 :=
  strings.flatMap fun entry =>
    match entry with
    | (none, _) => []
    | (some s, none) => s
    | (some s, some length) => if length.toInt < 0 then s else s.take length.toInt.toNat

/-- `GL2Encoder::s_glShaderSource`, with the text that is sent to the host.  The names of
a text that is rejected are kept too. -/
def s_glShaderSource (ctx : Encoder) (shader : GLuint)
    (strings : List (Option String8 × Option GLint)) : Option String8 × Encoder :=
  match ctx.shared.getShaderData shader with
  | none => (none, ctx.setError GL_INVALID_VALUE)
  | some data =>
      let replaced := replaceSamplerExternalWith2D (glUtilsPackStrings strings)
      let recorded := { ctx with
        shared := { ctx.shared with
          shaders := ctx.shared.shaders.insert shader
            { data with samplerExternalNames := data.samplerExternalNames ++ replaced.names } } }
      if !replaced.ok then (none, recorded.setError GL_OUT_OF_MEMORY)
      else (some replaced.text, recorded)

end GL2Encoder

/-! ## The names, word by word -/

open GL2Encoder

/-- The identifiers after the word `samplerExternalOES`, up to a place where none
follows. -/
def namesOfWords : List String8 → List String8
  | [] => []
  | [_] => []
  | word :: next :: rest =>
      if word = STR_SAMPLER_EXTERNAL_OES then
        if next.head?.any isIdentifierStart then
          next.takeWhile isIdentifierByte :: namesOfWords rest
        else []
      else namesOfWords (next :: rest)

/-- The names that a text mentions as external samplers.  White space stands before the
keyword too, so the beginning of the text up to the first white space does not count. -/
def mentionedNames (text : String8) : List String8 :=
  namesOfWords (words (text.dropWhile (!isspace ·)))

/-- The names that the rest of a text mentions, after the byte `prev`. -/
def mentionedAfter (prev : Option UInt8) (s : String8) : List String8 :=
  namesOfWords (words (if prev.any isspace then s else s.dropWhile (!isspace ·)))

theorem namesOfWords_cons_of_ne {word : String8} (h : word ≠ STR_SAMPLER_EXTERNAL_OES)
    (rest : List String8) : namesOfWords (word :: rest) = namesOfWords rest := by
  cases rest with
  | nil => rfl
  | cons next rest => rw [namesOfWords, if_neg h]

theorem isspace_of_isIdentifierByte {c : UInt8} (h : isIdentifierByte c = true) :
    isspace c = false := by
  unfold isIdentifierByte isalnum isalpha isdigit at h
  unfold isspace
  grind

theorem isIdentifierByte_of_isIdentifierStart {c : UInt8} (h : isIdentifierStart c = true) :
    isIdentifierByte c = true := by
  unfold isIdentifierStart at h
  unfold isIdentifierByte isalnum
  grind

theorem dropWhile_isIdentifierByte (s : String8) :
    (s.dropWhile isIdentifierByte).dropWhile (!isspace ·) = s.dropWhile (!isspace ·) := by
  induction s with
  | nil => rfl
  | cons c rest ih =>
      by_cases hc : isIdentifierByte c = true
      · rw [List.dropWhile_cons_of_pos hc, ih,
          List.dropWhile_cons_of_pos (by simp [isspace_of_isIdentifierByte hc])]
      · rw [List.dropWhile_cons_of_neg hc]

theorem takeWhile_isIdentifierByte (s : String8) :
    (s.takeWhile (!isspace ·)).takeWhile isIdentifierByte = s.takeWhile isIdentifierByte := by
  induction s with
  | nil => rfl
  | cons c rest ih =>
      by_cases hc : isIdentifierByte c = true
      · rw [List.takeWhile_cons_of_pos (by simp [isspace_of_isIdentifierByte hc]),
          List.takeWhile_cons_of_pos hc, List.takeWhile_cons_of_pos hc, ih]
      · rw [List.takeWhile_cons_of_neg hc]
        by_cases hspace : isspace c = true
        · rw [List.takeWhile_cons_of_neg (by simp [hspace])]
          rfl
        · rw [List.takeWhile_cons_of_pos (by simpa using hspace), List.takeWhile_cons_of_neg hc]

theorem mentionedAfter_of_isspace {prev : Option UInt8} (h : prev.any isspace = true)
    (s : String8) : mentionedAfter prev s = namesOfWords (words s) := by
  rw [mentionedAfter, if_pos h]

theorem mentionedAfter_of_not_isspace {prev : Option UInt8} (h : prev.any isspace = false)
    (s : String8) :
    mentionedAfter prev s = namesOfWords (words (s.dropWhile (!isspace ·))) := by
  rw [mentionedAfter, if_neg (by simp [h])]

/-- A byte that does not begin the keyword between white space. -/
theorem mentionedAfter_cons {prev : Option UInt8} {c : UInt8} {rest : String8}
    (h : prev.any isspace = true →
      (c :: rest).takeWhile (!isspace ·) ≠ STR_SAMPLER_EXTERNAL_OES) :
    mentionedAfter prev (c :: rest) = mentionedAfter (some c) rest := by
  cases hc : isspace c with
  | true =>
      have hsome : (some c).any isspace = true := hc
      rw [mentionedAfter_of_isspace hsome]
      cases hprev : prev.any isspace with
      | true => rw [mentionedAfter_of_isspace hprev, words_cons_of_isspace hc]
      | false =>
          rw [mentionedAfter_of_not_isspace hprev, List.dropWhile_cons_of_neg (by simp [hc]),
            words_cons_of_isspace hc]
  | false =>
      have hsome : (some c).any isspace = false := hc
      rw [mentionedAfter_of_not_isspace hsome]
      cases hprev : prev.any isspace with
      | true =>
          rw [mentionedAfter_of_isspace hprev, words_cons hc]
          apply namesOfWords_cons_of_ne
          intro hword
          refine h hprev ?_
          rw [List.takeWhile_cons_of_pos (by simp [hc]), hword]
      | false =>
          rw [mentionedAfter_of_not_isspace hprev, List.dropWhile_cons_of_pos (by simp [hc])]

/-! ### The keyword -/

/-- The keyword has no white space in it. -/
theorem not_isspace_of_mem_keyword : ∀ c ∈ STR_SAMPLER_EXTERNAL_OES, (!isspace c) = true :=
  List.all_eq_true.mp (by decide)

theorem keyword_ne_nil : STR_SAMPLER_EXTERNAL_OES ≠ [] := by decide

/-- The keyword inside a larger word. -/
theorem mentionedAfter_keyword_in_word {prev : Option UInt8} (hprev : prev.any isspace = true)
    {after : String8} (h : after.head?.any (!isspace ·) = true) :
    mentionedAfter prev (STR_SAMPLER_EXTERNAL_OES ++ after) =
      namesOfWords (words (after.dropWhile (!isspace ·))) := by
  rw [mentionedAfter_of_isspace hprev, words_append keyword_ne_nil not_isspace_of_mem_keyword]
  apply namesOfWords_cons_of_ne
  rw [Ne, List.append_right_eq_self]
  cases after with
  | nil => simp at h
  | cons d rest =>
      rw [List.takeWhile_cons_of_pos (by simpa using h)]
      exact List.cons_ne_nil _ _

/-- The keyword as a word, with what follows. -/
theorem mentionedAfter_keyword {prev : Option UInt8} (hprev : prev.any isspace = true)
    {after : String8} (h : after.head?.any (!isspace ·) = false) :
    mentionedAfter prev (STR_SAMPLER_EXTERNAL_OES ++ after) =
      namesOfWords (STR_SAMPLER_EXTERNAL_OES :: words (after.dropWhile isspace)) := by
  rw [mentionedAfter_of_isspace hprev,
    words_word_append keyword_ne_nil not_isspace_of_mem_keyword h, words_dropWhile_isspace]

/-- The name after the keyword. -/
theorem namesOfWords_keyword {first : UInt8} (hspace : isspace first = false) (tail : String8) :
    namesOfWords (STR_SAMPLER_EXTERNAL_OES :: words (first :: tail)) =
      if isIdentifierStart first then
        (first :: tail.takeWhile isIdentifierByte) ::
          namesOfWords (words ((tail.dropWhile isIdentifierByte).dropWhile (!isspace ·)))
      else [] := by
  rw [words_cons hspace, namesOfWords, if_pos rfl, dropWhile_isIdentifierByte]
  cases hstart : isIdentifierStart first with
  | true =>
      rw [if_pos (by simpa using hstart), if_pos rfl,
        List.takeWhile_cons_of_pos (isIdentifierByte_of_isIdentifierStart hstart),
        takeWhile_isIdentifierByte]
  | false => rw [if_neg (by simp [hstart]), if_neg (by simp)]

/-! ### The loop -/

/-- The search goes on behind a byte at which the keyword does not begin. -/
theorem replaceSamplers_of_unmatched {fuel : Nat} {prev : Option UInt8} {c : UInt8}
    {rest : String8} (h : ¬ STR_SAMPLER_EXTERNAL_OES <+: c :: rest) :
    replaceSamplers (fuel + 1) prev (c :: rest) =
      (replaceSamplers (fuel + 1) (some c) rest).behind [c] := by
  rw [replaceSamplers, replaceSamplers, strstr, if_neg h]
  cases hfound : strstr STR_SAMPLER_EXTERNAL_OES rest with
  | none => rfl
  | some found =>
      obtain ⟨before, after⟩ := found
      have hlast : ((c :: before).getLast?.or prev) = before.getLast?.or (some c) := by
        cases hbefore : before.getLast? with
        | none =>
            rw [List.getLast?_eq_none_iff] at hbefore
            rw [hbefore]
            rfl
        | some last => rw [List.getLast?_cons, hbefore]; rfl
      simp only [Option.map_some, hlast]
      split
      · rfl
      split
      · rfl
      · split
        · rfl
        · split <;> rfl

/-- The loop goes on behind a byte of the name, which is no white space. -/
theorem isspace_getLast_name {first : UInt8} (hfirst : isspace first = false) (tail : String8) :
    (first :: tail.takeWhile isIdentifierByte).getLast?.any isspace = false := by
  have hmem := List.getLast_mem (List.cons_ne_nil first (tail.takeWhile isIdentifierByte))
  rw [List.getLast?_eq_some_getLast (List.cons_ne_nil _ _), Option.any_some]
  rcases List.mem_cons.mp hmem with heq | hmem
  · rw [heq]
    exact hfirst
  · exact isspace_of_isIdentifierByte (List.mem_takeWhile_imp hmem)

/-- The loop with the keyword at hand. -/
theorem replaceSamplers_keyword (fuel : Nat) (prev : Option UInt8) (after : String8) :
    replaceSamplers (fuel + 1) prev (STR_SAMPLER_EXTERNAL_OES ++ after) =
      if !prev.any isspace then
        (replaceSamplers fuel STR_SAMPLER_EXTERNAL_OES.head?
          (STR_SAMPLER_EXTERNAL_OES.tail ++ after)).behind (STR_SAMPLER_EXTERNAL_OES.take 1)
      else if after.head?.any (!isspace ·) then
        (replaceSamplers fuel STR_SAMPLER_EXTERNAL_OES.getLast? after).behind
          STR_SAMPLER_EXTERNAL_OES
      else
        match after.dropWhile isspace with
        | [] => ⟨false, [], STR_SAMPLER_EXTERNAL_OES ++ after⟩
        | first :: tail =>
            if !isIdentifierStart first then ⟨false, [], STR_SAMPLER_EXTERNAL_OES ++ after⟩
            else
              let name := first :: tail.takeWhile isIdentifierByte
              let rest := replaceSamplers fuel name.getLast? (tail.dropWhile isIdentifierByte)
              { rest with
                names := name :: rest.names
                text := STR_SAMPLER2D_SPACE ++ after.takeWhile isspace ++ name ++ rest.text } := by
  have hfound : strstr STR_SAMPLER_EXTERNAL_OES (STR_SAMPLER_EXTERNAL_OES ++ after) =
      some ([], after) := by
    change (if STR_SAMPLER_EXTERNAL_OES <+: STR_SAMPLER_EXTERNAL_OES ++ after then _ else _) = _
    rw [if_pos (List.prefix_append _ _)]
    rfl
  rw [replaceSamplers, hfound]
  rfl

section Keyword

variable {fuel : Nat} {prev : Option UInt8} {after : String8}

theorem length_keyword_append (after : String8) :
    (STR_SAMPLER_EXTERNAL_OES ++ after).length = after.length + 18 := by
  rw [List.length_append, Nat.add_comm]
  rfl

/-- Without white space before it the keyword is part of a larger word. -/
theorem names_keyword_in_token (hprev : prev.any isspace = false) :
    mentionedAfter STR_SAMPLER_EXTERNAL_OES.head? (STR_SAMPLER_EXTERNAL_OES.tail ++ after) =
      mentionedAfter prev (STR_SAMPLER_EXTERNAL_OES ++ after) := by
  refine (mentionedAfter_cons fun htrue => ?_).symm
  cases hprev.symm.trans htrue

/-- The names that the loop pushes with the keyword at hand, when the rest of the loop
pushes what the rest of the text mentions. -/
theorem names_replaceSamplers_keyword (hfuel : after.length + 18 < fuel + 1)
    (hrest : ∀ prev s, s.length < fuel → (replaceSamplers fuel prev s).names = mentionedAfter prev s) :
    (replaceSamplers (fuel + 1) prev (STR_SAMPLER_EXTERNAL_OES ++ after)).names =
      mentionedAfter prev (STR_SAMPLER_EXTERNAL_OES ++ after) := by
  rw [replaceSamplers_keyword]
  cases hprev : prev.any isspace with
  | false =>
      have hshort : (STR_SAMPLER_EXTERNAL_OES.tail ++ after).length < fuel := by
        have hlength := length_keyword_append after
        have htail : (STR_SAMPLER_EXTERNAL_OES.tail ++ after).length + 1 =
            (STR_SAMPLER_EXTERNAL_OES ++ after).length := rfl
        omega
      exact (hrest _ _ hshort).trans (names_keyword_in_token hprev)
  | true =>
      cases hword : after.head?.any (!isspace ·) with
      | true =>
          have hlast : STR_SAMPLER_EXTERNAL_OES.getLast?.any isspace = false := by decide
          refine (hrest _ after (by omega)).trans ?_
          rw [mentionedAfter_of_not_isspace hlast, mentionedAfter_keyword_in_word hprev hword]
      | false =>
          rw [mentionedAfter_keyword hprev hword]
          have hshorter := List.length_dropWhile_le isspace after
          cases hnext : after.dropWhile isspace with
          | nil => rfl
          | cons first tail =>
              have hfirst : isspace first = false := by
                have hhead := List.head?_dropWhile_not isspace after
                rw [hnext] at hhead
                simpa using hhead
              rw [hnext, List.length_cons] at hshorter
              rw [namesOfWords_keyword hfirst]
              dsimp only
              cases hstart : isIdentifierStart first with
              | false => rfl
              | true =>
                  -- the name, and then the loop behind it
                  have htail := List.length_dropWhile_le isIdentifierByte tail
                  refine congrArg (_ :: ·) ((hrest _ _ (by omega)).trans ?_)
                  exact mentionedAfter_of_not_isspace (isspace_getLast_name hfirst tail) _

end Keyword

/-- The names that the loop pushes are those that the text mentions. -/
theorem names_replaceSamplers (fuel : Nat) (prev : Option UInt8) (s : String8)
    (hfuel : s.length < fuel) :
    (replaceSamplers fuel prev s).names = mentionedAfter prev s := by
  induction fuel generalizing prev s with
  | zero => exact absurd hfuel (Nat.not_lt_zero _)
  | succ fuel ih =>
      induction s generalizing prev with
      | nil =>
          cases hprev : prev.any isspace with
          | true => exact (mentionedAfter_of_isspace hprev []).symm
          | false => exact (mentionedAfter_of_not_isspace hprev []).symm
      | cons c rest ihs =>
          by_cases hkeyword : STR_SAMPLER_EXTERNAL_OES <+: c :: rest
          · obtain ⟨after, hafter⟩ := hkeyword
            rw [← hafter, length_keyword_append] at hfuel
            rw [← hafter]
            exact names_replaceSamplers_keyword hfuel fun prev s hs => ih prev s hs
          · -- the search goes on behind `c`
            rw [replaceSamplers_of_unmatched hkeyword]
            refine (ihs _ (Nat.lt_of_succ_lt hfuel)).trans (mentionedAfter_cons ?_).symm
            intro _ htake
            exact hkeyword (htake ▸ List.takeWhile_prefix _)

theorem names_replaceSamplerExternalWith2D (str : String8) :
    (replaceSamplerExternalWith2D str).names =
      mentionedNames (overwriteExtensions (str.length + 1) str) := by
  rw [replaceSamplerExternalWith2D, names_replaceSamplers _ _ _ (Nat.lt_succ_self _)]
  exact mentionedAfter_of_not_isspace rfl _

end GLESv2Enc
end DeviceAndroVM
