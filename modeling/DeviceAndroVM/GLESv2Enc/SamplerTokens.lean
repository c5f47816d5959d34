import DeviceAndroVM.GLESv2Enc.SourceFrame
import DeviceAndroVM.OpenGL.ShaderText

/-!
# What is left of `samplerExternalOES`

When `replaceSamplerExternalWith2D` (`GL2Encoder.cpp` lines 559–644) accepts a source, no
token `samplerExternalOES` should be left, and every name declared with it be recorded.

* `ReplacesAll` — this, for one source.
* `rejectsWords`, `replaceWords` — the second loop, word by word.
* `Detached` — the keywords that the loop can find: between white space, and no names.
* `replacesAll_iff` — the sources that are treated so.
-/

namespace DeviceAndroVM
namespace GLESv2Enc

open OpenGL Library OpenglCodecCommon CString GL2Encoder ShaderText

instance (least : Nat) (str : String8) (i : Nat) : Decidable (InDirective least str i) :=
  inferInstanceAs (Decidable (∃ p, p ≤ i ∧ _))

/-- The source with spaces for the `#extension` lines about external images. -/
def withoutDirectives (str : String8) : String8 :=
  str.mapIdx fun i b => if InDirective 0 str i then 0x20 else b

/-- An accepted source has no token `samplerExternalOES` any more, and the names declared
with it are recorded. -/
def ReplacesAll (str : String8) (r : Replaced) : Prop :=
  r.ok = true →
    samplerKeyword ∉ tokens r.text ∧
      ∀ d ∈ declarators (withoutDirectives str), d.name ∈ r.names

/-- Word by word, some keyword is followed by no identifier. -/
def rejectsWords : List String8 → Bool
  | [] => false
  | [word] => word == STR_SAMPLER_EXTERNAL_OES
  | word :: next :: rest =>
      if word = STR_SAMPLER_EXTERNAL_OES then
        !next.head?.any isIdentifierStart || rejectsWords rest
      else rejectsWords (next :: rest)

/-- Every word with a token `samplerExternalOES` is this token alone, and is not the name
behind another one. -/
structure Detached (ws : List String8) : Prop where
  alone : ∀ word ∈ ws, samplerKeyword ∈ tokens word → word = STR_SAMPLER_EXTERNAL_OES
  notNames : ws.IsChain fun word next => word = STR_SAMPLER_EXTERNAL_OES → next ≠ word

/-- The source is rejected; or every token `samplerExternalOES` stands between white space
and is followed by another word, and every further name of a list is the first one of some
list. -/
def KeywordsApart (text : String8) : Prop :=
  rejectsWords (words (text.dropWhile (!isspace ·))) = true ∨
    samplerKeyword ∉ tokens (text.takeWhile (!isspace ·)) ∧
      Detached (words (text.dropWhile (!isspace ·))) ∧
        ∀ name, .further name ∈ declarators text → .first name ∈ declarators text

/-! ## The loop, word by word -/

/-- What the second loop does to the words. -/
def replaceWords : List String8 → List String8
  | [] => []
  | [word] => [word]
  | word :: next :: rest =>
      if word = STR_SAMPLER_EXTERNAL_OES then
        STR_SAMPLER2D_SPACE.take 9 :: next :: replaceWords rest
      else word :: replaceWords (next :: rest)

/-- Before white space the byte `prev` does not matter. -/
theorem replacedFrom_at_space {s : String8} (hs : s.head?.any (!isspace ·) = false)
    (prev : Option UInt8) : replacedFrom prev s = replacedFrom (some 0x20) s := by
  cases s with
  | nil => rfl
  | cons c rest =>
      have hword : (c :: rest).takeWhile (!isspace ·) ≠ STR_SAMPLER_EXTERNAL_OES := by
        rw [List.takeWhile_cons_of_neg (by simpa using hs)]
        decide
      rw [replacedFrom_cons fun _ => hword, replacedFrom_cons fun _ => hword]

theorem any_head?_replacedFrom {s : String8} (hs : s.head?.any (!isspace ·) = false)
    (prev : Option UInt8) :
    (replacedFrom prev s).text.head?.any (!isspace ·) = false := by
  cases s with
  | nil => rfl
  | cons c rest =>
      rw [replacedFrom_cons]
      · exact hs
      · intro _
        rw [List.takeWhile_cons_of_neg (by simpa using hs)]
        decide

/-- The loop in a word. -/
theorem replacedFrom_rest_of_word {prev : Option UInt8} (hprev : prev.any isspace = false)
    (s : String8) :
    replacedFrom prev s =
      (replacedFrom (some 0x20) (s.dropWhile (!isspace ·))).behind (s.takeWhile (!isspace ·)) := by
  calc replacedFrom prev s
      = replacedFrom prev (s.takeWhile (!isspace ·) ++ s.dropWhile (!isspace ·)) := by
        rw [List.takeWhile_append_dropWhile]
    _ = _ := by
        rw [replacedFrom_append hprev fun _ => not_isspace_of_mem_takeWhile,
          replacedFrom_at_space (any_head?_dropWhile _ s)]

section Words

variable {prev : Option UInt8} {c : UInt8} {rest : String8}

/-- A word that is not the keyword. -/
theorem replacedFrom_word (hc : isspace c = false)
    (hword : (c :: rest).takeWhile (!isspace ·) ≠ STR_SAMPLER_EXTERNAL_OES) :
    replacedFrom prev (c :: rest) =
      (replacedFrom (some 0x20) ((c :: rest).dropWhile (!isspace ·))).behind
        ((c :: rest).takeWhile (!isspace ·)) := by
  have hsome : (some c).any isspace = false := hc
  rw [replacedFrom_cons fun _ => hword, replacedFrom_rest_of_word hsome,
    Replaced.behind_behind, List.takeWhile_cons_of_pos (by simp [hc]),
    List.dropWhile_cons_of_pos (by simp [hc])]
  rfl

/-- The identifier at the beginning of a word, and the rest of the word. -/
theorem takeWhile_word {first : UInt8} {tail : String8} (hfirst : isspace first = false) :
    (first :: tail).takeWhile (!isspace ·) =
      first :: tail.takeWhile isIdentifierByte ++
        (tail.dropWhile isIdentifierByte).takeWhile (!isspace ·) := by
  have hidentifier : ∀ b ∈ tail.takeWhile isIdentifierByte, (!isspace b) = true := by
    intro b hb
    simp [isspace_of_isIdentifierByte (List.mem_takeWhile_imp hb)]
  rw [List.takeWhile_cons_of_pos (by simp [hfirst]), List.cons_append,
    ← List.takeWhile_append_of_pos hidentifier, List.takeWhile_append_dropWhile]

/-- The keyword and the word behind it. -/
theorem replacedFrom_keyword_word {after : String8} {first : UInt8} {tail : String8}
    (hprev : prev.any isspace = true) (hafter : after.head?.any (!isspace ·) = false)
    (hnext : after.dropWhile isspace = first :: tail)
    (hfirst : isIdentifierStart first = true) :
    let r := replacedFrom (some 0x20) ((first :: tail).dropWhile (!isspace ·))
    replacedFrom prev (STR_SAMPLER_EXTERNAL_OES ++ after) =
      ⟨r.ok, (first :: tail.takeWhile isIdentifierByte) :: r.names,
        STR_SAMPLER2D_SPACE ++ after.takeWhile isspace ++
          ((first :: tail).takeWhile (!isspace ·) ++ r.text)⟩ := by
  have hspace : isspace first = false :=
    isspace_of_isIdentifierByte (isIdentifierByte_of_isIdentifierStart hfirst)
  rw [replacedFrom_keyword hprev hafter, hnext]
  dsimp only
  rw [if_neg (by simp [hfirst]), replacedFrom_rest_of_word (isspace_getLast_name hspace tail),
    dropWhile_isIdentifierByte, takeWhile_word hspace,
    List.dropWhile_cons_of_pos (by simp [hspace])]
  simp only [Replaced.behind, List.append_assoc]

end Words

theorem rejectsWords_cons_of_ne {word : String8} (h : word ≠ STR_SAMPLER_EXTERNAL_OES)
    (ws : List String8) : rejectsWords (word :: ws) = rejectsWords ws := by
  cases ws with
  | nil => exact beq_eq_false_iff_ne.mpr h
  | cons next rest => exact if_neg h

theorem replaceWords_cons_of_ne {word : String8} (h : word ≠ STR_SAMPLER_EXTERNAL_OES)
    (ws : List String8) : replaceWords (word :: ws) = word :: replaceWords ws := by
  cases ws with
  | nil => rfl
  | cons next rest => exact if_neg h

theorem rejectsWords_keyword {next : String8} {rest : List String8} :
    rejectsWords (STR_SAMPLER_EXTERNAL_OES :: next :: rest) =
      (!next.head?.any isIdentifierStart || rejectsWords rest) := if_pos rfl

theorem replaceWords_keyword {next : String8} {rest : List String8} :
    replaceWords (STR_SAMPLER_EXTERNAL_OES :: next :: rest) =
      STR_SAMPLER2D_SPACE.take 9 :: next :: replaceWords rest := if_pos rfl

/-- `sampler2D` with the spaces behind it. -/
theorem words_sampler2D {space : String8} (h : ∀ b ∈ space, isspace b = true) (s : String8) :
    words (STR_SAMPLER2D_SPACE ++ space ++ s) = STR_SAMPLER2D_SPACE.take 9 :: words s := by
  have hword : ∀ b ∈ STR_SAMPLER2D_SPACE.take 9, (!isspace b) = true :=
    List.all_eq_true.mp (by decide)
  have hspace : ∀ b ∈ STR_SAMPLER2D_SPACE.drop 9, isspace b = true :=
    List.all_eq_true.mp (by decide)
  calc words (STR_SAMPLER2D_SPACE ++ space ++ s)
      = words (STR_SAMPLER2D_SPACE.take 9 ++ (STR_SAMPLER2D_SPACE.drop 9 ++ (space ++ s))) := by
        rw [← List.append_assoc, List.take_append_drop, List.append_assoc]
    _ = STR_SAMPLER2D_SPACE.take 9 :: words (STR_SAMPLER2D_SPACE.drop 9 ++ (space ++ s)) :=
        words_word_append (by decide) hword rfl
    _ = STR_SAMPLER2D_SPACE.take 9 :: words s := by
        rw [words_space_append hspace, words_space_append h]

theorem words_eq_cons {c : UInt8} {rest : String8} (hc : isspace c = false) :
    words (c :: rest) =
      (c :: rest).takeWhile (!isspace ·) :: words ((c :: rest).dropWhile (!isspace ·)) := by
  rw [words_cons hc, List.takeWhile_cons_of_pos (by simp [hc]),
    List.dropWhile_cons_of_pos (by simp [hc])]

theorem takeWhile_ne_nil {c : UInt8} {rest : String8} (hc : isspace c = false) :
    (c :: rest).takeWhile (!isspace ·) ≠ [] := by
  rw [List.takeWhile_cons_of_pos (by simp [hc])]
  exact List.cons_ne_nil _ _

/-- The second loop does to a text what it does to the words of it. -/
def WordByWord (s : String8) (r : Replaced) : Prop :=
  r.ok = (!rejectsWords (words s)) ∧ (r.ok = true → words r.text = replaceWords (words s))

/-- The keyword, when the loop goes word by word behind it. -/
theorem wordByWord_keyword {prev : Option UInt8} (hprev : prev.any isspace = true)
    {after : String8} (hafter : after.head?.any (!isspace ·) = false)
    (hrest : ∀ s : String8, s.length < after.length → WordByWord s (replacedFrom (some 0x20) s)) :
    WordByWord (STR_SAMPLER_EXTERNAL_OES ++ after)
      (replacedFrom prev (STR_SAMPLER_EXTERNAL_OES ++ after)) := by
  have hwords : words (STR_SAMPLER_EXTERNAL_OES ++ after) =
      STR_SAMPLER_EXTERNAL_OES :: words (after.dropWhile isspace) := by
    rw [words_word_append keyword_ne_nil not_isspace_of_mem_keyword hafter,
      words_dropWhile_isspace]
  have hspace := List.length_dropWhile_le isspace after
  cases hnext : after.dropWhile isspace with
  | nil =>
      rw [WordByWord, hwords, replacedFrom_keyword hprev hafter, hnext]
      exact ⟨rfl, fun h => nomatch h⟩
  | cons first tail =>
      have hfirst : isspace first = false := by
        have hhead := any_head?_dropWhile isspace after
        rwa [hnext] at hhead
      rw [hnext] at hwords hspace
      rw [words_eq_cons hfirst] at hwords
      have hhead : ((first :: tail).takeWhile (!isspace ·)).head? = some first := by
        rw [List.takeWhile_cons_of_pos (by simp [hfirst])]
        rfl
      rw [WordByWord, hwords, rejectsWords_keyword, replaceWords_keyword, hhead]
      cases hstart : isIdentifierStart first with
      | false =>
          rw [replacedFrom_keyword hprev hafter, hnext]
          dsimp only
          rw [if_pos (by simp [hstart])]
          exact ⟨by simp [hstart], fun h => nomatch h⟩
      | true =>
          rw [replacedFrom_keyword_word hprev hafter hnext hstart]
          have hshorter : ((first :: tail).dropWhile (!isspace ·)).length < after.length := by
            have hdrop := List.length_dropWhile_le (!isspace ·) tail
            rw [List.dropWhile_cons_of_pos (by simp [hfirst])]
            rw [List.length_cons] at hspace
            omega
          obtain ⟨hok, htext⟩ := hrest _ hshorter
          refine ⟨by simpa [hstart] using hok, fun h => ?_⟩
          have hafter' : ∀ b ∈ after.takeWhile isspace, isspace b = true :=
            fun b hb => List.mem_takeWhile_imp hb
          rw [words_sampler2D hafter', words_word_append (takeWhile_ne_nil hfirst)
            (fun _ => not_isspace_of_mem_takeWhile)
            (any_head?_replacedFrom (any_head?_dropWhile _ _) _), htext h]

/-- The second loop goes word by word, from white space on. -/
theorem wordByWord_replacedFrom {prev : Option UInt8} (hprev : prev.any isspace = true)
    (s : String8) : WordByWord s (replacedFrom prev s) := by
  have hblank : (some (0x20 : UInt8)).any isspace = true := rfl
  induction hn : s.length using Nat.strong_induction_on generalizing prev s with
  | _ n ih =>
      cases s with
      | nil => exact ⟨rfl, fun _ => rfl⟩
      | cons c rest =>
          cases hc : isspace c with
          | true =>
              have hempty : (c :: rest).takeWhile (!isspace ·) ≠ STR_SAMPLER_EXTERNAL_OES := by
                rw [List.takeWhile_cons_of_neg (by simp [hc])]
                decide
              have hsome : (some c).any isspace = true := hc
              rw [WordByWord, replacedFrom_cons fun _ => hempty, words_cons_of_isspace hc]
              obtain ⟨hok, htext⟩ := ih rest.length (hn ▸ Nat.lt_succ_self _) hsome rest rfl
              refine ⟨hok, fun h => ?_⟩
              rw [← htext h]
              exact words_cons_of_isspace hc _
          | false =>
              by_cases hword : (c :: rest).takeWhile (!isspace ·) = STR_SAMPLER_EXTERNAL_OES
              · obtain ⟨after, hs, hafter⟩ := eq_keyword_append hword
                rw [hs]
                refine wordByWord_keyword hprev hafter fun s hshorter => ih s.length ?_ hblank s rfl
                rw [← hn, hs, length_keyword_append]
                omega
              · rw [WordByWord, words_eq_cons hc, rejectsWords_cons_of_ne hword,
                  replaceWords_cons_of_ne hword, replacedFrom_word hc hword]
                have hshorter : ((c :: rest).dropWhile (!isspace ·)).length < n := by
                  have hdrop := List.length_dropWhile_le (!isspace ·) rest
                  rw [List.dropWhile_cons_of_pos (by simp [hc]), ← hn, List.length_cons]
                  omega
                obtain ⟨hok, htext⟩ := ih _ hshorter hblank _ rfl
                refine ⟨hok, fun h => ?_⟩
                rw [← htext h]
                exact words_word_append (takeWhile_ne_nil hc)
                  (fun _ => not_isspace_of_mem_takeWhile)
                  (any_head?_replacedFrom (any_head?_dropWhile _ _) _)

/-! ## The tokens that are left -/

theorem tokens_keyword : tokens STR_SAMPLER_EXTERNAL_OES = [samplerKeyword] := by decide

theorem ne_keyword_of_not_mem {word : String8} (h : samplerKeyword ∉ tokens word) :
    word ≠ STR_SAMPLER_EXTERNAL_OES := by
  rintro rfl
  rw [tokens_keyword] at h
  exact h List.mem_cons_self

theorem detached_nil : Detached [] := ⟨(fun _ h => nomatch h), .nil⟩

theorem detached_cons_of_ne_iff {word : String8} (h : word ≠ STR_SAMPLER_EXTERNAL_OES)
    (ws : List String8) :
    Detached (word :: ws) ↔ samplerKeyword ∉ tokens word ∧ Detached ws := by
  constructor
  · intro hd
    refine ⟨fun hmem => h (hd.alone word List.mem_cons_self hmem), ?_, hd.notNames.of_cons⟩
    exact fun w hw => hd.alone w (List.mem_cons_of_mem word hw)
  · rintro ⟨hword, hd⟩
    refine ⟨fun w hw hmem => ?_, ?_⟩
    · rcases List.mem_cons.mp hw with rfl | hw
      · exact absurd hmem hword
      · exact hd.alone w hw hmem
    · cases ws with
      | nil => exact .singleton word
      | cons next rest => exact .cons_cons (fun heq => absurd heq h) hd.notNames

/-- The word behind the keyword has no keyword in it. -/
theorem detached_keyword_iff (next : String8) (rest : List String8) :
    Detached (STR_SAMPLER_EXTERNAL_OES :: next :: rest) ↔
      samplerKeyword ∉ tokens next ∧ Detached rest := by
  constructor
  · intro hd
    have hnext : next ≠ STR_SAMPLER_EXTERNAL_OES := hd.notNames.rel rfl
    refine (detached_cons_of_ne_iff hnext rest).mp ⟨?_, hd.notNames.of_cons⟩
    exact fun w hw => hd.alone w (List.mem_cons_of_mem _ hw)
  · rintro ⟨hnext, hd⟩
    have hne := ne_keyword_of_not_mem hnext
    obtain ⟨halone, hchain⟩ := (detached_cons_of_ne_iff hne rest).mpr ⟨hnext, hd⟩
    refine ⟨fun w hw hmem => ?_, .cons_cons (fun _ => hne) hchain⟩
    rcases List.mem_cons.mp hw with rfl | hw
    · rfl
    · exact halone w hw hmem

/-- The loop leaves no token `samplerExternalOES` in detached words. -/
theorem not_mem_replaceWords_iff {ws : List String8} (hok : rejectsWords ws = false) :
    samplerKeyword ∉ (replaceWords ws).flatMap tokens ↔ Detached ws := by
  fun_induction replaceWords ws with
  | case1 => exact Iff.intro (fun _ => detached_nil) (fun _ h => nomatch h)
  | case2 word =>
      have hne : word ≠ STR_SAMPLER_EXTERNAL_OES := beq_eq_false_iff_ne.mp hok
      rw [detached_cons_of_ne_iff hne, List.flatMap_singleton]
      exact (and_iff_left detached_nil).symm
  | case3 next rest ih =>
      rw [rejectsWords_keyword, Bool.or_eq_false_iff] at hok
      have hnew : samplerKeyword ∉ tokens (STR_SAMPLER2D_SPACE.take 9) := by decide
      rw [detached_keyword_iff, ← ih hok.2, List.flatMap_cons, List.flatMap_cons,
        List.mem_append, List.mem_append, not_or, not_or]
      exact and_iff_right hnew
  | case4 word next rest hne ih =>
      rw [rejectsWords_cons_of_ne hne] at hok
      rw [detached_cons_of_ne_iff hne, ← ih hok, List.flatMap_cons, List.mem_append, not_or]

/-! ## The names that are recorded -/

/-- The identifier at the beginning of a word is its first token. -/
theorem tokens_of_identifier {word : String8} (h : word.head?.any isIdentifierStart = true) :
    ∃ more, tokens word = word.takeWhile isIdentifierByte :: more ∧
      isIdentifier (word.takeWhile isIdentifierByte) = true := by
  cases word with
  | nil => cases h
  | cons first tail =>
      have hfirst : isIdentifierByte first = true := isIdentifierByte_of_isIdentifierStart h
      have hne : (first :: tail).takeWhile isIdentifierByte ≠ [] := by
        rw [List.takeWhile_cons_of_pos hfirst]
        exact List.cons_ne_nil _ _
      have hname : ∀ b ∈ (first :: tail).takeWhile isIdentifierByte, isWordByte b = true :=
        fun b hb => List.mem_takeWhile_imp hb
      have hrest : ((first :: tail).dropWhile isIdentifierByte).head?.any isWordByte = false :=
        any_head?_dropWhile isIdentifierByte (first :: tail)
      have htokens := tokens_word hne hname hrest
      rw [List.takeWhile_append_dropWhile] at htokens
      refine ⟨_, htokens, ?_⟩
      rw [List.takeWhile_cons_of_pos hfirst]
      exact h

/-- The names behind the type are the ones behind the keywords between the words. -/
theorem firstNames_words {ws : List String8} (hok : rejectsWords ws = false) (h : Detached ws) :
    firstNames false (ws.flatMap tokens) = namesOfWords ws := by
  fun_induction namesOfWords ws with
  | case1 => rfl
  | case2 word =>
      have hne : word ≠ STR_SAMPLER_EXTERNAL_OES := beq_eq_false_iff_ne.mp hok
      obtain ⟨hword, -⟩ := (detached_cons_of_ne_iff hne []).mp h
      exact firstNames_append hword []
  | case3 next rest hstart ih =>
      rw [rejectsWords_keyword, Bool.or_eq_false_iff] at hok
      obtain ⟨hnext, hrest⟩ := (detached_keyword_iff next rest).mp h
      obtain ⟨more, htokens, hname⟩ := tokens_of_identifier hstart
      rw [htokens, List.mem_cons, not_or] at hnext
      obtain ⟨hkeyword, hmore⟩ := hnext
      rw [List.flatMap_cons, List.flatMap_cons, tokens_keyword, htokens, ← ih hok.2 hrest,
        ← List.append_assoc, List.cons_append, List.nil_append, List.cons_append, List.cons_append,
        firstNames, if_pos rfl, firstNames, if_neg (fun heq => hkeyword heq.symm),
        if_pos (by simp [hname]), firstNames_append hmore]
  | case4 next rest hstart =>
      rw [rejectsWords_keyword, Bool.or_eq_false_iff] at hok
      exact absurd hok.1 (by simpa using hstart)
  | case5 word next rest hne ih =>
      rw [rejectsWords_cons_of_ne hne] at hok
      obtain ⟨hword, hrest⟩ := (detached_cons_of_ne_iff hne _).mp h
      rw [List.flatMap_cons, firstNames_append hword]
      exact ih hok hrest

/-! ## The whole function -/

theorem overwritten_eq (str : String8) : overwritten str = withoutDirectives str := by
  obtain ⟨hlength, hbytes⟩ := blanks_overwritten str
  apply List.ext_getElem?
  intro i
  rw [withoutDirectives, List.getElem?_mapIdx]
  cases hbyte : str[i]? with
  | none =>
      rw [List.getElem?_eq_none_iff] at hbyte
      exact List.getElem?_eq_none_iff.mpr (hlength ▸ hbyte)
  | some b =>
      rw [Option.map_some]
      split
      · rename_i hdirective
        exact (hbytes i).1 hdirective
      · rename_i hkept
        exact ((hbytes i).2 hkept).trans hbyte

/-- What the second loop does to a whole text. -/
structure Scanned (text : String8) (r : Replaced) : Prop where
  ok : r.ok = !rejectsWords (words (text.dropWhile (!isspace ·)))
  names : r.names = mentionedNames text
  tokens : r.ok = true → tokens r.text =
    tokens (text.takeWhile (!isspace ·)) ++
      (replaceWords (words (text.dropWhile (!isspace ·)))).flatMap tokens

theorem scanned_replaceSamplerExternalWith2D (str : String8) :
    Scanned (withoutDirectives str) (replaceSamplerExternalWith2D str) := by
  have hresult : replaceSamplerExternalWith2D str = replacedFrom none (overwritten str) := rfl
  have hnames : (replacedFrom none (overwritten str)).names = mentionedNames (overwritten str) :=
    names_replaceSamplerExternalWith2D str
  rw [hresult, ← overwritten_eq]
  generalize overwritten str = text at hnames ⊢
  have hprev : (none : Option UInt8).any isspace = false := rfl
  have hblank : (some (0x20 : UInt8)).any isspace = true := rfl
  have hskip := replacedFrom_rest_of_word hprev text
  obtain ⟨hok, hwords⟩ := wordByWord_replacedFrom hblank (text.dropWhile (!isspace ·))
  refine ⟨?_, hnames, fun h => ?_⟩
  · rw [hskip]
    exact hok
  · rw [hskip] at h ⊢
    rw [← hwords h, ← tokens_eq_flatMap_words]
    exact tokens_append (fun _ => not_isspace_of_mem_takeWhile)
      (any_head?_replacedFrom (any_head?_dropWhile _ text) _)

/-- The tokens of a text, those before the first white space and those of the words. -/
theorem tokens_takeWhile_append (text : String8) :
    tokens text = tokens (text.takeWhile (!isspace ·)) ++
      (words (text.dropWhile (!isspace ·))).flatMap tokens := by
  rw [← tokens_eq_flatMap_words, ← tokens_append (fun _ => not_isspace_of_mem_takeWhile)
    (any_head?_dropWhile _ text), List.takeWhile_append_dropWhile]

/-- The function accepts a source and replaces all that it should, or rejects it, exactly
when the keywords stand apart in it. -/
theorem replacesAll_iff (str : String8) :
    ReplacesAll str (replaceSamplerExternalWith2D str) ↔ KeywordsApart (withoutDirectives str) := by
  obtain ⟨hok, hnames, htokens⟩ := scanned_replaceSamplerExternalWith2D str
  rw [ReplacesAll, KeywordsApart]
  generalize replaceSamplerExternalWith2D str = r at *
  generalize withoutDirectives str = text at *
  cases hrejects : rejectsWords (words (text.dropWhile (!isspace ·))) with
  | true =>
      rw [hrejects] at hok
      simp [hok]
  | false =>
      rw [hrejects] at hok
      have hleft := not_mem_replaceWords_iff hrejects
      have hfirst : Detached (words (text.dropWhile (!isspace ·))) →
          samplerKeyword ∉ tokens (text.takeWhile (!isspace ·)) → ∀ name,
            .first name ∈ declarators text ↔ name ∈ r.names := by
        intro hdetached hbefore name
        rw [first_mem_declarators_iff, tokens_takeWhile_append, firstNames_append hbefore,
          firstNames_words hrejects hdetached, hnames]
        rfl
      rw [htokens hok, List.mem_append, not_or, hleft]
      constructor
      · intro h
        obtain ⟨⟨hbefore, hdetached⟩, hrecorded⟩ := h hok
        refine Or.inr ⟨hbefore, hdetached, fun name hfurther => ?_⟩
        exact (hfirst hdetached hbefore name).mpr (hrecorded _ hfurther)
      · rintro (hfalse | ⟨hbefore, hdetached, hlists⟩) _
        · cases hfalse
        refine ⟨⟨hbefore, hdetached⟩, fun d hd => ?_⟩
        cases d with
        | first name => exact (hfirst hdetached hbefore name).mp hd
        | further name => exact (hfirst hdetached hbefore name).mp (hlists name hd)

/-- A shader with a list of two names, behind the directive that enables the type. -/
def listSource : String8 :=
  STR_HASH_EXTENSION ++ ofChars [' '] ++ STR_GL_OES_EGL_IMAGE_EXTERNAL ++
    ofChars [':', 'r', 'e', 'q', 'u', 'i', 'r', 'e', '\n'] ++ uniformKeyword ++ ofChars [' '] ++
      samplerKeyword ++ ofChars [' ', 'a', ',', ' ', 'b', ';']

/-- The second name of a list is not recorded. -/
theorem list_not_recorded :
    ¬ ∀ str, ReplacesAll str (replaceSamplerExternalWith2D str) := by
  intro h
  obtain ⟨-, hnames⟩ := h listSource (by decide +kernel)
  have hb : symbol 'b' ∈ (replaceSamplerExternalWith2D listSource).names :=
    hnames (.further (symbol 'b')) (by decide +kernel)
  revert hb
  decide +kernel

end GLESv2Enc
end DeviceAndroVM
