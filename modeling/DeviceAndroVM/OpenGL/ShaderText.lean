import DeviceAndroVM.Library.CString

/-!
# What the text of a shader declares

The uniforms of type `samplerExternalOES` in a shader of the OpenGL ES Shading Language,
after preprocessing, and all that the text declares with this type: uniforms with the lists behind
them, parameters and members.

* `tokens` — identifiers, numbers and single symbols.
* `Declaration` — where in a declaration the reader is.
* `externalUniforms` — the names that the linked program has for these uniforms.
* `Declarator` — a name behind the type, or behind a comma.
* `Reader` — where in a declaration the reader is, and in how many parentheses.
* `declarators` — the names that a text declares with the type.
* `firstNames`, `first_mem_declarators_iff` — those directly behind the type.
* `tokens_eq_flatMap_words` — no token goes over white space.
-/

namespace DeviceAndroVM
namespace OpenGL

section Text

namespace ShaderText

open Library CString

/-- A byte of an identifier or a number. -/
def isWordByte (c : UInt8) : Bool := isalnum c || c == 0x5F

/-- The tokens of a text. -/
def tokens : CString → List CString
  | [] => []
  | c :: rest =>
      if isspace c then tokens rest
      else if isWordByte c && rest.head?.any isWordByte then (tokens rest).modifyHead (c :: ·)
      else [c] :: tokens rest

/-- The keywords. -/
def uniformKeyword : CString := ofChars ['u', 'n', 'i', 'f', 'o', 'r', 'm']

def samplerKeyword : CString :=
  ofChars ['s', 'a', 'm', 'p', 'l', 'e', 'r', 'E', 'x', 't', 'e', 'r', 'n', 'a', 'l', 'O', 'E',
    'S']

def precisionKeywords : List CString :=
  [ofChars ['l', 'o', 'w', 'p'], ofChars ['m', 'e', 'd', 'i', 'u', 'm', 'p'],
    ofChars ['h', 'i', 'g', 'h', 'p']]

/-- Where the reader is: outside of a declaration, after `uniform`, before a name of the
right type, behind a name, in the size of an array, and behind it. -/
inductive Declaration
  | outside
  | uniform
  | sampler
  | name (n : CString)
  | size (n : CString)
  | array (n : CString)

/-- The name that the linked program has for an array. -/
def arrayName (n : CString) : CString := n ++ ofChars ['[', '0', ']']

/-- One token, with the uniforms whose declaration it ends. -/
def Declaration.next : Declaration → CString → Declaration × List CString
  | .outside, token => if token = uniformKeyword then (.uniform, []) else (.outside, [])
  | .uniform, token =>
      if token ∈ precisionKeywords then (.uniform, [])
      else if token = samplerKeyword then (.sampler, [])
      else (.outside, [])
  | .sampler, token => (.name token, [])
  | .name n, token =>
      if token = ofChars [','] then (.sampler, [n])
      else if token = ofChars [';'] then (.outside, [n])
      else if token = ofChars ['['] then (.size n, [])
      else (.outside, [])
  | .size n, token => if token = ofChars [']'] then (.array n, []) else (.size n, [])
  | .array n, token =>
      if token = ofChars [','] then (.sampler, [arrayName n])
      else if token = ofChars [';'] then (.outside, [arrayName n])
      else (.outside, [])

/-- The external samplers that the rest of the tokens declares. -/
def declared : Declaration → List CString → List CString
  | _, [] => []
  | state, token :: rest => (state.next token).2 ++ declared (state.next token).1 rest

/-- The uniforms that a text declares as `samplerExternalOES`. -/
def externalUniforms (text : CString) : List CString := declared .outside (tokens text)

end ShaderText

end Text

section Variables

namespace ShaderText

open Library CString

/-- A name that is declared, the first one of its declaration or a further one. -/
inductive Declarator
  | first (name : CString)
  | further (name : CString)
  deriving DecidableEq

def Declarator.name : Declarator → CString
  | .first name => name
  | .further name => name

/-- Where the reader is: outside of these declarations, behind the type, behind a name, in
the brackets of its size and `nested` more, and behind the comma. -/
inductive Place
  | outside
  | type
  | declarator
  | size (nested : Nat)
  | comma
  deriving DecidableEq

structure Reader where
  place : Place
  parens : Nat

/-- A token is an identifier. -/
def isIdentifier (token : CString) : Bool := token.head?.any fun c => isalpha c || c == 0x5F

/-- A single symbol. -/
def symbol (c : Char) : CString := ofChars [c]

/-- The next place, and the name that is declared.  A comma between parentheses ends a
parameter; elsewhere the list goes on behind it. -/
def Reader.nextPlace (reader : Reader) (token : CString) : Place × List Declarator :=
  if token = samplerKeyword then (.type, [])
  else
    match reader.place with
    | .outside => (.outside, [])
    | .type => if isIdentifier token then (.declarator, [.first token]) else (.outside, [])
    | .declarator =>
        if token = symbol ',' ∧ reader.parens = 0 then (.comma, [])
        else if token = symbol '[' then (.size 0, [])
        else (.outside, [])
    | .size nested =>
        if token = symbol '[' then (.size (nested + 1), [])
        else if token = symbol ']' then
          match nested with
          | 0 => (.declarator, [])
          | nested + 1 => (.size nested, [])
        else (.size nested, [])
    | .comma => if isIdentifier token then (.declarator, [.further token]) else (.outside, [])

def Reader.nextParens (reader : Reader) (token : CString) : Nat :=
  if token = symbol '(' then reader.parens + 1
  else if token = symbol ')' then reader.parens - 1
  else reader.parens

/-- The names that the rest of the tokens declares. -/
def Reader.read (reader : Reader) : List CString → List Declarator
  | [] => []
  | token :: rest =>
      (reader.nextPlace token).2 ++
        Reader.read ⟨(reader.nextPlace token).1, reader.nextParens token⟩ rest

/-- The names that a text declares with the type `samplerExternalOES`. -/
def declarators (text : CString) : List Declarator := Reader.read ⟨.outside, 0⟩ (tokens text)

/-! ## The names behind the type -/

/-- The identifiers directly behind the type; `typed` says whether the reader stands behind
it. -/
def firstNames : Bool → List CString → List CString
  | _, [] => []
  | typed, token :: rest =>
      if token = samplerKeyword then firstNames true rest
      else if typed && isIdentifier token then token :: firstNames false rest
      else firstNames false rest

/-- Only the keyword leads behind the type. -/
theorem nextPlace_eq_type_iff (reader : Reader) (token : CString) :
    (reader.nextPlace token).1 = .type ↔ token = samplerKeyword := by
  unfold Reader.nextPlace
  by_cases hkeyword : token = samplerKeyword
  · rw [if_pos hkeyword]
    exact Iff.intro (fun _ => hkeyword) (fun _ => rfl)
  · rw [if_neg hkeyword]
    refine Iff.intro (fun h => ?_) (fun h => absurd h hkeyword)
    cases hplace : reader.place <;> rw [hplace] at h <;> dsimp only at h
    case outside => cases h
    case type => split at h <;> cases h
    case declarator =>
      split at h
      · cases h
      · split at h <;> cases h
    case size nested =>
      split at h
      · cases h
      · split at h
        · cases nested <;> cases h
        · cases h
    case comma => split at h <;> cases h

/-- A first name stands directly behind the type. -/
theorem first_mem_nextPlace_iff {reader : Reader} {token : CString}
    (hkeyword : token ≠ samplerKeyword) (name : CString) :
    .first name ∈ (reader.nextPlace token).2 ↔
      (decide (reader.place = .type) && isIdentifier token) = true ∧ name = token := by
  unfold Reader.nextPlace
  rw [if_neg hkeyword]
  cases hplace : reader.place <;> dsimp only
  case type => split <;> simp_all
  case outside => simp
  case declarator =>
    split
    · simp
    · split <;> simp
  case size nested =>
    split
    · simp
    · split
      · cases nested <;> simp
      · simp
  case comma => split <;> simp

theorem first_mem_read_iff (reader : Reader) (rest : List CString) (name : CString) :
    .first name ∈ reader.read rest ↔ name ∈ firstNames (reader.place = .type) rest := by
  induction rest generalizing reader with
  | nil => exact Iff.intro (fun h => nomatch h) (fun h => nomatch h)
  | cons token rest ih =>
      rw [Reader.read, List.mem_append, ih, firstNames]
      dsimp only
      by_cases hkeyword : token = samplerKeyword
      · have hnext : reader.nextPlace token = (.type, []) := if_pos hkeyword
        rw [if_pos hkeyword, hnext]
        simp
      · have hplace : decide ((reader.nextPlace token).1 = .type) = false :=
          decide_eq_false fun h => hkeyword ((nextPlace_eq_type_iff reader token).mp h)
        rw [if_neg hkeyword, hplace, first_mem_nextPlace_iff hkeyword]
        split
        · rename_i htyped
          simp [htyped]
        · rename_i htyped
          simp [htyped]

theorem first_mem_declarators_iff (text name : CString) :
    .first name ∈ declarators text ↔ name ∈ firstNames false (tokens text) :=
  first_mem_read_iff ⟨.outside, 0⟩ (tokens text) name

/-- Tokens without the type have no names behind it. -/
theorem firstNames_append {before : List CString} (h : samplerKeyword ∉ before)
    (rest : List CString) : firstNames false (before ++ rest) = firstNames false rest := by
  induction before with
  | nil => rfl
  | cons token before ih =>
      have hne : token ≠ samplerKeyword := fun heq => h (List.mem_cons.mpr (Or.inl heq.symm))
      rw [List.cons_append, firstNames, if_neg hne]
      exact ih fun hmem => h (List.mem_cons_of_mem token hmem)

/-! ## Tokens and words -/

theorem isspace_of_isWordByte {c : UInt8} (h : isWordByte c = true) : isspace c = false := by
  unfold isWordByte isalnum isalpha isdigit at h
  unfold isspace
  grind

theorem tokens_of_isspace {c : UInt8} (h : isspace c = true) (rest : CString) :
    tokens (c :: rest) = tokens rest := by
  rw [tokens, if_pos h]

theorem tokens_cons {c : UInt8} (h : isspace c = false) (rest : CString) :
    tokens (c :: rest) =
      if isWordByte c && rest.head?.any isWordByte then (tokens rest).modifyHead (c :: ·)
      else [c] :: tokens rest := by
  rw [tokens, if_neg (by simp [h])]

theorem tokens_ne_nil {c : UInt8} (h : isspace c = false) (rest : CString) :
    tokens (c :: rest) ≠ [] := by
  induction rest generalizing c with
  | nil => simp [tokens, h]
  | cons d rest ih =>
      rw [tokens_cons h]
      split
      · rename_i hjoined
        have hd : isWordByte d = true := (Bool.and_eq_true_iff.mp hjoined).2
        obtain ⟨token, more, htokens⟩ :=
          List.exists_cons_of_ne_nil (ih (isspace_of_isWordByte hd))
        rw [htokens]
        exact List.cons_ne_nil _ _
      · exact List.cons_ne_nil _ _

/-- No token goes over white space. -/
theorem tokens_append {bytes rest : CString} (hbytes : ∀ b ∈ bytes, (!isspace b) = true)
    (hrest : rest.head?.any (!isspace ·) = false) :
    tokens (bytes ++ rest) = tokens bytes ++ tokens rest := by
  induction bytes with
  | nil => rfl
  | cons c bytes ih =>
      have hc : isspace c = false := by simpa using hbytes c List.mem_cons_self
      have ih := ih fun b hb => hbytes b (List.mem_cons_of_mem c hb)
      rw [List.cons_append, tokens_cons hc, tokens_cons hc, ih]
      cases bytes with
      | nil =>
          -- the byte before the white space ends a token
          have hends : rest.head?.any isWordByte = false := by
            cases rest with
            | nil => rfl
            | cons d rest =>
                by_contra hword
                have hd := isspace_of_isWordByte (by simpa using hword)
                simp [hd] at hrest
          simp [tokens, hends]
      | cons d bytes =>
          have hd : isspace d = false := by simpa using hbytes d (by simp)
          obtain ⟨token, more, htokens⟩ := List.exists_cons_of_ne_nil (tokens_ne_nil hd bytes)
          have hhead : (d :: bytes ++ rest).head? = (d :: bytes).head? := rfl
          rw [htokens, hhead]
          by_cases hjoined : (isWordByte c && (d :: bytes).head?.any isWordByte) = true
          · rw [if_pos hjoined, if_pos hjoined]
            rfl
          · rw [if_neg hjoined, if_neg hjoined]
            rfl

theorem tokens_eq_flatMap_words (s : CString) : tokens s = (words s).flatMap tokens := by
  induction hn : s.length using Nat.strong_induction_on generalizing s with
  | _ n ih =>
      cases s with
      | nil => rfl
      | cons c rest =>
          cases hc : isspace c with
          | true =>
              rw [tokens_of_isspace hc, words_cons_of_isspace hc]
              exact ih rest.length (hn ▸ Nat.lt_succ_self _) rest rfl
          | false =>
              have hdrop := List.length_dropWhile_le (!isspace ·) rest
              have hbytes : ∀ b ∈ c :: rest.takeWhile (!isspace ·), (!isspace b) = true := by
                intro b hb
                rcases List.mem_cons.mp hb with rfl | hb
                · simp [hc]
                · exact not_isspace_of_mem_takeWhile hb
              have hrest : (rest.dropWhile (!isspace ·)).head?.any (!isspace ·) = false :=
                any_head?_dropWhile _ rest
              rw [words_cons hc, List.flatMap_cons,
                ← ih _ (by rw [← hn, List.length_cons]; omega) _ rfl,
                ← tokens_append hbytes hrest, List.cons_append, List.takeWhile_append_dropWhile]

/-- The token of an identifier or a number. -/
theorem tokens_word {word rest : CString} (hne : word ≠ [])
    (hword : ∀ b ∈ word, isWordByte b = true) (hrest : rest.head?.any isWordByte = false) :
    tokens (word ++ rest) = word :: tokens rest := by
  induction word with
  | nil => exact absurd rfl hne
  | cons c word ih =>
      have hc := hword c List.mem_cons_self
      rw [List.cons_append, tokens_cons (isspace_of_isWordByte hc)]
      cases word with
      | nil => rw [List.nil_append, hrest, Bool.and_false, if_neg Bool.false_ne_true]
      | cons d word =>
          have hd := hword d (by simp)
          rw [ih (List.cons_ne_nil d word) fun b hb => hword b (List.mem_cons_of_mem c hb)]
          simp [hc, hd]

end ShaderText

end Variables

end OpenGL
end DeviceAndroVM
