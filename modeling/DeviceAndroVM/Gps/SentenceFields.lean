import DeviceAndroVM.Gps.WrittenSentences

/-!
# The tokens and the fields of a sentence

The tokenizer makes no token for an empty field, so the fields behind it move forward.

* `sentenceBody`, `sentenceFields` — a sentence without `$`, line end and checksum, and its parts
  between commas.
* `tokenizer_fields` — the tokens of any sentence are the first fields that are not empty.
* `fieldsAtTheirPlaces_iff` — the sentences in which every token is the field at its place.
-/

namespace DeviceAndroVM
namespace Gps

open Library

/-! ## The parts of a sentence -/

/-- Without the `$` in front. -/
def dropDollar (s : CString) : CString := if s.head? = some 0x24 then s.tail else s

/-- Without `\n` or `\r\n` at the end. -/
def dropLineEnd (s : CString) : CString :=
  if s.getLast? = some 0x0A then
    if s.dropLast.getLast? = some 0x0D then s.dropLast.dropLast else s.dropLast
  else s

/-- Without `*` and two characters at the end. -/
def dropChecksum (s : CString) : CString :=
  if 3 ≤ s.length ∧ s[s.length - 3]? = some 0x2A then s.take (s.length - 3) else s

def sentenceBody (s : CString) : CString := dropChecksum (dropLineEnd (dropDollar s))

/-- The fields, the empty ones among them. -/
def sentenceFields (s : CString) : List CString := (sentenceBody s).splitOn 0x2C

/-- The token is the field, with its end at the field's length. -/
def Token.IsField (tok : Token) (field : CString) : Prop :=
  tok.length = field.length ∧ tok.bytes 0 tok.length = field

/-- Every token that can be asked for is the field at its place; `behind` is what the buffer holds
behind the sentence. -/
def FieldsAtTheirPlaces (s : CString) (behind : List UInt8) : Prop :=
  ∀ i < MAX_NMEA_TOKENS, ∀ field, (sentenceFields s)[i]? = some field →
    (nmea_tokenizer_get (nmea_tokenizer_init (s ++ behind) s.length) i).IsField field

/-! ## Fields -/

theorem join_splitOn (s : CString) : join (s.splitOn 0x2C) = s := by
  induction s with
  | nil => rfl
  | cons c rest ih =>
      obtain ⟨field, fields, hfields⟩ := List.exists_cons_of_ne_nil (rest.splitOn_ne_nil 0x2C)
      rw [List.splitOn_cons_eq_if_modifyHead, hfields]
      rw [hfields] at ih
      by_cases hc : c = 0x2C
      · rw [if_pos (by simp [hc]), hc]
        change [] ++ 0x2C :: join (field :: fields) = 0x2C :: rest
        rw [ih, List.nil_append]
      · rw [if_neg (by simpa using hc), List.modifyHead_cons]
        cases fields with
        | nil => exact congrArg (c :: ·) ih
        | cons next more => exact congrArg (c :: ·) ih

/-- A field has bytes of the text, and no comma. -/
theorem mem_of_mem_splitOn {s field : CString} (h : field ∈ s.splitOn 0x2C) :
    ∀ c ∈ field, c ∈ s ∧ c ≠ 0x2C := by
  induction s generalizing field with
  | nil =>
      rw [List.mem_singleton.mp h]
      exact fun c hc => absurd hc List.not_mem_nil
  | cons c rest ih =>
      obtain ⟨first, fields, hfields⟩ := List.exists_cons_of_ne_nil (rest.splitOn_ne_nil 0x2C)
      rw [List.splitOn_cons_eq_if_modifyHead, hfields] at h
      rw [hfields] at ih
      have hold : ∀ {field : CString}, field ∈ first :: fields →
          ∀ d ∈ field, d ∈ c :: rest ∧ d ≠ 0x2C := fun hmem d hd =>
        ⟨List.mem_cons_of_mem c (ih hmem d hd).1, (ih hmem d hd).2⟩
      by_cases hc : c = 0x2C
      · rw [if_pos (by simp [hc])] at h
        rcases List.mem_cons.mp h with rfl | hmem
        · exact fun d hd => absurd hd List.not_mem_nil
        · exact hold hmem
      · rw [if_neg (by simpa using hc), List.modifyHead_cons] at h
        rcases List.mem_cons.mp h with rfl | hmem
        · intro d hd
          rcases List.mem_cons.mp hd with rfl | hd
          · exact ⟨List.mem_cons_self, hc⟩
          · exact hold List.mem_cons_self d hd
        · exact hold (List.mem_cons_of_mem first hmem)

theorem isField_of_mem_splitOn {s field : CString} (hs : 0 ∉ s) (h : field ∈ s.splitOn 0x2C) :
    IsField field := by
  intro c hc
  obtain ⟨hmem, hcomma⟩ := mem_of_mem_splitOn h c hc
  refine ⟨hcomma, ?_⟩
  rintro rfl
  exact hs hmem

/-! ## Both ends of the sentence -/

theorem dropLineEnd_isInitial (t : CString) : dropLineEnd t <+: t := by
  unfold dropLineEnd
  split
  · split
    · exact (List.dropLast_prefix _).trans (List.dropLast_prefix t)
    · exact List.dropLast_prefix t
  · exact List.prefix_refl t

theorem dropLineEnd_append (t : CString) (last : UInt8) :
    dropLineEnd (t ++ [last]) =
      if last = 0x0A then if t.getLast? = some 0x0D then t.dropLast else t else t ++ [last] := by
  simp [dropLineEnd]

theorem dropChecksum_isInitial (t : CString) : dropChecksum t <+: t := by
  unfold dropChecksum
  split
  · exact List.take_prefix _ t
  · exact List.prefix_refl t

section Ends

variable {buffer : List UInt8} {p : Nat} {t : CString}

/-- The end of the line, when the buffer has `t` from place `p` on. -/
theorem length_dropLineEnd (hat : ∀ i < t.length, buffer.getD (p + i) 0 = t.getD i 0) :
    (if p < p + t.length ∧ buffer.getD (p + t.length - 1) 0 = 0x0A then
      if p < p + t.length - 1 ∧ buffer.getD (p + t.length - 2) 0 = 0x0D then p + t.length - 2
      else p + t.length - 1
    else p + t.length) = p + (dropLineEnd t).length := by
  -- the last character, and the one before it if that is a newline
  rcases List.eq_nil_or_concat t with rfl | ⟨t, last, rfl⟩
  · simp [dropLineEnd]
  rw [List.concat_eq_append] at hat ⊢
  have hlast : buffer.getD (p + t.length) 0 = last := by
    have h := hat t.length (by simp)
    rw [h]
    simp
  rw [dropLineEnd_append, List.length_append, List.length_singleton,
    show p + (t.length + 1) - 1 = p + t.length by omega,
    show p + (t.length + 1) - 2 = p + t.length - 1 by omega, hlast]
  by_cases hnewline : last = 0x0A
  · rw [if_pos hnewline, if_pos ⟨by omega, hnewline⟩]
    rcases List.eq_nil_or_concat t with rfl | ⟨t, before, rfl⟩
    · simp
    · rw [List.concat_eq_append] at hat ⊢
      have hbefore : buffer.getD (p + t.length) 0 = before := by
        have h := hat t.length (by simp)
        rw [h]
        simp
      rw [List.length_append, List.length_singleton,
        show p + (t.length + 1) - 1 = p + t.length by omega, hbefore]
      by_cases hreturn : before = 0x0D
      · rw [if_pos ⟨by omega, hreturn⟩, if_pos (by simp [hreturn])]
        simp
      · rw [if_neg (fun h => hreturn h.2), if_neg (by simpa using hreturn)]
        simp
  · rw [if_neg hnewline, if_neg (fun h => hnewline h.2), List.length_append, List.length_singleton]

/-- The end of the fields, when the buffer has `t` from place `p` on. -/
theorem length_dropChecksum (hat : ∀ i < t.length, buffer.getD (p + i) 0 = t.getD i 0) :
    (if p + 3 ≤ p + t.length ∧ buffer.getD (p + t.length - 3) 0 = 0x2A then p + t.length - 3
    else p + t.length) = p + (dropChecksum t).length := by
  by_cases hlong : 3 ≤ t.length
  · have hstar : buffer.getD (p + t.length - 3) 0 = t.getD (t.length - 3) 0 := by
      rw [Nat.add_sub_assoc hlong]
      exact hat _ (by omega)
    have hget : t[t.length - 3]? = some (t.getD (t.length - 3) 0) := by
      rw [List.getD_eq_getElem?_getD, List.getElem?_eq_getElem (by omega)]
      rfl
    rw [hstar, dropChecksum, hget]
    by_cases hmark : t.getD (t.length - 3) 0 = 0x2A
    · rw [if_pos ⟨by omega, hmark⟩, if_pos ⟨hlong, by rw [hmark]⟩, List.length_take]
      omega
    · rw [if_neg (fun h => hmark h.2), if_neg (fun h => hmark (Option.some.inj h.2))]
  · rw [if_neg (fun h => hlong (by omega)), dropChecksum, if_neg (fun h => hlong h.1)]

end Ends

/-- The place behind the `$`. -/
theorem dollar_eq (s : CString) (behind : List UInt8) :
    ∃ p, (if 0 < s.length ∧ (s ++ behind).getD 0 0 = 0x24 then 1 else 0) = p ∧
      s.length = p + (dropDollar s).length ∧
        (s ++ behind).drop p = dropDollar s ++ behind := by
  cases s with
  | nil => exact ⟨0, by simp, rfl, rfl⟩
  | cons c rest =>
      by_cases hc : c = 0x24
      · refine ⟨1, by simp [hc], ?_, ?_⟩
        · simp [dropDollar, hc, Nat.add_comm]
        · simp [dropDollar, hc]
      · exact ⟨0, by simp [hc], by simp [dropDollar, hc], by simp [dropDollar, hc]⟩

/-- The loop runs over the body of the sentence, wherever it is. -/
theorem nmea_tokenizer_init_eq (s : CString) (behind : List UInt8) :
    ∃ behind', nmea_tokenizer_init (s ++ behind) s.length =
      tokenizeLoop (sentenceBody s).length (sentenceBody s ++ behind') (sentenceBody s).length [] := by
  obtain ⟨p, hp, hlength, hdrop⟩ := dollar_eq s behind
  have hat : ∀ i < (dropDollar s).length, (s ++ behind).getD (p + i) 0 = (dropDollar s).getD i 0 := by
    intro i hi
    rw [List.getD_eq_getElem?_getD, ← List.getElem?_drop, hdrop, List.getElem?_append_left hi,
      List.getD_eq_getElem?_getD]
  have hline : ∀ i < (dropLineEnd (dropDollar s)).length,
      (s ++ behind).getD (p + i) 0 = (dropLineEnd (dropDollar s)).getD i 0 := by
    obtain ⟨tail, htail⟩ := dropLineEnd_isInitial (dropDollar s)
    intro i hi
    rw [hat i (by rw [← htail, List.length_append]; omega), List.getD_eq_getElem?_getD,
      List.getD_eq_getElem?_getD]
    conv_lhs => rw [← htail]
    rw [List.getElem?_append_left hi]
  obtain ⟨tail, htail⟩ : sentenceBody s <+: dropDollar s :=
    (dropChecksum_isInitial _).trans (dropLineEnd_isInitial _)
  refine ⟨tail ++ behind, ?_⟩
  unfold nmea_tokenizer_init
  dsimp only
  rw [hp, hdrop, hlength, length_dropLineEnd hat, length_dropChecksum hline, Nat.add_sub_cancel_left]
  change tokenizeLoop (sentenceBody s).length _ (sentenceBody s).length [] = _
  rw [← List.append_assoc, htail]

/-! ## The tokens of a sentence -/

section Tokens

variable {s : CString} (hs : 0 ∉ s) (behind : List UInt8)
include hs

theorem not_mem_sentenceBody : 0 ∉ sentenceBody s := by
  intro hmem
  have hdollar := ((dropChecksum_isInitial _).trans (dropLineEnd_isInitial _)).subset hmem
  unfold dropDollar at hdollar
  split at hdollar
  · exact hs (List.mem_of_mem_tail hdollar)
  · exact hs hdollar

/-- The tokens of a sentence are the first 16 of its fields that are not empty. -/
theorem tokenizer_fields :
    List.Forall₂ Token.Holds (nmea_tokenizer_init (s ++ behind) s.length)
      ((compact (sentenceFields s)).take MAX_NMEA_TOKENS) := by
  obtain ⟨behind', heq⟩ := nmea_tokenizer_init_eq s behind
  have hfields : ∀ text ∈ sentenceFields s, IsField text := fun text hmem =>
    isField_of_mem_splitOn (not_mem_sentenceBody hs) hmem
  have hjoin : join (sentenceFields s) = sentenceBody s := join_splitOn _
  have hnone : List.Forall₂ Token.Holds [] (([] : List CString).take MAX_NMEA_TOKENS) :=
    List.Forall₂.nil
  have htokens := tokenizeLoop_fields hfields (Nat.le_refl _) hnone behind'
  rw [hjoin, List.nil_append] at htokens
  rw [heq]
  exact htokens

/-- What `nmea_tokenizer_get` gives: the field that is left at that place, or an empty token. -/
theorem get_holds {i : Nat} (hi : i < MAX_NMEA_TOKENS) :
    (nmea_tokenizer_get (nmea_tokenizer_init (s ++ behind) s.length) i).Holds
      ((compact (sentenceFields s)).getD i []) := by
  have htokens := tokenizer_fields hs behind
  have htake : ((compact (sentenceFields s)).take MAX_NMEA_TOKENS)[i]? =
      (compact (sentenceFields s))[i]? := List.getElem?_take_of_lt hi
  cases hget : (compact (sentenceFields s))[i]? with
  | some text =>
      rw [List.getD_eq_getElem?_getD, hget]
      exact holds_get htokens i (htake.trans hget)
  | none =>
      have hnone : (nmea_tokenizer_init (s ++ behind) s.length)[i]? = none := by
        rw [List.getElem?_eq_none_iff, htokens.length_eq, ← List.getElem?_eq_none_iff, htake, hget]
      rw [List.getD_eq_getElem?_getD, hget]
      unfold nmea_tokenizer_get
      rw [hnone]
      exact ⟨rfl, rfl, [], rfl⟩

omit hs in
/-- A token that holds a text is no other field. -/
theorem isField_iff {tok : Token} {text field : CString} (h : tok.Holds text) :
    tok.IsField field ↔ text = field := by
  have hbytes : tok.bytes 0 tok.length = text := by
    rw [h.length, h.bytes (by omega), List.drop_zero, List.take_length]
  rw [Token.IsField, hbytes, h.length]
  constructor
  · exact fun hfield => hfield.2
  · rintro rfl
    exact ⟨rfl, rfl⟩

/-- Every token is the field at its place just when no empty field among the first 16 has one
behind it that is not empty. -/
theorem fieldsAtTheirPlaces_iff :
    FieldsAtTheirPlaces s behind ↔ EmptyAtTheEnd MAX_NMEA_TOKENS (sentenceFields s) := by
  rw [← compact_iff]
  constructor
  · intro h i hi field hfield
    exact (isField_iff (get_holds hs behind hi)).mp (h i hi field hfield)
  · intro h i hi field hfield
    exact (isField_iff (get_holds hs behind hi)).mpr (h i hi field hfield)

end Tokens

/-! ## Two sentences

Both have three fields, a line end and a checksum; in one the field in the middle is empty. -/

namespace Sample

/-- `$A,B,C*00` with its line end. -/
def full : CString := [0x24, 0x41, 0x2C, 0x42, 0x2C, 0x43, 0x2A, 0x30, 0x30, 0x0D, 0x0A]

/-- `$A,,C*00` with its line end. -/
def gap : CString := [0x24, 0x41, 0x2C, 0x2C, 0x43, 0x2A, 0x30, 0x30, 0x0D, 0x0A]

theorem fields_full : sentenceFields full = [[0x41], [0x42], [0x43]] := by decide

end Sample

theorem fieldsAtTheirPlaces_full : FieldsAtTheirPlaces Sample.full [] := by
  refine (fieldsAtTheirPlaces_iff (by decide) []).mpr ?_
  rw [Sample.fields_full]
  intro j _ k _ hj
  rcases j with _ | _ | _ | j
  · cases hj
  · cases hj
  · cases hj
  · cases hj

/-- The token at place 1 is the last field. -/
theorem not_fieldsAtTheirPlaces : ∃ s : CString, s.length ≤ NMEA_MAX_SIZE ∧ 0 ∉ s ∧
    (sentenceFields s)[1]? = some [] ∧
    (nmea_tokenizer_get (nmea_tokenizer_init s s.length) 1).IsField [0x43] ∧
    ¬FieldsAtTheirPlaces s [] := by
  refine ⟨Sample.gap, by decide, by decide, by decide, by unfold Token.IsField; decide, ?_⟩
  intro h
  have hlength := (h 1 (by decide) [] (by decide)).1
  revert hlength
  decide

end Gps
end DeviceAndroVM
