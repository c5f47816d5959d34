import DeviceAndroVM.Gps.LocalGps
import DeviceAndroVM.Gps.Updates
import DeviceAndroVM.Library.Compact
import Mathlib.Data.List.Forall2

/-!
# The reader on written sentences

What the tokenizer makes of a sentence that has been put together from fields, and what the
reader does with the bytes of a whole line.

* `Token.Holds` — a token is a field, whatever follows it in the buffer.
* `tokenizer_sentenceOf` — the tokens of a sentence are its fields that are not empty.
* `Session.Ready` — the reader at the beginning of a line.
* `feed_line`, `feed_long_line` — a line that fits the buffer, and one that does not.
-/

namespace DeviceAndroVM
namespace Gps

open Library

/-! ## Tokens that hold a field -/

namespace Token

/-- The token has been filled with a text. -/
structure Holds (tok : Token) (text : CString) : Prop where
  init : tok.init = true
  length : tok.length = text.length
  p : ∃ behind, tok.p = some (text ++ behind)

variable {tok : Token} {text : CString}

theorem Holds.bytes (h : tok.Holds text) {first count : Nat} (hwithin : first + count ≤ text.length) :
    tok.bytes first count = (text.drop first).take count := by
  obtain ⟨behind, hp⟩ := h.p
  unfold Token.bytes
  rw [hp, Option.getD_some, List.append_assoc, List.drop_append_of_le_length (by omega),
    List.take_append_of_le_length (by rw [List.length_drop]; omega)]

theorem Holds.bytesFrom (h : tok.Holds text) {first : Nat} (hwithin : first ≤ text.length) :
    tok.bytesFrom first = text.drop first := by
  unfold Token.bytesFrom
  rw [h.length, h.bytes (by omega), List.take_of_length_le (by rw [List.length_drop])]

theorem Holds.first (h : tok.Holds text) {c : UInt8} {rest : CString} (htext : text = c :: rest) :
    tok.first = some c := by
  obtain ⟨behind, hp⟩ := h.p
  unfold Token.first
  rw [hp, htext]
  rfl

end Token

/-- A field: no comma, and no end of the string. -/
def IsField (text : CString) : Prop := ∀ c ∈ text, c ≠ 0x2C ∧ c ≠ 0

/-- The token that the loop makes at the beginning of a field. -/
theorem holds_cstring {text : CString} (htext : IsField text) (behind : List UInt8) :
    Token.Holds ⟨some (cstring (text ++ behind)), text.length, true⟩ text where
  init := rfl
  length := rfl
  p := by
    refine ⟨cstring behind, ?_⟩
    unfold cstring
    rw [List.takeWhile_append_of_pos fun c hc => by simpa using (htext c hc).2]

theorem takeWhile_field {text : CString} (htext : IsField text) (behind : List UInt8)
    (hbehind : behind.head?.all (· == 0x2C)) :
    (text ++ behind).takeWhile (· != 0x2C) = text := by
  rw [List.takeWhile_append_of_pos fun c hc => by simpa using (htext c hc).1]
  cases behind with
  | nil => simp
  | cons c rest =>
      have hc : c = 0x2C := by simpa using hbehind
      rw [List.takeWhile_cons_of_neg (by simp [hc]), List.append_nil]

/-- The tokens with one for a field, unless it is empty. -/
def withField (tokens : List Token) (text : CString) (behind : List UInt8) : List Token :=
  if 0 < text.length ∧ tokens.length < MAX_NMEA_TOKENS then
    tokens ++ [⟨some (cstring (text ++ behind)), text.length, true⟩]
  else tokens

/-- One turn of the tokenizer, on a field with a comma behind it. -/
theorem tokenizeLoop_comma {text : CString} (htext : IsField text) (turns left : Nat)
    (behind : List UInt8) (tokens : List Token) :
    tokenizeLoop (turns + 1) (text ++ 0x2C :: behind) (text.length + (left + 1)) tokens =
      tokenizeLoop turns behind left (withField tokens text (0x2C :: behind)) := by
  have htake : ((text ++ 0x2C :: behind).take (text.length + (left + 1))).takeWhile (· != 0x2C) =
      text := by
    rw [List.take_length_add_append, List.take_succ_cons]
    exact takeWhile_field htext _ rfl
  have hdrop : (text ++ 0x2C :: behind).drop (text.length + 1) = behind := by
    rw [List.drop_length_add_append, List.drop_succ_cons, List.drop_zero]
  rw [tokenizeLoop, if_neg (by omega)]
  dsimp only
  rw [htake, if_pos (show text.length < text.length + (left + 1) by omega), hdrop]
  have hleft : text.length + (left + 1) - (text.length + 1) = left := by omega
  rw [hleft]
  rfl

theorem tokenizeLoop_zero (turns : Nat) (s : List UInt8) (tokens : List Token) :
    tokenizeLoop turns s 0 tokens = tokens := by
  cases turns with
  | zero => rfl
  | succ turns => exact if_pos rfl

/-- The last field. -/
theorem tokenizeLoop_last {text : CString} (htext : IsField text) {turns : Nat}
    (hturns : text.length ≤ turns) (behind : List UInt8) (tokens : List Token) :
    tokenizeLoop turns (text ++ behind) text.length tokens = withField tokens text behind := by
  by_cases hempty : text.length = 0
  · rw [hempty, tokenizeLoop_zero]
    unfold withField
    rw [if_neg (by omega)]
  · obtain ⟨turns, rfl⟩ := Nat.exists_eq_succ_of_ne_zero (n := turns) (by omega)
    have htake : ((text ++ behind).take text.length).takeWhile (· != 0x2C) = text := by
      have hfield := takeWhile_field htext [] rfl
      rw [List.append_nil] at hfield
      rw [List.take_left, hfield]
    rw [tokenizeLoop, if_neg hempty]
    dsimp only
    rw [htake, if_neg (Nat.lt_irrefl _), Nat.sub_self, tokenizeLoop_zero]
    rfl

theorem holds_withField {text : CString} (htext : IsField text) {tokens : List Token}
    {texts : List CString} (htokens : List.Forall₂ Token.Holds tokens texts)
    (hroom : tokens.length < MAX_NMEA_TOKENS) (behind : List UInt8) :
    List.Forall₂ Token.Holds (withField tokens text behind) (texts ++ compact [text]) := by
  unfold withField
  by_cases hempty : text = []
  · rw [if_neg (by simp [hempty]), hempty, compact_cons_nil]
    simpa [compact] using htokens
  · rw [if_pos ⟨List.length_pos_iff.mpr hempty, hroom⟩, compact_cons_of_ne hempty]
    exact List.rel_append htokens (List.Forall₂.cons (holds_cstring htext behind) List.Forall₂.nil)

/-- One more field, among at most 16 tokens. -/
theorem holds_withField_take {text : CString} (htext : IsField text) {tokens : List Token}
    {texts : List CString}
    (htokens : List.Forall₂ Token.Holds tokens (texts.take MAX_NMEA_TOKENS))
    (behind : List UInt8) :
    List.Forall₂ Token.Holds (withField tokens text behind)
      ((texts ++ compact [text]).take MAX_NMEA_TOKENS) := by
  have hlength := htokens.length_eq
  rw [List.length_take] at hlength
  by_cases hfull : MAX_NMEA_TOKENS ≤ texts.length
  · unfold withField
    rw [if_neg (by omega), List.take_append_of_le_length hfull]
    exact htokens
  · have hall : texts.take MAX_NMEA_TOKENS = texts := List.take_of_length_le (by omega)
    rw [hall] at htokens
    have hone : (compact [text]).length ≤ 1 := List.length_filter_le _ _
    rw [List.take_of_length_le (by rw [List.length_append]; omega)]
    exact holds_withField htext htokens (by omega) behind

/-- The tokenizer on any fields: the first 16 of those that are not empty. -/
theorem tokenizeLoop_fields {fields : List CString} (hfields : ∀ text ∈ fields, IsField text)
    {turns : Nat} (hturns : (join fields).length ≤ turns) {tokens : List Token}
    {texts : List CString}
    (htokens : List.Forall₂ Token.Holds tokens (texts.take MAX_NMEA_TOKENS))
    (behind : List UInt8) :
    List.Forall₂ Token.Holds
      (tokenizeLoop turns (join fields ++ behind) (join fields).length tokens)
      ((texts ++ compact fields).take MAX_NMEA_TOKENS) := by
  induction fields generalizing turns tokens texts with
  | nil =>
      change List.Forall₂ Token.Holds (tokenizeLoop turns behind 0 tokens) _
      rw [tokenizeLoop_zero, show compact ([] : List CString) = [] from rfl, List.append_nil]
      exact htokens
  | cons text rest ih =>
      have htext := hfields text List.mem_cons_self
      cases rest with
      | nil =>
          rw [show join [text] = text from rfl] at hturns ⊢
          rw [tokenizeLoop_last htext hturns]
          exact holds_withField_take htext htokens behind
      | cons next more =>
          have hjoin : join (text :: next :: more) = text ++ 0x2C :: join (next :: more) := rfl
          have hlength : (join (text :: next :: more)).length =
              text.length + ((join (next :: more)).length + 1) := by
            rw [hjoin, List.length_append, List.length_cons]
          obtain ⟨turns, rfl⟩ := Nat.exists_eq_succ_of_ne_zero (n := turns) (by omega)
          have hnext := holds_withField_take htext htokens (0x2C :: (join (next :: more) ++ behind))
          rw [hlength, hjoin, List.append_assoc, List.cons_append, tokenizeLoop_comma htext]
          have hsplit : texts ++ compact (text :: next :: more) =
              (texts ++ compact [text]) ++ compact (next :: more) := by
            rw [List.append_assoc, ← compact_append]
            rfl
          rw [hsplit]
          exact ih (fun text hmem => hfields text (List.mem_cons_of_mem _ hmem)) (by omega) hnext

/-! ## Sentences -/

/-- The tokens of a sentence at the beginning of the buffer are its fields. -/
theorem tokenizer_sentenceOf {fields : List CString} (hfields : ∀ text ∈ fields, IsField text)
    (hroom : (compact fields).length ≤ MAX_NMEA_TOKENS) (behind : List UInt8) :
    List.Forall₂ Token.Holds
      (nmea_tokenizer_init (sentenceOf fields ++ behind) (sentenceOf fields).length)
      (compact fields) := by
  have hlength : (sentenceOf fields).length = (join fields).length + 5 := by
    simp [sentenceOf, CString.ofChars]
  have hbuffer : sentenceOf fields ++ behind =
      0x24 :: (join fields ++ 0x2A :: 0x34 :: 0x37 :: 0x0A :: behind) := by
    simp [sentenceOf, CString.ofChars]
  have hat : ∀ i, (sentenceOf fields ++ behind).getD ((join fields).length + 1 + i) 0 =
      (0x2A :: 0x34 :: 0x37 :: 0x0A :: behind).getD i 0 := by
    intro i
    rw [hbuffer, show (join fields).length + 1 + i = (join fields).length + i + 1 by omega,
      List.getD_cons_succ, List.getD_eq_getElem?_getD,
      List.getElem?_append_right (Nat.le_add_right _ _), Nat.add_sub_cancel_left,
      List.getD_eq_getElem?_getD]
  have hfirst : (sentenceOf fields ++ behind).getD 0 0 = 0x24 := by
    rw [hbuffer]
    rfl
  have hnewline := hat 3
  have hdigit := hat 2
  have hstar := hat 0
  unfold nmea_tokenizer_init
  rw [hlength, hfirst, if_pos ⟨by omega, rfl⟩,
    show (join fields).length + 5 - 1 = (join fields).length + 1 + 3 by omega,
    show (join fields).length + 5 - 2 = (join fields).length + 1 + 2 by omega, hnewline, hdigit]
  have hline : (if 1 < (join fields).length + 5 ∧
        (0x2A :: 0x34 :: 0x37 :: 0x0A :: behind).getD 3 0 = (0x0A : UInt8) then
      if 1 < (join fields).length + 1 + 3 ∧
          (0x2A :: 0x34 :: 0x37 :: 0x0A :: behind).getD 2 0 = (0x0D : UInt8) then
        (join fields).length + 1 + 2
      else (join fields).length + 1 + 3
    else (join fields).length + 5) = (join fields).length + 1 + 3 := by
    rw [if_pos ⟨by omega, rfl⟩, if_neg (fun h => absurd h.2 (by simp))]
  dsimp only
  rw [hline, show (join fields).length + 1 + 3 - 3 = (join fields).length + 1 + 0 by omega, hstar,
    if_pos ⟨by omega, rfl⟩, Nat.add_zero, Nat.add_sub_cancel, hbuffer, List.drop_succ_cons,
    List.drop_zero]
  have hnone : List.Forall₂ Token.Holds [] (([] : List CString).take MAX_NMEA_TOKENS) :=
    List.Forall₂.nil
  have htokens := tokenizeLoop_fields hfields (Nat.le_refl _) hnone
    (0x2A :: 0x34 :: 0x37 :: 0x0A :: behind)
  rw [List.nil_append, List.take_of_length_le hroom] at htokens
  exact htokens

/-! ## Lines -/

variable {F : Type} [CDouble F]

namespace Session

/-- The reader is at the beginning of a line. -/
structure Ready (s : Session F) : Prop where
  alive : s.crashed = false
  overflow : s.reader.overflow = false
  pos : s.reader.pos = 0
  buffer : s.reader.in'.length = NMEA_MAX_SIZE + 1

/-- The session with a text at the beginning of the buffer. -/
def withText (s : Session F) (text : CString) (behind : List UInt8) : Session F :=
  { s with
    reader := { s.reader with pos := text.length, overflow := false, in' := text ++ behind } }

/-- The session while it skips a line. -/
def skipping (s : Session F) (buffer : List UInt8) : Session F :=
  { s with reader := { s.reader with pos := 0, overflow := true, in' := buffer } }

omit [CDouble F] in
theorem Ready.withText_nil {s : Session F} (h : s.Ready) : s.withText [] s.reader.in' = s := by
  have hreader : { s.reader with pos := 0, overflow := false } = s.reader := by
    rw [← h.pos, ← h.overflow]
  unfold withText
  rw [List.length_nil, List.nil_append, hreader]

variable {s : Session F} (mktime : Tm → Int) (now : Nat)

/-- A byte of the line is stored. -/
theorem step_withText (halive : s.crashed = false) (text : CString)
    (hroom : text.length < NMEA_MAX_SIZE) {c : UInt8} (hc : c ≠ 0x0A) (old : UInt8)
    (behind : List UInt8) :
    step mktime (s.withText text (old :: behind)) (.byte now c) =
      some (s.withText (text ++ [c]) behind) := by
  have hset : (text ++ old :: behind).set text.length c = text ++ [c] ++ behind := by
    rw [List.set_append_right _ _ (Nat.le_refl _), Nat.sub_self, List.set_cons_zero,
      List.append_assoc, List.singleton_append]
  unfold step nmea_reader_addc withText NmeaReader.store
  dsimp only
  rw [if_neg (by simp [halive]), if_neg Bool.false_ne_true, if_neg (by omega), if_neg hc, hset,
    List.length_append, List.length_singleton]

/-- The bytes of a line are stored. -/
theorem feed_withText (halive : s.crashed = false) (text : CString) {more : CString}
    (hroom : text.length + more.length ≤ NMEA_MAX_SIZE) (hmore : 0x0A ∉ more)
    (behind : List UInt8) (hbehind : more.length ≤ behind.length) :
    feed mktime (s.withText text behind) (arriving now more) =
      some (s.withText (text ++ more) (behind.drop more.length)) := by
  induction more generalizing text behind with
  | nil =>
      rw [List.append_nil, List.length_nil, List.drop_zero]
      rfl
  | cons c more ih =>
      rw [List.length_cons] at hroom hbehind
      obtain ⟨old, behind, rfl⟩ : ∃ old rest, behind = old :: rest :=
        List.exists_cons_of_ne_nil (List.length_pos_iff.mp (by omega))
      have hc : c ≠ 0x0A := fun h => hmore (by simp [h])
      have hstep := step_withText mktime now halive text (by omega) hc old behind
      change (step mktime (s.withText text (old :: behind)) (.byte now c) >>= fun s' =>
        feed mktime s' (arriving now more)) = _
      rw [hstep]
      change feed mktime (s.withText (text ++ [c]) behind) (arriving now more) = _
      rw [ih (text ++ [c]) (by simp; omega) (fun h => hmore (List.mem_cons_of_mem _ h)) behind
          (by simpa using hbehind),
        List.append_assoc, List.singleton_append, List.length_cons, List.drop_succ_cons]

theorem feed_append (s : Session F) (first second : CString) :
    feed mktime s (arriving now (first ++ second)) =
      feed mktime s (arriving now first) >>= fun s' => feed mktime s' (arriving now second) := by
  unfold feed arriving
  rw [List.map_append, List.foldlM_append]

/-- A line that fits the buffer is handed to the parser. -/
theorem feed_line (h : s.Ready) {body : CString} (hbody : 0x0A ∉ body)
    (hfits : (body ++ [0x0A]).length ≤ NMEA_MAX_SIZE) :
    feed mktime s (arriving now (body ++ [0x0A])) =
      some ((s.withText (body ++ [0x0A]) (s.reader.in'.drop (body.length + 1))).endSentence
        mktime now) := by
  rw [List.length_append, List.length_singleton] at hfits
  have hbuffer := h.buffer
  have hstored := feed_withText mktime now h.alive [] (show ([] : CString).length + body.length ≤ _ by
    simp; omega) hbody s.reader.in' (by omega)
  rw [h.withText_nil, List.nil_append] at hstored
  rw [feed_append, hstored]
  obtain ⟨old, behind, hbehind⟩ : ∃ old rest, s.reader.in'.drop body.length = old :: rest :=
    List.exists_cons_of_ne_nil (List.length_pos_iff.mp (by rw [List.length_drop]; omega))
  have hdrop : s.reader.in'.drop (body.length + 1) = behind := by
    rw [← List.drop_drop, hbehind]
    rfl
  have hset : (body ++ old :: behind).set body.length 0x0A = body ++ [0x0A] ++ behind := by
    rw [List.set_append_right _ _ (Nat.le_refl _), Nat.sub_self, List.set_cons_zero,
      List.append_assoc, List.singleton_append]
  rw [hbehind, hdrop]
  change step mktime (s.withText body (old :: behind)) (.byte now 0x0A) >>= some = _
  unfold step nmea_reader_addc withText NmeaReader.store
  dsimp only
  rw [if_neg (by simp [h.alive]), if_neg Bool.false_ne_true, if_neg (by omega), if_pos rfl, hset,
    List.length_append, List.length_singleton]
  rfl

/-- Bytes are skipped up to the newline. -/
theorem feed_skipping (halive : s.crashed = false) {more : CString} (hmore : 0x0A ∉ more)
    (buffer : List UInt8) :
    feed mktime (s.skipping buffer) (arriving now (more ++ [0x0A])) = some (s.withText [] buffer) := by
  induction more with
  | nil =>
      change step mktime (s.skipping buffer) (.byte now 0x0A) >>= some = _
      unfold step nmea_reader_addc skipping
      dsimp only
      rw [if_neg (by simp [halive]), if_pos rfl]
      rfl
  | cons c more ih =>
      have hc : c ≠ 0x0A := fun h => hmore (by simp [h])
      have hstep : step mktime (s.skipping buffer) (.byte now c) = some (s.skipping buffer) := by
        unfold step nmea_reader_addc skipping
        dsimp only
        rw [if_neg (by simp [halive]), if_pos rfl]
        simp [hc]
      change (step mktime (s.skipping buffer) (.byte now c) >>= fun s' =>
        feed mktime s' (arriving now (more ++ [0x0A]))) = _
      rw [hstep]
      exact ih fun h => hmore (List.mem_cons_of_mem _ h)

/-- A line that is too long, by more than its newline, leaves only its bytes in the buffer. -/
theorem feed_long_line (h : s.Ready) {body : CString} (hbody : 0x0A ∉ body)
    (hlong : NMEA_MAX_SIZE < body.length) :
    ∃ buffer, buffer.length = NMEA_MAX_SIZE + 1 ∧
      feed mktime s (arriving now (body ++ [0x0A])) = some (s.withText [] buffer) := by
  obtain ⟨first, c, more, rfl, hfirst⟩ : ∃ first c more, body = first ++ c :: more ∧
      first.length = NMEA_MAX_SIZE := by
    have hdrop : body.drop NMEA_MAX_SIZE ≠ [] :=
      List.length_pos_iff.mp (by rw [List.length_drop]; omega)
    obtain ⟨c, more, hmore⟩ := List.exists_cons_of_ne_nil hdrop
    exact ⟨body.take NMEA_MAX_SIZE, c, more, by rw [← hmore, List.take_append_drop],
      by rw [List.length_take]; omega⟩
  have hfirstBody : 0x0A ∉ first := fun hmem => hbody (List.mem_append_left _ hmem)
  have hbuffer := h.buffer
  have hstored := feed_withText mktime now h.alive [] (show ([] : CString).length + first.length ≤ _ by
    simp; omega) hfirstBody s.reader.in' (by omega)
  rw [h.withText_nil, List.nil_append] at hstored
  refine ⟨first ++ s.reader.in'.drop first.length, by simp; omega, ?_⟩
  rw [List.append_assoc, feed_append, hstored]
  have hfull : step mktime (s.withText first (s.reader.in'.drop first.length)) (.byte now c) =
      some (s.skipping (first ++ s.reader.in'.drop first.length)) := by
    unfold step nmea_reader_addc withText skipping
    dsimp only
    rw [if_neg (by simp [h.alive]), if_neg Bool.false_ne_true, if_pos (by omega)]
  change (step mktime (s.withText first (s.reader.in'.drop first.length)) (.byte now c) >>= fun s' =>
    feed mktime s' (arriving now (more ++ [0x0A]))) = _
  rw [hfull]
  exact feed_skipping mktime now h.alive
    (fun hmem => hbody (List.mem_append_right _ (List.mem_cons_of_mem _ hmem))) _

end Session

/-! ## Sentences and the fix -/

theorem length_le_join {fields : List CString} {text : CString} (h : text ∈ fields) :
    text.length ≤ (join fields).length := by
  induction fields with
  | nil => cases h
  | cons field rest ih =>
      cases rest with
      | nil =>
          rw [List.mem_singleton.mp h]
          exact Nat.le_refl _
      | cons next more =>
          change text.length ≤ (field ++ 0x2C :: join (next :: more)).length
          rw [List.length_append, List.length_cons]
          rcases List.mem_cons.mp h with rfl | hmem
          · omega
          · have hrest := ih hmem
            omega

theorem not_mem_join {fields : List CString} {c : UInt8} (hc : c ≠ 0x2C)
    (h : ∀ text ∈ fields, c ∉ text) : c ∉ join fields := by
  induction fields with
  | nil => simp [join]
  | cons field rest ih =>
      cases rest with
      | nil => exact h field List.mem_cons_self
      | cons next more =>
          change c ∉ field ++ 0x2C :: join (next :: more)
          rw [List.mem_append, List.mem_cons, not_or, not_or]
          exact ⟨h field List.mem_cons_self, hc, ih fun text hmem => h text (List.mem_cons_of_mem _ hmem)⟩

/-- A token of the sentence is the field at its place. -/
theorem holds_get {tzer : List Token} {texts : List CString}
    (h : List.Forall₂ Token.Holds tzer texts) (index : Nat) {text : CString}
    (htext : texts[index]? = some text) : (nmea_tokenizer_get tzer index).Holds text := by
  obtain ⟨tok, htok, hholds⟩ : ∃ tok, tzer[index]? = some tok ∧ tok.Holds text := by
    induction h generalizing index with
    | nil => cases htext
    | @cons tok field toks fields hhead htail ih =>
        cases index with
        | zero => exact ⟨tok, rfl, (Option.some.inj htext) ▸ hhead⟩
        | succ index => exact ih index htext
  unfold nmea_tokenizer_get
  rw [htok]
  exact ⟨rfl, hholds.length, hholds.p⟩

/-- What the session is after a sentence that has filled the tokens `t`, and was read with the
hemispheres. -/
structure Parsed (mktime : Tm → Int) (now : Nat) (s : Session F) (t : t_all_tokens)
    (latitudeHemi longitudeHemi : UInt8) (s' : Session F) : Prop where
  ready : s'.Ready
  callback : s'.reader.callback = true
  tokens : s'.tokens = t
  values : s'.reader.values = (s.reader.applied mktime now t latitudeHemi longitudeHemi).values
  fixes : t.flags ≠ 0 →
    s'.fixes = s.fixes ++ [(s.reader.applied mktime now t latitudeHemi longitudeHemi).fix]

/-- A text that is parsed at the beginning of the buffer: it is long enough, and the reader
finds the tokens, the type and the hemispheres. -/
structure Scans (s : Session F) (text : CString) (behind : List UInt8) (tzer : List Token)
    (type : SentenceType) (latitudeHemi longitudeHemi : UInt8) : Prop where
  long : 9 ≤ text.length
  tokens : nmea_tokenizer_init (text ++ behind) text.length = tzer
  id : 5 ≤ (nmea_tokenizer_get tzer 0).length
  kind : sentenceType (nmea_tokenizer_get tzer 0) = type
  latitude : (s.tokens.fill tzer type).latitudeHemi.first = some latitudeHemi
  longitude : (s.tokens.fill tzer type).longitudeHemi.first = some longitudeHemi

namespace Scans

variable {s : Session F} {text : CString} {behind : List UInt8} {tzer : List Token}
  {type : SentenceType} {latitudeHemi longitudeHemi : UInt8}

/-- The parser updates the fix with the tokens and reports it. -/
theorem parse (h : Scans s text behind tzer type latitudeHemi longitudeHemi) (mktime : Tm → Int)
    (now : Nat) :
    ({ s.withText text behind with handed := s.handed ++ [text] } :
        Session F).nmea_reader_parse mktime now =
      ({ s.withText text behind with
          handed := s.handed ++ [text]
          tokens := s.tokens.fill tzer type
          reader := (s.withText text behind).reader.applied mktime now
            (s.tokens.fill tzer type) latitudeHemi longitudeHemi } : Session F).report := by
  have htzer : Session.tzer ({ s.withText text behind with
      handed := s.handed ++ [text] } : Session F) = tzer := h.tokens
  rcases Session.parse_eq mktime now ({ s.withText text behind with
      handed := s.handed ++ [text] } : Session F) with ⟨-, hparse⟩ | ⟨hshort, -⟩
  · have htype : Session.sentenceType ({ s.withText text behind with
        handed := s.handed ++ [text] } : Session F) = type := by
      unfold Session.sentenceType
      rw [htzer]
      exact h.kind
    rw [hparse, htzer, htype]
    dsimp only
    rw [show (s.withText text behind).tokens = s.tokens from rfl,
      update_eq _ _ h.latitude h.longitude]
  · refine absurd ⟨h.long, ?_⟩ hshort
    rw [htzer]
    exact h.id

/-- The session at the end of the sentence. -/
theorem endSentence (h : Scans s text behind tzer type latitudeHemi longitudeHemi)
    (mktime : Tm → Int) (now : Nat) {applied : NmeaReader F}
    (happlied : s.reader.applied mktime now (s.tokens.fill tzer type) latitudeHemi
      longitudeHemi = applied) :
    (s.withText text behind).endSentence mktime now =
      { (({ s with
            handed := s.handed ++ [text]
            tokens := s.tokens.fill tzer type
            reader :=
              { applied with
                pos := text.length
                overflow := false
                in' := text ++ behind } } : Session F).report) with
        reader :=
          { (NmeaReader.report
              { applied with
                pos := text.length
                overflow := false
                in' := text ++ behind }).1 with pos := 0 } } := by
  have hparse := h.parse mktime now
  have hbuffer : (s.withText text behind).reader.applied mktime now
      (s.tokens.fill tzer type) latitudeHemi longitudeHemi =
        { s.reader.applied mktime now (s.tokens.fill tzer type) latitudeHemi longitudeHemi with
          pos := text.length
          overflow := false
          in' := text ++ behind } :=
    applied_buffer _ _ _ _ _ _ _
  rw [hbuffer, happlied] at hparse
  have htake : (s.withText text behind).reader.in'.take (s.withText text behind).reader.pos =
      text := List.take_left
  unfold Session.endSentence
  rw [htake]
  dsimp only
  rw [show (s.withText text behind).handed = s.handed from rfl, hparse]
  rfl

/-- What the sentence leaves. -/
theorem parsed (h : Scans s text behind tzer type latitudeHemi longitudeHemi) (hs : s.Ready)
    (hcallback : s.reader.callback = true)
    (hbehind : behind.length + text.length = NMEA_MAX_SIZE + 1) (mktime : Tm → Int) (now : Nat) :
    Parsed mktime now s (s.tokens.fill tzer type) latitudeHemi longitudeHemi
      ((s.withText text behind).endSentence mktime now) := by
  have hframing := framing_applied mktime now s.reader (s.tokens.fill tzer type) latitudeHemi
    longitudeHemi
  have hactive : (s.reader.applied mktime now (s.tokens.fill tzer type) latitudeHemi
      longitudeHemi).callback = true := (congrArg (·.2.2.2.1) hframing).trans hcallback
  have hflags : (s.reader.applied mktime now (s.tokens.fill tzer type) latitudeHemi
      longitudeHemi).fix.flags = s.reader.fix.flags ||| (s.tokens.fill tzer type).flags := rfl
  generalize heq : s.reader.applied mktime now (s.tokens.fill tzer type) latitudeHemi
    longitudeHemi = applied at hactive hflags
  have hreport := NmeaReader.framing_report
    { applied with pos := text.length, overflow := false, in' := text ++ behind }
  rw [h.endSentence mktime now heq]
  constructor
  · refine ⟨hs.alive, congrArg (·.2.1) hreport, rfl, ?_⟩
    refine (congrArg (fun framing => framing.2.2.1.length) hreport).trans ?_
    change (text ++ behind).length = NMEA_MAX_SIZE + 1
    rw [List.length_append]
    omega
  · exact (congrArg (·.2.2.2.1) hreport).trans hactive
  · rfl
  · rw [heq]
    exact values_report _
  · intro hset
    rw [heq]
    have hsome : applied.fix.flags ≠ 0 := by
      rw [hflags]
      exact fun hzero => hset (UInt16.or_eq_zero_iff.mp hzero).2
    change s.fixes ++ (NmeaReader.report _).2 = _
    unfold NmeaReader.report
    rw [if_pos (by simp [hsome, hactive])]

theorem handed (h : Scans s text behind tzer type latitudeHemi longitudeHemi)
    (mktime : Tm → Int) (now : Nat) :
    ((s.withText text behind).endSentence mktime now).handed = s.handed ++ [text] := by
  rw [h.endSentence mktime now rfl]
  rfl

end Scans

theorem sentenceOf_eq (fields : List CString) :
    sentenceOf fields = (0x24 :: (join fields ++ [0x2A, 0x34, 0x37])) ++ [0x0A] := by
  simp [sentenceOf, CString.ofChars]

/-- A sentence that fits is read to its end, at the beginning of the buffer. -/
theorem feed_sentenceOf (mktime : Tm → Int) (now : Nat) {s : Session F} (h : s.Ready)
    {fields : List CString} (hfields : ∀ text ∈ fields, 0x0A ∉ text)
    (hfits : (sentenceOf fields).length ≤ NMEA_MAX_SIZE) :
    ∃ behind, behind.length + (sentenceOf fields).length = NMEA_MAX_SIZE + 1 ∧
      Session.feed mktime s (Session.arriving now (sentenceOf fields)) =
        some ((s.withText (sentenceOf fields) behind).endSentence mktime now) := by
  have hbody : 0x0A ∉ 0x24 :: (join fields ++ [0x2A, 0x34, 0x37]) := by
    have hjoin := not_mem_join (by decide) hfields
    simpa using hjoin
  rw [sentenceOf_eq] at hfits ⊢
  refine ⟨_, ?_, Session.feed_line mktime now h hbody hfits⟩
  rw [List.length_drop, h.buffer]
  simp only [List.length_append, List.length_cons, List.length_nil] at hfits ⊢
  omega

/-- A sentence of GGA or RMC type that fits the buffer. -/
theorem feed_sentence (mktime : Tm → Int) (now : Nat) {s : Session F} (h : s.Ready)
    (hcallback : s.reader.callback = true) {fields : List CString}
    (hfields : ∀ text ∈ fields, IsField text ∧ 0x0A ∉ text)
    (hfits : (sentenceOf fields).length ≤ NMEA_MAX_SIZE)
    (hroom : (compact fields).length ≤ MAX_NMEA_TOKENS)
    (id : CString) (hid : (compact fields)[0]? = some id) (hlength : id.length = 5)
    (type : SentenceType) (htype : ∀ tok : Token, tok.Holds id → sentenceType tok = type)
    (hfills : type = .GGA ∨ type = .RMC)
    (latitudeHemi longitudeHemi : UInt8) {latitudeRest longitudeRest : CString}
    (hlatitude : (compact fields)[4]? = some (latitudeHemi :: latitudeRest))
    (hlongitude : (compact fields)[6]? = some (longitudeHemi :: longitudeRest)) :
    ∃ s' tzer, List.Forall₂ Token.Holds tzer (compact fields) ∧
      Session.feed mktime s (Session.arriving now (sentenceOf fields)) = some s' ∧
      s'.handed = s.handed ++ [sentenceOf fields] ∧
      Parsed mktime now s (s.tokens.fill tzer type) latitudeHemi longitudeHemi s' := by
  obtain ⟨behind, hbehind, hfeed⟩ :=
    feed_sentenceOf mktime now h (fun text hmem => (hfields text hmem).2) hfits
  have htzer := tokenizer_sentenceOf (fun text hmem => (hfields text hmem).1) hroom behind
  generalize hts : nmea_tokenizer_init (sentenceOf fields ++ behind) (sentenceOf fields).length =
    tzer at htzer
  have hfirst := holds_get htzer 0 hid
  have hmin : 9 ≤ (sentenceOf fields).length := by
    have hmem : id ∈ fields := (List.mem_filter.mp (List.mem_of_getElem? hid)).1
    have hjoin := length_le_join hmem
    rw [sentenceOf_eq]
    simp only [List.length_append, List.length_cons, List.length_nil]
    omega
  have hlat : (s.tokens.fill tzer type).latitudeHemi.first = some latitudeHemi := by
    rcases hfills with rfl | rfl
    · exact (holds_get htzer 4 hlatitude).first rfl
    · exact (holds_get htzer 4 hlatitude).first rfl
  have hlon : (s.tokens.fill tzer type).longitudeHemi.first = some longitudeHemi := by
    rcases hfills with rfl | rfl
    · exact (holds_get htzer 6 hlongitude).first rfl
    · exact (holds_get htzer 6 hlongitude).first rfl
  have hid5 : 5 ≤ (nmea_tokenizer_get tzer 0).length := by
    rw [hfirst.length, hlength]
  have hscans : Scans s (sentenceOf fields) behind tzer type latitudeHemi longitudeHemi :=
    ⟨hmin, hts, hid5, htype _ hfirst, hlat, hlon⟩
  exact ⟨_, tzer, htzer, hfeed, hscans.handed mktime now,
    hscans.parsed h hcallback hbehind mktime now⟩

end Gps
end DeviceAndroVM
