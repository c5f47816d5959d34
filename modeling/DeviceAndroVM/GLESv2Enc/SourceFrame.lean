import DeviceAndroVM.GLESv2Enc.SourceLoops

/-!
# The bytes of a shader source that change

What `replaceSamplerExternalWith2D` (`GL2Encoder.cpp` lines 584–644) does to the string that
it is given, byte by byte.

* `InDirective` — the bytes of the `#extension` lines about external images.
* `Replaces` — a text in which the keyword is replaced in some places, and the names behind
  these places.
* `overwritten_spec`, `replacedFrom_replaces` — the two loops.
* `replaceSamplerExternalWith2D_frame` — the function, for every string.
-/

namespace DeviceAndroVM
namespace GLESv2Enc

open OpenGL Library OpenglCodecCommon CString GL2Encoder

/-- Byte `i` stands between the `#` of a directive and the end of its line. -/
def InDirective (least : Nat) (str : String8) (i : Nat) : Prop :=
  ∃ p ≤ i, BeginsDirective least (str.drop p) ∧ i < p + (lineOf (str.drop p)).length

/-- The identifier behind the 18 bytes at `place`. -/
def identifierBehind (text : String8) (place : Nat) : String8 :=
  ((text.drop (place + 18)).dropWhile isspace).takeWhile isIdentifierByte

/-- The text of `r` is `str` with spaces for the bytes `blank` and with `sampler2D` for
`samplerExternalOES` at `places`; its names are the identifiers behind these places. -/
structure Replaces (blank : Nat → Prop) (str : String8) (places : List Nat) (r : Replaced) :
    Prop where
  length : r.text.length = str.length
  blanks : ∀ i, blank i → r.text[i]? = some 0x20
  occurs : ∀ q ∈ places, STR_SAMPLER_EXTERNAL_OES <+: str.drop q
  written : ∀ q ∈ places, STR_SAMPLER2D_SPACE <+: r.text.drop q
  kept : ∀ i, ¬ blank i → (∀ q ∈ places, i < q ∨ q + 18 ≤ i) → r.text[i]? = str[i]?
  ordered : places.Pairwise fun q q' => q + 18 ≤ q'
  names : r.names = places.map (identifierBehind r.text)
  identifiers : ∀ name ∈ r.names, name.head?.any isIdentifierStart = true

/-! ## The directives -/

theorem length_lineOf_drop {s : String8} {p : Nat} (h : p ≤ (lineOf s).length) :
    p + (lineOf (s.drop p)).length = (lineOf s).length := by
  induction p generalizing s with
  | zero => exact Nat.zero_add _
  | succ p ih =>
      cases s with
      | nil => exact absurd h (Nat.not_succ_le_zero p)
      | cons c rest =>
          unfold lineOf at h ih ⊢
          rw [List.takeWhile_cons] at h ⊢
          split at h
          · rename_i hc
            rw [if_pos hc, List.drop_succ_cons, List.length_cons, ← ih (Nat.le_of_succ_le_succ h)]
            omega
          · exact absurd h (Nat.not_succ_le_zero p)

/-- Behind a place where no directive goes on. -/
theorem inDirective_add {least : Nat} {s : String8} {n : Nat}
    (h : ∀ p < n, BeginsDirective least (s.drop p) → p + (lineOf (s.drop p)).length ≤ n)
    (i : Nat) : InDirective least s (n + i) ↔ InDirective least (s.drop n) i := by
  constructor
  · rintro ⟨p, hp, hbegins, hline⟩
    by_cases hn : p < n
    · have hend := h p hn hbegins
      omega
    · obtain ⟨k, rfl⟩ := Nat.exists_eq_add_of_le (Nat.le_of_not_lt hn)
      refine ⟨k, by omega, ?_⟩
      rw [List.drop_drop]
      exact ⟨hbegins, by omega⟩
  · rintro ⟨k, hk, hbegins, hline⟩
    rw [List.drop_drop] at hbegins hline
    exact ⟨n + k, by omega, hbegins, by omega⟩

theorem not_inDirective_zero {least : Nat} {s : String8} (h : ¬ BeginsDirective least s) :
    ¬ InDirective least s 0 := by
  rintro ⟨p, hp, hbegins, -⟩
  obtain rfl := Nat.le_zero.mp hp
  exact h hbegins

theorem not_inDirective_nil (least i : Nat) : ¬ InDirective least [] i := by
  rintro ⟨p, -, ⟨hhash, -⟩, -⟩
  rw [List.drop_nil, List.prefix_nil] at hhash
  cases hhash

/-- No directive that begins in the line of another one goes on behind it. -/
theorem directive_in_line {least : Nat} {s : String8} {p : Nat} (h : p < (lineOf s).length) :
    BeginsDirective least (s.drop p) → p + (lineOf (s.drop p)).length ≤ (lineOf s).length :=
  fun _ => Nat.le_of_eq (length_lineOf_drop (Nat.le_of_lt h))

theorem length_lineOf_pos {least : Nat} {c : UInt8} {rest : String8}
    (h : BeginsDirective least (c :: rest)) : 0 < (lineOf (c :: rest)).length := by
  rw [lineOf, List.takeWhile_cons_of_pos (by rw [eq_hash_of_begins h.1]; rfl)]
  exact Nat.succ_pos _

/-- `text` is `str` with spaces in the lines of the directives. -/
def Blanks (str text : String8) : Prop :=
  text.length = str.length ∧
    ∀ i, (InDirective 0 str i → text[i]? = some 0x20) ∧
      (¬ InDirective 0 str i → text[i]? = str[i]?)

theorem Blanks.append {str bytes text : String8} (hbytes : bytes.length ≤ str.length)
    (hfirst : ∀ i < bytes.length, (InDirective 0 str i → bytes[i]? = some 0x20) ∧
      (¬ InDirective 0 str i → bytes[i]? = str[i]?))
    (hdirective : ∀ p < bytes.length, BeginsDirective 0 (str.drop p) →
      p + (lineOf (str.drop p)).length ≤ bytes.length)
    (h : Blanks (str.drop bytes.length) text) : Blanks str (bytes ++ text) := by
  obtain ⟨hlength, htext⟩ := h
  rw [List.length_drop] at hlength
  refine ⟨by rw [List.length_append, hlength]; omega, fun i => ?_⟩
  by_cases hi : i < bytes.length
  · rw [List.getElem?_append_left hi]
    exact hfirst i hi
  · obtain ⟨k, rfl⟩ := Nat.exists_eq_add_of_le (Nat.le_of_not_lt hi)
    rw [List.getElem?_append_right (Nat.le_add_right _ _), Nat.add_sub_cancel_left,
      inDirective_add hdirective, ← List.getElem?_drop]
    exact htext k

/-- What the first loop leaves. -/
theorem blanks_overwritten (s : String8) : Blanks s (overwritten s) := by
  induction hn : s.length using Nat.strong_induction_on generalizing s with
  | _ n ih =>
      cases s with
      | nil => exact ⟨rfl, fun i => ⟨fun h => absurd h (not_inDirective_nil 0 i), fun _ => rfl⟩⟩
      | cons c rest =>
          rw [overwritten_cons]
          by_cases hbegins : BeginsDirective 0 (c :: rest)
          · -- the whole line, and the loop behind it
            rw [if_pos hbegins]
            have hpos := length_lineOf_pos hbegins
            have hline : (lineOf (c :: rest)).length ≤ (c :: rest).length :=
              (List.takeWhile_prefix _).length_le
            have hspaces : (List.replicate (lineOf (c :: rest)).length (0x20 : UInt8)).length =
                (lineOf (c :: rest)).length := List.length_replicate
            refine Blanks.append (by rwa [hspaces]) ?_ ?_ ?_
            · intro i hi
              rw [hspaces] at hi
              refine ⟨fun _ => by rw [List.getElem?_replicate, if_pos hi], fun hnot => ?_⟩
              exact absurd ⟨0, Nat.zero_le i, hbegins, (Nat.zero_add _).symm ▸ hi⟩ hnot
            · rw [hspaces]
              exact fun p => directive_in_line
            · rw [hspaces]
              exact ih _ (by rw [List.length_drop]; omega) _ rfl
          · rw [if_neg hbegins]
            change Blanks (c :: rest) ([c] ++ overwritten rest)
            refine Blanks.append (Nat.succ_pos _) ?_ ?_ (ih rest.length ?_ rest rfl)
            · intro i hi
              obtain rfl := Nat.lt_one_iff.mp hi
              exact ⟨fun h => absurd h (not_inDirective_zero hbegins), fun _ => rfl⟩
            · intro p hp h
              obtain rfl := Nat.lt_one_iff.mp hp
              exact absurd h hbegins
            · rw [← hn]
              exact Nat.lt_succ_self _

/-! ## The replaced keywords -/

/-- No bytes are blanked. -/
def Nowhere (_ : Nat) : Prop := False

section Replacing

variable {s : String8} {places : List Nat} {r : Replaced}

/-- Nothing is replaced. -/
theorem replaces_none (ok : Bool) (s : String8) : Replaces Nowhere s [] ⟨ok, [], s⟩ where
  length := rfl
  blanks := fun _ h => h.elim
  occurs := fun _ h => nomatch h
  written := fun _ h => nomatch h
  kept := fun _ _ _ => rfl
  ordered := List.Pairwise.nil
  names := rfl
  identifiers := fun _ h => nomatch h

theorem identifierBehind_append (bytes text : String8) (q : Nat) :
    identifierBehind (bytes ++ text) (bytes.length + q) = identifierBehind text q := by
  rw [identifierBehind, Nat.add_assoc, List.drop_length_add_append, identifierBehind]

/-- Bytes before the text. -/
theorem Replaces.behind (h : Replaces Nowhere s places r) (bytes : String8) :
    Replaces Nowhere (bytes ++ s) (places.map (bytes.length + ·)) (r.behind bytes) where
  length := by
    simp only [Replaced.behind, List.length_append, h.length]
  blanks := fun _ hblank => hblank.elim
  occurs := by
    intro q' hq'
    obtain ⟨q, hq, rfl⟩ := List.mem_map.mp hq'
    rw [List.drop_length_add_append]
    exact h.occurs q hq
  written := by
    intro q' hq'
    obtain ⟨q, hq, rfl⟩ := List.mem_map.mp hq'
    rw [Replaced.behind, List.drop_length_add_append]
    exact h.written q hq
  kept := by
    intro i _ hout
    rw [Replaced.behind]
    by_cases hi : i < bytes.length
    · rw [List.getElem?_append_left hi, List.getElem?_append_left hi]
    · obtain ⟨k, rfl⟩ := Nat.exists_eq_add_of_le (Nat.le_of_not_lt hi)
      rw [List.getElem?_append_right (Nat.le_add_right _ _),
        List.getElem?_append_right (Nat.le_add_right _ _), Nat.add_sub_cancel_left]
      refine h.kept k id fun q hq => ?_
      have hplace := hout _ (List.mem_map_of_mem hq)
      omega
  ordered := by
    refine List.pairwise_map.mpr (h.ordered.imp fun hq => ?_)
    omega
  names := by
    rw [List.map_map]
    refine h.names.trans (List.map_congr_left fun q _ => ?_)
    exact (identifierBehind_append bytes r.text q).symm
  identifiers := h.identifiers

theorem drop_append_of_length {w : String8} {n : Nat} (hw : w.length = n) (k : Nat) (v : String8) :
    (w ++ v).drop (n + k) = v.drop k := by
  rw [← hw, List.drop_length_add_append]

/-- Both words have 18 bytes. -/
theorem drop_sampler2D {n : Nat} (hn : 18 ≤ n) (v : String8) :
    (STR_SAMPLER2D_SPACE ++ v).drop n = (STR_SAMPLER_EXTERNAL_OES ++ v).drop n := by
  obtain ⟨k, rfl⟩ := Nat.exists_eq_add_of_le hn
  have hnew : STR_SAMPLER2D_SPACE.length = 18 := rfl
  have hold : STR_SAMPLER_EXTERNAL_OES.length = 18 := rfl
  rw [drop_append_of_length hnew, drop_append_of_length hold]

/-- A keyword at the beginning is replaced too. -/
theorem Replaces.keyword {t v name : String8} {ok : Bool} {names : List String8}
    (h : Replaces Nowhere (STR_SAMPLER_EXTERNAL_OES ++ t) places
      ⟨ok, names, STR_SAMPLER_EXTERNAL_OES ++ v⟩)
    (hplaces : ∀ q ∈ places, 18 ≤ q)
    (hname : (v.dropWhile isspace).takeWhile isIdentifierByte = name)
    (hidentifier : name.head?.any isIdentifierStart = true) :
    Replaces Nowhere (STR_SAMPLER_EXTERNAL_OES ++ t) (0 :: places)
      ⟨ok, name :: names, STR_SAMPLER2D_SPACE ++ v⟩ where
  length := h.length
  blanks := fun _ hblank => hblank.elim
  occurs := by
    intro q hq
    rcases List.mem_cons.mp hq with rfl | hq
    · exact List.prefix_append _ _
    · exact h.occurs q hq
  written := by
    intro q hq
    rcases List.mem_cons.mp hq with rfl | hq
    · exact List.prefix_append _ _
    · rw [drop_sampler2D (hplaces q hq)]
      exact h.written q hq
  kept := by
    intro i _ hout
    have hi : 18 ≤ i := by
      have hfirst := hout 0 List.mem_cons_self
      omega
    obtain ⟨k, rfl⟩ := Nat.exists_eq_add_of_le hi
    have hkept := h.kept (18 + k) id fun q hq => hout q (List.mem_cons_of_mem 0 hq)
    rw [← List.getElem?_drop, drop_sampler2D (Nat.le_refl 18), List.getElem?_drop]
    exact hkept
  ordered := by
    refine List.pairwise_cons.mpr ⟨fun q hq => ?_, h.ordered⟩
    have hplace := hplaces q hq
    omega
  names := by
    rw [List.map_cons, ← hname]
    refine congrArg _ (h.names.trans (List.map_congr_left fun q _ => ?_))
    rw [identifierBehind, identifierBehind, drop_sampler2D (Nat.le_add_left 18 q)]
  identifiers := by
    intro name' hmem
    rcases List.mem_cons.mp hmem with rfl | hmem
    · exact hidentifier
    · exact h.identifiers name' hmem

/-- A byte that no identifier has in it stays at the beginning. -/
theorem Replaces.head (h : Replaces Nowhere s places r)
    (hhead : s.head?.any isIdentifierByte = false) :
    r.text.head?.any isIdentifierByte = false := by
  have hkept := h.kept 0 id fun q hq => ?_
  · rw [List.head?_eq_getElem?, hkept, ← List.head?_eq_getElem?]
    exact hhead
  · refine Or.inl (Nat.pos_of_ne_zero ?_)
    rintro rfl
    obtain ⟨after, hafter⟩ := h.occurs 0 hq
    rw [List.drop_zero] at hafter
    rw [← hafter] at hhead
    cases hhead

/-- The name behind the white space. -/
theorem takeWhile_name {space name text : String8} (hspace : ∀ b ∈ space, isspace b = true)
    (hname : ∀ b ∈ name, isIdentifierByte b = true)
    (htext : text.head?.any isIdentifierByte = false) (hne : name ≠ []) :
    ((space ++ name ++ text).dropWhile isspace).takeWhile isIdentifierByte = name := by
  obtain ⟨first, tail, rfl⟩ := List.exists_cons_of_ne_nil hne
  have hfirst := isspace_of_isIdentifierByte (hname first List.mem_cons_self)
  rw [List.append_assoc, List.dropWhile_append_of_pos hspace, List.cons_append,
    List.dropWhile_cons_of_neg (by simp [hfirst]), ← List.cons_append,
    List.takeWhile_append_of_pos hname]
  cases text with
  | nil => exact List.append_nil _
  | cons c rest => rw [List.takeWhile_cons_of_neg (by simpa using htext), List.append_nil]

/-- A keyword with the identifier behind it is replaced, and then the text behind that. -/
theorem Replaces.behind_keyword (h : Replaces Nowhere s places r) {space name : String8}
    (hspace : ∀ b ∈ space, isspace b = true) (hname : ∀ b ∈ name, isIdentifierByte b = true)
    (hidentifier : name.head?.any isIdentifierStart = true)
    (hhead : s.head?.any isIdentifierByte = false) :
    ∃ places', Replaces Nowhere (STR_SAMPLER_EXTERNAL_OES ++ (space ++ name ++ s)) places'
      ⟨r.ok, name :: r.names, STR_SAMPLER2D_SPACE ++ (space ++ name ++ r.text)⟩ := by
  have hbehind := h.behind (STR_SAMPLER_EXTERNAL_OES ++ (space ++ name))
  rw [Replaced.behind, List.append_assoc _ _ s, List.append_assoc _ _ r.text] at hbehind
  refine ⟨_, hbehind.keyword ?_ ?_ hidentifier⟩
  · intro q hq
    obtain ⟨k, -, rfl⟩ := List.mem_map.mp hq
    rw [length_keyword_append]
    omega
  · refine takeWhile_name hspace hname (h.head hhead) ?_
    rintro rfl
    cases hidentifier

end Replacing

/-- What the second loop leaves. -/
theorem replacedFrom_replaces (prev : Option UInt8) (s : String8) :
    ∃ places, Replaces Nowhere s places (replacedFrom prev s) := by
  induction hn : s.length using Nat.strong_induction_on generalizing prev s with
  | _ n ih =>
      cases s with
      | nil => exact ⟨[], replaces_none true []⟩
      | cons c rest =>
          by_cases hword : prev.any isspace = true ∧
              (c :: rest).takeWhile (!isspace ·) = STR_SAMPLER_EXTERNAL_OES
          · obtain ⟨hprev, htake⟩ := hword
            obtain ⟨after, hs, hafter⟩ := eq_keyword_append htake
            rw [hs, replacedFrom_keyword hprev hafter]
            have hspaces := List.takeWhile_append_dropWhile (p := isspace) (l := after)
            cases hnext : after.dropWhile isspace with
            | nil => exact ⟨[], replaces_none false _⟩
            | cons first tail =>
                dsimp only
                by_cases hfirst : isIdentifierStart first = true
                · rw [if_neg (by simp [hfirst])]
                  have hshorter := congrArg List.length hspaces
                  have htail := List.length_dropWhile_le isIdentifierByte tail
                  have hlength := congrArg List.length hs
                  rw [hnext, List.length_append, List.length_cons] at hshorter
                  rw [length_keyword_append] at hlength
                  obtain ⟨places, hplaces⟩ := ih (tail.dropWhile isIdentifierByte).length
                    (by omega) (first :: tail.takeWhile isIdentifierByte).getLast?
                    (tail.dropWhile isIdentifierByte) rfl
                  have hname : ∀ b ∈ first :: tail.takeWhile isIdentifierByte,
                      isIdentifierByte b = true := by
                    intro b hb
                    rcases List.mem_cons.mp hb with rfl | hb
                    · exact isIdentifierByte_of_isIdentifierStart hfirst
                    · exact List.mem_takeWhile_imp hb
                  have hhead := any_head?_dropWhile isIdentifierByte tail
                  have hspace : ∀ b ∈ after.takeWhile isspace, isspace b = true :=
                    fun b hb => List.mem_takeWhile_imp hb
                  have hall := hplaces.behind_keyword hspace hname hfirst hhead
                  rw [List.append_assoc, List.cons_append,
                    List.takeWhile_append_dropWhile, ← hnext, hspaces] at hall
                  simpa only [List.append_assoc] using hall
                · rw [if_pos (by simpa using hfirst)]
                  exact ⟨[], replaces_none false _⟩
          · rw [replacedFrom_cons fun hprev htake => hword ⟨hprev, htake⟩]
            obtain ⟨places, hplaces⟩ := ih rest.length (hn ▸ Nat.lt_succ_self _) (some c) rest rfl
            exact ⟨_, hplaces.behind [c]⟩

/-! ## The whole function -/

/-- A byte of the keyword. -/
theorem byte_of_occurs {text : String8} {q i : Nat} (h : STR_SAMPLER_EXTERNAL_OES <+: text.drop q)
    (hq : q ≤ i) (hi : i < q + 18) : ∃ b ∈ STR_SAMPLER_EXTERNAL_OES, text[i]? = some b := by
  obtain ⟨k, rfl⟩ := Nat.exists_eq_add_of_le hq
  have hk : k < STR_SAMPLER_EXTERNAL_OES.length := Nat.lt_of_add_lt_add_left hi
  refine ⟨STR_SAMPLER_EXTERNAL_OES[k], List.getElem_mem hk, ?_⟩
  rw [← List.getElem?_drop]
  exact List.prefix_iff_getElem?.mp h k hk

/-- The keywords that the second loop replaces were there before the first one. -/
theorem Replaces.of_blanks {str text : String8} {places : List Nat} {r : Replaced}
    (hblanks : Blanks str text) (h : Replaces Nowhere text places r) :
    Replaces (InDirective 0 str) str places r := by
  obtain ⟨hlength, hbytes⟩ := hblanks
  -- the lines of the directives are blank, and the keyword has no space in it
  have hnot : ∀ q, STR_SAMPLER_EXTERNAL_OES <+: text.drop q → ∀ i, q ≤ i → i < q + 18 →
      ¬ InDirective 0 str i := by
    intro q hq i hle hlt hdirective
    obtain ⟨b, hb, hbyte⟩ := byte_of_occurs hq hle hlt
    obtain rfl : b = 0x20 := Option.some.inj (hbyte.symm.trans ((hbytes i).1 hdirective))
    exact absurd hb (by decide)
  have hout : ∀ i, InDirective 0 str i → ∀ q ∈ places, i < q ∨ q + 18 ≤ i := by
    intro i hdirective q hq
    by_contra hin
    exact hnot q (h.occurs q hq) i (by omega) (by omega) hdirective
  refine ⟨h.length.trans hlength, ?_, ?_, h.written, ?_, h.ordered, h.names, h.identifiers⟩
  · intro i hdirective
    rw [h.kept i id (hout i hdirective)]
    exact (hbytes i).1 hdirective
  · intro q hq
    have hoccurs := h.occurs q hq
    refine List.prefix_iff_getElem?.mpr fun k hk => ?_
    have hk' : q + k < q + 18 := Nat.add_lt_add_left hk q
    rw [List.getElem?_drop, ← (hbytes _).2 (hnot q hoccurs _ (Nat.le_add_right q k) hk'),
      ← List.getElem?_drop]
    exact List.prefix_iff_getElem?.mp hoccurs k hk
  · intro i hkeep hplaces
    rw [h.kept i id hplaces]
    exact (hbytes i).2 hkeep

/-- Both loops end.  What changes are the lines of the `#extension` directives, with any
white space in them or none, and the keywords that are replaced. -/
theorem replaceSamplerExternalWith2D_frame (str : String8) :
    ∃ text,
      WhileRun extensionBody ⟨[], str⟩ text ∧
        WhileRun samplerBody ⟨[], text, []⟩ (replaceSamplerExternalWith2D str) ∧
          ∃ places,
            Replaces (InDirective 0 str) str places (replaceSamplerExternalWith2D str) := by
  refine ⟨overwritten str, overwriteExtensions_run _ [] str (Nat.lt_succ_self _), ?_, ?_⟩
  · exact replaceSamplers_run _ [] (overwritten str) [] (Nat.lt_succ_self _)
  · obtain ⟨places, hplaces⟩ := replacedFrom_replaces none (overwritten str)
    exact ⟨places, hplaces.of_blanks (blanks_overwritten str)⟩

/-- `#extensionGL_OES_EGL_image_external` is no directive, and is overwritten too. -/
theorem overwritten_without_space :
    ¬ ∀ str : String8,
        ∃ places,
          Replaces (InDirective 1 str) str places (replaceSamplerExternalWith2D str) := by
  intro h
  obtain ⟨places, hplaces⟩ := h (STR_HASH_EXTENSION ++ STR_GL_OES_EGL_IMAGE_EXTERNAL)
  have hkept := hplaces.kept 0 (not_inDirective_zero (by decide)) fun q hq => ?_
  · revert hkept
    decide
  · refine Or.inl (Nat.pos_of_ne_zero ?_)
    rintro rfl
    exact absurd (hplaces.occurs 0 hq) (by decide)

end GLESv2Enc
end DeviceAndroVM
