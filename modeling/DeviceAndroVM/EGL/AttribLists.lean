import DeviceAndroVM.EGL.Types
import DeviceAndroVM.Library.PairList

/-!
# Attribute lists

`eglChooseConfig`, `eglCreatePbufferSurface` and `eglCreateContext` walk over a list that the
application passes.  EGL ends such a list with `EGL_NONE`.  The first of the three loops stops
there; the other two stop at a zero.

* `ChoosesConfig`, `CreatesPbufferSurface`, `CreatesContext` — the three loops, each with what it
  takes from the list and the elements that it has read.
* `ReadsList` — a call takes the values of the list, and reads nothing behind its end.
* `ScanningCall.readsList_iff` — `eglChooseConfig` always does; the others need a name that is zero
  with nothing behind it that still counts, and `eglCreatePbufferSurface` needs a list.
-/

namespace DeviceAndroVM
namespace EGL

open Library

abbrev EGL_NONE : EGLint := 0x3038#32
abbrev EGL_HEIGHT : EGLint := 0x3056#32
abbrev EGL_WIDTH : EGLint := 0x3057#32
abbrev EGL_NO_TEXTURE : EGLint := 0x305C#32
abbrev EGL_TEXTURE_FORMAT : EGLint := 0x3080#32
abbrev EGL_TEXTURE_TARGET : EGLint := 0x3081#32

/-- An attribute list in memory.  `NULL` is no list. -/
structure AttribList extends PairList EGLint EGL_NONE where
  fits : 4 * toPairList.words.length < 2 ^ 32

/-- The pairs of a list; there are none in `NULL`. -/
def attribPairs (attrib_list : Option AttribList) : List (EGLint × EGLint) :=
  (attrib_list.map fun list => list.pairs).getD []

/-- The words of a list up to its `EGL_NONE`; there are none in `NULL`. -/
def attribWords (attrib_list : Option AttribList) : List EGLint :=
  (attrib_list.map fun list => list.words).getD []

/-! ## The three loops -/

/-- What the loop of `eglChooseConfig` does for every name. -/
def chooseConfigTurn (_ : EGLint) : Turn EGLint EGLint :=
  .plain (· + 2#32)

/-- `rcChooseConfig` is given `attribs_size * sizeof(EGLint)` bytes of the list. -/
def rcChooseConfigAttribs (list : AttribList) (attribs_size : EGLint) : List EGLint :=
  (List.range ((attribs_size * 4#32).toNat / 4)).map list.word

/-- The scan of `eglChooseConfig`; it takes the words that go to the host. -/
def ChoosesConfig (attrib_list : Option AttribList) (attribs : List EGLint)
    (read : List Nat) : Prop :=
  match attrib_list with
  | none => attribs = [] ∧ read = []
  | some list =>
      ∃ s, WhileRun (scanBody (· == EGL_NONE) chooseConfigTurn list.word) (.start 0#32) s ∧
        attribs = rcChooseConfigAttribs list (s.vars + 1#32) ∧ read = s.read

/-- The attributes of `eglCreatePbufferSurface`. -/
structure PbufferAttribs where
  w : EGLint
  h : EGLint
  texFormat : EGLint
  texTarget : EGLint
  deriving DecidableEq

/-- The variables before the loop of `eglCreatePbufferSurface`. -/
def PbufferAttribs.init : PbufferAttribs where
  w := 0#32
  h := 0#32
  texFormat := EGL_NO_TEXTURE
  texTarget := EGL_NO_TEXTURE

/-- The `switch` of `eglCreatePbufferSurface`. -/
def pbufferTurn (name : EGLint) : Turn EGLint PbufferAttribs :=
  if name = EGL_WIDTH then .valued fun value attribs => { attribs with w := value }
  else if name = EGL_HEIGHT then .valued fun value attribs => { attribs with h := value }
  else if name = EGL_TEXTURE_FORMAT then
    .valued fun value attribs => { attribs with texFormat := value }
  else if name = EGL_TEXTURE_TARGET then
    .valued fun value attribs => { attribs with texTarget := value }
  else .plain id

/-- The scan of `eglCreatePbufferSurface`, which would read through `NULL` as well. -/
def CreatesPbufferSurface (attrib_list : Option AttribList) (attribs : PbufferAttribs)
    (read : List Nat) : Prop :=
  ∃ list, attrib_list = some list ∧ ∃ s,
    WhileRun (scanBody (· == 0#32) pbufferTurn list.word) (.start .init) s ∧
      attribs = s.vars ∧ read = s.read

/-- What the loop of `eglCreateContext` does for a name. -/
def contextTurn (name : EGLint) : Turn EGLint EGLint :=
  if name = EGL_CONTEXT_CLIENT_VERSION then .valued fun value _ => value
  else .plain id

/-- The scan of `eglCreateContext`. -/
def CreatesContext (attrib_list : Option AttribList) (version : EGLint)
    (read : List Nat) : Prop :=
  match attrib_list with
  | none => version = 1#32 ∧ read = []
  | some list =>
      ∃ s, WhileRun (scanBody (· == 0#32) contextTurn list.word) (.start 1#32) s ∧
        version = s.vars ∧ read = s.read

/-! ## What the lists say -/

/-- The attributes that some pairs give to a surface: for each the last value. -/
def PbufferAttribs.given (pairs : List (EGLint × EGLint)) : PbufferAttribs where
  w := lastValue EGL_WIDTH 0#32 pairs
  h := lastValue EGL_HEIGHT 0#32 pairs
  texFormat := lastValue EGL_TEXTURE_FORMAT EGL_NO_TEXTURE pairs
  texTarget := lastValue EGL_TEXTURE_TARGET EGL_NO_TEXTURE pairs

/-- The version that some pairs give to a context. -/
def clientVersion (pairs : List (EGLint × EGLint)) : EGLint :=
  lastValue EGL_CONTEXT_CLIENT_VERSION 1#32 pairs

/-- A scan ends, has taken what it should from the list, and has read nothing behind its end. -/
def ReadsList {ρ : Type} (Scans : ρ → List Nat → Prop) (attrib_list : Option AttribList)
    (given : ρ) : Prop :=
  ∃ read, Scans given read ∧ ∀ i ∈ read, i < (attribWords attrib_list).length

/-- A name of the list is zero, and the pairs from there on change nothing. -/
def SettledAtZero {ρ : Type} (given : List (EGLint × EGLint) → ρ) (list : AttribList) : Prop :=
  (∃ p ∈ list.pairs, p.1 = 0#32) ∧ given (list.front (· == 0#32)) = given list.pairs

/-- The three calls. -/
inductive ScanningCall
  | eglChooseConfig
  | eglCreatePbufferSurface
  | eglCreateContext

/-- The scan of a call reads its list as it should. -/
def ScanningCall.ReadsList (attrib_list : Option AttribList) : ScanningCall → Prop
  | .eglChooseConfig =>
      EGL.ReadsList (ChoosesConfig attrib_list) attrib_list (attribWords attrib_list)
  | .eglCreatePbufferSurface =>
      EGL.ReadsList (CreatesPbufferSurface attrib_list) attrib_list
        (PbufferAttribs.given (attribPairs attrib_list))
  | .eglCreateContext =>
      EGL.ReadsList (CreatesContext attrib_list) attrib_list
        (clientVersion (attribPairs attrib_list))

/-- The lists that suit a call. -/
def ScanningCall.Suits : Option AttribList → ScanningCall → Prop
  | _, .eglChooseConfig => True
  | none, .eglCreatePbufferSurface => False
  | some list, .eglCreatePbufferSurface => SettledAtZero PbufferAttribs.given list
  | none, .eglCreateContext => True
  | some list, .eglCreateContext => SettledAtZero clientVersion list

/-! ## `eglChooseConfig` -/

theorem vars_after_chooseConfig (pairs : List (EGLint × EGLint)) :
    (Scan.after chooseConfigTurn 0#32 pairs).vars = BitVec.ofNat 32 (2 * pairs.length) := by
  induction pairs using List.reverseRecOn with
  | nil => rfl
  | append_singleton pairs p ih =>
      rw [Scan.after_concat, List.length_append, List.length_singleton, Nat.mul_add,
        BitVec.ofNat_add, ← ih]
      rfl

/-- The size that is sent covers the list and its `EGL_NONE`. -/
theorem rcChooseConfigAttribs_words (list : AttribList) :
    rcChooseConfigAttribs list (BitVec.ofNat 32 (2 * list.pairs.length) + 1#32) = list.words := by
  have hfits := list.fits
  have hlength := list.length_words
  have hsize : ((BitVec.ofNat 32 (2 * list.pairs.length) + 1#32) * 4#32).toNat / 4 =
      list.words.length := by
    rw [BitVec.toNat_mul, BitVec.toNat_add, BitVec.toNat_ofNat, BitVec.toNat_ofNat,
      BitVec.toNat_ofNat]
    omega
  rw [rcChooseConfigAttribs, hsize]
  exact list.map_word_range

theorem front_none (list : AttribList) : list.front (· == EGL_NONE) = list.pairs := by
  refine List.takeWhile_eq_self_iff.mpr fun p hp => ?_
  simpa using list.names_ne p hp

theorem readsList_chooseConfig (attrib_list : Option AttribList) :
    ScanningCall.eglChooseConfig.ReadsList attrib_list := by
  cases attrib_list with
  | none => exact ⟨[], ⟨rfl, rfl⟩, by simp⟩
  | some list =>
      obtain ⟨s, hrun, hread, hvars⟩ :=
        (scan_within_iff list.toPairList (· == EGL_NONE) chooseConfigTurn 0#32 _).mpr
          ⟨.inr rfl, rfl⟩
      refine ⟨s.read, ⟨s, hrun, ?_, rfl⟩, hread⟩
      rw [hvars, front_none, vars_after_chooseConfig, rcChooseConfigAttribs_words]
      rfl

/-! ## The loops that stop at zero -/

/-- One turn of the switch gives its attribute the value. -/
theorem pbufferTurn_vars (pairs : List (EGLint × EGLint)) (name value : EGLint) :
    (pbufferTurn name).vars value (PbufferAttribs.given pairs) =
      PbufferAttribs.given (pairs ++ [(name, value)]) := by
  simp only [PbufferAttribs.given, lastValue_concat]
  by_cases hw : name = EGL_WIDTH
  · subst hw
    rfl
  by_cases hh : name = EGL_HEIGHT
  · subst hh
    rfl
  by_cases hf : name = EGL_TEXTURE_FORMAT
  · subst hf
    rfl
  by_cases ht : name = EGL_TEXTURE_TARGET
  · subst ht
    rfl
  rw [pbufferTurn, if_neg hw, if_neg hh, if_neg hf, if_neg ht, if_neg (Ne.symm hw),
    if_neg (Ne.symm hh), if_neg (Ne.symm hf), if_neg (Ne.symm ht)]
  rfl

theorem vars_after_pbuffer (pairs : List (EGLint × EGLint)) :
    (Scan.after pbufferTurn .init pairs).vars = PbufferAttribs.given pairs := by
  induction pairs using List.reverseRecOn with
  | nil => rfl
  | append_singleton pairs p ih =>
      rw [Scan.after_concat, Scan.next, ih]
      exact pbufferTurn_vars pairs p.1 p.2

theorem vars_after_context (pairs : List (EGLint × EGLint)) :
    (Scan.after contextTurn 1#32 pairs).vars = clientVersion pairs := by
  induction pairs using List.reverseRecOn with
  | nil => rfl
  | append_singleton pairs p ih =>
      rw [Scan.after_concat, Scan.next, ih]
      simp only [clientVersion, lastValue_concat, contextTurn]
      by_cases h : p.1 = EGL_CONTEXT_CLIENT_VERSION
      · rw [if_pos h, if_pos h.symm]
        rfl
      · rw [if_neg h, if_neg (Ne.symm h)]
        rfl

/-- A loop that stops at zero, with the values it should have. -/
theorem readsList_zero_iff {ρ : Type} {turn : EGLint → Turn EGLint ρ} {init : ρ}
    {given : List (EGLint × EGLint) → ρ}
    (hvars : ∀ pairs, (Scan.after turn init pairs).vars = given pairs) (list : AttribList) :
    (∃ read, (∃ s, WhileRun (scanBody (· == 0#32) turn list.word) (.start init) s ∧
        given list.pairs = s.vars ∧ read = s.read) ∧ ∀ i ∈ read, i < list.words.length) ↔
      SettledAtZero given list := by
  have hscan := scan_within_iff list.toPairList (· == 0#32) turn init (given list.pairs)
  rw [hvars] at hscan
  have hmark : (EGL_NONE == 0#32) = false := by decide
  simp only [hmark, beq_iff_eq, Bool.false_eq_true, or_false] at hscan
  rw [SettledAtZero, ← hscan]
  constructor
  · rintro ⟨_, ⟨s, hrun, hgiven, rfl⟩, hread⟩
    exact ⟨s, hrun, hread, hgiven.symm⟩
  · rintro ⟨s, hrun, hread, hgiven⟩
    exact ⟨s.read, ⟨s, hrun, hgiven.symm, rfl⟩, hread⟩

theorem readsList_pbuffer_iff (attrib_list : Option AttribList) :
    ScanningCall.eglCreatePbufferSurface.ReadsList attrib_list ↔
      ScanningCall.eglCreatePbufferSurface.Suits attrib_list := by
  cases attrib_list with
  | none =>
      refine iff_of_false ?_ id
      rintro ⟨_, ⟨_, hnull, _⟩, _⟩
      cases hnull
  | some list =>
      refine Iff.trans ?_ (readsList_zero_iff vars_after_pbuffer list)
      constructor
      · rintro ⟨read, ⟨_, hlist, hscan⟩, hread⟩
        cases hlist
        exact ⟨read, hscan, hread⟩
      · rintro ⟨read, hscan, hread⟩
        exact ⟨read, ⟨list, rfl, hscan⟩, hread⟩

theorem readsList_context_iff (attrib_list : Option AttribList) :
    ScanningCall.eglCreateContext.ReadsList attrib_list ↔
      ScanningCall.eglCreateContext.Suits attrib_list := by
  cases attrib_list with
  | none => exact iff_of_true ⟨[], ⟨rfl, rfl⟩, by simp⟩ trivial
  | some list => exact readsList_zero_iff vars_after_context list

/-- The three loops: what `eglChooseConfig` needs is the `EGL_NONE` that every list has, and the
others go on behind it if no name in front of it is zero. -/
theorem ScanningCall.readsList_iff (attrib_list : Option AttribList) (call : ScanningCall) :
    call.ReadsList attrib_list ↔ call.Suits attrib_list := by
  cases call with
  | eglChooseConfig =>
      cases attrib_list <;> exact iff_of_true (readsList_chooseConfig _) trivial
  | eglCreatePbufferSurface => exact readsList_pbuffer_iff attrib_list
  | eglCreateContext => exact readsList_context_iff attrib_list

/-- The list `{EGL_CONTEXT_CLIENT_VERSION, 2, EGL_NONE}`, in front of zeros. -/
def clientVersion2List : AttribList where
  pairs := [(EGL_CONTEXT_CLIENT_VERSION, 2#32)]
  names_ne := by
    intro p hp
    rw [List.mem_singleton.mp hp]
    decide
  behind := fun _ => 0#32
  fits := by
    rw [PairList.length_words, List.length_singleton]
    omega

theorem not_readsList_clientVersion2 :
    ¬ScanningCall.eglCreateContext.ReadsList (some clientVersion2List) := by
  rw [readsList_context_iff]
  rintro ⟨⟨p, hp, hzero⟩, -⟩
  rw [List.mem_singleton.mp hp] at hzero
  exact absurd hzero (by decide)

end EGL
end DeviceAndroVM
