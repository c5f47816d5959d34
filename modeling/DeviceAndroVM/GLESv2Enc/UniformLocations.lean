import DeviceAndroVM.Library.CString
import DeviceAndroVM.Library.Transition
import DeviceAndroVM.OpenglCodecCommon.LocationWAR
import DeviceAndroVM.GLESv2Enc.LinkedTable

/-!
# Locations of uniforms

`glGetUniformLocation` on a program that needs the location workaround
(`GL2Encoder.cpp` lines 780–806).

* `s_glGetUniformLocation` — the call, with the host's answer.
* `NamesElement` — the names of the elements of a uniform.
* `LaidOut` — the host's locations are a `StridedLayout`.
* `LocationStep` — a query, which the host answers by that layout.
* `uniform_locations_round_trip` — the translation back of all answers.
-/

namespace DeviceAndroVM
namespace GLESv2Enc

open OpenGL Library OpenglCodecCommon GL2Encoder

namespace GL2Encoder

/-- `arrIndex` from the end of the name; `none` is the early return.  For the empty name
the code looks at the byte before it; whatever that is, no uniform has this name. -/
def arrayIndexOf (name : String8) : Option GLint :=
  if name.getLast? = some 0x5D then
    (CString.afterLast 0x5B name).bind fun rest =>
      (CString.scanInt rest).map fun value => BitVec.ofInt 32 value
  else some 0#32

/-- `GL2Encoder::s_glGetUniformLocation`; `hostLoc` is the host's answer. -/
def s_glGetUniformLocation (ctx : Encoder) (program : GLuint) (name : Option String8)
    (hostLoc : GLint) : GLint × Encoder :=
  match name with
  | none => (-1#32, ctx)
  | some name =>
      let needLocationWAR := ctx.shared.needUniformLocationWAR program
      match if needLocationWAR then arrayIndexOf name else some 0#32 with
      | none => (-1#32, ctx)
      | some arrIndex =>
          if 0 ≤ hostLoc.toInt ∧ needLocationWAR = true then
            let result := ctx.shared.locationWARHostToApp program hostLoc arrIndex
            (result.1, { ctx with shared := result.2 })
          else (hostLoc, ctx)

end GL2Encoder

/-! ## Names -/

/-- The name of an active uniform without the `[0]` that the host gives to arrays. -/
def rootName (name : String8) : String8 :=
  if [0x5B, 0x30, 0x5D] <:+ name then name.take (name.length - 3) else name

/-- The names of element `k` of the uniform that the host reports as `uniform`. -/
def NamesElement (uniform : String8) (k : Nat) (name : String8) : Prop :=
  (name = rootName uniform ∧ k = 0) ∨
    ∃ digits : String8, digits ≠ [] ∧ (∀ d ∈ digits, CString.isdigit d = true) ∧
      name = rootName uniform ++ 0x5B :: (digits ++ [0x5D]) ∧ CString.decimalValue digits = k

/-- The code finds the index that the name has. -/
theorem arrayIndexOf_eq {uniform name : String8} {k : Nat}
    (hroot : (rootName uniform).getLast? ≠ some 0x5D) (h : NamesElement uniform k name) :
    arrayIndexOf name = some (BitVec.ofNat 32 k) := by
  unfold arrayIndexOf
  rcases h with ⟨rfl, rfl⟩ | ⟨digits, hne, hdigits, rfl, rfl⟩
  · rw [if_neg hroot]
  · have hlast : (rootName uniform ++ 0x5B :: (digits ++ [0x5D])).getLast? = some 0x5D := by
      rw [List.getLast?_append, List.getLast?_cons, List.getLast?_concat]
      rfl
    have hafter : ∀ b ∈ digits ++ [0x5D], b ≠ 0x5B := by
      intro b hb
      rcases List.mem_append.mp hb with hb | hb
      · rintro rfl
        exact absurd (hdigits _ hb) (by decide)
      · rw [List.mem_singleton.mp hb]
        decide
    have hstop : CString.isdigit 0x5D = false := by decide
    rw [if_pos hlast, CString.afterLast_append hafter, Option.bind_some,
      CString.scanInt_digits hne hdigits hstop, Option.map_some, BitVec.ofInt_natCast]

/-! ## The host's locations -/

/-- The host gives the active uniforms the locations of the layout, with bases that are
multiples of 65536.  An active uniform is an identifier or a member of a struct, with
`[0]` behind it when it is an array. -/
structure LaidOut (uniforms : List ActiveUniform) (L : StridedLayout (2 ^ 31)) : Prop where
  two : 2 ≤ L.count
  count : uniforms.length = L.count
  aligned : ∀ i < L.count, 65536 ∣ L.base i
  base : ∀ (i : Nat) (u : ActiveUniform), uniforms[i]? = some u →
    u.location.toInt = (L.base i : Int)
  size : ∀ (i : Nat) (u : ActiveUniform), uniforms[i]? = some u → u.size.toInt = (L.size i : Int)
  names : ∀ u ∈ uniforms, (rootName u.name).getLast? ≠ some 0x5D

/-- `name` is a name of element `k` of uniform `i`. -/
def Names (uniforms : List ActiveUniform) (i k : Nat) (name : String8) : Prop :=
  ∃ u, uniforms[i]? = some u ∧ NamesElement u.name k name

/-- The host's answer: the location of the element with this name, or none. -/
def HostAnswers (uniforms : List ActiveUniform) (L : StridedLayout (2 ^ 31)) (name : String8)
    (hostLoc : GLint) : Prop :=
  hostLoc.toInt < 0 ∨
    ∃ i k, Names uniforms i k name ∧ k < L.size i ∧ hostLoc.toInt = (L.address i k : Int)

/-- A call of `glGetUniformLocation`, with the host's answer and the result. -/
structure LocationQuery where
  program : GLuint
  name : Option String8
  hostLoc : GLint
  location : GLint

/-- The query asks for element `k` of uniform `i`, and the host knows it. -/
def LocationQuery.Asks (query : LocationQuery) (program : GLuint) (uniforms : List ActiveUniform)
    (L : StridedLayout (2 ^ 31)) (i k : Nat) : Prop :=
  query.program = program ∧ (∃ name, query.name = some name ∧ Names uniforms i k name) ∧
    k < L.size i ∧ query.hostLoc.toInt = (L.address i k : Int)

/-- One query; those of `program` are answered by the layout. -/
def LocationStep (program : GLuint) (uniforms : List ActiveUniform) (L : StridedLayout (2 ^ 31))
    (ctx : Encoder) (query : LocationQuery) (ctx' : Encoder) : Prop :=
  s_glGetUniformLocation ctx query.program query.name query.hostLoc = (query.location, ctx') ∧
    (query.program = program → ∀ name, query.name = some name →
      HostAnswers uniforms L name query.hostLoc)

variable {uniforms : List ActiveUniform} {L : StridedLayout (2 ^ 31)} {program : GLuint}
  {ctx ctx' : Encoder} {query : LocationQuery} {i k : Nat}

theorem LaidOut.lt_count (h : LaidOut uniforms L) {name : String8}
    (hname : Names uniforms i k name) : i < L.count := by
  obtain ⟨u, hu, -⟩ := hname
  rw [← h.count]
  exact (List.getElem?_eq_some_iff.mp hu).1

theorem LaidOut.base_lt (h : LaidOut uniforms L) : ∀ i < L.count, L.base i < 2 ^ 31 := by
  intro i hi
  obtain ⟨u, hu⟩ : ∃ u, uniforms[i]? = some u := ⟨_, List.getElem?_eq_getElem (h.count ▸ hi)⟩
  have hlt := @BitVec.two_mul_toInt_lt 32 u.location
  rw [h.base i _ hu] at hlt
  omega

/-! ## Linking -/

theorem and_mask_eq_zero {base : GLint} {n : Nat} (hbase : base.toInt = (n : Int))
    (haligned : 65536 ∣ n) : (base &&& 0xffff#32 == 0#32) = true := by
  have hnat : base.toNat = n := by
    have hint := BitVec.toInt_eq_toNat_cond base
    have hlt := base.isLt
    split at hint <;> omega
  have hmask : (base &&& 0xffff#32).toNat = 0 := by
    rw [BitVec.toNat_and, hnat]
    exact (Nat.and_two_pow_sub_one_eq_mod n 16).trans (Nat.mod_eq_zero_of_dvd haligned)
  rw [beq_iff_eq]
  exact BitVec.eq_of_toNat_eq hmask

/-- The numbers that the table gives to the elements. -/
theorem LaidOut.appBaseOf (h : LaidOut uniforms L) :
    ∀ i ≤ uniforms.length, GL2Encoder.appBaseOf uniforms i = BitVec.ofNat 32 (L.offset i) := by
  intro i
  induction i with
  | zero => exact fun _ => rfl
  | succ n ih =>
      intro hle
      have hu : uniforms[n]? = some uniforms[n] := List.getElem?_eq_getElem hle
      have hsize : uniforms[n].size = BitVec.ofNat 32 (L.size n) := by
        rw [← BitVec.ofInt_natCast, ← h.size n _ hu, BitVec.ofInt_toInt]
      rw [appBaseOf_succ hu, ih (Nat.le_of_succ_le hle), hsize, StridedLayout.offset_succ,
        BitVec.ofNat_add]

/-- Linking leaves a table that describes the layout. -/
theorem LaidOut.laid (h : LaidOut uniforms L) (external : String8 → Bool) (old : ProgramData) :
    Laid L (linkedData external uniforms old) := by
  have hentry : ∀ (i : Nat) (info : IndexInfo),
      (linkedTable external uniforms)[i]? = some info →
        ∃ u, uniforms[i]? = some u ∧ info = linkedEntry external uniforms i u := by
    intro i info hinfo
    rw [getElem?_linkedTable, Option.map_eq_some_iff] at hinfo
    obtain ⟨u, hu, rfl⟩ := hinfo
    exact ⟨u, hu, rfl⟩
  refine ⟨?_, length_linkedTable.trans h.count, ?_, ?_, ?_⟩
  · have hall : (linkedTable external uniforms).all
        (fun info => info.base &&& 0xffff#32 == 0#32) = true := by
      rw [List.all_eq_true]
      intro info hmem
      obtain ⟨i, hi⟩ := List.getElem?_of_mem hmem
      obtain ⟨u, hu, rfl⟩ := hentry i info hi
      have hlt : i < L.count := h.count ▸ (List.getElem?_eq_some_iff.mp hu).1
      exact and_mask_eq_zero (h.base i u hu) (h.aligned i hlt)
    have htwo : 1 < (linkedTable external uniforms).length := by
      rw [length_linkedTable, h.count]
      exact h.two
    show ((linkedTable external uniforms).all _ && decide (1 < _)) = true
    rw [hall, Bool.true_and, decide_eq_true_iff]
    exact htwo
  · intro i info hinfo
    obtain ⟨u, hu, rfl⟩ := hentry i info hinfo
    exact h.base i u hu
  · intro i info hinfo
    obtain ⟨u, hu, rfl⟩ := hentry i info hinfo
    exact h.size i u hu
  · intro i info hinfo
    obtain ⟨u, hu, rfl⟩ := hentry i info hinfo
    exact h.appBaseOf i (Nat.le_of_lt (List.getElem?_eq_some_iff.mp hu).1)

/-! ## Queries -/

/-- The table of the program describes the layout. -/
def TableLaid (program : GLuint) (L : StridedLayout (2 ^ 31)) (ctx : Encoder) : Prop :=
  ∃ data, ctx.shared.programs.lookup program = some data ∧ Laid L data

/-- The table of the program locates the element. -/
def TableResolved (program : GLuint) (L : StridedLayout (2 ^ 31)) (i k : Nat) (ctx : Encoder) :
    Prop :=
  ∃ data, ctx.shared.programs.lookup program = some data ∧ Laid L data ∧ Resolved L data i k

/-- What a query keeps, and what it achieves. -/
structure Answered (program : GLuint) (uniforms : List ActiveUniform)
    (L : StridedLayout (2 ^ 31)) (ctx : Encoder) (query : LocationQuery) (ctx' : Encoder) :
    Prop where
  laid : TableLaid program L ctx'
  kept : ∀ j l, TableResolved program L j l ctx → TableResolved program L j l ctx'
  asked : ∀ i k, query.Asks program uniforms L i k →
    query.location.toInt = (L.offset i + k : Nat) ∧ TableResolved program L i k ctx'

/-- A query that leaves the table alone. -/
theorem Answered.of_same (h : TableLaid program L ctx)
    (hsame : ctx'.shared.programs.lookup program = ctx.shared.programs.lookup program)
    (hasks : ∀ i k, ¬ query.Asks program uniforms L i k) :
    Answered program uniforms L ctx query ctx' := by
  refine ⟨?_, ?_, fun i k h => absurd h (hasks i k)⟩
  · unfold TableLaid
    rw [hsame]
    exact h
  · intro j l hresolved
    unfold TableResolved
    rw [hsame]
    exact hresolved

theorem locationWARHostToApp_frame (shared : GLSharedGroup) {other : GLuint}
    (hne : other ≠ program) (hostLoc arrIndex : GLint) :
    (shared.locationWARHostToApp other hostLoc arrIndex).2.programs.lookup program =
      shared.programs.lookup program := by
  unfold GLSharedGroup.locationWARHostToApp
  split
  · exact AList.lookup_insert_ne hne.symm
  · rfl

/-- A query changes nothing but the tables, by `locationWARHostToApp`. -/
theorem s_glGetUniformLocation_cases (ctx : Encoder) (program : GLuint) (name : Option String8)
    (hostLoc : GLint) :
    (s_glGetUniformLocation ctx program name hostLoc).2 = ctx ∨
      ∃ arrIndex, (s_glGetUniformLocation ctx program name hostLoc).2 =
        { ctx with shared := (ctx.shared.locationWARHostToApp program hostLoc arrIndex).2 } := by
  unfold s_glGetUniformLocation
  cases name with
  | none => exact Or.inl rfl
  | some name =>
      dsimp only
      split
      · exact Or.inl rfl
      · rename_i arrIndex _
        split
        · exact Or.inr ⟨arrIndex, rfl⟩
        · exact Or.inl rfl

theorem s_glGetUniformLocation_frame {name : Option String8} {hostLoc : GLint} {other : GLuint}
    (hne : other ≠ program) :
    (s_glGetUniformLocation ctx other name hostLoc).2.shared.programs.lookup program =
      ctx.shared.programs.lookup program := by
  rcases s_glGetUniformLocation_cases ctx other name hostLoc with heq | ⟨arrIndex, heq⟩
  · rw [heq]
  · rw [heq]
    exact locationWARHostToApp_frame ctx.shared hne _ _

/-- A name that the host does not know. -/
theorem s_glGetUniformLocation_of_neg {name : Option String8} {hostLoc : GLint}
    (hneg : hostLoc.toInt < 0) :
    (s_glGetUniformLocation ctx program name hostLoc).2 = ctx := by
  unfold s_glGetUniformLocation
  cases name with
  | none => rfl
  | some name =>
      dsimp only
      split
      · rfl
      · rw [if_neg fun hand => absurd hand.1 (Int.not_le.mpr hneg)]

/-- A query of a name that both the encoder and the host resolve. -/
theorem s_glGetUniformLocation_of_known {data : ProgramData} {name : String8} {arrIndex hostLoc : GLint}
    (hlookup : ctx.shared.programs.lookup program = some data) (hwar : data.locShiftWAR = true)
    (hindex : arrayIndexOf name = some arrIndex) (hpos : 0 ≤ hostLoc.toInt) :
    s_glGetUniformLocation ctx program (some name) hostLoc =
      ((data.locationWARHostToApp hostLoc arrIndex).1, { ctx with shared := { ctx.shared with
        programs := ctx.shared.programs.insert program
          (data.locationWARHostToApp hostLoc arrIndex).2 } }) := by
  have hneed : ctx.shared.needUniformLocationWAR program = true := by
    unfold GLSharedGroup.needUniformLocationWAR
    rw [hlookup]
    exact hwar
  unfold s_glGetUniformLocation GLSharedGroup.locationWARHostToApp
  dsimp only
  rw [hneed, hindex, hlookup]
  exact if_pos ⟨hpos, rfl⟩

/-- A query of a name that the host knows answers with the number of its element. -/
theorem answered_of_known (hlaid : LaidOut uniforms L) (h : TableLaid program L ctx)
    {name : String8} (hnames : Names uniforms i k name) (hk : k < L.size i)
    (hloc : query.hostLoc.toInt = (L.address i k : Int))
    (hcall : s_glGetUniformLocation ctx program (some name) query.hostLoc = (query.location, ctx')) :
    Answered program uniforms L ctx query ctx' := by
  obtain ⟨data, hlookup, hdata⟩ := h
  have hi := hlaid.lt_count hnames
  have hindex : arrayIndexOf name = some (BitVec.ofNat 32 k) := by
    obtain ⟨u, hu, helement⟩ := hnames
    exact arrayIndexOf_eq (hlaid.names u (List.mem_of_getElem? hu)) helement
  have hklt : k < 2 ^ 31 :=
    Nat.lt_of_le_of_lt (Nat.le_add_left _ _) (StridedLayout.offset_add_lt hi hk)
  obtain ⟨hresult, hlaid', hresolved, hkept⟩ :=
    locationWARHostToApp_spec hdata hi hk hloc (toInt_ofNat_of_lt hklt)
  rw [s_glGetUniformLocation_of_known hlookup hdata.war hindex (by omega)] at hcall
  generalize data.locationWARHostToApp query.hostLoc (BitVec.ofNat 32 k) = answer
    at hresult hlaid' hresolved hkept hcall
  obtain ⟨hlocation, rfl⟩ := Prod.mk.injEq .. ▸ hcall
  have hafter : ∀ j l, Resolved L answer.2 j l → TableResolved program L j l
      { ctx with shared := { ctx.shared with
        programs := ctx.shared.programs.insert program answer.2 } } :=
    fun j l hj => ⟨_, AList.lookup_insert _, hlaid', hj⟩
  refine ⟨⟨_, AList.lookup_insert _, hlaid'⟩, ?_, ?_⟩
  · rintro j l ⟨data', hlookup', -, hj⟩
    rw [hlookup] at hlookup'
    cases hlookup'
    exact hafter j l (hkept j l hj)
  · rintro j l ⟨-, ⟨name', -, hnames'⟩, hl, hloc'⟩
    -- the host's answer determines the element
    have haddress : L.address i k = L.address j l := by omega
    obtain ⟨rfl, rfl⟩ := StridedLayout.address_injective hi (hlaid.lt_count hnames') hk hl
      haddress
    rw [← hlocation]
    exact ⟨hresult, hafter i k hresolved⟩

/-- One query of a run. -/
theorem locationStep_answered (hlaid : LaidOut uniforms L) (h : TableLaid program L ctx)
    (hstep : LocationStep program uniforms L ctx query ctx') :
    Answered program uniforms L ctx query ctx' := by
  obtain ⟨hcall, hhost⟩ := hstep
  have hctx : ctx' = (s_glGetUniformLocation ctx query.program query.name query.hostLoc).2 :=
    congrArg Prod.snd hcall.symm
  by_cases hprogram : query.program = program
  swap
  · -- a query of another program
    refine Answered.of_same h ?_ fun i k hasks => hprogram hasks.1
    rw [hctx]
    exact s_glGetUniformLocation_frame hprogram
  cases hname : query.name with
  | none =>
      refine Answered.of_same h ?_ ?_
      · rw [hctx, hname]
        rfl
      · rintro i k ⟨-, ⟨name, hsome, -⟩, -⟩
        rw [hname] at hsome
        cases hsome
  | some name =>
      rcases hhost hprogram name hname with hneg | ⟨i, k, hnames, hk, hloc⟩
      · refine Answered.of_same h ?_ ?_
        · rw [hctx, s_glGetUniformLocation_of_neg hneg]
        · rintro i k ⟨-, -, -, hpos⟩
          omega
      · rw [hprogram, hname] at hcall
        exact answered_of_known hlaid h hnames hk hloc hcall

/-! ## Runs -/

/-- The translation back of a resolved element. -/
theorem TableResolved.appToHost (h : TableResolved program L i k ctx) (hi : i < L.count)
    (hk : k < L.size i) {location hostLoc : GLint}
    (hlocation : location.toInt = (L.offset i + k : Nat))
    (hhost : hostLoc.toInt = (L.address i k : Int)) :
    ctx.shared.locationWARAppToHost program location = hostLoc := by
  obtain ⟨data, hlookup, hlaid, hresolved⟩ := h
  unfold GLSharedGroup.locationWARAppToHost
  rw [hlookup]
  apply BitVec.eq_of_toInt_eq
  rw [hhost]
  exact locationWARAppToHost_eq hlaid hi hk hresolved hlocation

/-- For every program linked with uniforms that the host lays out so, and every sequence
of queries: the location returned for an element is translated to the element's host
location at any later time, and other elements have other locations. -/
theorem uniform_locations_round_trip (uniforms : List ActiveUniform)
    (L : StridedLayout (2 ^ 31)) (hlaid : LaidOut uniforms L) (ctx : Encoder) (program : GLuint)
    (hprogram : ctx.shared.isProgram program = true) (memory : Nat → IndexInfo)
    (trace : List (LocationQuery × Encoder))
    (hrun : Run (LocationStep program uniforms L)
      (s_glLinkProgram ctx program ⟨true, uniforms⟩ memory) trace) :
    (∀ before query ctx' after, trace = before ++ (query, ctx') :: after →
      ∀ i k, query.Asks program uniforms L i k → ∀ entry ∈ (query, ctx') :: after,
        entry.2.shared.locationWARAppToHost program query.location = query.hostLoc) ∧
    ∀ entry ∈ trace, ∀ entry' ∈ trace, ∀ i k j l, entry.1.Asks program uniforms L i k →
      entry'.1.Asks program uniforms L j l → (i, k) ≠ (j, l) →
        entry.1.location ≠ entry'.1.location := by
  have hinit : TableLaid program L (s_glLinkProgram ctx program ⟨true, uniforms⟩ memory) := by
    obtain ⟨old, hlookup⟩ := Option.isSome_iff_exists.mp hprogram
    have hlength : uniforms.length < 2 ^ 32 := by
      have hcount := StridedLayout.count_le hlaid.base_lt
      have heq := hlaid.count
      omega
    exact ⟨_, lookup_s_glLinkProgram rfl hlength hlookup memory, hlaid.laid _ old⟩
  have hkeep : ∀ ctx query ctx', TableLaid program L ctx →
      LocationStep program uniforms L ctx query ctx' → TableLaid program L ctx' :=
    fun ctx query ctx' h hstep => (locationStep_answered hlaid h hstep).laid
  constructor
  · rintro before query ctx' after rfl i k hasks entry hentry
    obtain ⟨mid, hmid, hstep, hafter⟩ := hrun.at_entry hkeep hinit
    obtain ⟨hlocation, hresolved⟩ := (locationStep_answered hlaid hmid hstep).asked i k hasks
    -- once resolved, the element stays so
    have hlater : Always (TableResolved program L i k) after := by
      refine hafter.always ?_ hresolved
      intro ctx query ctx' hold hnext
      obtain ⟨data, hlookup, hdata, -⟩ := id hold
      exact (locationStep_answered hlaid ⟨data, hlookup, hdata⟩ hnext).kept i k hold
    have hstate : TableResolved program L i k entry.2 := by
      rcases List.mem_cons.mp hentry with rfl | hmem
      · exact hresolved
      · exact hlater entry hmem
    obtain ⟨-, ⟨name, -, hnames⟩, hk, hhost⟩ := hasks
    exact hstate.appToHost (hlaid.lt_count hnames) hk hlocation hhost
  · intro entry hentry entry' hentry' i k j l hasks hasks' hne heq
    have hnumber : ∀ entry ∈ trace, ∀ i k, entry.1.Asks program uniforms L i k →
        entry.1.location.toInt = (L.offset i + k : Nat) := by
      intro entry hmem i k hasks
      obtain ⟨before, after, rfl⟩ := List.append_of_mem hmem
      obtain ⟨mid, hmid, hstep, -⟩ := hrun.at_entry hkeep hinit
      exact ((locationStep_answered hlaid hmid hstep).asked i k hasks).1
    have hfirst := hnumber entry hentry i k hasks
    have hsecond := hnumber entry' hentry' j l hasks'
    rw [heq, hsecond] at hfirst
    obtain ⟨rfl, rfl⟩ := StridedLayout.offset_add_injective hasks.2.2.1 hasks'.2.2.1
      (Int.ofNat_inj.mp hfirst).symm
    exact hne rfl

/-- A uniform `a` at 0 and an array `b` of three elements at 65536, 65538 and 65540. -/
def twoUniforms : List ActiveUniform :=
  [⟨[0x61], 1#32, GL_SAMPLER_2D, 0#32⟩, ⟨[0x62, 0x5B, 0x30, 0x5D], 3#32, GL_SAMPLER_2D, 65536#32⟩]

def twoUniformsLayout : StridedLayout (2 ^ 31) where
  count := 2
  base := fun i => 65536 * i
  size := fun i => 2 * i + 1
  stride := fun _ => 2
  base_injective := by omega
  stride_pos := by omega
  below_next := by omega
  below_limit := by omega

theorem laidOut_twoUniforms : LaidOut twoUniforms twoUniformsLayout where
  two := Nat.le_refl 2
  count := rfl
  aligned := fun i _ => Nat.dvd_mul_right 65536 i
  base := by
    rintro (_ | _ | i) u hu <;> cases hu <;> decide
  size := by
    rintro (_ | _ | i) u hu <;> cases hu <;> decide
  names := by decide

/-- The element `b[2]` is queried first, then `b[1]`. -/
theorem uniform_locations_last_first :
    let memory : Nat → VertexAttribState :=
      fun _ => ⟨0#32, 4#32, GL_FLOAT, 0#32, 0#32, 0#32, 16#32, false, false⟩
    let linked := s_glLinkProgram (Encoder.init memory (GLSharedGroup.init.addProgramData 1#32))
      1#32 ⟨true, twoUniforms⟩ (fun _ => ⟨0, 0, 0, 0, 0, 0, 0⟩)
    let first := s_glGetUniformLocation linked 1#32 (some [0x62, 0x5B, 0x32, 0x5D]) 65540#32
    let second := s_glGetUniformLocation first.2 1#32 (some [0x62, 0x5B, 0x31, 0x5D]) 65538#32
    second.2.shared.locationWARAppToHost 1#32 first.1 = 65540#32 ∧ first.1 ≠ second.1 := by
  intro memory linked first second
  have hfirst : s_glGetUniformLocation linked 1#32 (some [0x62, 0x5B, 0x32, 0x5D]) 65540#32 =
    first := rfl
  have hsecond : s_glGetUniformLocation first.2 1#32 (some [0x62, 0x5B, 0x31, 0x5D]) 65538#32 =
    second := rfl
  clear_value second first
  have hnames : ∀ k digit, CString.isdigit digit = true → CString.decimalValue [digit] = k →
      Names twoUniforms 1 k [0x62, 0x5B, digit, 0x5D] := by
    intro k digit hdigit hvalue
    exact ⟨_, rfl, Or.inr ⟨[digit], by simp, by simpa using hdigit, rfl, hvalue⟩⟩
  have hlast := hnames 2 0x32 (by decide) (by decide)
  have hmiddle := hnames 1 0x31 (by decide) (by decide)
  have hlastLoc : (65540#32 : GLint).toInt = (twoUniformsLayout.address 1 2 : Int) := by decide
  have hmiddleLoc : (65538#32 : GLint).toInt = (twoUniformsLayout.address 1 1 : Int) := by decide
  have hrun : Run (LocationStep 1#32 twoUniforms twoUniformsLayout) linked
      [(⟨1#32, some [0x62, 0x5B, 0x32, 0x5D], 65540#32, first.1⟩, first.2),
        (⟨1#32, some [0x62, 0x5B, 0x31, 0x5D], 65538#32, second.1⟩, second.2)] := by
    refine Run.next ⟨hfirst, ?_⟩ (Run.next ⟨hsecond, ?_⟩ (Run.done _))
    · rintro - name hname
      cases hname
      exact Or.inr ⟨1, 2, hlast, by decide, hlastLoc⟩
    · rintro - name hname
      cases hname
      exact Or.inr ⟨1, 1, hmiddle, by decide, hmiddleLoc⟩
  have h := uniform_locations_round_trip twoUniforms twoUniformsLayout laidOut_twoUniforms
    (Encoder.init memory (GLSharedGroup.init.addProgramData 1#32)) 1#32 rfl _ _ hrun
  have hasks := (⟨rfl, ⟨_, rfl, hlast⟩, by decide, hlastLoc⟩ : LocationQuery.Asks
    ⟨1#32, some [0x62, 0x5B, 0x32, 0x5D], 65540#32, first.1⟩ 1#32 twoUniforms twoUniformsLayout
    1 2)
  have hasks' := (⟨rfl, ⟨_, rfl, hmiddle⟩, by decide, hmiddleLoc⟩ : LocationQuery.Asks
    ⟨1#32, some [0x62, 0x5B, 0x31, 0x5D], 65538#32, second.1⟩ 1#32 twoUniforms twoUniformsLayout
    1 1)
  exact ⟨h.1 [] _ _ _ rfl 1 2 hasks _ (List.mem_cons_of_mem _ List.mem_cons_self),
    h.2 _ List.mem_cons_self _ (List.mem_cons_of_mem _ List.mem_cons_self) 1 2 1 1 hasks hasks'
      (by decide)⟩

end GLESv2Enc
end DeviceAndroVM
