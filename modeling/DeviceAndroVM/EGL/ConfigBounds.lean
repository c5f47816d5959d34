import DeviceAndroVM.EGL.Configs

/-!
# The bounds of the config table

Which accesses to `m_configs` stay inside of it, in every state that calls of `initialize` reach.

* `ConfigReply.Documented` — a host that refuses a buffer that is too small.
* `Filled` — what holds of an initialized display.
* `filled_of_calls` — it holds after any sequence of calls, and none of them leaves a buffer.
* `inTable_iff_of_calls` — a handle that `VALIDATE_CONFIG` lets pass stays in the table unless it is
  the number of configs.
-/

namespace DeviceAndroVM
namespace EGL

open Library

/-- A buffer that is too small for the attributes and the configs gives a negative number. -/
def ConfigReply.Documented (reply : ConfigReply) : Prop :=
  ∀ bufSize : EGLint, bufSize.toNat < (reply.numConfigs.toNat + 1) * reply.numConfigAttribs.toNat * 4 →
    (reply.rcGetConfigs bufSize).1.toInt < 0

namespace ConfigDisplay

/-- The numbers of configs and attributes are positive, the table has their product of entries,
and every attribute has an index below the number of attributes. -/
structure Filled (d : ConfigDisplay) : Prop where
  configs_pos : 0 < d.numConfigs.toNat
  attribs_pos : 0 < d.numConfigAttribs.toNat
  fits : (d.numConfigs.toNat + 1) * d.numConfigAttribs.toNat < 2 ^ 30
  size : d.configs.length = d.numConfigs.toNat * d.numConfigAttribs.toNat
  index_lt : ∀ attrib idx, d.attribs.lookup attrib = some idx →
    idx.toNat < d.numConfigAttribs.toNat

variable {d d' : ConfigDisplay} {config attrib idx : EGLint}

/-- A word below `2 ^ 31`, read as a number. -/
theorem toInt_eq_toNat {n : EGLint} (h : n.toNat < 2 ^ 31) : n.toInt = n.toNat :=
  BitVec.toInt_eq_toNat_of_lt (by omega)

theorem toNat_pos_of_toInt_pos {n : EGLint} (h : 0 < n.toInt) : 0 < n.toNat ∧ n.toNat < 2 ^ 31 := by
  have hlt := n.isLt
  rw [BitVec.toInt_eq_toNat_cond] at h
  split at h <;> omega

theorem toNat_add_one {n : EGLint} (h : n.toNat < 2 ^ 31) : (n + 1).toNat = n.toNat + 1 := by
  have hone : (1 : EGLint).toNat = 1 := rfl
  rw [BitVec.toNat_add, hone, Nat.mod_eq_of_lt (by omega)]

namespace Filled

theorem row_le (h : d.Filled) : d.numConfigs.toNat * d.numConfigAttribs.toNat < 2 ^ 30 := by
  have hfits := h.fits
  rw [Nat.add_mul] at hfits
  omega

theorem attribs_lt (h : d.Filled) : d.numConfigAttribs.toNat < 2 ^ 30 := by
  have hfits := h.fits
  rw [Nat.add_mul] at hfits
  omega

theorem configs_lt (h : d.Filled) : d.numConfigs.toNat < 2 ^ 30 :=
  Nat.lt_of_le_of_lt (Nat.le_mul_of_pos_right _ h.attribs_pos) h.row_le

/-- The index of an attribute of a config up to the number of configs. -/
theorem configIndex_eq (h : d.Filled) (hconfig : config.toNat ≤ d.numConfigs.toNat)
    (hidx : idx.toNat < d.numConfigAttribs.toNat) :
    d.configIndex config idx = (config.toNat * d.numConfigAttribs.toNat + idx.toNat : Nat) := by
  have hrow : config.toNat * d.numConfigAttribs.toNat < 2 ^ 30 :=
    Nat.lt_of_le_of_lt (Nat.mul_le_mul_right _ hconfig) h.row_le
  have hattribs := h.attribs_lt
  have hproduct : (config * d.numConfigAttribs).toNat =
      config.toNat * d.numConfigAttribs.toNat := by
    rw [BitVec.toNat_mul, Nat.mod_eq_of_lt (by omega)]
  rw [configIndex, toInt_eq_toNat (by omega), toInt_eq_toNat (by omega), hproduct]
  exact (Nat.cast_add _ _).symm

theorem inTable_iff (h : d.Filled) (hconfig : config.toNat ≤ d.numConfigs.toNat)
    (hidx : idx.toNat < d.numConfigAttribs.toNat) :
    d.InTable config idx ↔ config.toNat < d.numConfigs.toNat := by
  rw [InTable, h.configIndex_eq hconfig hidx, h.size, Int.ofNat_lt]
  constructor
  · rintro ⟨-, hlt⟩
    by_contra hge
    have hrow : d.numConfigs.toNat * d.numConfigAttribs.toNat ≤
        config.toNat * d.numConfigAttribs.toNat := Nat.mul_le_mul_right _ (Nat.not_lt.mp hge)
    omega
  · intro hlt
    have hrow : (config.toNat + 1) * d.numConfigAttribs.toNat ≤
        d.numConfigs.toNat * d.numConfigAttribs.toNat := Nat.mul_le_mul_right _ hlt
    rw [Nat.add_mul] at hrow
    omega

/-- What `valueFor` gives is the index of an attribute, or none. -/
theorem valueFor_cases (h : d.Filled) (attrib : EGLint) :
    d.valueFor attrib = ATTRIBUTE_NONE ∨ (d.valueFor attrib).toNat < d.numConfigAttribs.toNat := by
  unfold valueFor
  cases hlookup : d.attribs.lookup attrib with
  | none => exact Or.inl rfl
  | some idx => exact Or.inr (h.index_lt attrib idx hlookup)

/-! ## `processConfigs` -/

theorem getConfigAttrib_ne_none (h : d.Filled) (hconfig : config.toNat < d.numConfigs.toNat)
    (attrib : EGLint) : d.getConfigAttrib config attrib ≠ none := by
  unfold getConfigAttrib getAttribValue
  split
  · simp
  · rename_i hne
    have hidx := (h.valueFor_cases attrib).resolve_left hne
    rw [if_pos ((h.inTable_iff (Nat.le_of_lt hconfig) hidx).mpr hconfig)]
    simp

/-- An attribute that is read, and what follows if it is there. -/
theorem bind_elim_ne_none {α β : Type} {x : Option (Option α)} {f : α → Option (Option β)}
    (hx : x ≠ none) (hf : ∀ a, f a ≠ none) : (x.bind fun o => o.elim (some none) f) ≠ none := by
  obtain ⟨o, rfl⟩ := Option.ne_none_iff_exists'.mp hx
  cases o with
  | none => simp
  | some a => exact hf a

theorem channelSizes_ne_none (h : d.Filled) (hconfig : config.toNat < d.numConfigs.toNat) :
    d.channelSizes config ≠ none := by
  have hread := h.getConfigAttrib_ne_none hconfig
  unfold channelSizes
  refine bind_elim_ne_none (hread _) fun redSize => ?_
  refine bind_elim_ne_none (hread _) fun blueSize => ?_
  refine bind_elim_ne_none (hread _) fun greenSize => ?_
  exact mt Option.map_eq_none_iff.mp (hread _)

/-- A value is set in the table, which stays as it is otherwise. -/
theorem setConfigAttrib_eq (h : d.Filled) (hconfig : config.toNat < d.numConfigs.toNat)
    (attrib value : EGLint) : ∃ set configs, configs.length = d.configs.length ∧
      d.setConfigAttrib config attrib value = some (set, { d with configs }) := by
  unfold setConfigAttrib setAttribValue
  split
  · exact ⟨false, d.configs, rfl, rfl⟩
  · rename_i hne
    have hidx := (h.valueFor_cases attrib).resolve_left hne
    rw [if_pos ((h.inTable_iff (Nat.le_of_lt hconfig) hidx).mpr hconfig)]
    exact ⟨true, _, List.length_set, rfl⟩

/-- Another table of the same size is filled as well. -/
theorem with_configs (h : d.Filled) {configs : List EGLint}
    (hlength : configs.length = d.configs.length) : { d with configs }.Filled :=
  { h with size := hlength.trans h.size }

/-- `processConfigs` changes values in the table only. -/
theorem processConfig_eq (h : d.Filled) {i : Nat} (hi : i < d.numConfigs.toNat) :
    ∃ configs, configs.length = d.configs.length ∧ d.processConfig i = some { d with configs } := by
  have hconfig : (BitVec.ofNat 32 i).toNat < d.numConfigs.toNat := by
    rw [BitVec.toNat_ofNat]
    exact Nat.lt_of_le_of_lt (Nat.mod_le _ _) hi
  obtain ⟨sizes, hsizes⟩ := Option.ne_none_iff_exists'.mp (h.channelSizes_ne_none hconfig)
  unfold processConfig getConfigNativePixelFormat
  dsimp only
  rw [hsizes, Option.map_some, Option.bind_some]
  cases sizes.bind nativePixelFormat with
  | none => exact ⟨d.configs, rfl, rfl⟩
  | some format =>
      obtain ⟨set, configs, hlength, heq⟩ := h.setConfigAttrib_eq hconfig EGL_NATIVE_VISUAL_ID format
      refine ⟨configs, hlength, ?_⟩
      rw [Option.elim_some, heq]
      rfl

theorem foldlM_processConfig (h : d.Filled) {rows : List Nat}
    (hrows : ∀ i ∈ rows, i < d.numConfigs.toNat) :
    ∃ configs, configs.length = d.configs.length ∧
      rows.foldlM processConfig d = some { d with configs } := by
  induction rows generalizing d with
  | nil => exact ⟨d.configs, rfl, rfl⟩
  | cons i rows ih =>
      obtain ⟨configs, hlength, heq⟩ := h.processConfig_eq (hrows i List.mem_cons_self)
      obtain ⟨configs', hlength', heq'⟩ := ih (h.with_configs hlength)
        fun j hj => hrows j (List.mem_cons_of_mem _ hj)
      refine ⟨configs', hlength'.trans hlength, ?_⟩
      rw [List.foldlM_cons, heq]
      exact heq'

theorem processConfigs_eq (h : d.Filled) :
    ∃ configs, configs.length = d.configs.length ∧ d.processConfigs = some { d with configs } := by
  have hnumber : d.numConfigs.toInt.toNat = d.numConfigs.toNat := by
    rw [toInt_eq_toNat (by have := h.configs_lt; omega), Int.toNat_natCast]
  refine h.foldlM_processConfig fun i hi => ?_
  rwa [hnumber, List.mem_range] at hi

end Filled

/-! ## `initialize` -/

/-- The attributes with their numbers. -/
theorem index_lt_of_lookup {names : List EGLint} {start count : Nat}
    (hcount : start + names.length ≤ count) (hword : count < 2 ^ 32)
    {attribs : AList fun _ : EGLint => EGLint}
    (hattribs : ∀ attrib idx, attribs.lookup attrib = some idx → idx.toNat < count)
    (hlookup : ((names.zipIdx start).foldl
      (fun attribs entry => attribs.insert entry.1 (BitVec.ofNat 32 entry.2)) attribs).lookup attrib =
        some idx) : idx.toNat < count := by
  induction names generalizing start attribs with
  | nil => exact hattribs attrib idx hlookup
  | cons name names ih =>
      rw [List.length_cons] at hcount
      rw [List.zipIdx_cons, List.foldl_cons] at hlookup
      refine ih (by omega) ?_ hlookup
      intro attrib' idx' hinsert
      rcases lookup_insert_eq_some.mp hinsert with ⟨-, rfl⟩ | ⟨-, hold⟩
      · rw [BitVec.toNat_ofNat, Nat.mod_eq_of_lt (by omega)]
        omega
      · exact hattribs attrib' idx' hold

/-- The counts of a host that took the buffer: nothing overflows. -/
structure Counts (d : ConfigDisplay) : Prop where
  configs_pos : 0 < d.numConfigs.toNat
  attribs_pos : 0 < d.numConfigAttribs.toNat
  fits : (d.numConfigs.toNat + 1) * d.numConfigAttribs.toNat < 2 ^ 30

theorem Counts.nInts_eq (h : d.Counts) :
    d.nInts.toNat = d.numConfigs.toNat * d.numConfigAttribs.toNat + d.numConfigAttribs.toNat := by
  have hfits := h.fits
  have hattribs := h.attribs_pos
  rw [Nat.add_mul, Nat.one_mul] at hfits
  have hconfigs : d.numConfigs.toNat ≤ d.numConfigs.toNat * d.numConfigAttribs.toNat :=
    Nat.le_mul_of_pos_right _ hattribs
  rw [nInts, BitVec.toNat_mul, toNat_add_one (by omega), Nat.mul_comm, Nat.add_mul, Nat.one_mul,
    Nat.mod_eq_of_lt (by omega)]

/-- A host that took the buffer. -/
theorem counts_of_documented {reply : ConfigReply} (hhost : reply.Documented)
    (hnumConfigs : d.numConfigs = reply.numConfigs)
    (hnumConfigAttribs : d.numConfigAttribs = reply.numConfigAttribs)
    (hconfigs : 0 < d.numConfigs.toInt) (hattribs : 0 < d.numConfigAttribs.toInt)
    (hn : (reply.rcGetConfigs (d.nInts * 4#32)).1 = d.numConfigs) : d.Counts := by
  have hlarge := mt (hhost (d.nInts * 4#32)) (by rw [hn]; omega)
  obtain ⟨hconfigs, hconfigs_lt⟩ := toNat_pos_of_toInt_pos hconfigs
  obtain ⟨hattribs, -⟩ := toNat_pos_of_toInt_pos hattribs
  -- the size of the buffer is a word, and no smaller than what it should be
  have hsize : (d.nInts * 4#32).toNat =
      (d.numConfigs.toNat + 1) * d.numConfigAttribs.toNat * 4 % 2 ^ 32 := by
    rw [BitVec.toNat_mul, nInts, BitVec.toNat_mul, toNat_add_one hconfigs_lt,
      Nat.mul_comm d.numConfigAttribs.toNat]
    exact Nat.mod_mul_mod _ _ _
  rw [← hnumConfigs, ← hnumConfigAttribs, hsize] at hlarge
  exact ⟨hconfigs, hattribs, by omega⟩

theorem fillConfigs_eq (h : d.Counts) (hattribs : d.attribs = ∅)
    (hconfigs : d.configs.length = (d.nInts - d.numConfigAttribs).toNat) (tmp_buf : List EGLint)
    (htmp : tmp_buf.length = d.nInts.toNat) :
    ∃ d', d.fillConfigs tmp_buf = some d' ∧ d'.initialized = true ∧ d'.Filled := by
  have hints := h.nInts_eq
  have hfits := h.fits
  rw [Nat.add_mul, Nat.one_mul] at hfits
  have hrest : (d.nInts - d.numConfigAttribs).toNat =
      d.numConfigs.toNat * d.numConfigAttribs.toNat := by
    rw [BitVec.toNat_sub_of_le (BitVec.le_def.mpr (by omega)), hints, Nat.add_sub_cancel]
  have hwords : (d.numConfigs * d.numConfigAttribs * 4#32).toNat / 4 =
      d.numConfigs.toNat * d.numConfigAttribs.toNat := by
    rw [BitVec.toNat_mul, BitVec.toNat_mul, BitVec.toNat_ofNat, Nat.mod_eq_of_lt (by omega),
      Nat.mod_eq_of_lt (by omega)]
    omega
  have hnames : load tmp_buf 0 d.numConfigAttribs.toNat =
      some ((tmp_buf.drop 0).take d.numConfigAttribs.toNat) := load_of_le (by omega)
  have hvalues : load tmp_buf d.numConfigAttribs.toNat
      (d.numConfigs.toNat * d.numConfigAttribs.toNat) = some ((tmp_buf.drop
        d.numConfigAttribs.toNat).take (d.numConfigs.toNat * d.numConfigAttribs.toNat)) :=
    load_of_le (by omega)
  obtain ⟨configs, hstore⟩ : ∃ configs, store d.configs 0
      ((tmp_buf.drop d.numConfigAttribs.toNat).take
        (d.numConfigs.toNat * d.numConfigAttribs.toNat)) = some configs :=
    exists_store_iff.mpr (by rw [List.length_take]; omega)
  have hfill : d.fillConfigs tmp_buf = some { d with
      initialized := true
      attribs := ((tmp_buf.drop 0).take d.numConfigAttribs.toNat).zipIdx.foldl
        (fun attribs entry => attribs.insert entry.1 (BitVec.ofNat 32 entry.2)) d.attribs
      configs } := by
    unfold fillConfigs
    dsimp only
    rw [hnames, hwords, Option.bind_some, hvalues, Option.bind_some, hstore]
    rfl
  refine ⟨_, hfill, rfl, h.configs_pos, h.attribs_pos, h.fits, ?_, ?_⟩
  · exact (length_store hstore).trans (hconfigs.trans hrest)
  · intro attrib idx hlookup
    have hcount : 0 + ((tmp_buf.drop 0).take d.numConfigAttribs.toNat).length ≤
        d.numConfigAttribs.toNat := by
      rw [Nat.zero_add]
      exact List.length_take_le _ _
    refine index_lt_of_lookup hcount (by omega) ?_ hlookup
    intro attrib idx hold
    rw [hattribs] at hold
    cases hold

/-- A display is filled once it is initialized, and has no attributes before. -/
structure Sound (d : ConfigDisplay) : Prop where
  filled : d.initialized = true → d.Filled
  empty : d.initialized = false → d.attribs = ∅

theorem sound_new : new.Sound where
  filled := fun h => absurd h Bool.false_ne_true
  empty := fun _ => rfl

/-- A call of `initialize` has a result and keeps the display sound. -/
theorem Sound.initializeDisplay (h : d.Sound) {reply : ConfigReply} (hhost : reply.Documented) :
    ∃ ret d', d.initializeDisplay reply = some (ret, d') ∧ d'.Sound := by
  unfold ConfigDisplay.initializeDisplay
  split
  · rename_i hinit
    obtain ⟨configs, hlength, heq⟩ := (h.filled hinit).processConfigs_eq
    refine ⟨true, { d with configs }, by rw [heq]; rfl, ?_, ?_⟩
    · exact fun _ => (h.filled hinit).with_configs hlength
    · exact fun hnot => absurd (hnot.symm.trans hinit) Bool.false_ne_true
  rename_i hinit
  have hinit : d.initialized = false := by simpa using hinit
  have hempty := h.empty hinit
  have hfresh : ∀ n a c, Sound { d with numConfigs := n, numConfigAttribs := a, configs := c } :=
    fun n a c => ⟨fun hyes => absurd (hinit.symm.trans hyes) Bool.false_ne_true, fun _ => hempty⟩
  split
  · exact ⟨_, _, rfl, h⟩
  split
  · exact ⟨_, _, rfl, h⟩
  split
  · exact ⟨_, _, rfl, h⟩
  dsimp only
  split
  · exact ⟨_, _, rfl, hfresh _ _ _⟩
  rename_i hcounts
  rw [not_or, Int.not_le, Int.not_le] at hcounts
  split
  · exact ⟨_, _, rfl, hfresh _ _ _⟩
  rename_i hn
  have hcounts : Counts { d with
      numConfigs := reply.numConfigs
      numConfigAttribs := reply.numConfigAttribs
      configs := (List.range (reply.numConfigAttribs * (reply.numConfigs + 1) -
        reply.numConfigAttribs).toNat).map reply.memory } :=
    counts_of_documented hhost rfl rfl hcounts.1 hcounts.2 (not_not.mp hn)
  obtain ⟨d', hfill, hinit', hfilled⟩ := fillConfigs_eq hcounts hempty (by simp [nInts])
    ((List.range (reply.numConfigAttribs * (reply.numConfigs + 1)).toNat).map
      (reply.rcGetConfigs (reply.numConfigAttribs * (reply.numConfigs + 1) * 4#32)).2)
    (by simp [nInts])
  obtain ⟨configs, hlength, hprocess⟩ := hfilled.processConfigs_eq
  refine ⟨true, { d' with configs }, ?_, fun _ => hfilled.with_configs hlength,
    fun hnot => absurd (hnot.symm.trans hinit') Bool.false_ne_true⟩
  unfold nInts
  dsimp only
  rw [hfill, Option.bind_some, hprocess]
  rfl

/-- Any sequence of calls has a result and keeps the display sound. -/
theorem Sound.initializeAll (h : d.Sound) {replies : List ConfigReply}
    (hhost : ∀ reply ∈ replies, reply.Documented) :
    ∃ d', d.initializeAll replies = some d' ∧ d'.Sound := by
  induction replies generalizing d with
  | nil => exact ⟨d, rfl, h⟩
  | cons reply replies ih =>
      obtain ⟨ret, d', hcall, hsound⟩ := h.initializeDisplay (hhost reply List.mem_cons_self)
      obtain ⟨d'', hcalls, hsound'⟩ := ih hsound fun r hr => hhost r (List.mem_cons_of_mem _ hr)
      refine ⟨d'', ?_, hsound'⟩
      unfold ConfigDisplay.initializeAll at hcalls ⊢
      rw [List.foldlM_cons, hcall]
      exact hcalls

/-- What `VALIDATE_CONFIG` lets pass are the numbers up to that of the configs. -/
theorem Filled.validateConfig_iff (h : d.Filled) :
    d.validateConfig config = true ↔ config.toNat ≤ d.numConfigs.toNat := by
  have hconfigs := h.configs_lt
  have hlt := config.isLt
  have hnumber : d.numConfigs.toInt = d.numConfigs.toNat := toInt_eq_toNat (by omega)
  unfold validateConfig
  rw [Bool.not_eq_true', Bool.or_eq_false_iff, decide_eq_false_iff_not, decide_eq_false_iff_not,
    hnumber, BitVec.toInt_eq_toNat_cond]
  split <;> omega

/-- After any calls of `initialize`, an initialized display has the product of its two counts as
the size of its table, and the access of `getAttribValue` and `setAttribValue` for a handle that
`VALIDATE_CONFIG` lets pass and an attribute of the display is inside of the table if and only if
the handle is not the number of configs. -/
theorem inTable_iff_of_calls {replies : List ConfigReply}
    (hhost : ∀ reply ∈ replies, reply.Documented) (hcalls : new.initializeAll replies = some d)
    (hinit : d.initialized = true) (hconfig : d.validateConfig config = true)
    (hattrib : d.attribs.lookup attrib = some idx) :
    (d.InTable config idx ∧
        (d.configs.length : Int) = d.numConfigs.toInt * d.numConfigAttribs.toInt) ↔
      config ≠ d.numConfigs := by
  obtain ⟨d', heq, hsound⟩ := sound_new.initializeAll hhost
  cases hcalls.symm.trans heq
  have hfilled := hsound.filled hinit
  have hle := hfilled.validateConfig_iff.mp hconfig
  have hconfigs := hfilled.configs_lt
  have hattribs := hfilled.attribs_lt
  have hsize : (d.configs.length : Int) = d.numConfigs.toInt * d.numConfigAttribs.toInt := by
    rw [hfilled.size, toInt_eq_toNat (by omega), toInt_eq_toNat (by omega)]
    exact Int.natCast_mul _ _
  rw [hfilled.inTable_iff hle (hfilled.index_lt attrib idx hattrib), and_iff_left hsize, Ne,
    ← BitVec.toNat_inj]
  omega

/-- A host with one config. -/
def oneConfig (entries : List (EGLint × EGLint)) : ConfigReply where
  gles := true
  connected := true
  status := EGL_TRUE
  numConfigs := 1#32
  numConfigAttribs := BitVec.ofNat 32 entries.length
  memory := fun _ => 0#32
  rcGetConfigs := fun bufSize =>
    if bufSize.toNat < 8 * entries.length then (-BitVec.ofNat 32 (8 * entries.length), fun _ => 0#32)
    else (1#32, fun i => (entries.map Prod.fst ++ entries.map Prod.snd).getD i 0#32)

/-- A host whose config has a red and an alpha size. -/
def redAndAlpha : ConfigReply := oneConfig [(EGL_RED_SIZE, 8), (EGL_ALPHA_SIZE, 8)]

theorem redAndAlpha_documented : redAndAlpha.Documented := by
  intro bufSize hsmall
  have hlt : bufSize.toNat < 16 := hsmall
  unfold redAndAlpha oneConfig
  dsimp only [List.length_cons, List.length_nil]
  rw [if_pos (by omega)]
  decide

/-- The display of that host. -/
def redAndAlphaDisplay : ConfigDisplay := (new.initializeAll [redAndAlpha]).getD new

/-- The alpha size of its config is in the table. -/
theorem inTable_iff_of_calls_redAndAlpha :
    redAndAlphaDisplay.InTable 0#32 1#32 ∧ (redAndAlphaDisplay.configs.length : Int) =
      redAndAlphaDisplay.numConfigs.toInt * redAndAlphaDisplay.numConfigAttribs.toInt := by
  have hhost : ∀ reply ∈ [redAndAlpha], reply.Documented := by
    intro reply hreply
    rw [List.mem_singleton.mp hreply]
    exact redAndAlpha_documented
  have hattrib : redAndAlphaDisplay.attribs.lookup EGL_ALPHA_SIZE = some 1#32 := by rfl
  exact (inTable_iff_of_calls hhost rfl rfl rfl hattrib).mpr (by decide)

/-- The handle 1 passes `VALIDATE_CONFIG` on this display, and its red size is read behind the
table. -/
theorem not_inTable_numConfigs :
    new.initializeAll [redAndAlpha] = some redAndAlphaDisplay ∧ redAndAlphaDisplay.initialized = true ∧
      redAndAlphaDisplay.validateConfig 1#32 = true ∧
      redAndAlphaDisplay.attribs.lookup EGL_RED_SIZE = some 0#32 ∧
      ¬(redAndAlphaDisplay.InTable 1#32 0#32 ∧ (redAndAlphaDisplay.configs.length : Int) =
        redAndAlphaDisplay.numConfigs.toInt * redAndAlphaDisplay.numConfigAttribs.toInt) := by
  refine ⟨rfl, rfl, rfl, rfl, ?_⟩
  rintro ⟨⟨-, hlt⟩, -⟩
  revert hlt
  decide

end ConfigDisplay
end EGL
end DeviceAndroVM
