import DeviceAndroVM.OpenglCodecCommon.SmartPtr

/-!
# The counters of the handles

The counters are right between any two calls of a program, and so are the deletions: an object
and its counter are deleted when the last handle goes, and never again.

* `Accounts` — the counters and deletions that belong to what each handle holds.
* `use_spec`, `release_spec` — what the two private functions do to the accounts.
* `Inv` — the invariant of a program, with the accounts of its own handles.
* `call_spec` — every call that is allowed has a result and keeps the invariant.
* `always_counted` — counters and deletions in every run.
-/

namespace DeviceAndroVM
namespace OpenglCodecCommon

open Library

variable {m : Memory} {f : HandlePtr → Option ObjectPtr} {h rhs : HandlePtr} {p : ObjectPtr}
  {c : CountPtr} {this r : SmartPtr} {threadSafe : Bool} {s : Program}

/-- The counter of an object with some handles; with the last handle it is gone. -/
def liveCount (n : Nat) : Option (BitVec 32) := if n = 0 then none else some (BitVec.ofNat 32 n)

/-- How often an object with some handles has been deleted. -/
def deletions (n : Nat) : Nat := if n = 0 then 1 else 0

/-- The counters and deletions when handle `h` holds `f h`. -/
structure Accounts (m : Memory) (f : HandlePtr → Option ObjectPtr) : Prop where
  wrapped_of_held : ∀ {h p}, f h = some p → m.wrapped p ≠ none
  lt_nextCount : ∀ {p c}, m.wrapped p = some c → c < m.nextCount
  wrapped_inj : ∀ {p q c}, m.wrapped p = some c → m.wrapped q = some c → p = q
  counts_eq : ∀ {p c}, m.wrapped p = some c → m.counts c = liveCount (holders f p)
  object_eq : ∀ {p c}, m.wrapped p = some c →
    m.deleted.count (.object p) = deletions (holders f p)
  count_eq : ∀ {p c}, m.wrapped p = some c →
    m.deleted.count (.count c) = deletions (holders f p)
  object_new : ∀ {p}, m.wrapped p = none → m.deleted.count (.object p) = 0
  count_new : ∀ {c}, m.nextCount ≤ c → m.deleted.count (.count c) = 0

namespace Accounts

/-- Nobody holds an object that has not been wrapped yet. -/
theorem ne_some (hacc : Accounts m f) (hp : m.wrapped p = none) : f h ≠ some p :=
  fun hheld => hacc.wrapped_of_held hheld hp

/-- One handle's change from or to an object, with a new value for the object's counter. -/
theorem change (hacc : Accounts m f) (hp : m.wrapped p = some c) {v : Option ObjectPtr}
    (hother : ∀ q, q ≠ p → f h ≠ some q ∧ v ≠ some q) {count : Option (BitVec 32)}
    {deleted : List Deletion} (hcount : count = liveCount (holders (Function.update f h v) p))
    (hsame : ∀ d, d ≠ .object p → d ≠ .count c → deleted.count d = m.deleted.count d)
    (hobject : deleted.count (.object p) = deletions (holders (Function.update f h v) p))
    (hdeleted : deleted.count (.count c) = deletions (holders (Function.update f h v) p)) :
    Accounts { m with counts := Function.update m.counts c count, deleted }
      (Function.update f h v) where
  wrapped_of_held := by
    intro h' q hheld
    by_cases hq : q = p
    · rw [hq, hp]
      exact Option.some_ne_none c
    · by_cases hh : h' = h
      · rw [hh, Function.update_self] at hheld
        exact absurd hheld (hother q hq).2
      · rw [Function.update_of_ne hh] at hheld
        exact hacc.wrapped_of_held hheld
  lt_nextCount := hacc.lt_nextCount
  wrapped_inj := hacc.wrapped_inj
  counts_eq := by
    intro q d hq
    by_cases hqp : q = p
    · subst hqp
      cases hp.symm.trans hq
      exact (Function.update_self ..).trans hcount
    · have hdc : d ≠ c := fun hdc => hqp (hacc.wrapped_inj hq (hdc ▸ hp))
      rw [holders_of_ne (hother q hqp).1 (hother q hqp).2, ← hacc.counts_eq hq]
      exact Function.update_of_ne hdc ..
  object_eq := by
    intro q d hq
    by_cases hqp : q = p
    · subst hqp
      exact hobject
    · rw [holders_of_ne (hother q hqp).1 (hother q hqp).2, ← hacc.object_eq hq]
      exact hsame _ (fun heq => hqp (Deletion.object.inj heq)) Deletion.noConfusion
  count_eq := by
    intro q d hq
    by_cases hqp : q = p
    · subst hqp
      cases hp.symm.trans hq
      exact hdeleted
    · rw [holders_of_ne (hother q hqp).1 (hother q hqp).2, ← hacc.count_eq hq]
      refine hsame _ Deletion.noConfusion fun heq => hqp ?_
      cases heq
      exact hacc.wrapped_inj hq hp
  object_new := by
    intro q hq
    rw [← hacc.object_new hq]
    refine hsame _ (fun heq => ?_) Deletion.noConfusion
    cases heq
    cases hp.symm.trans hq
  count_new := by
    intro d hd
    rw [← hacc.count_new hd]
    refine hsame _ Deletion.noConfusion fun heq => ?_
    cases heq
    exact absurd (hacc.lt_nextCount hp) (Nat.not_lt.mpr hd)

/-- A counter does not overflow: there is no room for so many handles. -/
theorem holders_le (f : HandlePtr → Option ObjectPtr) (p : ObjectPtr) : holders f p ≤ 2 ^ 30 :=
  (holders_le_card f p).trans_eq card_handlePtr

theorem toInt_holders (f : HandlePtr → Option ObjectPtr) (p : ObjectPtr) :
    (BitVec.ofNat 32 (holders f p)).toInt = holders f p := by
  have hle := holders_le f p
  rw [BitVec.toInt_eq_toNat_cond, BitVec.toNat_ofNat]
  split <;> omega

theorem counts_of_live (hacc : Accounts m f) (hp : m.wrapped p = some c)
    (hlive : holders f p ≠ 0) : m.counts c = some (BitVec.ofNat 32 (holders f p)) := by
  rw [hacc.counts_eq hp, liveCount, if_neg hlive]

/-- One more handle to an object that has one already. -/
theorem take (hacc : Accounts m f) (hp : m.wrapped p = some c) (hf : f h = none)
    (hlive : holders f p ≠ 0) :
    Accounts (m.setCount c (BitVec.ofNat 32 (holders f p) + 1#32))
      (Function.update f h (some p)) := by
  have hnone : deletions (holders (Function.update f h (some p)) p) = deletions (holders f p) := by
    rw [holders_take hf, deletions, deletions, if_neg hlive, if_neg (Nat.succ_ne_zero _)]
  refine hacc.change hp (fun q hq => ⟨by simp [hf], fun heq => hq (Option.some.inj heq).symm⟩) ?_
    (fun _ _ _ => rfl) ?_ ?_
  · rw [holders_take hf, liveCount, if_neg (Nat.succ_ne_zero _), BitVec.ofNat_add]
  · rw [hnone, hacc.object_eq hp]
  · rw [hnone, hacc.count_eq hp]

/-- One handle less to an object that keeps others. -/
theorem drop (hacc : Accounts m f) (hp : m.wrapped p = some c) (hf : f h = some p)
    (hmore : 1 < holders f p) :
    Accounts (m.setCount c (BitVec.ofNat 32 (holders f p) - 1#32))
      (Function.update f h none) := by
  have hdrop := holders_drop hf
  have hnone : deletions (holders (Function.update f h none) p) = deletions (holders f p) := by
    rw [deletions, deletions, if_neg (by omega), if_neg (by omega)]
  refine hacc.change hp
    (fun q hq => ⟨fun heq => hq (Option.some.inj (heq.symm.trans hf)), by simp⟩) ?_
    (fun _ _ _ => rfl) ?_ ?_
  · rw [liveCount, if_neg (by omega), ← hdrop, BitVec.ofNat_add, add_sub_cancel_right]
  · rw [hnone, hacc.object_eq hp]
  · rw [hnone, hacc.count_eq hp]

/-- The last handle to an object. -/
theorem last (hacc : Accounts m f) (hp : m.wrapped p = some c) (hf : f h = some p)
    (hone : holders f p = 1) :
    ∃ m', (m.deleteCount c).deleteObject p = some m' ∧ m'.wrapped = m.wrapped ∧
      Accounts m' (Function.update f h none) := by
  have hzero : holders (Function.update f h none) p = 0 := by
    have := holders_drop hf
    omega
  have hobject := hacc.object_eq hp
  have hcount := hacc.count_eq hp
  rw [hone] at hobject hcount
  have hnew : Deletion.object p ∉ (m.deleteCount c).deleted := by
    rw [Memory.deleteCount, List.mem_cons]
    rintro (heq | hmem)
    · cases heq
    · exact (List.count_pos_iff.mpr hmem).ne' hobject
  refine ⟨_, if_neg hnew, rfl, hacc.change hp
    (fun q hq => ⟨fun heq => hq (Option.some.inj (heq.symm.trans hf)), by simp⟩) ?_ ?_ ?_ ?_⟩
  · rw [hzero]
    rfl
  · intro d hd hd'
    simp [Memory.deleteCount, Ne.symm hd, Ne.symm hd']
  · rw [hzero]
    simp [Memory.deleteCount, hobject, deletions]
  · rw [hzero]
    simp [Memory.deleteCount, hcount, deletions]

/-- The counter of an object is the new one or an old one. -/
theorem wrapped_wrap {q : ObjectPtr} {d : CountPtr} (hq : (m.wrap p).wrapped q = some d) :
    q = p ∧ d = m.nextCount ∨ q ≠ p ∧ m.wrapped q = some d := by
  by_cases hqp : q = p
  · subst hqp
    rw [Memory.wrapped_wrap_self] at hq
    exact .inl ⟨rfl, (Option.some.inj hq).symm⟩
  · rw [Memory.wrapped_wrap_of_ne m hqp] at hq
    exact .inr ⟨hqp, hq⟩

/-- The first handle to an object. -/
theorem wrap (hacc : Accounts m f) (hp : m.wrapped p = none) (hf : f h = none) :
    Accounts (m.wrap p) (Function.update f h (some p)) := by
  have hone : holders (Function.update f h (some p)) p = 1 := by
    rw [holders_take hf, holders_eq_zero fun _ => hacc.ne_some hp]
  have hother : ∀ {q}, q ≠ p → holders (Function.update f h (some p)) q = holders f q :=
    fun hq => holders_of_ne (by simp [hf]) fun heq => hq (Option.some.inj heq).symm
  constructor
  case wrapped_of_held =>
    intro h' q hheld
    by_cases hq : q = p
    · rw [hq, Memory.wrapped_wrap_self]
      exact Option.some_ne_none _
    · by_cases hh : h' = h
      · rw [hh, Function.update_self] at hheld
        exact absurd (Option.some.inj hheld).symm hq
      · rw [Function.update_of_ne hh] at hheld
        rw [Memory.wrapped_wrap_of_ne m hq]
        exact hacc.wrapped_of_held hheld
  case lt_nextCount =>
    intro q d hq
    obtain ⟨-, rfl⟩ | ⟨-, hold⟩ := wrapped_wrap hq
    · exact Nat.lt_succ_self _
    · exact Nat.lt_succ_of_lt (hacc.lt_nextCount hold)
  case wrapped_inj =>
    intro q q' d hq hq'
    obtain ⟨rfl, rfl⟩ | ⟨-, hold⟩ := wrapped_wrap hq
    · obtain ⟨rfl, -⟩ | ⟨-, hold'⟩ := wrapped_wrap hq'
      · rfl
      · exact absurd (hacc.lt_nextCount hold') (Nat.lt_irrefl _)
    · obtain ⟨-, rfl⟩ | ⟨-, hold'⟩ := wrapped_wrap hq'
      · exact absurd (hacc.lt_nextCount hold) (Nat.lt_irrefl _)
      · exact hacc.wrapped_inj hold hold'
  case counts_eq =>
    intro q d hq
    obtain ⟨rfl, rfl⟩ | ⟨hne, hold⟩ := wrapped_wrap hq
    · rw [hone]
      exact Function.update_self ..
    · rw [hother hne, ← hacc.counts_eq hold]
      exact Function.update_of_ne (hacc.lt_nextCount hold).ne ..
  case object_eq =>
    intro q d hq
    obtain ⟨rfl, -⟩ | ⟨hne, hold⟩ := wrapped_wrap hq
    · rw [hone]
      exact hacc.object_new hp
    · rw [hother hne]
      exact hacc.object_eq hold
  case count_eq =>
    intro q d hq
    obtain ⟨rfl, rfl⟩ | ⟨hne, hold⟩ := wrapped_wrap hq
    · rw [hone]
      exact hacc.count_new (Nat.le_refl _)
    · rw [hother hne]
      exact hacc.count_eq hold
  case object_new =>
    intro q hq
    refine hacc.object_new (p := q) ?_
    by_cases hqp : q = p
    · rw [hqp, hp]
    · rwa [Memory.wrapped_wrap_of_ne m hqp] at hq
  case count_new =>
    intro d hd
    exact hacc.count_new (Nat.le_of_succ_le hd)

end Accounts

/-! ## The private functions -/

/-- A handle that takes an object of another handle. -/
theorem use_spec (hacc : Accounts m f) (hf : f h = none)
    (hlinked : this.m_pRefCount = this.m_ptr.bind m.wrapped)
    (hlive : ∀ p, this.m_ptr = some p → ∃ j, f j = some p) :
    ∃ m', this.use m = some m' ∧ m'.wrapped = m.wrapped ∧
      Accounts m' (Function.update f h this.m_ptr) := by
  cases hptr : this.m_ptr with
  | none =>
      rw [hptr, Option.bind_none] at hlinked
      refine ⟨m, by rw [SmartPtr.use, hlinked], rfl, ?_⟩
      rwa [← hf, Function.update_eq_self]
  | some p =>
      obtain ⟨j, hj⟩ := hlive p hptr
      obtain ⟨c, hc⟩ := Option.ne_none_iff_exists'.mp (hacc.wrapped_of_held hj)
      have hheld := holders_ne_zero hj
      rw [hptr, Option.bind_some, hc] at hlinked
      refine ⟨m.setCount c (BitVec.ofNat 32 (holders f p) + 1#32), ?_, rfl,
        hacc.take hc hf hheld⟩
      exact SmartPtr.use_of_count hlinked (hacc.counts_of_live hc hheld)

/-- A handle that lets go what it holds. -/
theorem release_spec (hacc : Accounts m f) (hf : f h = this.m_ptr)
    (hlinked : this.m_pRefCount = this.m_ptr.bind m.wrapped) :
    ∃ this' m', this.release m = some (this', m') ∧ this'.m_lock = this.m_lock ∧
      m'.wrapped = m.wrapped ∧ Accounts m' (Function.update f h none) := by
  cases hptr : this.m_ptr with
  | none =>
      rw [hptr, Option.bind_none] at hlinked
      refine ⟨this, m, by rw [SmartPtr.release, hlinked], rfl, rfl, ?_⟩
      rwa [← hptr, ← hf, Function.update_eq_self]
  | some p =>
      rw [hptr] at hf
      obtain ⟨c, hc⟩ := Option.ne_none_iff_exists'.mp (hacc.wrapped_of_held hf)
      have hcount := hacc.counts_of_live hc (holders_ne_zero hf)
      rw [hptr, Option.bind_some, hc] at hlinked
      rw [SmartPtr.release_of_count hlinked hptr hcount, Accounts.toInt_holders]
      by_cases hmore : 1 < holders f p
      · rw [if_pos (by exact_mod_cast hmore)]
        exact ⟨this, m.setCount c (BitVec.ofNat 32 (holders f p) - 1#32), rfl, rfl, rfl,
          hacc.drop hc hf hmore⟩
      · rw [if_neg (by exact_mod_cast hmore)]
        have hheld := holders_ne_zero hf
        obtain ⟨m', hdelete, hwrapped, hacc'⟩ := hacc.last hc hf (by omega)
        rw [hdelete]
        exact ⟨_, m', rfl, rfl, hwrapped, hacc'⟩

/-! ## Programs -/

namespace Program

theorem lock_of_free (hthis : s.handles h = some this) (hfree : s.locked h = false) :
    s.lock h = some { s with locked := Function.update s.locked h this.m_lock } := by
  have hsame : Function.update s.locked h false = s.locked := by
    rw [← hfree, Function.update_eq_self]
  rw [lock, hthis, Option.bind_some, if_neg (by simp [hfree] : ¬s.locked h = true)]
  cases this.m_lock with
  | false =>
      rw [hsame]
      rfl
  | true => rfl

theorem unlock_of_locked (hthis : s.handles h = some this) (hlocked : s.locked h = this.m_lock) :
    s.unlock h = some { s with locked := Function.update s.locked h false } := by
  have hsame : this.m_lock = false → Function.update s.locked h false = s.locked := by
    intro hlock
    rw [← hlock, ← hlocked, Function.update_eq_self]
  rw [unlock, hthis, Option.map_some]
  cases hlock : this.m_lock with
  | false =>
      rw [hsame hlock]
      rfl
  | true => rfl

/-- The invariant of a program: the accounts are those of its handles, a handle's counter is that
of its object, and between two calls no lock is locked. -/
structure Inv (threadSafe : Bool) (s : Program) : Prop where
  accounts : Accounts s.memory s.target
  linked : ∀ {h this}, s.handles h = some this →
    this.m_pRefCount = this.m_ptr.bind s.memory.wrapped
  lock_eq : ∀ {h this}, s.handles h = some this → this.m_lock = threadSafe
  unlocked : s.locked = fun _ => false

theorem inv_init (threadSafe : Bool) : Inv threadSafe init where
  accounts :=
    { wrapped_of_held := by simp [target, init]
      lt_nextCount := by simp [init]
      wrapped_inj := by simp [init]
      counts_eq := by simp [init]
      object_eq := by simp [init]
      count_eq := by simp [init]
      object_new := fun _ => rfl
      count_new := fun _ => rfl }
  linked := by simp [init]
  lock_eq := by simp [init]
  unlocked := rfl

/-- What the handles point to when one of them has changed. -/
theorem target_update (s : Program) (h : HandlePtr) (v : Option SmartPtr)
    (locked : HandlePtr → Bool)
    (memory : Memory) :
    target ⟨Function.update s.handles h v, locked, memory⟩ =
      Function.update s.target h (v.bind SmartPtr.m_ptr) := by
  funext j
  by_cases hj : j = h
  · subst hj
    simp [target]
  · simp [target, Function.update_of_ne hj]

theorem target_eq (hthis : s.handles h = some this) : s.target h = this.m_ptr := by
  rw [target, hthis, Option.bind_some]

/-- A call that changes one handle and keeps the accounts keeps the invariant. -/
theorem Inv.update (hinv : Inv threadSafe s) {v : Option SmartPtr} {memory : Memory}
    (hacc : Accounts memory (Function.update s.target h (v.bind SmartPtr.m_ptr)))
    (hwrapped : ∀ p, s.memory.wrapped p ≠ none → memory.wrapped p = s.memory.wrapped p)
    (hlinked : ∀ this ∈ v, this.m_pRefCount = this.m_ptr.bind memory.wrapped ∧
      this.m_lock = threadSafe) :
    Inv threadSafe ⟨Function.update s.handles h v, fun _ => false, memory⟩ where
  accounts := by rwa [target_update]
  linked := by
    intro j this (hthis : Function.update s.handles h v j = some this)
    by_cases hj : j = h
    · rw [hj, Function.update_self] at hthis
      exact (hlinked this hthis).1
    · rw [Function.update_of_ne hj] at hthis
      rw [hinv.linked hthis]
      cases hptr : this.m_ptr with
      | none => rfl
      | some p =>
          refine (hwrapped p (hinv.accounts.wrapped_of_held (h := j) ?_)).symm
          rw [target_eq hthis, hptr]
  lock_eq := by
    intro j this (hthis : Function.update s.handles h v j = some this)
    by_cases hj : j = h
    · rw [hj, Function.update_self] at hthis
      exact (hlinked this hthis).2
    · rw [Function.update_of_ne hj] at hthis
      exact hinv.lock_eq hthis
  unlocked := rfl

/-! ## The special members -/

theorem update_false (h : HandlePtr) :
    Function.update (fun _ => false) h false = fun _ : HandlePtr => false :=
  Function.update_eq_self h _

theorem construct_spec (hinv : Inv threadSafe s) (hnew : s.handles h = none)
    {ptr : Option ObjectPtr} (hptr : ∀ p ∈ ptr, s.memory.wrapped p = none) :
    Inv threadSafe (s.construct threadSafe h ptr) := by
  have htarget : s.target h = none := by rw [target, hnew, Option.bind_none]
  have hlocked : Function.update s.locked h false = fun _ => false := by
    rw [hinv.unlocked, update_false]
  cases ptr with
  | none =>
      change Inv threadSafe ⟨_, Function.update s.locked h false, s.memory⟩
      rw [hlocked]
      refine hinv.update ?_ (fun _ _ => rfl) ?_
      · change Accounts s.memory (Function.update s.target h none)
        rw [← htarget, Function.update_eq_self]
        exact hinv.accounts
      · rintro this ⟨⟩
        exact ⟨rfl, rfl⟩
  | some p =>
      have hp := hptr p rfl
      change Inv threadSafe ⟨_, Function.update s.locked h false, s.memory.wrap p⟩
      rw [hlocked]
      refine hinv.update (hinv.accounts.wrap hp htarget) ?_ ?_
      · intro q hq
        refine s.memory.wrapped_wrap_of_ne fun hqp => hq ?_
        rw [hqp, hp]
      · rintro this ⟨⟩
        exact ⟨(s.memory.wrapped_wrap_self p).symm, rfl⟩

/-- A handle that holds nothing takes what another handle holds. -/
theorem takeFrom_spec (hne : rhs ≠ h) (hthis : s.handles h = some this)
    (hr : s.handles rhs = some r) (hfree : s.locked rhs = false) (hacc : Accounts s.memory f)
    (hf : f h = none) (hfr : f rhs = r.m_ptr)
    (hlinked : r.m_pRefCount = r.m_ptr.bind s.memory.wrapped) :
    ∃ memory, s.takeFrom h rhs =
        some ⟨Function.update s.handles h (some ⟨r.m_pRefCount, this.m_lock, r.m_ptr⟩), s.locked,
          memory⟩ ∧
      memory.wrapped = s.memory.wrapped ∧ Accounts memory (Function.update f h r.m_ptr) := by
  let taken : SmartPtr := ⟨r.m_pRefCount, this.m_lock, r.m_ptr⟩
  let locked : Program := { s with locked := Function.update s.locked rhs r.m_lock }
  have htaken : taken.m_pRefCount = taken.m_ptr.bind s.memory.wrapped := hlinked
  obtain ⟨memory, huse, hwrapped, hacc'⟩ := use_spec hacc hf htaken fun p hp => ⟨rhs, hfr.trans hp⟩
  refine ⟨memory, ?_, hwrapped, hacc'⟩
  let used : Program := { locked.setHandle h (some taken) with memory }
  have hused : (locked.setHandle h (some taken)).use h = some used :=
    use_of_handle (handles_setHandle_self ..) huse
  have hkept : used.handles rhs = some r := (handles_setHandle_of_ne _ _ hne).trans hr
  have hlocked : Function.update s.locked rhs r.m_lock rhs = r.m_lock := Function.update_self ..
  have hunlocked :
      Function.update (Function.update s.locked rhs r.m_lock) rhs false = s.locked := by
    rw [Function.update_idem, ← hfree, Function.update_eq_self]
  rw [takeFrom, lock_of_free hr hfree, Option.bind_some,
    copyMembers_of_handles (s := locked) hthis hr, Option.bind_some, hused, Option.bind_some]
  refine (unlock_of_locked hkept hlocked).trans ?_
  exact congrArg (fun locked => some (Program.mk _ locked memory)) hunlocked

theorem copy_spec (hinv : Inv threadSafe s) (hnew : s.handles h = none)
    (hr : s.handles rhs = some r) :
    ∃ s', s.copy threadSafe h rhs = some s' ∧ Inv threadSafe s' := by
  have hne : rhs ≠ h := by
    rintro rfl
    cases hnew.symm.trans hr
  have htarget : s.target h = none := by rw [target, hnew, Option.bind_none]
  have hfree : Function.update s.locked h false = fun _ => false := by
    rw [hinv.unlocked, update_false]
  let made := (s.initLock h).setHandle h (some ⟨none, threadSafe, none⟩)
  have hkept : made.handles rhs = some r := (handles_setHandle_of_ne _ _ hne).trans hr
  obtain ⟨memory, hcopy, hwrapped, hacc⟩ := takeFrom_spec (s := made) hne
    (handles_setHandle_self ..) hkept (congrFun hfree rhs) hinv.accounts htarget (target_eq hr)
    (hinv.linked hr)
  refine ⟨_, hcopy, ?_⟩
  change Inv threadSafe ⟨Function.update (Function.update s.handles h _) h _,
    Function.update s.locked h false, memory⟩
  rw [hfree, Function.update_idem]
  refine hinv.update hacc (fun p _ => congrFun hwrapped p) ?_
  rintro this ⟨⟩
  exact ⟨(hinv.linked hr).trans (congrArg r.m_ptr.bind hwrapped.symm), rfl⟩

/-- What both `operator=` and the destructor begin with. -/
theorem lockRelease_spec (hinv : Inv threadSafe s) (hthis : s.handles h = some this) :
    ∃ this' memory, ((s.lock h).bind fun s => s.release h) =
        some ⟨Function.update s.handles h (some this'), Function.update s.locked h threadSafe,
          memory⟩ ∧
      this'.m_lock = threadSafe ∧ memory.wrapped = s.memory.wrapped ∧
      Accounts memory (Function.update s.target h none) := by
  obtain ⟨this', memory, hrelease, hlock, hwrapped, hacc⟩ :=
    release_spec hinv.accounts (target_eq hthis) (hinv.linked hthis)
  have hlock' := hinv.lock_eq hthis
  refine ⟨this', memory, ?_, hlock.trans hlock', hwrapped, hacc⟩
  rw [lock_of_free hthis (congrFun hinv.unlocked h), Option.bind_some, hlock']
  exact release_of_handle hthis hrelease

theorem assign_spec (hinv : Inv threadSafe s) (hthis : s.handles h = some this)
    (hr : s.handles rhs = some r) : ∃ s', s.assign h rhs = some s' ∧ Inv threadSafe s' := by
  rw [assign, hthis, Option.bind_some, hr, Option.bind_some]
  by_cases hsame : this.m_ptr = r.m_ptr
  · exact ⟨s, if_pos hsame, hinv⟩
  rw [if_neg hsame]
  have hne : rhs ≠ h := by
    rintro rfl
    cases hthis.symm.trans hr
    exact hsame rfl
  obtain ⟨this', memory, hbegin, hlock, hwrapped, hacc⟩ := lockRelease_spec hinv hthis
  have hkept : Function.update s.handles h (some this') rhs = some r := by
    rw [Function.update_of_ne hne, hr]
  have hfree : Function.update s.locked h threadSafe rhs = false := by
    rw [Function.update_of_ne hne, hinv.unlocked]
  have htarget : Function.update s.target h none rhs = r.m_ptr := by
    rw [Function.update_of_ne hne, target_eq hr]
  have hlinked : r.m_pRefCount = r.m_ptr.bind memory.wrapped := by
    rw [hwrapped, hinv.linked hr]
  let released : Program :=
    ⟨Function.update s.handles h (some this'), Function.update s.locked h threadSafe, memory⟩
  obtain ⟨memory', htake, hwrapped', hacc'⟩ := takeFrom_spec (s := released) hne
    (Function.update_self ..) hkept hfree hacc (Function.update_self ..) htarget hlinked
  let taken : SmartPtr := ⟨r.m_pRefCount, this'.m_lock, r.m_ptr⟩
  let shared : Program :=
    ⟨Function.update released.handles h (some taken), released.locked, memory'⟩
  have hend : shared.unlock h =
      some { shared with locked := Function.update shared.locked h false } :=
    unlock_of_locked (Function.update_self ..) ((Function.update_self ..).trans hlock.symm)
  refine ⟨{ shared with locked := Function.update shared.locked h false }, ?_, ?_⟩
  · rw [← Option.bind_assoc, hbegin, Option.bind_some, htake, Option.bind_some]
    exact hend
  · change Inv threadSafe ⟨Function.update (Function.update s.handles h (some this')) h (some taken),
      Function.update (Function.update s.locked h threadSafe) h false, memory'⟩
    rw [Function.update_idem, Function.update_idem, hinv.unlocked, update_false]
    rw [Function.update_idem] at hacc'
    refine hinv.update hacc' (fun p _ => ?_) ?_
    · rw [hwrapped', ← hwrapped]
    · rintro this ⟨⟩
      refine ⟨?_, hlock⟩
      rw [hwrapped']
      exact hlinked

theorem destroy_spec (hinv : Inv threadSafe s) (hthis : s.handles h = some this) :
    ∃ s', s.destroy h = some s' ∧ Inv threadSafe s' := by
  obtain ⟨this', memory, hbegin, hlock, hwrapped, hacc⟩ := lockRelease_spec hinv hthis
  let released : Program :=
    ⟨Function.update s.handles h (some this'), Function.update s.locked h threadSafe, memory⟩
  have hend : released.unlock h =
      some { released with locked := Function.update released.locked h false } :=
    unlock_of_locked (Function.update_self ..) ((Function.update_self ..).trans hlock.symm)
  refine ⟨{ released with locked := Function.update released.locked h false }.setHandle h none,
    ?_, ?_⟩
  · rw [destroy, ← Option.bind_assoc, hbegin, Option.bind_some]
    exact congrArg (Option.map _) hend
  · change Inv threadSafe ⟨Function.update (Function.update s.handles h (some this')) h none,
      Function.update (Function.update s.locked h threadSafe) h false, memory⟩
    rw [Function.update_idem, Function.update_idem, hinv.unlocked, update_false]
    refine hinv.update hacc (fun p _ => congrFun hwrapped p) ?_
    rintro this ⟨⟩

/-- Every call that a program is allowed has a result, and keeps the invariant. -/
theorem call_spec (hinv : Inv threadSafe s) {call : HandleCall} (hallows : s.Allows call) :
    ∃ s', s.call threadSafe call = some s' ∧ Inv threadSafe s' := by
  cases call with
  | construct h ptr => exact ⟨_, rfl, construct_spec hinv hallows.1 hallows.2⟩
  | copy h rhs =>
      obtain ⟨r, hr⟩ := Option.ne_none_iff_exists'.mp hallows.2
      exact copy_spec hinv hallows.1 hr
  | assign h rhs =>
      obtain ⟨this, hthis⟩ := Option.ne_none_iff_exists'.mp hallows.1
      obtain ⟨r, hr⟩ := Option.ne_none_iff_exists'.mp hallows.2
      exact assign_spec hinv hthis hr
  | destroy h =>
      obtain ⟨this, hthis⟩ := Option.ne_none_iff_exists'.mp hallows
      exact destroy_spec hinv hthis

theorem inv_step {call : HandleCall} {s' : Program} (hinv : Inv threadSafe s)
    (hstep : Step threadSafe s call s') : Inv threadSafe s' := by
  obtain ⟨next, hnext, hinv'⟩ := call_spec hinv hstep.1
  cases hnext.symm.trans hstep.2
  exact hinv'

/-! ## What a program sees -/

/-- The counter of an object is the number of live handles to it, and an object and its counter
have been deleted once if it has no handle any more, and not at all before. -/
structure Counted (s : Program) : Prop where
  count_eq : ∀ h this p, s.handles h = some this → this.m_ptr = some p →
    ∃ c iVal, this.m_pRefCount = some c ∧ s.memory.wrapped p = some c ∧
      s.memory.counts c = some iVal ∧ iVal.toInt = s.liveHandles p
  deleted_eq : ∀ p c, s.memory.wrapped p = some c →
    s.memory.deleted.count (.object p) = (if s.liveHandles p = 0 then 1 else 0) ∧
      s.memory.deleted.count (.count c) = if s.liveHandles p = 0 then 1 else 0
  kept : ∀ p, s.memory.wrapped p = none → s.memory.deleted.count (.object p) = 0

theorem Inv.counted (hinv : Inv threadSafe s) : s.Counted where
  count_eq := by
    intro h this p hthis hptr
    have hheld : s.target h = some p := (target_eq hthis).trans hptr
    obtain ⟨c, hc⟩ := Option.ne_none_iff_exists'.mp (hinv.accounts.wrapped_of_held hheld)
    refine ⟨c, _, ?_, hc, hinv.accounts.counts_of_live hc (holders_ne_zero hheld),
      Accounts.toInt_holders _ _⟩
    rw [hinv.linked hthis, hptr, Option.bind_some, hc]
  deleted_eq p c hc := ⟨hinv.accounts.object_eq hc, hinv.accounts.count_eq hc⟩
  kept _ hp := hinv.accounts.object_new hp

/-- Wherever a run leads, the counters and the deletions are right, and every call that the
program is allowed has a result: nothing is deleted twice or counted in a counter that is gone,
and no lock is waited for. -/
theorem counted_of_run {trace : List (HandleCall × Program)}
    (hrun : Run (Step threadSafe) init trace) :
    (endState init trace).Counted ∧ ∀ call, (endState init trace).Allows call →
      ∃ s', (endState init trace).call threadSafe call = some s' := by
  have hinv : Inv threadSafe (endState init trace) :=
    hrun.inv_endState (fun _ _ _ hinv hstep => inv_step hinv hstep) (inv_init threadSafe)
  refine ⟨hinv.counted, fun call hallows => ?_⟩
  obtain ⟨s', hs', -⟩ := call_spec hinv hallows
  exact ⟨s', hs'⟩

/-- The places of two handles. -/
def firstHandle : HandlePtr := (0 : Fin (2 ^ 30))
def secondHandle : HandlePtr := (3 : Fin (2 ^ 30))

/-- A handle is made and copied, assigned to its copy, and both are destroyed. -/
theorem counted_of_run_copied :
    ∃ trace : List (HandleCall × Program), trace.map Prod.fst =
        [.construct firstHandle (some 7), .copy secondHandle firstHandle,
          .assign secondHandle firstHandle, .destroy firstHandle, .destroy secondHandle] ∧
      (endState init trace).Counted ∧ ∀ call, (endState init trace).Allows call →
        ∃ s', (endState init trace).call false call = some s' := by
  let next (s : Program) (call : HandleCall) : Program := (s.call false call).getD s
  let made := next init (.construct firstHandle (some 7))
  let copied := next made (.copy secondHandle firstHandle)
  let assigned := next copied (.assign secondHandle firstHandle)
  let one := next assigned (.destroy firstHandle)
  have hmade : Step false init (.construct firstHandle (some 7)) made :=
    ⟨⟨rfl, by simp [init]⟩, rfl⟩
  have hcopied : Step false made (.copy secondHandle firstHandle) copied :=
    ⟨⟨rfl, Option.some_ne_none _⟩, rfl⟩
  have hassigned : Step false copied (.assign secondHandle firstHandle) assigned :=
    ⟨⟨Option.some_ne_none _, Option.some_ne_none _⟩, rfl⟩
  have hone : Step false assigned (.destroy firstHandle) one := ⟨Option.some_ne_none _, rfl⟩
  have hnone : Step false one (.destroy secondHandle) (next one (.destroy secondHandle)) :=
    ⟨Option.some_ne_none _, rfl⟩
  exact ⟨_, rfl, counted_of_run (.next hmade (.next hcopied (.next hassigned (.next hone
    (.next hnone (.done _))))))⟩

end Program

end OpenglCodecCommon
end DeviceAndroVM
