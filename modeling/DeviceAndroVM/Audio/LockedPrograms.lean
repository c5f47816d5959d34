import DeviceAndroVM.Audio.Threads

/-!
# What the mutexes of the audio device protect

An access changes only what its mutexes protect: without the mutex of the device nothing that
the calls share, and without the mutex of a stream not that stream.  The programs of
`do_out_standby`, `start_output_stream` and their siblings do what the functions of the device say,
whatever the other threads do meanwhile.

* `Device.ActiveOpen` — what holds while the mutex of the device is free.
* `Device.PcmSound` — what holds while the mutex of a stream is free.
* `access_read_only`, `stream_access`, `has_access` — what an access leaves alone.
* `guarded` — the device with its mutexes.
* `rely_stream`, `rely_has` — what a thread can rely on.
* `serves_read`, `serves_write`, `serves_change` — one access with the mutex of the device.
* `serves_doStandby`, `serves_lockedStandby` — a stream goes to standby.
* `serves_yield`, `serves_openOutput`, `serves_started` — the parts of a start, and
  `serves_startOutputStream`, `serves_startInputStream`.
* `serves_running`, `serves_transfers` — what a thread does with the mutex of a running stream
  only.
-/

namespace DeviceAndroVM
namespace Audio

section Access

open Library

variable {d d' : Device} {k k' : Kind} {h h' : Handle}

/-- The accesses that change something. -/
def Access.writes : Access → Bool
  | setActive _ _ | setRouting _ _ | lowerRate => true
  | setStandby _ _ _ | pcmOpen _ _ | pcmClose _ _ | clearPcm _ _ => true
  | _ => false

namespace Device

def Has (d : Device) (k : Kind) (h : Handle) : Prop := (d.streams k).stream h ≠ none

/-- The stream is closed or in standby, or its pcm has not been closed. -/
def PcmSound (d : Device) (k : Kind) (h : Handle) : Prop :=
  ∀ s, (d.streams k).stream h = some s → s.standby = false → s.pcm ≠ .closed

/-- The active streams are open. -/
def ActiveOpen (d : Device) : Prop := ∀ k h, (d.streams k).active = some h → d.Has k h

@[simp] theorem streams_withStreams_self (d : Device) (k : Kind) (t : Streams) :
    (d.withStreams k t).streams k = t := by
  cases k <;> rfl

@[simp] theorem streams_withStreams_of_ne {t : Streams} (hne : k' ≠ k) :
    (d.withStreams k t).streams k' = d.streams k' := by
  cases k <;> cases k' <;> first | rfl | exact absurd rfl hne

@[simp] theorem withStreams_withStreams (d : Device) (k : Kind) (t t' : Streams) :
    (d.withStreams k t).withStreams k t' = d.withStreams k t' := by
  cases k <;> rfl

@[simp] theorem withStreams_streams (d : Device) (k : Kind) :
    d.withStreams k (d.streams k) = d := by
  cases k <;> rfl

@[simp] theorem streams_withRouting (d : Device) (k k' : Kind) (val : BitVec 32) :
    (d.withRouting k val).streams k' = d.streams k' := by
  cases k <;> cases k' <;> rfl

theorem change_eq_some {f : Stream → Stream} :
    d.change k h f = some d' ↔ ∃ s, (d.streams k).stream h = some s ∧
      d' = d.withStreams k ((d.streams k).set h (some (f s))) := by
  unfold change
  cases (d.streams k).stream h with
  | none => simp
  | some s => simp [eq_comm]

theorem stream_change {f : Stream → Stream} (hchange : d.change k h f = some d')
    (hne : ¬(k' = k ∧ h' = h)) : (d'.streams k').stream h' = (d.streams k').stream h' := by
  obtain ⟨s, -, rfl⟩ := change_eq_some.mp hchange
  by_cases hk : k' = k
  · subst hk
    rw [streams_withStreams_self]
    exact Function.update_of_ne (fun heq => hne ⟨rfl, heq⟩) _ _
  · rw [streams_withStreams_of_ne hk]

theorem has_change {f : Stream → Stream} (hchange : d.change k h f = some d')
    (hhas : d.Has k' h') : d'.Has k' h' := by
  by_cases heq : k' = k ∧ h' = h
  · obtain ⟨rfl, rfl⟩ := heq
    obtain ⟨s, -, rfl⟩ := change_eq_some.mp hchange
    simp [Has, Streams.set]
  · rw [Has, stream_change hchange heq]
    exact hhas

theorem access_eq_of_reads {x : Access} {r : x.Resp} (hreads : x.writes = false)
    (hnext : d.access x r = some d') : d' = d := by
  cases x
  case standby =>
    obtain ⟨s, -, hread⟩ := Option.bind_eq_some_iff.mp hnext
    simp_all
  case transfer =>
    obtain ⟨s, -, htransfer⟩ := Option.bind_eq_some_iff.mp hnext
    simp_all
  all_goals simp_all [access, Access.writes]

/-- Without the mutex of the device nothing is changed that the calls share. -/
theorem access_read_only {x : Access} {r : x.Resp} (hneeds : Lock.device ∉ x.needs)
    (hnext : d.access x r = some d') : d' = d := by
  refine access_eq_of_reads ?_ hnext
  cases x <;> simp_all [Access.needs, Access.writes]

/-- What an access does to a stream: it leaves it alone, or it has its mutex. -/
theorem stream_access {x : Access} {r : x.Resp} (hneeds : Lock.stream k h ∉ x.needs)
    (hnext : d.access x r = some d') : (d'.streams k).stream h = (d.streams k).stream h := by
  cases x
  case setActive k' value =>
    obtain rfl := Option.some.inj hnext
    by_cases hk : k = k'
    · subst hk
      simp
    · simp [hk]
  case setRouting k' val =>
    obtain rfl := Option.some.inj hnext
    simp
  case lowerRate =>
    obtain rfl := Option.some.inj hnext
    cases k <;> rfl
  case setStandby | pcmOpen | clearPcm =>
    refine stream_change hnext fun heq => hneeds ?_
    simp [Access.needs, heq]
  case pcmClose =>
    obtain ⟨s, -, hclose⟩ := Option.bind_eq_some_iff.mp hnext
    split at hclose
    · cases hclose
    · refine stream_change hclose fun heq => hneeds ?_
      simp [Access.needs, heq]
  all_goals rw [access_eq_of_reads rfl hnext]

theorem has_access {x : Access} {r : x.Resp} (hhas : d.Has k h)
    (hnext : d.access x r = some d') : d'.Has k h := by
  by_cases hneeds : Lock.stream k h ∈ x.needs
  swap
  · rw [Has, stream_access hneeds hnext]
    exact hhas
  cases x
  case setStandby | pcmOpen | clearPcm => exact has_change hnext hhas
  case pcmClose =>
    obtain ⟨s, -, hclose⟩ := Option.bind_eq_some_iff.mp hnext
    split at hclose
    · cases hclose
    · exact has_change hclose hhas
  case setActive | setRouting | lowerRate => simp [Access.needs] at hneeds
  all_goals
    rw [access_eq_of_reads rfl hnext]
    exact hhas

end Device

/-! ## The mutexes -/

/-- What holds while a mutex is free. -/
def Lock.Inv : Lock → Device → Prop
  | .device, d => d.ActiveOpen
  | .stream k h, d => d.PcmSound k h

/-- The device with its mutexes; the mutex of the device is taken first. -/
def guarded : Guarded Lock Access Access.Resp Device where
  gate := .device
  needs := Access.needs
  next := Device.access
  inv := Lock.Inv
  read_only := Device.access_read_only
  inv_next := by
    intro l x d r d' hneeds hinv hnext
    cases l with
    | device =>
        rw [Device.access_read_only hneeds hnext]
        exact hinv
    | stream k h =>
        intro s hs
        rw [Device.stream_access hneeds hnext] at hs
        exact hinv s hs

variable {held : Set Lock}

theorem rely_stream (hmem : Lock.stream k h ∈ held) (hrely : guarded.Rely held d d') :
    (d'.streams k).stream h = (d.streams k).stream h := by
  refine hrely.keeps (P := fun e => (e.streams k).stream h = (d.streams k).stream h) ?_ rfl
  intro x e r e' hother heq hnext
  exact (Device.stream_access (Set.disjoint_right.mp hother hmem) hnext).trans heq

theorem rely_has (hrely : guarded.Rely held d d') (hhas : d.Has k h) : d'.Has k h :=
  hrely.keeps (P := fun e => e.Has k h) (fun _ hhas hnext => Device.has_access hhas hnext) hhas

end Access

section Programs

open Library

/-! ## Behind the mutex of the device -/

variable {d d' : Device} {k k' : Kind} {h h' : Handle} {held : Set Lock}

variable {effect : Call → Device → Device → Prop} {w : Place Lock Call Device}
  {Q : Unit → Place Lock Call Device → Device → Prop} {s : Stream} {x : Access}
  {A : x.Resp → Place Lock Call Device → Device → Prop}

theorem serves_read (v : x.Resp) (hgate : Lock.device ∈ w.held) (hneeds : x.needs ⊆ w.held)
    (hread : ∀ r d', d.access x r = some d' ↔ r = v ∧ d' = d) (hrest : A v w d) :
    guarded.Serves effect (LockProg.access x) A w d := by
  refine Guarded.serves_access hgate hneeds ⟨v, d, (hread v d).mpr ⟨rfl, rfl⟩⟩ ?_
  intro r d' hnext
  obtain ⟨rfl, rfl⟩ := (hread r d').mp hnext
  exact hrest

theorem serves_write (r₀ : x.Resp) (hgate : Lock.device ∈ w.held) (hneeds : x.needs ⊆ w.held)
    (hset : ∀ r, d.access x r = some d') (hrest : ∀ r, A r w d') :
    guarded.Serves effect (LockProg.access x) A w d := by
  refine Guarded.serves_access hgate hneeds ⟨r₀, d', hset r₀⟩ ?_
  intro r e hnext
  obtain rfl := Option.some.inj ((hset r).symm.trans hnext)
  exact hrest r

@[simp] theorem stream_set_self (t : Streams) (h : Handle) (o : Option Stream) :
    (t.set h o).stream h = o :=
  Function.update_self _ _ _

@[simp] theorem set_set (t : Streams) (h : Handle) (o o' : Option Stream) :
    (t.set h o).set h o' = t.set h o' :=
  congrArg (Streams.mk t.active) (Function.update_idem _ _ _)

theorem change_eq {f : Stream → Stream} (hs : (d.streams k).stream h = some s) :
    d.change k h f = some (d.withStreams k ((d.streams k).set h (some (f s)))) :=
  Device.change_eq_some.mpr ⟨s, hs, rfl⟩

/-- A change of a stream whose mutex is taken, too. -/
theorem serves_change {f : Stream → Stream} (r₀ : x.Resp)
    (hboth : ({.device, .stream k h} : Set Lock) ⊆ w.held) (hneeds : x.needs = {.device, .stream k h})
    (hs : (d.streams k).stream h = some s) (hset : ∀ r, d.access x r = d.change k h f)
    (hrest : ∀ r, A r w (d.withStreams k ((d.streams k).set h (some (f s))))) :
    guarded.Serves effect (LockProg.access x) A w d := by
  refine serves_write r₀ (hboth (Set.mem_insert _ _)) (hneeds ▸ hboth) (fun r => ?_) hrest
  rw [hset r, change_eq hs]

/-! What the reads answer. -/

theorem access_active {r : Option Handle} :
    d.access (.active k) r = some d' ↔ r = (d.streams k).active ∧ d' = d := by
  simp [Device.access, eq_comm]

theorem access_routing {r : BitVec 32} :
    d.access (.routing k) r = some d' ↔ r = d.routing k ∧ d' = d := by
  simp [Device.access, eq_comm]

theorem access_rate {r : Nat} : d.access .rate r = some d' ↔ r = d.rate ∧ d' = d := by
  simp [Device.access, eq_comm]

theorem access_alreadyTried {r : Nat} :
    d.access .alreadyTried r = some d' ↔ r = d.already_tried ∧ d' = d := by
  simp [Device.access, eq_comm]

theorem access_standby {r : Bool} (hs : (d.streams k).stream h = some s) :
    d.access (.standby k h) r = some d' ↔ r = s.standby ∧ d' = d := by
  simp [Device.access, hs, eq_comm]

namespace Device

def doStandby (d : Device) (k : Kind) (h : Handle) : Device :=
  d.withStreams k ((d.streams k).doStandby h)

end Device

theorem doStandby_of_standby (hs : (d.streams k).stream h = some s) (hstandby : s.standby = true) :
    d.doStandby k h = d := by
  simp [Device.doStandby, Streams.doStandby, hs, hstandby]

theorem doStandby_of_not_standby (hs : (d.streams k).stream h = some s)
    (hstandby : s.standby = false) :
    d.doStandby k h =
      d.withStreams k { (d.streams k).set h (some ⟨.null, true⟩) with active := none } := by
  simp [Device.doStandby, Streams.doStandby, hs, hstandby]

theorem stream_doStandby (hs : (d.streams k).stream h = some s) :
    ∃ s', ((d.doStandby k h).streams k).stream h = some s' ∧ s'.standby = true := by
  cases hstandby : s.standby with
  | true => exact ⟨s, by rw [doStandby_of_standby hs hstandby]; exact hs, hstandby⟩
  | false => exact ⟨⟨.null, true⟩, by simp [doStandby_of_not_standby hs hstandby, Streams.set], rfl⟩

theorem pcmSound_doStandby (hs : (d.streams k).stream h = some s) :
    (d.doStandby k h).PcmSound k h := by
  obtain ⟨s', hs', hstandby⟩ := stream_doStandby hs
  intro s'' hs'' hout
  rw [hs'] at hs''
  obtain rfl := Option.some.inj hs''
  rw [hstandby] at hout
  cases hout

theorem serves_doStandby (hboth : ({.device, .stream k h} : Set Lock) ⊆ w.held)
    (hs : (d.streams k).stream h = some s) (hpcm : s.standby = false → s.pcm ≠ .closed)
    (hrest : Q () w (d.doStandby k h)) :
    guarded.Serves effect (Thread.doStandby k h) Q w d := by
  have hgate : Lock.device ∈ w.held := hboth (Set.mem_insert _ _)
  have hlock : ({Lock.stream k h} : Set Lock) ⊆ w.held :=
    Set.Subset.trans (Set.subset_insert _ _) hboth
  refine Guarded.serves_bind.mpr
    (serves_read s.standby hgate hlock (fun _ _ => access_standby hs) ?_)
  cases hstandby : s.standby with
  | true =>
      rw [doStandby_of_standby hs hstandby] at hrest
      exact hrest
  | false =>
      rw [doStandby_of_not_standby hs hstandby] at hrest
      have hclose : ∀ r, d.access (.pcmClose k h) r =
          d.change k h fun s => { s with pcm := .closed } := by
        intro r
        simp [Device.access, hs, hpcm hstandby]
      refine Guarded.serves_bind.mpr (serves_change () hboth rfl hs hclose fun _ => ?_)
      refine Guarded.serves_bind.mpr (serves_change () hboth rfl (s := { s with pcm := .closed })
        (by simp) (fun _ => rfl) fun _ => ?_)
      refine Guarded.serves_bind.mpr
        (serves_write () hgate (Set.singleton_subset_iff.mpr hgate) (fun _ => rfl) fun _ => ?_)
      refine Guarded.serves_bind.mpr (serves_write () hgate hlock (fun _ => rfl) fun _ => ?_)
      refine serves_change () hboth rfl (s := ⟨.null, false⟩) ?_ (fun _ => rfl) fun _ => ?_
      · simp [hstandby, Streams.set]
      · simpa [Streams.set] using hrest

/-- A stream goes to standby with its own mutex; the place is what it was. -/
theorem serves_lockedStandby (hgate : Lock.device ∈ w.held) (hfree : Lock.stream k h ∉ w.held)
    (hhas : d.Has k h) (hrest : Q () w (d.doStandby k h)) :
    guarded.Serves effect (Thread.lockedStandby k h) Q w d := by
  obtain ⟨s, hs⟩ := Option.ne_none_iff_exists'.mp hhas
  refine Guarded.serves_bind.mpr (Guarded.serves_lock hgate hfree fun hinv => ?_)
  have hboth : ({.device, .stream k h} : Set Lock) ⊆ insert (Lock.stream k h) w.held :=
    Set.insert_subset (Set.mem_insert_of_mem _ hgate)
      (Set.singleton_subset_iff.mpr (Set.mem_insert _ _))
  refine Guarded.serves_bind.mpr (serves_doStandby hboth hs (hinv s hs) ?_)
  refine Guarded.serves_unlock_of_gate (Set.mem_insert_of_mem _ hgate) nofun (Set.mem_insert _ _)
    ?_ ?_
  · exact pcmSound_doStandby hs
  · rw [Set.insert_sdiff_self_of_notMem hfree]
    exact hrest

namespace Device

/-- What a stream that starts does about the active stream of the other kind. -/
def yield (d : Device) (other : Kind) (conflict : Nat → Bool) : Device :=
  match (d.streams other).active with
  | none => d
  | some h => if conflict d.rate then d.doStandby other h else d

/-- A stream that starts after `pcm_open`. -/
def started (d : Device) (k : Kind) (h : Handle) (opened : PcmOpen) : Device × Int :=
  if opened.failed then
    (d.withStreams k ((d.streams k).set h (some ⟨.closed, true⟩)), -ENOMEM)
  else
    (d.withStreams k { (d.streams k).set h (some ⟨opened.pointer, true⟩) with active := some h }, 0)

theorem startOutputStream_eq (d : Device) (out : Handle) (opened again : PcmOpen) :
    d.startOutputStream out opened again =
      let e := (d.yield .input fun rate => ratesConflict rate IN_SAMPLING_RATE).openOutput opened
        again
      e.1.started .output out e.2 := rfl

theorem startInputStream_eq (d : Device) (i : Handle) (opened : PcmOpen) :
    d.startInputStream i opened =
      (d.yield .output fun rate => ratesConflict IN_SAMPLING_RATE rate).started .input i opened :=
  rfl

theorem streams_doStandby_of_ne (hne : k' ≠ k) : (d.doStandby k h).streams k' = d.streams k' :=
  streams_withStreams_of_ne hne

theorem streams_yield_of_ne {conflict : Nat → Bool} (hne : k' ≠ k) :
    (d.yield k conflict).streams k' = d.streams k' := by
  unfold yield
  split
  · rfl
  · split
    · exact streams_doStandby_of_ne hne
    · rfl

theorem streams_openOutput (d : Device) (opened again : PcmOpen) :
    (d.openOutput opened again).1.streams k = d.streams k := by
  unfold openOutput
  split <;> cases k <;> rfl

end Device

theorem serves_yield {conflict : Nat → Bool} (hgate : Lock.device ∈ w.held)
    (hfree : ∀ h, Lock.stream k h ∉ w.held) (hactive : d.ActiveOpen)
    (hrest : Q () w (d.yield k conflict)) :
    guarded.Serves effect (Thread.yield k conflict) Q w d := by
  refine Guarded.serves_bind.mpr
    (serves_read _ hgate (Set.singleton_subset_iff.mpr hgate) (fun _ _ => access_active) ?_)
  unfold Device.yield at hrest
  cases hh : (d.streams k).active with
  | none =>
      rw [hh] at hrest
      exact hrest
  | some h =>
      rw [hh] at hrest
      obtain ⟨s, hs⟩ := Option.ne_none_iff_exists'.mp (hactive k h hh)
      refine Guarded.serves_bind.mpr (Guarded.serves_lock hgate (hfree h) fun hinv => ?_)
      have hgate' : Lock.device ∈ insert (Lock.stream k h) w.held := Set.mem_insert_of_mem _ hgate
      refine Guarded.serves_bind.mpr
        (serves_read d.rate hgate' (Set.empty_subset _) (fun _ _ => access_rate) ?_)
      have hunlock : ∀ d', d'.PcmSound k h → Q () w d' →
          guarded.Serves effect (LockProg.unlock (.stream k h)) Q
            { w with held := insert (.stream k h) w.held } d' := by
        intro d' hinv' hd'
        refine Guarded.serves_unlock_of_gate hgate' nofun (Set.mem_insert _ _) hinv' ?_
        rw [Set.insert_sdiff_self_of_notMem (hfree h)]
        exact hd'
      by_cases hconflict : conflict d.rate = true
      · simp only [hconflict, if_true] at hrest ⊢
        have hboth : ({.device, .stream k h} : Set Lock) ⊆ insert (Lock.stream k h) w.held :=
          Set.insert_subset hgate' (Set.singleton_subset_iff.mpr (Set.mem_insert _ _))
        exact Guarded.serves_bind.mpr (serves_doStandby hboth hs (hinv s hs)
          (hunlock _ (pcmSound_doStandby hs) hrest))
      · simp only [hconflict] at hrest ⊢
        exact hunlock d hinv hrest

theorem serves_pcmOpen {A : PcmOpen → Place Lock Call Device → Device → Prop}
    (hboth : ({.device, .stream k h} : Set Lock) ⊆ w.held)
    (hs : (d.streams k).stream h = some s)
    (hrest : ∀ opened : PcmOpen, A opened w
      (d.withStreams k ((d.streams k).set h (some { s with pcm := opened.pointer })))) :
    guarded.Serves effect (LockProg.access (Access.pcmOpen k h)) A w d := by
  refine Guarded.serves_access (hboth (Set.mem_insert _ _)) hboth ⟨.ready, _, change_eq hs⟩ ?_
  intro opened d' hnext
  obtain rfl := Option.some.inj ((change_eq hs).symm.trans hnext)
  exact hrest opened

theorem serves_openOutput {A : PcmOpen → Place Lock Call Device → Device → Prop}
    (hboth : ({.device, .stream .output h} : Set Lock) ⊆ w.held)
    (hs : (d.streams .output).stream h = some s)
    (hrest : ∀ opened again, let e := d.openOutput opened again
      A e.2 w (e.1.withStreams .output
        ((d.streams .output).set h (some { s with pcm := e.2.pointer })))) :
    guarded.Serves effect (Thread.openOutput h) A w d := by
  have hgate : Lock.device ∈ w.held := hboth (Set.mem_insert _ _)
  have hdevice : ({Lock.device} : Set Lock) ⊆ w.held := Set.singleton_subset_iff.mpr hgate
  refine Guarded.serves_bind.mpr (serves_pcmOpen hboth hs fun opened => ?_)
  cases hfailed : opened.failed with
  | false =>
      have hopened := hrest opened .ready
      simp only [Device.openOutput, hfailed, Bool.false_and] at hopened
      exact hopened
  | true =>
      refine Guarded.serves_bind.mpr
        (serves_read d.already_tried hgate hdevice (fun _ _ => access_alreadyTried) ?_)
      cases htried : d.already_tried == 0 with
      | false =>
          have hopened := hrest opened .ready
          simp only [Device.openOutput, hfailed, htried, Bool.and_false] at hopened
          exact hopened
      | true =>
          -- the second pcm replaces the first one
          refine Guarded.serves_bind.mpr (serves_write () hgate hdevice (fun _ => rfl) fun _ => ?_)
          refine serves_pcmOpen hboth (stream_set_self _ h _) fun again => ?_
          have hopened := hrest opened again
          simp only [Device.openOutput, hfailed, htried, Bool.and_self, if_true] at hopened
          simpa [Device.withStreams, Device.streams] using hopened

theorem serves_started {A : Int → Place Lock Call Device → Device → Prop} {opened : PcmOpen}
    (hboth : ({.device, .stream k h} : Set Lock) ⊆ w.held)
    (hs : (d.streams k).stream h = some ⟨opened.pointer, true⟩)
    (hrest : A (d.started k h opened).2 w (d.started k h opened).1) :
    guarded.Serves effect (Thread.started k h opened) A w d := by
  have hgate : Lock.device ∈ w.held := hboth (Set.mem_insert _ _)
  have hdevice : ({Lock.device} : Set Lock) ⊆ w.held := Set.singleton_subset_iff.mpr hgate
  have hlock : ({Lock.stream k h} : Set Lock) ⊆ w.held :=
    Set.Subset.trans (Set.subset_insert _ _) hboth
  unfold Thread.started
  unfold Device.started at hrest
  by_cases hfailed : opened.failed = true
  · rw [if_pos hfailed] at hrest ⊢
    have hclose : ∀ r, d.access (.pcmClose k h) r =
        d.change k h fun s => { s with pcm := .closed } := by
      intro r
      cases opened <;> simp [Device.access, hs, PcmOpen.pointer]
    exact Guarded.serves_bind.mpr (serves_change () hboth rfl hs hclose fun _ => hrest)
  · rw [if_neg hfailed] at hrest ⊢
    refine Guarded.serves_bind.mpr (serves_write () hgate hlock (fun _ => rfl) fun _ => ?_)
    refine Guarded.serves_bind.mpr (serves_write () hgate hdevice (fun _ => rfl) fun _ => ?_)
    have hsame : (d.streams k).set h (some ⟨opened.pointer, true⟩) = d.streams k := by
      rw [← hs]
      exact congrArg (Streams.mk _) (Function.update_eq_self _ _)
    rw [hsame] at hrest
    exact hrest

/-- A stream that starts gets its pcm whatever it had. -/
theorem started_withStreams (d : Device) (k : Kind) (h : Handle) (o : Option Stream)
    (opened : PcmOpen) :
    (d.withStreams k ((d.streams k).set h o)).started k h opened = d.started k h opened := by
  simp [Device.started, Streams.set]

theorem serves_startOutputStream {A : Int → Place Lock Call Device → Device → Prop}
    (hboth : ({.device, .stream .output h} : Set Lock) ⊆ w.held)
    (hfree : ∀ i, Lock.stream .input i ∉ w.held) (hactive : d.ActiveOpen)
    (hs : (d.streams .output).stream h = some s) (hstandby : s.standby = true)
    (hrest : ∀ opened again,
      A (d.startOutputStream h opened again).2 w (d.startOutputStream h opened again).1) :
    guarded.Serves effect (Thread.startOutputStream h) A w d := by
  have hgate : Lock.device ∈ w.held := hboth (Set.mem_insert _ _)
  refine Guarded.serves_bind.mpr (serves_yield hgate hfree hactive ?_)
  rw [← Device.streams_yield_of_ne (k := .input) (by decide)] at hs
  refine Guarded.serves_bind.mpr (serves_openOutput hboth hs fun opened again => ?_)
  rw [← Device.streams_openOutput _ opened again]
  refine serves_started hboth ?_ ?_
  · rw [Device.streams_withStreams_self, stream_set_self, hstandby]
  · rw [started_withStreams]
    exact hrest opened again

theorem serves_startInputStream {A : Int → Place Lock Call Device → Device → Prop}
    (hboth : ({.device, .stream .input h} : Set Lock) ⊆ w.held)
    (hfree : ∀ out, Lock.stream .output out ∉ w.held) (hactive : d.ActiveOpen)
    (hs : (d.streams .input).stream h = some s) (hstandby : s.standby = true)
    (hrest : ∀ opened,
      A (d.startInputStream h opened).2 w (d.startInputStream h opened).1) :
    guarded.Serves effect (Thread.startInputStream h) A w d := by
  have hgate : Lock.device ∈ w.held := hboth (Set.mem_insert _ _)
  refine Guarded.serves_bind.mpr (serves_yield hgate hfree hactive ?_)
  rw [← Device.streams_yield_of_ne (k := .output) (by decide)] at hs
  refine Guarded.serves_bind.mpr (serves_pcmOpen hboth hs fun opened => ?_)
  refine serves_started hboth ?_ ?_
  · rw [Device.streams_withStreams_self, stream_set_self, hstandby]
  · rw [started_withStreams]
    exact hrest opened

/-! ## After the mutex of the device has been given back -/

/-- The stream is out of standby, with a pcm that has not been closed. -/
def Device.Running (d : Device) (k : Kind) (h : Handle) : Prop :=
  ∃ s, (d.streams k).stream h = some s ∧ s.standby = false ∧ s.pcm ≠ .closed

theorem rely_running (hmem : Lock.stream k h ∈ held) (hrely : guarded.Rely held d d')
    (hrun : d.Running k h) : d'.Running k h := by
  unfold Device.Running
  rw [rely_stream hmem hrely]
  exact hrun

/-- An access that goes on with a running stream. -/
theorem serves_running (hlock : Lock.stream k h ∈ w.held)
    (hneeds : x.needs ⊆ w.held) (hrun : d.Running k h)
    (hcan : ∀ d : Device, d.Running k h → ∃ r, d.access x r = some d)
    (hreads : x.writes = false) (hrest : ∀ r d, d.Running k h → A r w d) :
    guarded.Serves effect (LockProg.access x) A w d := by
  refine Guarded.serves_access_of_keeps hneeds (fun _ _ => rely_running hlock) hrun ?_ ?_
  · intro d hrun
    obtain ⟨r, hr⟩ := hcan d hrun
    exact ⟨r, d, hr⟩
  · intro d r d' hrun hnext
    rw [Device.access_eq_of_reads hreads hnext]
    exact hrest r d hrun

theorem exists_transfer (hrun : d.Running k h) (r : Int) :
    d.access (.transfer k h) r = some d := by
  obtain ⟨s, hs, -, hpcm⟩ := hrun
  simp [Device.access, hs, hpcm]

theorem serves_transfers (n : Nat) (hlock : Lock.stream k h ∈ w.held) (hrun : d.Running k h)
    (hrest : ∀ d, d.Running k h → Q () w d) :
    guarded.Serves effect (Thread.transfers k h n) Q w d := by
  induction n generalizing d with
  | zero => exact hrest d hrun
  | succ n ih =>
      refine Guarded.serves_bind.mpr (serves_running hlock
        (Set.singleton_subset_iff.mpr hlock) hrun (fun d hrun => ⟨0, exists_transfer hrun 0⟩) rfl ?_)
      exact fun _ d hrun => ih hrun

/-- The mutex of a running stream is given back. -/
theorem serves_unlock_running (hlock : Lock.stream k h ∈ w.held) (hrun : d.Running k h)
    (hrest : ∀ d, Q () { w with held := w.held \ {.stream k h} } d) :
    guarded.Serves effect (LockProg.unlock (.stream k h)) Q w d := by
  refine Guarded.serves_unlock nofun hlock (fun _ _ => rely_running hlock) hrun ?_
    fun d _ => hrest d
  rintro d ⟨s, hs, -, hpcm⟩ s' hs' -
  rw [hs] at hs'
  exact Option.some.inj hs' ▸ hpcm

theorem serves_sleep (ret : Int) (hrest : ∀ d, Q () w d) :
    guarded.Serves effect (Thread.sleep ret) Q w d := by
  unfold Thread.sleep
  split
  · refine Guarded.serves_bind.mpr (Guarded.serves_access_of_keeps (P := fun _ => True)
      (Set.empty_subset _) (fun _ _ _ _ => trivial) trivial ?_ fun _ _ _ _ _ => hrest _)
    exact fun d _ => ⟨d.rate, d, access_rate.mpr ⟨rfl, rfl⟩⟩
  · exact hrest d

end Programs

end Audio
end DeviceAndroVM
