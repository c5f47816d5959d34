import DeviceAndroVM.Gralloc.AllocList
import DeviceAndroVM.Library.WhileLoop

/-!
# Closing the allocator

`gralloc_device_close` frees the first buffer of the list until the list is empty.  It does not
look at the status of `gralloc_free`, which keeps a buffer in the list when there is no connection
to the host.

* `Device.grallocFree` — `gralloc_free` while no other call is under way.
* `closeBody` — one turn of the loop; whether a connection can be had may change at any time.
* `ClosesReleasing` — the loop ends with an empty list, and every buffer has been released.
* `closesReleasing_iff` — a connection has to be there once for every buffer of the host, and no
  buffer may have descriptor 0, which `gralloc_free` takes for none.
-/

namespace DeviceAndroVM
namespace Gralloc

open Library

/-- `gralloc_free` of a handle, with its effects. -/
def Device.grallocFree (d : Device) (cb : Nat) (connected : Bool) :
    Option (Device × List Effect) :=
  (d.handles cb).bind fun handle =>
    let outcome := freeBuffer handle connected
    (d.free cb connected).bind fun d =>
      if outcome.cb = none then
        (d.remove cb).map fun d => (d, outcome.effects ++ [.deleteHandle])
      else some (d, outcome.effects)

/-- The device, how often a connection has been asked for, and what has been done. -/
structure Closing where
  device : Device
  asked : Nat
  effects : List Effect

/-- One turn of the loop of `gralloc_device_close`; `connected` are the answers to the requests
for a connection.  Without a result the turn reads a node or a handle that is gone. -/
def closeTurn (connected : Nat → Bool) (s : Closing) (n : Nat) : Option Closing :=
  (s.device.allocList.nodes n).bind fun node =>
    (s.device.handles node.item).bind fun handle =>
      (s.device.grallocFree node.item (connected s.asked)).map fun (d, effects) =>
        ⟨d, if handle.hostHandle ≠ 0#32 then s.asked + 1 else s.asked, s.effects ++ effects⟩

def closeBody (connected : Nat → Bool) (s : Closing) : Iteration Closing (Option Closing) :=
  match s.device.allocList.head with
  | none => .leave (some s)
  | some n =>
      match closeTurn connected s n with
      | none => .leave none
      | some s' => .again s'

/-- The list of a device while no call is under way: its nodes, and the buffers they hold. -/
structure Device.Holds (d : Device) (nodes : List (Nat × Nat)) (buffers : List CbHandle) :
    Prop where
  consistent : d.Consistent nodes
  inserting : d.inserting = []
  removing : d.removing = []
  handles : nodes.map (fun entry => d.handles entry.2) = buffers.map some

/-- A device with the buffers that are still allocated. -/
structure OpenDevice where
  device : Device
  nodes : List (Nat × Nat)
  buffers : List CbHandle
  holds : device.Holds nodes buffers

/-- What is to be done for a buffer: the host closes its colour buffer, which it does twice for a
buffer of the composer, the area is unmapped and its descriptor closed, and the handle goes. -/
def mustRelease (cb : CbHandle) : List Effect :=
  (if cb.hostHandle ≠ 0#32 then
    [Effect.command (.rcCloseColorBuffer cb.hostHandle)] ++
      (if has cb.usage GRALLOC_USAGE_HW_COMPOSER then
        [.command (.rcCloseColorBuffer cb.hostHandle)] else []) else []) ++
  (if 0 ≤ cb.fd.toInt then
    (if 0 < cb.ashmemSize.toInt ∧ cb.ashmemBase ≠ 0#32 then
      [Effect.munmap cb.ashmemBase cb.ashmemSize] else []) ++ [.close cb.fd] else []) ++
  [.deleteHandle]

/-- The loop ends, no buffer is left, and every buffer has been released. -/
def OpenDevice.ClosesReleasing (o : OpenDevice) (connected : Nat → Bool) : Prop :=
  ∃ s, WhileRun (closeBody connected) ⟨o.device, 0, []⟩ (some s) ∧ s.device.live = [] ∧
    s.effects = o.buffers.flatMap mustRelease

/-- The number of buffers that have a colour buffer at the host. -/
def hostBuffers (buffers : List CbHandle) : Nat :=
  buffers.countP fun cb => decide (cb.hostHandle ≠ 0#32)

/-! ## One buffer -/

/-- What `gralloc_free` does for a buffer when it can. -/
def releases (cb : CbHandle) : List Effect := (freeBuffer cb true).effects ++ [.deleteHandle]

variable {cb : CbHandle} {connected : Nat → Bool} {d : Device} {nodes : List (Nat × Nat)}
  {buffers : List CbHandle} {n p asked : Nat} {effects : List Effect}

theorem freeBuffer_refused (hhost : cb.hostHandle ≠ 0#32) :
    freeBuffer cb false = ⟨- EIO, some cb, []⟩ := by
  simp [freeBuffer, hhost]

theorem freeBuffer_freed {c : Bool} (h : cb.hostHandle = 0#32 ∨ c = true) :
    (freeBuffer cb c).cb = none ∧ (freeBuffer cb c).effects = (freeBuffer cb true).effects := by
  rcases h with hhost | rfl
  · simp [freeBuffer, hhost]
  · by_cases hhost : cb.hostHandle = 0#32 <;> simp [freeBuffer, hhost]

theorem releases_eq (hfd : cb.fd ≠ 0#32) : releases cb = mustRelease cb := by
  have hpos : 0 < cb.fd.toInt ↔ 0 ≤ cb.fd.toInt := by
    have hne : cb.fd.toInt ≠ 0 := fun hzero => hfd (BitVec.eq_of_toInt_eq hzero)
    omega
  unfold releases mustRelease freeBuffer
  by_cases hhost : cb.hostHandle = 0#32 <;> simp [hhost, hpos]

/-- A descriptor that is zero is neither unmapped nor closed. -/
theorem length_releases_lt (hfd : cb.fd = 0#32) :
    (releases cb).length < (mustRelease cb).length := by
  unfold releases mustRelease freeBuffer
  by_cases hhost : cb.hostHandle = 0#32 <;> simp [hhost, hfd]

theorem length_releases_le (cb : CbHandle) : (releases cb).length ≤ (mustRelease cb).length := by
  by_cases hfd : cb.fd = 0#32
  · exact Nat.le_of_lt (length_releases_lt hfd)
  · exact Nat.le_of_eq (congrArg List.length (releases_eq hfd))

theorem length_flatMap_releases_le (buffers : List CbHandle) :
    (buffers.flatMap releases).length ≤ (buffers.flatMap mustRelease).length := by
  induction buffers with
  | nil => exact Nat.le_refl 0
  | cons cb buffers ih =>
      rw [List.flatMap_cons, List.flatMap_cons, List.length_append, List.length_append]
      exact Nat.add_le_add (length_releases_le cb) ih

/-- Everything is released just when no descriptor is zero. -/
theorem flatMap_releases_iff (buffers : List CbHandle) :
    buffers.flatMap releases = buffers.flatMap mustRelease ↔ ∀ cb ∈ buffers, cb.fd ≠ 0#32 := by
  induction buffers with
  | nil => simp
  | cons cb buffers ih =>
      rw [List.flatMap_cons, List.flatMap_cons, List.forall_mem_cons, ← ih]
      constructor
      · intro heq
        have hfd : cb.fd ≠ 0#32 := by
          intro hzero
          have hlength := congrArg List.length heq
          have hlt := length_releases_lt hzero
          have hle := length_flatMap_releases_le buffers
          rw [List.length_append, List.length_append] at hlength
          omega
        rw [releases_eq hfd] at heq
        exact ⟨hfd, List.append_cancel_left heq⟩
      · rintro ⟨hfd, heq⟩
        rw [releases_eq hfd, heq]

/-! ## One turn -/

namespace Device

variable {node : Nat × Nat}

theorem Holds.head_eq (h : d.Holds nodes buffers) :
    d.allocList.head = nodes.head?.map Prod.fst :=
  h.consistent.list.wellFormed.head

theorem Holds.handle_eq (h : d.Holds (node :: nodes) (cb :: buffers)) :
    d.handles node.2 = some cb := (List.cons.inj h.handles).1

theorem Holds.cases (h : d.Holds nodes buffers) :
    nodes = [] ∧ buffers = [] ∨
      ∃ node nodes' cb buffers', nodes = node :: nodes' ∧ buffers = cb :: buffers' := by
  have hhandles := h.handles
  cases nodes with
  | nil =>
      cases buffers with
      | nil => exact .inl ⟨rfl, rfl⟩
      | cons cb buffers => cases hhandles
  | cons node nodes =>
      cases buffers with
      | nil => cases hhandles
      | cons cb buffers => exact .inr ⟨node, nodes, cb, buffers, rfl, rfl⟩

/-- `gralloc_free` without a connection that it needs changes nothing. -/
theorem Holds.grallocFree_refused (h : d.Holds (node :: nodes) (cb :: buffers))
    (hhost : cb.hostHandle ≠ 0#32) : d.grallocFree node.2 false = some (d, []) := by
  have hlive : node.2 ∈ d.live := h.consistent.items ▸ List.mem_cons_self
  have hremoving : node.2 ∉ d.removing := by simp [h.removing]
  have hfree : d.free node.2 false = some d := by
    rw [Device.free, if_pos ⟨hlive, hremoving⟩, h.handle_eq, Option.map_some,
      freeBuffer_refused hhost, if_neg (by simp)]
    rfl
  rw [grallocFree, h.handle_eq, Option.bind_some, freeBuffer_refused hhost]
  simp only [hfree, Option.bind_some, reduceCtorEq, if_false]

/-- `gralloc_free` of the first buffer, if it has what it needs. -/
theorem Holds.grallocFree_freed (h : d.Holds (node :: nodes) (cb :: buffers)) {c : Bool}
    (hcan : cb.hostHandle = 0#32 ∨ c = true) :
    ∃ d', d.grallocFree node.2 c = some (d', releases cb) ∧ d'.Holds nodes buffers := by
  obtain ⟨hcb, heffects⟩ := freeBuffer_freed hcan
  have hlive : node.2 ∈ d.live := h.consistent.items ▸ List.mem_cons_self
  have hremoving : node.2 ∉ d.removing := by simp [h.removing]
  let freed : Device := { d with
    resources := d.resources.applyAll (freeBuffer cb c).effects
    removing := node.2 :: d.removing }
  have hfree : d.free node.2 c = some freed := by
    rw [Device.free, if_pos ⟨hlive, hremoving⟩, h.handle_eq, Option.map_some, if_pos hcb]
  have hmem : node.2 ∈ freed.removing := List.mem_cons_self
  obtain ⟨d', front, n, back, hsplit, hfront, hremove, hnext, hhandles, hinserting, hgone⟩ :=
    (h.consistent.free hfree).remove_split hmem
  -- the buffer is that of the first node
  have hrest : front ++ back = nodes := by
    cases front with
    | nil => exact (List.cons.inj hsplit).2.symm
    | cons entry front =>
        refine absurd ?_ hfront
        rw [(List.cons.inj hsplit).1]
        exact List.mem_cons_self
  refine ⟨d', ?_, ?_⟩
  · rw [grallocFree, h.handle_eq, Option.bind_some]
    simp only [hfree, Option.bind_some, hcb, if_true, hremove, Option.map_some, heffects]
    rfl
  · refine ⟨hrest ▸ hnext, hinserting.trans h.inserting, ?_, ?_⟩
    · rw [hgone]
      exact (List.erase_cons_head ..).trans h.removing
    · rw [← (List.cons.inj h.handles).2]
      refine List.map_congr_left fun entry hentry => hhandles entry.2 ?_
      have hdistinct := (List.nodup_append.mp h.consistent.distinct).2.1
      rw [← h.consistent.items] at hdistinct
      rintro heq
      exact (List.nodup_cons.mp hdistinct).1 (heq ▸ List.mem_map_of_mem hentry)

end Device

/-- A turn frees the first buffer, or tries to. -/
theorem closeBody_cons {s : Closing} {node : Nat × Nat}
    (h : s.device.Holds (node :: nodes) (cb :: buffers)) {d' : Device} {effects : List Effect}
    (hfree : s.device.grallocFree node.2 (connected s.asked) = some (d', effects)) :
    closeBody connected s =
      .again ⟨d', if cb.hostHandle ≠ 0#32 then s.asked + 1 else s.asked,
        s.effects ++ effects⟩ := by
  have hhead : s.device.allocList.head = some node.1 := h.head_eq
  have hlist : s.device.allocList.Represents ([] ++ (node.1, node.2) :: nodes) :=
    h.consistent.list
  have hnode := hlist.node_eq
  simp only [closeBody, closeTurn, hhead, hnode, h.handle_eq, hfree, Option.bind_some,
    Option.map_some]

theorem closeBody_nil {s : Closing} (h : s.device.Holds [] []) :
    closeBody connected s = .leave (some s) := by
  have hhead : s.device.allocList.head = none := h.head_eq
  simp only [closeBody, hhead]

/-- What a turn does while there are buffers. -/
theorem closeBody_cases (connected : Nat → Bool) {s : Closing} {node : Nat × Nat}
    (h : s.device.Holds (node :: nodes) (cb :: buffers)) :
    (cb.hostHandle ≠ 0#32 ∧ connected s.asked = false ∧
        closeBody connected s = .again { s with asked := s.asked + 1 }) ∨
      (cb.hostHandle ≠ 0#32 → connected s.asked = true) ∧
        ∃ d', d'.Holds nodes buffers ∧
          closeBody connected s =
            .again ⟨d', if cb.hostHandle ≠ 0#32 then s.asked + 1 else s.asked,
              s.effects ++ releases cb⟩ := by
  by_cases hcan : cb.hostHandle = 0#32 ∨ connected s.asked = true
  · obtain ⟨d', hfree, hrest⟩ := h.grallocFree_freed hcan
    exact .inr ⟨hcan.resolve_left, d', hrest, closeBody_cons h hfree⟩
  · obtain ⟨hhost, hnone⟩ := not_or.mp hcan
    have hnone' : connected s.asked = false := Bool.eq_false_iff.mpr hnone
    refine .inl ⟨hhost, hnone', ?_⟩
    rw [closeBody_cons h (hnone' ▸ h.grallocFree_refused hhost), if_pos hhost, List.append_nil]

/-! ## The loop -/

theorem hostBuffers_cons (cb : CbHandle) (buffers : List CbHandle) :
    hostBuffers (cb :: buffers) =
      hostBuffers buffers + if cb.hostHandle ≠ 0#32 then 1 else 0 := by
  simp [hostBuffers, List.countP_cons]

/-- Some of the next requests for a connection, enough for `k` of them, are answered. -/
def Offers (connected : Nat → Bool) (asked k : Nat) : Prop :=
  ∃ turns, k ≤ (List.range' asked turns).countP connected

theorem countP_range'_succ (connected : Nat → Bool) (asked turns : Nat) :
    (List.range' asked (turns + 1)).countP connected =
      (List.range' (asked + 1) turns).countP connected +
        if connected asked then 1 else 0 := by
  rw [List.range'_succ, List.countP_cons]

theorem offers_zero (connected : Nat → Bool) (asked : Nat) : Offers connected asked 0 :=
  ⟨0, Nat.zero_le _⟩

theorem offers_refused {k : Nat} (hconnected : connected asked = false) :
    Offers connected asked (k + 1) ↔ Offers connected (asked + 1) (k + 1) := by
  constructor
  · rintro ⟨turns, hk⟩
    cases turns with
    | zero => cases hk
    | succ turns =>
        rw [countP_range'_succ, hconnected] at hk
        exact ⟨turns, hk⟩
  · rintro ⟨turns, hk⟩
    refine ⟨turns + 1, ?_⟩
    rw [countP_range'_succ, hconnected]
    exact hk

theorem offers_given {k : Nat} (hconnected : connected asked = true) :
    Offers connected asked (k + 1) ↔ Offers connected (asked + 1) k := by
  constructor
  · rintro ⟨turns, hk⟩
    cases turns with
    | zero => cases hk
    | succ turns =>
        rw [countP_range'_succ, hconnected] at hk
        exact ⟨turns, Nat.le_of_succ_le_succ hk⟩
  · rintro ⟨turns, hk⟩
    refine ⟨turns + 1, ?_⟩
    rw [countP_range'_succ, hconnected]
    exact Nat.succ_le_succ hk

/-- If the loop ends, there was a connection for every buffer that needs one. -/
theorem offers_of_run {s : Closing} {result : Option Closing}
    (hrun : WhileRun (closeBody connected) s result) (h : s.device.Holds nodes buffers) :
    Offers connected s.asked (hostBuffers buffers) := by
  induction hrun generalizing nodes buffers with
  | @leave s result hleave =>
      rcases h.cases with ⟨-, rfl⟩ | ⟨node, nodes, cb, buffers, rfl, rfl⟩
      · exact offers_zero connected s.asked
      · rcases closeBody_cases connected h with ⟨-, -, hagain⟩ | ⟨-, d', -, hagain⟩ <;>
          cases hleave.symm.trans hagain
  | @again s s' result hturn rest ih =>
      rcases h.cases with ⟨rfl, rfl⟩ | ⟨node, nodes, cb, buffers, rfl, rfl⟩
      · exact offers_zero connected s.asked
      rcases closeBody_cases connected h with ⟨hhost, hnone, hagain⟩ | ⟨hcan, d', hrest, hagain⟩
      · cases hturn.symm.trans hagain
        have hlater := ih h
        rw [hostBuffers_cons, if_pos hhost] at hlater ⊢
        exact (offers_refused hnone).mpr hlater
      · cases hturn.symm.trans hagain
        have hlater := ih hrest
        rw [hostBuffers_cons]
        by_cases hhost : cb.hostHandle ≠ 0#32
        · rw [if_pos hhost] at hlater ⊢
          exact (offers_given (hcan hhost)).mpr hlater
        · rw [if_neg hhost] at hlater ⊢
          exact hlater

/-- The connections that are there behind the turn that frees a buffer. -/
theorem offers_rest (hoffers : Offers connected asked (hostBuffers (cb :: buffers)))
    (hcan : cb.hostHandle ≠ 0#32 → connected asked = true) :
    Offers connected (if cb.hostHandle ≠ 0#32 then asked + 1 else asked)
      (hostBuffers buffers) := by
  rw [hostBuffers_cons] at hoffers
  by_cases hhost : cb.hostHandle ≠ 0#32
  · rw [if_pos hhost] at hoffers ⊢
    exact (offers_given (hcan hhost)).mp hoffers
  · rw [if_neg hhost] at hoffers ⊢
    exact hoffers

/-- The loop gets to the turn that frees the first buffer. -/
theorem exists_freed {s : Closing} {node : Nat × Nat}
    (h : s.device.Holds (node :: nodes) (cb :: buffers))
    (hoffers : Offers connected s.asked (hostBuffers (cb :: buffers))) :
    ∃ s', Offers connected s'.asked (hostBuffers buffers) ∧ s'.device.Holds nodes buffers ∧
      s'.effects = s.effects ++ releases cb ∧
      ∀ result, WhileRun (closeBody connected) s' result →
        WhileRun (closeBody connected) s result := by
  obtain ⟨turns, hturns⟩ := hoffers
  induction turns generalizing s with
  | zero =>
      have hnone : hostBuffers (cb :: buffers) = 0 := Nat.eq_zero_of_le_zero hturns
      rcases closeBody_cases connected h with ⟨hhost, -⟩ | ⟨hcan, d', hrest, hagain⟩
      · rw [hostBuffers_cons, if_pos hhost] at hnone
        cases hnone
      · exact ⟨_, offers_rest ⟨0, hturns⟩ hcan, hrest, rfl, fun _ => .again hagain⟩
  | succ turns ih =>
      rcases closeBody_cases connected h with ⟨hhost, hnone, hagain⟩ | ⟨hcan, d', hrest, hagain⟩
      · rw [countP_range'_succ, hnone] at hturns
        obtain ⟨s', hoffers, hholds, heffects, hrun⟩ :=
          ih (s := { s with asked := s.asked + 1 }) h hturns
        exact ⟨s', hoffers, hholds, heffects,
          fun result hresult => .again hagain (hrun result hresult)⟩
      · exact ⟨_, offers_rest ⟨turns + 1, hturns⟩ hcan, hrest, rfl, fun _ => .again hagain⟩

/-- With these connections the loop ends, having done for each buffer what it does. -/
theorem closes_of_offers {s : Closing} (h : s.device.Holds nodes buffers)
    (hoffers : Offers connected s.asked (hostBuffers buffers)) :
    ∃ s', WhileRun (closeBody connected) s (some s') ∧ s'.device.Holds [] [] ∧
      s'.effects = s.effects ++ buffers.flatMap releases := by
  induction buffers generalizing s nodes with
  | nil =>
      obtain rfl : nodes = [] := by simpa using h.handles
      exact ⟨s, .leave (closeBody_nil h), h, (List.append_nil _).symm⟩
  | cons cb buffers ih =>
      cases nodes with
      | nil => cases h.handles
      | cons node nodes =>
          obtain ⟨s₁, hrest, hholds, heffects, hrun⟩ := exists_freed h hoffers
          obtain ⟨s₂, hend, hempty, heffects₂⟩ := ih hholds hrest
          refine ⟨s₂, hrun _ hend, hempty, ?_⟩
          rw [heffects₂, heffects, List.append_assoc, List.flatMap_cons]

/-- The allocator is closed, with every buffer released, if there is a connection once for every
buffer of the host, and no buffer's descriptor is zero; otherwise the loop goes on for ever, or
the area of a buffer stays. -/
theorem closesReleasing_iff (o : OpenDevice) (connected : Nat → Bool) :
    o.ClosesReleasing connected ↔
      (∃ turns, hostBuffers o.buffers ≤ (List.range turns).countP connected) ∧
        ∀ cb ∈ o.buffers, cb.fd ≠ 0#32 := by
  have hoffers : (∃ turns, hostBuffers o.buffers ≤ (List.range turns).countP connected) ↔
      Offers connected 0 (hostBuffers o.buffers) := by
    simp only [Offers, List.range_eq_range']
  rw [hoffers, ← flatMap_releases_iff]
  constructor
  · rintro ⟨s, hrun, -, heffects⟩
    have hall := offers_of_run hrun o.holds
    obtain ⟨s', hrun', -, heffects'⟩ := closes_of_offers (s := ⟨o.device, 0, []⟩) o.holds hall
    obtain rfl := Option.some.inj (hrun.unique hrun')
    exact ⟨hall, heffects'.symm.trans heffects⟩
  · rintro ⟨hall, hreleased⟩
    obtain ⟨s, hrun, hempty, heffects⟩ := closes_of_offers (s := ⟨o.device, 0, []⟩) o.holds hall
    refine ⟨s, hrun, ?_, heffects.trans hreleased⟩
    exact hempty.consistent.items.symm

/-- A buffer of 64 × 64 pixels with a colour buffer at the host. -/
def hostBuffer : CbHandle where
  fd := 7
  usage := 0x133
  width := 64
  height := 64
  frameworkFormat := HAL_PIXEL_FORMAT_RGBA_8888
  format := HAL_PIXEL_FORMAT_RGBA_8888
  glFormat := GL_RGBA
  glType := GL_UNSIGNED_BYTE
  ashmemSize := 16384
  ashmemBase := 0x40000000
  ashmemBasePid := 100
  mappedPid := 0
  hostHandle := 1

/-- A device that still has this buffer. -/
def oneBuffer : OpenDevice where
  device :=
    { handles := fun cb => if cb = 0 then some hostBuffer else none
      allocList := ⟨some 1, fun n => if n = 1 then some ⟨0, none, none⟩ else none, 1⟩
      resources := ⟨1, [7], [(0x40000000, 16384)], [1]⟩
      inserting := []
      removing := []
      live := [0] }
  nodes := [(1, 0)]
  buffers := [hostBuffer]
  holds :=
    { consistent :=
        { list := ⟨⟨some 1, rfl, none, rfl, rfl, rfl⟩, by simp, by simp⟩
          items := rfl
          distinct := by simp
          allocated := by simp
          removing := by simp
          removing_distinct := List.nodup_nil }
      inserting := rfl
      removing := rfl
      handles := rfl }

/-- When the host is gone the loop never ends. -/
theorem not_closesReleasing_hostGone : ¬oneBuffer.ClosesReleasing fun _ => false := by
  rintro ⟨s, hrun, -⟩
  obtain ⟨turns, hturns⟩ := offers_of_run hrun oneBuffer.holds
  have hone : hostBuffers oneBuffer.buffers = 1 := by decide
  rw [hone] at hturns
  simp at hturns

end Gralloc
end DeviceAndroVM
