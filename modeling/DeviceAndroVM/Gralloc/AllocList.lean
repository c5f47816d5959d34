import DeviceAndroVM.Gralloc.Calls
import DeviceAndroVM.Library.DoublyLinked
import DeviceAndroVM.Library.Transition

/-!
# The list of allocated buffers

`gralloc_alloc` and `gralloc_free` of any threads on one device: a call does its work up to
the critical section, and the critical section is a step of its own.

* `Resources` — the regions, mappings, handles and host buffers there are.
* `Device` — the list, the handles, and the calls that are under way.
* `WellFormed` — the list is well formed and holds the live buffers.
* `allocBuffer_nothingLeft_iff` — which allocations that fail leave nothing behind.
* `allocList_iff` — both over every run.
-/

namespace DeviceAndroVM
namespace Gralloc

open Library

/-! ## Resources -/

structure Resources where
  handles : Int
  descriptors : List CInt
  mappings : List (CInt × CInt)
  hostReferences : List CInt
  deriving DecidableEq

namespace Resources

/-- A negative descriptor is not open, and closing it does nothing. -/
def apply (r : Resources) : Effect → Resources
  | .newHandle => { r with handles := r.handles + 1 }
  | .deleteHandle => { r with handles := r.handles - 1 }
  | .openRegion fd => { r with descriptors := fd :: r.descriptors }
  | .close fd => if fd.toInt < 0 then r else { r with descriptors := r.descriptors.erase fd }
  | .mmap address size => { r with mappings := (address, size) :: r.mappings }
  | .munmap address size => { r with mappings := r.mappings.erase (address, size) }
  | .command (.rcCreateColorBuffer h) => { r with hostReferences := h :: r.hostReferences }
  | .command (.rcOpenColorBuffer h) => { r with hostReferences := h :: r.hostReferences }
  | .command (.rcCloseColorBuffer h) => { r with hostReferences := r.hostReferences.erase h }

def applyAll (r : Resources) (effects : List Effect) : Resources := effects.foldl apply r

end Resources

/-! ## The device -/

/-- A device and its process.  `inserting` and `removing` are the buffers whose
`gralloc_alloc` or `gralloc_free` stands before its critical section, and `live` records the
buffers that were allocated and are not freed. -/
structure Device where
  handles : Nat → Option CbHandle
  allocList : DoublyLinked Nat
  resources : Resources
  inserting : List Nat
  removing : List Nat
  live : List Nat

namespace Device

def start (resources : Resources) : Device :=
  ⟨fun _ => none, DoublyLinked.empty, resources, [], [], []⟩

def setHandle (d : Device) (cb : Nat) (handle : Option CbHandle) : Device :=
  { d with handles := fun p => if p = cb then handle else d.handles p }

/-- `gralloc_alloc` up to its critical section, with the handle at an address that was free. -/
def alloc (d : Device) (cb : Nat) (r : AllocRequest) (reply : AllocReply) : Option Device :=
  if d.handles cb = none then
    let outcome := allocBuffer r reply
    let d := { d with resources := d.resources.applyAll outcome.effects }
    match outcome.cb with
    | none => some d
    | some handle => some { d.setHandle cb (some handle) with inserting := cb :: d.inserting }
  else none

/-- The critical section of `gralloc_alloc`, with the node at an address that was free. -/
def insert (d : Device) (cb node : Nat) : Option Device :=
  if cb ∈ d.inserting ∧ d.allocList.nodes node = none then
    (d.allocList.insertHead node cb).map fun list =>
      { d with allocList := list, inserting := d.inserting.erase cb, live := cb :: d.live }
  else none

/-- `gralloc_free` up to its critical section, for a buffer that no other call frees. -/
def free (d : Device) (cb : Nat) (connected : Bool) : Option Device :=
  if cb ∈ d.live ∧ cb ∉ d.removing then
    (d.handles cb).map fun handle =>
      let outcome := freeBuffer handle connected
      let d := { d with resources := d.resources.applyAll outcome.effects }
      if outcome.cb = none then { d with removing := cb :: d.removing } else d
  else none

/-- The critical section of `gralloc_free`, and the `delete` of the handle. -/
def remove (d : Device) (cb : Nat) : Option Device :=
  if cb ∈ d.removing then
    (d.allocList.find fun handle => handle = cb).bind fun found =>
      (match found with
        | some n => d.allocList.remove n
        | none => some d.allocList).map fun list =>
          { d.setHandle cb none with
            allocList := list
            resources := d.resources.apply .deleteHandle
            removing := d.removing.erase cb
            live := d.live.erase cb }
  else none

/-- The steps of the calls, in whatever threads. -/
inductive Step
  | alloc (cb : Nat) (r : AllocRequest) (reply : AllocReply)
  | insert (cb node : Nat)
  | free (cb : Nat) (connected : Bool)
  | remove (cb : Nat)

def step (d : Device) : Step → Option Device
  | .alloc cb r reply => d.alloc cb r reply
  | .insert cb node => d.insert cb node
  | .free cb connected => d.free cb connected
  | .remove cb => d.remove cb

/-! ## The list -/

/-- The list stands for `xs`; its handles are the live buffers, and every buffer is at an
address of its own. -/
structure Consistent (d : Device) (xs : List (Nat × Nat)) : Prop where
  list : d.allocList.Represents xs
  items : xs.map Prod.snd = d.live
  distinct : (d.inserting ++ d.live).Nodup
  allocated : ∀ cb ∈ d.inserting ++ d.live, d.handles cb ≠ none
  removing : ∀ cb ∈ d.removing, cb ∈ d.live
  removing_distinct : d.removing.Nodup

theorem consistent_start (resources : Resources) : (start resources).Consistent [] where
  list := DoublyLinked.represents_empty
  items := rfl
  distinct := List.nodup_nil
  allocated := fun cb hmem => by simp [start] at hmem
  removing := fun cb hmem => by simp [start] at hmem
  removing_distinct := List.nodup_nil

variable {d d' : Device} {xs : List (Nat × Nat)}

theorem Consistent.alloc {cb : Nat} {r : AllocRequest} {reply : AllocReply} (h : d.Consistent xs)
    (hstep : d.alloc cb r reply = some d') : d'.Consistent xs := by
  obtain ⟨hfree, hstep⟩ := Option.ite_none_right_eq_some.mp hstep
  have hnew : cb ∉ d.inserting ++ d.live := fun hmem => h.allocated cb hmem hfree
  simp only at hstep
  cases houtcome : (allocBuffer r reply).cb with
  | none =>
      rw [houtcome] at hstep
      obtain rfl := Option.some.inj hstep
      exact ⟨h.list, h.items, h.distinct, h.allocated, h.removing, h.removing_distinct⟩
  | some handle =>
      rw [houtcome] at hstep
      obtain rfl := Option.some.inj hstep
      exact {
        list := h.list
        items := h.items
        distinct := List.nodup_cons.mpr ⟨hnew, h.distinct⟩
        allocated := by
          intro other hmem
          by_cases hne : other = cb
          · simp [setHandle, hne]
          · have hold := (List.mem_cons.mp hmem).resolve_left hne
            simpa [setHandle, hne] using h.allocated other hold
        removing := h.removing
        removing_distinct := h.removing_distinct }

/-- The critical section of an allocation runs through. -/
theorem Consistent.insert_eq {cb node : Nat} (h : d.Consistent xs) (hcb : cb ∈ d.inserting)
    (hnode : d.allocList.nodes node = none) :
    ∃ d', d.insert cb node = some d' ∧ d'.Consistent ((node, cb) :: xs) := by
  obtain ⟨list, hinsert, hrep, -⟩ := h.list.insertHead hnode cb
  have hperm : (d.inserting.erase cb ++ cb :: d.live).Perm (d.inserting ++ d.live) :=
    List.perm_middle.trans ((List.perm_cons_erase hcb).symm.append_right d.live)
  refine ⟨_, by simp [Device.insert, hcb, hnode, hinsert]; rfl, ?_⟩
  exact {
    list := hrep
    items := by simp [h.items]
    distinct := hperm.nodup_iff.mpr h.distinct
    allocated := fun other hmem => h.allocated other (hperm.mem_iff.mp hmem)
    removing := fun other hmem => List.mem_cons_of_mem _ (h.removing other hmem)
    removing_distinct := h.removing_distinct }

theorem Consistent.free {cb : Nat} {connected : Bool} (h : d.Consistent xs)
    (hstep : d.free cb connected = some d') : d'.Consistent xs := by
  obtain ⟨⟨hlive, hremoving⟩, hstep⟩ := Option.ite_none_right_eq_some.mp hstep
  obtain ⟨handle, -, rfl⟩ := Option.map_eq_some_iff.mp hstep
  simp only
  split
  · exact {
      list := h.list
      items := h.items
      distinct := h.distinct
      allocated := h.allocated
      removing := by
        intro other hmem
        rcases List.mem_cons.mp hmem with rfl | hmem
        · exact hlive
        · exact h.removing other hmem
      removing_distinct := List.nodup_cons.mpr ⟨hremoving, h.removing_distinct⟩ }
  · exact ⟨h.list, h.items, h.distinct, h.allocated, h.removing, h.removing_distinct⟩

/-- The critical section of `gralloc_free` finds the first node of its buffer and runs through. -/
theorem Consistent.remove_split {cb : Nat} (h : d.Consistent xs) (hcb : cb ∈ d.removing) :
    ∃ d' front n back, xs = front ++ (n, cb) :: back ∧ cb ∉ front.map Prod.snd ∧
      d.remove cb = some d' ∧ d'.Consistent (front ++ back) ∧
      (∀ other, other ≠ cb → d'.handles other = d.handles other) ∧
      d'.inserting = d.inserting ∧ d'.removing = d.removing.erase cb := by
  obtain ⟨⟨n, item⟩, hentry, hitem⟩ := List.mem_map.mp (h.items ▸ h.removing cb hcb)
  obtain ⟨found, hfound⟩ := Option.isSome_iff_exists.mp
    ((List.find?_isSome (p := fun entry : Nat × Nat => decide (entry.2 = cb))).mpr
      ⟨_, hentry, by simpa using hitem⟩)
  obtain ⟨heq, front, back, rfl, hfront⟩ := List.find?_eq_some_iff_append.mp hfound
  obtain ⟨n, item⟩ := found
  obtain rfl : item = cb := by simpa using heq
  obtain ⟨list, hremove, hrep, -⟩ := h.list.remove
  have hlive : d.live = front.map Prod.snd ++ item :: back.map Prod.snd := by
    simp [← h.items]
  have hnotin : item ∉ front.map Prod.snd := by
    intro hmem
    obtain ⟨other, hother, heq⟩ := List.mem_map.mp hmem
    simpa [heq] using hfront other hother
  have herase : d.live.erase item = (front ++ back).map Prod.snd := by
    rw [hlive, List.erase_append_right _ hnotin, List.erase_cons_head, List.map_append]
  have hnodup := h.distinct
  rw [List.nodup_append] at hnodup
  obtain ⟨hnodup_inserting, hnodup_live, hapart⟩ := hnodup
  have hlive_mem : item ∈ d.live := h.removing item hcb
  let removed : Device := { d.setHandle item none with
    allocList := list
    resources := d.resources.apply .deleteHandle
    removing := d.removing.erase item
    live := d.live.erase item }
  refine ⟨removed, front, n, back, rfl, hnotin, ?_, ?_, fun other hne => if_neg hne, rfl, rfl⟩
  · simp [Device.remove, hcb, h.list.find, hfound, hremove, removed]
  exact {
    list := hrep
    items := herase.symm
    distinct := by
      rw [List.nodup_append]
      exact ⟨hnodup_inserting, hnodup_live.erase item,
        fun a ha b hb => hapart a ha b (List.mem_of_mem_erase hb)⟩
    allocated := by
      intro other hmem
      have hne : other ≠ item := by
        rintro rfl
        rcases List.mem_append.mp hmem with hin | hin
        · exact hapart other hin other hlive_mem rfl
        · exact hnodup_live.not_mem_erase hin
      have hold : other ∈ d.inserting ++ d.live := by
        rcases List.mem_append.mp hmem with hin | hin
        · exact List.mem_append_left _ hin
        · exact List.mem_append_right _ (List.mem_of_mem_erase hin)
      simpa [removed, setHandle, hne] using h.allocated other hold
    removing := by
      intro other hmem
      have hne : other ≠ item := by
        rintro rfl
        exact h.removing_distinct.not_mem_erase hmem
      exact (List.mem_erase_of_ne hne).mpr (h.removing other (List.mem_of_mem_erase hmem))
    removing_distinct := h.removing_distinct.erase item }

theorem Consistent.remove_eq {cb : Nat} (h : d.Consistent xs) (hcb : cb ∈ d.removing) :
    ∃ d' xs', d.remove cb = some d' ∧ d'.Consistent xs' := by
  obtain ⟨d', front, n, back, -, -, heq, hnext, -⟩ := h.remove_split hcb
  exact ⟨d', _, heq, hnext⟩

theorem Consistent.step {a : Step} (h : d.Consistent xs) (hstep : d.step a = some d') :
    ∃ xs', d'.Consistent xs' := by
  cases a with
  | alloc cb r reply => exact ⟨xs, h.alloc hstep⟩
  | insert cb node =>
      obtain ⟨⟨hcb, hnode⟩, -⟩ := Option.ite_none_right_eq_some.mp hstep
      obtain ⟨d'', heq, hnext⟩ := h.insert_eq hcb hnode
      obtain rfl := Option.some.inj (heq.symm.trans hstep)
      exact ⟨_, hnext⟩
  | free cb connected => exact ⟨xs, h.free hstep⟩
  | remove cb =>
      obtain ⟨hcb, -⟩ := Option.ite_none_right_eq_some.mp hstep
      obtain ⟨d'', xs', heq, hnext⟩ := h.remove_eq hcb
      obtain rfl := Option.some.inj (heq.symm.trans hstep)
      exact ⟨xs', hnext⟩

/-- The list is doubly linked in both directions, and its handles are those of the live
buffers, each once; no critical section reads a node that is gone. -/
def ListSound (d : Device) : Prop :=
  ∃ xs, d.allocList.WellFormed xs ∧ xs.map Prod.snd = d.live ∧ d.live.Nodup ∧
    (∀ cb ∈ d.inserting, ∀ node, d.allocList.nodes node = none → d.insert cb node ≠ none) ∧
    ∀ cb ∈ d.removing, d.remove cb ≠ none

theorem Consistent.listSound (h : d.Consistent xs) : d.ListSound := by
  refine ⟨xs, h.list.wellFormed, h.items, (List.nodup_append.mp h.distinct).2.1, ?_, ?_⟩
  · intro cb hcb node hnode
    obtain ⟨d', heq, -⟩ := h.insert_eq hcb hnode
    simp [heq]
  · intro cb hcb
    obtain ⟨d', xs', heq, -⟩ := h.remove_eq hcb
    simp [heq]

/-! ## Failed allocations -/

/-- An allocation that returns an error leaves everything as it was: the regions, mappings,
handles and host buffers, and the list. -/
def NothingLeft (d : Device) (a : Step) (d' : Device) : Prop :=
  match a with
  | .alloc _ r reply => (allocBuffer r reply).status ≠ 0#32 → d' = d
  | _ => True

end Device

/-- The host does not make a colour buffer that is asked for. -/
def refused (r : AllocRequest) (reply : AllocReply) : Bool :=
  r.wantsHost && (!reply.connected || decide (reply.colorBuffer = 0#32))

/-- The area is mapped, and then the host makes no colour buffer for it. -/
def mappedThenRefused (r : AllocRequest) (reply : AllocReply) : Bool :=
  match r.plan, reply.region, reply.mmap with
  | some plan, .ok _, .ok _ =>
      positive plan.ashmem_size && positive plan.areaSize && refused r reply
  | _, _, _ => false

theorem allocHost_of_refused {r : AllocRequest} {reply : AllocReply} (h : refused r reply = true)
    (fd : CInt) (cb : CbHandle) (effects : List Effect) :
    allocHost r reply fd cb effects = ⟨- EIO, none, effects ++ [.close fd, .deleteHandle]⟩ := by
  rw [refused, Bool.and_eq_true, Bool.or_eq_true] at h
  obtain ⟨hwants, hconnected | hzero⟩ := h
  · have hnot : reply.connected = false := by simpa using hconnected
    simp [allocHost, hwants, createColorBuffer, hnot]
  · have hnone : reply.colorBuffer = 0#32 := by simpa using hzero
    simp [allocHost, hwants, createColorBuffer, hnone]

theorem allocHost_status {r : AllocRequest} {reply : AllocReply} (h : refused r reply = false)
    (fd : CInt) (cb : CbHandle) (effects : List Effect) :
    (allocHost r reply fd cb effects).status = 0#32 := by
  unfold allocHost
  split
  · rename_i hwants
    have hcreated : (createColorBuffer reply).1 ≠ 0#32 := by
      simp only [refused, hwants, Bool.true_and, Bool.or_eq_false_iff, Bool.not_eq_false',
        decide_eq_false_iff_not] at h
      simp [createColorBuffer, h.1, h.2]
    simp [hcreated]
  · rfl

/-- A region and a handle that are given back leave nothing. -/
theorem applyAll_region_closed (res : Resources) {fd : CInt} (hfd : 0 ≤ fd.toInt) :
    res.applyAll [.openRegion fd, .newHandle, .close fd, .deleteHandle] = res := by
  have hopen : ¬fd.toInt < 0 := Int.not_lt.mpr hfd
  simp [Resources.applyAll, Resources.apply, hopen]

/-- Closing descriptor -1 does nothing. -/
theorem applyAll_handle_deleted (res : Resources) :
    res.applyAll [.newHandle, .close (-1), .deleteHandle] = res := by
  simp [Resources.applyAll, Resources.apply]

/-- A mapping that is not undone stays. -/
theorem applyAll_mapped_ne (res : Resources) (fd address size : CInt) (hfd : 0 ≤ fd.toInt) :
    res.applyAll [.openRegion fd, .newHandle, .mmap address size, .close fd, .deleteHandle] ≠
      res := by
  have hopen : ¬fd.toInt < 0 := Int.not_lt.mpr hfd
  intro heq
  have hmappings := congrArg (fun r => r.mappings.length) heq
  simp [Resources.applyAll, Resources.apply, hopen] at hmappings

theorem neg_errno_ne_zero (errno : Errno) : -errno.val ≠ 0#32 := fun hzero =>
  errno.property (BitVec.neg_eq_zero_iff.mp hzero)

/-- The area of a region is mapped, or the kernel refuses. -/
theorem allocMapped_eq {r : AllocRequest} {plan : Plan} {fd : CInt} (hfd : 0 ≤ fd.toInt)
    (harea : positive plan.areaSize = true) (reply : AllocReply) (effects : List Effect) :
    allocMapped r plan reply fd effects = match reply.mmap with
      | .error errno =>
          ⟨-errno.val, none, effects ++ [.newHandle] ++ [.close fd, .deleteHandle]⟩
      | .ok addr =>
          allocHost r reply fd
            { newCbHandle r plan fd with ashmemBase := addr, ashmemBasePid := reply.pid }
            (effects ++ [.newHandle] ++ [.mmap addr plan.areaSize]) := by
  have hpositive : 0 < plan.areaSize.toInt := of_decide_eq_true harea
  have hguard : ¬((newCbHandle r plan fd).fd.toInt < 0 ∨
      (newCbHandle r plan fd).ashmemSize.toInt ≤ 0) := by
    rintro (hneg | hnone)
    · exact absurd hneg (Int.not_lt.mpr hfd)
    · exact absurd hnone (Int.not_le.mpr hpositive)
  simp only [allocMapped, harea, if_true, mapBuffer, if_neg hguard]
  cases reply.mmap with
  | error errno => simp [neg_errno_ne_zero errno]
  | ok addr =>
      simp only [ne_eq, not_true_eq_false, if_false]
      rfl

theorem allocMapped_of_not_positive {plan : Plan} (harea : positive plan.areaSize = false)
    (r : AllocRequest) (reply : AllocReply) (fd : CInt) (effects : List Effect) :
    allocMapped r plan reply fd effects =
      allocHost r reply fd (newCbHandle r plan fd) (effects ++ [.newHandle]) := by
  simp [allocMapped, harea]

/-- With an area that is not mapped, all that was made is given back when the host refuses. -/
theorem allocHost_nothingLeft_iff {fd : CInt} {effects : List Effect} (r : AllocRequest)
    (reply : AllocReply) (cb : CbHandle) (res : Resources) :
    ((allocHost r reply fd cb effects).status ≠ 0#32 →
        (allocHost r reply fd cb effects).cb = none ∧
          res.applyAll (allocHost r reply fd cb effects).effects = res) ↔
      (refused r reply = true → res.applyAll (effects ++ [.close fd, .deleteHandle]) = res) := by
  cases href : refused r reply with
  | false => simp [allocHost_status href]
  | true =>
      have hstatus : EIO ≠ 0#32 := by decide
      rw [allocHost_of_refused href]
      simp [hstatus]

/-- What a failed allocation leaves is the mapping of the area, if there is one by the time
that the host refuses. -/
theorem allocBuffer_nothingLeft_iff (r : AllocRequest) (reply : AllocReply) (res : Resources) :
    ((allocBuffer r reply).status ≠ 0#32 → (allocBuffer r reply).cb = none ∧
      res.applyAll (allocBuffer r reply).effects = res) ↔ mappedThenRefused r reply = false := by
  unfold allocBuffer mappedThenRefused
  cases hplan : r.plan with
  | none => simp [Resources.applyAll]
  | some plan =>
      simp only
      cases hsize : positive plan.ashmem_size with
      | false =>
          -- no region, and nothing but the handle is made before the host is asked
          have harea : positive plan.areaSize = false := by simp [Plan.areaSize, hsize]
          rw [if_neg Bool.false_ne_true, allocMapped_of_not_positive harea,
            allocHost_nothingLeft_iff]
          cases reply.region <;> cases reply.mmap <;>
            exact iff_of_true (fun _ => applyAll_handle_deleted res) (by simp [hsize])
      | true =>
          rw [if_pos rfl]
          cases hregion : reply.region with
          | error errno => simp [Resources.applyAll]
          | ok fd =>
              simp only
              cases harea : positive plan.areaSize with
              | false =>
                  rw [allocMapped_of_not_positive harea, allocHost_nothingLeft_iff]
                  cases reply.mmap <;>
                    exact iff_of_true (fun _ => applyAll_region_closed res fd.property)
                      (by simp [harea])
              | true =>
                  rw [allocMapped_eq fd.property harea]
                  cases reply.mmap with
                  | error errno =>
                      exact iff_of_true
                        (fun _ => ⟨rfl, applyAll_region_closed res fd.property⟩) rfl
                  | ok addr =>
                      -- the mapping is there when the host is asked
                      rw [allocHost_nothingLeft_iff]
                      have hne := applyAll_mapped_ne res fd.val addr plan.areaSize fd.property
                      cases href : refused r reply with
                      | false => simp
                      | true => exact iff_of_false (fun heq => hne (heq rfl)) (by simp [hsize, harea])

namespace Device

/-- An allocation leaves the device as it was when it makes no handle and gives back what it
took. -/
theorem alloc_eq_self_iff {d d' : Device} {cb : Nat} {r : AllocRequest} {reply : AllocReply}
    (hstep : d.alloc cb r reply = some d') :
    d' = d ↔ (allocBuffer r reply).cb = none ∧
      d.resources.applyAll (allocBuffer r reply).effects = d.resources := by
  obtain ⟨-, hstep⟩ := Option.ite_none_right_eq_some.mp hstep
  simp only at hstep
  cases houtcome : (allocBuffer r reply).cb with
  | none =>
      rw [houtcome] at hstep
      obtain rfl := Option.some.inj hstep
      constructor
      · exact fun heq => ⟨rfl, congrArg Device.resources heq⟩
      · exact fun h => by rw [h.2]
  | some handle =>
      rw [houtcome] at hstep
      obtain rfl := Option.some.inj hstep
      constructor
      · intro heq
        have hinserting := congrArg (fun d => d.inserting.length) heq
        simp at hinserting
      · rintro ⟨hnone, -⟩
        cases hnone

theorem nothingLeft_iff {d d' : Device} {a : Step} (hstep : d.step a = some d') :
    NothingLeft d a d' ↔
      ∀ cb r reply, a = .alloc cb r reply → mappedThenRefused r reply = false := by
  cases a with
  | alloc cb r reply =>
      have hself := alloc_eq_self_iff hstep
      have hiff := allocBuffer_nothingLeft_iff r reply d.resources
      rw [← hself] at hiff
      constructor
      · rintro h _ _ _ ⟨⟩
        exact hiff.mp h
      · exact fun h => hiff.mpr (h cb r reply rfl)
  | insert | free | remove => exact iff_of_true trivial (by rintro _ _ _ ⟨⟩)

/-- In every run the list is sound after every step, and an allocation that fails leaves
nothing behind: the second just as long as the host never refuses a colour buffer for an area
that is mapped. -/
theorem allocList_iff {resources : Resources} {trace : List (Step × Device)}
    (hrun : Run (fun d a d' => d.step a = some d') (start resources) trace) :
    (Always ListSound trace ∧ EachStep NothingLeft (start resources) trace) ↔
      EachStep (fun _ a _ => ∀ cb r reply, a = .alloc cb r reply →
        mappedThenRefused r reply = false) (start resources) trace := by
  have hkeep : ∀ d a d', (∃ xs, Consistent d xs) → d.step a = some d' → ∃ xs, Consistent d' xs := by
    rintro d a d' ⟨xs, h⟩ hstep
    exact h.step hstep
  have hsound : Always ListSound trace :=
    (hrun.always hkeep ⟨[], consistent_start resources⟩).imp fun d ⟨xs, h⟩ => h.listSound
  have hleft : EachStep NothingLeft (start resources) trace ↔
      EachStep (fun _ a _ => ∀ cb r reply, a = .alloc cb r reply →
        mappedThenRefused r reply = false) (start resources) trace :=
    hrun.eachStep_iff_eachStep (fun d a d' h _ => hkeep d a d' h)
      (fun d a d' _ => nothingLeft_iff) ⟨[], consistent_start resources⟩
  exact ⟨fun h => hleft.mp h.2, fun h => ⟨hsound, hleft.mpr h⟩⟩

/-- Two buffers are allocated, the older one is freed, and a third is refused by the host before
it has any memory. -/
theorem allocList_iff_two_buffers :
    Always ListSound (partialTraceOf step (start ⟨0, [], [], []⟩)
      [.alloc 1 ⟨true, 4, 4, HAL_PIXEL_FORMAT_RGBA_8888, 0x133#32⟩
          ⟨.ok ⟨7, by decide⟩, .ok 0x10000#32, true, 9, 100⟩,
        .alloc 2 ⟨true, 4, 4, HAL_PIXEL_FORMAT_RGB_565, 0x33#32⟩
          ⟨.ok ⟨8, by decide⟩, .ok 0x20000#32, true, 0, 100⟩,
        .insert 1 0, .insert 2 1, .free 1 true, .remove 1,
        .alloc 3 ⟨true, 4, 4, HAL_PIXEL_FORMAT_RGBA_8888, GRALLOC_USAGE_HW_TEXTURE⟩
          ⟨.ok ⟨9, by decide⟩, .ok 0x30000#32, false, 0, 100⟩]) := by
  refine ((allocList_iff (run_partialTraceOf step (start ⟨0, [], [], []⟩)
    [.alloc 1 ⟨true, 4, 4, HAL_PIXEL_FORMAT_RGBA_8888, 0x133#32⟩
        ⟨.ok ⟨7, by decide⟩, .ok 0x10000#32, true, 9, 100⟩,
      .alloc 2 ⟨true, 4, 4, HAL_PIXEL_FORMAT_RGB_565, 0x33#32⟩
        ⟨.ok ⟨8, by decide⟩, .ok 0x20000#32, true, 0, 100⟩,
      .insert 1 0, .insert 2 1, .free 1 true, .remove 1,
      .alloc 3 ⟨true, 4, 4, HAL_PIXEL_FORMAT_RGBA_8888, GRALLOC_USAGE_HW_TEXTURE⟩
        ⟨.ok ⟨9, by decide⟩, .ok 0x30000#32, false, 0, 100⟩])).mpr ?_).1
  refine ⟨?_, ?_, ?_, ?_, ?_, ?_, ?_, trivial⟩
  all_goals
    rintro cb r reply ⟨⟩
    try decide

/-- A buffer with memory for the processor that the host refuses: the call returns an error
and closes the region, but the mapping stays. -/
theorem refused_buffer_stays_mapped :
    ∃ trace, Run (fun d a d' => d.step a = some d') (start ⟨0, [], [], []⟩) trace ∧
      ¬(Always ListSound trace ∧ EachStep NothingLeft (start ⟨0, [], [], []⟩) trace) ∧
      (endState (start ⟨0, [], [], []⟩) trace).live = [] ∧
      (endState (start ⟨0, [], [], []⟩) trace).resources =
        ⟨0, [], [(0x10000#32, 4096#32)], []⟩ := by
  refine ⟨_, run_partialTraceOf step _
    [.alloc 1 ⟨true, 4, 4, HAL_PIXEL_FORMAT_RGBA_8888, 0x133#32⟩
      ⟨.ok ⟨7, by decide⟩, .ok 0x10000#32, false, 0, 100⟩], ?_, by decide +kernel, by decide +kernel⟩
  rintro ⟨-, hleft, -⟩
  have heq := hleft (by decide +kernel)
  have hmappings := congrArg (fun d => d.resources.mappings.length) heq
  revert hmappings
  decide +kernel

end Device

end Gralloc
end DeviceAndroVM
