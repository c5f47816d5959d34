import Mathlib.Data.BitVec
import DeviceAndroVM.Library.Holders
import DeviceAndroVM.Library.Transition

/-!
# Reference-counting handles

`SmartPtr.h`: a handle points to an object and to a counter that it shares with the other handles
of the object.  Deleting an object runs no operation on handles, as no class that the handles are
made for has handles of its own.

* `SmartPtr`, `Memory`, `Program` — a handle, the counters and objects, and all handles together.
* `use`, `release` — the two private functions; there is no result when the code would delete
  something twice or count in a counter that is gone.
* `HandleCall` — the special members.  `Allows` says which of them a program can run.
-/

namespace DeviceAndroVM
namespace OpenglCodecCommon

open Library

/-- The places of handles.  A handle holds pointers, so that it lies at a multiple of four in the
32-bit address space. -/
def HandlePtr : Type := Fin (2 ^ 30)

instance : DecidableEq HandlePtr := inferInstanceAs (DecidableEq (Fin (2 ^ 30)))
instance : Fintype HandlePtr := inferInstanceAs (Fintype (Fin (2 ^ 30)))

theorem card_handlePtr : Fintype.card HandlePtr = 2 ^ 30 := Fintype.card_fin _

/-- The addresses of objects, and of counters by the order of their allocation. -/
abbrev ObjectPtr := Nat
abbrev CountPtr := Nat

/-- The members of a handle; of the lock, whether it has one. -/
structure SmartPtr where
  m_pRefCount : Option CountPtr
  m_lock : Bool
  m_ptr : Option ObjectPtr
  deriving DecidableEq

/-- What a `delete` deletes. -/
inductive Deletion
  | object (ptr : ObjectPtr)
  | count (refCount : CountPtr)
  deriving DecidableEq

/-- The counters, those made so far for wrapped objects, and what has been deleted. -/
structure Memory where
  counts : CountPtr → Option (BitVec 32)
  nextCount : CountPtr
  wrapped : ObjectPtr → Option CountPtr
  deleted : List Deletion

namespace Memory

/-- `new int32_t(1)` for an object. -/
def wrap (m : Memory) (ptr : ObjectPtr) : Memory where
  counts := Function.update m.counts m.nextCount (some 1#32)
  nextCount := m.nextCount + 1
  wrapped := Function.update m.wrapped ptr (some m.nextCount)
  deleted := m.deleted

theorem wrapped_wrap_self (m : Memory) (ptr : ObjectPtr) :
    (m.wrap ptr).wrapped ptr = some m.nextCount := Function.update_self ..

theorem wrapped_wrap_of_ne (m : Memory) {ptr other : ObjectPtr} (h : other ≠ ptr) :
    (m.wrap ptr).wrapped other = m.wrapped other := Function.update_of_ne h ..

def setCount (m : Memory) (refCount : CountPtr) (value : BitVec 32) : Memory :=
  { m with counts := Function.update m.counts refCount (some value) }

/-- `delete m_pRefCount`, of a counter that is there. -/
def deleteCount (m : Memory) (refCount : CountPtr) : Memory :=
  { m with
    counts := Function.update m.counts refCount none
    deleted := .count refCount :: m.deleted }

/-- `delete m_ptr`, which cannot be done twice. -/
def deleteObject (m : Memory) (ptr : ObjectPtr) : Option Memory :=
  if .object ptr ∈ m.deleted then none
  else some { m with deleted := .object ptr :: m.deleted }

end Memory

namespace SmartPtr

/-- `SmartPtr::use`. -/
def use (this : SmartPtr) (m : Memory) : Option Memory :=
  match this.m_pRefCount with
  | none => some m
  | some refCount => (m.counts refCount).map fun iVal => m.setCount refCount (iVal + 1#32)

/-- `SmartPtr::release`. -/
def release (this : SmartPtr) (m : Memory) : Option (SmartPtr × Memory) :=
  match this.m_pRefCount with
  | none => some (this, m)
  | some refCount =>
      (m.counts refCount).bind fun iVal =>
        if 1 < iVal.toInt then some (this, m.setCount refCount (iVal - 1#32))
        else
          match this.m_ptr with
          | none => some ({ this with m_pRefCount := none }, m.deleteCount refCount)
          | some ptr => ((m.deleteCount refCount).deleteObject ptr).map fun m =>
              ({ this with m_pRefCount := none, m_ptr := none }, m)

variable {this : SmartPtr} {m : Memory} {refCount : CountPtr} {iVal : BitVec 32} {ptr : ObjectPtr}

theorem use_of_count (hcount : this.m_pRefCount = some refCount)
    (hiVal : m.counts refCount = some iVal) :
    this.use m = some (m.setCount refCount (iVal + 1#32)) := by
  simp only [use, hcount, hiVal, Option.map_some]

theorem release_of_count (hcount : this.m_pRefCount = some refCount)
    (hptr : this.m_ptr = some ptr) (hiVal : m.counts refCount = some iVal) :
    this.release m =
      if 1 < iVal.toInt then some (this, m.setCount refCount (iVal - 1#32))
      else ((m.deleteCount refCount).deleteObject ptr).map fun m =>
        ({ this with m_pRefCount := none, m_ptr := none }, m) := by
  simp only [release, hcount, hiVal, Option.bind_some, hptr]

end SmartPtr

/-- The handles, which of their locks are locked, and the memory. -/
structure Program where
  handles : HandlePtr → Option SmartPtr
  locked : HandlePtr → Bool
  memory : Memory

namespace Program

variable (s : Program)

/-- A program without handles. -/
def init : Program where
  handles := fun _ => none
  locked := fun _ => false
  memory := ⟨fun _ => none, 0, fun _ => none, []⟩

def setHandle (h : HandlePtr) (this : Option SmartPtr) : Program :=
  { s with handles := Function.update s.handles h this }

/-- `m_lock = new mutex_t; mutex_init(m_lock);`, in the constructors of a thread safe handle. -/
def initLock (h : HandlePtr) : Program :=
  { s with locked := Function.update s.locked h false }

/-- `if (m_lock) mutex_lock(m_lock)`.  A lock that is locked never becomes free. -/
def lock (h : HandlePtr) : Option Program :=
  (s.handles h).bind fun this =>
    if !this.m_lock then some s
    else if s.locked h then none
    else some { s with locked := Function.update s.locked h true }

/-- `if (m_lock) mutex_unlock(m_lock)`. -/
def unlock (h : HandlePtr) : Option Program :=
  (s.handles h).map fun this =>
    if !this.m_lock then s else { s with locked := Function.update s.locked h false }

def use (h : HandlePtr) : Option Program :=
  (s.handles h).bind fun this => (this.use s.memory).map fun memory => { s with memory }

def release (h : HandlePtr) : Option Program :=
  (s.handles h).bind fun this =>
    (this.release s.memory).map fun (this, memory) => { s.setHandle h (some this) with memory }

/-- `m_pRefCount = rhs.m_pRefCount; m_ptr = rhs.m_ptr;` -/
def copyMembers (h rhs : HandlePtr) : Option Program :=
  (s.handles h).bind fun this =>
    (s.handles rhs).map fun r =>
      s.setHandle h (some { this with m_pRefCount := r.m_pRefCount, m_ptr := r.m_ptr })

variable {s} {h rhs : HandlePtr} {this this' r : SmartPtr} {memory : Memory}

theorem handles_setHandle_self (s : Program) (h : HandlePtr) (v : Option SmartPtr) :
    (s.setHandle h v).handles h = v := Function.update_self ..

theorem handles_setHandle_of_ne (s : Program) (v : Option SmartPtr) (hne : rhs ≠ h) :
    (s.setHandle h v).handles rhs = s.handles rhs := Function.update_of_ne hne ..

theorem use_of_handle (hthis : s.handles h = some this) (huse : this.use s.memory = some memory) :
    s.use h = some { s with memory } := by
  rw [use, hthis, Option.bind_some, huse, Option.map_some]

theorem release_of_handle (hthis : s.handles h = some this)
    (hrelease : this.release s.memory = some (this', memory)) :
    s.release h = some { s.setHandle h (some this') with memory } := by
  rw [release, hthis, Option.bind_some, hrelease, Option.map_some]

theorem copyMembers_of_handles (hthis : s.handles h = some this) (hr : s.handles rhs = some r) :
    s.copyMembers h rhs =
      some (s.setHandle h (some ⟨r.m_pRefCount, this.m_lock, r.m_ptr⟩)) := by
  rw [copyMembers, hthis, Option.bind_some, hr, Option.map_some]

variable (s)

/-- `SmartPtr(T* ptr)`. -/
def construct (threadSafe : Bool) (h : HandlePtr) (ptr : Option ObjectPtr) : Program :=
  match ptr with
  | none => (s.initLock h).setHandle h (some ⟨none, threadSafe, none⟩)
  | some p =>
      { (s.initLock h).setHandle h (some ⟨some s.memory.nextCount, threadSafe, some p⟩) with
        memory := s.memory.wrap p }

/-- What the copy constructor and `operator=` do alike: the members of `rhs` are taken over and
counted, under the lock of `rhs` if it has one. -/
def takeFrom (h rhs : HandlePtr) : Option Program :=
  (s.lock rhs).bind fun s =>
    (s.copyMembers h rhs).bind fun s =>
      (s.use h).bind fun s => s.unlock rhs

/-- `SmartPtr(rhs)`. -/
def copy (threadSafe : Bool) (h rhs : HandlePtr) : Option Program :=
  ((s.initLock h).setHandle h (some ⟨none, threadSafe, none⟩)).takeFrom h rhs

/-- `operator=`. -/
def assign (h rhs : HandlePtr) : Option Program :=
  (s.handles h).bind fun this =>
    (s.handles rhs).bind fun r =>
      if this.m_ptr = r.m_ptr then some s
      else
        (s.lock h).bind fun s =>
          (s.release h).bind fun s =>
            (s.takeFrom h rhs).bind fun s => s.unlock h

/-- `~SmartPtr`. -/
def destroy (h : HandlePtr) : Option Program :=
  (s.lock h).bind fun s =>
    (s.release h).bind fun s =>
      (s.unlock h).map fun s => s.setHandle h none

end Program

/-- What a program does with handles. -/
inductive HandleCall
  | construct (h : HandlePtr) (ptr : Option ObjectPtr)
  | copy (h rhs : HandlePtr)
  | assign (h rhs : HandlePtr)
  | destroy (h : HandlePtr)

namespace Program

/-- A handle is made where there is none, from a pointer that no handle was made from before; the
other calls are for handles that are there. -/
def Allows (s : Program) : HandleCall → Prop
  | .construct h ptr => s.handles h = none ∧ ∀ p ∈ ptr, s.memory.wrapped p = none
  | .copy h rhs => s.handles h = none ∧ s.handles rhs ≠ none
  | .assign h rhs => s.handles h ≠ none ∧ s.handles rhs ≠ none
  | .destroy h => s.handles h ≠ none

def call (threadSafe : Bool) (s : Program) : HandleCall → Option Program
  | .construct h ptr => some (s.construct threadSafe h ptr)
  | .copy h rhs => s.copy threadSafe h rhs
  | .assign h rhs => s.assign h rhs
  | .destroy h => s.destroy h

/-- One call of a program. -/
def Step (threadSafe : Bool) (s : Program) (call : HandleCall) (s' : Program) : Prop :=
  s.Allows call ∧ s.call threadSafe call = some s'

/-- What a handle points to. -/
def target (s : Program) (h : HandlePtr) : Option ObjectPtr := (s.handles h).bind SmartPtr.m_ptr

/-- The number of live handles to an object. -/
def liveHandles (s : Program) (p : ObjectPtr) : Nat := holders s.target p

end Program

end OpenglCodecCommon
end DeviceAndroVM
