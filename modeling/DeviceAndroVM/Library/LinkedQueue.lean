import Mathlib.Data.List.Basic

/-!
# Singly linked lists in a heap

A list as a head pointer and cells that point to the next one.

* `LinkedQueue` — the head, the cells that are allocated, and how many were ever made.
* `walk` — the loop `for (p = head, q = NULL; p; q = p, p = p->next)`; there is no result when
  it reads a cell that is not allocated or visits more cells than were made.
* `append`, `search`, `unlink` — the operations of such a list.
* `Represents` — the list of the addresses and items from the head on.
* `firstMatch` — what a search finds, on that list.
-/

namespace DeviceAndroVM
namespace Library

universe u v

/-- A cell: what it holds, and the pointer to the next one. -/
structure Node (α : Type u) where
  item : α
  next : Option Nat
  deriving DecidableEq

/-- The cells at their addresses; `made` is the number of cells appended so far. -/
structure LinkedQueue (α : Type u) where
  head : Option Nat
  cells : Nat → Option (Node α)
  made : Nat

namespace LinkedQueue

variable {α : Type u} {β : Type v}

def empty : LinkedQueue α := ⟨none, fun _ => none, 0⟩

/-- Visit the cells from `p` on until one gives a result: that cell, the one visited before
it, and the result. -/
def walk (cells : Nat → Option (Node α)) (visit : Node α → Option (Option β)) :
    Nat → Option Nat → Option Nat → Option (Option (Nat × Option Nat × β))
  | _, none, _ => some none
  | 0, some _, _ => none
  | fuel + 1, some p, q =>
      match cells p with
      | none => none
      | some node =>
          match visit node with
          | none => none
          | some (some found) => some (some (p, q, found))
          | some none => walk cells visit fuel node.next (some p)

def setCell (l : LinkedQueue α) (p : Nat) (node : Option (Node α)) : LinkedQueue α :=
  { l with cells := fun q => if q = p then node else l.cells q }

/-- `p->next = next`. -/
def setNext (l : LinkedQueue α) (p : Nat) (next : Option Nat) : Option (LinkedQueue α) :=
  (l.cells p).map fun node => l.setCell p (some { node with next })

/-- Put a new cell behind the last one. -/
def append (l : LinkedQueue α) (p : Nat) (item : α) : Option (LinkedQueue α) :=
  let l := { l.setCell p (some ⟨item, none⟩) with made := l.made + 1 }
  match l.head with
  | none => some { l with head := some p }
  | some _ =>
      -- `while (m->next) m = m->next;`
      match walk l.cells (fun m => some (if m.next = none then some () else none)) l.made l.head
        none with
      | some (some (m, _, _)) => l.setNext m (some p)
      | _ => none

/-- The first cell whose item gives a result. -/
def search (l : LinkedQueue α) (visit : α → Option (Option β)) :
    Option (Option (Nat × Option Nat × β)) :=
  walk l.cells (fun node => visit node.item) l.made l.head none

/-- Take the cell `p` out of the list; `q` is the cell before it. -/
def unlink (l : LinkedQueue α) (p : Nat) (q : Option Nat) : Option (LinkedQueue α) :=
  (l.cells p).bind fun node =>
    match q with
    | some q => l.setNext q node.next
    | none => some { l with head := node.next }

def free (l : LinkedQueue α) (p : Nat) : LinkedQueue α := l.setCell p none

/-! ## Paths -/

/-- Following the pointers from `p` leads through the cells of the list to `q`. -/
def Path (cells : Nat → Option (Node α)) : Option Nat → List (Nat × α) → Option Nat → Prop
  | p, [], q => p = q
  | p, (a, item) :: rest, q =>
      p = some a ∧ ∃ next, cells a = some ⟨item, next⟩ ∧ Path cells next rest q

theorem path_append {cells : Nat → Option (Node α)} {p q : Option Nat}
    {first second : List (Nat × α)} :
    Path cells p (first ++ second) q ↔ ∃ mid, Path cells p first mid ∧ Path cells mid second q := by
  induction first generalizing p with
  | nil => simp [Path]
  | cons entry rest ih =>
      obtain ⟨a, item⟩ := entry
      simp only [List.cons_append, Path, ih]
      constructor
      · rintro ⟨hp, next, hcell, mid, hfirst, hsecond⟩
        exact ⟨mid, ⟨hp, next, hcell, hfirst⟩, hsecond⟩
      · rintro ⟨mid, ⟨hp, next, hcell, hfirst⟩, hsecond⟩
        exact ⟨hp, next, hcell, mid, hfirst, hsecond⟩

/-- A path only depends on the cells it goes through. -/
theorem Path.congr {cells cells' : Nat → Option (Node α)} {p q : Option Nat}
    {xs : List (Nat × α)} (h : Path cells p xs q)
    (hsame : ∀ a ∈ xs.map Prod.fst, cells' a = cells a) : Path cells' p xs q := by
  induction xs generalizing p with
  | nil => exact h
  | cons entry rest ih =>
      obtain ⟨a, item⟩ := entry
      obtain ⟨hp, next, hcell, hrest⟩ := h
      refine ⟨hp, next, ?_, ih hrest fun b hb => hsame b (List.mem_cons_of_mem _ hb)⟩
      rw [hsame a List.mem_cons_self, hcell]

theorem Path.cell_of_mem {cells : Nat → Option (Node α)} {p q : Option Nat}
    {xs : List (Nat × α)} (h : Path cells p xs q) {a : Nat} {item : α} (hmem : (a, item) ∈ xs) :
    ∃ next, cells a = some ⟨item, next⟩ := by
  induction xs generalizing p with
  | nil => cases hmem
  | cons entry rest ih =>
      obtain ⟨b, item'⟩ := entry
      obtain ⟨-, next, hcell, hrest⟩ := h
      rcases List.mem_cons.mp hmem with heq | hmem
      · obtain ⟨rfl, rfl⟩ := Prod.mk.inj heq
        exact ⟨next, hcell⟩
      · exact ih hrest hmem

/-- The last cell of a path points to where the path leads. -/
theorem path_concat {cells : Nat → Option (Node α)} {p q : Option Nat}
    {xs : List (Nat × α)} {a : Nat} {item : α} :
    Path cells p (xs ++ [(a, item)]) q ↔
      Path cells p xs (some a) ∧ cells a = some ⟨item, q⟩ := by
  rw [path_append]
  constructor
  · rintro ⟨mid, hfirst, rfl, next, hcell, rfl⟩
    exact ⟨hfirst, hcell⟩
  · rintro ⟨hfirst, hcell⟩
    exact ⟨some a, hfirst, rfl, q, hcell, rfl⟩

/-! ## What a walk finds -/

/-- The first entry that gives a result, with the address before it. -/
def firstMatch (f : α → Option β) :
    Option Nat → List (Nat × α) → Option (Nat × Option Nat × β)
  | _, [] => none
  | q, (a, item) :: rest =>
      match f item with
      | some found => some (a, q, found)
      | none => firstMatch f (some a) rest

theorem firstMatch_eq_none {f : α → Option β} {q : Option Nat} {xs : List (Nat × α)} :
    firstMatch f q xs = none ↔ ∀ entry ∈ xs, f entry.2 = none := by
  induction xs generalizing q with
  | nil => simp [firstMatch]
  | cons entry rest ih =>
      obtain ⟨a, item⟩ := entry
      cases hf : f item with
      | some found => simp [firstMatch, hf]
      | none => simp [firstMatch, hf, ih]

/-- What was found splits the list: nothing before it gives a result. -/
theorem eq_append_of_firstMatch {f : α → Option β} {q pred : Option Nat} {xs : List (Nat × α)}
    {a : Nat} {found : β} (h : firstMatch f q xs = some (a, pred, found)) :
    ∃ front item back, xs = front ++ (a, item) :: back ∧ f item = some found ∧
      (∀ entry ∈ front, f entry.2 = none) ∧ pred = (front.getLast?.map Prod.fst).or q := by
  induction xs generalizing q with
  | nil => cases h
  | cons entry rest ih =>
      obtain ⟨b, item⟩ := entry
      cases hf : f item with
      | some result =>
          simp only [firstMatch, hf] at h
          obtain ⟨rfl, rfl, rfl⟩ : b = a ∧ q = pred ∧ result = found := by simpa using h
          exact ⟨[], item, rest, rfl, hf, by simp, by simp⟩
      | none =>
          simp only [firstMatch, hf] at h
          obtain ⟨front, item', back, rfl, hfound, hnone, hpred⟩ := ih h
          refine ⟨(b, item) :: front, item', back, rfl, hfound, ?_, ?_⟩
          · intro entry hmem
            rcases List.mem_cons.mp hmem with rfl | hmem
            · exact hf
            · exact hnone entry hmem
          · cases front with
            | nil => simpa using hpred
            | cons entry front => simpa [List.getLast?_cons] using hpred

theorem walk_eq {cells : Nat → Option (Node α)} {visit : Node α → Option (Option β)}
    {f : α → Option β} {fuel : Nat} {p q : Option Nat} {xs : List (Nat × α)}
    (hpath : Path cells p xs none) (hfuel : xs.length ≤ fuel)
    (hvisit : ∀ a item next, (a, item) ∈ xs → cells a = some ⟨item, next⟩ →
      visit ⟨item, next⟩ = some (f item)) :
    walk cells visit fuel p q = some (firstMatch f q xs) := by
  induction xs generalizing fuel p q with
  | nil =>
      obtain rfl : p = none := hpath
      cases fuel <;> rfl
  | cons entry rest ih =>
      obtain ⟨a, item⟩ := entry
      obtain ⟨rfl, next, hcell, hrest⟩ := hpath
      cases fuel with
      | zero => simp at hfuel
      | succ fuel =>
          have hhere := hvisit a item next List.mem_cons_self hcell
          unfold walk firstMatch
          rw [hcell]
          simp only [hhere]
          cases hf : f item with
          | some found => simp
          | none =>
              simp only
              exact ih hrest (by simpa using hfuel)
                fun b item' next' hmem => hvisit b item' next' (List.mem_cons_of_mem _ hmem)

/-- The walk of `append` ends at the last cell. -/
theorem walk_last {cells : Nat → Option (Node α)} {fuel : Nat} {p q : Option Nat}
    {xs : List (Nat × α)} {a : Nat} {item : α} (hpath : Path cells p (xs ++ [(a, item)]) none)
    (hfuel : xs.length < fuel) :
    ∃ pred, walk cells (fun m => some (if m.next = none then some () else none)) fuel p q =
      some (some (a, pred, ())) := by
  induction xs generalizing fuel p q with
  | nil =>
      obtain ⟨rfl, next, hcell, rfl⟩ := hpath
      cases fuel with
      | zero => simp at hfuel
      | succ fuel => exact ⟨q, by simp [walk, hcell]⟩
  | cons entry rest ih =>
      obtain ⟨b, item'⟩ := entry
      obtain ⟨rfl, next, hcell, hrest⟩ := hpath
      cases fuel with
      | zero => simp at hfuel
      | succ fuel =>
          -- there is a cell behind this one
          have hnext : next ≠ none := by
            rintro rfl
            cases rest with
            | nil => cases hrest.1
            | cons entry rest => cases hrest.1
          obtain ⟨pred, hwalk⟩ := ih (q := some b) hrest (by simpa using hfuel)
          exact ⟨pred, by simp [walk, hcell, hnext, hwalk]⟩

/-! ## The list a head pointer stands for -/

/-- From the head on, the cells are those of the list, each at an address of its own. -/
structure Represents (l : LinkedQueue α) (xs : List (Nat × α)) : Prop where
  path : Path l.cells l.head xs none
  nodup : (xs.map Prod.fst).Nodup
  bound : xs.length ≤ l.made

theorem represents_empty : (empty : LinkedQueue α).Represents [] :=
  ⟨rfl, List.nodup_nil, Nat.le_refl 0⟩

variable {l : LinkedQueue α} {xs front back : List (Nat × α)} {p : Nat} {item : α}

@[simp] theorem cells_setCell_self (l : LinkedQueue α) (p : Nat) (node : Option (Node α)) :
    (l.setCell p node).cells p = node := by
  simp [setCell]

theorem cells_setCell_of_ne (l : LinkedQueue α) {p q : Nat} (node : Option (Node α))
    (hne : q ≠ p) : (l.setCell p node).cells q = l.cells q := by
  simp [setCell, hne]

/-- Writing a cell outside a path leaves the path. -/
theorem Path.setCell {p' q : Option Nat} (h : Path l.cells p' xs q) (node : Option (Node α))
    (hp : p ∉ xs.map Prod.fst) : Path (l.setCell p node).cells p' xs q :=
  h.congr fun _ ha => cells_setCell_of_ne l node fun heq => hp (heq ▸ ha)

theorem Represents.free (h : l.Represents xs) (hp : p ∉ xs.map Prod.fst) :
    (l.free p).Represents xs :=
  ⟨h.path.setCell none hp, h.nodup, h.bound⟩

theorem Represents.cell_of_mem (h : l.Represents xs) (hmem : (p, item) ∈ xs) :
    ∃ next, l.cells p = some ⟨item, next⟩ :=
  h.path.cell_of_mem hmem

theorem Represents.cell (h : l.Represents (front ++ (p, item) :: back)) :
    ∃ next, l.cells p = some ⟨item, next⟩ :=
  h.cell_of_mem (List.mem_append_right _ List.mem_cons_self)

/-- Behind an entry and before it, its address does not occur. -/
theorem Represents.notMem (h : l.Represents (front ++ (p, item) :: back)) :
    p ∉ front.map Prod.fst ∧ p ∉ back.map Prod.fst := by
  have hnodup := h.nodup
  rw [List.map_append, List.map_cons, List.nodup_append] at hnodup
  obtain ⟨-, hback, hapart⟩ := hnodup
  exact ⟨fun hmem => hapart p hmem p List.mem_cons_self rfl, (List.nodup_cons.mp hback).1⟩

/-- A new cell stands behind the others, and no cell outside the list changes. -/
theorem Represents.append (h : l.Represents xs) (hp : l.cells p = none) (item : α) :
    ∃ l', l.append p item = some l' ∧ l'.Represents (xs ++ [(p, item)]) ∧
      ∀ q, q ∉ xs.map Prod.fst → q ≠ p → l'.cells q = l.cells q := by
  have hnew : p ∉ xs.map Prod.fst := by
    intro hmem
    obtain ⟨⟨a, item'⟩, hentry, rfl⟩ := List.mem_map.mp hmem
    obtain ⟨next, hcell⟩ := h.cell_of_mem hentry
    rw [hp] at hcell
    cases hcell
  have hnodup : ((xs ++ [(p, item)]).map Prod.fst).Nodup := by
    rw [List.map_append, List.nodup_append]
    refine ⟨h.nodup, by simp, ?_⟩
    intro a ha b hb heq
    obtain rfl : b = p := by simpa using hb
    exact hnew (heq ▸ ha)
  have hbound : (xs ++ [(p, item)]).length ≤ l.made + 1 := by
    simpa using h.bound
  have hpath := h.path.setCell (some ⟨item, none⟩) hnew
  rcases List.eq_nil_or_concat xs with rfl | ⟨ys, ⟨a, last⟩, rfl⟩
  · have hhead : l.head = none := h.path
    refine ⟨_, by simp [LinkedQueue.append, hhead, LinkedQueue.setCell]; rfl,
      ⟨?_, hnodup, hbound⟩, ?_⟩
    · exact ⟨rfl, none, cells_setCell_self l p _, rfl⟩
    · exact fun q _ hq => cells_setCell_of_ne l _ hq
  · rw [List.concat_eq_append] at *
    let l₁ : LinkedQueue α := { l.setCell p (some ⟨item, none⟩) with made := l.made + 1 }
    have hpath₁ : Path l₁.cells l₁.head (ys ++ [(a, last)]) none := hpath
    obtain ⟨hys, hlast⟩ := path_concat.mp hpath₁
    obtain ⟨first, hhead⟩ : ∃ first, l₁.head = some first := by
      cases hhead : l₁.head with
      | some first => exact ⟨first, rfl⟩
      | none =>
          rw [hhead] at hys
          cases ys with
          | nil => cases hys
          | cons entry ys => cases hys.1
    have hfuel : ys.length < l₁.made := by
      change ys.length < l.made + 1
      simp only [List.length_append, List.length_singleton] at hbound
      omega
    obtain ⟨pred, hwalk⟩ := walk_last (q := none) hpath₁ hfuel
    have hne : p ≠ a := fun heq => hnew (by simp [heq])
    have hapart : a ∉ ys.map Prod.fst := by
      have hnodup' := h.nodup
      rw [List.map_append, List.nodup_append] at hnodup'
      exact fun hmem => hnodup'.2.2 a hmem a (by simp) rfl
    refine ⟨l₁.setCell a (some ⟨last, some p⟩), ?_, ⟨?_, hnodup, hbound⟩, ?_⟩
    · have hrest : l.append p item = l₁.setNext a (some p) := by
        unfold LinkedQueue.append
        simp only
        split
        · rename_i hnone
          cases hhead.symm.trans hnone
        · simp [l₁] at hwalk
          simp [hwalk, l₁]
      rw [hrest]
      simp [setNext, hlast]
    · refine path_concat.mpr ⟨path_concat.mpr ⟨hys.setCell _ hapart, cells_setCell_self l₁ a _⟩, ?_⟩
      rw [cells_setCell_of_ne l₁ _ hne]
      exact cells_setCell_self l p _
    · intro q hq hqp
      have hqa : q ≠ a := fun heq => hq (by simp [heq])
      rw [cells_setCell_of_ne l₁ _ hqa]
      exact cells_setCell_of_ne l _ hqp

theorem Represents.search (h : l.Represents xs) {visit : α → Option (Option β)} {f : α → Option β}
    (hvisit : ∀ entry ∈ xs, visit entry.2 = some (f entry.2)) :
    l.search visit = some (firstMatch f none xs) :=
  walk_eq h.path h.bound fun _ _ _ hmem _ => hvisit _ hmem

/-- A cell is taken out from behind the one before it, or from the head. -/
theorem Represents.unlink (h : l.Represents (front ++ (p, item) :: back)) :
    ∃ l', l.unlink p (front.getLast?.map Prod.fst) = some l' ∧
      l'.Represents (front ++ back) ∧
      ∀ q, q ∉ front.map Prod.fst → l'.cells q = l.cells q := by
  have hnodup := h.nodup
  have hbound : (front ++ back).length ≤ l.made := by
    have hlen := h.bound
    simp only [List.length_append, List.length_cons] at hlen ⊢
    omega
  obtain ⟨mid, hfront, rfl, next, hcell, hback⟩ := path_append.mp h.path
  rw [List.map_append, List.map_cons, List.nodup_append] at hnodup
  obtain ⟨hnodup_front, hnodup_back, hapart⟩ := hnodup
  have hnodup' : ((front ++ back).map Prod.fst).Nodup := by
    rw [List.map_append, List.nodup_append]
    exact ⟨hnodup_front, (List.nodup_cons.mp hnodup_back).2,
      fun a ha b hb => hapart a ha b (List.mem_cons_of_mem _ hb)⟩
  rcases List.eq_nil_or_concat front with rfl | ⟨ys, ⟨a, last⟩, rfl⟩
  · refine ⟨{ l with head := next }, by simp [LinkedQueue.unlink, hcell], ⟨hback, hnodup', hbound⟩,
      fun _ _ => rfl⟩
  · rw [List.concat_eq_append] at *
    obtain ⟨hys, hlast⟩ := path_concat.mp hfront
    have hays : a ∉ ys.map Prod.fst := by
      rw [List.map_append, List.nodup_append] at hnodup_front
      exact fun hmem => hnodup_front.2.2 a hmem a (by simp) rfl
    have haback : a ∉ back.map Prod.fst := fun hmem =>
      hapart a (by simp) a (List.mem_cons_of_mem _ hmem) rfl
    refine ⟨l.setCell a (some ⟨last, next⟩), ?_, ⟨?_, hnodup', hbound⟩, ?_⟩
    · simp [LinkedQueue.unlink, hcell, setNext, hlast]
    · refine path_append.mpr ⟨next, ?_, hback.setCell _ haback⟩
      exact path_concat.mpr ⟨hys.setCell _ hays, cells_setCell_self l a _⟩
    · intro q hq
      exact cells_setCell_of_ne l _ fun heq => hq (by simp [heq])

end LinkedQueue

end Library
end DeviceAndroVM
