import Mathlib.Data.List.Basic

/-!
# Doubly linked lists in a heap

A list as a head pointer and nodes that point to the next and to the previous one.

* `DoublyLinked` — the head, the nodes that are allocated, and how many were ever made.
* `insertHead`, `find`, `remove` — the operations; there is no result when a node is read that
  is not allocated, or when a search goes on for longer than there can be nodes.
* `Segment` — a part of the list between two pointers, in both directions.
* `Represents` — the list of the addresses and items from the head on.
* `WellFormed` — the two directions are inverse to each other; `Represents.wellFormed`.
-/

namespace DeviceAndroVM
namespace Library

universe u

/-- A node: what it holds, and its two pointers. -/
structure DNode (α : Type u) where
  item : α
  next : Option Nat
  prev : Option Nat
  deriving DecidableEq

/-- The nodes at their addresses; `made` is the number of nodes inserted so far. -/
structure DoublyLinked (α : Type u) where
  head : Option Nat
  nodes : Nat → Option (DNode α)
  made : Nat

namespace DoublyLinked

variable {α : Type u}

def empty : DoublyLinked α := ⟨none, fun _ => none, 0⟩

def setNode (l : DoublyLinked α) (p : Nat) (node : Option (DNode α)) : DoublyLinked α :=
  { l with nodes := fun q => if q = p then node else l.nodes q }

/-- `p->next = next`. -/
def setNext (l : DoublyLinked α) (p : Nat) (next : Option Nat) : Option (DoublyLinked α) :=
  (l.nodes p).map fun node => l.setNode p (some { node with next })

/-- `p->prev = prev`. -/
def setPrev (l : DoublyLinked α) (p : Nat) (prev : Option Nat) : Option (DoublyLinked α) :=
  (l.nodes p).map fun node => l.setNode p (some { node with prev })

/-- `if (n) n->prev = prev`. -/
def setPrevOf (l : DoublyLinked α) (n prev : Option Nat) : Option (DoublyLinked α) :=
  match n with
  | some n => l.setPrev n prev
  | none => some l

/-- `if (n) n->next = next; else head = next`. -/
def setNextOf (l : DoublyLinked α) (n next : Option Nat) : Option (DoublyLinked α) :=
  match n with
  | some n => l.setNext n next
  | none => some { l with head := next }

/-- A new node in front of the others. -/
def insertHead (l : DoublyLinked α) (p : Nat) (item : α) : Option (DoublyLinked α) :=
  let l := { l.setNode p (some ⟨item, l.head, none⟩) with made := l.made + 1 }
  (l.setPrevOf l.head (some p)).map fun l => { l with head := some p }

/-- The loop `while (n && !test(n)) n = n->next`. -/
def findFrom (nodes : Nat → Option (DNode α)) (test : α → Bool) :
    Nat → Option Nat → Option (Option Nat)
  | _, none => some none
  | 0, some _ => none
  | fuel + 1, some n =>
      match nodes n with
      | none => none
      | some node => if test node.item then some (some n) else findFrom nodes test fuel node.next

def find (l : DoublyLinked α) (test : α → Bool) : Option (Option Nat) :=
  findFrom l.nodes test l.made l.head

/-- Take the node `n` out of the list and free it. -/
def remove (l : DoublyLinked α) (n : Nat) : Option (DoublyLinked α) :=
  (l.nodes n).bind fun node =>
    (l.setPrevOf node.next node.prev).bind fun l =>
      (l.setNextOf node.prev node.next).map fun l => l.setNode n none

/-! ## Segments -/

/-- From the pointer `p` on, the nodes are those of the list; the first one points back to
`prev`, the last one is `last` and points to `q`. -/
def Segment (nodes : Nat → Option (DNode α)) :
    Option Nat → Option Nat → List (Nat × α) → Option Nat → Option Nat → Prop
  | prev, p, [], last, q => prev = last ∧ p = q
  | prev, p, (a, item) :: rest, last, q =>
      p = some a ∧ ∃ next, nodes a = some ⟨item, next, prev⟩ ∧
        Segment nodes (some a) next rest last q

variable {nodes nodes' : Nat → Option (DNode α)} {prev p last q : Option Nat}
  {xs first second : List (Nat × α)}

theorem segment_append :
    Segment nodes prev p (first ++ second) last q ↔
      ∃ midprev mid, Segment nodes prev p first midprev mid ∧
        Segment nodes midprev mid second last q := by
  induction first generalizing prev p with
  | nil => simp [Segment]
  | cons entry rest ih =>
      obtain ⟨a, item⟩ := entry
      simp only [List.cons_append, Segment, ih]
      constructor
      · rintro ⟨hp, next, hnode, midprev, mid, hfirst, hsecond⟩
        exact ⟨midprev, mid, ⟨hp, next, hnode, hfirst⟩, hsecond⟩
      · rintro ⟨midprev, mid, ⟨hp, next, hnode, hfirst⟩, hsecond⟩
        exact ⟨hp, next, hnode, midprev, mid, hfirst, hsecond⟩

/-- A segment only depends on its nodes. -/
theorem Segment.congr (h : Segment nodes prev p xs last q)
    (hsame : ∀ a ∈ xs.map Prod.fst, nodes' a = nodes a) : Segment nodes' prev p xs last q := by
  induction xs generalizing prev p with
  | nil => exact h
  | cons entry rest ih =>
      obtain ⟨a, item⟩ := entry
      obtain ⟨hp, next, hnode, hrest⟩ := h
      refine ⟨hp, next, ?_, ih hrest fun b hb => hsame b (List.mem_cons_of_mem _ hb)⟩
      rw [hsame a List.mem_cons_self, hnode]

/-- The last node of a segment, and its pointers. -/
theorem segment_concat {a : Nat} {item : α} :
    Segment nodes prev p (xs ++ [(a, item)]) last q ↔
      ∃ back, Segment nodes prev p xs back (some a) ∧ nodes a = some ⟨item, q, back⟩ ∧
        last = some a := by
  rw [segment_append]
  constructor
  · rintro ⟨back, mid, hfirst, rfl, next, hnode, rfl, rfl⟩
    exact ⟨back, hfirst, hnode, rfl⟩
  · rintro ⟨back, hfirst, hnode, rfl⟩
    exact ⟨back, some a, hfirst, rfl, q, hnode, rfl, rfl⟩

theorem Segment.node_of_mem (h : Segment nodes prev p xs last q) {a : Nat} {item : α}
    (hmem : (a, item) ∈ xs) : ∃ next back, nodes a = some ⟨item, next, back⟩ := by
  obtain ⟨front, behind, rfl⟩ := List.append_of_mem hmem
  obtain ⟨midprev, mid, -, -, next, hnode, -⟩ := segment_append.mp h
  exact ⟨next, midprev, hnode⟩

/-- The search finds the first node that passes the test. -/
theorem findFrom_eq {test : α → Bool} {fuel : Nat} (h : Segment nodes prev p xs last none)
    (hfuel : xs.length ≤ fuel) :
    findFrom nodes test fuel p = some ((xs.find? fun entry => test entry.2).map Prod.fst) := by
  induction xs generalizing fuel prev p with
  | nil =>
      obtain rfl : p = none := h.2
      cases fuel <;> rfl
  | cons entry rest ih =>
      obtain ⟨a, item⟩ := entry
      obtain ⟨rfl, next, hnode, hrest⟩ := h
      cases fuel with
      | zero => simp at hfuel
      | succ fuel =>
          unfold findFrom
          rw [hnode]
          cases htest : test item with
          | true => simp [htest]
          | false => simpa [htest] using ih hrest (by simpa using hfuel)

/-! ## Writing nodes -/

variable {l : DoublyLinked α} {a n : Nat} {item : α} {back : List (Nat × α)} {next : Option Nat}

@[simp] theorem nodes_setNode_self (l : DoublyLinked α) (p : Nat) (node : Option (DNode α)) :
    (l.setNode p node).nodes p = node := by
  simp [setNode]

theorem nodes_setNode_of_ne (l : DoublyLinked α) {p q : Nat} (node : Option (DNode α))
    (hne : q ≠ p) : (l.setNode p node).nodes q = l.nodes q := by
  simp [setNode, hne]

/-- Writing a node outside a segment leaves the segment. -/
theorem Segment.setNode (h : Segment l.nodes prev p xs last q) (node : Option (DNode α))
    (ha : a ∉ xs.map Prod.fst) : Segment (l.setNode a node).nodes prev p xs last q :=
  h.congr fun _ hb => nodes_setNode_of_ne l node fun heq => ha (heq ▸ hb)

/-- The part behind a node is entered from another node. -/
theorem Segment.setPrevOf (h : Segment l.nodes prev next back last none)
    (hnodup : (back.map Prod.fst).Nodup) (prev' : Option Nat) :
    ∃ l' last', l.setPrevOf next prev' = some l' ∧ Segment l'.nodes prev' next back last' none ∧
      l'.head = l.head ∧ l'.made = l.made ∧
      ∀ a, a ∉ back.map Prod.fst → l'.nodes a = l.nodes a := by
  cases back with
  | nil =>
      obtain rfl : next = none := h.2
      exact ⟨l, prev', rfl, ⟨rfl, rfl⟩, rfl, rfl, fun _ _ => rfl⟩
  | cons entry rest =>
      obtain ⟨b, item⟩ := entry
      obtain ⟨rfl, next', hnode, hrest⟩ := h
      have hb : b ∉ rest.map Prod.fst := (List.nodup_cons.mp hnodup).1
      refine ⟨l.setNode b (some ⟨item, next', prev'⟩), last, ?_, ?_, rfl, rfl, ?_⟩
      · simp [DoublyLinked.setPrevOf, setPrev, hnode]
      · exact ⟨rfl, next', nodes_setNode_self l b _, hrest.setNode _ hb⟩
      · intro a ha
        exact nodes_setNode_of_ne l _ fun heq => ha (by simp [heq])

/-- The part before a node leads to another one. -/
theorem Segment.setNextOf (h : Segment l.nodes none l.head xs last q)
    (hnodup : (xs.map Prod.fst).Nodup) (q' : Option Nat) :
    ∃ l', l.setNextOf last q' = some l' ∧ Segment l'.nodes none l'.head xs last q' ∧
      l'.made = l.made ∧ ∀ a, a ∉ xs.map Prod.fst → l'.nodes a = l.nodes a := by
  rcases List.eq_nil_or_concat xs with rfl | ⟨ys, ⟨b, item⟩, rfl⟩
  · obtain ⟨rfl, -⟩ := h
    exact ⟨{ l with head := q' }, rfl, ⟨rfl, rfl⟩, rfl, fun _ _ => rfl⟩
  · rw [List.concat_eq_append] at *
    obtain ⟨back, hys, hnode, rfl⟩ := segment_concat.mp h
    have hb : b ∉ ys.map Prod.fst := by
      rw [List.map_append, List.nodup_append] at hnodup
      exact fun hmem => hnodup.2.2 b hmem b (by simp) rfl
    refine ⟨l.setNode b (some ⟨item, q', back⟩), ?_, ?_, rfl, ?_⟩
    · simp [DoublyLinked.setNextOf, setNext, hnode]
    · exact segment_concat.mpr ⟨back, hys.setNode _ hb, nodes_setNode_self l b _, rfl⟩
    · intro a ha
      exact nodes_setNode_of_ne l _ fun heq => ha (by simp [heq])

/-! ## The list a head pointer stands for -/

/-- From the head on, the nodes are those of the list, each at an address of its own. -/
structure Represents (l : DoublyLinked α) (xs : List (Nat × α)) : Prop where
  segment : ∃ last, Segment l.nodes none l.head xs last none
  nodup : (xs.map Prod.fst).Nodup
  bound : xs.length ≤ l.made

theorem represents_empty : (empty : DoublyLinked α).Represents [] :=
  ⟨⟨none, rfl, rfl⟩, List.nodup_nil, Nat.le_refl 0⟩

theorem Represents.find (h : l.Represents xs) (test : α → Bool) :
    l.find test = some ((xs.find? fun entry => test entry.2).map Prod.fst) := by
  obtain ⟨last, hsegment⟩ := h.segment
  exact findFrom_eq hsegment h.bound

/-- A new node stands in front of the others, and no node outside the list changes. -/
theorem Represents.insertHead (h : l.Represents xs) (hp : l.nodes n = none) (item : α) :
    ∃ l', l.insertHead n item = some l' ∧ l'.Represents ((n, item) :: xs) ∧
      ∀ a, a ∉ xs.map Prod.fst → a ≠ n → l'.nodes a = l.nodes a := by
  obtain ⟨last, hsegment⟩ := h.segment
  have hnew : n ∉ xs.map Prod.fst := by
    intro hmem
    obtain ⟨⟨b, item'⟩, hentry, rfl⟩ := List.mem_map.mp hmem
    obtain ⟨next, back, hnode⟩ := hsegment.node_of_mem hentry
    rw [hp] at hnode
    cases hnode
  let l₁ : DoublyLinked α := { l.setNode n (some ⟨item, l.head, none⟩) with made := l.made + 1 }
  have hsegment₁ : Segment l₁.nodes none l₁.head xs last none := hsegment.setNode _ hnew
  obtain ⟨l₂, last', hset, hsegment₂, hhead, hmade, hframe⟩ :=
    hsegment₁.setPrevOf h.nodup (some n)
  refine ⟨{ l₂ with head := some n }, ?_, ⟨⟨last', ?_⟩, ?_, ?_⟩, ?_⟩
  · change (l₁.setPrevOf l₁.head (some n)).map _ = _
    rw [hset]
    rfl
  · refine ⟨rfl, l₁.head, ?_, hsegment₂⟩
    change l₂.nodes n = _
    rw [hframe n hnew]
    exact nodes_setNode_self l n _
  · exact List.nodup_cons.mpr ⟨hnew, h.nodup⟩
  · change xs.length + 1 ≤ l₂.made
    rw [hmade]
    exact Nat.succ_le_succ h.bound
  · intro a ha hne
    change l₂.nodes a = l.nodes a
    rw [hframe a ha]
    exact nodes_setNode_of_ne l _ hne

/-- A node is taken out of the list and is gone; its neighbours point to each other. -/
theorem Represents.remove (h : l.Represents (xs ++ (n, item) :: back)) :
    ∃ l', l.remove n = some l' ∧ l'.Represents (xs ++ back) ∧ l'.nodes n = none := by
  obtain ⟨last, hsegment⟩ := h.segment
  obtain ⟨midprev, mid, hfront, rfl, next, hnode, hback⟩ := segment_append.mp hsegment
  have hnodup := h.nodup
  rw [List.map_append, List.map_cons, List.nodup_append] at hnodup
  obtain ⟨hnodup_front, hnodup_back, hapart⟩ := hnodup
  obtain ⟨hnback, hnodup_back⟩ := List.nodup_cons.mp hnodup_back
  have hnfront : n ∉ xs.map Prod.fst := fun hmem => hapart n hmem n List.mem_cons_self rfl
  have hfrontback : ∀ a ∈ xs.map Prod.fst, a ∉ back.map Prod.fst := fun a ha hb =>
    hapart a ha a (List.mem_cons_of_mem _ hb) rfl
  -- the next node points back past `n`
  obtain ⟨l₁, last', hset₁, hback₁, hhead₁, hmade₁, hframe₁⟩ := hback.setPrevOf hnodup_back midprev
  have hfront₁ : Segment l₁.nodes none l₁.head xs midprev (some n) := by
    rw [hhead₁]
    exact hfront.congr fun a ha => hframe₁ a (hfrontback a ha)
  -- and the one before it, or the head, points past `n`
  obtain ⟨l₂, hset₂, hfront₂, hmade₂, hframe₂⟩ := hfront₁.setNextOf hnodup_front next
  have hback₂ : Segment l₂.nodes midprev next back last' none :=
    hback₁.congr fun a ha => hframe₂ a fun hmem => hfrontback a hmem ha
  refine ⟨l₂.setNode n none, ?_, ⟨⟨last', ?_⟩, ?_, ?_⟩, nodes_setNode_self l₂ n none⟩
  · simp [DoublyLinked.remove, hnode, hset₁, hset₂]
  · exact segment_append.mpr ⟨midprev, next, hfront₂.setNode none hnfront,
      hback₂.setNode none hnback⟩
  · rw [List.map_append, List.nodup_append]
    exact ⟨hnodup_front, hnodup_back, fun a ha b hb heq => hfrontback a ha (heq ▸ hb)⟩
  · have hbound := h.bound
    change (xs ++ back).length ≤ l₂.made
    rw [hmade₂, hmade₁]
    simp only [List.length_append, List.length_cons] at hbound ⊢
    omega

/-! ## The two directions -/

/-- The nodes of the list are allocated, the first one points back to nothing, and the two
pointers are inverse to each other. -/
structure WellFormed (l : DoublyLinked α) (xs : List (Nat × α)) : Prop where
  head : l.head = xs.head?.map Prod.fst
  items : ∀ a item, (a, item) ∈ xs → ∃ next prev, l.nodes a = some ⟨item, next, prev⟩
  head_prev : ∀ a node, l.head = some a → l.nodes a = some node → node.prev = none
  inverse : ∀ a b nodeA nodeB, a ∈ xs.map Prod.fst → b ∈ xs.map Prod.fst →
    l.nodes a = some nodeA → l.nodes b = some nodeB → (nodeA.next = some b ↔ nodeB.prev = some a)

theorem Segment.start_eq (h : Segment nodes prev p xs last q) :
    p = (xs.head?.map Prod.fst).or q := by
  cases xs with
  | nil => exact h.2
  | cons entry rest => exact h.1

theorem Segment.last_eq (h : Segment nodes prev p xs last q) :
    last = (xs.getLast?.map Prod.fst).or prev := by
  rcases List.eq_nil_or_concat xs with rfl | ⟨ys, ⟨a, item⟩, rfl⟩
  · exact h.1.symm
  · rw [List.concat_eq_append] at *
    obtain ⟨-, -, -, rfl⟩ := segment_concat.mp h
    simp

/-- The pointers of a node lead to its neighbours in the list. -/
theorem Represents.node_eq (h : l.Represents (xs ++ (n, item) :: back)) :
    l.nodes n = some ⟨item, back.head?.map Prod.fst, xs.getLast?.map Prod.fst⟩ := by
  obtain ⟨last, hsegment⟩ := h.segment
  obtain ⟨midprev, mid, hfront, rfl, next, hnode, hback⟩ := segment_append.mp hsegment
  rw [hnode, hfront.last_eq, hback.start_eq, Option.or_none, Option.or_none]

theorem Represents.wellFormed (h : l.Represents xs) : l.WellFormed xs where
  head := by
    obtain ⟨last, hsegment⟩ := h.segment
    rw [hsegment.start_eq, Option.or_none]
  items := by
    intro a item hmem
    obtain ⟨last, hsegment⟩ := h.segment
    exact hsegment.node_of_mem hmem
  head_prev := by
    intro a node hhead hnode
    cases xs with
    | nil =>
        obtain ⟨last, -, hnone⟩ := h.segment
        cases hhead.symm.trans hnone
    | cons entry rest =>
        obtain ⟨last, heq, next, hfirst, -⟩ := h.segment
        obtain rfl := Option.some.inj (hhead.symm.trans heq)
        obtain rfl := Option.some.inj (hnode.symm.trans hfirst)
        rfl
  inverse := by
    intro a b nodeA nodeB ha hb hnodeA hnodeB
    obtain ⟨⟨a, itemA⟩, hentryA, rfl⟩ := List.mem_map.mp ha
    obtain ⟨⟨b, itemB⟩, hentryB, rfl⟩ := List.mem_map.mp hb
    constructor
    · intro hnext
      obtain ⟨front, behind, rfl⟩ := List.append_of_mem hentryA
      obtain rfl := Option.some.inj (hnodeA.symm.trans h.node_eq)
      cases behind with
      | nil => cases hnext
      | cons entry behind =>
          obtain ⟨next, item⟩ := entry
          obtain rfl : next = b := Option.some.inj hnext
          rw [List.append_cons] at h
          have hnode := h.node_eq
          obtain rfl := Option.some.inj (hnodeB.symm.trans hnode)
          simp
    · intro hprev
      obtain ⟨front, behind, rfl⟩ := List.append_of_mem hentryB
      obtain rfl := Option.some.inj (hnodeB.symm.trans h.node_eq)
      rcases List.eq_nil_or_concat front with rfl | ⟨ys, entry, rfl⟩
      · cases hprev
      · obtain ⟨prev, item⟩ := entry
        rw [List.concat_eq_append] at *
        obtain rfl : prev = a := by simpa using hprev
        rw [← List.append_cons] at h
        have hnode := h.node_eq
        obtain rfl := Option.some.inj (hnodeA.symm.trans hnode)
        rfl

end DoublyLinked

end Library
end DeviceAndroVM
