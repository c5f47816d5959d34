import Mathlib.Data.List.Basic
import Mathlib.Data.List.Nodup

/-!
# A cursor in a linked list that other hands change

A search walks along a list node by node while others append nodes at the end
and take nodes out.  The cursor stands on a node; the node may have been taken
out under it.

* `fromNode` / `nextNode` — what the cursor has before it, and its next node.
* `Ahead` — an element the cursor has not walked past.
* `ahead_head`, `ahead_nextNode` — the walk itself never passes an element it
  did not look at.
* `ahead_concat`, `ahead_erase` — appending and taking out keep what is ahead.
-/

namespace DeviceAndroVM
namespace Library

universe u

variable {α : Type u} [DecidableEq α] {l : List α} {a b node : α}

/-- The list from the cursor's node on; nothing when the node is not in the list. -/
def fromNode (l : List α) (node : α) : List α := l.dropWhile (· != node)

/-- The node after the cursor's. -/
def nextNode (l : List α) (node : α) : Option α := (fromNode l node).tail.head?

theorem mem_of_mem_fromNode (h : a ∈ fromNode l node) : a ∈ l :=
  List.dropWhile_subset _ h

theorem fromNode_cons_self (rest : List α) : fromNode (node :: rest) node = node :: rest := by
  unfold fromNode
  rw [List.dropWhile_cons_of_neg (by simp)]

theorem fromNode_cons_of_ne (hne : b ≠ node) (rest : List α) :
    fromNode (b :: rest) node = fromNode rest node := by
  unfold fromNode
  rw [List.dropWhile_cons_of_pos (by simp [hne])]

/-- The element, while it is in the list, has not been walked past by a cursor
whose node is in the list. -/
def Ahead (l : List α) (node a : α) : Prop := node ∈ l → a ∈ l → a ∈ fromNode l node

/-- At the head of the list everything is ahead. -/
theorem ahead_head (h : l.head? = some node) : Ahead l node a := by
  intro _ ha
  cases l with
  | nil => cases h
  | cons first rest =>
      obtain rfl := Option.some.inj h
      rw [fromNode_cons_self]
      exact ha

/-- What is ahead and not the cursor's own node is on the list the next node heads. -/
theorem exists_nextNode (hnodup : l.Nodup) (h : a ∈ fromNode l node) (hne : a ≠ node) :
    ∃ next, nextNode l node = some next ∧ a ∈ fromNode l next := by
  induction l with
  | nil => cases h
  | cons first rest ih =>
      have hrest := hnodup.of_cons
      by_cases hfirst : first = node
      · subst hfirst
        rw [fromNode_cons_self] at h
        have ha : a ∈ rest := List.mem_of_ne_of_mem hne h
        cases rest with
        | nil => cases ha
        | cons next others =>
            have hnext : first ≠ next := by
              intro heq
              exact (List.nodup_cons.mp hnodup).1 (heq ▸ List.mem_cons_self)
            refine ⟨next, by simp [nextNode, fromNode_cons_self], ?_⟩
            rw [fromNode_cons_of_ne hnext, fromNode_cons_self]
            exact ha
      · rw [fromNode_cons_of_ne hfirst] at h
        obtain ⟨next, hnext, hmem⟩ := ih hrest h
        have hin : next ∈ rest := by
          unfold nextNode at hnext
          exact mem_of_mem_fromNode (List.mem_of_mem_tail (List.mem_of_head? hnext))
        have hne' : first ≠ next := by
          intro heq
          exact (List.nodup_cons.mp hnodup).1 (heq ▸ hin)
        refine ⟨next, ?_, ?_⟩
        · unfold nextNode at hnext ⊢
          rw [fromNode_cons_of_ne hfirst]
          exact hnext
        · rw [fromNode_cons_of_ne hne']
          exact hmem

theorem nextNode_mem {next : α} (h : nextNode l node = some next) : next ∈ l := by
  unfold nextNode at h
  exact mem_of_mem_fromNode (List.mem_of_mem_tail (List.mem_of_head? h))

/-- Walking on keeps ahead what is not the node looked at. -/
theorem ahead_nextNode {next : α} (hnodup : l.Nodup) (hnode : node ∈ l) (h : Ahead l node a)
    (hne : a ≠ node) (hnext : nextNode l node = some next) : Ahead l next a := by
  intro _ ha
  obtain ⟨next', hnext', hmem⟩ := exists_nextNode hnodup (h hnode ha) hne
  obtain rfl := Option.some.inj (hnext.symm.trans hnext')
  exact hmem

/-- At the end of the walk the element is not in the list. -/
theorem not_mem_of_nextNode_none (hnodup : l.Nodup) (hnode : node ∈ l) (h : Ahead l node a)
    (hne : a ≠ node) (hnext : nextNode l node = none) : a ∉ l := by
  intro ha
  obtain ⟨next, hsome, -⟩ := exists_nextNode hnodup (h hnode ha) hne
  rw [hnext] at hsome
  cases hsome

theorem fromNode_append (h : node ∈ l) (later : List α) :
    fromNode (l ++ later) node = fromNode l node ++ later := by
  induction l with
  | nil => cases h
  | cons first rest ih =>
      by_cases hfirst : first = node
      · subst hfirst
        rw [List.cons_append, fromNode_cons_self, fromNode_cons_self, List.cons_append]
      · have hin := List.mem_of_ne_of_mem (fun h => hfirst h.symm) h
        rw [List.cons_append, fromNode_cons_of_ne hfirst, fromNode_cons_of_ne hfirst, ih hin]

/-- A node appended at the end is ahead, and what was ahead stays so.  The
cursor's node itself is not the one appended. -/
theorem ahead_concat (h : Ahead l node a) (hne : node ≠ b) : Ahead (l ++ [b]) node a := by
  intro hnode ha
  have hin : node ∈ l := by
    rcases List.mem_append.mp hnode with hin | hlast
    · exact hin
    · exact absurd (List.mem_singleton.mp hlast) hne
  rw [fromNode_append hin]
  rcases List.mem_append.mp ha with hold | hlast
  · exact List.mem_append_left _ (h hin hold)
  · exact List.mem_append_right _ hlast

theorem mem_fromNode_erase (h : a ∈ fromNode l node) (ha : a ≠ b) (hnode : node ≠ b) :
    a ∈ fromNode (l.erase b) node := by
  induction l with
  | nil => cases h
  | cons first rest ih =>
      by_cases hfirst : first = node
      · subst hfirst
        rw [fromNode_cons_self] at h
        rw [List.erase_cons_tail (by simp [hnode]), fromNode_cons_self]
        exact List.mem_cons.mpr ((List.mem_cons.mp h).imp_right fun hin =>
          (List.mem_erase_of_ne ha).mpr hin)
      · rw [fromNode_cons_of_ne hfirst] at h
        by_cases hb : first = b
        · subst hb
          rw [List.erase_cons_head]
          exact h
        · rw [List.erase_cons_tail (by simp [hb]), fromNode_cons_of_ne hfirst]
          exact ih h

/-- Taking an element out of the list keeps what is ahead. -/
theorem ahead_erase (hnodup : l.Nodup) (h : Ahead l node a) : Ahead (l.erase b) node a := by
  intro hnode ha
  have hnode' := (hnodup.mem_erase_iff).mp hnode
  have ha' := (hnodup.mem_erase_iff).mp ha
  exact mem_fromNode_erase (h hnode'.2 ha'.2) ha'.1 hnode'.1

end Library
end DeviceAndroVM
