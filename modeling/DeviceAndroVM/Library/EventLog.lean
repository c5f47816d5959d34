import Mathlib.Data.List.Basic
import Mathlib.Data.List.Count

/-!
# Logs

A log is the list of what a component did, oldest event first.  A borrower takes items from a
lender and gives them back; an item given back may be the null item, which nobody holds.

* `EachEvent` — every event is good, given the events before it.
* `eachEvent_append` — logs in a row.
* `custody` — the items held after the events, when every item given back was held
  at that time; `custody_append` — events in a row.
* `count_take_of_custody` — an item is given back as often as it was taken, less
  what is still held.
-/

namespace DeviceAndroVM
namespace Library

section Log

universe u

variable {Event : Type u} {good : List Event → Event → Prop}

/-- Every event of the log is good, given `past` and the events before it. -/
def EachEvent (good : List Event → Event → Prop) : List Event → List Event → Prop
  | _, [] => True
  | past, e :: rest => good past e ∧ EachEvent good (past ++ [e]) rest

@[simp] theorem eachEvent_nil (past : List Event) : EachEvent good past [] := trivial

@[simp] theorem eachEvent_cons (past rest : List Event) (e : Event) :
    EachEvent good past (e :: rest) ↔ good past e ∧ EachEvent good (past ++ [e]) rest := Iff.rfl

theorem eachEvent_append (past first second : List Event) :
    EachEvent good past (first ++ second) ↔
      EachEvent good past first ∧ EachEvent good (past ++ first) second := by
  induction first generalizing past with
  | nil => simp
  | cons e rest ih =>
      rw [List.cons_append, eachEvent_cons, eachEvent_cons, ih, and_assoc, List.append_assoc,
        List.singleton_append]

instance decidableEachEvent [∀ past e, Decidable (good past e)] :
    ∀ past log : List Event, Decidable (EachEvent good past log)
  | _, [] => isTrue trivial
  | past, e :: rest =>
      have := decidableEachEvent (past ++ [e]) rest
      inferInstanceAs (Decidable (good past e ∧ EachEvent good (past ++ [e]) rest))

end Log

section Custody

universe u

/-- What a borrower does with an item; `give none` gives back the null item. -/
inductive CustodyEvent (α : Type u)
  | take (a : α)
  | give (a : Option α)
  deriving DecidableEq

variable {α : Type u} [DecidableEq α]

/-- The items held after the events, starting with the items `held`; there is no
result once something is given back that is not held. -/
def custody : List α → List (CustodyEvent α) → Option (List α)
  | held, [] => some held
  | held, .take a :: rest => custody (a :: held) rest
  | _, .give none :: _ => none
  | held, .give (some a) :: rest => if a ∈ held then custody (held.erase a) rest else none

@[simp] theorem custody_nil (held : List α) : custody held [] = some held := rfl

@[simp] theorem custody_take (held : List α) (a : α) (rest : List (CustodyEvent α)) :
    custody held (.take a :: rest) = custody (a :: held) rest := rfl

@[simp] theorem custody_give_none (held : List α) (rest : List (CustodyEvent α)) :
    custody held (.give none :: rest) = none := rfl

theorem custody_give (held : List α) (a : α) (rest : List (CustodyEvent α)) :
    custody held (.give (some a) :: rest) =
      if a ∈ held then custody (held.erase a) rest else none := rfl

@[simp] theorem custody_give_last (a : α) (rest : List (CustodyEvent α)) :
    custody [a] (.give (some a) :: rest) = custody [] rest := by
  simp [custody]

theorem custody_append (held : List α) (first second : List (CustodyEvent α)) :
    custody held (first ++ second) = (custody held first).bind fun h => custody h second := by
  induction first generalizing held with
  | nil => rfl
  | cons event rest ih =>
      cases event with
      | take a => exact ih (a :: held)
      | give item =>
          cases item with
          | none => rfl
          | some a =>
              rw [List.cons_append, custody_give, custody_give]
              split
              · exact ih (held.erase a)
              · rfl

/-- What is held accounts for every item: taken or held before, given back or still
held. -/
theorem count_take_of_custody {held held' : List α} {events : List (CustodyEvent α)}
    (h : custody held events = some held') (a : α) :
    events.count (.take a) + held.count a = events.count (.give (some a)) + held'.count a := by
  induction events generalizing held with
  | nil =>
      cases Option.some.inj h
      simp
  | cons event rest ih =>
      cases event with
      | take b =>
          have hrest := @ih (b :: held) h
          rw [List.count_cons, List.count_cons]
          rw [List.count_cons] at hrest
          by_cases hb : b = a
          · simp only [hb, beq_self_eq_true, if_true] at hrest ⊢
            simp only [reduceCtorEq, beq_iff_eq, if_false]
            omega
          · simp only [beq_iff_eq, hb, if_false, CustodyEvent.take.injEq, reduceCtorEq] at hrest ⊢
            omega
      | give item =>
          cases item with
          | none => cases h
          | some b =>
              rw [custody_give] at h
              split at h
              · rename_i hmem
                have hrest := ih h
                rw [List.count_cons, List.count_cons]
                rw [List.count_erase] at hrest
                by_cases hb : b = a
                · have hpos : 0 < held.count a := List.count_pos_iff.mpr (hb ▸ hmem)
                  simp only [hb, beq_self_eq_true, if_true] at hrest ⊢
                  simp only [reduceCtorEq, beq_iff_eq, if_false]
                  omega
                · simp only [beq_iff_eq, hb, if_false, CustodyEvent.give.injEq, reduceCtorEq,
                    Option.some.injEq] at hrest ⊢
                  omega
              · cases h

/-- When nothing is held in the end, every item was given back as often as it was
taken. -/
theorem count_take_eq_count_give {events : List (CustodyEvent α)}
    (h : custody [] events = some []) (a : α) :
    events.count (.take a) = events.count (.give (some a)) := by
  have hcount := count_take_of_custody h a
  simpa using hcount

end Custody

end Library
end DeviceAndroVM
