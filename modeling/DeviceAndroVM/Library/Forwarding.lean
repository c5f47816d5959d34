import Mathlib.Data.List.Basic

/-!
# Forwarding between endpoints

What a relay has read from each of its endpoints and written to each.

* `Streams` — the items received from the endpoints and sent to them.
* `Level`, `Behind` — everything received at one endpoint has been sent to the other, or a
  beginning of it.
* `Abreast`, `Ordered` — the same in both directions.
* `Between` — a block has been received and is still to be sent; `Abreast.receive` and
  `Between.send` are the two halves of forwarding it.
-/

namespace DeviceAndroVM
namespace Library

universe u v

variable {K : Type u} {α : Type v}

structure Streams (K : Type u) (α : Type v) where
  received : K → List α
  sent : K → List α

namespace Streams

def start : Streams K α := ⟨fun _ => [], fun _ => []⟩

def receive [DecidableEq K] (s : Streams K α) (a : K) (block : List α) : Streams K α :=
  { s with received := fun b => if b = a then s.received b ++ block else s.received b }

def send [DecidableEq K] (s : Streams K α) (a : K) (block : List α) : Streams K α :=
  { s with sent := fun b => if b = a then s.sent b ++ block else s.sent b }

@[simp] theorem send_nil [DecidableEq K] (s : Streams K α) (a : K) : s.send a [] = s := by
  unfold send
  simp

/-- Everything received from `a` has been sent to `b`. -/
def Level (s : Streams K α) (a b : K) : Prop := s.sent b = s.received a

/-- Nothing but what was received from `a` has been sent to `b`, in the same order. -/
def Behind (s : Streams K α) (a b : K) : Prop := s.sent b <+: s.received a

theorem Level.behind {s : Streams K α} {a b : K} (h : s.Level a b) : s.Behind a b :=
  ⟨[], (List.append_nil _).trans h⟩

end Streams

/-- A block from `a` is still to be sent to `b`; nothing is missing in the other direction. -/
structure Between (block : List α) (a b : K) (s : Streams K α) : Prop where
  forth : s.sent b ++ block = s.received a
  back : a ≠ b → s.Level b a

/-- Nothing is missing in either direction. -/
structure Abreast (a b : K) (s : Streams K α) : Prop where
  forth : s.Level a b
  back : s.Level b a

/-- Nothing is wrong in either direction. -/
structure Ordered (a b : K) (s : Streams K α) : Prop where
  forth : s.Behind a b
  back : s.Behind b a

variable {s : Streams K α} {a b : K} {block : List α}

theorem Abreast.start : Abreast a b (Streams.start : Streams K α) := ⟨rfl, rfl⟩

theorem Abreast.symm (h : Abreast a b s) : Abreast b a s := ⟨h.back, h.forth⟩

theorem Ordered.symm (h : Ordered a b s) : Ordered b a s := ⟨h.back, h.forth⟩

theorem Abreast.ordered (h : Abreast a b s) : Ordered a b s := ⟨h.forth.behind, h.back.behind⟩

theorem Between.ordered (h : Between block a b s) : Ordered a b s := by
  have hforth : s.Behind a b := ⟨block, h.forth⟩
  -- an endpoint that is its own peer has one direction only
  by_cases heq : a = b
  · subst heq
    exact ⟨hforth, hforth⟩
  · exact ⟨hforth, (h.back heq).behind⟩

theorem Between.abreast (h : Between [] a b s) : Abreast a b s := by
  have hforth : s.Level a b := by
    have hall := h.forth
    rw [List.append_nil] at hall
    exact hall
  by_cases heq : a = b
  · subst heq
    exact ⟨hforth, hforth⟩
  · exact ⟨hforth, h.back heq⟩

theorem Abreast.receive [DecidableEq K] (h : Abreast a b s) (block : List α) :
    Between block a b (s.receive a block) where
  forth := by
    show s.sent b ++ block = if a = a then s.received a ++ block else s.received a
    rw [if_pos rfl, ← h.forth]
  back hne := by
    show s.sent a = if b = a then s.received b ++ block else s.received b
    rw [if_neg hne.symm]
    exact h.back

theorem Between.send [DecidableEq K] (h : Between block a b s) : Between [] a b (s.send b block) where
  forth := by
    show (if b = b then s.sent b ++ block else s.sent b) ++ [] = s.received a
    rw [if_pos rfl, List.append_nil, h.forth]
  back hne := by
    show (if a = b then s.sent a ++ block else s.sent a) = s.received b
    rw [if_neg hne]
    exact h.back hne

end Library
end DeviceAndroVM
