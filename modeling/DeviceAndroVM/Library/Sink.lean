import Mathlib.Data.List.Basic

/-!
# Where bytes are written to

A loop that writes piece after piece, to memory or to a stream, is followed without regard to
which of the two it is: all that counts is that two pieces one behind the other are written as
one.

* `Sink` — something that takes bytes, or fails.
* `Destination` — a place in a block of memory; `Destination.memcpy` writes there.
* `Sink.memory`, `Sink.stream` — the two sinks.
-/

namespace DeviceAndroVM
namespace Library

universe u

/-- A sink takes pieces of bytes one behind the other. -/
structure Sink (Out : Type u) where
  put : Out → List UInt8 → Option Out
  put_nil : ∀ out, put out [] = some out
  put_append : ∀ out piece more, put out (piece ++ more) = (put out piece).bind (put · more)

/-- A pointer into a block of memory, by the bytes in front of it and those from it on. -/
structure Destination where
  front : List UInt8
  room : List UInt8
  deriving DecidableEq

namespace Destination

/-- `memcpy` to the pointer, which then moves behind the bytes; there has to be room for
them. -/
def memcpy (dst : Destination) (bytes : List UInt8) : Option Destination :=
  if bytes.length ≤ dst.room.length then
    some { front := dst.front ++ bytes, room := dst.room.drop bytes.length }
  else none

variable {dst : Destination}

theorem memcpy_nil : dst.memcpy [] = some dst := by
  unfold memcpy
  rw [List.length_nil, if_pos (Nat.zero_le _), List.append_nil, List.drop_zero]

theorem memcpy_append (piece more : List UInt8) :
    dst.memcpy (piece ++ more) = (dst.memcpy piece).bind (·.memcpy more) := by
  unfold memcpy
  by_cases hpiece : piece.length ≤ dst.room.length
  · rw [if_pos hpiece, Option.bind_some]
    -- the second piece has the room that the first one leaves
    by_cases hmore : more.length ≤ (dst.room.drop piece.length).length
    · rw [if_pos hmore, if_pos, List.append_assoc, List.drop_drop, List.length_append]
      rw [List.length_drop] at hmore
      rw [List.length_append]
      omega
    · rw [if_neg hmore, if_neg]
      rw [List.length_drop] at hmore
      rw [List.length_append]
      omega
  · rw [if_neg hpiece, Option.bind_none, if_neg]
    rw [List.length_append]
    omega

end Destination

namespace Sink

/-- A block of memory, written by `memcpy`. -/
def memory : Sink Destination where
  put := Destination.memcpy
  put_nil := fun _ => Destination.memcpy_nil
  put_append := fun _ => Destination.memcpy_append

/-- A stream, by the bytes that it has been given to write. -/
def stream : Sink (List UInt8) where
  put := fun written bytes => some (written ++ bytes)
  put_nil := fun written => by rw [List.append_nil]
  put_append := fun written piece more => by rw [Option.bind_some, List.append_assoc]

end Sink

end Library
end DeviceAndroVM
