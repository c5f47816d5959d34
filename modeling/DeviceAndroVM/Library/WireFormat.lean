import DeviceAndroVM.Library.FixedRecords
import Mathlib.Algebra.Order.BigOperators.Group.List
import Mathlib.Algebra.Order.Group.Nat
import Mathlib.Data.BitVec

/-!
# Messages that carry their own size

A message is a header of two words, the operation and the size of the whole message, and
fields behind it: values of a fixed width, blocks with their size in front, and the sizes of
answers that are asked for.  Behind the fields stands room for these answers, whose bytes mean
nothing.

* `Field`, `FieldKind` — the fields, and what a reader must know of them.
* `decodeFields_encode` — fields are read back by their kinds.
* `Message` — a message and its bytes.
* `cut` — the first whole message of a stream; `cut_encode` and `cut_of_lt` say what it finds in
  a stream of which some or all has come.
* `decode_encode`, `cutAll_flatMap` — messages and streams of messages are read back.
* `cutAll_prefix` — so is any first part of a stream.
-/

namespace DeviceAndroVM
namespace Library

/-- What a reader knows of a field. -/
inductive FieldKind
  | fixed (width : Nat)
  | block
  | answer
  deriving DecidableEq, Repr

/-- A field: a value, a block of bytes, or the size of an answer that is asked for. -/
inductive Field
  | fixed (bytes : List UInt8)
  | block (bytes : List UInt8)
  | answer (size : Nat)
  deriving DecidableEq, Repr

namespace Field

def kind : Field → FieldKind
  | fixed bytes => .fixed bytes.length
  | block _ => .block
  | answer _ => .answer

/-- The bytes of a field in front of the room for answers. -/
def encode : Field → List UInt8
  | fixed bytes => bytes
  | block bytes => littleEndian 4 bytes.length ++ bytes
  | answer size => littleEndian 4 size

/-- The room for an answer. -/
def room : Field → Nat
  | answer size => size
  | fixed _ | block _ => 0

/-- The size of a block or of an answer fits in a word. -/
def Fits : Field → Prop
  | fixed _ => True
  | block bytes => bytes.length < 256 ^ 4
  | answer size => size < 256 ^ 4

end Field

/-- Read one word. -/
def readWord (stream : List UInt8) : Option (Nat × List UInt8) :=
  if stream.length < 4 then none else some (valueOf (stream.take 4), stream.drop 4)

/-- Read a number of bytes. -/
def readBytes (count : Nat) (stream : List UInt8) : Option (List UInt8 × List UInt8) :=
  if stream.length < count then none else some (stream.take count, stream.drop count)

/-- Read a field of a kind. -/
def FieldKind.decode (stream : List UInt8) : FieldKind → Option (Field × List UInt8)
  | fixed width => (readBytes width stream).map fun (bytes, rest) => (.fixed bytes, rest)
  | block =>
      (readWord stream).bind fun (size, rest) =>
        (readBytes size rest).map fun (bytes, rest) => (.block bytes, rest)
  | answer => (readWord stream).map fun (size, rest) => (.answer size, rest)

/-- Read fields of the given kinds. -/
def decodeFields : List FieldKind → List UInt8 → Option (List Field × List UInt8)
  | [], stream => some ([], stream)
  | kind :: kinds, stream =>
      (kind.decode stream).bind fun (field, rest) =>
        (decodeFields kinds rest).map fun (fields, rest) => (field :: fields, rest)

theorem readWord_append {value : Nat} (h : value < 256 ^ 4) (rest : List UInt8) :
    readWord (littleEndian 4 value ++ rest) = some (value, rest) := by
  have hlen := length_littleEndian 4 value
  have hlt : ¬ (littleEndian 4 value ++ rest).length < 4 := by
    rw [List.length_append]
    omega
  rw [readWord, if_neg hlt, List.take_left' hlen, List.drop_left' hlen, valueOf_littleEndian h]

theorem readBytes_append (bytes rest : List UInt8) :
    readBytes bytes.length (bytes ++ rest) = some (bytes, rest) := by
  have hlt : ¬ (bytes ++ rest).length < bytes.length := by
    rw [List.length_append]
    omega
  rw [readBytes, if_neg hlt, List.take_left' rfl, List.drop_left' rfl]

theorem Field.decode_kind {field : Field} (h : field.Fits) (rest : List UInt8) :
    field.kind.decode (field.encode ++ rest) = some (field, rest) := by
  cases field with
  | fixed bytes => simp [kind, encode, FieldKind.decode, readBytes_append]
  | block bytes =>
      simp only [kind, encode, FieldKind.decode, List.append_assoc]
      rw [readWord_append h]
      simp [readBytes_append]
  | answer size =>
      simp only [kind, encode, FieldKind.decode]
      rw [readWord_append h]
      rfl

/-- Fields are read back by their kinds, whatever stands behind them. -/
theorem decodeFields_encode {fields : List Field} (h : ∀ field ∈ fields, field.Fits)
    (rest : List UInt8) :
    decodeFields (fields.map Field.kind) (fields.flatMap Field.encode ++ rest) =
      some (fields, rest) := by
  induction fields with
  | nil => rfl
  | cons field fields ih =>
      have hfirst := h field List.mem_cons_self
      have hrest := ih fun f hf => h f (List.mem_cons_of_mem field hf)
      rw [List.map_cons, List.flatMap_cons, List.append_assoc, decodeFields,
        Field.decode_kind hfirst]
      simp [hrest]

/-! ## Messages -/

/-- An operation and its fields. -/
structure Message where
  op : Nat
  fields : List Field
  deriving DecidableEq, Repr

namespace Message

variable (m : Message)

/-- The bytes of the fields. -/
def body : List UInt8 := m.fields.flatMap Field.encode

/-- The room for all answers. -/
def room : Nat := (m.fields.map Field.room).sum

/-- The size of the whole message. -/
def size : Nat := 8 + m.body.length + m.room

/-- The kinds of the fields. -/
def kinds : List FieldKind := m.fields.map Field.kind

/-- The operation, the size and every size in the fields fit in a word. -/
structure Fits : Prop where
  op : m.op < 256 ^ 4
  size : m.size < 256 ^ 4

/-- The bytes of a message; `rest` is what stands in the room for the answers. -/
def encode (rest : List UInt8) : List UInt8 :=
  littleEndian 4 m.op ++ littleEndian 4 m.size ++ m.body ++ rest

variable {m} {rest : List UInt8}

theorem length_encode (hrest : rest.length = m.room) : (m.encode rest).length = m.size := by
  simp [encode, size, hrest]
  omega

/-- No block and no answer is larger than the message. -/
theorem Fits.field (h : m.Fits) {field : Field} (hfield : field ∈ m.fields) : field.Fits := by
  have hsize := h.size
  have hbody : field.encode.length ≤ m.body.length := by
    rw [body, List.length_flatMap]
    exact List.le_sum_of_mem (List.mem_map_of_mem hfield)
  have hroom : field.room ≤ m.room :=
    List.le_sum_of_mem (List.mem_map_of_mem hfield)
  cases field with
  | fixed bytes => exact trivial
  | block bytes =>
      simp only [Field.encode, List.length_append, length_littleEndian] at hbody
      simp only [Field.Fits]
      rw [Message.size] at hsize
      omega
  | answer size =>
      simp only [Field.room] at hroom
      simp only [Field.Fits]
      rw [Message.size] at hsize
      omega

end Message

/-! ## Streams -/

/-- The first message of a stream, if all of it has come. -/
def cut (stream : List UInt8) : Option (List UInt8 × List UInt8) :=
  if stream.length < 8 then none
  else
    let size := valueOf ((stream.drop 4).take 4)
    if size < 8 ∨ stream.length < size then none else some (stream.take size, stream.drop size)

/-- All messages of a stream, and what has come of the next. -/
def cutAll (stream : List UInt8) : List (List UInt8) × List UInt8 :=
  if stream.length < 8 then ([], stream)
  else
    let size := valueOf ((stream.drop 4).take 4)
    if size < 8 ∨ stream.length < size then ([], stream)
    else
      let (packets, rest) := cutAll (stream.drop size)
      (stream.take size :: packets, rest)
termination_by stream.length
decreasing_by
  rw [List.length_drop]
  omega

/-- Read a packet; `kinds` gives the fields of an operation. -/
def decodePacket (kinds : Nat → Option (List FieldKind)) (packet : List UInt8) : Option Message :=
  (readWord packet).bind fun (op, rest) =>
    (readWord rest).bind fun (_, rest) =>
      (kinds op).bind fun kinds =>
        (decodeFields kinds rest).map fun (fields, _) => ⟨op, fields⟩

theorem cutAll_eq (stream : List UInt8) :
    cutAll stream = match cut stream with
      | none => ([], stream)
      | some (packet, later) => (packet :: (cutAll later).1, (cutAll later).2) := by
  rw [cutAll, cut]
  split
  · rfl
  · dsimp only
    split
    · rfl
    · rfl

namespace Message

variable {m : Message} {rest : List UInt8}

/-- The size stands in the header. -/
theorem size_of_header (h : m.Fits) (rest later : List UInt8) :
    valueOf (((m.encode rest ++ later).drop 4).take 4) = m.size := by
  have hop : (littleEndian 4 m.op).length = 4 := length_littleEndian 4 _
  have hword : (littleEndian 4 m.size).length = 4 := length_littleEndian 4 _
  rw [encode, List.append_assoc, List.append_assoc, List.append_assoc, List.drop_left' hop,
    List.take_left' hword, valueOf_littleEndian h.size]

/-- A message that has come is cut off. -/
theorem cut_encode (h : m.Fits) (hrest : rest.length = m.room) (later : List UInt8) :
    cut (m.encode rest ++ later) = some (m.encode rest, later) := by
  have hlen := length_encode hrest
  have hsize : 8 ≤ m.size := by
    rw [size]
    omega
  have hall : (m.encode rest ++ later).length = m.size + later.length := by
    rw [List.length_append, hlen]
  have hshort : ¬ (m.encode rest ++ later).length < 8 := by omega
  have hcut : ¬ (m.size < 8 ∨ (m.encode rest ++ later).length < m.size) := by omega
  simp only [cut]
  rw [if_neg hshort, size_of_header h, if_neg hcut, List.take_left' hlen, List.drop_left' hlen]

/-- Nothing is cut off before all of a message has come. -/
theorem cut_of_lt (h : m.Fits) {stream later : List UInt8}
    (hstream : stream ++ later = m.encode rest) (hlt : stream.length < m.size) :
    cut stream = none := by
  unfold cut
  split
  · rfl
  · rename_i hlong
    have hheader : (stream.drop 4).take 4 = ((m.encode rest).drop 4).take 4 := by
      rw [← hstream, List.drop_append_of_le_length (by omega),
        List.take_append_of_le_length (by rw [List.length_drop]; omega)]
    have hsize := size_of_header h rest []
    rw [List.append_nil, ← hheader] at hsize
    simp only [hsize]
    rw [if_pos (Or.inr hlt)]

/-- A packet is read back when the kinds of its fields are known. -/
theorem decode_encode (h : m.Fits) {kinds : Nat → Option (List FieldKind)}
    (hkinds : kinds m.op = some m.kinds) (rest : List UInt8) :
    decodePacket kinds (m.encode rest) = some m := by
  unfold decodePacket encode
  rw [List.append_assoc, List.append_assoc, readWord_append h.op, Option.bind_some]
  dsimp only
  rw [readWord_append h.size, Option.bind_some]
  dsimp only
  rw [hkinds, Option.bind_some, Message.kinds, body,
    decodeFields_encode fun field hfield => h.field hfield]
  rfl

end Message

/-- A message with what stands in the room for its answers. -/
structure Sent where
  message : Message
  rest : List UInt8
  fits : message.Fits
  filled : rest.length = message.room

/-- The bytes of a message on the stream. -/
def Sent.packet (s : Sent) : List UInt8 := s.message.encode s.rest

theorem Sent.packet_ne_nil (s : Sent) : s.packet ≠ [] := by
  intro hnil
  have hlen := Message.length_encode s.filled
  rw [Sent.packet] at hnil
  rw [hnil, Message.size, List.length_nil] at hlen
  omega

/-- A stream of messages is cut into their packets, whatever has come of the next one. -/
theorem cutAll_flatMap (sent : List Sent) {later : List UInt8} (hlater : cut later = none) :
    cutAll (sent.flatMap Sent.packet ++ later) = (sent.map Sent.packet, later) := by
  induction sent with
  | nil =>
      rw [List.flatMap_nil, List.nil_append, cutAll_eq, hlater]
      rfl
  | cons s sent ih =>
      rw [List.flatMap_cons, List.append_assoc, cutAll_eq, Sent.packet,
        Message.cut_encode s.fits s.filled]
      dsimp only
      rw [ih]
      rfl

/-- Of a stream of messages, what has come is the packets of the first ones and a part of the
next, from which nothing is cut. -/
theorem cutAll_prefix {sent : List Sent} {stream : List UInt8}
    (hstream : stream <+: sent.flatMap Sent.packet) :
    ∃ count rest, cutAll stream = ((sent.take count).map Sent.packet, rest) ∧
      stream = (sent.take count).flatMap Sent.packet ++ rest ∧ cut rest = none := by
  induction sent generalizing stream with
  | nil =>
      obtain rfl : stream = [] := List.prefix_nil.mp hstream
      exact ⟨0, [], by rw [cutAll_eq]; rfl, rfl, rfl⟩
  | cons s sent ih =>
      obtain ⟨more, hmore⟩ := hstream
      rw [List.flatMap_cons] at hmore
      rcases List.append_eq_append_iff.mp hmore with ⟨late, hpacket, -⟩ | ⟨later, rfl, hlater⟩
      · by_cases hlate : late = []
        · -- all of the first packet and nothing of the next
          subst hlate
          rw [List.append_nil] at hpacket
          refine ⟨1, [], ?_, by simp [hpacket], rfl⟩
          have hcut := cutAll_flatMap [s] (rfl : cut [] = none)
          simpa [← hpacket] using hcut
        · have hlen := congrArg List.length hpacket
          have hpos := List.length_pos_iff.mpr hlate
          rw [List.length_append, Sent.packet, Message.length_encode s.filled] at hlen
          have hnone : cut stream = none :=
            Message.cut_of_lt s.fits hpacket.symm (by omega)
          exact ⟨0, stream, by rw [cutAll_eq, hnone]; rfl, rfl, hnone⟩
      · obtain ⟨count, rest, hcut, hsplit, hnone⟩ := ih ⟨more, hlater.symm⟩
        refine ⟨count + 1, rest, ?_, ?_, hnone⟩
        · rw [hsplit, ← List.append_assoc, ← List.flatMap_cons, ← List.take_succ_cons]
          exact cutAll_flatMap _ hnone
        · rw [List.take_succ_cons, List.flatMap_cons, List.append_assoc, ← hsplit]

end Library
end DeviceAndroVM
