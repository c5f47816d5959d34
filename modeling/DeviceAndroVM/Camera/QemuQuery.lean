import DeviceAndroVM.Camera.EmulatedCameraDevice
import DeviceAndroVM.Library.StringBlock

/-!
# Queries and their replies

The class `QemuQuery` of `QemuClient.cpp`: a query is text in a buffer of its own, and its reply is
counted bytes with a prefix of three.

* `QemuQuery` — the members; `memory` is the block that `mQuery` points to.
* `createQuery` — writes the text; there is no result when that leaves the block.
* `completeQuery` — takes a reply apart; `ReplyRead` tells what it reads of it.
* `ReplyGrammar` — the replies that the comments describe.
* `completeQuery_spec` — a reply is too short, or rejected and logged, or it is one of these.
* `query_grammar` — the text of every query, and the parts of every reply.
-/

namespace DeviceAndroVM
namespace Camera

open Library

/-- What is read of a reply: counted bytes of the buffer, the string that the buffer has at an
offset, or the string that a copy of the data begins with. -/
inductive ReplyRead
  | bytes (offset count : Nat)
  | string (offset : Nat)
  | copied
  deriving DecidableEq

/-- The members of `QemuQuery`.  `mQuery` is the block on the heap that it points to, if it does not
point to `mQueryPrealloc`; `mReplyData` is an offset in the reply buffer. -/
structure QemuQuery where
  mQueryPrealloc : List UInt8
  mQuery : Option (List UInt8)
  mQueryDeliveryStatus : status_t
  mReplyBuffer : Option (List UInt8)
  mReplyData : Option Nat
  mReplySize : Nat
  mReplyDataSize : Nat
  mReplyStatus : Int
  prealloc_length : mQueryPrealloc.length = 256

namespace QemuQuery

/-- The block that `mQuery` points to. -/
def memory (q : QemuQuery) : List UInt8 := q.mQuery.getD q.mQueryPrealloc

def resetQuery (q : QemuQuery) : QemuQuery :=
  { q with
    mQuery := none
    mQueryDeliveryStatus := NO_ERROR
    mReplyBuffer := none
    mReplyData := none
    mReplySize := 0
    mReplyDataSize := 0
    mReplyStatus := 0 }

/-- Bytes are written from the beginning of the block on. -/
def write (q : QemuQuery) (text : List UInt8) : Option QemuQuery :=
  match q.mQuery with
  | some block => (store block 0 text).map fun block => { q with mQuery := some block }
  | none =>
      match hstore : store q.mQueryPrealloc 0 text with
      | some block =>
          some { q with
            mQueryPrealloc := block
            prealloc_length := (length_store hstore).trans q.prealloc_length }
      | none => none

/-- `new` is what the allocator answers for a size: the bytes that are there already. -/
def createQuery (q : QemuQuery) (new : Nat → Option (Nat → UInt8)) (name param : Option CString) :
    Option (status_t × QemuQuery) :=
  let q := q.resetQuery
  match name with
  | none | some [] => some (EINVAL, { q with mQueryDeliveryStatus := EINVAL })
  | some name =>
      let param := param.getD []
      let required := name.length + if param.length ≠ 0 then param.length + 2 else 1
      let text := if param.length ≠ 0 then name ++ 0x20 :: (param ++ [0]) else name ++ [0]
      if 256 < required then
        match new required with
        | none => some (ENOMEM, { q with mQueryDeliveryStatus := ENOMEM })
        | some bytes =>
            ({ q with mQuery := some ((List.range required).map bytes) }.write text).map
              fun q => (NO_ERROR, q)
      else (q.write text).map fun q => (NO_ERROR, q)

/-- The reply is `payload`. -/
def received (q : QemuQuery) (payload : List UInt8) : QemuQuery :=
  { q with mReplyBuffer := some payload, mReplySize := payload.length }

def isQuerySucceeded (q : QemuQuery) : Bool :=
  q.mQueryDeliveryStatus == NO_ERROR && q.mReplyStatus != 0

def getCompletionStatus (q : QemuQuery) : status_t :=
  if q.mQueryDeliveryStatus = NO_ERROR then if q.mReplyStatus ≠ 0 then NO_ERROR else EINVAL
  else q.mQueryDeliveryStatus

/-- The bytes `ok` and `ko`. -/
def status : Bool → List UInt8
  | true => [0x6F, 0x6B]
  | false => [0x6B, 0x6F]

/-- The reply is rejected, and logged as a string. -/
def rejectReply (q : QemuQuery) (reads : List ReplyRead) :
    status_t × QemuQuery × List ReplyRead :=
  (EINVAL, { q with mQueryDeliveryStatus := EINVAL }, reads ++ [.string 0])

/-- What follows `ok` or `ko` in `completeQuery`. -/
def completeData (q : QemuQuery) (reply : List UInt8) (reads : List ReplyRead) :
    status_t × QemuQuery × List ReplyRead :=
  let reads := reads ++ [.bytes 2 1]
  if 3 < q.mReplySize then
    if reply[2]? ≠ some 0x3A then q.rejectReply reads
    else
      (NO_ERROR, { q with mReplyData := some 3, mReplyDataSize := q.mReplySize - 3 }, reads)
  else if reply[2]? ≠ some 0 then q.rejectReply reads
  else (NO_ERROR, q, reads)

def completeQuery (q : QemuQuery) (delivery : status_t) :
    status_t × QemuQuery × List ReplyRead :=
  let q := { q with mQueryDeliveryStatus := delivery }
  if delivery ≠ NO_ERROR then (delivery, q, [])
  else
    match q.mReplyBuffer with
    | none => (EINVAL, { q with mQueryDeliveryStatus := EINVAL }, [])
    | some reply =>
        if q.mReplySize < 3 then (EINVAL, { q with mQueryDeliveryStatus := EINVAL }, [])
        else if reply.take 2 = status true then
          { q with mReplyStatus := 1 }.completeData reply [.bytes 0 2]
        else if reply.take 2 = status false then
          { q with mReplyStatus := 0 }.completeData reply [.bytes 0 2, .bytes 0 2]
        else q.rejectReply [.bytes 0 2, .bytes 0 2]

/-- The bytes that `mReplyData` and `mReplyDataSize` stand for. -/
def replyData (q : QemuQuery) : List UInt8 :=
  match q.mReplyBuffer, q.mReplyData with
  | some reply, some offset => (reply.drop offset).take q.mReplyDataSize
  | _, _ => []

/-! ## The text of a query -/

theorem length_memory (q : QemuQuery) (h : q.mQuery = none) : q.memory.length = 256 := by
  rw [memory, h]
  exact q.prealloc_length

/-- Text that is not longer than the block is what the block then begins with. -/
theorem write_spec (q : QemuQuery) {text : List UInt8} (hroom : text.length ≤ q.memory.length) :
    ∃ q', q.write text = some q' ∧ q'.memory.take text.length = text ∧
      q'.memory.length = q.memory.length := by
  have hfits : 0 + text.length ≤ q.memory.length := by omega
  obtain ⟨block, hblock⟩ := exists_store_iff.mpr hfits
  have hlength := length_store hblock
  have htake := take_store hblock
  rw [List.take_zero, List.nil_append, Nat.zero_add] at htake
  unfold write
  unfold memory at *
  cases hquery : q.mQuery with
  | some old =>
      rw [hquery, Option.getD_some] at hblock hlength
      dsimp only
      rw [hblock]
      exact ⟨_, rfl, htake, hlength⟩
  | none =>
      rw [hquery, Option.getD_none] at hblock hlength
      dsimp only
      split
      · rename_i block' hblock'
        obtain rfl := Option.some.inj (hblock'.symm.trans hblock)
        exact ⟨_, rfl, htake, hlength⟩
      · rename_i hnone
        rw [hblock] at hnone
        cases hnone

theorem reply_of_write {q q' : QemuQuery} {text : List UInt8} (h : q.write text = some q') :
    q'.mReplyData = q.mReplyData ∧ q'.mReplyDataSize = q.mReplyDataSize := by
  unfold write at h
  split at h
  · obtain ⟨block, -, rfl⟩ := Option.map_eq_some_iff.mp h
    exact ⟨rfl, rfl⟩
  · split at h
    · cases h
      exact ⟨rfl, rfl⟩
    · cases h

/-- The text of a query: the name alone, or with a space and the parameters, and the terminator. -/
def queryText (name param : CString) : List UInt8 :=
  if param = [] then name ++ [0] else name ++ 0x20 :: (param ++ [0])

/-- The allocator has a block, if the text needs one. -/
def HasRoom (new : Nat → Option (Nat → UInt8)) (name param : CString) : Prop :=
  256 < (queryText name param).length → new (queryText name param).length ≠ none

/-- A query with a name that finds room is made: the block begins with its text, and nothing is left
of an earlier reply. -/
theorem createQuery_spec (q : QemuQuery) {new : Nat → Option (Nat → UInt8)} {name : CString}
    {param : Option CString} (hname : name ≠ []) (hroom : HasRoom new name (param.getD [])) :
    ∃ q', q.createQuery new (some name) param = some (NO_ERROR, q') ∧
      q'.memory.take (queryText name (param.getD [])).length = queryText name (param.getD []) ∧
      (queryText name (param.getD [])).length ≤ q'.memory.length ∧ q'.mReplyData = none ∧
      q'.mReplyDataSize = 0 := by
  obtain ⟨c, rest, rfl⟩ := List.exists_cons_of_ne_nil hname
  have hrequired : ((c :: rest).length + if (param.getD []).length ≠ 0 then
      (param.getD []).length + 2 else 1) = (queryText (c :: rest) (param.getD [])).length := by
    unfold queryText
    cases param.getD [] with
    | nil => simp
    | cons d others => simp; omega
  have htext : (if (param.getD []).length ≠ 0 then c :: rest ++ 0x20 :: (param.getD [] ++ [0])
      else c :: rest ++ [0]) = queryText (c :: rest) (param.getD []) := by
    unfold queryText
    cases param.getD [] <;> simp
  unfold createQuery
  dsimp only
  rw [hrequired, htext]
  unfold HasRoom at hroom
  generalize queryText (c :: rest) (param.getD []) = text at hroom ⊢
  by_cases hlarge : 256 < text.length
  · obtain ⟨bytes, hbytes⟩ := Option.ne_none_iff_exists'.mp (hroom hlarge)
    rw [if_pos hlarge, hbytes]
    have hblock : ((List.range text.length).map bytes).length = text.length := by simp
    obtain ⟨q', hq', htake, hlength⟩ := write_spec
      { q.resetQuery with mQuery := some ((List.range text.length).map bytes) }
      (show text.length ≤ _ from hblock.ge)
    dsimp only
    rw [hq']
    exact ⟨q', rfl, htake, hlength ▸ hblock.ge, reply_of_write hq'⟩
  · have hlength₀ := length_memory q.resetQuery rfl
    obtain ⟨q', hq', htake, hlength⟩ := write_spec q.resetQuery
      (show text.length ≤ _ from by omega)
    rw [if_neg hlarge, hq']
    exact ⟨q', rfl, htake, by omega, reply_of_write hq'⟩

/-! ## The parts of a reply -/

/-- A reply tells whether the query was successful, and may have data. -/
inductive ReplyGrammar : List UInt8 → Bool → List UInt8 → Prop
  | bare (ok : Bool) : ReplyGrammar (status ok ++ [0]) ok []
  | data (ok : Bool) (c : UInt8) (rest : List UInt8) :
      ReplyGrammar (status ok ++ 0x3A :: c :: rest) ok (c :: rest)

theorem three_le_of_replyGrammar {payload : List UInt8} {ok : Bool} {data : List UInt8}
    (h : ReplyGrammar payload ok data) : payload.length = 3 + data.length := by
  cases h with
  | bare => cases ok <;> rfl
  | data c rest => cases ok <;> simp [status] <;> omega

/-- Only the prefix is read. -/
def ReadsPrefix (reads : List ReplyRead) : Prop :=
  ∀ read ∈ reads, ∃ offset count, read = .bytes offset count ∧ offset + count ≤ 3

/-- What `completeQuery` leaves of a reply, with data or without. -/
structure Accepted (q : QemuQuery) (payload : List UInt8) (ok : Bool) (data : List UInt8)
    (r : status_t × QemuQuery × List ReplyRead) : Prop where
  answer : r.1 = NO_ERROR
  mQueryDeliveryStatus : r.2.1.mQueryDeliveryStatus = NO_ERROR
  mReplyBuffer : r.2.1.mReplyBuffer = some payload
  mReplyStatus : r.2.1.mReplyStatus = if ok then 1 else 0
  mReplyData : r.2.1.mReplyData = if data = [] then q.mReplyData else some 3
  mReplyDataSize : r.2.1.mReplyDataSize = if data = [] then q.mReplyDataSize else data.length
  reads : ReadsPrefix r.2.2

/-- What it leaves of a reply that it rejects and logs. -/
structure Rejected (q : QemuQuery) (r : status_t × QemuQuery × List ReplyRead) : Prop where
  answer : r.1 = EINVAL
  mQueryDeliveryStatus : r.2.1.mQueryDeliveryStatus = EINVAL
  mReplyData : r.2.1.mReplyData = q.mReplyData
  reads : ∃ reads, r.2.2 = reads ++ [.string 0] ∧ ReadsPrefix reads

theorem readsPrefix_status : ReadsPrefix [.bytes 0 2, .bytes 0 2] := by
  intro read hread
  simp only [List.mem_cons, List.not_mem_nil, or_false, or_self] at hread
  exact ⟨0, 2, hread, by decide⟩

theorem ReadsPrefix.separator {reads : List ReplyRead} (h : ReadsPrefix reads) :
    ReadsPrefix (reads ++ [.bytes 2 1]) := by
  intro read hread
  rcases List.mem_append.mp hread with hread | hread
  · exact h read hread
  · exact ⟨2, 1, List.mem_singleton.mp hread, by decide⟩

theorem rejected_rejectReply {q q' : QemuQuery} {reads : List ReplyRead}
    (hdata : q'.mReplyData = q.mReplyData) (hreads : ReadsPrefix reads) :
    q.Rejected (q'.rejectReply reads) := ⟨rfl, rfl, hdata, reads, rfl, hreads⟩

/-- Behind `ok` and `ko` there must be a terminator at the end, or a colon and data. -/
theorem completeData_spec {q q' : QemuQuery} (ok : Bool) {c : UInt8} {rest : List UInt8}
    {reads : List ReplyRead} (hdata : q'.mReplyData = q.mReplyData)
    (hdataSize : q'.mReplyDataSize = q.mReplyDataSize)
    (hdelivery : q'.mQueryDeliveryStatus = NO_ERROR)
    (hbuffer : q'.mReplyBuffer = some (status ok ++ c :: rest))
    (hsize : q'.mReplySize = (status ok ++ c :: rest).length)
    (hstatus : q'.mReplyStatus = if ok then 1 else 0) (hreads : ReadsPrefix reads) :
    (q.Rejected (q'.completeData (status ok ++ c :: rest) reads) ∧
        ¬∃ ok' data, ReplyGrammar (status ok ++ c :: rest) ok' data) ∨
      ∃ data, ReplyGrammar (status ok ++ c :: rest) ok data ∧
        q.Accepted (status ok ++ c :: rest) ok data
          (q'.completeData (status ok ++ c :: rest) reads) := by
  have hthird : (status ok ++ c :: rest)[2]? = some c := by cases ok <;> rfl
  have hlength : (status ok ++ c :: rest).length = rest.length + 3 := by
    cases ok <;> simp [status]
  have hgrammar : ∀ ok' data, ReplyGrammar (status ok ++ c :: rest) ok' data →
      (c = 0 ∧ rest = []) ∨ (c = 0x3A ∧ rest ≠ []) := by
    intro ok' data h
    generalize hpayload : status ok ++ c :: rest = payload at h
    cases h with
    | bare => cases ok <;> cases ok' <;> simp_all [status]
    | data d others => cases ok <;> cases ok' <;> simp_all [status]
  unfold completeData
  rw [hsize, hlength, hthird]
  dsimp only
  cases rest with
  | nil =>
      rw [if_neg (by simp)]
      by_cases hc : c = 0
      · subst hc
        rw [if_neg (by simp)]
        exact Or.inr ⟨[], .bare ok, rfl, hdelivery, hbuffer, hstatus, by simpa using hdata,
          by simpa using hdataSize, hreads.separator⟩
      · rw [if_pos (by simpa using hc)]
        refine Or.inl ⟨rejected_rejectReply hdata hreads.separator, ?_⟩
        rintro ⟨ok', data, h⟩
        rcases hgrammar ok' data h with ⟨rfl, -⟩ | ⟨-, hne⟩
        · exact hc rfl
        · exact hne rfl
  | cons d others =>
      rw [if_pos (by simp)]
      by_cases hc : c = 0x3A
      · subst hc
        rw [if_neg (by simp)]
        exact Or.inr ⟨d :: others, .data ok d others, rfl, hdelivery, hbuffer, hstatus, by simp,
          by simp, hreads.separator⟩
      · rw [if_pos (by simpa using hc)]
        refine Or.inl ⟨rejected_rejectReply hdata hreads.separator, ?_⟩
        rintro ⟨ok', data, h⟩
        rcases hgrammar ok' data h with ⟨-, hnil⟩ | ⟨rfl, -⟩
        · cases hnil
        · exact hc rfl

/-- A reply is too short, or it is rejected, or it is one of the grammar and taken apart. -/
theorem completeQuery_spec (q : QemuQuery) (payload : List UInt8) :
    (payload.length < 3 ∧ (q.received payload).completeQuery NO_ERROR =
        (EINVAL, { q.received payload with mQueryDeliveryStatus := EINVAL }, [])) ∨
      (3 ≤ payload.length ∧ q.Rejected ((q.received payload).completeQuery NO_ERROR) ∧
        ¬∃ ok data, ReplyGrammar payload ok data) ∨
      ∃ ok data, ReplyGrammar payload ok data ∧
        q.Accepted payload ok data ((q.received payload).completeQuery NO_ERROR) := by
  match payload with
  | [] | [_] | [_, _] => exact Or.inl ⟨by simp, rfl⟩
  | a :: b :: c :: rest =>
      right
      have hlong : ¬(a :: b :: c :: rest).length < 3 := by simp
      unfold completeQuery received
      dsimp only
      rw [if_neg (by simp), if_neg hlong]
      by_cases hok : (a :: b :: c :: rest).take 2 = status true
      · rw [if_pos hok]
        have hpayload : a :: b :: c :: rest = status true ++ c :: rest := by
          rw [← hok]
          rfl
        rw [hpayload]
        exact Or.imp (fun h => ⟨by simp [status], h⟩) (fun h => ⟨true, h⟩)
          (completeData_spec true rfl rfl rfl rfl rfl rfl
            fun read hread => ⟨0, 2, List.mem_singleton.mp hread, by decide⟩)
      · rw [if_neg hok]
        by_cases hko : (a :: b :: c :: rest).take 2 = status false
        · rw [if_pos hko]
          have hpayload : a :: b :: c :: rest = status false ++ c :: rest := by
            rw [← hko]
            rfl
          rw [hpayload]
          exact Or.imp (fun h => ⟨by simp [status], h⟩) (fun h => ⟨false, h⟩)
            (completeData_spec false rfl rfl rfl rfl rfl rfl readsPrefix_status)
        · rw [if_neg hko]
          refine Or.inl ⟨by simp, rejected_rejectReply rfl readsPrefix_status, ?_⟩
          rintro ⟨ok, data, h⟩
          generalize hpayload : a :: b :: c :: rest = payload at h
          cases h with
          | bare => cases ok <;> simp_all [status]
          | data d others => cases ok <;> simp_all [status]

/-! ## Queries as a whole -/

/-- The block has room for the text, and begins with it. -/
def HoldsText (q : QemuQuery) (text : List UInt8) : Prop :=
  text.length ≤ q.memory.length ∧ q.memory.take text.length = text

/-- Exactly the replies of the grammar are accepted, and taken apart as that says. -/
structure TakesApart (q : QemuQuery) (payload : List UInt8) : Prop where
  accepts : ((q.received payload).completeQuery NO_ERROR).1 = NO_ERROR ↔
    ∃ ok data, ReplyGrammar payload ok data
  parts : ∀ ok data, ReplyGrammar payload ok data →
    ((q.received payload).completeQuery NO_ERROR).2.1.mReplyStatus = (if ok then 1 else 0) ∧
      ((q.received payload).completeQuery NO_ERROR).2.1.replyData = data ∧
        ((q.received payload).completeQuery NO_ERROR).2.1.mReplyDataSize = data.length

/-- The data of a reply begin behind its prefix. -/
theorem drop_three_of_replyGrammar {payload : List UInt8} {ok : Bool} {data : List UInt8}
    (h : ReplyGrammar payload ok data) : payload.drop 3 = data := by
  cases h with
  | bare => cases ok <;> rfl
  | data c rest => cases ok <;> rfl

/-- A reply has one meaning. -/
theorem replyGrammar_unique {payload : List UInt8} {ok ok' : Bool} {data data' : List UInt8}
    (h : ReplyGrammar payload ok data) (h' : ReplyGrammar payload ok' data') :
    ok = ok' ∧ data = data' := by
  have hstatus : ∀ {ok data}, ReplyGrammar payload ok data → payload.take 2 = status ok := by
    intro ok data h
    cases h with
    | bare => cases ok <;> rfl
    | data c rest => cases ok <;> rfl
  refine ⟨?_, (drop_three_of_replyGrammar h).symm.trans (drop_three_of_replyGrammar h')⟩
  have hsame := (hstatus h).symm.trans (hstatus h')
  cases ok <;> cases ok' <;> first | rfl | exact absurd hsame (by decide)

theorem Accepted.replyData {q : QemuQuery} {payload : List UInt8} {ok : Bool} {data : List UInt8}
    {r : status_t × QemuQuery × List ReplyRead} (h : q.Accepted payload ok data r)
    (hgrammar : ReplyGrammar payload ok data) (hnone : q.mReplyData = none) :
    r.2.1.replyData = data := by
  unfold QemuQuery.replyData
  rw [h.mReplyBuffer, h.mReplyData, h.mReplyDataSize, hnone]
  cases data with
  | nil => rfl
  | cons c rest =>
      simp only [reduceCtorEq, if_false]
      rw [drop_three_of_replyGrammar hgrammar, List.take_length]

theorem takesApart {q : QemuQuery} (hnone : q.mReplyData = none) (hsize : q.mReplyDataSize = 0)
    (payload : List UInt8) : q.TakesApart payload := by
  rcases completeQuery_spec q payload with ⟨hshort, heq⟩ | ⟨-, hrejected, hno⟩ |
    ⟨ok, data, hgrammar, haccepted⟩
  · have hno : ∀ ok data, ¬ReplyGrammar payload ok data := by
      intro ok data h
      have hlength := three_le_of_replyGrammar h
      omega
    have herror : ((q.received payload).completeQuery NO_ERROR).1 ≠ NO_ERROR := by
      rw [heq]
      exact (by decide : EINVAL ≠ NO_ERROR)
    refine ⟨iff_of_false herror ?_, fun ok data h => absurd h (hno ok data)⟩
    rintro ⟨ok, data, h⟩
    exact hno ok data h
  · exact ⟨iff_of_false (by rw [hrejected.answer]; decide) hno,
      fun ok data h => absurd ⟨ok, data, h⟩ hno⟩
  · refine ⟨iff_of_true haccepted.answer ⟨ok, data, hgrammar⟩, ?_⟩
    intro ok' data' h
    obtain ⟨rfl, rfl⟩ := replyGrammar_unique hgrammar h
    refine ⟨haccepted.mReplyStatus, haccepted.replyData hgrammar hnone, ?_⟩
    rw [haccepted.mReplyDataSize]
    split
    · rename_i hempty
      rw [hsize, hempty]
      rfl
    · rfl

/-- Every query with a name is made, if there is memory for it; its block holds its text, and
whatever the reply, that is taken apart by the grammar. -/
theorem query_grammar (q : QemuQuery) {new : Nat → Option (Nat → UInt8)} {name : CString}
    {param : Option CString} (hname : name ≠ []) (hroom : HasRoom new name (param.getD [])) :
    ∃ q', q.createQuery new (some name) param = some (NO_ERROR, q') ∧
      q'.HoldsText (queryText name (param.getD [])) ∧ ∀ payload, q'.TakesApart payload := by
  obtain ⟨q', hq', htake, hfits, hnone, hsize⟩ := createQuery_spec q hname hroom
  exact ⟨q', hq', ⟨hfits, htake⟩, takesApart hnone hsize⟩

/-- A query whose memory is full of one letter. -/
def unused : QemuQuery where
  mQueryPrealloc := List.replicate 256 0x66
  mQuery := none
  mQueryDeliveryStatus := NO_ERROR
  mReplyBuffer := none
  mReplyData := none
  mReplySize := 0
  mReplyDataSize := 0
  mReplyStatus := 0
  prealloc_length := List.length_replicate

theorem query_grammar_list :
    ∃ q', unused.createQuery (fun _ => none) (some (CString.ofChars ['l', 'i', 's', 't'])) none =
        some (NO_ERROR, q') ∧
      q'.HoldsText (queryText (CString.ofChars ['l', 'i', 's', 't']) []) ∧
        ∀ payload, q'.TakesApart payload :=
  query_grammar unused (by decide) fun hlarge => absurd hlarge (by decide)

/-- An empty name is refused, and nothing is written. -/
theorem not_query_grammar : ¬∀ (q : QemuQuery) (new : Nat → Option (Nat → UInt8)) (name : CString)
    (param : Option CString), HasRoom new name (param.getD []) →
      ∃ res q', q.createQuery new (some name) param = some (res, q') ∧
        q'.HoldsText (queryText name (param.getD [])) := by
  intro h
  obtain ⟨res, q', hcreate, -, htext⟩ := h unused (fun _ => none) [] none
    fun hlarge => absurd hlarge (by decide)
  cases hcreate
  exact absurd htext (by decide)

end QemuQuery
end Camera
end DeviceAndroVM
