import DeviceAndroVM.Camera.QemuQuery

/-!
# What is read of a reply

The replies are counted bytes, and the callers print them as strings.

* `queryInfo`, `listCameras`, `queryFrame` — the callers, with what they read of the reply and what
  they write.
* `ReplyRead.Within` — a read stays in the reply, or in the copy of its data.
* `Operation` — the functions that handle a reply.
* `Terminated` — the replies that have a terminator where a function needs one.
* `safe_iff` — the functions read and write within their blocks for exactly these.
-/

namespace DeviceAndroVM
namespace Camera

open Library Library.CString

namespace QemuQuery

/-! ## The callers -/

/-- `%s` of the data of a failed query, or of a literal where there are none. -/
def errorReads (q : QemuQuery) : List ReplyRead :=
  match q.mReplyData with
  | some offset => [.string offset]
  | none => []

/-- `CameraGenyClient::queryInfo` with its answer, the string it makes and its reads; `allocated` is
whether there is memory for the string. -/
def queryInfo (q : QemuQuery) (payload : List UInt8) (allocated : Bool) :
    status_t × Option CString × List ReplyRead :=
  let (res, q, reads) := (q.received payload).completeQuery NO_ERROR
  if res ≠ NO_ERROR ∨ q.isQuerySucceeded = false then
    (q.getCompletionStatus, none, reads ++ q.errorReads)
  else if q.mReplyDataSize = 0 then (EINVAL, none, reads)
  else if !allocated then (ENOMEM, none, reads)
  else
    -- `snprintf` looks for a terminator, however small its buffer is
    (NO_ERROR, some (q.replyData.takeWhile (· != 0)),
      reads ++ q.mReplyData.toList.map ReplyRead.string)

/-- `FactoryQemuClient::listCameras` with its answer, the list it makes and its reads. -/
def listCameras (q : QemuQuery) (payload : List UInt8) (allocated : Bool) :
    status_t × Option (List UInt8) × List ReplyRead :=
  let (res, q, reads) := (q.received payload).completeQuery NO_ERROR
  if res ≠ NO_ERROR ∨ q.isQuerySucceeded = false then
    (q.getCompletionStatus, none, reads ++ q.errorReads)
  else if q.mReplyDataSize = 0 then (EINVAL, none, reads)
  else if !allocated then (ENOMEM, none, reads)
  else
    -- the copy has no terminator of its own, and is logged with `%s`
    (NO_ERROR, some q.replyData,
      reads ++ q.mReplyData.toList.map (ReplyRead.bytes · q.mReplyDataSize) ++ [.copied])

/-- An output of `queryFrame`: whether it is not `NULL`, and its size. -/
structure FrameOutput where
  given : Bool
  size : Nat
  deriving DecidableEq

/-- The bytes that an output asks for. -/
def FrameOutput.requested (o : FrameOutput) : Nat := if o.given then o.size else 0

/-- A frame is copied from the data behind `cur_offset`, if it is all there: the bytes that are
written, and the read. -/
def copyFrame (q : QemuQuery) (o : FrameOutput) (cur_offset : Nat) :
    Option (List UInt8 × List ReplyRead × Nat) :=
  if o.given ∧ o.size ≠ 0 then
    if o.size ≤ q.mReplyDataSize - cur_offset then
      some ((q.replyData.drop cur_offset).take o.size,
        q.mReplyData.toList.map fun offset => .bytes (offset + cur_offset) o.size,
        cur_offset + o.size)
    else none
  else some ([], [], cur_offset)

/-- The answer of `queryFrame`, the bytes it writes to its outputs, and its reads. -/
structure FrameResult where
  answer : status_t
  vframe : List UInt8
  pframe : List UInt8
  reads : List ReplyRead
  deriving DecidableEq

/-- `CameraGenyClient::queryFrame`. -/
def queryFrame (q : QemuQuery) (payload : List UInt8) (vframe pframe : FrameOutput) :
    FrameResult :=
  let (_, q, reads) := (q.received payload).completeQuery NO_ERROR
  if q.getCompletionStatus ≠ NO_ERROR then
    ⟨q.getCompletionStatus, [], [], reads ++ q.errorReads⟩
  else
    match q.copyFrame vframe 0 with
    | none => ⟨EINVAL, [], [], reads⟩
    | some (video, videoReads, cur_offset) =>
        match q.copyFrame pframe cur_offset with
        | none => ⟨EINVAL, video, [], reads ++ videoReads⟩
        | some (preview, previewReads, _) =>
            ⟨NO_ERROR, video, preview, reads ++ videoReads ++ previewReads⟩

/-! ## The property -/

/-- The functions that handle a reply. -/
inductive Operation
  | completeQuery
  | queryInfo (allocated : Bool)
  | listCameras (allocated : Bool)
  | queryFrame (vframe pframe : FrameOutput)
  deriving DecidableEq

/-- What a function reads. -/
def readsOf (q : QemuQuery) (payload : List UInt8) : Operation → List ReplyRead
  | .completeQuery => ((q.received payload).completeQuery NO_ERROR).2.2
  | .queryInfo allocated => (q.queryInfo payload allocated).2.2
  | .listCameras allocated => (q.listCameras payload allocated).2.2
  | .queryFrame vframe pframe => (q.queryFrame payload vframe pframe).reads

/-- The read stays in the bytes of the reply, or in the copy of its data. -/
def Within (payload : List UInt8) : ReplyRead → Prop
  | .bytes offset count => offset + count ≤ payload.length
  | .string offset => StringWithin payload offset
  | .copied => StringWithin (payload.drop 3) 0

/-- Nothing is written behind the outputs, and a reply with less than they ask for fails. -/
def WritesWithin (q : QemuQuery) (payload : List UInt8) : Operation → Prop
  | .queryFrame vframe pframe =>
      ((q.queryFrame payload vframe pframe).vframe.length ≤ vframe.requested ∧
        (q.queryFrame payload vframe pframe).pframe.length ≤ pframe.requested) ∧
        (payload.length < 3 + vframe.requested + pframe.requested →
          (q.queryFrame payload vframe pframe).answer ≠ NO_ERROR)
  | _ => True

/-- A function reads and writes within its blocks. -/
def Safe (q : QemuQuery) (payload : List UInt8) (op : Operation) : Prop :=
  (∀ read ∈ q.readsOf payload op, Within payload read) ∧ q.WritesWithin payload op

/-- A function uses the data of a successful query as a string. -/
def Operation.formats : Operation → Bool
  | queryInfo allocated | listCameras allocated => allocated
  | _ => false

/-- There is a terminator where a function needs it: in a reply that is rejected, in the data of a
failed query, and in the data that are formatted. -/
structure Terminated (payload : List UInt8) (op : Operation) : Prop where
  rejected : 3 ≤ payload.length → (¬∃ ok data, ReplyGrammar payload ok data) → 0 ∈ payload
  failed : ∀ data, ReplyGrammar payload false data → data ≠ [] → op ≠ .completeQuery → 0 ∈ data
  formatted : ∀ data, ReplyGrammar payload true data → data ≠ [] → op.formats = true → 0 ∈ data

/-! ## Failed queries -/

section Cases

variable {q : QemuQuery} {payload : List UInt8}

theorem getCompletionStatus_eq_iff :
    q.getCompletionStatus = NO_ERROR ↔ q.isQuerySucceeded = true := by
  unfold getCompletionStatus isQuerySucceeded
  by_cases hdelivery : q.mQueryDeliveryStatus = NO_ERROR
  · by_cases hstatus : q.mReplyStatus = 0 <;> simp [hdelivery, hstatus]
  · simp [hdelivery]

/-- A query that is not successful is logged, and nothing else is done. -/
theorem of_failed {r : status_t × QemuQuery × List ReplyRead}
    (hr : (q.received payload).completeQuery NO_ERROR = r)
    (h : r.2.1.isQuerySucceeded = false) (op : Operation) :
    q.readsOf payload op = r.2.2 ++ (if op = .completeQuery then [] else r.2.1.errorReads) ∧
      q.WritesWithin payload op := by
  obtain ⟨res, q', reads⟩ := r
  have hstatus : q'.getCompletionStatus ≠ NO_ERROR := by
    intro hsuccess
    rw [getCompletionStatus_eq_iff.mp hsuccess] at h
    cases h
  cases op with
  | completeQuery => exact ⟨by simp [readsOf, hr], trivial⟩
  | queryInfo allocated =>
      refine ⟨?_, trivial⟩
      unfold readsOf queryInfo
      dsimp only
      rw [hr, if_pos (Or.inr h)]
      rfl
  | listCameras allocated =>
      refine ⟨?_, trivial⟩
      unfold readsOf listCameras
      dsimp only
      rw [hr, if_pos (Or.inr h)]
      rfl
  | queryFrame vframe pframe =>
      have hresult : q.queryFrame payload vframe pframe =
          ⟨q'.getCompletionStatus, [], [], reads ++ q'.errorReads⟩ := by
        unfold queryFrame
        dsimp only
        rw [hr, if_pos hstatus]
      refine ⟨?_, ?_⟩
      · rw [readsOf, hresult]
        rfl
      · rw [WritesWithin, hresult]
        exact ⟨⟨Nat.zero_le _, Nat.zero_le _⟩, fun _ => hstatus⟩

theorem within_readsPrefix {reads : List ReplyRead} (h : ReadsPrefix reads)
    (hlength : 3 ≤ payload.length) : ∀ read ∈ reads, Within payload read := by
  intro read hread
  obtain ⟨offset, count, rfl, hcount⟩ := h read hread
  exact hcount.trans hlength

/-- A list of reads behind others is within the reply, if these are. -/
theorem within_append_iff {reads more : List ReplyRead}
    (h : ∀ read ∈ reads, Within payload read) :
    (∀ read ∈ reads ++ more, Within payload read) ↔ ∀ read ∈ more, Within payload read := by
  constructor
  · intro hall read hread
    exact hall read (List.mem_append_right _ hread)
  · intro hmore read hread
    rcases List.mem_append.mp hread with hread | hread
    · exact h read hread
    · exact hmore read hread

/-! ## Frames -/

/-- A frame is copied from the data alone, no more than is asked for. -/
theorem copyFrame_spec {o : FrameOutput} {cur_offset cur_offset' : Nat} {bytes : List UInt8}
    {reads : List ReplyRead}
    (hdata : ∀ offset, q.mReplyData = some offset → offset + q.mReplyDataSize ≤ payload.length)
    (hcur : cur_offset ≤ q.mReplyDataSize)
    (h : q.copyFrame o cur_offset = some (bytes, reads, cur_offset')) :
    bytes.length ≤ o.requested ∧ (∀ read ∈ reads, Within payload read) ∧
      cur_offset' = cur_offset + o.requested ∧ cur_offset' ≤ q.mReplyDataSize := by
  unfold copyFrame at h
  split at h
  · rename_i hasked
    have hrequested : o.requested = o.size := if_pos hasked.1
    split at h
    · rename_i hroom
      cases h
      refine ⟨by simp [hrequested], ?_, by rw [hrequested], by omega⟩
      intro read hread
      obtain ⟨offset, hoffset, rfl⟩ := List.mem_map.mp hread
      have hend := hdata offset (Option.mem_toList.mp hoffset)
      change offset + cur_offset + o.size ≤ payload.length
      omega
    · cases h
  · rename_i hnone
    have hrequested : o.requested = 0 := by
      unfold FrameOutput.requested
      split
      · rename_i hgiven
        by_contra hsize
        exact hnone ⟨hgiven, hsize⟩
      · rfl
    cases h
    exact ⟨Nat.zero_le _, by simp, by rw [hrequested, Nat.add_zero], hcur⟩

/-- `queryFrame` of a successful query: the frames are in the data, or it fails. -/
theorem queryFrame_of_succeeded {q' : QemuQuery} {res : status_t} {reads : List ReplyRead}
    (hr : (q.received payload).completeQuery NO_ERROR = (res, q', reads))
    (hsucceeded : q'.isQuerySucceeded = true) (hreads : ∀ read ∈ reads, Within payload read)
    (hdata : ∀ offset, q'.mReplyData = some offset → offset + q'.mReplyDataSize ≤ payload.length)
    (hsize : q'.mReplyDataSize + 3 ≤ payload.length) (vframe pframe : FrameOutput) :
    q.Safe payload (.queryFrame vframe pframe) := by
  have einval_ne : EINVAL ≠ NO_ERROR := by decide
  unfold Safe WritesWithin readsOf
  unfold queryFrame
  dsimp only
  rw [hr]
  dsimp only
  rw [if_neg (by simpa using getCompletionStatus_eq_iff.mpr hsucceeded)]
  cases hvideo : q'.copyFrame vframe 0 with
  | none => exact ⟨hreads, ⟨Nat.zero_le _, Nat.zero_le _⟩, fun _ => einval_ne⟩
  | some video =>
      obtain ⟨bytes, videoReads, cur_offset⟩ := video
      obtain ⟨hbytes, hwithin, hcur, hend⟩ := copyFrame_spec hdata (Nat.zero_le _) hvideo
      dsimp only
      cases hpreview : q'.copyFrame pframe cur_offset with
      | none =>
          exact ⟨(within_append_iff hreads).mpr hwithin, ⟨hbytes, Nat.zero_le _⟩,
            fun _ => einval_ne⟩
      | some preview =>
          obtain ⟨bytes', previewReads, cur_offset'⟩ := preview
          obtain ⟨hbytes', hwithin', hcur', hend'⟩ := copyFrame_spec hdata hend hpreview
          have hboth := (within_append_iff hreads).mpr hwithin
          refine ⟨(within_append_iff hboth).mpr hwithin', ⟨hbytes, hbytes'⟩, fun hshort => ?_⟩
          -- both frames were found in the data
          exact absurd hshort (by omega)

/-! ## Each kind of reply -/

theorem safe_of_short (hnone : q.mReplyData = none)
    (h : (q.received payload).completeQuery NO_ERROR =
      (EINVAL, { q.received payload with mQueryDeliveryStatus := EINVAL }, [])) (op : Operation) :
    q.Safe payload op := by
  obtain ⟨hreads, hwrites⟩ := of_failed h rfl op
  refine ⟨?_, hwrites⟩
  have herror : errorReads { q.received payload with mQueryDeliveryStatus := EINVAL } = [] := by
    unfold errorReads received
    rw [hnone]
  rw [hreads]
  dsimp only
  rw [herror, ite_self]
  intro read hread
  cases hread

theorem safe_iff_of_rejected (hnone : q.mReplyData = none) (hlength : 3 ≤ payload.length)
    (h : q.Rejected ((q.received payload).completeQuery NO_ERROR)) (op : Operation) :
    q.Safe payload op ↔ 0 ∈ payload := by
  obtain ⟨reads, hreads, hprefix⟩ := h.reads
  have hfailed : ((q.received payload).completeQuery NO_ERROR).2.1.isQuerySucceeded = false := by
    unfold isQuerySucceeded
    rw [h.mQueryDeliveryStatus]
    rfl
  have herror : ((q.received payload).completeQuery NO_ERROR).2.1.errorReads = [] := by
    unfold errorReads
    rw [h.mReplyData, hnone]
  obtain ⟨hall, hwrites⟩ := of_failed rfl hfailed op
  rw [herror, ite_self, List.append_nil, hreads] at hall
  rw [Safe, hall, within_append_iff (within_readsPrefix hprefix hlength), List.forall_mem_singleton,
    and_iff_left hwrites]
  exact stringWithin_iff (Nat.zero_le _)

/-- The data of a failed query are logged, if there are any. -/
theorem safe_iff_of_ko (hnone : q.mReplyData = none) {data : List UInt8}
    (hgrammar : ReplyGrammar payload false data)
    (h : q.Accepted payload false data ((q.received payload).completeQuery NO_ERROR))
    (op : Operation) :
    q.Safe payload op ↔ (data ≠ [] → op ≠ .completeQuery → 0 ∈ data) := by
  have hlength := three_le_of_replyGrammar hgrammar
  have hfailed : ((q.received payload).completeQuery NO_ERROR).2.1.isQuerySucceeded = false := by
    unfold isQuerySucceeded
    rw [h.mReplyStatus]
    simp
  have hwithin := within_readsPrefix h.reads (by omega : 3 ≤ payload.length)
  obtain ⟨hall, hwrites⟩ := of_failed rfl hfailed op
  rw [Safe, hall, within_append_iff hwithin, and_iff_left hwrites]
  unfold errorReads
  rw [h.mReplyData, hnone]
  by_cases hempty : data = []
  · simp [hempty]
  · by_cases hop : op = .completeQuery
    · simp [hop]
    · rw [if_neg hempty, if_neg hop]
      simp only [List.forall_mem_singleton, ne_eq, hempty, hop, not_false_eq_true, true_imp_iff]
      rw [Within, stringWithin_iff (by omega), drop_three_of_replyGrammar hgrammar]

/-- The data of a successful query are formatted, if they are copied. -/
theorem safe_iff_of_ok (hnone : q.mReplyData = none) (hzero : q.mReplyDataSize = 0)
    {data : List UInt8} (hgrammar : ReplyGrammar payload true data)
    (h : q.Accepted payload true data ((q.received payload).completeQuery NO_ERROR))
    (op : Operation) :
    q.Safe payload op ↔ (data ≠ [] → op.formats = true → 0 ∈ data) := by
  have hlength := three_le_of_replyGrammar hgrammar
  have hdrop := drop_three_of_replyGrammar hgrammar
  obtain ⟨hanswer, hdelivery, -, hstatus, hdata, hsize, hreads⟩ := h
  generalize hr : (q.received payload).completeQuery NO_ERROR = r at *
  obtain ⟨res, q', reads⟩ := r
  dsimp only at *
  have hsucceeded : q'.isQuerySucceeded = true := by
    unfold isQuerySucceeded
    rw [hdelivery, hstatus]
    rfl
  have hwithin := within_readsPrefix hreads (by omega : 3 ≤ payload.length)
  rw [hnone] at hdata
  have hsize' : q'.mReplyDataSize = data.length := by
    rw [hsize, hzero]
    split
    · rename_i hempty
      rw [hempty]
      rfl
    · rfl
  have hgoes : ¬(res ≠ NO_ERROR ∨ q'.isQuerySucceeded = false) := by
    simp [hanswer, hsucceeded]
  have hterminator : Within payload (.string 3) ↔ 0 ∈ data := by
    rw [Within, stringWithin_iff (by omega), hdrop]
  have hcopied : Within payload .copied ↔ 0 ∈ data := by
    rw [Within, hdrop]
    exact stringWithin_iff (Nat.zero_le _)
  cases op with
  | completeQuery =>
      refine iff_of_true ⟨?_, trivial⟩ fun _ hformats => absurd hformats (by decide)
      rw [readsOf, hr]
      exact hwithin
  | queryInfo allocated =>
      unfold Safe WritesWithin readsOf queryInfo
      dsimp only
      rw [hr]
      dsimp only
      rw [if_neg hgoes, hdata, hsize', and_true]
      cases data with
      | nil => simpa using hwithin
      | cons c rest =>
          cases allocated with
          | false => simpa [Operation.formats] using hwithin
          | true =>
              simpa [Operation.formats, or_imp, forall_and, and_iff_right hwithin] using hterminator
  | listCameras allocated =>
      unfold Safe WritesWithin readsOf listCameras
      dsimp only
      rw [hr]
      dsimp only
      rw [if_neg hgoes, hdata, hsize', and_true]
      cases data with
      | nil => simpa using hwithin
      | cons c rest =>
          cases allocated with
          | false => simpa [Operation.formats] using hwithin
          | true =>
              have hbytes : Within payload (.bytes 3 (c :: rest).length) := hlength.ge
              rw [List.length_cons] at hbytes
              simpa [Operation.formats, or_imp, forall_and, and_iff_right hwithin, hbytes]
                using hcopied
  | queryFrame vframe pframe =>
      refine iff_of_true ?_ fun _ hformats => Bool.noConfusion hformats
      refine queryFrame_of_succeeded hr hsucceeded hwithin ?_ (by omega) vframe pframe
      intro offset hoffset
      rw [hoffset] at hdata
      split at hdata
      · cases hdata
      · cases hdata
        omega

/-- Nothing is left of an earlier reply when a query is made. -/
theorem fresh_of_createQuery {new : Nat → Option (Nat → UInt8)} {name param : Option CString}
    {res : status_t} {q' : QemuQuery} (h : q.createQuery new name param = some (res, q')) :
    q'.mReplyData = none ∧ q'.mReplyDataSize = 0 := by
  unfold createQuery at h
  dsimp only at h
  split at h
  · cases h
    exact ⟨rfl, rfl⟩
  · cases h
    exact ⟨rfl, rfl⟩
  · rename_i name' _
    generalize (name'.length + if (param.getD []).length ≠ 0 then (param.getD []).length + 2
      else 1) = required at h
    generalize (if (param.getD []).length ≠ 0 then name' ++ 0x20 :: (param.getD [] ++ [0])
      else name' ++ [0]) = text at h
    split at h
    · split at h
      · cases h
        exact ⟨rfl, rfl⟩
      · obtain ⟨q₁, hwrite, heq⟩ := Option.map_eq_some_iff.mp h
        cases heq
        exact reply_of_write hwrite
    · obtain ⟨q₁, hwrite, heq⟩ := Option.map_eq_some_iff.mp h
      cases heq
      exact reply_of_write hwrite

theorem terminated_iff_of_grammar {ok : Bool} {data : List UInt8}
    (hgrammar : ReplyGrammar payload ok data) (op : Operation) :
    Terminated payload op ↔ (data ≠ [] →
      (if ok then op.formats = true else op ≠ .completeQuery) → 0 ∈ data) := by
  constructor
  · intro h hdata hop
    cases ok with
    | false => exact h.failed data hgrammar hdata hop
    | true => exact h.formatted data hgrammar hdata hop
  · intro h
    refine ⟨fun _ hno => absurd ⟨ok, data, hgrammar⟩ hno, ?_, ?_⟩
    · intro data' hgrammar' hdata hop
      obtain ⟨rfl, rfl⟩ := replyGrammar_unique hgrammar hgrammar'
      exact h hdata hop
    · intro data' hgrammar' hdata hop
      obtain ⟨rfl, rfl⟩ := replyGrammar_unique hgrammar hgrammar'
      exact h hdata hop

/-- A reply to a query that was made is read within its bytes, and frames within theirs, just when
it has a terminator wherever a function takes it for a string. -/
theorem safe_iff {new : Nat → Option (Nat → UInt8)} {name param : Option CString} {q₀ : QemuQuery}
    (hq : q₀.createQuery new name param = some (NO_ERROR, q)) (payload : List UInt8)
    (op : Operation) : q.Safe payload op ↔ Terminated payload op := by
  obtain ⟨hnone, hzero⟩ := fresh_of_createQuery hq
  -- the three ends of `completeQuery` decide what is read behind it
  rcases completeQuery_spec q payload with ⟨hshort, heq⟩ | ⟨hlength, hrejected, hno⟩ |
    ⟨ok, data, hgrammar, haccepted⟩
  · have hnot : ∀ ok data, ¬ReplyGrammar payload ok data := by
      intro ok data h
      have hlength := three_le_of_replyGrammar h
      omega
    exact iff_of_true (safe_of_short hnone heq op) ⟨fun hlength => absurd hlength (by omega),
      fun data h => absurd h (hnot false data), fun data h => absurd h (hnot true data)⟩
  · rw [safe_iff_of_rejected hnone hlength hrejected]
    refine ⟨fun hzero => ⟨fun _ _ => hzero, ?_, ?_⟩, fun h => h.rejected hlength hno⟩
    · intro data h
      exact absurd ⟨false, data, h⟩ hno
    · intro data h
      exact absurd ⟨true, data, h⟩ hno
  · rw [terminated_iff_of_grammar hgrammar]
    cases ok with
    | false => exact safe_iff_of_ko hnone hgrammar haccepted op
    | true => exact safe_iff_of_ok hnone hzero hgrammar haccepted op

end Cases

theorem createQuery_list : ∃ q,
    unused.createQuery (fun _ => none) (some (CString.ofChars ['l', 'i', 's', 't'])) none =
      some (NO_ERROR, q) := by
  have hroom : HasRoom (fun _ => none) (CString.ofChars ['l', 'i', 's', 't'])
      ((none : Option CString).getD []) := fun hlarge => absurd hlarge (by decide)
  obtain ⟨q, hq, -⟩ := createQuery_spec unused (by decide) hroom
  exact ⟨q, hq⟩

/-- The reply to `list` with one camera and a terminator. -/
theorem safe_list :
    ∃ q, unused.createQuery (fun _ => none) (some (CString.ofChars ['l', 'i', 's', 't'])) none =
        some (NO_ERROR, q) ∧
      q.Safe (CString.ofChars ['o', 'k', ':', 'a', '\n'] ++ [0]) (.listCameras true) := by
  obtain ⟨q, hq⟩ := createQuery_list
  refine ⟨q, hq, (safe_iff hq _ _).mpr ?_⟩
  exact (terminated_iff_of_grammar (.data true 0x61 [0x0A, 0]) _).mpr fun _ _ => by decide

/-- Three bytes that are no reply are logged as a string. -/
theorem not_safe : ¬∀ (q₀ q : QemuQuery) (new : Nat → Option (Nat → UInt8))
    (name param : Option CString), q₀.createQuery new name param = some (NO_ERROR, q) →
      ∀ (payload : List UInt8) (op : Operation), q.Safe payload op := by
  intro h
  obtain ⟨q, hq⟩ := createQuery_list
  have hreads : q.readsOf [0x61, 0x62, 0x63] .completeQuery =
      [.bytes 0 2, .bytes 0 2, .string 0] := rfl
  have hwithin : StringWithin [0x61, 0x62, 0x63] 0 :=
    (h _ q _ _ _ hq [0x61, 0x62, 0x63] .completeQuery).1 (.string 0) (by simp [hreads])
  rw [stringWithin_iff (Nat.zero_le _)] at hwithin
  exact absurd hwithin (by decide)

end QemuQuery
end Camera
end DeviceAndroVM
