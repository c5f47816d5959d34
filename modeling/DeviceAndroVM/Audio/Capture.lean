import DeviceAndroVM.Audio.Device
import DeviceAndroVM.Library.Buffer
import Mathlib.Data.List.Flatten

/-!
# Capture without a resampler

A period of stereo frames is read into the buffer of the stream and squeezed in place to its
left channel; `read_frames` hands the samples out as they are asked for.

* `getNextBuffer`, `releaseBuffer`, `readFrames` — the code; an access outside the buffers
  has no result.
* `pending` — the samples that have been read and not handed out.
* `Started` — what holds between two turns of the loop.
* `readCalls_stream` — for all calls, what has been written and what is pending together are
  the left channel of the periods that have been read.
-/

namespace DeviceAndroVM
namespace Audio

open Library

abbrev Sample := BitVec 16

/-- `period_size` in `pcm_config_in`. -/
def IN_PERIOD_SIZE : Nat := 1024

/-- `channels` in `pcm_config_in`. -/
def IN_CHANNELS : Nat := 2

/-- The size of a 16-bit mono frame in bytes, of the stream and of a channel of the pcm. -/
def FRAME_SIZE : Nat := 2

def ENODEV : Int := 19

def pcmFramesToBytes (frames : Nat) : Nat := frames * IN_CHANNELS * FRAME_SIZE

/-- One result of `pcm_read`: the left and right samples of a whole period, or a failure that
may have stored something. -/
inductive PcmRead
  | period (frames : List (Sample × Sample)) (hlength : frames.length = IN_PERIOD_SIZE)
  | failed (status : Int) (hstatus : status ≠ 0) (stored : List Sample)
      (hstored : stored.length ≤ IN_PERIOD_SIZE * IN_CHANNELS)

def PcmRead.status : PcmRead → Int
  | period _ _ => 0
  | failed status _ _ _ => status

/-- The samples in the order of the memory. -/
def PcmRead.samples : PcmRead → List Sample
  | period frames _ => frames.flatMap fun frame => [frame.1, frame.2]
  | failed _ _ stored _ => stored

/-- The left channel of what was read successfully. -/
def PcmRead.left : PcmRead → List Sample
  | period frames _ => frames.map Prod.fst
  | failed _ _ _ _ => []

/-- The part of a `stream_in` that capturing uses.  `reads` counts the calls of `pcm_read`. -/
structure Capture where
  pcm : Pcm
  buffer : List Sample
  buffer_size : Nat
  frames_in : Nat
  read_status : Int
  reads : Nat

/-- A `resampler_buffer`; `raw` is `NULL` or an index into the buffer of the stream. -/
structure ResamplerBuffer where
  raw : Option Nat
  frame_count : Nat

namespace Capture

/-- The end of `start_input_stream`, with the block that `malloc` returned. -/
def start (pcm : Pcm) (block : List Sample) (read_status : Int) : Capture where
  pcm := pcm
  buffer := block
  buffer_size := pcmFramesToBytes IN_PERIOD_SIZE
  frames_in := 0
  read_status := read_status
  reads := 0

/-- `pcm_read(in->pcm, in->buffer, in->buffer_size)`: nothing behind `buffer_size` is written. -/
def pcmRead (c : Capture) (r : PcmRead) : Option Capture :=
  if r.samples.length * FRAME_SIZE ≤ c.buffer_size then
    (store c.buffer 0 r.samples).map fun buffer =>
      { c with buffer := buffer, read_status := r.status, reads := c.reads + 1 }
  else none

/-- `for (i = 1; i < in->frames_in; i++) in->buffer[i] = in->buffer[i * 2];` -/
def discardRightChannel (c : Capture) : Option Capture :=
  (gather (fun i => i * 2) (c.frames_in - 1) 1 c.buffer).map fun buffer => { c with buffer := buffer }

/-- A period has been read. -/
def filled (c : Capture) : Option Capture :=
  let c := { c with frames_in := IN_PERIOD_SIZE }
  if IN_CHANNELS = 2 then c.discardRightChannel else some c

/-- The last lines of `get_next_buffer`. -/
def lend (c : Capture) (frame_count : Nat) : Capture × ResamplerBuffer × Int :=
  (c, ⟨some (IN_PERIOD_SIZE - c.frames_in),
    if frame_count > c.frames_in then c.frames_in else frame_count⟩, c.read_status)

/-- `source i` is the result of the `pcm_read` after `i` others. -/
def getNextBuffer (source : Nat → PcmRead) (c : Capture) (frame_count : Nat) :
    Option (Capture × ResamplerBuffer × Int) :=
  if c.pcm = .null then some ({ c with read_status := -ENODEV }, ⟨none, 0⟩, -ENODEV)
  else if c.frames_in = 0 then
    match c.pcmRead (source c.reads) with
    | none => none
    | some c =>
        -- nothing of a failed read counts, so that the next turn reads again
        if c.read_status ≠ 0 then some (c, ⟨none, 0⟩, c.read_status)
        else c.filled.map fun c => c.lend frame_count
  else some (c.lend frame_count)

def releaseBuffer (c : Capture) (buffer : ResamplerBuffer) : Capture :=
  { c with frames_in := c.frames_in - buffer.frame_count }

/-- The `memcpy` from the buffer of the stream to that of the caller. -/
def copyOut (c : Capture) (buf : ResamplerBuffer) (buffer : List Sample) (frames_wr : Nat) :
    Option (List Sample) :=
  match buf.raw with
  | none => some buffer
  | some raw =>
      match load c.buffer raw buf.frame_count with
      | none => none
      | some piece => store buffer frames_wr piece

end Capture

/-- What a call of `read_frames` leaves: the buffer of the caller, how many frames of it were
written, and the result of the call. -/
structure ReadResult where
  buffer : List Sample
  frames_wr : Nat
  ret : Int

namespace Capture

/-- The loop of `read_frames`; there is no result after `fuel` turns. -/
def readLoop (source : Nat → PcmRead) (frames : Nat) :
    Nat → Capture → List Sample → Nat → Option (Capture × ReadResult)
  | 0, c, buffer, frames_wr =>
      if frames_wr < frames then none else some (c, ⟨buffer, frames_wr, frames_wr⟩)
  | fuel + 1, c, buffer, frames_wr =>
      if frames_wr < frames then
        match c.getNextBuffer source (frames - frames_wr) with
        | none => none
        | some (c, buf, _) =>
            match c.copyOut buf buffer frames_wr with
            | none => none
            | some buffer =>
                -- the source counts all that was asked for when there is no buffer
                let frames_rd := if buf.raw = none then frames - frames_wr else buf.frame_count
                let c := c.releaseBuffer buf
                if c.read_status ≠ 0 then
                  some (c, ⟨buffer, frames_wr + buf.frame_count, c.read_status⟩)
                else readLoop source frames fuel c buffer (frames_wr + frames_rd)
      else some (c, ⟨buffer, frames_wr, frames_wr⟩)

/-- Every turn that goes on writes at least one frame, so `frames` turns are enough. -/
def readFrames (source : Nat → PcmRead) (c : Capture) (buffer : List Sample) (frames : Nat) :
    Option (Capture × ReadResult) :=
  c.readLoop source frames frames buffer 0

/-- Calls of `read_frames`, one for each of the buffers, which is filled if the call succeeds. -/
def readCalls (source : Nat → PcmRead) (c : Capture) :
    List (List Sample) → Option (Capture × List ReadResult)
  | [] => some (c, [])
  | buffer :: rest =>
      match c.readFrames source buffer buffer.length with
      | none => none
      | some (c, result) =>
          (c.readCalls source rest).map fun (c, results) => (c, result :: results)

end Capture

/-- The samples that the call wrote. -/
def ReadResult.written (r : ReadResult) : List Sample := r.buffer.take r.frames_wr

namespace Capture

/-- The samples in the buffer that have not been handed out. -/
def pending (c : Capture) : List Sample :=
  (c.buffer.drop (IN_PERIOD_SIZE - c.frames_in)).take c.frames_in

/-- The left channel of all periods that have been read. -/
def captured (source : Nat → PcmRead) (c : Capture) : List Sample :=
  (List.range c.reads).flatMap fun i => (source i).left

/-- The stream has its buffer, and while there are samples in it the last `pcm_read` was
successful. -/
structure Started (c : Capture) : Prop where
  length : c.buffer.length = IN_PERIOD_SIZE * IN_CHANNELS
  size : c.buffer_size = pcmFramesToBytes IN_PERIOD_SIZE
  frames : c.frames_in ≤ IN_PERIOD_SIZE
  read : c.frames_in ≠ 0 → c.pcm ≠ .null ∧ c.read_status = 0

/-- `written` and what is pending are all that has been captured. -/
def Streamed (source : Nat → PcmRead) (c : Capture) (written : List Sample) : Prop :=
  written ++ c.pending = c.captured source

variable {source : Nat → PcmRead} {c c' : Capture} {written buffer : List Sample}

/-! ## Filling the buffer -/

theorem started_start {pcm : Pcm} {block : List Sample} {read_status : Int}
    (hblock : block.length * FRAME_SIZE = pcmFramesToBytes IN_PERIOD_SIZE) :
    (start pcm block read_status).Started where
  length := by
    show block.length = IN_PERIOD_SIZE * IN_CHANNELS
    unfold pcmFramesToBytes FRAME_SIZE at hblock
    omega
  size := rfl
  frames := Nat.zero_le _
  read := fun h => absurd rfl h

theorem pending_of_frames_in_eq_zero (h : c.frames_in = 0) : c.pending = [] := by
  simp [pending, h]

theorem length_samples_le (r : PcmRead) : r.samples.length ≤ IN_PERIOD_SIZE * IN_CHANNELS := by
  cases r with
  | failed status hstatus stored hstored => exact hstored
  | period frames hlength =>
      have hpairs : ∀ l : List (Sample × Sample),
          (l.flatMap fun frame => [frame.1, frame.2]).length = l.length * 2 := by
        intro l
        induction l with
        | nil => rfl
        | cons frame rest ih =>
            simp only [List.flatMap_cons, List.length_append, List.length_cons, List.length_nil, ih]
            omega
      show (frames.flatMap fun frame => [frame.1, frame.2]).length ≤ _
      rw [hpairs, hlength]
      exact Nat.le_refl _

/-- The left samples are at the even indices. -/
theorem getElem?_samples_period {frames : List (Sample × Sample)} {rest : List Sample} (i : Nat)
    (hi : i < frames.length) :
    ((frames.flatMap fun frame => [frame.1, frame.2]) ++ rest)[i * 2]? =
      (frames.map Prod.fst)[i]? := by
  induction frames generalizing i with
  | nil => exact absurd hi (Nat.not_lt_zero i)
  | cons frame frames ih =>
      cases i with
      | zero => rfl
      | succ i =>
          rw [show (i + 1) * 2 = i * 2 + 2 by omega]
          exact ih i (Nat.lt_of_succ_lt_succ hi)

/-- What `pcm_read` stores is within `buffer_size` bytes. -/
theorem pcmRead_eq (h : c.Started) (r : PcmRead) :
    c.pcmRead r = some { c with
      buffer := r.samples ++ c.buffer.drop r.samples.length
      read_status := r.status
      reads := c.reads + 1 } := by
  have hle := length_samples_le r
  have hsize : r.samples.length * FRAME_SIZE ≤ c.buffer_size := by
    rw [h.size]
    exact Nat.mul_le_mul_right _ hle
  have hstore : 0 + r.samples.length ≤ c.buffer.length := by
    rw [h.length]
    omega
  unfold pcmRead
  rw [if_pos hsize, store_of_le hstore]
  simp

/-- The loop over the period leaves its left channel at the start of the buffer. -/
theorem discardRightChannel_spec (h : c.buffer.length = IN_PERIOD_SIZE * IN_CHANNELS)
    (hframes : c.frames_in = IN_PERIOD_SIZE) :
    ∃ b, c.discardRightChannel = some { c with buffer := b } ∧ b.length = c.buffer.length ∧
      ∀ i, i < IN_PERIOD_SIZE → b[i]? = c.buffer[i * 2]? := by
  have hbound : ∀ i, 1 ≤ i → i < 1 + (c.frames_in - 1) → i * 2 < c.buffer.length := by
    intro i hlow hhigh
    rw [h]
    unfold IN_CHANNELS
    omega
  obtain ⟨b, hb, hlength, hget⟩ :=
    gather_spec (fun i => Nat.le_mul_of_pos_right i (by decide)) hbound
  refine ⟨b, ?_, hlength, ?_⟩
  · unfold discardRightChannel
    rw [hb]
    rfl
  · intro i hi
    rw [hget i]
    by_cases hfirst : i = 0
    · subst hfirst
      rw [if_neg (by omega)]
    · rw [if_pos (by omega)]

/-- A period that is read is pending afterwards. -/
theorem filled_spec {frames : List (Sample × Sample)} (hframes : frames.length = IN_PERIOD_SIZE)
    {rest : List Sample} (h : c.Started) (hpcm : c.pcm ≠ .null) (hstatus : c.read_status = 0)
    (hbuffer : c.buffer = (frames.flatMap fun frame => [frame.1, frame.2]) ++ rest) :
    ∃ c', c.filled = some c' ∧ c'.Started ∧ c'.read_status = 0 ∧ c'.reads = c.reads ∧
      c'.frames_in = IN_PERIOD_SIZE ∧ c'.pending = frames.map Prod.fst := by
  obtain ⟨b, hb, hlength, hget⟩ :=
    discardRightChannel_spec (c := { c with frames_in := IN_PERIOD_SIZE }) h.length rfl
  refine ⟨_, hb, ⟨hlength.trans h.length, h.size, Nat.le_refl _, fun _ => ⟨hpcm, hstatus⟩⟩,
    hstatus, rfl, rfl, ?_⟩
  show (b.drop (IN_PERIOD_SIZE - IN_PERIOD_SIZE)).take IN_PERIOD_SIZE = _
  rw [Nat.sub_self, List.drop_zero]
  apply List.ext_getElem?
  intro i
  by_cases hi : i < IN_PERIOD_SIZE
  · rw [List.getElem?_take_of_lt hi, hget i hi]
    show c.buffer[i * 2]? = _
    rw [hbuffer, getElem?_samples_period i (by omega)]
  · rw [List.getElem?_eq_none, List.getElem?_eq_none]
    · rw [List.length_map]
      omega
    · rw [List.length_take]
      omega

theorem captured_succ (h : c'.reads = c.reads + 1) :
    c'.captured source = c.captured source ++ (source c.reads).left := by
  unfold captured
  rw [h, List.range_succ, List.flatMap_append]
  simp

/-! ## One turn of the loop -/

/-- What a turn gets: nothing and an error, or a piece of what is pending. -/
inductive Lent (c : Capture) (frame_count : Nat) : ResamplerBuffer → Prop
  | nothing (hstatus : c.read_status ≠ 0) : Lent c frame_count ⟨none, 0⟩
  | piece (hstatus : c.read_status = 0) (hsome : c.frames_in ≠ 0) :
      Lent c frame_count
        ⟨some (IN_PERIOD_SIZE - c.frames_in), min frame_count c.frames_in⟩

theorem lent_lend {frame_count : Nat} (h : c.Started) (hsome : c.frames_in ≠ 0) :
    Lent c frame_count (c.lend frame_count).2.1 := by
  have hcount : (if frame_count > c.frames_in then c.frames_in else frame_count) =
      min frame_count c.frames_in := by
    split <;> omega
  unfold lend
  rw [hcount]
  exact Lent.piece (h.read hsome).2 hsome

/-- `get_next_buffer` has a result, and whatever it reads is pending or was a failure. -/
theorem getNextBuffer_spec (h : c.Started) (hstream : c.Streamed source written)
    (frame_count : Nat) :
    ∃ c' buf ret, c.getNextBuffer source frame_count = some (c', buf, ret) ∧ c'.Started ∧
      c'.Streamed source written ∧ Lent c' frame_count buf := by
  unfold getNextBuffer
  by_cases hpcm : c.pcm = .null
  · have hnone : c.frames_in = 0 := by
      by_contra hsome
      exact (h.read hsome).1 hpcm
    rw [if_pos hpcm]
    exact ⟨_, _, _, rfl, ⟨h.length, h.size, h.frames, fun hsome => absurd hnone hsome⟩, hstream,
      Lent.nothing (by decide : -ENODEV ≠ 0)⟩
  rw [if_neg hpcm]
  by_cases hsome : c.frames_in = 0
  case neg =>
    rw [if_neg hsome]
    exact ⟨c, _, _, rfl, h, hstream, lent_lend h hsome⟩
  rw [if_pos hsome, pcmRead_eq h]
  have hwritten : written = c.captured source := by
    rw [← hstream, pending_of_frames_in_eq_zero hsome, List.append_nil]
  have hlength : ((source c.reads).samples ++
      c.buffer.drop (source c.reads).samples.length).length = IN_PERIOD_SIZE * IN_CHANNELS := by
    have hle := length_samples_le (source c.reads)
    rw [List.length_append, List.length_drop, h.length]
    omega
  -- nothing is pending: the read either fails or brings the next period
  cases hread : source c.reads with
  | failed status hstatus stored hstored =>
      rw [hread] at hlength
      show ∃ c' buf ret, (if status ≠ 0 then some _ else _) = some (c', buf, ret) ∧ _ ∧ _ ∧ _
      rw [if_pos hstatus]
      refine ⟨_, _, _, rfl, ⟨hlength, h.size, h.frames, fun hne => absurd hsome hne⟩, ?_,
        Lent.nothing hstatus⟩
      have hempty : ∀ c' : Capture, c'.frames_in = c.frames_in → c'.pending = [] :=
        fun c' hc' => pending_of_frames_in_eq_zero (hc'.trans hsome)
      unfold Streamed
      rw [captured_succ (c := c) rfl, hread, hwritten, hempty]
      all_goals rfl
  | period frames hframes =>
      rw [hread] at hlength
      obtain ⟨c', hc', hstarted, hstatus, hreads, hfull, hpending⟩ :=
        filled_spec (c := { c with
            buffer := (PcmRead.period frames hframes).samples ++
              c.buffer.drop (PcmRead.period frames hframes).samples.length
            read_status := (PcmRead.period frames hframes).status
            reads := c.reads + 1 })
          hframes ⟨hlength, h.size, h.frames, fun _ => ⟨hpcm, rfl⟩⟩ hpcm rfl rfl
      have hne : c'.frames_in ≠ 0 := by
        rw [hfull]
        decide
      show ∃ c' buf ret, (if (0 : Int) ≠ 0 then some _ else Option.map _ _) =
        some (c', buf, ret) ∧ _ ∧ _ ∧ _
      rw [if_neg (by decide), hc']
      refine ⟨c', _, _, rfl, hstarted, ?_, lent_lend hstarted hne⟩
      unfold Streamed
      rw [hpending, captured_succ (c := c) hreads, hread, hwritten]
      rfl

/-- The piece that was lent, copied and released is what was pending first. -/
theorem pending_releaseBuffer {buf : ResamplerBuffer} (h : c.Started)
    (hcount : buf.frame_count ≤ c.frames_in) :
    (c.releaseBuffer buf).pending = c.pending.drop buf.frame_count := by
  have hframes := h.frames
  show (c.buffer.drop (IN_PERIOD_SIZE - (c.frames_in - buf.frame_count))).take
    (c.frames_in - buf.frame_count) = ((c.buffer.drop _).take _).drop _
  rw [List.drop_take, List.drop_drop]
  congr 2
  omega

theorem started_releaseBuffer {buf : ResamplerBuffer} (h : c.Started) :
    (c.releaseBuffer buf).Started where
  length := h.length
  size := h.size
  frames := by
    have hframes := h.frames
    show c.frames_in - buf.frame_count ≤ IN_PERIOD_SIZE
    omega
  read := by
    intro hsome
    apply h.read
    intro hnone
    apply hsome
    show c.frames_in - buf.frame_count = 0
    omega

/-- The piece is within the two buffers and is what is pending first. -/
theorem copyOut_piece (h : c.Started) {count frames_wr : Nat} (hcount : count ≤ c.frames_in)
    (hroom : frames_wr + count ≤ buffer.length) :
    ∃ buffer', c.copyOut ⟨some (IN_PERIOD_SIZE - c.frames_in), count⟩ buffer frames_wr =
        some buffer' ∧ buffer'.length = buffer.length ∧
      buffer'.take (frames_wr + count) = buffer.take frames_wr ++ c.pending.take count := by
  have hframes := h.frames
  have hload : IN_PERIOD_SIZE - c.frames_in + count ≤ c.buffer.length := by
    rw [h.length]
    unfold IN_CHANNELS
    omega
  have hpiece : (c.buffer.drop (IN_PERIOD_SIZE - c.frames_in)).take count = c.pending.take count := by
    unfold pending
    rw [List.take_take, Nat.min_eq_left hcount]
  have hcountlen : (c.pending.take count).length = count := by
    rw [← hpiece, List.length_take, List.length_drop]
    omega
  have hstore : frames_wr + (c.pending.take count).length ≤ buffer.length := by
    rw [hcountlen]
    exact hroom
  have hresult : store buffer frames_wr (c.pending.take count) = some _ := store_of_le hstore
  refine ⟨_, ?_, length_store hresult, ?_⟩
  · unfold copyOut
    simp only [load_of_le hload, hpiece]
    exact hresult
  · have htake := take_store hresult
    rw [hcountlen] at htake ⊢
    exact htake

/-! ## The calls -/

/-- The call has filled the buffer, or has failed before that. -/
def Returned (frames : Nat) (r : ReadResult) : Prop :=
  r.buffer.length = frames ∧
    (r.ret = frames ∧ r.frames_wr = frames ∨ r.ret ≠ 0 ∧ r.frames_wr < frames)

/-- The loop ends, and the samples it writes are the next ones. -/
theorem readLoop_spec {frames : Nat} (fuel : Nat) {frames_wr : Nat} (h : c.Started)
    (hstream : c.Streamed source (written ++ buffer.take frames_wr))
    (hlength : buffer.length = frames) (hle : frames_wr ≤ frames)
    (hfuel : frames - frames_wr ≤ fuel) :
    ∃ c' r, c.readLoop source frames fuel buffer frames_wr = some (c', r) ∧ c'.Started ∧
      c'.Streamed source (written ++ r.written) ∧ Returned frames r := by
  induction fuel generalizing c buffer frames_wr with
  | zero =>
      have hfull : frames_wr = frames := by omega
      unfold readLoop
      rw [if_neg (by omega)]
      exact ⟨c, _, rfl, h, hstream, hlength, .inl ⟨by rw [hfull], hfull⟩⟩
  | succ fuel ih =>
      unfold readLoop
      by_cases hmore : frames_wr < frames
      case neg =>
        have hfull : frames_wr = frames := by omega
        rw [if_neg hmore]
        exact ⟨c, _, rfl, h, hstream, hlength, .inl ⟨by rw [hfull], hfull⟩⟩
      rw [if_pos hmore]
      obtain ⟨d, buf, ret, hnext, hstarted, hd, hlent⟩ :=
        getNextBuffer_spec h hstream (frames - frames_wr)
      rw [hnext]
      cases hlent with
      | nothing hstatus =>
          refine ⟨d, ⟨buffer, frames_wr, d.read_status⟩, ?_, hstarted, hd, hlength,
            .inr ⟨hstatus, hmore⟩⟩
          show (if d.read_status ≠ 0 then _ else _) = _
          rw [if_pos hstatus]
          rfl
      | piece hstatus hsome =>
          -- a turn that goes on has copied at least one frame
          let count := min (frames - frames_wr) d.frames_in
          have hcount : count ≤ d.frames_in := Nat.min_le_right _ _
          have hroom : frames_wr + count ≤ buffer.length := by omega
          have hle' : frames_wr + count ≤ frames := by omega
          have hfuel' : frames - (frames_wr + count) ≤ fuel := by omega
          obtain ⟨buffer', hcopy, hlength', htake⟩ := copyOut_piece hstarted hcount hroom
          let buf : ResamplerBuffer := ⟨some (IN_PERIOD_SIZE - d.frames_in), count⟩
          have hpending : (d.releaseBuffer buf).pending = d.pending.drop count :=
            pending_releaseBuffer hstarted hcount
          have hstream' : (d.releaseBuffer buf).Streamed source
              (written ++ buffer'.take (frames_wr + count)) := by
            unfold Streamed
            rw [htake, hpending, ← List.append_assoc, List.append_assoc, List.take_append_drop]
            exact hd
          have hgoes : d.copyOut buf buffer frames_wr = some buffer' := hcopy
          show ∃ c' r, (match d.copyOut buf buffer frames_wr with
            | none => none
            | some buffer => if d.read_status ≠ 0 then _ else _) = some (c', r) ∧ _
          rw [hgoes]
          show ∃ c' r, (if d.read_status ≠ 0 then _ else _) = some (c', r) ∧ _
          rw [if_neg (not_not.mpr hstatus)]
          exact ih (started_releaseBuffer hstarted) hstream' (hlength'.trans hlength)
            hle' hfuel'

/-- One call of `read_frames`. -/
theorem readFrames_spec (buffer : List Sample) (h : c.Started)
    (hstream : c.Streamed source written) :
    ∃ c' r, c.readFrames source buffer buffer.length = some (c', r) ∧ c'.Started ∧
      c'.Streamed source (written ++ r.written) ∧ Returned buffer.length r := by
  have hnothing : c.Streamed source (written ++ buffer.take 0) := by
    rwa [List.take_zero, List.append_nil]
  exact readLoop_spec buffer.length h hnothing rfl (Nat.zero_le _) (Nat.sub_le _ _)

theorem readCalls_spec (h : c.Started) (hstream : c.Streamed source written)
    (buffers : List (List Sample)) :
    ∃ c' results, c.readCalls source buffers = some (c', results) ∧ c'.Started ∧
      c'.Streamed source (written ++ results.flatMap ReadResult.written) ∧
      List.Forall₂ (fun buffer r => Returned buffer.length r) buffers results := by
  induction buffers generalizing c written with
  | nil => exact ⟨c, [], rfl, h, by simpa using hstream, List.Forall₂.nil⟩
  | cons buffer rest ih =>
      obtain ⟨d, r, hcall, hd, hstream', hreturned⟩ := readFrames_spec buffer h hstream
      obtain ⟨c', results, hcalls, hc', hall, hreturns⟩ := ih hd hstream'
      refine ⟨c', r :: results, ?_, hc', ?_, List.Forall₂.cons hreturned hreturns⟩
      · unfold readCalls
        rw [hcall]
        show Option.map _ (d.readCalls source rest) = _
        rw [hcalls]
        rfl
      · rw [List.flatMap_cons, ← List.append_assoc]
        exact hall

/-- Any calls of `read_frames` on a stream that has been started all return, without leaving
the buffers.  What they write, one after the other, is the left channel of the periods that
were read, up to the samples that are still pending. -/
theorem readCalls_stream (source : Nat → PcmRead) {pcm : Pcm} {block : List Sample}
    {read_status : Int} (hblock : block.length * FRAME_SIZE = pcmFramesToBytes IN_PERIOD_SIZE)
    (buffers : List (List Sample)) :
    ∃ c results, (start pcm block read_status).readCalls source buffers = some (c, results) ∧
      results.flatMap ReadResult.written ++ c.pending = c.captured source ∧
      c.frames_in ≤ IN_PERIOD_SIZE ∧
      List.Forall₂ (fun buffer r => Returned buffer.length r) buffers results := by
  have hstream : (start pcm block read_status).Streamed source [] := rfl
  obtain ⟨c, results, hcalls, hstarted, hall, hreturns⟩ :=
    readCalls_spec (started_start hblock) hstream buffers
  exact ⟨c, results, hcalls, hall, hstarted.frames, hreturns⟩

/-- Periods that differ, the second read failing. -/
def tones (i : Nat) : PcmRead :=
  if i = 1 then .failed (-5) (by decide) [7#16] (by decide)
  else .period (List.replicate IN_PERIOD_SIZE (BitVec.ofNat 16 i, 9#16)) List.length_replicate

/-- A call that fails when the first period is used up, and one that goes on from there. -/
theorem readCalls_stream_tones :
    ∃ c results, (start .opened (List.replicate 2048 0#16) 0).readCalls tones
        [List.replicate 1500 0#16, List.replicate 300 0#16] = some (c, results) ∧
      results.flatMap ReadResult.written ++ c.pending = c.captured tones ∧
      c.frames_in ≤ IN_PERIOD_SIZE ∧
      List.Forall₂ (fun buffer r => Returned buffer.length r)
        [List.replicate 1500 0#16, List.replicate 300 0#16] results :=
  readCalls_stream tones (by rw [List.length_replicate]; decide) _

end Capture

end Audio
end DeviceAndroVM
