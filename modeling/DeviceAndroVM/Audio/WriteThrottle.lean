import DeviceAndroVM.Audio.Device
import DeviceAndroVM.Library.MachineWords

/-!
# How `out_write` waits for the driver

Before it writes, `out_write` of `audio_hw.c` sleeps while the buffer of the driver holds more than
a threshold, and afterwards it moves the threshold.

* `OutPcm` — the pcm that is open; `OutPcm.Configured` is what tinyalsa makes of `pcm_config_out`.
* `sleepLoop` — the loop, with what `pcm_get_htimestamp` gives in each of its turns.
* `updateThreshold` — the new `cur_write_threshold`.
* `sleepLoop_spec` — the loop ends, and does not sleep too long.
* `throttles` — one call as a whole; `isThreshold_afterCalls` — any number of calls.
-/

namespace DeviceAndroVM
namespace Audio

open Library

/-! ## The code -/

def OUT_PERIOD_SIZE : Nat := 512

def OUT_SHORT_PERIOD_COUNT : Nat := 2

def MIN_WRITE_SLEEP_US : Int := 2000

def MAX_WRITE_SLEEP_US : Int :=
  (OUT_PERIOD_SIZE * OUT_SHORT_PERIOD_COUNT * 1000000 / OUT_SAMPLING_RATE : Nat)

/-- `rate` and `period_size` of `*out->pcm_config`, and what `pcm_get_buffer_size` returns. -/
structure OutPcm where
  rate : Nat
  period_size : Nat
  buffer_size : Nat
  deriving DecidableEq

namespace OutPcm

/-- `kernel_frames` for a number of frames that are available. -/
def kernelFrames (p : OutPcm) (avail : Nat) : Int := int32 (p.buffer_size - avail)

/-- How long the driver plays the frames above the threshold, converted to `int`. -/
def sleepTime (p : OutPcm) (kernel_frames cur_write_threshold : Int) : Int :=
  int32 (((kernel_frames - cur_write_threshold) * 1000000).tdiv p.rate)

/-- The loop from turn `turn` on: `kernel_frames` at its end, and the arguments of `usleep`.
`readings` is what `pcm_get_htimestamp` gives in each turn, if it does not fail; there is no result
when the turns do not suffice. -/
def sleepLoop (p : OutPcm) (cur_write_threshold : Int) (readings : Nat → Option Nat) :
    (turns turn : Nat) → (total_sleep_time_us : Int) → Option (Int × List Int)
  | 0, _, _ => none
  | turns + 1, turn, total_sleep_time_us =>
      match readings turn with
      | none => some (-1, [])
      | some avail =>
          let kernel_frames := p.kernelFrames avail
          if cur_write_threshold < kernel_frames then
            let sleep_time_us := p.sleepTime kernel_frames cur_write_threshold
            if sleep_time_us < MIN_WRITE_SLEEP_US then some (kernel_frames, [])
            else
              let total := int32 (total_sleep_time_us + sleep_time_us)
              -- what is left of the time, if there is less
              let sleep_time_us :=
                if MAX_WRITE_SLEEP_US < total then MAX_WRITE_SLEEP_US - (total - sleep_time_us)
                else sleep_time_us
              if cur_write_threshold < kernel_frames ∧ total ≤ MAX_WRITE_SLEEP_US then
                (p.sleepLoop cur_write_threshold readings turns (turn + 1) total).map
                  fun (last, sleeps) => (last, sleep_time_us :: sleeps)
              else some (kernel_frames, [sleep_time_us])
          else some (kernel_frames, [])

/-- The threshold after the call.  `kernel_frames` is converted to an unsigned number where it is
divided, and the sums with `period_size` are converted back to `int`. -/
def updateThreshold (p : OutPcm) (write_threshold cur_write_threshold kernel_frames : Int) : Int :=
  if write_threshold < cur_write_threshold then
    let cur := int32 (cur_write_threshold - (p.period_size / 4 : Nat))
    if cur < write_threshold then write_threshold else cur
  else if cur_write_threshold < write_threshold then
    let cur := int32 (cur_write_threshold + (p.period_size / 4 : Nat))
    if write_threshold < cur then write_threshold else cur
  else if kernel_frames ≠ -1 ∧ kernel_frames < write_threshold ∧
      int32 (p.period_size * OUT_SHORT_PERIOD_COUNT : Nat) < write_threshold - kernel_frames then
    let cur := int32 ((uint32 kernel_frames / p.period_size + 1) * p.period_size : Nat)
    int32 (cur + (p.period_size / 4 : Nat))
  else cur_write_threshold

/-! ## The pcm -/

/-- What tinyalsa makes of `pcm_config_out`: the rate is the one asked for, which may have been
lowered, the period has at least the frames asked for, and the buffer consists of periods.  A full
buffer plays for a time that an `int` of microseconds can count. -/
structure Configured (p : OutPcm) : Prop where
  rate_pos : 0 < p.rate
  rate_le : p.rate ≤ OUT_SAMPLING_RATE
  period_size : OUT_PERIOD_SIZE ≤ p.period_size
  periods : ∃ period_count, 0 < period_count ∧ p.buffer_size = p.period_size * period_count
  duration : (p.buffer_size * 1000000 / p.rate : Nat) + MAX_WRITE_SLEEP_US < 0x80000000

/-- The driver has no more room than its buffer. -/
def Available (p : OutPcm) (readings : Nat → Option Nat) : Prop :=
  ∀ turn avail, readings turn = some avail → avail ≤ p.buffer_size

/-- A threshold is positive, and the buffer has as many frames. -/
def IsThreshold (p : OutPcm) (threshold : Int) : Prop := 0 < threshold ∧ threshold ≤ p.buffer_size

variable {p : OutPcm}

theorem max_write_sleep_us : MAX_WRITE_SLEEP_US = 23219 := by decide

theorem Configured.period_le (h : p.Configured) : p.period_size ≤ p.buffer_size := by
  obtain ⟨count, hcount, hbuffer⟩ := h.periods
  rw [hbuffer]
  exact Nat.le_mul_of_pos_right _ hcount

theorem Configured.buffer_lt (h : p.Configured) : p.buffer_size < 0x10000000 := by
  have hduration := h.duration
  rw [max_write_sleep_us] at hduration
  have hslower : p.buffer_size * 1000000 / OUT_SAMPLING_RATE ≤ p.buffer_size * 1000000 / p.rate :=
    Nat.div_le_div_left h.rate_le h.rate_pos
  unfold OUT_SAMPLING_RATE at hslower
  omega

/-- The frames in the driver are those that are not available. -/
theorem Configured.kernelFrames_eq (h : p.Configured) {avail : Nat}
    (havail : avail ≤ p.buffer_size) : p.kernelFrames avail = p.buffer_size - avail := by
  have hlt := h.buffer_lt
  exact int32_eq (by omega) (by omega)

/-- A time to sleep is not negative, and a full buffer takes longer. -/
theorem Configured.sleepTime_bounds (h : p.Configured) {kernel_frames cur : Int} (hcur : 0 < cur)
    (hmore : cur < kernel_frames) (hkernel : kernel_frames ≤ p.buffer_size) :
    0 ≤ p.sleepTime kernel_frames cur ∧
      p.sleepTime kernel_frames cur ≤ (p.buffer_size * 1000000 / p.rate : Nat) := by
  have hduration := h.duration
  rw [max_write_sleep_us] at hduration
  have hrate : (0 : Int) < p.rate := by exact_mod_cast h.rate_pos
  have hnonneg : 0 ≤ (kernel_frames - cur) * 1000000 := by omega
  have hlow : 0 ≤ (kernel_frames - cur) * 1000000 / (p.rate : Int) :=
    Int.ediv_nonneg hnonneg hrate.le
  have hhigh : (kernel_frames - cur) * 1000000 / (p.rate : Int) ≤
      (p.buffer_size * 1000000 / p.rate : Nat) := by
    rw [Int.natCast_ediv]
    refine Int.ediv_le_ediv hrate ?_
    push_cast
    omega
  unfold sleepTime
  rw [Int.tdiv_eq_ediv_of_nonneg hnonneg, int32_eq (by omega) (by omega)]
  exact ⟨hlow, hhigh⟩

/-! ## The loop -/

/-- What `kernel_frames` may be behind the loop: an error, or the frames in the driver. -/
def IsKernelFrames (p : OutPcm) (kernel_frames : Int) : Prop :=
  kernel_frames = -1 ∨ (0 ≤ kernel_frames ∧ kernel_frames ≤ p.buffer_size)

/-- How the loop ends after some time of sleep: no sleep is too long, nor are all together. -/
def Slept (p : OutPcm) (total : Int) (r : Int × List Int) : Prop :=
  p.IsKernelFrames r.1 ∧ (∀ sleep ∈ r.2, 0 ≤ sleep ∧ sleep ≤ MAX_WRITE_SLEEP_US) ∧
    total + r.2.sum ≤ MAX_WRITE_SLEEP_US

theorem slept_nil {total kernel_frames : Int} (hkernel : p.IsKernelFrames kernel_frames)
    (htotal : total ≤ MAX_WRITE_SLEEP_US) : p.Slept total (kernel_frames, []) :=
  ⟨hkernel, by simp, by simpa using htotal⟩

/-- From any turn on the loop ends after as many turns as there are shortest sleeps in the time that
is left. -/
theorem sleepLoop_spec (h : p.Configured) {readings : Nat → Option Nat}
    (havail : p.Available readings) {cur total : Int} (hcur : 0 < cur) (hnonneg : 0 ≤ total) (htotal : total ≤ MAX_WRITE_SLEEP_US)
    {turns : Nat} (hturns : MAX_WRITE_SLEEP_US - total < turns * MIN_WRITE_SLEEP_US) (turn : Nat) :
    ∃ r, p.sleepLoop cur readings turns turn total = some r ∧ p.Slept total r := by
  induction turns generalizing total turn with
  | zero =>
      rw [Nat.cast_zero, Int.zero_mul] at hturns
      omega
  | succ turns ih =>
      unfold sleepLoop
      cases hreading : readings turn with
      | none => exact ⟨_, rfl, slept_nil (Or.inl rfl) htotal⟩
      | some avail =>
          have hle := havail turn avail hreading
          have hkernel := h.kernelFrames_eq hle
          have hframes : p.IsKernelFrames (p.kernelFrames avail) := Or.inr (by omega)
          dsimp only
          by_cases hmore : cur < p.kernelFrames avail
          · rw [if_pos hmore]
            by_cases hshort : p.sleepTime (p.kernelFrames avail) cur < MIN_WRITE_SLEEP_US
            · rw [if_pos hshort]
              exact ⟨_, rfl, slept_nil hframes htotal⟩
            · rw [if_neg hshort]
              obtain ⟨-, hhigh⟩ := h.sleepTime_bounds hcur hmore (by omega)
              have hduration := h.duration
              generalize p.sleepTime (p.kernelFrames avail) cur = sleep at *
              have hsum : int32 (total + sleep) = total + sleep := by
                unfold MIN_WRITE_SLEEP_US at hshort
                exact int32_eq (by omega) (by omega)
              -- a sleep that is cut ends where the limit is
              have hback : total + sleep - sleep = total := Int.add_sub_cancel total sleep
              rw [hsum, hback]
              by_cases hlimit : total + sleep ≤ MAX_WRITE_SLEEP_US
              · -- the loop goes on with less time
                have hmin : MIN_WRITE_SLEEP_US ≤ sleep := Int.not_lt.mp hshort
                have hpositive : (0 : Int) < MIN_WRITE_SLEEP_US := by decide
                have hless : MAX_WRITE_SLEEP_US - (total + sleep) < turns * MIN_WRITE_SLEEP_US := by
                  rw [Nat.cast_add, Nat.cast_one, Int.add_mul, Int.one_mul] at hturns
                  omega
                obtain ⟨r, hr, hlast, hsleeps, hall⟩ := ih (by omega) hlimit hless (turn + 1)
                rw [if_neg (Int.not_lt.mpr hlimit), if_pos ⟨hmore, hlimit⟩, hr, Option.map_some]
                refine ⟨_, rfl, hlast, ?_, ?_⟩
                · intro s hs
                  rcases List.mem_cons.mp hs with rfl | hs
                  · omega
                  · exact hsleeps s hs
                · rw [List.sum_cons]
                  omega
              · -- the last sleep is cut
                rw [if_pos (Int.not_le.mp hlimit), if_neg fun hand => hlimit hand.2]
                refine ⟨_, rfl, hframes, ?_, ?_⟩
                · intro s hs
                  obtain rfl := List.mem_singleton.mp hs
                  omega
                · rw [List.sum_singleton]
                  omega
          · rw [if_neg hmore]
            exact ⟨_, rfl, slept_nil hframes htotal⟩

/-! ## The threshold -/

/-- The threshold moves to the other one by a quarter of a period, and no further than that. -/
structure Moves (p : OutPcm) (write_threshold cur cur' : Int) : Prop where
  threshold : p.IsThreshold cur'
  down : write_threshold < cur →
    write_threshold ≤ cur' ∧ cur' < cur ∧ cur - cur' ≤ p.period_size / 4
  up : cur < write_threshold →
    cur < cur' ∧ cur' ≤ write_threshold ∧ cur' - cur ≤ p.period_size / 4

/-- The new threshold where the driver has been depleted: a quarter of a period over the next full
period, which is less than the threshold. -/
theorem depleted_spec (h : p.Configured) {write_threshold kernel_frames : Int}
    (hthreshold : p.IsThreshold write_threshold) (hkernel : 0 ≤ kernel_frames)
    (hfar : int32 (p.period_size * OUT_SHORT_PERIOD_COUNT : Nat) <
      write_threshold - kernel_frames) :
    let cur := int32 ((uint32 kernel_frames / p.period_size + 1) * p.period_size : Nat)
    0 < int32 (cur + (p.period_size / 4 : Nat)) ∧
      int32 (cur + (p.period_size / 4 : Nat)) < write_threshold := by
  have hlt := h.buffer_lt
  have hperiod := h.period_le
  have hpositive := h.period_size
  obtain ⟨-, hbuffer⟩ := hthreshold
  unfold OUT_PERIOD_SIZE at hpositive
  unfold OUT_SHORT_PERIOD_COUNT at hfar
  rw [int32_eq (by omega) (by omega)] at hfar
  have hframes : (uint32 kernel_frames : Int) = kernel_frames := uint32_eq hkernel (by omega)
  have hfloor := Nat.div_mul_le_self (uint32 kernel_frames) p.period_size
  have hnext : (uint32 kernel_frames / p.period_size + 1) * p.period_size =
      uint32 kernel_frames / p.period_size * p.period_size + p.period_size := Nat.succ_mul _ _
  rw [hnext]
  generalize uint32 kernel_frames / p.period_size * p.period_size = floor at *
  rw [int32_eq (x := ((floor + p.period_size : Nat) : Int)) (by omega) (by omega)]
  dsimp only
  rw [int32_eq (by omega) (by omega)]
  omega

theorem updateThreshold_spec (h : p.Configured) {write_threshold cur kernel_frames : Int}
    (hthreshold : p.IsThreshold write_threshold) (hcur : p.IsThreshold cur)
    (hkernel : p.IsKernelFrames kernel_frames) :
    p.Moves write_threshold cur (p.updateThreshold write_threshold cur kernel_frames) := by
  have hlt := h.buffer_lt
  have hperiod := h.period_le
  have hpositive := h.period_size
  unfold OUT_PERIOD_SIZE at hpositive
  have hthreshold' := hthreshold
  have hcur' := hcur
  obtain ⟨hthreshold₀, hthreshold₁⟩ := hthreshold'
  obtain ⟨hcur₀, hcur₁⟩ := hcur'
  unfold updateThreshold
  by_cases hdown : write_threshold < cur
  · rw [if_pos hdown, int32_eq (by omega) (by omega)]
    dsimp only
    split
    · exact ⟨hthreshold, fun _ => by omega, fun hup => by omega⟩
    · exact ⟨⟨by omega, by omega⟩, fun _ => by omega, fun hup => by omega⟩
  · by_cases hup : cur < write_threshold
    · rw [if_neg hdown, if_pos hup, int32_eq (by omega) (by omega)]
      dsimp only
      split
      · exact ⟨hthreshold, fun hdown => by omega, fun _ => by omega⟩
      · exact ⟨⟨by omega, by omega⟩, fun hdown => by omega, fun _ => by omega⟩
    · rw [if_neg hdown, if_neg hup]
      split
      · -- the driver has been depleted
        rename_i hdepleted
        obtain ⟨hvalid, -, hfar⟩ := hdepleted
        have hframes : 0 ≤ kernel_frames := (hkernel.resolve_left hvalid).1
        obtain ⟨hlow, hhigh⟩ := depleted_spec h hthreshold hframes hfar
        exact ⟨⟨hlow, hhigh.le.trans hthreshold₁⟩, fun h => absurd h hdown, fun h => absurd h hup⟩
      · exact ⟨hcur, fun h => absurd h hdown, fun h => absurd h hup⟩

/-! ## One call -/

/-- The turns that are enough for every sequence of readings. -/
def turns : Nat := 12

/-- The loop of a call ends and sleeps as it should, and then the threshold moves. -/
def Throttles (p : OutPcm) (write_threshold cur : Int) (readings : Nat → Option Nat) : Prop :=
  ∃ kernel_frames sleeps, p.sleepLoop cur readings turns 0 0 = some (kernel_frames, sleeps) ∧
    (∀ sleep ∈ sleeps, 0 ≤ sleep ∧ sleep ≤ MAX_WRITE_SLEEP_US) ∧
    sleeps.sum ≤ MAX_WRITE_SLEEP_US ∧
    p.Moves write_threshold cur (p.updateThreshold write_threshold cur kernel_frames)

/-- Whatever the driver answers, a call sleeps for a limited time and moves the threshold. -/
theorem throttles (h : p.Configured) {readings : Nat → Option Nat} (havail : p.Available readings)
    {write_threshold cur : Int} (hthreshold : p.IsThreshold write_threshold)
    (hcur : p.IsThreshold cur) : p.Throttles write_threshold cur readings := by
  have henough : MAX_WRITE_SLEEP_US - 0 < turns * MIN_WRITE_SLEEP_US := by decide
  obtain ⟨⟨kernel_frames, sleeps⟩, hr, hkernel, hsleeps, hall⟩ :=
    sleepLoop_spec h havail hcur.1 (Int.le_refl 0) (by decide) henough 0
  refine ⟨kernel_frames, sleeps, hr, hsleeps, by simpa using hall, ?_⟩
  exact updateThreshold_spec h hthreshold hcur hkernel

/-- `cur_write_threshold` after calls, each with its `write_threshold` and its readings. -/
def afterCalls (p : OutPcm) (cur : Int) : List (Int × (Nat → Option Nat)) → Option Int
  | [] => some cur
  | (write_threshold, readings) :: calls =>
      (p.sleepLoop cur readings turns 0 0).bind fun (kernel_frames, _) =>
        p.afterCalls (p.updateThreshold write_threshold cur kernel_frames) calls

/-- However many calls there are, each of them comes back, and the threshold stays one. -/
theorem isThreshold_afterCalls (h : p.Configured) {cur : Int} (hcur : p.IsThreshold cur)
    {calls : List (Int × (Nat → Option Nat))}
    (hcalls : ∀ call ∈ calls, p.IsThreshold call.1 ∧ p.Available call.2) :
    ∃ cur', p.afterCalls cur calls = some cur' ∧ p.IsThreshold cur' := by
  have henough : MAX_WRITE_SLEEP_US - 0 < turns * MIN_WRITE_SLEEP_US := by decide
  induction calls generalizing cur with
  | nil => exact ⟨cur, rfl, hcur⟩
  | cons call calls ih =>
      obtain ⟨write_threshold, readings⟩ := call
      obtain ⟨hthreshold, havail⟩ := hcalls _ List.mem_cons_self
      obtain ⟨⟨kernel_frames, sleeps⟩, hr, hkernel, -⟩ :=
        sleepLoop_spec h havail hcur.1 (Int.le_refl 0) (by decide) henough 0
      have hmoved := updateThreshold_spec h hthreshold hcur hkernel
      obtain ⟨cur', hcur', hlast⟩ := ih hmoved.threshold fun call hcall =>
        hcalls call (List.mem_cons_of_mem _ hcall)
      refine ⟨cur', ?_, hlast⟩
      rw [afterCalls, hr]
      exact hcur'

/-- The pcm of `pcm_config_out`, as it is. -/
def configOut : OutPcm := ⟨OUT_SAMPLING_RATE, OUT_PERIOD_SIZE, 4096⟩

/-- The driver is full, then plays a period in each turn, and then fails. -/
theorem throttles_configOut :
    configOut.Throttles 1024 1024 fun turn => if turn < 8 then some (512 * turn) else none := by
  refine throttles ⟨by decide, by decide, by decide, ⟨8, by decide, rfl⟩, by decide⟩ ?_
    ⟨by decide, by decide⟩ ⟨by decide, by decide⟩
  intro turn avail hreading
  dsimp only at hreading
  split at hreading
  · obtain rfl := Option.some.inj hreading
    change 512 * turn ≤ 4096
    omega
  · cases hreading

end OutPcm
end Audio
end DeviceAndroVM
