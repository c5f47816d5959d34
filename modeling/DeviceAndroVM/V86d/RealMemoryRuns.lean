import DeviceAndroVM.V86d.RealMemory
import Mathlib.Data.List.Perm.Basic

/-!
# Runs of the real mode allocator

* `mem_info.Sound` — the invariant: the blocks fill the memory, none is empty and no two
  neighbours are free.
* `Request` — a size for which the table is made: positive, and its sum with 15 is an `int`.
* `alloc_spec`, `free_spec` — what the two functions do to the regions in use.
* `real_memory_calls` — both, in every state that calls lead to.
* `real_memory_determined` — that state is determined by the regions in use.
-/

namespace DeviceAndroVM
namespace V86d

open Library Library.Arena

/-- The regions in use. -/
def mem_info.live (m : mem_info) : List (Nat × Nat) := regions REAL_MEM_BASE m.blocks

/-- There is room at an address for a number of bytes. -/
def mem_info.HasRoom (m : mem_info) (n p : Nat) : Prop :=
  Fits REAL_MEM_BASE (REAL_MEM_BASE + REAL_MEM_SIZE) m.live n p

structure mem_info.Sound (m : mem_info) : Prop where
  ready : m.ready = true
  merged : Merged m.blocks
  filled : total m.blocks = REAL_MEM_SIZE
  aligned : ∀ b ∈ m.blocks, 16 ∣ b.size
  count : m.blocks.length ≤ REAL_MEM_BLOCKS

/-- A size for which the table is made. -/
def Request (size : Int) : Prop := 0 < size ∧ size < 0x7FFFFFF1

instance (size : Int) : Decidable (Request size) := inferInstanceAs (Decidable (_ ∧ _))

/-- A size in whole paragraphs. -/
theorem paragraphs_eq {size : Int} (hlow : 0 ≤ size) (hhigh : size < 0x7FFFFFF1) :
    paragraphs size = ((size.toNat + 15) / 16 * 16 : Nat) := by
  have hwrap : (size + 15).bmod 0x100000000 = size + 15 :=
    Int.bmod_eq_of_le (by omega) (by omega)
  rw [paragraphs, hwrap]
  omega

theorem findFree_eq (n : Nat) (blocks : List Block) (i r : Nat) :
    findFree n blocks i r = firstFit n blocks i r := by
  induction blocks generalizing i r with
  | nil => rfl
  | cons b blocks ih =>
      rw [findFree, firstFit, ih]
      simp only [Int.ofNat_lt]

namespace mem_info

variable {m : mem_info}

theorem Sound.hasRoom_iff (h : m.Sound) (n p : Nat) :
    m.HasRoom n p ↔ Room REAL_MEM_BASE m.blocks n p := by
  rw [Room, h.filled]
  rfl

theorem sound_init : (real_mem_init ⟨false, []⟩ true).2.Sound where
  ready := rfl
  merged := ⟨List.isChain_singleton _, fun b hb => by
    obtain rfl := List.mem_singleton.mp hb
    decide⟩
  filled := rfl
  aligned := fun b hb => by
    obtain rfl := List.mem_singleton.mp hb
    decide
  count := by decide

/-- A free block of a sound table is smaller than the field for its size. -/
theorem Sound.size_lt {before after : List Block} {b : Block} (h : m.Sound)
    (hblocks : m.blocks = before ++ b :: after) :
    total before + b.size + total after = REAL_MEM_SIZE := by
  have htotal := h.filled
  rw [hblocks, total_append, total_cons] at htotal
  omega

/-- What `LRMI_alloc_real` makes of a size: where there is no room, or the table is full, nothing
happens; else the lowest place is taken. -/
theorem alloc_spec (h : m.Sound) {size : Int} (hlow : 0 ≤ size) (hhigh : size < 0x7FFFFFF1) :
    let n := (size.toNat + 15) / 16 * 16
    (LRMI_alloc_real m size = (none, m) ∧
        (m.blocks.length = REAL_MEM_BLOCKS ∨ ∀ p, ¬ m.HasRoom (n + 1) p)) ∨
      ∃ before k after, m.blocks = before ++ ⟨k, true⟩ :: after ∧ n < k ∧
        m.blocks.length < REAL_MEM_BLOCKS ∧
        (∀ q, m.HasRoom (n + 1) q → REAL_MEM_BASE + total before ≤ q) ∧
        LRMI_alloc_real m size =
          (some (REAL_MEM_BASE + total before), { m with blocks := carve before k n after }) := by
  intro n
  have hn : paragraphs size = (n : Nat) := paragraphs_eq hlow hhigh
  by_cases hfull : m.blocks.length = REAL_MEM_BLOCKS
  · refine .inl ⟨?_, .inl hfull⟩
    simp [LRMI_alloc_real, h.ready, hfull]
  · have hcount : m.blocks.length < REAL_MEM_BLOCKS := lt_of_le_of_ne h.count hfull
    unfold LRMI_alloc_real
    simp only [h.ready, Bool.not_true, Bool.false_eq_true, if_false, hfull, hn, findFree_eq]
    cases hfound : firstFit n m.blocks 0 REAL_MEM_BASE with
    | none =>
        refine .inl ⟨rfl, .inr fun p hroom => ?_⟩
        exact firstFit_none h.merged hfound p ((h.hasRoom_iff _ _).mp hroom)
    | some found =>
        obtain ⟨i, r⟩ := found
        obtain ⟨before, k, after, hblocks, hi, hr, hsize, hlowest⟩ := firstFit_spec h.merged hfound
        have hk := h.size_lt hblocks
        rw [Nat.zero_add] at hi
        have hcarve := @carve_numbers before after k n hsize
          (show k < 0x100000 by
            dsimp only at hk
            unfold REAL_MEM_SIZE at hk
            omega)
        refine .inr ⟨before, k, after, hblocks, hsize, hcount, fun q hq => ?_, ?_⟩
        · rw [← hr]
          exact hlowest q ((h.hasRoom_iff _ _).mp hq)
        · dsimp only
          rw [hi, hr, hblocks, hcarve]

/-- A table with a block cut off is sound. -/
theorem Sound.carve {before after : List Block} {k n : Nat} (h : m.Sound)
    (hblocks : m.blocks = before ++ ⟨k, true⟩ :: after) (hpos : 0 < n) (halign : 16 ∣ n)
    (hsize : n < k) (hcount : m.blocks.length < REAL_MEM_BLOCKS) :
    { m with blocks := carve before k n after }.Sound := by
  have hmerged := h.merged
  have htotal := h.filled
  rw [hblocks] at hmerged htotal
  refine ⟨h.ready, hmerged.carve hpos hsize, (total_carve hsize).trans htotal, fun b hb => ?_, ?_⟩
  · have hk : 16 ∣ k := h.aligned ⟨k, true⟩ (by rw [hblocks]; simp)
    rcases List.mem_append.mp hb with hmem | hmem
    · exact h.aligned b (by rw [hblocks]; exact List.mem_append_left _ hmem)
    · rcases List.mem_cons.mp hmem with rfl | hmem
      · exact halign
      · rcases List.mem_cons.mp hmem with rfl | hmem
        · exact Nat.dvd_sub hk halign
        · refine h.aligned b ?_
          rw [hblocks]
          exact List.mem_append_right _ (List.mem_cons_of_mem _ hmem)
  · rw [hblocks, List.length_append, List.length_cons] at hcount
    simp only [Arena.carve, List.length_append, List.length_cons]
    omega

/-- `LRMI_free_real` on the block that it finds. -/
theorem free_numbers {before after : List Block} {n : Nat} {free : Bool} (h : m.Sound)
    (hblocks : m.blocks = before ++ ⟨n, free⟩ :: after) :
    mergePrev (mergeNext (m.blocks.modify before.length fun b => { b with free := true })
      before.length) before.length = release before n after := by
  have hsize := h.size_lt hblocks
  dsimp only at hsize
  unfold REAL_MEM_SIZE at hsize
  have hnext : (nextFree after).1 ≤ total after := by
    rcases nextFree_spec after with ⟨hnone, -⟩ | ⟨k, rest, rfl, hsome⟩
    · rw [hnone]
      exact Nat.zero_le _
    · rw [hsome]
      exact Nat.le_add_right _ _
  rw [hblocks, modify_middle]
  dsimp only
  rw [mergeNext_numbers (by omega), mergePrev_numbers (by omega), release, Nat.add_assoc]

/-- What `LRMI_free_real` makes of an address: the region that begins there is gone. -/
theorem free_spec (h : m.Sound) (p : Nat) :
    (LRMI_free_real m p).Sound ∧ (LRMI_free_real m p).live = m.live.filter (·.1 ≠ p) := by
  obtain ⟨ready, blocks⟩ := m
  obtain rfl : ready = true := h.ready
  unfold LRMI_free_real
  simp only [Bool.not_true, Bool.false_eq_true, if_false]
  cases hfound : blockAt p blocks 0 REAL_MEM_BASE with
  | none =>
      refine ⟨h, (List.filter_eq_self.mpr fun x hx => ?_).symm⟩
      exact decide_eq_true (fst_ne_of_blockAt_none hfound x hx)
  | some i =>
      obtain ⟨before, ⟨n, free⟩, after, rfl, hi, hp⟩ := blockAt_spec hfound
      rw [Nat.zero_add] at hi
      have hmerged : Merged (before ++ ⟨n, free⟩ :: after) := h.merged
      have hfree := free_numbers h rfl
      dsimp only at hfree ⊢
      rw [hi, hfree]
      cases free with
      | true =>
          rw [hmerged.release_free]
          refine ⟨h, (List.filter_eq_self.mpr fun x hx => decide_eq_true ?_).symm⟩
          obtain ⟨hbefore, hafter⟩ := hmerged.fst_ne REAL_MEM_BASE
          rw [live, regions_append, regions_free] at hx
          rw [hp]
          rcases List.mem_append.mp hx with hmem | hmem
          · exact hbefore x hmem
          · exact hafter x hmem
      | false =>
          refine ⟨⟨rfl, hmerged.release, ?_, dvd_release h.aligned, ?_⟩, ?_⟩
          · have hsize := h.size_lt rfl
            rw [total_release]
            exact hsize
          · have hlength := length_release_le n before after
            have hcount := h.count
            rw [List.length_append, List.length_cons] at hcount
            dsimp only
            omega
          · rw [live, live, hp]
            exact regions_release_eq_filter hmerged

end mem_info

/-! ## Runs -/

/-- A call of the allocator. -/
inductive Call
  | alloc (size : Int)
  | free (p : Nat)
  deriving DecidableEq, Repr

/-- The sizes are such that the table is made for. -/
def Call.Valid : Call → Prop
  | .alloc size => Request size
  | .free _ => True

instance : ∀ c : Call, Decidable c.Valid
  | .alloc size => inferInstanceAs (Decidable (Request size))
  | .free _ => isTrue trivial

namespace mem_info

def call (m : mem_info) : Call → mem_info
  | .alloc size => (LRMI_alloc_real m size).2
  | .free p => LRMI_free_real m p

/-- The table after some calls. -/
def after (calls : List Call) : mem_info :=
  calls.foldl call (real_mem_init ⟨false, []⟩ true).2

variable {m m' : mem_info}

theorem Sound.call {c : Call} (h : m.Sound) (hvalid : c.Valid) : (m.call c).Sound := by
  cases c with
  | alloc size =>
      obtain ⟨hlow, hhigh⟩ := hvalid
      rw [mem_info.call]
      rcases alloc_spec h (Int.le_of_lt hlow) hhigh with ⟨hnone, -⟩ | hsome
      · rw [hnone]
        exact h
      · obtain ⟨before, k, after, hblocks, hk, hcount, -, halloc⟩ := hsome
        rw [halloc]
        exact h.carve hblocks (by omega) (Nat.dvd_mul_left _ _) hk hcount
  | free p => exact (free_spec h p).1

theorem sound_after {calls : List Call} (hvalid : ∀ c ∈ calls, c.Valid) : (after calls).Sound := by
  unfold after
  have hinit := sound_init
  generalize (real_mem_init ⟨false, []⟩ true).2 = m at hinit
  induction calls generalizing m with
  | nil => exact hinit
  | cons c calls ih =>
      exact ih (fun d hd => hvalid d (List.mem_cons_of_mem c hd)) (m.call c)
        (hinit.call (hvalid c List.mem_cons_self))

/-- The regions are apart from one another, in whole paragraphs, and in the memory. -/
theorem Sound.live_apart (h : m.Sound) :
    m.live.Pairwise (fun x y => x.1 + x.2 ≤ y.1) ∧
      ∀ x ∈ m.live, 16 ∣ x.1 ∧ 16 ∣ x.2 ∧ 0 < x.2 ∧ REAL_MEM_BASE ≤ x.1 ∧
        x.1 + x.2 ≤ REAL_MEM_BASE + REAL_MEM_SIZE := by
  refine ⟨pairwise_regions _ _, fun x hx => ?_⟩
  have hbounds := bounds_of_mem_regions hx
  rw [h.filled] at hbounds
  have haligned := dvd_of_mem_regions (by decide : 16 ∣ REAL_MEM_BASE) h.aligned hx
  exact ⟨haligned.1, haligned.2, pos_of_mem_regions h.merged.nonempty hx, hbounds.1, hbounds.2⟩

end mem_info

/-- Whatever has been called, the regions in use are apart, a call for memory takes the lowest
place where one byte more than it needs is free, and leaves everything alone when there is none
or the table is full; giving an address back takes away the region there, and no other. -/
theorem real_memory_calls {calls : List Call} (hvalid : ∀ c ∈ calls, c.Valid) :
    let m := mem_info.after calls
    (m.live.Pairwise (fun x y => x.1 + x.2 ≤ y.1) ∧
      ∀ x ∈ m.live, 16 ∣ x.1 ∧ 16 ∣ x.2 ∧ 0 < x.2 ∧ REAL_MEM_BASE ≤ x.1 ∧
        x.1 + x.2 ≤ REAL_MEM_BASE + REAL_MEM_SIZE) ∧
    (∀ size, Request size →
      let n := (size.toNat + 15) / 16 * 16
      (LRMI_alloc_real m size = (none, m) ∧
          (m.blocks.length = REAL_MEM_BLOCKS ∨ ∀ p, ¬ m.HasRoom (n + 1) p)) ∨
        ∃ r m', LRMI_alloc_real m size = (some r, m') ∧ m'.live.Perm ((r, n) :: m.live) ∧
          m.blocks.length < REAL_MEM_BLOCKS ∧ m.HasRoom (n + 1) r ∧
          ∀ q, m.HasRoom (n + 1) q → r ≤ q) ∧
    ∀ p, (LRMI_free_real m p).live = m.live.filter (·.1 ≠ p) := by
  have hsound := mem_info.sound_after hvalid
  generalize mem_info.after calls = m at hsound
  refine ⟨hsound.live_apart, fun size hsize => ?_, fun p => (mem_info.free_spec hsound p).2⟩
  rcases mem_info.alloc_spec hsound (Int.le_of_lt hsize.1) hsize.2 with hnone | hsome
  · exact .inl hnone
  · obtain ⟨before, k, after, hblocks, hk, hcount, hlowest, halloc⟩ := hsome
    refine .inr ⟨_, _, halloc, ?_, hcount, ?_, hlowest⟩
    · rw [mem_info.live, mem_info.live, hblocks, regions_carve hk, regions_append, regions_free]
      exact List.perm_middle
    · rw [hsound.hasRoom_iff, hblocks]
      exact room_of_free hk

theorem real_memory_calls_two :
    (LRMI_free_real (mem_info.after [.alloc 16, .alloc 20]) 0x1000).live =
      (mem_info.after [.alloc 16, .alloc 20]).live.filter (·.1 ≠ 0x1000) :=
  (@real_memory_calls [.alloc 16, .alloc 20] (by decide)).2.2 0x1000

/-- Whatever has been called before, the table is determined by the regions in use. -/
theorem real_memory_determined {calls calls' : List Call} (hvalid : ∀ c ∈ calls, c.Valid)
    (hvalid' : ∀ c ∈ calls', c.Valid)
    (hlive : (mem_info.after calls).live = (mem_info.after calls').live) :
    mem_info.after calls = mem_info.after calls' := by
  have hsound := mem_info.sound_after hvalid
  have hsound' := mem_info.sound_after hvalid'
  generalize mem_info.after calls = m at *
  generalize mem_info.after calls' = m' at *
  obtain ⟨ready, blocks⟩ := m
  obtain ⟨ready', blocks'⟩ := m'
  obtain rfl : ready = true := hsound.ready
  obtain rfl : ready' = true := hsound'.ready
  have hblocks : blocks = blocks' :=
    eq_of_regions hsound.merged hsound'.merged (hsound.filled.trans hsound'.filled.symm) hlive
  rw [hblocks]

/-- The second of two blocks, with or without a third that is given back. -/
theorem real_memory_determined_second :
    mem_info.after [.alloc 16, .alloc 20, .free 0x1000] =
      mem_info.after [.alloc 16, .alloc 20, .alloc 5, .free 0x1030, .free 0x1000] :=
  real_memory_determined (by decide) (by decide) (by decide)

end V86d
end DeviceAndroVM
