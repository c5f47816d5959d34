import Mathlib.Data.List.Basic
import Mathlib.Data.List.Chain

/-!
# Arenas of blocks

An arena is cut into blocks, one behind the other, each free or in use.  What its users see are
the regions in use.

* `regions` — the address and the size of every block in use.
* `Merged` — no block is empty, and no two neighbours are free.
* `Fits`, `Room` — there is room at an address for a number of bytes, seen from the regions alone.
* `firstFit` — the search for a free block that is larger than a size; `firstFit_spec` says that it
  finds the lowest place where one byte more than the size fits.
* `carve` — a block is cut off the front of a free one.
* `blockAt` — the search for the block at an address.
* `release` — a block becomes free and is merged with the free blocks next to it.
* `eq_of_regions` — a merged arena is determined by its regions.
-/

namespace DeviceAndroVM
namespace Library

/-- A block of an arena. -/
structure Block where
  size : Nat
  free : Bool
  deriving DecidableEq, Repr

namespace Arena

variable {base p n size : Nat} {blocks before after : List Block}

/-- The size of the arena. -/
def total : List Block → Nat
  | [] => 0
  | b :: blocks => b.size + total blocks

/-- The regions in use of an arena that begins at an address. -/
def regions : Nat → List Block → List (Nat × Nat)
  | _, [] => []
  | base, b :: blocks =>
      if b.free then regions (base + b.size) blocks
      else (base, b.size) :: regions (base + b.size) blocks

@[simp] theorem total_nil : total [] = 0 := rfl

@[simp] theorem total_cons (b : Block) (blocks : List Block) :
    total (b :: blocks) = b.size + total blocks := rfl

@[simp] theorem total_append (before after : List Block) :
    total (before ++ after) = total before + total after := by
  induction before with
  | nil => simp
  | cons b before ih => simp [ih, Nat.add_assoc]

@[simp] theorem regions_nil (base : Nat) : regions base [] = [] := rfl

@[simp] theorem regions_free (base n : Nat) (blocks : List Block) :
    regions base (⟨n, true⟩ :: blocks) = regions (base + n) blocks := rfl

@[simp] theorem regions_used (base n : Nat) (blocks : List Block) :
    regions base (⟨n, false⟩ :: blocks) = (base, n) :: regions (base + n) blocks := rfl

@[simp] theorem regions_append (base : Nat) (before after : List Block) :
    regions base (before ++ after) =
      regions base before ++ regions (base + total before) after := by
  induction before generalizing base with
  | nil => simp
  | cons b before ih =>
      obtain ⟨n, free⟩ := b
      cases free <;> simp [ih, Nat.add_assoc]

/-! ## Where the regions are -/

theorem bounds_of_mem_regions {x : Nat × Nat} (h : x ∈ regions base blocks) :
    base ≤ x.1 ∧ x.1 + x.2 ≤ base + total blocks := by
  induction blocks generalizing base with
  | nil => cases h
  | cons b blocks ih =>
      obtain ⟨n, free⟩ := b
      cases free with
      | true =>
          have hrest := ih h
          rw [total_cons]
          dsimp only at hrest ⊢
          omega
      | false =>
          rw [total_cons]
          rcases List.mem_cons.mp h with rfl | hmem
          · dsimp only
            omega
          · have hrest := ih hmem
            dsimp only at hrest ⊢
            omega

/-- The regions follow one another. -/
theorem pairwise_regions (base : Nat) (blocks : List Block) :
    (regions base blocks).Pairwise fun x y => x.1 + x.2 ≤ y.1 := by
  induction blocks generalizing base with
  | nil => exact List.Pairwise.nil
  | cons b blocks ih =>
      obtain ⟨n, free⟩ := b
      cases free with
      | true => exact ih (base + n)
      | false => exact List.pairwise_cons.mpr ⟨fun y hy => (bounds_of_mem_regions hy).1, ih _⟩

theorem pos_of_mem_regions {x : Nat × Nat} (hblocks : ∀ b ∈ blocks, 0 < b.size)
    (h : x ∈ regions base blocks) : 0 < x.2 := by
  induction blocks generalizing base with
  | nil => cases h
  | cons b blocks ih =>
      obtain ⟨n, free⟩ := b
      have hrest : ∀ c ∈ blocks, 0 < c.size := fun c hc => hblocks c (List.mem_cons_of_mem _ hc)
      cases free with
      | true => exact ih hrest h
      | false =>
          rcases List.mem_cons.mp h with rfl | hmem
          · exact hblocks _ List.mem_cons_self
          · exact ih hrest hmem

/-- What divides the address of the arena and all sizes divides where the regions are. -/
theorem dvd_of_mem_regions {d : Nat} {x : Nat × Nat} (hbase : d ∣ base)
    (hblocks : ∀ b ∈ blocks, d ∣ b.size) (h : x ∈ regions base blocks) : d ∣ x.1 ∧ d ∣ x.2 := by
  induction blocks generalizing base with
  | nil => cases h
  | cons b blocks ih =>
      obtain ⟨n, free⟩ := b
      have hn : d ∣ n := hblocks ⟨n, free⟩ List.mem_cons_self
      have hrest : ∀ c ∈ blocks, d ∣ c.size := fun c hc => hblocks c (List.mem_cons_of_mem _ hc)
      cases free with
      | true => exact ih (Nat.dvd_add hbase hn) hrest h
      | false =>
          rcases List.mem_cons.mp h with rfl | hmem
          · exact ⟨hbase, hn⟩
          · exact ih (Nat.dvd_add hbase hn) hrest hmem

/-! ## Merged arenas -/

/-- No two neighbours are free. -/
def Separate (a b : Block) : Prop := ¬(a.free = true ∧ b.free = true)

/-- No block is empty, and no two neighbours are free. -/
structure Merged (blocks : List Block) : Prop where
  chain : blocks.IsChain Separate
  nonempty : ∀ b ∈ blocks, 0 < b.size

theorem Merged.tail {b : Block} (h : Merged (b :: blocks)) : Merged blocks :=
  ⟨h.chain.tail, fun c hc => h.nonempty c (List.mem_cons_of_mem b hc)⟩

/-- What follows a free block is in use. -/
theorem Merged.used_next {b : Block} (h : Merged (⟨n, true⟩ :: b :: blocks)) : b.free = false := by
  have hseparate := (List.isChain_cons_cons.mp h.chain).1
  exact Bool.eq_false_iff.mpr fun hfree => hseparate ⟨rfl, hfree⟩

/-- Behind a free block there is a region at its end, or nothing. -/
theorem Merged.regions_next (base : Nat) (h : Merged (⟨n, true⟩ :: blocks)) :
    blocks = [] ∨ ∃ m more, regions base blocks = (base, m) :: more := by
  cases blocks with
  | nil => exact .inl rfl
  | cons b blocks =>
      obtain ⟨m, free⟩ := b
      obtain rfl : free = false := h.used_next
      exact .inr ⟨m, regions (base + m) blocks, rfl⟩

/-- A merged arena is determined by its regions. -/
theorem eq_of_regions {blocks' : List Block} (h : Merged blocks) (h' : Merged blocks')
    (htotal : total blocks = total blocks')
    (hregions : regions base blocks = regions base blocks') : blocks = blocks' := by
  induction blocks generalizing base blocks' with
  | nil =>
      cases blocks' with
      | nil => rfl
      | cons b' blocks' =>
          obtain ⟨n', free'⟩ := b'
          cases free' with
          | false => cases hregions
          | true =>
              have hpos := h'.nonempty _ List.mem_cons_self
              rw [total_cons, total_nil] at htotal
              dsimp only at hpos htotal
              omega
  | cons b blocks ih =>
      obtain ⟨n, free⟩ := b
      cases blocks' with
      | nil =>
          cases free with
          | false => cases hregions
          | true =>
              have hpos := h.nonempty _ List.mem_cons_self
              rw [total_cons, total_nil] at htotal
              dsimp only at hpos htotal
              omega
      | cons b' blocks' =>
          obtain ⟨n', free'⟩ := b'
          rw [total_cons, total_cons] at htotal
          dsimp only at htotal
          cases free with
          | false =>
              cases free' with
              | false =>
                  rw [regions_used, regions_used] at hregions
                  obtain ⟨hhead, hrest⟩ := List.cons.inj hregions
                  obtain rfl : n = n' := (Prod.mk.inj hhead).2
                  rw [ih h.tail h'.tail (by omega) hrest]
              | true =>
                  -- the first region begins behind the free block
                  have hpos := h'.nonempty _ List.mem_cons_self
                  have hmem : (base, n) ∈ regions (base + n') blocks' := by
                    rw [regions_used, regions_free] at hregions
                    rw [← hregions]
                    exact List.mem_cons_self
                  have hbound := (bounds_of_mem_regions hmem).1
                  dsimp only at hpos hbound
                  omega
          | true =>
              cases free' with
              | false =>
                  have hpos := h.nonempty _ List.mem_cons_self
                  have hmem : (base, n') ∈ regions (base + n) blocks := by
                    rw [regions_used, regions_free] at hregions
                    rw [hregions]
                    exact List.mem_cons_self
                  have hbound := (bounds_of_mem_regions hmem).1
                  dsimp only at hpos hbound
                  omega
              | true =>
                  rw [regions_free, regions_free] at hregions
                  have hsize : n = n' := by
                    rcases h.regions_next (base + n) with rfl | ⟨m, more, hnext⟩
                    · rcases h'.regions_next (base + n') with rfl | ⟨m', more', hnext'⟩
                      · simpa using htotal
                      · rw [hnext'] at hregions
                        cases hregions
                    · rcases h'.regions_next (base + n') with rfl | ⟨m', more', hnext'⟩
                      · rw [hnext] at hregions
                        cases hregions
                      · rw [hnext, hnext'] at hregions
                        have hstart := congrArg Prod.fst (List.cons.inj hregions).1
                        dsimp only at hstart
                        omega
                  subst hsize
                  rw [ih h.tail h'.tail (by omega) hregions]

/-! ## Room -/

/-- The `n` bytes from an address on are between two others, and apart from every region. -/
structure Fits (low high : Nat) (live : List (Nat × Nat)) (n p : Nat) : Prop where
  lower : low ≤ p
  upper : p + n ≤ high
  apart : ∀ x ∈ live, p + n ≤ x.1 ∨ x.1 + x.2 ≤ p

/-- There is room at an address of an arena. -/
abbrev Room (base : Nat) (blocks : List Block) (n p : Nat) : Prop :=
  Fits base (base + total blocks) (regions base blocks) n p

/-- The place and the address of the first free block that is larger than a size; `i` and `r` are
those of the first block. -/
def firstFit (size : Nat) : List Block → Nat → Nat → Option (Nat × Nat)
  | [], _, _ => none
  | b :: blocks, i, r =>
      if b.free && size < b.size then some (i, r) else firstFit size blocks (i + 1) (r + b.size)

/-- Room that is not at the front is behind the first block. -/
theorem Room.next {b : Block} (h : Merged (b :: blocks)) (hfits : Room base (b :: blocks) (size + 1) p)
    (hsmall : b.free = true → b.size ≤ size) : Room (base + b.size) blocks (size + 1) p := by
  obtain ⟨n, free⟩ := b
  have hupper := hfits.upper
  rw [total_cons] at hupper
  dsimp only at hupper ⊢
  have hlower : base + n ≤ p := by
    cases free with
    | false =>
        rcases hfits.apart (base, n) List.mem_cons_self with hbefore | hbehind
        · have hlow := hfits.lower
          dsimp only at hbefore
          omega
        · exact hbehind
    | true =>
        have hlow := hfits.lower
        have hn : n ≤ size := hsmall rfl
        rcases h.regions_next (base + n) with rfl | ⟨m, more, hnext⟩
        · rw [total_nil] at hupper
          omega
        · have hmem : (base + n, m) ∈ regions base (⟨n, true⟩ :: blocks) := by
            rw [regions_free, hnext]
            exact List.mem_cons_self
          rcases hfits.apart _ hmem with hbefore | hbehind
          · dsimp only at hbefore
            omega
          · dsimp only at hbehind
            omega
  refine ⟨hlower, by omega, fun x hx => hfits.apart x ?_⟩
  cases free with
  | false => exact List.mem_cons_of_mem _ hx
  | true => exact hx

/-- The search ends at a free block that is large enough, and there is no room before it. -/
theorem firstFit_spec {i k : Nat} (h : Merged blocks)
    (hfound : firstFit size blocks i base = some (k, p)) :
    ∃ before n after, blocks = before ++ ⟨n, true⟩ :: after ∧ k = i + before.length ∧
      p = base + total before ∧ size < n ∧ ∀ q, Room base blocks (size + 1) q → p ≤ q := by
  induction blocks generalizing base i with
  | nil => cases hfound
  | cons b blocks ih =>
      rw [firstFit] at hfound
      split at hfound
      · rename_i hhead
        obtain ⟨hi, hr⟩ := Prod.mk.inj (Option.some.inj hfound)
        obtain ⟨n, free⟩ := b
        simp only [Bool.and_eq_true, decide_eq_true_eq] at hhead
        obtain ⟨rfl, hsize⟩ := hhead
        exact ⟨[], n, blocks, rfl, hi.symm, hr.symm, hsize, fun q hq => hr ▸ hq.lower⟩
      · rename_i hhead
        obtain ⟨before, n, after, hblocks, hk, hp, hsize, hlowest⟩ := ih h.tail hfound
        refine ⟨b :: before, n, after, by rw [hblocks, List.cons_append], ?_, ?_, hsize, ?_⟩
        · rw [hk, List.length_cons]
          omega
        · rw [hp, total_cons]
          omega
        · intro q hq
          refine hlowest q (Room.next h hq fun hfree => ?_)
          simpa [hfree] using hhead

theorem firstFit_none {i : Nat} (h : Merged blocks) (hnone : firstFit size blocks i base = none) :
    ∀ q, ¬ Room base blocks (size + 1) q := by
  induction blocks generalizing base i with
  | nil =>
      intro q hq
      have hlower := hq.lower
      have hupper := hq.upper
      rw [total_nil] at hupper
      omega
  | cons b blocks ih =>
      rw [firstFit] at hnone
      split at hnone
      · cases hnone
      · rename_i hhead
        intro q hq
        refine ih h.tail hnone q (Room.next h hq fun hfree => ?_)
        simpa [hfree] using hhead

/-- The front of a free block has room. -/
theorem room_of_free (h : size < n) :
    Room base (before ++ ⟨n, true⟩ :: after) (size + 1) (base + total before) := by
  refine ⟨Nat.le_add_right _ _, ?_, fun x hx => ?_⟩
  · rw [total_append, total_cons]
    dsimp only
    omega
  · rw [regions_append, regions_free] at hx
    rcases List.mem_append.mp hx with hbefore | hafter
    · exact .inr (bounds_of_mem_regions hbefore).2
    · have hbound := (bounds_of_mem_regions hafter).1
      exact .inl (by omega)

/-! ## A block is cut off -/

/-- A used block in front of what is left of a free one. -/
def carve (before : List Block) (n size : Nat) (after : List Block) : List Block :=
  before ++ ⟨size, false⟩ :: ⟨n - size, true⟩ :: after

theorem total_carve (h : size < n) :
    total (carve before n size after) = total (before ++ ⟨n, true⟩ :: after) := by
  simp only [carve, total_append, total_cons]
  omega

theorem regions_carve (h : size < n) :
    regions base (carve before n size after) =
      regions base before ++
        (base + total before, size) :: regions (base + total before + n) after := by
  have hend : base + total before + size + (n - size) = base + total before + n := by omega
  rw [carve, regions_append, regions_used, regions_free, hend]

theorem Merged.carve (h : Merged (before ++ ⟨n, true⟩ :: after)) (hpos : 0 < size)
    (hsize : size < n) : Merged (carve before n size after) := by
  obtain ⟨hbefore, hrest, -⟩ := List.isChain_append.mp h.chain
  constructor
  · refine List.isChain_append.mpr ⟨hbefore, ?_, fun a _ b hb => ?_⟩
    · refine List.isChain_cons_cons.mpr ⟨fun hfree => Bool.noConfusion hfree.1, ?_⟩
      obtain ⟨hnext, hafter⟩ := List.isChain_cons.mp hrest
      exact List.isChain_cons.mpr ⟨fun y hy hfree => hnext y hy ⟨rfl, hfree.2⟩, hafter⟩
    · obtain rfl : ⟨size, false⟩ = b := Option.some.inj hb
      exact fun hfree => Bool.noConfusion hfree.2
  · intro b hb
    rcases List.mem_append.mp hb with hmem | hmem
    · exact h.nonempty b (List.mem_append_left _ hmem)
    · rcases List.mem_cons.mp hmem with rfl | hmem
      · exact hpos
      · rcases List.mem_cons.mp hmem with rfl | hmem
        · exact Nat.sub_pos_of_lt hsize
        · exact h.nonempty b (List.mem_append_right _ (List.mem_cons_of_mem _ hmem))

/-! ## A block is given back -/

/-- The number of the block at an address; `i` and `r` are those of the first block. -/
def blockAt (p : Nat) : List Block → Nat → Nat → Option Nat
  | [], _, _ => none
  | b :: blocks, i, r => if p = r then some i else blockAt p blocks (i + 1) (r + b.size)

theorem blockAt_spec {i k : Nat} (h : blockAt p blocks i base = some k) :
    ∃ before b after, blocks = before ++ b :: after ∧ k = i + before.length ∧
      p = base + total before := by
  induction blocks generalizing base i with
  | nil => cases h
  | cons b blocks ih =>
      rw [blockAt] at h
      split at h
      · rename_i hp
        obtain rfl := Option.some.inj h
        exact ⟨[], b, blocks, rfl, rfl, hp⟩
      · obtain ⟨before, c, after, hblocks, hk, hp⟩ := ih h
        refine ⟨b :: before, c, after, by rw [hblocks, List.cons_append], ?_, ?_⟩
        · rw [hk, List.length_cons]
          omega
        · rw [hp, total_cons]
          omega

/-- Where there is no block there is no region. -/
theorem fst_ne_of_blockAt_none {i : Nat} (h : blockAt p blocks i base = none) :
    ∀ x ∈ regions base blocks, x.1 ≠ p := by
  induction blocks generalizing base i with
  | nil =>
      intro x hx
      cases hx
  | cons b blocks ih =>
      rw [blockAt] at h
      split at h
      · cases h
      · rename_i hp
        obtain ⟨n, free⟩ := b
        intro x hx
        cases free with
        | true => exact ih h x hx
        | false =>
            rcases List.mem_cons.mp hx with rfl | hmem
            · exact fun heq => hp heq.symm
            · exact ih h x hmem

/-- The regions before and behind a block are not at its address. -/
theorem Merged.fst_ne (base : Nat) {b : Block} (h : Merged (before ++ b :: after)) :
    (∀ x ∈ regions base before, x.1 ≠ base + total before) ∧
      ∀ x ∈ regions (base + total before + b.size) after, x.1 ≠ base + total before := by
  have hpos := h.nonempty b (List.mem_append_right _ List.mem_cons_self)
  constructor
  · intro x hx
    have hsize := pos_of_mem_regions (fun c hc => h.nonempty c (List.mem_append_left _ hc)) hx
    have hbound := (bounds_of_mem_regions hx).2
    omega
  · intro x hx
    have hbound := (bounds_of_mem_regions hx).1
    omega

/-- The free block at the front, when there is one, and what follows it. -/
def nextFree : List Block → Nat × List Block
  | ⟨m, true⟩ :: after => (m, after)
  | after => (0, after)

/-- The free block at the end, when there is one, and what precedes it. -/
def prevFree (before : List Block) : List Block × Nat :=
  match before.getLast? with
  | some ⟨m, true⟩ => (before.dropLast, m)
  | _ => (before, 0)

/-- A free block of a size in place of a used one, merged with its neighbours. -/
def release (before : List Block) (n : Nat) (after : List Block) : List Block :=
  (prevFree before).1 ++ ⟨(prevFree before).2 + n + (nextFree after).1, true⟩ :: (nextFree after).2

theorem nextFree_spec (after : List Block) :
    (nextFree after = (0, after) ∧ ∀ b ∈ after.head?, b.free = false) ∨
      ∃ m rest, after = ⟨m, true⟩ :: rest ∧ nextFree after = (m, rest) := by
  match after with
  | [] => exact .inl ⟨rfl, fun b hb => by cases hb⟩
  | ⟨m, true⟩ :: rest => exact .inr ⟨m, rest, rfl, rfl⟩
  | ⟨m, false⟩ :: rest =>
      refine .inl ⟨rfl, fun b hb => ?_⟩
      obtain rfl : ⟨m, false⟩ = b := Option.some.inj hb
      rfl

@[simp] theorem prevFree_nil : prevFree [] = ([], 0) := rfl

@[simp] theorem prevFree_concat_free (before : List Block) (m : Nat) :
    prevFree (before ++ [⟨m, true⟩]) = (before, m) := by
  simp [prevFree]

@[simp] theorem prevFree_concat_used (before : List Block) (m : Nat) :
    prevFree (before ++ [⟨m, false⟩]) = (before ++ [⟨m, false⟩], 0) := by
  simp [prevFree]

theorem prevFree_spec (before : List Block) :
    (prevFree before = (before, 0) ∧ ∀ b ∈ before.getLast?, b.free = false) ∨
      ∃ first m, before = first ++ [⟨m, true⟩] ∧ prevFree before = (first, m) := by
  rcases before.eq_nil_or_concat' with rfl | ⟨first, ⟨m, free⟩, rfl⟩
  · exact .inl ⟨rfl, fun b hb => by cases hb⟩
  · cases free with
    | true => exact .inr ⟨first, m, rfl, prevFree_concat_free first m⟩
    | false =>
        refine .inl ⟨prevFree_concat_used first m, fun b hb => ?_⟩
        rw [List.getLast?_concat] at hb
        obtain rfl : ⟨m, false⟩ = b := Option.some.inj hb
        rfl

/-- The regions next to a block that is given back stay where they are. -/
theorem regions_release (base n : Nat) (before after : List Block) :
    regions base (release before n after) =
      regions base before ++ regions (base + total before + n) after := by
  have hbefore : regions base (prevFree before).1 = regions base before ∧
      total (prevFree before).1 + (prevFree before).2 = total before := by
    rcases prevFree_spec before with ⟨hnone, -⟩ | ⟨first, m, rfl, hsome⟩
    · rw [hnone]
      exact ⟨rfl, rfl⟩
    · rw [hsome]
      constructor <;> simp
  have hafter : ∀ r, regions (r + (nextFree after).1) (nextFree after).2 = regions r after := by
    intro r
    rcases nextFree_spec after with ⟨hnone, -⟩ | ⟨m, rest, rfl, hsome⟩
    · rw [hnone]
      rfl
    · rw [hsome]
      rfl
  have hstart : base + total (prevFree before).1 + ((prevFree before).2 + n + (nextFree after).1) =
      base + total before + n + (nextFree after).1 := by
    rw [← hbefore.2]
    omega
  rw [release, regions_append, regions_free, hstart, hafter, hbefore.1]

theorem total_release (n : Nat) (before after : List Block) :
    total (release before n after) = total before + n + total after := by
  have hbefore : total (prevFree before).1 + (prevFree before).2 = total before := by
    rcases prevFree_spec before with ⟨hnone, -⟩ | ⟨first, m, rfl, hsome⟩
    · rw [hnone]
      rfl
    · rw [hsome]
      simp
  have hafter : (nextFree after).1 + total (nextFree after).2 = total after := by
    rcases nextFree_spec after with ⟨hnone, -⟩ | ⟨m, rest, rfl, hsome⟩
    · rw [hnone]
      exact Nat.zero_add _
    · rw [hsome]
      rfl
  simp only [release, total_append, total_cons]
  omega

/-- The region that is given back is the one that is gone. -/
theorem regions_release_eq_filter (h : Merged (before ++ ⟨n, false⟩ :: after)) :
    regions base (release before n after) =
      (regions base (before ++ ⟨n, false⟩ :: after)).filter (·.1 ≠ base + total before) := by
  obtain ⟨hbefore, hafter⟩ := h.fst_ne base
  rw [regions_release, regions_append, regions_used, List.filter_append, List.filter_cons]
  simp only [ne_eq, not_true_eq_false, decide_false, Bool.false_eq_true, if_false]
  rw [List.filter_eq_self.mpr fun x hx => decide_eq_true (hbefore x hx),
    List.filter_eq_self.mpr fun x hx => decide_eq_true (hafter x hx)]

theorem Merged.release (h : Merged (before ++ ⟨n, false⟩ :: after)) :
    Merged (release before n after) := by
  obtain ⟨hchain, hrest, -⟩ := List.isChain_append.mp h.chain
  have hn := h.nonempty _ (List.mem_append_right _ List.mem_cons_self)
  -- what is left on both sides is a part of what was there, and not free at the seam
  have hbefore : (prevFree before).1.IsChain Separate ∧ (prevFree before).1 ⊆ before ∧
      ∀ b ∈ (prevFree before).1.getLast?, b.free = false := by
    rcases prevFree_spec before with ⟨hnone, hlast⟩ | ⟨first, m, rfl, hsome⟩
    · rw [hnone]
      exact ⟨hchain, List.Subset.refl _, hlast⟩
    · obtain ⟨hleft, -, hseam⟩ := List.isChain_append.mp hchain
      rw [hsome]
      refine ⟨hleft, fun b hb => List.mem_append_left _ hb, fun b hb => ?_⟩
      exact Bool.eq_false_iff.mpr fun hfree => hseam b hb _ rfl ⟨hfree, rfl⟩
  have hafter : (nextFree after).2.IsChain Separate ∧ (nextFree after).2 ⊆ after ∧
      ∀ b ∈ (nextFree after).2.head?, b.free = false := by
    have htail := hrest.tail
    rw [List.tail_cons] at htail
    rcases nextFree_spec after with ⟨hnone, hhead⟩ | ⟨m, rest, rfl, hsome⟩
    · rw [hnone]
      exact ⟨htail, List.Subset.refl _, hhead⟩
    · obtain ⟨hseam, hright⟩ := List.isChain_cons.mp htail
      rw [hsome]
      refine ⟨hright, fun b hb => List.mem_cons_of_mem _ hb, fun b hb => ?_⟩
      exact Bool.eq_false_iff.mpr fun hfree => hseam b hb ⟨rfl, hfree⟩
  constructor
  · refine List.isChain_append.mpr ⟨hbefore.1, List.isChain_cons.mpr ⟨fun b hb hfree => ?_, hafter.1⟩,
      fun a ha b _ hfree => ?_⟩
    · exact Bool.noConfusion ((hafter.2.2 b hb).symm.trans hfree.2)
    · exact Bool.noConfusion ((hbefore.2.2 a ha).symm.trans hfree.1)
  · intro b hb
    rcases List.mem_append.mp hb with hmem | hmem
    · exact h.nonempty b (List.mem_append_left _ (hbefore.2.1 hmem))
    · rcases List.mem_cons.mp hmem with rfl | hmem
      · dsimp only at hn ⊢
        omega
      · exact h.nonempty b
          (List.mem_append_right _ (List.mem_cons_of_mem _ (hafter.2.1 hmem)))

/-- A free block has no free neighbour. -/
theorem Merged.release_free (h : Merged (before ++ ⟨n, true⟩ :: after)) :
    Arena.release before n after = before ++ ⟨n, true⟩ :: after := by
  obtain ⟨-, hrest, hseam⟩ := List.isChain_append.mp h.chain
  have hbefore : prevFree before = (before, 0) := by
    rcases prevFree_spec before with ⟨hnone, -⟩ | ⟨first, m, rfl, hsome⟩
    · exact hnone
    · exact absurd ⟨rfl, rfl⟩ (hseam ⟨m, true⟩ List.getLast?_concat _ rfl)
  have hafter : nextFree after = (0, after) := by
    rcases nextFree_spec after with ⟨hnone, -⟩ | ⟨m, rest, rfl, hsome⟩
    · exact hnone
    · exact absurd ⟨rfl, rfl⟩ (List.isChain_cons_cons.mp hrest).1
  rw [Arena.release, hbefore, hafter, Nat.zero_add, Nat.add_zero]

theorem length_release_le (n : Nat) (before after : List Block) :
    (release before n after).length ≤ before.length + 1 + after.length := by
  have hbefore : (prevFree before).1.length ≤ before.length := by
    rcases prevFree_spec before with ⟨hnone, -⟩ | ⟨first, m, rfl, hsome⟩
    · rw [hnone]
    · rw [hsome]
      simp
  have hafter : (nextFree after).2.length ≤ after.length := by
    rcases nextFree_spec after with ⟨hnone, -⟩ | ⟨m, rest, rfl, hsome⟩
    · rw [hnone]
    · rw [hsome]
      simp
  simp only [release, List.length_append, List.length_cons]
  omega

/-- What divides all sizes divides them after a block is given back. -/
theorem dvd_release {d : Nat} (hblocks : ∀ b ∈ before ++ ⟨n, false⟩ :: after, d ∣ b.size) :
    ∀ b ∈ release before n after, d ∣ b.size := by
  have hbefore : d ∣ (prevFree before).2 ∧ ∀ b ∈ (prevFree before).1, d ∣ b.size := by
    have hall : ∀ b ∈ before, d ∣ b.size := fun b hb => hblocks b (List.mem_append_left _ hb)
    rcases prevFree_spec before with ⟨hnone, -⟩ | ⟨first, m, rfl, hsome⟩
    · rw [hnone]
      exact ⟨Nat.dvd_zero d, hall⟩
    · rw [hsome]
      exact ⟨hall ⟨m, true⟩ List.mem_concat_self, fun b hb => hall b (List.mem_append_left _ hb)⟩
  have hafter : d ∣ (nextFree after).1 ∧ ∀ b ∈ (nextFree after).2, d ∣ b.size := by
    have hall : ∀ b ∈ after, d ∣ b.size :=
      fun b hb => hblocks b (List.mem_append_right _ (List.mem_cons_of_mem _ hb))
    rcases nextFree_spec after with ⟨hnone, -⟩ | ⟨m, rest, rfl, hsome⟩
    · rw [hnone]
      exact ⟨Nat.dvd_zero d, hall⟩
    · rw [hsome]
      exact ⟨hall ⟨m, true⟩ List.mem_cons_self, fun b hb => hall b (List.mem_cons_of_mem _ hb)⟩
  have hn : d ∣ n := hblocks ⟨n, false⟩ (by simp)
  intro b hb
  rcases List.mem_append.mp hb with hmem | hmem
  · exact hbefore.2 b hmem
  · rcases List.mem_cons.mp hmem with rfl | hmem
    · exact Nat.dvd_add (Nat.dvd_add hbefore.1 hn) hafter.1
    · exact hafter.2 b hmem

end Arena

end Library
end DeviceAndroVM
