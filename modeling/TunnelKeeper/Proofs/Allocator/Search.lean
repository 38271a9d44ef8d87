import TunnelKeeper.Proofs.Allocator

/-!
# Looking for a block, block by block

The plain search begins with the start block and goes on to the next block as long as a network in
use is in its way. It comes to an end, since the addresses of a family do, and what it finds, if
anything, is what the sweep over the sorted networks finds (`search_eq_free_block`).
-/

namespace TunnelKeeper

namespace Network

/-- The block behind a block, if its family has it. -/
def next? (n : Network) : Option Network := ofParts? n.family (n.first + n.size) n.length

/-- A block that is named by its first address keeps its name. -/
theorem normalize_normalize (n : Network) : n.normalize.normalize = n.normalize :=
  eq_of_parts rfl n.first_normalize rfl

/-- Fewer addresses of the family are left from the next block on. -/
theorem next_lt {n next : Network} (h : n.next? = some next) :
    next.family.size - next.address < n.family.size - n.address := by
  have haddress : n.address < n.first + n.size := Nat.lt_div_mul_add n.size_pos
  unfold next? ofParts? at h
  split at h
  · next hparts =>
      obtain rfl := Option.some.inj h
      show n.family.size - (n.first + n.size) < _
      omega
  · cases h

end Network

namespace Allocator

/-- The first block from a candidate on that shares no address with a network in use. -/
def search? (used : List Network) (candidate : Network) : Option Network :=
  if used.any fun u => u.overlaps candidate then
    match _hnext : candidate.next? with
    | some next => search? used next
    | none => none
  else some candidate
termination_by candidate.family.size - candidate.address
decreasing_by exact Network.next_lt _hnext

variable {used : List Network} {start candidate : Network}

/-- A candidate is passed over exactly if it shares an address with a network in use. -/
theorem any_overlaps_iff : (used.any fun u => u.overlaps candidate) = true ↔
    ∃ u ∈ used, candidate.Shares u := by
  simp only [List.any_eq_true, Network.overlaps_iff_shares]
  exact ⟨fun ⟨u, hu, h⟩ => ⟨u, hu, h.symm⟩, fun ⟨u, hu, h⟩ => ⟨u, hu, h.symm⟩⟩

theorem block_at_zero (start : Network) : blockAt start 0 = some start.normalize := by
  rw [block_at_eq_some_iff, Nat.zero_mul]
  exact ⟨start.normalize.address_lt, rfl, rfl, rfl⟩

/-- The blocks behind a start block follow each other. -/
theorem next_block_at {k : Nat} (h : blockAt start k = some candidate) :
    candidate.next? = blockAt start (k + 1) := by
  obtain ⟨-, hfamily, -, hlength⟩ := block_at_eq_some_iff.mp h
  rw [Network.next?, blockAt, first_block_at h, size_block_at h, hfamily, hlength, Nat.add_assoc,
    Nat.succ_mul]

/-- There is one first free block. -/
theorem FirstFree.unique {block other : Network} (h : FirstFree used start block)
    (h' : FirstFree used start other) : block = other := by
  obtain ⟨k, hk, hleast⟩ := h.first
  obtain ⟨k', hk', hleast'⟩ := h'.first
  rcases Nat.lt_trichotomy k k' with hlt | rfl | hlt
  · obtain ⟨u, hu, hshares⟩ := hleast' k hlt block hk
    exact absurd hshares (h.free u hu)
  · exact Option.some.inj (hk.symm.trans hk')
  · obtain ⟨u, hu, hshares⟩ := hleast k' hlt other hk'
    exact absurd hshares (h'.free u hu)

/-- The sweep finds the first free block where there is one. -/
theorem free_block_eq_some_iff {block : Network} :
    freeBlock? used start = some block ↔ FirstFree used start block := by
  refine ⟨free_block_eq_some, fun h => ?_⟩
  cases hfound : freeBlock? used start with
  | some found => rw [(free_block_eq_some hfound).unique h]
  | none =>
      obtain ⟨k, hk, -⟩ := h.first
      obtain ⟨u, hu, hshares⟩ := free_block_eq_none hfound hk
      exact absurd hshares (h.free u hu)

/-- The blocks before a number are not free. -/
def Passed (used : List Network) (start : Network) (k : Nat) : Prop :=
  ∀ j < k, ∀ block, blockAt start j = some block → ∃ u ∈ used, block.Shares u

theorem Passed.succ {k : Nat} (h : Passed used start k)
    (hcandidate : blockAt start k = some candidate) (htaken : ∃ u ∈ used, candidate.Shares u) :
    Passed used start (k + 1) := by
  intro j hj block hblock
  rcases Nat.lt_succ_iff_lt_or_eq.mp hj with hj | rfl
  · exact h j hj block hblock
  · obtain rfl := Option.some.inj (hblock.symm.trans hcandidate)
    exact htaken

/-- Nothing is found behind the end of a family. -/
theorem Passed.free_block_eq_none {k : Nat} (h : Passed used start k)
    (hend : blockAt start k = none) : freeBlock? used start = none := by
  rw [Option.eq_none_iff_forall_ne_some]
  intro block hfound
  have hfirst := free_block_eq_some hfound
  obtain ⟨j, hblock, -⟩ := hfirst.first
  by_cases hj : j < k
  · obtain ⟨u, hu, hshares⟩ := h j hj block hblock
    exact hfirst.free u hu hshares
  · -- The family has every block before one that it has.
    obtain ⟨hlt, -⟩ := block_at_eq_some_iff.mp hblock
    have hmul := Nat.mul_le_mul_right start.size (Nat.le_of_not_lt hj)
    unfold blockAt Network.ofParts? at hend
    rw [dif_pos ⟨by omega, start.length_le⟩] at hend
    cases hend

/-- A search that has passed over all blocks before a candidate finds what the sweep finds. -/
theorem search_from {k : Nat} (hcandidate : blockAt start k = some candidate)
    (hpassed : Passed used start k) : search? used candidate = freeBlock? used start := by
  fun_induction search? used candidate generalizing k with
  | case1 candidate htaken next hnext ih =>
      have hblock := (next_block_at hcandidate).symm.trans hnext
      exact ih hblock (hpassed.succ hcandidate (any_overlaps_iff.mp htaken))
  | case2 candidate htaken hnext =>
      have hend := (next_block_at hcandidate).symm.trans hnext
      exact ((hpassed.succ hcandidate (any_overlaps_iff.mp htaken)).free_block_eq_none hend).symm
  | case3 candidate hfree =>
      refine (free_block_eq_some_iff.mpr ⟨fun u hu hshares => ?_, k, hcandidate, hpassed⟩).symm
      exact hfree (any_overlaps_iff.mpr ⟨u, hu, hshares⟩)

/-- The search block by block from a start block, which is named by its first address, comes to an
end and finds the block that the sweep finds. -/
theorem search_eq_free_block (used : List Network) (start : Network) :
    search? used start.normalize = freeBlock? used start.normalize := by
  refine search_from ?_ fun j hj => absurd hj (Nat.not_lt_zero j)
  rw [block_at_zero, Network.normalize_normalize]

end Allocator

end TunnelKeeper
