import TunnelKeeper.Allocator

/-!
# Blocks of addresses

A network stands for the block of all addresses that begin as its own does. `Shares` says that two
blocks have an address in common; it does not depend on host bits, so neither naming a block by its
first address nor by its first host changes it.
-/

namespace TunnelKeeper

open Net

namespace Network

/-! ## One block -/

/-- A network is its family, its address and its length. -/
theorem eq_of_parts {m n : Network} (hfamily : m.family = n.family)
    (haddress : m.address = n.address) (hlength : m.length = n.length) : m = n := by
  cases m
  cases n
  cases hfamily
  cases haddress
  cases hlength
  rfl

theorem size_pos (n : Network) : 0 < n.size := Nat.two_pow_pos _

/-- A block begins at a multiple of its size. -/
theorem first_of_multiple {n : Network} {k : Nat} (h : n.address = k * n.size) :
    n.first = k * n.size := by
  unfold first
  rw [h, Nat.mul_div_cancel _ n.size_pos]

/-- The addresses of a block are as many as its size, from its first one on. -/
theorem contains_iff {n : Network} {x : Nat} :
    n.contains x = true ↔ n.first ≤ x ∧ x < n.first + n.size := by
  have hpos := n.size_pos
  simp only [contains, Bool.and_eq_true, decide_eq_true_eq]
  unfold last
  omega

/-- An address lies in a block exactly if it begins as the address of the network does. -/
theorem contains_iff_div_eq {n : Network} {x : Nat} :
    n.contains x = true ↔ x / n.size = n.address / n.size := by
  have hpos := n.size_pos
  rw [contains_iff, first, Nat.div_eq_iff n.size_pos]
  omega

theorem size_normalize (n : Network) : n.normalize.size = n.size := rfl

theorem first_normalize (n : Network) : n.normalize.first = n.first := by
  have haddress : n.normalize.address = n.address / n.size * n.normalize.size := rfl
  rw [first_of_multiple haddress]
  rfl

/-- Naming a block by its first address leaves the block as it is. -/
theorem contains_normalize (n : Network) : n.normalize.contains = n.contains := by
  funext x
  rw [Bool.eq_iff_iff, contains_iff, contains_iff, n.first_normalize, n.size_normalize]

/-- A block ends where the addresses of its family do, or before. -/
theorem first_add_size_le (n : Network) : n.first + n.size ≤ n.family.size := by
  have hdvd : n.size ∣ n.family.size := Nat.pow_dvd_pow 2 (Nat.sub_le _ _)
  obtain ⟨c, hc⟩ := hdvd
  have hlt : n.address / n.size < c := by
    apply Nat.div_lt_of_lt_mul
    rw [← hc]
    exact n.address_lt
  have hle := Nat.mul_le_mul_right n.size hlt
  rw [hc, Nat.mul_comm n.size c]
  rwa [Nat.succ_mul] at hle

/-! ## Two blocks -/

/-- Two blocks have an address in common. -/
def Shares (a b : Network) : Prop :=
  a.family = b.family ∧ ∃ x, a.contains x = true ∧ b.contains x = true

theorem Shares.symm {a b : Network} (h : a.Shares b) : b.Shares a := by
  obtain ⟨hfamily, x, ha, hb⟩ := h
  exact ⟨hfamily.symm, x, hb, ha⟩

/-- Blocks share an address exactly if each begins before the other ends. -/
theorem shares_iff {a b : Network} :
    a.Shares b ↔
      a.family = b.family ∧ a.first < b.first + b.size ∧ b.first < a.first + a.size := by
  have hpos := a.size_pos
  have hpos' := b.size_pos
  unfold Shares
  constructor
  · rintro ⟨hfamily, x, ha, hb⟩
    rw [contains_iff] at ha hb
    exact ⟨hfamily, by omega, by omega⟩
  · rintro ⟨hfamily, hbefore, hbefore'⟩
    -- The later of the two first addresses is in both.
    refine ⟨hfamily, max a.first b.first, ?_, ?_⟩ <;> rw [contains_iff] <;> omega

/-- Whether two blocks share an address is what the check of two networks decides. -/
theorem overlaps_iff_shares {a b : Network} : a.overlaps b = true ↔ a.Shares b := by
  have hpos := a.size_pos
  have hpos' := b.size_pos
  simp only [overlaps, Bool.and_eq_true, Bool.or_eq_true, decide_eq_true_eq, contains_iff,
    shares_iff]
  constructor
  · rintro ⟨hfamily, h⟩
    exact ⟨hfamily, by omega, by omega⟩
  · rintro ⟨hfamily, h, h'⟩
    exact ⟨hfamily, by omega⟩

/-- Blocks of the same addresses share addresses with the same blocks. -/
theorem Shares.congr {a b c : Network} (hfamily : a.family = b.family)
    (hcontains : a.contains = b.contains) : a.Shares c ↔ b.Shares c := by
  unfold Shares
  rw [hfamily, hcontains]

theorem normalize_shares {a b : Network} : a.normalize.Shares b ↔ a.Shares b :=
  Shares.congr rfl a.contains_normalize

theorem shares_normalize {a b : Network} : a.Shares b.normalize ↔ a.Shares b := by
  constructor
  · exact fun h => (normalize_shares.mp h.symm).symm
  · exact fun h => (normalize_shares.mpr h.symm).symm

end Network

namespace Allocator

/-- The first host of a block, at the length of the block, stands for the addresses of the block. -/
theorem contains_first_host (block : Network) : (firstHost block).contains = block.contains := by
  unfold firstHost
  split
  · next h =>
      -- A block with room for a host has at least two addresses, so the host begins as the others.
      have hsize : 2 ≤ block.size := by
        have hpow : 2 ^ 1 ≤ 2 ^ (block.family.bits - block.length) :=
          Nat.pow_le_pow_right (by decide) (by omega)
        simpa [Network.size] using hpow
      funext x
      rw [Bool.eq_iff_iff, Network.contains_iff_div_eq, Network.contains_iff_div_eq]
      show x / block.size = (block.first + 1) / block.size ↔ x / block.size = _
      have hone : (1 + block.size * (block.address / block.size)) / block.size =
          1 / block.size + block.address / block.size :=
        Nat.add_mul_div_left _ _ block.size_pos
      rw [Network.first, Nat.add_comm, Nat.mul_comm, hone, Nat.div_eq_of_lt hsize, Nat.zero_add]
  · exact block.contains_normalize

theorem family_first_host (block : Network) : (firstHost block).family = block.family := by
  unfold firstHost
  split <;> rfl

/-- The first host of a block shares addresses with what the block does. -/
theorem first_host_shares {block n : Network} : (firstHost block).Shares n ↔ block.Shares n :=
  Network.Shares.congr (family_first_host block) (contains_first_host block)

theorem shares_first_host {block n : Network} : n.Shares (firstHost block) ↔ n.Shares block := by
  constructor
  · exact fun h => (first_host_shares.mp h.symm).symm
  · exact fun h => (first_host_shares.mpr h.symm).symm

end Allocator

end TunnelKeeper
