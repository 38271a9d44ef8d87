import TunnelKeeper.Proofs.Net.Block
import TunnelKeeper.Proofs.Outcome

/-!
# What the allocator hands out

A port that is handed out is the least one from the next port on that is free, and a block is the
first one from the start block on that shares no address with a network in use (`FirstFree`);
nothing is handed out only if there is no such port or block (`free_port_eq_some_iff`,
`free_port_eq_none_iff`, `free_block_eq_some`, `free_block_eq_none`). The sweep behind the search
for a block is dealt with first: it finds the first number whose block meets none of the networks
(`free_index_free`, `free_index_least`).
-/

namespace TunnelKeeper

open Net

namespace Allocator

/-! ## Ports -/

/-- The first free port is the least one from a port on that is neither zero nor in use. -/
theorem free_port_eq_some_iff {used : List Nat} {port free : Nat} :
    freePort? used port = some free ↔
      port ≤ free ∧ free ≤ greatestPort ∧ free ≠ 0 ∧ free ∉ used ∧
        ∀ p, port ≤ p → p < free → p = 0 ∨ p ∈ used := by
  fun_induction freePort? used port with
  | case1 port hle htaken ih =>
      rw [ih]
      constructor
      · rintro ⟨hge, hgreatest, hzero, hfree, hleast⟩
        refine ⟨by omega, hgreatest, hzero, hfree, fun p hp hlt => ?_⟩
        rcases Nat.eq_or_lt_of_le hp with rfl | hp
        · exact htaken
        · exact hleast p hp hlt
      · rintro ⟨hge, hgreatest, hzero, hfree, hleast⟩
        have hne : port ≠ free := by
          rintro rfl
          exact htaken.elim hzero hfree
        exact ⟨by omega, hgreatest, hzero, hfree, fun p hp => hleast p (by omega)⟩
  | case2 port hle hfree =>
      obtain ⟨hzero, hunused⟩ := not_or.mp hfree
      constructor
      · intro h
        obtain rfl := Option.some.inj h
        exact ⟨Nat.le_refl _, hle, hzero, hunused, fun p hp hlt => by omega⟩
      · rintro ⟨hge, -, -, -, hleast⟩
        rcases Nat.eq_or_lt_of_le hge with rfl | hlt
        · rfl
        · exact absurd (hleast port (Nat.le_refl _) hlt) hfree
  | case3 port hgt =>
      constructor
      · intro h
        cases h
      · rintro ⟨hge, hgreatest, -⟩
        omega

/-- No port is free exactly if all from a port on are zero or in use. -/
theorem free_port_eq_none_iff {used : List Nat} {port : Nat} :
    freePort? used port = none ↔ ∀ p, port ≤ p → p ≤ greatestPort → p = 0 ∨ p ∈ used := by
  fun_induction freePort? used port with
  | case1 port hle htaken ih =>
      rw [ih]
      constructor
      · intro hall p hp hgreatest
        rcases Nat.eq_or_lt_of_le hp with rfl | hp
        · exact htaken
        · exact hall p hp hgreatest
      · exact fun hall p hp => hall p (by omega)
  | case2 port hle hfree =>
      constructor
      · intro h
        cases h
      · exact fun hall => absurd (hall port (Nat.le_refl _) hle) hfree
  | case3 port hgt =>
      constructor
      · intro _ p hp hgreatest
        omega
      · exact fun _ => rfl

/-- Where no port below a cursor was free and a port is the first free one from there on, none
below the cursor behind it is free once it is in use. -/
theorem passed_over {used : List Nat} {start next port : Nat}
    (hbefore : ∀ p, start ≤ p → p < next → p = 0 ∨ p ∈ used)
    (hleast : ∀ p, next ≤ p → p < port → p = 0 ∨ p ∈ used) {p : Nat} (hge : start ≤ p)
    (hlt : p < min (port + 1) greatestPort) : p = 0 ∨ p ∈ port :: used := by
  rw [List.mem_cons]
  rcases Nat.lt_trichotomy p port with hbelow | rfl | habove
  · by_cases hp : p < next
    · exact (hbefore p hge hp).imp_right .inr
    · exact (hleast p (by omega) hbelow).imp_right .inr
  · exact .inr (.inl rfl)
  · omega

/-! ## The sweep over the networks in use -/

/-- The block of a number has an address between the ends of a network. -/
def Meets (start : Network) (k : Nat) (u : Network) : Prop :=
  start.first + k * start.size < u.first + u.size ∧ u.first < start.first + (k + 1) * start.size

/-- The first block behind a network begins behind its last address. -/
theorem le_index_behind (start u : Network) :
    u.first + u.size ≤ start.first + indexBehind start u * start.size := by
  have hpos := start.size_pos
  have hpos' := u.size_pos
  have hceil : u.last + 1 - start.first + (start.size - 1) <
      (indexBehind start u + 1) * start.size := by
    rw [Nat.mul_comm]
    exact Nat.lt_mul_div_succ _ hpos
  rw [Nat.add_mul] at hceil
  unfold Network.last at hceil
  omega

/-- Every block before it begins at or before that address. -/
theorem of_lt_index_behind {start u : Network} {k : Nat} (h : k < indexBehind start u) :
    start.first + k * start.size < u.first + u.size := by
  have hpos := start.size_pos
  have hpos' := u.size_pos
  have hmul : (k + 1) * start.size ≤ u.last + 1 - start.first + (start.size - 1) :=
    (Nat.le_div_iff_mul_le hpos).mp h
  rw [Nat.add_mul] at hmul
  unfold Network.last at hmul
  omega

theorem le_free_index (start : Network) (k : Nat) (l : List Network) : k ≤ freeIndex start k l := by
  fun_induction freeIndex start k l with
  | case1 k => exact Nat.le_refl k
  | case2 k u rest hbefore => exact Nat.le_refl k
  | case3 k u rest hnot ih => omega

/-- The sweep ends at a block that meets none of the networks. -/
theorem free_index_free {start : Network} {k : Nat} {l : List Network}
    (hsorted : l.Pairwise fun a b => a.first ≤ b.first) :
    ∀ u ∈ l, ¬ Meets start (freeIndex start k l) u := by
  fun_induction freeIndex start k l with
  | case1 k => simp
  | case2 k u rest hbefore =>
      -- The block ends before the first network, and so before all.
      intro v hv hmeets
      rcases List.mem_cons.mp hv with rfl | hv
      · exact absurd hmeets.2 (Nat.not_lt.mpr hbefore)
      · have hle := List.rel_of_pairwise_cons hsorted hv
        exact absurd hmeets.2 (Nat.not_lt.mpr (Nat.le_trans hbefore hle))
  | case3 k u rest hnot ih =>
      intro v hv hmeets
      rcases List.mem_cons.mp hv with rfl | hv
      · have hindex : indexBehind start v ≤ freeIndex start (max k (indexBehind start v)) rest :=
          Nat.le_trans (Nat.le_max_right _ _) (le_free_index start _ rest)
        have hmul := Nat.mul_le_mul_right start.size hindex
        have hbehind := le_index_behind start v
        have hbegins := hmeets.1
        omega
      · exact ih (List.Pairwise.of_cons hsorted) v hv hmeets

/-- Every block that the sweep passes over meets one of the networks. -/
theorem free_index_least {start : Network} {k : Nat} {l : List Network} :
    ∀ j, k ≤ j → j < freeIndex start k l → ∃ u ∈ l, Meets start j u := by
  fun_induction freeIndex start k l with
  | case1 k =>
      intro j hle hlt
      omega
  | case2 k u rest hbefore =>
      intro j hle hlt
      omega
  | case3 k u rest hnot ih =>
      intro j hle hlt
      by_cases hj : j < indexBehind start u
      · have hmul : (k + 1) * start.size ≤ (j + 1) * start.size :=
          Nat.mul_le_mul_right start.size (Nat.succ_le_succ hle)
        exact ⟨u, List.mem_cons_self, of_lt_index_behind hj, by omega⟩
      · obtain ⟨v, hv, hmeets⟩ := ih j (by omega) hlt
        exact ⟨v, List.mem_cons_of_mem u hv, hmeets⟩

/-! ## Blocks -/

/-- The block of a number, where its family has it. -/
theorem block_at_eq_some_iff {start block : Network} {k : Nat} :
    blockAt start k = some block ↔
      start.first + k * start.size < start.family.size ∧ block.family = start.family ∧
        block.address = start.first + k * start.size ∧ block.length = start.length := by
  unfold blockAt Network.ofParts?
  have hlength := start.length_le
  split
  · next h =>
      constructor
      · intro heq
        obtain rfl := Option.some.inj heq
        exact ⟨h.1, rfl, rfl, rfl⟩
      · rintro ⟨-, hfamily, haddress, hlength⟩
        exact congrArg some (Network.eq_of_parts hfamily.symm haddress.symm hlength.symm)
  · next h =>
      constructor
      · intro heq
        cases heq
      · rintro ⟨hlt, -⟩
        exact absurd ⟨hlt, hlength⟩ h

section

variable {start block : Network} {k : Nat} (h : blockAt start k = some block)
include h

theorem size_block_at : block.size = start.size := by
  obtain ⟨-, hfamily, -, hlength⟩ := block_at_eq_some_iff.mp h
  unfold Network.size
  rw [hfamily, hlength]

theorem first_block_at : block.first = start.first + k * start.size := by
  obtain ⟨-, -, haddress, -⟩ := block_at_eq_some_iff.mp h
  -- The start block begins at a multiple of its size, and so do all blocks that follow it.
  have hmultiple : block.address = (start.address / start.size + k) * block.size := by
    rw [haddress, size_block_at h, Nat.add_mul]
    rfl
  rw [Network.first_of_multiple hmultiple, ← hmultiple, haddress]

/-- A block shares an address with a network exactly if it meets it in their family. -/
theorem block_at_shares_iff {u : Network} :
    block.Shares u ↔ u.family = start.family ∧ Meets start k u := by
  obtain ⟨-, hfamily, -, -⟩ := block_at_eq_some_iff.mp h
  rw [Network.shares_iff, hfamily, first_block_at h, size_block_at h, Meets, Nat.add_mul,
    Nat.one_mul, Nat.add_assoc, @eq_comm _ start.family]

end

/-- The networks in use that the search for a block goes through: those of its family, in ascending
order of their first addresses. -/
theorem sorted_networks (used : List Network) (start : Network) :
    let sorted := (used.filter fun u => u.family = start.family).mergeSort
      fun a b => a.first ≤ b.first
    (sorted.Pairwise fun a b => a.first ≤ b.first) ∧
      ∀ u, u ∈ sorted ↔ u ∈ used ∧ u.family = start.family := by
  intro sorted
  constructor
  · have hsorted : sorted.Pairwise fun a b => decide (a.first ≤ b.first) = true := by
      apply List.pairwise_mergeSort
      · intro a b c
        simp only [decide_eq_true_eq]
        omega
      · intro a b
        simp only [Bool.or_eq_true, decide_eq_true_eq]
        omega
    exact hsorted.imp of_decide_eq_true
  · intro u
    rw [List.mem_mergeSort, List.mem_filter, decide_eq_true_eq]

/-- A block is the first one from a start block on that shares no address with a network in use. -/
structure FirstFree (used : List Network) (start block : Network) : Prop where
  free : ∀ u ∈ used, ¬ block.Shares u
  first : ∃ k, blockAt start k = some block ∧
    ∀ j < k, ∀ passed, blockAt start j = some passed → ∃ u ∈ used, passed.Shares u

theorem FirstFree.family {used : List Network} {start block : Network}
    (h : FirstFree used start block) : block.family = start.family := by
  obtain ⟨k, hblock, -⟩ := h.first
  exact (block_at_eq_some_iff.mp hblock).2.1

/-- Networks of another family are in no block's way. -/
theorem FirstFree.of_append {used more : List Network} {start block : Network}
    (h : FirstFree (used ++ more) start block)
    (hfamily : ∀ u ∈ more, u.family ≠ start.family) : FirstFree used start block where
  free := fun u hu => h.free u (List.mem_append_left more hu)
  first := by
    obtain ⟨k, hblock, hleast⟩ := h.first
    refine ⟨k, hblock, fun j hj passed hpassed => ?_⟩
    obtain ⟨u, hu, hshares⟩ := hleast j hj passed hpassed
    rcases List.mem_append.mp hu with hu | hu
    · exact ⟨u, hu, hshares⟩
    · exact absurd ((block_at_shares_iff hpassed).mp hshares).1 (hfamily u hu)

/-- The block that is found is the first one that shares no address with a network in use. -/
theorem free_block_eq_some {used : List Network} {start block : Network}
    (h : freeBlock? used start = some block) : FirstFree used start block := by
  obtain ⟨hsorted, hmem⟩ := sorted_networks used start
  unfold freeBlock? at h
  refine ⟨fun u hu hshares => ?_, _, h, fun j hj passed hpassed => ?_⟩
  · obtain ⟨hfamily, hmeets⟩ := (block_at_shares_iff h).mp hshares
    exact free_index_free hsorted u ((hmem u).mpr ⟨hu, hfamily⟩) hmeets
  · obtain ⟨u, hu, hmeets⟩ := free_index_least j (Nat.zero_le j) hj
    obtain ⟨hu, hfamily⟩ := (hmem u).mp hu
    exact ⟨u, hu, (block_at_shares_iff hpassed).mpr ⟨hfamily, hmeets⟩⟩

/-- No block is found only if every one from the start block on shares an address with a network in
use. -/
theorem free_block_eq_none {used : List Network} {start : Network}
    (h : freeBlock? used start = none) {k : Nat} {block : Network}
    (hblock : blockAt start k = some block) : ∃ u ∈ used, block.Shares u := by
  obtain ⟨-, hmem⟩ := sorted_networks used start
  unfold freeBlock? at h
  -- The sweep goes beyond the end of the family, so it passes over all blocks that there are.
  have hlt : k < freeIndex start 0
      ((used.filter fun u => u.family = start.family).mergeSort fun a b => a.first ≤ b.first) := by
    refine Nat.lt_of_not_le fun hle => ?_
    have hmul := Nat.mul_le_mul_right start.size hle
    have hroom := (block_at_eq_some_iff.mp hblock).1
    unfold blockAt Network.ofParts? at h
    rw [dif_pos ⟨by omega, start.length_le⟩] at h
    cases h
  obtain ⟨u, hu, hmeets⟩ := free_index_least k (Nat.zero_le k) hlt
  obtain ⟨hu, hfamily⟩ := (hmem u).mp hu
  exact ⟨u, hu, (block_at_shares_iff hblock).mpr ⟨hfamily, hmeets⟩⟩

/-! ## A new allocator -/

/-- An allocator begins with blocks of the families that they are wanted for, and with nothing in
use. -/
theorem of_start_eq_ok_iff {port : Nat} {v4 : Network} {v6 : Option Network} {a : Allocator} :
    ofStart port v4 v6 = .ok a ↔
      v4.family = .v4 ∧ (∀ n, v6 = some n → n.family = .v6) ∧
        a = ⟨port, [], v4.normalize, v6.map Network.normalize, []⟩ := by
  unfold ofStart
  by_cases hv4 : v4.family = .v4
  · rw [if_neg (not_not_intro hv4)]
    cases v6 with
    | none => simp [hv4, eq_comm]
    | some n =>
        by_cases hv6 : n.family = .v6
        · simp [hv4, hv6, eq_comm]
        · simp [hv6]
  · simp [hv4]

/-! ## Handing out -/

section

variable {a a' : Allocator} {fault : SettingsFault}

/-- A port that is handed out was free, is in use from then on, and all before it were in use. -/
theorem take_port_ok {port : Nat} (h : a.takePort = (.ok port, a')) :
    (port ≠ 0 ∧ port ≤ greatestPort ∧ port ∉ a.usedPorts ∧ a.nextPort ≤ port) ∧
      (∀ p, a.nextPort ≤ p → p < port → p = 0 ∨ p ∈ a.usedPorts) ∧
      a' =
        { a with usedPorts := port :: a.usedPorts, nextPort := min (port + 1) greatestPort } := by
  unfold takePort at h
  cases hfree : freePort? a.usedPorts a.nextPort with
  | none =>
      rw [hfree] at h
      cases h
  | some free =>
      rw [hfree] at h
      cases h
      obtain ⟨hge, hgreatest, hzero, hunused, hleast⟩ := free_port_eq_some_iff.mp hfree
      exact ⟨⟨hzero, hgreatest, hunused, hge⟩, hleast, rfl⟩

/-- No port is handed out only if none is free. -/
theorem take_port_error (h : a.takePort = (.error fault, a')) :
    fault = .noPortLeft ∧ a' = a ∧
      ∀ p, a.nextPort ≤ p → p ≤ greatestPort → p = 0 ∨ p ∈ a.usedPorts := by
  unfold takePort at h
  cases hfree : freePort? a.usedPorts a.nextPort with
  | some free =>
      rw [hfree] at h
      cases h
  | none =>
      rw [hfree] at h
      cases h
      exact ⟨rfl, rfl, free_port_eq_none_iff.mp hfree⟩

/-- Whether or not a port is handed out, the networks stay as they are. -/
theorem take_port_keeps (a : Allocator) :
    a.takePort.2.startV4 = a.startV4 ∧ a.takePort.2.startV6 = a.startV6 ∧
      a.takePort.2.usedNetworks = a.usedNetworks := by
  unfold takePort
  cases freePort? a.usedPorts a.nextPort with
  | none => exact ⟨rfl, rfl, rfl⟩
  | some port => exact ⟨rfl, rfl, rfl⟩

/-- The block that is handed out is the first one that is free, and it is in use from then on. -/
theorem take_block_ok {start n : Network} (h : a.takeBlock start = (.ok n, a')) :
    ∃ block, n = firstHost block ∧ FirstFree a.usedNetworks start block ∧
      a' = { a with usedNetworks := a.usedNetworks ++ [block] } := by
  unfold takeBlock at h
  cases hfree : freeBlock? a.usedNetworks start with
  | none =>
      rw [hfree] at h
      cases h
  | some block =>
      rw [hfree] at h
      cases h
      exact ⟨block, rfl, free_block_eq_some hfree, rfl⟩

/-- No block is handed out only if every one shares an address with a network in use. -/
theorem take_block_error {start : Network} (h : a.takeBlock start = (.error fault, a')) :
    fault = .noNetworkLeft start ∧ a' = a ∧
      ∀ k block, blockAt start k = some block → ∃ u ∈ a.usedNetworks, block.Shares u := by
  unfold takeBlock at h
  cases hfree : freeBlock? a.usedNetworks start with
  | some block =>
      rw [hfree] at h
      cases h
  | none =>
      rw [hfree] at h
      cases h
      exact ⟨rfl, rfl, fun k block => free_block_eq_none hfree⟩

/-- The block of the short family is handed out first, and it is in use when the one of the long
family is looked for. -/
theorem take_addresses_blocks {addresses : List Network}
    (h : a.takeAddresses = (.ok addresses, a')) :
    ∃ short, FirstFree a.usedNetworks a.startV4 short ∧
      (a.startV6 = none ∧ addresses = [firstHost short] ∧
          a' = { a with usedNetworks := a.usedNetworks ++ [short] } ∨
        ∃ start long, a.startV6 = some start ∧
          FirstFree (a.usedNetworks ++ [short]) start long ∧
          addresses = [firstHost short, firstHost long] ∧
          a' = { a with usedNetworks := a.usedNetworks ++ [short, long] }) := by
  unfold takeAddresses at h
  rcases hshort : a.takeBlock a.startV4 with ⟨fault | v4, mid⟩
  · rw [hshort] at h
    cases h
  · obtain ⟨short, rfl, hfirst, hmid⟩ := take_block_ok hshort
    rw [hshort] at h
    simp only at h
    have hwanted : mid.startV6 = a.startV6 := by rw [hmid]
    refine ⟨short, hfirst, ?_⟩
    cases hstart : mid.startV6 with
    | none =>
        rw [hstart] at h
        cases h
        exact .inl ⟨hwanted.symm.trans hstart, rfl, hmid⟩
    | some start =>
        rw [hstart] at h
        simp only at h
        rcases hlong : mid.takeBlock start with ⟨fault | v6, final⟩
        · rw [hlong] at h
          cases h
        · obtain ⟨long, rfl, hfirst', hfinal⟩ := take_block_ok hlong
          rw [hlong] at h
          cases h
          rw [hmid] at hfirst'
          exact .inr ⟨start, long, hwanted.symm.trans hstart, hfirst', rfl, by simp [hfinal, hmid]⟩

/-- Addresses that are handed out are first hosts of blocks that share no address with a network in
use. -/
theorem take_addresses_ok {addresses : List Network}
    (h : a.takeAddresses = (.ok addresses, a')) :
    ∃ blocks, blocks ≠ [] ∧ addresses = blocks.map firstHost ∧
      (∀ block ∈ blocks, ∀ u ∈ a.usedNetworks, ¬ block.Shares u) ∧
      a' = { a with usedNetworks := a.usedNetworks ++ blocks } := by
  obtain ⟨short, hshort, ⟨-, rfl, rfl⟩ | ⟨start, long, -, hlong, rfl, rfl⟩⟩ :=
    take_addresses_blocks h
  · exact ⟨[short], by simp, rfl, by simpa using hshort.free, rfl⟩
  · refine ⟨[short, long], by simp, rfl, ?_, rfl⟩
    rw [List.forall_mem_cons, List.forall_mem_singleton]
    exact ⟨hshort.free, fun u hu => hlong.free u (List.mem_append_left _ hu)⟩

/-- Addresses are not handed out only if all blocks of a start block's size share an address with a
network in use. The block of the other family that was found before is none of those. -/
theorem take_addresses_error
    (hfamilies : ∀ start, a.startV6 = some start → start.family ≠ a.startV4.family)
    (h : a.takeAddresses = (.error fault, a')) :
    ∃ start, (start = a.startV4 ∨ a.startV6 = some start) ∧ fault = .noNetworkLeft start ∧
      ∀ k block, blockAt start k = some block → ∃ u ∈ a.usedNetworks, block.Shares u := by
  unfold takeAddresses at h
  rcases hshort : a.takeBlock a.startV4 with ⟨shortFault | v4, mid⟩
  · rw [hshort] at h
    cases h
    obtain ⟨rfl, -, hall⟩ := take_block_error hshort
    exact ⟨a.startV4, .inl rfl, rfl, hall⟩
  · obtain ⟨block, rfl, hfirst, hmid⟩ := take_block_ok hshort
    rw [hshort] at h
    simp only at h
    cases hstart : mid.startV6 with
    | none =>
        rw [hstart] at h
        cases h
    | some start =>
        rw [hstart] at h
        simp only at h
        rcases hlong : mid.takeBlock start with ⟨longFault | v6, final⟩
        · rw [hlong] at h
          cases h
          obtain ⟨rfl, -, hall⟩ := take_block_error hlong
          have hwanted : a.startV6 = some start := by
            rw [← hstart, hmid]
          refine ⟨start, .inr hwanted, rfl, fun k other hother => ?_⟩
          obtain ⟨u, hu, hshares⟩ := hall k other hother
          rw [hmid] at hu
          rcases List.mem_append.mp hu with hu | hu
          · exact ⟨u, hu, hshares⟩
          · obtain rfl := List.mem_singleton.mp hu
            have hsame := ((block_at_shares_iff hother).mp hshares).1
            exact absurd (hsame.symm.trans hfirst.family) (hfamilies start hwanted)
        · rw [hlong] at h
          cases h

/-- Whether or not a block is handed out, networks only come into use. -/
theorem take_block_keeps (a : Allocator) (start : Network) :
    ∃ more, (a.takeBlock start).2 = { a with usedNetworks := a.usedNetworks ++ more } := by
  rcases hblock : a.takeBlock start with ⟨fault | n, final⟩
  · obtain ⟨-, rfl, -⟩ := take_block_error hblock
    exact ⟨[], by simp⟩
  · obtain ⟨block, -, -, rfl⟩ := take_block_ok hblock
    exact ⟨[block], rfl⟩

/-- Whether or not addresses are handed out, networks only come into use. A call that fails for the
long family has taken a block of the short one. -/
theorem take_addresses_keeps (a : Allocator) :
    ∃ more, a.takeAddresses.2 = { a with usedNetworks := a.usedNetworks ++ more } := by
  obtain ⟨more, hshort⟩ := a.take_block_keeps a.startV4
  unfold takeAddresses
  rcases htake : a.takeBlock a.startV4 with ⟨fault | v4, mid⟩
  · rw [htake] at hshort
    exact ⟨more, hshort⟩
  · rw [htake] at hshort
    simp only at hshort ⊢
    cases mid.startV6 with
    | none => exact ⟨more, hshort⟩
    | some start =>
        obtain ⟨more', hlong⟩ := mid.take_block_keeps start
        have hboth : (mid.takeBlock start).2 =
            { a with usedNetworks := a.usedNetworks ++ (more ++ more') } := by
          rw [hlong, hshort, List.append_assoc]
        refine ⟨more ++ more', ?_⟩
        rw [← hboth]
        simp only
        rcases mid.takeBlock start with ⟨fault | v6, final⟩
        · rfl
        · rfl

end

end Allocator

end TunnelKeeper
