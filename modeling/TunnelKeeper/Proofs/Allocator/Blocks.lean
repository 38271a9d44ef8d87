import Mathlib.Data.List.Forall2
import TunnelKeeper.Proofs.Allocator.History

/-!
# The blocks of a history

At every point of a history the addresses that are handed out next are the first hosts of the first
blocks, from the start blocks on, that share no address with a network that is reserved or was
handed out (`first_free_blocks_taken`). A call that fails for the long family has still taken a
block of the short one, so from then on the allocator has more networks in use than a caller can
see: `BlocksKept` ties the two together up to the first failure, and a failure lasts because no
later call makes a block free.
-/

namespace TunnelKeeper

namespace Allocator

/-! ## What a caller can see -/

/-- The addresses that a call handed out. -/
def Event.addresses : Event → List Network
  | .addressesTaken (.ok addresses) => addresses
  | _ => []

/-- The networks that a call reserved or handed out. -/
def Event.networks : Event → List Network
  | .networksReserved networks => networks
  | e => e.addresses

theorem Event.networks_of_addresses {e : Event} {n : Network} (h : n ∈ e.addresses) :
    n ∈ e.networks := by
  cases e with
  | networksReserved networks => cases h
  | _ => exact h

/-- The addresses that were handed out, in their order. -/
def addressesTaken (events : List Event) : List Network := events.flatMap Event.addresses

/-- A block shares an address with a network that is reserved or was handed out. -/
def Occupied (events : List Event) (block : Network) : Prop :=
  ∃ e ∈ events, ∃ n ∈ e.networks, block.Shares n

/-- A block lies some blocks of its size behind a start block. -/
structure Behind (start : Network) (k : Nat) (block : Network) : Prop where
  family : block.family = start.family
  address : block.address = start.first + k * start.size
  length : block.length = start.length

/-- A network names the first host of a block that is given by its first address. -/
structure HostOf (block n : Network) : Prop where
  family : n.family = block.family
  address : n.address =
    if block.length + 1 < block.family.bits then block.address + 1 else block.address
  length : n.length = block.length

/-- The first host of the first block from a start block on that is free. -/
def NextHost (events : List Event) (start n : Network) : Prop :=
  ∃ k block, Behind start k block ∧ HostOf block n ∧ ¬ Occupied events block ∧
    ∀ j < k, ∀ passed, Behind start j passed → Occupied events passed

/-- No block from a start block on is free. -/
def Exhausted (events : List Event) (start : Network) : Prop :=
  ∀ k block, Behind start k block → Occupied events block

theorem occupied_concat {events : List Event} {e : Event} {block : Network} :
    Occupied (events ++ [e]) block ↔
      Occupied events block ∨ ∃ n ∈ e.networks, block.Shares n := by
  simp [Occupied, or_and_right, exists_or]

theorem addresses_taken_concat {events : List Event} {e : Event} :
    addressesTaken (events ++ [e]) = addressesTaken events ++ e.addresses := by
  simp [addressesTaken, List.flatMap_append]

/-- Later calls make no block free. -/
theorem Exhausted.concat {events : List Event} {start : Network} (h : Exhausted events start)
    (e : Event) : Exhausted (events ++ [e]) start :=
  fun k block hblock => occupied_concat.mpr (.inl (h k block hblock))

/-! ## Blocks behind a start block -/

/-- The blocks behind a start block are those that the search goes through. -/
theorem behind_iff {start block : Network} {k : Nat} :
    Behind start k block ↔ blockAt start.normalize k = some block := by
  rw [block_at_eq_some_iff, start.first_normalize]
  constructor
  · intro h
    have hlt := block.address_lt
    rw [h.family, h.address] at hlt
    exact ⟨hlt, h.family, h.address, h.length⟩
  · rintro ⟨-, hfamily, haddress, hlength⟩
    exact ⟨hfamily, haddress, hlength⟩

namespace Behind

variable {start block : Network} {k : Nat} (h : Behind start k block)
include h

theorem unique {other : Network} (h' : Behind start k other) : block = other :=
  Network.eq_of_parts (h.family.trans h'.family.symm) (h.address.trans h'.address.symm)
    (h.length.trans h'.length.symm)

/-- The block is given by its first address. -/
theorem first_eq : block.first = block.address := by
  rw [first_block_at (behind_iff.mp h), start.first_normalize, start.size_normalize, h.address]

/-- The block lies in the address space of its family up to its last address. -/
theorem end_le : start.first + (k + 1) * start.size ≤ start.family.size := by
  have hend := block.first_add_size_le
  rw [h.first_eq, size_block_at (behind_iff.mp h), start.size_normalize, h.family,
    h.address] at hend
  rw [Nat.succ_mul]
  omega

theorem host_of_first_host : HostOf block (firstHost block) := by
  unfold firstHost
  split
  · next hroom =>
      refine ⟨rfl, ?_, rfl⟩
      rw [if_pos hroom, ← h.first_eq]
  · next hnone =>
      refine ⟨rfl, ?_, rfl⟩
      rw [if_neg hnone, ← h.first_eq]
      rfl

end Behind

theorem HostOf.unique {block m n : Network} (hm : HostOf block m) (hn : HostOf block n) : m = n :=
  Network.eq_of_parts (hm.family.trans hn.family.symm) (hm.address.trans hn.address.symm)
    (hm.length.trans hn.length.symm)

namespace NextHost

variable {events : List Event} {start n : Network} (h : NextHost events start n)
include h

theorem not_exhausted : ¬ Exhausted events start := by
  obtain ⟨k, block, hblock, -, hfree, -⟩ := h
  exact fun hall => hfree (hall k block hblock)

theorem unique {m : Network} (h' : NextHost events start m) : n = m := by
  obtain ⟨k, block, hblock, hhost, hfree, hleast⟩ := h
  obtain ⟨k', block', hblock', hhost', hfree', hleast'⟩ := h'
  -- Of two numbers, the block of the smaller one would be occupied.
  obtain rfl : k = k' := by
    rcases Nat.lt_trichotomy k k' with hlt | heq | hlt
    · exact absurd (hleast' k hlt block hblock) hfree
    · exact heq
    · exact absurd (hleast k' hlt block' hblock') hfree'
  obtain rfl := hblock.unique hblock'
  exact hhost.unique hhost'

end NextHost

/-! ## What the allocator knows -/

/-- Where the start blocks are of different families, each block is the first one that is free. -/
theorem take_addresses_first {a a' : Allocator} {addresses : List Network}
    (hfamilies : ∀ start, a.startV6 = some start → start.family ≠ a.startV4.family)
    (h : a.takeAddresses = (.ok addresses, a')) :
    ∃ blocks, List.Forall₂ (FirstFree a.usedNetworks) (a.startV4 :: a.startV6.toList) blocks ∧
      addresses = blocks.map firstHost ∧ (blocks.Pairwise fun b c => ¬ b.Shares c) ∧
      a' = { a with usedNetworks := a.usedNetworks ++ blocks } := by
  obtain ⟨short, hshort, ⟨hnone, rfl, rfl⟩ | ⟨start, long, hsome, hlong, rfl, rfl⟩⟩ :=
    take_addresses_blocks h
  · rw [hnone]
    exact ⟨[short], .cons hshort .nil, rfl, List.pairwise_singleton _ _, rfl⟩
  · have hother : ∀ u ∈ [short], u.family ≠ start.family := by
      rw [List.forall_mem_singleton, hshort.family]
      exact (hfamilies start hsome).symm
    have hapart : ¬ short.Shares long :=
      fun hshares => hlong.free short (by simp) hshares.symm
    rw [hsome]
    exact ⟨[short, long], .cons hshort (.cons (hlong.of_append hother) .nil), rfl,
      by simpa using hapart, rfl⟩

theorem exists_of_forall₂ {α β : Type} {R : α → β → Prop} {l : List α} {u : List β}
    (h : List.Forall₂ R l u) {x : α} (hx : x ∈ l) : ∃ y, R x y := by
  obtain ⟨i, hi, rfl⟩ := List.getElem_of_mem hx
  exact ⟨_, h.get hi (h.length_eq ▸ hi)⟩

/-- The start blocks that addresses are handed out from, the short family first. -/
structure Starts (v4 : Network) (v6 : Option Network) (a : Allocator) : Prop where
  v4_family : v4.family = .v4
  v6_family : ∀ n, v6 = some n → n.family = .v6
  v4_start : a.startV4 = v4.normalize
  v6_start : a.startV6 = v6.map Network.normalize

namespace Starts

variable {v4 : Network} {v6 : Option Network} {a : Allocator} (hstarts : Starts v4 v6 a)
include hstarts

theorem families : ∀ start, a.startV6 = some start → start.family ≠ a.startV4.family := by
  intro start hstart
  rw [hstarts.v6_start] at hstart
  obtain ⟨n, hn, rfl⟩ := Option.map_eq_some_iff.mp hstart
  rw [hstarts.v4_start]
  show n.family ≠ v4.family
  rw [hstarts.v6_family n hn, hstarts.v4_family]
  decide

theorem of_eq {a' : Allocator} (hv4 : a'.startV4 = a.startV4) (hv6 : a'.startV6 = a.startV6) :
    Starts v4 v6 a' where
  v4_family := hstarts.v4_family
  v6_family := hstarts.v6_family
  v4_start := hv4.trans hstarts.v4_start
  v6_start := hv6.trans hstarts.v6_start

theorem eq_map : a.startV4 :: a.startV6.toList = (v4 :: v6.toList).map Network.normalize := by
  rw [hstarts.v4_start, hstarts.v6_start, List.map_cons]
  cases v6 with
  | none => rfl
  | some n => rfl

end Starts

/-- What an allocator knows about the blocks of its history. -/
structure BlocksKept (v4 : Network) (v6 : Option Network) (h : History) : Prop where
  starts : Starts v4 v6 h.allocator
  known : ∀ block, Occupied h.events block → ∃ u ∈ h.allocator.usedNetworks, block.Shares u
  seen : (∀ fault, Event.addressesTaken (.error fault) ∉ h.events) →
    ∀ u ∈ h.allocator.usedNetworks, ∀ block, block.Shares u → Occupied h.events block
  failed : ∀ fault, Event.addressesTaken (.error fault) ∈ h.events →
    ∃ start ∈ v4 :: v6.toList, Exhausted h.events start
  apart : (addressesTaken h.events).Pairwise fun m n => ¬ m.Shares n

namespace BlocksKept

variable {v4 : Network} {v6 : Option Network} {h : History} (hkept : BlocksKept v4 v6 h)
include hkept

/-- Addresses are not handed out only if there is no free block of a family. -/
theorem exhausted_of_error {fault : SettingsFault} {a' : Allocator}
    (htake : h.allocator.takeAddresses = (.error fault, a')) :
    ∃ start ∈ v4 :: v6.toList, Exhausted h.events start := by
  by_cases hfailed : ∃ earlier, Event.addressesTaken (.error earlier) ∈ h.events
  · obtain ⟨earlier, hearlier⟩ := hfailed
    exact hkept.failed earlier hearlier
  · obtain ⟨start, hstart, -, hall⟩ := take_addresses_error hkept.starts.families htake
    have hmem : start ∈ h.allocator.startV4 :: h.allocator.startV6.toList := by
      simpa using hstart
    rw [hkept.starts.eq_map, List.mem_map] at hmem
    obtain ⟨n, hn, rfl⟩ := hmem
    refine ⟨n, hn, fun k block hblock => ?_⟩
    obtain ⟨u, hu, hshares⟩ := hall k block (behind_iff.mp hblock)
    exact hkept.seen (not_exists.mp hfailed) u hu block hshares

/-- What is free for the allocator is free for its callers. -/
theorem not_occupied {start block : Network}
    (hfirst : FirstFree h.allocator.usedNetworks start block) : ¬ Occupied h.events block := by
  intro hoccupied
  obtain ⟨u, hu, hshares⟩ := hkept.known block hoccupied
  exact hfirst.free u hu hshares

/-- The first free blocks as the allocator finds them. After a failure there are none. -/
theorem first_of_ok {addresses : List Network} {a' : Allocator}
    (htake : h.allocator.takeAddresses = (.ok addresses, a')) :
    (∀ fault, Event.addressesTaken (.error fault) ∉ h.events) ∧
      ∃ blocks, List.Forall₂ (fun start block =>
          FirstFree h.allocator.usedNetworks start.normalize block) (v4 :: v6.toList) blocks ∧
        addresses = blocks.map firstHost ∧ (blocks.Pairwise fun b c => ¬ b.Shares c) ∧
        a' = { h.allocator with usedNetworks := h.allocator.usedNetworks ++ blocks } := by
  obtain ⟨blocks, hblocks, haddresses, hapart, ha'⟩ :=
    take_addresses_first hkept.starts.families htake
  rw [hkept.starts.eq_map, List.forall₂_map_left_iff] at hblocks
  refine ⟨fun fault hfault => ?_, blocks, hblocks, haddresses, hapart, ha'⟩
  obtain ⟨start, hstart, hall⟩ := hkept.failed fault hfault
  obtain ⟨block, hfirst⟩ := exists_of_forall₂ hblocks hstart
  obtain ⟨k, hblock, -⟩ := hfirst.first
  exact hkept.not_occupied hfirst (hall k block (behind_iff.mpr hblock))

/-- Addresses that are handed out are the first hosts of the first free blocks. -/
theorem next_hosts_of_ok {addresses : List Network} {a' : Allocator}
    (htake : h.allocator.takeAddresses = (.ok addresses, a')) :
    List.Forall₂ (NextHost h.events) (v4 :: v6.toList) addresses := by
  obtain ⟨hnone, blocks, hblocks, rfl, -, -⟩ := hkept.first_of_ok htake
  rw [List.forall₂_map_right_iff]
  refine hblocks.imp fun start block hfirst => ?_
  obtain ⟨k, hblock, hleast⟩ := hfirst.first
  have hbehind := behind_iff.mpr hblock
  refine ⟨k, block, hbehind, hbehind.host_of_first_host, hkept.not_occupied hfirst,
    fun j hj passed hpassed => ?_⟩
  obtain ⟨u, hu, hshares⟩ := hleast j hj passed (behind_iff.mp hpassed)
  exact hkept.seen hnone u hu passed hshares

/-- A call that succeeds brings those networks into use that a caller sees it reserve or hand
out. -/
theorem call_ok {e : Event} {a' : Allocator} {more : List Network}
    (hok : ∀ fault, e ≠ .addressesTaken (.error fault)) (hstarts : Starts v4 v6 a')
    (hused : a'.usedNetworks = h.allocator.usedNetworks ++ more)
    (hmore : ∀ block : Network,
      (∃ n ∈ e.networks, block.Shares n) ↔ ∃ u ∈ more, block.Shares u)
    (hapart : (addressesTaken h.events ++ e.addresses).Pairwise fun m n => ¬ m.Shares n) :
    BlocksKept v4 v6 ⟨h.events ++ [e], a'⟩ where
  starts := hstarts
  known := by
    intro block hoccupied
    rw [hused]
    simp only [List.mem_append, or_and_right, exists_or]
    exact (occupied_concat.mp hoccupied).imp (hkept.known block) (hmore block).mp
  seen := by
    intro hnone u hu block hshares
    rw [occupied_concat]
    rw [hused, List.mem_append] at hu
    have hnone' : ∀ fault, Event.addressesTaken (.error fault) ∉ h.events :=
      fun fault hfault => hnone fault (List.mem_append_left _ hfault)
    exact hu.imp (fun hu => hkept.seen hnone' u hu block hshares)
      fun hu => (hmore block).mpr ⟨u, hu, hshares⟩
  failed := by
    intro fault hfault
    rw [List.mem_append, List.mem_singleton, or_iff_left (hok fault).symm] at hfault
    obtain ⟨start, hstart, hall⟩ := hkept.failed fault hfault
    exact ⟨start, hstart, hall.concat e⟩
  apart := by
    rw [addresses_taken_concat]
    exact hapart

/-- The blocks that are handed out share no address with one that was handed out before. -/
theorem take_ok {addresses : List Network} {a' : Allocator}
    (htake : h.allocator.takeAddresses = (.ok addresses, a')) :
    BlocksKept v4 v6 ⟨h.events ++ [.addressesTaken (.ok addresses)], a'⟩ := by
  obtain ⟨hnone, blocks, hblocks, rfl, hapart, rfl⟩ := hkept.first_of_ok htake
  have hfree : ∀ block ∈ blocks, ¬ Occupied h.events block := by
    intro block hblock
    obtain ⟨start, hfirst⟩ := exists_of_forall₂ hblocks.flip hblock
    exact hkept.not_occupied hfirst
  refine hkept.call_ok (by simp) (hkept.starts.of_eq rfl rfl) rfl (fun block => ?_) ?_
  · simp only [Event.networks, Event.addresses, List.mem_map, exists_exists_and_eq_and,
      shares_first_host]
  · rw [Event.addresses, List.pairwise_append, List.pairwise_map]
    refine ⟨hkept.apart, hapart.imp fun hnot => ?_, fun m hm n hn hshares => ?_⟩
    · rwa [first_host_shares, shares_first_host]
    · obtain ⟨block, hblock, rfl⟩ := List.mem_map.mp hn
      obtain ⟨e, he, hme⟩ := List.mem_flatMap.mp hm
      exact hfree block hblock
        ⟨e, he, m, e.networks_of_addresses hme, (shares_first_host.mp hshares).symm⟩

/-- A call that fails may bring a network into use that no caller sees. -/
theorem take_error {fault : SettingsFault} {a' : Allocator}
    (htake : h.allocator.takeAddresses = (.error fault, a')) :
    BlocksKept v4 v6 ⟨h.events ++ [.addressesTaken (.error fault)], a'⟩ := by
  obtain ⟨more, hkeeps⟩ := h.allocator.take_addresses_keeps
  rw [htake] at hkeeps
  obtain rfl : a' = _ := hkeeps
  obtain ⟨start, hstart, hall⟩ := hkept.exhausted_of_error htake
  exact {
    starts := hkept.starts.of_eq rfl rfl
    known := by
      intro block hoccupied
      rcases occupied_concat.mp hoccupied with hbefore | ⟨n, hn, -⟩
      · obtain ⟨u, hu, hshares⟩ := hkept.known block hbefore
        exact ⟨u, List.mem_append_left more hu, hshares⟩
      · cases hn
    seen := fun hnone => absurd (List.mem_append_right _ (List.mem_singleton_self _)) (hnone fault)
    failed := fun _ _ => ⟨start, hstart, hall.concat _⟩
    apart := by
      rw [addresses_taken_concat]
      simpa [Event.addresses] using hkept.apart }

/-- Every call keeps what is known about the blocks. -/
theorem next (c : Call) : BlocksKept v4 v6 (h.next c) := by
  have hapart : (addressesTaken h.events ++ []).Pairwise fun m n : Network => ¬ m.Shares n := by
    rw [List.append_nil]
    exact hkept.apart
  cases c with
  | reservePort port =>
      exact hkept.call_ok (by simp [call]) (hkept.starts.of_eq rfl rfl) (List.append_nil _).symm
        (by simp [call, Event.networks, Event.addresses]) hapart
  | reserveNetworks networks =>
      refine hkept.call_ok (by simp [call]) (hkept.starts.of_eq rfl rfl) rfl
        (fun block => ?_) hapart
      simp only [call, Event.networks, List.mem_map, exists_exists_and_eq_and,
        Network.shares_normalize]
  | takePort =>
      obtain ⟨hv4, hv6, hused⟩ := h.allocator.take_port_keeps
      exact hkept.call_ok (by simp [call]) (hkept.starts.of_eq hv4 hv6)
        (hused.trans (List.append_nil _).symm)
        (by simp [call, Event.networks, Event.addresses]) hapart
  | takeAddresses =>
      unfold History.next call
      rcases htake : h.allocator.takeAddresses with ⟨fault | addresses, a'⟩
      · exact hkept.take_error htake
      · exact hkept.take_ok htake

end BlocksKept

/-- A new allocator has no network in use. -/
theorem blocks_kept_of_start {port : Nat} {v4 : Network} {v6 : Option Network} {a : Allocator}
    (h : ofStart port v4 v6 = .ok a) : BlocksKept v4 v6 ⟨[], a⟩ := by
  obtain ⟨hv4, hv6, rfl⟩ := of_start_eq_ok_iff.mp h
  exact {
    starts := ⟨hv4, hv6, rfl, rfl⟩
    known := by simp [Occupied]
    seen := by simp
    failed := by simp
    apart := .nil }

/-- At every point of a history. -/
theorem blocks_kept {port : Nat} {v4 : Network} {v6 : Option Network} {a : Allocator}
    (h : ofStart port v4 v6 = .ok a) (calls : List Call) : BlocksKept v4 v6 (.of a calls) :=
  List.foldlRecOn calls History.next (blocks_kept_of_start h)
    fun _ hkept c _ => hkept.next c

/-- At every point of a history the addresses that are handed out are the first hosts of the first
blocks that are free, one for each start block. None are handed out exactly if there is no free
block behind one of the start blocks, and after that none ever are. No two of the blocks that were
handed out share an address, and no block that the search goes through ends behind the last address
of its family. -/
theorem first_free_blocks_taken {port : Nat} {v4 : Network} {v6 : Option Network} {a : Allocator}
    (h : ofStart port v4 v6 = .ok a) (calls : List Call) :
    let past := History.of a calls
    (∀ addresses, past.allocator.takeAddresses.1 = .ok addresses ↔
        List.Forall₂ (NextHost past.events) (v4 :: v6.toList) addresses) ∧
      ((∃ fault, past.allocator.takeAddresses.1 = .error fault) ↔
        ∃ start ∈ v4 :: v6.toList, Exhausted past.events start) ∧
      ((∃ fault, Event.addressesTaken (.error fault) ∈ past.events) →
        ∃ fault, past.allocator.takeAddresses.1 = .error fault) ∧
      ((addressesTaken past.events).Pairwise fun m n => ¬ m.Shares n) ∧
      ∀ start k block, Behind start k block →
        start.first + (k + 1) * start.size ≤ start.family.size := by
  intro past
  have hkept : BlocksKept v4 v6 past := blocks_kept h calls
  have hfails : (∃ start ∈ v4 :: v6.toList, Exhausted past.events start) →
      ∃ fault, past.allocator.takeAddresses.1 = .error fault := by
    rintro ⟨start, hstart, hall⟩
    rcases htake : past.allocator.takeAddresses with ⟨fault | addresses, a'⟩
    · exact ⟨fault, rfl⟩
    · obtain ⟨n, hnext⟩ := exists_of_forall₂ (hkept.next_hosts_of_ok htake) hstart
      exact absurd hall hnext.not_exhausted
  refine ⟨fun addresses => ⟨fun hok => hkept.next_hosts_of_ok (Prod.ext hok rfl), fun hnext => ?_⟩,
    ⟨?_, hfails⟩, ?_, hkept.apart, fun start k block hblock => hblock.end_le⟩
  · rcases htake : past.allocator.takeAddresses with ⟨fault | addresses', a'⟩
    · obtain ⟨start, hstart, hall⟩ := hkept.exhausted_of_error htake
      obtain ⟨n, hn⟩ := exists_of_forall₂ hnext hstart
      exact absurd hall hn.not_exhausted
    · have hunique : Relator.RightUnique (NextHost past.events) := fun _ _ _ hm hn => hm.unique hn
      rw [List.right_unique_forall₂' hunique (hkept.next_hosts_of_ok htake) hnext]
  · rintro ⟨fault, herror⟩
    exact hkept.exhausted_of_error (Prod.ext herror rfl)
  · rintro ⟨fault, hfault⟩
    exact hfails (hkept.failed fault hfault)

/-- A reserved network of two blocks is passed over in its family alone. -/
theorem reserved_blocks_passed_over :
    let v4 : Network := ⟨.v4, 0x0A0B0C4D, 24, by decide, by decide⟩
    let v6 : Network := ⟨.v6, 0xFDFDD3ADC0DE12340000000000000000, 64, by decide, by decide⟩
    let reserved : Network := ⟨.v4, 0x0A0B0D01, 23, by decide, by decide⟩
    let a : Allocator := ⟨51820, [], v4.normalize, some v6, []⟩
    let past := History.of a [.reserveNetworks [reserved]]
    ofStart 51820 v4 (some v6) = .ok a ∧
      List.Forall₂ (NextHost past.events) [v4, v6]
        [⟨.v4, 0x0A0B0E01, 24, by decide, by decide⟩,
          ⟨.v6, 0xFDFDD3ADC0DE12340000000000000001, 64, by decide, by decide⟩] := by
  intro v4 v6 reserved a past
  have hstart : ofStart 51820 v4 (some v6) = .ok a :=
    of_start_eq_ok_iff.mpr ⟨rfl, by simp [v6], by decide +kernel⟩
  have htaken : past.allocator.takeAddresses.1.toOption =
      some [⟨.v4, 0x0A0B0E01, 24, by decide, by decide⟩,
        ⟨.v6, 0xFDFDD3ADC0DE12340000000000000001, 64, by decide, by decide⟩] := by
    decide +kernel
  exact ⟨hstart, ((first_free_blocks_taken hstart _).1 _).mp (except_eq_ok htaken)⟩

end Allocator

end TunnelKeeper
