import Mathlib.Logic.Basic
import TunnelKeeper.Proofs.Net.Block
import TunnelKeeper.Proofs.Provisioning.Build

/-!
# What an allocator knows to be taken

While the interfaces of a list of entries are built, exactly those ports and blocks are taken that
one of all the entries asks for, the later ones included, or that an interface has which was built
before (`PortTaken`, `BlockTaken`). `Accounts` says that an allocator knows this. It holds of the
allocator that the building begins with (`Accounts.of_allocator`), and every interface that is
built keeps it (`Accounts.build`).
-/

namespace TunnelKeeper

namespace Entry

open Allocator

/-! ## What is taken -/

/-- An entry asks for a port, or an interface has it. -/
def PortTaken (entries : List Entry) (built : List Interface) (port : Nat) : Prop :=
  (∃ e ∈ entries, e.listenPort ≠ 0 ∧ e.listenPort.toNat = port) ∨
    ∃ i ∈ built, i.listenPort.toNat = port

/-- A block shares an address with one that an entry asks for or an interface has. -/
def BlockTaken (entries : List Entry) (built : List Interface) (block : Network) : Prop :=
  (∃ e ∈ entries, ∃ asked, networks e.addresses = .ok asked ∧ ∃ n ∈ asked, block.Shares n) ∨
    ∃ i ∈ built, ∃ n ∈ i.addresses, block.Shares n

/-- One more interface takes its port. -/
theorem port_taken_concat {entries : List Entry} {built : List Interface} {i : Interface}
    {port : Nat} :
    PortTaken entries (built ++ [i]) port ↔
      PortTaken entries built port ∨ i.listenPort.toNat = port := by
  unfold PortTaken
  simp only [List.mem_append, List.mem_singleton, or_and_right, exists_or, exists_eq_left, or_assoc]

/-- One more interface takes its blocks. -/
theorem block_taken_concat {entries : List Entry} {built : List Interface} {i : Interface}
    {block : Network} :
    BlockTaken entries (built ++ [i]) block ↔
      BlockTaken entries built block ∨ ∃ n ∈ i.addresses, block.Shares n := by
  unfold BlockTaken
  simp only [List.mem_append, List.mem_singleton, or_and_right, exists_or, exists_eq_left, or_assoc]

/-- A start block of the settings that is wanted, in its family. -/
def StartBlock (s : AdvancedSettings) (start : Network) : Prop :=
  (∃ n, Network.parseEntry s.startCidrV4 = .ok n ∧ n.family = .v4 ∧ start = n.normalize) ∨
    s.useIpV6 = true ∧
      ∃ n, Network.parseEntry s.startCidrV6 = .ok n ∧ n.family = .v6 ∧ start = n.normalize

/-- An allocator knows what is taken, has passed over no port that is not, and goes on from the
start blocks of the settings. -/
structure Accounts (s : AdvancedSettings) (entries : List Entry) (built : List Interface)
    (a : Allocator) : Prop where
  ports : ∀ port, port ∈ a.usedPorts ↔ PortTaken entries built port
  blocks : ∀ block : Network, (∃ u ∈ a.usedNetworks, block.Shares u) ↔
    BlockTaken entries built block
  passed : ∀ port, s.startListenPort.toNat ≤ port → port < a.nextPort →
    port = 0 ∨ port ∈ a.usedPorts
  start_v4 : StartBlock s a.startV4 ∧ a.startV4.family = .v4
  start_v6 : ∀ block, a.startV6 = some block → StartBlock s block ∧ block.family = .v6

/-! ## Before the first interface -/

/-- What one entry reserves. -/
theorem reserve_ok {e : Entry} {a a' : Allocator} (h : e.reserve a = .ok a') :
    (∀ port, port ∈ a'.usedPorts ↔
        port ∈ a.usedPorts ∨ e.listenPort ≠ 0 ∧ e.listenPort.toNat = port) ∧
      (∀ block : Network, (∃ u ∈ a'.usedNetworks, block.Shares u) ↔
        (∃ u ∈ a.usedNetworks, block.Shares u) ∨
          ∃ asked, networks e.addresses = .ok asked ∧ ∃ n ∈ asked, block.Shares n) ∧
      a'.nextPort = a.nextPort ∧ a'.startV4 = a.startV4 ∧ a'.startV6 = a.startV6 := by
  unfold reserve at h
  obtain ⟨asked, hasked, h⟩ := except_bind_eq_ok_iff.mp h
  obtain rfl := Except.ok.inj h
  -- Whether a block shares an address with a network does not depend on the network's host bits.
  have hblocks : ∀ block : Network,
      (∃ u ∈ a.usedNetworks ++ asked.map Network.normalize, block.Shares u) ↔
        (∃ u ∈ a.usedNetworks, block.Shares u) ∨
          ∃ asked, networks e.addresses = .ok asked ∧ ∃ n ∈ asked, block.Shares n := by
    intro block
    simp only [List.mem_append, or_and_right, exists_or, List.mem_map, exists_exists_and_eq_and,
      Network.shares_normalize, hasked, Except.ok.injEq, exists_eq_left']
  by_cases hport : e.listenPort ≠ 0
  · rw [if_pos hport]
    refine ⟨fun port => ?_, hblocks, rfl, rfl, rfl⟩
    show port ∈ e.listenPort.toNat :: a.usedPorts ↔ _
    rw [List.mem_cons, eq_comm (a := port), and_iff_right hport, or_comm]
  · rw [if_neg hport]
    refine ⟨fun port => ?_, hblocks, rfl, rfl, rfl⟩
    show port ∈ a.usedPorts ↔ _
    simp only [hport, false_and, or_false]

/-- What several entries reserve, beside what was reserved before. -/
theorem reserve_all_ok {entries : List Entry} {a a' : Allocator}
    (h : entries.foldlM reserve a = .ok a') :
    (∀ port, port ∈ a'.usedPorts ↔ port ∈ a.usedPorts ∨ PortTaken entries [] port) ∧
      (∀ block : Network, (∃ u ∈ a'.usedNetworks, block.Shares u) ↔
        (∃ u ∈ a.usedNetworks, block.Shares u) ∨ BlockTaken entries [] block) ∧
      a'.nextPort = a.nextPort ∧ a'.startV4 = a.startV4 ∧ a'.startV6 = a.startV6 := by
  induction entries generalizing a with
  | nil =>
      cases h
      simp [PortTaken, BlockTaken]
  | cons e rest ih =>
      rw [List.foldlM_cons] at h
      obtain ⟨mid, hreserve, hrest⟩ := except_bind_eq_ok_iff.mp h
      obtain ⟨hports, hblocks, hnext, hv4, hv6⟩ := reserve_ok hreserve
      obtain ⟨hports', hblocks', hnext', hv4', hv6'⟩ := ih hrest
      refine ⟨fun port => ?_, fun block => ?_, hnext'.trans hnext, hv4'.trans hv4,
        hv6'.trans hv6⟩
      · rw [hports', hports]
        simp only [PortTaken, List.mem_cons, or_and_right, exists_or, exists_eq_left, or_assoc]
      · rw [hblocks', hblocks]
        simp only [BlockTaken, List.mem_cons, or_and_right, exists_or, exists_eq_left, or_assoc]

/-- A start block is what its text says. -/
theorem start_block_ok {name raw : String} {n : Network} :
    startBlock name raw = .ok n ↔ Network.parseEntry raw = .ok n := by
  unfold startBlock Error.within
  rw [except_map_error_eq_ok_iff, except_map_error_eq_ok_iff]

/-- The allocator of some entries begins with the start blocks and with what the entries reserve. -/
theorem allocator_ok {s : AdvancedSettings} {entries : List Entry} {a : Allocator}
    (h : Entry.allocator s entries = .ok a) :
    ∃ v4 v6 fresh, Network.parseEntry s.startCidrV4 = .ok v4 ∧
      (∀ n, v6 = some n → s.useIpV6 = true ∧ Network.parseEntry s.startCidrV6 = .ok n) ∧
      Allocator.ofStart s.startListenPort.toNat v4 v6 = .ok fresh ∧
      entries.foldlM reserve fresh = .ok a := by
  unfold Entry.allocator at h
  obtain ⟨v4, hv4, h⟩ := except_bind_eq_ok_iff.mp h
  have hbegin : ∃ v6, (∀ n, v6 = some n →
        s.useIpV6 = true ∧ Network.parseEntry s.startCidrV6 = .ok n) ∧
      ((Allocator.ofStart s.startListenPort.toNat v4 v6).mapError .settings >>=
        fun fresh => entries.foldlM reserve fresh) = .ok a := by
    cases hwanted : s.useIpV6 with
    | true =>
        rw [hwanted] at h
        obtain ⟨v6, hv6, h⟩ := except_bind_eq_ok_iff.mp h
        refine ⟨v6, fun n hn => ⟨rfl, ?_⟩, h⟩
        cases hstart : startBlock "advanced.start_cidr_v6" s.startCidrV6 with
        | error fault =>
            rw [hstart] at hv6
            cases hv6
        | ok m =>
            rw [hstart, hn] at hv6
            cases hv6
            exact start_block_ok.mp hstart
    | false =>
        rw [hwanted] at h
        exact ⟨none, by simp, h⟩
  obtain ⟨v6, hv6, h⟩ := hbegin
  obtain ⟨fresh, hfresh, hreserve⟩ := except_bind_eq_ok_iff.mp h
  exact ⟨v4, v6, fresh, start_block_ok.mp hv4, hv6, except_map_error_eq_ok_iff.mp hfresh, hreserve⟩

/-- The building begins with an allocator that knows what the entries ask for. -/
theorem accounts_of_allocator {s : AdvancedSettings} {entries : List Entry} {a : Allocator}
    (h : Entry.allocator s entries = .ok a) : Accounts s entries [] a := by
  obtain ⟨v4, v6, fresh, hread, hread', hstart, hreserve⟩ := allocator_ok h
  obtain ⟨hfamily, hfamily', rfl⟩ := of_start_eq_ok_iff.mp hstart
  obtain ⟨hports, hblocks, hnext, hv4, hv6⟩ := reserve_all_ok hreserve
  exact {
    ports := by
      intro port
      rw [hports]
      simp
    blocks := by
      intro block
      rw [hblocks]
      simp
    passed := by
      intro port hge hlt
      rw [hnext] at hlt
      exact absurd hge (Nat.not_le.mpr hlt)
    start_v4 := by
      rw [hv4]
      exact ⟨.inl ⟨v4, hread, hfamily, rfl⟩, hfamily⟩
    start_v6 := by
      intro block hblock
      rw [hv6] at hblock
      obtain ⟨n, hn, rfl⟩ := Option.map_eq_some_iff.mp hblock
      obtain ⟨hwanted, hread⟩ := hread' n hn
      exact ⟨.inr ⟨hwanted, n, hread, hfamily' n hn, rfl⟩, hfamily' n hn⟩ }

/-! ## One interface after the other -/

/-- An interface has what its entry asks for. -/
structure Follows (e : Entry) (i : Interface) : Prop where
  port : e.listenPort ≠ 0 → i.listenPort = e.listenPort
  addresses : e.addresses ≠ [] → networks e.addresses = .ok i.addresses

/-- Where its entry asks for nothing, an interface has what was not taken. -/
structure Fresh (entries : List Entry) (built : List Interface) (e : Entry) (i : Interface) :
    Prop where
  port : e.listenPort = 0 → i.listenPort ≠ 0 ∧ ¬ PortTaken entries built i.listenPort.toNat
  addresses : e.addresses = [] → ∀ n ∈ i.addresses, ¬ BlockTaken entries built n

section

variable {s : AdvancedSettings} {entries : List Entry} {built : List Interface}
  {e : Entry} {new : KeyPair} {a a' : Allocator} {i : Interface}

theorem follows_of_build (h : e.build s new a = .ok (i, a')) : Follows e i where
  port := by
    intro hasked
    rcases ports_of_build h with ⟨-, hport, -⟩ | ⟨hopen, -⟩
    · exact hport
    · exact absurd hopen hasked
  addresses := by
    intro hasked
    rcases blocks_of_build h with ⟨-, hnetworks, -⟩ | ⟨hopen, -⟩
    · exact hnetworks
    · exact absurd hopen hasked

namespace Accounts

variable (haccounts : Accounts s entries built a) (h : e.build s new a = .ok (i, a'))
include haccounts h

/-- What is handed out was not taken. -/
theorem fresh : Fresh entries built e i where
  port := by
    intro hopen
    rcases ports_of_build h with ⟨hasked, -⟩ | ⟨-, hzero, hunused, -⟩
    · exact absurd hopen hasked
    · exact ⟨hzero, fun htaken => hunused ((haccounts.ports _).mpr htaken)⟩
  addresses := by
    intro hopen n hn htaken
    rcases blocks_of_build h with ⟨hasked, -⟩ | ⟨-, blocks, -, hblocks, hdisjoint, -⟩
    · exact absurd hopen hasked
    · rw [hblocks] at hn
      obtain ⟨block, hblock, rfl⟩ := List.mem_map.mp hn
      obtain ⟨u, hu, hshares⟩ := (haccounts.blocks _).mpr htaken
      exact hdisjoint block hblock u hu (first_host_shares.mp hshares)

/-- One more interface is built, and the allocator knows what it has taken. -/
theorem build (he : e ∈ entries) : Accounts s entries (built ++ [i]) a' where
  ports := by
    intro port
    rw [port_taken_concat, ← haccounts.ports]
    rcases ports_of_build h with ⟨hasked, hport, hports, -⟩ | ⟨-, -, -, -, hports, -⟩
    · -- The port was taken before, since the entry asks for it.
      have hknown : e.listenPort.toNat ∈ a.usedPorts :=
        (haccounts.ports _).mpr (.inl ⟨e, he, hasked, rfl⟩)
      rw [hports, hport]
      constructor
      · exact .inl
      · rintro (hmem | rfl)
        · exact hmem
        · exact hknown
    · rw [hports, List.mem_cons, or_comm, @eq_comm _ port]
  blocks := by
    intro block
    rw [block_taken_concat, ← haccounts.blocks]
    rcases blocks_of_build h with ⟨-, hasked, hnetworks⟩ | ⟨-, blocks, -, hblocks, -, hnetworks⟩
    · have hknown : (∃ n ∈ i.addresses, block.Shares n) → ∃ u ∈ a.usedNetworks, block.Shares u :=
        fun hshares => (haccounts.blocks _).mpr (.inl ⟨e, he, i.addresses, hasked, hshares⟩)
      rw [hnetworks]
      exact ⟨.inl, fun hor => hor.elim (fun hbefore => hbefore) hknown⟩
    · have hhosts : (∃ n ∈ blocks.map firstHost, block.Shares n) ↔
          ∃ n ∈ blocks, block.Shares n := by
        simp only [List.mem_map, exists_exists_and_eq_and, shares_first_host]
      rw [hnetworks, hblocks, hhosts]
      simp only [List.mem_append, or_and_right, exists_or]
  passed := by
    intro port hge hlt
    rcases ports_of_build h with ⟨-, -, hports, hnext⟩ | ⟨-, -, -, hleast, hports, hnext⟩
    · rw [hports]
      exact haccounts.passed port hge (by omega)
    · rw [hnext] at hlt
      rw [hports]
      exact passed_over haccounts.passed hleast hge hlt
  start_v4 := by
    rw [(starts_of_build h).1]
    exact haccounts.start_v4
  start_v6 := by
    rw [(starts_of_build h).2]
    exact haccounts.start_v6

end Accounts

end

end Entry

end TunnelKeeper
