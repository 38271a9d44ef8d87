import TunnelKeeper.Proofs.Allocator
import TunnelKeeper.Provisioning.Build

/-!
# Building an interface step by step

What an interface that was built has from its entry and what it has from the allocator
(`built_of_build`), and what the allocator has given away then (`ports_of_build`,
`blocks_of_build`). The port and the addresses are dealt with apart from each other, since neither
looks at what the other one takes.
-/

namespace TunnelKeeper

namespace Entry

open Allocator

variable {s : AdvancedSettings} {e : Entry} {new : KeyPair} {a a' : Allocator} {i : Interface}

/-! ## Parts of an interface -/

/-- No text is passed over when networks are read. -/
theorem networks_eq_nil {raw : List String} (h : networks raw = .ok []) : raw = [] := by
  cases raw with
  | nil => rfl
  | cons text rest =>
      unfold networks at h
      rw [List.mapM_cons] at h
      obtain ⟨n, -, h⟩ := except_bind_eq_ok_iff.mp h
      obtain ⟨later, -, h⟩ := except_bind_eq_ok_iff.mp h
      cases h

/-- The port is the one that is asked for, or one that the allocator hands out. -/
theorem build_port_ok {port : UInt16} (h : e.buildPort a = .ok (port, a')) :
    (e.listenPort ≠ 0 ∧ port = e.listenPort ∧ a' = a) ∨
      (e.listenPort = 0 ∧ a.takePort = (.ok port.toNat, a')) := by
  unfold buildPort at h
  by_cases hasked : e.listenPort ≠ 0
  · rw [if_pos hasked] at h
    cases h
    exact .inl ⟨hasked, rfl, rfl⟩
  · rw [if_neg hasked] at h
    rcases htake : a.takePort with ⟨fault | free, later⟩
    · rw [htake] at h
      cases h
    · rw [htake] at h
      cases h
      obtain ⟨⟨-, hgreatest, -⟩, -⟩ := take_port_ok htake
      have hlt : free < UInt16.size := Nat.lt_succ_of_le hgreatest
      refine .inr ⟨Decidable.not_not.mp hasked, ?_⟩
      rw [UInt16.toNat_ofNat_of_lt' hlt]

/-- The addresses are those that are asked for, or some that the allocator hands out. -/
theorem build_addresses_ok {addresses : List Network}
    (h : e.buildAddresses a = .ok (addresses, a')) :
    (e.addresses ≠ [] ∧ networks e.addresses = .ok addresses ∧ a' = a) ∨
      (e.addresses = [] ∧ a.takeAddresses = (.ok addresses, a')) := by
  unfold buildAddresses at h
  obtain ⟨asked, hasked, h⟩ := except_bind_eq_ok_iff.mp h
  cases asked with
  | nil =>
      simp only at h
      rcases htake : a.takeAddresses with ⟨fault | taken, later⟩
      · rw [htake] at h
        cases h
      · rw [htake] at h
        cases h
        exact .inr ⟨networks_eq_nil hasked, rfl⟩
  | cons n rest =>
      cases h
      refine .inl ⟨fun hnil => ?_, hasked, rfl⟩
      rw [hnil] at hasked
      cases hasked

/-- Taking a port leaves everything about addresses as it is. -/
theorem build_port_keeps {port : UInt16} (h : e.buildPort a = .ok (port, a')) :
    a'.usedNetworks = a.usedNetworks ∧ a'.startV4 = a.startV4 ∧ a'.startV6 = a.startV6 := by
  rcases build_port_ok h with ⟨-, -, rfl⟩ | ⟨-, htake⟩
  · exact ⟨rfl, rfl, rfl⟩
  · obtain ⟨-, -, rfl⟩ := take_port_ok htake
    exact ⟨rfl, rfl, rfl⟩

/-- Taking addresses leaves everything about ports and the start blocks as they are. -/
theorem build_addresses_keeps {addresses : List Network}
    (h : e.buildAddresses a = .ok (addresses, a')) :
    a'.usedPorts = a.usedPorts ∧ a'.nextPort = a.nextPort ∧ a'.startV4 = a.startV4 ∧
      a'.startV6 = a.startV6 := by
  rcases build_addresses_ok h with ⟨-, -, rfl⟩ | ⟨-, htake⟩
  · exact ⟨rfl, rfl, rfl, rfl⟩
  · obtain ⟨blocks, -, -, -, rfl⟩ := take_addresses_ok htake
    exact ⟨rfl, rfl, rfl, rfl⟩

/-! ## The whole interface -/

/-- Where the parts of an interface come from that an allocator and new keys are needed for, or that
an entry may leave out. -/
structure Built (s : AdvancedSettings) (e : Entry) (new : KeyPair) (a : Allocator) (i : Interface)
    (a' : Allocator) : Prop where
  identifier : i.identifier = e.id
  keys : e.buildKeys new = .ok i.keyPair
  /-- The port is taken before the addresses. -/
  taken : ∃ mid, e.buildPort a = .ok (i.listenPort, mid) ∧
    e.buildAddresses mid = .ok (i.addresses, a')
  peerNetwork : e.buildPeerNetwork i.addresses = .ok i.peerDefaults.network
  mtu : i.mtu = if e.mtu = 0 then Interface.usualMtu else e.mtu
  /-- An entry that does not say whether it wants a file means that it does exactly if there is a
  place for files. -/
  saveConfig : i.saveConfig = e.saveConfig.getD (Text.trim s.storagePath ≠ "")
  obfuscation : i.obfuscation =
    Interface.presentBlock (e.obfuscation.map Obfuscation.normalized)

theorem built_of_build (h : e.build s new a = .ok (i, a')) : Built s e new a i a' := by
  unfold build at h
  obtain ⟨mode, -, h⟩ := except_bind_eq_ok_iff.mp h
  obtain ⟨keys, hkeys, h⟩ := except_bind_eq_ok_iff.mp h
  obtain ⟨⟨port, mid⟩, hport, h⟩ := except_bind_eq_ok_iff.mp h
  obtain ⟨⟨addresses, last⟩, haddresses, h⟩ := except_bind_eq_ok_iff.mp h
  obtain ⟨network, hnetwork, h⟩ := except_bind_eq_ok_iff.mp h
  obtain ⟨allowedIps, -, h⟩ := except_bind_eq_ok_iff.mp h
  cases h
  exact {
    identifier := rfl
    keys := hkeys
    taken := ⟨mid, hport, haddresses⟩
    peerNetwork := hnetwork
    mtu := rfl
    saveConfig := rfl
    obfuscation := rfl }

/-- The start blocks stay as they are. -/
theorem starts_of_build (h : e.build s new a = .ok (i, a')) :
    a'.startV4 = a.startV4 ∧ a'.startV6 = a.startV6 := by
  obtain ⟨mid, hport, haddresses⟩ := (built_of_build h).taken
  obtain ⟨-, hv4, hv6⟩ := build_port_keeps hport
  obtain ⟨-, -, hv4', hv6'⟩ := build_addresses_keeps haddresses
  exact ⟨hv4'.trans hv4, hv6'.trans hv6⟩

/-- The port of the interface, and the ports that are in use then. -/
theorem ports_of_build (h : e.build s new a = .ok (i, a')) :
    (e.listenPort ≠ 0 ∧ i.listenPort = e.listenPort ∧
        a'.usedPorts = a.usedPorts ∧ a'.nextPort = a.nextPort) ∨
      (e.listenPort = 0 ∧ i.listenPort ≠ 0 ∧ i.listenPort.toNat ∉ a.usedPorts ∧
        (∀ p, a.nextPort ≤ p → p < i.listenPort.toNat → p = 0 ∨ p ∈ a.usedPorts) ∧
        a'.usedPorts = i.listenPort.toNat :: a.usedPorts ∧
        a'.nextPort = min (i.listenPort.toNat + 1) greatestPort) := by
  obtain ⟨mid, hport, haddresses⟩ := (built_of_build h).taken
  obtain ⟨hports, hnext, -, -⟩ := build_addresses_keeps haddresses
  rw [hports, hnext]
  rcases build_port_ok hport with ⟨hasked, hsame, rfl⟩ | ⟨hopen, htake⟩
  · exact .inl ⟨hasked, hsame, rfl, rfl⟩
  · obtain ⟨⟨hzero, -, hunused, -⟩, hleast, rfl⟩ := take_port_ok htake
    have hne : i.listenPort ≠ 0 := fun hnone => hzero (by rw [hnone]; rfl)
    exact .inr ⟨hopen, hne, hunused, hleast, rfl, rfl⟩

/-- The addresses of the interface, and the networks that are in use then. -/
theorem blocks_of_build (h : e.build s new a = .ok (i, a')) :
    (e.addresses ≠ [] ∧ networks e.addresses = .ok i.addresses ∧
        a'.usedNetworks = a.usedNetworks) ∨
      (e.addresses = [] ∧ ∃ blocks, blocks ≠ [] ∧ i.addresses = blocks.map firstHost ∧
        (∀ block ∈ blocks, ∀ u ∈ a.usedNetworks, ¬ block.Shares u) ∧
        a'.usedNetworks = a.usedNetworks ++ blocks) := by
  obtain ⟨mid, hport, haddresses⟩ := (built_of_build h).taken
  obtain ⟨hnetworks, -, -⟩ := build_port_keeps hport
  rw [← hnetworks]
  rcases build_addresses_ok haddresses with ⟨hasked, hsame, rfl⟩ | ⟨hopen, htake⟩
  · exact .inl ⟨hasked, hsame, rfl⟩
  · obtain ⟨blocks, hne, hblocks, hdisjoint, rfl⟩ := take_addresses_ok htake
    exact .inr ⟨hopen, blocks, hne, hblocks, hdisjoint, rfl⟩

end Entry

end TunnelKeeper
