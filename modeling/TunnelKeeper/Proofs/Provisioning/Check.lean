import TunnelKeeper.Proofs.Obfuscation.NormalForm
import TunnelKeeper.Proofs.Provisioning.Build
import TunnelKeeper.Provisioning.Check

/-!
# What an accepted entry can be built from

There is no objection to an entry exactly if its identifier is new and present, its block is
accepted, and everything that is read from the entry itself when its interface is built can be read
(`objection_eq_none_iff`); a list is accepted exactly if that holds of all its entries and no
identifier comes twice (`check_from_eq_ok_iff`). What is left to fail when an accepted entry is
built is the allocator alone (`build_error`).
-/

namespace TunnelKeeper

namespace Entry

open Allocator

/-- Whatever is read from an entry can be read. -/
structure Readable (e : Entry) : Prop where
  mode : ∃ mode, e.buildMode = .ok mode
  keys : ∀ new, ∃ keys, e.buildKeys new = .ok keys
  addresses : ∃ l, networks e.addresses = .ok l
  peerNetwork : ∃ l, networks e.peerNetwork = .ok l
  peerAllowedIps : ∃ l, networks e.peerAllowedIps = .ok l

/-- What the check asks of an entry by itself. -/
structure Acceptable (e : Entry) : Prop where
  identifier : e.id ≠ ""
  readable : Readable e
  obfuscation : ∀ o, e.obfuscation = some o → o.Accepted

/-! ## One entry -/

section

variable {e : Entry}

/-- There is an objection to a list of networks exactly if one of them cannot be read. -/
theorem block_objection_eq_none_iff {field : String} {place : Nat} {raw : List String} :
    blockObjection? field place raw = none ↔ ∃ l, networks raw = .ok l := by
  induction raw generalizing place with
  | nil => exact ⟨fun _ => ⟨[], rfl⟩, fun _ => rfl⟩
  | cons text rest ih =>
      unfold blockObjection? networks
      rw [List.mapM_cons]
      cases Network.parseEntry text with
      | error fault =>
          constructor
          · intro h
            cases h
          · rintro ⟨l, hl⟩
            cases hl
      | ok n =>
          simp only [ih]
          constructor
          · rintro ⟨later, hlater⟩
            refine ⟨n :: later, except_bind_eq_ok_iff.mpr ⟨n, rfl, ?_⟩⟩
            exact except_bind_eq_ok_iff.mpr ⟨later, hlater, rfl⟩
          · rintro ⟨l, hl⟩
            obtain ⟨_, -, hl⟩ := except_bind_eq_ok_iff.mp hl
            obtain ⟨later, hlater, -⟩ := except_bind_eq_ok_iff.mp hl
            exact ⟨later, hlater⟩

theorem mode_objection_eq_none_iff :
    e.modeObjection? = none ↔ ∃ mode, e.buildMode = .ok mode := by
  unfold modeObjection? buildMode
  cases Mode.parse? e.mode with
  | none => simp
  | some mode => simp

theorem key_objection_eq_none_iff :
    e.keyObjection? = none ↔ ∀ new, ∃ keys, e.buildKeys new = .ok keys := by
  unfold keyObjection? buildKeys KeyPair.ofPrivateKey?
  by_cases hblank : Text.trim e.privateKey = ""
  · simp [hblank]
  · -- The check asks for the public key only, and the pair is there exactly if that is.
    simp only [if_neg hblank]
    cases KeyPair.publicKey? e.privateKey with
    | none =>
        have hfails : ¬ ∀ _ : KeyPair, False := fun h => h ⟨"", ""⟩
        simpa [hblank] using hfails
    | some publicKey => simp

/-- There is an objection to the identifier exactly if it is blank or was seen before. -/
theorem identifier_objection_eq_none_iff {place : Nat} {seen : List String} :
    e.identifierObjection? place seen = none ↔ e.id ≠ "" ∧ e.id ∉ seen := by
  unfold identifierObjection?
  by_cases hblank : e.id = ""
  · simp [hblank]
  · rw [if_neg hblank]
    by_cases hseen : e.id ∈ seen
    · simp [hseen]
    · simp [hblank, hseen]

theorem obfuscation_objection_eq_none_iff :
    e.obfuscationObjection? = none ↔ ∀ o, e.obfuscation = some o → o.Accepted := by
  unfold obfuscationObjection?
  rw [Option.bind_eq_none_iff]
  exact forall₂_congr fun o _ => Obfuscation.objection_eq_none_iff

/-- There is no objection to an entry exactly if it is acceptable and its identifier is new. -/
theorem objection_eq_none_iff {place : Nat} {seen : List String} :
    e.objection? place seen = none ↔ e.id ∉ seen ∧ Acceptable e := by
  unfold objection? networksObjection?
  simp only [Option.or_eq_none_iff, identifier_objection_eq_none_iff, mode_objection_eq_none_iff,
    key_objection_eq_none_iff, block_objection_eq_none_iff, obfuscation_objection_eq_none_iff]
  constructor
  · rintro ⟨⟨hpresent, hnew⟩, hmode, hkeys, ⟨haddresses, hallowed, hnetwork⟩, hblock⟩
    exact ⟨hnew, hpresent, ⟨hmode, hkeys, haddresses, hnetwork, hallowed⟩, hblock⟩
  · rintro ⟨hnew, hpresent, hreadable, hblock⟩
    exact ⟨⟨hpresent, hnew⟩, hreadable.mode, hreadable.keys,
      ⟨hreadable.addresses, hreadable.peerAllowedIps, hreadable.peerNetwork⟩, hblock⟩

/-- The identifier of an entry without an objection is there, and no entry before it has it. -/
theorem identifier_of_objection {place : Nat} {seen : List String}
    (h : e.objection? place seen = none) : e.id ≠ "" ∧ e.id ∉ seen := by
  obtain ⟨hnew, hacceptable⟩ := objection_eq_none_iff.mp h
  exact ⟨hacceptable.identifier, hnew⟩

/-- The block of an entry without an objection is accepted. -/
theorem accepted_of_objection {place : Nat} {seen : List String}
    (h : e.objection? place seen = none) {o : Obfuscation} (hblock : e.obfuscation = some o) :
    o.Accepted :=
  (objection_eq_none_iff.mp h).2.obfuscation o hblock

end

/-! ## Lists of entries -/

/-- Entries are accepted exactly if there is no objection to the first one and the others are
accepted behind it. -/
theorem check_from_cons_eq_ok_iff {place : Nat} {seen : List String} {e : Entry}
    {rest : List Entry} {warnings : List Warning} :
    checkFrom place seen (e :: rest) = .ok warnings ↔
      e.objection? place seen = none ∧ ∃ later,
        checkFrom (place + 1) (e.id :: seen) rest = .ok later ∧
          warnings = e.warnings ++ later := by
  rw [checkFrom]
  cases e.objection? place seen with
  | some objection => simp
  | none =>
      cases checkFrom (place + 1) (e.id :: seen) rest with
      | error objection => simp
      | ok later => simp [eq_comm]

/-- Entries are accepted exactly if each of them is acceptable and no identifier comes twice; what
looks like a mistake in them is listed in their order. -/
theorem check_from_eq_ok_iff {place : Nat} {seen : List String} {entries : List Entry}
    {warnings : List Warning} :
    checkFrom place seen entries = .ok warnings ↔
      (∀ e ∈ entries, e.id ∉ seen ∧ Acceptable e) ∧ (entries.map id).Nodup ∧
        warnings = entries.flatMap Entry.warnings := by
  induction entries generalizing place seen warnings with
  | nil => simp [checkFrom, eq_comm]
  | cons e rest ih =>
      rw [check_from_cons_eq_ok_iff, objection_eq_none_iff, List.forall_mem_cons, List.map_cons,
        List.nodup_cons, List.flatMap_cons]
      constructor
      · rintro ⟨hfirst, later, hlater, rfl⟩
        obtain ⟨hothers, hnodup, rfl⟩ := ih.mp hlater
        -- The later entries are checked against the identifier of the first one as well.
        refine ⟨⟨hfirst, fun e' he' => ?_⟩, ⟨fun hmem => ?_, hnodup⟩, rfl⟩
        · obtain ⟨hnew, hacceptable⟩ := hothers e' he'
          exact ⟨fun hseen => hnew (List.mem_cons_of_mem _ hseen), hacceptable⟩
        · obtain ⟨e', he', hsame⟩ := List.mem_map.mp hmem
          exact (hothers e' he').1 (hsame ▸ List.mem_cons_self)
      · rintro ⟨⟨hfirst, hothers⟩, ⟨hunique, hnodup⟩, rfl⟩
        refine ⟨hfirst, _, ih.mpr ⟨fun e' he' => ⟨fun hseen => ?_, (hothers e' he').2⟩, hnodup,
          rfl⟩, rfl⟩
        rcases List.mem_cons.mp hseen with hsame | hseen
        · exact hunique (hsame ▸ List.mem_map_of_mem he')
        · exact (hothers e' he').1 hseen

section

variable {entries : List Entry} {warnings : List Warning} (h : check entries = .ok warnings)
include h

/-- There is no objection to any entry of an accepted list. -/
theorem objection_of_check : ∀ e ∈ entries, ∃ place seen, e.objection? place seen = none := by
  intro e he
  have hacceptable := ((check_from_eq_ok_iff.mp h).1 e he).2
  exact ⟨0, [], objection_eq_none_iff.mpr ⟨List.not_mem_nil, hacceptable⟩⟩

/-- All entries of an accepted list can be read. -/
theorem readable_of_check : ∀ e ∈ entries, Readable e :=
  fun e he => ((check_from_eq_ok_iff.mp h).1 e he).2.readable

/-- No two entries of an accepted list have one identifier. -/
theorem ids_nodup_of_check : (entries.map id).Nodup := (check_from_eq_ok_iff.mp h).2.1

end

/-! ## What is left to fail -/

/-- All ports from the next one on are in use. -/
def NoPortFree (a : Allocator) : Prop :=
  ∀ port, a.nextPort ≤ port → port ≤ greatestPort → port = 0 ∨ port ∈ a.usedPorts

/-- All blocks from a start block on share an address with a network in use. -/
def NoBlockFree (a : Allocator) (start : Network) : Prop :=
  ∀ k block, blockAt start k = some block → ∃ u ∈ a.usedNetworks, block.Shares u

section

variable {s : AdvancedSettings} {e : Entry} {new : KeyPair} {a a' : Allocator} {fault : Error}

theorem build_port_error (h : e.buildPort a = .error fault) :
    fault = .settings .noPortLeft ∧ NoPortFree a := by
  unfold buildPort at h
  by_cases hasked : e.listenPort ≠ 0
  · rw [if_pos hasked] at h
    cases h
  · rw [if_neg hasked] at h
    rcases htake : a.takePort with ⟨portFault | port, later⟩
    · rw [htake] at h
      cases h
      obtain ⟨rfl, -, hall⟩ := take_port_error htake
      exact ⟨rfl, hall⟩
    · rw [htake] at h
      cases h

theorem build_addresses_error (hreadable : Readable e)
    (hfamilies : ∀ start, a.startV6 = some start → start.family ≠ a.startV4.family)
    (h : e.buildAddresses a = .error fault) :
    ∃ start, (start = a.startV4 ∨ a.startV6 = some start) ∧
      fault = .settings (.noNetworkLeft start) ∧ NoBlockFree a start := by
  unfold buildAddresses at h
  obtain ⟨asked, h⟩ := except_bind_error hreadable.addresses h
  cases asked with
  | cons n rest => cases h
  | nil =>
      simp only at h
      rcases htake : a.takeAddresses with ⟨blockFault | addresses, later⟩
      · rw [htake] at h
        cases h
        obtain ⟨start, hstart, rfl, hall⟩ := take_addresses_error hfamilies htake
        exact ⟨start, hstart, rfl, hall⟩
      · rw [htake] at h
        cases h

theorem peer_network_of_readable (hreadable : Readable e) {addresses : List Network} :
    ∃ l, e.buildPeerNetwork addresses = .ok l := by
  obtain ⟨asked, hasked⟩ := hreadable.peerNetwork
  unfold buildPeerNetwork
  rw [hasked]
  cases asked with
  | nil => exact ⟨_, rfl⟩
  | cons n rest => exact ⟨_, rfl⟩

/-- An interface of an entry that can be read is built unless a port or a block is wanted and none
is free. -/
theorem build_error (hreadable : Readable e)
    (hfamilies : ∀ start, a.startV6 = some start → start.family ≠ a.startV4.family)
    (h : e.build s new a = .error fault) :
    (fault = .settings .noPortLeft ∧ NoPortFree a) ∨
      ∃ start, (start = a.startV4 ∨ a.startV6 = some start) ∧
        fault = .settings (.noNetworkLeft start) ∧ NoBlockFree a start := by
  unfold build at h
  obtain ⟨mode, h⟩ := except_bind_error hreadable.mode h
  obtain ⟨keys, h⟩ := except_bind_error (hreadable.keys new) h
  rcases except_bind_eq_error h with hport | ⟨⟨port, mid⟩, hport, h⟩
  · exact .inl (build_port_error hport)
  · -- Taking the port has changed nothing that the addresses depend on.
    obtain ⟨hnetworks, hv4, hv6⟩ := build_port_keeps hport
    rcases except_bind_eq_error h with haddresses | ⟨⟨addresses, later⟩, haddresses, h⟩
    · rw [← hv4, ← hv6] at hfamilies ⊢
      unfold NoBlockFree
      rw [← hnetworks]
      exact .inr (build_addresses_error hreadable hfamilies haddresses)
    · obtain ⟨network, h⟩ := except_bind_error (peer_network_of_readable hreadable) h
      obtain ⟨allowedIps, h⟩ := except_bind_error hreadable.peerAllowedIps h
      cases h

end

end Entry

end TunnelKeeper
