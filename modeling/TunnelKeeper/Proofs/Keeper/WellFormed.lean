import TunnelKeeper.Proofs.Keeper.Bootstrap
import TunnelKeeper.Proofs.KeyPair

/-!
# Well-formed interfaces

Whatever an entry leaves out and however it spells what it says, an interface that was built from it
is well formed if there was no objection to it (`well_formed_of_build`). So is every interface that
a run saves, and it is read from the store afterwards as it was saved (`bootstrap_well_formed`).
-/

namespace TunnelKeeper

open Text

/-- A block that says something, stays as it is when it is stored and read, and is accepted. -/
structure Obfuscation.Lasting (o : Obfuscation) : Prop where
  present : o.isEmpty = false
  normal : o.normalized = o
  accepted : ∀ field, ∃ warnings, o.validate field = .ok warnings

/-- An interface that has everything it needs, in the form in which it is stored. -/
structure Interface.WellFormed (e : Entry) (i : Interface) : Prop where
  identifier_trimmed : trim i.identifier = i.identifier
  identifier_present : i.identifier ≠ ""
  listenPort : i.listenPort ≠ 0
  mtu : i.mtu ≠ 0
  addresses : i.addresses ≠ []
  peerNetwork : i.peerDefaults.network ≠ []
  /-- New peers are in the networks of the addresses unless the entry names other ones. -/
  peerNetwork_inherited : e.peerNetwork = [] →
    i.peerDefaults.network = i.addresses.map Network.normalize
  keys : i.keyPair.Sound
  obfuscation : ∀ o, i.obfuscation = some o → o.Lasting

/-- A well-formed interface is read as it is written. -/
theorem Interface.WellFormed.settled_eq {e : Entry} {i : Interface} (h : i.WellFormed e) :
    i.settled = i :=
  settled_eq_self_iff.mpr fun o ho => ⟨(h.obfuscation o ho).present, (h.obfuscation o ho).normal⟩

namespace Entry

variable {s : AdvancedSettings} {e : Entry} {new : KeyPair} {a a' : Allocator} {i : Interface}

/-! ## One interface -/

/-- The networks of an entry that lists some are not left out. -/
theorem networks_ne_nil {raw : List String} {l : List Network} (hraw : raw ≠ [])
    (h : networks raw = .ok l) : l ≠ [] := by
  rintro rfl
  exact hraw (networks_eq_nil h)

theorem keys_of_build {keys : KeyPair} (hnew : new.Sound) (h : e.buildKeys new = .ok keys) :
    keys.Sound := by
  unfold buildKeys at h
  by_cases hblank : trim e.privateKey = ""
  · rw [if_pos hblank] at h
    cases h
    exact hnew
  · rw [if_neg hblank] at h
    cases hgiven : KeyPair.ofPrivateKey? e.privateKey with
    | none =>
        rw [hgiven] at h
        cases h
    | some given =>
        rw [hgiven] at h
        cases h
        exact KeyPair.sound_of_private_key hgiven

/-- The networks of new peers are those that are asked for, or those of the addresses. -/
theorem peer_network_of_build {addresses network : List Network}
    (h : e.buildPeerNetwork addresses = .ok network) :
    (e.peerNetwork ≠ [] ∧ networks e.peerNetwork = .ok network) ∨
      (e.peerNetwork = [] ∧ network = addresses.map Network.normalize) := by
  unfold buildPeerNetwork at h
  obtain ⟨given, hgiven, h⟩ := except_bind_eq_ok_iff.mp h
  cases given with
  | nil =>
      cases h
      exact .inr ⟨networks_eq_nil hgiven, rfl⟩
  | cons n rest =>
      cases h
      refine .inl ⟨fun hnil => ?_, hgiven⟩
      rw [hnil] at hgiven
      cases hgiven

theorem addresses_of_build (h : e.build s new a = .ok (i, a')) : i.addresses ≠ [] := by
  rcases blocks_of_build h with ⟨hasked, hread, -⟩ | ⟨-, blocks, hne, hblocks, -, -⟩
  · exact networks_ne_nil hasked hread
  · rw [hblocks]
    exact fun hnil => hne (List.map_eq_nil_iff.mp hnil)

/-- The block of an interface lasts if the one of the entry was accepted. -/
theorem lasting_of_built (h : Built s e new a i a')
    (haccepted : ∀ o, e.obfuscation = some o → o.Accepted) :
    ∀ o, i.obfuscation = some o → o.Lasting := by
  intro o ho
  rw [h.obfuscation] at ho
  obtain ⟨hnormal, hpresent⟩ := Obfuscation.present_block_eq_some_iff.mp ho
  obtain ⟨given, hgiven, rfl⟩ := Option.map_eq_some_iff.mp hnormal
  exact {
    present := hpresent
    normal := given.normalized_idem
    accepted := fun field => ⟨_, (haccepted given hgiven).normalized.validate_eq field⟩ }

/-- An interface is well formed if there was no objection to its entry. -/
theorem well_formed_of_build (hnew : new.Sound) {place : Nat} {seen : List String}
    (hobjection : e.objection? place seen = none) (h : e.build s new a = .ok (i, a')) :
    i.WellFormed e := by
  have hbuilt := built_of_build h
  have haddresses := addresses_of_build h
  have hnetwork := peer_network_of_build hbuilt.peerNetwork
  exact {
    identifier_trimmed := by
      rw [hbuilt.identifier]
      exact trim_idem e.identifier
    identifier_present := hbuilt.identifier ▸ (identifier_of_objection hobjection).1
    listenPort := by
      rcases ports_of_build h with ⟨hasked, hsame, -⟩ | ⟨-, hne, -⟩
      · rwa [hsame]
      · exact hne
    mtu := by
      rw [hbuilt.mtu]
      split
      · decide
      · next hgiven => exact hgiven
    addresses := haddresses
    peerNetwork := by
      rcases hnetwork with ⟨hgiven, hread⟩ | ⟨-, hinherited⟩
      · exact networks_ne_nil hgiven hread
      · rw [hinherited]
        exact fun hnil => haddresses (List.map_eq_nil_iff.mp hnil)
    peerNetwork_inherited := by
      intro hnone
      rcases hnetwork with ⟨hgiven, -⟩ | ⟨-, hinherited⟩
      · exact absurd hnone hgiven
      · exact hinherited
    keys := keys_of_build hnew hbuilt.keys
    obfuscation := lasting_of_built hbuilt fun _ => accepted_of_objection hobjection }

end Entry

namespace Keeper

variable {σ : Type}

/-! ## Runs -/

/-- A keeper that makes new keys from random bytes. -/
def seeded (s : Services σ) (seeds : Nat → List UInt8) : Services σ :=
  { s with newKeys := fun place => KeyPair.ofSeed (seeds place) }

/-- Every interface that a run saves is well formed, whatever the entries say and leave out, under
whatever settings and whatever goes wrong. No two of them have one identifier, and each of them is
read from the store afterwards as it was saved. -/
theorem bootstrap_well_formed (r : Request) (entries : List Entry) (s : Services σ)
    (seeds : Nat → List UInt8) (w : World σ) :
    ∃ (saved : List Interface) (final : World σ),
      (bootstrap r entries (seeded s seeds) w).2 = final ∧
      Ran r entries (seeded s seeds) w saved (bootstrap r entries (seeded s seeds) w).1 final ∧
      (saved.map Interface.identifier).Nodup ∧
      ∀ (k : Nat) (i : Interface), saved[k]? = some i →
        ∃ e, entries[k]? = some e ∧ i.WellFormed e ∧
          final.store.interface false i.identifier = .ok i := by
  obtain ⟨saved, hran⟩ := exists_ran r entries (seeded s seeds) w
  refine ⟨saved, _, rfl, hran, ?_⟩
  by_cases hnone : saved = []
  · subst hnone
    exact ⟨List.nodup_nil, fun k i hi => by cases hi⟩
  -- There was no objection to any entry, since the run came to save an interface.
  obtain ⟨warnings, hcheck⟩ : ∃ warnings, Entry.check entries = .ok warnings := by
    cases hcheck : Entry.check entries with
    | error objection => exact absurd (hran.invalid objection hcheck) hnone
    | ok warnings => exact ⟨warnings, rfl⟩
  obtain ⟨a, -, hbuilt⟩ := hran.built.resolve_left hnone
  have hnodup := Entry.ids_nodup_of_build_all hcheck hbuilt
  have hwell : ∀ (k : Nat) (i : Interface), saved[k]? = some i →
      ∃ e, entries[k]? = some e ∧ i.WellFormed e := by
    intro k i hi
    obtain ⟨e, before, after, he, hbuild⟩ := Entry.build_of_build_all hbuilt hi
    rw [List.getElem?_take] at he
    split at he
    · obtain ⟨place, seen, hobjection⟩ :=
        Entry.objection_of_check hcheck e (List.mem_of_getElem? he)
      exact ⟨e, he, Entry.well_formed_of_build (KeyPair.sound_of_seed _) hobjection hbuild⟩
    · cases he
  -- The store held no interfaces before the run, so what was saved is what is found.
  obtain ⟨start, finish, hstart, hchain, hfinish⟩ := hran.provisioned
  have hempty : start.store.interfaces = [] := hstart.store ▸ hran.fresh hnone
  have hstored := (hchain.interface_eq (hempty ▸ sorted_rows_nil) hnodup).1
  refine ⟨hnodup, fun k i hi => ?_⟩
  obtain ⟨e, he, hwell⟩ := hwell k i hi
  refine ⟨e, he, hwell, ?_⟩
  rw [hfinish.store, hstored i (List.mem_of_getElem? hi), hwell.settled_eq]

end Keeper

end TunnelKeeper
