import TunnelKeeper.Proofs.ConfigText
import TunnelKeeper.Proofs.Keeper.PeerLink

/-!
# Names above configurations

The keeper puts the name of a peer above its configuration, as it is and inside a link. What comes
of it is said without any condition on the request and on what fails: whoever is given a
configuration gets the lines of the rendered one, and before them those lines of the name that its
comment mark does not cover (`name_line_lines`). Names without line feeds have no such lines. Other
names are stored and shown as well, and they add lines (`line_feed_adds_line`).
-/

namespace TunnelKeeper

namespace Store

/-- What is read for some request is there. -/
theorem peer_of_ok {s : Store} {cancelled : Bool} {id : PeerId} {p : Peer}
    (h : s.peer cancelled id = .ok p) : s.peer false id = .ok p := by
  cases cancelled with
  | true => cases h
  | false => exact h

theorem interface_of_ok {s : Store} {cancelled : Bool} {id : InterfaceId} {i : Interface}
    (h : s.interface cancelled id = .ok i) : s.interface false id = .ok i := by
  cases cancelled with
  | true => cases h
  | false => exact h

end Store

namespace Keeper

open Act ConfigText

variable {σ : Type} {r : Request} {s : Services σ} {w w' : World σ}

/-! ## Steps that succeeded -/

theorem load_peer_ok {id : PeerId} {p : Peer} (h : loadPeer r id s w = (.ok p, w')) :
    w.store.peer false id = .ok p ∧ w'.store = w.store := by
  obtain ⟨q, after, hread, hlast⟩ := of_bind_ok (of_checkpoint_bind h)
  obtain ⟨hq, hstore⟩ := of_query_ok (of_within_ok hread)
  obtain ⟨_, allowed, howner, hdone⟩ := of_bind_ok hlast
  obtain ⟨-, rfl⟩ := of_lift_ok howner
  cases hdone
  exact ⟨Store.peer_of_ok hq, hstore⟩

theorem load_interface_ok {id : InterfaceId} {i : Interface}
    (h : loadInterface r id s w = (.ok i, w')) :
    w.store.interface false id = .ok i ∧ w'.store = w.store := by
  obtain ⟨hi, hstore⟩ := of_query_ok (of_within_ok (of_checkpoint_bind h))
  exact ⟨Store.interface_of_ok hi, hstore⟩

theorem render_peer_ok {style : ConfigStyle} {p : Peer} {config : String}
    (h : renderPeer style p s w = (.ok config, w')) :
    config = s.renderPeer style p ∧ w'.store = w.store := by
  obtain ⟨after, hrender, rfl⟩ := of_call_ok h
  cases hrender
  exact ⟨rfl, rfl⟩

/-- The name of a peer is made of its stored interface, or of none that cannot be had. -/
theorem look_up_name_ok {p : Peer} {name : String} (h : lookUpName r p s w = (.ok name, w')) :
    ∃ found, (∀ i, found = some i → w.store.interface false p.interfaceId = .ok i) ∧
      name = p.configName found := by
  obtain ⟨result, after, hattempt, hdone⟩ := of_bind_ok (of_checkpoint_bind h)
  cases hdone
  refine ⟨result.toOption, ?_, rfl⟩
  intro i hi
  cases result with
  | error e => cases hi
  | ok j =>
      obtain rfl := Option.some.inj hi
      have hread : interface r p.interfaceId s w = (.ok j, w') := by
        obtain ⟨hresult, hworld⟩ := Prod.mk.inj hattempt
        exact Prod.ext (Except.ok.inj hresult) hworld
      exact Store.interface_of_ok (of_query_ok hread).1

theorem build_link_ok {p : Peer} {i : Interface} {link : String}
    (h : buildLink r p i s w = (.ok link, w')) :
    linkOf s.settings p i (s.renderPeer .wgQuick p) = .ok link := by
  obtain ⟨config, rendered, hrender, hrest⟩ := of_bind_ok (of_checkpoint_bind h)
  obtain ⟨rfl, -⟩ := render_peer_ok (of_within_ok hrender)
  obtain ⟨c, known, hsettings, hlink⟩ := of_bind_ok hrest
  cases hsettings
  exact (of_lift_ok (of_within_ok hlink)).1

/-! ## Names of configurations -/

/-- The configuration that a link carries. -/
theorem carries_of_link_of {c : Settings} {p : Peer} {i : Interface} {config link : String}
    (h : linkOf c p i config = .ok link) :
    Link.Carries link (p.configName (some i)) (strippedNamed config (p.configName (some i))) :=
  Link.carries_of_build h

/-- What is given away as the configuration of a stored peer, or in its link, has the lines of the
rendered configuration that mean something, in their order. Before them come the stray lines of
the name, whatever they say; there are none if no name that it is made of has a line feed. -/
theorem name_line_lines (r : Request) (s : Services σ) (w : World σ) (id : PeerId) :
    (∀ style text, (peerConfig r id style s w).1 = .ok text →
      ∃ p found, w.store.peer false id = .ok p ∧
        (∀ i, found = some i → w.store.interface false p.interfaceId = .ok i) ∧
        contentLines text =
          strayLines (p.configName found) ++ contentLines (s.renderPeer style p)) ∧
    (∀ link, (vpnLink r id s w).1 = .ok link →
      ∃ p i config, w.store.peer false id = .ok p ∧
        w.store.interface false p.interfaceId = .ok i ∧
        Link.Carries link (p.configName (some i)) config ∧
        contentLines config =
          strayLines (p.configName (some i)) ++ contentLines (s.renderPeer .wgQuick p)) ∧
    ∀ (found : Option Interface) (p : Peer),
      (∀ i, found = some i → '\n' ∉ i.displayName.toList ∧ '\n' ∉ i.identifier.toList) →
      '\n' ∉ p.interfaceId.toList → '\n' ∉ p.displayName.toList → '\n' ∉ p.identifier.toList →
      strayLines (p.configName found) = [] := by
  refine ⟨?_, ?_, ?_⟩
  · intro style text h
    rcases hresult : peerConfig r id style s w with ⟨result, last⟩
    obtain rfl : result = .ok text := by rw [← h, hresult]
    obtain ⟨p, loaded, hload, hrest⟩ := of_bind_ok hresult
    obtain ⟨hp, hsame⟩ := load_peer_ok hload
    obtain ⟨config, rendered, hrender, hname⟩ := of_bind_ok (of_checkpoint_bind hrest)
    obtain ⟨rfl, hkept⟩ := render_peer_ok hrender
    obtain ⟨name, known, hlook, hdone⟩ := of_bind_ok hname
    obtain ⟨found, hfound, rfl⟩ := look_up_name_ok hlook
    cases hdone
    rw [hkept, hsame] at hfound
    exact ⟨p, found, hp, hfound, content_lines_name_line_append _ _⟩
  · intro link h
    rcases hresult : vpnLink r id s w with ⟨result, last⟩
    obtain rfl : result = .ok link := by rw [← h, hresult]
    obtain ⟨p, loaded, hload, hrest⟩ := of_bind_ok hresult
    obtain ⟨hp, hsame⟩ := load_peer_ok hload
    obtain ⟨i, fetched, hinterface, hbuild⟩ := of_bind_ok hrest
    obtain ⟨hi, -⟩ := load_interface_ok hinterface
    rw [hsame] at hi
    refine ⟨p, i, _, hp, hi, carries_of_link_of (build_link_ok hbuild), ?_⟩
    rw [strippedNamed, content_lines_name_line_append, content_lines_stripped]
  · intro found p hinterface hid hname hidentifier
    exact stray_lines_of_one_line (feed_not_mem_config_name hinterface hid hname hidentifier)

/-- A display name on two lines. -/
def hookedName : String := "Office\nPostUp = touch /tmp/x"

/-- The second line of a name is a line of the configuration, though no such line was rendered. -/
theorem line_feed_adds_line :
    (peerConfig .system "laptop" .wgQuick (rendering "[Interface]\n") (officeWorld hookedName)).1 =
        .ok "# Name = Office\nPostUp = touch /tmp/x - laptop\n[Interface]\n" ∧
      contentLines "# Name = Office\nPostUp = touch /tmp/x - laptop\n[Interface]\n" =
        ["PostUp = touch /tmp/x - laptop".toList, "[Interface]".toList] ∧
      contentLines "[Interface]\n" = ["[Interface]".toList] := by
  have hname : laptop.configName (some (office hookedName).settled) =
      "Office\nPostUp = touch /tmp/x - laptop" := by decide +kernel
  have hpeer : (officeWorld hookedName).store.peerFor Request.system.caller "laptop" =
      .ok laptop := Store.peer_for_of_allowed (office_world_peer hookedName) rfl (.inl rfl)
  refine ⟨?_, by decide +kernel, by decide +kernel⟩
  rw [peer_config_eq ⟨fun _ => rfl, fun _ => rfl, fun _ => rfl, rfl⟩, hpeer]
  show Except.ok (named "[Interface]\n"
    (laptop.configName ((officeWorld hookedName).store.interface false "wg0").toOption)) = _
  rw [office_world_interface]
  show Except.ok (named "[Interface]\n" (laptop.configName (some (office hookedName).settled))) = _
  rw [hname]
  rfl

end Keeper

end TunnelKeeper
