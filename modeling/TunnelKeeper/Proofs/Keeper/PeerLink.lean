import TunnelKeeper.Keeper.Configuration
import TunnelKeeper.Proofs.Keeper.Act
import TunnelKeeper.Proofs.Link.RoundTrip
import TunnelKeeper.Proofs.Store.Refinement

/-!
# Import links of stored peers

What the keeper answers when nothing around it fails is a function of the store, the renderer and
the caller (`peer_config_eq`, `vpn_link_eq`, `qr_payload_eq`). Of a peer that is stored, the
interface is stored as well, so a caller who may have the peer gets its link exactly if that
interface is obfuscated, and the code of the peer says the same link then, in whatever style it is
asked for (`peer_link_of_stored`).
-/

namespace TunnelKeeper

/-! ## Peers and their interfaces -/

namespace Store

/-- The peer of an identifier, for a caller who may have it. -/
def peerFor (s : Store) (c : Caller) (id : PeerId) : Except Error Peer := do
  let p ← Error.within ("failed to fetch peer " ++ id) (s.peer false id)
  c.requireOwner p.owner
  .ok p

/-- Administrators and owners may have a peer. -/
theorem peer_for_of_allowed {s : Store} {c : Caller} {user : User} {id : PeerId} {p : Peer}
    (hp : s.peer false id = .ok p) (huser : c.user = some user)
    (hallowed : user.isAdministrator = true ∨ user.identifier = p.owner) :
    s.peerFor c id = .ok p := by
  have howner : c.requireOwner p.owner = .ok () := by
    simp only [Caller.requireOwner, huser, if_pos hallowed]
  rw [peerFor, hp]
  show (c.requireOwner p.owner >>= fun _ => Except.ok p) = _
  rw [howner]
  rfl

/-- The interface of a peer that is read can be read, under the identifier that the peer has for
it. -/
theorem interface_of_peer {s : Store} (h : s.Consistent) {id : PeerId} {p : Peer}
    (hp : s.peer false id = .ok p) :
    ∃ i, s.interface false p.interfaceId = .ok i ∧ i.identifier = p.interfaceId := by
  rw [peer_eq h] at hp
  cases hvalue : (contents s).peers id with
  | none =>
      rw [hvalue] at hp
      cases hp
  | some q =>
      rw [hvalue] at hp
      cases hp
      obtain ⟨hrow, -⟩ := (peers_eq_some_iff h).mp hvalue
      obtain ⟨row, hmem, hkey⟩ := h.linked _ hrow
      obtain ⟨i, rfl⟩ := h.interface_rows row hmem
      have hinterface : (contents s).interfaces p.interfaceId = some i.settled :=
        (interfaces_eq_some_iff h).mpr ⟨i, hmem, hkey, rfl⟩
      exact ⟨i.settled, by rw [interface_eq h, hinterface], hkey⟩

end Store

namespace Keeper

open Act Text

variable {σ : Type} {r : Request} {s : Services σ} {w : World σ}

/-- The link of a peer with its configuration as it was rendered. -/
def linkOf (c : Settings) (p : Peer) (i : Interface) (config : String) : Except Error String :=
  Link.build (some p) i (p.configName (some i))
    (ConfigText.strippedNamed config (p.configName (some i))) c.link.compressionLevel.toNat

/-- Nothing on the way to the configuration of a peer fails on its own account, and the token of
the request is not cancelled before the last call. -/
structure Undisturbed (r : Request) (s : Services σ) (w : World σ) : Prop where
  peer : ∀ made, s.fault? made .peer = none
  interface : ∀ made, s.fault? made .interface = none
  renderer : ∀ made, s.fault? made .renderPeer = none
  token : r.token.isCancelled (.interface :: .peer :: w.calls) = false

namespace Undisturbed

variable (h : Undisturbed r s w)
include h

theorem at_start : isCancelled r w = false := is_cancelled_of_cons (is_cancelled_of_cons h.token)

theorem after_peer : isCancelled r { w with calls := .peer :: w.calls } = false :=
  is_cancelled_of_cons h.token

theorem after_interface :
    isCancelled r { w with calls := .interface :: .peer :: w.calls } = false := h.token

/-- Which call was the last one makes no difference to the token. -/
theorem after_renderer :
    isCancelled r { w with calls := .renderPeer :: .peer :: w.calls } = false := h.token

end Undisturbed

/-! ## Steps -/

theorem load_peer_eq (hfault : ∀ made, s.fault? made .peer = none)
    (htoken : isCancelled r w = false) (id : PeerId) :
    loadPeer r id s w = (w.store.peerFor r.caller id, { w with calls := .peer :: w.calls }) := by
  have hread : peer r id s w =
      (w.store.peer false id, { w with calls := .peer :: w.calls }) := by
    rw [peer, query_of_no_fault hfault, htoken]
  rw [loadPeer, bind_ok (checkpoint_ok htoken), Store.peerFor]
  cases hpeer : w.store.peer false id with
  | error e =>
      rw [hpeer] at hread
      rw [bind_error (within_error hread)]
      rfl
  | ok p =>
      rw [hpeer] at hread
      rw [bind_ok (within_ok hread)]
      show _ = (r.caller.requireOwner p.owner >>= fun _ => Except.ok p, _)
      cases howner : r.caller.requireOwner p.owner with
      | error e =>
          rw [bind_lift_error rfl]
          rfl
      | ok _ =>
          rw [bind_lift_ok rfl]
          rfl

theorem load_interface_eq (hfault : ∀ made, s.fault? made .interface = none)
    (htoken : isCancelled r w = false) (id : InterfaceId) :
    loadInterface r id s w =
      (Error.within ("failed to fetch interface " ++ id) (w.store.interface false id),
        { w with calls := .interface :: w.calls }) := by
  have hread : interface r id s w =
      (w.store.interface false id, { w with calls := .interface :: w.calls }) := by
    rw [interface, query_of_no_fault hfault, htoken]
  rw [loadInterface, bind_ok (checkpoint_ok htoken), within_eq hread]

theorem look_up_name_eq (hfault : ∀ made, s.fault? made .interface = none)
    (htoken : isCancelled r w = false) (p : Peer) :
    lookUpName r p s w =
      (.ok (p.configName (w.store.interface false p.interfaceId).toOption),
        { w with calls := .interface :: w.calls }) := by
  have hread : attempt (interface r p.interfaceId) s w =
      (.ok (w.store.interface false p.interfaceId), { w with calls := .interface :: w.calls }) := by
    rw [attempt, interface, query_of_no_fault hfault, htoken]
  rw [lookUpName, bind_ok (checkpoint_ok htoken), bind_ok hread]
  rfl

theorem render_peer_eq (hfault : ∀ made, s.fault? made .renderPeer = none) (style : ConfigStyle)
    (p : Peer) :
    renderPeer style p s w =
      (.ok (s.renderPeer style p), { w with calls := .renderPeer :: w.calls }) :=
  call_of_no_fault hfault

theorem build_link_eq (hfault : ∀ made, s.fault? made .renderPeer = none)
    (htoken : isCancelled r w = false) (p : Peer) (i : Interface) :
    buildLink r p i s w =
      (Error.within ("failed to build amnezia vpn link for " ++ p.identifier)
          (linkOf s.settings p i (s.renderPeer .wgQuick p)),
        { w with calls := .renderPeer :: w.calls }) := by
  rw [buildLink, bind_ok (checkpoint_ok htoken), bind_ok (within_ok (render_peer_eq hfault _ p))]
  rfl

/-! ## Answers -/

/-- The configuration that a caller is given, below the name of the peer. -/
theorem peer_config_eq (h : Undisturbed r s w) (id : PeerId) (style : ConfigStyle) :
    (peerConfig r id style s w).1 = (w.store.peerFor r.caller id).map fun p =>
      ConfigText.named (s.renderPeer style p)
        (p.configName (w.store.interface false p.interfaceId).toOption) := by
  rw [peerConfig, bind_result (load_peer_eq h.peer h.at_start id)]
  refine bind_congr fun p => ?_
  rw [bind_ok (checkpoint_ok h.after_peer), bind_ok (render_peer_eq h.renderer style p),
    bind_ok (look_up_name_eq h.interface h.after_renderer p)]
  rfl

/-- The link that a caller is given. -/
theorem vpn_link_eq (h : Undisturbed r s w) (id : PeerId) :
    (vpnLink r id s w).1 = (do
      let p ← w.store.peerFor r.caller id
      let i ← Error.within ("failed to fetch interface " ++ p.interfaceId)
        (w.store.interface false p.interfaceId)
      Error.within ("failed to build amnezia vpn link for " ++ p.identifier)
        (linkOf s.settings p i (s.renderPeer .wgQuick p))) := by
  rw [vpnLink, bind_result (load_peer_eq h.peer h.at_start id)]
  refine bind_congr fun p => ?_
  rw [bind_result (load_interface_eq h.interface h.after_peer p.interfaceId)]
  refine bind_congr fun i => ?_
  rw [build_link_eq h.renderer h.after_interface]

/-- What a code says that a caller is given. -/
theorem qr_payload_eq (h : Undisturbed r s w) (id : PeerId) (style : ConfigStyle) :
    (qrPayload r id style s w).1 = (do
      let p ← w.store.peerFor r.caller id
      let i ← Error.within ("failed to fetch interface " ++ p.interfaceId)
        (w.store.interface false p.interfaceId)
      if i.isObfuscated then
        Error.within ("failed to build amnezia vpn link for " ++ p.identifier)
          (linkOf s.settings p i (s.renderPeer .wgQuick p))
      else .ok (ConfigText.stripped (s.renderPeer style p))) := by
  rw [qrPayload, bind_result (load_peer_eq h.peer h.at_start id)]
  refine bind_congr fun p => ?_
  rw [bind_result (load_interface_eq h.interface h.after_peer p.interfaceId)]
  refine bind_congr fun i => ?_
  split
  · rw [build_link_eq h.renderer h.after_interface]
  · rw [bind_ok (checkpoint_ok h.after_interface),
      bind_ok (within_ok (render_peer_eq h.renderer style p))]
    rfl

/-! ## Stored peers -/

section

variable {id : PeerId} {p : Peer} {i : Interface} (h : Undisturbed r s w)
  (hpeer : w.store.peerFor r.caller id = .ok p)
  (hinterface : w.store.interface false p.interfaceId = .ok i)
include h hpeer hinterface

/-- The link of a peer that the caller may have is built, or refused, for its interface. -/
theorem vpn_link_of_peer :
    (vpnLink r id s w).1 =
      Error.within ("failed to build amnezia vpn link for " ++ p.identifier)
        (linkOf s.settings p i (s.renderPeer .wgQuick p)) := by
  rw [vpn_link_eq h, hpeer]
  show (Error.within _ (w.store.interface false p.interfaceId) >>= fun i => _) = _
  rw [hinterface]
  rfl

/-- The code of such a peer says what its link is, or the configuration if there is none. -/
theorem qr_payload_of_peer (style : ConfigStyle) :
    (qrPayload r id style s w).1 =
      if i.isObfuscated then (vpnLink r id s w).1
      else .ok (ConfigText.stripped (s.renderPeer style p)) := by
  rw [vpn_link_of_peer h hpeer hinterface, qr_payload_eq h, hpeer]
  show (Error.within _ (w.store.interface false p.interfaceId) >>= fun i => _) = _
  rw [hinterface]
  rfl

end

/-- A link is built for a peer of an interface, or the interface is not obfuscated. -/
theorem link_of_cases {c : Settings} {p : Peer} {i : Interface} {config : String}
    (hinterface : i.identifier = p.interfaceId)
    (hfits : ∀ o, i.obfuscation = some o →
      (encodeUtf8 (Json.writeValue (Link.document p o (p.configName (some i))
        (ConfigText.strippedNamed config (p.configName (some i)))))).length < 2 ^ 32) :
    (∃ o, i.obfuscation = some o ∧ o.isEmpty = false ∧ i.isObfuscated = true ∧
        ∃ link, linkOf c p i config = .ok link) ∨
      (¬ ∃ o, i.obfuscation = some o ∧ o.isEmpty = false) ∧ i.isObfuscated = false ∧
        linkOf c p i config = .error (.precondition (.obfuscation i.identifier)) := by
  cases hblock : Interface.presentBlock i.obfuscation with
  | some o =>
      obtain ⟨hsome, hempty⟩ := Obfuscation.present_block_eq_some_iff.mp hblock
      refine .inl ⟨o, hsome, hempty, by rw [Interface.isObfuscated, hblock]; rfl, ?_⟩
      exact (Link.build_succeeds_iff ..).mpr
        ⟨p, o, rfl, hinterface.symm, hsome, hempty, hfits o hsome⟩
  | none =>
      refine .inr ⟨?_, by rw [Interface.isObfuscated, hblock]; rfl, ?_⟩
      · rintro ⟨o, ho⟩
        have hpresent := Obfuscation.present_block_eq_some_iff.mpr ho
        rw [hblock] at hpresent
        cases hpresent
      · rw [linkOf, Link.build, if_neg (not_not_intro hinterface.symm), hblock]

/-- What a caller who may have a stored peer is given. The interface of the peer is stored, so
nothing is missing. The link is built exactly if that interface is obfuscated, and the code says
the same link then, whatever its style is. The link shows the name of the peer and carries the
configuration below that name, in the style that says more. -/
theorem peer_link_of_stored (writes : List Store.Write) (r : Request) (s : Services σ)
    (w : World σ) (id : PeerId) (p : Peer) (user : User) (hstore : w.store = .after writes)
    (hp : w.store.peer false id = .ok p) (huser : r.caller.user = some user)
    (hallowed : user.isAdministrator = true ∨ user.identifier = p.owner)
    (hundisturbed : Undisturbed r s w)
    (hfits : ∀ i o, w.store.interface false p.interfaceId = .ok i → i.obfuscation = some o →
      (encodeUtf8 (Json.writeValue (Link.document p o (p.configName (some i))
        (ConfigText.strippedNamed (s.renderPeer .wgQuick p)
          (p.configName (some i)))))).length < 2 ^ 32) :
    ∃ i, w.store.interface false p.interfaceId = .ok i ∧
      ((∃ link, (vpnLink r id s w).1 = .ok link) ↔
        ∃ o, i.obfuscation = some o ∧ o.isEmpty = false) ∧
      (∀ e, (vpnLink r id s w).1 = .error e →
        e.isMissing = false ∧ e.root = .precondition (.obfuscation i.identifier)) ∧
      (∀ style,
        (i.clientKind = .obfuscationCapable →
          (qrPayload r id style s w).1 = (vpnLink r id s w).1) ∧
        (i.clientKind = .native →
          (qrPayload r id style s w).1 = .ok (ConfigText.stripped (s.renderPeer style p)))) ∧
      ∀ link, (vpnLink r id s w).1 = .ok link →
        Link.Carries link (p.configName (some i))
          (ConfigText.nameLine (p.configName (some i)) ++
            ConfigText.stripped (s.renderPeer .wgQuick p)) := by
  have hconsistent : w.store.Consistent := hstore ▸ Store.consistent_after writes
  obtain ⟨i, hi, hinterface⟩ := Store.interface_of_peer hconsistent hp
  have hpeer := Store.peer_for_of_allowed hp huser hallowed
  have hlink := vpn_link_of_peer hundisturbed hpeer hi
  have hcode := qr_payload_of_peer hundisturbed hpeer hi
  refine ⟨i, hi, ?_⟩
  rcases link_of_cases (c := s.settings) hinterface (hfits i · hi) with
    ⟨o, ho, hempty, hobfuscated, link, hbuilt⟩ | ⟨hnone, hobfuscated, hrefused⟩
  · have hok : (vpnLink r id s w).1 = .ok link := by
      rw [hlink, hbuilt]
      rfl
    refine ⟨⟨fun _ => ⟨o, ho, hempty⟩, fun _ => ⟨link, hok⟩⟩, ?_, ?_, ?_⟩
    · intro e he
      rw [hok] at he
      cases he
    · intro style
      rw [hcode, Interface.clientKind, hobfuscated]
      exact ⟨fun _ => rfl, nofun⟩
    · intro link' hlink'
      rw [hok] at hlink'
      cases hlink'
      exact Link.carries_of_build hbuilt
  · have herror : (vpnLink r id s w).1 = .error
        (.context ("failed to build amnezia vpn link for " ++ p.identifier)
          (.precondition (.obfuscation i.identifier))) := by
      rw [hlink, hrefused]
      rfl
    refine ⟨⟨?_, fun hsome => absurd hsome hnone⟩, ?_, ?_, ?_⟩
    · rintro ⟨link, hok⟩
      rw [herror] at hok
      cases hok
    · intro e he
      rw [herror] at he
      cases he
      exact ⟨rfl, rfl⟩
    · intro style
      rw [hcode, Interface.clientKind, hobfuscated]
      exact ⟨nofun, fun _ => rfl⟩
    · intro link hok
      rw [herror] at hok
      cases hok

/-- The usual settings, and one configuration for every peer and every style. No call fails. -/
def rendering (config : String) : Services Unit where
  settings := .usual
  newKeys _ := ⟨"", ""⟩
  renderInterface _ _ := ""
  renderPeer _ _ := config
  encodeQr _ := []
  storage := ⟨fun _ files => (.ok (), files), fun _ _ files => (.ok (), files),
    fun _ files => (.ok (), files)⟩
  bus := .empty
  fault? _ _ := none

/-- Four junk packets, and nothing else that would hide the traffic. -/
def fourJunkPackets : Obfuscation :=
  { Obfuscation.empty with junkCount := 4, junkMin := 40, junkMax := 70 }

/-- An interface that sends junk packets, by its display name. -/
def office (name : String) : Interface :=
  { Interface.new "wg0" with
    displayName := name
    obfuscation := some fourJunkPackets }

/-- A peer of that interface. -/
def laptop : Peer :=
  { Peer.blank with identifier := "laptop", owner := "alice", interfaceId := "wg0" }

/-- The interface and the peer are stored. -/
def officeWorld (name : String) : World Unit :=
  ⟨.after [.saveInterface false (office name), .savePeer false laptop], (), [], [], []⟩

theorem office_world_peer (name : String) :
    (officeWorld name).store.peer false "laptop" = .ok laptop := by
  rw [officeWorld, Store.peer_eq (Store.consistent_after _), Store.contents_after]
  rfl

theorem office_world_interface (name : String) :
    (officeWorld name).store.interface false "wg0" = .ok (office name).settled := by
  rw [officeWorld, Store.interface_eq (Store.consistent_after _), Store.contents_after]
  rfl

theorem parameters_four_junk_packets :
    Link.parameters fourJunkPackets =
      [("H1", .text ""), ("H2", .text ""), ("H3", .text ""), ("H4", .text ""), ("Jc", .text "4"),
        ("Jmax", .text "70"), ("Jmin", .text "40"), ("S1", .text "0"), ("S2", .text "0")] := by
  have h0 : Number.decimal 0 = "0" := by decide +kernel
  have h4 : Number.decimal 4 = "4" := by decide +kernel
  have h40 : Number.decimal 40 = "40" := by decide +kernel
  have h70 : Number.decimal 70 = "70" := by decide +kernel
  rw [← h0, ← h4, ← h40, ← h70]
  rfl

/-- The document of the peer is far from the limit of a frame. -/
theorem laptop_document_fits :
    (encodeUtf8 (Json.writeValue (Link.document laptop fourJunkPackets
      (laptop.configName (some (office "Office").settled))
      (ConfigText.strippedNamed "[Interface]\n"
        (laptop.configName (some (office "Office").settled)))))).length < 2 ^ 32 := by
  have hname : laptop.configName (some (office "Office").settled) = "Office - laptop" := by
    decide +kernel
  have hconfig : ConfigText.strippedNamed "[Interface]\n" "Office - laptop" =
      "# Name = Office - laptop\n[Interface]\n" := by decide +kernel
  rw [hname, hconfig, Link.document_eq, Link.onlyContainer, Link.containerFields,
    parameters_four_junk_packets]
  -- The inner document has to stay a list of characters: as a text it is too long to compute with.
  simp only [Data.object, Data.list, Json.writeValue, Json.writeItems, Json.writeEntries,
    Json.writeKey, List.map_cons, List.map_nil, List.cons_append, List.nil_append, Json.write,
    String.toList_ofList]
  decide +kernel

/-- The owner of a peer gets its link, also from the code in either style, though the token is
cancelled right after the last call. -/
theorem peer_link_of_laptop :
    let alice : Request := ⟨⟨some ⟨"alice", false⟩⟩, .cancelledAfter 3⟩
    let s := rendering "[Interface]\n"
    let w := officeWorld "Office"
    ∃ link, (vpnLink alice "laptop" s w).1 = .ok link ∧
      (∀ style, (qrPayload alice "laptop" style s w).1 = .ok link) ∧
      Link.Carries link "Office - laptop" "# Name = Office - laptop\n[Interface]\n" := by
  intro alice s w
  obtain ⟨i, hi, hbuilt, -, hcode, hcarries⟩ := peer_link_of_stored
    [.saveInterface false (office "Office"), .savePeer false laptop] alice s w "laptop" laptop
    ⟨"alice", false⟩ rfl (office_world_peer "Office") rfl (.inr rfl)
    ⟨fun _ => rfl, fun _ => rfl, fun _ => rfl, rfl⟩ (fun i o hi ho => by
      obtain rfl := Except.ok.inj ((office_world_interface "Office").symm.trans hi)
      obtain rfl := Option.some.inj ho
      exact laptop_document_fits)
  obtain rfl := Except.ok.inj ((office_world_interface "Office").symm.trans hi)
  obtain ⟨link, hlink⟩ := hbuilt.mpr ⟨fourJunkPackets, rfl, rfl⟩
  refine ⟨link, hlink, fun style => ((hcode style).1 rfl).trans hlink, ?_⟩
  have hname : laptop.configName (some (office "Office").settled) = "Office - laptop" := by
    decide +kernel
  have hconfig : ConfigText.nameLine "Office - laptop" ++ ConfigText.stripped "[Interface]\n" =
      "# Name = Office - laptop\n[Interface]\n" := by decide +kernel
  have hlaptop := hcarries link hlink
  rw [hname] at hlaptop
  rwa [← hconfig]

end Keeper

end TunnelKeeper
