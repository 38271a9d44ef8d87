import TunnelKeeper.Program
import TunnelKeeper.Proofs.ConfigText
import TunnelKeeper.Proofs.Keeper.PeerLink

/-!
# The link command and the keeper

The program prints the link of a peer with a configuration that was rendered elsewhere, and the
keeper renders the configuration itself. Both look the peer and its interface up, name the link and
build it; only the keeper puts contexts around what goes wrong. So an administrator gets the same
link from both, or failures with the same root, if the two configurations have the same lines that
mean something (`peer_link_agrees`).
-/

namespace TunnelKeeper

/-! ## Roots -/

namespace Error

variable {α β : Type}

/-- A context does not change the root of an error. -/
theorem root_within (doing : String) (result : Except Error α) :
    (within doing result).mapError root = result.mapError root := by
  cases result <;> rfl

/-- Results with the same roots stay so when the same is done with what they hand over. -/
theorem root_bind_congr {result result' : Except Error α} {f g : α → Except Error β}
    (hresult : result.mapError root = result'.mapError root)
    (hnext : ∀ a, (f a).mapError root = (g a).mapError root) :
    (result >>= f).mapError root = (result' >>= g).mapError root := by
  cases result with
  | error e =>
      cases result' with
      | error e' => exact congrArg Except.error (Except.error.inj hresult)
      | ok a' => cases hresult
  | ok a =>
      cases result' with
      | error e' => cases hresult
      | ok a' =>
          obtain rfl := Except.ok.inj hresult
          exact hnext a

end Error

/-! ## Administrators -/

/-- An administrator may have everybody's peers. -/
theorem Caller.require_owner_of_administrator {c : Caller}
    (h : c.requireAdministrator = .ok ()) (owner : UserId) : c.requireOwner owner = .ok () := by
  unfold requireAdministrator at h
  unfold requireOwner
  cases huser : c.user with
  | none =>
      rw [huser] at h
      cases h
  | some user =>
      rw [huser] at h
      by_cases hadmin : user.isAdministrator = true
      · exact if_pos (.inl hadmin)
      · exact absurd h (by simp [hadmin])

/-- For an administrator, looking a peer up fails only as the store does. -/
theorem Store.peer_for_administrator {c : Caller} (h : c.requireAdministrator = .ok ()) (s : Store)
    (id : PeerId) :
    s.peerFor c id = Error.within ("failed to fetch peer " ++ id) (s.peer false id) := by
  unfold peerFor
  cases s.peer false id with
  | error e => rfl
  | ok p =>
      show (c.requireOwner p.owner >>= fun _ => Except.ok p) = _
      rw [Caller.require_owner_of_administrator h]
      rfl

/-! ## Both ways to a link -/

namespace Program

open Keeper

variable {σ : Type}

/-- Links do not tell configurations apart that are stripped alike. -/
theorem link_of_congr {c : Settings} {p : Peer} {i : Interface} {config config' : String}
    (h : ConfigText.contentLines config = ConfigText.contentLines config') :
    linkOf c p i config = linkOf c p i config' := by
  rw [linkOf, linkOf, ConfigText.strippedNamed, ConfigText.strippedNamed,
    ConfigText.stripped_congr h]

/-- The program without a description of its own. -/
theorem peer_link_eq (c : Settings) (store : Store) (id : PeerId) (config : String) :
    peerLink c store id config none = (do
      let p ← store.peer false id
      let i ← store.interface false p.interfaceId
      linkOf c p i config) := by
  refine bind_congr fun p => bind_congr fun i => ?_
  simp only [linkOf, Option.getD_none]

/-- For an administrator whom nothing disturbs, the program and the keeper give the same link or
fail with the same root, if the configurations have the same lines that mean something for a peer
that is stored. -/
theorem peer_link_agrees (r : Request) (s : Services σ) (w : World σ) (id : PeerId) (file : String)
    (hadmin : r.caller.requireAdministrator = .ok ()) (hundisturbed : Undisturbed r s w)
    (hfile : ∀ p, w.store.peer false id = .ok p →
      ConfigText.contentLines file = ConfigText.contentLines (s.renderPeer .wgQuick p)) :
    (peerLink s.settings w.store id file none).mapError Error.root =
      (vpnLink r id s w).1.mapError Error.root := by
  rw [vpn_link_eq hundisturbed, Store.peer_for_administrator hadmin, peer_link_eq]
  cases hp : w.store.peer false id with
  | error e => rfl
  | ok p =>
      show Except.mapError Error.root (w.store.interface false p.interfaceId >>= fun i =>
        linkOf s.settings p i file) = Except.mapError Error.root (_ >>= fun i => _)
      refine Error.root_bind_congr (Error.root_within _ _).symm fun i => ?_
      rw [Error.root_within, link_of_congr (hfile p hp)]

/-- A comment, margins and line ends of another kind make no difference. -/
theorem peer_link_agrees_laptop :
    let s := rendering "[Interface]\n"
    let w := officeWorld "Office"
    (peerLink .usual w.store "laptop" "# exported\r\n\t[Interface] \r\n" none).mapError Error.root =
      (vpnLink .system "laptop" s w).1.mapError Error.root :=
  peer_link_agrees .system (rendering "[Interface]\n") (officeWorld "Office") "laptop" _ rfl
    ⟨fun _ => rfl, fun _ => rfl, fun _ => rfl, rfl⟩ fun _ _ =>
      show ConfigText.contentLines "# exported\r\n\t[Interface] \r\n" =
        ConfigText.contentLines "[Interface]\n" by decide +kernel

end Program

end TunnelKeeper
