import TunnelKeeper.ConfigText
import TunnelKeeper.Keeper.Act
import TunnelKeeper.Link
import TunnelKeeper.Text.Utf8
/-!
# Configurations

The configurations of interfaces and peers, as texts, as codes, as import links and as files. Before
every call the token of the request is looked at, and a peer is given away only to its owner.
-/

namespace TunnelKeeper

namespace Keeper

open Act

variable {σ : Type}

/-- The peer of an identifier, if the caller may have it. -/
def loadPeer (r : Request) (id : PeerId) : Act σ Peer := do
  checkpoint r
  let p ← within ("failed to fetch peer " ++ id) (peer r id)
  lift (r.caller.requireOwner p.owner)
  pure p

/-- The interface of an identifier. -/
def loadInterface (r : Request) (id : InterfaceId) : Act σ Interface := do
  checkpoint r
  within ("failed to fetch interface " ++ id) (interface r id)

/-- The name of a peer together with its interface. An interface that cannot be had is named as
the peer names it. -/
def lookUpName (r : Request) (p : Peer) : Act σ String := do
  checkpoint r
  let found ← attempt (interface r p.interfaceId)
  pure (p.configName found.toOption)

/-- The import link of a peer. The configuration in it always has the `wgQuick` style, which says
more than the other. -/
def buildLink (r : Request) (p : Peer) (i : Interface) : Act σ String := do
  let name := p.configName (some i)
  checkpoint r
  let config ← within ("failed to get peer config for " ++ p.identifier) (renderPeer .wgQuick p)
  let s ← settings
  within ("failed to build amnezia vpn link for " ++ p.identifier)
    (lift (Link.build (some p) i name (ConfigText.strippedNamed config name)
      s.link.compressionLevel.toNat))

/-- The configuration of an interface with its peers, for administrators. -/
def interfaceConfig (r : Request) (id : InterfaceId) : Act σ String := do
  lift r.caller.requireAdministrator
  checkpoint r
  let (i, peers) ← within ("failed to fetch interface " ++ id) (interfaceAndPeers r id)
  checkpoint r
  renderInterface i peers

/-- The configuration of a peer below its name. -/
def peerConfig (r : Request) (id : PeerId) (style : ConfigStyle) : Act σ String := do
  let p ← loadPeer r id
  checkpoint r
  let config ← renderPeer style p
  let name ← lookUpName r p
  pure (ConfigText.named config name)

/-- What the code of a peer says: its import link if its interface is obfuscated, and its stripped
configuration if not. -/
def qrPayload (r : Request) (id : PeerId) (style : ConfigStyle) : Act σ String := do
  let p ← loadPeer r id
  let i ← loadInterface r p.interfaceId
  if i.isObfuscated then buildLink r p i
  else do
    checkpoint r
    let config ← within ("failed to get peer config for " ++ id) (renderPeer style p)
    pure (ConfigText.stripped config)

/-- The code of a peer. -/
def qrCode (r : Request) (id : PeerId) (style : ConfigStyle) : Act σ (List UInt8) := do
  let payload ← qrPayload r id style
  within ("failed to encode qr code for " ++ id) (encodeQr payload)

/-- The import link of a peer of an obfuscated interface. -/
def vpnLink (r : Request) (id : PeerId) : Act σ String := do
  let p ← loadPeer r id
  let i ← loadInterface r p.interfaceId
  buildLink r p i

/-- Writes the file of an interface. -/
def persist (r : Request) (id : InterfaceId) : Act σ Unit := do
  checkpoint r
  let (i, peers) ← within ("failed to fetch interface " ++ id) (interfaceAndPeers r id)
  checkpoint r
  let config ← within "failed to get interface config" (renderInterface i peers)
  checkpoint r
  within "failed to write interface config"
    (writeFile i.fileName (Text.encodeUtf8 config.toList))

/-- Removes a file. -/
def unpersist (r : Request) (fileName : String) : Act σ Unit := do
  checkpoint r
  within "failed to remove interface config" (deleteFile fileName)

end Keeper

end TunnelKeeper
