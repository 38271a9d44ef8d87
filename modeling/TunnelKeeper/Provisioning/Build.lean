import TunnelKeeper.Allocator
import TunnelKeeper.Settings.Basic
/-!
# Building interfaces

From entries to interfaces. What an entry leaves out comes from the settings, from new keys and
from an allocator that knows beforehand what all entries ask for by name.
-/

namespace TunnelKeeper

namespace Entry

/-- The networks of a list of texts. -/
def networks (raw : List String) : Except Error (List Network) :=
  raw.mapM fun s => (Network.parseEntry s).mapError fun fault => .settings (.block fault)

/-- A start block of the settings. -/
def startBlock (name raw : String) : Except Error Network :=
  Error.within name ((Network.parseEntry raw).mapError fun fault => .settings (.block fault))

/-- Reserves what an entry asks for by name. -/
def reserve (a : Allocator) (e : Entry) : Except Error Allocator := do
  let a := if e.listenPort ≠ 0 then a.reservePort e.listenPort.toNat else a
  let blocks ← networks e.addresses
  .ok (a.reserveNetworks blocks)

/-- The allocator for a list of entries. -/
def allocator (s : AdvancedSettings) (entries : List Entry) : Except Error Allocator := do
  let v4 ← startBlock "advanced.start_cidr_v4" s.startCidrV4
  let v6 ← if s.useIpV6 then (startBlock "advanced.start_cidr_v6" s.startCidrV6).map some
    else .ok none
  let a ← (Allocator.ofStart s.startListenPort.toNat v4 v6).mapError .settings
  entries.foldlM reserve a

/-- The mode of the interface. -/
def buildMode (e : Entry) : Except Error Mode :=
  match Mode.parse? e.mode with
  | some mode => .ok mode
  | none => .error (.validation ⟨e.field ++ ".mode", .modeInvalid⟩)

/-- The keys of the interface: those of the private key, or new ones. -/
def buildKeys (e : Entry) (new : KeyPair) : Except Error KeyPair :=
  if Text.trim e.privateKey = "" then .ok new
  else
    match KeyPair.ofPrivateKey? e.privateKey with
    | some keys => .ok keys
    | none => .error (.validation ⟨e.field ++ ".private_key", .privateKeyInvalid⟩)

/-- The port of the interface: the one that is asked for, or the next free one. -/
def buildPort (e : Entry) (a : Allocator) : Except Error (UInt16 × Allocator) :=
  if e.listenPort ≠ 0 then .ok (e.listenPort, a)
  else
    match a.takePort with
    | (.ok port, a) => .ok (UInt16.ofNat port, a)
    | (.error fault, _) => .error (.settings fault)

/-- The addresses of the interface: those that are asked for, or the next free ones. -/
def buildAddresses (e : Entry) (a : Allocator) : Except Error (List Network × Allocator) := do
  match ← networks e.addresses with
  | [] =>
    match a.takeAddresses with
    | (.ok addresses, a) => .ok (addresses, a)
    | (.error fault, _) => .error (.settings fault)
  | addresses => .ok (addresses, a)

/-- The networks of new peers: those that are asked for, or those of the addresses. -/
def buildPeerNetwork (e : Entry) (addresses : List Network) : Except Error (List Network) := do
  match ← networks e.peerNetwork with
  | [] => .ok (addresses.map Network.normalize)
  | given => .ok given

/-- The interface of an entry, and the allocator after it. -/
def build (s : AdvancedSettings) (e : Entry) (new : KeyPair) (a : Allocator) :
    Except Error (Interface × Allocator) := do
  let mode ← e.buildMode
  let keys ← e.buildKeys new
  let (port, a) ← e.buildPort a
  let (addresses, a) ← e.buildAddresses a
  let network ← e.buildPeerNetwork addresses
  let allowedIps ← networks e.peerAllowedIps
  let i : Interface :=
    { Interface.new e.id with
      displayName := if Text.trim e.displayName = "" then e.id else Text.trim e.displayName
      mode := mode
      disabled := !e.enabled.getD true
      keyPair := keys
      listenPort := port
      addresses := addresses
      dns := e.dns
      dnsSearch := e.dnsSearch
      mtu := if e.mtu = 0 then Interface.usualMtu else e.mtu
      firewallMark := e.firewallMark
      routingTable := e.routingTable
      preUp := e.preUp
      postUp := e.postUp
      preDown := e.preDown
      postDown := e.postDown
      saveConfig := e.saveConfig.getD (Text.trim s.storagePath ≠ "")
      notes := e.notes
      peerDefaults :=
        { network := network
          dns := e.peerDns
          dnsSearch := e.peerDnsSearch
          endpoint := Text.trim e.peerEndpoint
          allowedIps := allowedIps
          mtu := e.peerMtu
          persistentKeepalive := e.peerKeepalive
          firewallMark := e.peerFirewallMark
          routingTable := e.peerRoutingTable
          preUp := e.peerPreUp
          postUp := e.peerPostUp
          preDown := e.peerPreDown
          postDown := e.peerPostDown } }
  .ok (i.withObfuscation (e.obfuscation.map Obfuscation.normalized), a)

end Entry

end TunnelKeeper
