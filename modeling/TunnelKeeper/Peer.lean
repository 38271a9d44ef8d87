import TunnelKeeper.Instant
import TunnelKeeper.Interface
/-!
# Peers

A client's end of a tunnel. Most of its settings come from the interface it belongs to, together
with whether the peer may set them otherwise.
-/

namespace TunnelKeeper

open Text

/-- The identifier of a peer. -/
abbrev PeerId := String

/-- The identifier of a user. -/
abbrev UserId := String

/-- A setting, and whether the peer may have its own. -/
structure Setting (α : Type) where
  value : α
  overridable : Bool
  deriving DecidableEq, Repr

namespace Setting

/-- A setting that a peer took over and may change. -/
def inherited {α : Type} (value : α) : Setting α := ⟨value, true⟩

/-- Reads a setting from a document. -/
def decoder {α : Type} (d : Decoder α) : Decoder (Setting α) :=
  Fields.decoder
    (Setting.mk <$> .required "value" d <*> .required "overridable" .bool) "ConfigOption" false

/-- A setting as a table. -/
def toData {α : Type} (f : α → Data) (s : Setting α) : Data :=
  .object [("value", f s.value), ("overridable", .bool s.overridable)]

end Setting

/-- What the client's own interface is set up with. -/
structure ClientInterface where
  keyPair : KeyPair
  addresses : List Network
  dns : Setting String
  dnsSearch : Setting String
  mtu : Setting UInt32
  firewallMark : Setting UInt32
  routingTable : Setting String
  preUp : Setting String
  postUp : Setting String
  preDown : Setting String
  postDown : Setting String
  deriving DecidableEq

namespace ClientInterface

/-- A text that is not set. -/
private def noText : Setting String := ⟨"", false⟩

/-- A number that is not set. -/
private def noWord : Setting UInt32 := ⟨0, false⟩

/-- Nothing set. -/
def blank : ClientInterface :=
  ⟨.blank, [], noText, noText, noWord, noWord, noText, noText, noText, noText, noText⟩

/-- Reads the client's settings from a document. -/
def decoder : Decoder ClientInterface :=
  Fields.decoder
    (ClientInterface.mk
      <$> .withDefault "key_pair" KeyPair.decoder blank.keyPair
      <*> .withDefault "addresses" (.list Network.decoder) blank.addresses
      <*> .withDefault "dns_str" (Setting.decoder .text) blank.dns
      <*> .withDefault "dns_search_str" (Setting.decoder .text) blank.dnsSearch
      <*> .withDefault "mtu" (Setting.decoder .word) blank.mtu
      <*> .withDefault "firewall_mark" (Setting.decoder .word) blank.firewallMark
      <*> .withDefault "routing_table" (Setting.decoder .text) blank.routingTable
      <*> .withDefault "pre_up" (Setting.decoder .text) blank.preUp
      <*> .withDefault "post_up" (Setting.decoder .text) blank.postUp
      <*> .withDefault "pre_down" (Setting.decoder .text) blank.preDown
      <*> .withDefault "post_down" (Setting.decoder .text) blank.postDown)
    "PeerInterfaceConfig" false

/-- The client's settings as a table. -/
def toData (c : ClientInterface) : Data :=
  .object [("key_pair", c.keyPair.toData), ("addresses", .networks c.addresses),
    ("dns_str", c.dns.toData .text), ("dns_search_str", c.dnsSearch.toData .text),
    ("mtu", c.mtu.toData .word), ("firewall_mark", c.firewallMark.toData .word),
    ("routing_table", c.routingTable.toData .text), ("pre_up", c.preUp.toData .text),
    ("post_up", c.postUp.toData .text), ("pre_down", c.preDown.toData .text),
    ("post_down", c.postDown.toData .text)]

end ClientInterface

/-- A peer. -/
structure Peer where
  identifier : PeerId
  displayName : String
  owner : UserId
  interfaceId : InterfaceId
  disabled : Bool
  expiresAt : Option Instant
  notes : String
  endpoint : Setting String
  serverPublicKey : Setting String
  allowedIps : Setting String
  extraAllowedIps : String
  presharedKey : String
  persistentKeepalive : Setting UInt32
  client : ClientInterface
  deriving DecidableEq

namespace Peer

/-- A peer about which nothing is known. -/
def blank : Peer where
  identifier := ""
  displayName := ""
  owner := ""
  interfaceId := ""
  disabled := false
  expiresAt := none
  notes := ""
  endpoint := ⟨"", false⟩
  serverPublicKey := ⟨"", false⟩
  allowedIps := ⟨"", false⟩
  extraAllowedIps := ""
  presharedKey := ""
  persistentKeepalive := ⟨0, false⟩
  client := .blank

/-- A new peer of an interface: it has the given keys and inherits everything else. -/
def new (identifier : PeerId) (i : Interface) (keys : KeyPair) : Peer :=
  let d := i.peerDefaults
  { blank with
    identifier := identifier
    interfaceId := i.identifier
    endpoint := .inherited d.endpoint
    serverPublicKey := .inherited i.keyPair.publicKey
    allowedIps := .inherited (Network.join d.allowedIps)
    persistentKeepalive := .inherited d.persistentKeepalive
    client :=
      { ClientInterface.blank with
        keyPair := keys
        dns := .inherited (",".intercalate d.dns)
        dnsSearch := .inherited (",".intercalate d.dnsSearch)
        mtu := .inherited d.mtu
        firewallMark := .inherited d.firewallMark
        routingTable := .inherited d.routingTable
        preUp := .inherited d.preUp
        postUp := .inherited d.postUp
        preDown := .inherited d.preDown
        postDown := .inherited d.postDown } }

/-- Reads a peer from a document. -/
def decoder : Decoder Peer :=
  Fields.decoder
    (Peer.mk
      <$> .withDefault "identifier" .text blank.identifier
      <*> .withDefault "display_name" .text blank.displayName
      <*> .withDefault "user_identifier" .text blank.owner
      <*> .withDefault "interface_identifier" .text blank.interfaceId
      <*> .withDefault "disabled" .bool blank.disabled
      <*> .withDefault "expires_at" (.option Instant.decoder) blank.expiresAt
      <*> .withDefault "notes" .text blank.notes
      <*> .withDefault "endpoint" (Setting.decoder .text) blank.endpoint
      <*> .withDefault "endpoint_public_key" (Setting.decoder .text) blank.serverPublicKey
      <*> .withDefault "allowed_ips_str" (Setting.decoder .text) blank.allowedIps
      <*> .withDefault "extra_allowed_ips_str" .text blank.extraAllowedIps
      <*> .withDefault "preshared_key" .text blank.presharedKey
      <*> .withDefault "persistent_keepalive" (Setting.decoder .word) blank.persistentKeepalive
      <*> .withDefault "interface" ClientInterface.decoder blank.client)
    "Peer" false

/-- A peer as a table. -/
def toData (p : Peer) : Data :=
  .object [("identifier", .text p.identifier), ("display_name", .text p.displayName),
    ("user_identifier", .text p.owner), ("interface_identifier", .text p.interfaceId),
    ("disabled", .bool p.disabled),
    ("expires_at", .orNull (fun t => .text t.text) p.expiresAt),
    ("notes", .text p.notes), ("endpoint", p.endpoint.toData .text),
    ("endpoint_public_key", p.serverPublicKey.toData .text),
    ("allowed_ips_str", p.allowedIps.toData .text),
    ("extra_allowed_ips_str", .text p.extraAllowedIps),
    ("preshared_key", .text p.presharedKey),
    ("persistent_keepalive", p.persistentKeepalive.toData .word),
    ("interface", p.client.toData)]

/-- The name of a peer's configuration: the interface's name and the peer's, each of which falls
back to the identifier. -/
def configName (i : Option Interface) (p : Peer) : String :=
  let side (names : List String) : String := (names.map trim).find? (· ≠ "") |>.getD ""
  let interfaceName := match i with
    | some i =>
      match side [i.displayName, i.identifier] with
      | "" => trim p.interfaceId
      | name => name
    | none => trim p.interfaceId
  let peerName := side [p.displayName, p.identifier]
  if interfaceName = "" then peerName
  else if peerName = "" then interfaceName
  else interfaceName ++ " - " ++ peerName

end Peer

end TunnelKeeper
