import TunnelKeeper.Interface
/-!
# Provisioning entries

An interface as an operator describes it in the settings. Everything but the identifier may be left
out; what is left out is filled in when the interface is built.
-/

namespace TunnelKeeper

/-- The description of an interface to create. -/
structure Entry where
  identifier : String
  displayName : String
  mode : String
  enabled : Option Bool
  privateKey : String
  listenPort : UInt16
  addresses : List String
  dns : List String
  dnsSearch : List String
  mtu : UInt32
  firewallMark : UInt32
  routingTable : String
  preUp : String
  postUp : String
  preDown : String
  postDown : String
  saveConfig : Option Bool
  notes : String
  peerNetwork : List String
  peerDns : List String
  peerDnsSearch : List String
  peerEndpoint : String
  peerAllowedIps : List String
  peerMtu : UInt32
  peerKeepalive : UInt32
  peerFirewallMark : UInt32
  peerRoutingTable : String
  peerPreUp : String
  peerPostUp : String
  peerPreDown : String
  peerPostDown : String
  obfuscation : Option Obfuscation
  deriving DecidableEq, Repr

namespace Entry

/-- The identifier without blank margins. -/
def id (e : Entry) : String := Text.trim e.identifier

/-- How messages refer to the entry. -/
def field (e : Entry) : String := "provisioning.interfaces[" ++ e.id ++ "]"

/-- Reads an entry from a document. -/
def decoder : Decoder Entry :=
  Fields.decoder
    (Entry.mk
      <$> .withDefault "identifier" .text ""
      <*> .withDefault "display_name" .text ""
      <*> .withDefault "mode" .text ""
      <*> .withDefault "enabled" (.option .bool) none
      <*> .withDefault "private_key" .text ""
      <*> .withDefault "listen_port" Obfuscation.sizeField 0
      <*> .withDefault "addresses" (.list .text) []
      <*> .withDefault "dns" (.list .text) []
      <*> .withDefault "dns_search" (.list .text) []
      <*> .withDefault "mtu" .word 0
      <*> .withDefault "firewall_mark" .word 0
      <*> .withDefault "routing_table" .text ""
      <*> .withDefault "pre_up" .text ""
      <*> .withDefault "post_up" .text ""
      <*> .withDefault "pre_down" .text ""
      <*> .withDefault "post_down" .text ""
      <*> .withDefault "save_config" (.option .bool) none
      <*> .withDefault "notes" .text ""
      <*> .withDefault "peer_def_network" (.list .text) []
      <*> .withDefault "peer_def_dns" (.list .text) []
      <*> .withDefault "peer_def_dns_search" (.list .text) []
      <*> .withDefault "peer_def_endpoint" .text ""
      <*> .withDefault "peer_def_allowed_ips" (.list .text) []
      <*> .withDefault "peer_def_mtu" .word 0
      <*> .withDefault "peer_def_persistent_keepalive" .word 0
      <*> .withDefault "peer_def_firewall_mark" .word 0
      <*> .withDefault "peer_def_routing_table" .text ""
      <*> .withDefault "peer_def_pre_up" .text ""
      <*> .withDefault "peer_def_post_up" .text ""
      <*> .withDefault "peer_def_pre_down" .text ""
      <*> .withDefault "peer_def_post_down" .text ""
      <*> .withDefault "advanced_security" (.option Obfuscation.decoder) none)
    "ProvisioningInterface" true

/-- A truth value that may be left out, in a document. -/
private def optionalBool : Option Bool → Data
  | some b => .bool b
  | none => .null

/-- An entry as a table. -/
def toData (e : Entry) : Data :=
  .object [("identifier", .text e.identifier), ("display_name", .text e.displayName),
    ("mode", .text e.mode), ("enabled", optionalBool e.enabled),
    ("private_key", .text e.privateKey), ("listen_port", .nat e.listenPort.toNat),
    ("addresses", .texts e.addresses), ("dns", .texts e.dns), ("dns_search", .texts e.dnsSearch),
    ("mtu", .word e.mtu), ("firewall_mark", .word e.firewallMark),
    ("routing_table", .text e.routingTable), ("pre_up", .text e.preUp),
    ("post_up", .text e.postUp), ("pre_down", .text e.preDown), ("post_down", .text e.postDown),
    ("save_config", optionalBool e.saveConfig), ("notes", .text e.notes),
    ("peer_def_network", .texts e.peerNetwork), ("peer_def_dns", .texts e.peerDns),
    ("peer_def_dns_search", .texts e.peerDnsSearch), ("peer_def_endpoint", .text e.peerEndpoint),
    ("peer_def_allowed_ips", .texts e.peerAllowedIps), ("peer_def_mtu", .word e.peerMtu),
    ("peer_def_persistent_keepalive", .word e.peerKeepalive),
    ("peer_def_firewall_mark", .word e.peerFirewallMark),
    ("peer_def_routing_table", .text e.peerRoutingTable),
    ("peer_def_pre_up", .text e.peerPreUp), ("peer_def_post_up", .text e.peerPostUp),
    ("peer_def_pre_down", .text e.peerPreDown), ("peer_def_post_down", .text e.peerPostDown),
    ("advanced_security", match e.obfuscation with | some o => o.toData | none => .null)]

end Entry

end TunnelKeeper
