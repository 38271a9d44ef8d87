import TunnelKeeper.KeyPair
import TunnelKeeper.Obfuscation
/-!
# Interfaces

The server's end of a tunnel: its keys, port and addresses, what its peers inherit, and the
obfuscation block that decides which clients can use it.
-/

namespace TunnelKeeper

open Text

/-- The identifier of an interface. -/
abbrev InterfaceId := String

/-- Who connects to whom. -/
inductive Mode
  | server
  | client
  | any
  deriving DecidableEq, Repr

namespace Mode

/-- The name of a mode. -/
def name : Mode → String
  | .server => "server"
  | .client => "client"
  | .any => "any"

/-- The modes by name. -/
def byName : List (String × Mode) := [("server", .server), ("client", .client), ("any", .any)]

/-- The mode of a name in any case; a blank name means a server. -/
def parse? (raw : String) : Option Mode :=
  match lower (trim raw) with
  | "" => some .server
  | name => byName.lookup name

end Mode

/-- Which clients an interface needs. -/
inductive ClientKind
  | native
  | obfuscationCapable
  deriving DecidableEq, Repr

/-- What new peers of an interface inherit. -/
structure PeerDefaults where
  network : List Network
  dns : List String
  dnsSearch : List String
  endpoint : String
  allowedIps : List Network
  mtu : UInt32
  persistentKeepalive : UInt32
  firewallMark : UInt32
  routingTable : String
  preUp : String
  postUp : String
  preDown : String
  postDown : String
  deriving DecidableEq

/-- Reads a word of 32 bits from a document. -/
def Decoder.word : Decoder UInt32 := .map UInt32.ofNat (.natural 32)

/-- Reads a network from a document. -/
def Network.decoder : Decoder Network :=
  .parsed fun s => (Network.parse s).mapError Network.Reason.message

/-- A list of texts in a document. -/
def Data.texts (l : List String) : Data := .list (l.map .text)

/-- A list of networks in a document. -/
def Data.networks (l : List Network) : Data := .list (l.map fun n => .text n.text)

/-- A word in a document. -/
def Data.word (w : UInt32) : Data := .nat w.toNat

namespace PeerDefaults

/-- Nothing to inherit. -/
def blank : PeerDefaults := ⟨[], [], [], "", [], 0, 0, 0, "", "", "", "", ""⟩

/-- Reads the defaults from a document. -/
def decoder : Decoder PeerDefaults :=
  Fields.decoder
    (PeerDefaults.mk
      <$> .withDefault "network" (.list Network.decoder) []
      <*> .withDefault "dns" (.list .text) []
      <*> .withDefault "dns_search" (.list .text) []
      <*> .withDefault "endpoint" .text ""
      <*> .withDefault "allowed_ips" (.list Network.decoder) []
      <*> .withDefault "mtu" .word 0
      <*> .withDefault "persistent_keepalive" .word 0
      <*> .withDefault "firewall_mark" .word 0
      <*> .withDefault "routing_table" .text ""
      <*> .withDefault "pre_up" .text ""
      <*> .withDefault "post_up" .text ""
      <*> .withDefault "pre_down" .text ""
      <*> .withDefault "post_down" .text "")
    "PeerDefaults" false

/-- The defaults as a table. -/
def toData (d : PeerDefaults) : Data :=
  .object [("network", .networks d.network), ("dns", .texts d.dns),
    ("dns_search", .texts d.dnsSearch), ("endpoint", .text d.endpoint),
    ("allowed_ips", .networks d.allowedIps), ("mtu", .word d.mtu),
    ("persistent_keepalive", .word d.persistentKeepalive),
    ("firewall_mark", .word d.firewallMark), ("routing_table", .text d.routingTable),
    ("pre_up", .text d.preUp), ("post_up", .text d.postUp), ("pre_down", .text d.preDown),
    ("post_down", .text d.postDown)]

end PeerDefaults

/-- An interface. -/
structure Interface where
  identifier : InterfaceId
  displayName : String
  mode : Mode
  keyPair : KeyPair
  listenPort : UInt16
  addresses : List Network
  dns : List String
  dnsSearch : List String
  mtu : UInt32
  firewallMark : UInt32
  routingTable : String
  preUp : String
  postUp : String
  preDown : String
  postDown : String
  saveConfig : Bool
  disabled : Bool
  notes : String
  peerDefaults : PeerDefaults
  obfuscation : Option Obfuscation
  deriving DecidableEq

namespace Interface

/-- The MTU of an interface that sets none. -/
def usualMtu : UInt32 := 1420

/-- An interface about which nothing but its identifier is known. -/
def new (identifier : InterfaceId) : Interface where
  identifier := identifier
  displayName := identifier
  mode := .server
  keyPair := .blank
  listenPort := 0
  addresses := []
  dns := []
  dnsSearch := []
  mtu := usualMtu
  firewallMark := 0
  routingTable := ""
  preUp := ""
  postUp := ""
  preDown := ""
  postDown := ""
  saveConfig := false
  disabled := false
  notes := ""
  peerDefaults := .blank
  obfuscation := none

/-- A block that says something. -/
def presentBlock (block : Option Obfuscation) : Option Obfuscation :=
  block.filter fun o => !o.isEmpty

/-- The interface with another block; an empty one is dropped. -/
def withObfuscation (i : Interface) (block : Option Obfuscation) : Interface :=
  { i with obfuscation := presentBlock block }

/-- Whether the interface has a block that says something. -/
def isObfuscated (i : Interface) : Bool := (presentBlock i.obfuscation).isSome

/-- Which clients the interface needs. -/
def clientKind (i : Interface) : ClientKind :=
  if i.isObfuscated then .obfuscationCapable else .native

/-- The interface with its block in normal form. -/
def settled (i : Interface) : Interface :=
  i.withObfuscation (i.obfuscation.map Obfuscation.normalized)

/-- The name of the file that holds the interface's configuration. -/
def fileName (i : Interface) : String := i.identifier ++ ".conf"

/-- Reads an interface from a document. -/
def decoder : Decoder Interface :=
  Fields.decoder
    (Interface.mk
      <$> .required "identifier" .text
      <*> .required "display_name" .text
      <*> .required "mode" (.choice Mode.byName)
      <*> .required "key_pair" KeyPair.decoder
      <*> .required "listen_port" Obfuscation.sizeField
      <*> .required "addresses" (.list Network.decoder)
      <*> .required "dns" (.list .text)
      <*> .required "dns_search" (.list .text)
      <*> .required "mtu" .word
      <*> .required "firewall_mark" .word
      <*> .required "routing_table" .text
      <*> .required "pre_up" .text
      <*> .required "post_up" .text
      <*> .required "pre_down" .text
      <*> .required "post_down" .text
      <*> .required "save_config" .bool
      <*> .required "disabled" .bool
      <*> .required "notes" .text
      <*> .required "peer_defaults" PeerDefaults.decoder
      <*> .optional "advanced_security" Obfuscation.decoder)
    "Interface" false

/-- An interface as a table. -/
def toData (i : Interface) : Data :=
  .object [("identifier", .text i.identifier), ("display_name", .text i.displayName),
    ("mode", .text i.mode.name), ("key_pair", i.keyPair.toData),
    ("listen_port", .nat i.listenPort.toNat), ("addresses", .networks i.addresses),
    ("dns", .texts i.dns), ("dns_search", .texts i.dnsSearch), ("mtu", .word i.mtu),
    ("firewall_mark", .word i.firewallMark), ("routing_table", .text i.routingTable),
    ("pre_up", .text i.preUp), ("post_up", .text i.postUp), ("pre_down", .text i.preDown),
    ("post_down", .text i.postDown), ("save_config", .bool i.saveConfig),
    ("disabled", .bool i.disabled), ("notes", .text i.notes),
    ("peer_defaults", i.peerDefaults.toData),
    ("advanced_security", .orNull Obfuscation.toData i.obfuscation)]

end Interface

end TunnelKeeper
