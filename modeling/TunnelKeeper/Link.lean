import TunnelKeeper.Data.Json.Reader
import TunnelKeeper.Data.Json.Writer
import TunnelKeeper.Error
import TunnelKeeper.Net.Endpoint
import TunnelKeeper.Net.Listing
import TunnelKeeper.Peer
/-!
# Import links

A link carries everything a client needs to use a peer of an obfuscated interface: a JSON document
in a frame, as text behind a scheme. The document holds a second one as text, which repeats the
obfuscation parameters. All numbers but one port are given as texts, and parameters that are
absent are left out, apart from the headers, which are blank then.
-/

namespace TunnelKeeper

open Text Number

namespace Link

/-- What every link starts with. -/
def scheme : String := "vpn://"

/-- The name of the only container. -/
def containerName : String := "amnezia-awg"

/-- The transport of every link. -/
def transport : String := "udp"

/-- The MTU of a peer that sets none. -/
def usualMtu : Nat := 1280

/-- The seconds between signs of life of a peer that sets none. -/
def usualKeepalive : Nat := 25

/-- An entry for a text that may be absent. -/
def presentEntry (name : String) (value : Option String) : List (String × Data) :=
  Obfuscation.givenEntry name .text value

/-- The obfuscation parameters as a client expects them. -/
def parameters (o : Obfuscation) : List (String × Data) :=
  let header (raw : Option String) : Data := .text ((Obfuscation.presentText raw).getD "")
  let number (n : UInt16) : String := decimal n.toNat
  [("H1", header o.initHeader), ("H2", header o.responseHeader),
    ("H3", header o.underloadHeader), ("H4", header o.transportHeader),
    ("Jc", .text (number o.junkCount)), ("Jmax", .text (number o.junkMax)),
    ("Jmin", .text (number o.junkMin)), ("S1", .text (number o.initJunk)),
    ("S2", .text (number o.responseJunk))] ++
  presentEntry "S3" (o.cookieJunk?.map number) ++
  presentEntry "S4" (o.transportJunk?.map number) ++
  presentEntry "I1" (Obfuscation.presentText o.firstPacket) ++
  presentEntry "I2" (Obfuscation.presentText o.secondPacket) ++
  presentEntry "I3" (Obfuscation.presentText o.thirdPacket) ++
  presentEntry "I4" (Obfuscation.presentText o.fourthPacket) ++
  presentEntry "I5" (Obfuscation.presentText o.fifthPacket)

/-- A number, or what stands for zero. -/
def orUsual (n : UInt32) (usual : Nat) : String := decimal (if n = 0 then usual else n.toNat)

/-- The public key of the client: it follows from the private key if that is one. -/
def clientPublicKey (p : Peer) : String :=
  (KeyPair.publicKey? p.client.keyPair.privateKey).getD p.client.keyPair.publicKey

/-- The client's address without the length of its network, if it has one. -/
def clientAddress (p : Peer) : String :=
  match p.client.addresses with
  | address :: _ => address.addressText
  | [] => ""

/-- The inner document. -/
def innerDocument (p : Peer) (o : Obfuscation) (config : String) : Data :=
  let endpoint := Endpoint.parse p.endpoint.value
  let publicKey := clientPublicKey p
  .object <| parameters o ++
    [("allowed_ips", .texts (Listing.entriesOr p.allowedIps.value Listing.everywhere)),
      ("clientId", .text publicKey),
      ("client_ip", .text (clientAddress p)),
      ("client_priv_key", .text p.client.keyPair.privateKey),
      ("client_pub_key", .text publicKey),
      ("config", .text config),
      ("hostName", .text endpoint.host),
      ("mtu", .text (orUsual p.client.mtu.value usualMtu)),
      ("persistent_keep_alive", .text (orUsual p.persistentKeepalive.value usualKeepalive)),
      ("port", .nat endpoint.port.toNat),
      ("psk_key", .text (trim p.presharedKey)),
      ("server_pub_key", .text (trim p.serverPublicKey.value))]

/-- The outer document. -/
def document (p : Peer) (o : Obfuscation) (description config : String) : Data :=
  let endpoint := Endpoint.parse p.endpoint.value
  let (dns1, dns2) := Listing.resolvers p.client.dns.value
  .object
    [("containers", .list
        [.object
          [("awg", .object <| parameters o ++
              [("last_config", .text (Json.write (innerDocument p o config))),
                ("port", .text (decimal endpoint.port.toNat)),
                ("transport_proto", .text transport)]),
            ("container", .text containerName)]]),
      ("defaultContainer", .text containerName),
      ("description", .text description),
      ("dns1", .text dns1),
      ("dns2", .text dns2),
      ("hostName", .text endpoint.host)]

/-- A document as a link. -/
def ofDocument (document : Data) (level : Nat) : Except Error String := do
  let frame ← (Frame.encode (encodeUtf8 (Json.writeValue document)) level).mapError
    fun fault => .framing (.frame fault)
  .ok (scheme ++ Base64.encode .urlSafe frame)

/-- The link of a peer of an obfuscated interface. -/
def build (peer : Option Peer) (i : Interface) (description config : String) (level : Nat) :
    Except Error String :=
  match peer with
  | none => .error (.precondition .peer)
  | some p =>
    if p.interfaceId ≠ i.identifier then
      .error (.precondition (.sameInterface p.identifier i.identifier))
    else
      match Interface.presentBlock i.obfuscation with
      | none => .error (.precondition (.obfuscation i.identifier))
      | some o => ofDocument (document p o description config) level

/-- The bytes of the document in a link, without blank margins. -/
def payload (link : String) : Except Error (List UInt8) := do
  match stripLeading scheme (trim link) with
  | none => .error (.precondition .linkScheme)
  | some encoded =>
    let frame ← (Base64.decode .urlSafe (encodeUtf8 encoded.toList)).mapError
      fun reason => .framing (.encoding reason)
    (Frame.decode frame).mapError fun fault => .framing (.frame fault)

/-- The document in a link. -/
def decode (link : String) : Except Error Data := do
  let bytes ← payload link
  (Json.readBytes bytes).mapError fun fault => .serialization (.damaged fault)

end Link

end TunnelKeeper
