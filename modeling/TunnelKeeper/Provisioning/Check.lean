import TunnelKeeper.Provisioning.Entry
/-!
# Checking provisioning entries

Entries are checked in their order, and the first objection stops the check. An entry is judged on
its own, apart from its identifier, which no entry before it may have.
-/

namespace TunnelKeeper

namespace Entry

/-- The first entry of a list of networks that cannot be read. -/
def blockObjection? (field : String) : Nat → List String → Option Objection
  | _, [] => none
  | i, raw :: rest =>
    match Network.parseEntry raw with
    | .ok _ => blockObjection? field (i + 1) rest
    | .error fault => some ⟨field ++ "[" ++ Number.decimal i ++ "]", .network fault⟩

/-- An objection to the identifier, given its place and the identifiers before it. -/
def identifierObjection? (place : Nat) (seen : List String) (e : Entry) : Option Objection :=
  if e.id = "" then
    some ⟨"provisioning.interfaces[" ++ Number.decimal place ++ "].identifier", .identifierBlank⟩
  else if e.id ∈ seen then
    some ⟨"provisioning.interfaces.identifier", .identifierRepeated e.id⟩
  else none

/-- An objection to the mode. -/
def modeObjection? (e : Entry) : Option Objection :=
  if (Mode.parse? e.mode).isNone then some ⟨e.field ++ ".mode", .modeUnknown e.mode⟩ else none

/-- An objection to the private key; a blank one stands for a new key. -/
def keyObjection? (e : Entry) : Option Objection :=
  if Text.trim e.privateKey ≠ "" ∧ (KeyPair.publicKey? e.privateKey).isNone then
    some ⟨e.field ++ ".private_key", .privateKeyInvalid⟩
  else none

/-- An objection to the lists of networks. -/
def networksObjection? (e : Entry) : Option Objection :=
  (blockObjection? (e.field ++ ".addresses") 0 e.addresses).or <|
    (blockObjection? (e.field ++ ".peer_def_allowed_ips") 0 e.peerAllowedIps).or
      (blockObjection? (e.field ++ ".peer_def_network") 0 e.peerNetwork)

/-- An objection to the obfuscation block. -/
def obfuscationObjection? (e : Entry) : Option Objection :=
  e.obfuscation.bind fun o => o.objection? (e.field ++ ".advanced_security")

/-- The first objection to an entry, given its place and the identifiers before it. -/
def objection? (place : Nat) (seen : List String) (e : Entry) : Option Objection :=
  (e.identifierObjection? place seen).or <| e.modeObjection?.or <| e.keyObjection?.or <|
    e.networksObjection?.or e.obfuscationObjection?

/-- What looks like a mistake in an entry. -/
def warnings (e : Entry) : List Warning :=
  (match e.obfuscation with
    | some o => o.warnings (e.field ++ ".advanced_security")
    | none => []) ++
  (if e.dns ≠ [] ∧ e.peerDns = [] then [⟨e.field ++ ".dns", .resolversNotInherited⟩] else []) ++
  (if e.mtu ≠ 0 ∧ e.peerMtu = 0 then [⟨e.field ++ ".mtu", .mtuNotInherited e.mtu⟩] else [])

/-- Checks entries from a place on, given the identifiers before it. -/
def checkFrom : Nat → List String → List Entry → Except Objection (List Warning)
  | _, _, [] => .ok []
  | place, seen, e :: rest =>
    match e.objection? place seen with
    | some objection => .error objection
    | none =>
      match checkFrom (place + 1) (e.id :: seen) rest with
      | .ok later => .ok (e.warnings ++ later)
      | .error objection => .error objection

/-- Checks a list of entries; the answer for an accepted list is what looks like a mistake. -/
def check (entries : List Entry) : Except Objection (List Warning) := checkFrom 0 [] entries

end Entry

end TunnelKeeper
