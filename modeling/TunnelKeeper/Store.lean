import TunnelKeeper.Data.Json.Reader
import TunnelKeeper.Data.Json.Writer
import TunnelKeeper.Error
import TunnelKeeper.Peer
/-!
# The store

Two tables of rows. A row holds its key, the columns that rows are found by, and the whole value as
JSON text; the rows of a table are kept in ascending order of their keys. A peer can only be saved
while its interface is stored, and it goes when its interface goes.
-/

namespace TunnelKeeper

/-- A stored interface. -/
structure InterfaceRow where
  key : InterfaceId
  displayName : String
  data : String
  deriving DecidableEq, Repr

namespace InterfaceRow

/-- The row of an interface. -/
def ofInterface (i : Interface) : InterfaceRow :=
  ⟨i.identifier, i.displayName, Json.write i.toData⟩

/-- The interface of a row, with its block in normal form. -/
def interface (r : InterfaceRow) : Except Error Interface :=
  match Json.decodeText Interface.decoder r.data with
  | .ok i => .ok i.settled
  | .error issue => .error (.serialization issue)

end InterfaceRow

/-- A stored peer. -/
structure PeerRow where
  key : PeerId
  interfaceId : InterfaceId
  owner : UserId
  displayName : String
  data : String
  deriving DecidableEq, Repr

namespace PeerRow

/-- The row of a peer. -/
def ofPeer (p : Peer) : PeerRow :=
  ⟨p.identifier, p.interfaceId, p.owner, p.displayName, Json.write p.toData⟩

/-- The peer of a row. -/
def peer (r : PeerRow) : Except Error Peer :=
  match Json.decodeText Peer.decoder r.data with
  | .ok p => .ok p
  | .error issue => .error (.serialization issue)

end PeerRow

/-- Puts a row into a table in the order of the keys, in place of the row of the same key. -/
def putRow {ρ : Type} (key : ρ → String) (row : ρ) : List ρ → List ρ
  | [] => [row]
  | r :: rest =>
    if key row = key r then row :: rest
    else if key row < key r then row :: r :: rest
    else r :: putRow key row rest

/-- The stored rows. -/
structure Store where
  interfaces : List InterfaceRow
  peers : List PeerRow
  deriving DecidableEq, Repr

namespace Store

/-- No rows. -/
def empty : Store := ⟨[], []⟩

/-- The row of an interface. -/
def interfaceRow? (s : Store) (id : InterfaceId) : Option InterfaceRow :=
  s.interfaces.find? fun r => r.key == id

/-- The row of a peer. -/
def peerRow? (s : Store) (id : PeerId) : Option PeerRow := s.peers.find? fun r => r.key == id

/-- The peer rows of an interface. -/
def peerRowsOf (s : Store) (id : InterfaceId) : List PeerRow :=
  s.peers.filter fun r => r.interfaceId == id

/-- Does nothing for a caller whose token is cancelled. -/
def unlessCancelled {α : Type} (cancelled : Bool) (result : Except Error α) : Except Error α :=
  if cancelled then .error .cancelled else result

/-- The interface of an identifier. -/
def interface (s : Store) (cancelled : Bool) (id : InterfaceId) : Except Error Interface :=
  unlessCancelled cancelled <|
    match s.interfaceRow? id with
    | some r => r.interface
    | none => .error (.missing (.interface id))

/-- The peer of an identifier. -/
def peer (s : Store) (cancelled : Bool) (id : PeerId) : Except Error Peer :=
  unlessCancelled cancelled <|
    match s.peerRow? id with
    | some r => r.peer
    | none => .error (.missing (.peer id))

/-- All interfaces, in the order of their keys. -/
def allInterfaces (s : Store) (cancelled : Bool) : Except Error (List Interface) :=
  unlessCancelled cancelled (s.interfaces.mapM InterfaceRow.interface)

/-- The peers of an interface, in the order of their keys. -/
def peersOf (s : Store) (cancelled : Bool) (id : InterfaceId) : Except Error (List Peer) :=
  unlessCancelled cancelled ((s.peerRowsOf id).mapM PeerRow.peer)

/-- An interface and its peers. They come from two queries, between which others may write, so
each query sees a store of its own. -/
def interfaceAndPeers (first second : Store) (cancelled : Bool) (id : InterfaceId) :
    Except Error (Interface × List Peer) := do
  let i ← first.interface cancelled id
  let ps ← second.peersOf cancelled id
  .ok (i, ps)

/-- Stores a row of an interface. -/
def putInterfaceRow (s : Store) (r : InterfaceRow) : Store :=
  { s with interfaces := putRow InterfaceRow.key r s.interfaces }

/-- Stores a row of a peer. -/
def putPeerRow (s : Store) (r : PeerRow) : Store :=
  { s with peers := putRow PeerRow.key r s.peers }

/-- Removes the peers of an interface. -/
def removePeersOf (s : Store) (id : InterfaceId) : Store :=
  { s with peers := s.peers.filter fun r => r.interfaceId != id }

/-- Removes an interface. -/
def removeInterface (s : Store) (id : InterfaceId) : Store :=
  { s with interfaces := s.interfaces.filter fun r => r.key != id }

/-- Saves an interface, new or not. -/
def saveInterface (s : Store) (cancelled : Bool) (i : Interface) : Except Error Unit × Store :=
  if cancelled then (.error .cancelled, s)
  else (.ok (), s.putInterfaceRow (.ofInterface i))

/-- Saves a peer, new or not, if its interface is stored. -/
def savePeer (s : Store) (cancelled : Bool) (p : Peer) : Except Error Unit × Store :=
  if cancelled then (.error .cancelled, s)
  else
    match s.interfaceRow? p.interfaceId with
    | none => (.error (.missing (.interface p.interfaceId)), s)
    | some _ => (.ok (), s.putPeerRow (.ofPeer p))

/-- Deletes an interface and its peers. The peers are deleted first, and stay deleted if there is
no such interface. -/
def deleteInterface (s : Store) (cancelled : Bool) (id : InterfaceId) :
    Except Error Unit × Store :=
  if cancelled then (.error .cancelled, s)
  else
    let without := (s.removePeersOf id).removeInterface id
    match s.interfaceRow? id with
    | none => (.error (.missing (.interface id)), without)
    | some _ => (.ok (), without)

end Store

end TunnelKeeper
