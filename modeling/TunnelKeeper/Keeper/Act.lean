import TunnelKeeper.Keeper.World
/-!
# Acts

An act is a part of an operation: it changes the world, and then it has a result or fails. What
was changed before a failure stays changed. Calls are counted, whether they fail or not.
-/

namespace TunnelKeeper

/-- A part of an operation. -/
def Act (σ α : Type) : Type := Services σ → World σ → Except Error α × World σ

namespace Act

variable {σ α β : Type}

/-- Does nothing. -/
def done (a : α) : Act σ α := fun _ w => (.ok a, w)

/-- Goes on with the result of an act. -/
def andThen (x : Act σ α) (f : α → Act σ β) : Act σ β := fun s w =>
  match x s w with
  | (.ok a, w) => f a s w
  | (.error e, w) => (.error e, w)

instance : Monad (Act σ) where
  pure := done
  bind := andThen

/-- Fails if a result is an error. -/
def lift (r : Except Error α) : Act σ α := fun _ w => (r, w)

/-- Has the failure of an act as a result. -/
def attempt (x : Act σ α) : Act σ (Except Error α) := fun s w =>
  let (r, w) := x s w
  (.ok r, w)

/-- An act with a context around its failure. -/
def within (doing : String) (x : Act σ α) : Act σ α := fun s w =>
  let (r, w) := x s w
  (r.mapError (.context doing), w)

/-- What the settings say. -/
def settings : Act σ Settings := fun s w => (.ok s.settings, w)

/-- Writes a notice. -/
def notice (n : Notice) : Act σ Unit := fun _ w =>
  (.ok (), { w with notices := w.notices ++ [n] })

/-- Whether the token of a request is cancelled. -/
def isCancelled (r : Request) (w : World σ) : Bool := r.token.isCancelled w.calls

/-- Fails if the token of a request is cancelled. -/
def checkpoint (r : Request) : Act σ Unit := fun _ w =>
  (if isCancelled r w then .error .cancelled else .ok (), w)

/-- Makes a call, given what it does unless it fails beforehand. -/
def call (c : Call) (run : Services σ → World σ → Except Error α × World σ) : Act σ α :=
  fun s w =>
    let (r, after) : Except Error α × World σ :=
      match s.fault? w.calls.length c with
      | some e => (.error e, w)
      | none => run s w
    (r, { after with calls := c :: after.calls })

/-- Reads from the store. -/
def query (c : Call) (r : Request) (read : Store → Bool → Except Error α) : Act σ α :=
  call c fun _ w => (read w.store (isCancelled r w), w)

/-- Writes to the store. -/
def change (c : Call) (r : Request) (write : Store → Bool → Except Error Unit × Store) :
    Act σ Unit :=
  call c fun _ w =>
    let (r, store) := write w.store (isCancelled r w)
    (r, { w with store := store })

/-- An interface and its peers. -/
def interfaceAndPeers (r : Request) (id : InterfaceId) : Act σ (Interface × List Peer) :=
  query .interfaceAndPeers r fun store cancelled => store.interfaceAndPeers store cancelled id

/-- The interface of an identifier. -/
def interface (r : Request) (id : InterfaceId) : Act σ Interface :=
  query .interface r fun store cancelled => store.interface cancelled id

/-- The peer of an identifier. -/
def peer (r : Request) (id : PeerId) : Act σ Peer :=
  query .peer r fun store cancelled => store.peer cancelled id

/-- All interfaces. -/
def interfaces (r : Request) : Act σ (List Interface) := query .interfaces r Store.allInterfaces

/-- Saves an interface. -/
def saveInterface (r : Request) (i : Interface) : Act σ Unit :=
  change (.saveInterface i.identifier) r fun store cancelled => store.saveInterface cancelled i

/-- Saves a peer. -/
def savePeer (r : Request) (p : Peer) : Act σ Unit :=
  change .savePeer r fun store cancelled => store.savePeer cancelled p

/-- Deletes an interface and its peers. -/
def deleteInterface (r : Request) (id : InterfaceId) : Act σ Unit :=
  change .deleteInterface r fun store cancelled => store.deleteInterface cancelled id

/-- Renders the configuration of an interface. -/
def renderInterface (i : Interface) (peers : List Peer) : Act σ String :=
  call .renderInterface fun s w => (.ok (s.renderInterface i peers), w)

/-- Renders the configuration of a peer. -/
def renderPeer (style : ConfigStyle) (p : Peer) : Act σ String :=
  call .renderPeer fun s w => (.ok (s.renderPeer style p), w)

/-- Draws a text as a code. -/
def encodeQr (payload : String) : Act σ (List UInt8) :=
  call .encodeQr fun s w => (.ok (s.encodeQr payload), w)

/-- Writes a file. -/
def writeFile (path : String) (content : List UInt8) : Act σ Unit :=
  call .writeFile fun s w =>
    let (r, files) := s.storage.write path content w.files
    (r, { w with files := files })

/-- Removes a file. -/
def deleteFile (path : String) : Act σ Unit :=
  call .deleteFile fun s w =>
    let (r, files) := s.storage.delete path w.files
    (r, { w with files := files })

end Act

end TunnelKeeper
