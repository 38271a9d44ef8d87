import TunnelKeeper.Bus.Basic
import TunnelKeeper.Caller
import TunnelKeeper.Files.Storage
import TunnelKeeper.Notice
import TunnelKeeper.Settings.Basic
import TunnelKeeper.Store
/-!
# The world of an operation

What an operation works with. Some of it stays as it is: the settings, the renderer of
configurations, new keys, and who listens on the bus. The rest is changed by the operation: the
stored rows, the files, and the records of what was done.
-/

namespace TunnelKeeper

/-- The styles of a client configuration. -/
inductive ConfigStyle
  | wgQuick
  | raw
  deriving DecidableEq, Repr

/-- The calls that an operation makes to what surrounds it. -/
inductive Call
  | interfaceAndPeers
  | interface
  | peer
  | interfaces
  | saveInterface (id : InterfaceId)
  | savePeer
  | deleteInterface
  | renderInterface
  | renderPeer
  | writeFile
  | deleteFile
  | encodeQr
  deriving DecidableEq, Repr

/-- Whether a token may be cancelled when a call returns. Drawing a code takes no time. -/
def Call.takesTime : Call → Bool
  | .encodeQr => false
  | _ => true

/-- When the token of a request is cancelled: never, or once a number of calls have returned. It
stays cancelled. -/
inductive Token
  | lasting
  | cancelledAfter (calls : Nat)
  deriving DecidableEq, Repr

/-- Whether a token is cancelled after some calls. -/
def Token.isCancelled (t : Token) (made : List Call) : Bool :=
  match t with
  | .lasting => false
  | .cancelledAfter calls => calls ≤ (made.filter Call.takesTime).length

/-- Who asks for an operation, and for how long. -/
structure Request where
  caller : Caller
  token : Token
  deriving DecidableEq, Repr

/-- The request of start-up tasks and event handlers. -/
def Request.system : Request := ⟨.system, .lasting⟩

/-- Who listens on the bus. -/
inductive Listener
  | fileKeeper
  deriving DecidableEq, Repr

/-- What stays as it is. A fault is given for the calls that fail instead of doing something, by
the number of calls before it. -/
structure Services (σ : Type) where
  settings : Settings
  newKeys : Nat → KeyPair
  renderInterface : Interface → List Peer → String
  renderPeer : ConfigStyle → Peer → String
  encodeQr : String → List UInt8
  storage : Storage σ
  bus : Bus Listener
  fault? : Nat → Call → Option Error

/-- What is changed. The latest call stands first, the latest announcement and the latest notice
stand last. -/
structure World (σ : Type) where
  store : Store
  files : σ
  calls : List Call
  announcements : List Event
  notices : List Notice

end TunnelKeeper
