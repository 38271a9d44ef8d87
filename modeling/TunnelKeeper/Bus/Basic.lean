import TunnelKeeper.Interface
/-!
# The bus

Changes of interfaces are announced on a bus. Whoever subscribes to a topic is told of every later
announcement on it, in the order of the subscriptions. Who is told of an announcement is settled
when it is made: a subscription that is made while it is delivered is too late for it.
-/

namespace TunnelKeeper

/-- What an announcement is about. -/
inductive Topic
  | created
  | updated
  | deleted
  | peersChanged
  deriving DecidableEq, Repr

/-- All topics. -/
def Topic.all : List Topic := [.created, .updated, .deleted, .peersChanged]

/-- An announcement. -/
inductive Event
  | created (i : Interface)
  | updated (i : Interface)
  | deleted (i : Interface)
  | peersChanged (id : InterfaceId)
  deriving DecidableEq

namespace Event

/-- The topic of an announcement. -/
def topic : Event → Topic
  | .created _ => .created
  | .updated _ => .updated
  | .deleted _ => .deleted
  | .peersChanged _ => .peersChanged

/-- The interface that an announcement is about. -/
def interfaceId : Event → InterfaceId
  | .created i => i.identifier
  | .updated i => i.identifier
  | .deleted i => i.identifier
  | .peersChanged id => id

/-- The announcement on a topic for an interface. -/
def ofInterface (t : Topic) (i : Interface) : Event :=
  match t with
  | .created => .created i
  | .updated => .updated i
  | .deleted => .deleted i
  | .peersChanged => .peersChanged i.identifier

end Event

/-- The subscriptions, in the order in which they were made. -/
structure Bus (η : Type) where
  subscriptions : List (Topic × η)
  deriving DecidableEq, Repr

namespace Bus

variable {η : Type}

/-- Nobody has subscribed. -/
def empty : Bus η := ⟨[]⟩

/-- Adds a subscription. -/
def subscribe (b : Bus η) (t : Topic) (handler : η) : Bus η :=
  ⟨b.subscriptions ++ [(t, handler)]⟩

/-- Adds subscriptions to all topics. -/
def subscribeAll (b : Bus η) (handler : η) : Bus η :=
  Topic.all.foldl (fun b t => b.subscribe t handler) b

/-- Who is told of announcements on a topic, once for each subscription. -/
def subscribers (b : Bus η) (t : Topic) : List η :=
  (b.subscriptions.filter fun s => s.1 = t).map Prod.snd

end Bus

end TunnelKeeper
