import TunnelKeeper.Proofs.Allocator

/-!
# Calls of an allocator

What an allocator hands out depends on what it was asked before. A history is the list of the calls
that were made, each with its answer, and the allocator after them. What is reserved or was handed
out is read off the calls and their answers, never off the allocator, so that a statement about a
history says what a caller can see.
-/

namespace TunnelKeeper

namespace Allocator

/-- What an allocator can be asked. -/
inductive Call
  | reservePort (port : Nat)
  | reserveNetworks (networks : List Network)
  | takePort
  | takeAddresses

/-- A call that was made, with its answer. -/
inductive Event
  | portReserved (port : Nat)
  | networksReserved (networks : List Network)
  | portTaken (answer : Except SettingsFault Nat)
  | addressesTaken (answer : Except SettingsFault (List Network))

/-- Makes a call. -/
def call (a : Allocator) : Call → Event × Allocator
  | .reservePort port => (.portReserved port, a.reservePort port)
  | .reserveNetworks networks => (.networksReserved networks, a.reserveNetworks networks)
  | .takePort => (.portTaken a.takePort.1, a.takePort.2)
  | .takeAddresses => (.addressesTaken a.takeAddresses.1, a.takeAddresses.2)

/-- The calls that were made, in their order, and the allocator after them. -/
structure History where
  events : List Event
  allocator : Allocator

namespace History

/-- One more call. -/
def next (h : History) (c : Call) : History :=
  ⟨h.events ++ [(h.allocator.call c).1], (h.allocator.call c).2⟩

/-- The history of some calls of an allocator. -/
def of (a : Allocator) (calls : List Call) : History := calls.foldl next ⟨[], a⟩

end History

end Allocator

end TunnelKeeper
