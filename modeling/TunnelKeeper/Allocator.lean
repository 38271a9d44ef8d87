import TunnelKeeper.Error
/-!
# The allocator

Hands out listen ports and address blocks. Ports count up from a start. Blocks are those of the
size of a start block, in ascending order from the start block on; a block is passed over when it
shares an address with a network that is in use. A search takes the networks in use in ascending
order and goes on behind each one that is in its way, so it meets each of them once; what it finds
is what one finds that tries block after block.
-/

namespace TunnelKeeper

/-- What is handed out next and what is in use. -/
structure Allocator where
  nextPort : Nat
  usedPorts : List Nat
  startV4 : Network
  startV6 : Option Network
  usedNetworks : List Network
  deriving DecidableEq

namespace Allocator

/-- The greatest port. -/
def greatestPort : Nat := 65535

/-- An allocator that begins with a port and with a block of each family that is wanted. -/
def ofStart (port : Nat) (v4 : Network) (v6 : Option Network) :
    Except SettingsFault Allocator :=
  if v4.family ≠ .v4 then .error (.startFamily v4 .v4)
  else
    match v6 with
    | some block =>
      if block.family ≠ .v6 then .error (.startFamily block .v6)
      else .ok ⟨port, [], v4.normalize, some block.normalize, []⟩
    | none => .ok ⟨port, [], v4.normalize, none, []⟩

/-- Takes a port out of what is handed out. -/
def reservePort (a : Allocator) (port : Nat) : Allocator :=
  { a with usedPorts := port :: a.usedPorts }

/-- Takes the blocks of some networks out of what is handed out. -/
def reserveNetworks (a : Allocator) (networks : List Network) : Allocator :=
  { a with usedNetworks := a.usedNetworks ++ networks.map Network.normalize }

/-- The first port from a port on that may be handed out. -/
def freePort? (used : List Nat) (port : Nat) : Option Nat :=
  if port ≤ greatestPort then
    if port = 0 ∨ port ∈ used then freePort? used (port + 1) else some port
  else none
termination_by greatestPort + 1 - port

/-- Hands out a port. -/
def takePort (a : Allocator) : Except SettingsFault Nat × Allocator :=
  match freePort? a.usedPorts a.nextPort with
  | some port =>
    (.ok port, { a with usedPorts := port :: a.usedPorts, nextPort := min (port + 1) greatestPort })
  | none => (.error .noPortLeft, a)

/-- The block that lies some blocks behind a start block, if its family has it. -/
def blockAt (start : Network) (k : Nat) : Option Network :=
  Network.ofParts? start.family (start.first + k * start.size) start.length

/-- The number of the first block that begins behind a network. -/
def indexBehind (start used : Network) : Nat :=
  (used.last + 1 - start.first + (start.size - 1)) / start.size

/-- The number of the first block, from a number on, that shares no address with some networks of
the family, which are given in ascending order of their first addresses. A block that ends before
the first of them is free of all. -/
def freeIndex (start : Network) : Nat → List Network → Nat
  | k, [] => k
  | k, u :: rest =>
    if start.first + (k + 1) * start.size ≤ u.first then k
    else freeIndex start (max k (indexBehind start u)) rest

/-- The first block that shares no address with a network in use. -/
def freeBlock? (used : List Network) (start : Network) : Option Network :=
  let sameFamily := used.filter fun u => u.family = start.family
  blockAt start (freeIndex start 0 (sameFamily.mergeSort fun a b => a.first ≤ b.first))

/-- The first address for a host in a block, as a network. A block of one or two addresses has no
address for the network itself. -/
def firstHost (block : Network) : Network :=
  if h : block.length + 1 < block.family.bits then
    { block with
      address := block.first + 1
      address_lt := by
        have hsize : 2 ≤ block.size := by
          have : 2 ^ 1 ≤ 2 ^ (block.family.bits - block.length) :=
            Nat.pow_le_pow_right (by decide) (by omega)
          simpa [Network.size] using this
        have hdvd : block.size ∣ block.family.size :=
          Nat.pow_dvd_pow 2 (Nat.sub_le _ _)
        obtain ⟨c, hc⟩ := hdvd
        have hlt : block.address / block.size < c := by
          apply Nat.div_lt_of_lt_mul
          rw [← hc]
          exact block.address_lt
        have hle : (block.address / block.size + 1) * block.size ≤ c * block.size :=
          Nat.mul_le_mul_right _ hlt
        rw [hc, Nat.mul_comm block.size c]
        simp only [Network.first]
        rw [Nat.add_mul] at hle
        omega }
  else block.normalize

/-- Hands out a block of a start block's size. -/
def takeBlock (a : Allocator) (start : Network) : Except SettingsFault Network × Allocator :=
  match freeBlock? a.usedNetworks start with
  | some block => (.ok (firstHost block), { a with usedNetworks := a.usedNetworks ++ [block] })
  | none => (.error (.noNetworkLeft start), a)

/-- Hands out a block of each family that is wanted, the short family first. -/
def takeAddresses (a : Allocator) : Except SettingsFault (List Network) × Allocator :=
  match a.takeBlock a.startV4 with
  | (.error fault, a) => (.error fault, a)
  | (.ok v4, a) =>
    match a.startV6 with
    | none => (.ok [v4], a)
    | some start =>
      match a.takeBlock start with
      | (.error fault, a) => (.error fault, a)
      | (.ok v6, a) => (.ok [v4, v6], a)

end Allocator

end TunnelKeeper
