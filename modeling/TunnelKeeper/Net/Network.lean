import TunnelKeeper.Net.Address
import TunnelKeeper.Text.Blank
import TunnelKeeper.Text.Split
/-!
# Networks

An address together with the length of its network part. The address may have host bits; the
block of a network are all addresses with the same network part. Two networks of a family are
either disjoint or one holds the other.
-/

namespace TunnelKeeper

open Number Net

/-- An address and how many of its leading bits name the network. -/
structure Network where
  family : Family
  address : Nat
  length : Nat
  address_lt : address < family.size
  length_le : length ≤ family.bits

namespace Network

instance : DecidableEq Network := fun a b =>
  if h : a.family = b.family ∧ a.address = b.address ∧ a.length = b.length then
    .isTrue (by cases a; cases b; simp_all)
  else .isFalse (by intro e; subst e; simp at h)

/-- The network of these parts, if they are in range. -/
def ofParts? (family : Family) (address length : Nat) : Option Network :=
  if h : address < family.size ∧ length ≤ family.bits then
    some ⟨family, address, length, h.1, h.2⟩
  else none

/-- The number of addresses in the block. -/
def size (n : Network) : Nat := Nat.pow 2 (n.family.bits - n.length)

/-- The first address of the block. -/
def first (n : Network) : Nat := n.address / n.size * n.size

/-- The last address of the block. -/
def last (n : Network) : Nat := n.first + (n.size - 1)

theorem first_le_address (n : Network) : n.first ≤ n.address := Nat.div_mul_le_self _ _

/-- The same block, named by its first address. -/
def normalize (n : Network) : Network :=
  { n with
    address := n.first
    address_lt := Nat.lt_of_le_of_lt n.first_le_address n.address_lt }

/-- Whether an address of the family lies in the block. -/
def contains (n : Network) (address : Nat) : Bool := n.first ≤ address && address ≤ n.last

/-- Whether two blocks share an address. -/
def overlaps (a b : Network) : Bool :=
  a.family = b.family && (a.contains b.first || b.contains a.first)

/-- The text of a network. -/
def chars (n : Network) : List Char :=
  addressChars n.family n.address ++ '/' :: decimalChars n.length

/-- The text of a network. -/
def text (n : Network) : String := String.ofList n.chars

/-- The text of the address alone. -/
def addressText (n : Network) : String := String.ofList (addressChars n.family n.address)

/-- The length of a mask whose set bits all stand in front. -/
def maskLength (mask : Nat) : Option Nat :=
  (List.range 33).find? fun length => mask == 0x100000000 - Nat.pow 2 (32 - length)

/-- Reads the part after the slash: the length or, for the short family, the mask. -/
def parseLength (family : Family) (s : List Char) : Option Nat :=
  match family, parseAddress .v4 s with
  | .v4, some mask => maskLength mask
  | _, _ => (decimalBelow? 256 s).filter (· ≤ family.bits)

/-- The network of a family that a whole text stands for; without a slash it is one address. -/
def parseFamily (family : Family) (s : List Char) : Option Network :=
  match Text.splitOn '/' s with
  | [address] => do
    let address ← parseAddress family address
    ofParts? family address family.bits
  | [address, length] => do
    let address ← parseAddress family address
    let length ← parseLength family length
    ofParts? family address length
  | _ => none

/-- Why a text is not a network. -/
inductive Reason
  | invalid (text : String)
  deriving DecidableEq, Repr

/-- The wording of a reason. -/
def Reason.message : Reason → String
  | .invalid text => "invalid address: " ++ text

/-- The network that a whole text stands for. -/
def parse (s : String) : Except Reason Network :=
  match (parseFamily .v4 s.toList).or (parseFamily .v6 s.toList) with
  | some n => .ok n
  | none => .error (.invalid s)

/-- Networks as one text, separated by commas. -/
def join (ns : List Network) : String := ",".intercalate (ns.map text)

end Network

/-- Why an entry of a list of networks is refused. -/
inductive BlockFault
  | blank
  | unreadable (raw : String) (reason : Network.Reason)
  deriving DecidableEq, Repr

/-- The wording of a refused entry. -/
def BlockFault.message : BlockFault → String
  | .blank => "CIDR must not be empty"
  | .unreadable raw reason => "invalid CIDR " ++ Text.quoted raw ++ ": " ++ reason.message

/-- Reads an entry: a network with blank margins. -/
def Network.parseEntry (raw : String) : Except BlockFault Network :=
  let value := Text.trim raw
  if value = "" then .error .blank
  else (Network.parse value).mapError (.unreadable raw)

end TunnelKeeper
