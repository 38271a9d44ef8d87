/-!
# Bit streams

Bytes as streams of bits, the lowest bit of a byte first, and readers that take bits from the
front of a stream.
-/

namespace TunnelKeeper.Deflate

/-- Why a stream cannot be read. -/
inductive StreamFault
  | corrupt
  | incomplete
  deriving DecidableEq, Repr

/-- The wording of a fault. -/
def StreamFault.message : StreamFault → String
  | .corrupt => "corrupt deflate stream"
  | .incomplete => "incomplete deflate stream"

/-- A reader takes bits from the front of a stream and returns a value and the rest, or fails. -/
abbrev BitReader (α : Type) := StateT (List Bool) (Except StreamFault) α

/-- The lowest bits of a number, the lowest first. -/
def numberBits : Nat → Nat → List Bool
  | 0, _ => []
  | count + 1, n => (n % 2 == 1) :: numberBits count (n / 2)

/-- The bits of some bytes. -/
def toBits (bytes : List UInt8) : List Bool := bytes.flatMap fun b => numberBits 8 b.toNat

/-- The number of some bits, the lowest first. -/
def ofBits : List Bool → Nat
  | [] => 0
  | b :: rest => b.toNat + 2 * ofBits rest

/-- The bytes of some bits after those that are packed already; a last incomplete byte is filled
up with zeros. -/
def packLoop (done : Array UInt8) : List Bool → Array UInt8
  | a :: b :: c :: d :: e :: f :: g :: h :: rest =>
    packLoop (done.push (UInt8.ofNat (ofBits [a, b, c, d, e, f, g, h]))) rest
  | [] => done
  | few => done.push (UInt8.ofNat (ofBits few))

/-- The bytes of some bits. -/
def pack (bits : List Bool) : List UInt8 := (packLoop #[] bits).toList

/-- Reads one bit. -/
def readBit : BitReader Bool := fun bits =>
  match bits with
  | [] => .error .incomplete
  | b :: rest => .ok (b, rest)

/-- Reads a number of some bits. -/
def readNumber : Nat → BitReader Nat
  | 0 => pure 0
  | count + 1 => do
    let b ← readBit
    let n ← readNumber count
    pure (b.toNat + 2 * n)

/-- Goes on to the next byte. -/
def align : BitReader Unit := modify fun bits => bits.drop (bits.length % 8)

end TunnelKeeper.Deflate
