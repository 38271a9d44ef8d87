import TunnelKeeper.Deflate.Compress
import TunnelKeeper.Deflate.Inflate
import TunnelKeeper.Number.Numeral
/-!
# Frames

Compressed bytes behind the length of the data: four bytes, the highest first, and a zlib
stream with its two-byte header and the checksum of the data. Bytes after the checksum do not
belong to the frame.
-/

namespace TunnelKeeper

open Deflate Number

namespace Zlib

/-- The modulus of the checksum. -/
def checksumBase : Nat := 65521

/-- One step of the checksum: the sum of the bytes and the sum of those sums. -/
def checksumStep (sums : Nat × Nat) (b : UInt8) : Nat × Nat :=
  let low := (sums.1 + b.toNat) % checksumBase
  (low, (sums.2 + low) % checksumBase)

/-- The Adler-32 checksum. -/
def checksum (bytes : List UInt8) : Nat :=
  let sums := bytes.foldl checksumStep (1, 0)
  sums.2 * 65536 + sums.1

/-- A number in four bytes, the highest first. -/
def fourBytes (n : Nat) : List UInt8 :=
  [UInt8.ofNat (n / 16777216), UInt8.ofNat (n / 65536), UInt8.ofNat (n / 256), UInt8.ofNat n]

/-- How a level is told in the header. -/
def levelClass (level : Nat) : Nat :=
  if level < 2 then 0 else if level < 6 then 1 else if level = 6 then 2 else 3

/-- The header: deflate with the greatest window, the class of the level, and a remainder that
makes it a multiple of 31. -/
def header (level : Nat) : List UInt8 :=
  let n := 0x78 * 256 + levelClass level * 64
  [0x78, UInt8.ofNat (n + (31 - n % 31))]

/-- The stream of some bytes. -/
def compress (level : Nat) (bytes : List UInt8) : List UInt8 :=
  header level ++ pack (Deflate.compress level bytes) ++ fourBytes (checksum bytes)

/-- Whether two header bytes announce a stream that can be read without a dictionary. -/
def acceptsHeader (first second : Nat) : Bool :=
  (first * 256 + second) % 31 = 0 && first % 16 = 8 && first / 16 ≤ 7 && second / 32 % 2 = 0

/-- Reads four bytes as a number, the highest first. -/
def readFour : BitReader Nat := do
  let a ← readNumber 8
  let b ← readNumber 8
  let c ← readNumber 8
  let d ← readNumber 8
  pure (((a * 256 + b) * 256 + c) * 256 + d)

/-- Reads a stream: its header, the data and their checksum. -/
def readStream : BitReader (Array UInt8) := do
  let first ← readNumber 8
  let second ← readNumber 8
  if !acceptsHeader first second then throw .corrupt
  let data ← inflate
  align
  let sum ← readFour
  if sum = checksum data.toList then pure data else throw .corrupt

/-- The data of a stream. -/
def decompress (stream : List UInt8) : Except StreamFault (List UInt8) :=
  match readStream (toBits stream) with
  | .ok (data, _) => .ok data.toList
  | .error fault => .error fault

end Zlib

/-- Why bytes are not a frame, or cannot become one. -/
inductive FrameFault
  | tooLong (length : Nat)
  | headerMissing
  | lengthMismatch (announced found : Nat)
  | stream (fault : StreamFault)
  deriving DecidableEq, Repr

/-- The wording of a fault. -/
def FrameFault.message : FrameFault → String
  | .tooLong n => "payload of " ++ decimal n ++ " bytes does not fit the length header"
  | .headerMissing => "missing length header"
  | .lengthMismatch announced found =>
    "length header says " ++ decimal announced ++ " bytes, stream holds " ++ decimal found
  | .stream fault => fault.message

namespace Frame

/-- The greatest level. -/
def greatestLevel : Nat := 9

/-- The frame of some bytes. -/
def encode (bytes : List UInt8) (level : Nat) : Except FrameFault (List UInt8) :=
  if bytes.length < 0x100000000 then
    .ok (Zlib.fourBytes bytes.length ++ Zlib.compress (min level greatestLevel) bytes)
  else .error (.tooLong bytes.length)

/-- The bytes of a frame. -/
def decode (frame : List UInt8) : Except FrameFault (List UInt8) :=
  match frame with
  | a :: b :: c :: d :: stream => do
    let announced := ((a.toNat * 256 + b.toNat) * 256 + c.toNat) * 256 + d.toNat
    let data ← (Zlib.decompress stream).mapError .stream
    if data.length = announced then .ok data
    else .error (.lengthMismatch announced data.length)
  | _ => .error .headerMissing

end Frame

end TunnelKeeper
