import TunnelKeeper.Deflate.Huffman
import TunnelKeeper.Deflate.Token
/-!
# Reading deflate streams

A stream is a sequence of blocks: stored bytes, tokens in the fixed code, or tokens in a code that
the block describes. Reading either gives the data and what follows the last block, or tells
whether the stream is wrong or ends too soon.
-/

namespace TunnelKeeper.Deflate

/-- Reads some bytes from a stream that stands at the beginning of a byte. -/
def readBytes (out : Array UInt8) : Nat → BitReader (Array UInt8)
  | 0 => pure out
  | count + 1 => do
    let n ← readNumber 8
    readBytes (out.push (UInt8.ofNat n)) count

/-- Reads a stored block: its length, the complement of it, and the bytes. -/
def readStored (out : Array UInt8) : BitReader (Array UInt8) := do
  align
  let length ← readNumber 16
  let complement ← readNumber 16
  if length + complement = 65535 then readBytes out length else throw .corrupt

/-- Reads the extra bits of the range at a place. -/
def readRange (ranges : List (Nat × Nat)) (place : Nat) : BitReader Nat := do
  match ranges[place]? with
  | none => throw .corrupt
  | some (first, extra) =>
    let n ← readNumber extra
    pure (first + n)

/-- Reads a token, or nothing at the end of a block. -/
def readToken (literals distances : Tree) : BitReader (Option Token) := do
  let symbol ← literals.decode
  if symbol < endOfBlock then pure (some (.literal (UInt8.ofNat symbol)))
  else if symbol = endOfBlock then pure none
  else
    let length ← readRange lengthRanges (symbol - 257)
    let place ← distances.decode
    let distance ← readRange distanceRanges place
    pure (some (.copy length distance))

/-- Reads tokens up to the end of a block; there are at most `fuel` of them. -/
def readTokens (literals distances : Tree) : Nat → Array UInt8 → BitReader (Array UInt8)
  | 0, _ => throw .incomplete
  | fuel + 1, out => do
    match ← readToken literals distances with
    | none => pure out
    | some token =>
      match token.append out with
      | some out => readTokens literals distances fuel out
      | none => throw .corrupt

/-- The order in which the lengths of the code for lengths are given. -/
def lengthOrder : List Nat :=
  [16, 17, 18, 0, 8, 7, 9, 6, 10, 5, 11, 4, 12, 3, 13, 2, 14, 1, 15]

/-- Reads some numbers of three bits each. -/
def readTriples : Nat → BitReader (List Nat)
  | 0 => pure []
  | count + 1 => do
    let n ← readNumber 3
    let rest ← readTriples count
    pure (n :: rest)

/-- The length that a symbol repeats, the least number of repetitions, and the number of bits that
tell how many more there are. -/
def repetition (previous : Option Nat) (symbol : Nat) : Option Nat × Nat × Nat :=
  if symbol = 16 then (previous, 3, 2)
  else if symbol = 17 then (some 0, 3, 3)
  else (some 0, 11, 7)

/-- Reads code lengths until there are `count`, after those that are read already, in reverse.
Three symbols repeat a length. -/
def readLengths (tree : Tree) (count : Nat) : Nat → List Nat → BitReader (List Nat)
  | 0, _ => throw .incomplete
  | fuel + 1, done => do
    if done.length = count then pure done.reverse
    else if count < done.length then throw .corrupt
    else
      let symbol ← tree.decode
      if symbol < 16 then readLengths tree count fuel (symbol :: done)
      else
        match repetition done.head? symbol with
        | (none, _, _) => throw .corrupt
        | (some length, least, extra) =>
          let n ← readNumber extra
          readLengths tree count fuel (List.replicate (least + n) length ++ done)

/-- Reads the description of a block's two codes. -/
def readCodes : BitReader (Tree × Tree) := do
  let literalCount := (← readNumber 5) + 257
  let distanceCount := (← readNumber 5) + 1
  let lengthCount := (← readNumber 4) + 4
  if 286 < literalCount ∨ 30 < distanceCount then throw .corrupt
  let triples ← readTriples lengthCount
  let given := lengthOrder.zip triples
  let lengthTree ← describedTree false
    ((List.range 19).map fun symbol => (given.lookup symbol).getD 0)
  let count := literalCount + distanceCount
  let lengths ← readLengths lengthTree count (count + 1) []
  let literals ← describedTree true (lengths.take literalCount)
  let distances ← describedTree true (lengths.drop literalCount)
  pure (literals, distances)

/-- Reads the tokens of a block; each takes at least one bit. -/
def readCoded (literals distances : Tree) (out : Array UInt8) : BitReader (Array UInt8) := do
  let bits ← get
  readTokens literals distances (bits.length + 1) out

/-- Reads a block after the bit that tells whether it is the last one. -/
def readBlock (out : Array UInt8) : BitReader (Array UInt8) := do
  let kind ← readNumber 2
  match kind with
  | 0 => readStored out
  | 1 => readCoded fixedTree fixedDistanceTree out
  | 2 =>
    let (literals, distances) ← readCodes
    readCoded literals distances out
  | _ => throw .corrupt

/-- Reads blocks up to the last one; there are at most `fuel` of them. -/
def readBlocks : Nat → Array UInt8 → BitReader (Array UInt8)
  | 0, _ => throw .incomplete
  | fuel + 1, out => do
    let last ← readBit
    let out ← readBlock out
    if last then pure out else readBlocks fuel out

/-- Reads the data of a stream; each block takes at least one bit. -/
def inflate : BitReader (Array UInt8) := do
  let bits ← get
  readBlocks (bits.length + 1) #[]

end TunnelKeeper.Deflate
