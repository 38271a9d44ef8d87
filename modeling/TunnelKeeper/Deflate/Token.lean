/-!
# Literals and copies

The parts that a deflate stream is made of: single bytes, and copies of bytes that came before.
A copy has a length and a distance, which are written as a symbol for a range of values and as
extra bits for the value within the range.
-/

namespace TunnelKeeper.Deflate

/-- A part of the data. -/
inductive Token
  | literal (byte : UInt8)
  | copy (length distance : Nat)
  deriving DecidableEq, Repr

/-- The end of a block among the symbols. -/
def endOfBlock : Nat := 256

/-- The greatest distance of a copy. -/
def windowSize : Nat := 32768

/-- The least length of a copy. -/
def leastCopy : Nat := 3

/-- The greatest length of a copy. -/
def greatestCopy : Nat := 258

/-- The ranges of lengths from symbol 257 on: the first value and the number of extra bits. -/
def lengthRanges : List (Nat × Nat) :=
  [(3, 0), (4, 0), (5, 0), (6, 0), (7, 0), (8, 0), (9, 0), (10, 0), (11, 1), (13, 1), (15, 1),
    (17, 1), (19, 2), (23, 2), (27, 2), (31, 2), (35, 3), (43, 3), (51, 3), (59, 3), (67, 4),
    (83, 4), (99, 4), (115, 4), (131, 5), (163, 5), (195, 5), (227, 5), (258, 0)]

/-- The ranges of distances: the first value and the number of extra bits. -/
def distanceRanges : List (Nat × Nat) :=
  [(1, 0), (2, 0), (3, 0), (4, 0), (5, 1), (7, 1), (9, 2), (13, 2), (17, 3), (25, 3), (33, 4),
    (49, 4), (65, 5), (97, 5), (129, 6), (193, 6), (257, 7), (385, 7), (513, 8), (769, 8),
    (1025, 9), (1537, 9), (2049, 10), (3073, 10), (4097, 11), (6145, 11), (8193, 12),
    (12289, 12), (16385, 13), (24577, 13)]

/-- The last range that begins at or before a value: its place, its first value and the number of
extra bits. -/
def rangeOf (value : Nat) : Nat → List (Nat × Nat) → Option (Nat × Nat × Nat)
  | _, [] => none
  | place, (first, bits) :: rest =>
    match rangeOf value (place + 1) rest with
    | some found => some found
    | none => if first ≤ value then some (place, first, bits) else none

/-- Appends a copy of bytes that stand at a distance before the end, one after the other, so a
copy may overlap itself. -/
def appendCopy (out : Array UInt8) (distance : Nat) : Nat → Array UInt8
  | 0 => out
  | length + 1 =>
    appendCopy (out.push (out[out.size - distance]?.getD 0)) distance length

/-- Appends what a token stands for, unless it reaches back too far. -/
def Token.append (out : Array UInt8) : Token → Option (Array UInt8)
  | .literal byte => some (out.push byte)
  | .copy length distance =>
    if 0 < distance ∧ distance ≤ out.size then some (appendCopy out distance length) else none

/-- The data that tokens stand for, after what came before. -/
def expand (out : Array UInt8) : List Token → Option (Array UInt8)
  | [] => some out
  | token :: rest =>
    match token.append out with
    | some out => expand out rest
    | none => none

end TunnelKeeper.Deflate
