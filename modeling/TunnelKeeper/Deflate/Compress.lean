import TunnelKeeper.Deflate.Huffman
import TunnelKeeper.Deflate.Token
/-!
# Writing deflate streams

Level zero stores the bytes. Every other level writes one block in the fixed code, in which bytes
that came before are copied. Where such bytes stand is found with a table of earlier places; how
many of them are tried depends on the level. A place counts only for the bytes that really agree,
so the table decides about the size of a stream and never about its content.
-/

namespace TunnelKeeper.Deflate

/-- The number of bytes that agree from two places on, at most `limit`. -/
def agreement (x : Array UInt8) (i j : Nat) : Nat → Nat
  | 0 => 0
  | limit + 1 =>
    if j < x.size ∧ x[i]? = x[j]? then agreement x (i + 1) (j + 1) limit + 1 else 0

/-- The longest copy for a place among some earlier places: its length and where it begins. -/
def longestAgreement (x : Array UInt8) (i : Nat) : List Nat → Nat × Nat
  | [] => (0, 0)
  | j :: rest =>
    let best := longestAgreement x i rest
    if j < i ∧ i - j ≤ windowSize then
      let length := agreement x j i greatestCopy
      if best.1 < length then (length, j) else best
    else best

/-- The number of rows of the table of places. -/
def tableSize : Nat := 16384

/-- The row of a place: a mixture of its first three bytes. -/
def row (x : Array UInt8) (i : Nat) : Nat :=
  let byte (k : Nat) : Nat := (x[i + k]?.getD 0).toNat
  ((byte 0 * 251 + byte 1) * 241 + byte 2) % tableSize

/-- The tokens for the bytes from a place on, after those that are made already. -/
def tokensFrom (tries : Nat) (x : Array UInt8) (table : Array (List Nat)) (done : Array Token)
    (i : Nat) : Array Token :=
  if h : i < x.size then
    let r := row x i
    let places := table[r]?.getD []
    let table := table.setIfInBounds r ((i :: places).take tries)
    let best := longestAgreement x i places
    if leastCopy ≤ best.1 then
      tokensFrom tries x table (done.push (.copy best.1 (i - best.2))) (i + max 1 best.1)
    else tokensFrom tries x table (done.push (.literal x[i])) (i + 1)
  else done
termination_by x.size - i

/-- The tokens of some bytes. -/
def tokens (tries : Nat) (x : Array UInt8) : List Token :=
  (tokensFrom tries x (Array.replicate tableSize []) #[] 0).toList

/-- The paths of a code by symbol. -/
def pathTable (tree : Tree) (count : Nat) : Array (List Bool) :=
  ((List.range count).map fun symbol => (tree.paths.lookup symbol).getD []).toArray

/-- The paths of the fixed code of literals and lengths. -/
def literalPaths : Array (List Bool) := pathTable fixedTree 288

/-- The paths of the fixed code of distances. -/
def distancePaths : Array (List Bool) := pathTable fixedDistanceTree 30

/-- The path of a symbol. -/
def pathOf (table : Array (List Bool)) (symbol : Nat) : List Bool := table[symbol]?.getD []

/-- A value as the path of its range and its extra bits. -/
def rangeBits (table : Array (List Bool)) (firstSymbol : Nat) (ranges : List (Nat × Nat))
    (value : Nat) : List Bool :=
  match rangeOf value 0 ranges with
  | some (place, first, extra) =>
    pathOf table (firstSymbol + place) ++ numberBits extra (value - first)
  | none => []

/-- A token in the fixed code. -/
def Token.bits : Token → List Bool
  | .literal byte => pathOf literalPaths byte.toNat
  | .copy length distance =>
    rangeBits literalPaths 257 lengthRanges length ++
      rangeBits distancePaths 0 distanceRanges distance

/-- A last block in the fixed code. -/
def fixedBlock (ts : List Token) : List Bool :=
  true :: true :: false :: (ts.flatMap Token.bits ++ pathOf literalPaths endOfBlock)

/-- The greatest length of a stored block. -/
def storedLimit : Nat := 65535

/-- Bytes as stored blocks, each of which begins with a whole byte for its kind. -/
def storedBlocks (bytes : List UInt8) : List Bool :=
  let head := bytes.take storedLimit
  let rest := bytes.drop storedLimit
  let block (last : Bool) : List Bool :=
    last :: numberBits 7 0 ++ numberBits 16 head.length ++ numberBits 16 (65535 - head.length) ++
      toBits head
  if rest.isEmpty then block true
  else block false ++ storedBlocks rest
termination_by bytes.length
decreasing_by
  rename_i h
  have hne : bytes.drop storedLimit ≠ [] := by simpa [rest] using h
  have := List.length_pos_iff.mpr hne
  simp only [rest, List.length_drop, storedLimit] at *
  omega

/-- The stream of some bytes at a level. -/
def compress (level : Nat) (bytes : List UInt8) : List Bool :=
  if level = 0 then storedBlocks bytes else fixedBlock (tokens level bytes.toArray)

end TunnelKeeper.Deflate
