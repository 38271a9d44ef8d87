import TunnelKeeper.Deflate.Bits
/-!
# Huffman codes

A code as a tree whose leaves are symbols. The code of a list of lengths is the canonical one:
shorter codes come first, and codes of one length are consecutive numbers in the order of their
symbols.
-/

namespace TunnelKeeper.Deflate

/-- A code: each bit chooses a branch until a symbol is reached. -/
inductive Tree
  | empty
  | leaf (symbol : Nat)
  | fork (zero one : Tree)
  deriving Repr

namespace Tree

/-- Adds a symbol at the end of a path. -/
def insert (symbol : Nat) : List Bool → Tree → Tree
  | [], _ => .leaf symbol
  | false :: path, .fork z o => .fork (insert symbol path z) o
  | true :: path, .fork z o => .fork z (insert symbol path o)
  | false :: path, _ => .fork (insert symbol path .empty) .empty
  | true :: path, _ => .fork .empty (insert symbol path .empty)

/-- Reads a symbol. -/
def decode : Tree → BitReader Nat
  | .empty => throw .corrupt
  | .leaf symbol => pure symbol
  | .fork z o => do if ← readBit then o.decode else z.decode

/-- The paths of a tree with their symbols. -/
def paths : Tree → List (Nat × List Bool)
  | .empty => []
  | .leaf symbol => [(symbol, [])]
  | .fork z o =>
    z.paths.map (fun (s, path) => (s, false :: path)) ++
      o.paths.map (fun (s, path) => (s, true :: path))

end Tree

/-- The greatest length of a code. -/
def longestCode : Nat := 15

/-- A number as a path, the highest bit first. -/
def codePath (length code : Nat) : List Bool := (numberBits length code).reverse

/-- Gives codes to the symbols of one length, beginning with a symbol and a code. -/
def assign (length : Nat) : Nat → Nat → List Nat → Tree → Tree × Nat
  | _, code, [], tree => (tree, code)
  | symbol, code, l :: rest, tree =>
    if l = length then
      assign length (symbol + 1) (code + 1) rest (tree.insert symbol (codePath length code))
    else assign length (symbol + 1) code rest tree

/-- The canonical code, length by length. -/
def assignAll (lengths : List Nat) : List Nat → Nat → Tree → Tree
  | [], _, tree => tree
  | length :: rest, code, tree =>
    let (tree, code) := assign length 0 (2 * code) lengths tree
    assignAll lengths rest code tree

/-- The tree of the canonical code of some lengths, where zero means that a symbol has no code. -/
def canonicalTree (lengths : List Nat) : Tree :=
  assignAll lengths ((List.range longestCode).map (· + 1)) 0 .empty

/-- The share of all bit strings that the codes of some lengths use up, in units of the longest
code. -/
def usage (lengths : List Nat) : Nat :=
  (lengths.filter (· ≠ 0)).foldl (fun n l => n + Nat.pow 2 (longestCode - l)) 0

/-- The tree of a code that a stream describes. It has to use up all bit strings; a code of at
most one symbol need not where `lone` holds. -/
def describedTree (lone : Bool) (lengths : List Nat) : Except StreamFault Tree :=
  if usage lengths = Nat.pow 2 longestCode then .ok (canonicalTree lengths)
  else if lone ∧ (lengths.filter (· ≠ 0)).length ≤ 1 then .ok (canonicalTree lengths)
  else .error .corrupt

/-- The lengths of the fixed code of literals and lengths. -/
def fixedLengths : List Nat :=
  List.replicate 144 8 ++ List.replicate 112 9 ++ List.replicate 24 7 ++ List.replicate 8 8

/-- The fixed code of literals and lengths. -/
def fixedTree : Tree := canonicalTree fixedLengths

/-- The fixed code of distances. -/
def fixedDistanceTree : Tree := canonicalTree (List.replicate 32 5)

end TunnelKeeper.Deflate
