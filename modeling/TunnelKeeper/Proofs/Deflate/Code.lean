import TunnelKeeper.Deflate.Compress
import TunnelKeeper.Deflate.Inflate
import TunnelKeeper.Proofs.Deflate.Bits

/-!
# Tokens read back

The path of a symbol in a tree leads to the symbol (`Tree.decode_path`), and every value of a
row of ranges lies in the range that is found for it (`range_of_spec`). So a token is read back
from its bits in the fixed code, whatever follows them (`read_token_bits`).
-/

namespace TunnelKeeper.Deflate

/-! ## Trees -/

/-- A path of a tree leads to its symbol. -/
theorem Tree.decode_path {tree : Tree} {symbol : Nat} {path : List Bool}
    (h : (symbol, path) ∈ tree.paths) (rest : List Bool) :
    tree.decode (path ++ rest) = .ok (symbol, rest) := by
  induction tree generalizing path with
  | empty => simp [paths] at h
  | leaf s =>
      obtain ⟨rfl, rfl⟩ : symbol = s ∧ path = [] := by simpa [paths] using h
      rfl
  | fork z o hz ho =>
      simp only [paths, List.mem_append, List.mem_map] at h
      rcases h with ⟨⟨s, later⟩, hmem, heq⟩ | ⟨⟨s, later⟩, hmem, heq⟩
      · obtain ⟨rfl, rfl⟩ := Prod.mk.inj heq
        rw [Tree.decode, List.cons_append, read_bind (read_bit_cons _ _)]
        exact hz hmem
      · obtain ⟨rfl, rfl⟩ := Prod.mk.inj heq
        rw [Tree.decode, List.cons_append, read_bind (read_bit_cons _ _)]
        exact ho hmem

/-- A symbol of a tree is found with one of its paths. -/
theorem lookup_path {l : List (Nat × List Bool)} {symbol : Nat} (h : symbol ∈ l.map Prod.fst) :
    ∃ path, l.lookup symbol = some path ∧ (symbol, path) ∈ l := by
  induction l with
  | nil => simp at h
  | cons e l ih =>
      obtain ⟨s, path⟩ := e
      by_cases heq : symbol = s
      · exact ⟨path, by simp [heq], by simp [heq]⟩
      · have hmem : symbol ∈ l.map Prod.fst := by simpa [heq] using h
        obtain ⟨found, hfound, hin⟩ := ih hmem
        exact ⟨found, by simp [List.lookup_cons, beq_eq_false_iff_ne.mpr heq, hfound],
          List.mem_cons_of_mem _ hin⟩

/-- The path of a symbol in a table leads to the symbol. -/
theorem decode_path_of {tree : Tree} {count symbol : Nat} (hcount : symbol < count)
    (h : symbol ∈ tree.paths.map Prod.fst) (rest : List Bool) :
    tree.decode (pathOf (pathTable tree count) symbol ++ rest) = .ok (symbol, rest) := by
  obtain ⟨path, hlookup, hmem⟩ := lookup_path h
  have hpath : pathOf (pathTable tree count) symbol = path := by
    simp [pathOf, pathTable, hcount, hlookup]
  rw [hpath]
  exact Tree.decode_path hmem rest

/-- The symbols of the fixed code, from the shortest paths to the longest. -/
theorem fixed_symbols : fixedTree.paths.map Prod.fst =
    List.range' 256 24 ++ List.range' 0 144 ++ List.range' 280 8 ++ List.range' 144 112 := by
  decide +kernel

theorem fixed_distances : fixedDistanceTree.paths.map Prod.fst = List.range' 0 32 := by
  decide +kernel

/-- Every symbol of the fixed code is read back. -/
theorem decode_literal_path {symbol : Nat} (h : symbol < 288) (rest : List Bool) :
    fixedTree.decode (pathOf literalPaths symbol ++ rest) = .ok (symbol, rest) := by
  refine decode_path_of h ?_ rest
  -- The four rows of symbols, in the order of their paths, are all numbers below 288.
  rw [fixed_symbols]
  simp only [List.mem_append, List.mem_range'_1]
  omega

/-- Every distance symbol of the fixed code is read back. -/
theorem decode_distance_path {symbol : Nat} (h : symbol < 30) (rest : List Bool) :
    fixedDistanceTree.decode (pathOf distancePaths symbol ++ rest) = .ok (symbol, rest) := by
  refine decode_path_of h ?_ rest
  rw [fixed_distances, List.mem_range'_1]
  omega

/-! ## Ranges -/

/-- Whether each range reaches up to the next one, and the last one up to a limit. -/
def covers (limit : Nat) : List (Nat × Nat) → Bool
  | [] => true
  | [(first, extra)] => limit ≤ first + 2 ^ extra
  | (first, extra) :: (next, bits) :: rest =>
    first ≤ next && next ≤ first + 2 ^ extra && covers limit ((next, bits) :: rest)

/-- No range that begins behind a value is found for it. -/
theorem range_of_eq_none {limit value first extra : Nat} {rest : List (Nat × Nat)}
    (hcovers : covers limit ((first, extra) :: rest)) (hlt : value < first) (place : Nat) :
    rangeOf value place ((first, extra) :: rest) = none := by
  induction rest generalizing first extra place with
  | nil => simp [rangeOf, Nat.not_le.mpr hlt]
  | cons r rest ih =>
      obtain ⟨next, bits⟩ := r
      simp only [covers, Bool.and_eq_true, decide_eq_true_eq] at hcovers
      have hnone := ih hcovers.2 (Nat.lt_of_lt_of_le hlt hcovers.1.1) (place + 1)
      rw [rangeOf, hnone]
      simp [Nat.not_le.mpr hlt]

/-- A value lies in the range that is found for it. -/
theorem range_of_spec {limit value first extra : Nat} {rest : List (Nat × Nat)}
    (hcovers : covers limit ((first, extra) :: rest)) (hfirst : first ≤ value)
    (hlimit : value < limit) (place : Nat) :
    ∃ k start bits, rangeOf value place ((first, extra) :: rest) = some (place + k, start, bits) ∧
      ((first, extra) :: rest)[k]? = some (start, bits) ∧ start ≤ value ∧
      value - start < 2 ^ bits := by
  induction rest generalizing first extra place with
  | nil =>
      have hreach : limit ≤ first + 2 ^ extra := by simpa [covers] using hcovers
      exact ⟨0, first, extra, by simp [rangeOf, hfirst], rfl, hfirst, by omega⟩
  | cons r rest ih =>
      obtain ⟨next, bits⟩ := r
      simp only [covers, Bool.and_eq_true, decide_eq_true_eq] at hcovers
      obtain ⟨⟨-, hreach⟩, hrest⟩ := hcovers
      -- The last range that begins at the value or before it is taken, so the later ones are asked
      -- first.
      by_cases hnext : next ≤ value
      · obtain ⟨k, start, found, hfound, hget, hstart, hlt⟩ := ih hrest hnext (place + 1)
        refine ⟨k + 1, start, found, ?_, by simpa using hget, hstart, hlt⟩
        rw [rangeOf, hfound]
        simp only [Option.some.injEq, Prod.mk.injEq, and_true]
        omega
      · have hnone := range_of_eq_none hrest (Nat.not_le.mp hnext) (place + 1)
        refine ⟨0, first, extra, ?_, rfl, hfirst, by omega⟩
        rw [rangeOf, hnone]
        simp [hfirst]

/-- A value is read back from its place among the ranges and its extra bits. -/
theorem read_range_number_bits {ranges : List (Nat × Nat)} {place start bits value : Nat}
    (hget : ranges[place]? = some (start, bits)) (hstart : start ≤ value)
    (hlt : value - start < 2 ^ bits) (rest : List Bool) :
    readRange ranges place (numberBits bits (value - start) ++ rest) = .ok (value, rest) := by
  unfold readRange
  rw [hget]
  simp only
  rw [read_bind (read_number_number_bits hlt rest), read_pure, Nat.add_sub_cancel' hstart]

/-! ## Tokens -/

/-- A token that has bits: its length and distance are within the bounds of the format. -/
def Token.Valid : Token → Prop
  | .literal _ => True
  | .copy length distance =>
    leastCopy ≤ length ∧ length ≤ greatestCopy ∧ 1 ≤ distance ∧ distance ≤ windowSize

/-- The bits of a value that ranges cover: the path of its range and the value's place in it. -/
theorem range_bits {paths : Array (List Bool)} {base limit value first extra : Nat}
    {rest : List (Nat × Nat)} (hcovers : covers limit ((first, extra) :: rest))
    (hfirst : first ≤ value) (hlimit : value < limit) :
    ∃ k start bits, rangeBits paths base ((first, extra) :: rest) value =
        pathOf paths (base + k) ++ numberBits bits (value - start) ∧
      ((first, extra) :: rest)[k]? = some (start, bits) ∧
      k < ((first, extra) :: rest).length ∧ start ≤ value ∧ value - start < 2 ^ bits := by
  obtain ⟨k, start, bits, hrange, hget, hstart, hlt⟩ := range_of_spec hcovers hfirst hlimit 0
  rw [Nat.zero_add] at hrange
  refine ⟨k, start, bits, ?_, hget, (List.getElem?_eq_some_iff.mp hget).1, hstart, hlt⟩
  unfold rangeBits
  rw [hrange]

/-- The bits of a length that a copy may have. -/
theorem length_bits {length : Nat} (hleast : leastCopy ≤ length)
    (hgreatest : length ≤ greatestCopy) :
    ∃ k start bits, rangeBits literalPaths 257 lengthRanges length =
        pathOf literalPaths (257 + k) ++ numberBits bits (length - start) ∧
      lengthRanges[k]? = some (start, bits) ∧ k < 29 ∧ start ≤ length ∧
      length - start < 2 ^ bits :=
  range_bits (show covers 259 lengthRanges by decide) hleast (Nat.lt_succ_of_le hgreatest)

/-- The bits of a distance that a copy may have. -/
theorem distance_bits {distance : Nat} (hpos : 1 ≤ distance) (hwindow : distance ≤ windowSize) :
    ∃ k start bits, rangeBits distancePaths 0 distanceRanges distance =
        pathOf distancePaths (0 + k) ++ numberBits bits (distance - start) ∧
      distanceRanges[k]? = some (start, bits) ∧ k < 30 ∧ start ≤ distance ∧
      distance - start < 2 ^ bits :=
  range_bits (show covers 32769 distanceRanges by decide) hpos (Nat.lt_succ_of_le hwindow)

/-- A token is read back from its bits. -/
theorem read_token_bits {token : Token} (h : token.Valid) (rest : List Bool) :
    readToken fixedTree fixedDistanceTree (token.bits ++ rest) = .ok (some token, rest) := by
  unfold readToken
  cases token with
  | literal byte =>
      have hlt := byte.toNat_lt
      rw [Token.bits, read_bind (decode_literal_path (by omega) rest),
        if_pos (show byte.toNat < endOfBlock from hlt), UInt8.ofNat_toNat]
      rfl
  | copy length distance =>
      obtain ⟨hleast, hgreatest, hpos, hwindow⟩ := h
      obtain ⟨k, start, bits, hbits, hget, hk, hstart, hlt⟩ := length_bits hleast hgreatest
      obtain ⟨k', start', bits', hbits', hget', hk', hstart', hlt'⟩ := distance_bits hpos hwindow
      -- The symbols of lengths start right behind the one that ends a block.
      have hsymbol : ¬ 257 + k < endOfBlock ∧ ¬ 257 + k = endOfBlock := by
        simp only [endOfBlock]
        omega
      rw [Token.bits, hbits, hbits', Nat.zero_add]
      simp only [List.append_assoc]
      rw [read_bind (decode_literal_path (by omega) _), if_neg hsymbol.1, if_neg hsymbol.2,
        Nat.add_sub_cancel_left, read_bind (read_range_number_bits hget hstart hlt _),
        read_bind (decode_distance_path hk' _),
        read_bind (read_range_number_bits hget' hstart' hlt' _)]
      rfl

/-- The end of a block is read back. -/
theorem read_token_end (rest : List Bool) :
    readToken fixedTree fixedDistanceTree (pathOf literalPaths endOfBlock ++ rest) =
      .ok (none, rest) := by
  unfold readToken
  rw [read_bind (decode_literal_path (show endOfBlock < 288 by decide) rest)]
  rfl

end TunnelKeeper.Deflate
