import TunnelKeeper.Proofs.Deflate.Match

/-!
# Streams read back

What is compressed at any level is read back, whatever follows the stream (`inflate_compress`).
Level zero writes stored blocks, which begin at whole bytes; every other level writes the tokens
of the data in the fixed code.
-/

namespace TunnelKeeper.Deflate

theorem read_get (bits : List Bool) : (get : BitReader (List Bool)) bits = .ok (bits, bits) := rfl

theorem read_bind_error {α β : Type} {x : BitReader α} {f : α → BitReader β} {bits : List Bool}
    {fault : StreamFault} (h : x bits = .error fault) : (x >>= f) bits = .error fault := by
  show (x bits >>= fun p => f p.1 p.2) = _
  rw [h]
  rfl

/-! ## Blocks in the fixed code -/

/-- A tree of more than one symbol reads at least one bit. -/
theorem Tree.decode_nil {tree : Tree} (h : 1 < tree.paths.length) :
    tree.decode [] = .error .incomplete := by
  cases tree with
  | empty => exact absurd h (by decide)
  | leaf s => exact absurd h (Nat.lt_irrefl 1)
  | fork z o => rfl

/-- There is no token in an empty stream. -/
theorem read_token_nil :
    readToken fixedTree fixedDistanceTree [] = .error .incomplete := by
  refine read_bind_error (Tree.decode_nil ?_)
  rw [← List.length_map Prod.fst, fixed_symbols]
  simp only [List.length_append, List.length_range']
  decide

/-- A token takes at least one bit. -/
theorem length_token_bits {token : Token} (h : token.Valid) : 1 ≤ token.bits.length := by
  cases hbits : token.bits with
  | cons b bits => exact Nat.succ_le_succ (Nat.zero_le _)
  | nil =>
      -- A token without bits would be read from an empty stream.
      have hread := read_token_bits h []
      rw [hbits, List.append_nil, read_token_nil] at hread
      exact nomatch hread

theorem length_tokens_bits {ts : List Token} (h : ∀ t ∈ ts, t.Valid) :
    ts.length ≤ (ts.flatMap Token.bits).length := by
  induction ts with
  | nil => exact Nat.le_refl 0
  | cons t ts ih =>
      have hhead := length_token_bits (h t List.mem_cons_self)
      have htail := ih fun u hu => h u (List.mem_cons_of_mem t hu)
      rw [List.flatMap_cons, List.length_append, List.length_cons]
      omega

/-- The tokens of a block are read back together with the data that they stand for. -/
theorem read_tokens_bits {ts : List Token} {out data : Array UInt8} (hvalid : ∀ t ∈ ts, t.Valid)
    (hexpand : expand out ts = some data) {fuel : Nat} (hfuel : ts.length < fuel)
    (rest : List Bool) :
    readTokens fixedTree fixedDistanceTree fuel out
      (ts.flatMap Token.bits ++ (pathOf literalPaths endOfBlock ++ rest)) = .ok (data, rest) := by
  -- The output so far is generalized, since copies refer to it.
  induction ts generalizing out fuel with
  | nil =>
      obtain ⟨fuel, rfl⟩ : ∃ n, fuel = n + 1 := ⟨fuel - 1, by omega⟩
      obtain rfl : out = data := Option.some.inj hexpand
      rw [readTokens, List.flatMap_nil, List.nil_append, read_bind (read_token_end rest)]
      rfl
  | cons t ts ih =>
      obtain ⟨fuel, rfl⟩ : ∃ n, fuel = n + 1 := ⟨fuel - 1, by omega⟩
      rw [List.length_cons] at hfuel
      rw [expand] at hexpand
      rw [readTokens, List.flatMap_cons, List.append_assoc,
        read_bind (read_token_bits (hvalid t List.mem_cons_self) _)]
      simp only
      cases happend : t.append out with
      | none =>
          rw [happend] at hexpand
          cases hexpand
      | some next =>
          rw [happend] at hexpand
          exact ih (fun u hu => hvalid u (List.mem_cons_of_mem t hu)) hexpand
            (Nat.lt_of_succ_lt_succ hfuel)

/-- A block in the fixed code is read back. -/
theorem read_fixed_block {ts : List Token} {data : Array UInt8} (hvalid : ∀ t ∈ ts, t.Valid)
    (hexpand : expand #[] ts = some data) (fuel : Nat) (rest : List Bool) :
    readBlocks (fuel + 1) #[] (fixedBlock ts ++ rest) = .ok (data, rest) := by
  have hkind (bits : List Bool) : readNumber 2 (true :: false :: bits) = .ok (1, bits) := rfl
  have hread : readBlock #[] (true :: false :: (ts.flatMap Token.bits ++
      (pathOf literalPaths endOfBlock ++ rest))) = .ok (data, rest) := by
    rw [readBlock, read_bind (hkind _)]
    show readCoded fixedTree fixedDistanceTree #[] _ = _
    rw [readCoded, read_bind (read_get _)]
    -- The fuel is the number of bits, and every token has at least one.
    refine read_tokens_bits hvalid hexpand ?_ rest
    have hlength := length_tokens_bits hvalid
    rw [List.length_append]
    omega
  rw [readBlocks, fixedBlock, List.cons_append, read_bind (read_bit_cons _ _), List.cons_append,
    List.cons_append, List.append_assoc, read_bind hread]
  rfl

/-! ## Stored blocks -/

/-- Bytes are read back from their bits. -/
theorem read_bytes_to_bits (out : Array UInt8) (bytes : List UInt8) (rest : List Bool) :
    readBytes out bytes.length (toBits bytes ++ rest) = .ok (out ++ bytes.toArray, rest) := by
  induction bytes generalizing out with
  | nil =>
      rw [Array.append_empty]
      rfl
  | cons b bytes ih =>
      rw [List.length_cons, readBytes, to_bits_cons, List.append_assoc,
        read_bind (read_number_number_bits b.toNat_lt _), ih, UInt8.ofNat_toNat,
        Array.push_eq_append, Array.append_assoc, List.append_toArray [b] bytes]
      rfl

/-- Alignment leaves whole bytes behind a few bits. -/
theorem align_append (bits : List Bool) {rest : List Bool} (hfew : bits.length < 8)
    (hrest : rest.length % 8 = 0) :
    align (bits ++ rest) = .ok ((), rest) := by
  have hdrop : (bits ++ rest).length % 8 = bits.length := by
    rw [List.length_append]
    omega
  show Except.ok ((), (bits ++ rest).drop ((bits ++ rest).length % 8)) = _
  rw [hdrop, List.drop_left]

/-- The content of a stored block is read back after the bit that tells whether it is the last. -/
theorem read_stored_block {head : List UInt8} (hlength : head.length ≤ storedLimit)
    (out : Array UInt8) {rest : List Bool} (hrest : rest.length % 8 = 0) :
    readBlock out (numberBits 7 0 ++ (numberBits 16 head.length ++
      (numberBits 16 (65535 - head.length) ++ (toBits head ++ rest)))) =
      .ok (out ++ head.toArray, rest) := by
  simp only [storedLimit] at hlength
  have hkind (bits : List Bool) : readNumber 2 (numberBits 7 0 ++ bits) =
      .ok (0, [false, false, false, false, false] ++ bits) := rfl
  have hwhole : (numberBits 16 head.length ++ (numberBits 16 (65535 - head.length) ++
      (toBits head ++ rest))).length % 8 = 0 := by
    simp only [List.length_append, length_number_bits, length_to_bits]
    omega
  rw [readBlock, read_bind (hkind _)]
  show readStored out _ = _
  rw [readStored, read_bind (align_append _ (by decide) hwhole),
    read_bind (read_number_number_bits (by omega) _),
    read_bind (read_number_number_bits (by omega) _), if_pos (by omega), read_bytes_to_bits]

/-- Stored blocks are whole bytes, and at least as many bits as there are bytes of data. -/
theorem length_stored_blocks (bytes : List UInt8) :
    (storedBlocks bytes).length % 8 = 0 ∧ bytes.length ≤ (storedBlocks bytes).length := by
  induction bytes using storedBlocks.induct with
  | case1 bytes rest hlast =>
      have hempty : bytes.drop storedLimit = [] := by simpa [rest] using hlast
      rw [storedBlocks, if_pos hlast, List.take_of_length_le (List.drop_eq_nil_iff.mp hempty)]
      simp only [List.cons_append, List.length_cons, List.length_append, length_number_bits,
        length_to_bits]
      omega
  | case2 bytes rest hmore ih =>
      have hdrop : (bytes.drop storedLimit).length = bytes.length - storedLimit :=
        List.length_drop
      simp only [rest, hdrop] at ih
      rw [storedBlocks, if_neg hmore]
      simp only [List.cons_append, List.length_cons, List.length_append, length_number_bits,
        length_to_bits, List.length_take]
      omega

/-- Stored blocks are read back. -/
theorem read_stored_blocks (bytes : List UInt8) (out : Array UInt8) {fuel : Nat}
    (hfuel : bytes.length < fuel) {rest : List Bool} (hrest : rest.length % 8 = 0) :
    readBlocks fuel out (storedBlocks bytes ++ rest) = .ok (out ++ bytes.toArray, rest) := by
  induction bytes using storedBlocks.induct generalizing out fuel with
  | case1 bytes after hlast =>
      obtain ⟨fuel, rfl⟩ : ∃ n, fuel = n + 1 := ⟨fuel - 1, by omega⟩
      have hempty : bytes.drop storedLimit = [] := by simpa [after] using hlast
      have hlength := List.drop_eq_nil_iff.mp hempty
      rw [storedBlocks, if_pos hlast, List.take_of_length_le hlength, readBlocks]
      simp only [List.cons_append, List.append_assoc]
      rw [read_bind (read_bit_cons _ _), read_bind (read_stored_block hlength out hrest)]
      rfl
  | case2 bytes after hmore ih =>
      obtain ⟨fuel, rfl⟩ : ∃ n, fuel = n + 1 := ⟨fuel - 1, by omega⟩
      have hpos : 0 < (bytes.drop storedLimit).length :=
        List.length_pos_iff.mpr (by simpa [after] using hmore)
      rw [List.length_drop] at hpos
      -- A block that is not the last one takes bytes away, so one unit of fuel pays for it.
      have hlater : after.length < fuel := by
        simp only [after, List.length_drop, storedLimit] at hpos ⊢
        omega
      have hhead : (bytes.take storedLimit).length ≤ storedLimit := List.length_take_le _ _
      -- The reader aligns within the stream, so what follows a block has to be whole bytes.
      have hwhole : (storedBlocks after ++ rest).length % 8 = 0 := by
        have hblocks := (length_stored_blocks after).1
        rw [List.length_append]
        omega
      rw [storedBlocks, if_neg hmore, readBlocks]
      simp only [List.cons_append, List.append_assoc]
      rw [read_bind (read_bit_cons _ _), read_bind (read_stored_block hhead out hwhole)]
      show readBlocks fuel _ (storedBlocks after ++ rest) = _
      have hdata : bytes.take storedLimit ++ after = bytes := List.take_append_drop _ _
      rw [ih _ hlater, Array.append_assoc, List.append_toArray (bytes.take storedLimit), hdata]

/-! ## Streams -/

/-- Compressed bytes are read back at every level. -/
theorem inflate_compress (level : Nat) (bytes : List UInt8) {rest : List Bool}
    (hwhole : ((compress level bytes).length + rest.length) % 8 = 0) :
    inflate (compress level bytes ++ rest) = .ok (bytes.toArray, rest) := by
  rw [inflate, read_bind (read_get _)]
  unfold compress at hwhole ⊢
  split at hwhole
  · next hlevel =>
      have hblocks := length_stored_blocks bytes
      rw [if_pos hlevel, read_stored_blocks bytes #[] _ (by omega), Array.empty_append]
      rw [List.length_append]
      omega
  · next hlevel =>
      rw [if_neg hlevel]
      exact read_fixed_block (tokens_valid level _) (expand_tokens level _) _ rest

end TunnelKeeper.Deflate
