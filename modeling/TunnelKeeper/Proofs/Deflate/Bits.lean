import Mathlib.Algebra.Order.Ring.Nat
import TunnelKeeper.Deflate.Bits

/-!
# Bits read back

Numbers and bytes are read back from their bits, and packing bits into bytes adds fewer than eight
zeros behind them (`to_bits_pack`). Readers are run step by step with `read_bind`.
-/

namespace TunnelKeeper.Deflate

variable {α β : Type}

/-! ## Readers -/

/-- A reader that succeeds hands its value and the other bits over to the next one. -/
theorem read_bind {x : BitReader α} {f : α → BitReader β} {bits rest : List Bool} {a : α}
    (h : x bits = .ok (a, rest)) : (x >>= f) bits = f a rest := by
  show (x bits >>= fun p => f p.1 p.2) = _
  rw [h]
  rfl

theorem read_pure (a : α) (bits : List Bool) : (pure a : BitReader α) bits = .ok (a, bits) := rfl

theorem read_bit_cons (b : Bool) (rest : List Bool) : readBit (b :: rest) = .ok (b, rest) := rfl

/-! ## Numbers -/

@[simp]
theorem length_number_bits (count n : Nat) : (numberBits count n).length = count := by
  induction count generalizing n with
  | zero => rfl
  | succ count ih => simp [numberBits, ih]

/-- A number is read back from its bits. -/
theorem read_number_number_bits {count n : Nat} (h : n < 2 ^ count) (rest : List Bool) :
    readNumber count (numberBits count n ++ rest) = .ok (n, rest) := by
  induction count generalizing n with
  | zero =>
      obtain rfl : n = 0 := by omega
      rfl
  | succ count ih =>
      have hhalf : n / 2 < 2 ^ count := by
        rw [Nat.pow_succ] at h
        omega
      rw [readNumber, numberBits, List.cons_append, read_bind (read_bit_cons _ _),
        read_bind (ih hhalf), read_pure]
      congr 2
      -- The first bit is the parity, so the number is twice its half and that bit.
      rcases Nat.mod_two_eq_zero_or_one n with hmod | hmod
      · simp only [hmod]
        show 0 + 2 * (n / 2) = n
        omega
      · simp only [hmod]
        show 1 + 2 * (n / 2) = n
        omega

/-- Bits are those of their number, up to zeros behind them. -/
theorem number_bits_of_bits (bits : List Bool) (k : Nat) :
    numberBits (bits.length + k) (ofBits bits) = bits ++ List.replicate k false := by
  induction bits with
  | nil =>
      -- No bits are left, and the value zero is written with `k` zeros.
      induction k with
      | zero => rfl
      | succ k ih => simpa [numberBits, ofBits, List.replicate_succ] using ih
  | cons b bits ih =>
      have hhead : ((b.toNat + 2 * ofBits bits) % 2 == 1) = b := by
        cases b
        · simp
        · simp [Nat.add_mod]
      have htail : (b.toNat + 2 * ofBits bits) / 2 = ofBits bits := by
        have : b.toNat < 2 := Bool.toNat_lt b
        omega
      rw [List.length_cons, Nat.add_right_comm, numberBits, ofBits, hhead, htail, ih]
      rfl

theorem of_bits_lt (bits : List Bool) : ofBits bits < 2 ^ bits.length := by
  induction bits with
  | nil => simp [ofBits]
  | cons b bits ih =>
      have : b.toNat < 2 := Bool.toNat_lt b
      rw [ofBits, List.length_cons, Nat.pow_succ]
      omega

/-! ## Bytes -/

theorem to_bits_cons (b : UInt8) (bytes : List UInt8) :
    toBits (b :: bytes) = numberBits 8 b.toNat ++ toBits bytes := rfl

theorem to_bits_append (x y : List UInt8) : toBits (x ++ y) = toBits x ++ toBits y :=
  List.flatMap_append

@[simp]
theorem length_to_bits (bytes : List UInt8) : (toBits bytes).length = 8 * bytes.length := by
  induction bytes with
  | nil => rfl
  | cons b bytes ih =>
      rw [to_bits_cons, List.length_append, length_number_bits, ih, List.length_cons]
      omega

/-- A byte of up to eight bits holds them, and zeros behind them. -/
theorem number_bits_byte {bits : List Bool} (h : bits.length ≤ 8) :
    numberBits 8 (UInt8.ofNat (ofBits bits)).toNat =
      bits ++ List.replicate (8 - bits.length) false := by
  have hlt : ofBits bits < 256 := by
    have hpow : 2 ^ bits.length ≤ 2 ^ 8 := Nat.pow_le_pow_right (by decide) h
    exact Nat.lt_of_lt_of_le (of_bits_lt bits) hpow
  have hvalue : (UInt8.ofNat (ofBits bits)).toNat = ofBits bits := Nat.mod_eq_of_lt hlt
  rw [hvalue, ← number_bits_of_bits, Nat.add_sub_cancel' h]

/-- The bytes of some bits hold the bits and fewer than eight zeros behind them. -/
theorem to_bits_pack_loop (done : Array UInt8) (bits : List Bool) :
    ∃ bytes k, (packLoop done bits).toList = done.toList ++ bytes ∧ k < 8 ∧
      (bits.length + k) % 8 = 0 ∧ toBits bytes = bits ++ List.replicate k false := by
  induction done, bits using packLoop.induct with
  | case1 done a b c d e f g h rest ih =>
      obtain ⟨bytes, k, hbytes, hk, hlength, hbits⟩ := ih
      refine ⟨UInt8.ofNat (ofBits [a, b, c, d, e, f, g, h]) :: bytes, k, ?_, hk, ?_, ?_⟩
      · rw [packLoop, hbytes, Array.toList_push, List.append_assoc]
        rfl
      · simp only [List.length_cons]
        omega
      · have height : [a, b, c, d, e, f, g, h].length ≤ 8 := Nat.le_refl 8
        rw [to_bits_cons, number_bits_byte height, hbits]
        rfl
  | case2 done => exact ⟨[], 0, by simp [packLoop], by decide, rfl, rfl⟩
  | case3 done few hmany hnil =>
      -- The pattern of eight bits did not match, so there are fewer; only this last byte is short.
      have hlength : few.length < 8 := by
        match few, hmany with
        | a :: b :: c :: d :: e :: f :: g :: h :: rest, hmany =>
            exact (hmany a b c d e f g h rest rfl).elim
        | [], _ | [_], _ | [_, _], _ | [_, _, _], _ | [_, _, _, _], _ | [_, _, _, _, _], _
        | [_, _, _, _, _, _], _ | [_, _, _, _, _, _, _], _ => simp
      have hpos : 0 < few.length := List.length_pos_iff.mpr hnil
      refine ⟨[UInt8.ofNat (ofBits few)], 8 - few.length, ?_, by omega, by omega, ?_⟩
      · rw [packLoop.eq_def]
        split
        · exact (hmany _ _ _ _ _ _ _ _ _ rfl).elim
        · exact absurd rfl hnil
        · simp
      · rw [to_bits_cons, number_bits_byte (Nat.le_of_lt hlength)]
        exact List.append_nil _

/-- Packed bits are read back, and fewer than eight zeros after them. -/
theorem to_bits_pack (bits : List Bool) : ∃ k, k < 8 ∧ (bits.length + k) % 8 = 0 ∧
    toBits (pack bits) = bits ++ List.replicate k false := by
  obtain ⟨bytes, k, hbytes, hk, hlength, hbits⟩ := to_bits_pack_loop #[] bits
  refine ⟨k, hk, hlength, ?_⟩
  rw [pack, hbytes, ← hbits]
  rfl

end TunnelKeeper.Deflate
