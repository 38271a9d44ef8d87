import TunnelKeeper.Text.Utf8

/-!
# UTF-8 undone and in order

Bytes give a text exactly if they are the bytes of the text (`of_utf8_eq_some_iff`), and texts in
the order of their characters have bytes in the order of bytes (`encode_utf8_lt`). Both follow from
the bytes of one character, which are written as numbers first (`codeBytes`).
-/

namespace TunnelKeeper.Text

/-! ## One character -/

/-- The bytes of a code point as numbers. -/
def codeBytes (n : Nat) : List Nat :=
  if n < 0x80 then [n]
  else if n < 0x800 then [0xC0 + n / 64, 0x80 + n % 64]
  else if n < 0x10000 then [0xE0 + n / 4096, 0x80 + n / 64 % 64, 0x80 + n % 64]
  else [0xF0 + n / 262144, 0x80 + n / 4096 % 64, 0x80 + n / 64 % 64, 0x80 + n % 64]

theorem char_to_nat_lt (c : Char) : c.toNat < 0x110000 := by
  have hvalid : c.toNat.isValidChar := c.valid
  rcases hvalid with hlow | ⟨-, hhigh⟩
  · omega
  · exact hhigh

/-- The bytes of a character are those of its code point. -/
theorem utf8_encode_char_eq (c : Char) :
    String.utf8EncodeChar c = (codeBytes c.toNat).map UInt8.ofNat := by
  have hlt : c.val.toNat < 0x110000 := char_to_nat_lt c
  show String.utf8EncodeChar c = (codeBytes c.val.toNat).map UInt8.ofNat
  unfold String.utf8EncodeChar codeBytes
  generalize c.val.toNat = n at hlt
  by_cases h1 : n < 0x80
  · simp [h1, show n ≤ 0x7F by omega]
  · have h1' : ¬ n ≤ 0x7F := by omega
    by_cases h2 : n < 0x800
    · simp [h1, h1', h2, show n ≤ 0x7FF by omega, show n / 64 % 32 = n / 64 by omega,
        Nat.add_comm]
    · have h2' : ¬ n ≤ 0x7FF := by omega
      by_cases h3 : n < 0x10000
      · simp [h1, h1', h2, h2', h3, show n ≤ 0xFFFF by omega,
          show n / 4096 % 16 = n / 4096 by omega, Nat.add_comm]
      · simp [h1, h1', h2, h2', h3, show ¬ n ≤ 0xFFFF by omega,
          show n / 262144 % 8 = n / 262144 by omega, Nat.add_comm]

/-- The bytes of a code point fit bytes. -/
theorem code_bytes_lt {n : Nat} (h : n < 0x110000) : ∀ b ∈ codeBytes n, b < 256 := by
  unfold codeBytes
  intro b hb
  split at hb
  · simp at hb
    omega
  · split at hb
    · simp at hb
      omega
    · split at hb
      · simp at hb
        omega
      · simp at hb
        omega

theorem byte_to_nat {n : Nat} (h : n < 256) : (UInt8.ofNat n).toNat = n := Nat.mod_eq_of_lt h

/-- A continuation byte gives its six bits. -/
theorem continuation_of_nat {n : Nat} (h : n < 64) :
    continuation (UInt8.ofNat (0x80 + n)) = some n := by
  have hvalue : (UInt8.ofNat (0x80 + n)).toNat = 0x80 + n := byte_to_nat (by omega)
  rw [continuation, hvalue, if_pos (by omega), Nat.add_sub_cancel_left]

/-- A byte that gives six bits is the continuation byte that carries them. -/
theorem continuation_eq_some {b : UInt8} {n : Nat} (h : continuation b = some n) :
    n < 64 ∧ b = UInt8.ofNat (0x80 + n) := by
  obtain ⟨hb, hn⟩ := Option.ite_none_right_eq_some.mp h
  obtain rfl := Option.some.inj hn
  rw [Nat.add_sub_cancel' hb.1, UInt8.ofNat_toNat]
  exact ⟨by omega, rfl⟩

theorem char_of_nat_to_nat {n : Nat} (h : n.isValidChar) : (Char.ofNat n).toNat = n := by
  rw [Char.ofNat, dif_pos h]
  rfl

/-- The code point of a character stands for it. -/
theorem well_formed_self {least n : Nat} {c : Char} (hleast : least ≤ n) (hn : n = c.toNat) :
    wellFormed least n = some c := by
  subst hn
  have hvalid : c.toNat.isValidChar := c.valid
  rw [wellFormed, if_pos ⟨hleast, hvalid⟩, Char.ofNat_toNat]

/-- The character that a code point stands for has this code point. -/
theorem well_formed_eq_some {least n : Nat} {c : Char} (h : wellFormed least n = some c) :
    least ≤ n ∧ c.toNat = n := by
  obtain ⟨⟨hleast, hvalid⟩, hc⟩ := Option.ite_none_right_eq_some.mp h
  obtain rfl := Option.some.inj hc
  exact ⟨hleast, char_of_nat_to_nat hvalid⟩

/-- The bytes of a character give the character back. -/
theorem decode_char_encode (c : Char) (rest : List UInt8) :
    decodeChar (String.utf8EncodeChar c ++ rest) = some (c, rest) := by
  have hlt := char_to_nat_lt c
  rw [utf8_encode_char_eq]
  generalize hn : c.toNat = n at hlt
  have hmod : ∀ k : Nat, k % 64 < 64 := fun k => Nat.mod_lt k (by decide)
  -- The first byte tells how many follow, so there is a case for each number of bytes.
  unfold codeBytes
  split
  · next h1 =>
      have hhead : (UInt8.ofNat n).toNat = n := byte_to_nat (by omega)
      simp only [List.map_cons, List.map_nil, List.cons_append, List.nil_append, decodeChar, hhead,
        h1, if_true]
      rw [← hn, Char.ofNat_toNat]
  · split
    · next h2 =>
        have hhead : (UInt8.ofNat (0xC0 + n / 64)).toNat = 0xC0 + n / 64 := byte_to_nat (by omega)
        simp only [List.map_cons, List.map_nil, List.cons_append, List.nil_append, decodeChar,
          hhead, continuation_of_nat (hmod _), Option.bind_eq_bind, Option.bind_some]
        rw [if_neg (by omega), if_neg (by omega), if_pos (by omega),
          well_formed_self (by omega) (by omega : _ = c.toNat), Option.bind_some]
    · split
      · next h3 =>
          have hhead : (UInt8.ofNat (0xE0 + n / 4096)).toNat = 0xE0 + n / 4096 :=
            byte_to_nat (by omega)
          simp only [List.map_cons, List.map_nil, List.cons_append, List.nil_append, decodeChar,
            hhead, continuation_of_nat (hmod _), Option.bind_eq_bind, Option.bind_some]
          rw [if_neg (by omega), if_neg (by omega), if_neg (by omega), if_pos (by omega),
            well_formed_self (by omega) (by omega : _ = c.toNat), Option.bind_some]
      · have hhead : (UInt8.ofNat (0xF0 + n / 262144)).toNat = 0xF0 + n / 262144 :=
          byte_to_nat (by omega)
        simp only [List.map_cons, List.map_nil, List.cons_append, List.nil_append, decodeChar,
          hhead, continuation_of_nat (hmod _), Option.bind_eq_bind, Option.bind_some]
        rw [if_neg (by omega), if_neg (by omega), if_neg (by omega), if_neg (by omega),
          if_pos (by omega), well_formed_self (by omega) (by omega : _ = c.toNat),
          Option.bind_some]

/-! The same bytes from the parts of a code point, as they are put together when it is read. -/

theorem code_bytes_two {a b : Nat} (ha : a < 32) (hb : b < 64) (h : 0x80 ≤ a * 0x40 + b) :
    codeBytes (a * 0x40 + b) = [0xC0 + a, 0x80 + b] := by
  rw [codeBytes, if_neg (by omega), if_pos (by omega)]
  simp only [List.cons.injEq, and_true]
  omega

theorem code_bytes_three {a b c : Nat} (ha : a < 16) (hb : b < 64) (hc : c < 64)
    (h : 0x800 ≤ (a * 0x40 + b) * 0x40 + c) :
    codeBytes ((a * 0x40 + b) * 0x40 + c) = [0xE0 + a, 0x80 + b, 0x80 + c] := by
  rw [codeBytes, if_neg (by omega), if_neg (by omega), if_pos (by omega)]
  simp only [List.cons.injEq, and_true]
  omega

theorem code_bytes_four {a b c d : Nat} (hb : b < 64) (hc : c < 64) (hd : d < 64)
    (h : 0x10000 ≤ ((a * 0x40 + b) * 0x40 + c) * 0x40 + d) :
    codeBytes (((a * 0x40 + b) * 0x40 + c) * 0x40 + d) =
      [0xF0 + a, 0x80 + b, 0x80 + c, 0x80 + d] := by
  rw [codeBytes, if_neg (by omega), if_neg (by omega), if_neg (by omega)]
  simp only [List.cons.injEq, and_true]
  omega

/-- A character that was read stands for its bytes. -/
theorem eq_of_decode_char {bytes rest : List UInt8} {c : Char}
    (h : decodeChar bytes = some (c, rest)) : bytes = String.utf8EncodeChar c ++ rest := by
  rw [utf8_encode_char_eq]
  cases bytes with
  | nil => cases h
  | cons a tail =>
      have ha : a = UInt8.ofNat a.toNat := UInt8.ofNat_toNat.symm
      -- The first byte told how many to read, so there is a case for each number of bytes.
      simp only [decodeChar, Option.bind_eq_bind] at h
      generalize a.toNat = n at ha h
      subst ha
      split at h
      · next h1 =>
          obtain ⟨rfl, rfl⟩ := Prod.mk.inj (Option.some.inj h)
          rw [char_of_nat_to_nat (.inl (by omega)), codeBytes, if_pos h1]
          rfl
      · split at h
        · cases h
        · split at h
          · split at h
            · simp only [Option.bind_eq_some_iff] at h
              obtain ⟨k₁, hk₁, c, hc, hrest⟩ := h
              obtain ⟨rfl, rfl⟩ := Prod.mk.inj (Option.some.inj hrest)
              obtain ⟨hlt₁, rfl⟩ := continuation_eq_some hk₁
              obtain ⟨hleast, hvalue⟩ := well_formed_eq_some hc
              rw [hvalue, code_bytes_two (by omega) hlt₁ hleast, Nat.add_sub_cancel' (by omega)]
              rfl
            · cases h
          · split at h
            · split at h
              · simp only [Option.bind_eq_some_iff] at h
                obtain ⟨k₁, hk₁, k₂, hk₂, c, hc, hrest⟩ := h
                obtain ⟨rfl, rfl⟩ := Prod.mk.inj (Option.some.inj hrest)
                obtain ⟨hlt₁, rfl⟩ := continuation_eq_some hk₁
                obtain ⟨hlt₂, rfl⟩ := continuation_eq_some hk₂
                obtain ⟨hleast, hvalue⟩ := well_formed_eq_some hc
                rw [hvalue, code_bytes_three (by omega) hlt₁ hlt₂ hleast,
                  Nat.add_sub_cancel' (by omega)]
                rfl
              · cases h
            · split at h
              · split at h
                · simp only [Option.bind_eq_some_iff] at h
                  obtain ⟨k₁, hk₁, k₂, hk₂, k₃, hk₃, c, hc, hrest⟩ := h
                  obtain ⟨rfl, rfl⟩ := Prod.mk.inj (Option.some.inj hrest)
                  obtain ⟨hlt₁, rfl⟩ := continuation_eq_some hk₁
                  obtain ⟨hlt₂, rfl⟩ := continuation_eq_some hk₂
                  obtain ⟨hlt₃, rfl⟩ := continuation_eq_some hk₃
                  obtain ⟨hleast, hvalue⟩ := well_formed_eq_some hc
                  rw [hvalue, code_bytes_four hlt₁ hlt₂ hlt₃ hleast,
                    Nat.add_sub_cancel' (by omega)]
                  rfl
                · cases h
              · cases h

/-! ## Whole texts -/

theorem encode_utf8_cons (c : Char) (s : List Char) :
    encodeUtf8 (c :: s) = String.utf8EncodeChar c ++ encodeUtf8 s := rfl

theorem length_le_length_encode_utf8 (s : List Char) : s.length ≤ (encodeUtf8 s).length := by
  induction s with
  | nil => exact Nat.le_refl _
  | cons c s ih =>
      have hpos : 0 < (String.utf8EncodeChar c).length :=
        List.length_pos_iff.mpr String.utf8EncodeChar_ne_nil
      rw [encode_utf8_cons, List.length_append, List.length_cons]
      omega

/-- The loop takes the characters off one by one. -/
theorem decode_loop_encode (s done : List Char) {fuel : Nat} (hfuel : s.length ≤ fuel) :
    decodeLoop fuel done (encodeUtf8 s) = (done.reverse ++ s, []) := by
  induction s generalizing done fuel with
  | nil => cases fuel <;> simp [decodeLoop, encodeUtf8, decodeChar]
  | cons c s ih =>
      -- Every character has a byte, so the number of bytes is fuel enough.
      obtain ⟨fuel, rfl⟩ : ∃ k, fuel = k + 1 := ⟨fuel - 1, by simp at hfuel; omega⟩
      rw [encode_utf8_cons, decodeLoop, decode_char_encode]
      simp only
      rw [ih (c :: done) (by simpa using hfuel)]
      simp

/-- The bytes of a text are all well formed and give its characters. -/
theorem decode_utf8_encode_utf8 (s : List Char) : decodeUtf8 (encodeUtf8 s) = (s, []) :=
  decode_loop_encode s [] (length_le_length_encode_utf8 s)

/-- The characters that are taken off stand for their bytes. -/
theorem eq_of_decode_loop {fuel : Nat} {done s : List Char} {bytes : List UInt8}
    (h : decodeLoop fuel done bytes = (s, [])) :
    encodeUtf8 s = encodeUtf8 done.reverse ++ bytes := by
  induction fuel generalizing done bytes with
  | zero =>
      obtain ⟨rfl, rfl⟩ := Prod.mk.inj h
      rw [List.append_nil]
  | succ fuel ih =>
      rw [decodeLoop] at h
      split at h
      · next c rest hchar =>
          rw [ih h, eq_of_decode_char hchar]
          simp [encodeUtf8]
      · obtain ⟨rfl, rfl⟩ := Prod.mk.inj h
        rw [List.append_nil]

/-- The bytes of a text give the text back. -/
theorem of_utf8_encode_utf8 (s : List Char) : ofUtf8? (encodeUtf8 s) = some (String.ofList s) := by
  rw [ofUtf8?, decode_utf8_encode_utf8]

/-- Bytes give a text exactly if they are its bytes. -/
theorem of_utf8_eq_some_iff {bytes : List UInt8} {s : String} :
    ofUtf8? bytes = some s ↔ bytes = encodeUtf8 s.toList := by
  constructor
  · intro h
    unfold ofUtf8? at h
    split at h
    · next cs hdecode =>
        obtain rfl := Option.some.inj h
        rw [String.toList_ofList, eq_of_decode_loop hdecode]
        rfl
    · cases h
  · rintro rfl
    rw [of_utf8_encode_utf8, String.ofList_toList]

/-! ## The order of the bytes -/

/-- A smaller code point has smaller bytes, whatever follows. -/
theorem code_bytes_append_lt {m n : Nat} (h : m < n) (r₁ r₂ : List Nat) :
    codeBytes m ++ r₁ < codeBytes n ++ r₂ := by
  unfold codeBytes
  -- The lengths of both are compared; the greater code point never has fewer bytes.
  by_cases hn1 : n < 0x80
  · rw [if_pos hn1, if_pos (show m < 0x80 by omega)]
    exact List.cons_lt_cons_iff.mpr (.inl h)
  · rw [if_neg hn1]
    by_cases hn2 : n < 0x800
    · rw [if_pos hn2]
      split
      · simp only [List.cons_append, List.cons_lt_cons_iff]
        omega
      · simp only [if_pos (show m < 0x800 by omega), List.cons_append, List.cons_lt_cons_iff]
        omega
    · rw [if_neg hn2]
      by_cases hn3 : n < 0x10000
      · rw [if_pos hn3]
        split
        · simp only [List.cons_append, List.cons_lt_cons_iff]
          omega
        · split
          · simp only [List.cons_append, List.cons_lt_cons_iff]
            omega
          · simp only [if_pos (show m < 0x10000 by omega), List.cons_append,
              List.cons_lt_cons_iff]
            omega
      · rw [if_neg hn3]
        split
        · simp only [List.cons_append, List.cons_lt_cons_iff]
          omega
        · split
          · simp only [List.cons_append, List.cons_lt_cons_iff]
            omega
          · split
            · simp only [List.cons_append, List.cons_lt_cons_iff]
              omega
            · simp only [List.cons_append, List.cons_lt_cons_iff]
              omega

/-- The bytes of a text as numbers. -/
theorem encode_utf8_map_to_nat (s : List Char) :
    (encodeUtf8 s).map UInt8.toNat = s.flatMap fun c => codeBytes c.toNat := by
  induction s with
  | nil => rfl
  | cons c s ih =>
      have hbytes : (codeBytes c.toNat).map (UInt8.toNat ∘ UInt8.ofNat) = codeBytes c.toNat := by
        conv => rhs; rw [← List.map_id (codeBytes c.toNat)]
        refine List.map_congr_left fun b hb => ?_
        exact byte_to_nat (code_bytes_lt (char_to_nat_lt c) b hb)
      rw [encode_utf8_cons, List.map_append, ih, utf8_encode_char_eq, List.map_map, hbytes]
      rfl

/-- Bytes are in the order of the numbers they are. -/
theorem lt_of_map_to_nat_lt {l₁ l₂ : List UInt8}
    (h : l₁.map UInt8.toNat < l₂.map UInt8.toNat) : l₁ < l₂ := by
  induction l₁ generalizing l₂ with
  | nil =>
      cases l₂ with
      | nil => exact absurd h (List.not_lt_nil _)
      | cons b l₂ => exact List.Lex.nil
  | cons a l₁ ih =>
      cases l₂ with
      | nil => exact absurd h (List.not_lt_nil _)
      | cons b l₂ =>
          rw [List.map_cons, List.map_cons, List.cons_lt_cons_iff] at h
          rw [List.cons_lt_cons_iff]
          rcases h with hhead | ⟨hhead, htail⟩
          · exact .inl (UInt8.lt_iff_toNat_lt.mpr hhead)
          · exact .inr ⟨UInt8.toNat_inj.mp hhead, ih htail⟩

/-- Texts in the order of their characters have bytes in the order of bytes. -/
theorem encode_utf8_lt {s t : List Char} (h : s < t) : encodeUtf8 s < encodeUtf8 t := by
  refine lt_of_map_to_nat_lt ?_
  rw [encode_utf8_map_to_nat, encode_utf8_map_to_nat]
  induction s generalizing t with
  | nil =>
      cases t with
      | nil => exact absurd h (List.not_lt_nil _)
      | cons d t =>
          cases hbytes : codeBytes d.toNat with
          | nil =>
              have hnone : String.utf8EncodeChar d = [] := by rw [utf8_encode_char_eq, hbytes]; rfl
              exact absurd hnone String.utf8EncodeChar_ne_nil
          | cons b bs => simp [hbytes]
  | cons c s ih =>
      cases t with
      | nil => exact absurd h (List.not_lt_nil _)
      | cons d t =>
          rw [List.flatMap_cons, List.flatMap_cons]
          rcases List.cons_lt_cons_iff.mp h with hhead | ⟨rfl, htail⟩
          · exact code_bytes_append_lt hhead _ _
          · exact List.append_left_lt (ih htail)

end TunnelKeeper.Text
