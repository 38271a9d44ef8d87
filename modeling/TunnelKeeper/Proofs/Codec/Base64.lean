import TunnelKeeper.Codec.Base64
import TunnelKeeper.Proofs.Text.Utf8
import TunnelKeeper.Text.Blank

/-!
# Base64 read back

In either dialect the text of some bytes is decoded to these bytes (`Base64.decode_encode`), and
the text of the dialect of links has letters, digits, hyphens and underscores only
(`encode_chars_url_safe`). A dialect is used through what its alphabet has to satisfy
(`Dialect.Lawful`).
-/

namespace TunnelKeeper.Base64

open Text

/-! ## Alphabets -/

/-- The byte of a number below sixty-four. -/
def Dialect.byte (d : Dialect) (n : Nat) : UInt8 := UInt8.ofNat (d.char n).toNat

/-- Characters that are single bytes, stand for their numbers and never look like padding. -/
structure Dialect.Lawful (d : Dialect) : Prop where
  ascii : ∀ n < 64, (d.char n).toNat < 0x80
  value : ∀ n < 64, d.value? (d.byte n) = some n
  notPad : ∀ n < 64, d.byte n ≠ padByte

theorem Dialect.lawful_standard : Dialect.standard.Lawful where
  ascii := by decide
  value := by decide
  notPad := by decide

theorem Dialect.lawful_url_safe : Dialect.urlSafe.Lawful where
  ascii := by decide
  value := by decide
  notPad := by decide

variable {d : Dialect}

/-- A character of the alphabet is written as one byte. -/
theorem Dialect.Lawful.encode_char (hd : d.Lawful) {n : Nat} (h : n < 64) :
    String.utf8EncodeChar (d.char n) = [d.byte n] := by
  rw [utf8_encode_char_eq, codeBytes, if_pos (hd.ascii n h)]
  rfl

theorem Dialect.Lawful.sextet (hd : d.Lawful) {n : Nat} (h : n < 64) (offset : Nat) :
    sextet d offset (d.byte n) = .ok n := by
  rw [Base64.sextet, hd.value n h]

/-- The bytes of the text of some bytes. -/
def encodeBytes (d : Dialect) (bytes : List UInt8) : List UInt8 := encodeUtf8 (encodeChars d bytes)

/-- The bytes that fill up a group. -/
def Dialect.paddingBytes (d : Dialect) (missing : Nat) : List UInt8 :=
  if d.padded then List.replicate missing padByte else []

theorem encode_utf8_padding (d : Dialect) (missing : Nat) :
    encodeUtf8 (d.padding missing) = d.paddingBytes missing := by
  unfold Dialect.padding Dialect.paddingBytes
  split
  · induction missing with
    | zero => rfl
    | succ missing ih =>
        rw [List.replicate_succ, encode_utf8_cons, ih]
        rfl
  · rfl

/-! ## Groups -/

/-- A whole group, and the text of the other bytes. -/
theorem encode_bytes_three (hd : d.Lawful) (a b c : UInt8) (rest : List UInt8) :
    ∃ p q r s, (p < 64 ∧ q < 64 ∧ r < 64 ∧ s < 64) ∧
      ((p * 64 + q) * 64 + r) * 64 + s = (a.toNat * 256 + b.toNat) * 256 + c.toNat ∧
      encodeBytes d (a :: b :: c :: rest) =
        d.byte p :: d.byte q :: d.byte r :: d.byte s :: encodeBytes d rest := by
  have ha := a.toNat_lt
  have hb := b.toNat_lt
  have hc := c.toNat_lt
  rw [encodeBytes, encodeChars]
  generalize hn : (a.toNat * 256 + b.toNat) * 256 + c.toNat = n
  refine ⟨n / 262144, n / 4096 % 64, n / 64 % 64, n % 64, by omega, by omega, ?_⟩
  simp only [encode_utf8_cons]
  rw [hd.encode_char (by omega), hd.encode_char (by omega), hd.encode_char (by omega),
    hd.encode_char (by omega)]
  rfl

/-- A last group of two bytes. -/
theorem encode_bytes_two (hd : d.Lawful) (a b : UInt8) :
    ∃ p q r, (p < 64 ∧ q < 64 ∧ r < 64) ∧
      (p * 64 + q) * 64 + r = (a.toNat * 256 + b.toNat) * 4 ∧
      encodeBytes d [a, b] = d.byte p :: d.byte q :: d.byte r :: d.paddingBytes 1 := by
  have ha := a.toNat_lt
  have hb := b.toNat_lt
  rw [encodeBytes, encodeChars]
  generalize hn : (a.toNat * 256 + b.toNat) * 4 = n
  refine ⟨n / 4096, n / 64 % 64, n % 64, by omega, by omega, ?_⟩
  simp only [encode_utf8_cons, encode_utf8_padding]
  rw [hd.encode_char (by omega), hd.encode_char (by omega), hd.encode_char (by omega)]
  rfl

/-- A last group of one byte. -/
theorem encode_bytes_one (hd : d.Lawful) (a : UInt8) :
    ∃ p q, (p < 64 ∧ q < 64) ∧ p * 64 + q = a.toNat * 16 ∧
      encodeBytes d [a] = d.byte p :: d.byte q :: d.paddingBytes 2 := by
  have ha := a.toNat_lt
  rw [encodeBytes, encodeChars]
  generalize hn : a.toNat * 16 = n
  refine ⟨n / 64, n % 64, by omega, by omega, ?_⟩
  simp only [encode_utf8_cons, encode_utf8_padding]
  rw [hd.encode_char (by omega), hd.encode_char (by omega)]
  rfl

/-- A number of the alphabet joins those of the last group. -/
theorem last_group_byte (hd : d.Lawful) {n : Nat} (h : n < 64) (start i : Nat) (values : List Nat)
    (last : UInt8) (rest : List UInt8) :
    lastGroup d start i 0 values last (d.byte n :: rest) =
      lastGroup d start (i + 1) 0 (n :: values) (d.byte n) rest := by
  rw [lastGroup, if_neg (hd.notPad n h), if_neg (Nat.lt_irrefl 0), hd.sextet h]

/-- Padding behind at least two numbers is counted. -/
theorem last_group_padding {i : Nat} (hi : 2 ≤ i) (start pads missing : Nat) (values : List Nat)
    (last : UInt8) :
    lastGroup d start i pads values last (List.replicate missing padByte) =
      .ok (values, last, pads + missing) := by
  induction missing generalizing i pads with
  | zero => rfl
  | succ missing ih =>
      rw [List.replicate_succ, lastGroup, if_pos rfl, if_neg (by omega), ih (by omega)]
      congr 3
      omega

/-- The padding of the dialect is counted. -/
theorem last_group_padding_bytes {i : Nat} (hi : 2 ≤ i) (start missing : Nat) (values : List Nat)
    (last : UInt8) :
    lastGroup d start i 0 values last (d.paddingBytes missing) =
      .ok (values, last, if d.padded then missing else 0) := by
  unfold Dialect.paddingBytes
  split
  · rw [last_group_padding hi, Nat.zero_add]
  · rfl

/-- The three bytes of a number. -/
theorem bytes_of_three {a b c : UInt8} {n : Nat}
    (h : n = (a.toNat * 256 + b.toNat) * 256 + c.toNat) :
    UInt8.ofNat (n / 65536) = a ∧ UInt8.ofNat (n / 256) = b ∧ UInt8.ofNat n = c := by
  have ha := a.toNat_lt
  have hb := b.toNat_lt
  have hc := c.toNat_lt
  refine ⟨UInt8.toNat_inj.mp ?_, UInt8.toNat_inj.mp ?_, UInt8.toNat_inj.mp ?_⟩
  · rw [UInt8.toNat_ofNat']
    omega
  · rw [UInt8.toNat_ofNat']
    omega
  · rw [UInt8.toNat_ofNat']
    omega

/-- A last group of three bytes is decoded. -/
theorem decode_last_three (hd : d.Lawful) (a b c : UInt8) (start : Nat) :
    decodeLast d start (encodeBytes d [a, b, c]) = .ok [a, b, c] := by
  obtain ⟨p, q, r, s, hlt, hvalue, hbytes⟩ := encode_bytes_three hd a b c []
  obtain ⟨ha, hb, hc⟩ := bytes_of_three hvalue
  rw [hbytes, decodeLast, last_group_byte hd hlt.1, last_group_byte hd hlt.2.1,
    last_group_byte hd hlt.2.2.1, last_group_byte hd hlt.2.2.2]
  show (if _ then _ else if _ then _ else Except.ok [_, _, _]) = _
  rw [ha, hb, hc, if_neg (by simp), if_neg (by simp)]

/-- A last group of two bytes is decoded, and no bits are left. -/
theorem decode_last_two (hd : d.Lawful) (a b : UInt8) (start : Nat) :
    decodeLast d start (encodeBytes d [a, b]) = .ok [a, b] := by
  obtain ⟨p, q, r, hlt, hvalue, hbytes⟩ := encode_bytes_two hd a b
  have ha : UInt8.ofNat (((p * 64 + q) * 64 + r) / 1024) = a := by
    have := a.toNat_lt
    have := b.toNat_lt
    apply UInt8.toNat_inj.mp
    rw [UInt8.toNat_ofNat']
    omega
  have hb : UInt8.ofNat (((p * 64 + q) * 64 + r) / 4) = b := by
    have := b.toNat_lt
    apply UInt8.toNat_inj.mp
    rw [UInt8.toNat_ofNat']
    omega
  rw [hbytes, decodeLast, last_group_byte hd hlt.1, last_group_byte hd hlt.2.1,
    last_group_byte hd hlt.2.2, last_group_padding_bytes (by decide)]
  show (if _ then _ else if _ then _ else if _ then Except.ok [_, _] else _) = _
  -- The dialect checks the padding, which is its own, and then the bits that are left, which are
  -- zero.
  rw [ha, hb, if_neg, if_neg, if_pos (by omega)]
  · rintro ⟨hpadded, -, hpads⟩
    simp at hpadded
    simp [hpadded] at hpads
  · rintro ⟨hpadded, -, hpads⟩
    simp [hpadded] at hpads

/-- A last group of one byte is decoded, and no bits are left. -/
theorem decode_last_one (hd : d.Lawful) (a : UInt8) (start : Nat) :
    decodeLast d start (encodeBytes d [a]) = .ok [a] := by
  obtain ⟨p, q, hlt, hvalue, hbytes⟩ := encode_bytes_one hd a
  have ha : UInt8.ofNat ((p * 64 + q) / 16) = a := by
    rw [hvalue, Nat.mul_div_cancel _ (by decide), UInt8.ofNat_toNat]
  rw [hbytes, decodeLast, last_group_byte hd hlt.1, last_group_byte hd hlt.2,
    last_group_padding_bytes (by decide)]
  show (if _ then _ else if _ then _ else if _ then Except.ok [_] else _) = _
  rw [ha, if_neg, if_neg, if_pos (by omega)]
  · rintro ⟨hpadded, -, hpads⟩
    simp at hpadded
    simp [hpadded] at hpads
  · rintro ⟨hpadded, -, hpads⟩
    simp [hpadded] at hpads

/-! ## Texts -/

/-- No group is empty. -/
theorem encode_bytes_ne_nil (hd : d.Lawful) {bytes : List UInt8} (h : bytes ≠ []) :
    ∃ first rest, encodeBytes d bytes = first :: rest := by
  match bytes, h with
  | a :: b :: c :: bytes, _ =>
      obtain ⟨p, q, r, s, -, -, hbytes⟩ := encode_bytes_three hd a b c bytes
      exact ⟨_, _, hbytes⟩
  | [a, b], _ =>
      obtain ⟨p, q, r, -, -, hbytes⟩ := encode_bytes_two hd a b
      exact ⟨_, _, hbytes⟩
  | [a], _ =>
      obtain ⟨p, q, -, -, hbytes⟩ := encode_bytes_one hd a
      exact ⟨_, _, hbytes⟩

/-- At most four bytes are a last group. -/
theorem decode_groups_last {group : List UInt8} (h : group.length ≤ 4) (start : Nat) :
    decodeGroups d start group = decodeLast d start group := by
  rw [decodeGroups.eq_def]
  split
  · simp only [List.length_cons] at h
    omega
  · rfl

theorem decode_groups_nil (d : Dialect) (start : Nat) : decodeGroups d start [] = .ok [] := by
  have hlast : decodeLast d start [] = .ok [] := by
    simp [decodeLast, lastGroup, bind, Except.bind]
  have hshort : ([] : List UInt8).length ≤ 4 := Nat.zero_le 4
  rw [decode_groups_last hshort, hlast]

theorem length_padding_bytes (d : Dialect) (missing : Nat) :
    (d.paddingBytes missing).length ≤ missing := by
  unfold Dialect.paddingBytes
  split
  · exact Nat.le_of_eq List.length_replicate
  · exact Nat.zero_le missing

/-- The groups of a text are decoded one after the other. -/
theorem decode_groups_encode_bytes (hd : d.Lawful) (bytes : List UInt8) (start : Nat) :
    decodeGroups d start (encodeBytes d bytes) = .ok bytes := by
  induction bytes using encodeChars.induct generalizing start with
  | case1 a b c rest ih =>
      -- A whole group that nothing follows is read as the last one.
      by_cases hrest : rest = []
      · subst hrest
        obtain ⟨p, q, r, s, -, -, hbytes⟩ := encode_bytes_three hd a b c []
        rw [decode_groups_last, decode_last_three hd]
        rw [hbytes]
        exact Nat.le_refl 4
      · obtain ⟨p, q, r, s, hlt, hvalue, hbytes⟩ := encode_bytes_three hd a b c rest
        obtain ⟨ha, hb, hc⟩ := bytes_of_three hvalue
        obtain ⟨f, others, hmore⟩ := encode_bytes_ne_nil hd hrest
        have hlater := ih (start + 4)
        rw [hmore] at hlater
        rw [hbytes, hmore, decodeGroups, hd.sextet hlt.1, hd.sextet hlt.2.1, hd.sextet hlt.2.2.1,
          hd.sextet hlt.2.2.2]
        simp only [bind, Except.bind, hlater, ha, hb, hc]
  | case2 a b =>
      obtain ⟨p, q, r, -, -, hbytes⟩ := encode_bytes_two hd a b
      rw [decode_groups_last, decode_last_two hd]
      rw [hbytes]
      exact Nat.add_le_add_right (length_padding_bytes d 1) 3
  | case3 a =>
      obtain ⟨p, q, -, -, hbytes⟩ := encode_bytes_one hd a
      rw [decode_groups_last, decode_last_one hd]
      rw [hbytes]
      exact Nat.add_le_add_right (length_padding_bytes d 2) 2
  | case4 => exact decode_groups_nil d start

/-- A text has bytes of the alphabet and padding only. -/
theorem mem_encode_bytes (hd : d.Lawful) (bytes : List UInt8) :
    ∀ b ∈ encodeBytes d bytes, b = padByte ∨ ∃ n < 64, b = d.byte n := by
  have hpadding (missing : Nat) : ∀ b ∈ d.paddingBytes missing, b = padByte := by
    unfold Dialect.paddingBytes
    intro b hb
    split at hb
    · exact List.eq_of_mem_replicate hb
    · exact absurd hb List.not_mem_nil
  intro b hb
  induction bytes using encodeChars.induct with
  | case1 a₀ a₁ a₂ rest ih =>
      obtain ⟨p, q, r, s, hlt, -, hbytes⟩ := encode_bytes_three hd a₀ a₁ a₂ rest
      rw [hbytes] at hb
      simp only [List.mem_cons] at hb
      rcases hb with rfl | rfl | rfl | rfl | hb
      · exact .inr ⟨p, hlt.1, rfl⟩
      · exact .inr ⟨q, hlt.2.1, rfl⟩
      · exact .inr ⟨r, hlt.2.2.1, rfl⟩
      · exact .inr ⟨s, hlt.2.2.2, rfl⟩
      · exact ih hb
  | case2 a₀ a₁ =>
      obtain ⟨p, q, r, hlt, -, hbytes⟩ := encode_bytes_two hd a₀ a₁
      rw [hbytes] at hb
      simp only [List.mem_cons] at hb
      rcases hb with rfl | rfl | rfl | hb
      · exact .inr ⟨p, hlt.1, rfl⟩
      · exact .inr ⟨q, hlt.2.1, rfl⟩
      · exact .inr ⟨r, hlt.2.2, rfl⟩
      · exact .inl (hpadding 1 b hb)
  | case3 a₀ =>
      obtain ⟨p, q, hlt, -, hbytes⟩ := encode_bytes_one hd a₀
      rw [hbytes] at hb
      simp only [List.mem_cons] at hb
      rcases hb with rfl | rfl | hb
      · exact .inr ⟨p, hlt.1, rfl⟩
      · exact .inr ⟨q, hlt.2, rfl⟩
      · exact .inl (hpadding 2 b hb)
  | case4 => exact absurd hb List.not_mem_nil

/-- The text of some bytes is decoded to these bytes. -/
theorem decode_encode (hd : d.Lawful) (bytes : List UInt8) :
    decode d (encodeUtf8 (encode d bytes).toList) = .ok bytes := by
  have htext : encodeUtf8 (encode d bytes).toList = encodeBytes d bytes := by
    rw [encode, String.toList_ofList]
    rfl
  have hgroups := decode_groups_encode_bytes hd bytes 0
  rw [htext, decode]
  split
  · next b hlast =>
      rw [if_neg, hgroups]
      rintro ⟨-, hpad, hvalue⟩
      -- The last byte is looked at before all others, and it is padding or of the alphabet.
      rcases mem_encode_bytes hd bytes b (List.mem_of_getLast? hlast) with rfl | ⟨n, hn, rfl⟩
      · exact hpad rfl
      · rw [hd.value n hn] at hvalue
        exact nomatch hvalue
  · next hlast =>
      rw [List.getLast?_eq_none_iff.mp hlast, decode_groups_nil] at hgroups
      exact hgroups

/-- The text of some bytes has characters of the alphabet only, and padding if the dialect pads. -/
theorem mem_encode_chars (d : Dialect) (bytes : List UInt8) :
    ∀ c ∈ encodeChars d bytes, (∃ n < 64, c = d.char n) ∨ d.padded = true ∧ c = '=' := by
  have hpadding {missing : Nat} {c : Char} (hc : c ∈ d.padding missing) :
      d.padded = true ∧ c = '=' := by
    unfold Dialect.padding at hc
    split at hc
    · next hpadded => exact ⟨hpadded, List.eq_of_mem_replicate hc⟩
    · exact absurd hc List.not_mem_nil
  intro c hc
  induction bytes using encodeChars.induct with
  | case1 a₀ a₁ a₂ rest ih =>
      have h₀ := a₀.toNat_lt
      have h₁ := a₁.toNat_lt
      have h₂ := a₂.toNat_lt
      rw [encodeChars] at hc
      simp only [List.mem_cons] at hc
      rcases hc with rfl | rfl | rfl | rfl | hc
      · exact .inl ⟨_, by omega, rfl⟩
      · exact .inl ⟨_, by omega, rfl⟩
      · exact .inl ⟨_, by omega, rfl⟩
      · exact .inl ⟨_, by omega, rfl⟩
      · exact ih hc
  | case2 a₀ a₁ =>
      have h₀ := a₀.toNat_lt
      have h₁ := a₁.toNat_lt
      rw [encodeChars] at hc
      simp only [List.mem_cons] at hc
      rcases hc with rfl | rfl | rfl | hc
      · exact .inl ⟨_, by omega, rfl⟩
      · exact .inl ⟨_, by omega, rfl⟩
      · exact .inl ⟨_, by omega, rfl⟩
      · exact .inr (hpadding hc)
  | case3 a₀ =>
      have h₀ := a₀.toNat_lt
      rw [encodeChars] at hc
      simp only [List.mem_cons] at hc
      rcases hc with rfl | rfl | hc
      · exact .inl ⟨_, by omega, rfl⟩
      · exact .inl ⟨_, by omega, rfl⟩
      · exact .inr (hpadding hc)
  | case4 => exact absurd hc List.not_mem_nil

/-- No character of a text is blank if none of the alphabet is. -/
theorem encode_not_blank (halphabet : ∀ n < 64, isBlank (d.char n) = false) (bytes : List UInt8) :
    ∀ c ∈ (encode d bytes).toList, isBlank c = false := by
  intro c hc
  rw [encode, String.toList_ofList] at hc
  rcases mem_encode_chars d bytes c hc with ⟨n, hn, rfl⟩ | ⟨-, rfl⟩
  · exact halphabet n hn
  · decide

/-- Links have letters, digits, hyphens and underscores only. -/
theorem encode_chars_url_safe (bytes : List UInt8) :
    ∀ c ∈ encodeChars .urlSafe bytes, c.isAlphanum ∨ c = '-' ∨ c = '_' := by
  have halphabet : ∀ n < 64, (Dialect.urlSafe.char n).isAlphanum ∨
      Dialect.urlSafe.char n = '-' ∨ Dialect.urlSafe.char n = '_' := by
    decide
  intro c hc
  rcases mem_encode_chars .urlSafe bytes c hc with ⟨n, hn, rfl⟩ | ⟨hpadded, -⟩
  · exact halphabet n hn
  · cases hpadded

end TunnelKeeper.Base64
