import TunnelKeeper.Net.Network
import TunnelKeeper.Proofs.Net.Address
import TunnelKeeper.Proofs.Text.Lines

/-!
# Networks read back

Every network, with or without host bits, is read back from its text (`parse_text`). The text of a
long network is never taken for a short one.
-/

namespace TunnelKeeper

open Number Net Text

namespace Net

/-! ## The characters of an address -/

/-- The characters that an address is written with. -/
def IsAddressChar (c : Char) : Prop := IsDigitOf 16 c ∨ c = '.' ∨ c = ':'

instance (c : Char) : Decidable (IsAddressChar c) := inferInstanceAs (Decidable (_ ∨ _))

theorem slash_not_address_char : ¬ IsAddressChar '/' := by decide

theorem is_digit_of_sixteen {c : Char} (h : IsDigitOf 10 c) : IsDigitOf 16 c := by
  simp only [IsDigitOf, digitValue, Option.isSome_filter, Option.any_eq_true_iff_get] at h ⊢
  obtain ⟨hsome, hlt⟩ := h
  simp only [decide_eq_true_eq] at hlt
  exact ⟨hsome, by simp only [decide_eq_true_eq]; omega⟩

theorem decimal_chars_address_chars (n : Nat) : ∀ c ∈ decimalChars n, IsAddressChar c :=
  fun c hc => .inl (is_digit_of_sixteen (decimal_chars_digits n c hc))

theorem dotted_address_chars (value : Nat) : ∀ c ∈ dotted value, IsAddressChar c := by
  intro c hc
  have hdigits := decimal_chars_address_chars
  simp only [dotted, octets, List.map_cons, List.map_nil, List.mem_append, List.mem_cons] at hc
  rcases hc with ((hc | rfl | hc) | rfl | hc) | rfl | hc
  all_goals first
    | exact hdigits _ c hc
    | exact .inr (.inl rfl)

theorem colon_form_address_chars (gs : List Nat) : ∀ c ∈ colonForm gs, IsAddressChar c := by
  cases gs with
  | nil => simp [colonForm]
  | cons g gs =>
      intro c hc
      rw [colon_form_cons] at hc
      simp only [laterGroups, List.mem_append, List.mem_flatMap, List.mem_cons] at hc
      rcases hc with hc | ⟨g', _, rfl | hc⟩
      · exact .inl (hexadecimal_digits g c hc)
      · exact .inr (.inr rfl)
      · exact .inl (hexadecimal_digits g' c hc)

theorem compressed_address_chars (value : Nat) : ∀ c ∈ compressed value, IsAddressChar c := by
  unfold compressed
  split
  · intro c hc
    rcases List.mem_append.mp hc with hc | hc
    · have hchars : "::ffff:".toList.all (fun c => decide (IsAddressChar c)) = true := by decide
      have hall : ∀ c ∈ "::ffff:".toList, IsAddressChar c := by simpa using hchars
      exact hall c hc
    · exact dotted_address_chars _ c hc
  · simp only
    split
    · exact colon_form_address_chars _
    · intro c hc
      simp only [List.mem_append, List.mem_cons, List.not_mem_nil, or_false] at hc
      rcases hc with (hc | rfl | rfl) | hc
      · exact colon_form_address_chars _ c hc
      · exact .inr (.inr rfl)
      · exact .inr (.inr rfl)
      · exact colon_form_address_chars _ c hc

theorem address_chars_address_chars (family : Family) (value : Nat) :
    ∀ c ∈ addressChars family value, IsAddressChar c := by
  cases family with
  | v4 => exact dotted_address_chars value
  | v6 => exact compressed_address_chars value

theorem slash_not_mem_address_chars (family : Family) (value : Nat) :
    '/' ∉ addressChars family value :=
  fun hmem => slash_not_address_char (address_chars_address_chars family value _ hmem)

/-! ## The families do not mix -/

/-- The text of a long address is not a short address. -/
theorem read_dotted_compressed (value : Nat) : readDotted (compressed value) = none := by
  have hrow : ∀ gs rest, gs ≠ [] → EndsRow rest → readDotted (colonForm gs ++ rest) = none := by
    intro gs rest hgs hrest
    cases gs with
    | nil => exact absurd rfl hgs
    | cons g gs =>
        rw [colon_form_cons, List.append_assoc]
        exact read_dotted_hexadecimal g (ends_group_later_groups gs hrest)
  unfold compressed
  split
  · exact read_dotted_colon _
  · simp only
    split
    · have hsome : groups value ≠ [] := fun h => by simpa using congrArg List.length h
      have hnone := hrow (groups value) [] hsome (.inl rfl)
      rwa [List.append_nil] at hnone
    · cases hfront : (groups value).take (longestZeroRun 0 (groups value)).1 with
      | nil => exact read_dotted_colon _
      | cons g gs =>
          rw [List.append_assoc]
          exact hrow (g :: gs) _ (by simp) (.inr ⟨_, rfl⟩)

/-- A numeral alone is not a dotted address. -/
theorem read_dotted_decimal_chars (n : Nat) : readDotted (decimalChars n) = none := by
  refine read_dotted_eq_none fun cs => ?_
  have hdrop : (decimalChars n).dropWhile (fun c => (digitValue 10 c).isSome) = [] := by
    have hdigits : (decimalChars n ++ []).dropWhile (fun c => (digitValue 10 c).isSome) = [] :=
      List.dropWhile_append_of_pos (decimal_chars_digits n)
    rwa [List.append_nil] at hdigits
  rw [hdrop]
  simp

end Net

namespace Network

/-- The parts of a network make up the network. -/
theorem of_parts_self (n : Network) : ofParts? n.family n.address n.length = some n := by
  simp [ofParts?, n.address_lt, n.length_le]

/-- A length is read back. -/
theorem parse_length_decimal_chars {family : Family} {length : Nat} (h : length ≤ family.bits) :
    parseLength family (decimalChars length) = some length := by
  have hbits : family.bits ≤ 128 := by cases family <;> decide
  have hmask : parseAddress .v4 (decimalChars length) = none := by
    simp [parseAddress, read_dotted_decimal_chars]
  have hread : decimalBelow? 256 (decimalChars length) = some length :=
    decimal_below_decimal_chars (by omega)
  simp [parseLength, hmask, hread, h]

/-- A network is read back by the reader of its family. -/
theorem parse_family_chars (n : Network) : parseFamily n.family n.chars = some n := by
  have hslash : '/' ∉ decimalChars n.length := by
    intro hmem
    exact slash_not_address_char (decimal_chars_address_chars _ _ hmem)
  rw [parseFamily, chars, split_on_append (slash_not_mem_address_chars _ _),
    split_on_eq_singleton hslash]
  simp [parse_address_address_chars n.address_lt, parse_length_decimal_chars n.length_le,
    of_parts_self]

/-- A long network is not read as a short one. -/
theorem parse_family_short_eq_none {n : Network} (h : n.family = .v6) :
    parseFamily .v4 n.chars = none := by
  have hslash : '/' ∉ decimalChars n.length := by
    intro hmem
    exact slash_not_address_char (decimal_chars_address_chars _ _ hmem)
  rw [parseFamily, chars, split_on_append (slash_not_mem_address_chars _ _),
    split_on_eq_singleton hslash]
  simp [h, addressChars, parseAddress, read_dotted_compressed]

/-- Every network is read back from its text. -/
theorem parse_text (n : Network) : parse n.text = .ok n := by
  have hread := parse_family_chars n
  cases hfamily : n.family with
  | v4 =>
      rw [hfamily] at hread
      simp [parse, text, hread]
  | v6 =>
      rw [hfamily] at hread
      simp [parse, text, hread, parse_family_short_eq_none hfamily]

end Network

end TunnelKeeper
