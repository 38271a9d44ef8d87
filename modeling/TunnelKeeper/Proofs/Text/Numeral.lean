import Mathlib.Algebra.Order.Ring.Nat
import TunnelKeeper.Data.Json.Numeral
import TunnelKeeper.Text.Blank
import TunnelKeeper.Text.Quoted

/-!
# Numerals read back

The digits that a number is written with have that number as their value, in decimal, in decimal
with a fixed width, and in hexadecimal. `digitsValue` is the value of a run of digits, and every
reader of digits in this library computes it as long as it stays below the reader's limit. Nothing
else than digits, at least one and behind at most one plus sign, is read as a numeral
(`read_numeral_eq_ok_iff`).
-/

namespace TunnelKeeper.Number

/-- The value of some digits after a part that has the value `acc`. -/
def digitsValue (base acc : Nat) (ds : List Char) : Nat :=
  ds.foldl (fun n c => n * base + (digitValue base c).getD 0) acc

@[simp] theorem digits_value_nil (base acc : Nat) : digitsValue base acc [] = acc := rfl

@[simp] theorem digits_value_cons (base acc : Nat) (c : Char) (ds : List Char) :
    digitsValue base acc (c :: ds) =
      digitsValue base (acc * base + (digitValue base c).getD 0) ds := rfl

theorem digits_value_append (base acc : Nat) (ds es : List Char) :
    digitsValue base acc (ds ++ es) = digitsValue base (digitsValue base acc ds) es := by
  simp [digitsValue, List.foldl_append]

/-- A character is a digit of a base. -/
def IsDigitOf (base : Nat) (c : Char) : Prop := (digitValue base c).isSome

instance (base : Nat) (c : Char) : Decidable (IsDigitOf base c) :=
  inferInstanceAs (Decidable ((digitValue base c).isSome = true))

theorem IsDigitOf.exists {base : Nat} {c : Char} (h : IsDigitOf base c) :
    ∃ d, digitValue base c = some d := Option.isSome_iff_exists.mp h

/-- A digit stands for its distance from the beginning of its row: of the digits proper, of the
small letters or of the capital ones. -/
theorem digit_value_cases {base d : Nat} {c : Char} (h : digitValue base c = some d) :
    d < base ∧ (c.toNat = 48 + d ∧ d < 10 ∨ c.toNat = 87 + d ∧ 10 ≤ d ∧ d < 36 ∨
      c.toNat = 55 + d ∧ 10 ≤ d ∧ d < 36) := by
  unfold digitValue at h
  obtain ⟨hvalue, hlt⟩ := Option.filter_eq_some_iff.mp h
  refine ⟨by simpa using hlt, ?_⟩
  split at hvalue
  · cases hvalue
    omega
  · split at hvalue
    · cases hvalue
      omega
    · split at hvalue
      · cases hvalue
        omega
      · cases hvalue

theorem plus_not_digit (base : Nat) : ¬ IsDigitOf base '+' := by
  intro h
  obtain ⟨d, hd⟩ := h.exists
  have hplus : '+'.toNat = 43 := rfl
  have := digit_value_cases hd
  omega

theorem not_blank_of_is_digit_of {base : Nat} {c : Char} (h : IsDigitOf base c) :
    Text.isBlank c = false := by
  obtain ⟨d, hd⟩ := h.exists
  have := digit_value_cases hd
  simp only [Text.isBlank, Bool.or_eq_false_iff, Bool.and_eq_false_iff, decide_eq_false_iff_not,
    beq_eq_false_iff_ne]
  omega

/-- Reading more digits never makes a value smaller. -/
theorem le_digits_value {base : Nat} (hbase : 0 < base) (acc : Nat) (ds : List Char) :
    acc ≤ digitsValue base acc ds := by
  induction ds generalizing acc with
  | nil => exact Nat.le_refl _
  | cons c ds ih =>
      calc acc ≤ acc * base := Nat.le_mul_of_pos_right _ hbase
        _ ≤ acc * base + (digitValue base c).getD 0 := Nat.le_add_right _ _
        _ ≤ _ := ih _

/-- The reader of digits gives their value if the value is below the limit. -/
theorem read_digits_eq {base limit : Nat} (hbase : 0 < base) {ds : List Char}
    (hds : ∀ c ∈ ds, IsDigitOf base c) {acc : Nat} (h : digitsValue base acc ds < limit) :
    readDigits base limit acc ds = .ok (digitsValue base acc ds) := by
  induction ds generalizing acc with
  | nil => rfl
  | cons c ds ih =>
      obtain ⟨d, hd⟩ := (hds c (by simp)).exists
      have hlt : acc * base + d < limit := by
        refine Nat.lt_of_le_of_lt (le_digits_value hbase _ ds) ?_
        simpa [hd] using h
      simp only [readDigits, hd, hlt, if_true]
      rw [ih (fun c hc => hds c (by simp [hc])) (by simpa [hd] using h)]
      simp [hd]

/-- The reader of digits accepts digits whose value is below the limit, and nothing else. -/
theorem read_digits_eq_ok_iff {base limit acc n : Nat} (hbase : 0 < base) (hacc : acc < limit)
    {s : List Char} :
    readDigits base limit acc s = .ok n ↔
      (∀ c ∈ s, IsDigitOf base c) ∧ digitsValue base acc s = n ∧ n < limit := by
  constructor
  · intro h
    induction s generalizing acc with
    | nil =>
        cases h
        exact ⟨by simp, rfl, hacc⟩
    | cons c s ih =>
        rw [readDigits] at h
        cases hd : digitValue base c with
        | none =>
            rw [hd] at h
            cases h
        | some d =>
            simp only [hd] at h
            split at h
            · next hlt =>
                obtain ⟨hs, hvalue, hn⟩ := ih hlt h
                refine ⟨List.forall_mem_cons.mpr ⟨Option.isSome_of_eq_some hd, hs⟩, ?_, hn⟩
                rw [digits_value_cons, hd]
                exact hvalue
            · cases h
  · rintro ⟨hs, rfl, hn⟩
    exact read_digits_eq hbase hs hn

/-- A numeral is read if it is made of digits, at least one, with or without a plus sign before
them, and has a value below the limit. Nothing else is read. -/
theorem read_numeral_eq_ok_iff {base limit n : Nat} (hbase : 0 < base) (hlimit : 0 < limit)
    {s : List Char} :
    readNumeral base limit s = .ok n ↔
      ∃ sign ∈ ["", "+"], ∃ ds, s = sign.toList ++ ds ∧ ds ≠ [] ∧ (∀ c ∈ ds, IsDigitOf base c) ∧
        digitsValue base 0 ds = n ∧ n < limit := by
  have hdigits := @read_digits_eq_ok_iff base limit 0 n hbase hlimit
  constructor
  · intro h
    rw [readNumeral.eq_def] at h
    split at h
    · cases h
    · cases h
    · next cs hne => exact ⟨"+", by simp, cs, rfl, by simpa using hne, hdigits.mp h⟩
    · next hne _ _ => exact ⟨"", by simp, s, rfl, by simpa using hne, hdigits.mp h⟩
  · rintro ⟨sign, hsign, ds, rfl, hne, hds⟩
    have hread := hdigits.mpr hds
    obtain ⟨c, cs, rfl⟩ := List.exists_cons_of_ne_nil hne
    simp only [List.mem_cons, List.not_mem_nil, or_false] at hsign
    rcases hsign with rfl | rfl
    · -- The first digit is not taken for a sign.
      have hplus : c ≠ '+' := by
        rintro rfl
        exact plus_not_digit base (hds.1 '+' List.mem_cons_self)
      show readNumeral base limit (c :: cs) = .ok n
      rw [readNumeral]
      · exact hread
      · simp
      · simp [hplus]
      · simp [hplus]
    · exact hread

/-! ## Where digits end -/

/-- What follows a numeral does not begin with a digit of its base. -/
def EndsDigits (base : Nat) (rest : List Char) : Prop :=
  ∀ c cs, rest = c :: cs → ¬ IsDigitOf base c

theorem ends_digits_nil (base : Nat) : EndsDigits base [] := by
  intro c cs h
  cases h

theorem ends_digits_cons {base : Nat} {c : Char} (h : digitValue base c = none) (cs : List Char) :
    EndsDigits base (c :: cs) := by
  intro c' cs' heq
  cases heq
  simp [IsDigitOf, h]

/-- The digits at the front of a text are taken as far as they go. -/
theorem take_while_digits {base : Nat} {ds rest : List Char} (hds : ∀ c ∈ ds, IsDigitOf base c)
    (hrest : EndsDigits base rest) :
    (ds ++ rest).takeWhile (fun c => (digitValue base c).isSome) = ds := by
  rw [List.takeWhile_append_of_pos hds]
  cases rest with
  | nil => simp
  | cons c cs =>
      have hc := hrest c cs rfl
      simp [show (digitValue base c).isSome = false by simpa [IsDigitOf] using hc]

/-! ## Single digits -/

theorem digit_value_decimal_digit {n : Nat} (h : n < 10) :
    digitValue 10 (decimalDigit n) = some n := by
  have hall : ∀ n < 10, digitValue 10 (decimalDigit n) = some n := by decide
  exact hall n h

theorem digit_value_hex_digit {n : Nat} (h : n < 16) :
    digitValue 16 (Text.hexDigit n) = some n := by
  have hall : ∀ n < 16, digitValue 16 (Text.hexDigit n) = some n := by decide
  exact hall n h

theorem is_digit_of_decimal_digit (n : Nat) : IsDigitOf 10 (decimalDigit (n % 10)) := by
  simp [IsDigitOf, digit_value_decimal_digit (Nat.mod_lt n (by decide))]

theorem is_digit_of_hex_digit (n : Nat) : IsDigitOf 16 (Text.hexDigit (n % 16)) := by
  simp [IsDigitOf, digit_value_hex_digit (Nat.mod_lt n (by decide))]

/-! ## Decimal -/

theorem decimal_chars_ne_nil (n : Nat) : decimalChars n ≠ [] := by
  rw [decimalChars]
  split <;> simp

theorem decimal_chars_digits (n : Nat) : ∀ c ∈ decimalChars n, IsDigitOf 10 c := by
  induction n using decimalChars.induct with
  | case1 n h =>
      rw [decimalChars, if_pos h]
      have hn : n % 10 = n := Nat.mod_eq_of_lt h
      simpa [hn] using is_digit_of_decimal_digit n
  | case2 n h ih =>
      rw [decimalChars, if_neg h]
      intro c hc
      rcases List.mem_append.mp hc with hc | hc
      · exact ih c hc
      · rw [List.mem_singleton.mp hc]
        exact is_digit_of_decimal_digit n

/-- The decimal form of a number begins with a digit. -/
theorem decimal_chars_eq_cons (n : Nat) :
    ∃ c cs, decimalChars n = c :: cs ∧ IsDigitOf 10 c := by
  cases h : decimalChars n with
  | nil => exact absurd h (decimal_chars_ne_nil n)
  | cons c cs => exact ⟨c, cs, rfl, decimal_chars_digits n c (h ▸ List.mem_cons_self)⟩

/-- A number is the value of its decimal form. -/
theorem digits_value_decimal_chars (n : Nat) : digitsValue 10 0 (decimalChars n) = n := by
  induction n using decimalChars.induct with
  | case1 n h =>
      rw [decimalChars, if_pos h]
      simp [digit_value_decimal_digit h]
  | case2 n h ih =>
      rw [decimalChars, if_neg h, digits_value_append, ih]
      simp only [digits_value_cons, digits_value_nil,
        digit_value_decimal_digit (Nat.mod_lt n (by decide : 10 > 0)), Option.getD_some]
      omega

/-- The decimal form of a number has no leading zero unless the number is zero. -/
theorem decimal_chars_head_zero {n : Nat} {ds : List Char}
    (h : decimalChars n = '0' :: ds) : ds = [] := by
  induction n using decimalChars.induct generalizing ds with
  | case1 n hn =>
      rw [decimalChars, if_pos hn] at h
      exact (List.cons.inj h).2.symm
  | case2 n hn ih =>
      rw [decimalChars, if_neg hn] at h
      cases hfront : decimalChars (n / 10) with
      | nil => exact absurd hfront (decimal_chars_ne_nil _)
      | cons c front =>
          rw [hfront] at h
          obtain rfl : c = '0' := (List.cons.inj h).1
          have hnil := ih hfront
          subst hnil
          have hvalue := digits_value_decimal_chars (n / 10)
          rw [hfront] at hvalue
          have hzero : digitValue 10 '0' = some 0 := by decide
          simp only [digits_value_cons, hzero, digits_value_nil, Option.getD_some] at hvalue
          omega

/-- The decimal form of a number below a power of ten has at most that many digits. -/
theorem length_decimal_chars_le {n k : Nat} (hk : 0 < k) (h : n < 10 ^ k) :
    (decimalChars n).length ≤ k := by
  induction n using decimalChars.induct generalizing k with
  | case1 n hn =>
      rw [decimalChars, if_pos hn]
      exact hk
  | case2 n hn ih =>
      rw [decimalChars, if_neg hn, List.length_append]
      cases k with
      | zero => omega
      | succ k =>
          have hpow : n / 10 < 10 ^ k := by
            rw [Nat.pow_succ] at h
            omega
          have hk : 0 < k := by
            rcases Nat.eq_zero_or_pos k with rfl | hk
            · simp at hpow
              omega
            · exact hk
          have := ih hk hpow
          simp only [List.length_cons, List.length_nil]
          omega

/-- A numeral is read back if it is below the reader's limit. -/
theorem read_numeral_decimal_chars {n limit : Nat} (h : n < limit) :
    readNumeral 10 limit (decimalChars n) = .ok n :=
  (read_numeral_eq_ok_iff (by decide) (Nat.zero_lt_of_lt h)).mpr
    ⟨"", by simp, decimalChars n, rfl, decimal_chars_ne_nil n, decimal_chars_digits n,
      digits_value_decimal_chars n, h⟩

theorem decimal_below_decimal_chars {n limit : Nat} (h : n < limit) :
    decimalBelow? limit (decimalChars n) = some n := by
  simp [decimalBelow?, read_numeral_decimal_chars h, Except.toOption]

/-! ## Decimal with a fixed width -/

theorem padded_chars_digits (width n : Nat) : ∀ c ∈ paddedChars width n, IsDigitOf 10 c := by
  induction width generalizing n with
  | zero => simp [paddedChars]
  | succ width ih =>
      intro c hc
      rcases List.mem_append.mp hc with hc | hc
      · exact ih _ c hc
      · rw [List.mem_singleton.mp hc]
        exact is_digit_of_decimal_digit n

@[simp] theorem length_padded_chars (width n : Nat) : (paddedChars width n).length = width := by
  induction width generalizing n with
  | zero => rfl
  | succ width ih => simp [paddedChars, ih]

/-- A number that fits the width is the value of its digits. -/
theorem digits_value_padded_chars {width n : Nat} (h : n < 10 ^ width) :
    digitsValue 10 0 (paddedChars width n) = n := by
  induction width generalizing n with
  | zero =>
      have : n = 0 := by simpa using h
      simp [paddedChars, this]
  | succ width ih =>
      have hn : n / 10 < 10 ^ width := by
        rw [Nat.pow_succ] at h
        omega
      rw [paddedChars, digits_value_append, ih hn]
      simp only [digits_value_cons, digits_value_nil,
        digit_value_decimal_digit (Nat.mod_lt n (by decide : 10 > 0)), Option.getD_some]
      omega

/-! ## Hexadecimal -/

theorem hexadecimal_ne_nil (n : Nat) : Text.hexadecimal n ≠ [] := by
  rw [Text.hexadecimal]
  split <;> simp

theorem hexadecimal_digits (n : Nat) : ∀ c ∈ Text.hexadecimal n, IsDigitOf 16 c := by
  induction n using Text.hexadecimal.induct with
  | case1 n h =>
      rw [Text.hexadecimal, if_pos h]
      have hn : n % 16 = n := Nat.mod_eq_of_lt h
      simpa [hn] using is_digit_of_hex_digit n
  | case2 n h ih =>
      rw [Text.hexadecimal, if_neg h]
      intro c hc
      rcases List.mem_append.mp hc with hc | hc
      · exact ih c hc
      · rw [List.mem_singleton.mp hc]
        exact is_digit_of_hex_digit n

/-- A number is the value of its hexadecimal form. -/
theorem digits_value_hexadecimal (n : Nat) : digitsValue 16 0 (Text.hexadecimal n) = n := by
  induction n using Text.hexadecimal.induct with
  | case1 n h =>
      rw [Text.hexadecimal, if_pos h]
      simp [digit_value_hex_digit h]
  | case2 n h ih =>
      rw [Text.hexadecimal, if_neg h, digits_value_append, ih]
      simp only [digits_value_cons, digits_value_nil,
        digit_value_hex_digit (Nat.mod_lt n (by decide : 16 > 0)), Option.getD_some]
      omega

/-- The hexadecimal form of sixteen bits has at most four digits. -/
theorem length_hexadecimal_le {n k : Nat} (hk : 0 < k) (h : n < 16 ^ k) :
    (Text.hexadecimal n).length ≤ k := by
  induction n using Text.hexadecimal.induct generalizing k with
  | case1 n hn =>
      rw [Text.hexadecimal, if_pos hn]
      exact hk
  | case2 n hn ih =>
      rw [Text.hexadecimal, if_neg hn, List.length_append]
      cases k with
      | zero => omega
      | succ k =>
          have hpow : n / 16 < 16 ^ k := by
            rw [Nat.pow_succ] at h
            omega
          have hk : 0 < k := by
            rcases Nat.eq_zero_or_pos k with rfl | hk
            · simp at hpow
              omega
            · exact hk
          have := ih hk hpow
          simp only [List.length_cons, List.length_nil]
          omega

end TunnelKeeper.Number
