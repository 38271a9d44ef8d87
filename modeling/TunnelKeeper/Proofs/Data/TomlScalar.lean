import TunnelKeeper.Data.Toml.Reader
import TunnelKeeper.Proofs.Text.Numeral

/-!
# TOML values read back

A text, a number or a truth value is read back from its written form, provided that the line ends
behind it (`read_value_chars`). Every text can be written: characters that may not stand in a line
are given by number.
-/

namespace TunnelKeeper.Toml

open Number

/-- A value that is written within a line. -/
inductive Scalar
  | text (s : String)
  | number (n : Nat)
  | truth (b : Bool)

namespace Scalar

/-- The data of a value. -/
def toData : Scalar → Data
  | .text s => .text s
  | .number n => .nat n
  | .truth b => .bool b

/-- Numbers are written with a sign bit, so the greatest ones have no written form. -/
def Fits : Scalar → Prop
  | .number n => n < 0x8000000000000000
  | _ => True

end Scalar

/-! ## Texts -/

/-- A character within quotes. -/
def escapeChar (c : Char) : List Char :=
  if c = '"' ∨ c = '\\' then ['\\', c]
  else if isPlain c then [c]
  else ['\\', 'u', '0', '0', Text.hexDigit (c.toNat / 16), Text.hexDigit (c.toNat % 16)]

theorem escape_char_ne_nil (c : Char) : escapeChar c ≠ [] := by
  unfold escapeChar
  split
  · exact List.cons_ne_nil _ _
  · split <;> exact List.cons_ne_nil _ _

/-- Four hexadecimal digits, of which the first two are zeros, are the number of a character. -/
theorem read_code_point_hex_digits {c : Char} (h : c.toNat < 256) (rest : List Char) :
    readCodePoint 4 ('0' :: '0' :: Text.hexDigit (c.toNat / 16) ::
      Text.hexDigit (c.toNat % 16) :: rest) = some (c, rest) := by
  have hzero : digitValue 16 '0' = some 0 := by decide
  have hvalid : c.toNat.isValidChar := c.valid
  have hvalue : hexValue? ['0', '0', Text.hexDigit (c.toNat / 16),
      Text.hexDigit (c.toNat % 16)] = some c.toNat := by
    simp only [hexValue?, List.foldlM_cons, List.foldlM_nil, hzero,
      digit_value_hex_digit (show c.toNat / 16 < 16 by omega),
      digit_value_hex_digit (Nat.mod_lt c.toNat (by decide : 0 < 16)), Option.map_some,
      Option.bind_eq_bind, Option.bind_some, Option.pure_def]
    congr 1
    omega
  simp [readCodePoint, hvalue, charOf?, hvalid, Char.ofNat_toNat]

/-- A reader takes the written form of a character for that character. -/
theorem read_line_escape_char (fuel : Nat) (done : List Char) (c : Char) (rest : List Char) :
    readLine '"' true (fuel + 1) done (escapeChar c ++ rest) =
      readLine '"' true fuel (c :: done) rest := by
  unfold escapeChar
  split
  · next hmark => rcases hmark with rfl | rfl <;> simp [readLine, readEscape]
  · next hmark =>
      obtain ⟨hquote, hback⟩ := not_or.mp hmark
      split
      · next hplain => simp [readLine, hquote, hback, hplain]
      · next hplain =>
          have hlt : c.toNat < 256 := by
            simp only [isPlain, Bool.or_eq_true, Bool.and_eq_true, decide_eq_true_eq] at hplain
            omega
          simp only [List.cons_append, List.nil_append, readLine, readEscape,
            read_code_point_hex_digits hlt]
          simp

/-- Reading a written text gives the text and what follows the closing quote. -/
theorem read_line_quoted (done s rest : List Char) {fuel : Nat} (hfuel : s.length < fuel) :
    readLine '"' true fuel done (s.flatMap escapeChar ++ '"' :: rest) =
      some (String.ofList (done.reverse ++ s), rest) := by
  induction s generalizing done fuel with
  | nil =>
      obtain ⟨fuel, rfl⟩ : ∃ k, fuel = k + 1 := ⟨fuel - 1, by simp at hfuel; omega⟩
      simp [readLine]
  | cons c s ih =>
      obtain ⟨fuel, rfl⟩ : ∃ k, fuel = k + 1 := ⟨fuel - 1, by simp at hfuel; omega⟩
      rw [List.flatMap_cons, List.append_assoc, read_line_escape_char,
        ih (c :: done) (by simpa using hfuel)]
      simp

theorem length_le_length_flat_map_escape_char (s : List Char) :
    s.length ≤ (s.flatMap escapeChar).length := by
  induction s with
  | nil => exact Nat.le_refl 0
  | cons c s ih =>
      have hpos := List.length_pos_iff.mpr (escape_char_ne_nil c)
      rw [List.flatMap_cons, List.length_append, List.length_cons]
      omega

/-- A written text does not begin with three quotes if something else follows it. -/
theorem after_leading_quotes (s rest : List Char) :
    Text.afterLeading ['"', '"', '"'] ('"' :: (s.flatMap escapeChar ++ '"' :: '\n' :: rest)) =
      none := by
  cases s with
  | nil => simp [Text.afterLeading]
  | cons c s =>
      rw [List.flatMap_cons, escapeChar]
      split
      · simp [Text.afterLeading]
      · next hmark =>
          split
          · simp [Text.afterLeading, eq_comm, (not_or.mp hmark).1]
          · simp [Text.afterLeading]

/-- A text is read back from between its quotes. -/
theorem read_string_quoted (s rest : List Char) :
    readString '"' true ('"' :: (s.flatMap escapeChar ++ '"' :: '\n' :: rest)) =
      some (String.ofList s, '\n' :: rest) := by
  have hlength := length_le_length_flat_map_escape_char s
  rw [readString, after_leading_quotes]
  refine read_line_quoted [] s _ ?_
  simp only [List.length_cons, List.length_append]
  omega

/-! ## Numbers -/

theorem ne_of_is_digit_of {c : Char} (h : IsDigitOf 10 c) (other : Char)
    (hother : ¬ IsDigitOf 10 other := by decide) : c ≠ other := fun heq => hother (heq ▸ h)

section Digits

variable {ds rest : List Char} (hds : ∀ c ∈ ds, IsDigitOf 10 c)
include hds

/-- Nothing else than a digit or the end of the line is found where digits stand. -/
theorem read_mark_digits (mark : Char) (hmark : ¬ IsDigitOf 10 mark) (hfeed : mark ≠ '\n') :
    readMark mark (ds ++ '\n' :: rest) = none := by
  cases ds with
  | nil => simp [readMark, hfeed.symm]
  | cons c ds => simp [readMark, ne_of_is_digit_of (hds c List.mem_cons_self) mark hmark]

/-- A number of some digits leaves digits behind. -/
theorem read_part_digits {digits least most n : Nat} {left : List Char}
    (h : readPart digits least most (ds ++ '\n' :: rest) = some (n, left)) :
    ∃ ds', (∀ c ∈ ds', IsDigitOf 10 c) ∧ left = ds' ++ '\n' :: rest := by
  unfold readPart at h
  simp only [Option.ite_none_right_eq_some, Option.some.injEq, Prod.mk.injEq] at h
  obtain ⟨⟨hlength, hall⟩, -, -, rfl⟩ := h
  have hle : digits ≤ ds.length := by
    -- Otherwise the end of the line would be among the digits.
    refine Nat.le_of_not_lt fun hlt => ?_
    have hfeed : '\n' ∈ (ds ++ '\n' :: rest).take digits := by
      rw [List.take_append, List.mem_append]
      obtain ⟨k, hk⟩ : ∃ k, digits - ds.length = k + 1 := ⟨digits - ds.length - 1, by omega⟩
      rw [hk]
      exact .inr List.mem_cons_self
    exact absurd (List.all_eq_true.mp hall _ hfeed) (by decide)
  refine ⟨ds.drop digits, fun c hc => hds c (List.drop_subset _ _ hc), ?_⟩
  rw [List.drop_append_of_le_length hle]

/-- Digits alone are neither a date nor a time. -/
theorem read_moment_digits : readMoment (ds ++ '\n' :: rest) = none := by
  have hdate : readDate (ds ++ '\n' :: rest) = none := by
    unfold readDate
    cases hpart : readPart 4 0 9999 (ds ++ '\n' :: rest) with
    | none => rfl
    | some found =>
        obtain ⟨ds', hds', hleft⟩ := read_part_digits hds hpart
        simp [hleft, read_mark_digits hds' '-' (by decide) (by decide)]
  have htime : readTime (ds ++ '\n' :: rest) = none := by
    unfold readTime
    cases hpart : readPart 2 0 23 (ds ++ '\n' :: rest) with
    | none => rfl
    | some found =>
        obtain ⟨ds', hds', hleft⟩ := read_part_digits hds hpart
        simp [hleft, read_mark_digits hds' ':' (by decide) (by decide)]
  rw [readMoment, hdate]
  exact htime

/-- A run of digits is read up to the end of the line. -/
theorem read_digits_line (hne : ds ≠ []) :
    readDigits 10 (ds ++ '\n' :: rest) = some (ds, '\n' :: rest) := by
  have hmark : ∀ c ∈ ds, c ≠ '_' := by
    rintro c hc rfl
    exact absurd (hds '_' hc) (by decide)
  have hrun : (ds ++ '\n' :: rest).takeWhile
      (fun c => (digitValue 10 c).isSome || c = '_') = ds := by
    have hdigit : ∀ c ∈ ds, ((digitValue 10 c).isSome || c = '_') = true := by
      intro c hc
      have hsome : (digitValue 10 c).isSome := hds c hc
      simp [hsome]
    rw [List.takeWhile_append_of_pos hdigit]
    simp [show digitValue 10 '\n' = none by decide]
  have hhead : ds.head? ≠ none ∧ ds.head? ≠ some '_' :=
    ⟨by simpa using hne, fun h => hmark _ (List.mem_of_mem_head? h) rfl⟩
  have hlast : ds.getLast? ≠ some '_' := fun h => hmark _ (List.mem_of_mem_getLast? h) rfl
  have hdoubled : ∀ pair ∈ ds.zip (ds.drop 1), pair.1 ≠ '_' :=
    fun pair hpair => hmark pair.1 (List.of_mem_zip hpair).1
  have hkept : ds.filter (· ≠ '_') = ds := List.filter_eq_self.mpr fun c hc => by simp [hmark c hc]
  unfold readDigits
  simp only [hrun, hhead, hlast, hkept, false_or, List.any_eq_true]
  rw [if_neg, List.drop_left]
  rintro ⟨pair, hpair, hmarks⟩
  simp [hdoubled pair hpair] at hmarks

end Digits

/-- The value of digits, however it is worked out. -/
theorem decimal_value_eq {ds : List Char} (hds : ∀ c ∈ ds, IsDigitOf 10 c) :
    decimalValue ds = digitsValue 10 0 ds := by
  suffices hfold : ∀ acc, ds.foldl (fun n c => n * 10 + (c.toNat - 48)) acc = digitsValue 10 acc ds
    from hfold 0
  induction ds with
  | nil => exact fun acc => rfl
  | cons c ds ih =>
      intro acc
      obtain ⟨hc, hrest⟩ := List.forall_mem_cons.mp hds
      obtain ⟨d, hd⟩ := hc.exists
      have hvalue := digit_value_cases hd
      have hdigit : c.toNat - 48 = d := by omega
      rw [List.foldl_cons, ih hrest, digits_value_cons, hd, hdigit, Option.getD_some]

/-- The digits of a number are read up to the end of the line. -/
theorem read_whole_decimal_chars (n : Nat) (rest : List Char) :
    readWhole (decimalChars n ++ '\n' :: rest) = some (decimalChars n, '\n' :: rest) := by
  have hdigits : readDigits 10 (decimalChars n ++ '\n' :: rest) =
      some (decimalChars n, '\n' :: rest) :=
    read_digits_line (decimal_chars_digits n) (decimal_chars_ne_nil n)
  obtain ⟨c, ds, hchars, -⟩ := decimal_chars_eq_cons n
  rw [hchars] at hdigits ⊢
  by_cases hzero : c = '0'
  · -- A leading zero is the whole number.
    subst hzero
    rw [decimal_chars_head_zero hchars]
    rfl
  · rw [← hdigits, List.cons_append, readWhole.eq_def]
    split
    · next heq => exact absurd (List.cons.inj heq).1 hzero
    · rfl

/-- A number in the range is read back from its digits by the reader of decimals. -/
theorem read_decimal_decimal_chars {n : Nat} (h : n < 0x8000000000000000) (rest : List Char) :
    readDecimal (decimalChars n ++ '\n' :: rest) = some (.nat n, '\n' :: rest) := by
  have hvalue := (decimal_value_eq (decimal_chars_digits n)).trans (digits_value_decimal_chars n)
  obtain ⟨c, ds, hchars, hc⟩ := decimal_chars_eq_cons n
  have hsign : readSign (decimalChars n ++ '\n' :: rest) =
      (false, decimalChars n ++ '\n' :: rest) := by
    rw [hchars, List.cons_append, readSign.eq_def]
    split
    · next heq => exact absurd (List.cons.inj heq).1 (ne_of_is_digit_of hc _)
    · next heq => exact absurd (List.cons.inj heq).1 (ne_of_is_digit_of hc _)
    · rfl
  have hnamed : readNamed false (decimalChars n ++ '\n' :: rest) = none := by
    rw [hchars, List.cons_append, readNamed.eq_def]
    split
    · next heq => exact absurd (List.cons.inj heq).1 (ne_of_is_digit_of hc _)
    · next heq => exact absurd (List.cons.inj heq).1 (ne_of_is_digit_of hc _)
    · rfl
  simp only [readDecimal, hsign, hnamed, read_whole_decimal_chars, readFraction, readExponent,
    Option.bind_eq_bind, Option.bind_some]
  simp [integerOf, hvalue, h, Data.nat]

/-- A number in the range is read back from its digits. -/
theorem read_number_chars {n : Nat} (h : n < 0x8000000000000000) (rest : List Char) :
    readNumber (decimalChars n ++ '\n' :: rest) = some (.nat n, '\n' :: rest) := by
  have hread := read_decimal_decimal_chars h rest
  obtain ⟨c, ds, hchars, -⟩ := decimal_chars_eq_cons n
  rw [hchars, List.cons_append] at hread ⊢
  -- No digits follow a zero, so no other base is asked for.
  have hzero : ∀ {x tail}, x ≠ '\n' → c :: (ds ++ '\n' :: rest) ≠ '0' :: x :: tail := by
    intro x tail hx heq
    obtain ⟨rfl, htail⟩ := List.cons.inj heq
    rw [decimal_chars_head_zero hchars] at htail
    exact hx (List.cons.inj htail).1.symm
  rw [← hread, readNumber.eq_def]
  split
  · next heq => exact absurd heq (hzero (by decide))
  · next heq => exact absurd heq (hzero (by decide))
  · next heq => exact absurd heq (hzero (by decide))
  · rfl

/-- Digits alone are a number. -/
theorem read_numeric_chars {n : Nat} (h : n < 0x8000000000000000) (rest : List Char) :
    readNumeric (decimalChars n ++ '\n' :: rest) = some (.nat n, '\n' :: rest) := by
  rw [readNumeric, read_moment_digits (decimal_chars_digits n)]
  exact read_number_chars h rest

/-! ## Values -/

/-- A value as it is written. -/
def Scalar.chars : Scalar → List Char
  | .text s => '"' :: (s.toList.flatMap escapeChar ++ ['"'])
  | .number n => decimalChars n
  | .truth true => ['t', 'r', 'u', 'e']
  | .truth false => ['f', 'a', 'l', 's', 'e']

/-- A value does not begin with a blank. -/
theorem skip_blanks_chars (v : Scalar) (rest : List Char) :
    skipBlanks (v.chars ++ rest) = v.chars ++ rest := by
  cases v with
  | text s => rfl
  | number n =>
      obtain ⟨c, ds, hchars, hc⟩ := decimal_chars_eq_cons n
      have hblank : isBlank c = false := by
        simp [isBlank, ne_of_is_digit_of hc ' ', ne_of_is_digit_of hc '\t']
      simp [Scalar.chars, hchars, skipBlanks, hblank]
  | truth b => cases b <;> rfl

/-- A value is read back if the line ends behind it. -/
theorem read_value_chars {v : Scalar} (h : v.Fits) (fuel depth : Nat) (rest : List Char) :
    readValue (fuel + 1) depth (v.chars ++ '\n' :: rest) = some (v.toData, '\n' :: rest) := by
  cases v with
  | text s =>
      have hread := read_string_quoted s.toList rest
      simp only [Scalar.chars, List.cons_append, List.append_assoc, List.nil_append, readValue,
        hread, Option.map_some, String.ofList_toList, Scalar.toData]
  | number n =>
      have hread := read_numeric_chars h rest
      obtain ⟨c, ds, hchars, hc⟩ := decimal_chars_eq_cons n
      rw [Scalar.chars, Scalar.toData, ← hread, hchars, List.cons_append, readValue.eq_def]
      simp only
      split
      case h_7 => rfl
      -- A digit begins neither a text nor a container nor a truth value.
      all_goals next heq => exact absurd (List.cons.inj heq).1 (ne_of_is_digit_of hc _)
  | truth b => cases b <;> rfl

end TunnelKeeper.Toml
