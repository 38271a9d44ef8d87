import Mathlib.Data.Nat.Digits.Defs
import TunnelKeeper.Obfuscation
import TunnelKeeper.Proofs.Text.Blank
import TunnelKeeper.Proofs.Text.Numeral

/-!
# Numbers of headers

Which texts are read as the number of a header, and as which number. `IsNumeral` says what a
numeral is without a reader: it is stated with the digit characters of the standard library and the
value that a list of digits has there. A header has a number exactly if it is a numeral between
blank margins, with or without a plus sign, and the number fits 32 bits (`header_value_spec`).
-/

namespace TunnelKeeper

namespace Number

/-! ## Numerals -/

/-- The number that a digit stands for in a base up to sixteen. Letters may be capital ones. -/
def StandsFor (base : Nat) (c : Char) (d : Nat) : Prop :=
  d < base ∧ (c = d.digitChar ∨ c = d.digitChar.toUpper)

/-- The number that some digits denote, the last of which counts units. -/
def Denotes (base : Nat) (digits : String) (n : Nat) : Prop :=
  ∃ ds : List Nat, digits.toList.Forall₂ (StandsFor base) ds ∧ Nat.ofDigits base ds.reverse = n

/-- What a numeral may begin with, and the base of the digits behind it. -/
def marks : List (String × Nat) := [("", 10), ("0x", 16), ("0X", 16)]

/-- A numeral of a number: a mark, a sign, and at least one digit of the base of the mark. -/
def IsNumeral (sign s : String) (n : Nat) : Prop :=
  ∃ mark base digits, (mark, base) ∈ marks ∧ s = mark ++ sign ++ digits ∧ digits ≠ "" ∧
    Denotes base digits n

variable {base : Nat}

/-- The digits are those that the readers of this library know. -/
theorem stands_for_iff {d : Nat} {c : Char} (hbase : base ≤ 16) :
    StandsFor base c d ↔ digitValue base c = some d := by
  constructor
  · rintro ⟨hd, hc⟩
    have hall : ∀ e < 16, digitValue 16 e.digitChar = some e ∧
        digitValue 16 e.digitChar.toUpper = some e := by
      decide
    have hwide : digitValue 16 c = some d := by
      rcases hc with rfl | rfl
      · exact (hall d (by omega)).1
      · exact (hall d (by omega)).2
    unfold digitValue at hwide ⊢
    exact Option.filter_eq_some_iff.mpr
      ⟨(Option.filter_eq_some_iff.mp hwide).1, decide_eq_true hd⟩
  · intro h
    obtain ⟨hd, hrow⟩ := digit_value_cases h
    have hall : ∀ e < 16, (e < 10 → Char.ofNat (48 + e) = e.digitChar) ∧
        (10 ≤ e → Char.ofNat (87 + e) = e.digitChar ∧
          Char.ofNat (55 + e) = e.digitChar.toUpper) := by
      decide
    obtain ⟨hnumber, hletter⟩ := hall d (by omega)
    refine ⟨hd, ?_⟩
    rw [← Char.ofNat_toNat c]
    rcases hrow with ⟨hc, hten⟩ | ⟨hc, hten, -⟩ | ⟨hc, hten, -⟩
    · exact .inl (hc ▸ hnumber hten)
    · exact .inl (hc ▸ (hletter hten).1)
    · exact .inr (hc ▸ (hletter hten).2)

/-- Some characters are digits if each of them stands for a number. -/
theorem exists_stands_for_iff (hbase : base ≤ 16) {s : List Char} :
    (∃ ds, s.Forall₂ (StandsFor base) ds) ↔ ∀ c ∈ s, IsDigitOf base c := by
  induction s with
  | nil => exact ⟨fun _ c hc => absurd hc List.not_mem_nil, fun _ => ⟨[], .nil⟩⟩
  | cons c s ih =>
      rw [List.forall_mem_cons, ← ih, IsDigitOf, Option.isSome_iff_exists]
      constructor
      · rintro ⟨ds, hds⟩
        cases hds with
        | cons hd hds => exact ⟨⟨_, (stands_for_iff hbase).mp hd⟩, _, hds⟩
      · rintro ⟨⟨d, hd⟩, ds, hds⟩
        exact ⟨d :: ds, .cons ((stands_for_iff hbase).mpr hd) hds⟩

/-- The value of digits is computed from the numbers that they stand for. -/
theorem digits_value_of_stands_for (hbase : base ≤ 16) {s : List Char} {ds : List Nat}
    (h : s.Forall₂ (StandsFor base) ds) (acc : Nat) :
    digitsValue base acc s = ds.foldl (fun n d => d + base * n) acc := by
  induction h generalizing acc with
  | nil => rfl
  | cons hd _ ih =>
      rw [digits_value_cons, (stands_for_iff hbase).mp hd, ih, List.foldl_cons, Option.getD_some,
        Nat.add_comm, Nat.mul_comm]

theorem denotes_iff {n : Nat} {digits : String} (hbase : base ≤ 16) :
    Denotes base digits n ↔
      (∀ c ∈ digits.toList, IsDigitOf base c) ∧ digitsValue base 0 digits.toList = n := by
  have hvalue : ∀ {ds : List Nat}, digits.toList.Forall₂ (StandsFor base) ds →
      digitsValue base 0 digits.toList = Nat.ofDigits base ds.reverse := by
    intro ds hds
    rw [digits_value_of_stands_for hbase hds, Nat.ofDigits_eq_foldr, List.foldr_reverse]
    rfl
  constructor
  · rintro ⟨ds, hds, rfl⟩
    exact ⟨(exists_stands_for_iff hbase).mp ⟨ds, hds⟩, hvalue hds⟩
  · rintro ⟨hdigits, rfl⟩
    obtain ⟨ds, hds⟩ := (exists_stands_for_iff hbase).mpr hdigits
    exact ⟨ds, hds, (hvalue hds).symm⟩

/-- The marks with their bases, one by one. -/
theorem mem_marks_iff {mark : String} :
    (mark, base) ∈ marks ↔
      (mark = "" ∧ base = 10) ∨ (mark = "0x" ∧ base = 16) ∨ (mark = "0X" ∧ base = 16) := by
  simp [marks]

theorem base_of_mark {mark : String} (h : (mark, base) ∈ marks) : 0 < base ∧ base ≤ 16 := by
  rcases mem_marks_iff.mp h with ⟨-, rfl⟩ | ⟨-, rfl⟩ | ⟨-, rfl⟩ <;> decide

/-- The letter of a mark is no digit. -/
theorem letter_not_digit (hbase : base ≤ 16) : ¬ IsDigitOf base 'x' ∧ ¬ IsDigitOf base 'X' := by
  have hsmall : 'x'.toNat = 120 := rfl
  have hcapital : 'X'.toNat = 88 := rfl
  constructor
  · intro h
    obtain ⟨d, hd⟩ := h.exists
    have := digit_value_cases hd
    omega
  · intro h
    obtain ⟨d, hd⟩ := h.exists
    have := digit_value_cases hd
    omega

/-- A numeral is made of the characters of marks, of its sign and of digits. -/
theorem mem_numeral_cases {sign s : String} {n : Nat} {c : Char} (h : IsNumeral sign s n)
    (hc : c ∈ s.toList) : c ∈ ['0', 'x', 'X'] ∨ c ∈ sign.toList ∨ ∃ base, IsDigitOf base c := by
  obtain ⟨mark, base, digits, hmark, rfl, -, hdenotes⟩ := h
  obtain ⟨hdigits, -⟩ := (denotes_iff (base_of_mark hmark).2).mp hdenotes
  rw [String.toList_append, String.toList_append, List.mem_append, List.mem_append] at hc
  rcases hc with (hc | hc) | hc
  · left
    rcases mem_marks_iff.mp hmark with ⟨rfl, -⟩ | ⟨rfl, -⟩ | ⟨rfl, -⟩
    · cases hc
    · exact (show "0x".toList ⊆ ['0', 'x', 'X'] by decide) hc
    · exact (show "0X".toList ⊆ ['0', 'x', 'X'] by decide) hc
  · exact .inr (.inl hc)
  · exact .inr (.inr ⟨base, hdigits c hc⟩)

/-- There is no plus sign in a numeral without a sign. -/
theorem plus_not_mem_of_plain {s : String} {n : Nat} (h : IsNumeral "" s n) : '+' ∉ s.toList := by
  intro hc
  rcases mem_numeral_cases h hc with hmark | hsign | ⟨base, hdigit⟩
  · exact absurd hmark (by decide)
  · cases hsign
  · exact plus_not_digit base hdigit

end Number

namespace Obfuscation

open Number Text

variable {raw : String} {n : Nat}

/-! ## Reading headers -/

/-- What is read behind a mark: a sign and digits. -/
theorem read_behind_mark_iff {mark : String} {base : Nat} (hmark : (mark, base) ∈ marks)
    {s : List Char} :
    (readNumeral base 0x100000000 s).toOption = some n ↔
      ∃ sign ∈ ["", "+"], ∃ digits : String, s = sign.toList ++ digits.toList ∧ digits ≠ "" ∧
        Denotes base digits n ∧ n < 2 ^ 32 := by
  obtain ⟨hbase, hsmall⟩ := base_of_mark hmark
  have hok : (readNumeral base 0x100000000 s).toOption = some n ↔
      readNumeral base 0x100000000 s = .ok n := by
    cases readNumeral base 0x100000000 s <;> simp [Except.toOption]
  rw [hok, read_numeral_eq_ok_iff hbase (by decide)]
  constructor
  · rintro ⟨sign, hsign, ds, rfl, hne, hdigits, hvalue, hn⟩
    refine ⟨sign, hsign, String.ofList ds, ?_, ?_, ?_, hn⟩
    · rw [String.toList_ofList]
    · simpa using hne
    · rw [denotes_iff hsmall, String.toList_ofList]
      exact ⟨hdigits, hvalue⟩
  · rintro ⟨sign, hsign, digits, rfl, hne, hdenotes, hn⟩
    obtain ⟨hdigits, hvalue⟩ := (denotes_iff hsmall).mp hdenotes
    exact ⟨sign, hsign, digits.toList, rfl, by simpa using hne, hdigits, hvalue, hn⟩

/-- The number of a header is read behind some mark. -/
theorem exists_mark (raw : String) :
    ∃ mark base rest, (mark, base) ∈ marks ∧ trimChars raw.toList = mark.toList ++ rest ∧
      headerValue? raw = (readNumeral base 0x100000000 rest).toOption := by
  unfold headerValue?
  split
  · next rest htrim => exact ⟨"0x", 16, rest, by simp [marks], htrim, rfl⟩
  · next rest htrim => exact ⟨"0X", 16, rest, by simp [marks], htrim, rfl⟩
  · exact ⟨"", 10, _, by simp [marks], rfl, rfl⟩

/-- The number of a header is read behind its mark if no letter of a mark comes later. -/
theorem header_value_of_mark {mark : String} {base : Nat} {rest : List Char}
    (hmark : (mark, base) ∈ marks) (htrim : trimChars raw.toList = mark.toList ++ rest)
    (hrest : 'x' ∉ rest ∧ 'X' ∉ rest) :
    headerValue? raw = (readNumeral base 0x100000000 rest).toOption := by
  unfold headerValue?
  rw [htrim]
  rcases mem_marks_iff.mp hmark with ⟨rfl, rfl⟩ | ⟨rfl, rfl⟩ | ⟨rfl, rfl⟩
  · -- Without a mark, a letter in the second place would have to come from the rest.
    have hnone : "".toList ++ rest = rest := by simp
    rw [hnone]
    split
    · exact absurd (by simp) hrest.1
    · exact absurd (by simp) hrest.2
    · rfl
  · rfl
  · rfl

/-- A header has a number exactly if what trimming leaves of it is a numeral of the number. -/
theorem header_value_eq_some_iff :
    headerValue? raw = some n ↔ (∃ sign ∈ ["", "+"], IsNumeral sign (trim raw) n) ∧ n < 2 ^ 32 := by
  constructor
  · intro h
    obtain ⟨mark, base, rest, hmark, htrim, hvalue⟩ := exists_mark raw
    rw [hvalue] at h
    obtain ⟨sign, hsign, digits, rfl, hne, hdenotes, hn⟩ := (read_behind_mark_iff hmark).mp h
    refine ⟨⟨sign, hsign, mark, base, digits, hmark, ?_, hne, hdenotes⟩, hn⟩
    apply String.toList_injective
    rw [trim, htrim]
    simp
  · rintro ⟨⟨sign, hsign, mark, base, digits, hmark, htext, hne, hdenotes⟩, hn⟩
    obtain ⟨hdigits, -⟩ := (denotes_iff (base_of_mark hmark).2).mp hdenotes
    have htrim : trimChars raw.toList = mark.toList ++ (sign.toList ++ digits.toList) := by
      simpa [trim] using congrArg String.toList htext
    have hletter : ∀ c, ¬ IsDigitOf base c → c ≠ '+' → c ∉ sign.toList ++ digits.toList := by
      intro c hc hplus hmem
      simp only [List.mem_cons, List.not_mem_nil, or_false] at hsign
      rcases List.mem_append.mp hmem with hmem | hmem
      · rcases hsign with rfl | rfl
        · cases hmem
        · exact hplus (List.mem_singleton.mp hmem)
      · exact hc (hdigits c hmem)
    obtain ⟨hsmall, hcapital⟩ := letter_not_digit (base_of_mark hmark).2
    rw [header_value_of_mark hmark htrim
      ⟨hletter 'x' hsmall (by decide), hletter 'X' hcapital (by decide)⟩]
    exact (read_behind_mark_iff hmark).mpr ⟨sign, hsign, digits, rfl, hne, hdenotes, hn⟩

/-- No character of a numeral is blank. -/
theorem numeral_not_blank {sign s : String} (hsign : sign ∈ ["", "+"]) (h : IsNumeral sign s n) :
    ∀ c ∈ s.toList, isBlank c = false := by
  intro c hc
  simp only [List.mem_cons, List.not_mem_nil, or_false] at hsign
  rcases mem_numeral_cases h hc with hmark | hsigned | ⟨base, hdigit⟩
  · simp only [List.mem_cons, List.not_mem_nil, or_false] at hmark
    rcases hmark with rfl | rfl | rfl <;> decide
  · rcases hsign with rfl | rfl
    · cases hsigned
    · rw [List.mem_singleton.mp hsigned]
      decide
  · exact not_blank_of_is_digit_of hdigit

/-- The text of a header with a number: a numeral between blank margins. -/
def HasNumber (raw : String) (n : Nat) : Prop :=
  ∃ before s after sign, raw = before ++ s ++ after ∧ isBlankText before = true ∧
    isBlankText after = true ∧ sign ∈ ["", "+"] ∧ IsNumeral sign s n ∧ n < 2 ^ 32

/-- A header is read as a number exactly if it is a numeral of that number between blank margins,
with or without a plus sign before its digits, and the number fits 32 bits. In particular there are
no other texts that are read. -/
theorem header_value_spec (raw : String) :
    (∀ n, headerValue? raw = some n ↔ HasNumber raw n) ∧
      (headerValue? raw = none ↔ ∀ n, ¬ HasNumber raw n) := by
  have hsome : ∀ n, headerValue? raw = some n ↔ HasNumber raw n := by
    intro n
    rw [header_value_eq_some_iff]
    constructor
    · rintro ⟨⟨sign, hsign, hnumeral⟩, hn⟩
      obtain ⟨before, after, hbefore, hafter, hraw⟩ := exists_margins raw
      exact ⟨before, trim raw, after, sign, hraw, hbefore, hafter, hsign, hnumeral, hn⟩
    · rintro ⟨before, s, after, sign, rfl, hbefore, hafter, hsign, hnumeral, hn⟩
      rw [trim_margins hbefore (numeral_not_blank hsign hnumeral) hafter]
      exact ⟨⟨sign, hsign, hnumeral⟩, hn⟩
  refine ⟨hsome, ?_⟩
  rw [Option.eq_none_iff_forall_ne_some]
  exact forall_congr' fun n => not_congr (hsome n)

example : headerValue? "\t0X+001f " = some 31 ∧ headerValue? "4294967296" = none := by
  decide +kernel

end Obfuscation

end TunnelKeeper
