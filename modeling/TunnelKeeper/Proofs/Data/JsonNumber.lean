import TunnelKeeper.Data.Json.Numeral
import TunnelKeeper.Proofs.Text.Numeral

/-!
# JSON integers read back

An integer of at most 64 bits, with or without sign, is read back from its decimal form, provided
that what follows does not go on with the number.
-/

namespace TunnelKeeper.Json

open Number

/-- What follows a number does not belong to it. -/
def EndsNumber (rest : List Char) : Prop :=
  ∀ c cs, rest = c :: cs → isDigit c = false ∧ c ≠ '.' ∧ c ≠ 'e' ∧ c ≠ 'E'

theorem ends_number_nil : EndsNumber [] := by
  intro c cs h
  cases h

theorem ends_number_cons {c : Char} (hdigit : isDigit c = false) (hpoint : c ≠ '.')
    (hlower : c ≠ 'e') (hupper : c ≠ 'E') (cs : List Char) : EndsNumber (c :: cs) := by
  intro c' cs' h
  cases h
  exact ⟨hdigit, hpoint, hlower, hupper⟩

/-- The value of a decimal digit is its distance from the digit zero. -/
theorem digit_value_of_is_digit {c : Char} (h : isDigit c = true) :
    digitValue 10 c = some (c.toNat - 48) := by
  simp only [isDigit, Bool.and_eq_true, decide_eq_true_eq] at h
  simp only [digitValue, h, and_self, if_true, Option.filter_some]
  rw [if_pos (by simp only [decide_eq_true_eq]; omega)]

/-- The digits of a decimal numeral are those that a number of JSON is made of. -/
theorem is_digit_of_is_digit_of {c : Char} (h : IsDigitOf 10 c) : isDigit c = true := by
  obtain ⟨d, hd⟩ := h.exists
  have := digit_value_cases hd
  simp only [isDigit, Bool.and_eq_true, decide_eq_true_eq]
  omega

/-- A run of digits ends where something else follows. -/
theorem digit_run_append {ds rest : List Char} (hds : ∀ c ∈ ds, isDigit c = true)
    (hrest : EndsNumber rest) : digitRun (ds ++ rest) = (ds, rest) := by
  have hstop : rest.takeWhile isDigit = [] ∧ rest.dropWhile isDigit = rest := by
    cases rest with
    | nil => exact ⟨rfl, rfl⟩
    | cons c cs => simp [(hrest c cs rfl).1]
  simp [digitRun, List.takeWhile_append_of_pos hds, List.dropWhile_append_of_pos hds, hstop]

/-- All digits of a number below the limit are gathered. -/
theorem gather_eq {limit n : Nat} {ds : List Char} (hds : ∀ c ∈ ds, isDigit c = true)
    (h : digitsValue 10 n ds < limit) : gather limit n ds = (digitsValue 10 n ds, []) := by
  induction ds generalizing n with
  | nil => rfl
  | cons c ds ih =>
      have hc := digit_value_of_is_digit (hds c (by simp))
      simp only [digits_value_cons, hc, Option.getD_some] at h ⊢
      have hlt : n * 10 + (c.toNat - 48) < limit :=
        Nat.lt_of_le_of_lt (le_digits_value (by decide) _ ds) h
      simp only [gather, hlt, if_true]
      exact ih (fun c hc => hds c (by simp [hc])) h

theorem decimal_chars_is_digit (n : Nat) : ∀ c ∈ decimalChars n, isDigit c = true :=
  fun c hc => is_digit_of_is_digit_of (decimal_chars_digits n c hc)

/-- A number of at most 64 bits is read back from its digits. -/
theorem read_number_decimal_chars (negative : Bool) {n : Nat} (hn : n < wordLimit)
    {rest : List Char} (hrest : EndsNumber rest) :
    readNumber negative (decimalChars n ++ rest) = (wholeNumber negative n, some rest) := by
  have hvalue := digits_value_decimal_chars n
  have hgather : gather wordLimit 0 (decimalChars n) = (n, []) := by
    rw [gather_eq (decimal_chars_is_digit n) (by rw [hvalue]; exact hn), hvalue]
  unfold readNumber
  rw [digit_run_append (decimal_chars_is_digit n) hrest]
  split
  · next hnil => exact absurd (Prod.mk.inj hnil).1 (decimal_chars_ne_nil n)
  · next hzero =>
      have := decimal_chars_head_zero (Prod.mk.inj hzero).1
      exact absurd this (by simp)
  · next ds tail _ _ hds =>
      obtain ⟨rfl, rfl⟩ := Prod.mk.inj hds
      simp only [hgather, List.length_nil]
      -- What follows is no fraction and no exponent, so the number is whole.
      split
      · exact absurd rfl (hrest _ _ rfl).2.1
      · exact absurd rfl (hrest _ _ rfl).2.2.1
      · exact absurd rfl (hrest _ _ rfl).2.2.2
      · simp

/-- The integers that are read back as integers: those of 64 bits with or without sign. -/
def IsWord (i : Int) : Prop := -(2 ^ 63 : Int) ≤ i ∧ i < 2 ^ 64

end TunnelKeeper.Json
