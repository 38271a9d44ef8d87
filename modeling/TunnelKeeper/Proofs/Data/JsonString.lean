import TunnelKeeper.Data.Json.Text
import TunnelKeeper.Proofs.Text.Numeral

/-!
# JSON strings read back

Every text, whatever its characters, is what a reader finds between the quotes that the writer puts
around it, and the reader stops right behind the closing quote.
-/

namespace TunnelKeeper.Json

/-- Content that is read without a fault so far, in reverse, with no half of a pair waiting. -/
def Partial.sound (done : List Char) : Partial := ⟨.ok done, none⟩

@[simp] theorem Partial.sound_push (done : List Char) (c : Char) :
    (Partial.sound done).push c = .sound (c :: done) := rfl

/-- A code unit below the surrogates is a character of its own. -/
theorem Partial.sound_push_unit (done : List Char) {n : Nat} (h : n < 0xD800) :
    (Partial.sound done).pushUnit n = .sound (Char.ofNat n :: done) := by
  have htrail : isTrail n = false := by
    simp only [isTrail, Bool.and_eq_false_iff, decide_eq_false_iff_not]
    omega
  have hlead : isLead n = false := by
    simp only [isLead, Bool.and_eq_false_iff, decide_eq_false_iff_not]
    omega
  simp only [pushUnit, sound, htrail, hlead, Bool.false_eq_true, if_false]
  rfl

/-- Two hexadecimal digits after two zeros stand for a number below 256. -/
theorem hex_quad_hex_digits {n : Nat} (h : n < 256) :
    hexQuad '0' '0' (Text.hexDigit (n / 16)) (Text.hexDigit (n % 16)) = some n := by
  have hzero : Number.digitValue 16 '0' = some 0 := by decide
  have hhigh : n / 16 < 16 := by omega
  have hlow : n % 16 < 16 := Nat.mod_lt n (by decide)
  simp only [hexQuad, hzero, Number.digit_value_hex_digit hhigh,
    Number.digit_value_hex_digit hlow, Option.bind_eq_bind, Option.bind_some]
  congr 1
  omega

/-- A character that needs no escape is read as it stands. -/
theorem scan_string_plain (p : Partial) {c : Char} (hquote : c ≠ '"') (hback : c ≠ '\\')
    (hlow : ¬ c.toNat < 0x20) (rest : List Char) :
    scanString p (c :: rest) = scanString (p.push c) rest := by
  rw [scanString.eq_def]
  split
  case h_7 heq =>
    obtain ⟨rfl, rfl⟩ := List.cons.inj heq
    rw [if_neg hlow]
  all_goals simp_all

/-- A reader takes the escaped form of a character for that character. -/
theorem scan_string_escape_char (done : List Char) (c : Char) (rest : List Char) :
    scanString (.sound done) (escapeChar c ++ rest) = scanString (.sound (c :: done)) rest := by
  -- Seven characters have an escape of their own, and the other low ones are written by number.
  unfold escapeChar
  split
  · simp [scanString, unescape]
  · simp [scanString, unescape]
  · simp [scanString, unescape]
  · simp [scanString, unescape]
  · simp [scanString, unescape]
  · simp [scanString, unescape]
  · simp [scanString, unescape]
  · next hquote hback _ _ _ _ _ =>
      split
      · next hlow =>
          have hn : c.toNat < 256 := by omega
          simp only [List.cons_append, List.nil_append, scanString, hex_quad_hex_digits hn]
          rw [Partial.sound_push_unit done (by omega), Char.ofNat_toNat]
      · next hlow => exact scan_string_plain _ hquote hback hlow rest

/-- Reading a written string gives the text and what follows the closing quote. -/
theorem scan_string_quoted (done s rest : List Char) :
    scanString (.sound done) (s.flatMap escapeChar ++ '"' :: rest) =
      ⟨.ok (done.reverse ++ s), .ok rest⟩ := by
  induction s generalizing done with
  | nil =>
      simp only [List.flatMap_nil, List.nil_append, scanString]
      simp [Partial.closed, Partial.sound, Except.map]
  | cons c s ih =>
      rw [List.flatMap_cons, List.append_assoc, scan_string_escape_char, ih]
      simp

end TunnelKeeper.Json
