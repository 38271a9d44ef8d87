import TunnelKeeper.Instant
import TunnelKeeper.Proofs.Text.Numeral

/-!
# Instants read back

Every instant is read back from its text (`parse_text`): years of any length, fractions of three,
six and nine digits, and sixtieth seconds. There is a lemma for each part of the text, which says
what its reader gives and where it stops.
-/

namespace TunnelKeeper.Instant

open Text Number

/-! ## Numbers and marks -/

/-- A number is read from its digits. -/
theorem read_number_digits (most : Option Nat) {ds rest : List Char}
    (hds : ∀ c ∈ ds, IsDigitOf 10 c) (hne : ds ≠ []) (hrest : EndsDigits 10 rest)
    (hmost : ∀ n, most = some n → ds.length ≤ n) (hlt : digitsValue 10 0 ds < 0x8000000000000000) :
    readNumber most (ds ++ rest) = .ok (digitsValue 10 0 ds, rest) := by
  have hread := read_digits_eq (by decide) hds hlt
  cases most with
  | none => simp only [readNumber, take_while_digits hds hrest, hread]; simp [hne]
  | some n =>
      have htake : ds.take n = ds := List.take_of_length_le (hmost n rfl)
      simp only [readNumber, take_while_digits hds hrest, htake, hread]
      simp [hne]

theorem trim_left_cons {c : Char} (h : isBlank c = false) (cs : List Char) :
    trimLeft (c :: cs) = c :: cs := by
  simp [trimLeft, h]

/-- Nothing is trimmed from a text that begins with a digit. -/
theorem trim_left_digits {ds : List Char} (hds : ∀ c ∈ ds, IsDigitOf 10 c) (hne : ds ≠ [])
    (rest : List Char) : trimLeft (ds ++ rest) = ds ++ rest := by
  cases ds with
  | nil => exact absurd rfl hne
  | cons c ds => exact trim_left_cons (not_blank_of_is_digit_of (hds c (by simp))) _

/-- A mark is read if nothing stands before it. -/
theorem read_mark_self {mark : Char} (h : isBlank mark = false) (rest : List Char) :
    readMark mark (mark :: rest) = .ok rest := by
  simp [readMark, trim_left_cons h]

/-- A part of two digits is read back if it is within its bounds. -/
theorem read_part_padded (least most : Nat) {n : Nat} (hleast : least ≤ n) (hmost : n ≤ most)
    (hn : n < 100) {rest : List Char} (hrest : EndsDigits 10 rest) :
    readPart least most (paddedChars 2 n ++ rest) = .ok (n, rest) := by
  have hvalue := digits_value_padded_chars (show n < 10 ^ 2 by omega)
  have hne : paddedChars 2 n ≠ [] := List.ne_nil_of_length_pos (by simp)
  have hread := read_number_digits (some 2) (padded_chars_digits 2 n) hne hrest
    (by simp) (by rw [hvalue]; omega)
  rw [readPart, trim_left_digits (padded_chars_digits 2 n) hne, hread, hvalue]
  simp [bind, Except.bind, hleast, hmost]

/-! ## The year -/

/-- Zeros in front do not change the value of digits. -/
theorem digits_value_replicate_zero (k : Nat) (ds : List Char) :
    digitsValue 10 0 (List.replicate k '0' ++ ds) = digitsValue 10 0 ds := by
  have hzero : digitValue 10 '0' = some 0 := by decide
  induction k with
  | zero => rfl
  | succ k ih => simpa [List.replicate_succ, hzero] using ih

/-- The years of the calendar fit the reader. -/
theorem year_fits {year : Int} (hfirst : firstYear ≤ year) (hlast : year ≤ lastYear) :
    -0x80000000 ≤ year ∧ year < 0x80000000 :=
  ⟨Int.le_trans (by decide) hfirst, Int.lt_of_le_of_lt hlast (by decide)⟩

theorem nat_abs_year_lt {year : Int} (hfirst : firstYear ≤ year) (hlast : year ≤ lastYear) :
    year.natAbs < 0x8000000000000000 := by
  have hsmall : year.natAbs ≤ 262143 := by
    simp only [firstYear, lastYear] at hfirst hlast
    omega
  exact Nat.lt_of_le_of_lt hsmall (by decide)

/-- Four digits are read back as they are. -/
theorem read_signed_short {n : Nat} (hn : n < 10 ^ 4) {rest : List Char}
    (hrest : EndsDigits 10 rest) :
    readSigned (paddedChars 4 n ++ rest) = .ok ((n : Int), rest) := by
  have hvalue := digits_value_padded_chars hn
  have hne : paddedChars 4 n ≠ [] := List.ne_nil_of_length_pos (by simp)
  have hread := read_number_digits (some 4) (padded_chars_digits 4 n) hne
    hrest (by simp) (by rw [hvalue]; exact Nat.lt_trans hn (by decide))
  -- No digit is a sign, so the year is read as it stands.
  have hsign : ∀ mark tail, ¬ IsDigitOf 10 mark → paddedChars 4 n ++ rest ≠ mark :: tail := by
    intro mark tail hmark heq
    cases hds : paddedChars 4 n with
    | nil => exact hne hds
    | cons c ds =>
        rw [hds] at heq
        have hc := padded_chars_digits 4 n c (by simp [hds])
        exact hmark ((List.cons.inj heq).1 ▸ hc)
  rw [readSigned, trim_left_digits (padded_chars_digits 4 n) hne]
  split
  · next heq => exact absurd heq (hsign '-' _ (by decide))
  · next heq => exact absurd heq (hsign '+' _ (by decide))
  · simp only [hread, hvalue, bind, Except.bind]

/-- Digits after a sign are read back with their sign. -/
theorem read_signed_long {year : Int} {ds : List Char} (hdigits : ∀ c ∈ ds, IsDigitOf 10 c)
    (hne : ds ≠ []) (hvalue : digitsValue 10 0 ds = year.natAbs)
    (hlt : year.natAbs < 0x8000000000000000)
    {rest : List Char} (hrest : EndsDigits 10 rest) :
    readSigned ((if year < 0 then '-' else '+') :: (ds ++ rest)) = .ok (year, rest) := by
  have hread := read_number_digits none hdigits hne hrest (by simp)
    (by rw [hvalue]; exact hlt)
  rw [hvalue] at hread
  split
  · next hneg =>
      have hback : -((year.natAbs : Nat) : Int) = year := by omega
      simp only [readSigned, trim_left_cons (show isBlank '-' = false by decide), hread, bind,
        Except.bind, hback]
  · next hpos =>
      have hback : ((year.natAbs : Nat) : Int) = year := by omega
      simp only [readSigned, trim_left_cons (show isBlank '+' = false by decide), hread, bind,
        Except.bind, hback]

/-- The text of a year is read back, whatever its sign and length. -/
theorem read_signed_year_chars {year : Int} (hlt : year.natAbs < 0x8000000000000000)
    {rest : List Char} (hrest : EndsDigits 10 rest) :
    readSigned (yearChars year ++ rest) = .ok (year, rest) := by
  unfold yearChars
  split
  · next hshort =>
      have hback : ((year.toNat : Nat) : Int) = year := Int.toNat_of_nonneg hshort.1
      rw [read_signed_short (by omega) hrest, hback]
  · refine read_signed_long ?_ ?_ ?_ hlt hrest
    · intro c hc
      rcases List.mem_append.mp hc with hc | hc
      · rw [List.eq_of_mem_replicate hc]
        decide
      · exact decimal_chars_digits _ c hc
    · simp [decimal_chars_ne_nil]
    · exact (digits_value_replicate_zero _ _).trans (digits_value_decimal_chars _)

/-- A year of the calendar is read back. -/
theorem read_year_year_chars {year : Int} (hfirst : firstYear ≤ year) (hlast : year ≤ lastYear)
    {rest : List Char} (hrest : EndsDigits 10 rest) :
    readYear (yearChars year ++ rest) = .ok (year, rest) := by
  rw [readYear, read_signed_year_chars (nat_abs_year_lt hfirst hlast) hrest]
  exact if_pos (year_fits hfirst hlast)

/-! ## The fraction and the zone -/

/-- Digits after the point are read back as billionths. -/
theorem read_fraction_padded {width value : Nat} (hpos : 0 < width) (hwidth : width ≤ 9)
    (hvalue : value < 10 ^ width) {rest : List Char} (hrest : EndsDigits 10 rest) :
    readFraction ('.' :: (paddedChars width value ++ rest)) =
      .ok (value * 10 ^ (9 - width), rest) := by
  have hdigits := digits_value_padded_chars hvalue
  have hbound : value < 0x8000000000000000 := by
    have : 10 ^ width ≤ 10 ^ 9 := Nat.pow_le_pow_right (by decide) hwidth
    omega
  have hread := read_number_digits (some 9) (padded_chars_digits width value)
    (List.ne_nil_of_length_pos (by simpa using hpos)) hrest (by simpa using hwidth)
    (by rw [hdigits]; exact hbound)
  have hdrop : rest.dropWhile (fun c => (digitValue 10 c).isSome) = rest := by
    cases rest with
    | nil => rfl
    | cons c cs =>
        have hc := hrest c cs rfl
        simp [show (digitValue 10 c).isSome = false by simpa [IsDigitOf] using hc]
  simp only [readFraction, hread, hdigits, bind, Except.bind, hdrop, List.length_append,
    length_padded_chars, Nat.add_sub_cancel]
  rfl

/-- The part of a second is read back. -/
theorem read_fraction_fraction_chars {nanos : Nat} (h : nanos < 1000000000) {rest : List Char}
    (hrest : EndsDigits 10 rest) (hpoint : ∀ cs, rest ≠ '.' :: cs) :
    readFraction (fractionChars nanos ++ rest) = .ok (nanos, rest) := by
  unfold fractionChars
  split
  · next hzero =>
      rw [List.nil_append, readFraction.eq_def]
      split
      · exact absurd rfl (hpoint _)
      · rw [hzero]
  · split
    · rw [List.cons_append, read_fraction_padded (by decide) (by decide) (by omega) hrest]
      congr 2
      omega
    · split
      · rw [List.cons_append, read_fraction_padded (by decide) (by decide) (by omega) hrest]
        congr 2
        omega
      · rw [List.cons_append, read_fraction_padded (by decide) (by decide) (by omega) hrest]
        congr 2
        omega

/-- The mark of the common time ends a text. -/
theorem read_zone_common : readZone (trimLeft ['Z']) = .ok (0, []) := by
  simp [trim_left_cons (show isBlank 'Z' = false by decide), readZone]

/-! ## The whole text -/

/-- A month has at most 31 days. -/
theorem days_in_month_le (year : Int) (month : Nat) : daysInMonth year month ≤ 31 := by
  unfold daysInMonth
  split
  · split <;> decide
  · decide
  · decide
  · decide
  · decide
  · decide

/-- The parts of a date of the calendar are within the bounds of their readers. -/
theorem date_bounds {d : Date} (h : d.isValid) :
    firstYear ≤ d.year ∧ d.year ≤ lastYear ∧ 1 ≤ d.month ∧ d.month ≤ 12 ∧ 1 ≤ d.day ∧
      d.day ≤ 31 := by
  simp only [Date.isValid, Bool.and_eq_true, decide_eq_true_eq] at h
  obtain ⟨⟨⟨⟨⟨hfirst, hlast⟩, hmonth⟩, hmonths⟩, hday⟩, hdays⟩ := h
  exact ⟨hfirst, hlast, hmonth, hmonths, hday, Nat.le_trans hdays (days_in_month_le _ _)⟩

/-- A moment is the one of its parts. -/
theorem of_parts_self (i : Instant) : ofParts? i.date i.second i.nanos = some i :=
  dif_pos i.valid

/-- The common time is not moved. -/
theorem shift_zero (i : Instant) : shift i.date i.second i.nanos 0 = some i := by
  have hsecond := i.valid.2.1
  have hlow : ¬ (i.second : Int) - 0 < 0 := by omega
  have hhigh : ¬ (86400 : Int) ≤ (i.second : Int) - 0 := by omega
  have hback : ((i.second : Int) - 0).toNat = i.second := by omega
  rw [shift, if_neg hlow, if_neg hhigh, hback, of_parts_self]

/-- The second that is written, which is sixty for a sixtieth second. -/
def writtenSecond (i : Instant) : Nat := i.second % 60 + (if 1000000000 ≤ i.nanos then 1 else 0)

/-- The part of a second that is written. -/
def writtenNanos (i : Instant) : Nat :=
  if 1000000000 ≤ i.nanos then i.nanos - 1000000000 else i.nanos

theorem written_second_le (i : Instant) : i.writtenSecond ≤ 60 := by
  unfold writtenSecond
  split <;> omega

theorem written_nanos_lt (i : Instant) : i.writtenNanos < 1000000000 := by
  have hnanos := i.valid.2.2.1
  unfold writtenNanos
  split <;> omega

/-- What is written of the seconds tells the moment apart. -/
theorem written_back (i : Instant) :
    (if i.writtenSecond = 60 then (59, i.writtenNanos + 1000000000)
      else (i.writtenSecond, i.writtenNanos)) = (i.second % 60, i.nanos) := by
  -- A sixtieth second is kept as a second whose fraction is a second too long.
  have hleap := i.valid.2.2.2
  unfold writtenSecond writtenNanos
  by_cases h : 1000000000 ≤ i.nanos
  · have hlast := hleap h
    simp only [h, if_true, hlast, Prod.mk.injEq, true_and]
    omega
  · have hlow : i.second % 60 < 60 := Nat.mod_lt _ (by decide)
    simp only [h, if_false, Nat.add_zero]
    rw [if_neg (by omega)]

/-- The text of a moment, part by part. -/
theorem chars_eq (i : Instant) : i.chars =
    yearChars i.date.year ++ ('-' :: (paddedChars 2 i.date.month ++
      ('-' :: (paddedChars 2 i.date.day ++ ('T' :: (paddedChars 2 (i.second / 3600) ++
        (':' :: (paddedChars 2 (i.second / 60 % 60) ++ (':' :: (paddedChars 2 i.writtenSecond ++
          (fractionChars i.writtenNanos ++ ['Z']))))))))))) := by
  simp [chars, writtenSecond, writtenNanos]

theorem ends_digits_fraction_chars (nanos : Nat) :
    EndsDigits 10 (fractionChars nanos ++ ['Z']) := by
  unfold fractionChars
  split
  · exact ends_digits_cons (by decide) _
  · split
    · exact ends_digits_cons (by decide) _
    · split <;> exact ends_digits_cons (by decide) _

/-- Every moment is read back from its text. -/
theorem parse_text (i : Instant) : parse i.text = .ok i := by
  obtain ⟨hfirst, hlast, hmonth, hmonths, hday, hdays⟩ := date_bounds i.valid.1
  have hsecond := i.valid.2.1
  have hdash : ∀ rest, EndsDigits 10 ('-' :: rest) := ends_digits_cons (by decide)
  have hmiddle : ∀ rest, EndsDigits 10 ('T' :: rest) := ends_digits_cons (by decide)
  have hcolon : ∀ rest, EndsDigits 10 (':' :: rest) := ends_digits_cons (by decide)
  have hdash_read : ∀ rest, readMark '-' ('-' :: rest) = .ok rest := read_mark_self (by decide)
  have hcolon_read : ∀ rest, readMark ':' (':' :: rest) = .ok rest := read_mark_self (by decide)
  have hhour : i.second / 3600 ≤ 23 := by omega
  have hminute : i.second / 60 % 60 ≤ 59 := by omega
  have hclock : (i.second / 3600 * 60 + i.second / 60 % 60) * 60 + i.second % 60 = i.second := by
    omega
  have hfraction := read_fraction_fraction_chars i.written_nanos_lt
    (ends_digits_cons (show digitValue 10 'Z' = none by decide) []) (by simp)
  rw [parse, text, String.toList_ofList, chars_eq, parseChars]
  simp only [bind, Except.bind, read_year_year_chars hfirst hlast (hdash _), hdash_read,
    read_part_padded 1 12 hmonth hmonths (by omega) (hdash _),
    read_part_padded 1 31 hday hdays (by omega) (hmiddle _), true_or, if_true,
    read_part_padded 0 23 (Nat.zero_le _) hhour (by omega) (hcolon _), hcolon_read,
    read_part_padded 0 59 (Nat.zero_le _) hminute (by omega) (hcolon _),
    read_part_padded 0 60 (Nat.zero_le _) i.written_second_le
      (Nat.lt_of_le_of_lt i.written_second_le (by decide)) (ends_digits_fraction_chars _),
    hfraction, read_zone_common, written_back]
  have hshift : shift ⟨i.date.year, i.date.month, i.date.day⟩ i.second i.nanos 0 = some i :=
    shift_zero i
  have hvalid : (⟨i.date.year, i.date.month, i.date.day⟩ : Date).isValid = true := i.valid.1
  rw [hclock, hshift, hvalid]
  rfl

end TunnelKeeper.Instant
