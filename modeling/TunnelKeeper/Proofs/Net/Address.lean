import TunnelKeeper.Net.Address
import TunnelKeeper.Proofs.Text.Numeral

/-!
# Addresses read back

Every address of either family is read back from its text (`parse_address_address_chars`). For the
long family this covers the dotted form of an embedded short address, the form with all eight
groups, and the form in which a run of zero groups is left out.
-/

namespace TunnelKeeper.Net

open Number Text

/-! ## Numbers at the front of a text -/

/-- A number is read from its digits. -/
theorem read_number_eq {base : Nat} (most : Nat) (leadingZeros : Bool) {ds rest : List Char}
    (hds : ∀ c ∈ ds, IsDigitOf base c) (hrest : EndsDigits base rest) (hne : ds ≠ [])
    (hmost : ds.length ≤ most) (hzero : leadingZeros = true ∨ ∀ cs, ds = '0' :: cs → cs = []) :
    readNumber base most leadingZeros (ds ++ rest) = some (digitsValue base 0 ds, rest) := by
  have hlead : (!leadingZeros && ds.head? == some '0' && decide (1 < ds.length)) = false := by
    rcases hzero with rfl | hzero
    · rfl
    · cases ds with
      | nil => exact absurd rfl hne
      | cons c cs =>
          by_cases hc : c = '0'
          · subst hc
            simp [hzero cs rfl]
          · simp [hc]
  simp only [readNumber, take_while_digits hds hrest, hlead]
  simp [hne, hmost, digitsValue]

/-- What a number leaves unread begins with something else than a digit. -/
theorem read_number_rest {base most : Nat} {leadingZeros : Bool} {s rest : List Char} {n : Nat}
    (h : readNumber base most leadingZeros s = some (n, rest)) :
    rest = s.dropWhile fun c => (digitValue base c).isSome := by
  simp only [readNumber] at h
  split at h
  · cases h
  · split at h
    · cases h
    · simp only [Option.some.injEq, Prod.mk.injEq] at h
      rw [← h.2]
      have hsplit := List.takeWhile_append_dropWhile
        (p := fun c => (digitValue base c).isSome) (l := s)
      have hdrop := @List.drop_left _ (s.takeWhile fun c => (digitValue base c).isSome)
        (s.dropWhile fun c => (digitValue base c).isSome)
      rw [hsplit] at hdrop
      exact hdrop

/-! ## The short family -/

/-- A number below 256 is read from its decimal form. -/
theorem read_octet_decimal {n : Nat} (h : n < 256) {rest : List Char}
    (hrest : EndsDigits 10 rest) : readOctet (decimalChars n ++ rest) = some (n, rest) := by
  have hread := read_number_eq 3 false (decimal_chars_digits n) hrest
    (decimal_chars_ne_nil n) (length_decimal_chars_le (by decide) (by omega))
    (.inr fun cs hcs => decimal_chars_head_zero hcs)
  simp [readOctet, hread, digits_value_decimal_chars, h]

/-- A dotted address is read back. -/
theorem read_dotted_dotted {value : Nat} (h : value < 2 ^ 32) {rest : List Char}
    (hrest : EndsDigits 10 rest) : readDotted (dotted value ++ rest) = some (value, rest) := by
  have hpoint : ∀ cs, EndsDigits 10 ('.' :: cs) := ends_digits_cons (by decide)
  have hlt : ∀ n : Nat, n % 256 < 256 := fun n => Nat.mod_lt n (by decide)
  simp only [dotted, octets, List.map_cons, List.map_nil, List.append_assoc, List.cons_append,
    readDotted, read_octet_decimal (hlt _) (hpoint _), read_octet_decimal (hlt _) hrest, expect,
    Option.bind_eq_bind, Option.bind_some, if_true]
  congr 2
  omega

/-- A numeral that no point follows is not a dotted address. -/
theorem read_dotted_eq_none {s : List Char}
    (h : ∀ cs, s.dropWhile (fun c => (digitValue 10 c).isSome) ≠ '.' :: cs) :
    readDotted s = none := by
  simp only [readDotted, Option.bind_eq_bind]
  rw [Option.bind_eq_none_iff]
  rintro ⟨n, rest⟩ hoctet
  have hrest : rest = s.dropWhile fun c => (digitValue 10 c).isSome := by
    simp only [readOctet] at hoctet
    split at hoctet
    · next hnumber =>
        split at hoctet
        · cases hoctet
          exact read_number_rest hnumber
        · cases hoctet
    · cases hoctet
  have hexpect : expect '.' rest = none := by
    cases rest with
    | nil => rfl
    | cons c cs =>
        have hc : c ≠ '.' := by
          rintro rfl
          exact h cs hrest.symm
        simp [expect, hc]
  simp [hexpect]

/-! ## Groups -/

theorem digit_value_colon (base : Nat) : digitValue base ':' = none := rfl

/-- What stands behind a group: nothing, or a colon. -/
def EndsGroup (rest : List Char) : Prop := ∀ c cs, rest = c :: cs → c = ':'

theorem EndsGroup.ends_digits {rest : List Char} (h : EndsGroup rest) (base : Nat) :
    EndsDigits base rest := by
  intro c cs hcs
  obtain rfl := h c cs hcs
  simp [IsDigitOf, digit_value_colon]

/-- A group of sixteen bits is read back. -/
theorem read_number_hexadecimal {g : Nat} (h : g < 65536) {rest : List Char}
    (hrest : EndsGroup rest) :
    readNumber 16 4 true (hexadecimal g ++ rest) = some (g, rest) := by
  rw [read_number_eq _ _ (hexadecimal_digits g) (hrest.ends_digits 16) (hexadecimal_ne_nil g)
    (length_hexadecimal_le (by decide) (by omega)) (.inl rfl), digits_value_hexadecimal]

theorem point_not_hex {c : Char} (h : IsDigitOf 16 c) : c ≠ '.' := by
  rintro rfl
  exact absurd h (by decide)

/-- A group is not taken for the beginning of a dotted address. -/
theorem read_dotted_hexadecimal (g : Nat) {rest : List Char} (hrest : EndsGroup rest) :
    readDotted (hexadecimal g ++ rest) = none := by
  refine read_dotted_eq_none ?_
  have hdrop : ∀ ds : List Char, (∀ c ∈ ds, IsDigitOf 16 c) → ∀ cs,
      (ds ++ rest).dropWhile (fun c => (digitValue 10 c).isSome) ≠ '.' :: cs := by
    intro ds hds cs
    -- Decimal digits end at another digit, at a colon or with the text, but never at a point.
    induction ds with
    | nil =>
        cases rest with
        | nil => simp
        | cons c rest =>
            obtain rfl := hrest c rest rfl
            simp [digit_value_colon]
    | cons c ds ih =>
        simp only [List.cons_append, List.dropWhile_cons]
        split
        · exact ih fun c hc => hds c (by simp [hc])
        · intro heq
          exact point_not_hex (hds c (by simp)) (List.cons.inj heq).1
  exact hdrop _ (hexadecimal_digits g)

theorem read_dotted_colon (cs : List Char) : readDotted (':' :: cs) = none := by
  refine read_dotted_eq_none ?_
  simp [digit_value_colon]

theorem read_number_colon (cs : List Char) : readNumber 16 4 true (':' :: cs) = none := by
  simp [readNumber, digit_value_colon]

/-- The groups after the first one, each behind a colon. -/
def laterGroups (gs : List Nat) : List Char := gs.flatMap fun g => ':' :: hexadecimal g

theorem colon_form_cons (g : Nat) (gs : List Nat) :
    colonForm (g :: gs) = hexadecimal g ++ laterGroups gs := by
  induction gs generalizing g with
  | nil => simp [colonForm, laterGroups]
  | cons g' gs ih => simp [colonForm, ih, laterGroups]

/-- Where a row of groups stops: at the end, or at two colons. -/
def EndsRow (rest : List Char) : Prop := rest = [] ∨ ∃ cs, rest = ':' :: ':' :: cs

theorem EndsRow.ends_group {rest : List Char} (h : EndsRow rest) : EndsGroup rest := by
  rintro c cs rfl
  rcases h with h | ⟨_, h⟩ <;> cases h
  rfl

theorem ends_group_later_groups (gs : List Nat) {rest : List Char} (h : EndsRow rest) :
    EndsGroup (laterGroups gs ++ rest) := by
  cases gs with
  | nil => exact h.ends_group
  | cons g gs =>
      intro c cs hcs
      simp only [laterGroups, List.flatMap_cons, List.cons_append] at hcs
      exact (List.cons.inj hcs).1.symm

/-- No group is read where a row stops. -/
theorem read_groups_stop (room : Nat) {rest : List Char} (h : EndsRow rest) :
    readGroups room false rest = ([], false, rest) := by
  cases room with
  | zero => rfl
  | succ room =>
      rcases h with rfl | ⟨cs, rfl⟩
      · simp [readGroups, expect]
      · simp [readGroups, expect, read_dotted_colon, read_number_colon]

/-- One group is read, and the reader goes on behind it. -/
theorem read_groups_step {room g : Nat} (hg : g < 65536) (first : Bool) {s : List Char}
    (rest : List Char)
    (hbody : (if first then some s else expect ':' s) = some (hexadecimal g ++ rest))
    (hrest : EndsGroup rest) :
    readGroups (room + 1) first s =
      (g :: (readGroups room false rest).1, (readGroups room false rest).2) := by
  simp [readGroups, hbody, read_dotted_hexadecimal g hrest, read_number_hexadecimal hg hrest]

/-- The groups after the first one are read back. -/
theorem read_groups_later {gs : List Nat} (hgs : ∀ g ∈ gs, g < 65536) {room : Nat}
    (hroom : gs.length ≤ room) {rest : List Char} (hrest : EndsRow rest) :
    readGroups room false (laterGroups gs ++ rest) = (gs, false, rest) := by
  induction gs generalizing room with
  | nil => exact read_groups_stop room hrest
  | cons g gs ih =>
      simp only [List.length_cons] at hroom
      obtain ⟨room, rfl⟩ : ∃ k, room = k + 1 := ⟨room - 1, by omega⟩
      rw [read_groups_step (hgs g (by simp)) false (laterGroups gs ++ rest)
        (by simp [laterGroups, expect]) (ends_group_later_groups gs hrest),
        ih (fun g hg => hgs g (by simp [hg])) (by omega)]

/-- A row of groups is read back. -/
theorem read_groups_colon_form {gs : List Nat} (hgs : ∀ g ∈ gs, g < 65536) (room : Nat)
    (hroom : gs.length ≤ room) {rest : List Char} (hrest : EndsRow rest) :
    readGroups room true (colonForm gs ++ rest) = (gs, false, rest) := by
  cases gs with
  | nil =>
      cases room with
      | zero => rfl
      | succ room =>
          rcases hrest with rfl | ⟨cs, rfl⟩
          · simp [readGroups, colonForm, readNumber, readDotted, readOctet]
          · simp [readGroups, colonForm, read_dotted_colon, read_number_colon]
  | cons g gs =>
      simp only [List.length_cons] at hroom
      obtain ⟨room, rfl⟩ : ∃ k, room = k + 1 := ⟨room - 1, by omega⟩
      rw [colon_form_cons, List.append_assoc,
        read_groups_step (hgs g (by simp)) true (laterGroups gs ++ rest)
          rfl (ends_group_later_groups gs hrest),
        read_groups_later (fun g hg => hgs g (by simp [hg])) (by omega) hrest]

/-! ## The long family -/

/-- The groups of a number stand for its lowest bits. -/
theorem of_groups_range (k value : Nat) :
    ofGroups ((List.range k).map fun i => value / 65536 ^ (k - 1 - i) % 65536) =
      value % 65536 ^ k := by
  induction k generalizing value with
  | zero => simp [ofGroups, Nat.mod_one]
  | succ k ih =>
      have hfront : (List.range k).map (fun i => value / 65536 ^ (k + 1 - 1 - i) % 65536) =
          (List.range k).map fun i => value / 65536 / 65536 ^ (k - 1 - i) % 65536 := by
        refine List.map_congr_left fun i hi => ?_
        have hlt : i < k := List.mem_range.mp hi
        rw [Nat.div_div_eq_div_mul, show k + 1 - 1 - i = k - 1 - i + 1 by omega, Nat.pow_succ,
          Nat.mul_comm]
      rw [List.range_succ, List.map_append, hfront]
      have hlast := ih (value / 65536)
      simp only [ofGroups, List.foldl_append, List.map_cons, List.map_nil, List.foldl_cons,
        List.foldl_nil] at hlast ⊢
      rw [hlast, Nat.pow_succ, Nat.mul_comm (65536 ^ k), Nat.mod_mul]
      simp
      omega

/-- A long address is the number of its groups. -/
theorem of_groups_groups {value : Nat} (h : value < 2 ^ 128) : ofGroups (groups value) = value := by
  have hrange := of_groups_range 8 value
  rw [Nat.mod_eq_of_lt (by omega)] at hrange
  exact hrange

theorem groups_lt (value : Nat) : ∀ g ∈ groups value, g < 65536 := by
  intro g hg
  obtain ⟨i, _, rfl⟩ := List.mem_map.mp hg
  exact Nat.mod_lt _ (by decide)

@[simp] theorem length_groups (value : Nat) : (groups value).length = 8 := by
  simp [groups]

/-- The zero groups at the front are zero. -/
theorem take_zero_run (gs : List Nat) :
    gs.take (zeroRun gs) = List.replicate (zeroRun gs) 0 ∧ zeroRun gs ≤ gs.length := by
  induction gs with
  | nil => exact ⟨rfl, Nat.le_refl _⟩
  | cons g gs ih =>
      by_cases hg : g = 0
      · subst hg
        have hrun : zeroRun (0 :: gs) = zeroRun gs + 1 := by simp [zeroRun]
        rw [hrun]
        simp [ih.1, ih.2, List.replicate_succ]
      · have hrun : zeroRun (g :: gs) = 0 := by simp [zeroRun, hg]
        simp [hrun]

/-- The longest run lies within the groups and consists of zeros. -/
theorem longest_zero_run_spec (start : Nat) (gs : List Nat) :
    (longestZeroRun start gs).2 = 0 ∨
      ∃ before, (longestZeroRun start gs).1 = start + before ∧
        before + (longestZeroRun start gs).2 ≤ gs.length ∧
        (gs.drop before).take (longestZeroRun start gs).2 =
          List.replicate (longestZeroRun start gs).2 0 := by
  induction gs generalizing start with
  | nil => exact .inl rfl
  | cons g gs ih =>
      simp only [longestZeroRun]
      split
      · obtain ⟨htake, hle⟩ := take_zero_run (g :: gs)
        exact .inr ⟨0, rfl, by simpa using hle, by simpa using htake⟩
      · rcases ih (start + 1) with hzero | ⟨before, hstart, hle, htake⟩
        · exact .inl hzero
        · refine .inr ⟨before + 1, by rw [hstart]; omega, ?_, by simpa using htake⟩
          simp only [List.length_cons]
          omega

/-- Groups fall into those before the run that is left out, the run, and those behind it. -/
theorem groups_split (gs : List Nat) (h : (longestZeroRun 0 gs).2 ≠ 0) :
    (longestZeroRun 0 gs).1 + (longestZeroRun 0 gs).2 ≤ gs.length ∧
      gs = gs.take (longestZeroRun 0 gs).1 ++ List.replicate (longestZeroRun 0 gs).2 0 ++
        gs.drop ((longestZeroRun 0 gs).1 + (longestZeroRun 0 gs).2) := by
  obtain ⟨before, hstart, hle, htake⟩ := (longest_zero_run_spec 0 gs).resolve_left h
  have hbefore : (longestZeroRun 0 gs).1 = before := by omega
  rw [hbefore]
  refine ⟨hle, ?_⟩
  rw [← htake, List.append_assoc, ← List.drop_drop, List.take_append_drop,
    List.take_append_drop]

/-- An address that embeds a short one is read back. -/
theorem read_long_mapped {value : Nat} (h : isMapped value = true) :
    readLong ("::ffff:".toList ++ dotted (value % 4294967296)) = some (value, []) := by
  have hlow : value % 4294967296 < 2 ^ 32 := Nat.mod_lt _ (by decide)
  have hdotted := read_dotted_dotted hlow (ends_digits_nil 10)
  rw [List.append_nil] at hdotted
  have hhigh : value / 4294967296 = 65535 := by simpa [isMapped] using h
  have hlast : readGroups 6 false (':' :: dotted (value % 4294967296)) =
      ([value % 4294967296 / 65536, value % 4294967296 % 65536], true, []) := by
    simp [readGroups, expect, hdotted]
  have hback : readGroups 7 true ("ffff:".toList ++ dotted (value % 4294967296)) =
      ([65535, value % 4294967296 / 65536, value % 4294967296 % 65536], true, []) := by
    have htext : "ffff:".toList ++ dotted (value % 4294967296) =
        hexadecimal 65535 ++ ':' :: dotted (value % 4294967296) := by
      simp [hexadecimal, hexDigit]
    have hends : EndsGroup (':' :: dotted (value % 4294967296)) := by
      intro c cs hcs
      exact (List.cons.inj hcs).1.symm
    rw [htext, read_groups_step (show 65535 < 65536 by decide) true _ rfl hends, hlast]
  have hfront : ∀ cs, readGroups 8 true (':' :: ':' :: cs) = ([], false, ':' :: ':' :: cs) := by
    intro cs
    simp [readGroups, read_dotted_colon, read_number_colon]
  have htext : "::ffff:".toList ++ dotted (value % 4294967296) =
      ':' :: ':' :: ("ffff:".toList ++ dotted (value % 4294967296)) := rfl
  rw [htext]
  simp only [readLong, hfront, List.length_nil, hback]
  simp [ofGroups, List.replicate]
  omega

/-- Every long address is read back from its short form. -/
theorem read_long_compressed {value : Nat} (h : value < 2 ^ 128) :
    readLong (compressed value) = some (value, []) := by
  unfold compressed
  split
  · next hmapped => exact read_long_mapped hmapped
  · simp only
    split
    · have hread := read_groups_colon_form (groups_lt value) 8 (by simp) (.inl rfl)
      rw [List.append_nil] at hread
      simp [readLong, hread, of_groups_groups h]
    · next hlength =>
        obtain ⟨hle, hsplit⟩ := groups_split (groups value) (by omega)
        generalize hrun : longestZeroRun 0 (groups value) = run at *
        obtain ⟨start, length⟩ := run
        simp only [length_groups] at hle hlength hsplit
        have htail : EndsRow (':' :: ':' :: colonForm ((groups value).drop (start + length))) :=
          .inr ⟨_, rfl⟩
        have hfront := read_groups_colon_form
          (fun g hg => groups_lt value g (List.mem_of_mem_take hg)) 8
          (show ((groups value).take start).length ≤ 8 by
            rw [List.length_take, length_groups]
            omega) htail
        have hback := read_groups_colon_form
          (fun g hg => groups_lt value g (List.mem_of_mem_drop hg)) (7 - start)
          (show ((groups value).drop (start + length)).length ≤ 7 - start by
            rw [List.length_drop, length_groups]
            omega)
          (.inl rfl)
        rw [List.append_nil] at hback
        have hstart : ((groups value).take start).length = start := by
          simp
          omega
        simp only [List.append_assoc, List.cons_append, List.nil_append, readLong, hfront, hstart,
          hback]
        have hne : ¬ start = 8 := by omega
        have hzeros : 8 - start - ((groups value).drop (start + length)).length = length := by
          simp
          omega
        simp only [hne, if_false, Bool.false_eq_true, hzeros]
        rw [← List.append_assoc, ← hsplit, of_groups_groups h]

/-! ## Both families -/

/-- Every address is read back from its text. -/
theorem parse_address_address_chars {family : Family} {value : Nat} (h : value < family.size) :
    parseAddress family (addressChars family value) = some value := by
  cases family with
  | v4 =>
      have hread := read_dotted_dotted h (ends_digits_nil 10)
      rw [List.append_nil] at hread
      simp [parseAddress, addressChars, hread]
  | v6 => simp [parseAddress, addressChars, read_long_compressed h]

end TunnelKeeper.Net
