import TunnelKeeper.Text.Blank
import TunnelKeeper.Text.Split

/-!
# Blank margins

Trimming takes blank margins away (`trim_chars_between`) and nothing else (`exists_margins`). What
is left neither begins nor ends with a blank character (`head_trim_chars`, `last_trim_chars`), and
is as trimming leaves it (`trim_idem`). A leading part is taken off the text that it was put before.
-/

namespace TunnelKeeper.Text

/-- What is not blank at its beginning stays there when blank characters before it are dropped. -/
theorem drop_blank_append {blank s : List Char} (hblank : ∀ c ∈ blank, isBlank c = true)
    (hs : ∀ c ∈ s.head?, isBlank c = false) : (blank ++ s).dropWhile isBlank = s := by
  rw [List.dropWhile_append_of_pos hblank]
  cases s with
  | nil => rfl
  | cons c s =>
      have hc := hs c rfl
      rw [List.dropWhile_cons_of_neg]
      simp [hc]

/-- Where dropping blank characters stops, there is another one. -/
theorem not_blank_drop_blank {s rest : List Char} {c : Char}
    (h : s.dropWhile isBlank = c :: rest) : isBlank c = false := by
  induction s with
  | nil => exact nomatch h
  | cons d s ih =>
      rw [List.dropWhile_cons] at h
      split at h
      · exact ih h
      · next hd =>
          obtain ⟨rfl, -⟩ := List.cons.inj h
          simpa using hd

/-- Dropping blank characters leaves nothing only where there are no others. -/
theorem blank_of_drop_blank_eq_nil {s : List Char} (h : s.dropWhile isBlank = []) :
    ∀ c ∈ s, isBlank c = true := by
  induction s with
  | nil =>
      intro c hc
      exact absurd hc List.not_mem_nil
  | cons d s ih =>
      rw [List.dropWhile_cons] at h
      split at h
      · next hd =>
          intro c hc
          rcases List.mem_cons.mp hc with rfl | hc
          · exact hd
          · exact ih h c hc
      · exact nomatch h

/-- What is not blank at its end stays there when it is trimmed from the right. -/
theorem trim_right_eq_self {s : List Char} (hs : ∀ c ∈ s.getLast?, isBlank c = false) :
    trimRight s = s := by
  have hdrop := @drop_blank_append [] s.reverse (by simp) (by rwa [List.head?_reverse])
  rw [List.nil_append] at hdrop
  rw [trimRight, hdrop, List.reverse_reverse]

/-- Blank margins make no difference. -/
theorem trim_chars_between {before s after : List Char} (hbefore : ∀ c ∈ before, isBlank c = true)
    (hafter : ∀ c ∈ after, isBlank c = true) : trimChars (before ++ s ++ after) = trimChars s := by
  have hright : ∀ l : List Char, trimRight (l ++ after) = trimRight l := by
    intro l
    rw [trimRight, List.reverse_append, List.dropWhile_append_of_pos, trimRight]
    exact fun c hc => hafter c (List.mem_reverse.mp hc)
  rw [trimChars, trimLeft, List.append_assoc, List.dropWhile_append_of_pos hbefore,
    List.dropWhile_append]
  split
  · -- Nothing is left of the text, and then nothing is left of the margin behind it either.
    next hnone =>
      have hmargin := drop_blank_append (s := []) hafter (by simp)
      rw [List.append_nil] at hmargin
      rw [List.isEmpty_iff] at hnone
      rw [hmargin, trimChars, trimLeft, hnone]
  · rw [hright, trimChars, trimLeft]

/-- A text that neither begins nor ends with a blank character is as trimming leaves it. -/
theorem trim_chars_eq_self {s : List Char} (hhead : ∀ c ∈ s.head?, isBlank c = false)
    (hlast : ∀ c ∈ s.getLast?, isBlank c = false) : trimChars s = s := by
  have hleft := @drop_blank_append [] s (by simp) hhead
  rw [List.nil_append] at hleft
  rw [trimChars, trimLeft, hleft, trim_right_eq_self hlast]

/-- What does not begin with a blank character begins with the same one after trimming. -/
theorem trim_right_cons {c : Char} (hc : isBlank c = false) (s : List Char) :
    trimRight (c :: s) = c :: trimRight s := by
  have hstop : [c].dropWhile isBlank = [c] := List.dropWhile_cons_of_neg (by simp [hc])
  rw [trimRight, List.reverse_cons, List.dropWhile_append]
  split
  · next hnone =>
      rw [List.isEmpty_iff] at hnone
      rw [hstop, trimRight, hnone]
      rfl
  · rw [List.reverse_append, trimRight]
    rfl

theorem trim_chars_cons {c : Char} (hc : isBlank c = false) (s : List Char) :
    trimChars (c :: s) = c :: trimRight s := by
  rw [trimChars, trimLeft, List.dropWhile_cons_of_neg (by simp [hc]), trim_right_cons hc]

/-- What is trimmed does not begin with a blank character. -/
theorem head_trim_chars (s : List Char) : ∀ c ∈ (trimChars s).head?, isBlank c = false := by
  rw [trimChars]
  cases hleft : trimLeft s with
  | nil => simp [trimRight]
  | cons c rest =>
      have hc := not_blank_drop_blank hleft
      simpa [trim_right_cons hc] using hc

/-- What is trimmed does not end with a blank character. -/
theorem last_trim_chars (s : List Char) : ∀ c ∈ (trimChars s).getLast?, isBlank c = false := by
  rw [trimChars, trimRight, List.getLast?_reverse]
  cases hright : (trimLeft s).reverse.dropWhile isBlank with
  | nil => simp
  | cons c rest => simpa using not_blank_drop_blank hright

/-- Trimming twice is trimming once. -/
theorem trim_chars_idem (s : List Char) : trimChars (trimChars s) = trimChars s :=
  trim_chars_eq_self (head_trim_chars s) (last_trim_chars s)

theorem trim_idem (s : String) : trim (trim s) = trim s := by
  rw [trim, trim, String.toList_ofList, trim_chars_idem]

/-- Trimming only takes characters away. -/
theorem mem_of_mem_trim_chars {c : Char} {s : List Char} (h : c ∈ trimChars s) : c ∈ s := by
  rw [trimChars, trimRight, List.mem_reverse] at h
  have hleft := List.mem_reverse.mp ((List.dropWhile_sublist _).subset h)
  exact (List.dropWhile_sublist _).subset hleft

/-- A text without blank characters is as trimming leaves it. -/
theorem trim_eq_self {s : String} (h : ∀ c ∈ s.toList, isBlank c = false) : trim s = s := by
  rw [trim, trim_chars_eq_self (fun c hc => h c (List.mem_of_head? hc))
    fun c hc => h c (List.mem_of_getLast? hc), String.ofList_toList]

/-- Blank margins of a text without blank characters are trimmed. -/
theorem trim_margins {before s after : String} (hbefore : isBlankText before = true)
    (hs : ∀ c ∈ s.toList, isBlank c = false) (hafter : isBlankText after = true) :
    trim (before ++ s ++ after) = s := by
  rw [trim, String.toList_append, String.toList_append,
    trim_chars_between (List.all_eq_true.mp hbefore) (List.all_eq_true.mp hafter), ← trim,
    trim_eq_self hs]

/-- A text is what trimming leaves of it, between blank margins. -/
theorem exists_margins (s : String) :
    ∃ before after : String, isBlankText before = true ∧ isBlankText after = true ∧
      s = before ++ trim s ++ after := by
  have hleft : s.toList.takeWhile isBlank ++ trimLeft s.toList = s.toList :=
    List.takeWhile_append_dropWhile
  have hright : trimRight (trimLeft s.toList) ++
      ((trimLeft s.toList).reverse.takeWhile isBlank).reverse = trimLeft s.toList := by
    rw [trimRight, ← List.reverse_append, List.takeWhile_append_dropWhile, List.reverse_reverse]
  refine ⟨String.ofList (s.toList.takeWhile isBlank),
    String.ofList ((trimLeft s.toList).reverse.takeWhile isBlank).reverse, ?_, ?_, ?_⟩
  · simp [isBlankText]
  · simp [isBlankText]
  · apply String.toList_injective
    rw [String.toList_append, String.toList_append, trim, String.toList_ofList,
      String.toList_ofList, String.toList_ofList, trimChars, List.append_assoc, hright, hleft]

/-- Trimming leaves nothing of blank characters, and of no others. -/
theorem trim_chars_eq_nil_iff {s : List Char} :
    trimChars s = [] ↔ ∀ c ∈ s, isBlank c = true := by
  constructor
  · intro h
    rw [trimChars, trimRight, List.reverse_eq_nil_iff] at h
    refine blank_of_drop_blank_eq_nil ?_
    cases hleft : s.dropWhile isBlank with
    | nil => rfl
    | cons c rest =>
        rw [trimLeft, hleft] at h
        have hblank := blank_of_drop_blank_eq_nil h c (by simp)
        rw [not_blank_drop_blank hleft] at hblank
        exact nomatch hblank
  · intro h
    have htrim := trim_chars_between (s := []) h (fun c hc => absurd hc List.not_mem_nil)
    rwa [List.append_nil, List.append_nil] at htrim

/-- Trimming leaves nothing of blank texts, and of no others. -/
theorem trim_eq_empty (s : String) : trim s = "" ↔ isBlankText s = true := by
  rw [isBlankText, List.all_eq_true, ← trim_chars_eq_nil_iff, trim, String.ofList_eq_empty_iff]

/-- A leading part is taken off the texts that it was put before, and off no others. -/
theorem after_leading_eq_some_iff {lead s rest : List Char} :
    afterLeading lead s = some rest ↔ s = lead ++ rest := by
  induction lead generalizing s with
  | nil => simp [afterLeading, eq_comm]
  | cons p lead ih =>
      cases s with
      | nil => simp [afterLeading]
      | cons c s =>
          by_cases hpc : p = c
          · simp [afterLeading, hpc, ih]
          · simp [afterLeading, hpc, Ne.symm hpc]

theorem after_leading_eq_none {lead s : List Char} (h : ¬ lead <+: s) :
    afterLeading lead s = none := by
  cases hafter : afterLeading lead s with
  | none => rfl
  | some rest => exact absurd ⟨rest, (after_leading_eq_some_iff.mp hafter).symm⟩ h

/-- A leading part is taken off the text that it was put before. -/
theorem strip_leading_append (lead s : String) : stripLeading lead (lead ++ s) = some s := by
  rw [stripLeading, String.toList_append, after_leading_eq_some_iff.mpr rfl, Option.map_some,
    String.ofList_toList]

end TunnelKeeper.Text
