import TunnelKeeper.Proofs.Text.Blank

/-!
# Lines

A text is cut into pieces at every separator (`split_on_append_sep`), so what stands before a line
feed gives the first lines of a text and what stands behind it the others (`lines_append_feed`).
The pieces make the text up again (`intercalate_split_on`). A cut at one separator alone is known
from the part without separators (`split_first_eq_some_iff`, `split_last_eq_some_iff`). A carriage
return at the end of a line is trimmed with the rest of its margin (`trim_chars_drop_return`).
-/

namespace TunnelKeeper.Text

/-! ## Pieces -/

theorem split_on_ne_nil (sep : Char) (s : List Char) : splitOn sep s ≠ [] := by
  cases s with
  | nil => simp [splitOn]
  | cons c s =>
      unfold splitOn
      split
      · simp
      · split <;> simp

/-- The pieces of a text that goes on behind a separator. -/
theorem split_on_append_sep (sep : Char) (s t : List Char) :
    splitOn sep (s ++ sep :: t) = splitOn sep s ++ splitOn sep t := by
  induction s with
  | nil => simp [splitOn]
  | cons c s ih =>
      rw [List.cons_append, splitOn, splitOn, ih]
      by_cases hc : c = sep
      · simp [hc]
      · cases hs : splitOn sep s with
        | nil => exact absurd hs (split_on_ne_nil sep s)
        | cons piece rest => simp [hc]

/-- A text without the separator belongs to the first piece of what it is put before. -/
theorem split_on_append_of_not_mem {sep : Char} {s t piece : List Char} {rest : List (List Char)}
    (hs : sep ∉ s) (ht : splitOn sep t = piece :: rest) :
    splitOn sep (s ++ t) = (s ++ piece) :: rest := by
  induction s with
  | nil => exact ht
  | cons c s ih =>
      obtain ⟨hc, hs⟩ : c ≠ sep ∧ sep ∉ s := by
        simpa [eq_comm] using hs
      simp [splitOn, hc, ih hs]

/-- A text without the separator is one piece. -/
theorem split_on_eq_singleton {sep : Char} {s : List Char} (h : sep ∉ s) :
    splitOn sep s = [s] := by
  have hsplit := split_on_append_of_not_mem (t := []) h rfl
  rwa [List.append_nil] at hsplit

/-- A piece without the separator ends at the separator. -/
theorem split_on_append {sep : Char} {s : List Char} (h : sep ∉ s) (t : List Char) :
    splitOn sep (s ++ sep :: t) = s :: splitOn sep t := by
  rw [split_on_append_sep, split_on_eq_singleton h, List.singleton_append]

/-- No piece has the separator in it. -/
theorem not_mem_of_mem_split_on {sep : Char} {s piece : List Char} (h : piece ∈ splitOn sep s) :
    sep ∉ piece := by
  induction s generalizing piece with
  | nil =>
      obtain rfl := List.mem_singleton.mp h
      exact List.not_mem_nil
  | cons c s ih =>
      unfold splitOn at h
      by_cases hc : c = sep
      · rw [if_pos hc] at h
        rcases List.mem_cons.mp h with rfl | h
        · exact List.not_mem_nil
        · exact ih h
      · rw [if_neg hc] at h
        cases hs : splitOn sep s with
        | nil => exact absurd hs (split_on_ne_nil sep s)
        | cons first rest =>
            rw [hs] at h ih
            rcases List.mem_cons.mp h with rfl | h
            · have hfirst := ih List.mem_cons_self
              simp [hfirst, Ne.symm hc]
            · exact ih (List.mem_cons_of_mem _ h)

/-- The pieces of a text make it up again. -/
theorem intercalate_split_on (sep : Char) (s : List Char) :
    [sep].intercalate (splitOn sep s) = s := by
  induction s with
  | nil => rfl
  | cons c s ih =>
      rw [splitOn]
      cases hs : splitOn sep s with
      | nil => exact absurd hs (split_on_ne_nil sep s)
      | cons piece rest =>
          rw [hs] at ih
          split
          · next hc =>
              rw [List.intercalate_cons_cons, ih, hc, List.nil_append, List.singleton_append]
          · cases rest <;> simpa [List.intercalate_cons_cons] using ih

/-- The pieces of a text have its characters in order, besides the separators. -/
theorem flatten_split_on (sep : Char) (s : List Char) :
    (splitOn sep s).flatten = s.filter (· ≠ sep) := by
  induction s with
  | nil => rfl
  | cons c s ih =>
      rw [splitOn]
      split
      · next hc =>
          rw [List.flatten_cons, ih, List.nil_append, List.filter_cons_of_neg (by simpa using hc)]
      · next hc =>
          rw [List.filter_cons_of_pos (by simpa using hc), ← ih]
          cases hs : splitOn sep s with
          | nil => exact absurd hs (split_on_ne_nil sep s)
          | cons piece rest => rfl

/-! ## The first and the last separator -/

/-- A cut at the first separator has none in its first part. -/
theorem split_first_append {sep : Char} {before : List Char} (h : sep ∉ before)
    (after : List Char) : splitFirst sep (before ++ sep :: after) = some (before, after) := by
  induction before with
  | nil => simp [splitFirst]
  | cons c before ih =>
      obtain ⟨hc, hbefore⟩ : c ≠ sep ∧ sep ∉ before := by
        simpa [eq_comm] using h
      rw [List.cons_append, splitFirst, if_neg hc, ih hbefore]
      rfl

theorem split_first_eq_some_iff {sep : Char} {s before after : List Char} :
    splitFirst sep s = some (before, after) ↔ s = before ++ sep :: after ∧ sep ∉ before := by
  constructor
  · intro h
    induction s generalizing before with
    | nil => cases h
    | cons c s ih =>
        rw [splitFirst] at h
        split at h
        · next hc =>
            cases h
            exact ⟨by rw [hc]; rfl, List.not_mem_nil⟩
        · next hc =>
            obtain ⟨⟨first, rest⟩, hrest, heq⟩ := Option.map_eq_some_iff.mp h
            cases heq
            obtain ⟨rfl, hfirst⟩ := ih hrest
            exact ⟨rfl, by simp [hfirst, Ne.symm hc]⟩
  · rintro ⟨rfl, h⟩
    exact split_first_append h after

theorem split_first_eq_none {sep : Char} {s : List Char} (h : sep ∉ s) : splitFirst sep s = none := by
  cases hcut : splitFirst sep s with
  | none => rfl
  | some cut =>
      obtain ⟨rfl, -⟩ := split_first_eq_some_iff.mp hcut
      simp at h

/-- There is no cut exactly where there is no separator. -/
theorem split_last_eq_none_iff {sep : Char} {s : List Char} :
    splitLast sep s = none ↔ sep ∉ s := by
  induction s with
  | nil => simp [splitLast]
  | cons c s ih =>
      rw [splitLast]
      cases hs : splitLast sep s with
      | none =>
          have hnone := ih.mp hs
          simp [hnone, eq_comm]
      | some cut =>
          have hmem : sep ∈ s := by
            refine Decidable.byContradiction fun hmem => ?_
            rw [ih.mpr hmem] at hs
            cases hs
          simp [hmem]

/-- A cut at the last separator has none in its second part. -/
theorem split_last_append {sep : Char} {after : List Char} (h : sep ∉ after)
    (before : List Char) : splitLast sep (before ++ sep :: after) = some (before, after) := by
  induction before with
  | nil => simp [splitLast, split_last_eq_none_iff.mpr h]
  | cons c before ih => rw [List.cons_append, splitLast, ih]

theorem split_last_eq_some_iff {sep : Char} {s before after : List Char} :
    splitLast sep s = some (before, after) ↔ s = before ++ sep :: after ∧ sep ∉ after := by
  constructor
  · intro h
    induction s generalizing before with
    | nil => cases h
    | cons c s ih =>
        rw [splitLast] at h
        cases hs : splitLast sep s with
        | none =>
            simp only [hs] at h
            split at h
            · next hc =>
                cases h
                exact ⟨by rw [hc]; rfl, split_last_eq_none_iff.mp hs⟩
            · cases h
        | some cut =>
            simp only [hs] at h
            cases h
            obtain ⟨hsplit, hafter⟩ := ih hs
            exact ⟨by rw [hsplit]; rfl, hafter⟩
  · rintro ⟨rfl, h⟩
    exact split_last_append h before

/-! ## Lines -/

/-- A line is trimmed alike with and without a carriage return at its end. -/
theorem trim_chars_drop_return (line : List Char) :
    trimChars (dropReturn line) = trimChars line := by
  unfold dropReturn
  split
  · next hlast =>
      obtain ⟨front, rfl⟩ := List.getLast?_eq_some_iff.mp hlast
      have hreturn : ∀ c ∈ ['\r'], isBlank c = true := by
        intro c hc
        rw [List.mem_singleton.mp hc]
        decide
      have htrim := @trim_chars_between [] front ['\r'] (by simp) hreturn
      rw [List.nil_append] at htrim
      rw [List.dropLast_concat, htrim]
  · rfl

/-- A piece with others behind it is a line. -/
theorem lines_of_cons {piece : List Char} {rest : List (List Char)} (h : rest ≠ []) :
    linesOf (piece :: rest) = dropReturn piece :: linesOf rest := by
  cases rest with
  | nil => exact absurd rfl h
  | cons next rest => rfl

/-- Pieces with others behind them are lines. -/
theorem lines_of_append {rest : List (List Char)} (h : rest ≠ []) (pieces : List (List Char)) :
    linesOf (pieces ++ rest) = pieces.map dropReturn ++ linesOf rest := by
  induction pieces with
  | nil => rfl
  | cons piece pieces ih =>
      rw [List.cons_append, lines_of_cons (List.append_ne_nil_of_right_ne_nil pieces h), ih,
        List.map_cons, List.cons_append]

/-- The lines of a text that goes on behind a line feed. -/
theorem lines_append_feed (s t : List Char) :
    lines (s ++ '\n' :: t) = (splitOn '\n' s).map dropReturn ++ lines t := by
  rw [lines, split_on_append_sep, lines_of_append (split_on_ne_nil '\n' t), lines]

/-- The lines of lines that are ended by line feeds. -/
theorem lines_flat_map_feed {ls : List (List Char)} (h : ∀ line ∈ ls, '\n' ∉ line) :
    lines (ls.flatMap fun line => line ++ ['\n']) = ls.map dropReturn := by
  induction ls with
  | nil => rfl
  | cons line ls ih =>
      rw [List.forall_mem_cons] at h
      rw [List.flatMap_cons, List.append_assoc, List.singleton_append, lines_append_feed,
        split_on_eq_singleton h.1, ih h.2]
      rfl

/-- Lines are made of the pieces only. -/
theorem exists_piece_of_mem_lines_of {pieces : List (List Char)} {line : List Char}
    (h : line ∈ linesOf pieces) : ∃ piece ∈ pieces, line ⊆ piece := by
  fun_induction linesOf pieces with
  | case1 => exact absurd h List.not_mem_nil
  | case2 => exact absurd h List.not_mem_nil
  | case3 last hne =>
      obtain rfl := List.mem_singleton.mp h
      exact ⟨line, List.mem_singleton_self line, List.Subset.refl line⟩
  | case4 piece rest hrest ih =>
      rcases List.mem_cons.mp h with rfl | h
      · refine ⟨piece, List.mem_cons_self, ?_⟩
        unfold dropReturn
        split
        · exact List.dropLast_subset piece
        · exact List.Subset.refl piece
      · obtain ⟨found, hfound, hsub⟩ := ih h
        exact ⟨found, List.mem_cons_of_mem piece hfound, hsub⟩

/-- No line has a line feed in it. -/
theorem feed_not_mem_of_mem_lines {s line : List Char} (h : line ∈ lines s) : '\n' ∉ line := by
  obtain ⟨piece, hpiece, hsub⟩ := exists_piece_of_mem_lines_of h
  exact fun hfeed => not_mem_of_mem_split_on hpiece (hsub hfeed)

end TunnelKeeper.Text
