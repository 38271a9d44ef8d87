import TunnelKeeper.Net.Listing
import TunnelKeeper.Proofs.Text.Lines

/-!
# Comma-separated settings read

`Reads` says which items a text lists, without the reader: between its commas stand blank pieces and
pieces that hold an item each. The reader finds exactly these (`entries_eq_iff`). Items have nothing
left that reading could take away, so they are read back from every text that lists them between
blank margins and blank pieces (`entries_normal`).
-/

namespace TunnelKeeper.Listing

open Text

/-! ## Items -/

/-- An item of a list: neither empty nor with a comma, a space or a blank margin. -/
structure IsItem (s : String) : Prop where
  ne_empty : s ≠ ""
  no_comma : ',' ∉ s.toList
  no_space : ' ' ∉ s.toList
  trimmed : trim s = s

/-- A piece between two commas holds an item: the item is what is left of it without its margins and
its spaces. -/
structure Holds (piece item : String) : Prop where
  no_comma : ',' ∉ piece.toList
  not_blank : isBlankText piece = false
  chars : item.toList = (trim piece).toList.filter (· ≠ ' ')

/-- An item stands in a piece as it is, between blank margins. -/
def Around (piece item : String) : Prop :=
  ∃ before after : String, isBlankText before = true ∧ isBlankText after = true ∧
    piece = before ++ item ++ after

theorem space_is_blank : isBlank ' ' = true := by decide

theorem comma_not_blank : isBlank ',' = false := by decide

/-- Spaces inside a text that has no margins do not come to stand at its beginning. -/
theorem head_filter_spaces {s : List Char} (h : ∀ c ∈ s.head?, isBlank c = false) :
    (s.filter (· ≠ ' ')).head? = s.head? := by
  cases s with
  | nil => rfl
  | cons c s =>
      have hc : c ≠ ' ' := by
        intro hspace
        have hblank := h c rfl
        rw [hspace, space_is_blank] at hblank
        exact nomatch hblank
      rw [List.filter_cons_of_pos (by simpa using hc)]
      rfl

/-- Nor do they come to stand at its end. -/
theorem last_filter_spaces {s : List Char} (h : ∀ c ∈ s.getLast?, isBlank c = false) :
    (s.filter (· ≠ ' ')).getLast? = s.getLast? := by
  have hhead := @head_filter_spaces s.reverse (by rwa [List.head?_reverse])
  rwa [List.filter_reverse, List.head?_reverse, List.head?_reverse] at hhead

/-- Nothing is left of blank entries, and of no others. -/
theorem clean_entry_eq_nil_iff {entry : List Char} :
    cleanEntry entry = [] ↔ ∀ c ∈ entry, isBlank c = true := by
  rw [← trim_chars_eq_nil_iff, cleanEntry, ← List.head?_eq_none_iff, ← List.head?_eq_none_iff,
    head_filter_spaces (head_trim_chars entry)]

/-- What is left of an entry has no margins, although spaces were taken out of it. -/
theorem trim_chars_clean_entry (entry : List Char) :
    trimChars (cleanEntry entry) = cleanEntry entry := by
  refine trim_chars_eq_self ?_ ?_
  · rw [cleanEntry, head_filter_spaces (head_trim_chars entry)]
    exact head_trim_chars entry
  · rw [cleanEntry, last_filter_spaces (last_trim_chars entry)]
    exact last_trim_chars entry

theorem is_item_of_chars {s : String} (hne : s ≠ "")
    (h : ∀ c ∈ s.toList, c ≠ ',' ∧ isBlank c = false) : IsItem s where
  ne_empty := hne
  no_comma := fun hmem => (h ',' hmem).1 rfl
  no_space := fun hmem => Bool.false_ne_true ((h ' ' hmem).2.symm.trans space_is_blank)
  trimmed := trim_eq_self fun c hc => (h c hc).2

/-- An item has no spaces that could be taken away. -/
theorem IsItem.filter_spaces {s : String} (h : IsItem s) :
    s.toList.filter (· ≠ ' ') = s.toList := by
  rw [List.filter_eq_self]
  intro c hc
  have hspace : c ≠ ' ' := by
    intro heq
    exact h.no_space (heq ▸ hc)
  simpa using hspace

variable {piece item s : String} {pieces items : List String}

theorem Holds.clean_entry (h : Holds piece item) : cleanEntry piece.toList = item.toList := by
  rw [h.chars, trim, String.toList_ofList]
  rfl

/-- What a piece holds is an item. -/
theorem Holds.is_item (h : Holds piece item) : IsItem item where
  ne_empty := by
    intro hempty
    have hnil := h.clean_entry
    rw [hempty] at hnil
    have hblank : isBlankText piece = true := List.all_eq_true.mpr (clean_entry_eq_nil_iff.mp hnil)
    rw [h.not_blank] at hblank
    exact nomatch hblank
  no_comma := by
    rw [← h.clean_entry]
    intro hmem
    exact h.no_comma (mem_of_mem_trim_chars (List.mem_filter.mp hmem).1)
  no_space := by
    rw [← h.clean_entry]
    intro hmem
    simpa using (List.mem_filter.mp hmem).2
  trimmed := by
    rw [trim, ← h.clean_entry, trim_chars_clean_entry, h.clean_entry, String.ofList_toList]

theorem comma_not_mem_blank (h : isBlankText piece = true) : ',' ∉ piece.toList := by
  intro hmem
  have hcomma := List.all_eq_true.mp h ',' hmem
  rw [comma_not_blank] at hcomma
  exact nomatch hcomma

/-- An item is held by every piece that it stands in between blank margins. -/
theorem IsItem.holds_around (h : IsItem item) (haround : Around piece item) : Holds piece item := by
  obtain ⟨before, after, hbefore, hafter, rfl⟩ := haround
  have hblank := fun c => List.all_eq_true.mp hbefore c
  have hmargin := fun c => List.all_eq_true.mp hafter c
  have htrim : trim (before ++ item ++ after) = item := by
    rw [trim, String.toList_append, String.toList_append, trim_chars_between hblank hmargin]
    exact h.trimmed
  refine ⟨?_, ?_, ?_⟩
  · rw [String.toList_append, String.toList_append, List.mem_append, List.mem_append]
    rintro ((hmem | hmem) | hmem)
    · exact comma_not_mem_blank hbefore hmem
    · exact h.no_comma hmem
    · exact comma_not_mem_blank hafter hmem
  · rw [Bool.eq_false_iff, ne_eq, ← trim_eq_empty, htrim]
    exact h.ne_empty
  · rw [htrim, h.filter_spaces]

/-! ## Lists of items -/

/-- Pieces that are blank or hold an item each, with the items in their order. -/
inductive Laid (holds : String → String → Prop) : List String → List String → Prop
  | nil : Laid holds [] []
  | blank {piece : String} {pieces items : List String} :
      isBlankText piece = true → Laid holds pieces items → Laid holds (piece :: pieces) items
  | entry {piece item : String} {pieces items : List String} :
      holds piece item → Laid holds pieces items → Laid holds (piece :: pieces) (item :: items)

/-- The items that a text lists between its commas. -/
def Reads (s : String) (items : List String) : Prop :=
  ∃ pieces : List String, s = ",".intercalate pieces ∧ Laid Holds pieces items

/-- Items that stand in their pieces as they are, are held by them. -/
theorem Laid.holds_around (h : Laid Around pieces items) (hitems : ∀ item ∈ items, IsItem item) :
    Laid Holds pieces items := by
  induction h with
  | nil => exact .nil
  | blank hblank _ ih => exact .blank hblank (ih hitems)
  | entry haround _ ih =>
      rw [List.forall_mem_cons] at hitems
      exact .entry (hitems.1.holds_around haround) (ih hitems.2)

theorem Laid.is_item (h : Laid Holds pieces items) : ∀ item ∈ items, IsItem item := by
  induction h with
  | nil => simp
  | blank _ _ ih => exact ih
  | entry hholds _ ih => exact List.forall_mem_cons.mpr ⟨hholds.is_item, ih⟩

/-- The entries of a text that goes on behind a comma. -/
theorem entries_append_comma (s t : String) :
    entries (s ++ "," ++ t) = entries s ++ entries t := by
  have hcomma : ",".toList = [','] := by decide
  rw [entries, String.toList_append, String.toList_append, hcomma, List.append_assoc,
    List.singleton_append, split_on_append_sep, List.map_append, List.filter_append,
    List.map_append, entries, entries]

/-- Texts between commas are read one by one. -/
theorem entries_intercalate (pieces : List String) :
    entries (",".intercalate pieces) = pieces.flatMap entries := by
  induction pieces with
  | nil => rfl
  | cons piece pieces ih =>
      cases pieces with
      | nil => simp
      | cons next rest =>
          rw [String.intercalate_cons_cons, entries_append_comma, ih]
          rfl

/-- A piece without commas is one entry, which counts unless nothing is left of it. -/
theorem entries_of_no_comma (h : ',' ∉ piece.toList) :
    entries piece =
      if isBlankText piece then [] else [String.ofList (cleanEntry piece.toList)] := by
  rw [entries, split_on_eq_singleton h, List.map_singleton]
  split
  · next hblank =>
      rw [clean_entry_eq_nil_iff.mpr (List.all_eq_true.mp hblank)]
      rfl
  · next hblank =>
      have hleft : cleanEntry piece.toList ≠ [] := by
        intro hnil
        exact hblank (List.all_eq_true.mpr (clean_entry_eq_nil_iff.mp hnil))
      rw [List.filter_cons_of_pos (by simpa using hleft)]
      rfl

theorem entries_of_blank (h : isBlankText piece = true) : entries piece = [] := by
  rw [entries_of_no_comma (comma_not_mem_blank h), if_pos h]

theorem Holds.entries_eq (h : Holds piece item) : entries piece = [item] := by
  rw [entries_of_no_comma h.no_comma, if_neg (by rw [h.not_blank]; exact Bool.false_ne_true),
    h.clean_entry, String.ofList_toList]

theorem Laid.entries_eq (h : Laid Holds pieces items) : pieces.flatMap entries = items := by
  induction h with
  | nil => rfl
  | blank hblank _ ih => rw [List.flatMap_cons, entries_of_blank hblank, ih, List.nil_append]
  | entry hholds _ ih => rw [List.flatMap_cons, hholds.entries_eq, ih, List.singleton_append]

/-- Pieces without commas hold what is read from them. -/
theorem laid_entries (h : ∀ piece ∈ pieces, ',' ∉ piece.toList) :
    Laid Holds pieces (pieces.flatMap entries) := by
  induction pieces with
  | nil => exact .nil
  | cons piece pieces ih =>
      rw [List.forall_mem_cons] at h
      rw [List.flatMap_cons, entries_of_no_comma h.1]
      split
      · next hblank => exact .blank hblank (ih h.2)
      · next hblank =>
          refine .entry ⟨h.1, by simpa using hblank, ?_⟩ (ih h.2)
          rw [String.toList_ofList, cleanEntry, trim, String.toList_ofList]

/-- A text is its pieces with commas between them. -/
theorem exists_pieces (s : String) :
    ∃ pieces : List String, s = ",".intercalate pieces ∧ ∀ piece ∈ pieces, ',' ∉ piece.toList := by
  refine ⟨(splitOn ',' s.toList).map String.ofList, ?_, ?_⟩
  · have hcomma : ",".toList = [','] := by decide
    have hid : String.toList ∘ String.ofList = id := funext fun l => String.toList_ofList
    apply String.toList_injective
    rw [String.toList_intercalate, hcomma, List.map_map, hid, List.map_id, intercalate_split_on]
  · intro piece hpiece
    obtain ⟨chars, hchars, rfl⟩ := List.mem_map.mp hpiece
    rw [String.toList_ofList]
    exact not_mem_of_mem_split_on hchars

/-- The entries of a text are the items that it lists, and there is one reading of a text. -/
theorem entries_eq_iff : entries s = items ↔ Reads s items := by
  constructor
  · intro h
    obtain ⟨pieces, rfl, hpieces⟩ := exists_pieces s
    refine ⟨pieces, rfl, ?_⟩
    rw [← h, entries_intercalate]
    exact laid_entries hpieces
  · rintro ⟨pieces, rfl, hlaid⟩
    rw [entries_intercalate, hlaid.entries_eq]

theorem is_item_of_mem_entries (h : item ∈ entries s) : IsItem item := by
  obtain ⟨pieces, -, hlaid⟩ := entries_eq_iff.mp (rfl : entries s = entries s)
  exact hlaid.is_item item h

/-- Items are read back from a text in which they stand between blank margins and blank pieces. -/
theorem entries_of_around (hitems : ∀ item ∈ items, IsItem item) (h : Laid Around pieces items) :
    entries (",".intercalate pieces) = items :=
  entries_eq_iff.mpr ⟨pieces, rfl, h.holds_around hitems⟩

/-- Items are read back from what they make up with commas between them. -/
theorem entries_intercalate_items (h : ∀ item ∈ items, IsItem item) :
    entries (",".intercalate items) = items := by
  refine entries_of_around h ?_
  clear h
  induction items with
  | nil => exact .nil
  | cons item items ih =>
      refine .entry ⟨"", "", rfl, rfl, ?_⟩ ih
      rw [String.empty_append, String.append_empty]

/-! ## Texts without entries -/

/-- A text lists nothing: there is nothing in it besides commas and blank characters. -/
def Vacant (s : String) : Prop := ∀ c ∈ s.toList, c = ',' ∨ isBlank c = true

instance (s : String) : Decidable (Vacant s) :=
  inferInstanceAs (Decidable (∀ c ∈ s.toList, c = ',' ∨ isBlank c = true))

theorem entries_eq_nil_iff : entries s = [] ↔ Vacant s := by
  have hpieces : entries s = [] ↔
      ∀ piece ∈ splitOn ',' s.toList, ∀ c ∈ piece, isBlank c = true := by
    simp [entries, clean_entry_eq_nil_iff]
  have hchars : (∀ piece ∈ splitOn ',' s.toList, ∀ c ∈ piece, isBlank c = true) ↔
      ∀ c ∈ (splitOn ',' s.toList).flatten, isBlank c = true := by
    simp only [List.mem_flatten, forall_exists_index, and_imp]
    exact ⟨fun h c piece hpiece hc => h piece hpiece c hc, fun h piece hpiece c hc =>
      h c piece hpiece hc⟩
  rw [hpieces, hchars, flatten_split_on]
  simp only [List.mem_filter, decide_eq_true_eq, Vacant, and_imp]
  exact forall₂_congr fun c _ => Decidable.or_iff_not_imp_left.symm

/-- The fallback is read for a text that lists nothing. -/
theorem entries_or_eq (s fallback : String) :
    entriesOr s fallback = entries (if Vacant s then fallback else s) := by
  rw [entriesOr]
  split
  · next hnil => rw [if_pos (entries_eq_nil_iff.mp hnil)]
  · next hne => rw [if_neg (fun hvacant => hne (entries_eq_nil_iff.mpr hvacant))]

theorem is_item_of_mem_entries_or {fallback : String} (h : item ∈ entriesOr s fallback) :
    IsItem item := by
  rw [entries_or_eq] at h
  exact is_item_of_mem_entries h

/-! ## Resolvers -/

/-- The two resolvers are the first two items of the setting, or of the usual ones, filled up with
the usual ones. -/
theorem resolvers_eq (s : String) :
    resolvers s = ((entriesOr s "1.1.1.1,1.0.0.1").getD 0 "1.1.1.1",
      (entriesOr s "1.1.1.1,1.0.0.1").getD 1 "1.0.0.1") := by
  have husual : firstResolver ++ "," ++ secondResolver = "1.1.1.1,1.0.0.1" := by decide
  rw [resolvers, husual]
  generalize entriesOr s "1.1.1.1,1.0.0.1" = items
  match items with
  | [] => rfl
  | [_] => rfl
  | _ :: _ :: _ => rfl

/-- The usual resolvers stand in for the entries that a setting does not have. -/
theorem resolvers_eq_entries (s : String) :
    resolvers s = ((entries s).getD 0 "1.1.1.1", (entries s).getD 1 "1.0.0.1") := by
  have husual : entries "1.1.1.1,1.0.0.1" = ["1.1.1.1", "1.0.0.1"] := by decide
  rw [resolvers_eq, entriesOr, husual]
  cases entries s <;> rfl

theorem getD_ne_empty {usual : String} (hitems : ∀ item ∈ items, IsItem item) (husual : usual ≠ "")
    (i : Nat) : items.getD i usual ≠ "" := by
  rw [List.getD_eq_getElem?_getD]
  cases hget : items[i]? with
  | none => exact husual
  | some item => exact (hitems item (List.mem_of_getElem? hget)).ne_empty

/-! ## What is read is a normal form -/

/-- What a setting lists is a list of items, in the order of the text or of its fallback, which
counts only for a text that lists nothing. The items are read back from every text in which they
stand between blank margins and blank pieces. The resolvers are the first two of them, filled up
with the usual ones. -/
theorem entries_normal (s fallback : String) :
    (∀ item ∈ entriesOr s fallback, IsItem item) ∧
      Reads (if Vacant s then fallback else s) (entriesOr s fallback) ∧
      (entriesOr s fallback ≠ [] → ∀ pieces, Laid Around pieces (entriesOr s fallback) →
        ∀ other, entriesOr (",".intercalate pieces) other = entriesOr s fallback) ∧
      (Vacant s ↔ ∃ a b, entriesOr s a ≠ entriesOr s b) ∧
      (let items := entriesOr s "1.1.1.1,1.0.0.1"
       resolvers s = (items.getD 0 "1.1.1.1", items.getD 1 "1.0.0.1")) ∧
      (resolvers s).1 ≠ "" ∧ (resolvers s).2 ≠ "" := by
  have hitems : ∀ item ∈ entriesOr s fallback, IsItem item :=
    fun item hitem => is_item_of_mem_entries_or hitem
  refine ⟨hitems, entries_eq_iff.mp (entries_or_eq s fallback).symm, ?_, ?_, resolvers_eq s, ?_⟩
  · intro hne pieces hlaid other
    have hread := entries_of_around hitems hlaid
    rw [entries_or_eq, if_neg ?_, hread]
    rw [← entries_eq_nil_iff, hread]
    exact hne
  · constructor
    · intro hvacant
      refine ⟨"a", "b", ?_⟩
      rw [entries_or_eq, entries_or_eq, if_pos hvacant, if_pos hvacant]
      decide
    · rintro ⟨a, b, hne⟩
      refine Decidable.byContradiction fun hvacant => hne ?_
      rw [entries_or_eq, entries_or_eq, if_neg hvacant, if_neg hvacant]
  · rw [resolvers_eq]
    exact ⟨getD_ne_empty (fun item hitem => is_item_of_mem_entries_or hitem) (by decide) 0,
      getD_ne_empty (fun item hitem => is_item_of_mem_entries_or hitem) (by decide) 1⟩

/-- Two resolvers are read back from a text with margins and a blank piece around them. -/
theorem entries_normal_respaced :
    entriesOr "\t1.1. 1.1,,9.9.9.9" "" ≠ [] ∧
      entriesOr " 1.1.1.1\n,9.9.9.9 , " "8.8.8.8" = entriesOr "\t1.1. 1.1,,9.9.9.9" "" := by
  have hitems : entriesOr "\t1.1. 1.1,,9.9.9.9" "" = ["1.1.1.1", "9.9.9.9"] := by decide
  have hne : entriesOr "\t1.1. 1.1,,9.9.9.9" "" ≠ [] := by simp [hitems]
  have hlaid : Laid Around [" 1.1.1.1\n", "9.9.9.9 ", " "]
      (entriesOr "\t1.1. 1.1,,9.9.9.9" "") := by
    rw [hitems]
    exact .entry ⟨" ", "\n", by decide⟩ (.entry ⟨"", " ", by decide⟩ (.blank (by decide) .nil))
  have hjoin : ",".intercalate [" 1.1.1.1\n", "9.9.9.9 ", " "] = " 1.1.1.1\n,9.9.9.9 , " := by
    decide
  refine ⟨hne, ?_⟩
  rw [← hjoin]
  exact (entries_normal "\t1.1. 1.1,,9.9.9.9" "").2.2.1 hne _ hlaid "8.8.8.8"

end TunnelKeeper.Listing
