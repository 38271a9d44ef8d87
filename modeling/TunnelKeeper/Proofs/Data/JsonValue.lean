import TunnelKeeper.Data.Json.Reader
import TunnelKeeper.Data.Json.Writer
import TunnelKeeper.Proofs.Data.JsonNumber
import TunnelKeeper.Proofs.Data.JsonString

/-!
# JSON documents read back

`Data.Plain` holds of the trees that are undamaged throughout and hold no floating-point number.
Reading what was written for such a tree gives the tree itself and leaves what follows
(`read_value_write`), so a whole document reads back (`read_document_write`). The fuel of the
reader is bounded by three times the length of the text.
-/

namespace TunnelKeeper

/-- An undamaged tree without floating-point numbers, whose integers fit 64 bits. -/
inductive Data.Plain : Data → Prop where
  | null : Plain .null
  | bool (b : Bool) : Plain (.bool b)
  | int {i : Int} (h : Json.IsWord i) : Plain (.int i)
  | text (s : String) : Plain (.text s)
  | list {items : List Data} (h : ∀ d ∈ items, Plain d) : Plain (.list items)
  | object {entries : List (String × Data)} (h : ∀ e ∈ entries, Plain e.2) :
      Plain (.object entries)

theorem Data.Plain.nat {n : Nat} (h : n < 2 ^ 64) : Data.Plain (.nat n) :=
  .int (by simp only [Json.IsWord]; omega)

namespace Json

open Number

/-! ## The first character of a value -/

/-- A character that a value may begin with: no space, no closing bracket. -/
def StartsValue (c : Char) : Prop := isSpace c = false ∧ c ≠ ']'

theorem starts_value_of_is_digit {c : Char} (h : isDigit c = true) : StartsValue c := by
  refine ⟨?_, ?_⟩
  · simp only [isSpace, Bool.or_eq_false_iff, decide_eq_false_iff_not]
    refine ⟨⟨⟨?_, ?_⟩, ?_⟩, ?_⟩ <;> (rintro rfl; revert h; decide)
  · rintro rfl
    revert h
    decide

theorem decimal_chars_cons (n : Nat) :
    ∃ c cs, decimalChars n = c :: cs ∧ isDigit c = true := by
  obtain ⟨c, cs, h, hc⟩ := decimal_chars_eq_cons n
  exact ⟨c, cs, h, is_digit_of_is_digit_of hc⟩

/-- What is written for a plain tree begins like a value. -/
theorem write_value_cons {d : Data} (h : d.Plain) :
    ∃ c cs, writeValue d = c :: cs ∧ StartsValue c := by
  cases h with
  | null => exact ⟨_, _, rfl, by decide, by decide⟩
  | bool b => cases b <;> exact ⟨_, _, rfl, by decide, by decide⟩
  | @int i hi =>
      cases i with
      | ofNat n =>
          obtain ⟨c, cs, hcs, hc⟩ := decimal_chars_cons n
          refine ⟨c, cs, ?_, starts_value_of_is_digit hc⟩
          simp [writeValue, decimalInt, decimal, hcs]
      | negSucc n =>
          refine ⟨'-', decimalChars (n + 1), ?_, by decide, by decide⟩
          simp [writeValue, decimalInt]
  | text s => exact ⟨'"', _, rfl, by decide, by decide⟩
  | list _ => exact ⟨'[', _, rfl, by decide, by decide⟩
  | object _ => exact ⟨'\x7b', _, rfl, by decide, by decide⟩

theorem skip_space_cons {c : Char} (h : isSpace c = false) (cs : List Char) :
    skipSpace (c :: cs) = c :: cs := by
  simp [skipSpace, h]

/-! ## Single values -/

/-- A value that begins with a digit is a number without sign. -/
theorem read_value_digit (fuel : Nat) {c : Char} (h : isDigit c = true) (cs : List Char) :
    readValue (fuel + 1) (c :: cs) = readNumber false (c :: cs) := by
  have hne : ∀ x, isDigit x = false → c ≠ x := by
    rintro x hx rfl
    simp [h] at hx
  have h1 : c ≠ 'n' := hne _ (by decide)
  have h2 : c ≠ 't' := hne _ (by decide)
  have h3 : c ≠ 'f' := hne _ (by decide)
  have h4 : c ≠ '"' := hne _ (by decide)
  have h5 : c ≠ '[' := hne _ (by decide)
  have h6 : c ≠ '\x7b' := hne _ (by decide)
  have h7 : c ≠ '-' := hne _ (by decide)
  simp [readValue, skip_space_cons (starts_value_of_is_digit h).1, h]

theorem read_value_text (fuel : Nat) (s : String) (rest : List Char) :
    readValue (fuel + 1) (quoteChars s.toList ++ rest) = (.text s, some rest) := by
  have hscan := scan_string_quoted [] s.toList rest
  simp only [quoteChars, List.cons_append, List.append_assoc, readValue,
    skip_space_cons (show isSpace '"' = false by decide), readString, List.nil_append]
  rw [show Partial.start = Partial.sound [] from rfl, hscan]
  simp

theorem read_value_int (fuel : Nat) {i : Int} (hi : IsWord i) {rest : List Char}
    (hrest : EndsNumber rest) :
    readValue (fuel + 1) ((decimalInt i).toList ++ rest) = (.int i, some rest) := by
  simp only [IsWord] at hi
  cases i with
  | ofNat n =>
      have hn : n < wordLimit := by
        have : (n : Int) < 2 ^ 64 := hi.2
        simp only [wordLimit]
        omega
      obtain ⟨c, cs, hcs, hc⟩ := decimal_chars_cons n
      simp only [decimalInt, decimal, String.toList_ofList]
      rw [hcs, List.cons_append, read_value_digit fuel hc, ← List.cons_append, ← hcs,
        read_number_decimal_chars false hn hrest]
      rfl
  | negSucc n =>
      have hn : n + 1 ≤ 2 ^ 63 := by omega
      have hword : n + 1 < wordLimit := by
        simp only [wordLimit]
        omega
      simp only [decimalInt, String.toList_ofList, List.cons_append, readValue,
        skip_space_cons (show isSpace '-' = false by decide)]
      rw [read_number_decimal_chars true hword hrest]
      simp only [wholeNumber, Bool.not_true, Bool.false_eq_true, if_false]
      rw [if_neg (by omega)]
      rfl

/-! ## Sequences -/

/-- A value is read back, with any sufficient fuel and before any text that does not go on with
it. -/
def ReadsBack (d : Data) : Prop :=
  ∀ fuel rest, 3 * (writeValue d).length ≤ fuel → EndsNumber rest →
    readValue fuel (writeValue d ++ rest) = (d, some rest)

/-- What is written behind an item: the closing bracket, or a comma and the other items. -/
def itemsTail : List Data → List Char
  | [] => [']']
  | item :: rest => ',' :: writeItems (item :: rest)

theorem write_items_cons (item : Data) (rest : List Data) :
    writeItems (item :: rest) = writeValue item ++ itemsTail rest := by
  cases rest <;> rfl

theorem items_tail_cons (item : Data) (rest : List Data) :
    itemsTail (item :: rest) = ',' :: (writeValue item ++ itemsTail rest) := by
  rw [itemsTail, write_items_cons]

theorem ends_number_items_tail (items : List Data) (rest : List Char) :
    EndsNumber (itemsTail items ++ rest) := by
  cases items with
  | nil => exact ends_number_cons (by decide) (by decide) (by decide) (by decide) _
  | cons item items => exact ends_number_cons (by decide) (by decide) (by decide) (by decide) _

/-- The first item of a sequence stands right behind the bracket. -/
theorem read_items_first (fuel : Nat) (done : List Data) {c : Char} (h : StartsValue c)
    (cs : List Char) : readItems (fuel + 1) true done (c :: cs) = readItem fuel done (c :: cs) := by
  rw [readItems.eq_def]
  simp [skip_space_cons h.1, h.2]

/-- Every other item stands behind a comma. -/
theorem read_items_comma (fuel : Nat) (done : List Data) {c : Char} (h : StartsValue c)
    (cs : List Char) :
    readItems (fuel + 1) false done (',' :: c :: cs) = readItem fuel done (c :: cs) := by
  rw [readItems.eq_def]
  simp [skip_space_cons (show isSpace ',' = false by decide), skip_space_cons h.1, h.2]

/-- One item is read, and the reader goes on behind it. -/
theorem read_item_write {item : Data} (hitem : ReadsBack item) {fuel : Nat}
    (hfuel : 3 * (writeValue item).length ≤ fuel) (done items : List Data) (rest : List Char) :
    readItem (fuel + 1) done (writeValue item ++ (itemsTail items ++ rest)) =
      readItems fuel false (item :: done) (itemsTail items ++ rest) := by
  rw [readItem.eq_def]
  simp only [hitem fuel _ hfuel (ends_number_items_tail items rest)]

/-- The items behind the first one are read back. -/
theorem read_items_tail {items : List Data} (hplain : ∀ d ∈ items, d.Plain)
    (hitems : ∀ d ∈ items, ReadsBack d) {fuel : Nat} (done : List Data) (rest : List Char)
    (hfuel : 3 * (itemsTail items).length ≤ fuel) :
    readItems fuel false done (itemsTail items ++ rest) =
      (.seq (done.reverse ++ items) none, some rest) := by
  induction items generalizing fuel done with
  | nil =>
      obtain ⟨fuel, rfl⟩ : ∃ k, fuel = k + 1 := ⟨fuel - 1, by simp [itemsTail] at hfuel; omega⟩
      simp [itemsTail, readItems, skipSpace, isSpace]
  | cons item items ih =>
      rw [items_tail_cons, List.length_cons, List.length_append] at hfuel
      -- One unit is for the comma and one for the item, and both have characters to pay for them.
      obtain ⟨fuel, rfl⟩ : ∃ k, fuel = k + 2 := ⟨fuel - 2, by omega⟩
      obtain ⟨c, cs, hcs, hstarts⟩ := write_value_cons (hplain item (by simp))
      have hread : readItems (fuel + 2) false done (itemsTail (item :: items) ++ rest) =
          readItem (fuel + 1) done (writeValue item ++ (itemsTail items ++ rest)) := by
        rw [items_tail_cons, List.cons_append, List.append_assoc, hcs, List.cons_append]
        exact read_items_comma _ _ hstarts _
      rw [hread, read_item_write (hitems item (by simp)) (by omega),
        ih (fun d hd => hplain d (by simp [hd])) (fun d hd => hitems d (by simp [hd])) _ (by omega)]
      simp

/-- The items of a sequence are read back. -/
theorem read_items_write {items : List Data} (hplain : ∀ d ∈ items, d.Plain)
    (hitems : ∀ d ∈ items, ReadsBack d) {fuel : Nat} (rest : List Char)
    (hfuel : 3 * (writeItems items).length ≤ fuel) :
    readItems fuel true [] (writeItems items ++ rest) = (.list items, some rest) := by
  cases items with
  | nil =>
      obtain ⟨fuel, rfl⟩ : ∃ k, fuel = k + 1 := ⟨fuel - 1, by simp [writeItems] at hfuel; omega⟩
      simp [writeItems, readItems, skipSpace, isSpace, Data.list]
  | cons item items =>
      rw [write_items_cons, List.length_append] at hfuel
      have hpos : 0 < (itemsTail items).length := by cases items <;> simp [itemsTail]
      obtain ⟨fuel, rfl⟩ : ∃ k, fuel = k + 2 := ⟨fuel - 2, by omega⟩
      obtain ⟨c, cs, hcs, hstarts⟩ := write_value_cons (hplain item (by simp))
      have hlength : 0 < (writeValue item).length := by simp [hcs]
      have hread : readItems (fuel + 2) true [] (writeItems (item :: items) ++ rest) =
          readItem (fuel + 1) [] (writeValue item ++ (itemsTail items ++ rest)) := by
        rw [write_items_cons, List.append_assoc, hcs, List.cons_append]
        exact read_items_first _ _ hstarts _
      rw [hread, read_item_write (hitems item (by simp)) (by omega),
        read_items_tail (fun d hd => hplain d (by simp [hd])) (fun d hd => hitems d (by simp [hd]))
          _ _ (by omega)]
      rfl

/-! ## Tables -/

/-- An entry of a table as it is written. -/
def writeEntry (e : String × Data) : List Char :=
  quoteChars e.1.toList ++ ':' :: writeValue e.2

/-- The entries of a table without damage. -/
def soundEntries (entries : List (String × Data)) : List (Except Fault String × Data) :=
  entries.map fun (key, value) => (.ok key, value)

/-- What is written behind an entry: the closing brace, or a comma and the other entries. -/
def entriesTail : List (String × Data) → List Char
  | [] => ['\x7d']
  | e :: rest => ',' :: writeEntries (soundEntries (e :: rest))

theorem write_entries_cons (e : String × Data) (rest : List (String × Data)) :
    writeEntries (soundEntries (e :: rest)) = writeEntry e ++ entriesTail rest := by
  cases rest <;> simp [soundEntries, writeEntries, writeEntry, writeKey, entriesTail]

theorem length_write_entry (e : String × Data) :
    (writeValue e.2).length + 3 ≤ (writeEntry e).length := by
  simp [writeEntry, quoteChars]

theorem entries_tail_cons (e : String × Data) (rest : List (String × Data)) :
    entriesTail (e :: rest) = ',' :: (writeEntry e ++ entriesTail rest) := by
  rw [entriesTail, write_entries_cons]

theorem ends_number_entries_tail (entries : List (String × Data)) (rest : List Char) :
    EndsNumber (entriesTail entries ++ rest) := by
  cases entries with
  | nil => exact ends_number_cons (by decide) (by decide) (by decide) (by decide) _
  | cons e entries => exact ends_number_cons (by decide) (by decide) (by decide) (by decide) _

/-- A key is read back together with its colon. -/
theorem read_key_write (key : String) (rest : List Char) :
    readKey (key.toList.flatMap escapeChar ++ '"' :: ':' :: rest) = (.ok key, .ok rest) := by
  have hscan := scan_string_quoted [] key.toList (':' :: rest)
  simp only [readKey]
  rw [show Partial.start = Partial.sound [] from rfl, hscan]
  simp [skip_space_cons (show isSpace ':' = false by decide), Except.map]

/-- One entry is read, and the reader goes on behind it. -/
theorem read_entry_write {e : String × Data} (he : ReadsBack e.2) {fuel : Nat}
    (hfuel : 3 * (writeValue e.2).length ≤ fuel) (done : List (Except Fault String × Data))
    (entries : List (String × Data)) (rest : List Char) :
    readEntry (fuel + 1) done (writeEntry e ++ (entriesTail entries ++ rest)) =
      readEntries fuel false ((.ok e.1, e.2) :: done) (entriesTail entries ++ rest) := by
  rw [readEntry.eq_def]
  simp only [writeEntry, quoteChars, List.cons_append, List.append_assoc, List.nil_append,
    read_key_write, he fuel _ hfuel (ends_number_entries_tail entries rest)]

/-- The entries behind the first one are read back. -/
theorem read_entries_tail {entries : List (String × Data)}
    (hentries : ∀ e ∈ entries, ReadsBack e.2) {fuel : Nat}
    (done : List (Except Fault String × Data)) (rest : List Char)
    (hfuel : 3 * (entriesTail entries).length ≤ fuel) :
    readEntries fuel false done (entriesTail entries ++ rest) =
      (.table (done.reverse ++ soundEntries entries) none, some rest) := by
  induction entries generalizing fuel done with
  | nil =>
      obtain ⟨fuel, rfl⟩ : ∃ k, fuel = k + 1 := ⟨fuel - 1, by simp [entriesTail] at hfuel; omega⟩
      simp [entriesTail, readEntries, skipSpace, isSpace, soundEntries]
  | cons e entries ih =>
      have hlength := length_write_entry e
      rw [entries_tail_cons, List.length_cons, List.length_append] at hfuel
      obtain ⟨fuel, rfl⟩ : ∃ k, fuel = k + 2 := ⟨fuel - 2, by omega⟩
      have hread : readEntries (fuel + 2) false done (entriesTail (e :: entries) ++ rest) =
          readEntry (fuel + 1) done (writeEntry e ++ (entriesTail entries ++ rest)) := by
        rw [entries_tail_cons, readEntries.eq_def]
        simp [skip_space_cons (show isSpace ',' = false by decide),
          skip_space_cons (show isSpace '"' = false by decide), writeEntry, quoteChars]
      rw [hread, read_entry_write (hentries e (by simp)) (by omega),
        ih (fun e he => hentries e (by simp [he])) _ (by omega)]
      simp [soundEntries]

/-- The entries of a table are read back. -/
theorem read_entries_write {entries : List (String × Data)}
    (hentries : ∀ e ∈ entries, ReadsBack e.2) {fuel : Nat} (rest : List Char)
    (hfuel : 3 * (writeEntries (soundEntries entries)).length ≤ fuel) :
    readEntries fuel true [] (writeEntries (soundEntries entries) ++ rest) =
      (.object entries, some rest) := by
  cases entries with
  | nil =>
      obtain ⟨fuel, rfl⟩ : ∃ k, fuel = k + 1 :=
        ⟨fuel - 1, by simp [soundEntries, writeEntries] at hfuel; omega⟩
      simp [soundEntries, writeEntries, readEntries, skipSpace, isSpace, Data.object]
  | cons e entries =>
      have hlength := length_write_entry e
      rw [write_entries_cons, List.length_append] at hfuel
      have hpos : 0 < (entriesTail entries).length := by cases entries <;> simp [entriesTail]
      obtain ⟨fuel, rfl⟩ : ∃ k, fuel = k + 2 := ⟨fuel - 2, by omega⟩
      have hread :
          readEntries (fuel + 2) true [] (writeEntries (soundEntries (e :: entries)) ++ rest) =
            readEntry (fuel + 1) [] (writeEntry e ++ (entriesTail entries ++ rest)) := by
        rw [write_entries_cons, readEntries.eq_def]
        simp [skip_space_cons (show isSpace '"' = false by decide), writeEntry, quoteChars]
      rw [hread, read_entry_write (hentries e (by simp)) (by omega),
        read_entries_tail (fun e he => hentries e (by simp [he])) _ _ (by omega)]
      rfl

/-! ## Documents -/

/-- Every plain tree is read back from its text. -/
theorem read_value_write {d : Data} (h : d.Plain) : ReadsBack d := by
  -- Lists and tables hand their fuel on; every other value takes one unit.
  induction h with
  | null =>
      intro fuel rest hfuel _
      obtain ⟨fuel, rfl⟩ : ∃ k, fuel = k + 1 := ⟨fuel - 1, by simp [writeValue] at hfuel; omega⟩
      simp [writeValue, readValue, skipSpace, isSpace, readWord]
  | bool b =>
      intro fuel rest hfuel _
      cases b <;>
        (obtain ⟨fuel, rfl⟩ : ∃ k, fuel = k + 1 :=
          ⟨fuel - 1, by simp [writeValue] at hfuel; omega⟩
         simp [writeValue, readValue, skipSpace, isSpace, readWord])
  | @int i hi =>
      intro fuel rest hfuel hrest
      obtain ⟨c, cs, hcs, _⟩ := write_value_cons (.int hi)
      rw [hcs, List.length_cons] at hfuel
      obtain ⟨fuel, rfl⟩ : ∃ k, fuel = k + 1 := ⟨fuel - 1, by omega⟩
      exact read_value_int fuel hi hrest
  | text s =>
      intro fuel rest hfuel _
      obtain ⟨fuel, rfl⟩ : ∃ k, fuel = k + 1 :=
        ⟨fuel - 1, by simp [writeValue, quoteChars] at hfuel; omega⟩
      exact read_value_text fuel s rest
  | @list items hplain ih =>
      intro fuel rest hfuel _
      simp only [Data.list, writeValue, List.length_cons] at hfuel
      obtain ⟨fuel, rfl⟩ : ∃ k, fuel = k + 1 := ⟨fuel - 1, by omega⟩
      simp only [Data.list, writeValue, List.cons_append, readValue,
        skip_space_cons (show isSpace '[' = false by decide)]
      exact read_items_write hplain ih rest (by omega)
  | @object entries _ ih =>
      intro fuel rest hfuel _
      simp only [Data.object, writeValue, List.length_cons] at hfuel
      obtain ⟨fuel, rfl⟩ : ∃ k, fuel = k + 1 := ⟨fuel - 1, by omega⟩
      simp only [Data.object, writeValue, List.cons_append, readValue,
        skip_space_cons (show isSpace '\x7b' = false by decide)]
      exact read_entries_write ih rest (by simp only [soundEntries]; omega)

/-- A document that was written for a plain tree is read back whole. -/
theorem read_document_write {d : Data} (h : d.Plain) :
    readDocument (writeValue d) = ⟨d, true⟩ := by
  have hread := read_value_write h (3 * (writeValue d).length + 3) [] (by omega) ends_number_nil
  rw [List.append_nil] at hread
  simp [readDocument, hread, skipSpace]

/-- A typed value is read back from the text of its tree if it is decoded from the tree. -/
theorem decode_text_write {α : Type} {decoder : Decoder α} {d : Data} {a : α} (h : d.Plain)
    (hdecode : decoder .jsonText d = .ok a) : decodeText decoder (write d) = .ok a := by
  simp only [decodeText, write, String.toList_ofList, read_document_write h, hdecode]
  rfl

end Json

end TunnelKeeper
