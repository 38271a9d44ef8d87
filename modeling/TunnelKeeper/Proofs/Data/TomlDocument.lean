import TunnelKeeper.Proofs.Data.Record
import TunnelKeeper.Proofs.Data.TomlScalar

/-!
# TOML documents read back

A document that gives every table a header and every key a line has these tables, with the keys in
their order (`read_document_write`). The names need no quotes, and none is given twice.
-/

namespace TunnelKeeper.Toml

/-- A name that is written without quotes. -/
def Bare (name : String) : Prop := name.toList ≠ [] ∧ ∀ c ∈ name.toList, isBare c

instance (name : String) : Decidable (Bare name) :=
  decidable_of_iff ((!name.toList.isEmpty && name.toList.all isBare) = true) (by simp [Bare])

/-- The line of a key. -/
def entryChars (e : String × Scalar) : List Char :=
  e.1.toList ++ ' ' :: '=' :: ' ' :: (e.2.chars ++ ['\n'])

/-- The lines of a table. -/
def tableChars (t : String × List (String × Scalar)) : List Char :=
  '[' :: (t.1.toList ++ ']' :: '\n' :: t.2.flatMap entryChars)

/-- Tables as a text. -/
def write (tables : List (String × List (String × Scalar))) : String :=
  String.ofList (tables.flatMap tableChars)

/-- Tables that can be written: all names are distinct and need no quotes, and all values have a
written form. -/
structure Writable (tables : List (String × List (String × Scalar))) : Prop where
  headers : ∀ t ∈ tables, Bare t.1
  distinct : (tables.map Prod.fst).Nodup
  keys : ∀ t ∈ tables, ∀ e ∈ t.2, Bare e.1
  distinct_keys : ∀ t ∈ tables, (t.2.map Prod.fst).Nodup
  values : ∀ t ∈ tables, ∀ e ∈ t.2, e.2.Fits

theorem Writable.tail {t : String × List (String × Scalar)}
    {tables : List (String × List (String × Scalar))} (h : Writable (t :: tables)) :
    Writable tables where
  headers := (List.forall_mem_cons.mp h.headers).2
  distinct := (List.nodup_cons.mp h.distinct).2
  keys := (List.forall_mem_cons.mp h.keys).2
  distinct_keys := (List.forall_mem_cons.mp h.distinct_keys).2
  values := (List.forall_mem_cons.mp h.values).2

/-- A name that comes after others and is distinct of them is none of them, whatever stands under
the names. -/
theorem not_mem_of_nodup {α β : Type} (f : String × α → String × β) (hf : ∀ e, (f e).1 = e.1)
    {done rest : List (String × α)} {e : String × α}
    (h : ((done ++ e :: rest).map Prod.fst).Nodup) : e.1 ∉ (done.map f).map Prod.fst := by
  have hkeys : (done.map f).map Prod.fst = done.map Prod.fst := by
    simp only [List.map_map, Function.comp_def, hf]
  rw [List.map_append, List.nodup_append] at h
  rw [hkeys]
  exact fun hmem => h.2.2 e.1 hmem e.1 List.mem_cons_self rfl

/-! ## Keys -/

theorem ne_of_is_bare {c : Char} (h : isBare c) (other : Char)
    (hother : ¬ isBare other := by decide) : c ≠ other := fun heq => hother (heq ▸ h)

theorem skip_blanks_cons {c : Char} (h : isBlank c = false) (rest : List Char) :
    skipBlanks (c :: rest) = c :: rest := by
  simp [skipBlanks, h]

theorem not_blank_of_is_bare {c : Char} (h : isBare c) : isBlank c = false := by
  simp [isBlank, ne_of_is_bare h ' ', ne_of_is_bare h '\t']

/-- A name begins with a character of names. -/
theorem Bare.to_list_eq_cons {name : String} (h : Bare name) :
    ∃ c cs, name.toList = c :: cs ∧ isBare c := by
  obtain ⟨hne, hbare⟩ := h
  cases hchars : name.toList with
  | nil => exact absurd hchars hne
  | cons c cs => exact ⟨c, cs, rfl, hbare c (hchars ▸ List.mem_cons_self)⟩

section Key

variable {name : String} (h : Bare name) {after : List Char}
  (hend : after.head?.all fun c => !isBare c)
include h hend

/-- A name is read up to the first character that belongs to no name. -/
theorem read_key_part_bare : readKeyPart (skipBlanks (name.toList ++ after)) =
    some (name, after) := by
  have hname : (name.toList ++ after).takeWhile isBare = name.toList := by
    rw [List.takeWhile_append_of_pos h.2]
    cases after with
    | nil => simp
    | cons c after =>
        have hc : isBare c = false := by simpa using hend
        simp [hc]
  obtain ⟨c, cs, hchars, hc⟩ := h.to_list_eq_cons
  rw [hchars, List.cons_append] at hname
  rw [hchars, List.cons_append, skip_blanks_cons (not_blank_of_is_bare hc), readKeyPart.eq_def]
  split
  · next heq => exact absurd (List.cons.inj heq).1 (ne_of_is_bare hc _)
  · next heq => exact absurd (List.cons.inj heq).1 (ne_of_is_bare hc _)
  · simp only [hname, ← hchars, String.ofList_toList]
    simp [hchars]

/-- A name is a key of one part if a mark follows it that is no dot. -/
theorem read_key_bare {mark : Char} {rest : List Char} (hskip : skipBlanks after = mark :: rest)
    (hdot : mark ≠ '.') :
    readKey (name.toList ++ after) = some (([], name), mark :: rest) := by
  have hparts : ∀ fuel, readKeyParts (fuel + 1) (name.toList ++ after) =
      some ([name], mark :: rest) := by
    intro fuel
    simp only [readKeyParts, read_key_part_bare h hend, hskip, Option.bind_eq_bind,
      Option.bind_some]
    split
    · next heq => exact absurd (List.cons.inj heq).1 hdot
    · rfl
  rw [readKey, nestingLimit, hparts]
  rfl

end Key

/-! ## Lines -/

/-- A header begins a table. -/
theorem read_lines_from_header {name : String} (h : Bare name) (fuel : Nat) (p : Progress)
    (rest : List Char) :
    readLinesFrom (fuel + 1) p ('[' :: (name.toList ++ ']' :: '\n' :: rest)) =
      (p.openTable [] name).bind fun p => readLinesFrom fuel p rest := by
  have hkey : readKey (name.toList ++ ']' :: '\n' :: rest) =
      some (([], name), ']' :: '\n' :: rest) :=
    read_key_bare h rfl rfl (by decide)
  obtain ⟨c, cs, hchars, hc⟩ := h.to_list_eq_cons
  rw [hchars, List.cons_append] at hkey
  rw [hchars, List.cons_append, readLinesFrom.eq_def]
  simp only [skip_blanks_cons (show isBlank '[' = false from rfl)]
  split
  · next heq => cases heq
  · next heq =>
      -- A second bracket would be the first character of the name.
      have htail := (List.cons.inj heq).2
      exact absurd (List.cons.inj htail).1 (ne_of_is_bare hc _)
  · next heq =>
      obtain ⟨-, rfl⟩ := List.cons.inj heq
      rw [hkey]
      rfl
  · next heq => exact absurd (List.cons.inj heq).1 (by decide)
  · next _ _ hheader _ => exact absurd rfl (hheader _)

/-- A line adds its value to the table that is being filled. -/
theorem read_lines_from_entry {key : String} (h : Bare key) {v : Scalar} (hv : v.Fits)
    (fuel : Nat) (p : Progress) (rest : List Char) :
    readLinesFrom (fuel + 1) p (entryChars (key, v) ++ rest) =
      (p.current.addValue [] key v.toData).bind fun current =>
        readLinesFrom fuel { p with current := current } rest := by
  have hkey : readKey (key.toList ++ ' ' :: '=' :: ' ' :: (v.chars ++ '\n' :: rest)) =
      some (([], key), '=' :: ' ' :: (v.chars ++ '\n' :: rest)) :=
    read_key_bare h rfl rfl (by decide)
  have hskip : skipBlanks (' ' :: (v.chars ++ '\n' :: rest)) = v.chars ++ '\n' :: rest :=
    skip_blanks_chars v ('\n' :: rest)
  have hline : entryChars (key, v) ++ rest =
      key.toList ++ ' ' :: '=' :: ' ' :: (v.chars ++ '\n' :: rest) := by
    simp [entryChars]
  obtain ⟨c, cs, hchars, hc⟩ := h.to_list_eq_cons
  rw [hchars, List.cons_append] at hkey hline
  have hfeed : readNewline (c :: (cs ++ ' ' :: '=' :: ' ' :: (v.chars ++ '\n' :: rest))) =
      none := by
    rw [readNewline.eq_def]
    split
    · next heq => exact absurd (List.cons.inj heq).1 (ne_of_is_bare hc _)
    · next heq => exact absurd (List.cons.inj heq).1 (ne_of_is_bare hc _)
    · rfl
  rw [hline, readLinesFrom.eq_def]
  simp only [skip_blanks_cons (not_blank_of_is_bare hc)]
  split
  · next heq => cases heq
  · next heq => exact absurd (List.cons.inj heq).1 (ne_of_is_bare hc _)
  · next heq => exact absurd (List.cons.inj heq).1 (ne_of_is_bare hc _)
  · next heq => exact absurd (List.cons.inj heq).1 (ne_of_is_bare hc _)
  · simp only [hfeed, hkey, readMark, if_pos, Option.bind_eq_bind, Option.bind_some, hskip,
      read_value_chars hv]
    rfl

/-! ## Tables under construction -/

namespace Table

variable {dotted implicit : Bool} {items : List (String × Item)} {key : String}

theorem find_eq_none (h : key ∉ items.map Prod.fst) : (mk implicit dotted items).find? key = none :=
  Data.lookup_eq_none h

/-- A key that is not given yet comes last. -/
theorem put_fresh (h : key ∉ items.map Prod.fst) (item : Item) :
    (mk implicit dotted items).put key item = mk implicit dotted (items ++ [(key, item)]) := by
  rw [put, find_eq_none h]
  rfl

theorem add_value_fresh (h : key ∉ items.map Prod.fst) (value : Data) :
    (mk implicit false items).addValue [] key value =
      some (mk implicit false (items ++ [(key, .value value)])) := by
  simp only [addValue, change, find_eq_none h, put_fresh h]
  rfl

end Table

/-- The item of an entry. -/
def entryItem (e : String × Scalar) : String × Item := (e.1, .value e.2.toData)

/-- The item of a table. -/
def tableItem (t : String × List (String × Scalar)) : String × Item :=
  (t.1, .table (.mk false false (t.2.map entryItem)))

/-- A header puts the table before it into its place. -/
theorem Progress.open_table_fresh {p : Progress} {items : List (String × Item)}
    (hfinish : p.finish = some (.mk false false items)) {name : String}
    (h : name ∉ items.map Prod.fst) :
    p.openTable [] name = some ⟨.mk false false items, .explicit, [], name, false, false⟩ := by
  simp only [openTable, hfinish, Table.change, lookupAt, Table.find_eq_none h,
    Option.bind_eq_bind, Option.bind_some]

theorem Progress.finish_fresh {items entries : List (String × Item)} {name : String}
    (h : name ∉ items.map Prod.fst) :
    finish ⟨.mk false false items, .mk false false entries, [], name, false, false⟩ =
      some (.mk false false (items ++ [(name, .table (.mk false false entries))])) := by
  simp [finish, Table.change, Table.find_eq_none h, Table.put_fresh h]

/-! ## Documents -/

/-- The lines of a table add its entries in their order. -/
theorem read_lines_from_entries (done : List (String × Scalar))
    {entries : List (String × Scalar)} (hbare : ∀ e ∈ entries, Bare e.1)
    (hfits : ∀ e ∈ entries, e.2.Fits)
    (hnodup : ((done ++ entries).map Prod.fst).Nodup) (fuel : Nat) (p : Progress)
    (rest : List Char) :
    readLinesFrom (fuel + entries.length)
        { p with current := .mk false false (done.map entryItem) }
        (entries.flatMap entryChars ++ rest) =
      readLinesFrom fuel
        { p with current := .mk false false ((done ++ entries).map entryItem) } rest := by
  -- The entries that were read are generalized: no later key is among them.
  induction entries generalizing done with
  | nil => simp
  | cons e entries ih =>
      obtain ⟨key, v⟩ := e
      obtain ⟨hkey, hbare⟩ := List.forall_mem_cons.mp hbare
      obtain ⟨hv, hfits⟩ := List.forall_mem_cons.mp hfits
      have hfresh : key ∉ (done.map entryItem).map Prod.fst :=
        not_mem_of_nodup entryItem (fun _ => rfl) hnodup
      rw [List.append_cons] at hnodup ⊢
      rw [List.flatMap_cons, List.append_assoc, List.length_cons, ← Nat.add_assoc,
        read_lines_from_entry hkey hv, Table.add_value_fresh hfresh, Option.bind_some,
        ← ih _ hbare hfits hnodup, List.map_append]
      rfl

theorem length_le_length_flat_map_entry_chars (entries : List (String × Scalar)) :
    entries.length ≤ (entries.flatMap entryChars).length := by
  induction entries with
  | nil => exact Nat.le_refl 0
  | cons e entries ih =>
      rw [List.flatMap_cons, List.length_append, entryChars, List.length_append,
        List.length_cons, List.length_cons]
      omega

/-- The lines of a document add its tables in their order. -/
theorem read_lines_from_tables (done : List (String × List (String × Scalar)))
    {tables : List (String × List (String × Scalar))} (h : Writable tables)
    (hnodup : ((done ++ tables).map Prod.fst).Nodup) {fuel : Nat} {p : Progress}
    (hfinish : p.finish = some (.mk false false (done.map tableItem)))
    (hfuel : (tables.flatMap tableChars).length < fuel) :
    readLinesFrom fuel p (tables.flatMap tableChars) =
      some (.mk false false ((done ++ tables).map tableItem)) := by
  induction tables generalizing done fuel p with
  | nil =>
      obtain ⟨fuel, rfl⟩ := Nat.exists_eq_succ_of_ne_zero (Nat.ne_of_gt hfuel)
      rw [List.append_nil, ← hfinish]
      rfl
  | cons t tables ih =>
      obtain ⟨name, entries⟩ := t
      have hmem : (name, entries) ∈ (name, entries) :: tables := List.mem_cons_self
      have hfresh : name ∉ (done.map tableItem).map Prod.fst :=
        not_mem_of_nodup tableItem (fun _ => rfl) hnodup
      have hlines : (((name, entries) :: tables).flatMap tableChars) = '[' :: (name.toList ++
          ']' :: '\n' :: (entries.flatMap entryChars ++ tables.flatMap tableChars)) := by
        simp [tableChars]
      have hlength := length_le_length_flat_map_entry_chars entries
      rw [hlines] at hfuel ⊢
      simp only [List.length_cons, List.length_append] at hfuel
      obtain ⟨fuel, rfl⟩ : ∃ k, fuel = k + entries.length + 1 :=
        ⟨fuel - entries.length - 1, by omega⟩
      rw [read_lines_from_header (h.headers _ hmem), Progress.open_table_fresh hfinish hfresh,
        Option.bind_some]
      have hentries := read_lines_from_entries [] (h.keys _ hmem) (h.values _ hmem)
        (h.distinct_keys _ hmem) fuel
        ⟨.mk false false (done.map tableItem), .explicit, [], name, false, false⟩
        (tables.flatMap tableChars)
      refine hentries.trans ?_
      rw [List.append_cons] at hnodup ⊢
      refine ih _ h.tail hnodup ?_ (by omega)
      simp [Progress.finish_fresh hfresh, tableItem]

/-- The tree of tables. -/
def treeOf (tables : List (String × List (String × Scalar))) : Data :=
  .object (tables.map fun t => (t.1, .object (t.2.map fun e => (e.1, e.2.toData))))

theorem items_data_map {α : Type} (name : α → String) (item : α → Item) (l : List α) :
    itemsData (l.map fun a => (name a, item a)) = l.map fun a => (name a, (item a).toData) := by
  induction l with
  | nil => rfl
  | cons a l ih => rw [List.map_cons, itemsData, ih, List.map_cons]

/-- A text that begins without a byte order mark is read line by line. -/
theorem read_document_of_list {cs : List Char} (h : cs.head? ≠ some '\ufeff') :
    readDocument (String.ofList cs) =
      (readLinesFrom (cs.length + 1) .start cs).elim (.error .malformed) fun t => .ok t.toData := by
  have hmark : ∀ rest, cs ≠ '\ufeff' :: rest := by
    rintro rest rfl
    exact h rfl
  rw [readDocument, String.toList_ofList]
  cases hread : readLinesFrom (cs.length + 1) .start cs with
  | none => simp [hread]
  | some t => simp [hread]

/-- A written document is read back. -/
theorem read_document_write {tables : List (String × List (String × Scalar))}
    (h : Writable tables) : readDocument (write tables) = .ok (treeOf tables) := by
  have hread := read_lines_from_tables [] h h.distinct (p := .start) rfl
    (Nat.lt_succ_self _)
  have hmark : (tables.flatMap tableChars).head? ≠ some '\ufeff' := by
    cases tables with
    | nil => simp
    | cons t tables => simp [tableChars]
  have hentries : ∀ entries : List (String × Scalar),
      itemsData (entries.map entryItem) = entries.map fun e => (e.1, e.2.toData) :=
    fun entries => items_data_map _ _ entries
  rw [write, read_document_of_list hmark, hread, Option.elim_some, List.nil_append, Table.toData,
    treeOf]
  refine congrArg (Except.ok ∘ Data.object) ((items_data_map _ _ tables).trans ?_)
  simp only [Item.toData, Table.toData, hentries]

end TunnelKeeper.Toml
