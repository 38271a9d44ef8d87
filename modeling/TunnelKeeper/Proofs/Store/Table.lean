import TunnelKeeper.Store

/-!
# Tables of rows

A table is sorted when its keys ascend strictly (`SortedRows`), so a key is held by one row at
most. `putRow` keeps a table sorted; the rows of the new table and what is found in it are those
of the old one, but for the key of the row that was put.
-/

namespace TunnelKeeper

section

variable {ρ : Type} {key : ρ → String} {row : ρ} {rows : List ρ}

/-- The keys ascend strictly. -/
def SortedRows (key : ρ → String) (rows : List ρ) : Prop :=
  rows.Pairwise fun a b => key a < key b

theorem sorted_rows_nil : SortedRows key [] := List.Pairwise.nil

/-- No key is held by two rows. -/
theorem SortedRows.nodup (h : SortedRows key rows) : (rows.map key).Nodup := by
  rw [List.Nodup, List.pairwise_map]
  refine h.imp ?_
  intro a b hlt heq
  rw [heq] at hlt
  exact String.lt_irrefl _ hlt

/-- Rows of one key are one row. -/
theorem SortedRows.eq_of_key_eq (h : SortedRows key rows) {a b : ρ} (ha : a ∈ rows)
    (hb : b ∈ rows) (hkey : key a = key b) : a = b := by
  induction rows with
  | nil => simp at ha
  | cons r rows ih =>
      obtain ⟨hhead, htail⟩ := List.pairwise_cons.mp h
      rcases List.mem_cons.mp ha with heq | ha'
      · rcases List.mem_cons.mp hb with heq' | hb'
        · rw [heq, heq']
        · rw [← heq, hkey] at hhead
          exact absurd (hhead b hb') (String.lt_irrefl _)
      · rcases List.mem_cons.mp hb with heq | hb'
        · rw [← heq, ← hkey] at hhead
          exact absurd (hhead a ha') (String.lt_irrefl _)
        · exact ih htail ha' hb'

/-- A row is found by its key. -/
theorem SortedRows.find_eq_some_iff (h : SortedRows key rows) {id : String} {r : ρ} :
    rows.find? (fun r => key r == id) = some r ↔ r ∈ rows ∧ key r = id := by
  constructor
  · intro hfind
    exact ⟨List.mem_of_find?_eq_some hfind, by simpa using List.find?_some hfind⟩
  · rintro ⟨hmem, rfl⟩
    cases hfind : rows.find? (fun s => key s == key r) with
    | none => exact absurd (List.find?_eq_none.mp hfind r hmem) (by simp)
    | some s =>
        have hs : key s = key r := by simpa using List.find?_some hfind
        rw [h.eq_of_key_eq (List.mem_of_find?_eq_some hfind) hmem hs]

/-- What is not found is not there. -/
theorem find_eq_none_iff {id : String} :
    rows.find? (fun r => key r == id) = none ↔ ∀ r ∈ rows, key r ≠ id := by
  simp

theorem put_row_ne_nil : putRow key row rows ≠ [] := by
  cases rows with
  | nil => simp [putRow]
  | cons s rows =>
      rw [putRow]
      split
      · simp
      · split <;> simp

/-- No rows come into a table but those that are put. -/
theorem eq_or_mem_of_mem_put_row {r : ρ} (h : r ∈ putRow key row rows) : r = row ∨ r ∈ rows := by
  induction rows with
  | nil => exact .inl (by simpa [putRow] using h)
  | cons s rows ih =>
      rw [putRow] at h
      split at h
      · exact (List.mem_cons.mp h).imp_right (List.mem_cons_of_mem _)
      · split at h
        · exact List.mem_cons.mp h
        · rcases List.mem_cons.mp h with rfl | h
          · exact .inr List.mem_cons_self
          · exact (ih h).imp_right (List.mem_cons_of_mem _)

/-- A row that is put is there, and no other row of its key. -/
theorem mem_put_row (h : SortedRows key rows) {r : ρ} :
    r ∈ putRow key row rows ↔ r = row ∨ r ∈ rows ∧ key r ≠ key row := by
  induction rows with
  | nil => simp [putRow]
  | cons s rows ih =>
      obtain ⟨hhead, htail⟩ := List.pairwise_cons.mp h
      have hrest : ∀ t ∈ rows, key t ≠ key s := fun t ht heq =>
        String.lt_irrefl _ (heq ▸ hhead t ht)
      rw [putRow]
      split
      · next heq =>
          rw [heq]
          simp only [List.mem_cons]
          constructor
          · rintro (rfl | hr)
            · exact .inl rfl
            · exact .inr ⟨.inr hr, hrest r hr⟩
          · rintro (rfl | ⟨rfl | hr, hne⟩)
            · exact .inl rfl
            · exact absurd rfl hne
            · exact .inr hr
      · next hne =>
          split
          · next hlt =>
              -- The row goes in front of the first greater key, so no row behind it has its key.
              have hall : ∀ t ∈ s :: rows, key t ≠ key row := by
                intro t ht heq
                rcases List.mem_cons.mp ht with rfl | ht
                · exact hne heq.symm
                · exact String.lt_irrefl _ (String.lt_trans hlt (heq ▸ hhead t ht))
              simp only [List.mem_cons]
              constructor
              · rintro (rfl | hr)
                · exact .inl rfl
                · exact .inr ⟨hr, hall r (List.mem_cons.mpr hr)⟩
              · rintro (rfl | ⟨hr, -⟩)
                · exact .inl rfl
                · exact .inr hr
          · rw [List.mem_cons, List.mem_cons, ih htail]
            constructor
            · rintro (rfl | rfl | ⟨hr, hkey⟩)
              · exact .inr ⟨.inl rfl, Ne.symm hne⟩
              · exact .inl rfl
              · exact .inr ⟨.inr hr, hkey⟩
            · rintro (rfl | ⟨rfl | hr, hkey⟩)
              · exact .inr (.inl rfl)
              · exact .inl rfl
              · exact .inr (.inr ⟨hr, hkey⟩)

/-- A table stays sorted when a row is put into it. -/
theorem SortedRows.put_row (h : SortedRows key rows) : SortedRows key (putRow key row rows) := by
  induction rows with
  | nil => exact List.pairwise_singleton _ _
  | cons s rows ih =>
      obtain ⟨hhead, htail⟩ := List.pairwise_cons.mp h
      rw [putRow]
      split
      · next heq => exact List.pairwise_cons.mpr ⟨fun t ht => heq ▸ hhead t ht, htail⟩
      · next hne =>
          split
          · next hlt =>
              refine List.pairwise_cons.mpr ⟨fun t ht => ?_, h⟩
              rcases List.mem_cons.mp ht with rfl | ht
              · exact hlt
              · exact String.lt_trans hlt (hhead t ht)
          · next hge =>
              refine List.pairwise_cons.mpr ⟨fun t ht => ?_, ih htail⟩
              rcases (mem_put_row htail).mp ht with rfl | ⟨ht, -⟩
              · exact Std.lt_of_le_of_ne (String.not_lt.mp hge) (Ne.symm hne)
              · exact hhead t ht

/-- Removing rows keeps a table sorted. -/
theorem SortedRows.filter (h : SortedRows key rows) (keep : ρ → Bool) :
    SortedRows key (rows.filter keep) := List.Pairwise.filter keep h

/-- A row that is not kept can be put without a trace if it takes the place of no row that is. -/
theorem filter_put_row {keep : ρ → Bool} (hrow : keep row = false)
    (hplace : ∀ r ∈ rows, key row = key r → keep r = false) :
    (putRow key row rows).filter keep = rows.filter keep := by
  induction rows with
  | nil => simp [putRow, hrow]
  | cons s rows ih =>
      obtain ⟨hhead, htail⟩ := List.forall_mem_cons.mp hplace
      rw [putRow]
      split
      · next heq => rw [List.filter_cons_of_neg (by simp [hrow]),
          List.filter_cons_of_neg (by simp [hhead heq])]
      · split
        · rw [List.filter_cons_of_neg (by simp [hrow])]
        · rw [List.filter_cons, List.filter_cons, ih htail]

/-- A row that was put is found by its key, and nothing else is found otherwise. -/
theorem find_put_row (h : SortedRows key rows) (row : ρ) (id : String) :
    (putRow key row rows).find? (fun r => key r == id) =
      if id = key row then some row else rows.find? fun r => key r == id := by
  split
  · next heq =>
      exact h.put_row.find_eq_some_iff.mpr ⟨(mem_put_row h).mpr (.inl rfl), heq.symm⟩
  · next hne =>
      cases hfind : rows.find? (fun r => key r == id) with
      | none =>
          refine find_eq_none_iff.mpr fun r hr => ?_
          rcases (mem_put_row h).mp hr with rfl | ⟨hr, -⟩
          · exact Ne.symm hne
          · exact find_eq_none_iff.mp hfind r hr
      | some r =>
          obtain ⟨hr, hkey⟩ := h.find_eq_some_iff.mp hfind
          refine h.put_row.find_eq_some_iff.mpr ⟨(mem_put_row h).mpr (.inr ⟨hr, ?_⟩), hkey⟩
          rw [hkey]
          exact hne

/-- What is found among the rows that are kept. -/
theorem find_filter (h : SortedRows key rows) (keep : ρ → Bool) (id : String) :
    (rows.filter keep).find? (fun r => key r == id) =
      (rows.find? fun r => key r == id).filter keep := by
  cases hfind : rows.find? (fun r => key r == id) with
  | none =>
      refine find_eq_none_iff.mpr fun r hr => ?_
      exact find_eq_none_iff.mp hfind r (List.mem_filter.mp hr).1
  | some r =>
      obtain ⟨hr, hkey⟩ := h.find_eq_some_iff.mp hfind
      cases hkeep : keep r with
      | true =>
          rw [Option.filter_some, if_pos hkeep]
          exact (h.filter keep).find_eq_some_iff.mpr ⟨List.mem_filter.mpr ⟨hr, hkeep⟩, hkey⟩
      | false =>
          rw [Option.filter_some, if_neg (by simp [hkeep])]
          refine find_eq_none_iff.mpr fun s hs heq => ?_
          obtain ⟨hs, hkept⟩ := List.mem_filter.mp hs
          rw [h.eq_of_key_eq hs hr (heq.trans hkey.symm), hkeep] at hkept
          exact absurd hkept (by decide)

end

end TunnelKeeper
