import Mathlib.Algebra.Order.Ring.Nat
import TunnelKeeper.Data.Schema
import TunnelKeeper.Proofs.Data.JsonValue

/-!
# Records read back

`Decoder.Undoes d write` says that a decoder reads back what a writer makes of a value.
`Fields.Reads f origin entries a` says that a record with the fields `f` has the value `a` when
these entries, and no others, are given. It is built field by field like the record itself, and
`Fields.undoes_of_reads` turns it into a fact about the decoder of the record.
-/

namespace TunnelKeeper

/-- A writer makes plain trees, and a decoder gives the values they were made of. -/
structure Decoder.Undoes {α : Type} (d : Decoder α) (write : α → Data) : Prop where
  plain : ∀ a, (write a).Plain
  read : ∀ origin a, d origin (write a) = .ok a

namespace Decoder

variable {α : Type}

theorem text_undoes : text.Undoes .text := ⟨.text, fun _ _ => rfl⟩

theorem bool_undoes : bool.Undoes .bool := ⟨.bool, fun _ _ => rfl⟩

/-- A natural number within its bits is read back. -/
theorem natural_nat (origin : Origin) {bits n : Nat} (h : n < 2 ^ bits) :
    natural bits origin (.nat n) = .ok n := by
  show (if n < 2 ^ bits then Except.ok n else _) = _
  exact if_pos h

/-- A list is read back if its items are. -/
theorem Undoes.list {d : Decoder α} {write : α → Data} (h : d.Undoes write) :
    (Decoder.list d).Undoes fun l => .list (l.map write) where
  plain := by
    intro l
    refine .list fun item hitem => ?_
    obtain ⟨a, -, rfl⟩ := List.mem_map.mp hitem
    exact h.plain a
  read := by
    intro origin l
    have hitems : items d origin (l.map write) = .ok l := by
      induction l with
      | nil => rfl
      | cons a l ih => simp only [List.map_cons, items, h.read, ih, bind, Except.bind]
    simp only [Decoder.list, Data.list, hitems, bind, Except.bind]

/-- A value or nothing is read back if no value is written as nothing. -/
theorem Undoes.option {d : Decoder α} {write : α → Data} (h : d.Undoes write)
    (hnull : ∀ a, write a ≠ .null) :
    (Decoder.option d).Undoes (Data.orNull write) where
  plain := by
    intro v
    cases v with
    | none => exact .null
    | some a => exact h.plain a
  read := by
    intro origin v
    cases v with
    | none => rfl
    | some a =>
        show Decoder.option d origin (write a) = _
        unfold Decoder.option
        split
        · next hwrite => exact absurd hwrite (hnull a)
        · rw [h.read]
          rfl

end Decoder

namespace Data

/-! ## Entries by key -/

section Entries

variable {κ α : Type} [BEq κ] [LawfulBEq κ] {entries : List (κ × α)} {key : κ}

/-- Nothing is found under a key that no entry has. -/
theorem lookup_eq_none (h : key ∉ entries.map Prod.fst) : entries.lookup key = none := by
  rw [List.lookup_eq_none_iff]
  intro e he
  rw [bne_iff_ne]
  rintro rfl
  exact h (List.mem_map.mpr ⟨e, he, rfl⟩)

/-- An entry is found under its key if no other has the key. -/
theorem lookup_of_mem (hkeys : (entries.map Prod.fst).Nodup) {a : α} (h : (key, a) ∈ entries) :
    entries.lookup key = some a := by
  induction entries with
  | nil => exact absurd h List.not_mem_nil
  | cons e entries ih =>
      obtain ⟨k, v⟩ := e
      obtain ⟨hfresh, hrest⟩ := List.nodup_cons.mp hkeys
      rw [List.lookup_cons]
      rcases List.mem_cons.mp h with heq | hmem
      · obtain ⟨rfl, rfl⟩ := Prod.mk.inj heq
        simp
      · have hne : key ≠ k := by
          rintro rfl
          exact hfresh (List.mem_map.mpr ⟨_, hmem, rfl⟩)
        rw [beq_eq_false_iff_ne.mpr hne]
        exact ih hrest hmem

/-- Looking a key up in the reverse of a list of distinct keys. -/
theorem lookup_reverse (h : (entries.map Prod.fst).Nodup) (key : κ) :
    entries.reverse.lookup key = entries.lookup key := by
  induction entries with
  | nil => rfl
  | cons e entries ih =>
      obtain ⟨k, v⟩ := e
      obtain ⟨hfresh, h⟩ := List.nodup_cons.mp h
      rw [List.reverse_cons, List.lookup_append, ih h]
      by_cases hkey : key = k
      · subst hkey
        simp [lookup_eq_none hfresh]
      · simp [List.lookup_cons, beq_eq_false_iff_ne.mpr hkey]

end Entries

end Data

namespace Fields

variable {α β : Type} {origin : Origin}

/-- A record with these fields has the value `a` when exactly these entries are given. -/
structure Reads (f : Fields α) (origin : Origin) (entries : List (String × Data)) (a : α) :
    Prop where
  /-- No key is given twice. -/
  nodup : (entries.map Prod.fst).Nodup
  /-- Every value that is given is plain. -/
  plain : ∀ e ∈ entries, e.2.Plain
  /-- Every key that is given names a field. -/
  known : ∀ e ∈ entries, e.1 ∈ f.names
  /-- There are no fields but those that have a name. -/
  foreign : ∀ key data, key ∉ f.names → f.check origin key data = none
  /-- Every value that is given is one of its field. -/
  checked : ∀ e ∈ entries, f.check origin e.1 e.2 = some (.ok ())
  /-- The record is put together from the entries. -/
  built : ∀ get : String → Option Data, (∀ key ∈ f.names, get key = entries.lookup key) →
    f.ofTable origin get = .ok a

/-- A record without fields. -/
theorem Reads.pure (a : α) : Reads (Fields.pure a) origin [] a where
  nodup := List.nodup_nil
  plain := by simp
  known := by simp
  foreign := fun _ _ _ => rfl
  checked := by simp
  built := fun _ _ => rfl

/-- The keys that are given are names of fields. -/
theorem Reads.mem_names {f : Fields α} {entries : List (String × Data)} {a : α}
    (h : Reads f origin entries a) {key : String} (hkey : key ∈ entries.map Prod.fst) :
    key ∈ f.names := by
  obtain ⟨e, he, rfl⟩ := List.mem_map.mp hkey
  exact h.known e he

/-- Nothing is found under a name that the record does not know. -/
theorem Reads.lookup_fresh {f : Fields α} {entries : List (String × Data)} {a : α}
    (h : Reads f origin entries a) {name : String} (hfresh : name ∉ f.names) :
    entries.lookup name = none :=
  Data.lookup_eq_none fun hmem => hfresh (h.mem_names hmem)

/-- A record of one field, which is given. -/
theorem Reads.only {name : String} {d : Decoder α} {absent : Absent α} {write : α → Data}
    (hd : d.Undoes write) (a : α) : Reads (field name d absent) origin [(name, write a)] a where
  nodup := by simp
  plain := List.forall_mem_singleton.mpr (hd.plain a)
  known := by simp [field]
  foreign := by
    intro key data hkey
    have hne : key ≠ name := by simpa [field] using hkey
    simp [field, hne]
  checked := by simp [field, hd.read, Except.map]
  built := by
    intro get hget
    have hgiven : get name = some (write a) := by
      rw [hget name (by simp [field])]
      simp
    simp [field, hgiven, hd.read]

/-- One more field, which is given. -/
theorem Reads.given {f : Fields (α → β)} {entries : List (String × Data)} {g : α → β}
    (h : Reads f origin entries g) {name : String} {d : Decoder α} {absent : Absent α}
    {write : α → Data} (hd : d.Undoes write) (a : α) (hfresh : name ∉ f.names) :
    Reads (f <*> field name d absent) origin (entries ++ [(name, write a)]) (g a) where
  nodup := by
    rw [List.map_append, List.nodup_append]
    refine ⟨h.nodup, by simp, ?_⟩
    rintro k hk _ hname rfl
    obtain rfl : k = name := by simpa using hname
    exact hfresh (h.mem_names hk)
  plain := by
    intro e he
    rcases List.mem_append.mp he with he | he
    · exact h.plain e he
    · rw [List.mem_singleton.mp he]
      exact hd.plain a
  known := by
    intro e he
    refine List.mem_append.mpr ?_
    rcases List.mem_append.mp he with he | he
    · exact .inl (h.known e he)
    · exact .inr (by simp [List.mem_singleton.mp he, field])
  foreign := by
    intro key data hkey
    have hkey : key ∉ f.names ∧ key ≠ name := by
      simpa [Seq.seq, Fields.seq, field] using hkey
    simp [Seq.seq, Fields.seq, field, h.foreign key data hkey.1, hkey.2]
  checked := by
    intro e he
    rcases List.mem_append.mp he with he | he
    · simp [Seq.seq, Fields.seq, h.checked e he]
    · obtain rfl := List.mem_singleton.mp he
      simp [Seq.seq, Fields.seq, field, h.foreign _ _ hfresh, hd.read, Except.map]
  built := by
    intro get hget
    have hfront : f.ofTable origin get = .ok g := by
      refine h.built get fun key hkey => ?_
      -- The new entry stands last and has a name of its own, so the others are found as before.
      have hne : key ≠ name := fun heq => hfresh (heq ▸ hkey)
      rw [hget key (List.mem_append_left _ hkey), List.lookup_append]
      simp [List.lookup_cons, beq_eq_false_iff_ne.mpr hne]
    have hlast : get name = some (write a) := by
      rw [hget name (List.mem_append_right _ (by simp [field])), List.lookup_append,
        h.lookup_fresh hfresh]
      simp
    simp [Seq.seq, Fields.seq, field, hfront, hlast, hd.read, bind, Except.bind]

/-- One more field, which is left out and has a value of its own then. -/
theorem Reads.left_out {f : Fields (α → β)} {entries : List (String × Data)} {g : α → β}
    (h : Reads f origin entries g) {name : String} {d : Decoder α} {a : α}
    (hfresh : name ∉ f.names) :
    Reads (f <*> withDefault name d a) origin entries (g a) where
  nodup := h.nodup
  plain := h.plain
  known := fun e he => List.mem_append_left _ (h.known e he)
  foreign := by
    intro key data hkey
    have hkey : key ∉ f.names ∧ key ≠ name := by
      simpa [Seq.seq, Fields.seq, withDefault, field] using hkey
    simp [Seq.seq, Fields.seq, withDefault, field, h.foreign key data hkey.1, hkey.2]
  checked := fun e he => by simp [Seq.seq, Fields.seq, h.checked e he]
  built := by
    intro get hget
    have hfront : f.ofTable origin get = .ok g :=
      h.built get fun key hkey => hget key (List.mem_append_left _ hkey)
    have hlast : get name = none := by
      rw [hget name (List.mem_append_right _ (by simp [withDefault, field]))]
      exact h.lookup_fresh hfresh
    simp [Seq.seq, Fields.seq, withDefault, field, hfront, hlast, bind, Except.bind]

/-- All entries are kept when they are visited. -/
theorem Reads.visit_eq {f : Fields α} {all : List (String × Data)} {a : α}
    (h : Reads f origin all a) (closed : Bool) (seen entries : List (String × Data))
    (hsplit : all = seen.reverse ++ entries) :
    visit f closed origin (entries.map fun (key, value) => (.ok key, value)) seen =
      .ok all.reverse := by
  -- The entries that were seen are generalized: no later key is among them.
  induction entries generalizing seen with
  | nil => simp [visit, hsplit]
  | cons e entries ih =>
      obtain ⟨key, value⟩ := e
      have hcheck : f.check origin key value = some (.ok ()) :=
        h.checked (key, value) (by simp [hsplit])
      have hfresh : seen.lookup key = none := by
        have hnodup := h.nodup
        rw [hsplit, List.map_append, List.nodup_append] at hnodup
        rw [List.lookup_eq_none_iff]
        intro e he
        simp only [bne_iff_ne]
        exact fun heq => hnodup.2.2 e.1 (by simpa using ⟨e.2, he⟩) key (by simp) heq.symm
      have hrest := ih ((key, value) :: seen) (by simp [hsplit])
      simp only [List.map_cons, visit, Decoder.faulty, Except.mapError, hcheck, hfresh,
        bind, Except.bind, Option.isSome_none, Bool.false_eq_true, if_false]
      exact hrest

/-- The decoder of a record gives the value that its entries stand for. -/
theorem Reads.decoder_object {f : Fields α} {entries : List (String × Data)} {a : α}
    (h : Reads f origin entries a) (name : String) (closed : Bool) :
    f.decoder name closed origin (.object entries) = .ok a := by
  have hvisit := h.visit_eq closed [] entries rfl
  have hbuilt := h.built (fun key => entries.reverse.lookup key)
    (fun key _ => Data.lookup_reverse h.nodup key)
  simp only [decoder, Data.object, hvisit, bind, Except.bind]
  exact hbuilt

/-- A record is read back if its fields are. -/
theorem undoes_of_reads {f : Fields α} {write : α → Data}
    (h : ∀ origin a, ∃ entries, Reads f origin entries a ∧ write a = .object entries)
    (name : String) (closed : Bool) : (f.decoder name closed).Undoes write where
  plain := by
    intro a
    obtain ⟨entries, hreads, hwrite⟩ := h .jsonText a
    rw [hwrite]
    exact .object hreads.plain
  read := by
    intro origin a
    obtain ⟨entries, hreads, hwrite⟩ := h origin a
    rw [hwrite]
    exact hreads.decoder_object name closed

end Fields

end TunnelKeeper
