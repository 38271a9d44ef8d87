import Mathlib.Data.List.Forall2
import TunnelKeeper.Proofs.Data.Settle
import TunnelKeeper.Proofs.Outcome

/-!
# What a decoded record says of its document

A record is read from a table of its fields or from a list of their values, and both have at most
one value for each name (`Data.member?`). A record that was decoded was put together from these
values (`Fields.Regular.of_decoder`). This is known of all records that are built field by field.
-/

namespace TunnelKeeper

namespace Data

/-- What a value has under a name. A list has its items in the order of the names. -/
def member? (names : List String) (d : Data) (name : String) : Option Data :=
  match d with
  | .seq items _ => items[names.idxOf name]?
  | d => d.field? name

/-- What a part of a document has under a name. The part may be left out. -/
def within? (part : Option Data) (names : List String) (name : String) : Option Data :=
  part.bind fun content => content.member? names name

theorem field_table_cons (key : Except Fault String) (value : Data)
    (entries : List (Except Fault String × Data)) (ending : Option Fault) (name : String) :
    (Data.table ((key, value) :: entries) ending).field? name =
      if key.toOption = some name then some value
      else (Data.table entries ending).field? name := by
  simp only [field?, List.findSome?_cons]
  by_cases hkey : key.toOption = some name
  · simp only [if_pos hkey]
  · simp only [if_neg hkey]

end Data

namespace Decoder

variable {α : Type}

/-- A value is read from one way to write it only. -/
def Exact (d : Decoder α) (write : α → Data) : Prop :=
  ∀ origin data a, d origin data = .ok a ↔ data = write a

variable {d : Decoder α} {write : α → Data}

/-- A value that is given, or else left out and of its own, is written as it is given. -/
theorem Exact.eq_of_elim (h : d.Exact write) {origin : Origin} {given : Option Data} {usual a : α}
    (hread : given.elim (.ok usual) (d origin) = .ok a) : write a = given.getD (write usual) := by
  cases given with
  | none => exact congrArg write (Except.ok.inj hread).symm
  | some data => exact ((h origin data a).mp hread).symm

theorem text_exact : text.Exact .text := by
  intro origin data s
  cases data <;> simp [text, mismatch]

theorem bool_exact : bool.Exact .bool := by
  intro origin data b
  cases data <;> simp [bool, mismatch]

/-- A number is read from its numeral within the bits. -/
theorem natural_eq_ok_iff {bits n : Nat} {origin : Origin} {data : Data} :
    natural bits origin data = .ok n ↔ data = .nat n ∧ n < 2 ^ bits := by
  constructor
  · intro h
    unfold natural at h
    split at h
    · next m =>
        split at h
        · next hlt =>
            obtain rfl := Except.ok.inj h
            exact ⟨rfl, hlt⟩
        · cases h
    · cases h
    · unfold mismatch at h
      split at h <;> cases h
  · rintro ⟨rfl, hlt⟩
    exact natural_nat origin hlt

/-- A number is read as a word that stands for the numbers within the bits. -/
theorem exact_of_natural {bits : Nat} {read : Nat → α} {value : α → Nat}
    (hread : ∀ n, n < 2 ^ bits → value (read n) = n) (hvalue : ∀ a, read (value a) = a)
    (hlt : ∀ a, value a < 2 ^ bits) :
    (map read (natural bits)).Exact fun a => .nat (value a) := by
  intro origin data a
  rw [map, except_map_eq_ok_iff]
  constructor
  · rintro ⟨n, hn, rfl⟩
    obtain ⟨rfl, hbits⟩ := natural_eq_ok_iff.mp hn
    exact congrArg Data.nat (hread n hbits).symm
  · rintro rfl
    exact ⟨value a, natural_nat origin (hlt a), hvalue a⟩

/-- Items are read one by one. -/
theorem items_eq_ok_iff {origin : Origin} {values : List Data} {l : List α} :
    items d origin values = .ok l ↔ List.Forall₂ (fun value a => d origin value = .ok a) values l := by
  induction values generalizing l with
  | nil =>
      rw [items, List.forall₂_nil_left_iff, Except.ok.injEq, eq_comm]
  | cons value values ih =>
      rw [items, except_bind_eq_ok_iff, List.forall₂_cons_left_iff]
      simp only [except_bind_eq_ok_iff, ih, Except.ok.injEq]
      constructor
      · rintro ⟨a, ha, rest, hrest, rfl⟩
        exact ⟨a, rest, ha, hrest, rfl⟩
      · rintro ⟨a, rest, ha, hrest, rfl⟩
        exact ⟨a, ha, rest, hrest, rfl⟩

/-- A list is read from a list, item by item. -/
theorem list_eq_ok_iff {origin : Origin} {data : Data} {l : List α} :
    list d origin data = .ok l ↔ ∃ values, data = .list values ∧
      List.Forall₂ (fun value a => d origin value = .ok a) values l := by
  constructor
  · intro h
    unfold list at h
    split at h
    · next values ending =>
        obtain ⟨l', hl, h⟩ := except_bind_eq_ok_iff.mp h
        cases ending with
        | some fault => cases h
        | none =>
            obtain rfl := Except.ok.inj h
            exact ⟨values, rfl, items_eq_ok_iff.mp hl⟩
    · unfold mismatch at h
      split at h <;> cases h
  · rintro ⟨values, rfl, h⟩
    exact except_bind_eq_ok_iff.mpr ⟨l, items_eq_ok_iff.mpr h, rfl⟩

end Decoder

namespace Fields

variable {α β : Type} {origin : Origin}

/-! ## Records field by field -/

/-- A record is put together from a function and its argument. -/
theorem of_table_seq {f : Fields (α → β)} {x : Fields α} {get : String → Option Data} {b : β} :
    (f <*> x).ofTable origin get = .ok b ↔
      ∃ g, f.ofTable origin get = .ok g ∧ ∃ a, x.ofTable origin get = .ok a ∧ g a = b := by
  show (f.ofTable origin get >>= fun g => x.ofTable origin get >>= fun a => .ok (g a)) = _ ↔ _
  simp only [except_bind_eq_ok_iff, Except.ok.injEq]

theorem of_table_map {x : Fields α} {g : α → β} {get : String → Option Data} {b : β} :
    (g <$> x).ofTable origin get = .ok b ↔ ∃ a, x.ofTable origin get = .ok a ∧ g a = b := by
  show (Fields.pure g <*> x).ofTable origin get = _ ↔ _
  rw [of_table_seq]
  exact ⟨fun ⟨_, hg, h⟩ => Except.ok.inj hg ▸ h, fun h => ⟨g, rfl, h⟩⟩

/-- A field that is left out has a value of its own. -/
theorem of_table_with_default (name : String) (d : Decoder α) (usual : α)
    (get : String → Option Data) :
    (withDefault name d usual).ofTable origin get = (get name).elim (.ok usual) (d origin) := by
  simp only [withDefault, field]
  cases get name <;> rfl

/-! ## Records as a whole -/

/-- A record is put together from the values under its names only, and a list gives these values in
the order of the names. -/
structure Regular (f : Fields α) : Prop where
  known : ∀ origin key data, (f.check origin key data).isSome ↔ key ∈ f.names
  built : ∀ {origin get get'}, (∀ name ∈ f.names, get name = get' name) →
    f.ofTable origin get = f.ofTable origin get'
  ordered : ∀ {origin expected taken values ending a left},
    f.ofSeq origin expected taken values ending = .ok (a, left) →
      f.ofTable origin (fun name => values[f.names.idxOf name]?) = .ok a ∧
        left = values.drop f.names.length

theorem Regular.pure (a : α) : (Fields.pure a).Regular where
  known := by simp [Fields.pure]
  built := fun _ => rfl
  ordered := by
    intro origin expected taken values ending b left h
    obtain ⟨rfl, rfl⟩ := Prod.mk.inj (Except.ok.inj h)
    exact ⟨rfl, rfl⟩

/-- One field with a value of its own when it is left out. -/
theorem Regular.withDefault (name : String) (d : Decoder α) (usual : α) :
    (withDefault name d usual).Regular where
  known := by
    intro origin key data
    simp [Fields.withDefault, field]
  built := by
    intro origin get get' h
    simp only [Fields.withDefault, field]
    rw [h name (List.mem_singleton_self name)]
  ordered := by
    intro origin expected taken values ending b left h
    have hplace : (Fields.withDefault name d usual).names.idxOf name = 0 := List.idxOf_cons_self
    rw [of_table_with_default, hplace]
    cases values with
    | nil =>
        cases ending with
        | some fault => cases h
        | none =>
            obtain ⟨rfl, rfl⟩ := Prod.mk.inj (Except.ok.inj h)
            exact ⟨rfl, rfl⟩
    | cons value rest =>
        obtain ⟨c, hc, heq⟩ := except_map_eq_ok_iff.mp h
        obtain ⟨rfl, rfl⟩ := Prod.mk.inj heq
        exact ⟨hc, rfl⟩

/-- The fields of a function and those of its argument, if no name occurs in both. -/
theorem Regular.seq {f : Fields (α → β)} {x : Fields α} (hf : f.Regular) (hx : x.Regular)
    (hnames : ∀ name ∈ x.names, name ∉ f.names) : (f <*> x).Regular where
  known := by
    intro origin key data
    show ((f.check origin key data).or (x.check origin key data)).isSome ↔ _
    rw [Option.isSome_or, Bool.or_eq_true, hf.known, hx.known]
    exact List.mem_append.symm
  built := by
    intro origin get get' h
    show (f.ofTable origin get >>= fun g => x.ofTable origin get >>= fun a => .ok (g a)) =
      (f.ofTable origin get' >>= fun g => x.ofTable origin get' >>= fun a => .ok (g a))
    rw [hf.built fun name hname => h name (List.mem_append_left _ hname),
      hx.built fun name hname => h name (List.mem_append_right _ hname)]
  ordered := by
    intro origin expected taken values ending b left h
    obtain ⟨⟨g, behind⟩, hg, h⟩ := except_bind_eq_ok_iff.mp h
    obtain ⟨⟨a, rest⟩, ha, h⟩ := except_bind_eq_ok_iff.mp h
    obtain ⟨rfl, rfl⟩ := Prod.mk.inj (Except.ok.inj h)
    obtain ⟨hfront, rfl⟩ := hf.ordered hg
    obtain ⟨hback, rfl⟩ := hx.ordered ha
    -- A name of the function stands where it stood, and one of the argument behind all of those.
    have hf' : f.ofTable origin (fun name => values[(f.names ++ x.names).idxOf name]?) = .ok g := by
      rw [← hfront]
      refine hf.built fun name hname => ?_
      rw [List.idxOf_append_of_mem hname]
    have hx' : x.ofTable origin (fun name => values[(f.names ++ x.names).idxOf name]?) = .ok a := by
      rw [← hback]
      refine hx.built fun name hname => ?_
      rw [List.idxOf_append_of_notMem (hnames name hname), List.getElem?_drop]
    refine ⟨?_, ?_⟩
    · exact except_bind_eq_ok_iff.mpr ⟨g, hf', except_bind_eq_ok_iff.mpr ⟨a, hx', rfl⟩⟩
    · rw [List.drop_drop]
      exact congrArg (values.drop ·) (List.length_append ..).symm

/-- The fields of an argument. -/
theorem Regular.map {x : Fields α} (hx : x.Regular) (g : α → β) : (g <$> x).Regular :=
  (Regular.pure g).seq hx fun _ _ => List.not_mem_nil

/-- One more field, with a name of its own. -/
theorem Regular.snoc {f : Fields (α → β)} (hf : f.Regular) {name : String} {d : Decoder α}
    {usual : α} (hname : name ∉ f.names) : (f <*> Fields.withDefault name d usual).Regular :=
  hf.seq (.withDefault name d usual) (List.forall_mem_singleton.mpr hname)

/-- The entries that are kept give every name the first value that the table has under it. -/
theorem Regular.visit_lookup {f : Fields α} (hf : f.Regular) {closed : Bool}
    {entries : List (Except Fault String × Data)} {seen kept : List (String × Data)}
    (h : visit f closed origin entries seen = .ok kept) (ending : Option Fault) {name : String}
    (hname : name ∈ f.names) :
    kept.lookup name = (seen.lookup name).or ((Data.table entries ending).field? name) := by
  induction entries generalizing seen with
  | nil =>
      obtain rfl := Except.ok.inj h
      simp [Data.field?]
  | cons e entries ih =>
      obtain ⟨k, value⟩ := e
      obtain ⟨key, hkey, hrest⟩ := except_bind_eq_ok_iff.mp h
      obtain rfl := except_map_error_eq_ok_iff.mp hkey
      have hknown := hf.known origin key value
      rw [Data.field_table_cons]
      split at hrest
      · next hcheck =>
          -- The entry is passed over, so it is not the one that is looked for.
          have hne : key ≠ name := by
            rintro rfl
            rw [hcheck] at hknown
            exact Bool.false_ne_true (hknown.mpr hname)
          split at hrest
          · cases hrest
          · obtain ⟨-, -, hrest⟩ := except_bind_eq_ok_iff.mp hrest
            rw [ih hrest]
            simp [Except.toOption, hne]
      · next result hcheck =>
          split at hrest
          · cases hrest
          · next hnew =>
              obtain ⟨-, -, hrest⟩ := except_bind_eq_ok_iff.mp hrest
              rw [ih hrest, List.lookup_cons]
              by_cases hname : key = name
              · subst hname
                have hnone : seen.lookup key = none := Option.not_isSome_iff_eq_none.mp hnew
                simp [hnone, Except.toOption]
              · simp [Except.toOption, hname, beq_eq_false_iff_ne.mpr (Ne.symm hname)]

/-- A record that was decoded is put together from what the document has under its names. -/
theorem Regular.of_decoder {f : Fields α} (hf : f.Regular) {name : String} {closed : Bool}
    {data : Data} {a : α} (h : f.decoder name closed origin data = .ok a) :
    f.ofTable origin (data.member? f.names) = .ok a := by
  cases data with
  | table entries ending =>
      obtain ⟨kept, hvisit, h⟩ := except_bind_eq_ok_iff.mp h
      cases ending with
      | some fault => cases h
      | none =>
          rw [← h]
          refine hf.built fun key hkey => ?_
          rw [hf.visit_lookup hvisit none hkey]
          rfl
  | seq values ending =>
      obtain ⟨⟨b, left⟩, hseq, h⟩ := except_bind_eq_ok_iff.mp h
      obtain ⟨-, -, h⟩ := except_bind_eq_ok_iff.mp h
      obtain rfl := Except.ok.inj h
      exact (hf.ordered hseq).1
  | null | bool | int | float | text | damaged => cases h

/-- A record that may be left out as a whole is put together from what is there of it, if nothing
of it gives the record that stands for it then. -/
theorem Regular.of_part {f : Fields α} (hf : f.Regular) {usual : α}
    (husual : f.ofTable origin (fun _ => none) = .ok usual) {name : String} {closed : Bool}
    {part : Option Data} {a : α}
    (h : part.elim (.ok usual) (f.decoder name closed origin) = .ok a) :
    f.ofTable origin (Data.within? part f.names) = .ok a := by
  cases part with
  | none => exact husual.trans h
  | some content => exact hf.of_decoder h

end Fields

end TunnelKeeper
