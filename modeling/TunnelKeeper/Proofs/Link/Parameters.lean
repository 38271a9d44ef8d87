import TunnelKeeper.Link
import TunnelKeeper.Proofs.Data.Settle
import TunnelKeeper.Proofs.Text.Blank

/-!
# Parameters in a link

The obfuscation parameters of a link are the given ones among sixteen named texts
(`parameters_eq`). A table that shows a block (`Shows`) has exactly these fields under the sixteen
names: the two optional sizes where they are not zero, and the special packets where they are not
blank.
-/

namespace TunnelKeeper

open Text Number

namespace Link

/-- The parameters by name, where they are given. -/
def parameterTexts (o : Obfuscation) : List (String × Option String) :=
  let header (raw : Option String) : Option String :=
    some ((Obfuscation.presentText raw).getD "")
  let number (n : UInt16) : String := decimal n.toNat
  [("H1", header o.initHeader), ("H2", header o.responseHeader),
    ("H3", header o.underloadHeader), ("H4", header o.transportHeader),
    ("Jc", some (number o.junkCount)), ("Jmax", some (number o.junkMax)),
    ("Jmin", some (number o.junkMin)), ("S1", some (number o.initJunk)),
    ("S2", some (number o.responseJunk)), ("S3", o.cookieJunk?.map number),
    ("S4", o.transportJunk?.map number), ("I1", Obfuscation.presentText o.firstPacket),
    ("I2", Obfuscation.presentText o.secondPacket), ("I3", Obfuscation.presentText o.thirdPacket),
    ("I4", Obfuscation.presentText o.fourthPacket), ("I5", Obfuscation.presentText o.fifthPacket)]

/-- The names of the parameters. -/
def parameterNames : List String :=
  ["H1", "H2", "H3", "H4", "Jc", "Jmax", "Jmin", "S1", "S2", "S3", "S4", "I1", "I2", "I3", "I4",
    "I5"]

theorem parameter_texts_names (o : Obfuscation) :
    (parameterTexts o).map Prod.fst = parameterNames := rfl

/-- The entries of the given ones of some texts. -/
def givenTexts (l : List (String × Option String)) : List (String × Data) :=
  l.flatMap fun e => presentEntry e.1 e.2

theorem parameters_eq (o : Obfuscation) : parameters o = givenTexts (parameterTexts o) := by
  simp [parameters, givenTexts, parameterTexts, presentEntry, Obfuscation.givenEntry]

/-- Every entry is a text. -/
theorem given_texts_text (l : List (String × Option String)) :
    ∀ e ∈ givenTexts l, ∃ s, e.2 = .text s := by
  intro e he
  obtain ⟨⟨name, value⟩, -, hmem⟩ := List.mem_flatMap.mp he
  cases value with
  | none => exact absurd hmem List.not_mem_nil
  | some s =>
      obtain rfl := List.mem_singleton.mp hmem
      exact ⟨s, rfl⟩

/-- The entries keep the order of the names. -/
theorem given_texts_sublist (l : List (String × Option String)) :
    ((givenTexts l).map Prod.fst).Sublist (l.map Prod.fst) := by
  induction l with
  | nil => exact List.Sublist.slnil
  | cons e l ih =>
      obtain ⟨name, value⟩ := e
      cases value with
      | none => exact ih.cons name
      | some s => exact ih.cons_cons name

/-- An entry is found where its text is given. -/
theorem lookup_given_texts {l : List (String × Option String)} (hnames : (l.map Prod.fst).Nodup)
    (name : String) :
    (givenTexts l).lookup name = (l.lookup name).bind fun value => value.map Data.text := by
  induction l with
  | nil => rfl
  | cons e l ih =>
      obtain ⟨key, value⟩ := e
      obtain ⟨hfresh, hrest⟩ := List.nodup_cons.mp hnames
      rw [List.lookup_cons]
      -- The entry may be left out, and then no later one has its name either.
      by_cases hkey : name = key
      · subst hkey
        have hnone : (givenTexts l).lookup name = none :=
          Data.lookup_eq_none fun hmem => hfresh ((given_texts_sublist l).subset hmem)
        rw [beq_self_eq_true]
        cases value with
        | none => exact hnone
        | some s =>
            show List.lookup name ((name, Data.text s) :: givenTexts l) = _
            simp
      · rw [beq_eq_false_iff_ne.mpr hkey]
        cases value with
        | none => exact ih hrest
        | some s =>
            show List.lookup name ((key, Data.text s) :: givenTexts l) = _
            rw [List.lookup_cons, beq_eq_false_iff_ne.mpr hkey]
            exact ih hrest

/-- A parameter is found under its name where it is given. -/
theorem lookup_parameters (o : Obfuscation) (name : String) :
    (parameters o).lookup name =
      ((parameterTexts o).lookup name).bind fun value => value.map Data.text := by
  rw [parameters_eq]
  exact lookup_given_texts (by rw [parameter_texts_names]; decide) name

/-- Nothing is found under other names. -/
theorem lookup_parameters_eq_none (o : Obfuscation) {name : String} (h : name ∉ parameterNames) :
    (parameters o).lookup name = none := by
  rw [parameters_eq]
  exact Data.lookup_eq_none fun hmem => h ((given_texts_sublist _).subset hmem)

/-- A size is present where it is not zero. -/
theorem present_size_is_some (size : Option UInt16) :
    (Obfuscation.presentSize size).isSome ↔ ∃ n, size = some n ∧ n ≠ 0 := by
  cases size with
  | none => simp [Obfuscation.presentSize]
  | some n => simp [Obfuscation.presentSize, Option.isSome_filter]

/-- A text is present where it is not blank. -/
theorem present_text_is_some (raw : Option String) :
    (Obfuscation.presentText raw).isSome ↔ ∃ s, raw = some s ∧ isBlankText s = false := by
  cases raw with
  | none => simp [Obfuscation.presentText]
  | some s =>
      have hblank := trim_eq_empty s
      simp [Obfuscation.presentText, Option.isSome_filter, hblank]

/-- A table with the parameters of a block: all of them are as in the block, the optional sizes
are there exactly where they are not zero, and the special packets where they are not blank. -/
structure Shows (o : Obfuscation) (table : Data) : Prop where
  values : ∀ name ∈ parameterNames, table.field? name = (parameters o).lookup name
  sizes : ∀ e ∈ [("S3", o.cookieJunk), ("S4", o.transportJunk)],
    (table.field? e.1).isSome ↔ ∃ n, e.2 = some n ∧ n ≠ 0
  packets : ∀ e ∈ [("I1", o.firstPacket), ("I2", o.secondPacket), ("I3", o.thirdPacket),
      ("I4", o.fourthPacket), ("I5", o.fifthPacket)],
    (table.field? e.1).isSome ↔ ∃ s, e.2 = some s ∧ isBlankText s = false

section Shown

variable {o : Obfuscation} {table : Data}

/-- A parameter is there where it is given. -/
theorem shown_iff (h : ∀ name ∈ parameterNames, table.field? name = (parameters o).lookup name)
    {name : String} {value : Option String} (hmem : (name, value) ∈ parameterTexts o) :
    (table.field? name).isSome ↔ value.isSome := by
  have hname : name ∈ (parameterTexts o).map Prod.fst := List.mem_map.mpr ⟨_, hmem, rfl⟩
  have hnodup : ((parameterTexts o).map Prod.fst).Nodup := by
    rw [parameter_texts_names]
    decide
  rw [h name hname, lookup_parameters, Data.lookup_of_mem hnodup hmem]
  simp

/-- A table shows a block if its fields under the sixteen names are the parameters. -/
theorem shows_of_values
    (h : ∀ name ∈ parameterNames, table.field? name = (parameters o).lookup name) :
    Shows o table where
  values := h
  sizes := by
    intro e he
    simp only [List.mem_cons, List.not_mem_nil, or_false] at he
    rcases he with rfl | rfl
    · have hmem : ("S3", o.cookieJunk?.map fun n => decimal n.toNat) ∈ parameterTexts o := by
        simp [parameterTexts]
      rw [shown_iff h hmem, Option.isSome_map]
      exact present_size_is_some _
    · have hmem : ("S4", o.transportJunk?.map fun n => decimal n.toNat) ∈ parameterTexts o := by
        simp [parameterTexts]
      rw [shown_iff h hmem, Option.isSome_map]
      exact present_size_is_some _
  packets := by
    intro e he
    have hmem : (e.1, Obfuscation.presentText e.2) ∈ parameterTexts o := by
      simp only [List.mem_cons, List.not_mem_nil, or_false] at he
      rcases he with rfl | rfl | rfl | rfl | rfl <;> simp [parameterTexts]
    rw [shown_iff h hmem]
    exact present_text_is_some _

end Shown

end Link

end TunnelKeeper
