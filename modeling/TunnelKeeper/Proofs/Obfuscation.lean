import TunnelKeeper.Interface

/-!
# Empty blocks

An empty block is accepted without a warning if it gives no special packet (`Obfuscation.Vacuous`).
A special packet that is given must not be blank, though a blank one counts as absent, so every
other empty block is refused (`validate_of_empty`). The empty blocks are those of whose normal form
nothing is left (`normalized_eq_empty_iff`). `LeftOut` relates a block to what stands in its place
when blocks of some kind are left out.
-/

namespace TunnelKeeper

open Text

namespace Obfuscation

variable {o : Obfuscation}

/-- A block is empty if its numbers are zero and nothing in it is present. -/
theorem is_empty_iff (o : Obfuscation) :
    o.isEmpty = true ↔
      (o.junkCount = 0 ∧ o.junkMin = 0 ∧ o.junkMax = 0 ∧ o.initJunk = 0 ∧ o.responseJunk = 0) ∧
      (o.cookieJunk? = none ∧ o.transportJunk? = none) ∧
      (∀ raw ∈ o.rawHeaders, presentText raw = none) ∧
      ∀ raw ∈ o.rawPackets, presentText raw = none := by
  simp only [isEmpty, headers, packets, List.all_map, Bool.and_eq_true, decide_eq_true_eq,
    List.all_eq_true, Function.comp_apply, Option.isNone_iff_eq_none, and_assoc]

/-- A text that is given and not present is blank. -/
theorem trim_of_present_eq_none {raw : String} (h : presentText (some raw) = none) :
    trim raw = "" := by
  simpa [presentText, Option.filter_some] using h

/-! ## Checks -/

/-- An empty block in which no special packet is given, not even a blank one. -/
structure Vacuous (o : Obfuscation) : Prop where
  empty : o.isEmpty = true
  packets : ∀ raw ∈ o.rawPackets, raw = none

variable {complaint? : String → Option Complaint} {texts : List (String × Option String)}

/-- There is no objection to some texts if there is none to any that is given. -/
theorem first_objection_eq_none_iff {field : String} :
    firstObjection field complaint? texts = none ↔
      ∀ name raw, (name, some raw) ∈ texts → complaint? raw = none := by
  constructor
  · intro h name raw ht
    have hnone := List.findSome?_eq_none_iff.mp h (name, some raw) ht
    exact Option.map_eq_none_iff.mp hnone
  · refine fun h => List.findSome?_eq_none_iff.mpr fun ⟨name, given⟩ ht => ?_
    cases given with
    | none => rfl
    | some raw => simp only [Option.bind_some, h name raw ht, Option.map_none]

/-- If there is the same complaint about all that is given, it is the objection to the first one. -/
theorem first_objection_eq_some (field : String) {c : Complaint}
    (hgiven : ∃ name raw, (name, some raw) ∈ texts)
    (h : ∀ name raw, (name, some raw) ∈ texts → complaint? raw = some c) :
    ∃ name raw, (name, some raw) ∈ texts ∧
      firstObjection field complaint? texts = some ⟨field ++ "." ++ name, c⟩ := by
  cases hfirst : firstObjection field complaint? texts with
  | none =>
      obtain ⟨name, raw, ht⟩ := hgiven
      have hnone := first_objection_eq_none_iff.mp hfirst name raw ht
      rw [h name raw ht] at hnone
      cases hnone
  | some objection =>
      obtain ⟨⟨name, given⟩, ht, hobjection⟩ := List.exists_of_findSome?_eq_some hfirst
      cases given with
      | none => cases hobjection
      | some raw =>
          simp only [Option.bind_some, h name raw ht, Option.map_some] at hobjection
          exact ⟨name, raw, ht, hobjection.symm⟩

/-- There is no objection to the sizes and headers of an empty block. -/
theorem objection_of_empty (h : o.isEmpty = true) (field : String) :
    o.objection? field =
      firstObjection field packetComplaint? (packetNames.zip o.rawPackets) := by
  obtain ⟨⟨hcount, -⟩, -, hheaders, -⟩ := (is_empty_iff o).mp h
  have hsizes : o.junkComplaint? = none := if_pos hcount
  have hnone : firstObjection field headerComplaint? (headerNames.zip o.rawHeaders) = none :=
    first_objection_eq_none_iff.mpr fun name raw ht =>
      if_pos (trim_of_present_eq_none (hheaders (some raw) (List.of_mem_zip ht).2))
  rw [objection?, hsizes, hnone, Option.map_none, Option.none_or, Option.none_or]

theorem accepted_of_vacuous (h : o.Vacuous) (field : String) :
    o.objection? field = none ∧ o.warnings field = [] := by
  obtain ⟨⟨-, hmin, hmax, -⟩, -⟩ := (is_empty_iff o).mp h.empty
  constructor
  · rw [objection_of_empty h.empty]
    refine first_objection_eq_none_iff.mpr fun name raw ht => ?_
    cases h.packets (some raw) (List.of_mem_zip ht).2
  · rw [warnings, hmin, hmax]
    exact if_neg (by simp)

/-- An empty block is accepted without a warning if no special packet is given in it. If one is,
the first one given is refused for being blank. -/
theorem validate_of_empty (h : o.isEmpty = true) (field : String) :
    (o.Vacuous → o.validate field = .ok []) ∧
      (¬ o.Vacuous → ∃ name ∈ packetNames,
        o.validate field = .error ⟨field ++ "." ++ name, .packetBlank⟩) := by
  obtain ⟨-, -, -, hpackets⟩ := (is_empty_iff o).mp h
  constructor
  · intro hvacuous
    obtain ⟨hobjection, hwarnings⟩ := accepted_of_vacuous hvacuous field
    rw [validate, hobjection, hwarnings]
  · intro hgiven
    have hsome : ∃ name raw, (name, some raw) ∈ packetNames.zip o.rawPackets := by
      have hnot : ¬ ∀ given ∈ o.rawPackets, given = none := fun hnone => hgiven ⟨h, hnone⟩
      simp only [Classical.not_forall] at hnot
      obtain ⟨given, hmem, hne⟩ := hnot
      obtain ⟨raw, rfl⟩ := Option.ne_none_iff_exists'.mp hne
      have hsnd : (packetNames.zip o.rawPackets).map Prod.snd = o.rawPackets := rfl
      rw [← hsnd] at hmem
      obtain ⟨⟨name, given⟩, ht, rfl⟩ := List.mem_map.mp hmem
      exact ⟨name, raw, ht⟩
    have hblank : ∀ name raw, (name, some raw) ∈ packetNames.zip o.rawPackets →
        packetComplaint? raw = some .packetBlank := fun name raw ht =>
      if_pos (trim_of_present_eq_none (hpackets (some raw) (List.of_mem_zip ht).2))
    obtain ⟨name, raw, ht, hobjection⟩ := first_objection_eq_some field hsome hblank
    refine ⟨name, (List.of_mem_zip ht).1, ?_⟩
    rw [validate, objection_of_empty h, hobjection]

/-! ## Normal forms -/

/-- The empty blocks are those of whose normal form nothing is left. -/
theorem normalized_eq_empty_iff (o : Obfuscation) : o.normalized = empty ↔ o.isEmpty = true := by
  rw [is_empty_iff]
  simp only [normalized, empty, mk.injEq, rawHeaders, rawPackets, List.forall_mem_cons,
    List.not_mem_nil, false_implies, implies_true, and_true, and_assoc]

/-- What is not present in a block is not there in its normal form either. -/
theorem is_empty_normalized (h : o.isEmpty = true) : o.normalized.isEmpty = true := by
  rw [(normalized_eq_empty_iff o).mpr h]
  rfl

/-- The blocks that say something are those that are not empty. -/
theorem present_block_eq_some_iff {block : Option Obfuscation} :
    Interface.presentBlock block = some o ↔ block = some o ∧ o.isEmpty = false := by
  simp [Interface.presentBlock, Option.filter_eq_some_iff]

/-- Nothing is left of an empty block. -/
theorem present_block_of_empty (h : o.isEmpty = true) :
    Interface.presentBlock (some o) = none ∧
      Interface.presentBlock (some o.normalized) = none := by
  simp only [Interface.presentBlock, Option.filter_some, h, is_empty_normalized h]
  exact ⟨rfl, rfl⟩

/-! ## Blocks that are left out -/

/-- The block that is there when blocks of a kind may be left out: the same block, or none in the
place of one of the kind. -/
inductive LeftOut (kind : Obfuscation → Prop) : Option Obfuscation → Option Obfuscation → Prop
  | stays (block : Option Obfuscation) : LeftOut kind block block
  | goes {o : Obfuscation} (h : kind o) : LeftOut kind (some o) none

namespace LeftOut

variable {block block' : Option Obfuscation} (h : LeftOut (fun o => o.isEmpty = true) block block')
include h

/-- Leaving out empty blocks does not change which blocks say something. -/
theorem present_block : Interface.presentBlock block' = Interface.presentBlock block := by
  cases h with
  | stays => rfl
  | goes hempty => exact (present_block_of_empty hempty).1.symm

theorem present_block_normalized :
    Interface.presentBlock (block'.map normalized) =
      Interface.presentBlock (block.map normalized) := by
  cases h with
  | stays => rfl
  | goes hempty => exact (present_block_of_empty hempty).2.symm

end LeftOut

/-- Leaving out fewer kinds of blocks is a case of leaving out more of them. -/
theorem LeftOut.mono {kind kind' : Obfuscation → Prop} (hkind : ∀ o, kind o → kind' o)
    {block block' : Option Obfuscation} (h : LeftOut kind block block') :
    LeftOut kind' block block' := by
  cases h with
  | stays => exact .stays block
  | goes hout => exact .goes (hkind _ hout)

end Obfuscation

end TunnelKeeper
