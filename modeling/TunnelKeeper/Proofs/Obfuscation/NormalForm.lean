import Mathlib.Data.List.Basic
import TunnelKeeper.Proofs.Obfuscation
import TunnelKeeper.Proofs.Text.Lines

/-!
# Normal forms of blocks

Bringing a block into its normal form twice is doing it once (`normalized_idem`). A check says the
same about a block and about its normal form unless a special packet is given and blank
(`validate_normalized`), so a block that is accepted stays so (`Accepted.normalized`). Whether a
block is accepted does not depend on how messages refer to it (`objection_eq_none_iff`).
`Interface.settled_eq_self_iff` says which interfaces are stored as they are.
-/

namespace TunnelKeeper

open Text

namespace Obfuscation

variable {o : Obfuscation} {raw : String} {v : Option String}

/-! ## Parameters -/

theorem present_size_idem (v : Option UInt16) : presentSize (presentSize v) = presentSize v := by
  simp only [presentSize, Option.filter_filter, Bool.and_self]

/-- What is present is a trimmed text that is not empty. -/
theorem present_text_eq_some_iff :
    presentText v = some raw ↔ raw ≠ "" ∧ ∃ given, v = some given ∧ trim given = raw := by
  unfold presentText
  rw [Option.filter_eq_some_iff, Option.map_eq_some_iff, decide_eq_true_eq, and_comm]

theorem present_text_idem (v : Option String) : presentText (presentText v) = presentText v := by
  cases hpresent : presentText v with
  | none => rfl
  | some raw =>
      obtain ⟨hne, given, -, rfl⟩ := present_text_eq_some_iff.mp hpresent
      exact present_text_eq_some_iff.mpr ⟨hne, trim given, rfl, trim_idem given⟩

/-- A block in normal form is its own normal form. -/
theorem normalized_idem (o : Obfuscation) : o.normalized.normalized = o.normalized := by
  simp only [normalized, cookieJunk?, transportJunk?, present_size_idem, present_text_idem]

/-- The normal form of a block is empty if the block is. -/
theorem is_empty_normal_form (o : Obfuscation) : o.normalized.isEmpty = o.isEmpty := by
  rw [Bool.eq_iff_iff, ← normalized_eq_empty_iff, ← normalized_eq_empty_iff, normalized_idem]

/-! ## Checks -/

/-- There is no complaint about a block, however it is called. -/
structure Accepted (o : Obfuscation) : Prop where
  sizes : o.junkComplaint? = none
  headers : ∀ raw, some raw ∈ o.rawHeaders → headerComplaint? raw = none
  packets : ∀ raw, some raw ∈ o.rawPackets → packetComplaint? raw = none

/-- There is no objection to named texts if there is no complaint about any of the texts. -/
theorem first_objection_zip_eq_none_iff {field : String} {complaint? : String → Option Complaint}
    {names : List String} {texts : List (Option String)} (hlength : texts.length ≤ names.length) :
    firstObjection field complaint? (names.zip texts) = none ↔
      ∀ raw, some raw ∈ texts → complaint? raw = none := by
  rw [first_objection_eq_none_iff]
  constructor
  · intro h raw hraw
    rw [← List.map_snd_zip hlength] at hraw
    obtain ⟨⟨name, given⟩, ht, rfl⟩ := List.mem_map.mp hraw
    exact h name raw ht
  · exact fun h name raw ht => h raw (List.of_mem_zip ht).2

/-- A check has no objection to the accepted blocks and to no others. -/
theorem objection_eq_none_iff {field : String} : o.objection? field = none ↔ o.Accepted := by
  unfold objection?
  rw [Option.or_eq_none_iff, Option.or_eq_none_iff, Option.map_eq_none_iff,
    first_objection_zip_eq_none_iff (Nat.le_refl _),
    first_objection_zip_eq_none_iff (Nat.le_refl _)]
  exact ⟨fun ⟨hsizes, hheaders, hpackets⟩ => ⟨hsizes, hheaders, hpackets⟩,
    fun h => ⟨h.sizes, h.headers, h.packets⟩⟩

theorem Accepted.validate_eq (h : o.Accepted) (field : String) :
    o.validate field = .ok (o.warnings field) := by
  unfold validate
  rw [objection_eq_none_iff.mpr h]

/-- A block is accepted exactly if its check does not refuse it. -/
theorem accepted_iff_validate {field : String} :
    o.Accepted ↔ ∃ warnings, o.validate field = .ok warnings := by
  rw [← @objection_eq_none_iff o field, validate]
  cases o.objection? field with
  | none => simp
  | some objection => simp

/-- Complaints are about trimmed texts. -/
theorem complaints_trim (raw : String) :
    headerComplaint? (trim raw) = headerComplaint? raw ∧
      packetComplaint? (trim raw) = packetComplaint? raw := by
  unfold headerComplaint? packetComplaint?
  rw [trim_idem]
  exact ⟨rfl, rfl⟩

/-- A complaint about a text is one about what is present of it, if there is none about the text
for being blank. -/
theorem complaint_of_present {complaint? : String → Option Complaint}
    (htrim : ∀ raw, complaint? (trim raw) = complaint? raw)
    (hblank : ∀ raw, v = some raw → trim raw = "" → complaint? raw = none) :
    (presentText v).bind complaint? = v.bind complaint? := by
  cases v with
  | none => rfl
  | some raw =>
      rw [presentText, Option.map_some, Option.filter_some, Option.bind_some]
      split
      · exact htrim raw
      · next hempty =>
          rw [hblank raw rfl (by simpa using hempty)]
          rfl

/-- Texts can be replaced by what is present of them if no complaint is lost. -/
theorem first_objection_present {field : String} {complaint? : String → Option Complaint}
    {names : List String} {texts : List (Option String)}
    (h : ∀ v ∈ texts, (presentText v).bind complaint? = v.bind complaint?) :
    firstObjection field complaint? (names.zip (texts.map presentText)) =
      firstObjection field complaint? (names.zip texts) := by
  unfold firstObjection
  rw [List.zip_map_right, List.findSome?_map, ← List.head?_filterMap, ← List.head?_filterMap]
  refine congrArg List.head? (List.filterMap_congr fun ⟨name, given⟩ ht => ?_)
  simp only [Function.comp_apply, Prod.map, id, h given (List.of_mem_zip ht).2]

/-- No special packet that is given is blank. -/
def PacketsShown (o : Obfuscation) : Prop :=
  ∀ raw, some raw ∈ o.rawPackets → isBlankText raw = false

theorem Accepted.packets_shown (h : o.Accepted) : o.PacketsShown := by
  intro raw hraw
  by_contra hblank
  have hempty : trim raw = "" := (trim_eq_empty raw).mpr (by simpa using hblank)
  have hnone := h.packets raw hraw
  rw [packetComplaint?, if_pos hempty] at hnone
  cases hnone

/-- A blank header is as good as none, but a blank special packet is refused, and none is not. So
the first objection to a block is the one to its normal form unless a special packet is blank. -/
theorem objection_normalized (h : o.PacketsShown) (field : String) :
    o.normalized.objection? field = o.objection? field := by
  have hheaders : ∀ v ∈ o.rawHeaders,
      (presentText v).bind headerComplaint? = v.bind headerComplaint? :=
    fun v _ => complaint_of_present (fun raw => (complaints_trim raw).1)
      fun raw _ hempty => if_pos hempty
  have hpackets : ∀ v ∈ o.rawPackets,
      (presentText v).bind packetComplaint? = v.bind packetComplaint? := by
    refine fun v hv => complaint_of_present (fun raw => (complaints_trim raw).2) ?_
    rintro raw rfl hempty
    rw [trim_eq_empty, h raw hv] at hempty
    cases hempty
  unfold objection?
  rw [← first_objection_present hheaders, ← first_objection_present hpackets]
  rfl

/-- A check says the same about a block and about its normal form, errors and warnings alike, unless
a special packet is blank. -/
theorem validate_normalized (h : o.PacketsShown) (field : String) :
    o.normalized.validate field = o.validate field := by
  unfold validate
  rw [objection_normalized h]
  rfl

/-- The normal form of an accepted block is accepted. -/
theorem Accepted.normalized (h : o.Accepted) : o.normalized.Accepted := by
  have hobjection := objection_normalized h.packets_shown ""
  rw [objection_eq_none_iff.mpr h] at hobjection
  exact objection_eq_none_iff.mp hobjection

end Obfuscation

/-! ## Interfaces -/

namespace Interface

/-- An interface stays as it is when it is stored and read if its block, where it has one, says
something and is in normal form. -/
theorem settled_eq_self_iff {i : Interface} :
    i.settled = i ↔ ∀ o, i.obfuscation = some o → o.isEmpty = false ∧ o.normalized = o := by
  constructor
  · intro h o ho
    have hblock : presentBlock (i.obfuscation.map Obfuscation.normalized) = some o :=
      (congrArg obfuscation h).trans ho
    rw [ho, Option.map_some] at hblock
    obtain ⟨hnormal, hpresent⟩ := Obfuscation.present_block_eq_some_iff.mp hblock
    exact ⟨hpresent, Option.some.inj hnormal⟩
  · intro h
    have hblock : presentBlock (i.obfuscation.map Obfuscation.normalized) = i.obfuscation := by
      cases hsome : i.obfuscation with
      | none => rfl
      | some o =>
          obtain ⟨hpresent, hnormal⟩ := h o hsome
          rw [Option.map_some, hnormal]
          exact Obfuscation.present_block_eq_some_iff.mpr ⟨rfl, hpresent⟩
    unfold settled withObfuscation
    rw [hblock]

/-- An interface that was read stays as it is. -/
theorem settled_idem (i : Interface) : i.settled.settled = i.settled := by
  refine settled_eq_self_iff.mpr fun o ho => ?_
  obtain ⟨hnormal, hpresent⟩ := Obfuscation.present_block_eq_some_iff.mp ho
  obtain ⟨given, -, rfl⟩ := Option.map_eq_some_iff.mp hnormal
  exact ⟨hpresent, given.normalized_idem⟩

/-- An interface needs special clients if it has a block that says something. -/
theorem client_kind_eq_iff {i : Interface} :
    i.clientKind = .obfuscationCapable ↔ i.isObfuscated = true := by
  unfold clientKind
  split
  · next h => simp [h]
  · next h => simp [h]

end Interface

end TunnelKeeper
