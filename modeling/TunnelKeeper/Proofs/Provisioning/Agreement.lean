import Mathlib.Data.List.Forall2
import TunnelKeeper.Proofs.Provisioning.Check

/-!
# The check and the building of entries agree

A list of entries is accepted exactly if every part of an interface that is read from its entry can
be built for all of them, beside what concerns identifiers and blocks (`check_agrees_with_build`).
A list is checked entry by entry from the front, so what comes behind some entries changes nothing
about the answer for these (`check_from_append`).
-/

namespace TunnelKeeper

namespace Entry

/-- Two lists are checked one after the other. The second one is looked at only if the first one is
accepted, with the places and the identifiers of the first one before it. -/
theorem check_from_append (place : Nat) (seen : List String) (entries later : List Entry) :
    checkFrom place seen (entries ++ later) =
      match checkFrom place seen entries with
      | .error objection => .error objection
      | .ok warnings =>
        (checkFrom (place + entries.length) ((entries.map id).reverse ++ seen) later).map
          (warnings ++ ·) := by
  induction entries generalizing place seen with
  | nil =>
      show checkFrom place seen later = (checkFrom place seen later).map ([] ++ ·)
      cases checkFrom place seen later <;> rfl
  | cons e rest ih =>
      have hplace : place + (e :: rest).length = place + 1 + rest.length := by
        rw [List.length_cons]
        omega
      have hseen : ((e :: rest).map id).reverse ++ seen =
          (rest.map id).reverse ++ e.id :: seen := by
        simp
      rw [List.cons_append, checkFrom, checkFrom, ih, hplace, hseen]
      cases e.objection? place seen with
      | some objection => rfl
      | none =>
          cases checkFrom (place + 1) (e.id :: seen) rest with
          | error objection => rfl
          | ok warnings =>
              simp only
              cases checkFrom (place + 1 + rest.length) ((rest.map id).reverse ++ e.id :: seen)
                later with
              | error objection => rfl
              | ok others => exact congrArg Except.ok (List.append_assoc _ _ _).symm

/-- The check accepts exactly the lists whose identifiers are present and different from each
other, whose blocks pass their own check and whose entries can be read wherever the building of an
interface reads them. A list that begins with a refused one is refused for the same reason, and
what looks like a mistake in an accepted list is what does in its entries, each on its own. -/
theorem check_agrees_with_build (entries : List Entry) :
    ((∃ warnings, check entries = .ok warnings) ↔
      (∀ e ∈ entries, e.id ≠ "") ∧ (entries.map id).Nodup ∧
        (∀ e ∈ entries, ∀ o, e.obfuscation = some o →
          ∃ warnings, o.validate (e.field ++ ".advanced_security") = .ok warnings) ∧
        ∀ e ∈ entries, Readable e) ∧
    (∀ objection, check entries = .error objection →
      ∀ later, check (entries ++ later) = .error objection) ∧
    ∀ warnings, check entries = .ok warnings →
      ∃ each, List.Forall₂ (fun e own => check [e] = .ok own) entries each ∧
        warnings = each.flatten := by
  refine ⟨?_, fun objection hrefused later => ?_, fun warnings haccepted => ?_⟩
  · constructor
    · rintro ⟨warnings, haccepted⟩
      obtain ⟨hall, hnodup, -⟩ := check_from_eq_ok_iff.mp haccepted
      exact ⟨fun e he => (hall e he).2.identifier, hnodup,
        fun e he o ho => Obfuscation.accepted_iff_validate.mp ((hall e he).2.obfuscation o ho),
        fun e he => (hall e he).2.readable⟩
    · rintro ⟨hpresent, hnodup, hblocks, hreadable⟩
      refine ⟨_, check_from_eq_ok_iff.mpr ⟨fun e he => ⟨List.not_mem_nil, ?_⟩, hnodup, rfl⟩⟩
      exact ⟨hpresent e he, hreadable e he,
        fun o ho => Obfuscation.accepted_iff_validate.mpr (hblocks e he o ho)⟩
  · unfold check at hrefused ⊢
    rw [check_from_append, hrefused]
  · obtain ⟨hall, -, rfl⟩ := check_from_eq_ok_iff.mp haccepted
    refine ⟨entries.map Entry.warnings, ?_, List.flatMap_def⟩
    rw [List.forall₂_map_right_iff, List.forall₂_same]
    intro e he
    have halone : ∀ e' ∈ [e], e'.id ∉ [] ∧ Acceptable e' :=
      List.forall_mem_singleton.mpr (hall e he)
    exact check_from_eq_ok_iff.mpr ⟨halone, by simp, (List.flatMap_singleton _ _).symm⟩

end Entry

end TunnelKeeper
