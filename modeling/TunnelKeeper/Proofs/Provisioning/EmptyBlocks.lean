import Mathlib.Data.List.Forall2
import TunnelKeeper.Proofs.Obfuscation
import TunnelKeeper.Provisioning.Build
import TunnelKeeper.Settings.Sanitize

/-!
# Entries with empty blocks

Leaving out blocks in which nothing is given changes nothing that the check of entries says
(`check_leave_out`), nor what the check of settings says, unless it refuses such a block for the
mode (`sanitize_leave_out`). Leaving out empty blocks does not change what is built either
(`build_leave_out`, `allocator_leave_out`).
-/

namespace TunnelKeeper

/-- An entry apart from its block, which may be left out if it is of some kind. -/
inductive Entry.LeavesOut (kind : Obfuscation → Prop) (e : Entry) : Entry → Prop
  | intro {block : Option Obfuscation} (h : Obfuscation.LeftOut kind e.obfuscation block) :
      LeavesOut kind e { e with obfuscation := block }

namespace Entry

variable {e e' : Entry} {es es' : List Entry}

theorem LeavesOut.mono {kind kind' : Obfuscation → Prop} (hkind : ∀ o, kind o → kind' o)
    (h : e.LeavesOut kind e') : e.LeavesOut kind' e' := by
  obtain ⟨hblock⟩ := h
  exact ⟨hblock.mono hkind⟩

/-! ## Checks -/

/-- There are the same objections to an entry whose block in which nothing is given is left out. -/
theorem objection_leave_out (h : e.LeavesOut Obfuscation.Vacuous e') (place : Nat)
    (seen : List String) : e'.objection? place seen = e.objection? place seen := by
  obtain ⟨hblock⟩ := h
  generalize hold : e.obfuscation = old at hblock
  cases hblock with
  | stays => rw [← hold]
  | goes hvacuous =>
      have hnone : e.obfuscationObjection? = none := by
        rw [obfuscationObjection?, hold, Option.bind_some]
        exact (Obfuscation.accepted_of_vacuous hvacuous _).1
      unfold objection?
      rw [hnone]
      rfl

theorem warnings_leave_out (h : e.LeavesOut Obfuscation.Vacuous e') : e'.warnings = e.warnings := by
  obtain ⟨hblock⟩ := h
  generalize hold : e.obfuscation = old at hblock
  cases hblock with
  | stays => rw [← hold]
  | goes hvacuous =>
      unfold warnings
      rw [hold]
      simp only [(Obfuscation.accepted_of_vacuous hvacuous _).2]
      rfl

theorem check_from_leave_out (h : List.Forall₂ (LeavesOut Obfuscation.Vacuous) es es') (place : Nat)
    (seen : List String) : checkFrom place seen es' = checkFrom place seen es := by
  induction h generalizing place seen with
  | nil => rfl
  | @cons e e' es es' hentry _ ih =>
      have hid : e'.id = e.id := by
        obtain ⟨-⟩ := hentry
        rfl
      rw [checkFrom, checkFrom, objection_leave_out hentry, warnings_leave_out hentry, hid, ih]

/-- The check says the same of entries whose blocks in which nothing is given are left out. -/
theorem check_leave_out (h : List.Forall₂ (LeavesOut Obfuscation.Vacuous) es es') :
    check es' = check es := check_from_leave_out h 0 []

/-- Entries are refused if there is an objection to one of them wherever it stands. -/
theorem check_from_error (he : e ∈ es) (h : ∀ place seen, e.objection? place seen ≠ none)
    (place : Nat) (seen : List String) :
    ∃ objection, checkFrom place seen es = .error objection := by
  induction es generalizing place seen with
  | nil => cases he
  | cons first rest ih =>
      rw [checkFrom]
      cases hfirst : first.objection? place seen with
      | some objection => exact ⟨objection, rfl⟩
      | none =>
          have hrest : e ∈ rest := by
            rcases List.mem_cons.mp he with rfl | hrest
            · exact absurd hfirst (h place seen)
            · exact hrest
          obtain ⟨objection, hobjection⟩ := ih hrest (place + 1) (first.id :: seen)
          exact ⟨objection, by rw [hobjection]⟩

/-- Entries are refused if one of them gives a special packet in an empty block. -/
theorem check_error_of_blank {o : Obfuscation} (he : e ∈ es) (ho : e.obfuscation = some o)
    (hempty : o.isEmpty = true) (hgiven : ¬ o.Vacuous) :
    ∃ objection, check es = .error objection := by
  refine check_from_error he (fun place seen hnone => ?_) 0 []
  have hblock : e.obfuscationObjection? = none := by
    unfold objection? at hnone
    simp only [Option.or_eq_none_iff] at hnone
    exact hnone.2.2.2.2
  rw [obfuscationObjection?, ho, Option.bind_some] at hblock
  obtain ⟨name, -, hrefused⟩ :=
    (Obfuscation.validate_of_empty hempty (e.field ++ ".advanced_security")).2 hgiven
  rw [Obfuscation.validate, hblock] at hrefused
  cases hrefused

/-! ## Building -/

/-- The mode of an interface does not depend on the block. -/
theorem build_mode_with (e : Entry) (block : Option Obfuscation) :
    buildMode { e with obfuscation := block } = e.buildMode := by
  unfold buildMode
  cases Mode.parse? e.mode <;> rfl

/-- What is built from an entry does not depend on an empty block. -/
theorem build_leave_out (h : e.LeavesOut (fun o => o.isEmpty = true) e') (s : AdvancedSettings)
    (new : KeyPair) (a : Allocator) : e'.build s new a = e.build s new a := by
  obtain ⟨hblock⟩ := h
  unfold build
  rw [build_mode_with]
  -- The block is looked at last, when the interface is put together.
  refine bind_congr fun mode => bind_congr fun keys => bind_congr fun ⟨port, later⟩ =>
    bind_congr fun ⟨addresses, last⟩ => bind_congr fun network => bind_congr fun allowedIps => ?_
  simp only [Interface.withObfuscation, hblock.present_block_normalized]
  rfl

theorem reserve_leave_out {kind : Obfuscation → Prop} (h : e.LeavesOut kind e') (a : Allocator) :
    reserve a e' = reserve a e := by
  obtain ⟨-⟩ := h
  rfl

theorem allocator_leave_out {kind : Obfuscation → Prop} (h : List.Forall₂ (LeavesOut kind) es es')
    (s : AdvancedSettings) : allocator s es' = allocator s es := by
  have hreserve : ∀ a, es'.foldlM reserve a = es.foldlM reserve a := by
    induction h with
    | nil => exact fun _ => rfl
    | cons hentry _ ih =>
        intro a
        rw [List.foldlM_cons, List.foldlM_cons, reserve_leave_out hentry]
        exact bind_congr ih
  unfold allocator
  simp only [hreserve]

/-! ## The first block -/

/-- The first entry with a block is the same one if its block is not left out. -/
theorem find_leave_out {kind : Obfuscation → Prop} (h : List.Forall₂ (LeavesOut kind) es es')
    (hfirst : ∀ e, es.find? (fun e => e.obfuscation.isSome) = some e →
      ¬ ∃ o, e.obfuscation = some o ∧ kind o) :
    es'.find? (fun e => e.obfuscation.isSome) = es.find? (fun e => e.obfuscation.isSome) := by
  induction h with
  | nil => rfl
  | @cons e e' es es' hentry _ ih =>
      obtain ⟨hblock⟩ := hentry
      generalize hold : e.obfuscation = old at hblock
      cases hblock with
      | goes hkind =>
          have hfound : (e :: es).find? (fun e => e.obfuscation.isSome) = some e :=
            List.find?_cons_of_pos (by rw [hold]; rfl)
          exact absurd ⟨_, hold, hkind⟩ (hfirst e hfound)
      | stays =>
          subst hold
          show (e :: es').find? _ = (e :: es).find? _
          rw [List.find?_cons] at hfirst
          rw [List.find?_cons, List.find?_cons]
          cases hblock : e.obfuscation.isSome with
          | true => rfl
          | false =>
              rw [hblock] at hfirst
              exact ih hfirst

end Entry

/-! ## Settings -/

namespace Settings

variable {c : Settings} {es' : List Entry}

theorem check_rest_leave_out
    (h : List.Forall₂ (Entry.LeavesOut Obfuscation.Vacuous) c.provisioning es')
    (hsupported : ∀ e ∈ c.provisioning, (∃ o, e.obfuscation = some o ∧ o.isEmpty = true) →
      c.checkRest.result ≠ .error (.settings (.obfuscationUnsupported e.id))) :
    checkRest { c with provisioning := es' } =
      ⟨{ c.checkRest.settings with provisioning := es' }, c.checkRest.warnings,
        c.checkRest.result⟩ := by
  have hfault : fault? { c with provisioning := es' } = c.fault? := rfl
  unfold checkRest at hsupported ⊢
  rw [hfault, Entry.check_leave_out h]
  cases hf : c.fault? with
  | some fault => rfl
  | none =>
      cases hcheck : Entry.check c.provisioning with
      | error objection => rfl
      | ok warnings =>
          rw [hf, hcheck] at hsupported
          have hunsupported : unsupportedEntry? { c with provisioning := es' } =
              c.unsupportedEntry? := by
            unfold unsupportedEntry? at hsupported ⊢
            by_cases hmode : c.core.wireguardMode = obfuscatedMode
            · rw [if_pos hmode, if_pos hmode]
            · rw [if_neg hmode, if_neg hmode]
              refine Entry.find_leave_out h fun e he hempty => ?_
              obtain ⟨o, ho, hvacuous⟩ := hempty
              refine hsupported e (List.mem_of_find?_eq_some he) ⟨o, ho, hvacuous.empty⟩ ?_
              simp only [if_neg hmode, he]
          simp only [hunsupported]
          cases c.unsupportedEntry? <;> rfl

/-- The check of settings says the same if blocks in which nothing is given are left out, unless it
is such a block that the mode is wrong for. -/
theorem sanitize_leave_out
    (h : List.Forall₂ (Entry.LeavesOut Obfuscation.Vacuous) c.provisioning es')
    (hsupported : ∀ e ∈ c.provisioning, (∃ o, e.obfuscation = some o ∧ o.isEmpty = true) →
      c.sanitize.result ≠ .error (.settings (.obfuscationUnsupported e.id))) :
    sanitize { c with provisioning := es' } =
      ⟨{ c.sanitize.settings with provisioning := es' }, c.sanitize.warnings,
        c.sanitize.result⟩ := by
  unfold sanitize at hsupported ⊢
  cases hmode : modeOf? c.core.wireguardMode with
  | none => rfl
  | some mode =>
      simp only [hmode] at hsupported ⊢
      exact check_rest_leave_out (c := { c with core := ⟨mode⟩ }) h hsupported

end Settings

end TunnelKeeper
