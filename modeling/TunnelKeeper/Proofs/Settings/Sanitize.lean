import TunnelKeeper.Proofs.Provisioning.Build
import TunnelKeeper.Proofs.Text.Blank
import TunnelKeeper.Settings.Sanitize

/-!
# Accepted settings

Which settings the check accepts as they are (`acceptable_iff`), and what is known of those that it
accepts: their start blocks and their entries were read (`sanitize_ok`), and nothing was changed but
the spelling of the mode (`sanitize_settings`). Nothing else is changed of settings that it refuses
(`sanitize_changes_mode`), and it says of accepted settings what it said before (`sanitize_again`).
-/

namespace TunnelKeeper

namespace Settings

/-- There is no fault exactly if the start blocks can be read and there is a level for links. -/
theorem fault_eq_none_iff {c : Settings} : c.fault? = none ↔
    (∃ n, Network.parseEntry c.advanced.startCidrV4 = .ok n) ∧
      (∃ n, Network.parseEntry c.advanced.startCidrV6 = .ok n) ∧
        c.link.compressionLevel.toNat ≤ Frame.greatestLevel := by
  unfold fault?
  cases hv4 : Network.parseEntry c.advanced.startCidrV4 with
  | error fault => simp
  | ok v4 =>
      cases hv6 : Network.parseEntry c.advanced.startCidrV6 with
      | error fault => simp
      | ok v6 => simp

/-- No entry is unsupported exactly if blocks stand where there is obfuscation only. -/
theorem unsupported_entry_eq_none_iff {c : Settings} : c.unsupportedEntry? = none ↔
    (c.core.wireguardMode ≠ obfuscatedMode → ∀ e ∈ c.provisioning, e.obfuscation = none) := by
  unfold unsupportedEntry?
  by_cases hmode : c.core.wireguardMode = obfuscatedMode
  · simp [hmode]
  · simp [hmode]

/-! ## The spelling of the mode -/

/-- A mode in small letters without margins; a blank one is the mode in which nothing is managed. -/
def usualSpelling (raw : String) : String :=
  if Text.isBlankText raw then disabledMode else Text.lower (Text.trim raw)

/-- The modes that the check accepts, in their usual spelling. -/
def modes : List String := [disabledMode, plainMode, obfuscatedMode]

theorem lower_eq_empty_iff {s : String} : Text.lower s = "" ↔ s = "" := by
  rw [Text.lower, String.ofList_eq_empty_iff, List.map_eq_nil_iff, String.toList_eq_nil_iff]

/-- A mode is accepted if its usual spelling is that of one of the three. -/
theorem mode_of_eq_some_iff {raw mode : String} :
    modeOf? raw = some mode ↔ mode = usualSpelling raw ∧ mode ∈ modes := by
  have hempty : Text.lower (Text.trim raw) = "" ↔ Text.isBlankText raw = true :=
    lower_eq_empty_iff.trans (Text.trim_eq_empty raw)
  unfold modeOf? usualSpelling
  by_cases hblank : Text.isBlankText raw = true
  · simp only [if_pos (hempty.mpr hblank), if_pos hblank, Option.some.injEq]
    constructor
    · rintro rfl
      exact ⟨rfl, by decide⟩
    · intro h
      exact h.1.symm
  · simp only [if_neg (mt hempty.mp hblank), if_neg hblank, Option.ite_none_right_eq_some,
      Option.some.injEq]
    constructor
    · rintro ⟨hmode, rfl⟩
      exact ⟨rfl, hmode⟩
    · rintro ⟨rfl, hmode⟩
      exact ⟨hmode, rfl⟩

/-- An accepted mode in its usual spelling is accepted as it is. -/
theorem mode_of_mode {mode : String} (h : mode ∈ modes) : modeOf? mode = some mode := by
  simp only [modes, List.mem_cons, List.not_mem_nil, or_false] at h
  rcases h with rfl | rfl | rfl <;> decide

/-! ## The check -/

/-- The check changes nothing once the mode has its usual spelling. -/
theorem check_rest_settings (c : Settings) : c.checkRest.settings = c := by
  unfold checkRest
  cases c.fault? with
  | some fault => rfl
  | none =>
      cases Entry.check c.provisioning with
      | error objection => rfl
      | ok warnings => cases c.unsupportedEntry? <;> rfl

/-- The check stops at nothing exactly if there is nothing to stop at. -/
theorem check_rest_ok_iff {c : Settings} : c.checkRest.result = .ok () ↔
    c.fault? = none ∧ (∃ warnings, Entry.check c.provisioning = .ok warnings) ∧
      c.unsupportedEntry? = none := by
  unfold checkRest
  cases c.fault? with
  | some fault => simp
  | none =>
      cases Entry.check c.provisioning with
      | error objection => simp
      | ok warnings => cases c.unsupportedEntry? <;> simp

/-- The check of settings that are accepted changes the spelling of the mode at most. -/
theorem sanitize_settings {c : Settings} (h : c.sanitize.result = .ok ()) :
    modeOf? c.core.wireguardMode = some c.sanitize.settings.core.wireguardMode ∧
      c.sanitize.settings = { c with core := c.sanitize.settings.core } := by
  unfold sanitize at h ⊢
  cases hmode : modeOf? c.core.wireguardMode with
  | none =>
      rw [hmode] at h
      cases h
  | some mode =>
      simp only [check_rest_settings, and_self]

/-- Whether settings are accepted or not, the check changes the spelling of the mode at most. -/
theorem sanitize_changes_mode (c : Settings) :
    c.sanitize.settings =
      { c with core := ⟨c.sanitize.settings.core.wireguardMode⟩ } := by
  unfold sanitize
  cases modeOf? c.core.wireguardMode with
  | none => rfl
  | some mode => rw [check_rest_settings]

/-- Accepted settings are checked once the mode has its usual spelling. -/
theorem sanitize_of_mode {c : Settings} {mode : String}
    (h : modeOf? c.core.wireguardMode = some mode) :
    c.sanitize = checkRest { c with core := ⟨mode⟩ } := by
  rw [sanitize, h]

/-- Settings that were accepted are accepted again, with the same warnings and as they are. -/
theorem sanitize_again {c : Settings} (h : c.sanitize.result = .ok ()) :
    c.sanitize.settings.sanitize = c.sanitize := by
  cases hmode : modeOf? c.core.wireguardMode with
  | none =>
      rw [sanitize, hmode] at h
      cases h
  | some mode =>
      have hmem : mode ∈ modes := (mode_of_eq_some_iff.mp hmode).2
      rw [sanitize_of_mode hmode, check_rest_settings]
      exact sanitize_of_mode (mode_of_mode hmem)

/-- What is known of settings that are accepted. The check leaves the start blocks as they are. -/
theorem sanitize_ok {c : Settings} (h : c.sanitize.result = .ok ()) :
    c.sanitize.settings.advanced = c.advanced ∧
      (∃ n, Network.parseEntry c.advanced.startCidrV4 = .ok n) ∧
      (∃ n, Network.parseEntry c.advanced.startCidrV6 = .ok n) ∧
      ∃ warnings, Entry.check c.provisioning = .ok warnings := by
  unfold sanitize at h ⊢
  cases hmode : modeOf? c.core.wireguardMode with
  | none =>
      rw [hmode] at h
      cases h
  | some mode =>
      rw [hmode] at h
      obtain ⟨hfault, hcheck, -⟩ := check_rest_ok_iff.mp h
      obtain ⟨hv4, hv6, -⟩ := fault_eq_none_iff.mp hfault
      refine ⟨?_, hv4, hv6, hcheck⟩
      simp only [check_rest_settings]

/-- Settings that the check accepts as they are. -/
structure Acceptable (s : Settings) : Prop where
  mode : s.core.wireguardMode ∈ modes
  starts : (∃ n, Network.parseEntry s.advanced.startCidrV4 = .ok n) ∧
    ∃ n, Network.parseEntry s.advanced.startCidrV6 = .ok n
  level : s.link.compressionLevel.toNat ≤ Frame.greatestLevel
  entries : ∃ warnings, Entry.check s.provisioning = .ok warnings
  /-- Entries have blocks only where interfaces may be obfuscated. -/
  blocks : s.core.wireguardMode ≠ obfuscatedMode → ∀ e ∈ s.provisioning, e.obfuscation = none

/-- The check accepts settings whose mode has its usual spelling exactly if they are acceptable. -/
theorem acceptable_iff {s : Settings} :
    Acceptable s ↔ s.core.wireguardMode ∈ modes ∧ s.sanitize.result = .ok () := by
  constructor
  · rintro ⟨hmode, ⟨hv4, hv6⟩, hlevel, hentries, hblocks⟩
    refine ⟨hmode, ?_⟩
    rw [sanitize_of_mode (mode_of_mode hmode)]
    exact check_rest_ok_iff.mpr ⟨fault_eq_none_iff.mpr ⟨hv4, hv6, hlevel⟩, hentries,
      unsupported_entry_eq_none_iff.mpr hblocks⟩
  · rintro ⟨hmode, hresult⟩
    rw [sanitize_of_mode (mode_of_mode hmode)] at hresult
    obtain ⟨hfault, hentries, hblocks⟩ := check_rest_ok_iff.mp hresult
    obtain ⟨hv4, hv6, hlevel⟩ := fault_eq_none_iff.mp hfault
    exact ⟨hmode, ⟨hv4, hv6⟩, hlevel, hentries, unsupported_entry_eq_none_iff.mp hblocks⟩

end Settings

end TunnelKeeper
