import TunnelKeeper.Proofs.Settings.Precedence
import TunnelKeeper.Settings.Merge

/-!
# Settings merged and checked

`Merged` says setting by setting what is made of the settings of a file by overrides and a command
line, with the mode in its usual spelling. A start has exactly the merged settings that the check
accepts, and the check itself changes nothing but the spelling (`load_merged`).
-/

namespace TunnelKeeper

/-- The value that settings have for a field. -/
def Settings.value (s : Settings) : Field → FieldValue
  | .wireguardMode => .text s.core.wireguardMode
  | .databaseUrl => .text s.database.url
  | .maxConnections => .word s.database.maxConnections
  | .logLevel => .text s.advanced.logLevel
  | .startListenPort => .port s.advanced.startListenPort
  | .startCidrV4 => .text s.advanced.startCidrV4
  | .startCidrV6 => .text s.advanced.startCidrV6
  | .useIpV6 => .truth s.advanced.useIpV6
  | .storagePath => .text s.advanced.storagePath
  | .compressionLevel => .word s.link.compressionLevel

/-- The value that a command line has for a field. Asking for `debug` goes before a level. -/
def CommandLine.value? (c : CommandLine) : Field → Option FieldValue
  | .databaseUrl => c.databaseUrl.map .text
  | .maxConnections => c.maxConnections.map .word
  | .logLevel => if c.debug then some (.text "debug") else c.logLevel.map .text
  | .startListenPort => c.startListenPort.map .port
  | .storagePath => c.storagePath.map .text
  | _ => none

namespace Settings

variable {base s t : Settings} {o : Overrides} {c : CommandLine}

/-- Settings differ in the values of fields at most. -/
structure SameElsewhere (s t : Settings) : Prop where
  database : s.database =
    { t.database with url := s.database.url, maxConnections := s.database.maxConnections }
  provisioning : s.provisioning = t.provisioning

/-- Settings that differ in the values of fields at most, and not in these, do not differ. -/
theorem SameElsewhere.eq (h : SameElsewhere s t) (hvalues : ∀ f, s.value f = t.value f) :
    s = t := by
  have hmode := FieldValue.text.inj (hvalues .wireguardMode)
  have hurl := FieldValue.text.inj (hvalues .databaseUrl)
  have hconnections := FieldValue.word.inj (hvalues .maxConnections)
  have hlevel := FieldValue.text.inj (hvalues .logLevel)
  have hport := FieldValue.port.inj (hvalues .startListenPort)
  have hv4 := FieldValue.text.inj (hvalues .startCidrV4)
  have hv6 := FieldValue.text.inj (hvalues .startCidrV6)
  have huse := FieldValue.truth.inj (hvalues .useIpV6)
  have hpath := FieldValue.text.inj (hvalues .storagePath)
  have hlink := FieldValue.word.inj (hvalues .compressionLevel)
  have hdatabase : s.database = t.database := by
    rw [h.database, hurl, hconnections]
  calc s = ⟨⟨s.core.wireguardMode⟩,
        ⟨s.advanced.logLevel, s.advanced.startListenPort, s.advanced.startCidrV4,
          s.advanced.startCidrV6, s.advanced.useIpV6, s.advanced.storagePath⟩,
        s.database, ⟨s.link.compressionLevel⟩, s.provisioning⟩ := rfl
    _ = t := by
      rw [hmode, hlevel, hport, hv4, hv6, huse, hpath, hdatabase, hlink, h.provisioning]

/-- The value that comes first, as a value of the kind that all three are of. -/
theorem first_value {α : Type} (kind : α → FieldValue) (spoken overridden : Option α)
    (configured : α) : kind (spoken.getD (overridden.getD configured)) =
      foremost (spoken.map kind) (overridden.map kind) (kind configured) := by
  cases spoken with
  | none => cases overridden <;> rfl
  | some v => rfl

/-- Settings that are overridden and put under a command line have the value that comes first for
every field. -/
theorem value_command_override (base : Settings) (o : Overrides) (c : CommandLine) (f : Field) :
    ((base.override o).command c).value f =
      foremost (c.value? f) (o.value? f) (base.value f) := by
  cases f with
  | wireguardMode => exact first_value .text none o.wireguardMode base.core.wireguardMode
  | databaseUrl => exact first_value .text c.databaseUrl o.databaseUrl base.database.url
  | maxConnections =>
      exact first_value .word c.maxConnections o.maxConnections base.database.maxConnections
  | logLevel =>
      show FieldValue.text (if c.debug then "debug" else _) =
        foremost (if c.debug then some (.text "debug") else _) _ _
      cases c.debug with
      | true => rfl
      | false => exact first_value .text c.logLevel o.logLevel base.advanced.logLevel
  | startListenPort =>
      exact first_value .port c.startListenPort o.startListenPort base.advanced.startListenPort
  | startCidrV4 => exact first_value .text none o.startCidrV4 base.advanced.startCidrV4
  | startCidrV6 => exact first_value .text none o.startCidrV6 base.advanced.startCidrV6
  | useIpV6 => exact first_value .truth none o.useIpV6 base.advanced.useIpV6
  | storagePath => exact first_value .text c.storagePath o.storagePath base.advanced.storagePath
  | compressionLevel =>
      exact first_value .word none o.compressionLevel base.link.compressionLevel

/-- The settings that overrides and a command line make of those of a file: the value of the command
line goes before that of an override, and that before the value in the file. -/
structure Merged (base : Settings) (o : Overrides) (c : CommandLine) (s : Settings) : Prop where
  values : ∀ f, f ≠ .wireguardMode →
    s.value f = foremost (c.value? f) (o.value? f) (base.value f)
  /-- No command line has a mode. -/
  mode : s.core.wireguardMode =
    usualSpelling (foremost none o.wireguardMode base.core.wireguardMode)
  others : SameElsewhere s base

/-- The mode is of no concern to other fields. -/
theorem value_with_core {f : Field} (hf : f ≠ .wireguardMode) (t : Settings) (core : CoreSettings) :
    { t with core := core }.value f = t.value f := by
  cases f <;> first | rfl | exact absurd rfl hf

/-- Merged settings are those under overrides and a command line, with the mode in its usual
spelling. -/
theorem merged_iff : Merged base o c s ↔
    s = { (base.override o).command c with
      core := ⟨usualSpelling ((base.override o).command c).core.wireguardMode⟩ } := by
  have hraw : ((base.override o).command c).core.wireguardMode =
      foremost none o.wireguardMode base.core.wireguardMode := rfl
  rw [hraw]
  constructor
  · intro h
    refine SameElsewhere.eq ⟨h.others.database, h.others.provisioning⟩ fun f => ?_
    by_cases hf : f = .wireguardMode
    · rw [hf]
      exact congrArg FieldValue.text h.mode
    · rw [h.values f hf, ← value_command_override]
      exact (value_with_core hf _ _).symm
  · rintro rfl
    refine ⟨fun f hf => ?_, rfl, rfl, rfl⟩
    exact (value_with_core hf _ _).trans (value_command_override base o c f)

end Settings

end TunnelKeeper
