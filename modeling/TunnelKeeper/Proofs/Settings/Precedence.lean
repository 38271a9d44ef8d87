import TunnelKeeper.Program
import TunnelKeeper.Proofs.CommandLine.StandIns
import TunnelKeeper.Proofs.Settings.Environment
import TunnelKeeper.Proofs.Settings.Sanitize

/-!
# Which value of a setting holds

The environment has two ways to a setting. A variable that stands in for an option is as good as the
option, and is complained about if it cannot be read. Every other variable is an override, and those
hold only if the whole environment can be used: one value that cannot be read takes all of them with
it, and nothing is said. `settings_by_precedence` puts the command line, its variables, the overrides
and the file in their order for all settings at once.
-/

namespace TunnelKeeper

/-! ## Values by their kinds -/

namespace FieldValue

/-- The text that a value is. -/
def text? : FieldValue → Option String
  | .text s => some s
  | _ => none

/-- The number of 32 bits that a value is. -/
def word? : FieldValue → Option UInt32
  | .word n => some n
  | _ => none

/-- The number of 16 bits that a value is. -/
def port? : FieldValue → Option UInt16
  | .port n => some n
  | _ => none

/-- The truth value that a value is. -/
def truth? : FieldValue → Option Bool
  | .truth b => some b
  | _ => none

end FieldValue

namespace Overrides

/-- Overrides with the values of fields. A value of another kind is none. -/
def ofValues (values : Field → Option FieldValue) : Overrides where
  wireguardMode := (values .wireguardMode).bind FieldValue.text?
  databaseUrl := (values .databaseUrl).bind FieldValue.text?
  maxConnections := (values .maxConnections).bind FieldValue.word?
  logLevel := (values .logLevel).bind FieldValue.text?
  startListenPort := (values .startListenPort).bind FieldValue.port?
  startCidrV4 := (values .startCidrV4).bind FieldValue.text?
  startCidrV6 := (values .startCidrV6).bind FieldValue.text?
  useIpV6 := (values .useIpV6).bind FieldValue.truth?
  storagePath := (values .storagePath).bind FieldValue.text?
  compressionLevel := (values .compressionLevel).bind FieldValue.word?

/-- Overrides are known from the values of their fields. -/
theorem of_values_value (o : Overrides) : ofValues o.value? = o := by
  simp only [ofValues, value?, Option.bind_map, Function.comp_def, FieldValue.text?,
    FieldValue.word?, FieldValue.port?, FieldValue.truth?, Option.bind_fun_some]

/-- The overrides of a start, field by field. -/
theorem of_environment_eq (env : Environment) :
    (ofEnvironment env).toOption.getD .empty = ofValues env.override? := by
  rw [← of_values_value ((ofEnvironment env).toOption.getD .empty),
    funext (value_of_environment env)]

end Overrides

/-! ## The settings of a start -/

namespace Settings

open CommandLine

/-- The value that comes first: that of the command line or its variable, that of an override, or
that of the file. -/
def foremost {α : Type} (spoken overridden : Option α) (configured : α) : α :=
  (spoken.or overridden).getD configured

/-- The settings that hold over those of a file, for an environment and the options of a command
line. Nothing but overrides goes before the file for the mode, the blocks, the families and the
level of links. -/
def prevailing (env : Environment) (r : Reading Key) (base : Settings) : Settings :=
  let o := Overrides.ofValues env.override?
  { core := ⟨foremost none o.wireguardMode base.core.wireguardMode⟩
    advanced :=
      { logLevel :=
          if spoken? env r .debug = some (.on true) then "debug"
          else foremost ((spoken? env r .logLevel).bind Value.text?) o.logLevel
            base.advanced.logLevel
        startListenPort :=
          foremost (((spoken? env r .startListenPort).bind Value.number?).map UInt16.ofNat)
            o.startListenPort base.advanced.startListenPort
        startCidrV4 := foremost none o.startCidrV4 base.advanced.startCidrV4
        startCidrV6 := foremost none o.startCidrV6 base.advanced.startCidrV6
        useIpV6 := foremost none o.useIpV6 base.advanced.useIpV6
        storagePath :=
          foremost ((spoken? env r .storagePath).bind Value.text?) o.storagePath
            base.advanced.storagePath }
    database :=
      { base.database with
        url :=
          foremost ((spoken? env r .databaseUrl).bind Value.text?) o.databaseUrl base.database.url
        maxConnections :=
          foremost (((spoken? env r .maxConnections).bind Value.number?).map UInt32.ofNat)
            o.maxConnections base.database.maxConnections }
    link := ⟨foremost none o.compressionLevel base.link.compressionLevel⟩
    provisioning := base.provisioning }

/-- Settings under overrides and under a command line are those that prevail. -/
theorem command_override_eq {env : Environment} {r : Reading Key} {c : CommandLine}
    (hc : Resolved env r c) (base : Settings) :
    (base.override (.ofValues env.override?)).command c = prevailing env r base := by
  simp only [Settings.override, command, prevailing, foremost, effectiveLogLevel, hc.databaseUrl,
    hc.maxConnections, hc.storagePath, hc.startListenPort, hc.logLevel, hc.debug, Option.getD_or,
    Option.none_or, beq_iff_eq]

end Settings

namespace Program

open CommandLine Settings

/-- Where the settings of a start are from, for words, an environment and a host. -/
structure StartedWith (words : List String) (env : Environment) (h : Host) (r : Reading Key)
    (base s : Settings) : Prop where
  given : CommandLine.given words = .ok r
  configured : ofFound (found h (((spoken? env r .configPath).bind Value.text?).getD
    usualConfigPath)) = .ok base
  /-- A variable that stands in for an option can be read, unless the option is given. -/
  readable : ∀ v ∈ standIns, r.value? v.1 = none → ∀ text, env.value? v.2.1 = some text →
    ∃ x, v.2.2.read text = .ok x
  /-- The mode is spelled as usual, and nothing else is changed. -/
  mode : modeOf? (prevailing env r base).core.wireguardMode = some s.core.wireguardMode
  others : s = { prevailing env r base with core := s.core }
  /-- All variables have their way if every one of them can be used. -/
  overridden : env.Usable → ∀ v ∈ env.entries, ∀ f, Field.ofVariable? v.1 = some f →
    ∃ x, f.read? v.2 = some x ∧ env.override? f = some x
  /-- Otherwise no variable has, except in place of an option. -/
  dropped : ¬ env.Usable → ∀ f, env.override? f = none

/-- A start that reports no error has the settings of the command line before those of the
environment, and these before those of the file. -/
theorem settings_by_precedence {words : List String} {env : Environment} {h : Host}
    {c : CommandLine} {s : Settings} (hread : CommandLine.read env words = .ok c)
    (hsettings : settings c env h = .ok s) : ∃ r base, StartedWith words env h r base s := by
  obtain ⟨r, hgiven, hc⟩ := read_spec hread
  unfold settings load at hsettings
  rw [Overrides.of_environment_eq, hc.configPath] at hsettings
  cases hbase : ofFound (found h (((spoken? env r .configPath).bind Value.text?).getD
      usualConfigPath)) with
  | error e =>
      rw [hbase] at hsettings
      cases hsettings
  | ok base =>
      rw [hbase] at hsettings
      simp only [command_override_eq hc] at hsettings
      obtain ⟨_, hresult, rfl⟩ := except_map_eq_ok_iff.mp hsettings
      obtain ⟨hmode, hothers⟩ := sanitize_settings hresult
      exact ⟨r, base,
        { given := hgiven
          configured := hbase
          readable := hc.readable
          mode := hmode
          others := hothers
          overridden := fun husable v hv f hfield =>
            Environment.override_of_usable husable hv hfield
          dropped := Environment.override_of_not_usable }⟩

/-- A host without files. -/
def bareHost : Host := ⟨.empty, [], []⟩

/-- Levels of logs and of links, and a mode. -/
def contested : Environment :=
  ⟨[("AWGMAN_COMPRESSION_LEVEL", "9"), ("AWGMAN_LOG_LEVEL", "warn"),
    ("AWGMAN_WIREGUARD_MODE", " AmneziaWG")]⟩

/-- The command line has its way with the level of logs, and the environment with what else it
sets. -/
theorem contested_settings :
    ∃ c s, CommandLine.read contested ["--log-level", "trace", "validate"] = .ok c ∧
      settings c contested bareHost = .ok s ∧
      (s.core.wireguardMode, s.advanced.logLevel, s.link.compressionLevel) =
        ("amneziawg", "trace", 9) ∧
      ∃ r base, StartedWith ["--log-level", "trace", "validate"] contested bareHost r base s := by
  have hstart : ((CommandLine.read contested ["--log-level", "trace", "validate"]).toOption.bind
      fun c => (settings c contested bareHost).toOption.map fun s =>
        (s.core.wireguardMode, s.advanced.logLevel, s.link.compressionLevel)) =
        some ("amneziawg", "trace", 9) := by
    decide +kernel
  obtain ⟨c, hc, hrest⟩ := Option.bind_eq_some_iff.mp hstart
  obtain ⟨s, hs, hvalues⟩ := Option.map_eq_some_iff.mp hrest
  exact ⟨c, s, except_eq_ok hc, except_eq_ok hs, hvalues,
    settings_by_precedence (except_eq_ok hc) (except_eq_ok hs)⟩

/-- A mode next to a level that is no number. -/
def strained : Environment :=
  ⟨[("AWGMAN_COMPRESSION_LEVEL", "high"), ("AWGMAN_WIREGUARD_MODE", "amneziawg")]⟩

/-- A start does not always have the mode that the environment sets, even if that is one: a level that
is no number takes it away, and no error is reported. -/
theorem mode_lost_to_malformed_level :
    ¬ ∀ (words : List String) (env : Environment) (h : Host) (c : CommandLine) (s : Settings),
      CommandLine.read env words = .ok c → settings c env h = .ok s →
        ∀ v ∈ env.entries, Field.ofVariable? v.1 = some .wireguardMode →
          ∀ mode, modeOf? v.2 = some mode → s.core.wireguardMode = mode := by
  intro hclaim
  have hstart : ((CommandLine.read strained ["validate"]).toOption.bind fun c =>
      (settings c strained bareHost).toOption.map fun s => s.core.wireguardMode) =
        some "disabled" := by
    decide +kernel
  obtain ⟨c, hc, hrest⟩ := Option.bind_eq_some_iff.mp hstart
  obtain ⟨s, hs, hmode⟩ := Option.map_eq_some_iff.mp hrest
  have hkept : s.core.wireguardMode = "amneziawg" :=
    hclaim ["validate"] strained bareHost c s (except_eq_ok hc) (except_eq_ok hs)
      ("AWGMAN_WIREGUARD_MODE", "amneziawg") (by decide) (by decide +kernel) "amneziawg"
      (by decide +kernel)
  rw [hmode] at hkept
  exact absurd hkept (by decide)

end Program

end TunnelKeeper
