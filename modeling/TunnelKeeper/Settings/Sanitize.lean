import TunnelKeeper.Data.Toml.Reader
import TunnelKeeper.Error
import TunnelKeeper.Provisioning.Check
import TunnelKeeper.Settings.Basic
/-!
# Checking settings

Settings are read from a document and then checked as a whole. The check brings the mode into its
usual spelling, changes nothing else, and stops at the first value with which interfaces could not
be created.
-/

namespace TunnelKeeper

namespace Settings

/-- Reads settings from the text of a document. -/
def parse (s : String) : Except Error Settings :=
  (Toml.decodeText decoder s).mapError fun issue => .settings (.document issue)

/-- No interface is managed. -/
def disabledMode : String := "disabled"

/-- Interfaces are plain. -/
def plainMode : String := "wireguard"

/-- Interfaces may be obfuscated. -/
def obfuscatedMode : String := "amneziawg"

/-- The usual spelling of a mode; a blank one means that nothing is managed. -/
def modeOf? (raw : String) : Option String :=
  let mode := Text.lower (Text.trim raw)
  if mode = "" then some disabledMode
  else if mode ∈ [disabledMode, plainMode, obfuscatedMode] then some mode
  else none

/-- The first fault of the start blocks and the level. -/
def fault? (s : Settings) : Option SettingsFault :=
  match Network.parseEntry s.advanced.startCidrV4, Network.parseEntry s.advanced.startCidrV6 with
  | .error fault, _ => some (.startBlock "advanced.start_cidr_v4" fault)
  | _, .error fault => some (.startBlock "advanced.start_cidr_v6" fault)
  | .ok _, .ok _ =>
    if Frame.greatestLevel < s.link.compressionLevel.toNat then some .levelTooHigh else none

/-- The first entry with an obfuscation block where the mode has none. -/
def unsupportedEntry? (s : Settings) : Option Entry :=
  if s.core.wireguardMode = obfuscatedMode then none
  else s.provisioning.find? fun e => e.obfuscation.isSome

/-- What a check of settings comes to: the settings after it, the warnings that it gave, and the
error that stopped it. -/
structure Checked where
  settings : Settings
  warnings : List Warning
  result : Except Error Unit

/-- Checks settings whose mode has its usual spelling. -/
def checkRest (s : Settings) : Checked :=
  match s.fault? with
  | some fault => ⟨s, [], .error (.settings fault)⟩
  | none =>
    match Entry.check s.provisioning with
    | .error objection => ⟨s, [], .error (.validation objection)⟩
    | .ok warnings =>
      match s.unsupportedEntry? with
      | some e => ⟨s, warnings, .error (.settings (.obfuscationUnsupported e.id))⟩
      | none => ⟨s, warnings, .ok ()⟩

/-- Checks settings. -/
def sanitize (s : Settings) : Checked :=
  match modeOf? s.core.wireguardMode with
  | none => ⟨s, [], .error (.settings (.modeUnknown s.core.wireguardMode))⟩
  | some mode => checkRest { s with core := ⟨mode⟩ }

end Settings

end TunnelKeeper
