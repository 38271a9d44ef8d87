import TunnelKeeper.CommandLine.Basic
import TunnelKeeper.Notice
import TunnelKeeper.Settings.Sanitize
import TunnelKeeper.Text.Utf8
/-!
# Merging settings

Settings come from a file, from the environment and from the command line. The command line goes
before the environment, the environment before the file, and the file before the usual values. The
merged settings are checked.
-/

namespace TunnelKeeper

/-- What is found at the path of a configuration file. -/
inductive Found
  | nothing
  | content (bytes : List UInt8)
  | fault (fault : FileFault)
  deriving DecidableEq, Repr

namespace Settings

/-- The settings in a file, or the usual ones if there is no file. -/
def ofFound (found : Found) : Except Error Settings :=
  match found with
  | .nothing => .ok usual
  | .fault fault => .error (.settings (.unreadable fault))
  | .content bytes =>
    match Text.ofUtf8? bytes with
    | some s => parse s
    | none => .error (.settings (.unreadable .notText))

/-- The settings under what the environment overrides. -/
def override (s : Settings) (o : Overrides) : Settings where
  core := { wireguardMode := o.wireguardMode.getD s.core.wireguardMode }
  advanced :=
    { logLevel := o.logLevel.getD s.advanced.logLevel
      startListenPort := o.startListenPort.getD s.advanced.startListenPort
      startCidrV4 := o.startCidrV4.getD s.advanced.startCidrV4
      startCidrV6 := o.startCidrV6.getD s.advanced.startCidrV6
      useIpV6 := o.useIpV6.getD s.advanced.useIpV6
      storagePath := o.storagePath.getD s.advanced.storagePath }
  database :=
    { s.database with
      url := o.databaseUrl.getD s.database.url
      maxConnections := o.maxConnections.getD s.database.maxConnections }
  link := { compressionLevel := o.compressionLevel.getD s.link.compressionLevel }
  provisioning := s.provisioning

/-- The settings under a command line. -/
def command (s : Settings) (c : CommandLine) : Settings :=
  { s with
    advanced :=
      { s.advanced with
        logLevel := c.effectiveLogLevel s.advanced.logLevel
        startListenPort := c.startListenPort.getD s.advanced.startListenPort
        storagePath := c.storagePath.getD s.advanced.storagePath }
    database :=
      { s.database with
        url := c.databaseUrl.getD s.database.url
        maxConnections := c.maxConnections.getD s.database.maxConnections } }

/-- What there is to say about a configuration file at a path. -/
def foundNotices (found : Found) (path : String) : List Notice :=
  if found = .nothing then [.configMissing path] else []

/-- The settings of a start, and what there is to say about them. -/
def load (found : Found) (path : String) (o : Overrides) (c : CommandLine) :
    Except Error Settings × List Notice :=
  match ofFound found with
  | .error error => (.error error, foundNotices found path)
  | .ok s =>
    let checked := ((s.override o).command c).sanitize
    (checked.result.map fun _ => checked.settings,
      foundNotices found path ++ checked.warnings.map .doubtful)

end Settings

end TunnelKeeper
