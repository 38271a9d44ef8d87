import TunnelKeeper.CommandLine.Grammar
import TunnelKeeper.Settings.Environment
/-!
# The command line

What the program is asked to do, and the settings that are given along with it. A setting that is
not on the command line is taken from its variable in the environment.
-/

namespace TunnelKeeper

namespace CommandLine

/-- What the program is asked to do. -/
inductive Command
  | bootstrap
  | validate
  | link (peer file : String) (description : Option String)
  deriving DecidableEq, Repr

end CommandLine

/-- A command line. -/
structure CommandLine where
  configPath : String
  databaseUrl : Option String
  maxConnections : Option UInt32
  storagePath : Option String
  startListenPort : Option UInt16
  logLevel : Option String
  debug : Bool
  command : CommandLine.Command
  deriving DecidableEq, Repr

namespace CommandLine

/-- The settings that may stand on a command line. -/
inductive Key
  | configPath
  | databaseUrl
  | maxConnections
  | storagePath
  | startListenPort
  | logLevel
  | debug
  deriving DecidableEq, Repr

/-- The options of the `link` command. -/
inductive LinkKey
  | peer
  | file
  | description
  deriving DecidableEq, Repr

/-- The options that ask for help. The short one asks for a summary. -/
def helpForms {κ : Type} (command : Option String) : List (Form κ) :=
  [⟨some "help", none, .help ⟨command, true⟩⟩, ⟨none, some 'h', .help ⟨command, false⟩⟩]

/-- The names of the commands; `help` is one that only talks about the others. -/
def commandNames : List String := ["bootstrap", "validate", "link", "help"]

/-- What may stand in front of a command. -/
def grammar : Grammar Key where
  forms :=
    [⟨some "config", some 'c', .set .configPath .text⟩,
      ⟨some "database-url", none, .set .databaseUrl .text⟩,
      ⟨some "max-db-connections", none, .set .maxConnections (.number UInt32.size)⟩,
      ⟨some "config-storage-path", none, .set .storagePath .text⟩,
      ⟨some "start-listen-port", none, .set .startListenPort (.number UInt16.size)⟩,
      ⟨some "log-level", none, .set .logLevel .text⟩,
      ⟨some "debug", none, .switch .debug⟩,
      ⟨some "version", some 'V', .version⟩] ++ helpForms none
  commands := commandNames

/-- What may stand behind a command without options. -/
def bareGrammar (command : String) : Grammar LinkKey := ⟨helpForms (some command), []⟩

/-- What may stand behind `link`. -/
def linkGrammar : Grammar LinkKey where
  forms :=
    [⟨some "peer", none, .set .peer .text⟩,
      ⟨some "config-file", none, .set .file .path⟩,
      ⟨some "description", none, .set .description .text⟩] ++ helpForms (some "link")
  commands := []

/-- The variables that stand in for options, with the values they take. -/
def standIns : List (Key × String × ValueKind) :=
  [(.configPath, "AWGMAN_CONFIG", .text),
    (.databaseUrl, "AWGMAN_DATABASE_URL", .text),
    (.maxConnections, "AWGMAN_MAX_DB_CONNECTIONS", .number UInt32.size),
    (.storagePath, "AWGMAN_CONFIG_STORAGE_PATH", .text),
    (.startListenPort, "AWGMAN_START_LISTEN_PORT", .number UInt16.size),
    (.logLevel, "AWGMAN_LOG_LEVEL", .text),
    (.debug, "AWGMAN_DEBUG", .word)]

/-- The configuration file unless another one is given. -/
def usualConfigPath : String := "config.toml"

/-- The fault of words behind `help`: they have to name a command, and no command has commands of
its own. -/
def helpFault : List String → UsageFault
  | [] => .helpWanted ⟨none, true⟩
  | [word] =>
    if word ∈ commandNames then .helpWanted ⟨some word, true⟩ else .unknownCommand
  | _ :: _ => .unknownCommand

/-- Reads the words of a command that has no further commands. -/
def readAll (g : Grammar LinkKey) (words : List String) :
    Except UsageFault (Reading LinkKey) := do
  let (r, _) ← g.read .start words
  r.close

/-- A text among what was read. -/
def textOf? {κ : Type} [DecidableEq κ] (r : Reading κ) (key : κ) : Option String :=
  match r.value? key with
  | some (.text s) => some s
  | _ => none

/-- A number among what was read. -/
def numberOf? {κ : Type} [DecidableEq κ] (r : Reading κ) (key : κ) : Option Nat :=
  match r.value? key with
  | some (.number n) => some n
  | _ => none

/-- Reads a command with its words. -/
def readCommand (name : String) (words : List String) : Except UsageFault Command :=
  match name with
  | "help" => .error (helpFault words)
  | "link" => do
    let r ← readAll linkGrammar words
    match textOf? r .peer, textOf? r .file with
    | some peer, some file => .ok (.link peer file (textOf? r .description))
    | _, _ => .error .optionMissing
  | "validate" => (readAll (bareGrammar "validate") words).map fun _ => .validate
  | _ => (readAll (bareGrammar "bootstrap") words).map fun _ => .bootstrap

/-- Takes a variable in, unless its option was given. -/
def addVariable (env : Environment) (r : Reading Key) (v : Key × String × ValueKind) :
    Except UsageFault (Reading Key) :=
  match r.value? v.1, env.value? v.2.1 with
  | none, some s => do
    let value ← v.2.2.read s
    .ok { r with given := r.given ++ [(v.1, value)] }
  | _, _ => .ok r

/-- A command line, from what was read in front of the command. -/
def ofReading (r : Reading Key) (command : Command) : CommandLine where
  configPath := (textOf? r .configPath).getD usualConfigPath
  databaseUrl := textOf? r .databaseUrl
  maxConnections := (numberOf? r .maxConnections).map UInt32.ofNat
  storagePath := textOf? r .storagePath
  startListenPort := (numberOf? r .startListenPort).map UInt16.ofNat
  logLevel := textOf? r .logLevel
  debug := r.value? .debug == some (.on true)
  command := command

/-- Reads the words of a command line. The command is read before the last option in front of it
is judged, and the variables come last. -/
def read (env : Environment) (words : List String) : Except UsageFault CommandLine := do
  let (r, behind) ← grammar.read .start words
  let command ← match behind with
    | some (name, rest) => readCommand name rest
    | none => .ok .bootstrap
  let r ← r.close
  let r ← standIns.foldlM (addVariable env) r
  .ok (ofReading r command)

/-- The log level: `debug` goes before a level that is given, and that before the level of the
settings. -/
def effectiveLogLevel (c : CommandLine) (configured : String) : String :=
  if c.debug then "debug" else c.logLevel.getD configured

end CommandLine

end TunnelKeeper
