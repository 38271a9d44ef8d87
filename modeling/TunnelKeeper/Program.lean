import TunnelKeeper.CommandLine.Help
import TunnelKeeper.Database.Host
import TunnelKeeper.Keeper.Bootstrap
import TunnelKeeper.Settings.Merge
/-!
# The program

What one run of the program does on a host: it reads its settings, checks them, creates interfaces
or prints the import link of a peer. A run leaves the host changed even if it fails.
-/

namespace TunnelKeeper

/-- What a run answers: its exit code, its output, and what it says about a failure. -/
structure Outcome where
  code : Nat
  output : String
  complaint : String
  deriving DecidableEq, Repr

/-- Why a run fails. -/
inductive Failure
  | failed (error : Error)
  | notConnected (fault : DatabaseFault)
  | notMigrated (fault : DatabaseFault)
  | unread (path : String) (fault : FileFault)

namespace Failure

/-- The wording of a failure. -/
def message : Failure → String
  | .failed error => error.message
  | .notConnected fault => "Failed to connect to database: " ++ fault.message
  | .notMigrated fault => "Failed to migrate database: " ++ fault.message
  | .unread path _ => "Failed to read " ++ path

/-- What a failure goes back to. -/
def causes : Failure → List String
  | .failed error => error.causes
  | .unread _ fault => [fault.message]
  | _ => []

/-- A text whose first line stands behind a mark, and whose other lines stand below it. -/
def indented (mark margin : String) (s : String) : String :=
  mark ++ String.ofList (s.toList.flatMap fun c => if c = '\n' then '\n' :: margin.toList else [c])

/-- Causes with their numbers. -/
def numbered : Nat → List String → List String
  | _, [] => []
  | n, cause :: rest =>
    let digits := Number.decimal n
    let mark := String.ofList (List.replicate (5 - digits.length) ' ') ++ digits ++ ": "
    indented mark "       " cause :: numbered (n + 1) rest

/-- Causes below a message. A single one has no number. -/
def causeLines : List String → List String
  | [] => []
  | [cause] => ["", "Caused by:", indented "    " "    " cause]
  | causes => "" :: "Caused by:" :: numbered 0 causes

/-- What is said about a failure. -/
def report (f : Failure) : String :=
  String.join ((("Error: " ++ f.message) :: causeLines f.causes).map fun line => line ++ "\n")

end Failure

namespace Program

/-- The name of the program and its version. -/
def banner : String := "awgman 0.1.0"

/-- What is found at the path of the configuration file. A path that leads nowhere is as good as
none. -/
def found (h : Host) (path : String) : Found :=
  match h.read path with
  | .ok content => .content content
  | .error .isDirectory => .fault .isDirectory
  | .error _ => .nothing

/-- The settings of a run. An environment that cannot be used overrides nothing. -/
def settings (c : CommandLine) (env : Environment) (h : Host) : Except Error Settings :=
  (Settings.load (found h c.configPath) c.configPath
    ((Overrides.ofEnvironment env).toOption.getD .empty) c).1

/-- What a check of settings that are right says. -/
def confirmation (s : Settings) : String :=
  "configuration ok: mode " ++ s.core.wireguardMode ++ ", " ++
    Number.decimal s.provisioning.length ++ " provisioned interfaces\n"

/-- A storage for programs that export no files. -/
def noStorage : Storage Unit where
  prepare _ _ := (.ok (), ())
  write _ _ _ := (.ok (), ())
  delete _ _ := (.ok (), ())

/-- The calls that fail on a database in which nothing can be written. -/
def writeFault (readOnly : Bool) (c : Call) : Option Error :=
  match c with
  | .saveInterface _ => if readOnly then some (.database (.execution .readOnly)) else none
  | _ => none

/-- What a bootstrap works with. Nobody listens on the bus. -/
def services (s : Settings) (newKeys : Nat → KeyPair) (readOnly : Bool) : Services Unit where
  settings := s
  newKeys := newKeys
  renderInterface _ _ := ""
  renderPeer _ _ := ""
  encodeQr _ := []
  storage := noStorage
  bus := .empty
  fault? _ := writeFault readOnly

/-- Creates the interfaces of the settings. -/
def bootstrap (s : Settings) (newKeys : Nat → KeyPair) (c : Connection) (h : Host) :
    Except Failure String × Host :=
  let (r, w) := Keeper.bootstrap .system s.provisioning (services s newKeys c.readOnly)
    ⟨h.store c, (), [], [], []⟩
  ((r.mapError .failed).map fun _ => "", h.save c w.store)

/-- The import link of a stored peer, with a configuration that was rendered elsewhere. -/
def peerLink (s : Settings) (store : Store) (id : PeerId) (config : String)
    (description : Option String) : Except Error String := do
  let p ← store.peer false id
  let i ← store.interface false p.interfaceId
  let name := p.configName (some i)
  Link.build (some p) i (description.getD name) (ConfigText.strippedNamed config name)
    s.link.compressionLevel.toNat

/-- A file as a text. -/
def readText (h : Host) (path : String) : Except FileFault String := do
  let bytes ← h.read path
  match Text.ofUtf8? bytes with
  | some s => .ok s
  | none => .error .notText

/-- Prints the import link of a peer. -/
def link (s : Settings) (id : PeerId) (path : String) (description : Option String)
    (c : Connection) (h : Host) : Except Failure String := do
  let config ← (readText h path).mapError (.unread path)
  let l ← (peerLink s (h.store c) id config description).mapError .failed
  .ok (l ++ "\n")

/-- Connects to the database of the settings, in which there are tables then. -/
def connect (s : Settings) (h : Host) : Except Failure Connection × Host :=
  match h.connect s.database.url with
  | (.error fault, h) => (.error (.notConnected fault), h)
  | (.ok c, h) =>
    match h.migrate c with
    | (.error fault, h) => (.error (.notMigrated fault), h)
    | (.ok (), h) => (.ok c, h)

/-- Does what a command line asks for, with settings that are right. -/
def perform (s : Settings) (command : CommandLine.Command) (newKeys : Nat → KeyPair) (h : Host) :
    Except Failure String × Host :=
  match command with
  | .validate => (.ok (confirmation s), h)
  | .bootstrap =>
    match connect s h with
    | (.error failure, h) => (.error failure, h)
    | (.ok c, h) => bootstrap s newKeys c h
  | .link peer path description =>
    match connect s h with
    | (.error failure, h) => (.error failure, h)
    | (.ok c, h) => (link s peer path description c h, h)

/-- What a run answers for its result. -/
def answer : Except Failure String → Outcome
  | .ok output => ⟨0, output, ""⟩
  | .error failure => ⟨1, "", failure.report⟩

/-- What a run answers to a command line that asks for help or cannot be read. -/
def usageAnswer (env : Environment) : CommandLine.UsageFault → Outcome
  | .versionWanted => ⟨0, banner ++ "\n", ""⟩
  | .helpWanted request => ⟨0, CommandLine.helpText env request, ""⟩
  | fault => ⟨2, "", "error: " ++ fault.message ++ "\n"⟩

/-- The paths at which a database may be. -/
def databasePaths (url : String) : List String :=
  (Host.filePath? url).toList ++
    match Target.ofUrl url with
    | .ok t => [t.name]
    | .error _ => []

/-- The paths that a run looks at, as far as the host shows. -/
def paths (words : List String) (env : Environment) (h : Host) : List String :=
  match CommandLine.read env words with
  | .error _ => []
  | .ok c =>
    let given := match c.command with
      | .link _ path _ => [c.configPath, path]
      | _ => [c.configPath]
    given ++
      match settings c env h with
      | .ok s => databasePaths s.database.url
      | .error _ => []

/-- How many interfaces a run may create. -/
def size (words : List String) (env : Environment) (h : Host) : Nat :=
  match CommandLine.read env words with
  | .error _ => 0
  | .ok c =>
    match settings c env h with
    | .ok s => s.provisioning.length
    | .error _ => 0

/-- One run of the program. -/
def run (words : List String) (env : Environment) (newKeys : Nat → KeyPair) (h : Host) :
    Outcome × Host :=
  match CommandLine.read env words with
  | .error fault => (usageAnswer env fault, h)
  | .ok c =>
    match settings c env h with
    | .error e => (answer (.error (.failed e)), h)
    | .ok s =>
      let (r, h) := perform s c.command newKeys h
      (answer r, h)

end Program

end TunnelKeeper
