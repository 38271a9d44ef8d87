import TunnelKeeper.Database.Fault
import TunnelKeeper.Net.Url
import TunnelKeeper.Text.Percent
/-!
# Connection targets

What a connection URL asks for: the name of a database file, or a database in memory, and how it is
opened. The engine reads the URL in its own way, apart from any check that it is one.
-/

namespace TunnelKeeper

open Text

/-- What is opened, and how. -/
structure Target where
  name : String
  inMemory : Bool
  readOnly : Bool
  createsFile : Bool
  isFrozen : Bool
  backend : Option String
  deriving DecidableEq, Repr

namespace Target

/-- The scheme of the engine's URLs. -/
def scheme : String := "sqlite"

/-- The name of a database in memory. -/
def memoryName : String := ":memory:"

/-- A text without a leading part, however often that is repeated, for a text of at most `n`
characters. -/
def dropLeaders (lead : List Char) : Nat → List Char → List Char
  | 0, s => s
  | n + 1, s =>
    match afterLeading lead s with
    | some rest => dropLeaders lead n rest
    | none => s

/-- A URL without its scheme. -/
def withoutScheme (url : String) : List Char :=
  let s := dropLeaders "sqlite://".toList url.length url.toList
  dropLeaders "sqlite:".toList s.length s

/-- The database of a name: a file that is opened for writing if it exists, or memory. -/
def ofName (name : String) : Target := ⟨name, name = memoryName, false, false, false, none⟩

/-- The database that an encoded name stands for. -/
def ofEncodedName (s : List Char) : Except ConnectionFault Target :=
  match decodeUtf8 (percentDecode s) with
  | (name, []) => .ok (ofName (String.ofList name))
  | (name, _) => .error (.nameNotText (byteCount name))

/-- Takes one parameter in. -/
def withParameter (t : Target) (p : String × String) : Except ConnectionFault Target :=
  let (name, value) := p
  match name with
  | "mode" =>
    match value with
    | "ro" => .ok { t with readOnly := true }
    | "rw" => .ok t
    | "rwc" => .ok { t with createsFile := true }
    | "memory" => .ok { t with inMemory := true }
    | _ => .error (.unknownValue name value)
  | "cache" =>
    if value ∈ ["private", "shared"] then .ok t else .error (.unknownValue name value)
  | "immutable" =>
    if value ∈ ["true", "1"] then .ok { t with isFrozen := true }
    else if value ∈ ["false", "0"] then .ok { t with isFrozen := false }
    else .error (.unknownValue name value)
  | "vfs" => .ok { t with backend := some value }
  | _ => .error (.unknownParameter name)

/-- Reads a URL of the engine. -/
def ofEngineUrl (url : String) : Except ConnectionFault Target :=
  match splitFirst '?' (withoutScheme url) with
  | some (name, parameters) => do
    let t ← ofEncodedName name
    (formEntries parameters).foldlM withParameter t
  | none => ofEncodedName (withoutScheme url)

/-- Reads a connection URL. -/
def ofUrl (url : String) : Except ConnectionFault Target :=
  match Url.scheme? url with
  | none => .error (.unreadable url)
  | some s => if s = scheme then ofEngineUrl url else .error (.noDriver url)

/-- The way to open a file that keeps it in memory. -/
def memoryBackend : String := "memdb"

/-- The ways in which the engine can open files. -/
def backends : List String := ["unix", "unix-none", "unix-dotfile", "unix-excl", memoryBackend]

/-- Whether the database is in no file that stays: it is in memory, or it has no name. -/
def isUnfiled (t : Target) : Bool :=
  t.inMemory || t.name = "" || t.backend = some memoryBackend

/-- Whether nothing can be written. -/
def isReadOnly (t : Target) : Bool := t.readOnly || t.isFrozen

end Target

end TunnelKeeper
