import TunnelKeeper.Files.Fault
import TunnelKeeper.Number.Numeral
import TunnelKeeper.Text.Quoted
/-!
# Database faults

Why a database cannot be prepared, opened or written, in the words of the database.
-/

namespace TunnelKeeper

/-- What the database engine answers. -/
inductive EngineFault
  | noBackend (name : String)
  | readOnly
  | cannotOpen
  | notADatabase
  deriving DecidableEq, Repr

/-- The number of an answer. -/
def EngineFault.code : EngineFault → Nat
  | .noBackend _ => 1
  | .readOnly => 8
  | .cannotOpen => 14
  | .notADatabase => 26

/-- The wording of an answer. -/
def EngineFault.message (fault : EngineFault) : String :=
  "error returned from database: (code: " ++ Number.decimal fault.code ++ ") " ++
    match fault with
    | .noBackend name => "no such vfs: " ++ name
    | .readOnly => "attempt to write a readonly database"
    | .cannotOpen => "unable to open database file"
    | .notADatabase => "file is not a database"

/-- Why no connection is made. -/
inductive ConnectionFault
  | unreadable (url : String)
  | noDriver (url : String)
  | nameNotText (place : Nat)
  | unknownParameter (name : String)
  | unknownValue (name value : String)
  | engine (fault : EngineFault)
  deriving DecidableEq, Repr

/-- The wording of a failed connection. -/
def ConnectionFault.message : ConnectionFault → String
  | .unreadable url => "The connection string '" ++ url ++ "' cannot be parsed."
  | .noDriver url => "The connection string '" ++ url ++ "' has no supporting driver."
  | .nameNotText place =>
    "error with configuration: invalid utf-8 sequence of 1 bytes from index " ++
      Number.decimal place
  | .unknownParameter name =>
    "error with configuration: unknown query parameter `" ++ name ++
      "` while parsing connection URL"
  | .unknownValue name value =>
    "error with configuration: unknown value " ++ Text.quoted value ++ " for `" ++ name ++ "`"
  | .engine fault => fault.message

/-- Why a database cannot be used. -/
inductive DatabaseFault
  | creation (path : String) (fault : FileFault)
  | connection (fault : ConnectionFault)
  | execution (fault : EngineFault)
  deriving DecidableEq, Repr

/-- The wording of a fault. -/
def DatabaseFault.message : DatabaseFault → String
  | .creation path fault => "Custom Error: cannot create " ++ path ++ ": " ++ fault.message
  | .connection fault => "Connection Error: " ++ fault.message
  | .execution fault => "Execution Error: " ++ fault.message

/-- What a fault goes back to. -/
def DatabaseFault.causes : DatabaseFault → List String
  | .creation _ _ => []
  | .connection fault => [fault.message]
  | .execution fault => [fault.message]

end TunnelKeeper
