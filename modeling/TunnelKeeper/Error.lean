import TunnelKeeper.Codec.Base64
import TunnelKeeper.Data.Schema
import TunnelKeeper.Database.Fault
import TunnelKeeper.Files.Fault
import TunnelKeeper.Frame
import TunnelKeeper.Validation
/-!
# Errors

Everything an operation can fail with: a cause, and around it the contexts that name the
operations it came through. Each cause has its wording in one place.
-/

namespace TunnelKeeper

open Number

/-- What is wrong with the settings. -/
inductive SettingsFault
  | block (fault : BlockFault)
  | startFamily (start : Network) (wanted : Net.Family)
  | noPortLeft
  | noNetworkLeft (start : Network)
  | modeUnknown (raw : String)
  | startBlock (name : String) (fault : BlockFault)
  | levelTooHigh
  | obfuscationUnsupported (identifier : String)
  | document (issue : Issue)
  | unreadable (fault : FileFault)
  | other (text : String)

/-- The wording of a fault in the settings. -/
def SettingsFault.message : SettingsFault → String
  | .block fault => fault.message
  | .startFamily start wanted =>
    "start block " ++ start.text ++ " is not an " ++
      (match wanted with | .v4 => "IPv4" | .v6 => "IPv6") ++ " network"
  | .noPortLeft => "no free listen port left"
  | .noNetworkLeft start => "no free network left after " ++ start.text
  | .modeUnknown raw => "invalid core.wireguard_mode " ++ Text.quoted raw
  | .startBlock name fault => name ++ ": Configuration error: " ++ fault.message
  | .levelTooHigh => "link.compression_level must be between 0 and 9"
  | .obfuscationUnsupported identifier =>
    "provisioning.interfaces[" ++ identifier ++
      "].advanced_security is only supported with core.wireguard_mode \"amneziawg\""
  | .document issue => "Failed to parse config file: " ++ issue.message .toml
  | .unreadable fault => "Failed to read config file: " ++ fault.message
  | .other text => text

/-- What an operation needs and does not find. -/
inductive Requirement
  | peer
  | sameInterface (peerId interfaceId : String)
  | obfuscation (interfaceId : String)
  | linkScheme
  | plainPath (path : String)
  | other (text : String)
  deriving DecidableEq, Repr

/-- The wording of a requirement that is not met. -/
def Requirement.message : Requirement → String
  | .peer => "missing peer"
  | .sameInterface peerId interfaceId =>
    "peer " ++ peerId ++ " does not belong to interface " ++ interfaceId
  | .obfuscation interfaceId => "interface " ++ interfaceId ++ " has no advanced security"
  | .linkScheme => "link does not start with vpn://"
  | .plainPath path => "invalid file path " ++ Text.quoted path
  | .other text => text

/-- Why bytes do not hold what they should. -/
inductive FramingFault
  | frame (fault : FrameFault)
  | encoding (reason : Base64.Reason)
  | other (text : String)
  deriving DecidableEq, Repr

/-- The wording of a framing fault. -/
def FramingFault.message : FramingFault → String
  | .frame fault => fault.message
  | .encoding reason => reason.message
  | .other text => text

/-- What is not stored. -/
inductive Missing
  | interface (identifier : String)
  | peer (identifier : String)
  | other (text : String)
  deriving DecidableEq, Repr

/-- The wording of what is missing. -/
def Missing.message : Missing → String
  | .interface identifier => "interface " ++ identifier
  | .peer identifier => "peer " ++ identifier
  | .other text => text

/-- Why a caller may not do something. -/
inductive Denial
  | nobody
  | notAdministrator (user : String)
  | notOwner (user owner : String)
  | other (text : String)
  deriving DecidableEq, Repr

/-- The wording of a denial. -/
def Denial.message : Denial → String
  | .nobody => "missing user information"
  | .notAdministrator user => "user " ++ user ++ " is not an administrator"
  | .notOwner user owner => "user " ++ user ++ " may not access data of " ++ owner
  | .other text => text

/-- What an operation fails with. -/
inductive Error
  | settings (fault : SettingsFault)
  | validation (objection : Objection)
  | precondition (requirement : Requirement)
  | serialization (issue : Issue)
  | framing (fault : FramingFault)
  | file (fault : FileFault)
  | database (fault : DatabaseFault)
  | missing (what : Missing)
  | denied (denial : Denial)
  | cancelled
  | context (doing : String) (error : Error)

namespace Error

/-- The error inside all contexts. -/
def root : Error → Error
  | .context _ error => error.root
  | error => error

/-- The wording of an error. -/
def message : Error → String
  | .settings fault => "Configuration error: " ++ fault.message
  | .validation objection => "Validation error: " ++ objection.text
  | .precondition requirement => "Precondition failed: " ++ requirement.message
  | .serialization issue => "Serialization error: " ++ issue.message .jsonText
  | .framing fault => "Binary framing error: " ++ fault.message
  | .file fault => "IO error: " ++ fault.message
  | .database fault => "Database error: " ++ fault.message
  | .missing what => "Not found: " ++ what.message
  | .denied denial => "Unauthorized: " ++ denial.message
  | .cancelled => "operation cancelled"
  | .context doing error => doing ++ ": " ++ error.message

/-- The wordings of what an error goes back to, the nearest first. -/
def causes : Error → List String
  | .validation objection => [objection.text]
  | .serialization issue => [issue.message .jsonText]
  | .framing fault => [fault.message]
  | .file fault => [fault.message]
  | .database fault => fault.message :: fault.causes
  | .context _ error => error.message :: error.causes
  | _ => []

/-- A result, with a context around its error. -/
def within {α : Type} (doing : String) (result : Except Error α) : Except Error α :=
  result.mapError (.context doing)

/-- Whether something was not stored. -/
def isMissing (e : Error) : Bool :=
  match e.root with
  | .missing _ => true
  | _ => false

/-- Whether the caller was not allowed to do it. -/
def isDenied (e : Error) : Bool :=
  match e.root with
  | .denied _ => true
  | _ => false

/-- Whether the operation was cancelled. -/
def isCancelled (e : Error) : Bool :=
  match e.root with
  | .cancelled => true
  | _ => false

end Error

end TunnelKeeper
