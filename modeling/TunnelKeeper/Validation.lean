import TunnelKeeper.Net.Network
/-!
# Findings of a validation

What a check of settings can object to: complaints, which stop it, and hints, which do not. Both
name the field they are about.
-/

namespace TunnelKeeper

open Number

/-- What is wrong with a field. -/
inductive Complaint
  | junkSizesMissing
  | junkSizesReversed
  | headerUnreadable (raw : String)
  | packetBlank
  | packetLong (limit : Nat)
  | identifierBlank
  | identifierRepeated (identifier : String)
  | modeUnknown (raw : String)
  | modeInvalid
  | privateKeyInvalid
  | network (fault : BlockFault)
  | other (text : String)
  deriving DecidableEq, Repr

/-- The wording of a complaint. -/
def Complaint.message : Complaint → String
  | .junkSizesMissing => "jmin and jmax must be > 0 when jc > 0"
  | .junkSizesReversed => "jmin must be <= jmax"
  | .headerUnreadable raw => "must be a uint32 (decimal or 0x...), got " ++ Text.quoted raw
  | .packetBlank => "must not be empty"
  | .packetLong limit => "must be shorter than " ++ decimal limit ++ " bytes"
  | .identifierBlank => "must not be empty"
  | .identifierRepeated identifier => Text.quoted identifier ++ " is not unique"
  | .modeUnknown raw => "must be one of: server, client, any (got " ++ Text.quoted raw ++ ")"
  | .modeInvalid => "invalid mode"
  | .privateKeyInvalid => "must be a base64 encoded 32 byte key"
  | .network fault => "Configuration error: " ++ fault.message
  | .other text => text

/-- A complaint about a field. -/
structure Objection where
  field : String
  complaint : Complaint
  deriving DecidableEq, Repr

/-- The wording of an objection. -/
def Objection.text (o : Objection) : String := o.field ++ ": " ++ o.complaint.message

/-- What looks like a mistake, but is allowed. -/
inductive Hint
  | junkDisabled
  | resolversNotInherited
  | mtuNotInherited (mtu : UInt32)
  deriving DecidableEq, Repr

/-- The wording of a hint. -/
def Hint.message : Hint → String
  | .junkDisabled => "jmin/jmax set but jc=0; junk packets disabled"
  | .resolversNotInherited =>
    "interface dns set but peer_def_dns is empty; peers will not inherit dns"
  | .mtuNotInherited mtu =>
    "interface mtu " ++ decimal mtu.toNat ++
      " set but peer_def_mtu is not set; peers will use default mtu"

/-- A hint about a field. -/
structure Warning where
  field : String
  hint : Hint
  deriving DecidableEq, Repr

/-- The wording of a warning. -/
def Warning.text (w : Warning) : String := w.field ++ ": " ++ w.hint.message

end TunnelKeeper
