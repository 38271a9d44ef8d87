import TunnelKeeper.Error
/-!
# Notices

What goes into the log: things that look like mistakes, and failures that do not stop anything.
-/

namespace TunnelKeeper

/-- How serious a notice is. -/
inductive Severity
  | warning
  | failure
  deriving DecidableEq, Repr

/-- An entry of the log. -/
inductive Notice
  | configMissing (path : String)
  | doubtful (warning : Warning)
  | notPersisted (interfaceId : String) (error : Error)
  | notRemoved (interfaceId : String) (error : Error)
  | notLoaded (interfaceId : String) (error : Error)

namespace Notice

/-- How serious a notice is. -/
def severity : Notice → Severity
  | .configMissing _ => .warning
  | .doubtful _ => .warning
  | .notPersisted _ _ => .failure
  | .notRemoved _ _ => .failure
  | .notLoaded _ _ => .failure

/-- The wording of a notice. -/
def message : Notice → String
  | .configMissing path => "Config file " ++ path ++ " not found, using default values"
  | .doubtful warning => "provisioning: " ++ warning.hint.message
  | .notPersisted _ error =>
    "failed to automatically persist interface config: " ++ error.message
  | .notRemoved _ error => "failed to remove persisted interface config: " ++ error.message
  | .notLoaded _ error => "failed to load interface: " ++ error.message

/-- What a notice is about, under the name of that. -/
def subject? : Notice → Option (String × String)
  | .configMissing _ => none
  | .doubtful warning => some ("field", warning.field)
  | .notPersisted interfaceId _ => some ("interface", interfaceId)
  | .notRemoved interfaceId _ => some ("interface", interfaceId)
  | .notLoaded interfaceId _ => some ("interface", interfaceId)

end Notice

end TunnelKeeper
