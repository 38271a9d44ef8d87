import TunnelKeeper.Error
import TunnelKeeper.Peer
/-!
# Callers

On whose behalf an operation runs. Administrators may do everything, other users may use what they
own, and a caller without a user may do nothing.
-/

namespace TunnelKeeper

/-- A known user. -/
structure User where
  identifier : UserId
  isAdministrator : Bool
  deriving DecidableEq, Repr

/-- On whose behalf an operation runs. -/
structure Caller where
  user : Option User
  deriving DecidableEq, Repr

namespace Caller

/-- The caller of start-up tasks and event handlers. -/
def system : Caller := ⟨some ⟨"_system", true⟩⟩

/-- A caller about whom nothing is known. -/
def anonymous : Caller := ⟨none⟩

/-- Fails unless the caller is an administrator. -/
def requireAdministrator (c : Caller) : Except Error Unit :=
  match c.user with
  | some user =>
    if user.isAdministrator then .ok () else .error (.denied (.notAdministrator user.identifier))
  | none => .error (.denied .nobody)

/-- Fails unless the caller is an administrator or the owner. -/
def requireOwner (c : Caller) (owner : UserId) : Except Error Unit :=
  match c.user with
  | some user =>
    if user.isAdministrator ∨ user.identifier = owner then .ok ()
    else .error (.denied (.notOwner user.identifier owner))
  | none => .error (.denied .nobody)

end Caller

end TunnelKeeper
