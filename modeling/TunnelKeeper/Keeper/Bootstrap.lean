import TunnelKeeper.Keeper.Events
import TunnelKeeper.Provisioning.Build
import TunnelKeeper.Provisioning.Check
/-!
# Bootstrapping

The interfaces of the settings are created once, on an empty store. They are built, saved and
announced one after the other; a failure stops that and leaves what was saved before it.
-/

namespace TunnelKeeper

namespace Keeper

open Act

variable {σ : Type}

/-- Saves an interface and announces it. -/
def provision (r : Request) (i : Interface) : Act σ Unit := do
  checkpoint r
  within ("failed to save interface " ++ i.identifier) (saveInterface r i)
  publish (.created i)

/-- Builds and provisions the interfaces of some entries. The first of them stands at `place`, and
its new keys, if it needs any, are those of that place. -/
def provisionAll (r : Request) (s : AdvancedSettings) (newKeys : Nat → KeyPair) :
    Nat → Allocator → List Entry → Act σ Unit
  | _, _, [] => pure ()
  | place, a, e :: rest => do
    let (i, a) ← lift (e.build s (newKeys place) a)
    provision r i
    provisionAll r s newKeys (place + 1) a rest

/-- Notes what looks like a mistake. -/
def noteWarnings : List Warning → Act σ Unit
  | [] => pure ()
  | w :: rest => do
    notice (.doubtful w)
    noteWarnings rest

/-- Creates the interfaces of some entries on an empty store. -/
def provisionEntries (r : Request) (entries : List Entry) : Act σ Unit := fun s w =>
  (do
    let warnings ← lift ((Entry.check entries).mapError .validation)
    noteWarnings warnings
    let a ← lift (Entry.allocator s.settings.advanced entries)
    provisionAll r s.settings.advanced s.newKeys 0 a entries : Act σ Unit) s w

/-- Creates the interfaces of some entries, unless there are none or an interface is stored
already. Says whether it did. -/
def bootstrap (r : Request) (entries : List Entry) : Act σ Bool := do
  lift r.caller.requireAdministrator
  if entries = [] then pure false
  else do
    checkpoint r
    let existing ← within "failed to list existing interfaces" (interfaces r)
    if existing = [] then do
      provisionEntries r entries
      pure true
    else pure false

end Keeper

end TunnelKeeper
