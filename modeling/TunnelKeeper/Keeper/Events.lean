import TunnelKeeper.Keeper.Configuration
/-!
# Announcements

Changes of interfaces are announced on the bus. If a storage path is set, the keeper listens and
keeps the files of those interfaces in step that want to be saved. What goes wrong then is noted
and stops nobody.
-/

namespace TunnelKeeper

namespace Keeper

open Act

variable {σ : Type}

/-- Writes the file of an interface after a change that was announced for `announced`. -/
def refreshFile (announced id : InterfaceId) : Act σ Unit := do
  match ← attempt (persist .system id) with
  | .ok () => pure ()
  | .error e => notice (.notPersisted announced e)

/-- What is done when an interface was saved. -/
def interfaceSaved (i : Interface) : Act σ Unit :=
  if i.saveConfig then refreshFile i.identifier i.identifier else pure ()

/-- What is done when an interface was deleted. -/
def interfaceDeleted (i : Interface) : Act σ Unit :=
  if i.saveConfig then do
    match ← attempt (unpersist .system i.fileName) with
    | .ok () => pure ()
    | .error e => notice (.notRemoved i.identifier e)
  else pure ()

/-- What is done when the peers of an interface were changed. -/
def peersChanged (id : InterfaceId) : Act σ Unit := do
  match ← attempt (interface .system id) with
  | .ok i => if i.saveConfig then refreshFile id i.identifier else pure ()
  | .error e => notice (.notLoaded id e)

/-- What the keeper of the files does when it is told of a change. -/
def handle : Event → Act σ Unit
  | .created i => interfaceSaved i
  | .updated i => interfaceSaved i
  | .deleted i => interfaceDeleted i
  | .peersChanged id => peersChanged id

/-- Tells a listener of a change. -/
def deliver (e : Event) : Listener → Act σ Unit
  | .fileKeeper => handle e

/-- Tells some listeners of a change, one after the other. -/
def deliverAll (e : Event) : List Listener → Act σ Unit
  | [] => pure ()
  | l :: rest => do
    deliver e l
    deliverAll e rest

/-- Announces a change. -/
def publish (e : Event) : Act σ Unit := fun s w =>
  deliverAll e (s.bus.subscribers e.topic) s { w with announcements := w.announcements ++ [e] }

/-- The bus at the start. The keeper listens if a storage path is set, whose directory is created
then. -/
def openBus (settings : Settings) (storage : Storage σ) (files : σ) :
    Except Error (Bus Listener) × σ :=
  let path := Text.trim settings.advanced.storagePath
  if path = "" then (.ok .empty, files)
  else
    match storage.prepare path files with
    | (.ok (), files) => (.ok (Bus.empty.subscribeAll .fileKeeper), files)
    | (.error fault, files) =>
      (.error (.context ("failed to create configuration storage path " ++ path) (.file fault)),
        files)

end Keeper

end TunnelKeeper
