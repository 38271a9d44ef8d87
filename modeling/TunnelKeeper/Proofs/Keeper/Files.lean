import TunnelKeeper.Proofs.Keeper.Quiet
import TunnelKeeper.Proofs.Store.Refinement

/-!
# What the keeper of the files does

The files are taken as a map from paths to contents, and nothing that the keeper calls fails
(`Keeps`). Then every announcement has an effect on the map that depends on the store alone
(`publish_saved_files`, `publish_peers_changed_files`, `publish_deleted_files`): the file of an
interface that wants one is written as it is wanted (`wanted?`), the file of a deleted interface
that wanted one is removed, and nothing else happens.
-/

namespace TunnelKeeper

open Text

/-- Files by their paths. -/
abbrev FileMap := String → Option (List UInt8)

/-- The storage in which every write and every removal succeeds. -/
def Storage.ofMap : Storage FileMap where
  prepare _ files := (.ok (), files)
  write path content files := (.ok (), Store.update files path (some content))
  delete path files := (.ok (), Store.update files path none)

namespace Keeper

open Act

variable {s : Services FileMap} {w : World FileMap}

/-- The keeper listens to everything, and none of its calls fails. -/
structure Keeps (s : Services FileMap) : Prop where
  bus : s.bus = Bus.empty.subscribeAll .fileKeeper
  storage : s.storage = Storage.ofMap
  interface : ∀ made, s.fault? made .interface = none
  interfaceAndPeers : ∀ made, s.fault? made .interfaceAndPeers = none
  renderInterface : ∀ made, s.fault? made .renderInterface = none
  writeFile : ∀ made, s.fault? made .writeFile = none
  deleteFile : ∀ made, s.fault? made .deleteFile = none

/-! ## The wanted files -/

/-- The path of an interface's file. -/
def filePath (id : InterfaceId) : String := id ++ ".conf"

/-- No two interfaces have one file. -/
theorem file_path_inj {id id' : InterfaceId} : filePath id = filePath id' ↔ id = id' := by
  unfold filePath
  constructor
  · intro h
    have hchars := congrArg String.toList h
    rw [String.toList_append, String.toList_append] at hchars
    exact String.toList_injective (List.append_cancel_right hchars)
  · exact fun h => by rw [h]

/-- The file that an interface wants, if it is stored and wants one: its configuration with its
peers as they are stored. -/
def wanted? (s : Services FileMap) (store : Store) (id : InterfaceId) : Option (List UInt8) :=
  match store.interfaceAndPeers store false id with
  | .ok (i, peers) =>
    if i.saveConfig then some (encodeUtf8 (s.renderInterface i peers).toList) else none
  | .error _ => none

/-- Some files with the file of an interface as it is wanted, if it is. -/
def refreshed (s : Services FileMap) (store : Store) (id : InterfaceId) (files : FileMap) :
    FileMap :=
  match wanted? s store id with
  | some content => Store.update files (filePath id) (some content)
  | none => files

/-- What an interface wants depends on itself and its peers. -/
theorem wanted_congr {store store' : Store} {id : InterfaceId}
    (hinterface : store'.interface false id = store.interface false id)
    (hpeers : store'.peersOf false id = store.peersOf false id) :
    wanted? s store' id = wanted? s store id := by
  unfold wanted? Store.interfaceAndPeers
  rw [hinterface, hpeers]

theorem wanted_of_missing {store : Store} {id : InterfaceId} {e : Error}
    (h : store.interface false id = .error e) : wanted? s store id = none := by
  unfold wanted? Store.interfaceAndPeers
  rw [h]
  rfl

/-- A stored interface wants a file exactly if it says so. -/
theorem wanted_of_stored {store : Store} (hstore : store.Consistent) {id : InterfaceId}
    {i : Interface} (h : store.interface false id = .ok i) :
    ∃ peers, store.interfaceAndPeers store false id = .ok (i, peers) ∧
      wanted? s store id =
        if i.saveConfig then some (encodeUtf8 (s.renderInterface i peers).toList) else none := by
  obtain ⟨peers, hpeers, -⟩ := Store.peers_of_eq hstore id
  have hread : store.interfaceAndPeers store false id = .ok (i, peers) := by
    unfold Store.interfaceAndPeers
    rw [h, hpeers]
    rfl
  refine ⟨peers, hread, ?_⟩
  unfold wanted?
  rw [hread]

/-- An interface is found under its identifier. -/
theorem identifier_of_interface {store : Store} (hstore : store.Consistent) {id : InterfaceId}
    {i : Interface} (h : store.interface false id = .ok i) : i.identifier = id := by
  rw [Store.interface_eq hstore] at h
  cases hvalue : (Store.contents store).interfaces id with
  | none =>
      rw [hvalue] at h
      cases h
  | some j =>
      rw [hvalue] at h
      cases h
      exact (Store.represents_contents hstore).interface_keys id i hvalue

/-! ## What the keeper does -/

/-- The token of the keeper's own requests lasts. -/
theorem is_cancelled_system (w : World FileMap) : isCancelled .system w = false :=
  is_cancelled_of_lasting rfl w

section

variable (hkeeps : Keeps s)
include hkeeps

/-- The file of an interface is written as its configuration. -/
theorem persist_files {id : InterfaceId} {i : Interface} {peers : List Peer}
    (hread : w.store.interfaceAndPeers w.store false id = .ok (i, peers)) :
    ∃ w', persist .system id s w = (.ok (), w') ∧ w'.store = w.store ∧
      w'.files = Store.update w.files i.fileName
        (some (encodeUtf8 (s.renderInterface i peers).toList)) := by
  have hfetch : interfaceAndPeers .system id s w =
      (.ok (i, peers), { w with calls := .interfaceAndPeers :: w.calls }) := by
    rw [← hread]
    exact query_of_no_fault hkeeps.interfaceAndPeers
  unfold persist
  rw [bind_ok (checkpoint_ok (is_cancelled_system w)), bind_ok (within_ok hfetch)]
  simp only
  rw [bind_ok (checkpoint_ok (is_cancelled_system _))]
  have hrender : ∀ v : World FileMap, Act.renderInterface i peers s v =
      (.ok (s.renderInterface i peers), { v with calls := .renderInterface :: v.calls }) :=
    fun v => call_of_no_fault hkeeps.renderInterface
  rw [bind_ok (within_ok (hrender _)), bind_ok (checkpoint_ok (is_cancelled_system _))]
  have hwrite : ∀ (v : World FileMap) (path : String) (content : List UInt8),
      writeFile path content s v = (.ok (), { v with
        files := Store.update v.files path (some content), calls := .writeFile :: v.calls }) := by
    intro v path content
    unfold writeFile
    rw [call_of_no_fault hkeeps.writeFile, hkeeps.storage]
    rfl
  exact ⟨_, within_ok (hwrite _ _ _), rfl, rfl⟩

/-- The file of a stored interface is brought to what is wanted. -/
theorem refresh_files (hstore : w.store.Consistent) (announced : InterfaceId) {id : InterfaceId}
    {i : Interface} (hstored : w.store.interface false id = .ok i) :
    ∃ w', (if i.saveConfig then refreshFile announced id else pure () : Act FileMap Unit) s w =
        (.ok (), w') ∧ w'.store = w.store ∧ w'.files = refreshed s w.store id w.files := by
  obtain ⟨peers, hread, hwanted⟩ := wanted_of_stored (s := s) hstore hstored
  unfold refreshed
  rw [hwanted]
  by_cases hwants : i.saveConfig = true
  · obtain ⟨w', hpersist, hsame, hfiles⟩ := persist_files hkeeps hread
    have hattempt : attempt (persist .system id) s w = (.ok (.ok ()), w') := by
      unfold attempt
      rw [hpersist]
    refine ⟨w', ?_, hsame, ?_⟩
    · rw [if_pos hwants]
      unfold refreshFile
      rw [bind_ok hattempt]
      rfl
    · rw [hfiles, if_pos hwants]
      unfold Interface.fileName filePath
      rw [identifier_of_interface hstore hstored]
  · rw [if_neg hwants, if_neg hwants]
    exact ⟨w, rfl, rfl, rfl⟩

/-- After a save, the file of the interface is as it is wanted. -/
theorem interface_saved_files (hstore : w.store.Consistent) {i j : Interface}
    (hstored : w.store.interface false i.identifier = .ok j) (hsame : j.saveConfig = i.saveConfig) :
    ∃ w', interfaceSaved i s w = (.ok (), w') ∧ w'.store = w.store ∧
      w'.files = refreshed s w.store i.identifier w.files := by
  unfold interfaceSaved
  rw [← hsame]
  exact refresh_files hkeeps hstore i.identifier hstored

/-- After a change of its peers, the file of an interface is as it is wanted. -/
theorem peers_changed_files (hstore : w.store.Consistent) (id : InterfaceId) :
    ∃ w', peersChanged id s w = (.ok (), w') ∧ w'.store = w.store ∧
      w'.files = refreshed s w.store id w.files := by
  have hlook : attempt (interface .system id) s w =
      (.ok (w.store.interface false id), { w with calls := .interface :: w.calls }) := by
    unfold attempt interface
    rw [query_of_no_fault hkeeps.interface]
    rfl
  unfold peersChanged
  cases hfound : w.store.interface false id with
  | error e =>
      rw [hfound] at hlook
      rw [bind_ok hlook]
      refine ⟨_, rfl, rfl, ?_⟩
      unfold refreshed
      rw [wanted_of_missing hfound]
  | ok i =>
      rw [hfound] at hlook
      rw [bind_ok hlook]
      simp only
      rw [identifier_of_interface hstore hfound]
      exact refresh_files hkeeps (w := { w with calls := .interface :: w.calls }) hstore id hfound

/-- After a deletion, there is no file of the interface if it wanted one. -/
theorem interface_deleted_files (i : Interface) :
    ∃ w', interfaceDeleted i s w = (.ok (), w') ∧ w'.store = w.store ∧
      w'.files = if i.saveConfig then Store.update w.files i.fileName none else w.files := by
  have hdelete : deleteFile i.fileName s w = (.ok (), { w with
      files := Store.update w.files i.fileName none, calls := .deleteFile :: w.calls }) := by
    unfold deleteFile
    rw [call_of_no_fault hkeeps.deleteFile, hkeeps.storage]
    rfl
  have hremove : attempt (unpersist .system i.fileName) s w = (.ok (.ok ()), { w with
      files := Store.update w.files i.fileName none, calls := .deleteFile :: w.calls }) := by
    unfold attempt unpersist
    rw [bind_ok (checkpoint_ok (is_cancelled_system w)), within_ok hdelete]
  unfold interfaceDeleted
  by_cases hwants : i.saveConfig = true
  · rw [if_pos hwants, if_pos hwants, bind_ok hremove]
    exact ⟨_, rfl, rfl, rfl⟩
  · rw [if_neg hwants, if_neg hwants]
    exact ⟨_, rfl, rfl, rfl⟩

/-! ## Announcements -/

/-- An announcement does to the files what the keeper does when it is told, and nothing else. -/
theorem publish_files {e : Event} {files : FileMap} {w' : World FileMap}
    (hhandle : ∃ v, handle e s { w with announcements := w.announcements ++ [e] } = (.ok (), v) ∧
      v.store = w.store ∧ v.files = files)
    (hpublish : publish e s w = (.ok (), w')) : w'.store = w.store ∧ w'.files = files := by
  obtain ⟨v, hhandle, hstore, hfiles⟩ := hhandle
  have hsubscribed : s.bus.subscribers e.topic = [.fileKeeper] := by
    rw [hkeeps.bus]
    cases e <;> rfl
  unfold publish at hpublish
  rw [hsubscribed, deliverAll, bind_ok (show deliver e .fileKeeper s _ = (.ok (), v) from hhandle)]
    at hpublish
  cases hpublish
  exact ⟨hstore, hfiles⟩

theorem publish_saved_files (hstore : w.store.Consistent) {e : Event} {i j : Interface}
    {w' : World FileMap} (he : e = .created i ∨ e = .updated i)
    (hstored : w.store.interface false i.identifier = .ok j) (hsame : j.saveConfig = i.saveConfig)
    (hpublish : publish e s w = (.ok (), w')) :
    w'.store = w.store ∧ w'.files = refreshed s w.store i.identifier w.files := by
  have hhandle : handle e = (interfaceSaved i : Act FileMap Unit) := by
    rcases he with rfl | rfl <;> rfl
  refine publish_files hkeeps ?_ hpublish
  rw [hhandle]
  exact interface_saved_files hkeeps (w := { w with announcements := w.announcements ++ [e] })
    hstore hstored hsame

theorem publish_peers_changed_files (hstore : w.store.Consistent) {id : InterfaceId}
    {w' : World FileMap} (hpublish : publish (.peersChanged id) s w = (.ok (), w')) :
    w'.store = w.store ∧ w'.files = refreshed s w.store id w.files := by
  refine publish_files hkeeps ?_ hpublish
  exact peers_changed_files hkeeps
    (w := { w with announcements := w.announcements ++ [.peersChanged id] }) hstore id

theorem publish_deleted_files {i : Interface} {w' : World FileMap}
    (hpublish : publish (.deleted i) s w = (.ok (), w')) :
    w'.store = w.store ∧ w'.files =
      if i.saveConfig then Store.update w.files i.fileName none else w.files := by
  refine publish_files hkeeps ?_ hpublish
  exact interface_deleted_files hkeeps
    (w := { w with announcements := w.announcements ++ [.deleted i] }) i

end

end Keeper

end TunnelKeeper
