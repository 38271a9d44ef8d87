import TunnelKeeper.Proofs.Files.Storage
import TunnelKeeper.Proofs.Keeper.FilesInStep
import TunnelKeeper.Proofs.Keeper.Unheard
import TunnelKeeper.Proofs.Provisioning.Check

/-!
# Files of a run

While interfaces are provisioned, the keeper writes the file of every interface that wants one,
right after it was saved. Whatever goes wrong then stops nobody (`bootstrap_unheard`). A file whose
three calls succeed holds the configuration of the interface as it is stored, without peers
(`publish_created_written`), and keeps it to the end of the run unless a later interface of the run
has the same file (`bootstrap_files`).
-/

namespace TunnelKeeper

open Text

namespace Keeper

open Act

variable {σ : Type}

/-- The content of the file of an interface that has no peers. -/
def fileContent (s : Services σ) (i : Interface) : List UInt8 :=
  encodeUtf8 (s.renderInterface i []).toList

/-- Whatever it takes to write the file of an interface succeeds from a moment on: the interface is
fetched and rendered, and the file is written. -/
structure CanWrite (s : Services σ) (w : World σ) (i : Interface) : Prop where
  fetched : s.fault? w.calls.length .interfaceAndPeers = none
  rendered : s.fault? (w.calls.length + 1) .renderInterface = none
  tried : s.fault? (w.calls.length + 2) .writeFile = none
  written : (s.storage.write (filePath i.identifier) (fileContent s i) w.files).1 = .ok ()

variable {r : Request} {s : Services σ} {w : World σ} {i j : Interface}

/-! ## One file -/

/-- A file is written as the interface is stored, or a call fails before and no file is touched. -/
theorem persist_cases {id : InterfaceId}
    (hread : w.store.interfaceAndPeers w.store false id = .ok (j, [])) :
    (persist .system id s w).2.files =
        (s.storage.write (filePath j.identifier) (fileContent s j) w.files).2 ∨
      (persist .system id s w).2.files = w.files ∧ ¬ CanWrite s w j := by
  have hlasts : ∀ v : World σ, isCancelled .system v = false := is_cancelled_of_lasting rfl
  unfold persist
  rw [bind_ok (checkpoint_ok (hlasts w))]
  cases hfetch : s.fault? w.calls.length .interfaceAndPeers with
  | some e =>
      have hfails : interfaceAndPeers .system id s w =
          (.error e, { w with calls := .interfaceAndPeers :: w.calls }) := by
        unfold interfaceAndPeers query
        exact call_of_fault hfetch
      rw [bind_error (within_error hfails)]
      exact .inr ⟨rfl, fun h => Option.some_ne_none e (hfetch.symm.trans h.fetched)⟩
  | none =>
      have hfetched : interfaceAndPeers .system id s w =
          (.ok (j, []), { w with calls := .interfaceAndPeers :: w.calls }) := by
        unfold interfaceAndPeers query
        rw [call_of_none hfetch, ← hread]
        rfl
      rw [bind_ok (within_ok hfetched)]
      simp only
      rw [bind_ok (checkpoint_ok (hlasts _))]
      cases hrender : s.fault? (w.calls.length + 1) .renderInterface with
      | some e =>
          have hfails : Act.renderInterface j [] s
              { w with calls := .interfaceAndPeers :: w.calls } = (.error e,
                { w with calls := .renderInterface :: .interfaceAndPeers :: w.calls }) :=
            call_of_fault hrender
          rw [bind_error (within_error hfails)]
          exact .inr ⟨rfl, fun h => Option.some_ne_none e (hrender.symm.trans h.rendered)⟩
      | none =>
          have hrendered : Act.renderInterface j [] s
              { w with calls := .interfaceAndPeers :: w.calls } = (.ok (s.renderInterface j []),
                { w with calls := .renderInterface :: .interfaceAndPeers :: w.calls }) :=
            call_of_none hrender
          rw [bind_ok (within_ok hrendered), bind_ok (checkpoint_ok (hlasts _))]
          cases hwrite : s.fault? (w.calls.length + 2) .writeFile with
          | some e =>
              refine .inr ⟨?_, fun h => Option.some_ne_none e (hwrite.symm.trans h.tried)⟩
              unfold writeFile
              rw [within_error (call_of_fault hwrite)]
          | none =>
              refine .inl ?_
              unfold writeFile within
              rw [call_of_none hwrite]
              rfl

/-- What goes wrong when a file is refreshed becomes a notice, and no file. -/
theorem refresh_file_files (announced id : InterfaceId) (s : Services σ) (w : World σ) :
    (refreshFile announced id s w).2.files = (persist .system id s w).2.files := by
  have hattempt : attempt (persist .system id) s w =
      (.ok (persist .system id s w).1, (persist .system id s w).2) := rfl
  unfold refreshFile
  rw [bind_ok hattempt]
  cases (persist .system id s w).1 with
  | ok _ => rfl
  | error e => rfl

/-! ## One announcement -/

section

variable (hbus : s.bus = Bus.empty.subscribeAll .fileKeeper)
include hbus

/-- The keeper alone is told of an interface that was created. -/
theorem publish_created_files (i : Interface) (w : World σ) :
    (publish (.created i) s w).2.files =
      (interfaceSaved i s { w with announcements := w.announcements ++ [.created i] }).2.files := by
  obtain ⟨_, w', hsaved, -, -⟩ := harmless_interface_saved i s
    { w with announcements := w.announcements ++ [Event.created i] }
  have hsubscribed : s.bus.subscribers .created = [.fileKeeper] := by
    rw [hbus]
    rfl
  have htold : deliver (.created i) .fileKeeper s
      { w with announcements := w.announcements ++ [Event.created i] } = (.ok (), w') := hsaved
  unfold publish
  rw [show (Event.created i).topic = .created from rfl, hsubscribed, deliverAll, bind_ok htold,
    hsaved]
  rfl

/-- The file of an interface that was created is written, if it wants one and it can be. -/
theorem publish_created_writes
    (hread : w.store.interfaceAndPeers w.store false i.identifier = .ok (j, []))
    (hwants : i.saveConfig = true) (hcan : CanWrite s w j) :
    (publish (.created i) s w).2.files =
      (s.storage.write (filePath j.identifier) (fileContent s j) w.files).2 := by
  rw [publish_created_files hbus]
  unfold interfaceSaved
  rw [if_pos hwants, refresh_file_files]
  rcases persist_cases (s := s)
    (w := { w with announcements := w.announcements ++ [.created i] }) hread with
    hfiles | ⟨-, hcannot⟩
  · exact hfiles
  · exact absurd ⟨hcan.fetched, hcan.rendered, hcan.tried, hcan.written⟩ hcannot

variable {content? : σ → String → Option (List UInt8)} {Apart : String → String → Prop}
  (hsink : s.storage.Shows content? Apart)
include hsink

/-- The file of an interface that was created holds what it wants, if it wants one and it can be
written. -/
theorem publish_created_written
    (hread : w.store.interfaceAndPeers w.store false i.identifier = .ok (j, []))
    (hwants : i.saveConfig = true) (hcan : CanWrite s w j) :
    content? (publish (.created i) s w).2.files (filePath j.identifier) =
      some (fileContent s j) := by
  rw [publish_created_writes hbus hread hwants hcan]
  exact hsink.written _ _ _ hcan.written

/-- Files that are apart from that of an interface that was created stay as they are, and so do all
files if it wants none. -/
theorem publish_created_kept
    (hread : w.store.interfaceAndPeers w.store false i.identifier = .ok (j, [])) {path : String}
    (hapart : i.saveConfig = true → Apart (filePath j.identifier) path) :
    content? (publish (.created i) s w).2.files path = content? w.files path := by
  rw [publish_created_files hbus]
  unfold interfaceSaved
  by_cases hwants : i.saveConfig = true
  · rw [if_pos hwants, refresh_file_files]
    rcases persist_cases (s := s)
      (w := { w with announcements := w.announcements ++ [.created i] }) hread with
      hfiles | ⟨hfiles, -⟩
    · rw [hfiles]
      exact hsink.others _ _ _ _ (hapart hwants)
    · rw [hfiles]
  · rw [if_neg hwants]
    rfl

end

/-! ## Stores without peers -/

/-- A store that is consistent and holds no peers. -/
structure Peerless (store : Store) : Prop where
  consistent : store.Consistent
  peers : store.peers = []

/-- An interface that was put is read without peers, and leaves the store peerless. -/
theorem Peerless.put {store : Store} (h : Peerless store) (i : Interface) :
    Peerless (store.putInterfaceRow (.ofInterface i)) ∧
      (store.putInterfaceRow (.ofInterface i)).interfaceAndPeers
        (store.putInterfaceRow (.ofInterface i)) false i.identifier = .ok (i.settled, []) := by
  refine ⟨⟨h.consistent.put_interface i, h.peers⟩, ?_⟩
  have hnone : (store.putInterfaceRow (.ofInterface i)).peerRowsOf i.identifier = [] := by
    unfold Store.peerRowsOf Store.putInterfaceRow
    rw [h.peers]
    rfl
  unfold Store.interfaceAndPeers Store.peersOf
  rw [Store.interface_put_self h.consistent.interfaces_sorted, hnone]
  rfl

/-! ## A chain of interfaces -/

namespace Provisioned

variable {saved before after : List Interface} {final : World σ}

/-- A chain leaves the store peerless. -/
theorem peerless (hchain : Provisioned r s w saved final) (hpeerless : Peerless w.store) :
    Peerless final.store := by
  induction hchain with
  | none w => exact hpeerless
  | @next w put announced final i rest hsave hpublish _ ih =>
      refine ih ?_
      rw [(publish_ok hpublish).1, (save_interface_ok hsave).1]
      exact (hpeerless.put i).1

end Provisioned

/-- The moment of a chain right after an interface was saved, between some interfaces before it and
some after it. -/
def JustSaved (r : Request) (s : Services σ) (start : World σ) (before : List Interface)
    (i : Interface) (m : World σ) (after : List Interface) (finish : World σ) : Prop :=
  ∃ earlier announced, Provisioned r s start before earlier ∧
    saveInterface r i s earlier = (.ok (), m) ∧ publish (.created i) s m = (.ok (), announced) ∧
    Provisioned r s announced after finish

/-- Every interface of a chain has its moment. -/
theorem Provisioned.moment {before after : List Interface} {final : World σ}
    (hchain : Provisioned r s w (before ++ i :: after) final) :
    ∃ m, JustSaved r s w before i m after final := by
  induction before generalizing w with
  | nil =>
      cases hchain with
      | next hsave hpublish hrest => exact ⟨_, w, _, .none w, hsave, hpublish, hrest⟩
  | cons first before ih =>
      cases hchain with
      | next hsave hpublish hrest =>
          obtain ⟨m, earlier, announced, hbefore, hlater⟩ := ih hrest
          exact ⟨m, earlier, announced, .next hsave hpublish hbefore, hlater⟩

/-- Saving an interface touches no file. -/
theorem save_interface_files (r : Request) (i : Interface) (s : Services σ) (w : World σ) :
    (saveInterface r i s w).2.files = w.files := by
  unfold saveInterface change call
  cases s.fault? w.calls.length (.saveInterface i.identifier) with
  | some e => rfl
  | none => rfl

section

variable (hbus : s.bus = Bus.empty.subscribeAll .fileKeeper)
  {content? : σ → String → Option (List UInt8)} {Apart : String → String → Prop}
  (hsink : s.storage.Shows content? Apart)
include hbus hsink

/-- Files that are apart from those of a chain stay as they are. -/
theorem Provisioned.files_kept {saved : List Interface} {final : World σ}
    (hchain : Provisioned r s w saved final) (hpeerless : Peerless w.store) {path : String}
    (hapart : ∀ i ∈ saved, i.saveConfig = true → Apart (filePath i.identifier) path) :
    content? final.files path = content? w.files path := by
  induction hchain with
  | none w => rfl
  | @next w put announced final i rest hsave hpublish _ ih =>
      have hput := (save_interface_ok hsave).1
      have hfiles := save_interface_files r i s w
      obtain ⟨hkept, hread⟩ := hpeerless.put i
      rw [← hput] at hkept hread
      have hannounced := publish_created_kept hbus hsink hread
        (hapart i List.mem_cons_self : _ → Apart (filePath i.settled.identifier) path)
      rw [hpublish] at hannounced
      rw [hsave] at hfiles
      rw [ih ((publish_ok hpublish).1 ▸ hkept) fun j hj => hapart j (List.mem_cons_of_mem _ hj),
        hannounced, hfiles]

/-- At the end of a chain, the file of an interface holds what was wanted at its moment, unless a
later interface has the same file. -/
theorem JustSaved.file_written {start m finish : World σ} {before after : List Interface}
    (h : JustSaved r s start before i m after finish) (hpeerless : Peerless start.store)
    (hwants : i.saveConfig = true)
    (hapart : ∀ other ∈ after, other.saveConfig = true →
      Apart (filePath other.identifier) (filePath i.identifier))
    (hcan : CanWrite s m i.settled) :
    content? finish.files (filePath i.identifier) = some (fileContent s i.settled) := by
  obtain ⟨earlier, announced, hbefore, hsave, hpublish, hafter⟩ := h
  obtain ⟨hkept, hread⟩ := (hbefore.peerless hpeerless).put i
  rw [← (save_interface_ok hsave).1] at hkept hread
  have hwritten := publish_created_written hbus hsink hread hwants hcan
  rw [hpublish] at hwritten
  rw [hafter.files_kept hbus hsink ((publish_ok hpublish).1 ▸ hkept) hapart]
  exact hwritten

end

/-! ## Whole runs -/

/-- The world when the first interface is built: the interfaces were listed, and some notices
written. -/
def begun (w : World σ) (notices : List Notice) : World σ :=
  { w with calls := .interfaces :: w.calls, notices := notices }

/-- A run provisions interfaces in one chain, if any, and changes nothing before and behind it. -/
theorem bootstrap_chain (r : Request) (entries : List Entry) (s : Services σ) (w : World σ) :
    ∃ saved notices finish, Provisioned r s (begun w notices) saved finish ∧
      finish.Alike (bootstrap r entries s w).2 ∧
      ((bootstrap r entries s w).1 = .ok true → saved.length = entries.length) ∧
      (saved = [] ∨ ∃ warnings a, Entry.check entries = .ok warnings ∧
        Entry.buildAll s.settings.advanced s.newKeys 0 a (entries.take saved.length) =
          .ok saved) := by
  rcases bootstrap_cases r entries s w with
    ⟨hanswer, halike⟩ | ⟨-, hentries, listed, hlist, heq⟩
  · exact ⟨[], w.notices, _, .none _, ⟨halike.store, halike.files, halike.announcements⟩,
      fun h => absurd h hanswer, .inl rfl⟩
  · unfold interfaces query at hlist
    obtain ⟨_, hread, rfl⟩ := of_call_ok hlist
    obtain ⟨-, rfl⟩ := Prod.mk.inj hread
    rw [heq, say_true_eq]
    obtain ⟨saved, notices, finish, hchain, hfinish, -, hbuilt, hend⟩ :=
      provision_entries_spec r entries hentries s { w with calls := .interfaces :: w.calls }
    refine ⟨saved, notices, finish, hchain, hfinish, fun hanswer => hend.mp ?_,
      hbuilt.imp id fun ⟨warnings, a, hcheck, _, hall⟩ => ⟨warnings, a, hcheck, hall⟩⟩
    cases hresult : (provisionEntries r entries s { w with calls := .interfaces :: w.calls }).1 with
    | error e =>
        rw [hresult] at hanswer
        cases hanswer
    | ok _ => rfl

/-- What a run on an empty store leaves behind while the keeper listens. -/
structure Filed (r : Request) (entries : List Entry) (s : Services σ) (w : World σ)
    (content? : σ → String → Option (List UInt8)) (Apart : String → String → Prop)
    (notices : List Notice) (saved : List Interface) (finish : World σ) : Prop where
  /-- The interfaces were saved and announced in turn, and nothing else was changed. -/
  provisioned : Provisioned r s (begun w notices) saved finish
  alike : finish.Alike (bootstrap r entries s w).2
  /-- They are those of all entries if the run says that it did it. -/
  complete : (bootstrap r entries s w).1 = .ok true → saved.length = entries.length
  /-- They are stored, and nothing else is. -/
  stored : ∀ id j, (bootstrap r entries s w).2.store.interface false id = .ok j ↔
    ∃ i ∈ saved, i.identifier = id ∧ i.settled = j
  /-- They want a file as their entries say. An entry that does not say it means one exactly if a
  place for files is set. -/
  wants : saved.map (fun i => (i.identifier, i.saveConfig)) =
    (entries.take saved.length).map fun e =>
      (e.id, e.saveConfig.getD (Text.trim s.settings.advanced.storagePath ≠ ""))
  /-- The file of an interface that wants one, and that no later one shares, holds the interface as
  it is stored, without peers, if it could be written right after it was saved. -/
  written : ∀ before i after, saved = before ++ i :: after → i.saveConfig = true →
    (∀ other ∈ after, other.saveConfig = true →
      Apart (filePath other.identifier) (filePath i.identifier)) →
    ∃ m, JustSaved r s (begun w notices) before i m after finish ∧
      (CanWrite s m i.settled →
        content? (bootstrap r entries s w).2.files (filePath i.identifier) =
          some (fileContent s i.settled))
  /-- Files that no interface wants stay as they are. -/
  kept : ∀ path, (∀ i ∈ saved, i.saveConfig = true → Apart (filePath i.identifier) path) →
    content? (bootstrap r entries s w).2.files path = content? w.files path

/-- While the keeper listens, a run on an empty store has the same result and leaves the same store
behind as without listeners, whatever its calls come to. The files of the interfaces that it saved
are written as far as that is possible, and no other file is touched. -/
theorem bootstrap_files (r : Request) (entries : List Entry) (s : Services σ) (w : World σ)
    (content? : σ → String → Option (List UInt8)) (Apart : String → String → Prop)
    (hbus : s.bus = Bus.empty.subscribeAll .fileKeeper) (hstore : w.store = .empty)
    (hsteady : s.Steady) (hsink : s.storage.Shows content? Apart) :
    EndsAlike s (fun r => bootstrap r entries) r w w ∧
      ∃ notices saved finish, Filed r entries s w content? Apart notices saved finish := by
  refine ⟨bootstrap_unheard hsteady r entries w, ?_⟩
  obtain ⟨saved, notices, finish, hchain, halike, hcomplete, hbuilt⟩ :=
    bootstrap_chain r entries s w
  have hpeerless : Peerless (begun w notices).store :=
    ⟨hstore ▸ Store.consistent_empty, congrArg Store.peers hstore⟩
  have hwants : saved.map (fun i => (i.identifier, i.saveConfig)) =
      (entries.take saved.length).map fun e =>
        (e.id, e.saveConfig.getD (Text.trim s.settings.advanced.storagePath ≠ "")) := by
    rcases hbuilt with rfl | ⟨-, a, -, hbuilt⟩
    · rfl
    · exact Entry.wants_of_build_all hbuilt
  have hnodup : (saved.map Interface.identifier).Nodup := by
    rcases hbuilt with rfl | ⟨warnings, a, hcheck, hbuilt⟩
    · exact List.nodup_nil
    · exact Entry.ids_nodup_of_build_all hcheck hbuilt
  obtain ⟨hstored, hmissing⟩ := hchain.interface_eq hpeerless.consistent.interfaces_sorted hnodup
  refine ⟨notices, saved, finish, hchain, halike, hcomplete, fun id j => ?_, hwants,
    fun before i after hsaved hwant hapart => ?_, fun path hapart => ?_⟩
  · rw [halike.store]
    constructor
    · intro hread
      by_cases hid : ∃ i ∈ saved, i.identifier = id
      · obtain ⟨i, hi, rfl⟩ := hid
        rw [hstored i hi] at hread
        exact ⟨i, hi, rfl, Except.ok.inj hread⟩
      · have hnothing := hmissing id fun i hi heq => hid ⟨i, hi, heq⟩
        rw [hread, show (begun w notices).store = .empty from hstore] at hnothing
        cases hnothing
    · rintro ⟨i, hi, rfl, rfl⟩
      exact hstored i hi
  · subst hsaved
    obtain ⟨m, hmoment⟩ := hchain.moment
    refine ⟨m, hmoment, fun hcan => ?_⟩
    rw [halike.files]
    exact hmoment.file_written hbus hsink hpeerless hwant hapart hcan
  · rw [halike.files]
    exact hchain.files_kept hbus hsink hpeerless hapart

/-! ## Runs on a file tree -/

/-- A keeper below the root of a file tree, none of whose calls fails, and a configuration that
consists of the identifier. -/
def treeKeeper : Services FileTree where
  settings := { Settings.usual with
    advanced := { AdvancedSettings.usual with storagePath := "store" } }
  newKeys _ := .blank
  renderInterface i _ := i.identifier
  renderPeer _ _ := ""
  encodeQr _ := []
  storage := .below []
  bus := Bus.empty.subscribeAll .fileKeeper
  fault? _ _ := none

/-- No rows and no files. -/
def emptyWorld : World FileTree := ⟨.empty, .empty, [], [], []⟩

/-- The files of a run that succeeds, in which one interface wants a file and one does not. -/
theorem bootstrap_files_one_wanted :
    (bootstrap .system [entryNamed "wg0", { entryNamed "wg1" with saveConfig := some false }]
        treeKeeper.unheard emptyWorld).1.toOption = some true ∧
      ∃ notices saved finish, Filed .system
        [entryNamed "wg0", { entryNamed "wg1" with saveConfig := some false }] treeKeeper emptyWorld
        (fun t path => t.content? ([] ++ FilePath.names path))
        (fun path other => FilePath.names path ≠ FilePath.names other) notices saved finish :=
  ⟨by decide +kernel, (bootstrap_files .system _ treeKeeper emptyWorld _ _ rfl rfl
    (fun _ _ _ => rfl) (Storage.below_shows [])).2⟩

/-- The first interface of a chain can be written if its file can. -/
theorem can_write_first {start m finish : World FileTree} {after : List Interface}
    (h : JustSaved .system treeKeeper start [] i m after finish)
    (hwrite : ((Storage.below []).write (filePath i.identifier) (encodeUtf8 i.identifier.toList)
      start.files).1.toOption = some ()) : CanWrite treeKeeper m i.settled := by
  obtain ⟨_, announced, hnone, hsave, -, -⟩ := h
  cases hnone
  have hfiles := save_interface_files .system i treeKeeper start
  rw [hsave] at hfiles
  rw [← hfiles] at hwrite
  exact ⟨rfl, rfl, rfl, except_eq_ok hwrite⟩

/-- What is left of a chain behind its first interface, whose file was written. -/
theorem left_of_first {start m finish : World FileTree} {after : List Interface}
    (h : JustSaved .system treeKeeper start [] i m after finish) (hpeerless : Peerless start.store)
    (hwants : i.saveConfig = true) (hcan : CanWrite treeKeeper m i.settled) :
    ∃ announced, Provisioned .system treeKeeper announced after finish ∧
      Peerless announced.store ∧ announced.files = ((Storage.below []).write
        (filePath i.identifier) (encodeUtf8 i.identifier.toList) start.files).2 := by
  obtain ⟨_, announced, hnone, hsave, hpublish, hafter⟩ := h
  cases hnone
  have hfiles := save_interface_files .system i treeKeeper start
  rw [hsave] at hfiles
  obtain ⟨hkept, hread⟩ := hpeerless.put i
  rw [← (save_interface_ok hsave).1] at hkept hread
  have hwritten := publish_created_writes rfl hread hwants hcan
  rw [hpublish, hfiles] at hwritten
  exact ⟨announced, hafter, (publish_ok hpublish).1 ▸ hkept, hwritten⟩

/-- A run saves the interfaces of all entries if it succeeds without listeners. -/
theorem length_of_unheard {entries : List Entry} {saved : List Interface}
    (hunheard : (bootstrap .system entries treeKeeper.unheard emptyWorld).1.toOption = some true)
    (hcomplete : (bootstrap .system entries treeKeeper emptyWorld).1 = .ok true →
      saved.length = entries.length) : saved.length = entries.length := by
  obtain ⟨t, hlasting, -, hresult, -⟩ :=
    bootstrap_unheard (s := treeKeeper) (fun _ _ _ => rfl) .system entries emptyWorld
  rw [hlasting rfl] at hresult
  exact hcomplete (hresult.symm.trans (except_eq_ok hunheard))

/-- A run with two identifiers that differ in a repeated slash saves both interfaces, and both want
a file. -/
theorem exists_repeated_slash : ∃ notices i j finish,
    Provisioned .system treeKeeper (begun emptyWorld notices) [i, j] finish ∧
      finish.Alike
        (bootstrap .system [entryNamed "a/b", entryNamed "a//b"] treeKeeper emptyWorld).2 ∧
      (i.identifier = "a/b" ∧ i.saveConfig = true) ∧
      j.identifier = "a//b" ∧ j.saveConfig = true := by
  obtain ⟨saved, notices, finish, hchain, halike, hcomplete, hbuilt⟩ :=
    bootstrap_chain .system [entryNamed "a/b", entryNamed "a//b"] treeKeeper emptyWorld
  have hlength := length_of_unheard (by decide +kernel) hcomplete
  obtain ⟨i, j, rfl⟩ := List.length_eq_two.mp hlength
  obtain ⟨-, a, -, hbuilt⟩ := hbuilt.resolve_left (by simp)
  have hentries : ([entryNamed "a/b", entryNamed "a//b"].map fun e => (e.id, e.saveConfig.getD
      (Text.trim treeKeeper.settings.advanced.storagePath ≠ ""))) =
        [("a/b", true), ("a//b", true)] := by decide +kernel
  have hwants := (Entry.wants_of_build_all hbuilt).trans hentries
  simp only [List.map_cons, List.map_nil, List.cons.injEq, Prod.mk.injEq, and_true] at hwants
  exact ⟨notices, i, j, finish, hchain, halike, hwants.1, hwants.2⟩

/-- An interface wants a file, is rendered and written. Its file does not hold its configuration at
the end of the run, since a later interface has the same file. -/
theorem repeated_slash_shares_file : ∃ notices i j m finish final,
    (bootstrap .system [entryNamed "a/b", entryNamed "a//b"] treeKeeper emptyWorld).2 = final ∧
      Provisioned .system treeKeeper (begun emptyWorld notices) [i, j] finish ∧
      finish.Alike final ∧
      JustSaved .system treeKeeper (begun emptyWorld notices) [] i m [j] finish ∧
      final.store.interface false "a/b" = .ok i.settled ∧ i.saveConfig = true ∧
      CanWrite treeKeeper m i.settled ∧
      final.files.content? (FilePath.names (filePath "a/b")) ≠
        some (fileContent treeKeeper i.settled) := by
  obtain ⟨notices, i, j, finish, hchain, halike, ⟨hi, hwant⟩, hj, hwant'⟩ := exists_repeated_slash
  have hpeerless : Peerless (begun emptyWorld notices).store := ⟨Store.consistent_empty, rfl⟩
  have hstored := (hchain.interface_eq hpeerless.consistent.interfaces_sorted (by simp [hi, hj])).1 i (by simp)
  -- The first file is written where there are none, the second one where the first one is.
  obtain ⟨m, hmoment⟩ := Provisioned.moment (show Provisioned _ _ _ ([] ++ i :: [j]) _ from hchain)
  have hcan : CanWrite treeKeeper m i.settled := by
    refine can_write_first hmoment ?_
    rw [hi]
    show ((Storage.below []).write (filePath "a/b") (encodeUtf8 "a/b".toList) .empty).1.toOption = _
    decide +kernel
  obtain ⟨announced, hafter, hpeerless', hfirst⟩ := left_of_first hmoment hpeerless hwant hcan
  obtain ⟨m', hmoment'⟩ := Provisioned.moment (show Provisioned _ _ _ ([] ++ j :: []) _ from hafter)
  have hcan' : CanWrite treeKeeper m' j.settled := by
    refine can_write_first hmoment' ?_
    rw [hfirst, hi, hj]
    show ((Storage.below []).write (filePath "a//b") (encodeUtf8 "a//b".toList)
      ((Storage.below []).write (filePath "a/b") (encodeUtf8 "a/b".toList) .empty).2).1.toOption = _
    decide +kernel
  have hlast := hmoment'.file_written rfl (Storage.below_shows []) hpeerless' hwant' (by simp) hcan'
  have hsame : FilePath.names (filePath "a/b") = FilePath.names (filePath "a//b") := by
    decide +kernel
  have hcontent : fileContent treeKeeper i.settled = encodeUtf8 "a/b".toList :=
    congrArg (fun id : String => encodeUtf8 id.toList) hi
  have hcontent' : fileContent treeKeeper j.settled = encodeUtf8 "a//b".toList :=
    congrArg (fun id : String => encodeUtf8 id.toList) hj
  rw [hi] at hstored
  rw [hj, hcontent', List.nil_append] at hlast
  refine ⟨notices, i, j, m, finish, _, rfl, hchain, halike, hmoment, ?_, hwant, hcan, ?_⟩
  · rw [halike.store, hstored]
  · rw [halike.files, hcontent, hsame, hlast]
    decide +kernel

end Keeper

end TunnelKeeper
