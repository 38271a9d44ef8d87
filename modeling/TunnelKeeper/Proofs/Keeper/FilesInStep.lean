import TunnelKeeper.Proofs.Keeper.Files

/-!
# Files and the store in step

Every change of the store is announced, and so the keeper brings the files to what is wanted
(`Step.files`, for one change). From nothing on, the files are therefore those that are wanted,
and beside them exactly the last files of interfaces that were saved without wanting one any more
(`LeftBehind`): nobody removes those (`directory_of_run`, by induction on the run).
-/

namespace TunnelKeeper

namespace Store

variable {store : Store}

/-! ## What a call writes -/

theorem save_interface_cases (store : Store) (cancelled : Bool) (i : Interface) :
    store.saveInterface cancelled i = (.ok (), store.putInterfaceRow (.ofInterface i)) ∨
      ∃ e, store.saveInterface cancelled i = (.error e, store) := by
  cases cancelled with
  | true => exact .inr ⟨_, rfl⟩
  | false => exact .inl rfl

theorem save_peer_cases (store : Store) (cancelled : Bool) (p : Peer) :
    store.savePeer cancelled p = (.ok (), store.putPeerRow (.ofPeer p)) ∨
      ∃ e, store.savePeer cancelled p = (.error e, store) := by
  cases cancelled with
  | true => exact .inr ⟨_, rfl⟩
  | false =>
      unfold savePeer
      cases store.interfaceRow? p.interfaceId with
      | none => exact .inr ⟨_, rfl⟩
      | some row => exact .inl rfl

variable (h : store.Consistent)
include h

theorem delete_interface_cases (cancelled : Bool) (id : InterfaceId) :
    store.deleteInterface cancelled id =
        (.ok (), (store.removePeersOf id).removeInterface id) ∨
      ∃ e, store.deleteInterface cancelled id = (.error e, store) := by
  cases cancelled with
  | true => exact .inr ⟨_, rfl⟩
  | false =>
      unfold deleteInterface
      cases hrow : store.interfaceRow? id with
      | none =>
          refine .inr ⟨.missing (.interface id), ?_⟩
          simp only [remove_missing h hrow, Bool.false_eq_true, if_false]
      | some row => exact .inl rfl

/-! ## What a change leaves as it is -/

/-- The peers of an interface are those that were not put to or taken from it. -/
theorem peers_of_put {p : Peer} {id : InterfaceId} (hne : id ≠ p.interfaceId)
    (hformer : ∀ q, store.peer false p.identifier = .ok q → id ≠ q.interfaceId) :
    (store.putPeerRow (.ofPeer p)).peersOf false id = store.peersOf false id := by
  have hrows : (store.putPeerRow (.ofPeer p)).peerRowsOf id = store.peerRowsOf id := by
    refine filter_put_row (beq_eq_false_iff_ne.mpr (Ne.symm hne)) fun r hr hkey => ?_
    -- The row that is replaced is the one that is read under the identifier.
    have hfind : store.peerRow? p.identifier = some r :=
      h.peers_sorted.find_eq_some_iff.mpr ⟨hr, hkey.symm⟩
    obtain ⟨q, rfl, -, hvalue⟩ := peer_row_eq_some h hfind
    have hread : store.peer false p.identifier = .ok q := by
      rw [peer_eq h, hvalue]
    exact beq_eq_false_iff_ne.mpr (Ne.symm (hformer q hread))
  unfold peersOf
  rw [hrows]

theorem interface_removed (id : InterfaceId) :
    ∃ e, ((store.removePeersOf id).removeInterface id).interface false id = .error e := by
  rw [interface_eq (h.remove_interface id), contents_remove h]
  simp only [update, if_true]
  exact ⟨_, rfl⟩

theorem interface_remove_other {id other : InterfaceId} (hne : other ≠ id) :
    ((store.removePeersOf id).removeInterface id).interface false other =
      store.interface false other := by
  rw [interface_eq (h.remove_interface id), contents_remove h, interface_eq h]
  simp only [update, if_neg hne]

omit h in
theorem peers_of_remove_other {id other : InterfaceId} (hne : other ≠ id) :
    ((store.removePeersOf id).removeInterface id).peersOf false other =
      store.peersOf false other := by
  have hrows : ((store.removePeersOf id).removeInterface id).peerRowsOf other =
      store.peerRowsOf other := by
    show (store.peers.filter fun r => r.interfaceId != id).filter _ = _
    rw [List.filter_filter]
    refine List.filter_congr fun r _ => ?_
    by_cases heq : r.interfaceId = other
    · simp [heq, hne]
    · simp [heq]
  unfold peersOf
  rw [hrows]

end Store

namespace Keeper

open Act

variable {s : Services FileMap} {w w' : World FileMap}

/-! ## Files at their paths -/

theorem refreshed_at (store : Store) (id : InterfaceId) (files : FileMap) :
    refreshed s store id files (filePath id) = (wanted? s store id).or (files (filePath id)) := by
  unfold refreshed
  cases wanted? s store id with
  | none => rfl
  | some content => simp [Store.update]

theorem refreshed_other {store : Store} {id : InterfaceId} {path : String}
    (hne : path ≠ filePath id) (files : FileMap) :
    refreshed s store id files path = files path := by
  unfold refreshed
  cases wanted? s store id with
  | none => rfl
  | some content => simp [Store.update, hne]

/-! ## One change -/

/-- Announces some changes, one after the other. -/
def publishAll : List Event → Act FileMap Unit
  | [] => pure ()
  | e :: rest => do
    publish e
    publishAll rest

/-- A call that writes and what is announced after it. A save of an interface is announced with
the interface, a save of a peer for the interfaces that have it or had it, and a deletion with the
interface as it was stored. A call that fails is not announced. -/
inductive Step (s : Services FileMap) (w : World FileMap) : World FileMap → Prop
  | interfaceSaved {r : Request} {i : Interface} {e : Event} {saved w' : World FileMap}
      (hsave : saveInterface r i s w = (.ok (), saved))
      (he : e = .created i ∨ e = .updated i)
      (hpublish : publish e s saved = (.ok (), w')) : Step s w w'
  | peerSaved {r : Request} {p : Peer} {ids : List InterfaceId} {saved w' : World FileMap}
      (hsave : savePeer r p s w = (.ok (), saved))
      (hids : ∀ id, id ∈ ids ↔ id = p.interfaceId ∨
        ∃ q, w.store.peer false p.identifier = .ok q ∧ id = q.interfaceId)
      (hpublish : publishAll (ids.map .peersChanged) s saved = (.ok (), w')) : Step s w w'
  | interfaceDeleted {r : Request} {id : InterfaceId} {i : Interface} {removed w' : World FileMap}
      (hlast : w.store.interface false id = .ok i)
      (hdelete : deleteInterface r id s w = (.ok (), removed))
      (hpublish : publish (.deleted i) s removed = (.ok (), w')) : Step s w w'
  | interfaceNotSaved {r : Request} {i : Interface} {e : Error} {w' : World FileMap}
      (hsave : saveInterface r i s w = (.error e, w')) : Step s w w'
  | peerNotSaved {r : Request} {p : Peer} {e : Error} {w' : World FileMap}
      (hsave : savePeer r p s w = (.error e, w')) : Step s w w'
  | interfaceNotDeleted {r : Request} {id : InterfaceId} {e : Error} {w' : World FileMap}
      (hdelete : deleteInterface r id s w = (.error e, w')) : Step s w w'

section

variable {c : Call} {r : Request} {write : Store → Bool → Except Error Unit × Store}
  {after : Store}
  (hwrite : ∀ cancelled, write w.store cancelled = (.ok (), after) ∨
    ∃ e, write w.store cancelled = (.error e, w.store))
include hwrite

/-- A call that writes leaves the files alone. It writes what it should, or it fails and leaves the
store alone as well. -/
theorem change_cases {result : Except Error Unit} (h : change c r write s w = (result, w')) :
    w'.files = w.files ∧
      ((result = .ok () ∧ w'.store = after ∧
          ∃ cancelled, write w.store cancelled = (.ok (), after)) ∨
        (∃ e, result = .error e) ∧ w'.store = w.store) := by
  unfold change call at h
  cases hfault : s.fault? w.calls.length c with
  | some e =>
      rw [hfault] at h
      cases h
      exact ⟨rfl, .inr ⟨⟨e, rfl⟩, rfl⟩⟩
  | none =>
      rw [hfault] at h
      simp only at h
      rcases hwrite (isCancelled r w) with hok | ⟨e, herror⟩
      · rw [hok] at h
        cases h
        exact ⟨rfl, .inl ⟨rfl, rfl, _, hok⟩⟩
      · rw [herror] at h
        cases h
        exact ⟨rfl, .inr ⟨⟨e, rfl⟩, rfl⟩⟩

theorem change_ok (h : change c r write s w = (.ok (), w')) :
    w'.files = w.files ∧ w'.store = after ∧
      ∃ cancelled, write w.store cancelled = (.ok (), after) := by
  obtain ⟨hfiles, ⟨-, hwritten⟩ | ⟨⟨e, hfails⟩, -⟩⟩ := change_cases hwrite h
  · exact ⟨hfiles, hwritten⟩
  · cases hfails

theorem change_error {e : Error} (h : change c r write s w = (.error e, w')) :
    w'.files = w.files ∧ w'.store = w.store := by
  obtain ⟨hfiles, ⟨hok, -⟩ | ⟨-, hsame⟩⟩ := change_cases hwrite h
  · cases hok
  · exact ⟨hfiles, hsame⟩

end

/-- An interface is stored. -/
def Stored (store : Store) (id : InterfaceId) : Prop := ∃ i, store.interface false id = .ok i

theorem stored_of_wanted {store : Store} {id : InterfaceId} {content : List UInt8}
    (h : wanted? s store id = some content) : Stored store id := by
  cases hread : store.interface false id with
  | error e =>
      rw [wanted_of_missing hread] at h
      cases h
  | ok i => exact ⟨i, hread⟩

/-- The file of an interface after a change: it is the one that is wanted; where none is wanted, it
is removed with an interface that wanted one, and stays as it was with any other. -/
structure TracksAt (s : Services FileMap) (w w' : World FileMap) (id : InterfaceId) : Prop where
  wanted : ∀ content, wanted? s w'.store id = some content →
    w'.files (filePath id) = some content
  removed : ∀ content, wanted? s w.store id = some content → ¬ Stored w'.store id →
    w'.files (filePath id) = none
  kept : wanted? s w'.store id = none → wanted? s w.store id = none ∨ Stored w'.store id →
    w'.files (filePath id) = w.files (filePath id)

/-- All files after a change. -/
structure Tracks (s : Services FileMap) (w w' : World FileMap) : Prop where
  consistent : w'.store.Consistent
  interfaces : ∀ id, TracksAt s w w' id
  others : ∀ path, (∀ id, path ≠ filePath id) → w'.files path = w.files path

/-- The files that are wanted are there. -/
def Holds (s : Services FileMap) (w : World FileMap) : Prop :=
  ∀ id content, wanted? s w.store id = some content → w.files (filePath id) = some content

section

variable {id : InterfaceId}

/-- An interface whose file was brought to what is wanted. -/
theorem TracksAt.of_refreshed
    (hfile : w'.files (filePath id) = (wanted? s w'.store id).or (w.files (filePath id)))
    (hstored : ∀ content, wanted? s w.store id = some content → Stored w'.store id) :
    TracksAt s w w' id where
  wanted := by
    intro content hwanted
    rw [hfile, hwanted]
    rfl
  removed := fun content hbefore hgone => absurd (hstored content hbefore) hgone
  kept := by
    intro hwanted _
    rw [hfile, hwanted]
    rfl

/-- An interface that was not concerned. -/
theorem TracksAt.of_unchanged (hholds : Holds s w)
    (hwanted : wanted? s w'.store id = wanted? s w.store id)
    (hfile : w'.files (filePath id) = w.files (filePath id)) : TracksAt s w w' id where
  wanted := by
    intro content hcontent
    rw [hwanted] at hcontent
    rw [hfile, hholds id content hcontent]
  removed := by
    intro content hbefore hgone
    rw [← hwanted] at hbefore
    exact absurd (stored_of_wanted hbefore) hgone
  kept := fun _ _ => hfile

end

section

variable (hkeeps : Keeps s) (hstore : w.store.Consistent) (hholds : Holds s w)
include hstore hholds

/-- Nothing happens with a call that fails. -/
theorem tracks_of_failure {c : Call} {r : Request}
    {write : Store → Bool → Except Error Unit × Store} {after : Store} {e : Error}
    (hwrite : ∀ cancelled, write w.store cancelled = (.ok (), after) ∨
      ∃ e, write w.store cancelled = (.error e, w.store))
    (h : change c r write s w = (.error e, w')) : Tracks s w w' := by
  obtain ⟨hfiles, hsame⟩ := change_error hwrite h
  exact {
    consistent := hsame ▸ hstore
    interfaces := fun id => .of_unchanged hholds (by rw [hsame]) (by rw [hfiles])
    others := fun path _ => by rw [hfiles] }

include hkeeps

theorem tracks_of_interface_saved {r : Request} {i : Interface} {e : Event}
    {saved : World FileMap} (hsave : saveInterface r i s w = (.ok (), saved))
    (he : e = .created i ∨ e = .updated i) (hpublish : publish e s saved = (.ok (), w')) :
    Tracks s w w' := by
  obtain ⟨hfiles, hput, -⟩ :=
    change_ok (fun cancelled => Store.save_interface_cases w.store cancelled i) hsave
  have hconsistent : saved.store.Consistent := hput ▸ hstore.put_interface i
  have hread : saved.store.interface false i.identifier = .ok i.settled := by
    rw [hput]
    exact Store.interface_put_self hstore.interfaces_sorted
  obtain ⟨hsame, hrefreshed⟩ := publish_saved_files hkeeps hconsistent he hread rfl hpublish
  rw [← hsame, hfiles] at hrefreshed
  exact {
    consistent := hsame ▸ hconsistent
    interfaces := by
      intro id
      by_cases hid : id = i.identifier
      · subst hid
        refine .of_refreshed ?_ fun _ _ => ⟨i.settled, ?_⟩
        · rw [hrefreshed, refreshed_at]
        · rw [hsame, hread]
      · refine .of_unchanged hholds (wanted_congr ?_ ?_) ?_
        · rw [hsame, hput, Store.interface_put_other hstore.interfaces_sorted hid]
        · rw [hsame, hput]
          rfl
        · rw [hrefreshed, refreshed_other (fun heq => hid (file_path_inj.mp heq))]
    others := by
      intro path hother
      rw [hrefreshed, refreshed_other (hother _)] }

omit hholds in
/-- Several announced changes of peers bring the files of their interfaces to what is wanted. -/
theorem publish_all_files {ids : List InterfaceId}
    (hpublish : publishAll (ids.map .peersChanged) s w = (.ok (), w')) :
    w'.store = w.store ∧
      (∀ id ∈ ids, w'.files (filePath id) = (wanted? s w.store id).or (w.files (filePath id))) ∧
      ∀ path, (∀ id ∈ ids, path ≠ filePath id) → w'.files path = w.files path := by
  induction ids generalizing w with
  | nil =>
      cases hpublish
      exact ⟨rfl, by simp, fun _ _ => rfl⟩
  | cons first rest ih =>
      obtain ⟨mid, hfirst, -, -⟩ := publish_eq (.peersChanged first) s w
      rw [List.map_cons, publishAll, bind_ok hfirst] at hpublish
      obtain ⟨hsame, hrefreshed⟩ := publish_peers_changed_files hkeeps hstore hfirst
      obtain ⟨hsame', hrest, hothers⟩ := ih (hsame ▸ hstore) hpublish
      rw [hsame] at hrest
      refine ⟨hsame'.trans hsame, fun id hid => ?_, fun path hpath => ?_⟩
      · by_cases hlater : id ∈ rest
        · -- The file may have been written before, but then as it is written now.
          rw [hrest id hlater, hrefreshed]
          by_cases hsameId : id = first
          · rw [hsameId, refreshed_at]
            cases wanted? s w.store first <;> rfl
          · rw [refreshed_other (fun heq => hsameId (file_path_inj.mp heq))]
        · have hsameId : id = first := (List.mem_cons.mp hid).resolve_right hlater
          subst hsameId
          rw [hothers, hrefreshed, refreshed_at]
          exact fun other hother heq => hlater (file_path_inj.mp heq ▸ hother)
      · obtain ⟨hne, hpath⟩ := List.forall_mem_cons.mp hpath
        rw [hothers path hpath, hrefreshed, refreshed_other hne]

theorem tracks_of_peer_saved {r : Request} {p : Peer} {ids : List InterfaceId}
    {saved : World FileMap} (hsave : savePeer r p s w = (.ok (), saved))
    (hids : ∀ id, id ∈ ids ↔ id = p.interfaceId ∨
      ∃ q, w.store.peer false p.identifier = .ok q ∧ id = q.interfaceId)
    (hpublish : publishAll (ids.map .peersChanged) s saved = (.ok (), w')) : Tracks s w w' := by
  obtain ⟨hfiles, hput, cancelled, hwrite⟩ :=
    change_ok (fun cancelled => Store.save_peer_cases w.store cancelled p) hsave
  have hconsistent : saved.store.Consistent := by
    have hrun := hstore.run (.savePeer cancelled p)
    rwa [show ((Store.Write.savePeer cancelled p).run w.store).2 = saved.store from
      (congrArg Prod.snd hwrite).trans hput.symm] at hrun
  obtain ⟨hsame, hconcerned, hothers⟩ := publish_all_files hkeeps hconsistent hpublish
  have hinterface : ∀ id, w'.store.interface false id = w.store.interface false id := by
    intro id
    rw [hsame, hput]
    rfl
  rw [← hsame, hfiles] at hconcerned
  rw [hfiles] at hothers
  exact {
    consistent := hsame ▸ hconsistent
    interfaces := by
      intro id
      by_cases hid : id ∈ ids
      · refine .of_refreshed (hconcerned id hid) fun content hwanted => ?_
        obtain ⟨i, hi⟩ := stored_of_wanted hwanted
        exact ⟨i, (hinterface id).trans hi⟩
      · refine .of_unchanged hholds (wanted_congr (hinterface id) ?_) ?_
        · rw [hids, not_or] at hid
          rw [hsame, hput, Store.peers_of_put hstore hid.1]
          exact fun q hq heq => hid.2 ⟨q, hq, heq⟩
        · exact hothers _ fun other hother heq => hid (file_path_inj.mp heq ▸ hother)
    others := fun path hother => hothers path fun id _ => hother id }

theorem tracks_of_interface_deleted {r : Request} {id : InterfaceId} {i : Interface}
    {removed : World FileMap} (hlast : w.store.interface false id = .ok i)
    (hdelete : deleteInterface r id s w = (.ok (), removed))
    (hpublish : publish (.deleted i) s removed = (.ok (), w')) : Tracks s w w' := by
  obtain ⟨hfiles, hremove, -⟩ :=
    change_ok (fun cancelled => Store.delete_interface_cases hstore cancelled id) hdelete
  have hconsistent : removed.store.Consistent := hremove ▸ hstore.remove_interface id
  obtain ⟨hsame, hafter⟩ := publish_deleted_files hkeeps hpublish
  have hpath : i.fileName = filePath id := by
    unfold Interface.fileName filePath
    rw [identifier_of_interface hstore hlast]
  rw [hpath, hfiles] at hafter
  obtain ⟨_, hgone⟩ := Store.interface_removed hstore id
  rw [← hremove, ← hsame] at hgone
  exact {
    consistent := hsame ▸ hconsistent
    interfaces := by
      intro other
      by_cases hother : other = id
      · subst hother
        obtain ⟨peers, -, hwanted⟩ := wanted_of_stored hstore hlast
        constructor
        · intro content hcontent
          rw [wanted_of_missing hgone] at hcontent
          cases hcontent
        · intro content hcontent _
          rw [hwanted] at hcontent
          have hwants : i.saveConfig = true := by
            refine Decidable.byContradiction fun hnot => ?_
            rw [if_neg hnot] at hcontent
            cases hcontent
          rw [hafter, if_pos hwants]
          simp [Store.update]
        · intro _ hkept
          have hunwanted : ¬ i.saveConfig = true := by
            intro hwants
            rw [if_pos hwants] at hwanted
            rcases hkept with hnone | ⟨j, hj⟩
            · rw [hwanted] at hnone
              cases hnone
            · rw [hgone] at hj
              cases hj
          rw [hafter, if_neg hunwanted]
      · refine .of_unchanged hholds (wanted_congr ?_ ?_) ?_
        · rw [hsame, hremove, Store.interface_remove_other hstore hother]
        · rw [hsame, hremove, Store.peers_of_remove_other hother]
        · rw [hafter]
          split
          · simp [Store.update, file_path_inj, hother]
          · rfl
    others := by
      intro path hpath
      rw [hafter]
      split
      · simp [Store.update, hpath id]
      · rfl }

/-- Every change of the store is tracked. -/
theorem Step.tracks (hstep : Step s w w') : Tracks s w w' := by
  cases hstep with
  | interfaceSaved hsave he hpublish =>
      exact tracks_of_interface_saved hkeeps hstore hholds hsave he hpublish
  | peerSaved hsave hids hpublish =>
      exact tracks_of_peer_saved hkeeps hstore hholds hsave hids hpublish
  | interfaceDeleted hlast hdelete hpublish =>
      exact tracks_of_interface_deleted hkeeps hstore hholds hlast hdelete hpublish
  | @interfaceNotSaved r i e _ hsave =>
      exact tracks_of_failure hstore hholds
        (fun cancelled => Store.save_interface_cases w.store cancelled i) hsave
  | @peerNotSaved r p e _ hsave =>
      exact tracks_of_failure hstore hholds
        (fun cancelled => Store.save_peer_cases w.store cancelled p) hsave
  | @interfaceNotDeleted r id e _ hdelete =>
      exact tracks_of_failure hstore hholds
        (fun cancelled => Store.delete_interface_cases hstore cancelled id) hdelete

end

/-! ## Whole runs -/

/-- An interface wanted its file at one moment of a run. It was stored at the next one, but did not
want a file then and has not wanted one since. -/
structure LeftBehind (s : Services FileMap) (run : Nat → World FileMap) (n k : Nat)
    (id : InterfaceId) : Prop where
  before : k < n
  stored : Stored (run (k + 1)).store id
  unwanted : ∀ m, k < m → m ≤ n → wanted? s (run m).store id = none

/-- What a file holds: what is wanted now, or what was wanted last if it was left behind. -/
def Expected (s : Services FileMap) (run : Nat → World FileMap) (n : Nat) (id : InterfaceId)
    (content : List UInt8) : Prop :=
  wanted? s (run n).store id = some content ∨
    ∃ k, LeftBehind s run n k id ∧ wanted? s (run k).store id = some content

section

variable {run : Nat → World FileMap} {n : Nat} {id : InterfaceId} {content : List UInt8}

/-- No interface that wants a file has left one behind. -/
theorem expected_of_wanted (hwanted : wanted? s (run n).store id = some content)
    {content' : List UInt8} : Expected s run n id content' ↔ content' = content := by
  constructor
  · rintro (hnow | ⟨k, hleft, -⟩)
    · rw [hwanted] at hnow
      exact (Option.some.inj hnow).symm
    · rw [hleft.unwanted n hleft.before (Nat.le_refl n)] at hwanted
      cases hwanted
  · rintro rfl
    exact .inl hwanted

/-- What is left behind one moment later. -/
theorem expected_succ (hwanted : wanted? s (run (n + 1)).store id = none) :
    Expected s run (n + 1) id content ↔
      Expected s run n id content ∧
        (wanted? s (run n).store id = none ∨ Stored (run (n + 1)).store id) := by
  constructor
  · rintro (hnow | ⟨k, hleft, hlast⟩)
    · rw [hwanted] at hnow
      cases hnow
    · rcases Nat.lt_succ_iff_lt_or_eq.mp hleft.before with hk | rfl
      · have hearlier : LeftBehind s run n k id :=
          ⟨hk, hleft.stored, fun m hlt hle => hleft.unwanted m hlt (Nat.le_succ_of_le hle)⟩
        exact ⟨.inr ⟨k, hearlier, hlast⟩, .inl (hleft.unwanted n hk (Nat.le_succ n))⟩
      · exact ⟨.inl hlast, .inr hleft.stored⟩
  · rintro ⟨hnow | ⟨k, hleft, hlast⟩, hkept⟩
    · -- The file is left behind just now.
      have hstored : Stored (run (n + 1)).store id := by
        refine hkept.resolve_left fun hnone => ?_
        rw [hnow] at hnone
        cases hnone
      refine .inr ⟨n, ⟨Nat.lt_succ_self n, hstored, fun m hlt hle => ?_⟩, hnow⟩
      obtain rfl : m = n + 1 := by omega
      exact hwanted
    · refine .inr ⟨k, ⟨Nat.lt_succ_of_lt hleft.before, hleft.stored, fun m hlt hle => ?_⟩, hlast⟩
      rcases Nat.le_succ_iff.mp hle with hle | rfl
      · exact hleft.unwanted m hlt hle
      · exact hwanted

end

section

variable (hkeeps : Keeps s) {run : Nat → World FileMap} (hstore : (run 0).store = .empty)
  (hfiles : (run 0).files = fun _ => none)
include hkeeps hstore hfiles

/-- The files at every moment of a run from nothing. -/
theorem files_of_run {n : Nat} (hsteps : ∀ k < n, Step s (run k) (run (k + 1))) :
    (run n).store.Consistent ∧
      (∀ id content, (run n).files (filePath id) = some content ↔ Expected s run n id content) ∧
      ∀ path, (∀ id, path ≠ filePath id) → (run n).files path = none := by
  induction n with
  | zero =>
      have hunwanted : ∀ id, wanted? s (run 0).store id = none := by
        intro id
        rw [hstore]
        rfl
      refine ⟨hstore ▸ Store.consistent_empty, fun id content => ?_, fun path _ => by rw [hfiles]⟩
      rw [hfiles]
      constructor
      · intro h
        cases h
      · rintro (hnow | ⟨k, hleft, -⟩)
        · rw [hunwanted] at hnow
          cases hnow
        · exact absurd hleft.before (Nat.not_lt_zero k)
  | succ n ih =>
      obtain ⟨hconsistent, hexpected, hothers⟩ := ih fun k hk => hsteps k (Nat.lt_succ_of_lt hk)
      have hholds : Holds s (run n) := fun id content hwanted =>
        (hexpected id content).mpr (.inl hwanted)
      have htracks := Step.tracks hkeeps hconsistent hholds (hsteps n (Nat.lt_succ_self n))
      refine ⟨htracks.consistent, fun id content => ?_, fun path hpath => ?_⟩
      · cases hwanted : wanted? s (run (n + 1)).store id with
        | some current =>
            rw [(htracks.interfaces id).wanted current hwanted, expected_of_wanted hwanted,
              Option.some.injEq, eq_comm]
        | none =>
            rw [expected_succ hwanted]
            by_cases hkept : wanted? s (run n).store id = none ∨ Stored (run (n + 1)).store id
            · rw [(htracks.interfaces id).kept hwanted hkept, hexpected, and_iff_left hkept]
            · obtain ⟨hbefore, hgone⟩ := not_or.mp hkept
              obtain ⟨last, hlast⟩ := Option.ne_none_iff_exists'.mp hbefore
              rw [(htracks.interfaces id).removed last hlast hgone]
              constructor
              · intro h
                cases h
              · exact fun h => absurd h.2 hkept
      · rw [htracks.others path hpath, hothers path hpath]

end

/-- At every moment of a run from nothing there are exactly the files that are wanted and those that
were left behind. The files are in step with the store in a run in which every interface that wants
a file goes on to want it as long as it is stored. -/
theorem directory_of_run (s : Services FileMap) (run : Nat → World FileMap) (n : Nat)
    (hkeeps : Keeps s) (hstore : (run 0).store = .empty) (hfiles : (run 0).files = fun _ => none)
    (hsteps : ∀ k < n, Step s (run k) (run (k + 1))) :
    (∀ path content, (run n).files path = some content ↔
      ∃ id, path = filePath id ∧ Expected s run n id content) ∧
    ((∀ k < n, ∀ id, wanted? s (run k).store id ≠ none → Stored (run (k + 1)).store id →
        wanted? s (run (k + 1)).store id ≠ none) →
      ∀ path content, (run n).files path = some content ↔
        ∃ id, path = filePath id ∧ wanted? s (run n).store id = some content) := by
  obtain ⟨-, hexpected, hothers⟩ := files_of_run hkeeps hstore hfiles hsteps
  have hdirectory : ∀ path content, (run n).files path = some content ↔
      ∃ id, path = filePath id ∧ Expected s run n id content := by
    intro path content
    constructor
    · intro hfile
      by_cases hpath : ∃ id, path = filePath id
      · obtain ⟨id, rfl⟩ := hpath
        exact ⟨id, rfl, (hexpected id content).mp hfile⟩
      · rw [hothers path (fun id heq => hpath ⟨id, heq⟩)] at hfile
        cases hfile
    · rintro ⟨id, rfl, hcontent⟩
      exact (hexpected id content).mpr hcontent
  refine ⟨hdirectory, fun hsteady path content => ?_⟩
  rw [hdirectory]
  constructor
  · rintro ⟨id, hpath, hnow | ⟨k, hleft, hlast⟩⟩
    · exact ⟨id, hpath, hnow⟩
    · have hunwanted := hleft.unwanted (k + 1) (Nat.lt_succ_self k) hleft.before
      exact absurd hunwanted (hsteady k hleft.before id (by simp [hlast]) hleft.stored)
  · rintro ⟨id, hpath, hnow⟩
    exact ⟨id, hpath, .inl hnow⟩

/-! ## A file that is left behind -/

/-- A keeper whose calls do not fail, and a configuration that consists of the identifier. -/
def keeperServices : Services FileMap where
  settings := .usual
  newKeys _ := .blank
  renderInterface i _ := i.identifier
  renderPeer _ _ := ""
  encodeQr _ := []
  storage := .ofMap
  bus := Bus.empty.subscribeAll .fileKeeper
  fault? _ _ := none

theorem keeper_services_keeps : Keeps keeperServices :=
  ⟨rfl, rfl, fun _ => rfl, fun _ => rfl, fun _ => rfl, fun _ => rfl, fun _ => rfl⟩

/-- An interface that wants a file or does not. -/
def interfaceWith (saveConfig : Bool) : Interface :=
  { Interface.new "wg0" with saveConfig := saveConfig }

/-- An interface can be saved and announced in any world. -/
theorem exists_step_saved (i : Interface) (w : World FileMap) :
    ∃ w', Step keeperServices w w' ∧ w'.store = w.store.putInterfaceRow (.ofInterface i) := by
  have hsave : saveInterface .system i keeperServices w = (.ok (), { w with
      store := w.store.putInterfaceRow (.ofInterface i)
      calls := .saveInterface i.identifier :: w.calls }) := rfl
  obtain ⟨w', hpublish, hsame, -⟩ := publish_eq (.updated i) keeperServices { w with
      store := w.store.putInterfaceRow (.ofInterface i)
      calls := .saveInterface i.identifier :: w.calls }
  exact ⟨w', .interfaceSaved hsave (.inr rfl) hpublish, hsame⟩

/-- Nothing is stored, and there are no files. -/
def nothing : World FileMap := ⟨.empty, fun _ => none, [], [], []⟩

/-- A run that saves an interface which wants a file, and saves it again without that wish. -/
theorem exists_switched_off : ∃ (run : Nat → World FileMap) (content : List UInt8),
    (run 0).store = .empty ∧ (run 0).files = (fun _ => none) ∧
      (∀ k < 2, Step keeperServices (run k) (run (k + 1))) ∧
      wanted? keeperServices (run 1).store "wg0" = some content ∧
      (run 2).store.interface false "wg0" = .ok (interfaceWith false) := by
  obtain ⟨first, hfirst, hstore⟩ := exists_step_saved (interfaceWith true) nothing
  obtain ⟨second, hsecond, hstore'⟩ := exists_step_saved (interfaceWith false) first
  have hconsistent : first.store.Consistent :=
    hstore ▸ Store.consistent_empty.put_interface (interfaceWith true)
  have hwants : first.store.interface false "wg0" = .ok (interfaceWith true) := by
    rw [hstore]
    exact Store.interface_put_self Store.consistent_empty.interfaces_sorted
  have hwants' : second.store.interface false "wg0" = .ok (interfaceWith false) := by
    rw [hstore']
    exact Store.interface_put_self hconsistent.interfaces_sorted
  obtain ⟨peers, -, hwanted⟩ := wanted_of_stored (s := keeperServices) hconsistent hwants
  refine ⟨fun k => match k with | 0 => nothing | 1 => first | _ => second, _, rfl, rfl, ?_, hwanted,
    hwants'⟩
  intro k hk
  match k, hk with
  | 0, _ => exact hfirst
  | 1, _ => exact hsecond

/-- A file stays though its interface, which is stored, does not want to be saved any more. -/
theorem switched_off_stays : ∃ run : Nat → World FileMap,
    (run 0).store = .empty ∧ (run 0).files = (fun _ => none) ∧
      (∀ k < 2, Step keeperServices (run k) (run (k + 1))) ∧
      (run 2).store.interface false "wg0" = .ok (interfaceWith false) ∧
      (run 2).files "wg0.conf" ≠ none := by
  obtain ⟨run, content, hstore, hfiles, hsteps, hwanted, hoff⟩ := exists_switched_off
  obtain ⟨hconsistent, hexpected, -⟩ :=
    files_of_run keeper_services_keeps hstore hfiles hsteps
  obtain ⟨peers, -, hunwanted⟩ := wanted_of_stored (s := keeperServices) hconsistent hoff
  have hleft : LeftBehind keeperServices run 2 1 "wg0" := by
    refine ⟨by decide, ⟨_, hoff⟩, fun m hlt hle => ?_⟩
    obtain rfl : m = 2 := by omega
    exact hunwanted
  refine ⟨run, hstore, hfiles, hsteps, hoff, ?_⟩
  rw [show "wg0.conf" = filePath "wg0" by decide,
    (hexpected "wg0" content).mpr (.inr ⟨1, hleft, hwanted⟩)]
  exact Option.some_ne_none content

/-- The files at the end of a run that leaves one behind. -/
theorem directory_of_run_switched_off : ∃ run : Nat → World FileMap,
    (run 0).store = .empty ∧ (run 0).files = (fun _ => none) ∧
      (∀ k < 2, Step keeperServices (run k) (run (k + 1))) ∧
      ∀ path content, (run 2).files path = some content ↔
        ∃ id, path = filePath id ∧ Expected keeperServices run 2 id content := by
  obtain ⟨run, _, hstore, hfiles, hsteps, -, -⟩ := exists_switched_off
  exact ⟨run, hstore, hfiles, hsteps,
    (directory_of_run keeperServices run 2 keeper_services_keeps hstore hfiles hsteps).1⟩

end Keeper

end TunnelKeeper
