import TunnelKeeper.Proofs.Peer
import TunnelKeeper.Proofs.Store.Table

/-!
# What every store keeps

`Consistent` is kept by every call that writes, successful or not (`consistent_run`), so it holds
of every store that calls can lead to (`consistent_after`): tables are sorted, every row is the row
of a value, and the interface of every peer is stored. `sound_after` says what that means for those
who look rows up.
-/

namespace TunnelKeeper.Store

/-! ## Calls that write -/

/-- A call that writes. -/
inductive Write
  | saveInterface (cancelled : Bool) (i : Interface)
  | savePeer (cancelled : Bool) (p : Peer)
  | deleteInterface (cancelled : Bool) (id : InterfaceId)

/-- Makes a call. -/
def Write.run (s : Store) : Write → Except Error Unit × Store
  | .saveInterface cancelled i => s.saveInterface cancelled i
  | .savePeer cancelled p => s.savePeer cancelled p
  | .deleteInterface cancelled id => s.deleteInterface cancelled id

/-- The store that some calls, one after the other, leave behind. -/
def after (writes : List Write) : Store := writes.foldl (fun s w => (w.run s).2) empty

/-! ## The invariant -/

/-- Tables are sorted, rows are rows of values, and the interface of every peer is stored. -/
structure Consistent (s : Store) : Prop where
  interfaces_sorted : SortedRows InterfaceRow.key s.interfaces
  peers_sorted : SortedRows PeerRow.key s.peers
  interface_rows : ∀ r ∈ s.interfaces, ∃ i, r = .ofInterface i
  peer_rows : ∀ r ∈ s.peers, ∃ p, r = .ofPeer p
  linked : ∀ r ∈ s.peers, ∃ i ∈ s.interfaces, i.key = r.interfaceId

theorem consistent_empty : Consistent empty where
  interfaces_sorted := sorted_rows_nil
  peers_sorted := sorted_rows_nil
  interface_rows := by simp [empty]
  peer_rows := by simp [empty]
  linked := by simp [empty]

/-- An interface is found exactly if it is stored. -/
theorem interface_row_eq_none_iff {s : Store} {id : InterfaceId} :
    s.interfaceRow? id = none ↔ ∀ r ∈ s.interfaces, r.key ≠ id := find_eq_none_iff

namespace Consistent

variable {s : Store} (h : s.Consistent)
include h

/-- An interface that is put takes the place of the one with its key. -/
theorem put_interface (i : Interface) : (s.putInterfaceRow (.ofInterface i)).Consistent where
  interfaces_sorted := h.interfaces_sorted.put_row
  peers_sorted := h.peers_sorted
  interface_rows := by
    intro r hr
    rcases (mem_put_row h.interfaces_sorted).mp hr with rfl | ⟨hr, -⟩
    · exact ⟨i, rfl⟩
    · exact h.interface_rows r hr
  peer_rows := h.peer_rows
  linked := by
    intro r hr
    obtain ⟨old, hold, hkey⟩ := h.linked r hr
    -- The interface of the peer may be the one that is replaced: the new row has the same key.
    by_cases heq : old.key = i.identifier
    · exact ⟨.ofInterface i, (mem_put_row h.interfaces_sorted).mpr (.inl rfl), heq.symm.trans hkey⟩
    · exact ⟨old, (mem_put_row h.interfaces_sorted).mpr (.inr ⟨hold, heq⟩), hkey⟩

/-- A peer can be put if its interface is stored. -/
theorem put_peer {p : Peer} (hp : ∃ i ∈ s.interfaces, i.key = p.interfaceId) :
    (s.putPeerRow (.ofPeer p)).Consistent where
  interfaces_sorted := h.interfaces_sorted
  peers_sorted := h.peers_sorted.put_row
  interface_rows := h.interface_rows
  peer_rows := by
    intro r hr
    rcases (mem_put_row h.peers_sorted).mp hr with rfl | ⟨hr, -⟩
    · exact ⟨p, rfl⟩
    · exact h.peer_rows r hr
  linked := by
    intro r hr
    rcases (mem_put_row h.peers_sorted).mp hr with rfl | ⟨hr, -⟩
    · exact hp
    · exact h.linked r hr

/-- An interface can be removed with its peers. -/
theorem remove_interface (id : InterfaceId) :
    ((s.removePeersOf id).removeInterface id).Consistent where
  interfaces_sorted := h.interfaces_sorted.filter _
  peers_sorted := h.peers_sorted.filter _
  interface_rows := fun r hr => h.interface_rows r (List.mem_filter.mp hr).1
  peer_rows := fun r hr => h.peer_rows r (List.mem_filter.mp hr).1
  linked := by
    intro r hr
    obtain ⟨hr, hkept⟩ := List.mem_filter.mp hr
    obtain ⟨i, hi, hkey⟩ := h.linked r hr
    -- A peer that stays is not of `id`, so its interface stays as well.
    refine ⟨i, List.mem_filter.mpr ⟨hi, ?_⟩, hkey⟩
    rw [hkey]
    exact hkept

/-- No call breaks the invariant, whatever it is given and whether or not it succeeds. -/
theorem run (w : Write) : (w.run s).2.Consistent := by
  cases w with
  | saveInterface cancelled i =>
      cases cancelled with
      | true => exact h
      | false => exact h.put_interface i
  | savePeer cancelled p =>
      cases cancelled with
      | true => exact h
      | false =>
          simp only [Write.run, savePeer, Bool.false_eq_true, if_false]
          -- The call looks for the interface first, which is what `put_peer` asks for.
          split
          · exact h
          · next r hfind =>
              exact h.put_peer ⟨r, h.interfaces_sorted.find_eq_some_iff.mp hfind⟩
  | deleteInterface cancelled id =>
      cases cancelled with
      | true => exact h
      | false =>
          simp only [Write.run, deleteInterface, Bool.false_eq_true, if_false]
          split <;> exact h.remove_interface id

end Consistent

/-- Every store that calls lead to is consistent. -/
theorem consistent_after (writes : List Write) : (after writes).Consistent := by
  suffices hfold : ∀ s : Store, s.Consistent →
      (writes.foldl (fun s w => (w.run s).2) s).Consistent from hfold empty consistent_empty
  induction writes with
  | nil => exact fun s h => h
  | cons w writes ih => exact fun s h => ih _ (h.run w)

end TunnelKeeper.Store

namespace TunnelKeeper

/-! ## Rows and values -/

/-- The row of an interface reads as the interface with its block in normal form. -/
theorem InterfaceRow.interface_of_interface (i : Interface) :
    (InterfaceRow.ofInterface i).interface = .ok i.settled := by
  simp only [InterfaceRow.interface, InterfaceRow.ofInterface, Interface.decode_text_write]

/-- The row of a peer reads as the peer. -/
theorem PeerRow.peer_of_peer (p : Peer) : (PeerRow.ofPeer p).peer = .ok p := by
  simp only [PeerRow.peer, PeerRow.ofPeer, Peer.decode_text_write]

namespace Store

/-! ## Looking up what was put -/

section

variable {s : Store} {i : Interface} (h : SortedRows InterfaceRow.key s.interfaces)
include h

/-- An interface that was put is read. -/
theorem interface_put_self :
    (s.putInterfaceRow (.ofInterface i)).interface false i.identifier = .ok i.settled := by
  have hfind := find_put_row h (.ofInterface i) i.identifier
  rw [if_pos (show i.identifier = (InterfaceRow.ofInterface i).key from rfl)] at hfind
  unfold interface interfaceRow? putInterfaceRow
  simp only [hfind, InterfaceRow.interface_of_interface, unlessCancelled, Bool.false_eq_true,
    if_false]

/-- Another interface is read as before. -/
theorem interface_put_other {id : InterfaceId} (hne : id ≠ i.identifier) :
    (s.putInterfaceRow (.ofInterface i)).interface false id = s.interface false id := by
  have hfind := find_put_row h (.ofInterface i) id
  rw [if_neg (show ¬ id = (InterfaceRow.ofInterface i).key from hne)] at hfind
  unfold interface interfaceRow? putInterfaceRow
  rw [hfind]

end

/-! ## Soundness -/

/-- The interface of every peer is stored, no key is held by two rows, and every row holds the
text of a value that has the row's key and columns. -/
structure Sound (s : Store) : Prop where
  linked : ∀ r ∈ s.peers, ∃ i ∈ s.interfaces, i.key = r.interfaceId
  interface_keys : (s.interfaces.map InterfaceRow.key).Nodup
  peer_keys : (s.peers.map PeerRow.key).Nodup
  interface_data : ∀ r ∈ s.interfaces, ∃ i, Json.decodeText Interface.decoder r.data = .ok i ∧
    i.identifier = r.key ∧ i.displayName = r.displayName
  peer_data : ∀ r ∈ s.peers, ∃ p, Json.decodeText Peer.decoder r.data = .ok p ∧
    p.identifier = r.key ∧ p.interfaceId = r.interfaceId ∧ p.owner = r.owner ∧
      p.displayName = r.displayName

/-- Consistent stores are sound, since the rows of values hold texts that read back. -/
theorem Consistent.sound {s : Store} (h : s.Consistent) : s.Sound where
  linked := h.linked
  interface_keys := h.interfaces_sorted.nodup
  peer_keys := h.peers_sorted.nodup
  interface_data := by
    intro r hr
    obtain ⟨i, rfl⟩ := h.interface_rows r hr
    exact ⟨i, Interface.decode_text_write i, rfl, rfl⟩
  peer_data := by
    intro r hr
    obtain ⟨p, rfl⟩ := h.peer_rows r hr
    exact ⟨p, Peer.decode_text_write p, rfl, rfl, rfl, rfl⟩

/-- A peer whose interface is stored is saved. -/
theorem save_peer_eq {s : Store} {p : Peer} (hp : ∃ i ∈ s.interfaces, i.key = p.interfaceId) :
    s.savePeer false p = (.ok (), s.putPeerRow (.ofPeer p)) := by
  simp only [savePeer, Bool.false_eq_true, if_false]
  split
  · next hfind =>
      obtain ⟨i, hi, hkey⟩ := hp
      exact absurd hkey (interface_row_eq_none_iff.mp hfind i hi)
  · rfl

/-- Every store that calls lead to is sound. A peer that is saved under a stored interface moves
there, if it was a peer of another one: it is then a peer of that interface only, no other row
changes, and the store is sound again. -/
theorem sound_after (writes : List Write) :
    (after writes).Sound ∧
      ∀ p : Peer, (∃ i ∈ (after writes).interfaces, i.key = p.interfaceId) →
        ∃ moved, (after writes).savePeer false p = (.ok (), moved) ∧ moved.Sound ∧
          moved.interfaces = (after writes).interfaces ∧
          (∀ id, (∃ r ∈ moved.peerRowsOf id, r.key = p.identifier) ↔ id = p.interfaceId) ∧
          ∀ r : PeerRow, r.key ≠ p.identifier → (r ∈ moved.peers ↔ r ∈ (after writes).peers) := by
  have h := consistent_after writes
  refine ⟨h.sound, ?_⟩
  intro p hp
  -- The row that was there, under whatever interface, is replaced in place.
  have hmem : ∀ r, r ∈ ((after writes).putPeerRow (.ofPeer p)).peers ↔
      r = .ofPeer p ∨ r ∈ (after writes).peers ∧ r.key ≠ p.identifier :=
    fun r => mem_put_row h.peers_sorted
  refine ⟨_, save_peer_eq hp, (h.put_peer hp).sound, rfl, ?_, ?_⟩
  · intro id
    simp only [peerRowsOf, List.mem_filter, hmem, beq_iff_eq]
    constructor
    · rintro ⟨r, ⟨rfl | ⟨-, hne⟩, hid⟩, hkey⟩
      · exact hid.symm
      · exact absurd hkey hne
    · rintro rfl
      exact ⟨.ofPeer p, ⟨.inl rfl, rfl⟩, rfl⟩
  · intro r hne
    rw [hmem]
    constructor
    · rintro (rfl | ⟨hr, -⟩)
      · exact absurd rfl hne
      · exact hr
    · exact fun hr => .inr ⟨hr, hne⟩

/-- A peer of one interface moves to another one. -/
theorem sound_after_two_interfaces :
    let writes : List Write :=
      [.saveInterface false (.new "wg0"), .saveInterface false (.new "wg1"),
        .savePeer false { Peer.blank with identifier := "phone", interfaceId := "wg0" }]
    (∃ r ∈ (after writes).peers, r.key = "phone" ∧ r.interfaceId = "wg0") ∧
      (after writes).Sound ∧ ∃ moved, (after writes).savePeer false
        { Peer.blank with identifier := "phone", interfaceId := "wg1" } = (.ok (), moved) ∧
      moved.Sound ∧ ∀ id, (∃ r ∈ moved.peerRowsOf id, r.key = "phone") ↔ id = "wg1" := by
  intro writes
  have hinterface : ∃ i ∈ (after writes).interfaces, i.key = "wg1" :=
    ⟨.ofInterface (.new "wg1"), List.mem_cons_of_mem _ (List.mem_singleton.mpr rfl), rfl⟩
  obtain ⟨hsound, hmoves⟩ := sound_after writes
  obtain ⟨moved, hsaved, hmoved, -, hrows, -⟩ := hmoves
    { Peer.blank with identifier := "phone", interfaceId := "wg1" } hinterface
  exact ⟨⟨_, List.mem_singleton.mpr rfl, rfl, rfl⟩, hsound, moved, hsaved, hmoved, hrows⟩

end Store

end TunnelKeeper
