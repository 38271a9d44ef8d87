import Mathlib.Data.List.Forall2
import TunnelKeeper.Proofs.Obfuscation
import TunnelKeeper.Proofs.Store.Invariant

/-!
# Stored interfaces with empty blocks

A row holds the block as it was saved, so rows of an interface with an empty block and without any
differ. They read alike, and so do the stores that such rows are in (`Store.ReadsAlike`): every call
that reads answers the same of both, and every call that writes answers the same and leaves stores
behind that read alike (`ReadsAlike.run`). `reads_alike_after` says so of whole sequences of calls.
-/

namespace TunnelKeeper

/-- An interface apart from its block, which may be left out if it is empty. -/
inductive Interface.LeavesOut (i : Interface) : Interface → Prop
  | intro {block : Option Obfuscation}
      (h : Obfuscation.LeftOut (fun o => o.isEmpty = true) i.obfuscation block) :
      LeavesOut i { i with obfuscation := block }

/-- An interface in normal form does not show whether an empty block was left out. -/
theorem Interface.settled_leave_out {i i' : Interface} (h : i.LeavesOut i') :
    i'.settled = i.settled := by
  obtain ⟨hblock⟩ := h
  simp only [settled, withObfuscation, hblock.present_block_normalized]

/-! ## Rows -/

/-- Two rows under the same key that hold the same interface. -/
structure InterfaceRow.ReadsAlike (r r' : InterfaceRow) : Prop where
  key : r'.key = r.key
  value : r'.interface = r.interface

namespace InterfaceRow

theorem ReadsAlike.refl (r : InterfaceRow) : r.ReadsAlike r := ⟨rfl, rfl⟩

/-- Rows read alike whether or not an empty block was left out of what is written in them. -/
theorem reads_alike_of_decode {r r' : InterfaceRow} {i i' : Interface} (hkey : r'.key = r.key)
    (hr : Json.decodeText Interface.decoder r.data = .ok i)
    (hr' : Json.decodeText Interface.decoder r'.data = .ok i') (h : i.LeavesOut i') :
    r.ReadsAlike r' where
  key := hkey
  value := by simp only [interface, hr, hr', Interface.settled_leave_out h]

theorem reads_alike_leave_out {i i' : Interface} (h : i.LeavesOut i') :
    (ofInterface i).ReadsAlike (ofInterface i') := by
  have hkey : i'.identifier = i.identifier := by
    obtain ⟨-⟩ := h
    rfl
  exact reads_alike_of_decode hkey (Interface.decode_text_write i)
    (Interface.decode_text_write i') h

end InterfaceRow

/-! ## Tables -/

section

variable {rows rows' : List InterfaceRow} (h : List.Forall₂ InterfaceRow.ReadsAlike rows rows')
include h

theorem put_row_alike {row row' : InterfaceRow} (hrow : row.ReadsAlike row') :
    List.Forall₂ InterfaceRow.ReadsAlike (putRow InterfaceRow.key row rows)
      (putRow InterfaceRow.key row' rows') := by
  induction h with
  | nil => exact .cons hrow .nil
  | @cons r r' rest rest' hr hrest ih =>
      unfold putRow
      rw [hrow.key, hr.key]
      split
      · exact .cons hrow hrest
      · split
        · exact .cons hrow (.cons hr hrest)
        · exact .cons hr ih

theorem filter_alike (id : InterfaceId) :
    List.Forall₂ InterfaceRow.ReadsAlike (rows.filter fun r => r.key != id)
      (rows'.filter fun r => r.key != id) := by
  induction h with
  | nil => exact .nil
  | @cons r r' rest rest' hr _ ih =>
      rw [List.filter_cons, List.filter_cons, hr.key]
      split
      · exact .cons hr ih
      · exact ih

/-- A key is found in both tables or in none of them. -/
theorem find_alike (id : InterfaceId) :
    (rows.find? (fun r => r.key == id) = none ∧ rows'.find? (fun r => r.key == id) = none) ∨
      ∃ r r', rows.find? (fun r => r.key == id) = some r ∧
        rows'.find? (fun r => r.key == id) = some r' ∧ r.ReadsAlike r' := by
  induction h with
  | nil => exact .inl ⟨rfl, rfl⟩
  | @cons r r' rest rest' hr _ ih =>
      rw [List.find?_cons, List.find?_cons, hr.key]
      split
      · exact .inr ⟨r, r', rfl, rfl, hr⟩
      · exact ih

theorem read_all_alike : rows'.mapM InterfaceRow.interface = rows.mapM InterfaceRow.interface := by
  induction h with
  | nil => rfl
  | cons hr _ ih => rw [List.mapM_cons, List.mapM_cons, hr.value, ih]

end

/-! ## Stores -/

namespace Store

/-- Two stores whose rows of interfaces read alike, with the same peers. -/
structure ReadsAlike (s s' : Store) : Prop where
  interfaces : List.Forall₂ InterfaceRow.ReadsAlike s.interfaces s'.interfaces
  peers : s'.peers = s.peers

namespace ReadsAlike

theorem refl (s : Store) : s.ReadsAlike s where
  interfaces := List.forall₂_same.mpr fun r _ => .refl r
  peers := rfl

variable {s s' : Store} (h : s.ReadsAlike s')
include h

/-! ### Calls that read -/

theorem interface (cancelled : Bool) (id : InterfaceId) :
    s'.interface cancelled id = s.interface cancelled id := by
  unfold Store.interface interfaceRow?
  rcases find_alike h.interfaces id with ⟨hnone, hnone'⟩ | ⟨r, r', hsome, hsome', hrow⟩
  · rw [hnone, hnone']
  · rw [hsome, hsome']
    simp only [hrow.value]

theorem peer (cancelled : Bool) (id : PeerId) : s'.peer cancelled id = s.peer cancelled id := by
  unfold Store.peer peerRow?
  rw [h.peers]

theorem allInterfaces (cancelled : Bool) :
    s'.allInterfaces cancelled = s.allInterfaces cancelled := by
  unfold Store.allInterfaces
  rw [read_all_alike h.interfaces]

theorem peersOf (cancelled : Bool) (id : InterfaceId) :
    s'.peersOf cancelled id = s.peersOf cancelled id := by
  unfold Store.peersOf peerRowsOf
  rw [h.peers]

theorem interfaceAndPeers (cancelled : Bool) (id : InterfaceId) :
    s'.interfaceAndPeers s' cancelled id = s.interfaceAndPeers s cancelled id := by
  unfold Store.interfaceAndPeers
  rw [h.interface, h.peersOf]

/-! ### Calls that write -/

theorem put_interface {r r' : InterfaceRow} (hrow : r.ReadsAlike r') :
    (s.putInterfaceRow r).ReadsAlike (s'.putInterfaceRow r') where
  interfaces := put_row_alike h.interfaces hrow
  peers := h.peers

theorem put_peer (r : PeerRow) : (s.putPeerRow r).ReadsAlike (s'.putPeerRow r) where
  interfaces := h.interfaces
  peers := by
    simp only [putPeerRow, h.peers]

theorem remove_interface (id : InterfaceId) :
    ((s.removePeersOf id).removeInterface id).ReadsAlike
      ((s'.removePeersOf id).removeInterface id) where
  interfaces := filter_alike h.interfaces id
  peers := by
    simp only [removePeersOf, removeInterface, h.peers]

end ReadsAlike

/-- A call apart from the block of an interface that it saves, which may be left out if it is
empty. -/
inductive Write.LeavesOut : Write → Write → Prop
  | same (w : Write) : LeavesOut w w
  | saveInterface (cancelled : Bool) {i i' : Interface} (h : i.LeavesOut i') :
      LeavesOut (.saveInterface cancelled i) (.saveInterface cancelled i')

/-- A call gives the same answer on stores that read alike and leaves such stores behind. -/
theorem ReadsAlike.run {s s' : Store} (h : s.ReadsAlike s') {w w' : Write} (hw : w.LeavesOut w') :
    (w'.run s').1 = (w.run s).1 ∧ (w.run s).2.ReadsAlike (w'.run s').2 := by
  cases hw with
  | saveInterface cancelled hi =>
      cases cancelled with
      | true => exact ⟨rfl, h⟩
      | false => exact ⟨rfl, h.put_interface (InterfaceRow.reads_alike_leave_out hi)⟩
  | same =>
      cases w with
      | saveInterface cancelled i =>
          cases cancelled with
          | true => exact ⟨rfl, h⟩
          | false => exact ⟨rfl, h.put_interface (.refl _)⟩
      | savePeer cancelled p =>
          cases cancelled with
          | true => exact ⟨rfl, h⟩
          | false =>
              simp only [Write.run, savePeer, interfaceRow?, Bool.false_eq_true, if_false]
              rcases find_alike h.interfaces p.interfaceId with
                ⟨hnone, hnone'⟩ | ⟨r, r', hsome, hsome', -⟩
              · rw [hnone, hnone']
                exact ⟨rfl, h⟩
              · rw [hsome, hsome']
                exact ⟨rfl, h.put_peer _⟩
      | deleteInterface cancelled id =>
          cases cancelled with
          | true => exact ⟨rfl, h⟩
          | false =>
              simp only [Write.run, deleteInterface, interfaceRow?, Bool.false_eq_true, if_false]
              rcases find_alike h.interfaces id with
                ⟨hnone, hnone'⟩ | ⟨r, r', hsome, hsome', -⟩
              · rw [hnone, hnone']
                exact ⟨rfl, h.remove_interface id⟩
              · rw [hsome, hsome']
                exact ⟨rfl, h.remove_interface id⟩

/-- Stores that calls lead to read alike if the calls differ in empty blocks that are left out. -/
theorem reads_alike_after {ws ws' : List Write} (hws : List.Forall₂ Write.LeavesOut ws ws') :
    (after ws).ReadsAlike (after ws') := by
  suffices hfold : ∀ s s' : Store, s.ReadsAlike s' →
      (ws.foldl (fun s w => (w.run s).2) s).ReadsAlike
        (ws'.foldl (fun s w => (w.run s).2) s') from hfold _ _ (.refl empty)
  induction hws with
  | nil => exact fun _ _ h => h
  | cons hw _ ih => exact fun s s' h => ih _ _ (h.run hw).2

end Store

end TunnelKeeper
