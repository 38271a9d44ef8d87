import Mathlib.Data.Set.List
import TunnelKeeper.Proofs.Store.Invariant
import TunnelKeeper.Proofs.Text.Utf8

/-!
# Stores as maps

A store stands for two finite maps, from identifiers to interfaces and to peers (`Contents`). Calls
that write act on the maps as they do on the store (`contents_run`), and every call that reads is
determined by the maps (`Consistent.represents`). `after_represents` puts both together for every
store that calls can lead to.
-/

namespace TunnelKeeper

open Text

/-- The bytes of one text come before those of another one. -/
def BytesBelow (a b : String) : Prop := encodeUtf8 a.toList < encodeUtf8 b.toList

/-- Keys in the order of a table are in the order of their bytes. -/
theorem bytes_below_of_lt {a b : String} (h : a < b) : BytesBelow a b := encode_utf8_lt h

namespace Store

/-! ## Maps -/

/-- What a store stands for. -/
structure Contents where
  interfaces : InterfaceId → Option Interface
  peers : PeerId → Option Peer

/-- A map with another value at one place. -/
def update {α : Type} (m : String → Option α) (key : String) (value : Option α) :
    String → Option α :=
  fun k => if k = key then value else m k

namespace Contents

/-- No interface and no peer. -/
def empty : Contents := ⟨fun _ => none, fun _ => none⟩

/-- Saves an interface with its block in normal form. -/
def saveInterface (m : Contents) (i : Interface) : Except Error Unit × Contents :=
  (.ok (), { m with interfaces := update m.interfaces i.identifier (some i.settled) })

/-- Saves a peer if its interface is there. -/
def savePeer (m : Contents) (p : Peer) : Except Error Unit × Contents :=
  match m.interfaces p.interfaceId with
  | none => (.error (.missing (.interface p.interfaceId)), m)
  | some _ => (.ok (), { m with peers := update m.peers p.identifier (some p) })

/-- Deletes an interface and its peers if the interface is there. -/
def deleteInterface (m : Contents) (id : InterfaceId) : Except Error Unit × Contents :=
  match m.interfaces id with
  | none => (.error (.missing (.interface id)), m)
  | some _ =>
    (.ok (), {
      interfaces := update m.interfaces id none
      peers := fun k => (m.peers k).filter fun p => p.interfaceId ≠ id })

end Contents

/-- What a call does to the maps: nothing, if its caller has given up. -/
def Write.apply (m : Contents) : Write → Except Error Unit × Contents
  | .saveInterface false i => m.saveInterface i
  | .savePeer false p => m.savePeer p
  | .deleteInterface false id => m.deleteInterface id
  | .saveInterface true _ | .savePeer true _ | .deleteInterface true _ => (.error .cancelled, m)

/-- The maps that some calls, one after the other, leave behind. -/
def contentsAfter (writes : List Write) : Contents :=
  writes.foldl (fun m w => (w.apply m).2) .empty

/-- The maps of a store. -/
def contents (s : Store) : Contents where
  interfaces id := (s.interfaceRow? id).bind fun r => r.interface.toOption
  peers id := (s.peerRow? id).bind fun r => r.peer.toOption

/-! ## Calls that write -/

section

variable {s : Store} (h : s.Consistent)
include h

/-- A row that is found is the row of the value that the map holds. -/
theorem interface_row_eq_some {id : InterfaceId} {r : InterfaceRow}
    (hfind : s.interfaceRow? id = some r) :
    ∃ i, r = .ofInterface i ∧ i.identifier = id ∧ (contents s).interfaces id = some i.settled := by
  obtain ⟨hr, hkey⟩ := h.interfaces_sorted.find_eq_some_iff.mp hfind
  obtain ⟨i, rfl⟩ := h.interface_rows r hr
  refine ⟨i, rfl, hkey, ?_⟩
  simp only [contents, hfind, Option.bind_some, InterfaceRow.interface_of_interface]
  rfl

theorem peer_row_eq_some {id : PeerId} {r : PeerRow} (hfind : s.peerRow? id = some r) :
    ∃ p, r = .ofPeer p ∧ p.identifier = id ∧ (contents s).peers id = some p := by
  obtain ⟨hr, hkey⟩ := h.peers_sorted.find_eq_some_iff.mp hfind
  obtain ⟨p, rfl⟩ := h.peer_rows r hr
  refine ⟨p, rfl, hkey, ?_⟩
  simp only [contents, hfind, Option.bind_some, PeerRow.peer_of_peer]
  rfl

/-- An interface that is put is one more value of the map. -/
theorem contents_put_interface (i : Interface) :
    contents (s.putInterfaceRow (.ofInterface i)) =
      { contents s with
        interfaces := update (contents s).interfaces i.identifier (some i.settled) } := by
  simp only [contents, Contents.mk.injEq]
  refine ⟨?_, rfl⟩
  funext id
  have hfind := find_put_row h.interfaces_sorted (.ofInterface i) id
  rw [interfaceRow?, putInterfaceRow, hfind, update]
  by_cases heq : id = i.identifier
  · rw [if_pos (show id = (InterfaceRow.ofInterface i).key from heq), if_pos heq, Option.bind_some,
      InterfaceRow.interface_of_interface]
    rfl
  · rw [if_neg (show ¬ id = (InterfaceRow.ofInterface i).key from heq), if_neg heq]
    rfl

/-- A peer that is put is one more value of the map. -/
theorem contents_put_peer (p : Peer) :
    contents (s.putPeerRow (.ofPeer p)) =
      { contents s with peers := update (contents s).peers p.identifier (some p) } := by
  simp only [contents, Contents.mk.injEq]
  refine ⟨rfl, ?_⟩
  funext id
  have hfind := find_put_row h.peers_sorted (.ofPeer p) id
  rw [peerRow?, putPeerRow, hfind, update]
  by_cases heq : id = p.identifier
  · rw [if_pos (show id = (PeerRow.ofPeer p).key from heq), if_pos heq, Option.bind_some,
      PeerRow.peer_of_peer]
    rfl
  · rw [if_neg (show ¬ id = (PeerRow.ofPeer p).key from heq), if_neg heq]
    rfl

/-- An interface that is removed leaves the map, and its peers leave theirs. -/
theorem contents_remove (id : InterfaceId) :
    contents ((s.removePeersOf id).removeInterface id) = {
      interfaces := update (contents s).interfaces id none
      peers := fun k => ((contents s).peers k).filter fun p => p.interfaceId ≠ id } := by
  rw [contents, Contents.mk.injEq]
  constructor
  · funext k
    have hfind : ((s.removePeersOf id).removeInterface id).interfaceRow? k =
        (s.interfaceRow? k).filter fun r => r.key != id :=
      find_filter h.interfaces_sorted _ k
    rw [hfind, update]
    cases hrow : s.interfaceRow? k with
    | none => simp [contents, hrow]
    | some r =>
        obtain ⟨i, rfl, hkey, hvalue⟩ := interface_row_eq_some h hrow
        rw [hvalue, Option.filter_some]
        by_cases heq : k = id
        · rw [if_neg (by simp [InterfaceRow.ofInterface, hkey, heq]), if_pos heq]
          rfl
        · rw [if_pos (by simp [InterfaceRow.ofInterface, hkey, heq]), if_neg heq, Option.bind_some,
            InterfaceRow.interface_of_interface]
          rfl
  · funext k
    have hfind : ((s.removePeersOf id).removeInterface id).peerRow? k =
        (s.peerRow? k).filter fun r => r.interfaceId != id :=
      find_filter h.peers_sorted _ k
    rw [hfind]
    cases hrow : s.peerRow? k with
    | none => simp [contents, hrow]
    | some r =>
        obtain ⟨p, rfl, -, hvalue⟩ := peer_row_eq_some h hrow
        rw [hvalue, Option.filter_some, Option.filter_some]
        by_cases heq : p.interfaceId = id
        · rw [if_neg (by simp [PeerRow.ofPeer, heq]), if_neg (by simp [heq])]
          rfl
        · rw [if_pos (by simp [PeerRow.ofPeer, heq]), if_pos (by simp [heq]), Option.bind_some,
            PeerRow.peer_of_peer]
          rfl

/-- An interface that is not stored is not in the map either. -/
theorem interface_eq_none_iff {id : InterfaceId} :
    (contents s).interfaces id = none ↔ s.interfaceRow? id = none := by
  cases hrow : s.interfaceRow? id with
  | none => simp [contents, hrow]
  | some r =>
      obtain ⟨i, -, -, hvalue⟩ := interface_row_eq_some h hrow
      simp [hvalue]

/-- Nothing is removed with an interface that is not stored, since it has no peers. -/
theorem remove_missing {id : InterfaceId} (hid : s.interfaceRow? id = none) :
    (s.removePeersOf id).removeInterface id = s := by
  have hinterfaces := interface_row_eq_none_iff.mp hid
  have hkept : s.interfaces.filter (fun r => r.key != id) = s.interfaces :=
    List.filter_eq_self.mpr fun r hr => by simpa using hinterfaces r hr
  have hpeers : s.peers.filter (fun r => r.interfaceId != id) = s.peers := by
    refine List.filter_eq_self.mpr fun r hr => ?_
    -- A peer of `id` would have a stored interface under that key.
    obtain ⟨i, hi, hkey⟩ := h.linked r hr
    simpa [← hkey] using hinterfaces i hi
  simp only [removePeersOf, removeInterface, hkept, hpeers]

/-- A call that writes does to the maps what it does to the store, and gives the same answer. -/
theorem contents_run (w : Write) :
    (w.run s).1 = (w.apply (contents s)).1 ∧ contents (w.run s).2 = (w.apply (contents s)).2 := by
  cases w with
  | saveInterface cancelled i =>
      cases cancelled with
      | true => exact ⟨rfl, rfl⟩
      | false => exact ⟨rfl, contents_put_interface h i⟩
  | savePeer cancelled p =>
      cases cancelled with
      | true => exact ⟨rfl, rfl⟩
      | false =>
          simp only [Write.run, Write.apply, savePeer, Contents.savePeer, Bool.false_eq_true,
            if_false]
          cases hrow : s.interfaceRow? p.interfaceId with
          | none =>
              rw [(interface_eq_none_iff h).mpr hrow]
              exact ⟨rfl, rfl⟩
          | some r =>
              obtain ⟨i, -, -, hvalue⟩ := interface_row_eq_some h hrow
              rw [hvalue]
              exact ⟨rfl, contents_put_peer h p⟩
  | deleteInterface cancelled id =>
      cases cancelled with
      | true => exact ⟨rfl, rfl⟩
      | false =>
          simp only [Write.run, Write.apply, deleteInterface, Contents.deleteInterface,
            Bool.false_eq_true, if_false]
          cases hrow : s.interfaceRow? id with
          | none =>
              rw [(interface_eq_none_iff h).mpr hrow, remove_missing h hrow]
              exact ⟨rfl, rfl⟩
          | some r =>
              obtain ⟨i, -, -, hvalue⟩ := interface_row_eq_some h hrow
              rw [hvalue]
              exact ⟨rfl, contents_remove h id⟩

end

/-- Calls leave the same maps behind as in the store. -/
theorem contents_after (writes : List Write) : contents (after writes) = contentsAfter writes := by
  -- The calls start from any consistent store, so that the induction can go on behind the first.
  suffices hfold : ∀ s : Store, s.Consistent →
      contents (writes.foldl (fun s w => (w.run s).2) s) =
        writes.foldl (fun m w => (w.apply m).2) (contents s) from hfold empty consistent_empty
  induction writes with
  | nil => exact fun s _ => rfl
  | cons w writes ih =>
      intro s h
      rw [List.foldl_cons, List.foldl_cons, ih _ (h.run w), (contents_run h w).2]

/-! ## Calls that read -/

/-- Rows that read well are all read. -/
theorem map_m_map {α ρ β ε : Type} {row : α → ρ} {read : ρ → Except ε β} {value : α → β}
    (h : ∀ a, read (row a) = .ok (value a)) (l : List α) :
    (l.map row).mapM read = .ok (l.map value) := by
  induction l with
  | nil => rfl
  | cons a l ih =>
      rw [List.map_cons, List.mapM_cons, h, ih]
      rfl

/-- A store answers every question with what the maps hold: an interface or a peer is the one
under its identifier, lists hold every value once, in the order of the bytes of the identifiers. -/
structure Represents (s : Store) (m : Contents) : Prop where
  interface_keys : ∀ id i, m.interfaces id = some i → i.identifier = id
  peer_keys : ∀ id p, m.peers id = some p → p.identifier = id
  interface : ∀ id, s.interface false id =
    match m.interfaces id with
    | some i => .ok i
    | none => .error (.missing (.interface id))
  peer : ∀ id, s.peer false id =
    match m.peers id with
    | some p => .ok p
    | none => .error (.missing (.peer id))
  allInterfaces : ∃ l, s.allInterfaces false = .ok l ∧
    l.Pairwise (fun i j => BytesBelow i.identifier j.identifier) ∧
      ∀ i, i ∈ l ↔ ∃ id, m.interfaces id = some i
  interfaceAndPeers : ∀ id,
    match m.interfaces id with
    | none => s.interfaceAndPeers s false id = .error (.missing (.interface id))
    | some i => ∃ l, s.interfaceAndPeers s false id = .ok (i, l) ∧
      l.Pairwise (fun p q => BytesBelow p.identifier q.identifier) ∧
        ∀ p, p ∈ l ↔ p.interfaceId = id ∧ ∃ k, m.peers k = some p

section

variable {s : Store} (h : s.Consistent)
include h

/-- The interface of an identifier is read. -/
theorem interface_eq (id : InterfaceId) : s.interface false id =
    match (contents s).interfaces id with
    | some i => .ok i
    | none => .error (.missing (.interface id)) := by
  simp only [Store.interface, unlessCancelled, Bool.false_eq_true, if_false]
  cases hrow : s.interfaceRow? id with
  | none => rw [(interface_eq_none_iff h).mpr hrow]
  | some r =>
      obtain ⟨i, rfl, -, hvalue⟩ := interface_row_eq_some h hrow
      rw [hvalue]
      exact InterfaceRow.interface_of_interface i

/-- The peer of an identifier is read. -/
theorem peer_eq (id : PeerId) : s.peer false id =
    match (contents s).peers id with
    | some p => .ok p
    | none => .error (.missing (.peer id)) := by
  simp only [Store.peer, unlessCancelled, Bool.false_eq_true, if_false]
  cases hrow : s.peerRow? id with
  | none =>
      have hnone : (contents s).peers id = none := by simp [contents, hrow]
      rw [hnone]
  | some r =>
      obtain ⟨p, rfl, -, hvalue⟩ := peer_row_eq_some h hrow
      rw [hvalue]
      exact PeerRow.peer_of_peer p

/-- The interfaces that are stored, and how the map holds them. -/
theorem interfaces_eq_some_iff {id : InterfaceId} {i : Interface} :
    (contents s).interfaces id = some i ↔
      ∃ j, .ofInterface j ∈ s.interfaces ∧ j.identifier = id ∧ j.settled = i := by
  constructor
  · intro hvalue
    cases hrow : s.interfaceRow? id with
    | none => simp [(interface_eq_none_iff h).mpr hrow] at hvalue
    | some r =>
        obtain ⟨j, rfl, hkey, hsettled⟩ := interface_row_eq_some h hrow
        have hmem := (h.interfaces_sorted.find_eq_some_iff.mp hrow).1
        exact ⟨j, hmem, hkey, Option.some.inj (hsettled.symm.trans hvalue)⟩
  · rintro ⟨j, hmem, rfl, rfl⟩
    have hrow : s.interfaceRow? j.identifier = some (.ofInterface j) :=
      h.interfaces_sorted.find_eq_some_iff.mpr ⟨hmem, rfl⟩
    simp only [contents, hrow, Option.bind_some, InterfaceRow.interface_of_interface]
    rfl

/-- The peers that are stored, and how the map holds them. -/
theorem peers_eq_some_iff {id : PeerId} {p : Peer} :
    (contents s).peers id = some p ↔ .ofPeer p ∈ s.peers ∧ p.identifier = id := by
  constructor
  · intro hvalue
    cases hrow : s.peerRow? id with
    | none => simp [contents, hrow] at hvalue
    | some r =>
        obtain ⟨q, rfl, hkey, hread⟩ := peer_row_eq_some h hrow
        obtain rfl := Option.some.inj (hread.symm.trans hvalue)
        exact ⟨(h.peers_sorted.find_eq_some_iff.mp hrow).1, hkey⟩
  · rintro ⟨hmem, rfl⟩
    have hrow : s.peerRow? p.identifier = some (.ofPeer p) :=
      h.peers_sorted.find_eq_some_iff.mpr ⟨hmem, rfl⟩
    simp only [contents, hrow, Option.bind_some, PeerRow.peer_of_peer]
    rfl

/-- All interfaces are listed once each, in the order of the bytes of their identifiers. -/
theorem all_interfaces_eq : ∃ l, s.allInterfaces false = .ok l ∧
    l.Pairwise (fun i j => BytesBelow i.identifier j.identifier) ∧
      ∀ i, i ∈ l ↔ ∃ id, (contents s).interfaces id = some i := by
  obtain ⟨is, his⟩ : s.interfaces ∈ Set.range (List.map InterfaceRow.ofInterface) := by
    rw [Set.range_list_map]
    exact fun r hr => (h.interface_rows r hr).imp fun _ => Eq.symm
  have hsorted := h.interfaces_sorted
  rw [← his, SortedRows, List.pairwise_map] at hsorted
  refine ⟨is.map Interface.settled, ?_, ?_, ?_⟩
  · rw [allInterfaces, ← his]
    exact map_m_map InterfaceRow.interface_of_interface is
  · rw [List.pairwise_map]
    exact hsorted.imp bytes_below_of_lt
  · intro i
    simp only [interfaces_eq_some_iff h, ← his]
    constructor
    · intro hi
      obtain ⟨j, hj, rfl⟩ := List.mem_map.mp hi
      exact ⟨_, j, List.mem_map.mpr ⟨j, hj, rfl⟩, rfl, rfl⟩
    · rintro ⟨_, j, hj, -, rfl⟩
      -- Rows are equal only if they read alike, and what they read as is in normal form.
      obtain ⟨k, hk, heq⟩ := List.mem_map.mp hj
      refine List.mem_map.mpr ⟨k, hk, ?_⟩
      have hread := congrArg InterfaceRow.interface heq
      rw [InterfaceRow.interface_of_interface, InterfaceRow.interface_of_interface] at hread
      exact Except.ok.inj hread

/-- The peers of an interface are listed once each, in the order of the bytes of their
identifiers. -/
theorem peers_of_eq (id : InterfaceId) : ∃ l, s.peersOf false id = .ok l ∧
    l.Pairwise (fun p q => BytesBelow p.identifier q.identifier) ∧
      ∀ p, p ∈ l ↔ p.interfaceId = id ∧ ∃ k, (contents s).peers k = some p := by
  obtain ⟨ps, hps⟩ : s.peers ∈ Set.range (List.map PeerRow.ofPeer) := by
    rw [Set.range_list_map]
    exact fun r hr => (h.peer_rows r hr).imp fun _ => Eq.symm
  have hsorted := h.peers_sorted.filter fun r => r.interfaceId == id
  have hrows : s.peerRowsOf id = (ps.filter fun p => p.interfaceId == id).map .ofPeer := by
    rw [peerRowsOf, ← hps, List.filter_map]
    rfl
  rw [show s.peers.filter (fun r => r.interfaceId == id) = s.peerRowsOf id from rfl, hrows,
    SortedRows, List.pairwise_map] at hsorted
  refine ⟨ps.filter fun p => p.interfaceId == id, ?_, ?_, ?_⟩
  · rw [peersOf, hrows]
    have hread := map_m_map PeerRow.peer_of_peer (ps.filter fun p => p.interfaceId == id)
    rwa [List.map_id'] at hread
  · exact hsorted.imp bytes_below_of_lt
  · intro p
    rw [List.mem_filter, beq_iff_eq]
    simp only [peers_eq_some_iff h, ← hps]
    constructor
    · rintro ⟨hp, hid⟩
      exact ⟨hid, _, List.mem_map.mpr ⟨p, hp, rfl⟩, rfl⟩
    · rintro ⟨hid, _, hp, -⟩
      obtain ⟨q, hq, heq⟩ := List.mem_map.mp hp
      have hread := congrArg PeerRow.peer heq
      rw [PeerRow.peer_of_peer, PeerRow.peer_of_peer] at hread
      exact ⟨Except.ok.inj hread ▸ hq, hid⟩

/-- A consistent store answers every question with what its maps hold. -/
theorem represents_contents : s.Represents (contents s) where
  interface_keys := by
    intro id i hvalue
    obtain ⟨j, -, hkey, rfl⟩ := (interfaces_eq_some_iff h).mp hvalue
    exact hkey
  peer_keys := fun id p hvalue => ((peers_eq_some_iff h).mp hvalue).2
  interface := interface_eq h
  peer := peer_eq h
  allInterfaces := all_interfaces_eq h
  interfaceAndPeers := by
    intro id
    obtain ⟨l, hl, hsorted, hmem⟩ := peers_of_eq h id
    cases hvalue : (contents s).interfaces id with
    | none => simp only [Store.interfaceAndPeers, interface_eq h, hvalue, bind, Except.bind]
    | some i =>
        refine ⟨l, ?_, hsorted, hmem⟩
        simp only [Store.interfaceAndPeers, interface_eq h, hvalue, hl, bind, Except.bind]

end

end Store

end TunnelKeeper
