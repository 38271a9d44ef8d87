import TunnelKeeper.Proofs.Store.Refinement

/-!
# An interface and its peers from two moments

An interface and its peers are read by two queries, and other callers may write between them. What
comes back is the interface of the first moment with the peers of the second one
(`interface_and_peers_between`). It is what one undisturbed call would return at some moment
between the two if the calls up to then leave the interface alone and those from then on leave its
peers alone. In any other order it may be a pair that was never stored (`pair_never_stored`).
-/

namespace TunnelKeeper

namespace Store

/-! ## Calls that leave an interface or its peers alone -/

/-- A call neither saves an interface nor deletes it. -/
def Write.LeavesInterface (id : InterfaceId) : Write → Prop
  | .saveInterface false i => i.identifier ≠ id
  | .deleteInterface false other => other ≠ id
  | _ => True

/-- A call neither saves a peer of an interface, nor one in the place of such a peer, nor deletes
the interface. -/
def Write.LeavesPeers (s : Store) (id : InterfaceId) : Write → Prop
  | .savePeer false p => p.interfaceId ≠ id ∧ ∀ r ∈ s.peerRowsOf id, r.key ≠ p.identifier
  | .deleteInterface false other => other ≠ id
  | _ => True

theorem Write.LeavesPeers.congr {s t : Store} {id : InterfaceId} {w : Write}
    (h : w.LeavesPeers s id) (hrows : t.peerRowsOf id = s.peerRowsOf id) :
    w.LeavesPeers t id := by
  unfold Write.LeavesPeers at h ⊢
  rw [hrows]
  exact h

section

variable {s : Store} {id : InterfaceId} {w : Write}

theorem interface_run (h : s.Consistent) (hw : w.LeavesInterface id) :
    (w.run s).2.interface false id = s.interface false id := by
  -- Only the values that the calls are for change in the maps.
  have hvalue : (w.apply (contents s)).2.interfaces id = (contents s).interfaces id := by
    cases w with
    | saveInterface cancelled i =>
        cases cancelled with
        | true => rfl
        | false => exact if_neg (Ne.symm hw)
    | savePeer cancelled p =>
        cases cancelled with
        | true => rfl
        | false =>
            simp only [Write.apply, Contents.savePeer]
            split <;> rfl
    | deleteInterface cancelled other =>
        cases cancelled with
        | true => rfl
        | false =>
            simp only [Write.apply, Contents.deleteInterface]
            split
            · rfl
            · exact if_neg (Ne.symm hw)
  rw [interface_eq (h.run w), interface_eq h, (contents_run h w).2, hvalue]

theorem peer_rows_run (hw : w.LeavesPeers s id) :
    (w.run s).2.peerRowsOf id = s.peerRowsOf id := by
  cases w with
  | saveInterface cancelled i =>
      cases cancelled with
      | true => rfl
      | false => rfl
  | savePeer cancelled p =>
      cases cancelled with
      | true => rfl
      | false =>
          obtain ⟨hother, hplace⟩ := hw
          simp only [Write.run, savePeer, Bool.false_eq_true, if_false]
          split
          · rfl
          · refine filter_put_row (by simpa [PeerRow.ofPeer] using hother) fun r hr hkey => ?_
            -- The place that the peer takes is not one of a peer of the interface.
            refine Bool.eq_false_iff.mpr fun hid => ?_
            exact hplace r (List.mem_filter.mpr ⟨hr, hid⟩) hkey.symm
  | deleteInterface cancelled other =>
      cases cancelled with
      | true => rfl
      | false =>
          have hrows : ((s.removePeersOf other).removeInterface other).peerRowsOf id =
              s.peerRowsOf id := by
            show (s.peers.filter _).filter _ = s.peers.filter _
            rw [List.filter_filter]
            refine List.filter_congr fun r _ => ?_
            by_cases hid : r.interfaceId = id
            · simpa [hid] using Ne.symm hw
            · simp [hid]
          simp only [Write.run, deleteInterface, Bool.false_eq_true, if_false]
          split <;> exact hrows

end

theorem after_concat (writes : List Write) (w : Write) :
    after (writes ++ [w]) = (w.run (after writes)).2 := by
  simp [after, List.foldl_append]

section

variable {id : InterfaceId} {writes more : List Write}

/-- Calls that leave an interface alone leave it as it is. -/
theorem interface_after (h : ∀ w ∈ more, w.LeavesInterface id) :
    (after (writes ++ more)).interface false id = (after writes).interface false id := by
  induction more generalizing writes with
  | nil => rw [List.append_nil]
  | cons w rest ih =>
      obtain ⟨hw, hrest⟩ := List.forall_mem_cons.mp h
      have hstep := interface_run (consistent_after writes) hw
      rw [← after_concat] at hstep
      rw [List.append_cons, ih hrest, hstep]

/-- Calls that leave the peers of an interface alone leave them as they are. -/
theorem peer_rows_after (h : ∀ w ∈ more, w.LeavesPeers (after writes) id) :
    (after (writes ++ more)).peerRowsOf id = (after writes).peerRowsOf id := by
  induction more generalizing writes with
  | nil => rw [List.append_nil]
  | cons w rest ih =>
      obtain ⟨hw, hrest⟩ := List.forall_mem_cons.mp h
      have hstep := peer_rows_run hw
      rw [← after_concat] at hstep
      rw [List.append_cons, ih fun w' hw' => (hrest w' hw').congr hstep, hstep]

end

/-! ## The pair -/

/-- The pair is made of what each query returns. -/
theorem interface_and_peers_eq_ok_iff {first second : Store} {cancelled : Bool}
    {id : InterfaceId} {i : Interface} {peers : List Peer} :
    first.interfaceAndPeers second cancelled id = .ok (i, peers) ↔
      first.interface cancelled id = .ok i ∧ second.peersOf cancelled id = .ok peers := by
  unfold interfaceAndPeers
  cases first.interface cancelled id with
  | error fault => simp [bind, Except.bind]
  | ok j =>
      cases second.peersOf cancelled id with
      | error fault => simp [bind, Except.bind]
      | ok ps => simp [bind, Except.bind]

/-- A pair that is read around some calls has the interface of the first moment, and the peers that
are stored for it at the last one. It is read as one undisturbed call would at a moment in between
if the calls up to that moment leave the interface alone and those after it leave its peers
alone. -/
theorem interface_and_peers_between (writes between : List Write) (cancelled : Bool)
    (id : InterfaceId) :
    let first := after writes
    let last := after (writes ++ between)
    (∀ i peers, first.interfaceAndPeers last cancelled id = .ok (i, peers) →
      (∃ before, first.interfaceAndPeers first cancelled id = .ok (i, before)) ∧
        peers.Pairwise (fun p q => BytesBelow p.identifier q.identifier) ∧
        ∀ p, p ∈ peers ↔ p.interfaceId = id ∧ last.peer cancelled p.identifier = .ok p) ∧
      ∀ upTo later, between = upTo ++ later → (∀ w ∈ upTo, w.LeavesInterface id) →
        (∀ w ∈ later, w.LeavesPeers (after (writes ++ upTo)) id) →
        first.interfaceAndPeers last cancelled id =
          (after (writes ++ upTo)).interfaceAndPeers (after (writes ++ upTo)) cancelled id := by
  intro first last
  constructor
  · intro i peers hpair
    cases cancelled with
    | true => cases hpair
    | false =>
        obtain ⟨hinterface, hpeers⟩ := interface_and_peers_eq_ok_iff.mp hpair
        have hlast : last.Consistent := consistent_after _
        obtain ⟨before, hbefore, -, -⟩ := peers_of_eq (consistent_after writes) id
        obtain ⟨stored, hstored, hsorted, hmem⟩ := peers_of_eq hlast id
        obtain rfl := Except.ok.inj (hpeers.symm.trans hstored)
        refine ⟨⟨before, interface_and_peers_eq_ok_iff.mpr ⟨hinterface, hbefore⟩⟩, hsorted,
          fun p => ?_⟩
        rw [hmem, peer_eq hlast]
        refine and_congr_right fun _ => ⟨?_, ?_⟩
        · rintro ⟨key, hkey⟩
          obtain rfl := ((peers_eq_some_iff hlast).mp hkey).2
          rw [hkey]
        · intro hread
          cases hkey : (contents last).peers p.identifier with
          | none =>
              rw [hkey] at hread
              cases hread
          | some q =>
              rw [hkey] at hread
              cases hread
              exact ⟨_, hkey⟩
  · rintro upTo later rfl hupTo hlater
    cases cancelled with
    | true => rfl
    | false =>
        have hpeers : last.peerRowsOf id = (after (writes ++ upTo)).peerRowsOf id := by
          rw [show last = after (writes ++ upTo ++ later) by simp [last, List.append_assoc]]
          exact peer_rows_after hlater
        unfold interfaceAndPeers peersOf
        rw [hpeers, interface_after hupTo]

/-- An interface is changed and then gets a peer. Read around both calls it has its peer but not
the change, which is so in no store at all. -/
theorem pair_never_stored :
    let office := Interface.new "wg0"
    let changed := { office with listenPort := 51821 }
    let phone := { Peer.blank with identifier := "phone", interfaceId := "wg0" }
    let writes : List Write := [.saveInterface false office]
    let between : List Write := [.saveInterface false changed, .savePeer false phone]
    (after writes).interfaceAndPeers (after (writes ++ between)) false "wg0" =
        .ok (office, [phone]) ∧
      ∀ n, (after (writes ++ between.take n)).interfaceAndPeers
        (after (writes ++ between.take n)) false "wg0" ≠ .ok (office, [phone]) := by
  intro office changed phone writes between
  have hpeers : (after (writes ++ between)).peersOf false "wg0" = .ok [phone] :=
    map_m_map PeerRow.peer_of_peer [phone]
  refine ⟨interface_and_peers_eq_ok_iff.mpr ⟨interface_put_self sorted_rows_nil, hpeers⟩, ?_⟩
  intro n hpair
  obtain ⟨hinterface, hphone⟩ := interface_and_peers_eq_ok_iff.mp hpair
  rcases n with - | - | n
  -- Before the peer is saved there is none.
  · have hnone : (after (writes ++ between.take 0)).peersOf false "wg0" = .ok [] := rfl
    cases hnone.symm.trans hphone
  · have hnone : (after (writes ++ between.take 1)).peersOf false "wg0" = .ok [] := rfl
    cases hnone.symm.trans hphone
  -- From then on the interface has its change.
  · have hput : (after (writes ++ [.saveInterface false changed])).interface false "wg0" =
        .ok changed := by
      rw [after_concat]
      exact interface_put_self (consistent_after writes).interfaces_sorted
    have hchanged : (after (writes ++ between)).interface false "wg0" = .ok changed := by
      rw [← hput, show writes ++ between = writes ++ [.saveInterface false changed] ++
        [.savePeer false phone] from rfl]
      exact interface_after (by simp [Write.LeavesInterface])
    rw [List.take_of_length_le (by simp [between])] at hinterface
    have heq := Except.ok.inj (hchanged.symm.trans hinterface)
    exact absurd (congrArg Interface.listenPort heq) (by decide)

end Store

end TunnelKeeper
