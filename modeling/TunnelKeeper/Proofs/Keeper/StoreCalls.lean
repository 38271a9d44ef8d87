import TunnelKeeper.Proofs.Keeper.Bootstrap

/-!
# Calls that fail

A call to the store that fails leaves both tables as they were (`StoreCall.failure_keeps_store`).
Deleting an interface removes its peers before it looks whether there is such an interface; that
this does no harm follows from the stores that calls lead to, where a peer has a stored interface.
-/

namespace TunnelKeeper

open Store (Contents contents contentsAfter)

/-- The calls to the store, by what they give. -/
inductive StoreCall : Type → Type
  | interfaceAndPeers (id : InterfaceId) : StoreCall (Interface × List Peer)
  | interface (id : InterfaceId) : StoreCall Interface
  | peer (id : PeerId) : StoreCall Peer
  | interfaces : StoreCall (List Interface)
  | saveInterface (i : Interface) : StoreCall Unit
  | savePeer (p : Peer) : StoreCall Unit
  | deleteInterface (id : InterfaceId) : StoreCall Unit

namespace StoreCall

variable {σ α : Type}

/-- What a call is counted as. -/
def kind : StoreCall α → Call
  | .interfaceAndPeers _ => .interfaceAndPeers
  | .interface _ => .interface
  | .peer _ => .peer
  | .interfaces => .interfaces
  | .saveInterface i => .saveInterface i.identifier
  | .savePeer _ => .savePeer
  | .deleteInterface _ => .deleteInterface

/-- A call on behalf of a request. -/
def act (r : Request) : StoreCall α → Act σ α
  | .interfaceAndPeers id => Act.interfaceAndPeers r id
  | .interface id => Act.interface r id
  | .peer id => Act.peer r id
  | .interfaces => Act.interfaces r
  | .saveInterface i => Act.saveInterface r i
  | .savePeer p => Act.savePeer r p
  | .deleteInterface id => Act.deleteInterface r id

/-- What a call gives and what it makes of a store. -/
def run (s : Store) (cancelled : Bool) : StoreCall α → Except Error α × Store
  | .interfaceAndPeers id => (s.interfaceAndPeers s cancelled id, s)
  | .interface id => (s.interface cancelled id, s)
  | .peer id => (s.peer cancelled id, s)
  | .interfaces => (s.allInterfaces cancelled, s)
  | .saveInterface i => s.saveInterface cancelled i
  | .savePeer p => s.savePeer cancelled p
  | .deleteInterface id => s.deleteInterface cancelled id

/-- What a call needs and does not find among some interfaces and peers. -/
def lacks (m : Contents) : StoreCall α → Option Missing
  | .interfaceAndPeers id | .interface id | .deleteInterface id =>
    if m.interfaces id = none then some (.interface id) else none
  | .peer id => if m.peers id = none then some (.peer id) else none
  | .savePeer p =>
    if m.interfaces p.interfaceId = none then some (.interface p.interfaceId) else none
  | .interfaces | .saveInterface _ => none

/-- Every call is one call to the store. -/
theorem act_eq_call (c : StoreCall α) (r : Request) :
    c.act r = (Act.call c.kind fun _ w => ((c.run w.store (Act.isCancelled r w)).1,
      { w with store := (c.run w.store (Act.isCancelled r w)).2 }) : Act σ α) := by
  cases c <;> rfl

/-- A call fails by itself, or does to the store what it does. -/
theorem act_eq (c : StoreCall α) (r : Request) (s : Services σ) (w : World σ) :
    c.act r s w =
      match s.fault? w.calls.length c.kind with
      | some e => (.error e, { w with calls := c.kind :: w.calls })
      | none => ((c.run w.store (Act.isCancelled r w)).1, { w with
        store := (c.run w.store (Act.isCancelled r w)).2, calls := c.kind :: w.calls }) := by
  rw [act_eq_call]
  cases hfault : s.fault? w.calls.length c.kind with
  | some e => exact Act.call_of_fault hfault
  | none => exact Act.call_of_none hfault

/-- Whoever has given up is told so and changes nothing. -/
theorem run_cancelled (c : StoreCall α) (store : Store) :
    c.run store true = (.error .cancelled, store) := by
  cases c <;> rfl

section

variable {store : Store} (h : store.Consistent)
include h

/-- A call fails exactly if something is missing, and then it changes nothing. -/
theorem run_cases (c : StoreCall α) :
    match c.lacks (contents store) with
    | some m => c.run store false = (.error (.missing m), store)
    | none => ∃ a, (c.run store false).1 = .ok a := by
  cases c with
  | interfaceAndPeers id =>
      have hread := (Store.represents_contents h).interfaceAndPeers id
      cases hvalue : (contents store).interfaces id with
      | none =>
          rw [hvalue] at hread
          simp only [lacks, run, hvalue, if_true, hread]
      | some i =>
          rw [hvalue] at hread
          obtain ⟨peers, hpeers, -⟩ := hread
          simp only [lacks, run, hvalue, reduceCtorEq, if_false]
          exact ⟨_, hpeers⟩
  | interface id =>
      have hread := Store.interface_eq h id
      cases hvalue : (contents store).interfaces id with
      | none => simp only [lacks, run, hvalue, if_true, hread]
      | some i =>
          rw [hvalue] at hread
          simp only [lacks, run, hvalue, reduceCtorEq, if_false]
          exact ⟨_, hread⟩
  | peer id =>
      have hread := Store.peer_eq h id
      cases hvalue : (contents store).peers id with
      | none => simp only [lacks, run, hvalue, if_true, hread]
      | some p =>
          rw [hvalue] at hread
          simp only [lacks, run, hvalue, reduceCtorEq, if_false]
          exact ⟨_, hread⟩
  | interfaces =>
      obtain ⟨l, hlist, -⟩ := Store.all_interfaces_eq h
      exact ⟨l, hlist⟩
  | saveInterface i => exact ⟨(), rfl⟩
  | savePeer p =>
      by_cases hvalue : (contents store).interfaces p.interfaceId = none
      · have hrow := (Store.interface_eq_none_iff h).mp hvalue
        simp only [lacks, run, Store.savePeer, hvalue, hrow, if_true, Bool.false_eq_true, if_false]
      · obtain ⟨row, hrow⟩ :=
          Option.ne_none_iff_exists'.mp (mt (Store.interface_eq_none_iff h).mpr hvalue)
        simp only [lacks, run, Store.savePeer, hvalue, hrow, Bool.false_eq_true, if_false]
        exact ⟨(), trivial⟩
  | deleteInterface id =>
      by_cases hvalue : (contents store).interfaces id = none
      · -- The peers go before the interface is looked for, but a missing interface has none.
        have hrow := (Store.interface_eq_none_iff h).mp hvalue
        simp only [lacks, run, Store.deleteInterface, hvalue, hrow, Store.remove_missing h hrow,
          if_true, Bool.false_eq_true, if_false]
      · obtain ⟨row, hrow⟩ :=
          Option.ne_none_iff_exists'.mp (mt (Store.interface_eq_none_iff h).mpr hvalue)
        simp only [lacks, run, Store.deleteInterface, hvalue, hrow, Bool.false_eq_true, if_false]
        exact ⟨(), trivial⟩

/-- Why a call fails. -/
theorem run_error_iff {c : StoreCall α} {cancelled : Bool} {e : Error} :
    (c.run store cancelled).1 = .error e ↔
      if cancelled then e = .cancelled
      else ∃ m, c.lacks (contents store) = some m ∧ e = .missing m := by
  cases cancelled with
  | true =>
      rw [run_cancelled, if_pos rfl, Except.error.injEq]
      exact eq_comm
  | false =>
      rw [if_neg Bool.false_ne_true]
      have hcases := run_cases h c
      cases hlacks : c.lacks (contents store) with
      | some m =>
          rw [hlacks] at hcases
          rw [hcases]
          simp [eq_comm]
      | none =>
          rw [hlacks] at hcases
          obtain ⟨a, ha⟩ := hcases
          simp [ha]

/-- A call that fails changes nothing. -/
theorem run_of_error {c : StoreCall α} {cancelled : Bool} {e : Error}
    (herror : (c.run store cancelled).1 = .error e) : (c.run store cancelled).2 = store := by
  cases cancelled with
  | true => rw [run_cancelled]
  | false =>
      have hcases := run_cases h c
      cases hlacks : c.lacks (contents store) with
      | some m =>
          rw [hlacks] at hcases
          rw [hcases]
      | none =>
          rw [hlacks] at hcases
          obtain ⟨a, ha⟩ := hcases
          rw [ha] at herror
          cases herror

end

/-- A call on any store that calls lead to leaves the tables as they are if it fails, for whatever
reason. Unless it fails by itself, it fails with `cancelled` for a request that is cancelled, and
for any other exactly with what it does not find. -/
theorem failure_keeps_store (c : StoreCall α) (writes : List Store.Write) (r : Request)
    (s : Services σ) (w : World σ) (hstore : w.store = Store.after writes) :
    (∀ e, (c.act r s w).1 = .error e → (c.act r s w).2.store = w.store) ∧
      (s.fault? w.calls.length c.kind = none → ∀ e, (c.act r s w).1 = .error e ↔
        if Act.isCancelled r w then e = .cancelled
        else ∃ m, c.lacks (contentsAfter writes) = some m ∧ e = .missing m) := by
  have hconsistent : w.store.Consistent := hstore ▸ Store.consistent_after writes
  rw [act_eq, ← Store.contents_after, ← hstore]
  cases s.fault? w.calls.length c.kind with
  | some fault => exact ⟨fun _ _ => rfl, fun hnone => nomatch hnone⟩
  | none => exact ⟨fun _ => run_of_error hconsistent, fun _ _ => run_error_iff hconsistent⟩

/-- An interface that is not stored cannot be deleted; the peer of another one stays. -/
theorem failure_keeps_store_unknown :
    let writes : List Store.Write :=
      [.saveInterface false (.new "wg0"),
        .savePeer false { Peer.blank with identifier := "phone", interfaceId := "wg0" }]
    let w : World Unit := ⟨.after writes, (), [], [], []⟩
    let final := (StoreCall.deleteInterface "wg1").act .system Keeper.listingOnce w
    final.1 = .error (.missing (.interface "wg1")) ∧ final.2.store = .after writes ∧
      final.2.store.peers.length = 1 := by
  intro writes w final
  obtain ⟨hkeeps, hfails⟩ := failure_keeps_store (.deleteInterface "wg1") writes .system
    Keeper.listingOnce w rfl
  have herror := (hfails rfl (.missing (.interface "wg1"))).mpr ⟨_, rfl, rfl⟩
  have hsame : final.2.store = .after writes := hkeeps _ herror
  refine ⟨herror, hsame, ?_⟩
  rw [hsame]
  rfl

end StoreCall

end TunnelKeeper
