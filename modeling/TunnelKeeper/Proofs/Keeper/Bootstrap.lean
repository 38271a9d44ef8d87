import TunnelKeeper.Keeper.Bootstrap
import TunnelKeeper.Proofs.Keeper.Act
import TunnelKeeper.Proofs.Keeper.Quiet
import TunnelKeeper.Proofs.Provisioning.Check
import TunnelKeeper.Proofs.Store.Refinement

/-!
# What bootstrapping leaves behind

Wherever a run stops, the interfaces it saved are those of a prefix of the entries, each of them was
announced between its own save and the next one, and nothing else was saved or announced
(`provision_all_spec`, by induction on the entries). `bootstrap_spec` says so of whole runs, and
that no run does anything after one that saved an interface.
-/

namespace TunnelKeeper

namespace Entry

/-- The interfaces of some entries, the first of which stands at `place`. -/
def buildAll (s : AdvancedSettings) (newKeys : Nat → KeyPair) :
    Nat → Allocator → List Entry → Except Error (List Interface)
  | _, _, [] => .ok []
  | place, a, e :: rest => do
    let (i, a) ← e.build s (newKeys place) a
    let later ← buildAll s newKeys (place + 1) a rest
    .ok (i :: later)

section

variable {s : AdvancedSettings} {newKeys : Nat → KeyPair} {a : Allocator} {entries : List Entry}
  {saved : List Interface} {place : Nat}

/-- Each interface was built from the entry that has its place. -/
theorem build_of_build_all (h : buildAll s newKeys place a entries = .ok saved) {k : Nat}
    {i : Interface} (hi : saved[k]? = some i) :
    ∃ e before after, entries[k]? = some e ∧
      e.build s (newKeys (place + k)) before = .ok (i, after) := by
  induction entries generalizing place a saved k with
  | nil =>
      cases h
      cases hi
  | cons e rest ih =>
      unfold buildAll at h
      obtain ⟨⟨first, after⟩, hbuild, h⟩ := except_bind_eq_ok_iff.mp h
      obtain ⟨others, hothers, h⟩ := except_bind_eq_ok_iff.mp h
      cases h
      cases k with
      | zero =>
          cases hi
          exact ⟨e, a, after, rfl, hbuild⟩
      | succ k =>
          rw [show place + (k + 1) = place + 1 + k by omega]
          exact ih hothers hi

/-- The identifiers of the interfaces, and which of them want a file, are settled by the entries and
the settings alone. -/
theorem wants_of_build_all (h : buildAll s newKeys place a entries = .ok saved) :
    saved.map (fun i => (i.identifier, i.saveConfig)) =
      entries.map fun e => (e.id, e.saveConfig.getD (Text.trim s.storagePath ≠ "")) := by
  induction entries generalizing place a saved with
  | nil =>
      cases h
      rfl
  | cons e rest ih =>
      unfold buildAll at h
      obtain ⟨⟨i, later⟩, hbuild, h⟩ := except_bind_eq_ok_iff.mp h
      obtain ⟨others, hothers, h⟩ := except_bind_eq_ok_iff.mp h
      cases h
      have hbuilt := built_of_build hbuild
      rw [List.map_cons, List.map_cons, ih hothers, hbuilt.identifier, hbuilt.saveConfig]

/-- No two interfaces of the first entries of an accepted list have one identifier. -/
theorem ids_nodup_of_build_all {warnings : List Warning} (hcheck : check entries = .ok warnings)
    {count : Nat} (h : buildAll s newKeys place a (entries.take count) = .ok saved) :
    (saved.map Interface.identifier).Nodup := by
  have hids := congrArg (List.map Prod.fst) (wants_of_build_all h)
  rw [List.map_map, List.map_map] at hids
  have hids : saved.map Interface.identifier = (entries.take count).map id := hids
  rw [hids, List.map_take]
  exact (ids_nodup_of_check hcheck).take

end

end Entry

namespace Keeper

open Act

variable {σ : Type}

/-! ## One interface -/

/-- An interface is saved, or the save fails and changes nothing. -/
theorem save_interface_cases (r : Request) (i : Interface) (s : Services σ) (w : World σ) :
    (∃ e w', saveInterface r i s w = (.error e, w') ∧ w.Alike w') ∨
      ∃ w', saveInterface r i s w = (.ok (), w') ∧
        w'.store = w.store.putInterfaceRow (.ofInterface i) ∧
        w'.announcements = w.announcements := by
  unfold saveInterface change call
  -- A call may fail before it does anything; after that only a cancelled token stops it.
  cases s.fault? w.calls.length (.saveInterface i.identifier) with
  | some e => exact .inl ⟨e, _, rfl, rfl, rfl, rfl⟩
  | none =>
      cases hcancelled : isCancelled r w with
      | true =>
          refine .inl ⟨.cancelled, { w with calls := .saveInterface i.identifier :: w.calls }, ?_,
            rfl, rfl, rfl⟩
          simp only [Store.saveInterface, hcancelled, if_true]
      | false =>
          refine .inr ⟨{ w with
            store := w.store.putInterfaceRow (.ofInterface i)
            calls := .saveInterface i.identifier :: w.calls }, ?_, rfl, rfl⟩
          simp only [Store.saveInterface, hcancelled, Bool.false_eq_true, if_false]

/-- A save that succeeds puts a row and announces nothing. -/
theorem save_interface_ok {r : Request} {i : Interface} {s : Services σ} {w saved : World σ}
    (h : saveInterface r i s w = (.ok (), saved)) :
    saved.store = w.store.putInterfaceRow (.ofInterface i) ∧
      saved.announcements = w.announcements := by
  rcases save_interface_cases r i s w with ⟨e, w', heq, -⟩ | ⟨w', heq, hstore, hannounced⟩
  · rw [heq] at h
    cases h
  · rw [heq] at h
    cases h
    exact ⟨hstore, hannounced⟩

/-- An interface is saved and then announced, or nothing happens. -/
theorem provision_cases (r : Request) (i : Interface) (s : Services σ) (w : World σ) :
    (∃ e w', provision r i s w = (.error e, w') ∧ w.Alike w') ∨
      ∃ saved announced, saveInterface r i s w = (.ok (), saved) ∧
        publish (.created i) s saved = (.ok (), announced) ∧
        provision r i s w = (.ok (), announced) := by
  unfold provision
  cases hcancelled : isCancelled r w with
  | true => exact .inl ⟨_, w, bind_error (checkpoint_error hcancelled), .refl w⟩
  | false =>
      rw [bind_ok (checkpoint_ok hcancelled)]
      rcases save_interface_cases r i s w with ⟨e, w', hsave, halike⟩ | ⟨saved, hsave, -, -⟩
      · exact .inl ⟨_, w', bind_error (within_error hsave), halike⟩
      · obtain ⟨announced, hpublish, -, -⟩ := publish_eq (.created i) s saved
        exact .inr ⟨saved, announced, hsave, hpublish, by rw [bind_ok (within_ok hsave), hpublish]⟩

/-! ## Several interfaces -/

/-- Some interfaces are saved and announced. Each announcement follows the save of its interface
and comes before the next save, and nothing happens in between. -/
inductive Provisioned (r : Request) (s : Services σ) : World σ → List Interface → World σ → Prop
  | none (w : World σ) : Provisioned r s w [] w
  | next {w saved announced final : World σ} {i : Interface} {rest : List Interface}
      (hsave : saveInterface r i s w = (.ok (), saved))
      (hpublish : publish (.created i) s saved = (.ok (), announced))
      (hrest : Provisioned r s announced rest final) : Provisioned r s w (i :: rest) final

namespace Provisioned

variable {r : Request} {s : Services σ} {w final : World σ} {saved : List Interface}

/-- One row was put for each interface, in their order. -/
theorem store_eq (h : Provisioned r s w saved final) :
    final.store = saved.foldl (fun store i => store.putInterfaceRow (.ofInterface i)) w.store := by
  induction h with
  | none w => rfl
  | @next w saved announced final i rest hsave hpublish _ ih =>
      rw [ih, (publish_ok hpublish).1, (save_interface_ok hsave).1, List.foldl_cons]

/-- One announcement was made for each interface, in their order. -/
theorem announcements_eq (h : Provisioned r s w saved final) :
    final.announcements = w.announcements ++ saved.map .created := by
  induction h with
  | none w => simp
  | @next w saved announced final i rest hsave hpublish _ ih =>
      rw [ih, (publish_ok hpublish).2, (save_interface_ok hsave).2, List.map_cons,
        List.append_assoc]
      rfl

/-- What the store holds under an identifier after each interface was put. -/
theorem interface_eq (h : Provisioned r s w saved final)
    (hsorted : SortedRows InterfaceRow.key w.store.interfaces)
    (hnodup : (saved.map Interface.identifier).Nodup) :
    (∀ i ∈ saved, final.store.interface false i.identifier = .ok i.settled) ∧
      ∀ id, (∀ i ∈ saved, i.identifier ≠ id) →
        final.store.interface false id = w.store.interface false id := by
  induction h with
  | none w => simp
  | @next w put announced final i rest hsave hpublish _ ih =>
      have hput : announced.store = w.store.putInterfaceRow (.ofInterface i) :=
        (publish_ok hpublish).1.trans (save_interface_ok hsave).1
      rw [List.map_cons, List.nodup_cons] at hnodup
      obtain ⟨hrest, hothers⟩ := ih (hput ▸ hsorted.put_row) hnodup.2
      rw [hput] at hothers
      refine ⟨List.forall_mem_cons.mpr ⟨?_, hrest⟩, fun id hid => ?_⟩
      · rw [hothers i.identifier fun j hj heq => hnodup.1 (heq ▸ List.mem_map_of_mem hj)]
        exact Store.interface_put_self hsorted
      · rw [List.forall_mem_cons] at hid
        rw [hothers id hid.2]
        exact Store.interface_put_other hsorted hid.1.symm

end Provisioned

/-- Wherever the loop stops, it saved and announced the interfaces of the entries before that
place, and it reaches the end exactly if these are all entries. -/
theorem provision_all_spec (r : Request) (c : AdvancedSettings) (newKeys : Nat → KeyPair)
    (s : Services σ) (entries : List Entry) (place : Nat) (a : Allocator) (w : World σ) :
    ∃ saved finish, Provisioned r s w saved finish ∧
      finish.Alike (provisionAll r c newKeys place a entries s w).2 ∧
      saved.length ≤ entries.length ∧
      Entry.buildAll c newKeys place a (entries.take saved.length) = .ok saved ∧
      ((provisionAll r c newKeys place a entries s w).1 = .ok () ↔
        saved.length = entries.length) := by
  -- The place, the allocator and the world are those that the entries before have left behind.
  induction entries generalizing place a w with
  | nil => exact ⟨[], w, .none w, .refl w, Nat.le_refl _, rfl, by simp [provisionAll]; rfl⟩
  | cons e rest ih =>
      rw [provisionAll]
      cases hbuild : e.build c (newKeys place) a with
      | error fault =>
          rw [bind_lift_error rfl]
          exact ⟨[], w, .none w, .refl w, Nat.zero_le _, rfl, by simp⟩
      | ok built =>
          obtain ⟨i, later⟩ := built
          rw [bind_lift_ok rfl]
          simp only
          rcases provision_cases r i s w with ⟨fault, w', hstop, halike⟩ |
            ⟨saved, announced, hsave, hpublish, hgo⟩
          · rw [bind_error hstop]
            exact ⟨[], w, .none w, halike, Nat.zero_le _, rfl, by simp⟩
          · rw [bind_ok hgo]
            obtain ⟨others, finish, hchain, halike, hlength, hall, hend⟩ :=
              ih (place + 1) later announced
            refine ⟨i :: others, finish, .next hsave hpublish hchain, halike, ?_, ?_, ?_⟩
            · simpa using hlength
            · simp only [List.length_cons, List.take_succ_cons, Entry.buildAll, hbuild, hall, bind,
                Except.bind]
            · rw [hend]
              simp

/-- Warnings become notices and nothing else. -/
theorem note_warnings_notices (warnings : List Warning) (s : Services σ) (w : World σ) :
    ∃ notices, noteWarnings warnings s w = (.ok (), { w with notices := notices }) := by
  induction warnings generalizing w with
  | nil => exact ⟨w.notices, rfl⟩
  | cons warning rest ih => exact ih { w with notices := w.notices ++ [.doubtful warning] }

/-- Warnings are noted and change nothing else. -/
theorem note_warnings_eq (warnings : List Warning) (s : Services σ) (w : World σ) :
    ∃ w', noteWarnings warnings s w = (.ok (), w') ∧ w.Alike w' := by
  obtain ⟨notices, hnoted⟩ := note_warnings_notices warnings s w
  exact ⟨_, hnoted, rfl, rfl, rfl⟩

/-- What a run on an empty store does: after some notices, the interfaces of some of the first
entries are provisioned, of all of them exactly if the run succeeds. -/
theorem provision_entries_spec (r : Request) (entries : List Entry) (hentries : entries ≠ [])
    (s : Services σ) (w : World σ) :
    ∃ saved notices finish, Provisioned r s { w with notices := notices } saved finish ∧
      finish.Alike (provisionEntries r entries s w).2 ∧ saved.length ≤ entries.length ∧
      (saved = [] ∨ ∃ warnings a, Entry.check entries = .ok warnings ∧
        Entry.allocator s.settings.advanced entries = .ok a ∧
        Entry.buildAll s.settings.advanced s.newKeys 0 a (entries.take saved.length) = .ok saved) ∧
      ((provisionEntries r entries s w).1 = .ok () ↔ saved.length = entries.length) := by
  have hpos : ¬ 0 = entries.length := fun h => hentries (List.length_eq_zero_iff.mp h.symm)
  rw [provisionEntries]
  cases hcheck : Entry.check entries with
  | error objection =>
      have hinvalid : (Except.error objection : Except _ (List Warning)).mapError Error.validation =
          .error (.validation objection) := rfl
      rw [bind_lift_error hinvalid]
      exact ⟨[], w.notices, w, .none w, .refl w, Nat.zero_le _, .inl rfl, by simp [hpos]⟩
  | ok warnings =>
      obtain ⟨notices, hnoted⟩ := note_warnings_notices warnings s w
      have hvalid : (Except.ok warnings : Except _ (List Warning)).mapError Error.validation =
          .ok warnings := rfl
      rw [bind_lift_ok hvalid, bind_ok hnoted]
      cases hallocator : Entry.allocator s.settings.advanced entries with
      | error fault =>
          rw [bind_lift_error rfl]
          exact ⟨[], notices, _, .none _, .refl _, Nat.zero_le _, .inl rfl, by simp [hpos]⟩
      | ok a =>
          rw [bind_lift_ok rfl]
          obtain ⟨saved, finish, hchain, hfinish, hlength, hall, hend⟩ :=
            provision_all_spec r s.settings.advanced s.newKeys s entries 0 a
              { w with notices := notices }
          exact ⟨saved, notices, finish, hchain, hfinish, hlength,
            .inr ⟨warnings, a, rfl, rfl, hall⟩, hend⟩

/-! ## Whole runs -/

/-- What a run leaves behind that saved some interfaces. -/
structure Ran (r : Request) (entries : List Entry) (s : Services σ) (w : World σ)
    (saved : List Interface) (answer : Except Error Bool) (final : World σ) : Prop where
  /-- The interfaces were saved and announced in turn, and nothing else was changed. -/
  provisioned : ∃ start finish, w.Alike start ∧ Provisioned r s start saved finish ∧
    finish.Alike final
  /-- They are the interfaces of the first entries, in the order of the entries. -/
  built : saved = [] ∨ ∃ a, Entry.allocator s.settings.advanced entries = .ok a ∧
    Entry.buildAll s.settings.advanced s.newKeys 0 a (entries.take saved.length) = .ok saved
  /-- No more interfaces were saved than there are entries. -/
  length_le : saved.length ≤ entries.length
  /-- The run says that it did it exactly if all entries were saved on an empty store. -/
  complete : answer = .ok true ↔
    entries ≠ [] ∧ w.store.interfaces = [] ∧ saved.length = entries.length
  /-- A run that says that it did not do it saved nothing. -/
  skipped : answer = .ok false → saved = []
  /-- Nothing is saved for a caller who is no administrator. -/
  denied : ∀ e, r.caller.requireAdministrator = .error e → saved = []
  /-- Nothing is saved if the stored interfaces cannot be listed. -/
  unlisted : ∀ e, (interfaces r s w).1 = .error e → saved = []
  /-- Nothing is saved if there is an objection to an entry. -/
  invalid : ∀ objection, Entry.check entries = .error objection → saved = []
  /-- Nothing is saved if there is no allocator for the entries. -/
  unallocated : ∀ e, Entry.allocator s.settings.advanced entries = .error e → saved = []
  /-- Interfaces are saved on an empty store only. -/
  fresh : saved ≠ [] → w.store.interfaces = []

/-- A run that stops before it saves anything. -/
theorem Ran.nothing {r : Request} {entries : List Entry} {s : Services σ} {w final : World σ}
    {answer : Except Error Bool} (halike : w.Alike final) (hanswer : answer ≠ .ok true) :
    Ran r entries s w [] answer final where
  provisioned := ⟨w, w, .refl w, .none w, halike⟩
  built := .inl rfl
  length_le := Nat.zero_le _
  complete := by
    constructor
    · exact fun h => absurd h hanswer
    · rintro ⟨hne, -, hlength⟩
      exact absurd (List.length_eq_zero_iff.mp hlength.symm) hne
  skipped := fun _ => rfl
  denied := fun _ _ => rfl
  unlisted := fun _ _ => rfl
  invalid := fun _ _ => rfl
  unallocated := fun _ _ => rfl
  fresh := fun h => absurd rfl h

/-- Listing the interfaces changes nothing. -/
theorem interfaces_alike (r : Request) (s : Services σ) (w : World σ) :
    w.Alike (interfaces r s w).2 ∧ (interfaces r s w).2.notices = w.notices := by
  unfold interfaces query call
  cases s.fault? w.calls.length .interfaces with
  | some e => exact ⟨⟨rfl, rfl, rfl⟩, rfl⟩
  | none => exact ⟨⟨rfl, rfl, rfl⟩, rfl⟩

/-- As many values are read as there are rows. -/
theorem length_map_m {α β ε : Type} {f : α → Except ε β} {l : List α} {l' : List β}
    (h : l.mapM f = .ok l') : l'.length = l.length := by
  induction l generalizing l' with
  | nil =>
      cases h
      rfl
  | cons a l ih =>
      rw [List.mapM_cons] at h
      cases ha : f a with
      | error e => simp [ha, bind, Except.bind] at h
      | ok b =>
          cases hl : l.mapM f with
          | error e => simp [ha, hl, bind, Except.bind] at h
          | ok bs =>
              simp only [ha, hl, bind, Except.bind, pure, Except.pure, Except.ok.injEq] at h
              rw [← h, List.length_cons, List.length_cons, ih hl]

/-- Interfaces are listed exactly if some are stored. -/
theorem interfaces_eq_nil_iff {r : Request} {s : Services σ} {w : World σ} {l : List Interface}
    (h : (interfaces r s w).1 = .ok l) : l = [] ↔ w.store.interfaces = [] := by
  unfold interfaces query call at h
  cases hfault : s.fault? w.calls.length .interfaces with
  | some e => simp [hfault] at h
  | none =>
      cases hcancelled : isCancelled r w with
      | true => simp [hfault, hcancelled, Store.allInterfaces, Store.unlessCancelled] at h
      | false =>
          have hread : w.store.interfaces.mapM InterfaceRow.interface = .ok l := by
            simpa [hfault, hcancelled, Store.allInterfaces, Store.unlessCancelled] using h
          have hlength := length_map_m hread
          rw [← List.length_eq_zero_iff, hlength, List.length_eq_zero_iff]

/-- A run stops before it comes to the entries, without doing anything, or it comes to them after
no interface was listed. -/
theorem bootstrap_cases (r : Request) (entries : List Entry) (s : Services σ) (w : World σ) :
    ((bootstrap r entries s w).1 ≠ .ok true ∧ w.Alike (bootstrap r entries s w).2) ∨
      (r.caller.requireAdministrator = .ok () ∧ entries ≠ [] ∧
        ∃ listed, interfaces r s w = (.ok [], listed) ∧ bootstrap r entries s w =
          (provisionEntries r entries >>= fun _ => pure true) s listed) := by
  rw [bootstrap]
  cases hadmin : r.caller.requireAdministrator with
  | error e =>
      rw [bind_lift_error rfl]
      exact .inl ⟨by simp, .refl w⟩
  | ok _ =>
      rw [bind_lift_ok rfl]
      by_cases hentries : entries = []
      · rw [if_pos hentries]
        exact .inl ⟨by simp [pure, done], .refl w⟩
      · rw [if_neg hentries]
        cases hcancelled : isCancelled r w with
        | true =>
            rw [bind_error (checkpoint_error hcancelled)]
            exact .inl ⟨by simp, .refl w⟩
        | false =>
            rw [bind_ok (checkpoint_ok hcancelled)]
            have halike := (interfaces_alike r s w).1
            rcases hlist : interfaces r s w with ⟨e | existing, listed⟩
            · rw [hlist] at halike
              rw [bind_error (within_error hlist)]
              exact .inl ⟨by simp, halike⟩
            · rw [hlist] at halike
              rw [bind_ok (within_ok hlist)]
              by_cases hexisting : existing = []
              · subst hexisting
                exact .inr ⟨rfl, hentries, listed, rfl, rfl⟩
              · rw [if_neg hexisting]
                exact .inl ⟨by simp [pure, done], halike⟩

/-- A run is complete if all its entries are. -/
theorem say_true_eq (x : Act σ Unit) (s : Services σ) (w : World σ) :
    (x >>= fun _ => pure true) s w = ((x s w).1.map fun _ => true, (x s w).2) := by
  rcases hx : x s w with ⟨e | _, w'⟩
  · rw [bind_error hx]
    rfl
  · rw [bind_ok hx]
    rfl

/-- Every run saves and announces the interfaces of some of the first entries, or nothing. -/
theorem exists_ran (r : Request) (entries : List Entry) (s : Services σ) (w : World σ) :
    ∃ saved, Ran r entries s w saved (bootstrap r entries s w).1 (bootstrap r entries s w).2 := by
  rcases bootstrap_cases r entries s w with
    ⟨hanswer, halike⟩ | ⟨hadmin, hentries, listed, hlist, heq⟩
  · exact ⟨[], .nothing halike hanswer⟩
  -- Interfaces are provisioned only after an empty list was read from the store.
  · have hempty : w.store.interfaces = [] :=
      (interfaces_eq_nil_iff (congrArg Prod.fst hlist)).mp rfl
    have hlisted : w.Alike listed := by
      have halike := (interfaces_alike r s w).1
      rwa [hlist] at halike
    obtain ⟨saved, notices, finish, hchain, hfinish, hlength, hbuilt, hend⟩ :=
      provision_entries_spec r entries hentries s listed
    rw [heq, say_true_eq]
    exact ⟨saved, {
      provisioned := ⟨{ listed with notices := notices }, finish,
        hlisted.trans ⟨rfl, rfl, rfl⟩, hchain, hfinish⟩
      built := hbuilt.imp id fun ⟨_, a, _, ha, hall⟩ => ⟨a, ha, hall⟩
      length_le := hlength
      complete := by
        rw [← hend]
        cases (provisionEntries r entries s listed).1 with
        | error e => simp [Except.map]
        | ok _ => simp [Except.map, hentries, hempty]
      skipped := by
        intro hfalse
        cases hanswer : (provisionEntries r entries s listed).1 with
        | error e => simp [hanswer, Except.map] at hfalse
        | ok _ => simp [hanswer, Except.map] at hfalse
      denied := by
        intro e hdenied
        rw [hadmin] at hdenied
        cases hdenied
      unlisted := by
        intro e hfails
        rw [hlist] at hfails
        cases hfails
      invalid := by
        intro objection hinvalid
        rcases hbuilt with hnone | ⟨warnings, a, hcheck, -, -⟩
        · exact hnone
        · rw [hinvalid] at hcheck
          cases hcheck
      unallocated := by
        intro e hunallocated
        rcases hbuilt with hnone | ⟨warnings, a, -, ha, -⟩
        · exact hnone
        · rw [hunallocated] at ha
          cases ha
      fresh := fun _ => hempty }⟩

/-! ## Later runs -/

/-- The rows of saved interfaces are rows of interfaces, and there are some. -/
theorem rows_of_saved {store : Store} (hrows : ∀ row ∈ store.interfaces, ∃ i, row = .ofInterface i)
    {saved : List Interface} (hne : store.interfaces ≠ [] ∨ saved ≠ []) :
    let after := saved.foldl (fun store i => store.putInterfaceRow (.ofInterface i)) store
    after.interfaces ≠ [] ∧ ∀ row ∈ after.interfaces, ∃ i, row = .ofInterface i := by
  induction saved generalizing store with
  | nil => exact ⟨hne.resolve_right (by simp), hrows⟩
  | cons i saved ih =>
      refine ih (fun row hrow => ?_) (.inl put_row_ne_nil)
      rcases eq_or_mem_of_mem_put_row hrow with rfl | hrow
      · exact ⟨i, rfl⟩
      · exact hrows row hrow

/-- Nothing is done while interfaces are stored. -/
theorem bootstrap_again {r : Request} {entries : List Entry} {s : Services σ} {w : World σ}
    (hsome : w.store.interfaces ≠ [])
    (hrows : ∀ row ∈ w.store.interfaces, ∃ i, row = .ofInterface i)
    (hadmin : r.caller.requireAdministrator = .ok ()) (hlasting : isCancelled r w = false) :
    ((bootstrap r entries s w).1 = .ok false ∨
        ∃ e, s.fault? w.calls.length .interfaces = some e ∧ (bootstrap r entries s w).1 =
          .error (.context "failed to list existing interfaces" e)) ∧
      w.Alike (bootstrap r entries s w).2 ∧ (bootstrap r entries s w).2.notices = w.notices := by
  rw [bootstrap, bind_lift_ok hadmin]
  by_cases hentries : entries = []
  · rw [if_pos hentries]
    exact ⟨.inl rfl, .refl w, rfl⟩
  · rw [if_neg hentries]
    rw [bind_ok (checkpoint_ok hlasting)]
    obtain ⟨halike, hnotices⟩ := interfaces_alike r s w
    cases hfault : s.fault? w.calls.length .interfaces with
    | some e =>
        have hfails : interfaces r s w = (.error e, (interfaces r s w).2) := by
          simp [interfaces, query, call, hfault]
        rw [bind_error (within_error hfails)]
        exact ⟨.inr ⟨e, rfl, rfl⟩, halike, hnotices⟩
    | none =>
        -- Rows of interfaces can be read, so listing them does not fail once it is not stopped.
        obtain ⟨is, his⟩ : w.store.interfaces ∈ Set.range (List.map InterfaceRow.ofInterface) := by
          rw [Set.range_list_map]
          exact fun row hrow => (hrows row hrow).imp fun _ => Eq.symm
        have hlist : w.store.allInterfaces false = .ok (is.map Interface.settled) := by
          rw [Store.allInterfaces, ← his]
          exact Store.map_m_map InterfaceRow.interface_of_interface is
        have hread : interfaces r s w =
            (.ok (is.map Interface.settled), (interfaces r s w).2) := by
          simp [interfaces, query, call, hfault, hlasting, hlist]
        have hne : is.map Interface.settled ≠ [] := by
          intro hnil
          rw [List.map_eq_nil_iff] at hnil
          rw [← his, hnil] at hsome
          exact hsome rfl
        rw [bind_ok (within_ok hread), if_neg hne]
        exact ⟨.inl rfl, halike, hnotices⟩

/-- Every run saves the interfaces of some of the first entries, puts their rows into the store and
announces them, in the order of the entries, each between its own save and the next one. After a
run that saved an interface, no further run of an administrator whose token lasts does anything:
unless the stored interfaces cannot be listed, it says so. -/
theorem bootstrap_spec (r : Request) (entries : List Entry) (s : Services σ) (w : World σ) :
    ∃ saved final, (bootstrap r entries s w).2 = final ∧
      Ran r entries s w saved (bootstrap r entries s w).1 final ∧
      final.store =
        saved.foldl (fun store i => store.putInterfaceRow (.ofInterface i)) w.store ∧
      final.announcements = w.announcements ++ saved.map .created ∧
      (saved ≠ [] → ∀ (r' : Request) (entries' : List Entry) (s' : Services σ) (w' : World σ),
        w'.store = final.store → r'.caller.requireAdministrator = .ok () →
        isCancelled r' w' = false →
        ((bootstrap r' entries' s' w').1 = .ok false ∨
            ∃ e, s'.fault? w'.calls.length .interfaces = some e ∧
              (bootstrap r' entries' s' w').1 =
                .error (.context "failed to list existing interfaces" e)) ∧
          w'.Alike (bootstrap r' entries' s' w').2 ∧
          (bootstrap r' entries' s' w').2.notices = w'.notices) := by
  obtain ⟨saved, hran⟩ := exists_ran r entries s w
  obtain ⟨start, finish, hstart, hchain, hfinish⟩ := hran.provisioned
  have hstore : (bootstrap r entries s w).2.store =
      saved.foldl (fun store i => store.putInterfaceRow (.ofInterface i)) w.store := by
    rw [hfinish.store, hchain.store_eq, hstart.store]
  refine ⟨saved, _, rfl, hran, hstore, ?_, ?_⟩
  · rw [hfinish.announcements, hchain.announcements_eq, hstart.announcements]
  · intro hsaved r' entries' s' w' hsame hadmin hlasting
    -- The store was empty before the run, so all its rows are rows of saved interfaces.
    have hnone : ∀ row ∈ w.store.interfaces, ∃ i, row = .ofInterface i := by
      simp [hran.fresh hsaved]
    obtain ⟨hsome, hrows⟩ := rows_of_saved hnone (.inr hsaved)
    rw [← hstore, ← hsame] at hsome hrows
    exact bootstrap_again hsome hrows hadmin hlasting

/-- An entry that leaves out everything but the identifier. -/
def entryNamed (identifier : String) : Entry :=
  { identifier, displayName := "", mode := "", enabled := none, privateKey := "", listenPort := 0
    addresses := [], dns := [], dnsSearch := [], mtu := 0, firewallMark := 0, routingTable := ""
    preUp := "", postUp := "", preDown := "", postDown := "", saveConfig := none, notes := ""
    peerNetwork := [], peerDns := [], peerDnsSearch := [], peerEndpoint := "", peerAllowedIps := []
    peerMtu := 0, peerKeepalive := 0, peerFirewallMark := 0, peerRoutingTable := ""
    peerPreUp := "", peerPostUp := "", peerPreDown := "", peerPostDown := "", obfuscation := none }

/-- The usual settings, with nobody on the bus and no files. Interfaces can be listed by the very
first call and by no later one. -/
def listingOnce : Services Unit where
  settings := .usual
  newKeys _ := ⟨"", ""⟩
  renderInterface _ _ := ""
  renderPeer _ _ := ""
  encodeQr _ := []
  storage := ⟨fun _ files => (.ok (), files), fun _ _ files => (.ok (), files),
    fun _ files => (.ok (), files)⟩
  bus := .empty
  fault? made c := if c = .interfaces ∧ 0 < made then some (.file (.other "unlisted")) else none

/-- A run that cannot list the stored interfaces does not say that it did nothing: it fails, though
an administrator asks and the token lasts. -/
theorem bootstrap_again_unlisted :
    let first := bootstrap .system [entryNamed "wg0"] listingOnce ⟨.empty, (), [], [], []⟩
    let again := bootstrap .system [entryNamed "wg1"] listingOnce first.2
    first.1.toOption = some true ∧ first.2.store.interfaces.length = 1 ∧
      Request.system.caller.requireAdministrator.toOption = some () ∧
      isCancelled .system first.2 = false ∧ again.1.toOption = none := by
  decide +kernel

end Keeper

end TunnelKeeper
