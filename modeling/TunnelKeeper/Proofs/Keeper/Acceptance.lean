import TunnelKeeper.Proofs.Keeper.Bootstrap
import TunnelKeeper.Proofs.Provisioning.Exhaustion
import TunnelKeeper.Proofs.Settings.Sanitize

/-!
# Bootstrapping with accepted settings

What the check of settings accepts can be bootstrapped on an empty store by an administrator, as
far as ports and blocks last, if the start blocks are of the families that they are used for
(`bootstrap_of_accepted`). The check reads the start blocks without looking at their families, so
settings are accepted whose run then stops at the first block it sets out from
(`accepted_misfit_stops`).
-/

namespace TunnelKeeper

namespace Keeper

open Act Entry

variable {σ : Type} {r : Request} {s : Services σ}

/-! ## Lasting requests -/

section

variable (hlasting : r.token = .lasting)
include hlasting

/-- No save fails for a lasting request on a store that accepts every write. -/
theorem provision_of_lasting (hsaves : ∀ made id, s.fault? made (.saveInterface id) = none)
    (i : Interface) (w : World σ) :
    ∃ w', provision r i s w = (.ok (), w') ∧
      w'.announcements = w.announcements ++ [.created i] := by
  have hcancelled := is_cancelled_of_lasting hlasting w
  have hsave : saveInterface r i s w = (.ok (), { w with
      store := w.store.putInterfaceRow (.ofInterface i)
      calls := .saveInterface i.identifier :: w.calls }) := by
    unfold saveInterface
    rw [change_of_no_fault fun made => hsaves made i.identifier, hcancelled]
    rfl
  obtain ⟨announced, hpublish, -, hannounced⟩ := publish_eq (.created i) s { w with
      store := w.store.putInterfaceRow (.ofInterface i)
      calls := .saveInterface i.identifier :: w.calls }
  refine ⟨announced, ?_, hannounced⟩
  unfold provision
  rw [bind_ok (checkpoint_ok hcancelled), bind_ok (within_ok hsave), hpublish]

/-- Interfaces of entries that can be read are saved one after the other as long as there is
something left for them. -/
theorem provision_all_of_lasting {c : AdvancedSettings} {newKeys : Nat → KeyPair}
    (hsaves : ∀ made id, s.fault? made (.saveInterface id) = none)
    {entries es : List Entry} {built : List Interface} {place : Nat} {a : Allocator}
    (haccounts : Accounts c entries built a) (hsub : ∀ e ∈ es, e ∈ entries)
    (hreadable : ∀ e ∈ entries, Readable e) (w : World σ) :
    ∃ saved, (provisionAll r c newKeys place a es s w).2.announcements =
        w.announcements ++ saved.map .created ∧
      ((provisionAll r c newKeys place a es s w).1 = .ok () ∨
        ∃ reason, (provisionAll r c newKeys place a es s w).1 = .error (.settings reason) ∧
          Exhausted c entries (built ++ saved) reason) := by
  induction es generalizing place a built w with
  | nil => exact ⟨[], (List.append_nil _).symm, .inl rfl⟩
  | cons e rest ih =>
      have he := hsub e List.mem_cons_self
      rw [provisionAll]
      cases hbuild : e.build c (newKeys place) a with
      | error fault =>
          obtain ⟨reason, rfl, hexhausted⟩ := haccounts.exhausted (hreadable e he) hbuild
          rw [bind_lift_error rfl]
          refine ⟨[], (List.append_nil _).symm, .inr ⟨reason, rfl, ?_⟩⟩
          rw [List.append_nil]
          exact hexhausted
      | ok one =>
          obtain ⟨i, later⟩ := one
          rw [bind_lift_ok rfl]
          simp only
          obtain ⟨announced, hgo, hannounced⟩ := provision_of_lasting hlasting hsaves i w
          rw [bind_ok hgo]
          obtain ⟨others, hothers, hend⟩ := ih (haccounts.build hbuild he)
            (fun e' he' => hsub e' (List.mem_cons_of_mem e he')) announced
          refine ⟨i :: others, ?_, ?_⟩
          · rw [hothers, hannounced, List.append_assoc]
            rfl
          · rw [List.append_cons]
            exact hend

end

/-- Who may list the interfaces of an empty store comes to the entries. -/
theorem bootstrap_of_empty {entries : List Entry} {w : World σ}
    (hlists : ∀ made, s.fault? made .interfaces = none)
    (hadmin : r.caller.requireAdministrator = .ok ()) (hlasting : r.token = .lasting)
    (hempty : w.store = .empty) (hentries : entries ≠ []) :
    ∃ listed, w.Alike listed ∧ bootstrap r entries s w =
      (provisionEntries r entries >>= fun _ => pure true) s listed := by
  have hcancelled := is_cancelled_of_lasting hlasting w
  have hlist : interfaces r s w = (.ok [], { w with calls := .interfaces :: w.calls }) := by
    unfold interfaces
    rw [query_of_no_fault hlists, hcancelled, hempty]
    rfl
  refine ⟨{ w with calls := .interfaces :: w.calls }, ⟨rfl, rfl, rfl⟩, ?_⟩
  rw [bootstrap, bind_lift_ok hadmin, if_neg hentries, bind_ok (checkpoint_ok hcancelled),
    bind_ok (within_ok hlist), if_pos rfl]

/-- The outcome of bootstrapping accepted settings on an empty store that accepts every write. If
the start blocks fit, all interfaces are saved unless there is nothing left of what the next one
wants; if they do not, the run fails because of a start block of the wrong family. -/
theorem bootstrap_of_accepted (c : Settings) (r : Request) (s : Services σ) (w : World σ)
    (haccepted : c.sanitize.result = .ok ()) (hentries : c.provisioning ≠ [])
    (hsettings : s.settings = c.sanitize.settings)
    (hlists : ∀ made, s.fault? made .interfaces = none)
    (hsaves : ∀ made id, s.fault? made (.saveInterface id) = none)
    (hadmin : r.caller.requireAdministrator = .ok ()) (hlasting : r.token = .lasting)
    (hempty : w.store = .empty) :
    (StartsFit c.advanced →
      ∃ saved, (bootstrap r c.provisioning s w).2.announcements =
          w.announcements ++ saved.map .created ∧
        ((bootstrap r c.provisioning s w).1 = .ok true ∨
          ∃ reason, (bootstrap r c.provisioning s w).1 = .error (.settings reason) ∧
            Exhausted c.advanced c.provisioning saved reason)) ∧
      (¬ StartsFit c.advanced →
        ∃ start wanted, start.family ≠ wanted ∧
          (bootstrap r c.provisioning s w).1 = .error (.settings (.startFamily start wanted))) := by
  obtain ⟨hsame, ⟨v4, hv4⟩, ⟨v6, hv6⟩, warnings, hcheck⟩ := Settings.sanitize_ok haccepted
  have hadvanced : s.settings.advanced = c.advanced := by rw [hsettings, hsame]
  have hreadable := readable_of_check hcheck
  obtain ⟨listed, hlisted, heq⟩ := bootstrap_of_empty hlists hadmin hlasting hempty hentries
  obtain ⟨noted, hnoted, halike⟩ := note_warnings_eq warnings s listed
  have hvalid : (Except.ok warnings : Except _ (List Warning)).mapError Error.validation =
      .ok warnings := rfl
  -- Both cases go on from the allocator, which is the first that may fail.
  have hrun : provisionEntries r c.provisioning s listed =
      (lift (Entry.allocator c.advanced c.provisioning) >>= fun a =>
        provisionAll r c.advanced s.newKeys 0 a c.provisioning) s noted := by
    rw [provisionEntries, hcheck, bind_lift_ok hvalid, bind_ok hnoted, hadvanced]
  rw [heq, say_true_eq, hrun]
  constructor
  · intro hfit
    obtain ⟨a, ha⟩ := allocator_of_starts_fit hv4 hv6 hreadable hfit
    rw [bind_lift_ok ha]
    obtain ⟨saved, hsaved, hend⟩ := provision_all_of_lasting hlasting hsaves
      (accounts_of_allocator ha) (fun _ he => he) hreadable noted
    refine ⟨saved, ?_, ?_⟩
    · rw [hsaved, halike.announcements, hlisted.announcements]
    · rcases hend with hok | ⟨reason, herror, hexhausted⟩
      · rw [hok]
        exact .inl rfl
      · rw [herror]
        exact .inr ⟨reason, rfl, hexhausted⟩
  · intro hmisfit
    obtain ⟨start, wanted, hne, ha⟩ := allocator_of_misfit hv4 hv6 hmisfit c.provisioning
    rw [bind_lift_error ha]
    exact ⟨start, wanted, hne, rfl⟩

/-- Services that never fail, with the settings that a check leaves behind and nobody on the bus. -/
def servicesOf (c : Settings) : Services Unit :=
  { listingOnce with settings := c.sanitize.settings, fault? := fun _ _ => none }

/-- The usual settings with one interface of which only the identifier is set. -/
def oneInterface : Settings := { Settings.usual with provisioning := [entryNamed "wg0"] }

/-- The usual settings can be bootstrapped as long as there are ports and blocks. -/
theorem bootstrap_of_accepted_one :
    oneInterface.sanitize.result = .ok () ∧ StartsFit oneInterface.advanced ∧
      ∃ saved, (bootstrap .system oneInterface.provisioning (servicesOf oneInterface)
          ⟨.empty, (), [], [], []⟩).2.announcements = [] ++ saved.map .created ∧
        ((bootstrap .system oneInterface.provisioning (servicesOf oneInterface)
            ⟨.empty, (), [], [], []⟩).1 = .ok true ∨
          ∃ reason, (bootstrap .system oneInterface.provisioning (servicesOf oneInterface)
              ⟨.empty, (), [], [], []⟩).1 = .error (.settings reason) ∧
            Exhausted oneInterface.advanced oneInterface.provisioning saved reason) := by
  have haccepted : oneInterface.sanitize.result = .ok () :=
    except_eq_ok (show oneInterface.sanitize.result.toOption = some () by decide +kernel)
  have hv4 : (Network.parseEntry oneInterface.advanced.startCidrV4).toOption.map Network.family =
      some .v4 := by decide +kernel
  have hv6 : (Network.parseEntry oneInterface.advanced.startCidrV6).toOption.map Network.family =
      some .v6 := by decide +kernel
  have hfit : StartsFit oneInterface.advanced := by
    constructor
    · intro n hn
      rw [hn] at hv4
      exact Option.some.inj hv4
    · intro _ n hn
      rw [hn] at hv6
      exact Option.some.inj hv6
  exact ⟨haccepted, hfit, (bootstrap_of_accepted oneInterface .system (servicesOf oneInterface)
    ⟨.empty, (), [], [], []⟩ haccepted (by decide) rfl (fun _ => rfl) (fun _ _ => rfl) rfl rfl
    rfl).1 hfit⟩

/-- Settings whose short start block is a long one. No block is handed out for the only interface,
which asks for its port and its address. -/
def misfit : Settings :=
  { Settings.usual with
    advanced := { AdvancedSettings.usual with startCidrV4 := "fd00::/64", useIpV6 := false }
    provisioning :=
      [{ entryNamed "wg0" with listenPort := 51820, addresses := ["10.0.0.1/24"] }] }

/-- Settings that are accepted cannot always be bootstrapped, though nothing is used up. -/
theorem accepted_misfit_stops :
    misfit.sanitize.result.toOption = some () ∧
      (bootstrap .system misfit.provisioning (servicesOf misfit)
        ⟨.empty, (), [], [], []⟩).1.mapError Error.message =
        .error "Configuration error: start block fd00::/64 is not an IPv4 network" := by
  decide +kernel

end Keeper

end TunnelKeeper
