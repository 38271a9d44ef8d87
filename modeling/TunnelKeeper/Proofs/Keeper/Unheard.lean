import TunnelKeeper.Proofs.Keeper.Bootstrap

/-!
# Bootstrapping without listeners

What listeners do while interfaces are provisioned changes neither the result nor the store: with
nobody on the bus, both are the same (`bootstrap_unheard`). Listeners make calls of their own, so
the token of a request may be cancelled while they do. Without them it has to be cancelled at the
same place among the calls of the run itself, which is another number of calls.
-/

namespace TunnelKeeper

variable {σ : Type}

/-- The same services with nobody on the bus. -/
def Services.unheard (s : Services σ) : Services σ := { s with bus := .empty }

/-- Whether an interface can be saved does not depend on how many calls were made before. -/
def Services.Steady (s : Services σ) : Prop :=
  ∀ made made' id, s.fault? made (.saveInterface id) = s.fault? made' (.saveInterface id)

/-- How many calls took time. -/
def timeTaken (calls : List Call) : Nat := (calls.filter Call.takesTime).length

/-- A token that is not cancelled before as many calls as these took time. -/
def Token.LastsUntil (t : Token) (calls : List Call) : Prop :=
  ∀ made, timeTaken made < timeTaken calls → t.isCancelled made = false

/-! ## Tokens -/

theorem Token.lasting_lasts_until (calls : List Call) : Token.lasting.LastsUntil calls :=
  fun _ _ => rfl

/-- A token can be cancelled at any place and not before it. -/
theorem Token.cancelled_at (calls : List Call) :
    (Token.cancelledAfter (timeTaken calls)).isCancelled calls = true ∧
      (Token.cancelledAfter (timeTaken calls)).LastsUntil calls :=
  ⟨decide_eq_true (Nat.le_refl _), fun _ hlt => decide_eq_false (Nat.not_le_of_lt hlt)⟩

/-- A token that lasts until a call was made is not cancelled before the call. -/
theorem Token.LastsUntil.before {t : Token} {c : Call} {calls : List Call}
    (h : t.LastsUntil (c :: calls)) (hc : c.takesTime = true) :
    t.isCancelled calls = false ∧ t.LastsUntil calls := by
  have hlonger : timeTaken (c :: calls) = timeTaken calls + 1 := by
    rw [timeTaken, List.filter_cons_of_pos hc]
    rfl
  exact ⟨h calls (by omega), fun made hlt => h made (by omega)⟩

namespace Keeper

open Act

variable {r : Request} {i : Interface} {s : Services σ} {w : World σ}

/-! ## Single acts -/

/-- Nothing is provisioned for a request that is cancelled. -/
theorem provision_cancelled (h : isCancelled r w = true) :
    provision r i s w = (.error .cancelled, w) :=
  bind_error (checkpoint_error h)

/-- Nothing is provisioned if the interface cannot be saved. -/
theorem provision_fault (h : isCancelled r w = false) {e : Error}
    (hfault : s.fault? w.calls.length (.saveInterface i.identifier) = some e) :
    provision r i s w = (.error (.context ("failed to save interface " ++ i.identifier) e),
      { w with calls := .saveInterface i.identifier :: w.calls }) := by
  have hsave : saveInterface r i s w =
      (.error e, { w with calls := .saveInterface i.identifier :: w.calls }) := by
    unfold saveInterface change
    exact call_of_fault hfault
  rw [provision, bind_ok (checkpoint_ok h), bind_error (within_error hsave)]

/-- What an interface is saved to, before it is announced. -/
def savedTo (w : World σ) (i : Interface) : World σ :=
  { w with
    store := w.store.putInterfaceRow (.ofInterface i)
    calls := .saveInterface i.identifier :: w.calls }

/-- An interface is saved and announced otherwise. -/
theorem provision_saved (h : isCancelled r w = false)
    (hfault : s.fault? w.calls.length (.saveInterface i.identifier) = none) :
    provision r i s w = publish (.created i) s (savedTo w i) := by
  have hsave : saveInterface r i s w = (.ok (), savedTo w i) := by
    unfold saveInterface change
    rw [call_of_none hfault, h]
    rfl
  rw [provision, bind_ok (checkpoint_ok h), bind_ok (within_ok hsave)]

/-- Nobody hears an announcement. -/
theorem publish_unheard (e : Event) (w : World σ) :
    publish e s.unheard w = (.ok (), { w with announcements := w.announcements ++ [e] }) := rfl

/-- Interfaces are listed for a request that is not cancelled, if they can be. -/
theorem interfaces_eq (h : isCancelled r w = false) :
    interfaces r s w = (
      match s.fault? w.calls.length .interfaces with
      | some e => .error e
      | none => w.store.allInterfaces false, { w with calls := .interfaces :: w.calls }) := by
  unfold interfaces query call
  cases s.fault? w.calls.length .interfaces with
  | some e => rfl
  | none => exact congrArg (fun b => (w.store.allInterfaces b, _)) h

/-! ## Two runs side by side -/

/-- An act on behalf of a request ends alike from the store of another world with nobody on the
bus, under a token that lasts until then. The token lasts if that of the request does. -/
def EndsAlike (s : Services σ) {α : Type} (x : Request → Act σ α) (r : Request)
    (w v : World σ) : Prop :=
  ∃ t : Token, (r.token = .lasting → t = .lasting) ∧ t.LastsUntil v.calls ∧
    (x ⟨r.caller, t⟩ s.unheard v).1 = (x r s w).1 ∧
    (x ⟨r.caller, t⟩ s.unheard v).2.store = (x r s w).2.store

variable {α β : Type} {x : Request → Act σ α} {y : Request → Act σ β} {v w' v' : World σ}

/-- Two runs end alike that come to the same without a look at the token. -/
theorem EndsAlike.of_eq {result : Except Error α} (hw : x r s w = (result, w'))
    (hv : x ⟨r.caller, .lasting⟩ s.unheard v = (result, v')) (hsame : v'.store = w'.store) :
    EndsAlike s x r w v := by
  refine ⟨.lasting, fun _ => rfl, Token.lasting_lasts_until _, ?_⟩
  rw [hw, hv]
  exact ⟨rfl, hsame⟩

/-- Two runs end alike that stop at a cancelled token. -/
theorem EndsAlike.of_cancelled (hsame : v.store = w.store) (h : isCancelled r w = true)
    (hw : x r s w = (.error .cancelled, w))
    (hv : ∀ t, t.isCancelled v.calls = true →
      x ⟨r.caller, t⟩ s.unheard v = (.error .cancelled, v)) :
    EndsAlike s x r w v := by
  obtain ⟨hcancelled, hlasts⟩ := Token.cancelled_at v.calls
  refine ⟨_, fun hlasting => ?_, hlasts, ?_⟩
  · rw [is_cancelled_of_lasting hlasting] at h
    cases h
  · rw [hw, hv _ hcancelled]
    exact ⟨rfl, hsame⟩

/-- Two runs end alike that lead to places from which they do. -/
theorem EndsAlike.of_step {x : Request → Act σ β} (h : EndsAlike s y r w' v')
    (hw : x r s w = y r s w')
    (hv : ∀ t, t.LastsUntil v'.calls →
      t.LastsUntil v.calls ∧ x ⟨r.caller, t⟩ s.unheard v = y ⟨r.caller, t⟩ s.unheard v') :
    EndsAlike s x r w v := by
  obtain ⟨t, hlasting, hlasts, hresult, hstore⟩ := h
  obtain ⟨hbefore, heq⟩ := hv t hlasts
  refine ⟨t, hlasting, hbefore, ?_⟩
  rw [hw, heq]
  exact ⟨hresult, hstore⟩

/-- Two runs end alike that say something in the end. -/
theorem EndsAlike.say_true {x : Request → Act σ Unit} (h : EndsAlike s x r w v) :
    EndsAlike s (fun r => x r >>= fun _ => pure true) r w v := by
  obtain ⟨t, hlasting, hlasts, hresult, hstore⟩ := h
  refine ⟨t, hlasting, hlasts, ?_⟩
  simp only [say_true_eq]
  exact ⟨congrArg (Except.map fun _ => true) hresult, hstore⟩

/-! ## Runs without listeners -/

variable (hsteady : s.Steady)
include hsteady

/-- Interfaces are provisioned alike without listeners. -/
theorem provision_all_unheard (c : AdvancedSettings) (newKeys : Nat → KeyPair)
    (entries : List Entry) (place : Nat) (a : Allocator) (hsame : v.store = w.store) :
    EndsAlike s (fun r => provisionAll r c newKeys place a entries) r w v := by
  -- The worlds are those that the entries before have left behind. They agree on the store alone.
  induction entries generalizing place a w v with
  | nil => exact .of_eq rfl rfl hsame
  | cons e rest ih =>
      cases hbuild : e.build c (newKeys place) a with
      | error fault => exact .of_eq (bind_lift_error hbuild) (bind_lift_error hbuild) hsame
      | ok built =>
          obtain ⟨i, later⟩ := built
          have hgoes : ∀ (r : Request) (s : Services σ) (w : World σ),
              provisionAll r c newKeys place a (e :: rest) s w =
                (provision r i >>= fun _ => provisionAll r c newKeys (place + 1) later rest) s w := by
            intro r s w
            rw [provisionAll, bind_lift_ok hbuild]
          cases hcancelled : isCancelled r w with
          | true =>
              exact .of_cancelled hsame hcancelled
                ((hgoes _ _ _).trans (bind_error (provision_cancelled hcancelled)))
                fun t h => (hgoes _ _ _).trans (bind_error (provision_cancelled h))
          | false =>
              have hfaults := hsteady v.calls.length w.calls.length i.identifier
              cases hfault : s.fault? w.calls.length (.saveInterface i.identifier) with
              | some fault =>
                  have hunsaved := provision_fault (s := s.unheard) (r := ⟨r.caller, .lasting⟩)
                    (is_cancelled_of_lasting rfl v) (hfaults.trans hfault)
                  exact .of_eq ((hgoes _ _ _).trans (bind_error (provision_fault hcancelled hfault)))
                    ((hgoes _ _ _).trans (bind_error hunsaved)) hsame
              | none =>
                  obtain ⟨announced, hpublish, hstore, -⟩ :=
                    publish_eq (.created i) s (savedTo w i)
                  have hrows : (savedTo v i).store = announced.store := by
                    rw [hstore]
                    exact congrArg (Store.putInterfaceRow · (.ofInterface i)) hsame
                  have hrest := ih (place + 1) later (w := announced) (v := { savedTo v i with
                    announcements := v.announcements ++ [Event.created i] }) hrows
                  have hheard : provisionAll r c newKeys place a (e :: rest) s w =
                      provisionAll r c newKeys (place + 1) later rest s announced :=
                    (hgoes r s w).trans
                      (bind_ok ((provision_saved hcancelled hfault).trans hpublish))
                  refine hrest.of_step hheard fun t hlasts => ?_
                  -- A token that lasts beyond the save lets the save through.
                  obtain ⟨hpasses, hbefore⟩ := hlasts.before rfl
                  have hunheard := provision_saved (s := s.unheard) (r := ⟨r.caller, t⟩) hpasses
                    (hfaults.trans hfault)
                  rw [publish_unheard] at hunheard
                  exact ⟨hbefore, (hgoes _ _ _).trans (bind_ok hunheard)⟩

theorem provision_entries_unheard (entries : List Entry) (hsame : v.store = w.store) :
    EndsAlike s (fun r => provisionEntries r entries) r w v := by
  cases hcheck : (Entry.check entries).mapError Error.validation with
  | error e => exact .of_eq (bind_lift_error hcheck) (bind_lift_error hcheck) hsame
  | ok warnings =>
      obtain ⟨noted, hnoted⟩ := note_warnings_notices warnings s w
      obtain ⟨noted', hnoted'⟩ := note_warnings_notices warnings s.unheard v
      cases hallocator : Entry.allocator s.settings.advanced entries with
      | error e =>
          exact .of_eq
            ((bind_lift_ok hcheck).trans ((bind_ok hnoted).trans (bind_lift_error hallocator)))
            ((bind_lift_ok hcheck).trans ((bind_ok hnoted').trans (bind_lift_error hallocator)))
            hsame
      | ok a =>
          exact .of_step
            (provision_all_unheard hsteady s.settings.advanced s.newKeys entries 0 a
              (w := { w with notices := noted }) (v := { v with notices := noted' }) hsame)
            ((bind_lift_ok hcheck).trans ((bind_ok hnoted).trans (bind_lift_ok hallocator)))
            fun t hlasts => ⟨hlasts, (bind_lift_ok hcheck).trans
              ((bind_ok hnoted').trans (bind_lift_ok hallocator))⟩

/-- A run has the same result and leaves the same store behind with nobody on the bus. -/
theorem bootstrap_unheard (r : Request) (entries : List Entry) (w : World σ) :
    EndsAlike s (fun r => bootstrap r entries) r w w := by
  cases hadmin : r.caller.requireAdministrator with
  | error e => exact .of_eq (bind_lift_error hadmin) (bind_lift_error hadmin) rfl
  | ok _ =>
      by_cases hentries : entries = []
      · have hidle : ∀ (t : Token) (s : Services σ), bootstrap ⟨r.caller, t⟩ entries s w =
            (.ok false, w) := by
          intro t s
          rw [bootstrap, bind_lift_ok hadmin, if_pos hentries]
          rfl
        exact .of_eq (hidle r.token s) (hidle .lasting s.unheard) rfl
      · have hgoes : ∀ (t : Token) (s : Services σ), bootstrap ⟨r.caller, t⟩ entries s w =
            (checkpoint ⟨r.caller, t⟩ >>= fun _ =>
              within "failed to list existing interfaces" (interfaces ⟨r.caller, t⟩) >>=
                fun existing => if existing = [] then
                  provisionEntries ⟨r.caller, t⟩ entries >>= fun _ => pure true
                else pure false) s w := by
          intro t s
          rw [bootstrap, bind_lift_ok hadmin, if_neg hentries]
        cases hcancelled : isCancelled r w with
        | true =>
            exact .of_cancelled rfl hcancelled
              ((hgoes _ _).trans (bind_error (checkpoint_error hcancelled)))
              fun t h => (hgoes t _).trans (bind_error (checkpoint_error h))
        | false =>
            -- Both runs list the interfaces by the same call, since nothing was announced before.
            obtain ⟨result, hlist⟩ : ∃ result, ∀ t : Token, t.isCancelled w.calls = false →
                interfaces ⟨r.caller, t⟩ s w =
                    (result, { w with calls := .interfaces :: w.calls }) ∧
                  interfaces ⟨r.caller, t⟩ s.unheard w =
                    (result, { w with calls := .interfaces :: w.calls }) :=
              ⟨_, fun t h => ⟨interfaces_eq h, interfaces_eq (s := s.unheard) h⟩⟩
            have hlasting := is_cancelled_of_lasting (r := ⟨r.caller, .lasting⟩) rfl w
            cases result with
            | error e =>
                exact .of_eq
                  ((hgoes r.token s).trans ((bind_ok (checkpoint_ok hcancelled)).trans
                    (bind_error (within_error (hlist r.token hcancelled).1))))
                  ((hgoes .lasting _).trans ((bind_ok (checkpoint_ok hlasting)).trans
                    (bind_error (within_error (hlist .lasting hlasting).2)))) rfl
            | ok existing =>
                have hheard := (hgoes r.token s).trans ((bind_ok (checkpoint_ok hcancelled)).trans
                  (bind_ok (within_ok (hlist r.token hcancelled).1)))
                have hquiet := fun t (h : isCancelled ⟨r.caller, t⟩ w = false) =>
                  (hgoes t s.unheard).trans ((bind_ok (checkpoint_ok h)).trans
                    (bind_ok (within_ok (hlist t h).2)))
                by_cases hexisting : existing = []
                · subst hexisting
                  exact .of_step (provision_entries_unheard hsteady entries rfl).say_true hheard
                    fun t hlasts => ⟨(hlasts.before rfl).2, hquiet t (hlasts.before rfl).1⟩
                · simp only [if_neg hexisting] at hheard hquiet
                  exact .of_eq hheard (hquiet .lasting hlasting) rfl

end Keeper

end TunnelKeeper
