import TunnelKeeper.Keeper.Events
import TunnelKeeper.Proofs.Keeper.Act

/-!
# Acts that leave the store alone

An act is quiet if it changes neither the store nor what was announced, whether it fails or not
(`Act.Quiet`), and harmless if it does not fail either (`Act.Harmless`). What listeners do is
harmless, so an announcement adds itself to what was announced and changes nothing else of the two
(`publish_eq`).
-/

namespace TunnelKeeper

namespace Act

variable {σ α β : Type}

/-- An act that changes neither the store nor what was announced. -/
def Quiet (x : Act σ α) : Prop :=
  ∀ s w, (x s w).2.store = w.store ∧ (x s w).2.announcements = w.announcements

/-- A quiet act that does not fail. -/
def Harmless (x : Act σ α) : Prop :=
  ∀ s w, ∃ a w', x s w = (.ok a, w') ∧ w'.store = w.store ∧ w'.announcements = w.announcements

/-! ## Quiet acts -/

/-- Quiet acts one after the other are quiet. -/
theorem Quiet.bind {x : Act σ α} {f : α → Act σ β} (hx : x.Quiet) (hf : ∀ a, (f a).Quiet) :
    (x >>= f).Quiet := by
  intro s w
  obtain ⟨hstore, hannounced⟩ := hx s w
  rcases heq : x s w with ⟨e | a, w'⟩
  · rw [heq] at hstore hannounced
    rw [bind_error heq]
    exact ⟨hstore, hannounced⟩
  · rw [heq] at hstore hannounced
    obtain ⟨hstore', hannounced'⟩ := hf a s w'
    rw [bind_ok heq]
    exact ⟨hstore'.trans hstore, hannounced'.trans hannounced⟩

theorem Quiet.within {x : Act σ α} (hx : x.Quiet) (doing : String) : (within doing x).Quiet := hx

theorem quiet_checkpoint (r : Request) : Quiet (checkpoint r : Act σ Unit) :=
  fun _ _ => ⟨rfl, rfl⟩

/-- A call is quiet if what it does is. -/
theorem quiet_call {c : Call} {run : Services σ → World σ → Except Error α × World σ}
    (hrun : ∀ s w, (run s w).2.store = w.store ∧ (run s w).2.announcements = w.announcements) :
    (call c run).Quiet := by
  intro s w
  unfold call
  cases s.fault? w.calls.length c with
  | some e => exact ⟨rfl, rfl⟩
  | none => exact hrun s w

theorem quiet_query (c : Call) (r : Request) (read : Store → Bool → Except Error α) :
    Quiet (query c r read : Act σ α) := quiet_call fun _ _ => ⟨rfl, rfl⟩

/-! ## Harmless acts -/

theorem harmless_pure (a : α) : Harmless (pure a : Act σ α) :=
  fun _ w => ⟨a, w, rfl, rfl, rfl⟩

theorem harmless_notice (n : Notice) : Harmless (notice n : Act σ Unit) :=
  fun _ _ => ⟨(), _, rfl, rfl, rfl⟩

/-- A quiet act whose failure is a result is harmless. -/
theorem Quiet.attempt {x : Act σ α} (hx : x.Quiet) : (attempt x).Harmless :=
  fun s w => ⟨_, _, rfl, hx s w⟩

/-- Harmless acts one after the other are harmless. -/
theorem Harmless.bind {x : Act σ α} {f : α → Act σ β} (hx : x.Harmless)
    (hf : ∀ a, (f a).Harmless) : (x >>= f).Harmless := by
  intro s w
  obtain ⟨a, w', heq, hstore, hannounced⟩ := hx s w
  obtain ⟨b, w'', heq', hstore', hannounced'⟩ := hf a s w'
  exact ⟨b, w'', (bind_ok heq).trans heq', hstore'.trans hstore, hannounced'.trans hannounced⟩

end Act

namespace Keeper

open Act

variable {σ : Type}

/-! ## What listeners do -/

/-- Writing the file of an interface is quiet. -/
theorem quiet_persist (r : Request) (id : InterfaceId) : (persist r id : Act σ Unit).Quiet := by
  refine (quiet_checkpoint r).bind fun _ => ?_
  refine ((quiet_query _ _ _).within _).bind fun _ => ?_
  refine (quiet_checkpoint r).bind fun _ => ?_
  refine (Quiet.within (quiet_call fun _ _ => ⟨rfl, rfl⟩) _).bind fun _ => ?_
  refine (quiet_checkpoint r).bind fun _ => ?_
  exact Quiet.within (quiet_call fun _ _ => ⟨rfl, rfl⟩) _

/-- Removing a file is quiet. -/
theorem quiet_unpersist (r : Request) (fileName : String) :
    (unpersist r fileName : Act σ Unit).Quiet :=
  (quiet_checkpoint r).bind fun _ => Quiet.within (quiet_call fun _ _ => ⟨rfl, rfl⟩) _

/-- A quiet act whose failure is noted is harmless. -/
theorem harmless_noted {x : Act σ Unit} (hx : x.Quiet) (note : Error → Notice) :
    (attempt x >>= fun result => match result with
      | .ok () => pure ()
      | .error e => notice (note e)).Harmless := by
  refine hx.attempt.bind fun result => ?_
  cases result with
  | ok _ => exact harmless_pure ()
  | error e => exact harmless_notice _

theorem harmless_refresh_file (announced id : InterfaceId) :
    (refreshFile announced id : Act σ Unit).Harmless :=
  harmless_noted (quiet_persist .system id) _

theorem harmless_interface_saved (i : Interface) : (interfaceSaved i : Act σ Unit).Harmless := by
  unfold interfaceSaved
  split
  · exact harmless_refresh_file _ _
  · exact harmless_pure ()

/-- What the keeper of the files does when it is told of a change is harmless. -/
theorem harmless_handle (e : Event) : (handle e : Act σ Unit).Harmless := by
  -- Failures of the file operations become notices; nothing else can fail.
  cases e with
  | created i => exact harmless_interface_saved i
  | updated i => exact harmless_interface_saved i
  | deleted i =>
      simp only [handle, interfaceDeleted]
      split
      · exact harmless_noted (quiet_unpersist .system _) _
      · exact harmless_pure ()
  | peersChanged id =>
      refine Harmless.bind (Quiet.attempt (quiet_query _ _ _)) fun result => ?_
      cases result with
      | error e => exact harmless_notice _
      | ok i =>
          simp only
          split
          · exact harmless_refresh_file _ _
          · exact harmless_pure ()

theorem harmless_deliver_all (e : Event) (listeners : List Listener) :
    (deliverAll e listeners : Act σ Unit).Harmless := by
  induction listeners with
  | nil => exact harmless_pure ()
  | cons l rest ih =>
      cases l with
      | fileKeeper => exact (harmless_handle e).bind fun _ => ih

/-- An announcement does not fail, leaves the store alone and is the last one afterwards. -/
theorem publish_eq (e : Event) (s : Services σ) (w : World σ) :
    ∃ w', publish e s w = (.ok (), w') ∧ w'.store = w.store ∧
      w'.announcements = w.announcements ++ [e] := by
  obtain ⟨_, w', heq, hstore, hannounced⟩ := harmless_deliver_all e (s.bus.subscribers e.topic) s
    { w with announcements := w.announcements ++ [e] }
  exact ⟨w', heq, hstore, hannounced⟩

/-- What an announcement leaves behind. -/
theorem publish_ok {e : Event} {s : Services σ} {w announced : World σ}
    (h : publish e s w = (.ok (), announced)) :
    announced.store = w.store ∧ announced.announcements = w.announcements ++ [e] := by
  obtain ⟨w', heq, hstore, hannounced⟩ := publish_eq e s w
  rw [heq] at h
  cases h
  exact ⟨hstore, hannounced⟩

end Keeper

end TunnelKeeper
