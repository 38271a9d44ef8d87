import TunnelKeeper.Keeper.Act

/-!
# Acts step by step

How a sequence of acts goes on after its first one, how a context and a checkpoint end, what calls
do that do not fail, and when two worlds hold the same.
-/

namespace TunnelKeeper

/-! ## Worlds -/

/-- Two worlds with the same store, the same files and the same announcements. -/
structure World.Alike {σ : Type} (w w' : World σ) : Prop where
  store : w'.store = w.store
  files : w'.files = w.files
  announcements : w'.announcements = w.announcements

theorem World.Alike.refl {σ : Type} (w : World σ) : w.Alike w := ⟨rfl, rfl, rfl⟩

theorem World.Alike.trans {σ : Type} {w w' w'' : World σ} (h : w.Alike w') (h' : w'.Alike w'') :
    w.Alike w'' :=
  ⟨h'.store.trans h.store, h'.files.trans h.files, h'.announcements.trans h.announcements⟩

namespace Act

variable {σ α β : Type} {x : Act σ α} {f : α → Act σ β} {result : Except Error α} {s : Services σ}
  {w w' : World σ} {a : α} {e : Error} {r : Request}

/-! ## Sequences -/

/-- An act that succeeds hands over to the next one. -/
theorem bind_ok (h : x s w = (.ok a, w')) : (x >>= f) s w = f a s w' := by
  show andThen x f s w = _
  simp only [andThen, h]

/-- An act that fails is the last one. -/
theorem bind_error (h : x s w = (.error e, w')) : (x >>= f) s w = (.error e, w') := by
  show andThen x f s w = _
  simp only [andThen, h]

/-- The result of a sequence is what its first act hands over, or the failure of that act. -/
theorem bind_result (h : x s w = (result, w')) :
    ((x >>= f) s w).1 = result >>= fun a => (f a s w').1 := by
  cases result with
  | error e => rw [bind_error h]; rfl
  | ok a => rw [bind_ok h]; rfl

/-- A result that is there hands over to the next act. -/
theorem bind_lift_ok (h : result = .ok a) : (lift result >>= f) s w = f a s w := by
  rw [h]
  rfl

/-- An error that is there is the end. -/
theorem bind_lift_error (h : result = .error e) : (lift result >>= f) s w = (.error e, w) := by
  rw [h]
  rfl

/-! ## Contexts and checkpoints -/

/-- A context does not show around a success. -/
theorem within_ok {doing : String} (h : x s w = (.ok a, w')) :
    within doing x s w = (.ok a, w') := by
  unfold within
  rw [h]
  rfl

/-- A context shows around a failure. -/
theorem within_error {doing : String} (h : x s w = (.error e, w')) :
    within doing x s w = (.error (.context doing e), w') := by
  unfold within
  rw [h]
  rfl

theorem within_eq {doing : String} (h : x s w = (result, w')) :
    within doing x s w = (Error.within doing result, w') := by
  unfold within
  rw [h]
  rfl

/-- A checkpoint is passed while the token lasts. -/
theorem checkpoint_ok (h : isCancelled r w = false) : checkpoint r s w = (.ok (), w) := by
  simp only [checkpoint, h, Bool.false_eq_true, if_false]

/-- No checkpoint is passed once the token is cancelled. -/
theorem checkpoint_error (h : isCancelled r w = true) :
    checkpoint r s w = (.error .cancelled, w) := by
  simp only [checkpoint, h, if_true]

/-! ## Acts that succeeded -/

/-- A sequence that succeeded had a first act that did. -/
theorem of_bind_ok {b : β} {last : World σ} (h : (x >>= f) s w = (.ok b, last)) :
    ∃ a w', x s w = (.ok a, w') ∧ f a s w' = (.ok b, last) := by
  rcases hfirst : x s w with ⟨e | a, w'⟩
  · rw [bind_error hfirst] at h
    cases h
  · rw [bind_ok hfirst] at h
    exact ⟨a, w', rfl, h⟩

theorem of_within_ok {doing : String} (h : within doing x s w = (.ok a, w')) :
    x s w = (.ok a, w') := by
  rcases hinner : x s w with ⟨e | b, last⟩
  · rw [within_error hinner] at h
    cases h
  · rw [within_ok hinner] at h
    exact h

theorem of_lift_ok (h : lift result s w = (.ok a, w')) : result = .ok a ∧ w' = w := by
  cases h
  exact ⟨rfl, rfl⟩

/-- What comes behind a checkpoint that was passed. -/
theorem of_checkpoint_bind {f : Unit → Act σ β} {b : β} {last : World σ}
    (h : (checkpoint r >>= f) s w = (.ok b, last)) : f () s w = (.ok b, last) := by
  obtain ⟨_, passed, hcheck, hrest⟩ := of_bind_ok h
  obtain rfl := (Prod.mk.inj hcheck).2
  exact hrest

/-- A call that succeeded did what it does. -/
theorem of_call_ok {c : Call} {run : Services σ → World σ → Except Error α × World σ}
    (h : call c run s w = (.ok a, w')) :
    ∃ after, run s w = (.ok a, after) ∧ w' = { after with calls := c :: after.calls } := by
  unfold call at h
  cases hfault : s.fault? w.calls.length c with
  | some e =>
      rw [hfault] at h
      cases h
  | none =>
      rw [hfault] at h
      obtain ⟨hresult, hworld⟩ := Prod.mk.inj h
      exact ⟨(run s w).2, Prod.ext hresult rfl, hworld.symm⟩

/-- A query that succeeded read the store and left it alone. -/
theorem of_query_ok {c : Call} {read : Store → Bool → Except Error α}
    (h : query c r read s w = (.ok a, w')) :
    read w.store (isCancelled r w) = .ok a ∧ w'.store = w.store := by
  obtain ⟨after, hread, rfl⟩ := of_call_ok h
  obtain ⟨hresult, rfl⟩ := Prod.mk.inj hread
  exact ⟨hresult, rfl⟩

/-! ## Calls and tokens -/

section

variable {c : Call} {run : Services σ → World σ → Except Error α × World σ}

/-- A call that fails does nothing. -/
theorem call_of_fault (h : s.fault? w.calls.length c = some e) :
    call c run s w = (.error e, { w with calls := c :: w.calls }) := by
  unfold call
  rw [h]

/-- A call that does not fail does what it does. -/
theorem call_of_none (h : s.fault? w.calls.length c = none) :
    call c run s w = ((run s w).1, { (run s w).2 with calls := c :: (run s w).2.calls }) := by
  unfold call
  rw [h]

end

theorem is_cancelled_of_lasting (h : r.token = .lasting) (w : World σ) :
    isCancelled r w = false := by
  unfold isCancelled
  rw [h]
  rfl

/-- A token that is not cancelled after a call was not cancelled before it. -/
theorem is_cancelled_of_cons {t : Token} {c : Call} {calls : List Call}
    (h : t.isCancelled (c :: calls) = false) : t.isCancelled calls = false := by
  cases t with
  | lasting => rfl
  | cancelledAfter limit =>
      have hsub : (calls.filter Call.takesTime).length ≤
          ((c :: calls).filter Call.takesTime).length :=
        ((List.sublist_cons_self c calls).filter _).length_le
      simp only [Token.isCancelled, decide_eq_false_iff_not] at h ⊢
      omega

/-! ## Calls that do not fail -/

section

variable {c : Call} (h : ∀ made, s.fault? made c = none)
include h

theorem call_of_no_fault {run : Services σ → World σ → Except Error α × World σ} :
    call c run s w = ((run s w).1, { (run s w).2 with calls := c :: (run s w).2.calls }) :=
  call_of_none (h _)

theorem query_of_no_fault {read : Store → Bool → Except Error α} :
    query c r read s w = (read w.store (isCancelled r w), { w with calls := c :: w.calls }) :=
  call_of_no_fault h

theorem change_of_no_fault {write : Store → Bool → Except Error Unit × Store} :
    change c r write s w = ((write w.store (isCancelled r w)).1, { w with
      store := (write w.store (isCancelled r w)).2, calls := c :: w.calls }) :=
  call_of_no_fault h

end

end Act

end TunnelKeeper
