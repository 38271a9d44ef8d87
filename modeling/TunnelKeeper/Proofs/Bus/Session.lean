import TunnelKeeper.Proofs.Bus.Log

/-!
# What a session does

Whatever is done on a bus, and whatever handlers do while they are told of something, happens as an
orderly log says (`session_orderly`): the subscriptions and the deliveries of the session are those
of the log. Scripts are used up, so the proof is by induction on the number of those that are left;
`Follows` is what telling a handler keeps.
-/

namespace TunnelKeeper

namespace Session

variable {η : Type} [DecidableEq η]

/-! ## Scripts -/

theorem scripts_of_cons_self (h : η) (script : List (Action η))
    (rest : List (η × List (Action η))) :
    scriptsOf h ((h, script) :: rest) = script :: scriptsOf h rest :=
  List.filterMap_cons_some (if_pos rfl)

theorem scripts_of_cons_ne {h handler : η} (hne : handler ≠ h) (script : List (Action η))
    (rest : List (η × List (Action η))) :
    scriptsOf h ((handler, script) :: rest) = scriptsOf h rest :=
  List.filterMap_cons_none (if_neg hne)

/-- A handler without a script to take has no script. -/
theorem scripts_of_take_none {handler : η} {scripts : List (η × List (Action η))}
    (h : takeFirst handler scripts = none) : scriptsOf handler scripts = [] := by
  induction scripts with
  | nil => rfl
  | cons entry rest ih =>
      obtain ⟨other, script⟩ := entry
      rw [takeFirst] at h
      split at h
      · cases h
      · next hne => rw [scripts_of_cons_ne hne, ih (Option.map_eq_none_iff.mp h)]

/-- The script that is taken is the first one of its handler, and no other handler loses any. -/
theorem scripts_of_take_some {handler : η} {scripts others : List (η × List (Action η))}
    {script : List (Action η)} (h : takeFirst handler scripts = some (script, others)) :
    others.length + 1 = scripts.length ∧
      scriptsOf handler scripts = script :: scriptsOf handler others ∧
      ∀ other, other ≠ handler → scriptsOf other others = scriptsOf other scripts := by
  induction scripts generalizing others with
  | nil => cases h
  | cons entry rest ih =>
      obtain ⟨first, firstScript⟩ := entry
      rw [takeFirst] at h
      split at h
      · next heq =>
          subst heq
          cases h
          exact ⟨rfl, scripts_of_cons_self _ _ _,
            fun other hother => (scripts_of_cons_ne (Ne.symm hother) _ _).symm⟩
      · next hne =>
          obtain ⟨⟨taken, left⟩, htake, heq⟩ := Option.map_eq_some_iff.mp h
          cases heq
          obtain ⟨hlength, hfirst, hothers⟩ := ih htake
          refine ⟨congrArg (· + 1) hlength, ?_, fun other hother => ?_⟩
          · rw [scripts_of_cons_ne hne, scripts_of_cons_ne hne, hfirst]
          · by_cases hself : first = other
            · subst hself
              rw [scripts_of_cons_self, scripts_of_cons_self, hothers _ hother]
            · rw [scripts_of_cons_ne hself, scripts_of_cons_ne hself, hothers _ hother]

/-! ## Sessions and logs -/

/-- A session stands where a log ends, with at most `n` scripts left. -/
structure At (scripts : List (η × List (Action η))) (n : Nat) (log : List (Moment η))
    (s : Session η) : Prop where
  subscriptions : s.bus.subscriptions = subscriptionsIn log
  deliveries : s.deliveries = deliveriesIn log
  scripts : ∀ h, scriptsOf h s.scripts = (scriptsOf h scripts).drop (callsIn log h)
  few : s.scripts.length ≤ n

/-- Where a session goes on from a log: it stands where the log ends with a part behind it that is
whole and whose moments are in order. -/
structure Follows (scripts : List (η × List (Action η))) (n : Nat) (log part : List (Moment η))
    (s : Session η) : Prop where
  at_end : At scripts n (log ++ part) s
  whole : Whole part
  inOrder : AllInOrder scripts log part

variable {scripts : List (η × List (Action η))} {n : Nat} {log : List (Moment η)} {s : Session η}

theorem at_start (scripts : List (η × List (Action η))) :
    At scripts scripts.length [] (start scripts) where
  subscriptions := rfl
  deliveries := rfl
  scripts := fun _ => rfl
  few := Nat.le_refl _

/-- A moment that is neither a subscription nor the beginning of a delivery does not move a
session. -/
theorem At.still (h : At scripts n log s) {m : Moment η} (hsubscriptions : subscriptionsIn [m] = [])
    (hdeliveries : deliveriesIn [m] = []) : At scripts n (log ++ [m]) s where
  subscriptions := by rw [subscriptions_in_append, hsubscriptions, List.append_nil, h.subscriptions]
  deliveries := by rw [deliveries_in_append, hdeliveries, List.append_nil, h.deliveries]
  scripts := by
    intro handler
    have hcalls : callsIn [m] handler = 0 := by rw [callsIn, hdeliveries]; rfl
    rw [calls_in_append, hcalls, Nat.add_zero, h.scripts]
  few := h.few

theorem At.subscribe (h : At scripts n log s) (t : Topic) (handler : η) :
    At scripts n (log ++ [.subscribed t handler])
      { s with bus := s.bus.subscribe t handler } where
  subscriptions := by
    rw [subscriptions_in_append, ← h.subscriptions]
    rfl
  deliveries := by
    rw [deliveries_in_append, ← h.deliveries]
    exact (List.append_nil _).symm
  scripts := by
    intro other
    rw [calls_in_append]
    exact h.scripts other
  few := h.few

/-- Whoever listens to a topic where the log ends is who has subscribed to it. -/
theorem At.subscribers (h : At scripts n log s) (t : Topic) :
    s.bus.subscribers t = listenersIn log t := by
  rw [Bus.subscribers, h.subscriptions, listenersIn]
  induction subscriptionsIn log with
  | nil => rfl
  | cons subscription rest ih =>
      by_cases ht : subscription.1 = t
      · simp [ht, ih]
      · simp [ht, ih]

/-- Telling a handler takes its next script away. -/
theorem At.tell (h : At scripts n log s) {handler : η} (e : Event)
    {left : List (η × List (Action η))} {m : Nat} (hfew : left.length ≤ m)
    (hself : scriptsOf handler left = (scriptsOf handler s.scripts).drop 1)
    (hothers : ∀ other, other ≠ handler → scriptsOf other left = scriptsOf other s.scripts) :
    At scripts m (log ++ [.told handler e]) ({ s with scripts := left }.note handler e) where
  subscriptions := by
    rw [subscriptions_in_append]
    exact h.subscriptions.trans (List.append_nil _).symm
  deliveries := by
    rw [deliveries_in_append, ← h.deliveries]
    rfl
  scripts := by
    intro other
    rw [calls_in_append]
    by_cases heq : other = handler
    · subst heq
      have hcalls : callsIn [Moment.told other e] other = 1 := by simp [callsIn, deliveriesIn]
      rw [hcalls, ← List.drop_drop, ← h.scripts]
      exact hself
    · have hcalls : callsIn [Moment.told handler e] other = 0 := by
        simp [callsIn, deliveriesIn, Ne.symm heq]
      rw [hcalls, Nat.add_zero, ← h.scripts]
      exact hothers other heq
  few := hfew

theorem Follows.nil (h : At scripts n log s) : Follows scripts n log [] s where
  at_end := by rwa [List.append_nil]
  whole := .nil
  inOrder := trivial

/-- One part behind the other. -/
theorem Follows.append {part more : List (Moment η)} {s' : Session η}
    (h : Follows scripts n log part s) (h' : Follows scripts n (log ++ part) more s') :
    Follows scripts n log (part ++ more) s' where
  at_end := by
    rw [← List.append_assoc]
    exact h'.at_end
  whole := h.whole.append h'.whole
  inOrder := h.inOrder.append h'.inOrder

/-! ## Actions -/

/-- Telling any handler leads on by its delivery. -/
def Tells (scripts : List (η × List (Action η))) (n : Nat)
    (tell : Session η → η → Event → Session η) : Prop :=
  ∀ (s : Session η) (log : List (Moment η)) (handler : η) (e : Event), At scripts n log s →
    ∃ during, Whole during ∧
      Follows scripts n log (telling e (handler, during)) (tell s handler e)

section

variable {tell : Session η → η → Event → Session η} (htell : Tells scripts n tell)
include htell

/-- Handlers are told one after the other. -/
theorem tell_all (h : At scripts n log s) (e : Event) (handlers : List η) :
    ∃ tellings : List (η × List (Moment η)), tellings.map Prod.fst = handlers ∧
      (∀ t ∈ tellings, Whole t.2) ∧ Follows scripts n log (tellings.flatMap (telling e))
        (handlers.foldl (fun s handler => tell s handler e) s) := by
  induction handlers generalizing s log with
  | nil => exact ⟨[], rfl, by simp, .nil h⟩
  | cons handler rest ih =>
      obtain ⟨during, hwhole, hfirst⟩ := htell s log handler e h
      obtain ⟨tellings, hhandlers, hall, hrest⟩ := ih hfirst.at_end
      refine ⟨(handler, during) :: tellings, by rw [List.map_cons, hhandlers], ?_, ?_⟩
      · exact List.forall_mem_cons.mpr ⟨hwhole, hall⟩
      · rw [List.flatMap_cons, List.foldl_cons]
        exact hfirst.append hrest

/-- An announcement is told to those who listen when it begins. -/
theorem publish_follows (h : At scripts n log s) (e : Event) :
    ∃ inner, Whole inner ∧
      Follows scripts n log (.announced e :: (inner ++ [.delivered e]))
        (actWith tell s (.publish e)) := by
  have hbegun : At scripts n (log ++ [.announced e]) s := h.still rfl rfl
  obtain ⟨tellings, hhandlers, hall, htold⟩ :=
    tell_all htell hbegun e (s.bus.subscribers e.topic)
  refine ⟨tellings.flatMap (telling e), htold.whole, ?_, .announced htold.whole .nil, ?_⟩
  · have hover := htold.at_end.still (m := .delivered e) rfl rfl
    rwa [List.append_assoc, List.append_assoc] at hover
  · refine ⟨⟨tellings, [], rfl, ?_, hall⟩, htold.inOrder.append ⟨trivial, trivial⟩⟩
    rw [hhandlers, h.subscribers]

/-- An action leads on, and nothing but it is done outside of announcements. -/
theorem act_follows (h : At scripts n log s) (a : Action η) :
    ∃ part, Follows scripts n log part (actWith tell s a) ∧
      ∀ later, doneAt 0 (part ++ later) = a :: doneAt 0 later := by
  cases a with
  | subscribe t handler =>
      exact ⟨[.subscribed t handler], ⟨h.subscribe t handler, .subscribed .nil, trivial, trivial⟩,
        fun _ => rfl⟩
  | publish e =>
      obtain ⟨inner, hwhole, hfollows⟩ := publish_follows htell h e
      refine ⟨_, hfollows, fun later => ?_⟩
      rw [List.cons_append, List.append_assoc, doneAt, hwhole.done_at]
      rfl

/-- Several actions lead on by what is done. -/
theorem acts_follow (h : At scripts n log s) (program : List (Action η)) :
    ∃ part, Follows scripts n log part (program.foldl (actWith tell) s) ∧
      doneAt 0 part = program := by
  induction program generalizing s log with
  | nil => exact ⟨[], .nil h, rfl⟩
  | cons a rest ih =>
      obtain ⟨part, hfirst, hdone⟩ := act_follows htell h a
      obtain ⟨more, hrest, hmore⟩ := ih hfirst.at_end
      exact ⟨part ++ more, hfirst.append hrest, by rw [hdone, hmore]⟩

end

/-- A delivery is over when the handler has done what its script says. -/
theorem follows_telling {handler : η} {e : Event} {during : List (Moment η)} {m : Nat}
    {s' : Session η} (hle : m ≤ n)
    (hduring : Follows scripts m (log ++ [.told handler e]) during s')
    (hdone : doneAt 0 during = (scriptsOf handler scripts)[callsIn log handler]?.getD []) :
    Follows scripts n log (telling e (handler, during)) s' where
  at_end := by
    have hover := hduring.at_end.still (m := .answered handler e) rfl rfl
    rw [List.append_assoc, List.append_assoc] at hover
    exact { hover with few := Nat.le_trans hover.few hle }
  whole := whole_telling hduring.whole
  inOrder := ⟨⟨during, [], rfl, hduring.whole, hdone⟩, hduring.inOrder.append ⟨trivial, trivial⟩⟩

/-- Telling a handler that has no script left is noted and nothing else. -/
theorem note_follows (h : At scripts n log s) {handler : η} (e : Event)
    (hnone : scriptsOf handler s.scripts = []) :
    Follows scripts n log (telling e (handler, [])) (s.note handler e) := by
  refine follows_telling (Nat.le_refl n) (.nil (h.tell e h.few ?_ fun _ _ => rfl)) ?_
  · rw [hnone]
    rfl
  · have hused := (h.scripts handler).symm.trans hnone
    rw [List.getElem?_eq_none (List.drop_eq_nil_iff.mp hused)]
    rfl

/-- Handlers can be told as long as there are no more scripts than steps. -/
theorem deliver_tells (scripts : List (η × List (Action η))) (n : Nat) :
    Tells scripts n (deliver n) := by
  induction n with
  | zero =>
      intro s log handler e h
      have hnil : s.scripts = [] := List.length_eq_zero_iff.mp (Nat.le_zero.mp h.few)
      exact ⟨[], .nil, note_follows h e (by rw [hnil]; rfl)⟩
  | succ n ih =>
      intro s log handler e h
      rw [deliver]
      cases htake : takeFirst handler s.scripts with
      | none => exact ⟨[], .nil, note_follows h e (scripts_of_take_none htake)⟩
      | some taken =>
          obtain ⟨script, others⟩ := taken
          obtain ⟨hlength, hfirst, hothers⟩ := scripts_of_take_some htake
          -- The script is used up before anything of it is done, so one step fewer is enough.
          have hfew : others.length ≤ n := by
            have := h.few
            omega
          have htold := h.tell e hfew (by rw [hfirst]; rfl) hothers
          obtain ⟨during, hduring, hdone⟩ := acts_follow ih htold script
          refine ⟨during, hduring.whole, follows_telling (Nat.le_succ n) hduring ?_⟩
          have hnext : (scriptsOf handler scripts)[callsIn log handler]? = some script := by
            rw [← List.head?_drop, ← h.scripts, hfirst]
            rfl
          rw [hdone, hnext]
          rfl

/-! ## Sessions -/

/-- A program leads on by what is done. -/
theorem run_follows (h : At scripts n log s) (program : List (Action η)) :
    ∃ part, Follows scripts n log part (program.foldl act s) ∧ doneAt 0 part = program := by
  induction program generalizing s log with
  | nil => exact ⟨[], .nil h, rfl⟩
  | cons a rest ih =>
      -- Every action may take as many steps as there are scripts left when it begins.
      obtain ⟨part, hfirst, hdone⟩ := act_follows (deliver_tells scripts s.scripts.length)
        { h with few := Nat.le_refl _ } a
      have hafter : Follows scripts n log part (act s a) :=
        { hfirst with at_end := { hfirst.at_end with
          few := Nat.le_trans hfirst.at_end.few h.few } }
      obtain ⟨more, hrest, hmore⟩ := ih hafter.at_end
      exact ⟨part ++ more, hafter.append hrest, by rw [hdone, hmore]⟩

/-- Whatever is done on a bus, and whatever handlers do when they are told of something: all of it
happens as an orderly log says, and the log shows the subscriptions and the deliveries that were
made, in their order. -/
theorem session_orderly (scripts : List (η × List (Action η))) (program : List (Action η)) :
    ∃ log, Orderly scripts program log ∧
      deliveriesIn log = (program.foldl act (start scripts)).deliveries ∧
      subscriptionsIn log = (program.foldl act (start scripts)).bus.subscriptions := by
  obtain ⟨log, hfollows, hdone⟩ := run_follows (at_start scripts) program
  refine ⟨log, ⟨hfollows.whole, hdone, ?_⟩, hfollows.at_end.deliveries.symm,
    hfollows.at_end.subscriptions.symm⟩
  rintro earlier m later rfl
  exact hfollows.inOrder.moment

/-- Who subscribes during a delivery is told of the next announcement first. -/
example :
    let scripts := [("early", [Action.subscribe .peersChanged "late"])]
    let program := [.subscribe .peersChanged "early", .publish (.peersChanged "wg0"),
      .publish (.peersChanged "wg1")]
    (program.foldl act (start scripts)).deliveries =
      [("early", .peersChanged "wg0"), ("early", .peersChanged "wg1"),
        ("late", .peersChanged "wg1")] := by
  decide

end Session

end TunnelKeeper
