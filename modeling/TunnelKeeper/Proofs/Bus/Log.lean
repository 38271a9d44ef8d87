import TunnelKeeper.Bus.Session

/-!
# Logs of a bus

A log holds what happens on a bus, moment by moment. It is whole if everything that begins in it
ends in it, inner things before outer ones (`Whole`). A moment is in order if what follows it is
what has to follow after what came before it (`Moment.InOrder`): an announcement is told to those
who listen when it begins, one after the other, and whoever is told goes through the next script.
-/

namespace TunnelKeeper

/-- What happens on a bus. An announcement begins with `announced` and ends with `delivered`; in
between, telling a handler of it begins with `told` and ends with `answered`. -/
inductive Moment (η : Type)
  | subscribed (topic : Topic) (handler : η)
  | announced (e : Event)
  | told (handler : η) (e : Event)
  | answered (handler : η) (e : Event)
  | delivered (e : Event)

variable {η : Type}

/-! ## What a log shows -/

/-- Everything that begins ends, and nothing else ends before what began within it. -/
inductive Whole : List (Moment η) → Prop
  | nil : Whole []
  | subscribed {t : Topic} {h : η} {later : List (Moment η)} (hlater : Whole later) :
      Whole (.subscribed t h :: later)
  | announced {e : Event} {inner later : List (Moment η)} (hinner : Whole inner)
      (hlater : Whole later) : Whole (.announced e :: (inner ++ .delivered e :: later))
  | told {h : η} {e : Event} {inner later : List (Moment η)} (hinner : Whole inner)
      (hlater : Whole later) : Whole (.told h e :: (inner ++ .answered h e :: later))

/-- What is done outside of all announcements, if `depth` announcements and deliveries that have
begun before are not over yet. -/
def doneAt (depth : Nat) : List (Moment η) → List (Action η)
  | [] => []
  | .subscribed t h :: later => (if depth = 0 then [.subscribe t h] else []) ++ doneAt depth later
  | .announced e :: later => (if depth = 0 then [.publish e] else []) ++ doneAt (depth + 1) later
  | .told _ _ :: later => doneAt (depth + 1) later
  | .answered _ _ :: later | .delivered _ :: later => doneAt (depth - 1) later

/-- The subscriptions that were made, in their order. -/
def subscriptionsIn (log : List (Moment η)) : List (Topic × η) :=
  log.filterMap fun
    | .subscribed t h => some (t, h)
    | _ => none

/-- The deliveries that were begun, in their order. -/
def deliveriesIn (log : List (Moment η)) : List (η × Event) :=
  log.filterMap fun
    | .told h e => some (h, e)
    | _ => none

/-- The moments from telling a handler to its answer. -/
def telling (e : Event) (t : η × List (Moment η)) : List (Moment η) :=
  .told t.1 e :: (t.2 ++ [.answered t.1 e])

/-! ## Parts of logs -/

theorem Whole.append {a b : List (Moment η)} (ha : Whole a) (hb : Whole b) : Whole (a ++ b) := by
  induction ha with
  | nil => exact hb
  | subscribed _ ih => exact .subscribed ih
  | announced hinner _ _ ih =>
      rw [List.cons_append, List.append_assoc, List.cons_append]
      exact .announced hinner ih
  | told hinner _ _ ih =>
      rw [List.cons_append, List.append_assoc, List.cons_append]
      exact .told hinner ih

theorem whole_telling {e : Event} {t : η × List (Moment η)} (h : Whole t.2) :
    Whole (telling e t) := .told h .nil

/-- Nothing that is done within a whole part is done outside of it. -/
theorem Whole.done_at {inner : List (Moment η)} (h : Whole inner) (depth : Nat)
    (later : List (Moment η)) : doneAt (depth + 1) (inner ++ later) = doneAt (depth + 1) later := by
  induction h generalizing depth later with
  | nil => rfl
  | subscribed _ ih => rw [List.cons_append, doneAt, ih, if_neg (Nat.succ_ne_zero depth)]; rfl
  | announced _ _ hinner hlater =>
      rw [List.cons_append, List.append_assoc, List.cons_append, doneAt, hinner, doneAt,
        Nat.add_sub_cancel, hlater, if_neg (Nat.succ_ne_zero depth)]
      rfl
  | told _ _ hinner hlater =>
      rw [List.cons_append, List.append_assoc, List.cons_append, doneAt, hinner, doneAt,
        Nat.add_sub_cancel, hlater]

theorem subscriptions_in_append (a b : List (Moment η)) :
    subscriptionsIn (a ++ b) = subscriptionsIn a ++ subscriptionsIn b := List.filterMap_append

theorem deliveries_in_append (a b : List (Moment η)) :
    deliveriesIn (a ++ b) = deliveriesIn a ++ deliveriesIn b := List.filterMap_append

/-! ## Order -/

variable [DecidableEq η]

/-- Who has subscribed to a topic, once for each subscription. -/
def listenersIn (log : List (Moment η)) (t : Topic) : List η :=
  (subscriptionsIn log).filterMap fun s => if s.1 = t then some s.2 else none

/-- How often a handler was told of something. -/
def callsIn (log : List (Moment η)) (h : η) : Nat := (deliveriesIn log).countP fun d => d.1 = h

/-- The scripts of a handler. -/
def scriptsOf (h : η) (scripts : List (η × List (Action η))) : List (List (Action η)) :=
  scripts.filterMap fun s => if s.1 = h then some s.2 else none

/-- What follows a moment is what has to follow. An announcement is told to whoever listened to its
topic before it, in the order of the subscriptions, each time to the end, and then it is over. A
handler that is told of it does what its next script says, if it has one, and answers then. -/
def Moment.InOrder (scripts : List (η × List (Action η))) (earlier later : List (Moment η)) :
    Moment η → Prop
  | .announced e => ∃ (tellings : List (η × List (Moment η))) (after : List (Moment η)),
      later = tellings.flatMap (telling e) ++ .delivered e :: after ∧
        tellings.map Prod.fst = listenersIn earlier e.topic ∧ ∀ t ∈ tellings, Whole t.2
  | .told h e => ∃ during after : List (Moment η), later = during ++ .answered h e :: after ∧
      Whole during ∧ doneAt 0 during = (scriptsOf h scripts)[callsIn earlier h]?.getD []
  | .subscribed _ _ | .answered _ _ | .delivered _ => True

/-- A log of a program: it is whole, the program is what is done outside of all announcements, and
every moment is in order. -/
structure Orderly (scripts : List (η × List (Action η))) (program : List (Action η))
    (log : List (Moment η)) : Prop where
  whole : Whole log
  done : doneAt 0 log = program
  inOrder : ∀ earlier m later, log = earlier ++ m :: later → m.InOrder scripts earlier later

/-- All moments of a log are in order, after what came before it. -/
def AllInOrder (scripts : List (η × List (Action η))) :
    List (Moment η) → List (Moment η) → Prop
  | _, [] => True
  | earlier, m :: later =>
    m.InOrder scripts earlier later ∧ AllInOrder scripts (earlier ++ [m]) later

theorem calls_in_append (a b : List (Moment η)) (h : η) :
    callsIn (a ++ b) h = callsIn a h + callsIn b h := by
  rw [callsIn, deliveries_in_append, List.countP_append]
  rfl

variable {scripts : List (η × List (Action η))}

/-- A moment that is in order stays so whatever comes behind. -/
theorem Moment.InOrder.append {earlier later : List (Moment η)} {m : Moment η}
    (h : m.InOrder scripts earlier later) (more : List (Moment η)) :
    m.InOrder scripts earlier (later ++ more) := by
  cases m with
  | subscribed | answered | delivered => trivial
  | announced e =>
      obtain ⟨tellings, after, rfl, hlisteners, hwhole⟩ := h
      exact ⟨tellings, after ++ more, by rw [List.append_assoc, List.cons_append], hlisteners,
        hwhole⟩
  | told handler e =>
      obtain ⟨during, after, rfl, hwhole, hdone⟩ := h
      exact ⟨during, after ++ more, by rw [List.append_assoc, List.cons_append], hwhole, hdone⟩

theorem AllInOrder.append {earlier a b : List (Moment η)} (ha : AllInOrder scripts earlier a)
    (hb : AllInOrder scripts (earlier ++ a) b) : AllInOrder scripts earlier (a ++ b) := by
  induction a generalizing earlier with
  | nil => rwa [List.append_nil] at hb
  | cons m a ih =>
      refine ⟨ha.1.append b, ih ha.2 ?_⟩
      rwa [List.append_assoc]

/-- Every moment of a log whose moments are in order. -/
theorem AllInOrder.moment {earlier before later : List (Moment η)} {m : Moment η}
    (h : AllInOrder scripts earlier (before ++ m :: later)) :
    m.InOrder scripts (earlier ++ before) later := by
  induction before generalizing earlier with
  | nil =>
      rw [List.append_nil]
      exact h.1
  | cons first before ih =>
      have hrest := ih h.2
      rwa [List.append_assoc] at hrest

end TunnelKeeper
