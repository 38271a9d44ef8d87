import TunnelKeeper.Bus.Basic
/-!
# Sessions on a bus

A session lets scripted handlers work on a bus. A handler that is told of an announcement goes
through its next script, in which it may subscribe and announce itself; an announcement of its own
is delivered before it goes on. A script is used up when it is begun, so a session ends.
-/

namespace TunnelKeeper

/-- What can be done on a bus. -/
inductive Action (η : Type)
  | subscribe (topic : Topic) (handler : η)
  | publish (event : Event)
  deriving DecidableEq

/-- A bus in use: the scripts that handlers have not begun yet, in the order in which they will,
and the deliveries that were made. -/
structure Session (η : Type) where
  bus : Bus η
  scripts : List (η × List (Action η))
  deliveries : List (η × Event)
  deriving DecidableEq

namespace Session

variable {η : Type}

/-- The session before anything was done. -/
def start (scripts : List (η × List (Action η))) : Session η := ⟨.empty, scripts, []⟩

variable [DecidableEq η]

/-- The first entry for a handler, and the entries without it. -/
def takeFirst {α : Type} (handler : η) : List (η × α) → Option (α × List (η × α))
  | [] => none
  | (h, a) :: rest =>
    if h = handler then some (a, rest)
    else (takeFirst handler rest).map fun (b, others) => (b, (h, a) :: others)

/-- Notes a delivery. -/
def note (s : Session η) (handler : η) (e : Event) : Session η :=
  { s with deliveries := s.deliveries ++ [(handler, e)] }

/-- Does an action, given how a handler is told of an announcement. -/
def actWith (deliver : Session η → η → Event → Session η) (s : Session η) :
    Action η → Session η
  | .subscribe t handler => { s with bus := s.bus.subscribe t handler }
  | .publish e => (s.bus.subscribers e.topic).foldl (fun s handler => deliver s handler e) s

/-- Tells a handler of an announcement. Not more than `n` scripts may be left. -/
def deliver : Nat → Session η → η → Event → Session η
  | 0, s, handler, e => s.note handler e
  | n + 1, s, handler, e =>
    match takeFirst handler s.scripts with
    | none => s.note handler e
    | some (script, others) =>
      script.foldl (actWith (deliver n)) ({ s with scripts := others }.note handler e)

/-- Does an action. -/
def act (s : Session η) (a : Action η) : Session η := actWith (deliver s.scripts.length) s a

end Session

end TunnelKeeper
