import Mathlib.Data.List.Basic
import TunnelKeeper.Proofs.Allocator.History

/-!
# The ports of a history

At every point of a history the port that is handed out next is the least one from the start on
that is neither reserved nor handed out, if there is one (`least_free_port_taken`). The search
begins at a cursor, not at the start: `PortsKept` says that no port below the cursor is free, and
that none that was handed out is above it. The cursor stays at the greatest port when that one is
handed out, so it may itself be in use.
-/

namespace TunnelKeeper

namespace Allocator

/-! ## What a caller can see -/

/-- The port that a call handed out. -/
def Event.port? : Event → Option Nat
  | .portTaken (.ok port) => some port
  | _ => none

/-- The ports that were handed out, in their order. -/
def portsTaken (events : List Event) : List Nat := events.filterMap Event.port?

/-- A port, from a start on, that is neither reserved nor handed out. -/
structure PortFree (start : Nat) (events : List Event) (port : Nat) : Prop where
  pos : 1 ≤ port
  start_le : start ≤ port
  le_greatest : port ≤ 65535
  not_reserved : Event.portReserved port ∉ events
  not_taken : port ∉ portsTaken events

/-- Later calls make no port free. -/
theorem PortFree.of_append {start port : Nat} {events more : List Event}
    (h : PortFree start (events ++ more) port) : PortFree start events port where
  pos := h.pos
  start_le := h.start_le
  le_greatest := h.le_greatest
  not_reserved := fun hmem => h.not_reserved (List.mem_append_left more hmem)
  not_taken := fun hmem => h.not_taken (by
    rw [portsTaken, List.filterMap_append]
    exact List.mem_append_left _ hmem)

/-! ## What the allocator knows -/

/-- What an allocator knows about the ports of its history. -/
structure PortsKept (start : Nat) (h : History) : Prop where
  used : ∀ port, port ∈ h.allocator.usedPorts ↔
    Event.portReserved port ∈ h.events ∨ port ∈ portsTaken h.events
  start_le : start ≤ h.allocator.nextPort
  passed : ∀ port, start ≤ port → port < h.allocator.nextPort →
    port = 0 ∨ port ∈ h.allocator.usedPorts
  taken_le : ∀ port ∈ portsTaken h.events, port ≤ h.allocator.nextPort
  ascending : (portsTaken h.events).Pairwise (· < ·)
  failed : ∀ fault, Event.portTaken (.error fault) ∈ h.events →
    ∀ port, ¬ PortFree start h.events port

namespace PortsKept

variable {start port : Nat} {h : History} (hkept : PortsKept start h)
include hkept

/-- The search from the cursor on misses no free port. -/
theorem free_iff : PortFree start h.events port ↔
    h.allocator.nextPort ≤ port ∧ port ≤ greatestPort ∧ port ≠ 0 ∧
      port ∉ h.allocator.usedPorts := by
  rw [hkept.used, not_or]
  constructor
  · intro hfree
    refine ⟨Nat.le_of_not_lt fun hlt => ?_, hfree.le_greatest, Nat.ne_zero_of_lt hfree.pos,
      hfree.not_reserved, hfree.not_taken⟩
    rcases hkept.passed port hfree.start_le hlt with rfl | hused
    · exact absurd hfree.pos (by decide)
    · exact ((hkept.used port).mp hused).elim hfree.not_reserved hfree.not_taken
  · rintro ⟨hge, hle, hne, hreserved, htaken⟩
    exact ⟨Nat.pos_of_ne_zero hne, Nat.le_trans hkept.start_le hge, hle, hreserved, htaken⟩

/-- A port that is handed out is the least one that is free. -/
theorem least_of_ok {a' : Allocator} (htake : h.allocator.takePort = (.ok port, a')) :
    PortFree start h.events port ∧
      ∀ other, PortFree start h.events other → port ≤ other := by
  obtain ⟨⟨hzero, hgreatest, hunused, hge⟩, hleast, -⟩ := take_port_ok htake
  refine ⟨hkept.free_iff.mpr ⟨hge, hgreatest, hzero, hunused⟩, fun other hother => ?_⟩
  obtain ⟨hge', -, hzero', hunused'⟩ := hkept.free_iff.mp hother
  exact Nat.le_of_not_lt fun hlt => (hleast other hge' hlt).elim hzero' hunused'

/-- No port is handed out only if none is free. -/
theorem none_of_error {fault : SettingsFault} {a' : Allocator}
    (htake : h.allocator.takePort = (.error fault, a')) :
    fault = .noPortLeft ∧ ∀ other, ¬ PortFree start h.events other := by
  obtain ⟨rfl, -, hall⟩ := take_port_error htake
  refine ⟨rfl, fun other hother => ?_⟩
  obtain ⟨hge, hle, hzero, hunused⟩ := hkept.free_iff.mp hother
  exact (hall other hge hle).elim hzero hunused

/-- A call that hands out no port moves no cursor, and at most it reserves a port. -/
theorem no_port_taken {e : Event} {a' : Allocator} (hnone : e.port? = none)
    (hused : ∀ port, port ∈ a'.usedPorts ↔
      port ∈ h.allocator.usedPorts ∨ e = .portReserved port)
    (hnext : a'.nextPort = h.allocator.nextPort)
    (hfailed : ∀ fault, e = .portTaken (.error fault) → ∀ port, ¬ PortFree start h.events port) :
    PortsKept start ⟨h.events ++ [e], a'⟩ := by
  have hports : portsTaken (h.events ++ [e]) = portsTaken h.events := by
    simp [portsTaken, List.filterMap_append, hnone]
  exact {
    used := by
      intro port
      rw [hused, hkept.used, hports, List.mem_append, List.mem_singleton, or_right_comm, eq_comm]
    start_le := hnext ▸ hkept.start_le
    passed := by
      intro port hge hlt
      rw [hused]
      exact (hkept.passed port hge (hnext ▸ hlt)).imp_right .inl
    taken_le := by
      rw [hports, hnext]
      exact hkept.taken_le
    ascending := hports ▸ hkept.ascending
    failed := by
      intro fault hmem other hother
      rcases List.mem_append.mp hmem with hmem | hmem
      · exact hkept.failed fault hmem other hother.of_append
      · exact hfailed fault (List.mem_singleton.mp hmem).symm other hother.of_append }

/-- The port that is handed out lies above all that were handed out before, and the cursor moves
behind it, unless it is the greatest one. -/
theorem take_ok {a' : Allocator} (htake : h.allocator.takePort = (.ok port, a')) :
    PortsKept start ⟨h.events ++ [.portTaken (.ok port)], a'⟩ := by
  obtain ⟨hfree, -⟩ := hkept.least_of_ok htake
  obtain ⟨⟨-, hgreatest, hunused, hge⟩, hleast, rfl⟩ := take_port_ok htake
  have hports : portsTaken (h.events ++ [.portTaken (.ok port)]) =
      portsTaken h.events ++ [port] := by
    simp [portsTaken, List.filterMap_append, Event.port?]
  have hstart := hfree.start_le
  exact {
    used := by
      intro other
      show other ∈ port :: h.allocator.usedPorts ↔ _
      rw [List.mem_cons, hkept.used, hports]
      simp [or_comm, or_assoc]
    start_le := by
      show start ≤ min (port + 1) greatestPort
      omega
    passed := fun _ hge hlt => passed_over hkept.passed hleast hge hlt
    taken_le := by
      intro other hother
      show other ≤ min (port + 1) greatestPort
      rw [hports, List.mem_append, List.mem_singleton] at hother
      rcases hother with hbefore | rfl
      · have := hkept.taken_le other hbefore
        omega
      · omega
    ascending := by
      rw [hports, List.pairwise_append]
      refine ⟨hkept.ascending, List.pairwise_singleton _ _, fun other hother last hlast => ?_⟩
      obtain rfl := List.mem_singleton.mp hlast
      have hle := hkept.taken_le other hother
      have hne : other ≠ last := by
        rintro rfl
        exact hfree.not_taken hother
      omega
    failed := by
      intro fault hmem other hother
      refine hkept.failed fault ?_ other hother.of_append
      simpa using hmem }

/-- Every call keeps what is known about the ports. -/
theorem next (c : Call) : PortsKept start (h.next c) := by
  cases c with
  | reservePort port =>
      refine hkept.no_port_taken rfl (fun other => ?_) rfl (by simp [call])
      show other ∈ port :: h.allocator.usedPorts ↔ _ ∨ Event.portReserved port = .portReserved other
      rw [List.mem_cons, Event.portReserved.injEq, or_comm, eq_comm]
  | reserveNetworks networks =>
      exact hkept.no_port_taken rfl (by simp [call, reserveNetworks]) rfl (by simp [call])
  | takePort =>
      unfold History.next call
      rcases htake : h.allocator.takePort with ⟨fault | port, a'⟩
      · obtain ⟨-, hnone⟩ := hkept.none_of_error htake
        obtain ⟨-, rfl, -⟩ := take_port_error htake
        exact hkept.no_port_taken rfl (by simp) rfl fun _ _ => hnone
      · exact hkept.take_ok htake
  | takeAddresses =>
      obtain ⟨more, hmore⟩ := h.allocator.take_addresses_keeps
      refine hkept.no_port_taken rfl ?_ ?_ (by simp [call])
      · simp [call, hmore]
      · simp [call, hmore]

end PortsKept

theorem ports_kept_of_start {start : Nat} {v4 : Network} {v6 : Option Network} {a : Allocator}
    (h : ofStart start v4 v6 = .ok a) : PortsKept start ⟨[], a⟩ := by
  obtain ⟨-, -, rfl⟩ := of_start_eq_ok_iff.mp h
  exact {
    used := by simp [portsTaken]
    start_le := Nat.le_refl start
    passed := fun port hge hlt => absurd hge (Nat.not_le.mpr hlt)
    taken_le := by simp [portsTaken]
    ascending := .nil
    failed := by simp }

/-- At every point of a history. -/
theorem ports_kept {start : Nat} {v4 : Network} {v6 : Option Network} {a : Allocator}
    (h : ofStart start v4 v6 = .ok a) (calls : List Call) : PortsKept start (.of a calls) :=
  List.foldlRecOn calls History.next (ports_kept_of_start h)
    fun _ hkept c _ => hkept.next c

/-- At every point of a history the port that is handed out is the least one that is free. None is
handed out exactly if none is free, and after that none ever is. So the ports that are handed out
ascend. -/
theorem least_free_port_taken {start : Nat} {v4 : Network} {v6 : Option Network} {a : Allocator}
    (h : ofStart start v4 v6 = .ok a) (calls : List Call) :
    let past := History.of a calls
    (∀ port, past.allocator.takePort.1 = .ok port ↔
        PortFree start past.events port ∧
          ∀ other, PortFree start past.events other → port ≤ other) ∧
      (∀ fault, past.allocator.takePort.1 = .error fault ↔
        fault = .noPortLeft ∧ ∀ port, ¬ PortFree start past.events port) ∧
      (∀ fault, Event.portTaken (.error fault) ∈ past.events →
        past.allocator.takePort.1 = .error .noPortLeft) ∧
      (portsTaken past.events).Pairwise (· < ·) := by
  intro past
  have hkept : PortsKept start past := ports_kept h calls
  have hfails : (∀ port, ¬ PortFree start past.events port) →
      past.allocator.takePort.1 = .error .noPortLeft := by
    intro hnone
    rcases htake : past.allocator.takePort with ⟨fault | port, a'⟩
    · rw [(hkept.none_of_error htake).1]
    · exact absurd (hkept.least_of_ok htake).1 (hnone port)
  refine ⟨fun port => ⟨fun hok => ?_, fun hleast => ?_⟩, fun fault => ⟨fun herror => ?_, ?_⟩,
    fun fault hfailed => hfails (hkept.failed fault hfailed), hkept.ascending⟩
  · exact hkept.least_of_ok (Prod.ext hok rfl)
  · obtain ⟨hfree, hleast⟩ := hleast
    rcases htake : past.allocator.takePort with ⟨fault | port', a'⟩
    · exact absurd hfree ((hkept.none_of_error htake).2 port)
    · obtain ⟨hfree', hleast'⟩ := hkept.least_of_ok htake
      rw [Nat.le_antisymm (hleast' port hfree) (hleast port' hfree')]
  · exact hkept.none_of_error (Prod.ext herror rfl)
  · rintro ⟨rfl, hnone⟩
    exact hfails hnone

/-- The greatest port is handed out once, and then none is left. -/
theorem greatest_port_taken_once :
    let block : Network := ⟨.v4, 0x0A000000, 24, by decide, by decide⟩
    let a : Allocator := ⟨65534, [], block, none, []⟩
    let past := History.of a [.reservePort 65534, .takePort]
    ofStart 65534 block none = .ok a ∧ portsTaken past.events = [65535] ∧
      past.allocator.takePort.1 = .error .noPortLeft := by
  intro block a past
  have hstart : ofStart 65534 block none = .ok a :=
    of_start_eq_ok_iff.mpr ⟨rfl, by simp, by decide +kernel⟩
  have htaken : portsTaken past.events = [65535] := by decide +kernel
  refine ⟨hstart, htaken,
    ((least_free_port_taken hstart _).2.1 .noPortLeft).mpr ⟨rfl, fun port hfree => ?_⟩⟩
  obtain ⟨-, hge, hle, hreserved, hunused⟩ := hfree
  have hfirst : port ≠ 65534 := by
    rintro rfl
    exact hreserved (by simp [History.of, History.next, call])
  have hlast : port ≠ 65535 := by
    rintro rfl
    exact hunused (htaken ▸ List.mem_singleton_self _)
  omega

end Allocator

end TunnelKeeper
