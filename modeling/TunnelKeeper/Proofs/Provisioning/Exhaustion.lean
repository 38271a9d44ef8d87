import TunnelKeeper.Proofs.Provisioning.Accounts
import TunnelKeeper.Proofs.Provisioning.Check

/-!
# Why building fails

Where the entries can be read, there is an allocator for them exactly if the start blocks fit the
families that they are used for (`allocator_of_starts_fit`, `allocator_of_misfit`), and then an
interface is not built only if there is nothing left to hand out (`Accounts.exhausted`).
-/

namespace TunnelKeeper

namespace Entry

open Allocator

/-! ## The start blocks -/

/-- The start blocks are of the families that they are used for. -/
structure StartsFit (s : AdvancedSettings) : Prop where
  v4 : ∀ n, Network.parseEntry s.startCidrV4 = .ok n → n.family = .v4
  v6 : s.useIpV6 = true → ∀ n, Network.parseEntry s.startCidrV6 = .ok n → n.family = .v6

section

variable {s : AdvancedSettings} {entries : List Entry} {v4 v6 : Network}
  (hv4 : Network.parseEntry s.startCidrV4 = .ok v4)
  (hv6 : Network.parseEntry s.startCidrV6 = .ok v6)

/-- Entries that can be read are reserved. -/
theorem reserve_all_of_readable (hreadable : ∀ e ∈ entries, Readable e) (a : Allocator) :
    ∃ a', entries.foldlM reserve a = .ok a' := by
  induction entries generalizing a with
  | nil => exact ⟨a, rfl⟩
  | cons e rest ih =>
      obtain ⟨he, hrest⟩ := List.forall_mem_cons.mp hreadable
      obtain ⟨asked, hasked⟩ := he.addresses
      obtain ⟨a', hall⟩ := ih hrest
        ((if e.listenPort ≠ 0 then a.reservePort e.listenPort.toNat else a).reserveNetworks asked)
      refine ⟨a', ?_⟩
      rw [List.foldlM_cons, reserve, hasked]
      exact hall

include hv4 hv6

/-- The allocator with the start blocks that are read. -/
theorem allocator_eq : Entry.allocator s entries =
    ((Allocator.ofStart s.startListenPort.toNat v4
      (if s.useIpV6 then some v6 else none)).mapError .settings >>=
        fun fresh => entries.foldlM reserve fresh) := by
  unfold Entry.allocator
  rw [start_block_ok.mpr hv4, start_block_ok.mpr hv6]
  cases s.useIpV6 with
  | true => rfl
  | false => rfl

theorem allocator_of_starts_fit (hreadable : ∀ e ∈ entries, Readable e) (hfit : StartsFit s) :
    ∃ a, Entry.allocator s entries = .ok a := by
  have hfresh : ∃ fresh, Allocator.ofStart s.startListenPort.toNat v4
      (if s.useIpV6 then some v6 else none) = .ok fresh := by
    unfold Allocator.ofStart
    rw [if_neg (not_not_intro (hfit.v4 v4 hv4))]
    cases hwanted : s.useIpV6 with
    | false => exact ⟨_, rfl⟩
    | true =>
        refine ⟨⟨s.startListenPort.toNat, [], v4.normalize, some v6.normalize, []⟩, ?_⟩
        show (if v6.family ≠ .v6 then _ else _) = _
        rw [if_neg (not_not_intro (hfit.v6 hwanted v6 hv6))]
  obtain ⟨fresh, hfresh⟩ := hfresh
  obtain ⟨a, ha⟩ := reserve_all_of_readable hreadable fresh
  refine ⟨a, ?_⟩
  rw [allocator_eq hv4 hv6, hfresh]
  exact ha

theorem allocator_of_misfit (hmisfit : ¬ StartsFit s) (entries : List Entry) :
    ∃ start wanted, start.family ≠ wanted ∧
      Entry.allocator s entries = .error (.settings (.startFamily start wanted)) := by
  rw [allocator_eq hv4 hv6]
  unfold Allocator.ofStart
  by_cases hfamily : v4.family = .v4
  · rw [if_neg (not_not_intro hfamily)]
    have hneeded : s.useIpV6 = true ∧ v6.family ≠ .v6 := by
      refine Decidable.byContradiction fun hnot => hmisfit ⟨fun n hn => ?_, fun hwanted n hn => ?_⟩
      · rw [hv4] at hn
        exact Except.ok.inj hn ▸ hfamily
      · rw [hv6] at hn
        exact Except.ok.inj hn ▸ Decidable.byContradiction fun hne => hnot ⟨hwanted, hne⟩
    obtain ⟨hwanted, hne⟩ := hneeded
    refine ⟨v6, .v6, hne, ?_⟩
    rw [if_pos hwanted]
    simp only [if_pos hne]
    rfl
  · refine ⟨v4, .v4, hfamily, ?_⟩
    rw [if_pos hfamily]
    rfl

end

/-! ## What is left to hand out -/

/-- There is nothing left of what was wanted: every port from the start port on is taken, or every
block from a start block on. -/
inductive Exhausted (s : AdvancedSettings) (entries : List Entry) (built : List Interface) :
    SettingsFault → Prop
  | ports (h : ∀ port, s.startListenPort.toNat ≤ port → port ≤ greatestPort →
      port = 0 ∨ PortTaken entries built port) : Exhausted s entries built .noPortLeft
  | blocks (start : Network) (hstart : StartBlock s start)
      (h : ∀ k block, blockAt start k = some block → BlockTaken entries built block) :
      Exhausted s entries built (.noNetworkLeft start)

/-- An interface is not built only if there is nothing left for it. -/
theorem Accounts.exhausted {s : AdvancedSettings} {entries : List Entry} {built : List Interface}
    {e : Entry} {new : KeyPair} {a : Allocator} {fault : Error}
    (haccounts : Accounts s entries built a) (hreadable : Readable e)
    (h : e.build s new a = .error fault) :
    ∃ reason, fault = .settings reason ∧ Exhausted s entries built reason := by
  have hfamilies : ∀ start, a.startV6 = some start → start.family ≠ a.startV4.family := by
    intro start hstart
    rw [(haccounts.start_v6 start hstart).2, haccounts.start_v4.2]
    decide
  rcases build_error hreadable hfamilies h with ⟨rfl, hnone⟩ | ⟨start, hstart, rfl, hnone⟩
  · refine ⟨.noPortLeft, rfl, .ports fun port hge hle => ?_⟩
    rw [← haccounts.ports]
    by_cases hpassed : port < a.nextPort
    · exact haccounts.passed port hge hpassed
    · exact hnone port (by omega) hle
  · have hwanted : StartBlock s start := by
      rcases hstart with rfl | hstart
      · exact haccounts.start_v4.1
      · exact (haccounts.start_v6 start hstart).1
    refine ⟨.noNetworkLeft start, rfl, .blocks start hwanted fun k block hblock => ?_⟩
    exact (haccounts.blocks block).mp (hnone k block hblock)

end Entry

end TunnelKeeper
