import TunnelKeeper.Proofs.Keeper.Bootstrap
import TunnelKeeper.Proofs.Provisioning.Accounts

/-!
# Interfaces that are built together

Two interfaces of one run have different ports, and blocks without a common address, unless both of
their entries ask for what they have (`bootstrap_keeps_apart`). What is handed out to an interface
was taken neither by an entry, wherever it stands in the list, nor by an interface before it
(`build_all_fresh`, by induction on the entries); of any two interfaces one comes before the other.
-/

namespace TunnelKeeper

namespace Entry

variable {s : AdvancedSettings} {newKeys : Nat → KeyPair} {entries : List Entry}
  {built : List Interface} {a : Allocator} {e e' : Entry} {i i' : Interface}

/-! ## Two interfaces -/

/-- The interfaces of two entries are kept apart where one of the entries leaves the choice open. -/
structure Apart (e e' : Entry) (i i' : Interface) : Prop where
  ports : e.listenPort = 0 ∨ e'.listenPort = 0 →
    i.listenPort ≠ i'.listenPort ∧ i.listenPort ≠ 0 ∧ i'.listenPort ≠ 0
  blocks : e.addresses = [] ∨ e'.addresses = [] →
    ∀ n ∈ i.addresses, ∀ n' ∈ i'.addresses, ¬ n.Shares n'

theorem Apart.symm (h : Apart e e' i i') : Apart e' e i' i where
  ports := by
    intro hopen
    obtain ⟨hne, hport, hport'⟩ := h.ports hopen.symm
    exact ⟨hne.symm, hport', hport⟩
  blocks := by
    intro hopen n hn n' hn' hshares
    exact h.blocks hopen.symm n' hn' n hn hshares.symm

/-- An interface has a port if one is asked for or handed out. -/
theorem port_ne_zero (hfollows : Follows e i) (hfresh : Fresh entries built e i) :
    i.listenPort ≠ 0 := by
  by_cases hopen : e.listenPort = 0
  · exact (hfresh.port hopen).1
  · rw [hfollows.port hopen]
    exact hopen

/-- An interface is kept apart from one that was built before it. -/
theorem apart_of_fresh {before before' : List Interface} (he' : e' ∈ entries) (hi : i ∈ before')
    (hfollows : Follows e i) (hfresh : Fresh entries before e i)
    (hfollows' : Follows e' i') (hfresh' : Fresh entries before' e' i') : Apart e e' i i' where
  ports := by
    intro hopen
    refine ⟨fun hsame => ?_, port_ne_zero hfollows hfresh, port_ne_zero hfollows' hfresh'⟩
    by_cases hlater : e'.listenPort = 0
    · exact (hfresh'.port hlater).2 (.inr ⟨i, hi, by rw [hsame]⟩)
    · -- The later port is asked for, so the earlier one was handed out with regard to it.
      refine (hfresh.port (hopen.resolve_right hlater)).2 (.inl ⟨e', he', hlater, ?_⟩)
      rw [hsame, hfollows'.port hlater]
  blocks := by
    intro hopen n hn n' hn' hshares
    by_cases hlater : e'.addresses = []
    · exact hfresh'.addresses hlater n' hn' (.inr ⟨i, hi, n, hn, hshares.symm⟩)
    · have hasked := hfollows'.addresses hlater
      exact hfresh.addresses (hopen.resolve_right hlater) n hn
        (.inl ⟨e', he', i'.addresses, hasked, n', hn', hshares⟩)

/-! ## All interfaces -/

/-- Every interface has what its entry asks for, and beside that what was not taken before it. -/
theorem build_all_fresh {place : Nat} {es : List Entry} {later : List Interface}
    (haccounts : Accounts s entries built a) (hsub : ∀ e ∈ es, e ∈ entries)
    (h : buildAll s newKeys place a es = .ok later) {k : Nat} (hk : later[k]? = some i) :
    ∃ e, es[k]? = some e ∧ Follows e i ∧ Fresh entries (built ++ later.take k) e i := by
  -- The allocator knows the interfaces before the place, to which each step adds one.
  induction es generalizing place a built later k with
  | nil =>
      cases h
      cases hk
  | cons e rest ih =>
      rw [buildAll] at h
      obtain ⟨⟨first, a'⟩, hbuild, h⟩ := except_bind_eq_ok_iff.mp h
      obtain ⟨others, hothers, h⟩ := except_bind_eq_ok_iff.mp h
      obtain rfl := Except.ok.inj h
      cases k with
      | zero =>
          obtain rfl := Option.some.inj hk
          refine ⟨e, rfl, follows_of_build hbuild, ?_⟩
          rw [List.take_zero, List.append_nil]
          exact haccounts.fresh hbuild
      | succ k =>
          have haccounts' := haccounts.build hbuild (hsub e List.mem_cons_self)
          obtain ⟨e', he', hfollows, hfresh⟩ :=
            ih haccounts' (fun e' he' => hsub e' (List.mem_cons_of_mem e he')) hothers hk
          refine ⟨e', he', hfollows, ?_⟩
          rw [List.take_succ_cons, List.append_cons]
          exact hfresh

/-- The interfaces of a list are kept apart from each other, each with the entry of its place. -/
def KeptApart (entries : List Entry) (built : List Interface) : Prop :=
  ∀ (j k : Nat) (e e' : Entry) (i i' : Interface), j ≠ k →
    entries[j]? = some e → entries[k]? = some e' →
    built[j]? = some i → built[k]? = some i' → Apart e e' i i'

/-- The interfaces of the first entries of a list are kept apart from each other. -/
theorem kept_apart_of_build_all {n : Nat} (ha : allocator s entries = .ok a)
    (h : buildAll s newKeys 0 a (entries.take n) = .ok built) : KeptApart entries built := by
  have hspec : ∀ (k : Nat) (e : Entry) (i : Interface), entries[k]? = some e → built[k]? = some i →
      Follows e i ∧ Fresh entries (built.take k) e i := by
    intro k e i he hi
    obtain ⟨e', he', hfollows, hfresh⟩ :=
      build_all_fresh (accounts_of_allocator ha) (fun _ => List.mem_of_mem_take) h hi
    have hsame : e' = e := by
      have hlt := (List.getElem?_eq_some_iff.mp he').1
      rw [List.length_take] at hlt
      rw [List.getElem?_take_of_lt (by omega), he] at he'
      exact (Option.some.inj he').symm
    subst hsame
    exact ⟨hfollows, hfresh⟩
  have hordered : ∀ (j k : Nat) (e e' : Entry) (i i' : Interface), j < k →
      entries[j]? = some e → entries[k]? = some e' →
      built[j]? = some i → built[k]? = some i' → Apart e e' i i' := by
    intro j k e e' i i' hlt he he' hi hi'
    obtain ⟨hfollows, hfresh⟩ := hspec j e i he hi
    obtain ⟨hfollows', hfresh'⟩ := hspec k e' i' he' hi'
    have hbefore : i ∈ built.take k := by
      refine List.mem_of_getElem? (i := j) ?_
      rw [List.getElem?_take_of_lt hlt, hi]
    exact apart_of_fresh (List.mem_of_getElem? he') hbefore hfollows hfresh hfollows' hfresh'
  intro j k e e' i i' hne he he' hi hi'
  rcases Nat.lt_or_gt_of_ne hne with hlt | hgt
  · exact hordered j k e e' i i' hlt he he' hi hi'
  · exact (hordered k j e' e i' i hgt he' he hi' hi).symm

end Entry

namespace Keeper

variable {σ : Type}

/-- Wherever a run stops, the interfaces it has built so far are kept apart, and so are those that
it has saved and announced, which are the first of them. -/
theorem bootstrap_keeps_apart (r : Request) (entries : List Entry) (s : Services σ) (w : World σ) :
    (∀ n a built, Entry.allocator s.settings.advanced entries = .ok a →
      Entry.buildAll s.settings.advanced s.newKeys 0 a (entries.take n) = .ok built →
      Entry.KeptApart entries built) ∧
    ∃ saved : List Interface,
      (bootstrap r entries s w).2.store =
        saved.foldl (fun store i => store.putInterfaceRow (.ofInterface i)) w.store ∧
      (bootstrap r entries s w).2.announcements = w.announcements ++ saved.map .created ∧
      saved.length ≤ entries.length ∧
      (saved = [] ∨ ∃ a, Entry.allocator s.settings.advanced entries = .ok a ∧
        Entry.buildAll s.settings.advanced s.newKeys 0 a (entries.take saved.length) =
          .ok saved) ∧
      Entry.KeptApart entries saved := by
  refine ⟨fun n a built => Entry.kept_apart_of_build_all, ?_⟩
  obtain ⟨saved, hran⟩ := exists_ran r entries s w
  obtain ⟨start, finish, hstart, hchain, hfinish⟩ := hran.provisioned
  refine ⟨saved, ?_, ?_, hran.length_le, hran.built, ?_⟩
  · rw [hfinish.store, hchain.store_eq, hstart.store]
  · rw [hfinish.announcements, hchain.announcements_eq, hstart.announcements]
  · rcases hran.built with rfl | ⟨a, ha, hbuilt⟩
    · intro j k e e' i i' hne he he' hi hi'
      cases hi
    · exact Entry.kept_apart_of_build_all ha hbuilt

/-- Two entries, of which the later one asks for the usual port and for a block around the usual
one. -/
def entriesAround : List Entry :=
  [entryNamed "wg0", { entryNamed "wg1" with listenPort := 51820, addresses := ["10.11.0.1/16"] }]

/-- The first interface passes over what the entry behind it asks for. -/
theorem bootstrap_keeps_apart_around :
    ∃ a built, Entry.allocator .usual entriesAround = .ok a ∧
      Entry.buildAll .usual listingOnce.newKeys 0 a (entriesAround.take 2) = .ok built ∧
      built.map Interface.listenPort = [51821, 51820] ∧
      built.map (fun i => Network.join i.addresses) =
        ["10.12.0.1/24,fdfd:d3ad:c0de:1234::1/64", "10.11.0.1/16"] ∧
      Entry.KeptApart entriesAround built := by
  have hrun : ((Entry.allocator .usual entriesAround >>= fun a =>
      Entry.buildAll .usual listingOnce.newKeys 0 a (entriesAround.take 2)).toOption.map
        fun built => (built.map Interface.listenPort,
          built.map fun i => Network.join i.addresses)) =
      some ([51821, 51820],
        ["10.12.0.1/24,fdfd:d3ad:c0de:1234::1/64", "10.11.0.1/16"]) := by
    decide +kernel
  obtain ⟨built, hbuilt, hvalues⟩ := Option.map_eq_some_iff.mp hrun
  obtain ⟨hports, haddresses⟩ := Prod.mk.inj hvalues
  obtain ⟨a, ha, hall⟩ := except_bind_eq_ok_iff.mp (except_eq_ok hbuilt)
  exact ⟨a, built, ha, hall, hports, haddresses,
    (bootstrap_keeps_apart .system entriesAround listingOnce ⟨.empty, (), [], [], []⟩).1 2 a built
      ha hall⟩

end Keeper

end TunnelKeeper
