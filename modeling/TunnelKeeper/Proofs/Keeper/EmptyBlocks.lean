import TunnelKeeper.Link
import TunnelKeeper.Proofs.Keeper.Bootstrap
import TunnelKeeper.Proofs.Provisioning.EmptyBlocks
import TunnelKeeper.Proofs.Store.EmptyBlocks

/-!
# Empty blocks count as none

What an empty block is worth, from the check of the settings to the link of a peer: the same as no
block, if no special packet is given in it (`empty_blocks_count_as_none`). A blank special packet
counts as absent everywhere but in the check, which refuses it (`blank_packet_refused`).
-/

namespace TunnelKeeper

/-! ## Acts that do not look at the settings -/

namespace Act

variable {σ α β : Type} {x : Act σ α}

/-- An act that does not look at the settings. -/
def SettingsFree (x : Act σ α) : Prop := ∀ s c w, x { s with settings := c } w = x s w

namespace SettingsFree

/-- Behind an act that does not look at the settings, the same is done under other settings if it
is for every result of that act. -/
theorem bind_congr (hx : x.SettingsFree) {f g : α → Act σ β} {s : Services σ} {c : Settings}
    (hnext : ∀ a w, f a { s with settings := c } w = g a s w) (w : World σ) :
    (x >>= f) { s with settings := c } w = (x >>= g) s w := by
  rcases hfirst : x s w with ⟨e | a, w'⟩
  · rw [bind_error hfirst, bind_error ((hx s c w).trans hfirst)]
  · rw [bind_ok hfirst, bind_ok ((hx s c w).trans hfirst), hnext]

theorem bind (hx : x.SettingsFree) {f : α → Act σ β} (hf : ∀ a, (f a).SettingsFree) :
    (x >>= f).SettingsFree := fun s c w => hx.bind_congr (fun a w => hf a s c w) w

theorem within (hx : x.SettingsFree) (doing : String) : (within doing x).SettingsFree := by
  intro s c w
  rw [within_eq rfl, within_eq rfl, hx]

theorem attempt (hx : x.SettingsFree) : (attempt x).SettingsFree := by
  intro s c w
  simp only [Act.attempt, hx s c w]

end SettingsFree

theorem settings_free_call {c : Call} {run : Services σ → World σ → Except Error α × World σ}
    (hrun : SettingsFree run) : (call c run).SettingsFree := by
  intro s d w
  unfold call
  rw [hrun s d w]

theorem settings_free_checkpoint (r : Request) : (checkpoint r : Act σ Unit).SettingsFree :=
  fun _ _ _ => rfl

end Act

namespace Keeper

open Act

variable {σ : Type} {r : Request} {s : Services σ} {w : World σ} {es es' : List Entry}

theorem settings_free_persist (r : Request) (id : InterfaceId) :
    (persist r id : Act σ Unit).SettingsFree := by
  refine (settings_free_checkpoint r).bind fun _ => ?_
  refine ((settings_free_call fun _ _ _ => rfl).within _).bind fun _ => ?_
  refine (settings_free_checkpoint r).bind fun _ => ?_
  refine ((settings_free_call fun _ _ _ => rfl).within _).bind fun _ => ?_
  exact (settings_free_checkpoint r).bind fun _ => (settings_free_call fun _ _ _ => rfl).within _

theorem settings_free_interface_saved (i : Interface) :
    (interfaceSaved i : Act σ Unit).SettingsFree := by
  unfold interfaceSaved
  split
  · refine (settings_free_persist _ _).attempt.bind fun result => ?_
    cases result <;> exact fun _ _ _ => rfl
  · exact fun _ _ _ => rfl

/-- Those who are told of a new interface do not look at the settings. -/
theorem settings_free_publish_created (i : Interface) :
    (publish (.created i) : Act σ Unit).SettingsFree := by
  have hall : ∀ listeners, (deliverAll (.created i) listeners : Act σ Unit).SettingsFree := by
    intro listeners
    induction listeners with
    | nil => exact fun _ _ _ => rfl
    | cons l rest ih =>
        cases l with
        | fileKeeper => exact (settings_free_interface_saved i).bind fun _ => ih
  exact fun s c w => hall _ s c _

theorem settings_free_provision (r : Request) (i : Interface) :
    (provision r i : Act σ Unit).SettingsFree := by
  refine (settings_free_checkpoint r).bind fun _ => ?_
  refine ((settings_free_call fun _ _ _ => rfl).within _).bind fun _ => ?_
  exact settings_free_publish_created i

theorem settings_free_provision_all (r : Request) (c : AdvancedSettings) (newKeys : Nat → KeyPair)
    (place : Nat) (a : Allocator) (es : List Entry) :
    (provisionAll r c newKeys place a es : Act σ Unit).SettingsFree := by
  induction es generalizing place a with
  | nil => exact fun _ _ _ => rfl
  | cons e rest ih =>
      have hbuild : (lift (e.build c (newKeys place) a) :
          Act σ (Interface × Allocator)).SettingsFree := fun _ _ _ => rfl
      exact hbuild.bind fun ⟨i, later⟩ => (settings_free_provision r i).bind fun _ => ih _ _

theorem settings_free_note_warnings (warnings : List Warning) :
    (noteWarnings warnings : Act σ Unit).SettingsFree := by
  induction warnings with
  | nil => exact fun _ _ _ => rfl
  | cons warning rest ih =>
      have hnotice : (notice (.doubtful warning) : Act σ Unit).SettingsFree := fun _ _ _ => rfl
      exact hnotice.bind fun _ => ih

/-! ## Bootstrapping -/

/-- The same interfaces are saved and announced if empty blocks are left out. -/
theorem provision_all_leave_out
    (h : List.Forall₂ (Entry.LeavesOut fun o => o.isEmpty = true) es es') (c : AdvancedSettings)
    (newKeys : Nat → KeyPair) (place : Nat) (a : Allocator) :
    (provisionAll r c newKeys place a es' : Act σ Unit) = provisionAll r c newKeys place a es := by
  induction h generalizing place a with
  | nil => rfl
  | cons hentry _ ih =>
      rw [provisionAll, provisionAll, Entry.build_leave_out hentry]
      refine bind_congr fun built => ?_
      obtain ⟨i, later⟩ := built
      exact bind_congr fun _ => ih _ _

theorem provision_entries_leave_out
    (h : List.Forall₂ (Entry.LeavesOut Obfuscation.Vacuous) es es') {c : Settings}
    (hadvanced : c.advanced = s.settings.advanced) (w : World σ) :
    provisionEntries r es' { s with settings := c } w = provisionEntries r es s w := by
  have hempty := h.imp fun e e' hentry => Entry.LeavesOut.mono (fun o ho => ho.empty) hentry
  unfold provisionEntries
  rw [Entry.check_leave_out h, Entry.allocator_leave_out h]
  simp only [hadvanced]
  -- What is done with the entries is the same by now, and the settings are not looked at again.
  refine SettingsFree.bind_congr (fun _ _ _ => rfl) (fun warnings w => ?_) w
  refine (settings_free_note_warnings warnings).bind_congr (fun _ w => ?_) w
  refine SettingsFree.bind_congr (fun _ _ _ => rfl) (fun a w => ?_) w
  rw [provision_all_leave_out hempty]
  exact settings_free_provision_all r _ _ 0 a es s c w

/-- A run does the same if blocks in which nothing is given are left out of its entries, and also
if they are left out of the settings. -/
theorem bootstrap_leave_out (h : List.Forall₂ (Entry.LeavesOut Obfuscation.Vacuous) es es')
    {c : Settings} (hadvanced : c.advanced = s.settings.advanced) (w : World σ) :
    bootstrap r es' { s with settings := c } w = bootstrap r es s w := by
  have hnil : es' = [] ↔ es = [] := by
    rw [← List.length_eq_zero_iff, ← h.length_eq, List.length_eq_zero_iff]
  unfold bootstrap
  refine SettingsFree.bind_congr (fun _ _ _ => rfl) (fun _ w => ?_) w
  by_cases hes : es = []
  · rw [if_pos hes, if_pos (hnil.mpr hes)]
    rfl
  · rw [if_neg hes, if_neg fun h => hes (hnil.mp h)]
    refine (settings_free_checkpoint r).bind_congr (fun _ w => ?_) w
    refine ((settings_free_call fun _ _ _ => rfl).within _).bind_congr (fun existing w => ?_) w
    split
    · have hentries := provision_entries_leave_out (r := r) h hadvanced w
      rcases hrun : provisionEntries r es s w with ⟨e | _, last⟩
      · rw [bind_error hrun, bind_error (hentries.trans hrun)]
      · rw [bind_ok hrun, bind_ok (hentries.trans hrun)]
        rfl
    · rfl

/-! ## Stores that read alike -/

/-- Interfaces are listed alike. -/
theorem interfaces_reads_alike {store' : Store} (h : w.store.ReadsAlike store') :
    interfaces r s { w with store := store' } =
      ((interfaces r s w).1, { (interfaces r s w).2 with store := store' }) := by
  unfold interfaces query call
  cases s.fault? w.calls.length .interfaces with
  | some e => rfl
  | none =>
      simp only [h.allInterfaces]
      rfl

/-- A run on a store that reads alike does the same, and leaves such a store behind. -/
theorem bootstrap_reads_alike {store' : Store} (h : w.store.ReadsAlike store')
    (es : List Entry) :
    ∃ final', bootstrap r es s { w with store := store' } =
        ((bootstrap r es s w).1, { (bootstrap r es s w).2 with store := final' }) ∧
      (bootstrap r es s w).2.store.ReadsAlike final' := by
  by_cases hstored : w.store.interfaces = []
  · -- There are no rows to differ in.
    have hsame : store' = w.store := by
      obtain ⟨hrows, hpeers⟩ := h
      rw [hstored, List.forall₂_nil_left_iff] at hrows
      rw [show store' = ⟨store'.interfaces, store'.peers⟩ from rfl, hrows, hpeers, ← hstored]
    subst hsame
    exact ⟨_, rfl, .refl _⟩
  · -- The run stops at the latest when it has listed the interfaces.
    have hlists := interfaces_reads_alike (r := r) (s := s) h
    refine ⟨store', ?_⟩
    unfold bootstrap
    cases r.caller.requireAdministrator with
    | error e => exact ⟨rfl, h⟩
    | ok _ =>
        rw [bind_lift_ok rfl, bind_lift_ok rfl]
        by_cases hes : es = []
        · rw [if_pos hes]
          exact ⟨rfl, h⟩
        · rw [if_neg hes]
          cases hcancelled : isCancelled r w with
          | true =>
              have hcancelled' : isCancelled r { w with store := store' } = true := hcancelled
              rw [bind_error (checkpoint_error hcancelled),
                bind_error (checkpoint_error hcancelled')]
              exact ⟨rfl, h⟩
          | false =>
              have hcancelled' : isCancelled r { w with store := store' } = false := hcancelled
              rw [bind_ok (checkpoint_ok hcancelled), bind_ok (checkpoint_ok hcancelled')]
              have halike := (interfaces_alike r s w).1.store
              rcases hlist : interfaces r s w with ⟨e | existing, listed⟩
              · rw [hlist] at hlists halike
                rw [bind_error (within_error hlist), bind_error (within_error hlists)]
                exact ⟨rfl, halike ▸ h⟩
              · have hsome : existing ≠ [] := fun hnone =>
                  hstored ((interfaces_eq_nil_iff (by rw [hlist])).mp hnone)
                rw [hlist] at hlists halike
                rw [bind_ok (within_ok hlist), bind_ok (within_ok hlists), if_neg hsome]
                exact ⟨rfl, halike ▸ h⟩

end Keeper

/-! ## From the settings to the link -/

/-- An empty block makes no link. -/
theorem Link.build_leave_out {i i' : Interface} (h : i.LeavesOut i') (peer : Option Peer)
    (description config : String) (level : Nat) :
    Link.build peer i' description config level = Link.build peer i description config level := by
  obtain ⟨hblock⟩ := h
  unfold Link.build
  simp only [hblock.present_block]

/-- What an empty block is worth: nothing, wherever blocks are looked at. -/
structure EmptyAsNone (σ : Type) : Prop where
  /-- An empty block is accepted without a warning if no special packet is given in it. If one is,
  the block is refused for it. -/
  validate : ∀ (o : Obfuscation) (field : String), o.isEmpty = true →
    (o.Vacuous → o.validate field = .ok []) ∧
      (¬ o.Vacuous → ∃ name ∈ Obfuscation.packetNames,
        o.validate field = .error ⟨field ++ "." ++ name, .packetBlank⟩)
  refuse : ∀ (es : List Entry) (e : Entry) (o : Obfuscation), e ∈ es → e.obfuscation = some o →
    o.isEmpty = true → ¬ o.Vacuous → ∃ objection, Entry.check es = .error objection
  check : ∀ es es' : List Entry, List.Forall₂ (Entry.LeavesOut Obfuscation.Vacuous) es es' →
    Entry.check es' = Entry.check es
  /-- Nothing is said about settings that are refused for an empty block because of their mode. -/
  sanitize : ∀ (c : Settings) (es' : List Entry),
    List.Forall₂ (Entry.LeavesOut Obfuscation.Vacuous) c.provisioning es' →
    (∀ e ∈ c.provisioning, (∃ o, e.obfuscation = some o ∧ o.isEmpty = true) →
      c.sanitize.result ≠ .error (.settings (.obfuscationUnsupported e.id))) →
    Settings.sanitize { c with provisioning := es' } =
      ⟨{ c.sanitize.settings with provisioning := es' }, c.sanitize.warnings, c.sanitize.result⟩
  /-- A run does the same in all respects, also if the blocks are left out of the settings. -/
  bootstrap : ∀ (r : Request) (es es' : List Entry) (s : Services σ) (c : Settings) (w : World σ),
    List.Forall₂ (Entry.LeavesOut Obfuscation.Vacuous) es es' →
    c.advanced = s.settings.advanced →
    Keeper.bootstrap r es' { s with settings := c } w = Keeper.bootstrap r es s w
  /-- A run on a store that reads alike differs in the store alone, which reads alike again. -/
  bootstrapOn : ∀ (r : Request) (es : List Entry) (s : Services σ) (w : World σ) (store' : Store),
    w.store.ReadsAlike store' →
    ∃ final', Keeper.bootstrap r es s { w with store := store' } =
        ((Keeper.bootstrap r es s w).1,
          { (Keeper.bootstrap r es s w).2 with store := final' }) ∧
      (Keeper.bootstrap r es s w).2.store.ReadsAlike final'
  /-- Rows read alike if an empty block is left out of what is written in them. -/
  rows : ∀ (r r' : InterfaceRow) (i i' : Interface), r'.key = r.key →
    Json.decodeText Interface.decoder r.data = .ok i →
    Json.decodeText Interface.decoder r'.data = .ok i' → i.LeavesOut i' → r.ReadsAlike r'
  /-- Stores read alike if they were written with the same interfaces, apart from empty blocks. -/
  stores : ∀ ws ws' : List Store.Write, List.Forall₂ Store.Write.LeavesOut ws ws' →
    (Store.after ws).ReadsAlike (Store.after ws')
  /-- Calls that write keep it so, and the answers are the same. -/
  write : ∀ (store store' : Store) (w w' : Store.Write), store.ReadsAlike store' →
    w.LeavesOut w' →
    (w'.run store').1 = (w.run store).1 ∧ (w.run store).2.ReadsAlike (w'.run store').2
  /-- What is read from such stores is the same. -/
  read : ∀ store store' : Store, store.ReadsAlike store' → ∀ (cancelled : Bool) (id : String),
    store'.interface cancelled id = store.interface cancelled id ∧
      store'.peer cancelled id = store.peer cancelled id ∧
      store'.allInterfaces cancelled = store.allInterfaces cancelled ∧
      store'.interfaceAndPeers store' cancelled id = store.interfaceAndPeers store cancelled id
  /-- The same links are built. -/
  link : ∀ (peer : Option Peer) (i i' : Interface) (description config : String) (level : Nat),
    i.LeavesOut i' →
    Link.build peer i' description config level = Link.build peer i description config level

/-- Empty blocks count as none, whichever of them are left out. -/
theorem empty_blocks_count_as_none (σ : Type) : EmptyAsNone σ where
  validate := fun _ field hempty => Obfuscation.validate_of_empty hempty field
  refuse := fun _ _ _ he ho hempty hgiven => Entry.check_error_of_blank he ho hempty hgiven
  check := fun _ _ h => Entry.check_leave_out h
  sanitize := fun _ _ h hsupported => Settings.sanitize_leave_out h hsupported
  bootstrap := fun _ _ _ _ _ w h hadvanced => Keeper.bootstrap_leave_out h hadvanced w
  bootstrapOn := fun _ es _ _ _ h => Keeper.bootstrap_reads_alike h es
  rows := fun _ _ _ _ hkey hr hr' h => InterfaceRow.reads_alike_of_decode hkey hr hr' h
  stores := fun _ _ h => Store.reads_alike_after h
  write := fun _ _ _ _ h hw => h.run hw
  read := fun _ _ h cancelled id =>
    ⟨h.interface cancelled id, h.peer cancelled id, h.allInterfaces cancelled,
      h.interfaceAndPeers cancelled id⟩
  link := fun peer _ _ description config level h =>
    Link.build_leave_out h peer description config level

/-- An entry is refused for an empty block, and accepted without any block. -/
theorem blank_packet_refused :
    let block := { Obfuscation.empty with secondPacket := some " " }
    block.isEmpty = true ∧
      (Entry.check [{ Keeper.entryNamed "wg0" with obfuscation := some block }]).toOption = none ∧
      (Entry.check [Keeper.entryNamed "wg0"]).toOption = some [] := by
  decide +kernel

end TunnelKeeper
