import TunnelKeeper.Proofs.Keeper.Bootstrap
import TunnelKeeper.Proofs.Keeper.PeerLink

/-!
# Cancellation

An operation looks at the token before each of its calls, so none of them is started once the token
is cancelled, and the operation goes as under a token that lasts unless a call is still due then:
in that case it says that it was cancelled (`StopsInTime`). This is kept by sequences of acts
(`StopsInTime.bind`) and holds of a call behind a checkpoint (`StopsInTime.guarded`), which is what
operations consist of. `operations_stop_in_time` says so of all of them. Only a code is drawn without
a look at the token (`qr_code_drawn_after_cancellation`).
-/

namespace TunnelKeeper

/-- The same caller with a token that is never cancelled. -/
def Request.lasting (r : Request) : Request := ⟨r.caller, .lasting⟩

namespace Act

variable {σ α β γ : Type} {s : Services σ}

/-! ## Calls of an act -/

/-- Some calls were followed by others, each of which has a property, given the calls before it. -/
structure Followed (P : Call → List Call → Prop) (before after : List Call) : Prop where
  grows : before <:+ after
  each : ∀ c made, c :: made <:+ after → before.length ≤ made.length → P c made

section

variable {P : Call → List Call → Prop} {before mid after : List Call}

theorem Followed.refl (calls : List Call) : Followed P calls calls where
  grows := List.suffix_rfl
  each c made hmade hlength := by
    have hshorter := hmade.length_le
    rw [List.length_cons] at hshorter
    omega

theorem Followed.one {c : Call} (h : P c before) : Followed P before (c :: before) where
  grows := List.suffix_cons c before
  each c' made hmade hlength := by
    have heq : c' :: made = c :: before := hmade.eq_of_length_le (Nat.succ_le_succ hlength)
    obtain ⟨rfl, rfl⟩ := List.cons.inj heq
    exact h

theorem Followed.trans (h : Followed P before mid) (h' : Followed P mid after) :
    Followed P before after where
  grows := h.grows.trans h'.grows
  each c made hmade hlength := by
    by_cases hlater : mid.length ≤ made.length
    · exact h'.each c made hmade hlater
    · have hearlier : (c :: made).length ≤ mid.length := Nat.lt_of_not_le hlater
      exact h.each c made (List.suffix_of_suffix_length_le hmade h'.grows hearlier) hlength

end

/-- All calls of an act have a property, given the calls that were made before them. -/
def Makes (P : Call → List Call → Prop) (s : Services σ) (x : Act σ α) : Prop :=
  ∀ w, Followed P w.calls (x s w).2.calls

section

variable {P : Call → List Call → Prop} {x : Act σ α}

/-- An act that makes no calls. -/
theorem Makes.none (h : ∀ w, (x s w).2.calls = w.calls) : Makes P s x := by
  intro w
  rw [h w]
  exact .refl w.calls

/-- The calls of a sequence are those of its first act and those behind it. -/
theorem Makes.bind {f : α → Act σ β} (hx : Makes P s x) (hf : ∀ a, Makes P s (f a)) :
    Makes P s (x >>= f) := by
  intro w
  have hcalls := hx w
  rcases hfirst : x s w with ⟨e | a, w'⟩
  · rw [hfirst] at hcalls
    rw [bind_error hfirst]
    exact hcalls
  · rw [hfirst] at hcalls
    rw [bind_ok hfirst]
    exact hcalls.trans (hf a w')

end

/-! ## Acts that stop in time -/

/-- An act looks at the token of its request often enough: before each call of its own, so that none
is started once the token is cancelled, and at no other place. -/
structure StopsInTime (own : Call → Prop) (s : Services σ) (x : Request → Act σ α) : Prop where
  /-- When a call of its own is started, the token is not cancelled. -/
  started : ∀ r, Makes (fun c made => own c → r.token.isCancelled made = false) s (x r)
  /-- It goes as under a token that lasts, or it says that it was cancelled. Then it was, and
  another call was due. -/
  stopped : ∀ r w, x r s w = x r.lasting s w ∨
    ∃ w' c, x r s w = (.error .cancelled, w') ∧ isCancelled r w' = true ∧
      c :: w'.calls <:+ (x r.lasting s w).2.calls

variable {own : Call → Prop}

/-- An act that does not know its request, and makes no call of its own. -/
theorem StopsInTime.unaware {y : Act σ α} (h : Makes (fun c _ => ¬ own c) s y) :
    StopsInTime own s fun _ => y where
  started _ w :=
    { grows := (h w).grows
      each := fun c made hmade hlength hown => absurd hown ((h w).each c made hmade hlength) }
  stopped _ _ := .inl rfl

/-- An act that makes no calls at all. -/
theorem StopsInTime.silent {y : Act σ α} (h : ∀ w, (y s w).2.calls = w.calls) :
    StopsInTime own s fun _ => y := .unaware (.none h)

/-- What stops in time does so one after the other. -/
theorem StopsInTime.bind {x : Request → Act σ α} {f : Request → α → Act σ β}
    (hx : StopsInTime own s x) (hf : ∀ a, StopsInTime own s fun r => f r a) :
    StopsInTime own s fun r => x r >>= f r where
  started r := (hx.started r).bind fun a => (hf a).started r
  stopped r w := by
    rcases hx.stopped r w with hsame | ⟨w', c, hcut, hcancelled, hdue⟩
    · rcases hfirst : x r s w with ⟨e | a, w'⟩
      · rw [bind_error hfirst, bind_error (hsame.symm.trans hfirst)]
        exact .inl rfl
      · rw [bind_ok hfirst, bind_ok (hsame.symm.trans hfirst)]
        exact (hf a).stopped r w'
    · refine .inr ⟨w', c, bind_error hcut, hcancelled, hdue.trans ?_⟩
      -- Under a token that lasts, the calls that were due are made, and others may follow.
      rcases hwhole : x r.lasting s w with ⟨e | a, last⟩
      · simp only [bind_error hwhole, List.suffix_rfl]
      · rw [bind_ok hwhole]
        exact ((hf a).started r.lasting last).grows

/-! ## Calls behind checkpoints -/

/-- An act that makes one call, and makes it in one way as long as the token is not cancelled. -/
structure OneCall (c : Call) (s : Services σ) (y : Request → Act σ α) : Prop where
  calls : ∀ r w, (y r s w).2.calls = c :: w.calls
  same : ∀ r w, isCancelled r w = false → y r s w = y r.lasting s w

variable {c : Call}

theorem one_call {run : Request → Services σ → World σ → Except Error α × World σ}
    (hcalls : ∀ r w, (run r s w).2.calls = w.calls)
    (hsame : ∀ r w, isCancelled r w = false → run r s w = run r.lasting s w) :
    OneCall c s fun r => (call c (run r) : Act σ α) where
  calls r w := by
    unfold call
    cases s.fault? w.calls.length c with
    | some e => rfl
    | none => exact congrArg (c :: ·) (hcalls r w)
  same r w hlasts := by
    unfold call
    cases s.fault? w.calls.length c with
    | some e => rfl
    | none => simp only [hsame r w hlasts]

theorem one_query (c : Call) (read : Store → Bool → Except Error α) :
    OneCall c s fun r => (query c r read : Act σ α) :=
  one_call (fun _ _ => rfl) fun r w hlasts => by rw [hlasts, is_cancelled_of_lasting rfl]

theorem one_change (c : Call) (write : Store → Bool → Except Error Unit × Store) :
    OneCall c s fun r => (change c r write : Act σ Unit) :=
  one_call (fun _ _ => rfl) fun r w hlasts => by rw [hlasts, is_cancelled_of_lasting rfl]

section

variable {y : Request → Act σ α} (h : OneCall c s y)
include h

theorem OneCall.within (doing : String) : OneCall c s fun r => within doing (y r) where
  calls r w := h.calls r w
  same r w hlasts := by
    unfold Act.within
    rw [h.same r w hlasts]

theorem OneCall.attempt : OneCall c s fun r => attempt (y r) where
  calls r w := h.calls r w
  same r w hlasts := by
    unfold Act.attempt
    rw [h.same r w hlasts]

theorem OneCall.makes {P : Call → List Call → Prop} (hc : ∀ made, P c made) (r : Request) :
    Makes P s (y r) := by
  intro w
  rw [h.calls]
  exact .one (hc w.calls)

/-- A call behind a checkpoint is not started once the token is cancelled. -/
theorem OneCall.guarded : StopsInTime own s fun r => checkpoint r >>= fun _ => y r where
  started r w := by
    cases hcancelled : isCancelled r w with
    | true =>
        rw [bind_error (checkpoint_error hcancelled)]
        exact .refl w.calls
    | false =>
        rw [bind_ok (checkpoint_ok hcancelled), h.calls]
        exact .one fun _ => hcancelled
  stopped r w := by
    have hlasting : isCancelled r.lasting w = false := is_cancelled_of_lasting rfl w
    cases hcancelled : isCancelled r w with
    | true =>
        refine .inr ⟨w, c, bind_error (checkpoint_error hcancelled), hcancelled, ?_⟩
        simp only [bind_ok (checkpoint_ok hlasting), h.calls, List.suffix_rfl]
    | false =>
        rw [bind_ok (checkpoint_ok hcancelled), h.same r w hcancelled,
          bind_ok (checkpoint_ok hlasting)]
        exact .inl rfl

/-- What follows a call behind a checkpoint. -/
theorem OneCall.guarded_bind {f : Request → α → Act σ β}
    (hf : ∀ a, StopsInTime own s fun r => f r a) :
    StopsInTime own s fun r => checkpoint r >>= fun _ => y r >>= f r := by
  have hassoc : (fun r => checkpoint r >>= fun _ => y r >>= f r) =
      fun r => (checkpoint r >>= fun _ => y r) >>= f r := by
    funext r s w
    cases hcancelled : isCancelled r w with
    | true =>
        rw [bind_error (checkpoint_error hcancelled),
          bind_error (bind_error (checkpoint_error hcancelled))]
    | false =>
        rw [bind_ok (checkpoint_ok hcancelled)]
        rcases hfirst : y r s w with ⟨e | a, w'⟩
        · rw [bind_error hfirst,
            bind_error ((bind_ok (checkpoint_ok hcancelled)).trans hfirst)]
        · rw [bind_ok hfirst, bind_ok ((bind_ok (checkpoint_ok hcancelled)).trans hfirst)]
  rw [hassoc]
  exact h.guarded.bind hf

end

theorem stops_pure (a : α) : StopsInTime own s fun _ => (pure a : Act σ α) :=
  .silent fun _ => rfl

/-- What follows a result that depends on the caller at most. -/
theorem stops_lift_bind (result : Caller → Except Error α) {f : Request → α → Act σ β}
    (hf : ∀ a, StopsInTime own s fun r => f r a) :
    StopsInTime own s fun r => lift (result r.caller) >>= f r := by
  have hlift : StopsInTime own s fun r => (lift (result r.caller) : Act σ α) := {
    started := fun r => .none fun _ => rfl
    stopped := fun _ _ => .inl rfl }
  exact hlift.bind hf

end Act

namespace Keeper

open Act Text

variable {σ : Type} {s : Services σ} {own : Call → Prop}

/-! ## Configurations -/

theorem stops_load_peer (id : PeerId) : StopsInTime own s fun r => loadPeer r id :=
  ((one_query _ _).within _).guarded_bind fun p =>
    stops_lift_bind (·.requireOwner p.owner) fun _ => stops_pure p

theorem stops_load_interface (id : InterfaceId) : StopsInTime own s fun r => loadInterface r id :=
  ((one_query _ _).within _).guarded

theorem stops_look_up_name (p : Peer) : StopsInTime own s fun r => lookUpName r p :=
  (one_query _ _).attempt.guarded_bind fun _ => stops_pure _

theorem one_render_interface (i : Interface) (peers : List Peer) :
    OneCall .renderInterface s fun _ => (renderInterface i peers : Act σ String) :=
  one_call (fun _ _ => rfl) fun _ _ _ => rfl

theorem one_render_peer (style : ConfigStyle) (p : Peer) :
    OneCall .renderPeer s fun _ => (renderPeer style p : Act σ String) :=
  one_call (fun _ _ => rfl) fun _ _ _ => rfl

theorem one_write_file (path : String) (content : List UInt8) :
    OneCall .writeFile s fun _ => (writeFile path content : Act σ Unit) :=
  one_call (fun _ _ => rfl) fun _ _ _ => rfl

theorem one_delete_file (path : String) :
    OneCall .deleteFile s fun _ => (deleteFile path : Act σ Unit) :=
  one_call (fun _ _ => rfl) fun _ _ _ => rfl

theorem stops_build_link (p : Peer) (i : Interface) :
    StopsInTime own s fun r => buildLink r p i :=
  ((one_render_peer _ _).within _).guarded_bind fun _ =>
    StopsInTime.bind (.silent fun _ => rfl) fun _ => .silent fun _ => rfl

theorem stops_interface_config (id : InterfaceId) :
    StopsInTime own s fun r => interfaceConfig r id := by
  refine stops_lift_bind (·.requireAdministrator) fun _ => ?_
  exact ((one_query _ _).within _).guarded_bind fun ⟨i, peers⟩ => (one_render_interface i peers).guarded

theorem stops_peer_config (id : PeerId) (style : ConfigStyle) :
    StopsInTime own s fun r => peerConfig r id style :=
  (stops_load_peer id).bind fun _ => (one_render_peer _ _).guarded_bind fun _ =>
    (stops_look_up_name _).bind fun _ => stops_pure _

theorem stops_qr_payload (id : PeerId) (style : ConfigStyle) :
    StopsInTime own s fun r => qrPayload r id style := by
  refine (stops_load_peer id).bind fun p => (stops_load_interface _).bind fun i => ?_
  cases i.isObfuscated with
  | true => exact stops_build_link p i
  | false => exact ((one_render_peer _ _).within _).guarded_bind fun _ => stops_pure _

theorem stops_vpn_link (id : PeerId) : StopsInTime own s fun r => vpnLink r id :=
  (stops_load_peer id).bind fun _ => (stops_load_interface _).bind fun _ => stops_build_link _ _

theorem stops_persist (id : InterfaceId) : StopsInTime own s fun r => persist r id := by
  refine ((one_query _ _).within _).guarded_bind fun ⟨i, peers⟩ => ?_
  exact ((one_render_interface i peers).within _).guarded_bind fun _ =>
    ((one_write_file _ _).within _).guarded

theorem stops_unpersist (fileName : String) : StopsInTime own s fun r => unpersist r fileName :=
  ((one_delete_file fileName).within _).guarded

/-- The code is drawn behind the payload, without a look at the token. -/
theorem stops_qr_code (id : PeerId) (style : ConfigStyle) :
    StopsInTime (· ≠ .encodeQr) s fun r => qrCode r id style := by
  refine (stops_qr_payload id style).bind fun payload => .unaware ?_
  have hdrawn : OneCall .encodeQr s fun _ => (encodeQr payload : Act σ (List UInt8)) :=
    one_call (fun _ _ => rfl) fun _ _ _ => rfl
  exact (hdrawn.within _).makes (fun _ hown => hown rfl) .system

/-! ## Bootstrapping -/

/-- The calls that bootstrapping makes itself. Others are made by listeners. -/
def IsBootstrapCall : Call → Prop
  | .interfaces => True
  | .saveInterface _ => True
  | _ => False

/-- A call that listeners make. -/
abbrev Foreign (c : Call) (_ : List Call) : Prop := ¬ IsBootstrapCall c

theorem makes_persist (id : InterfaceId) : Makes Foreign s (persist .system id) := by
  refine Makes.bind (.none fun _ => rfl) fun _ => ?_
  refine (((one_query _ _).within _).makes (fun _ => not_false) .system).bind fun ⟨i, peers⟩ => ?_
  refine Makes.bind (.none fun _ => rfl) fun _ => ?_
  refine (((one_render_interface i peers).within _).makes (fun _ => not_false) .system).bind
    fun config => ?_
  refine Makes.bind (.none fun _ => rfl) fun _ => ?_
  exact ((one_write_file _ _).within _).makes (fun _ => not_false) .system

theorem makes_interface_saved (i : Interface) : Makes Foreign s (interfaceSaved i) := by
  unfold interfaceSaved refreshFile
  split
  · refine Makes.bind (x := attempt (persist .system i.identifier)) (makes_persist _) fun result => ?_
    cases result with
    | ok _ => exact .none fun _ => rfl
    | error e => exact .none fun _ => rfl
  · exact .none fun _ => rfl

/-- Listeners are told of an interface that was created. They make calls of their own on behalf of
the system, if there are any. -/
theorem makes_publish_created (i : Interface) :
    Makes (fun c made => s.bus.subscribers .created ≠ [] ∧ Foreign c made) s
      (publish (.created i)) := by
  have hdeliver : ∀ listeners, Makes Foreign s (deliverAll (.created i) listeners) := by
    intro listeners
    induction listeners with
    | nil => exact .none fun _ => rfl
    | cons l rest ih =>
        cases l with
        | fileKeeper => exact (makes_interface_saved i).bind fun _ => ih
  intro w
  unfold publish
  rw [show (Event.created i).topic = .created from rfl]
  by_cases hnobody : s.bus.subscribers .created = []
  · rw [hnobody]
    exact .refl w.calls
  · have hcalls := hdeliver (s.bus.subscribers .created)
      { w with announcements := w.announcements ++ [Event.created i] }
    exact ⟨hcalls.grows, fun c made hmade hlength =>
      ⟨hnobody, hcalls.each c made hmade hlength⟩⟩

/-- The calls of a run are its own, if nobody listens, and otherwise those of certain kinds. -/
abbrev OwnCall (s : Services σ) (c : Call) : Prop :=
  s.bus.subscribers .created ≠ [] → IsBootstrapCall c

theorem stops_provision (i : Interface) :
    StopsInTime (OwnCall s) s fun r => provision r i :=
  ((one_change _ _).within _).guarded_bind fun _ => .unaware fun w =>
    have hcalls := makes_publish_created i w
    ⟨hcalls.grows, fun c made hmade hlength hown =>
      (hcalls.each c made hmade hlength).2 (hown (hcalls.each c made hmade hlength).1)⟩

theorem stops_provision_all (c : AdvancedSettings) (newKeys : Nat → KeyPair) (entries : List Entry)
    (place : Nat) (a : Allocator) :
    StopsInTime (OwnCall s) s fun r => provisionAll r c newKeys place a entries := by
  induction entries generalizing place a with
  | nil => exact stops_pure ()
  | cons e rest ih =>
      refine stops_lift_bind (fun _ => e.build c (newKeys place) a) fun ⟨i, later⟩ => ?_
      exact (stops_provision i).bind fun _ => ih (place + 1) later

theorem stops_provision_entries (entries : List Entry) :
    StopsInTime (OwnCall s) s fun r => provisionEntries r entries := by
  have hentries : StopsInTime (OwnCall s) s fun r =>
      lift ((Entry.check entries).mapError .validation) >>= fun warnings =>
        noteWarnings warnings >>= fun _ =>
          lift (Entry.allocator s.settings.advanced entries) >>= fun a =>
            provisionAll r s.settings.advanced s.newKeys 0 a entries := by
    refine stops_lift_bind (fun _ => (Entry.check entries).mapError .validation) fun warnings => ?_
    refine StopsInTime.bind (.silent fun w => ?_) fun _ => ?_
    · obtain ⟨notices, hnoted⟩ := note_warnings_notices warnings s w
      rw [hnoted]
    · exact stops_lift_bind (fun _ => Entry.allocator s.settings.advanced entries) fun a =>
        stops_provision_all s.settings.advanced s.newKeys entries 0 a
  -- The settings and the new keys are those of the services at hand.
  exact ⟨fun r w => hentries.started r w, fun r w => hentries.stopped r w⟩

theorem stops_bootstrap (entries : List Entry) :
    StopsInTime (OwnCall s) s fun r => bootstrap r entries := by
  refine stops_lift_bind (·.requireAdministrator) fun _ => ?_
  by_cases hentries : entries = []
  · simp only [if_pos hentries]
    exact stops_pure false
  · simp only [if_neg hentries]
    refine ((one_query _ _).within _).guarded_bind fun existing => ?_
    by_cases hexisting : existing = []
    · simp only [if_pos hexisting]
      exact (stops_provision_entries entries).bind fun _ => stops_pure true
    · simp only [if_neg hexisting]
      exact stops_pure false

/-! ## All operations -/

/-- No operation starts a call once its token is cancelled, and it says that it was cancelled if one
was due then. A code is the exception: it is drawn without a look at the token. While interfaces are
provisioned, listeners make calls of their own on behalf of the system, for which the token of the
run does not count. -/
theorem operations_stop_in_time (s : Services σ) :
    (∀ id, StopsInTime (fun _ => True) s fun r => interfaceConfig r id) ∧
      (∀ id style, StopsInTime (fun _ => True) s fun r => peerConfig r id style) ∧
      (∀ id style, StopsInTime (fun _ => True) s fun r => qrPayload r id style) ∧
      (∀ id style, StopsInTime (· ≠ .encodeQr) s fun r => qrCode r id style) ∧
      (∀ id, StopsInTime (fun _ => True) s fun r => vpnLink r id) ∧
      (∀ id, StopsInTime (fun _ => True) s fun r => persist r id) ∧
      (∀ fileName, StopsInTime (fun _ => True) s fun r => unpersist r fileName) ∧
      ∀ entries, StopsInTime (OwnCall s) s fun r => bootstrap r entries :=
  ⟨stops_interface_config, stops_peer_config, stops_qr_payload, stops_qr_code, stops_vpn_link,
    stops_persist, stops_unpersist, stops_bootstrap⟩

/-- The code of a peer whose interface is not obfuscated. The token is looked at for the last time
before the configuration is rendered. -/
theorem qr_code_of_plain {r : Request} {w : World σ} {id : PeerId} {p : Peer} {i : Interface}
    (h : Undisturbed r s w) (hdraws : ∀ made, s.fault? made .encodeQr = none)
    (hpeer : w.store.peerFor r.caller id = .ok p)
    (hinterface : w.store.interface false p.interfaceId = .ok i) (hplain : i.isObfuscated = false)
    (style : ConfigStyle) :
    qrCode r id style s w =
      (.ok (s.encodeQr (ConfigText.stripped (s.renderPeer style p))),
        { w with calls := .encodeQr :: .renderPeer :: .interface :: .peer :: w.calls }) := by
  have hpayload : qrPayload r id style s w =
      (.ok (ConfigText.stripped (s.renderPeer style p)),
        { w with calls := .renderPeer :: .interface :: .peer :: w.calls }) := by
    rw [qrPayload, bind_ok ((load_peer_eq h.peer h.at_start id).trans (by rw [hpeer])),
      bind_ok ((load_interface_eq h.interface h.after_peer _).trans (by rw [hinterface]; rfl)),
      if_neg (by rw [hplain]; exact Bool.false_ne_true), bind_ok (checkpoint_ok h.after_interface),
      bind_ok (within_ok (render_peer_eq h.renderer style p))]
    rfl
  rw [qrCode, bind_ok hpayload]
  exact within_ok (call_of_no_fault hdraws)

/-- A world with a peer of an interface that is not obfuscated. -/
def plainWorld : World Unit :=
  ⟨.after [.saveInterface false (.new "wg0"), .savePeer false laptop], (), [], [], []⟩

/-- The token is cancelled when the configuration was rendered, and the code is drawn nevertheless:
the operation does not say that it was cancelled. -/
theorem qr_code_drawn_after_cancellation :
    let alice : Request := ⟨⟨some ⟨"alice", false⟩⟩, .cancelledAfter 3⟩
    let s := { rendering "[Interface]\n" with encodeQr := fun payload => encodeUtf8 payload.toList }
    ∃ made final, qrCode alice "laptop" .raw s plainWorld =
        (.ok (encodeUtf8 "[Interface]\n".toList), final) ∧
      final.calls = .encodeQr :: made ∧ alice.token.isCancelled made = true := by
  intro alice s
  have hpeer : plainWorld.store.peer false "laptop" = .ok laptop := by
    rw [plainWorld, Store.peer_eq (Store.consistent_after _), Store.contents_after]
    rfl
  have hinterface : plainWorld.store.interface false "wg0" = .ok (Interface.new "wg0").settled := by
    rw [plainWorld, Store.interface_eq (Store.consistent_after _), Store.contents_after]
    rfl
  have howned : plainWorld.store.peerFor alice.caller "laptop" = .ok laptop := by
    rw [Store.peerFor, hpeer]
    rfl
  have hundisturbed : Undisturbed alice s plainWorld :=
    ⟨fun _ => rfl, fun _ => rfl, fun _ => rfl, rfl⟩
  have hstripped : ConfigText.stripped (s.renderPeer .raw laptop) = "[Interface]\n" := by
    decide +kernel
  rw [qr_code_of_plain hundisturbed (fun _ => rfl) howned hinterface rfl .raw, hstripped]
  exact ⟨[.renderPeer, .interface, .peer], _, rfl, rfl, rfl⟩

end Keeper

end TunnelKeeper
