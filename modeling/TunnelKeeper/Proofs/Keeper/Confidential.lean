import TunnelKeeper.Keeper.Configuration
import TunnelKeeper.Proofs.Keeper.Bootstrap
import TunnelKeeper.Proofs.Store.Refinement

/-!
# What callers cannot learn

A caller who is no administrator gets the same answers from two stores that differ only in what is
none of their business: the peers of others, apart from who owns them, and everything of an
interface that is not shown to the owners of its peers (`answers_confidential`). Two runs of an
operation are compared act by act. They agree (`Act.Agrees`) if from worlds that look the same
(`World.LooksSame`) they come to related results in worlds that look the same again, and acts that
agree can be put one after the other (`Act.Agrees.bind`).
-/

namespace TunnelKeeper

/-! ## What may be seen -/

/-- What the owners of an interface's peers may see of it. -/
def Interface.shown (i : Interface) : InterfaceId × String × Option Obfuscation :=
  (i.identifier, i.displayName, i.obfuscation)

/-- Whether a peer is the caller's own. -/
def Caller.Owns (c : Caller) (p : Peer) : Prop :=
  ∃ user, c.user = some user ∧ user.identifier = p.owner

/-- Whether the caller is no administrator; nobody need be known. -/
def Caller.IsOrdinary (c : Caller) : Prop :=
  ∀ user, c.user = some user → user.isAdministrator = false

/-- Nothing that takes an administrator is done for an ordinary caller. -/
theorem Caller.IsOrdinary.denied {c : Caller} (h : c.IsOrdinary) :
    ∃ e, c.requireAdministrator = .error e := by
  unfold Caller.requireAdministrator
  cases huser : c.user with
  | none => exact ⟨_, rfl⟩
  | some user =>
      refine ⟨.denied (.notAdministrator user.identifier), ?_⟩
      simp only [h user huser, Bool.false_eq_true, if_false]

/-- Two answers that are related values or the same failure. -/
inductive Answers {α : Type} (R : α → α → Prop) : Except Error α → Except Error α → Prop
  | ok {a a' : α} (h : R a a') : Answers R (.ok a) (.ok a')
  | error (e : Error) : Answers R (.error e) (.error e)

theorem answers_refl {α : Type} (x : Except Error α) : Answers Eq x x := by
  cases x with
  | error e => exact .error e
  | ok a => exact .ok rfl

theorem Answers.eq {α : Type} {x x' : Except Error α} (h : Answers Eq x x') : x = x' := by
  cases h with
  | ok h => rw [h]
  | error e => rfl

/-- Two interfaces of which the same may be seen. -/
def ShownSame (i i' : Interface) : Prop := i.shown = i'.shown

/-- Two peers of one owner, which are one peer if the caller owns it. -/
def OwnSame (c : Caller) (p p' : Peer) : Prop := p.owner = p'.owner ∧ (c.Owns p → p = p')

namespace Store

/-- Two stores whose maps differ in nothing that a caller may see. -/
structure Contents.LooksSame (c : Caller) (m m' : Contents) : Prop where
  interfaces : ∀ id, (m.interfaces id).map Interface.shown = (m'.interfaces id).map Interface.shown
  owners : ∀ id, (m.peers id).map Peer.owner = (m'.peers id).map Peer.owner
  own : ∀ id p, c.Owns p → (m.peers id = some p ↔ m'.peers id = some p)

/-- Two stores whose answers differ in nothing that a caller may see. -/
structure LooksSame (c : Caller) (s s' : Store) : Prop where
  interface : ∀ cancelled id,
    Answers ShownSame (s.interface cancelled id) (s'.interface cancelled id)
  peer : ∀ cancelled id, Answers (OwnSame c) (s.peer cancelled id) (s'.peer cancelled id)

/-- Answers come from the maps. -/
theorem looks_same_of_contents {c : Caller} {s s' : Store} (h : s.Consistent) (h' : s'.Consistent)
    (hsame : (contents s).LooksSame c (contents s')) : s.LooksSame c s' where
  interface := by
    intro cancelled id
    cases cancelled with
    | true => exact .error .cancelled
    | false =>
        have hshown := hsame.interfaces id
        rw [interface_eq h, interface_eq h']
        cases hi : (contents s).interfaces id with
        | none =>
            rw [hi, Option.map_none, eq_comm, Option.map_eq_none_iff] at hshown
            rw [hshown]
            exact .error _
        | some i =>
            rw [hi, Option.map_some, eq_comm, Option.map_eq_some_iff] at hshown
            obtain ⟨i', hi', hshown⟩ := hshown
            rw [hi']
            exact .ok hshown.symm
  peer := by
    intro cancelled id
    cases cancelled with
    | true => exact .error .cancelled
    | false =>
        have howner := hsame.owners id
        rw [peer_eq h, peer_eq h']
        cases hp : (contents s).peers id with
        | none =>
            rw [hp, Option.map_none, eq_comm, Option.map_eq_none_iff] at howner
            rw [howner]
            exact .error _
        | some p =>
            rw [hp, Option.map_some, eq_comm, Option.map_eq_some_iff] at howner
            obtain ⟨p', hp', howner⟩ := howner
            rw [hp']
            refine .ok ⟨howner.symm, fun hown => ?_⟩
            have hfound := (hsame.own id p hown).mp hp
            rw [hp'] at hfound
            exact (Option.some.inj hfound).symm

end Store

/-! ## Two runs -/

/-- Two worlds in which the same calls were made and that look the same to a caller. -/
structure World.LooksSame {σ : Type} (c : Caller) (w w' : World σ) : Prop where
  store : w.store.LooksSame c w'.store
  calls : w.calls = w'.calls

namespace Act

variable {σ α β : Type} {c : Caller} {R : α → α → Prop} {S : β → β → Prop}

/-- Two acts that come to related results wherever the same is seen. -/
def Agrees (c : Caller) (R : α → α → Prop) (x x' : Act σ α) : Prop :=
  ∀ s w w', w.LooksSame c w' → Answers R (x s w).1 (x' s w').1 ∧ (x s w).2.LooksSame c (x' s w').2

/-- Acts that agree one after the other agree. -/
theorem Agrees.bind {x x' : Act σ α} {f f' : α → Act σ β} (hx : Agrees c R x x')
    (hf : ∀ a a', R a a' → Agrees c S (f a) (f' a')) : Agrees c S (x >>= f) (x' >>= f') := by
  intro s w w' hsame
  obtain ⟨hanswers, hsame'⟩ := hx s w w' hsame
  rcases heq : x s w with ⟨result, after⟩
  rcases heq' : x' s w' with ⟨result', after'⟩
  rw [heq, heq'] at hanswers hsame'
  cases hanswers with
  | @ok a a' hrelated =>
      rw [bind_ok heq, bind_ok heq']
      exact hf a a' hrelated s after after' hsame'
  | error e =>
      rw [bind_error heq, bind_error heq']
      exact ⟨.error e, hsame'⟩

theorem agrees_pure {a a' : α} (h : R a a') : Agrees c R (pure a : Act σ α) (pure a') :=
  fun _ _ _ hsame => ⟨.ok h, hsame⟩

theorem agrees_lift {x x' : Except Error α} (h : Answers R x x') :
    Agrees c R (lift x : Act σ α) (lift x') :=
  fun _ _ _ hsame => ⟨h, hsame⟩

theorem agrees_settings : Agrees c Eq (settings : Act σ Settings) settings :=
  fun _ _ _ hsame => ⟨.ok rfl, hsame⟩

/-- The token does not look at the store. -/
theorem agrees_checkpoint (r : Request) :
    Agrees c Eq (checkpoint r : Act σ Unit) (checkpoint r) := by
  intro s w w' hsame
  refine ⟨?_, hsame⟩
  unfold checkpoint isCancelled
  rw [hsame.calls]
  cases r.token.isCancelled w'.calls with
  | true => exact .error .cancelled
  | false => exact .ok rfl

theorem Agrees.within {x x' : Act σ α} (h : Agrees c R x x') (doing : String) :
    Agrees c R (within doing x) (within doing x') := by
  intro s w w' hsame
  obtain ⟨hanswers, hsame'⟩ := h s w w' hsame
  refine ⟨?_, hsame'⟩
  show Answers R ((x s w).1.mapError (.context doing)) ((x' s w').1.mapError (.context doing))
  generalize (x s w).1 = result at hanswers
  generalize (x' s w').1 = result' at hanswers
  cases hanswers with
  | ok hrelated => exact .ok hrelated
  | error e => exact .error _

theorem Agrees.attempt {x x' : Act σ α} (h : Agrees c R x x') :
    Agrees c (Answers R) (attempt x) (attempt x') := by
  intro s w w' hsame
  obtain ⟨hanswers, hsame'⟩ := h s w w' hsame
  exact ⟨.ok hanswers, hsame'⟩

/-- Calls agree if what they do agrees, since both are counted and fail beforehand alike. -/
theorem agrees_call {call : Call} {run run' : Services σ → World σ → Except Error α × World σ}
    (hrun : Agrees c R run run') : Agrees c R (Act.call call run) (Act.call call run') := by
  intro s w w' hsame
  have hcounted : ∀ {v v' : World σ}, v.LooksSame c v' →
      World.LooksSame c { v with calls := call :: v.calls } { v' with calls := call :: v'.calls } :=
    fun h => ⟨h.store, congrArg (List.cons call) h.calls⟩
  unfold Act.call
  rw [hsame.calls]
  cases s.fault? w'.calls.length call with
  | some e => exact ⟨.error e, hcounted hsame⟩
  | none =>
      obtain ⟨hanswers, hsame'⟩ := hrun s w w' hsame
      exact ⟨hanswers, hcounted hsame'⟩

theorem agrees_query {call : Call} {r : Request} {read : Store → Bool → Except Error α}
    (hread : ∀ cancelled (s s' : Store), s.LooksSame c s' →
      Answers R (read s cancelled) (read s' cancelled)) :
    Agrees c R (query call r read : Act σ α) (query call r read) := by
  refine agrees_call fun s w w' hsame => ⟨?_, hsame⟩
  show Answers R (read w.store (isCancelled r w)) (read w'.store (isCancelled r w'))
  unfold isCancelled
  rw [hsame.calls]
  exact hread _ w.store w'.store hsame.store

end Act

/-! ## What is shown of an interface -/

section

variable {i i' : Interface} (h : ShownSame i i')
include h

theorem ShownSame.parts :
    i.identifier = i'.identifier ∧ i.displayName = i'.displayName ∧
      i.obfuscation = i'.obfuscation := by
  simpa [ShownSame, Interface.shown] using h

theorem config_name_eq (p : Peer) : p.configName (some i) = p.configName (some i') := by
  obtain ⟨hidentifier, hname, -⟩ := h.parts
  unfold Peer.configName
  simp only [hidentifier, hname]

theorem link_build_eq (p : Option Peer) (name config : String) (level : Nat) :
    Link.build p i name config level = Link.build p i' name config level := by
  obtain ⟨hidentifier, -, hblock⟩ := h.parts
  unfold Link.build
  rw [hidentifier, hblock]

theorem is_obfuscated_eq : i.isObfuscated = i'.isObfuscated := by
  obtain ⟨-, -, hblock⟩ := h.parts
  unfold Interface.isObfuscated
  rw [hblock]

end

namespace Keeper

open Act

variable {σ : Type}

/-! ## The operations -/

/-- Who is no administrator is let through to peers of their own only. -/
theorem require_owner_answers {c : Caller} {p p' : Peer} (hordinary : c.IsOrdinary)
    (hsame : OwnSame c p p') :
    Answers (fun _ _ => p = p') (c.requireOwner p.owner) (c.requireOwner p'.owner) := by
  obtain ⟨howner, hown⟩ := hsame
  rw [← howner]
  unfold Caller.requireOwner
  cases huser : c.user with
  | none => exact .error _
  | some user =>
      simp only
      have hadmin := hordinary user huser
      by_cases howned : user.identifier = p.owner
      · rw [if_pos (.inr howned)]
        exact .ok (hown ⟨user, huser, howned⟩)
      · rw [if_neg (by simp [hadmin, howned])]
        exact .error _

section

variable {r : Request} (hordinary : r.caller.IsOrdinary)
include hordinary

theorem agrees_load_peer (id : PeerId) :
    Agrees r.caller Eq (loadPeer r id : Act σ Peer) (loadPeer r id) := by
  refine (agrees_checkpoint r).bind fun _ _ _ => ?_
  refine ((agrees_query fun cancelled s s' hsame => hsame.peer cancelled id).within _).bind ?_
  intro p p' hsame
  exact (agrees_lift (require_owner_answers hordinary hsame)).bind fun _ _ h => agrees_pure h

theorem agrees_interface_config (id : InterfaceId) :
    Agrees r.caller Eq (interfaceConfig r id : Act σ String) (interfaceConfig r id) := by
  obtain ⟨e, hdenied⟩ := hordinary.denied
  intro s w w' hsame
  unfold interfaceConfig
  rw [bind_lift_error hdenied, bind_lift_error hdenied]
  exact ⟨.error e, hsame⟩

end

section

variable {c : Caller} {r : Request} {p : Peer} {i i' : Interface}

theorem agrees_load_interface (id : InterfaceId) :
    Agrees c ShownSame (loadInterface r id : Act σ Interface) (loadInterface r id) :=
  (agrees_checkpoint r).bind fun _ _ _ =>
    (agrees_query fun cancelled _ _ hsame => hsame.interface cancelled id).within _

theorem agrees_render_peer (style : ConfigStyle) (p : Peer) :
    Agrees c Eq (renderPeer style p : Act σ String) (renderPeer style p) :=
  agrees_call fun _ _ _ hsame => ⟨.ok rfl, hsame⟩

theorem agrees_look_up_name (p : Peer) :
    Agrees c Eq (lookUpName r p : Act σ String) (lookUpName r p) := by
  refine (agrees_checkpoint r).bind fun _ _ _ => ?_
  have hfound : Agrees c ShownSame (interface r p.interfaceId : Act σ Interface)
      (interface r p.interfaceId) :=
    agrees_query fun cancelled _ _ hsame => hsame.interface cancelled p.interfaceId
  refine hfound.attempt.bind fun found found' hanswers => agrees_pure ?_
  -- The name is made of what is shown of the interface, or of the peer alone.
  cases hanswers with
  | ok hshown => exact config_name_eq hshown p
  | error e => rfl

theorem agrees_build_link (hshown : ShownSame i i') :
    Agrees c Eq (buildLink r p i : Act σ String) (buildLink r p i') := by
  unfold buildLink
  rw [config_name_eq hshown]
  refine (agrees_checkpoint r).bind fun _ _ _ => ?_
  refine ((agrees_render_peer .wgQuick p).within _).bind ?_
  rintro config _ rfl
  refine agrees_settings.bind ?_
  rintro s _ rfl
  rw [link_build_eq hshown]
  exact (agrees_lift (answers_refl _)).within _

end

section

variable {r : Request} (hordinary : r.caller.IsOrdinary)
include hordinary

theorem agrees_peer_config (id : PeerId) (style : ConfigStyle) :
    Agrees r.caller Eq (peerConfig r id style : Act σ String) (peerConfig r id style) := by
  refine (agrees_load_peer hordinary id).bind ?_
  rintro p _ rfl
  refine (agrees_checkpoint r).bind fun _ _ _ => ?_
  refine (agrees_render_peer style p).bind ?_
  rintro config _ rfl
  refine (agrees_look_up_name p).bind ?_
  rintro name _ rfl
  exact agrees_pure rfl

theorem agrees_qr_payload (id : PeerId) (style : ConfigStyle) :
    Agrees r.caller Eq (qrPayload r id style : Act σ String) (qrPayload r id style) := by
  refine (agrees_load_peer hordinary id).bind ?_
  rintro p _ rfl
  refine (agrees_load_interface p.interfaceId).bind fun i i' hshown => ?_
  rw [is_obfuscated_eq hshown]
  cases i'.isObfuscated with
  | true => exact agrees_build_link hshown
  | false =>
      refine (agrees_checkpoint r).bind fun _ _ _ => ?_
      refine ((agrees_render_peer style p).within _).bind ?_
      rintro config _ rfl
      exact agrees_pure rfl

theorem agrees_qr_code (id : PeerId) (style : ConfigStyle) :
    Agrees r.caller Eq (qrCode r id style : Act σ (List UInt8)) (qrCode r id style) := by
  refine (agrees_qr_payload hordinary id style).bind ?_
  rintro payload _ rfl
  exact Agrees.within (agrees_call fun _ _ _ hsame => ⟨.ok rfl, hsame⟩) _

theorem agrees_vpn_link (id : PeerId) :
    Agrees r.caller Eq (vpnLink r id : Act σ String) (vpnLink r id) := by
  refine (agrees_load_peer hordinary id).bind ?_
  rintro p _ rfl
  exact (agrees_load_interface p.interfaceId).bind fun i i' hshown => agrees_build_link hshown

end

/-- Two worlds in which a request gets the same answers. -/
structure SameAnswers (r : Request) (s : Services σ) (w w' : World σ) : Prop where
  interfaceConfig : ∀ id, (interfaceConfig r id s w).1 = (interfaceConfig r id s w').1
  peerConfig : ∀ id style, (peerConfig r id style s w).1 = (peerConfig r id style s w').1
  qrPayload : ∀ id style, (qrPayload r id style s w).1 = (qrPayload r id style s w').1
  qrCode : ∀ id style, (qrCode r id style s w).1 = (qrCode r id style s w').1
  vpnLink : ∀ id, (vpnLink r id s w).1 = (vpnLink r id s w').1

/-- Callers who are no administrators get the same answers from any two stores that look the same
to them. -/
theorem answers_confidential (r : Request) (s : Services σ) (w w' : World σ)
    (writes writes' : List Store.Write) (hordinary : r.caller.IsOrdinary)
    (hstore : w.store = Store.after writes) (hstore' : w'.store = Store.after writes')
    (hsame : (Store.contents w.store).LooksSame r.caller (Store.contents w'.store))
    (hcalls : w.calls = w'.calls) :
    SameAnswers r s w w' := by
  have hconsistent : w.store.Consistent := hstore ▸ Store.consistent_after writes
  have hconsistent' : w'.store.Consistent := hstore' ▸ Store.consistent_after writes'
  have hlooks : w.LooksSame r.caller w' :=
    ⟨Store.looks_same_of_contents hconsistent hconsistent' hsame, hcalls⟩
  exact {
    interfaceConfig := fun id => (agrees_interface_config hordinary id s w w' hlooks).1.eq
    peerConfig := fun id style => (agrees_peer_config hordinary id style s w w' hlooks).1.eq
    qrPayload := fun id style => (agrees_qr_payload hordinary id style s w w' hlooks).1.eq
    qrCode := fun id style => (agrees_qr_code hordinary id style s w w' hlooks).1.eq
    vpnLink := fun id => (agrees_vpn_link hordinary id s w w' hlooks).1.eq }

/-- An interface, and one peer of each of two users. -/
def writesWith (privateKey notes : String) : List Store.Write :=
  [.saveInterface false { Interface.new "wg0" with keyPair := ⟨privateKey, ""⟩ },
    .savePeer false
      { Peer.blank with identifier := "phone", owner := "alice", interfaceId := "wg0" },
    .savePeer false
      { Peer.blank with
        identifier := "laptop", owner := "bob", interfaceId := "wg0", notes := notes }]

/-- The world after these calls. -/
def worldWith (privateKey notes : String) : World Unit :=
  ⟨Store.after (writesWith privateKey notes), (), [], [], []⟩

/-- A request of one of the two users. -/
def aliceAsks : Request := ⟨⟨some ⟨"alice", false⟩⟩, .lasting⟩

/-- The maps after these calls. -/
theorem contents_with (privateKey notes : String) :
    Store.contents (worldWith privateKey notes).store = {
      interfaces := fun id =>
        if id = "wg0" then some { Interface.new "wg0" with keyPair := ⟨privateKey, ""⟩ } else none
      peers := fun id =>
        if id = "laptop" then
          some { Peer.blank with
            identifier := "laptop", owner := "bob", interfaceId := "wg0", notes := notes }
        else if id = "phone" then
          some { Peer.blank with identifier := "phone", owner := "alice", interfaceId := "wg0" }
        else none } := by
  show Store.contents (Store.after (writesWith privateKey notes)) = _
  rw [Store.contents_after]
  rfl

/-- One user learns neither the private key of the interface nor the notes on the other's peer. -/
theorem answers_confidential_keys :
    Store.contents (worldWith "key" "notes").store ≠
        Store.contents (worldWith "other key" "other notes").store ∧
      SameAnswers aliceAsks listingOnce (worldWith "key" "notes")
        (worldWith "other key" "other notes") := by
  refine ⟨fun heq => ?_, answers_confidential aliceAsks listingOnce _ _
    (writesWith "key" "notes") (writesWith "other key" "other notes") ?_ rfl rfl ?_ rfl⟩
  · have hlaptop := congrArg (fun m => (m.peers "laptop").map Peer.notes) heq
    rw [contents_with, contents_with] at hlaptop
    exact absurd hlaptop (by decide)
  · intro user huser
    cases huser
    rfl
  · rw [contents_with, contents_with]
    exact {
      interfaces := by
        intro id
        by_cases hid : id = "wg0" <;> simp [hid, Interface.shown]
      owners := by
        intro id
        by_cases hid : id = "laptop" <;> by_cases hid' : id = "phone" <;> simp [hid, hid']
      own := by
        rintro id p ⟨user, huser, howner⟩
        cases huser
        by_cases hid : id = "laptop"
        · subst hid
          constructor
          · intro h
            cases h
            exact absurd howner (by decide)
          · intro h
            cases h
            exact absurd howner (by decide)
        · simp [hid] }

end Keeper

end TunnelKeeper
