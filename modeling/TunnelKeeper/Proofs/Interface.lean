import TunnelKeeper.Interface
import TunnelKeeper.Proofs.Data.Record
import TunnelKeeper.Proofs.Net.Network

/-!
# Interfaces read back

The decoder of every part of an interface undoes the writer of that part, up to the whole
interface (`Interface.undoes`), so its JSON text gives the interface back
(`Interface.decode_text_write`).
-/

namespace TunnelKeeper

/-! ## Words and networks -/

theorem size_undoes : Obfuscation.sizeField.Undoes fun v => .nat v.toNat where
  plain := fun v => .nat (Nat.lt_of_lt_of_le v.toNat_lt (by decide))
  read := by
    intro origin v
    rw [Obfuscation.sizeField, Decoder.map, Decoder.natural_nat origin v.toNat_lt]
    simp [Except.map]

theorem word_undoes : Decoder.word.Undoes .word where
  plain := fun v => .nat (Nat.lt_of_lt_of_le v.toNat_lt (by decide))
  read := by
    intro origin v
    rw [Decoder.word, Decoder.map, Data.word, Decoder.natural_nat origin v.toNat_lt]
    simp [Except.map]

theorem network_undoes : Network.decoder.Undoes fun n => .text n.text where
  plain := fun n => .text n.text
  read := by
    intro origin n
    have hparse := Network.parse_text n
    simp only [Network.decoder, Decoder.parsed, Decoder.text, hparse, bind, Except.bind,
      Except.mapError]

theorem networks_undoes : (Decoder.list Network.decoder).Undoes .networks := network_undoes.list

theorem texts_undoes : (Decoder.list Decoder.text).Undoes .texts := Decoder.text_undoes.list

theorem mode_undoes : (Decoder.choice Mode.byName).Undoes fun m => .text m.name where
  plain := fun m => .text m.name
  read := by
    intro origin m
    cases origin <;> cases m <;> rfl

/-! ## Obfuscation blocks -/

namespace Fields

variable {α β : Type} {origin : Origin}

/-- One more field, which is given if it has a value. -/
theorem Reads.given_entry {f : Fields (Option α → β)} {entries : List (String × Data)}
    {g : Option α → β} (h : Reads f origin entries g) {name : String} {d : Decoder α}
    {write : α → Data} (hd : d.Undoes write) (hnull : ∀ a, write a ≠ .null) (v : Option α)
    (hfresh : name ∉ f.names) :
    Reads (f <*> withDefault name (.option d) none) origin
      (entries ++ Obfuscation.givenEntry name write v) (g v) := by
  cases v with
  | none =>
      have hreads := h.left_out (d := .option d) (a := none) hfresh
      simpa [Obfuscation.givenEntry] using hreads
  | some a => exact h.given (hd.option hnull) (some a) hfresh

end Fields

namespace Obfuscation

/-- A number is not written as nothing. -/
theorem nat_ne_null (v : UInt16) : Data.nat v.toNat ≠ .null := fun h => nomatch h

theorem text_ne_null (s : String) : Data.text s ≠ .null := fun h => nomatch h

/-- A block is read back, whichever of its parameters are given. -/
theorem undoes : decoder.Undoes toData := by
  refine Fields.undoes_of_reads (fun origin o => ⟨_, (Fields.Reads.pure Obfuscation.mk)
    |>.given size_undoes o.junkCount (by decide)
    |>.given size_undoes o.junkMin (by decide)
    |>.given size_undoes o.junkMax (by decide)
    |>.given size_undoes o.initJunk (by decide)
    |>.given size_undoes o.responseJunk (by decide)
    |>.given_entry size_undoes nat_ne_null o.cookieJunk (by decide)
    |>.given_entry size_undoes nat_ne_null o.transportJunk (by decide)
    |>.given_entry Decoder.text_undoes text_ne_null o.initHeader (by decide)
    |>.given_entry Decoder.text_undoes text_ne_null o.responseHeader (by decide)
    |>.given_entry Decoder.text_undoes text_ne_null o.underloadHeader (by decide)
    |>.given_entry Decoder.text_undoes text_ne_null o.transportHeader (by decide)
    |>.given_entry Decoder.text_undoes text_ne_null o.firstPacket (by decide)
    |>.given_entry Decoder.text_undoes text_ne_null o.secondPacket (by decide)
    |>.given_entry Decoder.text_undoes text_ne_null o.thirdPacket (by decide)
    |>.given_entry Decoder.text_undoes text_ne_null o.fourthPacket (by decide)
    |>.given_entry Decoder.text_undoes text_ne_null o.fifthPacket (by decide), ?_⟩) _ _
  simp only [toData, List.nil_append, List.cons_append]

end Obfuscation

/-! ## Interfaces -/

/-- A key pair is read back. -/
theorem KeyPair.undoes : KeyPair.decoder.Undoes KeyPair.toData := by
  refine Fields.undoes_of_reads (fun origin k => ⟨_, (Fields.Reads.pure KeyPair.mk)
    |>.given Decoder.text_undoes k.privateKey (by decide)
    |>.given Decoder.text_undoes k.publicKey (by decide), ?_⟩) _ _
  simp only [toData, List.nil_append, List.cons_append]

/-- What peers inherit is read back. -/
theorem PeerDefaults.undoes : PeerDefaults.decoder.Undoes PeerDefaults.toData := by
  refine Fields.undoes_of_reads (fun origin d => ⟨_, (Fields.Reads.pure PeerDefaults.mk)
    |>.given networks_undoes d.network (by decide)
    |>.given texts_undoes d.dns (by decide)
    |>.given texts_undoes d.dnsSearch (by decide)
    |>.given Decoder.text_undoes d.endpoint (by decide)
    |>.given networks_undoes d.allowedIps (by decide)
    |>.given word_undoes d.mtu (by decide)
    |>.given word_undoes d.persistentKeepalive (by decide)
    |>.given word_undoes d.firewallMark (by decide)
    |>.given Decoder.text_undoes d.routingTable (by decide)
    |>.given Decoder.text_undoes d.preUp (by decide)
    |>.given Decoder.text_undoes d.postUp (by decide)
    |>.given Decoder.text_undoes d.preDown (by decide)
    |>.given Decoder.text_undoes d.postDown (by decide), ?_⟩) _ _
  simp only [toData, List.nil_append, List.cons_append]

namespace Interface

/-- A block is not written as nothing. -/
theorem block_undoes :
    (Decoder.option Obfuscation.decoder).Undoes (Data.orNull Obfuscation.toData) :=
  Obfuscation.undoes.option fun _ h => nomatch h

/-- An interface is read back. -/
theorem undoes : decoder.Undoes toData := by
  refine Fields.undoes_of_reads (fun origin i => ⟨_, (Fields.Reads.pure Interface.mk)
    |>.given Decoder.text_undoes i.identifier (by decide)
    |>.given Decoder.text_undoes i.displayName (by decide)
    |>.given mode_undoes i.mode (by decide)
    |>.given KeyPair.undoes i.keyPair (by decide)
    |>.given size_undoes i.listenPort (by decide)
    |>.given networks_undoes i.addresses (by decide)
    |>.given texts_undoes i.dns (by decide)
    |>.given texts_undoes i.dnsSearch (by decide)
    |>.given word_undoes i.mtu (by decide)
    |>.given word_undoes i.firewallMark (by decide)
    |>.given Decoder.text_undoes i.routingTable (by decide)
    |>.given Decoder.text_undoes i.preUp (by decide)
    |>.given Decoder.text_undoes i.postUp (by decide)
    |>.given Decoder.text_undoes i.preDown (by decide)
    |>.given Decoder.text_undoes i.postDown (by decide)
    |>.given Decoder.bool_undoes i.saveConfig (by decide)
    |>.given Decoder.bool_undoes i.disabled (by decide)
    |>.given Decoder.text_undoes i.notes (by decide)
    |>.given PeerDefaults.undoes i.peerDefaults (by decide)
    |>.given block_undoes i.obfuscation (by decide), ?_⟩) _ _
  simp only [toData, List.nil_append, List.cons_append]

/-- The text of an interface gives the interface back. -/
theorem decode_text_write (i : Interface) :
    Json.decodeText decoder (Json.write i.toData) = .ok i :=
  Json.decode_text_write (undoes.plain i) (undoes.read .jsonText i)

end Interface

end TunnelKeeper
