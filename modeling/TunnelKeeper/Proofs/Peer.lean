import TunnelKeeper.Peer
import TunnelKeeper.Proofs.Instant
import TunnelKeeper.Proofs.Interface

/-!
# Peers read back

The decoder of a peer undoes its writer (`Peer.undoes`), so the JSON text of a peer gives the peer
back (`Peer.decode_text_write`), whatever its texts, its networks and the moment it expires.
-/

namespace TunnelKeeper

/-- A setting is read back if its value is. -/
theorem Setting.undoes {α : Type} {d : Decoder α} {write : α → Data} (h : d.Undoes write) :
    (Setting.decoder d).Undoes (Setting.toData write) := by
  refine Fields.undoes_of_reads (fun origin s => ⟨_, (Fields.Reads.pure Setting.mk)
    |>.given h s.value (show "value" ∉ [] by decide)
    |>.given Decoder.bool_undoes s.overridable (show "overridable" ∉ ["value"] by decide),
      ?_⟩) _ _
  simp only [toData, List.nil_append, List.cons_append]

/-- The settings of a client are read back. -/
theorem ClientInterface.undoes : ClientInterface.decoder.Undoes ClientInterface.toData := by
  refine Fields.undoes_of_reads (fun origin c => ⟨_, (Fields.Reads.pure ClientInterface.mk)
    |>.given KeyPair.undoes c.keyPair (by decide)
    |>.given networks_undoes c.addresses (by decide)
    |>.given (Setting.undoes Decoder.text_undoes) c.dns (by decide)
    |>.given (Setting.undoes Decoder.text_undoes) c.dnsSearch (by decide)
    |>.given (Setting.undoes word_undoes) c.mtu (by decide)
    |>.given (Setting.undoes word_undoes) c.firewallMark (by decide)
    |>.given (Setting.undoes Decoder.text_undoes) c.routingTable (by decide)
    |>.given (Setting.undoes Decoder.text_undoes) c.preUp (by decide)
    |>.given (Setting.undoes Decoder.text_undoes) c.postUp (by decide)
    |>.given (Setting.undoes Decoder.text_undoes) c.preDown (by decide)
    |>.given (Setting.undoes Decoder.text_undoes) c.postDown (by decide), ?_⟩) _ _
  simp only [toData, List.nil_append, List.cons_append]

theorem Instant.undoes : Instant.decoder.Undoes fun t => .text t.text where
  plain := fun t => .text t.text
  read := by
    intro origin t
    simp only [Instant.decoder, Instant.parse_text, Except.mapError]

namespace Peer

/-- The moment a peer expires is read back, if there is one. -/
theorem expiry_undoes :
    (Decoder.option Instant.decoder).Undoes (Data.orNull fun t => .text t.text) :=
  Instant.undoes.option fun _ h => nomatch h

/-- A peer is read back. -/
theorem undoes : decoder.Undoes toData := by
  refine Fields.undoes_of_reads (fun origin p => ⟨_, (Fields.Reads.pure Peer.mk)
    |>.given Decoder.text_undoes p.identifier (by decide)
    |>.given Decoder.text_undoes p.displayName (by decide)
    |>.given Decoder.text_undoes p.owner (by decide)
    |>.given Decoder.text_undoes p.interfaceId (by decide)
    |>.given Decoder.bool_undoes p.disabled (by decide)
    |>.given expiry_undoes p.expiresAt (by decide)
    |>.given Decoder.text_undoes p.notes (by decide)
    |>.given (Setting.undoes Decoder.text_undoes) p.endpoint (by decide)
    |>.given (Setting.undoes Decoder.text_undoes) p.serverPublicKey (by decide)
    |>.given (Setting.undoes Decoder.text_undoes) p.allowedIps (by decide)
    |>.given Decoder.text_undoes p.extraAllowedIps (by decide)
    |>.given Decoder.text_undoes p.presharedKey (by decide)
    |>.given (Setting.undoes word_undoes) p.persistentKeepalive (by decide)
    |>.given ClientInterface.undoes p.client (by decide), ?_⟩) _ _
  simp only [toData, List.nil_append, List.cons_append]

/-- The text of a peer gives the peer back. -/
theorem decode_text_write (p : Peer) : Json.decodeText decoder (Json.write p.toData) = .ok p :=
  Json.decode_text_write (undoes.plain p) (undoes.read .jsonText p)

end Peer

end TunnelKeeper
