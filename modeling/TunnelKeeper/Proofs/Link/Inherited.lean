import TunnelKeeper.Proofs.Link.Blocks
import TunnelKeeper.Proofs.Net.Listing
import TunnelKeeper.Proofs.Net.Network

/-!
# Inherited settings in links

A new peer takes the networks of its interface over as one text. No text of a network has a comma
or a blank character, so the networks are found again in the joined text (`entries_join`), and the
link of a new peer lists the networks that its interface gives to new peers (`inherited_in_link`).
-/

namespace TunnelKeeper

open Text

namespace Network

open Net Number

/-- The text of a network is an item of a list. -/
theorem is_item_text (n : Network) : Listing.IsItem n.text := by
  have hchars : n.text.toList = addressChars n.family n.address ++ '/' :: decimalChars n.length :=
    String.toList_ofList
  refine Listing.is_item_of_chars ?_ ?_
  · intro hempty
    have hmem : '/' ∈ n.text.toList := by simp [hchars]
    rw [hempty] at hmem
    exact List.not_mem_nil hmem
  · have haddress : ∀ c, IsAddressChar c → c ≠ ',' ∧ isBlank c = false := by
      intro c hc
      rcases hc with hdigit | rfl | rfl
      · refine ⟨?_, not_blank_of_is_digit_of hdigit⟩
        rintro rfl
        exact absurd hdigit (by decide)
      · decide
      · decide
    intro c hc
    rw [hchars, List.mem_append, List.mem_cons] at hc
    rcases hc with hc | rfl | hc
    · exact haddress c (address_chars_address_chars _ _ c hc)
    · decide
    · exact haddress c (decimal_chars_address_chars _ c hc)

/-- The texts of networks are found in what they were joined to. -/
theorem entries_join (ns : List Network) : Listing.entries (join ns) = ns.map text := by
  refine Listing.entries_intercalate_items fun item hitem => ?_
  obtain ⟨n, -, rfl⟩ := List.mem_map.mp hitem
  exact n.is_item_text

/-- A network is read back from its entry. -/
theorem parse_entry_text (n : Network) : parseEntry n.text = .ok n := by
  rw [parseEntry, n.is_item_text.trimmed, if_neg n.is_item_text.ne_empty, parse_text]
  rfl

end Network

namespace Listing

/-- The entries of joined networks, or of the fallback where there are none. -/
theorem entries_or_join (ns : List Network) (fallback : String) :
    entriesOr (Network.join ns) fallback =
      if ns = [] then entries fallback else ns.map Network.text := by
  rw [entriesOr, Network.entries_join]
  cases ns <;> rfl

theorem entries_everywhere : entries everywhere = ["0.0.0.0/0", "::/0"] := by decide

end Listing

namespace Link

/-- A new peer belongs to its interface, so it has a link as soon as its document fits a frame. -/
theorem linkable_new_iff (i : Interface) (id : PeerId) (keys : KeyPair)
    (description config : String) :
    Linkable (some (.new id i keys)) i description config ↔
      ∃ o, i.obfuscation = some o ∧ o.isEmpty = false ∧
        (encodeUtf8 (Json.writeValue
          (document (.new id i keys) o description config))).length < 2 ^ 32 := by
  constructor
  · intro h
    obtain ⟨p, o, hpeer, -, hlinkable⟩ := h
    obtain rfl := Option.some.inj hpeer
    exact ⟨o, hlinkable⟩
  · intro h
    obtain ⟨o, hlinkable⟩ := h
    have hinterface : (Peer.new id i keys).interfaceId = i.identifier := rfl
    exact ⟨.new id i keys, o, rfl, hinterface, hlinkable⟩

/-- Networks that are not none are read back from their joined text, in order and whatever the
fallback. A new peer of an interface with a block that is not empty has a link at every level if
its document fits a frame. What is decoded from a link of a new peer lists the texts of the networks
that the interface gives to new peers, or both networks of everything where it gives none, and names
the first two entries of the resolvers that the interface gives to new peers, filled up with the
usual ones. -/
theorem inherited_in_link (i : Interface) (id : PeerId) (keys : KeyPair)
    (description config : String) :
    (∀ ns : List Network, ns ≠ [] → ∀ fallback,
      (Listing.entriesOr (Network.join ns) fallback).map Network.parseEntry = ns.map .ok) ∧
    (∀ level, (∃ link, build (some (.new id i keys)) i description config level = .ok link) ↔
      ∃ o, i.obfuscation = some o ∧ o.isEmpty = false ∧
        (encodeUtf8 (Json.writeValue
          (document (.new id i keys) o description config))).length < 2 ^ 32) ∧
    ∀ level link, build (some (.new id i keys)) i description config level = .ok link →
      ∃ value awg inner, decode link = .ok value ∧ HasSettings link awg inner ∧
        inner.field? "allowed_ips" = some (.texts
          (if i.peerDefaults.allowedIps = [] then ["0.0.0.0/0", "::/0"]
            else i.peerDefaults.allowedIps.map Network.text)) ∧
        value.field? "dns1" = some (.text
          ((Listing.entries (",".intercalate i.peerDefaults.dns)).getD 0 "1.1.1.1")) ∧
        value.field? "dns2" = some (.text
          ((Listing.entries (",".intercalate i.peerDefaults.dns)).getD 1 "1.0.0.1")) := by
  refine ⟨?_, ?_, ?_⟩
  · intro ns hns fallback
    rw [Listing.entries_or_join, if_neg hns, List.map_map]
    refine List.map_congr_left fun n _ => ?_
    rw [Function.comp_apply, Network.parse_entry_text]
  · intro level
    exact (build_succeeds_iff ..).trans (linkable_new_iff i id keys description config)
  · intro level link hlink
    obtain ⟨p, o, value, awg, inner, hpeer, -, hdecode, henvelope, hnetworks⟩ :=
      networks_of_build hlink
    obtain rfl := Option.some.inj hpeer
    have hinherited : (Peer.new id i keys).allowedIps.value =
        Network.join i.peerDefaults.allowedIps := rfl
    have hresolvers : (Peer.new id i keys).client.dns.value = ",".intercalate i.peerDefaults.dns :=
      rfl
    refine ⟨value, awg, inner, hdecode, has_settings_of_envelope hdecode henvelope, ?_, ?_, ?_⟩
    · rw [hnetworks, hinherited, Listing.entries_or_join, Listing.entries_everywhere]
    · rw [henvelope.dns1, hresolvers, Listing.resolvers_eq_entries]
    · rw [henvelope.dns2, hresolvers, Listing.resolvers_eq_entries]

end Link

end TunnelKeeper
