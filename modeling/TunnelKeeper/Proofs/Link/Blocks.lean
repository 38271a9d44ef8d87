import TunnelKeeper.Proofs.Link.RoundTrip
import TunnelKeeper.Proofs.Obfuscation.Header
import TunnelKeeper.Proofs.Obfuscation.NormalForm

/-!
# Blocks in links

What a client sees of a block. It cannot tell a block from its normal form, and neither can the
check of the block, but for blank special packets (`normal_form_invisible`). The headers in a link
are those of the block without their margins, so the headers of a block that was accepted are blank
or numerals of 32 bits (`accepted_headers_in_link`); a plus sign before the digits is accepted and
goes into the link as well (`signed_header_in_link`).
-/

namespace TunnelKeeper

open Text Number

/-! ## Normal forms -/

namespace Link

theorem parameters_normalized (o : Obfuscation) : parameters o.normalized = parameters o := by
  simp only [parameters, Obfuscation.normalized, Obfuscation.cookieJunk?,
    Obfuscation.transportJunk?, Obfuscation.present_size_idem, Obfuscation.present_text_idem]

end Link

namespace Obfuscation

/-- A normal form is its own normal form. It is the block in which all is absent exactly if the
block is empty, and it is empty itself exactly then. Links show the same parameters of both. A block
is accepted, with some warnings, exactly if its normal form is, with the same warnings, and no
special packet that is given is blank. -/
theorem normal_form_invisible (o : Obfuscation) :
    o.normalized.normalized = o.normalized ∧
      (o.normalized = empty ↔ o.isEmpty = true) ∧
      o.normalized.isEmpty = o.isEmpty ∧
      Link.parameters o.normalized = Link.parameters o ∧
      ∀ field warnings, o.validate field = .ok warnings ↔
        o.normalized.validate field = .ok warnings ∧
          ∀ raw, some raw ∈ o.rawPackets → isBlankText raw = false := by
  refine ⟨o.normalized_idem, normalized_eq_empty_iff o, is_empty_normal_form o,
    Link.parameters_normalized o, fun field warnings => ?_⟩
  constructor
  · intro h
    have hshown := (accepted_iff_validate.mpr ⟨warnings, h⟩).packets_shown
    exact ⟨(validate_normalized hshown field).trans h, hshown⟩
  · rintro ⟨h, hshown⟩
    exact (validate_normalized hshown field).symm.trans h

/-- A header of an accepted block is blank or, without its margins, a numeral of 32 bits. -/
theorem Accepted.header_numeral {o : Obfuscation} (h : o.Accepted) {raw : Option String}
    (hraw : raw ∈ o.rawHeaders) :
    (presentText raw).getD "" = "" ∨
      ∃ sign ∈ ["", "+"], ∃ n < 2 ^ 32, IsNumeral sign ((presentText raw).getD "") n := by
  cases hpresent : presentText raw with
  | none => exact .inl rfl
  | some s =>
      obtain ⟨hne, given, rfl, rfl⟩ := present_text_eq_some_iff.mp hpresent
      have hnone := h.headers given hraw
      rw [headerComplaint?, if_neg hne] at hnone
      cases hvalue : headerValue? (trim given) with
      | none =>
          rw [hvalue] at hnone
          cases hnone
      | some n =>
          obtain ⟨⟨sign, hsign, hnumeral⟩, hn⟩ := header_value_eq_some_iff.mp hvalue
          rw [trim_idem] at hnumeral
          exact .inr ⟨sign, hsign, n, hn, hnumeral⟩

end Obfuscation

/-! ## Headers -/

namespace Link

variable {o : Obfuscation} {i : Interface} {peer : Option Peer} {link : String}

/-- The settings in a link: the table of its only container, and the one that is given as text
within the first. -/
def HasSettings (link : String) (awg inner : Data) : Prop :=
  ∃ value container last, decode link = .ok value ∧
    value.field? "containers" = some (.list [container]) ∧ container.field? "awg" = some awg ∧
    awg.field? "last_config" = some (.text last) ∧ Json.readSettled last.toList = .ok inner

/-- The settings in a link are those of the envelope that is decoded from it. -/
theorem has_settings_of_envelope {p : Peer} {description config : String} {value awg inner : Data}
    (hdecode : decode link = .ok value)
    (h : Envelope p o description config value awg inner) : HasSettings link awg inner := by
  obtain ⟨container, hcontainers, -, hawg⟩ := h.containers
  obtain ⟨last, hlast, hread⟩ := h.lastConfig
  exact ⟨value, container, last, hdecode, hcontainers, hawg, hlast, hread⟩

/-- Both tables of settings hold the parameters of the block that the link was built with. -/
theorem settings_of_build {description config : String} {level : Nat}
    (hblock : i.obfuscation = some o)
    (h : build peer i description config level = .ok link) :
    ∃ awg inner, HasSettings link awg inner ∧
      ∀ name ∈ parameterNames, awg.field? name = (parameters o).lookup name ∧
        inner.field? name = (parameters o).lookup name := by
  obtain ⟨p, o', value, awg, inner, -, hblock', hdecode, henvelope⟩ := envelope_of_build h
  obtain rfl := Option.some.inj (hblock'.symm.trans hblock)
  refine ⟨awg, inner, has_settings_of_envelope hdecode henvelope, fun name hname => ?_⟩
  have hshown := henvelope.shows.values name hname
  exact ⟨hshown, (henvelope.same name hname).symm.trans hshown⟩

/-- The names of the headers in a link. -/
def headerKeys : List String := ["H1", "H2", "H3", "H4"]

/-- A header is always given in a link, as a blank text where it is absent. -/
theorem lookup_header (o : Obfuscation) {name : String} (hname : name ∈ headerKeys) :
    ∃ raw ∈ o.rawHeaders,
      (parameters o).lookup name = some (.text ((Obfuscation.presentText raw).getD "")) := by
  simp only [headerKeys, List.mem_cons, List.not_mem_nil, or_false] at hname
  rcases hname with rfl | rfl | rfl | rfl
  · exact ⟨o.initHeader, by simp [Obfuscation.rawHeaders], rfl⟩
  · exact ⟨o.responseHeader, by simp [Obfuscation.rawHeaders], rfl⟩
  · exact ⟨o.underloadHeader, by simp [Obfuscation.rawHeaders], rfl⟩
  · exact ⟨o.transportHeader, by simp [Obfuscation.rawHeaders], rfl⟩

/-- In every link of an interface whose block was accepted, each header is the same text in both
tables of settings: a blank one, or a numeral of 32 bits, which may have a plus sign before its
digits and has nothing else around it. -/
theorem accepted_headers_in_link {field description config : String} {warnings : List Warning}
    {level : Nat} (haccepted : o.validate field = .ok warnings) (hblock : i.obfuscation = some o)
    (hlink : build peer i description config level = .ok link) :
    ∃ awg inner, HasSettings link awg inner ∧
      ∀ name ∈ headerKeys, ∃ s : String,
        awg.field? name = some (.text s) ∧ inner.field? name = some (.text s) ∧
          (s = "" ∨ ∃ sign ∈ ["", "+"], ∃ n < 2 ^ 32, IsNumeral sign s n) := by
  obtain ⟨awg, inner, hsettings, hparameters⟩ := settings_of_build hblock hlink
  refine ⟨awg, inner, hsettings, fun name hname => ?_⟩
  have hkeys : headerKeys ⊆ parameterNames := by decide
  obtain ⟨hawg, hinner⟩ := hparameters name (hkeys hname)
  obtain ⟨raw, hraw, hlookup⟩ := lookup_header o hname
  exact ⟨_, hawg.trans hlookup, hinner.trans hlookup,
    (Obfuscation.accepted_iff_validate.mpr ⟨warnings, haccepted⟩).header_numeral hraw⟩

/-! ## A signed header -/

/-- A block whose first header is a hexadecimal numeral with a plus sign. -/
def signedHeader : Obfuscation :=
  { Obfuscation.empty with
    initHeader := some "0x+1f"
    responseHeader := some " 7 " }

/-- An interface with that block. -/
def signedOffice : Interface := { Interface.new "wg0" with obfuscation := some signedHeader }

/-- A new peer of that interface. -/
def signedLaptop : Peer := .new "laptop" signedOffice .blank

theorem signed_header_accepted : signedHeader.validate "awg" = .ok [] := by
  have hnone : signedHeader.objection? "awg" = none := by decide +kernel
  rw [Obfuscation.validate, hnone]
  rfl

theorem parameters_signed_header :
    parameters signedHeader =
      [("H1", .text "0x+1f"), ("H2", .text "7"), ("H3", .text ""), ("H4", .text ""),
        ("Jc", .text "0"), ("Jmax", .text "0"), ("Jmin", .text "0"), ("S1", .text "0"),
        ("S2", .text "0")] := by
  have hzero : decimal 0 = "0" := by decide +kernel
  have hfirst : Obfuscation.presentText (some "0x+1f") = some "0x+1f" := by decide +kernel
  have hsecond : Obfuscation.presentText (some " 7 ") = some "7" := by decide +kernel
  simp only [parameters, signedHeader, Obfuscation.empty, hfirst, hsecond, hzero,
    UInt16.toNat_zero]
  rfl

/-- The document of the peer is far from the limit of a frame. -/
theorem signed_document_fits :
    (encodeUtf8 (Json.writeValue (document signedLaptop signedHeader "" ""))).length < 2 ^ 32 := by
  rw [document_eq, onlyContainer, containerFields, parameters_signed_header]
  -- The inner document has to stay a list of characters: as a text it is too long to compute with.
  simp only [Data.object, Data.list, Json.writeValue, Json.writeItems, Json.writeEntries,
    Json.writeKey, List.map_cons, List.map_nil, List.cons_append, List.nil_append, Json.write,
    String.toList_ofList]
  decide +kernel

theorem signed_link_built : ∃ link, build (some signedLaptop) signedOffice "" "" 6 = .ok link :=
  (build_succeeds_iff ..).mpr ⟨signedLaptop, signedHeader, rfl, rfl, rfl, by decide +kernel,
    signed_document_fits⟩

theorem accepted_headers_in_signed_link :
    ∃ link awg inner, signedHeader.validate "awg" = .ok [] ∧
      signedOffice.obfuscation = some signedHeader ∧
      build (some signedLaptop) signedOffice "" "" 6 = .ok link ∧ HasSettings link awg inner ∧
      ∀ name ∈ headerKeys, ∃ s : String,
        awg.field? name = some (.text s) ∧ inner.field? name = some (.text s) ∧
          (s = "" ∨ ∃ sign ∈ ["", "+"], ∃ n < 2 ^ 32, IsNumeral sign s n) := by
  obtain ⟨link, hlink⟩ := signed_link_built
  obtain ⟨awg, inner, hsettings, hheaders⟩ :=
    accepted_headers_in_link signed_header_accepted rfl hlink
  exact ⟨link, awg, inner, signed_header_accepted, rfl, hlink, hsettings, hheaders⟩

/-- The plus sign of an accepted header is in both tables of settings of a link, where the header
should be a numeral without a sign. -/
theorem signed_header_in_link :
    ∃ link awg inner, signedHeader.validate "awg" = .ok [] ∧
      signedOffice.obfuscation = some signedHeader ∧
      build (some signedLaptop) signedOffice "" "" 6 = .ok link ∧ HasSettings link awg inner ∧
      awg.field? "H1" = some (.text "0x+1f") ∧ inner.field? "H1" = some (.text "0x+1f") ∧
      ¬ ("0x+1f" = "" ∨ ∃ n < 2 ^ 32, IsNumeral "" "0x+1f" n) := by
  obtain ⟨link, hlink⟩ := signed_link_built
  obtain ⟨awg, inner, hsettings, hparameters⟩ := settings_of_build rfl hlink
  have hfirst : (parameters signedHeader).lookup "H1" = some (.text "0x+1f") := by
    rw [parameters_signed_header]
    rfl
  obtain ⟨hawg, hinner⟩ := hparameters "H1" (by decide)
  refine ⟨link, awg, inner, signed_header_accepted, rfl, hlink, hsettings, hawg.trans hfirst,
    hinner.trans hfirst, ?_⟩
  rintro (hempty | ⟨n, -, hnumeral⟩)
  · exact absurd hempty (by decide)
  · exact plus_not_mem_of_plain hnumeral (by decide)

end Link

end TunnelKeeper
