import TunnelKeeper.Proofs.Data.Member
import TunnelKeeper.Proofs.Settings.Merge

/-!
# Settings of a document

A document has settings under their names, in parts. Settings that were read from it have what
stands there, and the usual value where nothing does (`stated_of_parse`).
-/

namespace TunnelKeeper

/-- The parts of a document. -/
inductive Part
  | core
  | advanced
  | database
  | link
  | provisioning

namespace Part

/-- The name of a part. -/
def name : Part → String
  | core => "core"
  | advanced => "advanced"
  | database => "database"
  | link => "link"
  | provisioning => "provisioning"

/-- The parts in their order. -/
def all : List Part := [core, advanced, database, link, provisioning]

/-- The names in a part, in their order. -/
def names : Part → List String
  | core => ["wireguard_mode"]
  | advanced => ["log_level", "start_listen_port", "start_cidr_v4", "start_cidr_v6", "use_ip_v6",
      "config_storage_path"]
  | database => ["url", "max_connections", "connect_timeout", "acquire_timeout", "idle_timeout",
      "max_lifetime"]
  | link => ["compression_level"]
  | provisioning => ["interfaces"]

/-- What a document has under a name in a part. -/
def stated? (part : Part) (document : Data) (name : String) : Option Data :=
  Data.within? (document.member? (all.map Part.name) part.name) part.names name

end Part

/-- The part that a field stands in, and its name there. -/
def Field.place : Field → Part × String
  | .wireguardMode => (.core, "wireguard_mode")
  | .databaseUrl => (.database, "url")
  | .maxConnections => (.database, "max_connections")
  | .logLevel => (.advanced, "log_level")
  | .startListenPort => (.advanced, "start_listen_port")
  | .startCidrV4 => (.advanced, "start_cidr_v4")
  | .startCidrV6 => (.advanced, "start_cidr_v6")
  | .useIpV6 => (.advanced, "use_ip_v6")
  | .storagePath => (.advanced, "config_storage_path")
  | .compressionLevel => (.link, "compression_level")

/-- The value of a field as it is written in documents. -/
def FieldValue.toData : FieldValue → Data
  | .text s => .text s
  | .word n => .nat n.toNat
  | .port n => .nat n.toNat
  | .truth b => .bool b

/-- The times of the database, by their names. -/
def DatabaseSettings.times : List (String × (DatabaseSettings → UInt64)) :=
  [("connect_timeout", connectTimeout), ("acquire_timeout", acquireTimeout),
    ("idle_timeout", idleTimeout), ("max_lifetime", maxLifetime)]

namespace Settings

/-- Settings have what a document has under their names, and the usual value of everything that it
does not have. -/
structure Stated (document : Data) (s : Settings) : Prop where
  values : ∀ f : Field, (s.value f).toData =
    (f.place.1.stated? document f.place.2).getD (usual.value f).toData
  times : ∀ t ∈ DatabaseSettings.times, Data.nat (t.2 s.database).toNat =
    (Part.database.stated? document t.1).getD (.nat (t.2 usual.database).toNat)
  /-- The entries are those of the list that the document has, one by one. -/
  entries : (Part.provisioning.stated? document "interfaces").elim (s.provisioning = []) fun data =>
    ∃ values, data = .list values ∧
      List.Forall₂ (fun value e => Entry.decoder .toml value = .ok e) values s.provisioning

end Settings

/-! ## Numbers of some bits -/

namespace Decoder

theorem word_exact : word.Exact fun n => .nat n.toNat :=
  exact_of_natural (fun _ => UInt32.toNat_ofNat_of_lt') (fun _ => UInt32.ofNat_toNat)
    UInt32.toNat_lt

theorem size_field_exact : Obfuscation.sizeField.Exact fun n => .nat n.toNat :=
  exact_of_natural (fun _ => UInt16.toNat_ofNat_of_lt') (fun _ => UInt16.ofNat_toNat)
    UInt16.toNat_lt

theorem long_word_exact : (map UInt64.ofNat (natural 64)).Exact fun n => .nat n.toNat :=
  exact_of_natural (fun _ => UInt64.toNat_ofNat_of_lt') (fun _ => UInt64.ofNat_toNat)
    UInt64.toNat_lt

end Decoder

/-! ## The parts

What is known of the settings of a part that was read or, if it was left out, of the usual ones. -/

open Decoder Fields

section

variable {part : Option Data}

theorem CoreSettings.of_part {s : CoreSettings}
    (h : part.elim (.ok usual) (decoder .toml) = .ok s) :
    .text s.wireguardMode =
      (Data.within? part Part.core.names "wireguard_mode").getD (.text usual.wireguardMode) := by
  have h := Regular.of_part (.map (.withDefault ..) _) rfl h
  simp only [of_table_map, of_table_with_default] at h
  obtain ⟨mode, hmode, rfl⟩ := h
  exact text_exact.eq_of_elim hmode

theorem AdvancedSettings.of_part {s : AdvancedSettings}
    (h : part.elim (.ok usual) (decoder .toml) = .ok s) :
    let get := Data.within? part Part.advanced.names
    .text s.logLevel = (get "log_level").getD (.text usual.logLevel) ∧
    .nat s.startListenPort.toNat =
      (get "start_listen_port").getD (.nat usual.startListenPort.toNat) ∧
    .text s.startCidrV4 = (get "start_cidr_v4").getD (.text usual.startCidrV4) ∧
    .text s.startCidrV6 = (get "start_cidr_v6").getD (.text usual.startCidrV6) ∧
    .bool s.useIpV6 = (get "use_ip_v6").getD (.bool usual.useIpV6) ∧
    .text s.storagePath = (get "config_storage_path").getD (.text usual.storagePath) := by
  have h := Regular.of_part (.snoc (.snoc (.snoc (.snoc (.snoc (.map (.withDefault ..) _)
    (by decide)) (by decide)) (by decide)) (by decide)) (by decide)) rfl h
  simp only [of_table_seq, of_table_map, of_table_with_default] at h
  obtain ⟨_, ⟨_, ⟨_, ⟨_, ⟨_, ⟨level, hlevel, rfl⟩, port, hport, rfl⟩, v4, hv4, rfl⟩,
    v6, hv6, rfl⟩, use, huse, rfl⟩, path, hpath, rfl⟩ := h
  exact ⟨text_exact.eq_of_elim hlevel, size_field_exact.eq_of_elim hport,
    text_exact.eq_of_elim hv4, text_exact.eq_of_elim hv6, bool_exact.eq_of_elim huse,
    text_exact.eq_of_elim hpath⟩

theorem DatabaseSettings.of_part {s : DatabaseSettings}
    (h : part.elim (.ok usual) (decoder .toml) = .ok s) :
    let get := Data.within? part Part.database.names
    .text s.url = (get "url").getD (.text usual.url) ∧
    .nat s.maxConnections.toNat =
      (get "max_connections").getD (.nat usual.maxConnections.toNat) ∧
    ∀ t ∈ times, Data.nat (t.2 s).toNat = (get t.1).getD (.nat (t.2 usual).toNat) := by
  have h := Regular.of_part (.snoc (.snoc (.snoc (.snoc (.snoc (.map (.withDefault ..) _)
    (by decide)) (by decide)) (by decide)) (by decide)) (by decide)) rfl h
  simp only [of_table_seq, of_table_map, of_table_with_default] at h
  obtain ⟨_, ⟨_, ⟨_, ⟨_, ⟨_, ⟨url, hurl, rfl⟩, connections, hconnections, rfl⟩,
    connect, hconnect, rfl⟩, acquire, hacquire, rfl⟩, idle, hidle, rfl⟩,
    lifetime, hlifetime, rfl⟩ := h
  refine ⟨text_exact.eq_of_elim hurl, word_exact.eq_of_elim hconnections, ?_⟩
  simp only [times, List.forall_mem_cons, List.not_mem_nil, false_implies, implies_true, and_true]
  exact ⟨long_word_exact.eq_of_elim hconnect, long_word_exact.eq_of_elim hacquire,
    long_word_exact.eq_of_elim hidle, long_word_exact.eq_of_elim hlifetime⟩

theorem LinkSettings.of_part {s : LinkSettings}
    (h : part.elim (.ok usual) (decoder .toml) = .ok s) :
    .nat s.compressionLevel.toNat = (Data.within? part Part.link.names "compression_level").getD
      (.nat usual.compressionLevel.toNat) := by
  have h := Regular.of_part (.map (.withDefault ..) _) rfl h
  simp only [of_table_map, of_table_with_default] at h
  obtain ⟨level, hlevel, rfl⟩ := h
  exact word_exact.eq_of_elim hlevel

theorem Entry.of_part {entries : List Entry}
    (h : part.elim (.ok []) (sectionDecoder .toml) = .ok entries) :
    (Data.within? part Part.provisioning.names "interfaces").elim (entries = []) fun data =>
      ∃ values, data = .list values ∧
        List.Forall₂ (fun value e => decoder .toml value = .ok e) values entries := by
  have h := Regular.of_part (.withDefault ..) rfl h
  rw [of_table_with_default] at h
  change (Data.within? part Part.provisioning.names "interfaces").elim _ _ = _ at h
  cases hgiven : Data.within? part Part.provisioning.names "interfaces" with
  | none =>
      rw [hgiven] at h
      exact (Except.ok.inj h).symm
  | some data =>
      rw [hgiven] at h
      exact list_eq_ok_iff.mp h

end

namespace Settings

/-- Settings that were decoded have what the document has. -/
theorem stated_of_decoder {document : Data} {s : Settings}
    (h : decoder .toml document = .ok s) : Stated document s := by
  have h := Regular.of_decoder (.snoc (.snoc (.snoc (.snoc (.map (.withDefault ..) _)
    (by decide)) (by decide)) (by decide)) (by decide)) h
  simp only [of_table_seq, of_table_map, of_table_with_default] at h
  obtain ⟨_, ⟨_, ⟨_, ⟨_, ⟨core, hcore, rfl⟩, advanced, hadvanced, rfl⟩, database, hdatabase, rfl⟩,
    link, hlink, rfl⟩, entries, hentries, rfl⟩ := h
  obtain ⟨hlevel, hport, hv4, hv6, huse, hpath⟩ := AdvancedSettings.of_part hadvanced
  obtain ⟨hurl, hconnections, htimes⟩ := DatabaseSettings.of_part hdatabase
  refine ⟨fun f => ?_, htimes, Entry.of_part hentries⟩
  cases f with
  | wireguardMode => exact CoreSettings.of_part hcore
  | databaseUrl => exact hurl
  | maxConnections => exact hconnections
  | logLevel => exact hlevel
  | startListenPort => exact hport
  | startCidrV4 => exact hv4
  | startCidrV6 => exact hv6
  | useIpV6 => exact huse
  | storagePath => exact hpath
  | compressionLevel => exact LinkSettings.of_part hlink

/-- Settings that were read from a text have what its document has. -/
theorem stated_of_parse {text : String} {s : Settings} (h : parse text = .ok s) :
    ∃ document, Toml.readDocument text = .ok document ∧ Stated document s := by
  obtain ⟨document, hdocument, hdecoder⟩ :=
    except_bind_eq_ok_iff.mp (except_map_error_eq_ok_iff.mp h)
  exact ⟨document, except_map_error_eq_ok_iff.mp hdocument, stated_of_decoder hdecoder⟩

/-- A document without settings has the usual ones. -/
theorem parse_of_empty {text : String} (h : Toml.readDocument text = .ok (.object [])) :
    parse text = .ok usual := by
  rw [parse, Toml.decodeText, h]
  rfl

end Settings

end TunnelKeeper
