import TunnelKeeper.Proofs.Data.TomlDocument
import TunnelKeeper.Proofs.Interface
import TunnelKeeper.Proofs.Settings.Document

/-!
# Settings read back

Every section is read back from its table, and so are all settings (`Settings.undoes`). Settings
that create no interfaces are also read back from a text (`Settings.parse_write`), so every value
of a setting can stand in a file.
-/

namespace TunnelKeeper

theorem long_word_undoes :
    (Decoder.map UInt64.ofNat (.natural 64)).Undoes fun n => .nat n.toNat where
  plain := fun n => .nat n.toNat_lt
  read := fun origin n => (Decoder.long_word_exact origin _ n).mpr rfl

/-! ## Sections -/

theorem CoreSettings.undoes : decoder.Undoes toData := by
  refine Fields.undoes_of_reads (fun origin s => ⟨_, (Fields.Reads.pure CoreSettings.mk)
    |>.given Decoder.text_undoes s.wireguardMode (by decide), ?_⟩) _ _
  simp only [toData, List.nil_append]

theorem AdvancedSettings.undoes : decoder.Undoes toData := by
  refine Fields.undoes_of_reads (fun origin s => ⟨_, (Fields.Reads.pure AdvancedSettings.mk)
    |>.given Decoder.text_undoes s.logLevel (by decide)
    |>.given size_undoes s.startListenPort (by decide)
    |>.given Decoder.text_undoes s.startCidrV4 (by decide)
    |>.given Decoder.text_undoes s.startCidrV6 (by decide)
    |>.given Decoder.bool_undoes s.useIpV6 (by decide)
    |>.given Decoder.text_undoes s.storagePath (by decide), ?_⟩) _ _
  simp only [toData, List.nil_append, List.cons_append]

theorem DatabaseSettings.undoes : decoder.Undoes toData := by
  refine Fields.undoes_of_reads (fun origin s => ⟨_, (Fields.Reads.pure DatabaseSettings.mk)
    |>.given Decoder.text_undoes s.url (by decide)
    |>.given word_undoes s.maxConnections (by decide)
    |>.given long_word_undoes s.connectTimeout (by decide)
    |>.given long_word_undoes s.acquireTimeout (by decide)
    |>.given long_word_undoes s.idleTimeout (by decide)
    |>.given long_word_undoes s.maxLifetime (by decide), ?_⟩) _ _
  simp only [toData, List.nil_append, List.cons_append]

theorem LinkSettings.undoes : decoder.Undoes toData := by
  refine Fields.undoes_of_reads (fun origin s => ⟨_, (Fields.Reads.pure LinkSettings.mk)
    |>.given word_undoes s.compressionLevel (by decide), ?_⟩) _ _
  simp only [toData, List.nil_append]

/-! ## Entries -/

namespace Entry

theorem flag_undoes : (Decoder.option Decoder.bool).Undoes (Data.orNull .bool) :=
  Decoder.bool_undoes.option fun _ h => nomatch h

/-- An entry is read back. -/
theorem undoes : decoder.Undoes toData := by
  refine Fields.undoes_of_reads (fun origin e => ⟨_, (Fields.Reads.pure Entry.mk)
    |>.given Decoder.text_undoes e.identifier (by decide)
    |>.given Decoder.text_undoes e.displayName (by decide)
    |>.given Decoder.text_undoes e.mode (by decide)
    |>.given flag_undoes e.enabled (by decide)
    |>.given Decoder.text_undoes e.privateKey (by decide)
    |>.given size_undoes e.listenPort (by decide)
    |>.given texts_undoes e.addresses (by decide)
    |>.given texts_undoes e.dns (by decide)
    |>.given texts_undoes e.dnsSearch (by decide)
    |>.given word_undoes e.mtu (by decide)
    |>.given word_undoes e.firewallMark (by decide)
    |>.given Decoder.text_undoes e.routingTable (by decide)
    |>.given Decoder.text_undoes e.preUp (by decide)
    |>.given Decoder.text_undoes e.postUp (by decide)
    |>.given Decoder.text_undoes e.preDown (by decide)
    |>.given Decoder.text_undoes e.postDown (by decide)
    |>.given flag_undoes e.saveConfig (by decide)
    |>.given Decoder.text_undoes e.notes (by decide)
    |>.given texts_undoes e.peerNetwork (by decide)
    |>.given texts_undoes e.peerDns (by decide)
    |>.given texts_undoes e.peerDnsSearch (by decide)
    |>.given Decoder.text_undoes e.peerEndpoint (by decide)
    |>.given texts_undoes e.peerAllowedIps (by decide)
    |>.given word_undoes e.peerMtu (by decide)
    |>.given word_undoes e.peerKeepalive (by decide)
    |>.given word_undoes e.peerFirewallMark (by decide)
    |>.given Decoder.text_undoes e.peerRoutingTable (by decide)
    |>.given Decoder.text_undoes e.peerPreUp (by decide)
    |>.given Decoder.text_undoes e.peerPostUp (by decide)
    |>.given Decoder.text_undoes e.peerPreDown (by decide)
    |>.given Decoder.text_undoes e.peerPostDown (by decide)
    |>.given Interface.block_undoes e.obfuscation (by decide), ?_⟩) _ _
  simp only [toData, List.nil_append, List.cons_append]
  -- What is left out of an entry is written as nothing, in whichever words.
  cases e.enabled <;> cases e.saveConfig <;> cases e.obfuscation <;> rfl

/-- The section of interfaces to create as a table. -/
def sectionData (entries : List Entry) : Data :=
  .object [("interfaces", .list (entries.map toData))]

theorem section_undoes : sectionDecoder.Undoes sectionData := by
  refine Fields.undoes_of_reads (fun origin entries => ⟨_, .only undoes.list entries, ?_⟩) _ _
  rfl

end Entry

/-! ## All settings -/

namespace Settings

/-- Settings are read back. -/
theorem undoes : decoder.Undoes toData := by
  refine Fields.undoes_of_reads (fun origin s => ⟨_, (Fields.Reads.pure Settings.mk)
    |>.given CoreSettings.undoes s.core (by decide)
    |>.given AdvancedSettings.undoes s.advanced (by decide)
    |>.given DatabaseSettings.undoes s.database (by decide)
    |>.given LinkSettings.undoes s.link (by decide)
    |>.given Entry.section_undoes s.provisioning (by decide), ?_⟩) _ _
  simp only [toData, Entry.sectionData, List.nil_append, List.cons_append]

/-- Settings are read from every text whose document has them. -/
theorem parse_of_to_data {text : String} {s : Settings}
    (h : Toml.readDocument text = .ok s.toData) : parse text = .ok s := by
  rw [parse, Toml.decodeText, h]
  exact congrArg (Except.mapError _) (undoes.read .toml s)

/-- The sections as tables of a document, but for the entries. -/
def tables (s : Settings) : List (String × List (String × Toml.Scalar)) :=
  [("core", [("wireguard_mode", .text s.core.wireguardMode)]),
    ("advanced",
      [("log_level", .text s.advanced.logLevel),
        ("start_listen_port", .number s.advanced.startListenPort.toNat),
        ("start_cidr_v4", .text s.advanced.startCidrV4),
        ("start_cidr_v6", .text s.advanced.startCidrV6),
        ("use_ip_v6", .truth s.advanced.useIpV6),
        ("config_storage_path", .text s.advanced.storagePath)]),
    ("database",
      [("url", .text s.database.url), ("max_connections", .number s.database.maxConnections.toNat),
        ("connect_timeout", .number s.database.connectTimeout.toNat),
        ("acquire_timeout", .number s.database.acquireTimeout.toNat),
        ("idle_timeout", .number s.database.idleTimeout.toNat),
        ("max_lifetime", .number s.database.maxLifetime.toNat)]),
    ("link", [("compression_level", .number s.link.compressionLevel.toNat)])]

/-- The times of a document have 63 bits. -/
def TimesFit (s : Settings) : Prop :=
  ∀ t ∈ DatabaseSettings.times, (t.2 s.database).toNat < 0x8000000000000000

theorem tables_writable {s : Settings} (h : s.TimesFit) : Toml.Writable s.tables := by
  have hword : ∀ n : UInt32, n.toNat < 0x8000000000000000 :=
    fun n => Nat.lt_of_lt_of_le n.toNat_lt (by decide)
  have hsize : ∀ n : UInt16, n.toNat < 0x8000000000000000 :=
    fun n => Nat.lt_of_lt_of_le n.toNat_lt (by decide)
  simp only [TimesFit, DatabaseSettings.times, List.forall_mem_cons, List.not_mem_nil,
    false_implies, implies_true, and_true] at h
  obtain ⟨hconnect, hacquire, hidle, hlifetime⟩ := h
  constructor <;> simp only [tables, List.map_cons, List.map_nil, List.forall_mem_cons,
    List.not_mem_nil, false_implies, implies_true, and_true]
  case values =>
    simp only [Toml.Scalar.Fits, true_and, and_true]
    exact ⟨hsize _, ⟨hword _, hconnect, hacquire, hidle, hlifetime⟩, hword _⟩
  all_goals decide

/-- Settings without entries are decoded from their sections. -/
theorem decoder_tables {s : Settings} (h : s.provisioning = []) :
    decoder .toml (Toml.treeOf s.tables) = .ok s := by
  obtain ⟨core, advanced, database, link, provisioning⟩ := s
  obtain rfl := h
  exact Fields.Reads.decoder_object ((Fields.Reads.pure Settings.mk)
    |>.given CoreSettings.undoes core (by decide)
    |>.given AdvancedSettings.undoes advanced (by decide)
    |>.given DatabaseSettings.undoes database (by decide)
    |>.given LinkSettings.undoes link (by decide)
    |>.left_out (by decide)) _ _

/-- Settings without entries are read back from a text. -/
theorem parse_write {s : Settings} (h : s.provisioning = []) (htimes : s.TimesFit) :
    parse (Toml.write s.tables) = .ok s := by
  rw [parse, Toml.decodeText, Toml.read_document_write (tables_writable htimes)]
  exact congrArg (Except.mapError _) (decoder_tables h)

end Settings

end TunnelKeeper
