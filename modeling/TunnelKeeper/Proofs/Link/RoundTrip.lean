import TunnelKeeper.Proofs.Codec.Base64
import TunnelKeeper.Proofs.Frame
import TunnelKeeper.Proofs.Link.Parameters
import TunnelKeeper.Proofs.Obfuscation
import TunnelKeeper.Proofs.Text.Numeral

/-!
# Links read back

A link is built exactly for a peer of an obfuscated interface whose document fits a frame, and
what is decoded from it, with or without blank margins, is the document whatever the level
(`build_decode`). The document settles before anything is said about its fields
(`document_settles`): `Envelope` holds of its settled form.
-/

namespace TunnelKeeper

open Text Number

namespace Link

variable {p : Peer} {o : Obfuscation} {description config : String}

/-! ## Tables with parameters -/

/-- Entries behind the parameters. -/
theorem lookup_parameters_append (tail : List (String × Data)) {name : String}
    (h : name ∉ parameterNames) : (parameters o ++ tail).lookup name = tail.lookup name := by
  rw [List.lookup_append, lookup_parameters_eq_none o h, Option.none_or]

/-- Names of other entries do not hide parameters. -/
theorem nodup_parameters_append {tail : List (String × Data)}
    (h : (parameterNames ++ tail.map Prod.fst).Nodup) :
    ((parameters o ++ tail).map Prod.fst).Nodup := by
  refine List.Nodup.sublist ?_ h
  rw [List.map_append, parameters_eq]
  exact (given_texts_sublist _).append_right _

/-- A table of parameters and other entries settles: other entries are settled, and parameters
stay as they are. -/
theorem settle_parameters_append {depth : Nat} {tail : List (String × Data)}
    (hkeys : (parameterNames ++ tail.map Prod.fst).Nodup)
    (hsettle : ∀ e ∈ tail, ∃ d, Data.settle depth e.2 = .ok d) :
    ∃ result, Data.settle (depth + 1) (.object (parameters o ++ tail)) = .ok result ∧
      (∀ name ∈ parameterNames, result.field? name = (parameters o).lookup name) ∧
      ∀ name ∉ parameterNames,
        result.field? name = (tail.lookup name).bind (Data.settled? depth) := by
  -- Parameters are texts, which settle at any depth.
  have hentries : ∀ e ∈ parameters o ++ tail, ∃ d, Data.settle depth e.2 = .ok d := by
    intro e he
    rcases List.mem_append.mp he with he | he
    · rw [parameters_eq] at he
      obtain ⟨s, hs⟩ := given_texts_text _ e he
      exact ⟨_, hs ▸ Data.settle_text depth s⟩
    · exact hsettle e he
  obtain ⟨result, hresult, hfield⟩ :=
    Data.settle_object hentries (nodup_parameters_append hkeys)
  refine ⟨result, hresult, ?_, ?_⟩
  · intro name hname
    have hfresh : name ∉ tail.map Prod.fst := fun hmem =>
      (List.nodup_append.mp hkeys).2.2 name hname name hmem rfl
    rw [hfield, List.lookup_append, Data.lookup_eq_none hfresh, Option.or_none,
      lookup_parameters]
    cases (parameterTexts o).lookup name with
    | none => rfl
    | some value =>
        cases value with
        | none => rfl
        | some s => exact Data.settled_text depth s
  · intro name hname
    rw [hfield, lookup_parameters_append tail hname]

/-! ## The documents -/

/-- The fields of the inner document that are no parameters. -/
def innerFields (p : Peer) (config : String) : List (String × Data) :=
  [("allowed_ips", .texts (Listing.entriesOr p.allowedIps.value Listing.everywhere)),
    ("clientId", .text (clientPublicKey p)),
    ("client_ip", .text (clientAddress p)),
    ("client_priv_key", .text p.client.keyPair.privateKey),
    ("client_pub_key", .text (clientPublicKey p)),
    ("config", .text config),
    ("hostName", .text (Endpoint.parse p.endpoint.value).host),
    ("mtu", .text (orUsual p.client.mtu.value usualMtu)),
    ("persistent_keep_alive", .text (orUsual p.persistentKeepalive.value usualKeepalive)),
    ("port", .nat (Endpoint.parse p.endpoint.value).port.toNat),
    ("psk_key", .text (trim p.presharedKey)),
    ("server_pub_key", .text (trim p.serverPublicKey.value))]

theorem inner_document_eq (p : Peer) (o : Obfuscation) (config : String) :
    innerDocument p o config = .object (parameters o ++ innerFields p config) := rfl

/-- The fields of the container's settings that are no parameters. -/
def containerFields (p : Peer) (o : Obfuscation) (config : String) : List (String × Data) :=
  [("last_config", .text (Json.write (innerDocument p o config))),
    ("port", .text (decimal (Endpoint.parse p.endpoint.value).port.toNat)),
    ("transport_proto", .text transport)]

/-- The only container. -/
def onlyContainer (p : Peer) (o : Obfuscation) (config : String) : Data :=
  .object [("awg", .object (parameters o ++ containerFields p o config)),
    ("container", .text containerName)]

theorem document_eq (p : Peer) (o : Obfuscation) (description config : String) :
    document p o description config = .object
      [("containers", .list [onlyContainer p o config]),
        ("defaultContainer", .text containerName),
        ("description", .text description),
        ("dns1", .text (Listing.resolvers p.client.dns.value).1),
        ("dns2", .text (Listing.resolvers p.client.dns.value).2),
        ("hostName", .text (Endpoint.parse p.endpoint.value).host)] := rfl

/-- A table of parameters and other entries has JSON text if the other entries have. -/
theorem parameters_append_plain {tail : List (String × Data)} (h : ∀ e ∈ tail, e.2.Plain) :
    (Data.object (parameters o ++ tail)).Plain := by
  refine .object fun e he => ?_
  rcases List.mem_append.mp he with he | he
  · rw [parameters_eq] at he
    obtain ⟨s, hs⟩ := given_texts_text _ e he
    exact hs ▸ .text s
  · exact h e he

/-- The inner document has JSON text. -/
theorem inner_document_plain (p : Peer) (o : Obfuscation) (config : String) :
    (innerDocument p o config).Plain := by
  rw [inner_document_eq]
  refine parameters_append_plain fun e he => ?_
  have hport := (Endpoint.parse p.endpoint.value).port.toNat_lt
  simp only [innerFields, List.mem_cons, List.not_mem_nil, or_false] at he
  rcases he with rfl | rfl | rfl | rfl | rfl | rfl | rfl | rfl | rfl | rfl | rfl | rfl
  · refine .list fun d hd => ?_
    obtain ⟨s, -, rfl⟩ := List.mem_map.mp hd
    exact .text s
  all_goals first
    | exact .text _
    | exact .nat (by omega)

/-- The outer document has JSON text. -/
theorem document_plain (p : Peer) (o : Obfuscation) (description config : String) :
    (document p o description config).Plain := by
  have hawg : (Data.object (parameters o ++ containerFields p o config)).Plain := by
    refine parameters_append_plain fun e he => ?_
    simp only [containerFields, List.mem_cons, List.not_mem_nil, or_false] at he
    rcases he with rfl | rfl | rfl <;> exact .text _
  have hcontainer : (onlyContainer p o config).Plain := by
    refine .object fun e he => ?_
    simp only [List.mem_cons, List.not_mem_nil, or_false] at he
    rcases he with rfl | rfl
    · exact hawg
    · exact .text _
  rw [document_eq]
  refine .object fun e he => ?_
  simp only [List.mem_cons, List.not_mem_nil, or_false] at he
  rcases he with rfl | rfl | rfl | rfl | rfl | rfl
  · exact .list fun d hd => List.mem_singleton.mp hd ▸ hcontainer
  all_goals exact .text _

/-- What is decoded from a link: the texts that a client shows, and one container with two tables
of settings, the second of which is given as text within the first. -/
structure Envelope (p : Peer) (o : Obfuscation) (description config : String)
    (value awg inner : Data) : Prop where
  description : value.field? "description" = some (.text description)
  dns1 : value.field? "dns1" = some (.text (Listing.resolvers p.client.dns.value).1)
  dns2 : value.field? "dns2" = some (.text (Listing.resolvers p.client.dns.value).2)
  hostName : value.field? "hostName" = some (.text (Endpoint.parse p.endpoint.value).host)
  defaultContainer : value.field? "defaultContainer" = some (.text containerName)
  containers : ∃ container, value.field? "containers" = some (.list [container]) ∧
    container.field? "container" = some (.text containerName) ∧
    container.field? "awg" = some awg
  lastConfig : ∃ s, awg.field? "last_config" = some (.text s) ∧
    Json.readSettled s.toList = .ok inner
  transport : awg.field? "transport_proto" = some (.text transport)
  innerConfig : inner.field? "config" = some (.text config)
  innerHost : inner.field? "hostName" = value.field? "hostName"
  port : ∃ s n, awg.field? "port" = some (.text s) ∧ decimalBelow? (2 ^ 16) s.toList = some n ∧
    inner.field? "port" = some (.nat n) ∧ n = (Endpoint.parse p.endpoint.value).port.toNat
  same : ∀ name ∈ parameterNames, awg.field? name = inner.field? name
  shows : Shows o awg

/-- The inner document settles. -/
theorem inner_document_settles (p : Peer) (o : Obfuscation) (config : String) :
    ∃ inner, (innerDocument p o config).settle Data.depthLimit = .ok inner ∧
      (∀ name ∈ parameterNames, inner.field? name = (parameters o).lookup name) ∧
      inner.field? "allowed_ips" =
        some (.texts (Listing.entriesOr p.allowedIps.value Listing.everywhere)) ∧
      inner.field? "config" = some (.text config) ∧
      inner.field? "hostName" = some (.text (Endpoint.parse p.endpoint.value).host) ∧
      inner.field? "port" = some (.nat (Endpoint.parse p.endpoint.value).port.toNat) := by
  have hkeys : (parameterNames ++ (innerFields p config).map Prod.fst).Nodup := by
    show (parameterNames ++ ["allowed_ips", "clientId", "client_ip", "client_priv_key",
      "client_pub_key", "config", "hostName", "mtu", "persistent_keep_alive", "port", "psk_key",
      "server_pub_key"]).Nodup
    decide
  have hsettle : ∀ e ∈ innerFields p config, ∃ d, Data.settle 126 e.2 = .ok d := by
    intro e he
    simp only [innerFields, List.mem_cons, List.not_mem_nil, or_false] at he
    rcases he with rfl | rfl | rfl | rfl | rfl | rfl | rfl | rfl | rfl | rfl | rfl | rfl
    · exact ⟨_, Data.settle_texts 125 _⟩
    all_goals first
      | exact ⟨_, Data.settle_text 126 _⟩
      | exact ⟨_, Data.settle_nat 126 _⟩
  obtain ⟨inner, hinner, hparameters, hothers⟩ := settle_parameters_append (o := o) hkeys hsettle
  refine ⟨inner, hinner, hparameters, ?_, ?_, ?_, ?_⟩
  · rw [hothers _ (by decide), innerFields, List.lookup_cons_self, Option.bind_some]
    exact Data.settled_of_settle (Data.settle_texts 125 _)
  · rw [hothers _ (by decide)]
    simp [innerFields, List.lookup_cons]
  · rw [hothers _ (by decide)]
    simp [innerFields, List.lookup_cons]
  · rw [hothers _ (by decide)]
    simp [innerFields, List.lookup_cons]

/-- The settings of the container settle. -/
theorem container_fields_settle (p : Peer) (o : Obfuscation) (config : String) :
    ∃ awg, Data.settle 124 (.object (parameters o ++ containerFields p o config)) = .ok awg ∧
      (∀ name ∈ parameterNames, awg.field? name = (parameters o).lookup name) ∧
      awg.field? "last_config" = some (.text (Json.write (innerDocument p o config))) ∧
      awg.field? "port" =
        some (.text (decimal (Endpoint.parse p.endpoint.value).port.toNat)) ∧
      awg.field? "transport_proto" = some (.text transport) := by
  have hkeys : (parameterNames ++ (containerFields p o config).map Prod.fst).Nodup := by
    show (parameterNames ++ ["last_config", "port", "transport_proto"]).Nodup
    decide
  have hsettle : ∀ e ∈ containerFields p o config, ∃ d, Data.settle 123 e.2 = .ok d := by
    intro e he
    simp only [containerFields, List.mem_cons, List.not_mem_nil, or_false] at he
    rcases he with rfl | rfl | rfl <;> exact ⟨_, Data.settle_text 123 _⟩
  obtain ⟨awg, hawg, hparameters, hothers⟩ := settle_parameters_append (o := o) hkeys hsettle
  refine ⟨awg, hawg, hparameters, ?_, ?_, ?_⟩
  · rw [hothers _ (by decide)]
    simp [containerFields]
  · rw [hothers _ (by decide)]
    simp [containerFields, List.lookup_cons]
  · rw [hothers _ (by decide)]
    simp [containerFields, List.lookup_cons]

/-- The only container settles if its settings do. -/
theorem only_container_settles {awg : Data}
    (hawg : Data.settle 124 (.object (parameters o ++ containerFields p o config)) = .ok awg) :
    ∃ container, Data.settle 125 (onlyContainer p o config) = .ok container ∧
      container.field? "container" = some (.text containerName) ∧
      container.field? "awg" = some awg := by
  have hsettle : ∀ e ∈ [("awg", Data.object (parameters o ++ containerFields p o config)),
      ("container", .text containerName)], ∃ d, Data.settle 124 e.2 = .ok d := by
    intro e he
    simp only [List.mem_cons, List.not_mem_nil, or_false] at he
    rcases he with rfl | rfl
    · exact ⟨_, hawg⟩
    · exact ⟨_, Data.settle_text 124 _⟩
  obtain ⟨container, hcontainer, hfield⟩ :=
    Data.settle_object hsettle (show ["awg", "container"].Nodup by decide)
  refine ⟨container, hcontainer, ?_, ?_⟩
  · rw [hfield]
    simp [List.lookup_cons]
  · rw [hfield, List.lookup_cons_self, Option.bind_some]
    exact Data.settled_of_settle hawg

/-- The outer document settles if its container does. -/
theorem outer_fields_settle {container : Data} (description : String)
    (hcontainer : Data.settle 125 (onlyContainer p o config) = .ok container) :
    ∃ value, (document p o description config).settle Data.depthLimit = .ok value ∧
      value.field? "containers" = some (.list [container]) ∧
      ∀ e ∈ [("defaultContainer", containerName), ("description", description),
          ("dns1", (Listing.resolvers p.client.dns.value).1),
          ("dns2", (Listing.resolvers p.client.dns.value).2),
          ("hostName", (Endpoint.parse p.endpoint.value).host)],
        value.field? e.1 = some (.text e.2) := by
  have hcontainers := Data.settle_singleton hcontainer
  have hsettle : ∀ e ∈ [("containers", Data.list [onlyContainer p o config]),
      ("defaultContainer", .text containerName), ("description", .text description),
      ("dns1", .text (Listing.resolvers p.client.dns.value).1),
      ("dns2", .text (Listing.resolvers p.client.dns.value).2),
      ("hostName", .text (Endpoint.parse p.endpoint.value).host)],
      ∃ d, Data.settle 126 e.2 = .ok d := by
    intro e he
    simp only [List.mem_cons, List.not_mem_nil, or_false] at he
    rcases he with rfl | rfl | rfl | rfl | rfl | rfl
    · exact ⟨_, hcontainers⟩
    all_goals exact ⟨_, Data.settle_text 126 _⟩
  obtain ⟨value, hvalue, hfield⟩ := Data.settle_object hsettle
    (show ["containers", "defaultContainer", "description", "dns1", "dns2", "hostName"].Nodup by
      decide)
  refine ⟨value, hvalue, ?_, ?_⟩
  · rw [hfield, List.lookup_cons_self, Option.bind_some]
    exact Data.settled_of_settle hcontainers
  · intro e he
    simp only [List.mem_cons, List.not_mem_nil, or_false] at he
    rw [hfield]
    rcases he with rfl | rfl | rfl | rfl | rfl <;> simp [List.lookup_cons]

/-- The outer document settles to an envelope, in which the networks of the peer are listed. -/
theorem document_settles_with_networks (p : Peer) (o : Obfuscation) (description config : String) :
    ∃ value awg inner, (document p o description config).settle Data.depthLimit = .ok value ∧
      Envelope p o description config value awg inner ∧
      inner.field? "allowed_ips" =
        some (.texts (Listing.entriesOr p.allowedIps.value Listing.everywhere)) := by
  obtain ⟨inner, hinner, hinnerParameters, hnetworks, hconfig, hinnerHost, hinnerPort⟩ :=
    inner_document_settles p o config
  obtain ⟨awg, hawg, hparameters, hlast, hport, htransport⟩ := container_fields_settle p o config
  obtain ⟨container, hcontainer, hname, hsettings⟩ := only_container_settles hawg
  obtain ⟨value, hvalue, hcontainers, htexts⟩ := outer_fields_settle description hcontainer
  simp only [List.forall_mem_cons] at htexts
  obtain ⟨hdefault, hdescription, hfirst, hsecond, hhost, -⟩ := htexts
  refine ⟨value, awg, inner, hvalue, ?_, hnetworks⟩
  exact
    { description := hdescription
      dns1 := hfirst
      dns2 := hsecond
      hostName := hhost
      defaultContainer := hdefault
      containers := ⟨container, hcontainers, hname, hsettings⟩
      lastConfig := by
        -- The inner document is a text of the outer one and is read on its own.
        refine ⟨_, hlast, ?_⟩
        rw [Json.write, String.toList_ofList,
          Json.read_settled_write (inner_document_plain p o config)]
        exact hinner
      transport := htransport
      innerConfig := hconfig
      innerHost := hinnerHost.trans hhost.symm
      port := by
        refine ⟨_, _, hport, ?_, hinnerPort, rfl⟩
        rw [decimal, String.toList_ofList]
        exact decimal_below_decimal_chars (Endpoint.parse p.endpoint.value).port.toNat_lt
      same := fun name hname => (hparameters name hname).trans (hinnerParameters name hname).symm
      shows := shows_of_values hparameters }

theorem document_settles (p : Peer) (o : Obfuscation) (description config : String) :
    ∃ value awg inner, (document p o description config).settle Data.depthLimit = .ok value ∧
      Envelope p o description config value awg inner := by
  obtain ⟨value, awg, inner, hvalue, henvelope, -⟩ :=
    document_settles_with_networks p o description config
  exact ⟨value, awg, inner, hvalue, henvelope⟩

/-! ## Links -/

/-- What a link needs: the peer, its own interface with a block that is not empty, and a document
whose length fits a frame. -/
def Linkable (peer : Option Peer) (i : Interface) (description config : String) : Prop :=
  ∃ p o, peer = some p ∧ p.interfaceId = i.identifier ∧ i.obfuscation = some o ∧
    o.isEmpty = false ∧
    (encodeUtf8 (Json.writeValue (document p o description config))).length < 2 ^ 32

/-- A link: the scheme, and letters, digits, hyphens and underscores. -/
def IsLink (link : String) : Prop :=
  ∃ body : String, link = scheme ++ body ∧ ∀ c ∈ body.toList, c.isAlphanum ∨ c = '-' ∨ c = '_'

/-- A link is built from a peer of an obfuscated interface and a frame of its document. -/
theorem build_eq_ok_iff (peer : Option Peer) (i : Interface) (description config : String)
    (level : Nat) (link : String) :
    build peer i description config level = .ok link ↔
      ∃ p o frame, peer = some p ∧ p.interfaceId = i.identifier ∧ i.obfuscation = some o ∧
        o.isEmpty = false ∧
        Frame.encode (encodeUtf8 (Json.writeValue (document p o description config))) level =
          .ok frame ∧ link = scheme ++ Base64.encode .urlSafe frame := by
  constructor
  · intro h
    cases peer with
    | none => exact nomatch h
    | some p =>
        rw [build] at h
        split at h
        · exact nomatch h
        · next hinterface =>
            cases hblock : Interface.presentBlock i.obfuscation with
            | none =>
                rw [hblock] at h
                exact nomatch h
            | some o =>
                rw [hblock] at h
                obtain ⟨hobfuscation, hempty⟩ := Obfuscation.present_block_eq_some_iff.mp hblock
                simp only [ofDocument] at h
                cases hframe : Frame.encode
                    (encodeUtf8 (Json.writeValue (document p o description config))) level with
                | error fault =>
                    rw [hframe] at h
                    exact nomatch h
                | ok frame =>
                    rw [hframe] at h
                    exact ⟨p, o, frame, rfl, Decidable.not_not.mp hinterface, hobfuscation, hempty,
                      hframe, (Except.ok.inj h).symm⟩
  · rintro ⟨p, o, frame, rfl, hinterface, hobfuscation, hempty, hframe, rfl⟩
    have hblock := Obfuscation.present_block_eq_some_iff.mpr ⟨hobfuscation, hempty⟩
    rw [build, if_neg (not_not_intro hinterface), hblock]
    simp only [ofDocument, hframe]
    rfl

/-- A link can be built at every level exactly for what a link needs. -/
theorem build_succeeds_iff (peer : Option Peer) (i : Interface) (description config : String)
    (level : Nat) :
    (∃ link, build peer i description config level = .ok link) ↔
      Linkable peer i description config := by
  constructor
  · rintro ⟨link, h⟩
    obtain ⟨p, o, frame, hpeer, hinterface, hobfuscation, hempty, hframe, -⟩ :=
      (build_eq_ok_iff ..).mp h
    exact ⟨p, o, hpeer, hinterface, hobfuscation, hempty,
      (Frame.encode_eq_ok_iff _ level).mp ⟨frame, hframe⟩⟩
  · rintro ⟨p, o, hpeer, hinterface, hobfuscation, hempty, hlength⟩
    obtain ⟨frame, hframe⟩ := (Frame.encode_eq_ok_iff _ level).mpr hlength
    exact ⟨_, (build_eq_ok_iff ..).mpr
      ⟨p, o, frame, hpeer, hinterface, hobfuscation, hempty, hframe, rfl⟩⟩

/-- No character of a link is blank. -/
theorem link_not_blank (frame : List UInt8) :
    ∀ c ∈ (scheme ++ Base64.encode .urlSafe frame).toList, isBlank c = false := by
  intro c hc
  rw [String.toList_append, List.mem_append] at hc
  rcases hc with hc | hc
  · have hchars : scheme.toList.all (fun c => !isBlank c) = true := by decide
    have hscheme : ∀ c ∈ scheme.toList, isBlank c = false := by simpa using hchars
    exact hscheme c hc
  · exact Base64.encode_not_blank (by decide) frame c hc

/-- The bytes in a frame are found in its link, also between blank margins. -/
theorem payload_link {bytes frame : List UInt8} {level : Nat} {before after : String}
    (hframe : Frame.encode bytes level = .ok frame) (hbefore : isBlankText before = true)
    (hafter : isBlankText after = true) :
    payload (before ++ (scheme ++ Base64.encode .urlSafe frame) ++ after) = .ok bytes := by
  rw [payload, trim_margins hbefore (link_not_blank frame) hafter, strip_leading_append]
  simp only [Base64.decode_encode Base64.Dialect.lawful_url_safe]
  show (Frame.decode frame).mapError _ = _
  rw [Frame.decode_encode hframe]
  rfl

/-- The document is decoded from a link of its frame. -/
theorem decode_link {d value : Data} {frame : List UInt8} {level : Nat} {before after : String}
    (hplain : d.Plain) (hsettle : d.settle Data.depthLimit = .ok value)
    (hframe : Frame.encode (encodeUtf8 (Json.writeValue d)) level = .ok frame)
    (hbefore : isBlankText before = true) (hafter : isBlankText after = true) :
    decode (before ++ (scheme ++ Base64.encode .urlSafe frame) ++ after) = .ok value := by
  rw [decode, payload_link hframe hbefore hafter]
  show (Json.readBytes (encodeUtf8 (Json.writeValue d))).mapError _ = _
  rw [Json.read_bytes_write hplain, hsettle]
  rfl

/-- Links are built at every level for the same peers and interfaces, and there is one value that
every link is decoded to, whatever its level and its blank margins: an envelope of the peer and of
the block of its interface. -/
theorem build_decode (peer : Option Peer) (i : Interface) (description config : String) :
    (∀ level, (∃ link, build peer i description config level = .ok link) ↔
      Linkable peer i description config) ∧
    ∃ value, ∀ level link, build peer i description config level = .ok link →
      IsLink link ∧
      (∀ before after, isBlankText before = true → isBlankText after = true →
        decode (before ++ link ++ after) = .ok value) ∧
      ∃ p o awg inner, peer = some p ∧ i.obfuscation = some o ∧
        Envelope p o description config value awg inner := by
  refine ⟨build_succeeds_iff peer i description config, ?_⟩
  by_cases hlinkable : Linkable peer i description config
  · obtain ⟨p, o, rfl, -, hblock, -, -⟩ := hlinkable
    obtain ⟨value, awg, inner, hsettle, henvelope⟩ := document_settles p o description config
    refine ⟨value, fun level link hlink => ?_⟩
    obtain ⟨p', o', frame, hpeer, -, hobfuscation, -, hframe, rfl⟩ :=
      (build_eq_ok_iff ..).mp hlink
    obtain rfl := Option.some.inj hpeer
    obtain rfl := Option.some.inj (hblock.symm.trans hobfuscation)
    refine ⟨⟨_, rfl, ?_⟩, ?_, p, o, awg, inner, rfl, hblock, henvelope⟩
    · intro c hc
      rw [Base64.encode, String.toList_ofList] at hc
      exact Base64.encode_chars_url_safe frame c hc
    · intro before after hbefore hafter
      exact decode_link (document_plain p o description config) hsettle hframe hbefore hafter
  · refine ⟨.null, fun level link hlink => ?_⟩
    exact absurd ((build_succeeds_iff ..).mp ⟨link, hlink⟩) hlinkable

/-- A link that shows a description and carries a configuration: the document in it has the
description, and the configuration stands in the settings of its only container. -/
def Carries (link description config : String) : Prop :=
  ∃ value container awg last inner, decode link = .ok value ∧
    value.field? "description" = some (.text description) ∧
    value.field? "containers" = some (.list [container]) ∧
    container.field? "awg" = some awg ∧ awg.field? "last_config" = some (.text last) ∧
    Json.readSettled last.toList = .ok inner ∧ inner.field? "config" = some (.text config)

/-- An envelope is decoded from a link, of the peer and the block that it was built with, in which
the networks of the peer are listed. -/
theorem networks_of_build {peer : Option Peer} {i : Interface} {level : Nat} {link : String}
    (h : build peer i description config level = .ok link) :
    ∃ p o value awg inner, peer = some p ∧ i.obfuscation = some o ∧ decode link = .ok value ∧
      Envelope p o description config value awg inner ∧
      inner.field? "allowed_ips" =
        some (.texts (Listing.entriesOr p.allowedIps.value Listing.everywhere)) := by
  obtain ⟨p, o, frame, hpeer, -, hblock, -, hframe, rfl⟩ := (build_eq_ok_iff ..).mp h
  obtain ⟨value, awg, inner, hsettle, henvelope, hnetworks⟩ :=
    document_settles_with_networks p o description config
  have hdecode : decode ("" ++ (scheme ++ Base64.encode .urlSafe frame) ++ "") = .ok value :=
    decode_link (document_plain p o description config) hsettle hframe rfl rfl
  rw [String.empty_append, String.append_empty] at hdecode
  exact ⟨p, o, value, awg, inner, hpeer, hblock, hdecode, henvelope, hnetworks⟩

theorem envelope_of_build {peer : Option Peer} {i : Interface} {level : Nat} {link : String}
    (h : build peer i description config level = .ok link) :
    ∃ p o value awg inner, peer = some p ∧ i.obfuscation = some o ∧ decode link = .ok value ∧
      Envelope p o description config value awg inner := by
  obtain ⟨p, o, value, awg, inner, hpeer, hblock, hdecode, henvelope, -⟩ := networks_of_build h
  exact ⟨p, o, value, awg, inner, hpeer, hblock, hdecode, henvelope⟩

/-- A link carries what it was built with. -/
theorem carries_of_build {peer : Option Peer} {i : Interface} {level : Nat} {link : String}
    (h : build peer i description config level = .ok link) : Carries link description config := by
  obtain ⟨p, o, value, awg, inner, -, -, hdecode, henvelope⟩ := envelope_of_build h
  obtain ⟨container, hcontainers, -, hawg⟩ := henvelope.containers
  obtain ⟨last, hlast, hread⟩ := henvelope.lastConfig
  exact ⟨value, container, awg, last, inner, hdecode, henvelope.description, hcontainers, hawg,
    hlast, hread, henvelope.innerConfig⟩

end Link

end TunnelKeeper
