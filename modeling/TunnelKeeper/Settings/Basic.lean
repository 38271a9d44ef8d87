import TunnelKeeper.Provisioning.Entry
/-!
# Settings

What an operator can set, section by section, with the values that hold where nothing is set.
-/

namespace TunnelKeeper

/-- The general section. -/
structure CoreSettings where
  wireguardMode : String
  deriving DecidableEq, Repr

/-- The section for logs, for what new interfaces are given, and for exported files. -/
structure AdvancedSettings where
  logLevel : String
  startListenPort : UInt16
  startCidrV4 : String
  startCidrV6 : String
  useIpV6 : Bool
  storagePath : String
  deriving DecidableEq, Repr

/-- The section for the database. -/
structure DatabaseSettings where
  url : String
  maxConnections : UInt32
  connectTimeout : UInt64
  acquireTimeout : UInt64
  idleTimeout : UInt64
  maxLifetime : UInt64
  deriving DecidableEq, Repr

/-- The section for import links. -/
structure LinkSettings where
  compressionLevel : UInt32
  deriving DecidableEq, Repr

/-- All settings. -/
structure Settings where
  core : CoreSettings
  advanced : AdvancedSettings
  database : DatabaseSettings
  link : LinkSettings
  provisioning : List Entry
  deriving DecidableEq, Repr

/-- A number of 64 bits in a document. -/
private def longWord : Decoder UInt64 := .map UInt64.ofNat (.natural 64)

namespace CoreSettings

/-- No interface is managed unless a mode is set. -/
def usual : CoreSettings := ⟨"disabled"⟩

/-- Reads the section from a document. -/
def decoder : Decoder CoreSettings :=
  Fields.decoder (CoreSettings.mk <$> .withDefault "wireguard_mode" .text usual.wireguardMode)
    "CoreConfig" false

/-- The section as a table. -/
def toData (s : CoreSettings) : Data := .object [("wireguard_mode", .text s.wireguardMode)]

end CoreSettings

namespace AdvancedSettings

/-- Where new interfaces begin unless set otherwise. -/
def usual : AdvancedSettings :=
  ⟨"info", 51820, "10.11.12.0/24", "fdfd:d3ad:c0de:1234::0/64", true, ""⟩

/-- Reads the section from a document. -/
def decoder : Decoder AdvancedSettings :=
  Fields.decoder
    (AdvancedSettings.mk
      <$> .withDefault "log_level" .text usual.logLevel
      <*> .withDefault "start_listen_port" Obfuscation.sizeField usual.startListenPort
      <*> .withDefault "start_cidr_v4" .text usual.startCidrV4
      <*> .withDefault "start_cidr_v6" .text usual.startCidrV6
      <*> .withDefault "use_ip_v6" .bool usual.useIpV6
      <*> .withDefault "config_storage_path" .text usual.storagePath)
    "AdvancedConfig" false

/-- The section as a table. -/
def toData (s : AdvancedSettings) : Data :=
  .object [("log_level", .text s.logLevel), ("start_listen_port", .nat s.startListenPort.toNat),
    ("start_cidr_v4", .text s.startCidrV4), ("start_cidr_v6", .text s.startCidrV6),
    ("use_ip_v6", .bool s.useIpV6), ("config_storage_path", .text s.storagePath)]

end AdvancedSettings

namespace DatabaseSettings

/-- A database file in the working directory. -/
def usual : DatabaseSettings := ⟨"sqlite://awgman.db", 10, 30, 30, 600, 3600⟩

/-- Reads the section from a document. -/
def decoder : Decoder DatabaseSettings :=
  Fields.decoder
    (DatabaseSettings.mk
      <$> .withDefault "url" .text usual.url
      <*> .withDefault "max_connections" .word usual.maxConnections
      <*> .withDefault "connect_timeout" longWord usual.connectTimeout
      <*> .withDefault "acquire_timeout" longWord usual.acquireTimeout
      <*> .withDefault "idle_timeout" longWord usual.idleTimeout
      <*> .withDefault "max_lifetime" longWord usual.maxLifetime)
    "DatabaseConfig" false

/-- The section as a table. -/
def toData (s : DatabaseSettings) : Data :=
  .object [("url", .text s.url), ("max_connections", .word s.maxConnections),
    ("connect_timeout", .nat s.connectTimeout.toNat),
    ("acquire_timeout", .nat s.acquireTimeout.toNat), ("idle_timeout", .nat s.idleTimeout.toNat),
    ("max_lifetime", .nat s.maxLifetime.toNat)]

end DatabaseSettings

namespace LinkSettings

/-- The level of import links unless set otherwise. -/
def usual : LinkSettings := ⟨8⟩

/-- Reads the section from a document. -/
def decoder : Decoder LinkSettings :=
  Fields.decoder
    (LinkSettings.mk <$> .withDefault "compression_level" .word usual.compressionLevel)
    "LinkConfig" false

/-- The section as a table. -/
def toData (s : LinkSettings) : Data := .object [("compression_level", .word s.compressionLevel)]

end LinkSettings

/-- Reads the section of interfaces to create from a document. -/
def Entry.sectionDecoder : Decoder (List Entry) :=
  Fields.decoder (.withDefault "interfaces" (.list Entry.decoder) []) "ProvisioningConfig" false

namespace Settings

/-- The settings where nothing is set. -/
def usual : Settings := ⟨.usual, .usual, .usual, .usual, []⟩

/-- Reads settings from a document. -/
def decoder : Decoder Settings :=
  Fields.decoder
    (Settings.mk
      <$> .withDefault "core" CoreSettings.decoder .usual
      <*> .withDefault "advanced" AdvancedSettings.decoder .usual
      <*> .withDefault "database" DatabaseSettings.decoder .usual
      <*> .withDefault "link" LinkSettings.decoder .usual
      <*> .withDefault "provisioning" Entry.sectionDecoder [])
    "AppConfig" false

/-- Settings as a table. -/
def toData (s : Settings) : Data :=
  .object [("core", s.core.toData), ("advanced", s.advanced.toData),
    ("database", s.database.toData), ("link", s.link.toData),
    ("provisioning", .object [("interfaces", .list (s.provisioning.map Entry.toData))])]

end Settings

end TunnelKeeper
