import TunnelKeeper.Database.Host
/-!
# Database files

The rows of a database as the content of a file: a mark, and behind it the rows as JSON text.
-/

namespace TunnelKeeper

namespace InterfaceRow

/-- A row as a table. -/
def toData (r : InterfaceRow) : Data :=
  .object [("identifier", .text r.key), ("display_name", .text r.displayName),
    ("data", .text r.data)]

/-- Reads a row from a document. -/
def decoder : Decoder InterfaceRow :=
  Fields.decoder
    (InterfaceRow.mk <$> .required "identifier" .text <*> .required "display_name" .text
      <*> .required "data" .text)
    "InterfaceRow" true

end InterfaceRow

namespace PeerRow

/-- A row as a table. -/
def toData (r : PeerRow) : Data :=
  .object [("identifier", .text r.key), ("interface_identifier", .text r.interfaceId),
    ("user_identifier", .text r.owner), ("display_name", .text r.displayName),
    ("data", .text r.data)]

/-- Reads a row from a document. -/
def decoder : Decoder PeerRow :=
  Fields.decoder
    (PeerRow.mk <$> .required "identifier" .text <*> .required "interface_identifier" .text
      <*> .required "user_identifier" .text <*> .required "display_name" .text
      <*> .required "data" .text)
    "PeerRow" true

end PeerRow

namespace Store

/-- The rows as a table. -/
def toData (s : Store) : Data :=
  .object [("interfaces", .list (s.interfaces.map InterfaceRow.toData)),
    ("peers", .list (s.peers.map PeerRow.toData))]

/-- Reads rows from a document. -/
def decoder : Decoder Store :=
  Fields.decoder
    (Store.mk <$> .required "interfaces" (.list InterfaceRow.decoder)
      <*> .required "peers" (.list PeerRow.decoder))
    "Store" true

/-- The content of the file that keeps some rows. -/
def toFile (s : Store) : List UInt8 :=
  Host.databaseMark ++ Text.encodeUtf8 (Json.write s.toData).toList

/-- The rows that a file keeps. -/
def ofFile? (content : List UInt8) : Option Store :=
  if Host.databaseMark.isPrefixOf content then
    match Text.ofUtf8? (content.drop Host.databaseMark.length) with
    | some s => (Json.decodeText decoder s).toOption
    | none => none
  else none

end Store

namespace Host

/-- The host with a directory at a path. -/
def withDirectory (h : Host) (path : String) : Host :=
  { h with files := (FileTree.makeAll (FilePath.turns [] (h.way path)) (h.locate path) h.files).2 }

/-- The host with a file at a path. The rows of a database are taken out of the file. -/
def withFile (h : Host) (path : String) (content : List UInt8) : Host :=
  let place := h.locate path
  let h := h.withDirectory (parentPath path)
  let files := match place.reverse with
    | [] => h.files
    | name :: above =>
      (FileTree.inDirectory (fun fault t => (.error fault, t))
        (FileTree.putFile ⟨[], name, .none⟩ content) above.reverse h.files).2
  match Store.ofFile? content with
  | some s => { h with files := files }.putStore place s
  | none => { h with files := files }

/-- The files of a host by their paths, with the rows of the databases in them. -/
def contents (h : Host) : List (String × List UInt8) :=
  (h.files.listing "/").filterMap fun (path, content) =>
    match content, h.storeAt? (FilePath.names path) with
    | some _, some s => some (path, s.toFile)
    | some bytes, none => some (path, bytes)
    | none, _ => none

/-- The files that are new or have another content than before. -/
def changes (before after : Host) : List (String × List UInt8) :=
  let old := before.contents
  after.contents.filter fun (path, content) => old.lookup path ≠ some content

end Host

end TunnelKeeper
