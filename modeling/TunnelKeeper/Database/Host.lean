import TunnelKeeper.Database.Target
import TunnelKeeper.Files.Tree
import TunnelKeeper.Store
/-!
# Databases on a host

A host has files, and some of them are databases. Before a connection is made, the file that its
URL seems to name is created, so that a new installation needs no preparation. The tables are
created afterwards, if they are missing.
-/

namespace TunnelKeeper

/-- A host: its files, where relative paths begin, and the rows of the databases by their
places. -/
structure Host where
  files : FileTree
  workingDirectory : List String
  stores : List (List String × Store)

/-- A connection: the place of the database, unless it is in memory, and whether nothing can be
written. -/
structure Connection where
  place : Option (List String)
  readOnly : Bool
  deriving DecidableEq, Repr

namespace Host

/-- What a database file begins with. -/
def databaseMark : List UInt8 := Text.encodeUtf8 "tunnel keeper rows\n".toList

/-- The names on the way along a path, which may go up. -/
def way (h : Host) (path : String) : List String :=
  if path.toList.head? = some '/' then FilePath.names path
  else h.workingDirectory ++ FilePath.names path

/-- Where a path leads. -/
def locate (h : Host) (path : String) : List String := FilePath.settle (h.way path)

/-- Reads the file of a path. Only a directory can be left by going up. -/
def read (h : Host) (path : String) : Except FileFault (List UInt8) :=
  let way := h.way path
  if path = "" then .error .missing
  else if way.any FileTree.isUnspeakable then .error .nulInName
  else
    match (FilePath.turns [] way).findSome? fun place => h.files.leaveFault? place with
    | some fault => .error fault
    | none => h.files.read (FilePath.endingOf (FilePath.pieces path).reverse) (h.locate path)

/-- Whether there is something at the end of a path. -/
def has (h : Host) (path : String) : Bool :=
  match h.read path with
  | .ok _ => true
  | .error fault => fault = .isDirectory

/-- The file that a connection URL seems to name. -/
def filePath? (url : String) : Option String :=
  match Text.afterLeading "sqlite://".toList url.toList with
  | some rest =>
    let path := rest.takeWhile fun c => c ≠ '?'
    if path = [] then none else some (String.ofList path)
  | none => none

/-- Drops what follows the last name of a path, whose characters are given in reverse. -/
def dropEnding : List Char → List Char
  | '/' :: rest => dropEnding rest
  | '.' :: '/' :: rest => dropEnding rest
  | s => s

/-- The path of the directory that a path leads to something in. -/
def parentPath (path : String) : String :=
  let above := (dropEnding path.toList.reverse).dropWhile fun c => c ≠ '/'
  match dropEnding above with
  | [] => if above = [] then "" else "/"
  | s => String.ofList s.reverse

/-- Puts an empty file at a place whose directory exists. -/
def createAt (place : List String) (ending : PathEnding) (t : FileTree) : FileTree.Outcome :=
  match place.reverse with
  | [] => (.error .isDirectory, t)
  | name :: above =>
    if FileTree.isUnspeakable name then (.error .nulInName, t)
    else
      FileTree.inDirectory (fun fault t => (.error fault, t))
        (FileTree.putFile ⟨[], name, ending⟩ []) above.reverse t

/-- Creates the directories of a path. -/
def createDirectories (h : Host) (path : String) : FileTree.Outcome :=
  let way := h.way path
  if path = "" then (.ok (), h.files)
  else if way.any FileTree.isUnspeakable then (.error .nulInName, h.files)
  else FileTree.makeAll (FilePath.turns [] way) (h.locate path) h.files

/-- Creates the file of a path, and its directory, unless there is something there. -/
def prepareFile (h : Host) (path : String) : Except DatabaseFault Unit × Host :=
  if h.has path then (.ok (), h)
  else
    match h.createDirectories (parentPath path) with
    | (.error fault, t) => (.error (.creation (parentPath path) fault), { h with files := t })
    | (.ok (), t) =>
      let ending := FilePath.endingOf (FilePath.pieces path).reverse
      match createAt (h.locate path) ending t with
      | (.error fault, t) => (.error (.creation path fault), { h with files := t })
      | (.ok (), t) => (.ok (), { h with files := t })

/-- Prepares what a connection URL seems to need. -/
def prepare (h : Host) (url : String) : Except DatabaseFault Unit × Host :=
  match filePath? url with
  | some path => h.prepareFile path
  | none => (.ok (), h)

/-- Opens a target. -/
def openTarget (h : Host) (t : Target) : Except ConnectionFault Connection × Host :=
  let unknown := t.backend.filter fun name => name ∉ Target.backends
  match unknown with
  | some name => (.error (.engine (.noBackend name)), h)
  | none =>
    if t.isUnfiled then (.ok ⟨none, t.isReadOnly⟩, h)
    else
      let place := h.locate t.name
      match h.files.at? place with
      | some (.file _) => (.ok ⟨some place, t.isReadOnly⟩, h)
      | some (.directory _) => (.error (.engine .cannotOpen), h)
      | none =>
        if t.createsFile ∧ !t.readOnly then
          match createAt place .none h.files with
          | (.ok (), files) => (.ok ⟨some place, t.isReadOnly⟩, { h with files := files })
          | (.error _, _) => (.error (.engine .cannotOpen), h)
        else (.error (.engine .cannotOpen), h)

/-- Connects to the database of a URL. -/
def connect (h : Host) (url : String) : Except DatabaseFault Connection × Host :=
  match h.prepare url with
  | (.error fault, h) => (.error fault, h)
  | (.ok (), h) =>
    match Target.ofUrl url with
    | .error fault => (.error (.connection fault), h)
    | .ok t =>
      let (r, h) := h.openTarget t
      (r.mapError .connection, h)

/-- The rows at a place. -/
def storeAt? (h : Host) (place : List String) : Option Store := h.stores.lookup place

/-- The rows of a database in which there are tables. -/
def store (h : Host) (c : Connection) : Store :=
  (c.place.bind h.storeAt?).getD .empty

/-- Changes the rows at a place. -/
def putStore (h : Host) (place : List String) (s : Store) : Host :=
  { h with stores := (place, s) :: h.stores.filter fun entry => entry.1 ≠ place }

/-- Changes the rows of a database; nobody sees the rows of one in memory again. -/
def save (h : Host) (c : Connection) (s : Store) : Host :=
  match c.place with
  | some place => h.putStore place s
  | none => h

/-- Marks the file at a place as a database. -/
def mark (place : List String) (t : FileTree) : FileTree :=
  match place.reverse with
  | [] => t
  | name :: above =>
    (FileTree.inDirectory (fun fault t => (.error fault, t))
      (FileTree.putFile ⟨[], name, .none⟩ databaseMark) above.reverse t).2

/-- Whether some bytes may be those of a database. -/
def isDatabase (content : List UInt8) : Bool :=
  content.isEmpty || databaseMark.isPrefixOf content

/-- Creates the tables of a database, if they are missing. -/
def migrate (h : Host) (c : Connection) : Except DatabaseFault Unit × Host :=
  match c.place with
  | none => (if c.readOnly then .error (.execution .readOnly) else .ok (), h)
  | some place =>
    match h.files.at? place with
    | some (.file content) =>
      if !isDatabase content then (.error (.execution .notADatabase), h)
      else if (h.storeAt? place).isSome then (.ok (), h)
      else if c.readOnly then (.error (.execution .readOnly), h)
      else (.ok (), { h.putStore place .empty with files := mark place h.files })
    | _ => (.error (.execution .cannotOpen), h)

end Host

end TunnelKeeper
