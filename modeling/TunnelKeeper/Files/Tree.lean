import TunnelKeeper.Files.Fault
import TunnelKeeper.Files.Path
/-!
# File trees

A tree of directories and files. Directories that are missing on the way to a file are created
when it is written, and stay when writing it fails. Every operation says what stopped it in the
words of the operating system.
-/

namespace TunnelKeeper

/-- A file or a directory. -/
inductive FileTree
  | file (content : List UInt8)
  | directory (entries : List (String × FileTree))

namespace FileTree

/-- A directory in which there is nothing. -/
def empty : FileTree := .directory []

/-- The most bytes that a name may have. -/
def longestName : Nat := 255

/-- Whether a name is too long. -/
def isLong (name : String) : Bool := longestName < name.utf8ByteSize

/-- Whether a name cannot be handed to the operating system at all. -/
def isUnspeakable (name : String) : Bool := name.toList.contains '\x00'

/-- The entry of a name. -/
def find? (name : String) : List (String × FileTree) → Option FileTree
  | [] => none
  | (n, t) :: rest => if n = name then some t else find? name rest

/-- Puts an entry in place of the one of the same name, or in the order of the names. -/
def put (name : String) (t : FileTree) : List (String × FileTree) → List (String × FileTree)
  | [] => [(name, t)]
  | (n, old) :: rest =>
    if n = name then (n, t) :: rest
    else if name < n then (name, t) :: (n, old) :: rest
    else (n, old) :: put name t rest

/-- Removes the entry of a name. -/
def remove (name : String) (entries : List (String × FileTree)) : List (String × FileTree) :=
  entries.filter fun entry => entry.1 ≠ name

/-- What an operation came to, and the tree after it. -/
abbrev Outcome := Except FileFault Unit × FileTree

/-- Does something in a directory of the tree. The names lead to the directory; `missing` says
what happens where there is none. -/
def inDirectory (missing : FileFault → FileTree → Outcome)
    (f : List (String × FileTree) → Except FileFault Unit × List (String × FileTree)) :
    List String → FileTree → Outcome
  | _, .file content => (.error .notDirectory, .file content)
  | [], .directory entries =>
    let (r, entries) := f entries
    (r, .directory entries)
  | name :: names, .directory entries =>
    if isLong name then (.error .nameTooLong, .directory entries)
    else
      match find? name entries with
      | none => missing .missing (.directory entries)
      | some t =>
        let (r, t) := inDirectory missing f names t
        (r, .directory (put name t entries))

/-- Creates the directories that are missing along a way of names. -/
def makeDirectories : List String → FileTree → Outcome
  | [], .directory entries => (.ok (), .directory entries)
  | [], .file content => (.error .alreadyExists, .file content)
  | _ :: _, .file content => (.error .notDirectory, .file content)
  | name :: names, .directory entries =>
    if isLong name then (.error .nameTooLong, .directory entries)
    else
      let (r, t) := makeDirectories names ((find? name entries).getD empty)
      (r, .directory (put name t entries))

/-- Creates the directories that are missing at some places, one after the other, and then those
along a way of names. -/
def makeAll : List (List String) → List String → FileTree → Outcome
  | [], names, t => makeDirectories names t
  | place :: places, names, t =>
    match makeDirectories place t with
    | (.ok (), t) => makeAll places names t
    | (.error .alreadyExists, t) => (.error .notDirectory, t)
    | (.error fault, t) => (.error fault, t)

/-- Puts a file into a directory. The file has all of its content then: a device that cannot take it
is not among the faults of a tree. -/
def putFile (path : FilePath) (content : List UInt8) (entries : List (String × FileTree)) :
    Except FileFault Unit × List (String × FileTree) :=
  match path.ending with
  | .slash => (.error .isDirectory, entries)
  | .none =>
    if isLong path.name then (.error .nameTooLong, entries)
    else
      match find? path.name entries with
      | some (.directory _) => (.error .isDirectory, entries)
      | _ => (.ok (), put path.name (.file content) entries)
  | .point =>
    if isLong path.name then (.error .nameTooLong, entries)
    else
      match find? path.name entries with
      | some (.directory _) => (.error .isDirectory, entries)
      | some (.file _) => (.error .notDirectory, entries)
      | none => (.error .missing, entries)

/-- Removes a file from a directory; there need not be one. -/
def removeFile (path : FilePath) (entries : List (String × FileTree)) :
    Except FileFault Unit × List (String × FileTree) :=
  if isLong path.name then (.error .nameTooLong, entries)
  else
    match find? path.name entries with
    | none => (.ok (), entries)
    | some (.directory _) => (.error .isDirectory, entries)
    | some (.file _) =>
      if path.ending = .none then (.ok (), remove path.name entries)
      else (.error .notDirectory, entries)

/-- Writes a file below a base directory, which is created if it is missing. The content is written
whole or, when the path cannot be used, not at all. -/
def write (base : List String) (path : FilePath) (content : List UInt8) (t : FileTree) : Outcome :=
  if path.parents.any isUnspeakable then (.error .nulInName, t)
  else
    match makeDirectories (base ++ path.parents) t with
    | (.error fault, t) => (.error fault, t)
    | (.ok (), t) =>
      if isUnspeakable path.name then (.error .nulInName, t)
      else
        inDirectory (fun fault t => (.error fault, t)) (putFile path content)
          (base ++ path.parents) t

/-- Removes a file below a base directory; there need not be one. -/
def delete (base : List String) (path : FilePath) (t : FileTree) : Outcome :=
  if (path.name :: path.parents).any isUnspeakable then (.error .nulInName, t)
  else inDirectory (fun _ t => (.ok (), t)) (removeFile path) (base ++ path.parents) t

/-- What is at the end of a way of names. -/
def at? : List String → FileTree → Option FileTree
  | [], t => some t
  | _ :: _, .file _ => none
  | name :: names, .directory entries =>
    match find? name entries with
    | some t => at? names t
    | none => none

/-- Reads the file at the end of a way of names. -/
def read (ending : PathEnding) : List String → FileTree → Except FileFault (List UInt8)
  | [], .file content => if ending = .none then .ok content else .error .notDirectory
  | [], .directory _ => .error .isDirectory
  | _ :: _, .file _ => .error .notDirectory
  | name :: names, .directory entries =>
    if isLong name then .error .nameTooLong
    else
      match find? name entries with
      | some t => read ending names t
      | none => .error .missing

/-- Why something is no directory that can be left again, if it is not. -/
def leaveFault? (names : List String) (t : FileTree) : Option FileFault :=
  match read .none names t with
  | .ok _ => some .notDirectory
  | .error .isDirectory => none
  | .error fault => some fault

/-- Whether there is a directory at the end of a way of names. -/
def isDirectory (names : List String) (t : FileTree) : Bool :=
  match t.at? names with
  | some (.directory _) => true
  | _ => false

/-- The entries below a directory, in order: a file has content, a directory has none. Every path
begins with `leader`. -/
def listing (leader : String) : FileTree → List (String × Option (List UInt8))
  | .file _ => []
  | .directory entries => listingOf leader entries
where
  /-- The listing of some entries. -/
  listingOf (leader : String) :
      List (String × FileTree) → List (String × Option (List UInt8))
    | [] => []
    | (name, .file content) :: rest => (leader ++ name, some content) :: listingOf leader rest
    | (name, .directory entries) :: rest =>
      (leader ++ name ++ "/", none) :: listingOf (leader ++ name ++ "/") entries ++
        listingOf leader rest

end FileTree

end TunnelKeeper
