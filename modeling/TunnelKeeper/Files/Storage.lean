import TunnelKeeper.Error
import TunnelKeeper.Files.Tree
/-!
# Storages

Where exported files are kept: something that files can be written to and removed from by the text
of a path. The storage below a directory of a file tree accepts only paths that stay below it.
-/

namespace TunnelKeeper

/-- A place for files, whose state is of some type. -/
structure Storage (σ : Type) where
  /-- Creates the directory of a path. -/
  prepare : String → σ → Except FileFault Unit × σ
  /-- Writes a file. -/
  write : String → List UInt8 → σ → Except Error Unit × σ
  /-- Removes a file; there need not be one. -/
  delete : String → σ → Except Error Unit × σ

namespace Storage

/-- Does something at a path, unless the path might lead elsewhere. -/
def atPath (path : String) (f : FilePath → FileTree → FileTree.Outcome) (t : FileTree) :
    Except Error Unit × FileTree :=
  match FilePath.parse? path with
  | none => (.error (.precondition (.plainPath path)), t)
  | some p =>
    let (r, t) := f p t
    (r.mapError .file, t)

/-- Creates the directory of a path and all above it. -/
def prepareDirectory (path : String) (t : FileTree) : FileTree.Outcome :=
  let names := FilePath.names path
  if names.any FileTree.isUnspeakable then (.error .nulInName, t)
  else FileTree.makeDirectories names t

/-- The storage below a directory of a file tree. -/
def below (base : List String) : Storage FileTree where
  prepare := prepareDirectory
  write path content := atPath path fun p => FileTree.write base p content
  delete path := atPath path fun p => FileTree.delete base p

end Storage

end TunnelKeeper
