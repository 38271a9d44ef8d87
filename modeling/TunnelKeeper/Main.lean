import TunnelKeeper.Database.Dump
import TunnelKeeper.Program
/-!
# Command line

The outer layer: it brings the files that a run looks at into memory, makes the run, and writes
back what has changed.
-/

namespace TunnelKeeper

namespace Main

/-- The variables of the process. -/
def environment : IO Environment := do
  let bytes ← IO.FS.readBinFile "/proc/self/environ"
  let pieces := Text.splitOn '\x00' ((Text.ofUtf8? bytes.toList).getD "").toList
  pure <| .ofList <| pieces.filterMap fun piece =>
    (Text.splitFirst '=' piece).map fun (name, value) =>
      (String.ofList name, String.ofList value)

/-- Notes a directory if there is one at a path. -/
def loadDirectory (h : Host) (path : String) : IO Host := do
  try
    if ← (← IO.FS.realPath path).isDir then pure (h.withDirectory path) else pure h
  catch _ => pure h

/-- Brings the file of a path into memory. -/
def loadFile (h : Host) (path : String) : IO Host := do
  if path.isEmpty then pure h
  else
    let h ← loadDirectory h path
    let parent := Host.parentPath path
    let h ← loadDirectory h (if parent.isEmpty then "." else parent)
    try
      let content ← IO.FS.readBinFile path
      pure (h.withFile path content.toList)
    catch _ => pure h

/-- Writes a file. -/
def saveFile (path : String) (content : List UInt8) : IO Unit := do
  IO.FS.createDirAll (Host.parentPath path)
  IO.FS.writeBinFile path ⟨content.toArray⟩

end Main

end TunnelKeeper

open TunnelKeeper in
/-- Makes one run. The settings are read first, since they say where the database is. -/
def main (words : List String) : IO UInt32 := do
  let env ← Main.environment
  let start : Host := ⟨.empty, FilePath.names (← IO.currentDir).toString, []⟩
  let first ← (Program.paths words env start).foldlM Main.loadFile start
  let h ← (Program.paths words env first).foldlM Main.loadFile first
  let seeds ← (List.range (Program.size words env h)).mapM fun _ => IO.getRandomBytes 32
  let keys := (seeds.map fun seed => KeyPair.ofSeed seed.toList).toArray
  let (o, after) := Program.run words env (fun n => keys.getD n .blank) h
  (Host.changes h after).forM fun (path, content) => Main.saveFile path content
  (← IO.getStdout).putStr o.output
  (← IO.getStderr).putStr o.complaint
  pure (UInt32.ofNat o.code)
