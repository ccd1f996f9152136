import Mender.Cli
import Mender.Shell.Machine

/-!
# The program

The files below the working directory are read into a disk, the command is
performed on that disk, and what has changed is written back. A file counts as
executable if it says in its first line what runs it. Nobody is reached, the words of
the readers of files are left out, and no time is measured.
-/

namespace Mender.Main

/-- How deep directories are read. -/
def maxLevels : Nat := 64

def fileEntry (data : ByteArray) : Entry :=
  let bytes := data.toList
  .file bytes (bytes.take 2 = Utf8.encode "#!")

/-- The entries at and below a location. -/
def entriesAt (levels : Nat) (l : Location) : IO (List (Location × Entry)) := do
  match levels with
  | 0 => return []
  | levels + 1 =>
    let dir ← IO.FS.realPath l.path.shown
    let mut found : List (Location × Entry) := [(l, .directory)]
    for item in ← dir.readDir do
      let place := l ++ [.ofText item.fileName]
      if ← item.path.isDir then found := found ++ (← entriesAt levels place)
      else if ← item.path.pathExists then
        found := found ++ [(place, fileEntry (← IO.FS.readBinFile item.path))]
    return found

/-- The location of an absolute path. -/
def locationOf (path : String) : Location :=
  ((path.splitOn "/").filter (!·.isEmpty)).map Path.ofText

/-- The disk that a command works on. -/
def load : IO Disk := do
  let cwd := locationOf (← IO.currentDir).toString
  let above := (List.range cwd.length).map fun n => (cwd.take (n + 1), Entry.directory)
  let below ← entriesAt maxLevels cwd
  let system := Shell.system
  return (above ++ below).foldl (fun d (l, e) => d.put l e) { system with cwd }

/-- Writes back what a command changed: new and different entries, then what is gone. -/
def save (before after : Disk) : IO Unit := do
  for (l, entry) in after.entries.reverse do
    if before.at? l ≠ some entry then
      match entry with
      | .directory => IO.FS.createDirAll l.path.shown
      | .file data _ => IO.FS.writeBinFile l.path.shown (ByteArray.mk data.toArray)
      | _ => pure ()
  for (l, entry) in before.entries do
    if (after.at? l).isNone then
      match entry with
      | .file _ _ => IO.FS.removeFile l.path.shown
      | .directory => IO.FS.removeDir l.path.shown
      | _ => pure ()

/-- The variables that the command looks at, as far as they are set. -/
def environment : IO (List (String × String)) := do
  let keys := ["ANTHROPIC_API_KEY", "ANTHROPIC_BASE_URL"]
  return (← keys.mapM fun key => return (← IO.getEnv key).map (key, ·)).filterMap id

end Mender.Main

/-- Performs the command that the words name; the exit code says how it ended. -/
def main (args : List String) : IO UInt32 := do
  let disk ← Mender.Main.load
  let env ← Mender.Main.environment
  let surroundings : Mender.Cli.Surroundings Unit :=
    { machine := Mender.Shell.machine env
      carrier := .unreachable
      engine := .standard
      env
      wording := fun _ _ => "cannot be read"
      times := ⟨fun _ => 0, 0⟩ }
  let (exit, session) := (Mender.Cli.performWords surroundings args).run ⟨⟨disk, ()⟩, []⟩
  Mender.Main.save disk session.site.disk
  (← IO.getStdout).putStr exit.stdout
  (← IO.getStderr).putStr exit.stderr
  return exit.code
