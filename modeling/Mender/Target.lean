import Mender.Filing
import Mender.Language

/-!
# Targets

The file or directory under repair, by its canonical path. A directory is read as
one text, its files of the language one after another; it is never written.
-/

namespace Mender

structure Target where
  path : Path
  isDirectory : Bool
  deriving DecidableEq, Repr

namespace Target

/-- The target that a path leads to. -/
def resolve (disk : Disk) (path : Path) : Except Failure Target :=
  if !disk.pathExists path then .error (.ofCause (.targetNotFound path))
  else
    match disk.canonical path with
    | .ok real => .ok ⟨real, disk.isDirectory real⟩
    | .error e => .error ((Failure.ofCause (.system e)).within ("canonicalize " ++ path.shown))

/-- The names of the files of the language in a directory, byte by byte. -/
def members (disk : Disk) (language : Language) (directory : Path) : List Path :=
  let names := (disk.names directory).toOption.getD []
  (names.filter fun name =>
    disk.isFile (directory.join name) &&
      name.extension? = some (.ofText language.extension)).mergeSort fun a b => a.bytes ≤ b.bytes

/-- A file of a directory, if it can be read, behind a line that names it. -/
def memberText (disk : Disk) (path : Path) : String :=
  match disk.readText path with
  | .ok content => Language.fileMarker path.shown ++ "\n" ++ content ++ "\n\n"
  | .error _ => ""

/-- The current content; a file that cannot be read counts as empty. -/
def read (disk : Disk) (language : Language) (target : Target) : String :=
  if target.isDirectory then
    String.join ((members disk language target.path).map fun name =>
      memberText disk (target.path.join name))
  else (disk.readText target.path).toOption.getD ""

/-- Replaces the content of a file. -/
def write (target : Target) (content : String) : Filing Unit :=
  if target.isDirectory then throw (.ofCause (.unsupportedWrite target.path))
  else Filing.writeText ("write " ++ target.path.shown) target.path content

end Target

end Mender
