import Mender.Filing
import Mender.Settings.Record

/-!
# Settings in files

Settings are read from a file, where a missing file stands for the defaults, and
written to one through a file beside it, so that the settings before stay whole
until the new ones are.
-/

namespace Mender.Settings

/-- Where the settings of a project are, below its root. -/
def fileName : String := "repair-loop.toml"

def load (disk : Disk) (path : Path) : Except Failure Settings := do
  if !disk.pathExists path then
    default.validate
    return default
  match disk.readText path with
  | .error cause => throw ((Failure.ofCause cause).within ("read " ++ path.shown))
  | .ok text =>
    match ofText? text with
    | none => throw ((Failure.ofCause (.malformed .settings text)).within ("parse " ++ path.shown))
    | some settings =>
      settings.validate
      return settings

/-- The file that is written first. -/
def temporary (path : Path) : Path := path.withExtension (.ofText "toml.tmp")

def save (path : Path) (settings : Settings) : Filing Unit := do
  settings.validate
  match path.parent? with
  | none => throw (.other ("config path missing parent " ++ path.shown))
  | some parent =>
    Filing.makeDirectories ("create directory " ++ parent.shown) parent
    Filing.writeText ("write temp config " ++ (temporary path).shown) (temporary path)
      settings.text
    Filing.change ("replace config " ++ path.shown) (·.rename (temporary path) path)

end Mender.Settings
