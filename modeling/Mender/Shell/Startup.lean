import Mender.Shell.Program
import Mender.Shell.Reader.Basic
import Mender.Shell.State

/-!
# The start of a shell

What a shell knows when it begins: the variables that it was given, some of its own, and
the path by which it came to its directory.
-/

namespace Mender.Shell

/-- The variables that every shell has, with the values that they have unless others are
given. -/
def standardVariables : List (String × String) :=
  [("IFS", " \t\n"), ("PATH", Program.standardPath), ("PS1", "# "), ("PS2", "> "), ("PS4", "+ "),
   ("OPTIND", "1")]

/-- Variables that no shell takes over from outside. -/
def ownVariables : List String := ["IFS", "OPTIND", "PPID"]

/-- The path to the directory that a shell is given, if it leads there. -/
def placeFrom (disk : Disk) (given : List (String × String)) : String :=
  let leadsHere := fun path : String =>
    path.startsWith "/" &&
      match disk.find path with
      | .ok (l, .directory) => l = disk.cwd
      | _ => false
  ((given.lookup "PWD").filter leadsHere).getD (ByteText.ofLocation disk.cwd)

/-- A shell that begins in the process of a program. -/
def Context.begun (c : Context) (disk : Disk) (name : String) (args : List String)
    (options : List Char) : Context :=
  let given := c.vars.filter fun v => Reader.isName v.1.toList
  let place := placeFrom disk given
  let own := [("PPID", Decimal.natText (c.parents.headD 0)), ("PWD", place)]
  let free := given.filter fun v => !ownVariables.contains v.1
  let vars := (free ++ own).foldl (fun vars v => Act.withValue v.1 (some v.2) vars) standardVariables
  { c with
    name, label := "", line := 1, args, vars, exported := "PWD" :: given.map (·.1), constant := []
    functions := [], aliases := [], scope? := none, loops := 0, traps := [], trapStatus? := none
    place, status := 0, options, minds := true, givesPlace := false, number := c.process
    lastJob? := none, captured := 0, optionIndex := 1, optionOffset? := none, known := [] }

end Mender.Shell
