import Mender.Shell.Utility.Columns
import Mender.Shell.Utility.Editor
import Mender.Shell.Utility.Expression
import Mender.Shell.Utility.Files
import Mender.Shell.Utility.Launching
import Mender.Shell.Utility.Listing
import Mender.Shell.Utility.Search
import Mender.Shell.Utility.Sequence
import Mender.Shell.Utility.Sorting
import Mender.Shell.Utility.Streams
import Mender.Shell.Utility.Words
import Mender.Shell.Program

/-!
# Utilities

The programs that scripts can call, by their names.
-/

namespace Mender.Shell.Utility

/-- Shows the paths of programs. -/
def which : Utility := fun name words => do
  let given := (words.takeWhile fun w => w.startsWith "-" && w ≠ "-" && w ≠ "--").flatMap
    (·.toList.drop 1)
  if let some letter := given.find? fun l => l ≠ 'a' && l ≠ 's' then
    Act.complain ("Illegal option -" ++ String.singleton letter ++ "\nUsage: /usr/bin/" ++ name ++
      " [-as] args\n")
    return 2
  let names := words.dropWhile fun w => w.startsWith "-" && w ≠ "-"
  let d ← Act.disk
  let path := ((← Act.context).vars.lookup "PATH").getD Program.standardPath
  let mut status := if names.isEmpty then 1 else 0
  for word in names do
    let places : List String := if word.toList.contains '/' then [word] else Program.candidates path word
    let found := places.filter fun (p : String) =>
      match d.find p with
      | .ok (_, .file _ true) | .ok (_, .special (.command _)) => true
      | _ => false
    let shown := if given.contains 'a' then found else found.take 1
    if found.isEmpty then status := 1
    if !given.contains 's' then for p in shown do Act.print (p ++ "\n")
  return status

/-- The programs that run no others, by their names. -/
def named : List (String × Utility) :=
  [("[", test), ("basename", basename), ("cat", cat), ("chmod", chmod), ("cmp", cmp), ("comm", comm),
   ("cp", cp), ("cut", cut), ("dirname", dirname), ("echo", echo), ("egrep", oldSearch "-E"),
   ("expr", expr), ("false", fun _ _ => return 1), ("fgrep", oldSearch "-F"), ("fold", fold),
   ("grep", grep), ("head", head), ("ln", ln), ("ls", ls), ("mkdir", mkdir), ("mktemp", mktemp),
   ("mv", mv), ("nl", nl), ("paste", paste), ("printenv", printenv), ("printf", printFormatted),
   ("pwd", pwd), ("readlink", readlink), ("realpath", realpath), ("rev", rev), ("rm", rm),
   ("rmdir", rmdir), ("sed", sed), ("seq", seq), ("sleep", sleep), ("sort", sort), ("stat", stat),
   ("sync", fun _ _ => return 0), ("tac", tac), ("tail", tail), ("tee", tee), ("test", test),
   ("touch", touch), ("tr", tr), ("true", fun _ _ => return 0), ("truncate", truncate), ("tty", tty),
   ("uname", uname), ("uniq", uniq), ("unlink", unlink), ("wc", wc), ("which", which),
   ("whoami", whoami), ("yes", yes)]

end Mender.Shell.Utility
