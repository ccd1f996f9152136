import Mender.Disk
import Mender.Toml.Document
import Mender.Worklist

/-!
# Worklist files

A worklist file has a table for each item. The paths in it start where the file
is.
-/

namespace Mender

namespace WorkItem

def ofToml? (t : Toml) : Option WorkItem := do
  let [id, path, priority] ← t.slots? ["id", "path", "priority"] | none
  return {
    id := ← (← id).text?
    path := .ofText (← (← path).text?)
    priority := Int64.ofInt (← Toml.slotOr 0 Toml.int64? priority) }

end WorkItem

namespace Worklist

def ofToml? (t : Toml) : Option (List WorkItem) := do
  let [items] ← t.slots? ["item"] | none
  Toml.slotOr [] (fun t => t.items?.bind (·.mapM WorkItem.ofToml?)) items

/-- The items in the order of the file. -/
def load (disk : Disk) (path : Path) : Except Failure (List WorkItem) := do
  match disk.readText path with
  | .error cause => throw ((Failure.ofCause cause).within ("read " ++ path.shown))
  | .ok text =>
    match (Toml.ofText? text.toList).bind ofToml? with
    | none => throw ((Failure.ofCause (.malformed .worklist text)).within ("parse " ++ path.shown))
    | some items => return items.map (below (path.parent?.getD (.ofText "")))

end Worklist

end Mender
