import Mender.Path

/-!
# Worklists

The targets of a batch, each with a name and a priority. They are worked on from
the lowest priority to the highest, those of one priority in the order listed.
-/

namespace Mender

structure WorkItem where
  id : String
  path : Path
  /-- Lower comes first. -/
  priority : Int64
  deriving DecidableEq, Repr

namespace Worklist

/-- The items in the order of work, the first `cap?` of them. -/
def plan (items : List WorkItem) (cap? : Option Nat) : List WorkItem :=
  let sorted := items.mergeSort fun a b => a.priority ≤ b.priority
  match cap? with
  | none => sorted
  | some cap => sorted.take cap

/-- An item whose path starts at the given directory. -/
def below (base : Path) (item : WorkItem) : WorkItem :=
  { item with path := base.join item.path }

end Worklist

end Mender
