import Mender.Disk

/-!
# Work on a disk

A filing changes a disk step by step and may fail on the way; what was done
before the failure stays done.
-/

namespace Mender

abbrev Filing (α : Type) := ExceptT Failure (StateM Disk) α

namespace Filing

/-- A change of the disk that is made in full or not at all. -/
def change (doing : String) (step : Disk → Except SystemError Disk) : Filing Unit := do
  match step (← get) with
  | .ok disk => set disk
  | .error e => throw ((Failure.ofCause (.system e)).within doing)

def makeDirectories (doing : String) (path : Path) : Filing Unit := do
  let (result, disk) := (← get).makeDirectories path
  set disk
  match result with
  | .ok () => return ()
  | .error cause => throw ((Failure.ofCause cause).within doing)

/-- Replaces a file, as far as that can be done. -/
def writeText (doing : String) (path : Path) (text : String) : Filing Unit := do
  let (result, disk) := (← get).replace path (Utf8.encode text)
  set disk
  match result with
  | .ok () => return ()
  | .error e => throw ((Failure.ofCause (.system e)).within doing)

end Filing

end Mender
