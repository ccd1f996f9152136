import Mender.Collaborators
import Mender.Path

/-!
# Rehearsals

Collaborators that play what a script holds: one snapshot for each analysis, the
last of them again when none is left, and one answer for each question, no fix
when none is left.
-/

namespace Mender

/-- A snapshot with so many static errors and test failures, one on each line. -/
def Snapshot.sample (staticErrors testFailures : Nat) : Snapshot where
  staticErrors := (List.range staticErrors).map fun i =>
    .staticError "src/Order.php" (UInt32.ofNat (i + 1)) ("error " ++ Decimal.natText (i + 1)) false
  testFailures := (List.range testFailures).map fun i =>
    let name := "test " ++ Decimal.natText (i + 1)
    .testFailure name "tests/OrderTest.php" (UInt32.ofNat (i + 1)) name

/-- What is still to be played. -/
structure Script where
  coming : List Snapshot
  current : Snapshot
  answers : List Fix
  deriving DecidableEq, Repr

namespace Script

def ofLists (snapshots : List Snapshot) (answers : List Fix) : Script := ⟨snapshots, .empty, answers⟩

/-- The script after an analysis. -/
def advance (s : Script) : Script :=
  match s.coming with
  | [] => s
  | next :: coming => { s with coming, current := next }

end Script

structure Rehearsal where
  /-- What the rewriter answers. -/
  rewriteChanges : Bool
  /-- The tool that is not there. -/
  missingBinary? : Option String
  /-- What every analysis fails with. -/
  analyzeError? : Option String
  deriving DecidableEq, Repr

namespace Rehearsal

def ready (r : Rehearsal) : Except Failure Unit :=
  match r.missingBinary? with
  | none => .ok ()
  | some name =>
    .error (.ofCause (.missingBinary name ((Path.ofText "vendor/bin").join (.ofText name))))

def analyze (r : Rehearsal) : Effect Script (List Finding) := do
  match r.analyzeError? with
  | some text => throw (.other text)
  | none =>
    modify fun site => { site with memory := site.memory.advance }
    return (← get).memory.current.staticErrors

def toolchain (r : Rehearsal) : Toolchain Script where
  ready := fun _ => r.ready
  rewrite := fun _ _ => return r.rewriteChanges
  analyze := fun _ => r.analyze
  test := fun _ => return (← get).memory.current.testFailures

end Rehearsal

namespace Oracle

/-- The oracle that plays the answers of the script. -/
def rehearsed : Oracle Script where
  ask := fun _ _ => do
    let site ← get
    match site.memory.answers with
    | [] => return .noFix
    | fix :: answers =>
      set { site with memory := { site.memory with answers } }
      return fix

end Oracle

end Mender
