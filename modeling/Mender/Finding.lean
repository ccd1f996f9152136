/-!
# Findings

A finding is one thing that an analyzer or a test run complains about. Both
kinds have one shape; `ignorable` speaks of static errors only and `testName` of
test failures only.
-/

namespace Mender

/-- Which tool a finding comes from. -/
inductive Finding.Kind where
  | staticError
  | testFailure
  deriving DecidableEq, Repr

/-- The file is empty and the line is 0 where the tool named no place. -/
structure Finding where
  kind : Finding.Kind
  file : String
  line : UInt32
  message : String
  ignorable : Bool
  testName : String
  deriving DecidableEq, Repr

namespace Finding

namespace Kind

def name : Kind → String
  | .staticError => "static_error"
  | .testFailure => "test_failure"

def ofName? (s : String) : Option Kind :=
  if s = "static_error" then some .staticError
  else if s = "test_failure" then some .testFailure
  else none

@[simp] theorem ofName?_name (k : Kind) : ofName? k.name = some k := by cases k <;> rfl

end Kind

def staticError (file : String) (line : UInt32) (message : String) (ignorable : Bool) : Finding :=
  ⟨.staticError, file, line, message, ignorable, ""⟩

def testFailure (testName file : String) (line : UInt32) (message : String) : Finding :=
  ⟨.testFailure, file, line, message, false, testName⟩

end Finding

/-- What one pass over the target found. -/
structure Snapshot where
  staticErrors : List Finding
  testFailures : List Finding
  deriving DecidableEq, Repr

namespace Snapshot

def empty : Snapshot := ⟨[], []⟩

/-- No static error and no test failure. -/
def isGold (s : Snapshot) : Bool := s.staticErrors.isEmpty && s.testFailures.isEmpty

theorem isGold_iff (s : Snapshot) :
    s.isGold = true ↔ s.staticErrors.length = 0 ∧ s.testFailures.length = 0 := by
  simp [isGold, List.isEmpty_iff]

end Snapshot

end Mender
