import Mender.Repair
import Mender.Worklist

/-!
# Batches

The items of a worklist are run one after another on one site. An item whose run
fails is counted as failed, and the next one follows.
-/

namespace Mender

structure ItemResult where
  id : String
  path : Path
  success : Bool
  iterations : Nat
  /-- The counts of the last pass, or -1 where the run failed. -/
  finalErrors : Int
  finalTestFailures : Int
  error? : Option String
  deriving DecidableEq, Repr

namespace ItemResult

/-- A count, at most the greatest integer of 64 bits. -/
def boundedCount (n : Nat) : Int := min n (Int.pow 2 63 - 1)

def ofRun (wording : Wording) (item : WorkItem) : Except Failure Outcome → ItemResult
  | .ok outcome =>
    { id := item.id
      path := item.path
      success := outcome.success
      iterations := outcome.iterations
      finalErrors := boundedCount outcome.finalErrors
      finalTestFailures := boundedCount outcome.finalTestFailures
      error? := none }
  | .error failure =>
    { id := item.id
      path := item.path
      success := false
      iterations := 0
      finalErrors := -1
      finalTestFailures := -1
      error? := some (failure.message wording) }

/-- The record of a result and of the milliseconds that the run took; there is none with a
path that is no text. -/
def toJson? (r : ItemResult) (millis : UInt64) : Option Json :=
  r.path.text?.map fun path =>
    .record
      ([("id", .text r.id), ("path", .text path), ("success", .bool r.success),
        ("iterations", .nat r.iterations), ("final_errors", .int r.finalErrors),
        ("final_test_failures", .int r.finalTestFailures), ("duration_ms", .nat millis.toNat)] ++
        (r.error?.map fun error => ("error", Json.text error)).toList)

end ItemResult

namespace Batch

/-- The milliseconds that the runs of a batch and the whole of it took. -/
structure Times where
  item : Nat → UInt64
  total : UInt64

structure Summary where
  results : List ItemResult
  deriving DecidableEq, Repr

namespace Summary

def total (s : Summary) : Nat := s.results.length

def successes (s : Summary) : Nat := s.results.countP (·.success)

def failures (s : Summary) : Nat := s.total - s.successes

def allSuccessful (s : Summary) : Bool := s.successes = s.total

/-- The record of a summary, if all results have one. -/
def toJson? (s : Summary) (times : Times) : Option Json := do
  let results ← s.results.zipIdx.mapM fun (result, i) => result.toJson? (times.item i)
  return .record
    [("all_successful", .bool s.allSuccessful), ("total_processed", .nat s.total),
     ("success_count", .nat s.successes), ("failure_count", .nat s.failures),
     ("results", .array results), ("total_duration_ms", .nat times.total.toNat)]

end Summary

variable {σ : Type}

/-- Runs one item, whatever comes of it. -/
def runItem (r : Repair σ) (wording : Wording) (dryRun : Bool) (item : WorkItem) :
    StateM (Session σ) ItemResult := do
  return .ofRun wording item (← (r.execute item.path dryRun).run)

def run (r : Repair σ) (wording : Wording) (dryRun : Bool) (items : List WorkItem) :
    StateM (Session σ) Summary := do
  return ⟨← items.mapM (runItem r wording dryRun)⟩

end Batch

end Mender
