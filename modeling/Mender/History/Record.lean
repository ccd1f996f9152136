import Mender.History
import Mender.Json.Slots

/-!
# Passes and outcomes as JSON records

Both are records with all of their slots. Counts fit 64 bits, numbers of passes
fit 32.
-/

namespace Mender

namespace Pass

def slots : List String :=
  ["iteration", "rewriter_applied", "static_errors", "test_failures", "ai_fix_applied"]

def toJson (p : Pass) : Json :=
  .record
    [("iteration", .nat p.index), ("rewriter_applied", .bool p.rewriterApplied),
     ("static_errors", .nat p.staticErrors), ("test_failures", .nat p.testFailures),
     ("ai_fix_applied", .bool p.fixApplied)]

def ofJson? (j : Json) : Option Pass := do
  let [some index, some rewriterApplied, some staticErrors, some testFailures, some fixApplied] ←
    j.slots? slots | none
  return {
    index := ← index.natBelow? UInt32.size
    rewriterApplied := ← rewriterApplied.bool?
    staticErrors := ← staticErrors.count?
    testFailures := ← testFailures.count?
    fixApplied := ← fixApplied.bool? }

end Pass

namespace Outcome

def slots : List String :=
  ["success", "iterations", "final_errors", "final_test_failures", "history"]

def toJson (o : Outcome) : Json :=
  .record
    [("success", .bool o.success), ("iterations", .nat o.iterations),
     ("final_errors", .nat o.finalErrors), ("final_test_failures", .nat o.finalTestFailures),
     ("history", .array (o.history.map Pass.toJson))]

def ofJson? (j : Json) : Option Outcome := do
  let [some success, some iterations, some finalErrors, some finalTestFailures, some history] ←
    j.slots? slots | none
  return {
    success := ← success.bool?
    iterations := ← iterations.natBelow? UInt32.size
    finalErrors := ← finalErrors.count?
    finalTestFailures := ← finalTestFailures.count?
    history := ← (← history.items?).mapM Pass.ofJson? }

end Outcome

end Mender
