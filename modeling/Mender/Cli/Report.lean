import Mender.History.Record
import Mender.Json.Printer

/-!
# Reports

The outcome of a run in words: how it ended, and a line for each pass.
-/

namespace Mender.Cli

def yesNo (b : Bool) : String := if b then "yes" else "no"

def passLine (p : Pass) : String :=
  "  [" ++ Decimal.natText p.index ++ "] errors: " ++ Decimal.natText p.staticErrors ++
    " | failures: " ++ Decimal.natText p.testFailures ++ " | rewriter: " ++
    yesNo p.rewriterApplied ++ " | fix: " ++ yesNo p.fixApplied ++ "\n"

/-- How a run ended. -/
def headline (o : Outcome) : String :=
  let iterations := Decimal.natText o.iterations ++ " iteration(s).\n"
  if o.success then "Gold standard reached after " ++ iterations
  else
    "Repair incomplete after " ++ iterations ++
      "  static errors remaining: " ++ Decimal.natText o.finalErrors ++ "\n" ++
      "  test failures remaining: " ++ Decimal.natText o.finalTestFailures ++ "\n"

def report (o : Outcome) : String :=
  headline o ++ "\nIteration history:\n" ++ String.join (o.history.map passLine)

/-- A value on lines of its own. -/
def printed (j : Json) : String := j.pretty ++ "\n"

end Mender.Cli
