import Mender.AuditTrail
import Mender.Prompt
import Mender.Session
import Mender.Settings
import Mender.Target

/-!
# Repair

The target is rewritten once by fixed rules. Then passes follow: each analyzes
and tests the target, and where anything was found asks the oracle for a fix and
writes it. A pass without findings ends the run, and so does the last pass that
the settings allow. A dry run neither asks nor writes.
-/

namespace Mender

/-- What a run is made of. -/
structure Repair (σ : Type) where
  tools : Toolchain σ
  oracle : Oracle σ
  maxIterations : UInt32
  language : Language
  auditDir? : Option Path

namespace Repair

variable {σ : Type}

def ofSettings (tools : Toolchain σ) (oracle : Oracle σ) (settings : Settings) : Repair σ where
  tools
  oracle
  maxIterations := settings.maxIterations
  language := settings.language
  auditDir? := settings.auditDir?.map Path.ofText

/-- What the tools find in the target. -/
def inspect (r : Repair σ) (target : Target) : Run σ Snapshot := do
  let staticErrors ←
    (Run.call (.analyze target.path) (r.tools.analyze target.path)).within "static analysis"
  let testFailures ←
    (Run.call (.test target.path) (r.tools.test target.path)).within "test run"
  return { staticErrors, testFailures }

/-- The new content that a fix has for the current one. -/
def replacement? (fix : Fix) (current : String) : Option String :=
  match fix with
  | .applied content => if Fix.sameContent content current then none else some content
  | _ => none

/-- Asks for a fix of what was found and writes it. -/
def attempt (r : Repair σ) (target : Target) (snapshot : Snapshot) : Run σ Attempt := do
  let current := target.read (← Run.disk) r.language
  let prompt := Prompt.build r.language current snapshot
  let fix ← Run.ask r.oracle prompt current
  match replacement? fix current with
  | none => return { prompt, fix, written := false }
  | some content =>
    Run.call (.write target.path content) (Effect.ofFiling (target.write content))
    return { prompt, fix, written := true }

/-- Leaves the records of a pass. -/
def audit (r : Repair σ) (pass : Pass) (snapshot : Snapshot) (attempt? : Option Attempt) :
    Run σ Unit :=
  match r.auditDir? with
  | none => return ()
  | some auditDir => do
    let _ ← Run.perform (Effect.ofFiling (AuditTrail.writePass auditDir pass snapshot attempt?))

/-- One pass; answers its record and what to do next. -/
def pass (r : Repair σ) (target : Target) (dryRun rewritten : Bool) (index : Nat) :
    Run σ (Pass × Verdict) := do
  let snapshot ← r.inspect target
  let attempt? ←
    if snapshot.isGold || dryRun then pure none else some <$> r.attempt target snapshot
  let record :=
    { Pass.ofSnapshot index rewritten snapshot with fixApplied := attempt?.any (·.written) }
  r.audit record snapshot attempt?
  return (record, snapshot.verdict)

/-- Up to `budget` further passes behind those of a history. -/
def passes (r : Repair σ) (target : Target) (dryRun rewritten : Bool) (history : History) :
    (budget : Nat) → Run σ History
  | 0 => return history
  | budget + 1 => do
    let (record, verdict) ← r.pass target dryRun rewritten (history.length + 1)
    match verdict with
    | .success => return history.push record
    | .repair => passes r target dryRun rewritten (history.push record) budget

/-- The outcome of a history, which is also left in the audit trail. -/
def finish (r : Repair σ) (history : History) : Run σ Outcome := do
  let outcome := history.outcome
  match r.auditDir? with
  | none => return outcome
  | some auditDir =>
    let _ ← Run.perform (Effect.ofFiling (AuditTrail.writeOutcome auditDir outcome))
    return outcome

/-- Finds the target of a run. -/
def locate (path : Path) : Run σ Target := do
  match Target.resolve (← Run.disk) path with
  | .ok target => return target
  | .error failure => throw failure

/-- Runs until the target is without findings or the passes are used up. -/
def execute (r : Repair σ) (path : Path) (dryRun : Bool) : Run σ Outcome := do
  let target ← locate path
  let rewritten ←
    (Run.call (.rewrite target.path dryRun) (r.tools.rewrite target.path dryRun)).within
      "deterministic pass"
  let history ← r.passes target dryRun rewritten .empty r.maxIterations.toNat
  r.finish history

end Repair

end Mender
