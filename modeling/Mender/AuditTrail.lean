import Mender.Filing
import Mender.Finding.Record
import Mender.Fix
import Mender.History.Record
import Mender.Json.Printer

/-!
# Audit trails

Each pass of a run leaves a directory, named by its number, with the record of
the pass and its findings, and with the prompt and the answer where the oracle
was asked. The outcome of the run stands beside these directories.
-/

namespace Mender

/-- What came of asking the oracle in a pass. -/
structure Attempt where
  prompt : String
  fix : Fix
  /-- The fix was written to the target. -/
  written : Bool
  deriving DecidableEq, Repr

namespace Attempt

/-- The record of the answer; a fix without detail leaves that slot out. -/
def toJson (a : Attempt) : Json :=
  .record
    ([("kind", .text a.fix.kind)] ++
      (a.fix.detail?.map fun detail => ("detail", Json.text detail)).toList ++
      [("written", .bool a.written)])

end Attempt

namespace AuditTrail

open scoped Mender.Path

/-- Where a pass leaves its files. -/
structure Places where
  directory : Path
  record : Path
  diagnostics : Path
  prompt : Path
  oracle : Path
  deriving DecidableEq, Repr

def places (auditDir : Path) (index : Nat) : Places :=
  let directory := auditDir.join (.ofText (Decimal.natText index))
  { directory
    record := directory.join "meta.json"
    diagnostics := directory.join "diagnostics.json"
    prompt := directory.join "prompt.md"
    oracle := directory.join "oracle.json" }

def resultPath (auditDir : Path) : Path := auditDir.join "result.json"

def writeText (path : Path) (text : String) : Filing Unit :=
  Filing.writeText ("write " ++ path.shown) path text

def writeJson (path : Path) (value : Json) : Filing Unit :=
  writeText path (value.pretty ++ "\n")

/-- Writes the files of a pass. -/
def writePass (auditDir : Path) (pass : Pass) (snapshot : Snapshot)
    (attempt? : Option Attempt) : Filing Places := do
  let places := places auditDir pass.index
  Filing.makeDirectories ("create iteration dir " ++ places.directory.shown) places.directory
  writeJson places.record pass.toJson
  writeJson places.diagnostics snapshot.toJson
  match attempt? with
  | none => return places
  | some attempt =>
    writeText places.prompt attempt.prompt
    writeJson places.oracle attempt.toJson
    return places

/-- Writes the outcome of a run. -/
def writeOutcome (auditDir : Path) (outcome : Outcome) : Filing Path := do
  Filing.makeDirectories ("create audit dir " ++ auditDir.shown) auditDir
  writeJson (resultPath auditDir) outcome.toJson
  return resultPath auditDir

end AuditTrail

end Mender
