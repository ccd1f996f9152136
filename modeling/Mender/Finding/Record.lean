import Mender.Finding
import Mender.Json.Slots

/-!
# Findings as JSON records

A finding is a record with all six slots; a snapshot is the record of its two
lists.
-/

namespace Mender

namespace Finding

def slots : List String := ["kind", "file", "line", "message", "ignorable", "test_name"]

def toJson (f : Finding) : Json :=
  .record
    [("kind", .text f.kind.name), ("file", .text f.file), ("line", .nat f.line.toNat),
     ("message", .text f.message), ("ignorable", .bool f.ignorable),
     ("test_name", .text f.testName)]

def ofJson? (j : Json) : Option Finding := do
  let [some kind, some file, some line, some message, some ignorable, some testName] ←
    j.slots? slots | none
  return {
    kind := ← Kind.ofName? (← kind.choice?)
    file := ← file.text?
    line := ← line.uint32?
    message := ← message.text?
    ignorable := ← ignorable.bool?
    testName := ← testName.text? }

end Finding

namespace Snapshot

def toJson (s : Snapshot) : Json :=
  .record
    [("static_errors", .array (s.staticErrors.map Finding.toJson)),
     ("test_failures", .array (s.testFailures.map Finding.toJson))]

/-- Reads the record of a snapshot. -/
def ofJson? (j : Json) : Option Snapshot := do
  let [some errors, some failures] ← j.slots? ["static_errors", "test_failures"] | none
  return {
    staticErrors := ← (← errors.items?).mapM Finding.ofJson?
    testFailures := ← (← failures.items?).mapM Finding.ofJson? }

end Snapshot

end Mender
