import Mender.Finding
import Mender.Fix
import Mender.Site

/-!
# Collaborators

A run has two collaborators: a toolchain, which rewrites, analyzes and tests the
target, and an oracle, which is asked for fixes. Both may remember things and
change the disk. The tools may fail; an oracle always answers.
-/

namespace Mender

structure Toolchain (σ : Type) where
  /-- Whether all tools are there. -/
  ready : Disk → Except Failure Unit
  /-- Rewrites the target by fixed rules, or in a dry run only says what it would
  do; answers whether it changed anything. -/
  rewrite : (target : Path) → (dryRun : Bool) → Effect σ Bool
  /-- The static errors of the target. -/
  analyze : (target : Path) → Effect σ (List Finding)
  /-- The test failures of the target. -/
  test : (target : Path) → Effect σ (List Finding)

structure Oracle (σ : Type) where
  /-- Asks for a fix of the current content. -/
  ask : (prompt current : String) → StateM (Site σ) Fix

namespace Oracle

/-- The oracle of a dry run, which is never to be asked. -/
def disabled {σ : Type} : Oracle σ := ⟨fun _ _ => return .transportError "oracle disabled"⟩

end Oracle

end Mender
