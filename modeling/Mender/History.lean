import Mender.Finding

/-!
# Histories

A pass analyzes the target once and leaves a record of how many findings it saw.
A history is the row of these records; the outcome of a run is read off its
history alone.
-/

namespace Mender

/-- The record of one pass. Passes are numbered from 1. -/
structure Pass where
  index : Nat
  /-- The rewriter changed the target before this pass, which must be the first. -/
  rewriterApplied : Bool
  staticErrors : Nat
  testFailures : Nat
  /-- A fix was written to the target in this pass. -/
  fixApplied : Bool
  deriving DecidableEq, Repr

namespace Pass

/-- The record of a pass before anything is done about its findings. -/
def ofSnapshot (index : Nat) (rewriterApplied : Bool) (snapshot : Snapshot) : Pass :=
  ⟨index, index = 1 && rewriterApplied, snapshot.staticErrors.length,
    snapshot.testFailures.length, false⟩

end Pass

/-- What to do after a pass. -/
inductive Verdict where
  | success
  | repair
  deriving DecidableEq, Repr

def Snapshot.verdict (s : Snapshot) : Verdict := if s.isGold then .success else .repair

/-- How a run ended. -/
structure Outcome where
  success : Bool
  iterations : Nat
  finalErrors : Nat
  finalTestFailures : Nat
  history : List Pass
  deriving DecidableEq, Repr

/-- The records of the passes so far, in order. -/
structure History where
  passes : List Pass
  deriving DecidableEq, Repr

namespace History

def empty : History := ⟨[]⟩

def push (h : History) (p : Pass) : History := ⟨h.passes ++ [p]⟩

def length (h : History) : Nat := h.passes.length

def isEmpty (h : History) : Bool := h.passes.isEmpty

def last? (h : History) : Option Pass := h.passes.getLast?

@[simp] theorem passes_push (h : History) (p : Pass) : (h.push p).passes = h.passes ++ [p] := rfl

@[simp] theorem length_push (h : History) (p : Pass) : (h.push p).length = h.length + 1 := by
  simp [length]

/-- The outcome of a run with this history. The counts are those of the last
pass; the number of iterations fits 32 bits. -/
def outcome (h : History) : Outcome :=
  let (errors, failures) := (h.last?.map fun p => (p.staticErrors, p.testFailures)).getD (0, 0)
  { success := !h.isEmpty && errors = 0 && failures = 0
    iterations := min h.length (UInt32.size - 1)
    finalErrors := errors
    finalTestFailures := failures
    history := h.passes }

end History

end Mender
