import Mender.Site

/-!
# Invocations of programs

A program is run with arguments in a working directory, under a limit of time. A
machine says what comes of it. What the program writes is read piece by piece;
up to a limit it is kept, and the rest is counted.
-/

namespace Mender

structure Invocation where
  program : Path
  args : List String
  workdir : Path
  timeout : Span
  deriving DecidableEq, Repr

namespace Invocation

/-- The program and its arguments in one line. -/
def commandLine (i : Invocation) : String := " ".intercalate (i.program.shown :: i.args)

end Invocation

inductive ExitStatus where
  | exited (code : UInt8)
  | killed (signal : Nat)
  deriving DecidableEq, Repr

/-- What comes of running a program. -/
inductive Ending where
  | refused (error : SystemError)
  /-- The time was up before the program ended and its outputs were closed. -/
  | overran
  /-- The program ended; its outputs are in the pieces in which they were read. -/
  | finished (status : ExitStatus) (stdout stderr : List Bytes)
  deriving DecidableEq, Repr

/-- What runs programs. -/
structure Machine (σ : Type) where
  run : Invocation → StateM (Site σ) Ending

/-- The start of an output, and how many bytes followed it. -/
structure Capture where
  kept : Bytes
  dropped : Nat
  deriving DecidableEq, Repr

namespace Capture

def empty : Capture := ⟨[], 0⟩

/-- Takes one more piece in. -/
def add (limit : Nat) (c : Capture) (piece : Bytes) : Capture :=
  let room := limit - c.kept.length
  ⟨c.kept ++ piece.take room, c.dropped + (piece.length - room)⟩

/-- What is kept of an output that is read in pieces. -/
def ofPieces (limit : Nat) (pieces : List Bytes) : Capture := pieces.foldl (add limit) empty

end Capture

/-- The result of a program that ended in time. -/
structure Transcript where
  status : ExitStatus
  stdout : Capture
  stderr : Capture
  deriving DecidableEq, Repr

namespace Transcript

/-- The exit code, unless a signal ended the program. -/
def exitCode? (t : Transcript) : Option UInt8 :=
  match t.status with
  | .exited code => some code
  | .killed _ => none

def success (t : Transcript) : Bool := t.exitCode? = some 0

/-- Both outputs, one behind the other. -/
def combined (t : Transcript) : Bytes := t.stdout.kept ++ t.stderr.kept

end Transcript

namespace Invocation

variable {σ : Type}

/-- Runs a program to its end. Failing programs are a result like others; it is a
failure when the working directory is missing, the program cannot be started or
the time is up. -/
def run (machine : Machine σ) (limit : Nat) (i : Invocation) : Effect σ Transcript := do
  if !(← get).disk.isDirectory i.workdir then throw (.ofCause (.workdirMissing i.workdir))
  match ← machine.run i with
  | .refused e => throw ((Failure.ofCause (.system e)).within ("spawn " ++ i.program.shown))
  | .overran => throw (.ofCause (.processTimeout i.commandLine i.timeout))
  | .finished status stdout stderr =>
    return ⟨status, .ofPieces limit stdout, .ofPieces limit stderr⟩

end Invocation

end Mender
