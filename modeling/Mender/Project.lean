import Mender.Collaborators
import Mender.Finding.AnalyzerReport
import Mender.Finding.TestReport
import Mender.Invocation
import Mender.Settings

/-!
# Projects

The toolchain of a project: binaries below its root, run in the root with the
arguments of the settings. Findings are read from what the analyzer and the tests
write; the rewriter says by its exit code whether it changed anything.

A tool is told its target as a text, so bytes of a path that are no text reach it as
U+FFFD. What keeps a program from being started is up to the machine.
-/

namespace Mender

structure Project where
  root : Path
  tools : Tools
  analyzer : AnalyzerOptions
  timeout : Span
  outputLimit : Nat
  deriving DecidableEq, Repr

namespace Project

variable {σ : Type}

def ofSettings (root : Path) (s : Settings) : Project where
  root
  tools := s.tools
  analyzer := s.analyzer
  timeout := .ofSeconds s.processTimeoutSecs.toNat
  outputLimit := s.outputLimitBytes.toNat

/-- The tools with their names, in the order in which they are looked for. -/
def namedTools (p : Project) : List (String × ToolSpec) :=
  [("rewriter", p.tools.rewriter), ("analyzer", p.tools.analyzer), ("tests", p.tools.tests)]

/-- Fails with the first tool that is not there. -/
def ready (p : Project) (disk : Disk) : Except Failure Unit :=
  match p.namedTools.find? fun (_, spec) => !disk.pathExists (spec.binaryPath p.root) with
  | some (name, spec) => .error (.ofCause (.missingBinary name (spec.binaryPath p.root)))
  | none => .ok ()

/-- The variables of the argument templates. A path stands there as it is shown, so what is no
text in it is lost. -/
def vars (p : Project) (target : Path) : List (String × String) :=
  [("level", Decimal.natText p.analyzer.level.toNat), ("memory_limit", p.analyzer.memoryLimit),
   ("profile", (p.root.join (.ofText p.analyzer.profile)).shown), ("project_root", p.root.shown),
   ("target", target.shown)]

/-- Runs one tool. -/
def run (machine : Machine σ) (p : Project) (name : String) (spec : ToolSpec)
    (args : List String) : Effect σ Transcript :=
  Effect.within ("run " ++ name) <|
    Invocation.run machine p.outputLimit
      { program := spec.binaryPath p.root, args, workdir := p.root, timeout := p.timeout }

/-- The exit code of a rewriter that changed something or would. -/
def changedCode : UInt8 := 1

def rewrite (machine : Machine σ) (p : Project) (target : Path) (dryRun : Bool) :
    Effect σ Bool := do
  let args := p.tools.rewriter.renderArgs (p.vars target)
  let flags := if dryRun && !p.tools.dryRunFlag.isEmpty then [p.tools.dryRunFlag] else []
  let transcript ← p.run machine "rewriter" p.tools.rewriter (args ++ flags)
  return transcript.exitCode? = some changedCode

def analyze (machine : Machine σ) (p : Project) (target : Path) :
    Effect σ (List Finding) := do
  let args := p.tools.analyzer.renderArgs (p.vars target)
  let transcript ← p.run machine "analyzer" p.tools.analyzer args
  return AnalyzerReport.parse transcript.stdout.kept

def test (machine : Machine σ) (p : Project) (target : Path) : Effect σ (List Finding) := do
  let args := p.tools.tests.renderArgs (p.vars target)
  let transcript ← p.run machine "tests" p.tools.tests args
  return TestReport.parse transcript.success transcript.combined

def toolchain (machine : Machine σ) (p : Project) : Toolchain σ where
  ready := p.ready
  rewrite := p.rewrite machine
  analyze := p.analyze machine
  test := p.test machine

end Project

end Mender
