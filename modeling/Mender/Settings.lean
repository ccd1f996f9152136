import Mender.Failure
import Mender.Language
import Mender.Text.CharClass
import Mender.ToolSpec

/-!
# Settings

What a project says about its tools, the oracle, the language and the limits of a
run. What is not said takes its default. Settings are usable when no limit is
zero and no name that is needed is blank.
-/

namespace Mender

structure Tools where
  rewriter : ToolSpec
  analyzer : ToolSpec
  tests : ToolSpec
  /-- The last argument of the rewriter in a dry run. -/
  dryRunFlag : String
  deriving DecidableEq, Repr

namespace Tools

def default : Tools where
  rewriter := ⟨"vendor/bin/rector", ["process", "\x7btarget\x7d"]⟩
  analyzer :=
    ⟨"vendor/bin/phpstan",
     ["analyse", "\x7btarget\x7d", "--level=\x7blevel\x7d", "-c", "\x7bprofile\x7d",
      "--error-format=json", "--no-progress", "--memory-limit=\x7bmemory_limit\x7d"]⟩
  tests := ⟨"vendor/bin/pest", ["--colors=never"]⟩
  dryRunFlag := "--dry-run"

end Tools

structure AnalyzerOptions where
  level : UInt32
  /-- The profile of the analyzer for files outside of a project. -/
  profile : String
  memoryLimit : String
  deriving DecidableEq, Repr

namespace AnalyzerOptions

def default : AnalyzerOptions where
  level := 9
  profile := "phpstan-external.neon"
  memoryLimit := "2G"

end AnalyzerOptions

structure OracleOptions where
  model : String
  maxTokens : UInt32
  /-- Where the service is, if not where the environment says. -/
  baseUrl? : Option String
  timeoutSecs : UInt64
  deriving DecidableEq, Repr

namespace OracleOptions

def default : OracleOptions where
  model := "claude-sonnet-4-20250514"
  maxTokens := 8192
  baseUrl? := none
  timeoutSecs := 300

end OracleOptions

structure Settings where
  /-- How many passes a run may take. -/
  maxIterations : UInt32
  /-- How long each tool may run. -/
  processTimeoutSecs : UInt64
  /-- How much is kept of each output of a tool. -/
  outputLimitBytes : UInt64
  /-- Where each pass leaves its records, if anywhere. -/
  auditDir? : Option String
  tools : Tools
  analyzer : AnalyzerOptions
  oracle : OracleOptions
  language : Language
  deriving DecidableEq, Repr

namespace Settings

def default : Settings where
  maxIterations := 10
  processTimeoutSecs := 300
  outputLimitBytes := 10000000
  auditDir? := none
  tools := .default
  analyzer := .default
  oracle := .default
  language := .default

instance : Inhabited Settings := ⟨default⟩

/-- What is wrong with the settings, each with what has to hold instead. -/
def faults (s : Settings) : List (Bool × String) :=
  [(s.maxIterations = 0, "max_iterations must be > 0"),
   (s.processTimeoutSecs = 0, "process_timeout_secs must be > 0"),
   (s.outputLimitBytes = 0, "output_limit_bytes must be > 0"),
   (s.tools.rewriter.binary.isEmpty, "tools.rewriter.binary must be set"),
   (s.tools.analyzer.binary.isEmpty, "tools.analyzer.binary must be set"),
   (s.tools.tests.binary.isEmpty, "tools.tests.binary must be set"),
   (s.oracle.maxTokens = 0, "oracle.max_tokens must be > 0"),
   (s.oracle.timeoutSecs = 0, "oracle.timeout_secs must be > 0"),
   (s.language.fenceTag.isBlankText, "language.fence_tag must be set"),
   (s.language.extension.isBlankText, "language.extension must be set")]

/-- The first of several faults that is there. -/
def firstFault? (faults : List (Bool × String)) : Option String :=
  (faults.find? (·.1)).map (·.2)

/-- Settings that no run can use are refused with the first thing wrong. -/
def validate (s : Settings) : Except Failure Unit :=
  match firstFault? s.faults with
  | some reason => .error (.ofCause (.invalidConfig reason))
  | none => .ok ()

end Settings

end Mender
