import Mender.Settings
import Mender.Toml.Document
import Mender.Toml.Printer

/-!
# Settings as TOML

Every slot but the binary of a tool may be left out. The arguments of a tool that
is named without any are none, whatever its default.
-/

namespace Mender

namespace ToolSpec

def ofToml? (t : Toml) : Option ToolSpec := do
  let [binary, args] ← t.slots? ["binary", "args"] | none
  return { binary := ← (← binary).text?, args := ← Toml.slotOr [] Toml.texts? args }

def toToml (s : ToolSpec) : Toml :=
  .table [("binary", .string s.binary), ("args", .array (s.args.map .string))]

end ToolSpec

namespace Tools

def ofToml? (t : Toml) : Option Tools := do
  let [rewriter, analyzer, tests, dryRunFlag] ←
    t.slots? ["rewriter", "analyzer", "tests", "dry_run_flag"] | none
  return {
    rewriter := ← Toml.slotOr default.rewriter ToolSpec.ofToml? rewriter
    analyzer := ← Toml.slotOr default.analyzer ToolSpec.ofToml? analyzer
    tests := ← Toml.slotOr default.tests ToolSpec.ofToml? tests
    dryRunFlag := ← Toml.slotOr default.dryRunFlag Toml.text? dryRunFlag }

def toToml (t : Tools) : Toml :=
  .table
    [("dry_run_flag", .string t.dryRunFlag), ("rewriter", t.rewriter.toToml),
     ("analyzer", t.analyzer.toToml), ("tests", t.tests.toToml)]

end Tools

namespace AnalyzerOptions

def ofToml? (t : Toml) : Option AnalyzerOptions := do
  let [level, profile, memoryLimit] ← t.slots? ["level", "profile", "memory_limit"] | none
  return {
    level := ← Toml.slotOr default.level Toml.uint32? level
    profile := ← Toml.slotOr default.profile Toml.text? profile
    memoryLimit := ← Toml.slotOr default.memoryLimit Toml.text? memoryLimit }

def toToml (a : AnalyzerOptions) : Toml :=
  .table
    [("level", .integer a.level.toNat), ("profile", .string a.profile),
     ("memory_limit", .string a.memoryLimit)]

end AnalyzerOptions

namespace OracleOptions

def ofToml? (t : Toml) : Option OracleOptions := do
  let [model, maxTokens, baseUrl, timeoutSecs] ←
    t.slots? ["model", "max_tokens", "base_url", "timeout_secs"] | none
  return {
    model := ← Toml.slotOr default.model Toml.text? model
    maxTokens := ← Toml.slotOr default.maxTokens Toml.uint32? maxTokens
    baseUrl? := ← Toml.slotOr none (fun t => t.text?.map some) baseUrl
    timeoutSecs := ← Toml.slotOr default.timeoutSecs Toml.uint64? timeoutSecs }

def toToml (o : OracleOptions) : Toml :=
  .table
    ([("model", .string o.model), ("max_tokens", .integer o.maxTokens.toNat)] ++
      (o.baseUrl?.map fun url => ("base_url", Toml.string url)).toList ++
      [("timeout_secs", .integer o.timeoutSecs.toNat)])

end OracleOptions

namespace Language

def ofToml? (t : Toml) : Option Language := do
  let [standard, fenceTag, prologue, extension, requirements] ←
    t.slots? ["standard", "fence_tag", "prologue", "extension", "requirements"] | none
  return {
    standard := ← Toml.slotOr default.standard Toml.text? standard
    fenceTag := ← Toml.slotOr default.fenceTag Toml.text? fenceTag
    prologue := ← Toml.slotOr default.prologue Toml.text? prologue
    extension := ← Toml.slotOr default.extension Toml.text? extension
    requirements := ← Toml.slotOr default.requirements Toml.texts? requirements }

def toToml (l : Language) : Toml :=
  .table
    [("standard", .string l.standard), ("fence_tag", .string l.fenceTag),
     ("prologue", .string l.prologue), ("extension", .string l.extension),
     ("requirements", .array (l.requirements.map .string))]

end Language

namespace Settings

def slots : List String :=
  ["max_iterations", "process_timeout_secs", "output_limit_bytes", "audit_dir", "tools",
   "analyzer", "oracle", "language"]

def ofToml? (t : Toml) : Option Settings := do
  let [maxIterations, processTimeoutSecs, outputLimitBytes, auditDir, tools, analyzer, oracle,
    language] ← t.slots? slots | none
  return {
    maxIterations := ← Toml.slotOr default.maxIterations Toml.uint32? maxIterations
    processTimeoutSecs := ←
      Toml.slotOr default.processTimeoutSecs Toml.uint64? processTimeoutSecs
    outputLimitBytes := ← Toml.slotOr default.outputLimitBytes Toml.uint64? outputLimitBytes
    auditDir? := ← Toml.slotOr none (fun t => t.text?.map some) auditDir
    tools := ← Toml.slotOr default.tools Tools.ofToml? tools
    analyzer := ← Toml.slotOr default.analyzer AnalyzerOptions.ofToml? analyzer
    oracle := ← Toml.slotOr default.oracle OracleOptions.ofToml? oracle
    language := ← Toml.slotOr default.language Language.ofToml? language }

/-- The fields of the document that says all of the settings. -/
def fields (s : Settings) : List (String × Toml) :=
  [("max_iterations", .integer s.maxIterations.toNat),
   ("process_timeout_secs", .integer s.processTimeoutSecs.toNat),
   ("output_limit_bytes", .integer s.outputLimitBytes.toNat)] ++
    (s.auditDir?.map fun dir => ("audit_dir", Toml.string dir)).toList ++
    [("tools", s.tools.toToml), ("analyzer", s.analyzer.toToml), ("oracle", s.oracle.toToml),
     ("language", s.language.toToml)]

/-- The settings that a document says. -/
def ofText? (text : String) : Option Settings := (Toml.ofText? text.toList).bind ofToml?

/-- The document that says all of the settings, with an empty line at the end. -/
def text (s : Settings) : String := Toml.documentText s.fields ++ "\n"

end Settings

end Mender
