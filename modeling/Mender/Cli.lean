import Mender.Batch
import Mender.Cli.Arguments
import Mender.Cli.Report
import Mender.Project
import Mender.Service
import Mender.Settings.File
import Mender.Worklist.File

/-!
# The command line

One command repairs a target, the other a worklist of them. The exit code says
whether all is clean, something is left, or nothing could be done.

Left out are log lines, how the reader of a command line explains its use, and the
pause between the items of a batch. Variables of the environment are texts, and a
client for the service can always be made. What the readers of files say about a
text, and how long anything takes, is up to the surroundings.
-/

namespace Mender.Cli

variable {σ : Type}

/-- How a command ends. -/
structure Exit where
  code : UInt32
  stdout : String
  stderr : String
  deriving DecidableEq, Repr

namespace Exit

/-- Everything is clean. -/
def clean : UInt32 := 0

/-- Nothing could be done. -/
def invalid : UInt32 := 1

/-- Something is left. -/
def exhausted : UInt32 := 2

/-- The end of a command line that cannot be used. -/
def usage : Exit := ⟨2, "", "error: the command line cannot be used\n"⟩

def version : Exit := ⟨0, "repair-loop 0.1.0\n", ""⟩

def ofSuccess (success : Bool) (stdout : String) : Exit :=
  ⟨if success then clean else exhausted, stdout, ""⟩

end Exit

/-- What a command has beside the disk. -/
structure Surroundings (σ : Type) where
  machine : Machine σ
  carrier : Carrier σ
  engine : Text.Engine
  env : List (String × String)
  wording : Wording
  times : Batch.Times

/-- The working directory, if it is still there. -/
def here (disk : Disk) : Except Failure Path :=
  if disk.isDirectoryAt disk.cwd then .ok disk.cwd.path
  else .error ((Failure.ofCause (.system .notFound)).within "resolve current directory")

/-- An absolute form of a path. -/
def absolute (disk : Disk) (path : Path) : Except Failure Path :=
  if path.isAbsolute then .ok path else (here disk).map (·.join path)

/-- The root of a project and its settings. -/
def loadProject (options : ProjectOptions) : Run σ (Path × Settings) := do
  let disk ← Run.disk
  let root ← MonadExcept.ofExcept ((options.root?.map .ok).getD (here disk))
  let config := options.config?.getD (root.join (.ofText Settings.fileName))
  let settings ← MonadExcept.ofExcept (Settings.load disk config)
  let root ← MonadExcept.ofExcept (absolute disk root)
  return (root, settings)

/-- The settings of a run, where the command line has the last word. -/
def override (options : RunOptions) (settings : Settings) : Settings :=
  { settings with maxIterations := options.maxIterations?.getD settings.maxIterations }

/-- The oracle of a real run is the service; a dry run has none. -/
def chooseOracle (s : Surroundings σ) (dryRun : Bool) (settings : Settings) :
    Except Failure (Oracle σ) :=
  if dryRun then .ok .disabled
  else (Service.ofEnvironment s.env settings.oracle settings.language).map
      (·.oracle s.engine s.wording s.carrier)

/-- Gets everything ready for runs with the given settings. -/
def prepare (s : Surroundings σ) (root : Path) (dryRun : Bool) (settings : Settings) :
    Run σ (Repair σ) := do
  let oracle ← MonadExcept.ofExcept (chooseOracle s dryRun settings)
  let project := Project.ofSettings root settings
  MonadExcept.ofExcept (project.ready (← Run.disk))
  return .ofSettings (project.toolchain s.machine) oracle settings

/-- Repairs a target. -/
def repairTarget (s : Surroundings σ) (options : RunOptions) : Run σ Outcome := do
  let (root, settings) ← loadProject options.project
  let settings := override options settings
  MonadExcept.ofExcept settings.validate
  let repair ← prepare s root options.project.dryRun settings
  let auditDir? := options.auditDir? <|> repair.auditDir?
  Repair.execute { repair with auditDir? } options.target options.project.dryRun

/-- Repairs the targets of a worklist. -/
def repairWorklist (s : Surroundings σ) (options : BatchOptions) : Run σ Batch.Summary := do
  let (root, settings) ← loadProject options.project
  let items ← MonadExcept.ofExcept (Worklist.load (← Run.disk) options.worklist)
  let repair ← prepare s root options.project.dryRun settings
  ExceptT.lift <|
    Batch.run repair s.wording options.project.dryRun (Worklist.plan items options.maxItems?)

/-- What is printed where a run fails and records are asked for. -/
def failureRecord (message : String) : Json :=
  .record [("error", .text message), ("success", .bool false)]

def runExit (wording : Wording) (format : Format) : Except Failure Outcome → Exit
  | .ok outcome =>
    .ofSuccess outcome.success
      (match format with
       | .text => report outcome
       | .json => printed outcome.toJson)
  | .error failure =>
    { code := Exit.invalid
      stdout :=
        match format with
        | .text => ""
        | .json => printed (failureRecord (failure.message wording))
      stderr := failure.message wording ++ "\n" }

/-- What is said where a summary has no record. -/
def unprintable : String := "serialize json output: path contains invalid UTF-8 characters\n"

def batchExit (wording : Wording) (times : Batch.Times) : Except Failure Batch.Summary → Exit
  | .ok summary =>
    match summary.toJson? times with
    | some record => .ofSuccess summary.allSuccessful (printed record)
    | none => { Exit.ofSuccess summary.allSuccessful "" with stderr := unprintable }
  | .error failure => ⟨Exit.invalid, "", failure.message wording ++ "\n"⟩

/-- Performs a command. -/
def perform (s : Surroundings σ) : Command → StateM (Session σ) Exit
  | .version => return .version
  | .run options => return runExit s.wording options.format (← (repairTarget s options).run)
  | .batch options => return batchExit s.wording s.times (← (repairWorklist s options).run)

/-- Performs the command that a command line names. -/
def performWords (s : Surroundings σ) (words : List String) : StateM (Session σ) Exit :=
  match Command.ofWords? words with
  | some command => perform s command
  | none => return .usage

end Mender.Cli
