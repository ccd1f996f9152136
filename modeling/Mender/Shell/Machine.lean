import Mender.Invocation
import Mender.Shell.Evaluation

/-!
# The machine

A machine whose programs are the shell, the utilities and the scripts that a disk
holds, so that projects whose tools are scripts can be run. A program ends when it has
ended itself and nothing that it started can still write into its outputs.
-/

namespace Mender.Shell

/-- The commands of the system. -/
def commandNames : List String :=
  shellNames ++ ["kill"] ++ Utility.launchers.map (·.1) ++ Utility.named.map (·.1)

/-- The directories of the system. -/
def systemDirectories : List Location :=
  [["tmp"], ["usr"], ["usr", "bin"], ["usr", "sbin"], ["usr", "local"], ["usr", "local", "bin"],
   ["usr", "local", "sbin"], ["bin"], ["sbin"], ["dev"], ["dev", "fd"], ["etc"]]

/-- What the system has at some location. -/
def systemFile (l : Location) (s : Special) : Location × Entry := (l, .special s)

/-- A disk with the files of the system. -/
def system : Disk where
  entries :=
    systemDirectories.map (fun l => (l, .directory)) ++
    [systemFile ["dev", "null"] .null, systemFile ["dev", "zero"] .zero,
      systemFile ["dev", "stdin"] (.descriptor 0), systemFile ["dev", "stdout"] (.descriptor 1),
      systemFile ["dev", "stderr"] (.descriptor 2)] ++
    ((List.range 10).map fun n =>
      systemFile ["dev", "fd", ByteText.toPath (Decimal.natText n)] (.descriptor n)) ++
    commandNames.flatMap fun name =>
      [systemFile ["bin", ByteText.toPath name] (.command name),
       systemFile ["usr", "bin", ByteText.toPath name] (.command name)]
  cwd := []
  faults := []

/-- The process of the first program. -/
def firstProcess : Nat := 2

/-- The state in which a program is started, in texts of bytes. -/
def initial (env : List (String × String)) (disk : Disk) (workdir : Location) (limit : Nat) :
    State where
  disk
  clock := 0
  limit
  context :=
    { name := "sh", label := "", line := 1, args := [], vars := env, exported := env.map (·.1)
      constant := [], functions := [], aliases := [], scope? := none, loops := 0, traps := []
      deaf := [], trapStatus? := none, channels := [(0, .null), (1, .pipe 0), (2, .pipe 1)]
      cwd := workdir, place := ByteText.ofLocation workdir, status := 0, options := [], minds := true
      givesPlace := false, number := firstProcess, process := firstProcess, parents := [1]
      lastJob? := none, captured := 0, optionIndex := 1, optionOffset? := none, known := []
      mask := 18 }
  sources := []
  files := []
  pipes := [.empty, .empty]
  jobs := []
  ended := []
  latest := firstProcess
  signals := []
  cutOff := []

/-- Runs a program and what it leaves running. -/
def runToEnd (program : Program) : Act Unit := do
  Act.andThen (start maxDepth program) do
    let s ← get
    if s.clock < s.limit then
      if !(← finishJobs maxDepth fun job => job.context.holdsOutputs) then Act.hang
      let s ← get
      for job in s.jobs do
        let _ ← runJob maxDepth true s.clock job

/-- What comes of a program on a disk. -/
def ending (env : List (String × String)) (disk : Disk) (workdir : Location)
    (program : Program) (limit : Nat) : Ending × Disk :=
  let (result, after) := (runToEnd program).run.run (initial env disk workdir limit)
  let disk := { after.disk with cwd := disk.cwd }
  let output := fun n => [((after.pipes[n]?).getD .empty).bytes]
  match result with
  | .error .overran => (.overran, disk)
  | .error (.ended signal) => (.finished (.killed signal.number) (output 0) (output 1), disk)
  | _ => (.finished (.exited (UInt8.ofNat after.context.status)) (output 0) (output 1), disk)

/-- Why a program cannot even be started. -/
def refusal? (i : Invocation) : Option SystemError :=
  let words := i.program.bytes :: i.args.map Utf8.encode
  if words.any (·.contains 0) then some .nulInArgument
  else if words.any (·.length > Program.maxArgumentBytes) then some .argumentsTooLong
  else none

/-- Runs a program of a disk. Every program takes some time. -/
def runOn (env : List (String × String)) (disk : Disk) (i : Invocation) : Ending × Disk :=
  match refusal? i with
  | some e => (.refused e, disk)
  | none =>
    match disk.find i.workdir with
    | .error e => (.refused e, disk)
    | .ok (workdir, _) =>
      let inside := { disk with cwd := workdir }
      let args := i.args.map ByteText.ofText
      match Program.find (Program.atPath inside) Program.standardPath
          (ByteText.ofPath i.program) args with
      | .error e => (.refused e, disk)
      | .ok program =>
        if i.timeout.nanos = 0 then (.overran, disk)
        else
          let env := env.map fun (key, value) => (ByteText.ofText key, ByteText.ofText value)
          ending env disk workdir program i.timeout.nanos

/-- The machine of the shell and its utilities, in an environment of variables. -/
def machine {σ : Type} (env : List (String × String)) : Machine σ where
  run := fun i => do
    let site ← get
    let (ending, disk) := runOn env site.disk i
    set { site with disk }
    return ending

end Mender.Shell
