import Mender.Shell.ByteText
import Mender.Shell.Glob
import Mender.Shell.Signal
import Mender.Shell.Stream
import Mender.Shell.Syntax
import Mender.Text.Decimal

/-!
# The state of a shell

What a script works on: the disk, the clock, the inputs that are open, and the pipes
into which it writes. Each shell, and each copy of it for a part of a script, has
variables, arguments and descriptors of its own. Only sleeping takes time.
-/

namespace Mender.Shell

/-- Where a descriptor leads. -/
inductive Channel where
  /-- An input, by its number in the state. -/
  | source (n : Nat)
  /-- The end of a pipe to write into, by its number; the first two pipes are the
  outputs of the whole script. -/
  | pipe (n : Nat)
  /-- A file that is open to be written, by its number in the state. -/
  | file (n : Nat)
  | null
  deriving DecidableEq, Repr

/-- A file that is open to be written. -/
structure OpenFile where
  location : Location
  /-- Where the next bytes go. -/
  position : Nat
  /-- Whether they always go behind all others. -/
  appends : Bool
  deriving DecidableEq, Repr

namespace OpenFile

/-- Where bytes go in a file of some size. -/
def start (f : OpenFile) (size : Nat) : Nat := if f.appends then size else f.position

/-- The content of a file with bytes written into it at a place; a gap is filled with
zeros. -/
def overwrite (start : Nat) (data bytes : Bytes) : Bytes :=
  data.take start ++ List.replicate (start - data.length) 0 ++ bytes ++
    data.drop (start + bytes.length)

end OpenFile

/-- What was written into a pipe. -/
structure Pipe where
  /-- Bytes and when they were written, the latest first. -/
  written : List (Nat × Bytes)
  /-- How many bytes these are. -/
  size : Nat
  /-- What is written for ever behind them. -/
  cycle : Bytes
  /-- When its reader went away, and how many bytes it can have had until then. -/
  gone? : Option (Nat × Nat)
  deriving DecidableEq, Repr

namespace Pipe

def empty : Pipe := ⟨[], 0, [], none⟩

/-- Whether nobody would take some bytes more that are written at a time. -/
def isBroken (p : Pipe) (time count : Nat) : Bool :=
  p.gone?.any fun (gone, room) => gone < time || room < p.size + count

def add (p : Pipe) (time : Nat) (bytes : Bytes) : Pipe :=
  { p with written := (time, bytes) :: p.written, size := p.size + bytes.length }

/-- What was written and when, in the order of time. -/
def inOrder (p : Pipe) : List (Nat × Bytes) := p.written.reverse.mergeSort fun a b => a.1 ≤ b.1

def bytes (p : Pipe) : Bytes := p.inOrder.flatMap (·.2)

end Pipe

/-- What each copy of a shell has of its own. -/
structure Context where
  /-- What error messages start with. -/
  name : String
  /-- What stands in front of messages: the command of the shell that reads the script. -/
  label : String
  /-- The line of the command that is run. -/
  line : Nat
  args : List String
  vars : List (String × String)
  /-- The variables that programs are given. -/
  exported : List String
  /-- The variables that keep their values. -/
  constant : List String
  functions : List (String × Command)
  aliases : List (String × String)
  /-- In a function, the values that its own variables had before. -/
  scope? : Option (List (String × Option String))
  /-- How many loops are under way. -/
  loops : Nat
  /-- What is run when a signal comes; nothing if the signal is ignored. -/
  traps : List (Signal × String)
  /-- Signals that were ignored already when the shell was started. -/
  deaf : List Signal
  /-- While a trap is run, the status with which the shell ends unless another is given. -/
  trapStatus? : Option Nat
  channels : List (Nat × Channel)
  cwd : Location
  /-- The path by which the shell came to its directory. -/
  place : String
  status : Nat
  /-- The letters of the options that are set. -/
  options : List Char
  /-- Whether a failure may end the shell; it may not where it is asked for. -/
  minds : Bool
  /-- Whether the program that is run next takes the place of the shell. -/
  givesPlace : Bool
  /-- The number of the process that runs the shell; copies have that of their shell. -/
  number : Nat
  /-- The number of the process that runs this copy of the shell. -/
  process : Nat
  /-- The processes that wait for this one, the next of them first. -/
  parents : List Nat
  /-- The process of the job that was started last. -/
  lastJob? : Option Nat
  /-- The status of the last command in this one whose output was taken. -/
  captured : Nat
  /-- The argument in which options are looked for next. -/
  optionIndex : Nat
  /-- How many characters of the argument in front of that were looked at, if it has
  more. -/
  optionOffset? : Option Nat
  /-- Programs that were looked for and found, by their names. -/
  known : List String
  /-- The rights that new files are not given. -/
  mask : Nat

namespace Context

/-- The variables that programs are given, in the order in which the shell keeps them:
by a number made of the characters of their names, and then by age. -/
def environment (c : Context) : List (String × String) :=
  let bucket := fun name : String =>
    let codes := name.toList.map Char.toNat
    codes.foldl (· + ·) (16 * codes.headD 0) % 39
  (c.vars.filter fun v => c.exported.contains v.1).mergeSort fun a b => bucket a.1 ≤ bucket b.1

/-- Whether the shell writes into the outputs of the whole script. -/
def holdsOutputs (c : Context) : Bool :=
  c.channels.any fun s => s.2 = .pipe 0 || s.2 = .pipe 1

end Context

/-- A part of a script that runs beside it in a process of its own. -/
structure Job where
  process : Nat
  /-- The process that started it. -/
  owner : Nat
  start : Nat
  context : Context
  command : Command

/-- How a job ended. -/
structure JobEnd where
  process : Nat
  owner : Nat
  time : Nat
  status : Nat
  signal? : Option Signal
  deriving DecidableEq, Repr

structure State where
  disk : Disk
  /-- Nanoseconds since the script was started. -/
  clock : Nat
  /-- When the time is up. -/
  limit : Nat
  context : Context
  /-- The inputs that were opened. -/
  sources : List Source
  /-- The files that were opened to be written. -/
  files : List OpenFile
  pipes : List Pipe
  jobs : List Job
  /-- The jobs that are over. -/
  ended : List JobEnd
  /-- The number of the latest process. -/
  latest : Nat
  /-- Signals that were sent to processes and did not come yet: when, to which, and what. -/
  signals : List (Nat × Nat × Signal)
  /-- Processes that the end of the time cut off, and the signals that they caught. -/
  cutOff : List (Nat × List Signal)

/-- Why a script does not go on with its next command. -/
inductive Stop where
  | exit
  /-- A command of the shell was not used as it should be. -/
  | mistaken
  /-- A signal ended this copy of the shell, or the program. -/
  | ended (signal : Signal)
  | overran
  | leaveLoops (count : Nat)
  | nextRound (count : Nat)
  | leaveFunction
  deriving DecidableEq, Repr

abbrev Act := ExceptT Stop (StateM State)

namespace Act

def context : Act Context := return (← get).context

def modifyContext (f : Context → Context) : Act Unit :=
  modify fun s => { s with context := f s.context }

/-- The disk with the directory in which the shell is. -/
def disk : Act Disk := do
  let s ← get
  return { s.disk with cwd := s.context.cwd }

def setDisk (d : Disk) : Act Unit := modify fun s => { s with disk := { d with cwd := s.disk.cwd } }

/-- Replaces a file, as far as that can be done; answers what goes wrong. -/
def replaceFile (path : String) (bytes : Bytes) : Act (Option SystemError) := do
  match (← disk).replace path bytes with
  | (.ok (), d) =>
    setDisk d
    return none
  | (.error e, d) =>
    setDisk d
    return some e

def setStatus (n : Nat) : Act Unit := modifyContext fun c => { c with status := n }

/-- Never ends. -/
def hang {α : Type} : Act α := do
  modify fun s => { s with clock := s.limit }
  throw .overran

/-- Lets time pass. -/
def pass (nanos : Nat) : Act Unit := do
  let s ← get
  if s.clock + nanos ≥ s.limit then hang else set { s with clock := s.clock + nanos }

def channel? (descriptor : Nat) : Act (Option Channel) :=
  return (← context).channels.lookup descriptor

def setChannel (descriptor : Nat) (target : Option Channel) : Act Unit :=
  modifyContext fun c =>
    let others := c.channels.filter (·.1 ≠ descriptor)
    { c with channels := (target.map fun t => (descriptor, t)).toList ++ others }

/-- Writes into a file that is open, as far as it takes the bytes; answers why it takes no
more. -/
def writeFile (n : Nat) (bytes : Bytes) : Act (Option SystemError) := do
  let s ← get
  match s.files[n]? with
  | none => return none
  | some f =>
    match s.disk.at? f.location with
    | some (.file data executable) =>
      let start := f.start data.length
      let whole := OpenFile.overwrite start data bytes
      let full? := (s.disk.fault? f.location).filter fun fault => whole.length > fault.room?.getD 0
      let kept := whole.take ((full?.bind (·.room?)).getD whole.length)
      set { s with
        disk := s.disk.put f.location (.file kept executable)
        files := s.files.set n { f with position := min (start + bytes.length) kept.length } }
      return full?.map (·.error)
    | _ => return none

/-- Writes to a channel; answers why that is refused, if it is. -/
def writeTo (target? : Option Channel) (bytes : Bytes) : Act (Option SystemError) := do
  if bytes.isEmpty then return none
  match target? with
  | some (.pipe n) =>
    let s ← get
    if s.pipes[n]?.any (·.isBroken s.clock bytes.length) then
      if s.context.deaf.contains Signal.pipe || (s.context.traps.lookup Signal.pipe).isSome then
        return some .brokenPipe
      throw (.ended Signal.pipe)
    set { s with pipes := s.pipes.modify n (·.add s.clock bytes) }
    return none
  | some (.file n) => writeFile n bytes
  | some .null => return none
  | some (.source _) | none => return some .badDescriptor

/-- Writes to a descriptor; answers why that is refused, if it is. -/
def write? (descriptor : Nat) (bytes : Bytes) : Act (Option SystemError) := do
  writeTo (← channel? descriptor) bytes

def write (descriptor : Nat) (bytes : Bytes) : Act Unit := do
  let _ ← write? descriptor bytes

def print (text : String) : Act Unit := write 1 (ByteText.toBytes text)

def complain (text : String) : Act Unit := write 2 (ByteText.toBytes text)

/-- Says what is wrong at a line of the script. -/
def complainAt (line : Nat) (text : String) : Act Unit := do
  let c ← context
  complain (c.name ++ ": " ++ Decimal.natText line ++ ": " ++ c.label ++ text ++ "\n")

/-- Says what is wrong with the command that is run. -/
def protest (text : String) : Act Unit := do complainAt (← context).line text

/-- Says what is wrong, and gives up the command of the shell that is run; the shell ends
with it unless that command is an ordinary one. -/
def fail {α : Type} (text : String) : Act α := do
  protest text
  setStatus 2
  throw .mistaken

/-- Writes a stream. Whoever writes for ever only ends if somebody else reads the
other end of a pipe. -/
def writeStream (s : Stream) : Act Unit := do
  if s.stalls then hang
  write 1 s.bytes
  if s.isEndless then
    match ← channel? 1 with
    | some (.pipe n) =>
      if n < 2 then hang
      else
        modify fun state =>
          { state with pipes := state.pipes.modify n fun p => { p with cycle := s.cycle } }
        throw (.ended Signal.pipe)
    | _ => hang

/-- Opens a pipe, whose reader may have gone at a time. -/
def openPipe (gone? : Option (Nat × Nat)) : Act Nat := do
  let s ← get
  set { s with pipes := s.pipes ++ [{ Pipe.empty with gone? }] }
  return s.pipes.length

/-- What was written into a pipe. -/
def pipe (n : Nat) : Act Pipe := return ((← get).pipes[n]?).getD .empty

/-- Opens an input. -/
def openSource (source : Source) : Act Nat := do
  let s ← get
  set { s with sources := s.sources ++ [source] }
  return s.sources.length

/-- Opens a file to be written. -/
def openFile (f : OpenFile) : Act Channel := do
  let s ← get
  set { s with files := s.files ++ [f] }
  return .file s.files.length

/-- Waits until a time. -/
def await (time : Nat) : Act Unit := do pass (time - (← get).clock)

/-- What is left in an input. -/
def left (source : Nat) : Act Stream := do
  let s ← get
  return (s.sources[source]?.map (·.content s.disk)).getD .empty

/-- Reads on in an input. -/
def advance (source n : Nat) : Act Unit :=
  modify fun s => { s with sources := s.sources.modify source (·.advance n) }

def valueOf? (key : String) : Act (Option String) := return (← context).vars.lookup key

def hasOption (letter : Char) : Act Bool := return (← context).options.contains letter

/-- Variables with another value of one of them; a new one comes last. -/
def withValue (key : String) (value? : Option String) (vars : List (String × String)) :
    List (String × String) :=
  match value? with
  | none => vars.filter (·.1 ≠ key)
  | some value =>
    if (vars.lookup key).isSome then vars.map fun v => if v.1 = key then (key, value) else v
    else vars ++ [(key, value)]

/-- Sets a variable; `command` is what sets it, in error messages. -/
def setVariable (command key value : String) : Act Unit := do
  if (← context).constant.contains key then
    fail (command ++ key ++ ": is read only")
  modifyContext fun c =>
    { c with vars := withValue key (some value) c.vars
             exported := if c.options.contains 'a' then key :: c.exported else c.exported
             optionIndex := if key = "OPTIND" then max 1 (Decimal.value (value.toList.takeWhile
               Text.isDigit)) else c.optionIndex
             optionOffset? := if key = "OPTIND" then none else c.optionOffset?
             known := if key = "PATH" then [] else c.known }

/-- Gives variables back the values that they had. -/
def restore (saved : List (String × Option String)) (c : Context) : Context :=
  saved.foldl (fun c (key, value?) => { c with vars := withValue key value? c.vars }) c

/-- The characters at which expansions are parted. -/
def separators : Act (List Char) := return ((← valueOf? "IFS").getD " \t\n").toList

end Act

/-- Something to read: what is in it, which input of the shell that is, if it is one,
and when it was taken. -/
structure Reading where
  source? : Option (Nat × Source)
  since : Nat
  stream : Stream

namespace Act

/-- Takes all that is left in an input of the shell. -/
def readSource (n : Nat) : Act (Except SystemError Reading) := do
  let s ← get
  match s.sources[n]? with
  | none => return .error .badDescriptor
  | some source =>
    if source.isDirectory then return .error .isDirectory
    let stream ← left n
    advance n stream.bytes.length
    if !stream.isEndless then await source.ends
    return .ok ⟨some (n, source), s.clock, stream⟩

/-- Takes no more than some bytes of what was read. A file is left behind them; what
came together with them through a pipe is lost. -/
def stopReading (r : Reading) (used : Nat) : Act Unit := do
  if let some (n, source) := r.source? then
    let passed := min used r.stream.bytes.length
    if source.file?.isSome || used = 0 then
      modify fun s => { s with sources := s.sources.set n (source.advance passed), clock := r.since }
    else
      let time := max r.since (arrivalOf passed source.arrivals)
      let passed := if source.arrivals.isEmpty then r.stream.bytes.length
        else max passed (source.countBy time)
      modify fun s => { s with sources := s.sources.set n (source.advance passed), clock := time }

/-- Passes on what was read, each part when it came. -/
def relay (r : Reading) (work : Bytes → Act Unit) : Act Unit := do
  match r.source? with
  | some (_, source) =>
    modify fun s => { s with clock := r.since }
    let mut rest := r.stream.bytes
    for (size, time) in source.arrivals do
      await time
      work (rest.take size)
      rest := rest.drop size
    work rest
    if r.stream.stalls then hang else if !r.stream.isEndless then await source.ends
  | none => work r.stream.bytes

/-- Takes all that is left behind a descriptor. -/
def readDescriptor (descriptor : Nat) : Act (Except SystemError Reading) := do
  match ← channel? descriptor with
  | some (.source n) => readSource n
  | some .null => return .ok ⟨none, (← get).clock, .empty⟩
  | some (.file _) | some (.pipe _) | none => return .error .badDescriptor

/-- What can be read from a file. -/
def readPath (path : String) : Act (Except SystemError Reading) := do
  let clock := (← get).clock
  match (← disk).find path with
  | .error e => return .error e
  | .ok (_, .file data _) => return .ok ⟨none, clock, .ofBytes data⟩
  | .ok (_, .special .zero) => return .ok ⟨none, clock, ⟨[], [0], false⟩⟩
  | .ok (_, .special (.descriptor n)) =>
    match ← channel? n with
    | some (.source source) =>
      match (← get).sources[source]?.bind (·.file?) with
      | some (l, _) =>
        match (← disk).at? l with
        | some (.file data _) => return .ok ⟨none, clock, .ofBytes data⟩
        | _ => readSource source
      | none => readSource source
    | some _ => readDescriptor n
    | none => return .error .notFound
  | .ok (_, .directory) => return .error .isDirectory
  | .ok _ => return .ok ⟨none, clock, .empty⟩

/-- Opens a file to read from it through a descriptor. -/
def openInput (path : String) : Act (Except SystemError Channel) := do
  match (← disk).find path with
  | .error e => return .error e
  | .ok (l, .file data _) => return .ok (.source (← openSource (.ofFile l data)))
  | .ok (_, .special .zero) => return .ok (.source (← openSource (.ofStream ⟨[], [0], false⟩)))
  | .ok (_, .special (.descriptor n)) =>
    match ← channel? n with
    | some (.source source) =>
      match (← get).sources[source]? with
      | some ⟨stream, _, _, some (l, _), _⟩ =>
        return .ok (.source (← openSource { Source.ofStream stream with file? := some (l, 0) }))
      | _ => return .ok (.source source)
    | some channel => return .ok channel
    | none => return .error .notFound
  | .ok (_, .directory) => return .ok (.source (← openSource .directory))
  | .ok _ => return .ok (.source (← openSource (.ofStream .empty)))

/-- Opens a file to write into it through a descriptor. Either what is in it goes, or
`keep` leaves it, and then `appends` says whether all is written behind it. -/
def openOutput (keep appends : Bool) (path : String) : Act (Except SystemError Channel) := do
  let d ← disk
  let opened := fun l : Location => do
    if let some e := d.refusal? l then return Except.error e
    if !keep then
      match d.at? l with
      | some (.file _ executable) => setDisk (d.put l (.file [] executable))
      | _ => pure ()
    return Except.ok (← openFile ⟨l, 0, appends⟩)
  match d.walk .opened path with
  | .error e => return .error e
  | .ok ⟨.found l (.file _ _), _, _⟩ => opened l
  | .ok ⟨.found _ (.special (.descriptor n)), _, _⟩ =>
    match ← channel? n with
    | some (.file file) =>
      match (← get).files[file]? with
      | some f => opened f.location
      | none => return .ok .null
    | some channel => return .ok channel
    | none => return .error .notFound
  | .ok ⟨.found _ .directory, _, _⟩ => return .error .isDirectory
  | .ok ⟨.found _ (.special (.command _)), _, _⟩ => return .error .accessDenied
  | .ok ⟨.found _ _, _, _⟩ => return .ok .null
  | .ok ⟨.vacant directory name, _, _⟩ =>
    match d.replace path [] with
    | (.error e, _) => return .error e
    | (.ok (), d) =>
      setDisk d
      return .ok (← openFile ⟨directory ++ [name], 0, appends⟩)

end Act

end Mender.Shell
