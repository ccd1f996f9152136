import Mender.Shell.Arithmetic
import Mender.Shell.Calling
import Mender.Shell.Process
import Mender.Shell.Reader
import Mender.Shell.Redirection
import Mender.Shell.Signal.Order
import Mender.Shell.Startup

/-!
# Running commands

The functions for the parts of a command call each other; their first argument
bounds the depth of the calls. Parts that run beside each other are run one after
the other, each with its own clock, so that what they write can be put in order.
-/

namespace Mender.Shell

open Text

/-- How often a loop may go round before it counts as endless. -/
def maxRounds : Nat := 50000

/-- How deep calls may go before a script counts as endless. -/
def maxDepth : Nat := 1000

/-- How many bytes a pipe holds that nobody reads. -/
def pipeSize : Nat := 65536

namespace Act

/-- Redirects descriptors up to the first for which it does not work; answers whether it
worked for all. -/
def redirectAll (targets : List (Nat × RedirectKind × String)) : Act Bool :=
  targets.foldlM (fun worked (descriptor, kind, text) => do
    if worked then redirectTo descriptor kind text else return false) true

/-- Does something and gives the descriptors back what they stood for. -/
def keepingChannels {α : Type} (act : Act α) : Act α := do
  let channels := (← context).channels
  andThen act (modifyContext fun c => { c with channels })

/-- Runs a command of the shell; a mistake in it only stops the command itself, unless the
command is `special`. -/
def forgiving (special : Bool) (act : Act Unit) : Act Unit := do
  match ← ExceptT.lift act.run with
  | .error .mistaken => if special then throw .mistaken
  | .error stop => throw stop
  | .ok () => return

/-- Runs an act under another label. -/
def labelled (label : String) (act : Act Unit) : Act Unit := do
  let before := (← context).label
  modifyContext fun c => { c with label }
  andThen act (modifyContext fun c => { c with label := before })

/-- Runs an act while variables have values for it alone. -/
def withTemporary (before : Context) (keys : List String) (act : Act Unit) : Act Unit :=
  andThen act (modifyContext fun c =>
    let kept := c.exported.filter fun key => !keys.contains key || before.exported.contains key
    restore (keys.map fun key => (key, before.vars.lookup key)) { c with exported := kept })

/-- The signals that came to this process by now. -/
def arrived : Act (List Signal) := do
  let s ← get
  let c := s.context
  let (mine, others) := s.signals.partition fun (time, process, _) =>
    process = c.process && time ≤ s.clock
  set { s with signals := others }
  return ((mine.mergeSort fun a b => a.1 ≤ b.1).map (·.2.2)).eraseDups

/-- Whether a signal does something to a process with some context for which that has set
nothing. -/
def strikes (c : Context) (signal : Signal) : Bool :=
  signal.isFinal || (!signal.isHarmless && !(caught c).contains signal)

/-- Ends the process if a signal came that ends it. -/
def succumb : Act Unit := do
  let s ← get
  let deadly := s.signals.filter fun (time, process, signal) =>
    process = s.context.process && time ≤ s.clock && strikes s.context signal && !signal.stops
  if let (_, _, signal) :: _ := deadly then throw (.ended signal)

/-- The signal that breaks off the waiting since a time, and when it does. -/
def interruption? (since : Nat) : Act (Option (Nat × Signal)) := do
  let s ← get
  let c := s.context
  let found := s.signals.filter fun (time, process, signal) =>
    process = c.process && since ≤ time && time ≤ s.clock &&
      (c.traps.lookup signal).any (!·.isEmpty)
  return ((found.mergeSort fun a b => a.1 ≤ b.1).head?).map fun (time, _, signal) => (time, signal)

/-- Sends a signal to a process. -/
def send (signal : Signal) (process : Nat) : Act Unit :=
  modify fun s => { s with signals := s.signals ++ [(s.clock, process, signal)] }

/-- Whether there is a process of some number besides jobs that run. -/
def isThere (process : Nat) : Act Bool := do
  let s ← get
  return process ≤ 1 || (s.context.process :: s.context.parents).contains process ||
    s.ended.any fun j => j.process = process && j.time = s.clock

/-- The process of a job that is named by its place among those that the shell started, or
as the last one. -/
def jobNamed? (word : String) : Act (Option Nat) := do
  let s ← get
  let mine := (s.jobs.map fun j => (j.process, j.owner)) ++ s.ended.map fun j => (j.process, j.owner)
  let processes := (mine.filter fun j => j.2 = s.context.process).map (·.1)
  let processes := processes.mergeSort
  return match word.toList.drop 1 with
    | [] | ['%'] | ['+'] => processes.getLast?
    | ds => (Decimal.nat? ds).bind fun n => if n = 0 then none else processes[n - 1]?

/-- Runs the commands of a text one after the other. -/
def eachCommand (run : Command → Act Unit) (shows : Bool) (text : ScriptText) :
    Nat → Act Unit
  | 0 => hang
  | budget + 1 => do
    let c ← context
    match Reader.next? { text with aliases := c.aliases } with
    | .error (mistake, line) =>
      complainAt line mistake.message
      setStatus 2
      throw .mistaken
    | .ok none => return
    | .ok (some (command, rest)) =>
      if shows && c.options.contains 'v' then
        let size := text.rest.length - rest.rest.length
        complain (String.ofList (text.rest.take size))
      run command
      eachCommand run shows rest budget

end Act

mutual

/-- Expands one piece of a word behind the fields so far. -/
def expandPiece (depth : Nat) (manner : Manner) (fields : Fields) (piece : Piece) :
    Act Fields := do
  match depth with
  | 0 => Act.hang
  | depth + 1 =>
    let separators ← Act.separators
    let add := fun (quoted : Bool) (text : String) =>
      if quoted || manner.quoted || !manner.parts then
        fields.add text.toList (quoted || manner.quoted)
      else fields.addParted separators text.toList
    match piece with
    | .text cs quoted =>
      if manner.partsText && !quoted && !manner.quoted then return fields.addParted separators cs
      else return fields.add cs (quoted || manner.quoted)
    | .arithmetic expression quoted =>
      let cs := (← expand depth .quotes .empty expression).joined.map (·.1)
      let vars := (← Act.context).vars
      match Arithmetic.evaluate (fun key => vars.lookup key) cs with
      | .ok (n, settings) =>
        for (key, value) in settings do Act.setVariable "" key value
        return add quoted (Decimal.intText n)
      | .error mistake => Act.fail (mistake.message (String.ofList cs))
    | .output command quoted => return add quoted (← capture depth command)
    | .parameter name use quoted =>
      let value? ← parameter? name
      let value := value?.getD ""
      let isUnset := fun colon : Bool => value?.isNone || (colon && value? = some "")
      let inner := manner.inUse quoted
      let homed := fun word : Word => do
        if inner.quoted then return word else return word.withHome (← Act.valueOf? "HOME") false
      if value?.isNone && use.needsValue && (← Act.hasOption 'u') then
        Act.fail (name ++ ": parameter not set")
      let args := (← Act.context).args
      let spreads := manner.parts && (name = "@" || (name = "*" && !inner.quoted))
      let value := if spreads then "\x00".intercalate args else value
      let put := fun text : String =>
        if !spreads then add quoted text
        else if !inner.quoted then fields.addParted ('\x00' :: separators) text.toList
        else if args.isEmpty then fields.addEach []
        else fields.addEach ((text.splitOn "\x00").map (·.toList))
      match use with
      | .value => return put value
      | .length => return add quoted (Decimal.natText value.length)
      | .orElse colon word =>
        if isUnset colon then expand depth inner fields (← homed word) else return put value
      | .orAssign colon word =>
        if isUnset colon then
          let whole := { inner with parts := false, partsText := false }
          let text := Marked.text (← expand depth whole .empty (← homed word)).joined
          if !Reader.isName name.toList then Act.fail (name ++ ": bad variable name")
          Act.setVariable "" name text
          return add quoted text
        else return put value
      | .orFail colon word =>
        if isUnset colon then
          let whole := { inner with parts := false, partsText := false }
          let text := Marked.text (← expand depth whole .empty (← homed word)).joined
          let standard := if colon then "parameter not set or null" else "parameter not set"
          Act.fail (name ++ ": " ++ if word.isEmpty then standard else text)
        else return put value
      | .instead colon word =>
        if isUnset colon then return fields else expand depth inner fields (← homed word)
      | .trim side longest pattern =>
        let pattern := (← expand depth .whole .empty (← homed pattern)).joined
        return put (String.ofList (trimmedValue side longest pattern value.toList))
      | .unknown => Act.fail "Bad substitution"

/-- Expands a word behind the fields so far. -/
def expand (depth : Nat) (manner : Manner) (fields : Fields) (word : Word) : Act Fields := do
  match depth with
  | 0 => Act.hang
  | depth + 1 => word.foldlM (fun fields piece => expandPiece depth manner fields piece) fields

/-- The text of a word in one piece, with the home of users in it; `inValue` says whether
it is the value of an assignment. -/
def textOf (depth : Nat) (inValue : Bool) (word : Word) : Act String := do
  match depth with
  | 0 => Act.hang
  | depth + 1 =>
    let word := word.withHome (← Act.valueOf? "HOME") inValue
    return Marked.text (← expand depth .whole .empty word).joined

/-- What a command writes, without the line ends behind it. -/
def capture (depth : Nat) (command : Command) : Act String := do
  match depth with
  | 0 => Act.hang
  | depth + 1 =>
    let status := (← Act.context).status
    let pipe ← Act.openPipe none
    Act.inCopy do
      Act.setChannel 1 (some (.pipe pipe))
      Act.modifyContext fun c => { c with minds := true }
      finishing depth (run depth command)
    Act.modifyContext fun c => { c with captured := c.status, status }
    if !(← finishJobs depth fun job => job.context.channels.any (·.2 = .pipe pipe)) then Act.hang
    Act.succumb
    let found ← Act.pipe pipe
    if !found.cycle.isEmpty then Act.hang
    let text := (ByteText.ofBytes (found.bytes.filter (· ≠ 0))).toList
    return String.ofList (text.reverse.dropWhile (· = '\n')).reverse

/-- The words that a word stands for. -/
def expandWord (depth : Nat) (word : Word) : Act (List String) := do
  match depth with
  | 0 => Act.hang
  | depth + 1 =>
    let word := word.withHome (← Act.valueOf? "HOME") false
    let fields := (← expand depth .fields .empty word).toList
    if ← Act.hasOption 'f' then return fields.map Marked.text
    else
      let d ← Act.disk
      return fields.flatMap (filesOf d)

/-- The words that words stand for. -/
def expandAll (depth : Nat) (words : List Word) : Act (List String) := do
  match depth with
  | 0 => Act.hang
  | depth + 1 => return (← words.mapM fun word => expandWord depth word).flatten

/-- The words that the words of a command stand for. Assignments stay whole where the
command takes them. -/
def expandCommand (depth : Nat) (words : List Word) : Act (List String) := do
  match depth with
  | 0 => Act.hang
  | depth + 1 =>
    words.foldlM (fun found word => do
      match if Call.takesAssignments (← Act.context) found then word.assignment? else none with
      | some (key, value) => return found ++ [key ++ "=" ++ (← textOf depth true value)]
      | none => return found ++ (← expandWord depth word)) []

/-- The texts of the words of redirections. -/
def expandTargets (depth : Nat) (redirects : List Redirect) :
    Act (List (Nat × RedirectKind × String)) := do
  match depth with
  | 0 => Act.hang
  | depth + 1 =>
    redirects.mapM fun (.mk descriptor kind word) => do
      let text ← textOf depth false word
      if kind = .duplicate && text ≠ "-" && !(text.length = 1 && text.toList.all isDigit) then
        Act.fail "Syntax error: Bad fd number"
      return (descriptor, kind, text)

/-- Sets variables; answers with the assignments in words. -/
def assignAll (depth : Nat) (assignments : List (String × Word)) : Act (List String) := do
  match depth with
  | 0 => Act.hang
  | depth + 1 =>
    assignments.mapM fun (key, word) => do
      let value ← textOf depth true word
      Act.setVariable "" key value
      return key ++ "=" ++ value

/-- Shows a command before it is run, if that is asked for. -/
def trace (depth : Nat) (channel? : Option Channel) (words : List String) : Act Unit := do
  match depth with
  | 0 => Act.hang
  | depth + 1 =>
    if ← Act.hasOption 'x' then
      let mark := ((← Act.valueOf? "PS4").getD "").toList
      let text := Marked.text (← expand depth .quotes .empty (Reader.expandableWord mark)).joined
      let _ ← Act.writeTo channel? (ByteText.toBytes (text ++ " ".intercalate words ++ "\n"))

/-- Runs a function. -/
def callFunction (depth : Nat) (body : Command) (args : List String) : Act Unit := do
  match depth with
  | 0 => Act.hang
  | depth + 1 =>
    let before ← Act.context
    Act.modifyContext fun c =>
      { c with args, scope? := some [], loops := 0, optionIndex := 1, optionOffset? := none }
    Act.andThen (Act.catchFunction (Act.inside (run depth body)))
      (Act.modifyContext fun c =>
        Act.restore (c.scope?.getD [])
          { c with args := before.args, scope? := before.scope?, loops := before.loops
                   optionIndex := before.optionIndex, optionOffset? := before.optionOffset? })

/-- Runs what is set for a signal, or ends the process. -/
def receive (depth : Nat) (signal : Signal) : Act Unit := do
  match depth with
  | 0 => Act.hang
  | depth + 1 =>
    let c ← Act.context
    if Act.strikes c signal then
      if signal.stops then Act.hang else throw (.ended signal)
    else
      match c.traps.lookup signal with
      | none => return
      | some action =>
        let status := c.trapStatus?.getD c.status
        Act.modifyContext fun c => { c with trapStatus? := some status, minds := true }
        Act.andThen (Act.inside (script depth false action))
          (Act.modifyContext fun after =>
            { after with trapStatus? := c.trapStatus?, minds := c.minds })
        Act.setStatus status

/-- Does what is set for the signals that came. -/
def deliver (depth : Nat) : Act Unit := do
  match depth with
  | 0 => Act.hang
  | depth + 1 =>
    if !(← get).signals.isEmpty then
      for signal in ← Act.arrived do receive depth signal

/-- Sends a signal to a job. What the job did before stays, if the signal ends it. -/
def strikeJob (depth : Nat) (signal : Signal) (job : Job) : Act Unit := do
  match depth with
  | 0 => Act.hang
  | depth + 1 =>
    let before ← get
    let others := before.jobs.filter (·.process ≠ job.process)
    if !signal.isHarmless then
      set { before with jobs := others, cutOff := [] }
      match ← runJob depth true before.clock job with
      | some _ => return
      | none =>
        let caught := ((← get).cutOff.lookup job.process).getD []
        if caught.contains signal && !signal.isFinal then
          set before
          Act.send signal job.process
        else if signal.stops then set before
        else
          let ending : JobEnd :=
            ⟨job.process, job.owner, before.clock, 128 + signal.number, some signal⟩
          modify fun s => { s with ended := ending :: s.ended }

/-- Sends signals; answers with the status. -/
def sendSignals (depth : Nat) (signal? : Option Signal) (targets : List String) : Act Nat := do
  match depth with
  | 0 => Act.hang
  | depth + 1 =>
    settleJobs depth
    targets.foldlM (fun status target => do
      let process? ← match target.toList with
        | '%' :: _ => do
          match ← Act.jobNamed? target with
          | some process => pure (some process)
          | none => Act.fail ("kill: No such job: " ++ target)
        | '-' :: digits => do
          let _ ← numberFor "kill" (String.ofList digits)
          pure none
        | _ => do pure (some (← numberFor "kill" target))
      let job? := (← get).jobs.find? fun job => process? = some job.process
      match job?, process? with
      | some job, _ =>
        if let some signal := signal? then strikeJob depth signal job
        return status
      | none, some process =>
        if ← Act.isThere process then
          if let some signal := signal? then
            let number := (← Act.context).number
            Act.send signal (if process = 0 then number else process)
          return status
        else
          Act.protest "kill: No such process\n"
          return 1
      | none, none =>
        Act.protest "kill: No such process\n"
        return 1) 0

/-- Does what words ask of signals. -/
def kill (depth : Nat) (args : List String) : Act Unit := do
  match depth with
  | 0 => Act.hang
  | depth + 1 =>
    match SignalOrder.ofWords args with
    | .error text => Act.fail ("kill: " ++ text)
    | .ok .names =>
      Act.print SignalOrder.listing
      Act.setStatus 0
    | .ok (.nameOf word) =>
      match SignalOrder.nameOf? (← numberFor "kill" word) with
      | some name =>
        Act.print (name ++ "\n")
        Act.setStatus 0
      | none => Act.fail ("kill: invalid signal number or exit status: " ++ word)
    | .ok (.send signal? targets) => Act.setStatus (← sendSignals depth signal? targets)

/-- Waits for jobs until a signal breaks that off; answers whether none did. -/
def waitUntil (depth : Nat) (chosen : Job → Bool) : Act Bool := do
  match depth with
  | 0 => Act.hang
  | depth + 1 =>
    let since := (← get).clock
    let finished ← finishJobs depth chosen
    match ← Act.interruption? since with
    | some (time, signal) =>
      modify fun s => { s with clock := time }
      Act.setStatus (128 + signal.number)
      return false
    | none => if finished then return true else Act.hang

/-- Waits for the jobs of the shell, or for some of them one after the other. -/
def wait (depth : Nat) (args : List String) : Act Unit := do
  match depth with
  | 0 => Act.hang
  | depth + 1 =>
    let me := (← Act.context).process
    if args.isEmpty then
      if ← waitUntil depth fun job => job.owner = me then Act.setStatus 0
    else
      Act.setStatus 127
      for word in args do
        let process ← if word.startsWith "%" then do
            match ← Act.jobNamed? word with
            | some process => pure process
            | none => Act.fail ("wait: No such job: " ++ word)
          else numberFor "wait" word
        if !(← waitUntil depth fun job => job.process = process && job.owner = me) then return
        match (← get).ended.find? fun j => j.process = process && j.owner = me with
        | none => pure ()
        | some ending =>
          if let some epitaph := ending.signal?.bind (·.epitaph?) then Act.complain (epitaph ++ "\n")
          modify fun s => { s with
            ended := s.ended.map fun j => if j = ending then { j with signal? := none } else j }
          Act.setStatus ending.status

/-- Runs the commands of a file. -/
def readFile (depth : Nat) (path : String) : Act Unit := do
  match depth with
  | 0 => Act.hang
  | depth + 1 =>
    let d ← Act.disk
    let isFile := fun p : String =>
      match d.find p with
      | .ok (_, .file _ _) => true
      | _ => false
    let places := Program.candidates (← searchPath) path
    let found? := if path.toList.contains '/' then some path else places.find? isFile
    match found? with
    | none => Act.fail (".: " ++ path ++ ": not found")
    | some path =>
      match ← Act.openInput path with
      | .error e => Act.fail (".: cannot open " ++ path ++ ": " ++ openingWords false e)
      | .ok _ =>
        let bytes := (d.read path).toOption.getD []
        let minds := (← Act.context).minds
        Act.modifyContext fun c => { c with minds := true }
        Act.andThen
          (Act.labelled (path ++ ": ") (Act.catchFunction
            (Act.inside (script depth true (ByteText.ofBytes bytes)))))
          (Act.modifyContext fun c => { c with minds })

/-- Runs a command of the shell itself. -/
def callBuiltin (depth : Nat) (isStandard : Bool) (name : String) (args : List String) :
    Act Unit := do
  match depth with
  | 0 => Act.hang
  | depth + 1 =>
    match name, args with
    | "eval", words =>
      Act.labelled "eval: " (Act.inside (script depth false (" ".intercalate words)))
    | ".", path :: _ => readFile depth path
    | "exec", inner :: words => Act.labelled "exec: " (external depth true isStandard inner words)
    | "command", words =>
      let (letters, words) ← lettersOf "command" "pvV" words.length words
      match letters.filter (· ≠ 'p'), words with
      | letter :: letters, word :: _ =>
        Act.setStatus (← if (letter :: letters).contains 'V' then describe word else locate word)
      | _, _ => Act.setStatus 0
    | "wait", words => wait depth words
    | "kill", words => kill depth words
    | _, _ =>
      match plainBuiltin? name args with
      | some act => Act.setStatus (← act)
      | none => Act.setStatus 0

/-- Runs a program that is not the shell's own. If it is the last thing that the shell does
it takes its place. -/
def external (depth : Nat) (isLast isStandard : Bool) (name : String) (args : List String) :
    Act Unit := do
  match depth with
  | 0 => Act.hang
  | depth + 1 =>
    let c ← Act.context
    let path ← if isStandard then pure Program.standardPath else searchPath
    match Program.ofCall (← Act.disk) (!isLast) path name args with
    | .ok program =>
      if !isLast && !name.toList.contains '/' && !c.known.contains name then
        Act.modifyContext fun c => { c with known := name :: c.known }
      let inPlace := isLast || (c.givesPlace && c.traps.isEmpty)
      Act.asProgram c.environment inPlace (start depth program)
      if isLast then Act.modifyContext fun c => { c with traps := [] }
    | .error (e, status) =>
      Act.protest (name ++ ": " ++ Program.refusalWords e)
      Act.setStatus status
    if isLast then throw .exit

/-- Runs a program in the place of another one; answers why that is not possible. -/
def launch (depth : Nat) (name : String) (args : List String) : Act (Option SystemError) := do
  match depth with
  | 0 => Act.hang
  | depth + 1 =>
    let d ← Act.disk
    let path := ((← Act.context).vars.lookup "PATH").getD "/bin:/usr/bin"
    match Program.find (Program.atPathOrScript d) path name args with
    | .error e => return some e
    | .ok program =>
      start depth program
      return none

/-- Runs a program. -/
def start (depth : Nat) (program : Program) : Act Unit := do
  match depth with
  | 0 => Act.hang
  | depth + 1 =>
    if shellNames.contains program.command then newShell depth program.name program.args
    else if program.command = "kill" then kill depth program.args
    else
      match Utility.launchers.lookup program.command with
      | some launcher =>
        let run := fun name args => launch depth name args
        Act.setStatus (← launcher run program.name program.args)
      | none =>
        match Utility.named.lookup program.command with
        | some utility => Act.setStatus (← utility program.name program.args)
        | none => Act.setStatus 127

/-- Runs a shell in the process of a program. -/
def newShell (depth : Nat) (name : String) (args : List String) : Act Unit := do
  match depth with
  | 0 => Act.hang
  | depth + 1 =>
    let refuse := fun text : String => do
      Act.complain (name ++ ": 0: " ++ text ++ "\n")
      Act.setStatus 2
    match optionsIn ('c' :: optionLetters) args with
    | .error option => refuse ("Illegal option " ++ option)
    | .ok settings =>
      let options := withSettings settings.letters []
      let disk ← Act.disk
      let begin_ := fun (name : String) (args : List String) =>
        Act.modifyContext fun c => c.begun disk name args (options.filter (· ≠ 'c'))
      let operands := settings.rest?.getD []
      if options.contains 'c' && !options.contains 's' then
        match operands with
        | [] => refuse "-c requires an argument"
        | text :: rest =>
          begin_ (rest.headD name) (rest.drop 1)
          finishing depth (script depth false text)
      else if options.contains 's' || operands.isEmpty then
        begin_ name operands
        if let some forPeople := settings.listing? then showOptions forPeople
        match ← Act.readDescriptor 0 with
        | .ok reading =>
          finishing depth (script depth true (ByteText.ofBytes (← Utility.finite reading.stream)))
        | .error _ => Act.setStatus 0
      else
        let path := operands.headD ""
        match ← Act.openInput path with
        | .error e => refuse ("cannot open " ++ path ++ ": " ++ openingWords false e)
        | .ok channel =>
          begin_ path (operands.drop 1)
          let bytes ← match channel with
            | .source n => pure (← Act.left n).bytes
            | _ => pure []
          finishing depth (script depth true (ByteText.ofBytes bytes))

/-- Runs what is set for the end of the shell behind an act. -/
def finishing (depth : Nat) (act : Act Unit) : Act Unit := do
  match depth with
  | 0 => Act.hang
  | depth + 1 =>
    match ← ExceptT.lift act.run with
    | .error .overran => throw .overran
    | .error (.ended signal) => throw (.ended signal)
    | _ =>
      let c ← Act.context
      if let some action := c.traps.lookup Signal.exit then
        Act.modifyContext fun c =>
          { c with traps := c.traps.filter (·.1 ≠ Signal.exit), trapStatus? := some c.status
                   minds := true, loops := 0, label := "" }
        match ← ExceptT.lift (Act.inside (script depth false action)).run with
        | .error .overran => throw .overran
        | .error (.ended signal) => throw (.ended signal)
        | .error .exit | .error .mistaken => return
        | _ => Act.setStatus c.status

/-- Runs the commands of a text, which are shown before if `shows` and an option of the
shell say so. -/
def script (depth : Nat) (shows : Bool) (text : String) : Act Unit := do
  match depth with
  | 0 => Act.hang
  | depth + 1 =>
    let text := text.toList.filter (· ≠ '\x00')
    match Reader.next? ⟨text, 1, 0, []⟩ with
    | .ok none => Act.setStatus 0
    | _ => Act.eachCommand (fun command => run depth command) shows ⟨text, 1, 0, []⟩ (text.length + 1)

/-- Runs a command that is made of words. -/
def runSimple (depth : Nat) (assignments : List (String × Word)) (words : List Word)
    (redirects : List Redirect) : Act Unit := do
  match depth with
  | 0 => Act.hang
  | depth + 1 =>
    Act.modifyContext fun c => { c with captured := 0 }
    let words ← expandCommand depth words
    let targets ← expandTargets depth redirects
    let before ← Act.context
    let call := Call.of before words
    let name := call.words.headD ""
    let args := call.words.drop 1
    let function? := call.function? before
    let special := call.isSpecial before
    let isExec := name = "exec" && function?.isNone
    let isTemporary := !words.isEmpty && !special
    let keys := assignments.map (·.1)
    let act : Act Unit := do
      if !(← Act.redirectAll targets) then
        Act.setStatus 2
        if special then throw .mistaken
      else
        let settings ← assignAll depth assignments
        if isTemporary || (isExec && !args.isEmpty) then
          Act.modifyContext fun c => { c with exported := keys ++ c.exported }
        trace depth (before.channels.lookup 2) (settings ++ words)
        if words.isEmpty then Act.setStatus (← Act.context).captured
        else
          match function? with
          | some body => callFunction depth body args
          | none =>
            if builtins.contains name then
              Act.forgiving special (Act.labelled "" (callBuiltin depth call.isStandard name args))
            else external depth false call.isStandard name args
    let act := if isTemporary && !keys.isEmpty then Act.withTemporary before keys act else act
    if isExec then act else Act.keepingChannels act

/-- Runs a command in a copy of the shell, or in the shell itself if that does nothing
else. -/
def runApart (depth : Nat) (targets : List (Nat × RedirectKind × String)) (inner : Command) :
    Act Unit := do
  match depth with
  | 0 => Act.hang
  | depth + 1 =>
    let act : Act Unit := do
      if !(← Act.redirectAll targets) then
        Act.setStatus 2
        throw .mistaken
      run depth inner
    let c ← Act.context
    if c.givesPlace && c.traps.isEmpty then
      act
      throw .exit
    else Act.inCopy (finishing depth act)

/-- Runs the left part of a pipe and then the right one, as if beside it; answers whether
the left one never ends, and what it wrote in vain: since when, and behind how many bytes. -/
def runPipe (depth : Nat) (gone? : Option (Nat × Nat)) (first second : Command) :
    Act (Bool × Option (Nat × Nat)) := do
  match depth with
  | 0 => Act.hang
  | depth + 1 =>
    let status := (← Act.context).status
    let begun := (← get).clock
    let pipe ← Act.openPipe gone?
    let left : Act Unit := do
      Act.inCopy do
        Act.setChannel 1 (some (.pipe pipe))
        finishing depth (run depth first)
      if !(← finishJobs depth fun job => job.context.channels.any (·.2 = .pipe pipe)) then Act.hang
    let overran ← match ← ExceptT.lift left.run with
      | .error .overran => pure true
      | .error stop => throw stop
      | .ok () => pure false
    let ended := (← get).clock
    let written ← Act.pipe pipe
    let stream : Stream := ⟨written.bytes, written.cycle, overran⟩
    let arrivals := written.inOrder.map fun (time, bytes) => (bytes.length, time)
    let source ← Act.openSource ⟨stream, arrivals, ended, none, false⟩
    modify fun s => { s with clock := begun }
    Act.setStatus status
    Act.inCopy do
      Act.setChannel 0 (some (.source source))
      finishing depth (run depth second)
    let settled := (← get).clock
    let room := pipeSize + (stream.bytes.length - (← Act.left source).bytes.length)
    if !overran then modify fun s => { s with clock := max settled ended }
    let isLate := written.inOrder.getLast?.any fun w => settled < w.1
    let isVain := written.cycle.isEmpty && (overran || isLate || room < written.size)
    return (overran, if isVain then some (settled, room) else none)

/-- Runs one command. -/
def run (depth : Nat) (command : Command) : Act Unit := do
  match depth with
  | 0 => Act.hang
  | depth + 1 =>
    if ← Act.hasOption 'n' then return
    let check := do
      settleJobs depth
      deliver depth
      let c ← Act.context
      if c.minds && c.options.contains 'e' && c.status ≠ 0 then throw .exit
    match command with
    | .simple line assignments words redirects =>
      Act.modifyContext fun c => { c with line }
      runSimple depth assignments words redirects
      check
    | .sequence commands =>
      let inPlace := (← Act.context).givesPlace
      Act.inside (commands.dropLast.forM fun command => run depth command)
      if let some last := commands.getLast? then
        Act.modifyContext fun c => { c with givesPlace := inPlace }
        run depth last
    | .both first second =>
      Act.asked (run depth first)
      if (← Act.context).status = 0 then run depth second
    | .either first second =>
      Act.asked (run depth first)
      if (← Act.context).status ≠ 0 then run depth second
    | .negation inner =>
      Act.asked (run depth inner)
      Act.setStatus (if (← Act.context).status = 0 then 1 else 0)
    | .pipe first second =>
      let before ← get
      let (overran, vain?) ← runPipe depth none first second
      match vain? with
      | none => if overran then Act.hang
      | some vain =>
        set before
        let (overran, _) ← runPipe depth (some vain) first second
        if overran then Act.hang
      check
    | .background inner =>
      let process ← Act.nextProcess
      let s ← get
      let c := s.context
      let signals := ["INT", "QUIT"].filterMap Signal.ofWord?
      let channels := (0, Channel.null) :: c.channels.filter (·.1 ≠ 0)
      let context := { c with
        channels, traps := Act.ignoring c.traps, deaf := signals ++ c.deaf, minds := true
        givesPlace := true, process, parents := c.process :: c.parents }
      set { s with
        jobs := s.jobs ++ [Job.mk process c.process s.clock context inner]
        context := { c with lastJob? := some process, status := 0 } }
    | .subshell line inner =>
      Act.modifyContext fun c => { c with line }
      runApart depth [] inner
      check
    | .redirected line (.subshell _ inner) redirects =>
      Act.modifyContext fun c => { c with line }
      runApart depth (← expandTargets depth redirects) inner
      check
    | .redirected line inner redirects =>
      Act.modifyContext fun c => { c with line }
      let targets ← expandTargets depth redirects
      Act.keepingChannels do
        if ← Act.redirectAll targets then Act.inside (run depth inner) else Act.setStatus 2
    | .choice condition yes no =>
      Act.asked (run depth condition)
      let chosen := if (← Act.context).status = 0 then yes else no
      match chosen with
      | .sequence [] => Act.setStatus 0
      | chosen => run depth chosen
    | .loop whileFails condition body =>
      let more : Act (Bool × Option Nat) := do
        let goesOn ← Act.round (Act.asked (run depth condition))
        if !goesOn || ((← Act.context).status = 0) = whileFails then return (false, none)
        else
          let goesOn ← Act.round (run depth body)
          return (goesOn, some (← Act.context).status)
      Act.looping (Act.rounds more 0 maxRounds)
    | .forEach line name words? body =>
      Act.modifyContext fun c => { c with line }
      let words ←
        match words? with
        | some words => expandAll depth words
        | none => do pure (← Act.context).args
      if words.isEmpty then Act.setStatus 0
      Act.looping do
        for word in words do
          Act.setVariable "" name word
          if !(← Act.round (run depth body)) then break
    | .select line word cases =>
      Act.modifyContext fun c => { c with line }
      let text ← textOf depth false word
      selectCase depth text.toList cases
    | .define name body =>
      Act.modifyContext fun c =>
        { c with functions := (name, body) :: c.functions.filter (·.1 ≠ name) }
      Act.setStatus 0

/-- Runs the first case with a pattern that matches. -/
def selectCase (depth : Nat) (text : List Char)
    (cases : List (List Word × Command)) : Act Unit := do
  match depth with
  | 0 => Act.hang
  | depth + 1 =>
    match cases with
    | [] => Act.setStatus 0
    | (patterns, body) :: more =>
      if ← patterns.anyM fun pattern => matchesPattern depth text pattern then
        match body with
        | .sequence [] => Act.setStatus 0
        | body => run depth body
      else selectCase depth text more

def matchesPattern (depth : Nat) (text : List Char) (pattern : Word) : Act Bool := do
  match depth with
  | 0 => Act.hang
  | depth + 1 =>
    let pattern := pattern.withHome (← Act.valueOf? "HOME") false
    return Glob.isMatch (← expand depth .whole .empty pattern).joined text

/-- Runs a job up to a time; answers when it ended, if it did. What it did is kept
if it ended, or if `partly` says so. -/
def runJob (depth : Nat) (partly : Bool) (limit : Nat) (job : Job) : Act (Option Nat) := do
  match depth with
  | 0 => Act.hang
  | depth + 1 =>
    let s ← get
    let inner := { s with context := job.context, clock := job.start, limit, jobs := [] }
    let (result, after) := (finishing depth (run depth job.command)).run.run inner
    let restored :=
      { after with context := s.context, clock := s.clock, limit := s.limit
                   jobs := s.jobs ++ after.jobs }
    let finished := fun (status : Nat) (signal? : Option Signal) => do
      let ending : JobEnd := ⟨job.process, job.owner, after.clock, status % 256, signal?⟩
      set { restored with ended := ending :: restored.ended }
      return some after.clock
    match result with
    | .error .overran =>
      if partly then
        let cutOff := restored.cutOff ++ [(job.process, Act.caught after.context)]
        set { restored with cutOff }
      return none
    | .error (.ended signal) => finished (128 + signal.number) (some signal)
    | _ => finished after.context.status none

/-- Runs the jobs that are over by now. -/
def settleJobs (depth : Nat) : Act Unit := do
  match depth with
  | 0 => Act.hang
  | depth + 1 =>
    let s ← get
    if !s.jobs.isEmpty then
      set { s with jobs := [] }
      for job in s.jobs do
        let ended? ← if job.start < s.clock then runJob depth false s.clock job else pure none
        if ended?.isNone then modify fun s => { s with jobs := s.jobs ++ [job] }

/-- Waits for some jobs; answers whether all of them end. -/
def finishJobs (depth : Nat) (chosen : Job → Bool) : Act Bool := do
  match depth with
  | 0 => Act.hang
  | depth + 1 =>
    let s ← get
    let (awaited, others) := s.jobs.partition chosen
    set { s with jobs := others }
    awaited.foldlM (fun finished job => do
      match ← runJob depth false s.limit job with
      | some clock =>
        modify fun s => { s with clock := max s.clock clock }
        return finished
      | none =>
        modify fun s => { s with jobs := s.jobs ++ [job] }
        return false) true

end

end Mender.Shell
