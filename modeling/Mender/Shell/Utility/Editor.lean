import Mender.Shell.Utility.Editor.Reader
import Mender.Shell.Utility.Streams

/-!
# The stream editor

A script edits a stream line by line. Beside the line under way it can hold another one,
and what it prints may also go into files.
-/

namespace Mender.Shell.Editor

open Text

/-- A line of the input, whether it has an end, and the file that it is in. -/
structure InputLine where
  text : List Char
  isEnded : Bool
  file : String
  /-- The number of the file. -/
  fileNumber : Nat

/-- What was written, the latest first, and whether the last line has no end yet. -/
structure Output where
  written : List (List Char)
  lacksEnd : Bool

namespace Output

def empty : Output := ⟨[], false⟩

def all (o : Output) : List Char := o.written.reverse.flatten

/-- Ends the last line. -/
def ended (ending : Char) (o : Output) : Output :=
  if o.lacksEnd then ⟨[ending] :: o.written, false⟩ else o

def raw (ending : Char) (cs : List Char) (o : Output) : Output :=
  let o := o.ended ending
  { o with written := cs :: o.written }

def line (ending : Char) (cs : List Char) (isEnded : Bool) (o : Output) : Output :=
  let o := o.raw ending cs
  if isEnded then { o with written := [ending] :: o.written } else { o with lacksEnd := true }

end Output

/-- Whether the lines of a command with two addresses are under way; then perhaps up to
a line. -/
inductive Span where
  | idle
  | active (stop? : Option Nat)
  | over
  deriving DecidableEq, Repr

/-- What stays the same while a script runs. -/
structure Setting where
  script : Script
  /-- Whether lines are printed only where the script says so. -/
  isSilent : Bool
  /-- What ends lines. -/
  ending : Char
  listWidth : Nat
  /-- What is in the files that the script reads. -/
  content? : String → Option (List Char)

/-- What a script works on. -/
structure Editing where
  text : List Char
  isEnded : Bool
  held : List Char
  heldIsEnded : Bool
  number : Nat
  file : String
  rest : List InputLine
  replaced : Bool
  spans : Array Span
  /-- What is written behind the line. -/
  queue : List (List Char)
  lastPattern? : Option Pattern
  output : Output
  files : List (String × Output)
  /-- What is left of files that are read line by line. -/
  readers : List (String × List Char)
  errors : List Char

/-- How a script goes on behind a command. -/
inductive Flow where
  | goOn (place : Nat)
  /-- With the next line, after this one is printed. -/
  | nextLine
  | nextLineSilently
  /-- With the first command and the same line. -/
  | again
  | quit (status : Nat)
  deriving DecidableEq, Repr

abbrev Run := ExceptT String (StateM Editing)

namespace Run

/-- The pattern that is meant. -/
def meant (p : Pattern) : Run Pattern := do
  match p.regex?, (← get).lastPattern? with
  | some _, _ =>
    modify fun e => { e with lastPattern? := some p }
    return p
  | none, some last => return last
  | none, none => throw "no previous regular expression"

def subject (p : Pattern) (text : List Char) : Regex.Subject := ⟨text.toArray, p.ignoreCase, p.hasLines⟩

def matchesText (p : Pattern) : Run Bool := do
  let p ← meant p
  return (p.regex?.getD .never).isMatch (subject p (← get).text)

/-- Whether the line under way is the one that an address means. -/
def isAt : Address → Run Bool
  | .line n => return (← get).number = n
  | .every first step => do
    let n := (← get).number
    return first ≤ n && (n - first) % step = 0
  | .last => return (← get).rest.isEmpty
  | .pattern p => matchesText p
  | .further _ | .multiple _ => return false

def setSpan (place : Nat) (span : Span) : Run Unit :=
  modify fun e => { e with spans := e.spans.setIfInBounds place span }

/-- Whether a command works on the line under way. -/
def selects (c : EditCommand) (place : Nat) : Run Bool := do
  match c.first?, c.last? with
  | none, _ => return true
  | some first, none => isAt first
  | some first, some final =>
    let n := (← get).number
    match ((← get).spans[place]?).getD .idle with
    | .active (some stop) =>
      if stop ≤ n then setSpan place .over
      return n ≤ stop
    | .active none =>
      if ← isAt final then setSpan place .over
      return true
    | span =>
      let isLine := match first with
        | .line _ => true
        | _ => false
      if span = .over && isLine then return false
      if !(← isAt first) then return false
      let stop? := match final with
        | .line m => some m
        | .further m => some (n + m)
        | .multiple m => some (if m = 0 then n else (n + m - 1) / m * m)
        | _ => none
      if stop?.any (· ≤ n) then
        if isLine then setSpan place .over
      else setSpan place (.active stop?)
      return true

def print (text : List Char) (isEnded : Bool) (ending : Char) : Run Unit :=
  modify fun e => { e with output := e.output.line ending text isEnded }

/-- Writes a line into a file. -/
def printTo (path : String) (text : List Char) (isEnded : Bool) (ending : Char) : Run Unit := do
  if path = "/dev/stdout" then print text isEnded ending
  else if path = "/dev/stderr" then
    modify fun e => { e with errors := e.errors ++ text ++ [ending] }
  else
    modify fun e =>
      let before := (e.files.lookup path).getD .empty
      { e with files := (path, before.line ending text isEnded) :: e.files.filter (·.1 ≠ path) }

/-- How letters are changed: by themselves, and once the next one. -/
structure Casing where
  mode : CaseChange
  once? : Option CaseChange

def recased (c : Casing) (cs : List Char) : List Char :=
  let byMode := fun c' : Char => match c.mode with
    | .upper => c'.toUpper
    | .lower => c'.toLower
    | _ => c'
  match c.once?, cs with
  | some .nextUpper, first :: rest => first.toUpper :: rest.map byMode
  | some .nextLower, first :: rest => first.toLower :: rest.map byMode
  | _, cs => cs.map byMode

/-- What is put in the place of a match. -/
def filledIn (text : Array Char) (m : Regex.Match) (c : Casing) : List NewPiece → List Char
  | [] => []
  | .change next :: rest =>
    match next with
    | .nextUpper | .nextLower => filledIn text m { c with once? := some next } rest
    | mode => filledIn text m ⟨mode, none⟩ rest
  | .text cs :: rest => recased c cs ++ filledIn text m { c with once? := none } rest
  | .part n :: rest =>
    let (start, stop) := if n = 0 then (m.start, m.stop) else (m.parts.lookup n).getD (0, 0)
    let cs := (text.extract start stop).toList
    let after := if cs.isEmpty then c else { c with once? := none }
    recased c cs ++ filledIn text m after rest

/-- Replaces what is found from a place on, behind `count` matches. A match that is empty
does not count where the one before ended. -/
def replacedFrom (s : Substitution) (r : Regex) (subject : Regex.Subject) :
    (budget start count : Nat) → (before? : Option Nat) → List Char × Bool
  | 0, _, _, _ => ([], false)
  | budget + 1, start, count, before? =>
    let part := fun (a b : Nat) => (subject.text.extract a b).toList
    let size := subject.text.size
    match r.find? subject start with
    | none => (part start size, false)
    | some m =>
      if m.start = m.stop && before? = some m.start then
        if m.start ≥ size then (part start size, false)
        else
          let (rest, done) := replacedFrom s r subject budget (m.start + 1) count none
          (part start (m.start + 1) ++ rest, done)
      else
        let count := count + 1
        let isCounted := s.number ≤ count
        let new := if isCounted then filledIn subject.text m ⟨.keep, none⟩ s.new
          else part m.start m.stop
        let shown := part start m.start ++ new
        if isCounted && !s.everywhere then (shown ++ part m.stop size, true)
        else if m.start = m.stop then
          if m.stop ≥ size then (shown, isCounted)
          else
            let (rest, done) := replacedFrom s r subject budget (m.stop + 1) count none
            (shown ++ part m.stop (m.stop + 1) ++ rest, isCounted || done)
        else
          let (rest, done) := replacedFrom s r subject budget m.stop count (some m.stop)
          (shown ++ rest, isCounted || done)

/-- Takes the next line of the input; answers whether there is one. -/
def takeLine (joins : Bool) (ending : Char) : Run Bool := do
  let e ← get
  match e.rest with
  | [] => return false
  | line :: rest =>
    let text := if joins then e.text ++ ending :: line.text else line.text
    set { e with text, isEnded := line.isEnded, rest, number := e.number + 1, file := line.file
                 replaced := false }
    return true

/-- A character as it is listed. -/
def listedChar (c : Char) : List Char :=
  if c = '\\' then ['\\', '\\'] else if ' ' ≤ c && c ≤ '~' then [c] else Quoting.escape c

/-- A text in rows of a width, behind `here` columns. -/
def listed (width here : Nat) : List Char → List Char
  | [] => ['$']
  | c :: rest =>
    let shown := listedChar c
    if 0 < width && width - 1 < here + shown.length then
      '\\' :: '\n' :: shown ++ listed width shown.length rest
    else shown ++ listed width (here + shown.length) rest

/-- The line that comes next in a text, with its end, and what follows. -/
def firstLine (ending : Char) (cs : List Char) : List Char × List Char :=
  let line := cs.takeWhile (· ≠ ending)
  (line ++ (cs.drop line.length).take 1, cs.drop (line.length + 1))

def jump (setting : Setting) (name : String) : Flow :=
  if name.isEmpty then .nextLine
  else
    match setting.script.placeOf? name with
    | some place => .goOn place
    | none => .nextLine

/-- Does what a command at a place says. -/
def perform (setting : Setting) (c : EditCommand) (place : Nat) : Run Flow := do
  let e ← get
  let ending := setting.ending
  let next := Flow.goOn (place + 1)
  let enqueue := fun (cs : List Char) => do
    modify fun e => { e with queue := e.queue ++ [cs] }
    return next
  match c.edit with
  | .openBlock | .closeBlock | .label _ => return next
  | .jump name => return jump setting name
  | .jumpIfReplaced name =>
    set { e with replaced := false }
    return if e.replaced then jump setting name else next
  | .jumpUnlessReplaced name =>
    set { e with replaced := false }
    return if e.replaced then next else jump setting name
  | .substitute s =>
    let p ← meant s.pattern
    let (text, done) :=
      replacedFrom s (p.regex?.getD .never) (subject p e.text) (2 * e.text.length + 3) 0 0 none
    if done then
      modify fun e => { e with text, replaced := true }
      if s.printed then print text e.isEnded ending
      if let some path := s.file? then printTo path text e.isEnded ending
    return next
  | .exchange pairs =>
    set { e with text := e.text.map fun c => (pairs.lookup c).getD c }
    return next
  | .append text => enqueue text
  | .insert text =>
    set { e with output := e.output.raw ending text }
    return next
  | .replace text =>
    let isUnderWay := match e.spans[place]? with
      | some (.active _) => true
      | _ => false
    if !isUnderWay || c.inverted then set { e with output := e.output.raw ending text }
    return .nextLineSilently
  | .delete => return .nextLineSilently
  | .deleteFirst =>
    if e.text.contains ending then
      set { e with text := (firstLine ending e.text).2 }
      return .again
    else return .nextLineSilently
  | .print =>
    print e.text e.isEnded ending
    return next
  | .printFirst =>
    print (e.text.takeWhile (· ≠ ending)) true ending
    return next
  | .printNumber =>
    print (Decimal.digits e.number) true '\n'
    return next
  | .printName =>
    print e.file.toList true '\n'
    return next
  | .list width? =>
    print (listed (width?.getD setting.listWidth) 0 e.text) true '\n'
    return next
  | .next =>
    if e.rest.isEmpty then return .nextLine
    if !setting.isSilent then print e.text e.isEnded ending
    dump
    let _ ← takeLine false ending
    return next
  | .join =>
    if e.rest.isEmpty then return .nextLine
    dump
    return if ← takeLine true ending then next else .nextLine
  | .hold =>
    set { e with held := e.text, heldIsEnded := e.isEnded }
    return next
  | .holdMore =>
    set { e with held := e.held ++ ending :: e.text }
    return next
  | .fetch =>
    set { e with text := e.held, isEnded := e.heldIsEnded }
    return next
  | .fetchMore =>
    set { e with text := e.text ++ ending :: e.held }
    return next
  | .swap =>
    set { e with text := e.held, isEnded := e.heldIsEnded, held := e.text, heldIsEnded := e.isEnded }
    return next
  | .empty =>
    set { e with text := [] }
    return next
  | .quit status =>
    if !setting.isSilent then print e.text e.isEnded ending
    dump
    return .quit status
  | .quitSilently status => return .quit status
  | .readFile path => enqueue ((setting.content? path).getD [])
  | .readLine path =>
    let left := ((e.readers.lookup path).orElse fun _ => setting.content? path).getD []
    if left.isEmpty then return next
    let (line, left) := firstLine ending left
    modify fun e => { e with readers := (path, left) :: e.readers.filter (·.1 ≠ path) }
    enqueue line
  | .writeFile path =>
    printTo path e.text e.isEnded ending
    return next
  | .writeFirst path =>
    printTo path (e.text.takeWhile (· ≠ ending)) true ending
    return next
where
  /-- Writes what is queued behind the line. -/
  dump : Run Unit :=
    modify fun e =>
      if e.queue.isEmpty then e
      else { e with output := e.queue.foldl (fun o cs => o.raw setting.ending cs) e.output, queue := [] }

/-- Runs the commands from a place on. -/
def commandsFrom (setting : Setting) (budget place : Nat) : Run (Option (Flow × Nat)) := do
  match budget with
  | 0 => return none
  | budget + 1 =>
    match setting.script.commands[place]? with
    | none => return some (.nextLine, budget)
    | some c =>
      if (← selects c place) = c.inverted then
        let after := if c.edit = .openBlock then
            setting.script.behindBlock (setting.script.commands.size + 1) 0 (place + 1)
          else place + 1
        commandsFrom setting budget after
      else
        match ← perform setting c place with
        | .goOn place => commandsFrom setting budget place
        | flow => return some (flow, budget)

/-- Runs the script on all lines; answers with the status that it asked for, or that it
does not end. -/
def cycles (setting : Setting) (steps : Nat) (reads : Bool) : (budget : Nat) → Run (Option (Option Nat))
  | 0 => return none
  | budget + 1 => do
    if reads then
      if !(← takeLine false setting.ending) then return some none
    match ← commandsFrom setting steps 0 with
    | none => return none
    | some (flow, _) =>
      match flow with
      | .quit status => return some (some status)
      | flow =>
        if (flow = .nextLine || flow = .goOn 0) && !setting.isSilent then
          let e ← get
          print e.text e.isEnded setting.ending
        perform.dump setting
        cycles setting steps (flow ≠ .again) budget

end Run

/-- The commands whose lines are under way before the first one. -/
def firstSpans (script : Script) : Array Span :=
  script.commands.map fun c => if c.first? = some (.line 0) then .active none else .idle

end Mender.Shell.Editor

namespace Mender.Shell.Utility

open Text Editor

def editorOptions : List OptionSpec :=
  [flag 'n' "quiet", longFlag "silent", valued 'e' "expression", valued 'f' "file",
   flag 'E' "regexp-extended", flag 'r' "", ⟨some 'i', "in-place", .optional⟩,
   valued 'l' "line-length", flag 's' "separate", flag 'u' "unbuffered", flag 'z' "null-data",
   longFlag "zero-terminated", longFlag "posix", longFlag "debug", longFlag "sandbox",
   longFlag "follow-symlinks", flag 'b' "binary", longFlag "help", longFlag "version"]

/-- How often a script may go on before it counts as endless. -/
def maxEditSteps : Nat := 20000

/-- The lines of a text for the editor. -/
def inputLines (ending : Char) (file : String) (fileNumber : Nat) (bytes : Bytes) : List InputLine :=
  let mark := UInt8.ofNat ending.toNat
  let pieces := piecesOf mark bytes
  let lacksEnd := bytes.getLast?.any (· ≠ mark)
  pieces.zipIdx.map fun (piece, i) =>
    ⟨charsOf piece, !(lacksEnd && i + 1 = pieces.length), file, fileNumber⟩

/-- Where a copy of a file is kept that is edited. -/
def copyName (suffix path : String) : String :=
  let name := (path.toList.reverse.takeWhile (· ≠ '/')).reverse
  let directory := path.toList.take (path.length - name.length)
  let copy := if suffix.toList.contains '*' then
      suffix.toList.flatMap fun c => if c = '*' then name else [c]
    else name ++ suffix.toList
  String.ofList (if copy.contains '/' then copy else directory ++ copy)

/-- The pieces of the script that options name, and the other operands. -/
def scriptPieces (name : String) (o : Options) :
    Act (Except (String × Nat) (List ScriptPiece × List String)) := do
  let mut pieces : List ScriptPiece := []
  let mut number := 0
  for (key, value) in o.given do
    if key = "e" then
      number := number + 1
      pieces := pieces ++ [⟨none, number, value.toList⟩]
    if key = "f" then
      match ← if value = "-" then Act.readDescriptor 0 else Act.readPath value with
      | .error e =>
        return .error ((if e = .isDirectory then "couldn't read " ++ value ++ ": " ++ e.words
          else "couldn't open file " ++ value ++ ": " ++ e.words), 4)
      | .ok reading =>
        let cs := charsOf (← finite reading.stream)
        let cs := if cs.getLast? = some '\n' then cs.dropLast else cs
        pieces := pieces ++ [⟨some value, number, cs⟩]
  if pieces.isEmpty then
    match o.operands with
    | script :: paths => return .ok ([⟨none, 1, script.toList⟩], paths)
    | [] =>
      return .error ("Usage: " ++ name ++
        " [OPTION]... \x7bscript-only-if-no-other-script\x7d [input-file]...", 1)
  return .ok (pieces, o.operands)

/-- Puts the content of an edited file into its place. -/
def replaceFile (path : String) (suffix : String) (bytes : Bytes) : Act Unit := do
  let d ← Act.disk
  match d.look path, d.find path with
  | .ok (l, old), .ok (_, .file _ executable) =>
    if (d.fault? l).isSome then return
    let d := if suffix.isEmpty then d
      else
        match d.walk .listed (copyName suffix path) with
        | .ok ⟨.vacant directory name, _, _⟩ => d.put (directory ++ [name]) old
        | .ok ⟨.found m _, _, _⟩ => d.put m old
        | .error _ => d
    Act.setDisk (d.put l (.file bytes executable))
  | _, _ => return

/-- What an input of the editor is. -/
structure EditorInput where
  path : String
  /-- The lines, or why there are none. -/
  lines : Except SystemError (List InputLine)
  reading? : Option Reading

def sed : Utility := withOptions editorOptions true 1 fun name o => do
  match ← scriptPieces name o with
  | .error (text, status) =>
    if status = 1 then Act.complain (text ++ "\n") else complain name text
    return status
  | .ok (pieces, paths) =>
  match Script.ofPieces (o.has "E" || o.has "r") pieces with
  | .error mistake =>
    complain name mistake.text
    return mistake.status
  | .ok script =>
  let suffix? := o.value? "i"
  let isApart := o.has "s" || suffix?.isSome
  let ending := if o.has "z" || o.has "zero-terminated" then '\x00' else '\n'
  -- The files that are written into are there from the start.
  let mut targets : List (String × Channel) := []
  for path in (script.commands.toList.filterMap (·.target?)).eraseDups do
    if path ≠ "/dev/stdout" && path ≠ "/dev/stderr" then
      match ← Act.openOutput false false path with
      | .ok channel => targets := targets ++ [(path, channel)]
      | .error e =>
        complain name ("couldn't open file " ++ path ++ ": " ++ e.words)
        return 4
  if suffix?.isSome && paths.isEmpty then
    complain name "no input files"
    return 4
  let d ← Act.disk
  let content? := fun path : String =>
    match d.read path with
    | .ok data => some (charsOf data)
    | .error _ => none
  let input? ← Act.readDescriptor 0
  let setting : Setting :=
    { script, isSilent := o.has "n" || o.has "silent" || script.isSilent, ending
      listWidth := ((o.value? "l").map fun w => Decimal.value w.toList).getD 70
      content? := fun path =>
        if path = "/dev/stdin" then input?.toOption.map fun r => charsOf r.stream.bytes
        else content? path }
  let usesInput := paths.isEmpty || (paths.contains "-" && suffix?.isNone)
  if !usesInput then
    if let .ok reading := input? then Act.stopReading reading 0
  let mut inputs : List EditorInput := []
  for (path, i) in (if paths.isEmpty then ["-"] else paths).zipIdx do
    let isInput := path = "-" && suffix?.isNone
    match ← if isInput then pure input? else Act.readPath path with
    | .error e => inputs := inputs ++ [⟨path, .error e, none⟩]
    | .ok reading =>
      let bytes := if reading.stream.isEndless then reading.stream.take 20000 else reading.stream.bytes
      inputs := inputs ++ [⟨path, .ok (inputLines ending path i bytes), some reading⟩]
  let groups := if isApart then inputs.map ([·]) else [inputs]
  let mut e : Editing :=
    { text := [], isEnded := true, held := [], heldIsEnded := true, number := 0, file := "-", rest := []
      replaced := false, spans := firstSpans script, queue := [], lastPattern? := none
      output := .empty, files := [], readers := [], errors := [] }
  let mut status := 0
  let mut stopped := false
  for group in groups do
    if stopped then break
    -- Nothing is read behind a directory.
    let readable := group.takeWhile fun i => match i.lines with
      | .error .isDirectory => suffix?.isSome
      | _ => true
    let lines := readable.flatMap fun i => i.lines.toOption.getD []
    let start : Editing :=
      { e with rest := lines, number := 0, spans := firstSpans script
               output := if suffix?.isSome then .empty else e.output }
    let count := lines.length
    let (result, after) := (Run.cycles setting maxEditSteps true (count + maxEditSteps)).run.run start
    e := after
    let used := count - after.rest.length
    let quit := match result with
      | .ok (some (some _)) => true
      | _ => false
    -- What cannot be read is named when its turn comes.
    let mut before := 0
    for i in group do
      match i.lines with
      | .ok ls => before := before + ls.length
      | .error err =>
        if !stopped && (!quit || before < used) then
          if err = .isDirectory then
            if suffix?.isSome then complain name ("couldn't edit " ++ i.path ++ ": not a regular file")
            else
              complain name ("read error on " ++ i.path ++ ": " ++ err.words)
              stopped := true
            status := 4
          else
            complain name ("can't read " ++ i.path ++ ": " ++ err.words)
            status := max status 2
    match result with
    | .error text =>
      complain name ("-e expression #" ++ Decimal.natText (pieces.filter (·.file?.isNone)).length ++
        ", char 0: " ++ text)
      status := 1
      stopped := true
    | .ok none => Act.hang
    | .ok (some (some n)) =>
      status := if n = 0 then status else n
      stopped := true
    | .ok (some none) =>
      if group.any fun i => i.reading?.any (·.stream.isEndless) then Act.hang
    -- What was read too much is there for others.
    if quit then
      for i in group do
        if let some reading := i.reading? then
          let size := if reading.stream.isEndless then (reading.stream.take 20000).length
            else reading.stream.bytes.length
          let left := (after.rest.map fun l => l.text.length + 1).foldl (· + ·) 0
          Act.stopReading reading (size - min size left)
    if let some suffix := suffix? then
      for i in group do
        if i.lines.isOk then replaceFile i.path suffix (ByteText.bytesOf after.output.all)
  if !e.errors.isEmpty then Act.complain (String.ofList e.errors)
  if suffix?.isNone then Act.write 1 (ByteText.bytesOf e.output.all)
  let before ← Act.channel? 1
  for (path, channel) in targets do
    Act.setChannel 1 (some channel)
    Act.write 1 (ByteText.bytesOf ((e.files.lookup path).getD .empty).all)
  Act.setChannel 1 before
  return status

end Mender.Shell.Utility
