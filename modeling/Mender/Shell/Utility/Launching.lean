import Mender.Shell.Utility.Expression
import Mender.Shell.Utility.Words

/-!
# Utilities that run programs

Programs that run another one: in another environment, for a limited time, or once for
each part of the input. How a program is run is left open here.
-/

namespace Mender.Shell

/-- Runs a program by its name and arguments in the place of the one that asks for it;
answers why that is not possible. -/
abbrev Launch := String → List String → Act (Option SystemError)

/-- How a program ended that another one ran. -/
inductive ChildEnd where
  | exited (status : Nat)
  | ended (signal : Signal)
  | refused (e : SystemError)

/-- Runs a program and goes on behind it. -/
def Launch.child (launch : Launch) (name : String) (args : List String) : Act ChildEnd := do
  let before ← Act.context
  let result ← ExceptT.lift (launch name args).run
  let status := (← Act.context).status
  Act.modifyContext fun _ => before
  match result with
  | .ok none | .error .exit => return .exited (status % 256)
  | .ok (some e) => return .refused e
  | .error (.ended signal) => return .ended signal
  | .error stop => throw stop

namespace Utility

/-- The status of a program that cannot run another one. -/
def refusalStatus (e : SystemError) : Nat := if e = .notFound then 127 else 126

/-- Runs a program behind which nothing follows. -/
def runLast (launch : Launch) (label : String → String) (name program : String)
    (args : List String) : Act Nat := do
  match ← launch program args with
  | none => return (← Act.context).status
  | some e =>
    complain name (label program ++ ": " ++ e.words)
    return refusalStatus e

def failedToRun (program : String) : String := "failed to run command " ++ Quoting.always program

/-- The words of a text with blanks and quotes. -/
def splitWords (word? : Option (List Char)) (quote? : Option Char) : List Char → List String
  | [] => (word?.map fun w => String.ofList w.reverse).toList
  | c :: rest =>
    let grown := fun c => some (c :: word?.getD [])
    match quote? with
    | some q =>
      if c = q then splitWords (some (word?.getD [])) none rest
      else splitWords (grown c) quote? rest
    | none =>
      if c = '\'' || c = '"' then splitWords (some (word?.getD [])) (some c) rest
      else if ByteClass.isSpace c then
        (word?.map fun w => String.ofList w.reverse).toList ++ splitWords none none rest
      else splitWords (grown c) none rest

/-- Arguments in which texts to be split are replaced by their words. -/
def withSplitWords : List String → List String
  | "-S" :: text :: rest => splitWords none none text.toList ++ rest
  | word :: rest =>
    if word.startsWith "-S" then splitWords none none (word.toList.drop 2) ++ rest
    else if word.startsWith "--split-string=" then splitWords none none (word.toList.drop 15) ++ rest
    else if word.startsWith "-" then word :: withSplitWords rest
    else word :: rest
  | [] => []

/-- Runs a program in another environment, or shows the environment. -/
def env (launch : Launch) : Utility := fun name words =>
  withOptions
    [flag 'i' "ignore-environment", valued 'u' "unset", valued 'C' "chdir", flag '0' "null",
     flag 'v' "debug"] false 125 (fun name o => do
    let (clears, operands) := match o.operands with
      | "-" :: rest => (true, rest)
      | operands => (o.has "i", operands)
    if clears then Act.modifyContext fun c => { c with vars := [], exported := [] }
    for key in o.values "u" do
      if key.isEmpty || key.toList.contains '=' then
        complain name ("cannot unset " ++ Quoting.always key ++ ": Invalid argument")
        return 125
      Act.modifyContext fun c => { c with vars := c.vars.filter (·.1 ≠ key) }
    let settings := operands.takeWhile fun a => a.toList.contains '='
    for word in settings do
      let key := String.ofList (word.toList.takeWhile (· ≠ '='))
      let value := String.ofList (word.toList.drop (key.length + 1))
      Act.modifyContext fun c =>
        { c with vars := Act.withValue key (some value) c.vars, exported := key :: c.exported }
    let command := operands.drop settings.length
    if let some path := o.value? "C" then
      if command.isEmpty then
        return ← misused 125 name "must specify command with --chdir (-C)"
      match (← Act.disk).find path with
      | .ok (l, .directory) => Act.modifyContext fun c => { c with cwd := l }
      | .ok _ =>
        complain name ("cannot change directory to " ++ Quoting.always path ++ ": Not a directory")
        return 125
      | .error e =>
        complain name ("cannot change directory to " ++ Quoting.always path ++ ": " ++ e.words)
        return 125
    match command with
    | [] =>
      for (key, value) in (← Act.context).vars do
        Act.print (key ++ "=" ++ value ++ if o.has "0" then "\x00" else "\n")
      return 0
    | program :: args =>
      match ← launch program args with
      | none => return (← Act.context).status
      | some e =>
        complain name (Quoting.always program ++ ": " ++ e.words)
        if e = .notFound && program.toList.any ByteClass.isSpace then
          complain name "use -[v]S to pass options in shebang lines"
        return refusalStatus e) name (withSplitWords words)

/-- Runs a program that does not end with its terminal. -/
def nohup (launch : Launch) : Utility := withOptions [] false 125 fun name o => do
  match o.operands with
  | [] => misused 125 name "missing operand"
  | program :: args => runLast launch failedToRun name program args

/-- Runs a program with less of a claim to be run. -/
def nice (launch : Launch) : Utility := fun name words => do
  let words := words.map fun w =>
    match w.toList with
    | '-' :: c :: _ => if Text.isDigit c then "-n" ++ (w.drop 1).toString else w
    | _ => w
  withOptions [valued 'n' "adjustment"] false 125 (fun name o => do
    if let some value := o.value? "n" then
      if (Expression.integer? value).isNone then
        complain name ("invalid adjustment " ++ Quoting.always value)
        return 125
    match o.operands with
    | [] =>
      Act.print "0\n"
      return 0
    | program :: args => runLast launch Quoting.always name program args) name words

/-- Runs a program in a session of its own. -/
def setsid (launch : Launch) : Utility :=
  withOptions [flag 'c' "ctty", flag 'f' "fork", flag 'w' "wait"] false 1 fun name o => do
    match o.operands with
    | [] => misused 1 name "no command specified"
    | program :: args => runLast launch (fun p => "failed to execute " ++ p) name program args

/-- Runs a program whose output is held back in another way. -/
def stdbuf (launch : Launch) : Utility :=
  withOptions [valued 'i' "input", valued 'o' "output", valued 'e' "error"] false 125 fun name o => do
    match o.operands with
    | [] => misused 125 name "missing operand"
    | program :: args =>
      if o.given.isEmpty then misused 125 name "you must specify a buffering mode option"
      else runLast launch failedToRun name program args

/-- Runs a program and ends it when its time is up. -/
def timeout (launch : Launch) : Utility :=
  withOptions [longFlag "preserve-status", longFlag "foreground", valued 'k' "kill-after",
      valued 's' "signal", flag 'v' "verbose"] false 125 fun name o => do
    let signal? := match o.value? "s" with
      | none => some Signal.term
      | some word => Signal.ofWord? (if word.startsWith "SIG" then (word.drop 3).toString else word)
    let signal ← match signal? with
      | some signal => pure signal
      | none =>
        return ← misused 125 name (Quoting.always ((o.value? "s").getD "") ++ ": invalid signal")
    match o.operands with
    | [] | [_] =>
      hint name
      return 125
    | word :: program :: args =>
      let span ← match spanOf? word with
        | some span => pure span
        | none => return ← misused 125 name ("invalid time interval " ++ Quoting.word word)
      let s ← get
      let stop := match span with
        | .finite f => if f.num = 0 then s.limit else s.clock + (f.num + f.den - 1) / f.den
        | _ => s.limit
      set { s with limit := min s.limit stop }
      let result ← ExceptT.lift (launch.child program args).run
      modify fun after => { after with limit := s.limit, context := s.context }
      match result with
      | .ok (.exited status) => return status
      | .ok (.ended signal) => throw (.ended signal)
      | .ok (.refused e) =>
        complain name (failedToRun program ++ ": " ++ e.words)
        return refusalStatus e
      | .error .overran =>
        if s.limit ≤ stop then Act.hang
        else if signal.isFinal then throw (.ended signal)
        else return if o.has "preserve-status" then 128 + signal.number else 124
      | .error e => throw e

/-- Why words cannot be taken from an input. -/
def openQuoteText (quote : Char) : String :=
  "unmatched " ++ (if quote = '"' then "double" else "single") ++
    " quote; by default quotes are special to xargs unless you use the -0 option"

/-- The words on each line of a text with blanks, quotes and backslashes, and the quote
that is left open, if there is one. -/
def quotedWords (lines : List (List String)) (line : List String) (word? : Option (List Char))
    (quote? : Option Char) (passed : Nat) : List Char → List (List String) × Option Char
  | [] =>
    let line := line ++ (word?.map fun w => String.ofList w.reverse).toList
    (if line.isEmpty then lines else lines ++ [line], quote?)
  | c :: rest =>
    let grown := fun c => some (c :: word?.getD [])
    match passed, quote? with
    | passed + 1, _ => quotedWords lines line word? quote? passed rest
    | 0, some q =>
      if c = q then quotedWords lines line (some (word?.getD [])) none 0 rest
      else if c = '\n' then (lines, quote?)
      else quotedWords lines line (grown c) quote? 0 rest
    | 0, none =>
      if c = '\'' || c = '"' then quotedWords lines line (some (word?.getD [])) (some c) 0 rest
      else if c = '\\' then
        match rest with
        | d :: _ => quotedWords lines line (grown d) none 1 rest
        | [] => quotedWords lines line word? none 0 rest
      else if c = '\n' then
        let line := line ++ (word?.map fun w => String.ofList w.reverse).toList
        quotedWords (if line.isEmpty then lines else lines ++ [line]) [] none none 0 rest
      else if c = ' ' || c = '\t' then
        quotedWords lines (line ++ (word?.map fun w => String.ofList w.reverse).toList) none none 0 rest
      else quotedWords lines line (grown c) none 0 rest

/-- Parts of a list with so many members each. -/
def inGroups {α : Type} (size budget : Nat) (xs : List α) : List (List α) :=
  match budget, xs with
  | 0, _ | _, [] => []
  | budget + 1, xs => xs.take size :: inGroups size budget (xs.drop size)

/-- Runs a program with the words of the input as further arguments. -/
def xargs (launch : Launch) : Utility :=
  withOptions [flag '0' "null", valued 'a' "arg-file", valued 'd' "delimiter", valued 'I' "",
      ⟨some 'i', "replace", .optional⟩, valued 'L' "max-lines", ⟨some 'l', "", .optional⟩,
      valued 'n' "max-args", valued 'P' "max-procs", flag 'r' "no-run-if-empty", valued 's' "max-chars",
      flag 't' "verbose", flag 'x' "exit", flag 'o' "open-tty", valued 'E' "",
      flag 'p' "interactive"] false 1 fun name o => do
    for key in ["n", "L"] do
      if let some value := o.value? key then
        match Expression.integer? value with
        | none => return ← misused 1 name ("invalid number \"" ++ value ++ "\" for -" ++ key ++ " option")
        | some n =>
          if n < 1 then
            return ← misused 1 name ("value " ++ value ++ " for -" ++ key ++ " option should be >= 1")
    let file? := o.value? "a"
    let bytes ← match ← (match file? with
        | some path => Act.readPath path
        | none => Act.readDescriptor 0) with
      | .ok reading => finite reading.stream
      | .error e =>
        match file? with
        | some path =>
          complain name ("Cannot open input file " ++ Quoting.always path ++ ": " ++ e.words)
          return 1
        | none => pure []
    let mark? := (o.lastOf? ["I", "i"]).map fun key =>
      let value := (o.value? key).getD ""
      if value.isEmpty then "\x7b\x7d" else value
    let delimiter? := if o.has "0" then some 0
      else (o.value? "d").map fun d => ((Printf.unescape 0 d.toList).1).headD 0
    let (lines, open?) : List (List String) × Option Char := match delimiter? with
      | some d => ((piecesOf d bytes).map fun p => [ByteText.ofBytes p], none)
      | none =>
        if mark?.isSome then
          let texts := (piecesOf 10 bytes).map fun p =>
            (charsOf p).dropWhile fun c => c = ' ' || c = '\t'
          ((texts.filter (!·.isEmpty)).map fun cs => [String.ofList cs], none)
        else quotedWords [] [] none none 0 (charsOf bytes)
    let (program, fixed) := match o.operands with
      | [] => ("echo", [])
      | program :: args => (program, args)
    let words := lines.flatten
    let number := fun key => (o.value? key).map fun v => Decimal.value v.toList
    let calls := match mark?, number "L", number "n" with
      | some mark, _, _ => words.map fun w => fixed.map (·.replace mark w)
      | none, some n, _ => (inGroups n lines.length lines).map fun ls => fixed ++ ls.flatten
      | none, none, some n => (inGroups n words.length words).map (fixed ++ ·)
      | none, none, none => if words.isEmpty then [] else [fixed ++ words]
    let calls := if words.isEmpty && mark?.isNone && !o.has "r" && open?.isNone then [fixed] else calls
    Act.setChannel 0 (some .null)
    if let some quote := open? then complain name (openQuoteText quote)
    let mut status := 0
    for args in calls do
      if o.has "t" then Act.complain (" ".intercalate ((program :: args).map Quoting.ifNeeded) ++ "\n")
      match ← launch.child program args with
      | .exited 0 => pure ()
      | .exited 255 =>
        complain name (program ++ ": exited with status 255; aborting")
        return 124
      | .exited _ => status := 123
      | .ended signal =>
        complain name (program ++ ": terminated by signal " ++ Decimal.natText signal.number)
        return 125
      | .refused e =>
        complain name (program ++ ": " ++ e.words)
        return refusalStatus e
    return if open?.isSome then 1 else status

/-- The programs that run others, by their names. -/
def launchers : List (String × (Launch → Utility)) :=
  [("env", env), ("nohup", nohup), ("nice", nice), ("setsid", setsid), ("stdbuf", stdbuf),
   ("timeout", timeout), ("xargs", xargs)]

end Utility

end Mender.Shell
