import Mender.Shell.Condition
import Mender.Shell.Fields
import Mender.Shell.Parameter
import Mender.Shell.Program
import Mender.Shell.Reader.Basic
import Mender.Shell.Utility

/-!
# Commands of the shell itself

The commands that read or change the state of the shell and run no other command.
A mistake in one of the special commands ends the shell.
-/

namespace Mender.Shell

open Text

/-- All commands of the shell itself. -/
def builtins : List String :=
  specialBuiltins ++ ["alias", "bg", "cd", "chdir", "command", "echo", "false", "fg", "getopts",
    "hash", "jobs", "kill", "printf", "pwd", "read", "test", "[", "true", "type", "ulimit", "umask",
    "unalias", "wait"]

/-- Commands whose arguments may be assignments. -/
def declarations : List String := ["export", "readonly", "local", "alias"]

/-- What a word is as the name of a command. -/
inductive CommandKind where
  | keyword
  | shorthand (text : String)
  | function
  | specialBuiltin
  | builtin
  | program (path : String) (known : Bool)
  deriving DecidableEq, Repr

/-- Where the shell looks for programs. -/
def searchPath : Act String := return ((← Act.valueOf? "PATH").getD Program.standardPath)

namespace CommandKind

def find? (word : String) : Act (Option CommandKind) := do
  let c ← Act.context
  let d ← Act.disk
  if Reader.keywords.contains word then return some .keyword
  else if let some text := c.aliases.lookup word then return some (.shorthand text)
  else if (c.functions.lookup word).isSome then return some .function
  else if specialBuiltins.contains word then return some .specialBuiltin
  else if builtins.contains word then return some .builtin
  else if word.toList.contains '/' then
    return if d.pathExists word then some (.program word false) else none
  else
    return (Program.locate? d (← searchPath) word).map fun path =>
      .program path (c.known.contains word)

/-- What a word is said to be. -/
def words : CommandKind → String
  | .keyword => "a shell keyword"
  | .shorthand text => "an alias for " ++ text
  | .function => "a shell function"
  | .specialBuiltin => "a special shell builtin"
  | .builtin => "a shell builtin"
  | .program path known => (if known then "a tracked alias for " else "") ++ path

end CommandKind

/-- A text in single quotes. -/
def singleQuoted (text : String) : String := "'" ++ text.replace "'" "'\"'\"'" ++ "'"

/-- How the text that a word stands for is shown. -/
def shorthandText (name text : String) : String := name ++ "=" ++ singleQuoted text

/-- Says what a word is as the name of a command. -/
def describe (word : String) : Act Nat := do
  match ← CommandKind.find? word with
  | some kind =>
    Act.print (word ++ " is " ++ kind.words ++ "\n")
    return 0
  | none =>
    Act.print (word ++ ": not found\n")
    return 127

/-- Shows where a command is. -/
def locate (word : String) : Act Nat := do
  match ← CommandKind.find? word with
  | some (.program path _) => Act.print (path ++ "\n")
  | some (.shorthand text) => Act.print ("alias " ++ shorthandText word text ++ "\n")
  | some _ => Act.print (word ++ "\n")
  | none => return 127
  return 0

/-- The number that a command is given. -/
def numberFor (command word : String) : Act Nat := do
  let cs := (word.toList.dropWhile ByteClass.isSpace).reverse.dropWhile ByteClass.isSpace
  match Decimal.nat? cs.reverse with
  | some n => if n < Nat.pow 2 31 then return n else Act.fail (command ++ ": Illegal number: " ++ word)
  | none => Act.fail (command ++ ": Illegal number: " ++ word)

def optionNames : List (String × Option Char) :=
  [("errexit", some 'e'), ("noglob", some 'f'), ("ignoreeof", some 'I'), ("interactive", some 'i'),
   ("monitor", some 'm'), ("noexec", some 'n'), ("stdin", some 's'), ("xtrace", some 'x'),
   ("verbose", some 'v'), ("vi", some 'V'), ("emacs", some 'E'), ("noclobber", some 'C'),
   ("allexport", some 'a'), ("notify", some 'b'), ("nounset", some 'u'), ("privileged", some 'p'),
   ("nolog", none), ("debug", none)]

/-- What is asked of the options in front of words. -/
structure Settings where
  /-- Letters, each to be set or not. -/
  letters : List (Bool × Char)
  /-- The words behind the options; none if the words are over before. -/
  rest? : Option (List String)
  /-- Whether a list of the options is asked for, and in which form. -/
  listing? : Option Bool

/-- The options in front of words. Fails with the first unknown option. -/
def optionsIn (letters : List Char) : List String → Except String Settings
  | [] => .ok ⟨[], none, none⟩
  | word :: words =>
    match word.toList with
    | ['-', '-'] => .ok ⟨[], some words, none⟩
    | ['-'] => .ok ⟨[(false, 'x'), (false, 'v')], if words.isEmpty then none else some words, none⟩
    | sign :: first :: others =>
      let given := first :: others
      if sign ≠ '-' && sign ≠ '+' then .ok ⟨[], some (word :: words), none⟩
      else
        match given.find? fun l => l ≠ 'o' && !letters.contains l with
        | some l => .error ("-" ++ String.singleton l)
        | none =>
          let isSet : Bool := sign = '-'
          let settings := (given.filter (· ≠ 'o')).map (isSet, ·)
          if given.contains 'o' then
            match words with
            | [] => .ok ⟨settings, none, some isSet⟩
            | name :: words =>
              match optionNames.lookup name with
              | none => .error ("-o " ++ name)
              | some letter? => do
                let more ← optionsIn letters words
                return { more with
                  letters := settings ++ (letter?.map (isSet, ·)).toList ++ more.letters }
          else do
            let more ← optionsIn letters words
            return { more with letters := settings ++ more.letters }
    | _ => .ok ⟨[], some (word :: words), none⟩

/-- Options after some of them are set or unset. -/
def withSettings (settings : List (Bool × Char)) (options : List Char) : List Char :=
  settings.foldl (fun options (isSet, letter) =>
    if isSet then letter :: options.filter (· ≠ letter) else options.filter (· ≠ letter)) options

/-- Shows the options, for people or as commands. -/
def showOptions (forPeople : Bool) : Act Unit := do
  let options := (← Act.context).options
  if forPeople then Act.print "Current option settings\n"
  for (name, letter?) in optionNames do
    let isSet := letter?.any options.contains
    if forPeople then
      Act.print (name ++ String.ofList (List.replicate (16 - name.length) ' ') ++
        (if isSet then "on\n" else "off\n"))
    else Act.print ("set " ++ (if isSet then "-o " else "+o ") ++ name ++ "\n")

/-- A word with an equals sign as a name and a value. -/
def keyAndValue (word : String) : String × Option String :=
  match cut? ['='] word.toList with
  | some (key, value) => (String.ofList key, some (String.ofList value))
  | none => (word, none)

/-- The name in an argument of a command, and its value. -/
def declared (command word : String) : Act (String × Option String) := do
  let (key, value?) := keyAndValue word
  if !Reader.isName key.toList then Act.fail (command ++ ": " ++ key ++ ": bad variable name")
  return (key, value?)

/-- Sets variables from words with an equals sign, and does something with each name. -/
def declareAll (command : String) (words : List String) (mark : String → Act Unit) : Act Unit :=
  words.forM fun word => do
    let (key, value?) ← declared command word
    if let some value := value? then Act.setVariable (command ++ ": ") key value
    mark key

/-- Shows variables as commands that set them, in the order of their names. -/
def showVariables (label : String) (shown : List (String × Option String)) : Act Unit :=
  (shown.mergeSort fun a b => a.1 ≤ b.1).forM fun (key, value?) =>
    Act.print (label ++ (match value? with
      | some value => shorthandText key value
      | none => key) ++ "\n")

/-- The options of a command, which are single letters, and the words behind them. -/
def lettersOf (command known : String) (budget : Nat) (words : List String) :
    Act (List Char × List String) := do
  match budget, words with
  | budget + 1, word :: rest =>
    match word.toList with
    | '-' :: c :: cs =>
      if word = "--" then return ([], rest)
      match (c :: cs).find? (!known.toList.contains ·) with
      | some l => Act.fail (command ++ ": Illegal option -" ++ String.singleton l)
      | none =>
        let (more, rest) ← lettersOf command known budget rest
        return (c :: cs ++ more, rest)
    | _ => return ([], words)
  | _, _ => return ([], words)

/-- Exports variables, or makes them constant. -/
def declare (command : String) (args : List String) : Act Nat := do
  let (letters, words) ← lettersOf command "p" args.length args
  let c ← Act.context
  let marked := if command = "export" then c.exported else c.constant
  if letters.contains 'p' || words.isEmpty then
    showVariables (command ++ " ") (marked.eraseDups.map fun key => (key, c.vars.lookup key))
  else
    declareAll command words fun key => Act.modifyContext fun c =>
      if command = "export" then { c with exported := key :: c.exported }
      else { c with constant := key :: c.constant }
  return 0

/-- Keeps the values of variables until the function ends. -/
def keepForScope (saved : List (String × Option String)) : Act Unit :=
  Act.modifyContext fun c =>
    let known := c.scope?.getD []
    { c with scope? := some (known ++ saved.filter fun s => (known.lookup s.1).isNone) }

def setLocals (args : List String) : Act Nat := do
  if (← Act.context).scope?.isNone then Act.fail "local: not in a function"
  for word in args do
    let (key, value?) ← declared "local" word
    keepForScope [(key, (← Act.context).vars.lookup key)]
    if let some value := value? then Act.setVariable "local: " key value
  return 0

/-- A line of the input, how many bytes it takes, and whether it has an end. Unless it is
`raw`, a backslash quotes the character behind it, and one at the end of a line joins the
next one to it. -/
def scanLine (raw : Bool) (found : Marked) (count : Nat) : Bytes → Marked × Nat × Bool
  | [] => (found.reverse, count, false)
  | 10 :: _ => (found.reverse, count + 1, true)
  | 0 :: rest => scanLine raw found (count + 1) rest
  | b :: rest =>
    if b = 92 && !raw then
      match rest with
      | [] => (found.reverse, count + 1, false)
      | 10 :: rest => scanLine raw found (count + 2) rest
      | c :: rest => scanLine raw ((Char.ofNat c.toNat, true) :: found) (count + 2) rest
    else scanLine raw ((Char.ofNat b.toNat, false) :: found) (count + 1) rest

/-- Takes a line from the input. -/
def takeLine (raw : Bool) : Act (Marked × Bool) := do
  match ← Act.channel? 0 with
  | some (.source n) =>
    let s ← get
    match s.sources[n]? with
    | none => return ([], false)
    | some source =>
      let stream ← Act.left n
      let bytes := if stream.cycle.isEmpty then stream.bytes else stream.take 65536
      let (line, count, ended) := scanLine raw [] 0 bytes
      if !ended && stream.isEndless then Act.hang
      Act.advance n count
      Act.await (if ended then arrivalOf count source.arrivals else source.ends)
      return (line, ended)
  | _ => return ([], false)

/-- Parts a line among several names; the last one takes the rest. -/
def shareOut (separators : List Char) : List String → Marked → List (String × String)
  | [], _ => []
  | key :: keys, cs =>
    let parts := fun (c : Char × Bool) => !c.2 && separators.contains c.1
    let isBlank := fun c => parts c && Fields.isBlankChar c.1
    let cs := cs.dropWhile isBlank
    let value := cs.takeWhile (!parts ·)
    let rest := (cs.drop value.length).dropWhile isBlank
    let behind := if rest.head?.any parts then (rest.drop 1).dropWhile isBlank else rest
    if !keys.isEmpty then (key, Marked.text value) :: shareOut separators keys behind
    else if behind.isEmpty then [(key, Marked.text value)]
    else [(key, Marked.text (cs.reverse.dropWhile isBlank).reverse)]

def readVariables (args : List String) : Act Nat := do
  let (letters, words) ← match args with
    | "-p" :: _ :: rest => lettersOf "read" "r" rest.length rest
    | _ => lettersOf "read" "rp" args.length args
  if words.isEmpty then Act.fail "read: arg count"
  let raw := letters.contains 'r'
  let words := if letters.contains 'p' then words.drop 1 else words
  let (line, ended) ← takeLine raw
  for (key, value) in shareOut (← Act.separators) words line do
    let (key, _) ← declared "read" key
    Act.setVariable "read: " key value
  return if ended then 0 else 1

/-- Sets what is run when signals come, or takes it back. -/
def setTraps (action? : Option String) (words : List String) : Act Nat := do
  for word in words do
    match Signal.ofWord? word with
    | none =>
      Act.complain ("trap: " ++ word ++ ": bad trap\n")
      return 1
    | some signal =>
      Act.modifyContext fun c =>
        if c.deaf.contains signal then c
        else { c with traps := (action?.map (signal, ·)).toList ++ c.traps.filter (·.1 ≠ signal) }
  return 0

def trap (args : List String) : Act Nat := do
  let (_, args) ← lettersOf "trap" "" args.length args
  match args with
  | [] =>
    let traps := (← Act.context).traps
    for signal in Signal.all do
      if let some action := traps.lookup signal then
        Act.print ("trap -- " ++ singleQuoted action ++ " " ++ signal.name ++ "\n")
    return 0
  | [word] => setTraps none [word]
  | action :: words =>
    if (Decimal.nat? action.toList).isSome then setTraps none args
    else setTraps (if action = "-" then none else some action) words

/-- The names on the way to a path that is reached from another one, with dots resolved
by the names alone. -/
def plainNames (here path : String) : List String :=
  let names := fun text : String => (text.splitOn "/").filter fun n => !n.isEmpty && n ≠ "."
  let start := if path.startsWith "/" then [] else names here
  (names path).foldl (fun found n => if n = ".." then found.dropLast else found ++ [n]) start

/-- The path that is reached from another one. -/
def plainPath (here path : String) : String :=
  let isDouble := fun text : String =>
    text.startsWith "//" && (text.toList.drop 2).head? ≠ some '/'
  let start := if path.startsWith "/" then path else here
  (if isDouble start then "//" else "/") ++ "/".intercalate (plainNames here path)

/-- Goes to a directory; answers whether that worked. -/
def enter (physical : Bool) (path : String) : Act Bool := do
  let c ← Act.context
  let target := if physical then path else plainPath c.place path
  match (← Act.disk).find target with
  | .ok (l, .directory) =>
    let place := if physical then ByteText.ofLocation l else target
    Act.setVariable "cd: " "OLDPWD" c.place
    Act.setVariable "cd: " "PWD" place
    Act.modifyContext fun c =>
      { c with cwd := l, place, exported := "OLDPWD" :: "PWD" :: c.exported }
    return true
  | _ => return false

def changeDirectory (args : List String) : Act Nat := do
  let (letters, words) ← lettersOf "cd" "LP" args.length args
  let physical := letters.getLast? = some 'P'
  let c ← Act.context
  let back := words.head? = some "-"
  let asked := match words.head? with
    | none => (c.vars.lookup "HOME").getD ""
    | some "-" => (c.vars.lookup "OLDPWD").getD ""
    | some path => path
  let first := asked.toList.takeWhile (· ≠ '/')
  let isFixed := asked.startsWith "/" || first = ['.'] || first = ['.', '.']
  let target := if asked.isEmpty then "." else asked
  let d ← Act.disk
  let bases := if isFixed then [] else ((c.vars.lookup "CDPATH").getD "").splitOn ":"
  let found? := bases.find? fun base =>
    d.isDirectory (if base.isEmpty then target else base ++ "/" ++ target)
  let base := found?.getD ""
  if ← enter physical (if base.isEmpty then target else base ++ "/" ++ target) then
    if back || !base.isEmpty then Act.print ((← Act.context).place ++ "\n")
    return 0
  else Act.fail ("cd: can't cd to " ++ asked)

/-- Writes the output of a command, which fails where that is closed. -/
def emit (command : String) (bytes : Bytes) : Act Nat := do
  match ← Act.write? 1 bytes with
  | none => return 0
  | some _ =>
    Act.protest (command ++ ": " ++ command ++ ": I/O error")
    return 1

def printf (args : List String) : Act Nat := do
  let (_, words) ← lettersOf "printf" "" args.length args
  match words with
  | [] => Act.fail "printf: usage: printf format [arg ...]"
  | format :: args =>
    let (bytes, mistakes) := Printf.render format args
    let status ← emit "printf" bytes
    for m in mistakes do Act.protest ("printf: " ++ m.message)
    return (mistakes.map (·.status)).foldl max status

def unset (args : List String) : Act Nat := do
  let (letters, words) ← lettersOf "unset" "fv" args.length args
  if letters.getLast? = some 'f' then
    Act.modifyContext fun c =>
      { c with functions := c.functions.filter fun f => !words.contains f.1 }
  else
    for key in words do
      let (key, _) ← declared "unset" key
      if (← Act.context).constant.contains key then
        Act.fail ("unset: " ++ key ++ ": is read only")
      Act.modifyContext fun c =>
        { c with vars := c.vars.filter (·.1 ≠ key), exported := c.exported.filter (· ≠ key) }
  return 0

/-- Leaves loops, or goes on with their next round. Outside of loops nothing happens. -/
def leaveLoops (command : String) (args : List String) (stop : Nat → Stop) : Act Nat := do
  let n ← if let word :: _ := args then numberFor command word else pure 1
  if n = 0 then Act.fail (command ++ ": Illegal number: " ++ args.headD "")
  let loops := (← Act.context).loops
  Act.setStatus 0
  if loops = 0 then return 0 else throw (stop (min n loops))

/-- Ends with a status that may be given. -/
def endWith (command : String) (args : List String) (standard : Nat) (stop : Stop) : Act Nat := do
  Act.setStatus (← if let word :: _ := args then numberFor command word else pure standard)
  throw stop

/-- Sets the arguments and the options of the shell. -/
def setShell (args : List String) : Act Nat := do
  if args.isEmpty then
    showVariables "" ((← Act.context).vars.map fun (key, value) => (key, some value))
    return 0
  match optionsIn ('p' :: optionLetters) args with
  | .error option => Act.fail ("set: Illegal option " ++ option)
  | .ok settings =>
    Act.modifyContext fun c =>
      { c with options := withSettings settings.letters c.options
               args := settings.rest?.getD c.args }
    if let some forPeople := settings.listing? then showOptions forPeople
    return 0

/-- What the next option among words is. -/
structure FoundOption where
  /-- The letter of the option, or what is wrong with it. -/
  letter : Char
  argument? : Option String
  complaint? : Option String
  /-- The word in which to look next, and how much of the one before was looked at. -/
  index : Nat
  offset? : Option Nat

/-- Looks for the next option; nothing if there is none, with the word in which to look
next. -/
def nextOption (specs : List Char) (words : List String) (index : Nat) (offset? : Option Nat) :
    Except Nat FoundOption :=
  let silent := specs.head? = some ':'
  let specs := if silent then specs.drop 1 else specs
  let before := if 2 ≤ index then ((words[index - 2]?).getD "").toList else []
  let under := (offset?.map before.drop).getD []
  let word := ((words[index - 1]?).getD "").toList
  let begins := under.isEmpty
  if begins && (word.head? ≠ some '-' || word.length < 2) then .error index
  else if begins && word = ['-', '-'] then .error (index + 1)
  else
    let letters := if begins then word.drop 1 else under
    let index := if begins then index + 1 else index
    let whole := if begins then word else before
    let letter := letters.headD '?'
    let rest := letters.drop 1
    let offset? := if rest.isEmpty then none else some (whole.length - rest.length)
    let behind := (specs.dropWhile (· ≠ letter)).drop 1
    if letter = ':' || !specs.contains letter then
      .ok ⟨'?', if silent then some (String.singleton letter) else none,
        if silent then none else some ("Illegal option -" ++ String.singleton letter), index, offset?⟩
    else if behind.head? ≠ some ':' then .ok ⟨letter, some "", none, index, offset?⟩
    else if !rest.isEmpty then .ok ⟨letter, some (String.ofList rest), none, index, none⟩
    else
      match words[index - 1]? with
      | some value => .ok ⟨letter, some value, none, index + 1, none⟩
      | none =>
        if silent then .ok ⟨':', some (String.singleton letter), none, index, none⟩
        else
          .ok ⟨'?', none, some ("No arg for -" ++ String.singleton letter ++ " option"), index, none⟩

def getOptions (args : List String) : Act Nat := do
  match args with
  | specs :: name :: words =>
    let c ← Act.context
    let words := if words.isEmpty then c.args else words
    let finish := fun (index : Nat) (offset? : Option Nat) (letter : Char) => do
      Act.setVariable "getopts: " "OPTIND" (Decimal.natText index)
      Act.setVariable "getopts: " name (String.singleton letter)
      Act.modifyContext fun c => { c with optionIndex := index, optionOffset? := offset? }
    match nextOption specs.toList words c.optionIndex c.optionOffset? with
    | .error index =>
      finish index none '?'
      return 1
    | .ok found =>
      match found.argument? with
      | some value => Act.setVariable "getopts: " "OPTARG" value
      | none => Act.modifyContext fun c => { c with vars := c.vars.filter (·.1 ≠ "OPTARG") }
      if let some complaint := found.complaint? then Act.complain (complaint ++ "\n")
      finish found.index found.offset? found.letter
      return 0
  | _ => Act.fail "getopts: Usage: getopts optstring var [arg...]"

/-- Lets words stand for texts where a command might start, or shows what they stand for. -/
def setAliases (args : List String) : Act Nat := do
  let show_ := fun (name text : String) => Act.print (shorthandText name text ++ "\n")
  if args.isEmpty then
    for (name, text) in (← Act.context).aliases do show_ name text
  let mut status := 0
  for word in args do
    match keyAndValue word with
    | (name, some text) =>
      Act.modifyContext fun c =>
        { c with aliases := (name, text) :: c.aliases.filter (·.1 ≠ name) }
    | (name, none) =>
      match (← Act.context).aliases.lookup name with
      | some text => show_ name text
      | none =>
        Act.complain ("alias: " ++ name ++ " not found\n")
        status := 1
  return status

def unsetAliases (args : List String) : Act Nat := do
  let (letters, words) ← lettersOf "unalias" "a" args.length args
  if letters.contains 'a' then Act.modifyContext fun c => { c with aliases := [] }
  let mut status := 0
  for name in words do
    if ((← Act.context).aliases.lookup name).isNone then
      Act.complain ("unalias: " ++ name ++ " not found\n")
      status := 1
    Act.modifyContext fun c => { c with aliases := c.aliases.filter (·.1 ≠ name) }
  return status

/-- Shows or sets the rights that new files are not given. -/
def setMask (args : List String) : Act Nat := do
  let (letters, words) ← lettersOf "umask" "S" args.length args
  match words with
  | [] =>
    let mask := (← Act.context).mask
    let rights := fun bits : Nat =>
      (if bits / 4 % 2 = 0 then "r" else "") ++ (if bits / 2 % 2 = 0 then "w" else "") ++
        (if bits % 2 = 0 then "x" else "")
    if letters.contains 'S' then
      Act.print ("u=" ++ rights (mask / 64) ++ ",g=" ++ rights (mask / 8) ++ ",o=" ++ rights mask ++
        "\n")
    else
      let ds := Nat.toDigits 8 mask
      Act.print (String.ofList (List.replicate (4 - ds.length) '0' ++ ds) ++ "\n")
  | word :: _ =>
    if word.toList.head?.any isDigit then
      if !word.toList.all Printf.isOctal then Act.fail ("umask: Illegal number: " ++ word)
      let mask := word.toList.foldl (fun n c => 8 * n + digitValue c) 0
      Act.modifyContext fun c => { c with mask := mask % 512 }
    else if !word.toList.contains '=' && !word.toList.contains '+' && !word.toList.contains '-' then
      Act.fail ("umask: Illegal mode: " ++ word)
  return 0

/-- Looks for programs. -/
def hash (args : List String) : Act Nat := do
  let (letters, words) ← lettersOf "hash" "rv" args.length args
  if letters.contains 'r' then Act.modifyContext fun c => { c with known := [] }
  let d ← Act.disk
  let path ← searchPath
  if args.isEmpty then
    for name in (← Act.context).known.reverse do
      if let some place := Program.locate? d path name then Act.print (place ++ "\n")
  let mut status := 0
  for word in words do
    match ← CommandKind.find? word with
    | none =>
      Act.protest ("hash: " ++ word ++ ": not found")
      status := 1
    | some (.program _ false) =>
      if !word.toList.contains '/' then
        Act.modifyContext fun c => { c with known := word :: c.known }
    | some _ => pure ()
  return status

/-- A command of the shell that runs no other command; `none` for all others. -/
def plainBuiltin? (name : String) (args : List String) : Option (Act Nat) :=
  match name with
  | ":" | "true" => some (return 0)
  | "false" => some (return 1)
  | "echo" => some (emit "echo" (Printf.echo args))
  | "pwd" => some do
    let (letters, _) ← lettersOf name "LP" args.length args
    let c ← Act.context
    emit "pwd" (ByteText.toBytes ((if letters.getLast? = some 'P' then ByteText.ofLocation c.cwd else c.place) ++ "\n"))
  | "printf" => some (printf args)
  | "test" | "[" => some do
    if name = "[" && args.getLast? ≠ some "]" then Act.fail "[: missing ]"
    else
      match Condition.answer (← Act.disk) (if name = "[" then args.dropLast else args) with
      | .ok holds => return if holds then 0 else 1
      | .error mistake => Act.fail (name ++ ": " ++ mistake.message)
  | "cd" | "chdir" => some (changeDirectory args)
  | "export" | "readonly" => some (declare name args)
  | "local" => some (setLocals args)
  | "unset" => some (unset args)
  | "set" => some (setShell args)
  | "shift" => some do
    let n ← if let word :: _ := args then numberFor name word else pure 1
    if n ≤ (← Act.context).args.length then
      Act.modifyContext fun c => { c with args := c.args.drop n }
      return 0
    else Act.fail "shift: can't shift that many"
  | "read" => some (readVariables args)
  | "exit" => some do
    let c ← Act.context
    endWith name args (c.trapStatus?.getD c.status) .exit
  | "return" => some do endWith name args (← Act.context).status .leaveFunction
  | "break" => some (leaveLoops name args .leaveLoops)
  | "continue" => some (leaveLoops name args .nextRound)
  | "trap" => some (trap args)
  | "type" => some do
    let mut status := 0
    for word in args do
      let n ← describe word
      if n ≠ 0 then status := n
    return status
  | "getopts" => some (getOptions args)
  | "alias" => some (setAliases args)
  | "unalias" => some (unsetAliases args)
  | "umask" => some (setMask args)
  | "hash" => some (hash args)
  | "times" => some do
    Act.print "0m0.00s 0m0.00s\n0m0.00s 0m0.00s\n"
    return 0
  | "ulimit" => some do
    let _ ← lettersOf name "HSatfdscmlpnvwr" args.length args
    Act.print "unlimited\n"
    return 0
  | "jobs" => some (return 0)
  | "fg" | "bg" => some do
    match args with
    | [] => Act.fail (name ++ ": No current job")
    | word :: _ => Act.fail (name ++ ": No such job: " ++ word)
  | _ => none

end Mender.Shell
