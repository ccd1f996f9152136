import Mender.Shell.Condition
import Mender.Shell.Utility.Basic

/-!
# Utilities for words

Programs that print their arguments or judge them, show what is in the environment, or
let time pass. Those that a shell has as commands of its own behave a little differently
from these.
-/

namespace Mender.Shell.Utility

open Text

/-- The byte for an escape behind its backslash, and how many characters it takes. -/
def fullEscape? (cs : List Char) : Option (UInt8 × Nat) :=
  let octal := fun (skipped : Nat) =>
    let ds := ((cs.drop skipped).take 3).takeWhile Printf.isOctal
    some (Printf.octalValue ds, skipped + ds.length)
  match cs with
  | 'x' :: rest =>
    let ds := (rest.take 2).takeWhile fun c => (NumberInFront.hexDigit? c).isSome
    if ds.isEmpty then none
    else
      let n := ds.foldl (fun n c => 16 * n + (NumberInFront.hexDigit? c).getD 0) 0
      some (UInt8.ofNat n, ds.length + 1)
  | '0' :: _ => octal 1
  | c :: _ =>
    if Printf.isOctal c then octal 0 else (Printf.letterEscape? c).map fun b => (b, 1)
  | [] => none

/-- A text with its escapes resolved, and whether it says that nothing may follow. -/
def withoutEscapes (passed : Nat) : List Char → Bytes × Bool
  | [] => ([], false)
  | c :: rest =>
    match passed with
    | passed + 1 => withoutEscapes passed rest
    | 0 =>
      if c ≠ '\\' then
        let (bytes, stop) := withoutEscapes 0 rest
        (UInt8.ofNat c.toNat :: bytes, stop)
      else if rest.head? = some 'c' then ([], true)
      else
        let (byte, n) := (fullEscape? rest).getD (92, 0)
        let (bytes, stop) := withoutEscapes n rest
        (byte :: bytes, stop)

/-- Whether a word sets how words are printed. -/
def isEchoOption (word : String) : Bool :=
  match word.toList with
  | '-' :: c :: cs => (c :: cs).all fun c => c = 'n' || c = 'e' || c = 'E'
  | _ => false

/-- Prints its arguments; escapes are only resolved where that is asked for. -/
def echo : Utility := fun _ words => do
  let given := (words.takeWhile isEchoOption).flatMap (·.toList)
  let text := " ".intercalate (words.dropWhile isEchoOption)
  let resolves := (given.filter fun c => c = 'e' || c = 'E').getLast? = some 'e'
  let (bytes, stop) := if resolves then withoutEscapes 0 text.toList
    else (ByteText.toBytes text, false)
  Act.write 1 (if stop || given.contains 'n' then bytes else bytes ++ [10])
  return 0

/-- The escape of a byte by its number. -/
def octalEscape (b : UInt8) : List Char :=
  let digit := fun n => Char.ofNat ('0'.toNat + n % 8)
  ['\\', digit (b.toNat / 64), digit (b.toNat / 8), digit b.toNat]

/-- A format with the escapes that formats do not know by themselves written as numbers,
up to where the output is to end. -/
def plainFormat (passed : Nat) : List Char → List Char
  | [] => []
  | c :: rest =>
    match passed with
    | passed + 1 => plainFormat passed rest
    | 0 =>
      if c ≠ '\\' then c :: plainFormat 0 rest
      else
        match rest with
        | 'c' :: _ => []
        | '"' :: _ => '"' :: plainFormat 1 rest
        | 'x' :: _ =>
          match fullEscape? rest with
          | some (byte, n) => octalEscape byte ++ plainFormat n rest
          | none => '\\' :: plainFormat 0 rest
        | '\\' :: _ => '\\' :: '\\' :: plainFormat 1 rest
        | _ => '\\' :: plainFormat 0 rest

/-- What is wrong with an argument of a format. -/
def formatComplaint : Printf.Mistake → String
  | .notNumeric arg => Quoting.word arg ++ ": expected a numeric value"
  | .trailing arg => Quoting.word arg ++ ": value not completely converted"
  | .outOfRange arg => Quoting.word arg ++ ": Numerical result out of range"
  | .invalidDirective c => "%" ++ String.singleton c ++ ": invalid conversion specification"
  | .missingConversion => "%: invalid conversion specification"

/-- Fills in a format. -/
def printFormatted : Utility := fun name words => do
  match if words.head? = some "--" then words.drop 1 else words with
  | [] => misused 1 name "missing operand"
  | format :: args =>
    let format := plainFormat 0 format.toList
    let (bytes, mistakes) := Printf.render (String.ofList format) args
    for m in mistakes do complain name (formatComplaint m)
    Act.write 1 bytes
    let takesNone := (Printf.parts 0 format).all fun
      | .bytes _ => true
      | _ => false
    if takesNone && mistakes.isEmpty then
      if let some arg := args.head? then
        complain name ("warning: ignoring excess arguments, starting with " ++ Quoting.word arg)
    return statusOf mistakes.isEmpty
where
  statusOf (worked : Bool) : Nat := if worked then 0 else 1

/-- What is wrong with a condition. -/
def conditionComplaint : Condition.Mistake → String
  | .illegalNumber word => "invalid integer " ++ Quoting.word word
  | .unexpectedOperator word => "extra argument " ++ Quoting.word word
  | .missingArgument operator => "missing argument after " ++ Quoting.word operator
  | .openParenthesis => "')' expected"

/-- Judges a condition; under the name of a bracket its arguments end in another. -/
def test : Utility := fun name words => do
  let isBracket := name.endsWith "["
  if isBracket && words.getLast? ≠ some "]" then
    complain name "missing ']'"
    return 2
  match Condition.answer (← Act.disk) (if isBracket then words.dropLast else words) with
  | .ok holds => return if holds then 0 else 1
  | .error mistake =>
    complain name (conditionComplaint mistake)
    return 2

/-- How many nanoseconds a word with a unit stands for; none if that is not clear. -/
def spanOf? (word : String) : Option Magnitude := do
  let n ← NumberInFront.ofChars? word.toList
  let factor ← match n.rest with
    | [] | ['s'] => some 1
    | ['m'] => some 60
    | ['h'] => some 3600
    | ['d'] => some 86400
    | _ => none
  match n.magnitude with
  | .notANumber => none
  | .infinite => if n.negative then none else some .infinite
  | .finite f =>
    if n.negative && f.num ≠ 0 then none
    else some (.finite { f with num := f.num * factor * Nat.pow 10 9 })

/-- Lets a span pass that may have no end. -/
def passSpan : Magnitude → Act Unit
  | .finite f => Act.pass ((f.num + f.den - 1) / f.den)
  | _ => Act.hang

def sleep : Utility := withOptions [] true 1 fun name o => do
  if o.operands.isEmpty then return ← misused 1 name "missing operand"
  let wrong := o.operands.filter fun word => (spanOf? word).isNone
  for word in wrong do complain name ("invalid time interval " ++ Quoting.word word)
  if !wrong.isEmpty then
    hint name
    return 1
  for span in o.operands.filterMap spanOf? do passSpan span
  return 0

def pwd : Utility := withOptions [flag 'L' "logical", flag 'P' "physical"] true 1 fun name o => do
  if !o.operands.isEmpty then complain name "ignoring non-option arguments"
  Act.print (ByteText.ofLocation (← Act.context).cwd ++ "\n")
  return 0

/-- Prints the variables that it is given, or the values of some. -/
def printenv : Utility := withOptions [flag '0' "null"] false 2 fun _ o => do
  let given := (← Act.context).vars
  let ending := if o.has "0" then "\x00" else "\n"
  if o.operands.isEmpty then
    for (key, value) in given do Act.print (key ++ "=" ++ value ++ ending)
    return 0
  let mut status := 0
  for key in o.operands do
    match given.lookup key with
    | some value => Act.print (value ++ ending)
    | none => status := 1
  return status

/-- A program that takes no operands and prints what it knows. -/
def fact (specs : List OptionSpec) (answer : Options → String) : Utility :=
  withOptions specs true 1 fun name o => do
    match o.operands with
    | word :: _ => misused 1 name ("extra operand " ++ Quoting.word word)
    | [] =>
      Act.print (answer o ++ "\n")
      return 0

def uname : Utility :=
  fact (flags "asnrvmpio") fun o =>
    let parts := (if o.has "s" || o.given.isEmpty then ["Linux"] else []) ++
      (if o.has "m" then ["x86_64"] else []) ++ (if o.has "o" then ["GNU/Linux"] else [])
    " ".intercalate parts

def whoami : Utility := fact [] fun _ => "root"

/-- Says that the input is no terminal. -/
def tty : Utility := withOptions [flag 's' "silent"] true 2 fun _ o => do
  if !o.has "s" then Act.print "not a tty\n"
  return 1

/-- Compares two files byte by byte. -/
def cmp : Utility := fun name words => do
  let misuse := fun text : String => do
    complain name text
    complain name ("Try '" ++ name ++ " --help' for more information.")
    return 2
  let specs := [flag 's' "quiet", longFlag "silent", flag 'l' "verbose", flag 'b' "print-bytes",
     valued 'n' "bytes"]
  match parseOptions specs true (lettersIn words) words with
  | .error mistake => misuse mistake.message
  | .ok o =>
    let (first, second) ← match o.operands with
      | [] => return ← misuse ("missing operand after '" ++ name ++ "'")
      | [a] => pure (a, "-")
      | [a, b] => pure (a, b)
      | _ :: _ :: extra :: _ =>
        return ← misuse ("invalid --ignore-initial value " ++ Quoting.word extra)
    let quiet := o.has "s" || o.has "silent"
    let mut contents : List Bytes := []
    for path in [first, second] do
      match ← if path = "-" then Act.readDescriptor 0 else Act.readPath path with
      | .ok reading => contents := contents ++ [← finite reading.stream]
      | .error e =>
        if !quiet then complain name (path ++ ": " ++ e.words)
        return 2
    let limit? := (o.value? "n").map fun w => Decimal.value w.toList
    let cut := fun bytes : Bytes => (limit?.map bytes.take).getD bytes
    let a := cut (contents.headD [])
    let b := cut (contents.getLastD [])
    let differing := ((a.zip b).zipIdx.filter fun ((x, y), _) => x ≠ y).map (·.2)
    let width := (Decimal.digits (max a.length b.length)).length
    if o.has "l" then
      for i in differing do
        let octal := fun n : UInt8 => padLeft 3 (String.ofList (Nat.toDigits 8 n.toNat))
        Act.print (padLeft width (Decimal.natText (i + 1)) ++ " " ++ octal (a[i]?.getD 0) ++ " " ++
          octal (b[i]?.getD 0) ++ "\n")
    match if o.has "l" then none else differing.head? with
    | some i =>
      if !quiet then
        Act.print (first ++ " " ++ second ++ " differ: char " ++ Decimal.natText (i + 1) ++ ", line " ++
          Decimal.natText ((a.take i).count 10 + 1) ++ "\n")
      return 1
    | none =>
      if a.length = b.length then return if differing.isEmpty then 0 else 1
      let (short, bytes) := if a.length < b.length then (first, a) else (second, b)
      if !quiet then
        let lines := bytes.count 10
        let place := if o.has "l" then ""
          else if bytes.getLast? = some 10 then ", line " ++ Decimal.natText lines
          else ", in line " ++ Decimal.natText (lines + 1)
        complain name ("EOF on " ++ short ++
          if bytes.isEmpty then " which is empty"
          else " after byte " ++ Decimal.natText bytes.length ++ place)
      return 1

end Mender.Shell.Utility
