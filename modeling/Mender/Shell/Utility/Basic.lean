import Mender.Shell.State
import Mender.Shell.Utility.Quoting

/-!
# What utilities are made of

The programs that scripts call beside the shell itself work on their arguments,
their input and the disk, write their output and answer with a status. Here is
what they share: options, operands and lines.
-/

namespace Mender.Shell

/-- A program: what it makes of the name that it is called by and its arguments, and the
status that it ends with. -/
abbrev Utility := (name : String) → List String → Act Nat

namespace Utility

/-- Whether an option comes with a value. -/
inductive OptionValue where
  | none
  | required
  /-- Only in the same word. -/
  | optional
  deriving DecidableEq, Repr

/-- An option by its letter, its long name, or both. Where there is a letter, it is known
by that. -/
structure OptionSpec where
  letter? : Option Char
  long : String
  value : OptionValue
  deriving DecidableEq, Repr

namespace OptionSpec

def key (o : OptionSpec) : String := (o.letter?.map String.singleton).getD o.long

end OptionSpec

def flag (letter : Char) (long : String) : OptionSpec := ⟨some letter, long, .none⟩

def valued (letter : Char) (long : String) : OptionSpec := ⟨some letter, long, .required⟩

def longFlag (long : String) : OptionSpec := ⟨none, long, .none⟩

def longValued (long : String) : OptionSpec := ⟨none, long, .required⟩

/-- Options with only a letter. -/
def flags (letters : String) : List OptionSpec := letters.toList.map (flag · "")

/-- What is wrong with options. -/
inductive OptionMistake where
  | unknown (letter : Char)
  | unknownLong (word : String)
  | missingValue (letter : Char)
  | missingLongValue (long : String)
  | needlessValue (long : String)
  | ambiguous (word : String) (candidates : List String)
  deriving DecidableEq, Repr

def OptionMistake.message : OptionMistake → String
  | .unknown letter => "invalid option -- '" ++ String.singleton letter ++ "'"
  | .unknownLong word => "unrecognized option '" ++ word ++ "'"
  | .missingValue letter => "option requires an argument -- '" ++ String.singleton letter ++ "'"
  | .missingLongValue long => "option '--" ++ long ++ "' requires an argument"
  | .needlessValue long => "option '--" ++ long ++ "' doesn't allow an argument"
  | .ambiguous word candidates =>
    "option '" ++ word ++ "' is ambiguous; possibilities:" ++
      String.join (candidates.map fun c => " '--" ++ c ++ "'")

/-- The options that were given, in order, and the other words. -/
structure Options where
  given : List (String × String)
  operands : List String
  deriving DecidableEq, Repr

namespace Options

def has (o : Options) (key : String) : Bool := o.given.any (·.1 = key)

/-- The values of an option, in order. -/
def values (o : Options) (key : String) : List String :=
  (o.given.filter (·.1 = key)).map (·.2)

/-- The value that counts: the last one. -/
def value? (o : Options) (key : String) : Option String := (o.values key).getLast?

/-- The last of some options that was given. -/
def lastOf? (o : Options) (keys : List String) : Option String :=
  (o.given.filter fun g => keys.contains g.1).getLast?.map (·.1)

def addOption (key value : String) (o : Options) : Options := { o with given := (key, value) :: o.given }

end Options

/-- The option that a long name means: the one of that name, or the only one that starts
with it. -/
def longOption (specs : List OptionSpec) (word name : String) : Except OptionMistake OptionSpec :=
  let known := specs.filter (!·.long.isEmpty)
  match known.find? (·.long = name) with
  | some spec => .ok spec
  | none =>
    match known.filter (·.long.startsWith name) with
    | [spec] => .ok spec
    | [] => .error (.unknownLong word)
    | several => .error (.ambiguous word (several.map (·.long)))

mutual

/-- Parts options from operands. Where `anywhere` is false, the first operand ends the
options. -/
def parseOptions (specs : List OptionSpec) (anywhere : Bool) (budget : Nat) (words : List String) :
    Except OptionMistake Options := do
  match budget, words with
  | 0, _ | _, [] => return ⟨[], []⟩
  | budget + 1, word :: words =>
    if word = "--" then return ⟨[], words⟩
    else if word.startsWith "--" then
      let name := String.ofList ((word.toList.drop 2).takeWhile (· ≠ '='))
      let given? := if word.toList.contains '=' then
          some (String.ofList ((word.toList.dropWhile (· ≠ '=')).drop 1)) else none
      let spec ← longOption specs word name
      match spec.value, given? with
      | .none, some _ => throw (.needlessValue spec.long)
      | .required, none =>
        match words with
        | [] => throw (.missingLongValue spec.long)
        | value :: words =>
          return (← parseOptions specs anywhere budget words).addOption spec.key value
      | _, _ =>
        return (← parseOptions specs anywhere budget words).addOption spec.key (given?.getD "")
    else if word.startsWith "-" && word ≠ "-" then
      parseLetters specs anywhere budget (word.toList.drop 1) words
    else if anywhere then
      let rest ← parseOptions specs anywhere budget words
      return { rest with operands := word :: rest.operands }
    else return ⟨[], word :: words⟩

/-- Options by their letters, in one word. -/
def parseLetters (specs : List OptionSpec) (anywhere : Bool) (budget : Nat) (letters : List Char)
    (words : List String) : Except OptionMistake Options := do
  match budget, letters with
  | 0, _ => return ⟨[], []⟩
  | budget + 1, [] => parseOptions specs anywhere budget words
  | budget + 1, letter :: more =>
    match specs.find? (·.letter? = some letter) with
    | none => throw (.unknown letter)
    | some spec =>
      match spec.value, more, words with
      | .none, _, _ =>
        return (← parseLetters specs anywhere budget more words).addOption spec.key ""
      | .optional, _, _ =>
        return (← parseOptions specs anywhere budget words).addOption spec.key (String.ofList more)
      | .required, [], [] => throw (.missingValue letter)
      | .required, [], value :: words =>
        return (← parseOptions specs anywhere budget words).addOption spec.key value
      | .required, _, _ =>
        return (← parseOptions specs anywhere budget words).addOption spec.key (String.ofList more)

end

/-- How many steps it takes to look at words letter by letter. -/
def lettersIn (words : List String) : Nat := (words.map fun w => 2 * w.length + 4).foldl (· + ·) 4

/-- Says that a program can be asked for help. -/
def hint (name : String) : Act Unit :=
  Act.complain ("Try '" ++ name ++ " --help' for more information.\n")

/-- Says what is wrong with the arguments of a program. -/
def misused (status : Nat) (name text : String) : Act Nat := do
  Act.complain (name ++ ": " ++ text ++ "\n")
  hint name
  return status

/-- Says what went wrong in a program. -/
def complain (name text : String) : Act Unit := Act.complain (name ++ ": " ++ text ++ "\n")

/-- A program with options. -/
def withOptions (specs : List OptionSpec) (anywhere : Bool) (status : Nat)
    (body : String → Options → Act Nat) : Utility := fun name words => do
  match parseOptions specs anywhere (lettersIn words) words with
  | .error mistake => misused status name mistake.message
  | .ok options => body name options

/-- All of a stream; an endless one is never read to its end. -/
def finite (s : Stream) : Act Bytes := if s.isEndless then Act.hang else return s.bytes

/-- Lines of bytes, each with its line end. -/
def linesOf (bytes : Bytes) : List Bytes :=
  let step := fun ((lines, line) : List Bytes × Bytes) b =>
    if b = 10 then ((b :: line).reverse :: lines, []) else (lines, b :: line)
  let (lines, last) := bytes.foldl step ([], [])
  (if last.isEmpty then lines else last.reverse :: lines).reverse

/-- Pieces of bytes that each end with a mark, without it. -/
def piecesOf (mark : UInt8) (bytes : Bytes) : List Bytes :=
  let step := fun ((pieces, piece) : List Bytes × Bytes) b =>
    if b = mark then (piece.reverse :: pieces, []) else (pieces, b :: piece)
  let (pieces, last) := bytes.foldl step ([], [])
  (if last.isEmpty then pieces else last.reverse :: pieces).reverse

def charsOf (bytes : Bytes) : List Char := bytes.map fun b => Char.ofNat b.toNat

/-- A line with its end. -/
def withEnd (line : Bytes) : Bytes := if line.getLast? = some 10 then line else line ++ [10]

/-- A text behind blanks, up to a width. -/
def padLeft (width : Nat) (text : String) : String :=
  String.ofList (List.replicate (width - text.length) ' ') ++ text

/-- The factor of a suffix of numbers. -/
def suffixFactor? : List Char → Option Nat
  | [] => some 1
  | ['b'] => some 512
  | ['k', 'B'] | ['K', 'B'] => some 1000
  | ['K'] | ['k'] | ['K', 'i', 'B'] => some 1024
  | ['M', 'B'] => some (Nat.pow 1000 2)
  | ['M'] | ['m'] | ['M', 'i', 'B'] => some (Nat.pow 1024 2)
  | ['G', 'B'] => some (Nat.pow 1000 3)
  | ['G'] | ['g'] | ['G', 'i', 'B'] => some (Nat.pow 1024 3)
  | ['T', 'B'] => some (Nat.pow 1000 4)
  | ['T'] | ['t'] | ['T', 'i', 'B'] => some (Nat.pow 1024 4)
  | _ => none

/-- A number with a suffix. -/
def size? (cs : List Char) : Option Nat :=
  let digits := cs.takeWhile Text.isDigit
  if digits.isEmpty then none
  else (suffixFactor? (cs.drop digits.length)).map (Decimal.value digits * ·)

end Utility

end Mender.Shell
