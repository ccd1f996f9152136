import Mender.Path
import Mender.Text.Decimal
import Mender.Text.Search

/-!
# Command lines

A command line names one of two commands, with options in any order around the
one path that the command works on. Each option may be given once, its value as
the next word or behind an equals sign; words behind two hyphens are no options. Words
are text here, so a path that is none can be given to a command but not named in words.
-/

namespace Mender.Cli

open Text

/-- How the outcome of a run is printed. -/
inductive Format where
  | text
  | json
  deriving DecidableEq, Repr

structure ProjectOptions where
  root? : Option Path
  config? : Option Path
  dryRun : Bool
  deriving DecidableEq, Repr

structure RunOptions where
  target : Path
  project : ProjectOptions
  format : Format
  maxIterations? : Option UInt32
  auditDir? : Option Path
  deriving DecidableEq, Repr

structure BatchOptions where
  worklist : Path
  project : ProjectOptions
  maxItems? : Option Nat
  /-- The pause between two items. -/
  cooldownSecs : UInt64
  deriving DecidableEq, Repr

inductive Command where
  | version
  | run (options : RunOptions)
  | batch (options : BatchOptions)
  deriving DecidableEq, Repr

/-- The words of a command, sorted out. -/
structure Words where
  /-- Options with their values, and flags without. -/
  options : List (String × Option String)
  others : List String
  deriving DecidableEq, Repr

/-- Whether a word is an option where one may stand. A single hyphen is none. -/
def isOption (word : String) : Bool := word.startsWith "-" && word ≠ "-"

/-- An option as its name and the value behind an equals sign. -/
def splitOption (word : String) : String × Option String :=
  match cut? ['='] word.toList with
  | some (name, value) => (String.ofList name, some (String.ofList value))
  | none => (word, none)

/-- Sorts out words, given the options with and without a value. -/
def sortWords? (valued flags : List String) : List String → Option Words
  | [] => some ⟨[], []⟩
  | word :: rest =>
    if word = "--" then some ⟨[], rest⟩
    else if !isOption word then
      (sortWords? valued flags rest).map fun w => { w with others := word :: w.others }
    else
      let (name, value?) := splitOption word
      if flags.contains name && value?.isNone then
        (sortWords? valued flags rest).map fun w => { w with options := (name, none) :: w.options }
      else if valued.contains name then
        match value?, rest with
        | some value, rest =>
          (sortWords? valued flags rest).map fun w =>
            { w with options := (name, some value) :: w.options }
        | none, value :: rest =>
          if isOption value then none
          else
            (sortWords? valued flags rest).map fun w =>
              { w with options := (name, some value) :: w.options }
        | none, [] => none
      else none

namespace Words

/-- Whether every option is given once at most. -/
def distinct (w : Words) : Bool := (w.options.map (·.1)).eraseDups.length = w.options.length

def hasFlag (w : Words) (name : String) : Bool := w.options.any (·.1 = name)

/-- The value of an option, read by `read`; no value is read from an option that is
not given. -/
def value? {α : Type} (w : Words) (name : String) (read : String → Option α) :
    Option (Option α) :=
  match (w.options.lookup name).join with
  | none => some none
  | some value => (read value).map some

/-- The one path that a command works on. -/
def path? (w : Words) : Option Path :=
  match w.others with
  | [path] => if path.isEmpty then none else some (.ofText path)
  | _ => none

end Words

def readPath (value : String) : Option Path :=
  if value.isEmpty then none else some (.ofText value)

def readFormat (value : String) : Option Format :=
  if value = "text" then some .text else if value = "json" then some .json else none

/-- Reads a number of 32 bits; a zero may have a minus. -/
def readUInt32 (value : String) : Option UInt32 :=
  (match value.toList with
    | '-' :: digits => (Decimal.nat? digits).filter (· = 0)
    | digits => Decimal.below? UInt32.size digits).map UInt32.ofNat

def readCount (value : String) : Option Nat := Decimal.below? UInt64.size value.toList

def projectValued : List String := ["--project-root", "--config"]

def projectOptions? (w : Words) : Option ProjectOptions := do
  return {
    root? := ← w.value? "--project-root" readPath
    config? := ← w.value? "--config" readPath
    dryRun := w.hasFlag "--dry-run" }

def runOptions? (words : List String) : Option RunOptions := do
  let w ← sortWords? (projectValued ++ ["--output", "--max-iterations", "--audit-dir"])
    ["--dry-run"] words
  if !w.distinct then none
  return {
    target := ← w.path?
    project := ← projectOptions? w
    format := (← w.value? "--output" readFormat).getD .text
    maxIterations? := ← w.value? "--max-iterations" readUInt32
    auditDir? := ← w.value? "--audit-dir" readPath }

def batchOptions? (words : List String) : Option BatchOptions := do
  let w ← sortWords? (projectValued ++ ["--max-items", "--cooldown-secs"]) ["--dry-run"] words
  if !w.distinct then none
  return {
    worklist := ← w.path?
    project := ← projectOptions? w
    maxItems? := ← w.value? "--max-items" readCount
    cooldownSecs := UInt64.ofNat ((← w.value? "--cooldown-secs" readCount).getD 5) }

/-- The command that a command line names, if it can be used. -/
def Command.ofWords? : List String → Option Command
  | [] => none
  | name :: words =>
    if name = "run" then (runOptions? words).map .run
    else if name = "batch" then (batchOptions? words).map .batch
    else if name = "--version" || name.startsWith "-V" then some .version
    else none

end Mender.Cli
