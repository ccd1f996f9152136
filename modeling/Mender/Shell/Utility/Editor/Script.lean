import Mender.Shell.Regex.Reader

/-!
# Scripts of the stream editor

A script is a row of commands. Each may be bound to a line, to the lines with a pattern,
or to the lines from one to another.
-/

namespace Mender.Shell.Editor

/-- A pattern of a script; an empty one stands for the one that was used last. -/
structure Pattern where
  regex? : Option Regex
  ignoreCase : Bool
  hasLines : Bool
  deriving DecidableEq, Repr

inductive Address where
  | line (n : Nat)
  /-- The lines from one on with a distance between them. -/
  | every (first step : Nat)
  | last
  | pattern (p : Pattern)
  /-- So many lines behind the first address. -/
  | further (n : Nat)
  /-- The next line whose number is a multiple. -/
  | multiple (n : Nat)
  deriving DecidableEq, Repr

namespace Address

/-- Whether an address only makes sense behind another one. -/
def isRelative : Address → Bool
  | .further _ | .multiple _ => true
  | _ => false

def isPattern : Address → Bool
  | .pattern _ => true
  | _ => false

end Address

/-- How letters are changed in what is put in place of a match. -/
inductive CaseChange where
  | keep
  | upper
  | lower
  | nextUpper
  | nextLower
  deriving DecidableEq, Repr

/-- A piece of what is put in the place of a match. -/
inductive NewPiece where
  | text (cs : List Char)
  /-- A part of the match; the part zero is all of it. -/
  | part (n : Nat)
  | change (c : CaseChange)
  deriving DecidableEq, Repr

structure Substitution where
  pattern : Pattern
  new : List NewPiece
  everywhere : Bool
  /-- The first match that is replaced. -/
  number : Nat
  printed : Bool
  file? : Option String
  deriving DecidableEq, Repr

inductive Edit where
  | openBlock
  | closeBlock
  | label (name : String)
  /-- Goes on at a label, or at the end of the script. -/
  | jump (name : String)
  | jumpIfReplaced (name : String)
  | jumpUnlessReplaced (name : String)
  | substitute (s : Substitution)
  /-- Puts other characters in the place of some. -/
  | exchange (pairs : List (Char × Char))
  | append (text : List Char)
  | insert (text : List Char)
  | replace (text : List Char)
  | delete
  | deleteFirst
  | print
  | printFirst
  | printNumber
  | printName
  /-- Shows a line without bytes that cannot be seen, in rows of a width. -/
  | list (width? : Option Nat)
  | next
  | join
  | hold
  | holdMore
  | fetch
  | fetchMore
  | swap
  | empty
  | quit (status : Nat)
  | quitSilently (status : Nat)
  | readFile (path : String)
  | readLine (path : String)
  | writeFile (path : String)
  | writeFirst (path : String)
  deriving DecidableEq, Repr

structure EditCommand where
  first? : Option Address
  last? : Option Address
  inverted : Bool
  edit : Edit
  deriving DecidableEq, Repr

namespace EditCommand

/-- The file that a command writes into. -/
def target? (c : EditCommand) : Option String :=
  match c.edit with
  | .writeFile path | .writeFirst path => some path
  | .substitute s => s.file?
  | _ => none

end EditCommand

/-- A script: its commands, and whether lines are printed only where it says so. -/
structure Script where
  commands : Array EditCommand
  isSilent : Bool

namespace Script

/-- Where the command behind a label is. -/
def placeOf? (s : Script) (name : String) : Option Nat :=
  s.commands.findIdx? fun c => c.edit = .label name

/-- The place behind the end of a block that is open at a place. -/
def behindBlock (s : Script) : (budget depth place : Nat) → Nat
  | 0, _, place => place
  | budget + 1, depth, place =>
    match s.commands[place]?.map EditCommand.edit with
    | none => place
    | some .openBlock => behindBlock s budget (depth + 1) (place + 1)
    | some .closeBlock =>
      match depth with
      | 0 => place + 1
      | depth + 1 => behindBlock s budget depth (place + 1)
    | some _ => behindBlock s budget depth (place + 1)

end Script

end Mender.Shell.Editor
