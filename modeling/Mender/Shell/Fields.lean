import Mender.Shell.ByteText
import Mender.Shell.Glob

/-!
# Fields

A word becomes any number of fields: unquoted expansions are parted at blanks, and
a field with a pattern in it stands for the files that it matches.
-/

namespace Mender.Shell

/-- How a word is expanded. -/
structure Manner where
  /-- Whether unquoted expansions are parted. -/
  parts : Bool
  /-- Whether unquoted text is parted, too. -/
  partsText : Bool
  /-- Whether all of it is quoted. -/
  quoted : Bool

namespace Manner

/-- A word that becomes any number of fields. -/
def fields : Manner := ⟨true, false, false⟩

/-- A word that stays whole. -/
def whole : Manner := ⟨false, false, false⟩

/-- A word that is quoted from outside. -/
def quotes : Manner := ⟨false, false, true⟩

/-- A word in the use of a parameter, which may be quoted. -/
def inUse (m : Manner) (quoted : Bool) : Manner :=
  { m with partsText := m.parts && !quoted, quoted := m.quoted || quoted }

end Manner

/-- The fields so far, the latest first, and the characters of the one under way,
the latest first, if there is one. -/
structure Fields where
  done : List Marked
  current : Option Marked
  /-- Whether every separator ends a field in the text that is parted next. -/
  isStrict : Bool

namespace Fields

def empty : Fields := ⟨[], none, false⟩

/-- Adds characters to the field under way. -/
def add (f : Fields) (cs : List Char) (quoted : Bool) : Fields :=
  if cs.isEmpty && !quoted then f
  else { f with current := some ((cs.map (·, quoted)).reverse ++ f.current.getD []) }

/-- Ends the field under way. -/
def close (f : Fields) : Fields :=
  match f.current with
  | none => f
  | some field => { f with done := field.reverse :: f.done, current := none }

/-- Blanks, and the mark between the texts that one parameter stands for. -/
def isBlankChar (c : Char) : Bool := c = ' ' || c = '\t' || c = '\n' || c = '\x00'

/-- Adds a text that is parted at separators. Blanks in a row are one separator, also
together with another one among them; two others have an empty field between them. -/
def addParted (separators : List Char) (f : Fields) (cs : List Char) : Fields :=
  let parted := (cs.foldl (fun (f, blankBefore) c =>
    if !separators.contains c then (f.add [c] false, false)
    else if f.isStrict then ((f.add [] true).close, false)
    else if f.current.isSome then (f.close, isBlankChar c)
    else if isBlankChar c then (f, blankBefore)
    else if blankBefore then (f, false)
    else ((f.add [] true).close, false)) (f, false)).1
  { parted with isStrict := false }

/-- Adds quoted texts that are fields of their own. -/
def addEach (f : Fields) : List (List Char) → Fields
  | [] => { f with isStrict := true }
  | [cs] => { f.add cs true with isStrict := true }
  | cs :: more => addEach (f.add cs true).close more

def toList (f : Fields) : List Marked := f.close.done.reverse

/-- All characters, in one field. -/
def joined (f : Fields) : Marked := f.toList.flatten

end Fields

/-- The parts of a path with the slashes in front of each. -/
def pathParts (slashes : Nat) (name : Marked) : Marked → List (Nat × Marked)
  | [] => [(slashes, name.reverse)]
  | (c, quoted) :: rest =>
    if c = '/' then
      if name.isEmpty then pathParts (slashes + 1) [] rest
      else (slashes, name.reverse) :: pathParts 1 [] rest
    else pathParts slashes ((c, quoted) :: name) rest

/-- The paths behind a base that the parts of a pattern match. -/
def pathsBelow (disk : Disk) (base : String) : List (Nat × Marked) → List String
  | [] => if (disk.look base).isOk then [base] else []
  | (slashes, name) :: parts =>
    let base := base ++ String.ofList (List.replicate slashes '/')
    if !Glob.isPattern name then pathsBelow disk (base ++ Glob.plainText name) parts
    else
      let names := ByteText.namesIn disk (if base.isEmpty then "." else base)
      let hidden := name.head?.any (·.1 = '.')
      let names := if hidden then "." :: ".." :: names else names.filter (!·.startsWith ".")
      (names.filter fun n => Glob.isMatch name n.toList).flatMap fun n =>
        pathsBelow disk (base ++ n) parts

/-- The files that a field stands for; a field that matches none stands for itself. -/
def filesOf (disk : Disk) (field : Marked) : List String :=
  if !Glob.isPattern field then [field.text]
  else
    match (pathsBelow disk "" (pathParts 0 [] field)).mergeSort with
    | [] => [field.text]
    | found => found

end Mender.Shell
