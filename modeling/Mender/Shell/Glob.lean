import Mender.Shell.ByteClass

/-!
# Patterns of file names

A pattern matches a whole text: a question mark any character, an asterisk any
number of them, and brackets one of several. Quoted characters and those behind a
backslash stand for themselves.
-/

namespace Mender.Shell

/-- Characters with the word whether each was quoted. -/
abbrev Marked := List (Char × Bool)

namespace Marked

def text (m : Marked) : String := String.ofList (m.map (·.1))

end Marked

namespace Glob

inductive Item where
  | one (c : Char)
  | any
  | many
  /-- Ranges of characters, or all but these. -/
  | among (negated : Bool) (ranges : List ByteClass.Range)
  deriving DecidableEq, Repr

/-- The ranges between brackets, from behind the first one, and how many characters
they take with the closing one. -/
def ranges? (isFirst : Bool) (found : List ByteClass.Range) (passed : Nat) :
    Marked → Option (List ByteClass.Range × Nat)
  | [] => none
  | (c, quoted) :: rest =>
    let count := fun (r : List ByteClass.Range × Nat) => (r.1, r.2 + 1)
    match passed with
    | passed + 1 => (ranges? false found passed rest).map count
    | 0 =>
      if c = ']' && !quoted && !isFirst then some (found, 1)
      else if c = '\\' && !quoted then
        match rest with
        | (d, _) :: _ => (ranges? false ((d, d) :: found) 1 rest).map count
        | [] => none
      else
        match if c = '[' && !quoted then ByteClass.inBrackets? (rest.map (·.1)) else none with
        | some (members, n) => (ranges? false (members ++ found) n rest).map count
        | none =>
          match rest with
          | ('-', false) :: (high, highQuoted) :: _ =>
            if high = ']' && !highQuoted then (ranges? false ((c, c) :: found) 0 rest).map count
            else (ranges? false ((c, high) :: found) 2 rest).map count
          | _ => (ranges? false ((c, c) :: found) 0 rest).map count

/-- The items of a pattern; `passed` characters belong to brackets read before. -/
def items (passed : Nat) : Marked → List Item
  | [] => []
  | (c, quoted) :: rest =>
    match passed with
    | passed + 1 => items passed rest
    | 0 =>
      if quoted then .one c :: items 0 rest
      else if c = '?' then .any :: items 0 rest
      else if c = '*' then .many :: items 0 rest
      else if c = '[' then
        let negated := rest.head? = some ('!', false)
        match ranges? true [] 0 (if negated then rest.drop 1 else rest) with
        | some (ranges, n) => .among negated ranges :: items (if negated then n + 1 else n) rest
        | none => .one c :: items 0 rest
      else if c = '\\' then
        match rest with
        | (d, _) :: _ => .one d :: items 1 rest
        | [] => [.one c]
      else .one c :: items 0 rest

/-- The ends of a text, the longest first. -/
def tails : List Char → List (List Char)
  | [] => [[]]
  | c :: cs => (c :: cs) :: tails cs

def matchItems : List Item → List Char → Bool
  | [], text => text.isEmpty
  | .many :: rest, text => (tails text).any (matchItems rest)
  | _ :: _, [] => false
  | .one d :: rest, c :: cs => c = d && matchItems rest cs
  | .any :: rest, _ :: cs => matchItems rest cs
  | .among negated ranges :: rest, c :: cs =>
    ByteClass.isIn ranges c != negated && matchItems rest cs

def isMatch (pattern : Marked) (text : List Char) : Bool := matchItems (items 0 pattern) text

/-- Whether a pattern has more than characters that stand for themselves. -/
def isPattern (pattern : Marked) : Bool :=
  (items 0 pattern).any fun
    | .one _ => false
    | _ => true

/-- The characters that a pattern without marks stands for. -/
def plainText (pattern : Marked) : String :=
  String.ofList ((items 0 pattern).filterMap fun
    | .one c => some c
    | _ => none)

end Glob

end Mender.Shell
