import Mender.Shell.ByteText
import Mender.Shell.ByteClass
import Mender.Text.Decimal

/-!
# Conditions

Conditions on texts, numbers and files, written as a row of words. A word that could be
an operator is one only where it has operands to work on.
-/

namespace Mender.Shell.Condition

/-- Why a condition has no answer. -/
inductive Mistake where
  | illegalNumber (word : String)
  | unexpectedOperator (word : String)
  | missingArgument (operator : String)
  | openParenthesis
  deriving DecidableEq, Repr

namespace Mistake

def message : Mistake → String
  | .illegalNumber word => "Illegal number: " ++ word
  | .unexpectedOperator word => word ++ ": unexpected operator"
  | .missingArgument operator => operator ++ ": argument expected"
  | .openParenthesis => "closing paren expected"

end Mistake

/-- An integer of 64 bits with blanks around it. -/
def integer (word : String) : Except Mistake Int :=
  let cs := word.toList.dropWhile ByteClass.isSpace
  let cs := (cs.reverse.dropWhile ByteClass.isSpace).reverse
  let (negative, digits) :=
    match cs with
    | '-' :: ds => (true, ds)
    | '+' :: ds => (false, ds)
    | ds => (false, ds)
  match Decimal.nat? digits with
  | some n =>
    let value : Int := if negative then -(n : Int) else n
    if -Int.pow 2 63 ≤ value && value < Int.pow 2 63 then .ok value else .error (.illegalNumber word)
  | none => .error (.illegalNumber word)

/-- What a word is where an operator might stand. -/
inductive Kind where
  | unary
  | binary
  | both
  | either
  | negation
  | opening
  | closing
  deriving DecidableEq, Repr

def kind? (word : String) : Option Kind :=
  match word with
  | "!" => some .negation
  | "(" => some .opening
  | ")" => some .closing
  | "-a" => some .both
  | "-o" => some .either
  | "-r" | "-w" | "-x" | "-e" | "-f" | "-d" | "-c" | "-b" | "-p" | "-u" | "-g" | "-k" | "-s" | "-t"
  | "-z" | "-n" | "-h" | "-O" | "-G" | "-L" | "-S" => some .unary
  | "=" | "!=" | "<" | ">" | "-eq" | "-ne" | "-ge" | "-gt" | "-le" | "-lt" | "-nt" | "-ot" | "-ef" =>
    some .binary
  | _ => none

/-- Whether a word in front of others is no operator on the next one. -/
def standsAlone : List String → Bool
  | _ :: next :: _ :: _ => kind? next = some .binary
  | _ :: _ :: _ => false
  | _ => true

/-- The operator in front of some words, if there is one. -/
def operator? (words : List String) : Option Kind :=
  match kind? (words.headD "") with
  | some .unary => if standsAlone words then none else some .unary
  | some .opening => if words.length = 1 then none else some .opening
  | kind => kind

/-- A condition on one text or file. -/
def unary (disk : Disk) (operator word : String) : Except Mistake Bool :=
  let node? := (disk.find word).toOption.map (·.2)
  match operator with
  | "-n" => .ok (!word.isEmpty)
  | "-z" => .ok word.isEmpty
  | "-e" | "-r" | "-w" | "-O" | "-G" => .ok node?.isSome
  | "-f" => .ok (disk.isFile word)
  | "-d" => .ok (disk.isDirectory word)
  | "-s" => .ok (node?.any fun
      | .file data _ => !data.isEmpty
      | .directory | .special (.command _) => true
      | _ => false)
  | "-x" => .ok (node?.any fun
      | .file _ executable => executable
      | .directory | .special (.command _) => true
      | _ => false)
  | "-L" | "-h" =>
    .ok (match disk.look word with
      | .ok (_, .link _) => true
      | _ => false)
  | "-c" => .ok (node?.any fun e => e = .special .null || e = .special .zero)
  | "-t" => (integer word).map fun _ => false
  | _ => .ok false

/-- A condition on two texts, numbers or files. No file is newer than another, as all
are of one moment. -/
def binary (disk : Disk) (operator a b : String) : Except Mistake Bool :=
  let numbers := fun (holds : Int → Int → Bool) => do return holds (← integer a) (← integer b)
  match operator with
  | "=" => .ok (a = b)
  | "!=" => .ok (a ≠ b)
  | "<" => .ok (a < b)
  | ">" => .ok (b < a)
  | "-eq" => numbers fun a b => a = b
  | "-ne" => numbers fun a b => a ≠ b
  | "-lt" => numbers fun a b => a < b
  | "-le" => numbers fun a b => a ≤ b
  | "-gt" => numbers fun a b => a > b
  | "-ge" => numbers fun a b => a ≥ b
  | "-ef" =>
    .ok (match disk.find a, disk.find b with
      | .ok (l, _), .ok (m, _) => l = m
      | _, _ => false)
  | _ => .ok false

mutual

/-- Parts of which one has to hold, from the word in front on. Answers with the words
from the last one on that was looked at. -/
def anyOf (disk : Disk) (depth : Nat) (words : List String) :
    Except Mistake (Bool × List String) := do
  match depth with
  | 0 => return (false, words)
  | depth + 1 =>
    let (a, words) ← allOf disk depth words
    if operator? (words.drop 1) = some .either then
      let (b, words) ← anyOf disk depth (words.drop 2)
      return (a || b, words)
    else return (a, words)

/-- Parts of which each has to hold. -/
def allOf (disk : Disk) (depth : Nat) (words : List String) :
    Except Mistake (Bool × List String) := do
  match depth with
  | 0 => return (false, words)
  | depth + 1 =>
    let (a, words) ← part disk depth words
    if operator? (words.drop 1) = some .both then
      let (b, words) ← allOf disk depth (words.drop 2)
      return (a && b, words)
    else return (a, words)

/-- One part: negated, in parentheses, or on one or two words. -/
def part (disk : Disk) (depth : Nat) (words : List String) :
    Except Mistake (Bool × List String) := do
  match depth, words with
  | 0, _ => return (false, words)
  | _, [] => return (false, [])
  | depth + 1, word :: rest =>
    match operator? words with
    | some .negation =>
      let (a, after) ← part disk depth rest
      return (!a, if rest.isEmpty then words else after)
    | some .opening =>
      if operator? rest = some .closing then return (false, rest)
      let (a, after) ← anyOf disk depth rest
      if operator? (after.drop 1) = some .closing then return (a, after.drop 1)
      else throw .openParenthesis
    | some .unary =>
      match rest with
      | operand :: _ => return (← unary disk word operand, rest)
      | [] => throw (.missingArgument word)
    | _ => comparison disk words

/-- A comparison, or a word that is not empty. -/
def comparison (disk : Disk) (words : List String) : Except Mistake (Bool × List String) := do
  match words with
  | word :: operator :: rest =>
    if operator? (operator :: rest) = some .binary then
      match rest with
      | other :: _ => return (← binary disk operator word other, rest)
      | [] => throw (.missingArgument operator)
    else return (!word.isEmpty, words)
  | _ => return (!(words.headD "").isEmpty, words)

end

/-- Whether what was read is all there is. -/
def whole (result : Bool × List String) : Except Mistake Bool :=
  match result with
  | (_, word :: _ :: _) => .error (.unexpectedOperator word)
  | (holds, _) => .ok holds

/-- Whether a condition holds. In short rows an operator in the middle goes first, then
what stands in front. -/
def answer (disk : Disk) : List String → Except Mistake Bool
  | [] => .ok false
  | first :: rest =>
    let words := first :: rest
    let read := fun words : List String => anyOf disk (4 * words.length + 8) words >>= whole
    if rest.length = 2 && kind? (rest.headD "") = some .binary then comparison disk words >>= whole
    else if rest.length ≠ 2 && rest.length ≠ 3 then read words
    else if first = "(" && rest.getLast? = some ")" then read rest.dropLast
    else if first = "!" then (answer disk rest).map (!·)
    else read words

end Mender.Shell.Condition
