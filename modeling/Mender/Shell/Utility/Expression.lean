import Mender.Shell.Regex.Reader
import Mender.Shell.Utility.Basic

/-!
# Expressions in words

The program that works out an expression whose numbers, texts and operators are its
arguments. What cannot change the value any more is read, but not worked out.
-/

namespace Mender.Shell.Expression

inductive Value where
  | number (n : Int)
  | text (s : String)
  deriving DecidableEq, Repr

/-- Why an expression has no value. -/
inductive Mistake where
  | missingBehind (word : String)
  | unexpected (word : String)
  | strayParenthesis
  | openBehind (word : String)
  | notClosedBy (word : String)
  | noInteger
  | divisionByZero
  | badPattern (m : Regex.Mistake)
  deriving DecidableEq, Repr

def Mistake.message : Mistake → String
  | .missingBehind word => "syntax error: missing argument after " ++ Quoting.word word
  | .unexpected word => "syntax error: unexpected argument " ++ Quoting.word word
  | .strayParenthesis => "syntax error: unexpected ')'"
  | .openBehind word => "syntax error: expecting ')' after " ++ Quoting.word word
  | .notClosedBy word => "syntax error: expecting ')' instead of " ++ Quoting.word word
  | .noInteger => "non-integer argument"
  | .divisionByZero => "division by zero"
  | .badPattern m => m.message

/-- An integer with nothing around it but a minus sign. -/
def integer? (text : String) : Option Int :=
  match text.toList with
  | '-' :: ds => (Decimal.nat? ds).map fun n => -(n : Int)
  | ds => (Decimal.nat? ds).map fun n => (n : Int)

namespace Value

def shown : Value → String
  | .number n => Decimal.intText n
  | .text s => s

/-- Whether a value counts as nothing. -/
def isNull : Value → Bool
  | .number n => n = 0
  | .text s => s.isEmpty || integer? s = some 0

def toInt (v : Value) : Except Mistake Int :=
  match v with
  | .number n => .ok n
  | .text s =>
    match integer? s with
    | some n => .ok n
    | none => .error .noInteger

def ofBool (b : Bool) : Value := .number (if b then 1 else 0)

end Value

/-- The order of texts by their characters. -/
def isBefore (a b : String) : Bool := a < b

/-- How two values compare, as numbers if they both are. -/
def compare (operator : String) (a b : Value) : Bool :=
  let (less, more) :=
    match integer? a.shown, integer? b.shown with
    | some m, some n => (decide (m < n), decide (n < m))
    | _, _ => (isBefore a.shown b.shown, isBefore b.shown a.shown)
  match operator with
  | "<" => less
  | "<=" => !more
  | "=" | "==" => !less && !more
  | "!=" => less || more
  | ">=" => !less
  | _ => more

/-- What a pattern matches at the front of a text: its first part, or how much it is. -/
def matched (text pattern : Value) : Except Mistake Value :=
  match Regex.ofPattern ⟨false, false⟩ pattern.shown.toList with
  | .error m => .error (.badPattern m)
  | .ok (r, _) =>
    let s : Regex.Subject := ⟨text.shown.toList.toArray, false, true⟩
    let found? := (r.stopsAt s 0).head?.map (r.withParts s 0)
    .ok <|
      if r.groupCount > 0 then
        .text ((found?.bind fun m => (m.parts.lookup 1).map fun (start, stop) =>
          String.ofList (s.text.extract start stop).toList).getD "")
      else .number ((found?.map (·.stop)).getD 0)

/-- The words that are left, and the one in front of them. -/
structure Place where
  rest : List String
  last : String

abbrev Reader := StateT Place (Except Mistake)

/-- The word in front, if there is one. -/
def peek? : Reader (Option String) := return (← get).rest.head?

def take : Reader String := do
  let p ← get
  match p.rest with
  | [] => throw (.missingBehind p.last)
  | word :: rest =>
    set (Place.mk rest word)
    return word

/-- Takes one of some words, if it is in front. -/
def takeOne? (words : List String) : Reader (Option String) := do
  match ← peek? with
  | some word => if words.contains word then some <$> take else return none
  | none => return none

/-- The operators of each level, the loosest first. -/
def levels : List (List String) :=
  [["|"], ["&"], ["<", "<=", "=", "==", "!=", ">=", ">"], ["+", "-"], ["*", "/", "%"], [":"]]

/-- Whether the operand behind an operator has to be worked out. -/
def needsSecond (operator : String) (first : Value) : Bool :=
  match operator with
  | "|" => first.isNull
  | "&" => !first.isNull
  | _ => true

def apply (operator : String) (a b : Value) : Except Mistake Value :=
  let number := fun (f : Int → Int → Int) => do return .number (f (← a.toInt) (← b.toInt))
  match operator with
  | "|" => .ok (if !a.isNull then a else if b.isNull then .number 0 else b)
  | "&" => .ok (if a.isNull || b.isNull then .number 0 else a)
  | "+" => number (· + ·)
  | "-" => number (· - ·)
  | "*" => number (· * ·)
  | "/" | "%" => do
    let m ← a.toInt
    let n ← b.toInt
    if n = 0 then throw .divisionByZero
    return .number (if operator = "/" then Int.tdiv m n else Int.tmod m n)
  | ":" => matched a b
  | _ => .ok (.ofBool (compare operator a b))

/-- The part of a text at a place. -/
def part (text : Value) (start size : Value) : String :=
  match start.toInt, size.toInt with
  | .ok start, .ok size =>
    if start ≤ 0 || size ≤ 0 then ""
    else String.ofList ((text.shown.toList.drop (start.toNat - 1)).take size.toNat)
  | _, _ => ""

/-- The place of the first character that is among some. -/
def place (text among : String) : Nat :=
  let others := text.toList.takeWhile (!among.toList.contains ·)
  if others.length = text.length then 0 else others.length + 1

mutual

/-- Operands of a level with the operators of it between them. -/
def level (depth : Nat) (live : Bool) (rest : List (List String)) : Reader Value := do
  match depth, rest with
  | 0, _ => throw (.missingBehind "")
  | depth + 1, [] => operand depth live
  | depth + 1, operators :: tighter =>
    let first ← level depth live tighter
    more depth live operators tighter first

/-- What follows the first operand of a level. -/
def more (depth : Nat) (live : Bool) (operators : List String) (tighter : List (List String))
    (first : Value) : Reader Value := do
  match depth with
  | 0 => throw (.missingBehind "")
  | depth + 1 =>
    match ← takeOne? operators with
    | none => return first
    | some operator =>
      let needed := live && needsSecond operator first
      let second ← level depth needed tighter
      let value ←
        if needed || (live && !needsSecond operator first) then
          match apply operator first second with
          | .ok value => pure value
          | .error mistake => throw mistake
        else pure first
      more depth live operators tighter value

/-- A word, an expression in parentheses, or what a function makes of operands. -/
def operand (depth : Nat) (live : Bool) : Reader Value := do
  match depth with
  | 0 => throw (.missingBehind "")
  | depth + 1 =>
    match ← take with
    | "+" => return .text (← take)
    | "length" => return .number (← operand depth live).shown.length
    | "match" =>
      let text ← operand depth live
      let pattern ← operand depth live
      if !live then return text
      match matched text pattern with
      | .ok value => return value
      | .error mistake => throw mistake
    | "index" =>
      let text ← operand depth live
      let among ← operand depth live
      return .number (place text.shown among.shown)
    | "substr" =>
      let text ← operand depth live
      let start ← operand depth live
      let size ← operand depth live
      return .text (part text start size)
    | "(" =>
      let value ← level depth live levels
      match ← peek? with
      | none => throw (.openBehind (← get).last)
      | some ")" =>
        let _ ← take
        return value
      | some word => throw (.notClosedBy word)
    | ")" => throw .strayParenthesis
    | word => return .text word

end

/-- The value of words. -/
def evaluate (words : List String) : Except Mistake Value := do
  let (value, left) ← (level (20 * words.length + 20) true levels).run ⟨words, ""⟩
  match left.rest with
  | [] => return value
  | word :: _ => throw (.unexpected word)

end Mender.Shell.Expression

namespace Mender.Shell.Utility

def expr : Utility := fun name words => do
  match if words.head? = some "--" then words.drop 1 else words with
  | [] => misused 2 name "missing operand"
  | words =>
    match Expression.evaluate words with
    | .ok value =>
      Act.print (value.shown ++ "\n")
      return if value.isNull then 1 else 0
    | .error mistake =>
      complain name mistake.message
      return 2

end Mender.Shell.Utility
