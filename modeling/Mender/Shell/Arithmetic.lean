import Mender.Shell.ByteClass
import Mender.Shell.Fraction
import Mender.Text.Search

/-!
# Arithmetic in scripts

Integer expressions over variables, in words of 64 bits. An unset variable counts
as zero, and an expression may set variables. A part that cannot change the value any
more is read, but not worked out.
-/

namespace Mender.Shell.Arithmetic

open Text

inductive Token where
  | number (n : Int)
  | name (s : String)
  | mark (s : String)
  deriving DecidableEq, Repr

/-- Marks of several characters, the longest first. -/
def longMarks : List String :=
  ["<<=", ">>=", "<<", ">>", "<=", ">=", "==", "!=", "&&", "||", "+=", "-=", "*=", "/=", "%=",
   "&=", "|=", "^="]

def isNameChar (c : Char) : Bool := isAsciiLetter c || isDigit c || c = '_'

def isBlankChar (c : Char) : Bool := c = ' ' || c = '\t' || c = '\n'

/-- The largest number. -/
def maxNumber : Nat := Nat.pow 2 63 - 1

/-- The value of the numeral in front and how many characters it takes: with `0x` in
base 16, with a zero in front in base 8. -/
def numeral (cs : List Char) : Nat × Nat :=
  let inBase := fun (base : Nat) (ds : List Char) =>
    ds.foldl (fun n c => base * n + (NumberInFront.hexDigit? c).getD 0) 0
  let hex := ((cs.drop 2).takeWhile fun c => (NumberInFront.hexDigit? c).isSome)
  let isHex := cs.head? = some '0' && (cs.drop 1).head?.any (fun c => c = 'x' || c = 'X')
  if isHex && !hex.isEmpty then (inBase 16 hex, hex.length + 2)
  else if cs.head? = some '0' then
    let ds := cs.takeWhile fun c => '0' ≤ c && c ≤ '7'
    (inBase 8 ds, ds.length)
  else
    let ds := cs.takeWhile isDigit
    (inBase 10 ds, ds.length)

/-- Cuts an expression into tokens; `passed` characters belong to the one before. -/
def tokens (passed : Nat) : List Char → List Token
  | [] => []
  | c :: rest =>
    match passed with
    | passed + 1 => tokens passed rest
    | 0 =>
      if isBlankChar c then tokens 0 rest
      else if isDigit c then
        let (n, size) := numeral (c :: rest)
        .number (min n maxNumber : Nat) :: tokens (size - 1) rest
      else if isNameChar c then
        let word := c :: rest.takeWhile isNameChar
        .name (String.ofList word) :: tokens (word.length - 1) rest
      else
        match longMarks.find? fun m => startsWith m.toList (c :: rest) with
        | some m => .mark m :: tokens (m.length - 1) rest
        | none => .mark (String.singleton c) :: tokens 0 rest

/-- Why an expression has no value. -/
inductive Mistake where
  | divisionByZero
  | expecting (what : String)
  /-- The value of a variable is no number. -/
  | illegalNumber (value : String)
  deriving DecidableEq, Repr

/-- What is wrong with an expression. -/
def Mistake.message (expression : String) : Mistake → String
  | .divisionByZero => "arithmetic expression: division by zero: \"" ++ expression ++ "\""
  | .expecting what => "arithmetic expression: expecting " ++ what ++ ": \"" ++ expression ++ "\""
  | .illegalNumber value => "Illegal number: " ++ value

def wrapped (n : Int) : Int := n.bmod UInt64.size

def truth (b : Bool) : Int := if b then 1 else 0

/-- How tightly an operator binds. -/
def level? : String → Option Nat
  | "||" => some 1
  | "&&" => some 2
  | "|" => some 3
  | "^" => some 4
  | "&" => some 5
  | "==" | "!=" => some 6
  | "<" | "<=" | ">" | ">=" => some 7
  | "<<" | ">>" => some 8
  | "+" | "-" => some 9
  | "*" | "/" | "%" => some 10
  | _ => none

/-- Two numbers as words of 64 bits, combined bit by bit. -/
def bitwise (f : Nat → Nat → Nat) (a b : Int) : Int :=
  wrapped (f (a % UInt64.size).toNat (b % UInt64.size).toNat)

def apply (operator : String) (a b : Int) : Except Mistake Int :=
  match operator with
  | "|" => .ok (bitwise Nat.lor a b)
  | "^" => .ok (bitwise Nat.xor a b)
  | "&" => .ok (bitwise Nat.land a b)
  | "==" => .ok (truth (a = b))
  | "!=" => .ok (truth (a ≠ b))
  | "<" => .ok (truth (a < b))
  | "<=" => .ok (truth (a ≤ b))
  | ">" => .ok (truth (a > b))
  | ">=" => .ok (truth (a ≥ b))
  | "<<" => .ok (wrapped (a * Int.pow 2 (b % 64).toNat))
  | ">>" => .ok (Int.fdiv a (Int.pow 2 (b % 64).toNat))
  | "+" => .ok (wrapped (a + b))
  | "-" => .ok (wrapped (a - b))
  | "*" => .ok (wrapped (a * b))
  | "/" => if b = 0 then .error .divisionByZero else .ok (wrapped (Int.tdiv a b))
  | "%" => if b = 0 then .error .divisionByZero else .ok (Int.tmod a b)
  | _ => .error (.expecting "primary")

/-- The values of variables, what was set, the latest last, and the tokens that are left. -/
structure State where
  value? : String → Option String
  assigned : List (String × String)
  rest : List Token

abbrev Eval := StateT State (Except Mistake)

def take? (mark : String) : Eval Bool := do
  let s ← get
  match s.rest with
  | .mark m :: rest =>
    if m = mark then
      set { s with rest }
      return true
    else return false
  | _ => return false

/-- The number that a text stands for, with blanks around it. -/
def number? (text : String) : Option Int :=
  let cs := text.toList.dropWhile ByteClass.isSpace
  let (negative, digits) :=
    match cs with
    | '-' :: ds => (true, ds)
    | '+' :: ds => (false, ds)
    | ds => (false, ds)
  let (n, size) := numeral digits
  let value : Int := if negative then -(n : Int) else n
  let rest := if size = 0 then text.toList else digits.drop size
  if rest.all ByteClass.isSpace && -Int.pow 2 63 ≤ value && value < Int.pow 2 63 then some value else none

def valueOf (key : String) : Eval Int := do
  let s ← get
  let text := ((s.assigned.reverse.lookup key).orElse fun _ => s.value? key).getD ""
  match number? text with
  | some n => return n
  | none => throw (.illegalNumber text)

def assign (key : String) (n : Int) : Eval Int := do
  modify fun s => { s with assigned := s.assigned ++ [(key, Decimal.intText n)] }
  return n

/-- The operator that a mark of assignment works with. -/
def combined? (mark : String) : Option String :=
  let operator := (mark.dropEnd 1).toString
  if longMarks.contains mark && mark.endsWith "=" && (level? mark).isNone then some operator else none

mutual

/-- A whole expression: an assignment or a choice. -/
def expression (depth : Nat) (live : Bool) : Eval Int := do
  match depth with
  | 0 => throw (.expecting "primary")
  | depth + 1 =>
    let s ← get
    match s.rest with
    | .name key :: .mark m :: rest =>
      if m = "=" then
        set { s with rest }
        let n ← expression depth live
        if live then assign key n else return n
      else
        match combined? m with
        | some operator =>
          set { s with rest }
          let change ← expression depth live
          if live then
            let n ← apply operator (← valueOf key) change
            assign key n
          else return change
        | none => choice depth live
    | _ => choice depth live

def choice (depth : Nat) (live : Bool) : Eval Int := do
  match depth with
  | 0 => throw (.expecting "primary")
  | depth + 1 =>
    let condition ← alternatives depth live
    if ← take? "?" then
      let yes ← expression depth (live && condition ≠ 0)
      if ← take? ":" then
        let no ← choice depth (live && condition = 0)
        return if condition ≠ 0 then yes else no
      else throw (.expecting "':'")
    else return condition

/-- Parts of which one has to be true. -/
def alternatives (depth : Nat) (live : Bool) : Eval Int := do
  match depth with
  | 0 => throw (.expecting "primary")
  | depth + 1 =>
    let a ← conjunction depth live
    if ← take? "||" then
      let b ← alternatives depth (live && a = 0)
      return truth (a ≠ 0 || b ≠ 0)
    else return a

/-- Parts that have to be true together. -/
def conjunction (depth : Nat) (live : Bool) : Eval Int := do
  match depth with
  | 0 => throw (.expecting "primary")
  | depth + 1 =>
    let first ← operand depth live
    let a ← operators depth 3 live first
    if ← take? "&&" then
      let b ← conjunction depth (live && a ≠ 0)
      return truth (a ≠ 0 && b ≠ 0)
    else return a

/-- Operators of at least a level behind their first operand. -/
def operators (depth least : Nat) (live : Bool) (first : Int) : Eval Int := do
  match depth with
  | 0 => throw (.expecting "primary")
  | depth + 1 =>
    let s ← get
    match s.rest with
    | .mark m :: rest =>
      match level? m with
      | some level =>
        if level < least then return first
        else
          set { s with rest }
          let second ← operand depth live
          let second ← operators depth (level + 1) live second
          let n ← if live then apply m first second else pure second
          operators depth least live n
      | none => return first
    | _ => return first

def operand (depth : Nat) (live : Bool) : Eval Int := do
  match depth with
  | 0 => throw (.expecting "primary")
  | depth + 1 =>
    let s ← get
    match s.rest with
    | .number n :: rest =>
      set { s with rest }
      return n
    | .name key :: rest =>
      set { s with rest }
      if live then valueOf key else return 0
    | .mark m :: rest =>
      set { s with rest }
      match m with
      | "-" => return wrapped (-(← operand depth live))
      | "+" => operand depth live
      | "!" => return truth ((← operand depth live) = 0)
      | "~" => return -(← operand depth live) - 1
      | "(" =>
        let n ← expression depth live
        if ← take? ")" then return n else throw (.expecting "')'")
      | _ => throw (.expecting "primary")
    | [] => throw (.expecting "primary")

end

/-- The value of an expression and what it sets. -/
def evaluate (value? : String → Option String) (cs : List Char) :
    Except Mistake (Int × List (String × String)) := do
  let found := tokens 0 cs
  let (n, s) ← (expression (8 * found.length + 8) true).run ⟨value?, [], found⟩
  if s.rest.isEmpty then return (n, s.assigned) else throw (.expecting "EOF")

end Mender.Shell.Arithmetic
