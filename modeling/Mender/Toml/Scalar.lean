import Mender.Json.Reader
import Mender.Text.Search
import Mender.Toml.Basic

/-!
# Unquoted values

The values that are written without quotes: truth values, integers in four
bases, decimal fractions, dates and times. Single underscores may stand between
digits.
-/

namespace Mender.Toml.Scalar

open Text

/-- The digits of a number, with single underscores between them left out. -/
def grouped? (isDigit : Char → Bool) (cs : List Char) : Option (List Char) :=
  let groups := splitOn '_' cs
  if groups.all fun g => !g.isEmpty && g.all isDigit then some groups.flatten else none

/-- The digits of a decimal whole number, which has no needless zero in front. -/
def whole? (cs : List Char) : Option Nat := do
  let digits ← grouped? isDigit cs
  match digits with
  | '0' :: _ :: _ => none
  | _ => some (Decimal.value digits)

/-- Whether a sign is a minus, and what follows it. -/
def signed : List Char → Bool × List Char
  | '-' :: rest => (true, rest)
  | '+' :: rest => (false, rest)
  | cs => (false, cs)

/-- The value of digits in a base. -/
def inBase? (base : Nat) (cs : List Char) : Option Nat := do
  let digits ← grouped? (fun c => (Json.hexValue? c).any (· < base)) cs
  return digits.foldl (fun n c => base * n + (Json.hexValue? c).getD 0) 0

def integer? : List Char → Option Int
  | '0' :: 'x' :: cs => (inBase? 16 cs).map Int.ofNat
  | '0' :: 'o' :: cs => (inBase? 8 cs).map Int.ofNat
  | '0' :: 'b' :: cs => (inBase? 2 cs).map Int.ofNat
  | cs =>
    let (negative, digits) := signed cs
    (whole? digits).map fun n => if negative then -(n : Int) else n

def fraction? : List Char → Option (List Char)
  | [] => some []
  | '.' :: cs => grouped? isDigit cs
  | _ => none

def power? : List Char → Option (Option Int)
  | [] => some none
  | _ :: cs =>
    let (negative, digits) := signed cs
    (grouped? isDigit digits).map fun ds =>
      some (if negative then -(Decimal.value ds : Int) else Decimal.value ds)

/-- Whether a text names an infinity or what is no number. -/
def isUnbounded (cs : List Char) : Bool :=
  (signed cs).2 = ['i', 'n', 'f'] || (signed cs).2 = ['n', 'a', 'n']

def float? (cs : List Char) : Option Numeral := do
  let (negative, body) := signed cs
  let isPower := fun c => c = 'e' || c = 'E'
  let mantissa := body.takeWhile (!isPower ·)
  let power := body.dropWhile (!isPower ·)
  let point := mantissa.dropWhile (· ≠ '.')
  if point.isEmpty && power.isEmpty then none
  else
    return ⟨negative, ← whole? (mantissa.takeWhile (· ≠ '.')), ← fraction? point, ← power? power⟩

/-- Reads two digits as a number up to a bound. -/
def two? (bound : Nat) : List Char → Option (Nat × List Char)
  | a :: b :: rest =>
    if isDigit a && isDigit b && Decimal.value [a, b] ≤ bound then
      some (Decimal.value [a, b], rest)
    else none
  | _ => none

def daysIn (year month : Nat) : Nat :=
  if month = 2 then
    if year % 4 = 0 && (year % 100 ≠ 0 || year % 400 = 0) then 29 else 28
  else if month = 4 || month = 6 || month = 9 || month = 11 then 30
  else 31

/-- What follows a date. -/
def afterDate? : List Char → Option (List Char)
  | a :: b :: c :: d :: '-' :: rest => do
    if !(isDigit a && isDigit b && isDigit c && isDigit d) then none
    let (month, rest) ← two? 12 rest
    let '-' :: rest := rest | none
    let (day, rest) ← two? 31 rest
    if month = 0 || day = 0 || day > daysIn (Decimal.value [a, b, c, d]) month then none
    return rest
  | _ => none

/-- What follows the places of a second. -/
def afterPlaces? : List Char → Option (List Char)
  | '.' :: rest =>
    if (rest.takeWhile isDigit).isEmpty then none else some (rest.dropWhile isDigit)
  | rest => some rest

/-- What follows a time, whose seconds may be left out. -/
def afterTime? (cs : List Char) : Option (List Char) := do
  let (_, rest) ← two? 23 cs
  let ':' :: rest := rest | none
  let (_, rest) ← two? 59 rest
  match rest with
  | ':' :: rest =>
    let (_, rest) ← two? 60 rest
    afterPlaces? rest
  | rest => return rest

/-- Whether the rest of a date with a time is nothing or an offset. -/
def isOffset : List Char → Bool
  | [] | ['Z'] | ['z'] => true
  | sign :: rest =>
    (sign = '+' || sign = '-') &&
      match two? 23 rest with
      | some (_, ':' :: rest) => (two? 59 rest).any (·.2.isEmpty)
      | _ => false

def isMoment (cs : List Char) : Bool :=
  match afterDate? cs with
  | some [] => true
  | some (c :: rest) =>
    (c = 'T' || c = 't' || c = ' ') && (afterTime? rest).any isOffset
  | none => (afterTime? cs).any (·.isEmpty)

/-- The value of an unquoted text. -/
def value? (cs : List Char) : Option Toml :=
  if cs = ['t', 'r', 'u', 'e'] then some (.boolean true)
  else if cs = ['f', 'a', 'l', 's', 'e'] then some (.boolean false)
  else if isUnbounded cs then some (.unbounded cs)
  else
    match integer? cs with
    | some n => some (.integer n)
    | none =>
      match float? cs with
      | some n => some (.float n)
      | none => if isMoment cs then some (.moment cs) else none

end Mender.Toml.Scalar
