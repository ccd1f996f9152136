import Mender.Text.Decimal

/-!
# Fractions

Numbers with a fraction as commands read and write them. They are read in decimal or
hexadecimal, kept as the nearest double, and written with a fixed number of places, with
an exponent, or in the shorter of both ways. A tie goes to the even neighbour.
-/

namespace Mender.Shell

/-- A number that is not negative. -/
structure Fraction where
  num : Nat
  den : Nat
  deriving DecidableEq, Repr

namespace Fraction

/-- The quotient rounded to the nearest number, of two the even one. -/
def nearest (num den : Nat) : Nat :=
  let whole := num / den
  let rest := num % den
  if 2 * rest < den then whole else if den < 2 * rest then whole + 1 else whole + whole % 2

/-- A number times a power of ten. -/
def scaled (f : Fraction) (power : Int) : Fraction :=
  if 0 ≤ power then { f with num := f.num * Nat.pow 10 power.toNat }
  else { f with den := f.den * Nat.pow 10 (-power).toNat }

def rounded (f : Fraction) : Nat := nearest f.num f.den

/-- A whole number of digits with a point in front of its last `places`. -/
def withPoint (alwaysPoint : Bool) (places n : Nat) : List Char :=
  let ds := Decimal.digits n
  let ds := List.replicate (places + 1 - ds.length) '0' ++ ds
  let whole := ds.take (ds.length - places)
  if places = 0 && !alwaysPoint then whole else whole ++ '.' :: ds.drop whole.length

/-- A number with a fixed number of places. -/
def fixed (alwaysPoint : Bool) (places : Nat) (f : Fraction) : List Char :=
  withPoint alwaysPoint places (f.scaled places).rounded

/-- The exponent of the first digit. -/
def exponent (f : Fraction) : Int :=
  if f.num = 0 then 0
  else
    let guess : Int := (Decimal.digits f.num).length - (Decimal.digits f.den).length
    let shifted := f.scaled (-guess)
    if shifted.den ≤ shifted.num then guess else guess - 1

/-- The digits of a number with one in front of the point, and its exponent. -/
def significand (places : Nat) (f : Fraction) : Nat × Int :=
  let e := f.exponent
  let n := (f.scaled (places - e)).rounded
  if n = Nat.pow 10 (places + 1) then (n / 10, e + 1) else (n, e)

def exponentText (mark : Char) (e : Int) : List Char :=
  let ds := Decimal.digits e.natAbs
  mark :: (if e < 0 then '-' else '+') :: (if ds.length < 2 then '0' :: ds else ds)

/-- A number with an exponent. -/
def scientific (alwaysPoint : Bool) (mark : Char) (places : Nat) (f : Fraction) : List Char :=
  let (n, e) := f.significand places
  withPoint alwaysPoint places n ++ exponentText mark e

/-- A row of digits without the zeros behind the point. -/
def withoutZeros (cs : List Char) : List Char :=
  if !cs.contains '.' then cs
  else
    let cut := cs.reverse.dropWhile (· = '0')
    (if cut.head? = some '.' then cut.drop 1 else cut).reverse

/-- A number with so many digits that count, in the shorter way. -/
def general (keepsZeros : Bool) (mark : Char) (digits : Nat) (f : Fraction) : List Char :=
  let digits := max 1 digits
  let (n, e) := f.significand (digits - 1)
  let trim := fun cs => if keepsZeros then cs else withoutZeros cs
  if -4 ≤ e && e < digits then trim (fixed keepsZeros (digits - 1 - e).toNat f)
  else trim (withPoint keepsZeros (digits - 1) n) ++ exponentText mark e

end Fraction

/-- The size of a number that a text stands for. -/
inductive Magnitude where
  | finite (f : Fraction)
  | infinite
  | notANumber
  deriving DecidableEq, Repr

namespace Magnitude

/-- The double nearest to a decimal number. -/
def ofDecimal (digits : Nat) (exponent : Int) : Magnitude :=
  let size : Int := (Decimal.digits digits).length + exponent
  if digits = 0 || size < -400 then .finite ⟨0, 1⟩
  else if 400 < size then .infinite
  else
    let bits := (Float.ofScientific digits (exponent < 0) exponent.natAbs).toBits.toNat
    let field := bits / Nat.pow 2 52 % Nat.pow 2 11
    let tail := bits % Nat.pow 2 52
    if field = 2047 then .infinite
    else
      let m := if field = 0 then tail else Nat.pow 2 52 + tail
      let power := max 1 field
      if 1075 ≤ power then .finite ⟨m * Nat.pow 2 (power - 1075), 1⟩
      else .finite ⟨m, Nat.pow 2 (1075 - power)⟩

end Magnitude

/-- A number at the front of a text, and what follows it. -/
structure NumberInFront where
  negative : Bool
  magnitude : Magnitude
  rest : List Char

namespace NumberInFront

open Text

def hexDigit? (c : Char) : Option Nat :=
  if isDigit c then some (digitValue c)
  else
    let c := c.toLower
    if 'a' ≤ c && c ≤ 'f' then some (c.toNat - 'a'.toNat + 10) else none

/-- The number behind the mark of an exponent, and what follows it. -/
def exponentIn? (marks : List Char) (cs : List Char) : Option (Int × List Char) :=
  match cs with
  | c :: rest =>
    if !marks.contains c then none
    else
      let signed := match rest with
        | '+' :: r | '-' :: r => r
        | r => r
      let ds := signed.takeWhile isDigit
      if ds.isEmpty then none
      else
        let n : Int := min (Decimal.value ds) 1000000
        some (if rest.head? = some '-' then -n else n, signed.drop ds.length)
  | [] => none

/-- Digits in front and behind a point, and what follows them; at least one is there. -/
def digitsIn? (isMember : Char → Bool) (cs : List Char) :
    Option (List Char × List Char × List Char) :=
  let whole := cs.takeWhile isMember
  let behind := cs.drop whole.length
  let part := if behind.head? = some '.' then (behind.drop 1).takeWhile isMember else []
  if whole.isEmpty && part.isEmpty then none
  else some (whole, part, if behind.head? = some '.' then behind.drop (part.length + 1) else behind)

def magnitudeIn? (cs : List Char) : Option (Magnitude × List Char) :=
  let starts := fun word : String => (cs.take word.length).map Char.toLower = word.toList
  if starts "infinity" then some (.infinite, cs.drop 8)
  else if starts "inf" then some (.infinite, cs.drop 3)
  else if starts "nan" then some (.notANumber, cs.drop 3)
  else
    let hex? := if starts "0x" then digitsIn? (fun c => (hexDigit? c).isSome) (cs.drop 2) else none
    match hex? with
    | some (whole, part, rest) =>
      let n := (whole ++ part).foldl (fun n c => 16 * n + (hexDigit? c).getD 0) 0
      let (power, rest) := (exponentIn? ['p', 'P'] rest).getD (0, rest)
      let power := max (-2000) (min 2000 power) - 4 * part.length
      some (.finite (if 0 ≤ power then ⟨n * Nat.pow 2 power.toNat, 1⟩ else ⟨n, Nat.pow 2 (-power).toNat⟩), rest)
    | none =>
      (digitsIn? isDigit cs).map fun (whole, part, rest) =>
        let (power, rest) := (exponentIn? ['e', 'E'] rest).getD (0, rest)
        (.ofDecimal (Decimal.value (whole ++ part)) (power - part.length), rest)

/-- Reads a number behind blanks. -/
def ofChars? (cs : List Char) : Option NumberInFront :=
  let cs := cs.dropWhile fun c => c = ' ' || ('\t' ≤ c && c ≤ '\r')
  let body := match cs with
    | '+' :: r | '-' :: r => r
    | r => r
  (magnitudeIn? body).map fun (m, rest) => ⟨cs.head? = some '-', m, rest⟩

end NumberInFront

end Mender.Shell
