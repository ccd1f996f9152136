import Mender.Shell.Fraction
import Mender.Shell.Utility.Basic

/-!
# Rows of numbers

The program that prints the numbers from one to another. Numbers are decimal fractions,
which are added exactly.
-/

namespace Mender.Shell.Sequence

open Text

/-- A decimal number as it was written. -/
structure Term where
  /-- The number without its point. -/
  num : Int
  /-- How many of its digits stand behind the point. -/
  places : Nat
  isInfinite : Bool
  negative : Bool
  /-- How many places are to be shown, where that is known. -/
  shown? : Option Nat
  width : Nat
  deriving DecidableEq, Repr

/-- Why a word is no term. -/
inductive TermMistake where
  | noNumber
  | notANumber

/-- The exact value of a decimal number without a sign. -/
def decimalValue (cs : List Char) : Nat × Int :=
  match NumberInFront.digitsIn? isDigit cs with
  | none => (0, 0)
  | some (whole, part, rest) =>
    let power := ((NumberInFront.exponentIn? ['e', 'E'] rest).map (·.1)).getD 0
    (Decimal.value (whole ++ part), power - part.length)

/-- How many places and columns a number takes, by the way in which it is written. -/
def extent (cs : List Char) : Nat × Nat :=
  let before := cs.takeWhile (· ≠ '.')
  let hasPoint := cs.contains '.'
  let body := cs.takeWhile fun c => c ≠ 'e' && c ≠ 'E'
  let part := if hasPoint then body.drop (before.length + 1) else []
  let places := part.length
  let width : Int := body.length +
    (if !hasPoint then 0 else if part.isEmpty then -1
      else if before.getLast?.all (!isDigit ·) then 1 else 0)
  match NumberInFront.exponentIn? ['e', 'E'] (cs.drop body.length) with
  | none => (places, width.toNat)
  | some (e, _) =>
    let extra : Int := if e < 0 && (!hasPoint || part.isEmpty) then 1 else 0
    ((if e < 0 then (places : Int) - e else places - min (places : Int) e).toNat,
      (width + extra + e.natAbs).toNat)

def term? (word : String) : Except TermMistake Term :=
  match NumberInFront.ofChars? word.toList with
  | none => .error .noNumber
  | some ⟨negative, magnitude, rest⟩ =>
    if !rest.isEmpty then .error .noNumber
    else
      let cs := word.toList.dropWhile fun c => ByteClass.isSpace c || c = '+'
      let body := if cs.head? = some '-' then cs.drop 1 else cs
      let isHex := cs.contains 'x' || cs.contains 'X'
      let signed := fun n : Nat => if negative then -(n : Int) else n
      match magnitude with
      | .notANumber => .error .notANumber
      | .infinite => .ok ⟨0, 0, true, negative, none, 0⟩
      | .finite f =>
        if isHex then .ok ⟨signed (f.num / f.den), 0, false, negative, some 0, 0⟩
        else
          let (digits, power) := decimalValue body
          let (places, width) := extent cs
          if 0 ≤ power then
            .ok ⟨signed (digits * Nat.pow 10 power.toNat), 0, false, negative, some places, width⟩
          else .ok ⟨signed digits, (-power).toNat, false, negative, some places, width⟩

/-- The number of a term in units of a power of ten. -/
def Term.inUnits (t : Term) (places : Nat) : Int := t.num * Int.pow 10 (places - t.places)

/-- What is wrong with a format for numbers. -/
inductive FormatMistake where
  | none
  | unknown (c : Char)
  | tooMany
  | endsInside

def FormatMistake.message (format : String) : FormatMistake → String
  | .none => "format " ++ Quoting.word format ++ " has no % directive"
  | .unknown c =>
    "format " ++ Quoting.word format ++ " has unknown %" ++ String.singleton c ++ " directive"
  | .tooMany => "format " ++ Quoting.word format ++ " has too many % directives"
  | .endsInside => "format " ++ Quoting.word format ++ " ends in %"

/-- A text up to the first directive, and what follows its percent sign. -/
def upToDirective (before : List Char) : List Char → List Char × Option (List Char)
  | [] => (before.reverse, none)
  | '%' :: '%' :: rest => upToDirective ('%' :: before) rest
  | '%' :: rest => (before.reverse, some rest)
  | c :: rest => upToDirective (c :: before) rest

/-- A format as a text, a directive and a text. -/
def format? (format : String) : Except FormatMistake (List Char × Printf.Directive × List Char) :=
  match upToDirective [] format.toList with
  | (_, none) => .error .none
  | (before, some rest) =>
    match Printf.directive? rest with
    | none => .error .endsInside
    | some (d, size) =>
      if !"aefgAEFG".toList.contains d.conversion then .error (.unknown d.conversion)
      else
        match upToDirective [] (rest.drop size) with
        | (after, none) => .ok (before, d, after)
        | (_, some _) => .error .tooMany

/-- A number with some places, filled up with zeros to a width. -/
def fixedText (places width : Nat) (negative : Bool) (f : Fraction) : Bytes :=
  let digits := f.fixed false places
  let sign := if negative then ['-'] else []
  ByteText.bytesOf
    (sign ++ List.replicate (width - sign.length - digits.length) '0' ++ digits)

def amountOf : Printf.Amount → Nat
  | .given n => n
  | .argument => 0

end Sequence

namespace Utility

open Sequence Text

/-- How many numbers are printed of a row without an end. -/
def manyTerms : Nat := 20000

def printRow (name : String) (o : Options) (first step last : Term) : Act Nat := do
  let directive? ← match o.value? "f" with
    | none => pure none
    | some text =>
      match format? text with
      | .ok format => pure (some format)
      | .error mistake =>
        complain name (mistake.message text)
        return 1
  if o.has "w" && directive?.isSome then
    return ← misused 1 name "format string may not be specified when printing equal width strings"
  let unit := max first.places (max step.places last.places)
  let start := first.inUnits unit
  let change := step.inUnits unit
  let stop := last.inUnits unit
  let count :=
    if first.isInfinite || step.isInfinite then 0
    else if last.isInfinite then (if last.negative = (change < 0) then manyTerms else 0)
    else if 0 < change then ((stop - start) / change + 1).toNat
    else ((start - stop) / (-change) + 1).toNat
  let places := max (first.shown?.getD 0) (step.shown?.getD 0)
  let isPlain := first.shown?.isSome && step.shown?.isSome && last.shown?.isSome
  let widthOf := fun (t : Term) (own : Nat) =>
    t.width + places - own + (if own = 0 && 0 < places then 1 else 0)
  let width := if !o.has "w" || !isPlain then 0
    else
      let own := last.shown?.getD 0
      max (widthOf first (first.shown?.getD 0))
        (widthOf last own - (if 0 < own && places = 0 then 1 else 0))
  let text := fun (i : Nat) =>
    let n := start + change * i
    let negative := n < 0 || (n = 0 && i = 0 && first.negative)
    let f : Fraction := ⟨n.natAbs, Nat.pow 10 unit⟩
    match directive? with
    | some (before, d, after) =>
      ByteText.bytesOf before ++
        Printf.fractionText d (Sequence.amountOf d.width) (d.precision.map Sequence.amountOf) negative
          (.finite f) ++ ByteText.bytesOf after
    | none =>
      if isPlain || last.isInfinite then fixedText places width negative f
      else ByteText.bytesOf (f.general false 'e' 6)
  let separator := ByteText.toBytes ((o.value? "s").getD "\n")
  let terms := (List.range count).map text
  Act.write 1 ((terms.intersperse separator).flatten ++ if terms.isEmpty then [] else [10])
  if last.isInfinite && 0 < count then Act.hang
  return 0

/-- The options in front of numbers, of which negative ones are no options. -/
def seq : Utility := fun name words => do
  let isNegative := fun w : String =>
    match w.toList with
    | '-' :: c :: _ => c = '.' || isDigit c
    | _ => false
  let takesValue := fun w : String => w = "-f" || w = "-s" || w = "--format" || w = "--separator"
  let rec split (skip : Bool) : List String → Nat
    | [] => 0
    | w :: rest => if !skip && isNegative w then 0 else 1 + split (!skip && takesValue w) rest
  let optionCount := split false words
  let specs := [valued 'f' "format", valued 's' "separator", flag 'w' "equal-width"]
  let front := words.take optionCount
  match parseOptions specs false (lettersIn front) front with
  | .error mistake => misused 1 name mistake.message
  | .ok o =>
    let operands := o.operands ++ words.drop optionCount
    if operands.isEmpty then return ← misused 1 name "missing operand"
    if let some extra := operands[3]? then
      return ← misused 1 name ("extra operand " ++ Quoting.word extra)
    let mut terms : List Term := []
    for word in operands do
      match term? word with
      | .ok t => terms := terms ++ [t]
      | .error .noNumber =>
        return ← misused 1 name ("invalid floating point argument: " ++ Quoting.word word)
      | .error .notANumber =>
        return ← misused 1 name ("invalid 'not-a-number' argument: " ++ Quoting.word word)
    let one : Term := ⟨1, 0, false, false, some 0, 1⟩
    match terms with
    | [last] => printRow name o one one last
    | [first, last] => printRow name o first one last
    | first :: step :: last :: _ =>
      if step.num = 0 && !step.isInfinite then
        misused 1 name ("invalid Zero increment value: " ++ Quoting.word ((operands[1]?).getD ""))
      else printRow name o first step last
    | [] => return 0

end Utility

end Mender.Shell
