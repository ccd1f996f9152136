import Mender.Shell.ByteText
import Mender.Shell.Fraction

/-!
# Formatted output

Escapes in texts that are printed, and formats that are filled in with arguments.
A format is used again as long as arguments are left.
-/

namespace Mender.Shell.Printf

open Text

def isOctal (c : Char) : Bool := '0' ≤ c && c ≤ '7'

def octalValue (digits : List Char) : UInt8 :=
  UInt8.ofNat (digits.foldl (fun n c => 8 * n + digitValue c) 0)

def letterEscape? : Char → Option UInt8
  | 'a' => some 7
  | 'b' => some 8
  | 't' => some 9
  | 'n' => some 10
  | 'v' => some 11
  | 'f' => some 12
  | 'r' => some 13
  | 'e' => some 27
  | '\\' => some 92
  | _ => none

/-- The byte for what stands behind a backslash, and how many characters it takes.
A backslash that escapes nothing stands for itself. -/
def escapeAt (zeroPrefix : Bool) (cs : List Char) : UInt8 × Nat :=
  let extra := if zeroPrefix && cs.head? = some '0' && (cs.drop 1).head?.any isOctal then 1 else 0
  let digits := ((cs.drop extra).take 3).takeWhile isOctal
  if !digits.isEmpty then (octalValue digits, extra + digits.length)
  else
    match cs.head?.bind letterEscape? with
    | some byte => (byte, 1)
    | none => (92, 0)

/-- The bytes of a text with escapes, and whether it says that nothing may follow. -/
def unescape (passed : Nat) : List Char → Bytes × Bool
  | [] => ([], false)
  | c :: rest =>
    match passed with
    | passed + 1 => unescape passed rest
    | 0 =>
      if c = '\\' && rest.head? = some 'c' then ([], true)
      else if c = '\\' then
        let (byte, n) := escapeAt true rest
        let (bytes, stop) := unescape n rest
        (byte :: bytes, stop)
      else
        let (bytes, stop) := unescape 0 rest
        ([UInt8.ofNat c.toNat] ++ bytes, stop)

/-- A number in a directive: given, or taken from the arguments. -/
inductive Amount where
  | given (n : Nat)
  | argument
  deriving DecidableEq, Repr

structure Directive where
  flags : List Char
  width : Amount
  precision : Option Amount
  conversion : Char
  deriving DecidableEq, Repr

inductive Part where
  | bytes (bs : Bytes)
  | directive (d : Directive)
  /-- A directive that the format ends in. -/
  | unfinished
  deriving DecidableEq, Repr

def amount (cs : List Char) : Amount × List Char :=
  match cs with
  | '*' :: rest => (.argument, rest)
  | _ => (.given (Decimal.value (cs.takeWhile isDigit)), cs.dropWhile isDigit)

/-- The directive behind a percent sign and how many characters it takes. -/
def directive? (cs : List Char) : Option (Directive × Nat) :=
  let isFlag := fun c => ['-', '+', ' ', '#', '0'].contains c
  let flags := cs.takeWhile isFlag
  let (width, rest) := amount (cs.dropWhile isFlag)
  let (precision, rest) :=
    match rest with
    | '.' :: more =>
      let (p, rest) := amount more
      (some p, rest)
    | _ => (none, rest)
  match rest with
  | conversion :: after => some (⟨flags, width, precision, conversion⟩, cs.length - after.length)
  | [] => none

/-- The parts of a format. -/
def parts (passed : Nat) : List Char → List Part
  | [] => []
  | c :: rest =>
    match passed with
    | passed + 1 => parts passed rest
    | 0 =>
      if c = '\\' then
        let (byte, n) := escapeAt false rest
        .bytes [byte] :: parts n rest
      else if c = '%' then
        if rest.head? = some '%' then .bytes [37] :: parts 1 rest
        else
          match directive? rest with
          | some (d, n) => .directive d :: parts n rest
          | none => [.unfinished]
      else .bytes ([UInt8.ofNat c.toNat]) :: parts 0 rest

def digitsInBase (base : Nat) (upper : Bool) (n : Nat) : List Char :=
  let ds := Nat.toDigits base n
  if upper then ds.map Char.toUpper else ds

/-- What is wrong with an argument, or with the format itself. -/
inductive Mistake where
  | notNumeric (arg : String)
  | trailing (arg : String)
  | outOfRange (arg : String)
  | invalidDirective (conversion : Char)
  | missingConversion
  deriving DecidableEq, Repr

namespace Mistake

def message : Mistake → String
  | .notNumeric arg => arg ++ ": expected numeric value"
  | .trailing arg => arg ++ ": not completely converted"
  | .outOfRange arg => arg ++ ": Numerical result out of range"
  | .invalidDirective conversion => "%" ++ String.singleton conversion ++ ": invalid directive"
  | .missingConversion => "missing format character"

/-- The status that is left behind by a mistake. -/
def status : Mistake → Nat
  | .invalidDirective _ | .missingConversion => 2
  | _ => 1

end Mistake

/-- The value of a number as an argument, and what is wrong with it. -/
def numberOf (low high : Int) (arg : String) : Int × Option Mistake :=
  match arg.toList with
  | [] => (0, none)
  | '\'' :: c :: _ | '"' :: c :: _ => (c.toNat, none)
  | cs =>
    let negative := cs.head? = some '-'
    let body := match cs with | '-' :: r | '+' :: r => r | _ => cs
    let read := fun base (ds : List Char) => ds.foldl (fun n c => base * n +
      (if isDigit c then digitValue c else (c.toLower.toNat - 'a'.toNat) + 10)) 0
    let isHex := fun c => isDigit c || ('a' ≤ c.toLower && c.toLower ≤ 'f')
    let (digits, rest, n) :=
      match body with
      | '0' :: 'x' :: ds | '0' :: 'X' :: ds => (ds, ds.dropWhile isHex, read 16 (ds.takeWhile isHex))
      | '0' :: ds => ('0' :: ds, ds.dropWhile isOctal, read 8 (ds.takeWhile isOctal))
      | ds => (ds, ds.dropWhile isDigit, read 10 (ds.takeWhile isDigit))
    let value : Int := if negative then -(n : Int) else n
    if digits.length = rest.length then (0, some (.notNumeric arg))
    else if value < low then (low, some (.outOfRange arg))
    else if value > high then (high, some (.outOfRange arg))
    else (value, if rest.isEmpty then none else some (.trailing arg))

/-- Fills a text up to a width. -/
def padded (d : Directive) (width : Nat) (body : Bytes) : Bytes :=
  let missing := List.replicate (width - body.length) 32
  if d.flags.contains '-' then body ++ missing else missing ++ body

/-- A number with its sign, filled up with zeros where that is asked for. -/
def numberText (d : Directive) (width : Nat) (precision? : Option Nat) (sign digits : List Char) :
    Bytes :=
  let least := precision?.getD
    (if d.flags.contains '0' && !d.flags.contains '-' then width - sign.length else 1)
  padded d width (ByteText.toBytes (String.ofList
    (sign ++ List.replicate (least - digits.length) '0' ++ digits)))

/-- The value of a number with a fraction as an argument, and what is wrong with it. -/
def fractionOf (arg : String) : Bool × Magnitude × Option Mistake :=
  match arg.toList with
  | [] => (false, .finite ⟨0, 1⟩, none)
  | '\'' :: c :: _ | '"' :: c :: _ => (false, .finite ⟨c.toNat, 1⟩, none)
  | cs =>
    match NumberInFront.ofChars? cs with
    | none => (false, .finite ⟨0, 1⟩, some (.notNumeric arg))
    | some ⟨negative, magnitude, rest⟩ =>
      let overflows := magnitude = .infinite && cs.any isDigit
      (negative, magnitude, if !rest.isEmpty then some (.trailing arg)
        else if overflows then some (.outOfRange arg) else none)

/-- A number with a fraction, as a directive asks for it. -/
def fractionText (d : Directive) (width : Nat) (precision? : Option Nat) (negative : Bool)
    (magnitude : Magnitude) : Bytes :=
  let places := precision?.getD 6
  let hasPoint := d.flags.contains '#'
  let isUpper := d.conversion.isUpper
  let sign := if negative then ['-'] else if d.flags.contains '+' then ['+']
    else if d.flags.contains ' ' then [' '] else []
  let word := fun w : String => padded d width
    (ByteText.toBytes (String.ofList sign ++ if isUpper then w.toUpper else w))
  match magnitude with
  | .infinite => word "inf"
  | .notANumber => word "nan"
  | .finite f =>
    let body := match d.conversion.toLower with
      | 'f' => f.fixed hasPoint places
      | 'e' => f.scientific hasPoint d.conversion places
      | _ => f.general hasPoint (if isUpper then 'E' else 'e') places
    numberText d width none sign body

/-- What a directive makes of an argument, and what is wrong with that; `none` for an
unknown directive. -/
def convert? (d : Directive) (width : Nat) (precision? : Option Nat) (arg : String) :
    Option (Bytes × Option Mistake) :=
  let unsigned := fun base upper alternate =>
    let (n, mistake?) := numberOf (-Int.pow 2 63) (Int.pow 2 64 - 1) arg
    let size := (n % Int.pow 2 64).toNat
    let mark := if d.flags.contains '#' && size ≠ 0 then alternate else []
    some (numberText d width precision? mark (digitsInBase base upper size), mistake?)
  match d.conversion with
  | 's' =>
    let bytes := ByteText.toBytes arg
    some (padded d width ((precision?.map bytes.take).getD bytes), none)
  | 'b' => some (padded d width (unescape 0 arg.toList).1, none)
  | 'c' => some (padded d width (if arg.isEmpty then [0] else (ByteText.toBytes arg).take 1), none)
  | 'd' | 'i' =>
    let (n, mistake?) := numberOf (-Int.pow 2 63) (Int.pow 2 63 - 1) arg
    let sign := if n < 0 then ['-'] else if d.flags.contains '+' then ['+']
      else if d.flags.contains ' ' then [' '] else []
    some (numberText d width precision? sign (Decimal.digits n.natAbs), mistake?)
  | 'u' => unsigned 10 false []
  | 'o' => unsigned 8 false ['0']
  | 'x' => unsigned 16 false ['0', 'x']
  | 'X' => unsigned 16 true ['0', 'X']
  | 'f' | 'F' | 'e' | 'E' | 'g' | 'G' =>
    let (negative, magnitude, mistake?) := fractionOf arg
    some (fractionText d width precision? negative magnitude, mistake?)
  | _ => none

/-- What came of filling in a format. -/
structure Result where
  bytes : Bytes
  mistakes : List Mistake
  rest : List String

def amountOf (args : List String) : Amount → Nat × List String
  | .given n => (n, args)
  | .argument => ((numberOf 0 (Int.pow 2 31) (args.headD "")).1.toNat, args.drop 1)

/-- Fills in a format once. -/
def fillOnce (args : List String) : List Part → Result
  | [] => ⟨[], [], args⟩
  | .bytes bs :: more =>
    let r := fillOnce args more
    { r with bytes := bs ++ r.bytes }
  | .unfinished :: _ => ⟨[], [.missingConversion], []⟩
  | .directive d :: more =>
    let (width, args) := amountOf args d.width
    let (precision?, args) :=
      match d.precision with
      | none => (none, args)
      | some p =>
        let (n, args) := amountOf args p
        (some n, args)
    let arg := args.headD ""
    match convert? d width precision? arg with
    | none => ⟨[], [.invalidDirective d.conversion], []⟩
    | some (bytes, mistake?) =>
      if d.conversion = 'b' && (unescape 0 arg.toList).2 then ⟨bytes, mistake?.toList, []⟩
      else
        let r := fillOnce (args.drop 1) more
        ⟨bytes ++ r.bytes, mistake?.toList ++ r.mistakes, r.rest⟩

/-- Fills in a format as often as there are arguments for it. -/
def fill (format : List Part) (rounds : Nat) (args : List String) : Bytes × List Mistake :=
  let r := fillOnce args format
  match rounds with
  | 0 => (r.bytes, r.mistakes)
  | rounds + 1 =>
    if r.rest.isEmpty || r.rest.length = args.length then (r.bytes, r.mistakes)
    else
      let (bytes, mistakes) := fill format rounds r.rest
      (r.bytes ++ bytes, r.mistakes ++ mistakes)

/-- The output of a format with its arguments, and what is wrong with them. -/
def render (format : String) (args : List String) : Bytes × List Mistake :=
  fill (parts 0 format.toList) args.length args

/-- The output of an echo. -/
def echo (args : List String) : Bytes :=
  let (silent, words) :=
    match args with
    | "-n" :: words => (true, words)
    | _ => (false, args)
  let (bytes, stop) := unescape 0 (" ".intercalate words).toList
  if silent || stop then bytes else bytes ++ [10]

end Mender.Shell.Printf
