import Mender.Shell.Utility.Streams

/-!
# Utilities for sorted lines

Lines are compared by their bytes, or by keys: parts of them that are read as texts,
numbers, sizes, versions or months.
-/

namespace Mender.Shell.Utility

open Text

/-- How a key is read and compared. -/
structure KeyOrder where
  skipsBlanks : Bool
  onlyWords : Bool
  onlyShown : Bool
  folds : Bool
  numeric : Bool
  general : Bool
  sizes : Bool
  months : Bool
  versions : Bool
  reversed : Bool
  deriving DecidableEq, Repr

namespace KeyOrder

def ofLetters (letters : List Char) : KeyOrder :=
  let has := fun c => letters.contains c
  ⟨has 'b', has 'd', has 'i', has 'f', has 'n', has 'g', has 'h', has 'M', has 'V', has 'r'⟩

end KeyOrder

/-- A place in a line: a field and a character in it, both counted from one; where the
character is zero, the end of the field is meant. -/
structure KeyEdge where
  field : Nat
  char : Nat
  skipsBlanks : Bool
  deriving DecidableEq, Repr

structure SortKey where
  start : KeyEdge
  stop? : Option KeyEdge
  order : KeyOrder
  deriving DecidableEq, Repr

/-- A number with a fraction. -/
structure Numeral where
  negative : Bool
  whole : Nat
  fraction : List Char
  /-- The rank of a letter behind it that stands for a size. -/
  rank : Nat
  deriving DecidableEq, Repr

namespace Numeral

/-- The number at the start of a text behind blanks. -/
def ofText (cs : List Char) : Numeral :=
  let cs := cs.dropWhile fun c => c = ' ' || c = '\t'
  let (negative, cs) := match cs with
    | '-' :: rest => (true, rest)
    | _ => (false, cs)
  let whole := cs.takeWhile isDigit
  let rest := cs.drop whole.length
  let fraction := if rest.head? = some '.' then (rest.drop 1).takeWhile isDigit else []
  let rest := if rest.head? = some '.' then rest.drop (fraction.length + 1) else rest
  let rank := ((rest.head?.bind fun c => ['K', 'M', 'G', 'T', 'P', 'E'].findIdx? (· = c.toUpper)).map
    (· + 1)).getD 0
  ⟨negative, Decimal.value whole, fraction, rank⟩

/-- The number in units of a power of ten with the given places. -/
def scaled (n : Numeral) (places : Nat) : Int :=
  let digits := n.fraction ++ List.replicate (places - n.fraction.length) '0'
  let size : Int := n.whole * Int.pow 10 places + Decimal.value digits
  if n.negative then -size else size

def isZero (n : Numeral) : Bool := n.scaled n.fraction.length = 0

def order (a b : Numeral) : Ordering :=
  let places := max a.fraction.length b.fraction.length
  compare (a.scaled places) (b.scaled places)

/-- By the letters of sizes first. -/
def sizeOrder (a b : Numeral) : Ordering :=
  let signed := fun (n : Numeral) => if n.isZero then (0 : Int) else
    if n.negative then -((n.rank : Int) + 1) else (n.rank : Int) + 1
  (compare (signed a) (signed b)).then (a.order b)

end Numeral

def monthNames : List String :=
  ["JAN", "FEB", "MAR", "APR", "MAY", "JUN", "JUL", "AUG", "SEP", "OCT", "NOV", "DEC"]

/-- The number of the month that a text starts with, or zero. -/
def monthOf (cs : List Char) : Nat :=
  let word := ((cs.dropWhile fun c => c = ' ' || c = '\t').take 3).map Char.toUpper
  ((monthNames.findIdx? (·.toList = word)).map (· + 1)).getD 0

def charOrder : List Char → List Char → Ordering
  | [], [] => .eq
  | [], _ => .lt
  | _, [] => .gt
  | a :: as, b :: bs => (compare a.toNat b.toNat).then (charOrder as bs)

/-- The order of a character in a version: the end of the text comes behind a tilde and
before letters, which come before all others. -/
def versionRank : Option Char → Int
  | none => 0
  | some '~' => -1
  | some c => if isDigit c then 0 else if isAsciiLetter c then c.toNat else c.toNat + 256

/-- The order of versions: runs of digits are compared as numbers. -/
def versionOrder (budget : Nat) (as bs : List Char) : Ordering :=
  match budget with
  | 0 => .eq
  | budget + 1 =>
    let isNoDigit := fun (c : Char) => !isDigit c
    if as.isEmpty && bs.isEmpty then .eq
    else if as.head?.any isNoDigit || bs.head?.any isNoDigit then
      let rank := fun (cs : List Char) => versionRank cs.head?
      (compare (rank as) (rank bs)).then (
        if as.head?.any isNoDigit && bs.head?.any isNoDigit then
          versionOrder budget (as.drop 1) (bs.drop 1)
        else if as.head?.any isNoDigit then versionOrder budget (as.drop 1) bs
        else versionOrder budget as (bs.drop 1))
    else
      (compare (Decimal.value (as.takeWhile isDigit)) (Decimal.value (bs.takeWhile isDigit))).then
        (versionOrder budget (as.dropWhile isDigit) (bs.dropWhile isDigit))

namespace KeyOrder

def isBlank (c : Char) : Bool := c = ' ' || c = '\t'

/-- What of a key is compared as a text. -/
def cleaned (o : KeyOrder) (cs : List Char) : List Char :=
  let cs := if o.onlyWords then
      cs.filter fun c => isBlank c || ByteClass.isIn ByteClass.alnum c
    else if o.onlyShown then cs.filter fun c => ' ' ≤ c && c ≤ '~'
    else cs
  if o.folds then cs.map Char.toUpper else cs

/-- The order of two keys, without its direction. -/
def order (o : KeyOrder) (a b : List Char) : Ordering :=
  if o.numeric || o.general then (Numeral.ofText a).order (Numeral.ofText b)
  else if o.sizes then (Numeral.ofText a).sizeOrder (Numeral.ofText b)
  else if o.months then compare (monthOf a) (monthOf b)
  else if o.versions then
    (versionOrder (a.length + b.length + 2) a b).then (charOrder a b)
  else charOrder (o.cleaned a) (o.cleaned b)

end KeyOrder

/-- Where the fields of a line start; without a mark, the blanks in front of a field
belong to it. -/
def skipFields (mark? : Option Char) (n : Nat) (cs : List Char) : List Char :=
  match n with
  | 0 => cs
  | n + 1 =>
    match mark? with
    | some mark => skipFields mark? n ((cs.dropWhile (· ≠ mark)).drop 1)
    | none => skipFields mark? n ((cs.dropWhile KeyOrder.isBlank).dropWhile (!KeyOrder.isBlank ·))

/-- The first fields of a line, without a mark behind them. -/
def fieldsLength (mark? : Option Char) (n : Nat) (cs : List Char) : Nat :=
  match mark? with
  | none => cs.length - (skipFields none n cs).length
  | some mark =>
    match n with
    | 0 => 0
    | n + 1 =>
      let rest := skipFields mark? n cs
      (cs.length - rest.length) + (rest.takeWhile (· ≠ mark)).length

namespace SortKey

/-- The part of a line that a key means. -/
def extract (k : SortKey) (mark? : Option Char) (cs : List Char) : List Char :=
  let offset := fun (e : KeyEdge) (extra : Nat) =>
    let rest := skipFields mark? (e.field - 1) cs
    let rest := if e.skipsBlanks then rest.dropWhile KeyOrder.isBlank else rest
    min cs.length (cs.length - rest.length + extra)
  let first := offset k.start (k.start.char - 1)
  let last := match k.stop? with
    | none => cs.length
    | some e => if e.char = 0 then fieldsLength mark? e.field cs else offset e e.char
  (cs.take last).drop first

end SortKey

/-- Reads a place in a key, with the letters behind it. -/
def keyEdge? (standard : Nat) (cs : List Char) : Option (Nat × Nat × List Char × List Char) :=
  let field := cs.takeWhile isDigit
  let rest := cs.drop field.length
  let char := if rest.head? = some '.' then (rest.drop 1).takeWhile isDigit else []
  let rest := if rest.head? = some '.' then rest.drop (char.length + 1) else rest
  let letters := rest.takeWhile isAsciiLetter
  if field.isEmpty then none
  else some (Decimal.value field, if char.isEmpty then standard else Decimal.value char, letters,
    rest.drop letters.length)

/-- Reads a key; one without letters is compared as all lines are. -/
def sortKey? (common : List Char) (text : String) : Option SortKey := do
  let (field, char, letters, rest) ← keyEdge? 1 text.toList
  let (stop?, more) ←
    match rest with
    | [] => some (none, [])
    | ',' :: cs => do
      let (field, char, letters, rest) ← keyEdge? 0 cs
      if rest.isEmpty then some (some (field, char, letters), letters) else none
    | _ => none
  if field = 0 then none
  let all := letters ++ more
  let all := if all.isEmpty then common else all
  return {
    start := ⟨field, char, letters.contains 'b' || (letters ++ more).isEmpty && common.contains 'b'⟩
    stop? := stop?.map fun (field, char, letters) => ⟨field, char, letters.contains 'b'⟩
    order := KeyOrder.ofLetters all }

/-- The order of lines. -/
structure LineOrder where
  keys : List SortKey
  mark? : Option Char
  whole : KeyOrder
  isStable : Bool

namespace LineOrder

def direct (reversed : Bool) (o : Ordering) : Ordering := if reversed then o.swap else o

/-- The order by the keys alone. -/
def byKeys (l : LineOrder) (a b : List Char) : Ordering :=
  if l.keys.isEmpty then
    let blanks := fun cs : List Char =>
      if l.whole.skipsBlanks then cs.dropWhile KeyOrder.isBlank else cs
    direct l.whole.reversed (l.whole.order (blanks a) (blanks b))
  else
    l.keys.foldl (fun o k =>
      o.then (direct k.order.reversed (k.order.order (k.extract l.mark? a) (k.extract l.mark? b)))) .eq

/-- The order by the keys; lines with equal keys are compared by all their bytes. -/
def order (l : LineOrder) (a b : List Char) : Ordering :=
  if l.isStable then l.byKeys a b
  else (l.byKeys a b).then (direct l.whole.reversed (charOrder a b))

end LineOrder

/-- Leaves one of the lines that are alike in a row. -/
def withoutRepeats (same : List Char → List Char → Bool) : List (List Char) → List (List Char)
  | [] => []
  | a :: rest =>
    match withoutRepeats same rest with
    | b :: more => if same a b then a :: more else a :: b :: more
    | [] => [a]

def orderLetters : List Char := ['b', 'd', 'f', 'g', 'i', 'M', 'h', 'n', 'r', 'V']

def sort : Utility := withOptions
    ([flag 'b' "ignore-leading-blanks", flag 'd' "dictionary-order", flag 'f' "ignore-case",
      flag 'g' "general-numeric-sort", flag 'i' "ignore-nonprinting", flag 'M' "month-sort",
      flag 'h' "human-numeric-sort", flag 'n' "numeric-sort", flag 'r' "reverse",
      flag 'V' "version-sort", ⟨some 'c', "check", .optional⟩, flag 'C' "", valued 'k' "key",
      flag 'm' "merge", valued 'o' "output", flag 's' "stable", valued 'S' "buffer-size",
      valued 't' "field-separator", valued 'T' "temporary-directory", flag 'u' "unique",
      flag 'z' "zero-terminated", longValued "parallel"]) true 2 fun name o => do
  let letters := orderLetters.filter fun c => o.has (String.singleton c)
  let texts := o.values "k"
  let keys := texts.filterMap (sortKey? letters)
  let mark := (o.value? "t").map String.toList
  if keys.length < texts.length then
    let bad := (texts.find? fun t => (sortKey? letters t).isNone).getD ""
    if bad.startsWith "0" then
      complain name ("-: invalid field specification " ++ Quoting.word bad)
    else complain name ("invalid number at field start: invalid count at start of " ++ Quoting.word bad)
    return 2
  if mark = some [] then
    complain name "empty tab"
    return 2
  if mark.any fun m => m.length > 1 && m ≠ ['\\', '0'] then
    complain name ("multi-character tab " ++ Quoting.word ((o.value? "t").getD ""))
    return 2
  let order : LineOrder :=
    { keys, mark? := mark.map fun m => if m = ['\\', '0'] then '\x00' else m.headD ' '
      whole := KeyOrder.ofLetters letters, isStable := o.has "s" || o.has "u" }
  let ending : UInt8 := if o.has "z" then 0 else 10
  let mut lines : List (List Char) := []
  for path in if o.operands.isEmpty then ["-"] else o.operands do
    match ← if path = "-" then Act.readDescriptor 0 else Act.readPath path with
    | .ok reading => lines := lines ++ (piecesOf ending (← finite reading.stream)).map charsOf
    | .error .isDirectory =>
      complain name ("read failed: " ++ Quoting.ifNeeded path ++ ": Is a directory")
      return 2
    | .error e =>
      complain name ("cannot read: " ++ Quoting.ifNeeded path ++ ": " ++ e.words)
      return 2
  if o.has "c" || o.has "C" then
    let isWrong := fun (a b : List Char) =>
      if o.has "u" then order.byKeys a b ≠ .lt else order.order a b = .gt
    match ((lines.zip (lines.drop 1)).zipIdx.find? fun (pair, _) => isWrong pair.1 pair.2) with
    | none => return 0
    | some ((_, line), i) =>
      if o.has "c" && o.value? "c" ≠ some "quiet" && o.value? "c" ≠ some "silent" then
        let path := o.operands.headD "-"
        complain name (path ++ ":" ++ Decimal.natText (i + 2) ++ ": disorder: " ++ String.ofList line)
      return 1
  let ordered := lines.mergeSort fun a b => order.order a b ≠ .gt
  let kept := if o.has "u" then withoutRepeats (fun a b => order.byKeys a b = .eq) ordered else ordered
  let bytes := (kept.map fun cs => ByteText.bytesOf cs ++ [ending]).flatten
  match o.value? "o" with
  | none =>
    Act.write 1 bytes
    return 0
  | some path =>
    match ← Act.replaceFile path bytes with
    | none => return 0
    | some e =>
      complain name ("open failed: " ++ Quoting.ifNeeded path ++ ": " ++ e.words)
      return 2

/-- Lines that are alike in a row. -/
def runsOf (same : List Char → List Char → Bool) : List (List Char) → List (List (List Char))
  | [] => []
  | line :: rest =>
    match runsOf same rest with
    | (next :: run) :: more =>
      if same line next then (line :: next :: run) :: more else [line] :: (next :: run) :: more
    | _ => [[line]]

def uniq : Utility := withOptions
    [flag 'c' "count", flag 'd' "repeated", ⟨some 'D', "all-repeated", .optional⟩,
     flag 'i' "ignore-case", valued 'f' "skip-fields", valued 's' "skip-chars", flag 'u' "unique",
     valued 'w' "check-chars", flag 'z' "zero-terminated"] true 1 fun name o => do
  let count := fun key => Decimal.value ((o.value? key).getD "0").toList
  let part := fun (cs : List Char) =>
    let rest := (skipFields none (count "f") cs).drop (count "s")
    let rest := if o.has "w" then rest.take (count "w") else rest
    if o.has "i" then rest.map Char.toLower else rest
  let ending : UInt8 := if o.has "z" then 0 else 10
  match o.operands with
  | _ :: _ :: extra :: _ => misused 1 name ("extra operand " ++ Quoting.word extra)
  | operands =>
    let path := operands.headD "-"
    match ← if path = "-" then Act.readDescriptor 0 else Act.readPath path with
    | .error e =>
      complain name (if e = .isDirectory then "error reading " ++ Quoting.always path ++ ": " ++ e.words
        else Quoting.ifNeeded path ++ ": " ++ e.words)
      return 1
    | .ok reading =>
      let runs := runsOf (fun a b => part a = part b)
        ((piecesOf ending (← finite reading.stream)).map charsOf)
      let shown := runs.filter fun run =>
        if o.has "d" && o.has "u" then false
        else if o.has "u" then run.length = 1
        else if o.has "d" || o.has "D" then run.length > 1
        else true
      let ended := fun cs => ByteText.bytesOf cs ++ [ending]
      let bytes := (shown.map fun run =>
        if o.has "D" then run.flatMap ended
        else (if o.has "c" then ByteText.toBytes (padLeft 7 (Decimal.natText run.length) ++ " ")
          else []) ++ ended (run.headD [])).flatten
      match operands with
      | [_, target] =>
        if let some e ← Act.replaceFile target bytes then
          complain name (Quoting.ifNeeded target ++ ": " ++ e.words)
          return 1
      | _ => Act.write 1 bytes
      return 0

/-- The lines of two sorted files side by side: those of the first, of the second, and
of both. -/
def sideBySide (budget : Nat) (as bs : List (List Char)) : List (Nat × List Char) :=
  match budget with
  | 0 => []
  | budget + 1 =>
    match as, bs with
    | [], [] => []
    | a :: as, [] => (1, a) :: sideBySide budget as []
    | [], b :: bs => (2, b) :: sideBySide budget [] bs
    | a :: as, b :: bs =>
      match charOrder a b with
      | .lt => (1, a) :: sideBySide budget as (b :: bs)
      | .gt => (2, b) :: sideBySide budget (a :: as) bs
      | .eq => (3, a) :: sideBySide budget as bs

/-- The two operands of a program, or what is wrong with them. -/
def twoOperands (name : String) (o : Options) (work : String → String → Act Nat) : Act Nat :=
  match o.operands with
  | [] => misused 1 name "missing operand"
  | [a] => misused 1 name ("missing operand after " ++ Quoting.word a)
  | [a, b] => work a b
  | _ :: _ :: extra :: _ => misused 1 name ("extra operand " ++ Quoting.word extra)

def comm : Utility := withOptions
    (flags "123" ++ [longFlag "check-order", longFlag "nocheck-order", longValued "output-delimiter",
      longFlag "total"]) true 1 fun name o =>
  twoOperands name o fun first second => do
    let (found, worked) ← readAll name [first, second]
    match found with
    | [(_, a), (_, b)] =>
      let as := (piecesOf 10 (← finite a.stream)).map charsOf
      let bs := (piecesOf 10 (← finite b.stream)).map charsOf
      let mark := (o.value? "output-delimiter").getD "\t"
      for (column, line) in sideBySide (as.length + bs.length + 1) as bs do
        if !o.has (Decimal.natText column) then
          let before := ["1", "2"].filter fun k => !o.has k && Decimal.value k.toList < column
          Act.print (String.join (before.map fun _ => mark) ++ String.ofList line ++ "\n")
      return 0
    | _ => return statusOf worked

end Mender.Shell.Utility
