import Mender.Shell.Utility.Sorting

/-!
# Utilities for characters and columns

Characters of a stream are exchanged, left out or squeezed; lines are cut into fields
and put together again.
-/

namespace Mender.Shell.Utility

open Text

/-- An item of a set of characters. -/
inductive SetItem where
  | range (low high : Char)
  | members (name : String)
  /-- The characters that are equivalent to one. -/
  | alike (c : Char)
  /-- A character so many times; none times where it fills up what is missing. -/
  | repeated (c : Char) (count : Nat)
  deriving DecidableEq, Repr

/-- What is wrong with a set of characters. -/
inductive SetMistake where
  | reversed (shown : String)
  | unknownClass (name : String)
  | noClass
  | noAlike
  | severalAlike (name : String)
  | badCount (count : String)
  deriving DecidableEq, Repr

def SetMistake.message : SetMistake → String
  | .reversed shown => "range-endpoints of '" ++ shown ++ "' are in reverse collating sequence order"
  | .unknownClass name => "invalid character class " ++ Quoting.word name
  | .noClass => "missing character class name '[::]'"
  | .noAlike => "missing equivalence class character '[==]'"
  | .severalAlike name => name ++ ": equivalence class operand must be a single character"
  | .badCount count => "invalid repeat count " ++ Quoting.word count ++ " in [c*n] construct"

/-- The characters of a set, each with the word whether it was escaped, and warnings. -/
def unescapedSet (budget : Nat) (cs : List Char) : List (Char × Bool) × List String :=
  match budget, cs with
  | 0, _ | _, [] => ([], [])
  | budget + 1, '\\' :: rest =>
    let found := fun (c : Char) (n : Nat) =>
      let (more, warnings) := unescapedSet budget (rest.drop n)
      ((c, true) :: more, warnings)
    let octal := (rest.take 3).takeWhile Printf.isOctal
    match rest with
    | [] => ([('\\', false)],
        ["warning: an unescaped backslash at end of string is not portable"])
    | c :: _ =>
      if octal.isEmpty then
        match c with
        | 'a' => found '\x07' 1
        | 'b' => found '\x08' 1
        | 'f' => found '\x0c' 1
        | 'n' => found '\n' 1
        | 'r' => found '\r' 1
        | 't' => found '\t' 1
        | 'v' => found '\x0b' 1
        | c => found c 1
      else
        let value := fun (ds : List Char) => ds.foldl (fun n d => 8 * n + digitValue d) 0
        if value octal < 256 then found (Char.ofNat (value octal)) octal.length
        else
          let (more, warnings) := found (Char.ofNat (value (octal.take 2))) 2
          let shown := String.ofList octal
          let kept := String.ofList (octal.take 2)
          (more, ("warning: the ambiguous octal escape \\" ++ shown ++
            " is being\n\tinterpreted as the 2-byte sequence \\0" ++ kept ++ ", " ++
            String.ofList (octal.drop 2)) :: warnings)
  | budget + 1, c :: rest =>
    let (more, warnings) := unescapedSet budget rest
    ((c, false) :: more, warnings)

/-- The text up to a mark and a closing bracket that are not escaped. -/
def upToMark? (mark : Char) (before : List Char) : List (Char × Bool) → Option (List Char)
  | (c, false) :: (']', false) :: rest =>
    if c = mark then some before.reverse else upToMark? mark (c :: before) ((']', false) :: rest)
  | (c, _) :: rest => upToMark? mark (c :: before) rest
  | [] => none

/-- The count of a repetition up to its closing bracket. -/
def repeatCount? (cs : List (Char × Bool)) : Option (Except SetMistake Nat × Nat) :=
  let inside := (cs.takeWhile fun c => c.1 ≠ ']').map (·.1)
  if inside.length = cs.length then none
  else
    let base := if inside.head? = some '0' then 8 else 10
    let isRight := inside.all fun c => if base = 8 then Printf.isOctal c else isDigit c
    let value := inside.foldl (fun n c => base * n + digitValue c) 0
    some (if isRight then .ok value else .error (.badCount (String.ofList inside)), inside.length + 1)

def shownInRange (c : Char) : List Char :=
  if c = '\\' then ['\\', '\\'] else if Quoting.isShown c then [c] else Quoting.escape c

/-- The items of a set. -/
def setItems (budget : Nat) (cs : List (Char × Bool)) : Except SetMistake (List SetItem) := do
  match budget, cs with
  | 0, _ | _, [] => return []
  | budget + 1, cs =>
    let special ←
      match cs with
      | ('[', false) :: (':', false) :: rest =>
        match upToMark? ':' [] rest with
        | some [] => throw .noClass
        | some name =>
          if (ByteClass.named? name).isSome then
            pure (some (SetItem.members (String.ofList name), name.length + 4))
          else throw (.unknownClass (String.ofList name))
        | none => pure none
      | ('[', false) :: ('=', false) :: rest =>
        match upToMark? '=' [] rest with
        | some [] => throw .noAlike
        | some [c] => pure (some (SetItem.alike c, 5))
        | some name =>
          if rest[1]? = some ('*', false) then pure none
          else throw (.severalAlike (String.ofList name))
        | none => pure none
      | _ => pure none
    let special ←
      match special, cs with
      | none, ('[', false) :: (c, _) :: ('*', false) :: rest =>
        match repeatCount? rest with
        | some (count, n) => do pure (some (SetItem.repeated c (← count), n + 3))
        | none => pure none
      | _, _ => pure special
    match special, cs with
    | some (item, n), _ => return item :: (← setItems budget (cs.drop n))
    | none, (low, _) :: ('-', false) :: (high, _) :: rest =>
      if high < low then
        throw (.reversed (String.ofList (shownInRange low ++ '-' :: shownInRange high)))
      return .range low high :: (← setItems budget rest)
    | none, (c, _) :: rest => return .range c c :: (← setItems budget rest)
    | none, [] => return []

def allBytes : List Char := (List.range 256).map Char.ofNat

namespace SetItem

def expand (fill : Nat) : SetItem → List Char
  | .range low high => allBytes.filter fun c => low ≤ c && c ≤ high
  | .members name =>
    allBytes.filter (ByteClass.isIn ((ByteClass.named? name.toList).getD []))
  | .alike c => [c]
  | .repeated c 0 => List.replicate fill c
  | .repeated c count => List.replicate count c

def isFill : SetItem → Bool
  | .repeated _ 0 => true
  | _ => false

def isMembers : SetItem → Bool
  | .members _ => true
  | _ => false

def isAlike : SetItem → Bool
  | .alike _ => true
  | _ => false

/-- Whether an item is a class of letters of one case. -/
def isCase (item : SetItem) : Bool := item = .members "upper" || item = .members "lower"

end SetItem

/-- Where each class of one case starts in a set, counted in characters. -/
def casePlaces (at_ : Nat) : List SetItem → List Nat
  | [] => []
  | item :: rest =>
    (if item.isCase then [at_] else []) ++ casePlaces (at_ + (item.expand 0).length) rest

/-- The characters of two sets side by side. -/
structure Exchange where
  old : List Char
  new : List Char

/-- How characters are exchanged, or what forbids it. -/
def exchange? (complement truncate : Bool) (first second : List SetItem) :
    Except String Exchange := do
  let listed := first.flatMap (·.expand 0)
  let old := if complement then allBytes.filter (!listed.contains ·) else listed
  let bare := (second.flatMap (·.expand 0)).length
  let new := second.flatMap (·.expand (old.length - bare))
  if second.any (·.isAlike) then
    throw "[=c=] expressions may not appear in string2 when translating"
  if second.any fun i => i.isMembers && !i.isCase then
    throw ("when translating, the only character classes that may appear in\n" ++
      "string2 are 'upper' and 'lower'")
  if second.any (·.isCase) then
    let places := casePlaces 0 first
    if !complement && (casePlaces 0 second).any (fun p => p < old.length && !places.contains p) then
      throw "misaligned [:upper:] and/or [:lower:] construct"
  if new.length < old.length && !truncate then
    if new.isEmpty then throw "when not truncating set1, string2 must be non-empty"
    if second.getLast?.any (·.isMembers) then
      throw ("when translating with string1 longer than string2,\n" ++
        "the latter string must not end with a character class")
  let new :=
    if truncate then new else new ++ List.replicate (old.length - new.length) (new.getLastD ' ')
  if complement && first.any (·.isMembers) then
    let used := new.take old.length
    if used.any fun c => some c ≠ used.head? then
      throw ("when translating with complemented character classes,\n" ++
        "string2 must map all characters in the domain to one")
  return ⟨old, new⟩

/-- Leaves out bytes that repeat the one before, if they are among some. -/
def squeezed (isIn : UInt8 → Bool) (before? : Option UInt8) : Bytes → Bytes
  | [] => []
  | b :: rest =>
    if before? = some b && isIn b then squeezed isIn before? rest
    else b :: squeezed isIn (some b) rest

def squeezedStream (isIn : UInt8 → Bool) (s : Stream) : Stream :=
  let bytes := squeezed isIn none (s.bytes ++ s.cycle)
  let cycle := squeezed isIn bytes.getLast? s.cycle
  ⟨bytes, cycle, s.stalls || (!s.cycle.isEmpty && cycle.isEmpty)⟩

/-- A table of the bytes that are among characters. -/
def byteTable (cs : List Char) : Array Bool :=
  cs.foldl (fun t c => t.setIfInBounds c.toNat true) (Array.replicate 256 false)

def isInTable (table : Array Bool) (b : UInt8) : Bool := table[b.toNat]? = some true

def tr : Utility := withOptions
    [flag 'c' "complement", flag 'C' "", flag 'd' "delete", flag 's' "squeeze-repeats",
     flag 't' "truncate-set1"] false 1 fun name o => do
  let complement := o.has "c" || o.has "C"
  let deletes := o.has "d"
  let squeezes := o.has "s"
  let least := if deletes = squeezes then 2 else 1
  let most := if deletes && !squeezes then 1 else 2
  if o.operands.isEmpty then return ← misused 1 name "missing operand"
  if o.operands.length < least then
    return ← misused 1 name ("missing operand after " ++ Quoting.word (o.operands.headD "") ++ "\n" ++
      if deletes then "Two strings must be given when both deleting and squeezing repeats."
      else "Two strings must be given when translating.")
  if most < o.operands.length then
    return ← misused 1 name ("extra operand " ++ Quoting.word (o.operands[most]?.getD "") ++
      if o.operands.length = 2 then
        "\nOnly one string may be given when deleting without squeezing repeats."
      else "")
  let mut sets : List (List SetItem) := []
  for word in o.operands do
    let (cs, warnings) := unescapedSet (word.length + 1) word.toList
    for w in warnings do complain name w
    match setItems (cs.length + 1) cs with
    | .ok items => sets := sets ++ [items]
    | .error mistake =>
      complain name mistake.message
      return 1
  let first := sets.headD []
  let second? := (sets.drop 1).head?
  let refuse := fun text : String => do
    complain name text
    return 1
  if first.any (·.isFill) then
    return ← refuse "the [c*] repeat construct may not appear in string1"
  if ((second?.getD []).filter (·.isFill)).length > 1 then
    return ← refuse "only one [c*] repeat construct may appear in string2"
  let translates := second?.isSome && !deletes
  if !translates && (second?.getD []).any (·.isFill) then
    return ← refuse "the [c*] construct may appear in string2 only when translating"
  let listed := first.flatMap (·.expand 0)
  let firstTable := byteTable listed
  let isFirst := fun b : UInt8 => isInTable firstTable b != complement
  let secondTable := byteTable ((second?.getD []).flatMap (·.expand 0))
  let work : Except String (Stream → Stream) :=
    if translates then
      (exchange? complement (o.has "t") first (second?.getD [])).map fun e =>
        let table := (e.old.zip e.new).foldl
          (fun t (c, d) => t.setIfInBounds c.toNat (UInt8.ofNat d.toNat))
          ((List.range 256).toArray.map UInt8.ofNat)
        let newTable := byteTable e.new
        fun s =>
          let s := s.map fun b => table[b.toNat]?.getD b
          if squeezes then squeezedStream (isInTable newTable) s else s
    else if deletes then
      .ok fun s =>
        let s := s.filter (!isFirst ·)
        if squeezes then squeezedStream (isInTable secondTable) s else s
    else .ok (squeezedStream isFirst)
  match work with
  | .error text => refuse text
  | .ok work =>
    match ← Act.readDescriptor 0 with
    | .ok reading =>
      Act.writeStream (work reading.stream)
      return 0
    | .error e =>
      complain name ("read error: " ++ e.words)
      return 1

/-- The ranges of numbers of a list, such as `1,3-5`; an open range has no end. -/
def numberRanges (ofFields : Bool) (text : String) : Except String (List (Nat × Option Nat)) := do
  let what := if ofFields then "field" else "byte/character position"
  let fromOne := (if ofFields then "fields" else "byte/character positions") ++ " are numbered from 1"
  let number := fun (ds : List Char) (whole : List Char) =>
    if ds.all isDigit then
      if Decimal.value ds > UInt64.size - 2 then
        .error ((if ofFields then "field number " else "byte/character offset ") ++
          Quoting.word (String.ofList ds) ++ " is too large")
      else .ok (Decimal.value ds)
    else .error ("invalid " ++ what ++ (if ofFields then " value " else " ") ++
      Quoting.word (String.ofList (whole.dropWhile isDigit)))
  let parts := (splitOn ',' (text.toList.map fun c => if c = ' ' || c = '\t' then ',' else c))
  parts.mapM fun part => do
    match splitOn '-' part with
    | [[], []] => throw "invalid range with no endpoint: -"
    | [ds] =>
      let n ← number ds part
      if n = 0 then throw fromOne
      return (n, some n)
    | [low, high] =>
      let a ← number low part
      let b ← number high high
      if !low.isEmpty && a = 0 then throw fromOne
      let a := if low.isEmpty then 1 else a
      if high.isEmpty then return (a, none)
      if b < a then throw "invalid decreasing range"
      return (a, some b)
    | _ => throw (if ofFields then "invalid field range" else "invalid byte or character range")

def isInRanges (ranges : List (Nat × Option Nat)) (n : Nat) : Bool :=
  ranges.any fun (low, high?) => low ≤ n && high?.all (n ≤ ·)

/-- Whether a number starts a new range behind one that touches it. -/
def startsRange (ranges : List (Nat × Option Nat)) (n : Nat) : Bool :=
  ranges.any (fun r => r.1 = n) && !ranges.any fun (low, high?) => low < n && high?.all (n ≤ ·)

/-- The fields of a line between marks; there is one field at least. -/
def fieldsOf (mark : UInt8) (line : Bytes) : List Bytes :=
  let (fields, last) := line.foldl (fun ((fields, field) : List Bytes × Bytes) b =>
    if b = mark then (field.reverse :: fields, []) else (fields, b :: field)) ([], [])
  (last.reverse :: fields).reverse

def cut : Utility := withOptions
    [valued 'b' "bytes", valued 'c' "characters", valued 'd' "delimiter", valued 'f' "fields",
     flag 'n' "", flag 's' "only-delimited", flag 'z' "zero-terminated", longFlag "complement",
     longValued "output-delimiter"] true 1 fun name o => do
  let lists := o.given.filter fun g => g.1 = "b" || g.1 = "c" || g.1 = "f"
  let refuse := misused 1 name
  match lists with
  | [] =>
    if (o.value? "d").any (fun d => 1 < d.length) then refuse "the delimiter must be a single character"
    else refuse "you must specify a list of bytes, characters, or fields"
  | _ :: _ :: _ => refuse "only one list may be specified"
  | [(key, text)] =>
    let ofFields : Bool := key = "f"
    if (o.value? "d").any (fun d => 1 < d.length) then
      return ← refuse "the delimiter must be a single character"
    if !ofFields && o.has "d" then
      return ← refuse "an input delimiter may be specified only when operating on fields"
    if !ofFields && o.has "s" then
      return ← refuse "suppressing non-delimited lines makes sense\n\tonly when operating on fields"
    match numberRanges ofFields text with
    | .error mistake => refuse mistake
    | .ok ranges =>
      let isChosen := fun n => isInRanges ranges n != o.has "complement"
      let mark : UInt8 := ((o.value? "d").map fun d => UInt8.ofNat (d.toList.headD '\x00').toNat).getD 9
      let ending : UInt8 := if o.has "z" then 0 else 10
      let between? := (o.value? "output-delimiter").map ByteText.toBytes
      let inside := fun line : Bytes =>
        if !ofFields then
          let chosen := line.zipIdx.filter fun (_, i) => isChosen (i + 1)
          match between? with
          | none => some (chosen.map (·.1))
          | some between =>
            some ((chosen.zipIdx.map fun ((b, i), place) =>
              let parted := 0 < place && (!isChosen i || (!o.has "complement" && startsRange ranges (i + 1)))
              (if parted then between else []) ++ [b]).flatten)
        else if !line.contains mark then (if o.has "s" then none else some line)
        else
          let fields := fieldsOf mark line
          let chosen := (fields.zipIdx.filter fun (_, i) => isChosen (i + 1)).map (·.1)
          some ((between?.getD [mark]).intercalate chosen)
      let (found, worked) ← readAll name o.operands
      for (_, reading) in found do
        let shown := (piecesOf ending (← finite reading.stream)).filterMap inside
        Act.write 1 (shown.flatMap (· ++ [ending]))
      return statusOf worked

/-- The marks between columns; an escaped zero stands for none. -/
def columnMarks : List Char → List Bytes
  | '\\' :: c :: rest =>
    (match c with
      | 'n' => [10]
      | 't' => [9]
      | '0' => []
      | 'b' => [8]
      | 'f' => [12]
      | 'r' => [13]
      | 'v' => [11]
      | c => [UInt8.ofNat c.toNat]) :: columnMarks rest
  | c :: rest => [UInt8.ofNat c.toNat] :: columnMarks rest
  | [] => []

/-- Texts with marks between them, which are used again from the first on. -/
def joinedBy (marks : List Bytes) (texts : List Bytes) : Bytes :=
  (texts.zipIdx.map fun (t, i) =>
    (if i = 0 then [] else (marks[(i - 1) % marks.length]?).getD []) ++ t).flatten

def paste : Utility := withOptions
    [valued 'd' "delimiters", flag 's' "serial", flag 'z' "zero-terminated"] true 1 fun name o => do
  let marks := match o.value? "d" with
    | some "" => [[]]
    | some text => columnMarks text.toList
    | none => [[9]]
  let ending : UInt8 := if o.has "z" then 0 else 10
  let paths := if o.operands.isEmpty then ["-"] else o.operands
  let mut columns : List (List Bytes) := []
  let mut status := 0
  let shared := (paths.filter (· = "-")).length
  let mut input : List Bytes := []
  let mut seen := 0
  if paths.contains "-" then
    match ← Act.readDescriptor 0 with
    | .ok reading => input := piecesOf ending (← finite reading.stream)
    | .error e =>
      complain name ("-: " ++ e.words)
      return 1
  for path in paths do
    if path = "-" then
      let place := seen
      seen := seen + 1
      let mine := if o.has "s" then (if place = 0 then input else [])
        else (input.zipIdx.filter fun (_, i) => i % shared = place).map (·.1)
      columns := columns ++ [mine]
    else
      match ← Act.readPath path with
      | .ok reading => columns := columns ++ [piecesOf ending (← finite reading.stream)]
      | .error e =>
        complain name (Quoting.ifNeeded path ++ ": " ++ e.words)
        if !o.has "s" then return 1
        status := 1
  if o.has "s" then
    for column in columns do Act.write 1 (joinedBy marks column ++ [ending])
  else
    let rows := columns.foldl (fun n c => max n c.length) 0
    for i in List.range rows do
      Act.write 1 (joinedBy marks (columns.map fun column => column.getD i []) ++ [ending])
  return status

end Mender.Shell.Utility
