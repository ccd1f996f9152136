import Mender.Shell.Utility.Basic

/-!
# Utilities for streams

Programs that pass their input on, in part, in another order, or counted.
-/

namespace Mender.Shell.Utility

open Text

/-- A byte as it is shown where bytes that cannot be shown are to be seen. -/
def shownByte (tabs ends : Bool) (b : UInt8) : Bytes :=
  let low := fun (b : UInt8) =>
    if b = 127 then [94, 63] else if b < 32 then [94, b + 64] else [b]
  if b = 9 then (if tabs then [94, 73] else [9])
  else if b = 10 then (if ends then [36, 10] else [10])
  else if b < 128 then low b
  else [77, 45] ++ low (b - 128)

/-- How a stream is shown. -/
structure Display where
  numbered : Bool
  onlyFilled : Bool
  squeezed : Bool
  ends : Bool
  tabs : Bool
  escaped : Bool

namespace Display

/-- A line as it is shown. -/
def line (d : Display) (line : Bytes) : Bytes :=
  if d.escaped then line.flatMap (shownByte d.tabs d.ends)
  else line.flatMap fun b =>
    if b = 9 && d.tabs then [94, 73] else if b = 10 && d.ends then [36, 10] else [b]

/-- Shows lines; `n` is the number of the last one, `blanks` how many empty lines came
before, and `begun` whether the first goes on with a line that was not ended. -/
def lines (d : Display) (n blanks : Nat) (begun : Bool) : List Bytes → Bytes × Nat × Nat × Bool
  | [] => ([], n, blanks, begun)
  | l :: rest =>
    let isBlank := l = [10] && !begun
    if d.squeezed && isBlank && 0 < blanks then lines d n (blanks + 1) false rest
    else
      let counts := !begun && (d.onlyFilled && !isBlank || d.numbered && !d.onlyFilled)
      let n := if counts then n + 1 else n
      let label := if counts then ByteText.toBytes (padLeft 6 (Decimal.natText n) ++ "\t") else []
      let (shown, state) := lines d n (if isBlank then blanks + 1 else 0) (l.getLast? ≠ some 10) rest
      (label ++ d.line l ++ shown, state)

end Display

/-- The file that is open behind a descriptor. -/
def openLocation? (descriptor : Nat) : Act (Option Location) := do
  let s ← get
  match ← Act.channel? descriptor with
  | some (.source n) => return (s.sources[n]?.bind (·.file?)).map (·.1)
  | some (.file n) => return s.files[n]?.map (·.location)
  | _ => return none

/-- Whether an operand is the file into which the output goes. -/
def isOutput (path : String) : Act Bool := do
  let location? ← if path = "-" then openLocation? 0 else do
    match (← Act.disk).find path with
    | .ok (l, .file _ _) => pure (some l)
    | _ => pure none
  match ← Act.channel? 1 with
  | some (.file _) => return location?.isSome && location? = (← openLocation? 1)
  | _ => return false

def cat : Utility := withOptions
    [flag 'A' "show-all", flag 'b' "number-nonblank", flag 'e' "", flag 'E' "show-ends",
     flag 'n' "number", flag 's' "squeeze-blank", flag 't' "", flag 'T' "show-tabs", flag 'u' "",
     flag 'v' "show-nonprinting"] true 1 fun name o => do
  let has := fun keys : List String => keys.any o.has
  let display : Display :=
    { numbered := o.has "n" || o.has "b", onlyFilled := o.has "b", squeezed := o.has "s"
      ends := has ["A", "e", "E"], tabs := has ["A", "t", "T"], escaped := has ["A", "e", "t", "v"] }
  let isPlain := !has ["A", "b", "e", "E", "n", "s", "t", "T", "v"]
  let mut state := (0, 0, false)
  let mut status := 0
  for path in if o.operands.isEmpty then ["-"] else o.operands do
    let feedsItself ← isOutput path
    match ← if path = "-" then Act.readDescriptor 0 else Act.readPath path with
    | .error e =>
      complain name (Quoting.ifNeeded path ++ ": " ++ e.words)
      status := 1
    | .ok reading =>
      if feedsItself && !reading.stream.bytes.isEmpty then
        complain name (Quoting.ifNeeded path ++ ": input file is output file")
        status := 1
      else if isPlain then
        if reading.stream.cycle.isEmpty then Act.relay reading (Act.write 1)
        else Act.writeStream reading.stream
      else
        let (shown, after) :=
          display.lines state.1 state.2.1 state.2.2 (linesOf (← finite reading.stream))
        Act.write 1 shown
        state := after
  return status

/-- How much of a stream is meant. -/
structure Portion where
  ofLines : Bool
  count : Nat
  /-- A sign in front of the count. -/
  sign? : Option Char

/-- The portion that options ask for, or what is wrong with it. -/
def portion (o : Options) (lastly : Portion) : Except String Portion :=
  match (o.given.filter fun g => g.1 = "n" || g.1 = "c").getLast? with
  | none => .ok lastly
  | some (key, value) =>
    let cs := value.toList
    let sign? := cs.head?.filter fun c => c = '-' || c = '+'
    match size? (if sign?.isSome then cs.drop 1 else cs) with
    | some count => .ok ⟨key = "n", count, sign?⟩
    | none =>
      .error ("invalid number of " ++ (if key = "n" then "lines" else "bytes") ++ ": " ++
        Quoting.word value)

/-- The old form of a count as the first word, such as `-5`. -/
def oldCount (words : List String) : List String :=
  match words with
  | word :: rest =>
    match word.toList with
    | '-' :: c :: more =>
      let digits := (c :: more).takeWhile isDigit
      if digits.isEmpty then words
      else
        let key := if (more.drop (digits.length - 1)).contains 'c' then "-c" else "-n"
        key :: String.ofList digits :: rest
    | _ => words
  | [] => []

/-- Works on each operand under a heading with its name, where there are several. -/
def underHeadings (name : String) (o : Options) (work : Reading → Act Unit) : Act Nat := do
  let paths := if o.operands.isEmpty then ["-"] else o.operands
  let titled := match o.lastOf? ["q", "v", "silent"] with
    | some "v" => true
    | some _ => false
    | none => paths.length > 1
  let mut status := 0
  let mut isFirst := true
  for path in paths do
    let title := if path = "-" then "standard input" else path
    let heading := fun (isFirst : Bool) => do
      if titled then Act.print ((if isFirst then "" else "\n") ++ "==> " ++ title ++ " <==\n")
    match ← if path = "-" then Act.readDescriptor 0 else Act.readPath path with
    | .error .isDirectory =>
      heading isFirst
      complain name ("error reading " ++ Quoting.always title ++ ": Is a directory")
      isFirst := false
      status := 1
    | .error e =>
      complain name ("cannot open " ++ Quoting.always path ++ " for reading: " ++ e.words)
      status := 1
    | .ok reading =>
      heading isFirst
      isFirst := false
      work reading
  return status

def headingOptions : List OptionSpec :=
  [valued 'n' "lines", valued 'c' "bytes", flag 'q' "quiet", longFlag "silent", flag 'v' "verbose",
   flag 'z' "zero-terminated"]

/-- How many bytes the first `n` lines take; none if they are not there yet. -/
def lineBytes? (s : Stream) (n : Nat) : Option Nat :=
  let lines := (linesOf s.bytes).take n
  let size := (lines.map (·.length)).foldl (· + ·) 0
  if s.stalls && (lines.length < n || lines.getLast?.any (·.getLast? ≠ some 10)) then none
  else some size

/-- The first part of a stream. What was read too much is given back to an input that
others read too. -/
def firstPart (p : Portion) (reading : Reading) : Act Unit := do
  let stream := reading.stream
  if p.sign? = some '-' then
    let bytes ← finite stream
    if p.ofLines then Act.write 1 (bytes.take ((linesOf bytes).reverse.drop p.count).flatten.length)
    else Act.write 1 (bytes.take (bytes.length - p.count))
  else
    let stream : Stream :=
      if p.ofLines && !stream.cycle.isEmpty then .ofBytes (stream.take 65536) else stream
    let size? := if p.ofLines then lineBytes? stream p.count
      else if stream.hasAtLeast p.count || !stream.stalls then some p.count else none
    match size? with
    | none => Act.hang
    | some size =>
      let isWhole := if p.ofLines then (stream.bytes.take size).count 10 < p.count
        else !stream.hasAtLeast p.count
      if !isWhole then Act.stopReading reading size
      Act.write 1 (stream.take size)

def head : Utility := fun name words =>
  withOptions headingOptions true 1 (fun name o => do
    match portion o ⟨true, 10, none⟩ with
    | .error text =>
      complain name text
      return 1
    | .ok p => underHeadings name o (firstPart p)) name (oldCount words)

/-- The last part of a stream, or all but its first. -/
def lastPart (p : Portion) (follows : Bool) (reading : Reading) : Act Unit := do
  let bytes ← finite reading.stream
  let isFromFront := p.sign? = some '+'
  if p.ofLines then
    let lines := linesOf bytes
    let skipped := if isFromFront then p.count - 1 else lines.length - p.count
    Act.write 1 (lines.drop skipped).flatten
  else
    let skipped := if isFromFront then p.count - 1 else bytes.length - p.count
    Act.write 1 (bytes.drop skipped)
  if follows && reading.source?.all fun r => r.2.file?.isSome then Act.hang

def tail : Utility := fun name words =>
  withOptions (headingOptions ++ [flag 'f' "follow", flag 'F' "", valued 's' "sleep-interval",
      longValued "pid", longFlag "retry"]) true 1 (fun name o => do
    match portion o ⟨true, 10, none⟩ with
    | .error text =>
      complain name text
      return 1
    | .ok p => underHeadings name o (lastPart p (o.has "f" || o.has "F"))) name (oldCount words)

/-- Reads all operands, and says of those that cannot be read what is wrong. -/
def readAll (name : String) (paths : List String) : Act (List (String × Reading) × Bool) := do
  let mut found : List (String × Reading) := []
  let mut worked := true
  for path in if paths.isEmpty then ["-"] else paths do
    match ← if path = "-" then Act.readDescriptor 0 else Act.readPath path with
    | .ok reading => found := found ++ [(path, reading)]
    | .error e =>
      complain name (Quoting.ifNeeded path ++ ": " ++ e.words)
      worked := false
  return (found, worked)

def statusOf (worked : Bool) : Nat := if worked then 0 else 1

/-- Lines in the opposite order. -/
def tac : Utility := withOptions [flag 'b' "before", flag 'r' "regex", valued 's' "separator"] true 1
    fun name o => do
  let mut status := 0
  for path in if o.operands.isEmpty then ["-"] else o.operands do
    match ← if path = "-" then Act.readDescriptor 0 else Act.readPath path with
    | .ok reading => Act.write 1 (linesOf (← finite reading.stream)).reverse.flatten
    | .error .isDirectory =>
      complain name (Quoting.ifNeeded path ++ ": read error: Is a directory")
      status := 1
    | .error e =>
      complain name ("failed to open " ++ Quoting.always path ++ " for reading: " ++ e.words)
      status := 1
  return status

/-- Lines with their characters in the opposite order. -/
def rev : Utility := withOptions [] true 1 fun name o => do
  let mut status := 0
  for path in if o.operands.isEmpty then ["-"] else o.operands do
    match ← if path = "-" then Act.readDescriptor 0 else Act.readPath path with
    | .ok reading =>
      for line in linesOf (← finite reading.stream) do
        let ended := line.getLast? = some 10
        Act.write 1 ((if ended then line.dropLast else line).reverse ++ if ended then [10] else [])
    | .error e =>
      complain name ((if e = .isDirectory then path else "cannot open " ++ path) ++ ": " ++ e.words)
      status := 1
  return status

def isSpaceByte (b : UInt8) : Bool := b = 32 || (9 ≤ b && b ≤ 13)

def wordCount (bytes : Bytes) : Nat :=
  (bytes.foldl (fun (n, inside) b =>
    if isSpaceByte b then (n, false) else (if inside then n else n + 1, true)) (0, false)).1

/-- How wide the widest line is, with tabs up to the next multiple of eight. -/
def widestLine (bytes : Bytes) : Nat :=
  let (widest, last) := bytes.foldl (fun (widest, here) b =>
    if b = 10 || b = 13 || b = 12 then (max widest here, 0)
    else if b = 9 then (widest, (here / 8 + 1) * 8)
    else if 32 ≤ b && b < 127 then (widest, here + 1)
    else (widest, here)) (0, 0)
  max widest last

/-- Counts in a row, filled up to a width. -/
def countsText (width : Nat) (counts : List Nat) : String :=
  " ".intercalate (counts.map fun n => padLeft width (Decimal.natText n))

/-- The size of a regular file behind an operand; `none` if it is something else. -/
def regularSize? (path : String) : Act (Option Nat) := do
  if path = "-" then
    match ← Act.channel? 0 with
    | some (.source n) =>
      match (← get).sources[n]?.bind (·.file?) with
      | some (l, _) =>
        match (← Act.disk).at? l with
        | some (.file data _) => return some data.length
        | _ => return none
      | none => return none
    | _ => return none
  else
    match (← Act.disk).find path with
    | .ok (_, .file data _) => return some data.length
    | _ => return none

def wc : Utility := withOptions
    [flag 'c' "bytes", flag 'm' "chars", flag 'l' "lines", flag 'w' "words",
     flag 'L' "max-line-length", longValued "total", longValued "files0-from"] true 1
    fun name o => do
  let keys := ["l", "w", "m", "c", "L"].filter fun k =>
    o.has k || (o.given.isEmpty && (k = "l" || k = "w" || k = "c"))
  let countsOf := fun bytes : Bytes => keys.map fun k =>
    if k = "l" then bytes.count 10 else if k = "w" then wordCount bytes
    else if k = "L" then widestLine bytes else bytes.length
  let paths := if o.operands.isEmpty then ["-"] else o.operands
  let d ← Act.disk
  let sizes ← paths.mapM regularSize?
  let isThere := fun path : String => path = "-" || d.pathExists path
  let width :=
    if (paths.length = 1 && keys.length = 1) || !paths.head?.any isThere then 1
    else
      let total := (Decimal.digits ((sizes.filterMap id).foldl (· + ·) 0)).length
      if (paths.zip sizes).any fun (path, size?) => size?.isNone && isThere path then max 7 total
      else total
  let mut status := 0
  let mut rows : List (List Nat) := []
  for path in paths do
    let show_ := fun counts : List Nat =>
      Act.print (countsText width counts ++
        (if o.operands.isEmpty then "" else " " ++ Quoting.ifNeeded path) ++ "\n")
    match ← if path = "-" then Act.readDescriptor 0 else Act.readPath path with
    | .ok reading =>
      let counts := countsOf (← finite reading.stream)
      show_ counts
      rows := rows ++ [counts]
    | .error e =>
      complain name (Quoting.ifNeeded path ++ ": " ++ e.words)
      if e = .isDirectory then show_ (keys.map fun _ => 0)
      status := 1
  if paths.length > 1 then
    let sums := keys.zipIdx.map fun (key, i) =>
      let column := rows.map fun row => (row[i]?).getD 0
      if key = "L" then column.foldl max 0 else column.foldl (· + ·) 0
    Act.print (countsText width sums ++ " total\n")
  return status

def tee : Utility := withOptions [flag 'a' "append", flag 'i' "ignore-interrupts", flag 'p' ""] true 1
    fun name o => do
  let mut status := 0
  let mut channels : List Channel := []
  for path in o.operands do
    match ← Act.openOutput (o.has "a") (o.has "a") path with
    | .ok channel => channels := channels ++ [channel]
    | .error e =>
      complain name (Quoting.ifNeeded path ++ ": " ++ e.words)
      status := 1
  let targets := (← Act.channel? 1).toList ++ channels
  match ← Act.readDescriptor 0 with
  | .ok reading =>
    if reading.stream.cycle.isEmpty then
      Act.relay reading fun bytes => targets.forM fun channel => do
        let _ ← Act.writeTo (some channel) bytes
    else Act.writeStream reading.stream
  | .error e =>
    complain name ("read error: " ++ e.words)
    status := 1
  return status

def yes : Utility := fun _ args => do
  let args := if args.head? = some "--" then args.drop 1 else args
  let line := if args.isEmpty then "y" else " ".intercalate args
  Act.writeStream ⟨[], ByteText.toBytes (line ++ "\n"), false⟩
  return 0

/-- Numbers lines. -/
def nl : Utility := withOptions
    [valued 'b' "body-numbering", valued 'n' "number-format", valued 's' "number-separator",
     valued 'v' "starting-line-number", valued 'w' "number-width", valued 'i' "line-increment"]
    true 1 fun name o => do
  let all := o.value? "b" = some "a"
  let none_ := o.value? "b" = some "n"
  let mark := (o.value? "s").getD "\t"
  let width := Decimal.value ((o.value? "w").getD "6").toList
  let step := Decimal.value ((o.value? "i").getD "1").toList
  let mut n := Decimal.value ((o.value? "v").getD "1").toList
  let (found, worked) ← readAll name o.operands
  for (_, reading) in found do
    for line in linesOf (← finite reading.stream) do
      let bare := if line.getLast? = some 10 then line.dropLast else line
      if (all || !bare.isEmpty) && !none_ then
        let digits := Decimal.natText n
        let label := match o.value? "n" with
          | some "ln" => digits ++ String.ofList (List.replicate (width - digits.length) ' ')
          | some "rz" => String.ofList (List.replicate (width - digits.length) '0') ++ digits
          | _ => padLeft width digits
        Act.print (label ++ mark)
        Act.write 1 (withEnd line)
        n := n + step
      else
        Act.print (String.ofList (List.replicate (width + mark.length) ' '))
        Act.write 1 (withEnd line)
  return statusOf worked

/-- A line in pieces of a width. -/
def folded (width : Nat) (atSpaces countsBytes : Bool) (done line : Bytes) (here : Nat) :
    Bytes → Bytes
  | [] => done ++ line
  | b :: rest =>
    if b = 10 then folded width atSpaces countsBytes (done ++ line ++ [10]) [] 0 rest
    else
      let step := fun (here : Nat) =>
        if countsBytes then here + 1 else if b = 9 then (here / 8 + 1) * 8
        else if b = 8 then here - 1 else if b = 13 then 0 else here + 1
      if step here ≤ width || line.isEmpty then
        folded width atSpaces countsBytes done (line ++ [b]) (step here) rest
      else
        let kept := (line.reverse.dropWhile fun c => c ≠ 32 && c ≠ 9).reverse
        if atSpaces && !kept.isEmpty then
          let moved := line.drop kept.length
          folded width atSpaces countsBytes (done ++ kept ++ [10]) (moved ++ [b])
            (step moved.length) rest
        else folded width atSpaces countsBytes (done ++ line ++ [10]) [b] (step 0) rest

def fold : Utility := fun name words =>
  let words := words.map fun w =>
    match w.toList with
    | '-' :: c :: _ => if isDigit c then "-w" ++ (w.drop 1).toString else w
    | _ => w
  withOptions [flag 'b' "bytes", flag 's' "spaces", valued 'w' "width"] true 1 (fun name o => do
    let width := Decimal.value ((o.value? "w").getD "80").toList
    let (found, worked) ← readAll name o.operands
    for (_, reading) in found do
      Act.write 1 (folded width (o.has "s") (o.has "b") [] [] 0 (← finite reading.stream))
    return statusOf worked) name words

end Mender.Shell.Utility
