import Mender.Shell.Regex.Reader
import Mender.Shell.Utility.Sorting

/-!
# Utilities for patterns

A search selects the lines in which one of its patterns is found, or all others, and
shows them with their neighbours.
-/

namespace Mender.Shell.Utility

open Text

/-- What a search looks for. -/
structure Search where
  regex : Regex
  ignoreCase : Bool
  /-- Whether a match may neither start nor end inside a word. -/
  words : Bool
  inverted : Bool

namespace Search

def subject (s : Search) (line : List Char) : Regex.Subject := ⟨line.toArray, s.ignoreCase, false⟩

def accepts (s : Search) (subject : Regex.Subject) (start stop : Nat) : Bool :=
  !s.words || (!subject.isWordBefore start && !subject.isWordAt stop)

def isFound (s : Search) (line : List Char) : Bool :=
  let subject := s.subject line
  if s.words then
    (s.regex.search? subject (s.accepts subject) (line.length + 1) 0).isSome
  else s.regex.isMatch subject

def selects (s : Search) (line : List Char) : Bool := s.isFound line != s.inverted

/-- The places of the matches in a line that are not empty. -/
def matchesFrom (s : Search) (subject : Regex.Subject) (budget start : Nat) : List (Nat × Nat) :=
  match budget with
  | 0 => []
  | budget + 1 =>
    match s.regex.search? subject (s.accepts subject) (subject.text.size + 1) start with
    | none => []
    | some (first, last) =>
      if first = last then matchesFrom s subject budget (first + 1)
      else (first, last) :: matchesFrom s subject budget last

def matchesIn (s : Search) (line : List Char) : List (Nat × Nat) :=
  s.matchesFrom (s.subject line) (line.length + 1) 0

end Search

/-- A line of a text that is searched. -/
structure SearchedLine where
  text : Bytes
  number : Nat
  /-- How many bytes are in front of it. -/
  offset : Nat
  isSelected : Bool

/-- The lines of a text that are looked at, up to the last that is selected where only
so many are. -/
def searchedLines (s : Search) (number offset : Nat) (most? : Option Nat) :
    List Bytes → List SearchedLine
  | [] => []
  | text :: rest =>
    let isSelected := most? ≠ some 0 && s.selects (charsOf text)
    let most? := if isSelected then most?.map (· - 1) else most?
    ⟨text, number, offset, isSelected⟩ ::
      searchedLines s (number + 1) (offset + text.length + 1) most? rest

/-- A line that is shown, and whether a gap stands in front. -/
structure ShownLine where
  line : SearchedLine
  behindGap : Bool

/-- The selected lines with so many lines before and behind; `after` lines are still to
be shown, `held` may have to be, the latest first, and `isLast` stands for what comes
behind the last selected line that counts. -/
def neighbours (before after : Nat) (pending : Nat) (held : List SearchedLine) (begun parted : Bool) :
    List SearchedLine → List ShownLine
  | [] => []
  | line :: rest =>
    if line.isSelected then
      let shown := (line :: held).reverse
      let lines := shown.zipIdx.map fun (l, i) => ⟨l, i = 0 && begun && parted⟩
      lines ++ neighbours before after after [] true false rest
    else
      match pending with
      | pending + 1 => ⟨line, false⟩ :: neighbours before after pending [] true false rest
      | 0 =>
        neighbours before after 0 ((line :: held).take before) begun
          (parted || before ≤ held.length) rest

/-- How what is found is shown. -/
structure FoundDisplay where
  named : Bool
  numbered : Bool
  offsets : Bool
  onlyMatches : Bool
  coloured : Bool
  /-- What stands behind a name. -/
  nameEnd? : Option String
  lineEnd : UInt8

def inColour (coloured : Bool) (colour text : String) : String :=
  if coloured then "\x1b[" ++ colour ++ "m\x1b[K" ++ text ++ "\x1b[m\x1b[K" else text

namespace FoundDisplay

/-- What stands in front of a line; `mark` parts the pieces. -/
def label (d : FoundDisplay) (path mark : String) (number offset : Nat) : String :=
  let mark := inColour d.coloured "36" mark
  (if d.named then
    inColour d.coloured "35" path ++ (d.nameEnd?.getD mark) else "") ++
    (if d.numbered then inColour d.coloured "32" (Decimal.natText number) ++ mark else "") ++
    (if d.offsets then inColour d.coloured "32" (Decimal.natText offset) ++ mark else "")

/-- A line as it is shown. -/
def line (d : FoundDisplay) (s : Search) (path : String) (l : SearchedLine) : Bytes :=
  let mark := if l.isSelected then ":" else "-"
  let cs := charsOf l.text
  let part := fun (a b : Nat) => String.ofList ((cs.take b).drop a)
  let ending := String.singleton (Char.ofNat d.lineEnd.toNat)
  ByteText.toBytes <|
    if d.onlyMatches then
      if !l.isSelected || s.inverted then ""
      else
        String.join ((s.matchesIn cs).map fun (a, b) =>
          d.label path mark l.number (l.offset + a) ++ inColour d.coloured "01;31" (part a b) ++ ending)
    else
      let body :=
        if d.coloured && l.isSelected && !s.inverted then
          let (shown, place) := (s.matchesIn cs).foldl (fun (shown, place) (a, b) =>
            (shown ++ part place a ++ inColour true "01;31" (part a b), b)) ("", 0)
          shown ++ part place cs.length
        else String.ofList cs
      d.label path mark l.number l.offset ++ body ++ ending

end FoundDisplay

/-- Whether a name is among those that patterns of names mean. -/
def isNamed (patterns : List String) (path : String) : Bool :=
  let name := (path.toList.reverse.takeWhile (· ≠ '/')).reverse
  patterns.any fun p =>
    let marked := p.toList.map (·, false)
    Glob.isMatch marked name || Glob.isMatch marked path.toList

/-- The paths of the files below a directory, by a walk that goes through directories
and, where `follows` says so, through links. -/
def filesBelow (d : Disk) (follows : Bool) (skips : String → Bool) (shown : String → String) :
    (budget : Nat) → (path : String) → List String
  | 0, _ => []
  | budget + 1, path =>
    let names := (ByteText.namesIn d path).mergeSort
    names.flatMap fun name =>
      let below := (if Path.endsInSlash path then path else path ++ "/") ++ name
      match if follows then d.find below else d.look below with
      | .ok (_, .directory) =>
        if skips name then [] else filesBelow d follows skips shown budget below
      | .ok (_, .file _ _) => [shown below]
      | _ => []

def searchOptions : List OptionSpec :=
  [valued 'A' "after-context", valued 'B' "before-context", valued 'C' "context",
   flag 'E' "extended-regexp", flag 'F' "fixed-strings", flag 'G' "basic-regexp",
   flag 'P' "perl-regexp", flag 'H' "with-filename", flag 'I' "", flag 'L' "files-without-match",
   flag 'R' "dereference-recursive", flag 'T' "initial-tab", flag 'U' "binary", flag 'V' "version",
   flag 'Z' "null", flag 'a' "text", flag 'b' "byte-offset", flag 'c' "count",
   valued 'd' "directories", valued 'D' "devices", valued 'e' "regexp", valued 'f' "file",
   flag 'h' "no-filename", flag 'i' "ignore-case", flag 'y' "", flag 'l' "files-with-matches",
   flag 'n' "line-number", valued 'm' "max-count", flag 'o' "only-matching", flag 'q' "quiet",
   longFlag "silent", flag 'r' "recursive", flag 's' "no-messages", flag 'u' "",
   flag 'v' "invert-match", flag 'w' "word-regexp", flag 'x' "line-regexp", flag 'z' "null-data",
   longFlag "line-buffered", longFlag "no-ignore-case", longFlag "no-group-separator",
   longValued "group-separator", longValued "include", longValued "exclude",
   longValued "exclude-from", longValued "exclude-dir", longValued "label",
   longValued "binary-files", ⟨none, "color", .optional⟩, ⟨none, "colour", .optional⟩,
   longFlag "help"] ++ flags "0123456789"

/-- The expression for any of some patterns, with the warnings of all. -/
def anyPattern (extended fixed : Bool) (patterns : List String) :
    Except Regex.Mistake (Regex × List String) :=
  patterns.foldlM (fun (found, warnings) pattern => do
    let (r, more) ←
      if fixed then pure (Regex.ofText pattern.toList, [])
      else Regex.ofPattern ⟨extended, true⟩ pattern.toList
    return (if found = .never then r else .either found r, warnings ++ more)) (.never, [])

/-- Classes of characters that a pattern names by letters. -/
def withDigitClasses : List Char → List Char
  | '\\' :: 'd' :: rest => "[0-9]".toList ++ withDigitClasses rest
  | '\\' :: 'D' :: rest => "[^0-9]".toList ++ withDigitClasses rest
  | '\\' :: c :: rest => '\\' :: c :: withDigitClasses rest
  | c :: rest => c :: withDigitClasses rest
  | [] => []

def searchUsage : String :=
  "Usage: grep [OPTION]... PATTERNS [FILE]...\nTry 'grep --help' for more information.\n"

/-- The lines of a text without the mark at the end of each. -/
def linesWithout (mark : Char) (text : String) : List String :=
  let pieces := splitOn mark text.toList
  (if 1 < pieces.length && pieces.getLast? = some [] then pieces.dropLast else pieces).map String.ofList

/-- How many lines around a selected one are shown, by a number that an option gives. -/
def contextSize? (text : String) : Except String (Option Nat) :=
  if text.isEmpty then .ok none
  else
    match Decimal.nat? text.toList with
    | some n => .ok (some n)
    | none => .error (text ++ ": invalid context length argument")

/-- A search after its options. -/
def searchWith (name : String) (o : Options) : Act Nat := do
  let refuse := fun text : String => do
    complain name text
    return 2
  let matchers := ["E", "F", "G", "P"].filter o.has
  let sizes : Except String (Option Nat × Option Nat) := do
    let digits := String.join ((o.given.map (·.1)).filter fun k : String =>
      k.length = 1 && k.toList.all isDigit)
    let around? ← contextSize? ((o.value? "C").getD digits)
    let before? ← contextSize? ((o.value? "B").getD "")
    let after? ← contextSize? ((o.value? "A").getD "")
    return (before?.orElse fun _ => around?, after?.orElse fun _ => around?)
  match sizes with
  | .error text => refuse text
  | .ok (before?, after?) =>
  if matchers.length > 1 then return ← refuse "conflicting matchers specified"
  let most? := o.value? "m"
  if most?.any fun m => (Decimal.nat? m.toList).isNone && !m.startsWith "-" then
    return ← refuse "invalid max count"
  let most? := most?.bind fun m => Decimal.nat? m.toList
  let mut patterns : List String := []
  for (key, value) in o.given do
    if key = "e" then patterns := patterns ++ (splitOn '\n' value.toList).map String.ofList
    if key = "f" then
      match ← if value = "-" then Act.readDescriptor 0 else Act.readPath value with
      | .error e => return ← refuse (value ++ ": " ++ e.words)
      | .ok reading =>
        let bytes ← finite reading.stream
        if !bytes.isEmpty then
          patterns := patterns ++ linesWithout '\n' (String.ofList (charsOf bytes))
  let hasPatterns := o.has "e" || o.has "f"
  if !hasPatterns && o.operands.isEmpty then
    Act.complain searchUsage
    return 2
  if !hasPatterns then
    patterns := (splitOn '\n' (o.operands.headD "").toList).map String.ofList
  if o.has "P" then patterns := patterns.map fun p => String.ofList (withDigitClasses p.toList)
  let paths := if hasPatterns then o.operands else o.operands.drop 1
  match anyPattern (o.has "E" || o.has "P") (o.has "F") patterns with
  | .error mistake => refuse mistake.message
  | .ok (regex, warnings) =>
  for w in warnings do complain name ("warning: " ++ w)
  let regex := if o.has "x" then .follow (.edge .textStart) (.follow regex (.edge .textEnd)) else regex
  let ignoreCase := o.lastOf? ["i", "y", "no-ignore-case"]
  let search : Search :=
    { regex, ignoreCase := ignoreCase.any (· ≠ "no-ignore-case")
      words := o.has "w" && !o.has "x", inverted := o.has "v" }
  if most? = some 0 then return 1
  let isDeep := o.has "r" || o.has "R" || o.value? "d" = some "recurse"
  let d ← Act.disk
  let included := fun path : String =>
    ((o.values "include").isEmpty || isNamed (o.values "include") path) &&
      !isNamed (o.values "exclude") path
  let expanded := fun path : String =>
    if isDeep && d.isDirectory path then
      (filesBelow d (o.has "R") (fun n => isNamed (o.values "exclude-dir") n) id 64 path).filter included
    else if path ≠ "-" && !d.isDirectory path && !included path then []
    else [path]
  let hidden := isDeep && paths.isEmpty
  let files := if hidden then (expanded ".").map fun p => (p.drop 2).toString
    else (if paths.isEmpty then ["-"] else paths).flatMap expanded
  let manyNamed := paths.length > 1 || (isDeep && (paths.isEmpty || paths.any fun path => d.isDirectory path))
  let colour := (o.value? "color").orElse fun _ => o.value? "colour"
  let display : FoundDisplay :=
    { named := match o.lastOf? ["h", "H"] with
        | some k => k = "H"
        | none => manyNamed
      numbered := o.has "n", offsets := o.has "b", onlyMatches := o.has "o"
      coloured := colour = some "always"
      nameEnd? := if o.has "Z" then some "\x00" else none
      lineEnd := if o.has "z" then 0 else 10 }
  let lists := o.lastOf? ["l", "L"]
  let quiet := o.has "q" || o.has "silent"
  let binary := o.lastOf? ["a", "I", "binary-files"]
  let binary := if binary = some "binary-files" then
      (match o.value? "binary-files" with
        | some "text" => some "a"
        | some "without-match" => some "I"
        | _ => none)
    else binary
  let mut found := false
  let mut failed := false
  for path in files do
    if found && quiet then break
    let feedsItself ← isOutput path
    let shown := if path = "-" then (o.value? "label").getD "(standard input)" else path
    match ← if path = "-" then Act.readDescriptor 0 else Act.readPath path with
    | .error e =>
      if e = .isDirectory && o.value? "d" = some "skip" then continue
      if !o.has "s" then complain name (shown ++ ": " ++ e.words)
      failed := true
    | .ok reading =>
      if feedsItself && !reading.stream.bytes.isEmpty && !quiet && lists.isNone && most?.isNone then
        complain name (shown ++ ": input file is also the output")
        failed := true
        continue
      let stopsEarly := quiet || lists.isSome || most?.isSome
      let bytes ←
        if reading.stream.isEndless && stopsEarly then pure (reading.stream.take 65536)
        else finite reading.stream
      let isBinary := bytes.contains 0 && display.lineEnd ≠ 0 && binary ≠ some "a"
      let lines := if isBinary && binary = some "I" then []
        else searchedLines search 1 0 most? (piecesOf display.lineEnd bytes)
      let selected := lines.filter (·.isSelected)
      if !selected.isEmpty then found := true
      let isFull := most? = some selected.length
      let isAnswered := (quiet || lists.isSome) && !selected.isEmpty
      if isFull || (isAnswered && reading.source?.all fun r => r.2.file?.isNone) then
        let last? := if isAnswered then selected.head? else selected.getLast?
        Act.stopReading reading ((last?.map fun l => l.offset + l.text.length + 1).getD 0)
      else if reading.stream.isEndless && !isAnswered then Act.hang
      let printName := Act.print (inColour display.coloured "35" shown ++
        if o.has "Z" then "\x00" else "\n")
      if quiet then pure ()
      else if lists.isSome then
        if o.has "c" then
          Act.print ((if display.named then display.label shown ":" 0 0 else "") ++
            Decimal.natText (min 1 selected.length) ++ "\n")
        if (lists = some "l") != selected.isEmpty then printName
      else if o.has "c" then
        let counting := { display with numbered := false, offsets := false }
        Act.print (counting.label shown ":" 0 0 ++ Decimal.natText selected.length ++ "\n")
      else if isBinary then
        if !selected.isEmpty then Act.print (name ++ ": " ++ shown ++ ": binary file matches\n")
      else
        let lines := neighbours (before?.getD 0) (after?.getD 0) 0 [] false false lines
        let parts := (before?.isSome || after?.isSome) && !o.has "no-group-separator"
        let gap := inColour display.coloured "36" ((o.value? "group-separator").getD "--")
        Act.write 1 (lines.flatMap fun l =>
          (if l.behindGap && parts then ByteText.toBytes (gap ++ "\n") else []) ++
            display.line search shown l.line)
  return if found && (quiet || !failed) then 0 else if failed then 2 else 1

/-- A search whose mistakes in options come with a usage of their own. -/
def grep : Utility := fun name words => do
  match parseOptions searchOptions true (lettersIn words) words with
  | .error mistake =>
    complain name mistake.message
    Act.complain searchUsage
    return 2
  | .ok o => searchWith name o

/-- A search under an old name. -/
def oldSearch (option : String) : Utility := fun _ words =>
  grep "grep" (option :: words)

end Mender.Shell.Utility
