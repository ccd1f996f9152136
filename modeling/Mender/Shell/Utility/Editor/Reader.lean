import Mender.Shell.Utility.Editor.Script
import Mender.Text.Decimal

/-!
# Reading scripts of the stream editor

A script comes in pieces, from arguments and from files. What is wrong with it is said
with the piece and the place in it.
-/

namespace Mender.Shell.Editor

open Text

/-- A piece of a script: a file, or an argument by its number. -/
structure ScriptPiece where
  file? : Option String
  number : Nat
  text : List Char

/-- What is left of a piece, and what was read of a script. -/
structure Pending where
  piece : ScriptPiece
  rest : List Char
  used : Nat
  line : Nat
  commands : Array EditCommand
  /-- The places of the blocks that are open. -/
  blocks : List String
  /-- The text of the last command, if it goes on in the next piece. -/
  openText? : Option (List Char)
  isSilent : Bool

/-- What is wrong with a script, in words, and the status that comes of it. -/
structure Mistake where
  text : String
  status : Nat
  deriving DecidableEq, Repr

abbrev Reader := StateT Pending (Except Mistake)

namespace Reader

/-- Where a reader is. -/
def place (p : Pending) : String :=
  match p.piece.file? with
  | some file => "file " ++ file ++ " line " ++ Decimal.natText p.line ++ ": "
  | none =>
    "-e expression #" ++ Decimal.natText p.piece.number ++ ", char " ++ Decimal.natText p.used ++ ": "

def fail {α : Type} (text : String) : Reader α := do throw ⟨place (← get) ++ text, 1⟩

def peek : Reader (List Char) := return (← get).rest

def skip (n : Nat) : Reader Unit :=
  modify fun p =>
    let passed := p.rest.take n
    { p with rest := p.rest.drop n, used := p.used + passed.length, line := p.line + passed.count '\n' }

/-- The next character, behind which the reader moves. -/
def next? : Reader (Option Char) := do
  let c? := (← peek).head?
  skip 1
  return c?

def isBlankChar (c : Char) : Bool := c = ' ' || c = '\t'

def skipBlanks : Reader Unit := do skip ((← peek).takeWhile isBlankChar).length

/-- Reads the digits of a number. -/
def number : Reader Nat := do
  let digits := (← peek).takeWhile isDigit
  skip digits.length
  return Decimal.value digits

/-- The body of brackets up to the closing one, from behind the opening one. -/
def bracketBody (cs : List Char) : Nat :=
  let start := if cs.head? = some '^' then 1 else 0
  let start := if cs[start]? = some ']' then start + 1 else start
  go (cs.length + 1) start (cs.drop start)
where
  go : (budget n : Nat) → List Char → Nat
    | 0, n, _ => n
    | _, n, [] => n
    | _ + 1, n, ']' :: _ => n + 1
    | budget + 1, n, '[' :: mark :: rest =>
      if mark = ':' || mark = '.' || mark = '=' then
        match Regex.Reader.nameUpTo? mark [] rest with
        | some name => go budget (n + name.length + 4) (rest.drop (name.length + 2))
        | none => n + rest.length + 2
      else go budget (n + 1) (mark :: rest)
    | budget + 1, n, _ :: rest => go budget (n + 1) rest

/-- A text up to a mark behind which the reader moves; none if the mark does not come. -/
def upTo? (mark : Char) (isPattern : Bool) (budget : Nat) (found : List Char) :
    Reader (Option (List Char)) := do
  match budget with
  | 0 => return none
  | budget + 1 =>
    match ← peek with
    | [] => return none
    | c :: rest =>
      if c = '\n' then return none
      else if c = mark then
        skip 1
        return some found.reverse
      else if c = '\\' then
        match rest with
        | [] =>
          skip 1
          return none
        | d :: _ =>
          skip 2
          let cs := if d = 'n' && isPattern then ['\n']
            else if d = '\n' && isPattern then [d]
            else if d ≠ mark || (!isPattern && d = '&') then ['\\', d]
            else [d]
          upTo? mark isPattern budget (cs.reverse ++ found)
      else if c = '[' && isPattern then
        let n := bracketBody rest
        let body := rest.take n
        if body.contains '\n' || (n = rest.length && body.getLast? ≠ some ']') then
          skip (1 + (body.takeWhile (· ≠ '\n')).length)
          return none
        skip (n + 1)
        upTo? mark isPattern budget ((withNewlines body).reverse ++ c :: found)
      else
        skip 1
        upTo? mark isPattern budget (c :: found)
where
  withNewlines : List Char → List Char
    | '\\' :: 'n' :: rest => '\n' :: withNewlines rest
    | c :: rest => c :: withNewlines rest
    | [] => []

/-- The character of a number in a base, and how many digits it takes. -/
def numbered? (base most : Nat) (cs : List Char) : Option (Char × Nat) :=
  let value? := fun (c : Char) =>
    let n := if isDigit c then some (digitValue c)
      else if 'a' ≤ c.toLower && c.toLower ≤ 'f' then some (c.toLower.toNat - 'a'.toNat + 10)
      else none
    n.filter (· < base)
  let digits := (cs.take most).takeWhile fun c => (value? c).isSome
  if digits.isEmpty then none
  else
    some (Char.ofNat ((digits.foldl (fun n c => base * n + (value? c).getD 0) 0) % 256), digits.length)

/-- The character that an escape of the editor's own stands for, behind the backslash,
and how many characters it takes. -/
def ownEscape? : List Char → Option (Char × Nat)
  | 'a' :: _ => some ('\x07', 1)
  | 'f' :: _ => some ('\x0c', 1)
  | 'r' :: _ => some ('\r', 1)
  | 't' :: _ => some ('\t', 1)
  | 'v' :: _ => some ('\x0b', 1)
  | 'c' :: c :: _ => some (Char.ofNat (c.toUpper.toNat ^^^ 64), 2)
  | 'd' :: rest => (numbered? 10 3 rest).map fun (c, n) => (c, n + 1)
  | 'o' :: rest => (numbered? 8 3 rest).map fun (c, n) => (c, n + 1)
  | 'x' :: rest => (numbered? 16 2 rest).map fun (c, n) => (c, n + 1)
  | _ => none

/-- A text with the editor's own escapes resolved; other backslashes stay with what they
escape. `guarded` are characters that keep a backslash. -/
def resolved (guarded : List Char) (budget : Nat) (cs : List Char) : List Char :=
  match budget, cs with
  | 0, _ | _, [] => []
  | budget + 1, '\\' :: rest =>
    match ownEscape? rest with
    | some (c, n) =>
      (if guarded.contains c then ['\\', c] else [c]) ++ resolved guarded budget (rest.drop n)
    | none => '\\' :: rest.take 1 ++ resolved guarded budget (rest.drop 1)
  | budget + 1, c :: rest => c :: resolved guarded budget rest

/-- The pattern of a text. -/
def patternOf (extended : Bool) (text : List Char) (ignoreCase hasLines : Bool) : Reader Pattern := do
  if text.isEmpty then
    if ignoreCase || hasLines then fail "cannot specify modifiers on empty regexp"
    return ⟨none, false, false⟩
  match Regex.ofPattern ⟨extended, false⟩ (resolved [] (text.length + 1) text) with
  | .ok (r, _) => return ⟨some r, ignoreCase, hasLines⟩
  | .error .classAlone => throw ⟨Regex.Mistake.classAlone.message, 4⟩
  | .error mistake => fail mistake.message

/-- The letters behind the pattern of an address. -/
def addressFlags (budget : Nat) (ignoreCase hasLines : Bool) : Reader (Bool × Bool) := do
  match budget with
  | 0 => return (ignoreCase, hasLines)
  | budget + 1 =>
    skipBlanks
    match (← peek).head? with
    | some 'I' =>
      skip 1
      addressFlags budget true hasLines
    | some 'M' =>
      skip 1
      addressFlags budget ignoreCase true
    | _ => return (ignoreCase, hasLines)

/-- An address, if one is in front. -/
def address? (extended : Bool) : Reader (Option Address) := do
  let text ← peek
  let pattern := fun (passed : Nat) (mark : Char) => do
    skip passed
    match ← upTo? mark true (text.length + 1) [] with
    | none => fail "unterminated address regex"
    | some body =>
      let (ignoreCase, hasLines) ← addressFlags (text.length + 1) false false
      return some (Address.pattern (← patternOf extended body ignoreCase hasLines))
  match text with
  | '/' :: _ => pattern 1 '/'
  | '\\' :: mark :: _ => pattern 2 mark
  | ['\\'] => do
    skip 1
    fail "unterminated address regex"
  | '$' :: _ =>
    skip 1
    return some .last
  | '+' :: _ =>
    skip 1
    skipBlanks
    return some (.further (← number))
  | '~' :: _ =>
    skip 1
    skipBlanks
    return some (.multiple (← number))
  | c :: _ =>
    if isDigit c then
      let n ← number
      skipBlanks
      if (← peek).head? = some '~' then
        skip 1
        skipBlanks
        let step ← number
        return some (if step = 0 then .line n else .every n step)
      return some (.line n)
    else return none
  | [] => return none

/-- Takes the end of a command. -/
def commandEnd : Reader Unit := do
  skipBlanks
  match (← peek).head? with
  | none | some '\x7d' | some '#' => return
  | some c =>
    skip 1
    if c ≠ '\n' && c ≠ ';' then fail "extra characters after command"

/-- The name of a label. -/
def label : Reader String := do
  skipBlanks
  let name := (← peek).takeWhile fun c => !ByteClass.isSpace c && c ≠ ';' && c ≠ '\x7d'
  skip name.length
  return String.ofList name

/-- The name of a file, up to the end of the line. -/
def fileName : Reader String := do
  skipBlanks
  let name := (← peek).takeWhile (· ≠ '\n')
  if name.isEmpty then fail "missing filename in r/R/w/W commands"
  skip (name.length + 1)
  return String.ofList name

/-- The pieces of what is put in the place of a match. -/
def newPieces (budget : Nat) (text : List Char) : List Char → List NewPiece
  | cs =>
    let done := if text.isEmpty then [] else [NewPiece.text text.reverse]
    match budget, cs with
    | 0, _ | _, [] => done
    | budget + 1, '\\' :: rest =>
      let piece := fun (p : NewPiece) => done ++ p :: newPieces budget [] (rest.drop 1)
      match ownEscape? rest with
      | some (c, n) => newPieces budget (c :: text) (rest.drop n)
      | none =>
        match rest with
        | [] => newPieces budget ('\\' :: text) []
        | 'n' :: more => newPieces budget ('\n' :: text) more
        | 'L' :: _ => piece (.change .lower)
        | 'U' :: _ => piece (.change .upper)
        | 'E' :: _ => piece (.change .keep)
        | 'l' :: _ => piece (.change .nextLower)
        | 'u' :: _ => piece (.change .nextUpper)
        | c :: more => if isDigit c then piece (.part (digitValue c)) else newPieces budget (c :: text) more
    | budget + 1, '&' :: rest => done ++ .part 0 :: newPieces budget [] rest
    | budget + 1, c :: rest => newPieces budget (c :: text) rest

/-- The letters behind a substitution. -/
structure SubstitutionFlags where
  everywhere : Bool
  printed : Bool
  number? : Option Nat
  ignoreCase : Bool
  hasLines : Bool
  file? : Option String

def substitutionFlags (budget : Nat) (f : SubstitutionFlags) : Reader SubstitutionFlags := do
  match budget with
  | 0 => return f
  | budget + 1 =>
    match (← peek).head? with
    | none | some '\x7d' | some '#' => return f
    | some c =>
      if isDigit c then
        if f.number?.isSome then
          skip 1
          fail "multiple number options to \x60s' command"
        let n ← number
        if n = 0 then fail "number option to \x60s' command may not be zero"
        substitutionFlags budget { f with number? := some n }
      else
        skip 1
        match c with
        | 'i' | 'I' => substitutionFlags budget { f with ignoreCase := true }
        | 'm' | 'M' => substitutionFlags budget { f with hasLines := true }
        | 'p' =>
          if f.printed then fail "multiple \x60p' options to \x60s' command"
          substitutionFlags budget { f with printed := true }
        | 'g' =>
          if f.everywhere then fail "multiple \x60g' options to \x60s' command"
          substitutionFlags budget { f with everywhere := true }
        | 'w' => return { f with file? := some (← fileName) }
        | '\n' | ';' => return f
        | '\r' =>
          if (← peek).head? = some '\n' then
            skip 1
            return f
          fail "unknown option to \x60s'"
        | c =>
          if isBlankChar c then substitutionFlags budget f
          else fail "unknown option to \x60s'"

/-- A substitution, from its mark on. -/
def substitution (extended : Bool) : Reader Edit := do
  let size := (← peek).length + 1
  let unterminated := fail "unterminated \x60s' command"
  let some mark ← next? | unterminated
  let some old ← upTo? mark true size [] | unterminated
  let some new ← upTo? mark false size [] | unterminated
  let f ← substitutionFlags size ⟨false, false, none, false, false, none⟩
  let pattern ← patternOf extended old f.ignoreCase f.hasLines
  let pieces := newPieces (2 * new.length + 2) [] new
  let highest := pieces.foldl (fun n p =>
    match p with
    | .part m => max n m
    | _ => n) 0
  if let some r := pattern.regex? then
    if r.groupCount < highest then
      fail ("invalid reference \\" ++ Decimal.natText highest ++ " on \x60s' command's RHS")
  return .substitute ⟨pattern, pieces, f.everywhere, f.number?.getD 1, f.printed, f.file?⟩

/-- A character of an exchange, and how many characters it takes. -/
def exchanged (budget : Nat) : List Char → List Char
  | cs =>
    match budget, cs with
    | 0, _ | _, [] => []
    | budget + 1, '\\' :: rest =>
      match ownEscape? rest, rest with
      | some (c, n), _ => c :: exchanged budget (rest.drop n)
      | none, 'n' :: more => '\n' :: exchanged budget more
      | none, c :: more => c :: exchanged budget more
      | none, [] => ['\\']
    | budget + 1, c :: rest => c :: exchanged budget rest

def exchange : Reader Edit := do
  let size := (← peek).length + 1
  let unterminated := fail "unterminated \x60y' command"
  let some mark ← next? | unterminated
  let some old ← upTo? mark false size [] | unterminated
  let some new ← upTo? mark false size [] | unterminated
  let old := exchanged (old.length + 1) old
  let new := exchanged (new.length + 1) new
  if old.length ≠ new.length then fail "strings for \x60y' command are different lengths"
  commandEnd
  return .exchange (old.zip new)

/-- The raw text of a command up to its end; `isOpen` says whether it goes on in the next
piece of the script. -/
def rawText (budget : Nat) (found : List Char) : Reader (List Char × Bool) := do
  match budget with
  | 0 => return (found.reverse, false)
  | budget + 1 =>
    match ← peek with
    | [] => return (('\n' :: found).reverse, false)
    | '\n' :: _ =>
      skip 1
      return (('\n' :: found).reverse, false)
    | ['\\'] =>
      skip 1
      return (('\n' :: found).reverse, true)
    | '\\' :: c :: _ =>
      skip 2
      rawText budget (c :: '\\' :: found)
    | c :: _ =>
      skip 1
      rawText budget (c :: found)

/-- A text without its backslashes. -/
def finishedText (budget : Nat) (cs : List Char) : List Char :=
  match budget, cs with
  | 0, _ | _, [] => []
  | budget + 1, '\\' :: rest =>
    match ownEscape? rest, rest with
    | some (c, n), _ => c :: finishedText budget (rest.drop n)
    | none, c :: more => c :: finishedText budget more
    | none, [] => ['\\']
  | budget + 1, c :: rest => c :: finishedText budget rest

/-- The text of a command. -/
def text (edit : List Char → Edit) : Reader Edit := do
  skipBlanks
  match ← peek with
  | [] => fail "expected \\ after \x60a', \x60c' or \x60i'"
  | ['\\'] =>
    skip 1
    modify fun p => { p with openText? := some [] }
    return edit []
  | '\\' :: rest =>
    let blanks := rest.takeWhile isBlankChar
    skip (if (rest.drop blanks.length).head? = some '\n' then blanks.length + 2 else 1)
    finish
  | _ => finish
where
  finish : Reader Edit := do
    let (raw, isOpen) ← rawText ((← peek).length + 2) []
    if isOpen then
      modify fun p => { p with openText? := some raw }
      return edit raw
    return edit (finishedText (raw.length + 1) raw)

/-- A command behind its addresses. -/
def edit (extended : Bool) (hasAddress hasRange : Bool) : Reader Edit := do
  let simple := fun (e : Edit) => do
    commandEnd
    return e
  let status := do
    if hasRange then fail "command only uses one address"
    skipBlanks
    let n ← number
    commandEnd
    pure n
  match ← next? with
  | none => fail "missing command"
  | some c =>
    match c with
    | '\x7b' =>
      modify fun p => { p with blocks := place { p with used := 0 } :: p.blocks }
      return .openBlock
    | '\x7d' =>
      match (← get).blocks with
      | [] => fail "unexpected \x60\x7d'"
      | _ :: blocks =>
        if hasAddress then fail "\x60\x7d' doesn't want any addresses"
        modify fun p => { p with blocks }
        simple .closeBlock
    | ':' =>
      if hasAddress then fail ": doesn't want any addresses"
      let name ← label
      if name.isEmpty then fail "\":\" lacks a label"
      return .label name
    | 'b' => return .jump (← endedLabel)
    | 't' => return .jumpIfReplaced (← endedLabel)
    | 'T' => return .jumpUnlessReplaced (← endedLabel)
    | 's' => substitution extended
    | 'y' => exchange
    | 'a' => text .append
    | 'i' => text .insert
    | 'c' => text .replace
    | 'd' => simple .delete
    | 'D' => simple .deleteFirst
    | 'p' => simple .print
    | 'P' => simple .printFirst
    | '=' => simple .printNumber
    | 'F' => simple .printName
    | 'l' =>
      skipBlanks
      let width? ← if (← peek).head?.any isDigit then some <$> number else pure none
      simple (.list width?)
    | 'n' => simple .next
    | 'N' => simple .join
    | 'h' => simple .hold
    | 'H' => simple .holdMore
    | 'g' => simple .fetch
    | 'G' => simple .fetchMore
    | 'x' => simple .swap
    | 'z' => simple .empty
    | 'q' => return .quit (← status)
    | 'Q' => return .quitSilently (← status)
    | 'r' => return .readFile (← fileName)
    | 'R' => return .readLine (← fileName)
    | 'w' => return .writeFile (← fileName)
    | 'W' => return .writeFirst (← fileName)
    | c => fail ("unknown command: \x60" ++ String.singleton c ++ "'")
where
  endedLabel : Reader String := do
    let name ← label
    skipBlanks
    match (← peek).head? with
    | some ';' | some '\n' => skip 1
    | _ => pure ()
    return name

/-- Skips a comment; one at the very start may say that the script is silent. -/
def comment (isFirst : Bool) : Reader Unit := do
  let body := (← peek).takeWhile (· ≠ '\n')
  if isFirst && body = ['#', 'n'] then modify fun p => { p with isSilent := true }
  skip (body.length + 1)

/-- Commands up to the end of a piece. -/
def commands (extended isFirst : Bool) (budget : Nat) : Reader Unit := do
  match budget with
  | 0 => return
  | budget + 1 =>
    skip ((← peek).takeWhile fun c => c = ';' || ByteClass.isSpace c).length
    let text ← peek
    if text.isEmpty then return
    else if text.head? = some '#' then
      comment (isFirst && (← get).used = 0)
      commands extended isFirst budget
    else
      let first? ← address? extended
      if first?.any (·.isRelative) then fail "invalid usage of +N or ~N as first address"
      let mut last? := none
      if first?.isSome then
        skipBlanks
        if (← peek).head? = some ',' then
          skip 1
          skipBlanks
          last? ← address? extended
          if last?.isNone then
            skip 1
            fail "unexpected \x60,'"
          skipBlanks
        if first? = some (.line 0) && !last?.any (·.isPattern) then
          skip 1
          fail "invalid usage of line address 0"
      let inverted := (← peek).head? = some '!'
      if inverted then
        skip 1
        skipBlanks
        if (← peek).head? = some '!' then
          skip 1
          fail "multiple \x60!'s"
      if first?.isSome && (← peek).head? = some '#' then
        skip 1
        fail "comments don't accept any addresses"
      if first?.isNone && (← peek).head? = some 'v' then
        version
      else
        let e ← edit extended first?.isSome last?.isSome
        modify fun p => { p with commands := p.commands.push ⟨first?, last?, inverted, e⟩ }
      commands extended isFirst budget
where
  /-- The command that asks for a version. -/
  version : Reader Unit := do
    skip 1
    let asked ← label
    let numbers := (splitOn '.' asked.toList).map Decimal.value
    if [4, 9] < numbers then fail "expected newer version of sed"

/-- Goes on with the text of the last command of the piece before. -/
def pendingText : Reader Unit := do
  if let some before := (← get).openText? then
    let (more, isOpen) ← rawText ((← peek).length + 2) []
    let raw := before ++ more
    let shown := if isOpen then raw else finishedText (raw.length + 1) raw
    modify fun p =>
      let commands := match p.commands.back? with
        | some c => p.commands.pop.push { c with edit := withText shown c.edit }
        | none => p.commands
      { p with commands, openText? := if isOpen then some raw else none }
where
  withText (shown : List Char) : Edit → Edit
    | .append _ => .append shown
    | .insert _ => .insert shown
    | .replace _ => .replace shown
    | e => e

/-- Reads the pieces of a script. -/
def pieces (extended : Bool) : (isFirst : Bool) → List ScriptPiece → Reader Unit
  | _, [] => return
  | isFirst, piece :: more => do
    modify fun p => { p with piece, rest := piece.text, used := 0, line := 1 }
    pendingText
    commands extended isFirst (piece.text.length + 1)
    pieces extended false more

end Reader

/-- Where jumps of a script lead that have no label. -/
def missingLabel? (commands : Array EditCommand) : Option String :=
  let labels := commands.toList.filterMap fun c =>
    match c.edit with
    | .label name => some name
    | _ => none
  commands.toList.findSome? fun c =>
    match c.edit with
    | .jump name | .jumpIfReplaced name | .jumpUnlessReplaced name =>
      if name.isEmpty || labels.contains name then none else some name
    | _ => none

/-- The script that pieces make up. -/
def Script.ofPieces (extended : Bool) (pieces : List ScriptPiece) : Except Mistake Script := do
  let start : Pending := ⟨⟨none, 1, []⟩, [], 0, 1, #[], [], none, false⟩
  let (_, p) ← (Reader.pieces extended true pieces).run start
  if let some place := p.blocks.head? then throw ⟨place ++ "unmatched \x60\x7b'", 1⟩
  if let some name := missingLabel? p.commands then
    throw ⟨"can't find label for jump to \x60" ++ name ++ "'", 4⟩
  return ⟨p.commands, p.isSilent⟩

end Mender.Shell.Editor
