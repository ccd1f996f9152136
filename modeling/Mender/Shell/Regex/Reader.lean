import Mender.Shell.Regex
import Mender.Text.CharClass
import Mender.Text.Search

/-!
# Reading regular expressions

Expressions are written in one of two ways. In the extended way the marks for parts,
choices and repetitions stand bare, in the basic way most of them stand behind a
backslash. A mark where it has nothing to work on is passed over or stands for itself,
or it is a mistake, as the dialect says.
-/

namespace Mender.Shell.Regex

open Text

structure Dialect where
  extended : Bool
  /-- Whether marks that have nothing to work on are no mistakes. -/
  isLenient : Bool
  deriving DecidableEq, Repr

/-- Why an expression cannot be read. -/
inductive Mistake where
  | bareBracket
  | openBracket
  | openPart
  | closedPart
  | openCount
  | badCount
  | trailingBackslash
  | badReference
  | badRange
  | badClass
  | badCollation
  | badRepetition
  | tooBig
  /-- A class without the brackets around it. -/
  | classAlone
  deriving DecidableEq, Repr

def Mistake.message : Mistake → String
  | .bareBracket => "Invalid regular expression"
  | .openBracket => "Unmatched [, [^, [:, [., or [="
  | .openPart => "Unmatched ( or \\("
  | .closedPart => "Unmatched ) or \\)"
  | .openCount => "Unmatched \\\x7b"
  | .badCount => "Invalid content of \\\x7b\\\x7d"
  | .trailingBackslash => "Trailing backslash"
  | .badReference => "Invalid back reference"
  | .badRange => "Invalid range end"
  | .badClass => "Invalid character class name"
  | .badCollation => "Invalid collation character"
  | .badRepetition => "Invalid preceding regular expression"
  | .tooBig => "Regular expression too big"
  | .classAlone => "character class syntax is [[:space:]], not [:space:]"

/-- What is left of an expression, and what was seen in it. -/
structure Pending where
  rest : List Char
  /-- How many parts were begun. -/
  begun : Nat
  /-- The parts that are closed. -/
  closed : List Nat
  hasClassAlone : Bool
  warnings : List String

abbrev Reader := StateT Pending (Except Mistake)

/-- A member of a set between brackets. -/
inductive Member where
  | char (c : Char)
  | ranges (rs : List ByteClass.Range)
  deriving DecidableEq, Repr

def Member.all : Member → List ByteClass.Range
  | .char c => [(c, c)]
  | .ranges rs => rs

namespace Reader

def peek : Reader (List Char) := return (← get).rest

def skip (n : Nat) : Reader Unit := modify fun p => { p with rest := p.rest.drop n }

def warn (text : String) : Reader Unit :=
  modify fun p => { p with warnings := p.warnings ++ [text] }

/-- A name up to a mark and a closing bracket. -/
def nameUpTo? (mark : Char) (before : List Char) : List Char → Option (List Char)
  | c :: rest =>
    if c = mark && rest.head? = some ']' then some before.reverse
    else nameUpTo? mark (c :: before) rest
  | [] => none

/-- The longest name of a class. -/
def maxNameSize : Nat := 31

/-- A member between brackets, and how many characters it takes. -/
def member (cs : List Char) : Except Mistake (Member × Nat) :=
  match cs with
  | [] => .error .openBracket
  | '[' :: mark :: rest =>
    if mark = '.' || mark = '=' || mark = ':' then
      match nameUpTo? mark [] rest with
      | none => .error .openBracket
      | some name =>
        if name.length > maxNameSize then .error .openBracket
        else if mark = ':' then
          match ByteClass.named? name with
          | some rs => .ok (.ranges rs, name.length + 4)
          | none => .error .badClass
        else
          match name with
          | [c] => .ok (if mark = '.' then .char c else .ranges [(c, c)], 5)
          | _ => .error .badCollation
    else .ok (.char '[', 1)
  | c :: _ => .ok (.char c, 1)

/-- The members between brackets and what follows them. -/
def bracket (budget : Nat) (isFirst : Bool) (found : List ByteClass.Range) (cs : List Char) :
    Except Mistake (List ByteClass.Range × List Char) := do
  match budget with
  | 0 => throw .openBracket
  | budget + 1 =>
    if cs.head? = some ']' && !isFirst then return (found, cs.drop 1)
    if cs.head? = some '-' && !isFirst && cs.length > 1 && cs[1]? ≠ some ']' then throw .badRange
    let (low, n) ← member cs
    let rest := cs.drop n
    match rest with
    | '-' :: next :: _ =>
      if next = ']' then bracket budget false (low.all ++ found) rest
      else
        let (high, m) ← member (rest.drop 1)
        match low, high with
        | .char low, .char high =>
          if high < low then throw .badRange
          bracket budget false ((low, high) :: found) (rest.drop (m + 1))
        | _, _ => throw .badRange
    | _ => bracket budget false (low.all ++ found) rest

/-- Whether brackets hold a class that lacks brackets of its own. -/
def isClassAlone (inside : List Char) : Bool :=
  inside.length > 2 && inside.head? = some ':' && inside.getLast? = some ':' &&
    !inside.contains '[' && !inside.contains '-' && inside.any (· ≠ ':')

/-- What ends a number in a count. -/
inductive CountEnd where
  | closed
  | comma
  | over
  deriving DecidableEq, Repr

/-- A number in a count. -/
inductive CountNumber where
  | missing
  | wrong
  | is (n : Nat)
  deriving DecidableEq, Repr

/-- A number in a count, what ends it and what follows. -/
def countNumber (closing : List Char) (budget : Nat) (n : CountNumber) (cs : List Char) :
    CountNumber × CountEnd × List Char :=
  match budget with
  | 0 => (.wrong, .over, [])
  | budget + 1 =>
    if startsWith closing cs then (n, .closed, cs.drop closing.length)
    else
      match cs with
      | [] => (.wrong, .over, [])
      | ',' :: rest => (n, .comma, rest)
      | c :: rest =>
        let n : CountNumber := match n with
          | .wrong => .wrong
          | .missing => if isDigit c then .is (digitValue c) else .wrong
          | .is m => if isDigit c then .is (10 * m + digitValue c) else .wrong
        countNumber closing budget n rest

/-- The highest count. -/
def maxCount : Nat := 32767

/-- The counts of a repetition and what follows its closing mark; nothing if the opening
mark stands for itself. -/
def counts (d : Dialect) (closing : List Char) (cs : List Char) :
    Except Mistake (Option (Nat × Option Nat × List Char)) := do
  let invalid := fun (ending : CountEnd) =>
    if d.extended && d.isLenient then .ok none
    else if ending = .over then .error .openCount
    else .error .badCount
  let (low, ending, rest) := countNumber closing (cs.length + 1) .missing cs
  let low ← match low with
    | .missing => if ending = .comma then pure (.is 0) else throw .badCount
    | low => pure low
  match low with
  | .is low =>
    let (high, ending, rest) :=
      if ending = .closed then (.is low, .closed, rest)
      else if ending = .comma then countNumber closing (rest.length + 1) .missing rest
      else (.wrong, ending, rest)
    match high with
    | .wrong => invalid ending
    | .missing =>
      if ending ≠ .closed then throw .badCount
      if low > maxCount then throw .tooBig
      return some (low, none, rest)
    | .is high =>
      if high < low || ending ≠ .closed then throw .badCount
      if high > maxCount then throw .tooBig
      return some (low, some high, rest)
  | _ => invalid ending

/-- What a repetition with counts makes of an expression. -/
def counted (r : Regex) (low : Nat) : Option Nat → Regex
  | none => if low = 0 then .many r else .follow (times r low) (.many r)
  | some high => .follow (times r low) (upTo r (high - low))

/-- What a letter behind a backslash stands for. -/
def escape? : Char → Option Regex
  | 'w' => some (.among false ByteClass.word)
  | 'W' => some (.among true ByteClass.word)
  | 's' => some (.among false ByteClass.space)
  | 'S' => some (.among true ByteClass.space)
  | 'b' => some (.edge .wordEdge)
  | 'B' => some (.edge .noWordEdge)
  | '<' => some (.edge .wordStart)
  | '>' => some (.edge .wordEnd)
  | '\x60' => some (.edge .textStart)
  | '\'' => some (.edge .textEnd)
  | _ => none

/-- A repetition in front: what it makes of an expression, and what follows it. -/
def repetition? (d : Dialect) (cs : List Char) :
    Except Mistake (Option ((Regex → Regex) × List Char)) := do
  let counted? := fun (closing rest : List Char) => do
    return (← counts d closing rest).map fun (low, high?, after) =>
      ((counted · low high?), after)
  let atLeastOne := fun r : Regex => Regex.follow r (.many r)
  match cs, d.extended with
  | '*' :: rest, _ => return some (.many, rest)
  | '+' :: rest, true => return some (atLeastOne, rest)
  | '?' :: rest, true => return some (optional, rest)
  | '\x7b' :: rest, true => counted? ['\x7d'] rest
  | '\\' :: '+' :: rest, false => return some (atLeastOne, rest)
  | '\\' :: '?' :: rest, false => return some (optional, rest)
  | '\\' :: '\x7b' :: rest, false => counted? ['\\', '\x7d'] rest
  | _, _ => return none

/-- Repetitions behind an expression. -/
def repetitions (d : Dialect) (budget : Nat) (r : Regex) : Reader Regex := do
  match budget with
  | 0 => return r
  | budget + 1 =>
    match ← repetition? d (← peek) with
    | none => return r
    | some (f, rest) =>
      modify fun p => { p with rest }
      repetitions d budget (f r)

/-- Whether a basic expression ends here, so that a dollar sign before is an edge. -/
def endsHere (cs : List Char) : Bool :=
  match cs with
  | [] | '\n' :: _ => true
  | '\\' :: c :: _ => c = ')' || c = '|'
  | _ => false

mutual

/-- Alternatives up to the end, or up to what closes the part that they stand in. -/
def alternatives (d : Dialect) (depth budget : Nat) : Reader Regex := do
  match budget with
  | 0 => throw .tooBig
  | budget + 1 =>
    let first ← row d depth budget true
    let more ←
      match ← peek with
      | '|' :: _ => if d.extended then some <$> skip 1 else pure none
      | '\\' :: '|' :: _ => if d.extended then pure none else some <$> skip 2
      | _ => pure none
    match more with
    | some () => return .either first (← alternatives d depth budget)
    | none => return first

/-- A row of repeated expressions; at its start and behind an edge there is nothing that
can be repeated. -/
def row (d : Dialect) (depth budget : Nat) (isBare : Bool) : Reader Regex := do
  match budget with
  | 0 => throw .tooBig
  | budget + 1 =>
    match ← piece? d depth budget isBare with
    | none => return .empty
    | some (r, isEdge) =>
      let r ← if isEdge then pure r else repetitions d (budget + 1) r
      return .follow r (← row d depth budget isEdge)

/-- A part between parentheses, behind the opening one. -/
def part (d : Dialect) (depth budget : Nat) : Reader Regex := do
  match budget with
  | 0 => throw .tooBig
  | budget + 1 =>
    let n := (← get).begun + 1
    modify fun p => { p with begun := n }
    let inner ← alternatives d (depth + 1) budget
    match ← peek with
    | ')' :: _ =>
      if !d.extended then throw .openPart
      skip 1
    | '\\' :: ')' :: _ =>
      if d.extended then throw .openPart
      skip 2
    | _ => throw .openPart
    modify fun p => { p with closed := n :: p.closed }
    return .group n inner

/-- One expression without its repetitions, and whether it is an edge. -/
def piece? (d : Dialect) (depth budget : Nat) (isBare : Bool) :
    Reader (Option (Regex × Bool)) := do
  match budget with
  | 0 => throw .tooBig
  | budget + 1 =>
    let plain := fun (n : Nat) (r : Regex) => do
      skip n
      return some (r, false)
    match ← peek with
    | [] => return none
    | '.' :: _ => plain 1 (.among true [])
    | '[' :: rest =>
      let negated := rest.head? = some '^'
      let inside := if negated then rest.drop 1 else rest
      if inside.isEmpty then throw .bareBracket
      let (ranges, rest) ← bracket (inside.length + 1) true [] inside
      let alone := isClassAlone (inside.take (inside.length - rest.length - 1))
      modify fun p => { p with rest, hasClassAlone := p.hasClassAlone || alone }
      return some (.among negated ranges, false)
    | '^' :: _ =>
      if d.extended || isBare then
        skip 1
        return some (.edge .lineStart, true)
      else plain 1 (one '^')
    | '$' :: rest =>
      if d.extended || endsHere rest then
        skip 1
        return some (.edge .lineEnd, true)
      else plain 1 (one '$')
    | '\\' :: c :: rest =>
      if !d.extended && c = '(' then
        skip 2
        return some (← part d depth budget, false)
      else if !d.extended && c = ')' then if depth = 0 then throw .closedPart else return none
      else if !d.extended && c = '|' then return none
      else if !d.extended && c = '\x7b' then
        if !d.isLenient then throw .badRepetition
        let _ ← counts d ['\\', '\x7d'] rest
        plain 2 (one c)
      else if '1' ≤ c && c ≤ '9' then
        if !(← get).closed.contains (digitValue c) then throw .badReference
        plain 2 (.back (digitValue c))
      else
        match escape? c with
        | some (.edge e) =>
          skip 2
          return some (.edge e, true)
        | some r => plain 2 r
        | none => plain 2 (one c)
    | ['\\'] => throw .trailingBackslash
    | c :: _ =>
      if !d.extended then plain 1 (one c)
      else if c = '(' then
        skip 1
        return some (← part d depth budget, false)
      else if c = ')' then
        if depth > 0 then return none
        else if d.isLenient then plain 1 (one c)
        else throw .closedPart
      else if c = '|' then return none
      else if isBare && (c = '*' || c = '+' || c = '?' || c = '\x7b') then
        if !d.isLenient then throw .badRepetition
        match ← repetition? d (← peek) with
        | none => plain 1 (one c)
        | some (_, rest) =>
          warn ((if c = '\x7b' then "\x7b...\x7d" else String.singleton c) ++
            " at start of expression")
          modify fun p => { p with rest }
          if rest.head? = some ')' then plain 1 (one ')')
          else piece? d depth budget isBare
      else plain 1 (one c)

end

end Reader

/-- Reads an expression that is a whole text; answers with warnings, too. -/
def ofPattern (d : Dialect) (cs : List Char) : Except Mistake (Regex × List String) := do
  let (r, left) ← (Reader.alternatives d 0 (4 * cs.length + 8)).run ⟨cs, 0, [], false, []⟩
  if !left.rest.isEmpty then throw .closedPart
  if left.hasClassAlone then throw .classAlone
  return (r, left.warnings)

end Mender.Shell.Regex
