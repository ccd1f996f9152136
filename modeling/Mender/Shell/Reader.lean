import Mender.Shell.Reader.Basic

/-!
# Reading scripts

A script is read line by line into commands, so that the lines before a mistake
can still be run. The functions for the levels of the grammar call each other;
their first argument bounds the depth of the calls, and the length of the script
is always enough for it.
-/

namespace Mender.Shell

open Text

namespace Reader

/-- Where a list of commands stands, and so where it ends. -/
inductive ListPlace where
  /-- On the lines of a script. -/
  | line
  /-- Inside a command, which needs one at least. -/
  | inner
  /-- Inside a command, and it may end. -/
  | mayEnd
  deriving DecidableEq, Repr

/-- The place behind the first command of a list. -/
def ListPlace.next : ListPlace → ListPlace
  | .line => .line
  | _ => .mayEnd

mutual

/-- Fails at the token in front, of which the word is read before. Behind some tokens a
keyword is a plain word. -/
def refuse {α : Type} (depth : Nat) (expected? : Option String) (asWord : Bool) : Reader α := do
  match depth with
  | 0 => unexpected none false
  | depth + 1 =>
    let source ← get
    if startsWord source.rest then
      let _ ← pieces depth endsWord
      let line := (← get).line
      throw (.unexpected (tokenName asWord source.rest) expected?, line)
    else unexpected expected? asWord

/-- The pieces of a word up to an unquoted character at which it ends. -/
def pieces (depth : Nat) (stop : Char → Bool) : Reader Word := do
  match depth with
  | 0 => unexpected none false
  | depth + 1 =>
    match ← peek with
    | [] => return []
    | '\\' :: '\n' :: _ =>
      skip 2
      pieces depth stop
    | '\\' :: c :: _ =>
      skip 2
      return .cons (.text [c] true) (← pieces depth stop)
    | '\'' :: rest =>
      let inside := rest.takeWhile (· ≠ '\'')
      if inside.length = rest.length then failAtEnd .openQuote
      skip (inside.length + 2)
      return .cons (.text inside true) (← pieces depth stop)
    | '"' :: _ =>
      skip 1
      let inside ← quotedPieces depth .quotes false
      skip 1
      let rest ← pieces depth stop
      match inside with
      | [.parameter "@" .value _] => return inside ++ rest
      | _ => return .cons (.text [] true) (inside ++ rest)
    | '$' :: _ => return (← dollar depth none) :: (← pieces depth stop)
    | '\x60' :: _ => return (← oldOutput depth false) :: (← pieces depth stop)
    | text =>
      let run := text.takeWhile fun c => !stop c && !isActive c
      if run.isEmpty then
        match text with
        | '\\' :: _ =>
          skip 1
          return [.text ['\\'] true]
        | _ => return []
      else
        skip run.length
        return .cons (.text run false) (← pieces depth stop)

/-- The pieces of a quoted text up to its end. In braces, quotes only keep the closing
brace from ending the text while they are open. -/
def quotedPieces (depth : Nat) (enclosure : Enclosure) (isOpen : Bool) : Reader Word := do
  match depth with
  | 0 => unexpected none false
  | depth + 1 =>
    let text ← peek
    if enclosure.ends isOpen text then return []
    else
      match text with
      | [] => failAtEnd (if enclosure.isHere then .missing "\x7d" else .openQuote)
      | '\\' :: '\n' :: _ =>
        skip 2
        quotedPieces depth enclosure isOpen
      | '\\' :: c :: _ =>
        skip 2
        let cs := if enclosure.escapes c then [c] else ['\\', c]
        return .cons (.text cs true) (← quotedPieces depth enclosure isOpen)
      | '"' :: _ =>
        skip 1
        if enclosure.hasBraces then quotedPieces depth enclosure (!isOpen)
        else return .cons (.text ['"'] true) (← quotedPieces depth enclosure isOpen)
      | '$' :: _ =>
        return (← dollar depth (some enclosure)) :: (← quotedPieces depth enclosure isOpen)
      | '\x60' :: _ =>
        return (← oldOutput depth true) :: (← quotedPieces depth enclosure isOpen)
      | c :: rest =>
        let run := c :: rest.takeWhile fun c =>
          c ≠ '\\' && c ≠ '"' && c ≠ '$' && c ≠ '\x60' && c ≠ '\x7d'
        skip run.length
        return .cons (.text run true) (← quotedPieces depth enclosure isOpen)

/-- The pieces of an arithmetic expression up to its end, in which some parentheses are
open. -/
def expressionPieces (depth : Nat) (opened : Nat) : Reader Word := do
  match depth with
  | 0 => unexpected none false
  | depth + 1 =>
    match ← peek with
    | [] => failAtEnd (.missing "))")
    | '\\' :: '\n' :: _ =>
      skip 2
      expressionPieces depth opened
    | '\\' :: c :: _ =>
      skip 2
      let cs := if Enclosure.quotes.escapes c then [c] else ['\\', c]
      return .cons (.text cs true) (← expressionPieces depth opened)
    | '(' :: _ =>
      skip 1
      return .cons (.text ['('] true) (← expressionPieces depth (opened + 1))
    | ')' :: rest =>
      if opened = 0 && rest.head? = some ')' then
        skip 2
        return []
      else
        skip 1
        return .cons (.text [')'] true) (← expressionPieces depth (opened - 1))
    | '$' :: _ => return (← dollar depth (some .quotes)) :: (← expressionPieces depth opened)
    | '\x60' :: _ => return (← oldOutput depth true) :: (← expressionPieces depth opened)
    | c :: rest =>
      let run := c :: rest.takeWhile fun c =>
        c ≠ '\\' && c ≠ '(' && c ≠ ')' && c ≠ '$' && c ≠ '\x60'
      skip run.length
      return .cons (.text run true) (← expressionPieces depth opened)

/-- What a dollar sign starts; `around?` says in what it is quoted, if it is. -/
def dollar (depth : Nat) (around? : Option Enclosure) : Reader Piece := do
  match depth with
  | 0 => unexpected none false
  | depth + 1 =>
    let quoted := around?.isSome
    match ← peek with
    | '$' :: '(' :: '(' :: _ =>
      skip 3
      return .arithmetic (← expressionPieces depth 0) quoted
    | '$' :: '(' :: _ =>
      skip 2
      let commands ← list depth .mayEnd
      skipLines
      if (← peek).head? ≠ some ')' then refuse depth (some "\")\"") false
      skip 1
      return .output (.sequence commands) quoted
    | '$' :: '\x7b' :: _ =>
      skip 2
      braced depth around?
    | '$' :: c :: _ =>
      if isNameStart c then
        skip 1
        return .parameter (← name) .value quoted
      else if isDigit c || isSpecial c then
        skip 2
        return .parameter (String.singleton c) .value quoted
      else
        skip 1
        return .text ['$'] quoted
    | _ =>
      skip 1
      return .text ['$'] quoted

/-- The word in the use of a parameter behind its mark, and the brace that closes it. A
pattern is never quoted from outside. -/
def useWord (depth : Nat) (around? : Option Enclosure) (passed : Nat) : Reader Word := do
  match depth with
  | 0 => unexpected none false
  | depth + 1 =>
    skip passed
    let word ← match around? with
      | none => do
        let word ← pieces depth (· = '\x7d')
        if (← peek).isEmpty then failAtEnd (.missing "\x7d")
        pure word
      | some enclosure => quotedPieces depth enclosure.withBraces false
    skip 1
    return word

/-- A parameter between braces. -/
def braced (depth : Nat) (around? : Option Enclosure) : Reader Piece := do
  match depth with
  | 0 => unexpected none false
  | depth + 1 =>
    let (name, isLength) ← parameterName
    let text ← peek
    let parameter := fun use => Piece.parameter name use around?.isSome
    let unknown := fun passed : Nat => do
      let _ ← useWord depth around? passed
      return parameter .unknown
    if name.isEmpty then unknown 0
    else if isLength then
      if text.head? = some '\x7d' then
        skip 1
        return parameter .length
      else unknown 0
    else
      let colon := text.head? = some ':'
      let passed := if colon then 2 else 1
      match if colon then text.drop 1 else text with
      | '\x7d' :: _ =>
        if colon then
          let _ ← useWord depth around? passed
        else skip 1
        return parameter .value
      | '-' :: _ => return parameter (.orElse colon (← useWord depth around? passed))
      | '=' :: _ => return parameter (.orAssign colon (← useWord depth around? passed))
      | '?' :: _ => return parameter (.orFail colon (← useWord depth around? passed))
      | '+' :: _ => return parameter (.instead colon (← useWord depth around? passed))
      | _ =>
        match trimUse text with
        | some (n, side, longest) => return parameter (.trim side longest (← useWord depth none n))
        | none => unknown passed

/-- A command between backquotes. -/
def oldOutput (depth : Nat) (quoted : Bool) : Reader Piece := do
  match depth with
  | 0 => unexpected none false
  | depth + 1 =>
    skip 1
    match backquoted quoted [] (← peek) with
    | some (inside, n) =>
      let commands ← within 1 inside (list depth .mayEnd)
      skip n
      return .output (.sequence commands) quoted
    | none => failAtEnd .openBackquote

/-- The target of a redirection behind its mark of `passed` characters. -/
def target (depth passed descriptor : Nat) (kind : RedirectKind) : Reader (Option Redirect) := do
  match depth with
  | 0 => unexpected none false
  | depth + 1 =>
    skip passed
    skipBlanks
    if !startsWord (← peek) then unexpected none true
    return some (.mk descriptor kind (← pieces depth endsWord))

/-- A here-document behind its mark: its lines are taken out of the text that follows. A
mistake at the end of the document is noticed behind the closing mark. -/
def here (depth passed descriptor : Nat) (stripTabs : Bool) : Reader (Option Redirect) := do
  match depth with
  | 0 => unexpected none false
  | depth + 1 =>
    skip passed
    skipBlanks
    if !startsWord (← peek) then unexpected none true
    let mark ← pieces depth endsWord
    let source ← get
    let line := source.rest.takeWhile (· ≠ '\n')
    let after := source.rest.drop line.length
    let (body, lines, rest) := hereLines stripTabs mark.unquoted (after.length + 1) (after.drop 1)
    set { source with rest := line ++ after.take 1 ++ rest, taken := source.taken + lines }
    if mark.isQuoted then return some (.mk descriptor .here [.text body true])
    else
      let first := source.line + source.taken + 1
      let count := body.count '\n'
      let word ← tryCatch (within first body (quotedPieces depth .document false)) fun (m, line) =>
        throw (m, if line = first + count && count < lines then line + 1 else line)
      return some (.mk descriptor .here word)

/-- A redirection, if one is in front. -/
def redirect? (depth : Nat) : Reader (Option Redirect) := do
  match depth with
  | 0 => unexpected none false
  | depth + 1 =>
    let text ← peek
    let digits := (text.take 1).takeWhile isDigit
    let n := digits.length
    let number := fun standard : Nat =>
      if digits.isEmpty then standard else digits.foldl (fun n c => 10 * n + digitValue c) 0
    match text.drop n with
    | '>' :: '>' :: _ => target depth (n + 2) (number 1) .append
    | '>' :: '&' :: _ => target depth (n + 2) (number 1) .duplicate
    | '>' :: '|' :: _ => target depth (n + 2) (number 1) .replace
    | '>' :: _ => target depth (n + 1) (number 1) .write
    | '<' :: '<' :: '-' :: _ => here depth (n + 3) (number 0) true
    | '<' :: '<' :: _ => here depth (n + 2) (number 0) false
    | '<' :: '&' :: _ => target depth (n + 2) (number 0) .duplicate
    | '<' :: '>' :: _ => target depth (n + 2) (number 0) .update
    | '<' :: _ => target depth (n + 1) (number 0) .read
    | _ => return none

/-- All redirections in front. -/
def redirects (depth : Nat) : Reader (List Redirect) := do
  match depth with
  | 0 => unexpected none false
  | depth + 1 =>
    skipBlanks
    match ← redirect? depth with
    | some r => return r :: (← redirects depth)
    | none => return []

/-- The rest of a simple command; assignments may stand in front of the words only. Behind
a single word a parenthesis begins a function. -/
def simpleParts (depth : Nat) (words : Nat) (isAlone : Bool) :
    Reader (List (String × Word) × List Word × List Redirect) := do
  match depth with
  | 0 => unexpected none false
  | depth + 1 =>
    skipBlanks
    if words = 0 then resolveAliases
    match ← redirect? depth with
    | some r =>
      let (assignments, words, rs) ← simpleParts depth words false
      return (assignments, words, r :: rs)
    | none =>
      let text ← peek
      let key := text.takeWhile isNameChar
      let isAssignment := words = 0 && isName key && (text.drop key.length).head? = some '='
      if text.isEmpty || (text.head?.any endsWord) then return ([], [], [])
      else if isAssignment then
        skip (key.length + 1)
        let value ← pieces depth endsWord
        let (assignments, words, rs) ← simpleParts depth words false
        return ((String.ofList key, value) :: assignments, words, rs)
      else
        let word ← pieces depth endsWord
        skipBlanks
        if words = 0 && isAlone && (← peek).head? = some '(' then return ([], [word], [])
        let (assignments, words, rs) ← simpleParts depth (words + 1) isAlone
        return (assignments, word :: words, rs)

/-- The words of a loop up to the end of the line. -/
def loopWords (depth : Nat) : Reader (List Word) := do
  match depth with
  | 0 => unexpected none false
  | depth + 1 =>
    skipBlanks
    let text ← peek
    if startsWord text then
      let word ← pieces depth endsWord
      return word :: (← loopWords depth)
    else return []

/-- The patterns of a case up to the closing parenthesis. Any other token may stand for a
pattern, which matches nothing. -/
def patterns (depth : Nat) : Reader (List Word) := do
  match depth with
  | 0 => unexpected none false
  | depth + 1 =>
    skipBlanks
    let text ← peek
    let word ←
      if startsWord text then pieces depth endsWord
      else do
        skip (tokenLength text)
        pure [.text ['\x00'] true]
    skipBlanks
    let text ← peek
    if text.head? = some '|' && !startsWith ['|', '|'] text then
      skip 1
      return word :: (← patterns depth)
    else if text.head? = some ')' then
      skip 1
      return [word]
    else refuse depth (some "\")\"") true

/-- The cases of a selection. -/
def cases (depth : Nat) : Reader (List (List Word × Command)) := do
  match depth with
  | 0 => unexpected none false
  | depth + 1 =>
    skipLines
    if isKeyword "esac" (← peek) then
      skip 4
      return []
    else
      if (← peek).head? = some '(' then skip 1
      let found ← patterns depth
      let body ← list depth .mayEnd
      skipLines
      let text ← peek
      if startsWith [';', ';'] text then skip 2
      else if !isKeyword "esac" text then refuse depth (some "\";;\"") false
      return (found, .sequence body) :: (← cases depth)

/-- Takes a keyword that has to stand here. -/
def keyword (depth : Nat) (word : String) : Reader Unit := do
  match depth with
  | 0 => unexpected none false
  | depth + 1 =>
    skipLines
    if isKeyword word (← peek) then skip word.length
    else refuse depth (some ("\"" ++ word ++ "\"")) false

/-- What follows the condition of a choice. -/
def branches (depth : Nat) : Reader Command := do
  match depth with
  | 0 => unexpected none false
  | depth + 1 =>
    let condition ← list depth .inner
    keyword depth "then"
    let yes ← list depth .inner
    skipLines
    let text ← peek
    if isKeyword "elif" text then
      skip 4
      return .choice (.sequence condition) (.sequence yes) (← branches depth)
    else if isKeyword "else" text then
      skip 4
      let no ← list depth .inner
      keyword depth "fi"
      return .choice (.sequence condition) (.sequence yes) (.sequence no)
    else
      keyword depth "fi"
      return .choice (.sequence condition) (.sequence yes) (.sequence [])

def loopBody (depth : Nat) : Reader Command := do
  match depth with
  | 0 => unexpected none false
  | depth + 1 =>
    keyword depth "do"
    let body ← list depth .inner
    keyword depth "done"
    return .sequence body

/-- What follows the keyword of a loop over words. -/
def forLoop (depth : Nat) : Reader Command := do
  match depth with
  | 0 => unexpected none false
  | depth + 1 =>
    let line := (← get).line
    skipBlanks
    let text ← peek
    let key := plainWord text
    if !isName key then
      if startsWord text then
        let _ ← pieces depth endsWord
      fail .badLoopVariable
    skip key.length
    skipLines
    if isKeyword "in" (← peek) then
      skip 2
      let words ← loopWords depth
      skipBlanks
      let text ← peek
      if (text.head? = some ';' && !startsWith [';', ';'] text) || text.head? = some '\n' then skip 1
      else refuse depth none true
      return .forEach line (String.ofList key) (some words) (← loopBody depth)
    else
      let text ← peek
      if text.head? = some ';' && !startsWith [';', ';'] text then skip 1
      return .forEach line (String.ofList key) none (← loopBody depth)

/-- A command that is made of others, if one is in front. -/
def compound? (depth : Nat) : Reader (Option Command) := do
  match depth with
  | 0 => unexpected none false
  | depth + 1 =>
    let text ← peek
    let line := (← get).line
    if text.head? = some '(' then
      skip 1
      let body ← list depth .inner
      skipLines
      if (← peek).head? ≠ some ')' then refuse depth (some "\")\"") false
      skip 1
      return some (.subshell line (.sequence body))
    else if isKeyword "\x7b" text then
      skip 1
      let body ← list depth .inner
      keyword depth "\x7d"
      return some (.sequence body)
    else if isKeyword "if" text then
      skip 2
      return some (← branches depth)
    else if isKeyword "while" text || isKeyword "until" text then
      skip 5
      let condition ← list depth .inner
      return some (.loop (isKeyword "until" text) (.sequence condition) (← loopBody depth))
    else if isKeyword "for" text then
      skip 3
      return some (← forLoop depth)
    else if isKeyword "case" text then
      skip 4
      skipBlanks
      if !startsWord (← peek) then unexpected (some "word") true
      let word ← pieces depth endsWord
      keyword depth "in"
      return some (.select line word (← cases depth))
    else return none

/-- The definition of a function, behind the word that names it. -/
def definition (depth : Nat) (word : Word) : Reader Command := do
  match depth with
  | 0 => unexpected none false
  | depth + 1 =>
    skip 1
    skipBlanks
    if (← peek).head? ≠ some ')' then refuse depth (some "\")\"") true
    skip 1
    let key := (word.plainText?.getD "")
    if !isName key.toList || specialBuiltins.contains key then fail .badFunctionName
    skipLines
    return .define key (← command depth)

/-- One command. -/
def command (depth : Nat) : Reader Command := do
  match depth with
  | 0 => unexpected none false
  | depth + 1 =>
    skipBlanks
    resolveAliases
    let line := (← get).line
    match ← compound? depth with
    | some inner =>
      let rs ← redirects depth
      return if rs.isEmpty then inner else .redirected line inner rs
    | none =>
      let text ← peek
      if keywords.any (isKeyword · text) then refuse depth none false
      else
        match ← simpleParts depth 0 true with
        | ([], [], []) => refuse depth none false
        | ([], [word], []) =>
          if (← peek).head? = some '(' then definition depth word
          else return .simple line [] [word] []
        | (assignments, words, rs) => return .simple line assignments words rs

/-- The further commands of a pipe. -/
def pipeTail (depth : Nat) (first : Command) : Reader Command := do
  match depth with
  | 0 => unexpected none false
  | depth + 1 =>
    skipBlanks
    let text ← peek
    if text.head? = some '|' && !startsWith ['|', '|'] text then
      skip 1
      skipLines
      let second ← command depth
      return .pipe first (← pipeTail depth second)
    else return first

/-- Commands in a pipe, perhaps negated. -/
def pipeline (depth : Nat) : Reader Command := do
  match depth with
  | 0 => unexpected none false
  | depth + 1 =>
    skipBlanks
    let isNegated := isKeyword "!" (← peek)
    if isNegated then skip 1
    let first ← command depth
    let all ← pipeTail depth first
    return if isNegated then .negation all else all

/-- The further pipes of a chain of conditions. -/
def chainTail (depth : Nat) (first : Command) : Reader Command := do
  match depth with
  | 0 => unexpected none false
  | depth + 1 =>
    skipBlanks
    let text ← peek
    if startsWith ['&', '&'] text then
      skip 2
      skipLines
      let second ← pipeline depth
      chainTail depth (.both first second)
    else if startsWith ['|', '|'] text then
      skip 2
      skipLines
      let second ← pipeline depth
      chainTail depth (.either first second)
    else return first

/-- A list of commands up to what closes it, or up to the end of the line. -/
def list (depth : Nat) (place : ListPlace) : Reader (List Command) := do
  match depth with
  | 0 => unexpected none false
  | depth + 1 =>
    if place = .line then skipBlanks else skipLines
    let text ← peek
    if text.isEmpty || (place = .line && text.head? = some '\n') ||
        (place = .mayEnd && atCloser text) then
      return []
    else
      let first ← pipeline depth
      let first ← chainTail depth first
      skipBlanks
      match ← peek with
      | [] => return [first]
      | ';' :: ';' :: _ => if place = .line then refuse depth none false else return [first]
      | ';' :: _ =>
        skip 1
        return first :: (← list depth place.next)
      | '&' :: _ =>
        skip 1
        return .background first :: (← list depth place.next)
      | '\n' :: _ =>
        if place = .line then return [first] else return first :: (← list depth place.next)
      | _ => if place = .line then refuse depth none false else return [first]

end

/-- How deep the functions above may call each other on a text. -/
def depthFor (text : List Char) : Nat := 12 * text.length + 40

/-- The word that a text stands for in which only expansions are special; a text that
cannot be read stands for itself. -/
def expandableWord (text : List Char) : Word :=
  match (quotedPieces (depthFor text) .document false).run ⟨text, 1, 0, []⟩ with
  | .ok (word, _) => word
  | .error _ => [.text text true]

/-- The commands on the next lines of a script that make up a whole, and what follows
them; nothing if the script is over. -/
def next? (text : ScriptText) : Except (Mistake × Nat) (Option (Command × ScriptText)) := do
  let (start, _) ← (skipLines *> get).run text
  if start.rest.isEmpty then return none
  let (commands, after) ← (list (depthFor start.rest) .line).run start
  return some (.sequence commands, after)

end Reader

end Mender.Shell
