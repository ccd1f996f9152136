import Mender.Shell.Syntax
import Mender.Text.CharClass
import Mender.Text.Search

/-!
# Places in scripts

A reader walks through the text of a script and knows the line that it is in. Here
is what the grammar is built from: blanks, keywords and the mistakes that a script
can have.
-/

namespace Mender.Shell

open Text

/-- Why a script cannot be read. -/
inductive Mistake where
  | openQuote
  | openBackquote
  /-- An expansion that is not closed. -/
  | missing (closing : String)
  | badLoopVariable
  | badFunctionName
  | unexpected (token : String) (expected? : Option String)
  deriving DecidableEq, Repr

namespace Mistake

def detail : Mistake → String
  | .openQuote => "Unterminated quoted string"
  | .openBackquote => "EOF in backquote substitution"
  | .missing closing => "Missing '" ++ closing ++ "'"
  | .badLoopVariable => "Bad for loop variable"
  | .badFunctionName => "Bad function name"
  | .unexpected token none => token ++ " unexpected"
  | .unexpected token (some expected) => token ++ " unexpected (expecting " ++ expected ++ ")"

def message (m : Mistake) : String := "Syntax error: " ++ m.detail

end Mistake

/-- The rest of a script and the number of its first line. -/
structure ScriptText where
  rest : List Char
  line : Nat
  /-- How many lines behind the current one are taken out of the text already. -/
  taken : Nat
  /-- Words that stand for texts where a command might start. -/
  aliases : List (String × String)

abbrev Reader := StateT ScriptText (Except (Mistake × Nat))

/-- Commands of the shell whose failure ends it. -/
def specialBuiltins : List String :=
  [":", ".", "break", "continue", "eval", "exec", "exit", "export", "local", "readonly", "return",
   "set", "shift", "times", "trap", "unset"]

/-- What quoted text stands in. -/
inductive Enclosure where
  | quotes
  /-- A here-document. -/
  | document
  | bracesInQuotes
  | bracesInDocument
  deriving DecidableEq, Repr

namespace Enclosure

def hasBraces : Enclosure → Bool
  | .bracesInQuotes | .bracesInDocument => true
  | _ => false

def isHere : Enclosure → Bool
  | .document | .bracesInDocument => true
  | _ => false

/-- Braces that are opened there. -/
def withBraces (e : Enclosure) : Enclosure := if e.isHere then .bracesInDocument else .bracesInQuotes

/-- Whether a quoted text ends in front of some characters; in braces quotes may be open. -/
def ends (e : Enclosure) (isOpen : Bool) (text : List Char) : Bool :=
  match e, text.head? with
  | .quotes, some '"' | .document, none => true
  | .quotes, _ | .document, _ => false
  | _, some '\x7d' => !isOpen
  | _, _ => false

/-- Whether a backslash takes its meaning away from a character. -/
def escapes (e : Enclosure) (c : Char) : Bool :=
  c = '\\' || c = '$' || c = '\x60' || (c = '"' && e ≠ .document) || (c = '\x7d' && e.hasBraces)

end Enclosure

namespace Reader

def peek : Reader (List Char) := return (← get).rest

/-- Moves on behind some characters. -/
def skip (n : Nat) : Reader Unit := do
  let source ← get
  let lines := (source.rest.take n).count '\n'
  let rest := source.rest.drop n
  if lines = 0 then set { source with rest }
  else set { source with rest, line := source.line + lines + source.taken, taken := 0 }

/-- Reads a part of the script that stands by itself and begins at some line. -/
def within {α : Type} (line : Nat) (text : List Char) (reader : Reader α) : Reader α := do
  let (result, _) ← reader.run ⟨text, line, 0, (← get).aliases⟩
  return result

def isBlankChar (c : Char) : Bool := c = ' ' || c = '\t'

/-- How many characters of blanks, joined lines and comments are in front. -/
def gap (atWord : Bool) : List Char → Nat
  | '\\' :: '\n' :: rest => 2 + gap atWord rest
  | '#' :: rest => if atWord then 1 + (rest.takeWhile (· ≠ '\n')).length else 0
  | c :: rest => if isBlankChar c then 1 + gap true rest else 0
  | [] => 0

def skipBlanks : Reader Unit := do skip (gap true (← peek))

/-- How many characters of blanks and line ends are in front. -/
def wideGap (budget : Nat) (text : List Char) : Nat :=
  match budget with
  | 0 => 0
  | budget + 1 =>
    let n := gap true text
    match text.drop n with
    | '\n' :: rest => n + 1 + wideGap budget rest
    | _ => n

def skipLines : Reader Unit := do
  let text ← peek
  skip (wideGap text.length text)

/-- A character that ends a word. -/
def endsWord (c : Char) : Bool :=
  isBlankChar c || c = '\n' || c = ';' || c = '&' || c = '|' || c = '<' || c = '>' || c = '(' ||
    c = ')'

/-- A character that is more than itself in a word. -/
def isActive (c : Char) : Bool := c = '\\' || c = '\'' || c = '"' || c = '$' || c = '\x60'

/-- The word in front, if nothing in it is quoted or expanded. -/
def plainWord (text : List Char) : List Char :=
  let word := text.takeWhile (!endsWord ·)
  if word.any isActive then [] else word

def isNameStart (c : Char) : Bool := isAsciiLetter c || c = '_'

def isNameChar (c : Char) : Bool := isNameStart c || isDigit c

def isName (cs : List Char) : Bool := cs.head?.any isNameStart && cs.all isNameChar

/-- Words that end a list of commands where a command might start. -/
def closers : List String := ["then", "else", "elif", "fi", "do", "done", "esac", "\x7d"]

/-- Words with a meaning of their own where a command might start. -/
def keywords : List String :=
  closers ++ ["!", "case", "for", "if", "in", "until", "while", "\x7b"]

def isKeyword (word : String) (text : List Char) : Bool := plainWord text = word.toList

def atCloser (text : List Char) : Bool :=
  text.isEmpty || text.head? = some ')' || startsWith [';', ';'] text ||
    closers.any (isKeyword · text)

/-- Marks between words, the longest first. -/
def marks : List String := [";;", "&&", "||", ";", "&", "|", "(", ")"]

/-- Marks of redirections, the longest first. -/
def redirectMarks : List String := ["<<-", "<<", "<>", "<&", "<", ">>", ">|", ">&", ">"]

/-- Whether a redirection is in front. -/
def startsRedirect (text : List Char) : Bool :=
  (if text.head?.any isDigit then text.drop 1 else text).head?.any fun c => c = '<' || c = '>'

/-- Whether a word is in front. -/
def startsWord (text : List Char) : Bool :=
  text.head?.any (!endsWord ·) && !startsRedirect text

/-- What error messages call the token in front. -/
def tokenName (asWord : Bool) (text : List Char) : String :=
  let quoted := fun word => "\"" ++ word ++ "\""
  match text with
  | [] => "end of file"
  | '\n' :: _ => "newline"
  | _ =>
    if startsRedirect text then "redirection"
    else
      match marks.find? fun m => startsWith m.toList text with
      | some mark => quoted mark
      | none =>
        let found? := if asWord then none else keywords.find? (isKeyword · text)
        (found?.map quoted).getD "word"

/-- How many characters the token in front takes that is no word. -/
def tokenLength (text : List Char) : Nat :=
  let digits := (text.take 1).takeWhile isDigit
  let text := text.drop digits.length
  match (marks ++ redirectMarks ++ ["\n"]).find? fun m => startsWith m.toList text with
  | some mark => digits.length + mark.length
  | none => 0

/-- A text in which the word in front, where a command might start, is replaced by what
it stands for. Behind a text that ends in a blank the next word is looked at, too. -/
def withoutAliases (aliases : List (String × String)) (budget : Nat) (used : List String)
    (text : List Char) : List Char :=
  match budget with
  | 0 => text
  | budget + 1 =>
    let blanks := text.takeWhile isBlankChar
    let text' := text.drop blanks.length
    let word := String.ofList (plainWord text')
    if used.contains word || keywords.contains word then text
    else
      match aliases.lookup word with
      | none => text
      | some value =>
        let after := text'.drop word.length
        let after := if value.toList.getLast?.any isBlankChar then
            withoutAliases aliases budget [] after else after
        blanks ++ withoutAliases aliases budget (word :: used) (value.toList ++ after)

/-- Replaces the word in front by what it stands for. -/
def resolveAliases : Reader Unit :=
  modify fun s =>
    if s.aliases.isEmpty then s
    else { s with rest := withoutAliases s.aliases 20 [] s.rest }

def fail {α : Type} (m : Mistake) : Reader α := do
  let source ← get
  throw (m, if source.rest.head? = some '\n' then source.line + 1 else source.line)

/-- Fails because the text is over. -/
def failAtEnd {α : Type} (m : Mistake) : Reader α := do
  let source ← get
  throw (m, source.line + source.rest.count '\n')

/-- Fails at the token in front. -/
def unexpected {α : Type} (expected? : Option String) (asWord : Bool) : Reader α := do
  fail (.unexpected (tokenName asWord (← peek)) expected?)

/-- Takes a name. -/
def name : Reader String := do
  let found := (← peek).takeWhile isNameChar
  skip found.length
  return String.ofList found

/-- The text between backquotes, with the backslashes inside resolved, and how many
characters it takes with the closing one. -/
def backquoted (quoted : Bool) (found : List Char) : List Char → Option (List Char × Nat)
  | [] => none
  | '\x60' :: _ => some (found.reverse, 1)
  | '\\' :: '\n' :: rest => (backquoted quoted found rest).map fun (text, n) => (text, n + 2)
  | '\\' :: c :: rest =>
    let isEscaped := c = '\x60' || c = '\\' || c = '$' || (quoted && c = '"')
    let cs := if isEscaped then [c] else [c, '\\']
    (backquoted quoted (cs ++ found) rest).map fun (text, n) => (text, n + 2)
  | c :: rest => (backquoted quoted (c :: found) rest).map fun (text, n) => (text, n + 1)

/-- The lines of a here-document, how many lines it takes with its mark, and what follows
it. -/
def hereLines (stripTabs : Bool) (mark : List Char) (budget : Nat) (text : List Char) :
    List Char × Nat × List Char :=
  match budget with
  | 0 => ([], 0, text)
  | budget + 1 =>
    let line := text.takeWhile (· ≠ '\n')
    let after := text.drop line.length
    let shown := if stripTabs then line.dropWhile (· = '\t') else line
    if text.isEmpty then ([], 0, [])
    else if shown = mark then ([], 1, after.drop 1)
    else
      match after with
      | [] => (shown, 0, [])
      | _ :: after =>
        let (lines, count, rest) := hereLines stripTabs mark budget after
        (shown ++ '\n' :: lines, count + 1, rest)

/-- A special parameter. -/
def isSpecial (c : Char) : Bool := ['@', '*', '#', '?', '-', '$', '!'].contains c

/-- The name of the parameter in front, between braces, and whether its length is meant.
The name is empty if none is there. -/
def parameterName : Reader (String × Bool) := do
  let text ← peek
  let named := fun text : List Char =>
    if text.head?.any isDigit then text.takeWhile isDigit
    else if text.head?.any isNameStart then text.takeWhile isNameChar
    else (text.take 1).takeWhile isSpecial
  let (size, key, isLength) := match text with
    | '#' :: c :: rest =>
      if isNameChar c then (1, named (c :: rest), true)
      else if c ≠ '\x7d' && rest.head? = some '\x7d' then (1, named [c], true)
      else (0, ['#'], false)
    | text => (0, named text, false)
  skip (size + key.length)
  return (String.ofList key, isLength)

/-- A trimming of a value, by the marks that ask for it. -/
def trimUse (text : List Char) : Option (Nat × TrimSide × Bool) :=
  match text with
  | '%' :: '%' :: _ => some (2, .back, true)
  | '%' :: _ => some (1, .back, false)
  | '#' :: '#' :: _ => some (2, .front, true)
  | '#' :: _ => some (1, .front, false)
  | _ => none

end Reader

namespace Word

/-- The characters of a word without its quotes. -/
def unquoted (word : Word) : List Char :=
  word.flatMap fun
    | .text cs _ => cs
    | _ => []

def isQuoted (word : Word) : Bool :=
  word.any fun
    | .text _ quoted => quoted
    | _ => false

/-- The text of a word in which nothing is quoted or expanded. -/
def plainText? (word : Word) : Option String :=
  match word with
  | [.text cs false] => some (String.ofList cs)
  | _ => none

end Word

end Mender.Shell
