import Mender.Toml.Statement

/-!
# Writing TOML

A table is written as a block of lines, its header and its keys with values, and
behind it come the blocks of the tables in it. An empty line stands between two
blocks. Arrays of several items take a line for each. Of the four forms of a
string the first that needs no escape is taken.
-/

namespace Mender.Toml

/-- A character that only an escape can stand for. -/
def isControl (c : Char) : Bool :=
  (c.toNat < 0x20 && c ≠ '\t' && c ≠ '\n') || c.toNat = 0x7f

/-- The longest row of a character in a text. -/
def longestRow (c : Char) (text : List Char) : Nat :=
  (text.foldl (fun (longest, row) d =>
    if d = c then (max longest (row + 1), row + 1) else (longest, 0)) (0, 0)).1

def hexDigit (n : Nat) : Char :=
  if n < 10 then Char.ofNat ('0'.toNat + n) else Char.ofNat ('A'.toNat + (n - 10))

/-- A character between double quotes, a quote and a line break apart. -/
def escapedChar (c : Char) : List Char :=
  if c = '\x08' then ['\\', 'b']
  else if c = '\t' then ['\\', 't']
  else if c = '\x0c' then ['\\', 'f']
  else if c = '\r' then ['\\', 'r']
  else if c = '\\' then ['\\', '\\']
  else if c.toNat < 0x20 || c.toNat = 0x7f then
    ['\\', 'u', '0', '0', hexDigit (c.toNat / 16), hexDigit (c.toNat % 16)]
  else [c]

/-- The inside of a string of one line between double quotes. -/
def escapedLine (text : List Char) : List Char :=
  text.flatMap fun c =>
    if c = '"' then ['\\', '"'] else if c = '\n' then ['\\', 'n'] else escapedChar c

/-- The inside of a string of several lines between double quotes, with an escape
for every third quote in a row; `row` is how many came just before. -/
def escapedLines (row : Nat) : List Char → List Char
  | [] => []
  | c :: cs =>
    if c = '"' then
      if row = 2 then '\\' :: '"' :: escapedLines 0 cs else '"' :: escapedLines (row + 1) cs
    else (if c = '\n' then [c] else escapedChar c) ++ escapedLines 0 cs

/-- A text between three quotes on each side. -/
def tripled (quote : Char) (hasBreak : Bool) (inside : List Char) : List Char :=
  let quotes := [quote, quote, quote]
  quotes ++ (if hasBreak then ['\n'] else []) ++ inside ++ quotes

def quoted (text : List Char) : List Char :=
  let hasControl := text.any isControl
  let hasBreak := text.contains '\n'
  let hasEscape := text.contains '\\'
  if !hasControl && !hasBreak && !hasEscape && !text.contains '"' then
    '"' :: escapedLine text ++ ['"']
  else if !hasControl && !hasBreak && !text.contains '\'' then '\'' :: text ++ ['\'']
  else if !hasControl && !hasEscape && longestRow '"' text ≤ 2 then
    tripled '"' hasBreak (escapedLines 0 text)
  else if !hasControl && longestRow '\'' text ≤ 2 then tripled '\'' hasBreak text
  else if hasBreak then tripled '"' true (escapedLines 0 text)
  else '"' :: escapedLine text ++ ['"']

def keyText (key : String) : List Char :=
  if !key.isEmpty && key.toList.all isBareKeyChar then key.toList else quoted key.toList

mutual

/-- A value on one line, strings of several lines apart. -/
def inlineText : Toml → List Char
  | .string s => quoted s.toList
  | .integer n => (Decimal.intText n).toList
  | .float n => n.text
  | .unbounded name => name
  | .boolean b => if b then ['t', 'r', 'u', 'e'] else ['f', 'a', 'l', 's', 'e']
  | .moment text => text
  | .array [] => ['[', ']']
  | .array (item :: items) => '[' :: inlineText item ++ moreItems items ++ [']']
  | .table [] => ['{', '}']
  | .table ((key, value) :: fields) =>
    ['{', ' '] ++ keyText key ++ [' ', '=', ' '] ++ inlineText value ++ moreFields fields ++
      [' ', '}']

def moreItems : List Toml → List Char
  | [] => []
  | item :: items => [',', ' '] ++ inlineText item ++ moreItems items

def moreFields : List (String × Toml) → List Char
  | [] => []
  | (key, value) :: fields =>
    [',', ' '] ++ keyText key ++ [' ', '=', ' '] ++ inlineText value ++ moreFields fields

end

/-- A value behind its key. -/
def valueText : Toml → List Char
  | .array (first :: second :: items) =>
    ['[', '\n'] ++ (first :: second :: items).flatMap (fun item =>
      [' ', ' ', ' ', ' '] ++ inlineText item ++ [',', '\n']) ++ [']']
  | value => inlineText value

def isTable : Toml → Bool
  | .table _ => true
  | _ => false

/-- The lines of the keys of a table that hold no table. -/
def keyLines (fields : List (String × Toml)) : List Char :=
  fields.flatMap fun (key, value) =>
    if isTable value then [] else keyText key ++ [' ', '=', ' '] ++ valueText value ++ ['\n']

def headerLine (path : List String) : List Char :=
  '[' :: ['.'].intercalate (path.map keyText) ++ [']', '\n']

/-- The block of a table, left out where only tables are in it. -/
def block (path : List String) (fields : List (String × Toml)) : List (List Char) :=
  if !fields.isEmpty && fields.all (isTable ·.2) then []
  else [headerLine path ++ keyLines fields]

mutual

/-- The blocks of a table and of those in it. -/
def tableBlocks (path : List String) : Toml → List (List Char)
  | .table fields => block path fields ++ fieldBlocks path fields
  | _ => []

def fieldBlocks (path : List String) : List (String × Toml) → List (List Char)
  | [] => []
  | (key, value) :: fields => tableBlocks (path ++ [key]) value ++ fieldBlocks path fields

end

/-- The text of a document with the given fields. -/
def documentText (fields : List (String × Toml)) : String :=
  let top := keyLines fields
  String.ofList
    (['\n'].intercalate ((if top.isEmpty then [] else [top]) ++ fieldBlocks [] fields))

end Mender.Toml
