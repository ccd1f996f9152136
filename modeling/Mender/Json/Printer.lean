import Mender.Json.Basic

/-!
# Writing JSON

Values are written over several lines, two spaces for each level; an empty array
or object stays on one line. Characters below the space are escaped, by a letter
where there is one; all others stand as they are.
-/

namespace Mender.Json

def hexChar (n : Nat) : Char :=
  if n < 10 then Char.ofNat ('0'.toNat + n) else Char.ofNat ('a'.toNat + (n - 10))

/-- How a character is written inside a string. -/
def escaped (c : Char) : List Char :=
  if c = '"' then ['\\', '"']
  else if c = '\\' then ['\\', '\\']
  else if c = '\n' then ['\\', 'n']
  else if c = '\r' then ['\\', 'r']
  else if c = '\t' then ['\\', 't']
  else if c = '\x08' then ['\\', 'b']
  else if c = '\x0c' then ['\\', 'f']
  else if c.toNat < 0x20 then
    ['\\', 'u', '0', '0', hexChar (c.toNat / 16), hexChar (c.toNat % 16)]
  else [c]

/-- A string between quotes. Half of a surrogate pair has no character of its
own and is written as U+FFFD. -/
def quoted (s : Option String) : List Char :=
  '"' :: (s.getD "\uFFFD").toList.flatMap escaped ++ ['"']

/-- A line break and the spaces of a level. -/
def lineBreak (level : Nat) : List Char := '\n' :: List.replicate (2 * level) ' '

mutual

/-- The text of a value whose first line starts at the given level. -/
def prettyAt (level : Nat) : Json → List Char
  | .null => ['n', 'u', 'l', 'l']
  | .bool true => ['t', 'r', 'u', 'e']
  | .bool false => ['f', 'a', 'l', 's', 'e']
  | .number n => n.text
  | .string s => quoted s
  | .array [] => ['[', ']']
  | .array (item :: items) =>
    '[' :: lineBreak (level + 1) ++ prettyAt (level + 1) item ++ moreItems (level + 1) items ++
      lineBreak level ++ [']']
  | .object [] => ['{', '}']
  | .object ((key, value) :: fields) =>
    '{' :: lineBreak (level + 1) ++ quoted key ++ [':', ' '] ++ prettyAt (level + 1) value ++
      moreFields (level + 1) fields ++ lineBreak level ++ ['}']

def moreItems (level : Nat) : List Json → List Char
  | [] => []
  | item :: items => ',' :: lineBreak level ++ prettyAt level item ++ moreItems level items

def moreFields (level : Nat) : List (Option String × Json) → List Char
  | [] => []
  | (key, value) :: fields =>
    ',' :: lineBreak level ++ quoted key ++ [':', ' '] ++ prettyAt level value ++
      moreFields level fields

end

/-- The text of a value. -/
def pretty (j : Json) : String := String.ofList (prettyAt 0 j)

end Mender.Json
