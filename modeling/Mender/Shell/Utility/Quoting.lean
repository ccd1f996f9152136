import Mender.Shell.ByteClass
import Mender.Shell.Printf

/-!
# Quoted names

How utilities show names in what they say. A name that a shell would not take as it is
stands in quotes, and bytes that cannot be shown are written by their numbers.
-/

namespace Mender.Shell.Quoting

/-- Characters that never need quotes. -/
def isHarmless (c : Char) : Bool :=
  ByteClass.isIn ByteClass.alnum c || "%+,-./:]_@".toList.contains c

def isShown (c : Char) : Bool := ' ' ≤ c && c ≤ '~'

/-- The escape of a character that cannot be shown. -/
def escape (c : Char) : List Char :=
  match c with
  | '\x07' => ['\\', 'a']
  | '\x08' => ['\\', 'b']
  | '\t' => ['\\', 't']
  | '\n' => ['\\', 'n']
  | '\x0b' => ['\\', 'v']
  | '\x0c' => ['\\', 'f']
  | '\r' => ['\\', 'r']
  | c =>
    let digit := fun n => Char.ofNat ('0'.toNat + n % 8)
    ['\\', digit (c.toNat / 64), digit (c.toNat / 8), digit c.toNat]

/-- Whether a shell would not take a name as it is, or a colon behind it would confuse. -/
def needsQuotes (cs : List Char) : Bool :=
  cs.isEmpty || cs = ['\x7b'] || cs = ['\x7d'] || cs.head?.any (fun c => c = '#' || c = '~') ||
    cs.any fun c => !isShown c || c = ':' || " !\"$&()*;<=>[^\x60|?\\'".toList.contains c

/-- The inside of single quotes; `escaping` says whether escapes are under way. -/
def inside (escaping : Bool) : List Char → List Char
  | [] => []
  | c :: rest =>
    if isShown c then
      (if escaping then ['\'', '\''] else []) ++
        (if c = '\'' then ['\'', '\\', '\'', '\''] else [c]) ++ inside false rest
    else (if escaping then [] else ['\'', '$', '\'']) ++ escape c ++ inside true rest

/-- A name in quotes. -/
def always (name : String) : String :=
  let cs := name.toList
  if cs.contains '\'' && cs.all (fun c => isHarmless c || c = '\'' || c = ' ') then
    "\"" ++ name ++ "\""
  else String.ofList ('\'' :: inside false cs ++ ['\''])

/-- A name, in quotes if it needs them. -/
def ifNeeded (name : String) : String :=
  if needsQuotes name.toList then always name else name

/-- A word between quotes, with its own quotes and backslashes escaped. -/
def word (text : String) : String :=
  let shown := text.toList.flatMap fun c =>
    if c = '\'' || c = '\\' then ['\\', c] else if isShown c then [c] else escape c
  String.ofList ('\'' :: shown ++ ['\''])

end Mender.Shell.Quoting
