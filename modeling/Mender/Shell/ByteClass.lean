/-!
# Classes of bytes

The classes of characters that patterns and utilities know by name. Only ASCII has
letters, digits and marks; all other bytes belong to no class.
-/

namespace Mender.Shell.ByteClass

/-- Characters from one to another. -/
abbrev Range := Char × Char

def upper : List Range := [('A', 'Z')]

def lower : List Range := [('a', 'z')]

def digit : List Range := [('0', '9')]

def alpha : List Range := upper ++ lower

def alnum : List Range := alpha ++ digit

def space : List Range := [('\t', '\x0d'), (' ', ' ')]

def punct : List Range := [('!', '/'), (':', '@'), ('[', '\x60'), ('\x7b', '~')]

/-- The characters of words. -/
def word : List Range := ('_', '_') :: alnum

/-- The class of a name. -/
def named? (name : List Char) : Option (List Range) :=
  match String.ofList name with
  | "upper" => some upper
  | "lower" => some lower
  | "digit" => some digit
  | "alpha" => some alpha
  | "alnum" => some alnum
  | "space" => some space
  | "punct" => some punct
  | "blank" => some [('\t', '\t'), (' ', ' ')]
  | "cntrl" => some [('\x00', '\x1f'), ('\x7f', '\x7f')]
  | "print" => some [(' ', '~')]
  | "graph" => some [('!', '~')]
  | "xdigit" => some (('a', 'f') :: ('A', 'F') :: digit)
  | _ => none

def isIn (ranges : List Range) (c : Char) : Bool :=
  ranges.any fun (low, high) => low ≤ c && c ≤ high

def isSpace (c : Char) : Bool := isIn space c

/-- A name between `[:` and `:]`, behind the bracket in front, and how many characters
it takes. -/
def inBrackets? (cs : List Char) : Option (List Range × Nat) :=
  match cs with
  | ':' :: rest =>
    let name := rest.takeWhile (· ≠ ':')
    if (rest.drop name.length).take 2 = [':', ']'] then
      (named? name).map fun ranges => (ranges, name.length + 3)
    else none
  | _ => none

end Mender.Shell.ByteClass
