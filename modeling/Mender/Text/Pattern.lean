/-!
# Patterns

A pattern is a row of parts, which read a text from its front. A run can be read in several
ways: a greedy one takes as many characters of its class as there are, and one less where
the parts behind it cannot go on; a reluctant one takes none, and one more where they
cannot. The first way in this order counts, and in a text the leftmost place where there
is a way.
-/

namespace Mender.Text

/-- A part of a pattern. -/
inductive Part where
  | char (c : Char)
  /-- A greedy run of characters of a class. -/
  | many (accepts : Char → Bool)
  /-- A reluctant run of characters of a class. -/
  | few (accepts : Char → Bool)
  /-- No character; the place is remembered. -/
  | mark

abbrev Pattern := List Part

namespace Pattern

variable {α : Type}

/-- Reads a greedy run and goes on behind it. -/
def readMany (accepts : Char → Bool) (goOn : List Char → Option α) : List Char → Option α
  | [] => goOn []
  | c :: cs =>
    if accepts c then readMany accepts goOn cs <|> goOn (c :: cs) else goOn (c :: cs)

/-- Reads a reluctant run and goes on behind it. -/
def readFew (accepts : Char → Bool) (goOn : List Char → Option α) : List Char → Option α
  | [] => goOn []
  | c :: cs => goOn (c :: cs) <|> if accepts c then readFew accepts goOn cs else none

/-- Reads the front of a text; answers what is ahead of each mark. -/
def read? : Pattern → List Char → Option (List (List Char))
  | [], _ => some []
  | .char _ :: _, [] => none
  | .char c :: parts, d :: text => if c = d then read? parts text else none
  | .many accepts :: parts, text => readMany accepts (read? parts) text
  | .few accepts :: parts, text => readFew accepts (read? parts) text
  | .mark :: parts, text => (read? parts text).map (text :: ·)

/-- Reads at the leftmost place where that is possible: behind a reluctant run of any
characters. -/
def find? (pattern : Pattern) : List Char → Option (List (List Char)) :=
  readFew (fun _ => true) (read? pattern)

/-- The pattern that reads the text itself. -/
def ofText (text : List Char) : Pattern := text.map .char

end Pattern

/-- What searches for patterns. It may refuse one that has become too large. -/
structure Engine where
  accepts : Pattern → Bool

namespace Part

/-- How many bytes a part takes up when it is prepared for searching: a state for each byte of
a character, and a set of ranges in a loop for each run. -/
def size : Part → Nat
  | .char c => 32 * c.utf8Size
  | .many _ => 720
  | .few _ => 1004
  | .mark => 0

end Part

/-- How many bytes the parts of a pattern take up together. -/
def Pattern.size : Pattern → Nat
  | [] => 0
  | part :: parts => part.size + size parts

namespace Engine

/-- How many bytes a pattern may take up. -/
def maxBytes : Nat := 10 * 1024 * 1024

/-- The engine that takes patterns up to a size. -/
def standard : Engine := ⟨fun pattern => 144 + pattern.size ≤ maxBytes⟩

end Engine

end Mender.Text
