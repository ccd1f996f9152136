import Mender.Text.CodeRange

/-!
# Character classes and trimming

Blanks are the characters with the White_Space property; the zero-width space,
the byte order mark and the file separator are not among them. Word characters
and decimal digits follow Unicode beyond ASCII.
-/

namespace Mender.Text

/-- The White_Space property. -/
def isBlank (c : Char) : Bool :=
  let n := c.toNat
  (9 ≤ n && n ≤ 13) || n = 0x20 || n = 0x85 || n = 0xa0 || n = 0x1680 ||
    (0x2000 ≤ n && n ≤ 0x200a) || n = 0x2028 || n = 0x2029 || n = 0x202f ||
    n = 0x205f || n = 0x3000

/-- An ASCII decimal digit. -/
def isDigit (c : Char) : Bool := '0' ≤ c && c ≤ '9'

/-- The value of an ASCII decimal digit. -/
def digitValue (c : Char) : Nat := c.toNat - '0'.toNat

/-- A decimal digit of any script. -/
def isDecimal (c : Char) : Bool :=
  if c.toNat < 0x80 then isDigit c else digitRanges.any (·.contains c.toNat)

def isAsciiLetter (c : Char) : Bool := ('a' ≤ c && c ≤ 'z') || ('A' ≤ c && c ≤ 'Z')

/-- A letter, mark, decimal digit, connector or join control. -/
def isWordChar (c : Char) : Bool :=
  if c.toNat < 0x80 then isAsciiLetter c || isDigit c || c = '_'
  else wordRanges.any (·.contains c.toNat)

/-- Drops the blanks in front. -/
def trimLeft (s : List Char) : List Char := s.dropWhile isBlank

/-- Drops the blanks at the end. -/
def trimRight (s : List Char) : List Char := (s.reverse.dropWhile isBlank).reverse

/-- Drops the blanks on both sides. -/
def trim (s : List Char) : List Char := trimRight (trimLeft s)

@[simp] theorem trim_nil : trim [] = [] := rfl

theorem trimLeft_eq_nil_iff {s : List Char} : trimLeft s = [] ↔ ∀ c ∈ s, isBlank c = true := by
  induction s with
  | nil => simp [trimLeft]
  | cons c cs ih =>
    unfold trimLeft at ih ⊢
    by_cases h : isBlank c = true
    · simp [h, ih]
    · simp [h]

theorem trimRight_append_blank {s blanks : List Char} (h : ∀ c ∈ blanks, isBlank c = true) :
    trimRight (s ++ blanks) = trimRight s := by
  unfold trimRight
  rw [List.reverse_append, List.dropWhile_append_of_pos]
  intro c hc
  exact h c (List.mem_reverse.1 hc)

end Mender.Text

namespace String

/-- The text without the blanks on both sides. -/
def trimmed (s : String) : String := String.ofList (Mender.Text.trim s.toList)

/-- The text without the blanks at the end. -/
def rightTrimmed (s : String) : String := String.ofList (Mender.Text.trimRight s.toList)

/-- Whether the text holds nothing but blanks. -/
def isBlankText (s : String) : Bool := s.toList.all Mender.Text.isBlank

end String
