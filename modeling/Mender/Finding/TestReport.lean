import Mender.Finding
import Mender.Text.Decimal
import Mender.Text.Search
import Mender.Text.Utf8

/-!
# Reports of the test runner

In the output of a failed run each marker `FAILED name` is one failure. The name
is the rest of the line where it begins, which may be a later line than that of
`FAILED`. A failure is located by the first `at file:line` between its marker and
the next one. A failed run without markers is one failure without a name.
-/

namespace Mender.TestReport

open Mender Text

def testFailed : String := "Test failed"

def failedWord : List Char := ['F', 'A', 'I', 'L', 'E', 'D']

/-- The end of a line, and what follows it from the line break on. -/
def restOfLine (text : List Char) : List Char × List Char :=
  (text.takeWhile (· ≠ '\n'), text.dropWhile (· ≠ '\n'))

/-- A marker at the front of the text: the name and what follows it. The name
starts behind the blanks after the word. Where the text ends in these blanks,
the name is the last of them that is no line break, the first excepted. -/
def marker? (text : List Char) : Option (List Char × List Char) := do
  let rest ← rest? failedWord text
  let blanks := rest.takeWhile isBlank
  let body := rest.dropWhile isBlank
  if blanks.isEmpty then none
  else if !body.isEmpty then some (restOfLine body)
  else
    match (blanks.drop 1).reverse.dropWhile (· = '\n') with
    | [] => none
    | c :: before => some ([c], blanks.drop (before.length + 2))

/-- The number that a row of digits denotes, 0 where it is not a 32-bit word in
ASCII digits. -/
def lineNumber (digits : List Char) : UInt32 :=
  UInt32.ofNat (((Decimal.nat? digits).filter (· < UInt32.size)).getD 0)

/-- What follows the word `at`: blanks, a name without colons and line breaks, a
colon and digits. The last blank counts as the name where nothing else does. -/
def place? (text : List Char) : Option (List Char × UInt32) := do
  let blanks := text.takeWhile isBlank
  let body := text.dropWhile isBlank
  let inName := fun c => c ≠ ':' && c ≠ '\n'
  let name := body.takeWhile inName
  let name ←
    if blanks.isEmpty then none
    else if !name.isEmpty then some name
    else (blanks.drop 1).getLast?.bind fun c => if c = '\n' then none else some [c]
  match body.dropWhile inName with
  | ':' :: rest =>
    let digits := rest.takeWhile isDecimal
    if digits.isEmpty then none else some (trim name, lineNumber digits)
  | _ => none

/-- The first place named in a text, after the given character. -/
def location? (before : Option Char) : List Char → Option (List Char × UInt32)
  | [] => none
  | c :: cs =>
    let here :=
      if before.any isWordChar then none
      else (rest? ['a', 't'] (c :: cs)).bind place?
    here <|> location? (some c) cs

/-- The failure of a marker, located in the text up to the next one. -/
def failure (name segment : List Char) : Finding :=
  let (file, line) := (location? none segment).getD ([], 0)
  .testFailure (String.ofList (trim name)) (String.ofList file) line testFailed

theorem length_marker? {text name rest : List Char} (h : marker? text = some (name, rest)) :
    rest.length + failedWord.length ≤ text.length := by
  simp only [marker?, Option.bind_eq_bind, Option.bind_eq_some_iff] at h
  obtain ⟨tail, ht, h⟩ := h
  rw [rest?_eq_some_iff.1 ht]
  have parts : tail.takeWhile isBlank ++ tail.dropWhile isBlank = tail :=
    List.takeWhile_append_dropWhile
  have total := congrArg List.length parts
  rw [List.length_append] at total
  have line := (List.dropWhile_sublist (l := tail.dropWhile isBlank) (· ≠ '\n')).length_le
  simp only [List.length_append, failedWord, List.length_cons, List.length_nil]
  split at h
  · simp at h
  · split at h
    · simp only [restOfLine, Option.some.injEq, Prod.mk.injEq] at h
      obtain ⟨-, rfl⟩ := h
      omega
    · split at h
      · simp at h
      · simp only [Option.some.injEq, Prod.mk.injEq] at h
        obtain ⟨-, rfl⟩ := h
        simp only [List.length_drop]
        omega

/-- The failures of a text. The segment holds what stands behind the last marker,
the latest character first; `name?` is that marker's name, if there was one. -/
def failuresFrom (name? : Option (List Char)) (segment : List Char) (text : List Char) :
    List Finding :=
  match _found : marker? text with
  | some (name, rest) =>
    (name?.map (failure · segment.reverse)).toList ++ failuresFrom (some name) [] rest
  | none =>
    match text with
    | [] => (name?.map (failure · segment.reverse)).toList
    | c :: cs => failuresFrom name? (c :: segment) cs
termination_by text.length
decreasing_by
  · have := length_marker? _found
    simp only [failedWord, List.length_cons, List.length_nil] at this
    omega
  · simp

/-- The failures in the text of a failed run. -/
def ofText (text : List Char) : List Finding :=
  match failuresFrom none [] text with
  | [] => [.testFailure "" "" 0 testFailed]
  | found => found

/-- The failures of a run, by how it ended and what it wrote. -/
def parse (success : Bool) (output : Bytes) : List Finding :=
  if success then [] else ofText (Utf8.decodeLossy output).toList

theorem parse_failed_ne_nil (output : Bytes) : parse false output ≠ [] := by
  simp only [parse, ofText, Bool.false_eq_true, if_false]
  split <;> simp_all

end Mender.TestReport
