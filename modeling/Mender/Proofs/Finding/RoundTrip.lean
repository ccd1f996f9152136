import Mender.Proofs.Finding.Markers
import Mender.Proofs.Text.Decimal

/-!
# Test reports that are written and read back

A report may write each failure on a line behind `FAILED` and its place on a later line behind
`at`. Other lines may stand in between, if they have neither word. Every failure is read back
then, with its own place or none, whatever its name holds.
-/

namespace Mender.TestReport

open Text

def atWord : List Char := ['a', 't']

/-- A text that stands on a line as it is. -/
structure Label (text : String) : Prop where
  nonempty : text ≠ ""
  line : '\n' ∉ text.toList
  trimmed : text.trimmed = text

theorem Label.trim_toList {text : String} (h : Label text) : trim text.toList = text.toList := by
  have same := congrArg String.toList h.trimmed
  rwa [String.trimmed, String.toList_ofList] at same

theorem Label.exists_ink {text : String} (h : Label text) :
    ∃ c more, text.toList = c :: more ∧ isBlank c = false :=
  exists_ink_of_trim h.trim_toList (mt String.toList_eq_nil_iff.mp h.nonempty)

/-- Lines that name no failure and no place. -/
structure Filler (text : List Char) : Prop where
  lines : WholeLines text
  unmarked : contains failedWord text = false
  unplaced : contains atWord text = false

/-- A failure, and what is written behind its name and behind its place. -/
structure Entry where
  name : String
  place? : Option (String × UInt32)
  before : String
  after : String

namespace Entry

/-- The file of the place, if there is one, has no colon and no `FAILED`. -/
structure Plain (e : Entry) : Prop where
  name : Label e.name
  file : ∀ place ∈ e.place?, Label place.1
  no_colon : ∀ place ∈ e.place?, ':' ∉ place.1.toList
  unmarked : ∀ place ∈ e.place?, contains failedWord place.1.toList = false
  before : Filler e.before.toList
  after : Filler e.after.toList

/-- The line that names the place. -/
def placeLine (e : Entry) : String :=
  match e.place? with
  | none => ""
  | some (file, line) => "  at " ++ file ++ ":" ++ Decimal.natText line.toNat ++ "\n"

def text (e : Entry) : String :=
  "FAILED " ++ e.name ++ "\n" ++ e.before ++ e.placeLine ++ e.after

/-- What stands behind the name. -/
def trace (e : Entry) : List Char :=
  '\n' :: (e.before.toList ++ e.placeLine.toList ++ e.after.toList)

/-- The failure that is read back. -/
def finding (e : Entry) : Finding where
  kind := .testFailure
  file := (e.place?.map (·.1)).getD ""
  line := (e.place?.map (·.2)).getD 0
  message := "Test failed"
  ignorable := false
  testName := e.name

theorem toList_text (e : Entry) :
    e.text.toList = failedWord ++ ([' '] ++ (e.name.toList ++ e.trace)) := by
  have word : "FAILED ".toList = failedWord ++ [' '] := by decide
  have newline : "\n".toList = ['\n'] := by decide
  simp only [text, trace, String.toList_append, word, newline, List.append_assoc,
    List.cons_append, List.nil_append]

end Entry

def report (entries : List Entry) : String := String.join (entries.map Entry.text)

/-- The search for markers passes lines without the word. -/
theorem Marks.append_lines {lines text front : List Char} {marks : List Mark}
    (whole : WholeLines lines) (unmarked : contains failedWord lines = false)
    (h : Marks text front marks) : Marks (lines ++ text) (lines ++ front) marks := by
  induction lines with
  | nil => exact h
  | cons c lines ih =>
    obtain ⟨missed, later⟩ := (contains_cons_eq_false_iff (by decide)).mp unmarked
    have behind : WholeLines ([c] ++ lines) := whole
    refine Marks.cons ?_ (ih behind.of_append later)
    rintro ⟨blanks, name, rest, reads⟩
    have other : '\n' ∉ failedWord := by decide
    have word := whole.rest?_append (List.cons_ne_nil c lines) other text
    have parts : c :: lines ++ text = failedWord ++ (blanks ++ (name ++ rest)) := reads.parts
    rw [missed, parts, rest?_append] at word
    cases word

/-- The name on the line of a marker is its name, and what follows is the rest. -/
theorem marked_label {name : String} (h : Label name) (text : List Char) :
    Marked (failedWord ++ ([' '] ++ (name.toList ++ '\n' :: text))) name.toList ('\n' :: text) := by
  obtain ⟨c, more, parts, ink⟩ := h.exists_ink
  have inside : ∀ d ∈ name.toList, decide (d ≠ '\n') = true := by
    intro d mem
    exact decide_eq_true fun newline => h.line (newline ▸ mem)
  have blank : ∀ d ∈ [' '], isBlank d = true := by simp [isBlank]
  have marked := marked_ink blank ink (List.cons_ne_nil ' ' []) (more ++ '\n' :: text)
  have stops : decide ('\n' ≠ '\n') = false := by decide
  obtain ⟨taken, left⟩ := span_append_cons inside stops text
  rwa [restOfLine, ← List.cons_append, ← parts, taken, left] at marked

section Places

variable {before : Option Char} {text : List Char}

theorem location?_of_not_contains (absent : contains atWord text = false) :
    location? before text = none := by
  induction text generalizing before with
  | nil => rfl
  | cons c text ih =>
    obtain ⟨missed, later⟩ := (contains_cons_eq_false_iff (by decide)).mp absent
    rw [atWord] at missed
    rw [location?, missed, ih later]
    simp

/-- The search for a place goes on behind a character that `at` does not have. -/
theorem location?_append_cons {c : Char} (other : c ∉ atWord)
    (absent : contains atWord text = false) (more : List Char) :
    location? before (text ++ c :: more) = location? (some c) more := by
  induction text generalizing before with
  | nil =>
    have missed : rest? atWord (c :: more) = none := by
      have front := rest?_append_cons other [] more
      exact front
    rw [atWord] at missed
    rw [List.nil_append, location?, missed]
    simp
  | cons d text ih =>
    obtain ⟨missed, later⟩ := (contains_cons_eq_false_iff (by decide)).mp absent
    have front := rest?_append_cons other (d :: text) more
    rw [missed, List.cons_append, atWord] at front
    rw [List.cons_append, location?, front, ih later]
    simp

theorem location?_atWord {place : List Char × UInt32} (apart : before.any isWordChar = false)
    (here : place? text = some place) : location? before (atWord ++ text) = some place := by
  have word : rest? ['a', 't'] (atWord ++ text) = some text := rest?_append atWord text
  change ((if before.any isWordChar then none
    else (rest? ['a', 't'] (atWord ++ text)).bind place?) <|>
      location? (some 'a') ('t' :: text)) = some place
  rw [apart, word, Option.bind_some, here]
  rfl

end Places

theorem isDecimal_of_isDigit {c : Char} (digit : isDigit c = true) : isDecimal c = true := by
  have ascii : c.toNat < 0x80 := by
    have most : c ≤ '9' := by simpa using (Bool.and_eq_true_iff.mp digit).2
    exact Nat.lt_of_le_of_lt most (by decide)
  rw [isDecimal, if_pos ascii, digit]

theorem lineNumber_digits (line : UInt32) : lineNumber (Decimal.digits line.toNat) = line := by
  have small : decide (line.toNat < UInt32.size) = true := decide_eq_true line.toNat_lt_size
  rw [lineNumber, Decimal.nat?_digits, Option.filter_some, if_pos small, Option.getD_some,
    UInt32.ofNat_toNat]

/-- A place that is written out is read. -/
theorem place?_label {file : String} (h : Label file) (no_colon : ':' ∉ file.toList) (n : UInt32)
    (text : List Char) :
    place? (' ' :: (file.toList ++ ':' :: (Decimal.digits n.toNat ++ '\n' :: text))) =
      some (file.toList, n) := by
  obtain ⟨c, more, parts, ink⟩ := h.exists_ink
  have blank : ∀ d ∈ [' '], isBlank d = true := by simp [isBlank]
  have inside : ∀ d ∈ file.toList, (d ≠ ':' && d ≠ '\n' : Bool) = true := by
    intro d mem
    have other : d ≠ ':' := fun same => no_colon (same ▸ mem)
    have other' : d ≠ '\n' := fun same => h.line (same ▸ mem)
    simp [other, other']
  have decimal : ∀ d ∈ Decimal.digits n.toNat, isDecimal d = true := by
    intro d mem
    exact isDecimal_of_isDigit (List.all_eq_true.mp (Decimal.all_isDigit_digits n.toNat) d mem)
  obtain ⟨blanks, body⟩ := span_append_cons blank ink
    (more ++ ':' :: (Decimal.digits n.toNat ++ '\n' :: text))
  obtain ⟨name, rest⟩ := span_append_cons inside (by decide : (':' ≠ ':' && ':' ≠ '\n') = false)
    (Decimal.digits n.toNat ++ '\n' :: text)
  obtain ⟨digits, -⟩ := span_append_cons decimal (by decide : isDecimal '\n' = false) text
  unfold place?
  rw [List.singleton_append, ← List.cons_append, ← parts] at blanks body
  simp only [blanks, body, name, rest, digits, Option.bind_eq_bind]
  have digits_ne := Decimal.digits_ne_nil n.toNat
  have named : file.toList ≠ [] := by
    rw [parts]
    exact List.cons_ne_nil c more
  simp [named, digits_ne, h.trim_toList, lineNumber_digits]

namespace Entry

variable {e : Entry}

theorem toList_placeLine {file : String} {line : UInt32} (placed : e.place? = some (file, line)) :
    e.placeLine.toList =
      "  at".toList ++ ' ' :: (file.toList ++ ':' :: (Decimal.digits line.toNat ++ ['\n'])) := by
  have word : "  at ".toList = "  at".toList ++ [' '] := by decide
  have colon : ":".toList = [':'] := by decide
  have newline : "\n".toList = ['\n'] := by decide
  simp only [placeLine, placed, String.toList_append, Decimal.natText, String.toList_ofList, word,
    colon, newline, List.append_assoc, List.cons_append, List.nil_append]

theorem wholeLines_placeLine (e : Entry) : WholeLines e.placeLine.toList := by
  cases placed : e.place? with
  | none =>
    rw [placeLine, placed]
    exact wholeLines_nil
  | some place =>
    have ends := wholeLines_concat
      ("  at".toList ++ ' ' :: (place.1.toList ++ ':' :: Decimal.digits place.2.toNat))
    rw [toList_placeLine placed]
    simpa using ends

theorem Plain.unmarked_placeLine (h : e.Plain) : contains failedWord e.placeLine.toList = false := by
  cases placed : e.place? with
  | none =>
    rw [placeLine, placed]
    rfl
  | some place =>
    have digits : contains failedWord (Decimal.digits place.2.toNat) = false :=
      not_contains_of_not_mem (c := 'F') (by decide) (Decimal.not_mem_digits (by decide) _)
    have word : contains failedWord "  at".toList = false := by decide
    have nothing : contains failedWord [] = false := by decide
    rw [toList_placeLine placed, contains_append_cons (by decide) (by decide), word,
      contains_append_cons (by decide) (by decide), h.unmarked place placed,
      contains_append_cons (by decide) (by decide), digits, nothing]
    rfl

/-- What stands behind the name lies between its marker and the next one. -/
theorem Plain.trace_unmarked (h : e.Plain) :
    WholeLines e.trace ∧ contains failedWord e.trace = false := by
  have lines : WholeLines (e.before.toList ++ e.placeLine.toList ++ e.after.toList) :=
    (h.before.lines.append e.wholeLines_placeLine).append h.after.lines
  have break_line : WholeLines ['\n'] := wholeLines_concat []
  constructor
  · exact break_line.append lines
  · change contains failedWord
      (['\n'] ++ (e.before.toList ++ e.placeLine.toList ++ e.after.toList)) = false
    rw [break_line.contains_append (by decide) (by decide), List.append_assoc,
      h.before.lines.contains_append (by decide) (by decide), h.before.unmarked,
      e.wholeLines_placeLine.contains_append (by decide) (by decide), h.unmarked_placeLine,
      h.after.unmarked]
    rfl

/-- The place of an entry is the first one behind its name. -/
theorem Plain.location? (h : e.Plain) :
    location? none e.trace = e.place?.map fun (file, line) => (file.toList, line) := by
  have opening : contains atWord ('\n' :: e.before.toList) = false := by
    rw [contains_cons_eq_false_iff (by decide)]
    exact ⟨rfl, h.before.unplaced⟩
  have opening_lines : WholeLines ('\n' :: e.before.toList) :=
    (wholeLines_concat []).append h.before.lines
  cases placed : e.place? with
  | none =>
    apply location?_of_not_contains
    rw [trace, placeLine, placed]
    change contains atWord ('\n' :: e.before.toList ++ [] ++ e.after.toList) = false
    rw [List.append_nil, opening_lines.contains_append (by decide) (by decide), opening,
      h.after.unplaced]
    rfl
  | some place =>
    obtain ⟨file, line⟩ := place
    have passed : contains atWord ('\n' :: e.before.toList ++ [' ']) = false := by
      rw [opening_lines.contains_append (by decide) (by decide), opening]
      rfl
    have here := place?_label (h.file _ placed) (h.no_colon _ placed) line e.after.toList
    have parts : e.trace = '\n' :: e.before.toList ++ [' '] ++ ' ' :: (atWord ++
        ' ' :: (file.toList ++ ':' :: (Decimal.digits line.toNat ++ '\n' :: e.after.toList))) := by
      have word : "  at".toList = ' ' :: ' ' :: atWord := by decide
      rw [trace, toList_placeLine placed, word]
      simp
    rw [parts, location?_append_cons (by decide) passed]
    exact location?_atWord (by decide) here

/-- The text of an entry starts with its marker. -/
theorem Plain.marked (h : e.Plain) (more : List Char) :
    Marked (e.text.toList ++ more) e.name.toList (e.trace ++ more) := by
  have marked := marked_label h.name
    (e.before.toList ++ e.placeLine.toList ++ e.after.toList ++ more)
  rw [toList_text, List.append_assoc, List.append_assoc, List.append_assoc]
  exact marked

theorem Plain.failure (h : e.Plain) : TestReport.failure e.name.toList e.trace = e.finding := by
  have trimmed : String.ofList (trim e.name.toList) = e.name := h.name.trimmed
  rw [TestReport.failure, h.location?, trimmed]
  cases placed : e.place? with
  | none => simp [finding, placed, Finding.testFailure, testFailed]
  | some place => simp [finding, placed, Finding.testFailure, testFailed]

end Entry

theorem marks_report {entries : List Entry} (plain : ∀ e ∈ entries, e.Plain) :
    Marks (report entries).toList [] (entries.map fun e => ⟨e.name.toList, e.trace⟩) := by
  induction entries with
  | nil => exact marks_nil
  | cons e entries ih =>
    obtain ⟨here, later⟩ := List.forall_mem_cons.mp plain
    obtain ⟨lines, unmarked⟩ := here.trace_unmarked
    have rest := (ih later).append_lines lines unmarked
    have parts : (report (e :: entries)).toList = e.text.toList ++ (report entries).toList := by
      simp [report, String.toList_join]
    rw [List.append_nil] at rest
    rw [parts]
    exact .front (here.marked (report entries).toList) rest

/-- Every failure of a report is read back, in order. -/
theorem parse_report {entries : List Entry} (nonempty : entries ≠ [])
    (plain : ∀ e ∈ entries, e.Plain) :
    parse false (Utf8.encode (report entries)) = entries.map Entry.finding := by
  have marks := marks_report plain
  rw [← Utf8.decodeLossy_encode (report entries)] at marks
  rw [parse_of_marks marks, if_neg (by simpa using nonempty), List.map_map]
  apply List.map_congr_left
  intro e mem
  exact (plain e mem).failure

/-- The first name holds the word and a place, and only the second failure has a place. -/
theorem parse_report_unlocated :
    let entries : List Entry :=
      [⟨"FAILED at é:1", none, "", "done\n"⟩, ⟨"b", some ("at x", 4294967295), "\n", ""⟩]
    (∀ e ∈ entries, e.Plain) ∧ parse false (Utf8.encode (report entries)) =
      [.testFailure "FAILED at é:1" "" 0 "Test failed",
        .testFailure "b" "at x" 4294967295 "Test failed"] := by
  intro entries
  have nothing : Filler "".toList := ⟨wholeLines_nil, by decide, by decide⟩
  have unlocated : Entry.Plain ⟨"FAILED at é:1", none, "", "done\n"⟩ :=
    { name := ⟨by decide, by decide, by decide⟩
      file := by rintro _ ⟨⟩
      no_colon := by rintro _ ⟨⟩
      unmarked := by rintro _ ⟨⟩
      before := nothing
      after := ⟨wholeLines_concat "done".toList, by decide, by decide⟩ }
  have located : Entry.Plain ⟨"b", some ("at x", 4294967295), "\n", ""⟩ :=
    { name := ⟨by decide, by decide, by decide⟩
      file := by rintro _ ⟨⟩; exact ⟨by decide, by decide, by decide⟩
      no_colon := by rintro _ ⟨⟩; decide
      unmarked := by rintro _ ⟨⟩; decide
      before := ⟨wholeLines_concat [], by decide, by decide⟩
      after := nothing }
  have plain : ∀ e ∈ entries, e.Plain := by
    simp [entries, unlocated, located]
  exact ⟨plain, parse_report (List.cons_ne_nil _ _) plain⟩

end Mender.TestReport
