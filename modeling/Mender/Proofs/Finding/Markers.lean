import Mathlib
import Mender.Finding.TestReport
import Mender.Proofs.Text.Search
import Mender.Proofs.Text.Trim
import Mender.Proofs.Text.Utf8

/-!
# Markers in test reports

A marker is `FAILED`, blanks, and a name that is not empty and stands on one line. From the
left, each marker takes as many blanks as it can and then as long a name as it can, and the
search goes on behind it (`Marks`). A failed run has one failure for each marker, or one if there
is none, and each failure is read from the text between its own marker and the next one. So
where one report ends and another begins with a marker, the failures are those of the two.
-/

namespace Mender.TestReport

open Text

/-- One way to read a marker at the front of a text. -/
structure Reads (text blanks name rest : List Char) : Prop where
  parts : text = failedWord ++ (blanks ++ (name ++ rest))
  spaced : blanks ≠ []
  blank : ∀ c ∈ blanks, isBlank c = true
  named : name ≠ []
  line : '\n' ∉ name

/-- A marker can be read at the front of the text. -/
def Starts (text : List Char) : Prop := ∃ blanks name rest, Reads text blanks name rest

/-- The marker at the front of the text: it takes the most blanks, and among the readings with
as many the longest name. -/
def Marked (text name rest : List Char) : Prop :=
  ∃ blanks, Reads text blanks name rest ∧
    ∀ blanks' name' rest', Reads text blanks' name' rest' →
      blanks'.length < blanks.length ∨
        blanks'.length = blanks.length ∧ name'.length ≤ name.length

theorem Marked.starts {text name rest : List Char} (h : Marked text name rest) : Starts text := by
  obtain ⟨blanks, reads, -⟩ := h
  exact ⟨blanks, name, rest, reads⟩

/-- There is one marker at the front of a text at most. -/
theorem Marked.unique {text name rest name' rest' : List Char} (h : Marked text name rest)
    (h' : Marked text name' rest') : name = name' ∧ rest = rest' := by
  obtain ⟨blanks, reads, most⟩ := h
  obtain ⟨blanks', reads', most'⟩ := h'
  have here := most _ _ _ reads'
  have there := most' _ _ _ reads
  have same : blanks ++ (name ++ rest) = blanks' ++ (name' ++ rest') := by
    have whole := reads.parts.symm.trans reads'.parts
    exact List.append_cancel_left whole
  have blanks_same := List.append_inj same (by omega)
  exact List.append_inj blanks_same.2 (by omega)

/-- No row of such characters at the front of a text is longer than the one that is taken. -/
theorem length_le_takeWhile {p : Char → Bool} {row : List Char} (inside : ∀ c ∈ row, p c = true)
    (rest : List Char) : row.length ≤ ((row ++ rest).takeWhile p).length := by
  rw [List.takeWhile_append_of_pos inside, List.length_append]
  exact Nat.le_add_right _ _

theorem marker?_append (tail : List Char) :
    marker? (failedWord ++ tail) =
      if (tail.takeWhile isBlank).isEmpty then none
      else if !(tail.dropWhile isBlank).isEmpty then some (restOfLine (tail.dropWhile isBlank))
      else
        match ((tail.takeWhile isBlank).drop 1).reverse.dropWhile (· = '\n') with
        | [] => none
        | c :: before => some ([c], (tail.takeWhile isBlank).drop (before.length + 2)) := by
  unfold marker?
  rw [rest?_append]
  rfl

theorem restOfLine_append (text : List Char) : (restOfLine text).1 ++ (restOfLine text).2 = text :=
  List.takeWhile_append_dropWhile

theorem newline_not_mem_restOfLine (text : List Char) : '\n' ∉ (restOfLine text).1 := by
  intro mem
  have inside := List.all_eq_true.mp (List.all_takeWhile (p := (· ≠ '\n')) (l := text)) _ mem
  simp at inside

/-- What a reading takes from behind the word starts in the blanks there. -/
theorem Reads.tail {tail blanks name rest : List Char}
    (h : Reads (failedWord ++ tail) blanks name rest) : tail = blanks ++ (name ++ rest) :=
  List.append_cancel_left h.parts

section Ink

variable {blanks : List Char} {c : Char}

/-- In front of ink the name is the rest of the line. -/
theorem marker?_ink (blank : ∀ d ∈ blanks, isBlank d = true) (ink : isBlank c = false)
    (body : List Char) :
    marker? (failedWord ++ (blanks ++ c :: body)) =
      if blanks = [] then none else some (restOfLine (c :: body)) := by
  obtain ⟨taken, left⟩ := span_append_cons blank ink body
  rw [marker?_append, taken, left]
  cases blanks <;> rfl

theorem Reads.length_blanks_le {body blanks' name rest : List Char} (ink : isBlank c = false)
    (h : Reads (failedWord ++ (blanks ++ c :: body)) blanks' name rest) :
    blanks'.length ≤ blanks.length := by
  by_contra longer
  have inside : (blanks ++ c :: body)[blanks.length]? = some c := by simp
  rw [h.tail, List.getElem?_append_left (by omega)] at inside
  rw [h.blank c (List.mem_of_getElem? inside)] at ink
  cases ink

theorem marked_ink (blank : ∀ d ∈ blanks, isBlank d = true) (ink : isBlank c = false)
    (spaced : blanks ≠ []) (body : List Char) :
    Marked (failedWord ++ (blanks ++ c :: body)) (restOfLine (c :: body)).1
      (restOfLine (c :: body)).2 := by
  have starts : c ≠ '\n' := by
    rintro rfl
    cases ink
  refine ⟨blanks, ⟨?_, spaced, blank, ?_, newline_not_mem_restOfLine _⟩, ?_⟩
  · rw [restOfLine_append]
  · simp [restOfLine, starts]
  · intro blanks' name' rest' reads
    obtain less | same := Nat.lt_or_eq_of_le (reads.length_blanks_le ink)
    · exact .inl less
    · have parts := List.append_inj reads.tail same.symm
      have inside : ∀ d ∈ name', decide (d ≠ '\n') = true := by
        intro d mem
        exact decide_eq_true fun newline => reads.line (newline ▸ mem)
      refine .inr ⟨same, ?_⟩
      rw [restOfLine, parts.2]
      exact length_le_takeWhile inside rest'

end Ink

section Blank

variable {b c : Char} {before newlines : List Char}

/-- The name cannot stand in the line breaks at the end. -/
theorem Reads.length_blanks_lt {tail blanks name rest : List Char}
    (breaks : ∀ d ∈ newlines, d = '\n')
    (h : Reads (failedWord ++ (tail ++ newlines)) blanks name rest) :
    blanks.length < tail.length := by
  by_contra longer
  obtain ⟨d, more, named⟩ := List.exists_cons_of_ne_nil h.named
  have inside : (blanks ++ (name ++ rest))[blanks.length]? = some d := by simp [named]
  rw [← h.tail, List.getElem?_append_right (by omega)] at inside
  have newline := breaks d (List.mem_of_getElem? inside)
  exact h.line (by simp [named, newline])

theorem marker?_of_blank {tail : List Char} (blank : ∀ d ∈ tail, isBlank d = true) :
    marker? (failedWord ++ tail) =
      match (tail.drop 1).reverse.dropWhile (· = '\n') with
      | [] => none
      | c :: before => some ([c], tail.drop (before.length + 2)) := by
  have nothing : ∀ d, ([] : List Char).head? = some d → isBlank d = false := by
    intro d first
    cases first
  obtain ⟨taken, left⟩ := span_append blank nothing
  rw [List.append_nil] at taken left
  rw [marker?_append, taken, left]
  cases tail <;> rfl

theorem blank_append_breaks {front : List Char} (blank : ∀ d ∈ front, isBlank d = true)
    (breaks : ∀ d ∈ newlines, d = '\n') : ∀ d ∈ front ++ newlines, isBlank d = true := by
  intro d mem
  obtain inside | behind := List.mem_append.mp mem
  · exact blank d inside
  · rw [breaks d behind]
    rfl

/-- Where blanks are all there is, the last of them that is no line break is the name. -/
theorem marker?_blank (blank : ∀ d ∈ b :: (before ++ [c]), isBlank d = true) (other : c ≠ '\n')
    (breaks : ∀ d ∈ newlines, d = '\n') :
    marker? (failedWord ++ (b :: (before ++ [c]) ++ newlines)) = some ([c], newlines) := by
  have last : (((b :: (before ++ [c]) ++ newlines).drop 1).reverse).dropWhile (· = '\n') =
      c :: before.reverse := by
    have passed : ∀ d ∈ newlines.reverse, decide (d = '\n') = true := by
      intro d mem
      exact decide_eq_true (breaks d (List.mem_reverse.mp mem))
    have parts : ((b :: (before ++ [c]) ++ newlines).drop 1).reverse =
        newlines.reverse ++ c :: before.reverse := by simp
    rw [parts, List.dropWhile_append_of_pos passed,
      List.dropWhile_cons_of_neg (by simpa using other)]
  have behind : (b :: (before ++ [c]) ++ newlines).drop (before.reverse.length + 2) = newlines := by
    rw [List.drop_append_of_le_length (by simp)]
    simp
  rw [marker?_of_blank (blank_append_breaks blank breaks), last]
  exact congrArg (fun rest => some ([c], rest)) behind

theorem marked_blank (blank : ∀ d ∈ b :: (before ++ [c]), isBlank d = true) (other : c ≠ '\n')
    (breaks : ∀ d ∈ newlines, d = '\n') :
    Marked (failedWord ++ (b :: (before ++ [c]) ++ newlines)) [c] newlines := by
  refine ⟨b :: before, ⟨by simp, by simp, ?_, by simp, by simpa using other.symm⟩, ?_⟩
  · intro d mem
    exact blank d (by simpa using List.mem_append_left [c] mem)
  · intro blanks' name' rest' reads
    have most := reads.length_blanks_lt breaks
    rw [← List.cons_append, List.length_append, List.length_singleton] at most
    obtain less | same := Nat.lt_or_eq_of_le (Nat.le_of_lt_succ most)
    · exact .inl less
    · refine .inr ⟨same, ?_⟩
      have parts : b :: before ++ (c :: newlines) = blanks' ++ (name' ++ rest') := by
        rw [← reads.tail]
        simp
      have named := (List.append_inj parts same.symm).2
      -- behind the blank only line breaks are left
      match name', reads.named with
      | [d], _ => rfl
      | d :: e :: more, _ =>
        exfalso
        have newline : e = '\n' := by
          apply breaks
          rw [(List.cons.inj named).2]
          simp
        exact reads.line (by simp [newline])

theorem marker?_breaks {tail : List Char} (short : tail.length ≤ 1)
    (blank : ∀ d ∈ tail, isBlank d = true) (breaks : ∀ d ∈ newlines, d = '\n') :
    marker? (failedWord ++ (tail ++ newlines)) = none := by
  have unnamed : (((tail ++ newlines).drop 1).reverse).dropWhile (· = '\n') = [] := by
    rw [List.dropWhile_eq_nil_iff]
    intro d mem
    apply decide_eq_true
    apply breaks
    rw [List.mem_reverse, List.drop_append] at mem
    obtain inside | behind := List.mem_append.mp mem
    · rw [List.drop_eq_nil_of_le short] at inside
      cases inside
    · exact List.mem_of_mem_drop behind
  rw [marker?_of_blank (blank_append_breaks blank breaks), unnamed]

end Blank

/-- Line breaks can be set apart at the end of a text. -/
theorem exists_newlines (text : List Char) :
    ∃ front newlines, text = front ++ newlines ∧ (∀ d ∈ newlines, d = '\n') ∧
      front.getLast? ≠ some '\n' := by
  refine ⟨text.rdropWhile (· = '\n'), text.rtakeWhile (· = '\n'), ?_, ?_, ?_⟩
  · rw [List.rdropWhile, List.rtakeWhile, ← List.reverse_append, List.takeWhile_append_dropWhile,
      List.reverse_reverse]
  · intro d mem
    exact of_decide_eq_true (List.mem_rtakeWhile_imp (p := (· = '\n')) mem)
  · intro last
    have nonempty : text.rdropWhile (· = '\n') ≠ [] := by
      intro empty
      rw [empty] at last
      cases last
    have other := List.rdropWhile_last_not (· = '\n') text nonempty
    rw [List.getLast?_eq_some_getLast nonempty] at last
    simp [Option.some.inj last] at other

/-- The front of the text is read as it is marked. -/
def ReadAsMarked (text : List Char) : Prop :=
  (∃ name rest, marker? text = some (name, rest) ∧ Marked text name rest) ∨
    marker? text = none ∧ ¬Starts text

theorem readAsMarked_blank {tail : List Char} (blank : ∀ c ∈ tail, isBlank c = true) :
    ReadAsMarked (failedWord ++ tail) := by
  obtain ⟨front, newlines, rfl, breaks, last⟩ := exists_newlines tail
  have front_blank : ∀ d ∈ front, isBlank d = true :=
    fun d mem => blank d (List.mem_append_left newlines mem)
  by_cases short : front.length ≤ 1
  · refine .inr ⟨marker?_breaks short front_blank breaks, ?_⟩
    rintro ⟨blanks, name, rest, reads⟩
    have few := reads.length_blanks_lt breaks
    exact reads.spaced (List.length_eq_zero_iff.mp (by omega))
  · obtain ⟨b, more, rfl⟩ := List.exists_cons_of_length_pos (by omega : 0 < front.length)
    obtain rfl | ⟨before, c, rfl⟩ := List.eq_nil_or_concat more
    · simp at short
    · rw [List.concat_eq_append] at *
      have other : c ≠ '\n' := by
        rintro rfl
        rw [← List.cons_append, List.getLast?_concat] at last
        exact last rfl
      exact .inl ⟨[c], newlines, marker?_blank front_blank other breaks,
        marked_blank front_blank other breaks⟩

theorem readAsMarked_ink {blanks : List Char} {c : Char} (blank : ∀ d ∈ blanks, isBlank d = true)
    (ink : isBlank c = false) (body : List Char) :
    ReadAsMarked (failedWord ++ (blanks ++ c :: body)) := by
  have read := marker?_ink blank ink body
  by_cases spaced : blanks = []
  · rw [if_pos spaced] at read
    refine .inr ⟨read, ?_⟩
    rintro ⟨blanks', name, rest, reads⟩
    have few := reads.length_blanks_le ink
    rw [spaced, List.length_nil] at few
    exact reads.spaced (List.length_eq_zero_iff.mp (Nat.le_zero.mp few))
  · rw [if_neg spaced] at read
    exact .inl ⟨_, _, read, marked_ink blank ink spaced body⟩

theorem readAsMarked (text : List Char) : ReadAsMarked text := by
  cases word : rest? failedWord text with
  | none =>
    refine .inr ⟨by rw [marker?, word]; rfl, ?_⟩
    rintro ⟨blanks, name, rest, reads⟩
    rw [reads.parts, rest?_append] at word
    cases word
  | some tail =>
    obtain rfl := rest?_eq_some_iff.mp word
    by_cases blank : ∀ c ∈ tail, isBlank c = true
    · exact readAsMarked_blank blank
    · obtain ⟨blanks, c, body, rfl, front_blank, ink⟩ := exists_ink blank
      exact readAsMarked_ink front_blank ink body

theorem marker?_eq_some_iff {text name rest : List Char} :
    marker? text = some (name, rest) ↔ Marked text name rest := by
  obtain ⟨name', rest', read, marked⟩ | ⟨unread, unmarked⟩ := readAsMarked text
  · rw [read, Option.some_inj, Prod.mk_inj]
    constructor
    · rintro ⟨rfl, rfl⟩
      exact marked
    · exact marked.unique
  · rw [unread]
    exact ⟨nofun, fun marked => absurd marked.starts unmarked⟩

theorem marker?_eq_none_iff {text : List Char} : marker? text = none ↔ ¬Starts text := by
  obtain ⟨name, rest, read, marked⟩ | ⟨unread, unmarked⟩ := readAsMarked text
  · rw [read]
    exact ⟨nofun, fun unmarked => absurd marked.starts unmarked⟩
  · exact ⟨fun _ => unmarked, fun _ => unread⟩

/-- A marker in a text, and what stands between it and the next one. -/
structure Mark where
  name : List Char
  segment : List Char

/-- The record of a marker is read from its own name and segment. -/
def Mark.failure (mark : Mark) : Finding := TestReport.failure mark.name mark.segment

/-- The markers of a text from the left, none within another, and what stands in front of the
first one. -/
inductive Marks : List Char → List Char → List Mark → Prop where
  | none {text : List Char} (unmarked : ∀ passed ahead, text = passed ++ ahead → ¬Starts ahead) :
    Marks text text []
  | found {before here name rest segment : List Char} {marks : List Mark}
    (first : ∀ passed ahead, before = passed ++ ahead → ahead ≠ [] → ¬Starts (ahead ++ here))
    (marked : Marked here name rest) (later : Marks rest segment marks) :
    Marks (before ++ here) before (⟨name, segment⟩ :: marks)

theorem not_starts_nil : ¬Starts [] := by
  rintro ⟨blanks, name, rest, reads⟩
  have parts := reads.parts
  simp [failedWord] at parts

theorem marks_nil : Marks [] [] [] := by
  refine .none ?_
  intro passed ahead parts
  rw [(List.append_eq_nil_iff.mp parts.symm).2]
  exact not_starts_nil

/-- A marker at the front of a text is its first. -/
theorem Marks.front {text name rest segment : List Char} {marks : List Mark}
    (marked : Marked text name rest) (later : Marks rest segment marks) :
    Marks text [] (⟨name, segment⟩ :: marks) := by
  have here : Marks ([] ++ text) [] (⟨name, segment⟩ :: marks) := by
    refine .found ?_ marked later
    intro passed ahead parts nonempty
    exact absurd (List.append_eq_nil_iff.mp parts.symm).2 nonempty
  exact here

/-- The search passes a character where no marker starts. -/
theorem Marks.cons {c : Char} {text front : List Char} {marks : List Mark}
    (unmarked : ¬Starts (c :: text)) (h : Marks text front marks) :
    Marks (c :: text) (c :: front) marks := by
  cases h with
  | none later =>
    refine .none ?_
    intro passed ahead parts
    cases passed with
    | nil =>
      rw [List.nil_append] at parts
      exact parts ▸ unmarked
    | cons d passed => exact later passed ahead (List.cons.inj parts).2
  | @found _ here name rest segment marks first marked later =>
    rw [← List.cons_append]
    refine .found ?_ marked later
    intro passed ahead parts nonempty
    cases passed with
    | nil =>
      rw [List.nil_append] at parts
      exact parts ▸ unmarked
    | cons d passed => exact first passed ahead (List.cons.inj parts).2 nonempty

/-- The markers of a text are determined. -/
theorem Marks.unique {text front front' : List Char} {marks marks' : List Mark}
    (h : Marks text front marks) (h' : Marks text front' marks') :
    front = front' ∧ marks = marks' := by
  induction h generalizing front' marks' with
  | none unmarked =>
    cases h' with
    | none => exact ⟨rfl, rfl⟩
    | found _ marked => exact absurd marked.starts (unmarked _ _ rfl)
  | @found before here name rest segment marks first marked _ ih =>
    generalize whole : before ++ here = text at h'
    cases h' with
    | none unmarked => exact absurd marked.starts (unmarked _ _ whole.symm)
    | @found _ here' name' rest' segment' marks' first' marked' later' =>
      -- the marker further left would start in front of the first one
      have same : before = front' ∧ here = here' := by
        obtain ⟨ahead, rfl, rfl⟩ | ⟨ahead, rfl, rfl⟩ := List.append_eq_append_iff.mp whole
        · by_cases nonempty : ahead = []
          · simp [nonempty]
          · exact absurd marked.starts (first' before ahead rfl nonempty)
        · by_cases nonempty : ahead = []
          · simp [nonempty]
          · exact absurd marked'.starts (first front' ahead rfl nonempty)
      obtain ⟨rfl, rfl⟩ := same
      obtain ⟨rfl, rfl⟩ := marked.unique marked'
      obtain ⟨rfl, rfl⟩ := ih later'
      exact ⟨rfl, rfl⟩

theorem failuresFrom_of_marker? {text name rest : List Char}
    (found : marker? text = some (name, rest)) (name? : Option (List Char)) (segment : List Char) :
    failuresFrom name? segment text =
      (name?.map (failure · segment.reverse)).toList ++ failuresFrom (some name) [] rest := by
  rw [failuresFrom]
  split
  · next name' rest' found' =>
    rw [found] at found'
    cases found'
    rfl
  · next none =>
    rw [found] at none
    cases none

theorem failuresFrom_cons {c : Char} {text : List Char} (unmarked : marker? (c :: text) = none)
    (name? : Option (List Char)) (segment : List Char) :
    failuresFrom name? segment (c :: text) = failuresFrom name? (c :: segment) text := by
  rw [failuresFrom]
  split
  · next found =>
    rw [unmarked] at found
    cases found
  · rfl

/-- The failures are those of the markers. -/
theorem exists_marks (name? : Option (List Char)) (segment text : List Char) :
    ∃ front marks, Marks text front marks ∧ failuresFrom name? segment text =
      (name?.map (failure · (segment.reverse ++ front))).toList ++ marks.map Mark.failure := by
  fun_induction failuresFrom name? segment text with
  | case1 name? segment text name rest found ih =>
    obtain ⟨front, marks, later, read⟩ := ih
    have marked := marker?_eq_some_iff.mp found
    refine ⟨[], ⟨name, front⟩ :: marks, .front marked later, ?_⟩
    rw [read, List.append_nil]
    rfl
  | case2 name? segment => exact ⟨[], [], marks_nil, by simp⟩
  | case3 name? segment c text found ih =>
    obtain ⟨front, marks, later, read⟩ := ih
    refine ⟨c :: front, marks, later.cons (marker?_eq_none_iff.mp found), ?_⟩
    rw [read]
    simp

/-- Whole lines in which ink follows every `FAILED`. Nothing behind them changes how their
markers are read. -/
structure Closed (text : List Char) : Prop where
  lines : WholeLines text
  ink : ∀ front after, text = front ++ (failedWord ++ after) → ∃ c ∈ after, isBlank c = false

theorem Closed.of_append {front text : List Char} (h : Closed (front ++ text)) : Closed text := by
  refine ⟨h.lines.of_append, ?_⟩
  intro passed after parts
  exact h.ink (front ++ passed) after (by rw [parts, List.append_assoc])

theorem restOfLine_append_lines {lines : List Char} (h : WholeLines lines) (nonempty : lines ≠ [])
    (more : List Char) :
    restOfLine (lines ++ more) = ((restOfLine lines).1, (restOfLine lines).2 ++ more) := by
  obtain ⟨front, rfl⟩ := h.eq_nil_or_concat.resolve_left nonempty
  rw [List.append_assoc, List.singleton_append]
  unfold restOfLine
  clear h nonempty
  induction front with
  | nil => simp
  | cons c front ih =>
    by_cases here : c = '\n'
    · simp [here]
    · simpa [here] using ih

theorem Closed.marker?_append {text : List Char} (h : Closed text) (nonempty : text ≠ [])
    (more : List Char) :
    marker? (text ++ more) = (marker? text).map fun (name, rest) => (name, rest ++ more) := by
  have read := h.lines.rest?_append nonempty (by decide : '\n' ∉ failedWord) more
  cases word : rest? failedWord text with
  | none =>
    rw [word] at read
    rw [marker?, marker?, read, word]
    rfl
  | some tail =>
    obtain rfl := rest?_eq_some_iff.mp word
    obtain ⟨c, mem, ink⟩ := h.ink [] tail rfl
    have inside : ¬∀ d ∈ tail, isBlank d = true := by
      intro blank
      rw [blank c mem] at ink
      cases ink
    obtain ⟨blanks, d, body, rfl, blank, ink⟩ := exists_ink inside
    have lines : WholeLines (d :: body) := by
      have whole := h.lines
      rw [← List.append_assoc] at whole
      exact whole.of_append
    rw [List.append_assoc, List.append_assoc, List.cons_append, marker?_ink blank ink,
      marker?_ink blank ink]
    by_cases spaced : blanks = []
    · rw [if_pos spaced, if_pos spaced]
      rfl
    · rw [if_neg spaced, if_neg spaced, ← List.cons_append,
        restOfLine_append_lines lines (List.cons_ne_nil d body)]
      rfl

theorem Closed.of_marker? {text name rest : List Char} (h : Closed text)
    (found : marker? text = some (name, rest)) : Closed rest := by
  obtain ⟨blanks, reads, -⟩ := marker?_eq_some_iff.mp found
  rw [reads.parts, ← List.append_assoc, ← List.append_assoc] at h
  exact h.of_append

/-- A marker behind a closed text ends the segment of the last marker in it. -/
theorem failuresFrom_append {text more : List Char} (h : Closed text)
    (starts : Starts more) (name? : Option (List Char)) (segment : List Char) :
    failuresFrom name? segment (text ++ more) =
      failuresFrom name? segment text ++ failuresFrom none [] more := by
  fun_induction failuresFrom name? segment text with
  | case1 name? segment text name rest found ih =>
    have nonempty : text ≠ [] := by
      rintro rfl
      cases found
    have read := h.marker?_append nonempty more
    rw [found] at read
    rw [failuresFrom_of_marker? read, ih (h.of_marker? found), List.append_assoc]
  | case2 name? segment =>
    -- the segment ends where the marker behind the text starts
    obtain ⟨name, rest, found, -⟩ | ⟨-, unmarked⟩ := readAsMarked more
    · rw [List.nil_append, failuresFrom_of_marker? found, failuresFrom_of_marker? found]
      rfl
    · exact absurd starts unmarked
  | case3 name? segment c text found ih =>
    have read := h.marker?_append (List.cons_ne_nil c text) more
    rw [found, List.cons_append] at read
    have later : Closed ([c] ++ text) := h
    rw [List.cons_append, failuresFrom_cons read, ih later.of_append]

/-- The word does not overlap itself. -/
theorem eq_nil_of_failedWord {after ahead behind : List Char}
    (last : contains failedWord after = false)
    (same : failedWord ++ after = ahead ++ (failedWord ++ behind)) : ahead = [] := by
  obtain ⟨more, -, parts⟩ | ⟨inner, word, rest⟩ := List.append_eq_append_iff.mp same
  · have present := contains_append more failedWord behind
    rw [← parts, last] at present
    cases present
  · cases inner with
    | nil =>
      have present := contains_append [] failedWord behind
      rw [List.nil_append, rest, List.nil_append, last] at present
      cases present
    | cons c inner =>
      cases ahead with
      | nil => rfl
      | cons d ahead =>
        -- the second word would start within the first one
        exfalso
        have absent : 'F' ∉ failedWord.tail := by decide
        have first : c = 'F' := (List.cons.inj rest).1.symm
        apply absent
        rw [word, ← first]
        simp

/-- Ink behind the last `FAILED` is ink behind each of them. -/
theorem closed_of_last {text front after : List Char} (lines : WholeLines text)
    (parts : text = front ++ (failedWord ++ after)) (last : contains failedWord after = false)
    (ink : ∃ c ∈ after, isBlank c = false) : Closed text := by
  refine ⟨lines, ?_⟩
  intro passed behind again
  have same := parts.symm.trans again
  obtain ⟨c, mem, ink⟩ := ink
  obtain ⟨ahead, -, rest⟩ | ⟨ahead, -, rest⟩ := List.append_eq_append_iff.mp same
  · rw [eq_nil_of_failedWord last rest, List.nil_append] at rest
    exact ⟨c, List.append_cancel_left rest ▸ mem, ink⟩
  · -- the last word stands further right, and so does the ink behind it
    have sizes := congrArg List.length rest
    simp only [List.length_append] at sizes
    have inside : after <:+ failedWord ++ behind := by
      rw [rest, ← List.append_assoc]
      exact List.suffix_append _ _
    have shorter : after <:+ behind :=
      List.suffix_of_suffix_length_le inside (List.suffix_append _ _) (by omega)
    exact ⟨c, shorter.mem mem, ink⟩

theorem isInfix_of_place? {text file : List Char} {line : UInt32}
    (found : place? text = some (file, line)) : file <:+: text := by
  obtain ⟨name, rfl, inside⟩ : ∃ name, file = trim name ∧ name <:+: text := by
    unfold place? at found
    dsimp only [Option.bind_eq_bind] at found
    split at found
    · cases found
    split at found
    all_goals
      obtain ⟨name, named, found⟩ := Option.bind_eq_some_iff.mp found
      refine ⟨name, ?_, ?_⟩
      · repeat' split at found
        all_goals cases found
        rfl
    · cases named
      exact (List.takeWhile_prefix _).isInfix.trans (List.dropWhile_suffix _).isInfix
    · obtain ⟨c, last, named⟩ := Option.bind_eq_some_iff.mp named
      split at named
      · cases named
      cases named
      have mem : c ∈ text :=
        (List.takeWhile_prefix isBlank).mem (List.mem_of_mem_drop (List.mem_of_getLast? last))
      obtain ⟨front, rest, rfl⟩ := List.append_of_mem mem
      exact ⟨front, rest, by simp⟩
  exact (isInfix_trim name).trans inside

/-- The file of a place is named in the text. -/
theorem isInfix_of_location? {before : Option Char} {text file : List Char} {line : UInt32}
    (found : location? before text = some (file, line)) : file <:+: text := by
  induction text generalizing before with
  | nil => cases found
  | cons c text ih =>
    unfold location? at found
    obtain here | ⟨-, later⟩ := (Option.orElse_eq_some _ _ _).mp found
    · split at here
      · cases here
      · obtain ⟨rest, word, place⟩ := Option.bind_eq_some_iff.mp here
        rw [rest?_eq_some_iff.mp word]
        exact (isInfix_of_place? place).trans (List.suffix_append _ _).isInfix
    · exact (ih later).trans (List.suffix_cons c text).isInfix

theorem Mark.isInfix_file (mark : Mark) : mark.failure.file.toList <:+: mark.segment := by
  unfold failure TestReport.failure
  cases found : location? none mark.segment with
  | none => exact ⟨[], mark.segment, by simp [Finding.testFailure]⟩
  | some place =>
    obtain ⟨file, line⟩ := place
    simpa [Finding.testFailure] using isInfix_of_location? found

/-- The text of an output. -/
def decoded (output : Bytes) : List Char := (Utf8.decodeLossy output).toList

theorem failuresFrom_of_marks {text front : List Char} {marks : List Mark}
    (h : Marks text front marks) : failuresFrom none [] text = marks.map Mark.failure := by
  obtain ⟨front', marks', h', read⟩ := exists_marks none [] text
  obtain ⟨rfl, rfl⟩ := h.unique h'
  simpa using read

/-- A failed run without markers is one failure, with markers each of them is one. -/
theorem parse_of_marks {output : Bytes} {front : List Char} {marks : List Mark}
    (h : Marks (decoded output) front marks) :
    parse false output =
      if marks = [] then [.testFailure "" "" 0 testFailed] else marks.map Mark.failure := by
  change ofText (decoded output) = _
  unfold ofText
  rw [failuresFrom_of_marks h]
  cases marks <;> rfl

theorem Marks.ne_nil {text front passed ahead : List Char} {marks : List Mark}
    (h : Marks text front marks) (parts : text = passed ++ ahead) (starts : Starts ahead) :
    marks ≠ [] := by
  cases h with
  | none unmarked => exact absurd starts (unmarked passed ahead parts)
  | found => exact List.cons_ne_nil _ _

theorem parse_of_starts {output : Bytes} {passed ahead : List Char}
    (parts : decoded output = passed ++ ahead) (starts : Starts ahead) :
    parse false output = failuresFrom none [] (decoded output) := by
  obtain ⟨front, marks, h, -⟩ := exists_marks none [] (decoded output)
  rw [parse_of_marks h, if_neg (h.ne_nil parts starts), failuresFrom_of_marks h]

/-- Where one report ends and another begins with a marker, no failure is lost. -/
theorem parse_append {output more : Bytes} {front after passed ahead : List Char}
    (newline : output.getLast? = some 10)
    (parts : decoded output = front ++ (failedWord ++ after))
    (last : contains failedWord after = false) (ink : ∃ c ∈ after, isBlank c = false)
    (marker : decoded output = passed ++ ahead) (starts : Starts ahead)
    (starts_more : Starts (decoded more)) :
    parse false (output ++ more) = parse false output ++ parse false more := by
  obtain ⟨lines, read⟩ := Utf8.exists_decodeLossy_ascii newline (by decide)
  have alone : decoded output = lines ++ ['\n'] := by
    have nothing := read []
    rwa [List.append_nil] at nothing
  have whole : decoded (output ++ more) = decoded output ++ decoded more := by
    rw [alone, List.append_assoc]
    exact read more
  have ends : WholeLines (decoded output) := alone ▸ wholeLines_concat lines
  have closed := closed_of_last ends parts last ink
  rw [parse_of_starts whole starts_more, parse_of_starts marker starts,
    parse_of_starts (List.nil_append _).symm starts_more, whole,
    failuresFrom_append closed starts_more]

theorem parse_eq_nil_iff (success : Bool) (output : Bytes) :
    parse success output = [] ↔ success = true := by
  cases success with
  | false => simp [parse_failed_ne_nil]
  | true => simp [parse]

/-- No failure is lost, and none is mixed with another. -/
theorem parse_by_markers (output : Bytes) :
    (∀ success, parse success output = [] ↔ success = true) ∧
      (∃ front marks, Marks (decoded output) front marks ∧
        (∀ front' marks', Marks (decoded output) front' marks' →
          front' = front ∧ marks' = marks) ∧
        (parse false output).length = max 1 marks.length ∧
        (marks ≠ [] → parse false output = marks.map Mark.failure) ∧
        ∀ mark ∈ marks, mark.failure.file.toList <:+: mark.segment) ∧
      ∀ more front after passed ahead, output.getLast? = some 10 →
        decoded output = front ++ (failedWord ++ after) → contains failedWord after = false →
        (∃ c ∈ after, isBlank c = false) → decoded output = passed ++ ahead → Starts ahead →
        Starts (decoded more) →
          parse false (output ++ more) = parse false output ++ parse false more := by
  refine ⟨fun success => parse_eq_nil_iff success output, ?_, ?_⟩
  · obtain ⟨front, marks, h, -⟩ := exists_marks none [] (decoded output)
    have read := parse_of_marks h
    refine ⟨front, marks, h, fun _ _ h' => h'.unique h, ?_, ?_, fun mark _ => mark.isInfix_file⟩
    · rw [read]
      cases marks with
      | nil => rfl
      | cons mark marks => simp
    · intro nonempty
      rw [read, if_neg nonempty]
  · intro more front after passed ahead newline parts last ink marker starts starts_more
    exact parse_append newline parts last ink marker starts starts_more

/-- The name of the first failure is a broken byte, and the second report names no place. -/
theorem parse_by_markers_broken :
    let output : Bytes := [0x46, 0x41, 0x49, 0x4c, 0x45, 0x44, 0x20, 0xff, 0x0a]
    let more := Utf8.encode "FAILED\n\nFAILED x"
    parse false (output ++ more) = parse false output ++ parse false more := by
  intro output more
  have read : decoded output = failedWord ++ [' ', '\uFFFD', '\n'] := by
    rw [decoded, Utf8.decodeLossy, String.toList_ofList]
    rfl
  have read_more : decoded more = failedWord ++ ['\n', '\n'] ++ "FAILED x".toList := by
    rw [decoded, Utf8.decodeLossy_encode]
    decide
  have starts : Starts (failedWord ++ [' ', '\uFFFD', '\n']) :=
    ⟨[' '], ['\uFFFD'], ['\n'], ⟨rfl, by simp, by simp [isBlank], by simp, by simp⟩⟩
  have last : contains failedWord [' ', '\uFFFD', '\n'] = false :=
    not_contains_of_not_mem (c := 'F') (by decide) (by simp)
  have starts_more : Starts (decoded more) := by
    rw [read_more]
    exact ⟨['\n', '\n'], "FAILED x".toList, [],
      ⟨by decide, by simp, by simp [isBlank], by decide, by decide⟩⟩
  exact (parse_by_markers output).2.2 more [] [' ', '\uFFFD', '\n'] [] _ rfl read last
    ⟨'\uFFFD', by simp, rfl⟩ read starts starts_more

end Mender.TestReport
