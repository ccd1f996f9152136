import Mathlib
import Mender.Text.CharClass

/-!
# Trimming at one end and at both

Blanks around a text do not matter to trimming it. What is trimmed at both ends is what
is trimmed at the right end alone, unless blanks stand in front of something else.
-/

namespace Mender.Text

/-- Trimming takes nothing but blanks off the end. -/
theorem exists_trimRight_append (cs : List Char) :
    ∃ blanks, cs = trimRight cs ++ blanks ∧ ∀ c ∈ blanks, isBlank c = true := by
  refine ⟨(cs.reverse.takeWhile isBlank).reverse, ?_, ?_⟩
  · rw [trimRight, ← List.reverse_append, List.takeWhile_append_dropWhile, List.reverse_reverse]
  · intro c mem
    exact List.all_eq_true.mp List.all_takeWhile c (List.mem_reverse.mp mem)

theorem trimRight_trimRight (cs : List Char) : trimRight (trimRight cs) = trimRight cs := by
  obtain ⟨blanks, parts, blank⟩ := exists_trimRight_append cs
  have trimmed := trimRight_append_blank (s := trimRight cs) blank
  rw [← parts] at trimmed
  exact trimmed.symm

theorem trimRight_eq_nil_iff {cs : List Char} :
    trimRight cs = [] ↔ ∀ c ∈ cs, isBlank c = true := by
  unfold trimRight
  rw [List.reverse_eq_nil_iff]
  refine trimLeft_eq_nil_iff.trans ?_
  simp

theorem trim_cons_blank {c : Char} (blank : isBlank c = true) (cs : List Char) :
    trim (c :: cs) = trim cs := by
  unfold trim trimLeft
  rw [List.dropWhile_cons_of_pos blank]

theorem trim_blank_append {blanks : List Char} (blank : ∀ c ∈ blanks, isBlank c = true)
    (cs : List Char) : trim (blanks ++ cs) = trim cs := by
  induction blanks with
  | nil => rfl
  | cons c blanks ih =>
    obtain ⟨here, later⟩ := List.forall_mem_cons.mp blank
    rw [List.cons_append, trim_cons_blank here, ih later]

theorem trim_cons_ink {c : Char} (ink : isBlank c = false) (cs : List Char) :
    trim (c :: cs) = trimRight (c :: cs) := by
  unfold trim trimLeft
  rw [List.dropWhile_cons_of_neg (by simp [ink])]

/-- A text with ink in it starts with it, but for blanks. -/
theorem exists_ink {cs : List Char} (h : ¬∀ c ∈ cs, isBlank c = true) :
    ∃ blanks c more, cs = blanks ++ c :: more ∧ (∀ d ∈ blanks, isBlank d = true) ∧
      isBlank c = false := by
  induction cs with
  | nil => simp at h
  | cons d cs ih =>
    by_cases blank : isBlank d = true
    · obtain ⟨blanks, c, more, rfl, all, ink⟩ := ih fun all => h (List.forall_mem_cons.mpr ⟨blank, all⟩)
      exact ⟨d :: blanks, c, more, rfl, List.forall_mem_cons.mpr ⟨blank, all⟩, ink⟩
    · exact ⟨[], d, cs, rfl, nofun, by simpa using blank⟩

theorem trimRight_append_ink {c : Char} (ink : isBlank c = false) (cs : List Char) :
    trimRight (cs ++ [c]) = cs ++ [c] := by
  simp [trimRight, ink]

theorem trimRight_cons_ink {c : Char} (ink : isBlank c = false) (cs : List Char) :
    ∃ rest, trimRight (c :: cs) = c :: rest := by
  obtain ⟨blanks, parts, blank⟩ := exists_trimRight_append (c :: cs)
  cases kept : trimRight (c :: cs) with
  | nil =>
    rw [kept, List.nil_append] at parts
    rw [blank c (parts ▸ List.mem_cons_self)] at ink
    cases ink
  | cons d rest =>
    rw [kept] at parts
    cases parts
    exact ⟨rest, rfl⟩

theorem prefix_trimRight (cs : List Char) : trimRight cs <+: cs := by
  obtain ⟨blanks, parts, -⟩ := exists_trimRight_append cs
  exact ⟨blanks, parts.symm⟩

theorem isInfix_trim (cs : List Char) : trim cs <:+: cs :=
  (prefix_trimRight _).isInfix.trans (List.dropWhile_suffix _).isInfix

/-- A trimmed text starts with ink. -/
theorem exists_ink_of_trim {cs : List Char} (trimmed : trim cs = cs) (nonempty : cs ≠ []) :
    ∃ c more, cs = c :: more ∧ isBlank c = false := by
  obtain ⟨c, more, rfl⟩ := List.exists_cons_of_ne_nil nonempty
  refine ⟨c, more, rfl, ?_⟩
  by_contra blank
  rw [trim_cons_blank (by simpa using blank)] at trimmed
  have size := (isInfix_trim more).length_le
  rw [trimmed, List.length_cons] at size
  omega

theorem trim_append_blank {cs blanks : List Char} (blank : ∀ c ∈ blanks, isBlank c = true) :
    trim (cs ++ blanks) = trim cs := by
  unfold trim trimLeft
  rw [List.dropWhile_append]
  split
  · next empty =>
    have nothing : blanks.dropWhile isBlank = [] := trimLeft_eq_nil_iff.mpr blank
    rw [nothing, List.isEmpty_iff.mp empty]
  · exact trimRight_append_blank blank

theorem trim_of_blank {cs : List Char} (blank : ∀ c ∈ cs, isBlank c = true) : trim cs = [] := by
  rw [trim, trimLeft_eq_nil_iff.mpr blank]
  rfl

theorem exists_trim_eq_cons {cs : List Char} (h : ¬∀ c ∈ cs, isBlank c = true) :
    ∃ c rest, trim cs = c :: rest ∧ isBlank c = false := by
  obtain ⟨blanks, c, more, rfl, blank, ink⟩ := exists_ink h
  obtain ⟨rest, kept⟩ := trimRight_cons_ink ink more
  exact ⟨c, rest, by rw [trim_blank_append blank, trim_cons_ink ink, kept], ink⟩

theorem trim_eq_nil_iff {cs : List Char} : trim cs = [] ↔ ∀ c ∈ cs, isBlank c = true := by
  refine ⟨fun empty => ?_, trim_of_blank⟩
  by_contra inked
  obtain ⟨c, rest, kept, -⟩ := exists_trim_eq_cons inked
  rw [empty] at kept
  cases kept

/-- A trimmed text is blank only if it is empty. -/
theorem trim_eq_nil_of_blank {cs : List Char} (blank : ∀ c ∈ trim cs, isBlank c = true) :
    trim cs = [] := by
  by_contra nonempty
  rw [trim_eq_nil_iff] at nonempty
  obtain ⟨c, rest, kept, ink⟩ := exists_trim_eq_cons nonempty
  rw [blank c (by simp [kept])] at ink
  cases ink

/-- Blanks stand in front of something else. -/
def startsBlank (cs : List Char) : Bool := cs.head?.any isBlank && !cs.all isBlank

theorem not_blank_of_trimLeft {cs rest : List Char} {c : Char} (h : trimLeft cs = c :: rest) :
    isBlank c = false := by
  induction cs with
  | nil => cases h
  | cons d cs ih =>
    by_cases blank : isBlank d = true
    · rw [trimLeft, List.dropWhile_cons_of_pos blank] at h
      exact ih h
    · rw [trimLeft, List.dropWhile_cons_of_neg blank] at h
      cases h
      simpa using blank

theorem trim_ne_trimRight {c : Char} {cs : List Char} (blank : isBlank c = true)
    (more : ¬∀ d ∈ c :: cs, isBlank d = true) : trim (c :: cs) ≠ trimRight (c :: cs) := by
  intro same
  obtain ⟨blanks, parts, -⟩ := exists_trimRight_append (c :: cs)
  obtain ⟨blanks', parts', -⟩ := exists_trimRight_append (trimLeft (c :: cs))
  cases front : trimRight (c :: cs) with
  | nil => exact more (trimRight_eq_nil_iff.mp front)
  | cons d rest =>
    rw [← trim, same, front, List.cons_append] at parts'
    rw [front, List.cons_append] at parts
    cases parts
    rw [not_blank_of_trimLeft parts'] at blank
    cases blank

/-- A blank in front is what makes trimming at both ends differ. -/
theorem trim_eq_trimRight_iff (cs : List Char) :
    trim cs = trimRight cs ↔ startsBlank cs = false := by
  cases cs with
  | nil => simp [startsBlank, trimRight]
  | cons c cs =>
    by_cases blank : isBlank c = true
    · by_cases all : ∀ d ∈ c :: cs, isBlank d = true
      · rw [trim_of_blank all, trimRight_eq_nil_iff.mpr all]
        simpa [startsBlank, blank] using fun d mem => all d (List.mem_cons_of_mem c mem)
      · have ahead : startsBlank (c :: cs) = true := by
          rw [← List.all_eq_true, Bool.not_eq_true] at all
          simp only [startsBlank, all, List.head?_cons, Option.any_some, blank]
          rfl
        rw [ahead]
        exact ⟨fun same => absurd same (trim_ne_trimRight blank all), nofun⟩
    · have kept : trimLeft (c :: cs) = c :: cs := List.dropWhile_cons_of_neg blank
      rw [trim, kept]
      simp [startsBlank, blank]

end Mender.Text
