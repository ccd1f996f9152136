import Mathlib
import Mender.Text.Search

/-!
# What a search finds

A pattern is found where it stands first. Text behind a character that the pattern does
not have is searched on its own. A row of characters ends at the first other one, and parts
end at their separator. Occurrences are replaced one by one, and what is between them stays.
-/

namespace Mender.Text

variable {pattern : List Char}

theorem rest?_eq_none_iff {text : List Char} :
    rest? pattern text = none ↔ ∀ rest, text ≠ pattern ++ rest := by
  rw [Option.eq_none_iff_forall_ne_some]
  simp [rest?_eq_some_iff]

theorem startsWith_iff {text : List Char} : startsWith pattern text = true ↔ pattern <+: text := by
  rw [startsWith, Option.isSome_iff_exists]
  constructor
  · rintro ⟨rest, found⟩
    exact ⟨rest, (rest?_eq_some_iff.mp found).symm⟩
  · rintro ⟨rest, parts⟩
    exact ⟨rest, rest?_eq_some_iff.mpr parts.symm⟩

theorem cut?_cons (pattern : List Char) (c : Char) (cs : List Char) :
    cut? pattern (c :: cs) =
      match rest? pattern (c :: cs) with
      | some rest => some ([], rest)
      | none => (cut? pattern cs).map fun (before, rest) => (c :: before, rest) := rfl

theorem cut?_append_self (pattern rest : List Char) :
    cut? pattern (pattern ++ rest) = some ([], rest) := by
  cases text : pattern ++ rest with
  | nil =>
    obtain ⟨rfl, rfl⟩ := List.append_eq_nil_iff.mp text
    rfl
  | cons c cs =>
    have front : rest? pattern (c :: cs) = some rest := rest?_eq_some_iff.mpr text.symm
    rw [cut?_cons, front]

/-- A pattern stands first where no earlier end of the text in front starts with it. -/
theorem cut?_of_first {before rest : List Char}
    (first : ∀ passed ahead, before = passed ++ ahead → ahead ≠ [] →
      rest? pattern (ahead ++ (pattern ++ rest)) = none) :
    cut? pattern (before ++ (pattern ++ rest)) = some (before, rest) := by
  induction before with
  | nil => exact cut?_append_self pattern rest
  | cons c before ih =>
    have here := first [] (c :: before) rfl (List.cons_ne_nil c before)
    have later := ih fun passed ahead parts => first (c :: passed) ahead (congrArg (c :: ·) parts)
    rw [List.cons_append] at here ⊢
    rw [cut?_cons, here, later]
    rfl

/-- A text that stands again a few repetitions of one character later has no other. -/
theorem eq_of_shifted {text rest : List Char} {c : Char} {k : Nat} (moved : 0 < k)
    (again : text <+: List.replicate k c ++ (text ++ rest)) : ∀ d ∈ text, d = c := by
  have each (i : Nat) : ∀ d, text[i]? = some d → d = c := by
    induction i using Nat.strong_induction_on with
    | _ i ih =>
      intro d here
      obtain ⟨more, whole⟩ := again
      have inside : i < text.length := (List.getElem?_eq_some_iff.mp here).1
      have shifted : (List.replicate k c ++ (text ++ rest))[i]? = some d := by
        rw [← whole, List.getElem?_append_left inside, here]
      by_cases near : i < k
      · rw [List.getElem?_append_left (by simpa using near), List.getElem?_replicate,
          if_pos near] at shifted
        exact (Option.some.inj shifted).symm
      · rw [List.getElem?_append_right (by simpa using near), List.length_replicate,
          List.getElem?_append_left (by omega)] at shifted
        exact ih (i - k) (by omega) d shifted
  intro d mem
  obtain ⟨i, here⟩ := List.mem_iff_getElem?.mp mem
  exact each i d here

theorem contains_append (before pattern rest : List Char) :
    contains pattern (before ++ (pattern ++ rest)) = true := by
  induction before with
  | nil =>
    rw [contains, List.nil_append, cut?_append_self]
    rfl
  | cons c before ih =>
    rw [contains, List.cons_append, cut?_cons]
    cases rest? pattern (c :: (before ++ (pattern ++ rest))) with
    | some found => rfl
    | none =>
      rw [contains] at ih
      simpa using ih

/-- What a text does not contain, it does not contain with more behind it. -/
theorem cut?_append_of_not_contains {text : List Char} (more : List Char)
    (absent : contains pattern text = false) : cut? (pattern ++ more) text = none := by
  cases found : cut? (pattern ++ more) text with
  | none => rfl
  | some parts =>
    obtain ⟨before, rest⟩ := parts
    have present := contains_append before pattern (more ++ rest)
    rw [← List.append_assoc pattern, ← List.append_assoc, ← eq_of_cut? found, absent] at present
    cases present

/-- Where a pattern stands first in a text. -/
structure FirstAt (pattern text before rest : List Char) : Prop where
  parts : text = before ++ (pattern ++ rest)
  first : ∀ before' rest', text = before' ++ (pattern ++ rest') → before.length ≤ before'.length

section FirstAt

variable {text before rest : List Char}

theorem FirstAt.of_cut? (h : cut? pattern text = some (before, rest)) :
    FirstAt pattern text before rest := by
  induction text generalizing before with
  | nil =>
    rw [cut?] at h
    split at h
    · next empty =>
      cases h
      exact ⟨by simpa using empty, by simp⟩
    · cases h
  | cons c cs ih =>
    refine ⟨by simpa using eq_of_cut? h, ?_⟩
    rw [cut?_cons] at h
    split at h
    · cases h
      simp
    · next missing =>
      obtain ⟨⟨b, r⟩, found, same⟩ := Option.map_eq_some_iff.mp h
      cases same
      intro before' rest' parts
      cases before' with
      | nil =>
        rw [List.nil_append] at parts
        rw [parts, rest?_append] at missing
        cases missing
      | cons d before' =>
        have later := (ih found).first before' rest' (List.cons.inj parts).2
        simpa using later

theorem FirstAt.cut?_eq (h : FirstAt pattern text before rest) :
    cut? pattern text = some (before, rest) := by
  rw [h.parts]
  apply cut?_of_first
  intro passed ahead parts nonempty
  rw [rest?_eq_none_iff]
  intro rest' found
  have whole : text = passed ++ (pattern ++ rest') := by
    rw [h.parts, parts, List.append_assoc, found]
  have earlier := h.first passed rest' whole
  have longer := List.length_pos_iff.mpr nonempty
  rw [parts, List.length_append] at earlier
  omega

theorem exists_firstAt (inside : pattern <:+: text) :
    ∃ before rest, FirstAt pattern text before rest := by
  obtain ⟨before, rest, rfl⟩ := inside
  rw [List.append_assoc]
  have present := contains_append before pattern rest
  obtain ⟨⟨front, after⟩, found⟩ := Option.isSome_iff_exists.mp present
  exact ⟨front, after, .of_cut? found⟩

/-- In front of where a pattern stands first it does not stand. -/
theorem FirstAt.not_isInfix (h : FirstAt pattern text before rest) (nonempty : pattern ≠ []) :
    ¬pattern <:+: before := by
  rintro ⟨passed, more, parts⟩
  have earlier := h.first passed (more ++ (pattern ++ rest)) (by rw [h.parts, ← parts]; simp)
  have longer := List.length_pos_iff.mpr nonempty
  rw [← parts] at earlier
  simp only [List.length_append] at earlier
  omega

/-- What is found behind a front is found first behind it alone. -/
theorem FirstAt.of_append {front : List Char}
    (h : FirstAt pattern (front ++ text) (front ++ before) rest) :
    FirstAt pattern text before rest := by
  constructor
  · have whole : front ++ text = front ++ (before ++ (pattern ++ rest)) := by
      rw [h.parts, List.append_assoc]
    exact List.append_cancel_left whole
  · intro before' rest' parts
    have least := h.first (front ++ before') rest' (by rw [parts, List.append_assoc])
    simpa using least

/-- Behind a text without its first character a pattern stands first. -/
theorem firstAt_of_not_mem {c : Char} (absent : c ∉ before) :
    FirstAt (c :: pattern) (before ++ (c :: pattern ++ rest)) before rest := by
  refine ⟨rfl, ?_⟩
  intro before' rest' parts
  by_contra shorter
  have here := congrArg (·[before'.length]?) parts
  simp only [List.getElem?_append_left (Nat.lt_of_not_le shorter)] at here
  exact absent (List.mem_of_getElem? (here.trans (by simp)))

end FirstAt

theorem rest?_append_cons {c : Char} (other : c ∉ pattern) (text more : List Char) :
    rest? pattern (text ++ c :: more) = (rest? pattern text).map (· ++ c :: more) := by
  induction pattern generalizing text with
  | nil => rfl
  | cons p pattern ih =>
    rw [List.mem_cons, not_or] at other
    cases text with
    | nil => simp [rest?, Ne.symm other.1]
    | cons d text =>
      by_cases same : p = d
      · simp [rest?, same, ih other.2]
      · simp [rest?, same]

/-- Behind a character that the pattern does not have nothing decides whether it is in front. -/
theorem prefix_append_cons_iff {c : Char} (other : c ∉ pattern) (text more : List Char) :
    pattern <+: text ++ c :: more ↔ pattern <+: text := by
  rw [← startsWith_iff, ← startsWith_iff, startsWith, startsWith, rest?_append_cons other]
  simp

/-- What is not found in a text is not at its front. -/
theorem rest?_of_cut? (nonempty : pattern ≠ []) {text : List Char}
    (missed : cut? pattern text = none) : rest? pattern text = none := by
  cases text with
  | nil =>
    cases pattern with
    | nil => exact absurd rfl nonempty
    | cons => rfl
  | cons c text =>
    rw [cut?_cons] at missed
    split at missed
    · cases missed
    · assumption

/-- The search of a text in which the pattern does not occur goes on behind the next
character that the pattern does not have. -/
theorem cut?_append_cons {c : Char} (other : c ∉ pattern) (nonempty : pattern ≠ [])
    {text : List Char} (absent : contains pattern text = false) (more : List Char) :
    cut? pattern (text ++ c :: more) =
      (cut? pattern more).map fun (before, rest) => (text ++ c :: before, rest) := by
  have missed : cut? pattern text = none := by
    simpa [contains] using absent
  induction text with
  | nil =>
    have here := rest?_append_cons other [] more
    rw [rest?_of_cut? nonempty missed, List.nil_append, Option.map_none] at here
    rw [List.nil_append, cut?_cons, here]
    simp
  | cons d text ih =>
    have unfound := rest?_of_cut? nonempty missed
    have here := rest?_append_cons other (d :: text) more
    rw [unfound, List.cons_append, Option.map_none] at here
    have later : cut? pattern text = none := by
      rw [cut?_cons, unfound] at missed
      simpa using missed
    rw [List.cons_append, cut?_cons, here, ih (by simp [contains, later]) later]
    cases cut? pattern more <;> rfl

/-- A pattern occurs on one side or the other of a character that it does not have. -/
theorem contains_append_cons {c : Char} (other : c ∉ pattern) (nonempty : pattern ≠ [])
    (text more : List Char) :
    contains pattern (text ++ c :: more) = (contains pattern text || contains pattern more) := by
  cases present : contains pattern text with
  | false =>
    rw [contains, cut?_append_cons other nonempty present]
    simp [contains]
  | true =>
    obtain ⟨⟨before, rest⟩, found⟩ := Option.isSome_iff_exists.mp present
    have again := contains_append before pattern (rest ++ c :: more)
    rw [eq_of_cut? found]
    simpa using again

theorem not_contains_of_not_mem {c : Char} (inside : c ∈ pattern) {text : List Char}
    (absent : c ∉ text) : contains pattern text = false := by
  cases found : cut? pattern text with
  | none => simp [contains, found]
  | some parts =>
    obtain ⟨before, rest⟩ := parts
    have whole := eq_of_cut? found
    simp [whole, inside] at absent

theorem contains_cons_eq_false_iff (nonempty : pattern ≠ []) {c : Char} {text : List Char} :
    contains pattern (c :: text) = false ↔
      rest? pattern (c :: text) = none ∧ contains pattern text = false := by
  constructor
  · intro absent
    have missed : cut? pattern (c :: text) = none := by simpa [contains] using absent
    have front := rest?_of_cut? nonempty missed
    rw [cut?_cons, front] at missed
    exact ⟨front, by simpa [contains] using missed⟩
  · rintro ⟨front, absent⟩
    rw [contains, cut?_cons, front]
    simpa [contains] using absent

/-- Nothing stands behind the last line break of the text. -/
def WholeLines (text : List Char) : Prop := ∀ c, text.getLast? = some c → c = '\n'

theorem wholeLines_nil : WholeLines [] := by
  intro c last
  cases last

theorem wholeLines_concat (front : List Char) : WholeLines (front ++ ['\n']) := by
  intro c last
  rw [List.getLast?_concat] at last
  exact (Option.some.inj last).symm

theorem WholeLines.of_append {front lines : List Char} (h : WholeLines (front ++ lines)) :
    WholeLines lines := by
  intro c last
  exact h c (by rw [List.getLast?_append, last]; rfl)

theorem WholeLines.append {front lines : List Char} (h : WholeLines front) (h' : WholeLines lines) :
    WholeLines (front ++ lines) := by
  intro c last
  rw [List.getLast?_append] at last
  obtain inside | ⟨-, inside⟩ := Option.or_eq_some_iff.mp last
  · exact h' c inside
  · exact h c inside

theorem WholeLines.eq_nil_or_concat {lines : List Char} (h : WholeLines lines) :
    lines = [] ∨ ∃ front, lines = front ++ ['\n'] := by
  obtain rfl | ⟨front, c, rfl⟩ := List.eq_nil_or_concat lines
  · exact .inl rfl
  · rw [List.concat_eq_append] at h ⊢
    obtain rfl := h c List.getLast?_concat
    exact .inr ⟨front, rfl⟩

/-- A pattern without line breaks at the front of whole lines lies within them. -/
theorem WholeLines.rest?_append {lines : List Char} (h : WholeLines lines) (nonempty : lines ≠ [])
    (other : '\n' ∉ pattern) (more : List Char) :
    rest? pattern (lines ++ more) = (rest? pattern lines).map (· ++ more) := by
  obtain ⟨front, rfl⟩ := h.eq_nil_or_concat.resolve_left nonempty
  rw [List.append_assoc, List.singleton_append, rest?_append_cons other, rest?_append_cons other,
    Option.map_map]
  congr 1
  funext rest
  simp

theorem WholeLines.contains_append {lines : List Char} (h : WholeLines lines)
    (nonempty : pattern ≠ []) (other : '\n' ∉ pattern) (more : List Char) :
    contains pattern (lines ++ more) = (contains pattern lines || contains pattern more) := by
  obtain rfl | ⟨front, rfl⟩ := h.eq_nil_or_concat
  · have nothing : contains pattern [] = false := by
      cases pattern with
      | nil => exact absurd rfl nonempty
      | cons => rfl
    rw [nothing]
    rfl
  · rw [List.append_assoc, List.singleton_append, contains_append_cons other nonempty,
      contains_append_cons other nonempty]
    cases pattern with
    | nil => exact absurd rfl nonempty
    | cons => simp [contains, cut?]

/-- Where a row of characters ends, and what follows, is seen at the first other character. -/
theorem span_append {α : Type} {p : α → Bool} {row rest : List α} (inside : ∀ c ∈ row, p c = true)
    (ends : ∀ c, rest.head? = some c → p c = false) :
    (row ++ rest).takeWhile p = row ∧ (row ++ rest).dropWhile p = rest := by
  rw [List.takeWhile_append_of_pos inside, List.dropWhile_append_of_pos inside]
  cases rest with
  | nil => simp
  | cons c rest => simp [ends c rfl]

theorem span_append_cons {α : Type} {p : α → Bool} {row : List α} {c : α}
    (inside : ∀ d ∈ row, p d = true) (other : p c = false) (rest : List α) :
    (row ++ c :: rest).takeWhile p = row ∧ (row ++ c :: rest).dropWhile p = c :: rest := by
  apply span_append inside
  intro d first
  cases first
  exact other

theorem splitOn_append {α : Type} [DecidableEq α] (separator : α) (cs ds : List α) :
    splitOn separator (cs ++ separator :: ds) = splitOn separator cs ++ splitOn separator ds := by
  have parts (text : List α) : splitOn separator text ≠ [] := by
    cases text with
    | nil => simp [splitOn]
    | cons c text =>
      unfold splitOn
      split
      · simp
      · split <;> simp
  induction cs with
  | nil => simp [splitOn]
  | cons c cs ih =>
    by_cases here : c = separator
    · simp [splitOn, here, ih]
    · cases split : splitOn separator cs with
      | nil => exact absurd split (parts cs)
      | cons part rest => simp [splitOn, here, ih, split]

theorem splitOn_of_not_mem {α : Type} [DecidableEq α] {separator : α} {cs : List α}
    (absent : separator ∉ cs) :
    splitOn separator cs = [cs] := by
  induction cs with
  | nil => rfl
  | cons c cs ih =>
    rw [List.mem_cons, not_or] at absent
    simp [splitOn, Ne.symm absent.1, ih absent.2]

section Replacing

variable {value : List Char}

end Replacing

end Mender.Text
