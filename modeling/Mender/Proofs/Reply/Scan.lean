import Mathlib
import Mender.Proofs.Text.Pattern
import Mender.Proofs.Text.Search
import Mender.Proofs.Text.Trim
import Mender.Reply.Code

/-!
# The first block of a reply

The pattern of a block has a greedy run, a reluctant run and a greedy run again, and yet it
reads what a plain scan finds: the first place where a fence opens with the tag, the first
fence behind that, and the text between them without the blanks around it. The reluctant
run stops in front of the last blanks of the code, and no run can pass a fence.
-/

namespace Mender.Reply

open Text Text.Pattern

/-- What stands between the tag and the end of a block, but for the blanks in front. -/
def codePattern : Pattern :=
  .mark :: .few (fun _ => true) :: .mark :: .many isBlank :: ofText fence

theorem ne_tick_of_blank {c : Char} (blank : isBlank c = true) : '\x60' ≠ c := by
  rintro rfl
  cases blank

theorem read?_fence (text : List Char) :
    read? (ofText fence) text = (rest? fence text).map fun _ => [] := by
  have read := read?_ofText fence [] text
  rw [List.append_nil] at read
  rw [read]
  cases rest? fence text <;> rfl

/-- The end of a block is read where only blanks stand in front of a fence. -/
theorem read?_closing (text : List Char) :
    read? (.mark :: .many isBlank :: ofText fence) text =
      (rest? fence (trimLeft text)).map fun _ => [text] := by
  have falls : ∀ c cs, isBlank c = true → read? (ofText fence) cs = none →
      read? (ofText fence) (c :: cs) = none := by
    intro c cs blank _
    rw [read?_fence]
    simp [fence, rest?, ne_tick_of_blank blank]
  change (readMany isBlank (read? (ofText fence)) text).map (text :: ·) = _
  rw [readMany_eq falls, read?_fence, Option.map_map]
  rfl

/-- The code is read up to the first fence, without the blanks in front of that. -/
theorem read?_code {text inner rest : List Char} (h : FirstAt fence text inner rest) :
    ∃ ahead, text = trimRight inner ++ ahead ∧ read? codePattern text = some [text, ahead] := by
  obtain ⟨blanks, parts, blank⟩ := exists_trimRight_append inner
  have whole : text = trimRight inner ++ (blanks ++ (fence ++ rest)) := by
    rw [← List.append_assoc, ← parts, ← h.parts]
  refine ⟨_, whole, ?_⟩
  have stopped : readFew (fun _ => true) (read? (.mark :: .many isBlank :: ofText fence)) text =
      some [blanks ++ (fence ++ rest)] := by
    rw [whole]
    apply readFew_of_first
    · have closed : trimLeft (blanks ++ (fence ++ rest)) = fence ++ rest :=
        (span_append_cons blank rfl _).2
      rw [read?_closing, closed, rest?_append]
      rfl
    · intro before here front nonempty
      -- ink is left in front of the blanks, so a fence that follows would be an earlier one
      have inked : ¬∀ c ∈ here, isBlank c = true := by
        intro all
        have kept := trimRight_trimRight inner
        rw [front, trimRight_append_blank all] at kept
        have size := (prefix_trimRight before).length_le
        have longer := List.length_pos_iff.mpr nonempty
        rw [kept, List.length_append] at size
        omega
      obtain ⟨spaces, c, more, rfl, blank', ink⟩ := exists_ink inked
      have shown : trimLeft (spaces ++ c :: (more ++ (blanks ++ (fence ++ rest)))) =
          c :: (more ++ (blanks ++ (fence ++ rest))) := (span_append_cons blank' ink _).2
      rw [read?_closing, List.append_assoc, List.cons_append, shown, Option.map_eq_none_iff,
        rest?_eq_none_iff]
      intro rest' found
      have earlier := h.first (before ++ spaces) rest' (by rw [whole, front, ← found]; simp)
      rw [parts, front] at earlier
      simp at earlier
  change (readFew _ _ text).map (text :: ·) = _
  rw [stopped]
  rfl

theorem read?_code_eq_none_iff {text : List Char} :
    read? codePattern text = none ↔ ¬fence <:+: text := by
  constructor
  · intro unread inside
    obtain ⟨inner, rest, first⟩ := exists_firstAt inside
    obtain ⟨ahead, -, read⟩ := read?_code first
    rw [unread] at read
    cases read
  · intro absent
    change (readFew _ _ text).map (text :: ·) = _
    rw [Option.map_eq_none_iff]
    apply readFew_eq_none
    intro ahead behind
    rw [read?_closing, Option.map_eq_none_iff, rest?_eq_none_iff]
    intro rest found
    have here : fence <:+: trimLeft ahead := ⟨[], rest, by rw [found]; rfl⟩
    exact absent (here.trans ((List.dropWhile_suffix _).trans behind).isInfix)

/-- A block is read where a fence opens with the tag; the blanks behind the tag are passed. -/
theorem read?_blockPattern (tag text : List Char) :
    read? (blockPattern tag) text =
      (rest? (fence ++ tag) text).bind fun after => read? codePattern (trimLeft after) := by
  have falls : ∀ c cs, isBlank c = true → read? codePattern cs = none →
      read? codePattern (c :: cs) = none := by
    intro c cs blank unread
    rw [read?_code_eq_none_iff] at unread ⊢
    intro inside
    obtain front | later := List.infix_cons_iff.mp inside
    · exact ne_tick_of_blank blank (List.cons_prefix_cons.mp front).1
    · exact unread later
  rw [blockPattern, read?_ofText]
  congr 1
  funext after
  exact readMany_eq falls after

/-- Blanks in front do not matter to where a fence stands first. -/
theorem firstAt_trimLeft {text inner rest : List Char} (h : FirstAt fence text inner rest) :
    FirstAt fence (trimLeft text) (trimLeft inner) rest := by
  have parts : inner.takeWhile isBlank ++ trimLeft inner = inner := List.takeWhile_append_dropWhile
  have moved : trimLeft text = trimLeft inner ++ (fence ++ rest) := by
    rw [h.parts, trimLeft, List.dropWhile_append]
    split
    · next empty =>
      rw [trimLeft, List.isEmpty_iff.mp empty]
      rfl
    · rfl
  have again : inner.takeWhile isBlank ++ trimLeft text = text := by
    rw [moved, ← List.append_assoc, parts, ← h.parts]
  have same : FirstAt fence (inner.takeWhile isBlank ++ trimLeft text)
      (inner.takeWhile isBlank ++ trimLeft inner) rest := by rwa [again, parts]
  exact same.of_append

section Block

variable {tag text : List Char}

/-- The first block holds the text between its tag and the next fence, without the blanks
around it. -/
theorem fenced?_of_first {front after inner rest : List Char}
    (opens : FirstAt (fence ++ tag) text front after) (closes : FirstAt fence after inner rest) :
    fenced? tag text = some (trim inner) := by
  obtain ⟨ahead, parts, read⟩ := read?_code (firstAt_trimLeft closes)
  have found : (blockPattern tag).find? text = some [trimLeft after, ahead] := by
    rw [opens.parts]
    apply readFew_of_first
    · rw [read?_blockPattern, rest?_append]
      exact read
    · intro before here front_eq nonempty
      have missed : rest? (fence ++ tag) (here ++ (fence ++ tag ++ after)) = none := by
        rw [rest?_eq_none_iff]
        intro rest' early
        have least := opens.first before rest' (by
          rw [opens.parts, front_eq, List.append_assoc, early])
        have longer := List.length_pos_iff.mpr nonempty
        rw [front_eq, List.length_append] at least
        omega
      rw [read?_blockPattern, missed]
      rfl
  have size : (trimLeft after).length - ahead.length = (trim inner).length := by
    rw [parts, List.length_append, trim]
    omega
  rw [fenced?, found]
  dsimp only
  rw [size, parts, ← trim, List.take_left]

/-- Without a fence behind the first place where one opens with the tag there is no block. -/
theorem fenced?_eq_none
    (unclosed : ∀ front after, FirstAt (fence ++ tag) text front after → ¬fence <:+: after) :
    fenced? tag text = none := by
  have nowhere : (blockPattern tag).find? text = none := by
    apply readFew_eq_none
    intro ahead behind
    rw [read?_blockPattern, Option.bind_eq_none_iff]
    intro after here
    obtain ⟨passed, whole⟩ := behind
    rw [rest?_eq_some_iff.mp here] at whole
    have present : fence ++ tag <:+: text := ⟨passed, after, by rw [← whole, List.append_assoc]⟩
    obtain ⟨front, after', first⟩ := exists_firstAt present
    -- what stands behind a later opening also stands behind the first one
    have least := first.first passed after whole.symm
    have later : after <:+ after' := by
      have end_here : after <:+ text :=
        ⟨passed ++ (fence ++ tag), by rw [← whole, List.append_assoc]⟩
      have end_there : after' <:+ text :=
        ⟨front ++ (fence ++ tag), by rw [first.parts, List.append_assoc]⟩
      have sizes := congrArg List.length (whole.trans first.parts)
      simp only [List.length_append] at sizes
      exact List.suffix_of_suffix_length_le end_here end_there (by omega)
    rw [read?_code_eq_none_iff]
    intro inside
    exact unclosed front after' first (inside.trans ((List.dropWhile_suffix _).trans later).isInfix)
  rw [fenced?, nowhere]

end Block

theorem bare?_eq (prologue text : List Char) :
    bare? prologue text =
      if prologue ≠ [] ∧ prologue <+: trim text then some (trim text) else none := by
  simp only [bare?, Bool.and_eq_true, startsWith_iff, Bool.not_eq_true', List.isEmpty_eq_false_iff]

section Engine

variable {engine : Engine} {tag : String}

/-- Where the engine takes the pattern of a block, the first block counts, or the reply itself. -/
theorem code?_of_accepts (fits : engine.accepts (blockPattern tag.toList) = true)
    (prologue reply : String) : code? engine tag prologue reply =
      (fenced? tag.toList reply.toList <|> bare? prologue.toList reply.toList).map String.ofList :=
  if_pos fits

/-- Otherwise no reply offers code. -/
theorem code?_of_refused (refused : engine.accepts (blockPattern tag.toList) = false)
    (prologue reply : String) : code? engine tag prologue reply = none := by
  rw [code?, refused]
  rfl

/-- The standard engine takes tags of up to 327593 bytes. -/
theorem accepts_standard_iff (tag : List Char) :
    Engine.standard.accepts (blockPattern tag) = true ↔ (tag.map Char.utf8Size).sum ≤ 327593 := by
  have ticks : (fence.map Char.utf8Size).sum = 3 := by decide
  have whole : size (blockPattern tag) = 2636 + 32 * (tag.map Char.utf8Size).sum := by
    simp only [blockPattern, size_append, size, Part.size, size_ofText, List.map_append,
      List.sum_append, ticks]
    omega
  simp only [Engine.standard, decide_eq_true_eq, whole, Engine.maxBytes]
  omega

/-- The code of a reply is found by a plain scan. The first fence that opens with the tag
counts, and the first fence behind it. Where there is no such fence, or none behind it, the
trimmed reply is the code if it starts with a prologue that is not empty, and otherwise there
is no code. -/
theorem code?_by_scan (fits : engine.accepts (blockPattern tag.toList) = true)
    (prologue reply : String) :
    (∀ front after inner rest, FirstAt (fence ++ tag.toList) reply.toList front after →
      FirstAt fence after inner rest →
        code? engine tag prologue reply = some (String.ofList (trim inner)) ∧
          ¬fence <:+: trim inner) ∧
      ((¬∃ front after, FirstAt (fence ++ tag.toList) reply.toList front after ∧ fence <:+: after) →
        code? engine tag prologue reply =
          if prologue ≠ "" ∧ prologue.toList <+: trim reply.toList then some reply.trimmed
          else none) := by
  constructor
  · intro front after inner rest opens closes
    constructor
    · rw [code?_of_accepts fits, fenced?_of_first opens closes]
      rfl
    · intro inside
      exact closes.not_isInfix (by decide) (inside.trans (isInfix_trim inner))
  · intro unfenced
    have no_block : fenced? tag.toList reply.toList = none := by
      apply fenced?_eq_none
      intro front after opens inside
      exact unfenced ⟨front, after, opens, inside⟩
    have named : prologue.toList ≠ [] ↔ prologue ≠ "" := by simp
    rw [code?_of_accepts fits, no_block, bare?_eq]
    simp only [named]
    split <;> rfl

end Engine

/-- Backticks in front of a fence, in the code and behind its end, and a tag that is a prefix
of nothing else. -/
theorem code?_by_scan_backticks :
    code? .standard "c++" "#"
        "\x60\x60\x60\x60c++ \n a\x60b \n\x60\x60\x60\x60c++\nz\x60\x60\x60" = some "a\x60b" ∧
      code? .standard "c++" "#" " #\x60\x60\x60c+\n\x60\x60\x60c++\n" =
        some "#\x60\x60\x60c+\n\x60\x60\x60c++" := by
  have fits : Engine.standard.accepts (blockPattern "c++".toList) = true := by decide
  have opens : FirstAt (fence ++ "c++".toList)
      "\x60\x60\x60\x60c++ \n a\x60b \n\x60\x60\x60\x60c++\nz\x60\x60\x60".toList ['\x60']
      " \n a\x60b \n\x60\x60\x60\x60c++\nz\x60\x60\x60".toList := .of_cut? (by decide)
  have closes : FirstAt fence " \n a\x60b \n\x60\x60\x60\x60c++\nz\x60\x60\x60".toList
      " \n a\x60b \n".toList "\x60c++\nz\x60\x60\x60".toList := .of_cut? (by decide)
  have unfenced : ¬∃ front after, FirstAt (fence ++ "c++".toList)
      " #\x60\x60\x60c+\n\x60\x60\x60c++\n".toList front after ∧ fence <:+: after := by
    rintro ⟨front, after, opens, inside⟩
    have last : cut? (fence ++ "c++".toList) " #\x60\x60\x60c+\n\x60\x60\x60c++\n".toList =
        some (" #\x60\x60\x60c+\n".toList, ['\n']) := by decide
    have found := opens.cut?_eq
    rw [last] at found
    cases found
    exact absurd inside (by decide)
  refine ⟨((code?_by_scan fits _ _).1 _ _ _ _ opens closes).1, ?_⟩
  rw [(code?_by_scan fits _ _).2 unfenced]
  decide +kernel

end Mender.Reply
