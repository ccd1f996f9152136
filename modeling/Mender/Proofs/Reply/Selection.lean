import Mathlib
import Mender.Proofs.Reply.Body

/-!
# The text that a reply is taken for

The first block of the type `text` decides, even if it is blank and a later one is not. So
whatever is done to blocks of other types, or to blocks behind the first text block, leaves the
answer as it is: `find?_of_edit` says it of one edit, and `find?_of_edits` of any number of them.
-/

namespace Mender.Reply

open Text

variable {body : String} {blocks blocks' : List Block}

/-- The first text block holds the text, which is not all blanks. -/
def Selects (blocks : List Block) (text : String) : Prop :=
  ∃ front block rest, blocks = front ++ block :: rest ∧ (∀ b ∈ front, b.type ≠ "text") ∧
    block.type = "text" ∧ block.text? = some text ∧ ∃ c ∈ text.toList, isBlank c = false

theorem not_isBlankText_iff {text : String} :
    text.isBlankText = false ↔ ∃ c ∈ text.toList, isBlank c = false := by
  simp [String.isBlankText]

theorem selectText?_eq_some_iff {text : String} :
    selectText? blocks = some text ↔ Selects blocks text := by
  simp only [selectText?, Option.filter_eq_some_iff, Option.bind_eq_some_iff, Bool.not_eq_true',
    not_isBlankText_iff, List.find?_eq_some_iff_append]
  constructor
  · rintro ⟨⟨block, ⟨kind, front, rest, parts, others⟩, holds⟩, ink⟩
    refine ⟨front, block, rest, parts, ?_, by simpa using kind, holds, ink⟩
    intro b mem
    simpa using others b mem
  · rintro ⟨front, block, rest, parts, others, kind, holds, ink⟩
    refine ⟨⟨block, ⟨by simpa using kind, front, rest, parts, ?_⟩, holds⟩, ink⟩
    intro b mem
    simpa using others b mem

/-- A change of the blocks that the answer does not depend on. -/
inductive Edit : List Block → List Block → Prop
  | insert (front rest : List Block) {b : Block} (other : b.type ≠ "text") :
      Edit (front ++ rest) (front ++ b :: rest)
  | alter (front rest : List Block) {b b' : Block} (other : b.type ≠ "text")
      (other' : b'.type ≠ "text") : Edit (front ++ b :: rest) (front ++ b' :: rest)
  | behind (front rest rest' : List Block) {b : Block} (found : b.type = "text") :
      Edit (front ++ b :: rest) (front ++ b :: rest')

theorem find?_of_edit (edit : Edit blocks blocks') :
    blocks.find? (·.type = "text") = blocks'.find? (·.type = "text") := by
  cases edit with
  | insert front rest other => simp [List.find?_append, other]
  | alter front rest other other' => simp [List.find?_append, other, other']
  | behind front rest rest' found => simp [List.find?_append, found]

/-- Edits one after another, and edits that are undone, leave the first text block in its
role. -/
theorem find?_of_edits (edits : Relation.EqvGen Edit blocks blocks') :
    blocks.find? (·.type = "text") = blocks'.find? (·.type = "text") := by
  induction edits with
  | rel _ _ edit => exact find?_of_edit edit
  | refl => rfl
  | symm _ _ _ ih => exact ih.symm
  | trans _ _ _ _ _ first second => exact first.trans second

theorem text_eq (carried : Carries body blocks) :
    Reply.text body =
      (selectText? blocks).elim (.error (.other "messages response has no text content")) .ok := by
  rw [Reply.text, blocks?_of_carries carried]
  dsimp only
  cases selectText? blocks <;> rfl

/-- The answer is the text of the first text block that a body carries, character for character,
and it is refused if that block is missing, has no text or a blank one. Edits of other blocks
change neither. -/
theorem text_of_carries_iff (carried : Carries body blocks) :
    (∀ text, Reply.text body = .ok text ↔ Selects blocks text) ∧
      ((∃ text, Reply.text body = .ok text) ∨
        Reply.text body = .error (.other "messages response has no text content")) ∧
      ∀ body' blocks', Relation.EqvGen Edit blocks blocks' → Carries body' blocks' →
        Reply.text body' = Reply.text body := by
  have answer := text_eq carried
  refine ⟨?_, ?_, ?_⟩
  · intro text
    rw [answer, ← selectText?_eq_some_iff]
    cases selectText? blocks <;> simp
  · rw [answer]
    cases selectText? blocks with
    | none => exact .inr rfl
    | some text => exact .inl ⟨text, rfl⟩
  · intro body' blocks' edits carried'
    rw [answer, text_eq carried', selectText?, selectText?, find?_of_edits edits]

/-- A reply with fields of all kinds around its blocks. -/
def verbose : Json :=
  .record
    [("usage", .record [("output_tokens", .nat 7), ("content", .array [.null])]),
      ("content", .array
        [.record [("thinking", .text "<?"), ("type", .text "thinking")],
          .record [("text", .text " <?php\n"), ("citations", .null), ("type", .text "text")],
          .record [("type", .text "text")]]),
      ("type", .text "message")]

theorem carries_verbose : Carries verbose.pretty
    [⟨"thinking", none⟩, ⟨"text", some " <?php\n"⟩, ⟨"text", none⟩] := by
  have writable : verbose.isWritable = true := by decide
  refine ⟨_, _, Json.spells_pretty writable, by decide, rfl, ?_⟩
  refine .cons ⟨_, rfl, by decide, rfl, .absent⟩ (.cons ⟨_, rfl, by decide, rfl, ?_⟩
    (.cons ⟨_, rfl, by decide, rfl, .absent⟩ .nil))
  exact .present _

/-- The text between the other blocks comes out with its blanks, also when they are gone; and a
blank first text is not passed over. -/
theorem text_of_carries_iff_verbose :
    Reply.text verbose.pretty = .ok " <?php\n" ∧
      Reply.text (encode [⟨"text", some " <?php\n"⟩]) = .ok " <?php\n" ∧
      ¬∃ text, Reply.text (encode [⟨"text", some " "⟩, ⟨"text", some "<?php"⟩]) = .ok text := by
  obtain ⟨selected, -, edited⟩ := text_of_carries_iff carries_verbose
  have read : Reply.text verbose.pretty = .ok " <?php\n" :=
    (selected _).mpr (selectText?_eq_some_iff.mp rfl)
  refine ⟨read, ?_, ?_⟩
  · rw [← read]
    refine edited _ _ ?_ (carries_encode _)
    have first := Edit.insert [] [⟨"text", some " <?php\n"⟩, ⟨"text", none⟩]
      (b := ⟨"thinking", none⟩) (by decide)
    have second := Edit.behind [] [⟨"text", none⟩] [] (b := ⟨"text", some " <?php\n"⟩) rfl
    exact .trans _ _ _ (.symm _ _ (.rel _ _ first)) (.rel _ _ second)
  · rintro ⟨text, answered⟩
    have chosen := ((text_of_carries_iff (carries_encode _)).1 text).mp answered
    rw [← selectText?_eq_some_iff] at chosen
    cases chosen

end Mender.Reply
