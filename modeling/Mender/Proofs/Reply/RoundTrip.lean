import Mender.Proofs.Reply.Body
import Mender.Proofs.Reply.Fence
import Mender.Service

/-!
# From the code in a reply to the fix

Code that stands in a block of the language, inside the first text block of a body, comes
through unchanged: the body is decoded, the text selected, the code cut out and compared with
the current content, and what is left is a fix with exactly that code.
-/

namespace Mender.Service

open Reply Text

/-- Code that is compared with a content it differs from is a fix. -/
theorem ofCandidate_of_trimmed {code current : String} (trimmed : code.trimmed = code)
    (fresh : current.rightTrimmed ≠ code) :
    Fix.ofCandidate (some code) current = .applied code := by
  have settled : code.rightTrimmed = code := by
    conv_lhs => rw [← trimmed]
    rw [String.rightTrimmed, String.trimmed, String.toList_ofList, trim, trimRight_trimRight,
      ← trim, ← String.trimmed, trimmed]
  refine Fix.ofCandidate_eq_applied_iff.mpr ⟨rfl, ?_⟩
  rw [Fix.sameContent, settled]
  exact decide_eq_false fresh.symm

theorem not_blank_block {text : String} {prose tag code suffix : List Char}
    (shape : text.toList = prose ++ block tag code ++ suffix) : text.isBlankText = false := by
  have tick : isBlank '\x60' = false := by decide
  simp [String.isBlankText, shape, block, fence, tick]

/-- The code of the first text block that a body carries comes through as a fix, unchanged,
unless a backtick in front of the block could be taken for a part of its fence, or the engine
refuses the pattern of a block. -/
theorem interpret_of_carries {engine : Engine} (wording : Wording) {language : Language}
    {code current prose suffix text : String} {blocks : List Block} {first : Block} {body : String}
    (fits : engine.accepts (blockPattern language.fenceTag.toList) = true)
    (trimmed : code.trimmed = code) (no_end : contains fence code.toList = false)
    (no_fence : contains fence prose.toList = false)
    (apart : Separates prose.toList language.fenceTag.toList)
    (fresh : current.rightTrimmed ≠ code)
    (shape : text.toList =
      prose.toList ++ block language.fenceTag.toList code.toList ++ suffix.toList)
    (found : blocks.find? (·.type = "text") = some first) (holds : first.text? = some text)
    (carried : Carries body blocks) :
    Reply.text body = .ok text ∧
      Fix.ofCandidate (code? engine language.fenceTag language.prologue text) current =
        .applied code ∧
      interpret engine wording language current (Reply.text body) = .applied code := by
  have read : Reply.text body = .ok text :=
    text_of_carries carried found holds (not_blank_block shape)
  have cut : code? engine language.fenceTag language.prologue text = some code := by
    rw [code?_of_accepts fits, shape, fenced?_block no_fence apart no_end]
    change some code.trimmed = _
    rw [trimmed]
  have taken : Fix.ofCandidate (code? engine language.fenceTag language.prologue text) current =
      .applied code := by
    rw [cut, ofCandidate_of_trimmed trimmed fresh]
  refine ⟨read, taken, ?_⟩
  rw [read]
  exact taken

/-- A reply with a thought in front of its text. -/
def thoughtful (text : String) : List Block :=
  [⟨"thinking", none⟩, ⟨"text", some text⟩, ⟨"text", some "Done."⟩]

theorem interpret_of_carries_thoughtful :
    interpret .standard (fun _ text => text) .default "<?php\n" (Reply.text (encode (thoughtful
      "Use \x60f\x60\x60\x60\x60php\n<?php f(\"\\\");\n\x60\x60\x60 here"))) =
        .applied "<?php f(\"\\\");" := by
  have fits : Engine.standard.accepts (blockPattern Language.default.fenceTag.toList) = true := by
    decide
  have trimmed : "<?php f(\"\\\");".trimmed = "<?php f(\"\\\");" := by decide +kernel
  have fresh : "<?php\n".rightTrimmed ≠ "<?php f(\"\\\");" := by decide +kernel
  have apart : Separates "Use \x60f\x60".toList Language.default.fenceTag.toList :=
    fun backticks => absurd (backticks 'p' (by decide)) (by decide)
  have shape : "Use \x60f\x60\x60\x60\x60php\n<?php f(\"\\\");\n\x60\x60\x60 here".toList =
      "Use \x60f\x60".toList ++ block Language.default.fenceTag.toList
        "<?php f(\"\\\");".toList ++ " here".toList := by decide +kernel
  exact (interpret_of_carries _ fits trimmed (by decide) (by decide) apart fresh shape rfl rfl
    (carries_encode _)).2.2

/-- A language whose fences open with a fourth backtick. -/
def fourBackticks : Language := { Language.default with fenceTag := "\x60" }

/-- A backtick in front of the block is taken for the first of its fence, and the last one of
the fence for a part of the code. And where the pattern of a block is too large, no text brings a
fix. -/
theorem interpret_of_early_fence :
    ({ Settings.default with language := fourBackticks }).validate.isOk = true ∧
      "x".trimmed = "x" ∧ contains fence "x".toList = false ∧
      contains fence "\x60".toList = false ∧ "".rightTrimmed ≠ "x" ∧
      "\x60\x60\x60\x60\x60\nx\n\x60\x60\x60".toList =
        "\x60".toList ++ block fourBackticks.fenceTag.toList "x".toList ∧
      interpret .standard (fun _ text => text) fourBackticks "" (Reply.text (encode
        [⟨"text", some "\x60\x60\x60\x60\x60\nx\n\x60\x60\x60"⟩])) = .applied "\x60\nx" ∧
      Engine.standard.accepts (blockPattern fourBackticks.fenceTag.toList) = true ∧
      ({ Settings.default with language := longTag }).validate = .ok () ∧
      ∀ text, interpret .standard (fun _ text => text) longTag "" (.ok text) = .noFix := by
  have read : Reply.text (encode [⟨"text", some "\x60\x60\x60\x60\x60\nx\n\x60\x60\x60"⟩]) =
      .ok "\x60\x60\x60\x60\x60\nx\n\x60\x60\x60" :=
    text_of_carries (carries_encode _) rfl rfl (by decide +kernel)
  refine ⟨by decide +kernel, by decide +kernel, by decide +kernel, by decide +kernel,
    by decide +kernel, by decide +kernel, ?_, by decide, validate_longTag, fun text => ?_⟩
  · rw [read]
    decide +kernel
  · rw [interpret, code?_of_refused refused_longTag]
    rfl

end Mender.Service
