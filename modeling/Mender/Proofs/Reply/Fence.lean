import Mathlib
import Mender.Proofs.Reply.Scan
import Mender.Settings

/-!
# Fenced code

What a block of the language holds is found between its fences, whatever stands in front of
the block and behind it. A block can only open earlier than it was meant to if its tag is
made of backticks and more backticks stand right in front.
-/

namespace Mender.Reply

open Text

/-- The text in front cannot lend a backtick to a fence that opens with the tag. -/
def Separates (prose tag : List Char) : Prop :=
  (∀ c ∈ tag, c = '\x60') → prose.getLast? ≠ some '\x60'

theorem cut?_opening {prose tag : List Char} (no_fence : contains fence prose = false)
    (apart : Separates prose tag) (rest : List Char) :
    cut? (fence ++ tag) (prose ++ (fence ++ tag ++ rest)) = some (prose, rest) := by
  refine cut?_of_first fun passed ahead parts nonempty => ?_
  cases early : rest? (fence ++ tag) (ahead ++ (fence ++ tag ++ rest)) with
  | none => rfl
  | some found =>
    exfalso
    have same := rest?_eq_some_iff.mp early
    rw [List.append_assoc, List.append_assoc] at same
    -- the fence would start one or two backticks early, or inside the text in front
    match ahead with
    | [c] =>
      obtain ⟨rfl, again⟩ : c = '\x60' ∧ '\x60' :: (tag ++ rest) = tag ++ found := by
        simpa [fence] using same
      have backticks := eq_of_shifted (k := 1) Nat.one_pos ⟨found, again.symm⟩
      exact apart backticks (by simp [parts])
    | [c, d] =>
      obtain ⟨rfl, rfl, again⟩ : c = '\x60' ∧ d = '\x60' ∧
          '\x60' :: '\x60' :: (tag ++ rest) = tag ++ found := by
        simpa [fence] using same
      have backticks := eq_of_shifted (k := 2) Nat.two_pos ⟨found, again.symm⟩
      exact apart backticks (by simp [parts])
    | c :: d :: e :: more =>
      obtain ⟨rfl, rfl, rfl, -⟩ : c = '\x60' ∧ d = '\x60' ∧ e = '\x60' ∧
          more ++ (fence ++ (tag ++ rest)) = tag ++ found := by
        simpa [fence] using same
      have present := contains_append passed fence more
      rw [parts] at no_fence
      rw [fence, List.cons_append, List.cons_append, List.cons_append, List.nil_append, ← fence,
        no_fence] at present
      cases present

/-- A block with the code on lines of its own. -/
def block (tag code : List Char) : List Char :=
  fence ++ tag ++ '\n' :: (code ++ '\n' :: fence)

/-- The code of the first block is what it holds, without the blanks around it. -/
theorem fenced?_block {prose tag code : List Char} (no_fence : contains fence prose = false)
    (apart : Separates prose tag) (no_end : contains fence code = false) (suffix : List Char) :
    fenced? tag (prose ++ block tag code ++ suffix) = some (trim code) := by
  have no_newline : '\n' ∉ fence := by decide
  have opened := cut?_opening no_fence apart ('\n' :: (code ++ '\n' :: (fence ++ suffix)))
  have closed : cut? fence ('\n' :: (code ++ '\n' :: (fence ++ suffix))) =
      some ('\n' :: (code ++ ['\n']), suffix) := by
    have first : contains fence [] = false := by decide
    rw [← List.nil_append ('\n' :: _), cut?_append_cons no_newline (by decide) first,
      cut?_append_cons no_newline (by decide) no_end, cut?_append_self]
    rfl
  have newline : isBlank '\n' = true := by decide
  have whole : prose ++ block tag code ++ suffix =
      prose ++ (fence ++ tag ++ '\n' :: (code ++ '\n' :: (fence ++ suffix))) := by
    simp [block]
  rw [whole, fenced?_of_first (.of_cut? opened) (.of_cut? closed), trim_cons_blank newline,
    trim_append_blank (by simpa using newline)]

/-- The other settings that nobody has chosen go with every language that has a tag and an
extension. -/
theorem validate_of_language {language : Language}
    (tag : language.fenceTag.isBlankText = false)
    (extension : language.extension.isBlankText = false) :
    ({ Settings.default with language }).validate = .ok () := by
  simp only [Settings.validate, Settings.faults, tag, extension]
  rfl

/-- A language with a tag of half a million letters. -/
def longTag : Language :=
  { Language.default with fenceTag := String.ofList (List.replicate 500000 'a') }

theorem validate_longTag : ({ Settings.default with language := longTag }).validate = .ok () := by
  have inked : longTag.fenceTag.isBlankText = false := by
    rw [longTag, String.isBlankText, String.toList_ofList, List.all_replicate]
    decide
  exact validate_of_language inked (by decide)

/-- The pattern of a block with this tag is too large. -/
theorem refused_longTag :
    Engine.standard.accepts (blockPattern longTag.fenceTag.toList) = false := by
  rw [Bool.eq_false_iff, ne_eq, accepts_standard_iff, longTag, String.toList_ofList,
    List.map_replicate, List.sum_replicate]
  decide

end Mender.Reply
