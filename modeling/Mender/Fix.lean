import Mender.Text.CharClass

/-!
# Fixes

What came of asking for a fix. A candidate that says the same as the current
content, blanks at the end aside, is no progress and counts as no fix.
-/

namespace Mender

inductive Fix where
  /-- New content for the target. -/
  | applied (content : String)
  /-- An answer without anything usable in it. -/
  | noFix
  /-- No proper answer. -/
  | transportError (detail : String)
  deriving DecidableEq, Repr

namespace Fix

def kind : Fix → String
  | .applied _ => "applied"
  | .noFix => "no_fix"
  | .transportError _ => "transport_error"

/-- The content or the detail, if there is one. -/
def detail? : Fix → Option String
  | .applied content => some content
  | .noFix => none
  | .transportError detail => some detail

/-- Whether two contents are equal up to blanks at their ends. -/
def sameContent (candidate current : String) : Bool :=
  candidate.rightTrimmed = current.rightTrimmed

/-- The fix that a candidate is for the current content. -/
def ofCandidate (candidate? : Option String) (current : String) : Fix :=
  match candidate? with
  | some candidate => if sameContent candidate current then .noFix else .applied candidate
  | none => .noFix

theorem ofCandidate_eq_applied_iff {candidate? : Option String} {current content : String} :
    ofCandidate candidate? current = .applied content ↔
      candidate? = some content ∧ sameContent content current = false := by
  cases candidate? with
  | none => simp [ofCandidate]
  | some candidate =>
    by_cases h : sameContent candidate current
    · simp only [ofCandidate, h, if_true, reduceCtorEq, false_iff, not_and, Option.some.injEq]
      rintro rfl
      simp [h]
    · simp only [ofCandidate, h, Bool.false_eq_true, if_false, Fix.applied.injEq,
        Option.some.injEq]
      exact ⟨fun e => ⟨e, e ▸ by simpa using h⟩, fun e => e.1⟩

end Fix

end Mender
