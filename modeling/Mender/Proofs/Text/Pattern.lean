import Mathlib
import Mender.Text.Pattern
import Mender.Text.Search

/-!
# How patterns read

A greedy run takes all that it can, unless the parts behind it could go on only after
less. A reluctant run of any characters stops at the first place where they can go on.
-/

namespace Mender.Text.Pattern

variable {α : Type} {accepts : Char → Bool} {goOn : List Char → Option α}

section Greedy

variable (falls : ∀ c cs, accepts c = true → goOn cs = none → goOn (c :: cs) = none)

include falls

theorem goOn_of_dropWhile {text : List Char} (h : goOn (text.dropWhile accepts) = none) :
    goOn text = none := by
  induction text with
  | nil => exact h
  | cons c cs ih =>
    by_cases accepted : accepts c = true
    · rw [List.dropWhile_cons_of_pos accepted] at h
      exact falls c cs accepted (ih h)
    · rw [List.dropWhile_cons_of_neg accepted] at h
      exact h

/-- Where the parts behind a greedy run can go on after less only if they can after more,
the run takes all that it can. -/
theorem readMany_eq (text : List Char) :
    readMany accepts goOn text = goOn (text.dropWhile accepts) := by
  induction text with
  | nil => rfl
  | cons c cs ih =>
    rw [readMany]
    by_cases accepted : accepts c = true
    · rw [if_pos accepted, List.dropWhile_cons_of_pos accepted, ih]
      cases most : goOn (cs.dropWhile accepts) with
      | some => rfl
      | none => exact falls c cs accepted (goOn_of_dropWhile falls most)
    · rw [if_neg accepted, List.dropWhile_cons_of_neg accepted]

end Greedy

/-- A reluctant run of any characters stops at the first place where the rest goes on. -/
theorem readFew_of_first {passed ahead : List Char} {answer : α} (found : goOn ahead = some answer)
    (first : ∀ before here, passed = before ++ here → here ≠ [] → goOn (here ++ ahead) = none) :
    readFew (fun _ => true) goOn (passed ++ ahead) = some answer := by
  induction passed with
  | nil => cases ahead <;> simp [readFew, found]
  | cons c passed ih =>
    have here := first [] (c :: passed) rfl (List.cons_ne_nil c passed)
    have later := ih fun before here parts => first (c :: before) here (congrArg (c :: ·) parts)
    rw [List.cons_append] at here ⊢
    simp [readFew, here, later]

theorem readFew_eq_none {text : List Char} (nowhere : ∀ ahead, ahead <:+ text → goOn ahead = none) :
    readFew (fun _ => true) goOn text = none := by
  induction text with
  | nil => exact nowhere [] List.suffix_rfl
  | cons c cs ih =>
    have here := nowhere (c :: cs) List.suffix_rfl
    have later := ih fun ahead behind => nowhere ahead (behind.trans (List.suffix_cons c cs))
    simp [readFew, here, later]

theorem read?_ofText (text : List Char) (parts : Pattern) (input : List Char) :
    read? (ofText text ++ parts) input = (rest? text input).bind (read? parts) := by
  induction text generalizing input with
  | nil => rfl
  | cons c text ih =>
    cases input with
    | nil => rfl
    | cons d input =>
      have read : read? (ofText (c :: text) ++ parts) (d :: input) =
          if c = d then read? (ofText text ++ parts) input else none := rfl
      rw [read, rest?]
      split
      · exact ih input
      · rfl

theorem size_append (parts more : Pattern) : size (parts ++ more) = parts.size + more.size := by
  induction parts with
  | nil => simp [size]
  | cons part parts ih =>
    rw [List.cons_append, size, size, ih]
    exact (Nat.add_assoc _ _ _).symm

/-- A text takes up as much as its bytes. -/
theorem size_ofText (text : List Char) :
    (ofText text).size = 32 * (text.map Char.utf8Size).sum := by
  induction text with
  | nil => rfl
  | cons c text ih =>
    rw [List.map_cons, List.sum_cons, Nat.mul_add, ← ih]
    rfl

end Mender.Text.Pattern
