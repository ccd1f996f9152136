import Mathlib
import Mender.Text.Decimal

/-!
# Digits of a number

Only zero itself is written with a zero in front.
-/

namespace Mender.Decimal

theorem natText_one : natText 1 = "1" := by
  rw [natText, digits, if_pos (by decide)]
  rfl

theorem not_mem_digits {c : Char} (other : Text.isDigit c = false) (n : Nat) : c ∉ digits n := by
  intro mem
  rw [List.all_eq_true.mp (all_isDigit_digits n) c mem] at other
  cases other

theorem eq_nil_of_digits {n : Nat} {rest : List Char} (h : digits n = '0' :: rest) : rest = [] := by
  induction n using digits.induct generalizing rest with
  | case1 n small =>
    rw [digits, if_pos small] at h
    exact (List.cons.inj h).2.symm
  | case2 n large ih =>
    rw [digits, if_neg large] at h
    cases front : digits (n / 10) with
    | nil => exact absurd front (digits_ne_nil _)
    | cons c more =>
      rw [front, List.cons_append] at h
      cases h
      cases ih front
      -- the number in front would be zero
      have zero := value_digits (n / 10)
      rw [front] at zero
      have : value ['0'] = 0 := by decide
      omega

end Mender.Decimal
