import Mender.Text.CharClass

/-!
# Decimal numbers

Natural numbers written without leading zeros, and read from any row of digits.
Bounds belong to whoever stores the number.
-/

namespace Mender.Decimal

def digitChar (n : Nat) : Char := Char.ofNat ('0'.toNat + n % 10)

/-- The digits of a number, the highest first. -/
def digits (n : Nat) : List Char :=
  if n < 10 then [digitChar n] else digits (n / 10) ++ [digitChar n]
termination_by n

def natText (n : Nat) : String := String.ofList (digits n)

def intText : Int → String
  | .ofNat n => natText n
  | .negSucc n => "-" ++ natText (n + 1)

/-- The value of a row of digits. -/
def value (cs : List Char) : Nat := cs.foldl (fun n c => 10 * n + Text.digitValue c) 0

/-- Reads one or more ASCII digits. -/
def nat? (cs : List Char) : Option Nat :=
  if cs.isEmpty || !cs.all Text.isDigit then none else some (value cs)

/-- Reads digits after an optional plus sign, up to a bound that is not reached. -/
def below? (bound : Nat) (cs : List Char) : Option Nat :=
  (nat? (match cs with | '+' :: rest => rest | _ => cs)).filter (· < bound)

theorem isDigit_digitChar (n : Nat) : Text.isDigit (digitChar n) = true := by
  have h : n % 10 < 10 := Nat.mod_lt _ (by decide)
  unfold digitChar
  generalize n % 10 = m at h
  revert m
  decide

theorem digitValue_digitChar {n : Nat} (h : n < 10) : Text.digitValue (digitChar n) = n := by
  revert n
  decide

theorem all_isDigit_digits (n : Nat) : (digits n).all Text.isDigit = true := by
  induction n using digits.induct with
  | case1 n h => rw [digits]; simp [h, isDigit_digitChar]
  | case2 n h ih => rw [digits]; simpa [h, isDigit_digitChar] using ih

theorem digits_ne_nil (n : Nat) : digits n ≠ [] := by
  rw [digits]
  split <;> simp

theorem value_digits (n : Nat) : value (digits n) = n := by
  induction n using digits.induct with
  | case1 n h => rw [digits]; simp [h, value, digitValue_digitChar]
  | case2 n h ih =>
    rw [digits]
    have hd : Text.digitValue (digitChar n) = n % 10 := by
      have : digitChar n = digitChar (n % 10) := by simp [digitChar]
      rw [this, digitValue_digitChar (Nat.mod_lt _ (by decide))]
    simp only [h, if_false]
    unfold value at ih ⊢
    rw [List.foldl_append, ih]
    simp only [List.foldl_cons, List.foldl_nil, hd]
    omega

@[simp] theorem nat?_digits (n : Nat) : nat? (digits n) = some n := by
  simp [nat?, digits_ne_nil, all_isDigit_digits, value_digits]

end Mender.Decimal
