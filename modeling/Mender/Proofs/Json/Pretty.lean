import Mathlib
import Mender.Json.Printer
import Mender.Proofs.Json.Spelling
import Mender.Proofs.Text.Decimal

/-!
# What is printed spells the value

The text of a value is one of its spellings, provided that the value has one: a string must
be text, and a number must have digits after its point. Hence a printed value reads back.
-/

namespace Mender

open Text

theorem Decimal.isWhole_digits (n : Nat) : Json.IsWhole (digits n) where
  nonempty := digits_ne_nil n
  all_digits := all_isDigit_digits n
  no_zero := fun _ => eq_nil_of_digits

namespace Json

mutual

/-- The value has a spelling. -/
def isWritable : Json → Bool
  | .number n => n.fraction.all isDigit
  | .string s => s.isSome
  | .array items => itemsWritable items
  | .object fields => fieldsWritable fields
  | _ => true

def itemsWritable : List Json → Bool
  | [] => true
  | item :: items => item.isWritable && itemsWritable items

def fieldsWritable : List (Option String × Json) → Bool
  | [] => true
  | (key, value) :: fields => key.isSome && value.isWritable && fieldsWritable fields

end

/-- How a character stands in a string once it is written. -/
def pieceOf (c : Char) : Piece :=
  if c.toNat < 0x20 ∧ c ≠ '\n' ∧ c ≠ '\r' ∧ c ≠ '\t' ∧ c ≠ '\x08' ∧ c ≠ '\x0c' then .unit c.toNat
  else .char c

theorem hex4?_hexChar {n : Nat} (small : n < 0x20) :
    hex4? '0' '0' (hexChar (n / 16)) (hexChar (n % 16)) = some n := by
  revert n
  decide

theorem spellsPieces_escaped (c : Char) {text : List Char} {pieces : List Piece}
    (rest : SpellsPieces text pieces) :
    SpellsPieces (escaped c ++ text) (pieceOf c :: pieces) := by
  unfold escaped
  split_ifs with h1 h2 h3 h4 h5 h6 h7 h8
  · subst h1
    exact .letter rfl rest
  · subst h2
    exact .letter rfl rest
  · subst h3
    exact .letter rfl rest
  · subst h4
    exact .letter rfl rest
  · subst h5
    exact .letter rfl rest
  · subst h6
    exact .letter rfl rest
  · subst h7
    exact .letter rfl rest
  · rw [pieceOf, if_pos ⟨h8, h3, h4, h5, h6, h7⟩]
    exact .unit (hex4?_hexChar h8) rest
  · rw [pieceOf, if_neg fun control => h8 control.1]
    exact .plain h8 h1 h2 rest

theorem joinPiece_pieceOf (found : List Char) (c : Char) :
    joinPiece (none, some found) (pieceOf c) = (none, some (c :: found)) := by
  unfold pieceOf
  split_ifs with control
  · have high : isHighSurrogate c.toNat = false := by
      simp only [isHighSurrogate, Bool.and_eq_false_iff, decide_eq_false_iff_not]
      omega
    have low : isLowSurrogate c.toNat = false := by
      simp only [isLowSurrogate, Bool.and_eq_false_iff, decide_eq_false_iff_not]
      omega
    simp [joinPiece, high, low]
  · rfl

theorem joinPieces_pieceOf (s : String) :
    joinPieces (s.toList.map pieceOf) = some s := by
  have joined (cs found : List Char) : (cs.map pieceOf).foldl joinPiece (none, some found) =
      (none, some (cs.reverse ++ found)) := by
    induction cs generalizing found with
    | nil => rfl
    | cons c cs ih => simp [joinPiece_pieceOf, ih]
  rw [joinPieces, joined]
  simp

theorem spellsTokens_quoted (s : String) {text : List Char} {tokens : List Token}
    (rest : SpellsTokens text tokens) :
    SpellsTokens (quoted (some s) ++ text) (.string (some s) :: tokens) := by
  have inside (cs : List Char) : SpellsPieces (cs.flatMap escaped) (cs.map pieceOf) := by
    induction cs with
    | nil => exact .nil
    | cons c cs ih => exact spellsPieces_escaped c ih
  have spelled := SpellsTokens.string (inside s.toList) rest
  rw [joinPieces_pieceOf] at spelled
  simpa [quoted] using spelled

/-- The text of a number ends with its power of ten. -/
theorem exists_power (n : Numeral) :
    ∃ power, SpellsPower power n.exponent ∧
      n.text = (if n.negative then ['-'] else []) ++ (Decimal.digits n.whole ++
        ((if n.fraction.isEmpty then [] else '.' :: n.fraction) ++ power)) := by
  match n with
  | ⟨_, _, _, none⟩ => exact ⟨[], .none, by simp [Numeral.text]⟩
  | ⟨_, _, _, some (.ofNat e)⟩ =>
    have up := SpellsPower.up (.inl rfl) (.inl rfl) (Decimal.digits_ne_nil e)
      (Decimal.all_isDigit_digits e)
    rw [Decimal.value_digits] at up
    exact ⟨_, up, by simp [Numeral.text]⟩
  | ⟨_, _, _, some (.negSucc e)⟩ =>
    have down := SpellsPower.down (.inl rfl) (Decimal.digits_ne_nil (e + 1))
      (Decimal.all_isDigit_digits (e + 1))
    rw [Decimal.value_digits] at down
    exact ⟨_, down, by simp [Numeral.text]⟩

theorem spellsNumeral_text {n : Numeral} (digits : n.fraction.all isDigit = true) :
    SpellsNumeral n.text n := by
  obtain ⟨power, p, text⟩ := exists_power n
  obtain ⟨negative, whole, fraction, exponent⟩ := n
  have w := Decimal.isWhole_digits whole
  have f : SpellsFraction (if fraction.isEmpty then [] else '.' :: fraction) fraction := by
    cases fraction with
    | nil => exact .none
    | cons c cs => exact .places (List.cons_ne_nil c cs) digits
  rw [text]
  cases negative with
  | false =>
    have spelled := SpellsNumeral.positive w f p
    rwa [Decimal.value_digits] at spelled
  | true =>
    have spelled := SpellsNumeral.negative w f p
    rwa [Decimal.value_digits] at spelled

theorem spellsTokens_lineBreak (level : Nat) {text : List Char} {tokens : List Token}
    (rest : SpellsTokens text tokens) : SpellsTokens (lineBreak level ++ text) tokens := by
  have spaces (n : Nat) : SpellsTokens (List.replicate n ' ' ++ text) tokens := by
    induction n with
    | zero => exact rest
    | succ n ih => exact .space rfl ih
  exact .space rfl (spaces _)

theorem endsNumeral_cons {c : Char} (other : isDigit c = false ∧ c ≠ '.' ∧ c ≠ 'e' ∧ c ≠ 'E')
    (rest : List Char) : EndsNumeral (c :: rest) := by
  intro d h
  cases h
  exact other

theorem endsNumeral_lineBreak (level : Nat) (rest : List Char) :
    EndsNumeral (lineBreak level ++ rest) :=
  endsNumeral_cons (by decide) _

mutual

/-- A printed value spells its tokens, in front of a text that cannot go on a number. -/
theorem spellsTokens_prettyAt (level : Nat) (j : Json) (writable : j.isWritable = true)
    {text : List Char} {tokens : List Token} (ends : EndsNumeral text)
    (rest : SpellsTokens text tokens) :
    SpellsTokens (prettyAt level j ++ text) (tokensOf j ++ tokens) := by
  match j with
  | .null =>
    have null : word? 'n' = some (['u', 'l', 'l'], .null) := rfl
    exact .word null rest
  | .bool true =>
    have yes : word? 't' = some (['r', 'u', 'e'], .bool true) := rfl
    exact .word yes rest
  | .bool false =>
    have no : word? 'f' = some (['a', 'l', 's', 'e'], .bool false) := rfl
    exact .word no rest
  | .number n => exact .number (spellsNumeral_text writable) ends rest
  | .string (some s) => exact spellsTokens_quoted s rest
  | .array [] => exact .mark rfl (.mark rfl rest)
  | .array (item :: items) =>
    obtain ⟨here, later⟩ := Bool.and_eq_true_iff.mp writable
    have closed : SpellsTokens (lineBreak level ++ ']' :: text) (.closeBracket :: tokens) :=
      spellsTokens_lineBreak level (.mark rfl rest)
    obtain ⟨ends, more⟩ := spellsTokens_moreItems (level + 1) items later
      (endsNumeral_lineBreak level _) closed
    have first := spellsTokens_prettyAt (level + 1) item here ends more
    have opened : punctuation? '[' = some .openBracket := rfl
    have whole := SpellsTokens.mark opened (spellsTokens_lineBreak (level + 1) first)
    simpa [prettyAt, tokensOf] using whole
  | .object [] => exact .mark rfl (.mark rfl rest)
  | .object ((some key, value) :: fields) =>
    obtain ⟨here, later⟩ := Bool.and_eq_true_iff.mp writable
    have closed : SpellsTokens (lineBreak level ++ '}' :: text) (.closeBrace :: tokens) :=
      spellsTokens_lineBreak level (.mark rfl rest)
    obtain ⟨ends, more⟩ := spellsTokens_moreFields (level + 1) fields later
      (endsNumeral_lineBreak level _) closed
    have first := spellsTokens_prettyAt (level + 1) value here ends more
    have colon : punctuation? ':' = some .colon := rfl
    have blank : isSpace ' ' = true := rfl
    have named := spellsTokens_quoted key (.mark colon (.space blank first))
    have opened : punctuation? '{' = some .openBrace := rfl
    have whole := SpellsTokens.mark opened (spellsTokens_lineBreak (level + 1) named)
    simpa [prettyAt, tokensOf] using whole

theorem spellsTokens_moreItems (level : Nat) (items : List Json)
    (writable : itemsWritable items = true) {text : List Char} {tokens : List Token}
    (ends : EndsNumeral text) (rest : SpellsTokens text tokens) :
    EndsNumeral (moreItems level items ++ text) ∧
      SpellsTokens (moreItems level items ++ text) (moreItemTokens items ++ tokens) := by
  match items with
  | [] => exact ⟨ends, rest⟩
  | item :: items =>
    obtain ⟨here, later⟩ := Bool.and_eq_true_iff.mp writable
    obtain ⟨ends, more⟩ := spellsTokens_moreItems level items later ends rest
    have first := spellsTokens_prettyAt level item here ends more
    have comma : punctuation? ',' = some .comma := rfl
    have whole := SpellsTokens.mark comma (spellsTokens_lineBreak level first)
    exact ⟨endsNumeral_cons (by decide) _, by simpa [moreItems, moreItemTokens] using whole⟩

theorem spellsTokens_moreFields (level : Nat) (fields : List (Option String × Json))
    (writable : fieldsWritable fields = true) {text : List Char} {tokens : List Token}
    (ends : EndsNumeral text) (rest : SpellsTokens text tokens) :
    EndsNumeral (moreFields level fields ++ text) ∧
      SpellsTokens (moreFields level fields ++ text) (moreFieldTokens fields ++ tokens) := by
  match fields with
  | [] => exact ⟨ends, rest⟩
  | (some key, value) :: fields =>
    obtain ⟨here, later⟩ := Bool.and_eq_true_iff.mp writable
    obtain ⟨ends, more⟩ := spellsTokens_moreFields level fields later ends rest
    have first := spellsTokens_prettyAt level value here ends more
    have colon : punctuation? ':' = some .colon := rfl
    have blank : isSpace ' ' = true := rfl
    have named := spellsTokens_quoted key (.mark colon (.space blank first))
    have comma : punctuation? ',' = some .comma := rfl
    have whole := SpellsTokens.mark comma (spellsTokens_lineBreak level named)
    exact ⟨endsNumeral_cons (by decide) _, by simpa [moreFields, moreFieldTokens] using whole⟩

end

/-- The text of a value is a spelling of it. -/
theorem spells_pretty {j : Json} (writable : j.isWritable = true) : Spells (pretty j).toList j := by
  have ends : EndsNumeral [] := nofun
  have spelled := spellsTokens_prettyAt 0 j writable ends .nil
  rw [List.append_nil, List.append_nil] at spelled
  rw [pretty, String.toList_ofList]
  exact spelled

end Json

end Mender
