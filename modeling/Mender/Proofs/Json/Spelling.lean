import Mender.Json.Reader
import Mender.Proofs.Text.Search

/-!
# How JSON is spelled

A grammar of JSON texts, apart from the reader: blanks stand anywhere between tokens, a
character of a string may be escaped in every way there is, a number may be written with a
fraction and a power of ten. `ofText?_of_spells` says that the reader takes every spelling of
a value and reads that value.
-/

namespace Mender.Json

open Text

/-- The inside of a string, piece by piece. -/
inductive SpellsPieces : List Char → List Piece → Prop
  | nil : SpellsPieces [] []
  | plain {c text pieces} (printed : ¬c.toNat < 0x20) (no_quote : c ≠ '"') (no_escape : c ≠ '\\')
      (rest : SpellsPieces text pieces) : SpellsPieces (c :: text) (.char c :: pieces)
  | letter {e c text pieces} (stands : simpleEscape? e = some c)
      (rest : SpellsPieces text pieces) : SpellsPieces ('\\' :: e :: text) (.char c :: pieces)
  | unit {a b c d n text pieces} (value : hex4? a b c d = some n)
      (rest : SpellsPieces text pieces) :
      SpellsPieces ('\\' :: 'u' :: a :: b :: c :: d :: text) (.unit n :: pieces)

/-- Digits of a number without a needless zero in front. -/
structure IsWhole (digits : List Char) : Prop where
  nonempty : digits ≠ []
  all_digits : digits.all isDigit = true
  no_zero : ∀ rest, digits = '0' :: rest → rest = []

inductive SpellsFraction : List Char → List Char → Prop
  | none : SpellsFraction [] []
  | places {digits : List Char} (nonempty : digits ≠ []) (all_digits : digits.all isDigit = true) :
      SpellsFraction ('.' :: digits) digits

inductive SpellsPower : List Char → Option Int → Prop
  | none : SpellsPower [] none
  | up {mark : Char} {sign digits : List Char} (marked : mark = 'e' ∨ mark = 'E')
      (signed : sign = [] ∨ sign = ['+']) (nonempty : digits ≠ [])
      (all_digits : digits.all isDigit = true) :
      SpellsPower (mark :: (sign ++ digits)) (some (Decimal.value digits))
  | down {mark : Char} {digits : List Char} (marked : mark = 'e' ∨ mark = 'E')
      (nonempty : digits ≠ []) (all_digits : digits.all isDigit = true) :
      SpellsPower (mark :: '-' :: digits) (some (-(Decimal.value digits : Int)))

inductive SpellsNumeral : List Char → Numeral → Prop
  | positive {whole point power fraction exponent} (w : IsWhole whole)
      (f : SpellsFraction point fraction) (p : SpellsPower power exponent) :
      SpellsNumeral (whole ++ (point ++ power)) ⟨false, Decimal.value whole, fraction, exponent⟩
  | negative {whole point power fraction exponent} (w : IsWhole whole)
      (f : SpellsFraction point fraction) (p : SpellsPower power exponent) :
      SpellsNumeral ('-' :: (whole ++ (point ++ power)))
        ⟨true, Decimal.value whole, fraction, exponent⟩

/-- A text that cannot go on a number in front of it. -/
def EndsNumeral (text : List Char) : Prop :=
  ∀ c, text.head? = some c → isDigit c = false ∧ c ≠ '.' ∧ c ≠ 'e' ∧ c ≠ 'E'

/-- A text as a row of tokens with blanks between them. -/
inductive SpellsTokens : List Char → List Token → Prop
  | nil : SpellsTokens [] []
  | space {c text tokens} (blank : isSpace c = true) (rest : SpellsTokens text tokens) :
      SpellsTokens (c :: text) tokens
  | mark {c token text tokens} (marks : punctuation? c = some token)
      (rest : SpellsTokens text tokens) : SpellsTokens (c :: text) (token :: tokens)
  | word {c letters token text tokens} (means : word? c = some (letters, token))
      (rest : SpellsTokens text tokens) : SpellsTokens (c :: (letters ++ text)) (token :: tokens)
  | string {inside pieces text tokens} (spelled : SpellsPieces inside pieces)
      (rest : SpellsTokens text tokens) :
      SpellsTokens ('"' :: (inside ++ '"' :: text)) (.string (joinPieces pieces) :: tokens)
  | number {digits n text tokens} (spelled : SpellsNumeral digits n) (ends : EndsNumeral text)
      (rest : SpellsTokens text tokens) : SpellsTokens (digits ++ text) (.number n :: tokens)

mutual

/-- The tokens of a value. -/
def tokensOf : Json → List Token
  | .null => [.null]
  | .bool b => [.bool b]
  | .number n => [.number n]
  | .string s => [.string s]
  | .array [] => [.openBracket, .closeBracket]
  | .array (item :: items) =>
    .openBracket :: (tokensOf item ++ (moreItemTokens items ++ [.closeBracket]))
  | .object [] => [.openBrace, .closeBrace]
  | .object ((key, value) :: fields) =>
    .openBrace :: .string key :: .colon ::
      (tokensOf value ++ (moreFieldTokens fields ++ [.closeBrace]))

def moreItemTokens : List Json → List Token
  | [] => []
  | item :: items => .comma :: (tokensOf item ++ moreItemTokens items)

def moreFieldTokens : List (Option String × Json) → List Token
  | [] => []
  | (key, value) :: fields =>
    .comma :: .string key :: .colon :: (tokensOf value ++ moreFieldTokens fields)

end

/-- The text is a spelling of the value. -/
def Spells (text : List Char) (j : Json) : Prop := SpellsTokens text (tokensOf j)

section Lexing

theorem stringPieces_append {inside : List Char} {pieces : List Piece}
    (h : SpellsPieces inside pieces) (found : List Piece) (rest : List Char) :
    stringPieces found (inside ++ '"' :: rest) = some (pieces.reverse ++ found, rest) := by
  induction h generalizing found with
  | nil => rfl
  | @plain c text pieces printed no_quote no_escape _ ih =>
    rw [List.cons_append, stringPieces]
    · rw [if_neg (by simp [printed, no_escape]), ih]
      simp
    all_goals simp_all
  | @letter e c text pieces stands _ ih =>
    have other : e ≠ 'u' := by
      rintro rfl
      cases stands
    rw [List.cons_append, List.cons_append, stringPieces]
    · rw [stands]
      dsimp only
      rw [ih]
      simp
    all_goals simp_all
  | @unit a b c d n text pieces value _ ih =>
    simp only [List.cons_append, stringPieces, value]
    rw [ih]
    simp

theorem takeDigits_append {digits rest : List Char} (all_digits : digits.all isDigit = true)
    (ends : ∀ c, rest.head? = some c → isDigit c = false) :
    takeDigits (digits ++ rest) = (digits, rest) := by
  obtain ⟨taken, left⟩ := span_append (List.all_eq_true.mp all_digits) ends
  rw [takeDigits, taken, left]

theorem wholePart_append {whole rest : List Char} (w : IsWhole whole)
    (ends : ∀ c, rest.head? = some c → isDigit c = false) :
    wholePart (whole ++ rest) = some (Decimal.value whole, rest) := by
  rw [wholePart, takeDigits_append w.all_digits ends]
  split
  · next empty =>
    cases empty
    exact absurd rfl w.nonempty
  · next zero =>
    cases zero
    rfl
  · next other zero =>
    cases zero
    cases w.no_zero _ rfl
    exact absurd rfl other
  · next digits =>
    cases digits
    rfl

theorem fractionPart_append {point fraction rest : List Char} (f : SpellsFraction point fraction)
    (ends : ∀ c, rest.head? = some c → isDigit c = false ∧ c ≠ '.') :
    fractionPart (point ++ rest) = some (fraction, rest) := by
  cases f with
  | none =>
    cases rest with
    | nil => rfl
    | cons c rest =>
      have other := (ends c rfl).2
      rw [List.nil_append, fractionPart]
      simp_all
  | places nonempty all_digits =>
    rw [List.cons_append, fractionPart, takeDigits_append all_digits fun c h => (ends c h).1]
    cases fraction with
    | nil => exact absurd rfl nonempty
    | cons => rfl

theorem exponentDigits_append {digits rest : List Char} (nonempty : digits ≠ [])
    (all_digits : digits.all isDigit = true)
    (ends : ∀ c, rest.head? = some c → isDigit c = false) (negative : Bool) :
    exponentDigits negative (digits ++ rest) =
      some (some (if negative then -(Decimal.value digits : Int) else Decimal.value digits), rest) := by
  rw [exponentDigits, takeDigits_append all_digits ends]
  cases digits with
  | nil => exact absurd rfl nonempty
  | cons => rfl

theorem exponentPart_append {power : List Char} {exponent : Option Int} {rest : List Char}
    (p : SpellsPower power exponent) (ends : EndsNumeral rest) :
    exponentPart (power ++ rest) = some (exponent, rest) := by
  have no_digit (c : Char) (h : rest.head? = some c) := (ends c h).1
  cases p with
  | none =>
    cases rest with
    | nil => rfl
    | cons c rest =>
      obtain ⟨-, -, not_e, not_E⟩ := ends c rfl
      simp [exponentPart, not_e, not_E]
  | @up mark sign digits marked signed nonempty all_digits =>
    have isMark : (mark = 'e' || mark = 'E') = true := by simpa using marked
    have read := exponentDigits_append nonempty all_digits no_digit false
    unfold exponentPart
    dsimp only [List.cons_append]
    rw [if_pos isMark]
    rcases signed with rfl | rfl
    · cases digits with
      | nil => exact absurd rfl nonempty
      | cons d digits =>
        -- the first digit is no sign
        have digit : isDigit d = true := (List.all_eq_true.mp all_digits) d List.mem_cons_self
        split
        · next plus =>
          cases plus
          cases digit
        · next minus =>
          cases minus
          cases digit
        · exact read
    · exact read
  | @down mark digits marked nonempty all_digits =>
    have isMark : (mark = 'e' || mark = 'E') = true := by simpa using marked
    unfold exponentPart
    dsimp only [List.cons_append]
    rw [if_pos isMark]
    exact exponentDigits_append nonempty all_digits no_digit true

theorem magnitude_append {whole point power fraction : List Char} {exponent : Option Int}
    (w : IsWhole whole) (f : SpellsFraction point fraction) (p : SpellsPower power exponent)
    {rest : List Char} (ends : EndsNumeral rest) (negative : Bool) :
    magnitude negative (whole ++ (point ++ power) ++ rest) =
      some (⟨negative, Decimal.value whole, fraction, exponent⟩, rest) := by
  have after_fraction (c : Char) (h : (power ++ rest).head? = some c) :
      isDigit c = false ∧ c ≠ '.' := by
    cases p with
    | none => exact ⟨(ends c h).1, (ends c h).2.1⟩
    | up marked => cases h; rcases marked with rfl | rfl <;> decide
    | down marked => cases h; rcases marked with rfl | rfl <;> decide
  have after_whole (c : Char) (h : (point ++ (power ++ rest)).head? = some c) :
      isDigit c = false := by
    cases f with
    | none => exact (after_fraction c h).1
    | places => cases h; decide
  rw [List.append_assoc, List.append_assoc, magnitude, wholePart_append w after_whole]
  simp only [Option.bind_eq_bind, Option.bind_some, fractionPart_append f after_fraction,
    exponentPart_append p ends]
  rfl

/-- A numeral is read up to its end, by its first character and what follows. -/
theorem numeral_append {digits : List Char} {n : Numeral} (h : SpellsNumeral digits n)
    {rest : List Char} (ends : EndsNumeral rest) :
    ∃ c more, digits ++ rest = c :: more ∧ (c = '-' ∨ isDigit c = true) ∧
      numeral c more = some (n, rest) := by
  cases h with
  | @positive whole point power fraction exponent w f p =>
    have read := magnitude_append w f p ends false
    have first := w.all_digits
    cases whole with
    | nil => exact absurd rfl w.nonempty
    | cons c whole =>
      have digit : isDigit c = true := (List.all_eq_true.mp first) c List.mem_cons_self
      refine ⟨c, _, rfl, .inr digit, ?_⟩
      rw [numeral, if_neg, ← read]
      · rfl
      · rintro rfl
        cases digit
  | negative w f p => exact ⟨'-', _, rfl, .inl rfl, magnitude_append w f p ends true⟩

theorem tokens?_space {c : Char} (blank : isSpace c = true) (rest : List Char) :
    tokens? (c :: rest) = tokens? rest := by
  rw [tokens?, if_pos blank]

theorem tokens?_token {c : Char} {rest after : List Char} {t : Token} (ink : isSpace c = false)
    (read : token c rest = some (t, after)) :
    tokens? (c :: rest) = (tokens? after).map (t :: ·) := by
  rw [tokens?, if_neg (by simp [ink])]
  split
  · next none =>
    rw [read] at none
    cases none
  · next found =>
    rw [read] at found
    cases found
    rfl

theorem punctuation?_of_ne {c : Char}
    (h : c ≠ '{' ∧ c ≠ '}' ∧ c ≠ '[' ∧ c ≠ ']' ∧ c ≠ ':' ∧ c ≠ ',') : punctuation? c = none := by
  obtain ⟨_, _, _, _, _, _⟩ := h
  unfold punctuation?
  split <;> first | contradiction | rfl

theorem token_mark {c : Char} {t : Token} (marks : punctuation? c = some t) (rest : List Char) :
    token c rest = some (t, rest) := by
  rw [token, marks]

theorem token_word {c : Char} {letters : List Char} {t : Token}
    (means : word? c = some (letters, t)) (rest : List Char) :
    token c (letters ++ rest) = some (t, rest) := by
  have no_mark : punctuation? c = none := by
    apply punctuation?_of_ne
    refine ⟨?_, ?_, ?_, ?_, ?_, ?_⟩ <;> rintro rfl <;> cases means
  rw [token, no_mark, means]
  dsimp only
  rw [rest?_append]
  rfl

theorem token_string {inside : List Char} {pieces : List Piece}
    (spelled : SpellsPieces inside pieces) (rest : List Char) :
    token '"' (inside ++ '"' :: rest) = some (.string (joinPieces pieces), rest) := by
  have read := stringPieces_append spelled [] rest
  change (stringBody (inside ++ '"' :: rest)).map _ = _
  rw [stringBody, read]
  simp

/-- No digit and no minus sign is a mark, a word's first letter, a quote or a blank. -/
theorem token_numeral {c : Char} (starts : c = '-' ∨ isDigit c = true) {n : Numeral}
    {more rest : List Char} (read : numeral c more = some (n, rest)) :
    isSpace c = false ∧ token c more = some (.number n, rest) := by
  have other (d : Char) (h : d ≠ '-' ∧ isDigit d = false) : c ≠ d := by
    rintro rfl
    rcases starts with rfl | digit
    · exact h.1 rfl
    · rw [h.2] at digit
      cases digit
  have no_mark : punctuation? c = none := by
    apply punctuation?_of_ne
    refine ⟨?_, ?_, ?_, ?_, ?_, ?_⟩ <;> exact other _ (by decide)
  have no_word : word? c = none := by
    unfold word?
    split
    · exact absurd rfl (other 't' (by decide))
    · exact absurd rfl (other 'f' (by decide))
    · exact absurd rfl (other 'n' (by decide))
    · rfl
  have no_quote : c ≠ '"' := other _ (by decide)
  constructor
  · have space := other ' ' (by decide)
    have tab := other '\t' (by decide)
    have line := other '\n' (by decide)
    have carriage := other '\r' (by decide)
    simp [isSpace, space, tab, line, carriage]
  · rw [token, no_mark, no_word]
    dsimp only
    rw [if_neg no_quote, read]
    rfl

theorem EndsNumeral.append {text rest : List Char} (here : EndsNumeral text)
    (later : EndsNumeral rest) : EndsNumeral (text ++ rest) := by
  cases text with
  | nil => exact later
  | cons => exact here

/-- The tokens of a text are followed by those of the text behind it, unless this goes on a
number. -/
theorem tokens?_append {text : List Char} {tokens : List Token} (h : SpellsTokens text tokens)
    {rest : List Char} (ends : EndsNumeral rest) :
    tokens? (text ++ rest) = (tokens? rest).map (tokens ++ ·) := by
  induction h with
  | nil => simp
  | space blank _ ih => rw [List.cons_append, tokens?_space blank, ih]
  | @mark c token text tokens marks _ ih =>
    have ink : isSpace c = false := by
      rw [isSpace]
      unfold punctuation? at marks
      split at marks <;> first | rfl | cases marks
    rw [List.cons_append, tokens?_token ink (token_mark marks _), ih, Option.map_map]
    rfl
  | @word c letters token text tokens means _ ih =>
    have ink : isSpace c = false := by
      rw [isSpace]
      unfold word? at means
      split at means <;> first | rfl | cases means
    rw [List.cons_append, List.append_assoc, tokens?_token ink (token_word means _), ih,
      Option.map_map]
    rfl
  | string spelled _ ih =>
    rw [List.cons_append, List.append_assoc, List.cons_append,
      tokens?_token rfl (token_string spelled _), ih, Option.map_map]
    rfl
  | number spelled apart _ ih =>
    obtain ⟨c, more, same, starts, read⟩ := numeral_append spelled (apart.append ends)
    obtain ⟨ink, found⟩ := token_numeral starts read
    rw [List.append_assoc, same, tokens?_token ink found, ih, Option.map_map]
    rfl

/-- The tokens of a text are those it spells. -/
theorem tokens?_of_spells {text : List Char} {tokens : List Token} (h : SpellsTokens text tokens) :
    tokens? text = some tokens := by
  have read : tokens? (text ++ []) = _ := tokens?_append h nofun
  simpa [tokens?] using read

end Lexing

section Parsing

open State (step)

/-- An array that has just been opened takes a value as any array does. -/
theorem foldlM_firstItem (j : Json) (stack : List Frame) (rest : List Token) :
    (tokensOf j ++ rest).foldlM step (.firstItem stack) =
      (tokensOf j ++ rest).foldlM step (.value (.items [] :: stack)) := by
  match j with
  | .null | .bool _ | .number _ | .string _ | .array [] | .array (_ :: _) | .object []
  | .object (_ :: _) => rfl

mutual

/-- The tokens of a value, where a value may stand, read as that value. -/
theorem foldlM_value (j : Json) (stack : List Frame) (rest : List Token) :
    (tokensOf j ++ rest).foldlM step (.value stack) = rest.foldlM step (.after j stack) := by
  match j with
  | .null | .bool _ | .number _ | .string _ | .array [] | .object [] => rfl
  | .array (item :: items) =>
    have opened : (tokensOf (.array (item :: items)) ++ rest).foldlM step (.value stack) =
        (tokensOf item ++ (moreItemTokens items ++ .closeBracket :: rest)).foldlM step
          (.firstItem stack) := by
      simp [tokensOf, State.step, State.begin]
    rw [opened, foldlM_firstItem, foldlM_value item, foldlM_moreItems items]
    rfl
  | .object ((key, value) :: fields) =>
    have opened : (tokensOf (.object ((key, value) :: fields)) ++ rest).foldlM step
        (.value stack) = (tokensOf value ++ (moreFieldTokens fields ++ .closeBrace :: rest)).foldlM
          step (.value (.fields [] key :: stack)) := by
      simp [tokensOf, State.step, State.begin]
    rw [opened, foldlM_value value, foldlM_moreFields fields]
    rfl

theorem foldlM_moreItems (items : List Json) (v : Json) (done : List Json) (stack : List Frame)
    (rest : List Token) :
    (moreItemTokens items ++ .closeBracket :: rest).foldlM step (.after v (.items done :: stack)) =
      rest.foldlM step (.after (.array ((v :: done).reverse ++ items)) stack) := by
  match items with
  | [] =>
    rw [List.append_nil]
    rfl
  | item :: items =>
    have opened : (moreItemTokens (item :: items) ++ .closeBracket :: rest).foldlM step
        (.after v (.items done :: stack)) =
          (tokensOf item ++ (moreItemTokens items ++ .closeBracket :: rest)).foldlM step
            (.value (.items (v :: done) :: stack)) := by
      simp [moreItemTokens, State.step]
    rw [opened, foldlM_value item, foldlM_moreItems items]
    simp

theorem foldlM_moreFields (fields : List (Option String × Json)) (v : Json)
    (key : Option String) (done : List (Option String × Json)) (stack : List Frame)
    (rest : List Token) :
    (moreFieldTokens fields ++ .closeBrace :: rest).foldlM step
        (.after v (.fields done key :: stack)) =
      rest.foldlM step (.after (.object (((key, v) :: done).reverse ++ fields)) stack) := by
  match fields with
  | [] =>
    rw [List.append_nil]
    rfl
  | (name, value) :: fields =>
    have opened : (moreFieldTokens ((name, value) :: fields) ++ .closeBrace :: rest).foldlM step
        (.after v (.fields done key :: stack)) =
          (tokensOf value ++ (moreFieldTokens fields ++ .closeBrace :: rest)).foldlM step
            (.value (.fields ((key, v) :: done) name :: stack)) := by
      simp [moreFieldTokens, State.step]
    rw [opened, foldlM_value value, foldlM_moreFields fields]
    simp

end

theorem ofTokens?_tokensOf (j : Json) : ofTokens? (tokensOf j) = some j := by
  have read := foldlM_value j [] []
  rw [List.append_nil] at read
  rw [ofTokens?, read]
  rfl

/-- The reader takes every spelling of a value. -/
theorem ofText?_of_spells {text : List Char} {j : Json} (h : Spells text j) :
    ofText? text = some j := by
  rw [ofText?, tokens?_of_spells h]
  exact ofTokens?_tokensOf j

end Parsing

end Mender.Json
