import Mathlib
import Mender.Proofs.Json.Spelling

/-!
# What the reader of JSON takes

The reader takes nothing but spellings of the value that it reads. Each part of the lexer
gives back the spelling that it has consumed; of the automaton, `State.spelled` says which
tokens have led to a state. With `ofText?_of_spells` the reader and the grammar agree.
-/

namespace Mender.Json

open Text

section Lexing

theorem spells_of_stringPieces {found pieces : List Piece} {text rest : List Char}
    (h : stringPieces found text = some (pieces, rest)) :
    ∃ inside read, text = inside ++ '"' :: rest ∧ SpellsPieces inside read ∧
      pieces = read.reverse ++ found := by
  fun_induction stringPieces found text with
  | case1 => cases h
  | case2 =>
    cases h
    exact ⟨[], [], rfl, .nil, rfl⟩
  | case3 found a b c d text n value ih =>
    obtain ⟨inside, read, rfl, spelled, rfl⟩ := ih h
    exact ⟨_, _, rfl, .unit value spelled, by simp⟩
  | case4 => cases h
  | case5 found e text other c stands ih =>
    obtain ⟨inside, read, rfl, spelled, rfl⟩ := ih h
    exact ⟨_, _, rfl, .letter stands spelled, by simp⟩
  | case6 => cases h
  | case7 => cases h
  | case8 found c text no_quote no_unit no_letter plain ih =>
    obtain ⟨inside, read, rfl, spelled, rfl⟩ := ih h
    simp only [Bool.or_eq_true, decide_eq_true_eq, not_or] at plain
    exact ⟨_, _, rfl, .plain plain.1 no_quote plain.2 spelled, by simp⟩

/-- Where a row of digits ends. -/
def EndsDigits (text : List Char) : Prop := ∀ c, text.head? = some c → isDigit c = false

theorem takeDigits_spec {text digits rest : List Char} (h : takeDigits text = (digits, rest)) :
    text = digits ++ rest ∧ digits.all isDigit = true ∧ EndsDigits rest := by
  cases h
  refine ⟨List.takeWhile_append_dropWhile.symm, List.all_takeWhile, fun c first => ?_⟩
  have ends := List.head?_dropWhile_not isDigit text
  rw [first] at ends
  simpa using ends

theorem spells_of_wholePart {text rest : List Char} {n : Nat}
    (h : wholePart text = some (n, rest)) :
    ∃ whole, text = whole ++ rest ∧ IsWhole whole ∧ n = Decimal.value whole ∧ EndsDigits rest := by
  unfold wholePart at h
  split at h
  · cases h
  · next found =>
    cases h
    obtain ⟨parts, all_digits, ends⟩ := takeDigits_spec found
    exact ⟨['0'], parts, ⟨nofun, all_digits, fun _ same => by cases same; rfl⟩, rfl, ends⟩
  · cases h
  · next digits rest' nonempty _ no_zero found =>
    cases h
    obtain ⟨parts, all_digits, ends⟩ := takeDigits_spec found
    refine ⟨digits, parts, ⟨nonempty, all_digits, fun more same => ?_⟩, rfl, ends⟩
    exact absurd same (no_zero more)

theorem spells_of_fractionPart {text rest digits : List Char} (starts : EndsDigits text)
    (h : fractionPart text = some (digits, rest)) :
    ∃ point, text = point ++ rest ∧ SpellsFraction point digits ∧ EndsDigits rest := by
  unfold fractionPart at h
  split at h
  · next text =>
    split at h
    · cases h
    · next digits' rest' nonempty found =>
      cases h
      obtain ⟨rfl, all_digits, ends⟩ := takeDigits_spec found
      exact ⟨_, rfl, .places nonempty all_digits, ends⟩
  · cases h
    exact ⟨[], rfl, .none, starts⟩

theorem spells_of_exponentDigits {negative : Bool} {text rest : List Char} {power : Option Int}
    (h : exponentDigits negative text = some (power, rest)) :
    ∃ digits, text = digits ++ rest ∧ digits ≠ [] ∧ digits.all isDigit = true ∧
      power = some (if negative then -(Decimal.value digits : Int) else Decimal.value digits) ∧
      EndsDigits rest := by
  unfold exponentDigits at h
  split at h
  · cases h
  · next digits rest' nonempty found =>
    cases h
    obtain ⟨parts, all_digits, ends⟩ := takeDigits_spec found
    exact ⟨digits, parts, nonempty, all_digits, rfl, ends⟩

theorem spells_of_exponentPart {text rest : List Char} {power : Option Int}
    (starts : EndsDigits text) (h : exponentPart text = some (power, rest)) :
    ∃ sign, text = sign ++ rest ∧ SpellsPower sign power ∧ EndsDigits rest := by
  unfold exponentPart at h
  split at h
  · next mark text =>
    split at h
    · next marks =>
      have marked : mark = 'e' ∨ mark = 'E' := by simpa using marks
      split at h
      · obtain ⟨digits, rfl, nonempty, all_digits, rfl, ends⟩ := spells_of_exponentDigits h
        exact ⟨mark :: (['+'] ++ digits), rfl, .up marked (.inr rfl) nonempty all_digits, ends⟩
      · obtain ⟨digits, rfl, nonempty, all_digits, rfl, ends⟩ := spells_of_exponentDigits h
        exact ⟨_, rfl, .down marked nonempty all_digits, ends⟩
      · obtain ⟨digits, rfl, nonempty, all_digits, rfl, ends⟩ := spells_of_exponentDigits h
        exact ⟨mark :: ([] ++ digits), rfl, .up marked (.inl rfl) nonempty all_digits, ends⟩
    · cases h
      exact ⟨[], rfl, .none, starts⟩
  · cases h
    exact ⟨[], rfl, .none, starts⟩

theorem spells_of_magnitude {negative : Bool} {text rest : List Char} {n : Numeral}
    (h : magnitude negative text = some (n, rest)) :
    ∃ whole point power fraction exponent, text = whole ++ (point ++ power) ++ rest ∧
      IsWhole whole ∧ SpellsFraction point fraction ∧ SpellsPower power exponent ∧
      n = ⟨negative, Decimal.value whole, fraction, exponent⟩ ∧ EndsDigits rest := by
  unfold magnitude at h
  simp only [Option.bind_eq_bind, Option.bind_eq_some_iff, Prod.exists, Option.pure_def,
    Option.some.injEq, Prod.mk.injEq] at h
  obtain ⟨_, _, hw, _, _, hf, _, _, hp, rfl, rfl⟩ := h
  obtain ⟨whole, rfl, w, rfl, after_whole⟩ := spells_of_wholePart hw
  obtain ⟨point, rfl, f, after_point⟩ := spells_of_fractionPart after_whole hf
  obtain ⟨power, rfl, p, ends⟩ := spells_of_exponentPart after_point hp
  exact ⟨whole, point, power, _, _, by simp, w, f, p, rfl, ends⟩

theorem spells_of_numeral {c : Char} {rest after : List Char} {n : Numeral}
    (h : numeral c rest = some (n, after)) :
    ∃ digits, c :: rest = digits ++ after ∧ SpellsNumeral digits n ∧ EndsDigits after := by
  unfold numeral at h
  split at h
  · next minus =>
    subst minus
    obtain ⟨whole, point, power, _, _, rfl, w, f, p, rfl, ends⟩ := spells_of_magnitude h
    exact ⟨_, rfl, .negative w f p, ends⟩
  · obtain ⟨whole, point, power, _, _, parts, w, f, p, rfl, ends⟩ := spells_of_magnitude h
    exact ⟨_, parts, .positive w f p, ends⟩

/-- A point or the mark of a power does not stand alone. -/
theorem tokens?_stray {c : Char} (stray : c = '.' ∨ c = 'e' ∨ c = 'E') (rest : List Char) :
    tokens? (c :: rest) = none := by
  have nothing : token c rest = none := by
    rcases stray with rfl | rfl | rfl <;> rfl
  have ink : isSpace c = false := by
    rcases stray with rfl | rfl | rfl <;> rfl
  rw [tokens?, if_neg (by simp [ink])]
  split
  · rfl
  · next found =>
    rw [nothing] at found
    cases found

/-- What is cut into tokens behind digits does not go on a number. -/
theorem endsNumeral_of_tokens? {text : List Char} {tokens : List Token} (starts : EndsDigits text)
    (h : tokens? text = some tokens) : EndsNumeral text := by
  intro c first
  obtain ⟨rest, rfl⟩ : ∃ rest, text = c :: rest := by
    cases text <;> cases first
    exact ⟨_, rfl⟩
  have alone (stray : c = '.' ∨ c = 'e' ∨ c = 'E') : False := by
    rw [tokens?_stray stray] at h
    cases h
  exact ⟨starts c first, fun point => alone (.inl point), fun mark => alone (.inr (.inl mark)),
    fun mark => alone (.inr (.inr mark))⟩

/-- A text that is cut into tokens spells them. -/
theorem spells_of_tokens? {text : List Char} {tokens : List Token}
    (h : tokens? text = some tokens) : SpellsTokens text tokens := by
  fun_induction tokens? text generalizing tokens with
  | case1 =>
    cases h
    exact .nil
  | case2 c rest blank ih => exact .space blank (ih h)
  | case3 => cases h
  | case4 c rest ink t after read ih =>
    obtain ⟨later, cut, rfl⟩ := Option.map_eq_some_iff.mp h
    have spelled := ih cut
    unfold token at read
    split at read
    · next marks =>
      cases read
      exact .mark marks spelled
    split at read
    · next means =>
      obtain ⟨_, found, same⟩ := Option.map_eq_some_iff.mp read
      cases same
      rw [rest?_eq_some_iff.mp found]
      exact .word means spelled
    split at read
    · next quote =>
      subst quote
      obtain ⟨_, found, same⟩ := Option.map_eq_some_iff.mp read
      obtain ⟨⟨pieces, after⟩, pieced, rfl⟩ := Option.map_eq_some_iff.mp found
      cases same
      obtain ⟨inside, pieces, rfl, inner, rfl⟩ := spells_of_stringPieces pieced
      simpa using SpellsTokens.string inner spelled
    · obtain ⟨_, found, same⟩ := Option.map_eq_some_iff.mp read
      cases same
      obtain ⟨digits, parts, numeral, ends⟩ := spells_of_numeral found
      rw [parts]
      exact .number numeral (endsNumeral_of_tokens? ends cut) spelled

end Lexing

section Parsing

open State (step)

/-- Items with a comma behind each of them. -/
def itemTokens (items : List Json) : List Token := items.flatMap fun v => tokensOf v ++ [.comma]

/-- Fields with a comma behind each of them. -/
def fieldTokens (fields : List (Option String × Json)) : List Token :=
  fields.flatMap fun (key, v) => .string key :: .colon :: (tokensOf v ++ [.comma])

/-- The tokens of a container that waits. -/
def Frame.spelled : Frame → List Token
  | .items done => .openBracket :: itemTokens done.reverse
  | .fields done key => .openBrace :: (fieldTokens done.reverse ++ [.string key, .colon])

/-- The tokens that lead into open containers, the innermost first. -/
def stackSpelled (stack : List Frame) : List Token := stack.reverse.flatMap Frame.spelled

/-- The tokens that lead to a state. -/
def State.spelled : State → List Token
  | .value stack => stackSpelled stack
  | .firstItem stack => stackSpelled stack ++ [.openBracket]
  | .firstKey stack => stackSpelled stack ++ [.openBrace]
  | .key done stack => stackSpelled stack ++ .openBrace :: fieldTokens done.reverse
  | .colon done name stack =>
    stackSpelled stack ++ .openBrace :: (fieldTokens done.reverse ++ [.string name])
  | .after v stack => stackSpelled stack ++ tokensOf v

@[simp] theorem stackSpelled_cons (frame : Frame) (stack : List Frame) :
    stackSpelled (frame :: stack) = stackSpelled stack ++ frame.spelled := by
  simp [stackSpelled]

/-- The commas between items may as well be counted behind the items before them. -/
theorem moreItemTokens_append (items : List Json) (v : Json) :
    .comma :: (itemTokens items ++ tokensOf v) = moreItemTokens (items ++ [v]) := by
  induction items with
  | nil => simp [itemTokens, moreItemTokens]
  | cons item items ih =>
    rw [List.cons_append, moreItemTokens, ← ih]
    simp [itemTokens]

theorem tokensOf_array (items : List Json) (v : Json) :
    tokensOf (.array (items ++ [v])) =
      .openBracket :: (itemTokens items ++ tokensOf v ++ [.closeBracket]) := by
  cases items with
  | nil => simp [tokensOf, itemTokens, moreItemTokens]
  | cons item items =>
    rw [List.cons_append, tokensOf, ← moreItemTokens_append]
    simp [itemTokens]

theorem moreFieldTokens_append (fields : List (Option String × Json)) (key : Option String)
    (v : Json) :
    .comma :: (fieldTokens fields ++ .string key :: .colon :: tokensOf v) =
      moreFieldTokens (fields ++ [(key, v)]) := by
  induction fields with
  | nil => simp [fieldTokens, moreFieldTokens]
  | cons field fields ih =>
    rw [List.cons_append, moreFieldTokens, ← ih]
    simp [fieldTokens]

theorem tokensOf_object (fields : List (Option String × Json)) (key : Option String) (v : Json) :
    tokensOf (.object (fields ++ [(key, v)])) =
      .openBrace :: (fieldTokens fields ++ .string key :: .colon :: (tokensOf v ++
        [.closeBrace])) := by
  cases fields with
  | nil => simp [tokensOf, fieldTokens, moreFieldTokens]
  | cons field fields =>
    rw [List.cons_append, tokensOf, ← moreFieldTokens_append]
    simp [fieldTokens]

theorem spelled_begin {stack : List Frame} {t : Token} {s : State}
    (h : State.begin stack t = some s) : s.spelled = stackSpelled stack ++ [t] := by
  unfold State.begin at h
  split at h <;> cases h <;> simp [State.spelled, tokensOf]

/-- A step adds its token to those that led to the state. -/
theorem spelled_step {s s' : State} {t : Token} (h : step s t = some s') :
    s'.spelled = s.spelled ++ [t] := by
  unfold step at h
  split at h
  · exact spelled_begin h
  · cases h
    simp [State.spelled, tokensOf]
  · rw [spelled_begin h]
    simp [State.spelled, Frame.spelled, itemTokens]
  · cases h
    simp [State.spelled, tokensOf]
  all_goals
    cases h <;>
    simp [State.spelled, Frame.spelled, itemTokens, fieldTokens, tokensOf_array, tokensOf_object]

theorem spelled_foldlM {tokens : List Token} {s s' : State}
    (h : tokens.foldlM step s = some s') : s'.spelled = s.spelled ++ tokens := by
  induction tokens generalizing s with
  | nil =>
    cases h
    simp
  | cons t tokens ih =>
    obtain ⟨next, stepped, rest⟩ := Option.bind_eq_some_iff.mp h
    rw [ih rest, spelled_step stepped]
    simp

theorem tokensOf_of_ofTokens? {tokens : List Token} {j : Json} (h : ofTokens? tokens = some j) :
    tokens = tokensOf j := by
  obtain ⟨s, ran, result⟩ := Option.bind_eq_some_iff.mp h
  have spelled := spelled_foldlM ran
  unfold State.result? at result
  split at result
  · cases result
    simpa [State.spelled, stackSpelled] using spelled.symm
  · cases result

/-- The reader takes exactly the spellings of a value. -/
theorem ofText?_eq_some_iff {text : List Char} {j : Json} :
    ofText? text = some j ↔ Spells text j := by
  constructor
  · intro h
    obtain ⟨tokens, cut, read⟩ := Option.bind_eq_some_iff.mp h
    have spelled := spells_of_tokens? cut
    rwa [tokensOf_of_ofTokens? read] at spelled
  · exact ofText?_of_spells

end Parsing

end Mender.Json
