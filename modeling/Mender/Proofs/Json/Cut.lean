import Mender.Proofs.Json.Reading
import Mender.Proofs.Text.Trim

/-!
# JSON texts that are cut

An object ends with its closing brace, and nothing but blanks can follow it. So a text
that is cut within an object does not read as anything, and neither does one that ends in a
broken character.
-/

namespace Mender.Json

open Text

theorem isBlank_of_isSpace {c : Char} (space : isSpace c = true) : isBlank c = true := by
  simp only [isSpace, Bool.or_eq_true, decide_eq_true_eq] at space
  rcases space with ((rfl | rfl) | rfl) | rfl <;> decide

theorem EndsNumeral.of_append {text rest : List Char} (h : EndsNumeral (text ++ rest)) :
    EndsNumeral text := by
  cases text with
  | nil => exact nofun
  | cons => exact h

theorem isSpace_of_spells_nil {text : List Char} (h : SpellsTokens text []) :
    ∀ c ∈ text, isSpace c = true := by
  generalize none_left : ([] : List Token) = tokens at h
  induction h with
  | nil => simp
  | space blank _ ih => exact List.forall_mem_cons.mpr ⟨blank, ih none_left⟩
  | mark | word | string | number => cases none_left

theorem eq_of_marks_closeBrace {c : Char} (marks : punctuation? c = some .closeBrace) :
    c = '}' := by
  unfold punctuation? at marks
  split at marks <;> first | rfl | cases marks

/-- Where a row of tokens ends with a closing brace, so does its text, but for blanks. -/
theorem SpellsTokens.closing {text : List Char} {tokens front : List Token}
    (h : SpellsTokens text tokens) (last : tokens = front ++ [.closeBrace]) :
    ∃ before spaces, text = before ++ '}' :: spaces ∧ SpellsTokens before front ∧
      ∀ c ∈ spaces, isSpace c = true := by
  induction h generalizing front with
  | nil => simp at last
  | @space c text tokens blank _ ih =>
    obtain ⟨before, spaces, rfl, spelled, blanks⟩ := ih last
    exact ⟨c :: before, spaces, rfl, .space blank spelled, blanks⟩
  | @mark c token text tokens marks rest ih =>
    cases front with
    | nil =>
      cases last
      obtain rfl := eq_of_marks_closeBrace marks
      exact ⟨[], text, rfl, .nil, isSpace_of_spells_nil rest⟩
    | cons =>
      cases last
      obtain ⟨before, spaces, rfl, spelled, blanks⟩ := ih rfl
      exact ⟨c :: before, spaces, rfl, .mark marks spelled, blanks⟩
  | @word c letters token text tokens means _ ih =>
    cases front with
    | nil =>
      cases last
      unfold word? at means
      split at means <;> cases means
    | cons =>
      cases last
      obtain ⟨before, spaces, rfl, spelled, blanks⟩ := ih rfl
      exact ⟨c :: (letters ++ before), spaces, by simp, .word means spelled, blanks⟩
  | @string inside pieces text tokens inner _ ih =>
    cases front with
    | nil => cases last
    | cons =>
      cases last
      obtain ⟨before, spaces, rfl, spelled, blanks⟩ := ih rfl
      exact ⟨'"' :: (inside ++ '"' :: before), spaces, by simp, .string inner spelled, blanks⟩
  | @number digits n text tokens numeral ends _ ih =>
    cases front with
    | nil => cases last
    | cons =>
      cases last
      obtain ⟨before, spaces, rfl, spelled, blanks⟩ := ih rfl
      exact ⟨digits ++ before, spaces, by simp, .number numeral ends.of_append spelled, blanks⟩

theorem exists_tokensOf_object (fields : List (Option String × Json)) :
    ∃ front, tokensOf (.object fields) = front ++ [.closeBrace] := by
  cases fields with
  | nil => exact ⟨[.openBrace], rfl⟩
  | cons field fields =>
    refine ⟨.openBrace :: .string field.1 :: .colon ::
      (tokensOf field.2 ++ moreFieldTokens fields), ?_⟩
    simp [tokensOf]

theorem tokens?_spaces {spaces : List Char} (blanks : ∀ c ∈ spaces, isSpace c = true)
    (rest : List Char) : tokens? (spaces ++ rest) = tokens? rest := by
  induction spaces with
  | nil => rfl
  | cons c spaces ih =>
    obtain ⟨blank, blanks⟩ := List.forall_mem_cons.mp blanks
    rw [List.cons_append, tokens?_space blank, ih blanks]

variable {text rest : List Char} {fields : List (Option String × Json)} {j : Json}

/-- The tokens of an object are cut off whatever follows it. -/
theorem tokens?_object_append (h : Spells text (.object fields)) (rest : List Char) :
    tokens? (text ++ rest) = (tokens? rest).map (tokensOf (.object fields) ++ ·) := by
  obtain ⟨front, last⟩ := exists_tokensOf_object fields
  obtain ⟨before, spaces, rfl, spelled, blanks⟩ := SpellsTokens.closing h last
  have ends : EndsNumeral ('}' :: (spaces ++ rest)) := by
    intro c first
    cases first
    decide
  rw [List.append_assoc, List.cons_append, tokens?_append spelled ends,
    tokens?_token rfl (token_mark rfl _), tokens?_spaces blanks, last, Option.map_map]
  simp [Function.comp_def]

/-- Nothing but blanks can follow an object. -/
theorem isSpace_of_object_append (h : ofText? text = some (.object fields))
    (whole : ofText? (text ++ rest) = some j) : ∀ c ∈ rest, isSpace c = true := by
  obtain ⟨tokens, cut, read⟩ := Option.bind_eq_some_iff.mp whole
  rw [tokens?_object_append (ofText?_eq_some_iff.mp h)] at cut
  obtain ⟨more, later, rfl⟩ := Option.map_eq_some_iff.mp cut
  -- behind a value that nothing contains there is no step for any token
  have nothing : more = [] := by
    rw [ofTokens?, foldlM_value] at read
    cases more with
    | nil => rfl
    | cons => cases read
  rw [nothing] at later
  exact isSpace_of_spells_nil (spells_of_tokens? later)

/-- The text of an object ends with a closing brace, or with a blank behind it. -/
theorem last_of_object {c : Char} (h : ofText? (text ++ [c]) = some (.object fields)) :
    c = '}' ∨ isSpace c = true := by
  obtain ⟨front, last⟩ := exists_tokensOf_object fields
  obtain ⟨before, spaces, parts, -, blanks⟩ :=
    SpellsTokens.closing (ofText?_eq_some_iff.mp h) last
  rcases List.eq_nil_or_concat spaces with rfl | ⟨spaces, d, rfl⟩
  · obtain ⟨-, same⟩ := List.append_inj' parts rfl
    exact .inl (List.singleton_inj.mp same)
  · rw [List.concat_eq_append, ← List.cons_append, ← List.append_assoc] at parts
    obtain ⟨-, same⟩ := List.append_inj' parts rfl
    rw [List.singleton_inj.mp same]
    exact .inr (blanks d (by simp))

theorem eq_brace_of_object {c : Char} (ink : isSpace c = false)
    (h : ofText? (c :: rest) = some (.object fields)) : c = '{' := by
  obtain ⟨more, starts⟩ : ∃ more, tokensOf (.object fields) = .openBrace :: more := by
    cases fields <;> exact ⟨_, rfl⟩
  obtain ⟨tokens, cut, read⟩ := Option.bind_eq_some_iff.mp h
  rw [tokensOf_of_ofTokens? read, starts] at cut
  have spelled := spells_of_tokens? cut
  generalize text_eq : c :: rest = text, tokens_eq : .openBrace :: more = tokens at spelled
  cases spelled with
  | nil => cases text_eq
  | space blank =>
    cases text_eq
    rw [blank] at ink
    cases ink
  | mark marks =>
    cases text_eq
    cases tokens_eq
    unfold punctuation? at marks
    split at marks <;> first | rfl | cases marks
  | word means =>
    cases tokens_eq
    unfold word? at means
    split at means <;> cases means
  | string | number => cases tokens_eq

/-- An object starts with its opening brace, but for spaces. -/
theorem exists_brace_of_object (h : ofText? text = some (.object fields)) :
    ∃ spaces rest, text = spaces ++ '{' :: rest ∧ (∀ c ∈ spaces, isSpace c = true) ∧
      ofText? ('{' :: rest) = some (.object fields) := by
  induction text with
  | nil =>
    rw [ofText?, tokens?] at h
    cases h
  | cons c text ih =>
    by_cases space : isSpace c = true
    · rw [ofText?, tokens?_space space, ← ofText?] at h
      obtain ⟨spaces, rest, rfl, blanks, read⟩ := ih h
      exact ⟨c :: spaces, rest, rfl, List.forall_mem_cons.mpr ⟨space, blanks⟩, read⟩
    · obtain rfl := eq_brace_of_object (by simpa using space) h
      exact ⟨[], text, rfl, by simp, h⟩

/-- Blanks around an object may be left out. -/
theorem ofText?_trim (h : ofText? text = some (.object fields)) :
    ofText? (trim text) = some (.object fields) := by
  obtain ⟨spaces, rest, rfl, blanks, read⟩ := exists_brace_of_object h
  rw [trim_blank_append fun c mem => isBlank_of_isSpace (blanks c mem),
    trim_cons_ink (by decide)]
  obtain ⟨front, last⟩ := exists_tokensOf_object fields
  obtain ⟨before, spaces, parts, spelled, blanks⟩ :=
    SpellsTokens.closing (ofText?_eq_some_iff.mp read) last
  have ends : EndsNumeral ['}'] := by
    intro c first
    cases first
    decide
  rw [parts, List.append_cons,
    trimRight_append_blank fun c mem => isBlank_of_isSpace (blanks c mem),
    trimRight_append_ink (by decide)]
  have cut : tokens? (before ++ ['}']) = some (tokensOf (.object fields)) := by
    rw [tokens?_append spelled ends, tokens?_token rfl (token_mark rfl _), tokens?, last]
    rfl
  exact ofText?_eq_some_iff.mpr (spells_of_tokens? cut)

/-- What starts with a brace can only be an object. -/
theorem object_of_brace (h : ofText? ('{' :: rest) = some j) : ∃ fields, j = .object fields := by
  obtain ⟨tokens, cut, read⟩ := Option.bind_eq_some_iff.mp h
  rw [tokens?_token rfl (token_mark rfl _)] at cut
  obtain ⟨more, -, starts⟩ := Option.map_eq_some_iff.mp cut
  rw [tokensOf_of_ofTokens? read] at starts
  cases j with
  | object fields => exact ⟨fields, rfl⟩
  | array items => cases items <;> cases starts
  | null | bool | number | string => cases starts

/-- An object does not go on as something else that has no blank at its end. -/
theorem eq_of_object_append (h : ofText? text = some (.object fields))
    (whole : ofText? (text ++ rest) = some j) (trimmed : trimRight (text ++ rest) = text ++ rest) :
    rest = [] := by
  have blank : ∀ c ∈ rest, isBlank c = true := fun c mem =>
    isBlank_of_isSpace (isSpace_of_object_append h whole c mem)
  rw [trimRight_append_blank blank] at trimmed
  obtain ⟨blanks, parts, -⟩ := exists_trimRight_append text
  have lengths := congrArg List.length trimmed
  have total := congrArg List.length parts
  simp only [List.length_append] at lengths total
  exact List.length_eq_zero_iff.mp (by omega)

/-- A broken character alone, or nothing at all, is no value. -/
theorem ofText?_broken {tail : List Char} (broken : tail = [] ∨ tail = ['\uFFFD']) :
    ofText? (trim tail) = none := by
  rcases broken with rfl | rfl
  · rw [trim_nil, ofText?, tokens?]
    rfl
  · have kept : trim ['\uFFFD'] = ['\uFFFD'] := by decide
    have none : token '\uFFFD' [] = none := by decide
    rw [kept, ofText?, tokens?, if_neg (by decide)]
    split
    · rfl
    · next found =>
      rw [none] at found
      cases found

/-- Where a text is cut, perhaps within a character, what is left of it reads as something
only if no more than blanks are lost. -/
theorem trim_eq_of_cut {text cut tail : List Char}
    (whole : ofText? (trim text) = some (.object fields)) (part : cut <+: text)
    (broken : tail = [] ∨ tail = ['\uFFFD']) (read : ofText? (trim (cut ++ tail)) = some j) :
    trim (cut ++ tail) = trim text := by
  obtain ⟨lost, rfl⟩ := part
  by_cases blank : ∀ c ∈ cut, isBlank c = true
  · rw [trim_blank_append blank, ofText?_broken broken] at read
    cases read
  obtain ⟨blanks, c, more, rfl, blank, ink⟩ := exists_ink blank
  simp only [List.append_assoc, List.cons_append, trim_blank_append blank, trim_cons_ink ink]
    at whole read ⊢
  have no_space : isSpace c = false := by
    cases space : isSpace c with
    | false => rfl
    | true => rw [← ink, isBlank_of_isSpace space]
  obtain ⟨inside, starts⟩ := trimRight_cons_ink ink (more ++ lost)
  rw [starts] at whole
  obtain rfl := eq_brace_of_object no_space whole
  rw [← starts] at whole
  obtain ⟨inside, starts⟩ := trimRight_cons_ink ink (more ++ tail)
  rw [starts] at read
  obtain ⟨kept, rfl⟩ := object_of_brace read
  rw [← starts] at read
  rcases broken with rfl | rfl
  · rw [List.append_nil] at read ⊢
    have left : trimRight ('{' :: more) <+: '{' :: (more ++ lost) :=
      (prefix_trimRight _).trans (List.prefix_append ('{' :: more) lost)
    -- one of the two objects is a beginning of the other
    rcases List.prefix_or_prefix_of_prefix left (prefix_trimRight _) with
      ⟨rest, same⟩ | ⟨rest, same⟩
    · rw [← same] at whole ⊢
      rw [eq_of_object_append read whole (by rw [same, trimRight_trimRight]), List.append_nil]
    · rw [← same] at read ⊢
      rw [eq_of_object_append whole read (by rw [same, trimRight_trimRight]), List.append_nil]
  · rw [← List.cons_append, trimRight_append_ink (by decide)] at read
    rcases last_of_object read with brace | space
    · cases brace
    · cases space

end Mender.Json
